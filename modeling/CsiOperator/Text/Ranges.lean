/-!
Tables of code point ranges, written compactly as text and read once.

A table is a sorted list of disjoint ranges of code points, each with a value. Its text lists the
ranges as hexadecimal bounds `lo-hi`, or single points `lo`, separated by commas; in a table
with values each range is followed by `:` and its value. Looking a code point up finds its range
by halving the table.
-/

namespace CsiOperator.Text

/-- A range of code points, both ends included, with a value. -/
structure Span (α : Type) where
  lo : Nat
  hi : Nat
  value : α
deriving Repr, Inhabited

/-- The value of a hexadecimal numeral; characters that are no hexadecimal digit count as zero. -/
def hexValue (s : String) : Nat :=
  s.foldl (fun n c =>
    n * 16 + (if c.isDigit then c.toNat - 48
      else if 'a' ≤ c && c ≤ 'f' then c.toNat - 87
      else if 'A' ≤ c && c ≤ 'F' then c.toNat - 55 else 0)) 0

/-- One entry of a table's text: its range and the text of its value. -/
def readEntry (entry : String) : Nat × Nat × String :=
  let (range, value) := match entry.splitOn ":" with
    | r :: v :: _ => (r, v)
    | r :: [] => (r, "")
    | [] => ("", "")
  match range.splitOn "-" with
  | [a, b] => (hexValue a, hexValue b, value)
  | _ => (hexValue range, hexValue range, value)

/-- Reads a table's text, each value read by `value` from the text after its range's colon. -/
def readSpans {α : Type} (value : String → α) (text : String) : Array (Span α) :=
  ((text.splitOn ",").filter (!·.isEmpty)).toArray.map fun e =>
    let (lo, hi, v) := readEntry e
    { lo, hi, value := value v }

/-- The range holding a code point, found by halving the sorted table. -/
def findSpan {α : Type} (spans : Array (Span α)) (c : Nat) : Option (Span α) :=
  let rec go (lo hi : Nat) : Option (Span α) :=
    if _h : lo < hi then
      let mid := (lo + hi) / 2
      match spans[mid]? with
      | some s =>
        if c < s.lo then go lo mid
        else if c ≤ s.hi then some s
        else go (mid + 1) hi
      | none => none
    else none
  termination_by hi - lo
  go 0 spans.size

/-- Whether a code point lies in one of the ranges of a table. -/
def inSpans {α : Type} (spans : Array (Span α)) (c : Nat) : Bool := (findSpan spans c).isSome

end CsiOperator.Text
