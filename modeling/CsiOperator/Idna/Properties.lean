import CsiOperator.Text.Ranges
import CsiOperator.Idna.MappingData
import CsiOperator.Idna.CharData
/-!
The properties of code points that IDNA processing consults, read once from the text tables:
the IDNA status and mapping, the canonical combining class, the canonical decomposition and
composition, whether a code point is a mark, its bidi class, and its joining type.
-/

namespace CsiOperator.Idna

open CsiOperator.Text

/-- The status of a code point in the IDNA mapping table. -/
inductive Status where
  /-- Kept as it is. -/
  | valid
  /-- Kept by nontransitional processing, which this is. -/
  | deviation
  /-- Dropped. -/
  | ignored
  /-- Refused: a domain holding it is invalid. -/
  | disallowed
  /-- Replaced by the code points given. -/
  | mapped (image : List Char)
deriving DecidableEq, Repr, Inhabited

/-- The code points of a list of hexadecimal numerals separated by blanks. -/
def codePoints (s : String) : List Char :=
  ((s.splitOn " ").filter (!·.isEmpty)).map fun h => Char.ofNat (hexValue h)

/-- Reads a status as the mapping table writes it. -/
def readStatus (s : String) : Status :=
  match s.toList with
  | 'V' :: _ => .valid
  | 'D' :: _ => .deviation
  | 'I' :: _ => .ignored
  | 'M' :: rest => .mapped (codePoints (String.ofList rest))
  | _ => .disallowed

/-- The mapping table. -/
def mappingSpans : Array (Span Status) := readSpans readStatus mappingText

/-- The IDNA status of a code point. -/
def status (c : Char) : Status := ((findSpan mappingSpans c.toNat).map (·.value)).getD .disallowed

/-- Whether a code point may stand in a label as it is: valid, or a deviation. -/
def Status.keeps : Status → Bool
  | .valid | .deviation => true
  | _ => false

/-- The table of nonzero combining classes. -/
def combiningSpans : Array (Span Nat) := readSpans (fun v => v.toNat?.getD 0) combiningText

/-- The canonical combining class of a code point. -/
def combiningClass (c : Char) : Nat := ((findSpan combiningSpans c.toNat).map (·.value)).getD 0

/-- A canonical decomposition, one level deep, and whether canonical composition forms the
code point again from it. -/
structure Decomposition where
  parts : List Char
  primary : Bool
deriving DecidableEq, Repr, Inhabited

/-- Reads a decomposition as its table writes it. -/
def readDecomposition (s : String) : Decomposition :=
  if s.startsWith "*" then { parts := codePoints (s.drop 1).toString, primary := true }
  else { parts := codePoints s, primary := false }

/-- The table of canonical decompositions. -/
def decompositionSpans : Array (Span Decomposition) := readSpans readDecomposition decompositionText

/-- The canonical decomposition of a code point, one level deep, if it has one. -/
def decompositionOf (c : Char) : Option Decomposition := (findSpan decompositionSpans c.toNat).map (·.value)

/-- The key under which a pair of code points is looked up. -/
def pairKey (a b : Char) : Nat := a.toNat * 0x110000 + b.toNat

/-- The primary composites, by the key of the pair they are composed from, sorted. -/
def compositionSpans : Array (Span Char) :=
  let pairs := decompositionSpans.toList.filterMap fun s =>
    match s.value.primary, s.value.parts with
    | true, [a, b] => some ({ lo := pairKey a b, hi := pairKey a b, value := Char.ofNat s.lo } : Span Char)
    | _, _ => none
  (pairs.mergeSort fun x y => x.lo ≤ y.lo).toArray

/-- The primary composite canonical composition forms from two code points, if any. -/
def composite? (a b : Char) : Option Char := (findSpan compositionSpans (pairKey a b)).map (·.value)

/-- The table of marks. -/
def markSpans : Array (Span Unit) := readSpans (fun _ => ()) markText

/-- Whether a code point is a mark (general category Mn, Mc or Me). -/
def isMark (c : Char) : Bool := inSpans markSpans c.toNat

/-- The bidi classes that the bidi rule tells apart; the rest are `other`. -/
inductive BidiClass where
  | L | R | AL | AN | EN | ES | CS | ET | ON | BN | NSM | other
deriving DecidableEq, Repr, Inhabited

/-- Reads a bidi class by its short name. -/
def readBidi (s : String) : BidiClass :=
  match s with
  | "L" => .L | "R" => .R | "AL" => .AL | "AN" => .AN | "EN" => .EN | "ES" => .ES
  | "CS" => .CS | "ET" => .ET | "ON" => .ON | "BN" => .BN | "NSM" => .NSM
  | _ => .other

/-- The table of bidi classes other than L. -/
def bidiSpans : Array (Span BidiClass) := readSpans readBidi bidiText

/-- The bidi class of a code point. -/
def bidiClass (c : Char) : BidiClass := ((findSpan bidiSpans c.toNat).map (·.value)).getD .L

/-- The joining types of cursive scripts. -/
inductive JoiningType where
  | causing | dual | left | right | transparent
deriving DecidableEq, Repr, Inhabited

/-- Reads a joining type by its letter. -/
def readJoining (s : String) : JoiningType :=
  match s with
  | "C" => .causing | "D" => .dual | "L" => .left | "R" => .right
  | _ => .transparent

/-- The table of joining types. -/
def joiningSpans : Array (Span JoiningType) := readSpans readJoining joiningText

/-- The joining type of a code point; none for one that does not join. -/
def joiningType (c : Char) : Option JoiningType := (findSpan joiningSpans c.toNat).map (·.value)

end CsiOperator.Idna
