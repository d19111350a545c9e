import CsiOperator.Json.Decode
import CsiOperator.Number.Shortest
/-!
What an untagged plain YAML scalar stands for: null (empty, `~`, `null`), a boolean
(`true`/`false` in three spellings), an integer (decimal, or `0x`, `0o`, `0b` with an
optional sign), a floating-point number, or else a string. Digits with a leading zero, such
as `0123`, stay a string.

The same resolution decides how a string is written as YAML: a string that would read back as
something else is quoted.
-/

namespace CsiOperator.Yaml

/-- What a plain scalar stands for. -/
inductive Resolved where
  | null
  | bool (b : Bool)
  /-- An integer within 64 bits (unsigned, or negative and signed). -/
  | int (n : Int)
  /-- An integer that needs 128 bits; `signed` tells which kind of integer holds it. -/
  | wideInt (n : Int) (signed : Bool)
  /-- A finite floating-point number, with its shortest text. -/
  | float (text : String)
  | str
deriving DecidableEq, Repr, Inhabited

/-- Whether a text is digits with a leading zero, after an optional sign. -/
def digitsButNotNumber (s : String) : Bool :=
  let cs := match s.toList with
    | '-' :: r | '+' :: r => r
    | r => r
  cs.length > 1 && cs.head? == some '0' && cs.all Char.isDigit

/-- The value of digits in a radix, if all are digits of it and there is one. -/
def radixValue (radix : Nat) (cs : List Char) : Option Nat :=
  let digit (c : Char) : Option Nat :=
    let v := if c.isDigit then some (c.toNat - '0'.toNat)
      else if 'a' ≤ c ∧ c ≤ 'z' then some (c.toNat - 'a'.toNat + 10)
      else if 'A' ≤ c ∧ c ≤ 'Z' then some (c.toNat - 'A'.toNat + 10)
      else none
    v.bind fun d => if d < radix then some d else none
  if cs.isEmpty then none
  else cs.foldlM (fun n c => (digit c).map (n * radix + ·)) 0

/-- Reads an integer of a radix as the integer parsers of a typed language do: an optional
sign (`-` only when `signed`), then digits. -/
def parseRadix (radix : Nat) (signed : Bool) (cs : List Char) : Option Int :=
  match cs with
  | '+' :: rest => (radixValue radix rest).map Int.ofNat
  | '-' :: rest => if signed then (radixValue radix rest).map fun n => -(n : Int) else none
  | rest => (radixValue radix rest).map Int.ofNat

/-- Reads a non-negative integer, with an optional `+` and radix prefix. -/
def unsignedInt (s : String) : Option Nat :=
  let cs := s.toList
  let unpositive := match cs with
    | '+' :: r => r
    | r => r
  let prefixed (p : Char) (radix : Nat) : Option (Option Nat) :=
    match unpositive with
    | '0' :: c :: rest =>
      if c == p then
        if rest.head? == some '+' || rest.head? == some '-' then some none
        else match parseRadix radix false rest with
          | some n => some (some n.toNat)
          | none => none
      else none
    | _ => none
  match prefixed 'x' 16 with
  | some r => r
  | none =>
    match prefixed 'o' 8 with
    | some r => r
    | none =>
      match prefixed 'b' 2 with
      | some r => r
      | none =>
        if unpositive.head? == some '+' || unpositive.head? == some '-' then none
        else if digitsButNotNumber s then none
        else (parseRadix 10 false unpositive).map Int.toNat

/-- Reads a negative integer, with an optional radix prefix after the sign. -/
def negativeInt (s : String) : Option Int :=
  let cs := s.toList
  let prefixed (p : Char) (radix : Nat) : Option Int :=
    match cs with
    | '-' :: '0' :: c :: rest => if c == p then parseRadix radix true ('-' :: rest) else none
    | _ => none
  match prefixed 'x' 16 <|> prefixed 'o' 8 <|> prefixed 'b' 2 with
  | some n => some n
  | none =>
    if digitsButNotNumber s then none
    else match parseRadix 10 true cs with
      | some n => some n
      | none => none

/-- The integer a plain scalar stands for, as 64-bit or 128-bit. -/
def resolveInt (s : String) : Option Resolved :=
  let u64 : Nat := 18446744073709551615
  let u128 : Nat := Nat.pow 2 128 - 1
  match unsignedInt s with
  | some n =>
    if n ≤ u64 then some (.int n) else if n ≤ u128 then some (.wideInt n false) else none
  | none =>
    match negativeInt s with
    | some n =>
      if n ≥ -9223372036854775808 then some (.int n)
      else if n ≥ -(Nat.pow 2 127) then some (.wideInt n true) else none
    | none => none

/-- The digits and decimal exponent of a decimal floating-point text: the value is
`digits · 10 ^ exponent`. Accepts digits with an optional point and an optional exponent. -/
def decimalParts (cs : List Char) : Option (Nat × Int) :=
  let intPart := cs.takeWhile Char.isDigit
  let rest := cs.dropWhile Char.isDigit
  let (fracPart, rest) := match rest with
    | '.' :: r => (r.takeWhile Char.isDigit, r.dropWhile Char.isDigit)
    | r => ([], r)
  if intPart.isEmpty && fracPart.isEmpty then none
  else
    let expPart : Option Int := match rest with
      | [] => some 0
      | c :: r =>
        if c == 'e' || c == 'E' then
          match r with
          | '+' :: ds => (radixValue 10 ds).map Int.ofNat
          | '-' :: ds => (radixValue 10 ds).map fun n => -(n : Int)
          | ds => (radixValue 10 ds).map Int.ofNat
        else none
    expPart.map fun e =>
      ((radixValue 10 (intPart ++ fracPart)).getD 0, e - fracPart.length)

/-- The text of the finite double nearest to a decimal floating-point text, if it has one:
an optional sign, digits with an optional point, and an optional exponent. -/
def floatText? (s : String) : Option String :=
  let cs := s.toList
  let (neg, body) := match cs with
    | '-' :: r => (true, r)
    | '+' :: r => (false, r)
    | r => (false, r)
  (decimalParts body).bind fun (digits, exponent) =>
    match Binary64.ofDecimal neg digits exponent with
    | .infinite _ => none
    | x => some x.plainText

/-- The floating-point number a plain scalar stands for, as serialized text. -/
def resolveFloat (s : String) : Option String :=
  let unpositive := match s.toList with
    | '+' :: r => if r.head? == some '+' || r.head? == some '-' then none else some (String.ofList r)
    | _ => some s
  unpositive.bind fun u =>
    if u == ".inf" || u == ".Inf" || u == ".INF" then some "inf"
    else if s == "-.inf" || s == "-.Inf" || s == "-.INF" then some "-inf"
    else if s == ".nan" || s == ".NaN" || s == ".NAN" then some "NaN"
    else floatText? u

/-- What an untagged plain scalar stands for. -/
def resolvePlain (s : String) : Resolved :=
  if s.isEmpty || s == "~" || s == "null" || s == "Null" || s == "NULL" then .null
  else if s == "true" || s == "True" || s == "TRUE" then .bool true
  else if s == "false" || s == "False" || s == "FALSE" then .bool false
  else match resolveInt s with
    | some r => r
    | none =>
      if digitsButNotNumber s then .str
      else match resolveFloat s with
        | some t => .float t
        | none => .str

/-- How a plain scalar is described when a reader refuses it. -/
def Resolved.unexpected (text : String) : Resolved → Unexpected
  | .null => .unit
  | .bool b => .bool b
  | .int n => .int n
  | .wideInt n signed => .other ("integer `" ++ toString n ++ "` as " ++ if signed then "i128" else "u128")
  | .float t => .float t
  | .str => .str text

end CsiOperator.Yaml
