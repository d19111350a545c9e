import CsiOperator.Json
import CsiOperator.Text.Quoted
/-!
Compact JSON text: no blanks, members in the value's own order. A string escapes the quote,
the backslash and every control character below U+0020 (`\b`, `\f`, `\n`, `\r`, `\t`, else
`\u00xx` in lowercase hex); all other characters are written as they are. This text is what the
spec fingerprint is taken of, so it must not vary.
-/

namespace CsiOperator.Json

/-- The escaped form of one character inside a JSON string. -/
def escapeChar (c : Char) : String :=
  if c = '"' then "\\\""
  else if c = '\\' then "\\\\"
  else if c = '\n' then "\\n"
  else if c = '\r' then "\\r"
  else if c = '\t' then "\\t"
  else if c.toNat = 8 then "\\b"
  else if c.toNat = 12 then "\\f"
  else if c.toNat < 0x20 then
    let h := Text.hexDigits c.toNat
    "\\u" ++ String.ofList (List.replicate (4 - h.length) '0') ++ h
  else c.toString

/-- A JSON string literal. -/
def quote (s : String) : String := "\"" ++ String.join (s.toList.map escapeChar) ++ "\""

/-- The digits of a decimal number `±m · 10^e`, with a point when it is not whole. -/
def decimalText (negative : Bool) (m : Nat) (e : Int) : String :=
  let sign := if negative then "-" else ""
  let digits := toString m
  if e ≥ 0 then sign ++ digits ++ String.ofList (List.replicate e.toNat '0') ++ ".0"
  else
    let k := e.natAbs
    let padded := List.replicate (k + 1 - min (k + 1) digits.length) '0' ++ digits.toList
    let whole := padded.take (padded.length - k)
    let frac := ((padded.drop (padded.length - k)).reverse.dropWhile (· = '0')).reverse
    sign ++ String.ofList whole ++ "." ++ (if frac.isEmpty then "0" else String.ofList frac)

mutual
/-- The compact text of a value. -/
def compact : Json → String
  | .null => "null"
  | .bool b => if b then "true" else "false"
  | .int n => toString n
  | .num n m e => decimalText n m e
  | .str s => quote s
  | .arr xs => "[" ++ compactItems xs ++ "]"
  | .obj ms => "\x7b" ++ compactMembers ms ++ "\x7d"

/-- The items of an array, comma separated. -/
def compactItems : List Json → String
  | [] => ""
  | [x] => compact x
  | x :: xs => compact x ++ "," ++ compactItems xs

/-- The members of an object, comma separated. -/
def compactMembers : List (String × Json) → String
  | [] => ""
  | [(k, v)] => quote k ++ ":" ++ compact v
  | (k, v) :: ms => quote k ++ ":" ++ compact v ++ "," ++ compactMembers ms
end

end CsiOperator.Json
