import CsiOperator.Yaml.Resolve
import CsiOperator.Json.Write
/-!
Writing documents as YAML in block style, with two-space indentation and no line folding.

Sequences inside a mapping are not indented further than their key. Empty collections are
written `{}` and `[]`. A string that would read back as something else (a number, a
boolean, null, or digits with a leading zero) is single-quoted; a string with a line break is
written as a literal block; otherwise the plain form is used when it reads back unchanged,
then the single-quoted form, then the double-quoted form with escapes.
-/

namespace CsiOperator.Yaml.Emit

/-- Whether the writer lets a character stand in a scalar as it is: the line feed, printable
ASCII, and every character from the no-break space on but for surrogates, the byte order mark
and the two non-characters at the end of the first plane. The next line character is
escaped. -/
def printable (c : Char) : Bool :=
  let n := c.toNat
  n == 0x0A || (0x20 ≤ n ∧ n ≤ 0x7E) || (0xA0 ≤ n ∧ n ≤ 0xD7FF) ||
    (0xE000 ≤ n ∧ n ≤ 0xFFFD ∧ n != 0xFEFF) || 0x10000 ≤ n

/-- Whether a character breaks a line. -/
def isBreak (c : Char) : Bool :=
  c == '\n' || c == '\r' || c.toNat == 0x85 || c.toNat == 0x2028 || c.toNat == 0x2029

/-- Whether a character is blank: a space, a tab or a line break. -/
def isBlank (c : Char) : Bool := c == ' ' || c == '\t' || isBreak c

/-- Which styles can write a scalar in block context. -/
structure Allowed where
  plain : Bool
  singleQuoted : Bool
  block : Bool
deriving Repr

/-- Which styles can write a text in block context. -/
def analyze (s : String) : Allowed :=
  let cs := s.toList
  if cs.isEmpty then { plain := true, singleQuoted := true, block := false }
  else
    let n := cs.length
    let arr := cs.toArray
    let at? (i : Nat) : Option Char := arr[i]?
    let blankOrEnd (i : Nat) : Bool := (at? i).all isBlank
    let documentMarker := s.startsWith "---" || s.startsWith "..."
    let step := fun (acc : Bool × Bool × Bool × Bool × Bool × Bool × Bool × Bool) (i : Nat) =>
      let (blockInd, special, lineBreaks, leading, trailing, breakSpace, spaceBreak, prev) := acc
      let c := arr[i]!
      let followed := blankOrEnd (i + 1)
      let precededByBlank := i == 0 || isBlank arr[i - 1]!
      let blockInd := blockInd ||
        (if i == 0 then
          "#,[]{}&*!|>'\"%@`".toList.contains c || ((c == '?' || c == ':') && followed) ||
            (c == '-' && followed)
        else (c == ':' && followed) || (c == '#' && precededByBlank))
      let special := special || !printable c
      let lineBreaks := lineBreaks || isBreak c
      -- prev: 0 none, 1 space, 2 break; encoded with two flags below
      let (prevSpace, prevBreak) := (prev, !prev && i > 0 && isBreak arr[i - 1]!)
      let leading := leading || (i == 0 && (c == ' ' || isBreak c))
      let trailing := trailing || (i + 1 == n && (c == ' ' || isBreak c))
      let breakSpace := breakSpace || (c == ' ' && prevBreak)
      let spaceBreak := spaceBreak || (isBreak c && prevSpace)
      (blockInd, special, lineBreaks, leading, trailing, breakSpace, spaceBreak, c == ' ')
    let (blockInd, special, lineBreaks, leading, trailing, breakSpace, spaceBreak, _) :=
      (List.range n).foldl step (documentMarker, false, false, false, false, false, false, false)
    let plain := !(leading || trailing || breakSpace || spaceBreak || special || lineBreaks || blockInd)
    let singleQuoted := !(breakSpace || spaceBreak || special)
    let block := !(cs.getLast? == some ' ' || spaceBreak || special)
    { plain, singleQuoted, block }

/-- A text single-quoted, its quotes doubled. A line break stands as it is, and the next line
of the scalar, or its closing quote, is indented by `indent`. -/
def singleQuote (s : String) (indent : Nat) : String :=
  let step := fun (acc : String × Bool) (c : Char) =>
    let (out, afterBreak) := acc
    if isBreak c then (out.push c, true)
    else
      let out := if afterBreak then out ++ String.ofList (List.replicate indent ' ') else out
      ((if c.toNat == 39 then out ++ "''" else out.push c), false)
  let (body, afterBreak) := s.toList.foldl step ("", false)
  "'" ++ body ++ (if afterBreak then String.ofList (List.replicate indent ' ') else "") ++ "'"

/-- A text double-quoted, with escapes for what cannot stand as it is. -/
def doubleQuote (s : String) : String :=
  let hex (n width : Nat) : String :=
    let ds := Nat.toDigits 16 n |>.map Char.toUpper
    String.ofList (List.replicate (width - min width ds.length) '0' ++ ds)
  let esc (c : Char) : String :=
    let n := c.toNat
    if printable c && n != 0xFEFF && !isBreak c && c != '"' && c != '\\' then c.toString
    else if c == '"' then "\\\"" else if c == '\\' then "\\\\"
    else if n == 0 then "\\0" else if n == 7 then "\\a" else if n == 8 then "\\b"
    else if n == 9 then "\\t" else if n == 10 then "\\n" else if n == 11 then "\\v"
    else if n == 12 then "\\f" else if n == 13 then "\\r" else if n == 0x1B then "\\e"
    else if n == 0x85 then "\\N" else if n == 0xA0 then "\\_" else if n == 0x2028 then "\\L"
    else if n == 0x2029 then "\\P"
    else if n ≤ 0xFF then "\\x" ++ hex n 2 else if n ≤ 0xFFFF then "\\u" ++ hex n 4 else "\\U" ++ hex n 8
  "\"" ++ String.join (s.toList.map esc) ++ "\""

/-- A literal block of a multi-line text, its lines indented by `indent`. -/
def literal (s : String) (indent : Nat) : String :=
  let cs := s.toList
  let chomp := match cs.reverse with
    | [] => "-"
    | c :: rest =>
      if !isBreak c then "-"
      else match rest with
        | [] => "+"
        | d :: _ => if isBreak d then "+" else ""
  let indicator := match cs.head? with
    | some c => if c == ' ' || isBreak c then "2" else ""
    | none => ""
  let body := if cs.getLast? == some '\n' then cs.dropLast else cs
  let step := fun (acc : String × Bool) (c : Char) =>
    let (out, afterBreak) := acc
    if isBreak c then (out.push c, true)
    else ((if afterBreak then out ++ String.ofList (List.replicate indent ' ') else out).push c, false)
  "|" ++ indicator ++ chomp ++ (body.foldl step ("\n", true)).1

/-- Whether a plain text would read back as something other than a text, or is digits with a
leading zero, which some readers take for a number. -/
def readsAsOther (s : String) : Bool :=
  digitsButNotNumber s ||
  match resolvePlain s with
  | .str => false
  | _ => true

/-- How a text is written as a scalar whose block lines are indented by `indent`. -/
def stringScalar (s : String) (indent : Nat) : String :=
  if s.toList.contains '\n' then
    let a := analyze s
    if a.block then literal s indent else doubleQuote s
  else
    let a := analyze s
    if readsAsOther s || s.isEmpty then
      if a.singleQuoted then singleQuote s indent else doubleQuote s
    else if a.plain then s
    else if a.singleQuoted then singleQuote s indent
    else doubleQuote s

/-- The text of a scalar value. -/
def scalar (j : Json) (indent : Nat) : String :=
  match j with
  | .null => "null"
  | .bool b => if b then "true" else "false"
  | .int n => toString n
  | .num n m e => Json.decimalText n m e
  | .str s => stringScalar s indent
  | _ => ""

/-- Spaces of an indentation. -/
def pad (n : Nat) : String := String.ofList (List.replicate n ' ')

mutual

/-- Writes the entries of a mapping at an indentation; `inline` when the first entry follows
a sequence dash on the same line. -/
def mapping (ms : List (String × Json)) (indent : Nat) (inline : Bool) : String :=
  match ms with
  | [] => ""
  | (k, v) :: rest =>
    (if inline then "" else pad indent) ++ stringScalar k (indent + 2) ++ ":" ++ mapValue v indent ++
      mapping rest indent false

/-- Writes the value of a mapping entry whose key is at an indentation. -/
def mapValue (v : Json) (indent : Nat) : String :=
  match v with
  | .obj [] => " {}\n"
  | .arr [] => " []\n"
  | .obj ms => "\n" ++ mapping ms (indent + 2) false
  | .arr xs => "\n" ++ sequence xs indent false
  | s => " " ++ scalar s (indent + 2) ++ "\n"

/-- Writes the items of a sequence at an indentation. -/
def sequence (xs : List Json) (indent : Nat) (inline : Bool) : String :=
  match xs with
  | [] => ""
  | x :: rest =>
    (if inline then "" else pad indent) ++ "-" ++ item x indent ++ sequence rest indent false

/-- Writes one item of a sequence whose dash is at an indentation. -/
def item (x : Json) (indent : Nat) : String :=
  match x with
  | .obj [] => " {}\n"
  | .arr [] => " []\n"
  | .obj ms => " " ++ mapping ms (indent + 2) true
  | .arr xs => " " ++ sequence xs (indent + 2) true
  | s => " " ++ scalar s (indent + 2) ++ "\n"

end

/-- Writes a document. -/
def document (j : Json) : String :=
  match j with
  | .obj [] => "{}\n"
  | .arr [] => "[]\n"
  | .obj ms => mapping ms 0 false
  | .arr xs => sequence xs 0 false
  | s => scalar s 2 ++ "\n"

end CsiOperator.Yaml.Emit
