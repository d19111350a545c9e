import CsiOperator.Json.Decode
import CsiOperator.Number.Shortest
/-!
Reading JSON text straight into a typed value, one byte at a time, the way a streaming reader
does: each part of the text is read as the type expected there, and the first failure met in
the text is the one reported, with its line and column.

What is expected at a point is a `Form`: a text, a boolean, a bounded integer, a value of any
kind, a list, a map, an enumeration of plain names, or a record. Records come in two kinds.
A declared record also reads from a list of its members' values in order, refuses a repeated
member, and requires the members that have no default. An API record reads only from an
object, takes `null` for an absent member, lets a repeated member replace the earlier one,
and requires nothing. Members a record does not know are skipped with a lenient scan that only
checks the brackets, strings and numbers are well formed.

The reader returns the document it read, tidied for a reader of documents: records keep the
members they know, once each, and enumerations given as objects become their name. Numbers
that are not integers become the double they read as: a significand of up to nineteen digits,
scaled by one power of ten from a table of doubles, each step rounded.

A failure is shown at a byte index: where the reader stopped, or one past the byte it looked
at when it refused it. Failures of a whole value, such as a missing member, are shown where the
reader stands after the value's closing bracket.
-/

namespace CsiOperator.JsonText

/-- What a typed reader expects of a JSON value. -/
inductive Form where
  | string
  | bool
  /-- An integer between two bounds, named as its type (`i32`). -/
  | int (lo hi : Int) (name : String)
  /-- An integer that fits 32 bits, or a text. -/
  | intOrString
  /-- A value of any kind, kept whole. -/
  | any
  | list (item : Form)
  /-- An object with values of one form. -/
  | map (value : Form)
  /-- An enumeration of plain names, given as a text or as an object of one name whose value
  is `null`. -/
  | names
  /-- A record: its name as failures show it, each member with its form and whether it has a
  default, and whether it is declared (else an API record). -/
  | record (name : String) (members : List (String × Form × Bool)) (declared : Bool)
deriving Repr, Inhabited

/-- A failure, at the byte index its position is shown for, or not yet placed. -/
inductive Failure where
  | at (message : String) (index : Nat)
  | loose (message : String)
deriving DecidableEq, Repr, Inhabited

/-- A failure placed at an index if it has no place yet. -/
def Failure.fix (i : Nat) : Failure → Failure
  | .loose m => .at m i
  | f => f

/-- A number as the reader classifies it. -/
inductive Num where
  | unsigned (n : Nat)
  | negative (n : Int)
  | double (x : Binary64)
deriving Repr, Inhabited

namespace Num

/-- How a refusing reader describes a number. -/
def unexpected : Num → Unexpected
  | .unsigned n => .int n
  | .negative n => .int n
  | .double x => .float x.jsonText

/-- The document of a number: an integer, or a double by its shortest digits. -/
def toJson : Num → Json
  | .unsigned n => .int n
  | .negative n => .int n
  | .double x =>
    match x with
    | .finite neg m e =>
      if m = 0 then .num neg 0 0
      else
        let (m, e) := Binary64.encodingForm m e
        let (d, k) := Binary64.shortestDigits m e
        .num neg d k
    | .infinite _ => .null

end Num

/-- The largest 64-bit unsigned integer. -/
def u64Max : Nat := 18446744073709551615

/-- The largest 32-bit signed integer, the bound of decimal exponents. -/
def i32Max : Int := 2147483647

/-- The powers of ten a decimal exponent scales by, as doubles: `10^k` for `k ≤ 308`. -/
def powerOfTen (k : Nat) : Binary64 := Binary64.ofDecimal false 1 k

/-- Whether a byte is an ASCII digit. -/
def isDigit (b : UInt8) : Bool := 48 ≤ b && b ≤ 57

/-- Whether a byte is JSON whitespace. -/
def isBlank (b : UInt8) : Bool := b == 32 || b == 9 || b == 10 || b == 13

/-- The value of a hexadecimal digit byte. -/
def hexVal (b : UInt8) : Option Nat :=
  if 48 ≤ b && b ≤ 57 then some (b.toNat - 48)
  else if 97 ≤ b && b ≤ 102 then some (b.toNat - 87)
  else if 65 ≤ b && b ≤ 70 then some (b.toNat - 55)
  else none

/-- Appends the UTF-8 bytes of a code point. -/
def pushCode (acc : ByteArray) (c : Nat) : ByteArray :=
  (String.singleton (Char.ofNat c)).toUTF8.foldl (fun a b => a.push b) acc

/-- A text being read. -/
structure Input where
  src : ByteArray

namespace Input

/-- The byte at an index. -/
def byte? (inp : Input) (i : Nat) : Option UInt8 := inp.src[i]?

/-- The number of bytes. -/
def size (inp : Input) : Nat := inp.src.size

/-- A failure shown one past the byte at `i`, which was looked at and not taken. -/
def peekFail (inp : Input) (message : String) (i : Nat) : Failure := .at message (min (i + 1) inp.size)

/-- The index after the blanks from `i`. -/
def skipWs (inp : Input) (i : Nat) : Nat :=
  if h : i < inp.src.size then
    if isBlank inp.src[i] then inp.skipWs (i + 1) else i
  else i
termination_by inp.src.size - i

/-- The index after the digits from `i`. -/
def skipDigits (inp : Input) (i : Nat) : Nat :=
  if h : i < inp.src.size then
    if isDigit inp.src[i] then inp.skipDigits (i + 1) else i
  else i
termination_by inp.src.size - i

/-- Reads digits from `i` into the significand `s` while it stays within 64 bits: the
significand, the index of the first digit not taken, and whether one was left because it would
not fit. -/
def accumulate (inp : Input) (s i : Nat) : Nat × Nat × Bool :=
  if h : i < inp.src.size then
    let b := inp.src[i]
    if isDigit b then
      let s' := s * 10 + (b.toNat - 48)
      if s' > u64Max then (s, i, true) else inp.accumulate s' (i + 1)
    else (s, i, false)
  else (s, i, false)
termination_by inp.src.size - i

/-- Checks the rest of a keyword from `i`, its first byte taken. -/
def ident (inp : Input) (rest : List UInt8) (i : Nat) : Except Failure Nat :=
  match rest with
  | [] => .ok i
  | c :: cs =>
    match inp.byte? i with
    | none => .error (.at "EOF while parsing a value" i)
    | some b => if b == c then inp.ident cs (i + 1) else .error (.at "expected ident" (i + 1))

/-- The double `s · 10^exponent` as the reader computes it: `s` rounded to a double, then
multiplied or divided by one power of ten, or divided by `10^308` until the rest of the
exponent is in the table or the value is zero. A product beyond the doubles is out of range,
shown at `i`. -/
def fromParts (positive : Bool) (s : Nat) (exponent : Int) (i : Nat) : Except Failure Binary64 :=
  let rec go (fuel : Nat) (f : Binary64) (exponent : Int) : Except Failure Binary64 :=
    match fuel with
    | 0 => .ok f
    | fuel + 1 =>
      if exponent.natAbs ≤ 308 then
        if exponent ≥ 0 then
          match f.mul (powerOfTen exponent.natAbs) with
          | .infinite _ => .error (.at "number out of range" i)
          | g => .ok g
        else .ok (f.div (powerOfTen exponent.natAbs))
      else if f.isZero then .ok f
      else if exponent ≥ 0 then .error (.at "number out of range" i)
      else go fuel (f.div (powerOfTen 308)) (exponent + 308)
  (go 8 (Binary64.ofNat s) exponent).map fun f => if positive then f else f.neg

/-- Reads an exponent whose `e` is at `i`, the significand and decimal exponent so far given. -/
def exponentPart (inp : Input) (positive : Bool) (s : Nat) (e0 : Int) (i : Nat) : Except Failure (Num × Nat) :=
  let k := i + 1
  let (positiveExp, k) := match inp.byte? k with
    | some 43 => (true, k + 1)
    | some 45 => (false, k + 1)
    | _ => (true, k)
  match inp.byte? k with
  | none => .error (.at "EOF while parsing a value" k)
  | some b =>
    if !isDigit b then .error (.at "invalid number" (k + 1))
    else
      let j := inp.skipDigits (k + 1)
      -- the exponent is read while it fits 32 bits; the index after the digit that does not
      let (exp, overflow) := (List.range (j - k)).foldl (fun (acc : Nat × Option Nat) d =>
        match acc with
        | (v, none) =>
          let v' := v * 10 + (((inp.byte? (k + d)).getD 48).toNat - 48)
          if (v' : Int) > i32Max then (v, some (k + d + 1)) else (v', none)
        | done => done) (0, none)
      match overflow with
      | some at1 =>
        if s != 0 && positiveExp then .error (.at "number out of range" at1)
        else .ok (.double (if positive then Binary64.zero else Binary64.zero.neg), j)
      | none =>
        let final := if positiveExp then min (e0 + exp) i32Max else max (e0 - exp) (-i32Max - 1)
        (fromParts positive s final j).map (.double ·, j)

/-- Reads the fraction of a number whose point is at `i`. -/
def fractionPart (inp : Input) (positive : Bool) (s : Nat) (e0 : Int) (i : Nat) : Except Failure (Num × Nat) :=
  let k := i + 1
  let (s', k', overflowed) := inp.accumulate s k
  let e := e0 - (k' - k : Nat)
  if overflowed then
    let j := inp.skipDigits k'
    match inp.byte? j with
    | some 101 | some 69 => inp.exponentPart positive s' e j
    | _ => (fromParts positive s' e j).map (.double ·, j)
  else if k' == k then
    match inp.byte? k' with
    | some _ => .error (inp.peekFail "invalid number" k')
    | none => .error (inp.peekFail "EOF while parsing a value" k')
  else
    match inp.byte? k' with
    | some 101 | some 69 => inp.exponentPart positive s' e k'
    | _ => (fromParts positive s' e k').map (.double ·, k')

/-- Reads a number from its first digit at `i`, its sign already taken when negative. Integers
beyond 64 bits, and negative zero, read as doubles. -/
def number (inp : Input) (positive : Bool) (i : Nat) : Except Failure (Num × Nat) :=
  let after (s j : Nat) : Except Failure (Num × Nat) :=
    match inp.byte? j with
    | some 46 => inp.fractionPart positive s 0 j
    | some 101 | some 69 => inp.exponentPart positive s 0 j
    | _ =>
      if positive then .ok (.unsigned s, j)
      else if 0 < s && s ≤ Nat.pow 2 63 then .ok (.negative (-(s : Int)), j)
      else .ok (.double (Binary64.ofNat s).neg, j)
  match inp.byte? i with
  | none => .error (.at "EOF while parsing a value" i)
  | some 48 =>
    match inp.byte? (i + 1) with
    | some b => if isDigit b then .error (inp.peekFail "invalid number" (i + 1)) else after 0 (i + 1)
    | none => after 0 (i + 1)
  | some b =>
    if !isDigit b then .error (.at "invalid number" (i + 1))
    else
      let (s, j, overflowed) := inp.accumulate (b.toNat - 48) (i + 1)
      if overflowed then
        -- the digits that do not fit only scale the significand
        let k := inp.skipDigits j
        let e : Int := (k - j : Nat)
        match inp.byte? k with
        | some 46 => inp.fractionPart positive s e k
        | some 101 | some 69 => inp.exponentPart positive s e k
        | _ => (fromParts positive s e k).map (.double ·, k)
      else after s j

/-- Reads four hexadecimal digits at `k`. -/
def hex4 (inp : Input) (k : Nat) : Except Failure (Nat × Nat) :=
  if k + 4 > inp.size then .error (.at "EOF while parsing a string" inp.size)
  else
    let ds := (List.range 4).map fun d => (inp.byte? (k + d)).bind hexVal
    if ds.all Option.isSome then .ok (ds.foldl (fun n v => n * 16 + v.getD 0) 0, k + 4)
    else .error (.at "invalid escape" (k + 4))

/-- Reads a `\u` escape whose digits start at `k`, refusing surrogates that do not pair. -/
def unicodeEscape (inp : Input) (k : Nat) (acc : ByteArray) : Except Failure (ByteArray × Nat) := do
  let (n, k) ← inp.hex4 k
  if 0xDC00 ≤ n ∧ n ≤ 0xDFFF then throw (.at "lone leading surrogate in hex escape" k)
  if n < 0xD800 || n > 0xDBFF then return (pushCode acc n, k)
  match inp.byte? k with
  | none => throw (.at "EOF while parsing a string" k)
  | some b =>
    if b != 92 then throw (.at "unexpected end of hex escape" (k + 1))
    match inp.byte? (k + 1) with
    | none => throw (.at "EOF while parsing a string" (k + 1))
    | some c =>
      if c != 117 then throw (.at "unexpected end of hex escape" (k + 2))
      let (n2, k) ← inp.hex4 (k + 2)
      if n2 < 0xDC00 || n2 > 0xDFFF then throw (.at "lone leading surrogate in hex escape" k)
      return (pushCode acc (0x10000 + (n - 0xD800) * 0x400 + (n2 - 0xDC00)), k)

/-- Reads the escape after a backslash at `k - 1`. -/
def escape (inp : Input) (k : Nat) (acc : ByteArray) : Except Failure (ByteArray × Nat) :=
  match inp.byte? k with
  | none => .error (.at "EOF while parsing a string" inp.size)
  | some 34 => .ok (acc.push 34, k + 1)
  | some 92 => .ok (acc.push 92, k + 1)
  | some 47 => .ok (acc.push 47, k + 1)
  | some 98 => .ok (acc.push 8, k + 1)
  | some 102 => .ok (acc.push 12, k + 1)
  | some 110 => .ok (acc.push 10, k + 1)
  | some 114 => .ok (acc.push 13, k + 1)
  | some 116 => .ok (acc.push 9, k + 1)
  | some 117 => inp.unicodeEscape (k + 1) acc
  | some _ => .error (.at "invalid escape" (k + 1))

/-- Reads a string whose opening quote is at `i - 1`: its text and the index after the closing
quote. -/
def string (inp : Input) (i : Nat) : Except Failure (String × Nat) :=
  let rec go (fuel i : Nat) (acc : ByteArray) : Except Failure (ByteArray × Nat) :=
    match fuel with
    | 0 => .error (.at "EOF while parsing a string" inp.size)
    | fuel + 1 =>
      match inp.byte? i with
      | none => .error (.at "EOF while parsing a string" inp.size)
      | some 34 => .ok (acc, i + 1)
      | some 92 =>
        match inp.escape (i + 1) acc with
        | .ok (acc, j) => go fuel j acc
        | .error f => .error f
      | some b =>
        if b < 32 then .error (.at "control character (\\u0000-\\u001F) found while parsing a string" (i + 1))
        else go fuel (i + 1) (acc.push b)
  (go (inp.size + 1) i ByteArray.empty).map fun (bytes, j) => ((String.fromUTF8? bytes).getD "", j)

/-- Skips a string whose opening quote is at `i - 1`, checking only that its escapes are
complete. -/
def skipString (inp : Input) (i : Nat) : Except Failure Nat :=
  let rec go (fuel i : Nat) : Except Failure Nat :=
    match fuel with
    | 0 => .error (.at "EOF while parsing a string" inp.size)
    | fuel + 1 =>
      match inp.byte? i with
      | none => .error (.at "EOF while parsing a string" inp.size)
      | some 34 => .ok (i + 1)
      | some 92 =>
        match inp.byte? (i + 1) with
        | none => .error (.at "EOF while parsing a string" inp.size)
        | some e =>
          if e == 34 || e == 92 || e == 47 || e == 98 || e == 102 || e == 110 || e == 114 || e == 116 then
            go fuel (i + 2)
          else if e == 117 then
            match inp.hex4 (i + 2) with
            | .ok (_, j) => go fuel j
            | .error f => .error f
          else .error (.at "invalid escape" (i + 2))
      | some b =>
        if b < 32 then .error (.at "control character (\\u0000-\\u001F) found while parsing a string" i)
        else go fuel (i + 1)
  go (inp.size + 1) i

/-- Skips a number from its first byte at `i`, its sign already taken, checking only its
shape. -/
def skipNumber (inp : Input) (i : Nat) : Except Failure Nat :=
  let exponent (j : Nat) : Except Failure Nat :=
    let k := match inp.byte? (j + 1) with
      | some 43 | some 45 => j + 2
      | _ => j + 1
    match inp.byte? k with
    | some b => if isDigit b then .ok (inp.skipDigits (k + 1)) else .error (.at "invalid number" (k + 1))
    | none => .error (.at "invalid number" k)
  let rest (j : Nat) : Except Failure Nat :=
    match inp.byte? j with
    | some 46 =>
      let k := inp.skipDigits (j + 1)
      if k == j + 1 then .error (inp.peekFail "invalid number" k)
      else match inp.byte? k with
        | some 101 | some 69 => exponent k
        | _ => .ok k
    | some 101 | some 69 => exponent j
    | _ => .ok j
  match inp.byte? i with
  | some 48 =>
    match inp.byte? (i + 1) with
    | some b => if isDigit b then .error (inp.peekFail "invalid number" (i + 1)) else rest (i + 1)
    | none => rest (i + 1)
  | some b => if isDigit b && b != 48 then rest (inp.skipDigits (i + 1)) else .error (.at "invalid number" (i + 1))
  | none => .error (.at "invalid number" i)

mutual

/-- Skips a value from `i`, as a member a record does not know, inside the open brackets of
`stack`: brackets are matched with the stack and no depth limit, strings and numbers are
checked for their shape only. -/
def skipFrom (inp : Input) (fuel i : Nat) (stack : List UInt8) : Except Failure Nat :=
  match fuel with
  | 0 => .error (.at "EOF while parsing a value" inp.size)
  | fuel + 1 =>
    let i := inp.skipWs i
    let scalar (r : Except Failure Nat) : Except Failure Nat :=
      match r with
      | .ok j => if stack.isEmpty then .ok j else inp.closeFrom fuel j stack true
      | .error f => .error f
    match inp.byte? i with
    | none => .error (inp.peekFail "EOF while parsing a value" i)
    | some 110 => scalar (inp.ident [117, 108, 108] (i + 1))
    | some 116 => scalar (inp.ident [114, 117, 101] (i + 1))
    | some 102 => scalar (inp.ident [97, 108, 115, 101] (i + 1))
    | some 45 => scalar (inp.skipNumber (i + 1))
    | some 34 => scalar (inp.skipString (i + 1))
    | some 91 => inp.closeFrom fuel (i + 1) (91 :: stack) false
    | some 123 => inp.closeFrom fuel (i + 1) (123 :: stack) false
    | some b => if isDigit b then scalar (inp.skipNumber i) else .error (inp.peekFail "expected value" i)

/-- After a value or an opening bracket: closes brackets, or moves to the next item. -/
def closeFrom (inp : Input) (fuel i : Nat) (stack : List UInt8) (acceptComma : Bool) : Except Failure Nat :=
  match fuel with
  | 0 => .error (.at "EOF while parsing a value" inp.size)
  | fuel + 1 =>
    match stack with
    | [] => .ok i
    | frame :: rest =>
      let i := inp.skipWs i
      let inList := frame == 91
      match inp.byte? i with
      | none => .error (inp.peekFail (if inList then "EOF while parsing a list" else "EOF while parsing an object") i)
      | some b =>
        if b == 44 && acceptComma then inp.nextFrom fuel (i + 1) stack
        else if (b == 93 && inList) || (b == 125 && !inList) then
          if rest.isEmpty then .ok (i + 1) else inp.closeFrom fuel (i + 1) rest true
        else if acceptComma then
          .error (inp.peekFail (if inList then "expected `,` or `]`" else "expected `,` or `\x7d`") i)
        else inp.nextFrom fuel i stack

/-- Before the next item of the innermost bracket: an object's key and colon come first. -/
def nextFrom (inp : Input) (fuel i : Nat) (stack : List UInt8) : Except Failure Nat :=
  match fuel with
  | 0 => .error (.at "EOF while parsing a value" inp.size)
  | fuel + 1 =>
    if stack.head? == some 123 then
      let i := inp.skipWs i
      match inp.byte? i with
      | none => .error (inp.peekFail "EOF while parsing an object" i)
      | some 34 =>
        match inp.skipString (i + 1) with
        | .error f => .error f
        | .ok j =>
          let j := inp.skipWs j
          match inp.byte? j with
          | some 58 => inp.skipFrom fuel (j + 1) stack
          | some _ => .error (inp.peekFail "expected `:`" j)
          | none => .error (inp.peekFail "EOF while parsing an object" j)
      | some _ => .error (inp.peekFail "key must be a string" i)
    else inp.skipFrom fuel i stack

end

/-- Skips a value from `i`, as a member a record does not know. -/
def skipValue (inp : Input) (i : Nat) : Except Failure Nat := inp.skipFrom (3 * inp.size + 3) i []

/-- The failure of a reader expecting `expected` that looks at the value at `i`: a scalar is
read to describe it, and the failure shown after it; a bracket is shown where it stands. -/
def refuse (inp : Input) (i : Nat) (expected : String) : Failure :=
  let found (u : Unexpected) (j : Nat) : Failure :=
    .at ("invalid type: " ++ u.describe ++ ", expected " ++ expected) j
  let keyword (rest : List UInt8) (u : Unexpected) : Failure :=
    match inp.ident rest (i + 1) with
    | .ok j => found u j
    | .error f => f
  let numeric (r : Except Failure (Num × Nat)) : Failure :=
    match r with
    | .ok (n, j) => found n.unexpected j
    | .error f => f
  match inp.byte? i with
  | some 110 => keyword [117, 108, 108] .null
  | some 116 => keyword [114, 117, 101] (.bool true)
  | some 102 => keyword [97, 108, 115, 101] (.bool false)
  | some 45 => numeric (inp.number false (i + 1))
  | some 34 =>
    match inp.string (i + 1) with
    | .ok (s, j) => found (.str s) j
    | .error f => f
  | some 91 => found .seq i
  | some 123 => found .map i
  | some b => if isDigit b then numeric (inp.number true i) else inp.peekFail "expected value" i
  | none => inp.peekFail "expected value" i

/-- The end of a list after its items: the closing bracket, or a failure for what stands
there, and the index reached either way. -/
def endList (inp : Input) (i : Nat) : Option Failure × Nat :=
  let i := inp.skipWs i
  match inp.byte? i with
  | some 93 => (none, i + 1)
  | some 44 =>
    let k := inp.skipWs (i + 1)
    if inp.byte? k == some 93 then (some (inp.peekFail "trailing comma" k), k)
    else (some (inp.peekFail "trailing characters" k), k)
  | some _ => (some (inp.peekFail "trailing characters" i), i)
  | none => (some (inp.peekFail "EOF while parsing a list" i), i)

/-- The end of an object after its members: the closing brace, or a failure for what stands
there, and the index reached either way. -/
def endObject (inp : Input) (i : Nat) : Option Failure × Nat :=
  let i := inp.skipWs i
  match inp.byte? i with
  | some 125 => (none, i + 1)
  | some 44 => (some (inp.peekFail "trailing comma" i), i)
  | some _ => (some (inp.peekFail "trailing characters" i), i)
  | none => (some (inp.peekFail "EOF while parsing an object" i), i)

/-- Finishes a list or object whose reading gave `r`: a failure of the whole value is placed
after its end, and an end that is not there fails a value that was read. -/
def finish {α : Type} (r : Except Failure α) (ending : Option Failure × Nat) : Except Failure α :=
  match r, ending with
  | .error f, (_, k) => .error (f.fix k)
  | .ok _, (some f, _) => .error f
  | .ok a, (none, _) => .ok a

/-- Where the next item of a list starts, or none at its closing bracket, from `i` after the
opening bracket or the previous item. -/
def nextItem (inp : Input) (i : Nat) (first : Bool) : Except Failure (Option Nat) :=
  let i := inp.skipWs i
  match inp.byte? i with
  | none => .error (inp.peekFail "EOF while parsing a list" i)
  | some 93 => .ok none
  | some b =>
    if first then .ok (some i)
    else if b == 44 then
      let k := inp.skipWs (i + 1)
      match inp.byte? k with
      | some 93 => .error (inp.peekFail "trailing comma" k)
      | some _ => .ok (some k)
      | none => .error (inp.peekFail "EOF while parsing a value" k)
    else .error (inp.peekFail "expected `,` or `]`" i)

/-- The next key of an object and the index after it, or none at its closing brace, from `i`
after the opening brace or the previous member. -/
def nextKey (inp : Input) (i : Nat) (first : Bool) : Except Failure (Option (String × Nat)) :=
  let i := inp.skipWs i
  let key (k : Nat) : Except Failure (Option (String × Nat)) :=
    match inp.byte? k with
    | some 34 => (inp.string (k + 1)).map some
    | some 125 => .error (inp.peekFail "trailing comma" k)
    | some _ => .error (inp.peekFail "key must be a string" k)
    | none => .error (inp.peekFail "EOF while parsing a value" k)
  match inp.byte? i with
  | some 125 => .ok none
  | some 44 => if first then key i else key (inp.skipWs (i + 1))
  | some _ => if first then key i else .error (inp.peekFail "expected `,` or `\x7d`" i)
  | none => .error (inp.peekFail "EOF while parsing an object" i)

/-- The index after the colon that follows a key. -/
def colon (inp : Input) (i : Nat) : Except Failure Nat :=
  let i := inp.skipWs i
  match inp.byte? i with
  | some 58 => .ok (i + 1)
  | some _ => .error (inp.peekFail "expected `:`" i)
  | none => .error (inp.peekFail "EOF while parsing an object" i)

/-- Enters a list or object at `i` with `depth` levels left: the failure when none is left. -/
def enter (inp : Input) (depth i : Nat) : Except Failure Unit :=
  if depth ≤ 1 then .error (inp.peekFail "recursion limit exceeded" i) else .ok ()

/-- Members kept once each, a later one replacing an earlier. -/
def keepLast (ms : List (String × Json)) : List (String × Json) :=
  ms.foldl (fun acc (k, v) => if acc.any (·.1 == k) then acc.map fun (k', v') => if k' == k then (k, v) else (k', v') else acc ++ [(k, v)]) []

mutual

/-- Reads a value of a form from `i`, with `depth` levels of lists and objects left. -/
def read (inp : Input) (fuel depth : Nat) (f : Form) (i : Nat) : Except Failure (Json × Nat) :=
  match fuel with
  | 0 => .error (.at "recursion limit exceeded" i)
  | fuel + 1 =>
    let i := inp.skipWs i
    match inp.byte? i with
    | none => .error (inp.peekFail "EOF while parsing a value" i)
    | some b =>
      match f with
      | .string =>
        if b == 34 then (inp.string (i + 1)).map fun (s, j) => (.str s, j)
        else .error (inp.refuse i "a string")
      | .bool =>
        if b == 116 then (inp.ident [114, 117, 101] (i + 1)).map (.bool true, ·)
        else if b == 102 then (inp.ident [97, 108, 115, 101] (i + 1)).map (.bool false, ·)
        else .error (inp.refuse i "a boolean")
      | .int lo hi name =>
        let within (n : Num) (j : Nat) : Except Failure (Json × Nat) :=
          match n with
          | .unsigned k => if (k : Int) ≤ hi then .ok (.int k, j)
            else .error (.at ("invalid value: integer `" ++ toString k ++ "`, expected " ++ name) j)
          | .negative k => if lo ≤ k then .ok (.int k, j)
            else .error (.at ("invalid value: integer `" ++ toString k ++ "`, expected " ++ name) j)
          | .double x => .error (.at ("invalid type: floating point `" ++ x.jsonText ++ "`, expected " ++ name) j)
        if b == 45 then (inp.number false (i + 1)).bind fun (n, j) => within n j
        else if isDigit b then (inp.number true i).bind fun (n, j) => within n j
        else .error (inp.refuse i name)
      | .intOrString =>
        let within (n : Num) (j : Nat) : Except Failure (Json × Nat) :=
          match n with
          | .unsigned k => if k ≤ 2147483647 then .ok (.int k, j)
            else .error (.at ("invalid value: integer `" ++ toString k ++ "`, expected IntOrString") j)
          | .negative k => if -2147483648 ≤ k then .ok (.int k, j)
            else .error (.at ("invalid value: integer `" ++ toString k ++ "`, expected IntOrString") j)
          | .double x => .error (.at ("invalid type: floating point `" ++ x.jsonText ++ "`, expected IntOrString") j)
        if b == 34 then (inp.string (i + 1)).map fun (s, j) => (.str s, j)
        else if b == 45 then (inp.number false (i + 1)).bind fun (n, j) => within n j
        else if isDigit b then (inp.number true i).bind fun (n, j) => within n j
        else if b == 91 || b == 123 then do
          inp.enter depth i
          let ending := if b == 91 then inp.endList (i + 1) else inp.endObject (i + 1)
          finish (.error (.loose ("invalid type: " ++ (if b == 91 then "sequence" else "map") ++
            ", expected IntOrString")) : Except Failure (Json × Nat)) ending
        else .error (inp.refuse i "IntOrString")
      | .any =>
        if b == 110 then (inp.ident [117, 108, 108] (i + 1)).map (.null, ·)
        else if b == 116 then (inp.ident [114, 117, 101] (i + 1)).map (.bool true, ·)
        else if b == 102 then (inp.ident [97, 108, 115, 101] (i + 1)).map (.bool false, ·)
        else if b == 45 then (inp.number false (i + 1)).map fun (n, j) => (n.toJson, j)
        else if isDigit b then (inp.number true i).map fun (n, j) => (n.toJson, j)
        else if b == 34 then (inp.string (i + 1)).map fun (s, j) => (.str s, j)
        else if b == 91 then do
          inp.enter depth i
          let (xs, k) ← inp.items fuel (depth - 1) .any (i + 1) true []
          .ok (.arr xs, k + 1)
        else if b == 123 then do
          inp.enter depth i
          let (ms, k) ← inp.entries fuel (depth - 1) .any (i + 1) true []
          .ok (.obj (keepLast ms), k + 1)
        else .error (inp.peekFail "expected value" i)
      | .list item =>
        if b == 91 then do
          inp.enter depth i
          let (xs, k) ← inp.items fuel (depth - 1) item (i + 1) true []
          .ok (.arr xs, k + 1)
        else .error (inp.refuse i "a sequence")
      | .map value =>
        if b == 123 then do
          inp.enter depth i
          let (ms, k) ← inp.entries fuel (depth - 1) value (i + 1) true []
          .ok (.obj (keepLast ms), k + 1)
        else .error (inp.refuse i "a map")
      | .names =>
        if b == 34 then (inp.string (i + 1)).map fun (s, j) => (.str s, j)
        else if b == 123 then do
          inp.enter depth i
          let k := inp.skipWs (i + 1)
          let (name, k) ← match inp.byte? k with
            | some 34 => inp.string (k + 1)
            | some _ => .error (inp.refuse k "variant identifier")
            | none => .error (inp.peekFail "EOF while parsing a value" k)
          let k ← inp.colon k
          let k := inp.skipWs k
          let k ← match inp.byte? k with
            | some 110 => inp.ident [117, 108, 108] (k + 1)
            | some _ => .error (inp.refuse k "unit")
            | none => .error (inp.peekFail "EOF while parsing a value" k)
          let k := inp.skipWs k
          match inp.byte? k with
          | some 125 => .ok (.str name, k + 1)
          | some _ => .error (.at "expected value" k)
          | none => .error (.at "EOF while parsing an object" k)
        else .error (inp.peekFail "expected value" i)
      | .record name members declared =>
        if b == 123 then do
          inp.enter depth i
          let (ms, k) ← inp.recordMembers fuel (depth - 1) members declared (i + 1) true []
          let missing := if declared then members.find? fun (key, _, dflt) => !dflt && !ms.any (·.1 == key)
            else none
          let ending := inp.endObject k
          match missing with
          | some (key, _, _) =>
            finish (.error (.loose ("missing field `" ++ key ++ "`")) : Except Failure (Json × Nat)) ending
          | none => finish (.ok (.obj ms, ending.2)) ending
        else if b == 91 then do
          inp.enter depth i
          if declared then
            let (ms, k) ← inp.recordItems fuel (depth - 1) name members.length 0 members (i + 1) true []
            let ending := inp.endList k
            finish (.ok (.obj ms, ending.2)) ending
          else
            finish (.error (.loose ("invalid type: sequence, expected " ++ name)) :
              Except Failure (Json × Nat)) (inp.endList (i + 1))
        else .error (inp.refuse i name)

/-- Reads list items of a form from `i`, until the closing bracket, whose index is returned. -/
def items (inp : Input) (fuel depth : Nat) (f : Form) (i : Nat) (first : Bool) (acc : List Json) :
    Except Failure (List Json × Nat) :=
  match fuel with
  | 0 => .error (.at "recursion limit exceeded" i)
  | fuel + 1 => do
    match ← inp.nextItem i first with
    | none => .ok (acc, inp.skipWs i)
    | some k =>
      let (v, j) ← inp.read fuel depth f k
      inp.items fuel depth f j false (acc ++ [v])

/-- Reads object entries with values of a form from `i`, until the closing brace, whose index
is returned. -/
def entries (inp : Input) (fuel depth : Nat) (f : Form) (i : Nat) (first : Bool) (acc : List (String × Json)) :
    Except Failure (List (String × Json) × Nat) :=
  match fuel with
  | 0 => .error (.at "recursion limit exceeded" i)
  | fuel + 1 => do
    match ← inp.nextKey i first with
    | none => .ok (acc, inp.skipWs i)
    | some (key, j) =>
      let k ← inp.colon j
      let (v, j) ← inp.read fuel depth f k
      inp.entries fuel depth f j false (acc ++ [(key, v)])

/-- Reads the members of a record given as an object, from `i`, until the closing brace, whose
index is returned. A member the record does not know is skipped; a known member read twice
fails a declared record, placed after its second key. An API record takes `null` for an absent
member. -/
def recordMembers (inp : Input) (fuel depth : Nat) (members : List (String × Form × Bool)) (declared : Bool)
    (i : Nat) (first : Bool) (acc : List (String × Json)) : Except Failure (List (String × Json) × Nat) :=
  match fuel with
  | 0 => .error (.at "recursion limit exceeded" i)
  | fuel + 1 => do
    match ← inp.nextKey i first with
    | none => .ok (acc, inp.skipWs i)
    | some (key, j) =>
      match members.find? (·.1 == key) with
      | none =>
        let k ← inp.colon j
        let j ← inp.skipValue k
        inp.recordMembers fuel depth members declared j false acc
      | some (_, f, _) =>
        if declared && acc.any (·.1 == key) then
          .error (.at ("duplicate field `" ++ key ++ "`") (inp.skipWs j))
        else
          let k ← inp.colon j
          let k := inp.skipWs k
          if !declared && inp.byte? k == some 110 then
            let j ← inp.ident [117, 108, 108] (k + 1)
            inp.recordMembers fuel depth members declared j false (acc.filter (·.1 != key))
          else
            let (v, j) ← inp.read fuel depth f k
            inp.recordMembers fuel depth members declared j false (acc.filter (·.1 != key) ++ [(key, v)])

/-- Reads the members of a declared record given as a list of their values in order, from `i`,
the member at `index` next; the list may end early where the remaining members have defaults.
Returns the index where the list was left. -/
def recordItems (inp : Input) (fuel depth : Nat) (name : String) (count index : Nat)
    (members : List (String × Form × Bool)) (i : Nat) (first : Bool) (acc : List (String × Json)) :
    Except Failure (List (String × Json) × Nat) :=
  match fuel with
  | 0 => .error (.at "recursion limit exceeded" i)
  | fuel + 1 =>
    match members with
    | [] => .ok (acc, i)
    | (key, f, _) :: rest => do
      match ← inp.nextItem i first with
      | none =>
        let close := inp.skipWs i
        match members.findIdx? (fun (_, _, d) => !d) with
        | none => .ok (acc, close)
        | some missing =>
          .error (.at ("invalid length " ++ toString (index + missing) ++ ", expected " ++ name ++
            " with " ++ toString count ++ (if count == 1 then " element" else " elements")) (close + 1))
      | some k =>
        let (v, j) ← inp.read fuel depth f k
        inp.recordItems fuel depth name count (index + 1) rest j false (acc ++ [(key, v)])

end

end Input

/-- The line and column of a byte index: lines from one, the column counting the bytes
before the index on its line. -/
def position (src : ByteArray) (i : Nat) : Nat × Nat :=
  let (line, lineStart) := (List.range (min i src.size)).foldl (fun (line, ls) k =>
    if src[k]? == some 10 then (line + 1, k + 1) else (line, ls)) (1, 0)
  (line, i - lineStart)

/-- A failure's message with its position. -/
def Failure.describe (src : ByteArray) : Failure → String
  | .at m i =>
    let (l, c) := position src i
    m ++ " at line " ++ toString l ++ " column " ++ toString c
  | .loose m => m ++ " at line 1 column 0"

/-- Reads a whole JSON text as a value of a form: the value, then nothing but blanks. The
document read is returned tidied, or the first failure in the text with its position. -/
def readForm (f : Form) (text : String) : Except String Json :=
  let inp : Input := { src := text.toUTF8 }
  let r : Except Failure Json := do
    let (v, j) ← inp.read (4 * inp.size + 16) 128 f 0
    let k := inp.skipWs j
    if k < inp.size then throw (inp.peekFail "trailing characters" k)
    pure v
  match r with
  | .ok v => .ok v
  | .error e => .error (e.describe inp.src)

/-- Reads a whole JSON text as a value of a form and then through a typed reader. -/
def readText {α : Type} (f : Form) (r : Reader α) (text : String) : Except String α :=
  match readForm f text with
  | .ok v =>
    match r v with
    | .ok a => .ok a
    | .error e => .error e.message
  | .error m => .error m

end CsiOperator.JsonText
