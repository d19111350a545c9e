/-!
Decoding Punycode, the encoding of a label's code points in the letters, digits and hyphen of
ASCII.

The code points before the last hyphen are copied as they are; the digits after it encode, one
variable-length integer each, where each further code point is inserted. The integers use base
36 with thresholds that adapt to the deltas seen so far. Arithmetic is checked against 32 bits,
as the decoder this follows does, so an encoding whose numbers grow past them is refused, as is
one that ends inside an integer, holds a character that is no digit, or reaches a code point
that is a surrogate or beyond the last one.
-/

namespace CsiOperator.Idna.Punycode

/-- The base of the variable-length integers. -/
def base : Nat := 36

/-- The least threshold. -/
def tMin : Nat := 1

/-- The greatest threshold. -/
def tMax : Nat := 26

/-- The largest number the decoder holds. -/
def limit : Nat := Nat.pow 2 32 - 1

/-- The value of a digit: letters of either case are 0 to 25, decimal digits 26 to 35. -/
def digit? (c : Char) : Option Nat :=
  if 'a' ≤ c ∧ c ≤ 'z' then some (c.toNat - 97)
  else if 'A' ≤ c ∧ c ≤ 'Z' then some (c.toNat - 65)
  else if '0' ≤ c ∧ c ≤ '9' then some (c.toNat - 22)
  else none

/-- Divides `delta` by 35 until it is at most 455, counting 36 for each division. -/
def scaleDown : (fuel delta k : Nat) → Nat × Nat
  | 0, delta, k => (delta, k)
  | fuel + 1, delta, k =>
    if delta > ((base - tMin) * tMax) / 2 then scaleDown fuel (delta / (base - tMin)) (k + base)
    else (delta, k)

/-- The bias after a delta, from the number of code points so far and whether it was the
first delta. -/
def adapt (delta points : Nat) (first : Bool) : Nat :=
  let delta := delta / (if first then 700 else 2)
  let delta := delta + delta / points
  let (delta, k) := scaleDown 32 delta 0
  k + ((base - tMin + 1) * delta) / (delta + 38)

/-- The decoder's state: the code points so far, the next code point value, the bias, and the
insertion position; within an integer, the position it started from, its weight and its
threshold index. -/
structure State where
  out : Array Char
  n : Nat
  bias : Nat
  i : Nat
  start : Nat
  weight : Nat
  k : Nat
  inside : Bool

/-- The threshold at index `k`. -/
def threshold (k bias : Nat) : Nat :=
  if k ≤ bias then tMin else if k ≥ bias + tMax then tMax else k - bias

/-- Reads one digit into the state: the integer grows, and when the digit ends it, the code
point it encodes is inserted. -/
def step (st : State) (c : Char) : Option State := do
  let d ← digit? c
  let (start, weight, k) := if st.inside then (st.start, st.weight, st.k) else (st.i, 1, base)
  let product := d * weight
  if product > limit then none
  let i := st.i + product
  if i > limit then none
  let t := threshold k st.bias
  if d < t then
    let points := st.out.size + 1
    let bias := adapt (i - start) points (start = 0)
    let n := st.n + i / points
    if n > limit then none
    if n > 0x10FFFF || (0xD800 ≤ n ∧ n ≤ 0xDFFF) then none
    let pos := i % points
    let out := (st.out.toList.take pos ++ [Char.ofNat n] ++ st.out.toList.drop pos).toArray
    some { st with out, n, bias, i := pos + 1, inside := false }
  else
    let weight := weight * (base - t)
    if weight > limit then none
    some { st with i, start, weight, k := k + base, inside := true }

/-- Reads the digits of the encoding. -/
def run (st : State) : List Char → Option State
  | [] => if st.inside then none else some st
  | c :: cs => (step st c).bind (run · cs)

/-- The code points a Punycode label (without its `xn--`) encodes, if it is valid. -/
def decode (label : List Char) : Option (List Char) :=
  let (basic, digits) := match (label.reverse.findIdx? (· == '-')) with
    | some j => (label.take (label.length - 1 - j), label.drop (label.length - j))
    | none => ([], label)
  (run { out := basic.toArray, n := 0x80, bias := 72, i := 0, start := 0, weight := 1, k := base,
         inside := false } digits).map (·.out.toList)

end CsiOperator.Idna.Punycode
