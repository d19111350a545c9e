import CsiOperator.Number.Binary64
/-!
The shortest decimal digits of a binary64 number, and its text written out in full.

A positive number `v = m · 2^e` stands for every real that rounds to it: those between the
midpoints to its two neighbours, the midpoints themselves included when `m` is even. Its
shortest digits are found on decimal grids of one, two, up to seventeen significant digits:
on each grid the two points around `v` are tested against that interval, and the first grid
with a point inside gives the digits. When both points are inside, the nearer one to `v` is
taken, and of two equally near the upper one.

All comparisons are exact: values are kept as `x · 2^f` and grid points as `c · 10^k` and
compared as natural numbers after clearing both denominators.
-/

namespace CsiOperator

namespace Binary64

/-- Compares `c · 10^k` with `x · 2^f`. -/
def compareScaled (c : Nat) (k : Int) (x : Nat) (f : Int) : Ordering :=
  compare (c * Nat.pow 10 k.toNat * Nat.pow 2 (-f).toNat) (x * Nat.pow 2 f.toNat * Nat.pow 10 (-k).toNat)

/-- The greatest `E` with `10^E ≤ x · 2^f`, for positive `x`. It is estimated from the binary
exponent with five digits of `log₁₀ 2`, which is off by at most one, and then corrected. -/
def floorLog10 (x : Nat) (f : Int) : Int :=
  let est : Int := ((Nat.log2 x : Int) + f) * 30103 / 100000
  let est := if compareScaled 1 est x f == .gt then est - 1 else est
  let est := if compareScaled 1 est x f == .gt then est - 1 else est
  let est := if compareScaled 1 (est + 1) x f != .gt then est + 1 else est
  if compareScaled 1 (est + 1) x f != .gt then est + 1 else est

/-- The rounding interval of the positive number `m · 2^e` in encoding form, as the number and
its two ends in units of `2^(e-2)`. The lower end is nearer when `m` is the least significand
of a binade above the least one, where the neighbour below is half as far. -/
def roundingInterval (m : Nat) (e : Int) : Nat × Nat × Nat :=
  let v := 4 * m
  (v, (if m = Nat.pow 2 52 && e > -1074 then v - 1 else v - 2), v + 2)

/-- Drops trailing zero digits, raising the exponent. -/
def trimZeros : (fuel digits : Nat) → (k : Int) → Nat × Int
  | 0, d, k => (d, k)
  | fuel + 1, d, k => if d != 0 && d % 10 == 0 then trimZeros fuel (d / 10) (k + 1) else (d, k)

/-- The shortest digits `d` and exponent `k` with `d · 10^k` rounding to the positive number
`m · 2^e` in encoding form; of two such with as many digits, the nearer, and of two equally
near the greater. -/
def shortestDigits (m : Nat) (e : Int) : Nat × Int :=
  let f := e - 2
  let (v, low, high) := roundingInterval m e
  let inclusive := m % 2 == 0
  let inside (o : Ordering) (strict : Ordering) : Bool := o == strict || (inclusive && o == .eq)
  let top := floorLog10 v f
  let rec grid : (fuel n : Nat) → Nat × Int
    | 0, _ => (0, 0)
    | fuel + 1, n =>
      let k := top + 1 - n
      let d := (v * Nat.pow 2 f.toNat * Nat.pow 10 (-k).toNat) / (Nat.pow 10 k.toNat * Nat.pow 2 (-f).toNat)
      let downOk := inside (compareScaled d k low f) .gt
      let upOk := inside (compareScaled (d + 1) k high f) .lt
      if downOk && upOk then
        if compareScaled (2 * d + 1) k (2 * v) f == .gt then (d, k) else (d + 1, k)
      else if downOk then (d, k)
      else if upOk || fuel == 0 then (d + 1, k)
      else grid fuel (n + 1)
  let (d, k) := grid 17 1
  trimZeros 20 d k

/-- Decimal digits as text. -/
def digitText (d : Nat) : String := String.ofList (Nat.toDigits 10 d)

/-- The text of `d · 10^k` written out in full, without an exponent: zeros are added after the
digits or after the point as the exponent needs. -/
def fullText (d : Nat) (k : Int) : String :=
  let ds := digitText d
  let len : Int := ds.length
  let zeros (n : Int) := String.ofList (List.replicate n.toNat '0')
  if d = 0 then "0"
  else if k ≥ 0 then ds ++ zeros k
  else if -k < len then (ds.take (len + k).toNat).toString ++ "." ++ (ds.drop (len + k).toNat).toString
  else "0." ++ zeros (-k - len) ++ ds

/-- The decimal text of digits `ds` times `10^k`: positional when the point falls at most
`positional` places after the first digit and fewer than `leading` places before it, with
`.0` when there is no fraction; otherwise one digit, the rest after a point, and `e` with the
exponent. -/
def layout (positional leading : Nat) (ds : String) (k : Int) : String :=
  let len : Int := ds.length
  let kk := len + k
  let zeros (n : Int) := String.ofList (List.replicate n.toNat '0')
  if 0 ≤ k && kk ≤ positional then ds ++ zeros k ++ ".0"
  else if 0 < kk && kk ≤ positional then
    (ds.take kk.toNat).toString ++ "." ++ (ds.drop kk.toNat).toString
  else if -(leading : Int) < kk && kk ≤ 0 then "0." ++ zeros (-kk) ++ ds
  else if len = 1 then ds ++ "e" ++ toString (kk - 1)
  else (ds.take 1).toString ++ "." ++ (ds.drop 1).toString ++ "e" ++ toString (kk - 1)

/-- The text of a number as JSON writers print it: the shortest digits, positional when the
point falls within sixteen digits of them and at most four zeros before them, and in exponent
form otherwise (`1e16`, `1.5e-7`). -/
def jsonText : Binary64 → String
  | .infinite neg => if neg then "-inf" else "inf"
  | .finite neg m e =>
    let sign := if neg then "-" else ""
    if m = 0 then sign ++ "0.0"
    else
      let (m, e) := encodingForm m e
      let (d, k) := shortestDigits m e
      sign ++ layout 16 5 (digitText d) k

/-- The text of a number as error messages show a floating-point value: the shortest digits
written out in full with a sign, and `.0` added when there is no point; infinities are `inf`
and `-inf`. -/
def plainText : Binary64 → String
  | .infinite neg => if neg then "-inf" else "inf"
  | .finite neg m e =>
    let (d, k) := if m = 0 then (0, 0) else
      let (m, e) := encodingForm m e
      shortestDigits m e
    let t := fullText d k
    (if neg then "-" else "") ++ t ++ (if t.contains '.' then "" else ".0")

end Binary64

end CsiOperator
