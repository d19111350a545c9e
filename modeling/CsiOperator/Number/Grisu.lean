import CsiOperator.Number.Shortest
/-!
The decimal text of binary64 numbers, with digits from Grisu2 digit generation.

Grisu2 multiplies the number and the two ends of its rounding interval by a power of ten held in
64 bits, chosen so that the scaled numbers have between 32 and 60 fractional bits. It writes the
digits of the scaled upper end, narrowed by one unit, until what is left of it fits within the
scaled width of the interval, and then lowers the last digit while that brings the digits closer
to the number and keeps them inside. The digits always read back as the number. They are not
always the shortest such digits, nor the closest: 1e23 comes out as 9.999999999999999e22. The
last digit is lowered only when at most eight digits follow the scaled unit; past that the digits
stay as generated, so 16.484757319101373 comes out as 16.484757319101374.

The digits are then laid out positionally when the decimal point falls within 21 places of them
and at most six places before them, and in exponent form otherwise (`1e-7`, `1.5e300`); a
number without fractional digits keeps a `.0`.
-/

namespace CsiOperator

namespace Grisu

/-- A number `f · 2^e` held with a significand of 64 bits, the working format of the digit
generation. -/
structure Wide where
  f : Nat
  e : Int
deriving DecidableEq, Repr, Inhabited

namespace Wide

/-- The number with its significand shifted left until its top bit is bit 63. -/
def normalize (w : Wide) : Wide :=
  if w.f = 0 then w
  else
    let s := 63 - Nat.log2 w.f
    ⟨w.f * Nat.pow 2 s, w.e - s⟩

/-- The product of two numbers: the upper 64 bits of the 128-bit product of the significands,
rounded half up. -/
def mul (a b : Wide) : Wide :=
  ⟨(a.f * b.f + Nat.pow 2 63) / Nat.pow 2 64, a.e + b.e + 64⟩

end Wide

/-- The quotient and remainder of `p` by `q · 2^e`, with the divisor. -/
def scaledDivision (p q : Nat) (e : Int) : Nat × Nat × Nat :=
  let (num, den) := if e ≥ 0 then (p, q * Nat.pow 2 e.toNat) else (p * Nat.pow 2 (-e).toNat, q)
  (num / den, num % den, den)

/-- The positive ratio `p / q` rounded to the nearest number with a 64-bit significand whose top
bit is set, ties to the even significand. -/
def nearest (p q : Nat) : Wide :=
  let l : Int := (Nat.log2 p : Int) - (Nat.log2 q : Int)
  let e := if (scaledDivision p q (l - 63)).1 ≥ Nat.pow 2 63 then l - 63 else l - 64
  let (m, r, den) := scaledDivision p q e
  let m := if 2 * r > den || (2 * r = den && m % 2 = 1) then m + 1 else m
  if m = Nat.pow 2 64 then ⟨Nat.pow 2 63, e + 1⟩ else ⟨m, e⟩

/-- `10^k` rounded to 64 bits. The digit generation uses these for `k` a multiple of eight
from -348 to 340. -/
def powerOfTen (k : Int) : Wide :=
  if k ≥ 0 then nearest (Nat.pow 10 k.toNat) 1 else nearest 1 (Nat.pow 10 (-k).toNat)

/-- The power of ten that scales a number whose upper end has the binary exponent `e`, with
the decimal exponent `K` that undoes it: the power is `10^(-K)`. The index of the power among
the multiples of eight comes from `⌈(-61 - e) · log₁₀ 2⌉ + 347`, with seventeen digits of the
logarithm; for the exponents of binary64 numbers that product never comes near enough to an
integer for the digits of the logarithm to matter. -/
def scaleFor (e : Int) : Wide × Int :=
  let n := -61 - e
  let k := 347 - (-(n * 30102999566398114)) / (Nat.pow 10 17 : Int)
  let index := k / 8 + 1
  let K := 348 - 8 * index
  (powerOfTen (-K), K)

/-- The number of decimal digits of the integral part of the scaled upper end, counted up to
nine. -/
def digitCount (n : Nat) : Nat :=
  ((List.range 8).find? fun i => n < Nat.pow 10 (i + 1)).map (· + 1) |>.getD 9

/-- How many times the last digit is lowered: while the remainder `rest`, moved up by the step
`t` of the last digit, stays within the width `delta` and comes closer to the distance `wpw` of
the number from the upper end. -/
def lowerings (delta t wpw : Nat) (ht : 0 < t) (rest : Nat) : Nat :=
  if h : rest < wpw then
    if t ≤ delta - rest && (rest + t < wpw || wpw - rest > rest + t - wpw) then
      lowerings delta t wpw ht (rest + t) + 1
    else 0
  else 0
termination_by wpw - rest

/-- Lowers the last digit of digits held last first. -/
def lowerLast (n : Nat) : List Nat → List Nat
  | d :: ds => (d - n) :: ds
  | [] => []

/-- Appends a digit to digits held last first; leading zeros are not written. -/
def push (d : Nat) (rev : List Nat) : List Nat :=
  if d ≠ 0 || !rev.isEmpty then d :: rev else rev

/-- A product of powers of ten and two is positive, so it can divide. -/
theorem pow_pos_ten_two (a b : Nat) : 0 < Nat.pow 10 a * Nat.pow 2 b :=
  Nat.mul_pos (Nat.pow_pos (by decide)) (Nat.pow_pos (by decide))

/-- A power of two is positive, so it can divide. -/
theorem pow_pos_two (b : Nat) : 0 < Nat.pow 2 b := Nat.pow_pos (by decide)

/-- The digits of the integral part `p1` of the scaled upper end, from the one of weight
`10^(kappa-1)` down, with `u` fractional bits, `p2` the fractional part, `delta` the width of
the interval and `wpw` the distance of the number from the upper end. The digits come last
first, with the decimal exponent of the last when the generation stops within the integral
part. -/
def integralDigits (u delta wpw p2 : Nat) : (kappa p1 : Nat) → List Nat → List Nat × Option Nat
  | 0, _, rev => (rev, none)
  | kappa + 1, p1, rev =>
    let rev := push (p1 / Nat.pow 10 kappa) rev
    let p1 := p1 % Nat.pow 10 kappa
    let rest := p1 * Nat.pow 2 u + p2
    if rest ≤ delta then
      (lowerLast (lowerings delta (Nat.pow 10 kappa * Nat.pow 2 u) wpw (pow_pos_ten_two _ _) rest) rev,
        some kappa)
    else integralDigits u delta wpw p2 kappa p1 rev

/-- The digits of the fractional part `p2` of the scaled upper end, after `n` of them, while
the width `delta` grows tenfold with each. The last digit is lowered only while at most eight
digits have been written. Twenty steps always suffice: the width is at least one and the
fractional part stays below `2^60`. Gives the digits last first and how many are fractional. -/
def fractionalDigits (u wpw : Nat) : (fuel p2 delta : Nat) → List Nat → (n : Nat) → List Nat × Nat
  | 0, _, _, rev, n => (rev, n)
  | fuel + 1, p2, delta, rev, n =>
    let p2 := p2 * 10
    let delta := delta * 10
    let rev := push (p2 / Nat.pow 2 u) rev
    let p2 := p2 % Nat.pow 2 u
    if p2 < delta then
      let scale := if n + 1 < 9 then Nat.pow 10 (n + 1) else 0
      (lowerLast (lowerings delta (Nat.pow 2 u) (wpw * scale) (pow_pos_two u) p2) rev, n + 1)
    else fractionalDigits u wpw fuel p2 delta rev (n + 1)

/-- The digits and decimal exponent of the positive number `m · 2^e`, given in the form of its
binary64 encoding: `2^52 ≤ m < 2^53`, or `m < 2^52` at the least exponent `-1074`. -/
def digits (m : Nat) (e : Int) : List Nat × Int :=
  let v : Wide := ⟨m, e⟩
  let plus := (Wide.mk (2 * m + 1) (e - 1)).normalize
  let minus : Wide := if m = Nat.pow 2 52 then ⟨4 * m - 1, e - 2⟩ else ⟨2 * m - 1, e - 1⟩
  let minus : Wide := ⟨minus.f * Nat.pow 2 (minus.e - plus.e).toNat, plus.e⟩
  let (c, K) := scaleFor plus.e
  let w := v.normalize.mul c
  let hi := (plus.mul c).f - 1
  let lo := (minus.mul c).f + 1
  let u := (-(plus.mul c).e).toNat
  let delta := hi - lo
  let wpw := hi - w.f
  let p1 := hi / Nat.pow 2 u
  let p2 := hi % Nat.pow 2 u
  match integralDigits u delta wpw p2 (digitCount p1) p1 [] with
  | (rev, some kappa) => (rev.reverse, K + kappa)
  | (rev, none) =>
    let (rev, n) := fractionalDigits u wpw 20 p2 delta rev 0
    (rev.reverse, K - n)

end Grisu

namespace Binary64

/-- The character of a decimal digit. -/
def digitChar (d : Nat) : Char := Char.ofNat (48 + d)

/-- The decimal text of a number. -/
def toText : Binary64 → String
  | .infinite neg => if neg then "-inf" else "inf"
  | .finite neg 0 _ => if neg then "-0.0" else "0.0"
  | .finite neg m e =>
    let (m, e) := encodingForm m e
    let (ds, k) := Grisu.digits m e
    (if neg then "-" else "") ++ layout 21 6 (String.ofList (ds.map digitChar)) k

end Binary64

end CsiOperator
