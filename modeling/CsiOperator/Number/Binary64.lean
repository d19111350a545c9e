/-!
Binary64 floating-point numbers as exact dyadic rationals.

A finite number is `(-1)^neg · mant · 2^exp` with `mant < 2^53` and `exp ≥ -1074`; larger
magnitudes are infinite. Every operation takes the exact rational result and rounds it to the
nearest number, ties to the even mantissa, as IEEE 754 arithmetic does.
-/

namespace CsiOperator

/-- A binary64 floating-point number. -/
inductive Binary64 where
  | finite (neg : Bool) (mant : Nat) (exp : Int)
  | infinite (neg : Bool)
deriving DecidableEq, Repr, Inhabited

namespace Binary64

/-- Zero. -/
def zero : Binary64 := .finite false 0 0

/-- Whether `c · q · 2^e ≤ p`. -/
def scaledLE (c q p : Nat) (e : Int) : Bool :=
  if e ≥ 0 then c * q * Nat.pow 2 e.toNat ≤ p else c * q ≤ p * Nat.pow 2 (-e).toNat

/-- The number nearest to the positive ratio `p / q`, with a sign. -/
def roundRatio (neg : Bool) (p q : Nat) : Binary64 :=
  if p = 0 || q = 0 then .finite neg 0 0
  else
    let l : Int := (Nat.log2 p : Int) - (Nat.log2 q : Int)
    let e := if scaledLE (Nat.pow 2 52) q p (l - 52) then l - 52 else l - 53
    let e := max e (-1074)
    let (num, den) := if e ≥ 0 then (p, q * Nat.pow 2 e.toNat) else (p * Nat.pow 2 (-e).toNat, q)
    let m := num / den
    let r := num % den
    let m := if 2 * r > den || (2 * r = den && m % 2 = 1) then m + 1 else m
    let (m, e) := if m = Nat.pow 2 53 then (Nat.pow 2 52, e + 1) else (m, e)
    if e > 971 then .infinite neg else .finite neg m e

/-- The number nearest to `digits · 10^exp10`, with a sign. -/
def ofDecimal (neg : Bool) (digits : Nat) (exp10 : Int) : Binary64 :=
  if digits = 0 then .finite neg 0 0
  else if exp10 > 400 then .infinite neg
  else if exp10 + (Nat.log2 digits : Int) < -400 then .finite neg 0 0
  else if exp10 ≥ 0 then roundRatio neg (digits * Nat.pow 10 exp10.toNat) 1
  else roundRatio neg digits (Nat.pow 10 (-exp10).toNat)

/-- A finite number's significand and exponent in the form of its binary64 encoding: the
significand shifted up to 53 bits, or as far as the least exponent `-1074` allows. -/
def encodingForm (m : Nat) (e : Int) : Nat × Int :=
  if m = 0 || m ≥ Nat.pow 2 52 then (m, e)
  else
    let s := min (52 - Nat.log2 m) (e + 1074).toNat
    (m * Nat.pow 2 s, e - s)

/-- The sum of two numbers. Opposite infinities, which have no sum, give the first. -/
def add (a b : Binary64) : Binary64 :=
  match a, b with
  | .infinite n, _ => .infinite n
  | _, .infinite n => .infinite n
  | .finite na ma ea, .finite nb mb eb =>
    let e := min ea eb
    let sa : Int := (if na then -1 else 1) * (ma * Nat.pow 2 (ea - e).toNat : Nat)
    let sb : Int := (if nb then -1 else 1) * (mb * Nat.pow 2 (eb - e).toNat : Nat)
    let s := sa + sb
    if s = 0 then .finite (na && nb) 0 0
    else if e ≥ 0 then roundRatio (s < 0) (s.natAbs * Nat.pow 2 e.toNat) 1
    else roundRatio (s < 0) s.natAbs (Nat.pow 2 (-e).toNat)

instance : Add Binary64 := ⟨add⟩

/-- The number nearest to a natural number. -/
def ofNat (n : Nat) : Binary64 := roundRatio false n 1

/-- The number with the opposite sign. -/
def neg : Binary64 → Binary64
  | .finite n m e => .finite (!n) m e
  | .infinite n => .infinite (!n)

/-- The product of two numbers, rounded. A product with an infinity is infinite. -/
def mul (a b : Binary64) : Binary64 :=
  match a, b with
  | .finite na ma ea, .finite nb mb eb =>
    let e := ea + eb
    if e ≥ 0 then roundRatio (na != nb) (ma * mb * Nat.pow 2 e.toNat) 1
    else roundRatio (na != nb) (ma * mb) (Nat.pow 2 (-e).toNat)
  | .infinite na, .finite nb _ _ | .finite na _ _, .infinite nb | .infinite na, .infinite nb =>
    .infinite (na != nb)

/-- The quotient of two numbers, rounded. Division by zero gives an infinity and division by
an infinity gives zero. -/
def div (a b : Binary64) : Binary64 :=
  match a, b with
  | .finite na ma ea, .finite nb mb eb =>
    if mb = 0 then .infinite (na != nb)
    else
      let e := ea - eb
      if e ≥ 0 then roundRatio (na != nb) (ma * Nat.pow 2 e.toNat) mb
      else roundRatio (na != nb) ma (mb * Nat.pow 2 (-e).toNat)
  | .infinite na, .finite nb _ _ | .infinite na, .infinite nb => .infinite (na != nb)
  | .finite na _ _, .infinite nb => .finite (na != nb) 0 0

/-- Whether a number is zero, of either sign. -/
def isZero : Binary64 → Bool
  | .finite _ m _ => m == 0
  | .infinite _ => false

/-- Whether `a ≤ b`, for finite numbers compared as rationals; an infinity is beyond every
finite number. -/
def le (a b : Binary64) : Bool :=
  match a, b with
  | .infinite na, .infinite nb => na || !nb
  | .infinite na, _ => na
  | _, .infinite nb => !nb
  | .finite na ma ea, .finite nb mb eb =>
    let e := min ea eb
    let sa : Int := (if na then -1 else 1) * (ma * Nat.pow 2 (ea - e).toNat : Nat)
    let sb : Int := (if nb then -1 else 1) * (mb * Nat.pow 2 (eb - e).toNat : Nat)
    sa ≤ sb

end Binary64

end CsiOperator
