import CsiOperator.Idna.Properties
/-!
Unicode Normalization Form C.

A text is brought to form C in three steps: every code point is replaced by its full canonical
decomposition, each run of code points with nonzero combining class is sorted by class (stably,
so code points of equal class keep their order), and then every code point that is not blocked
from the last starter before it is composed with that starter when the two form a primary
composite. A code point is blocked when a code point of the same or a higher class, or a starter,
stands between them. Hangul syllables are decomposed and composed arithmetically.
-/

namespace CsiOperator.Idna

/-- The first precomposed Hangul syllable. -/
def hangulBase : Nat := 0xAC00

/-- The first leading consonant jamo. -/
def leadBase : Nat := 0x1100

/-- The first vowel jamo. -/
def vowelBase : Nat := 0x1161

/-- The code point before the first trailing consonant jamo, standing for the absent one. -/
def trailBase : Nat := 0x11A7

/-- How many leading consonants there are. -/
def leadCount : Nat := 19

/-- How many vowels there are. -/
def vowelCount : Nat := 21

/-- How many trailing consonants there are, counting the absent one. -/
def trailCount : Nat := 28

/-- How many precomposed syllables there are: one for each leading consonant, vowel and
trailing consonant. -/
def hangulCount : Nat := 11172

/-- The canonical decomposition of a Hangul syllable: two or three jamo. -/
def hangulParts (n : Nat) : List Char :=
  let s := n - hangulBase
  let l := Char.ofNat (leadBase + s / (vowelCount * trailCount))
  let v := Char.ofNat (vowelBase + (s % (vowelCount * trailCount)) / trailCount)
  let t := s % trailCount
  if t = 0 then [l, v] else [l, v, Char.ofNat (trailBase + t)]

/-- The full canonical decomposition of a code point. Decompositions nest at most a few levels,
so the fuel given is never used up. -/
def decomposeWith : Nat → Char → List Char
  | 0, c => [c]
  | fuel + 1, c =>
    let n := c.toNat
    if hangulBase ≤ n ∧ n < hangulBase + hangulCount then hangulParts n
    else
      match decompositionOf c with
      | some d => d.parts.flatMap (decomposeWith fuel)
      | none => [c]

/-- The full canonical decomposition of a code point. -/
def decompose (c : Char) : List Char := decomposeWith 8 c

/-- Sorts the runs of code points with nonzero combining class by class, stably. -/
def reorder (cs : List Char) : List Char :=
  let flush (run out : List Char) : List Char :=
    (run.reverse.mergeSort fun a b => combiningClass a ≤ combiningClass b).reverse ++ out
  let (run, out) := cs.foldl (fun (run, out) c =>
    if combiningClass c = 0 then ([], c :: flush run out) else (c :: run, out)) ([], [])
  (flush run out).reverse

/-- The composite of two code points: a Hangul syllable from a leading consonant and a vowel,
or from a syllable without trailing consonant and one; otherwise a primary composite. -/
def compose? (a b : Char) : Option Char :=
  let x := a.toNat
  let y := b.toNat
  if leadBase ≤ x ∧ x < leadBase + leadCount ∧ vowelBase ≤ y ∧ y < vowelBase + vowelCount then
    some (Char.ofNat (hangulBase + ((x - leadBase) * vowelCount + (y - vowelBase)) * trailCount))
  else if hangulBase ≤ x ∧ x < hangulBase + hangulCount ∧ (x - hangulBase) % trailCount = 0 ∧
      trailBase < y ∧ y < trailBase + trailCount then
    some (Char.ofNat (x + (y - trailBase)))
  else composite? a b

/-- Composes a canonically ordered decomposed text. The state holds the output, the position
of the last starter in it, and the class of the last code point written, 256 when the text
starts with a nonstarter, which then composes with nothing. -/
def composeAll (cs : List Char) : List Char :=
  match cs with
  | [] => []
  | first :: rest =>
    let start : Array Char × Nat × Nat :=
      (#[first], 0, if combiningClass first = 0 then 0 else 256)
    let (out, _, _) := rest.foldl (fun (out, starter, last) c =>
      let cc := combiningClass c
      let joined := if last < cc || last = 0 then (out[starter]?).bind (compose? · c) else none
      match joined with
      | some k => (out.setIfInBounds starter k, starter, last)
      | none => (out.push c, if cc = 0 then out.size else starter, cc)) start
    out.toList

/-- A text in Normalization Form C. -/
def nfc (cs : List Char) : List Char := composeAll (reorder (cs.flatMap decompose))

end CsiOperator.Idna
