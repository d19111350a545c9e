import CsiOperator.Number.Binary64
/-!
Suggestions for mistyped words: the Jaro similarity of two words, and the known words similar
enough to a mistyped one to be offered in its place.

Similarity is computed in binary64 arithmetic, each quotient and sum rounded. The rounding
matters at the threshold: a single matching character against a ten-letter word scores
`(1 + 0.1 + 1) / 3`, which rounds to just above 0.7, so it is offered, while against an
eleven-letter word it scores below. A word is offered when its similarity exceeds 0.7;
several are ordered from the least to the most similar, equal ones keeping their order.
-/

namespace CsiOperator.Suggest

/-- Marks the first unmatched position of `bs` within the window `[lo, hi)` holding `c`. -/
def claim (bs : List Char) (taken : List Bool) (c : Char) (lo hi : Nat) : Option (List Bool) :=
  let hit := (List.range bs.length).find? fun j =>
    lo ≤ j && j < hi && bs[j]? == some c && taken[j]? == some false
  hit.map fun j => taken.set j true

/-- The Jaro similarity of two words. -/
def jaro (a b : String) : Binary64 :=
  let as := a.toList
  let bs := b.toList
  let la := as.length
  let lb := bs.length
  if la = 0 && lb = 0 then Binary64.ofNat 1
  else if la = 0 || lb = 0 then Binary64.zero
  else
    let range := max la lb / 2 - 1
    let (aFlags, bFlags) := (as.zipIdx).foldl (fun (af, bf) (c, i) =>
      let lo := if i > range then i - range else 0
      let hi := min lb (i + range + 1)
      match claim bs bf c lo hi with
      | some bf' => (af ++ [true], bf')
      | none => (af ++ [false], bf)) (([] : List Bool), List.replicate lb false)
    let matchedA := ((as.zip aFlags).filter (·.2)).map (·.1)
    let matchedB := ((bs.zip bFlags).filter (·.2)).map (·.1)
    let m := matchedA.length
    if m = 0 then Binary64.zero
    else
      let t := ((matchedA.zip matchedB).filter fun (x, y) => x != y).length / 2
      let q (p r : Nat) : Binary64 := (Binary64.ofNat p).div (Binary64.ofNat r)
      (q m la + q m lb + q (m - t) m).div (Binary64.ofNat 3)

/-- Whether a similarity exceeds 0.7. -/
def close (s : Binary64) : Bool := !s.le (Binary64.ofDecimal false 7 (-1))

/-- Whether similarity `s` is below similarity `t`. -/
def below (s t : Binary64) : Bool := !t.le s

/-- The known words similar to a word, from the least to the most similar. -/
def similar (word : String) (known : List String) : List String :=
  let scored := (known.map fun k => (jaro word k, k)).filter (close ·.1)
  (scored.mergeSort fun x y => !below y.1 x.1).map (·.2)

/-- The known word most similar to a word, if any is similar enough. -/
def best? (word : String) (known : List String) : Option String := (similar word known).getLast?

end CsiOperator.Suggest
