import Mathlib
import CsiOperator.Build.Storage
/-!
The projected volume of a family's certificate secrets.

`projectedCertVolume` looks the names `<family>-certs-0`, `<family>-certs-1`, … up in a list of
secrets and stops at the first name the list lacks; a secret found without key `cert-i` in its
data is skipped, and the walk goes on past it. The walk is given the list's length plus one
rounds, and that is always enough: distinct indices name distinct secrets
(`numbered_injective`), so the indices before the first gap are at most as many as the secrets
(`le_length_of_holdsCert`). The volume's sources are exactly the keyed secrets below the first
gap, in increasing index, each projecting key `cert-i` to path `cert-i`
(`projectedCertVolume_sources`).
-/

namespace CsiOperator

theorem numbered_injective (p : String) : Function.Injective fun i : Nat => p ++ toString i := by
  intro i j h
  have hdigits : Nat.toDigits 10 i = Nat.toDigits 10 j := by
    have hlists := congrArg String.toList h
    simpa [Nat.toString_eq_ofList_toDigits] using hlists
  calc i = Nat.ofDigitChars 10 (Nat.toDigits 10 i) 0 := Nat.ofDigitChars_ten_toDigits.symm
    _ = Nat.ofDigitChars 10 (Nat.toDigits 10 j) 0 := by rw [hdigits]
    _ = j := Nat.ofDigitChars_ten_toDigits

namespace Build

section
variable (k : DriverKind) (secrets : List Json)

/-- The name of a family's `i`-th certificate secret. -/
def certName (i : Nat) : String := k.name ++ "-certs-" ++ toString i

/-- The data key of the `i`-th certificate. -/
def certKey (i : Nat) : String := "cert-" ++ toString i

/-- The list holds a secret named for certificate `i`. -/
def HoldsCert (i : Nat) : Prop := ∃ s ∈ secrets, Meta.nameAny s = certName k i

/-- The secret the list holds for certificate `i` (the first one so named) has key `cert-i` in
its data. -/
def certKeyed (i : Nat) : Bool :=
  (secrets.find? (Meta.nameAny · == certName k i)).any fun s =>
    ((s.get? "data").bind (·.get? (certKey i))).isSome

/-- The projection of certificate `i`: key `cert-i` of its secret, at path `cert-i`. -/
def certProjection (i : Nat) : Json :=
  .obj [("secret", .obj [("items", .arr [.obj [("key", .str (certKey i)), ("path", .str (certKey i))]]),
    ("name", .str (certName k i))])]

theorem certName_injective : Function.Injective (certName k) :=
  numbered_injective (k.name ++ "-certs-")

theorem find?_certName_isSome (i : Nat) :
    (secrets.find? (Meta.nameAny · == certName k i)).isSome ↔ HoldsCert k secrets i := by
  simp [HoldsCert, List.find?_isSome]

theorem le_length_of_holdsCert {g : Nat} (h : ∀ i < g, HoldsCert k secrets i) :
    g ≤ secrets.length := by
  have hnodup : ((List.range g).map (certName k)).Nodup :=
    List.nodup_range.map (certName_injective k)
  have hsub : (List.range g).map (certName k) ⊆ secrets.map Meta.nameAny := by
    intro n hn
    obtain ⟨i, hi, rfl⟩ := List.mem_map.1 hn
    obtain ⟨s, hs, hname⟩ := h i (List.mem_range.1 hi)
    exact List.mem_map.2 ⟨s, hs, hname⟩
  simpa using hnodup.length_le_of_subset hsub

theorem exists_certGap : ∃ g, ¬HoldsCert k secrets g := by
  by_contra h
  push Not at h
  have hle := le_length_of_holdsCert k secrets (g := secrets.length + 1) fun i _ => h i
  omega

theorem go_eq {g : Nat} (hheld : ∀ i < g, HoldsCert k secrets i) (hgap : ¬HoldsCert k secrets g)
    (fuel : Nat) : ∀ i, i ≤ g → g < i + fuel →
      projectedCertVolume.go k secrets fuel i =
        ((List.range' i (g - i)).filter (certKeyed k secrets)).map (certProjection k) := by
  induction fuel with
  | zero => intro i _ hfuel; omega
  | succ fuel ih =>
    intro i hi hfuel
    rcases Nat.lt_or_eq_of_le hi with hlt | rfl
    · -- below the gap a secret is found, projected when keyed, and the walk goes on
      obtain ⟨s, hs⟩ := Option.isSome_iff_exists.1 ((find?_certName_isSome k secrets i).2 (hheld i hlt))
      have hrange : List.range' i (g - i) = i :: List.range' (i + 1) (g - (i + 1)) := by
        rw [show g - i = g - (i + 1) + 1 by omega, List.range'_succ]
      have hrest := ih (i + 1) hlt (by omega)
      simp only [certName] at hs
      rw [projectedCertVolume.go, hrange, List.filter_cons]
      simp only [hs, hrest, certKeyed, certName, certKey, Option.any_some]
      split <;> simp [*, certProjection, certName, certKey]
    · -- at the gap the lookup fails and the walk stops
      have hnone : secrets.find? (Meta.nameAny · == certName k i) = none := by
        rw [← Option.not_isSome_iff_eq_none, find?_certName_isSome]
        exact hgap
      simp only [certName] at hnone
      simp only [projectedCertVolume.go, hnone, Nat.sub_self, List.range'_zero, List.filter_nil,
        List.map_nil]

/-- The projected certificate volume, for any family and any list of secrets: the walk stops at
the least index `g` with no secret, which is at most the number of secrets, and the sources
are the certificates below `g` whose secret holds their key, in increasing index, each
projecting key `cert-i` to path `cert-i`. -/
theorem projectedCertVolume_sources :
    ∃ g ≤ secrets.length, (∀ i < g, HoldsCert k secrets i) ∧ ¬HoldsCert k secrets g ∧
      projectedCertVolume k secrets = .obj [("name", .str "certs"), ("projected",
        .obj [("sources", .arr (((List.range g).filter (certKeyed k secrets)).map (certProjection k)))])] := by
  classical
  let g := Nat.find (exists_certGap k secrets)
  have hheld : ∀ i < g, HoldsCert k secrets i := fun i hi => not_not.1 (Nat.find_min _ hi)
  have hgap : ¬HoldsCert k secrets g := Nat.find_spec (exists_certGap k secrets)
  have hle := le_length_of_holdsCert k secrets hheld
  refine ⟨g, hle, hheld, hgap, ?_⟩
  rw [projectedCertVolume, go_eq k secrets hheld hgap _ 0 (Nat.zero_le _) (by omega)]
  simp [List.range_eq_range', DriverKind.certVolumeName]

/-- A secret without its key is skipped, and the walk stops at the first missing index. -/
example : projectedCertVolume .unity
    [.obj [("metadata", .obj [("name", .str "unity-certs-0")]), ("data", .obj [("cert-0", .str "cGVt")])],
     .obj [("metadata", .obj [("name", .str "unity-certs-1")])],
     .obj [("metadata", .obj [("name", .str "unity-certs-2")]), ("data", .obj [("cert-2", .str "cGVt")])],
     .obj [("metadata", .obj [("name", .str "unity-certs-4")]), ("data", .obj [("cert-4", .str "cGVt")])]] =
    .obj [("name", .str "certs"),
      ("projected", .obj [("sources", .arr [certProjection .unity 0, certProjection .unity 2])])] := by
  rfl

end

end Build

end CsiOperator
