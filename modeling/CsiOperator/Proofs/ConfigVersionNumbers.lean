import Mathlib
import CsiOperator.Proofs.FamilyHooks
/-!
Configuration version numbers.

A configuration version is `v` and decimal components joined by dots. Its number is what its
digits spell once the `v` and the dots are dropped (`configVersionNumber_versionText`): a
single component gives its own value, so versions of one component keep their order, but the
components of a longer version run together, and `v2.1`, which comes before `v3`, numbers 21
(`splitVersion_outnumbers`). The PowerMax limits of the versions before 4 hold exactly where
that number is below 4 (`validatePowermax_ok_iff`).
-/

namespace CsiOperator.Hooks

/-- The text of a configuration version: `v`, then the components joined by dots. -/
def versionText (comps : List String) : String := "v" ++ ".".intercalate comps

/-- A decimal component: one or more ASCII digits. -/
def Decimal (comp : String) : Prop := comp ≠ "" ∧ ∀ c ∈ comp.toList, c.isDigit = true

/-- The value of decimal digits. -/
def decimalValue (comp : String) : Nat := Nat.ofDigitChars 10 comp.toList 0

/-- Version order: the values of the components compared in turn, a version before its own
extensions. -/
def VersionLt (a b : List String) : Prop := a.map decimalValue < b.map decimalValue

/-- A storage class the configuration versions before 4 support: it binds immediately (by
default or by name) and names no topology. -/
def SupportedBeforeV4 (sc : StorageClassSpec) : Prop :=
  (sc.volumeBindingMode = "" ∨ sc.volumeBindingMode = "Immediate") ∧ sc.allowedTopologies = none

/-! ## Digits -/

theorem digit_lt_ten {c : Char} (h : c.isDigit = true) : c.toNat - '0'.toNat < 10 := by
  simp only [Char.isDigit, Bool.and_eq_true, decide_eq_true_eq] at h
  have hhi : c.val.toNat ≤ 57 := UInt32.le_iff_toNat_le.1 h.2
  change c.val.toNat - 48 < 10
  omega

theorem radixValue_digits {cs : List Char} (hne : cs ≠ []) (hd : ∀ c ∈ cs, c.isDigit = true) :
    Yaml.radixValue 10 cs = some (Nat.ofDigitChars 10 cs 0) := by
  unfold Yaml.radixValue
  rw [if_neg (by simpa using hne)]
  clear hne
  -- each digit is added to the value read before it
  generalize (0 : Nat) = init
  induction cs generalizing init with
  | nil => rfl
  | cons c cs ih =>
    have hc := hd c List.mem_cons_self
    rw [List.foldlM_cons]
    dsimp only
    rw [if_pos hc, Option.bind_some, if_pos (digit_lt_ten hc)]
    simp only [Option.map_some, Option.bind_eq_bind, Option.bind_some, Nat.ofDigitChars_cons,
      Nat.mul_comm init 10]
    exact ih (fun c' hc' => hd c' (List.mem_cons_of_mem c hc')) _

theorem parseRadix_digits {cs : List Char} (hne : cs ≠ []) (hd : ∀ c ∈ cs, c.isDigit = true) :
    Yaml.parseRadix 10 false cs = some (Nat.ofDigitChars 10 cs 0 : Int) := by
  -- digits begin with no sign
  obtain ⟨c, rest, rfl⟩ := List.exists_cons_of_ne_nil hne
  have hc := hd c List.mem_cons_self
  have hplus : c ≠ '+' := by rintro rfl; exact absurd hc (by decide)
  have hminus : c ≠ '-' := by rintro rfl; exact absurd hc (by decide)
  unfold Yaml.parseRadix
  split
  · next h => exact absurd (List.cons.inj h).1 hplus
  · next h => exact absurd (List.cons.inj h).1 hminus
  · rw [radixValue_digits hne hd]
    rfl

/-! ## Version texts -/

theorem intercalate_digits {comps : List String} (hd : ∀ comp ∈ comps, Decimal comp) :
    (".".intercalate comps).toList.filter (fun c => c != 'v' && c != '.') =
      (String.join comps).toList := by
  have hkeep : ∀ comp ∈ comps, comp.toList.filter (fun c => c != 'v' && c != '.') = comp.toList :=
    fun comp hcomp => List.filter_eq_self.2 fun c hc => by
      have hdigit := (hd comp hcomp).2 c hc
      have hv : c ≠ 'v' := by rintro rfl; exact absurd hdigit (by decide)
      have hdot : c ≠ '.' := by rintro rfl; exact absurd hdigit (by decide)
      simp [hv, hdot]
  induction comps with
  | nil => rfl
  | cons comp rest ih =>
    have hrest := ih (fun c hc => hd c (List.mem_cons_of_mem _ hc))
      (fun c hc => hkeep c (List.mem_cons_of_mem _ hc))
    cases rest with
    | nil => simpa using hkeep comp List.mem_cons_self
    | cons next more =>
      rw [String.intercalate_cons_cons, String.toList_append, String.toList_append,
        List.filter_append, List.filter_append, hkeep comp List.mem_cons_self, hrest,
        String.join_cons, String.toList_append]
      simp

theorem versionText_digits {comps : List String} (hd : ∀ comp ∈ comps, Decimal comp) :
    (versionText comps).toList.filter (fun c => c != 'v' && c != '.') =
      (String.join comps).toList := by
  rw [versionText, String.toList_append, List.filter_append, intercalate_digits hd]
  rfl

theorem join_ne_empty {comps : List String} (hne : comps ≠ []) (hd : ∀ comp ∈ comps, Decimal comp) :
    (String.join comps).toList ≠ [] := by
  obtain ⟨comp, rest, rfl⟩ := List.exists_cons_of_ne_nil hne
  have hcomp : comp.toList ≠ [] := by simpa using (hd comp List.mem_cons_self).1
  rw [String.join_cons, String.toList_append]
  exact List.append_ne_nil_of_left_ne_nil hcomp _

theorem join_digits {comps : List String} (hd : ∀ comp ∈ comps, Decimal comp) :
    ∀ c ∈ (String.join comps).toList, c.isDigit = true := by
  intro c hc
  induction comps with
  | nil => simp at hc
  | cons comp rest ih =>
    rw [String.join_cons, String.toList_append, List.mem_append] at hc
    rcases hc with hc | hc
    · exact (hd comp List.mem_cons_self).2 c hc
    · exact ih (fun comp' h => hd comp' (List.mem_cons_of_mem _ h)) hc

theorem configVersionNumber_versionText {comps : List String} (hne : comps ≠ [])
    (hd : ∀ comp ∈ comps, Decimal comp) :
    configVersionNumber (versionText comps) =
      if decimalValue (String.join comps) ≤ 4294967295 then .ok (decimalValue (String.join comps))
      else .error (.invalid ("invalid config version: " ++ versionText comps)) := by
  unfold configVersionNumber
  simp only [String.toList_ofList, versionText_digits hd,
    parseRadix_digits (join_ne_empty hne hd) (join_digits hd)]
  simp only [Nat.cast_le_ofNat, Int.toNat_natCast]
  rfl

theorem configVersionNumber_single {comp : String} (hd : Decimal comp)
    (hbound : decimalValue comp ≤ 4294967295) :
    configVersionNumber (versionText [comp]) = .ok (decimalValue comp) := by
  rw [configVersionNumber_versionText (List.cons_ne_nil _ _) (by simpa using hd)]
  simp [hbound]

theorem configVersionNumber_single_lt {a b : String} (ha : Decimal a) (hb : Decimal b)
    (hba : decimalValue a ≤ 4294967295) (hbb : decimalValue b ≤ 4294967295)
    (hlt : VersionLt [a] [b]) :
    ∃ m n, configVersionNumber (versionText [a]) = .ok m ∧
      configVersionNumber (versionText [b]) = .ok n ∧ m < n := by
  refine ⟨_, _, configVersionNumber_single ha hba, configVersionNumber_single hb hbb, ?_⟩
  simpa [VersionLt, List.cons_lt_cons_iff] using hlt

/-! ## The PowerMax limits -/

theorem checkClass_ok_iff (n : Nat) (sc : StorageClassSpec) :
    (do
      if !sc.volumeBindingMode.isEmpty && sc.volumeBindingMode != "Immediate" then
        throw (OperatorError.invalid (sc.volumeBindingMode ++
          " is not a supported value for volumeBindingMode in driver config version: " ++ toString n))
      if sc.allowedTopologies.isSome then
        throw (OperatorError.invalid ("topology is not supported in driver config version: " ++
          toString n)) : Outcome Unit) = .ok () ↔ SupportedBeforeV4 sc := by
  unfold SupportedBeforeV4
  by_cases hmode : sc.volumeBindingMode = "" ∨ sc.volumeBindingMode = "Immediate"
  · have hpass : (!sc.volumeBindingMode.isEmpty && sc.volumeBindingMode != "Immediate") = false := by
      rcases hmode with h | h <;> simp [h]
    cases htop : sc.allowedTopologies <;> simp [hpass, hmode, throw, throwThe, MonadExceptOf.throw,
      pure, Except.pure]
  · have hfail : (!sc.volumeBindingMode.isEmpty && sc.volumeBindingMode != "Immediate") = true := by
      simp only [not_or] at hmode
      simp [hmode.1, hmode.2]
    simp [hfail, hmode, bind, Except.bind, throw, throwThe, MonadExceptOf.throw]

theorem validatePowermax_ok_iff {d : DriverSpec} {n : Nat}
    (hn : configVersionNumber d.configVersion = .ok n) :
    validatePowermax d = .ok () ↔ 4 ≤ n ∨ ∀ sc ∈ d.storageClass, SupportedBeforeV4 sc := by
  unfold validatePowermax
  rw [hn]
  by_cases h4 : 4 ≤ n
  · simp [h4, bind, Except.bind, pure, Except.pure]
  · simp only [bind, Except.bind, ge_iff_le, h4, if_false, false_or]
    rw [forM_ok_iff]
    exact forall₂_congr fun sc _ => checkClass_ok_iff n sc

/-- Configuration version numbers run the digits of the components together: for versions of
one component they keep the version order, and the PowerMax limits of the versions before 4
apply exactly to the versions that number below 4. -/
theorem configVersionNumber_joins_components :
    (∀ comps : List String, comps ≠ [] → (∀ comp ∈ comps, Decimal comp) →
      decimalValue (String.join comps) ≤ 4294967295 →
      configVersionNumber (versionText comps) = .ok (decimalValue (String.join comps))) ∧
    (∀ a b : String, Decimal a → Decimal b → decimalValue a ≤ 4294967295 →
      decimalValue b ≤ 4294967295 → VersionLt [a] [b] →
      ∃ m n, configVersionNumber (versionText [a]) = .ok m ∧
        configVersionNumber (versionText [b]) = .ok n ∧ m < n) ∧
    (∀ (d : DriverSpec) (n : Nat), configVersionNumber d.configVersion = .ok n →
      (validatePowermax d = .ok () ↔ 4 ≤ n ∨ ∀ sc ∈ d.storageClass, SupportedBeforeV4 sc)) := by
  refine ⟨fun comps hne hd hbound => ?_, fun _ _ ha hb hba hbb hlt =>
    configVersionNumber_single_lt ha hb hba hbb hlt, fun _ _ hn => validatePowermax_ok_iff hn⟩
  rw [configVersionNumber_versionText hne hd, if_pos hbound]

/-- `v2.1` comes before `v3` but numbers 21, so a PowerMax class bound on first consumer passes
under it. -/
theorem splitVersion_outnumbers :
    VersionLt ["2", "1"] ["3"] ∧ configVersionNumber "v2.1" = .ok 21 ∧
      configVersionNumber "v3" = .ok 3 ∧
      validatePowermax
        { configVersion := "v2.1"
          storageClass := [{ name := "wffc", volumeBindingMode := "WaitForFirstConsumer" }] } =
        .ok () := by
  refine ⟨by unfold VersionLt; decide, by rfl, by rfl, by rfl⟩

end CsiOperator.Hooks
