import Mathlib
import CsiOperator.Proofs.BlankYaml
/-!
Checking the array list of the Unity credentials.

The check refuses blank credentials and credentials without arrays, then reads the arrays in
order, keeping the identifiers seen so far and the number of default arrays so far, and stops at
the first array that misses an identifier, a user, a password or an address, repeats an
identifier, or is a second default. So an array list read from the credentials passes exactly
when it is not empty and sound (`ArraysSound`), and a refused list is refused at its first array
that the arrays before it make unsound, with that array's own error
(`checkUnityArrays_first_fault`). Blank credentials read as no arrays at all, so refusing them
refuses no list the reader would accept.

The scan is a fold whose step checks its state and then moves on; such a fold passes when every
check passes in the state the elements before it lead to (`foldlM_checked_ok`), and fails at its
first failing check (`foldlM_checked_eq_error`).
-/

namespace CsiOperator

section CheckedFold

variable {σ α ε : Type} {step : σ → α → Except ε σ} {check : σ → α → Except ε Unit}
  {next : σ → α → σ}

theorem foldlM_checked_ok (hstep : ∀ s x, step s x = (check s x >>= fun _ => pure (next s x)))
    (l : List α) (s : σ) :
    (∃ s', l.foldlM step s = .ok s') ↔
      ∀ pre x post, l = pre ++ x :: post → check (pre.foldl next s) x = .ok () := by
  induction l generalizing s with
  | nil =>
    constructor
    · intro _ pre x post h
      simp at h
    · intro _
      exact ⟨s, rfl⟩
  | cons x rest ih =>
    rw [List.foldlM_cons, hstep]
    cases hx : check s x with
    | error e =>
      -- the first element fails
      simp only [bind, Except.bind, reduceCtorEq, exists_false, false_iff, not_forall]
      refine ⟨[], x, rest, rfl, ?_⟩
      rw [List.foldl_nil, hx]
      intro h
      cases h
    | ok u =>
      simp only [bind, Except.bind, pure, Except.pure]
      rw [ih (next s x)]
      constructor
      · intro h pre y post hl
        rcases List.cons_eq_append_iff.1 hl with ⟨rfl, hyx⟩ | ⟨pre', rfl, hrest⟩
        · cases hyx
          exact hx
        · exact h pre' y post hrest
      · intro h pre y post hl
        exact h (x :: pre) y post (by rw [hl]; rfl)

theorem foldlM_checked_eq_error (hstep : ∀ s x, step s x = (check s x >>= fun _ => pure (next s x)))
    (l : List α) (s : σ) (e : ε) :
    l.foldlM step s = .error e ↔
      ∃ pre x post, l = pre ++ x :: post ∧ (∃ s', pre.foldlM step s = .ok s') ∧
        check (pre.foldl next s) x = .error e := by
  induction l generalizing s with
  | nil =>
    constructor
    · intro h
      cases h
    · rintro ⟨pre, x, post, h, -⟩
      simp at h
  | cons x rest ih =>
    rw [List.foldlM_cons, hstep]
    cases hx : check s x with
    | error e' =>
      simp only [bind, Except.bind]
      constructor
      · intro h
        cases h
        exact ⟨[], x, rest, rfl, ⟨s, rfl⟩, hx⟩
      · rintro ⟨pre, y, post, hl, ⟨s', hpre⟩, hy⟩
        rcases List.cons_eq_append_iff.1 hl with ⟨rfl, hyx⟩ | ⟨pre', rfl, -⟩
        · cases hyx
          rw [List.foldl_nil, hx] at hy
          cases hy
          rfl
        · -- no longer prefix passes once the first element fails
          rw [List.foldlM_cons, hstep, hx] at hpre
          cases hpre
    | ok u =>
      simp only [bind, Except.bind, pure, Except.pure]
      rw [ih (next s x)]
      constructor
      · rintro ⟨pre, y, post, hl, ⟨s', hpre⟩, hy⟩
        refine ⟨x :: pre, y, post, by rw [hl]; rfl, ⟨s', ?_⟩, hy⟩
        rw [List.foldlM_cons, hstep, hx]
        exact hpre
      · rintro ⟨pre, y, post, hl, ⟨s', hpre⟩, hy⟩
        rcases List.cons_eq_append_iff.1 hl with ⟨rfl, hyx⟩ | ⟨pre', rfl, hrest⟩
        · cases hyx
          rw [List.foldl_nil, hx] at hy
          cases hy
        · rw [List.foldlM_cons, hstep, hx] at hpre
          exact ⟨pre', y, post, hrest, ⟨s', hpre⟩, hy⟩

theorem zipIdx_eq_append_cons_iff {l : List α} {P Q : List (α × Nat)} {x : α × Nat} :
    l.zipIdx = P ++ x :: Q ↔ ∃ pre a post, l = pre ++ a :: post ∧ P = pre.zipIdx ∧
      x = (a, pre.length) ∧ Q = post.zipIdx (pre.length + 1) := by
  rw [List.zipIdx_eq_append_iff]
  constructor
  · rintro ⟨pre, rest, rfl, rfl, hrest⟩
    obtain ⟨a, post, rfl, rfl, rfl⟩ := List.zipIdx_eq_cons_iff.1 hrest.symm
    exact ⟨pre, a, post, rfl, rfl, by simp, by simp⟩
  · rintro ⟨pre, a, post, rfl, rfl, rfl, rfl⟩
    exact ⟨pre, a :: post, rfl, rfl, by simp [List.zipIdx_cons]⟩

end CheckedFold

namespace Hooks

namespace UnityArray

/-- An array names an identifier, a user, a password and an address. -/
def Complete (a : UnityArray) : Prop :=
  a.arrayId ≠ "" ∧ a.username ≠ "" ∧ a.password ≠ "" ∧ (a.restGateway ≠ "" ∨ a.endpoint ≠ "")

/-- Whether an array is marked as the default, by either of its flags. -/
def isDefaultAny (a : UnityArray) : Bool := a.isDefaultArray || a.isDefault

end UnityArray

/-- The number of arrays marked as the default. -/
def defaultCount (l : List UnityArray) : Nat := l.countP UnityArray.isDefaultAny

/-- Arrays that pass the checks: each complete, no identifier twice, at most one default. -/
def ArraysSound (l : List UnityArray) : Prop :=
  (∀ a ∈ l, a.Complete) ∧ (l.map (·.arrayId)).Nodup ∧ defaultCount l ≤ 1

theorem checkUnityArray_ok_iff {i : Nat} {a : UnityArray} {seen : List String} {defaults : Nat} :
    checkUnityArray i a seen defaults = .ok () ↔ a.Complete ∧ a.arrayId ∉ seen ∧ defaults ≤ 1 := by
  unfold checkUnityArray UnityArray.Complete
  simp only [String.isEmpty_iff, Bool.and_eq_true, List.contains_eq_mem, decide_eq_true_eq,
    gt_iff_lt, ne_eq]
  -- the guards in turn: a guard that holds throws, and the check passes when none holds
  have thrown : ∀ (e : OperatorError) (rest : Outcome Unit),
      ((throw e : Outcome Unit) >>= fun _ => rest) ≠ .ok () :=
    fun _ _ h => by cases h
  by_cases h₁ : a.arrayId = ""
  · simp [h₁, thrown]
  by_cases h₂ : a.username = ""
  · simp [h₁, h₂, thrown]
  by_cases h₃ : a.password = ""
  · simp [h₁, h₂, h₃, thrown]
  by_cases h₄ : a.restGateway = "" ∧ a.endpoint = ""
  · simp [h₁, h₂, h₃, h₄, thrown]
  by_cases h₅ : a.arrayId ∈ seen
  · simp [h₁, h₂, h₃, h₄, h₅, thrown]
  by_cases h₆ : 1 < defaults
  · simp [h₁, h₂, h₃, h₄, h₅, h₆, throw, throwThe, MonadExceptOf.throw]
  · simp only [h₁, h₂, h₃, h₄, h₅, h₆, if_false, not_false_eq_true, true_and]
    exact ⟨fun _ => ⟨not_and_or.1 h₄, Nat.le_of_not_lt h₆⟩, fun _ => rfl⟩

theorem nodup_map_of_prefixes {β : Type} {f : UnityArray → β} {l : List UnityArray}
    (h : ∀ pre a post, l = pre ++ a :: post → f a ∉ pre.map f) : (l.map f).Nodup := by
  induction l using List.reverseRecOn with
  | nil => exact List.nodup_nil
  | append_singleton l b ih =>
    rw [List.map_append, List.nodup_append]
    refine ⟨ih fun pre a post hl => h pre a (post ++ [b]) (by rw [hl]; simp),
      List.nodup_singleton _, fun x hx y hy => ?_⟩
    rw [List.mem_singleton.1 hy]
    rintro rfl
    exact h l b [] rfl hx

theorem arraysSound_iff_prefixes {l : List UnityArray} :
    ArraysSound l ↔ ∀ pre a post, l = pre ++ a :: post →
      a.Complete ∧ a.arrayId ∉ pre.map (·.arrayId) ∧ defaultCount (pre ++ [a]) ≤ 1 := by
  constructor
  · rintro ⟨hcomplete, hnodup, hdefaults⟩ pre a post rfl
    refine ⟨hcomplete a (by simp), fun hseen => ?_, ?_⟩
    · rw [List.map_append, List.nodup_append] at hnodup
      exact hnodup.2.2 _ hseen _ (by simp) rfl
    · -- the arrays up to this one are a prefix of all
      have hsub : (pre ++ [a]).Sublist (pre ++ a :: post) := by simp
      exact (hsub.countP_le).trans hdefaults
  · intro h
    refine ⟨fun a ha => ?_, nodup_map_of_prefixes fun pre a post hl => (h pre a post hl).2.1, ?_⟩
    · obtain ⟨pre, post, hl⟩ := List.append_of_mem ha
      exact (h pre a post hl).1
    · -- the defaults counted with the last array are all of them
      rcases List.eq_nil_or_concat l with rfl | ⟨pre, a, rfl⟩
      · simp [defaultCount]
      · rw [List.concat_eq_append]
        exact (h pre a [] List.concat_eq_append).2.2

theorem readUnityArrays_scalar {t : String} {style : Yaml.ScalarStyle} {tag : Option String}
    {m : Yaml.Mark} {l : List UnityArray}
    (h : readUnityArrays (.scalar t style tag m) = .ok l) : l = [] := by
  unfold readUnityArrays Yaml.YReader.record Yaml.YReader.recordOf at h
  dsimp only at h
  split at h
  · -- an empty scalar is a record with no members, whose list takes its default
    cases h
    rfl
  · cases h

/-- What the scan of the arrays carries from one array to the next: the identifiers seen, the
latest first, and the number of defaults. -/
def scanNext (st : List String × Nat) (x : UnityArray × Nat) : List String × Nat :=
  (x.1.arrayId :: st.1, if x.1.isDefaultAny then st.2 + 1 else st.2)

/-- The scan's check of one array at its index. -/
def scanCheck (st : List String × Nat) (x : UnityArray × Nat) : Outcome Unit :=
  checkUnityArray x.2 x.1 st.1 (scanNext st x).2

theorem foldl_scanNext (l : List UnityArray) (n : Nat) (seen : List String) (defaults : Nat) :
    (l.zipIdx n).foldl scanNext (seen, defaults) =
      ((l.map (·.arrayId)).reverse ++ seen, defaults + defaultCount l) := by
  induction l generalizing n seen defaults with
  | nil => rfl
  | cons a rest ih =>
    rw [List.zipIdx_cons, List.foldl_cons, scanNext]
    dsimp only
    rw [ih]
    -- the array's identifier goes after the later ones, and its flag into the count
    cases hd : a.isDefaultAny
    · simp [defaultCount, hd]
    · simp [defaultCount, hd]
      omega

theorem scanCheck_after (pre : List UnityArray) (a : UnityArray) :
    scanCheck (pre.zipIdx.foldl scanNext ([], 0)) (a, pre.length) =
      checkUnityArray pre.length a (pre.map (·.arrayId)).reverse (defaultCount (pre ++ [a])) := by
  rw [foldl_scanNext, scanCheck, scanNext]
  simp only [List.append_nil, Nat.zero_add, defaultCount, List.countP_append, List.countP_singleton]
  split <;> rfl

/-- One step of the scan: check the array, then carry its identifier and flag on. -/
def scanStep (st : List String × Nat) (x : UnityArray × Nat) : Outcome (List String × Nat) :=
  scanCheck st x >>= fun _ => pure (scanNext st x)

theorem arraysSound_append_singleton {pre : List UnityArray} {a : UnityArray}
    (hpre : ArraysSound pre) :
    ArraysSound (pre ++ [a]) ↔
      a.Complete ∧ a.arrayId ∉ pre.map (·.arrayId) ∧ defaultCount (pre ++ [a]) ≤ 1 := by
  obtain ⟨hcomplete, hnodup, -⟩ := hpre
  have hids : ((pre ++ [a]).map (·.arrayId)).Nodup ↔ a.arrayId ∉ pre.map (·.arrayId) := by
    rw [List.map_append, List.nodup_append]
    simp [hnodup]
  rw [ArraysSound, hids]
  constructor
  · rintro ⟨hall, hid, hcount⟩
    exact ⟨hall a (by simp), hid, hcount⟩
  · rintro ⟨ha, hid, hcount⟩
    refine ⟨fun x hx => ?_, hid, hcount⟩
    rcases List.mem_append.1 hx with hx | hx
    · exact hcomplete x hx
    · rw [List.mem_singleton.1 hx]
      exact ha

theorem scan_ok_iff (l : List UnityArray) :
    (∃ st, l.zipIdx.foldlM scanStep ([], 0) = .ok st) ↔ ArraysSound l := by
  rw [foldlM_checked_ok scanStep.eq_1, arraysSound_iff_prefixes]
  constructor
  · intro h pre a post hl
    have hcheck := h pre.zipIdx (a, pre.length) (post.zipIdx (pre.length + 1))
      (zipIdx_eq_append_cons_iff.2 ⟨pre, a, post, hl, rfl, rfl, rfl⟩)
    rwa [scanCheck_after, checkUnityArray_ok_iff, List.mem_reverse] at hcheck
  · intro h P x Q hl
    obtain ⟨pre, a, post, hsplit, rfl, rfl, rfl⟩ := zipIdx_eq_append_cons_iff.1 hl
    rw [scanCheck_after, checkUnityArray_ok_iff, List.mem_reverse]
    exact h pre a post hsplit

theorem scan_eq_error_iff (l : List UnityArray) (e : OperatorError) :
    l.zipIdx.foldlM scanStep ([], 0) = .error e ↔
      ∃ pre a post, l = pre ++ a :: post ∧ ArraysSound pre ∧ ¬ArraysSound (pre ++ [a]) ∧
        checkUnityArray pre.length a (pre.map (·.arrayId)).reverse (defaultCount (pre ++ [a])) =
          .error e := by
  rw [foldlM_checked_eq_error scanStep.eq_1]
  constructor
  · rintro ⟨P, x, Q, hl, hpre, hcheck⟩
    obtain ⟨pre, a, post, hsplit, rfl, rfl, rfl⟩ := zipIdx_eq_append_cons_iff.1 hl
    rw [scanCheck_after] at hcheck
    have hsound := (scan_ok_iff pre).1 hpre
    refine ⟨pre, a, post, hsplit, hsound, fun h => ?_, hcheck⟩
    -- a failed check is an array that breaks soundness
    have hpass := (arraysSound_append_singleton hsound).1 h
    rw [← List.mem_reverse, ← checkUnityArray_ok_iff, hcheck] at hpass
    cases hpass
  · rintro ⟨pre, a, post, hl, hsound, -, hcheck⟩
    refine ⟨pre.zipIdx, (a, pre.length), post.zipIdx (pre.length + 1),
      zipIdx_eq_append_cons_iff.2 ⟨pre, a, post, hl, rfl, rfl, rfl⟩, (scan_ok_iff pre).2 hsound, ?_⟩
    rw [scanCheck_after]
    exact hcheck

theorem readUnityArrays_blank {raw : String} {arrays : List UnityArray}
    (hblank : (Text.trimBlank raw).isEmpty = true)
    (hread : Yaml.readDocument readUnityArrays raw = .ok arrays) : arrays = [] := by
  obtain ⟨t, style, tag, m, h⟩ :=
    Yaml.readDocument_blank readUnityArrays (Text.trimBlank_isEmpty_iff.1 hblank) hread
  exact readUnityArrays_scalar h

theorem checkUnityArrays_eq {raw : String} {arrays : List UnityArray}
    (hread : Yaml.readDocument readUnityArrays raw = .ok arrays) :
    checkUnityArrays raw = if arrays.isEmpty then throw (.invalid noArrays)
      else arrays.zipIdx.foldlM scanStep ([], 0) >>= fun _ => pure () := by
  unfold checkUnityArrays
  by_cases hblank : (Text.trimBlank raw).isEmpty = true
  · -- blank credentials are refused before they are read, as the empty list they read as
    rw [readUnityArrays_blank hblank hread, if_pos hblank]
    rfl
  · rw [if_neg hblank, hread]
    rfl

/-- Credentials that read as a list of arrays pass exactly when the list is not empty and sound.
Otherwise they are refused for having no arrays, or at the first array that the sound arrays
before it make unsound, with that array's own error. -/
theorem checkUnityArrays_first_fault (raw : String) (arrays : List UnityArray)
    (hread : Yaml.readDocument readUnityArrays raw = .ok arrays) :
    (checkUnityArrays raw = .ok () ↔ arrays ≠ [] ∧ ArraysSound arrays) ∧
      ∀ e, (checkUnityArrays raw = .error e ↔ arrays = [] ∧ e = .invalid noArrays ∨
        ∃ pre a post, arrays = pre ++ a :: post ∧ ArraysSound pre ∧ ¬ArraysSound (pre ++ [a]) ∧
          checkUnityArray pre.length a (pre.map (·.arrayId)).reverse (defaultCount (pre ++ [a])) =
            .error e) := by
  rw [checkUnityArrays_eq hread]
  cases arrays with
  | nil =>
    -- no arrays: refused for that alone
    refine ⟨by simp, fun e => ⟨fun h => ?_, ?_⟩⟩
    · cases h
      exact Or.inl ⟨rfl, rfl⟩
    · rintro (⟨-, rfl⟩ | ⟨pre, a, post, hsplit, -⟩)
      · rfl
      · simp at hsplit
  | cons a rest =>
    have hne : a :: rest ≠ [] := List.cons_ne_nil a rest
    rw [List.isEmpty_cons, if_neg Bool.false_ne_true]
    -- arrays: the check is the scan
    cases hscan : (a :: rest).zipIdx.foldlM scanStep ([], 0) with
    | ok st =>
      have hsound := (scan_ok_iff _).1 ⟨st, hscan⟩
      refine ⟨iff_of_true rfl ⟨hne, hsound⟩, fun e => iff_of_false (fun h => by cases h) ?_⟩
      rintro (⟨h, -⟩ | hfault)
      · exact hne h
      · rw [← scan_eq_error_iff, hscan] at hfault
        cases hfault
    | error e' =>
      refine ⟨iff_of_false (fun h => by cases h) fun ⟨_, hsound⟩ => ?_, fun e => ?_⟩
      · obtain ⟨st, hst⟩ := (scan_ok_iff _).2 hsound
        rw [hscan] at hst
        cases hst
      · rw [or_iff_right fun h => hne h.1, ← scan_eq_error_iff, hscan]
        simp only [bind, Except.bind, Except.error.injEq]

deriving instance DecidableEq for UnityArray

/-- Credentials of two arrays under one identifier; the first is the default. -/
def repeatedIdCredentials : String :=
  "storageArrayList:\n- arrayId: APM001\n  username: admin\n  password: secret\n" ++
    "  endpoint: https://10.0.0.1/\n  isDefault: true\n- arrayId: APM001\n  username: admin\n" ++
    "  password: secret\n  restGateway: 10.0.0.2\n"

/-- The first array of `repeatedIdCredentials`. -/
def firstArray : UnityArray :=
  { arrayId := "APM001", username := "admin", password := "secret",
    endpoint := "https://10.0.0.1/", isDefault := true }

/-- The second array of `repeatedIdCredentials`, which repeats the first one's identifier. -/
def repeatedArray : UnityArray :=
  { arrayId := "APM001", username := "admin", password := "secret", restGateway := "10.0.0.2" }

/-- Two complete arrays under one identifier are refused at the second, for its identifier. -/
theorem repeatedArrayId_refused :
    Yaml.readDocument readUnityArrays repeatedIdCredentials = .ok [firstArray, repeatedArray] ∧
      checkUnityArrays repeatedIdCredentials =
        .error (.invalid "Duplicate ArrayID [APM001] found in storageArrayList parameter") := by
  have hread : Yaml.readDocument readUnityArrays repeatedIdCredentials =
      .ok [firstArray, repeatedArray] := by
    decide +kernel
  -- the first array alone is sound; the second repeats its identifier
  have sound : ArraysSound [firstArray] := by
    unfold ArraysSound UnityArray.Complete
    decide
  have unsound : ¬ArraysSound [firstArray, repeatedArray] := fun h => by
    have nodup := h.2.1
    simp [firstArray, repeatedArray] at nodup
  refine ⟨hread, ((checkUnityArrays_first_fault _ _ hread).2 _).2
    (.inr ⟨[firstArray], repeatedArray, [], rfl, sound, unsound, ?_⟩)⟩
  rfl

end Hooks

end CsiOperator
