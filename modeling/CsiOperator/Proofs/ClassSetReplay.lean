import Mathlib
import CsiOperator.Proofs.Replay
/-!
Converging a set of classes once, and then again.

From a store that answers every request, converging the declared classes of a kind leaves
them settled (`ClassesSettled`): each declared name holds a class that carries its last
declaration, and every class of the driver that the placeholder role owns is declared, since the
others were deleted. Converging a settled set again replaces each declared class by itself and
deletes nothing.
-/

namespace CsiOperator.Cluster

variable {k : ResourceKind} {c : Cluster}

theorem delete_empties (hc : Healthy c) (ns : Option String) (name : String) :
    ∃ c', (tryCatch (delete k ns name) fun _ => pure ()).run.run c = (.ok (), c') ∧
      Healthy c' ∧ ∀ key, c'.find? key = if key = keyFor k ns name then none else c.find? key := by
  have hrun : ∃ c', (delete k ns name).run.run c = (.ok (), c') ∧ c'.online = c.online ∧
      c'.failures = c.failures := by
    cases hfound : c.find? (keyFor k ns name) with
    | none =>
      simp only [delete, exceptState_run_bind, reach_run hc.online, checkFailure_run (hc.failing _ _),
        exceptState_run_get, hfound, Option.isSome_none, Bool.false_eq_true, if_false,
        exceptState_run_pure]
      exact ⟨_, rfl, rfl, rfl⟩
    | some existing =>
      simp only [delete, exceptState_run_bind, reach_run hc.online, checkFailure_run (hc.failing _ _),
        exceptState_run_get, hfound, Option.isSome_some, if_true, exceptState_run_liftM,
        exceptState_run_modify]
      exact ⟨_, rfl, rfl, rfl⟩
  obtain ⟨c', hrun, hon, hfail⟩ := hrun
  obtain ⟨hobjs, -⟩ := delete_ok hrun
  refine ⟨c', by rw [exceptState_run_tryCatch, hrun], hc.remove hobjs hon hfail, fun key => ?_⟩
  rw [find?_objects, hobjs, find?_filter_ne, ← find?_objects]

/-! ## A settled set of classes -/

/-- The declared classes of a kind, converged for the installation whose placeholder role is
named `dummyName`: each declared name holds a class that carries its last declaration, and every
class that `sameDriver` accepts and the role owns is declared. -/
structure ClassesSettled (k : ResourceKind) (sameDriver : Json → Bool) (dummyName : String)
    (desired : List Json) (c : Cluster) : Prop where
  declared : ∀ name d, Layer.lastWith Meta.nameAny desired name = some d →
    ∃ v, c.find? (keyFor k none name) = some v ∧ Carries v d
  owned : ∀ name obj, c.find? (keyFor k none name) = some obj → sameDriver obj = true →
    Sync.ownedBy obj dummyName = true → name ∈ desired.map Meta.nameAny

variable {sameDriver : Json → Bool} {dummyName : String} {desired : List Json}

theorem ClassesSettled.of_find {c' : Cluster} (hs : ClassesSettled k sameDriver dummyName desired c)
    (h : ∀ key : Key, key.kind = k → c'.find? key = c.find? key) :
    ClassesSettled k sameDriver dummyName desired c' :=
  ⟨fun name d hd => h (keyFor k none name) rfl ▸ hs.declared name d hd,
    fun name obj hobj => hs.owned name obj (h (keyFor k none name) rfl ▸ hobj)⟩

theorem ClassesSettled.resynced {c' : Cluster} (hs : ClassesSettled k sameDriver dummyName desired c)
    (hr : Resynced c c') (hk : k ≠ .pod)
    (hsame : ∀ v w, SameButVersion v w → sameDriver v = sameDriver w) :
    ClassesSettled k sameDriver dummyName desired c' := by
  refine ⟨fun name d hd => ?_, fun name obj hobj hdriver howned => ?_⟩
  · obtain ⟨v, hv, hcarries⟩ := hs.declared name d hd
    have hrel := hr.objects (keyFor k none name) hk
    rw [hv] at hrel
    obtain ⟨w, hw, hsbv⟩ := sameButVersion_rel_some hrel
    exact ⟨w, hw, Carries.of_sameButVersion hsbv hcarries⟩
  · -- the object was there before, related to the one now there
    have hrel := hr.objects (keyFor k none name) hk
    rw [hobj] at hrel
    cases hprev : c.find? (keyFor k none name) with
    | none => simp [hprev] at hrel
    | some prev =>
      rw [hprev, Option.rel_some_some] at hrel
      exact hs.owned name prev hprev ((hsame _ _ hrel).symm.trans hdriver)
        ((SameButVersion.ownedBy hrel dummyName).symm.trans howned)

/-! ## Converging a set of classes, then again -/

theorem attempt_ok_run {α : Type} {m : ClusterM α} {v : α} {c' : Cluster}
    {g : Except OperatorError α → ClusterM (Option OperatorError)}
    (h : m.run.run c = (.ok v, c')) (hg : ∀ v, g (.ok v) = pure none) :
    (Observe.attempt m >>= g).run.run c = (.ok none, c') := by
  rw [exceptState_run_bind, Observe.attempt_run, h]
  dsimp only
  rw [hg]
  rfl

theorem not_mem_keyFor_of_kind_ne {key : Key} (hkey : key.kind ≠ k) (names : List String) :
    key ∉ names.map (keyFor k none) := fun hmem => by
  obtain ⟨n, -, rfl⟩ := List.mem_map.1 hmem
  exact hkey rfl

theorem ensureClassSet_settles (hns : k.namespaced = false) (hc : Healthy c)
    (hsend : ∀ d ∈ desired, Sendable k d) (dummyName : String) (sameDriver : Json → Bool) :
    ∃ c', (Sync.ensureClassSet k desired dummyName sameDriver).run.run c = (.ok [], c') ∧
      Healthy c' ∧ ClassesSettled k sameDriver dummyName desired c' ∧
      ∀ key : Key, key.kind ≠ k → c'.find? key = c.find? key := by
  unfold Sync.ensureClassSet
  simp only [exceptState_run_bind, Observe.attempt_run, list_all hc.online hns]
  -- the declared classes are written one after another, and none fails
  split <;> rename_i result c₁ hrun₁ <;>
    obtain ⟨hresult, hc₁, hlast⟩ := filterMapM_holdsLast (k := k) hrun₁ hc fun d hd c hc => by
      obtain ⟨v, c', hrun, hc', hobjs, hcarries, -⟩ := createOrUpdate_written hc (hsend d hd)
      exact ⟨v, c', attempt_ok_run hrun fun _ => rfl, hc', hcarries, find?_of_put hobjs⟩
  swap
  · cases hresult
  cases hresult
  -- then the stale classes are deleted, and none fails
  split <;> rename_i u c₂ hrun₂ <;>
    obtain ⟨hu, hc₂, hgone⟩ := forM_empties hrun₂ hc₁ fun n _ c hc => delete_empties hc none n
  swap
  · cases hu
  refine ⟨c₂, rfl, hc₂, ?_, fun key hkey => ?_⟩
  · have hfinal : ∀ n, c₂.find? (keyFor k none n) =
        if n ∉ desired.map Meta.nameAny ∧ ∃ obj, c.find? (keyFor k none n) = some obj ∧
          (sameDriver obj && Sync.ownedBy obj dummyName) = true
        then none else c₁.find? (keyFor k none n) := fun n => by
      rw [hgone]
      exact if_congr (mem_stale hc.wellKeyed hns) rfl rfl
    have hkept : ∀ n, n ∉ desired.map Meta.nameAny →
        c₁.find? (keyFor k none n) = c.find? (keyFor k none n) := fun n hn =>
      (hlast (keyFor k none n)).2 (by rw [lastWith_keyFor hns, Layer.lastWith_eq_none.2 hn])
    refine ⟨fun n d hd => ?_, fun n obj hobj hdriver howned => ?_⟩
    · -- a declared name is not stale, and holds its last declaration
      have hn : n ∈ desired.map Meta.nameAny := by
        obtain ⟨hname, hmem⟩ := Layer.lastWith_key hd
        exact hname ▸ List.mem_map_of_mem hmem
      rw [hfinal, if_neg fun hstale => hstale.1 hn]
      exact (hlast (keyFor k none n)).1 d (by rw [lastWith_keyFor hns, hd])
    · -- an owned class of the driver that is not declared was stale, so it was deleted
      by_contra hn
      rw [hfinal, hkept n hn] at hobj
      split at hobj
      · cases hobj
      · next hstale => exact hstale ⟨hn, obj, hobj, by simp [hdriver, howned]⟩
  · rw [hgone, if_neg (not_mem_keyFor_of_kind_ne hkey _), hlast.other hkey]

/-- What a second pass over a settled set keeps: a store that answers, objects that each
inherit the status and uid of the object there before, and refreshing writes only. -/
structure Rewrites (c c' : Cluster) : Prop where
  healthy : Healthy c'
  inherits : ∀ key, Option.Rel Inherits (c'.find? key) (c.find? key)
  log : ∃ ws, c'.writes = c.writes ++ ws ∧ ∀ w ∈ ws, w.Refresh

theorem Rewrites.refl (hc : Healthy c) : Rewrites c c :=
  ⟨hc, fun key => by cases c.find? key <;> simp [Inherits.refl], [], by simp, by simp⟩

theorem Rewrites.write {c₁ c₂ : Cluster} {key : Key} {v : Json} (h : Rewrites c c₁)
    (hc₂ : Healthy c₂) (hw : Written key v c₁ c₂)
    (hfind : ∀ key', c₂.find? key' = if key' = key then some v else c₁.find? key')
    (hkind : key.kind ≠ .serviceAccount ∧ key.kind ≠ .csiDriver)
    (hstored : (c.find? key).isSome) : Rewrites c c₂ := by
  obtain ⟨ws, hws, hrefresh⟩ := h.log
  obtain ⟨ws', hws', hpods⟩ := hw.log
  have hrel := h.inherits key
  obtain ⟨found, hfound, hinherits⟩ : ∃ found, c₁.find? key = some found ∧
      ∀ orig, c.find? key = some orig → Inherits found orig := by
    obtain ⟨orig, horig⟩ := Option.isSome_iff_exists.1 hstored
    rw [horig] at hrel
    cases hprev : c₁.find? key with
    | none => simp [hprev] at hrel
    | some found =>
      rw [hprev, Option.rel_some_some] at hrel
      exact ⟨found, rfl, fun orig' h => by rw [horig, Option.some.injEq] at h; exact h ▸ hrel⟩
  refine ⟨hc₂, fun key' => ?_, ws ++ _ :: ws', by rw [hws', hws, List.append_assoc], ?_⟩
  · rw [hfind]
    split
    · next heq =>
      subst heq
      obtain ⟨orig, horig⟩ := Option.isSome_iff_exists.1 hstored
      rw [horig, Option.rel_some_some]
      exact (hw.inherits found hfound).trans (hinherits orig horig)
    · exact h.inherits key'
  · intro w hmem
    rcases List.mem_append.1 hmem with hmem | hmem
    · exact hrefresh w hmem
    rcases List.mem_cons.1 hmem with rfl | hmem
    · exact .inl ⟨by simp [hfound], hkind⟩
    · exact .inr (hpods w hmem)

theorem ensureClassSet_replays (hclass : k = .storageClass ∨ k = .volumeSnapshotClass)
    (hc : Healthy c) (hsend : ∀ d ∈ desired, Sendable k d)
    (hs : ClassesSettled k sameDriver dummyName desired c) :
    ∃ c', (Sync.ensureClassSet k desired dummyName sameDriver).run.run c = (.ok [], c') ∧
      Healthy c' ∧ Resynced c c' := by
  have hns : k.namespaced = false := by rcases hclass with rfl | rfl <;> rfl
  have hkind : k ≠ .serviceAccount ∧ k ≠ .csiDriver := by
    rcases hclass with rfl | rfl <;> exact ⟨by decide, by decide⟩
  have hinput : ¬k.isInput := by rcases hclass with rfl | rfl <;> simp [ResourceKind.isInput]
  -- every declared class is stored, so each write replaces one
  have hstored : ∀ d ∈ desired, (c.find? (keyOf k d)).isSome := fun d hd => by
    obtain ⟨d', hd'⟩ := Layer.lastWith_isSome (List.mem_map_of_mem (f := Meta.nameAny) hd)
    obtain ⟨v, hv, -⟩ := hs.declared _ d' hd'
    rw [keyOf_unscoped hns, hv]
    rfl
  unfold Sync.ensureClassSet
  simp only [exceptState_run_bind, Observe.attempt_run, list_all hc.online hns]
  split <;> rename_i result c₁ hrun₁ <;>
    obtain ⟨hresult, hc₁, hlast⟩ := filterMapM_holdsLast (k := k) hrun₁ (Rewrites.refl hc)
      fun d hd c' hc' => by
        obtain ⟨v, c'', hrun, hc'', hobjs, hcarries, hw⟩ :=
          createOrUpdate_written hc'.healthy (hsend d hd)
        exact ⟨v, c'', attempt_ok_run hrun fun _ => rfl, hc'.write hc'' hw (find?_of_put hobjs) hkind (hstored d hd),
          hcarries, find?_of_put hobjs⟩
  swap
  · cases hresult
  cases hresult
  -- no class is stale: each owned class of the driver is declared
  split <;> rename_i u c₂ hrun₂ <;>
    obtain ⟨hu, rfl⟩ := forM_of_forall_not_mem hrun₂ fun n hn => by
      obtain ⟨hn, obj, hobj, hP⟩ := (mem_stale hc.wellKeyed hns).1 (List.mem_map_of_mem hn)
      rw [Bool.and_eq_true] at hP
      exact hn (by simpa using hs.owned n obj hobj hP.1 hP.2)
  swap
  · cases hu
  refine ⟨c₂, rfl, hc₁.healthy, ⟨hc₁.log, fun key _ => ?_, hc.keepsInputs hc₁.healthy fun key hin => ?_⟩⟩
  · cases hd : Layer.lastWith (keyOf k) desired key with
    | none => rw [(hlast key).2 hd]; exact sameButVersion_rel_refl _
    | some d =>
      -- the class carries its last declaration, as it did before, and inherits the rest
      obtain ⟨v, hv, hcarries⟩ := (hlast key).1 d hd
      obtain ⟨hkey, -⟩ := Layer.lastWith_key hd
      subst hkey
      obtain ⟨w, hw, hcarried⟩ := hs.declared (Meta.nameAny d) d
        (by rw [← lastWith_keyFor hns, ← keyOf_unscoped hns, hd])
      rw [← keyOf_unscoped hns] at hw
      have hrel := hc₁.inherits (keyOf k d)
      rw [hv, hw, Option.rel_some_some] at hrel ⊢
      exact hcarries.sameButVersion hcarried hrel
  · exact hlast.other fun hk => hinput (hk ▸ hin)

end CsiOperator.Cluster
