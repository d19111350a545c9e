import Mathlib
import CsiOperator.Proofs.ClassSet
/-!
The requests of a convergence, made once and then made again.

A first convergence from a store the in-memory server keeps, answering every request
(`Healthy`), stores under each key the object it was sent, as the server stores it: the
members sent but the status, the metadata sent but the uid and resource version (`Carries`).
A second convergence finds every object in place, so it only replaces: each replacement keeps
the stored status and uid (`Inherits`), and so leaves the object as it was but for its resource
version (`SameButVersion`).

Objects are compared member by member, as documents whose members are not ordered.
-/

namespace CsiOperator.Cluster

/-! ## Stored objects compared -/

/-- Two stored objects that agree but for their resource version: the same members, and the
same metadata members but the resource version. -/
def SameButVersion (v w : Json) : Prop :=
  (∀ f, f ≠ "metadata" → v.get? f = w.get? f) ∧
    ∀ f, f ≠ "resourceVersion" → (Meta.of v).get? f = (Meta.of w).get? f

namespace SameButVersion

theorem refl (v : Json) : SameButVersion v v := ⟨fun _ _ => rfl, fun _ _ => rfl⟩

theorem symm {v w : Json} (h : SameButVersion v w) : SameButVersion w v :=
  ⟨fun f hf => (h.1 f hf).symm, fun f hf => (h.2 f hf).symm⟩

theorem trans {u v w : Json} (huv : SameButVersion u v) (hvw : SameButVersion v w) :
    SameButVersion u w :=
  ⟨fun f hf => (huv.1 f hf).trans (hvw.1 f hf), fun f hf => (huv.2 f hf).trans (hvw.2 f hf)⟩

theorem strD {v w : Json} (h : SameButVersion v w) {field : String} (hf : field ≠ "metadata") :
    v.strD field = w.strD field := by
  simp only [Json.strD, h.1 field hf]

theorem ownedBy {v w : Json} (h : SameButVersion v w) (dummyName : String) :
    Sync.ownedBy v dummyName = Sync.ownedBy w dummyName := by
  simp only [Sync.ownedBy, Meta.ownerReferences, h.2 "ownerReferences" (by decide)]

theorem ownedOutsideRbac {v w : Json} (h : SameButVersion v w) :
    Sync.ownedOutsideRbac v = Sync.ownedOutsideRbac w := by
  simp only [Sync.ownedOutsideRbac, Meta.ownerReferences, h.2 "ownerReferences" (by decide)]

theorem dummyOwner {v w : Json} (h : SameButVersion v w) :
    Build.dummyOwner v = Build.dummyOwner w := by
  simp only [Build.dummyOwner, Meta.nameAny, Meta.name?, Meta.uid?, Json.strOpt,
    h.2 "name" (by decide), h.2 "generateName" (by decide), h.2 "uid" (by decide)]

end SameButVersion

/-- What the server stores for a document it is sent: the document's members but the status,
and its metadata members but the uid and resource version the server assigns. -/
def Carries (v d : Json) : Prop :=
  (∀ f, f ≠ "status" → f ≠ "metadata" → v.get? f = d.get? f) ∧
    ∀ f, f ≠ "uid" → f ≠ "resourceVersion" → (Meta.of v).get? f = (Meta.of d).get? f

theorem Carries.of_sameButVersion {v w d : Json} (h : SameButVersion v w) (hw : Carries w d) :
    Carries v d :=
  ⟨fun f _ hm => (h.1 f hm).trans (hw.1 f ‹_› hm), fun f hu hr => (h.2 f hr).trans (hw.2 f hu hr)⟩

theorem Carries.nameAny {v d : Json} (h : Carries v d) : Meta.nameAny v = Meta.nameAny d := by
  simp only [Meta.nameAny, Meta.name?, Json.strOpt, h.2 "name" (by decide) (by decide),
    h.2 "generateName" (by decide) (by decide)]

/-- `v` keeps the status and the uid of `w`. -/
def Inherits (v w : Json) : Prop :=
  v.get? "status" = w.get? "status" ∧ (Meta.of v).get? "uid" = (Meta.of w).get? "uid"

theorem Inherits.refl (v : Json) : Inherits v v := ⟨rfl, rfl⟩

theorem Inherits.trans {u v w : Json} (huv : Inherits u v) (hvw : Inherits v w) : Inherits u w :=
  ⟨huv.1.trans hvw.1, huv.2.trans hvw.2⟩

theorem Carries.sameButVersion {v w d : Json} (hv : Carries v d) (hw : Carries w d)
    (hinherits : Inherits v w) : SameButVersion v w := by
  refine ⟨fun f hm => ?_, fun f hr => ?_⟩
  · by_cases hs : f = "status"
    · exact hs ▸ hinherits.1
    · exact (hv.1 f hs hm).trans (hw.1 f hs hm).symm
  · by_cases hu : f = "uid"
    · exact hu ▸ hinherits.2
    · exact (hv.2 f hu hr).trans (hw.2 f hu hr).symm

/-! ## Documents the convergence sends -/

/-- A document as a convergence sends it: its metadata is an object without a uid, and names a
namespace when the kind is namespaced. -/
structure Sendable (k : ResourceKind) (d : Json) : Prop where
  metadata : ∃ ms, d.get? "metadata" = some (.obj ms)
  uid : (Meta.of d).get? "uid" = none
  placed : k.namespaced = true → (Meta.namespace? d).isSome

theorem meta_get?_setMeta (x : Json) {field f : String} (y : Json) (h : field ≠ f) :
    (Meta.of (setMeta x field y)).get? f = (Meta.of x).get? f := by
  unfold setMeta
  split
  · next md _ hmd =>
    rw [Meta.of, Json.get?_set_self, Option.getD_some, Json.get?_set_of_ne _ _ h, Meta.of, hmd,
      Option.getD_some]
  · rfl

theorem meta_get?_bumpVersion (x : Json) {f : String} (h : f ≠ "resourceVersion") :
    (Meta.of (bumpVersion x)).get? f = (Meta.of x).get? f :=
  meta_get?_setMeta x _ (Ne.symm h)

theorem meta_get?_setMeta_same {x : Json} {field : String} {y : Json}
    (hx : (Meta.of x).get? field = some y) (f : String) :
    (Meta.of (setMeta x field y)).get? f = (Meta.of x).get? f := by
  by_cases hf : field = f
  · subst hf
    unfold setMeta
    split
    · rw [Meta.of, Json.get?_set_self, Option.getD_some, Json.get?_set_self, hx]
    · rfl
  · exact meta_get?_setMeta x y hf

theorem get?_of_strOpt {j : Json} {key s : String} (h : j.strOpt key = some s) :
    j.get? key = some (.str s) := by
  simp only [Json.strOpt, Option.bind_eq_some_iff] at h
  obtain ⟨v, hv, hs⟩ := h
  cases v <;> simp_all [Json.str?]

theorem create_carries {c c' : Cluster} {k : ResourceKind} {d v : Json} (hd : Sendable k d)
    (h : (create k d).run.run c = (.ok v, c')) : Carries v d := by
  obtain ⟨hfound, -, -, hsent⟩ := create_ok h
  refine ⟨fun f hs hm => hsent.1 f hs hm, fun f hu hr => ?_⟩
  have hon : c.online = true := by
    cases hon : c.online
    · simp only [create, exceptState_run_bind, reach_error hon] at h
      cases h
    · rfl
  cases hfail : c.failing .create k
  · simp only [create, exceptState_run_bind, reach_run hon, checkFailure_run hfail,
      exceptState_run_get, hfound, Option.isSome_none, Bool.false_eq_true, if_false,
      exceptState_run_liftM, exceptState_run_modify, exceptState_run_pure] at h
    rw [Prod.mk.injEq, Except.ok.injEq] at h
    obtain ⟨rfl, -⟩ := h
    generalize (StateT.run freshUid c).1 = uid
    -- the uid is set, then the namespace of the key, then the resource version
    have base : ∀ g, g ≠ "uid" →
        (Meta.of (setMeta (d.erase "status") "uid" (.str uid))).get? g = (Meta.of d).get? g :=
      fun g hg => by rw [meta_get?_setMeta _ _ (Ne.symm hg), Meta.of_erase_of_ne _ (by decide)]
    rw [meta_get?_bumpVersion _ hr]
    split
    · next hns =>
      obtain ⟨ns, hnsd⟩ := Option.isSome_iff_exists.1 (hd.placed hns)
      have hkey : (keyOf k d).ns = ns := by simp [keyOf, keyFor, hns, hnsd]
      rw [hkey, meta_get?_setMeta_same ((base _ (by decide)).trans (get?_of_strOpt hnsd)), base f hu]
    · exact base f hu
  · obtain ⟨e, he⟩ := checkFailure_error hfail
    simp only [create, exceptState_run_bind, reach_run hon, he] at h
    cases h

theorem meta_get?_setMeta_self {x : Json} (hx : ∃ ms, x.get? "metadata" = some (.obj ms))
    (field : String) (y : Json) : (Meta.of (setMeta x field y)).get? field = some y := by
  obtain ⟨ms, hms⟩ := hx
  rw [setMeta, hms, Meta.of, Json.get?_set_self, Option.getD_some, Json.get?_set_self]

theorem meta_withVersionOf (d found : Json) {f : String} (hf : f ≠ "resourceVersion") :
    (Meta.of (Sync.withVersionOf d found)).get? f = (Meta.of d).get? f := by
  have hof : ∀ md, Meta.of (d.set "metadata" md) = md := fun md => by
    rw [Meta.of, Json.get?_set_self, Option.getD_some]
  simp only [Sync.withVersionOf, Meta.modify, Meta.setOf, hof]
  split
  · rw [Json.get?_set_of_ne _ _ (Ne.symm hf)]
  · rw [Json.get?_erase_of_ne _ (Ne.symm hf)]

theorem withVersionOf_metadata {d : Json} (hd : ∃ ms, d.get? "metadata" = some (.obj ms))
    (found : Json) : ∃ ms, (Sync.withVersionOf d found).get? "metadata" = some (.obj ms) := by
  obtain ⟨ms, hms⟩ := hd
  simp only [Sync.withVersionOf, Meta.modify, Meta.setOf, Json.get?_set_self, Meta.of, hms,
    Option.getD_some]
  split
  · exact ⟨_, rfl⟩
  · exact ⟨_, rfl⟩

theorem update_withVersionOf {c c' : Cluster} {k : ResourceKind} {d found v : Json}
    (hd : Sendable k d) (h : (update k (Sync.withVersionOf d found)).run.run c = (.ok v, c')) :
    ∃ existing, c.find? (keyOf k d) = some existing ∧ Carries v d ∧ Inherits v existing := by
  have hkey : keyOf k (Sync.withVersionOf d found) = keyOf k d :=
    keyOf_of_sameNames k (Sync.withVersionOf_meta d found).1
  have hsent := update_sent h
  obtain ⟨existing, hfound, hon, hfail, -, hstatus, -⟩ := update_ok h
  simp only [update, exceptState_run_bind, reach_run hon, checkFailure_run hfail,
    exceptState_run_get, hfound, exceptState_run_liftM, exceptState_run_modify,
    exceptState_run_pure] at h
  rw [Prod.mk.injEq, Except.ok.injEq] at h
  obtain ⟨rfl, -⟩ := h
  -- the document sent keeps an object for metadata whatever status it is given
  have hset : ∀ st u, (Meta.of (setMeta ((Sync.withVersionOf d found).set "status" st) "uid" u)).get?
      "uid" = some u := fun st u => meta_get?_setMeta_self
    (by rw [Json.get?_set_of_ne _ _ (by decide)]; exact withVersionOf_metadata hd.metadata found) _ _
  have herase : ∀ u, (Meta.of (setMeta ((Sync.withVersionOf d found).erase "status") "uid" u)).get?
      "uid" = some u := fun u => meta_get?_setMeta_self
    (by rw [Json.get?_erase_of_ne _ (by decide)]; exact withVersionOf_metadata hd.metadata found) _ _
  have hnone := (meta_withVersionOf d found (show "uid" ≠ "resourceVersion" by decide)).trans hd.uid
  refine ⟨existing, hkey ▸ hfound, ⟨fun f hs hm => (hsent.1 f hs hm).trans
    ((Sync.withVersionOf_meta d found).2.1 f hs hm), fun f hu hr => ?_⟩, hstatus, ?_⟩
  · -- the stored resource version and uid are set over the metadata sent
    rw [meta_get?_bumpVersion _ hr]
    generalize (Meta.of existing).get? "resourceVersion" = rv
    generalize (Meta.of existing).get? "uid" = uid
    generalize existing.get? "status" = st
    cases rv <;> cases uid <;> cases st <;>
      simp only [meta_get?_setMeta _ _ (Ne.symm hr), meta_get?_setMeta _ _ (Ne.symm hu),
        Meta.of_set_of_ne _ _ (show "status" ≠ "metadata" by decide),
        Meta.of_erase_of_ne _ (show "status" ≠ "metadata" by decide), meta_withVersionOf d found hr]
  · -- the stored uid is set, or there is none and the document sent has none
    rw [meta_get?_bumpVersion _ (by decide)]
    generalize (Meta.of existing).get? "resourceVersion" = rv
    generalize (Meta.of existing).get? "uid" = uid
    generalize existing.get? "status" = st
    cases rv <;> cases uid <;> cases st <;>
      simp only [meta_get?_setMeta _ _ (show "resourceVersion" ≠ "uid" by decide), hset, herase,
        Meta.of_set_of_ne _ _ (show "status" ≠ "metadata" by decide),
        Meta.of_erase_of_ne _ (show "status" ≠ "metadata" by decide), hnone]

/-! ## Stores that answer every request -/

@[simp] theorem keyFor_kind (k : ResourceKind) (ns : Option String) (name : String) :
    (keyFor k ns name).kind = k := rfl

@[simp] theorem keyOf_kind (k : ResourceKind) (obj : Json) : (keyOf k obj).kind = k := rfl

/-- A store as the in-memory server keeps it that answers every request: well keyed,
reachable, and with no failure injected. -/
structure Healthy (c : Cluster) : Prop where
  wellKeyed : c.WellKeyed
  online : c.online = true
  unfailing : c.failures = []

section Healthy

variable {c c' : Cluster}

theorem Healthy.failing (hc : Healthy c) (verb : Verb) (k : ResourceKind) :
    c.failing verb k = false := by
  simp [Cluster.failing, hc.unfailing]

theorem Healthy.put (hc : Healthy c) {key : Key} {v : Json} (hkey : keyOf key.kind v = key)
    (hobjs : c'.objects = putObject c.objects key v) (hon : c'.online = c.online)
    (hfail : c'.failures = c.failures) : Healthy c' :=
  ⟨hc.wellKeyed.put hkey c' hobjs, hon.trans hc.online, hfail.trans hc.unfailing⟩

theorem Healthy.remove (hc : Healthy c) {key : Key}
    (hobjs : c'.objects = c.objects.filter (·.1 != key)) (hon : c'.online = c.online)
    (hfail : c'.failures = c.failures) : Healthy c' :=
  ⟨hc.wellKeyed.filter _ c' hobjs, hon.trans hc.online, hfail.trans hc.unfailing⟩

theorem Healthy.keepsInputs (hc : Healthy c) (hc' : Healthy c')
    (h : ∀ key : Key, key.kind.isInput → c'.find? key = c.find? key) : KeepsInputs c c' :=
  ⟨h, hc'.unfailing.trans hc.unfailing.symm, hc'.online.trans hc.online.symm⟩

/-! ## Writes followed by deletions of pods -/

/-- `c'` is `c` with some pods deleted, each deletion logged. -/
structure PrunesPods (c c' : Cluster) : Prop where
  kept : ∀ key : Key, key.kind ≠ .pod → c'.find? key = c.find? key
  log : ∃ ws, c'.writes = c.writes ++ ws ∧ ∀ w ∈ ws, w.verb = .delete ∧ w.kind = .pod

theorem PrunesPods.refl (c : Cluster) : PrunesPods c c :=
  ⟨fun _ _ => rfl, [], by simp, by simp⟩

theorem PrunesPods.trans {c₁ c₂ : Cluster} (h₁ : PrunesPods c c₁) (h₂ : PrunesPods c₁ c₂) :
    PrunesPods c c₂ := by
  obtain ⟨ws₁, hw₁, hd₁⟩ := h₁.log
  obtain ⟨ws₂, hw₂, hd₂⟩ := h₂.log
  refine ⟨fun key hk => (h₂.kept key hk).trans (h₁.kept key hk), ws₁ ++ ws₂, ?_, ?_⟩
  · rw [hw₂, hw₁, List.append_assoc]
  · intro w hw
    rcases List.mem_append.1 hw with hw | hw
    · exact hd₁ w hw
    · exact hd₂ w hw

theorem delete_prunes (hc : Healthy c) (ns : Option String) (name : String) :
    ∃ c', (delete .pod ns name).run.run c = (.ok (), c') ∧ Healthy c' ∧ PrunesPods c c' := by
  have kept : ∀ key : Key, key.kind ≠ .pod →
      ((c.objects.filter (·.1 != keyFor .pod ns name)).find? (·.1 == key)).map (·.2) =
        c.find? key := fun key hk => by
    rw [find?_filter_ne, if_neg (fun h => hk (congrArg Key.kind h)), find?_objects]
  cases hfound : c.find? (keyFor .pod ns name) with
  | none =>
    simp only [delete, exceptState_run_bind, reach_run hc.online, checkFailure_run (hc.failing _ _),
      exceptState_run_get, hfound, Option.isSome_none, Bool.false_eq_true, if_false,
      exceptState_run_pure]
    exact ⟨c, rfl, hc, PrunesPods.refl c⟩
  | some existing =>
    simp only [delete, exceptState_run_bind, reach_run hc.online, checkFailure_run (hc.failing _ _),
      exceptState_run_get, hfound, Option.isSome_some, if_true, exceptState_run_liftM,
      exceptState_run_modify]
    refine ⟨_, rfl, hc.remove rfl rfl rfl, kept, _, rfl, fun w hw => ?_⟩
    rw [List.mem_singleton] at hw
    subst hw
    exact ⟨rfl, rfl⟩

theorem forM_prunes {f : Json → ClusterM PUnit} (hf : ∀ a c, Healthy c →
      ∃ c', (f a).run.run c = (.ok (), c') ∧ Healthy c' ∧ PrunesPods c c')
    (l : List Json) (hc : Healthy c) :
    ∃ c', (l.forM f).run.run c = (.ok (), c') ∧ Healthy c' ∧ PrunesPods c c' := by
  induction l generalizing c with
  | nil => exact ⟨c, rfl, hc, PrunesPods.refl c⟩
  | cons a rest ih =>
    obtain ⟨c₁, hrun₁, hc₁, hpruned₁⟩ := hf a c hc
    obtain ⟨c₂, hrun₂, hc₂, hpruned₂⟩ := ih hc₁
    refine ⟨c₂, ?_, hc₂, hpruned₁.trans hpruned₂⟩
    change (f a >>= fun _ => rest.forM f).run.run c = _
    rw [exceptState_run_bind, hrun₁]
    exact hrun₂

theorem refreshPods_prunes (hc : Healthy c) (template : Json) (pods : List Json) :
    ∃ c', (Sync.refreshPods template pods).run.run c = (.ok (), c') ∧ Healthy c' ∧
      PrunesPods c c' := by
  unfold Sync.refreshPods
  refine forM_prunes (fun pod c hc => ?_) pods hc
  -- a drifted pod is deleted, and a failure to delete it is ignored
  dsimp only
  split_ifs
  · obtain ⟨c₁, hrun, hc₁, hpruned⟩ := delete_prunes hc (Meta.namespace? pod) (Meta.nameAny pod)
    exact ⟨c₁, by rw [exceptState_run_tryCatch, hrun], hc₁, hpruned⟩
  · exact ⟨c, rfl, hc, PrunesPods.refl c⟩

/-! ## One write, then deletions of pods -/

/-- `c'` is `c` after `v` is written under `key`, and then some pods deleted. The write is
logged as a creation when the key was empty and as a replacement otherwise, and a replacement
keeps the stored status and uid. -/
structure Written (key : Key) (v : Json) (c c' : Cluster) : Prop where
  find : ∀ key' : Key, key'.kind ≠ .pod →
    c'.find? key' = if key' = key then some v else c.find? key'
  log : ∃ ws, c'.writes = c.writes ++
      { verb := (if (c.find? key).isSome then .update else .create), kind := key.kind,
        name := key.name } :: ws ∧ ∀ w ∈ ws, w.verb = .delete ∧ w.kind = .pod
  inherits : ∀ found, c.find? key = some found → Inherits v found

theorem Written.prune {key : Key} {v : Json} {c₁ c₂ : Cluster} (h : Written key v c c₁)
    (hpruned : PrunesPods c₁ c₂) : Written key v c c₂ := by
  obtain ⟨ws₁, hw₁, hd₁⟩ := h.log
  obtain ⟨ws₂, hw₂, hd₂⟩ := hpruned.log
  refine ⟨fun key' hk => (hpruned.kept key' hk).trans (h.find key' hk), ⟨ws₁ ++ ws₂, ?_, ?_⟩,
    h.inherits⟩
  · rw [hw₂, hw₁, List.append_assoc, List.cons_append]
  · intro w hw
    rcases List.mem_append.1 hw with hw | hw
    · exact hd₁ w hw
    · exact hd₂ w hw

theorem create_written {k : ResourceKind} {obj : Json} (hc : Healthy c)
    (hfound : c.find? (keyOf k obj) = none) :
    ∃ v c', (create k obj).run.run c = (.ok v, c') ∧ Healthy c' ∧
      c'.objects = putObject c.objects (keyOf k obj) v ∧ Written (keyOf k obj) v c c' := by
  have hrun : ∃ v c', (create k obj).run.run c = (.ok v, c') ∧ c'.online = c.online ∧
      c'.failures = c.failures ∧
      c'.writes = c.writes ++ [{ verb := .create, kind := k, name := (keyOf k obj).name }] := by
    simp only [create, exceptState_run_bind, reach_run hc.online, checkFailure_run (hc.failing _ _),
      exceptState_run_get, hfound, Option.isSome_none, Bool.false_eq_true, if_false,
      exceptState_run_liftM, exceptState_run_modify, exceptState_run_pure]
    exact ⟨_, _, rfl, rfl, rfl, rfl⟩
  obtain ⟨v, c', hrun, hon, hfail, hwrites⟩ := hrun
  obtain ⟨-, hobjs, hkey, -⟩ := create_ok hrun
  refine ⟨v, c', hrun, hc.put hkey hobjs hon hfail, hobjs, fun key _ => find?_of_put hobjs key,
    ⟨[], by simp [hwrites, hfound], by simp⟩, fun _ h => by rw [hfound] at h; cases h⟩

theorem replace_written {k : ResourceKind} {d found : Json} (hc : Healthy c) (hd : Sendable k d)
    (hfound : c.find? (keyOf k d) = some found) :
    ∃ v c', (Sync.replace k found d).run.run c = (.ok v, c') ∧ Healthy c' ∧
      c'.objects = putObject c.objects (keyOf k d) v ∧ Carries v d ∧ Written (keyOf k d) v c c' := by
  have hkey : keyOf k (Sync.withVersionOf d found) = keyOf k d :=
    keyOf_of_sameNames k (Sync.withVersionOf_meta d found).1
  obtain ⟨v, hrun, -, hnames⟩ := update_run hc.online (hc.failing .update k) (hkey ▸ hfound)
  obtain ⟨existing, hexisting, hcarries, hinherits⟩ := update_withVersionOf hd hrun
  rw [hfound, Option.some.injEq] at hexisting
  subst hexisting
  have hvkey : keyOf k v = keyOf k d := (keyOf_of_sameNames k hnames).trans hkey
  rw [hkey] at hrun
  refine ⟨v, _, hrun, hc.put hvkey rfl rfl rfl, rfl, hcarries, fun key _ => find?_of_put rfl key,
    ⟨[], by simp [hfound], by simp⟩, fun found' h => ?_⟩
  rw [hfound, Option.some.injEq] at h
  exact h ▸ hinherits

theorem createOrUpdate_written (hc : Healthy c) {k : ResourceKind} {d : Json} (hd : Sendable k d) :
    ∃ v c', (Sync.createOrUpdate k d).run.run c = (.ok v, c') ∧ Healthy c' ∧
      c'.objects = putObject c.objects (keyOf k d) v ∧ Carries v d ∧ Written (keyOf k d) v c c' := by
  unfold Sync.createOrUpdate
  rw [exceptState_run_bind, get_run hc.online]
  rw [show keyFor k (Meta.namespace? d) (Meta.nameAny d) = keyOf k d from rfl]
  cases hfound : c.find? (keyOf k d) with
  | none =>
    obtain ⟨v, c', hrun, hc', hobjs, hwritten⟩ := create_written hc hfound
    exact ⟨v, c', hrun, hc', hobjs, create_carries hd hrun, hwritten⟩
  | some found => exact replace_written hc hd hfound

theorem ensureServiceAccount_creates (hc : Healthy c) (sa : Json) :
    ∃ c', (Sync.ensureServiceAccount sa).run.run c = (.ok (), c') ∧ Healthy c' ∧
      (c'.find? (keyOf .serviceAccount sa)).isSome ∧
      ∀ key, key ≠ keyOf .serviceAccount sa → c'.find? key = c.find? key := by
  unfold Sync.ensureServiceAccount
  rw [exceptState_run_bind, get_run hc.online]
  rw [show keyFor .serviceAccount (Meta.namespace? sa) (Meta.nameAny sa) =
    keyOf .serviceAccount sa from rfl]
  cases hfound : c.find? (keyOf .serviceAccount sa) with
  | none =>
    obtain ⟨v, c', hrun, hc', hobjs, -⟩ := create_written hc hfound
    refine ⟨c', ?_, hc', by rw [find?_of_put hobjs, if_pos rfl]; rfl,
      fun key hkey => by rw [find?_of_put hobjs, if_neg hkey]⟩
    simp only [Option.isNone_none, if_true]
    rw [exceptState_run_bind, hrun]
    rfl
  | some found => exact ⟨c, rfl, hc, by rw [hfound]; rfl, fun _ _ => rfl⟩

theorem ensureServiceAccount_present (hc : Healthy c) {sa : Json}
    (h : (c.find? (keyOf .serviceAccount sa)).isSome) :
    (Sync.ensureServiceAccount sa).run.run c = (.ok (), c) := by
  unfold Sync.ensureServiceAccount
  rw [exceptState_run_bind, get_run hc.online]
  obtain ⟨found, hfound⟩ := Option.isSome_iff_exists.1 h
  rw [show keyFor .serviceAccount (Meta.namespace? sa) (Meta.nameAny sa) =
    keyOf .serviceAccount sa from rfl, hfound]
  rfl

theorem update_put {k : ResourceKind} {obj existing : Json} (hc : Healthy c)
    (hfound : c.find? (keyOf k obj) = some existing) :
    ∃ v c', (update k obj).run.run c = (.ok v, c') ∧ Healthy c' ∧
      c'.objects = putObject c.objects (keyOf k obj) v ∧ Sent v obj := by
  obtain ⟨v, hrun, -, hnames⟩ := update_run hc.online (hc.failing .update k) hfound
  exact ⟨v, _, hrun, hc.put (keyOf_of_sameNames _ hnames) rfl rfl rfl, rfl, update_sent hrun⟩

theorem ensureCsiDriver_settles (hc : Healthy c) {desired : Json}
    (howners : Sync.ownedOutsideRbac desired = false) :
    ∃ c', (Sync.ensureCsiDriver desired).run.run c = (.ok (), c') ∧ Healthy c' ∧
      (∃ v, c'.find? (keyOf .csiDriver desired) = some v ∧ Sync.ownedOutsideRbac v = false) ∧
      ∀ key, key ≠ keyOf .csiDriver desired → c'.find? key = c.find? key := by
  unfold Sync.ensureCsiDriver
  rw [exceptState_run_bind, get_run hc.online]
  rw [show keyFor .csiDriver none (Meta.nameAny desired) = keyOf .csiDriver desired by
    simp [keyOf, keyFor, ResourceKind.namespaced]]
  cases hfound : c.find? (keyOf .csiDriver desired) with
  | none =>
    obtain ⟨v, c', hrun, hc', hobjs, -⟩ := create_written hc hfound
    refine ⟨c', by dsimp only; rw [exceptState_run_bind, hrun]; rfl, hc',
      ⟨v, by rw [find?_of_put hobjs, if_pos rfl], ?_⟩,
      fun key hkey => by rw [find?_of_put hobjs, if_neg hkey]⟩
    exact (Sync.ownedOutsideRbac_of_sent (create_ok hrun).2.2.2).trans howners
  | some found =>
    dsimp only
    split
    · -- a CSIDriver owned outside cluster roles takes the desired owners, where it is stored
      next stale =>
      have hplaced : keyOf .csiDriver found = keyOf .csiDriver desired :=
        hc.wellKeyed.keyed _ (hc.wellKeyed.find?_eq_some.1 hfound)
      have hkey : keyOf .csiDriver (Meta.setField found "ownerReferences"
          (((Meta.of desired).get? "ownerReferences").getD (.arr []))) =
          keyOf .csiDriver desired :=
        (keyOf_of_sameNames _ (Sync.sameNames_setField _ _ (by decide))).trans hplaced
      obtain ⟨v, c', hrun, hc', hobjs, hsent⟩ := update_put hc (hkey ▸ hfound)
      rw [hkey] at hobjs
      refine ⟨c', by rw [exceptState_run_tryCatch, exceptState_run_bind, hrun]; rfl, hc',
        ⟨v, by rw [find?_of_put hobjs, if_pos rfl], ?_⟩,
        fun key hk => by rw [find?_of_put hobjs, if_neg hk]⟩
      rw [Sync.ownedOutsideRbac_of_sent hsent, Sync.ownedOutsideRbac_setOwners, howners]
    · next fresh => exact ⟨c, rfl, hc, ⟨found, hfound, by simpa [Sync.ownedOutsideRbac] using fresh⟩,
        fun _ _ => rfl⟩

theorem ensureCsiDriver_owned (hc : Healthy c) {desired v : Json}
    (hfound : c.find? (keyOf .csiDriver desired) = some v) (hv : Sync.ownedOutsideRbac v = false) :
    (Sync.ensureCsiDriver desired).run.run c = (.ok (), c) := by
  unfold Sync.ensureCsiDriver
  rw [exceptState_run_bind, get_run hc.online]
  rw [show keyFor .csiDriver none (Meta.nameAny desired) = keyOf .csiDriver desired by
    simp [keyOf, keyFor, ResourceKind.namespaced], hfound]
  dsimp only
  rw [if_neg (by simpa [Sync.ownedOutsideRbac] using hv)]
  rfl

theorem attempt_answers {α : Type} {m : ClusterM α} (h : Stays Eq m) :
    Answers (Observe.attempt m) :=
  Answers.attempt h

theorem filterMapM_answers {α β : Type} {f : α → ClusterM (Option β)} (hf : ∀ a, Answers (f a))
    (l : List α) : Answers (l.filterMapM f) := by
  induction l with
  | nil => exact Answers.pure _
  | cons a rest ih =>
    rw [List.filterMapM_cons]
    refine (hf a).bind fun b => ?_
    cases b with
    | none => exact ih
    | some b => exact ih.bind fun _ => Answers.pure _

theorem ensureStatefulSet_written (hc : Healthy c) {d : Json} (hd : Sendable .statefulSet d) :
    ∃ v c', (Sync.ensureStatefulSet d).run.run c = (.ok (), c') ∧ Healthy c' ∧ Carries v d ∧
      Written (keyOf .statefulSet d) v c c' := by
  unfold Sync.ensureStatefulSet
  dsimp only
  rw [exceptState_run_bind, get_run hc.online]
  rw [show keyFor .statefulSet (Meta.namespace? d) (Meta.nameAny d) = keyOf .statefulSet d from rfl]
  cases hfound : c.find? (keyOf .statefulSet d) with
  | none =>
    obtain ⟨v, c', hrun, hc', -, hwritten⟩ := create_written hc hfound
    exact ⟨v, c', by dsimp only; rw [exceptState_run_bind, hrun]; rfl, hc', create_carries hd hrun,
      hwritten⟩
  | some live =>
    obtain ⟨v, c₁, hrun, hc₁, hobjs, hcarries, hwritten⟩ := replace_written hc hd hfound
    dsimp only
    rw [exceptState_run_bind, hrun]
    dsimp only
    -- the StatefulSet just stored is found again
    rw [exceptState_run_bind, get_run hc₁.online]
    rw [show keyFor .statefulSet (Meta.namespace? d) (Meta.nameAny d) = keyOf .statefulSet d from rfl,
      find?_of_put hobjs, if_pos rfl]
    dsimp only
    split
    · exact ⟨v, c₁, rfl, hc₁, hcarries, hwritten⟩
    · -- its pods are looked up by ordinal, and the drifted ones deleted
      obtain ⟨pods, hpods⟩ := filterMapM_answers (fun i => (attempt_answers (get_stays _ _ _)).bind
        fun _ => Answers.pure _) _ c₁
      rw [exceptState_run_bind, hpods]
      obtain ⟨c', hrun', hc', hpruned⟩ := refreshPods_prunes hc₁ _ pods
      exact ⟨v, c', hrun', hc', hcarries, hwritten.prune hpruned⟩

theorem ensureDeployment_written (hc : Healthy c) {d : Json} (hd : Sendable .deployment d) :
    ∃ v c', (Sync.ensureDeployment d).run.run c = (.ok (), c') ∧ Healthy c' ∧ Carries v d ∧
      Written (keyOf .deployment d) v c c' := by
  unfold Sync.ensureDeployment
  dsimp only
  rw [exceptState_run_bind, get_run hc.online]
  rw [show keyFor .deployment (Meta.namespace? d) (Meta.nameAny d) = keyOf .deployment d from rfl]
  cases hfound : c.find? (keyOf .deployment d) with
  | none =>
    obtain ⟨v, c', hrun, hc', -, hwritten⟩ := create_written hc hfound
    exact ⟨v, c', by dsimp only; rw [exceptState_run_bind, hrun]; rfl, hc', create_carries hd hrun,
      hwritten⟩
  | some live =>
    obtain ⟨v, c₁, hrun, hc₁, hobjs, hcarries, hwritten⟩ := replace_written hc hd hfound
    dsimp only
    rw [exceptState_run_bind, hrun]
    dsimp only
    -- the Deployment just stored is found again
    rw [exceptState_run_bind, get_run hc₁.online]
    rw [show keyFor .deployment (Meta.namespace? d) (Meta.nameAny d) = keyOf .deployment d from rfl,
      find?_of_put hobjs, if_pos rfl]
    dsimp only
    split
    · exact ⟨v, c₁, rfl, hc₁, hcarries, hwritten⟩
    · -- its pods are listed by label, and the drifted ones deleted
      rw [exceptState_run_bind]
      simp only [Cluster.list, exceptState_run_bind, reach_run hc₁.online, exceptState_run_get,
        exceptState_run_pure]
      obtain ⟨c', hrun', hc', hpruned⟩ := refreshPods_prunes hc₁ _ _
      exact ⟨v, c', hrun', hc', hcarries, hwritten.prune hpruned⟩

/-! ## What a second convergence leaves -/

/-- The writes a convergence of objects already in place makes: replacements of anything but a
service account or the CSIDriver, and deletions of pods. -/
def Write.Refresh (w : Write) : Prop :=
  w.verb = .update ∧ w.kind ≠ .serviceAccount ∧ w.kind ≠ .csiDriver ∨
    w.verb = .delete ∧ w.kind = .pod

theorem sameButVersion_rel_refl (o : Option Json) : Option.Rel SameButVersion o o := by
  cases o with
  | none => exact .none
  | some v => exact .some (.refl v)

theorem sameButVersion_rel_trans {a b o : Option Json} (hab : Option.Rel SameButVersion a b)
    (hbo : Option.Rel SameButVersion b o) : Option.Rel SameButVersion a o := by
  cases hab with
  | none => exact hbo
  | some h₁ =>
    cases hbo with
    | some h₂ => exact .some (h₁.trans h₂)

theorem sameButVersion_rel_some {o : Option Json} {v : Json}
    (h : Option.Rel SameButVersion o (some v)) : ∃ w, o = some w ∧ SameButVersion w v := by
  cases o with
  | none => simp at h
  | some w => exact ⟨w, rfl, Option.rel_some_some.1 h⟩

/-- `c'` is `c` converged again: only refreshing writes are logged, every object but the pods
is as it was but for its resource version, and the operator's inputs, the injected failures and
whether the server answers are kept. -/
structure Resynced (c c' : Cluster) : Prop where
  log : ∃ ws, c'.writes = c.writes ++ ws ∧ ∀ w ∈ ws, w.Refresh
  objects : ∀ key : Key, key.kind ≠ .pod → Option.Rel SameButVersion (c'.find? key) (c.find? key)
  inputs : KeepsInputs c c'

theorem Resynced.refl (c : Cluster) : Resynced c c :=
  ⟨⟨[], by simp, by simp⟩, fun key _ => sameButVersion_rel_refl _, Std.Refl.refl c⟩

theorem Resynced.trans {c₁ c₂ : Cluster} (h₁ : Resynced c c₁) (h₂ : Resynced c₁ c₂) :
    Resynced c c₂ := by
  obtain ⟨ws₁, hw₁, hr₁⟩ := h₁.log
  obtain ⟨ws₂, hw₂, hr₂⟩ := h₂.log
  refine ⟨⟨ws₁ ++ ws₂, by rw [hw₂, hw₁, List.append_assoc], fun w hw => ?_⟩,
    fun key hk => sameButVersion_rel_trans (h₂.objects key hk) (h₁.objects key hk),
    IsTrans.trans _ _ _ h₁.inputs h₂.inputs⟩
  rcases List.mem_append.1 hw with hw | hw
  · exact hr₁ w hw
  · exact hr₂ w hw

theorem Resynced.stored (hr : Resynced c c') {key : Key} (hk : key.kind ≠ .pod) {v : Json}
    (hv : c.find? key = some v) : ∃ w, c'.find? key = some w ∧ SameButVersion w v :=
  sameButVersion_rel_some (hv ▸ hr.objects key hk)

theorem Resynced.isSome (hr : Resynced c c') {key : Key} (hk : key.kind ≠ .pod) (h : (c.find? key).isSome) :
    (c'.find? key).isSome := by
  obtain ⟨v, hv⟩ := Option.isSome_iff_exists.1 h
  obtain ⟨w, hw, -⟩ := hr.stored hk hv
  rw [hw]
  rfl

theorem Resynced.find_none (hr : Resynced c c') {key : Key} (hk : key.kind ≠ .pod) (h : c.find? key = none) :
    c'.find? key = none := by
  have hrel := hr.objects key hk
  rw [h] at hrel
  cases hnow : c'.find? key with
  | none => rfl
  | some w => simp [hnow] at hrel

theorem Written.resynced {key : Key} {v found d : Json} (h : Written key v c c') (hc : Healthy c)
    (hc' : Healthy c') (hv : Carries v d) (hfound : c.find? key = some found)
    (hcarries : Carries found d) (hkind : key.kind ∉ [.serviceAccount, .csiDriver, .pod])
    (hinput : ¬key.kind.isInput) : Resynced c c' := by
  have hpod : key.kind ≠ .pod := fun h => hkind (by simp [h])
  obtain ⟨ws, hw, hpods⟩ := h.log
  refine ⟨⟨_ :: ws, by rw [hw], fun w hmem => ?_⟩, fun key' hk => ?_, hc.keepsInputs hc' fun key' hin => ?_⟩
  · rcases List.mem_cons.1 hmem with rfl | hmem
    · refine .inl ⟨by simp [hfound], fun h => hkind ?_, fun h => hkind ?_⟩
      · rw [show key.kind = .serviceAccount from h]
        simp
      · rw [show key.kind = .csiDriver from h]
        simp
    · exact .inr (hpods w hmem)
  · rw [h.find key' hk]
    split
    · next heq =>
      subst heq
      rw [hfound]
      exact .some (hv.sameButVersion hcarries (h.inherits found hfound))
    · exact sameButVersion_rel_refl _
  · have hne : key' ≠ key := fun heq => hinput (heq ▸ hin)
    rw [h.find key' (fun hp => by simp [hp, ResourceKind.isInput] at hin), if_neg hne]

end Healthy

end CsiOperator.Cluster
