import Mathlib
import CsiOperator.Proofs.Isolation
import CsiOperator.Proofs.Layering
/-!
Converging a set of classes. For the storage or snapshot classes an installation declares, the
convergence creates or replaces each declared class and deletes the classes of the same driver
made for the installation that are no longer declared. From a store the in-memory server
keeps, with no failure injected for the kind, it reports no error, and afterwards the classes
of the driver made for the installation are exactly the declared ones, each stored as the last
declaration of its name, while every other class is left as it was.

A stored object is compared with the object sent as the server keeps it (`StoredAs`): every
member and every metadata member agree, the uid and resource version the server assigns
apart.
-/

namespace CsiOperator.Cluster

/-! ## Objects as the server stores them -/

/-- `v` is `d` as the server stores it: the same members and metadata members, uid and
resource version apart. -/
def StoredAs (v d : Json) : Prop :=
  (∀ f, f ≠ "metadata" → v.get? f = d.get? f) ∧
    ∀ f, f ≠ "uid" → f ≠ "resourceVersion" → (Meta.of v).get? f = (Meta.of d).get? f

theorem StoredAs.refl (d : Json) : StoredAs d d := ⟨fun _ _ => rfl, fun _ _ _ => rfl⟩

theorem StoredAs.trans {u v w : Json} (huv : StoredAs u v) (hvw : StoredAs v w) : StoredAs u w :=
  ⟨fun f hf => (huv.1 f hf).trans (hvw.1 f hf),
    fun f hu hr => (huv.2 f hu hr).trans (hvw.2 f hu hr)⟩

theorem storedAs_setMeta (x : Json) {field : String} (y : Json)
    (hfield : field = "uid" ∨ field = "resourceVersion") : StoredAs (setMeta x field y) x := by
  refine ⟨fun f hf => get?_setMeta x field y hf, fun f hu hr => ?_⟩
  have hne : field ≠ f := by rcases hfield with rfl | rfl <;> exact Ne.symm ‹_›
  unfold setMeta
  split
  · next md _ hmd =>
    rw [Meta.of, Json.get?_set_self, Option.getD_some, Json.get?_set_of_ne _ _ hne, Meta.of, hmd,
      Option.getD_some]
  · rfl

theorem storedAs_bumpVersion (x : Json) : StoredAs (bumpVersion x) x :=
  storedAs_setMeta x _ (.inr rfl)

theorem storedAs_erase_status {x : Json} (hs : x.get? "status" = none) :
    StoredAs (x.erase "status") x := by
  refine ⟨fun f _ => ?_, fun f _ _ => by rw [Meta.of_erase_of_ne _ (by decide)]⟩
  by_cases hf : f = "status"
  · rw [hf, Json.get?_erase_self, hs]
  · exact Json.get?_erase_of_ne _ (Ne.symm hf)

theorem storedAs_withVersionOf (d found : Json) : StoredAs (Sync.withVersionOf d found) d := by
  have hof : ∀ md, Meta.of (d.set "metadata" md) = md := fun md => by
    rw [Meta.of, Json.get?_set_self, Option.getD_some]
  refine ⟨fun f hf => Json.get?_set_of_ne _ _ (Ne.symm hf), fun f _ hr => ?_⟩
  simp only [Sync.withVersionOf, Meta.modify, Meta.setOf, hof]
  split
  · rw [Json.get?_set_of_ne _ _ (Ne.symm hr)]
  · rw [Json.get?_erase_of_ne _ (Ne.symm hr)]

theorem StoredAs.status {v d : Json} (h : StoredAs v d) : v.get? "status" = d.get? "status" :=
  h.1 _ (by decide)

theorem StoredAs.strD {v d : Json} (h : StoredAs v d) {field : String} (hf : field ≠ "metadata") :
    v.strD field = d.strD field := by
  simp only [Json.strD, h.1 field hf]

theorem StoredAs.ownedBy {v d : Json} (h : StoredAs v d) (dummyName : String) :
    Sync.ownedBy v dummyName = Sync.ownedBy d dummyName := by
  simp only [Sync.ownedBy, Meta.ownerReferences, h.2 "ownerReferences" (by decide) (by decide)]

theorem create_storedAs {c c' : Cluster} {k : ResourceKind} {obj v : Json}
    (hns : k.namespaced = false) (hs : obj.get? "status" = none)
    (h : (create k obj).run.run c = (.ok v, c')) : StoredAs v obj := by
  obtain ⟨hfound, -, -, -⟩ := create_ok h
  have hon : c.online = true := by
    cases hon : c.online
    · simp only [create, exceptState_run_bind, reach_error hon] at h
      cases h
    · rfl
  cases hfail : c.failing .create k
  · simp only [create, exceptState_run_bind, reach_run hon, checkFailure_run hfail,
      exceptState_run_get, hfound, Option.isSome_none, Bool.false_eq_true, if_false,
      exceptState_run_liftM, exceptState_run_modify, exceptState_run_pure, hns] at h
    rw [Prod.mk.injEq, Except.ok.injEq] at h
    obtain ⟨rfl, -⟩ := h
    exact (storedAs_bumpVersion _).trans
      ((storedAs_setMeta _ _ (.inl rfl)).trans (storedAs_erase_status hs))
  · obtain ⟨e, he⟩ := checkFailure_error hfail
    simp only [create, exceptState_run_bind, reach_run hon, he] at h
    cases h

theorem update_storedAs {c c' : Cluster} {k : ResourceKind} {obj v existing : Json}
    (hs : obj.get? "status" = none) (hfound : c.find? (keyOf k obj) = some existing)
    (hstored : existing.get? "status" = none)
    (h : (update k obj).run.run c = (.ok v, c')) : StoredAs v obj := by
  obtain ⟨existing', hfound', hon, hfail, -⟩ := update_ok h
  rw [hfound] at hfound'
  cases hfound'
  simp only [update, exceptState_run_bind, reach_run hon, checkFailure_run hfail,
    exceptState_run_get, hfound, hstored, exceptState_run_liftM, exceptState_run_modify,
    exceptState_run_pure] at h
  rw [Prod.mk.injEq, Except.ok.injEq] at h
  obtain ⟨rfl, -⟩ := h
  refine (storedAs_bumpVersion _).trans ?_
  -- the stored resource version and uid are set, each when the stored object has one
  split <;> [refine (storedAs_setMeta _ _ (.inr rfl)).trans ?_; skip] <;>
    (split <;> [refine (storedAs_setMeta _ _ (.inl rfl)).trans ?_; skip] <;>
      exact storedAs_erase_status hs)

/-! ## A store of classes -/

/-- A store as the in-memory server keeps it, seen from the objects of one kind: well keyed,
always answering, with no failure injected for the kind, and no status on its objects (the
class types have none). -/
structure ClassStore (k : ResourceKind) (c : Cluster) : Prop where
  wellKeyed : c.WellKeyed
  online : c.online = true
  unfailing : ∀ f ∈ c.failures, f.kind ≠ k
  statusless : ∀ key obj, key.kind = k → c.find? key = some obj → obj.get? "status" = none

variable {k : ResourceKind} {c : Cluster}

theorem ClassStore.failing (hc : ClassStore k c) (verb : Verb) : c.failing verb k = false := by
  simp only [Cluster.failing, List.any_eq_false, Bool.and_eq_true, beq_iff_eq, not_and]
  exact fun f hf _ hk => hc.unfailing f hf hk

theorem find?_of_put {c c' : Cluster} {key : Key} {v : Json}
    (h : c'.objects = putObject c.objects key v) (key' : Key) :
    c'.find? key' = if key' = key then some v else c.find? key' := by
  rw [find?_objects, h, find?_putObject, find?_objects]

theorem ClassStore.put (hc : ClassStore k c) {c' : Cluster} {key : Key} {v : Json}
    (hkey : keyOf key.kind v = key) (hs : v.get? "status" = none)
    (hobjs : c'.objects = putObject c.objects key v) (hon : c'.online = c.online)
    (hfail : c'.failures = c.failures) : ClassStore k c' where
  wellKeyed := hc.wellKeyed.put hkey c' hobjs
  online := hon.trans hc.online
  unfailing := hfail ▸ hc.unfailing
  statusless key' obj hk' hfound := by
    rw [find?_of_put hobjs] at hfound
    split at hfound
    · cases hfound
      exact hs
    · exact hc.statusless key' obj hk' hfound

theorem ClassStore.delete (hc : ClassStore k c) {c' : Cluster} {key : Key}
    (hobjs : c'.objects = c.objects.filter (·.1 != key)) (hon : c'.online = c.online)
    (hfail : c'.failures = c.failures) : ClassStore k c' where
  wellKeyed := hc.wellKeyed.filter _ c' hobjs
  online := hon.trans hc.online
  unfailing := hfail ▸ hc.unfailing
  statusless key' obj hk' hfound := by
    rw [find?_objects, hobjs, find?_filter_ne, ← find?_objects] at hfound
    split at hfound
    · cases hfound
    · exact hc.statusless key' obj hk' hfound

/-! ## One class -/

/-- `c'` is `c` with `d` stored, as the server stores it, under the key it names. -/
def Stores (k : ResourceKind) (d : Json) (c c' : Cluster) : Prop :=
  ∃ v, StoredAs v d ∧ ∀ key, c'.find? key = if key = keyOf k d then some v else c.find? key

theorem create_answers {obj : Json} (hon : c.online = true) (hfail : c.failing .create k = false)
    (hfound : c.find? (keyOf k obj) = none) :
    ∃ v c', (create k obj).run.run c = (.ok v, c') ∧ c'.online = c.online ∧
      c'.failures = c.failures := by
  simp only [create, exceptState_run_bind, reach_run hon, checkFailure_run hfail,
    exceptState_run_get, hfound, Option.isSome_none, Bool.false_eq_true, if_false,
    exceptState_run_liftM, exceptState_run_modify, exceptState_run_pure]
  exact ⟨_, _, rfl, rfl, rfl⟩

theorem createOrUpdate_stores (hns : k.namespaced = false) (hc : ClassStore k c) {d : Json}
    (hd : d.get? "status" = none) :
    ∃ v c', (Sync.createOrUpdate k d).run.run c = (.ok v, c') ∧ ClassStore k c' ∧
      Stores k d c c' := by
  unfold Sync.createOrUpdate
  rw [exceptState_run_bind, get_run hc.online]
  rw [show keyFor k (Meta.namespace? d) (Meta.nameAny d) = keyOf k d from rfl]
  cases hfound : c.find? (keyOf k d) with
  | none =>
    obtain ⟨v, c', hrun, hon, hfail⟩ := create_answers hc.online (hc.failing .create) hfound
    obtain ⟨-, hobjs, hkey, -⟩ := create_ok hrun
    have hv := create_storedAs hns hd hrun
    refine ⟨v, c', hrun, hc.put hkey (hv.status.trans hd) hobjs hon hfail, v, hv, find?_of_put hobjs⟩
  | some found =>
    -- the replacement is stored under the same key, over an object without status
    have hkey : keyOf k (Sync.withVersionOf d found) = keyOf k d :=
      keyOf_of_sameNames k (Sync.withVersionOf_meta d found).1
    have hstatus := hc.statusless _ found rfl hfound
    have hsent := storedAs_withVersionOf d found
    obtain ⟨v, hrun, -, hnames⟩ := update_run hc.online (hc.failing .update) (hkey ▸ hfound)
    have hv := (update_storedAs (hsent.status.trans hd) (hkey ▸ hfound) hstatus hrun).trans hsent
    have hvkey : keyOf k v = keyOf k d := (keyOf_of_sameNames k hnames).trans hkey
    refine ⟨v, _, hrun, hc.put hvkey (hv.status.trans hd) (by rw [hkey]) rfl rfl, v, hv,
      find?_of_put (by rw [hkey])⟩

/-! ## The declared classes, one after another -/

/-- `c'` is `c` with each key of the declared documents holding an object related by `R` to
the last declaration for it, and every other key as it was. -/
def HoldsLast (R : Json → Json → Prop) (k : ResourceKind) (desired : List Json) (c c' : Cluster) :
    Prop :=
  ∀ key, (∀ d, Layer.lastWith (keyOf k) desired key = some d →
      ∃ v, c'.find? key = some v ∧ R v d) ∧
    (Layer.lastWith (keyOf k) desired key = none → c'.find? key = c.find? key)

theorem HoldsLast.nil (R : Json → Json → Prop) (c : Cluster) : HoldsLast R k [] c c :=
  fun _ => ⟨fun _ h => by simp [Layer.lastWith] at h, fun _ => rfl⟩

theorem HoldsLast.cons {R : Json → Json → Prop} {d v : Json} {rest : List Json} {c₁ c₂ : Cluster}
    (hv : R v d) (hfind : ∀ key, c₁.find? key = if key = keyOf k d then some v else c.find? key)
    (h₂ : HoldsLast R k rest c₁ c₂) : HoldsLast R k (d :: rest) c c₂ := by
  intro key
  rw [Layer.lastWith_cons]
  cases hrest : Layer.lastWith (keyOf k) rest key with
  | some e =>
    refine ⟨fun d' hd' => ?_, fun h => by simp at h⟩
    simp only [Option.some_or, Option.some.injEq] at hd'
    exact hd' ▸ (h₂ key).1 e hrest
  | none =>
    have hsame := (h₂ key).2 hrest
    rw [hfind] at hsame
    by_cases hkey : keyOf k d = key
    · -- the key is the first declaration's and no later one's
      refine ⟨fun d' hd' => ?_, fun h => by simp [hkey] at h⟩
      simp only [hkey, beq_self_eq_true, if_true, Option.none_or, Option.some.injEq] at hd'
      exact ⟨v, by rw [hsame, if_pos hkey.symm], hd' ▸ hv⟩
    · have hne : (keyOf k d == key) = false := by simpa using hkey
      refine ⟨fun d' hd' => by simp [hne] at hd', fun _ => ?_⟩
      rw [hsame, if_neg (Ne.symm hkey)]

theorem HoldsLast.other {R : Json → Json → Prop} {desired : List Json} {c' : Cluster} {key : Key}
    (h : HoldsLast R k desired c c') (hkey : key.kind ≠ k) : c'.find? key = c.find? key :=
  (h key).2 (Layer.lastWith_eq_none.2 fun hmem => by
    obtain ⟨d, -, hd⟩ := List.mem_map.1 hmem
    exact hkey (by rw [← hd]; rfl))

theorem filterMapM_holdsLast {R : Json → Json → Prop} {Inv : Cluster → Prop}
    {f : Json → ClusterM (Option OperatorError)} {desired : List Json}
    {r : Except OperatorError (List OperatorError)} {c' : Cluster}
    (h : (desired.filterMapM f).run.run c = (r, c')) (hc : Inv c)
    (hf : ∀ d ∈ desired, ∀ c, Inv c → ∃ v c', (f d).run.run c = (.ok none, c') ∧ Inv c' ∧
      R v d ∧ ∀ key, c'.find? key = if key = keyOf k d then some v else c.find? key) :
    r = .ok [] ∧ Inv c' ∧ HoldsLast R k desired c c' := by
  induction desired generalizing c with
  | nil =>
    cases h
    exact ⟨rfl, hc, HoldsLast.nil _ _⟩
  | cons d rest ih =>
    obtain ⟨v, c₁, hrun₁, hc₁, hv, hfind⟩ := hf d List.mem_cons_self c hc
    rw [List.filterMapM_cons, exceptState_run_bind, hrun₁] at h
    obtain ⟨hr, hc', hlast⟩ := ih h hc₁ fun d' hd' => hf d' (List.mem_cons_of_mem _ hd')
    exact ⟨hr, hc', HoldsLast.cons hv hfind hlast⟩

theorem forM_empties {Inv : Cluster → Prop} {g : String → ClusterM PUnit} {names : List String}
    {r : Except OperatorError PUnit} {c' : Cluster}
    (h : (names.forM g).run.run c = (r, c')) (hc : Inv c)
    (hg : ∀ n ∈ names, ∀ c, Inv c → ∃ c', (g n).run.run c = (.ok (), c') ∧ Inv c' ∧
      ∀ key, c'.find? key = if key = keyFor k none n then none else c.find? key) :
    r = .ok () ∧ Inv c' ∧
      ∀ key, c'.find? key = if key ∈ names.map (keyFor k none) then none else c.find? key := by
  induction names generalizing c with
  | nil =>
    cases h
    exact ⟨rfl, hc, fun key => by simp⟩
  | cons n rest ih =>
    obtain ⟨c₁, hrun₁, hc₁, hfind₁⟩ := hg n List.mem_cons_self c hc
    change (g n >>= fun _ => rest.forM g).run.run c = _ at h
    rw [exceptState_run_bind, hrun₁] at h
    obtain ⟨hr, hc', hfind₂⟩ := ih h hc₁ fun n' hn' => hg n' (List.mem_cons_of_mem _ hn')
    refine ⟨hr, hc', fun key => ?_⟩
    rw [hfind₂, hfind₁]
    by_cases h₁ : key = keyFor k none n
    · simp [h₁]
    · by_cases h₂ : key ∈ rest.map (keyFor k none) <;> simp [h₁, h₂]

theorem forM_of_forall_not_mem {g : String → ClusterM PUnit} {names : List String}
    {r : Except OperatorError PUnit} {c' : Cluster} (h : (names.forM g).run.run c = (r, c'))
    (hnames : ∀ n ∈ names, False) : r = .ok () ∧ c' = c := by
  cases names with
  | nil =>
    cases h
    exact ⟨rfl, rfl⟩
  | cons n _ => exact (hnames n List.mem_cons_self).elim

/-- `c'` is `c` with each key of the declared objects holding, as the server stores it, the
last declaration for it, and every other key as it was. -/
def StoresLast (k : ResourceKind) (desired : List Json) (c c' : Cluster) : Prop :=
  ∀ key, (∀ d, Layer.lastWith (keyOf k) desired key = some d →
      ∃ v, c'.find? key = some v ∧ StoredAs v d) ∧
    (Layer.lastWith (keyOf k) desired key = none → c'.find? key = c.find? key)

theorem StoresLast.nil (c : Cluster) : StoresLast k [] c c :=
  HoldsLast.nil StoredAs c

theorem StoresLast.cons {d : Json} {rest : List Json} {c₁ c₂ : Cluster} (h₁ : Stores k d c c₁)
    (h₂ : StoresLast k rest c₁ c₂) : StoresLast k (d :: rest) c c₂ := by
  obtain ⟨v, hv, hfind⟩ := h₁
  exact HoldsLast.cons hv hfind h₂

theorem filterMapM_storesLast {f : Json → ClusterM (Option OperatorError)} {desired : List Json}
    {r : Except OperatorError (List OperatorError)} {c' : Cluster}
    (h : (desired.filterMapM f).run.run c = (r, c')) (hc : ClassStore k c)
    (hf : ∀ d ∈ desired, ∀ c, ClassStore k c →
      ∃ c', (f d).run.run c = (.ok none, c') ∧ ClassStore k c' ∧ Stores k d c c') :
    r = .ok [] ∧ ClassStore k c' ∧ StoresLast k desired c c' :=
  filterMapM_holdsLast h hc fun d hd c hc => by
    obtain ⟨c', hrun, hc', v, hv, hfind⟩ := hf d hd c hc
    exact ⟨v, c', hrun, hc', hv, hfind⟩

/-! ## Stale classes -/

theorem delete_answers (hc : ClassStore k c) (ns : Option String) (name : String) :
    ∃ c', (delete k ns name).run.run c = (.ok (), c') ∧ c'.online = c.online ∧
      c'.failures = c.failures := by
  cases hfound : c.find? (keyFor k ns name) with
  | none =>
    simp only [delete, exceptState_run_bind, reach_run hc.online, checkFailure_run (hc.failing _),
      exceptState_run_get, hfound, Option.isSome_none, Bool.false_eq_true, if_false,
      exceptState_run_pure]
    exact ⟨_, rfl, rfl, rfl⟩
  | some existing =>
    simp only [delete, exceptState_run_bind, reach_run hc.online, checkFailure_run (hc.failing _),
      exceptState_run_get, hfound, Option.isSome_some, if_true, exceptState_run_liftM,
      exceptState_run_modify]
    exact ⟨_, rfl, rfl, rfl⟩

theorem delete_removes (hc : ClassStore k c) (name : String) :
    ∃ c', (tryCatch (delete k none name) fun _ => pure ()).run.run c = (.ok (), c') ∧
      ClassStore k c' ∧ ∀ key, c'.find? key = if key = keyFor k none name then none else c.find? key := by
  obtain ⟨c', hrun, hon, hfail⟩ := delete_answers hc none name
  obtain ⟨hobjs, -⟩ := delete_ok hrun
  refine ⟨c', by rw [exceptState_run_tryCatch, hrun], hc.delete hobjs hon hfail, fun key => ?_⟩
  rw [find?_objects, hobjs, find?_filter_ne, ← find?_objects]

theorem forM_removes {g : String → ClusterM PUnit} {names : List String}
    {r : Except OperatorError PUnit} {c' : Cluster}
    (h : (names.forM g).run.run c = (r, c')) (hc : ClassStore k c)
    (hg : ∀ n ∈ names, ∀ c, ClassStore k c → ∃ c', (g n).run.run c = (.ok (), c') ∧
      ClassStore k c' ∧ ∀ key, c'.find? key = if key = keyFor k none n then none else c.find? key) :
    r = .ok () ∧ ClassStore k c' ∧
      ∀ key, c'.find? key = if key ∈ names.map (keyFor k none) then none else c.find? key :=
  forM_empties h hc hg

theorem attempt_createOrUpdate_stores (hns : k.namespaced = false) (hc : ClassStore k c)
    {d : Json} (hd : d.get? "status" = none) {g : Except OperatorError Json → ClusterM (Option OperatorError)}
    (hg : ∀ v, g (.ok v) = pure none) :
    ∃ c', (Observe.attempt (Sync.createOrUpdate k d) >>= g).run.run c = (.ok none, c') ∧
      ClassStore k c' ∧ Stores k d c c' := by
  obtain ⟨v, c', hrun, hc', hst⟩ := createOrUpdate_stores hns hc hd
  refine ⟨c', ?_, hc', hst⟩
  rw [exceptState_run_bind, Observe.attempt_run, hrun]
  dsimp only
  rw [hg]
  rfl

/-! ## The whole set -/

theorem list_all (hon : c.online = true) (hns : k.namespaced = false) :
    (list k none []).run.run c = (.ok ((c.objects.filter (·.1.kind == k)).map (·.2)), c) := by
  simp only [list, exceptState_run_bind, reach_run hon, exceptState_run_get, exceptState_run_pure,
    hns, Labels.satisfy, List.all_nil, Bool.and_true, Bool.not_false, Bool.true_or]

theorem keyOf_unscoped (hns : k.namespaced = false) (d : Json) :
    keyOf k d = keyFor k none (Meta.nameAny d) := by
  simp [keyOf, keyFor, hns]

theorem keyFor_unscoped_inj (hns : k.namespaced = false) {a b : String} :
    keyFor k none a = keyFor k none b ↔ a = b := by
  simp [keyFor, hns]

theorem lastWith_keyFor (hns : k.namespaced = false) (l : List Json) (n : String) :
    Layer.lastWith (keyOf k) l (keyFor k none n) = Layer.lastWith Meta.nameAny l n := by
  unfold Layer.lastWith
  congr 1
  refine List.filter_congr fun d _ => ?_
  simp [keyOf_unscoped hns, keyFor_unscoped_inj hns]

theorem mem_stale (hc : c.WellKeyed) (hns : k.namespaced = false) {wanted : List String}
    {P : Json → Bool} {n : String} :
    keyFor k none n ∈ ((((c.objects.filter (·.1.kind == k)).map (·.2)).filter P).map Meta.nameAny
        |>.filter (!wanted.contains ·)).map (keyFor k none) ↔
      n ∉ wanted ∧ ∃ obj, c.find? (keyFor k none n) = some obj ∧ P obj = true := by
  simp only [List.mem_map, List.mem_filter, keyFor_unscoped_inj hns, List.contains_eq_mem,
    Bool.not_eq_true', decide_eq_false_iff_not, beq_iff_eq]
  constructor
  · rintro ⟨_, ⟨⟨obj, ⟨⟨p, ⟨hp, hkind⟩, rfl⟩, hP⟩, rfl⟩, hn⟩, rfl⟩
    refine ⟨hn, p.2, ?_, hP⟩
    have hkey := hc.keyed p hp
    rw [hkind, keyOf_unscoped hns] at hkey
    rw [hkey]
    exact hc.find?_eq_some.2 hp
  · rintro ⟨hn, obj, hfind, hP⟩
    have hmem := hc.find?_eq_some.1 hfind
    have hname : Meta.nameAny obj = n := by
      have hkey := congrArg Key.name (hc.keyed _ hmem)
      simpa [keyOf, keyFor] using hkey
    exact ⟨n, ⟨⟨obj, ⟨⟨_, ⟨hmem, by simp [keyFor]⟩, rfl⟩, hP⟩, hname⟩, hn⟩, rfl⟩

/-- What converging a set of classes of a kind leaves, for the classes whose `field` names the
driver and that the placeholder role `dummyName` owns: they are exactly the declared names;
each declared name holds its last declaration, uid and resource version apart; and every class
not declared that lacked the driver or the owner is as it was. -/
structure ClassSetConverged (k : ResourceKind) (field driver dummyName : String)
    (desired : List Json) (c c' : Cluster) : Prop where
  owned_iff_declared : ∀ name, (∃ obj, c'.find? (keyFor k none name) = some obj ∧
    obj.strD field = driver ∧ Sync.ownedBy obj dummyName = true) ↔ name ∈ desired.map Meta.nameAny
  last_declared : ∀ name d, Layer.lastWith Meta.nameAny desired name = some d →
    ∃ v, c'.find? (keyFor k none name) = some v ∧ StoredAs v d
  foreign_kept : ∀ name obj, c.find? (keyFor k none name) = some obj →
    name ∉ desired.map Meta.nameAny → ¬(obj.strD field = driver ∧ Sync.ownedBy obj dummyName = true) →
    c'.find? (keyFor k none name) = some obj

/-- Converging a set of storage classes of a provisioner, or of snapshot classes of a driver,
made for the installation whose placeholder role is named `dummyName`, from a store the
in-memory server keeps with no failure injected for the kind, reports no error and leaves the
set converged. -/
theorem ensureClassSet_converges {k : ResourceKind} {field driver dummyName : String}
    (hk : k = .storageClass ∧ field = "provisioner" ∨ k = .volumeSnapshotClass ∧ field = "driver")
    {desired : List Json}
    (hdesired : ∀ d ∈ desired,
      d.strD field = driver ∧ Sync.ownedBy d dummyName = true ∧ d.get? "status" = none)
    {c : Cluster} (hc : ClassStore k c) :
    ∃ c', (Sync.ensureClassSet k desired dummyName (·.strD field == driver)).run.run c =
        (.ok [], c') ∧ ClassSetConverged k field driver dummyName desired c c' := by
  have hns : k.namespaced = false := by rcases hk with ⟨rfl, -⟩ | ⟨rfl, -⟩ <;> rfl
  have hfield : field ≠ "metadata" := by rcases hk with ⟨-, rfl⟩ | ⟨-, rfl⟩ <;> decide
  unfold Sync.ensureClassSet
  simp only [exceptState_run_bind, Observe.attempt_run, list_all hc.online hns]
  -- the declared classes are written one after another, and none fails
  split <;> rename_i result c₁ hrun₁ <;>
    obtain ⟨hresult, hc₁, hlast⟩ := filterMapM_storesLast hrun₁ hc fun d hd c hc =>
      attempt_createOrUpdate_stores hns hc (hdesired d hd).2.2 fun _ => rfl
  swap
  · cases hresult
  cases hresult
  -- then the stale classes are deleted, and none fails
  split <;> rename_i u c₂ hrun₂ <;>
    obtain ⟨hu, -, hgone⟩ := forM_removes hrun₂ hc₁ fun n _ c hc => delete_removes hc n
  swap
  · cases hu
  refine ⟨c₂, rfl, ?_⟩
  -- what each name holds at the end
  have hfinal : ∀ n, c₂.find? (keyFor k none n) =
      if n ∉ desired.map Meta.nameAny ∧ ∃ obj, c.find? (keyFor k none n) = some obj ∧
        (obj.strD field == driver && Sync.ownedBy obj dummyName) = true
      then none else c₁.find? (keyFor k none n) := fun n => by
    rw [hgone]
    exact if_congr (mem_stale hc.wellKeyed hns) rfl rfl
  have hwritten : ∀ n d, Layer.lastWith Meta.nameAny desired n = some d →
      ∃ v, c₁.find? (keyFor k none n) = some v ∧ StoredAs v d := fun n d h =>
    (hlast (keyFor k none n)).1 d (by rw [lastWith_keyFor hns, h])
  have hkept : ∀ n, n ∉ desired.map Meta.nameAny →
      c₁.find? (keyFor k none n) = c.find? (keyFor k none n) := fun n hn =>
    (hlast (keyFor k none n)).2 (by rw [lastWith_keyFor hns, Layer.lastWith_eq_none.2 hn])
  have hdeclared : ∀ n d, Layer.lastWith Meta.nameAny desired n = some d →
      ∃ v, c₂.find? (keyFor k none n) = some v ∧ StoredAs v d := fun n d h => by
    obtain ⟨hname, hmem⟩ := Layer.lastWith_key h
    have hn : n ∈ desired.map Meta.nameAny := hname ▸ List.mem_map_of_mem hmem
    rw [hfinal, if_neg fun hstale => hstale.1 hn]
    exact hwritten n d h
  refine ⟨fun n => ⟨fun ⟨obj, hfound, hdriver, howned⟩ => ?_, fun hn => ?_⟩, hdeclared, ?_⟩
  · -- a class of the driver owned by the role that is not declared was stale, so deleted
    by_contra hn
    rw [hfinal, hkept n hn] at hfound
    split at hfound
    · cases hfound
    · next hstale => exact hstale ⟨hn, obj, hfound, by simp [hdriver, howned]⟩
  · -- a declared name holds its last declaration, which is of the driver and owned by the role
    obtain ⟨d, hd⟩ := Layer.lastWith_isSome hn
    obtain ⟨v, hfound, hv⟩ := hdeclared n d hd
    obtain ⟨hdriver, howned, -⟩ := hdesired d (Layer.lastWith_key hd).2
    exact ⟨v, hfound, (hv.strD hfield).trans hdriver, (hv.ownedBy dummyName).trans howned⟩
  · -- a foreign class is not stale, so it is neither written nor deleted
    intro n obj hfound hn hforeign
    rw [hfinal, hkept n hn, if_neg, hfound]
    rintro ⟨-, obj', hfound', hP⟩
    rw [hfound] at hfound'
    cases hfound'
    exact hforeign (by simpa using hP)

/-- The placeholder owner of the classes in `bronze_class_converges`. -/
def unityOwner : Json := .obj [("name", .str "unity-unity-dummy")]

/-- A storage class with a provisioner and owners. -/
def storageClassOf (name provisioner : String) (owners : List Json) : Json :=
  .obj [("metadata", .obj [("name", .str name), ("ownerReferences", .arr owners)]),
    ("provisioner", .str provisioner)]

/-- A store with a gold class of the driver made for the installation and a silver class of
another driver converges to the declared bronze class: the gold class is stale, the silver one
foreign. -/
theorem bronze_class_converges :
    let desired := [storageClassOf "unity-bronze" "csi-unity.dellemc.com" [unityOwner]]
    let c : Cluster := { objects :=
      [(⟨.storageClass, "", "unity-gold"⟩, storageClassOf "unity-gold" "csi-unity.dellemc.com" [unityOwner]),
        (⟨.storageClass, "", "unity-silver"⟩, storageClassOf "unity-silver" "other.csi" [])] }
    (∀ d ∈ desired, d.strD "provisioner" = "csi-unity.dellemc.com" ∧
        Sync.ownedBy d "unity-unity-dummy" = true ∧ d.get? "status" = none) ∧
      ClassStore .storageClass c ∧
      ∃ c', (Sync.ensureClassSet .storageClass desired "unity-unity-dummy"
          (·.strD "provisioner" == "csi-unity.dellemc.com")).run.run c = (.ok [], c') ∧
        ClassSetConverged .storageClass "provisioner" "csi-unity.dellemc.com" "unity-unity-dummy"
          desired c c' := by
  intro desired c
  have hdesired : ∀ d ∈ desired, d.strD "provisioner" = "csi-unity.dellemc.com" ∧
      Sync.ownedBy d "unity-unity-dummy" = true ∧ d.get? "status" = none := by
    intro d hd
    rw [List.mem_singleton] at hd
    subst hd
    exact ⟨rfl, rfl, rfl⟩
  have hc : ClassStore .storageClass c := by
    refine ⟨⟨by decide, by decide⟩, rfl, by simp [c], fun key obj _ hfound => ?_⟩
    obtain ⟨p, hp, rfl⟩ := Option.map_eq_some_iff.1 hfound
    have hmem := List.mem_of_find?_eq_some hp
    simp only [c, List.mem_cons, List.not_mem_nil, or_false] at hmem
    rcases hmem with rfl | rfl <;> rfl
  exact ⟨hdesired, hc, ensureClassSet_converges (.inl ⟨rfl, rfl⟩) hdesired hc⟩

end CsiOperator.Cluster
