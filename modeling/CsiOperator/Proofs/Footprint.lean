import Mathlib
import CsiOperator.Proofs.Requests
import CsiOperator.Proofs.Placement
/-!
The footprint of a computation against the cluster: which stored objects it may change.

The store keeps its objects as the server does, each key once and in key order, each object
under the key its own metadata names (`WellKeyed`). A computation is confined to a footprint
when, from such a store, it leaves such a store and every object it changes lies in the
footprint: under a key of a fixed set, or under a key whose object before the change is one a
condition accepts; and every object it changes ends up as a second condition requires. The
relation is reflexive and transitive, so a footprint is proved of a whole convergence from its
steps, as `Stays` does for kinds.
-/

namespace CsiOperator

/-! ## Keys in order -/

namespace ResourceKind

theorem ofName?_name (k : ResourceKind) : ofName? k.name = some k := by
  cases k with
  | driver d => cases d <;> rfl
  | _ => rfl

theorem name_injective : Function.Injective ResourceKind.name := fun a b h => by
  have := ofName?_name a
  rw [h, ofName?_name b] at this
  exact (Option.some.inj this).symm

end ResourceKind

namespace Cluster

/-- A key as the triple its order compares. -/
def Key.rank (k : Key) : Lex (String × Lex (String × String)) :=
  toLex (k.kind.name, toLex (k.ns, k.name))

theorem Key.rank_injective : Function.Injective Key.rank := by
  intro a b h
  simp only [Key.rank, toLex_inj, Prod.mk.injEq] at h
  obtain ⟨hkind, hns, hname⟩ := h
  cases a
  cases b
  simp only at hkind hns hname
  rw [ResourceKind.name_injective hkind, hns, hname]

theorem Key.before_iff (a b : Key) : a.before b = true ↔ a.rank < b.rank := by
  simp only [Key.before, Key.rank, Prod.Lex.toLex_lt_toLex, Bool.or_eq_true, Bool.and_eq_true,
    decide_eq_true_eq, beq_iff_eq]

theorem Key.before_irrefl (a : Key) : a.before a = false :=
  Bool.eq_false_iff.mpr fun h => lt_irrefl _ ((Key.before_iff a a).1 h)

theorem Key.before_trans {a b c : Key} (hab : a.before b = true) (hbc : b.before c = true) :
    a.before c = true := by
  rw [Key.before_iff] at *
  exact hab.trans hbc

theorem Key.before_total {a b : Key} (h : a ≠ b) : a.before b = true ∨ b.before a = true := by
  simp only [Key.before_iff]
  exact lt_or_gt_of_ne (Key.rank_injective.ne h)

/-! ## Well-keyed stores -/

/-- A store as the server keeps it: its keys in strict key order, so each key once, and every
object under the key its own metadata names. -/
structure WellKeyed (c : Cluster) : Prop where
  sorted : c.objects.Pairwise fun p q => p.1.before q.1 = true
  keyed : ∀ p ∈ c.objects, keyOf p.1.kind p.2 = p.1

theorem mem_putObject {objs : List (Key × Json)} {key : Key} {v : Json} {p : Key × Json}
    (h : p ∈ putObject objs key v) : p = (key, v) ∨ p ∈ objs := by
  induction objs with
  | nil => simpa [putObject] using h
  | cons q rest ih =>
    simp only [putObject] at h
    split_ifs at h
    · rcases List.mem_cons.1 h with rfl | h
      · exact .inl rfl
      · exact .inr (List.mem_cons_of_mem _ h)
    · rcases List.mem_cons.1 h with rfl | h
      · exact .inl rfl
      · exact .inr h
    · rcases List.mem_cons.1 h with rfl | h
      · exact .inr List.mem_cons_self
      · exact (ih h).imp_right (List.mem_cons_of_mem _)

theorem sorted_putObject {objs : List (Key × Json)} (key : Key) (v : Json)
    (h : objs.Pairwise fun p q => p.1.before q.1 = true) :
    (putObject objs key v).Pairwise fun p q => p.1.before q.1 = true := by
  induction objs with
  | nil => simp [putObject]
  | cons q rest ih =>
    obtain ⟨k, w⟩ := q
    rw [List.pairwise_cons] at h
    simp only [putObject]
    split_ifs with same ahead
    · -- the stored key keeps its place
      have hk : k = key := by simpa using same
      subst hk
      exact List.pairwise_cons.2 ⟨h.1, h.2⟩
    · -- the new key goes in front of everything after it
      refine List.pairwise_cons.2 ⟨fun p hp => ?_, List.pairwise_cons.2 h⟩
      rcases List.mem_cons.1 hp with rfl | hp
      · exact ahead
      · exact Key.before_trans ahead (h.1 p hp)
    · -- the new key goes after `k`
      have behind : k.before key = true := by
        have differ : k ≠ key := by simpa using same
        exact (Key.before_total differ).resolve_right ahead
      refine List.pairwise_cons.2 ⟨fun p hp => ?_, ih h.2⟩
      rcases mem_putObject hp with rfl | hp
      · exact behind
      · exact h.1 p hp

theorem WellKeyed.put {c : Cluster} (hc : c.WellKeyed) {key : Key} {v : Json}
    (hv : keyOf key.kind v = key) (c' : Cluster) (hobjs : c'.objects = putObject c.objects key v) :
    c'.WellKeyed := by
  refine ⟨hobjs ▸ sorted_putObject key v hc.sorted, fun p hp => ?_⟩
  rw [hobjs] at hp
  rcases mem_putObject hp with rfl | hp
  · exact hv
  · exact hc.keyed p hp

theorem WellKeyed.filter {c : Cluster} (hc : c.WellKeyed) (keep : Key × Json → Bool)
    (c' : Cluster) (hobjs : c'.objects = c.objects.filter keep) : c'.WellKeyed := by
  refine ⟨hobjs ▸ hc.sorted.filter keep, fun p hp => ?_⟩
  rw [hobjs] at hp
  exact hc.keyed p (List.mem_of_mem_filter hp)

theorem WellKeyed.nodup_keys {c : Cluster} (hc : c.WellKeyed) : (c.objects.map (·.1)).Nodup := by
  refine List.pairwise_map.2 (hc.sorted.imp fun {p q} hpq heq => ?_)
  rw [heq, Key.before_irrefl] at hpq
  exact Bool.false_ne_true hpq

theorem WellKeyed.find?_eq_some {c : Cluster} (hc : c.WellKeyed) {key : Key} {v : Json} :
    c.find? key = some v ↔ (key, v) ∈ c.objects := by
  constructor
  · intro h
    obtain ⟨p, hp, rfl⟩ := Option.map_eq_some_iff.1 h
    have same : p.1 = key := by simpa using List.find?_some hp
    exact same ▸ List.mem_of_find?_eq_some hp
  · intro h
    cases hfind : c.objects.find? (·.1 == key) with
    | none =>
      exact absurd (by simp : (key, v).1 == key) (List.find?_eq_none.1 hfind _ h)
    | some p =>
      have same : p.1 = key := by simpa using List.find?_some hfind
      have hp := List.mem_of_find?_eq_some hfind
      have : p = (key, v) := List.inj_on_of_nodup_map hc.nodup_keys hp h same
      simp [find?_objects, hfind, this]

/-! ## What the server stores -/

/-- An object stored for a request's object `obj`: the same members but status and metadata,
and the same owner references. -/
def Sent (v obj : Json) : Prop :=
  (∀ f, f ≠ "status" → f ≠ "metadata" → v.get? f = obj.get? f) ∧
    (Meta.of v).get? "ownerReferences" = (Meta.of obj).get? "ownerReferences"

theorem Sent.refl (obj : Json) : Sent obj obj := ⟨fun _ _ _ => rfl, rfl⟩

theorem Sent.trans {u v w : Json} (huv : Sent u v) (hvw : Sent v w) : Sent u w :=
  ⟨fun f hs hm => (huv.1 f hs hm).trans (hvw.1 f hs hm), huv.2.trans hvw.2⟩

theorem sent_setMeta (obj : Json) {field : String} (x : Json) (h : field ≠ "ownerReferences") :
    Sent (setMeta obj field x) obj := by
  refine ⟨fun f _ hm => get?_setMeta obj field x hm, ?_⟩
  unfold setMeta
  split
  · next md _ hmd =>
    rw [Meta.of, Json.get?_set_self, Option.getD_some, Meta.of, hmd, Option.getD_some,
      Json.get?_set_of_ne _ _ h]
  · rfl

theorem sent_bumpVersion (obj : Json) : Sent (bumpVersion obj) obj :=
  sent_setMeta obj _ (by decide)

theorem sent_set_status (obj st : Json) : Sent (obj.set "status" st) obj :=
  ⟨fun _ hs _ => Json.get?_set_of_ne _ _ (Ne.symm hs),
    by rw [Meta.of_set_of_ne _ _ (by decide)]⟩

theorem sent_erase_status (obj : Json) : Sent (obj.erase "status") obj :=
  ⟨fun _ hs _ => Json.get?_erase_of_ne _ (Ne.symm hs),
    by rw [Meta.of_erase_of_ne _ (by decide)]⟩

theorem keyOf_setNamespace (k : ResourceKind) (obj : Json) :
    keyOf k (if k.namespaced then setMeta obj "namespace" (.str (keyOf k obj).ns) else obj) =
      keyOf k obj := by
  split
  · next hns =>
    unfold setMeta
    split
    · next _ ms hmd =>
      -- the namespace set is the one the key already has; the names are untouched
      have moved : ∀ n, keyOf k (obj.set "metadata" ((Json.obj ms).set "namespace" (.str n))) =
          { kind := k, ns := n, name := (keyOf k obj).name } := by
        intro n
        simp only [keyOf, keyFor, Meta.namespace?, Meta.nameAny, Meta.name?, Meta.of, hmd,
          Json.get?_set_self, Option.getD_some, Json.strOpt, hns, if_true,
          Json.get?_set_of_ne _ _ (show "namespace" ≠ "name" by decide),
          Json.get?_set_of_ne _ _ (show "namespace" ≠ "generateName" by decide)]
        rfl
      rw [moved]
      rfl
    · rfl
  · rfl

theorem create_ok {c c' : Cluster} {k : ResourceKind} {obj v : Json}
    (h : (create k obj).run.run c = (.ok v, c')) :
    c.find? (keyOf k obj) = none ∧ c'.objects = putObject c.objects (keyOf k obj) v ∧
      keyOf k v = keyOf k obj ∧ Sent v obj := by
  by_cases hon : c.online = true
  swap
  · simp only [create, exceptState_run_bind, reach_error (by simpa using hon)] at h
    cases h
  cases hfail : c.failing .create k
  · cases hfound : c.find? (keyOf k obj) with
    | some existing =>
      simp only [create, exceptState_run_bind, reach_run hon, checkFailure_run hfail,
        exceptState_run_get, hfound, Option.isSome_some, if_true] at h
      cases h
    | none =>
      simp only [create, exceptState_run_bind, reach_run hon, checkFailure_run hfail,
        exceptState_run_get, hfound, Option.isSome_none, Bool.false_eq_true, if_false,
        exceptState_run_liftM, exceptState_run_modify, exceptState_run_pure] at h
      rw [Prod.mk.injEq, Except.ok.injEq] at h
      obtain ⟨rfl, rfl⟩ := h
      generalize (StateT.run freshUid c).1 = uid
      -- the object loses its status and gains a uid, then its namespace and a resource version
      have base : keyOf k (setMeta (obj.erase "status") "uid" (.str uid)) = keyOf k obj :=
        keyOf_of_sameNames k ((Meta.sameNames_setMeta _ _ (by decide)).trans
          (Meta.of_erase_of_ne obj (show "status" ≠ "metadata" by decide) ▸ Meta.SameNames.refl _))
      have placed := keyOf_setNamespace k (setMeta (obj.erase "status") "uid" (.str uid))
      rw [base] at placed
      refine ⟨rfl, rfl, (keyOf_of_sameNames k (Meta.sameNames_bumpVersion _)).trans placed, ?_⟩
      refine (sent_bumpVersion _).trans ?_
      have sent : Sent (setMeta (obj.erase "status") "uid" (.str uid)) obj :=
        (sent_setMeta _ _ (by decide)).trans (sent_erase_status obj)
      split
      · exact (sent_setMeta _ _ (by decide)).trans sent
      · exact sent
  · obtain ⟨e, he⟩ := checkFailure_error hfail
    simp only [create, exceptState_run_bind, reach_run hon, he] at h
    cases h

theorem update_sent {c c' : Cluster} {k : ResourceKind} {obj v : Json}
    (h : (update k obj).run.run c = (.ok v, c')) : Sent v obj := by
  obtain ⟨existing, hfound, hon, hfail, -⟩ := update_ok h
  simp only [update, exceptState_run_bind, reach_run hon, checkFailure_run hfail,
    exceptState_run_get, hfound, exceptState_run_liftM, exceptState_run_modify,
    exceptState_run_pure] at h
  rw [Prod.mk.injEq, Except.ok.injEq] at h
  obtain ⟨rfl, -⟩ := h
  refine (sent_bumpVersion _).trans ?_
  -- the resource version and the uid are set in the metadata, then the status is set or dropped
  split <;> [refine (sent_setMeta _ _ (by decide)).trans ?_; skip] <;>
    (split <;> [refine (sent_setMeta _ _ (by decide)).trans ?_; skip] <;>
      (split <;> [exact sent_set_status obj _; exact sent_erase_status obj]))

theorem delete_ok {c c' : Cluster} {k : ResourceKind} {ns : Option String} {name : String}
    {u : Unit} (h : (delete k ns name).run.run c = (.ok u, c')) :
    c'.objects = c.objects.filter (·.1 != keyFor k ns name) ∧ c'.find? (keyFor k ns name) = none := by
  have gone : ((c.objects.filter (·.1 != keyFor k ns name)).find? (·.1 == keyFor k ns name)).map
      (·.2) = none := by
    rw [find?_filter_ne, if_pos rfl]
  by_cases hon : c.online = true
  swap
  · simp only [delete, exceptState_run_bind, reach_error (by simpa using hon)] at h
    cases h
  cases hfail : c.failing .delete k
  · cases hfound : c.find? (keyFor k ns name) with
    | none =>
      simp only [delete, exceptState_run_bind, reach_run hon, checkFailure_run hfail,
        exceptState_run_get, hfound, Option.isSome_none, Bool.false_eq_true, if_false,
        exceptState_run_pure] at h
      obtain ⟨-, rfl⟩ := h
      -- nothing was stored under the key, so removing it changes nothing
      refine ⟨(List.filter_eq_self.2 fun p hp => ?_).symm, hfound⟩
      have differ : p.1 ≠ keyFor k ns name := by
        intro same
        have : c.objects.find? (·.1 == keyFor k ns name) ≠ none :=
          List.find?_isSome.2 ⟨p, hp, by simp [same]⟩ |> Option.isSome_iff_ne_none.1
        exact this (Option.map_eq_none_iff.1 hfound)
      simpa using differ
    | some existing =>
      simp only [delete, exceptState_run_bind, reach_run hon, checkFailure_run hfail,
        exceptState_run_get, hfound, Option.isSome_some, if_true, exceptState_run_liftM,
        exceptState_run_modify] at h
      obtain ⟨-, rfl⟩ := h
      exact ⟨rfl, gone⟩
  · obtain ⟨e, he⟩ := checkFailure_error hfail
    simp only [delete, exceptState_run_bind, reach_run hon, he] at h
    cases h

/-! ## Footprints -/

/-- What a computation may touch: the keys it `names`, which it may write whatever they hold,
and the keys it `takes` for what it finds under them; `leaves` says how it leaves every key it
touches. -/
structure Footprint where
  names : Key → Prop
  takes : Key → Option Json → Prop
  leaves : Key → Option Json → Prop

/-- A key a footprint may touch in a cluster. -/
def Footprint.Allows (F : Footprint) (c : Cluster) (key : Key) : Prop :=
  F.names key ∨ F.takes key (c.find? key)

/-- A step from `c` to `c'` within a footprint: every write it logs and every object it changes
is under a key the footprint allows in `c`, left as the footprint says. -/
structure Within (F : Footprint) (c c' : Cluster) : Prop where
  logged : ∃ ws, c'.writes = c.writes ++ ws ∧ ∀ w ∈ ws, ∃ key, w.kind = key.kind ∧
    w.name = key.name ∧ F.Allows c key ∧ F.leaves key (c'.find? key)
  changed : ∀ key, c'.find? key ≠ c.find? key → F.Allows c key ∧ F.leaves key (c'.find? key)

/-- A computation confined to a footprint: from a well-keyed store it reaches a well-keyed store,
within the footprint. -/
def Confined (F : Footprint) (c c' : Cluster) : Prop := c.WellKeyed → c'.WellKeyed ∧ Within F c c'

section Confined

variable {F : Footprint} {c c₁ c₂ : Cluster} {key : Key}

theorem Within.allows (h : Within F c c₁) (hkey : F.Allows c₁ key) : F.Allows c key := by
  by_cases same : c₁.find? key = c.find? key
  · simpa only [Footprint.Allows, same] using hkey
  · exact (h.changed key same).1

theorem Within.leaves (h : Within F c₁ c₂) (hkey : F.leaves key (c₁.find? key)) :
    F.leaves key (c₂.find? key) := by
  by_cases same : c₂.find? key = c₁.find? key
  · rwa [same]
  · exact (h.changed key same).2

theorem Within.refl (c : Cluster) : Within F c c :=
  ⟨⟨[], by simp, by simp⟩, fun _ h => absurd rfl h⟩

theorem Within.trans (h₁ : Within F c c₁) (h₂ : Within F c₁ c₂) : Within F c c₂ := by
  obtain ⟨ws₁, hws₁, hlog₁⟩ := h₁.logged
  obtain ⟨ws₂, hws₂, hlog₂⟩ := h₂.logged
  refine ⟨⟨ws₁ ++ ws₂, by rw [hws₂, hws₁, List.append_assoc], fun w hw => ?_⟩, fun key hkey => ?_⟩
  · rcases List.mem_append.1 hw with hw | hw
    · obtain ⟨key, hkind, hname, hallows, hleaves⟩ := hlog₁ w hw
      exact ⟨key, hkind, hname, hallows, h₂.leaves hleaves⟩
    · obtain ⟨key, hkind, hname, hallows, hleaves⟩ := hlog₂ w hw
      exact ⟨key, hkind, hname, h₁.allows hallows, hleaves⟩
  · by_cases later : c₂.find? key = c₁.find? key
    · have earlier : c₁.find? key ≠ c.find? key := later ▸ hkey
      exact ⟨(h₁.changed key earlier).1, later ▸ (h₁.changed key earlier).2⟩
    · exact ⟨h₁.allows (h₂.changed key later).1, (h₂.changed key later).2⟩

instance : Std.Refl (Confined F) := ⟨fun c hc => ⟨hc, Within.refl c⟩⟩

instance : IsTrans Cluster (Confined F) :=
  ⟨fun _ _ _ h₁ h₂ hc =>
    let ⟨hc₁, w₁⟩ := h₁ hc
    let ⟨hc₂, w₂⟩ := h₂ hc₁
    ⟨hc₂, w₁.trans w₂⟩⟩

theorem Confined.of_eq (h : c = c₁) : Confined F c c₁ := h ▸ Std.Refl.refl c

/-- Confinement counted from an earlier cluster `o`: what the steps after `o` may touch is what
the footprint allows in `o`. -/
def Extends (F : Footprint) (o c c' : Cluster) : Prop := Confined F o c → Confined F o c'

instance (o : Cluster) : Std.Refl (Extends F o) := ⟨fun _ h => h⟩

instance (o : Cluster) : IsTrans Cluster (Extends F o) := ⟨fun _ _ _ h₁ h₂ h => h₂ (h₁ h)⟩

theorem Extends.of_confined {o : Cluster} (h : Confined F c c₁) : Extends F o c c₁ :=
  fun ho => IsTrans.trans _ _ _ ho h

theorem Confined.write {α : Type} {o : Cluster} {m : ClusterM α} {K : Key} {logged : List Write}
    (hat : Atomic K logged m c) (hlog : ∀ w ∈ logged, w.kind = K.kind ∧ w.name = K.name)
    (hok : c.WellKeyed → ∀ a c', m.run.run c = (.ok a, c') →
      c'.WellKeyed ∧ F.Allows o K ∧ F.leaves K (c'.find? K)) :
    Extends F o c (m.run.run c).2 := by
  intro hoc ho
  unfold Atomic at hat
  rcases hrun : m.run.run c with ⟨_ | a, c'⟩
  · rw [hrun] at hat
    exact hat ▸ hoc ho
  · rw [hrun] at hat
    obtain ⟨hwrites, hothers⟩ := hat
    obtain ⟨hc, within⟩ := hoc ho
    obtain ⟨hc', hallows, hleaves⟩ := hok hc a c' hrun
    -- every key but `K` reads as before the request, and `K` is left as the footprint says
    have kept : ∀ key, F.leaves key (c.find? key) → F.leaves key (c'.find? key) := by
      intro key hkey
      by_cases same : key = K
      · exact same ▸ hleaves
      · rwa [hothers key same]
    obtain ⟨ws, hws, hlogws⟩ := within.logged
    refine ⟨hc', ⟨ws ++ logged, by rw [hwrites, hws, List.append_assoc], fun w hw => ?_⟩,
      fun key hkey => ?_⟩
    · rcases List.mem_append.1 hw with hw | hw
      · obtain ⟨key, hkind, hname, hallows', hleaves'⟩ := hlogws w hw
        exact ⟨key, hkind, hname, hallows', kept key hleaves'⟩
      · exact ⟨K, (hlog w hw).1, (hlog w hw).2, hallows, hleaves⟩
    · by_cases same : key = K
      · exact same ▸ ⟨hallows, hleaves⟩
      · rw [hothers key same] at hkey ⊢
        exact within.changed key hkey

theorem Confined.of_extends {α : Type} {m : ClusterM α}
    (h : ∀ c, Extends F c c (m.run.run c).2) : Stays (Confined F) m :=
  fun c => h c (Std.Refl.refl c)

theorem create_extends {o : Cluster} {k : ResourceKind} {obj : Json}
    (hallows : F.Allows o (keyOf k obj))
    (hleaves : ∀ v, Sent v obj → F.leaves (keyOf k obj) (some v)) (c : Cluster) :
    Extends F o c ((create k obj).run.run c).2 := by
  refine Confined.write (create_atomic k obj c) (by simp [Write.of]) fun hc v c' hrun => ?_
  obtain ⟨-, hobjs, hkey, hsent⟩ := create_ok hrun
  refine ⟨hc.put hkey c' hobjs, hallows, ?_⟩
  simpa only [find?_objects, hobjs, find?_putObject, if_true] using hleaves v hsent

theorem update_extends {o : Cluster} {k : ResourceKind} {obj : Json}
    (hallows : F.Allows o (keyOf k obj))
    (hleaves : ∀ v, Sent v obj → F.leaves (keyOf k obj) (some v)) (c : Cluster) :
    Extends F o c ((update k obj).run.run c).2 := by
  refine Confined.write (update_atomic k obj c) (by simp [Write.of]) fun hc v c' hrun => ?_
  obtain ⟨-, -, -, -, rfl, -, hnames⟩ := update_ok hrun
  have hkey : keyOf k v = keyOf k obj := keyOf_of_sameNames k hnames
  refine ⟨hc.put hkey _ rfl, hallows, ?_⟩
  simpa only [find?_objects, find?_putObject, if_true] using hleaves v (update_sent hrun)

theorem delete_extends {o : Cluster} {k : ResourceKind} {ns : Option String} {name : String}
    (hallows : F.Allows o (keyFor k ns name)) (hleaves : F.leaves (keyFor k ns name) none)
    (c : Cluster) : Extends F o c ((delete k ns name).run.run c).2 := by
  refine Confined.write (delete_atomic k ns name c) (by split <;> simp [Write.of])
    fun hc u c' hrun => ?_
  obtain ⟨hobjs, hgone⟩ := delete_ok hrun
  exact ⟨hc.filter _ c' hobjs, hallows, hgone ▸ hleaves⟩

end Confined

/-! ## Answers read from a well-keyed store -/

/-- Every answer `m` gives from a well-keyed store satisfies `Q`. -/
def Gives {α : Type} (Q : α → Prop) (m : ClusterM α) : Prop :=
  ∀ c, c.WellKeyed → ∀ a c', m.run.run c = (.ok a, c') → Q a

section Gives

variable {α β : Type} {F : Footprint}

theorem Stays.bind_gives {Q : α → Prop} {x : ClusterM α} {f : α → ClusterM β}
    (hx : Stays (Confined F) x) (hq : Gives Q x) (hf : ∀ a, Q a → Stays (Confined F) (f a)) :
    Stays (Confined F) (x >>= f) := by
  intro c hc
  rw [exceptState_run_bind]
  rcases hrun : x.run.run c with ⟨_ | a, c₁⟩
  · simpa only [hrun] using hx c hc
  · have first : Confined F c c₁ := by simpa only [hrun] using hx c
    exact IsTrans.trans _ _ _ first (hf a (hq c hc a c₁ hrun) c₁) hc

theorem Gives.pure (a : α) : Gives (fun x => x = a) (pure a : ClusterM α) := by
  intro c _ x c' hrun
  cases hrun
  rfl

theorem Gives.throw (e : OperatorError) : Gives (fun _ => False) (throw e : ClusterM α) := by
  intro c _ x c' hrun
  cases hrun

theorem list_gives (k : ResourceKind) (hk : k.namespaced = true) (ns : String)
    (selector : List (String × String)) :
    Gives (fun objs => ∀ obj ∈ objs, (keyOf k obj).ns = ns) (list k (some ns) selector) := by
  intro c hc objs c' hrun obj hobj
  cases hon : c.online
  · simp only [list, exceptState_run_bind, reach_error hon] at hrun
    cases hrun
  · simp only [list, exceptState_run_bind, reach_run hon, exceptState_run_get,
      exceptState_run_pure] at hrun
    obtain ⟨rfl, -⟩ := hrun
    obtain ⟨p, hp, rfl⟩ := List.mem_map.1 hobj
    have hsel := (List.mem_filter.1 hp).2
    simp only [Bool.and_eq_true, beq_iff_eq, hk, Bool.not_true, Bool.false_or,
      Option.all_some] at hsel
    have hkey := hc.keyed p (List.mem_of_mem_filter hp)
    rw [hsel.1.1] at hkey
    rw [hkey, hsel.1.2]

theorem Gives.filterMapM {l : List α} {f : α → ClusterM (Option β)} {P : β → Prop}
    (hf : ∀ a ∈ l, Stays Eq (f a) ∧ Gives (fun o => ∀ b, o = some b → P b) (f a)) :
    Gives (fun bs => ∀ b ∈ bs, P b) (l.filterMapM f) := by
  induction l with
  | nil =>
    intro c _ bs c' hrun
    simp only [List.filterMapM_nil, exceptState_run_pure] at hrun
    cases hrun
    simp
  | cons a rest ih =>
    intro c hc bs c' hrun
    have later := ih fun b hb => hf b (List.mem_cons_of_mem _ hb)
    obtain ⟨hstays, hgives⟩ := hf a List.mem_cons_self
    rw [List.filterMapM_cons, exceptState_run_bind] at hrun
    -- the read of the head changes nothing, so the rest runs from the same store
    rcases hhead : (f a).run.run c with ⟨_ | found, c₁⟩
    · rw [hhead] at hrun
      cases hrun
    · have hc₁ : c₁ = c := by simpa only [hhead] using (hstays c).symm
      rw [hc₁] at hhead
      rw [hhead] at hrun
      cases found with
      | none => exact later c hc bs c' hrun
      | some b =>
        dsimp only at hrun
        rw [exceptState_run_bind] at hrun
        rcases htail : (rest.filterMapM f).run.run c with ⟨_ | bs', c₂⟩
        · rw [htail] at hrun
          cases hrun
        · rw [htail] at hrun
          simp only [exceptState_run_pure] at hrun
          cases hrun
          intro x hx
          rcases List.mem_cons.1 hx with rfl | hx
          · exact hgives c hc _ c hhead x rfl
          · exact later c hc bs' _ htail x hx

end Gives

end Cluster

namespace Observe

theorem attempt_run {α : Type} (m : ClusterM α) (c : Cluster) :
    (attempt m).run.run c = (.ok (m.run.run c).1, (m.run.run c).2) := by
  simp only [attempt, exceptState_run_tryCatch, exceptState_run_map]
  rcases m.run.run c with ⟨_ | a, c'⟩ <;> rfl

end Observe

end CsiOperator
