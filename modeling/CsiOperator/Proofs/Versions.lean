import Mathlib
import CsiOperator.Proofs.Replay
/-!
Resource versions, and what each write keeps of the object it replaces.

The in-memory server numbers the versions of what it stores. A version is read as an unsigned
64-bit number, decimal digits after an optional plus sign; a missing or unreadable one counts as
zero, and every write stores the numeral of the next number. So a write leaves a version one
above the one it counted from whenever that one reads below the largest 64-bit number, and a
version that does not read, such as one above that largest number, starts again from one.

An update stores the object sent with the stored status and uid, counting on from the stored
version, or from the version sent when the stored object has none (`Replaces`). A status write
changes the stored object's status and version only (`Restatuses`). A creation stores the
object sent without its status, with a fresh uid and the namespace of its key, counting on from
the version sent (`Creates`). Objects are compared member by member. Along any sequence of these
writes the uid stored under a key never changes (`uid_stays`).
-/

namespace CsiOperator.Cluster

/-! ## Version numerals -/

theorem unsigned_of_digits {ds : List Char} (h : ∀ c ∈ ds, c.isDigit) : unsigned ds = ds := by
  unfold unsigned
  split
  · exact absurd (h '+' List.mem_cons_self) (by decide)
  · rfl

theorem readVersion?_toString {n : Nat} (h : n ≤ JsonText.u64Max) :
    readVersion? (toString n) = some n := by
  have digits : ∀ c ∈ Nat.toDigits 10 n, c.isDigit := fun c hc =>
    Nat.isDigit_of_mem_toDigits (by decide) (by decide) hc
  simpa [readVersion?, Nat.toString_eq_repr, Nat.toList_repr, unsigned_of_digits digits,
    Nat.toDigits_ne_nil, h] using digits

theorem succVersion_le (n : Nat) : succVersion n ≤ JsonText.u64Max := by
  unfold succVersion
  split <;> omega

theorem succVersion_of_lt {n : Nat} (h : n < JsonText.u64Max) : succVersion n = n + 1 :=
  if_pos h

theorem lt_succVersion {n : Nat} (h : n < JsonText.u64Max) : n < succVersion n := by
  rw [succVersion_of_lt h]
  exact Nat.lt_succ_self n

theorem versionOf_congr {a b : Json}
    (h : (Meta.of a).get? "resourceVersion" = (Meta.of b).get? "resourceVersion") :
    versionOf a = versionOf b := by
  simp only [versionOf, Json.strOpt, h]

/-! ## Documents with metadata -/

/-- A document whose metadata is an object, as every Kubernetes object's is. -/
def HasMeta (obj : Json) : Prop := ∃ ms, obj.get? "metadata" = some (.obj ms)

theorem HasMeta.setMeta {obj : Json} (h : HasMeta obj) (field : String) (v : Json) :
    HasMeta (setMeta obj field v) := by
  obtain ⟨ms, hms⟩ := h
  simp only [Cluster.setMeta, hms]
  exact ⟨_, Json.get?_set_self _ _ _⟩

theorem HasMeta.set {obj : Json} (h : HasMeta obj) {key : String} (hk : key ≠ "metadata")
    (v : Json) : HasMeta (obj.set key v) := by
  obtain ⟨ms, hms⟩ := h
  exact ⟨ms, (Json.get?_set_of_ne _ _ hk).trans hms⟩

theorem HasMeta.erase {obj : Json} (h : HasMeta obj) {key : String} (hk : key ≠ "metadata") :
    HasMeta (obj.erase key) := by
  obtain ⟨ms, hms⟩ := h
  exact ⟨ms, (Json.get?_erase_of_ne _ hk).trans hms⟩

theorem HasMeta.setField (obj : Json) (key : String) (v : Json) : HasMeta (Meta.setField obj key v) :=
  ⟨_, Json.get?_set_self _ _ _⟩

theorem HasMeta.bumpVersion {obj : Json} (h : HasMeta obj) : HasMeta (bumpVersion obj) :=
  h.setMeta _ _

/-- A document whose resource version is the numeral of the number it stands for. -/
def Numbered (v : Json) : Prop :=
  (Meta.of v).strOpt "resourceVersion" = some (toString (versionOf v))

theorem versionText_bumpVersion {obj : Json} (h : HasMeta obj) :
    (Meta.of (bumpVersion obj)).strOpt "resourceVersion" =
      some (toString (succVersion (versionOf obj))) := by
  rw [Json.strOpt, bumpVersion, meta_get?_setMeta_self h]
  rfl

theorem versionOf_bumpVersion {obj : Json} (h : HasMeta obj) :
    versionOf (bumpVersion obj) = succVersion (versionOf obj) := by
  rw [versionOf, versionText_bumpVersion h, Option.bind_some,
    readVersion?_toString (succVersion_le _), Option.getD_some]

theorem numbered_bumpVersion {obj : Json} (h : HasMeta obj) : Numbered (bumpVersion obj) := by
  rw [Numbered, versionOf_bumpVersion h, versionText_bumpVersion h]

/-! ## The stages of an update

An update sends an object and puts three members of the object it replaces into it: its status
(or none), its uid and its resource version (when it has them); then it raises the version. -/

/-- The object sent, with the status of the object it replaces, or none when that has none. -/
def keepStatus (existing obj : Json) : Json :=
  (existing.get? "status").elim (obj.erase "status") (obj.set "status")

/-- The object sent, with a metadata member of the object it replaces, when that has one. -/
def keepMeta (field : String) (existing obj : Json) : Json :=
  ((Meta.of existing).get? field).elim obj (setMeta obj field)

theorem get?_keepStatus_of_ne (existing obj : Json) {f : String} (h : f ≠ "status") :
    (keepStatus existing obj).get? f = obj.get? f := by
  unfold keepStatus
  cases existing.get? "status" with
  | none => exact Json.get?_erase_of_ne _ (Ne.symm h)
  | some st => exact Json.get?_set_of_ne _ _ (Ne.symm h)

theorem get?_keepStatus_self (existing obj : Json) :
    (keepStatus existing obj).get? "status" = existing.get? "status" := by
  unfold keepStatus
  cases existing.get? "status" with
  | none => exact Json.get?_erase_self _ _
  | some st => exact Json.get?_set_self _ _ _

theorem meta_keepStatus (existing obj : Json) : Meta.of (keepStatus existing obj) = Meta.of obj := by
  unfold keepStatus
  cases existing.get? "status" with
  | none => exact Meta.of_erase_of_ne _ (by decide)
  | some st => exact Meta.of_set_of_ne _ _ (by decide)

theorem HasMeta.keepStatus {obj : Json} (h : HasMeta obj) (existing : Json) :
    HasMeta (keepStatus existing obj) := by
  obtain ⟨ms, hms⟩ := h
  exact ⟨ms, (get?_keepStatus_of_ne existing obj (by decide)).trans hms⟩

theorem get?_keepMeta (field : String) (existing obj : Json) {f : String} (h : f ≠ "metadata") :
    (keepMeta field existing obj).get? f = obj.get? f := by
  unfold keepMeta
  cases (Meta.of existing).get? field with
  | none => rfl
  | some x => exact get?_setMeta obj field x h

theorem meta_get?_keepMeta_of_ne (existing obj : Json) {field f : String} (h : field ≠ f) :
    (Meta.of (keepMeta field existing obj)).get? f = (Meta.of obj).get? f := by
  unfold keepMeta
  cases (Meta.of existing).get? field with
  | none => rfl
  | some x => exact meta_get?_setMeta obj x h

theorem meta_get?_keepMeta_self (existing : Json) {obj : Json} (h : HasMeta obj) (field : String) :
    (Meta.of (keepMeta field existing obj)).get? field =
      ((Meta.of existing).get? field).or ((Meta.of obj).get? field) := by
  unfold keepMeta
  cases (Meta.of existing).get? field with
  | none => rfl
  | some x => exact meta_get?_setMeta_self h field x

theorem HasMeta.keepMeta {obj : Json} (h : HasMeta obj) (field : String) (existing : Json) :
    HasMeta (keepMeta field existing obj) := by
  unfold Cluster.keepMeta
  cases (Meta.of existing).get? field with
  | none => exact h
  | some x => exact h.setMeta field x

theorem versionOf_keepMeta (existing : Json) {obj : Json} (h : HasMeta obj) :
    versionOf (keepMeta "resourceVersion" existing obj) =
      if ((Meta.of existing).get? "resourceVersion").isSome then versionOf existing
      else versionOf obj := by
  unfold versionOf Json.strOpt
  rw [meta_get?_keepMeta_self existing h]
  cases (Meta.of existing).get? "resourceVersion" <;> rfl

theorem update_stores {c c' : Cluster} {k : ResourceKind} {obj v : Json}
    (h : (update k obj).run.run c = (.ok v, c')) :
    ∃ existing, c.find? (keyOf k obj) = some existing ∧
      c'.objects = putObject c.objects (keyOf k obj) v ∧
      v = bumpVersion (keepMeta "resourceVersion" existing
        (keepMeta "uid" existing (keepStatus existing obj))) := by
  obtain ⟨existing, hfound, hon, hfail, hc', -⟩ := update_ok h
  refine ⟨existing, hfound, by rw [hc'], ?_⟩
  simp only [update, exceptState_run_bind, reach_run hon, checkFailure_run hfail,
    exceptState_run_get, hfound, exceptState_run_liftM, exceptState_run_modify,
    exceptState_run_pure] at h
  rw [Prod.mk.injEq, Except.ok.injEq] at h
  obtain ⟨rfl, -⟩ := h
  unfold keepStatus keepMeta
  cases existing.get? "status" <;> cases (Meta.of existing).get? "uid" <;>
    cases (Meta.of existing).get? "resourceVersion" <;> rfl

theorem updateStatus_stores {c c' : Cluster} {k : ResourceKind} {obj v : Json}
    (h : (updateStatus k obj).run.run c = (.ok v, c')) :
    ∃ existing, c.find? (keyOf k obj) = some existing ∧
      c'.objects = putObject c.objects (keyOf k obj) v ∧
      v = bumpVersion (existing.set "status" ((obj.get? "status").getD .null)) := by
  by_cases hon : c.online = true
  swap
  · simp only [updateStatus, exceptState_run_bind, reach_error (by simpa using hon)] at h
    cases h
  cases hfail : c.failing .updateStatus k
  · cases hfound : c.find? (keyOf k obj) with
    | none =>
      simp only [updateStatus, exceptState_run_bind, reach_run hon, checkFailure_run hfail,
        exceptState_run_get, hfound] at h
      cases h
    | some existing =>
      rw [updateStatus_run hon hfail hfound, Prod.mk.injEq, Except.ok.injEq] at h
      obtain ⟨rfl, rfl⟩ := h
      exact ⟨existing, rfl, rfl, rfl⟩
  · obtain ⟨e, he⟩ := checkFailure_error hfail
    simp only [updateStatus, exceptState_run_bind, reach_run hon, he] at h
    cases h

/-! ## The stages of a creation -/

/-- The object a creation sends, with the namespace of its key when the kind is namespaced. -/
def placeIn (k : ResourceKind) (ns : String) (obj : Json) : Json :=
  if k.namespaced then setMeta obj "namespace" (.str ns) else obj

theorem get?_placeIn (k : ResourceKind) (ns : String) (obj : Json) {f : String}
    (h : f ≠ "metadata") : (placeIn k ns obj).get? f = obj.get? f := by
  unfold placeIn
  split
  · exact get?_setMeta obj _ _ h
  · rfl

theorem meta_get?_placeIn_of_ne (k : ResourceKind) (ns : String) (obj : Json) {f : String}
    (h : f ≠ "namespace") : (Meta.of (placeIn k ns obj)).get? f = (Meta.of obj).get? f := by
  unfold placeIn
  split
  · exact meta_get?_setMeta obj _ (Ne.symm h)
  · rfl

theorem meta_get?_placeIn_self (k : ResourceKind) (ns : String) {obj : Json} (h : HasMeta obj) :
    (Meta.of (placeIn k ns obj)).get? "namespace" =
      if k.namespaced then some (.str ns) else (Meta.of obj).get? "namespace" := by
  unfold placeIn
  split
  · exact meta_get?_setMeta_self h _ _
  · rfl

theorem HasMeta.placeIn {obj : Json} (h : HasMeta obj) (k : ResourceKind) (ns : String) :
    HasMeta (placeIn k ns obj) := by
  unfold Cluster.placeIn
  split
  · exact h.setMeta _ _
  · exact h

theorem create_stores {c c' : Cluster} {k : ResourceKind} {obj v : Json}
    (h : (create k obj).run.run c = (.ok v, c')) :
    c.find? (keyOf k obj) = none ∧ c'.objects = putObject c.objects (keyOf k obj) v ∧
      c'.lastUid = c.lastUid + 1 ∧
      v = bumpVersion (placeIn k (keyOf k obj).ns
        (setMeta (obj.erase "status") "uid" (.str ("uid-" ++ toString (c.lastUid + 1))))) := by
  by_cases hon : c.online = true
  swap
  · simp only [create, exceptState_run_bind, reach_error (by simpa using hon)] at h
    cases h
  cases hfail : c.failing .create k
  · cases hfound : c.find? (keyOf k obj) with
    | some existing =>
      simp only [create, exceptState_run_bind, reach_run hon, checkFailure_run hfail,
        exceptState_run_get, hfound, Option.isSome_some, if_true] at h
      cases h
    | none =>
      simp only [create, exceptState_run_bind, reach_run hon, checkFailure_run hfail,
        exceptState_run_get, hfound, Option.isSome_none, Bool.false_eq_true, if_false,
        exceptState_run_liftM, exceptState_run_modify, exceptState_run_pure] at h
      rw [Prod.mk.injEq, Except.ok.injEq] at h
      obtain ⟨rfl, rfl⟩ := h
      exact ⟨rfl, rfl, rfl, rfl⟩
  · obtain ⟨e, he⟩ := checkFailure_error hfail
    simp only [create, exceptState_run_bind, reach_run hon, he] at h
    cases h

/-! ## What each write keeps -/

/-- A store whose objects all have metadata objects, as the server keeps Kubernetes objects. -/
def MetaStored (c : Cluster) : Prop := ∀ key v, c.find? key = some v → HasMeta v

theorem MetaStored.put {c c' : Cluster} (hc : c.MetaStored) {key : Key} {v : Json}
    (hv : HasMeta v) (h : c'.objects = putObject c.objects key v) : c'.MetaStored := by
  intro key' w hw
  rw [find?_objects, h, find?_putObject] at hw
  split at hw
  · cases hw
    exact hv
  · exact hc key' w hw

/-- What an update stores, from the object sent and the object it replaces: the members sent
but the status, which is the stored one; the metadata sent but the uid, which is the stored one
when there is one; and the version after the stored one, or after the one sent when the stored
object has none, written as its numeral. -/
structure Replaces (v obj existing : Json) : Prop where
  members : ∀ f, f ≠ "status" → f ≠ "metadata" → v.get? f = obj.get? f
  status : v.get? "status" = existing.get? "status"
  metadata : ∀ f, f ≠ "uid" → f ≠ "resourceVersion" → (Meta.of v).get? f = (Meta.of obj).get? f
  uid : (Meta.of v).get? "uid" = ((Meta.of existing).get? "uid").or ((Meta.of obj).get? "uid")
  version : versionOf v = succVersion
    (if ((Meta.of existing).get? "resourceVersion").isSome then versionOf existing
    else versionOf obj)
  numbered : Numbered v

/-- What a status write stores, from the object sent and the object it replaces: the stored
object with the status sent (null when none is sent), and the version after the stored one. -/
structure Restatuses (v obj existing : Json) : Prop where
  members : ∀ f, f ≠ "status" → f ≠ "metadata" → v.get? f = existing.get? f
  status : v.get? "status" = some ((obj.get? "status").getD .null)
  metadata : ∀ f, f ≠ "resourceVersion" → (Meta.of v).get? f = (Meta.of existing).get? f
  version : versionOf v = succVersion (versionOf existing)
  numbered : Numbered v

/-- What a creation stores, from the object sent and the uid it is given: the members sent but
the status, which is dropped; the metadata sent with the uid given and, for a namespaced kind,
the namespace of the key; and the version after the one sent. -/
structure Creates (k : ResourceKind) (v obj : Json) (uid : String) : Prop where
  members : ∀ f, f ≠ "status" → f ≠ "metadata" → v.get? f = obj.get? f
  status : v.get? "status" = none
  metadata : ∀ f, f ≠ "uid" → f ≠ "resourceVersion" → f ≠ "namespace" →
    (Meta.of v).get? f = (Meta.of obj).get? f
  uid : (Meta.of v).get? "uid" = some (.str uid)
  placed : (Meta.of v).get? "namespace" =
    if k.namespaced then some (.str (keyOf k obj).ns) else (Meta.of obj).get? "namespace"
  version : versionOf v = succVersion (versionOf obj)
  numbered : Numbered v

theorem update_replaces {c c' : Cluster} {k : ResourceKind} {obj v : Json} (hobj : HasMeta obj)
    (h : (update k obj).run.run c = (.ok v, c')) :
    ∃ existing, c.find? (keyOf k obj) = some existing ∧
      c'.objects = putObject c.objects (keyOf k obj) v ∧ Replaces v obj existing := by
  obtain ⟨existing, hfound, hstored, rfl⟩ := update_stores h
  -- the stored uid goes in first, over the object sent with the stored status
  have sent : HasMeta (keepMeta "uid" existing (keepStatus existing obj)) :=
    (hobj.keepStatus existing).keepMeta "uid" existing
  refine ⟨existing, hfound, hstored, fun f hs hm => ?_, ?_, fun f hu hr => ?_, ?_, ?_,
    numbered_bumpVersion (sent.keepMeta _ _)⟩
  · rw [get?_bumpVersion _ hm, get?_keepMeta _ _ _ hm, get?_keepMeta _ _ _ hm,
      get?_keepStatus_of_ne _ _ hs]
  · rw [get?_bumpVersion _ (by decide), get?_keepMeta _ _ _ (by decide),
      get?_keepMeta _ _ _ (by decide), get?_keepStatus_self]
  · rw [meta_get?_bumpVersion _ hr, meta_get?_keepMeta_of_ne _ _ (Ne.symm hr),
      meta_get?_keepMeta_of_ne _ _ (Ne.symm hu), meta_keepStatus]
  · rw [meta_get?_bumpVersion _ (by decide), meta_get?_keepMeta_of_ne _ _ (by decide),
      meta_get?_keepMeta_self _ (hobj.keepStatus existing), meta_keepStatus]
  · have uncounted : versionOf (keepMeta "uid" existing (keepStatus existing obj)) = versionOf obj :=
      versionOf_congr (by rw [meta_get?_keepMeta_of_ne _ _ (by decide), meta_keepStatus])
    rw [versionOf_bumpVersion (sent.keepMeta _ _), versionOf_keepMeta _ sent, uncounted]

theorem updateStatus_restatuses {c c' : Cluster} {k : ResourceKind} {obj v : Json}
    (hc : c.MetaStored) (h : (updateStatus k obj).run.run c = (.ok v, c')) :
    ∃ existing, c.find? (keyOf k obj) = some existing ∧
      c'.objects = putObject c.objects (keyOf k obj) v ∧ Restatuses v obj existing := by
  obtain ⟨existing, hfound, hstored, rfl⟩ := updateStatus_stores h
  have hmeta : HasMeta (existing.set "status" ((obj.get? "status").getD .null)) :=
    (hc _ _ hfound).set (by decide) _
  refine ⟨existing, hfound, hstored, fun f hs hm => ?_, ?_, fun f hr => ?_, ?_,
    numbered_bumpVersion hmeta⟩
  · rw [get?_bumpVersion _ hm, Json.get?_set_of_ne _ _ (Ne.symm hs)]
  · rw [get?_bumpVersion _ (by decide), Json.get?_set_self]
  · rw [meta_get?_bumpVersion _ hr, Meta.of_set_of_ne _ _ (by decide)]
  · have unchanged : versionOf (existing.set "status" ((obj.get? "status").getD .null)) =
        versionOf existing :=
      versionOf_congr (by rw [Meta.of_set_of_ne _ _ (by decide)])
    rw [versionOf_bumpVersion hmeta, unchanged]

theorem create_creates {c c' : Cluster} {k : ResourceKind} {obj v : Json} (hobj : HasMeta obj)
    (h : (create k obj).run.run c = (.ok v, c')) :
    c.find? (keyOf k obj) = none ∧ c'.objects = putObject c.objects (keyOf k obj) v ∧
      Creates k v obj ("uid-" ++ toString (c.lastUid + 1)) := by
  obtain ⟨hfound, hstored, -, rfl⟩ := create_stores h
  refine ⟨hfound, hstored, ?_⟩
  generalize "uid-" ++ toString (c.lastUid + 1) = uid
  -- the status goes, then the uid and the namespace come in
  have unstatused : HasMeta (obj.erase "status") := hobj.erase (by decide)
  have sent : HasMeta (setMeta (obj.erase "status") "uid" (.str uid)) := unstatused.setMeta _ _
  refine ⟨fun f hs hm => ?_, ?_, fun f hu hr hn => ?_, ?_, ?_, ?_,
    numbered_bumpVersion (sent.placeIn _ _)⟩
  · rw [get?_bumpVersion _ hm, get?_placeIn _ _ _ hm, get?_setMeta _ _ _ hm,
      Json.get?_erase_of_ne _ (Ne.symm hs)]
  · rw [get?_bumpVersion _ (by decide), get?_placeIn _ _ _ (by decide),
      get?_setMeta _ _ _ (by decide), Json.get?_erase_self]
  · rw [meta_get?_bumpVersion _ hr, meta_get?_placeIn_of_ne _ _ _ hn,
      meta_get?_setMeta _ _ (Ne.symm hu), Meta.of_erase_of_ne _ (by decide)]
  · rw [meta_get?_bumpVersion _ (by decide), meta_get?_placeIn_of_ne _ _ _ (by decide),
      meta_get?_setMeta_self unstatused]
  · rw [meta_get?_bumpVersion _ (by decide), meta_get?_placeIn_self _ _ sent,
      meta_get?_setMeta _ _ (by decide), Meta.of_erase_of_ne _ (by decide)]
  · have uncounted : versionOf (placeIn k (keyOf k obj).ns
        (setMeta (obj.erase "status") "uid" (.str uid))) = versionOf obj :=
      versionOf_congr (by rw [meta_get?_placeIn_of_ne _ _ _ (by decide),
        meta_get?_setMeta _ _ (by decide), Meta.of_erase_of_ne _ (by decide)])
    rw [versionOf_bumpVersion (sent.placeIn _ _), uncounted]

/-! ## Stores of Kubernetes objects

Every object the server stores has metadata: seeding stores Kubernetes objects, and each write
keeps the metadata of what it writes. A write that fails leaves the store as it was. -/

theorem insert_stores (c : Cluster) (k : ResourceKind) (obj : Json) (hobj : HasMeta obj) :
    ∃ w, HasMeta w ∧ ((insert k obj).run c).2.objects = putObject c.objects (keyOf k w) w := by
  unfold insert
  by_cases hu : (Meta.uid? obj).isNone
  · simp only [hu, if_true]
    refine ⟨_, ?_, rfl⟩
    split <;> exact HasMeta.setField _ _ _
  · simp only [hu, Bool.false_eq_true, if_false]
    refine ⟨_, ?_, rfl⟩
    split
    · exact HasMeta.setField _ _ _
    · exact hobj

theorem MetaStored.empty : (({} : Cluster)).MetaStored := fun _ _ h => by cases h

theorem MetaStored.insert {c : Cluster} (hc : c.MetaStored) (k : ResourceKind) {obj : Json}
    (hobj : HasMeta obj) : ((Cluster.insert k obj).run c).2.MetaStored := by
  obtain ⟨w, hw, hstored⟩ := insert_stores c k obj hobj
  exact hc.put hw hstored

theorem MetaStored.insertAll {c : Cluster} (hc : c.MetaStored) (l : List (ResourceKind × Json))
    (h : ∀ p ∈ l, HasMeta p.2) : ((l.forM fun p => Cluster.insert p.1 p.2).run c).2.MetaStored := by
  induction l generalizing c with
  | nil => exact hc
  | cons p rest ih =>
    rw [List.forM_eq_forM, List.forM_cons, StateT.run_bind]
    exact ih (hc.insert p.1 (h p List.mem_cons_self)) fun q hq => h q (List.mem_cons_of_mem _ hq)

theorem metaStored_seeded {objects : List (ResourceKind × Json)} (h : ∀ p ∈ objects, HasMeta p.2)
    (failures : List Failure) : (seeded objects failures).MetaStored :=
  MetaStored.empty.insertAll objects h

variable {α : Type} {c c' : Cluster} {k : ResourceKind} {obj : Json}

theorem Atomic.unchanged {key : Key} {logged : List Write} {m : ClusterM α} {e : OperatorError}
    (ha : Atomic key logged m c) (h : m.run.run c = (.error e, c')) : c' = c := by
  unfold Atomic at ha
  rw [h] at ha
  exact ha

theorem MetaStored.create (hc : c.MetaStored) (hobj : HasMeta obj) {r : Except OperatorError Json}
    (h : (Cluster.create k obj).run.run c = (r, c')) : c'.MetaStored := by
  cases r with
  | error e => exact (create_atomic k obj c).unchanged h ▸ hc
  | ok v =>
    obtain ⟨-, hstored, -, rfl⟩ := create_stores h
    exact hc.put (((hobj.erase (by decide)).setMeta _ _).placeIn _ _).bumpVersion hstored

theorem MetaStored.update (hc : c.MetaStored) (hobj : HasMeta obj) {r : Except OperatorError Json}
    (h : (Cluster.update k obj).run.run c = (r, c')) : c'.MetaStored := by
  cases r with
  | error e => exact (update_atomic k obj c).unchanged h ▸ hc
  | ok v =>
    obtain ⟨existing, -, hstored, rfl⟩ := update_stores h
    exact hc.put ((((hobj.keepStatus existing).keepMeta _ _).keepMeta _ _).bumpVersion) hstored

theorem MetaStored.updateStatus (hc : c.MetaStored) {r : Except OperatorError Json}
    (h : (Cluster.updateStatus k obj).run.run c = (r, c')) : c'.MetaStored := by
  cases r with
  | error e => exact (updateStatus_atomic k obj c).unchanged h ▸ hc
  | ok v =>
    obtain ⟨existing, hfound, hstored, rfl⟩ := updateStatus_stores h
    exact hc.put (((hc _ _ hfound).set (by decide) _).bumpVersion) hstored

/-- The uid of the object stored under a key. -/
def uidAt (c : Cluster) (key : Key) : Option Json := (c.find? key).bind fun v => (Meta.of v).get? "uid"

theorem uidAt_put {key : Key} {v : Json} (h : c'.objects = putObject c.objects key v) (key' : Key) :
    c'.uidAt key' = if key' = key then (Meta.of v).get? "uid" else c.uidAt key' := by
  simp only [uidAt, find?_objects, h, find?_putObject]
  split <;> rfl

theorem uidAt_create {r : Except OperatorError Json} (h : (Cluster.create k obj).run.run c = (r, c'))
    {key : Key} {u : Json} (hu : c.uidAt key = some u) : c'.uidAt key = some u := by
  cases r with
  | error e => exact (create_atomic k obj c).unchanged h ▸ hu
  | ok v =>
    obtain ⟨hfound, hstored, -⟩ := create_stores h
    -- a creation finds its key empty, so it is not the key that holds the uid
    have other : key ≠ keyOf k obj := by
      rintro rfl
      simp [uidAt, hfound] at hu
    rw [uidAt_put hstored, if_neg other, hu]

theorem uidAt_update (hobj : HasMeta obj) {r : Except OperatorError Json}
    (h : (Cluster.update k obj).run.run c = (r, c')) {key : Key} {u : Json}
    (hu : c.uidAt key = some u) : c'.uidAt key = some u := by
  cases r with
  | error e => exact (update_atomic k obj c).unchanged h ▸ hu
  | ok v =>
    obtain ⟨existing, hfound, hstored, replaced⟩ := update_replaces hobj h
    rw [uidAt_put hstored]
    split
    · next same =>
      subst same
      simp only [uidAt, hfound, Option.bind_some] at hu
      rw [replaced.uid, hu, Option.some_or]
    · exact hu

theorem uidAt_updateStatus (hc : c.MetaStored) {r : Except OperatorError Json}
    (h : (Cluster.updateStatus k obj).run.run c = (r, c')) {key : Key} {u : Json}
    (hu : c.uidAt key = some u) : c'.uidAt key = some u := by
  cases r with
  | error e => exact (updateStatus_atomic k obj c).unchanged h ▸ hu
  | ok v =>
    obtain ⟨existing, hfound, hstored, restatused⟩ := updateStatus_restatuses hc h
    rw [uidAt_put hstored]
    split
    · next same =>
      subst same
      simp only [uidAt, hfound, Option.bind_some] at hu
      rw [restatused.metadata _ (by decide), hu]
    · exact hu

/-- The stores a run of creations, updates and status writes of Kubernetes objects passes
through; any of the writes may fail. -/
inductive WriteRun : Cluster → Cluster → Prop where
  | refl (c : Cluster) : WriteRun c c
  | creation {c c' c'' : Cluster} {k : ResourceKind} {obj : Json} {r : Except OperatorError Json}
      (hobj : HasMeta obj) (step : (Cluster.create k obj).run.run c = (r, c'))
      (rest : WriteRun c' c'') : WriteRun c c''
  | replacement {c c' c'' : Cluster} {k : ResourceKind} {obj : Json} {r : Except OperatorError Json}
      (hobj : HasMeta obj) (step : (Cluster.update k obj).run.run c = (r, c'))
      (rest : WriteRun c' c'') : WriteRun c c''
  | statusWrite {c c' c'' : Cluster} {k : ResourceKind} {obj : Json} {r : Except OperatorError Json}
      (step : (Cluster.updateStatus k obj).run.run c = (r, c'))
      (rest : WriteRun c' c'') : WriteRun c c''

theorem WriteRun.keeps_uid (h : WriteRun c c') (hc : c.MetaStored) {key : Key} {u : Json}
    (hu : c.uidAt key = some u) : c'.MetaStored ∧ c'.uidAt key = some u := by
  induction h with
  | refl => exact ⟨hc, hu⟩
  | creation hobj step _ ih => exact ih (hc.create hobj step) (uidAt_create step hu)
  | replacement hobj step _ ih => exact ih (hc.update hobj step) (uidAt_update hobj step hu)
  | statusWrite step _ ih => exact ih (hc.updateStatus step) (uidAt_updateStatus hc step hu)

/-! ## The writes of the in-memory server -/

/-- What the in-memory server's writes keep and count, from any store of Kubernetes objects and
for any Kubernetes object sent. An update stores the object sent with the stored status and
uid, a status write changes only the stored status, a creation stores the object sent without
status and with a fresh uid; each counts the version on from the one it started from
(`succVersion`, one more below the largest 64-bit number, and one after a version that does not
read). Along any run of such writes the uid stored under a key never changes. -/
theorem writes_keep_frames_and_count_versions (c : Cluster) (hc : c.MetaStored) (k : ResourceKind)
    (obj : Json) (hobj : HasMeta obj) :
    (∀ v c', (update k obj).run.run c = (.ok v, c') →
      ∃ existing, c.find? (keyOf k obj) = some existing ∧ c'.find? (keyOf k obj) = some v ∧
        Replaces v obj existing) ∧
    (∀ v c', (updateStatus k obj).run.run c = (.ok v, c') →
      ∃ existing, c.find? (keyOf k obj) = some existing ∧ c'.find? (keyOf k obj) = some v ∧
        Restatuses v obj existing) ∧
    (∀ v c', (create k obj).run.run c = (.ok v, c') →
      c.find? (keyOf k obj) = none ∧ c'.find? (keyOf k obj) = some v ∧
        Creates k v obj ("uid-" ++ toString (c.lastUid + 1))) ∧
    (∀ c' key u, WriteRun c c' → c.uidAt key = some u → c'.uidAt key = some u) := by
  -- the object a write stores is found under its key afterwards
  have found : ∀ {c' : Cluster} {v : Json}, c'.objects = putObject c.objects (keyOf k obj) v →
      c'.find? (keyOf k obj) = some v := fun hstored => by
    simp [find?_objects, hstored, find?_putObject]
  refine ⟨fun v c' h => ?_, fun v c' h => ?_, fun v c' h => ?_,
    fun c' key u hrun hu => (hrun.keeps_uid hc hu).2⟩
  · obtain ⟨existing, hfound, hstored, replaced⟩ := update_replaces hobj h
    exact ⟨existing, hfound, found hstored, replaced⟩
  · obtain ⟨existing, hfound, hstored, restatused⟩ := updateStatus_restatuses hc h
    exact ⟨existing, hfound, found hstored, restatused⟩
  · obtain ⟨hfound, hstored, created⟩ := create_creates hobj h
    exact ⟨hfound, found hstored, created⟩

/-- A unity resource at version 7, seeded into a store and written back. -/
theorem unity_writes_keep_frames :
    let doc : Json := .obj [("apiVersion", .str "storage.dell.com/v1"), ("kind", .str "CSIUnity"),
      ("metadata", .obj [("name", .str "unity"), ("namespace", .str "unity"),
        ("resourceVersion", .str "7")])]
    let c := seeded [(.driver .unity, doc)] []
    c.MetaStored ∧ HasMeta doc ∧
    (∀ v c', (update (.driver .unity) doc).run.run c = (.ok v, c') →
      ∃ existing, c.find? (keyOf (.driver .unity) doc) = some existing ∧
        c'.find? (keyOf (.driver .unity) doc) = some v ∧ Replaces v doc existing) ∧
    (∀ v c', (updateStatus (.driver .unity) doc).run.run c = (.ok v, c') →
      ∃ existing, c.find? (keyOf (.driver .unity) doc) = some existing ∧
        c'.find? (keyOf (.driver .unity) doc) = some v ∧ Restatuses v doc existing) ∧
    (∀ v c', (create (.driver .unity) doc).run.run c = (.ok v, c') →
      c.find? (keyOf (.driver .unity) doc) = none ∧ c'.find? (keyOf (.driver .unity) doc) = some v ∧
        Creates (.driver .unity) v doc ("uid-" ++ toString (c.lastUid + 1))) ∧
    (∀ c' key u, WriteRun c c' → c.uidAt key = some u → c'.uidAt key = some u) := by
  intro doc c
  have hdoc : HasMeta doc := ⟨_, rfl⟩
  have hc : c.MetaStored := metaStored_seeded (by simpa using hdoc) []
  exact ⟨hc, hdoc, writes_keep_frames_and_count_versions c hc _ doc hdoc⟩

/-- A version above the largest 64-bit number does not read as one, so an update of the object
seeded with it stores version 1. -/
theorem update_restarts_unreadable_version :
    let doc : Json := .obj [("apiVersion", .str "storage.dell.com/v1"), ("kind", .str "CSIUnity"),
      ("metadata", .obj [("name", .str "unity"), ("namespace", .str "unity"),
        ("resourceVersion", .str "18446744073709551616")])]
    let c := seeded [(.driver .unity, doc)] []
    ((c.find? (keyOf (.driver .unity) doc)).bind fun v => (Meta.of v).strOpt "resourceVersion") =
        some "18446744073709551616" ∧
      (((update (.driver .unity) doc).run.run c).1.toOption.bind fun v =>
        (Meta.of v).strOpt "resourceVersion") = some "1" := by
  decide +kernel

end CsiOperator.Cluster
