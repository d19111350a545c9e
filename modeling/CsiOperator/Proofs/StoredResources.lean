import Mathlib
import CsiOperator.Proofs.SpecText
import CsiOperator.Proofs.Versions
import CsiOperator.Proofs.ClassSet

/-! Resources the server stores read back with their specs.

A create, an update or a seed does not store the document it is sent: the server drops the
status on create, keeps the replaced object's status on update, and stamps the metadata with a
uid, a namespace, a creation time and a resource version. `ResourceDoc` is what survives all of
that: an object document whose metadata stays readable and whose spec member is the one sent.
Each step of a write keeps it, so a stored resource reads back with the spec, and with the spec
fingerprint, it was written with; `resources_read_back_as_written` collects the round trips of
the resource types with these store laws. -/

namespace CsiOperator.Kube.Schema

theorem readFields_fault_congr {ms ms' : List (String × Json)} {k : String} {p : Presence}
    {s : Schema} {rest : List (String × Presence × Schema)}
    (hloc : (ms.find? (·.1 == k)).map (·.2) = (ms'.find? (·.1 == k)).map (·.2))
    (hrest : (readFields ms' rest).2 = none) (h : (readFields ms ((k, p, s) :: rest)).2 = none) :
    (readFields ms' ((k, p, s) :: rest)).2 = none := by
  rw [← find?_zipIdx k ms 0, ← find?_zipIdx k ms' 0] at hloc
  rw [readFields] at h ⊢
  generalize readFields ms rest = r at h
  generalize readFields ms' rest = r' at hrest ⊢
  obtain ⟨others, fault⟩ := r
  obtain ⟨others', fault'⟩ := r'
  simp only at hrest
  subst hrest
  generalize (ms.zipIdx 0).find? (·.1.1 == k) = z at hloc h
  generalize (ms'.zipIdx 0).find? (·.1.1 == k) = z' at hloc ⊢
  rcases z with _ | ⟨⟨k1, v⟩, i⟩ <;> rcases z' with _ | ⟨⟨k2, v'⟩, i'⟩
  · cases p
    · rfl
    · exact absurd h (Reader.earlier_ne_none _ _)
    · rfl
  · simp at hloc
  · simp at hloc
  · simp only [Option.map_some, Option.some.injEq] at hloc
    subst hloc
    -- the member's value decides the outcome alike; only the rank of a failure differs
    dsimp only at h ⊢
    cases hr : Reader.inside (.key k) (read s) v with
    | ok y => cases p <;> cases v <;> simp_all
    | error e => cases p <;> cases v <;> simp_all [Reader.earlier_ne_none]

/-- A member value a field takes: `null` where the field may be left out, or a value its schema
reads. -/
def Takes (presence : Presence) (s : Schema) (v : Json) : Prop :=
  (v = .null ∧ presence ≠ .required) ∨ ∃ w, read s v = .ok w

theorem readFields_cons_takes {ms : List (String × Json)} {k : String} {p : Presence} {s : Schema}
    {rest : List (String × Presence × Schema)} {v : Json}
    (hloc : (ms.find? (·.1 == k)).map (·.2) = some v) (hv : Takes p s v)
    (hrest : (readFields ms rest).2 = none) :
    (readFields ms ((k, p, s) :: rest)).2 = none := by
  rw [← find?_zipIdx k ms 0] at hloc
  obtain ⟨⟨⟨k', w⟩, i⟩, hz, hw⟩ := Option.map_eq_some_iff.1 hloc
  simp only at hw
  subst hw
  rw [readFields, hz]
  generalize readFields ms rest = r at hrest ⊢
  obtain ⟨others, fault⟩ := r
  simp only at hrest
  subst hrest
  simp only [Option.map_some]
  rcases hv with ⟨rfl, hp⟩ | ⟨y, hy⟩
  · cases p
    · rfl
    · exact absurd rfl hp
    · rfl
  · have reads : Reader.inside (.key k) (read s) w = .ok y := by simp [Reader.inside, hy]
    cases p <;> cases w <;> simp_all

theorem takes_of_readFields {ms : List (String × Json)} :
    ∀ {fs : List (String × Presence × Schema)}, (readFields ms fs).2 = none →
      ∀ {k : String} {p : Presence} {s : Schema}, (k, p, s) ∈ fs → ∀ {v : Json},
        (ms.find? (·.1 == k)).map (·.2) = some v → Takes p s v
  | [], _, _, _, _, hmem, _, _ => by simp at hmem
  | (k', p', s') :: rest, h, k, p, s, hmem, v, hloc => by
    rcases List.mem_cons.1 hmem with same | later
    · simp only [Prod.mk.injEq] at same
      obtain ⟨rfl, rfl, rfl⟩ := same
      rw [← find?_zipIdx k ms 0] at hloc
      obtain ⟨⟨⟨k'', w⟩, i⟩, hz, hw⟩ := Option.map_eq_some_iff.1 hloc
      simp only at hw
      subst hw
      rw [readFields, hz] at h
      generalize readFields ms rest = r at h
      obtain ⟨others, fault⟩ := r
      simp only [Option.map_some] at h
      -- a member its field does not take notes a failure
      cases hr : read s w with
      | ok y => exact .inr ⟨y, hr⟩
      | error e =>
        have fails : Reader.inside (.key k) (read s) w = .error { e with path := .key k :: e.path } := by
          simp [Reader.inside, hr]
        cases p <;> cases w <;> simp_all [Takes, Reader.earlier_ne_none]
    · obtain ⟨-, -, -, hrest⟩ := readFields_cons ms k' p' s' rest
      exact takes_of_readFields (hrest h) later hloc

theorem readFields_setMember {ms : List (String × Json)} {key : String} {v : Json} :
    ∀ {fs : List (String × Presence × Schema)}, (readFields ms fs).2 = none →
      (∀ f ∈ fs, f.1 = key → Takes f.2.1 f.2.2 v) →
      (readFields (Json.setMember ms key v) fs).2 = none
  | [], _, _ => rfl
  | (k, p, s) :: rest, h, hv => by
    obtain ⟨-, -, -, hrest⟩ := readFields_cons ms k p s rest
    have rest_set := readFields_setMember (hrest h) fun f hf => hv f (List.mem_cons_of_mem _ hf)
    by_cases hk : k = key
    · subst hk
      exact readFields_cons_takes (Json.get?_set_self (.obj ms) k v) (hv _ List.mem_cons_self rfl)
        rest_set
    · exact readFields_fault_congr (Json.get?_set_of_ne (.obj ms) v (Ne.symm hk)).symm rest_set h

theorem read_set_of_takes {name : String} {fs : List (String × Presence × Schema)} {m m' : Json}
    (hm : read (.record name fs) m = .ok m') {key : String} {v : Json}
    (hv : ∀ f ∈ fs, f.1 = key → Takes f.2.1 f.2.2 v) :
    ∃ m'', read (.record name fs) (m.set key v) = .ok m'' := by
  obtain ⟨ms, rfl, hfault, -⟩ := read_record hm
  have fault := readFields_setMember hfault hv
  refine ⟨.obj (readFields (Json.setMember ms key v) fs).1, ?_⟩
  simp only [Json.set, Json.members, Json.members?, Option.getD_some, read]
  generalize readFields (Json.setMember ms key v) fs = r at fault ⊢
  obtain ⟨ys, f⟩ := r
  simp only at fault
  subst fault
  rfl

end CsiOperator.Kube.Schema

namespace CsiOperator.Reader.Members

theorem countP_setMember_go (key k : String) (v : Json) :
    ∀ xs : List (String × Json),
      (Json.setMember.go key v xs).countP (·.1 == k) = xs.countP (·.1 == k)
  | [] => rfl
  | (k', x) :: rest => by
    by_cases hk : k' = key
    · simp [Json.setMember.go, hk, List.countP_cons]
    · have hk' : (k' == key) = false := by simpa using hk
      simp [Json.setMember.go, hk', List.countP_cons, countP_setMember_go key k v rest]

theorem countP_setMember_le {xs : List (String × Json)} {key k : String} (v : Json)
    (h : xs.countP (·.1 == k) ≤ 1) (hk : key = k → xs.countP (·.1 == k) = 0 ∨ xs.any (·.1 == key)) :
    (Json.setMember xs key v).countP (·.1 == k) ≤ 1 := by
  unfold Json.setMember
  split
  · rw [countP_setMember_go]
    exact h
  · next absent =>
    rw [List.countP_append]
    by_cases same : key = k
    · subst same
      rcases hk rfl with zero | present
      · simp [zero]
      · exact absurd present absent
    · have other : (key == k) = false := by simpa using same
      simp [other, h]

theorem Holds.setMember_self {xs : List (String × Json)} {key : String} {o : Option Json}
    (h : Holds ⟨xs⟩ key o) (v : Json) : Holds ⟨Json.setMember xs key v⟩ key (some v) := by
  refine ⟨Json.get?_set_self (.obj xs) key v, countP_setMember_le v h.2 fun _ => ?_⟩
  by_cases present : xs.any (·.1 == key)
  · exact .inr present
  · exact .inl (List.countP_eq_zero.2 fun q hq hkey =>
      present (List.any_eq_true.2 ⟨q, hq, hkey⟩))

theorem Holds.setMember_of_ne {xs : List (String × Json)} {key k : String} {o : Option Json}
    (h : Holds ⟨xs⟩ key o) (hk : k ≠ key) (v : Json) : Holds ⟨Json.setMember xs k v⟩ key o :=
  ⟨(Json.get?_set_of_ne (.obj xs) v hk).trans h.1,
    countP_setMember_le v h.2 fun same => absurd same hk⟩

theorem holds_filter_self (xs : List (String × Json)) (key : String) :
    Holds ⟨xs.filter (·.1 != key)⟩ key none :=
  (holds_absent fun q hq => by simpa using (List.mem_filter.1 hq).2).1

theorem Holds.filter_of_ne {xs : List (String × Json)} {key k : String} {o : Option Json}
    (h : Holds ⟨xs⟩ key o) (hk : k ≠ key) : Holds ⟨xs.filter (·.1 != k)⟩ key o :=
  ⟨(Json.get?_erase_of_ne (.obj xs) hk).trans h.1,
    le_trans (List.filter_sublist (l := xs)).countP_le h.2⟩

end CsiOperator.Reader.Members

namespace CsiOperator.Reader

section Scans

variable {α : Type} {ms : Members} {key : String} {s : Option (Nat × DecodeError)}

theorem optNull_run_elim {r : Reader α} {o : Option Json} {a : Option α} (h : ms.Holds key o)
    (ha : o.elim (a = none) fun v => option r v = .ok a) : (optNull ms key r).run s = (a, s) := by
  cases o with
  | none =>
    subst ha
    exact optNull_run_absent h
  | some v =>
    simp only [optNull, StateT.run_map, opt_run_present h ha, Option.join]
    rfl

theorem optNull_fault {r : Reader α} {v : Json} {e : DecodeError}
    (hloc : (ms.locate key).map (·.2) = some v) (hr : option r v = .error e) :
    ((optNull ms key r).run s).2 ≠ none := by
  unfold optNull opt
  split
  · next i w hl =>
    simp only [hl, Option.map_some, Option.some.injEq] at hloc
    subst hloc
    have fails : inside (.key key) (fun j => (option r j).map some) w =
        .error { e with path := .key key :: e.path } := by
      simp [inside, hr, Except.map]
    exact present_error fails s
  · next hl => simp [hl] at hloc

end Scans

end CsiOperator.Reader

namespace CsiOperator.Reader

/-- A resource read member by member: its metadata through the metadata schema, its spec with
`spec` and its status, which may be left out, with `status`. Driver and proxy resources are read
so. -/
def resource {σ τ ρ : Type} [Inhabited σ] [Inhabited ρ] (what : String) (spec : Reader σ)
    (status : Reader τ) (mk : Json → σ → Option τ → ρ) : Reader ρ :=
  record what fun ms => do
    let metadata ← dflt ms "metadata" (.obj []) (Kube.Schema.read Kube.objectMeta)
    let s ← req ms "spec" spec
    let st ← optNull ms "status" status
    pure (mk metadata s st)

section Resources

variable {σ τ ρ : Type} [Inhabited σ] [Inhabited ρ] {what : String} {spec : Reader σ}
  {status : Reader τ} {mk : Json → σ → Option τ → ρ}

open Members

theorem resource_of_members {xs : List (String × Json)} {md md' sj : Json} {d : σ}
    {o : Option Json} {st : Option τ}
    (hmeta : Holds ⟨xs⟩ "metadata" (some md)) (hmd : Kube.Schema.read Kube.objectMeta md = .ok md')
    (hspec : Holds ⟨xs⟩ "spec" (some sj)) (hsj : spec sj = .ok d)
    (hstatus : Holds ⟨xs⟩ "status" o) (hst : o.elim (st = none) fun v => option status v = .ok st) :
    resource what spec status mk (.obj xs) = .ok (mk md' d st) := by
  unfold resource
  apply record_obj
  simp only [StateT.run_bind, dflt_run_present hmeta hmd, req_run_present hspec hsj,
    optNull_run_elim hstatus hst]
  rfl

theorem resource_status_reads {j v : Json} {r : ρ} (h : resource what spec status mk j = .ok r)
    (hstatus : j.get? "status" = some v) : ∃ a, option status v = .ok a := by
  cases j with
  | obj xs =>
    cases hr : option status v with
    | ok a => exact ⟨a, rfl⟩
    | error e =>
      have run := congrArg Prod.snd (record_run h)
      simp only [StateT.run_bind] at run
      exact absurd run (optNull_fault (Members.locate_of_get? hstatus) hr)
  | _ => simp [Json.get?] at hstatus

end Resources

end CsiOperator.Reader

namespace CsiOperator

theorem DriverResource.read_eq_resource (family : DriverKind) :
    DriverResource.read family = Reader.resource ("struct " ++ family.resourceKind)
      (Reader.record ("struct " ++ family.resourceKind ++ "Spec") (Reader.req · "driver" DriverSpec.read))
      DriverStatus.read fun metadata spec status => { family, metadata, spec, status } := rfl

theorem ProxyResource.read_eq_resource :
    ProxyResource.read = Reader.resource "struct CSIPowerMaxRevProxy" ProxySpec.read
      ProxyStatus.read fun metadata spec status => { metadata, spec, status } := rfl

end CsiOperator

namespace CsiOperator

open Reader Members

/-- Setting a metadata member to a value keeps every metadata document the schema reads
readable. -/
def Kube.KeepsMeta (field : String) (w : Json) : Prop :=
  ∀ m m', Kube.Schema.read Kube.objectMeta m = .ok m' →
    ∃ m'', Kube.Schema.read Kube.objectMeta (m.set field w) = .ok m''

theorem Kube.keepsMeta_str {field : String}
    (hfield : field = "uid" ∨ field = "namespace" ∨ field = "resourceVersion") (t : String) :
    Kube.KeepsMeta field (.str t) := fun _ _ hm =>
  Kube.Schema.read_set_of_takes hm fun f hf hkey => by
    simp only [Kube.opt, List.mem_cons, List.not_mem_nil, or_false] at hf
    rcases hf with rfl | rfl | rfl | rfl | rfl | rfl | rfl | rfl | rfl | rfl | rfl | rfl | rfl |
      rfl | rfl <;> simp only at hkey <;> subst hkey <;>
      first | (simp at hfield; done) | exact .inr ⟨_, rfl⟩

theorem Kube.keepsMeta_finalizers (fs : List String) : Kube.KeepsMeta "finalizers" (Json.strs fs) :=
  fun _ _ hm => Kube.Schema.read_set_of_takes hm fun f hf hkey => by
    simp only [Kube.opt, List.mem_cons, List.not_mem_nil, or_false] at hf
    rcases hf with rfl | rfl | rfl | rfl | rfl | rfl | rfl | rfl | rfl | rfl | rfl | rfl | rfl |
      rfl | rfl <;> simp only at hkey <;> first | simp at hkey |
        exact .inr ⟨_, Kube.Schema.read_strList fs⟩

theorem Kube.keepsMeta_of_get? {m m' : Json} (hm : Kube.Schema.read Kube.objectMeta m = .ok m')
    {field : String} {w : Json} (hw : m.get? field = some w) : Kube.KeepsMeta field w := fun _ _ hm' => by
  obtain ⟨ms, rfl, hfault, -⟩ := Kube.Schema.read_record hm
  refine Kube.Schema.read_set_of_takes hm' fun f hf hkey => ?_
  obtain ⟨k, p, s⟩ := f
  simp only at hkey
  subst hkey
  exact Kube.Schema.takes_of_readFields hfault hf hw
end CsiOperator

namespace CsiOperator

open Reader Members

/-- A resource document as the server keeps one: an object whose metadata, an object the metadata
schema reads, and whose spec and status are each held once. -/
def ResourceDoc (doc spec : Json) (status : Option Json) : Prop :=
  ∃ xs mm, doc = .obj xs ∧ Holds ⟨xs⟩ "metadata" (some (.obj mm)) ∧
    (∃ md, Kube.Schema.read Kube.objectMeta (.obj mm) = .ok md) ∧
    Holds ⟨xs⟩ "spec" (some spec) ∧ Holds ⟨xs⟩ "status" status

theorem Cluster.insert_stores_of {P : Json → Prop} (c : Cluster) (k : ResourceKind) {obj : Json}
    (hobj : P obj)
    (hset : ∀ j field t, (field = "uid" ∨ field = "namespace") → P j → P (Meta.setField j field (.str t))) :
    ∃ w, P w ∧ ((Cluster.insert k obj).run c).2.objects = Cluster.putObject c.objects (Cluster.keyOf k w) w := by
  unfold Cluster.insert
  by_cases hu : (Meta.uid? obj).isNone
  · simp only [hu, if_true]
    refine ⟨_, ?_, rfl⟩
    split
    · exact hset _ "namespace" _ (.inr rfl) (hset obj "uid" _ (.inl rfl) hobj)
    · exact hset obj "uid" _ (.inl rfl) hobj
  · simp only [hu, Bool.false_eq_true, if_false]
    refine ⟨_, ?_, rfl⟩
    split
    · exact hset _ "namespace" _ (.inr rfl) hobj
    · exact hobj

namespace ResourceDoc

variable {doc sj : Json} {o : Option Json}

theorem setMeta (hd : ResourceDoc doc sj o) {field : String} {w : Json}
    (hk : Kube.KeepsMeta field w) : ResourceDoc (Cluster.setMeta doc field w) sj o := by
  obtain ⟨xs, mm, rfl, hmeta, ⟨md, hmd⟩, hspec, hstatus⟩ := hd
  have hget : (Json.obj xs).get? "metadata" = some (.obj mm) := hmeta.1
  obtain ⟨md', hmd'⟩ := hk _ _ hmd
  refine ⟨Json.setMember xs "metadata" ((Json.obj mm).set field w), Json.setMember mm field w,
    by simp [Cluster.setMeta, hget, Json.set, Json.members, Json.members?],
    hmeta.setMember_self _, ⟨md', hmd'⟩, hspec.setMember_of_ne (by decide) _,
    hstatus.setMember_of_ne (by decide) _⟩

theorem setField (hd : ResourceDoc doc sj o) {field : String} {w : Json}
    (hk : Kube.KeepsMeta field w) : ResourceDoc (Meta.setField doc field w) sj o := by
  obtain ⟨xs, mm, rfl, hmeta, ⟨md, hmd⟩, hspec, hstatus⟩ := hd
  have hget : (Json.obj xs).get? "metadata" = some (.obj mm) := hmeta.1
  obtain ⟨md', hmd'⟩ := hk _ _ hmd
  refine ⟨Json.setMember xs "metadata" ((Json.obj mm).set field w), Json.setMember mm field w,
    by simp [Meta.setField, Meta.modify, Meta.setOf, Meta.of, hget, Json.set, Json.members,
      Json.members?],
    hmeta.setMember_self _, ⟨md', hmd'⟩, hspec.setMember_of_ne (by decide) _,
    hstatus.setMember_of_ne (by decide) _⟩

theorem erase_status (hd : ResourceDoc doc sj o) : ResourceDoc (doc.erase "status") sj none := by
  obtain ⟨xs, mm, rfl, hmeta, hmd, hspec, -⟩ := hd
  exact ⟨xs.filter (·.1 != "status"), mm, rfl, hmeta.filter_of_ne (by decide), hmd,
    hspec.filter_of_ne (by decide), holds_filter_self xs "status"⟩

theorem set_status (hd : ResourceDoc doc sj o) (v : Json) :
    ResourceDoc (doc.set "status" v) sj (some v) := by
  obtain ⟨xs, mm, rfl, hmeta, hmd, hspec, hstatus⟩ := hd
  exact ⟨Json.setMember xs "status" v, mm, rfl, hmeta.setMember_of_ne (by decide) _, hmd,
    hspec.setMember_of_ne (by decide) _, hstatus.setMember_self _⟩

theorem keepStatus (hd : ResourceDoc doc sj o) (existing : Json) :
    ResourceDoc (Cluster.keepStatus existing doc) sj (existing.get? "status") := by
  unfold Cluster.keepStatus
  cases existing.get? "status" with
  | none => exact hd.erase_status
  | some st => exact hd.set_status st

theorem keepMeta (hd : ResourceDoc doc sj o) (field : String) {existing m : Json}
    (hm : Kube.Schema.read Kube.objectMeta (Meta.of existing) = .ok m) :
    ResourceDoc (Cluster.keepMeta field existing doc) sj o := by
  unfold Cluster.keepMeta
  cases hw : (Meta.of existing).get? field with
  | none => exact hd
  | some w => exact hd.setMeta (Kube.keepsMeta_of_get? hm hw)

theorem placeIn (hd : ResourceDoc doc sj o) (k : ResourceKind) (ns : String) :
    ResourceDoc (Cluster.placeIn k ns doc) sj o := by
  unfold Cluster.placeIn
  split
  · exact hd.setMeta (Kube.keepsMeta_str (.inr (.inl rfl)) ns)
  · exact hd

theorem bumpVersion (hd : ResourceDoc doc sj o) : ResourceDoc (Cluster.bumpVersion doc) sj o :=
  hd.setMeta (Kube.keepsMeta_str (.inr (.inr rfl)) _)


/-! ## Stored resources -/

theorem created {k : ResourceKind} {obj v : Json} {c c' : Cluster}
    (hd : ResourceDoc obj sj o) (h : (Cluster.create k obj).run.run c = (.ok v, c')) :
    c'.find? (Cluster.keyOf k obj) = some v ∧ ResourceDoc v sj none := by
  obtain ⟨-, hstored, -, rfl⟩ := Cluster.create_stores h
  exact ⟨by rw [Cluster.find?_of_put hstored, if_pos rfl],
    ((hd.erase_status.setMeta (Kube.keepsMeta_str (.inl rfl) _)).placeIn _ _).bumpVersion⟩

theorem updated {k : ResourceKind} {obj v : Json} {c c' : Cluster}
    (hd : ResourceDoc obj sj o) (h : (Cluster.update k obj).run.run c = (.ok v, c')) :
    ∃ existing, c.find? (Cluster.keyOf k obj) = some existing ∧
      c'.find? (Cluster.keyOf k obj) = some v ∧
      ∀ m, Kube.Schema.read Kube.objectMeta (Meta.of existing) = .ok m →
        ResourceDoc v sj (existing.get? "status") := by
  obtain ⟨existing, hfound, hstored, rfl⟩ := Cluster.update_stores h
  exact ⟨existing, hfound, by rw [Cluster.find?_of_put hstored, if_pos rfl], fun _ hm =>
    (((hd.keepStatus existing).keepMeta "uid" hm).keepMeta "resourceVersion" hm).bumpVersion⟩

theorem inserted {obj : Json} (hd : ResourceDoc obj sj o) (c : Cluster) (k : ResourceKind) :
    ∃ w, ((Cluster.insert k obj).run c).2.find? (Cluster.keyOf k w) = some w ∧ ResourceDoc w sj o := by
  obtain ⟨w, hw, hstored⟩ := Cluster.insert_stores_of (P := fun j => ResourceDoc j sj o) c k hd
    fun _ _ t hfield hj => hj.setField (Kube.keepsMeta_str (hfield.imp_right .inl) t)
  exact ⟨w, by rw [Cluster.find?_of_put hstored, if_pos rfl], hw⟩

end ResourceDoc

namespace Reader

theorem resource_of_resourceDoc {σ τ ρ : Type} [Inhabited σ] [Inhabited ρ] (what : String)
    {spec : Reader σ} {status : Reader τ} (mk : Json → σ → Option τ → ρ) {doc sj : Json} {o : Option Json} (hd : ResourceDoc doc sj o)
    {d : σ} (hsj : spec sj = .ok d) (hst : o.elim True fun v => ∃ a, option status v = .ok a) :
    ∃ md st, resource what spec status mk doc = .ok (mk md d st) := by
  obtain ⟨xs, mm, rfl, hmeta, ⟨md, hmd⟩, hspec, hstatus⟩ := hd
  cases o with
  | none => exact ⟨md, none, resource_of_members hmeta hmd hspec hsj hstatus rfl⟩
  | some v =>
    obtain ⟨a, ha⟩ := hst
    exact ⟨md, a, resource_of_members hmeta hmd hspec hsj hstatus ha⟩

end Reader

open Reader Members

theorem DriverResource.resourceDoc_of_metadata {r : DriverResource} {md : Json}
    (hm : Kube.Schema.read Kube.objectMeta r.metadata = .ok md) :
    ResourceDoc r.toJson r.spec.specJson (r.status.map DriverStatus.toJson) := by
  obtain ⟨mm, hmm, -, -⟩ := Kube.Schema.read_record hm
  have held := holds_fields (l := [("apiVersion", some (.str (ResourceKind.driver r.family).apiVersion)),
    ("kind", some (.str r.family.resourceKind)), ("metadata", some r.metadata),
    ("spec", some r.spec.specJson), ("status", r.status.map DriverStatus.toJson)]) (by simp)
  exact ⟨_, mm, rfl, hmm ▸ held (by simp), ⟨_, hmm ▸ hm⟩, held (by simp), held (by simp)⟩

theorem DriverResource.resourceDoc_toJson {r : DriverResource} (hr : r.Exact) :
    ResourceDoc r.toJson r.spec.specJson (r.status.map DriverStatus.toJson) :=
  DriverResource.resourceDoc_of_metadata hr.metadata

theorem ProxyResource.resourceDoc_toJson {r : ProxyResource} (hr : r.Exact) :
    ResourceDoc r.toJson r.spec.toJson (r.status.map ProxyStatus.toJson) := by
  obtain ⟨mm, hmm, -, -⟩ := Kube.Schema.read_record hr.metadata
  have held := holds_fields (l := [("apiVersion", some (.str ResourceKind.reverseProxy.apiVersion)),
    ("kind", some (.str ResourceKind.reverseProxy.name)), ("metadata", some r.metadata),
    ("spec", some r.spec.toJson), ("status", r.status.map ProxyStatus.toJson)]) (by simp)
  exact ⟨_, mm, rfl, hmm ▸ held (by simp), ⟨_, hmm ▸ hr.metadata⟩, held (by simp), held (by simp)⟩

theorem DriverStatus.option_read_toJson {st : DriverStatus} (h : st.Exact) :
    option DriverStatus.read st.toJson = .ok (some st) := by
  have present : option DriverStatus.read st.toJson = (DriverStatus.read st.toJson).map some := rfl
  rw [present, DriverStatus.read_toJson h]
  rfl

theorem ProxyStatus.option_read_toJson {st : ProxyStatus} (h : st.Exact) :
    option ProxyStatus.read st.toJson = .ok (some st) := by
  have present : option ProxyStatus.read st.toJson = (ProxyStatus.read st.toJson).map some := rfl
  rw [present, ProxyStatus.read_toJson h]
  rfl

/-- `v` reads as a driver resource of `r`'s family with `r`'s spec, so with the spec fingerprint
the engine compares against the status hash. -/
def DriverResource.ReadsBack (r : DriverResource) (v : Json) : Prop :=
  ∃ r', DriverResource.read r.family v = .ok r' ∧ r'.spec = r.spec ∧
    Digest.fingerprint r'.specText = Digest.fingerprint r.specText

/-- `v` reads as a proxy resource with `r`'s spec, so with the spec fingerprint the proxy engine
compares against the status hash. -/
def ProxyResource.ReadsBack (r : ProxyResource) (v : Json) : Prop :=
  ∃ r', ProxyResource.read v = .ok r' ∧ r'.spec = r.spec ∧
    Digest.fingerprint r'.specText = Digest.fingerprint r.specText

theorem DriverResource.readsBack_of_resourceDoc {r : DriverResource} (hspec : r.spec.Exact)
    {doc : Json} {o : Option Json} (hd : ResourceDoc doc r.spec.specJson o)
    (hst : o.elim True fun v => ∃ a, option DriverStatus.read v = .ok a) :
    r.ReadsBack doc := by
  obtain ⟨md, st, hread⟩ := resource_of_resourceDoc ("struct " ++ r.family.resourceKind)
    (fun metadata spec status => ({ family := r.family, metadata, spec, status } : DriverResource))
    hd (DriverSpec.read_specJson hspec ("struct " ++ r.family.resourceKind ++ "Spec")) hst
  exact ⟨{ family := r.family, metadata := md, spec := r.spec, status := st },
    by rw [DriverResource.read_eq_resource]; exact hread, rfl, rfl⟩

theorem DriverResource.read_of_resourceDoc {r : DriverResource} (hr : r.Exact) {doc : Json}
    {o : Option Json} (hd : ResourceDoc doc r.spec.specJson o)
    (hst : o.elim True fun v => ∃ a, option DriverStatus.read v = .ok a) :
    r.ReadsBack doc :=
  DriverResource.readsBack_of_resourceDoc hr.spec hd hst

theorem ProxyResource.read_of_resourceDoc {r : ProxyResource} (hr : r.Exact) {doc : Json}
    {o : Option Json} (hd : ResourceDoc doc r.spec.toJson o)
    (hst : o.elim True fun v => ∃ a, option ProxyStatus.read v = .ok a) :
    r.ReadsBack doc := by
  obtain ⟨md, st, hread⟩ := resource_of_resourceDoc "struct CSIPowerMaxRevProxy"
    (fun metadata spec status => ({ metadata, spec, status } : ProxyResource))
    hd (ProxySpec.read_toJson hr.config) hst
  exact ⟨{ metadata := md, spec := r.spec, status := st },
    by rw [ProxyResource.read_eq_resource]; exact hread, rfl, rfl⟩


open Cluster in
theorem DriverResource.created_reads {r : DriverResource} (hr : r.Exact) {c c' : Cluster}
    {v : Json} (h : (create (.driver r.family) r.toJson).run.run c = (.ok v, c')) :
    c'.find? (keyOf (.driver r.family) r.toJson) = some v ∧
      r.ReadsBack v := by
  obtain ⟨stored, hd⟩ := (DriverResource.resourceDoc_toJson hr).created h
  exact ⟨stored, DriverResource.read_of_resourceDoc hr hd trivial⟩

open Cluster in
theorem DriverResource.updated_reads {r : DriverResource} (hr : r.Exact) {c c' : Cluster}
    {v : Json} (h : (update (.driver r.family) r.toJson).run.run c = (.ok v, c'))
    (hexisting : ∀ e, c.find? (keyOf (.driver r.family) r.toJson) = some e →
      ∃ re, DriverResource.read r.family e = .ok re) :
    c'.find? (keyOf (.driver r.family) r.toJson) = some v ∧
      r.ReadsBack v := by
  obtain ⟨existing, hfound, stored, hd⟩ := (DriverResource.resourceDoc_toJson hr).updated h
  obtain ⟨re, hre⟩ := hexisting existing hfound
  refine ⟨stored, DriverResource.read_of_resourceDoc hr (hd _ (DriverResource.metadata_of_read hre)) ?_⟩
  -- the status kept is the replaced resource's, which its reader took
  cases hst : existing.get? "status" with
  | none => trivial
  | some st => exact resource_status_reads (DriverResource.read_eq_resource r.family ▸ hre) hst

open Cluster in
theorem DriverResource.inserted_reads {r : DriverResource} (hr : r.Exact) (c : Cluster) :
    ∃ w, ((insert (.driver r.family) r.toJson).run c).2.find? (keyOf (.driver r.family) w) = some w ∧
      r.ReadsBack w := by
  obtain ⟨w, stored, hd⟩ := (DriverResource.resourceDoc_toJson hr).inserted c (.driver r.family)
  refine ⟨w, stored, DriverResource.read_of_resourceDoc hr hd ?_⟩
  cases hst : r.status with
  | none => trivial
  | some st => exact ⟨_, DriverStatus.option_read_toJson (hr.status st hst)⟩

open Cluster in
theorem ProxyResource.created_reads {r : ProxyResource} (hr : r.Exact) {c c' : Cluster}
    {v : Json} (h : (create .reverseProxy r.toJson).run.run c = (.ok v, c')) :
    c'.find? (keyOf .reverseProxy r.toJson) = some v ∧
      r.ReadsBack v := by
  obtain ⟨stored, hd⟩ := (ProxyResource.resourceDoc_toJson hr).created h
  exact ⟨stored, ProxyResource.read_of_resourceDoc hr hd trivial⟩

open Cluster in
theorem ProxyResource.updated_reads {r : ProxyResource} (hr : r.Exact) {c c' : Cluster}
    {v : Json} (h : (update .reverseProxy r.toJson).run.run c = (.ok v, c'))
    (hexisting : ∀ e, c.find? (keyOf .reverseProxy r.toJson) = some e →
      ∃ re, ProxyResource.read e = .ok re) :
    c'.find? (keyOf .reverseProxy r.toJson) = some v ∧
      r.ReadsBack v := by
  obtain ⟨existing, hfound, stored, hd⟩ := (ProxyResource.resourceDoc_toJson hr).updated h
  obtain ⟨re, hre⟩ := hexisting existing hfound
  refine ⟨stored, ProxyResource.read_of_resourceDoc hr (hd _ (ProxyResource.metadata_of_read hre)) ?_⟩
  cases hst : existing.get? "status" with
  | none => trivial
  | some st => exact resource_status_reads (ProxyResource.read_eq_resource ▸ hre) hst

open Cluster in
theorem ProxyResource.inserted_reads {r : ProxyResource} (hr : r.Exact) (c : Cluster) :
    ∃ w, ((insert .reverseProxy r.toJson).run c).2.find? (keyOf .reverseProxy w) = some w ∧
      r.ReadsBack w := by
  obtain ⟨w, stored, hd⟩ := (ProxyResource.resourceDoc_toJson hr).inserted c .reverseProxy
  refine ⟨w, stored, ProxyResource.read_of_resourceDoc hr hd ?_⟩
  cases hst : r.status with
  | none => trivial
  | some st => exact ⟨_, ProxyStatus.option_read_toJson (hr.status st hst)⟩


open Cluster in
/-- Custom resources read back as they are written. Every driver and proxy resource whose numbers
fit their wire types, whose maps are key-sorted, whose metadata is in the server's normal form and
whose status times are instants of the calendar, a leap second ending a minute included, reads
back as itself; and a resource stored by a create, an
update (over a resource of its kind) or a seed is read back from the store with the spec, so the
spec fingerprint, it was written with. -/
theorem resources_read_back_as_written :
    (∀ r : DriverResource, r.Exact → DriverResource.read r.family r.toJson = .ok r) ∧
    (∀ r : ProxyResource, r.Exact → ProxyResource.read r.toJson = .ok r) ∧
    (∀ (r : DriverResource) (c c' : Cluster) (v : Json), r.Exact →
      (create (.driver r.family) r.toJson).run.run c = (.ok v, c') →
      c'.find? (keyOf (.driver r.family) r.toJson) = some v ∧ r.ReadsBack v) ∧
    (∀ (r : DriverResource) (c c' : Cluster) (v : Json), r.Exact →
      (update (.driver r.family) r.toJson).run.run c = (.ok v, c') →
      (∀ e, c.find? (keyOf (.driver r.family) r.toJson) = some e →
        ∃ re, DriverResource.read r.family e = .ok re) →
      c'.find? (keyOf (.driver r.family) r.toJson) = some v ∧ r.ReadsBack v) ∧
    (∀ (r : DriverResource) (c : Cluster), r.Exact → ∃ w,
      ((insert (.driver r.family) r.toJson).run c).2.find? (keyOf (.driver r.family) w) = some w ∧
        r.ReadsBack w) ∧
    (∀ (r : ProxyResource) (c c' : Cluster) (v : Json), r.Exact →
      (create .reverseProxy r.toJson).run.run c = (.ok v, c') →
      c'.find? (keyOf .reverseProxy r.toJson) = some v ∧ r.ReadsBack v) ∧
    (∀ (r : ProxyResource) (c c' : Cluster) (v : Json), r.Exact →
      (update .reverseProxy r.toJson).run.run c = (.ok v, c') →
      (∀ e, c.find? (keyOf .reverseProxy r.toJson) = some e → ∃ re, ProxyResource.read e = .ok re) →
      c'.find? (keyOf .reverseProxy r.toJson) = some v ∧ r.ReadsBack v) ∧
    (∀ (r : ProxyResource) (c : Cluster), r.Exact → ∃ w,
      ((insert .reverseProxy r.toJson).run c).2.find? (keyOf .reverseProxy w) = some w ∧
        r.ReadsBack w) :=
  ⟨fun _ hr => DriverResource.read_toJson hr, fun _ hr => ProxyResource.read_toJson hr,
    fun _ _ _ _ hr h => DriverResource.created_reads hr h,
    fun _ _ _ _ hr h hexisting => DriverResource.updated_reads hr h hexisting,
    fun _ c hr => DriverResource.inserted_reads hr c,
    fun _ _ _ _ hr h => ProxyResource.created_reads hr h,
    fun _ _ _ _ hr h hexisting => ProxyResource.updated_reads hr h hexisting,
    fun _ c hr => ProxyResource.inserted_reads hr c⟩

/-- A Unity resource with a toleration, a node selector, a storage class and a running status
recorded half a second into the leap second that ended 2016. -/
def unityResource : DriverResource where
  family := .unity
  metadata := .obj [("name", .str "unity"), ("namespace", .str "unity")]
  spec := {
    configVersion := "v2.10.0"
    replicas := 2
    node := {
      tolerations := [{ key := "node-role", operator := "Exists", tolerationSeconds := some 30 }]
      nodeSelector := some [("disk", "ssd"), ("zone", "a")]
    }
    storageClass := [{ name := "unity-nfs", parameters := [("protocol", "NFS")] }]
  }
  status := some {
    driverHash := 7
    state := .running
    lastUpdate := { condition := some .running, time := some ⟨1483228799, 1500000000, by decide⟩ }
  }

theorem unity_resource_reads_back :
    DriverResource.read .unity unityResource.toJson = .ok unityResource :=
  resources_read_back_as_written.1 unityResource {
    metadata := by rfl
    spec := {
      replicas := by simp [FitsI32, unityResource]
      common := by simp [ContainerTemplate.Exact, unityResource]
      controller := by simp [ContainerTemplate.Exact, unityResource]
      node := by
        simp only [unityResource, ContainerTemplate.Exact, Reader.KeySorted]
        exact ⟨by simp [Toleration.Exact, FitsI64], by simp only [Option.mem_def, Option.some.injEq, forall_eq']; decide +kernel⟩
      sideCars := by simp [unityResource]
      initContainers := by simp [unityResource]
      storageClass := by simp only [unityResource, Reader.KeySorted]; simp
      snapshotClass := by simp [unityResource]
    }
    status := by
      simp only [unityResource, Option.mem_def, Option.some.injEq, forall_eq', DriverStatus.Exact,
        LastUpdate.Exact]
      decide
  }

end CsiOperator
