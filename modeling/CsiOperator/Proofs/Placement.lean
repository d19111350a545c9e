import Mathlib
import CsiOperator.Proofs.ReconcilePaths
import CsiOperator.Proofs.ProxyPaths
/-!
Where a resource's statuses are stored, and why writing a resource or its status back does not
move it.

An object is stored under the key its metadata names: its kind, namespace and name. A stored
driver or proxy resource is read through the metadata schema, which keeps the name, the name
prefix and the namespace as they are written (`Kube.Schema.readFields_strOpt`), and a record is
read only when each of its members is (`Reader.KeepsFault`). So a resource read back from what
the server stored sits under the key it was stored under, and a reconcile that writes the
resource or its status and reads the answer back still finds its status in the same place.
-/

namespace CsiOperator

namespace Reader

theorem earlier_eq_none {ε : Type} {f g : Option (Nat × ε)} :
    earlier f g = none ↔ f = none ∧ g = none := by
  rcases f with _ | f <;> rcases g with _ | g
  · simp [earlier]
  · simp [earlier]
  · simp [earlier]
  · simp only [earlier, reduceCtorEq, and_self, iff_false]
    split <;> simp

theorem earlier_ne_none {ε : Type} (f : Nat × ε) (g : Option (Nat × ε)) :
    earlier (some f) g ≠ none := by
  simp [earlier_eq_none]

section Faults

variable {α β : Type} {ms : Members} {key : String}

theorem scan_bind_run (m : RecordScan α) (k : α → RecordScan β) (s : Option (Nat × DecodeError)) :
    (m >>= k).run s = (k (m.run s).1).run (m.run s).2 := rfl

theorem note_run (rank : Nat) (e : DecodeError) (s : Option (Nat × DecodeError)) :
    (note rank e).run s = ((), earlier s (some (rank, e))) := rfl

/-- A scan that keeps a failure noted before it. -/
def KeepsFault (m : RecordScan α) : Prop := ∀ f, (m.run (some f)).2 ≠ none

theorem KeepsFault.pure (a : α) : KeepsFault (pure a : RecordScan α) := fun _ => by
  simp [StateT.run, Pure.pure, StateT.pure]

theorem KeepsFault.bind {m : RecordScan α} {k : α → RecordScan β} (hm : KeepsFault m)
    (hk : ∀ a, KeepsFault (k a)) : KeepsFault (m >>= k) := fun f => by
  have step := hm f
  obtain ⟨f', hf'⟩ := Option.ne_none_iff_exists'.1 step
  show ((k (m.run (some f)).1).run (m.run (some f)).2).2 ≠ none
  rw [hf']
  exact hk _ f'

theorem KeepsFault.map {m : RecordScan α} (g : α → β) (hm : KeepsFault m) :
    KeepsFault (g <$> m) := hm

theorem note_keeps (rank : Nat) (e : DecodeError) : KeepsFault (note rank e) := fun f => by
  rw [note_run]
  simp [earlier_eq_none]

theorem present_keeps [Inhabited α] (i : Nat) (v : Json) (r : Reader α) :
    KeepsFault (present ms key i v r) := by
  unfold present
  dsimp only
  -- a repeated key is noted first; the member's own read then notes its failure
  rcases ms.repeated key with _ | j
  · dsimp only
    split
    · exact KeepsFault.pure _
    · exact (note_keeps _ _).bind fun _ => KeepsFault.pure _
  · refine (note_keeps _ _).bind fun _ => ?_
    split
    · exact KeepsFault.pure _
    · exact (note_keeps _ _).bind fun _ => KeepsFault.pure _

theorem req_keeps [Inhabited α] (r : Reader α) : KeepsFault (req ms key r) := by
  unfold req
  split
  · exact present_keeps _ _ _
  · exact (note_keeps _ _).bind fun _ => KeepsFault.pure _

theorem opt_keeps (r : Reader α) : KeepsFault (opt ms key r) := by
  unfold opt
  split
  · exact present_keeps _ _ _
  · exact KeepsFault.pure _

theorem dflt_keeps (d : α) (r : Reader α) : KeepsFault (dflt ms key d r) :=
  (opt_keeps r).map _

theorem optNull_keeps (r : Reader α) : KeepsFault (optNull ms key r) :=
  (opt_keeps _).map _

theorem fault_of_bind {m : RecordScan α} {k : α → RecordScan β} (hk : ∀ a, KeepsFault (k a))
    (h : ((m >>= k).run none).2 = none) : (m.run none).2 = none := by
  by_contra hm
  obtain ⟨f, hf⟩ := Option.ne_none_iff_exists'.1 hm
  have := hk (m.run none).1 f
  rw [← hf] at this
  exact this h

theorem present_error [Inhabited α] {i : Nat} {v : Json} {r : Reader α} {e : DecodeError}
    (hr : inside (.key key) r v = .error e) (s : Option (Nat × DecodeError)) :
    ((present ms key i v r).run s).2 ≠ none := by
  unfold present
  simp only [hr]
  split
  · rw [scan_bind_run, scan_bind_run, note_run, note_run]
    simp [earlier_eq_none, StateT.run, pure, StateT.pure]
  · rw [scan_bind_run, note_run]
    simp [earlier_eq_none, StateT.run, pure, StateT.pure]

theorem dflt_ok {d : α} {r : Reader α} {v : Json} (hloc : (ms.locate key).map (·.2) = some v)
    (h : ((dflt ms key d r).run none).2 = none) : ∃ a, r v = .ok a := by
  cases hr : r v with
  | ok a => exact ⟨a, rfl⟩
  | error e =>
    exfalso
    unfold dflt opt at h
    split at h
    · next i w hl =>
      simp only [hl, Option.map_some, Option.some.injEq] at hloc
      subst hloc
      have fails : inside (.key key) (fun j => (r j).map some) w =
          .error { e with path := .key key :: e.path } := by
        simp [inside, hr, Except.map]
      exact present_error fails none h
    · next hl => simp [hl] at hloc

end Faults

end Reader

namespace Kube.Schema

variable (ms : List (String × Json))

theorem readFields_cons (key : String) (presence : Presence) (s : Schema)
    (rest : List (String × Presence × Schema)) :
    ∃ out, (readFields ms ((key, presence, s) :: rest)).1 = out ++ (readFields ms rest).1 ∧
      (∀ q ∈ out, q.1 = key) ∧
      ((readFields ms ((key, presence, s) :: rest)).2 = none → (readFields ms rest).2 = none) := by
  rw [readFields]
  obtain ⟨others, fault⟩ := readFields ms rest
  dsimp only
  split
  · exact ⟨[], rfl, by simp, id⟩
  · exact ⟨[_], rfl, by simp, id⟩
  · split
    · exact ⟨[_], rfl, by simp, id⟩
    · exact ⟨[], rfl, by simp, fun h => absurd h (Reader.earlier_ne_none _ _)⟩
  · exact ⟨[], rfl, by simp, id⟩
  · exact ⟨[_], rfl, by simp, id⟩
  · exact ⟨[], rfl, by simp, fun h => absurd h (Reader.earlier_ne_none _ _)⟩

theorem readFields_keys :
    ∀ (fs : List (String × Presence × Schema)), ∀ q ∈ (readFields ms fs).1, q.1 ∈ fs.map (·.1)
  | [], q, hq => by simp [readFields] at hq
  | (key, presence, s) :: rest, q, hq => by
    obtain ⟨out, hout, hkeys, -⟩ := readFields_cons ms key presence s rest
    rw [hout, List.mem_append] at hq
    rcases hq with hq | hq
    · simp [hkeys q hq]
    · exact List.mem_cons_of_mem _ (readFields_keys rest q hq)

theorem find?_zipIdx (key : String) :
    ∀ (ms : List (String × Json)) (n : Nat),
      ((ms.zipIdx n).find? (·.1.1 == key)).map (·.1.2) = (ms.find? (·.1 == key)).map (·.2)
  | [], _ => rfl
  | (k, v) :: rest, n => by
    by_cases hk : k = key
    · simp [List.zipIdx_cons, hk]
    · simp [List.zipIdx_cons, hk, find?_zipIdx key rest (n + 1)]

theorem readFields_strOpt (key : String) :
    ∀ fs : List (String × Presence × Schema), (key, .optional, .string) ∈ fs →
      (fs.map (·.1)).Nodup → (readFields ms fs).2 = none →
      (Json.obj (readFields ms fs).1).strOpt key = (Json.obj ms).strOpt key
  | [], hmem, _, _ => by simp at hmem
  | (k, presence, s) :: rest, hmem, hnodup, hfault => by
    rw [List.map_cons, List.nodup_cons] at hnodup
    by_cases hk : k = key
    · subst hk
      have hnot : ∀ q ∈ (readFields ms rest).1, q.1 ≠ k := fun q hq heq =>
        hnodup.1 (heq ▸ readFields_keys ms rest q hq)
      have hhead : presence = .optional ∧ s = .string := by
        rcases List.mem_cons.1 hmem with h | h
        · simp_all
        · exact absurd (List.mem_map_of_mem (f := (·.1)) h) hnodup.1
      obtain ⟨rfl, rfl⟩ := hhead
      have hlocate := find?_zipIdx k ms 0
      rw [readFields] at hfault ⊢
      generalize readFields ms rest = r at hnot hfault ⊢
      obtain ⟨others, fault⟩ := r
      have hnone : (others.find? (·.1 == k)) = none := List.find?_eq_none.2 (by simpa using hnot)
      generalize (ms.zipIdx 0).find? (·.1.1 == k) = z at hlocate hfault ⊢
      simp only [Json.strOpt, Json.get?]
      rw [← hlocate]
      rcases z with _ | ⟨⟨k', v⟩, i⟩
      · simp [hnone]
      · cases v with
        | null => simp [hnone, Json.str?]
        | str t => simp [read, Reader.inside, Reader.string, Except.map]
        | _ =>
          simp only [read, Reader.inside, Reader.string, Reader.wrongType, Reader.fail,
            Except.map, Option.map_some] at hfault
          exact absurd hfault (Reader.earlier_ne_none _ _)
    · obtain ⟨out, hout, hkeys, hrest⟩ := readFields_cons ms k presence s rest
      have hmem' : (key, Presence.optional, Schema.string) ∈ rest := by
        rcases List.mem_cons.1 hmem with h | h
        · simp_all
        · exact h
      have ih := readFields_strOpt key rest hmem' hnodup.2 (hrest hfault)
      have hskip : out.find? (·.1 == key) = none :=
        List.find?_eq_none.2 fun q hq => by simp [hkeys q hq, hk]
      simp only [Json.strOpt, Json.get?, hout, List.find?_append, hskip, Option.none_or] at ih ⊢
      exact ih

theorem read_record {name : String} {fs : List (String × Presence × Schema)} {j m' : Json}
    (h : read (.record name fs) j = .ok m') :
    ∃ ms, j = .obj ms ∧ (readFields ms fs).2 = none ∧ m' = .obj (readFields ms fs).1 := by
  cases j with
  | obj ms =>
    rw [read] at h
    rcases hr : readFields ms fs with ⟨ys, _ | f⟩ <;> simp only [hr] at h
    · exact ⟨ms, rfl, by rw [hr], by rw [hr]; exact (Except.ok.inj h).symm⟩
    · cases h
  | _ => simp [read, Reader.wrongType, Reader.fail] at h

end Kube.Schema

open Reader

theorem Reader.record_run {α : Type} [Inhabited α] {what : String} {body : Members → RecordScan α}
    {xs : List (String × Json)} {a : α} (h : record what body (.obj xs) = .ok a) :
    (body ⟨xs⟩).run none = (a, none) := by
  rcases hrun : (body ⟨xs⟩).run none with ⟨b, _ | ⟨_, err⟩⟩
  · simp only [record, hrun, Except.ok.injEq] at h
    rw [h]
  · simp [record, hrun] at h

theorem Reader.metadata_of_scan {β : Type} {xs : List (String × Json)}
    {k : Json → RecordScan β} (hk : ∀ md, KeepsFault (k md)) {b : β}
    (h : ((dflt ⟨xs⟩ "metadata" (.obj []) (Kube.Schema.read Kube.objectMeta) >>= k).run none) =
      (b, none)) :
    Kube.Schema.read Kube.objectMeta (Meta.of (.obj xs)) =
      .ok ((dflt ⟨xs⟩ "metadata" (.obj []) (Kube.Schema.read Kube.objectMeta)).run none).1 := by
  have hfault := fault_of_bind hk (congrArg Prod.snd h)
  cases hget : (Json.obj xs).get? "metadata" with
  | some v =>
    have hloc := Members.locate_of_get? hget
    obtain ⟨m, hm⟩ := dflt_ok hloc hfault
    rw [dflt_value hloc, hm, Meta.of, hget, Option.getD_some]
    exact hm
  | none =>
    have habsent : ∀ q ∈ xs, q.1 ≠ "metadata" := fun q hq heq => by
      have hnone : xs.find? (·.1 == "metadata") = none := by
        simpa [Json.get?] using hget
      exact List.find?_eq_none.1 hnone q hq (by simp [heq])
    rw [dflt_run_absent (Members.holds_absent habsent).1, Meta.of, hget]
    rfl

theorem DriverResource.metadata_of_read {family : DriverKind} {j : Json} {r : DriverResource}
    (h : DriverResource.read family j = .ok r) :
    Kube.Schema.read Kube.objectMeta (Meta.of j) = .ok r.metadata := by
  cases j with
  | obj xs =>
    unfold DriverResource.read at h
    have hrun := Reader.record_run h
    rw [← Reader.record_value h]
    exact Reader.metadata_of_scan (fun _ => (req_keeps _).bind fun _ =>
      (optNull_keeps _).bind fun _ => KeepsFault.pure _) hrun
  | _ => simp [DriverResource.read, record, wrongType, fail] at h

theorem ProxyResource.metadata_of_read {j : Json} {p : ProxyResource}
    (h : ProxyResource.read j = .ok p) :
    Kube.Schema.read Kube.objectMeta (Meta.of j) = .ok p.metadata := by
  cases j with
  | obj xs =>
    unfold ProxyResource.read at h
    have hrun := Reader.record_run h
    rw [← Reader.record_value h]
    exact Reader.metadata_of_scan (fun _ => (req_keeps _).bind fun _ =>
      (optNull_keeps _).bind fun _ => KeepsFault.pure _) hrun
  | _ => simp [ProxyResource.read, record, wrongType, fail] at h

/-! ## Keys -/

/-- Two metadata documents that name an object alike: the same name, name prefix and
namespace. -/
def Meta.SameNames (a b : Json) : Prop :=
  ∀ key ∈ ["name", "generateName", "namespace"], a.strOpt key = b.strOpt key

theorem Meta.SameNames.refl (a : Json) : Meta.SameNames a a := fun _ _ => rfl

theorem Meta.SameNames.trans {a b c : Json} (hab : Meta.SameNames a b) (hbc : Meta.SameNames b c) :
    Meta.SameNames a c := fun key hkey => (hab key hkey).trans (hbc key hkey)

theorem Cluster.keyOf_of_sameNames {a b : Json} (k : ResourceKind)
    (h : Meta.SameNames (Meta.of a) (Meta.of b)) : Cluster.keyOf k a = Cluster.keyOf k b := by
  simp only [Cluster.keyOf, Meta.namespace?, Meta.nameAny, Meta.name?, h "name" (by simp),
    h "generateName" (by simp), h "namespace" (by simp)]

theorem Kube.sameNames_of_read {m m' : Json} (h : Kube.Schema.read Kube.objectMeta m = .ok m') :
    Meta.SameNames m' m := by
  intro key hkey
  obtain ⟨ms, rfl, hfault, rfl⟩ := Kube.Schema.read_record h
  refine Kube.Schema.readFields_strOpt ms key _ ?_ (by decide) hfault
  simp only [List.mem_cons, List.not_mem_nil, or_false] at hkey
  rcases hkey with rfl | rfl | rfl <;> simp [Kube.opt]

theorem DriverResource.keyOf_of_read {family : DriverKind} {j : Json} {r : DriverResource}
    (h : DriverResource.read family j = .ok r) (k : ResourceKind) :
    Cluster.keyOf k r.toJson = Cluster.keyOf k j :=
  Cluster.keyOf_of_sameNames k
    (Meta.of_toJson r ▸ Kube.sameNames_of_read (DriverResource.metadata_of_read h))

theorem ProxyResource.keyOf_of_read {j : Json} {p : ProxyResource}
    (h : ProxyResource.read j = .ok p) (k : ResourceKind) :
    Cluster.keyOf k p.toJson = Cluster.keyOf k j :=
  Cluster.keyOf_of_sameNames k
    (p.meta_toJson ▸ Kube.sameNames_of_read (ProxyResource.metadata_of_read h))

theorem Json.get?_erase_of_ne (j : Json) {k key : String} (h : k ≠ key) :
    (j.erase k).get? key = j.get? key := by
  cases j with
  | obj ms =>
    simp only [Json.erase, Json.get?, List.find?_filter]
    congr 1
    apply List.find?_congr
    intro a _
    by_cases ha : a.1 = key
    · simp [ha, Ne.symm h]
    · simp [ha]
  | _ => rfl

theorem Json.get?_erase_self (j : Json) (key : String) : (j.erase key).get? key = none := by
  cases j with
  | obj ms =>
    simp only [Json.erase, Json.get?, Option.map_eq_none_iff, List.find?_eq_none,
      List.mem_filter]
    intro a ha
    simpa using ha.2
  | _ => rfl

theorem Meta.of_set_of_ne (obj : Json) {key : String} (v : Json) (h : key ≠ "metadata") :
    Meta.of (obj.set key v) = Meta.of obj := by
  simp only [Meta.of, Json.get?_set_of_ne _ _ h]

theorem Meta.of_erase_of_ne (obj : Json) {key : String} (h : key ≠ "metadata") :
    Meta.of (obj.erase key) = Meta.of obj := by
  simp only [Meta.of, Json.get?_erase_of_ne _ h]

theorem Meta.sameNames_setMeta (obj : Json) {field : String} (v : Json)
    (h : field ∉ ["name", "generateName", "namespace"]) :
    Meta.SameNames (Meta.of (Cluster.setMeta obj field v)) (Meta.of obj) := by
  intro key hkey
  have hne : field ≠ key := fun heq => h (heq ▸ hkey)
  unfold Cluster.setMeta
  split
  · next md _ hmd =>
    rw [Meta.of, Json.get?_set_self, Option.getD_some, Meta.of, hmd, Option.getD_some]
    simp only [Json.strOpt, Json.get?_set_of_ne _ _ hne]
  · rfl

theorem Meta.sameNames_bumpVersion (obj : Json) :
    Meta.SameNames (Meta.of (Cluster.bumpVersion obj)) (Meta.of obj) :=
  Meta.sameNames_setMeta obj _ (by decide)

namespace Cluster

theorem keyOf_statusWritten (k : ResourceKind) (existing v : Json) :
    keyOf k (bumpVersion (existing.set "status" v)) = keyOf k existing :=
  keyOf_of_sameNames k ((Meta.sameNames_bumpVersion _).trans
    (Meta.of_set_of_ne existing v (show "status" ≠ "metadata" by decide) ▸ Meta.SameNames.refl _))

theorem update_run {c : Cluster} {k : ResourceKind} {obj existing : Json}
    (hon : c.online = true) (hfail : c.failing .update k = false)
    (hfound : c.find? (keyOf k obj) = some existing) :
    ∃ v, (update k obj).run.run c =
        (.ok v, { c with
          objects := putObject c.objects (keyOf k obj) v
          writes := c.writes ++ [{ verb := .update, kind := k, name := (keyOf k obj).name }] }) ∧
      v.get? "status" = existing.get? "status" ∧ Meta.SameNames (Meta.of v) (Meta.of obj) := by
  simp only [update, exceptState_run_bind, reach_run hon, checkFailure_run hfail,
    exceptState_run_get, hfound]
  refine ⟨_, rfl, ?_, ?_⟩
  · -- the object is sent with the stored status in place of its own
    rw [get?_bumpVersion _ (by decide)]
    generalize existing.get? "status" = stored
    split <;> (try rw [get?_setMeta _ _ _ (by decide)]) <;> split <;>
      (try rw [get?_setMeta _ _ _ (by decide)]) <;> cases stored <;>
      simp [Json.get?_set_self, Json.get?_erase_self]
  · refine (Meta.sameNames_bumpVersion _).trans ?_
    generalize existing.get? "status" = stored
    split <;> (try refine (Meta.sameNames_setMeta _ _ (by decide)).trans ?_) <;> split <;>
      (try refine (Meta.sameNames_setMeta _ _ (by decide)).trans ?_) <;> cases stored <;>
      dsimp only <;>
      simp [Meta.of_set_of_ne _ _ (show "status" ≠ "metadata" by decide),
        Meta.of_erase_of_ne _ (show "status" ≠ "metadata" by decide), Meta.SameNames.refl]

theorem update_ok {c c' : Cluster} {k : ResourceKind} {obj v : Json}
    (h : (update k obj).run.run c = (.ok v, c')) :
    ∃ existing, c.find? (keyOf k obj) = some existing ∧ c.online = true ∧
      c.failing .update k = false ∧
      c' = { c with
        objects := putObject c.objects (keyOf k obj) v
        writes := c.writes ++ [{ verb := .update, kind := k, name := (keyOf k obj).name }] } ∧
      v.get? "status" = existing.get? "status" ∧ Meta.SameNames (Meta.of v) (Meta.of obj) := by
  by_cases hon : c.online = true
  swap
  · simp only [update, exceptState_run_bind, reach_error (by simpa using hon)] at h
    cases h
  cases hfail : c.failing .update k
  · cases hfound : c.find? (keyOf k obj) with
    | none =>
      simp only [update, exceptState_run_bind, reach_run hon, checkFailure_run hfail,
        exceptState_run_get, hfound] at h
      cases h
    | some existing =>
      obtain ⟨w, hrun, hstatus, hnames⟩ := update_run hon hfail hfound
      rw [hrun, Prod.mk.injEq, Except.ok.injEq] at h
      obtain ⟨rfl, rfl⟩ := h
      exact ⟨existing, rfl, hon, rfl, rfl, hstatus, hnames⟩
  · obtain ⟨e, he⟩ := checkFailure_error hfail
    simp only [update, exceptState_run_bind, reach_run hon, he] at h
    cases h

end Cluster

/-! ## Places -/

namespace Cluster

/-- A document placed at a key of a kind: it names the key, and the server answers, lets
statuses of the kind be written, and stores under the key an object that names the key. -/
structure Placed (k : ResourceKind) (key : Key) (doc : Json) (c : Cluster) : Prop where
  keyed : keyOf k doc = key
  online : c.online = true
  writable : c.failing .updateStatus k = false
  stored : ∃ j, c.find? key = some j ∧ keyOf k j = key

variable {k : ResourceKind} {key : Key} {doc : Json} {c : Cluster}

theorem Placed.input (hp : Placed k key doc c) : ResourceKind.isInput k → key.kind.isInput := by
  obtain ⟨j, -, hj⟩ := hp.stored
  rw [← hj]
  exact id

theorem Placed.of_keeps {c' : Cluster} (hp : Placed k key doc c) (hk : ResourceKind.isInput k)
    {doc' : Json} (hkeyed : keyOf k doc' = key) (hkeeps : KeepsInputs c c') :
    Placed k key doc' c' := by
  refine ⟨hkeyed, hkeeps.online ▸ hp.online, hkeeps.failing _ _ ▸ hp.writable, ?_⟩
  rw [hkeeps.objects key (hp.input hk)]
  exact hp.stored

theorem Placed.updateStatus_run (hp : Placed k key doc c) {obj : Json} (hobj : keyOf k obj = key) :
    ∃ v c', (updateStatus k obj).run.run c = (.ok v, c') ∧ keyOf k v = key ∧
      c'.statusAt key = some ((obj.get? "status").getD .null) ∧
      ∀ doc', keyOf k doc' = key → Placed k key doc' c' := by
  obtain ⟨j, hfound, hj⟩ := hp.stored
  have hwritten : keyOf k (bumpVersion (j.set "status" ((obj.get? "status").getD .null))) = key := by
    rw [keyOf_statusWritten]
    exact hj
  rw [← hobj] at hfound
  refine ⟨_, _, Cluster.updateStatus_run hp.online hp.writable hfound, hwritten, ?_, ?_⟩
  · simp only [statusAt, find?_objects, find?_putObject, if_pos hobj.symm, Option.bind_some,
      get?_bumpVersion _ (show "status" ≠ "metadata" by decide), Json.get?_set_self]
  · intro doc' hkeyed
    refine ⟨hkeyed, hp.online, hp.writable, _, ?_, hwritten⟩
    simp only [find?_objects, find?_putObject, if_pos hobj.symm]

end Cluster

namespace Reconcile

open Controller

/-- A driver resource of a family placed at a key. -/
def Placed (family : DriverKind) (key : Cluster.Key) (r : DriverResource) (c : Cluster) : Prop :=
  r.family = family ∧ Cluster.Placed (.driver family) key r.toJson c

theorem readDriver_ok {family : DriverKind} {j : Json} {s s' : Controller} {r : DriverResource}
    (h : (readDriver family j).run.run s = (.ok r, s')) :
    DriverResource.read family j = .ok r ∧ s' = s := by
  unfold readDriver at h
  split at h
  · next r' hread =>
    rw [exceptState_run_pure, Prod.mk.injEq, Except.ok.injEq] at h
    exact ⟨h.1 ▸ hread, h.2.symm⟩
  · cases h

theorem Placed.storeStatus_run {family : DriverKind} {key : Cluster.Key} {r : DriverResource}
    {c : Cluster} (hp : Placed family key r c) (x : DriverStatus) :
    ∃ v c', (Cluster.updateStatus (.driver r.family) { r with status := some x }.toJson).run.run c =
        (.ok v, c') ∧ Cluster.keyOf (.driver family) v = key ∧
      c'.statusAt key = some x.toJson ∧
      ∀ r' : DriverResource, Cluster.keyOf (.driver family) r'.toJson = key →
        Cluster.Placed (.driver family) key r'.toJson c' := by
  obtain ⟨hfamily, hplaced⟩ := hp
  subst hfamily
  have samekey : Cluster.keyOf (.driver r.family) { r with status := some x }.toJson = key := by
    rw [← hplaced.keyed]
    simp only [DriverResource.keyOf_toJson]
  obtain ⟨v, c', hrun, hkey, hshown, hkept⟩ := hplaced.updateStatus_run samekey
  rw [DriverResource.get?_toJson_status] at hshown
  exact ⟨v, c', hrun, hkey, hshown, fun r' hkeyed => hkept _ hkeyed⟩

theorem updateDriver_ok {r stored : DriverResource} {s s' : Controller}
    (h : (updateDriver r).run.run s = (.ok stored, s')) :
    ∃ existing v, s.cluster.find? (Cluster.keyOf (.driver r.family) r.toJson) = some existing ∧
      s.cluster.online = true ∧ DriverResource.read r.family v = .ok stored ∧
      (∃ c', s' = { s with cluster := c' } ∧
        c'.objects = Cluster.putObject s.cluster.objects (Cluster.keyOf (.driver r.family) r.toJson) v ∧
        c'.online = s.cluster.online ∧ c'.failures = s.cluster.failures) ∧
      v.get? "status" = existing.get? "status" ∧ Meta.SameNames (Meta.of v) (Meta.of r.toJson) := by
  unfold updateDriver at h
  rw [exceptState_run_bind, onCluster_run] at h
  rcases hupdate : (Cluster.update (.driver r.family) r.toJson).run.run s.cluster with ⟨_ | v, c'⟩
  · rw [hupdate] at h
    cases h
  · rw [hupdate] at h
    obtain ⟨existing, hfound, hon, -, rfl, hstatus, hnames⟩ := Cluster.update_ok hupdate
    obtain ⟨hread, rfl⟩ := readDriver_ok h
    exact ⟨existing, v, hfound, hon, hread, ⟨_, rfl, rfl, rfl, rfl⟩, hstatus, hnames⟩

theorem updateDriver_log (r : DriverResource) : Stays SameLog (updateDriver r) :=
  (onCluster_log _).bind fun j => (readDriver_stays r.family j).mono fun _ _ h => h ▸ rfl

theorem engine_places (setup : ReconcilerSetup) (config : ResolvedConfig) (family : DriverKind)
    (key : Cluster.Key) :
    (engine setup config).Places (Placed family key) (Cluster.statusAt · key)
      DriverStatus.toJson where
  stores r := {
    shows := fun x s hp => by
      obtain ⟨v, c', hrun, -, hshown, -⟩ := hp.storeStatus_run x
      rw [engine_storeStatus, storeStatus_state, hrun]
      exact hshown
    ready := fun x s hp => by
      obtain ⟨v, c', hrun, -, -, hkept⟩ := hp.storeStatus_run x
      rw [engine_storeStatus, storeStatus_state, hrun]
      exact ⟨hp.1, hkept r hp.2.keyed⟩ }
  answers r x s r' s' hp h := by
    obtain ⟨v, c', hrun, hkey, -, hkept⟩ := hp.storeStatus_run x
    rw [engine_storeStatus, storeStatus, exceptState_run_bind, onCluster_run, hrun] at h
    obtain ⟨hread, rfl⟩ := readDriver_ok h
    exact ⟨(DriverResource.family_of_read hread).trans hp.1,
      hkept r' ((DriverResource.keyOf_of_read hread _).trans hkey)⟩
  prepare r s r' s' hp h := by
    rw [engine_prepare, exceptState_run_bind] at h
    rcases hupdate : (updateDriver r).run.run s with ⟨_ | stored, s₁⟩
    · rw [hupdate] at h
      cases h
    rw [hupdate] at h
    dsimp only at h
    rw [exceptState_run_pure, Prod.mk.injEq, Except.ok.injEq] at h
    obtain ⟨rfl, rfl⟩ := h
    obtain ⟨existing, v, hfound, hon, hread, ⟨c', rfl, hobjects, honline, hfailures⟩, hstatus,
      hnames⟩ := updateDriver_ok hupdate
    obtain ⟨hfamily, hplaced⟩ := hp
    subst hfamily
    -- the resource sent names the key, and so do the object stored and the resource read back
    have hsent : Cluster.keyOf (.driver r.family) r.toJson = key := hplaced.keyed
    have hstored : Cluster.keyOf (.driver r.family) v = key :=
      (Cluster.keyOf_of_sameNames _ hnames).trans hsent
    have hback : Cluster.keyOf (.driver r.family) stored.toJson = key :=
      (DriverResource.keyOf_of_read hread _).trans hstored
    rw [hsent] at hfound hobjects
    have hfind : c'.find? key = some v := by
      simp only [Cluster.find?_objects, hobjects, Cluster.find?_putObject, if_true]
    refine ⟨⟨(show stored.family = r.family from DriverResource.family_of_read hread), ?_,
      honline.trans hon, ?_, v, hfind, hstored⟩, ?_⟩
    · rw [← hback]
      simp only [DriverResource.keyOf_toJson]
    · simpa only [Cluster.failing, hfailures] using hplaced.writable
    · simp only [Cluster.statusAt, hfind, hfound, Option.bind_some, hstatus]
  converge r s hp := by
    refine ⟨_, _, by rw [engine_converge, converge_run], ?_, ?_, _, rfl, rfl⟩
    · exact ⟨hp.1, hp.2.of_keeps trivial hp.2.keyed (Sync.syncDriver_keeps _ _)⟩
    · exact (Sync.syncDriver_keeps _ _).statusAt (hp.2.input trivial)
  validate r := validate_stays setup r config
  observe r := observation_answers r config.controllerHA
  observeConverged r := observation_answers r config.controllerHA
  store_log r x s := by
    rw [engine_storeStatus, storeStatus_state]
    rfl
  prepare_log r := by
    rw [engine_prepare]
    exact (updateDriver_log r).bind fun _ => Stays.pure _

end Reconcile

/-! ## The places of the proxy engine -/

namespace Proxy

open Controller

/-- A proxy resource placed at a key. -/
def Placed (key : Cluster.Key) (p : ProxyResource) (c : Cluster) : Prop :=
  Cluster.Placed .reverseProxy key p.toJson c

theorem readProxy_ok {j : Json} {s s' : Controller} {p : ProxyResource}
    (h : (readProxy j).run.run s = (.ok p, s')) : ProxyResource.read j = .ok p ∧ s' = s := by
  unfold readProxy at h
  split at h
  · next p' hread =>
    rw [exceptState_run_pure, Prod.mk.injEq, Except.ok.injEq] at h
    exact ⟨h.1 ▸ hread, h.2.symm⟩
  · cases h

theorem Stored.placed {ns name : String} {c : Cluster} {p : ProxyResource}
    (h : Stored ns name c p) (hwritable : c.failing .updateStatus .reverseProxy = false) :
    Placed (Cluster.keyFor .reverseProxy (some ns) name) p c := by
  obtain ⟨j, hfound, hread⟩ := h.stored
  refine ⟨h.keyed, h.online, hwritable, j, hfound, ?_⟩
  rw [← ProxyResource.keyOf_of_read hread, h.keyed]

theorem Placed.storeStatus_run {key : Cluster.Key} {p : ProxyResource} {c : Cluster}
    (hp : Placed key p c) (x : ProxyStatus) :
    ∃ v c', (Cluster.updateStatus .reverseProxy { p with status := some x }.toJson).run.run c =
        (.ok v, c') ∧ Cluster.keyOf .reverseProxy v = key ∧ c'.statusAt key = some x.toJson ∧
      ∀ p' : ProxyResource, Cluster.keyOf .reverseProxy p'.toJson = key → Placed key p' c' := by
  have samekey : Cluster.keyOf .reverseProxy { p with status := some x }.toJson = key := by
    rw [← hp.keyed]
    simp only [ProxyResource.keyOf_toJson]
  obtain ⟨v, c', hrun, hkey, hshown, hkept⟩ := Cluster.Placed.updateStatus_run hp samekey
  rw [ProxyResource.get?_toJson_status] at hshown
  exact ⟨v, c', hrun, hkey, hshown, fun p' hkeyed => hkept _ hkeyed⟩

theorem engine_places (ns : String) (key : Cluster.Key) :
    (engine ns).Places (Placed key) (Cluster.statusAt · key) ProxyStatus.toJson where
  stores p := {
    shows := fun x s hp => by
      obtain ⟨v, c', hrun, -, hshown, -⟩ := hp.storeStatus_run x
      rw [engine_storeStatus, storeStatus_state, hrun]
      exact hshown
    ready := fun x s hp => by
      obtain ⟨v, c', hrun, -, -, hkept⟩ := hp.storeStatus_run x
      rw [engine_storeStatus, storeStatus_state, hrun]
      exact hkept p hp.keyed }
  answers p x s p' s' hp h := by
    obtain ⟨v, c', hrun, hkey, -, hkept⟩ := hp.storeStatus_run x
    rw [engine_storeStatus, storeStatus, exceptState_run_bind, onCluster_run, hrun] at h
    obtain ⟨hread, rfl⟩ := readProxy_ok h
    exact hkept p' ((ProxyResource.keyOf_of_read hread _).trans hkey)
  prepare p s p' s' hp h := by
    rw [engine_prepare, exceptState_run_pure, Prod.mk.injEq, Except.ok.injEq] at h
    obtain ⟨rfl, rfl⟩ := h
    exact ⟨hp, rfl⟩
  converge p s hp := by
    refine ⟨_, _, by rw [engine_converge, converge_run], ?_, ?_, _, rfl, rfl⟩
    · exact Cluster.Placed.of_keeps hp trivial hp.keyed (syncProxy_keeps _ _)
    · exact (syncProxy_keeps _ _).statusAt (Cluster.Placed.input hp trivial)
  validate p := validateProxySpec_stays p
  observe p := observation_answers (p.namespace?.getD "")
  observeConverged _ := observation_answers ns
  store_log p x s := by
    rw [engine_storeStatus, storeStatus_state]
    rfl
  prepare_log p := by
    rw [engine_prepare]
    exact Stays.pure _

end Proxy

end CsiOperator
