import Mathlib
import CsiOperator.Proofs.SpecText

/-! What the readers answer.

A record reader answers only when no member scan noted a failure, so each value it answers is
built from values its member readers answered and from the defaults. `Reader.Yields` carries a
property through a scan: one that every member reader's answers and every default have holds of
what the record answers. A number read as 32 or 64 bits fits them, and a map is answered in key
order; so every driver spec a reader answers is exact, and writing it and reading it back gives
it again (`DriverSpec.read_toJson_of_read`). -/

namespace CsiOperator

namespace Reader

section Yields

variable {α β : Type} {ms : Members} {key : String}

/-- A scan that keeps a failure noted before it and, when it ends with nothing noted, answers a
value `P` holds of. -/
structure Yields (m : RecordScan α) (P : α → Prop) : Prop where
  keeps : KeepsFault m
  answers : ∀ s, (m.run s).2 = none → P (m.run s).1

theorem Yields.pure {P : α → Prop} {a : α} (h : P a) : Yields (Pure.pure a : RecordScan α) P :=
  ⟨KeepsFault.pure a, fun _ _ => h⟩

theorem Yields.bind {m : RecordScan α} {k : α → RecordScan β} {P : α → Prop} {Q : β → Prop}
    (hm : Yields m P) (hk : ∀ a, Yields (k a) fun b => P a → Q b) : Yields (m >>= k) Q := by
  refine ⟨hm.keeps.bind fun a => (hk a).keeps, fun s h => ?_⟩
  rw [scan_bind_run] at h ⊢
  -- the scan itself noted nothing, or its continuation would have kept the failure
  have first : (m.run s).2 = none := by
    by_contra noted
    obtain ⟨f, hf⟩ := Option.ne_none_iff_exists'.1 noted
    exact (hk _).keeps f (hf ▸ h)
  exact (hk _).answers _ h (hm.answers s first)

theorem Yields.map {m : RecordScan α} {P : β → Prop} (g : α → β) (hm : Yields m (P ∘ g)) :
    Yields (g <$> m) P :=
  ⟨hm.keeps.map g, hm.answers⟩

theorem Yields.bind_keeps {m : RecordScan α} {k : α → RecordScan β} {Q : β → Prop}
    (hm : KeepsFault m) (hk : ∀ a, Yields (k a) Q) : Yields (m >>= k) Q :=
  Yields.bind (P := fun _ => True) ⟨hm, fun _ _ => trivial⟩ fun a =>
    ⟨(hk a).keeps, fun s h _ => (hk a).answers s h⟩

theorem present_yields [Inhabited α] {i : Nat} {v : Json} {r : Reader α} {P : α → Prop}
    (hr : ∀ a, r v = .ok a → P a) : Yields (present ms key i v r) P := by
  refine ⟨present_keeps i v r, fun s h => ?_⟩
  cases hv : r v with
  | ok a =>
    rw [present_value hv]
    exact hr a hv
  | error e =>
    exact absurd h (present_error (e := { e with path := .key key :: e.path }) (by simp [inside, hv]) s)

theorem opt_yields {r : Reader α} {P : Option α → Prop} (hr : ∀ v a, r v = .ok a → P (some a))
    (hnone : P none) : Yields (opt ms key r) P := by
  unfold opt
  split
  · next i v _ =>
    refine present_yields fun a ha => ?_
    cases hv : r v with
    | ok b =>
      simp only [hv, Except.map, Except.ok.injEq] at ha
      exact ha ▸ hr v b hv
    | error e => simp [hv, Except.map] at ha
  · exact Yields.pure hnone

theorem dflt_yields {d : α} {r : Reader α} {P : α → Prop} (hr : ∀ v a, r v = .ok a → P a)
    (hd : P d) : Yields (dflt ms key d r) P :=
  Yields.map _ (opt_yields (P := P ∘ (·.getD d)) hr hd)

theorem req_yields [Inhabited α] {r : Reader α} {P : α → Prop} (hr : ∀ v a, r v = .ok a → P a) :
    Yields (req ms key r) P := by
  unfold req
  split
  · exact present_yields (hr _)
  · -- a missing member is noted, so the scan answers nothing
    refine ⟨(note_keeps _ _).bind fun _ => KeepsFault.pure _, fun s h => absurd h ?_⟩
    rw [scan_bind_run, note_run]
    simp [earlier_eq_none, StateT.run, Pure.pure, StateT.pure]

theorem optNull_yields {r : Reader α} {P : Option α → Prop} (hr : ∀ v a, r v = .ok a → P (some a))
    (hnone : P none) : Yields (optNull ms key r) P := by
  refine Yields.map _ (opt_yields (P := P ∘ Option.join) (fun v a ha => ?_) hnone)
  -- `null` reads as nothing, anything else as what `r` answers
  by_cases hv : v = .null
  · subst hv
    simp only [option, Except.ok.injEq] at ha
    subst ha
    exact hnone
  · have reads : option r v = (r v).map some := by
      cases v <;> first | exact absurd rfl hv | rfl
    rw [reads] at ha
    cases hb : r v with
    | ok b =>
      simp only [hb, Except.map, Except.ok.injEq] at ha
      subst ha
      exact hr v b hb
    | error e => simp [hb, Except.map] at ha

theorem record_yields [Inhabited α] {what : String} {body : Members → RecordScan α} {P : α → Prop}
    {j : Json} {a : α} (h : record what body j = .ok a) (hbody : ∀ ms, Yields (body ms) P) :
    P a := by
  cases j with
  | obj xs =>
    have run := Reader.record_run h
    have answered := (hbody ⟨xs⟩).answers none (by rw [run])
    rwa [run] at answered
  | _ => simp [record, wrongType, fail] at h

end Yields

section Values

variable {α : Type}

theorem list_go_yields {r : Reader α} {P : α → Prop} (hr : ∀ v a, r v = .ok a → P a) :
    ∀ (i : Nat) (xs : List Json) (as : List α), list.go r i xs = .ok as → ∀ a ∈ as, P a
  | _, [], as, h => by
    simp only [list.go, Except.ok.injEq] at h
    simp [← h]
  | i, x :: rest, as, h => by
    cases hx : r x with
    | error e => simp [list.go, inside, hx, bind, Except.bind] at h
    | ok b =>
      cases hrest : list.go r (i + 1) rest with
      | error e => simp [list.go, inside, hx, hrest, bind, Except.bind] at h
      | ok bs =>
        simp only [list.go, inside, hx, hrest] at h
        cases h
        intro a ha
        rcases List.mem_cons.1 ha with rfl | ha
        · exact hr x a hx
        · exact list_go_yields hr (i + 1) rest bs hrest a ha

theorem list_yields {r : Reader α} {P : α → Prop} (hr : ∀ v a, r v = .ok a → P a) {j : Json}
    {as : List α} (h : list r j = .ok as) : ∀ a ∈ as, P a := by
  cases j with
  | arr xs => exact list_go_yields hr 0 xs as h
  | _ => simp [list, wrongType, fail] at h

theorem intIn_mem {lo hi : Int} {name : String} {v : Json} {n : Int} (h : intIn lo hi name v = .ok n) :
    lo ≤ n ∧ n ≤ hi := by
  unfold intIn at h
  split at h
  · split at h
    · next fits =>
      cases h
      exact fits
    · simp [fail] at h
  · simp [wrongType, fail] at h

theorem i32_fits {v : Json} {n : Int} (h : i32 v = .ok n) : FitsI32 n := intIn_mem h

theorem i64_fits {v : Json} {n : Int} (h : i64 v = .ok n) : FitsI64 n := intIn_mem h

theorem keySorted_foldl_insertSorted :
    ∀ (l acc : List (String × α)), KeySorted acc →
      KeySorted (l.foldl (fun acc p => insertSorted p.1 p.2 acc) acc)
  | [], _, h => h
  | p :: rest, _, h => keySorted_foldl_insertSorted rest _ (h.insertSorted p.1 p.2)

theorem sortedMap_keySorted {r : Reader α} {v : Json} {ps : List (String × α)}
    (h : sortedMap r v = .ok ps) : KeySorted ps := by
  cases v with
  | obj ms =>
    simp only [sortedMap] at h
    cases hgo : sortedMap.go r ms with
    | error e => simp [hgo, bind, Except.bind] at h
    | ok pairs =>
      simp only [hgo, bind, Except.bind, pure, Except.pure, Except.ok.injEq] at h
      subst h
      exact keySorted_foldl_insertSorted pairs [] keySorted_nil
  | _ => simp [sortedMap, wrongType, fail] at h

end Values

end Reader


namespace Kube.Schema

variable (ms : List (String × Json))

theorem readFields_get?_optional (key : String) (s : Schema) :
    ∀ fs : List (String × Presence × Schema), (key, .optional, s) ∈ fs →
      (fs.map (·.1)).Nodup → (readFields ms fs).2 = none →
      (Json.obj (readFields ms fs).1).get? key =
        ((Json.obj ms).get? key).bind fun v => if v.isNull then none else (read s v).toOption
  | [], hmem, _, _ => by simp at hmem
  | (k, presence, s') :: rest, hmem, hnodup, hfault => by
    rw [List.map_cons, List.nodup_cons] at hnodup
    by_cases hk : k = key
    · subst hk
      have hnot : ∀ q ∈ (readFields ms rest).1, q.1 ≠ k := fun q hq heq =>
        hnodup.1 (heq ▸ readFields_keys ms rest q hq)
      have hhead : presence = .optional ∧ s = s' := by
        rcases List.mem_cons.1 hmem with h | h
        · simp_all
        · exact absurd (List.mem_map_of_mem (f := (·.1)) h) hnodup.1
      obtain ⟨rfl, rfl⟩ := hhead
      have hlocate := find?_zipIdx k ms 0
      rw [readFields] at hfault ⊢
      generalize readFields ms rest = r at hnot hfault ⊢
      obtain ⟨others, fault⟩ := r
      have hnone : (others.find? (·.1 == k)) = none := List.find?_eq_none.2 (by simpa using hnot)
      generalize (ms.zipIdx 0).find? (·.1.1 == k) = z at hlocate hfault ⊢
      rw [Json.get?_obj, Json.get?_obj, ← hlocate]
      rcases z with _ | ⟨⟨k', v⟩, i⟩
      · simp [hnone]
      · by_cases hv : v = .null
        · subst hv
          simp [hnone, Json.isNull]
        · -- a member that is not `null` is read by its schema, and a failure would be noted
          cases hr : read s v with
          | ok y =>
            have reads : Reader.inside (.key k) (read s) v = .ok y := by simp [Reader.inside, hr]
            cases v <;> simp_all [Json.isNull, Except.toOption]
          | error e =>
            have fails : Reader.inside (.key k) (read s) v =
                .error { e with path := .key k :: e.path } := by simp [Reader.inside, hr]
            cases v <;> simp_all [Reader.earlier_ne_none]
    · obtain ⟨out, hout, hkeys, hrest⟩ := readFields_cons ms k presence s' rest
      have hmem' : (key, Presence.optional, s) ∈ rest := by
        rcases List.mem_cons.1 hmem with h | h
        · simp_all
        · exact h
      have ih := readFields_get?_optional key s rest hmem' hnodup.2 (hrest hfault)
      have hskip : out.find? (·.1 == key) = none :=
        List.find?_eq_none.2 fun q hq => by simp [hkeys q hq, hk]
      rw [Json.get?_obj] at ih ⊢
      rw [hout, List.find?_append, hskip, Option.none_or]
      exact ih

end Kube.Schema


open Reader

theorem Toleration.exact_of_read {v : Json} {t : Toleration} (h : Toleration.read v = .ok t) :
    t.Exact := by
  cases hw : Kube.Schema.read Kube.toleration v with
  | error e => simp [Toleration.read, hw, Except.map] at h
  | ok w =>
    simp only [Toleration.read, hw, Except.map, Except.ok.injEq] at h
    subst h
    obtain ⟨ms, -, hfault, rfl⟩ := Kube.Schema.read_record hw
    intro n hn
    -- the wait was read through its 64-bit schema
    have member := Kube.Schema.readFields_get?_optional ms "tolerationSeconds" .int64 _
      (by simp [Kube.opt]) (by decide) hfault
    simp only [Toleration.ofDoc, Json.intOpt, member, Option.mem_def] at hn
    obtain ⟨y, hy, hn⟩ := Option.bind_eq_some_iff.1 hn
    obtain ⟨x, -, hx⟩ := Option.bind_eq_some_iff.1 hy
    split at hx
    · cases hx
    · cases hr : Reader.i64 x with
      | error e => simp [Kube.Schema.read, hr, Except.map, Except.toOption] at hx
      | ok m =>
        simp only [Kube.Schema.read, hr, Except.map, Except.toOption, Option.some.injEq] at hx
        subst hx
        simp only [Json.int?, Option.some.injEq] at hn
        exact hn ▸ i64_fits hr

theorem ContainerTemplate.exact_of_read {v : Json} {c : ContainerTemplate}
    (h : ContainerTemplate.read v = .ok c) : c.Exact := by
  refine record_yields h fun ms => ?_
  -- only the tolerations and the node selector carry a condition
  refine Yields.bind_keeps (dflt_keeps _ _) fun _ => ?_
  refine Yields.bind_keeps (dflt_keeps _ _) fun _ => ?_
  refine Yields.bind_keeps (dflt_keeps _ _) fun _ => ?_
  refine Yields.bind_keeps (dflt_keeps _ _) fun _ => ?_
  refine Yields.bind_keeps (dflt_keeps _ _) fun _ => ?_
  refine (dflt_yields (P := fun ts => ∀ t ∈ ts, Toleration.Exact t)
    (fun _ _ hts => list_yields (fun _ _ ht => Toleration.exact_of_read ht) hts)
    (by simp)).bind fun _ => ?_
  refine (optNull_yields (P := fun o => ∀ ps ∈ o, KeySorted ps)
    (fun _ _ hps => by simpa using sortedMap_keySorted hps) (by simp)).bind fun _ => ?_
  exact Yields.pure fun selector tolerations => ⟨tolerations, selector⟩

theorem StorageClassSpec.keySorted_of_read {v : Json} {sc : StorageClassSpec}
    (h : StorageClassSpec.read v = .ok sc) : KeySorted sc.parameters := by
  refine record_yields (P := fun sc : StorageClassSpec => KeySorted sc.parameters) h fun ms => ?_
  refine Yields.bind_keeps (req_keeps _) fun _ => ?_
  refine Yields.bind_keeps (dflt_keeps _ _) fun _ => ?_
  refine Yields.bind_keeps (dflt_keeps _ _) fun _ => ?_
  refine (dflt_yields (P := KeySorted) (fun _ _ hps => sortedMap_keySorted hps)
    keySorted_nil).bind fun _ => ?_
  refine Yields.bind_keeps (optNull_keeps _) fun _ => ?_
  refine Yields.bind_keeps (dflt_keeps _ _) fun _ => ?_
  refine Yields.bind_keeps (optNull_keeps _) fun _ => ?_
  exact Yields.pure id

theorem SnapshotClassSpec.keySorted_of_read {v : Json} {sc : SnapshotClassSpec}
    (h : SnapshotClassSpec.read v = .ok sc) : KeySorted sc.parameters := by
  refine record_yields (P := fun sc : SnapshotClassSpec => KeySorted sc.parameters) h fun ms => ?_
  refine Yields.bind_keeps (req_keeps _) fun _ => ?_
  refine (dflt_yields (P := KeySorted) (fun _ _ hps => sortedMap_keySorted hps)
    keySorted_nil).bind fun _ => ?_
  exact Yields.pure id

theorem DriverSpec.exact_of_read {v : Json} {d : DriverSpec} (h : DriverSpec.read v = .ok d) :
    d.Exact := by
  have template : ∀ w c, ContainerTemplate.read w = .ok c → c.Exact :=
    fun _ _ hc => ContainerTemplate.exact_of_read hc
  have empty : ContainerTemplate.Exact {} := by simp [ContainerTemplate.Exact]
  refine record_yields h fun ms => ?_
  refine Yields.bind_keeps (req_keeps _) fun _ => ?_
  refine (dflt_yields (P := FitsI32) (fun _ _ hn => i32_fits hn) (by simp [FitsI32])).bind fun _ => ?_
  refine Yields.bind_keeps (dflt_keeps _ _) fun _ => ?_
  refine Yields.bind_keeps (dflt_keeps _ _) fun _ => ?_
  refine (dflt_yields template empty).bind fun _ => ?_
  refine (dflt_yields template empty).bind fun _ => ?_
  refine (dflt_yields template empty).bind fun _ => ?_
  refine (dflt_yields (P := fun cs => ∀ c ∈ cs, ContainerTemplate.Exact c)
    (fun _ _ hcs => list_yields template hcs) (by simp)).bind fun _ => ?_
  refine (dflt_yields (P := fun cs => ∀ c ∈ cs, ContainerTemplate.Exact c)
    (fun _ _ hcs => list_yields template hcs) (by simp)).bind fun _ => ?_
  refine (dflt_yields (P := fun scs => ∀ sc ∈ scs, KeySorted (StorageClassSpec.parameters sc))
    (fun _ _ hscs => list_yields (fun _ _ hsc => StorageClassSpec.keySorted_of_read hsc) hscs)
    (by simp)).bind fun _ => ?_
  refine (dflt_yields (P := fun scs => ∀ sc ∈ scs, KeySorted (SnapshotClassSpec.parameters sc))
    (fun _ _ hscs => list_yields (fun _ _ hsc => SnapshotClassSpec.keySorted_of_read hsc) hscs)
    (by simp)).bind fun _ => ?_
  refine Yields.bind_keeps (dflt_keeps _ _) fun _ => ?_
  refine Yields.bind_keeps (dflt_keeps _ _) fun _ => ?_
  refine Yields.bind_keeps (dflt_keeps _ _) fun _ => ?_
  exact Yields.pure fun snapshot storage init side node controller common replicas =>
    ⟨replicas, common, controller, node, side, init, storage, snapshot⟩

theorem DriverSpec.read_toJson_of_read {v : Json} {d : DriverSpec}
    (h : DriverSpec.read v = .ok d) : DriverSpec.read d.toJson = .ok d :=
  DriverSpec.read_toJson (DriverSpec.exact_of_read h)

theorem DriverResource.spec_exact_of_read {family : DriverKind} {j : Json} {r : DriverResource}
    (h : DriverResource.read family j = .ok r) : r.spec.Exact := by
  refine record_yields (P := fun r : DriverResource => r.spec.Exact) h fun ms => ?_
  refine Yields.bind_keeps (dflt_keeps _ _) fun _ => ?_
  -- the spec member holds the driver spec under `driver`
  refine (req_yields (P := DriverSpec.Exact) fun _ _ hd =>
    record_yields hd fun _ => req_yields fun _ _ hd => DriverSpec.exact_of_read hd).bind fun _ => ?_
  refine Yields.bind_keeps (optNull_keeps _) fun _ => ?_
  exact Yields.pure id

end CsiOperator
