import Mathlib
import CsiOperator.Proofs.TimeText
import CsiOperator.Resource.Proxy
/-!
Statuses read back as they are written.

A record is read by scanning its members: each member is looked up by key and read on its own,
and the first failure met is noted. The value a scan gives for a member does not depend on the
failures noted before it, and a member written once, with a value its reader accepts, notes
none. Records written with distinct keys are therefore read back member by member, and a
driver or proxy status, whose times the status text writes exactly, reads back as itself
(`DriverStatus.read_toJson`, `ProxyStatus.read_toJson`). The status a stored resource reads
with is the one its status member holds (`DriverResource.status_of_read`).
-/

namespace CsiOperator.Reader

/-! ## Members -/

namespace Members

/-- The members hold a key at most once, with value `o`: `none` when the key is absent. -/
def Holds (ms : Members) (key : String) (o : Option Json) : Prop :=
  (ms.items.find? (·.1 == key)).map (·.2) = o ∧ ms.items.countP (·.1 == key) ≤ 1

theorem locate_go_map (key : String) :
    ∀ (i : Nat) (xs : List (String × Json)),
      (locate.go key i xs).map (·.2) = (xs.find? (·.1 == key)).map (·.2)
  | _, [] => rfl
  | i, (k, v) :: rest => by
    by_cases hk : k = key
    · simp [locate.go, hk]
    · simp [locate.go, hk, locate_go_map key (i + 1) rest]

theorem repeated_go_of_count (key : String) :
    ∀ (i : Nat) (seen : Bool) (xs : List (String × Json)),
      (if seen then 1 else 0) + xs.countP (·.1 == key) ≤ 1 → repeated.go key i seen xs = none
  | _, _, [], _ => rfl
  | i, seen, (k, v) :: rest, h => by
    by_cases hk : k = key
    · cases seen with
      | true => simp [hk] at h
      | false =>
        simp only [hk, List.countP_cons, beq_self_eq_true, if_true] at h
        simp only [repeated.go, hk, beq_self_eq_true, if_true, Bool.false_eq_true, if_false]
        exact repeated_go_of_count key (i + 1) true rest (by simpa using h)
    · have hk' : (k == key) = false := by simpa using hk
      simp only [List.countP_cons, hk', Bool.false_eq_true, if_false, Nat.add_zero] at h
      simp only [repeated.go, hk', Bool.false_eq_true, if_false]
      exact repeated_go_of_count key (i + 1) seen rest h

theorem Holds.locate {ms : Members} {key : String} {o : Option Json} (h : Holds ms key o) :
    (ms.locate key).map (·.2) = o := by
  rw [Members.locate, locate_go_map, h.1]

theorem Holds.repeated {ms : Members} {key : String} {o : Option Json} (h : Holds ms key o) :
    ms.repeated key = none :=
  repeated_go_of_count key 0 false ms.items (by simpa using h.2)

theorem Holds.cons {xs : List (String × Json)} {key k : String} {w : Json} {o : Option Json}
    (h : Holds ⟨xs⟩ key o) (hk : k ≠ key) : Holds ⟨(k, w) :: xs⟩ key o := by
  have hk' : (k == key) = false := by simpa using hk
  exact ⟨by simpa [List.find?_cons, hk'] using h.1, by simpa [List.countP_cons, hk'] using h.2⟩

theorem holds_absent {xs : List (String × Json)} {key : String} (h : ∀ q ∈ xs, q.1 ≠ key) :
    Holds ⟨xs⟩ key none ∧ xs.countP (·.1 == key) = 0 := by
  have none_match : ∀ q ∈ xs, ¬(q.1 == key) = true := fun q hq => by simpa using h q hq
  have count := List.countP_eq_zero.mpr none_match
  refine ⟨⟨?_, by simp [count]⟩, count⟩
  rw [List.find?_eq_none.mpr none_match]
  rfl

theorem holds_head {xs : List (String × Json)} {key : String} {v : Json}
    (h : ∀ q ∈ xs, q.1 ≠ key) : Holds ⟨(key, v) :: xs⟩ key (some v) := by
  have count := (holds_absent h).2
  exact ⟨by simp, by simp [count]⟩

theorem holds_of_nodup {l : List (String × Json)} (hkeys : (l.map (·.1)).Nodup)
    ⦃key : String⦄ ⦃v : Json⦄ (hmem : (key, v) ∈ l) : Holds ⟨l⟩ key (some v) := by
  induction l with
  | nil => simp at hmem
  | cons p rest ih =>
    obtain ⟨k, w⟩ := p
    simp only [List.map_cons, List.nodup_cons] at hkeys
    rcases List.mem_cons.mp hmem with same | later
    · obtain ⟨rfl, rfl⟩ := Prod.mk.inj same
      exact holds_head fun q hq h => hkeys.1 (h ▸ List.mem_map_of_mem hq)
    · exact (ih hkeys.2 later).cons fun h => hkeys.1 (h ▸ List.mem_map_of_mem later)

theorem holds_fields {l : List (String × Option Json)} (hkeys : (l.map (·.1)).Nodup)
    ⦃key : String⦄ ⦃o : Option Json⦄ (hmem : (key, o) ∈ l) :
    Holds ⟨l.filterMap fun x => x.2.map (x.1, ·)⟩ key o := by
  induction l with
  | nil => simp at hmem
  | cons p rest ih =>
    obtain ⟨k, w⟩ := p
    simp only [List.map_cons, List.nodup_cons] at hkeys
    -- the members written for the later entries carry their keys
    have later_keys : ∀ q ∈ rest.filterMap (fun x => x.2.map (x.1, ·)), q.1 ∈ rest.map (·.1) := by
      intro q hq
      obtain ⟨a, ha, hfa⟩ := List.mem_filterMap.mp hq
      obtain ⟨b, -, rfl⟩ := Option.map_eq_some_iff.mp hfa
      exact List.mem_map_of_mem ha
    rcases List.mem_cons.mp hmem with same | later
    · obtain ⟨rfl, rfl⟩ := Prod.mk.inj same
      have absent : ∀ q ∈ rest.filterMap (fun x => x.2.map (x.1, ·)), q.1 ≠ key :=
        fun q hq h => hkeys.1 (h ▸ later_keys q hq)
      cases o with
      | none => simpa using (holds_absent absent).1
      | some v => simpa using holds_head absent
    · have hk : k ≠ key := fun h => hkeys.1 (h ▸ List.mem_map_of_mem later)
      cases w with
      | none => simpa using ih hkeys.2 later
      | some w => simpa using (ih hkeys.2 later).cons hk

end Members

/-! ## Scans -/

section Scans

variable {α : Type} {ms : Members} {key : String} {s : Option (Nat × DecodeError)}

theorem inside_ok {step : PathStep} {r : Reader α} {v : Json} {a : α} (h : r v = .ok a) :
    inside step r v = .ok a := by
  simp [inside, h]

theorem present_run [Inhabited α] {i : Nat} {v : Json} {r : Reader α} {a : α}
    (hrep : ms.repeated key = none) (hr : r v = .ok a) : (present ms key i v r).run s = (a, s) := by
  simp [present, hrep, inside_ok hr]
  rfl

theorem opt_run_absent {r : Reader α} (h : ms.Holds key none) : (opt ms key r).run s = (none, s) := by
  have hloc := h.locate
  unfold opt
  split
  · next i v hl => simp [hl] at hloc
  · rfl

theorem opt_run_present {v : Json} {r : Reader α} {a : α} (h : ms.Holds key (some v))
    (hr : r v = .ok a) : (opt ms key r).run s = (some a, s) := by
  have hloc := h.locate
  unfold opt
  split
  · next i w hl =>
    simp only [hl, Option.map_some, Option.some.injEq] at hloc
    subst hloc
    exact present_run h.repeated (by rw [hr]; rfl)
  · next hl => simp [hl] at hloc

theorem dflt_run_absent {d : α} {r : Reader α} (h : ms.Holds key none) :
    (dflt ms key d r).run s = (d, s) := by
  simp [dflt, opt_run_absent h]
  rfl

theorem dflt_run_present {v : Json} {d : α} {r : Reader α} {a : α} (h : ms.Holds key (some v))
    (hr : r v = .ok a) : (dflt ms key d r).run s = (a, s) := by
  simp [dflt, opt_run_present h hr]
  rfl

theorem optNull_run_absent {r : Reader α} (h : ms.Holds key none) :
    (optNull ms key r).run s = (none, s) := by
  simp [optNull, opt_run_absent h]
  rfl

theorem optNull_run_present {v : Json} {r : Reader α} {a : α} (h : ms.Holds key (some v))
    (hv : v ≠ .null) (hr : r v = .ok a) : (optNull ms key r).run s = (some a, s) := by
  have read : option r v = .ok (some a) := by
    cases v <;> simp_all [option, Except.map]
  simp [optNull, opt_run_present h read]
  rfl

theorem present_value [Inhabited α] {i : Nat} {v : Json} {r : Reader α} {a : α}
    (hr : r v = .ok a) : ((present ms key i v r).run s).1 = a := by
  unfold present
  simp only [inside_ok hr]
  split <;> rfl

theorem opt_value {r : Reader α} {v : Json} (hloc : (ms.locate key).map (·.2) = some v) :
    ((opt ms key r).run s).1 = (r v).toOption := by
  unfold opt
  split
  · next i w hl =>
    simp only [hl, Option.map_some, Option.some.injEq] at hloc
    subst hloc
    unfold present
    cases hr : r w with
    | error e =>
      have fails : inside (.key key) (fun j => (r j).map some) w = .error { e with path := .key key :: e.path } := by
        simp [inside, hr, Except.map]
      simp only [fails]
      split <;> rfl
    | ok a =>
      have reads : inside (.key key) (fun j => (r j).map some) w = .ok (some a) := by
        simp [inside, hr, Except.map]
      simp only [reads]
      split <;> rfl
  · next hl => simp [hl] at hloc

theorem dflt_value {d : α} {r : Reader α} {v : Json} (hloc : (ms.locate key).map (·.2) = some v) :
    ((dflt ms key d r).run s).1 = ((r v).toOption).getD d := by
  have value := @opt_value α ms key s r v hloc
  simp only [dflt]
  exact congrArg (·.getD d) value

theorem optNull_value {r : Reader α} {v : Json} {a : Option α}
    (hloc : (ms.locate key).map (·.2) = some v) (hr : option r v = .ok a) :
    ((optNull ms key r).run s).1 = a := by
  unfold optNull opt
  split
  · next i w hl =>
    simp only [hl, Option.map_some, Option.some.injEq] at hloc
    subst hloc
    have read : (option r w).map some = .ok (some a) := by simp [hr, Except.map]
    exact congrArg Option.join
      (@present_value _ ms key s _ i w (fun j => (option r j).map some) _ read)
  · next hl => simp [hl] at hloc

theorem record_value [Inhabited α] {what : String} {body : Members → RecordScan α}
    {xs : List (String × Json)} {a : α} (h : record what body (.obj xs) = .ok a) :
    ((body ⟨xs⟩).run none).1 = a := by
  rcases hrun : (body ⟨xs⟩).run none with ⟨b, _ | ⟨_, err⟩⟩
  · simp only [record, hrun, Except.ok.injEq] at h
    exact h
  · simp [record, hrun] at h

theorem record_obj [Inhabited α] {what : String} {body : Members → RecordScan α}
    {xs : List (String × Json)} {a : α} (h : (body ⟨xs⟩).run none = (a, none)) :
    record what body (.obj xs) = .ok a := by
  simp [record, h]

end Scans

/-! ## Values -/

section Values

variable {ms : Members} {key : String} {s : Option (Nat × DecodeError)}

theorem list_go_map {β : Type} {r : Reader β} {f : β → Json} (hr : ∀ b, r (f b) = .ok b) :
    ∀ (i : Nat) (xs : List β), list.go r i (xs.map f) = .ok xs
  | _, [] => rfl
  | i, b :: bs => by
    simp [list.go, inside_ok (hr b), list_go_map hr (i + 1) bs]
    rfl

theorem strs_map_str (xs : List String) : strs (.arr (xs.map .str)) = .ok xs :=
  list_go_map (r := string) (f := .str) (fun _ => rfl) 0 xs

theorem dflt_run_unlessNil {xs : List String} (h : ms.Holds key (Json.unlessNil xs .str)) :
    (dflt ms key [] strs).run s = (xs, s) := by
  unfold Json.unlessNil at h
  split at h
  · next empty => rw [dflt_run_absent h, List.isEmpty_iff.mp empty]
  · exact dflt_run_present h (strs_map_str xs)

theorem optNull_run_map {β : Type} {r : Reader β} {f : β → Json} {x : Option β}
    (h : ms.Holds key (x.map f)) (hnull : ∀ b, f b ≠ .null) (hr : ∀ b ∈ x, r (f b) = .ok b) :
    (optNull ms key r).run s = (x, s) := by
  cases x with
  | none => exact optNull_run_absent h
  | some b => exact optNull_run_present h (hnull b) (hr b rfl)

theorem dflt_run_unlessEmpty {t : String} (h : ms.Holds key (Json.unlessEmpty t)) :
    (dflt ms key "" string).run s = (t, s) := by
  unfold Json.unlessEmpty at h
  split at h
  · next empty => rw [dflt_run_absent h, String.isEmpty_iff.mp empty]
  · exact dflt_run_present h rfl

end Values

end CsiOperator.Reader

namespace CsiOperator

open Reader Members

theorem PodSummary.read_toJson (p : PodSummary) : PodSummary.read p.toJson = .ok p := by
  have held := holds_fields (l := [("available", Json.unlessNil p.available .str),
    ("ready", Json.unlessNil p.ready .str), ("starting", Json.unlessNil p.starting .str),
    ("stopped", Json.unlessNil p.stopped .str)]) (by simp)
  have available : Holds _ "available" (Json.unlessNil p.available .str) := held (by simp)
  have ready : Holds _ "ready" (Json.unlessNil p.ready .str) := held (by simp)
  have starting : Holds _ "starting" (Json.unlessNil p.starting .str) := held (by simp)
  have stopped : Holds _ "stopped" (Json.unlessNil p.stopped .str) := held (by simp)
  unfold PodSummary.read PodSummary.toJson Json.fields
  apply record_obj
  simp only [StateT.run_bind, dflt_run_unlessNil available, dflt_run_unlessNil ready,
    dflt_run_unlessNil starting, dflt_run_unlessNil stopped]
  rfl

theorem Reader.condition_name (c : Condition) : Reader.condition (.str c.name) = .ok c := by
  cases c <;> rfl

theorem Reader.driverState_name (d : DriverState) : Reader.driverState (.str d.name) = .ok d := by
  cases d <;> rfl

theorem Reader.u64_int {n : Nat} (h : n < 2 ^ 64) : Reader.u64 (.int n) = .ok n := by
  have bound : (n : Int) ≤ 18446744073709551615 := by omega
  simp [Reader.u64, Reader.intIn, bound, Except.map]

theorem Reader.instant_render {t : Instant} (h : t.Valid) :
    Reader.instant (.str t.render) = .ok t := by
  simp [Reader.instant, Instant.read_render h]

/-- A last update whose time is an instant of the calendar, which its text writes exactly. -/
def LastUpdate.Exact (u : LastUpdate) : Prop := ∀ t ∈ u.time, t.Valid

theorem LastUpdate.read_toJson {u : LastUpdate} (hu : u.Exact) : LastUpdate.read u.toJson = .ok u := by
  have held := holds_fields (l := [("condition", u.condition.map (.str ·.name)),
    ("time", u.time.map (.str ·.render)), ("errorMessage", Json.unlessEmpty u.errorMessage)]) (by simp)
  have condition : Holds _ "condition" (u.condition.map (.str ·.name)) := held (by simp)
  have time : Holds _ "time" (u.time.map (.str ·.render)) := held (by simp)
  have errorMessage : Holds _ "errorMessage" (Json.unlessEmpty u.errorMessage) := held (by simp)
  unfold LastUpdate.read LastUpdate.toJson Json.fields
  apply record_obj
  simp only [StateT.run_bind,
    optNull_run_map condition (fun _ => nofun) fun c _ => Reader.condition_name c,
    optNull_run_map time (fun _ => nofun) fun t ht => Reader.instant_render (hu t ht),
    dflt_run_unlessEmpty errorMessage]
  rfl

/-- A driver status its document writes exactly: a hash of at most 64 bits, and a time its
text writes exactly. -/
def DriverStatus.Exact (st : DriverStatus) : Prop := st.driverHash < 2 ^ 64 ∧ st.lastUpdate.Exact

theorem DriverStatus.read_toJson {st : DriverStatus} (h : st.Exact) :
    DriverStatus.read st.toJson = .ok st := by
  have held := holds_of_nodup (l := [("controllerStatus", st.controllerStatus.toJson),
    ("nodeStatus", st.nodeStatus.toJson), ("driverHash", .int st.driverHash),
    ("state", .str st.state.name), ("lastUpdate", st.lastUpdate.toJson)]) (by simp)
  have controller : Holds _ "controllerStatus" (some st.controllerStatus.toJson) := held (by simp)
  have node : Holds _ "nodeStatus" (some st.nodeStatus.toJson) := held (by simp)
  have hash : Holds _ "driverHash" (some (.int st.driverHash)) := held (by simp)
  have state : Holds _ "state" (some (.str st.state.name)) := held (by simp)
  have last : Holds _ "lastUpdate" (some st.lastUpdate.toJson) := held (by simp)
  unfold DriverStatus.read DriverStatus.toJson
  apply record_obj
  simp only [StateT.run_bind, dflt_run_present controller (PodSummary.read_toJson _),
    dflt_run_present node (PodSummary.read_toJson _), dflt_run_present hash (Reader.u64_int h.1),
    dflt_run_present state (Reader.driverState_name _),
    dflt_run_present last (LastUpdate.read_toJson h.2)]
  rfl

/-- A proxy status its document writes exactly: a hash of at most 64 bits, and a time its text
writes exactly. -/
def ProxyStatus.Exact (st : ProxyStatus) : Prop := st.proxyHash < 2 ^ 64 ∧ st.lastUpdate.Exact

theorem ProxyStatus.read_toJson {st : ProxyStatus} (h : st.Exact) :
    ProxyStatus.read st.toJson = .ok st := by
  have held := holds_of_nodup (l := [("proxyStatus", st.proxyStatus.toJson),
    ("proxyHash", .int st.proxyHash), ("state", .str st.state.name),
    ("lastUpdate", st.lastUpdate.toJson)]) (by simp)
  have pods : Holds _ "proxyStatus" (some st.proxyStatus.toJson) := held (by simp)
  have hash : Holds _ "proxyHash" (some (.int st.proxyHash)) := held (by simp)
  have state : Holds _ "state" (some (.str st.state.name)) := held (by simp)
  have last : Holds _ "lastUpdate" (some st.lastUpdate.toJson) := held (by simp)
  unfold ProxyStatus.read ProxyStatus.toJson
  apply record_obj
  simp only [StateT.run_bind, dflt_run_present pods (PodSummary.read_toJson _),
    dflt_run_present hash (Reader.u64_int h.1), dflt_run_present state (Reader.driverState_name _),
    dflt_run_present last (LastUpdate.read_toJson h.2)]
  rfl

/-! ## The status of a stored resource -/

theorem Reader.Members.locate_of_get? {xs : List (String × Json)} {key : String} {v : Json}
    (h : (Json.obj xs).get? key = some v) : (Members.locate ⟨xs⟩ key).map (·.2) = some v := by
  rw [Members.locate, Members.locate_go_map]
  exact h

theorem Reader.option_of_record {α : Type} [Inhabited α] {what : String}
    {body : Members → RecordScan α} {v : Json} {a : α} (h : record what body v = .ok a) :
    option (record what body) v = .ok (some a) := by
  cases v with
  | null => simp [record, wrongType, fail] at h
  | _ => simp [option, h, Except.map]

theorem DriverResource.status_of_read {family : DriverKind} {j : Json} {r : DriverResource}
    {v : Json} {st : DriverStatus} (hread : DriverResource.read family j = .ok r)
    (hstatus : j.get? "status" = some v) (hv : DriverStatus.read v = .ok st) :
    r.status = some st := by
  cases j with
  | obj xs =>
    rw [← record_value hread]
    exact optNull_value (Members.locate_of_get? hstatus) (option_of_record hv)
  | _ => simp [Json.get?] at hstatus

theorem ProxyResource.status_of_read {j : Json} {p : ProxyResource} {v : Json}
    {st : ProxyStatus} (hread : ProxyResource.read j = .ok p) (hstatus : j.get? "status" = some v)
    (hv : ProxyStatus.read v = .ok st) : p.status = some st := by
  cases j with
  | obj xs =>
    rw [← record_value hread]
    exact optNull_value (Members.locate_of_get? hstatus) (option_of_record hv)
  | _ => simp [Json.get?] at hstatus

/-! ## Members of documents -/

namespace Json

theorem get?_fields {l : List (String × Option Json)} (hkeys : (l.map (·.1)).Nodup)
    {key : String} {o : Option Json} (hmem : (key, o) ∈ l) : (Json.fields l).get? key = o :=
  (holds_fields hkeys hmem).1

theorem find?_setMember_go_self (key : String) (v : Json) :
    ∀ xs : List (String × Json), xs.any (·.1 == key) →
      ((setMember.go key v xs).find? (·.1 == key)).map (·.2) = some v
  | [], h => by simp at h
  | (k, w) :: rest, h => by
    by_cases hk : k = key
    · simp [setMember.go, hk]
    · have hk' : (k == key) = false := by simpa using hk
      simp only [List.any_cons, hk', Bool.false_or] at h
      simpa [setMember.go, hk'] using find?_setMember_go_self key v rest h

theorem find?_setMember_go_of_ne {k key : String} (v : Json) (h : k ≠ key) :
    ∀ xs : List (String × Json),
      ((setMember.go k v xs).find? (·.1 == key)).map (·.2) = (xs.find? (·.1 == key)).map (·.2)
  | [] => rfl
  | (k', w) :: rest => by
    by_cases same : k' = k
    · subst same
      have hk : (k' == key) = false := by simpa using h
      simp [setMember.go, hk]
    · have later := find?_setMember_go_of_ne v h rest
      cases hk : (k' == key) <;> simp [setMember.go, same, hk, later]

theorem get?_set_self (j : Json) (key : String) (v : Json) : (j.set key v).get? key = some v := by
  simp only [set, setMember, get?]
  split
  · next present => exact find?_setMember_go_self key v _ present
  · next absent =>
    have none_before : ∀ q ∈ j.members, ¬(q.1 == key) = true := by
      intro q hq hkey
      exact absent (List.any_eq_true.mpr ⟨q, hq, hkey⟩)
    simp [List.find?_append, List.find?_eq_none.mpr none_before]

theorem get?_set_of_ne (j : Json) {k key : String} (v : Json) (h : k ≠ key) :
    (j.set k v).get? key = j.get? key := by
  have hk : (k == key) = false := by simpa using h
  cases j with
  | obj xs =>
    simp only [set, setMember, get?]
    split_ifs
    · exact find?_setMember_go_of_ne v h xs
    · simp [List.find?_append, hk, members, members?]
  | _ => simp [set, setMember, get?, members, members?, hk]

end Json

theorem DriverResource.get?_toJson_status (r : DriverResource) :
    r.toJson.get? "status" = r.status.map DriverStatus.toJson :=
  Json.get?_fields (by simp) (by simp)

theorem ProxyResource.get?_toJson_status (p : ProxyResource) :
    p.toJson.get? "status" = p.status.map ProxyStatus.toJson :=
  Json.get?_fields (by simp) (by simp)

/-! ## Parts of a status read back -/

theorem LastUpdate.condition_of_read_toJson {u u' : LastUpdate}
    (h : LastUpdate.read u.toJson = .ok u') : u'.condition = u.condition := by
  have condition : Holds _ "condition" (u.condition.map (.str ·.name)) :=
    holds_fields (l := [("condition", u.condition.map (.str ·.name)),
      ("time", u.time.map (.str ·.render)), ("errorMessage", Json.unlessEmpty u.errorMessage)])
      (by simp) (by simp)
  unfold LastUpdate.toJson Json.fields at h
  rw [← record_value h]
  exact congrArg Prod.fst
    (optNull_run_map condition (fun _ => nofun) fun c _ => Reader.condition_name c)

theorem DriverStatus.parts_of_read_toJson {st st' : DriverStatus}
    (h : DriverStatus.read st.toJson = .ok st') :
    st'.state = st.state ∧ st'.lastUpdate = (LastUpdate.read st.lastUpdate.toJson).toOption.getD {} := by
  have held := holds_of_nodup (l := [("controllerStatus", st.controllerStatus.toJson),
    ("nodeStatus", st.nodeStatus.toJson), ("driverHash", .int st.driverHash),
    ("state", .str st.state.name), ("lastUpdate", st.lastUpdate.toJson)]) (by simp)
  have state : Holds _ "state" (some (.str st.state.name)) := held (by simp)
  have last : Holds _ "lastUpdate" (some st.lastUpdate.toJson) := held (by simp)
  unfold DriverStatus.toJson at h
  rw [← record_value h]
  refine ⟨?_, ?_⟩
  · exact (dflt_value state.locate).trans (by rw [Reader.driverState_name]; rfl)
  · exact dflt_value last.locate

theorem ProxyStatus.parts_of_read_toJson {st st' : ProxyStatus}
    (h : ProxyStatus.read st.toJson = .ok st') :
    st'.state = st.state ∧ st'.lastUpdate = (LastUpdate.read st.lastUpdate.toJson).toOption.getD {} := by
  have held := holds_of_nodup (l := [("proxyStatus", st.proxyStatus.toJson),
    ("proxyHash", .int st.proxyHash), ("state", .str st.state.name),
    ("lastUpdate", st.lastUpdate.toJson)]) (by simp)
  have state : Holds _ "state" (some (.str st.state.name)) := held (by simp)
  have last : Holds _ "lastUpdate" (some st.lastUpdate.toJson) := held (by simp)
  unfold ProxyStatus.toJson at h
  rw [← record_value h]
  refine ⟨?_, ?_⟩
  · exact (dflt_value state.locate).trans (by rw [Reader.driverState_name]; rfl)
  · exact dflt_value last.locate

end CsiOperator
