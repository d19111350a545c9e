import Mathlib
import CsiOperator.Proofs.FamilyHooks
/-!
Normalizing the MDM lists of a VxFlexOS spec, said in full.

The MDM variable of the SDC init container is rewritten to its normalized list, and the SDC
monitor is given that list when its own list normalizes to another one or when it has none.
Normalizing succeeds exactly when both variables, where present, hold lists of IPv4 addresses;
it gives the SDC its normalized list and the monitor a list that normalizes to the same; it
edits nothing but these two variables; and it says the spec changed exactly when it did
(`normalizeMdm_characterized`).

Each half is first computed from what its variable holds (`sdcMdm_of_valid`,
`shareMdm_of_valid`, …), with the index arithmetic of the code hidden behind the lookups
`firstEnv?` and the edit `giveEnv`; the facts about a half are read off these, and the facts
about the whole from the facts about its halves.
-/

namespace CsiOperator.Hooks

/-! ## What an MDM variable holds -/

/-- A list of IPv4 addresses separated by commas, each entry allowed blanks around it. -/
def IsMdmList (v : String) : Prop :=
  ∀ piece ∈ v.toList.splitOn ',', isIpv4 (Text.trimBlank (String.ofList piece)) = true

/-- A variable holds an MDM list: it has a value, and that value is such a list. -/
def HoldsMdmList (e : EnvVar) : Prop := ∃ v, e.value = some v ∧ IsMdmList v

theorem isSome_normalizeMdmList_iff (v : String) :
    (normalizeMdmList v).isSome ↔ IsMdmList v := by
  unfold normalizeMdmList IsMdmList
  dsimp only
  split_ifs with h
  · simpa [List.all_eq_true] using h
  · simpa [List.all_eq_true] using h

theorem normalizeMdmList_empty : normalizeMdmList "" = none := by decide

example : normalizeMdmList " 10.0.0.1 ,10.0.0.2" = some "10.0.0.1,10.0.0.2" := by decide

theorem holdsMdmList_iff (e : EnvVar) :
    HoldsMdmList e ↔ (normalizeMdmList (e.value.getD "")).isSome := by
  cases hv : e.value with
  | none => simp [HoldsMdmList, hv, normalizeMdmList_empty]
  | some v => simp [HoldsMdmList, hv, isSome_normalizeMdmList_iff]

theorem normalizeMdmList_ne_empty {v n : String} (h : normalizeMdmList v = some n) : n ≠ "" := by
  rintro rfl
  simpa [normalizeMdmList_empty] using normalizeMdmList_normalized h

/-! ## Looking up and editing one variable -/

/-- The first variable of a name in the first container of a name. -/
def firstEnv? (cs : List ContainerTemplate) (container name : String) : Option EnvVar :=
  (cs.find? (·.name == container)).bind fun c => c.envs.find? (·.name == name)

/-- The MDM variable of the SDC init container. -/
def sdcMdmEnv? (d : DriverSpec) : Option EnvVar := firstEnv? d.initContainers Image.sdc mdmEnv

/-- The MDM variable of the SDC monitor. -/
def monitorMdmEnv? (d : DriverSpec) : Option EnvVar := firstEnv? d.sideCars Image.sdcMonitor mdmEnv

/-- Gives the first variable of a name a value, keeping the rest of it; a variable with the
value is appended when there is none. -/
def giveValue (envs : List EnvVar) (name v : String) : List EnvVar :=
  match envs.findIdx? (·.name == name) with
  | some i => envs.modify i fun e => { e with value := some v }
  | none => envs ++ [EnvVar.plain name v]

/-- Gives the variable of a name in the first container of a name a value. -/
def giveEnv (cs : List ContainerTemplate) (container name v : String) : List ContainerTemplate :=
  match cs.findIdx? (·.name == container) with
  | some i => cs.modify i fun c => { c with envs := giveValue c.envs name v }
  | none => cs

/-- A spec whose SDC and SDC monitor MDM variables may have been given values. -/
def giveMdm (d : DriverSpec) (sdc monitor : Option String) : DriverSpec :=
  { d with
    initContainers := sdc.elim d.initContainers (giveEnv d.initContainers Image.sdc mdmEnv)
    sideCars := monitor.elim d.sideCars (giveEnv d.sideCars Image.sdcMonitor mdmEnv) }

section Lists

variable {α : Type} {p : α → Bool} {l : List α} {i : Nat}

theorem find?_of_findIdx? [Inhabited α] (h : l.findIdx? p = some i) : l.find? p = some l[i]! := by
  obtain ⟨hi, -⟩ := List.findIdx?_eq_some_iff_getElem.1 h
  rw [List.find?_eq_getElem?_findIdx, (List.findIdx?_eq_some_iff_findIdx_eq.1 h).2,
    List.getElem?_eq_getElem hi, List.getElem!_eq_getElem?_getD, List.getElem?_eq_getElem hi]
  rfl

theorem find?_eq_none_of_findIdx? (h : l.findIdx? p = none) : l.find? p = none := by
  rw [List.find?_eq_none]
  intro x hx
  simp [List.findIdx?_eq_none_iff.1 h x hx]

theorem modify_eq_set_getElem! [Inhabited α] (f : α → α) : l.modify i f = l.set i (f l[i]!) := by
  rw [List.modify_eq_set, List.getElem!_eq_getElem?_getD]

theorem find?_modify {f : α → α} (h : l.findIdx? p = some i) (hf : ∀ a, p (f a) = p a) :
    (l.modify i f).find? p = (l.find? p).map f := by
  have hmap : (l.modify i f).map p = l.map p := by
    apply List.ext_getElem?
    intro j
    simp only [List.getElem?_map, List.getElem?_modify]
    cases l[j]? with
    | none => rfl
    | some a => by_cases hij : i = j <;> simp [hij, hf]
  have hidx : (l.modify i f).findIdx? p = some i := by
    have := congrArg (List.findIdx? id) hmap
    simpa [List.findIdx?_map] using this.trans (by simpa [List.findIdx?_map] using h)
  rw [List.find?_eq_getElem?_findIdx, (List.findIdx?_eq_some_iff_findIdx_eq.1 hidx).2,
    List.getElem?_modify, List.find?_eq_getElem?_findIdx,
    (List.findIdx?_eq_some_iff_findIdx_eq.1 h).2]
  simp

theorem modify_of_getElem? {f : α → α} {a : α} (h : l[i]? = some a) (hf : f a = a) :
    l.modify i f = l := by
  apply List.ext_getElem?
  intro j
  rw [List.getElem?_modify]
  by_cases hij : i = j
  · subst hij
    simp [h, hf]
  · cases l[j]? <;> simp [hij]

theorem getElem?_of_findIdx? [Inhabited α] (h : l.findIdx? p = some i) : l[i]? = some l[i]! := by
  obtain ⟨hi, -⟩ := List.findIdx?_eq_some_iff_getElem.1 h
  simp [List.getElem?_eq_getElem hi, List.getElem!_eq_getElem?_getD]

end Lists

section Edits

variable {envs : List EnvVar} {cs : List ContainerTemplate} {name container v : String}
  {e : EnvVar} {k : ContainerTemplate}

theorem find?_giveValue_of_some (h : envs.find? (·.name == name) = some e) :
    (giveValue envs name v).find? (·.name == name) = some { e with value := some v } := by
  unfold giveValue
  cases hi : envs.findIdx? (·.name == name) with
  | none => simp [find?_eq_none_of_findIdx? hi] at h
  | some i =>
    dsimp only
    rw [find?_modify (f := fun e => { e with value := some v }) hi (fun _ => rfl), h]
    rfl

theorem find?_giveValue_of_none (h : envs.find? (·.name == name) = none) :
    (giveValue envs name v).find? (·.name == name) = some (EnvVar.plain name v) := by
  have hi : envs.findIdx? (·.name == name) = none := by
    rw [List.findIdx?_eq_none_iff]
    simpa using List.find?_eq_none.1 h
  unfold giveValue
  rw [hi]
  simp [List.find?_append, h, EnvVar.plain]

theorem find?_giveEnv (h : cs.find? (·.name == container) = some k) :
    (giveEnv cs container name v).find? (·.name == container) =
      some { k with envs := giveValue k.envs name v } := by
  unfold giveEnv
  cases hi : cs.findIdx? (·.name == container) with
  | none => simp [find?_eq_none_of_findIdx? hi] at h
  | some i =>
    dsimp only
    rw [find?_modify (f := fun c => { c with envs := giveValue c.envs name v }) hi (fun _ => rfl), h]
    rfl

theorem firstEnv?_giveEnv_of_some (h : firstEnv? cs container name = some e) :
    firstEnv? (giveEnv cs container name v) container name = some { e with value := some v } := by
  obtain ⟨k, hk, he⟩ := Option.bind_eq_some_iff.1 h
  simp only [firstEnv?, find?_giveEnv hk, Option.bind_some, find?_giveValue_of_some he]

theorem firstEnv?_giveEnv_of_none (hk : cs.find? (·.name == container) = some k)
    (he : k.envs.find? (·.name == name) = none) :
    firstEnv? (giveEnv cs container name v) container name = some (EnvVar.plain name v) := by
  simp only [firstEnv?, find?_giveEnv hk, Option.bind_some, find?_giveValue_of_none he]

theorem giveEnv_of_value (h : firstEnv? cs container name = some e) (hv : e.value = some v) :
    giveEnv cs container name v = cs := by
  obtain ⟨k, hk, he⟩ := Option.bind_eq_some_iff.1 h
  unfold giveEnv
  cases hi : cs.findIdx? (·.name == container) with
  | none => simp [find?_eq_none_of_findIdx? hi] at hk
  | some i =>
    dsimp only
    have hki : cs[i]! = k := Option.some.inj ((find?_of_findIdx? hi).symm.trans hk)
    refine modify_of_getElem? (getElem?_of_findIdx? hi) ?_
    rw [hki]
    unfold giveValue
    cases hj : k.envs.findIdx? (·.name == name) with
    | none => simp [find?_eq_none_of_findIdx? hj] at he
    | some j =>
      have hej : k.envs[j]! = e := Option.some.inj ((find?_of_findIdx? hj).symm.trans he)
      dsimp only
      rw [modify_of_getElem? (getElem?_of_findIdx? hj) (by rw [hej, ← hv])]

theorem firstEnv?_of_findIdx? {ci ei : Nat} (hci : cs.findIdx? (·.name == container) = some ci)
    (hei : cs[ci]!.envs.findIdx? (·.name == name) = some ei) :
    firstEnv? cs container name = some cs[ci]!.envs[ei]! := by
  simp only [firstEnv?, find?_of_findIdx? hci, Option.bind_some, find?_of_findIdx? hei]

theorem firstEnv?_of_container_none (hci : cs.findIdx? (·.name == container) = none) :
    firstEnv? cs container name = none := by
  simp only [firstEnv?, find?_eq_none_of_findIdx? hci, Option.bind_none]

theorem firstEnv?_of_env_none {ci : Nat} (hci : cs.findIdx? (·.name == container) = some ci)
    (hei : cs[ci]!.envs.findIdx? (·.name == name) = none) : firstEnv? cs container name = none := by
  simp only [firstEnv?, find?_of_findIdx? hci, Option.bind_some, find?_eq_none_of_findIdx? hei]

theorem firstEnv?_cases (cs : List ContainerTemplate) (container name : String) :
    cs.find? (·.name == container) = none ∨ (∃ e, firstEnv? cs container name = some e) ∨
      ∃ k, cs.find? (·.name == container) = some k ∧ k.envs.find? (·.name == name) = none := by
  cases hk : cs.find? (·.name == container) with
  | none => exact .inl rfl
  | some k =>
    cases he : k.envs.find? (·.name == name) with
    | none => exact .inr (.inr ⟨k, rfl, he⟩)
    | some e => exact .inr (.inl ⟨e, by simp [firstEnv?, hk, he]⟩)

theorem set_eq_giveValue {ei : Nat} (hei : envs.findIdx? (·.name == name) = some ei) :
    envs.set ei { envs[ei]! with value := some v } = giveValue envs name v := by
  unfold giveValue
  rw [hei]
  dsimp only
  rw [modify_eq_set_getElem!]

theorem setEnv_eq_giveValue (hei : envs.findIdx? (·.name == name) = none) :
    Layer.setEnv envs name v = giveValue envs name v := by
  unfold Layer.setEnv giveValue
  rw [hei]

theorem set_eq_giveEnv {ci : Nat} {envs' : List EnvVar}
    (hci : cs.findIdx? (·.name == container) = some ci) (henvs : envs' = giveValue cs[ci]!.envs name v) :
    cs.set ci { cs[ci]! with envs := envs' } = giveEnv cs container name v := by
  unfold giveEnv
  rw [hci, henvs]
  dsimp only
  rw [modify_eq_set_getElem!]

end Edits

/-! ## The SDC init container -/

section Sdc

variable {inits inits' : List ContainerTemplate} {u : Bool} {mdm : Option String} {e : EnvVar}
  {n : String}

theorem sdcMdm_of_none (h : firstEnv? inits Image.sdc mdmEnv = none) :
    sdcMdm inits = .ok (false, none, inits) := by
  unfold sdcMdm
  split
  · rfl
  · rename_i ci hci
    dsimp only
    split
    · rfl
    · rename_i ei hei
      simp [firstEnv?_of_findIdx? hci hei] at h

theorem sdcMdm_of_invalid (h : firstEnv? inits Image.sdc mdmEnv = some e)
    (hn : normalizeMdmList (e.value.getD "") = none) : ∃ err, sdcMdm inits = .error err := by
  unfold sdcMdm
  split
  · rename_i hci
    simp [firstEnv?_of_container_none hci] at h
  · rename_i ci hci
    dsimp only
    split
    · rename_i hei
      simp [firstEnv?_of_env_none hci hei] at h
    · rename_i ei hei
      rw [firstEnv?_of_findIdx? hci hei] at h
      cases h
      rw [hn]
      exact ⟨_, rfl⟩

theorem sdcMdm_of_valid (h : firstEnv? inits Image.sdc mdmEnv = some e)
    (hn : normalizeMdmList (e.value.getD "") = some n) :
    sdcMdm inits = .ok (e.value != some n, some n, giveEnv inits Image.sdc mdmEnv n) := by
  unfold sdcMdm
  split
  · rename_i hci
    simp [firstEnv?_of_container_none hci] at h
  · rename_i ci hci
    dsimp only
    split
    · rename_i hei
      simp [firstEnv?_of_env_none hci hei] at h
    · rename_i ei hei
      have he := h
      rw [firstEnv?_of_findIdx? hci hei] at h
      cases h
      rw [hn]
      dsimp only
      split_ifs with hne
      · rw [set_eq_giveEnv hci (set_eq_giveValue hei), hne]
        rfl
      · have hv : inits[ci]!.envs[ei]!.value = some n := by simpa using hne
        rw [giveEnv_of_value he hv, hv, bne_self_eq_false]
        rfl

theorem sdcMdm_outcome (h : sdcMdm inits = .ok (u, mdm, inits')) :
    (firstEnv? inits Image.sdc mdmEnv = none ∧ u = false ∧ mdm = none ∧ inits' = inits) ∨
    ∃ e n, firstEnv? inits Image.sdc mdmEnv = some e ∧ normalizeMdmList (e.value.getD "") = some n ∧
      u = (e.value != some n) ∧ mdm = some n ∧ inits' = giveEnv inits Image.sdc mdmEnv n := by
  cases hs : firstEnv? inits Image.sdc mdmEnv with
  | none =>
    rw [sdcMdm_of_none hs] at h
    cases h
    exact .inl ⟨rfl, rfl, rfl, rfl⟩
  | some e =>
    cases hn : normalizeMdmList (e.value.getD "") with
    | none =>
      obtain ⟨err, herr⟩ := sdcMdm_of_invalid hs hn
      rw [herr] at h
      cases h
    | some n =>
      rw [sdcMdm_of_valid hs hn] at h
      cases h
      exact .inr ⟨e, n, rfl, hn, rfl, rfl, rfl⟩

theorem sdcMdm_ok_iff (inits : List ContainerTemplate) :
    (∃ r, sdcMdm inits = .ok r) ↔ ∀ e ∈ firstEnv? inits Image.sdc mdmEnv, HoldsMdmList e := by
  cases hs : firstEnv? inits Image.sdc mdmEnv with
  | none => simp [sdcMdm_of_none hs]
  | some e =>
    cases hn : normalizeMdmList (e.value.getD "") with
    | none =>
      obtain ⟨err, herr⟩ := sdcMdm_of_invalid hs hn
      simp [herr, holdsMdmList_iff, hn]
    | some n => simp [sdcMdm_of_valid hs hn, holdsMdmList_iff, hn]

variable (h : sdcMdm inits = .ok (u, mdm, inits'))
include h

theorem sdcMdm_value :
    (firstEnv? inits' Image.sdc mdmEnv).map (·.value) =
      (firstEnv? inits Image.sdc mdmEnv).map (fun e => normalizeMdmList (e.value.getD "")) ∧
    mdm = (firstEnv? inits' Image.sdc mdmEnv).bind (·.value) := by
  rcases sdcMdm_outcome h with ⟨hs, -, rfl, rfl⟩ | ⟨e, n, hs, hn, -, rfl, rfl⟩
  · simp [hs]
  · simp [firstEnv?_giveEnv_of_some hs, hs, hn]

theorem sdcMdm_normalized : ∀ n, mdm = some n → normalizeMdmList n = some n := by
  rcases sdcMdm_outcome h with ⟨-, -, rfl, -⟩ | ⟨e, n, -, hn, -, rfl, -⟩
  · simp
  · rintro m ⟨⟩
    exact normalizeMdmList_normalized hn

theorem sdcMdm_frame : ∃ s : Option String, inits' = s.elim inits (giveEnv inits Image.sdc mdmEnv) := by
  rcases sdcMdm_outcome h with ⟨-, -, -, rfl⟩ | ⟨e, n, -, -, -, -, rfl⟩
  · exact ⟨none, rfl⟩
  · exact ⟨some n, rfl⟩

theorem sdcMdm_changed_iff : u = true ↔ inits' ≠ inits := by
  rcases sdcMdm_outcome h with ⟨-, rfl, -, rfl⟩ | ⟨e, n, hs, -, rfl, -, rfl⟩
  · simp
  · by_cases hv : e.value = some n
    · simp [hv, giveEnv_of_value hs hv]
    · -- the variable now holds the normalized list, which it did not before
      have hnew := firstEnv?_giveEnv_of_some (v := n) hs
      refine iff_of_true (by simpa using hv) fun heq => hv ?_
      rw [heq, hs] at hnew
      rw [Option.some.inj hnew]

end Sdc

/-! ## The SDC monitor -/

section Monitor

variable {sidecars sidecars' : List ContainerTemplate} {u : Bool} {mdm : Option String}
  {e : EnvVar} {k : ContainerTemplate} {x n : String}

theorem findIdx?_eq_none_of_find? {α : Type} {p : α → Bool} {l : List α} (h : l.find? p = none) :
    l.findIdx? p = none := by
  rw [List.findIdx?_eq_none_iff]
  simpa using List.find?_eq_none.1 h

theorem filter_ne_self : (some x).filter (· != x) = none := by
  simp [Option.filter_some]

theorem filter_ne_of_ne (h : n ≠ x) : (some n).filter (· != x) = some n := by
  simp [Option.filter_some, h]

theorem filter_nonempty (h : n ≠ "") : (some n).filter (!·.isEmpty) = some n := by
  simp [Option.filter_some, h]

theorem shareMdm_of_none (hk : sidecars.find? (·.name == Image.sdcMonitor) = none) :
    shareMdm sidecars mdm = .ok (false, sidecars) := by
  unfold shareMdm
  rw [findIdx?_eq_none_of_find? hk]
  rfl

theorem shareMdm_of_invalid (mdm : Option String) (h : firstEnv? sidecars Image.sdcMonitor mdmEnv = some e)
    (hn : normalizeMdmList (e.value.getD "") = none) : ∃ err, shareMdm sidecars mdm = .error err := by
  unfold shareMdm
  split
  · rename_i hmi
    simp [firstEnv?_of_container_none hmi] at h
  · rename_i mi hmi
    dsimp only
    split
    · rename_i ei hei
      rw [firstEnv?_of_findIdx? hmi hei] at h
      cases h
      rw [hn]
      exact ⟨_, rfl⟩
    · rename_i hei
      simp [firstEnv?_of_env_none hmi hei] at h

theorem shareMdm_of_valid (h : firstEnv? sidecars Image.sdcMonitor mdmEnv = some e)
    (hn : normalizeMdmList (e.value.getD "") = some x) :
    shareMdm sidecars mdm = .ok ((mdm.filter (· != x)).isSome,
      (mdm.filter (· != x)).elim sidecars (giveEnv sidecars Image.sdcMonitor mdmEnv)) := by
  unfold shareMdm
  split
  · rename_i hmi
    simp [firstEnv?_of_container_none hmi] at h
  · rename_i mi hmi
    dsimp only
    split
    · rename_i ei hei
      rw [firstEnv?_of_findIdx? hmi hei] at h
      cases h
      rw [hn]
      dsimp only
      split
      · rename_i m hm
        rw [hm, set_eq_giveEnv hmi (set_eq_giveValue hei)]
        rfl
      · rename_i hm
        rw [hm]
        rfl
    · rename_i hei
      simp [firstEnv?_of_env_none hmi hei] at h

theorem shareMdm_of_missing (hk : sidecars.find? (·.name == Image.sdcMonitor) = some k)
    (he : k.envs.find? (·.name == mdmEnv) = none) :
    shareMdm sidecars mdm = .ok ((mdm.filter (!·.isEmpty)).isSome,
      (mdm.filter (!·.isEmpty)).elim sidecars (giveEnv sidecars Image.sdcMonitor mdmEnv)) := by
  unfold shareMdm
  split
  · rename_i hmi
    simp [find?_eq_none_of_findIdx? hmi] at hk
  · rename_i mi hmi
    have hki : sidecars[mi]! = k := Option.some.inj ((find?_of_findIdx? hmi).symm.trans hk)
    dsimp only
    split
    · rename_i ei hei
      rw [hki] at hei
      simp [find?_of_findIdx? hei] at he
    · rename_i hei
      split
      · rename_i m hm
        rw [hm, set_eq_giveEnv hmi (setEnv_eq_giveValue hei)]
        rfl
      · rename_i hm
        rw [hm]
        rfl

theorem shareMdm_ok_iff (sidecars : List ContainerTemplate) (mdm : Option String) :
    (∃ r, shareMdm sidecars mdm = .ok r) ↔
      ∀ e ∈ firstEnv? sidecars Image.sdcMonitor mdmEnv, HoldsMdmList e := by
  rcases firstEnv?_cases sidecars Image.sdcMonitor mdmEnv with hk | ⟨e, he⟩ | ⟨k, hk, he⟩
  · simp [shareMdm_of_none hk, firstEnv?, hk]
  · cases hn : normalizeMdmList (e.value.getD "") with
    | none =>
      obtain ⟨err, herr⟩ := shareMdm_of_invalid mdm he hn
      simp [herr, he, holdsMdmList_iff, hn]
    | some x => simp [shareMdm_of_valid he hn, he, holdsMdmList_iff, hn]
  · simp [shareMdm_of_missing hk he, firstEnv?, hk, he]

variable (h : shareMdm sidecars mdm = .ok (u, sidecars'))
include h

theorem shareMdm_frame :
    ∃ m : Option String, sidecars' = m.elim sidecars (giveEnv sidecars Image.sdcMonitor mdmEnv) := by
  rcases firstEnv?_cases sidecars Image.sdcMonitor mdmEnv with hk | ⟨e, he⟩ | ⟨k, hk, he⟩
  · rw [shareMdm_of_none hk] at h
    cases h
    exact ⟨none, rfl⟩
  · cases hn : normalizeMdmList (e.value.getD "") with
    | none =>
      obtain ⟨err, herr⟩ := shareMdm_of_invalid mdm he hn
      rw [herr] at h
      cases h
    | some x =>
      rw [shareMdm_of_valid he hn] at h
      cases h
      exact ⟨_, rfl⟩
  · rw [shareMdm_of_missing hk he] at h
    cases h
    exact ⟨_, rfl⟩

theorem shareMdm_gives (hmdm : mdm = some n) (hn : normalizeMdmList n = some n)
    (hk : (sidecars.find? (·.name == Image.sdcMonitor)).isSome) :
    ∃ e, firstEnv? sidecars' Image.sdcMonitor mdmEnv = some e ∧
      normalizeMdmList (e.value.getD "") = some n := by
  subst hmdm
  rcases firstEnv?_cases sidecars Image.sdcMonitor mdmEnv with hk' | ⟨e, he⟩ | ⟨k, hk', he⟩
  · simp [hk'] at hk
  · cases hx : normalizeMdmList (e.value.getD "") with
    | none =>
      obtain ⟨err, herr⟩ := shareMdm_of_invalid (some n) he hx
      rw [herr] at h
      cases h
    | some x =>
      by_cases hnx : n = x
      · -- the monitor's own list already normalizes to the one given: it is kept
        subst hnx
        rw [shareMdm_of_valid he hx, filter_ne_self] at h
        cases h
        exact ⟨e, he, hx⟩
      · rw [shareMdm_of_valid he hx, filter_ne_of_ne hnx] at h
        cases h
        exact ⟨{ e with value := some n }, firstEnv?_giveEnv_of_some he, hn⟩
  · rw [shareMdm_of_missing hk' he, filter_nonempty (normalizeMdmList_ne_empty hn)] at h
    cases h
    exact ⟨EnvVar.plain mdmEnv n, firstEnv?_giveEnv_of_none hk' he, hn⟩

theorem shareMdm_changed_iff (hmdm : ∀ m, mdm = some m → normalizeMdmList m = some m) :
    u = true ↔ sidecars' ≠ sidecars := by
  rcases firstEnv?_cases sidecars Image.sdcMonitor mdmEnv with hk | ⟨e, he⟩ | ⟨k, hk, he⟩
  · rw [shareMdm_of_none hk] at h
    cases h
    simp
  · cases hx : normalizeMdmList (e.value.getD "") with
    | none =>
      obtain ⟨err, herr⟩ := shareMdm_of_invalid mdm he hx
      rw [herr] at h
      cases h
    | some x =>
      rcases mdm with _ | m
      · rw [shareMdm_of_valid he hx] at h
        cases h
        simp
      · by_cases hmx : m = x
        · subst hmx
          rw [shareMdm_of_valid he hx, filter_ne_self] at h
          cases h
          simp
        · rw [shareMdm_of_valid he hx, filter_ne_of_ne hmx] at h
          cases h
          -- the monitor's list normalized to another, so its value was not the list given
          refine iff_of_true rfl fun heq => hmx ?_
          rw [Option.elim_some] at heq
          have hnew := firstEnv?_giveEnv_of_some (v := m) he
          rw [heq, he] at hnew
          have hv : e.value = some m := by rw [Option.some.inj hnew]
          rw [hv, Option.getD_some, hmdm m rfl] at hx
          exact Option.some.inj hx
  · rcases mdm with _ | m
    · rw [shareMdm_of_missing hk he] at h
      cases h
      simp
    · rw [shareMdm_of_missing hk he, filter_nonempty (normalizeMdmList_ne_empty (hmdm m rfl))] at h
      cases h
      -- the monitor had no MDM variable and now has one
      refine iff_of_true rfl fun heq => ?_
      rw [Option.elim_some] at heq
      have hnew := firstEnv?_giveEnv_of_none (v := m) hk he
      rw [heq] at hnew
      simp [firstEnv?, hk, he] at hnew

end Monitor

/-! ## Both together -/

section Whole

variable {d d' : DriverSpec} {u : Bool}

theorem normalizeMdm_parts (h : normalizeMdm d = .ok (u, d')) :
    ∃ u₁ mdm inits u₂ sidecars, sdcMdm d.initContainers = .ok (u₁, mdm, inits) ∧
      shareMdm d.sideCars mdm = .ok (u₂, sidecars) ∧ u = (u₁ || u₂) ∧
      d' = { d with initContainers := inits, sideCars := sidecars } := by
  unfold normalizeMdm at h
  obtain ⟨⟨u₁, mdm, inits⟩, hsdc, h⟩ := bind_eq_ok.1 h
  obtain ⟨⟨u₂, sidecars⟩, hshare, h⟩ := bind_eq_ok.1 h
  cases h
  exact ⟨u₁, mdm, inits, u₂, sidecars, hsdc, hshare, rfl, rfl⟩

theorem normalizeMdm_ok_iff (d : DriverSpec) :
    (∃ r, normalizeMdm d = .ok r) ↔
      (∀ e ∈ sdcMdmEnv? d, HoldsMdmList e) ∧ ∀ e ∈ monitorMdmEnv? d, HoldsMdmList e := by
  constructor
  · rintro ⟨⟨u, d'⟩, h⟩
    obtain ⟨u₁, mdm, inits, u₂, sidecars, hsdc, hshare, -, -⟩ := normalizeMdm_parts h
    exact ⟨(sdcMdm_ok_iff _).1 ⟨_, hsdc⟩, (shareMdm_ok_iff _ mdm).1 ⟨_, hshare⟩⟩
  · rintro ⟨hsdc, hmonitor⟩
    obtain ⟨⟨u₁, mdm, inits⟩, hs⟩ := (sdcMdm_ok_iff _).2 hsdc
    obtain ⟨⟨u₂, sidecars⟩, hm⟩ := (shareMdm_ok_iff _ mdm).2 hmonitor
    refine ⟨(u₁ || u₂, { d with initContainers := inits, sideCars := sidecars }), ?_⟩
    unfold normalizeMdm
    dsimp only
    rw [hs]
    dsimp only [bind, Except.bind]
    rw [hm]
    rfl

theorem update_containers_eq_iff {inits sidecars : List ContainerTemplate} :
    { d with initContainers := inits, sideCars := sidecars } = d ↔
      inits = d.initContainers ∧ sidecars = d.sideCars := by
  cases d
  simp [and_comm]

variable (h : normalizeMdm d = .ok (u, d'))
include h

theorem normalizeMdm_sdc :
    (sdcMdmEnv? d').map (·.value) =
      (sdcMdmEnv? d).map fun e => normalizeMdmList (e.value.getD "") := by
  obtain ⟨u₁, mdm, inits, u₂, sidecars, hsdc, -, -, rfl⟩ := normalizeMdm_parts h
  exact (sdcMdm_value hsdc).1

theorem normalizeMdm_monitor (hs : (sdcMdmEnv? d).isSome)
    (hm : ∃ c ∈ d.sideCars, c.name = Image.sdcMonitor) :
    ∃ e, monitorMdmEnv? d' = some e ∧
      normalizeMdmList (e.value.getD "") = (sdcMdmEnv? d').bind (·.value) := by
  obtain ⟨u₁, mdm, inits, u₂, sidecars, hsdc, hshare, -, rfl⟩ := normalizeMdm_parts h
  -- the SDC has a variable, so its normalized list is handed to the monitor
  rcases sdcMdm_outcome hsdc with ⟨hnone, -⟩ | ⟨e, n, he, hn, -, rfl, rfl⟩
  · simp [sdcMdmEnv?, hnone] at hs
  · have hk : (d.sideCars.find? (·.name == Image.sdcMonitor)).isSome := by
      obtain ⟨c, hc, hname⟩ := hm
      exact List.find?_isSome.2 ⟨c, hc, by simp [hname]⟩
    obtain ⟨e', he', hn'⟩ := shareMdm_gives hshare rfl (normalizeMdmList_normalized hn) hk
    exact ⟨e', he', by simp [sdcMdmEnv?, firstEnv?_giveEnv_of_some he, hn']⟩

theorem normalizeMdm_frame : ∃ sdc monitor, d' = giveMdm d sdc monitor := by
  obtain ⟨u₁, mdm, inits, u₂, sidecars, hsdc, hshare, -, rfl⟩ := normalizeMdm_parts h
  obtain ⟨s, rfl⟩ := sdcMdm_frame hsdc
  obtain ⟨m, rfl⟩ := shareMdm_frame hshare
  exact ⟨s, m, rfl⟩

theorem normalizeMdm_changed_iff : u = true ↔ d' ≠ d := by
  obtain ⟨u₁, mdm, inits, u₂, sidecars, hsdc, hshare, rfl, rfl⟩ := normalizeMdm_parts h
  simp only [Bool.or_eq_true, sdcMdm_changed_iff hsdc,
    shareMdm_changed_iff hshare (sdcMdm_normalized hsdc), ne_eq, update_containers_eq_iff]
  tauto

end Whole

/-- Normalizing the MDM lists of a spec succeeds exactly when the SDC's and the monitor's
variables, where present, hold lists of IPv4 addresses. It then gives the SDC's variable its
normalized list and leaves the monitor, when there is one and the SDC has a list, with a
variable that normalizes to that list; it edits nothing but these two variables, and says the
spec changed exactly when it did. -/
theorem normalizeMdm_characterized (d : DriverSpec) :
    ((∃ r, normalizeMdm d = .ok r) ↔
      (∀ e ∈ sdcMdmEnv? d, HoldsMdmList e) ∧ ∀ e ∈ monitorMdmEnv? d, HoldsMdmList e) ∧
    ∀ u d', normalizeMdm d = .ok (u, d') →
      (sdcMdmEnv? d').map (·.value) =
        (sdcMdmEnv? d).map (fun e => normalizeMdmList (e.value.getD "")) ∧
      ((sdcMdmEnv? d).isSome → (∃ c ∈ d.sideCars, c.name = Image.sdcMonitor) →
        ∃ e, monitorMdmEnv? d' = some e ∧
          normalizeMdmList (e.value.getD "") = (sdcMdmEnv? d').bind (·.value)) ∧
      (∃ sdc monitor, d' = giveMdm d sdc monitor) ∧
      (u = true ↔ d' ≠ d) :=
  ⟨normalizeMdm_ok_iff d, fun _ _ h =>
    ⟨normalizeMdm_sdc h, normalizeMdm_monitor h, normalizeMdm_frame h, normalizeMdm_changed_iff h⟩⟩

end CsiOperator.Hooks
