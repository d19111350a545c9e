import Mathlib
import CsiOperator.Spec.Hooks
/-!
The family-specific initialization settles: applied again to a resource it produced, it
succeeds, says nothing changed, and gives the resource back.

A normalized MDM list normalizes to itself, since its entries are trimmed and hold no comma.
The SDC init container and the SDC monitor keep the index of their MDM variable when its
value is replaced or appended, so a second pass finds the normalized list where the first
left it. PowerMax classes that received a topology are skipped by a second pass. None of the
hooks touches more than the variables of containers and the topologies of storage classes.
-/

namespace CsiOperator

namespace Text

theorem trimBlankList_eq (cs : List Char) :
    trimBlankList cs = (cs.dropWhile isBlank).rdropWhile isBlank := rfl

theorem trimBlankList_sublist (cs : List Char) : (trimBlankList cs).Sublist cs :=
  (List.rdropWhile_prefix _ _).sublist.trans (List.dropWhile_sublist _)

theorem trimBlankList_trimBlankList (cs : List Char) :
    trimBlankList (trimBlankList cs) = trimBlankList cs := by
  rw [trimBlankList_eq, trimBlankList_eq]
  -- what is left after trimming the end still starts where the front-trimmed text does, on a
  -- character that is not blank, so trimming the front again drops nothing
  have hfront : ((cs.dropWhile isBlank).rdropWhile isBlank).dropWhile isBlank =
      (cs.dropWhile isBlank).rdropWhile isBlank := by
    refine List.dropWhile_eq_self_iff.2 fun hl => ?_
    have hne : (cs.dropWhile isBlank).rdropWhile isBlank ≠ [] := List.ne_nil_of_length_pos hl
    have hxne : cs.dropWhile isBlank ≠ [] := fun h => hne (by simp [h])
    have hhead : ((cs.dropWhile isBlank).rdropWhile isBlank)[0] = (cs.dropWhile isBlank).head hxne := by
      rw [← List.head_eq_getElem hne]
      exact (List.rdropWhile_prefix isBlank _).head hne
    rw [hhead]
    exact ne_true_of_eq_false (List.head_dropWhile_not isBlank hxne)
  rw [hfront, List.rdropWhile_idempotent]

theorem trimBlank_trimBlank (s : String) : trimBlank (trimBlank s) = trimBlank s := by
  simp [trimBlank, trimBlankList_trimBlankList]

end Text

theorem bind_eq_ok {ε α β : Type} {x : Except ε α} {f : α → Except ε β} {b : β} :
    x >>= f = .ok b ↔ ∃ a, x = .ok a ∧ f a = .ok b := by
  cases x <;> simp [bind, Except.bind]

theorem forM_ok_iff {ε α : Type} {l : List α} {f : α → Except ε Unit} :
    l.forM f = .ok () ↔ ∀ x ∈ l, f x = .ok () := by
  induction l with
  | nil => simp only [List.not_mem_nil, false_imp_iff, imp_true_iff, iff_true]; rfl
  | cons x rest ih =>
    rw [List.forall_mem_cons, ← ih]
    change (f x >>= fun _ => rest.forM f) = _ ↔ _
    cases f x <;> simp [bind, Except.bind]

/-- A container without its variables, which the generic defaults neither read nor write. -/
def ContainerTemplate.withoutEnvs (s : ContainerTemplate) : ContainerTemplate := { s with envs := [] }

@[simp] theorem ContainerTemplate.withoutEnvs_update (s : ContainerTemplate) (envs : List EnvVar) :
    ({ s with envs } : ContainerTemplate).withoutEnvs = s.withoutEnvs := rfl

/-- A storage class without its topology, which the generic defaults neither read nor write. -/
def StorageClassSpec.withoutTopologies (sc : StorageClassSpec) : StorageClassSpec :=
  { sc with allowedTopologies := none }

@[simp] theorem StorageClassSpec.withoutTopologies_update (sc : StorageClassSpec)
    (t : Option (List TopologyTerm)) :
    ({ sc with allowedTopologies := t } : StorageClassSpec).withoutTopologies = sc.withoutTopologies :=
  rfl

namespace Hooks

/-- A spec that differs from another at most in the variables of its containers and the
topologies of its storage classes, which is all the family hooks change. -/
structure Retouched (d d' : DriverSpec) : Prop where
  configVersion : d'.configVersion = d.configVersion
  sideCars : d'.sideCars.map ContainerTemplate.withoutEnvs = d.sideCars.map ContainerTemplate.withoutEnvs
  initContainers :
    d'.initContainers.map ContainerTemplate.withoutEnvs = d.initContainers.map ContainerTemplate.withoutEnvs
  storageClass : d'.storageClass.map StorageClassSpec.withoutTopologies =
    d.storageClass.map StorageClassSpec.withoutTopologies

theorem Retouched.refl (d : DriverSpec) : Retouched d d := ⟨rfl, rfl, rfl, rfl⟩

/-! ## MDM lists -/

theorem not_mem_of_mem_splitOn {α : Type} [BEq α] [LawfulBEq α] {a : α} {xs l : List α}
    (h : l ∈ xs.splitOn a) : a ∉ l := by
  induction xs generalizing l with
  | nil =>
    rw [List.splitOn_nil, List.mem_singleton] at h
    simp [h]
  | cons x xs ih =>
    rw [List.splitOn_cons_eq_if_modifyHead] at h
    split at h
    · rcases List.mem_cons.1 h with rfl | h
      · simp
      · exact ih h
    · rename_i hx
      obtain ⟨p, ps, hps⟩ := List.exists_cons_of_ne_nil (List.splitOn_ne_nil a xs)
      rw [hps, List.modifyHead_cons] at h
      rcases List.mem_cons.1 h with rfl | h
      · have hp : a ∉ p := ih (hps ▸ List.mem_cons_self)
        have hxa : x ≠ a := fun e => hx (by simp [e])
        simpa [Ne.symm hxa] using hp
      · exact ih (hps ▸ List.mem_cons_of_mem _ h)

theorem normalizeMdmList_normalized {value normalized : String}
    (h : normalizeMdmList value = some normalized) :
    normalizeMdmList normalized = some normalized := by
  dsimp only [normalizeMdmList] at h ⊢
  set entries := (value.toList.splitOn ',').map fun piece => Text.trimBlank (String.ofList piece)
    with hentries
  split_ifs at h with hall
  cases h
  -- each entry is a trimmed piece between commas
  have hentry : ∀ e ∈ entries, ',' ∉ e.toList ∧ Text.trimBlank e = e := by
    intro e he
    obtain ⟨piece, hpiece, rfl⟩ := List.mem_map.1 he
    refine ⟨fun hc => not_mem_of_mem_splitOn hpiece ((Text.trimBlankList_sublist piece).subset ?_),
      Text.trimBlank_trimBlank _⟩
    simpa [Text.trimBlank] using hc
  have hne : entries.map String.toList ≠ [] := by simp [hentries]
  have hsplit : (((",".intercalate entries).toList.splitOn ',').map fun piece =>
      Text.trimBlank (String.ofList piece)) = entries := by
    rw [String.toList_intercalate, show ",".toList = [','] from rfl,
      List.splitOn_intercalate ',' (by simpa using fun e he => (hentry e he).1) hne, List.map_map]
    conv_rhs => rw [← List.map_id entries]
    exact List.map_congr_left fun e he => by simp [(hentry e he).2]
  rw [hsplit, if_pos hall]

/-! ## Replacing one element of a list -/

section Replace

variable {α β : Type} {l : List α} {i : Nat} {a : α}

theorem map_set_of_eq {f : α → β} (hi : i < l.length) (h : f a = f l[i]) :
    (l.set i a).map f = l.map f := by
  calc (l.set i a).map f = (l.map f).set i (f l[i]) := by rw [List.map_set, h]
    _ = (l.set i l[i]).map f := by rw [List.map_set]
    _ = l.map f := by rw [List.set_getElem_self]

theorem findIdx?_set_of_eq {p : α → Bool} (hi : i < l.length) (h : p a = p l[i]) :
    (l.set i a).findIdx? p = l.findIdx? p := by
  have hmap : (l.set i a).map p = l.map p := map_set_of_eq hi h
  calc (l.set i a).findIdx? p = ((l.set i a).map p).findIdx? id := by rw [List.findIdx?_map]; rfl
    _ = (l.map p).findIdx? id := by rw [hmap]
    _ = l.findIdx? p := by rw [List.findIdx?_map]; rfl

theorem lt_of_findIdx?_eq_some {p : α → Bool} (h : l.findIdx? p = some i) : i < l.length :=
  (List.findIdx?_eq_some_iff_getElem.1 h).1

theorem map_set_getElem! [Inhabited α] {f : α → β} (hi : i < l.length) (h : f a = f l[i]!) :
    (l.set i a).map f = l.map f :=
  map_set_of_eq hi (by simpa [hi] using h)

theorem findIdx?_set_getElem! [Inhabited α] {p : α → Bool} (hi : i < l.length) (h : p a = p l[i]!) :
    (l.set i a).findIdx? p = l.findIdx? p :=
  findIdx?_set_of_eq hi (by simpa [hi] using h)

theorem getElem!_set_self [Inhabited α] (hi : i < l.length) : (l.set i a)[i]! = a := by
  simp [hi]

theorem getElem!_concat_length [Inhabited α] : (l ++ [a])[l.length]! = a := by
  simp

theorem findIdx?_append_singleton {p : α → Bool} (h : l.findIdx? p = none) (ha : p a = true) :
    (l ++ [a]).findIdx? p = some l.length := by
  simp [List.findIdx?_append, h, ha]

end Replace

/-! ## The SDC and its monitor -/

section Mdm

variable {inits inits' sidecars sidecars' : List ContainerTemplate} {u : Bool} {mdm : Option String}

theorem sdcMdm_cases (h : sdcMdm inits = .ok (u, mdm, inits')) :
    (u = false ∧ inits' = inits ∧ ∀ n, mdm = some n → normalizeMdmList n = some n) ∨
    ∃ ci ei n, inits.findIdx? (·.name == Image.sdc) = some ci ∧
      inits[ci]!.envs.findIdx? (·.name == mdmEnv) = some ei ∧
      normalizeMdmList n = some n ∧ mdm = some n ∧
      inits' = inits.set ci
        { inits[ci]! with envs := inits[ci]!.envs.set ei { inits[ci]!.envs[ei]! with value := some n } } := by
  unfold sdcMdm at h
  split at h
  · cases h
    exact .inl ⟨rfl, rfl, by simp⟩
  · rename_i ci hci
    dsimp only at h
    split at h
    · cases h
      exact .inl ⟨rfl, rfl, by simp⟩
    · rename_i ei hei
      split at h
      · cases h
      · rename_i n hn
        split_ifs at h
        · cases h
          exact .inr ⟨ci, ei, n, hci, hei, normalizeMdmList_normalized hn, rfl, rfl⟩
        · cases h
          exact .inl ⟨rfl, rfl, fun m hm => by cases hm; exact normalizeMdmList_normalized hn⟩

theorem shareMdm_cases (h : shareMdm sidecars mdm = .ok (u, sidecars')) :
    (u = false ∧ sidecars' = sidecars) ∨
    ∃ mi envs ei n, sidecars.findIdx? (·.name == Image.sdcMonitor) = some mi ∧
      envs.findIdx? (·.name == mdmEnv) = some ei ∧ envs[ei]!.value = some n ∧ mdm = some n ∧
      sidecars' = sidecars.set mi { sidecars[mi]! with envs } := by
  unfold shareMdm at h
  split at h
  · cases h
    exact .inl ⟨rfl, rfl⟩
  · rename_i mi hmi
    dsimp only at h
    split at h
    · rename_i ei hei
      split at h
      · cases h
      · rename_i existing hexisting
        split at h
        · rename_i m hm
          cases h
          obtain ⟨rfl, -⟩ := Option.filter_eq_some_iff.1 hm
          have hlt := lt_of_findIdx?_eq_some hei
          refine .inr ⟨mi, _, ei, m, hmi, ?_, by rw [getElem!_set_self hlt], rfl, rfl⟩
          rw [findIdx?_set_getElem! hlt, hei]
          rfl
        · cases h
          exact .inl ⟨rfl, rfl⟩
    · rename_i hnone
      split at h
      · rename_i m hm
        cases h
        obtain ⟨rfl, -⟩ := Option.filter_eq_some_iff.1 hm
        have happend : Layer.setEnv sidecars[mi]!.envs mdmEnv m =
            sidecars[mi]!.envs ++ [EnvVar.plain mdmEnv m] := by
          unfold Layer.setEnv
          rw [hnone]
        refine .inr ⟨mi, _, sidecars[mi]!.envs.length, m, hmi, ?_, ?_, rfl, rfl⟩
        · rw [happend, findIdx?_append_singleton hnone (by simp [EnvVar.plain])]
        · rw [happend, getElem!_concat_length]
          rfl
      · cases h
        exact .inl ⟨rfl, rfl⟩

theorem sdcMdm_settles (h : sdcMdm inits = .ok (u, mdm, inits')) :
    sdcMdm inits' = .ok (false, mdm, inits') := by
  rcases sdcMdm_cases h with ⟨rfl, rfl, -⟩ | ⟨ci, ei, n, hci, hei, hn, rfl, rfl⟩
  · exact h
  · have hci' := lt_of_findIdx?_eq_some hci
    have hei' := lt_of_findIdx?_eq_some hei
    unfold sdcMdm
    rw [findIdx?_set_getElem! hci', hci]
    · dsimp only
      rw [getElem!_set_self hci', findIdx?_set_getElem! hei', hei]
      · dsimp only
        rw [getElem!_set_self hei']
        simp [hn, pure, Except.pure]
      · rfl
    · rfl

theorem shareMdm_settles (h : shareMdm sidecars mdm = .ok (u, sidecars'))
    (hmdm : ∀ n, mdm = some n → normalizeMdmList n = some n) :
    shareMdm sidecars' mdm = .ok (false, sidecars') := by
  rcases shareMdm_cases h with ⟨rfl, rfl⟩ | ⟨mi, envs, ei, n, hmi, hei, hval, rfl, rfl⟩
  · exact h
  · have hmi' := lt_of_findIdx?_eq_some hmi
    unfold shareMdm
    rw [findIdx?_set_getElem! hmi', hmi]
    · dsimp only
      rw [getElem!_set_self hmi', hei]
      dsimp only
      have hsame : (some n).filter (· != n) = none := by simp [Option.filter_some]
      rw [hval, Option.getD_some, hmdm n rfl]
      simp only [hsame]
      rfl
    · rfl

theorem sdcMdm_withoutEnvs (h : sdcMdm inits = .ok (u, mdm, inits')) :
    inits'.map ContainerTemplate.withoutEnvs = inits.map ContainerTemplate.withoutEnvs := by
  rcases sdcMdm_cases h with ⟨-, rfl, -⟩ | ⟨ci, ei, n, hci, -, -, -, rfl⟩
  · rfl
  · exact map_set_getElem! (lt_of_findIdx?_eq_some hci) rfl

theorem shareMdm_withoutEnvs (h : shareMdm sidecars mdm = .ok (u, sidecars')) :
    sidecars'.map ContainerTemplate.withoutEnvs = sidecars.map ContainerTemplate.withoutEnvs := by
  rcases shareMdm_cases h with ⟨-, rfl⟩ | ⟨mi, envs, ei, n, hmi, -, -, -, rfl⟩
  · rfl
  · exact map_set_getElem! (lt_of_findIdx?_eq_some hmi) rfl

end Mdm

theorem normalizeMdm_settles {d d' : DriverSpec} {u : Bool} (h : normalizeMdm d = .ok (u, d')) :
    normalizeMdm d' = .ok (false, d') ∧ Retouched d d' := by
  unfold normalizeMdm at h
  obtain ⟨⟨u₁, mdm, inits⟩, hsdc, h⟩ := bind_eq_ok.1 h
  obtain ⟨⟨u₂, sidecars⟩, hshare, h⟩ := bind_eq_ok.1 h
  cases h
  have hmdm := (sdcMdm_cases hsdc).elim (fun h => h.2.2) fun ⟨_, _, n, _, _, hn, hm, _⟩ m hm' =>
    (Option.some.inj (hm.symm.trans hm')) ▸ hn
  refine ⟨?_, ⟨rfl, shareMdm_withoutEnvs hshare, sdcMdm_withoutEnvs hsdc, rfl⟩⟩
  unfold normalizeMdm
  dsimp only
  rw [sdcMdm_settles hsdc]
  dsimp only [bind, Except.bind]
  rw [shareMdm_settles hshare hmdm]
  rfl

/-! ## PowerMax topologies -/

theorem pinClass_pinClass (name name' : String) (sc : StorageClassSpec) :
    pinClass name' (pinClass name sc).2 = (false, (pinClass name sc).2) := by
  unfold pinClass
  cases hsym : sc.parameters.lookup symIdParam with
  | none => simp [hsym]
  | some symId =>
    by_cases hpin : (sc.allowedTopologies.isNone && sc.volumeBindingMode == waitForFirstConsumer) = true
    · simp [hsym, hpin]
    · simp [hsym, hpin]

theorem pinClass_withoutTopologies (name : String) (sc : StorageClassSpec) :
    (pinClass name sc).2.withoutTopologies = sc.withoutTopologies := by
  unfold pinClass
  split
  · rfl
  · split <;> rfl

theorem defaultPowermaxTopologies_settles (d : DriverSpec) (ns ns' : String) :
    defaultPowermaxTopologies (defaultPowermaxTopologies d ns).2 ns' =
      (false, (defaultPowermaxTopologies d ns).2) ∧
    Retouched d (defaultPowermaxTopologies d ns).2 := by
  refine ⟨?_, ⟨rfl, rfl, rfl, ?_⟩⟩
  · simp [defaultPowermaxTopologies, Function.comp_def, pinClass_pinClass]
  · simp [defaultPowermaxTopologies, Function.comp_def, pinClass_withoutTopologies]

/-! ## By family -/

theorem initializeDriverSpec_settles {r r' : DriverResource} {u : Bool}
    (h : initializeDriverSpec r = .ok (u, r')) :
    initializeDriverSpec r' = .ok (false, r') ∧ ∃ d, r' = { r with spec := d } ∧ Retouched r.spec d := by
  have h₀ := h
  unfold initializeDriverSpec at h
  split at h
  · rename_i hfamily
    dsimp only at h
    split at h
    · cases h
      exact ⟨h₀, r.spec, rfl, .refl _⟩
    · rename_i hfirst
      cases h
      refine ⟨?_, _, rfl, (defaultPowermaxTopologies_settles r.spec (r.namespace?.getD "") "").2⟩
      unfold initializeDriverSpec
      dsimp only
      rw [hfamily, if_neg hfirst]
      dsimp only
      rw [(defaultPowermaxTopologies_settles _ _ _).1]
  · rename_i hfamily
    obtain ⟨⟨u', d⟩, hnormal, h⟩ := bind_eq_ok.1 h
    cases h
    obtain ⟨hagain, hretouched⟩ := normalizeMdm_settles hnormal
    refine ⟨?_, d, rfl, hretouched⟩
    unfold initializeDriverSpec
    dsimp only
    rw [hfamily, hagain]
    rfl
  · cases h
    exact ⟨h₀, r.spec, rfl, .refl _⟩

end Hooks

end CsiOperator
