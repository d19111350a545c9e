import Mathlib
import CsiOperator.Proofs.Annotations
import CsiOperator.Proofs.FamilyHooks
/-!
Initializing a driver resource settles it: once the configuration's defaults and the family's
hooks have been applied, applying them again succeeds, reports no change, and gives the same
resource back.

The argument goes through a fixed point of the defaults, `Initialized`: annotations sorted by
key that record the configuration version and the image of every sidecar the configuration
knows, sidecars and init containers whose images and pull policies are filled, every mandatory
sidecar present (or without a default image), and storage classes whose expansion and binding
mode are filled. A first initialization reaches it, the hooks keep it, and from it the defaults
change nothing. Since the annotations record the configuration version, the second pass is
never an upgrade.
-/

namespace CsiOperator.Defaults

open Reader Hooks

/-! ## Annotation keys -/

theorem toList_imageKey (name : String) :
    (imageKey name).toList = "storage.dell.com/".toList ++ name.toList ++ ".Image".toList := by
  unfold imageKey
  rw [String.toList_append, String.toList_append]

theorem toList_imageDefaultKey (name : String) :
    (imageDefaultKey name).toList =
      "storage.dell.com/".toList ++ name.toList ++ ".Image.IsDefault".toList := by
  unfold imageDefaultKey
  rw [String.toList_append, String.toList_append]

theorem imageKey_injective : Function.Injective imageKey := fun a b h => by
  have hlist := congrArg String.toList h
  rw [toList_imageKey, toList_imageKey] at hlist
  exact String.toList_inj.1 (List.append_cancel_left (List.append_cancel_right hlist))

theorem imageDefaultKey_injective : Function.Injective imageDefaultKey := fun a b h => by
  have hlist := congrArg String.toList h
  rw [toList_imageDefaultKey, toList_imageDefaultKey] at hlist
  exact String.toList_inj.1 (List.append_cancel_left (List.append_cancel_right hlist))

/-! The three kinds of key end in different characters. -/

theorem last_imageKey (name : String) : (imageKey name).toList.getLast? = some 'e' := by
  rw [toList_imageKey, List.getLast?_append_of_ne_nil _ (by decide)]
  rfl

theorem last_imageDefaultKey (name : String) : (imageDefaultKey name).toList.getLast? = some 't' := by
  rw [toList_imageDefaultKey, List.getLast?_append_of_ne_nil _ (by decide)]
  rfl

theorem last_configVersionKey : configVersionKey.toList.getLast? = some 'n' := rfl

theorem imageKey_ne_imageDefaultKey (a b : String) : imageKey a ≠ imageDefaultKey b := fun h => by
  simpa [last_imageKey, last_imageDefaultKey] using congrArg (·.toList.getLast?) h

theorem imageKey_ne_configVersionKey (a : String) : imageKey a ≠ configVersionKey := fun h => by
  simpa [last_imageKey, last_configVersionKey] using congrArg (·.toList.getLast?) h

theorem imageDefaultKey_ne_configVersionKey (a : String) : imageDefaultKey a ≠ configVersionKey :=
  fun h => by simpa [last_imageDefaultKey, last_configVersionKey] using congrArg (·.toList.getLast?) h

/-! ## What the defaults record and fill -/

/-- The annotations that record a sidecar's image: whether it is the default image, and the
image itself. Sidecars the configuration does not know are not recorded. -/
def imageRecord (c : ResolvedConfig) (s : ContainerTemplate) : List (String × String) :=
  if (c.driver.sidecar? s.name).isNone then []
  else [(imageDefaultKey s.name, if some s.image = (c.imageTag s.name).toOption then "true" else "false"),
    (imageKey s.name, s.image)]

theorem imageRecord_withoutEnvs (c : ResolvedConfig) (s : ContainerTemplate) :
    imageRecord c s.withoutEnvs = imageRecord c s := rfl

theorem key_of_mem_imageRecords {c : ResolvedConfig} {l : List ContainerTemplate} {k : String}
    (h : k ∈ (l.flatMap (imageRecord c)).map Prod.fst) :
    ∃ s ∈ l, k = imageDefaultKey s.name ∨ k = imageKey s.name := by
  obtain ⟨⟨k, v⟩, hkv, rfl⟩ := List.mem_map.1 h
  obtain ⟨s, hs, hrecord⟩ := List.mem_flatMap.1 hkv
  refine ⟨s, hs, ?_⟩
  unfold imageRecord at hrecord
  split at hrecord
  · cases hrecord
  · simp only [List.mem_cons, Prod.mk.injEq, List.not_mem_nil, or_false] at hrecord
    rcases hrecord with ⟨rfl, -⟩ | ⟨rfl, -⟩
    · exact .inl rfl
    · exact .inr rfl

/-- A sidecar the defaults leave as it is: if the configuration knows it, its default image is
available, its image is empty only when the default is, and it has a pull policy. -/
def SidecarSettled (c : ResolvedConfig) (s : ContainerTemplate) : Prop :=
  (c.driver.sidecar? s.name).isSome = true →
    (∃ image, c.imageTag s.name = .ok image ∧ (s.image.isEmpty = true → image = s.image)) ∧
      s.imagePullPolicy.isEmpty = false

/-- An init container the defaults leave as it is: an empty image is the default one, and it
has a pull policy. -/
def InitSettled (c : ResolvedConfig) (i : ContainerTemplate) : Prop :=
  (i.image.isEmpty = true → c.imageTag i.name = .ok i.image) ∧ i.imagePullPolicy.isEmpty = false

/-- A storage class the defaults leave as it is: no expansion only when the configuration gives
none, and a binding mode. -/
def ClassSettled (c : ResolvedConfig) (sc : StorageClassSpec) : Prop :=
  (sc.allowVolumeExpansion = none →
    (c.driver.storageClassAttr? "allowVolumeExpansion").bind Json.bool? = none) ∧
  sc.volumeBindingMode.isEmpty = false

/-- A spec and its annotations that the defaults of a configuration leave as they are. -/
structure Initialized (c : ResolvedConfig) (as : Annotations) (d : DriverSpec) : Prop where
  sorted : KeySorted as
  version : as.lookup configVersionKey = some c.configVersion
  versionSet : c.configVersion.isEmpty = false
  specVersion : d.configVersion = c.configVersion
  sidecars : ∀ s ∈ d.sideCars, SidecarSettled c s
  recorded : Records as (d.sideCars.flatMap (imageRecord c))
  mandatory : ∀ m ∈ c.driver.mandatorySidecars,
    d.sideCars.any (·.name == m) = true ∨ ∃ e, c.imageTag m = .error e
  inits : ∀ i ∈ d.initContainers, InitSettled c i
  classes : ∀ sc ∈ d.storageClass, ClassSettled c sc

/-! ## From a settled spec the defaults change nothing -/

section Settled

variable {c : ResolvedConfig}

theorem defaultSidecar_settled {s : ContainerTemplate} (hs : SidecarSettled c s) (as : Annotations) :
    defaultSidecar c false as s = .ok (s, annotateAll as (imageRecord c s)) := by
  unfold defaultSidecar imageRecord
  by_cases hknown : (c.driver.sidecar? s.name).isNone = true
  · simp [hknown, pure, Except.pure]
  · obtain ⟨⟨image, htag, hempty⟩, hpolicy⟩ := hs (by simpa [Option.isSome_iff_ne_none] using hknown)
    simp only [hknown, htag]
    by_cases hemp : s.image.isEmpty = true
    · obtain rfl := hempty hemp
      simp [hemp, hpolicy, markDefault, annotateAll, Except.toOption, pure, Except.pure, bind, Except.bind]
    · by_cases hsame : s.image = image
      · subst hsame
        simp [hemp, hpolicy, markDefault, annotateAll, Except.toOption, pure, Except.pure, bind,
          Except.bind]
      · simp [hemp, hsame, hpolicy, annotateAll, Except.toOption, pure, Except.pure, bind,
          Except.bind]

theorem foldlM_settled
    {f : List ContainerTemplate × Annotations → ContainerTemplate →
      Outcome (List ContainerTemplate × Annotations)} {l : List ContainerTemplate}
    (hf : ∀ acc as s, s ∈ l → f (acc, as) s = .ok (acc ++ [s], annotateAll as (imageRecord c s)))
    (acc : List ContainerTemplate) (as : Annotations) :
    l.foldlM f (acc, as) = .ok (acc ++ l, annotateAll as (l.flatMap (imageRecord c))) := by
  induction l generalizing acc as with
  | nil => simp [pure, Except.pure]
  | cons s rest ih =>
    rw [List.foldlM_cons, hf acc as s List.mem_cons_self]
    simp only [bind, Except.bind]
    rw [ih fun acc as s hs => hf acc as s (List.mem_cons_of_mem _ hs)]
    simp

theorem addMandatory_present {acc : List ContainerTemplate} {m : String}
    (h : acc.any (·.name == m) = true ∨ ∃ e, c.imageTag m = .error e) (as : Annotations) :
    addMandatory c (acc, as) m = (acc, as) := by
  unfold addMandatory
  split_ifs with hany
  · rfl
  · obtain ⟨e, he⟩ := h.resolve_left hany
    simp [he]

theorem foldl_addMandatory_present {names : List String} {acc : List ContainerTemplate}
    (h : ∀ m ∈ names, acc.any (·.name == m) = true ∨ ∃ e, c.imageTag m = .error e)
    (as : Annotations) :
    names.foldl (addMandatory c) (acc, as) = (acc, as) := by
  induction names with
  | nil => rfl
  | cons m rest ih =>
    rw [List.foldl_cons, addMandatory_present (h m List.mem_cons_self),
      ih fun m hm => h m (List.mem_cons_of_mem _ hm)]

theorem defaultSidecars_settled {as : Annotations} {d : DriverSpec} (h : Initialized c as d) :
    defaultSidecars d as c false = .ok (d, as) := by
  unfold defaultSidecars
  rw [foldlM_settled (c := c)]
  · simp only [bind, Except.bind, List.nil_append, annotateAll_of_records h.sorted h.recorded,
      foldl_addMandatory_present h.mandatory]
    rfl
  · intro acc as s hs
    dsimp only
    rw [defaultSidecar_settled (h.sidecars s hs)]
    rfl

theorem mapM_eq_ok_self {ε α : Type} {f : α → Except ε α} {l : List α} (h : ∀ x ∈ l, f x = .ok x) :
    l.mapM f = .ok l := by
  induction l with
  | nil => rfl
  | cons x rest ih =>
    simp [List.mapM_cons, h x List.mem_cons_self, ih fun y hy => h y (List.mem_cons_of_mem _ hy),
      bind, Except.bind, pure, Except.pure]

theorem defaultInitContainers_settled {d : DriverSpec} (h : ∀ i ∈ d.initContainers, InitSettled c i) :
    defaultInitContainers d c = .ok d := by
  unfold defaultInitContainers
  rw [mapM_eq_ok_self]
  · rfl
  · intro i hi
    obtain ⟨himage, hpolicy⟩ := h i hi
    by_cases hemp : i.image.isEmpty = true
    · simp [hemp, himage hemp, hpolicy, bind, Except.bind, pure, Except.pure]
    · simp [hemp, hpolicy, bind, Except.bind, pure, Except.pure]

theorem defaultStorageClasses_settled {d : DriverSpec} (h : ∀ sc ∈ d.storageClass, ClassSettled c sc) :
    defaultStorageClasses d c false = d := by
  unfold defaultStorageClasses
  dsimp only
  rw [List.map_congr_left (g := id) fun sc hsc => ?_, List.map_id]
  -- each class keeps its fields: an absent expansion is the configuration's absent one
  obtain ⟨hexpansion, hmode⟩ := h sc hsc
  obtain ⟨name, isDefault, reclaimPolicy, parameters, expansion, mode, topologies⟩ := sc
  cases expansion with
  | none => simp [hexpansion rfl, hmode]
  | some b => simp [hmode]

theorem isUpgrade_of_version {as : Annotations} (h : as.lookup configVersionKey = some c.configVersion) :
    isUpgrade as c = false := by
  cases as with
  | nil => cases h
  | cons p rest => simp [isUpgrade, h]

theorem annotateConfigVersion_of_lookup {as : Annotations} {v : String}
    (h : as.lookup configVersionKey = some v) (hv : v.isEmpty = false) :
    annotateConfigVersion as v = .ok (false, as) := by
  simp [annotateConfigVersion, hv, h]

theorem initializeSpec_settled {r : DriverResource} {as : Annotations} (h : Initialized c as r.spec)
    (hstored : r.metadata.get? "annotations" = some (Json.strMap as)) :
    initializeSpec r c = .ok (false, { r with
      metadata := r.metadata.set "annotations" (Json.strMap as)
      status := r.status.map fun s => { s with lastUpdate := { s.lastUpdate with errorMessage := "" } } }) := by
  unfold initializeSpec
  rw [annotationsOf_of_get? h.sorted hstored]
  simp only [Option.getD_some, isUpgrade_of_version h.version]
  rw [defaultSidecars_settled h]
  simp only [bind, Except.bind]
  rw [defaultInitContainers_settled h.inits]
  simp only [defaultStorageClasses_settled h.classes]
  rw [h.specVersion, annotateConfigVersion_of_lookup h.version h.versionSet]
  simp [pure, Except.pure]

end Settled

/-! ## A first initialization settles the spec -/

section First

variable {c : ResolvedConfig}

theorem defaultSidecar_records {u : Bool} {as as' : Annotations} {s s' : ContainerTemplate}
    (h : defaultSidecar c u as s = .ok (s', as')) :
    SidecarSettled c s' ∧ as' = annotateAll as (imageRecord c s') := by
  unfold defaultSidecar at h
  by_cases hknown : (c.driver.sidecar? s.name).isNone = true
  · simp only [hknown, if_true, pure, Except.pure, Except.ok.injEq, Prod.mk.injEq] at h
    obtain ⟨rfl, rfl⟩ := h
    refine ⟨fun hsome => ?_, by simp [imageRecord, hknown]⟩
    simp [Option.isSome_iff_ne_none, Option.isNone_iff_eq_none] at hsome hknown
    exact absurd hknown hsome
  · cases htag : c.imageTag s.name with
    | error e => simp [hknown, htag, bind, Except.bind] at h
    | ok image =>
      simp only [hknown, htag, Bool.false_eq_true, if_false, bind, Except.bind, pure, Except.pure,
        Except.ok.injEq] at h
      have hsome : (c.driver.sidecar? s.name).isSome = true := by
        simpa [Option.isSome_iff_ne_none] using hknown
      have hpolicy : pullPolicy.isEmpty = false := by decide
      -- four ways to fill the image, each with or without a pull policy to fill
      split_ifs at h with hemp hdiff hup hpp <;> obtain ⟨rfl, rfl⟩ := Prod.mk.inj h <;>
        refine ⟨fun _ => ⟨⟨image, htag, fun hempty => ?_⟩, ?_⟩, ?_⟩ <;>
        simp_all [imageRecord, markDefault, annotateAll, Except.toOption]

theorem foldlM_records
    {f : List ContainerTemplate × Annotations → ContainerTemplate →
      Outcome (List ContainerTemplate × Annotations)} {l : List ContainerTemplate}
    (hf : ∀ acc as s r, f (acc, as) s = .ok r →
      ∃ s', SidecarSettled c s' ∧ r = (acc ++ [s'], annotateAll as (imageRecord c s')))
    {acc : List ContainerTemplate} {as : Annotations} {r : List ContainerTemplate × Annotations}
    (h : l.foldlM f (acc, as) = .ok r) :
    ∃ l', (∀ s ∈ l', SidecarSettled c s) ∧ r = (acc ++ l', annotateAll as (l'.flatMap (imageRecord c))) := by
  induction l generalizing acc as with
  | nil =>
    cases h
    exact ⟨[], by simp, by simp⟩
  | cons s rest ih =>
    obtain ⟨b, hstep, hrest⟩ := bind_eq_ok.1 h
    obtain ⟨s', hs', rfl⟩ := hf acc as s b hstep
    obtain ⟨l', hl', rfl⟩ := ih hrest
    refine ⟨s' :: l', ?_, by simp⟩
    intro x hx
    rcases List.mem_cons.1 hx with rfl | hx
    · exact hs'
    · exact hl' x hx

theorem recordKeys_apart {n n' k : String} (hne : n ≠ n')
    (hk : k = imageDefaultKey n ∨ k = imageKey n) : k ≠ imageDefaultKey n' ∧ k ≠ imageKey n' := by
  rcases hk with rfl | rfl
  · exact ⟨fun h => hne (imageDefaultKey_injective h), fun h => imageKey_ne_imageDefaultKey _ _ h.symm⟩
  · exact ⟨imageKey_ne_imageDefaultKey _ _, fun h => hne (imageKey_injective h)⟩

/-- Mandatory sidecars added after `S` to annotations that were `as₀`: the added sidecars are
settled and named apart from `S`, their images are recorded, and no other annotation changed. -/
structure Appended (c : ResolvedConfig) (S : List ContainerTemplate) (as₀ : Annotations)
    (M : List ContainerTemplate) (as : Annotations) : Prop where
  settled : ∀ s ∈ M, SidecarSettled c s
  fresh : ∀ s ∈ M, s.name ∉ S.map (·.name)
  sorted : KeySorted as
  recorded : Records as (M.flatMap (imageRecord c))
  frame : ∀ k, (∀ s ∈ M, k ≠ imageDefaultKey s.name ∧ k ≠ imageKey s.name) → as.lookup k = as₀.lookup k

theorem Appended.start {S : List ContainerTemplate} {as : Annotations} (hs : KeySorted as) :
    Appended c S as [] as :=
  ⟨by simp, by simp, hs, by simp [Records], fun _ _ => rfl⟩

theorem addMandatory_appended {S M : List ContainerTemplate} {as₀ as : Annotations}
    (h : Appended c S as₀ M as) (m : String) :
    ∃ M' as', addMandatory c (S ++ M, as) m = (S ++ M', as') ∧ Appended c S as₀ M' as' ∧
      M <+: M' ∧ ((S ++ M').any (·.name == m) = true ∨ ∃ e, c.imageTag m = .error e) := by
  unfold addMandatory
  split_ifs with hany
  · exact ⟨M, as, rfl, h, List.prefix_refl _, .inl hany⟩
  · cases htag : c.imageTag m with
    | error e => exact ⟨M, as, rfl, h, List.prefix_refl _, .inr ⟨e, rfl⟩⟩
    | ok image =>
      have hnames : ∀ s ∈ S ++ M, s.name ≠ m := fun s hs hsm =>
        hany (List.any_eq_true.2 ⟨s, hs, by simp [hsm]⟩)
      -- the new sidecar's keys are apart from those of the sidecars added before it
      have hkept : ∀ k ∈ (M.flatMap (imageRecord c)).map Prod.fst,
          k ≠ imageDefaultKey m ∧ k ≠ imageKey m := fun k hk => by
        obtain ⟨s, hs, hks⟩ := key_of_mem_imageRecords hk
        exact recordKeys_apart (hnames s (List.mem_append_right _ hs)) hks
      refine ⟨M ++ [{ name := m, image, imagePullPolicy := pullPolicy }],
        markDefault as { name := m, image, imagePullPolicy := pullPolicy }, by simp, ⟨?_, ?_, ?_, ?_, ?_⟩,
        List.prefix_append _ _, .inl (by simp)⟩
      · intro s hs
        rcases List.mem_append.1 hs with hs | hs
        · exact h.settled s hs
        · obtain rfl := List.mem_singleton.1 hs
          exact fun _ => ⟨⟨image, htag, fun _ => rfl⟩, (by decide : pullPolicy.isEmpty = false)⟩
      · intro s hs
        rcases List.mem_append.1 hs with hs | hs
        · exact h.fresh s hs
        · obtain rfl := List.mem_singleton.1 hs
          simpa using fun s hs => hnames s (List.mem_append_left _ hs)
      · exact keySorted_annotate (keySorted_annotate h.sorted _ _) _ _
      · rw [List.flatMap_append]
        refine (h.recorded.frame fun k hk => ?_).append ?_
        · simp [markDefault, (hkept k hk).1, (hkept k hk).2]
        · intro k v hk
          have hne : imageDefaultKey m ≠ imageKey m := (imageKey_ne_imageDefaultKey m m).symm
          simp only [imageRecord, List.flatMap_cons, List.flatMap_nil, List.append_nil, htag] at hk
          split at hk
          · cases hk
          · by_cases hd : k = imageKey m <;> by_cases hd' : k = imageDefaultKey m <;>
              simp_all [markDefault, Except.toOption, lookup_cons_ite]
      · intro k hk
        have hm := hk _ (List.mem_append_right _ (List.mem_singleton_self _))
        simp only [markDefault, lookup_annotate, if_neg hm.1, if_neg hm.2]
        exact h.frame k fun s hs => hk s (List.mem_append_left _ hs)

theorem foldl_addMandatory_appended {S M : List ContainerTemplate} {as₀ as : Annotations}
    (names : List String) (h : Appended c S as₀ M as) :
    ∃ M' as', names.foldl (addMandatory c) (S ++ M, as) = (S ++ M', as') ∧ Appended c S as₀ M' as' ∧
      M <+: M' ∧ ∀ m ∈ names, (S ++ M').any (·.name == m) = true ∨ ∃ e, c.imageTag m = .error e := by
  induction names generalizing M as with
  | nil => exact ⟨M, as, rfl, h, List.prefix_refl _, by simp⟩
  | cons m rest ih =>
    obtain ⟨M₁, as₁, hstep, h₁, hpre₁, hm⟩ := addMandatory_appended h m
    obtain ⟨M₂, as₂, hrun, h₂, hpre₂, hrest⟩ := ih h₁
    refine ⟨M₂, as₂, by rw [List.foldl_cons, hstep, hrun], h₂, hpre₁.trans hpre₂, ?_⟩
    intro m' hm'
    rcases List.mem_cons.1 hm' with rfl | hm'
    · -- the sidecars only grow, so one present after its step stays present
      refine hm.imp_left fun hany => ?_
      obtain ⟨s, hs, hname⟩ := List.any_eq_true.1 hany
      exact List.any_eq_true.2 ⟨s, (List.prefix_append_right_inj S |>.2 hpre₂).subset hs, hname⟩
    · exact hrest m' hm'

theorem defaultSidecars_records {d d' : DriverSpec} {as as' : Annotations} {u : Bool}
    (hs : KeySorted as) (h : defaultSidecars d as c u = .ok (d', as')) :
    d' = { d with sideCars := d'.sideCars } ∧ KeySorted as' ∧
      (∀ s ∈ d'.sideCars, SidecarSettled c s) ∧ Records as' (d'.sideCars.flatMap (imageRecord c)) ∧
      ∀ m ∈ c.driver.mandatorySidecars,
        d'.sideCars.any (·.name == m) = true ∨ ∃ e, c.imageTag m = .error e := by
  unfold defaultSidecars at h
  obtain ⟨⟨S, as₁⟩, hloop, h⟩ := bind_eq_ok.1 h
  obtain ⟨S', hS', hr⟩ := foldlM_records (c := c) (fun acc as s r hr => by
    obtain ⟨⟨s', as'⟩, hside, hr⟩ := bind_eq_ok.1 hr
    cases hr
    obtain ⟨hsettled, rfl⟩ := defaultSidecar_records hside
    exact ⟨s', hsettled, rfl⟩) hloop
  cases hr
  obtain ⟨M, as₂, hfold, happ, -, hmand⟩ := foldl_addMandatory_appended (S := S') (M := [])
    c.driver.mandatorySidecars (Appended.start (keySorted_annotateAll hs _))
  rw [List.append_nil] at hfold
  dsimp only at h
  rw [List.nil_append, hfold] at h
  cases h
  refine ⟨rfl, happ.sorted, ?_, ?_, hmand⟩
  · intro s hs
    rcases List.mem_append.1 hs with hs | hs
    · exact hS' s hs
    · exact happ.settled s hs
  · rw [List.flatMap_append]
    refine ((records_annotateAll as _).frame fun k hk => ?_).append happ.recorded
    -- the sidecars filled first are named apart from the mandatory ones added after them
    obtain ⟨s₀, hs₀, hk₀⟩ := key_of_mem_imageRecords hk
    exact happ.frame k fun s hs => recordKeys_apart
      (fun hname => happ.fresh s hs (hname ▸ List.mem_map_of_mem hs₀)) hk₀

theorem forall_of_mapM_eq_ok {ε α β : Type} {f : α → Except ε β} {P : β → Prop}
    (hf : ∀ x y, f x = .ok y → P y) {l : List α} {l' : List β} (h : l.mapM f = .ok l') :
    ∀ y ∈ l', P y := by
  induction l generalizing l' with
  | nil =>
    cases h
    simp
  | cons x rest ih =>
    rw [List.mapM_cons] at h
    obtain ⟨y, hy, h⟩ := bind_eq_ok.1 h
    obtain ⟨ys, hys, h⟩ := bind_eq_ok.1 h
    cases h
    intro z hz
    rcases List.mem_cons.1 hz with rfl | hz
    · exact hf x z hy
    · exact ih hys z hz

theorem defaultInitContainers_records {d d' : DriverSpec} (h : defaultInitContainers d c = .ok d') :
    d' = { d with initContainers := d'.initContainers } ∧ ∀ i ∈ d'.initContainers, InitSettled c i := by
  unfold defaultInitContainers at h
  obtain ⟨inits, hmap, h⟩ := bind_eq_ok.1 h
  cases h
  refine ⟨rfl, forall_of_mapM_eq_ok (fun i i' hi => ?_) hmap⟩
  have hpolicy : pullPolicy.isEmpty = false := by decide
  dsimp only at hi
  split_ifs at hi with hemp
  · obtain ⟨tag, htag, hi⟩ := bind_eq_ok.1 hi
    simp only [pure, Except.pure, bind, Except.bind, Except.ok.injEq] at hi
    subst hi
    split_ifs <;> exact ⟨fun _ => htag, by simp_all⟩
  · simp only [pure, Except.pure, bind, Except.bind, Except.ok.injEq] at hi
    subst hi
    split_ifs <;> exact ⟨fun h => absurd h hemp, by simp_all⟩

theorem defaultStorageClasses_records (d : DriverSpec) (u : Bool) :
    ∀ sc ∈ (defaultStorageClasses d c u).storageClass, ClassSettled c sc := by
  simp only [defaultStorageClasses, List.mem_map]
  rintro _ ⟨sc, -, rfl⟩
  have hmode : volumeBindingMode.isEmpty = false := by decide
  constructor
  · split_ifs <;> (try split) <;> simp_all
  · split_ifs <;> simp_all

theorem annotateConfigVersion_records {as as' : Annotations} {v : String} {b : Bool}
    (hs : KeySorted as) (h : annotateConfigVersion as v = .ok (b, as')) :
    v.isEmpty = false ∧ as' = annotate as configVersionKey v := by
  unfold annotateConfigVersion at h
  by_cases hv : v.isEmpty = true
  · simp [hv] at h
  · rw [if_neg hv] at h
    refine ⟨by simpa using hv, ?_⟩
    split at h
    · rename_i current hcurrent
      split_ifs at h with hsame
      · cases h
        rw [eq_of_beq hsame] at hcurrent
        exact (annotate_of_lookup hs hcurrent).symm
      · cases h
        rfl
    · cases h
      rfl

theorem ne_configVersionKey_of_mem {l : List ContainerTemplate} {k : String}
    (hk : k ∈ (l.flatMap (imageRecord c)).map Prod.fst) : k ≠ configVersionKey := by
  obtain ⟨s, -, rfl | rfl⟩ := key_of_mem_imageRecords hk
  · exact imageDefaultKey_ne_configVersionKey _
  · exact imageKey_ne_configVersionKey _

theorem initializeSpec_initialized {r r₀ : DriverResource} {u : Bool}
    (hv : c.configVersion = r.spec.configVersion) (h : initializeSpec r c = .ok (u, r₀)) :
    ∃ as d, Initialized c as d ∧ r₀ = { r with
      spec := d
      metadata := r.metadata.set "annotations" (Json.strMap as)
      status := r.status.map fun s => { s with lastUpdate := { s.lastUpdate with errorMessage := "" } } } := by
  unfold initializeSpec at h
  obtain ⟨⟨d₁, as₁⟩, hsidecars, h⟩ := bind_eq_ok.1 h
  obtain ⟨d₂, hinits, h⟩ := bind_eq_ok.1 h
  obtain ⟨⟨b, as₂⟩, hversion, h⟩ := bind_eq_ok.1 h
  cases h
  obtain ⟨hd₁, hsorted, hsettled, hrecorded, hmandatory⟩ :=
    defaultSidecars_records (keySorted_annotationsOf r) hsidecars
  obtain ⟨hd₂, hinitSettled⟩ := defaultInitContainers_records hinits
  -- the storage classes are filled last; the sidecars and the version are those of `d₁`
  have hside : d₂.sideCars = d₁.sideCars := by rw [hd₂]
  have hspec : d₂.configVersion = c.configVersion := by rw [hd₂, hd₁, hv]
  rw [show (defaultStorageClasses d₂ c _).configVersion = d₂.configVersion from rfl, hspec] at hversion
  obtain ⟨hset, rfl⟩ := annotateConfigVersion_records hsorted hversion
  refine ⟨_, defaultStorageClasses d₂ c (isUpgrade ((annotationsOf r).getD []) c),
    ⟨keySorted_annotate hsorted _ _, by simp, hset, hspec, ?_, ?_, ?_, hinitSettled,
    defaultStorageClasses_records d₂ _⟩, rfl⟩
  · simpa [defaultStorageClasses, hside] using hsettled
  · simp only [defaultStorageClasses, hside]
    exact hrecorded.frame fun k hk => by simp [ne_configVersionKey_of_mem hk]
  · simpa [defaultStorageClasses, hside] using hmandatory

end First

/-! ## The family's hooks keep the spec settled -/

section Retouched

variable {c : ResolvedConfig} {l l' : List ContainerTemplate}

theorem forall_mem_of_map_eq {α : Type} {f : α → α} {P : α → Prop} {l l' : List α}
    (hmap : l'.map f = l.map f) (hP : ∀ x, P (f x) ↔ P x) (h : ∀ x ∈ l, P x) : ∀ x ∈ l', P x := by
  intro x hx
  obtain ⟨y, hy, hxy⟩ := List.mem_map.1 (hmap ▸ List.mem_map_of_mem hx : f x ∈ l.map f)
  exact (hP x).1 (hxy ▸ (hP y).2 (h y hy))

theorem flatMap_imageRecord_eq (h : l'.map ContainerTemplate.withoutEnvs = l.map ContainerTemplate.withoutEnvs) :
    l'.flatMap (imageRecord c) = l.flatMap (imageRecord c) := by
  have hcongr : ∀ l : List ContainerTemplate,
      l.flatMap (imageRecord c) = (l.map ContainerTemplate.withoutEnvs).flatMap (imageRecord c) := by
    simp [List.flatMap_map, imageRecord_withoutEnvs]
  rw [hcongr l', h, ← hcongr l]

theorem any_name_eq (h : l'.map ContainerTemplate.withoutEnvs = l.map ContainerTemplate.withoutEnvs)
    (m : String) : l'.any (·.name == m) = l.any (·.name == m) := by
  have hcongr : ∀ l : List ContainerTemplate,
      l.any (·.name == m) = (l.map ContainerTemplate.withoutEnvs).any (·.name == m) := by
    simp [List.any_map, Function.comp_def, ContainerTemplate.withoutEnvs]
  rw [hcongr l', h, ← hcongr l]

theorem Initialized.retouched {as : Annotations} {d d' : DriverSpec} (h : Initialized c as d)
    (hr : Retouched d d') : Initialized c as d' where
  sorted := h.sorted
  version := h.version
  versionSet := h.versionSet
  specVersion := hr.configVersion.trans h.specVersion
  sidecars := forall_mem_of_map_eq hr.sideCars (fun _ => Iff.rfl) h.sidecars
  recorded := flatMap_imageRecord_eq hr.sideCars ▸ h.recorded
  mandatory := fun m hm => any_name_eq hr.sideCars m ▸ h.mandatory m hm
  inits := forall_mem_of_map_eq hr.initContainers (fun _ => Iff.rfl) h.inits
  classes := forall_mem_of_map_eq hr.storageClass (fun _ => Iff.rfl) h.classes

end Retouched

/-! ## Initializing twice -/

/-- Initializing a resource with a configuration of its version, defaults then family hooks,
settles it: initializing the result again succeeds, reports no change at either step, and
gives the same resource back, spec and annotations included. -/
theorem initialization_idempotent {r r₀ r₁ : DriverResource} {c : ResolvedConfig}
    {changed₀ changed₁ : Bool} (hv : c.configVersion = r.spec.configVersion)
    (h₀ : initializeSpec r c = .ok (changed₀, r₀))
    (h₁ : Hooks.initializeDriverSpec r₀ = .ok (changed₁, r₁)) :
    initializeSpec r₁ c = .ok (false, r₁) ∧ Hooks.initializeDriverSpec r₁ = .ok (false, r₁) := by
  obtain ⟨as, d, hinit, rfl⟩ := initializeSpec_initialized hv h₀
  obtain ⟨hhooks, d', rfl, hretouched⟩ := Hooks.initializeDriverSpec_settles h₁
  refine ⟨?_, hhooks⟩
  rw [initializeSpec_settled (hinit.retouched hretouched) (Json.get?_set_self _ _ _)]
  simp [Json.set_set_self, Option.map_map, Function.comp_def]

/-- A PowerMax resource with a custom provisioner image and a class of an array that binds on
first consumer. -/
def customPowermax : DriverResource :=
  { family := .powerMax
    metadata := .obj [("name", .str "powermax"), ("namespace", .str "powermax")]
    spec :=
      { configVersion := "v2"
        sideCars := [{ name := "provisioner", image := "custom:1" }]
        storageClass :=
          [{ name := "bronze", parameters := [("SYMID", "000120")], volumeBindingMode := "WaitForFirstConsumer" }] } }

/-- A configuration whose attacher is mandatory and missing from `customPowermax`. -/
def attacherConfig : ResolvedConfig :=
  { configVersion := "v2"
    imageTags := [("provisioner", "csi-provisioner:v3"), ("attacher", "csi-attacher:v4")]
    driver := { sidecarParams := [{ name := "provisioner" }, { name := "attacher" }] } }

theorem powermax_initialization_settles :
    ∃ r₀ r₁ changed₀ changed₁, initializeSpec customPowermax attacherConfig = .ok (changed₀, r₀) ∧
      Hooks.initializeDriverSpec r₀ = .ok (changed₁, r₁) ∧
      initializeSpec r₁ attacherConfig = .ok (false, r₁) ∧ Hooks.initializeDriverSpec r₁ = .ok (false, r₁) :=
  have h₀ : initializeSpec customPowermax attacherConfig = .ok (_, _) := rfl
  have h₁ : Hooks.initializeDriverSpec _ = .ok (_, _) := rfl
  ⟨_, _, _, _, h₀, h₁, initialization_idempotent rfl h₀ h₁⟩

end CsiOperator.Defaults
