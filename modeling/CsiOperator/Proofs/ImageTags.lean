import Mathlib
import CsiOperator.Proofs.Annotations
/-!
The default image tags of a catalog, said as a lookup.

Tags are set in a map sorted by image name, so each name ends with the last tag given to it
(`lookup_setTags`). The tag picked for an image on a Kubernetes version (`pickedTag?`) is
the last tag an extension gives it for that version; failing that, when the configuration
version uses the defaults, the last tag a sidecar gives it for that version; otherwise the last
non-empty tag the configuration version's entries for that version give it, else the
configuration version's own tag.

Main statement (`defaultImageTags_picks`): the support checks come first, in the order the
Kubernetes version, the driver, the configuration version and the pairing of the two, each
looking at the first matching entry; once they pass, the tags are given exactly when no picked
tag is empty, as the map of the picked tags, and otherwise the failure names the least image
whose picked tag is empty.
-/

namespace CsiOperator.Catalog

open Reader

/-! ## Tag maps -/

/-- The value the last pair with a key gives it. -/
def lastValue? (ps : List (String × String)) (key : String) : Option String := ps.reverse.lookup key

theorem lastValue?_cons (p : String × String) (ps : List (String × String)) (key : String) :
    lastValue? (p :: ps) key = (lastValue? ps key).or (if key = p.1 then some p.2 else none) := by
  obtain ⟨a, b⟩ := p
  rw [lastValue?, List.reverse_cons, List.lookup_append, lastValue?]
  congr 1
  by_cases h : key = a <;> simp [h]

/-- Sets the tags of a list of (image, tag) pairs in a map, one after the other. -/
def setTags (ps m : List (String × String)) : List (String × String) :=
  ps.foldl (fun acc p => setTag acc p.1 p.2) m

theorem lookup_setTags (ps m : List (String × String)) (key : String) :
    (setTags ps m).lookup key = (lastValue? ps key).or (m.lookup key) := by
  induction ps generalizing m with
  | nil => simp [setTags, lastValue?]
  | cons p rest ih =>
    rw [setTags, List.foldl_cons, ← setTags, ih, setTag, lookup_insertSorted, lastValue?_cons,
      Option.or_assoc]
    by_cases h : key = p.1 <;> simp [h]

theorem keySorted_setTags (ps : List (String × String)) {m : List (String × String)}
    (hm : KeySorted m) : KeySorted (setTags ps m) := by
  induction ps generalizing m with
  | nil => exact hm
  | cons p rest ih => exact ih (hm.insertSorted p.1 p.2)

theorem foldl_sets {α : Type} {f : List (String × String) → α → List (String × String)}
    (pairs : α → List (String × String)) (hf : ∀ acc a, f acc a = setTags (pairs a) acc)
    (l : List α) (m : List (String × String)) : l.foldl f m = setTags (l.flatMap pairs) m := by
  rw [setTags, List.foldl_flatMap]
  exact congrArg (l.foldl · m) (funext fun acc => funext fun a => hf acc a)

theorem lastValue?_of_nodup {ps : List (String × String)} (h : (ps.map (·.1)).Nodup) (key : String) :
    lastValue? ps key = ps.lookup key := by
  induction ps with
  | nil => rfl
  | cons p rest ih =>
    obtain ⟨hp, hrest⟩ := List.nodup_cons.1 h
    rw [lastValue?_cons, ih hrest, lookup_cons_ite]
    by_cases hk : key = p.1
    · subst hk
      have absent : rest.lookup p.1 = none :=
        List.lookup_eq_none_iff.2 fun q hq => bne_iff_ne.2 fun heq => hp (List.mem_map.2 ⟨q, hq, heq.symm⟩)
      simp [absent]
    · simp [hk]

/-! ## Empty tags -/

theorem lt_of_lookup_eq_some {k : String} {rest : List (String × String)} (hk : ∀ q ∈ rest, k < q.1)
    {n v : String} (h : rest.lookup n = some v) : k < n := by
  by_contra hle
  have below : ∀ q ∈ rest, n < q.1 := fun q hq => lt_of_le_of_lt (not_lt.1 hle) (hk q hq)
  rw [lookup_eq_none_of_lt below] at h
  cases h

theorem find?_empty_least {tags : List (String × String)} (hs : KeySorted tags) {n t : String}
    (h : tags.find? (·.2.isEmpty) = some (n, t)) :
    tags.lookup n = some "" ∧ ∀ m, tags.lookup m = some "" → n ≤ m := by
  induction tags with
  | nil => cases h
  | cons p rest ih =>
    obtain ⟨k, v⟩ := p
    obtain ⟨hk, hrest⟩ := keySorted_cons.1 hs
    by_cases hv : v.isEmpty
    · -- the head is the first empty tag, and its key is the least of all
      rw [List.find?_cons_of_pos (p := fun x : String × String => x.2.isEmpty) hv] at h
      cases h
      have empty : t = "" := String.isEmpty_iff.1 hv
      refine ⟨by rw [lookup_cons_ite, if_pos rfl, empty], fun m hm => ?_⟩
      by_cases hmn : m = n
      · exact hmn ▸ le_refl n
      · rw [lookup_cons_ite, if_neg hmn] at hm
        exact le_of_lt (lt_of_lookup_eq_some hk hm)
    · rw [List.find?_cons_of_neg (p := fun x : String × String => x.2.isEmpty) (by simpa using hv)] at h
      obtain ⟨found, least⟩ := ih hrest h
      have later : k < n := lt_of_lookup_eq_some hk found
      refine ⟨by simpa [lookup_cons_ite, later.ne'] using found, fun m hm => ?_⟩
      by_cases hmk : m = k
      · subst hmk
        simp only [lookup_cons_ite, if_true, Option.some.injEq] at hm
        exact absurd (String.isEmpty_iff.2 hm) hv
      · exact least m (by simpa [lookup_cons_ite, hmk] using hm)

theorem find?_empty_eq_none_iff {tags : List (String × String)} (hs : KeySorted tags) :
    tags.find? (·.2.isEmpty) = none ↔ ∀ n t, tags.lookup n = some t → t ≠ "" := by
  constructor
  · intro h n t hn ht
    obtain ⟨l₁, l₂, htags, -⟩ := List.lookup_eq_some_iff.1 hn
    have hmem : (n, t) ∈ tags := htags ▸ List.mem_append_right _ List.mem_cons_self
    have nonempty := List.find?_eq_none.1 h _ hmem
    simp [ht] at nonempty
  · intro h
    cases hfind : tags.find? (·.2.isEmpty) with
    | none => rfl
    | some e =>
      obtain ⟨found, -⟩ := find?_empty_least hs hfind
      exact absurd rfl (h _ _ found)

/-! ## Picked tags -/

/-- The tags a list of containers gives its images on a Kubernetes version, as (image, tag)
pairs in the order they are listed. -/
def imageTags (apps : List ContainerImages) (k8s : String) : List (String × String) :=
  apps.flatMap fun a => (a.images.filter (·.version == k8s)).map fun i => (a.name, i.tag)

/-- The non-empty tags a configuration version's entries for a Kubernetes version give, in the
order they are listed. -/
def overrideTags (p : ConfigVersion) (k8s : String) : List (String × String) :=
  (p.supportedVersions.filter (·.version == k8s)).flatMap fun s => s.tags.entries.filter (!·.2.isEmpty)

/-- The tag picked for an image on a Kubernetes version: the last an extension gives it; else,
with the defaults, the last a sidecar gives it; else the last non-empty one the configuration
version gives it for that version, or its own tag. -/
def pickedTag? (c : Catalog) (p : ConfigVersion) (k8s name : String) : Option String :=
  (lastValue? (imageTags c.extensions k8s) name).or
    (if p.useDefaults then lastValue? (imageTags c.sidecars k8s) name
    else (lastValue? (overrideTags p k8s) name).or (p.tags.entries.lookup name))

theorem nodup_entries (t : SidecarTags) : (t.entries.map (·.1)).Nodup := by
  simp [SidecarTags.entries, Image.provisioner, Image.attacher, Image.resizer, Image.snapshotter,
    Image.registrar]

theorem foldl_containers (apps : List ContainerImages) (k8s : String) (m : List (String × String)) :
    apps.foldl (fun acc a => (a.images.filter (·.version == k8s)).foldl
      (fun acc i => setTag acc a.name i.tag) acc) m = setTags (imageTags apps k8s) m :=
  foldl_sets _ (fun _ _ => by rw [setTags, List.foldl_map]) apps m

theorem foldl_entries (t : SidecarTags) (m : List (String × String)) :
    t.entries.foldl (fun acc x => setTag acc x.1 x.2) m = setTags t.entries m := rfl

theorem foldl_overrides (p : ConfigVersion) (k8s : String) (m : List (String × String)) :
    (p.supportedVersions.filter (·.version == k8s)).foldl (fun acc s => s.tags.entries.foldl
      (fun acc x => if x.2.isEmpty then acc else setTag acc x.1 x.2) acc) m =
      setTags (overrideTags p k8s) m := by
  refine foldl_sets _ (fun acc s => ?_) _ m
  rw [setTags, List.foldl_filter]
  congr 1
  funext acc x
  cases x.2.isEmpty <;> rfl

/-- The map of the picked tags, as the catalog computes it. -/
def pickedTags (c : Catalog) (p : ConfigVersion) (k8s : String) : List (String × String) :=
  setTags (imageTags c.extensions k8s)
    (if p.useDefaults then setTags (imageTags c.sidecars k8s) []
    else setTags (overrideTags p k8s) (setTags p.tags.entries []))

theorem keySorted_pickedTags (c : Catalog) (p : ConfigVersion) (k8s : String) :
    KeySorted (pickedTags c p k8s) := by
  unfold pickedTags
  refine keySorted_setTags _ ?_
  split
  · exact keySorted_setTags _ keySorted_nil
  · exact keySorted_setTags _ (keySorted_setTags _ keySorted_nil)

theorem lookup_pickedTags (c : Catalog) (p : ConfigVersion) (k8s name : String) :
    (pickedTags c p k8s).lookup name = pickedTag? c p k8s name := by
  unfold pickedTags pickedTag?
  rw [lookup_setTags]
  split
  · rw [lookup_setTags, List.lookup_nil, Option.or_none]
  · rw [lookup_setTags, lookup_setTags, List.lookup_nil, Option.or_none,
      lastValue?_of_nodup (nodup_entries p.tags)]

theorem defaultImageTags_of_supported {c : Catalog} {kind : DriverKind} {version k8s : String}
    (hs : c.checkSupported kind version k8s = .ok ()) {p : ConfigVersion}
    (hp : c.configVersion? kind version = some p) :
    c.defaultImageTags kind version k8s =
      ((pickedTags c p k8s).find? (·.2.isEmpty)).elim (.ok (pickedTags c p k8s))
        fun e => .error (.config ("default image tag not found for: " ++ e.1)) := by
  unfold defaultImageTags
  rw [hs]
  simp only [hp, foldl_containers, foldl_entries, foldl_overrides]
  rw [← pickedTags]
  cases (pickedTags c p k8s).find? (·.2.isEmpty) <;> rfl

/-! ## Support checks -/

variable {c : Catalog} {kind : DriverKind} {version k8s : String}

theorem checkSupported_ok_iff :
    c.checkSupported kind version k8s = .ok () ↔ k8s ∈ c.supportedK8sVersions ∧
      ∃ p, c.configVersion? kind version = some p ∧ ∃ s ∈ p.supportedVersions, s.version = k8s := by
  unfold checkSupported configVersion?
  by_cases hk : k8s ∈ c.supportedK8sVersions
  · cases hd : c.drivers.find? (·.name == kind.name) with
    | none => simp [hk]
    | some d =>
      cases hp : d.configVersions.find? (·.configVersion == version) with
      | none => simp [hk, hp]
      | some p =>
        by_cases hs : p.supportedVersions.any (·.version == k8s)
        · simp only [List.any_eq_true, beq_iff_eq] at hs
          simp [hk, hp, hs]
        · simp only [List.any_eq_true, beq_iff_eq] at hs
          simp [hk, hp, hs]
  · simp [hk]

theorem defaultImageTags_of_error {e : OperatorError}
    (h : c.checkSupported kind version k8s = .error e) :
    c.defaultImageTags kind version k8s = .error e := by
  unfold defaultImageTags
  rw [h]
  rfl

theorem checkSupported_errors :
    (k8s ∉ c.supportedK8sVersions → c.checkSupported kind version k8s =
      .error (.unsupportedVersion "k8s version not supported by operator")) ∧
    (k8s ∈ c.supportedK8sVersions → c.drivers.find? (·.name == kind.name) = none →
      c.checkSupported kind version k8s = .error (.unsupportedConfigVersion "unknown driver type")) ∧
    (k8s ∈ c.supportedK8sVersions → ∀ d, c.drivers.find? (·.name == kind.name) = some d →
      d.configVersions.find? (·.configVersion == version) = none →
      c.checkSupported kind version k8s =
        .error (.unsupportedConfigVersion "unknown driver config version")) ∧
    (k8s ∈ c.supportedK8sVersions → ∀ p, c.configVersion? kind version = some p →
      (∀ s ∈ p.supportedVersions, s.version ≠ k8s) → c.checkSupported kind version k8s =
        .error (.unsupportedVersion "driver config version not supported on this K8s version")) := by
  refine ⟨fun hk => by simp [checkSupported, hk], fun hk hd => by simp [checkSupported, hk, hd],
    fun hk d hd hp => by simp [checkSupported, hk, hd, hp], fun hk p hp hs => ?_⟩
  obtain ⟨d, hd, hpd⟩ := Option.bind_eq_some_iff.1 hp
  have unpaired : p.supportedVersions.any (·.version == k8s) = false := by simpa using hs
  simp [checkSupported, hk, hd, hpd, unpaired]

/-! ## The default tags -/

theorem find?_pickedTags_eq_none_iff (c : Catalog) (p : ConfigVersion) (k8s : String) :
    (pickedTags c p k8s).find? (·.2.isEmpty) = none ↔
      ∀ name t, c.pickedTag? p k8s name = some t → t ≠ "" := by
  rw [find?_empty_eq_none_iff (keySorted_pickedTags c p k8s)]
  simp only [lookup_pickedTags]

theorem defaultImageTags_eq_ok_iff (tags : List (String × String)) :
    c.defaultImageTags kind version k8s = .ok tags ↔
      c.checkSupported kind version k8s = .ok () ∧ ∃ p, c.configVersion? kind version = some p ∧
        (∀ name t, c.pickedTag? p k8s name = some t → t ≠ "") ∧
        KeySorted tags ∧ ∀ name, tags.lookup name = c.pickedTag? p k8s name := by
  constructor
  · intro h
    -- a map is given only past the support checks, and with no empty tag found
    cases hs : c.checkSupported kind version k8s with
    | error e => rw [defaultImageTags_of_error hs] at h; cases h
    | ok u =>
      obtain ⟨-, p, hp, -⟩ := checkSupported_ok_iff.1 hs
      rw [defaultImageTags_of_supported hs hp] at h
      cases hfind : (pickedTags c p k8s).find? (·.2.isEmpty) with
      | some e => rw [hfind] at h; cases h
      | none =>
        rw [hfind] at h
        cases h
        exact ⟨rfl, p, hp, (find?_pickedTags_eq_none_iff c p k8s).1 hfind,
          keySorted_pickedTags c p k8s, lookup_pickedTags c p k8s⟩
  · rintro ⟨hs, p, hp, nonempty, sorted, looked⟩
    -- the map computed is the one given: both are sorted and look up alike
    have same : pickedTags c p k8s = tags :=
      KeySorted.ext (keySorted_pickedTags c p k8s) sorted fun name => by
        rw [lookup_pickedTags, looked]
    rw [defaultImageTags_of_supported hs hp, (find?_pickedTags_eq_none_iff c p k8s).2 nonempty,
      ← same]
    rfl

theorem defaultImageTags_of_empty {p : ConfigVersion} {name : String}
    (hs : c.checkSupported kind version k8s = .ok ()) (hp : c.configVersion? kind version = some p)
    (hempty : c.pickedTag? p k8s name = some "")
    (hleast : ∀ m, c.pickedTag? p k8s m = some "" → name ≤ m) :
    c.defaultImageTags kind version k8s =
      .error (.config ("default image tag not found for: " ++ name)) := by
  rw [defaultImageTags_of_supported hs hp]
  cases hfind : (pickedTags c p k8s).find? (·.2.isEmpty) with
  | none => exact absurd rfl ((find?_pickedTags_eq_none_iff c p k8s).1 hfind name "" hempty)
  | some e =>
    obtain ⟨first, t⟩ := e
    -- the first empty tag of the sorted map is at the least such name
    obtain ⟨found, least⟩ := find?_empty_least (keySorted_pickedTags c p k8s) hfind
    have same : first = name := le_antisymm
      (least name (by rw [lookup_pickedTags]; exact hempty))
      (hleast first (by rw [← lookup_pickedTags]; exact found))
    rw [same]
    rfl

/-- The default image tags, said through the picked tags. The support checks come first, in
order, each on the first matching entry; once they pass, the catalog gives a map exactly when no
picked tag is empty, and then the map of the picked tags, sorted by image name; otherwise it names
the least image whose picked tag is empty. -/
theorem defaultImageTags_picks (c : Catalog) (kind : DriverKind) (version k8s : String) :
    (∀ tags, c.defaultImageTags kind version k8s = .ok tags ↔
      c.checkSupported kind version k8s = .ok () ∧ ∃ p, c.configVersion? kind version = some p ∧
        (∀ name t, c.pickedTag? p k8s name = some t → t ≠ "") ∧
        KeySorted tags ∧ ∀ name, tags.lookup name = c.pickedTag? p k8s name) ∧
    (∀ p name, c.checkSupported kind version k8s = .ok () → c.configVersion? kind version = some p →
      c.pickedTag? p k8s name = some "" → (∀ m, c.pickedTag? p k8s m = some "" → name ≤ m) →
      c.defaultImageTags kind version k8s =
        .error (.config ("default image tag not found for: " ++ name))) ∧
    (c.checkSupported kind version k8s = .ok () ↔ k8s ∈ c.supportedK8sVersions ∧
      ∃ p, c.configVersion? kind version = some p ∧ ∃ s ∈ p.supportedVersions, s.version = k8s) ∧
    (∀ e, c.checkSupported kind version k8s = .error e →
      c.defaultImageTags kind version k8s = .error e) ∧
    (k8s ∉ c.supportedK8sVersions → c.checkSupported kind version k8s =
      .error (.unsupportedVersion "k8s version not supported by operator")) ∧
    (k8s ∈ c.supportedK8sVersions → c.drivers.find? (·.name == kind.name) = none →
      c.checkSupported kind version k8s = .error (.unsupportedConfigVersion "unknown driver type")) ∧
    (k8s ∈ c.supportedK8sVersions → ∀ d, c.drivers.find? (·.name == kind.name) = some d →
      d.configVersions.find? (·.configVersion == version) = none →
      c.checkSupported kind version k8s =
        .error (.unsupportedConfigVersion "unknown driver config version")) ∧
    (k8s ∈ c.supportedK8sVersions → ∀ p, c.configVersion? kind version = some p →
      (∀ s ∈ p.supportedVersions, s.version ≠ k8s) → c.checkSupported kind version k8s =
        .error (.unsupportedVersion "driver config version not supported on this K8s version")) :=
  ⟨defaultImageTags_eq_ok_iff, fun _ _ hs hp hempty hleast =>
    defaultImageTags_of_empty hs hp hempty hleast, checkSupported_ok_iff,
    fun _ => defaultImageTags_of_error, checkSupported_errors⟩

/-- A configuration version of the unity family with tags of its own, the attacher's given anew
for Kubernetes 1.29 and the resizer's entry for it left empty. -/
def unityOwnTags : ConfigVersion where
  configVersion := "v2.10.0"
  supportedVersions := [{ version := "1.29", tags := { attacher := "v4.5.0" } }]
  tags := {
    attacher := "v4.4.0"
    provisioner := "v4.0.0"
    resizer := "v1.10.0"
    snapshotter := "v7.0.0"
    registrar := "v2.10.0" }

/-- A catalog with that configuration version and the SDC monitor as an extension. -/
def unityCatalog : Catalog where
  drivers := [{ name := "unity", configVersions := [unityOwnTags] }]
  extensions := [{ name := Image.sdcMonitor, images := [{ version := "1.29", tag := "v1.0.0" }] }]
  supportedK8sVersions := ["1.29"]

/-- The attacher's tag for 1.29 overrides the own one, the empty resizer entry does not, and the
extension joins the map. -/
theorem unity_tags_picked :
    unityCatalog.defaultImageTags .unity "v2.10.0" "1.29" = .ok [("attacher", "v4.5.0"),
      ("provisioner", "v4.0.0"), ("registrar", "v2.10.0"), ("resizer", "v1.10.0"),
      ("sdc-monitor", "v1.0.0"), ("snapshotter", "v7.0.0")] := by
  have picked : pickedTags unityCatalog unityOwnTags "1.29" = [("attacher", "v4.5.0"),
      ("provisioner", "v4.0.0"), ("registrar", "v2.10.0"), ("resizer", "v1.10.0"),
      ("sdc-monitor", "v1.0.0"), ("snapshotter", "v7.0.0")] := by decide +kernel
  have sorted := keySorted_pickedTags unityCatalog unityOwnTags "1.29"
  rw [picked] at sorted
  refine ((defaultImageTags_picks unityCatalog .unity "v2.10.0" "1.29").1 _).2
    ⟨by decide +kernel, unityOwnTags, rfl, fun name t ht => ?_, sorted,
      fun name => by rw [← picked, lookup_pickedTags]⟩
  exact (find?_pickedTags_eq_none_iff _ _ _).1 (by rw [picked]; decide +kernel) name t ht

end CsiOperator.Catalog
