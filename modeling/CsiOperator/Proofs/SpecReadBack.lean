import Mathlib
import CsiOperator.Proofs.SpecInit
import CsiOperator.Proofs.MetadataReread
import CsiOperator.Proofs.StoredResources
import CsiOperator.Proofs.ReconcilePaths
import CsiOperator.Proofs.Placement
import CsiOperator.Proofs.ReconcileFrame
/-!
A spec written back reads back as it was written.

A resync writes the initialized spec back, records its provisional status, and converges on the
resource the status write answers. Both answers carry the spec written when it is exact, one the
resource's types can hold (`DriverSpec.Exact`). A spec read from the store is exact
(`DriverResource.spec_exact_of_read`) and initializing keeps it so
(`Reconcile.applyDefaults_exact`): no default or hook touches a toleration, a node selector, a
class's parameters or the replica count. The metadata written back, with its annotations set,
still reads (`Kube.keepsMeta_annotations`). So the spec written back is stored under the key
(`SpecAt`) and answered by every status write after it (`Reconcile.updateDriver_spec`,
`Reconcile.storeStatus_spec`).
-/

namespace CsiOperator

/-! ## Exact containers and classes -/

theorem ContainerTemplate.Exact.of_frame {c c' : ContainerTemplate} (hc : c.Exact)
    (htol : c'.tolerations = c.tolerations) (hsel : c'.nodeSelector = c.nodeSelector) :
    c'.Exact := by
  unfold ContainerTemplate.Exact
  rw [htol, hsel]
  exact hc

theorem ContainerTemplate.forall_exact_of_withoutEnvs {l l' : List ContainerTemplate}
    (h : l'.map ContainerTemplate.withoutEnvs = l.map ContainerTemplate.withoutEnvs)
    (hl : ∀ c ∈ l, c.Exact) : ∀ c ∈ l', c.Exact := by
  intro c hc
  obtain ⟨c₀, hc₀, heq⟩ := List.mem_map.1 (h ▸ List.mem_map_of_mem hc :
    c.withoutEnvs ∈ l.map ContainerTemplate.withoutEnvs)
  exact (hl c₀ hc₀).of_frame (congrArg ContainerTemplate.tolerations heq).symm
    (congrArg ContainerTemplate.nodeSelector heq).symm

theorem StorageClassSpec.forall_keySorted_of_withoutTopologies {l l' : List StorageClassSpec}
    (h : l'.map StorageClassSpec.withoutTopologies = l.map StorageClassSpec.withoutTopologies)
    (hl : ∀ sc ∈ l, Reader.KeySorted sc.parameters) : ∀ sc ∈ l', Reader.KeySorted sc.parameters := by
  intro sc hsc
  obtain ⟨sc₀, hsc₀, heq⟩ := List.mem_map.1 (h ▸ List.mem_map_of_mem hsc :
    sc.withoutTopologies ∈ l.map StorageClassSpec.withoutTopologies)
  have hparams := congrArg StorageClassSpec.parameters heq
  change sc₀.parameters = sc.parameters at hparams
  exact hparams ▸ hl sc₀ hsc₀

theorem DriverSpec.Exact.withForceUpdate {d : DriverSpec} (hd : d.Exact) (b : Bool) :
    ({ d with forceUpdate := b } : DriverSpec).Exact :=
  ⟨hd.replicas, hd.common, hd.controller, hd.node, hd.sideCars, hd.initContainers,
    hd.storageClass, hd.snapshotClass⟩

/-! ## Loops that keep exactness -/

theorem foldlM_append_forall {ε α β : Type} {P : α → Prop}
    (f : List α × β → α → Except ε (List α × β)) :
    ∀ (l : List α), (∀ acc b x r, x ∈ l → f (acc, b) x = .ok r → ∃ y, P y ∧ r.1 = acc ++ [y]) →
      ∀ (acc : List α) (b : β) (r : List α × β), (∀ y ∈ acc, P y) →
        l.foldlM f (acc, b) = .ok r → ∀ y ∈ r.1, P y
  | [], _, acc, b, r, hacc, h => by
    simp only [List.foldlM_nil, pure, Except.pure, Except.ok.injEq] at h
    subst h
    exact hacc
  | x :: rest, hf, acc, b, r, hacc, h => by
    rw [List.foldlM_cons] at h
    obtain ⟨⟨acc', b'⟩, hstep, hrest⟩ := bind_eq_ok.1 h
    obtain ⟨y, hy, hacc'⟩ := hf acc b x _ List.mem_cons_self hstep
    refine foldlM_append_forall f rest (fun acc b x r hx => hf acc b x r (List.mem_cons_of_mem _ hx))
      acc' b' r ?_ hrest
    intro z hz
    rw [show acc' = acc ++ [y] from hacc'] at hz
    rcases List.mem_append.1 hz with hz | hz
    · exact hacc z hz
    · rw [List.mem_singleton.1 hz]
      exact hy

theorem forall_of_mapM_eq_ok_of_mem {ε α β : Type} {f : α → Except ε β} {P : β → Prop} :
    ∀ {l : List α} {l' : List β}, (∀ x ∈ l, ∀ y, f x = .ok y → P y) → l.mapM f = .ok l' →
      ∀ y ∈ l', P y
  | [], l', _, h => by
    simp only [List.mapM_nil, pure, Except.pure, Except.ok.injEq] at h
    subst h
    simp
  | x :: rest, l', hf, h => by
    rw [List.mapM_cons] at h
    obtain ⟨y, hy, h⟩ := bind_eq_ok.1 h
    obtain ⟨ys, hys, h⟩ := bind_eq_ok.1 h
    cases h
    intro z hz
    rcases List.mem_cons.1 hz with rfl | hz
    · exact hf x List.mem_cons_self z hy
    · exact forall_of_mapM_eq_ok_of_mem (fun x hx => hf x (List.mem_cons_of_mem _ hx)) hys z hz

/-! ## Initialization keeps a spec exact -/

namespace Defaults

variable {c : ResolvedConfig}

theorem defaultSidecar_frame {u : Bool} {as as' : Annotations} {s s' : ContainerTemplate}
    (h : defaultSidecar c u as s = .ok (s', as')) :
    s'.tolerations = s.tolerations ∧ s'.nodeSelector = s.nodeSelector := by
  unfold defaultSidecar at h
  by_cases hknown : (c.driver.sidecar? s.name).isNone = true
  · simp only [hknown, if_true, pure, Except.pure, Except.ok.injEq, Prod.mk.injEq] at h
    obtain ⟨rfl, rfl⟩ := h
    exact ⟨rfl, rfl⟩
  · cases htag : c.imageTag s.name with
    | error e => simp [hknown, htag, bind, Except.bind] at h
    | ok image =>
      simp only [hknown, htag, Bool.false_eq_true, if_false, bind, Except.bind, pure, Except.pure,
        Except.ok.injEq] at h
      split_ifs at h <;> obtain ⟨rfl, rfl⟩ := Prod.mk.inj h <;> exact ⟨rfl, rfl⟩

theorem foldl_addMandatory_exact :
    ∀ (names : List String) (acc : List ContainerTemplate × Annotations), (∀ s ∈ acc.1, s.Exact) →
      ∀ s ∈ (names.foldl (addMandatory c) acc).1, s.Exact
  | [], _, hacc => hacc
  | name :: rest, acc, hacc => by
    rw [List.foldl_cons]
    refine foldl_addMandatory_exact rest _ ?_
    unfold addMandatory
    split
    · exact hacc
    · split
      · exact hacc
      · intro s hs
        rcases List.mem_append.1 hs with hs | hs
        · exact hacc s hs
        · rw [List.mem_singleton.1 hs]
          exact ⟨by simp, by simp⟩

theorem defaultSidecars_exact {d d' : DriverSpec} {as as' : Annotations} {u : Bool}
    (h : defaultSidecars d as c u = .ok (d', as')) (hd : ∀ s ∈ d.sideCars, s.Exact) :
    ∃ S, d' = { d with sideCars := S } ∧ ∀ s ∈ S, s.Exact := by
  unfold defaultSidecars at h
  obtain ⟨⟨S, as₁⟩, hloop, h⟩ := bind_eq_ok.1 h
  have hS : ∀ s ∈ S, s.Exact := by
    refine foldlM_append_forall _ d.sideCars (fun acc b x r hx hstep => ?_) [] as _ (by simp) hloop
    obtain ⟨⟨s', b'⟩, hside, hstep⟩ := bind_eq_ok.1 hstep
    cases hstep
    obtain ⟨htol, hsel⟩ := defaultSidecar_frame hside
    exact ⟨s', (hd x hx).of_frame htol hsel, rfl⟩
  cases h
  exact ⟨_, rfl, foldl_addMandatory_exact c.driver.mandatorySidecars (S, as₁) hS⟩

theorem defaultInitContainers_exact {d d' : DriverSpec} (h : defaultInitContainers d c = .ok d')
    (hd : ∀ i ∈ d.initContainers, i.Exact) :
    ∃ I, d' = { d with initContainers := I } ∧ ∀ i ∈ I, i.Exact := by
  unfold defaultInitContainers at h
  obtain ⟨inits, hmap, h⟩ := bind_eq_ok.1 h
  cases h
  refine ⟨inits, rfl, forall_of_mapM_eq_ok_of_mem (fun i hi i' hstep => ?_) hmap⟩
  dsimp only at hstep
  split_ifs at hstep
  · obtain ⟨tag, -, hstep⟩ := bind_eq_ok.1 hstep
    simp only [pure, Except.pure, bind, Except.bind, Except.ok.injEq] at hstep
    subst hstep
    split_ifs <;> exact (hd i hi).of_frame rfl rfl
  · simp only [pure, Except.pure, bind, Except.bind, Except.ok.injEq] at hstep
    subst hstep
    split_ifs <;> exact (hd i hi).of_frame rfl rfl

theorem defaultStorageClasses_parameters (d : DriverSpec) (u : Bool)
    (hd : ∀ sc ∈ d.storageClass, Reader.KeySorted sc.parameters) :
    ∀ sc ∈ (defaultStorageClasses d c u).storageClass, Reader.KeySorted sc.parameters := by
  simp only [defaultStorageClasses, List.mem_map]
  rintro _ ⟨sc, hsc, rfl⟩
  have hparams := hd sc hsc
  split_ifs <;> (try split) <;> exact hparams

theorem initializeSpec_exact {r r' : DriverResource} {u : Bool} (hr : r.spec.Exact)
    (h : initializeSpec r c = .ok (u, r')) : r'.spec.Exact := by
  unfold initializeSpec at h
  obtain ⟨⟨d₁, as₁⟩, hsidecars, h⟩ := bind_eq_ok.1 h
  obtain ⟨d₂, hinits, h⟩ := bind_eq_ok.1 h
  obtain ⟨⟨b, as₂⟩, -, h⟩ := bind_eq_ok.1 h
  cases h
  obtain ⟨S, rfl, hS⟩ := defaultSidecars_exact hsidecars hr.sideCars
  obtain ⟨I, rfl, hI⟩ := defaultInitContainers_exact hinits hr.initContainers
  exact ⟨hr.replicas, hr.common, hr.controller, hr.node, hS, hI,
    defaultStorageClasses_parameters _ _ hr.storageClass, hr.snapshotClass⟩

end Defaults

namespace Hooks

theorem initializeDriverSpec_exact {r r' : DriverResource} {u : Bool} (hr : r.spec.Exact)
    (h : initializeDriverSpec r = .ok (u, r')) : r'.spec.Exact := by
  unfold initializeDriverSpec at h
  split at h
  · dsimp only at h
    split at h
    · cases h
      exact hr
    · -- PowerMax pins the topologies of its classes
      cases h
      refine { hr with storageClass := ?_ }
      refine StorageClassSpec.forall_keySorted_of_withoutTopologies ?_ hr.storageClass
      simp [defaultPowermaxTopologies, Function.comp_def, pinClass_withoutTopologies]
  · -- PowerFlex rewrites the MDM variables of its SDC containers
    obtain ⟨⟨u', d⟩, hnormal, h⟩ := bind_eq_ok.1 h
    cases h
    unfold normalizeMdm at hnormal
    obtain ⟨⟨u₁, mdm, inits⟩, hsdc, hnormal⟩ := bind_eq_ok.1 hnormal
    obtain ⟨⟨u₂, sidecars⟩, hshare, hnormal⟩ := bind_eq_ok.1 hnormal
    cases hnormal
    exact { hr with
      sideCars := ContainerTemplate.forall_exact_of_withoutEnvs (shareMdm_withoutEnvs hshare) hr.sideCars
      initContainers :=
        ContainerTemplate.forall_exact_of_withoutEnvs (sdcMdm_withoutEnvs hsdc) hr.initContainers }
  · cases h
    exact hr

end Hooks

namespace Reconcile

theorem applyDefaults_exact {r r' : DriverResource} {config : ResolvedConfig} {u : Bool}
    (hr : r.spec.Exact) (h : applyDefaults r config = .ok (u, r')) : r'.spec.Exact := by
  unfold applyDefaults at h
  simp only [bind, Except.bind, Except.mapError] at h
  split at h
  · cases h
  · next common hcommon =>
    obtain ⟨u₁, r₁⟩ := common
    split at h
    · cases h
    · next own hown =>
      obtain ⟨u₂, r₂⟩ := own
      cases h
      exact Hooks.initializeDriverSpec_exact
        (Defaults.initializeSpec_exact hr (ok_of_mapError_match hcommon)) (ok_of_mapError_match hown)

end Reconcile

/-! ## Metadata with annotations -/

namespace Kube

theorem Schema.read_strMap (as : List (String × String)) :
    ∃ w, Schema.read strMap (Json.strMap as) = .ok w := by
  obtain ⟨ys, hys⟩ := Schema.readEntries_of_reads (s := .string)
    (as.map fun q => (q.1, Json.str q.2)) fun q hq => by
      obtain ⟨⟨k, v⟩, -, rfl⟩ := List.mem_map.1 hq
      exact ⟨_, rfl⟩
  refine ⟨.obj (ys.foldl (fun acc (e : String × Json) => Reader.insertSorted e.1 e.2 acc) []), ?_⟩
  unfold strMap Json.strMap
  rw [Schema.read]
  dsimp only
  rw [hys]
  rfl

theorem keepsMeta_annotations (as : List (String × String)) :
    KeepsMeta "annotations" (Json.strMap as) :=
  fun _ _ hm => Schema.read_set_of_takes hm fun f hf hkey => by
    simp only [Kube.opt, List.mem_cons, List.not_mem_nil, or_false] at hf
    rcases hf with rfl | rfl | rfl | rfl | rfl | rfl | rfl | rfl | rfl | rfl | rfl | rfl | rfl |
      rfl | rfl <;> simp only at hkey <;> first | simp at hkey | exact .inr (Schema.read_strMap as)

end Kube

/-! ## The spec stored under a key -/

theorem DriverResource.spec_of_resourceDoc {d : DriverSpec} (hd : d.Exact) {v : Json}
    {o : Option Json} (hdoc : ResourceDoc v d.specJson o) {family : DriverKind} {r : DriverResource}
    (h : DriverResource.read family v = .ok r) : r.spec = d := by
  have hst : o.elim True fun w => ∃ a, Reader.option DriverStatus.read w = .ok a := by
    cases o with
    | none => trivial
    | some w =>
      obtain ⟨xs, mm, rfl, -, -, -, hstatus⟩ := hdoc
      exact Reader.resource_status_reads (DriverResource.read_eq_resource family ▸ h)
        (show (Json.obj xs).get? "status" = some w from hstatus.1)
  obtain ⟨r', hr', hspec, -⟩ := DriverResource.readsBack_of_resourceDoc
    (r := { family, metadata := .null, spec := d, status := none }) hd hdoc hst
  rw [h] at hr'
  cases hr'
  exact hspec

namespace Reconcile

open Controller

/-- The object stored under a key names the key and keeps the spec member of `d`. -/
def SpecAt (family : DriverKind) (key : Cluster.Key) (d : DriverSpec) (c : Cluster) : Prop :=
  ∃ v o, c.find? key = some v ∧ Cluster.keyOf (.driver family) v = key ∧ ResourceDoc v d.specJson o

variable {family : DriverKind} {key : Cluster.Key}

theorem updateDriver_spec {r stored : DriverResource} {s s' : Controller} (hr : Keyed family key r)
    (hmeta : ∃ m, Kube.Schema.read Kube.objectMeta r.metadata = .ok m) (hexact : r.spec.Exact)
    (hexisting : ∀ j, s.cluster.find? key = some j → ∃ rj, DriverResource.read family j = .ok rj)
    (h : (updateDriver r).run.run s = (.ok stored, s')) :
    stored.spec = r.spec ∧ Keyed family key stored ∧ SpecAt family key r.spec s'.cluster := by
  obtain ⟨hfamily, hkey⟩ := hr
  subst hfamily
  obtain ⟨m, hm⟩ := hmeta
  unfold updateDriver at h
  rw [exceptState_run_bind, onCluster_run] at h
  rcases hupdate : (Cluster.update (.driver r.family) r.toJson).run.run s.cluster with ⟨_ | v, c'⟩ <;>
    rw [hupdate] at h
  · cases h
  obtain ⟨hread, rfl⟩ := readDriver_ok h
  obtain ⟨existing, hfound, hstored, hdoc⟩ := (DriverResource.resourceDoc_of_metadata hm).updated hupdate
  obtain ⟨-, -, -, -, -, -, hsame⟩ := Cluster.update_ok hupdate
  rw [hkey] at hfound hstored
  obtain ⟨rj, hrj⟩ := hexisting existing hfound
  -- the object stored keeps the spec member sent, so it reads back with the spec sent
  have hvdoc := hdoc _ (DriverResource.metadata_of_read hrj)
  have hnames : Cluster.keyOf (.driver r.family) v = key :=
    (Cluster.keyOf_of_sameNames _ hsame).trans hkey
  exact ⟨DriverResource.spec_of_resourceDoc hexact hvdoc hread,
    ⟨DriverResource.family_of_read hread, (DriverResource.keyOf_of_read hread _).trans hnames⟩,
    v, _, hstored, hnames, hvdoc⟩

theorem storeStatus_spec {d : DriverSpec} (hd : d.Exact) {r r' : DriverResource} {x : DriverStatus}
    {s s' : Controller} (hr : Keyed family key r) (h : (storeStatus r x).run.run s = (.ok r', s'))
    (hat : SpecAt family key d s.cluster) :
    r'.spec = d ∧ Keyed family key r' ∧ SpecAt family key d s'.cluster := by
  obtain ⟨hfamily, hkey⟩ := hr
  subst hfamily
  obtain ⟨v, o, hfound, hnames, hdoc⟩ := hat
  have samekey : Cluster.keyOf (.driver r.family) { r with status := some x }.toJson = key := by
    rw [← hkey]
    simp only [DriverResource.keyOf_toJson]
  unfold storeStatus at h
  rw [exceptState_run_bind, onCluster_run] at h
  rcases hwrite : (Cluster.updateStatus (.driver r.family)
      { r with status := some x }.toJson).run.run s.cluster with ⟨_ | v', c'⟩ <;> rw [hwrite] at h
  · cases h
  obtain ⟨hread, rfl⟩ := readDriver_ok h
  obtain ⟨existing, hexisting, hobjects, rfl⟩ := Cluster.updateStatus_stores hwrite
  rw [samekey, hfound, Option.some.injEq] at hexisting
  subst hexisting
  -- a status write replaces only the status member
  set w := (({ r with status := some x } : DriverResource).toJson.get? "status").getD Json.null
  have hdoc' := (hdoc.set_status w).bumpVersion
  have hnames' := (Cluster.keyOf_statusWritten (.driver r.family) v w).trans hnames
  refine ⟨DriverResource.spec_of_resourceDoc hd hdoc' hread,
    ⟨DriverResource.family_of_read hread, (DriverResource.keyOf_of_read hread _).trans hnames'⟩,
    _, _, ?_, hnames', hdoc'⟩
  rw [Cluster.find?_of_put hobjects, samekey, if_pos rfl]

end Reconcile

end CsiOperator
