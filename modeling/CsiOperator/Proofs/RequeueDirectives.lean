import Mathlib
import CsiOperator.Proofs.RequeueBacking
import CsiOperator.Proofs.FailedSync
/-!
What the answer of a reconcile stands for.

A reconcile of a stored instance that is not being deleted answers `Never` only when the status
stored afterwards backs it (`Engine.Backed`): a status is shown whose state needs no further
reconcile, or nothing was written and the status the reconcile started from is in such a state.
That needs status writes that succeed. A status write that fails is let go where an invalid
configuration, an escalated failure or a state check is recorded, so the status can stay behind.
A success is backed by the age of the success the reconcile started from, which it reads before
it records the new one.

A driver reconcile answers `Immediately` only after it writes back a resource that lacked the
annotation of its configuration version. When the write back succeeds the instance is stored
carrying that annotation (`CarriesConfigVersion`), and the next reconcile does not take the same
step again. The write back itself may fail and is let go. A proxy reconcile never answers
`Immediately`.
-/

namespace CsiOperator

open Controller LifecycleStatus

theorem DriverResource.configVersion_path (r : DriverResource) :
    r.toJson.getPath? ["spec", "driver", "configVersion"] = some (.str r.spec.configVersion) := by
  have spec : r.toJson.get? "spec" = some r.spec.specJson := Json.get?_fields (by simp) (by simp)
  have driver : r.spec.specJson.get? "driver" = some r.spec.toJson := by
    simp [DriverSpec.specJson, Json.get?]
  have version : r.spec.toJson.get? "configVersion" = some (.str r.spec.configVersion) :=
    Json.get?_fields (by simp) (by simp)
  simp only [Json.getPath?, spec, driver, version, Option.bind_some]

theorem Defaults.lookup_of_annotateConfigVersion {as as' : Defaults.Annotations}
    {version : String} (h : Defaults.annotateConfigVersion as version = .ok (true, as')) :
    as'.lookup Defaults.configVersionKey = some version := by
  unfold Defaults.annotateConfigVersion at h
  split at h
  · cases h
  · split at h
    · split at h
      · cases h
      · cases h
        simp
    · cases h
      simp

namespace Reconcile

/-! ## The steps a driver reconcile takes -/

/-- A driver resource stored under its own key, on a server that answers. -/
structure Stored (family : DriverKind) (key : Cluster.Key) (c : Cluster) (r : DriverResource) :
    Prop where
  online : c.online = true
  stored : ∃ j, c.find? key = some j ∧ DriverResource.read family j = .ok r
  keyed : Cluster.keyOf (.driver family) r.toJson = key

theorem Stored.family {family : DriverKind} {key : Cluster.Key} {c : Cluster} {r : DriverResource}
    (h : Stored family key c r) : r.family = family := by
  obtain ⟨j, -, hread⟩ := h.stored
  exact DriverResource.family_of_read hread

theorem Stored.placed {family : DriverKind} {key : Cluster.Key} {c : Cluster} {r : DriverResource}
    (h : Stored family key c r) (hwritable : c.failing .updateStatus (.driver family) = false) :
    Placed family key r c := by
  obtain ⟨j, hfound, hread⟩ := h.stored
  refine ⟨h.family, h.keyed, h.online, hwritable, j, hfound, ?_⟩
  rw [← DriverResource.keyOf_of_read hread, h.keyed]

theorem Stored.of_wellKeyed {family : DriverKind} {key : Cluster.Key} {c : Cluster} {j : Json}
    {r : DriverResource} (hkeyed : c.WellKeyed) (hkind : key.kind = .driver family)
    (hon : c.online = true) (hfound : c.find? key = some j)
    (hread : DriverResource.read family j = .ok r) : Stored family key c r := by
  have hj : Cluster.keyOf (.driver family) j = key :=
    hkind ▸ hkeyed.keyed (key, j) (hkeyed.find?_eq_some.1 hfound)
  exact ⟨hon, ⟨j, hfound, hread⟩, (DriverResource.keyOf_of_read hread _).trans hj⟩

theorem applyDefaults_answer {r r' : DriverResource} {config : ResolvedConfig}
    (h : (∃ u, applyDefaults r config = .ok (u, r')) ∨ ∃ e, applyDefaults r config = .error (e, r')) :
    r' = r ∨ ∃ d as, r' = { r with
      spec := d
      metadata := r.metadata.set "annotations" (Json.strMap as)
      status := r.status.map fun s => { s with lastUpdate := { s.lastUpdate with errorMessage := "" } } } := by
  unfold applyDefaults at h
  simp only [bind, Except.bind, Except.mapError] at h
  rcases h with ⟨u, h⟩ | ⟨e, h⟩ <;> split at h
  · cases h
  · next common hcommon =>
    obtain ⟨u₁, r₁⟩ := common
    obtain ⟨d, as, rfl⟩ := Defaults.initializeSpec_shape (ok_of_mapError_match hcommon)
    split at h
    · cases h
    · next own hown =>
      obtain ⟨u₂, r₂⟩ := own
      obtain ⟨d', rfl⟩ := Hooks.initializeDriverSpec_shape (ok_of_mapError_match hown)
      cases h
      exact .inr ⟨d', as, rfl⟩
  · -- the common defaults failed, on the resource read
    next failed hfailed =>
    cases h
    split at hfailed
    · cases hfailed
      exact .inl rfl
    · cases hfailed
  · -- the family's own defaults failed, on the resource the common ones gave
    next common hcommon =>
    obtain ⟨u₁, r₁⟩ := common
    obtain ⟨d, as, rfl⟩ := Defaults.initializeSpec_shape (ok_of_mapError_match hcommon)
    split at h
    · next failed hfailed =>
      cases h
      split at hfailed
      · cases hfailed
        exact .inr ⟨d, as, rfl⟩
      · cases hfailed
    · cases h

theorem Placed.of_defaults {family : DriverKind} {key : Cluster.Key} {r r' : DriverResource}
    {c : Cluster} {config : ResolvedConfig} (hp : Placed family key r c)
    (h : (∃ u, applyDefaults r config = .ok (u, r')) ∨ ∃ e, applyDefaults r config = .error (e, r')) :
    Placed family key r' c ∧ (r'.status.getD {}).state = (r.status.getD {}).state := by
  rcases applyDefaults_answer h with rfl | ⟨d, as, rfl⟩
  · exact ⟨hp, rfl⟩
  refine ⟨⟨hp.1, ?_, hp.2.online, hp.2.writable, hp.2.stored⟩, ?_⟩
  · rw [← hp.2.keyed]
    exact DriverResource.keyOf_of_annotations _ rfl
  · cases r.status <;> rfl

theorem recordConfigVersion_cases (r : DriverResource) (controllerHA : Bool) (s : Controller) :
    (recordConfigVersion r controllerHA).run.run s = (.ok none, s) ∨
      (∃ e, (recordConfigVersion r controllerHA).run.run s =
        (.ok (some .never), ((invalidConfig r controllerHA e).run.run s).2)) ∨
      ∃ as, Defaults.annotateConfigVersion ((Defaults.annotationsOf r).getD [])
          r.spec.configVersion = .ok (true, as) ∧
        (recordConfigVersion r controllerHA).run.run s = (.ok (some .immediately),
          { s with cluster := ((Cluster.update (.driver r.family)
            { r with metadata := r.metadata.set "annotations" (Json.strMap as) }.toJson).run.run
              s.cluster).2 }) := by
  unfold recordConfigVersion
  dsimp only
  by_cases hrecorded : ((r.status.getD {}).driverHash != 0 && !r.spec.configVersion.isEmpty) = true
  · rw [if_pos hrecorded]
    exact .inl rfl
  rw [if_neg hrecorded]
  split
  · next e _ =>
    obtain ⟨seen, hseen⟩ := observation_answers r controllerHA s
    refine .inr (.inl ⟨e, ?_⟩)
    rw [exceptState_run_map, invalidConfig, Engine.recordInvalid_run hseen]
    rfl
  · exact .inl rfl
  · next as hannotated =>
    refine .inr (.inr ⟨as, hannotated, ?_⟩)
    simp only [exceptState_run_bind, tryCluster_run]
    rfl

theorem keyOf_withFinalizers (k : ResourceKind) (r : DriverResource) (fs : List String) :
    Cluster.keyOf k (withFinalizers r fs).toJson = Cluster.keyOf k r.toJson := by
  simp only [DriverResource.keyOf_toJson, withFinalizers, Json.strOpt,
    Json.get?_set_of_ne _ _ (show "finalizers" ≠ "namespace" by decide),
    Json.get?_set_of_ne _ _ (show "finalizers" ≠ "name" by decide),
    Json.get?_set_of_ne _ _ (show "finalizers" ≠ "generateName" by decide)]

theorem ensureFinalizer_ok {family : DriverKind} {key : Cluster.Key} {r r₁ : DriverResource}
    {s s₁ : Controller} (hstored : Stored family key s.cluster r)
    (h : (ensureFinalizer r).run.run s = (.ok r₁, s₁)) :
    Stored family key s₁.cluster r₁ ∧ r₁.status = r.status ∧
      s₁.cluster.statusAt key = s.cluster.statusAt key ∧ s₁.clock = s.clock ∧
      s₁.cluster.failures = s.cluster.failures := by
  unfold ensureFinalizer at h
  dsimp only at h
  split at h
  · rw [exceptState_run_pure, Prod.mk.injEq, Except.ok.injEq] at h
    obtain ⟨rfl, rfl⟩ := h
    exact ⟨hstored, rfl, rfl, rfl, rfl⟩
  obtain ⟨existing, v, hfound', hon, hread₁, ⟨c', rfl, hobjects, honline, hfailures⟩, hstatus,
    hnames⟩ := updateDriver_ok h
  obtain ⟨j, hfound, hread⟩ := hstored.stored
  have hfamily := hstored.family
  subst hfamily
  -- the resource sent names the key, so it replaces the object stored there
  have hsent : Cluster.keyOf (.driver r.family)
      (withFinalizers r (finalizersOf r ++ [finalizer])).toJson = key :=
    (keyOf_withFinalizers _ r _).trans hstored.keyed
  change Cluster.find? s.cluster (Cluster.keyOf (.driver r.family)
    (withFinalizers r (finalizersOf r ++ [finalizer])).toJson) = some existing at hfound'
  change c'.objects = Cluster.putObject s.cluster.objects (Cluster.keyOf (.driver r.family)
    (withFinalizers r (finalizersOf r ++ [finalizer])).toJson) v at hobjects
  rw [hsent, hfound, Option.some.injEq] at hfound'
  subst hfound'
  rw [hsent] at hobjects
  have hfind : c'.find? key = some v := by
    simp only [Cluster.find?_objects, hobjects, Cluster.find?_putObject, if_true]
  have hstored' : Cluster.keyOf (.driver r.family) v = key :=
    (Cluster.keyOf_of_sameNames _ hnames).trans hsent
  refine ⟨⟨honline.trans hon, ⟨v, hfind, hread₁⟩, (DriverResource.keyOf_of_read hread₁ _).trans
    hstored'⟩, DriverResource.status_congr hread hread₁ hstatus, ?_, rfl, hfailures⟩
  simp only [Cluster.statusAt, hfind, hfound, Option.bind_some, hstatus]

theorem getDriver_offline (family : DriverKind) (ns name : String) {s : Controller}
    (hoff : s.cluster.online = false) :
    ∃ e, (getDriver family ns name).run.run s = (.error e, s) :=
  ⟨_, by simp only [getDriver, exceptState_run_bind, onCluster_run, Cluster.get,
    Cluster.reach_error hoff]; rfl⟩

theorem reconcile_of_live {setup : ReconcilerSetup} {family : DriverKind} {ns name : String}
    {s : Controller} {r : DriverResource}
    (hstored : Stored family (Cluster.keyFor (.driver family) (some ns) name) s.cluster r)
    (hlive : beingDeleted r = false) :
    (reconcile setup family ns name).run.run s =
      (reconcileLive setup r).run.run { s with attempts := s.attempts + 1 } := by
  obtain ⟨j, hfound, hread⟩ := hstored.stored
  unfold reconcile
  simp only [exceptState_run_bind, begin_run]
  rw [getDriver_run (s := { s with attempts := s.attempts + 1 }) hstored.online hfound hread]
  simp only [hlive, Bool.false_eq_true, if_false]

theorem reconcile_offline (setup : ReconcilerSetup) (family : DriverKind) (ns name : String)
    {s : Controller} (hoff : s.cluster.online = false) :
    ∃ e s', (reconcile setup family ns name).run.run s = (.error e, s') := by
  obtain ⟨e, he⟩ := getDriver_offline family ns name (s := { s with attempts := s.attempts + 1 })
    hoff
  refine ⟨e, { s with attempts := s.attempts + 1 }, ?_⟩
  unfold reconcile
  simp only [exceptState_run_bind, begin_run, he]

/-! ## What `Never` stands for -/

theorem invalidConfig_backed {family : DriverKind} {key : Cluster.Key} {r : DriverResource}
    {s : Controller} (hplaced : Placed family key r s.cluster) (controllerHA : Bool)
    (e : OperatorError) :
    ((invalidConfig r controllerHA e).run.run s).1 = .ok .never ∧
      Engine.Backed DriverStatus.toJson (r.status.getD {}) s.clock (s.cluster.statusAt key)
        (((invalidConfig r controllerHA e).run.run s).2.cluster.statusAt key) := by
  obtain ⟨hfamily, hp⟩ := hplaced
  subst hfamily
  have hready : StatusPlace r s.cluster := by
    obtain ⟨j, hj, -⟩ := hp.stored
    exact ⟨hp.online, hp.writable, j, hp.keyed ▸ hj⟩
  obtain ⟨seen, hseen⟩ := observation_answers r controllerHA s
  obtain ⟨hnever, x, hx, shown⟩ :=
    Engine.recordInvalid_never (e := e) (storeStatus_stores r) hready hseen
  rw [hp.keyed] at shown
  exact ⟨hnever, .of_shows (Engine.Final.concludes (.inr (.inr hx)) _ _) shown rfl⟩

theorem reconcileConfigured_backed {setup : ReconcilerSetup} {config : ResolvedConfig}
    {family : DriverKind} {key : Cluster.Key} {r : DriverResource} {s : Controller}
    (hplaced : Placed family key r s.cluster)
    (hnever : ((reconcileConfigured setup config r).run.run s).1 = .ok .never) :
    Engine.Backed DriverStatus.toJson (r.status.getD {}) s.clock (s.cluster.statusAt key)
      (((reconcileConfigured setup config r).run.run s).2.cluster.statusAt key) := by
  have hE := engine_places setup config family key
  rw [reconcileConfigured_run] at hnever ⊢
  dsimp only at hnever ⊢
  obtain ⟨path, hpath⟩ : ∃ path, Path.decide (r.status.getD {}).state
      (Digest.fingerprint r.specText != (r.status.getD {}).driverHash) r.spec.forceUpdate = path :=
    ⟨_, rfl⟩
  rw [hpath] at hnever ⊢
  cases path with
  | stop => exact .inr ⟨rfl, Engine.Final.concludes (Path.final_of_decide_stop hpath) _ _⟩
  | checkStateOnly =>
    dsimp only at hnever ⊢
    generalize happly : applyDefaults r config = outcome at hnever ⊢
    rcases outcome with ⟨e, r'⟩ | ⟨u, r'⟩ <;> dsimp only at hnever ⊢
    · obtain ⟨hplaced', hstate⟩ := hplaced.of_defaults (.inr ⟨e, happly⟩)
      exact (hE.invalidConfig_backed hplaced' hstate s.clock).2
    · exact hE.settle_backed (hplaced.of_defaults (.inl ⟨u, happly⟩)).1 hnever
  | resync =>
    dsimp only at hnever ⊢
    generalize happly : applyDefaults r config = outcome at hnever ⊢
    rcases outcome with ⟨e, r'⟩ | ⟨u, r'⟩ <;> dsimp only at hnever ⊢
    · obtain ⟨hplaced', hstate⟩ := hplaced.of_defaults (.inr ⟨e, happly⟩)
      exact (hE.invalidConfig_backed hplaced' hstate s.clock).2
    · obtain ⟨hplaced', hstate⟩ := hplaced.of_defaults (.inl ⟨u, happly⟩)
      -- the resource resynced is the defaulted one, its forced update cleared
      have hcleared : Placed family key
          (if r'.spec.forceUpdate then { r' with spec := { r'.spec with forceUpdate := false } }
            else r') s.cluster ∧
          ((if r'.spec.forceUpdate then { r' with spec := { r'.spec with forceUpdate := false } }
            else r').status.getD {}).state = (r.status.getD {}).state := by
        split
        · exact ⟨hplaced'.of_metadata rfl rfl, hstate⟩
        · exact ⟨hplaced', hstate⟩
      refine hE.resync_backed (engine_answersState setup config) hcleared.1 rfl hcleared.2 ?_
        hnever s.clock
      -- a running installation is resynced only for a changed spec, whose fingerprint is new
      intro _ hrunning
      change (r.status.getD {}).state = .running at hrunning
      rw [hrunning] at hpath
      have hchanged := Path.changed_of_decide_resync hpath
      simp only [hchanged, if_true]
      have hnew : Digest.fingerprint r.specText ≠ (r.status.getD {}).driverHash := by
        simpa using hchanged
      exact hnew

theorem reconcileFinalized_backed {setup : ReconcilerSetup} {family : DriverKind}
    {key : Cluster.Key} {r : DriverResource} {s : Controller}
    (hplaced : Placed family key r s.cluster)
    (hnever : ((reconcileFinalized setup r).run.run s).1 = .ok .never) :
    Engine.Backed DriverStatus.toJson (r.status.getD {}) s.clock (s.cluster.statusAt key)
      (((reconcileFinalized setup r).run.run s).2.cluster.statusAt key) := by
  unfold reconcileFinalized at hnever ⊢
  cases hconfig : resolveConfig setup r with
  | error e =>
    simp only [hconfig] at hnever ⊢
    exact (invalidConfig_backed hplaced true e).2
  | ok config =>
    simp only [hconfig, exceptState_run_bind] at hnever ⊢
    rcases recordConfigVersion_cases r config.controllerHA s with hrun | ⟨e, hrun⟩ | ⟨as, -, hrun⟩ <;>
      rw [hrun] at hnever ⊢ <;> dsimp only at hnever ⊢
    · exact reconcileConfigured_backed hplaced hnever
    · exact (invalidConfig_backed hplaced config.controllerHA e).2
    · cases hnever

theorem reconcileLive_backed {setup : ReconcilerSetup} {family : DriverKind} {key : Cluster.Key}
    {r : DriverResource} {s : Controller} (hstored : Stored family key s.cluster r)
    (hwritable : s.cluster.failing .updateStatus (.driver family) = false)
    (hnever : ((reconcileLive setup r).run.run s).1 = .ok .never) :
    Engine.Backed DriverStatus.toJson (r.status.getD {}) s.clock (s.cluster.statusAt key)
      (((reconcileLive setup r).run.run s).2.cluster.statusAt key) := by
  unfold reconcileLive at hnever ⊢
  rw [exceptState_run_bind] at hnever ⊢
  generalize hfin : (ensureFinalizer r).run.run s = finalized at hnever ⊢
  rcases finalized with ⟨_ | r₁, s₁⟩
  · cases hnever
  dsimp only at hnever ⊢
  obtain ⟨hstored₁, hstatus₁, hshown₁, hclock₁, hfailures₁⟩ := ensureFinalizer_ok hstored hfin
  have hwritable₁ : s₁.cluster.failing .updateStatus (.driver family) = false := by
    simpa only [Cluster.failing, hfailures₁] using hwritable
  have hbacked := reconcileFinalized_backed (hstored₁.placed hwritable₁) hnever
  rwa [hstatus₁, hshown₁, hclock₁] at hbacked

theorem reconcile_backed {setup : ReconcilerSetup} {family : DriverKind} {ns name : String}
    {s s' : Controller} {j : Json} {r : DriverResource} (hkeyed : s.cluster.WellKeyed)
    (hfound : s.cluster.find? (Cluster.keyFor (.driver family) (some ns) name) = some j)
    (hread : DriverResource.read family j = .ok r) (hlive : beingDeleted r = false)
    (hwritable : s.cluster.failing .updateStatus (.driver family) = false)
    (hnever : (reconcile setup family ns name).run.run s = (.ok .never, s')) :
    Engine.Backed DriverStatus.toJson (r.status.getD {}) s.clock
      (s.cluster.statusAt (Cluster.keyFor (.driver family) (some ns) name))
      (s'.cluster.statusAt (Cluster.keyFor (.driver family) (some ns) name)) := by
  cases hon : s.cluster.online
  · obtain ⟨e, s₁, he⟩ := reconcile_offline setup family ns name hon
    rw [he] at hnever
    cases hnever
  have hstored := Stored.of_wellKeyed hkeyed rfl hon hfound hread
  rw [reconcile_of_live hstored hlive] at hnever
  have hbacked := reconcileLive_backed (s := { s with attempts := s.attempts + 1 }) hstored
    hwritable (congrArg Prod.fst hnever)
  rwa [congrArg Prod.snd hnever] at hbacked

/-! ## What `Immediately` stands for -/

/-- The object stored under a key carries the annotation of a configuration version, the one
its spec names. -/
def CarriesConfigVersion (key : Cluster.Key) (c : Cluster) : Prop :=
  ∃ v as version, c.find? key = some v ∧ (Meta.of v).get? "annotations" = some (Json.strMap as) ∧
    as.lookup Defaults.configVersionKey = some version ∧
    v.getPath? ["spec", "driver", "configVersion"] = some (.str version)

theorem update_carriesConfigVersion {r : DriverResource} {as : Defaults.Annotations}
    {c c' : Cluster} {v : Json}
    (has : as.lookup Defaults.configVersionKey = some r.spec.configVersion)
    (h : (Cluster.update (.driver r.family)
      { r with metadata := r.metadata.set "annotations" (Json.strMap as) }.toJson).run.run c =
        (.ok v, c')) :
    CarriesConfigVersion (Cluster.keyOf (.driver r.family) r.toJson) c' := by
  obtain ⟨existing, -, -, -, rfl, -⟩ := Cluster.update_ok h
  obtain ⟨hmembers, hmeta⟩ := Cluster.update_members h
  have hkey : Cluster.keyOf (.driver r.family)
      { r with metadata := r.metadata.set "annotations" (Json.strMap as) }.toJson =
        Cluster.keyOf (.driver r.family) r.toJson := DriverResource.keyOf_of_annotations _ rfl
  refine ⟨v, as, r.spec.configVersion, ?_, ?_, has, ?_⟩
  · rw [← hkey]
    simp only [Cluster.find?_objects, Cluster.find?_putObject, if_true]
  · rw [hmeta _ (by decide) (by decide), Meta.of_toJson, Json.get?_set_self]
  · have hpath := DriverResource.configVersion_path
      { r with metadata := r.metadata.set "annotations" (Json.strMap as) }
    simp only [Json.getPath?] at hpath ⊢
    rw [hmembers "spec" (by decide) (by decide)]
    exact hpath

theorem reconcileConfigured_unhurried (setup : ReconcilerSetup) (config : ResolvedConfig)
    (r : DriverResource) : Engine.Unhurried (reconcileConfigured setup config r) := by
  unfold reconcileConfigured
  dsimp only
  split
  · exact .pure (by simp)
  · split
    · exact Engine.recordInvalid_unhurried
    · split
      · exact Engine.recordSettled_unhurried
      · exact Engine.resync_unhurried _ _

theorem reconcileFinalized_immediately {setup : ReconcilerSetup} {family : DriverKind}
    {key : Cluster.Key} {r : DriverResource} {s s' : Controller}
    (hstored : Stored family key s.cluster r)
    (hupdates : s.cluster.failing .update (.driver family) = false)
    (h : (reconcileFinalized setup r).run.run s = (.ok .immediately, s')) :
    CarriesConfigVersion key s'.cluster := by
  unfold reconcileFinalized at h
  cases hconfig : resolveConfig setup r with
  | error e =>
    simp only [hconfig] at h
    exact absurd (congrArg Prod.fst h) (Engine.recordInvalid_unhurried s)
  | ok config =>
    simp only [hconfig, exceptState_run_bind] at h
    rcases recordConfigVersion_cases r config.controllerHA s with
      hrun | ⟨e, hrun⟩ | ⟨as, hannotated, hrun⟩ <;> rw [hrun] at h <;> dsimp only at h
    · exact absurd (congrArg Prod.fst h) (reconcileConfigured_unhurried setup config r s)
    · cases h
    · -- only the annotation asks for an immediate reconcile, and its write back succeeds
      obtain ⟨-, rfl⟩ := Prod.mk.inj h
      obtain ⟨j, hfound, -⟩ := hstored.stored
      have hfamily := hstored.family
      subst hfamily
      have hkey : Cluster.keyOf (.driver r.family)
          { r with metadata := r.metadata.set "annotations" (Json.strMap as) }.toJson = key :=
        (DriverResource.keyOf_of_annotations _ rfl).trans hstored.keyed
      obtain ⟨v, hupdate, -⟩ := Cluster.update_run hstored.online hupdates (hkey ▸ hfound)
      have hcarries := update_carriesConfigVersion
        (Defaults.lookup_of_annotateConfigVersion hannotated) hupdate
      rw [hstored.keyed] at hcarries
      rw [hupdate]
      exact hcarries

theorem reconcileLive_immediately {setup : ReconcilerSetup} {family : DriverKind}
    {key : Cluster.Key} {r : DriverResource} {s s' : Controller}
    (hstored : Stored family key s.cluster r)
    (hupdates : s.cluster.failing .update (.driver family) = false)
    (h : (reconcileLive setup r).run.run s = (.ok .immediately, s')) :
    CarriesConfigVersion key s'.cluster := by
  unfold reconcileLive at h
  rw [exceptState_run_bind] at h
  generalize hfin : (ensureFinalizer r).run.run s = finalized at h
  rcases finalized with ⟨_ | r₁, s₁⟩
  · cases h
  dsimp only at h
  obtain ⟨hstored₁, -, -, -, hfailures₁⟩ := ensureFinalizer_ok hstored hfin
  have hupdates₁ : s₁.cluster.failing .update (.driver family) = false := by
    simpa only [Cluster.failing, hfailures₁] using hupdates
  exact reconcileFinalized_immediately hstored₁ hupdates₁ h

theorem reconcile_immediately {setup : ReconcilerSetup} {family : DriverKind} {ns name : String}
    {s s' : Controller} {j : Json} {r : DriverResource} (hkeyed : s.cluster.WellKeyed)
    (hfound : s.cluster.find? (Cluster.keyFor (.driver family) (some ns) name) = some j)
    (hread : DriverResource.read family j = .ok r) (hlive : beingDeleted r = false)
    (hupdates : s.cluster.failing .update (.driver family) = false)
    (h : (reconcile setup family ns name).run.run s = (.ok .immediately, s')) :
    CarriesConfigVersion (Cluster.keyFor (.driver family) (some ns) name) s'.cluster := by
  cases hon : s.cluster.online
  · obtain ⟨e, s₁, he⟩ := reconcile_offline setup family ns name hon
    rw [he] at h
    cases h
  have hstored := Stored.of_wellKeyed hkeyed rfl hon hfound hread
  rw [reconcile_of_live hstored hlive] at h
  exact reconcileLive_immediately (s := { s with attempts := s.attempts + 1 }) hstored hupdates h

end Reconcile

namespace Proxy

theorem Stored.of_wellKeyed {ns name : String} {c : Cluster} {j : Json} {p : ProxyResource}
    (hkeyed : c.WellKeyed) (hon : c.online = true)
    (hfound : c.find? (Cluster.keyFor .reverseProxy (some ns) name) = some j)
    (hread : ProxyResource.read j = .ok p) : Stored ns name c p := by
  have hj : Cluster.keyOf .reverseProxy j = Cluster.keyFor .reverseProxy (some ns) name :=
    hkeyed.keyed (_, j) (hkeyed.find?_eq_some.1 hfound)
  exact ⟨hon, ⟨j, hfound, hread⟩, (ProxyResource.keyOf_of_read hread _).trans hj⟩

theorem getProxy_offline (ns name : String) {s : Controller} (hoff : s.cluster.online = false) :
    ∃ e, (getProxy ns name).run.run s = (.error e, s) :=
  ⟨_, by simp only [getProxy, exceptState_run_bind, onCluster_run, Cluster.get,
    Cluster.reach_error hoff]; rfl⟩

theorem reconcile_offline (ns name : String) {s : Controller} (hoff : s.cluster.online = false) :
    ∃ e s', (reconcile ns name).run.run s = (.error e, s') := by
  obtain ⟨e, he⟩ := getProxy_offline ns name (s := { s with attempts := s.attempts + 1 }) hoff
  refine ⟨e, { s with attempts := s.attempts + 1 }, ?_⟩
  unfold reconcile
  simp only [exceptState_run_bind, begin_run, he]

theorem reconcile_backed {ns name : String} {s s' : Controller} {j : Json} {p : ProxyResource}
    (hkeyed : s.cluster.WellKeyed)
    (hfound : s.cluster.find? (Cluster.keyFor .reverseProxy (some ns) name) = some j)
    (hread : ProxyResource.read j = .ok p)
    (hwritable : s.cluster.failing .updateStatus .reverseProxy = false)
    (hnever : (reconcile ns name).run.run s = (.ok .never, s')) :
    Engine.Backed ProxyStatus.toJson (p.status.getD {}) s.clock
      (s.cluster.statusAt (Cluster.keyFor .reverseProxy (some ns) name))
      (s'.cluster.statusAt (Cluster.keyFor .reverseProxy (some ns) name)) := by
  cases hon : s.cluster.online
  · obtain ⟨e, s₁, he⟩ := reconcile_offline ns name hon
    rw [he] at hnever
    cases hnever
  have hstored := Stored.of_wellKeyed hkeyed hon hfound hread
  have hE := engine_places ns (Cluster.keyFor .reverseProxy (some ns) name)
  have hplaced : Placed (Cluster.keyFor .reverseProxy (some ns) name) p
      { s with attempts := s.attempts + 1 }.cluster := hstored.placed hwritable
  have hanswer : ((reconcile ns name).run.run s).1 = .ok .never := congrArg Prod.fst hnever
  have hstate : ((reconcile ns name).run.run s).2 = s' := congrArg Prod.snd hnever
  rw [← hstate, reconcile_of_stored hstored]
  rw [reconcile_of_stored hstored] at hanswer
  dsimp only at hanswer ⊢
  obtain ⟨path, hpath⟩ : ∃ path, Path.decide (p.status.getD {}).state
      (Digest.fingerprint p.specText != (p.status.getD {}).proxyHash) false = path := ⟨_, rfl⟩
  rw [hpath] at hanswer ⊢
  cases path with
  | stop => exact .inr ⟨rfl, Engine.Final.concludes (Path.final_of_decide_stop hpath) _ _⟩
  | checkStateOnly =>
    dsimp only at hanswer ⊢
    exact hE.settle_backed (s := { s with attempts := s.attempts + 1 }) hplaced hanswer
  | resync =>
    dsimp only at hanswer ⊢
    refine hE.resync_backed (s := { s with attempts := s.attempts + 1 }) (engine_answersState ns)
      hplaced rfl rfl ?_ hanswer s.clock
    -- a resync writes a provisional status only for a changed spec, whose fingerprint is new
    intro hchanged _
    simp only [hchanged, if_true]
    have hnew : Digest.fingerprint p.specText ≠ (p.status.getD {}).proxyHash := by
      simpa using hchanged
    exact hnew

theorem reconcile_unhurried (ns name : String) : Engine.Unhurried (reconcile ns name) := by
  unfold reconcile
  refine .bind fun _ => .bind fun found => ?_
  rcases found with _ | p
  · exact .pure (by simp)
  · dsimp only
    split
    · exact .pure (by simp)
    · exact Engine.recordSettled_unhurried
    · exact Engine.resync_unhurried _ _

end Proxy

/-- The answers of a reconcile are backed by what it stores. For a stored driver instance that is
not being deleted, and for a stored proxy: a reconcile that answers `Never` while statuses can be
written leaves a status in a state that needs no further reconcile, or leaves unchanged a status
in such a state. A driver reconcile that answers `Immediately` while writes back succeed leaves
the instance carrying the annotation of its configuration version. A proxy reconcile never
answers `Immediately`. -/
theorem requeue_answers_backed :
    (∀ (setup : ReconcilerSetup) (family : DriverKind) (ns name : String) (s s' : Controller)
        (j : Json) (r : DriverResource) (answer : Except OperatorError Requeue),
      s.cluster.WellKeyed →
      s.cluster.find? (Cluster.keyFor (.driver family) (some ns) name) = some j →
      DriverResource.read family j = .ok r → Reconcile.beingDeleted r = false →
      (Reconcile.reconcile setup family ns name).run.run s = (answer, s') →
      (answer = .ok .never → s.cluster.failing .updateStatus (.driver family) = false →
        Engine.Backed DriverStatus.toJson (r.status.getD {}) s.clock
          (s.cluster.statusAt (Cluster.keyFor (.driver family) (some ns) name))
          (s'.cluster.statusAt (Cluster.keyFor (.driver family) (some ns) name))) ∧
      (answer = .ok .immediately → s.cluster.failing .update (.driver family) = false →
        Reconcile.CarriesConfigVersion (Cluster.keyFor (.driver family) (some ns) name)
          s'.cluster)) ∧
    (∀ (ns name : String) (s s' : Controller) (j : Json) (p : ProxyResource)
        (answer : Except OperatorError Requeue),
      s.cluster.WellKeyed →
      s.cluster.find? (Cluster.keyFor .reverseProxy (some ns) name) = some j →
      ProxyResource.read j = .ok p → (Proxy.reconcile ns name).run.run s = (answer, s') →
      (answer = .ok .never → s.cluster.failing .updateStatus .reverseProxy = false →
        Engine.Backed ProxyStatus.toJson (p.status.getD {}) s.clock
          (s.cluster.statusAt (Cluster.keyFor .reverseProxy (some ns) name))
          (s'.cluster.statusAt (Cluster.keyFor .reverseProxy (some ns) name))) ∧
      answer ≠ .ok .immediately) := by
  refine ⟨fun setup family ns name s s' j r answer hkeyed hfound hread hlive hrun => ⟨?_, ?_⟩,
    fun ns name s s' j p answer hkeyed hfound hread hrun => ⟨?_, ?_⟩⟩
  · rintro rfl hwritable
    exact Reconcile.reconcile_backed hkeyed hfound hread hlive hwritable hrun
  · rintro rfl hupdates
    exact Reconcile.reconcile_immediately hkeyed hfound hread hlive hupdates hrun
  · rintro rfl hwritable
    exact Proxy.reconcile_backed hkeyed hfound hread hwritable hrun
  · have hunhurried := Proxy.reconcile_unhurried ns name s
    rwa [hrun] at hunhurried

/-! ## Instances at rest

The PowerStore instance and the proxy of the refused installations, each with its failure
recorded for its current spec, in a store that holds only it. -/

namespace Parked

def driver : DriverResource :=
  { Refused.driver with status := some { driverHash := 6242903749412655361, state := .failed } }

def driverStart : Controller where
  cluster := { objects := [(Cluster.keyFor (.driver .powerStore) (some "ns") "d", driver.toJson)] }
  clock := .ofSeconds 1700000000

def proxy : ProxyResource :=
  { Refused.proxy with status := some { proxyHash := 14202204240202569276, state := .failed } }

def proxyStart : Controller where
  cluster := { objects := [(Cluster.keyFor .reverseProxy (some "ns") "p", proxy.toJson)] }
  clock := .ofSeconds 1700000000

end Parked

/-- Reconciles of the parked instances answer `Never` and leave their failures stored. -/
theorem parked_requeue_answers_backed :
    let driverRun := (Reconcile.reconcile Refused.setup .powerStore "ns" "d").run.run
      Parked.driverStart
    let proxyRun := (Proxy.reconcile "ns" "p").run.run Parked.proxyStart
    driverRun.1 = .ok .never ∧
      Engine.Backed DriverStatus.toJson (Parked.driver.status.getD {}) Parked.driverStart.clock
        (Parked.driverStart.cluster.statusAt (Cluster.keyFor (.driver .powerStore) (some "ns") "d"))
        (driverRun.2.cluster.statusAt (Cluster.keyFor (.driver .powerStore) (some "ns") "d")) ∧
    proxyRun.1 = .ok .never ∧
      Engine.Backed ProxyStatus.toJson (Parked.proxy.status.getD {}) Parked.proxyStart.clock
        (Parked.proxyStart.cluster.statusAt (Cluster.keyFor .reverseProxy (some "ns") "p"))
        (proxyRun.2.cluster.statusAt (Cluster.keyFor .reverseProxy (some "ns") "p")) := by
  intro driverRun proxyRun
  have driverKeyed : Parked.driverStart.cluster.WellKeyed :=
    ⟨List.pairwise_singleton _ _, fun q hq => by rw [List.mem_singleton.1 hq]; decide⟩
  have proxyKeyed : Parked.proxyStart.cluster.WellKeyed :=
    ⟨List.pairwise_singleton _ _, fun q hq => by rw [List.mem_singleton.1 hq]; decide⟩
  have driverNever : driverRun.1 = .ok .never := by decide +kernel
  have proxyNever : proxyRun.1 = .ok .never := by decide +kernel
  exact ⟨driverNever, (requeue_answers_backed.1 Refused.setup .powerStore "ns" "d"
      Parked.driverStart driverRun.2 Parked.driver.toJson Parked.driver driverRun.1 driverKeyed rfl
      rfl rfl rfl).1 driverNever rfl,
    proxyNever, (requeue_answers_backed.2 "ns" "p" Parked.proxyStart proxyRun.2 Parked.proxy.toJson
      Parked.proxy proxyRun.1 proxyKeyed rfl rfl rfl).1 proxyNever rfl⟩

/-! ## Answers not backed

A PowerStore instance whose configuration does not resolve while its statuses cannot be written,
and one that lacks the annotation of its configuration version while it cannot be written back. -/

namespace Unbacked

def unresolved : ReconcilerSetup := { source := .fixed none }

def unrecorded : Controller where
  cluster :=
    { objects := [(Cluster.keyFor (.driver .powerStore) (some "ns") "d",
        { Refused.driver with status := none }.toJson)],
      failures := [⟨.updateStatus, .driver .powerStore, "etcd unavailable"⟩] }
  clock := .ofSeconds 1700000000

def unannotated : Controller where
  cluster :=
    { objects := [(Cluster.keyFor (.driver .powerStore) (some "ns") "d",
        { Refused.driver with
          metadata := .obj [("finalizers", .arr [.str "finalizer.dell.emc.com"]), ("name", .str "d"),
            ("namespace", .str "ns")]
          status := none }.toJson)],
      failures := [⟨.update, .driver .powerStore, "etcd unavailable"⟩] }
  clock := .ofSeconds 1700000000

def installed : Controller :=
  ((Reconcile.reconcile Refused.setup .powerStore "ns" "d").run.run
    { cluster := { objects := [(Cluster.keyFor (.driver .powerStore) (some "ns") "d",
        { Refused.driver with status := none }.toJson)] },
      clock := .ofSeconds 1700000000 }).2

/-- The installed instance with its success back-dated by an hour and given a message. -/
def restated : Controller :=
  { installed with
    cluster := ((Cluster.patch (.driver .powerStore) (some "ns") "d"
      (.obj [("status", .obj [("lastUpdate", .obj [("condition", .str "Succeeded"),
        ("errorMessage", .str "x"), ("time", .str "2023-11-14T21:13:20Z")])])])).run
      installed.cluster).2 }

end Unbacked

/-- A reconcile may answer `Never` and leave no status at all, when its invalid configuration
cannot be recorded; it may answer `Never` and store a success whose time is its own clock, when the
success it read was an hour old but carried a message; and it may answer `Immediately` and leave
the instance without the annotation of its configuration version, when the annotation cannot be
written back. -/
theorem requeue_answers_unbacked :
    let unrecordedRun := (Reconcile.reconcile Unbacked.unresolved .powerStore "ns" "d").run.run
      Unbacked.unrecorded
    let restatedRun := (Reconcile.reconcile Refused.setup .powerStore "ns" "d").run.run
      Unbacked.restated
    let unannotatedRun := (Reconcile.reconcile Refused.setup .powerStore "ns" "d").run.run
      Unbacked.unannotated
    unrecordedRun.1 = .ok .never ∧
      (unrecordedRun.2.cluster.statusAt
        (Cluster.keyFor (.driver .powerStore) (some "ns") "d")).isNone = true ∧
    restatedRun.1 = .ok .never ∧
      (restatedRun.2.cluster.statusAt (Cluster.keyFor (.driver .powerStore) (some "ns") "d")).map
        (fun j => (DriverStatus.read j).toOption.map fun x => (x.state, x.lastUpdate.time)) =
        some (some (.succeeded, some Unbacked.restated.clock)) ∧
    unannotatedRun.1 = .ok .immediately ∧
      (unannotatedRun.2.cluster.find? (Cluster.keyFor (.driver .powerStore) (some "ns") "d")).map
        (fun v => ((Meta.of v).get? "annotations").isNone) = some true := by
  intro unrecordedRun restatedRun unannotatedRun
  decide +kernel

end CsiOperator
