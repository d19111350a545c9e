import Mathlib
import CsiOperator.Proofs.Controller
import CsiOperator.Proofs.Convergence
import CsiOperator.Proofs.Lifecycle
/-!
The paths a reconcile takes, as equations between runs.

Each lemma replaces one function of a reconcile by what it does from a state in which its
guards are decided: a status write that stores the new status when it changed; a failed
convergence that records an error, keeps a recorded one, or escalates; a resync of an
instance whose spec needs no update; and a reconcile of an instance that carries its
finalizer and annotation, whose spec is already initialized and whose status carries its
spec's fingerprint. Later statements compose these equations and never unfold a reconcile.
-/

namespace CsiOperator

theorem Defaults.initializeSpec_shape {r r₁ : DriverResource} {c : ResolvedConfig} {u : Bool}
    (h : Defaults.initializeSpec r c = .ok (u, r₁)) :
    ∃ d as, r₁ = { r with
      spec := d
      metadata := r.metadata.set "annotations" (Json.strMap as)
      status := r.status.map fun s => { s with lastUpdate := { s.lastUpdate with errorMessage := "" } } } := by
  unfold Defaults.initializeSpec at h
  simp only [bind, Except.bind] at h
  split at h
  · cases h
  · split at h
    · cases h
    · split at h
      · cases h
      · cases h
        exact ⟨_, _, rfl⟩

theorem Hooks.initializeDriverSpec_shape {r r₂ : DriverResource} {u : Bool}
    (h : Hooks.initializeDriverSpec r = .ok (u, r₂)) : ∃ d, r₂ = { r with spec := d } := by
  unfold Hooks.initializeDriverSpec at h
  split at h
  · dsimp only at h
    split at h
    · cases h
      exact ⟨r.spec, rfl⟩
    · cases h
      exact ⟨_, rfl⟩
  · simp only [bind, Except.bind] at h
    split at h
    · cases h
    · cases h
      exact ⟨_, rfl⟩
  · cases h
    exact ⟨_, rfl⟩

theorem ok_of_mapError_match {ε ε' α : Type} {f : ε → ε'} {x : Except ε α} {v : α}
    (h : (match x with
      | Except.error err => Except.error (f err)
      | Except.ok v => Except.ok v) = (Except.ok v : Except ε' α)) : x = .ok v := by
  cases x <;> simp_all

theorem Reconcile.applyDefaults_shape {r r' : DriverResource} {config : ResolvedConfig} {u : Bool}
    (h : Reconcile.applyDefaults r config = .ok (u, r')) :
    r'.family = r.family ∧ ∃ as, r'.metadata = r.metadata.set "annotations" (Json.strMap as) := by
  unfold Reconcile.applyDefaults at h
  simp only [bind, Except.bind, Except.mapError] at h
  split at h
  · cases h
  · next common hcommon =>
    obtain ⟨u₁, r₁⟩ := common
    obtain ⟨d, as, rfl⟩ := Defaults.initializeSpec_shape (ok_of_mapError_match hcommon)
    split at h
    · cases h
    · next own hown =>
      obtain ⟨u₂, r₂⟩ := own
      obtain ⟨d', rfl⟩ := Hooks.initializeDriverSpec_shape (ok_of_mapError_match hown)
      cases h
      exact ⟨rfl, as, rfl⟩

theorem Meta.of_toJson (r : DriverResource) : Meta.of r.toJson = r.metadata := by
  have member : r.toJson.get? "metadata" = some r.metadata := Json.get?_fields (by simp) (by simp)
  simp only [Meta.of, member, Option.getD_some]

theorem DriverResource.keyOf_toJson (k : ResourceKind) (r : DriverResource) :
    Cluster.keyOf k r.toJson = Cluster.keyFor k (r.metadata.strOpt "namespace")
      ((r.metadata.strOpt "name").getD ((r.metadata.strOpt "generateName").getD "")) := by
  simp only [Cluster.keyOf, Meta.namespace?, Meta.nameAny, Meta.name?, Meta.of_toJson]

theorem DriverResource.keyOf_of_annotations (k : ResourceKind) {r₁ r₂ : DriverResource} {v : Json}
    (h : r₁.metadata = r₂.metadata.set "annotations" v) :
    Cluster.keyOf k r₁.toJson = Cluster.keyOf k r₂.toJson := by
  simp only [DriverResource.keyOf_toJson, h, Json.strOpt,
    Json.get?_set_of_ne _ _ (show "annotations" ≠ "namespace" by decide),
    Json.get?_set_of_ne _ _ (show "annotations" ≠ "name" by decide),
    Json.get?_set_of_ne _ _ (show "annotations" ≠ "generateName" by decide)]

theorem DriverResource.family_of_read {family : DriverKind} {j : Json} {r : DriverResource}
    (h : DriverResource.read family j = .ok r) : r.family = family := by
  cases j with
  | obj xs =>
    rw [← Reader.record_value h]
    rfl
  | _ => simp [DriverResource.read, Reader.record, Reader.wrongType, Reader.fail] at h

namespace Reconcile

open Controller

theorem readDriver_stays (family : DriverKind) (j : Json) : Stays Eq (readDriver family j) := by
  unfold readDriver
  split
  · exact Stays.pure _
  · exact Stays.throw _

theorem readDriver_run {family : DriverKind} {j : Json} {r : DriverResource}
    (hread : DriverResource.read family j = .ok r) (s : Controller) :
    (readDriver family j).run.run s = (.ok r, s) := by
  simp only [readDriver, hread]
  rfl

theorem getDriver_run {family : DriverKind} {ns name : String} {s : Controller} {j : Json}
    {r : DriverResource} (hon : s.cluster.online = true)
    (hfound : s.cluster.find? (Cluster.keyFor (.driver family) (some ns) name) = some j)
    (hread : DriverResource.read family j = .ok r) :
    (getDriver family ns name).run.run s = (.ok (some r), s) := by
  simp only [getDriver, exceptState_run_bind, onCluster_run, Cluster.get_run hon, hfound,
    exceptState_run_map, readDriver_run hread]
  rfl

theorem recordConfigVersion_run {r : DriverResource} {controllerHA : Bool} {as : Defaults.Annotations}
    (hannotated : Defaults.annotateConfigVersion ((Defaults.annotationsOf r).getD [])
      r.spec.configVersion = .ok (false, as)) (s : Controller) :
    (recordConfigVersion r controllerHA).run.run s = (.ok none, s) := by
  unfold recordConfigVersion
  simp only [hannotated]
  split <;> rfl

theorem observation_answers (r : DriverResource) (controllerHA : Bool) (s : Controller) :
    ∃ seen, (observation r controllerHA).run.run s = (.ok seen, s) := by
  obtain ⟨report, hreport⟩ := Observe.calculateState_answers r controllerHA s.cluster
  exact ⟨_, by simp only [observation, exceptState_run_bind, onCluster_run, hreport]; rfl⟩

theorem storeStatus_state (r : DriverResource) (new : DriverStatus) (s : Controller) :
    ((storeStatus r new).run.run s).2 =
      { s with cluster := ((Cluster.updateStatus (.driver r.family)
        { r with status := some new }.toJson).run.run s.cluster).2 } := by
  unfold storeStatus
  rw [Stays.state_bind (readDriver_stays _), onCluster_run]

/-- Where a driver's statuses are stored, and what a store there needs: a server that answers,
status writes of its kind that are not made to fail, and a stored object. -/
def StatusPlace (r : DriverResource) (c : Cluster) : Prop :=
  c.online = true ∧ c.failing .updateStatus (.driver r.family) = false ∧
    ∃ j, c.find? (Cluster.keyOf (.driver r.family) r.toJson) = some j

theorem storeStatus_stores (r : DriverResource) :
    Engine.Stores (storeStatus r) (StatusPlace r)
      (Cluster.statusAt · (Cluster.keyOf (.driver r.family) r.toJson)) DriverStatus.toJson where
  shows x s := by
    rintro ⟨hon, hfail, j, hfound⟩
    have samekey : Cluster.keyOf (.driver r.family) { r with status := some x }.toJson =
        Cluster.keyOf (.driver r.family) r.toJson := by
      simp only [DriverResource.keyOf_toJson]
    rw [storeStatus_state, Cluster.statusAt_updateStatus hon hfail (samekey ▸ hfound),
      if_pos samekey.symm, DriverResource.get?_toJson_status]
    rfl
  ready x s := by
    rintro ⟨hon, hfail, j, hfound⟩
    have samekey : Cluster.keyOf (.driver r.family) { r with status := some x }.toJson =
        Cluster.keyOf (.driver r.family) r.toJson := by
      simp only [DriverResource.keyOf_toJson]
    rw [storeStatus_state, Cluster.updateStatus_run hon hfail (samekey ▸ hfound)]
    refine ⟨hon, hfail, ?_⟩
    simp only [Cluster.find?_objects, Cluster.find?_putObject, samekey, if_true, Option.some.injEq,
      exists_eq']

section Engine

variable (setup : ReconcilerSetup) (config : ResolvedConfig) (r : DriverResource)

@[simp] theorem engine_status : (engine setup config).status r = r.status.getD {} := rfl

@[simp] theorem engine_validate : (engine setup config).validate r = validate setup r config := rfl

@[simp] theorem engine_converge : (engine setup config).converge r =
    converge (Cluster.keyOf (.driver r.family) r.toJson) r.spec.specJson
      (Sync.syncDriver (BuildContext.ofResource r config setup.settings.isOpenshift)) := rfl

@[simp] theorem engine_storeStatus : (engine setup config).storeStatus r = storeStatus r := rfl

@[simp] theorem engine_observeConverged :
    (engine setup config).observeConverged r = observation r config.controllerHA := rfl

@[simp] theorem engine_observe :
    (engine setup config).observe r = observation r config.controllerHA := rfl

theorem engine_prepare : (engine setup config).prepare r = (do
    let stored ← updateDriver r
    pure { stored with status := r.status.or stored.status }) := by
  simp only [engine]
  cases r.status <;> rfl

end Engine

/-- A stored driver instance whose reconcile gets through its preparation: it can be read from
under its key, which is its own, it is not being deleted, it carries the finalizer and the
annotation of its configuration version, and its configuration resolves. -/
structure Prepared (setup : ReconcilerSetup) (family : DriverKind) (ns name : String)
    (c : Cluster) (config : ResolvedConfig) (r : DriverResource) : Prop where
  online : c.online = true
  stored : ∃ j, c.find? (Cluster.keyFor (.driver family) (some ns) name) = some j ∧
    DriverResource.read family j = .ok r
  keyed : Cluster.keyOf (.driver family) r.toJson = Cluster.keyFor (.driver family) (some ns) name
  notDeleted : beingDeleted r = false
  finalized : (finalizersOf r).contains finalizer = true
  configured : resolveConfig setup r = .ok config
  annotated : ∃ as, Defaults.annotateConfigVersion ((Defaults.annotationsOf r).getD [])
    r.spec.configVersion = .ok (false, as)

theorem reconcileConfigured_run (setup : ReconcilerSetup) (config : ResolvedConfig)
    (r : DriverResource) (s : Controller) :
    (reconcileConfigured setup config r).run.run s =
      let E := engine setup config
      let old := r.status.getD {}
      let changed := Digest.fingerprint r.specText != old.driverHash
      let new := if changed then { old with driverHash := Digest.fingerprint r.specText } else old
      match Path.decide old.state changed r.spec.forceUpdate with
      | .stop => (.ok .never, s)
      | .checkStateOnly =>
        match applyDefaults r config with
        | .error (e, r') => (E.invalidConfig r' e).run.run s
        | .ok (_, r') => (E.settle r' new old).run.run s
      | .resync =>
        match applyDefaults r config with
        | .error (e, r') => (E.invalidConfig r' e).run.run s
        | .ok (u, r') =>
          (E.resync
            (if r'.spec.forceUpdate then { r' with spec := { r'.spec with forceUpdate := false } }
              else r')
            (u || changed || r'.spec.forceUpdate) { new with state := .updating } old).run.run s := by
  unfold reconcileConfigured
  simp only [engine_status]
  obtain ⟨path, hpath⟩ : ∃ path, Path.decide (r.status.getD {}).state
      (Digest.fingerprint r.specText != (r.status.getD {}).driverHash) r.spec.forceUpdate = path :=
    ⟨_, rfl⟩
  simp only [hpath]
  cases path
  · simp only [reduceCtorEq, if_false, if_true]
    rcases applyDefaults r config with ⟨e, r'⟩ | ⟨u, r'⟩ <;> rfl
  · simp only [reduceCtorEq, if_false, if_true]
    rcases applyDefaults r config with ⟨e, r'⟩ | ⟨u, r'⟩ <;> rfl
  · simp only [if_true]
    rfl

theorem reconcile_of_prepared {setup : ReconcilerSetup} {family : DriverKind} {ns name : String}
    {c : Controller} {config : ResolvedConfig} {r : DriverResource}
    (hprep : Prepared setup family ns name c.cluster config r) :
    (reconcile setup family ns name).run.run c =
      let E := engine setup config
      let old := r.status.getD {}
      let changed := Digest.fingerprint r.specText != old.driverHash
      let new := if changed then { old with driverHash := Digest.fingerprint r.specText } else old
      let begun := { c with attempts := c.attempts + 1 }
      match Path.decide old.state changed r.spec.forceUpdate with
      | .stop => (.ok .never, begun)
      | .checkStateOnly =>
        match applyDefaults r config with
        | .error (e, r') => (E.invalidConfig r' e).run.run begun
        | .ok (_, r') => (E.settle r' new old).run.run begun
      | .resync =>
        match applyDefaults r config with
        | .error (e, r') => (E.invalidConfig r' e).run.run begun
        | .ok (u, r') =>
          (E.resync
            (if r'.spec.forceUpdate then { r' with spec := { r'.spec with forceUpdate := false } }
              else r')
            (u || changed || r'.spec.forceUpdate) { new with state := .updating } old).run.run
              begun := by
  obtain ⟨j, hfound, hread⟩ := hprep.stored
  obtain ⟨as, hannotated⟩ := hprep.annotated
  rw [← reconcileConfigured_run]
  unfold reconcile reconcileLive ensureFinalizer reconcileFinalized
  simp only [exceptState_run_bind, begin_run]
  rw [getDriver_run (s := { c with attempts := c.attempts + 1 }) hprep.online hfound hread]
  simp only [hprep.notDeleted, hprep.finalized, hprep.configured, Bool.false_eq_true, if_false,
    if_true, exceptState_run_bind, exceptState_run_pure, recordConfigVersion_run hannotated]

/-- A prepared reconcile that cannot converge: initializing its spec changes nothing, it passes
validation, converging its objects fails, and its status can be written. -/
structure Stuck (setup : ReconcilerSetup) (c : Cluster) (config : ResolvedConfig)
    (r r' : DriverResource) : Prop where
  initialized : applyDefaults r config = .ok (false, r')
  fixpoint : r'.spec = r.spec
  valid : ((validate setup r' config).run.run c).1 = .ok ()
  fails : ∃ e, ((Sync.syncDriver
    (BuildContext.ofResource r' config setup.settings.isOpenshift)).run.run c).1 = .error e
  writable : c.failing .updateStatus (.driver r.family) = false

theorem reconcile_of_stuck {setup : ReconcilerSetup} {family : DriverKind} {ns name : String}
    {c : Controller} {config : ResolvedConfig} {r r' : DriverResource} {st : DriverStatus}
    (hprep : Prepared setup family ns name c.cluster config r)
    (hstuck : Stuck setup c.cluster config r r') (hforce : r.spec.forceUpdate = false)
    (hstatus : r.status = some st) (hhash : st.driverHash = Digest.fingerprint r.specText)
    (hpath : Path.decide st.state false false = .resync) :
    ∃ e s, s.clock = c.clock ∧ Cluster.KeepsInputs c.cluster s.cluster ∧
      (reconcile setup family ns name).run.run c =
        (Engine.recordFailed (observation r' config.controllerHA) (storeStatus r') r'
          { st with state := .updating } st e).run.run s := by
  obtain ⟨e, hsync⟩ := hstuck.fails
  have hvalid : (validate setup r' config).run.run c.cluster = (.ok (), c.cluster) :=
    Prod.ext hstuck.valid (validate_stays setup r' config c.cluster).symm
  have hforce' : r'.spec.forceUpdate = false := by
    rw [hstuck.fixpoint]
    exact hforce
  have unchanged : (Digest.fingerprint r.specText != st.driverHash) = false := by
    simp [hhash]
  rw [reconcile_of_prepared hprep]
  simp only [hstatus, Option.getD_some, unchanged, hforce, hpath, hstuck.initialized,
    hforce', Bool.false_eq_true, if_false, Bool.or_self]
  let begun := { c with attempts := c.attempts + 1 }
  have hconverge : ((engine setup config).converge r').run.run begun = (.ok (.error e),
      { begun with
        cluster := ((Sync.syncDriver
          (BuildContext.ofResource r' config setup.settings.isOpenshift)).run.run c.cluster).2
        converged := begun.converged ++
          [⟨Cluster.keyOf (.driver r'.family) r'.toJson, c.clock, r'.spec.specJson, false⟩] }) := by
    rw [engine_converge, converge_run, show begun.cluster = c.cluster from rfl, hsync]
    rfl
  rw [Engine.resync_run (engine setup config) (s := begun) hvalid hconverge]
  refine ⟨e, _, ?_, ?_, rfl⟩
  · rfl
  · exact Sync.syncDriver_keeps _ c.cluster

end Reconcile

end CsiOperator
