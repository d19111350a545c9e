import CsiOperator.Engine.Lifecycle
import CsiOperator.Engine.Sync
import CsiOperator.Spec.Hooks
import CsiOperator.Validation.Spec
import CsiOperator.Digest.Sha256
/-!
Reconciling one driver resource: the whole lifecycle of an installation, one step at a time.

A reconcile reads the resource, releases it when its deletion was requested, makes sure it
carries the finalizer, resolves its configuration, records the configuration version on a
first installation, compares the spec's fingerprint with the recorded one to choose its path,
applies the defaults, validates, converges the cluster objects and records the observed state.

Every outcome is written to the resource's status, and only when the status changed. A
configuration the operator cannot use marks the resource `InvalidConfig` and is not retried;
a failed convergence is retried with a growing wait until it has failed for half an hour, and
then the resource is marked `Failed`.
-/

namespace CsiOperator.Reconcile

open Controller

/-- The finalizer that holds a driver resource until its cluster-scoped objects are released. -/
def finalizer : String := "finalizer.dell.emc.com"

/-- The finalizers of a resource. -/
def finalizersOf (r : DriverResource) : List String :=
  ((r.metadata.get? "finalizers").map Json.strList).getD []

/-- A resource with other finalizers. -/
def withFinalizers (r : DriverResource) (fs : List String) : DriverResource :=
  { r with metadata := r.metadata.set "finalizers" (Json.strs fs) }

/-- Whether deletion of a resource was requested. -/
def beingDeleted (r : DriverResource) : Bool := (r.metadata.get? "deletionTimestamp").isSome

/-- Reads a stored driver resource. -/
def readDriver (family : DriverKind) (j : Json) : ControllerM DriverResource :=
  match DriverResource.read family j with
  | .ok r => pure r
  | .error e => throw (.serialization e.message)

/-- The stored driver resource with a name, if any. -/
def getDriver (family : DriverKind) (ns name : String) : ControllerM (Option DriverResource) := do
  match ← onCluster (Cluster.get (.driver family) (some ns) name) with
  | none => pure none
  | some j => some <$> readDriver family j

/-- Replaces a stored driver resource; answers the stored form. -/
def updateDriver (r : DriverResource) : ControllerM DriverResource := do
  readDriver r.family (← onCluster (Cluster.update (.driver r.family) r.toJson))

instance : LifecycleStatus DriverStatus where
  state s := s.state
  hash s := s.driverHash
  lastUpdate s := s.lastUpdate
  withState s state := { s with state }
  withLastUpdate s lastUpdate := { s with lastUpdate }
  state_withState _ _ := rfl
  hash_withState _ _ := rfl
  lastUpdate_withState _ _ := rfl
  state_withLastUpdate _ _ := rfl
  hash_withLastUpdate _ _ := rfl
  lastUpdate_withLastUpdate _ _ := rfl

/-- Stores a driver resource's status; answers the resource as stored. -/
def storeStatus (r : DriverResource) (new : DriverStatus) : ControllerM DriverResource := do
  readDriver r.family (← onCluster (Cluster.updateStatus (.driver r.family) { r with status := some new }.toJson))

/-- The configuration of a resource. -/
def resolveConfig (setup : ReconcilerSetup) (r : DriverResource) : Outcome ResolvedConfig :=
  setup.source.resolve r.family r.spec.configVersion setup.settings.kubeVersion

/-- A status with the pods observed. -/
def observed (s : DriverStatus) (report : Observe.StateReport) : DriverStatus :=
  { s with controllerStatus := report.controller, nodeStatus := report.node }

/-- Observes a driver installation: its controller runs as a Deployment when `controllerHA`,
else as a StatefulSet. -/
def observation (r : DriverResource) (controllerHA : Bool) :
    ControllerM (Observation DriverStatus) := do
  let report ← onCluster (Observe.calculateState r controllerHA)
  pure ⟨report.running, (observed · report), report.error, fun _ => rfl⟩

/-- Marks a resource whose configuration cannot be used; it is not retried. -/
def invalidConfig (r : DriverResource) (controllerHA : Bool) (e : OperatorError) :
    ControllerM Requeue :=
  Engine.recordInvalid (observation r controllerHA) (storeStatus r) r (r.status.getD {}) e

/-- Validates a resource against its configuration and the cluster. -/
def validate (setup : ReconcilerSetup) (r : DriverResource) (config : ResolvedConfig) :
    ClusterM Unit := do
  Validation.validateSpec r config setup.settings.strictCheck
  Validation.validateDriverSpec r

/-- The steps of the driver engine for a resolved configuration. A changed spec is written back
before its status is recorded, keeping the status the reconcile works with. -/
def engine (setup : ReconcilerSetup) (config : ResolvedConfig) : Engine DriverResource DriverStatus where
  status r := r.status.getD {}
  observe r := observation r config.controllerHA
  observeConverged r := observation r config.controllerHA
  storeStatus := storeStatus
  prepare r := do
    let stored ← updateDriver r
    pure (match r.status with
      | some s => { stored with status := some s }
      | none => stored)
  validate r := validate setup r config
  converge r := converge (Cluster.keyOf (.driver r.family) r.toJson) r.spec.specJson
    (Sync.syncDriver (BuildContext.ofResource r config setup.settings.isOpenshift))

/-- Deletes the placeholder role of a resource whose deletion was requested. When the role is
already gone and the configuration is usable, a last convergence first points every
cluster-scoped object at a fresh one; otherwise those objects are left behind. -/
def releaseRole (setup : ReconcilerSetup) (r : DriverResource) : ControllerM Unit := do
  let dummy := Build.dummyClusterRoleName r.name (r.namespace?.getD "")
  match ← onCluster (Cluster.get .clusterRole none dummy) with
  | some _ => onCluster (Cluster.delete .clusterRole none dummy)
  | none =>
    let invalid := (r.status.map (·.state == .invalidConfig)).getD false
    match resolveConfig setup r with
    | .ok config =>
      if !invalid then
        onCluster (Sync.syncDriver (BuildContext.ofResource r config setup.settings.isOpenshift))
        onCluster (Cluster.delete .clusterRole none dummy)
    | .error _ => pure ()

/-- Removes the finalizer from a resource that carries it. -/
def dropFinalizer (r : DriverResource) : ControllerM Unit := do
  let fs := finalizersOf r
  if fs.contains finalizer then
    let _ ← updateDriver (withFinalizers r (fs.filter (· != finalizer)))

/-- Releases a resource whose deletion was requested: its placeholder role is deleted, and then
the finalizer is removed. -/
def finalize (setup : ReconcilerSetup) (r : DriverResource) : ControllerM Requeue := do
  releaseRole setup r
  dropFinalizer r
  pure .never

/-- Applies the generic and the family's defaults; says whether anything changed. -/
def applyDefaults (r : DriverResource) (config : ResolvedConfig) :
    Except (OperatorError × DriverResource) (Bool × DriverResource) := do
  let (common, r) ← (Defaults.initializeSpec r config).mapError (·, r)
  let (own, r) ← (Hooks.initializeDriverSpec r).mapError (·, r)
  pure (common || own, r)

/-- Records the configuration version on a first installation: `true` when the resource was
annotated, which ends this reconcile. -/
def recordConfigVersion (r : DriverResource) (controllerHA : Bool) :
    ControllerM (Option Requeue) := do
  let old := r.status.getD {}
  if old.driverHash != 0 && !r.spec.configVersion.isEmpty then return none
  match Defaults.annotateConfigVersion ((Defaults.annotationsOf r).getD []) r.spec.configVersion with
  | .error e => some <$> invalidConfig r controllerHA e
  | .ok (false, _) => pure none
  | .ok (true, as) =>
    let _ ← tryCluster (Cluster.update (.driver r.family)
      { r with metadata := r.metadata.set "annotations" (Json.strMap as) }.toJson)
    pure (some .immediately)

/-- Reconciles a resource whose configuration resolved and whose configuration version is
recorded: the spec's fingerprint and the recorded state choose the path, the defaults are applied,
and the state is checked or the installation resynced. -/
def reconcileConfigured (setup : ReconcilerSetup) (config : ResolvedConfig) (r : DriverResource) :
    ControllerM Requeue := do
  let E := engine setup config
  let old := E.status r
  let fingerprint := Digest.fingerprint r.specText
  let changed := fingerprint != old.driverHash
  let new := if changed then { old with driverHash := fingerprint } else old
  let path := Path.decide old.state changed r.spec.forceUpdate
  if path = .stop then return .never
  let new := if path = .resync then { new with state := .updating } else new
  match applyDefaults r config with
  | .error (e, r) => E.invalidConfig r e
  | .ok (specUpdated, r) =>
    if path = .checkStateOnly then E.settle r new old
    else
      -- a forced update is cleared in the spec written back
      let force := r.spec.forceUpdate
      let r := if force then { r with spec := { r.spec with forceUpdate := false } } else r
      E.resync r (specUpdated || changed || force) new old

/-- Makes sure a resource carries the finalizer; answers the resource as stored. -/
def ensureFinalizer (r : DriverResource) : ControllerM DriverResource :=
  let fs := finalizersOf r
  if fs.contains finalizer then pure r else updateDriver (withFinalizers r (fs ++ [finalizer]))

/-- Reconciles a resource that carries the finalizer: resolves its configuration and records its
configuration version before the rest. -/
def reconcileFinalized (setup : ReconcilerSetup) (r : DriverResource) : ControllerM Requeue := do
  match resolveConfig setup r with
  | .error e => invalidConfig r true e
  | .ok config =>
    match ← recordConfigVersion r config.controllerHA with
    | some q => pure q
    | none => reconcileConfigured setup config r

/-- Reconciles a stored resource whose deletion was not requested: makes sure it carries the
finalizer, then reconciles it. -/
def reconcileLive (setup : ReconcilerSetup) (r : DriverResource) : ControllerM Requeue := do
  let r ← ensureFinalizer r
  reconcileFinalized setup r

/-- Reconciles the driver resource of a family with a namespace and name. -/
def reconcile (setup : ReconcilerSetup) (family : DriverKind) (ns name : String) :
    ControllerM Requeue := do
  begin
  let some r ← getDriver family ns name | return .never
  if beingDeleted r then finalize setup r else reconcileLive setup r

end CsiOperator.Reconcile
