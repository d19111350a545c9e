import CsiOperator.Proxy.Validate
import CsiOperator.Engine.Lifecycle
import CsiOperator.Engine.Sync
import CsiOperator.Digest.Sha256
/-!
Reconciling a reverse proxy resource. The lifecycle is that of a driver installation, without
finalizers, forced updates or defaults: the spec's fingerprint chooses the path, a changed spec
is validated and its objects converged, and the observed state of its Deployment is recorded.

Converging writes the configuration map, the service, the service account (only when missing),
the role, its binding and the Deployment, and stops at the first failure.
-/

namespace CsiOperator.Proxy

open Controller

/-- Converges every object of a proxy installation, stopping at the first failure. -/
def syncProxy (p : ProxyResource) : ClusterM Unit := do
  let cm ← match configMap p with
    | .ok c => pure c
    | .error e => throw e
  let _ ← Sync.createOrUpdate .configMap cm
  let _ ← Sync.createOrUpdate .service (service p)
  Sync.ensureServiceAccount (serviceAccount p)
  let _ ← Sync.createOrUpdate .role (role p)
  let _ ← Sync.createOrUpdate .roleBinding (roleBinding p)
  let _ ← Sync.createOrUpdate .deployment (deployment p)

/-- Reads a stored proxy resource. -/
def readProxy (j : Json) : ControllerM ProxyResource :=
  match ProxyResource.read j with
  | .ok p => pure p
  | .error e => throw (.serialization e.message)

/-- The stored proxy resource with a name, if any. -/
def getProxy (ns name : String) : ControllerM (Option ProxyResource) := do
  match ← onCluster (Cluster.get .reverseProxy (some ns) name) with
  | none => pure none
  | some j => some <$> readProxy j

instance : LifecycleStatus ProxyStatus where
  state s := s.state
  hash s := s.proxyHash
  lastUpdate s := s.lastUpdate
  withState s state := { s with state }
  withLastUpdate s lastUpdate := { s with lastUpdate }
  state_withState _ _ := rfl
  hash_withState _ _ := rfl
  lastUpdate_withState _ _ := rfl
  state_withLastUpdate _ _ := rfl
  hash_withLastUpdate _ _ := rfl
  lastUpdate_withLastUpdate _ _ := rfl

/-- Stores a proxy resource's status; answers the resource as stored. -/
def storeStatus (p : ProxyResource) (new : ProxyStatus) : ControllerM ProxyResource := do
  readProxy (← onCluster (Cluster.updateStatus .reverseProxy { p with status := some new }.toJson))

/-- Observes the proxy's Deployment in a namespace. -/
def observation (ns : String) : ControllerM (Observation ProxyStatus) := do
  let (running, pods, error) ← onCluster (Observe.calculateProxyState ns proxyName)
  pure ⟨running, fun s => { s with proxyStatus := pods }, error, fun _ => rfl⟩

/-- The steps of the proxy engine for a reconcile of a resource in namespace `ns`. Its
installation is observed in the resource's own namespace, and after a convergence in `ns`;
nothing is written back before a changed spec's status. -/
def engine (ns : String) : Engine ProxyResource ProxyStatus where
  status p := p.status.getD {}
  observe p := observation (p.namespace?.getD "")
  observeConverged _ := observation ns
  storeStatus := storeStatus
  prepare := pure
  validate := validateProxySpec
  converge p := converge (Cluster.keyOf .reverseProxy p.toJson) p.spec.toJson (syncProxy p)

/-- Reconciles the proxy resource with a namespace and name. -/
def reconcile (ns name : String) : ControllerM Requeue := do
  begin
  let some p ← getProxy ns name | return .never
  let E := engine ns
  let old := E.status p
  let fingerprint := Digest.fingerprint p.specText
  let changed := fingerprint != old.proxyHash
  let new := if changed then { old with proxyHash := fingerprint } else old
  match Path.decide old.state changed false with
  | .stop => pure .never
  | .checkStateOnly => E.settle p new old
  | .resync => E.resync p changed { new with state := .updating } old

end CsiOperator.Proxy
