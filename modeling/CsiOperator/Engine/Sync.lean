import CsiOperator.Build.Workload
import CsiOperator.Engine.Observe
/-!
Converging the objects of a driver installation towards their built form.

An object is created when missing and otherwise replaced whole, keeping the live resource
version. Service accounts are only ever created; an existing CSIDriver is only rewritten to
take the placeholder role as its owner. After the controller workload is replaced, its pods
that run a stale spec are deleted so they restart. Storage and snapshot classes of this
installation that are no longer declared are deleted.

The first failure stops the sync, except for storage and snapshot classes, whose failures are
collected and reported together.
-/

namespace CsiOperator.Sync

/-- Sets an object's resource version to that of another, or drops it. -/
def withVersionOf (desired found : Json) : Json :=
  Meta.modify desired fun md =>
    match (Meta.of found).get? "resourceVersion" with
    | some rv => md.set "resourceVersion" rv
    | none => md.erase "resourceVersion"

/-- Replaces a live object by its desired form. -/
def replace (k : ResourceKind) (found desired : Json) : ClusterM Json :=
  Cluster.update k (withVersionOf desired found)

/-- Creates an object when missing, otherwise replaces it. -/
def createOrUpdate (k : ResourceKind) (desired : Json) : ClusterM Json := do
  match ← Cluster.get k (Meta.namespace? desired) (Meta.nameAny desired) with
  | none => Cluster.create k desired
  | some found => replace k found desired

/-- Creates a service account when missing; an existing one is left alone. -/
def ensureServiceAccount (sa : Json) : ClusterM Unit := do
  if (← Cluster.get .serviceAccount (Meta.namespace? sa) (Meta.nameAny sa)).isNone then
    let _ ← Cluster.create .serviceAccount sa

/-- Creates the CSIDriver when missing. An existing one owned by something other than a
cluster role takes the desired owners; a failure to write that is ignored. -/
def ensureCsiDriver (desired : Json) : ClusterM Unit := do
  match ← Cluster.get .csiDriver none (Meta.nameAny desired) with
  | none => let _ ← Cluster.create .csiDriver desired
  | some found =>
    let stale := (Meta.ownerReferences found).any (·.strD "apiVersion" != Build.rbacApiVersion)
    if stale then
      let owners := ((Meta.of desired).get? "ownerReferences").getD (.arr [])
      tryCatch (do let _ ← Cluster.update .csiDriver (Meta.setField found "ownerReferences" owners)) fun _ => pure ()

/-- Deletes the pods whose containers drifted from the template; failures are ignored. -/
def refreshPods (template : Json) (pods : List Json) : ClusterM Unit :=
  pods.forM fun pod => do
    let current := match pod.get? "spec" with
      | some spec => Build.podMatchesTemplate template spec
      | none => true
    if !current then
      tryCatch (Cluster.delete .pod (Meta.namespace? pod) (Meta.nameAny pod)) fun _ => pure ()

/-- The pod template of a workload, if it has one. -/
def podTemplate (w : Json) : Option Json := w.getPath? ["spec", "template", "spec"]

/-- Converges the controller StatefulSet and deletes its stale pods, looked up by ordinal from
the highest. -/
def ensureStatefulSet (desired : Json) : ClusterM Unit := do
  let ns := Meta.namespace? desired
  let name := Meta.nameAny desired
  match ← Cluster.get .statefulSet ns name with
  | none => let _ ← Cluster.create .statefulSet desired
  | some live =>
    let _ ← replace .statefulSet live desired
    let some found ← Cluster.get .statefulSet ns name
      | throw (.sync ("statefulset " ++ name ++ " disappeared"))
    match podTemplate found with
    | none => pure ()
    | some template =>
      let replicas := Observe.intAt found ["status", "replicas"]
      let ordinals := (List.range replicas.toNat).reverse
      let pods ← ordinals.filterMapM fun i => do
        let r ← Observe.attempt (Cluster.get .pod ns (name ++ "-" ++ toString i))
        pure (match r with
          | .ok p => p
          | .error _ => none)
      refreshPods template pods

/-- Converges the controller Deployment and deletes its stale pods. -/
def ensureDeployment (desired : Json) : ClusterM Unit := do
  let ns := Meta.namespace? desired
  let name := Meta.nameAny desired
  match ← Cluster.get .deployment ns name with
  | none => let _ ← Cluster.create .deployment desired
  | some live =>
    let _ ← replace .deployment live desired
    let some found ← Cluster.get .deployment ns name
      | throw (.sync ("deployment " ++ name ++ " disappeared"))
    match podTemplate found with
    | none => pure ()
    | some template =>
      let pods ← Cluster.list .pod ns (Build.appLabels name)
      refreshPods template pods

/-- Whether a class was made for the installation whose placeholder role has a name. -/
def ownedBy (obj : Json) (dummyName : String) : Bool :=
  (Meta.ownerReferences obj).any (·.strD "name" == dummyName)

/-- Converges a set of cluster-scoped classes: each desired class is created or replaced, and
live classes of the same driver made for this installation that are no longer desired are
deleted. Failures to write desired classes are collected; the rest are ignored. -/
def ensureClassSet (k : ResourceKind) (desired : List Json) (dummyName : String)
    (sameDriver : Json → Bool) : ClusterM (List OperatorError) := do
  let wanted := desired.map Meta.nameAny
  let live ← Observe.attempt (Cluster.list k none [])
  let stale := match live with
    | .ok objs => (objs.filter fun c => sameDriver c && ownedBy c dummyName).map Meta.nameAny
        |>.filter (!wanted.contains ·)
    | .error _ => []
  let errors ← desired.filterMapM fun c => do
    match ← Observe.attempt (createOrUpdate k c) with
    | .ok _ => pure none
    | .error e => pure (some e)
  stale.forM fun name => tryCatch (Cluster.delete k none name) fun _ => pure ()
  pure errors

/-- The controller's cluster role, service account and binding, then the node plugin's when it
has an account of its own, each owned by the placeholder role. -/
def ensureRbac (ctx : BuildContext) (owner : Json) : ClusterM Unit := do
  let _ ← createOrUpdate .clusterRole (Build.controllerClusterRole ctx owner)
  ensureServiceAccount (Build.serviceAccount ctx ctx.family.controllerName)
  let _ ← createOrUpdate .clusterRoleBinding (Build.clusterRoleBinding ctx "controller" owner)
  if ctx.createNodeServiceAccount then
    ensureServiceAccount (Build.serviceAccount ctx ctx.family.daemonSetName)
    let _ ← createOrUpdate .clusterRole (Build.nodeClusterRole ctx owner)
    let _ ← createOrUpdate .clusterRoleBinding (Build.clusterRoleBinding ctx "node" owner)
    pure ()

/-- The projected volume of the family's certificate secrets, when the family mounts one and the
secrets of the namespace can be listed. -/
def projectedCerts (ctx : BuildContext) : ClusterM (Option Json) := do
  if ctx.family.mountsProjectedCerts then
    match ← Observe.attempt (Cluster.list .secret (some ctx.ns) []) with
    | .ok secrets => pure (some (Build.projectedCertVolume ctx.family secrets))
    | .error _ => pure none
  else pure none

/-- Converges the controller workload: a Deployment, which replaces a StatefulSet left from
before, or a StatefulSet. -/
def ensureController (ctx : BuildContext) (volumes : List Json) : ClusterM Unit := do
  if ctx.config.controllerHA then
    ensureDeployment (Build.deployment ctx volumes)
    let name := ctx.family.controllerName
    let existing ← Observe.attempt (Cluster.get .statefulSet (some ctx.ns) name)
    if let .ok (some _) := existing then
      tryCatch (Cluster.delete .statefulSet (some ctx.ns) name) fun _ => pure ()
  else
    ensureStatefulSet (Build.statefulSet ctx volumes)

/-- Converges the storage and snapshot classes of the driver; the failures of both are reported
together. -/
def ensureClasses (ctx : BuildContext) (owner : Json) (dummyName : String) : ClusterM Unit := do
  let driverName := ctx.driverName
  let scErrors ← ensureClassSet .storageClass (Build.storageClasses ctx owner) dummyName
    (·.strD "provisioner" == driverName)
  let vscErrors ← ensureClassSet .volumeSnapshotClass (Build.snapshotClasses ctx owner) dummyName
    (·.strD "driver" == driverName)
  let errors := scErrors ++ vscErrors
  if !errors.isEmpty then throw (.sync ("; ".intercalate (errors.map (·.message))))

/-- Converges every object of a driver installation. -/
def syncDriver (ctx : BuildContext) : ClusterM Unit := do
  let dummy ← createOrUpdate .clusterRole (Build.dummyClusterRole ctx)
  let owner := Build.dummyOwner dummy
  ensureRbac ctx owner
  ensureCsiDriver (Build.csiDriver ctx owner)
  let projected ← projectedCerts ctx
  ensureController ctx (Build.controllerVolumes ctx projected)
  let daemonSet ← MonadExcept.ofExcept (Build.daemonSet ctx (Build.nodeVolumes ctx projected))
  let _ ← createOrUpdate .daemonSet daemonSet
  ensureClasses ctx owner (Meta.nameAny dummy)

end CsiOperator.Sync
