import CsiOperator.DriverKind
/-!
The kinds of object the operator reads and writes, with their API group, version, plural and
scope. The five driver resources and the reverse-proxy resource are the operator's own kinds;
the rest are Kubernetes kinds.
-/

namespace CsiOperator

namespace DriverKind

/-- The kind of the family's custom resource. -/
def resourceKind : DriverKind → String
  | .powerMax => "CSIPowerMax"
  | .isilon => "CSIIsilon"
  | .unity => "CSIUnity"
  | .vxFlexOs => "CSIVXFlexOS"
  | .powerStore => "CSIPowerStore"

/-- The plural of the family's custom resource. -/
def resourcePlural : DriverKind → String
  | .powerMax => "csipowermaxes"
  | .isilon => "csiisilons"
  | .unity => "csiunities"
  | .vxFlexOs => "csivxflexoses"
  | .powerStore => "csipowerstores"

/-- The family whose custom resource has a kind. -/
def ofResourceKind? (kind : String) : Option DriverKind :=
  all.find? (·.resourceKind == kind)

end DriverKind

/-- A kind of object held by the cluster. -/
inductive ResourceKind where
  | clusterRole
  | clusterRoleBinding
  | csiDriver
  | storageClass
  | volumeSnapshotClass
  | serviceAccount
  | secret
  | configMap
  | service
  | role
  | roleBinding
  | statefulSet
  | deployment
  | daemonSet
  | pod
  | driver (family : DriverKind)
  | reverseProxy
  | lease
deriving DecidableEq, Repr, Inhabited

namespace ResourceKind

/-- The kinds the cluster store holds, in the order a listing of the store follows. -/
def stored : List ResourceKind :=
  [.clusterRole, .clusterRoleBinding, .csiDriver, .storageClass, .volumeSnapshotClass,
    .serviceAccount, .secret, .configMap, .service, .role, .roleBinding, .statefulSet,
    .deployment, .daemonSet, .pod] ++ DriverKind.all.map .driver ++ [.reverseProxy]

/-- The kind's name. -/
def name : ResourceKind → String
  | .clusterRole => "ClusterRole"
  | .clusterRoleBinding => "ClusterRoleBinding"
  | .csiDriver => "CSIDriver"
  | .storageClass => "StorageClass"
  | .volumeSnapshotClass => "VolumeSnapshotClass"
  | .serviceAccount => "ServiceAccount"
  | .secret => "Secret"
  | .configMap => "ConfigMap"
  | .service => "Service"
  | .role => "Role"
  | .roleBinding => "RoleBinding"
  | .statefulSet => "StatefulSet"
  | .deployment => "Deployment"
  | .daemonSet => "DaemonSet"
  | .pod => "Pod"
  | .driver d => d.resourceKind
  | .reverseProxy => "CSIPowerMaxRevProxy"
  | .lease => "Lease"

/-- The stored kind with a name. -/
def ofName? (s : String) : Option ResourceKind := (stored ++ [ResourceKind.lease]).find? (·.name == s)

/-- The API group; the empty text for the core group. -/
def group : ResourceKind → String
  | .clusterRole | .clusterRoleBinding | .role | .roleBinding => "rbac.authorization.k8s.io"
  | .csiDriver | .storageClass => "storage.k8s.io"
  | .volumeSnapshotClass => "snapshot.storage.k8s.io"
  | .serviceAccount | .secret | .configMap | .service | .pod => ""
  | .statefulSet | .deployment | .daemonSet => "apps"
  | .driver _ | .reverseProxy => "storage.dell.com"
  | .lease => "coordination.k8s.io"

/-- The API version within the group. -/
def version (_ : ResourceKind) : String := "v1"

/-- The group and version, as written in `apiVersion`. -/
def apiVersion (k : ResourceKind) : String :=
  if k.group.isEmpty then k.version else k.group ++ "/" ++ k.version

/-- The plural used in API paths. -/
def plural : ResourceKind → String
  | .clusterRole => "clusterroles"
  | .clusterRoleBinding => "clusterrolebindings"
  | .csiDriver => "csidrivers"
  | .storageClass => "storageclasses"
  | .volumeSnapshotClass => "volumesnapshotclasses"
  | .serviceAccount => "serviceaccounts"
  | .secret => "secrets"
  | .configMap => "configmaps"
  | .service => "services"
  | .role => "roles"
  | .roleBinding => "rolebindings"
  | .statefulSet => "statefulsets"
  | .deployment => "deployments"
  | .daemonSet => "daemonsets"
  | .pod => "pods"
  | .driver d => d.resourcePlural
  | .reverseProxy => "csipowermaxrevproxies"
  | .lease => "leases"

/-- Whether objects of the kind live in a namespace. -/
def namespaced : ResourceKind → Bool
  | .clusterRole | .clusterRoleBinding | .csiDriver | .storageClass | .volumeSnapshotClass => false
  | _ => true

/-- The API path of the kind's collection, within a namespace when one is given. -/
def urlPath (k : ResourceKind) (ns? : Option String) : String :=
  let root := if k.group.isEmpty then "/api/" ++ k.version else "/apis/" ++ k.apiVersion
  let ns := match ns? with
    | some n => "/namespaces/" ++ n
    | none => ""
  root ++ ns ++ "/" ++ k.plural

end ResourceKind

end CsiOperator
