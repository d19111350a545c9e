import CsiOperator.Build.Context
/-!
The access objects of a driver installation: the placeholder cluster role that owns the
cluster-scoped objects, the controller's and node's cluster roles and bindings, and the
service accounts.

The controller may manage leases when it runs with more than one replica, and PowerStore's
controller also manages storage capacities. A node plugin with a narrowed role may only use
the privileged security context constraints.
-/

namespace CsiOperator.Build

/-- An object's header: API version, kind and metadata. -/
def header (k : ResourceKind) (md : List (String × Json)) : List (String × Json) :=
  [("apiVersion", .str k.apiVersion), ("kind", .str k.name), ("metadata", .obj md)]

/-- The placeholder cluster role of an installation. -/
def dummyClusterRole (ctx : BuildContext) : Json :=
  let name := ctx.dummyClusterRoleName
  .obj (header .clusterRole [("labels", Json.strMap [("name", name)]), ("name", .str name)])

/-- A policy rule. -/
def rule (groups resources verbs : List String) : Json :=
  .obj [("apiGroups", Json.strs groups), ("resources", Json.strs resources), ("verbs", Json.strs verbs)]

/-- The rule that allows using the privileged security context constraints. -/
def privilegedSccRule : Json :=
  .obj [("apiGroups", Json.strs ["security.openshift.io"]), ("resourceNames", Json.strs ["privileged"]),
    ("resources", Json.strs ["securitycontextconstraints"]), ("verbs", Json.strs ["use"])]

/-- The rules of the controller's cluster role. -/
def controllerRules (ctx : BuildContext) : List Json :=
  [rule [""] ["events"] ["list", "watch", "create", "update", "patch"],
   rule [""] ["nodes"] ["get", "list", "watch"],
   rule [""] ["persistentvolumes"] ["get", "list", "watch", "create", "delete", "update", "patch"],
   rule [""] ["persistentvolumeclaims"] ["get", "list", "create", "watch", "update"],
   rule [""] ["pods"] ["get", "list", "watch"],
   rule ["storage.k8s.io"] ["storageclasses"] ["get", "list", "watch"],
   rule ["storage.k8s.io"] ["volumeattachments"] ["get", "list", "watch", "update", "patch"],
   rule ["storage.k8s.io"] ["volumeattachments/status"] ["patch"],
   rule ["storage.k8s.io"] ["csinodes"] ["get", "list", "watch", "update"],
   rule [""] ["secrets"] ["get", "list"],
   rule ["snapshot.storage.k8s.io"] ["volumesnapshotclasses"] ["get", "list", "watch"],
   rule ["snapshot.storage.k8s.io"] ["volumesnapshotcontents"]
     ["create", "get", "list", "watch", "update", "delete", "patch"],
   rule ["snapshot.storage.k8s.io"] ["volumesnapshots/status"] ["watch", "update", "get", "list"],
   rule ["snapshot.storage.k8s.io"] ["volumesnapshotcontents/status"] ["update", "patch"],
   rule ["snapshot.storage.k8s.io"] ["volumesnapshots"] ["get", "list", "watch", "update"],
   rule ["apiextensions.k8s.io"] ["customresourcedefinitions"] ["create", "list", "watch", "delete"],
   rule [""] ["persistentvolumeclaims/status"] ["update", "patch"]] ++
  (if ctx.config.controllerHA then
    [rule ["coordination.k8s.io"] ["leases"] ["create", "get", "list", "watch", "delete", "update"]]
   else []) ++
  (if ctx.family == .powerStore then
    [rule ["storage.k8s.io"] ["csistoragecapacities"] ["get", "list", "watch", "create", "update", "patch", "delete"],
     rule ["apps"] ["replicasets"] ["get"]]
   else [])

/-- The rules of the node's cluster role. -/
def nodeRules (ctx : BuildContext) : List Json :=
  if ctx.isLimitedNodeRbac then [privilegedSccRule]
  else
    [rule [""] ["events"] ["list", "watch", "create", "update", "patch"],
     rule [""] ["nodes"] ["get", "list", "watch", "create", "update", "patch"],
     rule [""] ["persistentvolumes"] ["get", "list", "watch", "create", "delete", "update"],
     rule [""] ["persistentvolumeclaims"] ["get", "list", "watch", "update"],
     rule ["storage.k8s.io"] ["storageclasses"] ["get", "list", "watch"],
     rule ["storage.k8s.io"] ["volumeattachments"] ["get", "list", "watch", "update"],
     privilegedSccRule]

/-- A cluster role of a component, owned by the placeholder role. -/
def clusterRole (ctx : BuildContext) (component : String) (rules : List Json) (dummy : Json) : Json :=
  .obj (header .clusterRole [("name", .str (ctx.rbacName component)), ("ownerReferences", .arr [dummy])] ++
    [("rules", .arr rules)])

/-- The controller's cluster role. -/
def controllerClusterRole (ctx : BuildContext) (dummy : Json) : Json :=
  clusterRole ctx "controller" (controllerRules ctx) dummy

/-- The node's cluster role. -/
def nodeClusterRole (ctx : BuildContext) (dummy : Json) : Json :=
  clusterRole ctx "node" (nodeRules ctx) dummy

/-- The binding of a component's service account to its cluster role. -/
def clusterRoleBinding (ctx : BuildContext) (component : String) (dummy : Json) : Json :=
  let name := ctx.rbacName component
  .obj (header .clusterRoleBinding [("name", .str name), ("ownerReferences", .arr [dummy])] ++
    [("roleRef", .obj [("apiGroup", .str "rbac.authorization.k8s.io"), ("kind", .str "ClusterRole"),
        ("name", .str name)]),
     ("subjects", .arr [.obj [("kind", .str "ServiceAccount"),
        ("name", .str (ctx.family.name ++ "-" ++ component)), ("namespace", .str ctx.ns)]])])

/-- A service account owned by the resource. -/
def serviceAccount (ctx : BuildContext) (name : String) : Json :=
  .obj (header .serviceAccount [("name", .str name), ("namespace", .str ctx.ns),
    ("ownerReferences", .arr [ctx.owner])])

end CsiOperator.Build
