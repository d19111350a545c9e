import CsiOperator.Config.Resolved
import CsiOperator.Config.Catalog
import CsiOperator.Resource.Driver
import CsiOperator.Kube.Layer
import CsiOperator.Validation.Env
/-!
What the builders of a driver installation know: the resource's name and namespace, its
family, its spec, the resolved configuration, and whether the cluster is OpenShift.

Container settings are layered: the configuration's defaults, then the spec's common settings,
then the controller's or node's own. A custom driver name, given in the family's driver-name
variable (from configuration version `v2` on), is rewritten to its namespaced form.
-/

namespace CsiOperator

/-- Everything the builders need to know about one driver installation. -/
structure BuildContext where
  name : String
  ns : String
  family : DriverKind
  driver : DriverSpec
  config : ResolvedConfig
  /-- The reference that makes the resource the owner of a namespaced object. -/
  owner : Json
  isOpenshift : Bool
deriving Inhabited

namespace Build

/-- The API version of cluster roles and bindings. -/
def rbacApiVersion : String := "rbac.authorization.k8s.io/v1"

/-- The variable that enables iSCSI CHAP on PowerMax nodes. -/
def iscsiChapEnv : String := "X_CSI_POWERMAX_ISCSI_ENABLE_CHAP"

/-- The variable that holds the iSCSI CHAP password. -/
def iscsiChapPasswordEnv : String := "X_CSI_POWERMAX_ISCSI_CHAP_PASSWORD"

/-- An owner reference. -/
def ownerRef (apiVersion kind name uid : String) (blockDeletion : Bool) : Json :=
  .obj [("apiVersion", .str apiVersion), ("blockOwnerDeletion", .bool blockDeletion),
    ("controller", .bool true), ("kind", .str kind), ("name", .str name), ("uid", .str uid)]

/-- The owner reference to a driver resource. -/
def resourceOwner (r : DriverResource) : Json :=
  ownerRef (ResourceKind.driver r.family).apiVersion r.family.resourceKind r.name
    ((r.metadata.strOpt "uid").getD "") true

/-- The owner reference to the placeholder cluster role that anchors cluster-scoped objects. -/
def dummyOwner (role : Json) : Json :=
  ownerRef rbacApiVersion "ClusterRole" (Meta.nameAny role) ((Meta.uid? role).getD "") true

/-- The labels of an application's pods. -/
def appLabels (app : String) : List (String × String) := [("app", app)]

/-- The name of the placeholder cluster role of an installation. -/
def dummyClusterRoleName (name ns : String) : String := name ++ "-" ++ ns ++ "-dummy"

end Build

namespace BuildContext

/-- The context of a driver resource. -/
def ofResource (r : DriverResource) (config : ResolvedConfig) (isOpenshift : Bool) : BuildContext :=
  { name := r.name, ns := r.namespace?.getD "default", family := r.family, driver := r.spec,
    config, owner := Build.resourceOwner r, isOpenshift }

/-- The name of the placeholder cluster role. -/
def dummyClusterRoleName (ctx : BuildContext) : String := Build.dummyClusterRoleName ctx.name ctx.ns

/-- Whether the family and configuration version allow a custom driver name. -/
def supportsCustomDriverName (ctx : BuildContext) : Bool :=
  ctx.family.driverNameEnv?.isSome && ctx.config.configVersion != "v1"

/-- The driver-name variable rewritten to its namespaced form, when one is set. -/
def customEnvVars (ctx : BuildContext) (envs : List EnvVar) : List EnvVar :=
  match ctx.family.driverNameEnv? with
  | none => []
  | some envName =>
    if !ctx.supportsCustomDriverName then []
    else match envs.find? (·.name == envName) with
      | none => []
      | some env =>
        let default := ctx.family.defaultDriverName
        let value := env.value.getD ""
        let driverName := if value != default then ctx.ns ++ "." ++ value ++ "." ++ "dellemc.com" else default
        [EnvVar.plain envName driverName]

/-- The variables of a plugin's driver container. -/
def containerEnvs (ctx : BuildContext) (role : PluginRole) : List EnvVar :=
  let overrides := match role with
    | .controller => ctx.driver.controller.envs
    | .node => ctx.driver.node.envs
  let envs := Layer.envs (Layer.envs (ctx.config.driver.envs role) ctx.driver.common.envs) overrides
  let envs := if ctx.driver.authSecret.isEmpty then envs
    else Layer.patchSecretRefs envs [ctx.family.userEnvName, ctx.family.passwordEnvName] ctx.driver.authSecret
  Layer.envs envs (ctx.customEnvVars envs)

/-- The variables of the controller's driver container. -/
def controllerEnvs (ctx : BuildContext) : List EnvVar := ctx.containerEnvs .controller

/-- The variables of the node's driver container. PowerMax drops the CHAP password unless CHAP
is enabled. -/
def nodeEnvs (ctx : BuildContext) : List EnvVar :=
  let envs := ctx.containerEnvs .node
  if ctx.family == .powerMax && ctx.config.configVersion != "v1" then
    match envs.find? (·.name == Build.iscsiChapEnv) with
    | some chap =>
      let v := chap.value.getD ""
      if v.isEmpty || Text.sameIgnoringCase v "false" then envs.filter (·.name != Build.iscsiChapPasswordEnv)
      else envs
    | none => envs
  else envs

/-- The custom driver name, when one is requested. -/
def customDriverName (ctx : BuildContext) : Option String := do
  let envName ← ctx.family.driverNameEnv?
  if !ctx.supportsCustomDriverName then none
  let value ← Validation.envValue ctx.controllerEnvs envName
  if value != ctx.family.defaultDriverName then some value else none

/-- The name the driver registers as. -/
def driverName (ctx : BuildContext) : String := ctx.customDriverName.getD ctx.family.defaultDriverName

/-- The name of a cluster role or binding of a component. -/
def rbacName (ctx : BuildContext) (component : String) : String :=
  if ctx.customDriverName.isSome then ctx.ns ++ "-" ++ ctx.name ++ "-" ++ component
  else ctx.name ++ "-" ++ component

/-- Whether the node plugin runs with a narrowed cluster role. -/
def isLimitedNodeRbac (ctx : BuildContext) : Bool := ctx.family.limitedNodeRbac ctx.driver.configVersion

/-- Whether the node plugin gets a service account of its own. -/
def createNodeServiceAccount (ctx : BuildContext) : Bool := !ctx.isLimitedNodeRbac || ctx.isOpenshift

/-- The arguments of a plugin's driver container. -/
def args (ctx : BuildContext) (role : PluginRole) : List String :=
  let overrides := match role with
    | .controller => ctx.driver.controller.args
    | .node => ctx.driver.node.args
  Layer.args (Layer.args ctx.config.driver.driverArgs ctx.driver.common.args) overrides

/-- The tolerations of a plugin. -/
def tolerations (ctx : BuildContext) (role : PluginRole) : List Toleration :=
  let overrides := match role with
    | .controller => ctx.driver.controller.tolerations
    | .node => ctx.driver.node.tolerations
  Layer.tolerations (Layer.tolerations (ctx.config.driver.tolerations role) ctx.driver.common.tolerations) overrides

/-- The node selector of a plugin: its own, else the common one. -/
def nodeSelector (ctx : BuildContext) (role : PluginRole) : Option (List (String × String)) :=
  let own := match role with
    | .controller => ctx.driver.controller.nodeSelector
    | .node => ctx.driver.node.nodeSelector
  own.or ctx.driver.common.nodeSelector

/-- The parameters of every sidecar in the spec, by name: the configuration's arguments and
variables with the spec's layered over them. -/
def sidecarParams (ctx : BuildContext) : List (String × SidecarParams) :=
  ctx.driver.sideCars.foldl (fun acc s =>
    let defaults := ctx.config.driver.sidecar? s.name
    let p : SidecarParams := {
      name := s.name
      optional := (defaults.map (·.optional)).getD false
      args := Layer.args ((defaults.map (·.args)).getD []) s.args
      envs := Layer.envs ((defaults.map (·.envs)).getD []) s.envs
      volumeMounts := (defaults.map (·.volumeMounts)).getD [] }
    Reader.insertSorted s.name p acc) []

/-- The parameters of the spec's init containers that run on a plugin, by name. -/
def initContainerParams (ctx : BuildContext) (role : PluginRole) : List (String × InitContainerParams) :=
  let allowed := ctx.config.driver.initContainersFor role
  ctx.driver.initContainers.foldl (fun acc i =>
    match allowed.find? (·.name == i.name) with
    | none => acc
    | some d =>
      let p : InitContainerParams :=
        { d with name := i.name, args := Layer.args d.args i.args, envs := Layer.envs d.envs i.envs }
      Reader.insertSorted i.name p acc) []

/-- The arguments of the `common` pseudo sidecar, which every controller container shares. -/
def commonSidecarArgs (ctx : BuildContext) : List String :=
  ((ctx.driver.sideCars.find? (·.name == Image.common)).map (·.args)).getD []

end BuildContext

end CsiOperator
