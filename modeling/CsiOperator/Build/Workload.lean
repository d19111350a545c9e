import CsiOperator.Build.Storage
/-!
The workloads of a driver installation: the controller as a StatefulSet, or as a Deployment
with leader election and hostname anti-affinity when it runs with more than one replica, and
the node plugin as a privileged DaemonSet with its init containers.

The controller pod runs every sidecar but the registrar (the Deployment also leaves out the
SDC monitor and the `common` pseudo sidecar); the node pod runs the registrar and the SDC
monitor.
-/

namespace CsiOperator.Build

/-- How many old revisions a workload keeps. -/
def revisionHistoryLimit : Int := 10

/-- How long a pod may take to stop. -/
def terminationGracePeriodSeconds : Int := 30

/-- The DNS policy of node pods that do not name one. -/
def defaultNodeDnsPolicy : String := "ClusterFirstWithHostNet"

/-- The DNS policies a node pod may name. -/
def validDnsPolicies : List String := ["ClusterFirst", "ClusterFirstWithHostNet", "None", "Default"]

/-- One container of a driver pod. -/
def container (name image pullPolicy : String) (args : List String) (envs : List EnvVar)
    (mounts : List Json) (securityContext : Json) : Json :=
  .obj [("args", Json.strs args), ("env", .arr (envs.map EnvVar.toJson)), ("image", .str image),
    ("imagePullPolicy", .str pullPolicy), ("name", .str name), ("securityContext", securityContext),
    ("terminationMessagePath", .str "/dev/termination-log"), ("terminationMessagePolicy", .str "File"),
    ("volumeMounts", .arr mounts)]

/-- The security context of privileged containers. -/
def privilegedSecurityContext : Json :=
  .obj [("capabilities", .obj [("add", Json.strs ["SYS_ADMIN"])]), ("privileged", .bool true)]

/-- The driver container of a plugin. -/
def driverContainer (ctx : BuildContext) (args : List String) (envs : List EnvVar) (role : PluginRole)
    (securityContext : Json) : Json :=
  container Image.driver ctx.driver.common.image ctx.driver.common.imagePullPolicy args envs
    (ctx.config.driver.volumeMounts role) securityContext

/-- A sidecar container, with its parameters and extra arguments. -/
def sidecarContainer (s : ContainerTemplate) (params : Option SidecarParams) (extraArgs : List String) : Json :=
  container s.name s.image s.imagePullPolicy (((params.map (·.args)).getD []) ++ extraArgs)
    ((params.map (·.envs)).getD []) ((params.map (·.volumeMounts)).getD []) (.obj [])

/-- A label selector matching labels. -/
def selector (labels : List (String × String)) : Json := .obj [("matchLabels", Json.strMap labels)]

/-- A pod template with labels. -/
def template (labels : List (String × String)) (spec : Json) : Json :=
  .obj [("metadata", .obj [("labels", Json.strMap labels)]), ("spec", spec)]

/-- The tolerations of a pod, left out when there are none. -/
def tolerationsField (ts : List Toleration) : Option Json :=
  if ts.isEmpty then none else some (.arr (ts.map Toleration.toJson))

/-- The controller's pod spec. -/
def controllerPodSpec (ctx : BuildContext) (containers volumes : List Json) (extra : List (String × Json)) : Json :=
  .fields (extra.map (fun (k, v) => (k, some v)) ++
    [("containers", some (.arr containers)), ("dnsPolicy", some (.str "ClusterFirst")),
     ("nodeSelector", (ctx.nodeSelector .controller).map Json.strMap),
     ("restartPolicy", some (.str "Always")), ("schedulerName", some (.str "default-scheduler")),
     ("serviceAccountName", some (.str ctx.family.controllerName)),
     ("terminationGracePeriodSeconds", some (.int terminationGracePeriodSeconds)),
     ("tolerations", tolerationsField (ctx.tolerations .controller)), ("volumes", some (.arr volumes))])

/-- The metadata of a workload owned by the resource. -/
def ownedMeta (ctx : BuildContext) (name : String) : List (String × Json) :=
  [("name", .str name), ("namespace", .str ctx.ns), ("ownerReferences", .arr [ctx.owner])]

/-- The controller as a StatefulSet: every sidecar but the registrar. -/
def statefulSet (ctx : BuildContext) (volumes : List Json) : Json :=
  let name := ctx.family.controllerName
  let labels := appLabels name
  let params := ctx.sidecarParams
  let containers := driverContainer ctx (ctx.args .controller) ctx.controllerEnvs .controller (.obj []) ::
    (ctx.driver.sideCars.filter (·.name != Image.registrar)).map fun s =>
      sidecarContainer s (params.lookup s.name) []
  .obj (header .statefulSet (ownedMeta ctx name) ++
    [("spec", .obj [("podManagementPolicy", .str "OrderedReady"), ("replicas", .int ctx.driver.replicas),
      ("revisionHistoryLimit", .int revisionHistoryLimit), ("selector", selector labels),
      ("serviceName", .str name),
      ("template", template labels (controllerPodSpec ctx containers volumes [])),
      ("updateStrategy", .obj [("type", .str "RollingUpdate")])])])

/-- The controller as a Deployment with leader election, for more than one replica: the
`common` pseudo sidecar's arguments go to every container, and replicas keep off each other's
hosts. -/
def deployment (ctx : BuildContext) (volumes : List Json) : Json :=
  let name := ctx.family.controllerName
  let labels := appLabels name
  let params := ctx.sidecarParams
  let common := ctx.commonSidecarArgs
  let args := ctx.args .controller ++ ["--leader-election"] ++ common
  let sidecars := ctx.driver.sideCars.filter fun s =>
    s.name != Image.registrar && s.name != Image.sdcMonitor && s.name != Image.common
  let containers := driverContainer ctx args ctx.controllerEnvs .controller (.obj []) ::
    sidecars.map fun s => sidecarContainer s (params.lookup s.name) common
  let affinity : Json := .obj [("podAntiAffinity", .obj [("requiredDuringSchedulingIgnoredDuringExecution",
    .arr [.obj [("labelSelector", .obj [("matchExpressions", .arr [.obj [("key", .str "app"),
      ("operator", .str "In"), ("values", Json.strs [name])]])]),
      ("topologyKey", .str "kubernetes.io/hostname")]])])]
  .obj (header .deployment (ownedMeta ctx name) ++
    [("spec", .obj [("replicas", .int ctx.driver.replicas),
      ("revisionHistoryLimit", .int revisionHistoryLimit), ("selector", selector labels),
      ("template", template labels (controllerPodSpec ctx containers volumes [("affinity", affinity)]))])])

/-- The node plugin as a DaemonSet: a privileged driver, the registrar and SDC monitor, and the
node's init containers. An unknown DNS policy is refused. -/
def daemonSet (ctx : BuildContext) (volumes : List Json) : Outcome Json := do
  let name := ctx.family.daemonSetName
  let dnsPolicy := if ctx.driver.dnsPolicy.isEmpty then defaultNodeDnsPolicy else ctx.driver.dnsPolicy
  if !validDnsPolicies.contains dnsPolicy then throw (.sync "invalid DNS Policy provided")
  let labels := appLabels name
  let serviceAccount := if ctx.createNodeServiceAccount then name else "default"
  let params := ctx.sidecarParams
  let initParams := ctx.initContainerParams .node
  let containers := driverContainer ctx (ctx.args .node) ctx.nodeEnvs .node privilegedSecurityContext ::
    (ctx.driver.sideCars.filter fun s => s.name == Image.registrar || s.name == Image.sdcMonitor).map fun s =>
      sidecarContainer s (params.lookup s.name) []
  let inits := ctx.driver.initContainers.map fun i =>
    let p := initParams.lookup i.name
    container i.name i.image i.imagePullPolicy ((p.map (·.args)).getD []) ((p.map (·.envs)).getD [])
      ((p.map (·.volumeMounts)).getD []) privilegedSecurityContext
  let podSpec : Json := .fields [
    ("containers", some (.arr containers)), ("dnsPolicy", some (.str dnsPolicy)),
    ("hostNetwork", some (.bool true)), ("initContainers", some (.arr inits)),
    ("nodeSelector", (ctx.nodeSelector .node).map Json.strMap),
    ("restartPolicy", some (.str "Always")), ("schedulerName", some (.str "default-scheduler")),
    ("serviceAccountName", some (.str serviceAccount)),
    ("terminationGracePeriodSeconds", some (.int terminationGracePeriodSeconds)),
    ("tolerations", tolerationsField (ctx.tolerations .node)), ("volumes", some (.arr volumes))]
  pure (.obj (header .daemonSet (ownedMeta ctx name) ++
    [("spec", .obj [("revisionHistoryLimit", .int revisionHistoryLimit), ("selector", selector labels),
      ("template", template labels podSpec),
      ("updateStrategy", .obj [("rollingUpdate", .obj [("maxUnavailable", .int 1)]),
        ("type", .str "RollingUpdate")])])]))

/-- Whether a live pod still runs what a template asks for: every same-named container has
the template's variables, image and pull policy. -/
def podMatchesTemplate (template pod : Json) : Bool :=
  (template.arrD "containers").all fun wanted =>
    ((pod.arrD "containers").filter (·.strOpt "name" == wanted.strOpt "name")).all fun live =>
      Json.beq (.arr (live.arrD "env")) (.arr (wanted.arrD "env")) &&
        live.strOpt "image" == wanted.strOpt "image" &&
        live.strOpt "imagePullPolicy" == wanted.strOpt "imagePullPolicy"

end CsiOperator.Build
