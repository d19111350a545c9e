import CsiOperator.Kube.Env
import CsiOperator.Kube.Kind
import CsiOperator.Kube.Meta
import CsiOperator.Lifecycle
/-!
The driver resource: the desired state of one driver installation (`DriverSpec`) and the
status the operator records for it (`DriverStatus`).

Each type has a reader, which accepts what the resource's schema accepts and names what it
refuses, and a writer, which writes members in declaration order and leaves out the empty
ones the schema marks as omittable. The spec's fingerprint is taken of the writer's compact
text, so the writer decides when a spec counts as changed.
-/

namespace CsiOperator

/-- Image, arguments, environment and scheduling for one container. -/
structure ContainerTemplate where
  name : String := ""
  image : String := ""
  imagePullPolicy : String := ""
  args : List String := []
  envs : List EnvVar := []
  tolerations : List Toleration := []
  nodeSelector : Option (List (String × String)) := none
deriving DecidableEq, Repr, Inhabited

/-- A storage class the installation provides. -/
structure StorageClassSpec where
  name : String
  isDefault : Bool := false
  reclaimPolicy : String := ""
  parameters : List (String × String) := []
  allowVolumeExpansion : Option Bool := none
  volumeBindingMode : String := ""
  allowedTopologies : Option (List TopologyTerm) := none
deriving DecidableEq, Repr, Inhabited

/-- A volume snapshot class the installation provides. -/
structure SnapshotClassSpec where
  name : String
  parameters : List (String × String) := []
deriving DecidableEq, Repr, Inhabited

/-- The desired state of one driver installation. -/
structure DriverSpec where
  configVersion : String
  replicas : Int := 0
  dnsPolicy : String := ""
  fsGroupPolicy : String := ""
  common : ContainerTemplate := {}
  controller : ContainerTemplate := {}
  node : ContainerTemplate := {}
  sideCars : List ContainerTemplate := []
  initContainers : List ContainerTemplate := []
  storageClass : List StorageClassSpec := []
  snapshotClass : List SnapshotClassSpec := []
  forceUpdate : Bool := false
  authSecret : String := ""
  tlsCertSecret : String := ""
deriving DecidableEq, Repr, Inhabited

/-- The pods of a workload, by how far each has come. -/
structure PodSummary where
  available : List String := []
  ready : List String := []
  starting : List String := []
  stopped : List String := []
deriving DecidableEq, Repr, Inhabited

/-- The observed state of a driver installation. -/
structure DriverStatus where
  controllerStatus : PodSummary := {}
  nodeStatus : PodSummary := {}
  driverHash : Nat := 0
  state : DriverState := .none
  lastUpdate : LastUpdate := {}
deriving DecidableEq, Repr, Inhabited

namespace Json

/-- A member written only when the text is not empty. -/
def unlessEmpty (s : String) : Option Json := if s.isEmpty then none else some (.str s)

/-- A member written only when the list is not empty. -/
def unlessNil {α : Type} (xs : List α) (f : α → Json) : Option Json :=
  if xs.isEmpty then none else some (.arr (xs.map f))

/-- A member written only when true. -/
def unlessFalse (b : Bool) : Option Json := if b then some (.bool true) else none

end Json

namespace Reader

/-- Reads an instant from its RFC 3339 text. -/
def instant : Reader Instant
  | .str s =>
    match Instant.read s with
    | .ok t => .ok t
    | .error e => fail (.other e.message)
  | j => wrongType j "an RFC 3339 formatted date and time string"

/-- Reads a state by name. -/
def driverState : Reader DriverState :=
  variant "DriverState" (DriverState.all.map fun s => (s.name, s))

/-- Reads a condition by name. -/
def condition : Reader Condition :=
  variant "ConditionType" (Condition.all.map fun c => (c.name, c))

end Reader

namespace ContainerTemplate

/-- Reads a container template. -/
def read : Reader ContainerTemplate := Reader.record "struct ContainerTemplate" fun ms => do
  pure {
    name := ← Reader.dflt ms "name" "" Reader.string
    image := ← Reader.dflt ms "image" "" Reader.string
    imagePullPolicy := ← Reader.dflt ms "imagePullPolicy" "" Reader.string
    args := ← Reader.dflt ms "args" [] Reader.strs
    envs := ← Reader.dflt ms "envs" [] (Reader.list EnvVar.read)
    tolerations := ← Reader.dflt ms "tolerations" [] (Reader.list Toleration.read)
    nodeSelector := ← Reader.optNull ms "nodeSelector" Reader.strMap }

/-- The document of a container template. -/
def toJson (c : ContainerTemplate) : Json :=
  .fields [("name", Json.unlessEmpty c.name), ("image", Json.unlessEmpty c.image),
    ("imagePullPolicy", Json.unlessEmpty c.imagePullPolicy),
    ("args", Json.unlessNil c.args .str), ("envs", Json.unlessNil c.envs EnvVar.toJson),
    ("tolerations", Json.unlessNil c.tolerations Toleration.toJson),
    ("nodeSelector", c.nodeSelector.map Json.strMap)]

end ContainerTemplate

namespace StorageClassSpec

/-- Reads a storage class entry. -/
def read : Reader StorageClassSpec := Reader.record "struct StorageClass" fun ms => do
  pure {
    name := ← Reader.req ms "name" Reader.string
    isDefault := ← Reader.dflt ms "default" false Reader.bool
    reclaimPolicy := ← Reader.dflt ms "reclaimPolicy" "" Reader.string
    parameters := ← Reader.dflt ms "parameters" [] Reader.strMap
    allowVolumeExpansion := ← Reader.optNull ms "allowVolumeExpansion" Reader.bool
    volumeBindingMode := ← Reader.dflt ms "volumeBindingMode" "" Reader.string
    allowedTopologies := ← Reader.optNull ms "allowedTopologies" (Reader.list TopologyTerm.read) }

/-- The document of a storage class entry. -/
def toJson (s : StorageClassSpec) : Json :=
  .fields [("name", some (.str s.name)), ("default", Json.unlessFalse s.isDefault),
    ("reclaimPolicy", Json.unlessEmpty s.reclaimPolicy),
    ("parameters", if s.parameters.isEmpty then none else some (Json.strMap s.parameters)),
    ("allowVolumeExpansion", s.allowVolumeExpansion.map .bool),
    ("volumeBindingMode", Json.unlessEmpty s.volumeBindingMode),
    ("allowedTopologies", s.allowedTopologies.map fun ts => .arr (ts.map TopologyTerm.toJson))]

end StorageClassSpec

namespace SnapshotClassSpec

/-- Reads a snapshot class entry. -/
def read : Reader SnapshotClassSpec := Reader.record "struct SnapshotClass" fun ms => do
  pure {
    name := ← Reader.req ms "name" Reader.string
    parameters := ← Reader.dflt ms "parameters" [] Reader.strMap }

/-- The document of a snapshot class entry. -/
def toJson (s : SnapshotClassSpec) : Json :=
  .fields [("name", some (.str s.name)),
    ("parameters", if s.parameters.isEmpty then none else some (Json.strMap s.parameters))]

end SnapshotClassSpec

namespace DriverSpec

/-- Reads a driver spec. -/
def read : Reader DriverSpec := Reader.record "struct Driver" fun ms => do
  pure {
    configVersion := ← Reader.req ms "configVersion" Reader.string
    replicas := ← Reader.dflt ms "replicas" 0 Reader.i32
    dnsPolicy := ← Reader.dflt ms "dnsPolicy" "" Reader.string
    fsGroupPolicy := ← Reader.dflt ms "fsGroupPolicy" "" Reader.string
    common := ← Reader.dflt ms "common" {} ContainerTemplate.read
    controller := ← Reader.dflt ms "controller" {} ContainerTemplate.read
    node := ← Reader.dflt ms "node" {} ContainerTemplate.read
    sideCars := ← Reader.dflt ms "sideCars" [] (Reader.list ContainerTemplate.read)
    initContainers := ← Reader.dflt ms "initContainers" [] (Reader.list ContainerTemplate.read)
    storageClass := ← Reader.dflt ms "storageClass" [] (Reader.list StorageClassSpec.read)
    snapshotClass := ← Reader.dflt ms "snapshotClass" [] (Reader.list SnapshotClassSpec.read)
    forceUpdate := ← Reader.dflt ms "forceUpdate" false Reader.bool
    authSecret := ← Reader.dflt ms "authSecret" "" Reader.string
    tlsCertSecret := ← Reader.dflt ms "tlsCertSecret" "" Reader.string }

/-- The document of a driver spec. -/
def toJson (d : DriverSpec) : Json :=
  .fields [("configVersion", some (.str d.configVersion)), ("replicas", some (.int d.replicas)),
    ("dnsPolicy", Json.unlessEmpty d.dnsPolicy), ("fsGroupPolicy", Json.unlessEmpty d.fsGroupPolicy),
    ("common", some d.common.toJson), ("controller", some d.controller.toJson),
    ("node", some d.node.toJson),
    ("sideCars", Json.unlessNil d.sideCars ContainerTemplate.toJson),
    ("initContainers", Json.unlessNil d.initContainers ContainerTemplate.toJson),
    ("storageClass", Json.unlessNil d.storageClass StorageClassSpec.toJson),
    ("snapshotClass", Json.unlessNil d.snapshotClass SnapshotClassSpec.toJson),
    ("forceUpdate", Json.unlessFalse d.forceUpdate), ("authSecret", Json.unlessEmpty d.authSecret),
    ("tlsCertSecret", Json.unlessEmpty d.tlsCertSecret)]

/-- The document of a resource spec holding a driver spec. -/
def specJson (d : DriverSpec) : Json := .obj [("driver", d.toJson)]

end DriverSpec

namespace PodSummary

/-- Reads a pod summary. -/
def read : Reader PodSummary := Reader.record "struct PodStatus" fun ms => do
  pure {
    available := ← Reader.dflt ms "available" [] Reader.strs
    ready := ← Reader.dflt ms "ready" [] Reader.strs
    starting := ← Reader.dflt ms "starting" [] Reader.strs
    stopped := ← Reader.dflt ms "stopped" [] Reader.strs }

/-- The document of a pod summary. -/
def toJson (p : PodSummary) : Json :=
  .fields [("available", Json.unlessNil p.available .str), ("ready", Json.unlessNil p.ready .str),
    ("starting", Json.unlessNil p.starting .str), ("stopped", Json.unlessNil p.stopped .str)]

end PodSummary

namespace LastUpdate

/-- Reads a last update. -/
def read : Reader LastUpdate := Reader.record "struct LastUpdate" fun ms => do
  pure {
    condition := ← Reader.optNull ms "condition" Reader.condition
    time := ← Reader.optNull ms "time" Reader.instant
    errorMessage := ← Reader.dflt ms "errorMessage" "" Reader.string }

/-- The document of a last update. -/
def toJson (u : LastUpdate) : Json :=
  .fields [("condition", u.condition.map (.str ·.name)), ("time", u.time.map (.str ·.render)),
    ("errorMessage", Json.unlessEmpty u.errorMessage)]

end LastUpdate

namespace DriverStatus

/-- Reads a driver status. -/
def read : Reader DriverStatus := Reader.record "struct DriverStatus" fun ms => do
  pure {
    controllerStatus := ← Reader.dflt ms "controllerStatus" {} PodSummary.read
    nodeStatus := ← Reader.dflt ms "nodeStatus" {} PodSummary.read
    driverHash := ← Reader.dflt ms "driverHash" 0 Reader.u64
    state := ← Reader.dflt ms "state" .none Reader.driverState
    lastUpdate := ← Reader.dflt ms "lastUpdate" {} LastUpdate.read }

/-- The document of a driver status. -/
def toJson (s : DriverStatus) : Json :=
  .obj [("controllerStatus", s.controllerStatus.toJson), ("nodeStatus", s.nodeStatus.toJson),
    ("driverHash", .int s.driverHash), ("state", .str s.state.name),
    ("lastUpdate", s.lastUpdate.toJson)]

end DriverStatus

/-- A driver resource: one installation of a driver family. -/
structure DriverResource where
  family : DriverKind
  metadata : Json := .obj []
  spec : DriverSpec
  status : Option DriverStatus := none
deriving Inhabited

namespace DriverResource

/-- Reads a driver resource of a family. -/
def read (family : DriverKind) : Reader DriverResource :=
  Reader.record ("struct " ++ family.resourceKind) fun ms => do
    let metadata ← Reader.dflt ms "metadata" (.obj []) Kube.objectMeta.read
    let spec ← Reader.req ms "spec"
      (Reader.record ("struct " ++ family.resourceKind ++ "Spec") (Reader.req · "driver" DriverSpec.read))
    let status ← Reader.optNull ms "status" DriverStatus.read
    pure { family, metadata, spec, status }

/-- The document of a driver resource. -/
def toJson (r : DriverResource) : Json :=
  .fields [("apiVersion", some (.str (ResourceKind.driver r.family).apiVersion)),
    ("kind", some (.str r.family.resourceKind)), ("metadata", some r.metadata),
    ("spec", some r.spec.specJson), ("status", r.status.map DriverStatus.toJson)]

/-- A new resource with a name and a spec. -/
def ofSpec (family : DriverKind) (name : String) (spec : DriverSpec) : DriverResource :=
  { family, metadata := .obj [("name", .str name)], spec }

/-- The resource's namespace, if set. -/
def namespace? (r : DriverResource) : Option String := r.metadata.strOpt "namespace"

/-- The resource's name. -/
def name (r : DriverResource) : String :=
  (r.metadata.strOpt "name").getD ((r.metadata.strOpt "generateName").getD "")

/-- The compact text of the resource's spec, which its fingerprint is taken of. -/
def specText (r : DriverResource) : String := Json.compact r.spec.specJson

end DriverResource

end CsiOperator
