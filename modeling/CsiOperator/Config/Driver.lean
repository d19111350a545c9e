import CsiOperator.Config.Env
import CsiOperator.Error
/-!
The configuration of one driver version: its environment, volumes, arguments, tolerations,
sidecars, init containers and storage class rules. It is read from a JSON file and never
changed; the operator asks it questions (`envs`, `sidecar?`, `secretNameFor?`, ...).

`validateEnvType` checks a user's variable against its declaration: the value must suit the
declared type, a mandatory variable must have a value, and in strict mode an undeclared
variable is refused.
-/

namespace CsiOperator

/-- What a driver configuration says about one sidecar. -/
structure SidecarParams where
  name : String
  optional : Bool := false
  args : List String := []
  envs : List EnvVar := []
  volumeMounts : List Json := []
deriving Inhabited

/-- What a driver configuration says about one init container. -/
structure InitContainerParams where
  name : String
  optional : Bool := false
  forController : Bool := false
  forNode : Bool := false
  args : List String := []
  envs : List EnvVar := []
  volumeMounts : List Json := []
deriving Inhabited

/-- A storage class parameter, and whether every class must set it. -/
structure StorageClassParam where
  name : String
  mandatory : Bool := false
deriving DecidableEq, Repr, Inhabited

/-- A storage class attribute default. -/
structure StorageClassAttr where
  name : String
  value : Json := .null
deriving Inhabited

/-- The configuration of one driver version. -/
structure DriverConfig where
  controllerHA : Bool := false
  enableEphemeralVolumes : Bool := false
  driverEnvs : List DriverEnv := []
  nodeVolumes : List Json := []
  controllerVolumes : List Json := []
  nodeVolumeMounts : List Json := []
  controllerVolumeMounts : List Json := []
  driverArgs : List String := []
  controllerTolerations : List Toleration := []
  nodeTolerations : List Toleration := []
  sidecarParams : List SidecarParams := []
  initContainerParams : List InitContainerParams := []
  storageClassParams : List StorageClassParam := []
  storageClassAttrs : List StorageClassAttr := []
deriving Inhabited

namespace Reader

/-- Reads a list of Kubernetes documents through a schema. -/
def docs (s : Kube.Schema) : Reader (List Json) := list (Kube.Schema.read s)

end Reader

namespace SidecarParams

/-- Reads sidecar parameters. -/
def read : Reader SidecarParams := Reader.record "struct SidecarParams" fun ms => do
  pure {
    name := ← Reader.req ms "Name" Reader.string
    optional := ← Reader.dflt ms "optional" false Reader.bool
    args := ← Reader.dflt ms "args" [] Reader.strs
    envs := ← Reader.dflt ms "envs" [] (Reader.list EnvVar.read)
    volumeMounts := ← Reader.dflt ms "volumeMounts" [] (Reader.docs Kube.volumeMount) }

/-- The document of sidecar parameters. -/
def toJson (p : SidecarParams) : Json :=
  .obj [("Name", .str p.name), ("optional", .bool p.optional), ("args", Json.strs p.args),
    ("envs", .arr (p.envs.map EnvVar.toJson)), ("volumeMounts", .arr p.volumeMounts)]

end SidecarParams

namespace InitContainerParams

/-- Reads init container parameters. -/
def read : Reader InitContainerParams := Reader.record "struct InitContainerParams" fun ms => do
  pure {
    name := ← Reader.req ms "Name" Reader.string
    optional := ← Reader.dflt ms "optional" false Reader.bool
    forController := ← Reader.dflt ms "SetForController" false Reader.bool
    forNode := ← Reader.dflt ms "SetForNode" false Reader.bool
    args := ← Reader.dflt ms "args" [] Reader.strs
    envs := ← Reader.dflt ms "envs" [] (Reader.list EnvVar.read)
    volumeMounts := ← Reader.dflt ms "volumeMounts" [] (Reader.docs Kube.volumeMount) }

/-- The document of init container parameters. -/
def toJson (p : InitContainerParams) : Json :=
  .obj [("Name", .str p.name), ("optional", .bool p.optional),
    ("SetForController", .bool p.forController), ("SetForNode", .bool p.forNode),
    ("args", Json.strs p.args), ("envs", .arr (p.envs.map EnvVar.toJson)),
    ("volumeMounts", .arr p.volumeMounts)]

/-- Whether the init container runs in a plugin. -/
def appliesTo (p : InitContainerParams) : PluginRole → Bool
  | .controller => p.forController
  | .node => p.forNode

end InitContainerParams

namespace DriverConfig

/-- Reads a driver configuration. -/
def read : Reader DriverConfig := Reader.record "struct DriverConfig" fun ms => do
  pure {
    controllerHA := ← Reader.dflt ms "controllerHA" false Reader.bool
    enableEphemeralVolumes := ← Reader.dflt ms "enableEphemeralVolumes" false Reader.bool
    driverEnvs := ← Reader.dflt ms "driverEnvs" [] (Reader.list DriverEnv.read)
    nodeVolumes := ← Reader.dflt ms "driverNodeVolumes" [] (Reader.docs Kube.volume)
    controllerVolumes := ← Reader.dflt ms "driverControllerVolumes" [] (Reader.docs Kube.volume)
    nodeVolumeMounts := ← Reader.dflt ms "driverNodeVolumeMounts" [] (Reader.docs Kube.volumeMount)
    controllerVolumeMounts :=
      ← Reader.dflt ms "driverControllerVolumeMounts" [] (Reader.docs Kube.volumeMount)
    driverArgs := ← Reader.dflt ms "driverArgs" [] Reader.strs
    controllerTolerations := ← Reader.dflt ms "controllerTolerations" [] (Reader.list Toleration.read)
    nodeTolerations := ← Reader.dflt ms "nodeTolerations" [] (Reader.list Toleration.read)
    sidecarParams := ← Reader.dflt ms "sidecarParams" [] (Reader.list SidecarParams.read)
    initContainerParams :=
      ← Reader.dflt ms "initContainerParams" [] (Reader.list InitContainerParams.read)
    storageClassParams := ← Reader.dflt ms "storageClassParams" [] (Reader.list (Reader.record "struct StorageClassParam" fun pm => do
      pure { name := ← Reader.req pm "Name" Reader.string
             mandatory := ← Reader.dflt pm "Mandatory" false Reader.bool : StorageClassParam }))
    storageClassAttrs := ← Reader.dflt ms "storageClassAttrs" [] (Reader.list (Reader.record "struct StorageClassAttr" fun am => do
      pure { name := ← Reader.req am "name" Reader.string
             value := ← Reader.dflt am "value" .null Reader.any : StorageClassAttr })) }

/-- The form of a driver configuration file for reading its JSON text: a declared record
holding the configuration, whose lists hold declared records and Kubernetes records. -/
def fileForm : JsonText.Form :=
  let dflt (key : String) (f : JsonText.Form) : String × JsonText.Form × Bool := (key, f, true)
  let req (key : String) (f : JsonText.Form) : String × JsonText.Form × Bool := (key, f, false)
  let strs : JsonText.Form := .list .string
  let mounts : JsonText.Form := .list Kube.volumeMount.form
  let env : JsonText.Form := .record "struct DriverEnv" [req "Name" .string, dflt "Mandatory" .bool,
    dflt "CSIEnvType" .names, dflt "SetForController" .bool, dflt "SetForNode" .bool,
    dflt "DefaultValueForController" .string, dflt "DefaultValueForNode" .string] true
  let sidecar : JsonText.Form := .record "struct SidecarParams" [req "Name" .string,
    dflt "optional" .bool, dflt "args" strs, dflt "envs" (.list Kube.envVar.form),
    dflt "volumeMounts" mounts] true
  let initContainer : JsonText.Form := .record "struct InitContainerParams" [req "Name" .string,
    dflt "optional" .bool, dflt "SetForController" .bool, dflt "SetForNode" .bool, dflt "args" strs,
    dflt "envs" (.list Kube.envVar.form), dflt "volumeMounts" mounts] true
  let param : JsonText.Form := .record "struct StorageClassParam" [req "Name" .string,
    dflt "Mandatory" .bool] true
  let attr : JsonText.Form := .record "struct StorageClassAttr" [req "name" .string, dflt "value" .any] true
  let config : JsonText.Form := .record "struct DriverConfig" [dflt "controllerHA" .bool,
    dflt "enableEphemeralVolumes" .bool, dflt "driverEnvs" (.list env),
    dflt "driverNodeVolumes" (.list Kube.volume.form), dflt "driverControllerVolumes" (.list Kube.volume.form),
    dflt "driverNodeVolumeMounts" mounts, dflt "driverControllerVolumeMounts" mounts,
    dflt "driverArgs" strs, dflt "controllerTolerations" (.list Kube.toleration.form),
    dflt "nodeTolerations" (.list Kube.toleration.form), dflt "sidecarParams" (.list sidecar),
    dflt "initContainerParams" (.list initContainer), dflt "storageClassParams" (.list param),
    dflt "storageClassAttrs" (.list attr)] true
  .record "struct DriverConfigFile" [req "driverConfig" config] true

/-- The document of a driver configuration. -/
def toJson (c : DriverConfig) : Json :=
  .obj [("controllerHA", .bool c.controllerHA),
    ("enableEphemeralVolumes", .bool c.enableEphemeralVolumes),
    ("driverEnvs", .arr (c.driverEnvs.map DriverEnv.toJson)),
    ("driverNodeVolumes", .arr c.nodeVolumes), ("driverControllerVolumes", .arr c.controllerVolumes),
    ("driverNodeVolumeMounts", .arr c.nodeVolumeMounts),
    ("driverControllerVolumeMounts", .arr c.controllerVolumeMounts),
    ("driverArgs", Json.strs c.driverArgs),
    ("controllerTolerations", .arr (c.controllerTolerations.map Toleration.toJson)),
    ("nodeTolerations", .arr (c.nodeTolerations.map Toleration.toJson)),
    ("sidecarParams", .arr (c.sidecarParams.map SidecarParams.toJson)),
    ("initContainerParams", .arr (c.initContainerParams.map InitContainerParams.toJson)),
    ("storageClassParams", .arr (c.storageClassParams.map fun p =>
      .obj [("Name", .str p.name), ("Mandatory", .bool p.mandatory)])),
    ("storageClassAttrs", .arr (c.storageClassAttrs.map fun a =>
      .obj [("name", .str a.name), ("value", a.value)]))]

/-- The variables a plugin gets by default. -/
def envs (c : DriverConfig) (role : PluginRole) : List EnvVar :=
  (c.driverEnvs.filter (·.appliesTo role)).filterMap (·.toEnvVar role)

/-- The volumes of a plugin. -/
def volumes (c : DriverConfig) : PluginRole → List Json
  | .controller => c.controllerVolumes
  | .node => c.nodeVolumes

/-- The volume mounts of a plugin's driver container. -/
def volumeMounts (c : DriverConfig) : PluginRole → List Json
  | .controller => c.controllerVolumeMounts
  | .node => c.nodeVolumeMounts

/-- The tolerations of a plugin. -/
def tolerations (c : DriverConfig) : PluginRole → List Toleration
  | .controller => c.controllerTolerations
  | .node => c.nodeTolerations

/-- The sidecars that are not optional. -/
def mandatorySidecars (c : DriverConfig) : List String :=
  (c.sidecarParams.filter (!·.optional)).map (·.name)

/-- The parameters of a sidecar. -/
def sidecar? (c : DriverConfig) (name : String) : Option SidecarParams :=
  c.sidecarParams.find? (·.name == name)

/-- The parameters of an init container. -/
def initContainer? (c : DriverConfig) (name : String) : Option InitContainerParams :=
  c.initContainerParams.find? (·.name == name)

/-- The init containers of a plugin. -/
def initContainersFor (c : DriverConfig) (role : PluginRole) : List InitContainerParams :=
  c.initContainerParams.filter (·.appliesTo role)

/-- The storage class parameters every class must set. -/
def mandatoryStorageClassParams (c : DriverConfig) : List String :=
  (c.storageClassParams.filter (·.mandatory)).map (·.name)

/-- The mandatory variables of a plugin. -/
def mandatoryEnvNames (c : DriverConfig) (role : PluginRole) : List String :=
  (c.driverEnvs.filter fun e => e.mandatory && e.appliesTo role).map (·.name)

/-- The secret a plugin's variable reads its value from, if it is a secret reference. -/
def secretNameFor? (c : DriverConfig) (envName : String) (role : PluginRole) : Option String :=
  ((c.envs role).find? (·.name == envName)).bind fun e =>
    e.valueFrom.bind (·.secretKeyRef) |>.bind (·.name)

/-- The default value of a storage class attribute. -/
def storageClassAttr? (c : DriverConfig) (name : String) : Option Json :=
  (c.storageClassAttrs.find? (·.name == name)).map (·.value)

/-- Checks a user's variable against its declaration. -/
def validateEnvType (c : DriverConfig) (env : EnvVar) (strict : Bool) : Outcome Unit :=
  let value := env.value.getD ""
  match c.driverEnvs.find? (·.name == env.name) with
  | some declared =>
    if !declared.type.accepts value then
      .error (.invalid ("invalid value specified in spec - Name: " ++ env.name ++ ", Value: " ++ value))
    else if declared.mandatory && value.isEmpty then
      .error (.invalid ("missing value for a mandatory env - Name: " ++ env.name ++ ", Value:" ++ value))
    else .ok ()
  | none =>
    if strict then
      .error (.invalid ("failed to find the environment variable: " ++ env.name ++
        " in the default config"))
    else .ok ()

end DriverConfig

end CsiOperator
