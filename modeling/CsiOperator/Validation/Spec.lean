import CsiOperator.Validation.Env
import CsiOperator.Spec.Hooks
import CsiOperator.Cluster.Store
import CsiOperator.Text.Bytes
/-!
Validation of a driver spec against the cluster and its resolved configuration.

The checks every family shares: the driver image is given; the credentials secret exists and
holds a user and a password (and, for PowerMax nodes with iSCSI CHAP, the CHAP secret); the
user's variables suit the configuration; and the certificate secret exists when certificate
validation is requested. A secret that cannot be read is not held against the spec.

Then the family's own checks: PowerMax limits by configuration version, Unity array
credentials and storage class parameters, VxFlexOS `HOST_PID`.
-/

namespace CsiOperator.Validation

/-- The variable that enables iSCSI CHAP on PowerMax. -/
def iscsiChapEnv : String := "X_CSI_POWERMAX_ISCSI_ENABLE_CHAP"

/-- Whether a family still reads its credentials through variables from a secret in a
configuration version. -/
def usesCredentialsSecret (k : DriverKind) (version : String) : Bool :=
  match k with
  | .unity => version == "v1"
  | .powerStore => version == "v1" || version == "v2"
  | .isilon => ["v1", "v2", "v3", "v4"].contains version
  | .vxFlexOs => version == "v2" || version == "v3"
  | .powerMax => true

/-- The variables a user sets for a plugin: the common ones with the plugin's own layered over
them. -/
def userEnvs (d : DriverSpec) (role : PluginRole) : List EnvVar :=
  Layer.envs d.common.envs (match role with
    | .controller => d.controller.envs
    | .node => d.node.envs)

/-- The keys of a secret's data. -/
def secretKeys (secret : Json) : List String := ((secret.get? "data").map fun d => d.members.map (·.1)).getD []

/-- Checks the credentials secret of a plugin. -/
def checkCredentialsSecret (r : DriverResource) (c : ResolvedConfig) (role : PluginRole) :
    ClusterM Unit := do
  let k := r.family
  if !usesCredentialsSecret k c.configVersion then return ()
  let configEnvs := c.driver.envs role
  let userEnv := k.userEnvName
  if !configEnvs.any (·.name == userEnv) then
    throw (.config ("failed to find env " ++ userEnv ++ " in the driver configuration"))
  let secretName := if r.spec.authSecret.isEmpty then (c.driver.secretNameFor? userEnv role).getD ""
    else r.spec.authSecret
  let found ← tryCatch (some <$> Cluster.get .secret (some (r.namespace?.getD "")) secretName)
    fun _ => pure none
  match found with
  | none => pure ()
  | some none =>
    throw (.invalid ("failed to find secret: [" ++ secretName ++ "] for connecting to the API endpoint"))
  | some (some secret) =>
    let keys := secretKeys secret
    for key in ["username", "password"] do
      if !keys.contains key then throw (.invalid (key ++ " key not found in secret"))
    if role == .node && k == .powerMax && c.configVersion != "v1" then
      let envs := Layer.envs configEnvs (userEnvs r.spec role)
      let chap := ((envValue envs iscsiChapEnv).map (Text.sameIgnoringCase · "true")).getD false
      if chap && !keys.contains "chapsecret" then
        throw (.invalid "chapsecret key not found in secret")

/-- Whether the user turned certificate validation on, by setting the family's skip variable to
false. -/
def certificateValidationRequested (k : DriverKind) (envs : List EnvVar) : Bool :=
  ((envValue envs k.certValidationEnv).map (Text.sameIgnoringCase · "false")).getD false

/-- Checks that the certificate secret of a plugin's certificate volume exists. -/
def checkCertSecret (r : DriverResource) (c : ResolvedConfig) (role : PluginRole) : ClusterM Unit := do
  let volume := (c.driver.volumes role).find? (·.strD "name" == r.family.certVolumeName)
  let secretName := (volume.bind (·.get? "secret")).bind (·.strOpt "secretName")
  match secretName with
  | none => pure ()
  | some name =>
    let found ← tryCatch (some <$> Cluster.get .secret (some (r.namespace?.getD "")) name) fun _ => pure none
    match found with
    | some none => throw (.invalid ("failed to find secret " ++ name ++ " and certificate validation is requested"))
    | _ => pure ()

/-- Validates a driver spec against the cluster and its resolved configuration. -/
def validateSpec (r : DriverResource) (c : ResolvedConfig) (strict : Bool) : ClusterM Unit := do
  if r.spec.common.image.isEmpty then throw (.invalid "driver image not specified in spec")
  for role in [PluginRole.controller, .node] do
    checkCredentialsSecret r c role
    let envs := userEnvs r.spec role
    match validateUserEnvs c envs role strict with
    | .ok () => pure ()
    | .error e => throw e
    if certificateValidationRequested r.family envs then checkCertSecret r c role

/-- The name of the Unity credentials secret. -/
def unityCredsSecret : String := DriverKind.unity.name ++ "-creds"

/-- Checks the array list in the Unity credentials secret. -/
def validateUnityCredentials (ns : String) : ClusterM Unit := do
  let secret ← tryCatch (Cluster.get .secret (some ns) unityCredsSecret) fun e =>
    throw (.invalid ("reading secret [" ++ unityCredsSecret ++ "] error [" ++ e.message ++ "]"))
  match secret with
  | none => throw (.invalid ("reading secret [" ++ unityCredsSecret ++ "] error [secret not found]"))
  | some s =>
    let raw := match (s.get? "data").bind (·.strOpt "config") with
      | some encoded => ((Bytes.decodeBase64? encoded).map Bytes.decodeUtf8Lossy).getD ""
      | none => ""
    match Hooks.checkUnityArrays raw with
    | .ok () => pure ()
    | .error e => throw e

/-- The family's own checks of a driver spec. -/
def validateDriverSpec (r : DriverResource) : ClusterM Unit := do
  let lift (o : Outcome Unit) : ClusterM Unit := match o with
    | .ok () => pure ()
    | .error e => throw e
  match r.family with
  | .powerMax => lift (Hooks.validatePowermax r.spec)
  | .unity => do
    validateUnityCredentials (r.namespace?.getD "")
    lift (Hooks.validateUnityStorageClasses r.spec r.name)
  | .vxFlexOs => lift (Hooks.validateHostPid r.spec)
  | _ => pure ()

end CsiOperator.Validation
