import CsiOperator.Resource.Driver
/-!
The reverse proxy resource: a proxy in front of the management servers of storage arrays,
either linked to one primary and one backup server or standing alone before several arrays.

As for the driver resource, each type has a reader that accepts what the resource's schema
accepts and a writer that leaves out the empty members the schema marks as omittable.
-/

namespace CsiOperator

/-- Request limits of a management server. -/
structure ProxyLimits where
  maxActiveRead : Int := 0
  maxActiveWrite : Int := 0
  maxOutStandingRead : Int := 0
  maxOutStandingWrite : Int := 0
deriving DecidableEq, Repr, Inhabited

/-- A management server the proxy forwards to. -/
structure ManagementServer where
  url : String := ""
  arrayCredentialSecret : String := ""
  skipCertificateValidation : Bool := false
  certSecret : String := ""
  limits : ProxyLimits := {}
deriving DecidableEq, Repr, Inhabited

/-- A primary management server and its backup. -/
structure LinkConfig where
  primary : ManagementServer
  backup : ManagementServer := {}
deriving DecidableEq, Repr, Inhabited

/-- A storage array served by a stand-alone proxy. -/
structure StorageArray where
  storageArrayId : String
  primaryUrl : String
  backupUrl : String := ""
  proxyCredentialSecrets : List String := []
deriving DecidableEq, Repr, Inhabited

/-- The arrays and servers of a stand-alone proxy. -/
structure StandAloneConfig where
  storageArrays : List StorageArray := []
  managementServers : List ManagementServer := []
deriving DecidableEq, Repr, Inhabited

/-- How the proxy is set up. -/
structure ProxyConfig where
  mode : String := ""
  port : Int := 0
  linkConfig : Option LinkConfig := none
  standAloneConfig : Option StandAloneConfig := none
deriving DecidableEq, Repr, Inhabited

/-- The desired state of a proxy. -/
structure ProxySpec where
  image : String
  imagePullPolicy : String := ""
  tlsSecret : String
  config : ProxyConfig
deriving DecidableEq, Repr, Inhabited

/-- The observed state of a proxy. -/
structure ProxyStatus where
  proxyStatus : PodSummary := {}
  proxyHash : Nat := 0
  state : DriverState := .none
  lastUpdate : LastUpdate := {}
deriving DecidableEq, Repr, Inhabited

namespace Json

/-- A member written only when the number is not zero. -/
def unlessZero (n : Int) : Option Json := if n == 0 then none else some (.int n)

end Json

namespace ProxyLimits

/-- Reads request limits. -/
def read : Reader ProxyLimits := Reader.record "struct ProxyLimits" fun ms => do
  pure {
    maxActiveRead := ← Reader.dflt ms "maxActiveRead" 0 Reader.i32
    maxActiveWrite := ← Reader.dflt ms "maxActiveWrite" 0 Reader.i32
    maxOutStandingRead := ← Reader.dflt ms "maxOutStandingRead" 0 Reader.i32
    maxOutStandingWrite := ← Reader.dflt ms "maxOutStandingWrite" 0 Reader.i32 }

/-- The members of request limits, in written order. -/
def members (l : ProxyLimits) : List (String × Option Json) :=
  [("maxActiveRead", Json.unlessZero l.maxActiveRead),
    ("maxActiveWrite", Json.unlessZero l.maxActiveWrite),
    ("maxOutStandingRead", Json.unlessZero l.maxOutStandingRead),
    ("maxOutStandingWrite", Json.unlessZero l.maxOutStandingWrite)]

/-- The document of request limits. -/
def toJson (l : ProxyLimits) : Json := .fields l.members

end ProxyLimits

namespace ManagementServer

/-- Reads a management server. -/
def read : Reader ManagementServer := Reader.record "struct ManagementServerConfig" fun ms => do
  pure {
    url := ← Reader.dflt ms "url" "" Reader.string
    arrayCredentialSecret := ← Reader.dflt ms "arrayCredentialSecret" "" Reader.string
    skipCertificateValidation := ← Reader.dflt ms "skipCertificateValidation" false Reader.bool
    certSecret := ← Reader.dflt ms "certSecret" "" Reader.string
    limits := ← Reader.dflt ms "limits" {} ProxyLimits.read }

/-- The document of a management server. -/
def toJson (m : ManagementServer) : Json :=
  .fields [("url", some (.str m.url)),
    ("arrayCredentialSecret", Json.unlessEmpty m.arrayCredentialSecret),
    ("skipCertificateValidation", Json.unlessFalse m.skipCertificateValidation),
    ("certSecret", Json.unlessEmpty m.certSecret), ("limits", some m.limits.toJson)]

end ManagementServer

namespace LinkConfig

/-- Reads a link configuration. -/
def read : Reader LinkConfig := Reader.record "struct LinkConfig" fun ms => do
  pure {
    primary := ← Reader.req ms "primary" ManagementServer.read
    backup := ← Reader.dflt ms "backup" {} ManagementServer.read }

/-- The document of a link configuration. -/
def toJson (l : LinkConfig) : Json :=
  .obj [("primary", l.primary.toJson), ("backup", l.backup.toJson)]

end LinkConfig

namespace StorageArray

/-- Reads a storage array entry. -/
def read : Reader StorageArray := Reader.record "struct StorageArrayConfig" fun ms => do
  pure {
    storageArrayId := ← Reader.req ms "storageArrayId" Reader.string
    primaryUrl := ← Reader.req ms "primaryURL" Reader.string
    backupUrl := ← Reader.dflt ms "backupURL" "" Reader.string
    proxyCredentialSecrets := ← Reader.dflt ms "proxyCredentialSecrets" [] Reader.strs }

/-- The document of a storage array entry. -/
def toJson (a : StorageArray) : Json :=
  .fields [("storageArrayId", some (.str a.storageArrayId)), ("primaryURL", some (.str a.primaryUrl)),
    ("backupURL", Json.unlessEmpty a.backupUrl),
    ("proxyCredentialSecrets", some (Json.strs a.proxyCredentialSecrets))]

end StorageArray

namespace StandAloneConfig

/-- Reads a stand-alone configuration. -/
def read : Reader StandAloneConfig := Reader.record "struct StandAloneConfig" fun ms => do
  pure {
    storageArrays := ← Reader.dflt ms "storageArrays" [] (Reader.list StorageArray.read)
    managementServers := ← Reader.dflt ms "managementServers" [] (Reader.list ManagementServer.read) }

/-- The document of a stand-alone configuration. -/
def toJson (c : StandAloneConfig) : Json :=
  .obj [("storageArrays", .arr (c.storageArrays.map StorageArray.toJson)),
    ("managementServers", .arr (c.managementServers.map ManagementServer.toJson))]

end StandAloneConfig

namespace ProxyConfig

/-- Reads a proxy configuration. -/
def read : Reader ProxyConfig := Reader.record "struct RevProxyConfig" fun ms => do
  pure {
    mode := ← Reader.dflt ms "mode" "" Reader.string
    port := ← Reader.dflt ms "port" 0 Reader.i32
    linkConfig := ← Reader.optNull ms "linkConfig" LinkConfig.read
    standAloneConfig := ← Reader.optNull ms "standAloneConfig" StandAloneConfig.read }

/-- The document of a proxy configuration. -/
def toJson (c : ProxyConfig) : Json :=
  .fields [("mode", Json.unlessEmpty c.mode), ("port", Json.unlessZero c.port),
    ("linkConfig", c.linkConfig.map LinkConfig.toJson),
    ("standAloneConfig", c.standAloneConfig.map StandAloneConfig.toJson)]

end ProxyConfig

namespace ProxySpec

/-- Reads a proxy spec. -/
def read : Reader ProxySpec := Reader.record "struct CSIPowerMaxRevProxySpec" fun ms => do
  pure {
    image := ← Reader.req ms "image" Reader.string
    imagePullPolicy := ← Reader.dflt ms "imagePullPolicy" "" Reader.string
    tlsSecret := ← Reader.req ms "tlsSecret" Reader.string
    config := ← Reader.req ms "config" ProxyConfig.read }

/-- The document of a proxy spec. -/
def toJson (p : ProxySpec) : Json :=
  .fields [("image", some (.str p.image)), ("imagePullPolicy", Json.unlessEmpty p.imagePullPolicy),
    ("tlsSecret", some (.str p.tlsSecret)), ("config", some p.config.toJson)]

end ProxySpec

namespace ProxyStatus

/-- Reads a proxy status. -/
def read : Reader ProxyStatus := Reader.record "struct CSIPowerMaxRevProxyStatus" fun ms => do
  pure {
    proxyStatus := ← Reader.dflt ms "proxyStatus" {} PodSummary.read
    proxyHash := ← Reader.dflt ms "proxyHash" 0 Reader.u64
    state := ← Reader.dflt ms "state" .none Reader.driverState
    lastUpdate := ← Reader.dflt ms "lastUpdate" {} LastUpdate.read }

/-- The document of a proxy status. -/
def toJson (s : ProxyStatus) : Json :=
  .obj [("proxyStatus", s.proxyStatus.toJson), ("proxyHash", .int s.proxyHash),
    ("state", .str s.state.name), ("lastUpdate", s.lastUpdate.toJson)]

end ProxyStatus

/-- A proxy resource. -/
structure ProxyResource where
  metadata : Json := .obj []
  spec : ProxySpec
  status : Option ProxyStatus := none
deriving Inhabited

namespace ProxyResource

/-- Reads a proxy resource. -/
def read : Reader ProxyResource := Reader.record "struct CSIPowerMaxRevProxy" fun ms => do
  let metadata ← Reader.dflt ms "metadata" (.obj []) Kube.objectMeta.read
  let spec ← Reader.req ms "spec" ProxySpec.read
  let status ← Reader.optNull ms "status" ProxyStatus.read
  pure { metadata, spec, status }

/-- The document of a proxy resource. -/
def toJson (r : ProxyResource) : Json :=
  .fields [("apiVersion", some (.str ResourceKind.reverseProxy.apiVersion)),
    ("kind", some (.str ResourceKind.reverseProxy.name)), ("metadata", some r.metadata),
    ("spec", some r.spec.toJson), ("status", r.status.map ProxyStatus.toJson)]

/-- The resource's namespace, if set. -/
def namespace? (r : ProxyResource) : Option String := r.metadata.strOpt "namespace"

/-- The resource's name. -/
def name (r : ProxyResource) : String :=
  (r.metadata.strOpt "name").getD ((r.metadata.strOpt "generateName").getD "")

/-- The compact text of the resource's spec, which its fingerprint is taken of. -/
def specText (r : ProxyResource) : String := Json.compact r.spec.toJson

end ProxyResource

end CsiOperator
