import CsiOperator.Kube.Kind
import CsiOperator.Yaml.Emit
/-!
The custom resource definitions of the operator's six kinds, and their YAML text.

Each definition names its kind in the `storage.dell.com` group, declares the single served
version `v1` with a status subresource, and carries the OpenAPI schema of the kind: the five
driver kinds share one schema, the reverse proxy has its own. Schema members are written in
key order.
-/

namespace CsiOperator.Definition

/-- A value with its object members sorted by key, at every depth. -/
def sortKeys : Json → Json
  | .arr xs => .arr (xs.attach.map fun ⟨x, _⟩ => sortKeys x)
  | .obj ms =>
    let sorted := (ms.attach.map fun ⟨(k, v), _⟩ => (k, sortKeys v)).mergeSort fun a b => a.1 ≤ b.1
    .obj sorted
  | j => j
termination_by j => j
decreasing_by
  all_goals simp_wf
  · have := List.sizeOf_lt_of_mem (by assumption : x ∈ xs); omega
  · have := List.sizeOf_lt_of_mem (by assumption : (k, v) ∈ ms)
    simp at this; omega

/-! ## Schema building blocks -/

/-- A schema of a type name. -/
def typed (t : String) : Json := .obj [("type", .str t)]

/-- Text. -/
def text : Json := typed "string"

/-- A truth value. -/
def flag : Json := typed "boolean"

/-- A 32-bit integer. -/
def int32 : Json := .obj [("format", .str "int32"), ("type", .str "integer")]

/-- A list of items of a schema. -/
def listOf (item : Json) : Json := .obj [("items", item), ("type", .str "array")]

/-- A list of anything. -/
def anyList : Json := listOf (.obj [])

/-- A map from text to text. -/
def textMap : Json := .obj [("additionalProperties", text), ("type", .str "object")]

/-- A schema with one more member. -/
def withMember (s : Json) (key : String) (v : Json) : Json := s.set key v

/-- A schema that may be null. -/
def nullable (s : Json) : Json := withMember s "nullable" (.bool true)

/-- A schema with a description. -/
def described (what : String) (s : Json) : Json := withMember s "description" (.str what)

/-- A schema with a default value. -/
def defaulting (d : Json) (s : Json) : Json := withMember s "default" d

/-- A record of named members, some of them required. -/
def record (members : List (String × Json)) (required : List String := []) : Json :=
  .obj ([("properties", .obj members), ("type", .str "object")] ++
    if required.isEmpty then [] else [("required", Json.strs required)])

/-- An unsigned 64-bit fingerprint that starts at zero. -/
def fingerprint : Json :=
  .obj [("default", .int 0), ("format", .str "uint64"), ("minimum", .num false 0 0), ("type", .str "integer")]

/-! ## Shared parts -/

/-- The partition of a workload's pods. -/
def podSummary : Json :=
  described "Partition of a workload's pods by health"
    (record [("available", listOf text), ("ready", listOf text), ("starting", listOf text),
      ("stopped", listOf text)])

/-- The last change of a status. -/
def lastUpdate : Json :=
  described ("Last recorded condition change\n\n`time` only moves when `condition` or " ++
      "`error_message` changes, so the elapsed time since `time` measures how long the " ++
      "condition has persisted.")
    (record [
      ("condition", described "Condition recorded in `status.lastUpdate`"
        (nullable (withMember text "enum" (Json.strs ["Succeeded", "InvalidConfig", "Running", "Error",
          "Updating", "Failed"])))),
      ("errorMessage", text),
      ("time", nullable text)])

/-- The lifecycle state. -/
def state : Json :=
  defaulting (.str "") (described "Lifecycle state of a driver or proxy installation"
    (withMember text "enum" (Json.strs ["", "Updating", "Succeeded", "Running", "Failed", "InvalidConfig"])))

/-! ## Driver kinds -/

/-- One container's settings. -/
def containerTemplate : Json :=
  described "Image, arguments, environment and scheduling for one container"
    (record [("args", listOf text), ("envs", anyList), ("image", text), ("imagePullPolicy", text),
      ("name", text), ("nodeSelector", nullable textMap), ("tolerations", anyList)])

/-- A storage class of a driver. -/
def storageClass : Json :=
  described "A StorageClass to be created for the driver"
    (record [("allowVolumeExpansion", nullable flag), ("allowedTopologies", nullable anyList),
      ("default", flag), ("name", text), ("parameters", textMap), ("reclaimPolicy", text),
      ("volumeBindingMode", text)] ["name"])

/-- A snapshot class of a driver. -/
def snapshotClass : Json :=
  described "A VolumeSnapshotClass to be created for the driver"
    (record [("name", text), ("parameters", textMap)] ["name"])

/-- The desired state of a driver installation. -/
def driverSpec : Json :=
  described "Desired state of one driver installation" (record [
    ("authSecret", described "Overrides the credentials secret name baked into the driver config" text),
    ("common", defaulting (.obj []) containerTemplate),
    ("configVersion", described "Driver configuration version, e.g. `v4`" text),
    ("controller", defaulting (.obj []) containerTemplate),
    ("dnsPolicy", text),
    ("forceUpdate", described "One-shot flag that forces a resync out of `Failed`/`InvalidConfig`" flag),
    ("fsGroupPolicy", text),
    ("initContainers", listOf containerTemplate),
    ("node", defaulting (.obj []) containerTemplate),
    ("replicas", defaulting (.int 0) int32),
    ("sideCars", listOf containerTemplate),
    ("snapshotClass", listOf snapshotClass),
    ("storageClass", listOf storageClass),
    ("tlsCertSecret", text)] ["configVersion"])

/-- The observed state of a driver installation. -/
def driverStatus : Json :=
  described "Observed state of one driver installation" (nullable (record [
    ("controllerStatus", defaulting (.obj []) podSummary),
    ("driverHash", described "Hash of the spec last fully synced" fingerprint),
    ("lastUpdate", defaulting (.obj []) lastUpdate),
    ("nodeStatus", defaulting (.obj []) podSummary),
    ("state", state)]))

/-! ## Reverse proxy -/

/-- Request limits towards a management server. -/
def proxyLimits : Json :=
  record [("maxActiveRead", int32), ("maxActiveWrite", int32), ("maxOutStandingRead", int32),
    ("maxOutStandingWrite", int32)]

/-- A management server. -/
def managementServer : Json :=
  record [("arrayCredentialSecret", text), ("certSecret", text),
    ("limits", defaulting (.obj []) proxyLimits), ("skipCertificateValidation", flag),
    ("url", defaulting (.str "") text)]

/-- A storage array served by the proxy. -/
def storageArray : Json :=
  record [("backupURL", text), ("primaryURL", text),
    ("proxyCredentialSecrets", defaulting (.arr []) (listOf text)), ("storageArrayId", text)]
    ["primaryURL", "storageArrayId"]

/-- The proxy's configuration. -/
def proxyConfig : Json :=
  described "Reverse proxy configuration, rendered verbatim into the proxy ConfigMap" (record [
    ("linkConfig", nullable (record [
      ("backup", defaulting (.obj [("limits", .obj []), ("url", .str "")]) managementServer),
      ("primary", managementServer)] ["primary"])),
    ("mode", described "`Linked` (default) or `StandAlone`" text),
    ("port", int32),
    ("standAloneConfig", nullable (record [
      ("managementServers", defaulting (.arr []) (listOf managementServer)),
      ("storageArrays", defaulting (.arr []) (listOf storageArray))]))])

/-- The desired state of a proxy. -/
def proxySpec : Json :=
  record [("config", proxyConfig), ("image", text), ("imagePullPolicy", text), ("tlsSecret", text)]
    ["config", "image", "tlsSecret"]

/-- The observed state of a proxy. -/
def proxyStatus : Json :=
  described "Observed state of the reverse proxy" (nullable (record [
    ("lastUpdate", defaulting (.obj []) lastUpdate),
    ("proxyHash", fingerprint),
    ("proxyStatus", defaulting (.obj []) podSummary),
    ("state", state)]))

/-! ## Definitions -/

/-- The short name of a kind. -/
def shortName : ResourceKind → String
  | .driver family => family.name
  | _ => "revproxy"

/-- The schema of a kind's resources. -/
def schema (k : ResourceKind) : Json :=
  let (spec, status) := match k with
    | .driver _ => (record [("driver", driverSpec)] ["driver"], driverStatus)
    | _ => (proxySpec, proxyStatus)
  described ("Auto-generated derived type for " ++ k.name ++ "Spec via `CustomResource`")
    (withMember (record [("spec", spec), ("status", status)] ["spec"]) "title" (.str k.name))

/-- The columns shown when listing a kind's resources. -/
def printerColumns (k : ResourceKind) : List Json :=
  let column (path name type : String) : Json :=
    .obj [("jsonPath", .str path), ("name", .str name), ("type", .str type)]
  [column ".metadata.creationTimestamp" "CreationTime" "date"] ++
  (match k with
    | .driver _ => [column ".spec.driver.configVersion" "DriverVersion" "string"]
    | _ => []) ++
  [column ".status.state" "State" "string"]

/-- The definition of a kind. -/
def definition (k : ResourceKind) : Json :=
  sortKeys (.obj [
    ("apiVersion", .str "apiextensions.k8s.io/v1"),
    ("kind", .str "CustomResourceDefinition"),
    ("metadata", .obj [("name", .str (k.plural ++ "." ++ k.group))]),
    ("spec", .obj [
      ("group", .str k.group),
      ("names", .obj [("categories", .arr []), ("kind", .str k.name), ("plural", .str k.plural),
        ("shortNames", Json.strs [shortName k]), ("singular", .str k.name.toLower)]),
      ("scope", .str "Namespaced"),
      ("versions", .arr [.obj [
        ("additionalPrinterColumns", .arr (printerColumns k)),
        ("name", .str "v1"),
        ("schema", .obj [("openAPIV3Schema", schema k)]),
        ("served", .bool true),
        ("storage", .bool true),
        ("subresources", .obj [("status", .obj [])])]])])])

/-- The operator's kinds, in the order their definitions are printed. -/
def kinds : List ResourceKind :=
  [.driver .powerMax, .driver .isilon, .driver .unity, .driver .vxFlexOs, .driver .powerStore,
    .reverseProxy]

/-- The YAML text of every definition, each document introduced by `---`. -/
def allText : String :=
  String.join (kinds.map fun k => "---\n" ++ Yaml.Emit.document (definition k))

end CsiOperator.Definition
