import CsiOperator.Yaml.Decode
import CsiOperator.DriverKind
import CsiOperator.Error
import CsiOperator.Log
/-!
The operator's catalog: the Kubernetes versions it supports, the configuration versions of
each driver family with the Kubernetes versions each supports, and the image tags of the
sidecar and extension containers.

`defaultImageTags` picks the tags for one family, configuration version and Kubernetes
version: the shared sidecar tags for that Kubernetes version when the configuration version
uses the defaults, otherwise its own tags overridden by the non-empty tags given for that
Kubernetes version; extension tags come last. Every picked tag must be non-empty.
-/

namespace CsiOperator

-- Names of the container images the operator manages.
namespace Image

/-- The name of the driver container itself. -/
def driver : String := "driver"

/-- The container name of the volume provisioner sidecar. -/
def provisioner : String := "provisioner"

/-- The container name of the volume attacher sidecar. -/
def attacher : String := "attacher"

/-- The container name of the snapshotter sidecar. -/
def snapshotter : String := "snapshotter"

/-- The container name of the node driver registrar sidecar. -/
def registrar : String := "registrar"

/-- The container name of the volume resizer sidecar. -/
def resizer : String := "resizer"

/-- The container name of the SDC monitor sidecar. -/
def sdcMonitor : String := "sdc-monitor"

/-- The container name of the external health monitor sidecar. -/
def healthMonitor : String := "external-health-monitor"

/-- The name of the SDC init container. -/
def sdc : String := "sdc"

/-- The pseudo sidecar whose arguments every controller sidecar shares. -/
def common : String := "common"

end Image

/-- The tags of the standard sidecars. -/
structure SidecarTags where
  attacher : String := ""
  provisioner : String := ""
  resizer : String := ""
  snapshotter : String := ""
  registrar : String := ""
deriving DecidableEq, Repr, Inhabited

/-- A Kubernetes version a configuration version supports, with tags for it. -/
structure SupportedVersion where
  version : String
  tags : SidecarTags := {}
deriving DecidableEq, Repr, Inhabited

/-- A configuration version of a driver family. -/
structure ConfigVersion where
  configVersion : String
  useDefaults : Bool := false
  supportedVersions : List SupportedVersion := []
  tags : SidecarTags := {}
deriving DecidableEq, Repr, Inhabited

/-- A driver family and its configuration versions. -/
structure CatalogDriver where
  name : String
  configVersions : List ConfigVersion := []
deriving DecidableEq, Repr, Inhabited

/-- A tag of an image for one Kubernetes version. -/
structure ImageTag where
  version : String
  tag : String := ""
deriving DecidableEq, Repr, Inhabited

/-- A container and its tags by Kubernetes version. -/
structure ContainerImages where
  name : String
  images : List ImageTag := []
deriving DecidableEq, Repr, Inhabited

/-- The operator's catalog. -/
structure Catalog where
  drivers : List CatalogDriver := []
  sidecars : List ContainerImages := []
  extensions : List ContainerImages := []
  supportedK8sVersions : List String := []
deriving DecidableEq, Repr, Inhabited

namespace SidecarTags

/-- The tags by image name, in the order they are applied. -/
def entries (t : SidecarTags) : List (String × String) :=
  [(Image.provisioner, t.provisioner), (Image.attacher, t.attacher), (Image.resizer, t.resizer),
    (Image.snapshotter, t.snapshotter), (Image.registrar, t.registrar)]

/-- Reads the tags of a record they are flattened into. -/
def readFlat (ms : Yaml.YReader.Members) : Yaml.YReader.Scan SidecarTags := do
  pure {
    attacher := ← ms.flatStr "attacher"
    provisioner := ← ms.flatStr "provisioner"
    resizer := ← ms.flatStr "resizer"
    snapshotter := ← ms.flatStr "snapshotter"
    registrar := ← ms.flatStr "registrar" }

/-- The non-empty tags as document members, in declaration order. -/
def members (t : SidecarTags) : List (String × Json) :=
  [("attacher", t.attacher), ("provisioner", t.provisioner), ("resizer", t.resizer),
    ("snapshotter", t.snapshotter), ("registrar", t.registrar)].filterMap fun (k, v) =>
    if v.isEmpty then none else some (k, .str v)

end SidecarTags

namespace Catalog

open Yaml.YReader in
/-- Reads a catalog from its YAML document. -/
def read : Yaml.YReader Catalog :=
  let supported : Yaml.YReader SupportedVersion :=
    flatRecord "struct SupportedVersionParams" ["version"] fun ms => do
      pure { version := ← ms.req "version" string, tags := ← SidecarTags.readFlat ms }
  let configVersion : Yaml.YReader ConfigVersion :=
    flatRecord "struct ConfigVersionParams" ["configVersion", "useDefaults", "supportedVersions"] fun ms => do
      pure {
        configVersion := ← ms.req "configVersion" string
        useDefaults := ← ms.dflt "useDefaults" false bool
        supportedVersions := ← ms.dflt "supportedVersions" [] (list supported)
        tags := ← SidecarTags.readFlat ms }
  let driver : Yaml.YReader CatalogDriver :=
    record "struct DriverConfigParams" ["name", "configVersions"] fun ms => do
      pure {
        name := ← ms.req "name" string
        configVersions := ← ms.dflt "configVersions" [] (list configVersion) }
  let imageTag : Yaml.YReader ImageTag :=
    record "struct ImageTag" ["version", "tag"] fun ms => do
      pure { version := ← ms.req "version" string, tag := ← ms.dflt "tag" "" string }
  let container : Yaml.YReader ContainerImages :=
    record "struct ContainerApp" ["name", "images"] fun ms => do
      pure { name := ← ms.req "name" string, images := ← ms.dflt "images" [] (list imageTag) }
  record "struct OpConfig" ["drivers", "csiSideCars", "extensions", "supportedK8sVersions"] fun ms => do
    pure {
      drivers := ← ms.dflt "drivers" [] (list driver)
      sidecars := ← ms.dflt "csiSideCars" [] (list container)
      extensions := ← ms.dflt "extensions" [] (list container)
      supportedK8sVersions := ← ms.dflt "supportedK8sVersions" [] strs }

/-- Reads a catalog from YAML text. -/
def parse (text : String) : Outcome Catalog :=
  match Yaml.readDocument read text with
  | .ok c => .ok c
  | .error e => .error (.yaml e.message)

/-- The document of a container's tags. -/
def containerJson (c : ContainerImages) : Json :=
  .obj [("name", .str c.name), ("images", .arr (c.images.map fun i =>
    .obj [("version", .str i.version), ("tag", .str i.tag)]))]

/-- The document of a catalog. -/
def toJson (c : Catalog) : Json :=
  .fields [
    ("drivers", some (.arr (c.drivers.map fun d =>
      .obj [("name", .str d.name), ("configVersions", .arr (d.configVersions.map fun v =>
        .fields ([("configVersion", some (.str v.configVersion)),
          ("useDefaults", if v.useDefaults then some (.bool true) else none),
          ("supportedVersions", some (.arr (v.supportedVersions.map fun s =>
            .obj ([("version", .str s.version)] ++ s.tags.members))))] ++
          v.tags.members.map fun (k, j) => (k, some j))))]))),
    ("csiSideCars", some (.arr (c.sidecars.map containerJson))),
    ("extensions", if c.extensions.isEmpty then none else some (.arr (c.extensions.map containerJson))),
    ("supportedK8sVersions", some (Json.strs c.supportedK8sVersions))]

/-- The entry of a configuration version of a family. -/
def configVersion? (c : Catalog) (kind : DriverKind) (version : String) : Option ConfigVersion :=
  (c.drivers.find? (·.name == kind.name)).bind fun d =>
    d.configVersions.find? (·.configVersion == version)

/-- Checks that the catalog supports a configuration version of a family on a Kubernetes
version. -/
def checkSupported (c : Catalog) (kind : DriverKind) (version k8s : String) : Outcome Unit :=
  if !c.supportedK8sVersions.contains k8s then
    .error (.unsupportedVersion "k8s version not supported by operator")
  else match c.drivers.find? (·.name == kind.name) with
    | none => .error (.unsupportedConfigVersion "unknown driver type")
    | some d =>
      match d.configVersions.find? (·.configVersion == version) with
      | none => .error (.unsupportedConfigVersion "unknown driver config version")
      | some p =>
        if p.supportedVersions.any (·.version == k8s) then .ok ()
        else .error (.unsupportedVersion "driver config version not supported on this K8s version")

/-- Sets a tag in a map sorted by image name. -/
def setTag (tags : List (String × String)) (name tag : String) : List (String × String) :=
  Reader.insertSorted name tag tags

/-- The default tag of each image for a family, configuration version and Kubernetes version. -/
def defaultImageTags (c : Catalog) (kind : DriverKind) (version k8s : String) :
    Outcome (List (String × String)) := do
  c.checkSupported kind version k8s
  let tags : List (String × String) := match c.configVersion? kind version with
    | none => []
    | some p =>
      if p.useDefaults then
        c.sidecars.foldl (fun acc s =>
          (s.images.filter (·.version == k8s)).foldl (fun acc i => setTag acc s.name i.tag) acc) []
      else
        let own := p.tags.entries.foldl (fun acc (n, t) => setTag acc n t) []
        (p.supportedVersions.filter (·.version == k8s)).foldl (fun acc s =>
          s.tags.entries.foldl (fun acc (n, t) => if t.isEmpty then acc else setTag acc n t) acc) own
  let tags := c.extensions.foldl (fun acc a =>
    (a.images.filter (·.version == k8s)).foldl (fun acc i => setTag acc a.name i.tag) acc) tags
  match tags.find? (·.2.isEmpty) with
  | some (name, _) => .error (.config ("default image tag not found for: " ++ name))
  | none => pure tags

/-- The Kubernetes version to use for a server's major and minor version: the server's own
when the catalog supports it, else the one before it. -/
def resolveKubeVersion (c : Catalog) (major minor : String) : Outcome String × List LogEvent :=
  if c.supportedK8sVersions.isEmpty then
    (.error (.config "list of supported K8s versions missing from config file"), [])
  else
    let minor := String.ofList ((minor.toList.reverse.dropWhile (· == '+')).reverse)
    let version := "v" ++ major ++ minor
    let logs := [LogEvent.info ("Kubernetes Version: " ++ version)]
    if c.supportedK8sVersions.contains version then (.ok version, logs)
    else
      let previous := (Yaml.parseRadix 10 true minor.toList).bind fun m =>
        if -9223372036854775808 ≤ m ∧ m ≤ 9223372036854775807 then
          some ("v" ++ major ++ toString (Int64.ofInt m - 1).toInt)
        else none
      match previous with
      | some p =>
        if c.supportedK8sVersions.contains p then
          (.ok p, logs ++ [LogEvent.info (version ++ " is not supported by dell-csi-operator. " ++
            "Falling back to config files for " ++ p)])
        else (.error (.unsupportedVersion "unsupported k8s version. can't run operator"), logs)
      | none => (.error (.unsupportedVersion "unsupported k8s version. can't run operator"), logs)

end Catalog

end CsiOperator
