import CsiOperator.Config.Catalog
import CsiOperator.Config.Resolved
import CsiOperator.Json.Text
/-!
Resolving a driver configuration from a configuration directory.

The directory holds the catalog (`config.yaml`) and one JSON file per driver family,
configuration version and Kubernetes version, named by the driver version
(`unity_v4_v120.json`). Resolution reads the catalog, picks the default image tags, and reads
the family's file, whose document is `{"driverConfig": ...}`.
-/

namespace CsiOperator

/-- A directory of configuration files: its path and the text of each file by name. -/
structure ConfigDir where
  path : String
  files : List (String × String)
deriving Inhabited

/-- The name a driver configuration is filed under: the family, the configuration version
without dots and the Kubernetes version, joined by underscores. -/
def driverVersionName (kind : DriverKind) (configVersion kubeVersion : String) : String :=
  kind.name ++ "_" ++ configVersion.replace "." "" ++ "_" ++ kubeVersion

/-- Reads the document of a driver configuration file. -/
def DriverConfig.readFile : Reader DriverConfig :=
  Reader.record "struct DriverConfigFile" fun ms => Reader.req ms "driverConfig" DriverConfig.read

namespace ConfigDir

/-- The message of a file that cannot be found. -/
def notFound : String := "No such file or directory (os error 2)"

/-- The path of a file in the directory. -/
def filePath (d : ConfigDir) (name : String) : String :=
  if d.path.isEmpty then name else if d.path.endsWith "/" then d.path ++ name else d.path ++ "/" ++ name

/-- The text of a file, or why it cannot be read. -/
def readFile (d : ConfigDir) (name : String) : Except String String :=
  match d.files.find? (·.1 == name) with
  | some (_, text) => .ok text
  | none => .error notFound

/-- Reads the catalog file. -/
def catalog (d : ConfigDir) (configFile : String) : Outcome Catalog :=
  match d.readFile configFile with
  | .ok text => Catalog.parse text
  | .error e => .error (.io e)

/-- Reads the driver configuration filed under a driver version. -/
def driverConfig (d : ConfigDir) (driverVersion : String) : Outcome DriverConfig :=
  let name := driverVersion ++ ".json"
  match d.readFile name with
  | .error e => .error (.config ("failed to read " ++ d.filePath name ++ ": " ++ e))
  | .ok raw =>
    match JsonText.readText DriverConfig.fileForm DriverConfig.readFile raw with
    | .ok c => .ok c
    | .error m => .error (.serialization m)

/-- Resolves the configuration of a family and configuration version on a Kubernetes
version. -/
def resolve (d : ConfigDir) (configFile : String) (kind : DriverKind)
    (configVersion kubeVersion : String) : Outcome ResolvedConfig := do
  let c ← d.catalog configFile
  let imageTags ← c.defaultImageTags kind configVersion kubeVersion
  let driverVersion := driverVersionName kind configVersion kubeVersion
  let driver ← d.driverConfig driverVersion
  pure { configVersion, kubeVersion, driverVersion, imageTags, driver }

end ConfigDir

end CsiOperator
