import CsiOperator.Config.Driver
import CsiOperator.Text.Blank
/-!
A driver configuration resolved for one driver family, configuration version and Kubernetes
version: the configuration itself, the versions it was chosen for, and the default image tag
of each container image.
-/

namespace CsiOperator

/-- A driver configuration and what it was resolved for. -/
structure ResolvedConfig where
  configVersion : String := ""
  kubeVersion : String := ""
  /-- The family, the configuration version without dots, and the Kubernetes version,
  joined by underscores. -/
  driverVersion : String := ""
  imageTags : List (String × String) := []
  driver : DriverConfig := {}
deriving Inhabited

namespace ResolvedConfig

/-- The default tag of an image, without surrounding blanks. -/
def imageTag (c : ResolvedConfig) (image : String) : Outcome String :=
  match c.imageTags.find? (·.1 == image) with
  | some (_, tag) => .ok (Text.trimBlank tag)
  | none => .error (.config ("failed to find image tag for: " ++ image))

/-- Whether the controller runs with more than one replica. -/
def controllerHA (c : ResolvedConfig) : Bool := c.driver.controllerHA

/-- Reads a resolved configuration; absent members read as empty. -/
def read : Reader ResolvedConfig := Reader.record "struct ResolvedDriverConfig" fun ms => do
  pure {
    configVersion := ← Reader.dflt ms "config_version" "" Reader.string
    kubeVersion := ← Reader.dflt ms "kube_version" "" Reader.string
    driverVersion := ← Reader.dflt ms "driver_version" "" Reader.string
    imageTags := ← Reader.dflt ms "image_tags" [] Reader.strMap
    driver := ← Reader.dflt ms "driver" {} DriverConfig.read }

/-- The document of a resolved configuration. -/
def toJson (c : ResolvedConfig) : Json :=
  .obj [("config_version", .str c.configVersion), ("kube_version", .str c.kubeVersion),
    ("driver_version", .str c.driverVersion), ("image_tags", Json.strMap c.imageTags),
    ("driver", c.driver.toJson)]

end ResolvedConfig

end CsiOperator
