import CsiOperator.Text.Blank
/-!
The five storage driver families the operator installs, and the names each one fixes: the
plugin and its default CSI driver name, the controller and node workloads, the environment
variables that carry array credentials, and how certificates are handled.
-/

namespace CsiOperator

/-- A storage driver family. -/
inductive DriverKind where
  | powerMax
  | isilon
  | unity
  | vxFlexOs
  | powerStore
deriving DecidableEq, Repr, Inhabited

namespace DriverKind

/-- Every family, in the order the operator enables them. -/
def all : List DriverKind := [.powerMax, .isilon, .unity, .vxFlexOs, .powerStore]

/-- The family's short name, as written in configuration and labels. -/
def name : DriverKind → String
  | .powerMax => "powermax"
  | .isilon => "isilon"
  | .unity => "unity"
  | .vxFlexOs => "vxflexos"
  | .powerStore => "powerstore"

/-- The CSI plugin name. -/
def pluginName (k : DriverKind) : String := "csi-" ++ k.name

/-- The CSI driver name used when the spec sets none. -/
def defaultDriverName (k : DriverKind) : String := k.pluginName ++ ".dellemc.com"

/-- Name of the controller workload. -/
def controllerName (k : DriverKind) : String := k.name ++ "-controller"

/-- Name of the node daemon set. -/
def daemonSetName (k : DriverKind) : String := k.name ++ "-node"

/-- The prefix of the family's credential variables. -/
def envPrefix : DriverKind → String
  | .isilon => "X_CSI_ISI"
  | k => "X_CSI_" ++ k.name.toUpper

/-- The variable that carries the array user name. -/
def userEnvName (k : DriverKind) : String := k.envPrefix ++ "_USER"

/-- The variable that carries the array password. -/
def passwordEnvName (k : DriverKind) : String := k.envPrefix ++ "_PASSWORD"

/-- The variable that renames the CSI driver; only PowerMax has one. -/
def driverNameEnv? : DriverKind → Option String
  | .powerMax => some "X_CSI_POWERMAX_DRIVER_NAME"
  | _ => none

/-- The volume that carries array certificates. -/
def certVolumeName (_ : DriverKind) : String := "certs"

/-- The variable whose value `false` asks for certificate validation. -/
def certValidationEnv : DriverKind → String
  | .powerMax => "X_CSI_POWERMAX_SKIP_CERTIFICATE_VALIDATION"
  | k => "X_CSI_" ++ k.name.toUpper ++ "_INSECURE"

/-- Whether the CSIDriver object may carry an fsGroupPolicy. -/
def supportsFsGroupPolicy : DriverKind → Bool
  | .powerStore | .isilon => true
  | _ => false

/-- Whether the node plugin runs with a narrowed cluster role of its own. -/
def limitedNodeRbac : DriverKind → String → Bool
  | .powerMax, configVersion => configVersion != "v1"
  | .powerStore, _ => true
  | _, _ => false

/-- Whether certificate secrets are projected into the node plugin. -/
def mountsProjectedCerts : DriverKind → Bool
  | .unity | .isilon => true
  | _ => false

/-- The family named by a text, ignoring surrounding blanks. -/
def ofName? (s : String) : Option DriverKind :=
  all.find? (·.name == Text.trimBlank s)

end DriverKind

end CsiOperator
