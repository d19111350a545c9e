import CsiOperator.DriverKind
import CsiOperator.Log
import CsiOperator.Error
/-!
The operator's own settings: where driver configurations are found, which driver families it
manages, and the Kubernetes version it assumes before it can ask the cluster.
-/

namespace CsiOperator.Settings

/-- The directory of driver configurations when none is named. -/
def defaultConfigDir : String := "driverconfig/"

/-- The operator configuration file in that directory. -/
def defaultConfigFile : String := "config.yaml"

/-- The directory used when the named one lacks the configuration file. -/
def fallbackConfigDir : String := "/etc/config/local/dell-csi-operator"

/-- The Kubernetes version assumed when the cluster cannot tell. -/
def baseKubeVersion : String := "v117"

/-- The family a driver type names; an unknown name is a configuration error. -/
def driverKind (raw : String) : Except OperatorError DriverKind :=
  match DriverKind.ofName? raw with
  | some k => .ok k
  | none => .error (.config ("unknown driver type: " ++ raw))

/-- The families named in a comma-separated list; every family when the list is absent or
blank. Unknown names are skipped with a warning. -/
def enabledDrivers (value : Option String) : List DriverKind × List LogEvent :=
  match value.filter (fun v => !(Text.trimBlank v).isEmpty) with
  | none => (DriverKind.all, [])
  | some list =>
    let pieces := (Text.trimBlank list).splitOn ","
    pieces.foldr (fun d (ks, logs) =>
      match DriverKind.ofName? d with
      | some k => (k :: ks, logs)
      | none => (ks, LogEvent.warn ("Unknown driver type " ++ d ++ " specified. Ignoring...") :: logs))
      ([], [])

end CsiOperator.Settings
