import CsiOperator.Cli.Suggest
/-!
The operator's command line: the `run` and `version` commands, their options, their help
texts, and the usage errors for a command line that cannot be read. How the arguments are read
is in `Cli.Read`.

Help and version requests print to standard output and end with status 0. Errors print to
standard error and end with status 2, as does a command line without a command, which prints
the general help.
-/

namespace CsiOperator.Cli

/-- The program's name. -/
def programName : String := "dell-csi-operator"

/-- The program's version. -/
def programVersion : String := "0.1.0"

/-- The product's name, as the program announces itself. -/
def productName : String := "Dell CSI Operator"

/-- The line the `version` command prints. -/
def banner : String := productName ++ " v" ++ programVersion

/-- What the program is. -/
def about : String := "Kubernetes operator that installs and manages Dell CSI storage drivers"

/-- How logs are written. -/
inductive LogFormat where
  | text
  | json
deriving DecidableEq, Repr, Inhabited

/-- The settings of `run`. -/
structure RunOptions where
  configDir : Option String := none
  configFile : String := "config.yaml"
  drivers : Option String := none
  metricsAddr : String := ":9999"
  leaderElection : Bool := false
  strictEnvCheck : Bool := false
  logFormat : LogFormat := .text
  ns : String := "default"
deriving DecidableEq, Repr, Inhabited

/-- A command the program runs. -/
inductive Command where
  | run (options : RunOptions)
  | version
deriving DecidableEq, Repr, Inhabited

/-- What a command line comes to: a command to run, or text to print and a status to end
with. -/
inductive Invocation where
  | start (c : Command)
  | print (text : String) (toStderr : Bool) (status : Nat)
deriving DecidableEq, Repr, Inhabited

/-- What giving an option does. -/
inductive Role where
  /-- Sets the option: to its value, or on for a switch. -/
  | setting
  /-- Prints the help of the command. -/
  | help
  /-- Prints the program's version. -/
  | version
deriving DecidableEq, Repr, Inhabited

/-- An option of a command. -/
structure Opt where
  long : String
  short : Option Char := none
  role : Role := .setting
  /-- The value's placeholder; none for a flag. -/
  value : Option String := none
  help : String := ""
  env : Option String := none
  default : Option String := none
  choices : List String := []
  /-- Whether the value names a path, which cannot be empty. -/
  path : Bool := false
deriving DecidableEq, Repr, Inhabited

/-- How an option is written in messages: its long name and placeholder. -/
def Opt.spec (o : Opt) : String :=
  "--" ++ o.long ++ match o.value with
    | some v => " <" ++ v ++ ">"
    | none => ""

/-- The options of `run`, in the order the help lists them. -/
def runOpts : List Opt := [
  { long := "config-dir", value := some "CONFIG_DIR",
    help := "Directory holding config.yaml and the driver config JSON files",
    env := some "X_CSI_OPERATOR_CONFIG_DIR", path := true },
  { long := "config-file", value := some "CONFIG_FILE", env := some "X_CSI_OPERATOR_CONFIG_FILE",
    default := some "config.yaml" },
  { long := "drivers", value := some "DRIVERS",
    help := "Comma-separated driver types to manage; all when unset", env := some "OPERATOR_DRIVERS" },
  { long := "metrics-addr", value := some "METRICS_ADDR", help := "Address the metrics endpoint binds to",
    default := some ":9999" },
  { long := "enable-leader-election", help := "Only run controllers while holding the operator lease" },
  { long := "strict-env-check", help := "Reject user env vars the driver config does not know" },
  { long := "log-format", value := some "LOG_FORMAT", default := some "text", choices := ["text", "json"] },
  { long := "namespace", value := some "NAMESPACE",
    help := "Operator namespace, used for the leader election lease", env := some "OPERATOR_NAMESPACE",
    default := some "default" }]

/-- The option that prints a command's help. -/
def helpOpt : Opt := { long := "help", short := some 'h', role := .help, help := "Print help" }

/-- The option that prints the program's version. -/
def versionOpt : Opt := { long := "version", short := some 'V', role := .version, help := "Print version" }

/-- The line the version option prints. -/
def versionLine : String := programName ++ " " ++ programVersion ++ "\n"

/-- The value of an environment variable, when set. -/
def envValue (env : List (String × String)) (name : String) : Option String := env.lookup name

/-! ## Help texts -/

/-- Lines of two columns, the second aligned two blanks after the widest first column. -/
def columns (rows : List (String × String)) : List String :=
  let width := rows.foldl (fun w (l, _) => max w l.length) 0
  rows.map fun (l, r) =>
    if r.isEmpty then l else l ++ String.ofList (List.replicate (width - l.length + 2) ' ') ++ r

/-- The general help. -/
def mainHelp : String :=
  about ++ "\n\nUsage: " ++ programName ++ " <COMMAND>\n\nCommands:\n" ++
  String.join ((columns [("  run", "Run the operator"), ("  version", "Show version information"),
    ("  help", "Print this message or the help of the given subcommand(s)")]).map (· ++ "\n")) ++
  "\nOptions:\n" ++
  String.join ((columns [("  -h, --help", "Print help"), ("  -V, --version", "Print version")]).map (· ++ "\n"))

/-- The help of `run`, showing the environment as it is. -/
def runHelp (env : List (String × String)) : String :=
  let describe (o : Opt) : String :=
    let parts := [o.help] ++
      (match o.env with
        | some e => ["[env: " ++ e ++ "=" ++ (envValue env e).getD "" ++ "]"]
        | none => []) ++
      (match o.default with
        | some d => ["[default: " ++ d ++ "]"]
        | none => []) ++
      (if o.choices.isEmpty then [] else ["[possible values: " ++ ", ".intercalate o.choices ++ "]"])
    " ".intercalate (parts.filter (!·.isEmpty))
  "Run the operator\n\nUsage: " ++ programName ++ " run [OPTIONS]\n\nOptions:\n" ++
  String.join ((columns ((runOpts.map fun o => ("      " ++ o.spec, describe o)) ++
    [("  -h, --help", "Print help")])).map (· ++ "\n"))

/-- The help of `version`. -/
def versionHelp : String :=
  "Show version information\n\nUsage: " ++ programName ++ " version\n\nOptions:\n  -h, --help  Print help\n"

/-- The help of `help`. -/
def helpHelp : String :=
  "Print this message or the help of the given subcommand(s)\n\nUsage: " ++ programName ++
  " help [COMMAND]...\n\nArguments:\n  [COMMAND]...  Print help for the subcommand(s)\n"

/-! ## Errors -/

/-- A usage error: the message, tips, the usage line when one is shown, and whether it ends by
pointing to `--help`, which a command without a help option does not. -/
def usageError (message : String) (tips : List String) (usage : Option String) (hint : Bool) :
    Invocation :=
  let tipText := if tips.isEmpty then "" else "\n" ++ String.join (tips.map ("\n  tip: " ++ ·))
  let usageText := match usage with
    | some u => "\n\nUsage: " ++ u
    | none => ""
  let hintText := if hint then "\n\nFor more information, try '--help'.\n" else "\n"
  .print ("error: " ++ message ++ tipText ++ usageText ++ hintText) true 2

/-- A usage error of a command with a help option. -/
def failure (message : String) (tips : List String) (usage : Option String) : Invocation :=
  usageError message tips usage true

/-- A tip naming similar known words. -/
def similarTip (what : String) (words : List String) : List String :=
  match words with
  | [] => []
  | [w] => ["a similar " ++ what ++ " exists: '" ++ w ++ "'"]
  | ws => ["some similar " ++ what ++ "s exist: " ++ ", ".intercalate (ws.map fun w => "'" ++ w ++ "'")]

/-- The error for an option given without its value. -/
def emptyValue (o : Opt) : Invocation :=
  let values := if o.choices.isEmpty then "" else "\n  [possible values: " ++ ", ".intercalate o.choices ++ "]"
  failure ("a value is required for '" ++ o.spec ++ "' but none was supplied" ++ values) [] none

/-- The error for a value its option does not accept; an empty value counts as none. -/
def invalidValue (o : Opt) (v : String) : Invocation :=
  if v.isEmpty then emptyValue o
  else
    failure ("invalid value '" ++ v ++ "' for '" ++ o.spec ++ "'\n  [possible values: " ++
      ", ".intercalate o.choices ++ "]") (similarTip "value" ((Suggest.best? v o.choices).toList)) none

/-- Checks a value against its option: a path cannot be empty, and an option with choices
takes one of them. -/
def Opt.check (o : Opt) (v : String) : Option Invocation :=
  if o.path && v.isEmpty then some (emptyValue o)
  else if !o.choices.isEmpty && !o.choices.contains v then some (invalidValue o v)
  else none

/-- The error for an option given twice. -/
def repeated (o : Opt) (usage : String) : Invocation :=
  failure ("the argument '" ++ o.spec ++ "' cannot be used multiple times") [] (some usage)

end CsiOperator.Cli
