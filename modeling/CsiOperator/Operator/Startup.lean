import CsiOperator.Operator.Discovery
import CsiOperator.Metrics.Endpoint
import CsiOperator.Cli.Read
import CsiOperator.Log.Filter
import CsiOperator.Json.Write
/-!
Starting the operator: what the `run` command does before its controllers take over, what it
logs on the way, and how the process ends.

The operator reads the kubeconfig that `KUBECONFIG` names, settles its configuration
directory, the Kubernetes version and whether the cluster is OpenShift, starts the metrics
endpoint, and starts one controller per enabled driver family, with the reverse proxy's
controller beside PowerMax's. A controller first checks that the cluster knows its resource
kind, and stops when it does not. The process exits once every controller has stopped, and
keeps running while one watches; with leader election enabled it waits for the lease first,
and so keeps running too.

A failure that ends the process is printed as a chain: the failure, then each cause, numbered
when there are several. Events are written as the `RUST_LOG` filter of the environment allows.
-/

namespace CsiOperator.Startup

/-- The parts of the operator that log while it starts. -/
inductive Source where
  | main
  | settings
  | metrics
  | driverController
  | proxyController
deriving DecidableEq, Repr, Inhabited

/-- The target name a part's events are written under. -/
def Source.target : Source → String
  | .main => "dell_csi_operator"
  | .settings => "dell_csi_operator::config::operator"
  | .metrics => "dell_csi_operator::controller::metrics"
  | .driverController => "dell_csi_operator::controller::reconciler"
  | .proxyController => "dell_csi_operator::controller::rev_proxy"

/-- A logged event with the part of the operator that logged it. -/
structure Record where
  source : Source
  event : LogEvent
deriving Inhabited

/-- A text right-aligned in a width. -/
def padLeft (width : Nat) (s : String) : String :=
  String.ofList (List.replicate (width - s.length) ' ') ++ s

namespace Record

/-- A record as a line of text: level, target and message. -/
def textLine (r : Record) : String :=
  padLeft 5 r.event.level.name ++ " " ++ r.source.target ++ ": " ++ r.event.message

/-- A record as a line of JSON: level, message with the other fields, and target. -/
def jsonLine (r : Record) : String :=
  Json.compact (.obj [("level", .str r.event.level.name),
    ("fields", .obj ([("message", .str r.event.message)] ++ r.event.fields)),
    ("target", .str r.source.target)])

end Record

/-- How the process ends. -/
inductive Ending where
  /-- It exits with a status, having written a text to standard error. -/
  | exit (status : Nat) (stderr : String)
  /-- It keeps running: a controller watches, or the leader election goes on. -/
  | running
deriving DecidableEq, Repr, Inhabited

/-- The machine the operator starts on, as far as starting can tell. -/
structure Host where
  /-- The environment variables. -/
  env : List (String × String)
  /-- The configuration directory in the working directory. -/
  workdir : ConfigDir
  /-- The paths of the readable kubeconfig files. -/
  kubeconfigs : List String
  /-- The address of the API server the kubeconfigs name. -/
  server : String
  /-- The cluster behind that server. -/
  cluster : Cluster
  /-- The host's name, for when the environment does not give one. -/
  hostname : String := "unknown-host"
deriving Inhabited

/-- The environment variables the operator consults. -/
def consulted : List String :=
  ["KUBECONFIG", "RUST_LOG", "X_CSI_OPERATOR_CONFIG_DIR", "X_CSI_OPERATOR_CONFIG_FILE",
    "OPERATOR_DRIVERS", "OPERATOR_NAMESPACE", "POD_NAMESPACE", "HOSTNAME"]

namespace Host

/-- The value of an environment variable. -/
def var? (h : Host) (name : String) : Option String := h.env.lookup name

/-- A path in its plain form: its parts, marked as absolute or relative. -/
def plainPath (path : String) : Bool × List String :=
  (path.startsWith "/", Discovery.pathParts path)

/-- Why the file at a path cannot be read as a kubeconfig, if it cannot: the working
directory and the configuration directory are directories, and a path that names no
kubeconfig names nothing. -/
def kubeconfigProblem? (h : Host) (path : String) : Option String :=
  let p := plainPath path
  if p == (false, []) || p == plainPath h.workdir.path then some "Is a directory (os error 21)"
  else if h.kubeconfigs.any fun k => plainPath k == p then none
  else some ConfigDir.notFound

/-- The configuration directory at a path: the working directory's one, or an empty one. -/
def configDirAt (h : Host) (path : String) : ConfigDir :=
  if plainPath path == plainPath h.workdir.path then h.workdir else { path, files := [] }

end Host

/-- A text without one pair of surrounding double quotes. -/
def unquote (s : String) : String :=
  if s.length ≥ 2 && s.startsWith "\"" && s.endsWith "\"" then ((s.drop 1).dropEnd 1).toString else s

/-- The address of the API server a kubeconfig names: its first `server:` entry, without the
scheme and a trailing slash. -/
def serverOf (kubeconfig : String) : String :=
  let entry := (kubeconfig.splitOn "\n").findSome? fun l =>
    let t := Text.trimBlank l
    if t.startsWith "server:" then some (unquote (Text.trimBlank (t.drop 7).toString)) else none
  let url := entry.getD ""
  let bare := match url.splitOn "://" with
    | [_, rest] => rest
    | _ => url
  if bare.endsWith "/" then (bare.dropEnd 1).toString else bare

/-- The text of a failure that ends the process: the failure, then its causes, numbered when
there are several. -/
def failureText (failure : String) (causes : List String) : String :=
  let chain := match causes with
    | [] => ""
    | [c] => "\n\nCaused by:\n    " ++ c
    | cs => "\n\nCaused by:" ++
      String.join (cs.zipIdx.map fun (c, i) => "\n" ++ padLeft 5 (toString i) ++ ": " ++ c)
  "Error: " ++ failure ++ chain ++ "\n"

/-- The causes of a client that could not be made, its kubeconfig unreadable for a reason. -/
def kubeconfigCauses (path reason : String) : List String :=
  let read := "failed to read kubeconfig from '" ++ Text.quoted path ++ "': " ++ reason
  let infer := "failed to infer config: in-cluster: (failed to read an incluster environment " ++
    "variable: environment variable not found), kubeconfig: (" ++ read ++ ")"
  ["Failed to infer configuration: " ++ infer, infer, read, reason]

/-- A step of the start: it logs, asks the cluster, and may end the process. -/
abbrev StartM := ExceptT Ending (StateM (List Record × Cluster))

/-- Logs events of a part. -/
def log (src : Source) (events : List LogEvent) : StartM Unit :=
  modify fun (rs, c) => (rs ++ events.map fun e => ⟨src, e⟩, c)

/-- Asks the cluster; a failed request is an answer, not the end of the start. -/
def ask {α : Type} (m : ClusterM α) : StartM (Except OperatorError α) := do
  let (rs, c) ← get
  let (r, c') := m.run.run c
  set (rs, c')
  pure r

/-- What became of a controller. -/
inductive ControllerEnd where
  /-- It stopped, for a cause. -/
  | stopped (cause : OperatorError)
  /-- It watches its resources, and never stops. -/
  | watching
deriving DecidableEq, Repr, Inhabited

/-- Starts the controller of a resource kind, which first checks that the cluster knows the
kind. -/
def startController (h : Host) (k : ResourceKind) : StartM ControllerEnd := do
  let (src, missing) := match k with
    | .driver _ => (Source.driverController, k.name ++ " CRD not found. Please install the CRD first: ")
    | _ => (Source.proxyController, k.name ++ " CRD not found: ")
  log src [LogEvent.info ("Starting " ++ k.name ++ " controller")]
  match ← ask (Cluster.list k none []) with
  | .ok _ =>
    log src (match k with
      | .driver _ => [LogEvent.info (k.name ++ " CRD is available")]
      | _ => [])
    pure .watching
  | .error e =>
    let detail := match e with
      | .api f => f.debugText h.server
      | e => e.message
    log src [LogEvent.error (missing ++ detail)]
    pure (.stopped (.config (k.name ++ " CRD not installed")))

/-- The start of the operator with its options on a host, to the end of the process when it
ends. -/
def start (h : Host) (o : Cli.RunOptions) : StartM Ending := do
  log .main [LogEvent.info ("Starting " ++ Cli.banner)]
  let path := (h.var? "KUBECONFIG").getD ""
  if let some reason := h.kubeconfigProblem? path then
    throw (.exit 1 (failureText "failed to create Kubernetes client" (kubeconfigCauses path reason)))
  log .main [LogEvent.info "Connected to Kubernetes cluster"]
  let (dir, dirLogs) := Discovery.resolveConfigDir h.workdir o.configDir o.configFile
  log .settings dirLogs
  let version ← match ← ask (Discovery.discoverKubeVersion (h.configDirAt dir) o.configFile) with
    | .ok (v, logs) => do
      log .settings logs
      pure v
    | .error e => throw (.exit 1 (failureText "failed to resolve the Kubernetes version" [e.message]))
  log .main [LogEvent.info ("Using Kubernetes version " ++ version)]
  match ← ask Discovery.detectOpenshift with
  | .ok (_, logs) => log .settings logs
  | .error _ => pure ()
  let (kinds, driverLogs) := Settings.enabledDrivers o.drivers
  log .settings driverLogs
  match Metrics.bindAddress o.metricsAddr with
  | .error e => throw (.exit 1 (failureText e.message []))
  | .ok a =>
    log .metrics [LogEvent.info ("Metrics server listening on " ++ a.render)]
    if !Metrics.ownAddress a then
      log .main [LogEvent.error ("Metrics server error: " ++ Metrics.unassignedText)]
  if o.leaderElection then
    let identity := (h.var? "HOSTNAME").getD h.hostname
    log .main [LogEvent.info ("Leader election enabled, identity " ++ identity)]
    throw .running
  let drivers ← kinds.mapM fun k => do
    log .main [LogEvent.info ("Enabling controller for " ++ k.name)]
    startController h (.driver k)
  let proxy ← if kinds.contains .powerMax then (fun e => [e]) <$> startController h .reverseProxy
    else pure []
  let ends := drivers ++ proxy
  log .main (ends.filterMap fun
    | .stopped e => some (LogEvent.error ("Controller stopped: " ++ e.message))
    | .watching => none)
  if ends.contains .watching then pure .running
  else
    log .main [LogEvent.info "All controllers stopped"]
    pure (.exit 0 "")

/-- Runs the operator on a host: the events written under the environment's log filter, and
how the process ends. -/
def run (h : Host) (o : Cli.RunOptions) : List Record × Ending :=
  let (r, records, _) := (start h o).run.run ([], h.cluster)
  let filter := LogFilter.read (h.var? "RUST_LOG")
  (records.filter fun r => filter.admits r.source.target r.event.level,
   match r with
   | .ok e => e
   | .error e => e)

/-- A whole run of the program: what it logs and prints, and how it ends. -/
structure Report where
  /-- The log records written, and their format; none when the command does not log. -/
  logs : Option (Cli.LogFormat × List Record) := none
  /-- What is printed to standard output besides log lines. -/
  stdout : String := ""
  ending : Ending
deriving Inhabited

/-- What the program does for what its command line comes to, on a host. -/
def report (i : Cli.Invocation) (h : Host) : Report :=
  match i with
  | .print text toStderr status =>
    if toStderr then { ending := .exit status text } else { stdout := text, ending := .exit status "" }
  | .start .version => { stdout := Cli.banner ++ "\n", ending := .exit 0 "" }
  | .start (.run o) =>
    let (records, ending) := run h o
    { logs := some (o.logFormat, records), ending }

/-- Runs the program with a command line on a host. -/
def execute (args : List String) (h : Host) : Report := report (Cli.invocation args h.env) h

end CsiOperator.Startup
