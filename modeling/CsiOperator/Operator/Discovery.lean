import CsiOperator.Config.Provider
import CsiOperator.Operator.Settings
import CsiOperator.Cluster.Store
import CsiOperator.Log
/-!
What the operator learns before it starts its controllers: where its configuration directory
is, whether the cluster is OpenShift, which Kubernetes version to configure drivers for, and
whether the cluster knows each resource kind a controller watches.

A cluster that cannot be asked whether it is OpenShift is taken to be, and one that cannot
tell its version is taken to run the base version. Each of these steps returns the events it
logs beside its result.
-/

namespace CsiOperator.Discovery

/-- The API group only OpenShift serves. -/
def openshiftGroup : String := "security.openshift.io"

/-- Whether the cluster is OpenShift, with the event that says how it was decided. -/
def detectOpenshift : ClusterM (Bool × List LogEvent) :=
  tryCatch
    (do
      let found := (← Cluster.listApiGroups).contains openshiftGroup
      pure (found, if found then [LogEvent.info "Detected OpenShift API groups"] else []))
    fun e => pure (true, [LogEvent.error
      ("Failed to determine if it is an Openshift cluster. Assuming it is: " ++ e.clientText)])

/-- The Kubernetes version to configure drivers for, from the server's version and the
catalog in a configuration directory, with the events logged on the way. -/
def discoverKubeVersion (d : ConfigDir) (configFile : String) : ClusterM (String × List LogEvent) := do
  let reported : Except OperatorError (String × String) ←
    tryCatch (Except.ok <$> Cluster.version) fun e => pure (.error e)
  match reported with
  | .error e =>
    pure (Settings.baseKubeVersion, [LogEvent.info ("Failed to get KubeAPI Server versions (" ++
      e.clientText ++ "). Defaulting to " ++ Settings.baseKubeVersion)])
  | .ok (major, minor) =>
    let c ← match d.catalog configFile with
      | .ok c => pure c
      | .error e => throw (.config ("missing config file: " ++ e.message))
    match c.resolveKubeVersion major minor with
    | (.ok v, logs) => pure (v, logs)
    | (.error e, _) => throw e

/-- A file name joined to a directory path: an absolute name stands alone, and an empty name
names the directory itself. -/
def joinPath (dir name : String) : String :=
  if name.startsWith "/" || dir.isEmpty then name
  else if dir.endsWith "/" then dir ++ name
  else dir ++ "/" ++ name

/-- The parts of a relative path: `.` and empty parts dropped, `..` going up one part. -/
def pathParts (path : String) : List String :=
  (path.splitOn "/").foldl (fun acc p =>
    if p.isEmpty || p == "." then acc else if p == ".." then acc.dropLast else acc ++ [p]) []

/-- Where a walk along the parts of a path has come to, in a working directory that holds only
a configuration directory. -/
inductive Place where
  /-- A directory under the working directory, by its parts; the working directory is `[]`. -/
  | dir (parts : List String)
  /-- A directory above the working directory. -/
  | above
  /-- A file of the configuration directory. -/
  | file
  /-- Nothing that exists. -/
  | nowhere
deriving DecidableEq, Repr, Inhabited

/-- One step of a walk into the part `p` of a path, in a working directory that holds only the
configuration directory `d`. Only a directory can be walked through, and `..` goes to the parent
of the directory it follows, so that a part naming nothing spoils the whole path. -/
def Place.step (d : ConfigDir) : Place → String → Place
  | .nowhere, _ => .nowhere
  | .file, _ => .nowhere
  | .above, p => if p.isEmpty || p == "." || p == ".." then .above else .nowhere
  | .dir parts, p =>
    if p.isEmpty || p == "." then .dir parts
    else if p == ".." then (if parts.isEmpty then .above else .dir parts.dropLast)
    else
      let dirParts := pathParts d.path
      if dirParts.take (parts.length + 1) == parts ++ [p] then .dir (parts ++ [p])
      else if parts == dirParts && d.files.any (·.1 == p) then .file
      else .nowhere

/-- Whether a path relative to the working directory can be opened, when that directory holds
only the configuration directory `d`: each of its parts but the last names a directory, and the
last names a directory or a file. -/
def opens (d : ConfigDir) (path : String) : Bool :=
  if path.isEmpty || path.startsWith "/" then false
  else ((path.splitOn "/").foldl (Place.step d) (.dir [])) != .nowhere

/-- The configuration directory to use: the default when none is named, the named one when its
configuration file can be opened, and the fallback otherwise, which is logged as an error. -/
def resolveConfigDir (workdir : ConfigDir) (explicit : Option String) (configFile : String) :
    String × List LogEvent :=
  match explicit with
  | none => (Settings.defaultConfigDir, [])
  | some dir =>
    let candidate := joinPath dir configFile
    if opens workdir candidate then (dir, [])
    else (Settings.fallbackConfigDir, [LogEvent.error ("Error reading " ++ candidate ++
      " from the configmap mount. Falling back to local copy of config files")])

/-- Checks that the cluster knows a resource kind before a controller watches it. -/
def checkInstalled (k : ResourceKind) : ClusterM Unit :=
  tryCatch (do let _ ← Cluster.list k none []) fun _ => throw (.config (k.name ++ " CRD not installed"))

end CsiOperator.Discovery
