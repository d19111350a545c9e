import CsiOperator.Cluster.Store
import CsiOperator.Resource.Driver
/-!
The observed state of a driver installation: the controller workload and the node DaemonSet
(or the reverse proxy's Deployment), with their pods sorted into available, ready, starting
and stopped.

A running pod is available once every container reports running, and ready before that. A
workload that wants no replica, or has none ready, is reported whole as stopped. The
installation runs when every workload has all its wanted replicas available.
-/

namespace CsiOperator.Observe

/-- Sorts pods by phase. -/
def classifyPods (pods : List Json) : PodSummary :=
  pods.foldl (fun s pod =>
    let name := Meta.nameAny pod
    let status := pod.get? "status"
    match status.bind (·.strOpt "phase") with
    | some "Running" =>
      let allRunning := ((status.bind (·.get? "containerStatuses")).bind Json.items?).all fun cs =>
        cs.all fun c => ((c.get? "state").bind (·.get? "running")).isSome
      if allRunning then { s with available := s.available ++ [name] }
      else { s with ready := s.ready ++ [name] }
    | some "Pending" | some "Unknown" => { s with starting := s.starting ++ [name] }
    | some "Failed" => { s with stopped := s.stopped ++ [name] }
    | _ => s) {}

/-- The failure of a workload that is not there. -/
def notFound (k : ResourceKind) (name : String) : OperatorError :=
  .status (k.plural ++ "." ++ k.group ++ " \"" ++ name ++ "\" not found")

/-- The wanted replicas and the pods of a workload, given its wanted and ready counts. -/
def workloadStatus (ns name selectorKey : String) (desired ready : Int) : ClusterM (Int × PodSummary) := do
  if desired == 0 || ready == 0 then return (desired, { stopped := [name] })
  let pods ← Cluster.list .pod (some ns) [(selectorKey, name)]
  pure (desired, classifyPods pods)

/-- An integer at a path of a document, or zero. -/
def intAt (j : Json) (path : List String) : Int := ((j.getPath? path).bind Json.int?).getD 0

/-- The wanted and ready replicas of a Deployment or StatefulSet. -/
def replicaCounts (ns name : String) (k : ResourceKind) : ClusterM (Int × Int) := do
  let some w ← Cluster.get k (some ns) name | throw (notFound k name)
  pure (intAt w ["spec", "replicas"], intAt w ["status", "readyReplicas"])

/-- The controller's status: a Deployment when it runs with more than one replica, else a
StatefulSet. -/
def controllerStatus (ns name : String) (controllerHA : Bool) : ClusterM (Int × PodSummary) := do
  let (desired, ready) ← replicaCounts ns name (if controllerHA then .deployment else .statefulSet)
  workloadStatus ns name "app" desired ready

/-- The node DaemonSet's status. -/
def daemonSetStatus (ns name : String) : ClusterM (Int × PodSummary) := do
  let some d ← Cluster.get .daemonSet (some ns) name | throw (notFound .daemonSet name)
  workloadStatus ns name "app" (intAt d ["status", "desiredNumberScheduled"]) (intAt d ["status", "numberReady"])

/-- Whether all wanted replicas of a workload are available. -/
def fullyAvailable (desired : Int) (s : PodSummary) : Bool := desired != 0 && desired == s.available.length

/-- The observed state of a driver installation. -/
structure StateReport where
  running : Bool := false
  controller : PodSummary := {}
  node : PodSummary := {}
  /-- What went wrong reading the workloads; the pod summaries stay usable. -/
  error : Option OperatorError := none
deriving Inhabited

/-- Runs a step, keeping its failure as a value. -/
def attempt {α : Type} (m : ClusterM α) : ClusterM (Except OperatorError α) :=
  tryCatch (.ok <$> m) fun e => pure (.error e)

/-- Calculates the observed state of a driver installation. -/
def calculateState (r : DriverResource) (controllerHA : Bool) : ClusterM StateReport := do
  let ns := r.namespace?.getD ""
  let controller ← attempt (controllerStatus ns r.family.controllerName controllerHA)
  let node ← attempt (daemonSetStatus ns r.family.daemonSetName)
  let (cd, cs) := match controller with
    | .ok p => p
    | .error _ => (0, {})
  let (nd, nsum) := match node with
    | .ok p => p
    | .error _ => (0, {})
  let error := match controller, node with
    | .error c, .error n => some (.status ("statefulseterror: " ++ c.message ++ ", daemonseterror: " ++ n.message))
    | .error e, .ok _ | .ok _, .error e => some e
    | .ok _, .ok _ => none
  pure { running := fullyAvailable cd cs && fullyAvailable nd nsum, controller := cs, node := nsum, error }

/-- Calculates the observed state of the reverse proxy's Deployment, whose pods carry
`name=<deployment>`. -/
def calculateProxyState (ns name : String) : ClusterM (Bool × PodSummary × Option OperatorError) := do
  let r ← attempt (do
    let (desired, ready) ← replicaCounts ns name .deployment
    workloadStatus ns name "name" desired ready)
  match r with
  | .ok (desired, s) => pure (fullyAvailable desired s, s, none)
  | .error e => pure (false, {}, some e)

end CsiOperator.Observe
