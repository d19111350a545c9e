import CsiOperator.Config.Provider
import CsiOperator.Cluster.Store
import CsiOperator.Lifecycle
/-!
What a reconciler works with: the cluster it converges, a clock, and the number of reconciles
it has begun; and what it is set up with: where driver configurations come from and the
operator's settings.

The clock reads strictly increasing instants, one nanosecond apart, so that two readings never
compare equal while the whole seconds elapsed stay those of the instant it was started at.
Cluster computations run inside controller computations on the cluster alone. The state also
keeps a record of the convergences and status writes reconciles made, which nothing reads:
they let statements speak of what a run did.
-/

namespace CsiOperator

/-- Where a reconciler takes the configuration of a driver from. -/
inductive ConfigSource where
  /-- The same configuration for every request, or none at all. -/
  | fixed (config : Option ResolvedConfig)
  /-- A configuration directory and the catalog file in it. -/
  | directory (dir : ConfigDir) (catalogFile : String)
deriving Inhabited

namespace ConfigSource

/-- The configuration of a family and configuration version on a Kubernetes version. -/
def resolve (s : ConfigSource) (kind : DriverKind) (configVersion kubeVersion : String) :
    Outcome ResolvedConfig :=
  match s with
  | .fixed (some c) => .ok c
  | .fixed none => .error (.config ("no driver config for " ++ kind.name ++ " " ++ configVersion))
  | .directory d file => d.resolve file kind configVersion kubeVersion

end ConfigSource

/-- The operator settings a reconciler follows. -/
structure ReconcileSettings where
  kubeVersion : String := "v117"
  isOpenshift : Bool := false
  strictCheck : Bool := false
deriving Inhabited

/-- What a reconciler is set up with. -/
structure ReconcilerSetup where
  source : ConfigSource := .fixed none
  settings : ReconcileSettings := {}
deriving Inhabited

/-- A convergence a reconcile ran: the resource it converged, the instant the clock read as it
began, the spec it converged, and whether it succeeded. Reconcilers never read these records:
they say what was run, so that statements can speak of it. -/
structure Convergence where
  key : Cluster.Key
  clock : Instant
  spec : Json
  ok : Bool

/-- A status a reconcile wrote: the state, the fingerprint of the spec and the last change it
recorded. Like convergences, these records are never read by reconcilers. -/
structure StatusWrite where
  state : DriverState
  hash : Nat
  lastUpdate : LastUpdate
deriving DecidableEq, Repr

/-- A reconciler's working state. -/
structure Controller where
  cluster : Cluster
  /-- The instant the clock reads next. -/
  clock : Instant
  /-- Reconciles begun so far. -/
  attempts : Nat := 0
  /-- The convergences reconciles ran, oldest first. -/
  converged : List Convergence := []
  /-- The statuses reconciles wrote, oldest first. -/
  statusWrites : List StatusWrite := []
deriving Inhabited

/-- Computations of a reconciler; a failure keeps the state reached before it. -/
abbrev ControllerM := ExceptT OperatorError (StateM Controller)

namespace Controller

/-- Runs a cluster computation on the controller's cluster. -/
def onCluster {α : Type} (m : ClusterM α) : ControllerM α := ExceptT.mk do
  let s ← get
  let (r, c) := (m.run).run s.cluster
  set { s with cluster := c }
  pure r

/-- Runs a cluster computation, keeping its failure as a value. -/
def tryCluster {α : Type} (m : ClusterM α) : ControllerM (Except OperatorError α) :=
  onCluster (tryCatch (.ok <$> m) fun e => pure (.error e))

/-- Reads the clock. -/
def now : ControllerM Instant := do
  let s ← get
  set { s with clock := s.clock.tick }
  pure s.clock

/-- Counts a reconcile as begun. -/
def begin : ControllerM Unit := modify fun s => { s with attempts := s.attempts + 1 }

/-- Runs the convergence of a resource's objects, keeping its failure as a value, and records
it. -/
def converge (key : Cluster.Key) (spec : Json) (m : ClusterM Unit) :
    ControllerM (Except OperatorError Unit) := do
  let clock := (← get).clock
  let r ← tryCluster m
  modify fun s => { s with converged := s.converged ++ [{ key, clock, spec, ok := r.isOk }] }
  pure r

/-- Records a status write. -/
def noteStatus (w : StatusWrite) : ControllerM Unit :=
  modify fun s => { s with statusWrites := s.statusWrites ++ [w] }

/-- Keeps a failure as a value. -/
def attempt {α : Type} (m : ControllerM α) : ControllerM (Except OperatorError α) :=
  tryCatch (.ok <$> m) fun e => pure (.error e)

end Controller

end CsiOperator
