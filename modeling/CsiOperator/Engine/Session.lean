import CsiOperator.Engine.Reconcile
import CsiOperator.Proxy.Reconcile
import CsiOperator.Resource.Object
/-!
A session drives one reconciler over an in-memory cluster, step by step: reconciles, edits of
the cluster made behind the reconciler's back (seeding, merge patches, deletions, injected
failures), and looks at the cluster and the reconciler's counter.

A reconcile step reports its outcome, the writes it made, and how the reconciled resource is
stored afterwards. Edits record no writes.
-/

namespace CsiOperator.Session

open Controller

/-- The reconciler a session drives. -/
inductive Reconciler where
  | driver (family : DriverKind) (setup : ReconcilerSetup)
  | proxy
deriving Inhabited

/-- The kind of resource a reconciler reconciles. -/
def Reconciler.kind : Reconciler → ResourceKind
  | .driver family _ => .driver family
  | .proxy => .reverseProxy

/-- Reconciles the resource with a namespace and name. -/
def Reconciler.reconcile (r : Reconciler) (ns name : String) : ControllerM Requeue :=
  match r with
  | .driver family setup => Reconcile.reconcile setup family ns name
  | .proxy => Proxy.reconcile ns name

/-- One step of a session. -/
inductive Step where
  | reconcile (ns name : String)
  /-- Seeds an object as it is. -/
  | insert (kind : ResourceKind) (object : Json)
  /-- Applies a merge patch to a stored object and seeds the result. -/
  | patch (kind : ResourceKind) (ns : Option String) (name : String) (patch : Json)
  /-- Deletes an object; the deletion is not reported as a write. -/
  | remove (kind : ResourceKind) (ns : Option String) (name : String)
  | failOn (failure : Cluster.Failure)
  | clearFailures
  | get (kind : ResourceKind) (ns : Option String) (name : String)
  | dump
  | attempts
deriving Inhabited

/-- The resource kind a document names, or why it names none. -/
def kindNamed (name : String) : Except String ResourceKind :=
  match ResourceKind.ofName? name with
  | some k => .ok k
  | none => .error ("unknown kind " ++ name)

/-- Reads a step written as a document: `do` names the step, and the other members give its
arguments under their own names. -/
def Step.read (j : Json) : Except String Step := do
  let s := j.strD
  let ns := j.strOpt "namespace"
  match s "do" with
  | "reconcile" => pure (.reconcile (s "namespace") (s "name"))
  | "insert" =>
    let o := (j.get? "object").getD .null
    pure (.insert (← kindNamed (o.strD "kind")) o)
  | "patch" => pure (.patch (← kindNamed (s "kind")) ns (s "name") ((j.get? "patch").getD .null))
  | "remove" => pure (.remove (← kindNamed (s "kind")) ns (s "name"))
  | "fail_on" =>
    let some verb := Cluster.Verb.ofName? (s "verb") | throw ("unknown verb " ++ s "verb")
    pure (.failOn { verb, kind := ← kindNamed (s "kind"), message := s "message" })
  | "clear_failures" => pure .clearFailures
  | "get" => pure (.get (← kindNamed (s "kind")) ns (s "name"))
  | "dump" => pure .dump
  | "attempts" => pure .attempts
  | d => throw ("unknown step " ++ d)

/-- What a step answers. -/
inductive Answer where
  /-- A reconcile's outcome, its writes, and the reconciled resource as stored after it. -/
  | reconciled (result : Except OperatorError Requeue) (writes : List Cluster.Write)
      (stored : Option Json)
  | done
  | missing
  | failed (e : OperatorError)
  | object (o : Option Json)
  | objects (os : List Json)
  | count (n : Nat)
deriving Inhabited

/-- Seeds an object read as its kind's type; an object that cannot be read is refused. -/
def seed (k : ResourceKind) (obj : Json) : ControllerM Unit := do
  match ResourceKind.readObject k obj with
  | .ok v => modify fun s => { s with cluster := ((Cluster.insert k v).run s.cluster).2 }
  | .error e => throw (.serialization e.message)

/-- Runs a step. -/
def step (r : Reconciler) : Step → ControllerM Answer
  | .reconcile ns name => do
    let before := (← get).cluster.writes.length
    let result ← attempt (r.reconcile ns name)
    let c := (← get).cluster
    pure (.reconciled result (c.writes.drop before) (c.find? (Cluster.keyFor r.kind (some ns) name)))
  | .insert k obj => do
    seed k obj
    pure .done
  | .patch k ns name p => do
    match (← get).cluster.find? (Cluster.keyFor k ns name) with
    | none => pure .missing
    | some obj =>
      seed k (Json.mergePatch obj p)
      pure .done
  | .remove k ns name => do
    let c := (← get).cluster
    if (c.find? (Cluster.keyFor k ns name)).isNone then return .missing
    onCluster (Cluster.delete k ns name)
    modify fun s => { s with cluster := { s.cluster with writes := c.writes } }
    pure .done
  | .failOn f => do
    modify fun s => { s with cluster := { s.cluster with failures := s.cluster.failures ++ [f] } }
    pure .done
  | .clearFailures => do
    modify fun s => { s with cluster := { s.cluster with failures := [] } }
    pure .done
  | .get k ns name => do
    pure (.object ((← get).cluster.find? (Cluster.keyFor k ns name)))
  | .dump => do
    pure (.objects (← get).cluster.dump)
  | .attempts => do
    pure (.count (← get).attempts)

/-- Runs a step; a step that fails answers its failure. -/
def answer (r : Reconciler) (s : Step) : ControllerM Answer :=
  tryCatch (step r s) fun e => pure (.failed e)

/-- Runs the steps of a session in order: each answer with the clock's reading after it. -/
def run (r : Reconciler) (steps : List Step) (start : Controller) : List (Answer × Instant) :=
  let go : StateM Controller (List (Answer × Instant)) := steps.mapM fun s => do
    let a ← (answer r s).run
    let a := match a with
      | .ok a => a
      | .error e => .failed e
    pure (a, (← get).clock)
  (go.run start).1

end CsiOperator.Session
