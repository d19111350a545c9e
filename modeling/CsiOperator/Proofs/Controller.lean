import Mathlib
import CsiOperator.Proofs.Store
import CsiOperator.Engine.Controller
/-!
Running a reconciler's computations one step at a time: what each of its primitives does to the
controller's state, and what a run of one computation after another is.

A reconcile sees the cluster only through `onCluster`, reads the clock only through `now`, and
records a convergence only through `converge` and a status write only through `noteStatus`;
the equations below say so, and the proofs of reconciles never unfold these primitives again.
-/

namespace CsiOperator

namespace Controller

variable {α : Type}

theorem onCluster_run (m : ClusterM α) (s : Controller) :
    (onCluster m).run.run s =
      ((m.run.run s.cluster).1, { s with cluster := (m.run.run s.cluster).2 }) := rfl

theorem tryCluster_run (m : ClusterM α) (s : Controller) :
    (tryCluster m).run.run s =
      (.ok (m.run.run s.cluster).1, { s with cluster := (m.run.run s.cluster).2 }) := by
  simp only [tryCluster, onCluster_run, exceptState_run_tryCatch, exceptState_run_map]
  rcases m.run.run s.cluster with ⟨_ | a, c⟩ <;> rfl

theorem now_run (s : Controller) :
    now.run.run s = (.ok s.clock, { s with clock := s.clock.tick }) := rfl

theorem begin_run (s : Controller) :
    begin.run.run s = (.ok (), { s with attempts := s.attempts + 1 }) := rfl

theorem converge_run (key : Cluster.Key) (spec : Json) (m : ClusterM Unit) (s : Controller) :
    (converge key spec m).run.run s =
      (.ok (m.run.run s.cluster).1,
        { s with
          cluster := (m.run.run s.cluster).2
          converged := s.converged ++
            [{ key, clock := s.clock, spec, ok := (m.run.run s.cluster).1.isOk }] }) := by
  simp only [converge, exceptState_run_bind, exceptState_run_get, tryCluster_run,
    exceptState_run_modify]
  rfl

theorem noteStatus_run (w : StatusWrite) (s : Controller) :
    (noteStatus w).run.run s = (.ok (), { s with statusWrites := s.statusWrites ++ [w] }) := rfl

theorem attempt_run (m : ControllerM α) (s : Controller) :
    (attempt m).run.run s = (.ok (m.run.run s).1, (m.run.run s).2) := by
  simp only [attempt, exceptState_run_tryCatch, exceptState_run_map]
  rcases m.run.run s with ⟨_ | a, s'⟩ <;> rfl

/-- A state whose log of convergences is the one of another. -/
def SameLog (s s' : Controller) : Prop := s'.converged = s.converged

instance : IsTrans Controller SameLog := ⟨fun _ _ _ h₁ h₂ => h₂.trans h₁⟩

instance : Std.Refl SameLog := ⟨fun _ => rfl⟩

/-! Only `converge` runs a convergence. -/

theorem onCluster_log (m : ClusterM α) : Stays SameLog (onCluster m) := fun _ => rfl

theorem now_log : Stays SameLog now := fun _ => rfl

theorem noteStatus_log (w : StatusWrite) : Stays SameLog (noteStatus w) := fun _ => rfl

theorem tryCluster_log (m : ClusterM α) : Stays SameLog (tryCluster m) := fun s => by
  rw [tryCluster_run]
  rfl

theorem attempt_log {m : ControllerM α} (h : Stays SameLog m) : Stays SameLog (attempt m) :=
  fun s => by
    rw [attempt_run]
    exact h s

/-- A run of `m` seen through one place of the cluster: each step is a run of `m` from the state
it names, and each starts with what the step before it left at the place. Anything else, the
clock included, may change between two steps. -/
structure RunOf (m : ControllerM α) (view : Cluster → Option Json)
    (steps : List (Controller × Except OperatorError α × Controller)) : Prop where
  runs : ∀ step ∈ steps, m.run.run step.1 = step.2
  chained : steps.IsChain fun a b => view b.1.cluster = view a.2.2.cluster

end Controller

end CsiOperator
