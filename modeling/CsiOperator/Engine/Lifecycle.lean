import CsiOperator.Engine.Controller
/-!
The lifecycle both reconcile engines share once a resource's path is chosen.

An engine reconciles resources of a type `ρ` whose statuses, of a type `σ`, record a state, the
fingerprint of the spec they were recorded for and the last change (`LifecycleStatus`). Engines
differ in how they observe an installation, store a status, write back a changed spec, validate
a spec and converge the objects (`Engine`); they share how each outcome is recorded:

* a configuration that cannot be used marks the resource `InvalidConfig`, and it is not retried;
* a state check records the observed state and polls until the installation runs;
* a successful convergence records `Running` or `Succeeded`;
* a failed convergence records the error, keeps an error already recorded so that its time
  keeps counting, and marks the resource `Failed` once it has failed for half an hour.

A status is written only when it changed. A failed write of an invalid configuration or of a
failed convergence is let go, one of a successful convergence fails the reconcile, and one of a
state check asks for a retry.
-/

namespace CsiOperator

/-- A status in which the lifecycle records the outcomes of reconciles: the state reached, the
fingerprint of the spec it was recorded for, and the last change. -/
class LifecycleStatus (σ : Type) where
  state : σ → DriverState
  hash : σ → Nat
  lastUpdate : σ → LastUpdate
  /-- The status with another state. -/
  withState : σ → DriverState → σ
  /-- The status with another last change. -/
  withLastUpdate : σ → LastUpdate → σ
  state_withState : ∀ s st, state (withState s st) = st
  hash_withState : ∀ s st, hash (withState s st) = hash s
  lastUpdate_withState : ∀ s st, lastUpdate (withState s st) = lastUpdate s
  state_withLastUpdate : ∀ s u, state (withLastUpdate s u) = state s
  hash_withLastUpdate : ∀ s u, hash (withLastUpdate s u) = hash s
  lastUpdate_withLastUpdate : ∀ s u, lastUpdate (withLastUpdate s u) = u

/-- What a write of a status records. -/
def LifecycleStatus.written {σ : Type} [LifecycleStatus σ] (s : σ) : StatusWrite :=
  ⟨state s, hash s, lastUpdate s⟩

/-- What observing an installation tells: whether it runs, how its pods are recorded in a
status, and what went wrong observing it. Recording the pods changes nothing the lifecycle
reads. -/
structure Observation (σ : Type) [LifecycleStatus σ] where
  running : Bool
  pods : σ → σ
  error : Option OperatorError
  written_pods : ∀ s, LifecycleStatus.written (pods s) = LifecycleStatus.written s

/-- The message of what went wrong observing, or the empty text. -/
def Observation.message {σ : Type} [LifecycleStatus σ] (o : Observation σ) : String := (o.error.map (·.message)).getD ""

/-- The steps an engine takes for a resource of type `ρ` whose statuses have type `σ`. -/
structure Engine (ρ σ : Type) [LifecycleStatus σ] where
  /-- The status a resource carries; the empty one when it has none. -/
  status : ρ → σ
  /-- Observes a resource's installation. -/
  observe : ρ → ControllerM (Observation σ)
  /-- Observes a resource's installation once its objects were converged. -/
  observeConverged : ρ → ControllerM (Observation σ)
  /-- Stores a status for a resource; answers the resource as stored. -/
  storeStatus : ρ → σ → ControllerM ρ
  /-- Writes back what a changed spec needs stored before its status is recorded. -/
  prepare : ρ → ControllerM ρ
  /-- Validates a resource's spec against the cluster. -/
  validate : ρ → ClusterM Unit
  /-- Converges a resource's objects, keeping the failure as a value. -/
  converge : ρ → ControllerM (Except OperatorError Unit)

namespace Engine

open Controller LifecycleStatus

variable {ρ σ : Type} [DecidableEq σ] [LifecycleStatus σ]

/-- Records a new status with `store` when it differs from the old one; answers the resource
as stored. -/
def writeStatus (store : σ → ControllerM ρ) (r : ρ) (new old : σ) : ControllerM ρ := do
  if new = old then return r
  noteStatus (written new)
  store new

/-- Marks a resource whose configuration cannot be used; it is not retried. -/
def recordInvalid (observe : ControllerM (Observation σ)) (store : σ → ControllerM ρ) (r : ρ)
    (old : σ) (e : OperatorError) : ControllerM Requeue := do
  let seen ← observe
  let now ← now
  let new := withState (withLastUpdate (seen.pods old)
    ((lastUpdate old).record (some .invalidConfig) e.message now)) .invalidConfig
  let _ ← attempt (writeStatus store r new old)
  pure .never

/-- Records the state of a resource whose spec did not change, and polls it until it runs. -/
def recordSettled (observe : ControllerM (Observation σ)) (store : σ → ControllerM ρ) (r : ρ)
    (new old : σ) : ControllerM Requeue := do
  let seen ← observe
  let state := settledState seen.running seen.error.isSome
  let now ← now
  let new := withLastUpdate (withState (seen.pods new) state)
    ((lastUpdate old).record (Condition.ofState? state) seen.message now)
  let (requeue, wait) := successRequeue (LifecycleStatus.state old) (lastUpdate old) state now
  match ← attempt (writeStatus store r new old) with
  | .ok _ => pure requeue
  | .error _ => pure (.after wait)

/-- Records the state reached after a successful convergence. -/
def recordConverged (observe : ControllerM (Observation σ)) (store : σ → ControllerM ρ) (r : ρ)
    (new old : σ) : ControllerM Requeue := do
  let seen ← observe
  let state : DriverState := if seen.running then .running else .succeeded
  let now ← now
  let new := withLastUpdate (withState (seen.pods new) state)
    ((lastUpdate old).record (Condition.ofState? state) seen.message now)
  let _ ← writeStatus store r new old
  pure (if seen.running then .never else .after retryInterval)

/-- Records a failed convergence: retried with a growing wait, or marked failed once it has
lasted too long. An error already recorded is not rewritten, so its time keeps counting. -/
def recordFailed (observe : ControllerM (Observation σ)) (store : σ → ControllerM ρ) (r : ρ)
    (new old : σ) (e : OperatorError) : ControllerM Requeue := do
  let seen ← observe
  let now ← now
  let failed := withLastUpdate (seen.pods new) ((lastUpdate old).record (some .error) e.message now)
  match failureDecision (lastUpdate old) now with
  | .escalate =>
    let escalated := withLastUpdate (withState failed .failed)
      ((lastUpdate old).record (some .failed) e.message now)
    let _ ← attempt (writeStatus store r escalated old)
    pure .never
  | .retry wait =>
    if (lastUpdate old).condition ≠ some .error then
      let _ ← attempt (writeStatus store r failed old)
    pure (.after wait)

variable (E : Engine ρ σ)

/-- Marks a resource whose configuration cannot be used, from the status it carries. -/
def invalidConfig (r : ρ) (e : OperatorError) : ControllerM Requeue :=
  recordInvalid (E.observe r) (E.storeStatus r) r (E.status r) e

/-- Records the state of a resource whose spec did not change. -/
def settle (r : ρ) (new old : σ) : ControllerM Requeue :=
  recordSettled (E.observe r) (E.storeStatus r) r new old

/-- Resyncs a resource: when `provisional`, writes back its spec and records that it is
updating; then validates its spec, converges its objects and records the outcome. -/
def resync (r : ρ) (provisional : Bool) (new old : σ) : ControllerM Requeue := do
  let (r, new) ← if provisional then do
      let r ← E.prepare r
      let now ← now
      let new := withLastUpdate new ((lastUpdate old).record (some .updating) "" now)
      pure (← writeStatus (E.storeStatus r) r new old, new)
    else pure (r, new)
  match ← tryCluster (E.validate r) with
  | .error e => E.invalidConfig r e
  | .ok () =>
    let new := withState new .updating
    match ← E.converge r with
    | .ok () => recordConverged (E.observeConverged r) (E.storeStatus r) r new old
    | .error e => recordFailed (E.observeConverged r) (E.storeStatus r) r new old e

end Engine

end CsiOperator
