import CsiOperator.Time
/-!
The lifecycle of an installed resource: the state recorded in its status, the condition of its
last update, and the decisions the engines take from them.

* `decide` picks what a reconcile does: resync the cluster objects, only recompute the state,
  or stop.
* `LastUpdate.record` keeps the time of a condition that did not change, so the time says how
  long the resource has been in it.
* `failureDecision` backs off a failing resync: the wait doubles with the time spent failing,
  between five seconds and ten minutes, and after half an hour the resource is marked failed.
* `successRequeue` polls a settled resource the same way until it runs.
-/

namespace CsiOperator

/-- The state recorded in a resource's status. -/
inductive DriverState where
  | none
  | updating
  | succeeded
  | running
  | failed
  | invalidConfig
deriving DecidableEq, Repr, Inhabited

namespace DriverState

/-- Every state, in the order of their codes. -/
def all : List DriverState := [.none, .updating, .succeeded, .running, .failed, .invalidConfig]

/-- The state's name in a status; the empty text for no state. -/
def name : DriverState → String
  | .none => ""
  | .updating => "Updating"
  | .succeeded => "Succeeded"
  | .running => "Running"
  | .failed => "Failed"
  | .invalidConfig => "InvalidConfig"

/-- The state with a name. -/
def ofName? (s : String) : Option DriverState := all.find? (·.name == s)

/-- The number a metrics gauge shows for a state. -/
def code : DriverState → Nat
  | .none => 0
  | .updating => 1
  | .succeeded => 2
  | .running => 3
  | .failed => 4
  | .invalidConfig => 5

end DriverState

/-- The condition of a status's last update. -/
inductive Condition where
  | succeeded
  | invalidConfig
  | running
  | error
  | updating
  | failed
deriving DecidableEq, Repr, Inhabited

namespace Condition

/-- Every condition. -/
def all : List Condition := [.succeeded, .invalidConfig, .running, .error, .updating, .failed]

/-- The condition's name. -/
def name : Condition → String
  | .succeeded => "Succeeded"
  | .invalidConfig => "InvalidConfig"
  | .running => "Running"
  | .error => "Error"
  | .updating => "Updating"
  | .failed => "Failed"

/-- The condition with a name. -/
def ofName? (s : String) : Option Condition := all.find? (·.name == s)

/-- The condition that reports a state; no state has none. -/
def ofState? : DriverState → Option Condition
  | .none => none
  | .updating => some .updating
  | .succeeded => some .succeeded
  | .running => some .running
  | .failed => some .failed
  | .invalidConfig => some .invalidConfig

end Condition

/-- The last change of a status: its condition, when it began, and the error it reports. -/
structure LastUpdate where
  condition : Option Condition := none
  time : Option Instant := none
  errorMessage : String := ""
deriving DecidableEq, Repr, Inhabited

namespace LastUpdate

/-- The update after reporting `condition` with `message` at `now`: the old time stays when
neither the condition nor the message changed. -/
def record (old : LastUpdate) (condition : Option Condition) (message : String)
    (now : Instant) : LastUpdate :=
  let time := if old.condition = condition ∧ old.errorMessage = message then
      some (old.time.getD now)
    else some now
  { condition, time, errorMessage := message }

/-- Whole seconds spent in the condition up to `now`; zero without a time or when the time is
in the future. -/
def secondsIn (last : LastUpdate) (now : Instant) : Nat :=
  match last.time with
  | some t => t.secondsUntil now
  | none => 0

end LastUpdate

/-- What a reconcile does after comparing the spec with the recorded hash. -/
inductive Path where
  | resync
  | checkStateOnly
  | stop
deriving DecidableEq, Repr, Inhabited

/-- The name of a path. -/
def Path.name : Path → String
  | .resync => "Resync"
  | .checkStateOnly => "CheckStateOnly"
  | .stop => "Stop"

/-- The path for a recorded state: a settled resource is resynced only when its spec changed;
a resource whose configuration failed is left alone unless its spec changed or an update is
forced; any other state is resynced. -/
def Path.decide (state : DriverState) (changed forceUpdate : Bool) : Path :=
  match state with
  | .running | .succeeded => if changed then .resync else .checkStateOnly
  | .invalidConfig | .failed => if forceUpdate || changed then .resync else .stop
  | .none | .updating => .resync

/-- When a resource is reconciled next. -/
inductive Requeue where
  | never
  | immediately
  | after (seconds : Nat)
deriving DecidableEq, Repr, Inhabited

/-- How a requeue is shown by the controller runtime. -/
def Requeue.actionText : Requeue → String
  | .never => "Action \x7b requeue_after: None \x7d"
  | .immediately | .after 0 => "Action \x7b requeue_after: Some(0ns) \x7d"
  | .after s => "Action \x7b requeue_after: Some(" ++ toString s ++ "s) \x7d"

/-- The first wait between retries, in seconds. -/
def retryInterval : Nat := 5

/-- The longest wait between retries, in seconds. -/
def maxRetryInterval : Nat := 600

/-- How long a resource may keep failing before it is marked failed, in seconds. -/
def maxRetryDuration : Nat := 1800

/-- Twice the elapsed time, kept between the first and the longest wait. -/
def doubledInterval (elapsed : Nat) : Nat := max retryInterval (min maxRetryInterval (2 * elapsed))

/-- What to do after a failed resync. -/
inductive FailureDecision where
  | retry (seconds : Nat)
  | escalate
deriving DecidableEq, Repr, Inhabited

/-- A failure that follows another condition is retried after the first wait; one that follows
an error waits twice as long as the error has lasted, until it lasted half an hour. -/
def failureDecision (old : LastUpdate) (now : Instant) : FailureDecision :=
  if old.condition ≠ some .error then .retry retryInterval
  else
    let elapsed := old.secondsIn now
    if elapsed ≥ maxRetryDuration then .escalate else .retry (doubledInterval elapsed)

/-- The requeue after a state check, and the interval used if writing the status fails. -/
def successRequeue (oldState : DriverState) (oldLast : LastUpdate) (newState : DriverState)
    (now : Instant) : Requeue × Nat :=
  match newState, oldState with
  | .running, .running => (.never, retryInterval)
  | .succeeded, .succeeded =>
    let elapsed := oldLast.secondsIn now
    if elapsed ≥ maxRetryDuration then (.never, retryInterval)
    else (.after (doubledInterval elapsed), doubledInterval elapsed)
  | _, _ => (.after retryInterval, retryInterval)

/-- The state after a state check: running workloads are running, a failed check keeps the
resource updating, and anything else has succeeded. -/
def settledState (running calcFailed : Bool) : DriverState :=
  if running then .running else if calcFailed then .updating else .succeeded

end CsiOperator
