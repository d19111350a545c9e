import CsiOperator.Time
/-!
The lease that elects one running operator as leader. A lease names its holder and when it
was last renewed; it expires once its duration has passed since that renewal. A leader that
has not renewed within the renewal deadline steps down.
-/

namespace CsiOperator.Leader

/-- The name of the lease. -/
def leaseName : String := "7e980ba4.dell.com"

/-- How long a lease lasts after a renewal, in seconds, when it does not say. -/
def leaseSeconds : Int := 15

/-- Seconds between renewals by the leader. -/
def renewEvery : Nat := 5

/-- Milliseconds after the last renewal at which a leader steps down. -/
def renewDeadlineMillis : Nat := 10000

/-- Seconds between claims by a follower. -/
def claimRetry : Nat := 2

/-- What a lease says about its holder. -/
structure LeaseState where
  holder : Option String := none
  renewed : Option Instant := none
  durationSeconds : Option Int := none
deriving DecidableEq, Repr, Inhabited

/-- Whether a lease has expired at `now`: never renewed, or renewed longer ago than its
duration. -/
def leaseExpired (lease : Option LeaseState) (now : Instant) : Bool :=
  match lease.bind (·.renewed) with
  | none => true
  | some renewed =>
    let seconds := (lease.bind (·.durationSeconds)).getD leaseSeconds
    decide (renewed.addSeconds seconds < now)

/-- Whether a leader whose last renewal lies `elapsedMillis` back must step down; one that
never renewed must. -/
def renewalOverdue (elapsedMillis : Option Nat) : Bool :=
  match elapsedMillis with
  | none => true
  | some ms => ms ≥ renewDeadlineMillis

end CsiOperator.Leader
