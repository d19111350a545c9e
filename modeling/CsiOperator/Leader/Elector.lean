import CsiOperator.Leader.Lease
import CsiOperator.Cluster.Store
/-!
Claiming the leader lease, and one round of the leader's loop.

A claim renews the lease when this operator holds it, takes it over when it expired, and
creates it when it is missing; a lease another holder renewed in time is busy. A leader whose
lease turns busy, or who cannot renew it before the deadline, ends the process so that it comes
back as a follower.
-/

namespace CsiOperator.Leader

/-- The outcome of one claim. -/
inductive Claim where
  /-- This operator holds the lease: renewed, taken over or created. -/
  | held
  /-- Another holder renewed it in time. -/
  | busy
deriving DecidableEq, Repr, Inhabited

/-- The name of a claim's outcome. -/
def Claim.name : Claim → String
  | .held => "held"
  | .busy => "busy"

/-- What a lease's spec says about its holder. -/
def LeaseState.ofSpec (spec : Json) : LeaseState :=
  { holder := spec.strOpt "holderIdentity"
    renewed := (spec.strOpt "renewTime").bind Instant.parse?
    durationSeconds := spec.intOpt "leaseDurationSeconds" }

/-- The operator electing itself: its namespace, which holds the lease, and its identity. -/
structure Elector where
  ns : String
  identity : String
deriving DecidableEq, Repr, Inhabited

namespace Elector

/-- The spec members naming this operator the holder as of `now`; a takeover also records
when the lease was acquired. -/
def holderSpec (e : Elector) (now : Instant) (acquire : Bool) : Json :=
  .obj ([("holderIdentity", .str e.identity), ("renewTime", .str (now.render .micros)),
    ("leaseDurationSeconds", .int leaseSeconds)] ++
    if acquire then [("acquireTime", .str (now.render .micros))] else [])

/-- A new lease held by this operator. -/
def newLease (e : Elector) (now : Instant) : Json :=
  .obj [("apiVersion", .str ResourceKind.lease.apiVersion), ("kind", .str ResourceKind.lease.name),
    ("metadata", .obj [("name", .str leaseName), ("namespace", .str e.ns)]),
    ("spec", .obj [("acquireTime", .str (now.render .micros)), ("holderIdentity", .str e.identity),
      ("leaseDurationSeconds", .int leaseSeconds), ("renewTime", .str (now.render .micros))])]

/-- Writes this operator into the lease as its holder. -/
def takeHold (e : Elector) (now : Instant) (acquire : Bool) : ClusterM Unit := do
  let _ ← Cluster.patch .lease (some e.ns) leaseName (.obj [("spec", e.holderSpec now acquire)])

/-- Renews, takes over or creates the lease. -/
def claim (e : Elector) (now : Instant) : ClusterM Claim := do
  match ← Cluster.get .lease (some e.ns) leaseName with
  | none =>
    let _ ← Cluster.create .lease (e.newLease now)
    pure .held
  | some lease =>
    let spec := (lease.get? "spec").map LeaseState.ofSpec
    if (spec.bind (·.holder)) == some e.identity then
      e.takeHold now false
      pure .held
    else if !leaseExpired spec now then pure .busy
    else
      e.takeHold now true
      pure .held

end Elector

/-- What the leader's loop does after one claim. -/
inductive Round where
  /-- Claim again after a pause of some seconds, leading or not. -/
  | pause (leading : Bool) (seconds : Nat)
  /-- End the process with an exit code. -/
  | exit (code : Nat)
deriving DecidableEq, Repr, Inhabited

/-- One round of the leader's loop: a claim, and what follows from it for an operator that is
`leading` or not and last renewed `sinceRenewalMillis` ago (never, when none). -/
def round (e : Elector) (leading : Bool) (sinceRenewalMillis : Option Nat) (now : Instant) :
    ClusterM Round := do
  let outcome : Except OperatorError Claim ←
    tryCatch (Except.ok <$> e.claim now) fun err => pure (.error err)
  pure (match outcome with
    | .ok .held => .pause true renewEvery
    | .ok .busy => if leading then .exit 1 else .pause false claimRetry
    | .error _ =>
      if leading && renewalOverdue sinceRenewalMillis then .exit 1 else .pause leading claimRetry)

end CsiOperator.Leader
