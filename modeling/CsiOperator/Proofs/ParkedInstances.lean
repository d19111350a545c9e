import Mathlib
import CsiOperator.Proofs.RequeueDirectives
import CsiOperator.Proofs.SpecInit
/-!
Instances at rest.

An instance whose failure or invalid configuration is recorded for the fingerprint of its
current spec is parked: its reconcile takes the `stop` path and answers `Never`. Everything a
driver reconcile does before it routes on the recorded state could write or return early: the
finalizer is added when missing, the configuration is resolved, and the configuration version
is annotated when the recorded fingerprint is `0` or the spec names no version. A parked
instance that carries the finalizer, whose configuration resolves and whose version is named
and recorded passes all of them without a write, so its reconcile changes nothing but the
count of reconciles begun (`reconcile_of_parked`). It is then parked again, and so stays parked
through any number of rounds of reconciles while outside edits leave it as it is stored
(`parked_instances_stay_parked`).

A spec that names no configuration version is not enough for rest: its reconcile records the
missing version as an invalid configuration and writes the status, even with a failure recorded
for its current spec (`unversioned_failure_rewrites_status`).
-/

namespace CsiOperator

open Controller

/-- The state after a reconcile that did nothing but count itself as begun. -/
def Controller.countAttempt (s : Controller) : Controller := { s with attempts := s.attempts + 1 }

@[simp] theorem Controller.countAttempt_cluster (s : Controller) :
    s.countAttempt.cluster = s.cluster := rfl

/-- Runs a reconcile again and again, each run after an outside edit of the controller's state
(a clock move, an injected failure, an edit of another object): answers each run's outcome, and
the state after the last run. -/
def reconcileRounds (m : ControllerM Requeue) :
    List (Controller → Controller) → Controller → List (Except OperatorError Requeue) × Controller
  | [], s => ([], s)
  | edit :: edits, s =>
    let run := m.run.run (edit s)
    let rest := reconcileRounds m edits run.2
    (run.1 :: rest.1, rest.2)

/-- An outside edit that leaves the object stored under a key as it was, on a server that stays
as reachable as it was. -/
def KeepsObject (key : Cluster.Key) (edit : Controller → Controller) : Prop :=
  ∀ t, (edit t).cluster.online = t.cluster.online ∧ (edit t).cluster.find? key = t.cluster.find? key

theorem reconcileRounds_of_idle {m : ControllerM Requeue} {P : Controller → Prop}
    (hidle : ∀ t, P t → m.run.run t = (.ok .never, t.countAttempt))
    (hcount : ∀ t, P t → P t.countAttempt) {edits : List (Controller → Controller)}
    (hedits : ∀ e ∈ edits, ∀ t, P t → P (e t)) {s : Controller} (hs : P s) :
    reconcileRounds m edits s =
      (List.replicate edits.length (.ok .never), edits.foldl (fun t e => (e t).countAttempt) s) := by
  -- induction on the edits; the invariant carries over each edit and each idle run
  induction edits generalizing s with
  | nil => rfl
  | cons e es ih =>
    have hedited : P (e s) := hedits e List.mem_cons_self s hs
    have rest := ih (fun e' he' => hedits e' (List.mem_cons_of_mem e he')) (hcount _ hedited)
    simp only [reconcileRounds, hidle _ hedited, rest, List.length_cons, List.replicate_succ,
      List.foldl_cons]

theorem Path.decide_of_halted {st : DriverState} (h : st = .failed ∨ st = .invalidConfig) :
    Path.decide st false false = .stop := by
  rcases h with rfl | rfl <;> rfl

namespace Reconcile

/-- A driver instance at rest: stored under its name on a server that answers, not being
deleted, carrying the finalizer, with a failure or an invalid configuration recorded for the
fingerprint of its current spec and no forced update, whose configuration resolves, and whose
spec names a configuration version that is already recorded, by a recorded fingerprint other
than `0` or by the annotation. -/
structure Parked (setup : ReconcilerSetup) (family : DriverKind) (ns name : String) (c : Cluster)
    (r : DriverResource) : Prop where
  online : c.online = true
  stored : ∃ j, c.find? (Cluster.keyFor (.driver family) (some ns) name) = some j ∧
    DriverResource.read family j = .ok r
  notDeleted : beingDeleted r = false
  finalized : (finalizersOf r).contains finalizer = true
  halted : (r.status.getD {}).state = .failed ∨ (r.status.getD {}).state = .invalidConfig
  unchanged : (r.status.getD {}).driverHash = Digest.fingerprint r.specText
  unforced : r.spec.forceUpdate = false
  configured : ∃ config, resolveConfig setup r = .ok config
  versioned : r.spec.configVersion ≠ ""
  recorded : (r.status.getD {}).driverHash ≠ 0 ∨
    ((Defaults.annotationsOf r).getD []).lookup Defaults.configVersionKey =
      some r.spec.configVersion

theorem Parked.of_same {setup : ReconcilerSetup} {family : DriverKind} {ns name : String}
    {c c' : Cluster} {r : DriverResource} (hp : Parked setup family ns name c r)
    (honline : c'.online = c.online)
    (hfound : c'.find? (Cluster.keyFor (.driver family) (some ns) name) =
      c.find? (Cluster.keyFor (.driver family) (some ns) name)) :
    Parked setup family ns name c' r :=
  { hp with
    online := honline.trans hp.online
    stored := hfound ▸ hp.stored }

theorem recordConfigVersion_of_recorded {r : DriverResource} {controllerHA : Bool}
    (hversion : r.spec.configVersion ≠ "")
    (hrecorded : (r.status.getD {}).driverHash ≠ 0 ∨
      ((Defaults.annotationsOf r).getD []).lookup Defaults.configVersionKey =
        some r.spec.configVersion)
    (s : Controller) :
    (recordConfigVersion r controllerHA).run.run s = (.ok none, s) := by
  have hnamed : r.spec.configVersion.isEmpty = false := by simpa using hversion
  rcases hrecorded with hhash | hlookup
  · unfold recordConfigVersion
    simp [hhash, hnamed]
    rfl
  · exact recordConfigVersion_run (Defaults.annotateConfigVersion_of_lookup hlookup hnamed) s

theorem reconcile_of_parked {setup : ReconcilerSetup} {family : DriverKind} {ns name : String}
    {s : Controller} {r : DriverResource} (hp : Parked setup family ns name s.cluster r) :
    (reconcile setup family ns name).run.run s = (.ok .never, s.countAttempt) := by
  obtain ⟨j, hfound, hread⟩ := hp.stored
  obtain ⟨config, hconfig⟩ := hp.configured
  have hsame : (Digest.fingerprint r.specText != (r.status.getD {}).driverHash) = false := by
    simp [hp.unchanged]
  unfold Controller.countAttempt reconcile reconcileLive ensureFinalizer reconcileFinalized
  simp only [exceptState_run_bind, begin_run]
  rw [getDriver_run (s := { s with attempts := s.attempts + 1 }) hp.online hfound hread]
  simp only [hp.notDeleted, hp.finalized, hconfig, Bool.false_eq_true, if_false, if_true,
    exceptState_run_bind, exceptState_run_pure, recordConfigVersion_of_recorded hp.versioned
      hp.recorded, reconcileConfigured_run, hsame, hp.unforced, Path.decide_of_halted hp.halted]

end Reconcile

namespace Proxy

/-- A proxy at rest: stored under its name on a server that answers, with a failure or an
invalid configuration recorded for the fingerprint of its current spec. -/
structure Parked (ns name : String) (c : Cluster) (p : ProxyResource) : Prop where
  online : c.online = true
  stored : ∃ j, c.find? (Cluster.keyFor .reverseProxy (some ns) name) = some j ∧
    ProxyResource.read j = .ok p
  halted : (p.status.getD {}).state = .failed ∨ (p.status.getD {}).state = .invalidConfig
  unchanged : (p.status.getD {}).proxyHash = Digest.fingerprint p.specText

theorem Parked.of_same {ns name : String} {c c' : Cluster} {p : ProxyResource}
    (hp : Parked ns name c p) (honline : c'.online = c.online)
    (hfound : c'.find? (Cluster.keyFor .reverseProxy (some ns) name) =
      c.find? (Cluster.keyFor .reverseProxy (some ns) name)) :
    Parked ns name c' p :=
  { hp with
    online := honline.trans hp.online
    stored := hfound ▸ hp.stored }

theorem reconcile_of_parked {ns name : String} {s : Controller} {p : ProxyResource}
    (hp : Parked ns name s.cluster p) :
    (reconcile ns name).run.run s = (.ok .never, s.countAttempt) := by
  obtain ⟨j, hfound, hread⟩ := hp.stored
  have hsame : (Digest.fingerprint p.specText != (p.status.getD {}).proxyHash) = false := by
    simp [hp.unchanged]
  unfold Controller.countAttempt reconcile
  simp only [exceptState_run_bind, begin_run]
  rw [getProxy_run (s := { s with attempts := s.attempts + 1 }) hp.online hfound hread]
  simp only [engine_status, hsame, Path.decide_of_halted hp.halted]
  rfl

end Proxy

/-- Parked instances stay parked. While outside edits leave a parked driver instance (resp. a
parked proxy) stored as it is, on a server that stays reachable, every reconcile of it answers
`Never` and changes nothing but the count of reconciles begun: the cluster, its write log
included, ends as the edits alone leave it. -/
theorem parked_instances_stay_parked :
    (∀ (setup : ReconcilerSetup) (family : DriverKind) (ns name : String) (s : Controller)
        (r : DriverResource) (edits : List (Controller → Controller)),
      Reconcile.Parked setup family ns name s.cluster r →
      (∀ e ∈ edits, KeepsObject (Cluster.keyFor (.driver family) (some ns) name) e) →
      reconcileRounds (Reconcile.reconcile setup family ns name) edits s =
        (List.replicate edits.length (.ok .never),
          edits.foldl (fun t e => (e t).countAttempt) s)) ∧
    (∀ (ns name : String) (s : Controller) (p : ProxyResource)
        (edits : List (Controller → Controller)),
      Proxy.Parked ns name s.cluster p →
      (∀ e ∈ edits, KeepsObject (Cluster.keyFor .reverseProxy (some ns) name) e) →
      reconcileRounds (Proxy.reconcile ns name) edits s =
        (List.replicate edits.length (.ok .never),
          edits.foldl (fun t e => (e t).countAttempt) s)) := by
  constructor
  · intro setup family ns name s r edits hp hkeeps
    refine reconcileRounds_of_idle (P := fun t => Reconcile.Parked setup family ns name t.cluster r)
      (fun t ht => Reconcile.reconcile_of_parked ht) (fun t ht => ht) ?_ hp
    intro e he t ht
    obtain ⟨honline, hfound⟩ := hkeeps e he t
    exact ht.of_same honline hfound
  · intro ns name s p edits hp hkeeps
    refine reconcileRounds_of_idle (P := fun t => Proxy.Parked ns name t.cluster p)
      (fun t ht => Proxy.reconcile_of_parked ht) (fun t ht => ht) ?_ hp
    intro e he t ht
    obtain ⟨honline, hfound⟩ := hkeeps e he t
    exact ht.of_same honline hfound

/-- The parked PowerStore instance and proxy rest through a reconcile and a second one after the
clock moved. -/
theorem parked_powerStore_rests :
    let edits : List (Controller → Controller) := [id, fun t => { t with clock := t.clock.tick }]
    Reconcile.Parked Refused.setup .powerStore "ns" "d" Parked.driverStart.cluster Parked.driver ∧
    reconcileRounds (Reconcile.reconcile Refused.setup .powerStore "ns" "d") edits
        Parked.driverStart =
      ([.ok .never, .ok .never],
        { Parked.driverStart with clock := Parked.driverStart.clock.tick, attempts := 2 }) ∧
    Proxy.Parked "ns" "p" Parked.proxyStart.cluster Parked.proxy ∧
    reconcileRounds (Proxy.reconcile "ns" "p") edits Parked.proxyStart =
      ([.ok .never, .ok .never],
        { Parked.proxyStart with clock := Parked.proxyStart.clock.tick, attempts := 2 }) := by
  intro edits
  have hkeeps : ∀ key, ∀ e ∈ edits, KeepsObject key e := by
    intro key e he t
    simp only [edits, List.mem_cons, List.not_mem_nil, or_false] at he
    rcases he with rfl | rfl <;> exact ⟨rfl, rfl⟩
  have hdriver : Reconcile.Parked Refused.setup .powerStore "ns" "d" Parked.driverStart.cluster
      Parked.driver :=
    { online := rfl
      stored := ⟨_, rfl, rfl⟩
      notDeleted := rfl
      finalized := rfl
      halted := .inl rfl
      unchanged := by decide +kernel
      unforced := rfl
      configured := ⟨_, rfl⟩
      versioned := by decide
      recorded := .inl (by decide) }
  have hproxy : Proxy.Parked "ns" "p" Parked.proxyStart.cluster Parked.proxy :=
    { online := rfl
      stored := ⟨_, rfl, rfl⟩
      halted := .inl rfl
      unchanged := by decide +kernel }
  refine ⟨hdriver, ?_, hproxy, ?_⟩
  · rw [parked_instances_stay_parked.1 Refused.setup .powerStore "ns" "d" Parked.driverStart
      Parked.driver edits hdriver (hkeeps _)]
    rfl
  · rw [parked_instances_stay_parked.2 "ns" "p" Parked.proxyStart Parked.proxy edits hproxy
      (hkeeps _)]
    rfl

/-! ## A failure recorded for a spec that names no version

The PowerStore instance with its failure recorded for its current spec, which names no
configuration version, in a store that holds only it. -/

namespace Unversioned

def driver : DriverResource :=
  { Refused.driver with
    spec := { Refused.driverSpec with configVersion := "" }
    status := some { driverHash := 6562594134399692238, state := .failed } }

def start : Controller where
  cluster := { objects := [(Cluster.keyFor (.driver .powerStore) (some "ns") "d", driver.toJson)] }
  clock := .ofSeconds 1700000000

end Unversioned

/-- An instance with its failure recorded for its current spec, carrying the finalizer, with no
forced update and a configuration that resolves, is not at rest when its spec names no
configuration version: its reconcile records the missing version as an invalid configuration
and writes the status. -/
theorem unversioned_failure_rewrites_status :
    let run := (Reconcile.reconcile Refused.setup .powerStore "ns" "d").run.run Unversioned.start
    (Unversioned.driver.status.getD {}).driverHash = Digest.fingerprint Unversioned.driver.specText ∧
    (Reconcile.finalizersOf Unversioned.driver).contains Reconcile.finalizer = true ∧
    Unversioned.driver.spec.forceUpdate = false ∧
    run.1 = .ok .never ∧
    run.2.cluster.writes = [⟨.updateStatus, .driver .powerStore, "d"⟩] ∧
    run.2.statusWrites.map (·.state) = [.invalidConfig] := by
  intro run
  decide +kernel

end CsiOperator
