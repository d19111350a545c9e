import Mathlib
import CsiOperator.Proofs.ReconcilePaths
import CsiOperator.Proofs.Backoff
import CsiOperator.Proofs.ProxyPaths
/-!
The backoff of an installation whose convergence keeps failing.

A run of such reconciles goes through three phases. The first failure is recorded: the status
turns `Updating`, with condition `Error` begun at the clock, and the reconcile asks to be
retried after five seconds. While the error has lasted less than half an hour, a reconcile
leaves the stored status as it is, so that its time keeps counting from the first failure, and
asks to be retried after twice the whole seconds elapsed, kept between five seconds and ten
minutes. The first reconcile from half an hour on marks the installation `Failed` and is not
retried, and every reconcile after it stops at once.

`Backoff.schedule` states this on its own, from the instants of the reconciles.
`Backoff.next_of_failure` shows that a failed convergence takes the schedule one step, keeping
`Backoff.Tracks`, the phase the stored status stands for; the step lemma of each reconciler
reduces one of its reconciles to that, and `Backoff.follows_schedule` carries it over a whole
run. Between two reconciles anything may change in the cluster but the instance's status.
-/

namespace CsiOperator

/-! ## The schedule -/

/-- Where a run of failing reconciles stands: no error recorded yet, failing since an instant,
or marked failed. -/
inductive Backoff where
  | fresh
  | failingSince (since : Instant)
  | failed

/-- What a reconcile does to the stored status: keeps it, or stores one in a state, with a
condition begun at an instant. -/
inductive Mark where
  | kept
  | stores (state : DriverState) (condition : Condition) (since : Instant)

namespace Backoff

/-- One reconcile at `t`: its answer and mark, and where the run stands after it. -/
def next : Backoff → Instant → (Requeue × Mark) × Backoff
  | .fresh, t => ((.after 5, .stores .updating .error t), .failingSince t)
  | .failingSince since, t =>
    if since.secondsUntil t < 1800 then
      ((.after (max 5 (min 600 (2 * since.secondsUntil t))), .kept), .failingSince since)
    else ((.never, .stores .failed .failed t), .failed)
  | .failed, _ => ((.never, .kept), .failed)

/-- The answers and marks of reconciles at the given instants, one after another. -/
def schedule : Backoff → List Instant → List (Requeue × Mark)
  | _, [] => []
  | b, t :: ts => (b.next t).1 :: schedule (b.next t).2 ts

end Backoff

/-! ## Stored statuses -/

/-- What the backoff reads of a stored status: its state, its last update, and the fingerprint
of the spec it was recorded for. -/
structure Recorded where
  state : DriverState
  lastUpdate : LastUpdate
  hash : Nat

/-- What a stored status records, when `read` reads it. -/
def Recorded.read {σ ε : Type} [LifecycleStatus σ] (read : Json → Except ε σ) (v : Json) :
    Option Recorded :=
  match read v with
  | .ok st => some ⟨LifecycleStatus.state st, LifecycleStatus.lastUpdate st, LifecycleStatus.hash st⟩
  | .error _ => none

/-- The stored status before and after a reconcile shows a mark: a kept status is the one
stored before, and a stored one reads with the mark's state and condition, begun at its
instant. -/
def Mark.Shows (recorded : Json → Option Recorded) : Mark → Option Json → Option Json → Prop
  | .kept, before, after => after = before
  | .stores state condition since, _, after => ∃ v o, after = some v ∧ recorded v = some o ∧
    o.state = state ∧ o.lastUpdate.condition = some condition ∧ o.lastUpdate.time = some since

/-- A reconcile's answer, and the stored status before and after it, are what a step of the
schedule plans. -/
def Planned (recorded : Json → Option Recorded) (planned : Requeue × Mark)
    (answer : Except OperatorError Requeue) (before after : Option Json) : Prop :=
  answer = .ok planned.1 ∧ planned.2.Shows recorded before after

/-- The answers of a run of reconciles, and the statuses stored at a place before and after each,
are those the schedule plans from a phase at the instants the reconciles start. -/
def Backoff.Scheduled (recorded : Json → Option Recorded) (view : Cluster → Option Json)
    (b : Backoff) (steps : List (Controller × Except OperatorError Requeue × Controller)) : Prop :=
  List.Forall₂ (fun planned step => Planned recorded planned step.2.1 (view step.1.cluster)
    (view step.2.2.cluster)) (b.schedule (steps.map (·.1.clock))) steps

namespace Backoff

/-- The state and last update a phase stands for. -/
def Holds : Backoff → DriverState → LastUpdate → Prop
  | .fresh, state, last => (state = .none ∨ state = .updating) ∧ last.condition ≠ some .error
  | .failingSince since, state, last =>
    state = .updating ∧ last.condition = some .error ∧ last.time = some since
  | .failed, state, _ => state = .failed

/-- The stored status stands for a phase: it reads, it was recorded for the spec with
fingerprint `hash`, and its state and last update are the phase's. -/
def Tracks (recorded : Json → Option Recorded) (hash : Nat) (b : Backoff)
    (stored : Option Json) : Prop :=
  ∃ v o, stored = some v ∧ recorded v = some o ∧ o.hash = hash ∧ b.Holds o.state o.lastUpdate

theorem Holds.resyncs {b : Backoff} {state : DriverState} {last : LastUpdate}
    (h : b.Holds state last) (hb : b ≠ .failed) : state = .none ∨ state = .updating := by
  cases b with
  | fresh => exact h.1
  | failingSince _ => exact .inr h.1
  | failed => exact absurd rfl hb

end Backoff

/-! ## Recording a failure -/

theorem LastUpdate.record_time_of_ne {u : LastUpdate} {c : Option Condition} (m : String)
    (t : Instant) (h : u.condition ≠ c) : (u.record c m t).time = some t := by
  simp [LastUpdate.record, h]

theorem LastUpdate.exact_record_of_ne {u : LastUpdate} {c : Option Condition} {m : String}
    {t : Instant} (h : u.condition ≠ c) (ht : t.Representable) : (u.record c m t).Exact := by
  intro t' ht'
  rw [LastUpdate.record_time_of_ne m t h, Option.mem_some_iff] at ht'
  exact ht' ▸ ht.valid

theorem Digest.foldr_bytes_lt (bytes : List UInt8) :
    bytes.foldr (fun b acc => acc * 256 + b.toNat) 0 < 256 ^ bytes.length := by
  induction bytes with
  | nil => simp
  | cons b rest ih =>
    have hb : b.toNat < 256 := b.toNat_lt
    simp only [List.foldr_cons, List.length_cons, Nat.pow_succ]
    omega

theorem Digest.fingerprint_lt (text : String) : Digest.fingerprint text < 2 ^ 64 :=
  calc Digest.fingerprint text
      < 256 ^ ((Digest.sha256 text.toUTF8.toList).take 8).length := Digest.foldr_bytes_lt _
    _ ≤ 256 ^ 8 := Nat.pow_le_pow_right (by decide) (List.length_take_le _ _)
    _ = 2 ^ 64 := by norm_num

section Recorded

variable {σ ε : Type} [LifecycleStatus σ] {read : Json → Except ε σ}

-- inside the namespace of `Recorded` its own fields shadow the status accessors, so those are
-- named in full
theorem Recorded.read_of_ok {v : Json} {st : σ} (h : read v = .ok st) :
    Recorded.read read v = some ⟨LifecycleStatus.state st, LifecycleStatus.lastUpdate st,
      LifecycleStatus.hash st⟩ := by
  simp only [Recorded.read, h]

theorem Recorded.read_eq_some {v : Json} {o : Recorded} (h : Recorded.read read v = some o) :
    ∃ st, read v = .ok st ∧
      o = ⟨LifecycleStatus.state st, LifecycleStatus.lastUpdate st, LifecycleStatus.hash st⟩ := by
  unfold Recorded.read at h
  split at h
  · next st hst => exact ⟨st, hst, (Option.some.inj h).symm⟩
  · cases h

theorem Recorded.read_of_record {document : σ → Json}
    (hround : ∀ x, LifecycleStatus.hash x < 2 ^ 64 → (LifecycleStatus.lastUpdate x).Exact →
      read (document x) = .ok x)
    {x : σ} {u : LastUpdate} {c : Option Condition} {m : String} {t : Instant}
    (hlast : LifecycleStatus.lastUpdate x = u.record c m t) (hchange : u.condition ≠ c)
    (ht : t.Representable) (hhash : LifecycleStatus.hash x < 2 ^ 64) :
    Recorded.read read (document x) =
      some ⟨LifecycleStatus.state x, u.record c m t, LifecycleStatus.hash x⟩ := by
  rw [Recorded.read_of_ok (hround x hhash (hlast ▸ LastUpdate.exact_record_of_ne hchange ht)), hlast]

end Recorded

namespace Backoff

theorem next_of_failure {recorded : Json → Option Recorded} {hash : Nat} {b : Backoff}
    {v : Json} {o : Recorded} {t : Instant} {message : String}
    {answer : Except OperatorError Requeue} {after : Option Json} {failedDoc escalatedDoc : Json}
    (hread : recorded v = some o) (hhash : o.hash = hash) (hholds : b.Holds o.state o.lastUpdate)
    (hresync : b ≠ .failed)
    (hfailed : o.lastUpdate.condition ≠ some .error →
      recorded failedDoc = some ⟨.updating, o.lastUpdate.record (some .error) message t, hash⟩)
    (hescalated : o.lastUpdate.condition = some .error →
      recorded escalatedDoc = some ⟨.failed, o.lastUpdate.record (some .failed) message t, hash⟩)
    (houtcome : match failureDecision o.lastUpdate t with
      | .escalate => answer = .ok .never ∧ after = some escalatedDoc
      | .retry wait => answer = .ok (.after wait) ∧
        after = if o.lastUpdate.condition ≠ some .error then some failedDoc else some v) :
    Planned recorded (b.next t).1 answer (some v) after ∧
      (b.next t).2.Tracks recorded hash after := by
  cases b with
  | fresh =>
    obtain ⟨-, fresh⟩ := hholds
    rw [failureDecision_eq, if_neg fresh] at houtcome
    obtain ⟨hanswer, hafter⟩ := houtcome
    rw [if_pos fresh] at hafter
    have begun := LastUpdate.record_time_of_ne message t fresh
    exact ⟨⟨hanswer, failedDoc, _, hafter, hfailed fresh, rfl, rfl, begun⟩,
      failedDoc, _, hafter, hfailed fresh, rfl, rfl, rfl, begun⟩
  | failingSince since =>
    obtain ⟨updating, error, htime⟩ := hholds
    have elapsed : o.lastUpdate.secondsIn t = since.secondsUntil t := by
      simp [LastUpdate.secondsIn, htime]
    rw [failureDecision_eq, if_pos error, elapsed] at houtcome
    dsimp only [next]
    by_cases cut : since.secondsUntil t < 1800
    · rw [if_neg (by unfold maxRetryDuration; omega)] at houtcome
      obtain ⟨hanswer, hafter⟩ := houtcome
      rw [if_neg (not_not_intro error)] at hafter
      rw [if_pos cut]
      exact ⟨⟨hanswer, hafter⟩, v, o, hafter, hread, hhash, updating, error, htime⟩
    · rw [if_pos (by unfold maxRetryDuration; omega)] at houtcome
      obtain ⟨hanswer, hafter⟩ := houtcome
      rw [if_neg cut]
      have begun := LastUpdate.record_time_of_ne message t
        (show o.lastUpdate.condition ≠ some .failed by rw [error]; decide)
      exact ⟨⟨hanswer, escalatedDoc, _, hafter, hescalated error, rfl, rfl, begun⟩,
        escalatedDoc, _, hafter, hescalated error, rfl, rfl⟩
  | failed => exact absurd rfl hresync

end Backoff

/-! ## A failing reconcile, for any engine -/

namespace Backoff

open LifecycleStatus

theorem step_of_recordFailed {ρ σ ε : Type} [DecidableEq σ] [LifecycleStatus σ]
    {observe : ControllerM (Observation σ)} {store : σ → ControllerM ρ} {ready : Cluster → Prop}
    {view : Cluster → Option Json} {document : σ → Json} {read : Json → Except ε σ}
    {r : ρ} {st : σ} {e : OperatorError} {s : Controller} {b : Backoff} {v : Json}
    (hstores : Engine.Stores store ready view document)
    (hround : ∀ x, LifecycleStatus.hash x < 2 ^ 64 → (lastUpdate x).Exact → read (document x) = .ok x)
    (hready : ready s.cluster) (hseen : ∃ seen, observe.run.run s = (.ok seen, s))
    (hclock : s.clock.Representable) (hview : view s.cluster = some v) (hread : read v = .ok st)
    (hholds : b.Holds (state st) (lastUpdate st)) (hresync : b ≠ .failed)
    (hhash : LifecycleStatus.hash st < 2 ^ 64) :
    let result := (Engine.recordFailed observe store r (withState st .updating) st e).run.run s
    Planned (Recorded.read read) (b.next s.clock).1 result.1 (view s.cluster)
        (view result.2.cluster) ∧
      (b.next s.clock).2.Tracks (Recorded.read read) (LifecycleStatus.hash st) (view result.2.cluster) := by
  obtain ⟨seen, hseen⟩ := hseen
  have hstate : state st ≠ .failed := by
    rcases hholds.resyncs hresync with h | h <;> rw [h] <;> decide
  have outcome := Engine.recordFailed_outcome hstores r (withState st .updating) e hready hseen
    hstate
  dsimp only at outcome
  intro result
  rw [hview] at outcome ⊢
  refine @next_of_failure _ _ _ _ _ _ e.message _ _ _ _ (Recorded.read_of_ok hread) rfl hholds
    hresync (fun fresh => ?_) (fun error => ?_) outcome
  · -- the error, recorded anew, reads back
    rw [Recorded.read_of_record hround (lastUpdate_withLastUpdate _ _) fresh hclock
      (by simpa using hhash)]
    simp
  · -- so does the escalation, which replaces the error
    rw [Recorded.read_of_record hround (lastUpdate_withLastUpdate _ _) (by rw [error]; decide)
      hclock (by simpa using hhash)]
    simp

theorem follows_schedule {recorded : Json → Option Recorded} {hash : Nat}
    {view : Cluster → Option Json}
    {steps : List (Controller × Except OperatorError Requeue × Controller)}
    (hstep : ∀ step ∈ steps, ∀ b : Backoff, b.Tracks recorded hash (view step.1.cluster) →
      Planned recorded (b.next step.1.clock).1 step.2.1 (view step.1.cluster)
          (view step.2.2.cluster) ∧
        (b.next step.1.clock).2.Tracks recorded hash (view step.2.2.cluster))
    (hchain : steps.IsChain fun a b => view b.1.cluster = view a.2.2.cluster) (b : Backoff)
    (hstart : ∀ first ∈ steps.head?, b.Tracks recorded hash (view first.1.cluster)) :
    Scheduled recorded view b steps := by
  induction steps generalizing b with
  | nil => exact List.Forall₂.nil
  | cons step rest ih =>
    obtain ⟨planned, tracks⟩ := hstep step List.mem_cons_self b (hstart step rfl)
    refine List.Forall₂.cons planned (ih (fun s hs => hstep s (List.mem_cons_of_mem _ hs))
      hchain.tail _ fun next hnext => ?_)
    -- the next reconcile starts with the status this one left
    cases rest with
    | nil => cases hnext
    | cons next' rest' =>
      cases hnext
      rw [List.isChain_cons_cons] at hchain
      rw [hchain.1]
      exact tracks

end Backoff

/-! ## Runs of failing reconciles -/

namespace Reconcile

open Controller

theorem reconcile_backoff_step {setup : ReconcilerSetup} {family : DriverKind} {ns name : String}
    {c : Controller} {config : ResolvedConfig} {r : DriverResource} {b : Backoff}
    (hprep : Prepared setup family ns name c.cluster config r)
    (hforce : r.spec.forceUpdate = false)
    (hstuck : r.status.map (·.state) ≠ some .failed → ∃ r', Stuck setup c.cluster config r r')
    (hclock : c.clock.Representable)
    (htrack : b.Tracks (Recorded.read DriverStatus.read) (Digest.fingerprint r.specText)
      (Cluster.statusAt c.cluster (Cluster.keyFor (.driver family) (some ns) name))) :
    let key := Cluster.keyFor (.driver family) (some ns) name
    let result := (reconcile setup family ns name).run.run c
    Planned (Recorded.read DriverStatus.read) (b.next c.clock).1 result.1
        (Cluster.statusAt c.cluster key) (Cluster.statusAt result.2.cluster key) ∧
      (b.next c.clock).2.Tracks (Recorded.read DriverStatus.read) (Digest.fingerprint r.specText)
        (Cluster.statusAt result.2.cluster key) := by
  intro key result
  obtain ⟨v, o, hv, ho, hhash, hholds⟩ := htrack
  obtain ⟨j, hfound, hreadj⟩ := hprep.stored
  obtain ⟨st, hst, rfl⟩ := Recorded.read_eq_some ho
  have hstatus : r.status = some st := by
    refine DriverResource.status_of_read hreadj ?_ hst
    simpa [Cluster.statusAt, hfound] using hv
  replace hhash : st.driverHash = Digest.fingerprint r.specText := hhash
  have hinput : ResourceKind.isInput key.kind := trivial
  by_cases hb : b = .failed
  · -- a failed installation is left alone
    subst hb
    replace hholds : st.state = .failed := hholds
    have hrun : result = (.ok .never, { c with attempts := c.attempts + 1 }) := by
      simp only [result, reconcile_of_prepared hprep, hstatus, Option.getD_some, hhash, hholds,
        hforce, bne_self_eq_false, Path.decide, Bool.or_self, Bool.false_eq_true, if_false]
    rw [hrun]
    exact ⟨⟨rfl, rfl⟩, v, _, hv, ho, hhash, hholds⟩
  · -- any other phase resyncs, and the convergence fails
    have hresync : st.state = .none ∨ st.state = .updating := hholds.resyncs hb
    have hpath : Path.decide st.state false false = .resync := by
      rcases hresync with h | h <;> rw [h] <;> rfl
    obtain ⟨r', hstuck⟩ := hstuck (by
      rw [hstatus]
      rcases hresync with h | h <;> simp [h])
    obtain ⟨e, s, hclock', hkeeps, hrun⟩ :=
      reconcile_of_stuck hprep hstuck hforce hstatus hhash hpath
    obtain ⟨hfamily, as, hmeta⟩ := applyDefaults_shape hstuck.initialized
    have hkey : Cluster.keyOf (.driver r'.family) r'.toJson = key := by
      rw [hfamily, DriverResource.keyOf_of_annotations _ hmeta,
        DriverResource.family_of_read hreadj, hprep.keyed]
    have hready : StatusPlace r' s.cluster := by
      refine ⟨hkeeps.online.trans hprep.online, ?_, j, ?_⟩
      · rw [hkeeps.failing, hfamily]
        exact hstuck.writable
      · rw [hkey, hkeeps.objects key hinput]
        exact hfound
    have hview : Cluster.statusAt s.cluster (Cluster.keyOf (.driver r'.family) r'.toJson) =
        some v := by
      rw [hkey, hkeeps.statusAt hinput]
      exact hv
    have hbound : LifecycleStatus.hash st < 2 ^ 64 := by
      rw [show LifecycleStatus.hash st = st.driverHash from rfl, hhash]
      exact Digest.fingerprint_lt _
    have step := Backoff.step_of_recordFailed (r := r') (e := e) (storeStatus_stores r')
      (fun x h₁ h₂ => DriverStatus.read_toJson ⟨h₁, h₂⟩) hready
      (observation_answers r' config.controllerHA s) (hclock' ▸ hclock) hview hst hholds hb hbound
    rw [hkey, hclock', hkeeps.statusAt hinput,
      show LifecycleStatus.hash st = Digest.fingerprint r.specText from hhash] at step
    simp only [result, hrun]
    exact step

end Reconcile

namespace Proxy

open Controller

theorem reconcile_backoff_step {ns name : String} {c : Controller} {p : ProxyResource}
    {b : Backoff} (hstored : Stored ns name c.cluster p)
    (hstuck : p.status.map (·.state) ≠ some .failed → Stuck c.cluster p)
    (hclock : c.clock.Representable)
    (htrack : b.Tracks (Recorded.read ProxyStatus.read) (Digest.fingerprint p.specText)
      (Cluster.statusAt c.cluster (Cluster.keyFor .reverseProxy (some ns) name))) :
    let key := Cluster.keyFor .reverseProxy (some ns) name
    let result := (reconcile ns name).run.run c
    Planned (Recorded.read ProxyStatus.read) (b.next c.clock).1 result.1
        (Cluster.statusAt c.cluster key) (Cluster.statusAt result.2.cluster key) ∧
      (b.next c.clock).2.Tracks (Recorded.read ProxyStatus.read) (Digest.fingerprint p.specText)
        (Cluster.statusAt result.2.cluster key) := by
  intro key result
  obtain ⟨v, o, hv, ho, hhash, hholds⟩ := htrack
  obtain ⟨j, hfound, hreadj⟩ := hstored.stored
  obtain ⟨st, hst, rfl⟩ := Recorded.read_eq_some ho
  have hstatus : p.status = some st := by
    refine ProxyResource.status_of_read hreadj ?_ hst
    simpa [Cluster.statusAt, hfound] using hv
  replace hhash : st.proxyHash = Digest.fingerprint p.specText := hhash
  have hinput : ResourceKind.isInput key.kind := trivial
  by_cases hb : b = .failed
  · -- a failed proxy is left alone
    subst hb
    replace hholds : st.state = .failed := hholds
    have hrun : result = (.ok .never, { c with attempts := c.attempts + 1 }) := by
      simp only [result, reconcile_of_stored hstored, hstatus, Option.getD_some, hhash, hholds,
        bne_self_eq_false, Path.decide, Bool.or_self, Bool.false_eq_true, if_false]
    rw [hrun]
    exact ⟨⟨rfl, rfl⟩, v, _, hv, ho, hhash, hholds⟩
  · -- any other phase resyncs, and the convergence fails
    have hresync : st.state = .none ∨ st.state = .updating := hholds.resyncs hb
    have hpath : Path.decide st.state false false = .resync := by
      rcases hresync with h | h <;> rw [h] <;> rfl
    have hstuck := hstuck (by
      rw [hstatus]
      rcases hresync with h | h <;> simp [h])
    obtain ⟨e, s, hclock', hkeeps, hrun⟩ := reconcile_of_stuck hstored hstuck hstatus hhash hpath
    have hready : StatusPlace p s.cluster := by
      refine ⟨hkeeps.online.trans hstored.online, ?_, j, ?_⟩
      · rw [hkeeps.failing]
        exact hstuck.writable
      · rw [hstored.keyed, hkeeps.objects key hinput]
        exact hfound
    have hview : Cluster.statusAt s.cluster (Cluster.keyOf .reverseProxy p.toJson) = some v := by
      rw [hstored.keyed, hkeeps.statusAt hinput]
      exact hv
    have hbound : LifecycleStatus.hash st < 2 ^ 64 := by
      rw [show LifecycleStatus.hash st = st.proxyHash from rfl, hhash]
      exact Digest.fingerprint_lt _
    have step := Backoff.step_of_recordFailed (r := p) (e := e) (storeStatus_stores p)
      (fun x h₁ h₂ => ProxyStatus.read_toJson ⟨h₁, h₂⟩) hready (observation_answers ns s)
      (hclock' ▸ hclock) hview hst hholds hb hbound
    rw [hstored.keyed, hclock', hkeeps.statusAt hinput,
      show LifecycleStatus.hash st = Digest.fingerprint p.specText from hhash] at step
    simp only [result, hrun]
    exact step

end Proxy

/-! ## The backoff of both engines -/

namespace Reconcile

open Controller

/-- A reconcile of a driver instance that keeps failing, as the backoff sees it: the clock reads
an instant a status records exactly, and the instance it reads is prepared, with the spec
`spec`; when its recorded state asks for a resync, initializing the spec changes nothing,
validation passes, converging fails and the status can be written. -/
structure Failing (setup : ReconcilerSetup) (family : DriverKind) (ns name : String)
    (spec : DriverSpec) (c : Controller) : Prop where
  clock : c.clock.Representable
  prepared : ∃ config r, Prepared setup family ns name c.cluster config r ∧ r.spec = spec ∧
    (r.status.map (·.state) ≠ some .failed → ∃ r', Stuck setup c.cluster config r r')

theorem failing_run_follows_schedule {setup : ReconcilerSetup} {family : DriverKind}
    {ns name : String} {spec : DriverSpec} (hforce : spec.forceUpdate = false)
    {steps : List (Controller × Except OperatorError Requeue × Controller)}
    (hrun : RunOf (reconcile setup family ns name)
      (Cluster.statusAt · (Cluster.keyFor (.driver family) (some ns) name)) steps)
    (hfailing : ∀ step ∈ steps, Failing setup family ns name spec step.1) (b : Backoff)
    (hstart : ∀ first ∈ steps.head?, b.Tracks (Recorded.read DriverStatus.read)
      (Digest.fingerprint (Json.compact spec.specJson))
      (Cluster.statusAt first.1.cluster (Cluster.keyFor (.driver family) (some ns) name))) :
    b.Scheduled (Recorded.read DriverStatus.read)
      (Cluster.statusAt · (Cluster.keyFor (.driver family) (some ns) name)) steps := by
  refine Backoff.follows_schedule (fun step hmem b htrack => ?_) hrun.chained b hstart
  obtain ⟨hclock, config, r, hprep, hspec, hstuck⟩ := hfailing step hmem
  subst hspec
  have hstep := reconcile_backoff_step hprep hforce hstuck hclock htrack
  rw [hrun.runs step hmem] at hstep
  exact hstep

end Reconcile

namespace Proxy

open Controller

/-- A reconcile of a proxy that keeps failing, as the backoff sees it: the clock reads an instant
a status records exactly, and the proxy it reads is stored under its own key, with the spec
`spec`; when its recorded state asks for a resync, validation passes, converging fails and the
status can be written. -/
structure Failing (ns name : String) (spec : ProxySpec) (c : Controller) : Prop where
  clock : c.clock.Representable
  stored : ∃ p, Stored ns name c.cluster p ∧ p.spec = spec ∧
    (p.status.map (·.state) ≠ some .failed → Stuck c.cluster p)

theorem failing_run_follows_schedule {ns name : String} {spec : ProxySpec}
    {steps : List (Controller × Except OperatorError Requeue × Controller)}
    (hrun : RunOf (reconcile ns name)
      (Cluster.statusAt · (Cluster.keyFor .reverseProxy (some ns) name)) steps)
    (hfailing : ∀ step ∈ steps, Failing ns name spec step.1) (b : Backoff)
    (hstart : ∀ first ∈ steps.head?, b.Tracks (Recorded.read ProxyStatus.read)
      (Digest.fingerprint (Json.compact spec.toJson))
      (Cluster.statusAt first.1.cluster (Cluster.keyFor .reverseProxy (some ns) name))) :
    b.Scheduled (Recorded.read ProxyStatus.read)
      (Cluster.statusAt · (Cluster.keyFor .reverseProxy (some ns) name)) steps := by
  refine Backoff.follows_schedule (fun step hmem b htrack => ?_) hrun.chained b hstart
  obtain ⟨hclock, p, hstored, hspec, hstuck⟩ := hfailing step hmem
  subst hspec
  have hstep := reconcile_backoff_step hstored hstuck hclock htrack
  rw [hrun.runs step hmem] at hstep
  exact hstep

end Proxy

/-- Reconciles that keep failing back off on the schedule, for driver instances and proxies
alike: from the phase the first stored status stands for, every answer and every stored status
of the run is the one `Backoff.schedule` plans at the instants the reconciles start. -/
theorem failing_reconciles_back_off :
    (∀ (setup : ReconcilerSetup) (family : DriverKind) (ns name : String) (spec : DriverSpec)
        (steps : List (Controller × Except OperatorError Requeue × Controller)) (b : Backoff),
      spec.forceUpdate = false →
      Controller.RunOf (Reconcile.reconcile setup family ns name)
        (Cluster.statusAt · (Cluster.keyFor (.driver family) (some ns) name)) steps →
      (∀ step ∈ steps, Reconcile.Failing setup family ns name spec step.1) →
      (∀ first ∈ steps.head?, b.Tracks (Recorded.read DriverStatus.read)
        (Digest.fingerprint (Json.compact spec.specJson))
        (Cluster.statusAt first.1.cluster (Cluster.keyFor (.driver family) (some ns) name))) →
      b.Scheduled (Recorded.read DriverStatus.read)
        (Cluster.statusAt · (Cluster.keyFor (.driver family) (some ns) name)) steps) ∧
    (∀ (ns name : String) (spec : ProxySpec)
        (steps : List (Controller × Except OperatorError Requeue × Controller)) (b : Backoff),
      Controller.RunOf (Proxy.reconcile ns name)
        (Cluster.statusAt · (Cluster.keyFor .reverseProxy (some ns) name)) steps →
      (∀ step ∈ steps, Proxy.Failing ns name spec step.1) →
      (∀ first ∈ steps.head?, b.Tracks (Recorded.read ProxyStatus.read)
        (Digest.fingerprint (Json.compact spec.toJson))
        (Cluster.statusAt first.1.cluster (Cluster.keyFor .reverseProxy (some ns) name))) →
      b.Scheduled (Recorded.read ProxyStatus.read)
        (Cluster.statusAt · (Cluster.keyFor .reverseProxy (some ns) name)) steps) :=
  ⟨fun _ _ _ _ _ _ b hforce hrun hfailing hstart =>
      Reconcile.failing_run_follows_schedule hforce hrun hfailing b hstart,
    fun _ _ _ _ b hrun hfailing hstart => Proxy.failing_run_follows_schedule hrun hfailing b hstart⟩

/-! ## Installations the server refuses

A PowerStore driver instance whose ClusterRole the server refuses to create, and a proxy whose
ConfigMap it refuses to create, each stored as updating for its current spec with no error
recorded yet. -/

namespace Refused

def driverConfig : ResolvedConfig :=
  { configVersion := "v3", driverVersion := "powerstore_v3_v120", kubeVersion := "v120" }

def setup : ReconcilerSetup := { source := .fixed (some driverConfig) }

def driverSpec : DriverSpec := { configVersion := "v3", replicas := 1, common := { image := "i" } }

def driver : DriverResource where
  family := .powerStore
  metadata := .obj [("annotations", .obj [("storage.dell.com/CSIDriverConfigVersion", .str "v3")]),
    ("finalizers", .arr [.str "finalizer.dell.emc.com"]), ("name", .str "d"),
    ("namespace", .str "ns")]
  spec := driverSpec
  status := some { driverHash := 6242903749412655361, state := .updating }

def driverStart : Controller where
  cluster :=
    { objects := [(Cluster.keyFor (.driver .powerStore) (some "ns") "d", driver.toJson)],
      failures := [⟨.create, .clusterRole, "quota exceeded"⟩] }
  clock := .ofSeconds 1700000000

def proxySpec : ProxySpec :=
  { image := "i", tlsSecret := "tls",
    config := { linkConfig := some { primary := { url := "x:y", skipCertificateValidation := true } } } }

def proxy : ProxyResource where
  metadata := .obj [("name", .str "p"), ("namespace", .str "ns")]
  spec := proxySpec
  status := some { proxyHash := 14202204240202569276, state := .updating }

def proxyStart : Controller where
  cluster :=
    { objects := [(Cluster.keyFor .reverseProxy (some "ns") "p", proxy.toJson),
        (Cluster.keyFor .secret (some "ns") "tls",
          .obj [("kind", .str "Secret"), ("metadata", .obj [("name", .str "tls"), ("namespace", .str "ns")])])],
      failures := [⟨.create, .configMap, "quota exceeded"⟩] }
  clock := .ofSeconds 1700000000

end Refused

/-- The first reconcile of each refused installation records the error and asks for a retry
after five seconds. -/
theorem refused_installations_back_off :
    Reconcile.Failing Refused.setup .powerStore "ns" "d" Refused.driverSpec Refused.driverStart ∧
    Backoff.fresh.Scheduled (Recorded.read DriverStatus.read)
      (Cluster.statusAt · (Cluster.keyFor (.driver .powerStore) (some "ns") "d"))
      [(Refused.driverStart,
        (Reconcile.reconcile Refused.setup .powerStore "ns" "d").run.run Refused.driverStart)] ∧
    Proxy.Failing "ns" "p" Refused.proxySpec Refused.proxyStart ∧
    Backoff.fresh.Scheduled (Recorded.read ProxyStatus.read)
      (Cluster.statusAt · (Cluster.keyFor .reverseProxy (some "ns") "p"))
      [(Refused.proxyStart, (Proxy.reconcile "ns" "p").run.run Refused.proxyStart)] := by
  have driverFailing : Reconcile.Failing Refused.setup .powerStore "ns" "d" Refused.driverSpec
      Refused.driverStart := by
    refine ⟨by decide, _, Refused.driver, ⟨rfl, ⟨_, rfl, rfl⟩, by decide +kernel, by decide +kernel,
      by decide +kernel, rfl, ⟨_, rfl⟩⟩, rfl, fun _ => ⟨Refused.driver, rfl, rfl, by decide +kernel,
      ⟨_, rfl⟩, rfl⟩⟩
  have proxyFailing : Proxy.Failing "ns" "p" Refused.proxySpec Refused.proxyStart :=
    ⟨by decide, Refused.proxy, ⟨rfl, ⟨_, rfl, rfl⟩, by decide +kernel⟩, rfl,
      fun _ => ⟨by decide +kernel, ⟨_, rfl⟩, rfl⟩⟩
  refine ⟨driverFailing, failing_reconciles_back_off.1 Refused.setup .powerStore "ns" "d"
      Refused.driverSpec _ .fresh rfl ⟨List.forall_mem_singleton.2 rfl, List.isChain_singleton _⟩
      (List.forall_mem_singleton.2 driverFailing) ?_,
    proxyFailing, failing_reconciles_back_off.2 "ns" "p" Refused.proxySpec _ .fresh
      ⟨List.forall_mem_singleton.2 rfl, List.isChain_singleton _⟩
      (List.forall_mem_singleton.2 proxyFailing) ?_⟩
  · rintro _ ⟨⟩
    exact ⟨_, _, rfl, rfl, by decide +kernel, .inr rfl, by decide⟩
  · rintro _ ⟨⟩
    exact ⟨_, _, rfl, rfl, by decide +kernel, .inr rfl, by decide⟩

end CsiOperator
