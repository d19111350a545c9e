import Mathlib
import CsiOperator.Proofs.FailureBackoff
/-!
What a stored error stands for.

A failed convergence records the condition `Error`, begun at the clock, and a later failed
convergence keeps it, so that its time counts from the first failure. The time is kept only while
nothing else is written: a successful convergence records `Running` or `Succeeded` in its place,
a provisional status records `Updating`, an invalid configuration `InvalidConfig`, and a state
check the state it observed. So while a status recording an error begun at `t0` is shown, every
convergence of the instance from `t0` on failed, and every convergence recorded began before the
instant the clock reads next (`ErrorsBacked`).

A reconcile keeps this (`Backs`): it runs at most one convergence, of its own instance, at the
clock, and then reads the clock; an error it leaves shown was shown before or is the one it
recorded, begun at that convergence, which failed; and a failed status it writes escalates the
error the reconcile read, half an hour or more old. The handlers are shared by both engines, so
their lemmas are proved once, for every engine whose store shows what it stores (`Places`) and
whose own steps leave the clock alone (`Engine.Clocked`). Steps that record no outcome, such as
writing a spec back, are `Quiet`.
-/

namespace CsiOperator

open Controller LifecycleStatus

/-! ## The order of instants -/

namespace Instant

theorem le_iff {a b : Instant} :
    a ≤ b ↔ a.seconds < b.seconds ∨ (a.seconds = b.seconds ∧ a.frac ≤ b.frac) := Iff.rfl

theorem lt_iff {a b : Instant} :
    a < b ↔ a.seconds < b.seconds ∨ (a.seconds = b.seconds ∧ a.frac < b.frac) := Iff.rfl

/-- Instants are ordered by second, then by fraction. -/
instance : LinearOrder Instant where
  le_refl a := le_iff.2 (.inr ⟨rfl, Nat.le_refl _⟩)
  le_trans a b c hab hbc := by
    rw [le_iff] at *
    omega
  le_antisymm a b hab hba := by
    rw [le_iff] at hab hba
    ext <;> omega
  le_total a b := by
    rw [le_iff, le_iff]
    omega
  lt_iff_le_not_ge a b := by
    rw [lt_iff, le_iff, le_iff]
    omega
  toDecidableLE := inferInstance

theorem lt_tick (t : Instant) : t < t.tick := by
  rw [lt_iff]
  unfold tick
  split_ifs <;> dsimp only <;> omega

end Instant

/-! ## Errors shown -/

/-- A last update records the condition `Error`, begun at `t0`. -/
def LastUpdate.ErrorSince (u : LastUpdate) (t0 : Instant) : Prop :=
  u.condition = some .error ∧ u.time = some t0

/-- The status shown at a place reads back recording the condition `Error`, begun at `t0`. -/
def ShowsError (recorded : Json → Option Recorded) (shown : Option Json) (t0 : Instant) : Prop :=
  ∃ v o, shown = some v ∧ recorded v = some o ∧ o.lastUpdate.ErrorSince t0

section Documents

variable {σ : Type} [LifecycleStatus σ]

/-- Documents of statuses that, when they read back, read with the last update their own member
reads as: a condition written is read back or lost, never another one. -/
def ReadsLastUpdate (recorded : Json → Option Recorded) (document : σ → Json) : Prop :=
  ∀ x o, recorded (document x) = some o →
    o.lastUpdate = (LastUpdate.read (lastUpdate x).toJson).toOption.getD {}

theorem ReadsLastUpdate.errorSince {recorded : Json → Option Recorded} {document : σ → Json}
    (h : ReadsLastUpdate recorded document) {x : σ} {t0 : Instant}
    (hshows : ShowsError recorded (some (document x)) t0) :
    (lastUpdate x).condition = some .error ∧ ((lastUpdate x).Exact → (lastUpdate x).time = some t0) := by
  obtain ⟨v, o, hv, ho, hcond, htime⟩ := hshows
  obtain rfl := Option.some.inj hv
  rw [h x o ho] at hcond htime
  cases hu : LastUpdate.read (lastUpdate x).toJson with
  | error _ =>
    -- a last update that does not read is lost, and records no condition
    rw [hu] at hcond
    cases hcond
  | ok u =>
    rw [hu] at hcond htime
    refine ⟨(LastUpdate.condition_of_read_toJson hu) ▸ hcond, fun hexact => ?_⟩
    rw [LastUpdate.read_toJson hexact] at hu
    cases hu
    exact htime

theorem ReadsLastUpdate.not_showsError {recorded : Json → Option Recorded} {document : σ → Json}
    (h : ReadsLastUpdate recorded document) {x : σ} (hx : (lastUpdate x).condition ≠ some .error)
    (t0 : Instant) : ¬ShowsError recorded (some (document x)) t0 :=
  fun hshows => hx (h.errorSince hshows).1

end Documents

theorem DriverStatus.readsLastUpdate :
    ReadsLastUpdate (Recorded.read DriverStatus.read) DriverStatus.toJson := by
  intro x o ho
  obtain ⟨st, hst, rfl⟩ := Recorded.read_eq_some ho
  exact (DriverStatus.parts_of_read_toJson hst).2

theorem ProxyStatus.readsLastUpdate :
    ReadsLastUpdate (Recorded.read ProxyStatus.read) ProxyStatus.toJson := by
  intro x o ho
  obtain ⟨st, hst, rfl⟩ := Recorded.read_eq_some ho
  exact (ProxyStatus.parts_of_read_toJson hst).2

theorem Condition.ofState?_ne_error (st : DriverState) : Condition.ofState? st ≠ some .error := by
  cases st <;> simp [Condition.ofState?]

/-! ## Runs that record no outcome -/

/-- A run that changed nothing but the cluster. -/
def OnlyCluster (s s' : Controller) : Prop :=
  s'.clock = s.clock ∧ s'.converged = s.converged ∧ s'.statusWrites = s.statusWrites

instance : Std.Refl OnlyCluster := ⟨fun _ => ⟨rfl, rfl, rfl⟩⟩

instance : IsTrans Controller OnlyCluster :=
  ⟨fun _ _ _ h₁ h₂ => ⟨h₂.1.trans h₁.1, h₂.2.1.trans h₁.2.1, h₂.2.2.trans h₁.2.2⟩⟩

/-- A run that changed nothing but the cluster, and there not what is shown at a place. -/
def KeepsShown (view : Cluster → Option Json) (s s' : Controller) : Prop :=
  OnlyCluster s s' ∧ view s'.cluster = view s.cluster

instance (view : Cluster → Option Json) : Std.Refl (KeepsShown view) :=
  ⟨fun s => ⟨Std.Refl.refl s, rfl⟩⟩

instance (view : Cluster → Option Json) : IsTrans Controller (KeepsShown view) :=
  ⟨fun _ _ _ h₁ h₂ => ⟨IsTrans.trans _ _ _ h₁.1 h₂.1, h₂.2.trans h₁.2⟩⟩

theorem onCluster_only {α : Type} (m : ClusterM α) : Stays OnlyCluster (onCluster m) :=
  fun _ => ⟨rfl, rfl, rfl⟩

theorem onCluster_keepsShown {α : Type} {view : Cluster → Option Json} {m : ClusterM α}
    (h : ∀ c, view (m.run.run c).2 = view c) : Stays (KeepsShown view) (onCluster m) :=
  fun s => ⟨⟨rfl, rfl, rfl⟩, h s.cluster⟩

/-- A run that runs no convergence and writes no failed status, whose clock does not go back, and
after which an error shown at a place was shown before. -/
structure Quiet (recorded : Json → Option Recorded) (view : Cluster → Option Json)
    (s s' : Controller) : Prop where
  clock : s.clock ≤ s'.clock
  converged : s'.converged = s.converged
  written : ∃ ws, s'.statusWrites = s.statusWrites ++ ws ∧ ∀ w ∈ ws, w.state ≠ .failed
  shown : ∀ t0, ShowsError recorded (view s'.cluster) t0 → ShowsError recorded (view s.cluster) t0

section Quiet

variable {recorded : Json → Option Recorded} {view : Cluster → Option Json}

instance : Std.Refl (Quiet recorded view) :=
  ⟨fun _ => ⟨le_refl _, rfl, ⟨[], by simp, by simp⟩, fun _ h => h⟩⟩

instance : IsTrans Controller (Quiet recorded view) :=
  ⟨fun _ _ _ h₁ h₂ => by
    obtain ⟨ws₁, hws₁, hnot₁⟩ := h₁.written
    obtain ⟨ws₂, hws₂, hnot₂⟩ := h₂.written
    refine ⟨le_trans h₁.clock h₂.clock, h₂.converged.trans h₁.converged,
      ⟨ws₁ ++ ws₂, by rw [hws₂, hws₁, List.append_assoc], fun w hw => ?_⟩,
      fun t0 h => h₁.shown t0 (h₂.shown t0 h)⟩
    rcases List.mem_append.1 hw with hw | hw
    · exact hnot₁ w hw
    · exact hnot₂ w hw⟩

theorem KeepsShown.quiet {s s' : Controller} (h : KeepsShown view s s') : Quiet recorded view s s' :=
  ⟨h.1.1 ▸ le_refl _, h.1.2.1, ⟨[], by simp [h.1.2.2], by simp⟩, fun t0 hshows => h.2 ▸ hshows⟩

end Quiet

/-! ## What a reconcile keeps -/

/-- What a reconcile from `s` to `s'` that ran the convergences `added` and wrote the statuses
`written` keeps of the errors shown at a place and of the convergences of `key`, the instance
stored there: the clock does not go back; each convergence it ran is of `key` and began before
the clock it leaves; an error it leaves shown was shown before or began no earlier than the
reconcile, and each convergence it ran from the error's beginning on failed; and each failed
status it wrote escalates an error that `began`, half an hour or more before the failed status's
time, after every convergence it ran failed. -/
structure Backs (recorded : Json → Option Recorded) (view : Cluster → Option Json)
    (key : Cluster.Key) (began : Instant → Prop) (s s' : Controller) (added : List Convergence)
    (written : List StatusWrite) : Prop where
  clock : s.clock ≤ s'.clock
  converged : s'.converged = s.converged ++ added
  statusWrites : s'.statusWrites = s.statusWrites ++ written
  begun : ∀ cv ∈ added, cv.key = key ∧ cv.clock < s'.clock
  shown : ∀ t0, ShowsError recorded (view s'.cluster) t0 →
    (ShowsError recorded (view s.cluster) t0 ∨ s.clock ≤ t0) ∧
      ∀ cv ∈ added, t0 ≤ cv.clock → cv.ok = false
  escalations : ∀ w ∈ written, w.state = .failed → ∃ t0 t, began t0 ∧ w.lastUpdate.time = some t ∧
    maxRetryDuration ≤ t0.secondsUntil t ∧ ∀ cv ∈ added, cv.ok = false

section Backs

variable {recorded : Json → Option Recorded} {view : Cluster → Option Json} {key : Cluster.Key}
  {began : Instant → Prop} {s s₁ s' : Controller} {added : List Convergence}
  {written : List StatusWrite}

theorem Backs.mono {began' : Instant → Prop}
    (h : Backs recorded view key began s s' added written) (hb : ∀ t0, began t0 → began' t0) :
    Backs recorded view key began' s s' added written :=
  { h with
    escalations := fun w hw hfailed => by
      obtain ⟨t0, t, hbegan, rest⟩ := h.escalations w hw hfailed
      exact ⟨t0, t, hb t0 hbegan, rest⟩ }

theorem Quiet.backs (h : Quiet recorded view s s') :
    ∃ written, Backs recorded view key began s s' [] written := by
  obtain ⟨ws, hws, hnot⟩ := h.written
  exact ⟨ws, h.clock, by simp [h.converged], hws, by simp,
    fun t0 hshows => ⟨.inl (h.shown t0 hshows), by simp⟩, fun w hw hfailed => absurd hfailed (hnot w hw)⟩

theorem Quiet.backs_trans (h₁ : Quiet recorded view s s₁)
    (h₂ : Backs recorded view key began s₁ s' added written) :
    ∃ written', Backs recorded view key began s s' added written' := by
  obtain ⟨ws, hws, hnot⟩ := h₁.written
  refine ⟨ws ++ written, le_trans h₁.clock h₂.clock, by rw [h₂.converged, h₁.converged],
    by rw [h₂.statusWrites, hws, List.append_assoc], h₂.begun, fun t0 hshows => ?_,
    fun w hw hfailed => ?_⟩
  · obtain ⟨before | late, hfailed⟩ := h₂.shown t0 hshows
    · exact ⟨.inl (h₁.shown t0 before), hfailed⟩
    · exact ⟨.inr (le_trans h₁.clock late), hfailed⟩
  · rcases List.mem_append.1 hw with hw | hw
    · exact absurd hfailed (hnot w hw)
    · exact h₂.escalations w hw hfailed

theorem Quiet.backs_trans_exists (h₁ : Quiet recorded view s s₁)
    (h₂ : ∃ added written, Backs recorded view key began s₁ s' added written) :
    ∃ added written, Backs recorded view key began s s' added written := by
  obtain ⟨added, written, hb⟩ := h₂
  obtain ⟨written', hb'⟩ := h₁.backs_trans hb
  exact ⟨added, written', hb'⟩

theorem Backs.of_outcome {cv : Convergence} {ws : List StatusWrite}
    (hconverged : s'.converged = s.converged ++ [cv]) (hkey : cv.key = key)
    (hbegun : cv.clock = s.clock) (hclock : s'.clock = s.clock.tick)
    (hwrites : s'.statusWrites = s.statusWrites ++ ws)
    (hshown : ∀ t0, ShowsError recorded (view s'.cluster) t0 →
      (ShowsError recorded (view s.cluster) t0 ∨ t0 = s.clock) ∧ cv.ok = false)
    (hesc : ∀ w ∈ ws, w.state = .failed → ∃ t0 t, began t0 ∧ w.lastUpdate.time = some t ∧
      maxRetryDuration ≤ t0.secondsUntil t ∧ cv.ok = false) :
    Backs recorded view key began s s' [cv] ws := by
  refine ⟨?_, hconverged, hwrites, ?_, fun t0 hshows => ?_, fun w hw hfailed => ?_⟩
  · rw [hclock]
    exact le_of_lt (Instant.lt_tick s.clock)
  · intro cv' hcv'
    rw [List.mem_singleton.1 hcv', hclock, hbegun]
    exact ⟨hkey, Instant.lt_tick s.clock⟩
  · obtain ⟨before | now, hfailed⟩ := hshown t0 hshows
    · exact ⟨.inl before, fun cv' hcv' _ => List.mem_singleton.1 hcv' ▸ hfailed⟩
    · exact ⟨.inr (le_of_eq now.symm), fun cv' hcv' _ => List.mem_singleton.1 hcv' ▸ hfailed⟩
  · obtain ⟨t0, t, hbegan, ht, hlong, hfailed'⟩ := hesc w hw hfailed
    exact ⟨t0, t, hbegan, ht, hlong, fun cv' hcv' => List.mem_singleton.1 hcv' ▸ hfailed'⟩

end Backs

/-! ## What a run keeps -/

/-- What a run keeps of the errors shown at a place and the convergences of `key`, the instance
stored there: each convergence of `key` began before the instant the clock reads next, and while
an error begun at `t0` is shown, each convergence of `key` from `t0` on failed. -/
structure ErrorsBacked (recorded : Json → Option Recorded) (view : Cluster → Option Json)
    (key : Cluster.Key) (s : Controller) : Prop where
  past : ∀ cv ∈ s.converged, cv.key = key → cv.clock < s.clock
  failed : ∀ t0, ShowsError recorded (view s.cluster) t0 →
    ∀ cv ∈ s.converged, cv.key = key → t0 ≤ cv.clock → cv.ok = false

/-- What may happen between two reconciles of the instance stored under `key`: anything that
keeps the status shown there, records no convergence of `key` and does not turn the clock back. -/
structure Between (view : Cluster → Option Json) (key : Cluster.Key) (s s' : Controller) :
    Prop where
  clock : s.clock ≤ s'.clock
  shown : view s'.cluster = view s.cluster
  converged : ∃ added, s'.converged = s.converged ++ added ∧ ∀ cv ∈ added, cv.key ≠ key

section ErrorsBacked

variable {recorded : Json → Option Recorded} {view : Cluster → Option Json} {key : Cluster.Key}
  {began : Instant → Prop} {s s' : Controller} {added : List Convergence}
  {written : List StatusWrite}

theorem ErrorsBacked.of_fresh (h : ∀ cv ∈ s.converged, cv.key ≠ key) :
    ErrorsBacked recorded view key s :=
  ⟨fun cv hcv hkey => absurd hkey (h cv hcv), fun _ _ cv hcv hkey => absurd hkey (h cv hcv)⟩

theorem ErrorsBacked.backs (hinv : ErrorsBacked recorded view key s)
    (hb : Backs recorded view key began s s' added written) : ErrorsBacked recorded view key s' := by
  constructor
  · intro cv hcv hkey
    rw [hb.converged] at hcv
    rcases List.mem_append.1 hcv with old | new
    · exact lt_of_lt_of_le (hinv.past cv old hkey) hb.clock
    · exact (hb.begun cv new).2
  · intro t0 hshows cv hcv hkey hle
    obtain ⟨before | late, hfailed⟩ := hb.shown t0 hshows
    · rw [hb.converged] at hcv
      rcases List.mem_append.1 hcv with old | new
      · exact hinv.failed t0 before cv old hkey hle
      · exact hfailed cv new hle
    · rw [hb.converged] at hcv
      rcases List.mem_append.1 hcv with old | new
      · exact absurd (lt_of_lt_of_le (hinv.past cv old hkey) late) (not_lt.2 hle)
      · exact hfailed cv new hle

theorem ErrorsBacked.between (hinv : ErrorsBacked recorded view key s) (hb : Between view key s s') :
    ErrorsBacked recorded view key s' := by
  obtain ⟨added, hadded, hother⟩ := hb.converged
  constructor
  · intro cv hcv hkey
    rw [hadded] at hcv
    rcases List.mem_append.1 hcv with old | new
    · exact lt_of_lt_of_le (hinv.past cv old hkey) hb.clock
    · exact absurd hkey (hother cv new)
  · intro t0 hshows cv hcv hkey hle
    rw [hb.shown] at hshows
    rw [hadded] at hcv
    rcases List.mem_append.1 hcv with old | new
    · exact hinv.failed t0 hshows cv old hkey hle
    · exact absurd hkey (hother cv new)

theorem Backs.escalation_sound (hinv : ErrorsBacked recorded view key s)
    (hb : Backs recorded view key (ShowsError recorded (view s.cluster)) s s' added written)
    {w : StatusWrite} (hw : w ∈ written) (hfailed : w.state = .failed) :
    ∃ t0 t, ShowsError recorded (view s.cluster) t0 ∧ w.lastUpdate.time = some t ∧
      maxRetryDuration ≤ t0.secondsUntil t ∧
      ∀ cv ∈ s'.converged, cv.key = key → t0 ≤ cv.clock → cv.ok = false := by
  obtain ⟨t0, t, hshows, ht, hlong, hadded⟩ := hb.escalations w hw hfailed
  refine ⟨t0, t, hshows, ht, hlong, fun cv hcv hkey hle => ?_⟩
  rw [hb.converged] at hcv
  rcases List.mem_append.1 hcv with old | new
  · exact hinv.failed t0 hshows cv old hkey hle
  · exact hadded cv new

end ErrorsBacked

/-! ## The handlers -/

theorem failureDecision_escalate {last : LastUpdate} {now : Instant}
    (h : failureDecision last now = .escalate) :
    ∃ t0, last.ErrorSince t0 ∧ maxRetryDuration ≤ t0.secondsUntil now := by
  rw [failureDecision_eq] at h
  split_ifs at h with hcond hlong
  cases htime : last.time with
  | none => simp [LastUpdate.secondsIn, htime, maxRetryDuration] at hlong
  | some t0 =>
    refine ⟨t0, ⟨hcond, htime⟩, ?_⟩
    simpa [LastUpdate.secondsIn, htime] using hlong

theorem settledState_ne_failed (running calcFailed : Bool) :
    settledState running calcFailed ≠ .failed := by
  unfold settledState
  split_ifs <;> decide

namespace Engine

variable {ρ σ : Type} [DecidableEq σ] [LifecycleStatus σ]

/-- What recording an outcome from `s` leaves at `s'`: the clock read once, no convergence run,
and the statuses `ws` written. -/
structure Recording (s s' : Controller) (ws : List StatusWrite) : Prop where
  clock : s'.clock = s.clock.tick
  converged : s'.converged = s.converged
  statusWrites : s'.statusWrites = s.statusWrites ++ ws

theorem Recording.quiet {recorded : Json → Option Recorded} {view : Cluster → Option Json}
    {s s' : Controller} {ws : List StatusWrite} (h : Recording s s' ws)
    (hws : ∀ w ∈ ws, w.state ≠ .failed)
    (hshown : ∀ t0, ShowsError recorded (view s'.cluster) t0 → ShowsError recorded (view s.cluster) t0) :
    Quiet recorded view s s' :=
  ⟨h.clock ▸ le_of_lt (Instant.lt_tick s.clock), h.converged, ⟨ws, h.statusWrites, hws⟩, hshown⟩

section Handlers

variable {store : σ → ControllerM ρ} {ready : Cluster → Prop} {view : Cluster → Option Json}
  {document : σ → Json} {recorded : Json → Option Recorded} {observe : ControllerM (Observation σ)}
  {seen : Observation σ} {r : ρ} {new old : σ} {e : OperatorError} {s : Controller}

theorem Stores.writeStatus_recording (h : Stores store ready view document)
    (honly : ∀ x, Stays OnlyCluster (store x)) (hready : ready s.cluster) (r : ρ) (x old : σ) :
    (x = old ∧
        Recording s ((writeStatus store r x old).run.run { s with clock := s.clock.tick }).2 [] ∧
        view ((writeStatus store r x old).run.run { s with clock := s.clock.tick }).2.cluster =
          view s.cluster) ∨
      (Recording s ((writeStatus store r x old).run.run { s with clock := s.clock.tick }).2
          [written x] ∧
        view ((writeStatus store r x old).run.run { s with clock := s.clock.tick }).2.cluster =
          some (document x)) := by
  rw [writeStatus_run]
  split
  · next same => exact .inl ⟨same, ⟨rfl, rfl, by simp⟩, rfl⟩
  · obtain ⟨hclock, hconverged, hwrites⟩ := honly x _
    exact .inr ⟨⟨hclock, hconverged, hwrites⟩, h.shows x _ hready⟩

variable (h : Stores store ready view document) (honly : ∀ x, Stays OnlyCluster (store x))
  (hready : ready s.cluster) (hread : ReadsLastUpdate recorded document)
  (hseen : observe.run.run s = (.ok seen, s))
include h honly hready hread hseen

theorem Stores.recordInvalid_quiet :
    Quiet recorded view s ((recordInvalid observe store r old e).run.run s).2 := by
  rw [recordInvalid_run hseen]
  rcases h.writeStatus_recording honly hready r _ old with ⟨-, hrec, hview⟩ | ⟨hrec, hview⟩
  · exact hrec.quiet (by simp) fun t0 hshows => hview ▸ hshows
  · refine hrec.quiet (by simp [written]) fun t0 hshows => ?_
    rw [hview] at hshows
    exact absurd hshows (hread.not_showsError (by simp [LastUpdate.record]) t0)

theorem Stores.recordSettled_quiet :
    Quiet recorded view s ((recordSettled observe store r new old).run.run s).2 := by
  rw [recordSettled_run hseen]
  dsimp only
  rcases h.writeStatus_recording honly hready r _ old with ⟨-, hrec, hview⟩ | ⟨hrec, hview⟩
  · exact hrec.quiet (by simp) fun t0 hshows => hview ▸ hshows
  · refine hrec.quiet (by simpa [written] using settledState_ne_failed _ _) fun t0 hshows => ?_
    rw [hview] at hshows
    exact absurd hshows (hread.not_showsError
      (by simpa [LastUpdate.record] using Condition.ofState?_ne_error _) t0)

theorem Stores.recordConverged_clears
    (hview : ∀ t0, ShowsError recorded (view s.cluster) t0 → (lastUpdate old).condition = some .error) :
    ∃ ws, Recording s ((recordConverged observe store r new old).run.run s).2 ws ∧
      (∀ w ∈ ws, w.state ≠ .failed) ∧
      ∀ t0, ¬ShowsError recorded (view ((recordConverged observe store r new old).run.run s).2.cluster) t0 := by
  rw [recordConverged_run hseen]
  dsimp only
  have hcond : ∀ st : DriverState, (lastUpdate (withLastUpdate (withState (seen.pods new) st)
      ((lastUpdate old).record (Condition.ofState? st) seen.message s.clock))).condition ≠
        some .error := fun st => by
    simpa [LastUpdate.record] using Condition.ofState?_ne_error st
  rcases h.writeStatus_recording honly hready r _ old with ⟨same, hrec, hv⟩ | ⟨hrec, hv⟩
  · refine ⟨[], hrec, by simp, fun t0 hshows => ?_⟩
    rw [hv] at hshows
    -- a status not written is `old`, and it records no error
    have hold := hview t0 hshows
    rw [← same] at hold
    exact hcond _ hold
  · refine ⟨_, hrec, fun w hw => ?_, fun t0 hshows => ?_⟩
    · rw [List.mem_singleton.1 hw]
      simp only [written, state_withLastUpdate, state_withState]
      split <;> decide
    · rw [hv] at hshows
      exact hread.not_showsError (hcond _) t0 hshows

theorem Stores.recordFailed_recording (hnew : state new = .updating)
    (hclock : s.clock.Representable) :
    ∃ ws, Recording s ((recordFailed observe store r new old e).run.run s).2 ws ∧
      (∀ w ∈ ws, w.state = .failed → ∃ t0, (lastUpdate old).ErrorSince t0 ∧
        w.lastUpdate.time = some s.clock ∧ maxRetryDuration ≤ t0.secondsUntil s.clock) ∧
      ∀ t0, ShowsError recorded (view ((recordFailed observe store r new old e).run.run s).2.cluster) t0 →
        ShowsError recorded (view s.cluster) t0 ∨ t0 = s.clock := by
  rw [recordFailed_run hseen]
  cases hdecision : failureDecision (lastUpdate old) s.clock with
  | escalate =>
    dsimp only
    obtain ⟨t0, hsince, hlong⟩ := failureDecision_escalate hdecision
    rcases h.writeStatus_recording honly hready r _ old with ⟨-, hrec, hv⟩ | ⟨hrec, hv⟩
    · exact ⟨[], hrec, by simp, fun t0 hshows => .inl (hv ▸ hshows)⟩
    · refine ⟨_, hrec, fun w hw _ => ⟨t0, hsince, ?_, hlong⟩, fun t0' hshows => ?_⟩
      · rw [List.mem_singleton.1 hw]
        simp [written, LastUpdate.record, hsince.1]
      · rw [hv] at hshows
        exact absurd hshows (hread.not_showsError (by simp [LastUpdate.record]) t0')
  | retry wait =>
    dsimp only
    by_cases fresh : (lastUpdate old).condition ≠ some .error
    · rw [if_pos fresh]
      rcases h.writeStatus_recording honly hready r _ old with ⟨-, hrec, hv⟩ | ⟨hrec, hv⟩
      · exact ⟨[], hrec, by simp, fun t0 hshows => .inl (hv ▸ hshows)⟩
      · refine ⟨_, hrec, fun w hw hfailed => ?_, fun t0 hshows => .inr ?_⟩
        · -- the error is recorded with the resource updating
          rw [List.mem_singleton.1 hw] at hfailed
          simp [written, hnew] at hfailed
        · rw [hv] at hshows
          -- recorded anew, the error begins at the clock, which its text writes exactly
          have hexact := LastUpdate.exact_record_of_ne (m := e.message) fresh hclock
          have htime := (hread.errorSince hshows).2 (by simpa using hexact)
          simp only [lastUpdate_withLastUpdate, LastUpdate.record_time_of_ne e.message s.clock fresh,
            Option.some.injEq] at htime
          exact htime.symm
    · rw [if_neg fresh]
      exact ⟨[], ⟨rfl, rfl, by simp⟩, by simp, fun t0 hshows => .inl hshows⟩

end Handlers

/-- An engine whose own steps change nothing but the cluster, whose writing back of a spec keeps
what is shown at a place, and whose convergences of a placed resource are recorded as
convergences of `key`. -/
structure Clocked (E : Engine ρ σ) (placed : ρ → Cluster → Prop) (view : Cluster → Option Json)
    (key : Cluster.Key) : Prop where
  store : ∀ r x, Stays OnlyCluster (E.storeStatus r x)
  prepare : ∀ r, Stays (KeepsShown view) (E.prepare r)
  converge : ∀ r c, placed r c → ∃ spec m, E.converge r = Controller.converge key spec m

section Resync

variable {placed : ρ → Cluster → Prop} {view : Cluster → Option Json} {document : σ → Json}
  {recorded : Json → Option Recorded} {key : Cluster.Key} {E : Engine ρ σ}
  (hE : E.Places placed view document) (hT : E.Clocked placed view key)
  (hread : ReadsLastUpdate recorded document)
include hE hT hread

theorem Places.invalidConfig_quiet {r : ρ} {e : OperatorError} {s : Controller}
    (hplaced : placed r s.cluster) : Quiet recorded view s ((E.invalidConfig r e).run.run s).2 := by
  obtain ⟨seen, hseen⟩ := hE.observe r s
  exact (hE.stores r).recordInvalid_quiet (hT.store r) hplaced hread hseen

theorem Places.settle_quiet {r : ρ} {new old : σ} {s : Controller} (hplaced : placed r s.cluster) :
    Quiet recorded view s ((E.settle r new old).run.run s).2 := by
  obtain ⟨seen, hseen⟩ := hE.observe r s
  exact (hE.stores r).recordSettled_quiet (hT.store r) hplaced hread hseen

theorem Places.resync_plain_backs {r : ρ} {new old : σ} {s : Controller}
    (hplaced : placed r s.cluster)
    (hview : ∀ t0, ShowsError recorded (view s.cluster) t0 → (lastUpdate old).condition = some .error)
    (hclock : s.clock.Representable) :
    ∃ added written, Backs recorded view key (lastUpdate old).ErrorSince s
      ((E.resync r false new old).run.run s).2 added written := by
  rcases hvalid : (E.validate r).run.run s.cluster with ⟨_ | _, c⟩
  · have hc : c = s.cluster := by simpa [hvalid] using (hE.validate r s.cluster).symm
    subst hc
    rw [resync_run_of_invalid E hvalid]
    obtain ⟨written, hb⟩ := (hE.invalidConfig_quiet hT hread hplaced).backs
    exact ⟨[], written, hb⟩
  · have hc : c = s.cluster := by simpa [hvalid] using (hE.validate r s.cluster).symm
    subst hc
    obtain ⟨spec, m, hconv⟩ := hT.converge r s.cluster hplaced
    obtain ⟨o, s₁, hconverge, hplaced₁, hview₁, -⟩ := hE.converge r s hplaced
    have hrun₁ := hconverge
    rw [hconv, converge_run, Prod.mk.injEq, Except.ok.injEq] at hrun₁
    obtain ⟨ho, rfl⟩ := hrun₁
    rw [resync_run E hvalid hconverge]
    obtain ⟨seen, hseen⟩ := hE.observeConverged r _
    cases o with
    | ok u =>
      dsimp only
      obtain ⟨ws, hrec, hnot, hclear⟩ := (hE.stores r).recordConverged_clears (hT.store r) hplaced₁
        hread hseen fun t0 hshows => hview t0 (hview₁ ▸ hshows)
      exact ⟨_, ws, Backs.of_outcome hrec.converged rfl rfl hrec.clock hrec.statusWrites
        (fun t0 hshows => absurd hshows (hclear t0)) fun w hw hfailed => absurd hfailed (hnot w hw)⟩
    | error e =>
      dsimp only
      obtain ⟨ws, hrec, hesc, hshown⟩ := (hE.stores r).recordFailed_recording (hT.store r)
        hplaced₁ hread hseen (state_withState new .updating) hclock
      refine ⟨_, ws, Backs.of_outcome hrec.converged rfl rfl hrec.clock hrec.statusWrites
        (fun t0 hshows => ⟨?_, by rw [ho]; rfl⟩) fun w hw hfailed => ?_⟩
      · rcases hshown t0 hshows with before | now
        · exact .inl (hview₁ ▸ before)
        · exact .inr now
      · obtain ⟨t0, hsince, ht, hlong⟩ := hesc w hw hfailed
        exact ⟨t0, s.clock, hsince, ht, hlong, by rw [ho]; rfl⟩

theorem Places.resync_backs {r : ρ} {provisional : Bool} {new old : σ} {s : Controller}
    (hplaced : placed r s.cluster) (hnew : state new = .updating)
    (hshown : ∀ t0, ShowsError recorded (view s.cluster) t0 ↔ (lastUpdate old).ErrorSince t0)
    (hclock : s.clock.Representable) (htick : s.clock.tick.Representable) :
    ∃ added written, Backs recorded view key (ShowsError recorded (view s.cluster)) s
      ((E.resync r provisional new old).run.run s).2 added written := by
  have hview : ∀ t0, ShowsError recorded (view s.cluster) t0 →
      (lastUpdate old).condition = some .error := fun t0 h => ((hshown t0).1 h).1
  have hbegan : ∀ t0, (lastUpdate old).ErrorSince t0 → ShowsError recorded (view s.cluster) t0 :=
    fun t0 h => (hshown t0).2 h
  cases provisional with
  | false =>
    obtain ⟨added, written, hb⟩ := hE.resync_plain_backs hT hread hplaced hview hclock
    exact ⟨added, written, hb.mono hbegan⟩
  | true =>
    rcases hprepare : (E.prepare r).run.run s with ⟨_ | r₁, s₁⟩
    · -- a spec that cannot be written back fails the resync, keeping what is shown
      rw [resync_provisional_run_of_error E hprepare]
      have hkeeps := hT.prepare r s
      rw [hprepare] at hkeeps
      exact ⟨[], (KeepsShown.quiet hkeeps).backs⟩
    · obtain ⟨hplaced₁, -⟩ := hE.prepare r s r₁ s₁ hplaced hprepare
      have hkeeps := hT.prepare r s
      rw [hprepare] at hkeeps
      rw [resync_provisional_run E hprepare]
      dsimp only
      set stamped := withLastUpdate new ((lastUpdate old).record (some .updating) "" s₁.clock)
        with hstamped
      have hupdating : (lastUpdate stamped).condition ≠ some .error := by
        simp [stamped, LastUpdate.record]
      -- the provisional status is written or was `old`; either way no other error is shown
      have hrec := (hE.stores r₁).writeStatus_recording (hT.store r₁) hplaced₁ r₁ stamped old
      have hquiet : Quiet recorded view s
          ((writeStatus (E.storeStatus r₁) r₁ stamped old).run.run
            { s₁ with clock := s₁.clock.tick }).2 := by
        refine IsTrans.trans _ _ _ hkeeps.quiet ?_
        rcases hrec with ⟨-, hr, hv⟩ | ⟨hr, hv⟩
        · exact hr.quiet (by simp) fun t0 h => hv ▸ h
        · refine hr.quiet (by simp [written, stamped, hnew]) fun t0 h => ?_
          rw [hv] at h
          exact absurd h (hread.not_showsError hupdating t0)
      have hview₂ : ∀ t0, ShowsError recorded (view ((writeStatus (E.storeStatus r₁) r₁ stamped
          old).run.run { s₁ with clock := s₁.clock.tick }).2.cluster) t0 →
          (lastUpdate old).condition = some .error := by
        intro t0 h
        rcases hrec with ⟨-, -, hv⟩ | ⟨-, hv⟩
        · rw [hv, show view s₁.cluster = view s.cluster from hkeeps.2] at h
          exact hview t0 h
        · rw [hv] at h
          exact absurd h (hread.not_showsError hupdating t0)
      have hclock₂ : ((writeStatus (E.storeStatus r₁) r₁ stamped old).run.run
          { s₁ with clock := s₁.clock.tick }).2.clock = s.clock.tick := by
        rcases hrec with ⟨-, hr, -⟩ | ⟨hr, -⟩ <;> rw [hr.clock, hkeeps.1.1]
      rcases hwrite : (writeStatus (E.storeStatus r₁) r₁ stamped old).run.run
          { s₁ with clock := s₁.clock.tick } with ⟨_ | r₂, s₂⟩
      · rw [hwrite] at hquiet
        obtain ⟨written, hb⟩ := hquiet.backs
        exact ⟨[], written, hb⟩
      · rw [hwrite] at hquiet hview₂ hclock₂
        dsimp only at hquiet hview₂ hclock₂ ⊢
        have hplaced₂ : placed r₂ s₂.cluster := by
          rcases hE.writeStatus_ok hwrite hplaced₁ with ⟨-, rfl, rfl⟩ | ⟨-, hplaced₂, -⟩
          exacts [hplaced₁, hplaced₂]
        obtain ⟨added, written, hb⟩ := hE.resync_plain_backs hT hread hplaced₂ hview₂
          (hclock₂ ▸ htick)
        obtain ⟨written', hb'⟩ := hquiet.backs_trans (hb.mono hbegan)
        exact ⟨added, written', hb'⟩

end Resync

end Engine

end CsiOperator
