import Mathlib
import CsiOperator.Proofs.Controller
import CsiOperator.Engine.Lifecycle
/-!
The shared lifecycle, one handler at a time.

Each handler is replaced by what it does from a state in which its observation answers without
touching anything: the answer it gives, the status it writes and the instant it records. A resync
is a validation, then a convergence, then one of these handlers; a resync that first records a
provisional status is that write followed by a plain resync from the provisional status.

What a handler leaves stored is said through `Stores`: what an engine's store shows at one
place of the cluster. The outcome lemmas are proved here once, for every engine; each engine's
own module shows that its store meets `Stores`.
-/

namespace CsiOperator

open Controller LifecycleStatus

attribute [simp] LifecycleStatus.state_withState LifecycleStatus.hash_withState
  LifecycleStatus.lastUpdate_withState LifecycleStatus.state_withLastUpdate
  LifecycleStatus.hash_withLastUpdate LifecycleStatus.lastUpdate_withLastUpdate

section Observation

variable {σ : Type} [LifecycleStatus σ] (o : Observation σ) (x : σ)

@[simp] theorem Observation.state_pods : state (o.pods x) = state x :=
  congrArg StatusWrite.state (o.written_pods x)

@[simp] theorem Observation.hash_pods : hash (o.pods x) = hash x :=
  congrArg StatusWrite.hash (o.written_pods x)

@[simp] theorem Observation.lastUpdate_pods : lastUpdate (o.pods x) = lastUpdate x :=
  congrArg StatusWrite.lastUpdate (o.written_pods x)

end Observation

namespace Engine

variable {ρ σ : Type} [DecidableEq σ] [LifecycleStatus σ]

theorem writeStatus_run (store : σ → ControllerM ρ) (r : ρ) (new old : σ) (s : Controller) :
    (writeStatus store r new old).run.run s =
      if new = old then (.ok r, s)
      else (store new).run.run { s with statusWrites := s.statusWrites ++ [written new] } := by
  unfold writeStatus
  split
  · rfl
  · simp only [exceptState_run_bind, noteStatus_run]

section Handlers

variable {observe : ControllerM (Observation σ)} {store : σ → ControllerM ρ} {r : ρ}
  {new old : σ} {e : OperatorError} {s : Controller} {seen : Observation σ}

theorem recordInvalid_run (hseen : observe.run.run s = (.ok seen, s)) :
    (recordInvalid observe store r old e).run.run s =
      (.ok .never, ((writeStatus store r (withState (withLastUpdate (seen.pods old)
        ((lastUpdate old).record (some .invalidConfig) e.message s.clock)) .invalidConfig)
          old).run.run { s with clock := s.clock.tick }).2) := by
  unfold recordInvalid
  simp only [exceptState_run_bind, hseen, now_run, attempt_run, exceptState_run_pure]

theorem recordSettled_run (hseen : observe.run.run s = (.ok seen, s)) :
    (recordSettled observe store r new old).run.run s =
      let state := settledState seen.running seen.error.isSome
      let decided := successRequeue (LifecycleStatus.state old) (lastUpdate old) state s.clock
      let written := (writeStatus store r (withLastUpdate (withState (seen.pods new) state)
        ((lastUpdate old).record (Condition.ofState? state) seen.message s.clock)) old).run.run
          { s with clock := s.clock.tick }
      (.ok (match written.1 with
        | .ok _ => decided.1
        | .error _ => .after decided.2), written.2) := by
  unfold recordSettled
  simp only [exceptState_run_bind, hseen, now_run, attempt_run]
  generalize (writeStatus store r _ old).run.run _ = written
  rcases written with ⟨_ | _, _⟩ <;> rfl

theorem recordConverged_run (hseen : observe.run.run s = (.ok seen, s)) :
    (recordConverged observe store r new old).run.run s =
      let state : DriverState := if seen.running then .running else .succeeded
      let written := (writeStatus store r (withLastUpdate (withState (seen.pods new) state)
        ((lastUpdate old).record (Condition.ofState? state) seen.message s.clock)) old).run.run
          { s with clock := s.clock.tick }
      (written.1.map fun _ => if seen.running then .never else .after retryInterval,
        written.2) := by
  unfold recordConverged
  simp only [exceptState_run_bind, hseen, now_run]
  generalize (writeStatus store r _ old).run.run _ = written
  rcases written with ⟨_ | _, _⟩ <;> rfl

theorem recordFailed_run (hseen : observe.run.run s = (.ok seen, s)) :
    (recordFailed observe store r new old e).run.run s =
      let failed := withLastUpdate (seen.pods new)
        ((lastUpdate old).record (some .error) e.message s.clock)
      let ticked := { s with clock := s.clock.tick }
      match failureDecision (lastUpdate old) s.clock with
      | .escalate =>
        (.ok .never, ((writeStatus store r (withLastUpdate (withState failed .failed)
          ((lastUpdate old).record (some .failed) e.message s.clock)) old).run.run ticked).2)
      | .retry wait => (.ok (.after wait),
          if (lastUpdate old).condition ≠ some .error then
            ((writeStatus store r failed old).run.run ticked).2
          else ticked) := by
  unfold recordFailed
  simp only [exceptState_run_bind, hseen, now_run]
  rcases failureDecision (lastUpdate old) s.clock with wait | _
  · dsimp only
    by_cases fresh : (lastUpdate old).condition ≠ some .error
    · rw [if_pos fresh, if_pos fresh]
      simp only [exceptState_run_bind, attempt_run, exceptState_run_pure]
    · rw [if_neg fresh, if_neg fresh]
      rfl
  · simp only [exceptState_run_bind, attempt_run, exceptState_run_pure]

end Handlers

section Resync

variable (E : Engine ρ σ) {r : ρ} {new old : σ} {s : Controller}

theorem resync_run {outcome : Except OperatorError Unit} {s' : Controller}
    (hvalid : (E.validate r).run.run s.cluster = (.ok (), s.cluster))
    (hconverge : (E.converge r).run.run s = (.ok outcome, s')) :
    (E.resync r false new old).run.run s =
      match outcome with
      | .ok () =>
        (recordConverged (E.observeConverged r) (E.storeStatus r) r (withState new .updating)
          old).run.run s'
      | .error e =>
        (recordFailed (E.observeConverged r) (E.storeStatus r) r (withState new .updating) old
          e).run.run s' := by
  unfold resync
  simp only [Bool.false_eq_true, if_false, exceptState_run_bind, exceptState_run_pure,
    tryCluster_run, hvalid, hconverge]
  cases outcome <;> rfl

theorem resync_run_of_invalid {e : OperatorError} {c : Cluster}
    (hinvalid : (E.validate r).run.run s.cluster = (.error e, c)) :
    (E.resync r false new old).run.run s = (E.invalidConfig r e).run.run { s with cluster := c } := by
  unfold resync
  simp only [Bool.false_eq_true, if_false, exceptState_run_bind, exceptState_run_pure,
    tryCluster_run, hinvalid]

theorem resync_provisional_run {r₁ : ρ} {s₁ : Controller}
    (hprepare : (E.prepare r).run.run s = (.ok r₁, s₁)) :
    (E.resync r true new old).run.run s =
      let provisional := withLastUpdate new ((lastUpdate old).record (some .updating) "" s₁.clock)
      match (writeStatus (E.storeStatus r₁) r₁ provisional old).run.run
          { s₁ with clock := s₁.clock.tick } with
      | (.ok r₂, s₂) => (E.resync r₂ false provisional old).run.run s₂
      | (.error e, s₂) => (.error e, s₂) := by
  unfold resync
  simp only [if_true, Bool.false_eq_true, if_false, exceptState_run_bind, hprepare, now_run,
    exceptState_run_pure]
  generalize (writeStatus (E.storeStatus r₁) r₁ _ old).run.run _ = written
  rcases written with ⟨_ | _, _⟩ <;> rfl

theorem resync_provisional_run_of_error {e : OperatorError} {s₁ : Controller}
    (hprepare : (E.prepare r).run.run s = (.error e, s₁)) :
    (E.resync r true new old).run.run s = (.error e, s₁) := by
  unfold resync
  simp only [if_true, exceptState_run_bind, hprepare]

end Resync

section Stores

variable {store : σ → ControllerM ρ} {ready : Cluster → Prop} {view : Cluster → Option Json}
  {document : σ → Json} {r : ρ} {new old : σ} {s : Controller}

/-- What a store shows at one place of the cluster: from a cluster that is `ready` there,
storing a status leaves the status's document there, and the cluster still ready. -/
structure Stores (store : σ → ControllerM ρ) (ready : Cluster → Prop)
    (view : Cluster → Option Json) (document : σ → Json) : Prop where
  shows : ∀ x s, ready s.cluster → view ((store x).run.run s).2.cluster = some (document x)
  ready : ∀ x s, ready s.cluster → ready ((store x).run.run s).2.cluster

theorem Stores.writeStatus_shows (h : Stores store ready view document) (hready : ready s.cluster)
    (hne : new ≠ old) :
    view ((writeStatus store r new old).run.run s).2.cluster = some (document new) := by
  rw [writeStatus_run, if_neg hne]
  exact h.shows new _ hready

theorem recordFailed_outcome (h : Stores store ready view document) (r : ρ) (new : σ)
    (e : OperatorError) {observe : ControllerM (Observation σ)} {seen : Observation σ}
    (hready : ready s.cluster) (hseen : observe.run.run s = (.ok seen, s))
    (hstate : LifecycleStatus.state old ≠ .failed) :
    let result := (recordFailed observe store r new old e).run.run s
    let failed := withLastUpdate (seen.pods new)
      ((lastUpdate old).record (some .error) e.message s.clock)
    match failureDecision (lastUpdate old) s.clock with
    | .escalate => result.1 = .ok .never ∧
      view result.2.cluster = some (document (withLastUpdate (withState failed .failed)
        ((lastUpdate old).record (some .failed) e.message s.clock)))
    | .retry wait => result.1 = .ok (.after wait) ∧
      view result.2.cluster =
        if (lastUpdate old).condition ≠ some .error then some (document failed)
        else view s.cluster := by
  intro result failed
  rw [show result = _ from recordFailed_run hseen]
  rcases failureDecision (lastUpdate old) s.clock with wait | _
  · refine ⟨rfl, ?_⟩
    dsimp only
    by_cases fresh : (lastUpdate old).condition ≠ some .error
    · rw [if_pos fresh, if_pos fresh]
      refine h.writeStatus_shows hready fun same => fresh ?_
      rw [← congrArg lastUpdate same]
      simp [LastUpdate.record]
    · rw [if_neg fresh, if_neg fresh]
  · refine ⟨rfl, h.writeStatus_shows hready fun same => hstate ?_⟩
    rw [← congrArg LifecycleStatus.state same]
    simp

end Stores


section Places

variable {store : σ → ControllerM ρ} {ready : Cluster → Prop} {view : Cluster → Option Json}
  {document : σ → Json} {observe : ControllerM (Observation σ)} {seen : Observation σ}
  {r : ρ} {new old : σ} {e : OperatorError} {s : Controller}

/-- What a failed convergence from the status `old` leaves shown at a place where `before` was
shown: the failure marked `Failed`; or the error, with the resource updating, when no error was
recorded in `old`; or, when one was, what was shown before. -/
def FailureShown (document : σ → Json) (old : σ) (before after : Option Json) : Prop :=
  (∃ x, after = some (document x) ∧ state x = .failed ∧ (lastUpdate x).condition = some .failed) ∨
  (∃ x, after = some (document x) ∧ state x = .updating ∧
    (lastUpdate x).condition = some .error ∧ (lastUpdate old).condition ≠ some .error) ∨
  ((lastUpdate old).condition = some .error ∧ after = before)

theorem recordFailed_shown (h : Stores store ready view document) (hready : ready s.cluster)
    (hseen : observe.run.run s = (.ok seen, s)) (hnew : state new = .updating) :
    FailureShown document old (view s.cluster)
      (view ((recordFailed observe store r new old e).run.run s).2.cluster) := by
  rw [recordFailed_run hseen]
  cases hdecision : failureDecision (lastUpdate old) s.clock with
  | retry wait =>
    dsimp only
    by_cases fresh : (lastUpdate old).condition ≠ some .error
    · rw [if_pos fresh]
      -- the error is recorded anew, so the status written differs from the old one
      refine .inr (.inl ⟨_, h.writeStatus_shows hready fun same => fresh ?_, by simp [hnew],
        by simp [LastUpdate.record], fresh⟩)
      rw [← congrArg lastUpdate same]
      simp [LastUpdate.record]
    · rw [if_neg fresh]
      exact .inr (.inr ⟨not_not.1 fresh, rfl⟩)
  | escalate =>
    dsimp only
    -- only an error that was recorded escalates
    have recorded : (lastUpdate old).condition = some .error := by
      by_contra other
      simp [failureDecision, other] at hdecision
    rw [writeStatus_run]
    split
    · exact .inr (.inr ⟨recorded, rfl⟩)
    · exact .inl ⟨_, h.shows _ _ hready, by simp, by simp [LastUpdate.record]⟩

end Places

section Logs

variable {observe : ControllerM (Observation σ)} {store : σ → ControllerM ρ}
  (hobserve : Answers observe) (hstore : ∀ x, Stays SameLog (store x))
include hstore

/-! The handlers run no convergence. -/

theorem writeStatus_log (r : ρ) (new old : σ) : Stays SameLog (writeStatus store r new old) :=
  fun s => by
    rw [writeStatus_run]
    split
    · rfl
    · exact hstore new { s with statusWrites := s.statusWrites ++ [written new] }

include hobserve

theorem recordInvalid_log (r : ρ) (old : σ) (e : OperatorError) :
    Stays SameLog (recordInvalid observe store r old e) := fun s => by
  obtain ⟨seen, hseen⟩ := hobserve s
  rw [recordInvalid_run hseen]
  exact writeStatus_log hstore r _ old { s with clock := s.clock.tick }

theorem recordSettled_log (r : ρ) (new old : σ) :
    Stays SameLog (recordSettled observe store r new old) := fun s => by
  obtain ⟨seen, hseen⟩ := hobserve s
  rw [recordSettled_run hseen]
  exact writeStatus_log hstore r _ old { s with clock := s.clock.tick }

theorem recordConverged_log (r : ρ) (new old : σ) :
    Stays SameLog (recordConverged observe store r new old) := fun s => by
  obtain ⟨seen, hseen⟩ := hobserve s
  rw [recordConverged_run hseen]
  exact writeStatus_log hstore r _ old { s with clock := s.clock.tick }

theorem recordFailed_log (r : ρ) (new old : σ) (e : OperatorError) :
    Stays SameLog (recordFailed observe store r new old e) := fun s => by
  obtain ⟨seen, hseen⟩ := hobserve s
  rw [recordFailed_run hseen]
  rcases failureDecision (lastUpdate old) s.clock with wait | _
  · dsimp only
    split
    · exact writeStatus_log hstore r _ old { s with clock := s.clock.tick }
    · rfl
  · exact writeStatus_log hstore r _ old { s with clock := s.clock.tick }

end Logs

section Engine

variable {placed : ρ → Cluster → Prop} {view : Cluster → Option Json} {document : σ → Json}

/-- What an engine's steps do at one place of the cluster, for the resources `placed` there:
its stores show there the statuses they store and answer a resource placed there again;
writing a spec back, validating and converging leave the status shown there and the resource
placed; observing changes nothing; and of all its steps only a convergence runs one, which it
records with its outcome. -/
structure Places (E : Engine ρ σ) (placed : ρ → Cluster → Prop) (view : Cluster → Option Json)
    (document : σ → Json) : Prop where
  stores : ∀ r, Stores (E.storeStatus r) (placed r) view document
  answers : ∀ r x s r' s', placed r s.cluster → (E.storeStatus r x).run.run s = (.ok r', s') →
    placed r' s'.cluster
  prepare : ∀ r s r' s', placed r s.cluster → (E.prepare r).run.run s = (.ok r', s') →
    placed r' s'.cluster ∧ view s'.cluster = view s.cluster
  converge : ∀ r s, placed r s.cluster → ∃ o s', (E.converge r).run.run s = (.ok o, s') ∧
    placed r s'.cluster ∧ view s'.cluster = view s.cluster ∧
    ∃ cv, s'.converged = s.converged ++ [cv] ∧ cv.ok = o.isOk
  validate : ∀ r, Stays Eq (E.validate r)
  observe : ∀ r, Answers (E.observe r)
  observeConverged : ∀ r, Answers (E.observeConverged r)
  store_log : ∀ r x, Stays SameLog (E.storeStatus r x)
  prepare_log : ∀ r, Stays SameLog (E.prepare r)

theorem logged_ne {s s' : Controller} (hlog : ∃ cv, s'.converged = s.converged ++ [cv] ∧ cv.ok = false)
    (hsame : SameLog s s') : False := by
  obtain ⟨cv, hcv, -⟩ := hlog
  have := congrArg List.length (hcv.symm.trans hsame)
  simp at this

theorem logged_ne_of_stays {α : Type} {m : ControllerM α} {s s' : Controller}
    {a : Except OperatorError α} (hm : Stays SameLog m) (hrun : m.run.run s = (a, s'))
    (hlog : ∃ cv, s'.converged = s.converged ++ [cv] ∧ cv.ok = false) : False := by
  have hsame := hm s
  rw [hrun] at hsame
  exact logged_ne hlog hsame

variable {E : Engine ρ σ} (hE : E.Places placed view document)
include hE

theorem Places.writeStatus_ok {r r' : ρ} {x old : σ} {s s' : Controller}
    (hrun : (writeStatus (E.storeStatus r) r x old).run.run s = (.ok r', s'))
    (hplaced : placed r s.cluster) :
    (x = old ∧ r = r' ∧ s = s') ∨
      ((E.storeStatus r x).run.run { s with statusWrites := s.statusWrites ++ [written x] } =
          (.ok r', s') ∧ placed r' s'.cluster ∧ view s'.cluster = some (document x)) := by
  rw [writeStatus_run] at hrun
  split at hrun
  · next same =>
    rw [Prod.mk.injEq, Except.ok.injEq] at hrun
    exact .inl ⟨same, hrun.1, hrun.2⟩
  · let noted := { s with statusWrites := s.statusWrites ++ [written x] }
    have hshown := (hE.stores r).shows x noted hplaced
    rw [hrun] at hshown
    exact .inr ⟨hrun, hE.answers r x noted r' s' hplaced hrun, hshown⟩

theorem Places.invalidConfig_log (r : ρ) (e : OperatorError) : Stays SameLog (E.invalidConfig r e) :=
  recordInvalid_log (hE.observe r) (hE.store_log r) r _ e

theorem Places.settle_log (r : ρ) (new old : σ) : Stays SameLog (E.settle r new old) :=
  recordSettled_log (hE.observe r) (hE.store_log r) r new old

theorem Places.resync_failed_plain {r : ρ} {new old : σ} {s s' : Controller}
    {a : Except OperatorError Requeue} (hplaced : placed r s.cluster)
    (hrun : (E.resync r false new old).run.run s = (a, s'))
    (hlog : ∃ cv, s'.converged = s.converged ++ [cv] ∧ cv.ok = false) :
    FailureShown document old (view s.cluster) (view s'.cluster) := by
  rcases hvalid : (E.validate r).run.run s.cluster with ⟨_ | _, c⟩
  · -- an invalid spec is recorded without a convergence
    have hc : c = s.cluster := by simpa [hvalid] using (hE.validate r s.cluster).symm
    subst hc
    rw [resync_run_of_invalid E hvalid] at hrun
    exact (logged_ne_of_stays (hE.invalidConfig_log r _) hrun hlog).elim
  · have hc : c = s.cluster := by simpa [hvalid] using (hE.validate r s.cluster).symm
    subst hc
    obtain ⟨o, s₁, hconverge, hplaced₁, hview₁, cv, hcv, hok⟩ := hE.converge r s hplaced
    rw [resync_run E hvalid hconverge] at hrun
    cases o with
    | ok _ =>
      dsimp only at hrun
      -- a successful convergence is the one logged, and it succeeded
      have hsame := recordConverged_log (hE.observeConverged r) (hE.store_log r) r
        (withState new .updating) old s₁
      rw [hrun] at hsame
      obtain ⟨cv', hcv', hfailed⟩ := hlog
      rw [SameLog, hcv, hcv'] at hsame
      have := List.append_cancel_left hsame
      simp only [List.cons.injEq, and_true] at this
      rw [← this, hfailed] at hok
      simp [Except.isOk, Except.toBool] at hok
    | error e =>
      dsimp only at hrun
      obtain ⟨seen, hseen⟩ := hE.observeConverged r s₁
      have shown : FailureShown document old (view s₁.cluster)
          (view ((recordFailed (E.observeConverged r) (E.storeStatus r) r (withState new .updating)
            old e).run.run s₁).2.cluster) :=
        recordFailed_shown (hE.stores r) hplaced₁ hseen (by simp)
      rw [hrun, hview₁] at shown
      exact shown

theorem Places.resync_failed {r : ρ} {provisional : Bool} {new old : σ} {s s' : Controller}
    {a : Except OperatorError Requeue} (hplaced : placed r s.cluster)
    (hnew : state new = .updating) (hrun : (E.resync r provisional new old).run.run s = (a, s'))
    (hlog : ∃ cv, s'.converged = s.converged ++ [cv] ∧ cv.ok = false) :
    FailureShown document old (view s.cluster) (view s'.cluster) ∨
      (provisional = true ∧ (lastUpdate old).condition = some .error ∧
        ∃ x, view s'.cluster = some (document x) ∧ state x = .updating ∧
          (lastUpdate x).condition = some .updating ∧ (lastUpdate x).errorMessage = "") := by
  cases provisional with
  | false => exact .inl (hE.resync_failed_plain hplaced hrun hlog)
  | true =>
  rcases hprepare : (E.prepare r).run.run s with ⟨_ | r₁, s₁⟩
  · -- a spec that cannot be written back fails the resync before any convergence
    have hsame := hE.prepare_log r s
    rw [resync_provisional_run_of_error E hprepare, Prod.mk.injEq] at hrun
    rw [hprepare, hrun.2] at hsame
    exact (logged_ne hlog hsame).elim
  · obtain ⟨hplaced₁, hview₁⟩ := hE.prepare r s r₁ s₁ hplaced hprepare
    have hsame₁ : SameLog s s₁ := by simpa [hprepare] using hE.prepare_log r s
    rw [resync_provisional_run E hprepare] at hrun
    dsimp only at hrun
    let stamped := withLastUpdate new ((lastUpdate old).record (some .updating) "" s₁.clock)
    let ticked := { s₁ with clock := s₁.clock.tick }
    have hsame₂ := writeStatus_log (hE.store_log r₁) r₁ stamped old ticked
    rcases hwrite : (writeStatus (E.storeStatus r₁) r₁ stamped old).run.run ticked with
      ⟨_ | r₂, s₂⟩
    · rw [hwrite, Prod.mk.injEq] at hrun
      rw [hwrite, hrun.2] at hsame₂
      exact (logged_ne hlog (IsTrans.trans _ _ _ hsame₁ hsame₂)).elim
    · rw [hwrite] at hrun hsame₂
      dsimp only at hrun
      -- after the provisional write the resource is placed, showing what it showed or the
      -- provisional status
      have hwritten : placed r₂ s₂.cluster ∧ (view s₂.cluster = view s.cluster ∨
          view s₂.cluster = some (document stamped)) := by
        rcases hE.writeStatus_ok hwrite hplaced₁ with ⟨-, rfl, rfl⟩ | ⟨-, hplaced₂, hshown⟩
        · exact ⟨hplaced₁, .inl hview₁⟩
        · exact ⟨hplaced₂, .inr hshown⟩
      obtain ⟨cv, hcv, hfailed⟩ := hlog
      have plain := hE.resync_failed_plain hwritten.1 hrun
        ⟨cv, by rw [hcv, hsame₂, hsame₁], hfailed⟩
      rcases hwritten.2 with same | shown
      · rw [same] at plain
        exact .inl plain
      · rcases plain with failed | fresh | ⟨recorded, kept⟩
        · exact .inl (.inl failed)
        · exact .inl (.inr (.inl fresh))
        · exact .inr ⟨rfl, recorded, stamped, kept.trans shown, by simp [stamped, hnew],
            by simp [stamped, LastUpdate.record], by simp [stamped, LastUpdate.record]⟩

end Engine

end Engine

end CsiOperator
