import Mathlib
import CsiOperator.Proofs.Footprint
import CsiOperator.Proofs.Annotations
/-!
What a reconcile that asks for no further reconcile leaves stored.

A reconcile answers `Never` only from a handler that recorded a state in which nothing is left
to do: the installation runs, its failure or invalid configuration is recorded, or it succeeded
and had already been succeeding for half an hour when the reconcile read the clock (`Concludes`).
Each handler writes that state, or writes nothing because the status it compared against was
that state already (`Shows`). So when the statuses of the resource can be written, the status
stored after a reconcile that answers `Never` is in such a state.

The handlers are shared by both engines, so their lemmas are proved once, for every engine
whose store shows what it stores (`Stores`); a resync adds what its steps answer about the
resource (`AnswersState`).
-/

namespace CsiOperator

open Controller LifecycleStatus

/-- A state in which a resource rests with no reconcile asked for: its installation runs, or its
failure or its invalid configuration is recorded. -/
def Final (st : DriverState) : Prop := st = .running ∨ st = .failed ∨ st = .invalidConfig

theorem Path.final_of_decide_stop {st : DriverState} {changed force : Bool}
    (h : Path.decide st changed force = .stop) : Final st := by
  cases st with
  | running | succeeded => cases changed <;> simp [Path.decide] at h
  | invalidConfig | failed => simp [Final]
  | none | updating => simp [Path.decide] at h

theorem Path.changed_of_decide_resync {changed force : Bool}
    (h : Path.decide .running changed force = .resync) : changed = true := by
  cases changed <;> simp [Path.decide] at h ⊢

namespace Engine

variable {ρ σ : Type} [LifecycleStatus σ]

/-- A state that a reconcile from the status `old`, whose clock read `clock`, may leave with no
reconcile asked for: a final one, or success after a success that was half an hour old. -/
def Concludes (old : σ) (clock : Instant) (st : DriverState) : Prop :=
  Final st ∨ (st = .succeeded ∧ state old = .succeeded ∧
    maxRetryDuration ≤ (lastUpdate old).secondsIn clock)

/-- `after` shows the status `x`; or it shows what `before` showed, and `x` is the status
compared against, so that nothing was written. -/
def Shows (document : σ → Json) (x compared : σ) (before after : Option Json) : Prop :=
  after = some (document x) ∨ (after = before ∧ x = compared)

/-- What a reconcile from the status `old` whose clock read `clock`, and that asks for no further
reconcile, leaves shown where `before` was shown: a status in a state that concludes it; or
what was shown, when the state of `old` concludes it. -/
def Backed (document : σ → Json) (old : σ) (clock : Instant) (before after : Option Json) : Prop :=
  (∃ x, Concludes old clock (state x) ∧ after = some (document x)) ∨
    (after = before ∧ Concludes old clock (state old))

theorem Final.concludes {st : DriverState} (h : Final st) (old : σ) (clock : Instant) :
    Concludes old clock st :=
  .inl h

theorem Backed.of_shows {document : σ → Json} {old x compared : σ} {clock : Instant}
    {before after : Option Json} (hx : Concludes old clock (state x))
    (hshown : Shows document x compared before after) (hsame : state compared = state old) :
    Backed document old clock before after := by
  rcases hshown with shown | ⟨same, rfl⟩
  · exact .inl ⟨x, hx, shown⟩
  · exact .inr ⟨same, hsame ▸ hx⟩

theorem successRequeue_never {oldState newState : DriverState} {oldLast : LastUpdate}
    {now : Instant} (h : (successRequeue oldState oldLast newState now).1 = .never) :
    (newState = .running ∧ oldState = .running) ∨
      (newState = .succeeded ∧ oldState = .succeeded ∧ maxRetryDuration ≤ oldLast.secondsIn now) := by
  unfold successRequeue at h
  split at h
  · exact .inl ⟨rfl, rfl⟩
  · dsimp only at h
    split at h
    · exact .inr ⟨rfl, rfl, by assumption⟩
    · cases h
  · cases h

section Handlers

variable [DecidableEq σ] {store : σ → ControllerM ρ} {ready : Cluster → Prop} {view : Cluster → Option Json}
  {document : σ → Json} {observe : ControllerM (Observation σ)} {seen : Observation σ}
  {r : ρ} {new old : σ} {e : OperatorError} {s : Controller}

theorem Stores.writeStatus_shown (h : Stores store ready view document) (hready : ready s.cluster) :
    Shows document new old (view s.cluster)
      (view ((writeStatus store r new old).run.run s).2.cluster) := by
  rw [writeStatus_run]
  split
  · next same => exact .inr ⟨rfl, same⟩
  · exact .inl (h.shows new _ hready)

variable (h : Stores store ready view document) (hready : ready s.cluster)
  (hseen : observe.run.run s = (.ok seen, s))
include h hready hseen

theorem recordInvalid_never :
    ((recordInvalid observe store r old e).run.run s).1 = .ok .never ∧
      ∃ x, state x = .invalidConfig ∧ Shows document x old (view s.cluster)
        (view ((recordInvalid observe store r old e).run.run s).2.cluster) := by
  rw [recordInvalid_run hseen]
  exact ⟨rfl, _, by simp, h.writeStatus_shown hready⟩

theorem recordSettled_never
    (hnever : ((recordSettled observe store r new old).run.run s).1 = .ok .never) :
    ∃ x, Concludes old s.clock (state x) ∧ Shows document x old (view s.cluster)
      (view ((recordSettled observe store r new old).run.run s).2.cluster) := by
  rw [recordSettled_run hseen] at hnever ⊢
  dsimp only at hnever ⊢
  refine ⟨_, ?_, h.writeStatus_shown hready⟩
  -- a failed write asks for a retry, so the write succeeded and the decided requeue is `Never`
  split at hnever
  · simp only [Except.ok.injEq] at hnever
    rcases successRequeue_never hnever with ⟨hrun, -⟩ | ⟨hsucc, hold, helapsed⟩
    · exact .inl (.inl (by simp [hrun]))
    · exact .inr ⟨by simp [hsucc], hold, helapsed⟩
  · cases hnever

theorem recordConverged_never
    (hnever : ((recordConverged observe store r new old).run.run s).1 = .ok .never) :
    ∃ x, state x = .running ∧ LifecycleStatus.hash x = LifecycleStatus.hash new ∧ Shows document x old (view s.cluster)
      (view ((recordConverged observe store r new old).run.run s).2.cluster) := by
  rw [recordConverged_run hseen] at hnever ⊢
  dsimp only at hnever ⊢
  have hrunning : seen.running = true := by
    rcases hwritten : ((writeStatus store r _ old).run.run _).1 with _ | _ <;>
      rw [hwritten] at hnever <;> simp only [Except.map] at hnever
    · cases hnever
    · by_contra hne
      simp [hne] at hnever
  exact ⟨_, by simp [hrunning], by simp, h.writeStatus_shown hready⟩

theorem recordFailed_never
    (hnever : ((recordFailed observe store r new old e).run.run s).1 = .ok .never) :
    ∃ x, state x = .failed ∧
      view ((recordFailed observe store r new old e).run.run s).2.cluster = some (document x) := by
  rw [recordFailed_run hseen] at hnever ⊢
  cases hdecision : failureDecision (lastUpdate old) s.clock with
  | retry wait =>
    rw [hdecision] at hnever
    dsimp only at hnever
    cases hnever
  | escalate =>
    dsimp only
    -- only a recorded error escalates, and the escalation records a failure in its place
    have recorded : (lastUpdate old).condition = some .error := by
      by_contra other
      simp [failureDecision, other] at hdecision
    rcases h.writeStatus_shown (r := r) (s := { s with clock := s.clock.tick }) hready with
      shown | ⟨-, same⟩
    · exact ⟨_, by simp, shown⟩
    · have := congrArg (fun x => (lastUpdate x).condition) same
      simp [LastUpdate.record, recorded] at this

end Handlers

section Resync

variable [DecidableEq σ] {placed : ρ → Cluster → Prop} {view : Cluster → Option Json}
  {document : σ → Json}

/-- What an engine's steps answer about a resource: its store answers it with the state it
stored, and writing its spec back keeps a state it has. -/
structure AnswersState (E : Engine ρ σ) : Prop where
  store : ∀ r x s r' s', (E.storeStatus r x).run.run s = (.ok r', s') →
    state (E.status r') = state x
  prepare : ∀ r s r' s', (E.prepare r).run.run s = (.ok r', s') → state (E.status r) ≠ .none →
    state (E.status r') = state (E.status r)

variable {E : Engine ρ σ} (hE : E.Places placed view document)
include hE

theorem Places.resync_plain_never {r : ρ} {new old : σ} {s : Controller}
    (hplaced : placed r s.cluster)
    (hnever : ((E.resync r false new old).run.run s).1 = .ok .never) :
    ∃ x, Final (state x) ∧
      (view ((E.resync r false new old).run.run s).2.cluster = some (document x) ∨
        (view ((E.resync r false new old).run.run s).2.cluster = view s.cluster ∧
          ((x = old ∧ state x = .running ∧ LifecycleStatus.hash x = LifecycleStatus.hash new) ∨
            (x = E.status r ∧ state x = .invalidConfig)))) := by
  rcases hvalid : (E.validate r).run.run s.cluster with ⟨_ | _, c⟩
  · -- an invalid spec is recorded against the status the resource carries
    have hc : c = s.cluster := by simpa [hvalid] using (hE.validate r s.cluster).symm
    subst hc
    rw [resync_run_of_invalid E hvalid] at hnever ⊢
    unfold invalidConfig
    obtain ⟨seen, hseen⟩ := hE.observe r s
    obtain ⟨-, x, hx, shown⟩ := recordInvalid_never (e := ‹_›) (hE.stores r) hplaced hseen
    refine ⟨x, .inr (.inr hx), ?_⟩
    rcases shown with shown | ⟨same, rfl⟩
    · exact .inl shown
    · exact .inr ⟨same, .inr ⟨rfl, hx⟩⟩
  · have hc : c = s.cluster := by simpa [hvalid] using (hE.validate r s.cluster).symm
    subst hc
    obtain ⟨o, s₁, hconverge, hplaced₁, hview₁, -⟩ := hE.converge r s hplaced
    rw [resync_run E hvalid hconverge] at hnever ⊢
    obtain ⟨seen, hseen⟩ := hE.observeConverged r s₁
    cases o with
    | ok _ =>
      dsimp only at hnever ⊢
      obtain ⟨x, hx, hhash, shown⟩ := recordConverged_never (hE.stores r) hplaced₁ hseen hnever
      refine ⟨x, .inl hx, ?_⟩
      rcases shown with shown | ⟨same, rfl⟩
      · exact .inl shown
      · exact .inr ⟨same.trans hview₁, .inl ⟨rfl, hx, by simpa using hhash⟩⟩
    | error e =>
      dsimp only at hnever ⊢
      obtain ⟨x, hx, shown⟩ := recordFailed_never (hE.stores r) hplaced₁ hseen hnever
      exact ⟨x, .inr (.inl hx), .inl shown⟩

theorem Places.resync_never (hA : AnswersState E) {r : ρ} {provisional : Bool} {new old : σ}
    {s : Controller} (hplaced : placed r s.cluster) (hnew : state new = .updating)
    (hstatus : state (E.status r) = state old)
    (hfresh : provisional = true → state old = .running →
      LifecycleStatus.hash new ≠ LifecycleStatus.hash old)
    (hnever : ((E.resync r provisional new old).run.run s).1 = .ok .never) :
    (∃ x, Final (state x) ∧
      view ((E.resync r provisional new old).run.run s).2.cluster = some (document x)) ∨
      (provisional = false ∧
        view ((E.resync r provisional new old).run.run s).2.cluster = view s.cluster ∧
        Final (state old)) := by
  cases provisional with
  | false =>
    obtain ⟨x, hx, shown | ⟨same, ⟨rfl, -⟩ | ⟨rfl, hinvalid⟩⟩⟩ :=
      hE.resync_plain_never hplaced hnever
    · exact .inl ⟨x, hx, shown⟩
    · exact .inr ⟨rfl, same, hx⟩
    · exact .inr ⟨rfl, same, by rw [← hstatus, hinvalid]; exact .inr (.inr rfl)⟩
  | true =>
  rcases hprepare : (E.prepare r).run.run s with ⟨_ | r₁, s₁⟩
  · rw [resync_provisional_run_of_error E hprepare] at hnever
    cases hnever
  · obtain ⟨hplaced₁, hview₁⟩ := hE.prepare r s r₁ s₁ hplaced hprepare
    rw [resync_provisional_run E hprepare] at hnever ⊢
    dsimp only at hnever ⊢
    let stamped := withLastUpdate new ((lastUpdate old).record (some .updating) "" s₁.clock)
    let ticked := { s₁ with clock := s₁.clock.tick }
    have hstamped : state stamped = .updating := by simp [stamped, hnew]
    rcases hwrite : (writeStatus (E.storeStatus r₁) r₁ stamped old).run.run ticked with
      ⟨_ | r₂, s₂⟩
    · rw [hwrite] at hnever
      cases hnever
    rw [hwrite] at hnever
    dsimp only at hnever ⊢
    -- after the provisional write the resource answers `updating`, and the provisional status
    -- is shown, or it was the old one and what was shown stays
    have hwritten : state (E.status r₂) = .updating ∧ placed r₂ s₂.cluster ∧
        (view s₂.cluster = some (document stamped) ∨ stamped = old) := by
      rcases hE.writeStatus_ok hwrite hplaced₁ with ⟨same, rfl, rfl⟩ | ⟨hstore, hplaced₂, hshown⟩
      · have hold : state old = .updating := by rw [← same, hstamped]
        refine ⟨?_, hplaced₁, .inr same⟩
        rw [hA.prepare r s r₁ s₁ hprepare (by rw [hstatus, hold]; decide), hstatus, hold]
      · exact ⟨(hA.store r₁ stamped _ r₂ s₂ hstore).trans hstamped, hplaced₂, .inl hshown⟩
    obtain ⟨hupdating, hplaced₂, hshown⟩ := hwritten
    obtain ⟨x, hx, shown | ⟨-, ⟨rfl, hrunning, hhash⟩ | ⟨rfl, hinvalid⟩⟩⟩ :=
      hE.resync_plain_never hplaced₂ hnever
    · exact .inl ⟨x, hx, shown⟩
    · -- a convergence to a running installation wrote nothing: `old` recorded it running
      exfalso
      rcases hshown with - | same
      · exact hfresh rfl hrunning (by simpa [stamped] using hhash.symm)
      · have := congrArg state same
        rw [hstamped, hrunning] at this
        cases this
    · exfalso
      rw [hupdating] at hinvalid
      cases hinvalid

theorem Places.resync_backed (hA : AnswersState E) {r : ρ} {provisional : Bool} {new old : σ}
    {s : Controller} (hplaced : placed r s.cluster) (hnew : state new = .updating)
    (hstatus : state (E.status r) = state old)
    (hfresh : provisional = true → state old = .running →
      LifecycleStatus.hash new ≠ LifecycleStatus.hash old)
    (hnever : ((E.resync r provisional new old).run.run s).1 = .ok .never) (clock : Instant) :
    Backed document old clock (view s.cluster)
      (view ((E.resync r provisional new old).run.run s).2.cluster) := by
  rcases hE.resync_never hA hplaced hnew hstatus hfresh hnever with ⟨x, hx, shown⟩ | ⟨-, same, hold⟩
  · exact .inl ⟨x, Final.concludes hx old clock, shown⟩
  · exact .inr ⟨same, Final.concludes hold old clock⟩

theorem Places.invalidConfig_backed {r : ρ} {old : σ} {e : OperatorError} {s : Controller}
    (hplaced : placed r s.cluster) (hstatus : state (E.status r) = state old) (clock : Instant) :
    ((E.invalidConfig r e).run.run s).1 = .ok .never ∧
      Backed document old clock (view s.cluster)
        (view ((E.invalidConfig r e).run.run s).2.cluster) := by
  obtain ⟨seen, hseen⟩ := hE.observe r s
  obtain ⟨hnever, x, hx, shown⟩ := recordInvalid_never (e := e) (hE.stores r) hplaced hseen
  have hfinal : Final (state x) := .inr (.inr hx)
  exact ⟨hnever, .of_shows (Final.concludes hfinal old clock) shown hstatus⟩

theorem Places.settle_backed {r : ρ} {new old : σ} {s : Controller} (hplaced : placed r s.cluster)
    (hnever : ((E.settle r new old).run.run s).1 = .ok .never) :
    Backed document old s.clock (view s.cluster)
      (view ((E.settle r new old).run.run s).2.cluster) := by
  obtain ⟨seen, hseen⟩ := hE.observe r s
  obtain ⟨x, hx, shown⟩ := recordSettled_never (hE.stores r) hplaced hseen hnever
  exact .of_shows hx shown rfl

end Resync

/-! ## No handler asks for an immediate reconcile -/

/-- A computation that never asks for an immediate reconcile. -/
def Unhurried (m : ControllerM Requeue) : Prop := ∀ s, (m.run.run s).1 ≠ .ok .immediately

theorem Unhurried.pure {q : Requeue} (h : q ≠ .immediately) : Unhurried (pure q) := fun _ heq =>
  h (Except.ok.inj heq)

theorem Unhurried.bind {α : Type} {m : ControllerM α} {k : α → ControllerM Requeue}
    (hk : ∀ a, Unhurried (k a)) : Unhurried (m >>= k) := fun s => by
  rw [exceptState_run_bind]
  rcases m.run.run s with ⟨_ | a, s'⟩
  · simp
  · exact hk a s'

theorem successRequeue_ne_immediately (oldState newState : DriverState) (oldLast : LastUpdate)
    (now : Instant) : (successRequeue oldState oldLast newState now).1 ≠ .immediately := by
  unfold successRequeue
  split
  · simp
  · dsimp only
    split <;> simp
  · simp

section Unhurried

variable [DecidableEq σ] {observe : ControllerM (Observation σ)} {store : σ → ControllerM ρ} {r : ρ}
  {new old : σ} {e : OperatorError}

theorem recordInvalid_unhurried : Unhurried (recordInvalid observe store r old e) :=
  .bind fun _ => .bind fun _ => .bind fun _ => .pure (by simp)

theorem recordSettled_unhurried : Unhurried (recordSettled observe store r new old) := by
  refine .bind fun seen => .bind fun now => .bind fun written => ?_
  cases written
  · exact .pure (by simp)
  · exact .pure (successRequeue_ne_immediately _ _ _ _)

theorem recordConverged_unhurried : Unhurried (recordConverged observe store r new old) := by
  refine .bind fun seen => .bind fun _ => .bind fun _ => .pure ?_
  split <;> simp

theorem recordFailed_unhurried : Unhurried (recordFailed observe store r new old e) := by
  refine .bind fun seen => .bind fun now => ?_
  dsimp only
  split
  · exact .bind fun _ => .pure (by simp)
  · split
    · exact .bind fun _ => .pure (by simp)
    · exact .pure (by simp)

theorem resync_unhurried (E : Engine ρ σ) (provisional : Bool) :
    Unhurried (E.resync r provisional new old) := by
  unfold resync
  dsimp only
  -- after the provisional write, if there is one, the spec is validated, converged and recorded
  split
  on_goal 1 => refine .bind fun _ => .bind fun _ => .bind fun _ => .bind fun prepared => ?_
  on_goal 2 => refine .bind fun prepared => ?_
  all_goals
    refine .bind fun validated => ?_
    rcases validated with e | ⟨⟩
    · exact recordInvalid_unhurried
    · refine .bind fun converged => ?_
      rcases converged with e | ⟨⟩
      · exact recordFailed_unhurried
      · exact recordConverged_unhurried

end Unhurried

end Engine

/-! ## The state a stored status is read with -/

namespace Reader

variable {α : Type} {xs : List (String × Json)} {key : String} {rd : Reader α}
  {s : Option (Nat × DecodeError)}

theorem optNull_member (hnone : ((optNull ⟨xs⟩ key rd).run s).2 = none) :
    (∀ w, (Json.obj xs).get? key = some w → option rd w = .ok ((optNull ⟨xs⟩ key rd).run s).1) ∧
      ((Json.obj xs).get? key = none → ((optNull ⟨xs⟩ key rd).run s).1 = none) := by
  constructor
  · intro w hw
    have hloc := Members.locate_of_get? hw
    cases hopt : option rd w with
    | ok a => rw [optNull_value hloc hopt]
    | error e =>
      -- a member that does not read leaves a fault behind
      exfalso
      change ((opt ⟨xs⟩ key (option rd)).run s).2 = none at hnone
      unfold opt at hnone
      split at hnone
      · next i v hl =>
        simp only [hl, Option.map_some, Option.some.injEq] at hloc
        subst hloc
        have fails : inside (.key key) (fun j => (option rd j).map some) v =
            .error { e with path := .key key :: e.path } := by
          simp [inside, hopt, Except.map]
        exact present_error fails s hnone
      · next hl => simp [hl] at hloc
  · intro hw
    have habsent : ∀ q ∈ xs, q.1 ≠ key := fun q hq heq => by
      have hnone : xs.find? (·.1 == key) = none := by simpa [Json.get?] using hw
      exact List.find?_eq_none.1 hnone q hq (by simp [heq])
    rw [optNull_run_absent (Members.holds_absent habsent).1]

end Reader

open Reader

theorem DriverResource.status_member {family : DriverKind} {j : Json} {r : DriverResource}
    (h : DriverResource.read family j = .ok r) :
    (∀ w, j.get? "status" = some w → option DriverStatus.read w = .ok r.status) ∧
      (j.get? "status" = none → r.status = none) := by
  cases j with
  | obj xs =>
    unfold DriverResource.read at h
    have hrun := Reader.record_run h
    simp only [scan_bind_run] at hrun
    obtain ⟨rfl, hnone⟩ := Prod.mk.inj hrun
    exact optNull_member hnone
  | _ => simp [DriverResource.read, record, wrongType, fail] at h

theorem ProxyResource.status_member {j : Json} {p : ProxyResource}
    (h : ProxyResource.read j = .ok p) :
    (∀ w, j.get? "status" = some w → option ProxyStatus.read w = .ok p.status) ∧
      (j.get? "status" = none → p.status = none) := by
  cases j with
  | obj xs =>
    unfold ProxyResource.read at h
    have hrun := Reader.record_run h
    simp only [scan_bind_run] at hrun
    obtain ⟨rfl, hnone⟩ := Prod.mk.inj hrun
    exact optNull_member hnone
  | _ => simp [ProxyResource.read, record, wrongType, fail] at h

theorem DriverResource.status_congr {family family' : DriverKind} {j j' : Json}
    {r r' : DriverResource} (h : DriverResource.read family j = .ok r)
    (h' : DriverResource.read family' j' = .ok r') (hstatus : j'.get? "status" = j.get? "status") :
    r'.status = r.status := by
  obtain ⟨present, absent⟩ := DriverResource.status_member h
  obtain ⟨present', absent'⟩ := DriverResource.status_member h'
  cases hw : j.get? "status" with
  | none => rw [absent hw, absent' (hstatus.trans hw)]
  | some w => exact Except.ok.inj ((present' w (hstatus.trans hw)).symm.trans (present w hw))

theorem DriverResource.state_of_written {family : DriverKind} {j : Json} {r : DriverResource}
    {x : DriverStatus} (h : DriverResource.read family j = .ok r)
    (hstatus : j.get? "status" = some x.toJson) : (r.status.getD {}).state = x.state := by
  have hopt := (DriverResource.status_member h).1 _ hstatus
  -- a written status is an object, so its member is read by the status reader
  have hobj : option DriverStatus.read x.toJson = (DriverStatus.read x.toJson).map some := rfl
  rw [hobj] at hopt
  cases hread : DriverStatus.read x.toJson with
  | error e =>
    rw [hread] at hopt
    cases hopt
  | ok st =>
    rw [hread] at hopt
    simp only [Except.map, Except.ok.injEq] at hopt
    rw [← hopt, Option.getD_some]
    exact (DriverStatus.parts_of_read_toJson hread).1

theorem ProxyResource.state_of_written {j : Json} {p : ProxyResource} {x : ProxyStatus}
    (h : ProxyResource.read j = .ok p) (hstatus : j.get? "status" = some x.toJson) :
    (p.status.getD {}).state = x.state := by
  have hopt := (ProxyResource.status_member h).1 _ hstatus
  have hobj : option ProxyStatus.read x.toJson = (ProxyStatus.read x.toJson).map some := rfl
  rw [hobj] at hopt
  cases hread : ProxyStatus.read x.toJson with
  | error e =>
    rw [hread] at hopt
    cases hopt
  | ok st =>
    rw [hread] at hopt
    simp only [Except.map, Except.ok.injEq] at hopt
    rw [← hopt, Option.getD_some]
    exact (ProxyStatus.parts_of_read_toJson hread).1

theorem Meta.get?_setMeta (obj : Json) {field key : String} (v : Json) (h : field ≠ key) :
    (Meta.of (Cluster.setMeta obj field v)).get? key = (Meta.of obj).get? key := by
  unfold Cluster.setMeta
  split
  · next md _ hmd =>
    rw [Meta.of, Json.get?_set_self, Option.getD_some, Meta.of, hmd, Option.getD_some]
    exact Json.get?_set_of_ne _ _ h
  · rfl

namespace Cluster

theorem update_members {c c' : Cluster} {k : ResourceKind} {obj v : Json}
    (h : (update k obj).run.run c = (.ok v, c')) :
    (∀ key, key ≠ "status" → key ≠ "metadata" → v.get? key = obj.get? key) ∧
    (∀ field, field ≠ "uid" → field ≠ "resourceVersion" →
      (Meta.of v).get? field = (Meta.of obj).get? field) := by
  obtain ⟨existing, hfound, hon, hfail, -⟩ := update_ok h
  simp only [update, exceptState_run_bind, reach_run hon, checkFailure_run hfail,
    exceptState_run_get, hfound, exceptState_run_liftM, exceptState_run_modify,
    exceptState_run_pure] at h
  have hv := Except.ok.inj (congrArg Prod.fst h)
  subst hv
  constructor
  · intro key hstatus hmeta
    rw [get?_bumpVersion _ hmeta]
    split <;> (try rw [get?_setMeta _ _ _ hmeta]) <;> split <;>
      (try rw [get?_setMeta _ _ _ hmeta]) <;> split <;>
      simp [Json.get?_set_of_ne _ _ (Ne.symm hstatus), Json.get?_erase_of_ne _ (Ne.symm hstatus)]
  · intro field huid hrv
    rw [bumpVersion, Meta.get?_setMeta _ _ (Ne.symm hrv)]
    split <;> (try rw [Meta.get?_setMeta _ _ (Ne.symm hrv)]) <;> split <;>
      (try rw [Meta.get?_setMeta _ _ (Ne.symm huid)]) <;> split <;>
      simp [Meta.of_set_of_ne _ _ (show "status" ≠ "metadata" by decide),
        Meta.of_erase_of_ne _ (show "status" ≠ "metadata" by decide)]

theorem status_of_updateStatus {c c' : Cluster} {k : ResourceKind} {obj v : Json}
    (h : (updateStatus k obj).run.run c = (.ok v, c')) :
    v.get? "status" = some ((obj.get? "status").getD .null) := by
  by_cases hon : c.online = true
  swap
  · simp only [updateStatus, exceptState_run_bind, reach_error (by simpa using hon)] at h
    cases h
  cases hfail : c.failing .updateStatus k
  · cases hfound : c.find? (keyOf k obj) with
    | none =>
      simp only [updateStatus, exceptState_run_bind, reach_run hon, checkFailure_run hfail,
        exceptState_run_get, hfound] at h
      cases h
    | some existing =>
      rw [updateStatus_run hon hfail hfound, Prod.mk.injEq, Except.ok.injEq] at h
      rw [← h.1, get?_bumpVersion _ (by decide), Json.get?_set_self]
  · obtain ⟨e, he⟩ := checkFailure_error hfail
    simp only [updateStatus, exceptState_run_bind, reach_run hon, he] at h
    cases h

end Cluster

namespace Reconcile

open Controller

theorem engine_answersState (setup : ReconcilerSetup) (config : ResolvedConfig) :
    (engine setup config).AnswersState where
  store r x s r' s' h := by
    rw [engine_storeStatus, storeStatus, exceptState_run_bind, onCluster_run] at h
    rcases hup : (Cluster.updateStatus (.driver r.family)
        { r with status := some x }.toJson).run.run s.cluster with ⟨_ | v, c⟩
    · rw [hup] at h
      cases h
    rw [hup] at h
    obtain ⟨hread, -⟩ := readDriver_ok h
    have hstatus := Cluster.status_of_updateStatus hup
    rw [DriverResource.get?_toJson_status, Option.map_some, Option.getD_some] at hstatus
    exact DriverResource.state_of_written hread hstatus
  prepare r s r' s' h hstate := by
    rw [engine_prepare, exceptState_run_bind] at h
    rcases hup : (updateDriver r).run.run s with ⟨_ | stored, s₁⟩
    · rw [hup] at h
      cases h
    rw [hup] at h
    dsimp only at h
    rw [exceptState_run_pure, Prod.mk.injEq, Except.ok.injEq] at h
    obtain ⟨rfl, -⟩ := h
    -- a resource that records a state has a status, which the write-back keeps
    cases hst : r.status with
    | none =>
      rw [engine_status, hst] at hstate
      exact (hstate rfl).elim
    | some st => simp [hst]

end Reconcile

namespace Proxy

open Controller

theorem engine_answersState (ns : String) : (engine ns).AnswersState where
  store p x s p' s' h := by
    rw [engine_storeStatus, storeStatus, exceptState_run_bind, onCluster_run] at h
    rcases hup : (Cluster.updateStatus .reverseProxy
        { p with status := some x }.toJson).run.run s.cluster with ⟨_ | v, c⟩
    · rw [hup] at h
      cases h
    rw [hup] at h
    obtain ⟨hread, -⟩ := readProxy_ok h
    have hstatus := Cluster.status_of_updateStatus hup
    rw [ProxyResource.get?_toJson_status, Option.map_some, Option.getD_some] at hstatus
    exact ProxyResource.state_of_written hread hstatus
  prepare p s p' s' h _ := by
    rw [engine_prepare, exceptState_run_pure, Prod.mk.injEq, Except.ok.injEq] at h
    rw [h.1]

end Proxy

end CsiOperator
