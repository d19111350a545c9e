import Mathlib
import CsiOperator.Proofs.Escalation
import CsiOperator.Proofs.SpecReadBack
/-!
What a settled status stands for, over a whole run.

A driver instance shown `Running` or `Succeeded` was last converged successfully, on the
defaulted spec its recorded fingerprint was taken from. This holds at the start and end of every
reconcile of a run begun with no settled status shown, whatever the server refuses and whatever
happens in between that keeps the status and runs no convergence of the instance
(`settled_statuses_follow_syncs`).

The invariant is `SyncsBacked`. A reconcile keeps it (`Reconcile.reconcile_syncStep`): it shows
no settled status but one shown before (`Steady`), or runs one convergence and shows a settled
status only once it succeeded, with the fingerprint converged for (`Syncs`). A settled status is
resynced only provisionally, with `Updating` written first, and the spec converged is the one
written back (`SpecReadBack`).
-/

namespace CsiOperator

open Controller LifecycleStatus

/-! ## Settled statuses -/

/-- The states a successful convergence records. -/
def DriverState.Settled (st : DriverState) : Prop := st = .running ∨ st = .succeeded

instance : DecidablePred DriverState.Settled := fun _ => inferInstanceAs (Decidable (_ ∨ _))

/-- Shown at a place: a status that records a settled state and the fingerprint `h`. -/
def ShowsSettled (recorded : Json → Option Recorded) (shown : Option Json) (h : Nat) : Prop :=
  ∃ v o, shown = some v ∧ recorded v = some o ∧ o.state.Settled ∧ o.hash = h

theorem showsSettled_iff_bind {recorded : Json → Option Recorded} {shown : Option Json} {h : Nat} :
    ShowsSettled recorded shown h ↔ ∃ o, shown.bind recorded = some o ∧ o.state.Settled ∧ o.hash = h := by
  constructor
  · rintro ⟨v, o, rfl, ho, hsettled, hh⟩
    exact ⟨o, ho, hsettled, hh⟩
  · rintro ⟨o, ho, hsettled, hh⟩
    obtain ⟨v, rfl, hv⟩ := Option.bind_eq_some_iff.1 ho
    exact ⟨v, o, rfl, hv, hsettled, hh⟩

theorem Path.decide_eq_checkStateOnly {st : DriverState} {changed force : Bool}
    (h : Path.decide st changed force = .checkStateOnly) : st.Settled ∧ changed = false := by
  revert h
  cases st <;> cases changed <;> cases force <;> decide

theorem Path.not_settled_of_resync {st : DriverState} {force : Bool}
    (h : Path.decide st false force = .resync) : ¬st.Settled := by
  revert h
  cases st <;> cases force <;> decide

theorem Path.status_of_checkStateOnly {status : Option DriverStatus} {fp : Nat} {force : Bool}
    (h : Path.decide (status.getD {}).state (fp != (status.getD {}).driverHash) force = .checkStateOnly) :
    ∃ st, status = some st ∧ st.state.Settled ∧ st.driverHash = fp := by
  obtain ⟨hsettled, hsame⟩ := Path.decide_eq_checkStateOnly h
  cases status with
  | none => exact absurd hsettled (by decide)
  | some st => exact ⟨st, rfl, hsettled, (by simpa using hsame : fp = st.driverHash).symm⟩

section Documents

variable {σ : Type} [LifecycleStatus σ]

/-- The documents of statuses read back with their state, and with their fingerprint when it is
a 64-bit one. -/
def ReadsSettled (recorded : Json → Option Recorded) (document : σ → Json) : Prop :=
  ∀ x o, recorded (document x) = some o → o.state = state x ∧ (hash x < 2 ^ 64 → o.hash = hash x)

variable {recorded : Json → Option Recorded} {document : σ → Json}

theorem ReadsSettled.unsettled (h : ReadsSettled recorded document) {x : σ}
    (hx : ¬(state x).Settled) (n : Nat) : ¬ShowsSettled recorded (some (document x)) n := by
  rintro ⟨v, o, hv, ho, hsettled, -⟩
  obtain rfl := Option.some.inj hv
  exact hx ((h x o ho).1 ▸ hsettled)

theorem ReadsSettled.hash_eq (h : ReadsSettled recorded document) {x : σ} (hx : hash x < 2 ^ 64)
    {n : Nat} (hshows : ShowsSettled recorded (some (document x)) n) : n = hash x := by
  obtain ⟨v, o, hv, ho, -, rfl⟩ := hshows
  obtain rfl := Option.some.inj hv
  exact (h x o ho).2 hx

end Documents

open Reader Members in
theorem DriverStatus.hash_of_read_toJson {st st' : DriverStatus}
    (h : DriverStatus.read st.toJson = .ok st') (hlt : st.driverHash < 2 ^ 64) :
    st'.driverHash = st.driverHash := by
  have held := holds_of_nodup (l := [("controllerStatus", st.controllerStatus.toJson),
    ("nodeStatus", st.nodeStatus.toJson), ("driverHash", .int st.driverHash),
    ("state", .str st.state.name), ("lastUpdate", st.lastUpdate.toJson)]) (by simp)
  have hash : Holds _ "driverHash" (some (.int st.driverHash)) := held (by simp)
  unfold DriverStatus.toJson at h
  rw [← record_value h]
  exact (dflt_value hash.locate).trans (by rw [Reader.u64_int hlt]; rfl)

theorem DriverStatus.readsSettled : ReadsSettled (Recorded.read DriverStatus.read) DriverStatus.toJson := by
  intro x o ho
  obtain ⟨st, hst, rfl⟩ := Recorded.read_eq_some ho
  exact ⟨(DriverStatus.parts_of_read_toJson hst).1, DriverStatus.hash_of_read_toJson hst⟩

theorem DriverResource.showsSettled_iff {family : DriverKind} {key : Cluster.Key} {c : Cluster}
    {j : Json} {r : DriverResource} (hfound : c.find? key = some j)
    (hread : DriverResource.read family j = .ok r) (n : Nat) :
    ShowsSettled (Recorded.read DriverStatus.read) (c.statusAt key) n ↔
      ∃ st, r.status = some st ∧ st.state.Settled ∧ st.driverHash = n := by
  have hshown : c.statusAt key = j.get? "status" := by simp [Cluster.statusAt, hfound]
  rw [hshown, showsSettled_iff_bind,
    Recorded.read_member DriverStatus.read_null (DriverResource.status_member hread)]
  cases r.status with
  | none => simp
  | some st =>
    simp only [Option.map_some, Option.some.injEq, exists_eq_left']
    exact Iff.rfl

/-! ## The last convergence of an instance -/

/-- The last convergence of `key` a log records. -/
def lastConvergence (key : Cluster.Key) (log : List Convergence) : Option Convergence :=
  (log.filter fun cv => cv.key = key).getLast?

theorem lastConvergence_append_of_ne {key : Cluster.Key} {log added : List Convergence}
    (h : ∀ cv ∈ added, cv.key ≠ key) : lastConvergence key (log ++ added) = lastConvergence key log := by
  have hnone : added.filter (fun cv => cv.key = key) = [] :=
    List.filter_eq_nil_iff.2 fun cv hcv => by simpa using h cv hcv
  simp only [lastConvergence, List.filter_append, hnone, List.append_nil]

theorem lastConvergence_append_self {key : Cluster.Key} {log : List Convergence} {cv : Convergence}
    (h : cv.key = key) : lastConvergence key (log ++ [cv]) = some cv := by
  simp [lastConvergence, List.filter_append, h]

/-! ## What a reconcile keeps -/

section Steps

variable (recorded : Json → Option Recorded) (view : Cluster → Option Json) (key : Cluster.Key)
  (synced : Nat → Json → Prop)

/-- While a settled status is shown at the place, the last convergence of `key` succeeded, on a
spec `synced` for the fingerprint the status records. -/
def SyncsBacked (s : Controller) : Prop :=
  ∀ h, ShowsSettled recorded (view s.cluster) h →
    ∃ cv, lastConvergence key s.converged = some cv ∧ cv.ok = true ∧ synced h cv.spec

/-- A run that runs no convergence, after which a settled status shown was shown before. -/
structure Steady (s s' : Controller) : Prop where
  converged : s'.converged = s.converged
  shown : ∀ h, ShowsSettled recorded (view s'.cluster) h → ShowsSettled recorded (view s.cluster) h

/-- A run that runs one convergence, of `key`, and leaves a settled status shown only once that
convergence succeeded, on a spec synced for the fingerprint the status records. -/
def Syncs (s s' : Controller) : Prop :=
  ∃ cv, s'.converged = s.converged ++ [cv] ∧ cv.key = key ∧
    ∀ h, ShowsSettled recorded (view s'.cluster) h → cv.ok = true ∧ synced h cv.spec

/-- What a reconcile does to the settled statuses shown at the place: it keeps them, or syncs. -/
def SyncStep (s s' : Controller) : Prop :=
  Steady recorded view s s' ∨ Syncs recorded view key synced s s'

/-- What may happen between two reconciles: anything that keeps the status shown and runs no
convergence of `key`. -/
structure Untouched (s s' : Controller) : Prop where
  shown : view s'.cluster = view s.cluster
  converged : ∃ added, s'.converged = s.converged ++ added ∧ ∀ cv ∈ added, cv.key ≠ key

end Steps

section Runs

variable {recorded : Json → Option Recorded} {view : Cluster → Option Json} {key : Cluster.Key}
  {synced : Nat → Json → Prop} {s s₁ s' : Controller}

instance : Std.Refl (Steady recorded view) := ⟨fun _ => ⟨rfl, fun _ h => h⟩⟩

instance : IsTrans Controller (Steady recorded view) :=
  ⟨fun _ _ _ h₁ h₂ => ⟨h₂.converged.trans h₁.converged, fun n h => h₁.shown n (h₂.shown n h)⟩⟩

theorem KeepsShown.steady (h : KeepsShown view s s') : Steady recorded view s s' :=
  ⟨h.1.2.1, fun _ hshows => h.2 ▸ hshows⟩

theorem Steady.of_tick {t : Instant} (h : Steady recorded view { s with clock := t } s') :
    Steady recorded view s s' :=
  ⟨h.converged, h.shown⟩

theorem SyncStep.of_steady_left (h₁ : Steady recorded view s s₁)
    (h₂ : SyncStep recorded view key synced s₁ s') : SyncStep recorded view key synced s s' := by
  rcases h₂ with h₂ | ⟨cv, hcv, hkey, hshown⟩
  · exact .inl (IsTrans.trans _ _ _ h₁ h₂)
  · exact .inr ⟨cv, by rw [hcv, h₁.converged], hkey, hshown⟩

theorem SyncsBacked.of_unsettled (h : ∀ n, ¬ShowsSettled recorded (view s.cluster) n) :
    SyncsBacked recorded view key synced s :=
  fun n hshows => absurd hshows (h n)

theorem SyncsBacked.syncStep (hinv : SyncsBacked recorded view key synced s)
    (hstep : SyncStep recorded view key synced s s') : SyncsBacked recorded view key synced s' := by
  intro h hshows
  rcases hstep with hsteady | ⟨cv, hcv, hkey, hsynced⟩
  · rw [hsteady.converged]
    exact hinv h (hsteady.shown h hshows)
  · obtain ⟨hok, hspec⟩ := hsynced h hshows
    exact ⟨cv, by rw [hcv, lastConvergence_append_self hkey], hok, hspec⟩

theorem SyncsBacked.untouched (hinv : SyncsBacked recorded view key synced s)
    (hu : Untouched view key s s') : SyncsBacked recorded view key synced s' := by
  obtain ⟨added, hadded, hother⟩ := hu.converged
  intro h hshows
  rw [hu.shown] at hshows
  rw [hadded, lastConvergence_append_of_ne hother]
  exact hinv h hshows

theorem SyncsBacked.along {m : ControllerM Requeue} {ready : Controller → Prop}
    (hm : ∀ s, ready s → SyncStep recorded view key synced s (m.run.run s).2)
    {steps : List (Controller × Controller)}
    (hruns : ∀ step ∈ steps, ready step.1 ∧ (m.run.run step.1).2 = step.2)
    (hchain : steps.IsChain fun a b => Untouched view key a.2 b.1)
    (hstart : ∀ first ∈ steps.head?, SyncsBacked recorded view key synced first.1) :
    ∀ step ∈ steps, SyncsBacked recorded view key synced step.1 ∧
      SyncsBacked recorded view key synced step.2 := by
  induction steps with
  | nil => simp
  | cons step rest ih =>
    have hfirst := hstart step rfl
    obtain ⟨hready, hend⟩ := hruns step List.mem_cons_self
    have hafter : SyncsBacked recorded view key synced step.2 :=
      hend ▸ hfirst.syncStep (hm step.1 hready)
    intro st hst
    rcases List.mem_cons.1 hst with rfl | hrest
    · exact ⟨hfirst, hafter⟩
    refine ih (fun st' h => hruns st' (List.mem_cons_of_mem _ h)) hchain.tail
      (fun next hnext => ?_) st hrest
    cases rest with
    | nil => cases hnext
    | cons next' rest' =>
      cases hnext
      exact hafter.untouched (List.isChain_cons_cons.1 hchain).1

end Runs

/-! ## The handlers -/

namespace Engine

variable {ρ σ : Type} [DecidableEq σ] [LifecycleStatus σ]

/-- A store that leaves the status shown at a place as it was, or shows there the status it
stores, whether the server answers or not. -/
def ShowsOrKeeps (store : σ → ControllerM ρ) (view : Cluster → Option Json) (document : σ → Json) :
    Prop :=
  ∀ x s, view ((store x).run.run s).2.cluster = view s.cluster ∨
    view ((store x).run.run s).2.cluster = some (document x)

section Handlers

variable {store : σ → ControllerM ρ} {view : Cluster → Option Json} {document : σ → Json}
  {recorded : Json → Option Recorded} {observe : ControllerM (Observation σ)}
  {seen : Observation σ} {s : Controller}

theorem ShowsOrKeeps.writeStatus_shown (h : ShowsOrKeeps store view document)
    (hlog : ∀ x, Stays SameLog (store x)) (r : ρ) (x old : σ) (s : Controller) :
    SameLog s ((writeStatus store r x old).run.run s).2 ∧
      (view ((writeStatus store r x old).run.run s).2.cluster = view s.cluster ∨
        view ((writeStatus store r x old).run.run s).2.cluster = some (document x)) := by
  rw [writeStatus_run]
  split
  · exact ⟨rfl, .inl rfl⟩
  · exact ⟨hlog x _, h x _⟩

theorem ShowsOrKeeps.writeStatus_steady (h : ShowsOrKeeps store view document)
    (hlog : ∀ x, Stays SameLog (store x)) (r : ρ) (x old : σ) (s : Controller)
    (hx : ∀ n, ShowsSettled recorded (some (document x)) n →
      ShowsSettled recorded (view s.cluster) n) :
    Steady recorded view s ((writeStatus store r x old).run.run s).2 := by
  obtain ⟨hsame, hshown⟩ := h.writeStatus_shown hlog r x old s
  refine ⟨hsame, fun n hn => ?_⟩
  rcases hshown with hv | hv <;> rw [hv] at hn
  · exact hn
  · exact hx n hn

theorem ShowsOrKeeps.writeStatus_unsettled (h : ShowsOrKeeps store view document)
    (hlog : ∀ x, Stays SameLog (store x)) (hread : ReadsSettled recorded document) (r : ρ)
    (x old : σ) (t : Instant) (hx : ¬(state x).Settled) :
    Steady recorded view s ((writeStatus store r x old).run.run { s with clock := t }).2 :=
  Steady.of_tick (h.writeStatus_steady hlog r x old _ fun n hn => absurd hn (hread.unsettled hx n))

variable (h : ShowsOrKeeps store view document) (hlog : ∀ x, Stays SameLog (store x))
  (hread : ReadsSettled recorded document) (hseen : observe.run.run s = (.ok seen, s))
include h hlog hread hseen

theorem ShowsOrKeeps.recordInvalid_steady (r : ρ) (old : σ) (e : OperatorError) :
    Steady recorded view s ((recordInvalid observe store r old e).run.run s).2 := by
  rw [recordInvalid_run hseen]
  exact h.writeStatus_unsettled hlog hread r _ old _ (by simp [DriverState.Settled])

theorem ShowsOrKeeps.recordSettled_steady (r : ρ) (new old : σ) (hlt : hash new < 2 ^ 64)
    (hold : ShowsSettled recorded (view s.cluster) (hash new)) :
    Steady recorded view s ((recordSettled observe store r new old).run.run s).2 := by
  rw [recordSettled_run hseen]
  refine Steady.of_tick (h.writeStatus_steady hlog r _ old _ fun n hn => ?_)
  have hhash := hread.hash_eq (by simpa using hlt) hn
  simp only [hash_withLastUpdate, hash_withState, Observation.hash_pods] at hhash
  exact hhash ▸ hold

theorem ShowsOrKeeps.recordFailed_steady (r : ρ) (new old : σ) (e : OperatorError)
    (hnew : state new = .updating) :
    Steady recorded view s ((recordFailed observe store r new old e).run.run s).2 := by
  rw [recordFailed_run hseen]
  cases failureDecision (lastUpdate old) s.clock with
  | escalate =>
    exact h.writeStatus_unsettled hlog hread r _ old _ (by simp [DriverState.Settled])
  | retry wait =>
    dsimp only
    split
    · exact h.writeStatus_unsettled hlog hread r _ old _ (by simp [DriverState.Settled, hnew])
    · exact ⟨rfl, fun _ hn => hn⟩

theorem ShowsOrKeeps.recordConverged_shown (r : ρ) (new old : σ) (hlt : hash new < 2 ^ 64) :
    SameLog s ((recordConverged observe store r new old).run.run s).2 ∧
      ∀ n, ShowsSettled recorded (view ((recordConverged observe store r new old).run.run s).2.cluster) n →
        ShowsSettled recorded (view s.cluster) n ∨ n = hash new := by
  rw [recordConverged_run hseen]
  obtain ⟨hsame, hshown⟩ := h.writeStatus_shown hlog r _ old { s with clock := s.clock.tick }
  refine ⟨hsame, fun n hn => ?_⟩
  rcases hshown with hv | hv <;> rw [hv] at hn
  · exact .inl hn
  · have hhash := hread.hash_eq (by simpa using hlt) hn
    simp only [hash_withLastUpdate, hash_withState, Observation.hash_pods] at hhash
    exact .inr hhash

end Handlers

end Engine

/-! ## The driver reconciler -/

theorem Cluster.statusAt_updateStatus_or (k : ResourceKind) (obj : Json) (c : Cluster)
    (key : Cluster.Key) :
    ((Cluster.updateStatus k obj).run.run c).2.statusAt key = c.statusAt key ∨
      ((Cluster.updateStatus k obj).run.run c).2.statusAt key =
        some ((obj.get? "status").getD .null) := by
  rcases hrun : (Cluster.updateStatus k obj).run.run c with ⟨_ | v, c'⟩
  · have unchanged := Cluster.updateStatus_atomic k obj c
    simp only [Cluster.Atomic, hrun] at unchanged
    exact .inl (by rw [unchanged])
  · obtain ⟨existing, -, hobjects, rfl⟩ := Cluster.updateStatus_stores hrun
    simp only [Cluster.statusAt, Cluster.find?_objects, hobjects, Cluster.find?_putObject]
    split
    · right
      rw [Option.bind_some, Cluster.get?_bumpVersion _ (by decide), Json.get?_set_self]
    · exact .inl rfl

namespace Reconcile

variable {family : DriverKind} {key : Cluster.Key}

theorem storeStatus_log (r : DriverResource) (x : DriverStatus) : Stays SameLog (storeStatus r x) :=
  fun s => (storeStatus_only r x s).2.1

theorem storeStatus_showsOrKeeps (r : DriverResource) (key : Cluster.Key) :
    Engine.ShowsOrKeeps (storeStatus r) (Cluster.statusAt · key) DriverStatus.toJson := by
  intro x s
  rw [storeStatus_state]
  dsimp only
  rcases Cluster.statusAt_updateStatus_or (.driver r.family) { r with status := some x }.toJson
    s.cluster key with hkept | hwritten
  · exact .inl hkept
  · right
    rw [hwritten, DriverResource.get?_toJson_status]
    rfl

theorem storeStatus_answered {r r' : DriverResource} {x : DriverStatus} {s s' : Controller}
    (hr : Keyed family key r) (h : (storeStatus r x).run.run s = (.ok r', s')) :
    s'.cluster.statusAt key = some x.toJson := by
  obtain ⟨hfamily, hkey⟩ := hr
  subst hfamily
  unfold storeStatus at h
  rw [exceptState_run_bind, onCluster_run] at h
  rcases hwrite : (Cluster.updateStatus (.driver r.family)
      { r with status := some x }.toJson).run.run s.cluster with ⟨_ | v, c'⟩ <;> rw [hwrite] at h
  · cases h
  obtain ⟨-, rfl⟩ := readDriver_ok h
  have samekey : Cluster.keyOf (.driver r.family) { r with status := some x }.toJson = key := by
    rw [← hkey]
    simp only [DriverResource.keyOf_toJson]
  obtain ⟨existing, -, hobjects, rfl⟩ := Cluster.updateStatus_stores hwrite
  simp only [Cluster.statusAt, Cluster.find?_objects, hobjects, Cluster.find?_putObject, samekey,
    if_pos, Option.bind_some]
  rw [Cluster.get?_bumpVersion _ (by decide), Json.get?_set_self, DriverResource.get?_toJson_status]
  rfl

theorem invalidConfig_steady (r : DriverResource) (controllerHA : Bool) (e : OperatorError)
    (s : Controller) :
    Steady (Recorded.read DriverStatus.read) (Cluster.statusAt · key) s
      ((invalidConfig r controllerHA e).run.run s).2 := by
  obtain ⟨seen, hseen⟩ := observation_answers r controllerHA s
  exact (storeStatus_showsOrKeeps r key).recordInvalid_steady (storeStatus_log r)
    DriverStatus.readsSettled hseen r _ e

/-- A spec synced for the fingerprint `h`: the spec of a resource whose spec has fingerprint `h`,
once its configuration is resolved, its defaults applied and a forced update cleared. -/
def Synced (setup : ReconcilerSetup) (family : DriverKind) (h : Nat) (spec : Json) : Prop :=
  ∃ r config u r', r.family = family ∧ resolveConfig setup r = .ok config ∧
    Digest.fingerprint r.specText = h ∧ applyDefaults r config = .ok (u, r') ∧
    spec = ({ r'.spec with forceUpdate := false } : DriverSpec).specJson

theorem driverHash_restamped (old : DriverStatus) (fingerprint : Nat) :
    (if (fingerprint != old.driverHash) = true then { old with driverHash := fingerprint }
      else old).driverHash = fingerprint := by
  split
  · rfl
  · next same => exact (by simpa using same : fingerprint = old.driverHash).symm

theorem cleared_eq (r : DriverResource) :
    (if r.spec.forceUpdate then { r with spec := { r.spec with forceUpdate := false } } else r) =
      { r with spec := { r.spec with forceUpdate := false } } := by
  split
  · rfl
  · next unset =>
    obtain ⟨family, metadata, spec, status⟩ := r
    cases spec
    simp_all

theorem applyDefaults_metadata {r r' : DriverResource} {config : ResolvedConfig} {u : Bool}
    (hr : ∃ m, Kube.Schema.read Kube.objectMeta r.metadata = .ok m)
    (h : applyDefaults r config = .ok (u, r')) :
    ∃ m, Kube.Schema.read Kube.objectMeta r'.metadata = .ok m := by
  obtain ⟨m, hm⟩ := hr
  rcases applyDefaults_answer (.inl ⟨u, h⟩) with rfl | ⟨d, as, rfl⟩
  · exact ⟨m, hm⟩
  · exact Kube.keepsMeta_annotations as _ _ hm

section Resync

variable (setup : ReconcilerSetup) (config : ResolvedConfig)

theorem settle_steady {r : DriverResource} {new old : DriverStatus} {s : Controller} {fp : Nat}
    (hnew : new.driverHash = fp) (hlt : fp < 2 ^ 64)
    (hold : ShowsSettled (Recorded.read DriverStatus.read) (s.cluster.statusAt key) fp) :
    Steady (Recorded.read DriverStatus.read) (Cluster.statusAt · key) s
      (((engine setup config).settle r new old).run.run s).2 := by
  subst hnew
  obtain ⟨seen, hseen⟩ := observation_answers r config.controllerHA s
  exact (storeStatus_showsOrKeeps r key).recordSettled_steady (storeStatus_log r)
    DriverStatus.readsSettled hseen r new old hlt hold

theorem engine_converge_run {r : DriverResource} (hr : Keyed family key r) (s : Controller) :
    ∃ o s', ((engine setup config).converge r).run.run s = (.ok o, s') ∧
      s'.converged = s.converged ++ [{ key, clock := s.clock, spec := r.spec.specJson, ok := o.isOk }] ∧
      s'.cluster.statusAt key = s.cluster.statusAt key := by
  obtain ⟨hfamily, hkey⟩ := hr
  have hinput : key.kind.isInput := by
    rw [← hkey]
    exact trivial
  rw [engine_converge, converge_run, hfamily, hkey]
  exact ⟨_, _, rfl, rfl, (Sync.syncDriver_keeps _ s.cluster).statusAt hinput⟩

theorem prepare_spec {r r₁ : DriverResource} {s s₁ : Controller} (hr : Keyed family key r)
    (hmeta : ∃ m, Kube.Schema.read Kube.objectMeta r.metadata = .ok m) (hexact : r.spec.Exact)
    (hexisting : ∀ j, s.cluster.find? key = some j → ∃ rj, DriverResource.read family j = .ok rj)
    (h : ((engine setup config).prepare r).run.run s = (.ok r₁, s₁)) :
    r₁.spec = r.spec ∧ Keyed family key r₁ ∧ SpecAt family key r.spec s₁.cluster := by
  rw [engine_prepare, exceptState_run_bind] at h
  rcases hup : (updateDriver r).run.run s with ⟨_ | stored, s'⟩ <;> rw [hup] at h
  · cases h
  dsimp only at h
  rw [exceptState_run_pure, Prod.mk.injEq, Except.ok.injEq] at h
  obtain ⟨rfl, rfl⟩ := h
  obtain ⟨hspec, hkeyed, hat⟩ := updateDriver_spec hr hmeta hexact hexisting hup
  exact ⟨hspec, hkeyed.of_metadata rfl rfl, hat⟩

theorem writeStatus_spec {d : DriverSpec} (hd : d.Exact) {r r' : DriverResource}
    {x old : DriverStatus} {s s' : Controller} (hr : Keyed family key r) (hspec : r.spec = d)
    (h : (Engine.writeStatus (storeStatus r) r x old).run.run s = (.ok r', s'))
    (hat : SpecAt family key d s.cluster) :
    r'.spec = d ∧ Keyed family key r' := by
  rw [Engine.writeStatus_run] at h
  split at h
  · rw [Prod.mk.injEq, Except.ok.injEq] at h
    obtain ⟨rfl, -⟩ := h
    exact ⟨hspec, hr⟩
  · obtain ⟨hspec', hkeyed', -⟩ := storeStatus_spec hd hr h hat
    exact ⟨hspec', hkeyed'⟩

theorem writeStatus_unsettled {r r' : DriverResource} {x old : DriverStatus} {s s' : Controller}
    (hr : Keyed family key r) (hx : ¬x.state.Settled)
    (hshown : ∀ n, ShowsSettled (Recorded.read DriverStatus.read) (s.cluster.statusAt key) n →
      old.state.Settled)
    (h : (Engine.writeStatus (storeStatus r) r x old).run.run s = (.ok r', s')) (n : Nat) :
    ¬ShowsSettled (Recorded.read DriverStatus.read) (s'.cluster.statusAt key) n := by
  intro hn
  rw [Engine.writeStatus_run] at h
  split at h
  · next same =>
    rw [Prod.mk.injEq] at h
    obtain ⟨-, rfl⟩ := h
    exact hx (same ▸ hshown n hn)
  · rw [storeStatus_answered hr h] at hn
    exact DriverStatus.readsSettled.unsettled hx n hn

theorem resync_plain_syncStep {r : DriverResource} {new old : DriverStatus} {s : Controller}
    (hr : Keyed family key r) (hlt : new.driverHash < 2 ^ 64)
    (hsynced : Synced setup family new.driverHash r.spec.specJson)
    (hnone : ∀ n, ¬ShowsSettled (Recorded.read DriverStatus.read) (s.cluster.statusAt key) n) :
    SyncStep (Recorded.read DriverStatus.read) (Cluster.statusAt · key) key (Synced setup family) s
      (((engine setup config).resync r false new old).run.run s).2 := by
  have hshows := storeStatus_showsOrKeeps r key
  rcases hvalid : (validate setup r config).run.run s.cluster with ⟨_ | _, c⟩
  · have hc : c = s.cluster := by simpa [hvalid] using (validate_stays setup r config s.cluster).symm
    subst hc
    rw [Engine.resync_run_of_invalid _ hvalid]
    exact .inl (invalidConfig_steady r config.controllerHA _ _)
  · have hc : c = s.cluster := by simpa [hvalid] using (validate_stays setup r config s.cluster).symm
    subst hc
    obtain ⟨o, s₁, hconverge, hlog₁, hview₁⟩ := engine_converge_run setup config hr s
    rw [Engine.resync_run _ hvalid hconverge]
    obtain ⟨seen, hseen⟩ := observation_answers r config.controllerHA s₁
    cases o with
    | ok u =>
      dsimp only
      -- a settled status shown afterwards is the one the successful convergence records
      obtain ⟨hsame, hshown⟩ := hshows.recordConverged_shown (storeStatus_log r)
        DriverStatus.readsSettled hseen r (withState new .updating) old hlt
      refine .inr ⟨_, Eq.trans hsame hlog₁, rfl, fun n hn => ?_⟩
      rcases hshown n hn with before | rfl
      · exact absurd (hview₁ ▸ before) (hnone n)
      · exact ⟨rfl, hsynced⟩
    | error e =>
      dsimp only
      have hsteady := hshows.recordFailed_steady (storeStatus_log r) DriverStatus.readsSettled hseen
        r (withState new .updating) old e (state_withState new .updating)
      refine .inr ⟨_, hsteady.converged.trans hlog₁, rfl, fun n hn => ?_⟩
      exact absurd (hview₁ ▸ hsteady.shown n hn) (hnone n)

theorem resync_syncStep {r : DriverResource} {provisional : Bool} {new old : DriverStatus}
    {s : Controller} (hr : Keyed family key r) (hexact : r.spec.Exact)
    (hmeta : ∃ m, Kube.Schema.read Kube.objectMeta r.metadata = .ok m)
    (hexisting : ∀ j, s.cluster.find? key = some j → ∃ rj, DriverResource.read family j = .ok rj)
    (hnew : new.state = .updating) (hlt : new.driverHash < 2 ^ 64)
    (hsynced : Synced setup family new.driverHash r.spec.specJson)
    (hshown : ∀ n, ShowsSettled (Recorded.read DriverStatus.read) (s.cluster.statusAt key) n →
      old.state.Settled)
    (hplain : provisional = false → ¬old.state.Settled) :
    SyncStep (Recorded.read DriverStatus.read) (Cluster.statusAt · key) key (Synced setup family) s
      (((engine setup config).resync r provisional new old).run.run s).2 := by
  cases provisional with
  | false =>
    exact resync_plain_syncStep setup config hr hlt hsynced fun n hn => hplain rfl (hshown n hn)
  | true =>
    have hkeeps := (engine_clocked setup config family key).prepare r s
    rcases hprepare : ((engine setup config).prepare r).run.run s with ⟨_ | r₁, s₁⟩
    · -- a spec that cannot be written back fails the resync, keeping what is shown
      rw [Engine.resync_provisional_run_of_error _ hprepare]
      rw [hprepare] at hkeeps
      exact .inl hkeeps.steady
    · rw [hprepare] at hkeeps
      obtain ⟨hspec₁, hkeyed₁, hat₁⟩ := prepare_spec setup config hr hmeta hexact hexisting hprepare
      rw [Engine.resync_provisional_run _ hprepare]
      dsimp only
      set stamped := withLastUpdate new ((lastUpdate old).record (some .updating) "" s₁.clock)
      have hupdating : ¬stamped.state.Settled := by
        rw [show stamped.state = .updating from hnew]
        decide
      have hview₁ : s₁.cluster.statusAt key = s.cluster.statusAt key := hkeeps.2
      have hshown₁ : ∀ n, ShowsSettled (Recorded.read DriverStatus.read)
          (({ s₁ with clock := s₁.clock.tick } : Controller).cluster.statusAt key) n →
          old.state.Settled := fun n hn => hshown n (hview₁ ▸ hn)
      -- the provisional status shows no settled state, and a skipped one was `old`
      have hsteady : Steady (Recorded.read DriverStatus.read) (Cluster.statusAt · key) s
          ((Engine.writeStatus ((engine setup config).storeStatus r₁) r₁ stamped old).run.run
            { s₁ with clock := s₁.clock.tick }).2 :=
        IsTrans.trans _ _ _ hkeeps.steady ((storeStatus_showsOrKeeps r₁ key).writeStatus_unsettled
          (storeStatus_log r₁) DriverStatus.readsSettled r₁ stamped old _ hupdating)
      rcases hwrite : (Engine.writeStatus ((engine setup config).storeStatus r₁) r₁ stamped
          old).run.run { s₁ with clock := s₁.clock.tick } with ⟨_ | r₂, s₂⟩
      · rw [hwrite] at hsteady
        exact .inl hsteady
      · rw [hwrite] at hsteady
        dsimp only
        obtain ⟨hspec₂, hkeyed₂⟩ := writeStatus_spec hexact hkeyed₁ hspec₁ hwrite hat₁
        have hnone₂ := writeStatus_unsettled hkeyed₁ hupdating hshown₁ hwrite
        refine SyncStep.of_steady_left hsteady
          (resync_plain_syncStep setup config hkeyed₂ hlt ?_ hnone₂)
        rw [hspec₂]
        exact hsynced

end Resync

section Reconciles

variable (setup : ReconcilerSetup)

theorem reconcileConfigured_syncStep {config : ResolvedConfig} {r : DriverResource} {s : Controller}
    (hstored : Stored family key s.cluster r) (hconfig : resolveConfig setup r = .ok config) :
    SyncStep (Recorded.read DriverStatus.read) (Cluster.statusAt · key) key (Synced setup family) s
      ((reconcileConfigured setup config r).run.run s).2 := by
  obtain ⟨j, hfound, hread⟩ := hstored.stored
  have hkeyed : Keyed family key r := ⟨hstored.family, hstored.keyed⟩
  rw [reconcileConfigured_run]
  dsimp only
  obtain ⟨path, hpath⟩ : ∃ path, Path.decide (r.status.getD {}).state
      (Digest.fingerprint r.specText != (r.status.getD {}).driverHash) r.spec.forceUpdate = path :=
    ⟨_, rfl⟩
  rw [hpath]
  cases path with
  | stop => exact .inl (Std.Refl.refl s)
  | checkStateOnly =>
    dsimp only
    rcases happly : applyDefaults r config with ⟨e, r'⟩ | ⟨u, r'⟩ <;> dsimp only
    · exact .inl (invalidConfig_steady r' config.controllerHA e s)
    · -- the status shown is the settled one the resource is read with, of the spec's fingerprint
      have hold := (DriverResource.showsSettled_iff hfound hread _).2 (Path.status_of_checkStateOnly hpath)
      exact .inl (settle_steady setup config (driverHash_restamped _ _) (Digest.fingerprint_lt _) hold)
  | resync =>
    dsimp only
    rcases happly : applyDefaults r config with ⟨e, r'⟩ | ⟨u, r'⟩ <;> dsimp only
    · exact .inl (invalidConfig_steady r' config.controllerHA e s)
    · rw [cleared_eq]
      have hmeta := applyDefaults_metadata
        (Kube.objectMeta_rereads _ _ (DriverResource.metadata_of_read hread)) happly
      refine resync_syncStep setup config ((hkeyed.of_defaults (.inl ⟨u, happly⟩)).of_metadata rfl rfl)
        ((applyDefaults_exact (DriverResource.spec_exact_of_read hread) happly).withForceUpdate false)
        hmeta (fun j' hj' => ⟨r, Option.some.inj (hfound.symm.trans hj') ▸ hread⟩) rfl
        ?_ ?_ (fun n hn => ?_) fun hflag => ?_
      · dsimp only
        rw [driverHash_restamped]
        exact Digest.fingerprint_lt _
      · dsimp only
        rw [driverHash_restamped]
        exact ⟨r, config, u, r', hstored.family, hconfig, rfl, happly, rfl⟩
      · obtain ⟨st, hst, hsettled, -⟩ := (DriverResource.showsSettled_iff hfound hread n).1 hn
        rw [hst]
        exact hsettled
      · -- a plain resync keeps the fingerprint, and a spec left unchanged resyncs no settled status
        simp only [Bool.or_eq_false_iff] at hflag
        rw [hflag.1.2] at hpath
        exact Path.not_settled_of_resync hpath

theorem reconcileFinalized_syncStep {r : DriverResource} {s : Controller}
    (hstored : Stored family key s.cluster r) :
    SyncStep (Recorded.read DriverStatus.read) (Cluster.statusAt · key) key (Synced setup family) s
      ((reconcileFinalized setup r).run.run s).2 := by
  unfold reconcileFinalized
  cases hconfig : resolveConfig setup r with
  | error e =>
    simp only
    exact .inl (invalidConfig_steady r true e s)
  | ok config =>
    simp only [exceptState_run_bind]
    rcases recordConfigVersion_cases r config.controllerHA s with hrun | ⟨e, hrun⟩ | ⟨as, -, hrun⟩ <;>
      rw [hrun] <;> dsimp only
    · exact reconcileConfigured_syncStep setup hstored hconfig
    · exact .inl (invalidConfig_steady r config.controllerHA e s)
    · -- the annotated resource written back keeps the status shown
      exact .inl (KeepsShown.steady ⟨⟨rfl, rfl, rfl⟩, Cluster.statusAt_update _ _ _ key⟩)

theorem reconcileLive_syncStep {r : DriverResource} {s : Controller}
    (hstored : Stored family key s.cluster r) :
    SyncStep (Recorded.read DriverStatus.read) (Cluster.statusAt · key) key (Synced setup family) s
      ((reconcileLive setup r).run.run s).2 := by
  unfold reconcileLive
  rw [exceptState_run_bind]
  have hkeeps := ensureFinalizer_keepsShown key r s
  rcases hfin : (ensureFinalizer r).run.run s with ⟨_ | r₁, s₁⟩
  · rw [hfin] at hkeeps
    exact .inl hkeeps.steady
  · rw [hfin] at hkeeps
    dsimp only
    obtain ⟨hstored₁, -⟩ := ensureFinalizer_ok hstored hfin
    exact SyncStep.of_steady_left hkeeps.steady (reconcileFinalized_syncStep setup hstored₁)

theorem reconcile_syncStep (family : DriverKind) (ns name : String) {s : Controller}
    (hnames : Cluster.NamesKey (Cluster.keyFor (.driver family) (some ns) name) s.cluster) :
    SyncStep (Recorded.read DriverStatus.read)
      (Cluster.statusAt · (Cluster.keyFor (.driver family) (some ns) name))
      (Cluster.keyFor (.driver family) (some ns) name) (Synced setup family) s
      ((reconcile setup family ns name).run.run s).2 := by
  let begun := { s with attempts := s.attempts + 1 }
  have hbegun : Steady (Recorded.read DriverStatus.read)
      (Cluster.statusAt · (Cluster.keyFor (.driver family) (some ns) name)) s begun :=
    ⟨rfl, fun _ h => h⟩
  unfold reconcile
  simp only [exceptState_run_bind, begin_run]
  rcases getDriver_cases family ns name begun with ⟨e, hget⟩ | hget | ⟨j, r, hfound, hread, hget⟩ <;>
    rw [hget] <;> dsimp only
  · exact .inl hbegun
  · exact .inl hbegun
  · have hon : s.cluster.online = true := by
      cases hon : s.cluster.online
      · obtain ⟨e, he⟩ := getDriver_offline family ns name (s := begun) hon
        rw [he] at hget
        cases hget
      · rfl
    have hstored : Stored family (Cluster.keyFor (.driver family) (some ns) name) begun.cluster r :=
      Stored.of_namesKey hnames rfl hon hfound hread
    by_cases hdeleted : beingDeleted r = true
    · simp only [hdeleted, if_true]
      exact .inl (IsTrans.trans _ _ _ hbegun
        (finalize_keepsShown setup r (by exact trivial) begun).steady)
    · simp only [hdeleted, Bool.false_eq_true, if_false]
      exact SyncStep.of_steady_left hbegun (reconcileLive_syncStep setup hstored)

end Reconciles

/-- In a state, every instance stored under `key` with a settled status was last converged
successfully, on a spec synced for the fingerprint the status records. -/
def SettledSynced (setup : ReconcilerSetup) (family : DriverKind) (key : Cluster.Key)
    (s : Controller) : Prop :=
  ∀ j r st, s.cluster.find? key = some j → DriverResource.read family j = .ok r →
    r.status = some st → st.state.Settled →
      ∃ cv, lastConvergence key s.converged = some cv ∧ cv.ok = true ∧
        Synced setup family st.driverHash cv.spec

variable {setup : ReconcilerSetup} {s : Controller}

theorem settledSynced_of_syncsBacked
    (h : SyncsBacked (Recorded.read DriverStatus.read) (Cluster.statusAt · key) key
      (Synced setup family) s) :
    SettledSynced setup family key s := fun _ _ st hfound hread hst hsettled =>
  h st.driverHash ((DriverResource.showsSettled_iff hfound hread _).2 ⟨st, hst, hsettled, rfl⟩)

theorem SettledSynced.checkStateOnly (h : SettledSynced setup family key s) {j : Json}
    {r : DriverResource} (hfound : s.cluster.find? key = some j)
    (hread : DriverResource.read family j = .ok r)
    (hpath : Path.decide (r.status.getD {}).state
      (Digest.fingerprint r.specText != (r.status.getD {}).driverHash) r.spec.forceUpdate =
        .checkStateOnly) :
    ∃ cv, lastConvergence key s.converged = some cv ∧ cv.ok = true ∧
      Synced setup family (Digest.fingerprint r.specText) cv.spec := by
  obtain ⟨st, hst, hsettled, hfp⟩ := Path.status_of_checkStateOnly hpath
  rw [← hfp]
  exact h j r st hfound hread hst hsettled

end Reconcile

/-- The driver reconciler shows an instance `Running` or `Succeeded` only while its last
convergence succeeded on a spec synced for the status's fingerprint. This holds at the start and
end of each reconcile of a run, each from a state where the object under the instance's key names
it, begun with no settled status shown, with anything in between that keeps the status and runs no
convergence of it. A reconcile that begins by only checking the state finds that convergence
synced for the fingerprint of the current spec. -/
theorem settled_statuses_follow_syncs (setup : ReconcilerSetup) (family : DriverKind)
    (ns name : String) (steps : List (Controller × Controller))
    (hruns : ∀ step ∈ steps,
      Cluster.NamesKey (Cluster.keyFor (.driver family) (some ns) name) step.1.cluster ∧
        ((Reconcile.reconcile setup family ns name).run.run step.1).2 = step.2)
    (hchain : steps.IsChain fun a b =>
      Untouched (Cluster.statusAt · (Cluster.keyFor (.driver family) (some ns) name))
        (Cluster.keyFor (.driver family) (some ns) name) a.2 b.1)
    (hstart : ∀ first ∈ steps.head?, ∀ h, ¬ShowsSettled (Recorded.read DriverStatus.read)
      (first.1.cluster.statusAt (Cluster.keyFor (.driver family) (some ns) name)) h) :
    ∀ step ∈ steps,
      Reconcile.SettledSynced setup family (Cluster.keyFor (.driver family) (some ns) name) step.1 ∧
      Reconcile.SettledSynced setup family (Cluster.keyFor (.driver family) (some ns) name) step.2 ∧
      ∀ j r, step.1.cluster.find? (Cluster.keyFor (.driver family) (some ns) name) = some j →
        DriverResource.read family j = .ok r →
        Path.decide (r.status.getD {}).state
          (Digest.fingerprint r.specText != (r.status.getD {}).driverHash) r.spec.forceUpdate =
            .checkStateOnly →
        ∃ cv, lastConvergence (Cluster.keyFor (.driver family) (some ns) name) step.1.converged =
            some cv ∧ cv.ok = true ∧ Reconcile.Synced setup family (Digest.fingerprint r.specText) cv.spec := by
  intro step hstep
  have hbacked := SyncsBacked.along (fun _ hnames => Reconcile.reconcile_syncStep setup family ns name hnames)
    hruns hchain (fun first hfirst => SyncsBacked.of_unsettled (hstart first hfirst)) step hstep
  have hbefore := Reconcile.settledSynced_of_syncsBacked hbacked.1
  exact ⟨hbefore, Reconcile.settledSynced_of_syncsBacked hbacked.2, fun _ _ hfound hread hpath =>
    hbefore.checkStateOnly hfound hread hpath⟩

/-! ## An instance that settles

The PowerStore instance of `FailureBackoff`, fresh: no status yet, its configuration version
recorded and its finalizer in place, on a server that refuses nothing. Its first reconcile
converges it and shows it `Succeeded`; the second only checks its state. -/

namespace Settling

def driver : DriverResource := { Refused.driver with status := none }

def start : Controller where
  cluster := { objects := [(Cluster.keyFor (.driver .powerStore) (some "ns") "d", driver.toJson)] }
  clock := .ofSeconds 1700000000

/-- The state the first reconcile leaves. -/
def settled : Controller :=
  ((Reconcile.reconcile Refused.setup .powerStore "ns" "d").run.run start).2

end Settling

/-- Two reconciles of the fresh instance: the first shows it `Succeeded`, and then its last
convergence succeeded on a spec synced for the fingerprint it shows. -/
theorem fresh_instance_settles_synced :
    let key := Cluster.keyFor (.driver .powerStore) (some "ns") "d"
    let run := [(Settling.start, Settling.settled), (Settling.settled,
      ((Reconcile.reconcile Refused.setup .powerStore "ns" "d").run.run Settling.settled).2)]
    (∀ step ∈ run, Cluster.NamesKey key step.1.cluster ∧
        ((Reconcile.reconcile Refused.setup .powerStore "ns" "d").run.run step.1).2 = step.2) ∧
      run.IsChain (fun a b => Untouched (Cluster.statusAt · key) key a.2 b.1) ∧
      (∀ first ∈ run.head?, ∀ h, ¬ShowsSettled (Recorded.read DriverStatus.read)
        (first.1.cluster.statusAt key) h) ∧
      ((Settling.settled.cluster.statusAt key).bind (Recorded.read DriverStatus.read)).map
        (·.state) = some .succeeded ∧
      Reconcile.SettledSynced Refused.setup .powerStore key Settling.settled := by
  intro key run
  -- the first reconcile, evaluated once: the store it leaves is well keyed and shows `Succeeded`
  have hsettled : Settling.settled.cluster.objects.Pairwise (fun p q => p.1.before q.1 = true) ∧
      (∀ p ∈ Settling.settled.cluster.objects, Cluster.keyOf p.1.kind p.2 = p.1) ∧
      ((Settling.settled.cluster.statusAt key).bind (Recorded.read DriverStatus.read)).map
        (·.state) = some .succeeded := by
    decide +kernel
  have hruns : ∀ step ∈ run, Cluster.NamesKey key step.1.cluster ∧
      ((Reconcile.reconcile Refused.setup .powerStore "ns" "d").run.run step.1).2 = step.2 := by
    intro step hstep
    simp only [run, List.mem_cons, List.not_mem_nil, or_false] at hstep
    rcases hstep with rfl | rfl
    · exact ⟨Cluster.WellKeyed.namesKey ⟨by decide, by decide⟩ _, rfl⟩
    · exact ⟨Cluster.WellKeyed.namesKey ⟨hsettled.1, hsettled.2.1⟩ _, rfl⟩
  have hchain : run.IsChain (fun a b => Untouched (Cluster.statusAt · key) key a.2 b.1) :=
    List.isChain_pair.2 ⟨rfl, [], by simp, by simp⟩
  -- the fresh instance shows no status at all
  have hstart : ∀ first ∈ run.head?, ∀ h, ¬ShowsSettled (Recorded.read DriverStatus.read)
      (first.1.cluster.statusAt key) h := by
    rintro first hfirst h ⟨v, o, hv, -⟩
    cases hfirst
    have hnone : Settling.start.cluster.statusAt key = none := by decide
    rw [hnone] at hv
    cases hv
  exact ⟨hruns, hchain, hstart, hsettled.2.2,
    (settled_statuses_follow_syncs Refused.setup .powerStore "ns" "d" run hruns hchain hstart
      (Settling.settled, _) (List.mem_cons_of_mem _ List.mem_cons_self)).1⟩

end CsiOperator
