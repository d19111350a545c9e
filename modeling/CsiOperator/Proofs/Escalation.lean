import Mathlib
import CsiOperator.Proofs.ErrorHistory
import CsiOperator.Proofs.FinalizerRelease
/-!
Why an installation is marked failed, over a whole run.

A reconcile of a driver instance or of a proxy marks it `Failed` only after half an hour of
failures: in every run of reconciles of one instance, whatever else happens in between as long as
the instance's status stays, the clock does not go back and no other convergence of the instance
is recorded, each `Failed` status a reconcile writes escalates the error shown when the reconcile
began, begun half an hour or more before the instant the failed status records, and every
convergence of the instance from that error's beginning on failed (`escalations_follow_failures`).
That needs status writes that the server answers, and a clock that reads instants a status
records exactly.

Each reconcile keeps the errors shown backed (`Reconcile.reconcile_backs`,
`Proxy.reconcile_backs`): the steps before its lifecycle (reading the instance, releasing one whose
deletion was requested, adding the finalizer, annotating the configuration version) keep the
status shown, and the lifecycle's handlers are those of `ErrorHistory`. The run theorem carries
`ErrorsBacked` from the first reconcile, before any convergence of the instance, to every later
one.
-/

namespace CsiOperator

open Controller LifecycleStatus

/-! ## Statuses read from stored resources -/

theorem Recorded.read_member {σ : Type} [LifecycleStatus σ] {rd : Reader σ} {j : Json}
    {status : Option σ} (hnull : ∃ e, rd .null = .error e)
    (hmember : (∀ w, j.get? "status" = some w → Reader.option rd w = .ok status) ∧
      (j.get? "status" = none → status = none)) :
    (j.get? "status").bind (Recorded.read rd) =
      status.map fun st => ⟨LifecycleStatus.state st, LifecycleStatus.lastUpdate st,
        LifecycleStatus.hash st⟩ := by
  cases hw : j.get? "status" with
  | none => rw [hmember.2 hw]; rfl
  | some w =>
    have hopt := hmember.1 w hw
    by_cases hwn : w = .null
    · subst hwn
      obtain ⟨e, he⟩ := hnull
      simp only [Reader.option, Except.ok.injEq] at hopt
      subst hopt
      simp [Recorded.read, he]
    · -- a member that is not null reads as what the status reader answers
      have reads : Reader.option rd w = (rd w).map some := by
        cases w <;> first | exact absurd rfl hwn | rfl
      rw [reads] at hopt
      cases hrd : rd w with
      | error e => simp [hrd, Except.map] at hopt
      | ok st =>
        simp only [hrd, Except.map, Except.ok.injEq] at hopt
        subst hopt
        simp [Recorded.read_of_ok hrd]

theorem showsError_member_iff {σ : Type} [LifecycleStatus σ] {rd : Reader σ} {j : Json}
    {status : Option σ} {empty : σ} (hnull : ∃ e, rd .null = .error e)
    (hempty : (lastUpdate empty).condition = none)
    (hmember : (∀ w, j.get? "status" = some w → Reader.option rd w = .ok status) ∧
      (j.get? "status" = none → status = none)) (t0 : Instant) :
    ShowsError (Recorded.read rd) (j.get? "status") t0 ↔
      (lastUpdate (status.getD empty)).ErrorSince t0 := by
  have hrecorded := Recorded.read_member hnull hmember
  constructor
  · rintro ⟨v, o, hv, ho, hsince⟩
    have hsome : (j.get? "status").bind (Recorded.read rd) = some o := by
      rw [hv]
      exact ho
    rw [hrecorded] at hsome
    obtain ⟨st, rfl, rfl⟩ := Option.map_eq_some_iff.1 hsome
    exact hsince
  · intro hsince
    cases hstatus : status with
    | none =>
      rw [hstatus, Option.getD_none, LastUpdate.ErrorSince, hempty] at hsince
      cases hsince.1
    | some st =>
      rw [hstatus, Option.getD_some] at hsince
      rw [hstatus, Option.map_some] at hrecorded
      obtain ⟨v, hv, ho⟩ := Option.bind_eq_some_iff.1 hrecorded
      exact ⟨v, _, hv, ho, hsince⟩

namespace Cluster

theorem statusAt_update (k : ResourceKind) (obj : Json) (c : Cluster) (key : Key) :
    ((update k obj).run.run c).2.statusAt key = c.statusAt key := by
  rcases hrun : (update k obj).run.run c with ⟨_ | v, c'⟩
  · have unchanged := update_atomic k obj c
    simp only [Atomic, hrun] at unchanged
    rw [unchanged]
  · obtain ⟨existing, hfound, -, -, rfl, hstatus, -⟩ := update_ok hrun
    simp only [statusAt, find?_objects, find?_putObject]
    split
    · next same =>
      subst same
      rw [find?_objects] at hfound
      rw [hfound]
      simp [hstatus]
    · rfl

end Cluster

/-- A state a reconcile of the instance stored under `key`, of kind `k`, starts from with its
status writes answered: statuses of the kind are not made to fail, the object stored under the
key names it, and the clock reads, now and one tick later, instants a status records exactly.
The system clock the operator reads never stands in a leap second, so its instants are all such
instants. -/
structure Ready (k : ResourceKind) (key : Cluster.Key) (s : Controller) : Prop where
  writable : s.cluster.failing .updateStatus k = false
  names : Cluster.NamesKey key s.cluster
  clock : s.clock.Representable
  tick : s.clock.tick.Representable

theorem onCluster_keepsShown_of_keeps {α : Type} {m : ClusterM α} {key : Cluster.Key}
    (h : Stays (Cluster.Keeps ResourceKind.isInput) m) (hkey : key.kind.isInput) :
    Stays (KeepsShown (Cluster.statusAt · key)) (onCluster m) :=
  onCluster_keepsShown fun c => (h c).statusAt hkey

/-! ## The driver reconciler -/

theorem DriverStatus.read_null : ∃ e, DriverStatus.read .null = .error e := ⟨_, rfl⟩

namespace Reconcile

variable {family : DriverKind} {key : Cluster.Key}

theorem Stored.showsError_iff {c : Cluster} {r : DriverResource} (h : Stored family key c r)
    (t0 : Instant) :
    ShowsError (Recorded.read DriverStatus.read) (c.statusAt key) t0 ↔
      (lastUpdate (r.status.getD {})).ErrorSince t0 := by
  obtain ⟨j, hfound, hread⟩ := h.stored
  have hshown : c.statusAt key = j.get? "status" := by simp [Cluster.statusAt, hfound]
  rw [hshown]
  exact showsError_member_iff DriverStatus.read_null rfl (DriverResource.status_member hread) t0

theorem Stored.of_namesKey {c : Cluster} {j : Json} {r : DriverResource}
    (hnames : Cluster.NamesKey key c) (hkind : key.kind = .driver family) (hon : c.online = true)
    (hfound : c.find? key = some j) (hread : DriverResource.read family j = .ok r) :
    Stored family key c r :=
  ⟨hon, ⟨j, hfound, hread⟩, (DriverResource.keyOf_of_read hread _).trans (hkind ▸ hnames j hfound)⟩

theorem storeStatus_only (r : DriverResource) (x : DriverStatus) :
    Stays OnlyCluster (storeStatus r x) := by
  unfold storeStatus
  exact (onCluster_only _).bind fun j => Stays.of_eq (readDriver_stays _ j)

theorem updateDriver_keepsShown (key : Cluster.Key) (r : DriverResource) :
    Stays (KeepsShown (Cluster.statusAt · key)) (updateDriver r) := by
  unfold updateDriver
  exact (onCluster_keepsShown fun c => Cluster.statusAt_update _ _ c key).bind fun j =>
    Stays.of_eq (readDriver_stays _ j)

theorem engine_clocked (setup : ReconcilerSetup) (config : ResolvedConfig) (family : DriverKind)
    (key : Cluster.Key) :
    (engine setup config).Clocked (Placed family key) (Cluster.statusAt · key) key where
  store r x := storeStatus_only r x
  prepare r := by
    rw [engine_prepare]
    exact (updateDriver_keepsShown key r).bind fun _ => Stays.pure _
  converge r c hp := ⟨_, _, by rw [engine_converge, hp.1, hp.2.keyed]⟩

theorem releaseRole_keepsShown (setup : ReconcilerSetup) (r : DriverResource)
    (hkey : key.kind.isInput) :
    Stays (KeepsShown (Cluster.statusAt · key)) (releaseRole setup r) := by
  have role : ¬ResourceKind.clusterRole.isInput := by simp [ResourceKind.isInput]
  unfold releaseRole
  refine (onCluster_keepsShown_of_keeps (Cluster.get_stays _ _ _).of_eq hkey).bind fun _ => ?_
  split
  · exact onCluster_keepsShown_of_keeps (Cluster.delete_keeps role _ _) hkey
  · split
    · dsimp only
      split
      · exact (onCluster_keepsShown_of_keeps (Sync.syncDriver_keeps _) hkey).bind fun _ =>
          onCluster_keepsShown_of_keeps (Cluster.delete_keeps role _ _) hkey
      · exact Stays.pure _
    · exact Stays.pure _

theorem dropFinalizer_keepsShown (key : Cluster.Key) (r : DriverResource) :
    Stays (KeepsShown (Cluster.statusAt · key)) (dropFinalizer r) := by
  unfold dropFinalizer
  dsimp only
  split
  · exact (updateDriver_keepsShown key _).bind fun _ => Stays.pure _
  · exact Stays.pure _

theorem finalize_keepsShown (setup : ReconcilerSetup) (r : DriverResource)
    (hkey : key.kind.isInput) :
    Stays (KeepsShown (Cluster.statusAt · key)) (finalize setup r) := by
  unfold finalize
  exact (releaseRole_keepsShown setup r hkey).bind fun _ =>
    (dropFinalizer_keepsShown key r).bind fun _ => Stays.pure _

theorem ensureFinalizer_keepsShown (key : Cluster.Key) (r : DriverResource) :
    Stays (KeepsShown (Cluster.statusAt · key)) (ensureFinalizer r) := by
  unfold ensureFinalizer
  dsimp only
  split
  · exact Stays.pure _
  · exact updateDriver_keepsShown key _

theorem invalidConfig_quiet {r : DriverResource} {s : Controller}
    (hplaced : Placed family key r s.cluster) (controllerHA : Bool) (e : OperatorError) :
    Quiet (Recorded.read DriverStatus.read) (Cluster.statusAt · key) s
      ((invalidConfig r controllerHA e).run.run s).2 := by
  obtain ⟨hfamily, hp⟩ := hplaced
  subst hfamily
  have hready : StatusPlace r s.cluster := by
    obtain ⟨j, hj, -⟩ := hp.stored
    exact ⟨hp.online, hp.writable, j, hp.keyed ▸ hj⟩
  obtain ⟨seen, hseen⟩ := observation_answers r controllerHA s
  have hquiet : Quiet (Recorded.read DriverStatus.read)
      (Cluster.statusAt · (Cluster.keyOf (.driver r.family) r.toJson)) s
      ((invalidConfig r controllerHA e).run.run s).2 :=
    (storeStatus_stores r).recordInvalid_quiet (storeStatus_only r) hready
      DriverStatus.readsLastUpdate hseen
  rw [hp.keyed] at hquiet
  exact hquiet

variable (setup : ReconcilerSetup)

theorem reconcileConfigured_backs {config : ResolvedConfig} {r : DriverResource} {s : Controller}
    (hstored : Stored family key s.cluster r)
    (hwritable : s.cluster.failing .updateStatus (.driver family) = false)
    (hclock : s.clock.Representable) (htick : s.clock.tick.Representable) :
    ∃ added written, Backs (Recorded.read DriverStatus.read) (Cluster.statusAt · key) key
      (ShowsError (Recorded.read DriverStatus.read) (s.cluster.statusAt key)) s
      ((reconcileConfigured setup config r).run.run s).2 added written := by
  have hplaced := hstored.placed hwritable
  have hE := engine_places setup config family key
  have hT := engine_clocked setup config family key
  have hread := DriverStatus.readsLastUpdate
  rw [reconcileConfigured_run]
  dsimp only
  obtain ⟨path, hpath⟩ : ∃ path, Path.decide (r.status.getD {}).state
      (Digest.fingerprint r.specText != (r.status.getD {}).driverHash) r.spec.forceUpdate = path :=
    ⟨_, rfl⟩
  rw [hpath]
  cases path with
  | stop => exact ⟨[], (Std.Refl.refl s : Quiet _ _ s s).backs⟩
  | checkStateOnly =>
    dsimp only
    generalize happly : applyDefaults r config = outcome
    rcases outcome with ⟨e, r'⟩ | ⟨u, r'⟩ <;> dsimp only
    · exact ⟨[], (hE.invalidConfig_quiet hT hread (hplaced.of_defaults (.inr ⟨e, happly⟩)).1).backs⟩
    · exact ⟨[], (hE.settle_quiet hT hread (hplaced.of_defaults (.inl ⟨u, happly⟩)).1).backs⟩
  | resync =>
    dsimp only
    generalize happly : applyDefaults r config = outcome
    rcases outcome with ⟨e, r'⟩ | ⟨u, r'⟩ <;> dsimp only
    · exact ⟨[], (hE.invalidConfig_quiet hT hread (hplaced.of_defaults (.inr ⟨e, happly⟩)).1).backs⟩
    · obtain ⟨hplaced', -⟩ := hplaced.of_defaults (.inl ⟨u, happly⟩)
      -- the resource resynced is the defaulted one, its forced update cleared
      have hcleared : Placed family key
          (if r'.spec.forceUpdate then { r' with spec := { r'.spec with forceUpdate := false } }
            else r') s.cluster := by
        split
        · exact hplaced'.of_metadata rfl rfl
        · exact hplaced'
      exact hE.resync_backs hT hread hcleared rfl hstored.showsError_iff hclock htick

theorem reconcileFinalized_backs {r : DriverResource} {s : Controller}
    (hstored : Stored family key s.cluster r)
    (hwritable : s.cluster.failing .updateStatus (.driver family) = false)
    (hclock : s.clock.Representable) (htick : s.clock.tick.Representable) :
    ∃ added written, Backs (Recorded.read DriverStatus.read) (Cluster.statusAt · key) key
      (ShowsError (Recorded.read DriverStatus.read) (s.cluster.statusAt key)) s
      ((reconcileFinalized setup r).run.run s).2 added written := by
  have hplaced := hstored.placed hwritable
  unfold reconcileFinalized
  cases hconfig : resolveConfig setup r with
  | error e =>
    simp only
    exact ⟨[], (invalidConfig_quiet hplaced true e).backs⟩
  | ok config =>
    simp only [exceptState_run_bind]
    rcases recordConfigVersion_cases r config.controllerHA s with hrun | ⟨e, hrun⟩ | ⟨as, -, hrun⟩ <;>
      rw [hrun] <;> dsimp only
    · exact reconcileConfigured_backs setup hstored hwritable hclock htick
    · exact ⟨[], (invalidConfig_quiet hplaced config.controllerHA e).backs⟩
    · -- the annotated resource written back keeps the status shown
      refine ⟨[], Quiet.backs (KeepsShown.quiet ?_)⟩
      exact ⟨⟨rfl, rfl, rfl⟩, Cluster.statusAt_update _ _ _ key⟩

theorem reconcileLive_backs {r : DriverResource} {s : Controller}
    (hstored : Stored family key s.cluster r)
    (hwritable : s.cluster.failing .updateStatus (.driver family) = false)
    (hclock : s.clock.Representable) (htick : s.clock.tick.Representable) :
    ∃ added written, Backs (Recorded.read DriverStatus.read) (Cluster.statusAt · key) key
      (ShowsError (Recorded.read DriverStatus.read) (s.cluster.statusAt key)) s
      ((reconcileLive setup r).run.run s).2 added written := by
  unfold reconcileLive
  rw [exceptState_run_bind]
  have hkeeps := ensureFinalizer_keepsShown key r s
  rcases hfin : (ensureFinalizer r).run.run s with ⟨_ | r₁, s₁⟩
  · rw [hfin] at hkeeps
    exact ⟨[], hkeeps.quiet.backs⟩
  · rw [hfin] at hkeeps
    dsimp only
    obtain ⟨hstored₁, -, hshown₁, hclock₁, hfailures₁⟩ := ensureFinalizer_ok hstored hfin
    have hwritable₁ : s₁.cluster.failing .updateStatus (.driver family) = false := by
      simpa only [Cluster.failing, hfailures₁] using hwritable
    obtain ⟨added, written, hb⟩ := reconcileFinalized_backs setup hstored₁ hwritable₁
      (hclock₁ ▸ hclock) (hclock₁ ▸ htick)
    rw [hshown₁] at hb
    obtain ⟨written', hb'⟩ := hkeeps.quiet.backs_trans hb
    exact ⟨added, written', hb'⟩

theorem reconcile_backs (family : DriverKind) (ns name : String) {s : Controller}
    (hready : Ready (.driver family) (Cluster.keyFor (.driver family) (some ns) name) s) :
    ∃ added written, Backs (Recorded.read DriverStatus.read)
      (Cluster.statusAt · (Cluster.keyFor (.driver family) (some ns) name))
      (Cluster.keyFor (.driver family) (some ns) name)
      (ShowsError (Recorded.read DriverStatus.read)
        (s.cluster.statusAt (Cluster.keyFor (.driver family) (some ns) name))) s
      ((reconcile setup family ns name).run.run s).2 added written := by
  let begun := { s with attempts := s.attempts + 1 }
  have hbegun : Quiet (Recorded.read DriverStatus.read)
      (Cluster.statusAt · (Cluster.keyFor (.driver family) (some ns) name)) s begun :=
    KeepsShown.quiet ⟨⟨rfl, rfl, rfl⟩, rfl⟩
  unfold reconcile
  simp only [exceptState_run_bind, begin_run]
  rcases getDriver_cases family ns name begun with ⟨e, hget⟩ | hget | ⟨j, r, hfound, hread, hget⟩ <;>
    rw [hget] <;> dsimp only
  · exact ⟨[], hbegun.backs⟩
  · exact ⟨[], hbegun.backs⟩
  · have hon : s.cluster.online = true := by
      cases hon : s.cluster.online
      · obtain ⟨e, he⟩ := getDriver_offline family ns name (s := begun) hon
        rw [he] at hget
        cases hget
      · rfl
    have hstored : Stored family (Cluster.keyFor (.driver family) (some ns) name) begun.cluster r :=
      Stored.of_namesKey hready.names rfl hon hfound hread
    by_cases hdeleted : beingDeleted r = true
    · simp only [hdeleted, if_true]
      have hkeeps : KeepsShown (Cluster.statusAt · (Cluster.keyFor (.driver family) (some ns) name))
          begun ((finalize setup r).run.run begun).2 :=
        finalize_keepsShown setup r (by exact trivial) begun
      exact ⟨[], (IsTrans.trans _ _ _ hbegun hkeeps.quiet).backs⟩
    · simp only [hdeleted, Bool.false_eq_true, if_false]
      exact hbegun.backs_trans_exists (reconcileLive_backs setup hstored hready.writable
        hready.clock hready.tick)

end Reconcile

/-! ## The proxy reconciler -/

theorem ProxyStatus.read_null : ∃ e, ProxyStatus.read .null = .error e := ⟨_, rfl⟩

namespace Proxy

theorem Stored.showsError_iff {ns name : String} {c : Cluster} {p : ProxyResource}
    (h : Stored ns name c p) (t0 : Instant) :
    ShowsError (Recorded.read ProxyStatus.read)
        (c.statusAt (Cluster.keyFor .reverseProxy (some ns) name)) t0 ↔
      (lastUpdate (p.status.getD {})).ErrorSince t0 := by
  obtain ⟨j, hfound, hread⟩ := h.stored
  have hshown : c.statusAt (Cluster.keyFor .reverseProxy (some ns) name) = j.get? "status" := by
    simp [Cluster.statusAt, hfound]
  rw [hshown]
  exact showsError_member_iff ProxyStatus.read_null rfl (ProxyResource.status_member hread) t0

theorem storeStatus_only (p : ProxyResource) (x : ProxyStatus) :
    Stays OnlyCluster (storeStatus p x) := by
  unfold storeStatus
  exact (onCluster_only _).bind fun j => Stays.of_eq (readProxy_stays j)

theorem engine_clocked (ns : String) (key : Cluster.Key) :
    (engine ns).Clocked (Placed key) (Cluster.statusAt · key) key where
  store p x := storeStatus_only p x
  prepare p := by
    rw [engine_prepare]
    exact Stays.pure _
  converge p c hp := ⟨_, _, by rw [engine_converge, hp.keyed]⟩

theorem reconcile_backs (ns name : String) {s : Controller}
    (hready : Ready .reverseProxy (Cluster.keyFor .reverseProxy (some ns) name) s) :
    ∃ added written, Backs (Recorded.read ProxyStatus.read)
      (Cluster.statusAt · (Cluster.keyFor .reverseProxy (some ns) name))
      (Cluster.keyFor .reverseProxy (some ns) name)
      (ShowsError (Recorded.read ProxyStatus.read)
        (s.cluster.statusAt (Cluster.keyFor .reverseProxy (some ns) name))) s
      ((reconcile ns name).run.run s).2 added written := by
  let key := Cluster.keyFor .reverseProxy (some ns) name
  let begun := { s with attempts := s.attempts + 1 }
  have hbegun : Quiet (Recorded.read ProxyStatus.read) (Cluster.statusAt · key) s begun :=
    KeepsShown.quiet ⟨⟨rfl, rfl, rfl⟩, rfl⟩
  unfold reconcile
  simp only [exceptState_run_bind, begin_run]
  rcases getProxy_cases ns name begun with ⟨e, hget⟩ | hget | ⟨j, p, hfound, hread, hget⟩ <;>
    rw [hget] <;> dsimp only
  · exact ⟨[], hbegun.backs⟩
  · exact ⟨[], hbegun.backs⟩
  have hon : s.cluster.online = true := by
    cases hon : s.cluster.online
    · obtain ⟨e, he⟩ := getProxy_offline ns name (s := begun) hon
      rw [he] at hget
      cases hget
    · rfl
  have hstored : Stored ns name s.cluster p :=
    ⟨hon, ⟨j, hfound, hread⟩, (ProxyResource.keyOf_of_read hread _).trans (hready.names j hfound)⟩
  have hplaced : Placed key p begun.cluster := hstored.placed hready.writable
  have hE := engine_places ns key
  have hT := engine_clocked ns key
  split
  · exact ⟨[], hbegun.backs⟩
  · exact ⟨[], (IsTrans.trans _ _ _ hbegun
      (hE.settle_quiet hT ProxyStatus.readsLastUpdate hplaced)).backs⟩
  · exact hbegun.backs_trans_exists (hE.resync_backs hT ProxyStatus.readsLastUpdate hplaced rfl
      hstored.showsError_iff hready.clock hready.tick)

end Proxy

/-! ## Runs of reconciles -/

/-- A run of reconciles `m` of the instance stored under `key`: each step is a reconcile from a
state `ready` for it, and between two steps only what `Between` allows happens. -/
structure Reconciles (m : ControllerM Requeue) (ready : Controller → Prop)
    (view : Cluster → Option Json) (key : Cluster.Key) (steps : List (Controller × Controller)) :
    Prop where
  runs : ∀ step ∈ steps, ready step.1 ∧ (m.run.run step.1).2 = step.2
  chained : steps.IsChain fun a b => Between view key a.2 b.1

/-- Every failed status a run of reconciles writes escalates the error shown when its reconcile
began, begun half an hour or more before the instant the failed status records, and every
convergence of `key` from the error's beginning on failed. -/
def EscalationsSound (recorded : Json → Option Recorded) (view : Cluster → Option Json)
    (key : Cluster.Key) (steps : List (Controller × Controller)) : Prop :=
  ∀ step ∈ steps, ∃ written, step.2.statusWrites = step.1.statusWrites ++ written ∧
    ∀ w ∈ written, w.state = .failed → ∃ t0 t, ShowsError recorded (view step.1.cluster) t0 ∧
      w.lastUpdate.time = some t ∧ maxRetryDuration ≤ t0.secondsUntil t ∧
      ∀ cv ∈ step.2.converged, cv.key = key → t0 ≤ cv.clock → cv.ok = false

section Runs

variable {recorded : Json → Option Recorded} {view : Cluster → Option Json} {key : Cluster.Key}
  {m : ControllerM Requeue} {ready : Controller → Prop}

theorem ErrorsBacked.along
    (hm : ∀ s, ready s → ∃ added written, Backs recorded view key
      (ShowsError recorded (view s.cluster)) s (m.run.run s).2 added written)
    {steps : List (Controller × Controller)} (hrun : Reconciles m ready view key steps)
    (hstart : ∀ first ∈ steps.head?, ErrorsBacked recorded view key first.1) :
    ∀ step ∈ steps, ErrorsBacked recorded view key step.1 := by
  induction steps with
  | nil => simp
  | cons step rest ih =>
    have hfirst := hstart step rfl
    intro st hst
    rcases List.mem_cons.1 hst with rfl | hrest
    · exact hfirst
    refine ih ⟨fun st' h => hrun.runs st' (List.mem_cons_of_mem _ h), hrun.chained.tail⟩
      (fun next hnext => ?_) st hrest
    cases rest with
    | nil => cases hnext
    | cons next' rest' =>
      cases hnext
      have hchain := hrun.chained
      rw [List.isChain_cons_cons] at hchain
      obtain ⟨hready, hend⟩ := hrun.runs step List.mem_cons_self
      obtain ⟨added, written, hb⟩ := hm step.1 hready
      rw [hend] at hb
      exact (hfirst.backs hb).between hchain.1

theorem escalationsSound_of_backs
    (hm : ∀ s, ready s → ∃ added written, Backs recorded view key
      (ShowsError recorded (view s.cluster)) s (m.run.run s).2 added written)
    {steps : List (Controller × Controller)} (hrun : Reconciles m ready view key steps)
    (hfresh : ∀ first ∈ steps.head?, ∀ cv ∈ first.1.converged, cv.key ≠ key) :
    EscalationsSound recorded view key steps := by
  intro step hstep
  obtain ⟨hready, hend⟩ := hrun.runs step hstep
  obtain ⟨added, written, hb⟩ := hm step.1 hready
  rw [hend] at hb
  have hinv := ErrorsBacked.along hm hrun
    (fun first hfirst => ErrorsBacked.of_fresh (hfresh first hfirst)) step hstep
  exact ⟨written, hb.statusWrites, fun w hw hfailed => hb.escalation_sound hinv hw hfailed⟩

end Runs

/-- Both reconcilers mark an instance failed only after half an hour of failures. In a run of
reconciles of one driver instance, or of one proxy, begun before any convergence of it, each
reconcile starting with status writes answered and a clock that reads instants a status records
exactly, and with anything in between that keeps the instance's status, records no convergence
of it and does not turn the clock back: each failed status a reconcile writes escalates the error
shown when the reconcile began, which began half an hour or more before the instant the failed
status records, and every convergence of the instance from that error's beginning on failed. -/
theorem escalations_follow_failures :
    (∀ (setup : ReconcilerSetup) (family : DriverKind) (ns name : String)
        (steps : List (Controller × Controller)),
      Reconciles (Reconcile.reconcile setup family ns name)
          (Ready (.driver family) (Cluster.keyFor (.driver family) (some ns) name))
          (Cluster.statusAt · (Cluster.keyFor (.driver family) (some ns) name))
          (Cluster.keyFor (.driver family) (some ns) name) steps →
        (∀ first ∈ steps.head?, ∀ cv ∈ first.1.converged,
          cv.key ≠ Cluster.keyFor (.driver family) (some ns) name) →
        EscalationsSound (Recorded.read DriverStatus.read)
          (Cluster.statusAt · (Cluster.keyFor (.driver family) (some ns) name))
          (Cluster.keyFor (.driver family) (some ns) name) steps) ∧
    (∀ (ns name : String) (steps : List (Controller × Controller)),
      Reconciles (Proxy.reconcile ns name)
          (Ready .reverseProxy (Cluster.keyFor .reverseProxy (some ns) name))
          (Cluster.statusAt · (Cluster.keyFor .reverseProxy (some ns) name))
          (Cluster.keyFor .reverseProxy (some ns) name) steps →
        (∀ first ∈ steps.head?, ∀ cv ∈ first.1.converged,
          cv.key ≠ Cluster.keyFor .reverseProxy (some ns) name) →
        EscalationsSound (Recorded.read ProxyStatus.read)
          (Cluster.statusAt · (Cluster.keyFor .reverseProxy (some ns) name))
          (Cluster.keyFor .reverseProxy (some ns) name) steps) :=
  ⟨fun setup family ns name _ hrun hfresh =>
      escalationsSound_of_backs (fun _ hready => Reconcile.reconcile_backs setup family ns name hready)
        hrun hfresh,
    fun ns name _ hrun hfresh =>
      escalationsSound_of_backs (fun _ hready => Proxy.reconcile_backs ns name hready) hrun hfresh⟩

/-! ## Installations that escalate

The refused installations of `FailureBackoff`, each stored updating with the server's refusal
recorded as an error 2000 seconds before the clock: their first reconcile marks them failed. -/

namespace Escalated

/-- The server's refusal, recorded 2000 seconds before the clock of the starts below. -/
def lastError : LastUpdate where
  condition := some .error
  time := some (.ofSeconds 1699998000)
  errorMessage := "quota exceeded"

def driver : DriverResource :=
  { Refused.driver with
    status := some { driverHash := 6242903749412655361, state := .updating, lastUpdate := lastError } }

def driverStart : Controller :=
  { Refused.driverStart with
    cluster := { Refused.driverStart.cluster with
      objects := [(Cluster.keyFor (.driver .powerStore) (some "ns") "d", driver.toJson)] } }

def proxy : ProxyResource :=
  { Refused.proxy with
    status := some { proxyHash := 14202204240202569276, state := .updating, lastUpdate := lastError } }

def proxyStart : Controller :=
  { Refused.proxyStart with
    cluster := { Refused.proxyStart.cluster with
      objects := (Cluster.keyFor .reverseProxy (some "ns") "p", proxy.toJson) ::
        Refused.proxyStart.cluster.objects.tail } }

end Escalated

/-- The first reconcile of each escalated installation writes a failed status, and its run
escalates soundly. -/
theorem escalated_installations_fail_soundly :
    let driverKey := Cluster.keyFor (.driver .powerStore) (some "ns") "d"
    let driverRun := [(Escalated.driverStart,
      ((Reconcile.reconcile Refused.setup .powerStore "ns" "d").run.run Escalated.driverStart).2)]
    let proxyKey := Cluster.keyFor .reverseProxy (some "ns") "p"
    let proxyRun := [(Escalated.proxyStart,
      ((Proxy.reconcile "ns" "p").run.run Escalated.proxyStart).2)]
    (Reconciles (Reconcile.reconcile Refused.setup .powerStore "ns" "d")
        (Ready (.driver .powerStore) driverKey) (Cluster.statusAt · driverKey) driverKey driverRun ∧
      (∀ first ∈ driverRun.head?, ∀ cv ∈ first.1.converged, cv.key ≠ driverKey) ∧
      (∃ w ∈ ((Reconcile.reconcile Refused.setup .powerStore "ns" "d").run.run
        Escalated.driverStart).2.statusWrites, w.state = .failed) ∧
      EscalationsSound (Recorded.read DriverStatus.read) (Cluster.statusAt · driverKey) driverKey
        driverRun) ∧
    (Reconciles (Proxy.reconcile "ns" "p") (Ready .reverseProxy proxyKey)
        (Cluster.statusAt · proxyKey) proxyKey proxyRun ∧
      (∀ first ∈ proxyRun.head?, ∀ cv ∈ first.1.converged, cv.key ≠ proxyKey) ∧
      (∃ w ∈ ((Proxy.reconcile "ns" "p").run.run Escalated.proxyStart).2.statusWrites,
        w.state = .failed) ∧
      EscalationsSound (Recorded.read ProxyStatus.read) (Cluster.statusAt · proxyKey) proxyKey
        proxyRun) := by
  intro driverKey driverRun proxyKey proxyRun
  have driverRuns : Reconciles (Reconcile.reconcile Refused.setup .powerStore "ns" "d")
      (Ready (.driver .powerStore) driverKey) (Cluster.statusAt · driverKey) driverKey driverRun :=
    ⟨List.forall_mem_singleton.2 ⟨⟨by decide, Cluster.WellKeyed.namesKey ⟨by decide, by decide⟩ _,
      by decide, by decide⟩, rfl⟩, List.isChain_singleton _⟩
  have proxyRuns : Reconciles (Proxy.reconcile "ns" "p") (Ready .reverseProxy proxyKey)
      (Cluster.statusAt · proxyKey) proxyKey proxyRun :=
    ⟨List.forall_mem_singleton.2 ⟨⟨by decide, Cluster.WellKeyed.namesKey ⟨by decide, by decide⟩ _,
      by decide, by decide⟩, rfl⟩, List.isChain_singleton _⟩
  -- both runs start before any convergence
  have driverFresh : ∀ first ∈ driverRun.head?, ∀ cv ∈ first.1.converged, cv.key ≠ driverKey := by
    intro first hfirst cv hcv
    cases hfirst
    cases hcv
  have proxyFresh : ∀ first ∈ proxyRun.head?, ∀ cv ∈ first.1.converged, cv.key ≠ proxyKey := by
    intro first hfirst cv hcv
    cases hfirst
    cases hcv
  exact ⟨⟨driverRuns, driverFresh, by decide +kernel,
      escalations_follow_failures.1 Refused.setup .powerStore "ns" "d" driverRun driverRuns driverFresh⟩,
    ⟨proxyRuns, proxyFresh, by decide +kernel,
      escalations_follow_failures.2 "ns" "p" proxyRun proxyRuns proxyFresh⟩⟩

end CsiOperator
