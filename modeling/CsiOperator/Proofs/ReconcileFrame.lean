import Mathlib
import CsiOperator.Proofs.RequeueDirectives
import CsiOperator.Proofs.Versions
/-!
What a reconcile that runs no convergence touches.

A reconcile changes the cluster's other objects only through `converge`; everything else it
writes is its own instance: the finalizer added, the configuration version annotated, the spec
written back and the statuses stored, each an update or a status update of the instance. So a
reconcile that runs no convergence writes only the instance (`Cluster.WritesOnly`): every write
it logs is an update or a status update of the instance's own kind and name, and no object
stored under another key changes. Every reconcile that records an invalid configuration is such
a run, whichever step refused the configuration: its resolution, the annotation of its version,
the defaults, or the validation of the spec, which comes before any convergence.

`OwnRun` says this of one run, or that the run converged; it is reflexive and transitive, so it
is proved of a whole reconcile step by step, as `Stays` does. A run writes under the instance's
key exactly when the resources it works with name that key, which the resources read back from
the server do as long as the object stored under the key names it (`Cluster.NamesKey`): every
store the server keeps does, and every step keeps it.
-/

namespace CsiOperator

open Controller

namespace Cluster

/-- The object stored under a key, if any, names that key. -/
def NamesKey (key : Key) (c : Cluster) : Prop :=
  ∀ j, c.find? key = some j → keyOf key.kind j = key

theorem WellKeyed.namesKey {c : Cluster} (hc : c.WellKeyed) (key : Key) : NamesKey key c :=
  fun j hj => hc.keyed (key, j) (hc.find?_eq_some.1 hj)

/-- A run that touched only the object under `key`: every write it appended to the log is an
update or a status update of that object, and no object stored under another key changed. -/
structure WritesOnly (key : Key) (c c' : Cluster) : Prop where
  logged : ∃ ws, c'.writes = c.writes ++ ws ∧
    ∀ w ∈ ws, w = Write.of .update key ∨ w = Write.of .updateStatus key
  others : ∀ key', key' ≠ key → c'.find? key' = c.find? key'

instance (key : Key) : Std.Refl (WritesOnly key) :=
  ⟨fun _ => ⟨⟨[], by simp, by simp⟩, fun _ _ => rfl⟩⟩

instance (key : Key) : IsTrans Cluster (WritesOnly key) :=
  ⟨fun _ _ _ h₁ h₂ => by
    obtain ⟨ws₁, hw₁, hws₁⟩ := h₁.logged
    obtain ⟨ws₂, hw₂, hws₂⟩ := h₂.logged
    refine ⟨⟨ws₁ ++ ws₂, by rw [hw₂, hw₁, List.append_assoc], ?_⟩, fun key' hne => ?_⟩
    · intro w hw
      rcases List.mem_append.1 hw with hw | hw
      · exact hws₁ w hw
      · exact hws₂ w hw
    · exact (h₂.others key' hne).trans (h₁.others key' hne)⟩

theorem Atomic.writesOnly {α : Type} {m : ClusterM α} {key : Key} {w : Write} {c : Cluster}
    (h : Atomic key [w] m c) (hw : w = Write.of .update key ∨ w = Write.of .updateStatus key) :
    WritesOnly key c (m.run.run c).2 := by
  unfold Atomic at h
  rcases hrun : m.run.run c with ⟨_ | a, c'⟩ <;> simp only [hrun] at h ⊢
  · -- a failed request left the cluster as it was
    rw [h]
    exact Std.Refl.refl c
  · exact ⟨⟨[w], h.1, by simpa using hw⟩, h.2⟩

theorem NamesKey.of_find? {key : Key} {c : Cluster} {v : Json} (hfind : c.find? key = some v)
    (hv : keyOf key.kind v = key) : NamesKey key c := by
  intro j hj
  rw [hfind, Option.some.injEq] at hj
  exact hj ▸ hv

theorem update_own {k : ResourceKind} {obj : Json} {key : Key} (hkey : keyOf k obj = key)
    {c : Cluster} (hc : NamesKey key c) :
    NamesKey key ((update k obj).run.run c).2 ∧ WritesOnly key c ((update k obj).run.run c).2 := by
  refine ⟨?_, (hkey ▸ update_atomic k obj c).writesOnly (.inl rfl)⟩
  rcases hrun : (update k obj).run.run c with ⟨_ | v, c'⟩
  · have unchanged := update_atomic k obj c
    simp only [Atomic, hrun] at unchanged
    exact unchanged ▸ hc
  · obtain ⟨-, -, -, -, rfl, -, hnames⟩ := update_ok hrun
    subst hkey
    refine NamesKey.of_find? ?_ (keyOf_of_sameNames k hnames)
    simp only [find?_objects, find?_putObject, if_true]

theorem updateStatus_own {k : ResourceKind} {obj : Json} {key : Key} (hkey : keyOf k obj = key)
    {c : Cluster} (hc : NamesKey key c) :
    NamesKey key ((updateStatus k obj).run.run c).2 ∧
      WritesOnly key c ((updateStatus k obj).run.run c).2 := by
  refine ⟨?_, (hkey ▸ updateStatus_atomic k obj c).writesOnly (.inr rfl)⟩
  rcases hrun : (updateStatus k obj).run.run c with ⟨_ | v, c'⟩
  · have unchanged := updateStatus_atomic k obj c
    simp only [Atomic, hrun] at unchanged
    exact unchanged ▸ hc
  · obtain ⟨existing, hfound, hobjects, rfl⟩ := updateStatus_stores hrun
    subst hkey
    have hfind : c'.find? (keyOf k obj) =
        some (bumpVersion (existing.set "status" ((obj.get? "status").getD .null))) := by
      simp only [find?_objects, hobjects, find?_putObject, if_true]
    refine NamesKey.of_find? hfind ?_
    rw [keyOf_statusWritten]
    exact hc existing hfound

end Cluster

/-! ## Runs that touch only one instance -/

/-- From a store whose object under `key` names it, a run that keeps it so and either ran a
convergence, or ran none and touched only the object under `key`. -/
def OwnRun (key : Cluster.Key) (s s' : Controller) : Prop :=
  Cluster.NamesKey key s.cluster → Cluster.NamesKey key s'.cluster ∧
    ((s'.converged = s.converged ∧ Cluster.WritesOnly key s.cluster s'.cluster) ∨
      s.converged.length < s'.converged.length)

section OwnRun

variable {key : Cluster.Key}

instance : Std.Refl (OwnRun key) := ⟨fun _ h => ⟨h, .inl ⟨rfl, Std.Refl.refl _⟩⟩⟩

instance : IsTrans Controller (OwnRun key) :=
  ⟨fun _ _ _ h₁ h₂ hc => by
    obtain ⟨hc₁, same₁ | grew₁⟩ := h₁ hc <;> obtain ⟨hc₂, same₂ | grew₂⟩ := h₂ hc₁
    · exact ⟨hc₂, .inl ⟨same₂.1.trans same₁.1, IsTrans.trans _ _ _ same₁.2 same₂.2⟩⟩
    · exact ⟨hc₂, .inr (same₁.1 ▸ grew₂)⟩
    · exact ⟨hc₂, .inr (same₂.1 ▸ grew₁)⟩
    · exact ⟨hc₂, .inr (grew₁.trans grew₂)⟩⟩

theorem OwnRun.of_same {s s' : Controller} (hc : s'.cluster = s.cluster)
    (hl : s'.converged = s.converged) : OwnRun key s s' := fun h => by
  rw [hc]
  exact ⟨h, .inl ⟨hl, Std.Refl.refl s.cluster⟩⟩

theorem OwnRun.writesOnly {s s' : Controller} (h : OwnRun key s s')
    (hc : Cluster.NamesKey key s.cluster) (hl : s'.converged = s.converged) :
    Cluster.WritesOnly key s.cluster s'.cluster := by
  obtain ⟨-, same | grew⟩ := h hc
  · exact same.2
  · rw [hl] at grew
    exact absurd grew (lt_irrefl _)

theorem onCluster_own {α : Type} {m : ClusterM α}
    (h : ∀ c, Cluster.NamesKey key c →
      Cluster.NamesKey key (m.run.run c).2 ∧ Cluster.WritesOnly key c (m.run.run c).2) :
    Stays (OwnRun key) (onCluster m) := fun s hc => by
  rw [onCluster_run]
  exact ⟨(h s.cluster hc).1, .inl ⟨rfl, (h s.cluster hc).2⟩⟩

/-- Every answer a computation gives from a store whose object under `key` names it satisfies
`Q`. -/
def Returns {α : Type} (key : Cluster.Key) (Q : α → Prop) (m : ControllerM α) : Prop :=
  ∀ s a s', Cluster.NamesKey key s.cluster → m.run.run s = (.ok a, s') → Q a

theorem Stays.bind_returns {α β : Type} {Q : α → Prop} {x : ControllerM α}
    {f : α → ControllerM β} (hx : Stays (OwnRun key) x) (hq : Returns key Q x)
    (hf : ∀ a, Q a → Stays (OwnRun key) (f a)) : Stays (OwnRun key) (x >>= f) := by
  intro s hc
  rw [exceptState_run_bind]
  have first := hx s
  rcases hrun : x.run.run s with ⟨_ | a, s₁⟩
  · rw [hrun] at first
    exact first hc
  · rw [hrun] at first
    exact IsTrans.trans _ _ _ first (hf a (hq s a s₁ hc hrun) s₁) hc

end OwnRun

/-! ## The engine's handlers

The handlers observe, read the clock and store one status at most. Whatever relation a clock
tick and a noted status keep, and the store keeps, a handler keeps. -/

namespace Engine

open LifecycleStatus

variable {ρ σ : Type} [DecidableEq σ] [LifecycleStatus σ]

section Handlers

variable {R : Controller → Controller → Prop} [IsTrans Controller R] [Std.Refl R]
  (htick : ∀ s : Controller, R s { s with clock := s.clock.tick })
  (hnote : ∀ (s : Controller) w, R s { s with statusWrites := s.statusWrites ++ [w] })
  {observe : ControllerM (Observation σ)} {store : σ → ControllerM ρ}
  (hobserve : Answers observe) (hstore : ∀ x, Stays R (store x))
include hnote hstore

theorem writeStatus_stays (r : ρ) (new old : σ) : Stays R (writeStatus store r new old) :=
  fun s => by
    rw [writeStatus_run]
    split
    · exact Std.Refl.refl s
    · exact IsTrans.trans _ _ _ (hnote s _) (hstore new _)

include htick hobserve

theorem recordInvalid_stays (r : ρ) (old : σ) (e : OperatorError) :
    Stays R (recordInvalid observe store r old e) := fun s => by
  obtain ⟨seen, hseen⟩ := hobserve s
  rw [recordInvalid_run hseen]
  exact IsTrans.trans _ _ _ (htick s) (writeStatus_stays hnote hstore r _ old _)

theorem recordSettled_stays (r : ρ) (new old : σ) :
    Stays R (recordSettled observe store r new old) := fun s => by
  obtain ⟨seen, hseen⟩ := hobserve s
  rw [recordSettled_run hseen]
  exact IsTrans.trans _ _ _ (htick s) (writeStatus_stays hnote hstore r _ old _)

theorem recordConverged_stays (r : ρ) (new old : σ) :
    Stays R (recordConverged observe store r new old) := fun s => by
  obtain ⟨seen, hseen⟩ := hobserve s
  rw [recordConverged_run hseen]
  exact IsTrans.trans _ _ _ (htick s) (writeStatus_stays hnote hstore r _ old _)

theorem recordFailed_stays (r : ρ) (new old : σ) (e : OperatorError) :
    Stays R (recordFailed observe store r new old e) := fun s => by
  obtain ⟨seen, hseen⟩ := hobserve s
  rw [recordFailed_run hseen]
  rcases failureDecision (lastUpdate old) s.clock with wait | _
  · dsimp only
    split
    · exact IsTrans.trans _ _ _ (htick s) (writeStatus_stays hnote hstore r _ old _)
    · exact htick s
  · exact IsTrans.trans _ _ _ (htick s) (writeStatus_stays hnote hstore r _ old _)

end Handlers

variable {key : Cluster.Key}

theorem own_tick (s : Controller) : OwnRun key s { s with clock := s.clock.tick } :=
  OwnRun.of_same rfl rfl

theorem own_note (s : Controller) (w : StatusWrite) :
    OwnRun key s { s with statusWrites := s.statusWrites ++ [w] } :=
  OwnRun.of_same rfl rfl

theorem writeStatus_returns {keyed : ρ → Prop} {store : σ → ControllerM ρ} {r : ρ}
    (hr : keyed r) (hstore : ∀ x, Returns key keyed (store x)) (new old : σ) :
    Returns key keyed (writeStatus store r new old) := by
  intro s a s' hc hrun
  rw [writeStatus_run] at hrun
  split at hrun
  · cases hrun
    exact hr
  · exact hstore new { s with statusWrites := s.statusWrites ++ [written new] } a s' hc hrun

/-- An engine whose steps, for the resources `keyed` names, touch only the object under `key`
and answer such resources, and whose only other writer is its convergence. -/
structure Confines (E : Engine ρ σ) (key : Cluster.Key) (keyed : ρ → Prop) : Prop where
  store : ∀ r x, keyed r → Stays (OwnRun key) (E.storeStatus r x)
  storeReturns : ∀ r x, keyed r → Returns key keyed (E.storeStatus r x)
  prepare : ∀ r, keyed r → Stays (OwnRun key) (E.prepare r)
  prepareReturns : ∀ r, keyed r → Returns key keyed (E.prepare r)
  validate : ∀ r, Stays Eq (E.validate r)
  observe : ∀ r, Answers (E.observe r)
  observeConverged : ∀ r, Answers (E.observeConverged r)
  converge : ∀ r s, ∃ o s', (E.converge r).run.run s = (.ok o, s') ∧ OwnRun key s s'

section Confines

variable {E : Engine ρ σ} {keyed : ρ → Prop} (hE : E.Confines key keyed)
include hE

theorem Confines.invalidConfig {r : ρ} (hr : keyed r) (e : OperatorError) :
    Stays (OwnRun key) (E.invalidConfig r e) :=
  recordInvalid_stays own_tick own_note (hE.observe r) (fun x => hE.store r x hr) r _ e

theorem Confines.settle {r : ρ} (hr : keyed r) (new old : σ) :
    Stays (OwnRun key) (E.settle r new old) :=
  recordSettled_stays own_tick own_note (hE.observe r) (fun x => hE.store r x hr) r new old

theorem Confines.resync_plain {r : ρ} (hr : keyed r) (new old : σ) :
    Stays (OwnRun key) (E.resync r false new old) := by
  intro s
  rcases hvalid : (E.validate r).run.run s.cluster with ⟨_ | u, c⟩
  · have hc : c = s.cluster := by simpa [hvalid] using (hE.validate r s.cluster).symm
    subst hc
    rw [E.resync_run_of_invalid hvalid]
    exact hE.invalidConfig hr _ s
  · obtain ⟨o, s', hconverge, hgrew⟩ := hE.converge r s
    have hc : c = s.cluster := by simpa [hvalid] using (hE.validate r s.cluster).symm
    subst hc
    rw [E.resync_run hvalid hconverge]
    cases o with
    | ok u =>
      exact IsTrans.trans _ _ _ hgrew (recordConverged_stays own_tick own_note
        (hE.observeConverged r) (fun x => hE.store r x hr) r _ old s')
    | error e =>
      exact IsTrans.trans _ _ _ hgrew (recordFailed_stays own_tick own_note
        (hE.observeConverged r) (fun x => hE.store r x hr) r _ old e s')

theorem Confines.resync {r : ρ} (hr : keyed r) (provisional : Bool) (new old : σ) :
    Stays (OwnRun key) (E.resync r provisional new old) := by
  cases provisional
  · exact hE.resync_plain hr new old
  intro s hc
  have prepared := hE.prepare r hr s
  rcases hprepare : (E.prepare r).run.run s with ⟨_ | r₁, s₁⟩
  · rw [E.resync_provisional_run_of_error hprepare]
    rw [hprepare] at prepared
    exact prepared hc
  rw [hprepare] at prepared
  rw [E.resync_provisional_run hprepare]
  dsimp only
  have hr₁ : keyed r₁ := hE.prepareReturns r hr s r₁ s₁ hc hprepare
  -- the provisional status is written from the state after the clock was read
  have ticked := IsTrans.trans _ _ _ prepared (own_tick s₁)
  have hc₁ := (ticked hc).1
  have written := writeStatus_stays own_note (fun x => hE.store r₁ x hr₁) r₁
    (withLastUpdate new ((lastUpdate old).record (some .updating) "" s₁.clock)) old
    { s₁ with clock := s₁.clock.tick }
  rcases hwrite : (writeStatus (E.storeStatus r₁) r₁
      (withLastUpdate new ((lastUpdate old).record (some .updating) "" s₁.clock)) old).run.run
      { s₁ with clock := s₁.clock.tick } with ⟨_ | r₂, s₂⟩
  · rw [hwrite] at written
    exact IsTrans.trans _ _ _ ticked written hc
  · rw [hwrite] at written
    have hr₂ : keyed r₂ := writeStatus_returns hr₁ (fun x => hE.storeReturns r₁ x hr₁) _ old _ r₂ s₂
      hc₁ hwrite
    exact IsTrans.trans _ _ _ (IsTrans.trans _ _ _ ticked written)
      (hE.resync_plain hr₂ _ old s₂) hc

end Confines

end Engine

theorem Returns.pure {α : Type} {key : Cluster.Key} {Q : α → Prop} {a : α} (h : Q a) :
    Returns key Q (pure a) := by
  intro s b s' _ hrun
  rw [exceptState_run_pure, Prod.mk.injEq, Except.ok.injEq] at hrun
  exact hrun.1 ▸ h

/-! ## The driver engine -/

namespace Reconcile

/-- A driver resource of a family that names a key. -/
def Keyed (family : DriverKind) (key : Cluster.Key) (r : DriverResource) : Prop :=
  r.family = family ∧ Cluster.keyOf (.driver family) r.toJson = key

variable {family : DriverKind} {key : Cluster.Key}

theorem Keyed.of_metadata {r r' : DriverResource} (hr : Keyed family key r)
    (hfamily : r'.family = r.family) (hmeta : r'.metadata = r.metadata) : Keyed family key r' := by
  refine ⟨hfamily.trans hr.1, ?_⟩
  rw [← hr.2]
  simp only [DriverResource.keyOf_toJson, hmeta]

theorem Keyed.of_defaults {r r' : DriverResource} {config : ResolvedConfig}
    (hr : Keyed family key r)
    (h : (∃ u, applyDefaults r config = .ok (u, r')) ∨ ∃ e, applyDefaults r config = .error (e, r')) :
    Keyed family key r' := by
  rcases applyDefaults_answer h with rfl | ⟨d, as, rfl⟩
  · exact hr
  · exact ⟨hr.1, (DriverResource.keyOf_of_annotations _ rfl).trans hr.2⟩

theorem storeStatus_own {r : DriverResource} (hr : Keyed family key r) (x : DriverStatus) :
    Stays (OwnRun key) (storeStatus r x) ∧ Returns key (Keyed family key) (storeStatus r x) := by
  obtain ⟨rfl, hkey⟩ := hr
  subst hkey
  have hsent : Cluster.keyOf (.driver r.family) { r with status := some x }.toJson =
      Cluster.keyOf (.driver r.family) r.toJson := by
    simp only [DriverResource.keyOf_toJson]
  constructor
  · unfold storeStatus
    exact (onCluster_own fun c hc => Cluster.updateStatus_own hsent hc).bind fun j =>
      Stays.of_eq (readDriver_stays _ j)
  · intro s r' s' hc hrun
    unfold storeStatus at hrun
    rw [exceptState_run_bind, onCluster_run] at hrun
    rcases hupdate : (Cluster.updateStatus (.driver r.family)
        { r with status := some x }.toJson).run.run s.cluster with ⟨_ | v, c'⟩
    · rw [hupdate] at hrun
      cases hrun
    rw [hupdate] at hrun
    obtain ⟨hread, -⟩ := readDriver_ok hrun
    obtain ⟨existing, hfound, -, rfl⟩ := Cluster.updateStatus_stores hupdate
    rw [hsent] at hfound
    -- the object stored is the one that was there, which names the key, with the new status
    refine ⟨DriverResource.family_of_read hread, ?_⟩
    rw [DriverResource.keyOf_of_read hread, Cluster.keyOf_statusWritten]
    exact hc existing hfound

theorem updateDriver_own {r : DriverResource} (hr : Keyed family key r) :
    Stays (OwnRun key) (updateDriver r) ∧ Returns key (Keyed family key) (updateDriver r) := by
  obtain ⟨rfl, hkey⟩ := hr
  constructor
  · unfold updateDriver
    exact (onCluster_own fun c hc => Cluster.update_own hkey hc).bind fun j =>
      Stays.of_eq (readDriver_stays _ j)
  · intro s stored s' _ hrun
    obtain ⟨existing, v, -, -, hread, -, -, hnames⟩ := updateDriver_ok hrun
    exact ⟨DriverResource.family_of_read hread, (DriverResource.keyOf_of_read hread _).trans
      ((Cluster.keyOf_of_sameNames _ hnames).trans hkey)⟩

theorem invalidConfig_own {r : DriverResource} (hr : Keyed family key r) (controllerHA : Bool)
    (e : OperatorError) : Stays (OwnRun key) (invalidConfig r controllerHA e) :=
  Engine.recordInvalid_stays Engine.own_tick Engine.own_note
    (fun s => observation_answers r controllerHA s) (fun x => (storeStatus_own hr x).1) r _ e

theorem engine_confines (setup : ReconcilerSetup) (config : ResolvedConfig)
    (hkind : key.kind = .driver family) :
    (engine setup config).Confines key (Keyed family key) where
  store r x hr := (storeStatus_own hr x).1
  storeReturns r x hr := (storeStatus_own hr x).2
  prepare r hr := by
    rw [engine_prepare]
    exact (updateDriver_own hr).1.bind fun _ => Stays.pure _
  prepareReturns r hr := by
    rw [engine_prepare]
    intro s r' s' hc hrun
    rw [exceptState_run_bind] at hrun
    rcases hupdate : (updateDriver r).run.run s with ⟨_ | stored, s₁⟩
    · rw [hupdate] at hrun
      cases hrun
    rw [hupdate] at hrun
    have hstored := (updateDriver_own hr).2 s stored s₁ hc hupdate
    -- the status the reconcile works with is put back on the resource stored
    dsimp only at hrun
    rw [exceptState_run_pure, Prod.mk.injEq, Except.ok.injEq] at hrun
    rw [← hrun.1]
    exact hstored.of_metadata rfl rfl
  validate r := validate_stays setup r config
  observe r s := observation_answers r config.controllerHA s
  observeConverged r s := observation_answers r config.controllerHA s
  converge r s := by
    refine ⟨_, _, by rw [engine_converge, converge_run], fun hc => ⟨?_, .inr (by simp)⟩⟩
    -- the convergence keeps the operator's inputs, the driver resources among them
    intro j hj
    have hkeeps := Sync.syncDriver_keeps
      (BuildContext.ofResource r config setup.settings.isOpenshift) s.cluster
    rw [hkeeps.objects key (by rw [hkind]; trivial)] at hj
    exact hc j hj

/-! ## A driver reconcile, step by step -/

theorem ensureFinalizer_own {r : DriverResource} (hr : Keyed family key r) :
    Stays (OwnRun key) (ensureFinalizer r) ∧ Returns key (Keyed family key) (ensureFinalizer r) := by
  unfold ensureFinalizer
  dsimp only
  split
  · exact ⟨Stays.pure r, Returns.pure hr⟩
  · exact updateDriver_own ⟨hr.1, (keyOf_withFinalizers _ r _).trans hr.2⟩

theorem recordConfigVersion_own {r : DriverResource} (hr : Keyed family key r)
    (controllerHA : Bool) : Stays (OwnRun key) (recordConfigVersion r controllerHA) := by
  intro s
  rcases recordConfigVersion_cases r controllerHA s with hrun | ⟨e, hrun⟩ | ⟨as, -, hrun⟩ <;>
    rw [hrun]
  · exact Std.Refl.refl s
  · exact invalidConfig_own hr controllerHA e s
  · obtain ⟨rfl, hkey⟩ := hr
    have hsent : Cluster.keyOf (.driver r.family)
        { r with metadata := r.metadata.set "annotations" (Json.strMap as) }.toJson = key :=
      (DriverResource.keyOf_of_annotations _ rfl).trans hkey
    intro hc
    obtain ⟨hc', hwrites⟩ := Cluster.update_own hsent hc
    exact ⟨hc', .inl ⟨rfl, hwrites⟩⟩

variable (setup : ReconcilerSetup)

theorem reconcileConfigured_own (config : ResolvedConfig) {r : DriverResource}
    (hr : Keyed family key r) (hkind : key.kind = .driver family) :
    Stays (OwnRun key) (reconcileConfigured setup config r) := by
  have hE := engine_confines setup config hkind
  intro s
  rw [reconcileConfigured_run]
  dsimp only
  obtain ⟨path, hpath⟩ : ∃ path, Path.decide (r.status.getD {}).state
      (Digest.fingerprint r.specText != (r.status.getD {}).driverHash) r.spec.forceUpdate = path :=
    ⟨_, rfl⟩
  rw [hpath]
  cases path with
  | stop => exact Std.Refl.refl s
  | checkStateOnly =>
    dsimp only
    generalize happly : applyDefaults r config = outcome
    rcases outcome with ⟨e, r'⟩ | ⟨u, r'⟩
    · exact hE.invalidConfig (hr.of_defaults (.inr ⟨e, happly⟩)) e s
    · exact hE.settle (hr.of_defaults (.inl ⟨u, happly⟩)) _ _ s
  | resync =>
    dsimp only
    generalize happly : applyDefaults r config = outcome
    rcases outcome with ⟨e, r'⟩ | ⟨u, r'⟩
    · exact hE.invalidConfig (hr.of_defaults (.inr ⟨e, happly⟩)) e s
    · have hr' := hr.of_defaults (.inl ⟨u, happly⟩)
      -- clearing a forced update keeps the metadata
      have hcleared : Keyed family key
          (if r'.spec.forceUpdate then { r' with spec := { r'.spec with forceUpdate := false } }
            else r') := by
        split
        · exact hr'.of_metadata rfl rfl
        · exact hr'
      exact hE.resync hcleared _ _ _ s

theorem reconcileFinalized_own {r : DriverResource} (hr : Keyed family key r)
    (hkind : key.kind = .driver family) : Stays (OwnRun key) (reconcileFinalized setup r) := by
  unfold reconcileFinalized
  rcases resolveConfig setup r with e | config
  · exact invalidConfig_own hr true e
  · refine (recordConfigVersion_own hr config.controllerHA).bind fun answer => ?_
    cases answer with
    | some q => exact Stays.pure q
    | none => exact reconcileConfigured_own setup config hr hkind

theorem reconcileLive_own {r : DriverResource} (hr : Keyed family key r)
    (hkind : key.kind = .driver family) : Stays (OwnRun key) (reconcileLive setup r) := by
  unfold reconcileLive
  exact Stays.bind_returns (ensureFinalizer_own hr).1 (ensureFinalizer_own hr).2 fun _ hr₁ =>
    reconcileFinalized_own setup hr₁ hkind

theorem getDriver_cases (family : DriverKind) (ns name : String) (s : Controller) :
    (∃ e, (getDriver family ns name).run.run s = (.error e, s)) ∨
      (getDriver family ns name).run.run s = (.ok none, s) ∨
      ∃ j r, s.cluster.find? (Cluster.keyFor (.driver family) (some ns) name) = some j ∧
        DriverResource.read family j = .ok r ∧
        (getDriver family ns name).run.run s = (.ok (some r), s) := by
  cases hon : s.cluster.online
  · exact .inl (getDriver_offline family ns name hon)
  cases hfound : s.cluster.find? (Cluster.keyFor (.driver family) (some ns) name) with
  | none =>
    refine .inr (.inl ?_)
    simp only [getDriver, exceptState_run_bind, onCluster_run, Cluster.get_run hon, hfound]
    rfl
  | some j =>
    cases hread : DriverResource.read family j with
    | error e =>
      refine .inl ⟨.serialization e.message, ?_⟩
      simp only [getDriver, exceptState_run_bind, onCluster_run, Cluster.get_run hon, hfound,
        exceptState_run_map, readDriver, hread]
      rfl
    | ok r => exact .inr (.inr ⟨j, r, rfl, hread, getDriver_run hon hfound hread⟩)

theorem reconcile_own (family : DriverKind) (ns name : String) {s : Controller}
    (hlive : ∀ j r, s.cluster.find? (Cluster.keyFor (.driver family) (some ns) name) = some j →
      DriverResource.read family j = .ok r → beingDeleted r = false) :
    OwnRun (Cluster.keyFor (.driver family) (some ns) name) s
      ((reconcile setup family ns name).run.run s).2 := by
  intro hc
  have hbegun : OwnRun (Cluster.keyFor (.driver family) (some ns) name) s
      { s with attempts := s.attempts + 1 } := OwnRun.of_same rfl rfl
  unfold reconcile
  simp only [exceptState_run_bind, begin_run]
  rcases getDriver_cases family ns name { s with attempts := s.attempts + 1 } with
    ⟨e, hget⟩ | hget | ⟨j, r, hfound, hread, hget⟩ <;> rw [hget] <;> dsimp only
  · exact hbegun hc
  · exact hbegun hc
  · rw [hlive j r hfound hread]
    simp only [Bool.false_eq_true, if_false]
    -- the resource read names the key it was read from
    have hr : Keyed family (Cluster.keyFor (.driver family) (some ns) name) r :=
      ⟨DriverResource.family_of_read hread, (DriverResource.keyOf_of_read hread _).trans (hc j hfound)⟩
    exact IsTrans.trans _ _ _ hbegun (reconcileLive_own setup hr rfl _) hc

end Reconcile

/-! ## The proxy engine -/

namespace Proxy

/-- A proxy resource that names a key. -/
def Keyed (key : Cluster.Key) (p : ProxyResource) : Prop :=
  Cluster.keyOf .reverseProxy p.toJson = key

variable {key : Cluster.Key}

theorem storeStatus_own {p : ProxyResource} (hp : Keyed key p) (x : ProxyStatus) :
    Stays (OwnRun key) (storeStatus p x) ∧ Returns key (Keyed key) (storeStatus p x) := by
  unfold Keyed at hp
  subst hp
  have hsent : Cluster.keyOf .reverseProxy { p with status := some x }.toJson =
      Cluster.keyOf .reverseProxy p.toJson := by
    simp only [ProxyResource.keyOf_toJson]
  constructor
  · unfold storeStatus
    exact (onCluster_own fun c hc => Cluster.updateStatus_own hsent hc).bind fun j =>
      Stays.of_eq (readProxy_stays j)
  · intro s p' s' hc hrun
    unfold storeStatus at hrun
    rw [exceptState_run_bind, onCluster_run] at hrun
    rcases hupdate : (Cluster.updateStatus .reverseProxy
        { p with status := some x }.toJson).run.run s.cluster with ⟨_ | v, c'⟩
    · rw [hupdate] at hrun
      cases hrun
    rw [hupdate] at hrun
    obtain ⟨hread, -⟩ := readProxy_ok hrun
    obtain ⟨existing, hfound, -, rfl⟩ := Cluster.updateStatus_stores hupdate
    rw [hsent] at hfound
    unfold Keyed
    rw [ProxyResource.keyOf_of_read hread, Cluster.keyOf_statusWritten]
    exact hc existing hfound

theorem engine_confines (ns : String) (hkind : key.kind = .reverseProxy) :
    (engine ns).Confines key (Keyed key) where
  store p x hp := (storeStatus_own hp x).1
  storeReturns p x hp := (storeStatus_own hp x).2
  prepare p _ := by
    rw [engine_prepare]
    exact Stays.pure p
  prepareReturns p hp := by
    rw [engine_prepare]
    exact Returns.pure hp
  validate p := validateProxySpec_stays p
  observe _ s := observation_answers _ s
  observeConverged _ s := observation_answers ns s
  converge p s := by
    refine ⟨_, _, by rw [engine_converge, converge_run], fun hc => ⟨?_, .inr (by simp)⟩⟩
    -- the convergence keeps the operator's inputs, the proxies among them
    intro j hj
    have hkeeps := syncProxy_keeps p s.cluster
    rw [hkeeps.objects key (by rw [hkind]; trivial)] at hj
    exact hc j hj

theorem getProxy_cases (ns name : String) (s : Controller) :
    (∃ e, (getProxy ns name).run.run s = (.error e, s)) ∨
      (getProxy ns name).run.run s = (.ok none, s) ∨
      ∃ j p, s.cluster.find? (Cluster.keyFor .reverseProxy (some ns) name) = some j ∧
        ProxyResource.read j = .ok p ∧ (getProxy ns name).run.run s = (.ok (some p), s) := by
  cases hon : s.cluster.online
  · exact .inl (getProxy_offline ns name hon)
  cases hfound : s.cluster.find? (Cluster.keyFor .reverseProxy (some ns) name) with
  | none =>
    refine .inr (.inl ?_)
    simp only [getProxy, exceptState_run_bind, onCluster_run, Cluster.get_run hon, hfound]
    rfl
  | some j =>
    cases hread : ProxyResource.read j with
    | error e =>
      refine .inl ⟨.serialization e.message, ?_⟩
      simp only [getProxy, exceptState_run_bind, onCluster_run, Cluster.get_run hon, hfound,
        exceptState_run_map, readProxy, hread]
      rfl
    | ok p => exact .inr (.inr ⟨j, p, rfl, hread, getProxy_run hon hfound hread⟩)

theorem reconcile_own (ns name : String) (s : Controller) :
    OwnRun (Cluster.keyFor .reverseProxy (some ns) name) s ((reconcile ns name).run.run s).2 := by
  intro hc
  have hbegun : OwnRun (Cluster.keyFor .reverseProxy (some ns) name) s
      { s with attempts := s.attempts + 1 } := OwnRun.of_same rfl rfl
  have hE : (engine ns).Confines (Cluster.keyFor .reverseProxy (some ns) name) (Keyed _) :=
    engine_confines ns rfl
  unfold reconcile
  simp only [exceptState_run_bind, begin_run]
  rcases getProxy_cases ns name { s with attempts := s.attempts + 1 } with
    ⟨e, hget⟩ | hget | ⟨j, p, hfound, hread, hget⟩ <;> rw [hget] <;> dsimp only
  · exact hbegun hc
  · exact hbegun hc
  -- the proxy read names the key it was read from
  have hp : Keyed (Cluster.keyFor .reverseProxy (some ns) name) p :=
    (ProxyResource.keyOf_of_read hread _).trans (hc j hfound)
  split
  · exact hbegun hc
  · exact IsTrans.trans _ _ _ hbegun (hE.settle hp _ _ _) hc
  · exact IsTrans.trans _ _ _ hbegun (hE.resync hp _ _ _ _) hc

end Proxy

/-- An invalid configuration touches nothing but the instance. From a store the server keeps, a
reconcile of a driver instance that is not being deleted, or of a proxy, that runs no
convergence logs only updates and status updates of the instance's own kind and name, and
changes no object stored under another key. Every reconcile that records an invalid
configuration runs none, whether the configuration did not resolve, its version could not be
annotated, its defaults could not be applied, or its spec failed validation. -/
theorem invalid_configurations_write_only_instance :
    (∀ (setup : ReconcilerSetup) (family : DriverKind) (ns name : String) (s : Controller),
      s.cluster.WellKeyed →
      (∀ j r, s.cluster.find? (Cluster.keyFor (.driver family) (some ns) name) = some j →
        DriverResource.read family j = .ok r → Reconcile.beingDeleted r = false) →
      ((Reconcile.reconcile setup family ns name).run.run s).2.converged = s.converged →
      Cluster.WritesOnly (Cluster.keyFor (.driver family) (some ns) name) s.cluster
        ((Reconcile.reconcile setup family ns name).run.run s).2.cluster) ∧
    (∀ (ns name : String) (s : Controller), s.cluster.WellKeyed →
      ((Proxy.reconcile ns name).run.run s).2.converged = s.converged →
      Cluster.WritesOnly (Cluster.keyFor .reverseProxy (some ns) name) s.cluster
        ((Proxy.reconcile ns name).run.run s).2.cluster) := by
  constructor
  · intro setup family ns name s hkeyed hlive hsame
    exact (Reconcile.reconcile_own setup family ns name hlive).writesOnly (hkeyed.namesKey _) hsame
  · intro ns name s hkeyed hsame
    exact (Proxy.reconcile_own ns name s).writesOnly (hkeyed.namesKey _) hsame

/-! ## Refused configurations

The parked PowerStore instance reconciled with no configuration to resolve, and the proxy of the
refused installations stored without the certificate secret it names. -/

namespace Untrusted

def proxyStart : Controller where
  cluster := { objects := [(Cluster.keyFor .reverseProxy (some "ns") "p", Refused.proxy.toJson)] }
  clock := .ofSeconds 1700000000

end Untrusted

/-- The refused configurations are recorded as invalid, each with one status write of its own
instance. -/
theorem refused_configurations_write_only_instance :
    let driverRun := (Reconcile.reconcile Unbacked.unresolved .powerStore "ns" "d").run.run
      Parked.driverStart
    let proxyRun := (Proxy.reconcile "ns" "p").run.run Untrusted.proxyStart
    driverRun.2.statusWrites.map (·.state) = [.invalidConfig] ∧
      driverRun.2.cluster.writes = [⟨.updateStatus, .driver .powerStore, "d"⟩] ∧
      Cluster.WritesOnly (Cluster.keyFor (.driver .powerStore) (some "ns") "d")
        Parked.driverStart.cluster driverRun.2.cluster ∧
    proxyRun.2.statusWrites.map (·.state) = [.invalidConfig] ∧
      proxyRun.2.cluster.writes = [⟨.updateStatus, .reverseProxy, "p"⟩] ∧
      Cluster.WritesOnly (Cluster.keyFor .reverseProxy (some "ns") "p")
        Untrusted.proxyStart.cluster proxyRun.2.cluster := by
  intro driverRun proxyRun
  have driverKeyed : Parked.driverStart.cluster.WellKeyed :=
    ⟨List.pairwise_singleton _ _, fun q hq => by rw [List.mem_singleton.1 hq]; decide⟩
  have proxyKeyed : Untrusted.proxyStart.cluster.WellKeyed :=
    ⟨List.pairwise_singleton _ _, fun q hq => by rw [List.mem_singleton.1 hq]; decide⟩
  have hlive : ∀ j r, Parked.driverStart.cluster.find?
      (Cluster.keyFor (.driver .powerStore) (some "ns") "d") = some j →
      DriverResource.read .powerStore j = .ok r → Reconcile.beingDeleted r = false := by
    intro j r hj hr
    have hfind : Parked.driverStart.cluster.find?
        (Cluster.keyFor (.driver .powerStore) (some "ns") "d") = some Parked.driver.toJson := rfl
    rw [hfind, Option.some.injEq] at hj
    subst hj
    have hread : DriverResource.read .powerStore Parked.driver.toJson = .ok Parked.driver := rfl
    rw [hread, Except.ok.injEq] at hr
    subst hr
    rfl
  have driverSame : driverRun.2.converged = Parked.driverStart.converged :=
    List.eq_nil_of_length_eq_zero (by decide +kernel)
  have proxySame : proxyRun.2.converged = Untrusted.proxyStart.converged :=
    List.eq_nil_of_length_eq_zero (by decide +kernel)
  have driverWrites : driverRun.2.statusWrites.map (·.state) = [.invalidConfig] ∧
      driverRun.2.cluster.writes = [⟨.updateStatus, .driver .powerStore, "d"⟩] := by
    decide +kernel
  have proxyWrites : proxyRun.2.statusWrites.map (·.state) = [.invalidConfig] ∧
      proxyRun.2.cluster.writes = [⟨.updateStatus, .reverseProxy, "p"⟩] := by
    decide +kernel
  exact ⟨driverWrites.1, driverWrites.2,
    invalid_configurations_write_only_instance.1 Unbacked.unresolved .powerStore "ns" "d"
      Parked.driverStart driverKeyed hlive driverSame,
    proxyWrites.1, proxyWrites.2,
    invalid_configurations_write_only_instance.2 "ns" "p" Untrusted.proxyStart proxyKeyed proxySame⟩

end CsiOperator
