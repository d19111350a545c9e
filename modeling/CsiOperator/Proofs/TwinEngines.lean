import Mathlib
import CsiOperator.Proofs.RunAgreement
import CsiOperator.Proofs.Lifecycle
import CsiOperator.Proofs.ReconcilePaths
import CsiOperator.Proofs.ProxyPaths
import CsiOperator.Proofs.SpecInit
import CsiOperator.Proofs.MdmNormalization
/-!
The driver engine and the proxy engine as twins.

Both reconcilers run one lifecycle (`Engine`): once a resource is read and its path chosen, what
they record depends only on what their steps answer. `Engine.Twins` says when two engines'
steps answer alike: their observations tell the same, their validations and convergences fail
together with the same messages, their stores fail together, and the statuses they keep
correspond one to one. Under it the lifecycle's handlers agree, handler by handler, and so do
whole resyncs and state checks, provided that the spec written back before a provisional status
is written back alike.

That proviso is where the driver is no twin of the proxy: the driver writes a changed spec back
before its provisional status, and a failure of that write fails its reconcile, while the proxy
writes nothing there.
-/

namespace CsiOperator

/-- Two status writes that record the same: the same state and the same last change, one with
the fingerprint `h₁` exactly when the other has `h₂`. -/
def StatusWrite.Twin (h₁ h₂ : Nat) (w₁ w₂ : StatusWrite) : Prop :=
  w₁.state = w₂.state ∧ w₁.lastUpdate = w₂.lastUpdate ∧ (w₁.hash = h₁ ↔ w₂.hash = h₂)

namespace Engine

open Controller LifecycleStatus

section Converged

variable {ρ σ : Type} [DecidableEq σ] [LifecycleStatus σ] (E : Engine ρ σ)

/-- What a resync does once its spec is written back and its provisional status recorded:
validate the spec, converge the objects and record the outcome. -/
def validateAndConverge (r : ρ) (new old : σ) : ControllerM Requeue := do
  match ← tryCluster (E.validate r) with
  | .error e => E.invalidConfig r e
  | .ok () =>
    let new := withState new .updating
    match ← E.converge r with
    | .ok () => recordConverged (E.observeConverged r) (E.storeStatus r) r new old
    | .error e => recordFailed (E.observeConverged r) (E.storeStatus r) r new old e

theorem resync_eq (r : ρ) (provisional : Bool) (new old : σ) :
    E.resync r provisional new old =
      if provisional then do
        let r ← E.prepare r
        let now ← now
        let new := withLastUpdate new ((lastUpdate old).record (some .updating) "" now)
        let r ← writeStatus (E.storeStatus r) r new old
        E.validateAndConverge r new old
      else E.validateAndConverge r new old := by
  unfold resync validateAndConverge
  cases provisional <;> rfl

end Converged

variable {ρ₁ σ₁ ρ₂ σ₂ : Type} [LifecycleStatus σ₁] [LifecycleStatus σ₂]

/-- Two observations that tell the same: whether the installation runs, whether and what went
wrong observing it, and pods whose record keeps corresponding statuses corresponding. -/
structure SeenAlike (S : σ₁ → σ₂ → Prop) (o₁ : Observation σ₁) (o₂ : Observation σ₂) : Prop where
  running : o₁.running = o₂.running
  failed : o₁.error.isSome = o₂.error.isSome
  message : o₁.message = o₂.message
  pods : ∀ {a b}, S a b → S (o₁.pods a) (o₂.pods b)

/-- Two engines whose steps answer alike, from controllers that are `Alike` with clusters
related by `C`: statuses related by `S` record the same (with the fingerprints `h₁` and `h₂`)
and are equal exactly together, resources related by `T` carry related statuses, and every
step fails together on both sides or answers related values. Validations and convergences
that fail report the same message. -/
structure Twins (C : Cluster → Cluster → Prop) (h₁ h₂ : Nat) (S : σ₁ → σ₂ → Prop)
    (T : ρ₁ → ρ₂ → Prop) (E₁ : Engine ρ₁ σ₁) (E₂ : Engine ρ₂ σ₂) : Prop where
  records : ∀ {a b}, S a b → StatusWrite.Twin h₁ h₂ (written a) (written b)
  eq_iff : ∀ {a₁ b₁ a₂ b₂}, S a₁ b₁ → S a₂ b₂ → (a₁ = a₂ ↔ b₁ = b₂)
  setState : ∀ {a b} st, S a b → S (withState a st) (withState b st)
  setLastUpdate : ∀ {a b} u, S a b → S (withLastUpdate a u) (withLastUpdate b u)
  carries : ∀ {r₁ r₂}, T r₁ r₂ → S (E₁.status r₁) (E₂.status r₂)
  observes : ∀ {r₁ r₂}, T r₁ r₂ →
    Agree (Alike C (StatusWrite.Twin h₁ h₂)) (SeenAlike S) (E₁.observe r₁) (E₂.observe r₂)
  observesConverged : ∀ {r₁ r₂}, T r₁ r₂ →
    Agree (Alike C (StatusWrite.Twin h₁ h₂)) (SeenAlike S) (E₁.observeConverged r₁)
      (E₂.observeConverged r₂)
  stores : ∀ {r₁ r₂ a b}, T r₁ r₂ → S a b →
    Agree (Alike C (StatusWrite.Twin h₁ h₂)) T (E₁.storeStatus r₁ a) (E₂.storeStatus r₂ b)
  validates : ∀ {r₁ r₂}, T r₁ r₂ →
    Agree (Alike C (StatusWrite.Twin h₁ h₂)) (Outcomes SameMessage fun _ _ => True)
      (tryCluster (E₁.validate r₁)) (tryCluster (E₂.validate r₂))
  converges : ∀ {r₁ r₂}, T r₁ r₂ →
    Agree (Alike C (StatusWrite.Twin h₁ h₂)) (Outcomes SameMessage fun _ _ => True)
      (E₁.converge r₁) (E₂.converge r₂)

namespace Twins

variable {C : Cluster → Cluster → Prop} {h₁ h₂ : Nat} {S : σ₁ → σ₂ → Prop} {T : ρ₁ → ρ₂ → Prop}
  {E₁ : Engine ρ₁ σ₁} {E₂ : Engine ρ₂ σ₂} {r₁ : ρ₁} {r₂ : ρ₂} {n₁ o₁ : σ₁} {n₂ o₂ : σ₂}

theorem state_eq (tw : Twins C h₁ h₂ S T E₁ E₂) {a : σ₁} {b : σ₂} (h : S a b) :
    state a = state b :=
  (tw.records h).1

theorem lastUpdate_eq (tw : Twins C h₁ h₂ S T E₁ E₂) {a : σ₁} {b : σ₂} (h : S a b) :
    lastUpdate a = lastUpdate b :=
  (tw.records h).2.1

theorem recorded (tw : Twins C h₁ h₂ S T E₁ E₂) {seen₁ : Observation σ₁} {seen₂ : Observation σ₂}
    (hseen : SeenAlike S seen₁ seen₂) {x₁ : σ₁} {x₂ : σ₂} (hx : S x₁ x₂) {u₁ u₂ : LastUpdate}
    (hu : u₁ = u₂) : S (withLastUpdate (seen₁.pods x₁) u₁) (withLastUpdate (seen₂.pods x₂) u₂) :=
  hu ▸ tw.setLastUpdate u₁ (hseen.pods hx)

section Writes

variable [DecidableEq σ₁] [DecidableEq σ₂]

theorem writeStatus_agree (tw : Twins C h₁ h₂ S T E₁ E₂) (hr : T r₁ r₂) (hn : S n₁ n₂)
    (ho : S o₁ o₂) :
    Agree (Alike C (StatusWrite.Twin h₁ h₂)) T (writeStatus (E₁.storeStatus r₁) r₁ n₁ o₁)
      (writeStatus (E₂.storeStatus r₂) r₂ n₂ o₂) := by
  unfold Engine.writeStatus
  -- both skip the write exactly together, since equality of corresponding statuses agrees
  refine Agree.ite (tw.eq_iff hn ho) (fun _ => Agree.pure hr) fun _ => ?_
  exact (noteStatus_agree (tw.records hn)).bind fun _ _ _ => tw.stores hr hn

section Handlers

variable {obs₁ : ControllerM (Observation σ₁)} {obs₂ : ControllerM (Observation σ₂)}

theorem recordInvalid_agree (tw : Twins C h₁ h₂ S T E₁ E₂)
    (hobs : Agree (Alike C (StatusWrite.Twin h₁ h₂)) (SeenAlike S) obs₁ obs₂) (hr : T r₁ r₂)
    (ho : S o₁ o₂) {e₁ e₂ : OperatorError} (he : SameMessage e₁ e₂) :
    Agree (Alike C (StatusWrite.Twin h₁ h₂)) Eq (recordInvalid obs₁ (E₁.storeStatus r₁) r₁ o₁ e₁)
      (recordInvalid obs₂ (E₂.storeStatus r₂) r₂ o₂ e₂) := by
  unfold recordInvalid
  refine hobs.bind fun seen₁ seen₂ hseen => now_agree.bind fun t _ ht => ?_
  subst ht
  have hu : (lastUpdate o₁).record (some .invalidConfig) e₁.message t =
      (lastUpdate o₂).record (some .invalidConfig) e₂.message t := by
    rw [tw.lastUpdate_eq ho, he]
  have hnew := tw.setState .invalidConfig (tw.recorded hseen ho hu)
  exact (Agree.attempt (tw.writeStatus_agree hr hnew ho)).bind fun _ _ _ => Agree.pure rfl

theorem recordSettled_agree (tw : Twins C h₁ h₂ S T E₁ E₂)
    (hobs : Agree (Alike C (StatusWrite.Twin h₁ h₂)) (SeenAlike S) obs₁ obs₂) (hr : T r₁ r₂)
    (hn : S n₁ n₂) (ho : S o₁ o₂) :
    Agree (Alike C (StatusWrite.Twin h₁ h₂)) Eq (recordSettled obs₁ (E₁.storeStatus r₁) r₁ n₁ o₁)
      (recordSettled obs₂ (E₂.storeStatus r₂) r₂ n₂ o₂) := by
  unfold recordSettled
  refine hobs.bind fun seen₁ seen₂ hseen => now_agree.bind fun t _ ht => ?_
  subst ht
  -- the settled state, the requeue and the wait are decided from the same values
  simp only [hseen.running, hseen.failed, hseen.message, tw.state_eq ho, tw.lastUpdate_eq ho]
  generalize successRequeue _ _ _ t = decided
  obtain ⟨requeue, wait⟩ := decided
  refine (Agree.attempt (tw.writeStatus_agree hr
    (tw.setLastUpdate _ (tw.setState _ (hseen.pods hn))) ho)).bind fun w₁ w₂ hw => ?_
  rcases w₁ with _ | _ <;> rcases w₂ with _ | _ <;> simp only [Outcomes] at hw
  · exact Agree.pure rfl
  · exact Agree.pure rfl

theorem recordConverged_agree (tw : Twins C h₁ h₂ S T E₁ E₂)
    (hobs : Agree (Alike C (StatusWrite.Twin h₁ h₂)) (SeenAlike S) obs₁ obs₂) (hr : T r₁ r₂)
    (hn : S n₁ n₂) (ho : S o₁ o₂) :
    Agree (Alike C (StatusWrite.Twin h₁ h₂)) Eq
      (recordConverged obs₁ (E₁.storeStatus r₁) r₁ n₁ o₁)
      (recordConverged obs₂ (E₂.storeStatus r₂) r₂ n₂ o₂) := by
  unfold recordConverged
  refine hobs.bind fun seen₁ seen₂ hseen => now_agree.bind fun t _ ht => ?_
  subst ht
  simp only [hseen.running, hseen.message, tw.lastUpdate_eq ho]
  exact (tw.writeStatus_agree hr (tw.setLastUpdate _ (tw.setState _ (hseen.pods hn))) ho).bind
    fun _ _ _ => Agree.pure rfl

theorem recordFailed_agree (tw : Twins C h₁ h₂ S T E₁ E₂)
    (hobs : Agree (Alike C (StatusWrite.Twin h₁ h₂)) (SeenAlike S) obs₁ obs₂) (hr : T r₁ r₂)
    (hn : S n₁ n₂) (ho : S o₁ o₂) {e₁ e₂ : OperatorError} (he : SameMessage e₁ e₂) :
    Agree (Alike C (StatusWrite.Twin h₁ h₂)) Eq
      (recordFailed obs₁ (E₁.storeStatus r₁) r₁ n₁ o₁ e₁)
      (recordFailed obs₂ (E₂.storeStatus r₂) r₂ n₂ o₂ e₂) := by
  unfold recordFailed
  refine hobs.bind fun seen₁ seen₂ hseen => now_agree.bind fun t _ ht => ?_
  subst ht
  have hmessage : e₁.message = e₂.message := he
  simp only [tw.lastUpdate_eq ho, hmessage]
  have hfailed := tw.setLastUpdate ((lastUpdate o₂).record (some .error) e₂.message t)
    (hseen.pods hn)
  -- both back off alike: the decision is taken from the same last change and clock
  cases failureDecision (lastUpdate o₂) t with
  | escalate =>
    exact (Agree.attempt (tw.writeStatus_agree hr (tw.setLastUpdate _ (tw.setState _ hfailed))
      ho)).bind fun _ _ _ => Agree.pure rfl
  | retry wait =>
    refine Agree.ite Iff.rfl (fun _ => ?_) fun _ => Agree.pure rfl
    exact (Agree.attempt (tw.writeStatus_agree hr hfailed ho)).bind fun _ _ _ => Agree.pure rfl

end Handlers

theorem invalidConfig_agree (tw : Twins C h₁ h₂ S T E₁ E₂) (hr : T r₁ r₂)
    {e₁ e₂ : OperatorError} (he : SameMessage e₁ e₂) :
    Agree (Alike C (StatusWrite.Twin h₁ h₂)) Eq (E₁.invalidConfig r₁ e₁) (E₂.invalidConfig r₂ e₂) :=
  tw.recordInvalid_agree (tw.observes hr) hr (tw.carries hr) he

theorem settle_agree (tw : Twins C h₁ h₂ S T E₁ E₂) (hr : T r₁ r₂) (hn : S n₁ n₂)
    (ho : S o₁ o₂) :
    Agree (Alike C (StatusWrite.Twin h₁ h₂)) Eq (E₁.settle r₁ n₁ o₁) (E₂.settle r₂ n₂ o₂) :=
  tw.recordSettled_agree (tw.observes hr) hr hn ho

theorem validateAndConverge_agree (tw : Twins C h₁ h₂ S T E₁ E₂) (hr : T r₁ r₂)
    (hn : S n₁ n₂) (ho : S o₁ o₂) :
    Agree (Alike C (StatusWrite.Twin h₁ h₂)) Eq (E₁.validateAndConverge r₁ n₁ o₁)
      (E₂.validateAndConverge r₂ n₂ o₂) := by
  unfold validateAndConverge
  refine (tw.validates hr).bind fun v₁ v₂ hv => ?_
  rcases v₁ with e₁ | ⟨⟩ <;> rcases v₂ with e₂ | ⟨⟩ <;> simp only [Outcomes] at hv
  · exact tw.invalidConfig_agree hr hv
  · refine (tw.converges hr).bind fun c₁ c₂ hc => ?_
    rcases c₁ with e₁ | ⟨⟩ <;> rcases c₂ with e₂ | ⟨⟩ <;> simp only [Outcomes] at hc
    · exact tw.recordFailed_agree (tw.observesConverged hr) hr (tw.setState _ hn) ho hc
    · exact tw.recordConverged_agree (tw.observesConverged hr) hr (tw.setState _ hn) ho

theorem resync_agree (tw : Twins C h₁ h₂ S T E₁ E₂) {provisional : Bool}
    (hprepare : provisional = true → ∀ {r₁ r₂}, T r₁ r₂ →
      Agree (Alike C (StatusWrite.Twin h₁ h₂)) T (E₁.prepare r₁) (E₂.prepare r₂))
    (hr : T r₁ r₂) (hn : S n₁ n₂) (ho : S o₁ o₂) :
    Agree (Alike C (StatusWrite.Twin h₁ h₂)) Eq (E₁.resync r₁ provisional n₁ o₁)
      (E₂.resync r₂ provisional n₂ o₂) := by
  rw [resync_eq, resync_eq]
  cases provisional with
  | false => exact tw.validateAndConverge_agree hr hn ho
  | true =>
    refine (hprepare rfl hr).bind fun r₁' r₂' hr' => now_agree.bind fun t _ ht => ?_
    subst ht
    have hprovisional : S (withLastUpdate n₁ ((lastUpdate o₁).record (some .updating) "" t))
        (withLastUpdate n₂ ((lastUpdate o₂).record (some .updating) "" t)) := by
      rw [tw.lastUpdate_eq ho]
      exact tw.setLastUpdate _ hn
    exact (tw.writeStatus_agree hr' hprovisional ho).bind fun _ _ hr'' =>
      tw.validateAndConverge_agree hr'' hprovisional ho

end Writes

end Twins

end Engine

/-! ## The driver's and the proxy's reconciles -/

theorem Defaults.initializeSpec_forceUpdate {r r₁ : DriverResource} {c : ResolvedConfig}
    {u : Bool} (h : Defaults.initializeSpec r c = .ok (u, r₁)) :
    r₁.spec.forceUpdate = r.spec.forceUpdate := by
  unfold Defaults.initializeSpec at h
  obtain ⟨⟨d₁, as₁⟩, hsidecars, h⟩ := bind_eq_ok.1 h
  obtain ⟨d₂, hinits, h⟩ := bind_eq_ok.1 h
  obtain ⟨⟨b, as₂⟩, -, h⟩ := bind_eq_ok.1 h
  cases h
  -- the defaults fill the sidecars, the init containers and the storage classes only
  have h₁ := (Defaults.defaultSidecars_records (Defaults.keySorted_annotationsOf r) hsidecars).1
  have h₂ := (Defaults.defaultInitContainers_records hinits).1
  show d₂.forceUpdate = r.spec.forceUpdate
  rw [h₂, h₁]

theorem Hooks.initializeDriverSpec_forceUpdate {r r₂ : DriverResource} {u : Bool}
    (h : Hooks.initializeDriverSpec r = .ok (u, r₂)) : r₂.spec.forceUpdate = r.spec.forceUpdate := by
  unfold Hooks.initializeDriverSpec at h
  split at h
  · dsimp only at h
    split at h
    · cases h
      rfl
    · cases h
      rfl
  · obtain ⟨⟨u', d'⟩, hmdm, h⟩ := bind_eq_ok.1 h
    cases h
    obtain ⟨-, -, -, -, -, -, -, -, rfl⟩ := Hooks.normalizeMdm_parts hmdm
    rfl
  · cases h
    rfl

namespace Reconcile

theorem applyDefaults_forceUpdate {r r' : DriverResource} {config : ResolvedConfig} {u : Bool}
    (h : applyDefaults r config = .ok (u, r')) : r'.spec.forceUpdate = r.spec.forceUpdate := by
  unfold applyDefaults at h
  simp only [bind, Except.bind, Except.mapError] at h
  split at h
  · cases h
  · next common hcommon =>
    obtain ⟨u₁, r₁⟩ := common
    split at h
    · cases h
    · next own hown =>
      obtain ⟨u₂, r₂⟩ := own
      cases h
      rw [Hooks.initializeDriverSpec_forceUpdate (ok_of_mapError_match hown),
        Defaults.initializeSpec_forceUpdate (ok_of_mapError_match hcommon)]

/-- A prepared instance whose update is not forced and whose initialization succeeds, reports
no change and gives `r'`. -/
structure Initialized (setup : ReconcilerSetup) (family : DriverKind) (ns name : String)
    (c : Cluster) (config : ResolvedConfig) (r r' : DriverResource) : Prop where
  prepared : Prepared setup family ns name c config r
  unforced : r.spec.forceUpdate = false
  initialized : applyDefaults r config = .ok (false, r')

end Reconcile

open Controller

/-- A driver instance and a proxy resource whose reconciles start alike: the initialized instance
and the proxy correspond, the statuses they recorded correspond, and so do those statuses with
the fingerprints of the current specs; and both specs changed since, or neither did. -/
structure StartsAlike (S : DriverStatus → ProxyStatus → Prop)
    (T : DriverResource → ProxyResource → Prop) (r r' : DriverResource) (p : ProxyResource) :
    Prop where
  resources : T r' p
  recorded : S (r.status.getD {}) (p.status.getD {})
  rehashed : S { r.status.getD {} with driverHash := Digest.fingerprint r.specText }
    { p.status.getD {} with proxyHash := Digest.fingerprint p.specText }
  changed : (Digest.fingerprint r.specText != (r.status.getD {}).driverHash) =
    (Digest.fingerprint p.specText != (p.status.getD {}).proxyHash)

theorem StartsAlike.renewed {S : DriverStatus → ProxyStatus → Prop}
    {T : DriverResource → ProxyResource → Prop} {r r' : DriverResource} {p : ProxyResource}
    (h : StartsAlike S T r r' p) (changed : Bool) :
    S (if changed = true then { r.status.getD {} with driverHash := Digest.fingerprint r.specText }
        else r.status.getD {})
      (if changed = true then { p.status.getD {} with proxyHash := Digest.fingerprint p.specText }
        else p.status.getD {}) := by
  cases changed
  · exact h.recorded
  · exact h.rehashed

/-- The proxy engine twins the driver engine once the driver's spec is written back like the
proxy's: for a driver instance that is not being deleted, carries the finalizer and the
annotation of its configuration version, resolves its configuration, is not forced and whose
initialization reports no change, and a stored proxy resource, both reconciles take the same
path, fail together or answer the same requeue, and end alike, having recorded corresponding
status writes, whenever their steps answer alike (`Engine.Twins`) from alike states. -/
theorem driver_and_proxy_reconciles_twin {setup : ReconcilerSetup} {family : DriverKind}
    {ns name pns pname : String} {config : ResolvedConfig} {r r' : DriverResource}
    {p : ProxyResource} {s₁ s₂ : Controller} {C : Cluster → Cluster → Prop}
    {S : DriverStatus → ProxyStatus → Prop} {T : DriverResource → ProxyResource → Prop}
    (hdriver : Reconcile.Initialized setup family ns name s₁.cluster config r r')
    (hproxy : Proxy.Stored pns pname s₂.cluster p)
    (twins : Engine.Twins C (Digest.fingerprint r.specText) (Digest.fingerprint p.specText) S T
      (Reconcile.engine setup config) (Proxy.engine pns))
    (hwriteBack : (Digest.fingerprint r.specText != (r.status.getD {}).driverHash) = true →
      ∀ {r₁ p₁}, T r₁ p₁ → Agree (Alike C (StatusWrite.Twin (Digest.fingerprint r.specText)
        (Digest.fingerprint p.specText))) T ((Reconcile.engine setup config).prepare r₁)
        ((Proxy.engine pns).prepare p₁))
    (hstart : Alike C (StatusWrite.Twin (Digest.fingerprint r.specText)
      (Digest.fingerprint p.specText)) s₁ s₂)
    (halike : StartsAlike S T r r' p) :
    Path.decide (r.status.getD {}).state
        (Digest.fingerprint r.specText != (r.status.getD {}).driverHash) r.spec.forceUpdate =
      Path.decide (p.status.getD {}).state
        (Digest.fingerprint p.specText != (p.status.getD {}).proxyHash) false ∧
    RunsMatch (Alike C (StatusWrite.Twin (Digest.fingerprint r.specText)
        (Digest.fingerprint p.specText))) Eq
      ((Reconcile.reconcile setup family ns name).run.run s₁)
      ((Proxy.reconcile pns pname).run.run s₂) := by
  -- both take the path of the same recorded state and the same change
  have hpath : Path.decide (r.status.getD {}).state
      (Digest.fingerprint r.specText != (r.status.getD {}).driverHash) r.spec.forceUpdate =
      Path.decide (p.status.getD {}).state
        (Digest.fingerprint p.specText != (p.status.getD {}).proxyHash) false := by
    rw [hdriver.unforced, halike.changed]
    exact congrArg (Path.decide · _ false) (twins.state_eq halike.recorded)
  refine ⟨hpath, ?_⟩
  have hforce : r'.spec.forceUpdate = false :=
    (Reconcile.applyDefaults_forceUpdate hdriver.initialized).trans hdriver.unforced
  rw [Reconcile.reconcile_of_prepared hdriver.prepared, Proxy.reconcile_of_stored hproxy]
  dsimp only
  rw [hpath, hdriver.initialized, halike.changed]
  cases Path.decide (p.status.getD {}).state
      (Digest.fingerprint p.specText != (p.status.getD {}).proxyHash) false with
  | stop => exact ⟨rfl, hstart.begun⟩
  | checkStateOnly =>
    exact twins.settle_agree halike.resources (halike.renewed _) halike.recorded _ _ hstart.begun
  | resync =>
    -- the driver's resync writes back exactly when the spec changed, as the proxy's does
    simp only [hforce, Bool.false_eq_true, ↓reduceIte, Bool.false_or, Bool.or_false]
    exact twins.resync_agree (fun hc => hwriteBack (halike.changed.trans hc)) halike.resources
      (twins.setState .updating (halike.renewed _)) halike.recorded _ _ hstart.begun

end CsiOperator
