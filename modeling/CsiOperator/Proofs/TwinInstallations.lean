import Mathlib
import CsiOperator.Proofs.TwinEngines
import CsiOperator.Proofs.FailureBackoff
/-!
A driver installation and a proxy installation whose engines are twins, and where twins part.

The PowerStore instance and the proxy of the refused installations are each recorded as
updating for their current spec, in clusters that hold their workloads without pods, refuse
their status writes, and refuse the first object of each convergence. Over controllers whose
clusters stay exactly these (`Pinned`), the two engines are twins (`refused_engines_twin`):
every step leaves the clusters as they are, both observations see workloads that do not run
and report nothing wrong, both validations pass, both convergences fail with the same message,
and the proxy's statuses stand for the driver's (`ProxyStatus.asDriverStatus`). So their
reconciles run alike (`refused_reconciles_twin`).

Twins part where the driver writes its changed spec back: when that write fails, the driver's
reconcile fails before it records any status, while the proxy, which writes nothing back,
records its provisional status and its failed convergence (`specWriteBack_splits_twins`).
-/

namespace CsiOperator

open Controller

/-- Clusters that are exactly two given ones. -/
def Pinned (K₁ K₂ c₁ c₂ : Cluster) : Prop := c₁ = K₁ ∧ c₂ = K₂

section Pinned

variable {α β : Type} {K₁ K₂ : Cluster} {W : StatusWrite → StatusWrite → Prop}
  {m₁ : ClusterM α} {m₂ : ClusterM β} {o₁ : Except OperatorError α} {o₂ : Except OperatorError β}

/-! Cluster computations that leave two pinned clusters as they are agree as their outcomes do. -/

theorem onCluster_agree_pinned {Q : α → β → Prop} (h₁ : m₁.run.run K₁ = (o₁, K₁))
    (h₂ : m₂.run.run K₂ = (o₂, K₂)) (ho : Outcomes (fun _ _ => True) Q o₁ o₂) :
    Agree (Alike (Pinned K₁ K₂) W) Q (onCluster m₁) (onCluster m₂) := by
  rintro s₁ s₂ ⟨hclock, hwrites, hc₁, hc₂⟩
  rw [onCluster_run, onCluster_run, hc₁, hc₂, h₁, h₂]
  exact ⟨ho, hclock, hwrites, rfl, rfl⟩

theorem tryCluster_agree_pinned {Q : Except OperatorError α → Except OperatorError β → Prop}
    (h₁ : m₁.run.run K₁ = (o₁, K₁)) (h₂ : m₂.run.run K₂ = (o₂, K₂)) (ho : Q o₁ o₂) :
    Agree (Alike (Pinned K₁ K₂) W) Q (tryCluster m₁) (tryCluster m₂) := by
  rintro s₁ s₂ ⟨hclock, hwrites, hc₁, hc₂⟩
  rw [tryCluster_run, tryCluster_run, hc₁, hc₂, h₁, h₂]
  exact ⟨ho, hclock, hwrites, rfl, rfl⟩

theorem converge_agree_pinned {Q : Except OperatorError Unit → Except OperatorError Unit → Prop}
    {key₁ key₂ : Cluster.Key} {spec₁ spec₂ : Json} {m₁ m₂ : ClusterM Unit}
    {o₁ o₂ : Except OperatorError Unit} (h₁ : m₁.run.run K₁ = (o₁, K₁))
    (h₂ : m₂.run.run K₂ = (o₂, K₂)) (ho : Q o₁ o₂) :
    Agree (Alike (Pinned K₁ K₂) W) Q (converge key₁ spec₁ m₁) (converge key₂ spec₂ m₂) := by
  rintro s₁ s₂ ⟨hclock, hwrites, hc₁, hc₂⟩
  rw [converge_run, converge_run, hc₁, hc₂, h₁, h₂]
  exact ⟨ho, hclock, hwrites, rfl, rfl⟩

end Pinned

theorem Cluster.updateStatus_refused {c : Cluster} {k : ResourceKind} (hon : c.online = true)
    (hfail : c.failing .updateStatus k = true) (obj : Json) :
    ∃ e, (Cluster.updateStatus k obj).run.run c = (.error e, c) := by
  obtain ⟨e, he⟩ := Cluster.checkFailure_error hfail
  refine ⟨e, ?_⟩
  simp only [Cluster.updateStatus, exceptState_run_bind, Cluster.reach_run hon, he]

namespace ProxyStatus

/-- The driver status a proxy status stands for: the proxy's pods as the controller's, none on
the nodes, and the fingerprints `h₂` of the proxy's spec and `h₁` of the driver's exchanged. -/
def asDriverStatus (h₁ h₂ : Nat) (b : ProxyStatus) : DriverStatus where
  controllerStatus := b.proxyStatus
  driverHash := Equiv.swap h₂ h₁ b.proxyHash
  state := b.state
  lastUpdate := b.lastUpdate

theorem asDriverStatus_injective (h₁ h₂ : Nat) : Function.Injective (asDriverStatus h₁ h₂) := by
  rintro ⟨pods, hash, state, last⟩ ⟨pods', hash', state', last'⟩ h
  simp only [asDriverStatus, DriverStatus.mk.injEq, EmbeddingLike.apply_eq_iff_eq] at h
  obtain ⟨rfl, -, rfl, rfl, rfl⟩ := h
  rfl

end ProxyStatus

/-- A driver status and the proxy status that stands for it. -/
def StandsFor (h₁ h₂ : Nat) (a : DriverStatus) (b : ProxyStatus) : Prop :=
  a = b.asDriverStatus h₁ h₂

section StandsFor

variable {h₁ h₂ : Nat}

theorem StandsFor.records {a : DriverStatus} {b : ProxyStatus} (h : StandsFor h₁ h₂ a b) :
    StatusWrite.Twin h₁ h₂ (LifecycleStatus.written a) (LifecycleStatus.written b) := by
  subst h
  refine ⟨rfl, rfl, ?_⟩
  show Equiv.swap h₂ h₁ b.proxyHash = h₁ ↔ b.proxyHash = h₂
  rw [Equiv.swap_apply_eq_iff, Equiv.swap_apply_right]

theorem StandsFor.eq_iff {a₁ a₂ : DriverStatus} {b₁ b₂ : ProxyStatus} (h : StandsFor h₁ h₂ a₁ b₁)
    (h' : StandsFor h₁ h₂ a₂ b₂) : a₁ = a₂ ↔ b₁ = b₂ := by
  subst h h'
  exact (ProxyStatus.asDriverStatus_injective h₁ h₂).eq_iff

end StandsFor

/-! ## The twin installations -/

namespace Twinned

/-- A workload in namespace `ns` that wants one replica, with a status. -/
def workload (kind name : String) (status : Json) : Json :=
  .obj [("kind", .str kind), ("metadata", .obj [("name", .str name), ("namespace", .str "ns")]),
    ("spec", .obj [("replicas", .int 1)]), ("status", status)]

/-- The PowerStore instance with its StatefulSet and DaemonSet, each with its replica ready and
no pod; status writes of the instance and creations of cluster roles fail. -/
def driverCluster : Cluster where
  objects := [(Cluster.keyFor (.driver .powerStore) (some "ns") "d", Refused.driver.toJson),
    (Cluster.keyFor .daemonSet (some "ns") "powerstore-node",
      workload "DaemonSet" "powerstore-node"
        (.obj [("desiredNumberScheduled", .int 1), ("numberReady", .int 1)])),
    (Cluster.keyFor .statefulSet (some "ns") "powerstore-controller",
      workload "StatefulSet" "powerstore-controller" (.obj [("readyReplicas", .int 1)]))]
  failures := [⟨.create, .clusterRole, "quota exceeded"⟩,
    ⟨.updateStatus, .driver .powerStore, "quota exceeded"⟩]

/-- The proxy with its certificate secret and its Deployment, whose replica is ready with no pod;
status writes of the proxy and creations of configuration maps fail. -/
def proxyCluster : Cluster where
  objects := [(Cluster.keyFor .reverseProxy (some "ns") "p", Refused.proxy.toJson),
    (Cluster.keyFor .secret (some "ns") "tls",
      .obj [("kind", .str "Secret"), ("metadata", .obj [("name", .str "tls"), ("namespace", .str "ns")])]),
    (Cluster.keyFor .deployment (some "ns") "powermax-reverseproxy",
      workload "Deployment" "powermax-reverseproxy" (.obj [("readyReplicas", .int 1)]))]
  failures := [⟨.create, .configMap, "quota exceeded"⟩, ⟨.updateStatus, .reverseProxy, "quota exceeded"⟩]

def driverStart : Controller where
  cluster := driverCluster
  clock := .ofSeconds 1700000000

def proxyStart : Controller where
  cluster := proxyCluster
  clock := .ofSeconds 1700000000

/-- The resources the twins reconcile: the instance and the proxy. -/
def Same (r : DriverResource) (p : ProxyResource) : Prop := r = Refused.driver ∧ p = Refused.proxy

theorem driver_fingerprint : Digest.fingerprint Refused.driver.specText = 6242903749412655361 := by
  decide +kernel

theorem proxy_fingerprint : Digest.fingerprint Refused.proxy.specText = 14202204240202569276 := by
  decide +kernel

theorem statuses_stand_for :
    StandsFor (Digest.fingerprint Refused.driver.specText) (Digest.fingerprint Refused.proxy.specText)
        (Refused.driver.status.getD {}) (Refused.proxy.status.getD {}) ∧
      StandsFor (Digest.fingerprint Refused.driver.specText)
        (Digest.fingerprint Refused.proxy.specText)
        { Refused.driver.status.getD {} with driverHash := Digest.fingerprint Refused.driver.specText }
        { Refused.proxy.status.getD {} with proxyHash := Digest.fingerprint Refused.proxy.specText } := by
  rw [driver_fingerprint, proxy_fingerprint]
  unfold StandsFor
  exact ⟨by decide, by decide⟩

end Twinned

open Twinned in
theorem Twinned.observation_twin {h₁ h₂ : Nat} {W : StatusWrite → StatusWrite → Prop} :
    Agree (Alike (Pinned driverCluster proxyCluster) W) (Engine.SeenAlike (StandsFor h₁ h₂))
      (Reconcile.observation Refused.driver Refused.driverConfig.controllerHA)
      (Proxy.observation "ns") := by
  unfold Reconcile.observation Proxy.observation
  refine Agree.bind (Q := fun a b => a = { } ∧ b = (false, { }, none))
    (onCluster_agree_pinned rfl rfl ⟨rfl, rfl⟩) ?_
  rintro _ _ ⟨rfl, rfl⟩
  exact Agree.pure ⟨rfl, rfl, rfl, fun h => by subst h; rfl⟩

open Twinned in
theorem refused_engines_twin :
    Engine.Twins (Pinned driverCluster proxyCluster) (Digest.fingerprint Refused.driver.specText)
      (Digest.fingerprint Refused.proxy.specText)
      (StandsFor (Digest.fingerprint Refused.driver.specText)
        (Digest.fingerprint Refused.proxy.specText)) Same
      (Reconcile.engine Refused.setup Refused.driverConfig) (Proxy.engine "ns") where
  records h := h.records
  eq_iff h h' := h.eq_iff h'
  setState _ h := by subst h; rfl
  setLastUpdate _ h := by subst h; rfl
  carries := by
    rintro _ _ ⟨rfl, rfl⟩
    exact statuses_stand_for.1
  observes := by
    rintro _ _ ⟨rfl, rfl⟩
    exact observation_twin
  observesConverged := by
    rintro _ _ ⟨rfl, rfl⟩
    exact observation_twin
  stores := by
    -- both status writes are refused
    rintro _ _ a b ⟨rfl, rfl⟩ -
    obtain ⟨e₁, he₁⟩ := Cluster.updateStatus_refused (c := driverCluster) (k := .driver .powerStore) rfl rfl
      { Refused.driver with status := some a }.toJson
    obtain ⟨e₂, he₂⟩ := Cluster.updateStatus_refused (c := proxyCluster) (k := .reverseProxy) rfl rfl
      { Refused.proxy with status := some b }.toJson
    exact Agree.bind (Q := fun _ _ => False) (onCluster_agree_pinned he₁ he₂ trivial)
      fun _ _ h => h.elim
  validates := by
    rintro _ _ ⟨rfl, rfl⟩
    exact tryCluster_agree_pinned rfl rfl trivial
  converges := by
    -- both convergences fail at their first object, with the same message
    rintro _ _ ⟨rfl, rfl⟩
    exact converge_agree_pinned rfl rfl rfl

open Twinned in
/-- The reconciles of the twin installations take the same path and run alike. -/
theorem refused_reconciles_twin :
    Path.decide (Refused.driver.status.getD {}).state
        (Digest.fingerprint Refused.driver.specText != (Refused.driver.status.getD {}).driverHash)
        Refused.driver.spec.forceUpdate =
      Path.decide (Refused.proxy.status.getD {}).state
        (Digest.fingerprint Refused.proxy.specText != (Refused.proxy.status.getD {}).proxyHash)
        false ∧
    RunsMatch (Alike (Pinned driverCluster proxyCluster)
        (StatusWrite.Twin (Digest.fingerprint Refused.driver.specText)
          (Digest.fingerprint Refused.proxy.specText))) Eq
      ((Reconcile.reconcile Refused.setup .powerStore "ns" "d").run.run driverStart)
      ((Proxy.reconcile "ns" "p").run.run proxyStart) :=
  driver_and_proxy_reconciles_twin
    (⟨⟨rfl, ⟨_, rfl, rfl⟩, by decide +kernel, by decide +kernel, by decide +kernel, rfl, ⟨_, rfl⟩⟩,
      rfl, rfl⟩ : Reconcile.Initialized Refused.setup .powerStore "ns" "d" driverCluster
        Refused.driverConfig Refused.driver Refused.driver)
    (⟨rfl, ⟨_, rfl, rfl⟩, by decide +kernel⟩ : Proxy.Stored "ns" "p" proxyCluster Refused.proxy)
    refused_engines_twin
    (fun h => absurd h (by rw [driver_fingerprint]; decide))
    ⟨rfl, .nil, rfl, rfl⟩
    ⟨⟨rfl, rfl⟩, statuses_stand_for.1, statuses_stand_for.2,
      by rw [driver_fingerprint, proxy_fingerprint]; decide⟩

/-! ## Where twins part -/

namespace Rewritten

/-- The PowerStore instance recorded as running for an older spec. -/
def driver : DriverResource :=
  { Refused.driver with status := some { driverHash := 1, state := .running } }

/-- The instance, in a cluster that refuses to write it back and to create cluster roles. -/
def driverStart : Controller where
  cluster :=
    { objects := [(Cluster.keyFor (.driver .powerStore) (some "ns") "d", driver.toJson)],
      failures := [⟨.update, .driver .powerStore, "etcd unavailable"⟩,
        ⟨.create, .clusterRole, "quota exceeded"⟩] }
  clock := .ofSeconds 1700000000

/-- The proxy recorded as running for an older spec. -/
def proxy : ProxyResource :=
  { Refused.proxy with status := some { proxyHash := 1, state := .running } }

/-- The proxy, in a cluster that refuses to write it back and to create configuration maps. -/
def proxyStart : Controller where
  cluster :=
    { objects := [(Cluster.keyFor .reverseProxy (some "ns") "p", proxy.toJson),
        (Cluster.keyFor .secret (some "ns") "tls",
          .obj [("kind", .str "Secret"), ("metadata", .obj [("name", .str "tls"), ("namespace", .str "ns")])])],
      failures := [⟨.update, .reverseProxy, "etcd unavailable"⟩, ⟨.create, .configMap, "quota exceeded"⟩] }
  clock := .ofSeconds 1700000000

end Rewritten

/-- An instance and a proxy whose recorded statuses stand for each other and whose specs both
changed take the same path, yet part: the instance's spec cannot be written back, so its
reconcile fails before recording a status, while the proxy records its provisional status and
its failed convergence, and retries after five seconds. -/
theorem specWriteBack_splits_twins :
    let driverRun := (Reconcile.reconcile Refused.setup .powerStore "ns" "d").run.run
      Rewritten.driverStart
    let proxyRun := (Proxy.reconcile "ns" "p").run.run Rewritten.proxyStart
    StandsFor (Digest.fingerprint Refused.driver.specText) (Digest.fingerprint Refused.proxy.specText)
        (Rewritten.driver.status.getD {}) (Rewritten.proxy.status.getD {}) ∧
      Path.decide (Rewritten.driver.status.getD {}).state
          (Digest.fingerprint Rewritten.driver.specText != (Rewritten.driver.status.getD {}).driverHash)
          false =
        Path.decide (Rewritten.proxy.status.getD {}).state
          (Digest.fingerprint Rewritten.proxy.specText != (Rewritten.proxy.status.getD {}).proxyHash)
          false ∧
      driverRun.1 = .error (Cluster.apiError 500 "InternalError" "etcd unavailable") ∧
      driverRun.2.statusWrites = [] ∧
      proxyRun.1 = .ok (.after 5) ∧ proxyRun.2.statusWrites.map (·.state) = [.updating, .updating] := by
  intro driverRun proxyRun
  refine ⟨?_, ?_, by decide +kernel, by decide +kernel, by decide +kernel, by decide +kernel⟩
  · rw [Twinned.driver_fingerprint, Twinned.proxy_fingerprint]
    unfold StandsFor
    decide
  · show Path.decide _ (Digest.fingerprint Refused.driver.specText != 1) false =
      Path.decide _ (Digest.fingerprint Refused.proxy.specText != 1) false
    rw [Twinned.driver_fingerprint, Twinned.proxy_fingerprint]
    rfl

end CsiOperator
