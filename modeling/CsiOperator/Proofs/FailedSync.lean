import Mathlib
import CsiOperator.Proofs.Placement
import CsiOperator.Proofs.FailureBackoff
/-!
What a reconcile whose convergence fails leaves stored.

A failed convergence is recorded from the status the reconcile read when it began. When no error
was recorded there, the status stored afterwards is the error, with the resource updating, or
the failure marked `Failed`. When one was, the failure handler writes nothing, so that the time
of the error keeps counting: what stays stored is what the reconcile stored before converging.
For a changed spec that is the provisional status, updating with no error recorded, so a
failure that follows an error and a change of the spec is not recorded at all.

Both engines reduce to `Engine.Places.resync_failed`; the path a reconcile takes is read off
`reconcile_of_prepared` and `reconcile_of_stored`, and every other path runs no convergence.
-/

namespace CsiOperator

open Controller LifecycleStatus

namespace Reconcile

theorem Placed.of_metadata {family : DriverKind} {key : Cluster.Key} {r r' : DriverResource}
    {c : Cluster} (hp : Placed family key r c) (hfamily : r'.family = r.family)
    (hmetadata : r'.metadata = r.metadata) : Placed family key r' c := by
  refine ⟨hfamily.trans hp.1, ?_, hp.2.online, hp.2.writable, hp.2.stored⟩
  rw [← hp.2.keyed]
  simp only [DriverResource.keyOf_toJson, hmetadata]

theorem placed_of_prepared {setup : ReconcilerSetup} {family : DriverKind} {ns name : String}
    {c : Cluster} {config : ResolvedConfig} {r r' : DriverResource} {u : Bool}
    (hprep : Prepared setup family ns name c config r)
    (hwritable : c.failing .updateStatus (.driver family) = false)
    (happly : applyDefaults r config = .ok (u, r')) :
    Placed family (Cluster.keyFor (.driver family) (some ns) name) r' c := by
  obtain ⟨j, hfound, hread⟩ := hprep.stored
  obtain ⟨hfamily, as, hmetadata⟩ := applyDefaults_shape happly
  have hfamily' := (DriverResource.family_of_read hread).symm.trans hfamily.symm
  refine ⟨hfamily'.symm, ?_, hprep.online, hwritable, j, hfound, ?_⟩
  · rw [← hprep.keyed, DriverResource.keyOf_of_annotations _ hmetadata]
  · rw [← DriverResource.keyOf_of_read hread, hprep.keyed]

theorem failed_sync_shown {setup : ReconcilerSetup} {family : DriverKind} {ns name : String}
    {c c' : Controller} {config : ResolvedConfig} {r : DriverResource}
    {answer : Except OperatorError Requeue}
    (hprep : Prepared setup family ns name c.cluster config r)
    (hwritable : c.cluster.failing .updateStatus (.driver family) = false)
    (hrun : (reconcile setup family ns name).run.run c = (answer, c'))
    (hlog : ∃ cv, c'.converged = c.converged ++ [cv] ∧ cv.ok = false) :
    Engine.FailureShown DriverStatus.toJson (r.status.getD {})
        (c.cluster.statusAt (Cluster.keyFor (.driver family) (some ns) name))
        (c'.cluster.statusAt (Cluster.keyFor (.driver family) (some ns) name)) ∨
      ((r.status.getD {}).lastUpdate.condition = some .error ∧
        ∃ x : DriverStatus, c'.cluster.statusAt (Cluster.keyFor (.driver family) (some ns) name) =
          some x.toJson ∧ x.state = .updating ∧ x.lastUpdate.condition = some .updating ∧
          x.lastUpdate.errorMessage = "") := by
  have hE := engine_places setup config family (Cluster.keyFor (.driver family) (some ns) name)
  let begun := { c with attempts := c.attempts + 1 }
  rw [reconcile_of_prepared hprep] at hrun
  dsimp only at hrun
  obtain ⟨path, hpath⟩ : ∃ path, Path.decide (r.status.getD {}).state
      (Digest.fingerprint r.specText != (r.status.getD {}).driverHash) r.spec.forceUpdate = path :=
    ⟨_, rfl⟩
  rw [hpath] at hrun
  cases path with
  | stop =>
    rw [Prod.mk.injEq] at hrun
    exact (Engine.logged_ne hlog (hrun.2 ▸ rfl)).elim
  | checkStateOnly =>
    dsimp only at hrun
    rcases happly : applyDefaults r config with ⟨e, r'⟩ | ⟨u, r'⟩ <;> rw [happly] at hrun <;>
      dsimp only at hrun
    · exact (Engine.logged_ne_of_stays (hE.invalidConfig_log r' e) hrun hlog).elim
    · exact (Engine.logged_ne_of_stays (hE.settle_log r' _ _) hrun hlog).elim
  | resync =>
    dsimp only at hrun
    rcases happly : applyDefaults r config with ⟨e, r'⟩ | ⟨u, r'⟩ <;> rw [happly] at hrun <;>
      dsimp only at hrun
    · exact (Engine.logged_ne_of_stays (hE.invalidConfig_log r' e) hrun hlog).elim
    · -- the resource resynced is the defaulted one, its forced update cleared
      have hplaced : Placed family (Cluster.keyFor (.driver family) (some ns) name)
          (if r'.spec.forceUpdate then { r' with spec := { r'.spec with forceUpdate := false } }
            else r') c.cluster := by
        have hp := placed_of_prepared hprep hwritable happly
        split
        · exact hp.of_metadata rfl rfl
        · exact hp
      rcases hE.resync_failed (s := begun) hplaced rfl hrun hlog with shown | ⟨-, recorded, x, hx⟩
      · exact .inl shown
      · exact .inr ⟨recorded, x, hx⟩

end Reconcile

namespace Proxy

theorem failed_sync_shown {ns name : String} {c c' : Controller} {p : ProxyResource}
    {answer : Except OperatorError Requeue} (hstored : Stored ns name c.cluster p)
    (hwritable : c.cluster.failing .updateStatus .reverseProxy = false)
    (hrun : (reconcile ns name).run.run c = (answer, c'))
    (hlog : ∃ cv, c'.converged = c.converged ++ [cv] ∧ cv.ok = false) :
    Engine.FailureShown ProxyStatus.toJson (p.status.getD {})
        (c.cluster.statusAt (Cluster.keyFor .reverseProxy (some ns) name))
        (c'.cluster.statusAt (Cluster.keyFor .reverseProxy (some ns) name)) ∨
      ((p.status.getD {}).lastUpdate.condition = some .error ∧
        ∃ x : ProxyStatus, c'.cluster.statusAt (Cluster.keyFor .reverseProxy (some ns) name) =
          some x.toJson ∧ x.state = .updating ∧ x.lastUpdate.condition = some .updating ∧
          x.lastUpdate.errorMessage = "") := by
  have hE := engine_places ns (Cluster.keyFor .reverseProxy (some ns) name)
  let begun := { c with attempts := c.attempts + 1 }
  rw [reconcile_of_stored hstored] at hrun
  dsimp only at hrun
  obtain ⟨path, hpath⟩ : ∃ path, Path.decide (p.status.getD {}).state
      (Digest.fingerprint p.specText != (p.status.getD {}).proxyHash) false = path := ⟨_, rfl⟩
  rw [hpath] at hrun
  cases path with
  | stop =>
    rw [Prod.mk.injEq] at hrun
    exact (Engine.logged_ne hlog (hrun.2 ▸ rfl)).elim
  | checkStateOnly =>
    dsimp only at hrun
    exact (Engine.logged_ne_of_stays (hE.settle_log p _ _) hrun hlog).elim
  | resync =>
    dsimp only at hrun
    rcases hE.resync_failed (s := begun) (hstored.placed hwritable) rfl hrun hlog with
      shown | ⟨-, recorded, x, hx⟩
    · exact .inl shown
    · exact .inr ⟨recorded, x, hx⟩

end Proxy

/-- A failed convergence is recorded from the status read at the start of the reconcile, by both
engines: the failure is shown, unless an error was recorded there, in which case the status stored
afterwards may be the provisional one, updating with no error. -/
theorem failed_convergences_shown (setup : ReconcilerSetup) (family : DriverKind) (ns name : String)
    (c c' : Controller) (config : ResolvedConfig) (r : DriverResource) (p : ProxyResource)
    (answer : Except OperatorError Requeue) :
    (Reconcile.Prepared setup family ns name c.cluster config r →
      c.cluster.failing .updateStatus (.driver family) = false →
      (Reconcile.reconcile setup family ns name).run.run c = (answer, c') →
      (∃ cv, c'.converged = c.converged ++ [cv] ∧ cv.ok = false) →
      Engine.FailureShown DriverStatus.toJson (r.status.getD {})
          (c.cluster.statusAt (Cluster.keyFor (.driver family) (some ns) name))
          (c'.cluster.statusAt (Cluster.keyFor (.driver family) (some ns) name)) ∨
        ((r.status.getD {}).lastUpdate.condition = some .error ∧
          ∃ x : DriverStatus, c'.cluster.statusAt (Cluster.keyFor (.driver family) (some ns) name) =
            some x.toJson ∧ x.state = .updating ∧ x.lastUpdate.condition = some .updating ∧
            x.lastUpdate.errorMessage = "")) ∧
    (Proxy.Stored ns name c.cluster p →
      c.cluster.failing .updateStatus .reverseProxy = false →
      (Proxy.reconcile ns name).run.run c = (answer, c') →
      (∃ cv, c'.converged = c.converged ++ [cv] ∧ cv.ok = false) →
      Engine.FailureShown ProxyStatus.toJson (p.status.getD {})
          (c.cluster.statusAt (Cluster.keyFor .reverseProxy (some ns) name))
          (c'.cluster.statusAt (Cluster.keyFor .reverseProxy (some ns) name)) ∨
        ((p.status.getD {}).lastUpdate.condition = some .error ∧
          ∃ x : ProxyStatus, c'.cluster.statusAt (Cluster.keyFor .reverseProxy (some ns) name) =
            some x.toJson ∧ x.state = .updating ∧ x.lastUpdate.condition = some .updating ∧
            x.lastUpdate.errorMessage = "")) :=
  ⟨fun hprep hwritable hrun hlog => Reconcile.failed_sync_shown hprep hwritable hrun hlog,
    fun hstored hwritable hrun hlog => Proxy.failed_sync_shown hstored hwritable hrun hlog⟩

theorem failed_once_of_oks {start after : List Convergence} (hstart : start = [])
    (hafter : after.map Convergence.ok = [false]) : ∃ cv, after = start ++ [cv] ∧ cv.ok = false := by
  obtain ⟨cv, rfl, hok⟩ := List.map_eq_singleton_iff.1 hafter
  exact ⟨cv, by rw [hstart, List.nil_append], hok⟩

namespace Respecified

/-- An error recorded a minute before the clock of the starts below. -/
def lastError : LastUpdate where
  condition := some .error
  time := some (.ofSeconds 1699999940)
  errorMessage := "quota exceeded"

/-- The refused driver after its spec changed: its stored hash is no longer the spec's. -/
def driver : DriverResource :=
  { Refused.driver with status := some { driverHash := 1, state := .updating, lastUpdate := lastError } }

def driverStart : Controller :=
  { Refused.driverStart with
    cluster := { Refused.driverStart.cluster with
      objects := [(Cluster.keyFor (.driver .powerStore) (some "ns") "d", driver.toJson)] } }

def proxy : ProxyResource :=
  { Refused.proxy with status := some { proxyHash := 1, state := .updating, lastUpdate := lastError } }

def proxyStart : Controller :=
  { Refused.proxyStart with
    cluster := { Refused.proxyStart.cluster with
      objects := (Cluster.keyFor .reverseProxy (some "ns") "p", proxy.toJson) ::
        Refused.proxyStart.cluster.objects.tail } }

end Respecified

/-- A changed spec that follows a recorded error: both reconciles fail to converge, and what they
leave stored is what `failed_convergences_shown` allows. -/
theorem respecified_failures_shown :
    (Engine.FailureShown DriverStatus.toJson (Respecified.driver.status.getD {})
        (Respecified.driverStart.cluster.statusAt (Cluster.keyFor (.driver .powerStore) (some "ns") "d"))
        (((Reconcile.reconcile Refused.setup .powerStore "ns" "d").run.run
          Respecified.driverStart).2.cluster.statusAt
            (Cluster.keyFor (.driver .powerStore) (some "ns") "d")) ∨
      ((Respecified.driver.status.getD {}).lastUpdate.condition = some .error ∧
        ∃ x : DriverStatus, ((Reconcile.reconcile Refused.setup .powerStore "ns" "d").run.run
          Respecified.driverStart).2.cluster.statusAt
            (Cluster.keyFor (.driver .powerStore) (some "ns") "d") =
          some x.toJson ∧ x.state = .updating ∧ x.lastUpdate.condition = some .updating ∧
          x.lastUpdate.errorMessage = "")) ∧
    (Engine.FailureShown ProxyStatus.toJson (Respecified.proxy.status.getD {})
        (Respecified.proxyStart.cluster.statusAt (Cluster.keyFor .reverseProxy (some "ns") "p"))
        (((Proxy.reconcile "ns" "p").run.run Respecified.proxyStart).2.cluster.statusAt
          (Cluster.keyFor .reverseProxy (some "ns") "p")) ∨
      ((Respecified.proxy.status.getD {}).lastUpdate.condition = some .error ∧
        ∃ x : ProxyStatus, ((Proxy.reconcile "ns" "p").run.run Respecified.proxyStart).2.cluster.statusAt
            (Cluster.keyFor .reverseProxy (some "ns") "p") =
          some x.toJson ∧ x.state = .updating ∧ x.lastUpdate.condition = some .updating ∧
          x.lastUpdate.errorMessage = "")) :=
  ⟨(failed_convergences_shown Refused.setup .powerStore "ns" "d" Respecified.driverStart _
      Refused.driverConfig Respecified.driver Respecified.proxy _).1
      ⟨rfl, ⟨_, rfl, rfl⟩, by decide +kernel, by decide +kernel, by decide +kernel, rfl, ⟨_, rfl⟩⟩
      (by decide) rfl (failed_once_of_oks rfl (by decide +kernel)),
    (failed_convergences_shown Refused.setup .powerStore "ns" "p" Respecified.proxyStart _
      Refused.driverConfig Respecified.driver Respecified.proxy _).2
      ⟨rfl, ⟨_, rfl, rfl⟩, by decide +kernel⟩ (by decide) rfl
      (failed_once_of_oks rfl (by decide +kernel))⟩

end CsiOperator
