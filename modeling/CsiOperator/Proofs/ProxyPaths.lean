import Mathlib
import CsiOperator.Proofs.Lifecycle
import CsiOperator.Proofs.Convergence
/-!
The paths a reconcile of a reverse proxy takes, as equations between runs.

A proxy's reconcile reads the resource and hands it to its engine's lifecycle: there is no
finalizer, no configuration to resolve and no defaults to apply. So once the resource is read,
its recorded state and the fingerprint of its spec choose the handler, and the lemmas of the
shared lifecycle apply as they are. The store of the engine meets `Engine.Stores` at the
resource's key.
-/

namespace CsiOperator

theorem ProxyResource.meta_toJson (p : ProxyResource) : Meta.of p.toJson = p.metadata := by
  have member : p.toJson.get? "metadata" = some p.metadata := Json.get?_fields (by simp) (by simp)
  simp only [Meta.of, member, Option.getD_some]

theorem ProxyResource.keyOf_toJson (p : ProxyResource) :
    Cluster.keyOf .reverseProxy p.toJson = Cluster.keyFor .reverseProxy (p.metadata.strOpt "namespace")
      ((p.metadata.strOpt "name").getD ((p.metadata.strOpt "generateName").getD "")) := by
  simp only [Cluster.keyOf, Meta.namespace?, Meta.nameAny, Meta.name?, ProxyResource.meta_toJson]

namespace Proxy

open Controller

theorem readProxy_stays (j : Json) : Stays Eq (readProxy j) := by
  unfold readProxy
  split
  · exact Stays.pure _
  · exact Stays.throw _

theorem readProxy_run {j : Json} {p : ProxyResource} (hread : ProxyResource.read j = .ok p)
    (s : Controller) : (readProxy j).run.run s = (.ok p, s) := by
  simp only [readProxy, hread]
  rfl

theorem getProxy_run {ns name : String} {s : Controller} {j : Json} {p : ProxyResource}
    (hon : s.cluster.online = true)
    (hfound : s.cluster.find? (Cluster.keyFor .reverseProxy (some ns) name) = some j)
    (hread : ProxyResource.read j = .ok p) :
    (getProxy ns name).run.run s = (.ok (some p), s) := by
  simp only [getProxy, exceptState_run_bind, onCluster_run, Cluster.get_run hon, hfound,
    exceptState_run_map, readProxy_run hread]
  rfl

section Engine

variable (ns : String) (p : ProxyResource)

@[simp] theorem engine_status : (engine ns).status p = p.status.getD {} := rfl

@[simp] theorem engine_validate : (engine ns).validate p = validateProxySpec p := rfl

@[simp] theorem engine_converge : (engine ns).converge p =
    converge (Cluster.keyOf .reverseProxy p.toJson) p.spec.toJson (syncProxy p) := rfl

@[simp] theorem engine_storeStatus : (engine ns).storeStatus p = storeStatus p := rfl

@[simp] theorem engine_observeConverged : (engine ns).observeConverged p = observation ns := rfl

@[simp] theorem engine_observe :
    (engine ns).observe p = observation (p.namespace?.getD "") := rfl

@[simp] theorem engine_prepare : (engine ns).prepare p = pure p := rfl

end Engine

theorem observation_answers (ns : String) (s : Controller) :
    ∃ seen, (observation ns).run.run s = (.ok seen, s) := by
  obtain ⟨report, hreport⟩ := Observe.calculateProxyState_answers ns proxyName s.cluster
  exact ⟨_, by simp only [observation, exceptState_run_bind, onCluster_run, hreport]; rfl⟩

theorem storeStatus_state (p : ProxyResource) (new : ProxyStatus) (s : Controller) :
    ((storeStatus p new).run.run s).2 =
      { s with cluster := ((Cluster.updateStatus .reverseProxy
        { p with status := some new }.toJson).run.run s.cluster).2 } := by
  unfold storeStatus
  rw [Stays.state_bind readProxy_stays, onCluster_run]

/-- Where a proxy's statuses are stored, and what a store there needs: a server that answers,
status writes of its kind that are not made to fail, and a stored object. -/
def StatusPlace (p : ProxyResource) (c : Cluster) : Prop :=
  c.online = true ∧ c.failing .updateStatus .reverseProxy = false ∧
    ∃ j, c.find? (Cluster.keyOf .reverseProxy p.toJson) = some j

theorem storeStatus_stores (p : ProxyResource) :
    Engine.Stores (storeStatus p) (StatusPlace p)
      (Cluster.statusAt · (Cluster.keyOf .reverseProxy p.toJson)) ProxyStatus.toJson where
  shows x s := by
    rintro ⟨hon, hfail, j, hfound⟩
    have samekey : Cluster.keyOf .reverseProxy { p with status := some x }.toJson =
        Cluster.keyOf .reverseProxy p.toJson := by
      simp only [ProxyResource.keyOf_toJson]
    rw [storeStatus_state, Cluster.statusAt_updateStatus hon hfail (samekey ▸ hfound),
      if_pos samekey.symm, ProxyResource.get?_toJson_status]
    rfl
  ready x s := by
    rintro ⟨hon, hfail, j, hfound⟩
    have samekey : Cluster.keyOf .reverseProxy { p with status := some x }.toJson =
        Cluster.keyOf .reverseProxy p.toJson := by
      simp only [ProxyResource.keyOf_toJson]
    rw [storeStatus_state, Cluster.updateStatus_run hon hfail (samekey ▸ hfound)]
    refine ⟨hon, hfail, ?_⟩
    simp only [Cluster.find?_objects, Cluster.find?_putObject, samekey, if_true, Option.some.injEq,
      exists_eq']

/-- A proxy resource stored under its own key, on a server that answers. -/
structure Stored (ns name : String) (c : Cluster) (p : ProxyResource) : Prop where
  online : c.online = true
  stored : ∃ j, c.find? (Cluster.keyFor .reverseProxy (some ns) name) = some j ∧
    ProxyResource.read j = .ok p
  keyed : Cluster.keyOf .reverseProxy p.toJson = Cluster.keyFor .reverseProxy (some ns) name

theorem reconcile_of_stored {ns name : String} {c : Controller} {p : ProxyResource}
    (hstored : Stored ns name c.cluster p) :
    (reconcile ns name).run.run c =
      let E := engine ns
      let old := p.status.getD {}
      let changed := Digest.fingerprint p.specText != old.proxyHash
      let new := if changed then { old with proxyHash := Digest.fingerprint p.specText } else old
      let begun := { c with attempts := c.attempts + 1 }
      match Path.decide old.state changed false with
      | .stop => (.ok .never, begun)
      | .checkStateOnly => (E.settle p new old).run.run begun
      | .resync => (E.resync p changed { new with state := .updating } old).run.run begun := by
  obtain ⟨j, hfound, hread⟩ := hstored.stored
  unfold reconcile
  simp only [exceptState_run_bind, begin_run]
  rw [getProxy_run (s := { c with attempts := c.attempts + 1 }) hstored.online hfound hread]
  simp only [engine_status]
  obtain ⟨path, hpath⟩ : ∃ path, Path.decide (p.status.getD {}).state
      (Digest.fingerprint p.specText != (p.status.getD {}).proxyHash) false = path := ⟨_, rfl⟩
  simp only [hpath]
  cases path <;> rfl

/-- A stored proxy resource whose convergence fails: it passes validation, converging its
objects fails, and its status can be written. -/
structure Stuck (c : Cluster) (p : ProxyResource) : Prop where
  valid : ((validateProxySpec p).run.run c).1 = .ok ()
  fails : ∃ e, ((syncProxy p).run.run c).1 = .error e
  writable : c.failing .updateStatus .reverseProxy = false

theorem reconcile_of_stuck {ns name : String} {c : Controller} {p : ProxyResource}
    {st : ProxyStatus} (hstored : Stored ns name c.cluster p) (hstuck : Stuck c.cluster p)
    (hstatus : p.status = some st) (hhash : st.proxyHash = Digest.fingerprint p.specText)
    (hpath : Path.decide st.state false false = .resync) :
    ∃ e s, s.clock = c.clock ∧ Cluster.KeepsInputs c.cluster s.cluster ∧
      (reconcile ns name).run.run c =
        (Engine.recordFailed (observation ns) (storeStatus p) p { st with state := .updating } st
          e).run.run s := by
  obtain ⟨e, hsync⟩ := hstuck.fails
  have hvalid : (validateProxySpec p).run.run c.cluster = (.ok (), c.cluster) :=
    Prod.ext hstuck.valid (validateProxySpec_stays p c.cluster).symm
  have unchanged : (Digest.fingerprint p.specText != st.proxyHash) = false := by
    simp [hhash]
  rw [reconcile_of_stored hstored]
  simp only [hstatus, Option.getD_some, unchanged, hpath, Bool.false_eq_true, if_false]
  let begun := { c with attempts := c.attempts + 1 }
  have hconverge : ((engine ns).converge p).run.run begun = (.ok (.error e),
      { begun with
        cluster := ((syncProxy p).run.run c.cluster).2
        converged := begun.converged ++
          [⟨Cluster.keyOf .reverseProxy p.toJson, c.clock, p.spec.toJson, false⟩] }) := by
    rw [engine_converge, converge_run, show begun.cluster = c.cluster from rfl, hsync]
    rfl
  rw [Engine.resync_run (engine ns) (s := begun) hvalid hconverge]
  refine ⟨e, _, ?_, ?_, rfl⟩
  · rfl
  · exact syncProxy_keeps p c.cluster

end Proxy

end CsiOperator
