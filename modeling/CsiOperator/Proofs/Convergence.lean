import Mathlib
import CsiOperator.Proofs.Store
import CsiOperator.Engine.Reconcile
import CsiOperator.Proxy.Reconcile
/-!
What converging an installation leaves alone, and which steps of a reconcile only read.

Converging a driver or a proxy installation writes cluster roles, accounts, workloads, classes
and the like, and never the operator's own inputs: the custom resources it reconciles and the
secrets it validates against (`ResourceKind.isInput`). Nor does it change the failures the
cluster injects or whether the server can be reached. Validation and the calculation of the
observed state only read the cluster, and the calculation always answers.
-/

namespace CsiOperator

/-- The objects the operator reads and never converges: its custom resources and the secrets
it validates against. -/
def ResourceKind.isInput : ResourceKind → Prop
  | .driver _ | .reverseProxy | .secret => True
  | _ => False

namespace Cluster

/-- Keeping the operator's inputs. -/
abbrev KeepsInputs : Cluster → Cluster → Prop := Keeps ResourceKind.isInput

end Cluster

namespace Sync

open Cluster

section Unwritten

/-! Each phase keeps every kind of object it does not write. -/

variable {keep : ResourceKind → Prop}

theorem createOrUpdate_keeps {k : ResourceKind} (hk : ¬keep k) (desired : Json) :
    Stays (Keeps keep) (createOrUpdate k desired) := by
  unfold createOrUpdate
  refine (get_stays _ _ _).of_eq.bind fun found => ?_
  cases found with
  | none => exact create_keeps hk _
  | some found => exact update_keeps hk _

theorem ensureServiceAccount_keeps (hsa : ¬keep .serviceAccount) (sa : Json) :
    Stays (Keeps keep) (ensureServiceAccount sa) := by
  unfold ensureServiceAccount
  refine (get_stays _ _ _).of_eq.bind fun found => Stays.ite ?_ (Stays.pure _)
  exact (create_keeps hsa _).bind fun _ => Stays.pure _

theorem ensureCsiDriver_keeps (hcsi : ¬keep .csiDriver) (desired : Json) :
    Stays (Keeps keep) (ensureCsiDriver desired) := by
  unfold ensureCsiDriver
  refine (get_stays _ _ _).of_eq.bind fun found => ?_
  cases found with
  | none => exact (create_keeps hcsi _).bind fun _ => Stays.pure _
  | some found =>
    refine Stays.ite ?_ (Stays.pure _)
    exact ((update_keeps hcsi _).bind fun _ => Stays.pure _).tryCatch fun _ => Stays.pure _

theorem refreshPods_keeps (hpod : ¬keep .pod) (template : Json) (pods : List Json) :
    Stays (Keeps keep) (refreshPods template pods) := by
  unfold refreshPods
  refine Stays.forM fun pod _ => Stays.ite ?_ (Stays.pure _)
  exact (delete_keeps hpod _ _).tryCatch fun _ => Stays.pure _

theorem attempt_stays {α : Type} {R : Cluster → Cluster → Prop} [IsTrans Cluster R] [Std.Refl R]
    {m : ClusterM α} (hm : Stays R m) : Stays R (Observe.attempt m) :=
  (hm.map _).tryCatch fun _ => Stays.pure _

theorem ensureStatefulSet_keeps (hset : ¬keep .statefulSet) (hpod : ¬keep .pod) (desired : Json) :
    Stays (Keeps keep) (ensureStatefulSet desired) := by
  unfold ensureStatefulSet
  refine (get_stays _ _ _).of_eq.bind fun live => ?_
  cases live with
  | none => exact (create_keeps hset _).bind fun _ => Stays.pure _
  | some live =>
    refine (update_keeps hset _).bind fun _ => (get_stays _ _ _).of_eq.bind fun found => ?_
    split
    · split
      · exact Stays.pure _
      · refine (Stays.filterMapM fun _ _ => ?_).bind fun pods => refreshPods_keeps hpod _ pods
        exact (attempt_stays (R := Eq) (get_stays _ _ _)).of_eq.bind fun _ => Stays.pure _
    · exact Stays.throw _

theorem ensureDeployment_keeps (hdep : ¬keep .deployment) (hpod : ¬keep .pod) (desired : Json) :
    Stays (Keeps keep) (ensureDeployment desired) := by
  unfold ensureDeployment
  refine (get_stays _ _ _).of_eq.bind fun live => ?_
  cases live with
  | none => exact (create_keeps hdep _).bind fun _ => Stays.pure _
  | some live =>
    refine (update_keeps hdep _).bind fun _ => (get_stays _ _ _).of_eq.bind fun found => ?_
    split
    · split
      · exact Stays.pure _
      · exact (list_stays _ _ _).of_eq.bind fun pods => refreshPods_keeps hpod _ pods
    · exact Stays.throw _

theorem ensureClassSet_keeps {k : ResourceKind} (hk : ¬keep k) (desired : List Json)
    (dummyName : String) (sameDriver : Json → Bool) :
    Stays (Keeps keep) (ensureClassSet k desired dummyName sameDriver) := by
  unfold ensureClassSet
  refine (attempt_stays (R := Eq) (list_stays _ _ _)).of_eq.bind fun _ => ?_
  refine (Stays.filterMapM fun _ _ => ?_).bind fun _ => ?_
  · refine (attempt_stays (createOrUpdate_keeps hk _)).bind fun r => ?_
    cases r <;> exact Stays.pure _
  · refine (Stays.forM fun _ _ => ?_).bind fun _ => Stays.pure _
    exact (delete_keeps hk _ _).tryCatch fun _ => Stays.pure _

theorem ensureRbac_keeps (hrole : ¬keep .clusterRole) (hsa : ¬keep .serviceAccount)
    (hbinding : ¬keep .clusterRoleBinding) (ctx : BuildContext) (owner : Json) :
    Stays (Keeps keep) (ensureRbac ctx owner) := by
  unfold ensureRbac
  refine (createOrUpdate_keeps hrole _).bind fun _ => (ensureServiceAccount_keeps hsa _).bind fun _ =>
    (createOrUpdate_keeps hbinding _).bind fun _ => Stays.ite ?_ (Stays.pure _)
  exact (ensureServiceAccount_keeps hsa _).bind fun _ => (createOrUpdate_keeps hrole _).bind fun _ =>
    (createOrUpdate_keeps hbinding _).bind fun _ => Stays.pure _

end Unwritten

theorem projectedCerts_stays (ctx : BuildContext) : Stays Eq (projectedCerts ctx) := by
  unfold projectedCerts
  refine Stays.ite ((attempt_stays (list_stays _ _ _)).bind fun r => ?_) (Stays.pure _)
  split <;> exact Stays.pure _

theorem ensureController_keeps {keep : ResourceKind → Prop} (hset : ¬keep .statefulSet)
    (hdep : ¬keep .deployment) (hpod : ¬keep .pod) (ctx : BuildContext) (volumes : List Json) :
    Stays (Keeps keep) (ensureController ctx volumes) := by
  unfold ensureController
  refine Stays.ite ?_ (ensureStatefulSet_keeps hset hpod _)
  refine (ensureDeployment_keeps hdep hpod _).bind fun _ =>
    (attempt_stays (R := Eq) (get_stays _ _ _)).of_eq.bind fun _ => ?_
  split
  · exact (delete_keeps hset _ _).tryCatch fun _ => Stays.pure _
  · exact Stays.pure _

theorem ensureClasses_keeps {keep : ResourceKind → Prop} (hsc : ¬keep .storageClass)
    (hvsc : ¬keep .volumeSnapshotClass) (ctx : BuildContext) (owner : Json) (dummyName : String) :
    Stays (Keeps keep) (ensureClasses ctx owner dummyName) := by
  unfold ensureClasses
  exact (ensureClassSet_keeps hsc _ _ _).bind fun _ => (ensureClassSet_keeps hvsc _ _ _).bind
    fun _ => Stays.ite (Stays.throw _) (Stays.pure _)

theorem syncDriver_keeps_of {keep : ResourceKind → Prop} (ctx : BuildContext)
    (written : ∀ {k : ResourceKind}, k ∈ [.clusterRole, .serviceAccount, .clusterRoleBinding,
      .csiDriver, .daemonSet, .storageClass, .volumeSnapshotClass] → ¬keep k)
    (controller : ∀ volumes, Stays (Keeps keep) (ensureController ctx volumes)) :
    Stays (Keeps keep) (syncDriver ctx) := by
  unfold syncDriver
  refine (createOrUpdate_keeps (written (by simp)) _).bind fun dummy => ?_
  dsimp only
  refine (ensureRbac_keeps (written (by simp)) (written (by simp)) (written (by simp)) _ _).bind
    fun _ => (ensureCsiDriver_keeps (written (by simp)) _).bind fun _ =>
    (projectedCerts_stays ctx).of_eq.bind fun projected => (controller _).bind
      fun _ => Stays.bind ?_ fun daemonSet => (createOrUpdate_keeps (written (by simp)) _).bind
        fun _ => ensureClasses_keeps (written (by simp)) (written (by simp)) _ _ _
  -- the DaemonSet is built before it is written, and a refused one stops the sync
  cases Build.daemonSet ctx (Build.nodeVolumes ctx projected)
  · exact Stays.throw _
  · exact Stays.pure _

theorem syncDriver_keeps (ctx : BuildContext) : Stays KeepsInputs (syncDriver ctx) := by
  have output : ∀ {k : ResourceKind}, k ∈ [.clusterRole, .serviceAccount, .clusterRoleBinding,
      .csiDriver, .daemonSet, .storageClass, .volumeSnapshotClass, .statefulSet, .deployment,
      .pod] → ¬k.isInput := by
    intro k hk
    simp only [List.mem_cons, List.not_mem_nil, or_false] at hk
    rcases hk with rfl | rfl | rfl | rfl | rfl | rfl | rfl | rfl | rfl | rfl <;>
      simp [ResourceKind.isInput]
  refine syncDriver_keeps_of ctx (fun hk => output (List.mem_append_left _ hk)) fun _ => ?_
  exact ensureController_keeps (output (by simp)) (output (by simp)) (output (by simp)) _ _

end Sync

namespace Observe

open Cluster

theorem replicaCounts_stays (ns name : String) (k : ResourceKind) :
    Stays Eq (replicaCounts ns name k) := by
  unfold replicaCounts
  refine (get_stays _ _ _).bind fun found => ?_
  split
  · exact Stays.pure _
  · exact Stays.throw _

theorem workloadStatus_stays (ns name selectorKey : String) (desired ready : Int) :
    Stays Eq (workloadStatus ns name selectorKey desired ready) := by
  unfold workloadStatus
  exact Stays.ite (Stays.pure _) ((list_stays _ _ _).bind fun _ => Stays.pure _)

theorem controllerStatus_stays (ns name : String) (controllerHA : Bool) :
    Stays Eq (controllerStatus ns name controllerHA) :=
  (replicaCounts_stays _ _ _).bind fun _ => workloadStatus_stays _ _ _ _ _

theorem daemonSetStatus_stays (ns name : String) : Stays Eq (daemonSetStatus ns name) := by
  unfold daemonSetStatus
  refine (get_stays _ _ _).bind fun found => ?_
  split
  · exact workloadStatus_stays _ _ _ _ _
  · exact Stays.throw _

theorem calculateState_answers (r : DriverResource) (controllerHA : Bool) :
    Answers (calculateState r controllerHA) :=
  (Answers.attempt (controllerStatus_stays _ _ _)).bind fun _ =>
    (Answers.attempt (daemonSetStatus_stays _ _)).bind fun _ => Answers.pure _

theorem calculateProxyState_answers (ns name : String) : Answers (calculateProxyState ns name) := by
  unfold calculateProxyState
  refine (Answers.attempt ((replicaCounts_stays _ _ _).bind fun _ =>
    workloadStatus_stays _ _ _ _ _)).bind fun r => ?_
  cases r <;> exact Answers.pure _

end Observe

namespace Validation

open Cluster

theorem checkCredentialsSecret_stays (r : DriverResource) (c : ResolvedConfig) (role : PluginRole) :
    Stays Eq (checkCredentialsSecret r c role) := by
  unfold checkCredentialsSecret
  refine Stays.ite (Stays.pure _) ?_
  refine Stays.ite ((Stays.throw _).bind fun _ => ?_) ?_
  all_goals
    refine (((get_stays _ _ _).map _).tryCatch fun _ => Stays.pure _).bind fun found => ?_
    split
    · exact Stays.pure _
    · exact Stays.throw _
    · refine (Stays.forIn fun _ _ _ => ?_).bind fun _ => ?_
      · exact Stays.ite ((Stays.throw _).bind fun _ => Stays.pure _) (Stays.pure _)
      · exact Stays.ite (Stays.ite (Stays.throw _) (Stays.pure _)) (Stays.pure _)

theorem checkCertSecret_stays (r : DriverResource) (c : ResolvedConfig) (role : PluginRole) :
    Stays Eq (checkCertSecret r c role) := by
  unfold checkCertSecret
  dsimp only
  split
  · exact Stays.pure _
  · refine (((get_stays _ _ _).map _).tryCatch fun _ => Stays.pure _).bind fun found => ?_
    split
    · exact Stays.throw _
    · exact Stays.pure _

theorem validateSpec_stays (r : DriverResource) (c : ResolvedConfig) (strict : Bool) :
    Stays Eq (validateSpec r c strict) := by
  unfold validateSpec
  refine Stays.ite ((Stays.throw _).bind fun _ => ?_) ?_
  all_goals
    refine (Stays.forIn fun role _ _ => ?_).bind fun _ => Stays.pure _
    refine (checkCredentialsSecret_stays _ _ _).bind fun _ => ?_
    lift_lets
    intro envs certificates
    have hcertificates : ∀ u, Stays Eq (certificates u) := fun _ =>
      Stays.ite ((checkCertSecret_stays _ _ _).bind fun _ => Stays.pure _) (Stays.pure _)
    split
    · exact hcertificates ()
    · exact (Stays.throw _).bind hcertificates

theorem validateDriverSpec_stays (r : DriverResource) : Stays Eq (validateDriverSpec r) := by
  unfold validateDriverSpec
  lift_lets
  intro lift
  have lifted : ∀ o, Stays Eq (lift o) := by
    intro o
    dsimp only [lift]
    split
    · exact Stays.pure _
    · exact Stays.throw _
  split
  · exact lifted (Hooks.validatePowermax r.spec)
  · refine Stays.bind ?_ fun _ => lifted (Hooks.validateUnityStorageClasses r.spec r.name)
    unfold validateUnityCredentials
    refine ((get_stays _ _ _).tryCatch fun _ => Stays.throw _).bind fun found => ?_
    split
    · exact Stays.throw _
    · lift_lets
      intro raw
      split
      · exact Stays.pure _
      · exact Stays.throw _
  · exact lifted (Hooks.validateHostPid r.spec)
  · exact Stays.pure _

end Validation

namespace Reconcile

theorem validate_stays (setup : ReconcilerSetup) (r : DriverResource) (config : ResolvedConfig) :
    Stays Eq (validate setup r config) :=
  (Validation.validateSpec_stays _ _ _).bind fun _ => Validation.validateDriverSpec_stays _

end Reconcile

namespace Proxy

open Cluster Sync

theorem checkSecretExists_stays (ns name : String) : Stays Eq (checkSecretExists ns name) := by
  unfold checkSecretExists
  refine (((get_stays _ _ _).map _).tryCatch fun _ => Stays.pure _).bind fun found => ?_
  split
  · exact Stays.throw _
  · exact Stays.pure _

theorem checkUrl_stays (url context : String) : Stays Eq (checkUrl url context) := by
  unfold checkUrl
  split
  · exact Stays.pure _
  · exact Stays.throw _

theorem checkEndpointCert_stays (ns : String) (s : ManagementServer) (missing : String) :
    Stays Eq (checkEndpointCert ns s missing) := by
  unfold checkEndpointCert
  refine Stays.ite (Stays.pure _) ?_
  exact Stays.ite ((Stays.throw _).bind fun _ => checkSecretExists_stays _ _)
    (checkSecretExists_stays _ _)

theorem validateProxySpec_stays (p : ProxyResource) : Stays Eq (validateProxySpec p) := by
  have linked : ∀ ns c, Stays Eq (validateLinked ns c) := by
    intro ns c
    unfold validateLinked
    split
    · refine (checkUrl_stays _ _).bind fun _ => (checkEndpointCert_stays _ _ _).bind fun _ => ?_
      exact Stays.ite ((checkUrl_stays _ _).bind fun _ => checkEndpointCert_stays _ _ _)
        (Stays.pure _)
    · exact Stays.throw _
  have standAlone : ∀ ns c, Stays Eq (validateStandAlone ns c) := by
    intro ns c
    unfold validateStandAlone
    split
    · -- the checks are chained through join points; each is shown to only read, innermost first
      lift_lets
      intro loops afterServers
      have hloops : ∀ u, Stays Eq (loops u) := by
        intro u
        refine (Stays.forIn fun _ _ _ => ?_).bind fun _ =>
          (Stays.forIn fun _ _ _ => ?_).bind fun _ => Stays.pure _
        · refine (checkUrl_stays _ _).bind fun _ => (checkEndpointCert_stays _ _ _).bind
            fun _ => Stays.ite ?_ (Stays.pure _)
          exact (checkSecretExists_stays _ _).bind fun _ => Stays.pure _
        · dsimp -zeta only
          lift_lets
          intro credentials credentialsGiven urls primaryGiven
          have h₁ : ∀ u, Stays Eq (credentials u) := fun _ =>
            (Stays.forIn fun _ _ _ => (checkSecretExists_stays _ _).bind fun _ =>
              Stays.pure _).bind fun _ => Stays.pure _
          have h₂ : ∀ u, Stays Eq (credentialsGiven u) := fun _ =>
            Stays.ite ((Stays.throw _).bind h₁) (h₁ ())
          have h₃ : ∀ u, Stays Eq (urls u) := fun _ =>
            (checkUrl_stays _ _).bind fun _ => Stays.ite ((checkUrl_stays _ _).bind h₂) (h₂ ())
          have h₄ : ∀ u, Stays Eq (primaryGiven u) := fun _ =>
            Stays.ite ((Stays.throw _).bind h₃) (h₃ ())
          exact Stays.ite ((Stays.throw _).bind h₄) (h₄ ())
      have hafter : ∀ u, Stays Eq (afterServers u) := fun _ =>
        Stays.ite ((Stays.throw _).bind hloops) (hloops ())
      exact Stays.ite ((Stays.throw _).bind hafter) (hafter ())
    · exact Stays.throw _
  unfold validateProxySpec
  refine (checkSecretExists_stays _ _).bind fun _ => ?_
  exact Stays.ite (linked _ _) (Stays.ite (standAlone _ _) (Stays.throw _))

theorem syncProxy_keeps (p : ProxyResource) : Stays KeepsInputs (syncProxy p) := by
  unfold syncProxy
  have input : ∀ {k : ResourceKind}, k ∈ [.configMap, .service, .role, .roleBinding,
      .deployment] → ¬k.isInput := by
    intro k hk
    simp only [List.mem_cons, List.not_mem_nil, or_false] at hk
    rcases hk with rfl | rfl | rfl | rfl | rfl <;> simp [ResourceKind.isInput]
  refine Stays.bind ?_ fun _ => ?_
  · cases configMap p with
    | ok c => exact Stays.pure _
    | error e => exact Stays.throw (α := Json) e
  · exact (createOrUpdate_keeps (input (by simp)) _).bind fun _ =>
      (createOrUpdate_keeps (input (by simp)) _).bind fun _ =>
        (ensureServiceAccount_keeps (by simp [ResourceKind.isInput]) _).bind fun _ =>
          (createOrUpdate_keeps (input (by simp)) _).bind fun _ =>
            (createOrUpdate_keeps (input (by simp)) _).bind fun _ =>
              (createOrUpdate_keeps (input (by simp)) _).bind fun _ => Stays.pure _

end Proxy

end CsiOperator
