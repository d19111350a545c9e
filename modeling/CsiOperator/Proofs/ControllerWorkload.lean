import CsiOperator.Proofs.References
/-!
The controller's workload across a change of mode.

The controller runs as a Deployment when the configuration asks for high availability and as a
StatefulSet otherwise, both named after the driver. A convergence in the highly available mode
deletes a StatefulSet left by the other mode, but a convergence in the other mode writes only the
StatefulSet and its pods: a Deployment left from an earlier highly available installation stays
as it was stored. So after a convergence that succeeds the StatefulSet is there exactly when the
mode asks for it, while the Deployment is there when the mode asks for it or when it was there
before (`syncDriver_controller_workload`).
-/

namespace CsiOperator

namespace Sync

open Cluster

section Frame

variable {ctx : BuildContext}

theorem ensureController_keeps_deployment (hha : ctx.config.controllerHA = false)
    (volumes : List Json) :
    Stays (Keeps (· = ResourceKind.deployment)) (ensureController ctx volumes) := by
  unfold ensureController
  simp only [hha, Bool.false_eq_true, if_false]
  exact ensureStatefulSet_keeps (by simp) (by simp) _

theorem syncDriver_keeps_deployment (hha : ctx.config.controllerHA = false) :
    Stays (Keeps (· = ResourceKind.deployment)) (syncDriver ctx) := by
  refine syncDriver_keeps_of ctx (fun hk => ?_) (ensureController_keeps_deployment hha)
  simp only [List.mem_cons, List.not_mem_nil, or_false] at hk
  rcases hk with rfl | rfl | rfl | rfl | rfl | rfl | rfl <;> simp

end Frame

section Settled

variable {ctx : BuildContext} {volumes : List Json} {c : Cluster}

theorem ControllerSettled.statefulSet_isSome (hs : ControllerSettled ctx volumes c) :
    (c.find? (keyFor .statefulSet (some ctx.ns) ctx.family.controllerName)).isSome ↔
      ctx.config.controllerHA = false := by
  cases hha : ctx.config.controllerHA with
  | true => simp [hs.noStatefulSet hha]
  | false =>
    obtain ⟨w, hw, -⟩ := hs.account
    simp only [hha, Bool.false_eq_true, if_false] at hw
    simp [hw]

theorem ControllerSettled.deployment_isSome (hs : ControllerSettled ctx volumes c)
    (hha : ctx.config.controllerHA = true) :
    (c.find? (keyFor .deployment (some ctx.ns) ctx.family.controllerName)).isSome := by
  obtain ⟨w, hw, -⟩ := hs.account
  simp only [hha, if_true] at hw
  simp [hw]

end Settled

/-- After a convergence that succeeds from a store that answers, a StatefulSet named after the
controller is stored exactly outside the highly available mode, and a Deployment of that name
exactly in that mode or when one was stored before: outside the mode the convergence leaves the
Deployment as it found it. -/
theorem syncDriver_controller_workload {ctx : BuildContext} {c c' : Cluster} (hc : Healthy c)
    (h : (syncDriver ctx).run.run c = (.ok (), c')) :
    ((c'.find? (keyFor .statefulSet (some ctx.ns) ctx.family.controllerName)).isSome ↔
        ctx.config.controllerHA = false) ∧
      ((c'.find? (keyFor .deployment (some ctx.ns) ctx.family.controllerName)).isSome ↔
        ctx.config.controllerHA = true ∨
          (c.find? (keyFor .deployment (some ctx.ns) ctx.family.controllerName)).isSome) ∧
      (ctx.config.controllerHA = false →
        c'.find? (keyFor .deployment (some ctx.ns) ctx.family.controllerName) =
          c.find? (keyFor .deployment (some ctx.ns) ctx.family.controllerName)) := by
  obtain ⟨owner, projected, hs⟩ := syncDriver_settles hc h
  -- outside the highly available mode no phase writes a Deployment
  have hframe : ctx.config.controllerHA = false →
      c'.find? (keyFor .deployment (some ctx.ns) ctx.family.controllerName) =
        c.find? (keyFor .deployment (some ctx.ns) ctx.family.controllerName) := fun hha => by
    have hkeeps := syncDriver_keeps_deployment hha c
    rw [h] at hkeeps
    exact hkeeps.objects _ rfl
  refine ⟨hs.controller.statefulSet_isSome, ?_, hframe⟩
  cases hha : ctx.config.controllerHA with
  | true => simp [hs.controller.deployment_isSome hha]
  | false => simp [hframe hha]

/-- A store holding a Deployment named after the PowerMax controller in the namespace
`storage`, as an earlier highly available installation leaves it. -/
def leftoverDeployment : Cluster :=
  Cluster.seeded [(.deployment, .obj [("apiVersion", .str "apps/v1"), ("kind", .str "Deployment"),
    ("metadata", .obj [("name", .str "powermax-controller"), ("namespace", .str "storage")])])] []

theorem leftoverDeployment_healthy : Healthy leftoverDeployment :=
  ⟨⟨by decide +kernel, by decide +kernel⟩, rfl, rfl⟩

theorem leftoverDeployment_controller_workload :
    let ctx := BuildContext.ofResource storagePowerMax storagePowerMaxConfig false
    let c' := ((syncDriver ctx).run.run leftoverDeployment).2
    Healthy leftoverDeployment ∧ (syncDriver ctx).run.run leftoverDeployment = (.ok (), c') ∧
      ((c'.find? (keyFor .statefulSet (some ctx.ns) ctx.family.controllerName)).isSome ↔
          ctx.config.controllerHA = false) ∧
        ((c'.find? (keyFor .deployment (some ctx.ns) ctx.family.controllerName)).isSome ↔
          ctx.config.controllerHA = true ∨
            (leftoverDeployment.find? (keyFor .deployment (some ctx.ns)
              ctx.family.controllerName)).isSome) ∧
        (ctx.config.controllerHA = false →
          c'.find? (keyFor .deployment (some ctx.ns) ctx.family.controllerName) =
            leftoverDeployment.find? (keyFor .deployment (some ctx.ns) ctx.family.controllerName)) := by
  intro ctx c'
  have hrun : (syncDriver ctx).run.run leftoverDeployment = (.ok (), c') := by
    have hok : ((syncDriver ctx).run.run leftoverDeployment).1 = .ok () := by decide +kernel
    exact Prod.ext hok rfl
  exact ⟨leftoverDeployment_healthy, hrun,
    syncDriver_controller_workload leftoverDeployment_healthy hrun⟩

/-- Outside the highly available mode, a convergence from a store that holds a Deployment named
after the controller succeeds and leaves both that Deployment and a StatefulSet of the same name. -/
theorem leftoverDeployment_kept_beside_statefulSet :
    let ctx := BuildContext.ofResource storagePowerMax storagePowerMaxConfig false
    let c' := ((syncDriver ctx).run.run leftoverDeployment).2
    ctx.config.controllerHA = false ∧ ((syncDriver ctx).run.run leftoverDeployment).1 = .ok () ∧
      (c'.find? (keyFor .deployment (some "storage") "powermax-controller")).isSome ∧
      (c'.find? (keyFor .statefulSet (some "storage") "powermax-controller")).isSome := by
  decide +kernel

end Sync

end CsiOperator
