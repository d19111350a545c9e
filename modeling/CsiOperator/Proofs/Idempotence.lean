import Mathlib
import CsiOperator.Proofs.Resync
/-!
Converging a driver installation twice.

From a store the in-memory server keeps, with no failure injected, a convergence that succeeds
leaves its installation settled (`syncDriver_settles`): each phase puts its objects in place and
keeps the objects of every kind the later phases do not write. Converged again, the
installation then converges without a creation: only replacements of objects other than
service accounts and the CSIDriver, and deletions of drifted pods, are logged, and every object
but the pods is left as it was but for its resource version (`syncDriver_idempotent`). An
installation with an unknown DNS policy never converges (`syncDriver_refuses_dnsPolicy`).
-/

namespace CsiOperator.Sync

open Cluster

/-! ## What a step changes -/

/-- `c'` is `c` but for the object under `key`. -/
def Changes (key : Key) (c c' : Cluster) : Prop :=
  ∀ key', key' ≠ key → c'.find? key' = c.find? key'

section Frames

variable {k : ResourceKind} {d v : Json} {key : Key} {c c' : Cluster}

theorem changes_of_put (h : c'.objects = putObject c.objects key v) : Changes key c c' :=
  fun key' hne => by rw [find?_of_put h, if_neg hne]

theorem Changes.untouched (h : Changes key c c') : Untouched [key.kind] c c' :=
  fun key' hk => h key' fun heq => hk (by simp [heq])

theorem Converged.changes (h : Converged k d c) (hch : Changes key c c') (hne : keyOf k d ≠ key) :
    Converged k d c' :=
  h.of_find (hch _ hne)

theorem isSome_of_creates {key' : Key} (h : (c.find? key').isSome) (hch : Changes key c c')
    (hkey : (c'.find? key).isSome) : (c'.find? key').isSome := by
  by_cases heq : key' = key
  · rw [heq]
    exact hkey
  · rw [hch key' heq]
    exact h

theorem converged_of_put (h : c'.objects = putObject c.objects (keyOf k d) v) (hv : Carries v d) :
    Converged k d c' :=
  ⟨v, by rw [find?_of_put h, if_pos rfl], hv⟩

theorem converged_of_written (hw : Written (keyOf k d) v c c') (hv : Carries v d) (hk : k ≠ .pod) :
    Converged k d c' :=
  ⟨v, by rw [hw.find _ (by simpa using hk), if_pos rfl], hv⟩

theorem untouched_of_written (hw : Written key v c c') : Untouched [key.kind, .pod] c c' :=
  fun key' hk => by
    simp only [List.mem_cons, List.not_mem_nil, or_false, not_or] at hk
    rw [hw.find key' hk.2, if_neg fun heq => hk.1 (by rw [heq])]

theorem keyOf_ne_of_kind {k' : ResourceKind} (h : k ≠ k') (d d' : Json) :
    keyOf k d ≠ keyOf k' d' :=
  fun heq => h (by simpa using congrArg Key.kind heq)

end Frames

theorem rbacKeys_apart (ctx : BuildContext) (owner : Json) :
    keyOf .clusterRole (Build.controllerClusterRole ctx owner) ≠
        keyOf .clusterRole (Build.dummyClusterRole ctx) ∧
      keyOf .clusterRole (Build.nodeClusterRole ctx owner) ≠
        keyOf .clusterRole (Build.dummyClusterRole ctx) ∧
      keyOf .clusterRole (Build.nodeClusterRole ctx owner) ≠
        keyOf .clusterRole (Build.controllerClusterRole ctx owner) ∧
      keyOf .clusterRoleBinding (Build.clusterRoleBinding ctx "node" owner) ≠
        keyOf .clusterRoleBinding (Build.clusterRoleBinding ctx "controller" owner) := by
  obtain ⟨hctrl, hnode, hapart⟩ := rbacNames_apart ctx
  simp only [Build.controllerClusterRole, Build.nodeClusterRole, keyOf_clusterRole,
    keyOf_dummyClusterRole, keyOf_clusterRoleBinding, ne_eq,
    keyFor_unscoped_inj (k := .clusterRole) rfl, keyFor_unscoped_inj (k := .clusterRoleBinding) rfl]
  exact ⟨hctrl, hnode, hapart, hapart⟩

/-! ## Each phase, the first time -/

section First

variable {ctx : BuildContext} {c : Cluster}

theorem ensureRbac_settles (ctx : BuildContext) (hc : Healthy c) (owner : Json) :
    ∃ c', (ensureRbac ctx owner).run.run c = (.ok (), c') ∧ Healthy c' ∧
      RbacSettled ctx owner c' ∧
      c'.find? (keyOf .clusterRole (Build.dummyClusterRole ctx)) =
        c.find? (keyOf .clusterRole (Build.dummyClusterRole ctx)) ∧
      Untouched [.clusterRole, .serviceAccount, .clusterRoleBinding] c c' := by
  obtain ⟨hctrlDummy, hnodeDummy, hnodeCtrl, hbindings⟩ := rbacKeys_apart ctx owner
  unfold ensureRbac
  -- the controller's role, account and binding
  obtain ⟨v₁, c₁, hrun₁, hc₁, hobjs₁, hv₁, -⟩ :=
    createOrUpdate_written (d := Build.controllerClusterRole ctx owner) hc (sendable_clusterRole ..)
  obtain ⟨c₂, hrun₂, hc₂, hsa₂, hch₂⟩ :=
    ensureServiceAccount_creates hc₁ (Build.serviceAccount ctx ctx.family.controllerName)
  obtain ⟨v₃, c₃, hrun₃, hc₃, hobjs₃, hv₃, -⟩ := createOrUpdate_written
    (d := Build.clusterRoleBinding ctx "controller" owner) hc₂ (sendable_clusterRoleBinding ..)
  rw [exceptState_run_bind, hrun₁]
  dsimp only
  rw [exceptState_run_bind, hrun₂]
  dsimp only
  rw [exceptState_run_bind, hrun₃]
  dsimp only
  have hrole₃ : Converged .clusterRole (Build.controllerClusterRole ctx owner) c₃ :=
    ((converged_of_put hobjs₁ hv₁).changes hch₂ (keyOf_ne_of_kind (by decide) _ _)).changes
      (changes_of_put hobjs₃) (keyOf_ne_of_kind (by decide) _ _)
  have hsa₃ := isSome_of_creates hsa₂ (changes_of_put hobjs₃) (by rw [find?_of_put hobjs₃, if_pos rfl]; rfl)
  have hdummy₃ : c₃.find? (keyOf .clusterRole (Build.dummyClusterRole ctx)) =
      c.find? (keyOf .clusterRole (Build.dummyClusterRole ctx)) := by
    rw [changes_of_put hobjs₃ _ (keyOf_ne_of_kind (by decide) _ _),
      hch₂ _ (keyOf_ne_of_kind (by decide) _ _), changes_of_put hobjs₁ _ hctrlDummy.symm]
  have hu₃ : Untouched [.clusterRole, .serviceAccount, .clusterRoleBinding] c c₃ :=
    (((changes_of_put hobjs₁).untouched.trans (Changes.untouched hch₂)).trans
      (changes_of_put hobjs₃).untouched).mono (by simp)
  split
  · -- the node plugin's account, role and binding
    next hnode =>
    obtain ⟨c₄, hrun₄, hc₄, hsa₄, hch₄⟩ :=
      ensureServiceAccount_creates hc₃ (Build.serviceAccount ctx ctx.family.daemonSetName)
    obtain ⟨v₅, c₅, hrun₅, hc₅, hobjs₅, hv₅, -⟩ :=
      createOrUpdate_written (d := Build.nodeClusterRole ctx owner) hc₄ (sendable_clusterRole ..)
    obtain ⟨v₆, c₆, hrun₆, hc₆, hobjs₆, hv₆, -⟩ := createOrUpdate_written
      (d := Build.clusterRoleBinding ctx "node" owner) hc₅ (sendable_clusterRoleBinding ..)
    rw [exceptState_run_bind, hrun₄]
    dsimp only
    rw [exceptState_run_bind, hrun₅]
    dsimp only
    rw [exceptState_run_bind, hrun₆]
    refine ⟨c₆, rfl, hc₆, ⟨?_, ?_, ?_, fun _ => ?_, fun _ => ?_, fun _ => ?_⟩, ?_, ?_⟩
    · exact ((hrole₃.changes hch₄ (keyOf_ne_of_kind (by decide) _ _)).changes
        (changes_of_put hobjs₅) hnodeCtrl.symm).changes (changes_of_put hobjs₆)
        (keyOf_ne_of_kind (by decide) _ _)
    · have hsa₄' := isSome_of_creates hsa₃ hch₄ hsa₄
      rw [changes_of_put hobjs₆ _ (keyOf_ne_of_kind (by decide) _ _),
        changes_of_put hobjs₅ _ (keyOf_ne_of_kind (by decide) _ _)]
      exact hsa₄'
    · exact (((converged_of_put hobjs₃ hv₃).changes hch₄ (keyOf_ne_of_kind (by decide) _ _)).changes
        (changes_of_put hobjs₅) (keyOf_ne_of_kind (by decide) _ _)).changes
        (changes_of_put hobjs₆) hbindings.symm
    · rw [changes_of_put hobjs₆ _ (keyOf_ne_of_kind (by decide) _ _),
        changes_of_put hobjs₅ _ (keyOf_ne_of_kind (by decide) _ _)]
      exact hsa₄
    · exact (converged_of_put hobjs₅ hv₅).changes (changes_of_put hobjs₆)
        (keyOf_ne_of_kind (by decide) _ _)
    · exact converged_of_put hobjs₆ hv₆
    · rw [changes_of_put hobjs₆ _ (keyOf_ne_of_kind (by decide) _ _),
        changes_of_put hobjs₅ _ hnodeDummy.symm, hch₄ _ (keyOf_ne_of_kind (by decide) _ _), hdummy₃]
    · exact ((hu₃.trans (Changes.untouched hch₄)).trans ((changes_of_put hobjs₅).untouched.trans
        (changes_of_put hobjs₆).untouched)).mono (by simp)
  · next hnode =>
    exact ⟨c₃, rfl, hc₃, ⟨hrole₃, hsa₃, converged_of_put hobjs₃ hv₃, fun h => absurd h hnode,
      fun h => absurd h hnode, fun h => absurd h hnode⟩, hdummy₃, hu₃⟩

theorem ensureController_settles (ctx : BuildContext) (hc : Healthy c) (volumes : List Json) :
    ∃ c', (ensureController ctx volumes).run.run c = (.ok (), c') ∧ Healthy c' ∧
      ControllerSettled ctx volumes c' ∧ Untouched [.deployment, .statefulSet, .pod] c c' := by
  unfold ensureController
  cases hha : ctx.config.controllerHA
  · -- a StatefulSet
    rw [if_neg Bool.false_ne_true]
    obtain ⟨v, c', hrun, hc', hv, hw⟩ := ensureStatefulSet_written hc (sendable_statefulSet ctx volumes)
    exact ⟨c', hrun, hc', ⟨fun h => by simp [hha] at h, fun h => by simp [hha] at h,
      fun _ => converged_of_written hw hv (by decide)⟩, (untouched_of_written hw).mono (by simp)⟩
  · -- a Deployment, and the StatefulSet of a former configuration deleted
    rw [if_pos rfl]
    obtain ⟨v, c₁, hrun₁, hc₁, hv, hw⟩ := ensureDeployment_written hc (sendable_deployment ctx volumes)
    have hdeployment := converged_of_written hw hv (by decide)
    have hu₁ : Untouched [.deployment, .statefulSet, .pod] c c₁ :=
      (untouched_of_written hw).mono (by simp)
    rw [exceptState_run_bind, hrun₁]
    dsimp only
    rw [exceptState_run_bind, Observe.attempt_run, get_run hc₁.online]
    dsimp only
    cases hsts : c₁.find? (keyFor .statefulSet (some ctx.ns) ctx.family.controllerName) with
    | none =>
      exact ⟨c₁, rfl, hc₁, ⟨fun _ => hdeployment, fun _ => hsts,
        fun h => by simp [hha] at h⟩, hu₁⟩
    | some sts =>
      obtain ⟨c₂, hrun₂, hc₂, hfind₂⟩ :=
        delete_empties (k := .statefulSet) hc₁ (some ctx.ns) ctx.family.controllerName
      have hch₂ : Changes (keyFor .statefulSet (some ctx.ns) ctx.family.controllerName) c₁ c₂ :=
        fun key hne => by rw [hfind₂, if_neg hne]
      refine ⟨c₂, hrun₂, hc₂, ⟨fun _ => hdeployment.changes hch₂ fun heq => absurd (congrArg Key.kind heq) (by simp),
        fun _ => by rw [hfind₂, if_pos rfl], fun h => by simp [hha] at h⟩, ?_⟩
      exact (hu₁.trans hch₂.untouched).mono (by simp)

theorem ensureClasses_settles (ctx : BuildContext) (hc : Healthy c) (owner : Json)
    (dummyName : String) :
    ∃ c', (ensureClasses ctx owner dummyName).run.run c = (.ok (), c') ∧ Healthy c' ∧
      ClassesSettled .storageClass (·.strD "provisioner" == ctx.driverName) dummyName
        (Build.storageClasses ctx owner) c' ∧
      ClassesSettled .volumeSnapshotClass (·.strD "driver" == ctx.driverName) dummyName
        (Build.snapshotClasses ctx owner) c' ∧
      Untouched [.storageClass, .volumeSnapshotClass] c c' := by
  unfold ensureClasses
  obtain ⟨c₁, hrun₁, hc₁, hsc₁, hframe₁⟩ := ensureClassSet_settles (k := .storageClass) rfl hc
    (sendable_storageClasses ctx owner) dummyName (·.strD "provisioner" == ctx.driverName)
  obtain ⟨c₂, hrun₂, hc₂, hvsc₂, hframe₂⟩ := ensureClassSet_settles (k := .volumeSnapshotClass) rfl
    hc₁ (sendable_snapshotClasses ctx owner) dummyName (·.strD "driver" == ctx.driverName)
  rw [exceptState_run_bind, hrun₁]
  dsimp only
  rw [exceptState_run_bind, hrun₂]
  refine ⟨c₂, rfl, hc₂, hsc₁.of_find fun key hkey => hframe₂ key (by rw [hkey]; decide), hvsc₂,
    fun key hk => ?_⟩
  simp only [List.mem_cons, List.not_mem_nil, or_false, not_or] at hk
  rw [hframe₂ key hk.2, hframe₁ key hk.1]

theorem projectedCerts_answers (ctx : BuildContext) : Answers (projectedCerts ctx) := by
  unfold projectedCerts
  split
  · refine (attempt_answers (list_stays _ _ _)).bind fun r => ?_
    split <;> exact Answers.pure _
  · exact Answers.pure _

/-! ## Twice -/

theorem syncDriver_settles (hc : Healthy c) {c' : Cluster}
    (h : (syncDriver ctx).run.run c = (.ok (), c')) :
    ∃ owner projected, Settled ctx owner projected c' := by
  unfold syncDriver at h
  -- the placeholder role, which every cluster-scoped object takes as its owner
  obtain ⟨dummy, c₁, hrun₁, hc₁, hobjs₁, hcarries, -⟩ :=
    createOrUpdate_written hc (sendable_dummyClusterRole ctx)
  rw [exceptState_run_bind, hrun₁] at h
  dsimp only at h
  rw [hcarries.nameAny] at h
  -- the role-based access, the CSIDriver and the certificates
  obtain ⟨c₂, hrun₂, hc₂, hrbac, hdummy₂, -⟩ :=
    ensureRbac_settles ctx hc₁ (Build.dummyOwner dummy)
  rw [exceptState_run_bind, hrun₂] at h
  dsimp only at h
  obtain ⟨c₃, hrun₃, hc₃, hcsi, hch₃⟩ := ensureCsiDriver_settles hc₂ (ownedOutsideRbac_csiDriver ctx dummy)
  rw [exceptState_run_bind, hrun₃] at h
  dsimp only at h
  obtain ⟨projected, hrun₄⟩ := projectedCerts_answers ctx c₃
  rw [exceptState_run_bind, hrun₄] at h
  dsimp only at h
  -- the controller, the node plugin and the classes
  obtain ⟨c₅, hrun₅, hc₅, hctl, hu₅⟩ :=
    ensureController_settles ctx hc₃ (Build.controllerVolumes ctx projected)
  rw [exceptState_run_bind, hrun₅] at h
  dsimp only at h
  cases hds : Build.daemonSet ctx (Build.nodeVolumes ctx projected) with
  | error e =>
    rw [exceptState_run_bind, hds] at h
    cases h
  | ok ds =>
    rw [exceptState_run_bind, hds,
      show (MonadExcept.ofExcept (.ok ds) : ClusterM Json) = pure ds from rfl, exceptState_run_pure] at h
    dsimp only at h
    obtain ⟨v₆, c₆, hrun₆, hc₆, hobjs₆, hv₆, -⟩ := createOrUpdate_written hc₅ (sendable_daemonSet hds)
    rw [exceptState_run_bind, hrun₆] at h
    dsimp only at h
    obtain ⟨c₇, hrun₇, hc₇, hsc, hvsc, hu₇⟩ := ensureClasses_settles ctx hc₆
      (Build.dummyOwner dummy) (Meta.nameAny (Build.dummyClusterRole ctx))
    rw [hrun₇] at h
    cases h
    -- each phase's objects, kept by the phases after it, which write other kinds
    have hu₆₇ : Untouched ([.daemonSet] ++ [.storageClass, .volumeSnapshotClass]) c₅ c' :=
      ((changes_of_put hobjs₆).untouched.mono (by simp)).trans hu₇
    have hu₃₇ := hu₅.trans hu₆₇
    have hu₂₇ := ((Changes.untouched hch₃).mono (by simp : ∀ k ∈ _, k ∈ [ResourceKind.csiDriver])).trans hu₃₇
    obtain ⟨x, hx, hrbac'⟩ := hcsi
    refine ⟨Build.dummyOwner dummy, projected, hc₇, ⟨dummy, ?_, hcarries, rfl⟩,
      hrbac.untouched hu₂₇ (by decide), ⟨x, by rw [hu₃₇ _ (by simp)]; exact hx, hrbac'⟩,
      projectedCerts_congr ctx hc₃ hc₇ (hu₃₇.keepsInputs hc₃ hc₇ (by simp [ResourceKind.isInput])) hrun₄,
      hctl.untouched hu₆₇ (by decide),
      ⟨ds, hds, (converged_of_put hobjs₆ hv₆).untouched hu₇ (by decide)⟩, hsc, hvsc⟩
    rw [hu₂₇ _ (by simp), hdummy₂, find?_of_put hobjs₁, if_pos rfl]

end First

theorem syncDriver_unreachable (ctx : BuildContext) {c : Cluster} (hon : c.online = false) :
    ∃ e, (syncDriver ctx).run.run c = (.error e, c) := by
  unfold syncDriver createOrUpdate
  rw [exceptState_run_bind, exceptState_run_bind]
  simp only [Cluster.get, exceptState_run_bind, reach_error hon]
  exact ⟨_, rfl⟩

theorem fails_of_bind {α : Type} (m : ClusterM α) {f : α → ClusterM Unit}
    (hf : ∀ a c, ∃ e c', (f a).run.run c = (.error e, c')) (c : Cluster) :
    ∃ e c', (m >>= f).run.run c = (.error e, c') := by
  rw [exceptState_run_bind]
  rcases m.run.run c with ⟨_ | a, c'⟩
  · exact ⟨_, _, rfl⟩
  · exact hf a c'

/-- An installation whose DNS policy is set to none of the policies a node may use never
converges: from every store its convergence fails, at the latest when the daemonset is built,
after the controller's objects are written. -/
theorem syncDriver_refuses_dnsPolicy {ctx : BuildContext} (hset : ctx.driver.dnsPolicy ≠ "")
    (hbad : ctx.driver.dnsPolicy ∉ Build.validDnsPolicies) (c : Cluster) :
    ∃ e c', (syncDriver ctx).run.run c = (.error e, c') := by
  have hnot : Build.validDnsPolicies.contains ctx.driver.dnsPolicy = false := by simpa using hbad
  have hrefused : ∀ volumes, Build.daemonSet ctx volumes = .error (.sync "invalid DNS Policy provided") := by
    intro volumes
    simp only [Build.daemonSet, String.isEmpty_iff, hset, hnot, Bool.not_false, ↓reduceIte]
    rfl
  unfold syncDriver
  refine fails_of_bind _ (fun _ c₁ => fails_of_bind _ (fun _ c₂ => fails_of_bind _
    (fun _ c₃ => fails_of_bind _ (fun _ c₄ => fails_of_bind _ (fun _ c₅ => ?_) c₄) c₃) c₂) c₁) c
  rw [exceptState_run_bind, hrefused]
  exact ⟨_, _, rfl⟩

/-- A PowerMax installation whose DNS policy is `Bogus` fails to converge from the empty store. -/
example :
    let ctx := { powerMaxAt "ns1" "a" with
      driver := { (powerMaxAt "ns1" "a").driver with dnsPolicy := "Bogus" } }
    ∃ e c', (syncDriver ctx).run.run {} = (.error e, c') :=
  syncDriver_refuses_dnsPolicy (by decide) (by decide) {}

/-- Converging an installation twice: from any store the in-memory server keeps, with no failure
injected, a convergence that succeeds is followed by one that succeeds too, creates nothing,
deletes nothing but pods, writes no service account and no CSIDriver, and leaves every object
but the pods as the first left it, but for its resource version. -/
theorem syncDriver_idempotent (ctx : BuildContext) {c₀ c₁ : Cluster} (hkeyed : c₀.WellKeyed)
    (hfail : c₀.failures = []) (h₁ : (syncDriver ctx).run.run c₀ = (.ok (), c₁)) :
    ∃ c₂, (syncDriver ctx).run.run c₁ = (.ok (), c₂) ∧ Resynced c₁ c₂ := by
  cases hon : c₀.online
  · -- the first convergence could not have succeeded
    obtain ⟨e, he⟩ := syncDriver_unreachable ctx hon
    rw [he] at h₁
    cases h₁
  · obtain ⟨owner, projected, hs⟩ := syncDriver_settles ⟨hkeyed, hon, hfail⟩ h₁
    obtain ⟨c₂, hrun, -, hr⟩ := syncDriver_resyncs hs
    exact ⟨c₂, hrun, hr⟩

/-- A PowerMax installation converged twice from the empty store. -/
theorem powermax_sync_idempotent :
    let ctx := powerMaxAt "ns1" "a"
    let c₁ := ((syncDriver ctx).run.run {}).2
    ({} : Cluster).WellKeyed ∧ ({} : Cluster).failures = [] ∧
      (syncDriver ctx).run.run {} = (.ok (), c₁) ∧
      ∃ c₂, (syncDriver ctx).run.run c₁ = (.ok (), c₂) ∧ Resynced c₁ c₂ := by
  intro ctx c₁
  have hkeyed : ({} : Cluster).WellKeyed := ⟨List.Pairwise.nil, fun _ h => by cases h⟩
  have h₁ : (syncDriver ctx).run.run {} = (.ok (), c₁) := by
    have hok : ((syncDriver ctx).run.run {}).1 = .ok () := by decide +kernel
    exact Prod.ext hok rfl
  exact ⟨hkeyed, rfl, h₁, syncDriver_idempotent ctx hkeyed rfl h₁⟩

end CsiOperator.Sync
