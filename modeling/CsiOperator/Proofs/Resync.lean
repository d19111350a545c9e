import Mathlib
import CsiOperator.Proofs.ClassSetReplay
/-!
A settled driver installation, converged again.

An installation is settled in a store (`Settled`) when its placeholder role, its roles,
accounts and bindings, its CSIDriver, its controller workload, its node DaemonSet and its
classes each stand as a convergence leaves them, and the projected certificates read from the
store are those the objects were built with. Everything a convergence reads is then in place:
converged again, it only replaces objects by themselves and deletes drifted pods, leaving every
object as it was but for its resource version (`syncDriver_resyncs`).
-/

namespace CsiOperator.Sync

open Cluster

/-! ## The documents an installation sends -/

theorem sendable_header {k : ResourceKind} {md rest : List (String × Json)}
    (huid : (Json.obj md).get? "uid" = none)
    (hplaced : k.namespaced = true → ((Json.obj md).strOpt "namespace").isSome) :
    Sendable k (.obj (Build.header k md ++ rest)) :=
  ⟨⟨md, by simp [Build.header, Json.get?]⟩, by rw [meta_header]; exact huid,
    fun hk => by rw [Meta.namespace?, meta_header]; exact hplaced hk⟩

theorem sendable_ownedMeta (ctx : BuildContext) (k : ResourceKind) (name : String)
    (rest : List (String × Json)) :
    Sendable k (.obj (Build.header k (Build.ownedMeta ctx name) ++ rest)) :=
  sendable_header (by simp [Build.ownedMeta, Json.get?])
    fun _ => by simp [Build.ownedMeta, Json.strOpt, Json.get?, Json.str?]

theorem sendable_dummyClusterRole (ctx : BuildContext) :
    Sendable .clusterRole (Build.dummyClusterRole ctx) := by
  simp only [Build.dummyClusterRole]
  rw [← List.append_nil (Build.header _ _)]
  exact sendable_header (by simp [Json.get?]) fun h => by simp [ResourceKind.namespaced] at h

theorem sendable_clusterRole (ctx : BuildContext) (component : String) (rules : List Json)
    (owner : Json) : Sendable .clusterRole (Build.clusterRole ctx component rules owner) :=
  sendable_header (by simp [Json.get?]) fun h => by simp [ResourceKind.namespaced] at h

theorem sendable_clusterRoleBinding (ctx : BuildContext) (component : String) (owner : Json) :
    Sendable .clusterRoleBinding (Build.clusterRoleBinding ctx component owner) :=
  sendable_header (by simp [Json.get?]) fun h => by simp [ResourceKind.namespaced] at h

theorem sendable_statefulSet (ctx : BuildContext) (volumes : List Json) :
    Sendable .statefulSet (Build.statefulSet ctx volumes) :=
  sendable_ownedMeta ..

theorem sendable_deployment (ctx : BuildContext) (volumes : List Json) :
    Sendable .deployment (Build.deployment ctx volumes) :=
  sendable_ownedMeta ..

theorem sendable_daemonSet {ctx : BuildContext} {volumes : List Json} {d : Json}
    (h : Build.daemonSet ctx volumes = .ok d) : Sendable .daemonSet d := by
  unfold Build.daemonSet at h
  simp only [bind, Except.bind, pure, Except.pure] at h
  split at h <;> (split at h <;> [cases h; (cases h; exact sendable_ownedMeta ..)])

theorem sendable_fields_header {k : ResourceKind} {md : List (String × Json)}
    (rest : List (String × Option Json)) (huid : (Json.obj md).get? "uid" = none)
    (hscoped : k.namespaced = false) :
    Sendable k (Json.fields ((Build.header k md).map (fun x => (x.1, some x.2)) ++ rest)) := by
  obtain ⟨tail, htail⟩ : ∃ tail, Json.fields ((Build.header k md).map (fun x => (x.1, some x.2)) ++
      rest) = .obj (Build.header k md ++ tail) :=
    ⟨rest.filterMap fun x => x.2.map fun v => (x.1, v), by simp [Json.fields, Build.header]⟩
  rw [htail]
  exact sendable_header huid fun h => by rw [hscoped] at h; cases h

theorem sendable_storageClasses (ctx : BuildContext) (owner : Json) :
    ∀ d ∈ Build.storageClasses ctx owner, Sendable .storageClass d := by
  intro d hd
  simp only [Build.storageClasses, List.mem_map] at hd
  obtain ⟨sc, -, rfl⟩ := hd
  refine sendable_fields_header _ ?_ rfl
  by_cases h : sc.isDefault <;> simp [h, Json.get?]

theorem sendable_snapshotClasses (ctx : BuildContext) (owner : Json) :
    ∀ d ∈ Build.snapshotClasses ctx owner, Sendable .volumeSnapshotClass d := by
  intro d hd
  simp only [Build.snapshotClasses, List.mem_map] at hd
  obtain ⟨vc, -, rfl⟩ := hd
  exact sendable_fields_header _ (by simp [Json.get?]) rfl

/-! ## Names kept apart -/

theorem dummyClusterRoleName_last (ctx : BuildContext) :
    ctx.dummyClusterRoleName.toList.getLast? = some 'y' := by
  simp [BuildContext.dummyClusterRoleName, Build.dummyClusterRoleName, List.getLast?_cons,
    List.getLast?_append]

theorem rbacName_last (ctx : BuildContext) (component : String) :
    (ctx.rbacName component).toList.getLast? = some (component.toList.getLast?.getD '-') := by
  unfold BuildContext.rbacName
  split <;> simp [List.getLast?_cons, List.getLast?_append]

theorem rbacNames_apart (ctx : BuildContext) :
    ctx.rbacName "controller" ≠ ctx.dummyClusterRoleName ∧
      ctx.rbacName "node" ≠ ctx.dummyClusterRoleName ∧
      ctx.rbacName "node" ≠ ctx.rbacName "controller" := by
  refine ⟨fun h => ?_, fun h => ?_, fun h => ?_⟩ <;>
    simpa [rbacName_last, dummyClusterRoleName_last] using congrArg (·.toList.getLast?) h

/-! ## Reading a store -/

theorem filter_objects_eq {c c' : Cluster} (hc : c.WellKeyed) (hc' : c'.WellKeyed)
    {k : ResourceKind} (h : ∀ key : Key, key.kind = k → c'.find? key = c.find? key)
    {F : Key × Json → Bool} (hF : ∀ p, F p = true → p.1.kind = k) :
    c'.objects.filter F = c.objects.filter F := by
  have hmem : ∀ p, p ∈ c'.objects.filter F ↔ p ∈ c.objects.filter F := fun p => by
    simp only [List.mem_filter]
    constructor
    · rintro ⟨hp, hFp⟩
      have hfind := hc'.find?_eq_some.2 hp
      rw [h p.1 (hF p hFp)] at hfind
      exact ⟨hc.find?_eq_some.1 hfind, hFp⟩
    · rintro ⟨hp, hFp⟩
      have hfind := hc.find?_eq_some.2 hp
      rw [← h p.1 (hF p hFp)] at hfind
      exact ⟨hc'.find?_eq_some.1 hfind, hFp⟩
  have hnodup : ∀ {c : Cluster}, c.WellKeyed → (c.objects.filter F).Nodup := fun hc =>
    (hc.sorted.filter F).imp fun hpq heq => by rw [heq, Key.before_irrefl] at hpq; cases hpq
  refine List.Perm.eq_of_pairwise ?_
    (hc'.sorted.filter F) (hc.sorted.filter F)
    ((List.perm_ext_iff_of_nodup (hnodup hc') (hnodup hc)).2 hmem)
  intro p q _ _ hpq hqp
  have := Key.before_trans hpq hqp
  rw [Key.before_irrefl] at this
  cases this

theorem list_congr {c c' : Cluster} (hc : Healthy c) (hc' : Healthy c') {k : ResourceKind}
    (h : ∀ key : Key, key.kind = k → c'.find? key = c.find? key) (ns : Option String)
    (selector : List (String × String)) :
    (list k ns selector).run.run c' = (((list k ns selector).run.run c).1, c') := by
  simp only [list, exceptState_run_bind, reach_run hc.online, reach_run hc'.online,
    exceptState_run_get, exceptState_run_pure]
  rw [filter_objects_eq hc.wellKeyed hc'.wellKeyed h fun p hp => ?_]
  simp at hp
  exact hp.1.1

theorem projectedCerts_congr (ctx : BuildContext) {c c' : Cluster} (hc : Healthy c) (hc' : Healthy c')
    (hk : KeepsInputs c c') {projected : Option Json}
    (h : (projectedCerts ctx).run.run c = (.ok projected, c)) :
    (projectedCerts ctx).run.run c' = (.ok projected, c') := by
  have hsecrets : ∀ key : Key, key.kind = .secret → c'.find? key = c.find? key :=
    fun key hkey => hk.objects key (by simp [hkey, ResourceKind.isInput])
  unfold projectedCerts at h ⊢
  split at h
  · next hmounts =>
    rw [if_pos hmounts, exceptState_run_bind, Observe.attempt_run, list_congr hc hc' hsecrets]
    rw [exceptState_run_bind, Observe.attempt_run, (list_stays _ _ _ c).symm] at h
    generalize ((list .secret (some ctx.ns) []).run.run c).1 = r at h ⊢
    cases r <;>
      · simp only [exceptState_run_pure] at h ⊢
        cases h
        rfl
  · next hmounts =>
    rw [if_neg hmounts]
    simp only [exceptState_run_pure] at h ⊢
    cases h
    rfl
/-! ## Objects in place -/

/-- The object of a document is in place: stored under the document's key, carrying it. -/
def Converged (k : ResourceKind) (d : Json) (c : Cluster) : Prop :=
  ∃ v, c.find? (keyOf k d) = some v ∧ Carries v d

/-- `c'` keeps the objects of `c` of every kind outside `kinds`. -/
def Untouched (kinds : List ResourceKind) (c c' : Cluster) : Prop :=
  ∀ key : Key, key.kind ∉ kinds → c'.find? key = c.find? key

section Transfer

variable {k : ResourceKind} {d : Json} {K : List ResourceKind} {c c' : Cluster} {key : Key}

theorem Untouched.trans {K' : List ResourceKind} {c₂ : Cluster} (h₁ : Untouched K c c')
    (h₂ : Untouched K' c' c₂) : Untouched (K ++ K') c c₂ := fun key hk => by
  rw [List.mem_append, not_or] at hk
  exact (h₂ key hk.2).trans (h₁ key hk.1)

theorem Untouched.mono {K' : List ResourceKind} (h : Untouched K c c') (hsub : ∀ k ∈ K, k ∈ K') :
    Untouched K' c c' :=
  fun key hk => h key fun hmem => hk (hsub _ hmem)

theorem Untouched.keepsInputs (h : Untouched K c c') (hc : Healthy c) (hc' : Healthy c')
    (hK : ∀ k ∈ K, ¬k.isInput) : KeepsInputs c c' :=
  hc.keepsInputs hc' fun key hin => h key fun hmem => hK _ hmem hin

theorem Converged.of_find (h : Converged k d c)
    (heq : c'.find? (keyOf k d) = c.find? (keyOf k d)) : Converged k d c' := by
  obtain ⟨v, hv, hcarries⟩ := h
  exact ⟨v, heq.trans hv, hcarries⟩

theorem Converged.untouched (h : Converged k d c) (hu : Untouched K c c') (hk : k ∉ K) :
    Converged k d c' :=
  h.of_find (hu _ (by simpa using hk))

theorem Converged.resynced (h : Converged k d c) (hr : Resynced c c') (hk : k ≠ .pod) :
    Converged k d c' := by
  obtain ⟨v, hv, hcarries⟩ := h
  obtain ⟨w, hw, hsame⟩ := hr.stored (by simpa using hk) hv
  exact ⟨w, hw, Carries.of_sameButVersion hsame hcarries⟩

end Transfer

/-! ## A settled installation -/

/-- The role-based access of an installation whose placeholder role `owner` refers to: the
controller's role, account and binding, and the node plugin's when it has an account of its
own. -/
structure RbacSettled (ctx : BuildContext) (owner : Json) (c : Cluster) : Prop where
  controllerRole : Converged .clusterRole (Build.controllerClusterRole ctx owner) c
  controllerAccount :
    (c.find? (keyOf .serviceAccount (Build.serviceAccount ctx ctx.family.controllerName))).isSome
  controllerBinding :
    Converged .clusterRoleBinding (Build.clusterRoleBinding ctx "controller" owner) c
  nodeAccount : ctx.createNodeServiceAccount = true →
    (c.find? (keyOf .serviceAccount (Build.serviceAccount ctx ctx.family.daemonSetName))).isSome
  nodeRole : ctx.createNodeServiceAccount = true →
    Converged .clusterRole (Build.nodeClusterRole ctx owner) c
  nodeBinding : ctx.createNodeServiceAccount = true →
    Converged .clusterRoleBinding (Build.clusterRoleBinding ctx "node" owner) c

/-- The controller workload in place: the Deployment, and no StatefulSet left, when the
controller runs highly available; the StatefulSet otherwise. -/
structure ControllerSettled (ctx : BuildContext) (volumes : List Json) (c : Cluster) : Prop where
  deployment : ctx.config.controllerHA = true →
    Converged .deployment (Build.deployment ctx volumes) c
  noStatefulSet : ctx.config.controllerHA = true →
    c.find? (keyFor .statefulSet (some ctx.ns) ctx.family.controllerName) = none
  statefulSet : ctx.config.controllerHA = false →
    Converged .statefulSet (Build.statefulSet ctx volumes) c

/-- An installation converged in a store that answers: its placeholder role is referred to by
`owner`, and the store's certificate secrets give the projected volume `projected`. -/
structure Settled (ctx : BuildContext) (owner : Json) (projected : Option Json) (c : Cluster) :
    Prop where
  healthy : Healthy c
  dummy : ∃ v, c.find? (keyOf .clusterRole (Build.dummyClusterRole ctx)) = some v ∧
    Carries v (Build.dummyClusterRole ctx) ∧ Build.dummyOwner v = owner
  rbac : RbacSettled ctx owner c
  csiDriver : ∃ v, c.find? (keyOf .csiDriver (Build.csiDriver ctx owner)) = some v ∧
    ownedOutsideRbac v = false
  certs : (projectedCerts ctx).run.run c = (.ok projected, c)
  controller : ControllerSettled ctx (Build.controllerVolumes ctx projected) c
  daemonSet : ∃ ds, Build.daemonSet ctx (Build.nodeVolumes ctx projected) = .ok ds ∧
    Converged .daemonSet ds c
  storageClasses : ClassesSettled .storageClass (·.strD "provisioner" == ctx.driverName)
    (Meta.nameAny (Build.dummyClusterRole ctx)) (Build.storageClasses ctx owner) c
  snapshotClasses : ClassesSettled .volumeSnapshotClass (·.strD "driver" == ctx.driverName)
    (Meta.nameAny (Build.dummyClusterRole ctx)) (Build.snapshotClasses ctx owner) c

section Settled

variable {ctx : BuildContext} {owner : Json} {projected : Option Json} {c c' : Cluster}

theorem RbacSettled.untouched {K : List ResourceKind} (h : RbacSettled ctx owner c)
    (hu : Untouched K c c')
    (hK : ResourceKind.clusterRole ∉ K ∧ ResourceKind.serviceAccount ∉ K ∧
      ResourceKind.clusterRoleBinding ∉ K) : RbacSettled ctx owner c' :=
  ⟨h.controllerRole.untouched hu hK.1, by rw [hu _ (by simpa using hK.2.1)]; exact h.controllerAccount,
    h.controllerBinding.untouched hu hK.2.2,
    fun hn => by rw [hu _ (by simpa using hK.2.1)]; exact h.nodeAccount hn,
    fun hn => (h.nodeRole hn).untouched hu hK.1, fun hn => (h.nodeBinding hn).untouched hu hK.2.2⟩

theorem RbacSettled.resynced (h : RbacSettled ctx owner c) (hr : Resynced c c') :
    RbacSettled ctx owner c' :=
  ⟨h.controllerRole.resynced hr (by decide), hr.isSome (by simp) h.controllerAccount,
    h.controllerBinding.resynced hr (by decide), fun hn => hr.isSome (by simp) (h.nodeAccount hn),
    fun hn => (h.nodeRole hn).resynced hr (by decide),
    fun hn => (h.nodeBinding hn).resynced hr (by decide)⟩

theorem ControllerSettled.untouched {K : List ResourceKind} {volumes : List Json}
    (h : ControllerSettled ctx volumes c) (hu : Untouched K c c')
    (hK : ResourceKind.deployment ∉ K ∧ ResourceKind.statefulSet ∉ K) :
    ControllerSettled ctx volumes c' :=
  ⟨fun ha => (h.deployment ha).untouched hu hK.1,
    fun ha => by rw [hu _ (by simpa using hK.2)]; exact h.noStatefulSet ha,
    fun ha => (h.statefulSet ha).untouched hu hK.2⟩

theorem ControllerSettled.resynced {volumes : List Json} (h : ControllerSettled ctx volumes c)
    (hr : Resynced c c') : ControllerSettled ctx volumes c' :=
  ⟨fun ha => (h.deployment ha).resynced hr (by decide),
    fun ha => hr.find_none (by simp) (h.noStatefulSet ha),
    fun ha => (h.statefulSet ha).resynced hr (by decide)⟩

theorem Settled.resynced (hs : Settled ctx owner projected c) (hc' : Healthy c')
    (hr : Resynced c c') : Settled ctx owner projected c' := by
  obtain ⟨v, hv, hcarries, howner⟩ := hs.dummy
  obtain ⟨w, hw, hsame⟩ := hr.stored (by simp) hv
  obtain ⟨x, hx, hrbac⟩ := hs.csiDriver
  obtain ⟨y, hy, hsame'⟩ := hr.stored (by simp) hx
  obtain ⟨ds, hds, hconv⟩ := hs.daemonSet
  -- the classes are told apart by a member other than the metadata
  have hclass : ∀ field : String, field ≠ "metadata" → ∀ v w, SameButVersion v w →
      (v.strD field == ctx.driverName) = (w.strD field == ctx.driverName) :=
    fun field hf v w h => by rw [SameButVersion.strD h hf]
  exact ⟨hc', ⟨w, hw, Carries.of_sameButVersion hsame hcarries, hsame.dummyOwner.trans howner⟩,
    hs.rbac.resynced hr, ⟨y, hy, hsame'.ownedOutsideRbac.trans hrbac⟩,
    projectedCerts_congr ctx hs.healthy hc' hr.inputs hs.certs, hs.controller.resynced hr,
    ⟨ds, hds, hconv.resynced hr (by decide)⟩,
    hs.storageClasses.resynced hr (by decide) (hclass _ (by decide)),
    hs.snapshotClasses.resynced hr (by decide) (hclass _ (by decide))⟩

end Settled

/-! ## Each phase again -/

section Again

variable {ctx : BuildContext} {owner : Json} {projected : Option Json} {c : Cluster}

theorem resynced_of_converged {k : ResourceKind} {d v : Json} {c' : Cluster}
    (h : Written (keyOf k d) v c c') (hc : Healthy c) (hc' : Healthy c') (hv : Carries v d)
    (hconv : Converged k d c) (hkind : k ∉ [.serviceAccount, .csiDriver, .pod])
    (hinput : ¬k.isInput) : Resynced c c' := by
  obtain ⟨found, hfound, hcarries⟩ := hconv
  exact h.resynced hc hc' hv hfound hcarries (by simpa using hkind) (by simpa using hinput)

theorem createOrUpdate_resynced (hc : Healthy c) {k : ResourceKind} {d : Json}
    (hconv : Converged k d c) (hd : Sendable k d) (hkind : k ∉ [.serviceAccount, .csiDriver, .pod])
    (hinput : ¬k.isInput) :
    ∃ v c', (createOrUpdate k d).run.run c = (.ok v, c') ∧ Healthy c' ∧ Resynced c c' ∧
      ∀ found, c.find? (keyOf k d) = some found → SameButVersion v found := by
  obtain ⟨v, c', hrun, hc', -, hv, hw⟩ := createOrUpdate_written hc hd
  refine ⟨v, c', hrun, hc', resynced_of_converged hw hc hc' hv hconv hkind hinput,
    fun found hfound => ?_⟩
  obtain ⟨found', hfound', hcarries⟩ := hconv
  rw [hfound', Option.some.injEq] at hfound
  subst hfound
  exact hv.sameButVersion hcarries (hw.inherits _ hfound')

theorem ensureStatefulSet_resynced (hc : Healthy c) {d : Json} (hd : Sendable .statefulSet d)
    (hconv : Converged .statefulSet d c) :
    ∃ c', (ensureStatefulSet d).run.run c = (.ok (), c') ∧ Healthy c' ∧ Resynced c c' := by
  obtain ⟨v, c', hrun, hc', hv, hw⟩ := ensureStatefulSet_written hc hd
  exact ⟨c', hrun, hc', resynced_of_converged hw hc hc' hv hconv (by decide)
    (by simp [ResourceKind.isInput])⟩

theorem ensureDeployment_resynced (hc : Healthy c) {d : Json} (hd : Sendable .deployment d)
    (hconv : Converged .deployment d c) :
    ∃ c', (ensureDeployment d).run.run c = (.ok (), c') ∧ Healthy c' ∧ Resynced c c' := by
  obtain ⟨v, c', hrun, hc', hv, hw⟩ := ensureDeployment_written hc hd
  exact ⟨c', hrun, hc', resynced_of_converged hw hc hc' hv hconv (by decide)
    (by simp [ResourceKind.isInput])⟩

theorem ensureRbac_resyncs (hs : Settled ctx owner projected c) :
    ∃ c', (ensureRbac ctx owner).run.run c = (.ok (), c') ∧ Healthy c' ∧ Resynced c c' := by
  have hrole : ¬ResourceKind.clusterRole.isInput := by simp [ResourceKind.isInput]
  have hbinding : ¬ResourceKind.clusterRoleBinding.isInput := by simp [ResourceKind.isInput]
  unfold ensureRbac
  -- the controller's role, account and binding
  obtain ⟨_, c₁, hrun₁, hc₁, hr₁, -⟩ := createOrUpdate_resynced hs.healthy
    hs.rbac.controllerRole (sendable_clusterRole ..) (by decide) hrole
  have hs₁ := hs.resynced hc₁ hr₁
  rw [exceptState_run_bind, hrun₁]
  dsimp only
  rw [exceptState_run_bind, ensureServiceAccount_present hc₁ hs₁.rbac.controllerAccount]
  dsimp only
  obtain ⟨_, c₂, hrun₂, hc₂, hr₂, -⟩ := createOrUpdate_resynced hc₁
    hs₁.rbac.controllerBinding (sendable_clusterRoleBinding ..) (by decide) hbinding
  rw [exceptState_run_bind, hrun₂]
  dsimp only
  split
  · -- the node plugin's, when it has an account of its own
    next hnode =>
    have hs₂ := hs₁.resynced hc₂ hr₂
    rw [exceptState_run_bind, ensureServiceAccount_present hc₂ (hs₂.rbac.nodeAccount hnode)]
    dsimp only
    obtain ⟨_, c₃, hrun₃, hc₃, hr₃, -⟩ := createOrUpdate_resynced hc₂
      (hs₂.rbac.nodeRole hnode) (sendable_clusterRole ..) (by decide) hrole
    have hs₃ := hs₂.resynced hc₃ hr₃
    rw [exceptState_run_bind, hrun₃]
    dsimp only
    obtain ⟨_, c₄, hrun₄, hc₄, hr₄, -⟩ := createOrUpdate_resynced hc₃
      (hs₃.rbac.nodeBinding hnode) (sendable_clusterRoleBinding ..) (by decide) hbinding
    rw [exceptState_run_bind, hrun₄]
    exact ⟨c₄, rfl, hc₄, hr₁.trans (hr₂.trans (hr₃.trans hr₄))⟩
  · exact ⟨c₂, rfl, hc₂, hr₁.trans hr₂⟩

theorem ensureController_resyncs (hs : Settled ctx owner projected c) :
    ∃ c', (ensureController ctx (Build.controllerVolumes ctx projected)).run.run c = (.ok (), c') ∧
      Healthy c' ∧ Resynced c c' := by
  unfold ensureController
  cases hha : ctx.config.controllerHA
  · -- a StatefulSet, replaced by itself
    rw [if_neg Bool.false_ne_true]
    exact ensureStatefulSet_resynced hs.healthy (sendable_statefulSet ..)
      (hs.controller.statefulSet hha)
  · -- a Deployment, replaced by itself, and no StatefulSet to delete
    rw [if_pos rfl]
    obtain ⟨c', hrun, hc', hr⟩ := ensureDeployment_resynced hs.healthy (sendable_deployment ..)
      (hs.controller.deployment hha)
    rw [exceptState_run_bind, hrun]
    dsimp only
    rw [exceptState_run_bind, Observe.attempt_run, get_run hc'.online,
      hr.find_none (by simp) (hs.controller.noStatefulSet hha)]
    exact ⟨c', rfl, hc', hr⟩

theorem ensureClasses_resyncs (hs : Settled ctx owner projected c) :
    ∃ c', (ensureClasses ctx owner (Meta.nameAny (Build.dummyClusterRole ctx))).run.run c =
      (.ok (), c') ∧ Healthy c' ∧ Resynced c c' := by
  unfold ensureClasses
  obtain ⟨c₁, hrun₁, hc₁, hr₁⟩ := ensureClassSet_replays (Or.inl rfl) hs.healthy
    (sendable_storageClasses ctx owner) hs.storageClasses
  rw [exceptState_run_bind, hrun₁]
  dsimp only
  obtain ⟨c₂, hrun₂, hc₂, hr₂⟩ := ensureClassSet_replays (Or.inr rfl) hc₁
    (sendable_snapshotClasses ctx owner) (hs.resynced hc₁ hr₁).snapshotClasses
  rw [exceptState_run_bind, hrun₂]
  exact ⟨c₂, rfl, hc₂, hr₁.trans hr₂⟩

theorem syncDriver_resyncs (hs : Settled ctx owner projected c) :
    ∃ c', (syncDriver ctx).run.run c = (.ok (), c') ∧ Healthy c' ∧ Resynced c c' := by
  unfold syncDriver
  -- the placeholder role is replaced by itself, so it names the same owner
  obtain ⟨v, hv, hcarries, howner⟩ := hs.dummy
  obtain ⟨dummy, c₁, hrun₁, hc₁, hr₁, hsame⟩ := createOrUpdate_resynced hs.healthy
    ⟨v, hv, hcarries⟩ (sendable_dummyClusterRole ctx) (by decide) (by simp [ResourceKind.isInput])
  have hdummy : Build.dummyOwner dummy = owner := (hsame v hv).dummyOwner.trans howner
  have hname : Meta.nameAny dummy = Meta.nameAny (Build.dummyClusterRole ctx) :=
    (Carries.of_sameButVersion (hsame v hv) hcarries).nameAny
  rw [exceptState_run_bind, hrun₁]
  dsimp only
  rw [hdummy, hname]
  -- the role-based access, the CSIDriver and the certificates are in place
  have hs₁ := hs.resynced hc₁ hr₁
  obtain ⟨c₂, hrun₂, hc₂, hr₂⟩ := ensureRbac_resyncs hs₁
  have hs₂ := hs₁.resynced hc₂ hr₂
  obtain ⟨x, hx, hrbac⟩ := hs₂.csiDriver
  rw [exceptState_run_bind, hrun₂]
  dsimp only
  rw [exceptState_run_bind, ensureCsiDriver_owned hc₂ hx hrbac]
  dsimp only
  rw [exceptState_run_bind, hs₂.certs]
  dsimp only
  -- the controller and the node plugin are replaced by themselves
  obtain ⟨c₃, hrun₃, hc₃, hr₃⟩ := ensureController_resyncs hs₂
  have hs₃ := hs₂.resynced hc₃ hr₃
  obtain ⟨ds, hds, hconv⟩ := hs₃.daemonSet
  rw [exceptState_run_bind, hrun₃]
  dsimp only
  obtain ⟨_, c₄, hrun₄, hc₄, hr₄, -⟩ := createOrUpdate_resynced hc₃ hconv
    (sendable_daemonSet hds) (by decide) (by simp [ResourceKind.isInput])
  have hs₄ := hs₃.resynced hc₄ hr₄
  rw [exceptState_run_bind, hds,
    show (MonadExcept.ofExcept (.ok ds) : ClusterM Json) = pure ds from rfl, exceptState_run_pure]
  dsimp only
  rw [exceptState_run_bind, hrun₄]
  dsimp only
  -- and so are the classes
  obtain ⟨c₅, hrun₅, hc₅, hr₅⟩ := ensureClasses_resyncs hs₄
  exact ⟨c₅, hrun₅, hc₅, hr₁.trans (hr₂.trans (hr₃.trans (hr₄.trans hr₅)))⟩

end Again

end CsiOperator.Sync
