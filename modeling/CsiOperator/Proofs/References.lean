import CsiOperator.Proofs.Idempotence
import CsiOperator.Proofs.Isolation
/-!
What the objects of a converged installation refer to.

After a convergence that succeeds, each binding it writes refers to a stored cluster role and to
service accounts stored in the installation's namespace; the controller's pods run as a stored
account, and the node plugin's as a stored account or, when node access is limited outside
OpenShift, as `default`. Once the placeholder role is in place the convergence leaves it alone,
and every object it stores names that role, with its uid, as its only cluster-role owner
(`roleFootprint`, `syncDriver_owned`).
-/

namespace CsiOperator

namespace Sync

open Cluster

/-! ## Owner references to the placeholder role -/

/-- An owner reference that names `role` and carries its uid. -/
def RefersTo (role o : Json) : Prop :=
  o.get? "name" = some (.str (Meta.nameAny role)) ∧
    o.get? "uid" = some (.str ((Meta.uid? role).getD ""))

/-- Every owner reference of `obj` to a cluster role refers to `role`. -/
def OwnedByRole (role obj : Json) : Prop :=
  ∀ o ∈ Meta.ownerReferences obj, o.get? "kind" = some (.str "ClusterRole") → RefersTo role o

/-- The writes made once the placeholder role `role` is stored under `dummyKey`: they leave that
key alone, and every object they store is owned, among cluster roles, by `role` only. -/
def roleFootprint (dummyKey : Key) (role : Json) : Footprint where
  names key := key ≠ dummyKey
  takes key _ := key ≠ dummyKey
  leaves _ v := ∀ obj, v = some obj → OwnedByRole role obj

variable {role : Json}

theorem refersTo_dummyOwner (role : Json) : RefersTo role (Build.dummyOwner role) := by
  simp [RefersTo, Build.dummyOwner, Build.ownerRef, Json.get?]

theorem RefersTo.set {o : Json} (h : RefersTo role o) {field : String} (hname : field ≠ "name")
    (huid : field ≠ "uid") (x : Json) : RefersTo role (o.set field x) := by
  rw [RefersTo, Json.get?_set_of_ne _ _ hname, Json.get?_set_of_ne _ _ huid]
  exact h

theorem OwnedByRole.of_sent {v d : Json} (h : Sent v d) (hd : OwnedByRole role d) :
    OwnedByRole role v := by
  intro o ho
  exact hd o (by simpa only [Meta.ownerReferences, h.2] using ho)

theorem ownedByRole_of_owners {obj owner : Json} (h : Meta.ownerReferences obj = [owner])
    (howner : RefersTo role owner) : OwnedByRole role obj := by
  intro o ho _
  rw [h, List.mem_singleton] at ho
  exact ho ▸ howner

theorem ownedByRole_of_kinds {obj : Json}
    (h : ∀ o ∈ Meta.ownerReferences obj, o.get? "kind" ≠ some (.str "ClusterRole")) :
    OwnedByRole role obj :=
  fun o ho hkind => absurd hkind (h o ho)

theorem ownerReferences_header (k : ResourceKind) (md rest : List (String × Json)) :
    Meta.ownerReferences (.obj (Build.header k md ++ rest)) =
      (((Json.obj md).get? "ownerReferences").bind Json.items?).getD [] := by
  rw [Meta.ownerReferences, meta_header]

theorem kind_resourceOwner (r : DriverResource) :
    (Build.resourceOwner r).get? "kind" ≠ some (.str "ClusterRole") := by
  cases h : r.family <;>
    simp [Build.resourceOwner, Build.ownerRef, Json.get?, h, DriverKind.resourceKind]

/-! ## The owners the builders give -/

section Builders

variable (ctx : BuildContext) (owner : Json)

theorem ownerReferences_dummyClusterRole : Meta.ownerReferences (Build.dummyClusterRole ctx) = [] := by
  simp [Build.dummyClusterRole, Meta.ownerReferences, meta_header_only, Json.get?]

theorem ownerReferences_clusterRole (component : String) (rules : List Json) :
    Meta.ownerReferences (Build.clusterRole ctx component rules owner) = [owner] := by
  simp [Build.clusterRole, ownerReferences_header, Json.get?, Json.items?]

theorem ownerReferences_clusterRoleBinding (component : String) :
    Meta.ownerReferences (Build.clusterRoleBinding ctx component owner) = [owner] := by
  simp [Build.clusterRoleBinding, ownerReferences_header, Json.get?, Json.items?]

theorem ownerReferences_csiDriver : Meta.ownerReferences (Build.csiDriver ctx owner) = [owner] := by
  simp [Build.csiDriver, ownerReferences_header, Json.get?, Json.items?]

theorem ownerReferences_storageClasses :
    ∀ d ∈ Build.storageClasses ctx owner,
      Meta.ownerReferences d = [owner.set "blockOwnerDeletion" (.bool false)] := by
  intro d hd
  simp only [Build.storageClasses, List.mem_map] at hd
  obtain ⟨sc, -, rfl⟩ := hd
  -- the owner sits after the default-class annotation, when there is one
  split <;> simp [Meta.ownerReferences, Meta.of, Build.header, Json.fields, Json.get?, Json.items?]

theorem ownerReferences_snapshotClasses :
    ∀ d ∈ Build.snapshotClasses ctx owner, Meta.ownerReferences d = [owner] := by
  intro d hd
  simp only [Build.snapshotClasses, List.mem_map] at hd
  obtain ⟨vc, -, rfl⟩ := hd
  simp [Meta.ownerReferences, Meta.of, Build.header, Json.fields, Json.get?, Json.items?]

theorem ownerReferences_serviceAccount (name : String) :
    Meta.ownerReferences (Build.serviceAccount ctx name) = [ctx.owner] := by
  simp [Build.serviceAccount, Meta.ownerReferences, meta_header_only, Json.get?, Json.items?]

theorem ownerReferences_ownedMeta (k : ResourceKind) (name : String) (rest : List (String × Json)) :
    Meta.ownerReferences (.obj (Build.header k (Build.ownedMeta ctx name) ++ rest)) = [ctx.owner] := by
  simp [Build.ownedMeta, ownerReferences_header, Json.get?, Json.items?]

theorem ownerReferences_daemonSet {volumes : List Json} {ds : Json}
    (h : Build.daemonSet ctx volumes = .ok ds) : Meta.ownerReferences ds = [ctx.owner] := by
  unfold Build.daemonSet at h
  simp only [bind, Except.bind, pure, Except.pure] at h
  split at h <;> (split at h <;> [cases h; (cases h; exact ownerReferences_ownedMeta ..)])

end Builders

/-! ## Writes owned by the placeholder role -/

section Owned

variable {dummyKey : Key}

theorem kind_keyOf (k : ResourceKind) (obj : Json) : (keyOf k obj).kind = k := rfl

theorem kind_keyFor (k : ResourceKind) (ns : Option String) (name : String) :
    (keyFor k ns name).kind = k := rfl

theorem roleFootprint_allows {c : Cluster} {key : Key} (hkind : key.kind ≠ dummyKey.kind) :
    (roleFootprint dummyKey role).Allows c key :=
  .inl fun h => hkind (h ▸ rfl)

theorem roleFootprint_leaves_none (key : Key) : (roleFootprint dummyKey role).leaves key none :=
  fun _ h => by cases h

theorem createOrUpdate_owned {k : ResourceKind} {d : Json} (hkey : keyOf k d ≠ dummyKey)
    (hd : OwnedByRole role d) :
    Stays (Confined (roleFootprint dummyKey role)) (createOrUpdate k d) :=
  createOrUpdate_confined hkey fun v hv obj hobj => by
    cases hobj
    exact hd.of_sent hv

theorem create_owned {k : ResourceKind} {d : Json} (hkind : dummyKey.kind ≠ k)
    (hd : OwnedByRole role d) :
    Stays (Confined (roleFootprint dummyKey role)) (Cluster.create k d) :=
  Confined.of_extends fun c => create_extends (roleFootprint_allows fun h => hkind h.symm)
    (fun v hv obj hobj => by cases hobj; exact hd.of_sent hv) c

theorem replace_owned {k : ResourceKind} {live d : Json} (hkind : dummyKey.kind ≠ k)
    (hd : OwnedByRole role d) :
    Stays (Confined (roleFootprint dummyKey role)) (replace k live d) :=
  Confined.of_extends fun c => update_extends (roleFootprint_allows fun h => hkind h.symm)
    (fun v hv obj hobj => by cases hobj; exact hd.of_sent (hv.trans (withVersionOf_meta d live).2)) c

theorem ensureServiceAccount_owned {sa : Json} (hkey : keyOf .serviceAccount sa ≠ dummyKey)
    (hsa : OwnedByRole role sa) :
    Stays (Confined (roleFootprint dummyKey role)) (ensureServiceAccount sa) := by
  unfold ensureServiceAccount
  refine (get_stays _ _ _).of_eq.bind fun found => Stays.ite ?_ (Stays.pure _)
  refine (Confined.of_extends fun c => create_extends (Or.inl hkey) (fun v hv obj hobj => ?_) c).bind
    fun _ => Stays.pure _
  cases hobj
  exact hsa.of_sent hv

theorem ownerReferences_setOwners (found desired : Json) :
    Meta.ownerReferences (Meta.setField found "ownerReferences"
      (((Meta.of desired).get? "ownerReferences").getD (.arr []))) = Meta.ownerReferences desired := by
  have hof : Meta.of (Meta.setField found "ownerReferences"
      (((Meta.of desired).get? "ownerReferences").getD (.arr []))) =
      (Meta.of found).set "ownerReferences"
        (((Meta.of desired).get? "ownerReferences").getD (.arr [])) := by
    rw [Meta.setField, Meta.modify, Meta.setOf, Meta.of, Json.get?_set_self, Option.getD_some]
  simp only [Meta.ownerReferences, hof, Json.get?_set_self, Option.bind_some]
  cases (Meta.of desired).get? "ownerReferences" <;> rfl

theorem ensureCsiDriver_owned {desired : Json} (hkind : dummyKey.kind ≠ .csiDriver)
    (hd : OwnedByRole role desired) :
    Stays (Confined (roleFootprint dummyKey role)) (ensureCsiDriver desired) := by
  have hallows : ∀ {c : Cluster} (obj : Json),
      (roleFootprint dummyKey role).Allows c (keyOf .csiDriver obj) :=
    fun _ => roleFootprint_allows fun h => hkind h.symm
  unfold ensureCsiDriver
  refine (get_stays _ _ _).of_eq.bind fun found => ?_
  cases found with
  | none => exact (create_owned hkind hd).bind fun _ => Stays.pure _
  | some found =>
    refine Stays.ite (Stays.tryCatch ((Confined.of_extends fun c => update_extends (hallows _)
      (fun v hv obj hobj => ?_) c).bind fun _ => Stays.pure _) fun _ => Stays.pure _) (Stays.pure _)
    cases hobj
    -- the stored owners are the desired ones
    intro o ho
    apply hd o
    rw [← ownerReferences_setOwners found desired]
    simpa only [Meta.ownerReferences, hv.2] using ho

theorem refreshPods_owned (hkind : dummyKey.kind ≠ .pod) (template : Json) (pods : List Json) :
    Stays (Confined (roleFootprint dummyKey role)) (refreshPods template pods) := by
  unfold refreshPods
  refine Stays.forM fun pod _ => Stays.ite ?_ (Stays.pure _)
  exact Stays.tryCatch (Confined.of_extends fun c => delete_extends
    (roleFootprint_allows fun h => hkind h.symm) (roleFootprint_leaves_none _) c) fun _ => Stays.pure _

theorem ensureStatefulSet_owned {desired : Json} (hkind : dummyKey.kind ≠ .statefulSet)
    (hpod : dummyKey.kind ≠ .pod) (hd : OwnedByRole role desired) :
    Stays (Confined (roleFootprint dummyKey role)) (ensureStatefulSet desired) := by
  unfold ensureStatefulSet
  refine (get_stays _ _ _).of_eq.bind fun live => ?_
  cases live with
  | none => exact (create_owned hkind hd).bind fun _ => Stays.pure _
  | some live =>
    refine (replace_owned hkind hd).bind fun _ => (get_stays _ _ _).of_eq.bind fun found => ?_
    split
    · split
      · exact Stays.pure _
      · refine (Stays.filterMapM fun i _ => ?_).bind fun pods => refreshPods_owned hpod _ pods
        exact ((attempt_stays (R := Eq) (get_stays _ _ _)).bind fun _ => Stays.pure _).of_eq
    · exact Stays.throw _

theorem ensureDeployment_owned {desired : Json} (hkind : dummyKey.kind ≠ .deployment)
    (hpod : dummyKey.kind ≠ .pod) (hd : OwnedByRole role desired) :
    Stays (Confined (roleFootprint dummyKey role)) (ensureDeployment desired) := by
  unfold ensureDeployment
  refine (get_stays _ _ _).of_eq.bind fun live => ?_
  cases live with
  | none => exact (create_owned hkind hd).bind fun _ => Stays.pure _
  | some live =>
    refine (replace_owned hkind hd).bind fun _ => (get_stays _ _ _).of_eq.bind fun found => ?_
    split
    · split
      · exact Stays.pure _
      · exact (list_stays _ _ _).of_eq.bind fun pods => refreshPods_owned hpod _ pods
    · exact Stays.throw _

theorem ensureClassSet_owned {k : ResourceKind} (hkind : dummyKey.kind ≠ k) {desired : List Json}
    (hdesired : ∀ d ∈ desired, OwnedByRole role d) (dummyName : String) (sameDriver : Json → Bool) :
    Stays (Confined (roleFootprint dummyKey role)) (ensureClassSet k desired dummyName sameDriver) := by
  unfold ensureClassSet
  refine (attempt_stays (R := Eq) (list_stays _ _ _)).of_eq.bind fun live => ?_
  refine (Stays.filterMapM fun d hd => ?_).bind fun errors =>
    (Stays.forM fun name _ => ?_).bind fun _ => Stays.pure _
  · refine (attempt_stays (createOrUpdate_owned (fun h => hkind (congrArg Key.kind h).symm)
      (hdesired d hd))).bind
      fun result => ?_
    cases result <;> exact Stays.pure _
  · exact Stays.tryCatch (Confined.of_extends fun c => delete_extends
      (roleFootprint_allows fun h => hkind h.symm) (roleFootprint_leaves_none _) c) fun _ => Stays.pure _

end Owned

/-! ## A whole convergence, after its placeholder role -/

section Installation

variable (ctx : BuildContext) (role : Json)

theorem ensureRbac_owned (hctx : ctx.owner.get? "kind" ≠ some (.str "ClusterRole")) :
    Stays (Confined (roleFootprint (keyOf .clusterRole (Build.dummyClusterRole ctx)) role))
      (ensureRbac ctx (Build.dummyOwner role)) := by
  obtain ⟨hctrl, hnode, -, -⟩ := rbacKeys_apart ctx (Build.dummyOwner role)
  have hrefers := refersTo_dummyOwner role
  have account : ∀ name, Stays (Confined (roleFootprint (keyOf .clusterRole
      (Build.dummyClusterRole ctx)) role)) (ensureServiceAccount (Build.serviceAccount ctx name)) :=
    fun name => ensureServiceAccount_owned (keyOf_ne_of_kind (by decide) _ _)
      (ownedByRole_of_kinds (by simpa [ownerReferences_serviceAccount] using hctx))
  have binding : ∀ component, Stays (Confined (roleFootprint (keyOf .clusterRole
      (Build.dummyClusterRole ctx)) role))
      (createOrUpdate .clusterRoleBinding (Build.clusterRoleBinding ctx component (Build.dummyOwner role))) :=
    fun component => createOrUpdate_owned (keyOf_ne_of_kind (by decide) _ _)
      (ownedByRole_of_owners (ownerReferences_clusterRoleBinding ..) hrefers)
  unfold ensureRbac
  refine (createOrUpdate_owned hctrl (ownedByRole_of_owners (ownerReferences_clusterRole ..)
    hrefers)).bind fun _ => (account _).bind fun _ => (binding _).bind fun _ => ?_
  split
  · -- the node plugin's account, role and binding, when it has an account of its own
    refine (account _).bind fun _ => ?_
    exact (createOrUpdate_owned hnode (ownedByRole_of_owners (ownerReferences_clusterRole ..)
      hrefers)).bind fun _ => (binding _).bind fun _ => Stays.pure _
  · exact Stays.pure _

theorem ensureController_owned (hctx : ctx.owner.get? "kind" ≠ some (.str "ClusterRole"))
    (volumes : List Json) :
    Stays (Confined (roleFootprint (keyOf .clusterRole (Build.dummyClusterRole ctx)) role))
      (ensureController ctx volumes) := by
  have howned : ∀ (k : ResourceKind) (rest : List (String × Json)),
      OwnedByRole role (.obj (Build.header k (Build.ownedMeta ctx ctx.family.controllerName) ++ rest)) :=
    fun _ _ => ownedByRole_of_kinds (by simpa [ownerReferences_ownedMeta] using hctx)
  unfold ensureController
  refine Stays.ite ?_ (ensureStatefulSet_owned (by rw [kind_keyOf]; decide)
    (by rw [kind_keyOf]; decide) (howned _ _))
  refine (ensureDeployment_owned (by rw [kind_keyOf]; decide) (by rw [kind_keyOf]; decide)
    (howned _ _)).bind fun _ =>
    (attempt_stays (R := Eq) (get_stays _ _ _)).of_eq.bind fun _ => ?_
  split
  · exact Stays.tryCatch (Confined.of_extends fun c => delete_extends
      (roleFootprint_allows (by rw [kind_keyOf, kind_keyFor]; decide)) (roleFootprint_leaves_none _) c)
      fun _ => Stays.pure _
  · exact Stays.pure _

theorem ensureClasses_owned (dummyName : String) :
    Stays (Confined (roleFootprint (keyOf .clusterRole (Build.dummyClusterRole ctx)) role))
      (ensureClasses ctx (Build.dummyOwner role) dummyName) := by
  have hrefers := refersTo_dummyOwner role
  unfold ensureClasses
  refine (ensureClassSet_owned (by rw [kind_keyOf]; decide) (fun d hd => ownedByRole_of_owners
    (ownerReferences_storageClasses ctx _ d hd) (hrefers.set (by decide) (by decide) _)) _ _).bind
    fun _ => ?_
  exact (ensureClassSet_owned (by rw [kind_keyOf]; decide) (fun d hd => ownedByRole_of_owners
    (ownerReferences_snapshotClasses ctx _ d hd) hrefers) _ _).bind
    fun _ => Stays.ite (Stays.throw _) (Stays.pure _)

end Installation

theorem create_uid {c c' : Cluster} {k : ResourceKind} {obj v : Json}
    (hmeta : ∃ ms, obj.get? "metadata" = some (.obj ms))
    (h : (create k obj).run.run c = (.ok v, c')) : (Meta.uid? v).isSome := by
  obtain ⟨hfound, -, -, -⟩ := create_ok h
  have hon : c.online = true := by
    cases hon : c.online
    · simp only [create, exceptState_run_bind, reach_error hon] at h
      cases h
    · rfl
  cases hfail : c.failing .create k
  · simp only [create, exceptState_run_bind, reach_run hon, checkFailure_run hfail,
      exceptState_run_get, hfound, Option.isSome_none, Bool.false_eq_true, if_false,
      exceptState_run_liftM, exceptState_run_modify, exceptState_run_pure] at h
    rw [Prod.mk.injEq, Except.ok.injEq] at h
    obtain ⟨rfl, -⟩ := h
    generalize (StateT.run freshUid c).1 = uid
    -- the uid is set, then the namespace of the key, then the resource version
    have hbase : (Meta.of (setMeta (obj.erase "status") "uid" (.str uid))).get? "uid" =
        some (.str uid) :=
      meta_get?_setMeta_self (by rwa [Json.get?_erase_of_ne _ (by decide)]) _ _
    have hplaced : (Meta.of (if k.namespaced then setMeta (setMeta (obj.erase "status") "uid" (.str uid))
        "namespace" (.str (keyOf k obj).ns) else setMeta (obj.erase "status") "uid" (.str uid))).get? "uid" =
        some (.str uid) := by
      split
      · rw [meta_get?_setMeta _ _ (by decide), hbase]
      · exact hbase
    simp [Meta.uid?, Json.strOpt, meta_get?_bumpVersion _ (show "uid" ≠ "resourceVersion" by decide),
      hplaced, Json.str?]
  · obtain ⟨e, he⟩ := checkFailure_error hfail
    simp only [create, exceptState_run_bind, reach_run hon, he] at h
    cases h

theorem createOrUpdate_uid {c c' : Cluster} (hc : Healthy c) {k : ResourceKind} {d v : Json}
    (hd : Sendable k d) (hprev : ∀ found, c.find? (keyOf k d) = some found → (Meta.uid? found).isSome)
    (h : (createOrUpdate k d).run.run c = (.ok v, c')) : (Meta.uid? v).isSome := by
  cases hfound : c.find? (keyOf k d) with
  | none =>
    unfold createOrUpdate at h
    rw [exceptState_run_bind, get_run hc.online] at h
    rw [show keyFor k (Meta.namespace? d) (Meta.nameAny d) = keyOf k d from rfl, hfound] at h
    exact create_uid hd.metadata h
  | some found =>
    -- a replacement keeps the stored uid
    obtain ⟨v', c'', hrun, -, -, -, hwritten⟩ := createOrUpdate_written hc hd
    rw [hrun, Prod.mk.injEq, Except.ok.injEq] at h
    obtain ⟨rfl, -⟩ := h
    have huid := (hwritten.inherits found hfound).2
    simpa only [Meta.uid?, Json.strOpt, huid] using hprev found hfound

theorem syncDriver_owned (ctx : BuildContext)
    (hctx : ctx.owner.get? "kind" ≠ some (.str "ClusterRole")) {c c' : Cluster} (hc : Healthy c)
    (huid : ∀ v, c.find? (keyOf .clusterRole (Build.dummyClusterRole ctx)) = some v →
      (Meta.uid? v).isSome)
    (h : (syncDriver ctx).run.run c = (.ok (), c')) :
    ∃ role, c'.find? (keyOf .clusterRole (Build.dummyClusterRole ctx)) = some role ∧
      (Meta.uid? role).isSome ∧
      ∀ key, c'.find? key ≠ c.find? key → ∀ v, c'.find? key = some v → OwnedByRole role v := by
  unfold syncDriver at h
  obtain ⟨role, c₁, hrun₁, hc₁, hobjs₁, hcarries, -⟩ :=
    createOrUpdate_written hc (sendable_dummyClusterRole ctx)
  have hrole : (Meta.uid? role).isSome :=
    createOrUpdate_uid hc (sendable_dummyClusterRole ctx) huid hrun₁
  rw [exceptState_run_bind, hrun₁] at h
  dsimp only at h
  -- after the placeholder role, the convergence stays within that role's footprint
  have hrest : Confined (roleFootprint (keyOf .clusterRole (Build.dummyClusterRole ctx)) role) c₁ c' := by
    have confined : ∀ m : ClusterM Unit,
        Stays (Confined (roleFootprint (keyOf .clusterRole (Build.dummyClusterRole ctx)) role)) m →
        m.run.run c₁ = (.ok (), c') →
        Confined (roleFootprint (keyOf .clusterRole (Build.dummyClusterRole ctx)) role) c₁ c' :=
      fun m hm hrun => by
        have := hm c₁
        rwa [hrun] at this
    refine confined _ ?_ h
    refine (ensureRbac_owned ctx role hctx).bind fun _ => (ensureCsiDriver_owned
      (by rw [kind_keyOf]; decide) (ownedByRole_of_owners (ownerReferences_csiDriver ..)
        (refersTo_dummyOwner role))).bind fun _ =>
      (projectedCerts_stays ctx).of_eq.bind fun projected =>
        (ensureController_owned ctx role hctx _).bind fun _ => ?_
    cases hd : Build.daemonSet ctx (Build.nodeVolumes ctx projected) with
    | error e => exact Stays.bind_gives (Stays.throw _) (Gives.throw e) fun _ h => h.elim
    | ok d =>
      refine Stays.bind_gives (Stays.pure _) (Gives.pure d) fun _ h => h ▸ ?_
      exact (createOrUpdate_owned (keyOf_ne_of_kind (by decide) _ _) (ownedByRole_of_kinds
        (by simpa [ownerReferences_daemonSet ctx hd] using hctx))).bind
        fun _ => ensureClasses_owned ctx role _
  obtain ⟨-, within⟩ := hrest hc₁.wellKeyed
  have hfind₁ := find?_of_put hobjs₁
  -- the footprint never allows the placeholder role's own key
  have hkept : c'.find? (keyOf .clusterRole (Build.dummyClusterRole ctx)) =
      c₁.find? (keyOf .clusterRole (Build.dummyClusterRole ctx)) := by
    by_contra hne
    rcases (within.changed _ hne).1 with h | h <;> exact h rfl
  refine ⟨role, by rw [hkept, hfind₁, if_pos rfl], hrole, fun key hkey v hv => ?_⟩
  by_cases hlater : c'.find? key = c₁.find? key
  · -- changed by the first step only: the placeholder role itself, which has no owners
    rw [hlater, hfind₁] at hv hkey
    split at hv
    · cases hv
      have howners : Meta.ownerReferences role = [] := by
        rw [← ownerReferences_dummyClusterRole ctx]
        simp only [Meta.ownerReferences, hcarries.2 "ownerReferences" (by decide) (by decide)]
      exact ownedByRole_of_kinds (by simp [howners])
    · rw [if_neg ‹_›] at hkey
      exact absurd rfl hkey
  · exact (within.changed key hlater).2 v hv

/-! ## Bindings and pod accounts -/

/-- The components whose bindings a convergence writes: the controller, and the node plugin when
it has an account of its own. -/
def boundComponents (ctx : BuildContext) : List String :=
  "controller" :: if ctx.createNodeServiceAccount then ["node"] else []

/-- A binding whose role reference names a stored cluster role and whose subjects are service
accounts stored in namespace `ns`. -/
structure BindingResolves (c : Cluster) (ns : String) (b : Json) : Prop where
  role : ∃ n, b.getPath? ["roleRef", "kind"] = some (.str "ClusterRole") ∧
    b.getPath? ["roleRef", "name"] = some (.str n) ∧ (c.find? (keyFor .clusterRole none n)).isSome
  subjects : ∀ s ∈ b.arrD "subjects", ∃ n, s.get? "kind" = some (.str "ServiceAccount") ∧
    s.get? "name" = some (.str n) ∧ s.get? "namespace" = some (.str ns) ∧
    (c.find? (keyFor .serviceAccount (some ns) n)).isSome

/-- The service account a workload's pods run as. -/
def podAccount (w : Json) : Option Json := (podTemplate w).bind (·.get? "serviceAccountName")

section References

variable {ctx : BuildContext} {c : Cluster}

theorem BindingResolves.of_carries {owner b : Json} {component : String}
    (hb : Carries b (Build.clusterRoleBinding ctx component owner))
    (hrole : (c.find? (keyFor .clusterRole none (ctx.rbacName component))).isSome)
    (haccount : (c.find? (keyFor .serviceAccount (some ctx.ns)
      (ctx.family.name ++ "-" ++ component))).isSome) :
    BindingResolves c ctx.ns b := by
  have hroleRef := hb.1 "roleRef" (by decide) (by decide)
  have hsubjects := hb.1 "subjects" (by decide) (by decide)
  refine ⟨⟨ctx.rbacName component, ?_, ?_, hrole⟩, fun s hs => ?_⟩
  · simp only [Json.getPath?, hroleRef]
    simp [Build.clusterRoleBinding, Build.header, Json.get?]
  · simp only [Json.getPath?, hroleRef]
    simp [Build.clusterRoleBinding, Build.header, Json.get?]
  · rw [Json.arrD, hsubjects] at hs
    simp [Build.clusterRoleBinding, Build.header, Json.get?, Json.items?] at hs
    subst hs
    exact ⟨_, by simp [Json.get?], by simp [Json.get?], by simp [Json.get?], haccount⟩

theorem keyOf_serviceAccount (ctx : BuildContext) (name : String) :
    keyOf .serviceAccount (Build.serviceAccount ctx name) = keyFor .serviceAccount (some ctx.ns) name := by
  simp only [keyOf, namespace_serviceAccount]
  simp [Meta.nameAny, Meta.name?, Build.serviceAccount, meta_header_only, Json.strOpt, Json.get?,
    Json.str?]

theorem RbacSettled.bindings_resolve {owner : Json} (hs : RbacSettled ctx owner c) :
    ∀ component ∈ boundComponents ctx, ∃ b,
      c.find? (keyFor .clusterRoleBinding none (ctx.rbacName component)) = some b ∧
        BindingResolves c ctx.ns b := by
  have haccount : ∀ name, (c.find? (keyOf .serviceAccount (Build.serviceAccount ctx name))).isSome →
      (c.find? (keyFor .serviceAccount (some ctx.ns) name)).isSome := fun name h => by
    rwa [keyOf_serviceAccount] at h
  intro component hcomponent
  simp only [boundComponents, List.mem_cons] at hcomponent
  rcases hcomponent with rfl | hnode
  · -- the controller's binding, role and account
    obtain ⟨b, hb, hcarries⟩ := hs.controllerBinding
    obtain ⟨r, hr, -⟩ := hs.controllerRole
    rw [keyOf_clusterRoleBinding] at hb
    rw [Build.controllerClusterRole, keyOf_clusterRole] at hr
    refine ⟨b, hb, BindingResolves.of_carries hcarries (by rw [hr]; rfl) ?_⟩
    have := haccount _ hs.controllerAccount
    rwa [DriverKind.controllerName, show "-controller" = "-" ++ "controller" from rfl,
      ← String.append_assoc] at this
  · -- the node plugin's, when it has an account of its own
    split at hnode
    · next hcreate =>
      simp only [List.mem_singleton] at hnode
      subst hnode
      obtain ⟨b, hb, hcarries⟩ := hs.nodeBinding hcreate
      obtain ⟨r, hr, -⟩ := hs.nodeRole hcreate
      rw [keyOf_clusterRoleBinding] at hb
      rw [Build.nodeClusterRole, keyOf_clusterRole] at hr
      refine ⟨b, hb, BindingResolves.of_carries hcarries (by rw [hr]; rfl) ?_⟩
      have := haccount _ (hs.nodeAccount hcreate)
      rwa [DriverKind.daemonSetName, show "-node" = "-" ++ "node" from rfl,
        ← String.append_assoc] at this
    · simp at hnode

theorem podAccount_of_carries {v d : Json} (h : Carries v d) : podAccount v = podAccount d := by
  simp only [podAccount, podTemplate, Json.getPath?, h.1 "spec" (by decide) (by decide)]

theorem keyOf_ownedMeta (ctx : BuildContext) (k : ResourceKind) (name : String)
    (rest : List (String × Json)) :
    keyOf k (.obj (Build.header k (Build.ownedMeta ctx name) ++ rest)) = keyFor k (some ctx.ns) name := by
  simp only [keyOf, namespace_ownedMeta]
  simp [Meta.nameAny, Meta.name?, Build.ownedMeta, meta_header, Json.strOpt, Json.get?, Json.str?]

theorem podAccount_controller (ctx : BuildContext) (volumes : List Json) :
    podAccount (Build.statefulSet ctx volumes) = some (.str ctx.family.controllerName) ∧
      podAccount (Build.deployment ctx volumes) = some (.str ctx.family.controllerName) := by
  constructor <;>
    simp [podAccount, podTemplate, Build.statefulSet, Build.deployment, Json.getPath?, Json.get?,
      Build.header, Build.template, Build.controllerPodSpec, Json.fields, Option.any_map]

theorem daemonSet_account {ctx : BuildContext} {volumes : List Json} {ds : Json}
    (h : Build.daemonSet ctx volumes = .ok ds) :
    keyOf .daemonSet ds = keyFor .daemonSet (some ctx.ns) ctx.family.daemonSetName ∧
      podAccount ds = some (.str (if ctx.createNodeServiceAccount then ctx.family.daemonSetName
        else "default")) := by
  unfold Build.daemonSet at h
  simp only [bind, Except.bind, pure, Except.pure] at h
  split at h <;> (split at h <;> [cases h; (cases h; refine ⟨keyOf_ownedMeta .., ?_⟩)]) <;>
    simp [podAccount, podTemplate, Json.getPath?, Json.get?, Build.header, Build.template, Json.fields,
      Option.any_map]

theorem ControllerSettled.account {volumes : List Json} (hs : ControllerSettled ctx volumes c) :
    ∃ w, c.find? (keyFor (if ctx.config.controllerHA then .deployment else .statefulSet) (some ctx.ns)
      ctx.family.controllerName) = some w ∧ podAccount w = some (.str ctx.family.controllerName) := by
  cases hha : ctx.config.controllerHA
  · obtain ⟨w, hw, hcarries⟩ := hs.statefulSet hha
    rw [Build.statefulSet, keyOf_ownedMeta] at hw
    exact ⟨w, hw, (podAccount_of_carries hcarries).trans (podAccount_controller ctx volumes).1⟩
  · obtain ⟨w, hw, hcarries⟩ := hs.deployment hha
    rw [Build.deployment, keyOf_ownedMeta] at hw
    exact ⟨w, hw, (podAccount_of_carries hcarries).trans (podAccount_controller ctx volumes).2⟩

end References

theorem controllerName_ne_default (k : DriverKind) : k.controllerName ≠ "default" := by
  cases k <;> decide

theorem daemonSetName_ne_default (k : DriverKind) : k.daemonSetName ≠ "default" := by
  cases k <;> decide

theorem nodeAccount_default (ctx : BuildContext) :
    ((if ctx.createNodeServiceAccount then ctx.family.daemonSetName else "default") = "default" ↔
      ctx.isLimitedNodeRbac = true ∧ ctx.isOpenshift = false) ∧
    ((if ctx.createNodeServiceAccount then ctx.family.daemonSetName else "default") ≠ "default" →
      ctx.createNodeServiceAccount = true) := by
  have hname := daemonSetName_ne_default ctx.family
  unfold BuildContext.createNodeServiceAccount
  cases ctx.isLimitedNodeRbac <;> cases ctx.isOpenshift <;> simp [hname]

/-- Referential integrity of a converged installation. After a convergence of a driver resource
that succeeds in a store that answers, each binding it writes refers to a stored cluster role and
to service accounts stored in the installation's namespace. The controller's pods run as a
stored account of that namespace, never `default`. The node plugin's pods run as a stored account
of that namespace, or as `default` exactly when node access is limited outside OpenShift. Every
object the convergence changes names the stored placeholder role, by name and uid, as its only
cluster-role owner, when a placeholder role stored before carried a uid. -/
theorem syncDriver_references_resolve (r : DriverResource) (config : ResolvedConfig)
    (openshift : Bool) {c c' : Cluster} (hc : Healthy c)
    (huid : ∀ v, c.find? (keyOf .clusterRole
      (Build.dummyClusterRole (BuildContext.ofResource r config openshift))) = some v →
      (Meta.uid? v).isSome)
    (h : (syncDriver (BuildContext.ofResource r config openshift)).run.run c = (.ok (), c')) :
    let ctx := BuildContext.ofResource r config openshift
    (∀ component ∈ boundComponents ctx, ∃ b,
      c'.find? (keyFor .clusterRoleBinding none (ctx.rbacName component)) = some b ∧
        BindingResolves c' ctx.ns b) ∧
    (∃ w n, c'.find? (keyFor (if ctx.config.controllerHA then .deployment else .statefulSet)
        (some ctx.ns) ctx.family.controllerName) = some w ∧
      podAccount w = some (.str n) ∧ n ≠ "default" ∧
      (c'.find? (keyFor .serviceAccount (some ctx.ns) n)).isSome) ∧
    (∃ ds n, c'.find? (keyFor .daemonSet (some ctx.ns) ctx.family.daemonSetName) = some ds ∧
      podAccount ds = some (.str n) ∧
      (n = "default" ↔ ctx.isLimitedNodeRbac = true ∧ ctx.isOpenshift = false) ∧
      (n ≠ "default" → (c'.find? (keyFor .serviceAccount (some ctx.ns) n)).isSome)) ∧
    ∃ role u, c'.find? (keyOf .clusterRole (Build.dummyClusterRole ctx)) = some role ∧
      Meta.uid? role = some u ∧
      ∀ key, c'.find? key ≠ c.find? key → ∀ v, c'.find? key = some v → OwnedByRole role v := by
  intro ctx
  obtain ⟨owner, projected, hs⟩ := syncDriver_settles hc h
  refine ⟨hs.rbac.bindings_resolve, ?_, ?_, ?_⟩
  · -- the controller workload runs as the controller's account
    obtain ⟨w, hw, hpod⟩ := hs.controller.account
    refine ⟨w, _, hw, hpod, controllerName_ne_default _, ?_⟩
    rw [← keyOf_serviceAccount]
    exact hs.rbac.controllerAccount
  · -- the node plugin runs as its own account when it has one
    obtain ⟨ds, hds, v, hv, hcarries⟩ := hs.daemonSet
    obtain ⟨hkey, hpod⟩ := daemonSet_account hds
    rw [hkey] at hv
    obtain ⟨hdefault, hown⟩ := nodeAccount_default ctx
    refine ⟨v, _, hv, (podAccount_of_carries hcarries).trans hpod, hdefault, fun hne => ?_⟩
    have hcreate := hown hne
    rw [if_pos hcreate, ← keyOf_serviceAccount]
    exact hs.rbac.nodeAccount hcreate
  · -- the owners, from the footprint of the placeholder role
    obtain ⟨role, hrole, hroleUid, howned⟩ := syncDriver_owned ctx (kind_resourceOwner r) hc huid h
    obtain ⟨u, hu⟩ := Option.isSome_iff_exists.1 hroleUid
    exact ⟨role, u, hrole, hu, howned⟩

/-- A PowerMax resource in namespace `storage` with one storage class. -/
def storagePowerMax : DriverResource :=
  { family := .powerMax
    metadata := .obj [("name", .str "powermax"), ("namespace", .str "storage"), ("uid", .str "uid-pm")]
    spec := { configVersion := "v4", replicas := 1, storageClass := [{ name := "bronze" }] } }

/-- The configuration it is converged with. -/
def storagePowerMaxConfig : ResolvedConfig :=
  { configVersion := "v4", driverVersion := "powermax_v4_v120", kubeVersion := "v120" }

theorem storagePowerMax_references_resolve :
    let r := storagePowerMax
    let config := storagePowerMaxConfig
    let ctx := BuildContext.ofResource r config false
    let c' := ((syncDriver ctx).run.run {}).2
    Healthy {} ∧
      (∀ v, ({} : Cluster).find? (keyOf .clusterRole (Build.dummyClusterRole ctx)) = some v →
        (Meta.uid? v).isSome) ∧
      (syncDriver ctx).run.run {} = (.ok (), c') ∧
      (∀ component ∈ boundComponents ctx, ∃ b,
        c'.find? (keyFor .clusterRoleBinding none (ctx.rbacName component)) = some b ∧
          BindingResolves c' ctx.ns b) ∧
      (∃ w n, c'.find? (keyFor (if ctx.config.controllerHA then .deployment else .statefulSet)
          (some ctx.ns) ctx.family.controllerName) = some w ∧
        podAccount w = some (.str n) ∧ n ≠ "default" ∧
        (c'.find? (keyFor .serviceAccount (some ctx.ns) n)).isSome) ∧
      (∃ ds n, c'.find? (keyFor .daemonSet (some ctx.ns) ctx.family.daemonSetName) = some ds ∧
        podAccount ds = some (.str n) ∧
        (n = "default" ↔ ctx.isLimitedNodeRbac = true ∧ ctx.isOpenshift = false) ∧
        (n ≠ "default" → (c'.find? (keyFor .serviceAccount (some ctx.ns) n)).isSome)) ∧
      ∃ role u, c'.find? (keyOf .clusterRole (Build.dummyClusterRole ctx)) = some role ∧
        Meta.uid? role = some u ∧
        ∀ key, c'.find? key ≠ ({} : Cluster).find? key → ∀ v, c'.find? key = some v →
          OwnedByRole role v := by
  intro r config ctx c'
  have hc : Healthy ({} : Cluster) := ⟨⟨List.Pairwise.nil, fun _ h => by cases h⟩, rfl, rfl⟩
  have huid : ∀ v, ({} : Cluster).find? (keyOf .clusterRole (Build.dummyClusterRole ctx)) = some v →
      (Meta.uid? v).isSome := fun _ h => by cases h
  have hrun : (syncDriver ctx).run.run {} = (.ok (), c') := by
    have hok : ((syncDriver ctx).run.run {}).1 = .ok () := by decide +kernel
    exact Prod.ext hok rfl
  exact ⟨hc, huid, hrun, syncDriver_references_resolve r config false hc huid hrun⟩

end Sync

end CsiOperator
