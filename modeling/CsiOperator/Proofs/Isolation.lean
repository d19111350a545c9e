import Mathlib
import CsiOperator.Proofs.Footprint
import CsiOperator.Proofs.Convergence
/-!
What converging one driver installation may touch, and where two installations meet.

Converging an installation writes every namespaced object in its own namespace, and the
cluster-scoped objects its naming rules give: the placeholder role `{name}-{namespace}-dummy`,
the component roles and bindings (`{namespace}-{name}-{component}` with a custom driver name,
`{name}-{component}` without), and the declared classes `{name}-{class}`. It also takes over
the CSIDriver of its family when that is missing or owned by something other than a cluster
role, and deletes the classes of its driver that its placeholder role owns and it no longer
declares (`footprint`, `syncDriver_confined`).

So two installations in different namespaces that register under different driver names meet
only where their naming rules give the same cluster-scoped name, or where the later one
declares a class that the earlier one had found as its own. The rules do collide: instances
of the same name in two namespaces declare the same class names.
-/

namespace CsiOperator

namespace Sync

open Cluster

/-! ## The footprint of a convergence -/

/-- Where the CSIDriver of an installation's family is stored: it is named by the family's
default driver name, whatever name the driver registers under. -/
def csiDriverKey (ctx : BuildContext) : Key := keyFor .csiDriver none ctx.family.defaultDriverName

/-- Whether an object has an owner that is not a cluster role; a CSIDriver owned so is taken
over by the next installation that converges. -/
def ownedOutsideRbac (obj : Json) : Bool :=
  (Meta.ownerReferences obj).any (·.strD "apiVersion" != Build.rbacApiVersion)

/-- The driver a class is made for: the provisioner of a storage class, the driver of a
snapshot class. Other kinds are no classes. -/
def classDriver : ResourceKind → Json → Option String
  | .storageClass, obj => some (obj.strD "provisioner")
  | .volumeSnapshotClass, obj => some (obj.strD "driver")
  | _, _ => none

/-- The cluster-scoped objects an installation names: its placeholder role, the roles and
bindings of its controller and, when it has its own account, of its node plugin, and the
classes its spec declares. -/
def clusterNames (ctx : BuildContext) : List (ResourceKind × String) :=
  let roles : List (ResourceKind × String) :=
    [(.clusterRole, ctx.dummyClusterRoleName), (.clusterRole, ctx.rbacName "controller"),
      (.clusterRoleBinding, ctx.rbacName "controller")]
  let node : List (ResourceKind × String) := if ctx.createNodeServiceAccount then
    [(.clusterRole, ctx.rbacName "node"), (.clusterRoleBinding, ctx.rbacName "node")] else []
  let classes : List (ResourceKind × String) :=
    ctx.driver.storageClass.map (fun sc => (.storageClass, ctx.name ++ "-" ++ sc.name))
  let snapshotClasses : List (ResourceKind × String) :=
    ctx.driver.snapshotClass.map (fun vc => (.volumeSnapshotClass, ctx.name ++ "-" ++ vc.name))
  roles ++ node ++ classes ++ snapshotClasses

/-- What converging an installation may touch. It names every namespaced object in its
namespace and the cluster-scoped objects of `clusterNames`; it takes the CSIDriver of its
family when that is missing or owned outside cluster roles, and any class of its driver that
its placeholder role owns. It leaves the CSIDriver it touches owned by cluster roles only, and
every class it touches deleted or made for its driver. -/
def footprint (ctx : BuildContext) : Footprint where
  names key := (key.kind.namespaced = true ∧ key.ns = ctx.ns) ∨
    (key.ns = "" ∧ (key.kind, key.name) ∈ clusterNames ctx)
  takes key v := (key = csiDriverKey ctx ∧ ∀ obj, v = some obj → ownedOutsideRbac obj = true) ∨
    (key.ns = "" ∧ ∃ obj, v = some obj ∧ classDriver key.kind obj = some ctx.driverName ∧
      ownedBy obj ctx.dummyClusterRoleName = true)
  leaves key v := (key.kind = .csiDriver → ∃ obj, v = some obj ∧ ownedOutsideRbac obj = false) ∧
    ∀ obj, v = some obj → ∀ d, classDriver key.kind obj = some d → d = ctx.driverName

variable {ctx : BuildContext}

theorem classDriver_isClass {k : ResourceKind} {obj : Json} {d : String}
    (h : classDriver k obj = some d) : k = .storageClass ∨ k = .volumeSnapshotClass := by
  unfold classDriver at h
  split at h
  · exact .inl rfl
  · exact .inr rfl
  · cases h

theorem classDriver_of_sent (k : ResourceKind) {v obj : Json} (h : Sent v obj) :
    classDriver k v = classDriver k obj := by
  have provisioner : v.strD "provisioner" = obj.strD "provisioner" := by
    simp only [Json.strD, h.1 "provisioner" (by decide) (by decide)]
  have driver : v.strD "driver" = obj.strD "driver" := by
    simp only [Json.strD, h.1 "driver" (by decide) (by decide)]
  cases k <;> simp only [classDriver, provisioner, driver]

theorem footprint_leaves_plain {key : Key} (hk : key.kind ∉ [.csiDriver, .storageClass,
    .volumeSnapshotClass]) (v : Option Json) : (footprint ctx).leaves key v := by
  refine ⟨fun h => absurd (h ▸ List.mem_cons_self) hk, fun obj _ d hd => ?_⟩
  rcases classDriver_isClass hd with h | h <;> simp [h] at hk

theorem footprint_leaves_none {key : Key} (hk : key.kind ≠ .csiDriver) :
    (footprint ctx).leaves key none :=
  ⟨fun h => absurd h hk, fun _ h => by cases h⟩

theorem footprint_leaves_class {key : Key} {v obj : Json} (hsent : Sent v obj)
    (hk : key.kind ≠ .csiDriver)
    (hobj : ∀ d, classDriver key.kind obj = some d → d = ctx.driverName) :
    (footprint ctx).leaves key (some v) := by
  refine ⟨fun h => absurd h hk, fun w hw d hd => hobj d ?_⟩
  cases hw
  rwa [classDriver_of_sent _ hsent] at hd

/-! ## The objects an installation builds -/

theorem meta_header (k : ResourceKind) (md rest : List (String × Json)) :
    Meta.of (.obj (Build.header k md ++ rest)) = .obj md := by
  simp [Meta.of, Build.header, Json.get?]

theorem meta_header_only (k : ResourceKind) (md : List (String × Json)) :
    Meta.of (.obj (Build.header k md)) = .obj md := by
  simpa using meta_header k md []

theorem keyOf_dummyClusterRole (ctx : BuildContext) :
    keyOf .clusterRole (Build.dummyClusterRole ctx) =
      keyFor .clusterRole none ctx.dummyClusterRoleName := by
  simp only [keyOf, keyFor, Build.dummyClusterRole, Meta.namespace?, Meta.nameAny, Meta.name?,
    meta_header_only]
  simp [Json.strOpt, Json.get?, Json.str?, ResourceKind.namespaced]

theorem keyOf_clusterRole (ctx : BuildContext) (component : String) (rules : List Json)
    (dummy : Json) :
    keyOf .clusterRole (Build.clusterRole ctx component rules dummy) =
      keyFor .clusterRole none (ctx.rbacName component) := by
  simp only [keyOf, keyFor, Build.clusterRole, Meta.namespace?, Meta.nameAny, Meta.name?,
    meta_header]
  simp [Json.strOpt, Json.get?, Json.str?, ResourceKind.namespaced]

theorem keyOf_clusterRoleBinding (ctx : BuildContext) (component : String) (dummy : Json) :
    keyOf .clusterRoleBinding (Build.clusterRoleBinding ctx component dummy) =
      keyFor .clusterRoleBinding none (ctx.rbacName component) := by
  simp only [keyOf, keyFor, Build.clusterRoleBinding, Meta.namespace?, Meta.nameAny, Meta.name?,
    meta_header]
  simp [Json.strOpt, Json.get?, Json.str?, ResourceKind.namespaced]

theorem keyOf_csiDriver (ctx : BuildContext) (dummy : Json) :
    keyOf .csiDriver (Build.csiDriver ctx dummy) = csiDriverKey ctx := by
  simp only [keyOf, keyFor, csiDriverKey, Build.csiDriver, Meta.namespace?, Meta.nameAny,
    Meta.name?, meta_header]
  simp [Json.strOpt, Json.get?, Json.str?, ResourceKind.namespaced]

theorem ownedOutsideRbac_csiDriver (ctx : BuildContext) (role : Json) :
    ownedOutsideRbac (Build.csiDriver ctx (Build.dummyOwner role)) = false := by
  simp only [ownedOutsideRbac, Meta.ownerReferences, Build.csiDriver, meta_header]
  simp [Json.get?, Json.items?, Build.dummyOwner, Build.ownerRef, Json.strD, Json.str?]

theorem namespace_serviceAccount (ctx : BuildContext) (name : String) :
    Meta.namespace? (Build.serviceAccount ctx name) = some ctx.ns := by
  simp only [Meta.namespace?, Build.serviceAccount, meta_header_only]
  simp [Json.strOpt, Json.get?, Json.str?]

theorem namespace_ownedMeta (ctx : BuildContext) (k : ResourceKind) (name : String)
    (rest : List (String × Json)) :
    Meta.namespace? (.obj (Build.header k (Build.ownedMeta ctx name) ++ rest)) = some ctx.ns := by
  simp only [Meta.namespace?, meta_header, Build.ownedMeta]
  simp [Json.strOpt, Json.get?, Json.str?]

theorem namespace_daemonSet {ctx : BuildContext} {volumes : List Json} {d : Json}
    (h : Build.daemonSet ctx volumes = .ok d) : Meta.namespace? d = some ctx.ns := by
  unfold Build.daemonSet at h
  simp only [bind, Except.bind, pure, Except.pure] at h
  -- whichever DNS policy applies, a refused one fails and an accepted one builds the object
  split at h <;> (split at h <;> [cases h; (cases h; exact namespace_ownedMeta ..)])

theorem storageClasses_named (ctx : BuildContext) (owner : Json) :
    ∀ d ∈ Build.storageClasses ctx owner, ∃ sc ∈ ctx.driver.storageClass,
      keyOf .storageClass d = keyFor .storageClass none (ctx.name ++ "-" ++ sc.name) ∧
        d.strD "provisioner" = ctx.driverName := by
  intro d hd
  simp only [Build.storageClasses, List.mem_map] at hd
  obtain ⟨sc, hsc, rfl⟩ := hd
  refine ⟨sc, hsc, ?_, ?_⟩
  · -- the name sits after the default-class annotation, when there is one
    simp only [keyOf, keyFor, Meta.namespace?, Meta.nameAny, Meta.name?, Meta.of, Json.fields,
      Build.header, List.map_cons, List.map_nil, List.cons_append, List.nil_append,
      List.filterMap_cons, Option.map_some]
    by_cases h : sc.isDefault <;> simp [h, Json.get?, Json.strOpt, Json.str?, ResourceKind.namespaced]
  · rw [Json.strD, Json.get?_fields (o := some (.str ctx.driverName))]
    · rfl
    · simp only [Build.header, List.map_cons, List.map_nil, List.cons_append, List.nil_append]
      decide
    · simp

theorem snapshotClasses_named (ctx : BuildContext) (owner : Json) :
    ∀ d ∈ Build.snapshotClasses ctx owner, ∃ vc ∈ ctx.driver.snapshotClass,
      keyOf .volumeSnapshotClass d = keyFor .volumeSnapshotClass none (ctx.name ++ "-" ++ vc.name) ∧
        d.strD "driver" = ctx.driverName := by
  intro d hd
  simp only [Build.snapshotClasses, List.mem_map] at hd
  obtain ⟨vc, hvc, rfl⟩ := hd
  refine ⟨vc, hvc, ?_, ?_⟩
  · simp only [keyOf, keyFor, Meta.namespace?, Meta.nameAny, Meta.name?, Meta.of, Json.fields,
      Build.header, List.map_cons, List.map_nil, List.cons_append, List.nil_append,
      List.filterMap_cons, Option.map_some]
    simp [Json.get?, Json.strOpt, Json.str?, ResourceKind.namespaced]
  · rw [Json.strD, Json.get?_fields (o := some (.str ctx.driverName))]
    · rfl
    · simp only [Build.header, List.map_cons, List.map_nil, List.cons_append, List.nil_append]
      decide
    · simp

/-! ## Each step of a convergence -/

section Steps

variable {F : Footprint}

theorem withVersionOf_meta (desired found : Json) :
    Meta.SameNames (Meta.of (withVersionOf desired found)) (Meta.of desired) ∧
      Sent (withVersionOf desired found) desired := by
  have hof : ∀ md, Meta.of (desired.set "metadata" md) = md := fun md => by
    rw [Meta.of, Json.get?_set_self, Option.getD_some]
  refine ⟨fun key hkey => ?_, fun f _ hm => Json.get?_set_of_ne _ _ (Ne.symm hm), ?_⟩
  · have hne : "resourceVersion" ≠ key := by
      simp only [List.mem_cons, List.not_mem_nil, or_false] at hkey
      rcases hkey with rfl | rfl | rfl <;> decide
    simp only [withVersionOf, Meta.modify, Meta.setOf, hof, Json.strOpt]
    split
    · rw [Json.get?_set_of_ne _ _ hne]
    · rw [Json.get?_erase_of_ne _ hne]
  · simp only [withVersionOf, Meta.modify, Meta.setOf, hof]
    split
    · rw [Json.get?_set_of_ne _ _ (by decide)]
    · rw [Json.get?_erase_of_ne _ (by decide)]

theorem createOrUpdate_confined {k : ResourceKind} {desired : Json}
    (hnames : F.names (keyOf k desired))
    (hleaves : ∀ v, Sent v desired → F.leaves (keyOf k desired) (some v)) :
    Stays (Confined F) (createOrUpdate k desired) := by
  unfold createOrUpdate
  refine (get_stays _ _ _).of_eq.bind fun found => ?_
  cases found with
  | none => exact Confined.of_extends fun c => create_extends (Or.inl hnames) hleaves c
  | some found =>
    obtain ⟨hnames', hsent⟩ := withVersionOf_meta desired found
    have hkey := keyOf_of_sameNames k hnames'
    refine Confined.of_extends fun c => update_extends (hkey ▸ Or.inl hnames) (fun v hv => ?_) c
    exact hkey ▸ hleaves v (hv.trans hsent)

theorem createOrUpdate_gives (k : ResourceKind) (desired : Json) :
    Gives (fun v => keyOf k v = keyOf k desired) (createOrUpdate k desired) := by
  intro c _ v c' hrun
  unfold createOrUpdate at hrun
  rw [exceptState_run_bind] at hrun
  cases hon : c.online
  · simp only [Cluster.get, exceptState_run_bind, reach_error hon] at hrun
    cases hrun
  · rw [get_run hon] at hrun
    dsimp only at hrun
    split at hrun
    · exact (create_ok hrun).2.2.1
    · obtain ⟨-, -, -, -, -, -, hnames⟩ := update_ok hrun
      exact (keyOf_of_sameNames k hnames).trans
        (keyOf_of_sameNames k (withVersionOf_meta desired _).1)

theorem ensureServiceAccount_confined {sa : Json} (hnames : F.names (keyOf .serviceAccount sa))
    (hleaves : ∀ v, F.leaves (keyOf .serviceAccount sa) (some v)) :
    Stays (Confined F) (ensureServiceAccount sa) := by
  unfold ensureServiceAccount
  refine (get_stays _ _ _).of_eq.bind fun found => Stays.ite ?_ (Stays.pure _)
  exact (Confined.of_extends fun c => create_extends (Or.inl hnames) (fun v _ => hleaves v) c).bind
    fun _ => Stays.pure _

theorem sameNames_setField (obj : Json) {field : String} (v : Json)
    (h : field ∉ ["name", "generateName", "namespace"]) :
    Meta.SameNames (Meta.of (Meta.setField obj field v)) (Meta.of obj) := by
  intro key hkey
  have hne : field ≠ key := fun heq => h (heq ▸ hkey)
  rw [Meta.setField, Meta.modify, Meta.setOf, Meta.of, Json.get?_set_self, Option.getD_some]
  simp only [Json.strOpt, Json.get?_set_of_ne _ _ hne]

theorem ownedOutsideRbac_of_sent {v obj : Json} (h : Sent v obj) :
    ownedOutsideRbac v = ownedOutsideRbac obj := by
  simp only [ownedOutsideRbac, Meta.ownerReferences, h.2]

theorem ownedOutsideRbac_setOwners (found desired : Json) :
    ownedOutsideRbac (Meta.setField found "ownerReferences"
      (((Meta.of desired).get? "ownerReferences").getD (.arr []))) = ownedOutsideRbac desired := by
  have hof : Meta.of (Meta.setField found "ownerReferences"
      (((Meta.of desired).get? "ownerReferences").getD (.arr []))) =
      (Meta.of found).set "ownerReferences"
        (((Meta.of desired).get? "ownerReferences").getD (.arr [])) := by
    rw [Meta.setField, Meta.modify, Meta.setOf, Meta.of, Json.get?_set_self, Option.getD_some]
  simp only [ownedOutsideRbac, Meta.ownerReferences, hof, Json.get?_set_self, Option.bind_some]
  cases (Meta.of desired).get? "ownerReferences" <;> rfl

theorem ensureCsiDriver_confined {desired : Json} (hkey : keyOf .csiDriver desired = csiDriverKey ctx)
    (howners : ownedOutsideRbac desired = false) :
    Stays (Confined (footprint ctx)) (ensureCsiDriver desired) := by
  refine Confined.of_extends fun c => ?_
  by_cases hc : c.WellKeyed
  swap
  · exact fun _ h => absurd h hc
  unfold ensureCsiDriver
  rw [exceptState_run_bind]
  cases hon : c.online
  · simp only [Cluster.get, exceptState_run_bind, reach_error hon]
    exact id
  rw [get_run hon]
  dsimp only
  rw [show keyFor .csiDriver none (Meta.nameAny desired) = csiDriverKey ctx from hkey]
  cases hfound : c.find? (csiDriverKey ctx) with
  | none =>
    -- a missing CSIDriver is created
    have hallows : (footprint ctx).Allows c (keyOf .csiDriver desired) :=
      .inr (.inl ⟨hkey, fun _ h => by rw [hkey, hfound] at h; cases h⟩)
    have hleaves : ∀ v, Sent v desired → (footprint ctx).leaves (keyOf .csiDriver desired) (some v) :=
      fun v hv => ⟨fun _ => ⟨v, rfl, (ownedOutsideRbac_of_sent hv).trans howners⟩,
        fun _ _ d hd => by rw [hkey] at hd; cases hd⟩
    exact Stays.bind (create_extends hallows hleaves) (fun _ => Stays.pure _) c
  | some found =>
    dsimp only
    split
    · -- a CSIDriver owned outside cluster roles takes the desired owners
      next stale =>
      have hplaced : keyOf .csiDriver found = csiDriverKey ctx :=
        hc.keyed _ (hc.find?_eq_some.1 hfound)
      have hsame : keyOf .csiDriver (Meta.setField found "ownerReferences"
          (((Meta.of desired).get? "ownerReferences").getD (.arr []))) = csiDriverKey ctx :=
        (keyOf_of_sameNames _ (sameNames_setField _ _ (by decide))).trans hplaced
      have hallows : (footprint ctx).Allows c (keyOf .csiDriver (Meta.setField found
          "ownerReferences" (((Meta.of desired).get? "ownerReferences").getD (.arr [])))) :=
        .inr (.inl ⟨hsame, fun obj h => by
          rw [hsame, hfound] at h
          cases h
          exact stale⟩)
      refine Stays.tryCatch (Stays.bind (update_extends hallows fun v hv => ?_)
        fun _ => Stays.pure _) (fun _ => Stays.pure _) c
      refine ⟨fun _ => ⟨v, rfl, ?_⟩, fun _ _ d hd => by rw [hsame] at hd; cases hd⟩
      rw [ownedOutsideRbac_of_sent hv, ownedOutsideRbac_setOwners, howners]
    · exact Std.Refl.refl _

theorem refreshPods_confined {template : Json} {pods : List Json}
    (hpods : ∀ pod ∈ pods, (keyOf .pod pod).ns = ctx.ns) :
    Stays (Confined (footprint ctx)) (refreshPods template pods) := by
  unfold refreshPods
  refine Stays.forM fun pod hpod => Stays.ite ?_ (Stays.pure _)
  refine Stays.tryCatch (Confined.of_extends fun c => delete_extends ?_ ?_ c) fun _ => Stays.pure _
  · exact .inl (.inl ⟨rfl, hpods pod hpod⟩)
  · exact footprint_leaves_none fun h => by cases h

theorem attempt_get_gives (k : ResourceKind) (ns : Option String) (name : String) :
    Gives (fun r => ∀ obj, r = .ok (some obj) → keyOf k obj = keyFor k ns name)
      (Observe.attempt (Cluster.get k ns name)) := by
  intro c hc r c' hrun obj hobj
  rw [Observe.attempt_run] at hrun
  cases hon : c.online
  · simp only [Cluster.get, exceptState_run_bind, reach_error hon] at hrun
    cases hrun
    cases hobj
  · rw [get_run hon] at hrun
    cases hrun
    injection hobj with hobj
    exact hc.keyed _ (hc.find?_eq_some.1 hobj)

theorem footprint_namespaced {k : ResourceKind} (hk : k.namespaced = true) {obj : Json}
    (hns : Meta.namespace? obj = some ctx.ns) :
    (footprint ctx).names (keyOf k obj) ∧ ∀ v, (footprint ctx).leaves (keyOf k obj) v := by
  refine ⟨.inl ⟨hk, by simp [keyOf, keyFor, hk, hns]⟩, footprint_leaves_plain ?_⟩
  intro hmem
  simp only [List.mem_cons, List.not_mem_nil, or_false] at hmem
  rcases hmem with h | h | h <;> rw [show (keyOf k obj).kind = k from rfl] at h <;> subst h <;>
    cases hk

theorem ensureStatefulSet_confined {desired : Json} (hns : Meta.namespace? desired = some ctx.ns) :
    Stays (Confined (footprint ctx)) (ensureStatefulSet desired) := by
  obtain ⟨hnames, hleaves⟩ := footprint_namespaced (k := .statefulSet) rfl hns
  unfold ensureStatefulSet
  refine (get_stays _ _ _).of_eq.bind fun live => ?_
  cases live with
  | none =>
    exact (Confined.of_extends fun c => create_extends (.inl hnames) (fun v _ => hleaves _) c).bind
      fun _ => Stays.pure _
  | some live =>
    have hkey := keyOf_of_sameNames .statefulSet (withVersionOf_meta desired live).1
    refine (Confined.of_extends fun c => update_extends (hkey ▸ .inl hnames)
      (fun v _ => hkey ▸ hleaves _) c).bind fun _ => (get_stays _ _ _).of_eq.bind fun found => ?_
    split
    · split
      · exact Stays.pure _
      · -- the pods are looked up by name in the namespace of the StatefulSet
        refine Stays.bind_gives (Stays.filterMapM fun i _ => ?_)
          (Gives.filterMapM (P := fun pod => (keyOf .pod pod).ns = ctx.ns) fun i _ => ⟨?_, ?_⟩)
          fun pods hpods => refreshPods_confined hpods
        · exact ((attempt_stays (R := Eq) (get_stays _ _ _)).bind fun _ => Stays.pure _).of_eq
        · exact (attempt_stays (R := Eq) (get_stays _ _ _)).bind fun _ => Stays.pure _
        · intro c hc o c' hrun pod hpod
          rw [exceptState_run_bind] at hrun
          rcases hlookup : (Observe.attempt (Cluster.get .pod (Meta.namespace? desired)
            (Meta.nameAny desired ++ "-" ++ toString i))).run.run c with ⟨_ | r, c₁⟩
          · rw [hlookup] at hrun
            cases hrun
          · rw [hlookup] at hrun
            cases hrun
            cases r with
            | ok found =>
              have hkey := attempt_get_gives _ _ _ c hc _ _ hlookup pod (by rw [← hpod])
              simp [hkey, keyFor, hns, ResourceKind.namespaced]
            | error => cases hpod
    · exact Stays.throw _

theorem ensureDeployment_confined {desired : Json} (hns : Meta.namespace? desired = some ctx.ns) :
    Stays (Confined (footprint ctx)) (ensureDeployment desired) := by
  obtain ⟨hnames, hleaves⟩ := footprint_namespaced (k := .deployment) rfl hns
  unfold ensureDeployment
  refine (get_stays _ _ _).of_eq.bind fun live => ?_
  cases live with
  | none =>
    exact (Confined.of_extends fun c => create_extends (.inl hnames) (fun v _ => hleaves _) c).bind
      fun _ => Stays.pure _
  | some live =>
    have hkey := keyOf_of_sameNames .deployment (withVersionOf_meta desired live).1
    refine (Confined.of_extends fun c => update_extends (hkey ▸ .inl hnames)
      (fun v _ => hkey ▸ hleaves _) c).bind fun _ => (get_stays _ _ _).of_eq.bind fun found => ?_
    split
    · split
      · exact Stays.pure _
      · -- the pods are listed in the namespace of the Deployment
        rw [hns]
        exact Stays.bind_gives (list_stays _ _ _).of_eq (list_gives .pod rfl ctx.ns _)
          fun pods hpods => refreshPods_confined hpods
    · exact Stays.throw _

theorem list_stored {c c' : Cluster} (hc : c.WellKeyed) {k : ResourceKind} {objs : List Json}
    (h : (Cluster.list k none []).run.run c = (.ok objs, c')) :
    c' = c ∧ ∀ obj ∈ objs, c.find? (keyOf k obj) = some obj := by
  cases hon : c.online
  · simp only [Cluster.list, exceptState_run_bind, reach_error hon] at h
    cases h
  · simp only [Cluster.list, exceptState_run_bind, reach_run hon, exceptState_run_get,
      exceptState_run_pure] at h
    cases h
    refine ⟨rfl, fun obj hobj => ?_⟩
    obtain ⟨p, hp, rfl⟩ := List.mem_map.1 hobj
    obtain ⟨hkind, -⟩ : p.1.kind = k ∧ _ := by simpa using (List.mem_filter.1 hp).2
    have hkey := hc.keyed p (List.mem_of_mem_filter hp)
    rw [hkind] at hkey
    rw [hkey]
    exact hc.find?_eq_some.2 (List.mem_of_mem_filter hp)

theorem ensureClassSet_confined {k : ResourceKind} (hclass : k = .storageClass ∨ k = .volumeSnapshotClass)
    {desired : List Json}
    {dummyName : String} {sameDriver : Json → Bool}
    (hdesired : ∀ d ∈ desired, (footprint ctx).names (keyOf k d) ∧
      ∀ v, Sent v d → (footprint ctx).leaves (keyOf k d) (some v))
    (hsame : ∀ obj, sameDriver obj = true → classDriver k obj = some ctx.driverName)
    (hdummy : dummyName = ctx.dummyClusterRoleName) :
    Stays (Confined (footprint ctx)) (ensureClassSet k desired dummyName sameDriver) := by
  have hk : k.namespaced = false := by rcases hclass with rfl | rfl <;> rfl
  refine Confined.of_extends fun c => ?_
  by_cases hc : c.WellKeyed
  swap
  · exact fun _ h => absurd h hc
  unfold ensureClassSet
  rw [exceptState_run_bind, Observe.attempt_run]
  rcases hlist : (Cluster.list k none []).run.run c with ⟨r, c₁⟩
  have hc₁ : c₁ = c := by
    have same := list_stays k none [] c
    rw [hlist] at same
    exact same.symm
  subst hc₁
  dsimp only
  refine Stays.bind (R := Extends (footprint ctx) c₁)
    (Stays.mono (Stays.filterMapM fun d hd => ?_) fun _ _ h => Extends.of_confined h)
    (fun errors => Stays.bind (Stays.forM fun name hname => ?_) fun _ => Stays.pure _) c₁
  · -- each declared class is created or replaced
    refine (attempt_stays (createOrUpdate_confined (hdesired d hd).1 (hdesired d hd).2)).bind
      fun result => ?_
    cases result <;> exact Stays.pure _
  · -- each stale class is a class of the driver, owned by the placeholder role, stored there
    refine Stays.tryCatch (delete_extends ?_ (footprint_leaves_none ?_)) fun _ => Stays.pure _
    · cases r with
      | error => cases hname
      | ok objs =>
        obtain ⟨-, hstored⟩ := list_stored hc hlist
        simp only [List.mem_filter, List.mem_map, Bool.and_eq_true] at hname
        obtain ⟨⟨obj, ⟨hobj, hdriver, hown⟩, rfl⟩, -⟩ := hname
        have hkey : keyFor k none (Meta.nameAny obj) = keyOf k obj := by
          simp [keyOf, keyFor, hk]
        rw [hkey]
        refine .inr (.inr ⟨by simp [keyOf, keyFor, hk], obj, hstored obj hobj, hsame obj hdriver,
          hdummy ▸ hown⟩)
    · rcases hclass with rfl | rfl <;> exact fun h => by cases h

end Steps

/-! ## A whole convergence -/

theorem createOrUpdate_named_confined {k : ResourceKind} {name : String}
    (hname : (k, name) ∈ clusterNames ctx) (hk : k.namespaced = false)
    (hplain : k ∉ [.csiDriver, .storageClass, .volumeSnapshotClass]) {obj : Json}
    (hkey : keyOf k obj = keyFor k none name) :
    Stays (Confined (footprint ctx)) (createOrUpdate k obj) := by
  refine createOrUpdate_confined ?_ fun v _ => footprint_leaves_plain (by rwa [hkey]) _
  exact .inr ⟨by simp [hkey, keyFor, hk], by rw [hkey]; exact hname⟩

theorem ensureRbac_confined (ctx : BuildContext) (owner : Json) :
    Stays (Confined (footprint ctx)) (ensureRbac ctx owner) := by
  unfold ensureRbac
  have account : ∀ name, Stays (Confined (footprint ctx))
      (ensureServiceAccount (Build.serviceAccount ctx name)) := fun name =>
    ensureServiceAccount_confined
      (footprint_namespaced (k := .serviceAccount) rfl (namespace_serviceAccount ctx name)).1
      fun v => (footprint_namespaced (k := .serviceAccount) rfl
        (namespace_serviceAccount ctx name)).2 (some v)
  refine (createOrUpdate_named_confined (by simp [clusterNames]) rfl (by decide)
    (keyOf_clusterRole ..)).bind fun _ => (account _).bind fun _ => ?_
  refine (createOrUpdate_named_confined (by simp [clusterNames]) rfl (by decide)
    (keyOf_clusterRoleBinding ..)).bind fun _ => ?_
  split
  · -- the node plugin's account, role and binding, when it has an account of its own
    next hnode =>
    refine (account _).bind fun _ => ?_
    refine (createOrUpdate_named_confined (by simp [clusterNames, hnode]) rfl (by decide)
      (keyOf_clusterRole ..)).bind fun _ => ?_
    exact (createOrUpdate_named_confined (by simp [clusterNames, hnode]) rfl (by decide)
      (keyOf_clusterRoleBinding ..)).bind fun _ => Stays.pure _
  · exact Stays.pure _

theorem ensureController_confined (ctx : BuildContext) (volumes : List Json) :
    Stays (Confined (footprint ctx)) (ensureController ctx volumes) := by
  unfold ensureController
  refine Stays.ite ?_ (ensureStatefulSet_confined (namespace_ownedMeta ..))
  refine (ensureDeployment_confined (namespace_ownedMeta ..)).bind fun _ =>
    (attempt_stays (R := Eq) (get_stays _ _ _)).of_eq.bind fun _ => ?_
  split
  · refine Stays.tryCatch (Confined.of_extends fun c => delete_extends ?_ ?_ c) fun _ => Stays.pure _
    · exact .inl (.inl ⟨rfl, by simp [keyFor, ResourceKind.namespaced]⟩)
    · exact footprint_leaves_none fun h => by cases h
  · exact Stays.pure _

theorem ensureClasses_confined (ctx : BuildContext) (owner : Json) {dummyName : String}
    (hdummyName : dummyName = ctx.dummyClusterRoleName) :
    Stays (Confined (footprint ctx)) (ensureClasses ctx owner dummyName) := by
  unfold ensureClasses
  have storage := storageClasses_named ctx owner
  have snapshot := snapshotClasses_named ctx owner
  refine (ensureClassSet_confined (.inl rfl) (fun c hc => ?_) (fun obj h => ?_) hdummyName).bind
    fun _ => ?_
  · obtain ⟨sc, hsc, hkey, hprov⟩ := storage c hc
    refine ⟨.inr ⟨by rw [hkey]; rfl, ?_⟩, fun v hv => footprint_leaves_class hv
      (by rw [hkey]; exact fun h => by cases h) fun d hd => ?_⟩
    · rw [hkey]
      simp only [clusterNames, List.mem_append, List.mem_map]
      exact .inl (.inr ⟨sc, hsc, rfl⟩)
    · rw [hkey] at hd
      simp only [keyFor, classDriver, Option.some.injEq] at hd
      rw [← hd, hprov]
  · simpa [classDriver] using h
  refine (ensureClassSet_confined (.inr rfl) (fun c hc => ?_) (fun obj h => ?_) hdummyName).bind
    fun _ => Stays.ite (Stays.throw _) (Stays.pure _)
  · obtain ⟨vc, hvc, hkey, hdriver⟩ := snapshot c hc
    refine ⟨.inr ⟨by rw [hkey]; rfl, ?_⟩, fun v hv => footprint_leaves_class hv
      (by rw [hkey]; exact fun h => by cases h) fun d hd => ?_⟩
    · rw [hkey]
      simp only [clusterNames, List.mem_append, List.mem_map]
      exact .inr ⟨vc, hvc, rfl⟩
    · rw [hkey] at hd
      simp only [keyFor, classDriver, Option.some.injEq] at hd
      rw [← hd, hdriver]
  · simpa [classDriver] using h

theorem syncDriver_confined (ctx : BuildContext) :
    Stays (Confined (footprint ctx)) (syncDriver ctx) := by
  unfold syncDriver
  refine Stays.bind_gives (createOrUpdate_named_confined (by simp [clusterNames]) rfl (by decide)
    (keyOf_dummyClusterRole ctx)) (createOrUpdate_gives _ _) fun dummy hdummy => ?_
  have hdummyName : Meta.nameAny dummy = ctx.dummyClusterRoleName :=
    congrArg Key.name (hdummy.trans (keyOf_dummyClusterRole ctx))
  dsimp only
  refine (ensureRbac_confined ctx _).bind fun _ =>
    (ensureCsiDriver_confined (keyOf_csiDriver ..) (ownedOutsideRbac_csiDriver ..)).bind fun _ =>
      (projectedCerts_stays ctx).of_eq.bind fun projected =>
        (ensureController_confined ctx _).bind fun _ => ?_
  -- the DaemonSet, when its DNS policy is accepted, is built in the installation's namespace
  cases hd : Build.daemonSet ctx (Build.nodeVolumes ctx projected) with
  | error e => exact Stays.bind_gives (Stays.throw _) (Gives.throw e) fun _ h => h.elim
  | ok d =>
    refine Stays.bind_gives (Stays.pure _) (Gives.pure d) fun _ h => h ▸ ?_
    exact (createOrUpdate_confined (footprint_namespaced rfl (namespace_daemonSet hd)).1
      fun v _ => (footprint_namespaced rfl (namespace_daemonSet hd)).2 _).bind
        fun _ => ensureClasses_confined ctx _ hdummyName

/-! ## Where two installations meet -/

/-- A key a step from `c` to `c'` touches: the object under it changed, or, for a
cluster-scoped kind, a write to its name was logged. The log records kinds and names only, so
for a namespaced kind it cannot tell one namespace from another; there the changed objects
tell. -/
def Touches (c c' : Cluster) (key : Key) : Prop :=
  c'.find? key ≠ c.find? key ∨
    (key.kind.namespaced = false ∧ key.ns = "" ∧
      ∃ w ∈ c'.writes.drop c.writes.length, w.kind = key.kind ∧ w.name = key.name)

/-- Where the second of two installations converged one after the other meets the first: a
cluster-scoped object its naming rules give, which the first one's rules give as well or which
the first found, before it converged, as a class of its driver owned by its placeholder role. -/
def Shared (ctx₁ ctx₂ : BuildContext) (c₀ : Cluster) (key : Key) : Prop :=
  key.ns = "" ∧ (key.kind, key.name) ∈ clusterNames ctx₂ ∧
    ((key.kind, key.name) ∈ clusterNames ctx₁ ∨
      ∃ obj, c₀.find? key = some obj ∧ classDriver key.kind obj = some ctx₁.driverName ∧
        ownedBy obj ctx₁.dummyClusterRoleName = true)

theorem clusterNames_kind {ctx : BuildContext} {k : ResourceKind} {name : String}
    (h : (k, name) ∈ clusterNames ctx) : k.namespaced = false ∧ k ≠ .csiDriver := by
  have hk : k = .clusterRole ∨ k = .clusterRoleBinding ∨ k = .storageClass ∨
      k = .volumeSnapshotClass := by
    simp only [clusterNames, List.mem_append, List.mem_map, Prod.mk.injEq] at h
    rcases h with ((hroles | hnode) | ⟨_, -, rfl, -⟩) | ⟨_, -, rfl, -⟩
    · simp only [List.mem_cons, Prod.mk.injEq, List.not_mem_nil, or_false] at hroles
      rcases hroles with ⟨rfl, -⟩ | ⟨rfl, -⟩ | ⟨rfl, -⟩ <;> simp
    · split at hnode
      · simp only [List.mem_cons, Prod.mk.injEq, List.not_mem_nil, or_false] at hnode
        rcases hnode with ⟨rfl, -⟩ | ⟨rfl, -⟩ <;> simp
      · cases hnode
    · simp
    · simp
  rcases hk with rfl | rfl | rfl | rfl <;> decide

theorem classDriver_kind {k : ResourceKind} {obj : Json} {d : String}
    (h : classDriver k obj = some d) : k.namespaced = false ∧ k ≠ .csiDriver := by
  rcases classDriver_isClass h with rfl | rfl <;> decide

theorem allows_namespaced {ctx : BuildContext} {c : Cluster} {key : Key}
    (h : (footprint ctx).Allows c key) (hk : key.kind.namespaced = true) : key.ns = ctx.ns := by
  rcases h with (⟨-, hns⟩ | ⟨-, hmem⟩) | (⟨rfl, -⟩ | ⟨-, obj, -, hdriver, -⟩)
  · exact hns
  · exact absurd hk (by simp [(clusterNames_kind hmem).1])
  · exact absurd hk (by simp [csiDriverKey, keyFor, ResourceKind.namespaced])
  · exact absurd hk (by simp [(classDriver_kind hdriver).1])

theorem allows_clusterScoped {ctx : BuildContext} {c : Cluster} {key : Key}
    (h : (footprint ctx).Allows c key) (hk : key.kind.namespaced = false) : key.ns = "" := by
  rcases h with (⟨hns, -⟩ | ⟨hempty, -⟩) | (⟨rfl, -⟩ | ⟨hempty, -⟩)
  · simp [hk] at hns
  · exact hempty
  · rfl
  · exact hempty

theorem not_takes_left {ctx₁ ctx₂ : BuildContext} (hdriver : ctx₁.driverName ≠ ctx₂.driverName)
    {key : Key} {v : Option Json} (hleft : (footprint ctx₁).leaves key v) :
    ¬(footprint ctx₂).takes key v := by
  rintro (⟨rfl, hstale⟩ | ⟨-, obj, rfl, hclass, -⟩)
  · obtain ⟨obj, rfl, hrbac⟩ := hleft.1 rfl
    rw [hstale obj rfl] at hrbac
    cases hrbac
  · exact hdriver (hleft.2 obj rfl _ hclass).symm

theorem shared_of_allows {ctx₁ ctx₂ : BuildContext} (hns : ctx₁.ns ≠ ctx₂.ns)
    (hdriver : ctx₁.driverName ≠ ctx₂.driverName) {c₀ c₁ : Cluster} {key : Key}
    (h₁ : (footprint ctx₁).Allows c₀ key) (hleft : (footprint ctx₁).leaves key (c₁.find? key))
    (h₂ : (footprint ctx₂).Allows c₁ key) : Shared ctx₁ ctx₂ c₀ key := by
  -- the second installation cannot take what the first left, so it names the key
  have named₂ : (footprint ctx₂).names key := h₂.resolve_right (not_takes_left hdriver hleft)
  rcases named₂ with ⟨hk, hns₂⟩ | ⟨hempty, hmem₂⟩
  · exact absurd ((allows_namespaced h₁ hk).symm.trans hns₂) hns
  · refine ⟨hempty, hmem₂, ?_⟩
    obtain ⟨hk, hcsi⟩ := clusterNames_kind hmem₂
    rcases h₁ with (⟨hk₁, -⟩ | ⟨-, hmem₁⟩) | (⟨rfl, -⟩ | ⟨-, hclass⟩)
    · simp [hk] at hk₁
    · exact .inl hmem₁
    · exact absurd rfl hcsi
    · exact .inr hclass

theorem touches_within {ctx : BuildContext} {c c' : Cluster} (h : Within (footprint ctx) c c')
    {key : Key} (ht : Touches c c' key) :
    (footprint ctx).Allows c key ∧ (footprint ctx).leaves key (c'.find? key) := by
  rcases ht with hchanged | ⟨hk, hempty, w, hw, hkind, hname⟩
  · exact h.changed key hchanged
  · obtain ⟨ws, hws, hlog⟩ := h.logged
    rw [hws, List.drop_left] at hw
    obtain ⟨written, hkind', hname', hallows, hleaves⟩ := hlog w hw
    -- a logged write of a cluster-scoped kind names its key exactly
    have hsame : written = key := by
      have hns := allows_clusterScoped hallows (by rw [← hkind', hkind, hk])
      cases written
      cases key
      simp_all
    exact hsame ▸ ⟨hallows, hleaves⟩

/-- Two driver installations in different namespaces that register different drivers,
converged one after the other from any well-keyed store, touch a common key only where it is
`Shared`: a cluster-scoped role, binding or class the second one's naming rules give, which the
first one's rules give too or which the first found as a class of its own driver owned by its
placeholder role. No namespaced object and no CSIDriver is touched by both. -/
theorem installations_meet_by_name {ctx₁ ctx₂ : BuildContext} (hns : ctx₁.ns ≠ ctx₂.ns)
    (hdriver : ctx₁.driverName ≠ ctx₂.driverName) {c₀ : Cluster} (hc₀ : c₀.WellKeyed)
    (key : Key) (h₁ : Touches c₀ ((syncDriver ctx₁).run.run c₀).2 key)
    (h₂ : Touches ((syncDriver ctx₁).run.run c₀).2
      ((syncDriver ctx₂).run.run ((syncDriver ctx₁).run.run c₀).2).2 key) :
    Shared ctx₁ ctx₂ c₀ key := by
  obtain ⟨hc₁, within₁⟩ := syncDriver_confined ctx₁ c₀ hc₀
  obtain ⟨-, within₂⟩ := syncDriver_confined ctx₂ _ hc₁
  obtain ⟨hallows₁, hleft⟩ := touches_within within₁ h₁
  exact shared_of_allows hns hdriver hallows₁ hleft (touches_within within₂ h₂).1

/-! ## Two installations of one name -/

/-- A PowerMax installation named `powermax` in a namespace, with a custom driver name and one
storage class `bronze`, at configuration version `v4`. -/
def powerMaxAt (ns driver : String) : BuildContext :=
  BuildContext.ofResource
    { family := .powerMax
      metadata := .obj [("name", .str "powermax"), ("namespace", .str ns)]
      spec :=
        { configVersion := "v4"
          replicas := 1
          controller := { envs := [EnvVar.plain "X_CSI_POWERMAX_DRIVER_NAME" driver] }
          storageClass := [{ name := "bronze" }] }
      status := none }
    { configVersion := "v4", driverVersion := "powermax_v4_v120", kubeVersion := "v120" } false

/-- Two installations of one name in two namespaces, with different custom driver names, both
write the storage class `powermax-bronze`: the first creates it for its driver, and the second
rewrites it for its own. -/
theorem same_name_installations_share_class :
    let first := powerMaxAt "ns1" "a"
    let second := powerMaxAt "ns2" "b"
    let c₁ := ((syncDriver first).run.run {}).2
    let c₂ := ((syncDriver second).run.run c₁).2
    let bronze := keyFor .storageClass none "powermax-bronze"
    first.ns ≠ second.ns ∧ first.customDriverName ≠ second.customDriverName ∧
      first.config.configVersion ≠ "v1" ∧
      Write.of .create bronze ∈ c₁.writes ∧
      Write.of .update bronze ∈ c₂.writes.drop c₁.writes.length ∧
      (c₁.find? bronze).map (·.strD "provisioner") = some first.driverName ∧
      (c₂.find? bronze).map (·.strD "provisioner") = some second.driverName := by
  decide +kernel

/-- The two installations meet at `powermax-bronze`, a class both name. -/
theorem same_name_installations_meet_at_class :
    let first := powerMaxAt "ns1" "a"
    let second := powerMaxAt "ns2" "b"
    let c₁ := ((syncDriver first).run.run {}).2
    let c₂ := ((syncDriver second).run.run c₁).2
    let bronze := keyFor .storageClass none "powermax-bronze"
    first.ns ≠ second.ns ∧ first.driverName ≠ second.driverName ∧ ({} : Cluster).WellKeyed ∧
      Touches {} c₁ bronze ∧ Touches c₁ c₂ bronze ∧ Shared first second {} bronze := by
  intro first second c₁ c₂ bronze
  have hns : first.ns ≠ second.ns := by decide
  have hdriver : first.driverName ≠ second.driverName := by decide +kernel
  have hc₀ : ({} : Cluster).WellKeyed := ⟨List.Pairwise.nil, fun _ h => by cases h⟩
  have h₁ : Touches {} c₁ bronze := .inr ⟨rfl, rfl, by decide +kernel⟩
  have h₂ : Touches c₁ c₂ bronze := .inr ⟨rfl, rfl, by decide +kernel⟩
  exact ⟨hns, hdriver, hc₀, h₁, h₂, installations_meet_by_name hns hdriver hc₀ bronze h₁ h₂⟩

end Sync

end CsiOperator
