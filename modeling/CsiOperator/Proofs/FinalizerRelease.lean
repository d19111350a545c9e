import Mathlib
import CsiOperator.Proofs.MetadataReread
import CsiOperator.Proofs.ReconcileFrame
/-!
Releasing a driver resource whose deletion was requested.

The finalizer is what keeps the garbage collection of a driver's cluster-scoped objects
possible: they are owned by a placeholder ClusterRole named after the resource, and the
resource may only go once that role is gone. A reconcile of a resource being deleted first
deletes the role (converging the installation once more when the role is missing and the
configuration is usable, so that its objects point at a fresh role), and only then sends the
resource back without the finalizer.

Both steps can fail. A failure before the resource is sent back leaves it stored as it was; the
resource sent back is always stored as a document its reader takes, since its metadata was read
once already and reads again (`Kube.objectMeta_rereads`), so the reconcile never fails after the
finalizer is gone. A release that answers has removed the finalizer and only it, keeping the
others in their order and the status as it was; it noted no status, and the placeholder role is
gone. When the role was already gone and the configuration is invalid or does not resolve,
nothing but the resource was written (`deletion_releases_finalizer_safely`).
-/

namespace CsiOperator

@[simp] theorem Json.strList_strs (fs : List String) : Json.strList (Json.strs fs) = fs := by
  simp [Json.strList, Json.strs, Json.items?, Json.str?, List.filterMap_map, Function.comp_def]

namespace Reconcile

open Controller

@[simp] theorem withFinalizers_family (r : DriverResource) (fs : List String) :
    (withFinalizers r fs).family = r.family := rfl

/-- The key of the placeholder ClusterRole of a driver resource. -/
def placeholderKey (r : DriverResource) : Cluster.Key :=
  Cluster.keyFor .clusterRole none (Build.dummyClusterRoleName r.name (r.namespace?.getD ""))

theorem placeholderKey_ne {r : DriverResource} {key : Cluster.Key} (h : key.kind.isInput) :
    placeholderKey r ≠ key := by
  rintro rfl
  simp [placeholderKey, Cluster.keyFor, ResourceKind.isInput] at h

theorem finalizersOf_of_read {family : DriverKind} {j : Json} {r : DriverResource}
    (h : DriverResource.read family j = .ok r) : finalizersOf r = Meta.finalizers j :=
  Kube.finalizers_of_read (DriverResource.metadata_of_read h)

/-! ## Sending the resource back -/

section SentBack

variable {family : DriverKind} {j : Json} {r : DriverResource} (fs : List String)

theorem updated_withFinalizers_reads {c c' : Cluster} {v : Json}
    (hfound : c.find? (Cluster.keyOf (.driver family) r.toJson) = some j)
    (hread : DriverResource.read family j = .ok r)
    (h : (Cluster.update (.driver family) (withFinalizers r fs).toJson).run.run c = (.ok v, c')) :
    ∃ r', DriverResource.read family v = .ok r' := by
  have hfamily := DriverResource.family_of_read hread
  subst hfamily
  -- the metadata read once reads again, and setting the finalizers keeps it so
  obtain ⟨md, hmd⟩ := Kube.objectMeta_rereads _ _ (DriverResource.metadata_of_read hread)
  obtain ⟨md', hmd'⟩ := Kube.keepsMeta_finalizers fs _ _ hmd
  have sent := DriverResource.resourceDoc_of_metadata (r := withFinalizers r fs) hmd'
  obtain ⟨existing, hexisting, -, stored⟩ := sent.updated h
  rw [keyOf_withFinalizers, hfound, Option.some.injEq] at hexisting
  subst hexisting
  have readable := stored _ (DriverResource.metadata_of_read hread)
  -- the status kept is the one of the object read
  have status : (j.get? "status").elim True fun v => ∃ a, Reader.option DriverStatus.read v = .ok a := by
    cases hst : j.get? "status" with
    | none => trivial
    | some st => exact Reader.resource_status_reads (DriverResource.read_eq_resource r.family ▸ hread) hst
  obtain ⟨r', hr', -⟩ := DriverResource.readsBack_of_resourceDoc
    (DriverResource.spec_exact_of_read hread) readable status
  exact ⟨r', hr'⟩

theorem finalizers_updated {c c' : Cluster} {v : Json}
    (h : (Cluster.update (.driver family) (withFinalizers r fs).toJson).run.run c = (.ok v, c')) :
    Meta.finalizers v = fs := by
  obtain ⟨existing, -, -, rfl⟩ := Cluster.update_stores h
  unfold Meta.finalizers
  rw [Cluster.bumpVersion, Meta.get?_setMeta _ _ (by decide),
    Cluster.meta_get?_keepMeta_of_ne _ _ (by decide), Cluster.meta_get?_keepMeta_of_ne _ _ (by decide),
    Cluster.meta_keepStatus, Meta.of_toJson, withFinalizers, Json.get?_set_self]
  simp

variable {key : Cluster.Key} {s s' : Controller}

theorem updateDriver_withFinalizers_error (hfound : s.cluster.find? key = some j)
    (hread : DriverResource.read family j = .ok r)
    (hkey : Cluster.keyOf (.driver family) r.toJson = key) {e : OperatorError}
    (h : (updateDriver (withFinalizers r fs)).run.run s = (.error e, s')) : s' = s := by
  have hfamily := DriverResource.family_of_read hread
  subst hfamily
  unfold updateDriver at h
  rw [exceptState_run_bind, onCluster_run, withFinalizers_family] at h
  rcases hupdate : (Cluster.update (.driver r.family) (withFinalizers r fs).toJson).run.run s.cluster
    with ⟨_ | v, c'⟩ <;> rw [hupdate] at h
  · -- a refused update leaves the cluster as it was
    have unchanged := Cluster.update_atomic (.driver r.family) (withFinalizers r fs).toJson s.cluster
    simp only [Cluster.Atomic, hupdate] at unchanged
    subst unchanged
    exact (Prod.mk.inj h).2.symm
  · -- an update that was stored reads back, so the reconcile does not fail after it
    obtain ⟨r', hr'⟩ := updated_withFinalizers_reads fs (hkey ▸ hfound) hread hupdate
    simp only [readDriver_run hr'] at h
    cases (Prod.mk.inj h).1

theorem updateDriver_withFinalizers_ok (hfound : s.cluster.find? key = some j)
    (hread : DriverResource.read family j = .ok r)
    (hkey : Cluster.keyOf (.driver family) r.toJson = key) {r' : DriverResource}
    (h : (updateDriver (withFinalizers r fs)).run.run s = (.ok r', s')) :
    ∃ j', s'.cluster.find? key = some j' ∧ Meta.finalizers j' = fs ∧
      j'.get? "status" = j.get? "status" ∧ s'.statusWrites = s.statusWrites ∧
      Cluster.WritesOnly key s.cluster s'.cluster := by
  have hfamily := DriverResource.family_of_read hread
  subst hfamily
  have hsent : Cluster.keyOf (.driver r.family) (withFinalizers r fs).toJson = key :=
    (keyOf_withFinalizers _ r fs).trans hkey
  unfold updateDriver at h
  rw [exceptState_run_bind, onCluster_run, withFinalizers_family] at h
  rcases hupdate : (Cluster.update (.driver r.family) (withFinalizers r fs).toJson).run.run s.cluster
    with ⟨_ | v, c'⟩ <;> rw [hupdate] at h
  · cases (Prod.mk.inj h).1
  obtain ⟨r'', hr''⟩ := updated_withFinalizers_reads fs (hkey ▸ hfound) hread hupdate
  simp only [readDriver_run hr''] at h
  obtain ⟨-, rfl⟩ := h
  obtain ⟨existing, hexisting, hobjects, hv⟩ := Cluster.update_stores hupdate
  rw [hsent, hfound, Option.some.injEq] at hexisting
  subst hexisting
  have stored : c'.find? key = some v := by
    simp only [Cluster.find?_objects, hobjects, hsent, Cluster.find?_putObject, if_true]
  have writes := (Cluster.update_atomic (.driver r.family) (withFinalizers r fs).toJson s.cluster).writesOnly
    (.inl rfl)
  rw [hupdate, hsent] at writes
  -- the server keeps the status of the object it replaces
  have status : v.get? "status" = j.get? "status" := by
    rw [hv, Cluster.get?_bumpVersion _ (by decide), Cluster.get?_keepMeta _ _ _ (by decide),
      Cluster.get?_keepMeta _ _ _ (by decide), Cluster.get?_keepStatus_self]
  exact ⟨v, stored, finalizers_updated fs hupdate, status, rfl, writes⟩

end SentBack

/-! ## Removing the finalizer -/

section Drop

variable {family : DriverKind} {key : Cluster.Key} {j : Json} {r : DriverResource}
  {s s' : Controller}

theorem dropFinalizer_error (hfound : s.cluster.find? key = some j)
    (hread : DriverResource.read family j = .ok r)
    (hkey : Cluster.keyOf (.driver family) r.toJson = key) {e : OperatorError}
    (h : (dropFinalizer r).run.run s = (.error e, s')) : s' = s := by
  unfold dropFinalizer at h
  dsimp only at h
  split at h
  · rw [exceptState_run_bind] at h
    rcases hsent : (updateDriver (withFinalizers r ((finalizersOf r).filter (· != finalizer)))).run.run s
      with ⟨_ | r', s₁⟩ <;> rw [hsent] at h
    · obtain rfl := (Prod.mk.inj h).2
      exact updateDriver_withFinalizers_error _ hfound hread hkey hsent
    · cases (Prod.mk.inj h).1
  · cases (Prod.mk.inj h).1

theorem dropFinalizer_ok (hfound : s.cluster.find? key = some j)
    (hread : DriverResource.read family j = .ok r)
    (hkey : Cluster.keyOf (.driver family) r.toJson = key)
    (h : (dropFinalizer r).run.run s = (.ok (), s')) :
    ∃ j', s'.cluster.find? key = some j' ∧
      Meta.finalizers j' = (Meta.finalizers j).filter (· != finalizer) ∧
      j'.get? "status" = j.get? "status" ∧ s'.statusWrites = s.statusWrites ∧
      Cluster.WritesOnly key s.cluster s'.cluster := by
  rw [← finalizersOf_of_read hread]
  unfold dropFinalizer at h
  dsimp only at h
  split at h
  · rw [exceptState_run_bind] at h
    rcases hsent : (updateDriver (withFinalizers r ((finalizersOf r).filter (· != finalizer)))).run.run s
      with ⟨_ | r', s₁⟩ <;> rw [hsent] at h
    · cases (Prod.mk.inj h).1
    · obtain rfl := (Prod.mk.inj h).2
      exact updateDriver_withFinalizers_ok _ hfound hread hkey hsent
  · -- a resource without the finalizer is left as it is
    next absent =>
    obtain rfl := (Prod.mk.inj h).2
    refine ⟨j, hfound, ?_, rfl, rfl, Std.Refl.refl _⟩
    rw [← finalizersOf_of_read hread]
    refine (List.filter_eq_self.2 fun f hf => ?_).symm
    have : f ≠ finalizer := fun same => absent (List.contains_iff_mem.2 (same ▸ hf))
    simpa using this

end Drop

/-! ## Releasing the placeholder role -/

/-- A run that kept the operator's inputs, the failures the server is made to answer with and
whether it can be reached, and noted no status. -/
def KeptInputs (s s' : Controller) : Prop :=
  Cluster.KeepsInputs s.cluster s'.cluster ∧ s'.statusWrites = s.statusWrites

instance : Std.Refl KeptInputs := ⟨fun _ => ⟨Std.Refl.refl _, rfl⟩⟩

instance : IsTrans Controller KeptInputs :=
  ⟨fun _ _ _ h₁ h₂ => ⟨IsTrans.trans _ _ _ h₁.1 h₂.1, h₂.2.trans h₁.2⟩⟩

theorem onCluster_kept {α : Type} {m : ClusterM α} (h : Stays Cluster.KeepsInputs m) :
    Stays KeptInputs (onCluster m) := fun s => by
  rw [onCluster_run]
  exact ⟨h s.cluster, rfl⟩

theorem releaseRole_kept (setup : ReconcilerSetup) (r : DriverResource) :
    Stays KeptInputs (releaseRole setup r) := by
  have role : ¬ResourceKind.clusterRole.isInput := by simp [ResourceKind.isInput]
  unfold releaseRole
  refine (onCluster_kept (Cluster.get_stays _ _ _).of_eq).bind fun found => ?_
  split
  · exact onCluster_kept (Cluster.delete_keeps role _ _)
  · split
    · dsimp only
      split
      · exact (onCluster_kept (Sync.syncDriver_keeps _)).bind fun _ =>
          onCluster_kept (Cluster.delete_keeps role _ _)
      · exact Stays.pure _
    · exact Stays.pure _

theorem releaseRole_ok {setup : ReconcilerSetup} {r : DriverResource} {s s' : Controller}
    (h : (releaseRole setup r).run.run s = (.ok (), s')) :
    s'.cluster.find? (placeholderKey r) = none ∧
      (s.cluster.find? (placeholderKey r) = none →
        r.status.map (·.state) = some .invalidConfig ∨ (∃ e, resolveConfig setup r = .error e) →
          s' = s) := by
  unfold releaseRole at h
  rw [exceptState_run_bind, onCluster_run] at h
  by_cases hon : s.cluster.online = true
  swap
  · simp only [Cluster.get, exceptState_run_bind, Cluster.reach_error (by simpa using hon)] at h
    cases (Prod.mk.inj h).1
  rw [Cluster.get_run hon] at h
  dsimp only at h
  cases hfind : s.cluster.find? (placeholderKey r) with
  | some role =>
    -- the role found is deleted
    rw [show Cluster.keyFor .clusterRole none (Build.dummyClusterRoleName r.name (r.namespace?.getD "")) =
      placeholderKey r from rfl, hfind] at h
    dsimp only at h
    rw [onCluster_run] at h
    rcases hdel : (Cluster.delete .clusterRole none
      (Build.dummyClusterRoleName r.name (r.namespace?.getD ""))).run.run s.cluster with ⟨_ | u, c'⟩ <;>
      rw [hdel] at h
    · cases (Prod.mk.inj h).1
    · obtain rfl := (Prod.mk.inj h).2
      exact ⟨(Cluster.delete_ok hdel).2, fun absent => by simp at absent⟩
  | none =>
    rw [show Cluster.keyFor .clusterRole none (Build.dummyClusterRoleName r.name (r.namespace?.getD "")) =
      placeholderKey r from rfl, hfind] at h
    dsimp only at h
    split at h
    · next config hconfig =>
      split at h
      · next usable =>
        -- a usable configuration is converged once more, then the role it made is deleted
        refine ⟨?_, fun _ hcase => ?_⟩
        · rw [exceptState_run_bind, onCluster_run] at h
          rcases hsync : (Sync.syncDriver (BuildContext.ofResource r config
            setup.settings.isOpenshift)).run.run s.cluster with ⟨_ | u, c₁⟩ <;> rw [hsync] at h
          · cases (Prod.mk.inj h).1
          dsimp only at h
          rw [onCluster_run] at h
          rcases hdel : (Cluster.delete .clusterRole none
            (Build.dummyClusterRoleName r.name (r.namespace?.getD ""))).run.run c₁ with
            ⟨_ | u', c₂⟩ <;> rw [hdel] at h
          · cases (Prod.mk.inj h).1
          · obtain rfl := (Prod.mk.inj h).2
            exact (Cluster.delete_ok hdel).2
        · rcases hcase with hstate | ⟨e, he⟩
          · cases hst : r.status with
            | none => simp [hst] at hstate
            | some st =>
              simp only [hst, Option.map_some, Option.some.injEq] at hstate
              simp [hst, hstate] at usable
          · rw [hconfig] at he
            cases he
      · obtain rfl := (Prod.mk.inj h).2
        exact ⟨hfind, fun _ _ => rfl⟩
    · obtain rfl := (Prod.mk.inj h).2
      exact ⟨hfind, fun _ _ => rfl⟩

/-! ## A reconcile of a resource being deleted -/

theorem reconcile_of_deleting {setup : ReconcilerSetup} {family : DriverKind} {ns name : String}
    {s : Controller} {r : DriverResource}
    (hstored : Stored family (Cluster.keyFor (.driver family) (some ns) name) s.cluster r)
    (hdeleted : beingDeleted r = true) :
    (reconcile setup family ns name).run.run s =
      (finalize setup r).run.run { s with attempts := s.attempts + 1 } := by
  obtain ⟨j, hfound, hread⟩ := hstored.stored
  unfold reconcile
  simp only [exceptState_run_bind, begin_run]
  rw [getDriver_run (s := { s with attempts := s.attempts + 1 }) hstored.online hfound hread]
  simp only [hdeleted, if_true]

/-- What a release that answered leaves: the resource stored with every finalizer but the
driver's, in their order, and with the status it had; no status noted; no placeholder role; and,
where the role was already gone and the configuration is invalid or does not resolve, nothing
written but the resource. -/
structure Released (setup : ReconcilerSetup) (key : Cluster.Key) (j : Json) (r : DriverResource)
    (s s' : Controller) : Prop where
  stored : ∃ j', s'.cluster.find? key = some j' ∧
    Meta.finalizers j' = (Meta.finalizers j).filter (· != finalizer) ∧
    j'.get? "status" = j.get? "status"
  noStatus : s'.statusWrites = s.statusWrites
  roleGone : s'.cluster.find? (placeholderKey r) = none
  untouched : s.cluster.find? (placeholderKey r) = none →
    r.status.map (·.state) = some .invalidConfig ∨ (∃ e, resolveConfig setup r = .error e) →
      Cluster.WritesOnly key s.cluster s'.cluster

/-- Releasing a driver resource is safe. A reconcile of a stored resource whose deletion was
requested that fails leaves the resource stored as it was, its finalizers included; one that
answers has released it: the finalizer removed and only it, no status written, and the
placeholder role gone. -/
theorem deletion_releases_finalizer_safely {setup : ReconcilerSetup} {family : DriverKind}
    {ns name : String} {s : Controller} {j : Json} {r : DriverResource}
    (hc : s.cluster.WellKeyed)
    (hfound : s.cluster.find? (Cluster.keyFor (.driver family) (some ns) name) = some j)
    (hread : DriverResource.read family j = .ok r) (hdeleted : beingDeleted r = true) :
    (∀ e s', (reconcile setup family ns name).run.run s = (.error e, s') →
      s'.cluster.find? (Cluster.keyFor (.driver family) (some ns) name) = some j) ∧
    (∀ q s', (reconcile setup family ns name).run.run s = (.ok q, s') →
      Released setup (Cluster.keyFor (.driver family) (some ns) name) j r s s') := by
  have input : (Cluster.keyFor (.driver family) (some ns) name).kind.isInput := by
    simp [Cluster.keyFor, ResourceKind.isInput]
  have hkeyed : Cluster.keyOf (.driver family) r.toJson = Cluster.keyFor (.driver family) (some ns) name :=
    (DriverResource.keyOf_of_read hread _).trans (hc.namesKey _ j hfound)
  by_cases hon : s.cluster.online = true
  swap
  · -- a server that cannot be reached fails the first read
    obtain ⟨e, he⟩ := getDriver_offline family ns name (s := { s with attempts := s.attempts + 1 })
      (by simpa using hon)
    have hrun : (reconcile setup family ns name).run.run s =
        (.error e, { s with attempts := s.attempts + 1 }) := by
      unfold reconcile
      simp only [exceptState_run_bind, begin_run, he]
    refine ⟨fun e' s' h => ?_, fun q s' h => ?_⟩
    · rw [hrun] at h
      obtain rfl := (Prod.mk.inj h).2
      exact hfound
    · rw [hrun] at h
      cases (Prod.mk.inj h).1
  rw [reconcile_of_deleting ⟨hon, ⟨j, hfound, hread⟩, hkeyed⟩ hdeleted]
  unfold finalize
  rw [exceptState_run_bind]
  -- the placeholder role goes first; a failure there leaves the resource as it was
  have kept := releaseRole_kept setup r { s with attempts := s.attempts + 1 }
  rcases hrelease : (releaseRole setup r).run.run { s with attempts := s.attempts + 1 } with
    ⟨_ | ⟨⟩, s₂⟩ <;> rw [hrelease] at kept
  · refine ⟨fun e s' h => ?_, fun q s' h => by cases (Prod.mk.inj h).1⟩
    obtain rfl := (Prod.mk.inj h).2
    exact (kept.1.objects _ input).trans hfound
  have hfound₂ : s₂.cluster.find? (Cluster.keyFor (.driver family) (some ns) name) = some j :=
    (kept.1.objects _ input).trans hfound
  dsimp only
  rw [exceptState_run_bind]
  -- then the finalizer: a failure there too leaves the resource as it was
  rcases hdrop : (dropFinalizer r).run.run s₂ with ⟨_ | ⟨⟩, s₃⟩
  · refine ⟨fun e s' h => ?_, fun q s' h => by cases (Prod.mk.inj h).1⟩
    obtain rfl := (Prod.mk.inj h).2
    rw [dropFinalizer_error hfound₂ hread hkeyed hdrop]
    exact hfound₂
  obtain ⟨j', hj', hfinalizers, hstatus, hnoted, hwrites⟩ := dropFinalizer_ok hfound₂ hread hkeyed hdrop
  obtain ⟨hgone, huntouched⟩ := releaseRole_ok hrelease
  refine ⟨(fun e s' h => by cases (Prod.mk.inj h).1), fun q s' h => ?_⟩
  obtain rfl := (Prod.mk.inj h).2
  exact {
    stored := ⟨j', hj', hfinalizers, hstatus⟩
    noStatus := hnoted.trans kept.2
    roleGone := (hwrites.others _ (placeholderKey_ne input)).trans hgone
    untouched := fun absent hcase => by
      -- the release changed nothing, so the finalizer's removal is all that was written
      have unchanged := huntouched absent hcase
      subst unchanged
      exact hwrites }

end Reconcile

namespace Deleting

/-- The refused PowerStore instance once its deletion was requested, carrying a finalizer of
another controller after the driver's. -/
def driver : DriverResource :=
  { Refused.driver with
    metadata := .obj [("annotations", .obj [("storage.dell.com/CSIDriverConfigVersion", .str "v3")]),
      ("deletionTimestamp", .str "2023-11-14T22:13:20Z"),
      ("finalizers", .arr [.str "finalizer.dell.emc.com", .str "example.com/keep"]),
      ("name", .str "d"), ("namespace", .str "ns")] }

def start : Controller where
  cluster := { objects := [(Cluster.keyFor (.driver .powerStore) (some "ns") "d", driver.toJson)] }
  clock := .ofSeconds 1700000000

end Deleting

/-- The PowerStore instance being deleted, alone in its store, is released safely. -/
theorem deleting_powerStore_released_safely :
    Deleting.start.cluster.WellKeyed ∧
    Deleting.start.cluster.find? (Cluster.keyFor (.driver .powerStore) (some "ns") "d") =
      some Deleting.driver.toJson ∧
    DriverResource.read .powerStore Deleting.driver.toJson = .ok Deleting.driver ∧
    Reconcile.beingDeleted Deleting.driver = true ∧
    (∀ e s', (Reconcile.reconcile Refused.setup .powerStore "ns" "d").run.run Deleting.start =
        (.error e, s') →
      s'.cluster.find? (Cluster.keyFor (.driver .powerStore) (some "ns") "d") =
        some Deleting.driver.toJson) ∧
    (∀ q s', (Reconcile.reconcile Refused.setup .powerStore "ns" "d").run.run Deleting.start =
        (.ok q, s') →
      Reconcile.Released Refused.setup (Cluster.keyFor (.driver .powerStore) (some "ns") "d")
        Deleting.driver.toJson Deleting.driver Deleting.start s') := by
  have hc : Deleting.start.cluster.WellKeyed :=
    ⟨List.pairwise_singleton _ _, fun q hq => by rw [List.mem_singleton.1 hq]; decide⟩
  have hread : DriverResource.read .powerStore Deleting.driver.toJson = .ok Deleting.driver := rfl
  exact ⟨hc, rfl, hread, rfl, Reconcile.deletion_releases_finalizer_safely hc rfl hread rfl⟩

end CsiOperator
