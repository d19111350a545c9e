import Mathlib
import CsiOperator.Proofs.Footprint
/-!
The observed state of a driver installation, said without the calculation.

A pod is sorted by its phase: a running pod is available when each of its containers runs (a pod
that lists no container statuses counts as such) and ready otherwise; a pending or unknown pod is
starting and a failed one stopped; other phases are left out (`byPhase`). A workload is read
from the store under its kind, namespace and name: the controller is a Deployment when it runs
highly available and a StatefulSet otherwise, and the node plugin a DaemonSet. A workload that
wants no replica or has none ready is reported whole as stopped; otherwise its report sorts the
pods of its namespace labelled `app=<name>`, in the order the store keeps them
(`workloadSummary`).

Main statement (`calculateState_reports`): against a store that answers, the calculation
changes nothing, reports each workload as above and an absent one as empty, whatever the other
workload is; it reports an error exactly when a workload is absent; and it reports the
installation running exactly when both workloads are stored and each wants some replicas, has
some ready and has as many available labelled pods as it wants (`Fulfilled`).
-/

namespace CsiOperator.Observe

open Cluster

/-! ## Pods by phase -/

/-- The phase a pod reports, if any. -/
def phase? (pod : Json) : Option String := (pod.get? "status").bind (·.strOpt "phase")

/-- Whether every container of a pod reports running; a pod that lists no container statuses
counts as running. -/
def containersRunning (pod : Json) : Bool :=
  (((pod.get? "status").bind (·.get? "containerStatuses")).bind Json.items?).all fun cs =>
    cs.all fun c => ((c.get? "state").bind (·.get? "running")).isSome

/-- A running pod whose containers all run. -/
def isAvailable (pod : Json) : Bool := phase? pod == some "Running" && containersRunning pod

/-- A running pod with a container that does not run. -/
def isReadyOnly (pod : Json) : Bool := phase? pod == some "Running" && !containersRunning pod

/-- A pod that is pending, or whose phase is unknown. -/
def isStarting (pod : Json) : Bool := phase? pod == some "Pending" || phase? pod == some "Unknown"

/-- A pod that failed. -/
def isStopped (pod : Json) : Bool := phase? pod == some "Failed"

/-- Pods sorted by phase, each list in the order of the pods. -/
def byPhase (pods : List Json) : PodSummary where
  available := (pods.filter isAvailable).map Meta.nameAny
  ready := (pods.filter isReadyOnly).map Meta.nameAny
  starting := (pods.filter isStarting).map Meta.nameAny
  stopped := (pods.filter isStopped).map Meta.nameAny

/-- One more pod, put at the end of the list its phase selects. -/
def sortIn (s : PodSummary) (pod : Json) : PodSummary where
  available := s.available ++ if isAvailable pod then [Meta.nameAny pod] else []
  ready := s.ready ++ if isReadyOnly pod then [Meta.nameAny pod] else []
  starting := s.starting ++ if isStarting pod then [Meta.nameAny pod] else []
  stopped := s.stopped ++ if isStopped pod then [Meta.nameAny pod] else []

theorem byPhase_concat (pods : List Json) (pod : Json) :
    byPhase (pods ++ [pod]) = sortIn (byPhase pods) pod := by
  simp only [byPhase, sortIn, List.filter_append, List.map_append, List.filter_cons,
    List.filter_nil]
  split_ifs <;> rfl

theorem classifyPods_concat (pods : List Json) (pod : Json) :
    classifyPods (pods ++ [pod]) = sortIn (classifyPods pods) pod := by
  unfold classifyPods
  rw [List.foldl_append, List.foldl_cons, List.foldl_nil]
  dsimp only
  -- one arm per phase the calculation tells apart, the last one for every other phase
  split
  · next hrun =>
    have running : phase? pod = some "Running" := hrun
    split_ifs with hall <;>
      simp [sortIn, isAvailable, isReadyOnly, isStarting, isStopped, running,
        containersRunning, hall]
  · next hpend =>
    have pending : phase? pod = some "Pending" := hpend
    simp [sortIn, isAvailable, isReadyOnly, isStarting, isStopped, pending]
  · next hunk =>
    have unknown : phase? pod = some "Unknown" := hunk
    simp [sortIn, isAvailable, isReadyOnly, isStarting, isStopped, unknown]
  · next hfail =>
    have failed : phase? pod = some "Failed" := hfail
    simp [sortIn, isAvailable, isReadyOnly, isStarting, isStopped, failed]
  · next _ hrun hpend hunk hfail =>
    have other : phase? pod ≠ some "Running" ∧ phase? pod ≠ some "Pending" ∧
        phase? pod ≠ some "Unknown" ∧ phase? pod ≠ some "Failed" :=
      ⟨hrun, hpend, hunk, hfail⟩
    simp [sortIn, isAvailable, isReadyOnly, isStarting, isStopped, other]

theorem classifyPods_eq_byPhase (pods : List Json) : classifyPods pods = byPhase pods := by
  induction pods using List.reverseRecOn with
  | nil => rfl
  | append_singleton pods pod ih => rw [classifyPods_concat, byPhase_concat, ih]

/-! ## Workloads -/

/-- The value of a pod's label, if it carries the label. -/
def labelValue? (pod : Json) (key : String) : Option String :=
  (((Meta.labels? pod).getD []).find? (·.1 == key)).map (·.2)

/-- The pods of a namespace labelled `app=name`, in the order the store keeps them. -/
def labelledPods (c : Cluster) (ns name : String) : List Json :=
  (c.objects.filter fun p => p.1.kind == .pod && p.1.ns == ns && labelValue? p.2 "app" == some name).map
    (·.2)

/-- What the calculation reports for a workload with wanted and ready counts: the workload
itself as stopped when either count is zero, else its labelled pods by phase. -/
def workloadSummary (c : Cluster) (ns name : String) (desired ready : Int) : PodSummary :=
  if desired = 0 ∨ ready = 0 then { stopped := [name] } else byPhase (labelledPods c ns name)

/-- The wanted and ready replicas of a stored Deployment or StatefulSet. -/
def replicasOf (w : Json) : Int × Int := (intAt w ["spec", "replicas"], intAt w ["status", "readyReplicas"])

/-- The wanted and ready pods of a stored DaemonSet: the nodes it is scheduled on, and those whose
pod is ready. -/
def scheduledOf (d : Json) : Int × Int :=
  (intAt d ["status", "desiredNumberScheduled"], intAt d ["status", "numberReady"])

/-- A workload that has every wanted replica available: it wants some, has some ready, and as
many of its labelled pods are available as it wants. -/
def Fulfilled (c : Cluster) (ns name : String) (desired ready : Int) : Prop :=
  desired ≠ 0 ∧ ready ≠ 0 ∧ (((labelledPods c ns name).filter isAvailable).length : Int) = desired

variable {c : Cluster}

theorem list_labelled (hon : c.online = true) (ns name : String) :
    (Cluster.list .pod (some ns) [("app", name)]).run.run c = (.ok (labelledPods c ns name), c) := by
  simp only [Cluster.list, exceptState_run_bind, reach_run hon, exceptState_run_get,
    exceptState_run_pure, labelledPods, labelValue?, Labels.satisfy]
  congr 3
  apply List.filter_congr
  intro p _
  rw [Bool.eq_iff_iff]
  simp [ResourceKind.namespaced, @eq_comm _ ns]

theorem workloadStatus_run (hon : c.online = true) (ns name : String) (desired ready : Int) :
    (workloadStatus ns name "app" desired ready).run.run c =
      (.ok (desired, workloadSummary c ns name desired ready), c) := by
  unfold workloadStatus workloadSummary
  by_cases hz : desired = 0 ∨ ready = 0
  · have zero : (desired == 0 || ready == 0) = true := by simpa using hz
    simp only [zero, if_true, hz]
    rfl
  · have nonzero : (desired == 0 || ready == 0) = false := by simpa using hz
    simp only [nonzero, Bool.false_eq_true, if_false, hz, exceptState_run_bind,
      list_labelled hon, classifyPods_eq_byPhase]
    rfl

theorem replicaCounts_run (hon : c.online = true) (ns name : String) (k : ResourceKind) :
    (replicaCounts ns name k).run.run c =
      ((c.find? (keyFor k (some ns) name)).elim (.error (notFound k name)) (.ok ∘ replicasOf), c) := by
  unfold replicaCounts
  rw [exceptState_run_bind, get_run hon]
  cases c.find? (keyFor k (some ns) name) <;> rfl

theorem controllerStatus_run (hon : c.online = true) (ns name : String) (ha : Bool) :
    (controllerStatus ns name ha).run.run c =
      ((c.find? (keyFor (if ha then .deployment else .statefulSet) (some ns) name)).elim
        (.error (notFound (if ha then .deployment else .statefulSet) name))
        (fun w => .ok ((replicasOf w).1, workloadSummary c ns name (replicasOf w).1 (replicasOf w).2)),
        c) := by
  unfold controllerStatus
  rw [exceptState_run_bind, replicaCounts_run hon]
  cases c.find? (keyFor (if ha then .deployment else .statefulSet) (some ns) name) with
  | none => rfl
  | some w => exact workloadStatus_run hon ns name _ _

theorem daemonSetStatus_run (hon : c.online = true) (ns name : String) :
    (daemonSetStatus ns name).run.run c =
      ((c.find? (keyFor .daemonSet (some ns) name)).elim (.error (notFound .daemonSet name))
        (fun d => .ok ((scheduledOf d).1, workloadSummary c ns name (scheduledOf d).1 (scheduledOf d).2)),
        c) := by
  unfold daemonSetStatus
  rw [exceptState_run_bind, get_run hon]
  cases c.find? (keyFor .daemonSet (some ns) name) with
  | none => rfl
  | some d => exact workloadStatus_run hon ns name _ _

theorem fullyAvailable_workloadSummary (ns name : String) (desired ready : Int) :
    fullyAvailable desired (workloadSummary c ns name desired ready) = true ↔
      Fulfilled c ns name desired ready := by
  unfold fullyAvailable workloadSummary Fulfilled
  by_cases hz : desired = 0 ∨ ready = 0
  · -- the workload is reported whole as stopped, with nothing available
    simp only [hz, if_true]
    constructor
    · intro h
      simp at h
    · rintro ⟨hd, hr, -⟩
      omega
  · simp only [hz, if_false, byPhase, List.length_map]
    constructor
    · intro h
      simp at h
      omega
    · rintro ⟨hd, -, hlen⟩
      simp [hd, hlen]

/-! ## The observed state -/

theorem fullyAvailable_zero (s : PodSummary) : fullyAvailable 0 s = false := rfl

/-- The state calculation of a driver installation, against a store that answers. It changes
nothing; it reports the controller workload (a Deployment when highly available, else a
StatefulSet) and the node DaemonSet of the resource's namespace each by its own counts and
labelled pods, or empty when it is absent, whatever the other one is; it reports an error exactly
when a workload is absent; and it reports the installation running exactly when both workloads are
stored and fulfilled. -/
theorem calculateState_reports (c : Cluster) (hon : c.online = true) (r : DriverResource)
    (ha : Bool) :
    let ns := r.namespace?.getD ""
    let controller :=
      c.find? (keyFor (if ha then .deployment else .statefulSet) (some ns) r.family.controllerName)
    let daemonSet := c.find? (keyFor .daemonSet (some ns) r.family.daemonSetName)
    ∃ report, (calculateState r ha).run.run c = (.ok report, c) ∧
      report.controller = (controller.map fun w =>
        workloadSummary c ns r.family.controllerName (replicasOf w).1 (replicasOf w).2).getD {} ∧
      report.node = (daemonSet.map fun d =>
        workloadSummary c ns r.family.daemonSetName (scheduledOf d).1 (scheduledOf d).2).getD {} ∧
      (report.error.isNone ↔ controller.isSome ∧ daemonSet.isSome) ∧
      (report.running = true ↔ ∃ w d, controller = some w ∧ daemonSet = some d ∧
        Fulfilled c ns r.family.controllerName (replicasOf w).1 (replicasOf w).2 ∧
        Fulfilled c ns r.family.daemonSetName (scheduledOf d).1 (scheduledOf d).2) := by
  dsimp only
  simp only [calculateState, exceptState_run_bind, attempt_run, controllerStatus_run hon,
    daemonSetStatus_run hon]
  -- one case for each pair of lookups
  cases c.find? (keyFor (if ha then .deployment else .statefulSet) (some (r.namespace?.getD ""))
      r.family.controllerName) <;>
    cases c.find? (keyFor .daemonSet (some (r.namespace?.getD "")) r.family.daemonSetName) <;>
    refine ⟨_, rfl, ?_⟩ <;>
    simp [fullyAvailable_workloadSummary, fullyAvailable_zero]

/-- A unity installation whose StatefulSet and DaemonSet are stored with one replica each,
ready, and one running pod each. -/
theorem unity_state_reported :
    let r : DriverResource :=
      { family := .unity
        metadata := .obj [("name", .str "unity"), ("namespace", .str "unity")]
        spec := { configVersion := "v3", replicas := 1 } }
    let pod (app : String) : Json := .obj [("kind", .str "Pod"),
      ("metadata", .obj [("name", .str (app ++ "-0")), ("namespace", .str "unity"),
        ("labels", .obj [("app", .str app)])]),
      ("status", .obj [("phase", .str "Running")])]
    let c := seeded [
      (.statefulSet, .obj [("metadata", .obj [("name", .str "unity-controller"),
          ("namespace", .str "unity")]), ("spec", .obj [("replicas", .int 1)]),
        ("status", .obj [("readyReplicas", .int 1)])]),
      (.daemonSet, .obj [("metadata", .obj [("name", .str "unity-node"),
          ("namespace", .str "unity")]),
        ("status", .obj [("desiredNumberScheduled", .int 1), ("numberReady", .int 1)])]),
      (.pod, pod "unity-controller"), (.pod, pod "unity-node")] []
    let ns := r.namespace?.getD ""
    let controller := c.find? (keyFor .statefulSet (some ns) r.family.controllerName)
    let daemonSet := c.find? (keyFor .daemonSet (some ns) r.family.daemonSetName)
    c.online = true ∧ ∃ report, (calculateState r false).run.run c = (.ok report, c) ∧
      report.controller = (controller.map fun w =>
        workloadSummary c ns r.family.controllerName (replicasOf w).1 (replicasOf w).2).getD {} ∧
      report.node = (daemonSet.map fun d =>
        workloadSummary c ns r.family.daemonSetName (scheduledOf d).1 (scheduledOf d).2).getD {} ∧
      (report.error.isNone ↔ controller.isSome ∧ daemonSet.isSome) ∧
      (report.running = true ↔ ∃ w d, controller = some w ∧ daemonSet = some d ∧
        Fulfilled c ns r.family.controllerName (replicasOf w).1 (replicasOf w).2 ∧
        Fulfilled c ns r.family.daemonSetName (scheduledOf d).1 (scheduledOf d).2) := by
  intro r pod c ns controller daemonSet
  exact ⟨rfl, calculateState_reports c rfl r false⟩

end CsiOperator.Observe
