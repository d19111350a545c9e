import CsiOperator.Number.Grisu
import CsiOperator.Lifecycle
/-!
The operator's metrics and their exposition text.

Three families are kept: how long reconciles take, per controller, as a histogram with
exponential buckets from 10 ms doubling up to about 80 s; how many reconciles ended in an error,
per controller and kind of error, as a counter; and the lifecycle state of each resource as a
gauge, the state's code from 0 (none) to 5 (invalid configuration).

The text is the OpenMetrics exposition: each family's help and type lines, then its samples,
with `# EOF` last. Histogram buckets count cumulatively; counters are exposed with a `_total`
suffix.
-/

namespace CsiOperator.Metrics

/-- The upper bounds of the duration buckets, in seconds: `0.01 · 2^i` for `i < 14`. -/
def bucketBounds : List Binary64 := (List.range 14).map fun i => Binary64.roundRatio false (Nat.pow 2 i) 100

/-- Observations of one controller's reconcile durations. -/
structure Histogram where
  /-- Observations per bucket: the first bound each is at most; past the last bound, none. -/
  buckets : List Nat := bucketBounds.map fun _ => 0
  count : Nat := 0
  sum : Binary64 := Binary64.zero
deriving Inhabited

namespace Histogram

/-- Records one observation. -/
def observe (h : Histogram) (v : Binary64) : Histogram :=
  let slot := bucketBounds.findIdx? fun b => v.le b
  { buckets := match slot with
      | some i => h.buckets.modify i (· + 1)
      | none => h.buckets
    count := h.count + 1
    sum := h.sum + v }

end Histogram

/-- The metrics recorded so far. -/
structure Registry where
  /-- Reconcile durations by controller. -/
  durations : List (String × Histogram) := []
  /-- Reconcile errors by controller and kind of error. -/
  errors : List ((String × String) × Nat) := []
  /-- Resource states by kind, namespace and name. -/
  states : List ((String × String × String) × Nat) := []
deriving Inhabited

/-- Updates the entry of a key, starting from `init` when there is none; new keys go last. -/
def upsert {κ α : Type} [BEq κ] (entries : List (κ × α)) (key : κ) (init : α) (f : α → α) :
    List (κ × α) :=
  if entries.any (·.1 == key) then entries.map fun (k, a) => if k == key then (k, f a) else (k, a)
  else entries ++ [(key, f init)]

namespace Registry

/-- Records how long a reconcile of a controller took. -/
def observeDuration (r : Registry) (controller : String) (seconds : Binary64) : Registry :=
  { r with durations := upsert r.durations controller {} (·.observe seconds) }

/-- Counts a reconcile of a controller that ended in a kind of error. -/
def incError (r : Registry) (controller kind : String) : Registry :=
  { r with errors := upsert r.errors (controller, kind) 0 (· + 1) }

/-- Records the state of a resource. -/
def setState (r : Registry) (kind ns name : String) (state : DriverState) : Registry :=
  { r with states := upsert r.states (kind, ns, name) 0 fun _ => state.code }

/-- The text of a label set. -/
def labels (ls : List (String × String)) : String :=
  "\x7b" ++ ",".intercalate (ls.map fun (k, v) => k ++ "=\"" ++ v ++ "\"") ++ "\x7d"

/-- The help and type lines of a family. -/
def header (name help type : String) : List String :=
  ["# HELP " ++ name ++ " " ++ help ++ ".", "# TYPE " ++ name ++ " " ++ type]

/-- The name of the duration family. -/
def durationName : String := "dell_csi_reconcile_duration_seconds"

/-- The name of the error family. -/
def errorName : String := "dell_csi_reconcile_errors_total"

/-- The name of the state family. -/
def stateName : String := "dell_csi_resource_state"

/-- The sample lines of one controller's histogram. -/
def histogramLines (controller : String) (h : Histogram) : List String :=
  let own := [("controller", controller)]
  let cumulative := (h.buckets.foldl (fun (acc, total) n => (acc ++ [total + n], total + n)) ([], 0)).1
  [durationName ++ "_sum" ++ labels own ++ " " ++ h.sum.toText,
   durationName ++ "_count" ++ labels own ++ " " ++ toString h.count] ++
  (bucketBounds.zip cumulative).map (fun (b, n) =>
    durationName ++ "_bucket" ++ labels (("le", b.toText) :: own) ++ " " ++ toString n) ++
  [durationName ++ "_bucket" ++ labels (("le", "+Inf") :: own) ++ " " ++ toString h.count]

/-- The exposition text of the metrics, as lines. -/
def render (r : Registry) : List String :=
  header durationName "Time spent in one reconcile of a driver or proxy resource" "histogram" ++
  r.durations.flatMap (fun (c, h) => histogramLines c h) ++
  header errorName "Reconciles that ended in an error, by error kind" "counter" ++
  r.errors.map (fun ((c, k), n) =>
    errorName ++ "_total" ++ labels [("controller", c), ("kind", k)] ++ " " ++ toString n) ++
  header stateName "Lifecycle state of a driver or reverse proxy resource" "gauge" ++
  r.states.map (fun ((k, ns, name), v) =>
    stateName ++ labels [("kind", k), ("namespace", ns), ("name", name)] ++ " " ++ toString v) ++
  ["# EOF"]

end Registry

end CsiOperator.Metrics
