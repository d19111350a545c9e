import Mathlib
import CsiOperator.Proofs.Replay
import CsiOperator.Proofs.CertVolume
/-!
Restarting the controller pods that run a stale spec.

After the controller workload is replaced, its pods are looked up, a StatefulSet's by ordinal
name below the replica count of its status and a Deployment's by their `app` label, and each
pod whose spec drifted from the template is deleted so that it restarts. A spec drifts when one
of its containers has the name of a template container but other variables, another image or
another pull policy (`Build.Drifted`, exactly what `podMatchesTemplate` refuses); a pod without
a spec, and containers the template does not name, are no reason to delete.

Once the replacement is answered and pod deletions are not made to fail, each convergence
deletes exactly the stale pods it looked up, logs one deletion for each after the replacement
and deletes nothing else (`workloads_refresh_exactly_stale_pods`). A replacement that is made to
fail stops the convergence before any pod is looked at, and a stale pod keeps running
(`failedReplacement_keeps_stale_pod`).
-/

namespace CsiOperator

namespace Json

mutual

theorem beq_eq_true_iff : ∀ {a b : Json}, beq a b = true ↔ a = b
  | .null, b => by cases b <;> simp [beq]
  | .bool x, b => by cases b <;> simp [beq]
  | .int x, b => by cases b <;> simp [beq]
  | .num n d e, b => by cases b <;> simp [beq, and_assoc]
  | .str x, b => by cases b <;> simp [beq]
  | .arr xs, b => by
    cases b with
    | arr ys =>
      simp only [beq, arr.injEq]
      exact beqItems_eq_true_iff
    | _ => simp [beq]
  | .obj xs, b => by
    cases b with
    | obj ys =>
      simp only [beq, obj.injEq]
      exact beqMembers_eq_true_iff
    | _ => simp [beq]

theorem beqItems_eq_true_iff : ∀ {xs ys : List Json}, beqItems xs ys = true ↔ xs = ys
  | [], ys => by cases ys <;> simp [beqItems]
  | x :: xs, [] => by simp [beqItems]
  | x :: xs, y :: ys => by
    simp only [beqItems, Bool.and_eq_true, List.cons.injEq]
    exact and_congr beq_eq_true_iff beqItems_eq_true_iff

theorem beqMembers_eq_true_iff : ∀ {xs ys : List (String × Json)}, beqMembers xs ys = true ↔ xs = ys
  | [], ys => by cases ys <;> simp [beqMembers]
  | (k, x) :: xs, [] => by simp [beqMembers]
  | (k, x) :: xs, (l, y) :: ys => by
    simp only [beqMembers, Bool.and_eq_true, List.cons.injEq, Prod.mk.injEq, beq_iff_eq, and_assoc]
    exact and_congr Iff.rfl (and_congr beq_eq_true_iff beqMembers_eq_true_iff)

end

end Json

namespace Build

/-- A pod's spec has drifted from a template: one of its containers has the name of a template
container but other variables (absent ones counting as none), another image or another pull
policy. -/
def Drifted (template spec : Json) : Prop :=
  ∃ wanted ∈ template.arrD "containers", ∃ live ∈ spec.arrD "containers",
    live.strOpt "name" = wanted.strOpt "name" ∧
      (live.arrD "env" ≠ wanted.arrD "env" ∨ live.strOpt "image" ≠ wanted.strOpt "image" ∨
        live.strOpt "imagePullPolicy" ≠ wanted.strOpt "imagePullPolicy")

theorem podMatchesTemplate_eq_false_iff (template spec : Json) :
    podMatchesTemplate template spec = false ↔ Drifted template spec := by
  simp only [podMatchesTemplate, Drifted, List.all_eq_false, List.all_eq_true, List.mem_filter,
    beq_iff_eq, Bool.and_eq_true, not_forall, exists_prop, and_assoc]
  refine exists_congr fun wanted => and_congr Iff.rfl (exists_congr fun live => ?_)
  refine and_congr Iff.rfl (and_congr Iff.rfl ?_)
  rw [show Json.beq (.arr (live.arrD "env")) (.arr (wanted.arrD "env")) =
    Json.beqItems (live.arrD "env") (wanted.arrD "env") from rfl, Json.beqItems_eq_true_iff]
  tauto

end Build

namespace Sync

/-- A pod the refresh deletes: it has a spec, and the spec drifted from the template. -/
def Stale (template pod : Json) : Prop :=
  ∃ spec, pod.get? "spec" = some spec ∧ Build.Drifted template spec

/-- Whether a pod is stale, as the refresh decides it. -/
def isStale (template pod : Json) : Bool :=
  !((pod.get? "spec").all (Build.podMatchesTemplate template))

theorem isStale_iff (template pod : Json) : isStale template pod = true ↔ Stale template pod := by
  unfold isStale Stale
  cases pod.get? "spec" with
  | none => simp
  | some spec => simp [Build.podMatchesTemplate_eq_false_iff]

theorem isStale_null (pod : Json) : isStale .null pod = false := by
  unfold isStale
  cases pod.get? "spec" <;> rfl

theorem refreshPods_eq (template : Json) (pods : List Json) :
    refreshPods template pods = pods.forM fun pod =>
      if isStale template pod then
        tryCatch (Cluster.delete .pod (Meta.namespace? pod) (Meta.nameAny pod)) fun _ => pure ()
      else pure () := by
  unfold refreshPods
  congr 1
  funext pod
  simp only [isStale]
  -- the refresh reads the spec by cases where `isStale` reads it through `Option.all`
  congr 1
  cases pod.get? "spec" <;> rfl

end Sync

namespace Cluster

variable {c : Cluster}

/-- The deletion of a pod, as the write log records it. -/
def podDeletion (pod : Json) : Write := { verb := .delete, kind := .pod, name := Meta.nameAny pod }

/-- The pods stored under the ordinal names of a workload with `replicas` replicas, from the
highest ordinal down. -/
def ordinalPods (c : Cluster) (ns : Option String) (name : String) (replicas : Int) : List Json :=
  (List.range replicas.toNat).reverse.filterMap fun i =>
    c.find? (keyFor .pod ns (name ++ "-" ++ toString i))

/-- The objects of a kind, within a namespace when one is given, that carry every label of a
selector, in key order. -/
def listed (c : Cluster) (k : ResourceKind) (ns : Option String)
    (selector : List (String × String)) : List Json :=
  (c.objects.filter fun p => p.1.kind == k && (!k.namespaced || ns.all (· == p.1.ns)) &&
    Labels.satisfy (Meta.labels? p.2) selector).map (·.2)

theorem list_run (hon : c.online = true) (k : ResourceKind) (ns : Option String)
    (selector : List (String × String)) :
    (list k ns selector).run.run c = (.ok (c.listed k ns selector), c) := by
  simp only [list, exceptState_run_bind, reach_run hon, exceptState_run_get, exceptState_run_pure]
  rfl

theorem filterMapM_run {α β : Type} {f : α → ClusterM (Option β)} {g : α → Option β}
    (hf : ∀ a, (f a).run.run c = (.ok (g a), c)) (l : List α) :
    (l.filterMapM f).run.run c = (.ok (l.filterMap g), c) := by
  induction l with
  | nil => rfl
  | cons a rest ih =>
    rw [List.filterMapM_cons, exceptState_run_bind, hf a]
    cases hg : g a with
    | none => simpa [List.filterMap_cons, hg] using ih
    | some b =>
      simp only [List.filterMap_cons, hg]
      rw [exceptState_run_bind, ih]
      rfl

theorem delete_pod_run (hon : c.online = true) (hfail : c.failing .delete .pod = false)
    {pod : Json} (hstored : (c.find? (keyOf .pod pod)).isSome) :
    (delete .pod (Meta.namespace? pod) (Meta.nameAny pod)).run.run c =
      (.ok (), { c with
        objects := c.objects.filter (·.1 != keyOf .pod pod)
        writes := c.writes ++ [podDeletion pod] }) := by
  obtain ⟨existing, hfound⟩ := Option.isSome_iff_exists.1 hstored
  simp only [delete, exceptState_run_bind, reach_run hon, checkFailure_run hfail,
    exceptState_run_get]
  rw [show keyFor .pod (Meta.namespace? pod) (Meta.nameAny pod) = keyOf .pod pod from rfl, hfound]
  simp only [Option.isSome_some, if_true]
  rfl

theorem refreshPods_run (hon : c.online = true) (hfail : c.failing .delete .pod = false)
    (template : Json) {pods : List Json} (hstored : ∀ p ∈ pods, (c.find? (keyOf .pod p)).isSome)
    (hdistinct : (pods.map (keyOf .pod)).Nodup) :
    (Sync.refreshPods template pods).run.run c =
      (.ok (), { c with
        objects := c.objects.filter fun q =>
          !((pods.filter (Sync.isStale template)).map (keyOf .pod)).contains q.1
        writes := c.writes ++ (pods.filter (Sync.isStale template)).map podDeletion }) := by
  rw [Sync.refreshPods_eq]
  induction pods generalizing c with
  | nil =>
    simp only [List.filter_nil, List.map_nil, List.contains_nil, Bool.not_false, List.filter_true,
      List.append_nil]
    rfl
  | cons p rest ih =>
    obtain ⟨hfresh, hrest⟩ := List.nodup_cons.1 hdistinct
    rw [List.forM_eq_forM, List.forM_cons, exceptState_run_bind, ← List.forM_eq_forM]
    by_cases hp : Sync.isStale template p = true
    · -- the pod is deleted first, and the rest are refreshed in the store without it
      rw [if_pos hp, exceptState_run_tryCatch, delete_pod_run hon hfail (hstored p List.mem_cons_self)]
      dsimp only
      have hstored' : ∀ q ∈ rest, (((c.objects.filter (·.1 != keyOf .pod p)).find?
          (·.1 == keyOf .pod q)).map (·.2)).isSome := fun q hq => by
        rw [find?_filter_ne, if_neg fun (h : keyOf .pod q = keyOf .pod p) =>
          hfresh (h ▸ List.mem_map_of_mem hq), ← find?_objects]
        exact hstored q (List.mem_cons_of_mem p hq)
      rw [ih (c := { c with
        objects := c.objects.filter (·.1 != keyOf .pod p)
        writes := c.writes ++ [podDeletion p] }) hon hfail hstored' hrest]
      simp only [List.filter_cons, hp, if_true, List.map_cons, List.filter_filter,
        List.contains_cons, List.append_assoc, List.singleton_append]
      congr 2
      refine List.filter_congr fun q _ => ?_
      by_cases hq : q.1 = keyOf .pod p <;> simp [hq, bne, Bool.and_comm]
    · rw [if_neg hp, exceptState_run_pure]
      dsimp only
      rw [ih hon hfail (fun q hq => hstored q (List.mem_cons_of_mem p hq)) hrest]
      simp [hp]

/-! ## The workloads -/

theorem find?_filter_key (objs : List (Key × Json)) (keep : Key → Bool) (key : Key) :
    ((objs.filter fun q => keep q.1).find? (·.1 == key)).map (·.2) =
      if keep key then (objs.find? (·.1 == key)).map (·.2) else none := by
  rw [List.find?_filter]
  by_cases hk : keep key
  · rw [if_pos hk]
    congr 2
    funext q
    by_cases hq : q.1 = key <;> simp [hq, hk]
  · -- no entry under the key is kept
    rw [if_neg hk, List.find?_eq_none.2 fun q _ => by by_cases hq : q.1 = key <;> simp_all]
    rfl

/-- `c'` is `c` after the workload under `key` was replaced by `v` and the pods among `pods`
that are stale against `template` were deleted: the replacement is logged, then one deletion
per stale pod in the order of `pods`, and no other object changes. -/
structure Refreshed (key : Key) (v template : Json) (pods : List Json) (c c' : Cluster) : Prop where
  replaced : c'.find? key = some v
  deleted : ∀ p ∈ pods, Sync.Stale template p → c'.find? (keyOf .pod p) = none
  kept : ∀ k, k ≠ key → (∀ p ∈ pods, Sync.Stale template p → keyOf .pod p ≠ k) →
    c'.find? k = c.find? k
  log : c'.writes = c.writes ++ { verb := .update, kind := key.kind, name := key.name } ::
    (pods.filter (Sync.isStale template)).map podDeletion

theorem refreshed_of {key : Key} (hkey : key.kind ≠ .pod) {v template : Json} {pods : List Json}
    {c c' : Cluster}
    (hobjs : c'.objects = (putObject c.objects key v).filter fun q =>
      !((pods.filter (Sync.isStale template)).map (keyOf .pod)).contains q.1)
    (hwrites : c'.writes = c.writes ++ [{ verb := .update, kind := key.kind, name := key.name }] ++
      (pods.filter (Sync.isStale template)).map podDeletion) :
    Refreshed key v template pods c c' := by
  -- a key survives the deletions when no stale pod is stored under it
  have hfind : ∀ k, c'.find? k = if ((pods.filter (Sync.isStale template)).map (keyOf .pod)).contains k
      then none else if k = key then some v else c.find? k := fun k => by
    rw [find?_objects, hobjs, find?_filter_key _
      (fun k => !((pods.filter (Sync.isStale template)).map (keyOf .pod)).contains k),
      find?_putObject, ← find?_objects]
    cases ((pods.filter (Sync.isStale template)).map (keyOf .pod)).contains k <;> rfl
  have hnotpod : ((pods.filter (Sync.isStale template)).map (keyOf .pod)).contains key = false := by
    simpa using fun p _ _ (h : keyOf .pod p = key) => hkey (h ▸ rfl)
  refine ⟨by rw [hfind, hnotpod]; simp, fun p hp hstale => ?_, fun k hk hfree => ?_, ?_⟩
  · have hin : ((pods.filter (Sync.isStale template)).map (keyOf .pod)).contains (keyOf .pod p) :=
      by simpa using ⟨p, ⟨hp, (Sync.isStale_iff template p).2 hstale⟩, rfl⟩
    rw [hfind, hin, if_pos rfl]
  · have hout : ((pods.filter (Sync.isStale template)).map (keyOf .pod)).contains k = false := by
      simpa using fun p hp hstale => hfree p hp ((Sync.isStale_iff template p).1 hstale)
    rw [hfind, hout, if_neg hk]
    rfl
  · rw [hwrites, List.append_assoc, List.singleton_append]

theorem podTemplate_congr {v d : Json} (h : v.get? "spec" = d.get? "spec") :
    Sync.podTemplate v = Sync.podTemplate d := by
  simp only [Sync.podTemplate, Json.getPath?, h]

theorem replicas_congr {v w : Json} (h : v.get? "status" = w.get? "status") :
    Observe.intAt v ["status", "replicas"] = Observe.intAt w ["status", "replicas"] := by
  simp only [Observe.intAt, Json.getPath?, h]

theorem replace_run (hon : c.online = true) {k : ResourceKind}
    (hupdate : c.failing .update k = false) {d live : Json} (hlive : c.find? (keyOf k d) = some live) :
    ∃ v, (Sync.replace k live d).run.run c = (.ok v, { c with
        objects := putObject c.objects (keyOf k d) v
        writes := c.writes ++ [{ verb := .update, kind := k, name := (keyOf k d).name }] }) ∧
      v.get? "status" = live.get? "status" ∧ v.get? "spec" = d.get? "spec" := by
  have hkey : keyOf k (Sync.withVersionOf d live) = keyOf k d :=
    keyOf_of_sameNames k (Sync.withVersionOf_meta d live).1
  obtain ⟨v, hrun, hstatus, -⟩ := update_run hon hupdate (hkey ▸ hlive)
  have hspec : v.get? "spec" = d.get? "spec" :=
    ((update_sent hrun).1 "spec" (by decide) (by decide)).trans
      ((Sync.withVersionOf_meta d live).2.1 "spec" (by decide) (by decide))
  rw [hkey] at hrun
  exact ⟨v, hrun, hstatus, hspec⟩

theorem ordinalPods_of_put {c' : Cluster} {key : Key} {v : Json} (hkey : key.kind ≠ .pod)
    (hobjs : c'.objects = putObject c.objects key v) (ns : Option String) (name : String)
    (replicas : Int) : c'.ordinalPods ns name replicas = c.ordinalPods ns name replicas := by
  unfold ordinalPods
  congr 1
  funext i
  rw [find?_of_put hobjs, if_neg fun h => hkey (by rw [← h]; rfl)]

theorem mem_ordinalPods (hkeyed : c.WellKeyed) {ns : Option String} {name : String} {replicas : Int}
    {p : Json} (hp : p ∈ c.ordinalPods ns name replicas) :
    ∃ i : Nat, c.find? (keyFor .pod ns (name ++ "-" ++ toString i)) = some p ∧
      keyOf .pod p = keyFor .pod ns (name ++ "-" ++ toString i) := by
  obtain ⟨i, -, hi⟩ := List.mem_filterMap.1 hp
  refine ⟨i, hi, ?_⟩
  have hmem := hkeyed.find?_eq_some.1 hi
  exact hkeyed.keyed _ hmem

theorem ordinalName_injective (name : String) :
    Function.Injective fun i : Nat => name ++ "-" ++ toString i :=
  numbered_injective (name ++ "-")

theorem ordinalPods_keys_nodup (hkeyed : c.WellKeyed) (ns : Option String) (name : String)
    (replicas : Int) : ((c.ordinalPods ns name replicas).map (keyOf .pod)).Nodup := by
  have hmap : (c.ordinalPods ns name replicas).map (keyOf .pod) =
      (List.range replicas.toNat).reverse.filterMap fun i =>
        (c.find? (keyFor .pod ns (name ++ "-" ++ toString i))).map fun _ =>
          keyFor .pod ns (name ++ "-" ++ toString i) := by
    rw [ordinalPods, List.map_filterMap]
    congr 1
    funext i
    cases hi : c.find? (keyFor .pod ns (name ++ "-" ++ toString i)) with
    | none => rfl
    | some p =>
      have hkey : keyOf .pod p = keyFor .pod ns (name ++ "-" ++ toString i) :=
        hkeyed.keyed _ (hkeyed.find?_eq_some.1 hi)
      simp only [Option.map_some, hkey]
  rw [hmap]
  refine List.Nodup.filterMap (fun i j k hi hj => ?_) (List.nodup_reverse.2 List.nodup_range)
  obtain ⟨-, -, rfl⟩ := Option.map_eq_some_iff.1 hi
  obtain ⟨-, -, hk⟩ := Option.map_eq_some_iff.1 hj
  exact ordinalName_injective name (congrArg Key.name hk).symm

theorem ensureStatefulSet_refreshes (hon : c.online = true) (hkeyed : c.WellKeyed)
    (hupdate : c.failing .update .statefulSet = false) (hdelete : c.failing .delete .pod = false)
    {d live : Json} (hlive : c.find? (keyOf .statefulSet d) = some live) :
    ∃ v c', (Sync.ensureStatefulSet d).run.run c = (.ok (), c') ∧
      Refreshed (keyOf .statefulSet d) v ((Sync.podTemplate d).getD .null)
        (c.ordinalPods (Meta.namespace? d) (Meta.nameAny d) (Observe.intAt live ["status", "replicas"]))
        c c' := by
  obtain ⟨v, hrun, hstatus, hspec⟩ := replace_run hon hupdate hlive
  set c₁ : Cluster := { c with
    objects := putObject c.objects (keyOf .statefulSet d) v
    writes := c.writes ++ [{ verb := .update, kind := .statefulSet,
                             name := (keyOf .statefulSet d).name }] } with hc₁
  have hfound : c₁.find? (keyOf .statefulSet d) = some v := by
    rw [find?_of_put (c := c) rfl, if_pos rfl]
  refine ⟨v, ?_⟩
  unfold Sync.ensureStatefulSet
  dsimp only
  rw [exceptState_run_bind, get_run hon,
    show keyFor .statefulSet (Meta.namespace? d) (Meta.nameAny d) = keyOf .statefulSet d from rfl,
    hlive]
  dsimp only
  rw [exceptState_run_bind, hrun]
  dsimp only
  -- the StatefulSet is found again as replaced, with the template sent and the stored status
  rw [exceptState_run_bind, get_run (c := c₁) hon,
    show keyFor .statefulSet (Meta.namespace? d) (Meta.nameAny d) = keyOf .statefulSet d from rfl,
    hfound]
  dsimp only
  rw [podTemplate_congr hspec, replicas_congr hstatus]
  cases htemplate : Sync.podTemplate d with
  | none =>
    exact ⟨_, rfl, refreshed_of (by simp) (by simp [hc₁, Sync.isStale_null])
      (by simp [hc₁, Sync.isStale_null])⟩
  | some template =>
    -- its pods are looked up by ordinal, then the stale ones deleted
    have hpods : c₁.ordinalPods (Meta.namespace? d) (Meta.nameAny d)
        (Observe.intAt live ["status", "replicas"]) = c.ordinalPods (Meta.namespace? d)
        (Meta.nameAny d) (Observe.intAt live ["status", "replicas"]) :=
      ordinalPods_of_put (show (keyOf .statefulSet d).kind ≠ .pod by simp) rfl _ _ _
    rw [exceptState_run_bind, filterMapM_run
      (g := fun i => c₁.find? (keyFor .pod (Meta.namespace? d) (Meta.nameAny d ++ "-" ++ toString i)))
      (fun i => by
        rw [exceptState_run_bind, Observe.attempt_run, get_run (c := c₁) hon]
        rfl)]
    dsimp only
    rw [show List.filterMap _ _ = _ from hpods]
    have hstored : ∀ p ∈ c.ordinalPods (Meta.namespace? d) (Meta.nameAny d)
        (Observe.intAt live ["status", "replicas"]), (c₁.find? (keyOf .pod p)).isSome := by
      intro p hp
      obtain ⟨i, hi, hkey⟩ := mem_ordinalPods hkeyed hp
      rw [find?_of_put (c := c) (show c₁.objects = putObject c.objects _ _ from rfl), if_neg fun h => by simpa using congrArg Key.kind h,
        hkey, hi]
      rfl
    rw [refreshPods_run (c := c₁) hon hdelete template hstored (ordinalPods_keys_nodup hkeyed _ _ _)]
    exact ⟨_, rfl, refreshed_of (by simp) rfl rfl⟩

theorem filter_putObject {keep : Key × Json → Bool} {key : Key} (hk : ∀ w, keep (key, w) = false)
    (objs : List (Key × Json)) (v : Json) : (putObject objs key v).filter keep = objs.filter keep := by
  induction objs with
  | nil => simp [putObject, hk]
  | cons q rest ih =>
    obtain ⟨k, w⟩ := q
    by_cases hsame : k = key
    · subst hsame
      simp [putObject, hk]
    · by_cases hbefore : key.before k = true
      · simp [putObject, hsame, hbefore, hk]
      · simp [putObject, hsame, hbefore, List.filter_cons, ih]

theorem listed_of_put {c' : Cluster} {key : Key} {v : Json} {k : ResourceKind} (hkey : key.kind ≠ k)
    (hobjs : c'.objects = putObject c.objects key v) (ns : Option String)
    (selector : List (String × String)) : c'.listed k ns selector = c.listed k ns selector := by
  unfold listed
  rw [hobjs, filter_putObject fun w => by simp [hkey]]

theorem keyed_of_listing (hkeyed : c.WellKeyed) {k : ResourceKind} {ns : Option String}
    {selector : List (String × String)} {q : Key × Json}
    (hq : q ∈ c.objects.filter fun p => p.1.kind == k && (!k.namespaced || ns.all (· == p.1.ns)) &&
      Labels.satisfy (Meta.labels? p.2) selector) : keyOf k q.2 = q.1 ∧ q ∈ c.objects := by
  have ⟨hmem, hsel⟩ := List.mem_filter.1 hq
  have hkind : q.1.kind = k := by
    simp only [Bool.and_eq_true, beq_iff_eq] at hsel
    exact hsel.1.1
  exact ⟨hkind ▸ hkeyed.keyed q hmem, hmem⟩

theorem mem_listed (hkeyed : c.WellKeyed) {k : ResourceKind} {ns : Option String}
    {selector : List (String × String)} {p : Json} (hp : p ∈ c.listed k ns selector) :
    c.find? (keyOf k p) = some p := by
  obtain ⟨q, hq, rfl⟩ := List.mem_map.1 hp
  obtain ⟨hkey, hmem⟩ := keyed_of_listing hkeyed hq
  rw [hkey]
  exact hkeyed.find?_eq_some.2 hmem

theorem listed_keys_nodup (hkeyed : c.WellKeyed) (k : ResourceKind) (ns : Option String)
    (selector : List (String × String)) : ((c.listed k ns selector).map (keyOf k)).Nodup := by
  unfold listed
  rw [List.map_map, List.map_congr_left (f := keyOf k ∘ Prod.snd) (g := Prod.fst)
    fun q hq => (keyed_of_listing hkeyed hq).1]
  exact hkeyed.nodup_keys.sublist (List.filter_sublist.map _)

theorem ensureDeployment_refreshes (hon : c.online = true) (hkeyed : c.WellKeyed)
    (hupdate : c.failing .update .deployment = false) (hdelete : c.failing .delete .pod = false)
    {d live : Json} (hlive : c.find? (keyOf .deployment d) = some live) :
    ∃ v c', (Sync.ensureDeployment d).run.run c = (.ok (), c') ∧
      Refreshed (keyOf .deployment d) v ((Sync.podTemplate d).getD .null)
        (c.listed .pod (Meta.namespace? d) (Build.appLabels (Meta.nameAny d))) c c' := by
  obtain ⟨v, hrun, -, hspec⟩ := replace_run hon hupdate hlive
  set c₁ : Cluster := { c with
    objects := putObject c.objects (keyOf .deployment d) v
    writes := c.writes ++ [{ verb := .update, kind := .deployment,
                             name := (keyOf .deployment d).name }] } with hc₁
  have hfound : c₁.find? (keyOf .deployment d) = some v := by
    rw [find?_of_put (c := c) rfl, if_pos rfl]
  refine ⟨v, ?_⟩
  unfold Sync.ensureDeployment
  dsimp only
  rw [exceptState_run_bind, get_run hon,
    show keyFor .deployment (Meta.namespace? d) (Meta.nameAny d) = keyOf .deployment d from rfl,
    hlive]
  dsimp only
  rw [exceptState_run_bind, hrun]
  dsimp only
  -- the Deployment is found again as replaced, with the template sent
  rw [exceptState_run_bind, get_run (c := c₁) hon,
    show keyFor .deployment (Meta.namespace? d) (Meta.nameAny d) = keyOf .deployment d from rfl,
    hfound]
  dsimp only
  rw [podTemplate_congr hspec]
  cases htemplate : Sync.podTemplate d with
  | none =>
    exact ⟨_, rfl, refreshed_of (by simp) (by simp [hc₁, Sync.isStale_null])
      (by simp [hc₁, Sync.isStale_null])⟩
  | some template =>
    -- its pods are listed by label, then the stale ones deleted
    rw [exceptState_run_bind, list_run (c := c₁) hon,
      listed_of_put (show (keyOf .deployment d).kind ≠ .pod by simp) rfl]
    dsimp only
    have hstored : ∀ p ∈ c.listed .pod (Meta.namespace? d) (Build.appLabels (Meta.nameAny d)),
        (c₁.find? (keyOf .pod p)).isSome := by
      intro p hp
      rw [find?_of_put (c := c) (show c₁.objects = putObject c.objects _ _ from rfl), if_neg fun h => by simpa using congrArg Key.kind h,
        mem_listed hkeyed hp]
      rfl
    rw [refreshPods_run (c := c₁) hon hdelete template hstored (listed_keys_nodup hkeyed _ _ _)]
    exact ⟨_, rfl, refreshed_of (by simp) rfl rfl⟩

/-- Converging a stored controller workload, when its replacement and the pod deletions are
answered, deletes exactly the stale pods it looks up: a StatefulSet's under its ordinal names
below the replica count of its status, a Deployment's by the label of its name in its namespace.
Nothing else changes but the workload, and the log gains its replacement and then one deletion
for each stale pod. -/
theorem workloads_refresh_exactly_stale_pods (hon : c.online = true) (hkeyed : c.WellKeyed)
    (hdelete : c.failing .delete .pod = false) (d live : Json) :
    (c.failing .update .statefulSet = false → c.find? (keyOf .statefulSet d) = some live →
      ∃ v c', (Sync.ensureStatefulSet d).run.run c = (.ok (), c') ∧
        Refreshed (keyOf .statefulSet d) v ((Sync.podTemplate d).getD .null)
          (c.ordinalPods (Meta.namespace? d) (Meta.nameAny d)
            (Observe.intAt live ["status", "replicas"])) c c') ∧
    (c.failing .update .deployment = false → c.find? (keyOf .deployment d) = some live →
      ∃ v c', (Sync.ensureDeployment d).run.run c = (.ok (), c') ∧
        Refreshed (keyOf .deployment d) v ((Sync.podTemplate d).getD .null)
          (c.listed .pod (Meta.namespace? d) (Build.appLabels (Meta.nameAny d))) c c') :=
  ⟨fun hupdate hlive => ensureStatefulSet_refreshes hon hkeyed hupdate hdelete hlive,
    fun hupdate hlive => ensureDeployment_refreshes hon hkeyed hupdate hdelete hlive⟩

/-- A controller StatefulSet `ctl` of one replica whose containers run `image`. -/
def controllerSet (image : String) : Json :=
  .obj [("metadata", .obj [("name", .str "ctl"), ("namespace", .str "ns")]),
    ("spec", .obj [("template", .obj [("spec", .obj [("containers",
      .arr [.obj [("name", .str "driver"), ("image", .str image)]])])])]),
    ("status", .obj [("replicas", .int 1)])]

/-- The pod of ordinal 0 of `controllerSet "old"`. -/
def controllerPod : Json :=
  .obj [("metadata", .obj [("name", .str "ctl-0"), ("namespace", .str "ns")]),
    ("spec", .obj [("containers", .arr [.obj [("name", .str "driver"), ("image", .str "old")]])])]

/-- A store running `controllerSet "old"` and its pod. -/
def driftedController : Cluster where
  objects := [(keyOf .pod controllerPod, controllerPod),
    (keyOf .statefulSet (controllerSet "old"), controllerSet "old")]

theorem driftedController_refreshed :
    ∃ v c', (Sync.ensureStatefulSet (controllerSet "new")).run.run driftedController = (.ok (), c') ∧
      Refreshed (keyOf .statefulSet (controllerSet "new")) v
        ((Sync.podTemplate (controllerSet "new")).getD .null)
        (driftedController.ordinalPods (some "ns") "ctl" 1) driftedController c' :=
  (workloads_refresh_exactly_stale_pods rfl ⟨by decide, by decide⟩ rfl (controllerSet "new")
    (controllerSet "old")).1 rfl rfl

/-- A replacement made to fail stops the convergence before its pods are looked up: the pod that
runs the old image keeps running. -/
theorem failedReplacement_keeps_stale_pod :
    let c : Cluster := { driftedController with
      failures := [{ verb := .update, kind := .statefulSet, message := "etcd unavailable" }] }
    let run := (Sync.ensureStatefulSet (controllerSet "new")).run.run c
    c.WellKeyed ∧ controllerPod ∈ c.ordinalPods (some "ns") "ctl" 1 ∧
      Sync.Stale ((Sync.podTemplate (controllerSet "new")).getD .null) controllerPod ∧
      (∃ e, run.1 = .error e) ∧ run.2.find? (keyOf .pod controllerPod) = some controllerPod := by
  intro c run
  exact ⟨⟨by decide, by decide⟩, List.mem_singleton.2 rfl, (Sync.isStale_iff _ _).1 (by decide),
    ⟨_, rfl⟩, rfl⟩

end Cluster

end CsiOperator
