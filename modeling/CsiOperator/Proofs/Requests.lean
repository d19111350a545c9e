import Mathlib
import CsiOperator.Proofs.Store
/-!
Write requests are atomic and logged once.

Every write request first checks that the server answers, that the write is not made to fail,
and whether the object it names is stored, and changes nothing before these checks pass. So a
request that fails leaves the whole cluster as it was: its objects, its write log and its uid
counter. A request that succeeds appends its write to the log once and changes the stored
object under its own key and no other; deleting a missing object succeeds and records nothing.

The engines' statements about what a reconcile wrote rest on this: a write shows in the log
exactly when it took effect, under the key it names.
-/

namespace CsiOperator.Cluster

variable {α : Type} {c : Cluster} {key : Key} {logged : List Write}

/-- The write of a verb to a key, as the log records it. -/
def Write.of (verb : Verb) (key : Key) : Write := { verb, kind := key.kind, name := key.name }

/-- What a request does from a cluster `c`, for the key it names and the writes it logs: when it
fails it leaves `c` as it was; when it succeeds it appends `logged` to the write log and
changes no object stored under another key. -/
def Atomic (key : Key) (logged : List Write) (m : ClusterM α) (c : Cluster) : Prop :=
  match m.run.run c with
  | (.error _, c') => c' = c
  | (.ok _, c') => c'.writes = c.writes ++ logged ∧ ∀ key', key' ≠ key → c'.find? key' = c.find? key'

theorem Atomic.of_error {m : ClusterM α} (h : ∃ e, m.run.run c = (.error e, c)) :
    Atomic key logged m c := by
  obtain ⟨e, h⟩ := h
  simp only [Atomic, h]

theorem Atomic.of_put {m : ClusterM α}
    (h : ∃ a v uid, m.run.run c = (.ok a, { c with
      objects := putObject c.objects key v, writes := c.writes ++ logged, lastUid := uid })) :
    Atomic key logged m c := by
  obtain ⟨a, v, uid, h⟩ := h
  unfold Atomic
  rw [h]
  exact ⟨rfl, fun key' hne => by simp only [find?_objects, find?_putObject, hne, if_false]⟩

theorem Atomic.guarded {verb : Verb} {k : ResourceKind} {rest : ClusterM α}
    (h : c.online = true → c.failing verb k = false → Atomic key logged rest c) :
    Atomic key logged (reach >>= fun _ => checkFailure verb k >>= fun _ => rest) c := by
  cases hon : c.online with
  | false => exact Atomic.of_error ⟨_, by rw [exceptState_run_bind, reach_error hon]⟩
  | true =>
    cases hfail : c.failing verb k with
    | true =>
      obtain ⟨e, he⟩ := checkFailure_error hfail
      refine Atomic.of_error ⟨e, ?_⟩
      simp only [exceptState_run_bind, reach_run hon, he]
    | false =>
      have passed := h hon hfail
      simp only [Atomic, exceptState_run_bind, reach_run hon, checkFailure_run hfail] at passed ⊢
      exact passed

theorem create_atomic (k : ResourceKind) (obj : Json) (c : Cluster) :
    Atomic (keyOf k obj) [Write.of .create (keyOf k obj)] (create k obj) c := by
  unfold create
  refine Atomic.guarded fun _ _ => ?_
  cases hfound : c.find? (keyOf k obj) with
  | some existing =>
    exact Atomic.of_error ⟨_, by
      simp only [exceptState_run_bind, exceptState_run_get, hfound, Option.isSome_some, if_true]
      rfl⟩
  | none =>
    exact Atomic.of_put ⟨_, _, c.lastUid + 1, by
      simp only [exceptState_run_bind, exceptState_run_get, hfound, Option.isSome_none,
        Bool.false_eq_true, if_false]
      rfl⟩

theorem update_atomic (k : ResourceKind) (obj : Json) (c : Cluster) :
    Atomic (keyOf k obj) [Write.of .update (keyOf k obj)] (update k obj) c := by
  unfold update
  refine Atomic.guarded fun _ _ => ?_
  cases hfound : c.find? (keyOf k obj) with
  | none =>
    exact Atomic.of_error ⟨_, by
      simp only [exceptState_run_bind, exceptState_run_get, hfound]
      rfl⟩
  | some existing =>
    exact Atomic.of_put ⟨_, _, c.lastUid, by
      simp only [exceptState_run_bind, exceptState_run_get, hfound]
      rfl⟩

theorem updateStatus_atomic (k : ResourceKind) (obj : Json) (c : Cluster) :
    Atomic (keyOf k obj) [Write.of .updateStatus (keyOf k obj)] (updateStatus k obj) c := by
  unfold updateStatus
  refine Atomic.guarded fun _ _ => ?_
  cases hfound : c.find? (keyOf k obj) with
  | none =>
    exact Atomic.of_error ⟨_, by
      simp only [exceptState_run_bind, exceptState_run_get, hfound]
      rfl⟩
  | some existing =>
    exact Atomic.of_put ⟨_, _, c.lastUid, by
      simp only [exceptState_run_bind, exceptState_run_get, hfound]
      rfl⟩

theorem delete_atomic (k : ResourceKind) (ns : Option String) (name : String) (c : Cluster) :
    Atomic (keyFor k ns name)
      (if (c.find? (keyFor k ns name)).isSome then [Write.of .delete (keyFor k ns name)] else [])
      (delete k ns name) c := by
  unfold delete
  refine Atomic.guarded fun _ _ => ?_
  cases hfound : c.find? (keyFor k ns name) with
  | none =>
    simp only [Atomic, exceptState_run_bind, exceptState_run_get, hfound, Option.isSome_none,
      Bool.false_eq_true, if_false, exceptState_run_pure, List.append_nil]
    exact ⟨trivial, fun _ _ => trivial⟩
  | some existing =>
    simp only [Atomic, exceptState_run_bind, exceptState_run_get, hfound, Option.isSome_some,
      if_true]
    refine ⟨rfl, fun key' hne => ?_⟩
    simp only [find?_objects, find?_filter_ne, hne, if_false]

/-- Every write request to the in-memory cluster is atomic and logged faithfully: from any
state, a creation, update, status write or deletion that fails leaves the cluster unchanged,
and one that succeeds appends its one write to the log (a deletion only when the object was
stored) and changes no stored object but the one under the key it names. -/
theorem write_requests_atomic (c : Cluster) (k : ResourceKind) (obj : Json) (ns : Option String)
    (name : String) :
    Atomic (keyOf k obj) [Write.of .create (keyOf k obj)] (create k obj) c ∧
    Atomic (keyOf k obj) [Write.of .update (keyOf k obj)] (update k obj) c ∧
    Atomic (keyOf k obj) [Write.of .updateStatus (keyOf k obj)] (updateStatus k obj) c ∧
    Atomic (keyFor k ns name)
      (if (c.find? (keyFor k ns name)).isSome then [Write.of .delete (keyFor k ns name)] else [])
      (delete k ns name) c :=
  ⟨create_atomic k obj c, update_atomic k obj c, updateStatus_atomic k obj c,
    delete_atomic k ns name c⟩

end CsiOperator.Cluster
