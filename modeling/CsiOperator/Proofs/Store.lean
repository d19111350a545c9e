import Mathlib
import CsiOperator.Cluster.Store
import CsiOperator.Proofs.StatusText
/-!
The in-memory cluster seen through the objects it stores.

A computation against the cluster runs in an exception monad over a state: a failure keeps the
state reached before it. The first section gives the equations that run such computations one
step at a time. Then lookups: storing an object changes the lookup of its own key only, and
deleting one empties its key only.

The main notion is what a computation leaves alone (`Preserves`): the objects of some kinds,
the injected failures and whether the server can be reached. Reads leave everything alone; a
write leaves alone every kind but its own; and the property passes through sequencing, failure
handling and loops over lists, so that it is proved of a whole convergence from its parts.
-/

namespace CsiOperator

/-! ## Running computations with failures over a state -/

section ExceptState

variable {ε σ α β : Type}

theorem exceptState_run_bind (x : ExceptT ε (StateM σ) α) (f : α → ExceptT ε (StateM σ) β)
    (s : σ) :
    (x >>= f).run.run s = match x.run.run s with
      | (.ok a, s') => (f a).run.run s'
      | (.error e, s') => (.error e, s') := by
  simp only [ExceptT.run_bind, StateT.run_bind]
  rcases x.run.run s with ⟨_ | a, s'⟩ <;> rfl

theorem exceptState_run_tryCatch (x : ExceptT ε (StateM σ) α) (h : ε → ExceptT ε (StateM σ) α)
    (s : σ) :
    (tryCatch x h).run.run s = match x.run.run s with
      | (.ok a, s') => (.ok a, s')
      | (.error e, s') => (h e).run.run s' := by
  show (ExceptT.tryCatch x h).run.run s = _
  simp only [ExceptT.tryCatch, ExceptT.mk, ExceptT.run, StateT.run_bind]
  rcases StateT.run x s with ⟨_ | a, s'⟩ <;> rfl

theorem exceptState_run_map (f : α → β) (x : ExceptT ε (StateM σ) α) (s : σ) :
    (f <$> x).run.run s = ((x.run.run s).1.map f, (x.run.run s).2) := by
  simp only [ExceptT.run_map, StateT.run_map]
  rcases x.run.run s with ⟨_ | a, s'⟩ <;> rfl

@[simp] theorem exceptState_run_pure (a : α) (s : σ) :
    (pure a : ExceptT ε (StateM σ) α).run.run s = (.ok a, s) := rfl

@[simp] theorem exceptState_run_throw (e : ε) (s : σ) :
    (throw e : ExceptT ε (StateM σ) α).run.run s = (.error e, s) := rfl

@[simp] theorem exceptState_run_get (s : σ) :
    (MonadState.get : ExceptT ε (StateM σ) σ).run.run s = (.ok s, s) := rfl

@[simp] theorem exceptState_run_modify (f : σ → σ) (s : σ) :
    (modify f : ExceptT ε (StateM σ) Unit).run.run s = (.ok (), f s) := rfl

@[simp] theorem exceptState_run_liftM (m : StateM σ α) (s : σ) :
    (liftM m : ExceptT ε (StateM σ) α).run.run s = (.ok (m.run s).1, (m.run s).2) := rfl

end ExceptState

/-! ## What a computation keeps

`Stays R m` says that running `m` from any state ends in a state related to it by `R`, whether
`m` succeeds or fails. For a reflexive and transitive `R` the property passes through every way
of putting computations together, so that it is proved of a whole convergence from its steps.
-/

section Stays

variable {ε σ α β : Type} {R : σ → σ → Prop}

/-- Every run of `m` ends in a state related by `R` to the one it started from. -/
def Stays (R : σ → σ → Prop) (m : ExceptT ε (StateM σ) α) : Prop := ∀ s, R s (m.run.run s).2

theorem Stays.map {x : ExceptT ε (StateM σ) α} (f : α → β) (hx : Stays R x) :
    Stays R (f <$> x) := by
  intro s
  rw [exceptState_run_map]
  exact hx s

theorem Stays.ite {c : Prop} [Decidable c] {x y : ExceptT ε (StateM σ) α} (hx : Stays R x)
    (hy : Stays R y) : Stays R (if c then x else y) := by
  split
  · exact hx
  · exact hy

theorem Stays.mono {R' : σ → σ → Prop} {x : ExceptT ε (StateM σ) α} (hx : Stays R x)
    (h : ∀ s s', R s s' → R' s s') : Stays R' x := fun s => h _ _ (hx s)

theorem Stays.bind [IsTrans σ R] {x : ExceptT ε (StateM σ) α} {f : α → ExceptT ε (StateM σ) β}
    (hx : Stays R x) (hf : ∀ a, Stays R (f a)) : Stays R (x >>= f) := by
  intro s
  rw [exceptState_run_bind]
  have first := hx s
  rcases hrun : x.run.run s with ⟨_ | a, s'⟩
  · simpa [hrun] using first
  · rw [hrun] at first
    exact IsTrans.trans _ _ _ first (hf a s')

theorem Stays.state_bind {x : ExceptT ε (StateM σ) α} {f : α → ExceptT ε (StateM σ) β}
    (hf : ∀ a, Stays Eq (f a)) (s : σ) : ((x >>= f).run.run s).2 = (x.run.run s).2 := by
  rw [exceptState_run_bind]
  rcases x.run.run s with ⟨_ | a, s'⟩
  · rfl
  · exact (hf a s').symm

theorem Stays.tryCatch [IsTrans σ R] {x : ExceptT ε (StateM σ) α}
    {h : ε → ExceptT ε (StateM σ) α} (hx : Stays R x) (hh : ∀ e, Stays R (h e)) :
    Stays R (tryCatch x h) := by
  intro s
  rw [exceptState_run_tryCatch]
  have first := hx s
  rcases hrun : x.run.run s with ⟨_ | a, s'⟩
  · rw [hrun] at first
    exact IsTrans.trans _ _ _ first (hh _ s')
  · simpa [hrun] using first

variable [Std.Refl R]

theorem Stays.pure (a : α) : Stays (ε := ε) R (pure a) := fun s => Std.Refl.refl s

theorem Stays.throw (e : ε) : Stays R (throw e : ExceptT ε (StateM σ) α) :=
  fun s => Std.Refl.refl s

theorem Stays.get : Stays (ε := ε) R (MonadState.get : ExceptT ε (StateM σ) σ) :=
  fun s => Std.Refl.refl s

/-- A computation that always answers and changes nothing. -/
def Answers (m : ExceptT ε (StateM σ) α) : Prop := ∀ s, ∃ a, m.run.run s = (.ok a, s)

omit [Std.Refl R] in
theorem Answers.pure (a : α) : Answers (ε := ε) (σ := σ) (pure a) := fun _ => ⟨a, rfl⟩

omit [Std.Refl R] in
theorem Answers.bind {x : ExceptT ε (StateM σ) α} {f : α → ExceptT ε (StateM σ) β}
    (hx : Answers x) (hf : ∀ a, Answers (f a)) : Answers (x >>= f) := by
  intro s
  obtain ⟨a, ha⟩ := hx s
  obtain ⟨b, hb⟩ := hf a s
  exact ⟨b, by rw [exceptState_run_bind, ha]; exact hb⟩

omit [Std.Refl R] in
theorem Answers.attempt {x : ExceptT ε (StateM σ) α} (hx : Stays Eq x) :
    Answers (tryCatch (Except.ok <$> x) fun e => (Pure.pure (Except.error e) : ExceptT ε (StateM σ) _)) := by
  intro s
  have same := hx s
  refine ⟨(x.run.run s).1, ?_⟩
  rw [exceptState_run_tryCatch, exceptState_run_map]
  rcases hrun : x.run.run s with ⟨_ | a, s'⟩ <;> rw [hrun] at same <;> subst same <;> rfl

omit [Std.Refl R] in
theorem Answers.stays {x : ExceptT ε (StateM σ) α} (hx : Answers x) : Stays Eq x := by
  intro s
  obtain ⟨a, ha⟩ := hx s
  rw [ha]

theorem Stays.of_eq {x : ExceptT ε (StateM σ) α} (hx : Stays Eq x) : Stays R x :=
  fun s => hx s ▸ Std.Refl.refl s

theorem Stays.forM [IsTrans σ R] {l : List α} {f : α → ExceptT ε (StateM σ) PUnit}
    (hf : ∀ a ∈ l, Stays R (f a)) : Stays R (l.forM f) := by
  induction l with
  | nil => exact Stays.pure _
  | cons a rest ih =>
    show Stays R (f a >>= fun _ => rest.forM f)
    exact (hf a (by simp)).bind fun _ => ih fun b hb => hf b (by simp [hb])

theorem Stays.forIn [IsTrans σ R] {l : List α} {b : β}
    {f : α → β → ExceptT ε (StateM σ) (ForInStep β)} (hf : ∀ a ∈ l, ∀ b, Stays R (f a b)) :
    Stays R (forIn l b f) := by
  induction l generalizing b with
  | nil => exact Stays.pure _
  | cons a rest ih =>
    rw [List.forIn_cons]
    refine (hf a (by simp) b).bind fun step => ?_
    cases step with
    | done b' => exact Stays.pure _
    | yield b' => exact ih fun a' ha' => hf a' (by simp [ha'])

theorem Stays.filterMapM [IsTrans σ R] {l : List α} {f : α → ExceptT ε (StateM σ) (Option β)}
    (hf : ∀ a ∈ l, Stays R (f a)) : Stays R (l.filterMapM f) := by
  induction l with
  | nil => exact Stays.pure _
  | cons a rest ih =>
    have later := ih fun b hb => hf b (by simp [hb])
    rw [List.filterMapM_cons]
    refine (hf a (by simp)).bind fun found => ?_
    cases found with
    | none => exact later
    | some b => exact later.bind fun _ => Stays.pure _

end Stays

namespace Cluster

/-! ## Lookups -/

theorem find?_objects (c : Cluster) (key : Key) :
    c.find? key = (c.objects.find? (·.1 == key)).map (·.2) := rfl

theorem find?_putObject (objs : List (Key × Json)) (key : Key) (v : Json) (key' : Key) :
    ((putObject objs key v).find? (·.1 == key')).map (·.2) =
      if key' = key then some v else (objs.find? (·.1 == key')).map (·.2) := by
  induction objs with
  | nil =>
    by_cases h : key' = key
    · simp [putObject, h]
    · have other : (key == key') = false := by simpa using Ne.symm h
      simp [putObject, h, other]
  | cons p rest ih =>
    obtain ⟨k, w⟩ := p
    simp only [putObject]
    by_cases same : k = key
    · -- the key is stored already: its value is replaced in place
      subst same
      by_cases h : key' = k
      · simp [h]
      · have other : (k == key') = false := by simpa using Ne.symm h
        simp [h, other]
    · have differ : (k == key) = false := by simpa using same
      by_cases ahead : key.before k = true
      · -- the key goes in front of `k`
        by_cases h : key' = key
        · simp [differ, ahead, h]
        · have other : (key == key') = false := by simpa using Ne.symm h
          simp [differ, ahead, h, other]
      · have behind : key.before k = false := by simpa using ahead
        simp only [differ, behind, Bool.false_eq_true, if_false, List.find?_cons]
        by_cases h : k = key'
        · subst h
          simp [same]
        · have other : (k == key') = false := by simpa using h
          simp only [other]
          exact ih

theorem find?_filter_ne (objs : List (Key × Json)) (key key' : Key) :
    ((objs.filter (·.1 != key)).find? (·.1 == key')).map (·.2) =
      if key' = key then none else (objs.find? (·.1 == key')).map (·.2) := by
  induction objs with
  | nil => simp
  | cons p rest ih =>
    obtain ⟨k, w⟩ := p
    by_cases hk : k = key
    · -- the deleted object is dropped
      subst hk
      have dropped : (k != k) = false := by simp
      rw [List.filter_cons, dropped]
      simp only [Bool.false_eq_true, if_false, ih]
      by_cases h : key' = k
      · simp [h]
      · have other : (k == key') = false := by simpa using Ne.symm h
        simp [h, other]
    · have kept : (k != key) = true := by simpa using hk
      rw [List.filter_cons, kept, if_pos rfl]
      by_cases h : k = key'
      · subst h
        simp [hk]
      · have other : (k == key') = false := by simpa using h
        simp only [List.find?_cons, other]
        exact ih

/-! ## What the requests keep -/

/-- What a computation leaves alone: the objects of the kinds `keep` picks, the failures
injected, and whether the server can be reached. -/
structure Keeps (keep : ResourceKind → Prop) (c c' : Cluster) : Prop where
  objects : ∀ key : Key, keep key.kind → c'.find? key = c.find? key
  failures : c'.failures = c.failures
  online : c'.online = c.online

section Keeps

variable {keep : ResourceKind → Prop}

instance : Std.Refl (Keeps keep) := ⟨fun _ => ⟨fun _ _ => rfl, rfl, rfl⟩⟩

instance : IsTrans Cluster (Keeps keep) :=
  ⟨fun _ _ _ h₁ h₂ => ⟨fun key hk => (h₂.objects key hk).trans (h₁.objects key hk),
    h₂.failures.trans h₁.failures, h₂.online.trans h₁.online⟩⟩

theorem Keeps.of_eq {c c' : Cluster} (h : c = c') : Keeps keep c c' := h ▸ Std.Refl.refl c

theorem keeps_putObject (c : Cluster) {key : Key} (hk : ¬keep key.kind) (v : Json) :
    Keeps keep c { c with objects := putObject c.objects key v } := by
  refine ⟨fun key' hk' => ?_, rfl, rfl⟩
  have differ : key' ≠ key := by
    rintro rfl
    exact hk hk'
  simp only [find?_objects, find?_putObject, differ, if_false]

end Keeps

theorem reach_stays : Stays Eq reach := by
  unfold reach
  exact Stays.get.bind fun _ => Stays.ite (Stays.throw _) (Stays.pure _)

theorem checkFailure_stays (verb : Verb) (k : ResourceKind) : Stays Eq (checkFailure verb k) := by
  unfold checkFailure
  refine Stays.get.bind fun c => ?_
  split
  · exact Stays.throw _
  · exact Stays.pure _

theorem get_stays (k : ResourceKind) (ns : Option String) (name : String) :
    Stays Eq (get k ns name) :=
  reach_stays.bind fun _ => Stays.get.bind fun _ => Stays.pure _

theorem list_stays (k : ResourceKind) (ns : Option String) (selector : List (String × String)) :
    Stays Eq (list k ns selector) :=
  reach_stays.bind fun _ => Stays.get.bind fun _ => Stays.pure _

section Writes

variable {keep : ResourceKind → Prop}

theorem freshUid_keeps : Stays (ε := OperatorError) (Keeps keep) (liftM freshUid) :=
  fun _ => ⟨fun _ _ => rfl, rfl, rfl⟩

theorem record_keeps (verb : Verb) (key : Key) :
    Stays (ε := OperatorError) (Keeps keep) (liftM (record verb key)) :=
  fun _ => ⟨fun _ _ => rfl, rfl, rfl⟩

theorem putObject_keeps {key : Key} (hk : ¬keep key.kind) (v : Json) :
    Stays (ε := OperatorError) (Keeps keep)
      (modify fun c : Cluster => { c with objects := putObject c.objects key v }) :=
  fun c => keeps_putObject c hk v

theorem create_keeps {k : ResourceKind} (hk : ¬keep k) (obj : Json) :
    Stays (Keeps keep) (create k obj) := by
  unfold create
  dsimp only
  refine reach_stays.of_eq.bind fun _ => (checkFailure_stays _ _).of_eq.bind fun _ => ?_
  refine Stays.get.bind fun _ => Stays.ite ((Stays.throw _).bind fun _ => ?_) ?_ <;>
  exact freshUid_keeps.bind fun _ => (record_keeps _ _).bind fun _ =>
    (putObject_keeps hk _).bind fun _ => Stays.pure _

theorem update_keeps {k : ResourceKind} (hk : ¬keep k) (obj : Json) :
    Stays (Keeps keep) (update k obj) := by
  unfold update
  refine reach_stays.of_eq.bind fun _ => (checkFailure_stays _ _).of_eq.bind fun _ => ?_
  refine Stays.get.bind fun c => ?_
  split
  · exact (record_keeps _ _).bind fun _ => (putObject_keeps hk _).bind fun _ => Stays.pure _
  · exact Stays.throw _

theorem updateStatus_keeps {k : ResourceKind} (hk : ¬keep k) (obj : Json) :
    Stays (Keeps keep) (updateStatus k obj) := by
  unfold updateStatus
  refine reach_stays.of_eq.bind fun _ => (checkFailure_stays _ _).of_eq.bind fun _ => ?_
  refine Stays.get.bind fun c => ?_
  split
  · exact (record_keeps _ _).bind fun _ => (putObject_keeps hk _).bind fun _ => Stays.pure _
  · exact Stays.throw _

theorem patch_keeps {k : ResourceKind} (hk : ¬keep k) (ns : Option String) (name : String)
    (p : Json) : Stays (Keeps keep) (patch k ns name p) := by
  unfold patch
  refine reach_stays.of_eq.bind fun _ => (checkFailure_stays _ _).of_eq.bind fun _ => ?_
  refine Stays.get.bind fun c => ?_
  split
  · exact (record_keeps _ _).bind fun _ => (putObject_keeps hk _).bind fun _ => Stays.pure _
  · exact Stays.throw _

theorem delete_keeps {k : ResourceKind} (hk : ¬keep k) (ns : Option String) (name : String) :
    Stays (Keeps keep) (delete k ns name) := by
  unfold delete
  refine reach_stays.of_eq.bind fun _ => (checkFailure_stays _ _).of_eq.bind fun _ => ?_
  refine Stays.get.bind fun c => Stays.ite ?_ (Stays.pure _)
  refine (record_keeps _ _).bind fun _ => fun c => ⟨fun key' hk' => ?_, rfl, rfl⟩
  have differ : key' ≠ keyFor k ns name := by
    rintro rfl
    exact hk hk'
  simp only [exceptState_run_modify, find?_objects, find?_filter_ne, differ, if_false]

end Writes

/-! ## Requests that are answered -/

/-- Whether the cluster makes a kind of write to a kind of object fail. -/
def failing (c : Cluster) (verb : Verb) (k : ResourceKind) : Bool :=
  c.failures.any fun f => f.verb == verb && f.kind == k

/-- The status member of the object stored under a key. -/
def statusAt (c : Cluster) (key : Key) : Option Json := (c.find? key).bind (·.get? "status")

theorem Keeps.statusAt {keep : ResourceKind → Prop} {c c' : Cluster} (h : Keeps keep c c')
    {key : Key} (hk : keep key.kind) : c'.statusAt key = c.statusAt key := by
  simp only [Cluster.statusAt, h.objects key hk]

theorem Keeps.failing {keep : ResourceKind → Prop} {c c' : Cluster} (h : Keeps keep c c')
    (verb : Verb) (k : ResourceKind) : c'.failing verb k = c.failing verb k := by
  simp only [Cluster.failing, h.failures]

theorem reach_run {c : Cluster} (h : c.online = true) :
    reach.run.run c = (.ok (), c) := by
  simp only [reach, exceptState_run_bind, exceptState_run_get, h, Bool.not_true,
    Bool.false_eq_true, if_false]
  rfl

theorem reach_error {c : Cluster} (h : c.online = false) :
    reach.run.run c = (.error (.api .unreachable), c) := by
  simp only [reach, exceptState_run_bind, exceptState_run_get, h, Bool.not_false, if_true]
  rfl

theorem checkFailure_error {c : Cluster} {verb : Verb} {k : ResourceKind}
    (h : c.failing verb k = true) : ∃ e, (checkFailure verb k).run.run c = (.error e, c) := by
  cases hf : c.failures.find? (fun f => f.verb == verb && f.kind == k) with
  | none =>
    obtain ⟨x, hx, hmatch⟩ := List.any_eq_true.1 (show c.failures.any _ = true from h)
    exact absurd hmatch (List.find?_eq_none.1 hf x hx)
  | some f =>
    exact ⟨_, by simp only [checkFailure, exceptState_run_bind, exceptState_run_get, hf]; rfl⟩

theorem checkFailure_run {c : Cluster} {verb : Verb} {k : ResourceKind}
    (h : c.failing verb k = false) : (checkFailure verb k).run.run c = (.ok (), c) := by
  have none_found : c.failures.find? (fun f => f.verb == verb && f.kind == k) = none := by
    simpa [failing] using h
  simp only [checkFailure, exceptState_run_bind, exceptState_run_get, none_found]
  rfl

theorem get_run {c : Cluster} (h : c.online = true) (k : ResourceKind) (ns : Option String)
    (name : String) : (get k ns name).run.run c = (.ok (c.find? (keyFor k ns name)), c) := by
  simp only [get, exceptState_run_bind, reach_run h, exceptState_run_get]
  rfl

theorem get?_setMeta (obj : Json) (field : String) (v : Json) {key : String}
    (h : key ≠ "metadata") : (setMeta obj field v).get? key = obj.get? key := by
  unfold setMeta
  split
  · exact Json.get?_set_of_ne _ _ (Ne.symm h)
  · rfl

theorem get?_bumpVersion (obj : Json) {key : String} (h : key ≠ "metadata") :
    (bumpVersion obj).get? key = obj.get? key :=
  get?_setMeta obj _ _ h

theorem updateStatus_run {c : Cluster} {k : ResourceKind} {obj existing : Json}
    (hon : c.online = true) (hfail : c.failing .updateStatus k = false)
    (hfound : c.find? (keyOf k obj) = some existing) :
    (updateStatus k obj).run.run c =
      (.ok (bumpVersion (existing.set "status" ((obj.get? "status").getD .null))),
        { c with
          objects := putObject c.objects (keyOf k obj)
            (bumpVersion (existing.set "status" ((obj.get? "status").getD .null)))
          writes := c.writes ++ [{ verb := .updateStatus, kind := k, name := (keyOf k obj).name }] }) := by
  simp only [updateStatus, exceptState_run_bind, reach_run hon, checkFailure_run hfail,
    exceptState_run_get, hfound]
  rfl

theorem statusAt_putObject (c : Cluster) (key key' : Key) (v : Json) :
    statusAt { c with objects := putObject c.objects key v } key' =
      if key' = key then v.get? "status" else statusAt c key' := by
  simp only [statusAt, find?_objects, find?_putObject]
  split <;> rfl

theorem statusAt_updateStatus {c : Cluster} {k : ResourceKind} {obj existing : Json}
    (hon : c.online = true) (hfail : c.failing .updateStatus k = false)
    (hfound : c.find? (keyOf k obj) = some existing) (key : Key) :
    statusAt ((updateStatus k obj).run.run c).2 key =
      if key = keyOf k obj then some ((obj.get? "status").getD .null) else statusAt c key := by
  rw [updateStatus_run hon hfail hfound]
  have written : (bumpVersion (existing.set "status" ((obj.get? "status").getD .null))).get?
      "status" = some ((obj.get? "status").getD .null) := by
    rw [get?_bumpVersion _ (by decide), Json.get?_set_self]
  simp only [statusAt, find?_objects, find?_putObject]
  split
  · simp [written]
  · rfl

end Cluster

end CsiOperator
