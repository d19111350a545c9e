import Mathlib
import CsiOperator.Proofs.Controller
/-!
Two controller computations run side by side.

A statement that two reconcilers behave alike speaks of two runs at once, each from its own
state and on its own cluster. `Agree R Q x y` says that from any two states related by `R` the
runs of `x` and `y` fail together or answer values related by `Q`, and end in states related by
`R` again. Agreement composes as the computations do: answers, binds, conditions decided alike
and failures kept as values each have their rule, so that a proof that two computations agree
follows the shape of their code.

Controllers that run alike are `Alike`: their clocks read the same, the status writes they
recorded correspond one by one, and their clusters are related as the two reconcilers need.
-/

namespace CsiOperator

namespace Controller

variable {α β α' β' : Type}

/-- Two outcomes that match: both answered, with answers related by `Q`, or both failed, with
failures related by `F`. -/
def Outcomes (F : OperatorError → OperatorError → Prop) (Q : α → β → Prop) :
    Except OperatorError α → Except OperatorError β → Prop
  | .ok a, .ok b => Q a b
  | .error e₁, .error e₂ => F e₁ e₂
  | _, _ => False

/-- Two failures that report the same message. -/
def SameMessage (e₁ e₂ : OperatorError) : Prop := e₁.message = e₂.message

/-- Two finished runs that match: both failed or both answered values related by `Q`, and
they ended in states related by `R`. -/
def RunsMatch (R : Controller → Controller → Prop) (Q : α → β → Prop)
    (run₁ : Except OperatorError α × Controller) (run₂ : Except OperatorError β × Controller) :
    Prop :=
  Outcomes (fun _ _ => True) Q run₁.1 run₂.1 ∧ R run₁.2 run₂.2

/-- Two computations that agree: their runs from states related by `R` match. -/
def Agree (R : Controller → Controller → Prop) (Q : α → β → Prop) (x : ControllerM α)
    (y : ControllerM β) : Prop :=
  ∀ s₁ s₂, R s₁ s₂ → RunsMatch R Q (x.run.run s₁) (y.run.run s₂)

namespace Agree

variable {R : Controller → Controller → Prop} {Q : α → β → Prop} {Q' : α' → β' → Prop}
  {x : ControllerM α} {y : ControllerM β}

protected theorem pure {a : α} {b : β} (h : Q a b) : Agree R Q (pure a) (pure b) :=
  fun _ _ hs => ⟨h, hs⟩

protected theorem bind {f : α → ControllerM α'} {g : β → ControllerM β'} (hx : Agree R Q x y)
    (hf : ∀ a b, Q a b → Agree R Q' (f a) (g b)) : Agree R Q' (x >>= f) (y >>= g) := by
  intro s₁ s₂ hs
  have first := hx s₁ s₂ hs
  rw [exceptState_run_bind, exceptState_run_bind]
  -- the first runs failed together or answered related values
  rcases h₁ : x.run.run s₁ with ⟨_ | a, t₁⟩ <;> rcases h₂ : y.run.run s₂ with ⟨_ | b, t₂⟩ <;>
    rw [h₁, h₂] at first
  · exact ⟨trivial, first.2⟩
  · exact first.1.elim
  · exact first.1.elim
  · exact hf a b first.1 t₁ t₂ first.2

theorem mono {Q₂ : α → β → Prop} (h : Agree R Q x y) (hq : ∀ a b, Q a b → Q₂ a b) :
    Agree R Q₂ x y := by
  intro s₁ s₂ hs
  obtain ⟨hout, hend⟩ := h s₁ s₂ hs
  refine ⟨?_, hend⟩
  revert hout
  rcases (x.run.run s₁).1 with _ | a <;> rcases (y.run.run s₂).1 with _ | b
  · exact id
  · exact False.elim
  · exact False.elim
  · exact hq a b

protected theorem ite {c₁ c₂ : Prop} [Decidable c₁] [Decidable c₂] {x₁ y₁ : ControllerM α}
    {x₂ y₂ : ControllerM β} (hc : c₁ ↔ c₂) (hthen : c₁ → Agree R Q x₁ x₂)
    (helse : ¬c₁ → Agree R Q y₁ y₂) :
    Agree R Q (if c₁ then x₁ else y₁) (if c₂ then x₂ else y₂) := by
  by_cases h : c₁
  · rw [if_pos h, if_pos (hc.1 h)]
    exact hthen h
  · rw [if_neg h, if_neg (mt hc.2 h)]
    exact helse h

protected theorem attempt (h : Agree R Q x y) :
    Agree R (Outcomes (fun _ _ => True) Q) (attempt x) (attempt y) := by
  intro s₁ s₂ hs
  rw [attempt_run, attempt_run]
  exact h s₁ s₂ hs

end Agree

/-- Controllers that run alike: their clocks read the same, the status writes they recorded
correspond one by one under `W`, and their clusters are related by `C`. -/
structure Alike (C : Cluster → Cluster → Prop) (W : StatusWrite → StatusWrite → Prop)
    (s₁ s₂ : Controller) : Prop where
  clock : s₁.clock = s₂.clock
  statusWrites : List.Forall₂ W s₁.statusWrites s₂.statusWrites
  cluster : C s₁.cluster s₂.cluster

variable {C : Cluster → Cluster → Prop} {W : StatusWrite → StatusWrite → Prop}

theorem Alike.begun {s₁ s₂ : Controller} (h : Alike C W s₁ s₂) :
    Alike C W { s₁ with attempts := s₁.attempts + 1 } { s₂ with attempts := s₂.attempts + 1 } :=
  ⟨h.clock, h.statusWrites, h.cluster⟩

theorem now_agree : Agree (Alike C W) Eq now now := by
  intro s₁ s₂ hs
  rw [now_run, now_run]
  exact ⟨hs.clock, ⟨congrArg Instant.tick hs.clock, hs.statusWrites, hs.cluster⟩⟩

theorem noteStatus_agree {w₁ w₂ : StatusWrite} (hw : W w₁ w₂) :
    Agree (Alike C W) (fun _ _ => True) (noteStatus w₁) (noteStatus w₂) := by
  intro s₁ s₂ hs
  rw [noteStatus_run, noteStatus_run]
  exact ⟨trivial, ⟨hs.clock, List.rel_append hs.statusWrites (.cons hw .nil), hs.cluster⟩⟩

end Controller

end CsiOperator
