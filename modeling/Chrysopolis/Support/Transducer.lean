import Mathlib.Data.List.Basic

/-! Machines that take an input, move and emit. A run is the fold of the step;
an invariant or a simulation is proved for one step and holds of every run. -/

set_option autoImplicit false

namespace Chrysopolis.Support

/-- A deterministic machine with outputs. -/
structure Transducer (σ ι ω : Type) where
  step : σ → ι → σ × List ω

namespace Transducer

variable {σ ι ω : Type} (machine : Transducer σ ι ω)

/-- The state after the inputs. -/
def after (state : σ) (inputs : List ι) : σ :=
  inputs.foldl (fun current input => (machine.step current input).1) state

/-- Everything the inputs make the machine emit, in order. -/
def trace (state : σ) : List ι → List ω
  | [] => []
  | input :: inputs =>
      (machine.step state input).2 ++ trace (machine.step state input).1 inputs

@[simp] theorem after_nil (state : σ) : machine.after state [] = state := rfl

@[simp] theorem after_cons (state : σ) (input : ι) (inputs : List ι) :
    machine.after state (input :: inputs) =
      machine.after (machine.step state input).1 inputs := rfl

theorem after_append (state : σ) (first second : List ι) :
    machine.after state (first ++ second) = machine.after (machine.after state first) second :=
  List.foldl_append

@[simp] theorem trace_nil (state : σ) : machine.trace state [] = [] := rfl

@[simp] theorem trace_cons (state : σ) (input : ι) (inputs : List ι) :
    machine.trace state (input :: inputs) =
      (machine.step state input).2 ++ machine.trace (machine.step state input).1 inputs := rfl

theorem trace_append (state : σ) (first second : List ι) :
    machine.trace state (first ++ second) =
      machine.trace state first ++ machine.trace (machine.after state first) second := by
  induction first generalizing state with
  | nil => rfl
  | cons input first ih => simp [ih, List.append_assoc]

/-- What every step preserves, every run preserves. -/
theorem after_invariant (invariant : σ → Prop)
    (preserved : ∀ state input, invariant state → invariant (machine.step state input).1)
    {state : σ} (initial : invariant state) (inputs : List ι) :
    invariant (machine.after state inputs) := by
  induction inputs generalizing state with
  | nil => exact initial
  | cons input inputs ih => exact ih (preserved state input initial)

/-- An invariant between what has been emitted and the state reached. -/
theorem trace_invariant (invariant : List ω → σ → Prop)
    (preserved : ∀ emitted state input, invariant emitted state →
      invariant (emitted ++ (machine.step state input).2) (machine.step state input).1)
    {emitted : List ω} {state : σ} (initial : invariant emitted state) (inputs : List ι) :
    invariant (emitted ++ machine.trace state inputs) (machine.after state inputs) := by
  induction inputs generalizing emitted state with
  | nil => simpa using initial
  | cons input inputs ih =>
      have next := ih (preserved emitted state input initial)
      simpa [List.append_assoc] using next

end Transducer

end Chrysopolis.Support
