/-
This file is a small library of machines that emit a list of outputs on every
input. The outputs of a run are concatenated to its trace. What every step
preserves of the state, of the inputs that led to it and of the outputs on the
way holds after every run.
-/

import Mathlib.Data.List.Basic

/-- A machine that emits a list of outputs on every input. -/
structure Mealy (State Input Output : Type) where
  step : State → Input → State
  emit : State → Input → List Output

namespace Mealy

variable {State Input Output : Type} (machine : Mealy State Input Output)

/-- The state after a list of inputs. -/
def run (state : State) (inputs : List Input) : State := inputs.foldl machine.step state

/-- The outputs on a list of inputs. -/
def trace : State → List Input → List Output
  | _, [] => []
  | state, input :: rest => machine.emit state input ++ trace (machine.step state input) rest

@[simp] theorem run_nil (state : State) : machine.run state [] = state := rfl

@[simp] theorem run_cons (state : State) (input : Input) (rest : List Input) :
    machine.run state (input :: rest) = machine.run (machine.step state input) rest := rfl

@[simp] theorem trace_nil (state : State) : machine.trace state [] = [] := rfl

@[simp] theorem trace_cons (state : State) (input : Input) (rest : List Input) :
    machine.trace state (input :: rest) =
      machine.emit state input ++ machine.trace (machine.step state input) rest := rfl

theorem run_append (state : State) (front back : List Input) :
    machine.run state (front ++ back) = machine.run (machine.run state front) back :=
  List.foldl_append

theorem trace_append (state : State) (front back : List Input) :
    machine.trace state (front ++ back) =
      machine.trace state front ++ machine.trace (machine.run state front) back := by
  induction front generalizing state with
  | nil => rfl
  | cons input rest inductionHypothesis =>
    rw [List.cons_append, trace_cons, trace_cons, inductionHypothesis, List.append_assoc]
    rfl

variable {machine}

/-- What every step preserves of a state and the inputs that led to it holds after every run. -/
theorem run_history (Holds : List Input → State → Prop)
    (preserved : ∀ seen state input, Holds seen state →
      Holds (seen ++ [input]) (machine.step state input))
    {seen : List Input} {state : State} (initially : Holds seen state) (inputs : List Input) :
    Holds (seen ++ inputs) (machine.run state inputs) := by
  induction inputs generalizing seen state with
  | nil => exact (List.append_nil seen).symm ▸ initially
  | cons input rest inductionHypothesis =>
    rw [List.append_cons]
    exact inductionHypothesis (preserved seen state input initially)

/-- What every step preserves of a state, the inputs that led to it and the outputs on the way
holds after every run. -/
theorem trace_history (Holds : List Input → State → List Output → Prop)
    (preserved : ∀ seen state outputs input, Holds seen state outputs →
      Holds (seen ++ [input]) (machine.step state input) (outputs ++ machine.emit state input))
    {seen : List Input} {state : State} {outputs : List Output}
    (initially : Holds seen state outputs) (inputs : List Input) :
    Holds (seen ++ inputs) (machine.run state inputs) (outputs ++ machine.trace state inputs) := by
  induction inputs generalizing seen state outputs with
  | nil =>
    rw [List.append_nil, trace_nil, List.append_nil]
    exact initially
  | cons input rest inductionHypothesis =>
    rw [List.append_cons, trace_cons, ← List.append_assoc]
    exact inductionHypothesis (preserved seen state outputs input initially)

/-- What holds of every output in the states an invariant allows holds of the trace. -/
theorem trace_forall (Invariant : State → Prop) {Holds : Output → Prop} {inputs : List Input}
    (preserved : ∀ state, ∀ input ∈ inputs, Invariant state →
      Invariant (machine.step state input))
    (emitted : ∀ state, ∀ input ∈ inputs, Invariant state →
      ∀ output ∈ machine.emit state input, Holds output)
    {state : State} (initially : Invariant state) :
    ∀ output ∈ machine.trace state inputs, Holds output := by
  induction inputs generalizing state with
  | nil => exact fun output member => absurd member List.not_mem_nil
  | cons input rest inductionHypothesis =>
    intro output member
    rcases List.mem_append.mp member with now | later
    · exact emitted state input (List.mem_cons_self ..) initially output now
    · exact inductionHypothesis
        (fun other next inside => preserved other next (List.mem_cons_of_mem _ inside))
        (fun other next inside => emitted other next (List.mem_cons_of_mem _ inside))
        (preserved _ _ (List.mem_cons_self ..) initially) output later

/-- Outputs that depend on the input alone make a trace that depends on the inputs alone. -/
theorem filterMap_trace {Image : Type} {image : Output → Option Image} {of : Input → List Image}
    {inputs : List Input}
    (emitted : ∀ state, ∀ input ∈ inputs, (machine.emit state input).filterMap image = of input)
    (state : State) : (machine.trace state inputs).filterMap image = inputs.flatMap of := by
  induction inputs generalizing state with
  | nil => rfl
  | cons input rest inductionHypothesis =>
    rw [trace_cons, List.filterMap_append, emitted _ _ (List.mem_cons_self ..), List.flatMap_cons,
      inductionHypothesis fun other next member => emitted other next
        (List.mem_cons_of_mem _ member)]

end Mealy
