import Mathlib.Data.List.Basic

/-!
# Sequential transducers

A transducer reads its inputs one after the other, keeps a state between them
and answers each of them with some outputs.  It is the sequential meaning of
code that handles messages in turn, whatever runs beside it.
-/

universe u v w

structure Transducer (State : Type u) (Input : Type v) (Output : Type w) where
  /-- The state after an input, and the outputs that answer it. -/
  handle : State → Input → State × List Output

namespace Transducer

variable {State : Type u} {Input : Type v} {Output : Type w}
variable (transducer : Transducer State Input Output)

/-- The last state and all outputs for a sequence of inputs. -/
def run (state : State) : List Input → State × List Output
  | [] => (state, [])
  | input :: inputs =>
      let (next, outputs) := transducer.handle state input
      let (last, later) := run next inputs
      (last, outputs ++ later)

@[simp] theorem run_nil (state : State) :
    transducer.run state [] = (state, []) := rfl

theorem run_cons (state : State) (input : Input) (inputs : List Input) :
    transducer.run state (input :: inputs) =
      ((transducer.run (transducer.handle state input).1 inputs).1,
        (transducer.handle state input).2 ++
          (transducer.run (transducer.handle state input).1 inputs).2) := rfl

/-- Later inputs are handled in the state that the earlier ones left. -/
theorem run_append (state : State) (earlier later : List Input) :
    transducer.run state (earlier ++ later) =
      ((transducer.run (transducer.run state earlier).1 later).1,
        (transducer.run state earlier).2 ++
          (transducer.run (transducer.run state earlier).1 later).2) := by
  induction earlier generalizing state with
  | nil => rfl
  | cons input inputs induction =>
      rw [List.cons_append, run_cons, run_cons, induction, List.append_assoc]

/-- One more input at the end. -/
theorem run_concat (state : State) (inputs : List Input) (input : Input) :
    transducer.run state (inputs ++ [input]) =
      ((transducer.handle (transducer.run state inputs).1 input).1,
        (transducer.run state inputs).2 ++
          (transducer.handle (transducer.run state inputs).1 input).2) := by
  rw [run_append, run_cons, run_nil, List.append_nil]

/-- What was answered stays answered: fewer inputs give fewer outputs. -/
theorem run_isPrefix (state : State) {earlier whole : List Input}
    (part : earlier <+: whole) :
    (transducer.run state earlier).2 <+: (transducer.run state whole).2 := by
  obtain ⟨later, rfl⟩ := part
  rw [run_append]
  exact List.prefix_append _ _

end Transducer
