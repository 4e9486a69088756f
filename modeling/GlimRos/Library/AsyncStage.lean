import Mathlib.Data.List.Basic
import Mathlib.Logic.Relation
import Mathlib.Tactic.Simps.Basic

/-!
# Asynchronous worker stages

A stage is a worker thread between an input queue and an output buffer.
Callers insert inputs and fetch the results that have piled up; the worker
consumes inputs and emits outputs on its own schedule until it is joined.
The stage keeps the histories of everything inserted and emitted.
-/

universe u v

@[ext]
structure Stage (Input : Type u) (Output : Type v) where
  /-- Every input ever inserted, oldest first. -/
  inserted : List Input
  /-- The inputs the worker has not consumed yet. -/
  pending : List Input
  /-- Every output ever emitted, oldest first. -/
  emitted : List Output
  /-- The outputs not fetched yet. -/
  buffer : List Output
  /-- The worker thread has ended. -/
  joined : Bool

namespace Stage

variable {Input : Type u} {Output : Type v}

@[simps]
def empty : Stage Input Output :=
  { inserted := []
    pending := []
    emitted := []
    buffer := []
    joined := false }

@[simps]
def insert (stage : Stage Input Output) (input : Input) :
    Stage Input Output :=
  { stage with
    inserted := stage.inserted ++ [input]
    pending := stage.pending ++ [input] }

/-- The state left behind by a caller that took the whole output buffer. -/
@[simps]
def fetched (stage : Stage Input Output) : Stage Input Output :=
  { stage with buffer := [] }

@[simps]
def emit (stage : Stage Input Output) (output : Output) :
    Stage Input Output :=
  { stage with
    emitted := stage.emitted ++ [output]
    buffer := stage.buffer ++ [output] }

/-- The worker has removed one input and `rest` is left. -/
@[simps]
def consume (stage : Stage Input Output) (rest : List Input) :
    Stage Input Output :=
  { stage with pending := rest }

@[simps]
def join (stage : Stage Input Output) : Stage Input Output :=
  { stage with joined := true }

/-- Joining blocks until the worker has consumed all of its input; joining
again returns at once. -/
def joinReturns (stage : Stage Input Output) : Bool :=
  stage.joined || stage.pending.isEmpty

/-- The worker has ended with nothing left to consume. -/
structure Finished (stage : Stage Input Output) : Prop where
  joined : stage.joined = true
  pending : stage.pending = []

/-- If a joined worker has nothing left to consume, neither has one whose
join returns. -/
theorem pending_of_joinReturns {stage : Stage Input Output}
    (returns : stage.joinReturns = true)
    (drained : stage.joined = true → stage.pending = []) :
    stage.pending = [] := by
  rw [joinReturns, Bool.or_eq_true] at returns
  rcases returns with joined | empty
  · exact drained joined
  · exact List.isEmpty_iff.mp empty

/-- A running worker removes one pending input, from whichever of its queues
it likes. -/
structure Consumes (stage : Stage Input Output) (input : Input)
    (rest : List Input) : Prop where
  running : stage.joined = false
  pending : stage.pending.Perm (input :: rest)

/-- A worker that a join waits for has an input to consume. -/
theorem exists_consumes {stage : Stage Input Output}
    (blocked : stage.joinReturns = false) :
    ∃ input rest, stage.Consumes input rest := by
  rw [joinReturns, Bool.or_eq_false_iff] at blocked
  cases queued : stage.pending with
  | nil => simp [queued] at blocked
  | cons input rest => exact ⟨input, rest, blocked.1, queued ▸ .refl _⟩

theorem Consumes.length {stage : Stage Input Output} {input : Input}
    {rest : List Input} (consumes : stage.Consumes input rest) :
    rest.length < stage.pending.length := by
  rw [consumes.pending.length_eq, List.length_cons]
  exact Nat.lt_succ_self _

/-- One step of the worker that emits nothing. -/
def ConsumesOne (stage next : Stage Input Output) : Prop :=
  ∃ input rest, stage.Consumes input rest ∧ next = stage.consume rest

/-- A worker that is left to itself comes to a point where a join returns. -/
theorem eventually_joinReturns (stage : Stage Input Output) :
    ∃ later, Relation.ReflTransGen ConsumesOne stage later ∧
      later.joinReturns = true := by
  generalize queued : stage.pending = pending
  induction pending generalizing stage with
  | nil => exact ⟨stage, .refl, by simp [joinReturns, queued]⟩
  | cons input rest induction =>
      cases running : stage.joined with
      | true => exact ⟨stage, .refl, by simp [joinReturns, running]⟩
      | false =>
          have consumes : stage.Consumes input rest :=
            ⟨running, queued ▸ .refl _⟩
          obtain ⟨later, steps, returns⟩ :=
            induction (stage.consume rest) rfl
          exact ⟨later, .head ⟨input, rest, consumes, rfl⟩ steps, returns⟩

/-- A worker that only consumes leaves the output buffer alone. -/
theorem consumes_buffer {stage later : Stage Input Output}
    (steps : Relation.ReflTransGen ConsumesOne stage later) :
    later.buffer = stage.buffer := by
  induction steps with
  | refl => rfl
  | tail _ step induction =>
      obtain ⟨_, _, _, rfl⟩ := step
      exact induction

end Stage
