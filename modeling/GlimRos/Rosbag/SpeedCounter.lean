import GlimRos.Library.RateLimit
import Mathlib.Algebra.Order.Field.Rat
import Mathlib.Data.List.Induction
import Mathlib.Tactic.FieldSimp
import Mathlib.Tactic.Linarith

/-!
# `SpeedCounter`

The counter is updated after each message and reports the playback speed
every five seconds.  It compares the message with the one of the last report,
so the reports cover the recording without gap or overlap.
-/

namespace GlimRos.Rosbag

open RateLimit

/-- The stamp of a message in seconds and the clock in nanoseconds. -/
structure SpeedCounter where
  lastSimTime : Rat
  lastRealTime : Int
  deriving DecidableEq, Repr

namespace SpeedCounter

def start (now : Int) : SpeedCounter :=
  { lastSimTime := 0
    lastRealTime := now }

/-- `now - last_real_time < std::chrono::seconds(5)`. -/
def early (counter : SpeedCounter) (now : Int) : Bool :=
  now - counter.lastRealTime < 5000000000

/-- `sim / (real / 1e9)`. -/
def playbackSpeed (counter : SpeedCounter) (stamp : Rat) (now : Int) : Rat :=
  (stamp - counter.lastSimTime) /
    (((now - counter.lastRealTime : Int) : Rat) / 1e9)

/-- The counter after an update and the speed it has reported. -/
def update (counter : SpeedCounter) (stamp : Rat) (now : Int) :
    SpeedCounter × Option Rat :=
  if counter.early now then (counter, none)
  else
    ({ lastSimTime := stamp
       lastRealTime := now },
      if 0 < counter.lastSimTime then some (counter.playbackSpeed stamp now)
      else none)

/-- An update with the reports before it. -/
def step (state : SpeedCounter × List Rat) (reading : Rat × Int) :
    SpeedCounter × List Rat :=
  let updated := state.1.update reading.1 reading.2
  (updated.1, state.2 ++ updated.2.toList)

/-- All updates, each with the stamp of a message and the clock. -/
def run (now : Int) (readings : List (Rat × Int)) :
    SpeedCounter × List Rat :=
  readings.foldl step (start now, [])

@[simp] theorem run_concat (now : Int) (readings : List (Rat × Int))
    (reading : Rat × Int) :
    run now (readings ++ [reading]) = step (run now readings) reading := by
  simp [run]

/-! ## The updates that count -/

/-- The speed from one update to another. -/
def speedBetween (first second : Rat × Int) : Rat :=
  (second.1 - first.1) / (((second.2 - first.2 : Int) : Rat) / 1e9)

/-- The speeds between consecutive updates. -/
def speeds : List (Rat × Int) → List Rat
  | first :: second :: later =>
      speedBetween first second :: speeds (second :: later)
  | _ => []

theorem speeds_concat (marks : List (Rat × Int)) (last next : Rat × Int) :
    speeds (marks ++ [last, next]) =
      speeds (marks ++ [last]) ++ [speedBetween last next] := by
  induction marks with
  | nil => rfl
  | cons first marks induction =>
      cases marks with
      | nil => rfl
      | cons second marks =>
          simp only [List.cons_append, speeds] at induction ⊢
          rw [induction]

/-- What is covered by going at the given speeds from update to update. -/
def covered : List Rat → List (Rat × Int) → Rat
  | speed :: later, first :: second :: marks =>
      speed * (((second.2 - first.2 : Int) : Rat) / 1e9) +
        covered later (second :: marks)
  | _, _ => 0

/-- Each speed is what it takes to come from one update to the next. -/
theorem covered_speeds {first : Rat × Int} {marks : List (Rat × Int)}
    (spaced : Spaced 5000000000 ((first :: marks).map Prod.snd)) :
    covered (speeds (first :: marks)) (first :: marks) =
      (marks.getLastD first).1 - first.1 := by
  induction marks generalizing first with
  | nil => simp [speeds, covered]
  | cons second marks induction =>
      obtain ⟨apart, later⟩ := List.isChain_cons_cons.mp spaced
      have passed : ((second.2 - first.2 : Int) : Rat) ≠ 0 := by
        have positive : 0 < second.2 - first.2 := by omega
        exact_mod_cast positive.ne'
      have here : speedBetween first second *
          (((second.2 - first.2 : Int) : Rat) / 1e9) =
            second.1 - first.1 := by
        rw [speedBetween, div_mul_cancel₀]
        exact div_ne_zero passed (by norm_num)
      rw [speeds, covered, here, induction later, List.getLastD_cons]
      linarith

/-- The updates that are five seconds or more behind the one that counted
before, or behind the construction. -/
def counted (now : Int) (readings : List (Rat × Int)) : List (Rat × Int) :=
  admitted Prod.snd 5000000000 now readings

/-- What the counter remembers and has reported of the updates that count. -/
structure Marked (now : Int) (marks : List (Rat × Int))
    (state : SpeedCounter × List Rat) : Prop where
  reports : state.2 = speeds marks
  counter : state.1 =
    { lastSimTime := (marks.map Prod.fst).getLastD 0
      lastRealTime := (marks.map Prod.snd).getLastD now }

/-- The first update that counts reports nothing, a later one the speed since
the one before it. -/
theorem Marked.reported {now : Int} {marks : List (Rat × Int)}
    {state : SpeedCounter × List Rat}
    (positive : ∀ mark ∈ marks, 0 < mark.1)
    (marked : Marked now marks state) (reading : Rat × Int) :
    speeds marks ++
        (if 0 < state.1.lastSimTime then
          some (state.1.playbackSpeed reading.1 reading.2)
        else none).toList =
      speeds (marks ++ [reading]) := by
  rw [marked.counter]
  rcases List.eq_nil_or_concat' marks with rfl | ⟨earlier, last, rfl⟩
  · rfl
  · have counts : 0 < last.1 := positive last (by simp)
    rw [List.append_assoc, List.singleton_append, speeds_concat]
    simp only [List.map_append, List.map_cons, List.map_nil,
      List.getLastD_concat, counts, if_true]
    rfl

theorem Marked.step {now : Int} {readings : List (Rat × Int)}
    {state : SpeedCounter × List Rat}
    (positive : ∀ reading ∈ readings, 0 < reading.1)
    (marked : Marked now (counted now readings) state)
    (reading : Rat × Int) :
    Marked now (counted now (readings ++ [reading]))
      (SpeedCounter.step state reading) := by
  have positive : ∀ mark ∈ counted now readings, 0 < mark.1 :=
    fun mark member => positive mark
      ((admitted_sublist Prod.snd _ _ _).subset member)
  have due : state.1.early reading.2 = false ↔
      ((counted now readings).map Prod.snd).getLastD now + 5000000000 ≤
        reading.2 := by
    rw [early, marked.counter, decide_eq_false_iff_not]
    dsimp only
    omega
  rw [counted, admitted_concat, ← counted]
  cases early : state.1.early reading.2 with
  | true =>
      have same : SpeedCounter.step state reading = state := by
        simp [SpeedCounter.step, update, early]
      rw [if_neg fun counts => by simp [due.mpr counts] at early,
        List.append_nil, same]
      exact marked
  | false =>
      have updated : SpeedCounter.step state reading =
          ({ lastSimTime := reading.1
             lastRealTime := reading.2 },
            state.2 ++
              (if 0 < state.1.lastSimTime then
                some (state.1.playbackSpeed reading.1 reading.2)
              else none).toList) := by
        simp [SpeedCounter.step, update, early]
      rw [if_pos (due.mp early), updated]
      constructor
      · rw [← marked.reported positive reading, marked.reports]
      · simp

theorem run_marked (now : Int) (readings : List (Rat × Int))
    (positive : ∀ reading ∈ readings, 0 < reading.1) :
    Marked now (counted now readings) (run now readings) := by
  induction readings using List.reverseRecOn with
  | nil => exact ⟨rfl, rfl⟩
  | append_singleton readings reading induction =>
      have earlier : ∀ reading ∈ readings, 0 < reading.1 :=
        fun other member => positive other (List.mem_append_left _ member)
      rw [run_concat]
      exact (induction earlier).step earlier reading

/-- For every sequence of updates with positive stamps and under every clock:
the updates that count are five seconds apart at least, from each other and
from the start, the counter holds the last of them, the reports are the speeds
between them, and going at the reported speeds covers the recording from the
first of them to the last. -/
theorem reports_cover (now : Int) (readings : List (Rat × Int))
    (positive : ∀ reading ∈ readings, 0 < reading.1) :
    (counted now readings).Sublist readings ∧
      Spaced 5000000000 (now :: (counted now readings).map Prod.snd) ∧
      (run now readings).1 =
        { lastSimTime := ((counted now readings).map Prod.fst).getLastD 0
          lastRealTime :=
            ((counted now readings).map Prod.snd).getLastD now } ∧
      (run now readings).2 = speeds (counted now readings) ∧
      ∀ first later, counted now readings = first :: later →
        covered (run now readings).2 (counted now readings) =
          (later.getLastD first).1 - first.1 := by
  obtain ⟨reports, counter⟩ := run_marked now readings positive
  have spaced := admitted_spaced Prod.snd 5000000000 now readings
  refine ⟨admitted_sublist Prod.snd _ _ _, spaced, counter, reports, ?_⟩
  intro first later marks
  rw [counted] at marks
  rw [marks] at spaced
  rw [reports, counted, marks]
  exact covered_speeds (List.isChain_cons_cons.mp spaced).2

/-- Of three updates the second one is early. -/
theorem reports_cover_early :
    counted 0 [(1, 5000000000), (2, 6000000000), (11, 10000000000)] =
        [(1, 5000000000), (11, 10000000000)] ∧
      (run 0 [(1, 5000000000), (2, 6000000000), (11, 10000000000)]).2 =
        [2] := by
  obtain ⟨_, _, _, reports, _⟩ := reports_cover 0
    [(1, 5000000000), (2, 6000000000), (11, 10000000000)] (by decide +kernel)
  have marks : counted 0 [(1, 5000000000), (2, 6000000000),
      (11, 10000000000)] = [(1, 5000000000), (11, 10000000000)] := by
    decide +kernel
  refine ⟨marks, reports.trans ?_⟩
  rw [marks]
  decide +kernel

end SpeedCounter

end GlimRos.Rosbag
