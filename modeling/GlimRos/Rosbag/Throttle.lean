import GlimRos.Library.History
import GlimRos.Rosbag.Progress
import Mathlib.Algebra.BigOperators.Group.List.Basic
import Mathlib.Tactic.Linarith

/-!
# The playback speed is kept across pauses, seeks and bags

The log of a playback says what `bag_t0` and `real_t0` stand for: the first
message read after the last seek, and the clock reading at that message
shifted by all pauses since.  From this the throttle loop gets its meaning.
-/

namespace GlimRos.Rosbag

open History

/-! ## What the log says about the time origin -/

def anchorStep (current : Option (Read × Int)) :
    Event → Option (Read × Int)
  | .read read now => current.or (some (read, now))
  | .seek _ => none
  | .pause _ _ | .handed _ => current

/-- The first message read after the last seek, or the first message at all,
and the clock reading when it was read. -/
def anchor (log : List Event) : Option (Read × Int) :=
  log.foldl anchorStep none

def Event.pauseDuration : Event → Int
  | .pause start stop => stop - start
  | .read _ _ | .seek _ | .handed _ => 0

/-- The measured duration of all pauses. -/
def pauseTotal (log : List Event) : Int :=
  (log.map Event.pauseDuration).sum

@[simp] theorem anchor_concat (log : List Event) (event : Event) :
    anchor (log ++ [event]) = anchorStep (anchor log) event := by
  simp [anchor]

@[simp] theorem pauseTotal_concat (log : List Event) (event : Event) :
    pauseTotal (log ++ [event]) = pauseTotal log + event.pauseDuration := by
  simp [pauseTotal]

/-- A message is handed on no earlier than the playback speed allows, counted
from the anchor and without the pauses. -/
def OnTime (settings : Settings) (before : List Event) (event : Event) :
    Prop :=
  ∀ entry, event = .handed entry →
    ∃ first T0, anchor before = some (first, T0) ∧
      (entry.read.time : Rat) - first.time ≤
        settings.playbackSpeed * (entry.now - T0 - pauseTotal before)

/-! ## Messages come from the bags -/

/-- What holds of every message of the bags holds of those to be read. -/
structure Supplied (settings : Settings) (Holds : Read → Prop)
    (player : Player) : Prop where
  bags : ∀ bag ∈ player.bags, ∀ read ∈ settings.openBag bag, Holds read
  opened : ∀ read ∈ player.opened, Holds read
  reader : ∀ read ∈ player.reader, Holds read

variable {settings : Settings} {input : Input} {player next : Player}
  {clock : Int}

theorem Supplied.move {Holds : Read → Prop}
    (supplied : Supplied settings Holds player)
    (move : Move settings input player next) :
    Supplied settings Holds next := by
  obtain ⟨bags, opened, reader⟩ := supplied
  cases move with
  | @opens bag later pc list =>
      rw [list] at bags
      have here := bags bag List.mem_cons_self
      exact ⟨fun other member => bags other (List.mem_cons_of_mem _ member),
        here, here⟩
  | seeks pc list up offset =>
      exact ⟨bags, opened, fun read member =>
        opened read ((seek_sublist _ _).subset member)⟩
  | refuses pc list up offset refused =>
      rw [list] at reader
      exact ⟨bags, opened, fun read member =>
        reader read (List.mem_cons_of_mem _ member)⟩
  | accepts pc list up offset accepted =>
      rw [list] at reader
      exact ⟨bags, opened, fun read member =>
        reader read (List.mem_cons_of_mem _ member)⟩
  | _ => exact ⟨bags, opened, reader⟩

/-! ## The sentinels and the anchor -/

/-- The sentinels hold zero as long as there is no anchor, and the anchor
shifted by the pauses from then on. -/
structure Anchored (player : Player) : Prop where
  unread : anchor player.log = none →
    player.bagT0 = 0 ∧ player.realT0 = 0 ∧ pauseTotal player.log = 0
  set : ∀ first T0, anchor player.log = some (first, T0) →
    0 < first.time ∧ 0 < T0 ∧ player.bagT0 = first.time ∧
      player.realT0 = T0 + pauseTotal player.log
  pauses : 0 ≤ pauseTotal player.log
  offset : 0 < player.startOffset → anchor player.log = none

theorem anchored_start (bags : List Bag) (startOffset : Rat) :
    Anchored (Player.start bags startOffset) where
  unread _ := ⟨rfl, rfl, rfl⟩
  set first T0 anchored := by cases anchored
  pauses := le_rfl
  offset _ := rfl

/-- The variables that the due time of a message is computed from. -/
def Player.origin (player : Player) : Int × Int × Rat :=
  (player.bagT0, player.realT0, player.startOffset)

/-- Events that are neither a read, a seek nor a pause change nothing. -/
theorem Anchored.keep (anchored : Anchored player)
    (sameAnchor : anchor next.log = anchor player.log)
    (samePauses : pauseTotal next.log = pauseTotal player.log)
    (origin : next.origin = player.origin) : Anchored next := by
  obtain ⟨unread, set, pauses, offset⟩ := anchored
  simp only [Player.origin, Prod.mk.injEq] at origin
  obtain ⟨bagT0, realT0, startOffset⟩ := origin
  constructor
  · rw [sameAnchor, samePauses, bagT0, realT0]
    exact unread
  · rw [sameAnchor, samePauses, bagT0, realT0]
    exact set
  · rw [samePauses]
    exact pauses
  · rw [sameAnchor, startOffset]
    exact offset

/-- Reading a message sets the sentinels if they are unset. -/
theorem Anchored.read (anchored : Anchored player) {read : Read}
    {now : Int} (positive : 0 < read.time) (running : 0 < now)
    (log : next.log = player.log ++ [.read read now])
    (bagT0 : next.bagT0 = originWith player.bagT0 read)
    (realT0 : next.realT0 = player.realT0With now)
    (consumed : ¬ 0 < next.startOffset) : Anchored next := by
  have samePauses : pauseTotal next.log = pauseTotal player.log := by
    rw [log, pauseTotal_concat, Event.pauseDuration, add_zero]
  have newAnchor : anchor next.log =
      (anchor player.log).or (some (read, now)) := by
    rw [log, anchor_concat, anchorStep]
  have pauses := anchored.pauses
  cases known : anchor player.log with
  | none =>
      obtain ⟨noBag, noReal, noPause⟩ := anchored.unread known
      rw [known, Option.none_or] at newAnchor
      constructor
      · intro unset
        rw [newAnchor] at unset
        cases unset
      · intro first T0 same
        rw [newAnchor] at same
        cases same
        refine ⟨positive, running, ?_, ?_⟩
        · rw [bagT0, noBag, originWith_zero]
        · rw [realT0, samePauses, noPause, Player.realT0With, if_pos noReal,
            add_zero]
      · rw [samePauses]
        exact pauses
      · intro offset
        exact (consumed offset).elim
  | some found =>
      obtain ⟨origin, start⟩ := found
      obtain ⟨bagPositive, startPositive, bag, real⟩ :=
        anchored.set origin start known
      rw [known, Option.some_or] at newAnchor
      have realSet : player.realT0 ≠ 0 := by omega
      have bagSet : player.bagT0 ≠ 0 := by omega
      constructor
      · intro unset
        rw [newAnchor] at unset
        cases unset
      · intro first T0 same
        rw [newAnchor] at same
        cases same
        refine ⟨bagPositive, startPositive, ?_, ?_⟩
        · rw [bagT0, originWith_of_ne_zero bagSet, bag]
        · rw [realT0, samePauses, Player.realT0With, if_neg realSet, real]
      · rw [samePauses]
        exact pauses
      · intro offset
        exact (consumed offset).elim

/-- The seek takes the anchor back.  It comes before any pause. -/
theorem Anchored.seek (anchored : Anchored player) {read : Read}
    {now : Int} {target : Rat} (offset : 0 < player.startOffset)
    (log : next.log = player.log ++ [.read read now, .seek target])
    (bagT0 : next.bagT0 = 0) (realT0 : next.realT0 = 0) :
    Anchored next := by
  obtain ⟨_, _, noPause⟩ := anchored.unread (anchored.offset offset)
  have twoEvents :
      next.log = (player.log ++ [.read read now]) ++ [.seek target] := by
    rw [log, List.append_assoc]
    rfl
  have newAnchor : anchor next.log = none := by
    rw [twoEvents, anchor_concat, anchorStep]
  have newPauses : pauseTotal next.log = 0 := by
    rw [twoEvents, pauseTotal_concat, pauseTotal_concat, noPause]
    rfl
  constructor
  · intro _
    exact ⟨bagT0, realT0, newPauses⟩
  · intro first T0 same
    rw [newAnchor] at same
    cases same
  · exact newPauses.ge
  · intro _
    exact newAnchor

/-- A pause shifts `real_t0` by its duration. -/
theorem Anchored.pause (anchored : Anchored player) {start stop : Int}
    (forward : start ≤ stop) (known : anchor player.log ≠ none)
    (log : next.log = player.log ++ [.pause start stop])
    (bagT0 : next.bagT0 = player.bagT0)
    (realT0 : next.realT0 = player.realT0 + (stop - start))
    (startOffset : next.startOffset = player.startOffset) :
    Anchored next := by
  have sameAnchor : anchor next.log = anchor player.log := by
    rw [log, anchor_concat, anchorStep]
  have newPauses :
      pauseTotal next.log = pauseTotal player.log + (stop - start) := by
    rw [log, pauseTotal_concat, Event.pauseDuration]
  constructor
  · intro unset
    rw [sameAnchor] at unset
    exact (known unset).elim
  · intro first T0 same
    rw [sameAnchor] at same
    obtain ⟨positive, running, bag, real⟩ := anchored.set first T0 same
    refine ⟨positive, running, bagT0.trans bag, ?_⟩
    rw [realT0, newPauses, real, add_assoc]
  · have before := anchored.pauses
    rw [newPauses]
    omega
  · rw [sameAnchor, startOffset]
    exact anchored.offset

/-! ## The clock -/

/-- What the pc promises about the last clock reading. -/
def Timely (settings : Settings) (clock : Int) (player : Player) : Prop :=
  match player.pc with
  | .paused _ pauseStart => pauseStart ≤ clock
  | .dispatch read =>
      (read.time : Rat) - player.bagT0 ≤
        settings.playbackSpeed * (clock - player.realT0)
  | _ => True

/-- The invariant of a playback whose last clock reading is `clock`. -/
structure Timed (settings : Settings) (clock : Int) (player : Player) :
    Prop where
  anchored : Anchored player
  body : player.pc.inBody = true → anchor player.log ≠ none
  timely : Timely settings clock player
  onTime : Lawful (OnTime settings) player.log

theorem timed_start (bags : List Bag) (startOffset : Rat) :
    Timed settings clock (Player.start bags startOffset) where
  anchored := anchored_start bags startOffset
  body within := by cases within
  timely := trivial
  onTime := Lawful.nil

/-- The promises outlast a later clock reading. -/
theorem Timed.later (timed : Timed settings clock player) {now : Int}
    (speed : 0 < settings.playbackSpeed) (forward : clock ≤ now) :
    Timed settings now player := by
  obtain ⟨anchored, body, timely, onTime⟩ := timed
  refine ⟨anchored, body, ?_, onTime⟩
  unfold Timely at *
  split at timely
  · exact timely.trans forward
  · have cast : (clock : Rat) - player.realT0 ≤ now - player.realT0 := by
      have ordered : (clock : Rat) ≤ now := by exact_mod_cast forward
      linarith
    exact timely.trans (mul_le_mul_of_nonneg_left cast speed.le)
  · trivial

/-- A step that leaves the log and the sentinels alone. -/
theorem Timed.moveTo (timed : Timed settings clock player)
    (log : next.log = player.log) (origin : next.origin = player.origin)
    (within : next.pc.inBody = true → player.pc.inBody = true)
    (timely : Timely settings clock next) : Timed settings clock next where
  anchored := timed.anchored.keep (by rw [log]) (by rw [log]) origin
  body inside := by
    rw [log]
    exact timed.body (within inside)
  timely := timely
  onTime := by
    rw [log]
    exact timed.onTime

/-- Such a step that leaves the loop body as well. -/
theorem Timed.leave (timed : Timed settings clock player)
    (log : next.log = player.log) (origin : next.origin = player.origin)
    (outside : next.pc.inBody = false)
    (timely : Timely settings clock next) :
    Timed settings clock next := by
  apply timed.moveTo log origin
  · intro inside
    rw [outside] at inside
    cases inside
  · exact timely

/-- A new event other than `handed` is on time. -/
theorem onTime_of_other {log : List Event} {event : Event}
    (other : ∀ entry, event ≠ .handed entry) : OnTime settings log event :=
  fun entry same => (other entry same).elim

/-- Handing a message on keeps the promise of the throttle loop. -/
theorem Timed.hand (timed : Timed settings clock player) {entry : Handed}
    (pc : player.pc = .dispatch entry.read) (now : entry.now = clock)
    (log : next.log = player.log ++ [.handed entry])
    (origin : next.origin = player.origin)
    (timely : Timely settings clock next) :
    Timed settings clock next := by
  have sameAnchor : anchor next.log = anchor player.log := by
    rw [log, anchor_concat, anchorStep]
  have samePauses : pauseTotal next.log = pauseTotal player.log := by
    rw [log, pauseTotal_concat, Event.pauseDuration, add_zero]
  have known : anchor player.log ≠ none := timed.body (by rw [pc]; rfl)
  refine ⟨timed.anchored.keep sameAnchor samePauses origin, ?_, timely, ?_⟩
  · intro _
    rw [sameAnchor]
    exact known
  rw [log]
  apply timed.onTime.concat
  intro last same
  cases same
  obtain ⟨⟨first, T0⟩, found⟩ := Option.ne_none_iff_exists'.mp known
  obtain ⟨_, _, bag, real⟩ := timed.anchored.set first T0 found
  refine ⟨first, T0, found, ?_⟩
  have released := timed.timely
  rw [Timely, pc] at released
  rw [bag, real] at released
  push_cast at released
  rw [now, sub_sub]
  exact released

theorem Timed.move (timed : Timed settings input.now player)
    (supplied : Supplied settings (fun read => 0 < read.time) player)
    (speed : 0 < settings.playbackSpeed) (running : 0 < input.now)
    (move : Move settings input player next) :
    Timed settings input.now next := by
  cases move with
  | noBagLeft pc bags => exact timed.leave rfl rfl rfl trivial
  | opens pc bags => exact timed.leave rfl rfl rfl trivial
  | bagEnds pc reader => exact timed.leave rfl rfl rfl trivial
  | shutdown pc reader down =>
      exact timed.leave rfl rfl rfl trivial
  | @seeks read rest pc reader up offset =>
      have afterRead : Lawful (OnTime settings)
          (player.log ++ [.read read input.now]) :=
        timed.onTime.concat (onTime_of_other fun _ => nofun)
      have twoEvents : Lawful (OnTime settings)
          ((player.log ++ [.read read input.now]) ++
            [.seek (player.seekTarget read)]) :=
        afterRead.concat (onTime_of_other fun _ => nofun)
      rw [List.append_assoc] at twoEvents
      exact
        { anchored := timed.anchored.seek offset rfl rfl rfl
          body := fun within => by simp [Pc.inBody, pc] at within
          timely := by rw [Timely, pc]; trivial
          onTime := twoEvents }
  | @refuses read rest pc reader up offset refused =>
      have positive := supplied.reader read (reader ▸ List.mem_cons_self)
      exact
        { anchored := timed.anchored.read positive running rfl rfl rfl offset
          body := nofun
          timely := trivial
          onTime := timed.onTime.concat (onTime_of_other fun _ => nofun) }
  | @accepts read rest pc reader up offset accepted =>
      have positive := supplied.reader read (reader ▸ List.mem_cons_self)
      exact
        { anchored := timed.anchored.read positive running rfl rfl rfl offset
          body := fun _ => by
            rw [anchor_concat, anchorStep]
            cases anchor player.log <;> nofun
          timely := trivial
          onTime := timed.onTime.concat (onTime_of_other fun _ => nofun) }
  | pauses pc pressed =>
      exact timed.moveTo rfl rfl (fun _ => by rw [pc]; rfl) le_rfl
  | plays pc =>
      exact timed.moveTo rfl rfl (fun _ => by rw [pc]; rfl) trivial
  | staysPaused pc paused =>
      have timely := timed.timely
      rw [Timely, pc] at timely
      exact timed.moveTo rfl rfl id (by rw [Timely, pc]; exact timely)
  | quitsPause pc down => exact timed.leave rfl rfl rfl trivial
  | @resumes read pauseStart pc =>
      have known : anchor player.log ≠ none := timed.body (by rw [pc]; rfl)
      have forward := timed.timely
      rw [Timely, pc] at forward
      exact
        { anchored := timed.anchored.pause forward known rfl rfl rfl rfl
          body := fun _ => by rw [anchor_concat, anchorStep]; exact known
          timely := trivial
          onTime := timed.onTime.concat (onTime_of_other fun _ => nofun) }
  | throttles pc early => exact timed
  | @releases read pc due =>
      have released :
          (read.time : Rat) - player.bagT0 ≤
            settings.playbackSpeed * (input.now - player.realT0) := by
        simp only [Settings.throttles, speed, decide_true, Bool.true_and,
          decide_eq_false_iff_not, not_lt] at due
        rw [mul_comm]
        exact due
      exact timed.moveTo rfl rfl (fun _ => by rw [pc]; rfl) released
  | mismatches pc core => exact timed.leave rfl rfl rfl trivial
  | handsLast pc core => exact timed.hand pc rfl rfl rfl trivial
  | hands pc core => exact timed.hand pc rfl rfl rfl trivial
  | waits pc short => exact timed
  | waited pc =>
      exact timed.leave rfl rfl rfl trivial
  | stays pc => exact timed

/-- The surroundings of every step: the clock is positive and never goes
back. -/
theorem runFor_timed {inputs : Nat → Input} {bags : List Bag}
    (startOffset : Rat) (speed : 0 < settings.playbackSpeed)
    (positive : ∀ bag ∈ bags, ∀ read ∈ settings.openBag bag, 0 < read.time)
    (running : ∀ index, 0 < (inputs index).now)
    (forward : ∀ index, (inputs index).now ≤ (inputs (index + 1)).now)
    (count : Nat) :
    Supplied settings (fun read => 0 < read.time)
        (runFor settings inputs (Player.start bags startOffset) count) ∧
      Timed settings (inputs count).now
        (runFor settings inputs (Player.start bags startOffset) count) := by
  induction count with
  | zero =>
      exact ⟨⟨positive, nofun, nofun⟩, timed_start bags startOffset⟩
  | succ count induction =>
      obtain ⟨supplied, timed⟩ := induction
      have move := step_move settings (inputs count)
        (runFor settings inputs (Player.start bags startOffset) count)
      exact ⟨supplied.move move,
        (timed.move supplied speed (running count) move).later speed
          (forward count)⟩

/-- Every message is handed on no earlier than the playback speed allows,
counted from the first message after the last seek and without the pauses.
At every loop head `real_t0` is the clock reading at that message shifted by
all pauses so far. -/
theorem playback_onTime
    (settings : Settings) (bags : List Bag) (startOffset : Rat)
    (inputs : Nat → Input)
    (speed : 0 < settings.playbackSpeed)
    (positive : ∀ bag ∈ bags, ∀ read ∈ settings.openBag bag, 0 < read.time)
    (running : ∀ index, 0 < (inputs index).now)
    (forward : ∀ index, (inputs index).now ≤ (inputs (index + 1)).now)
    (count : Nat) :
    (∀ before entry after,
      (runFor settings inputs (Player.start bags startOffset) count).log =
        before ++ .handed entry :: after →
      ∃ first T0, anchor before = some (first, T0) ∧
        (entry.read.time : Rat) - first.time ≤
          settings.playbackSpeed * (entry.now - T0 - pauseTotal before)) ∧
    ((runFor settings inputs (Player.start bags startOffset) count).pc =
        .loopHead →
      ∀ first T0,
        anchor (runFor settings inputs (Player.start bags startOffset)
          count).log = some (first, T0) →
        (runFor settings inputs (Player.start bags startOffset)
            count).bagT0 = first.time ∧
          (runFor settings inputs (Player.start bags startOffset)
              count).realT0 =
            T0 + pauseTotal (runFor settings inputs
              (Player.start bags startOffset) count).log) := by
  obtain ⟨_, timed⟩ :=
    runFor_timed startOffset speed positive running forward count
  constructor
  · intro before entry after split
    exact timed.onTime before (.handed entry) after split entry rfl
  · intro _ first T0 found
    obtain ⟨_, _, bag, real⟩ := timed.anchored.set first T0 found
    exact ⟨bag, real⟩

/-- A clock of ten milliseconds a step and a pause of four steps. -/
def pausingInputs (index : Nat) : Input :=
  { now := 10000000 * (index + 1)
    ok := true
    keys := if index = 2 ∨ index = 5 then [' '] else []
    needsWait := false }

/-- The pause of 40 milliseconds before the first of three messages moves
the due times of all of them. -/
theorem playback_onTime_paused :
    pauseTotal (runFor splitSettings pausingInputs
        (Player.start splitBags 0) 60).log = 40000000 ∧
      (runFor splitSettings pausingInputs
        (Player.start splitBags 0) 60).processed.length = 3 ∧
      ∀ before entry after,
        (runFor splitSettings pausingInputs
            (Player.start splitBags 0) 60).log =
          before ++ .handed entry :: after →
        ∃ first T0, anchor before = some (first, T0) ∧
          (entry.read.time : Rat) - first.time ≤
            splitSettings.playbackSpeed *
              (entry.now - T0 - pauseTotal before) := by
  have law :=
    playback_onTime splitSettings splitBags 0 pausingInputs (by decide)
      (by decide) (fun index => by simp only [pausingInputs]; omega)
      (fun index => by simp only [pausingInputs]; omega) 60
  exact ⟨by decide +kernel, by decide +kernel, law.1⟩

end GlimRos.Rosbag
