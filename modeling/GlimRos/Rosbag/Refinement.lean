import GlimRos.Rosbag.Inversion
import GlimRos.Rosbag.Reference

/-!
# The player refines the flat reference

At every point of a playback the messages already handed on, followed by what
the rest of the bags would still hand on, are the same list.  The steps of
the three nested loops only move the border between the two parts.
-/

namespace GlimRos.Rosbag

/-- The points of the loop body after the range checks. -/
def Pc.inBody : Pc → Bool
  | .keyboard _ | .paused _ _ | .throttle _ | .dispatch _ | .needsWait _ =>
      true
  | _ => false

/-- What ties the sentinels `bag_t0` and `start_offset` to the reader. -/
structure Coherent (player : Player) : Prop where
  unset : 0 < player.startOffset → player.bagT0 = 0
  fullBag : 0 < player.startOffset → player.pc = .loopHead →
    player.reader = player.opened
  consumed : player.pc.inBody = true → ¬ 0 < player.startOffset

variable {settings : Settings} {input : Input} {player next : Player}

theorem coherent_start (bags : List Bag) (startOffset : Rat) :
    Coherent (Player.start bags startOffset) where
  unset _ := rfl
  fullBag _ pc := by cases pc
  consumed body := by cases body

theorem Coherent.of_consumed (consumed : ¬ 0 < player.startOffset) :
    Coherent player where
  unset offset := (consumed offset).elim
  fullBag offset := (consumed offset).elim
  consumed _ := consumed

/-- A step within the body of the message loop, or out of it. -/
theorem Coherent.leaveBody (coherent : Coherent player)
    (body : player.pc.inBody = true)
    (startOffset : next.startOffset = player.startOffset) :
    Coherent next :=
  .of_consumed (startOffset ▸ coherent.consumed body)

/-- A step outside the message loop. -/
theorem Coherent.outside (coherent : Coherent player)
    (bagT0 : next.bagT0 = player.bagT0)
    (startOffset : next.startOffset = player.startOffset)
    (head : next.pc = .loopHead → next.reader = next.opened)
    (out : next.pc.inBody = false) : Coherent next where
  unset offset := by
    rw [bagT0]
    exact coherent.unset (startOffset ▸ offset)
  fullBag _ := head
  consumed body := by
    rw [out] at body
    cases body

theorem Coherent.move (coherent : Coherent player)
    (move : Move settings input player next) : Coherent next := by
  cases move with
  | noBagLeft pc bags => exact coherent.outside rfl rfl nofun rfl
  | opens pc bags => exact coherent.outside rfl rfl (fun _ => rfl) rfl
  | bagEnds pc reader => exact coherent.outside rfl rfl nofun rfl
  | shutdown pc reader down => exact coherent.outside rfl rfl nofun rfl
  | seeks pc reader up offset => exact .of_consumed (lt_irrefl 0)
  | refuses pc reader up offset refused => exact .of_consumed offset
  | accepts pc reader up offset accepted => exact .of_consumed offset
  | pauses pc pressed => exact coherent.leaveBody (by rw [pc]; rfl) rfl
  | plays pc => exact coherent.leaveBody (by rw [pc]; rfl) rfl
  | staysPaused pc paused => exact coherent.leaveBody (by rw [pc]; rfl) rfl
  | quitsPause pc down => exact coherent.leaveBody (by rw [pc]; rfl) rfl
  | resumes pc => exact coherent.leaveBody (by rw [pc]; rfl) rfl
  | throttles pc early => exact coherent
  | releases pc due => exact coherent.leaveBody (by rw [pc]; rfl) rfl
  | mismatches pc core => exact coherent.leaveBody (by rw [pc]; rfl) rfl
  | handsLast pc core => exact coherent.leaveBody (by rw [pc]; rfl) rfl
  | hands pc core => exact coherent.leaveBody (by rw [pc]; rfl) rfl
  | waits pc short => exact coherent
  | waited pc => exact coherent.leaveBody (by rw [pc]; rfl) rfl
  | stays pc => exact coherent

/-! ## The messages still to be handed on -/

namespace Player

/-- What the loops still hand on after the current message. -/
def later (settings : Settings) (player : Player) : List Read :=
  played settings player.bagT0
    (timeline player.startOffset
      (player.reader :: player.bags.map settings.openBag))

/-- What the loops still hand on. -/
def future (settings : Settings) (player : Player) : List Read :=
  match player.pc with
  | .nextBag =>
      played settings player.bagT0
        (timeline player.startOffset (player.bags.map settings.openBag))
  | .loopHead | .needsWait _ => player.later settings
  | .keyboard read | .paused read _ | .throttle read | .dispatch read =>
      playedAfter settings read (player.later settings)
  | .done _ => []

/-- The messages handed on so far and those still to be handed on. -/
def outcome (settings : Settings) (player : Player) : List Read :=
  player.processed.map Handed.read ++ player.future settings

end Player

theorem future_of_loopHead (pc : player.pc = .loopHead) :
    player.future settings = player.later settings := by
  rw [Player.future, pc]

/-- Seeking in the full bag realises the skipped beginning. -/
theorem later_of_seek (coherent : Coherent player)
    {read : Read} {rest : List Read} (pc : player.pc = .loopHead)
    (reader : player.reader = read :: rest)
    (offset : 0 < player.startOffset) :
    player.later settings =
      played settings 0
        (timeline 0
          (seek player.opened (player.seekTarget read) ::
            player.bags.map settings.openBag)) := by
  have unset : player.bagT0 = 0 := coherent.unset offset
  have full : player.opened = read :: rest :=
    (coherent.fullBag offset pc).symm.trans reader
  have target :
      player.seekTarget read =
        (read.time : Rat) + player.startOffset * 1e9 := by
    rw [Player.seekTarget, unset, originWith_zero]
  rw [Player.later, unset, reader, timeline_of_nonpos (lt_irrefl 0),
    timeline, if_pos offset, full, target, List.flatten_cons]

/-- Once the offset is consumed the message at the head is judged. -/
theorem later_of_read {read : Read} {rest : List Read}
    (reader : player.reader = read :: rest)
    (offset : ¬ 0 < player.startOffset) :
    player.later settings =
      if settings.refuses (originWith player.bagT0 read) read then []
      else
        playedAfter settings read
          (played settings (originWith player.bagT0 read)
            (timeline player.startOffset
              (rest :: player.bags.map settings.openBag))) := by
  rw [Player.later, reader, timeline_of_nonpos offset,
    timeline_of_nonpos offset, List.flatten_cons, List.cons_append, played,
    List.flatten_cons]

/-- A step keeps the outcome, or ROS is shutting down. -/
theorem outcome_move (coherent : Coherent player)
    (move : Move settings input player next) :
    next.outcome settings = player.outcome settings ∨
      input.ok = false ∧ next.outcome settings <+: player.outcome settings := by
  cases move with
  | noBagLeft pc bags =>
      left
      simp [Player.outcome, Player.future, Player.processed, played, pc, bags]
  | opens pc bags =>
      left
      simp [Player.outcome, Player.future, Player.processed, Player.later,
        pc, bags]
  | bagEnds pc reader =>
      left
      simp [Player.outcome, Player.future, Player.processed, Player.later,
        pc, reader]
  | shutdown pc reader down =>
      right
      refine ⟨down, ?_⟩
      simp [Player.outcome, Player.future, Player.processed]
  | seeks pc reader up offset =>
      left
      rw [Player.outcome, Player.outcome, future_of_loopHead pc,
        later_of_seek coherent pc reader offset]
      simp [Player.future, Player.processed, Player.later, pc]
  | refuses pc reader up offset refused =>
      left
      rw [Player.outcome, Player.outcome, future_of_loopHead pc,
        later_of_read reader offset, refused]
      simp [Player.future, Player.processed]
  | accepts pc reader up offset accepted =>
      left
      rw [Player.outcome, Player.outcome, future_of_loopHead pc,
        later_of_read reader offset, accepted]
      simp [Player.future, Player.processed, Player.later]
  | pauses pc pressed =>
      left
      simp [Player.outcome, Player.future, Player.processed, Player.later, pc]
  | plays pc =>
      left
      simp [Player.outcome, Player.future, Player.processed, Player.later, pc]
  | staysPaused pc paused =>
      left
      simp [Player.outcome, Player.future, Player.processed, Player.later, pc]
  | quitsPause pc down =>
      right
      refine ⟨down, ?_⟩
      simp [Player.outcome, Player.future, Player.processed]
  | resumes pc =>
      left
      simp [Player.outcome, Player.future, Player.processed, Player.later, pc]
  | throttles pc early => exact .inl rfl
  | releases pc due =>
      left
      simp [Player.outcome, Player.future, Player.processed, Player.later, pc]
  | mismatches pc core =>
      left
      simp [Player.outcome, Player.future, Player.processed, pc,
        playedAfter, core]
  | handsLast pc core =>
      left
      simp [Player.outcome, Player.future, Player.processed, pc,
        playedAfter, core]
  | hands pc core =>
      left
      simp [Player.outcome, Player.future, Player.processed, Player.later,
        pc, playedAfter, core]
  | waits pc short => exact .inl rfl
  | waited pc =>
      left
      simp [Player.outcome, Player.future, Player.processed, Player.later, pc]
  | stays pc => exact .inl rfl

/-! ## Whole playbacks -/

section Run

theorem outcome_start (bags : List Bag) (startOffset : Rat) :
    (Player.start bags startOffset).outcome settings =
      played settings 0
        (timeline startOffset (bags.map settings.openBag)) := by
  simp [Player.outcome, Player.future, Player.processed, Player.start]

variable (settings : Settings) (inputs : Nat → Input)

theorem runFor_coherent (coherent : Coherent player) (count : Nat) :
    Coherent (runFor settings inputs player count) := by
  induction count with
  | zero => exact coherent
  | succ count induction =>
      exact induction.move (step_move settings (inputs count) _)

/-- Whatever the surroundings do, a playback never leaves the outcome. -/
theorem runFor_outcome_isPrefix (coherent : Coherent player) (count : Nat) :
    (runFor settings inputs player count).outcome settings <+:
      player.outcome settings := by
  induction count with
  | zero => exact List.prefix_refl _
  | succ count induction =>
      have moved :=
        outcome_move (runFor_coherent settings inputs coherent count)
          (step_move settings (inputs count) _)
      rcases moved with same | ⟨_, shorter⟩
      · exact same ▸ induction
      · exact shorter.trans induction

/-- As long as ROS is up, a playback keeps its outcome. -/
theorem runFor_outcome (coherent : Coherent player)
    (up : ∀ index, (inputs index).ok = true) (count : Nat) :
    (runFor settings inputs player count).outcome settings =
      player.outcome settings := by
  induction count with
  | zero => rfl
  | succ count induction =>
      have moved :=
        outcome_move (runFor_coherent settings inputs coherent count)
          (step_move settings (inputs count) _)
      rcases moved with same | ⟨down, _⟩
      · exact same.trans induction
      · rw [up count] at down
        cases down

variable (bags : List Bag) (startOffset : Rat)

/-- What any playback hands on is an initial part of one pass. -/
theorem processed_prefix_played (count : Nat) :
    (runFor settings inputs (Player.start bags startOffset)
        count).processed.map Handed.read <+:
      played settings 0
        (timeline startOffset (bags.map settings.openBag)) := by
  have part :=
    runFor_outcome_isPrefix settings inputs
      (coherent_start bags startOffset) count
  rw [outcome_start] at part
  exact (List.prefix_append _ _).trans part

/-- A playback that is over with ROS up has handed on the whole pass. -/
theorem processed_eq_played (up : ∀ index, (inputs index).ok = true)
    {count : Nat} {stopped : Bool}
    (pc : (runFor settings inputs (Player.start bags startOffset) count).pc =
      .done stopped) :
    (runFor settings inputs (Player.start bags startOffset)
        count).processed.map Handed.read =
      played settings 0
        (timeline startOffset (bags.map settings.openBag)) := by
  have whole :=
    runFor_outcome settings inputs
      (coherent_start bags startOffset) up count
  rw [outcome_start] at whole
  simpa [Player.outcome, Player.future, pc] using whole

end Run

end GlimRos.Rosbag
