import GlimRos.Library.Transition
import GlimRos.Rosbag.Refinement
import Mathlib.Algebra.Order.Floor.Ring
import Mathlib.Data.Prod.Lex
import Mathlib.Data.Rat.Floor
import Mathlib.Tactic.Linarith

/-!
# A playback comes to its end

The throttle loop, the pause loop and the wait for the modules end when the
clock goes on and the pause key is pressed again.  Every other step lowers a
lexicographic rank: the seek still to come, the bags not opened, and the
place in the loop over the messages.
-/

namespace GlimRos.Rosbag

/-- Surroundings under which no loop of the player spins forever: the clock
passes every bound for good, and no pause is endless. -/
structure Live (settings : Settings) (inputs : Nat → Input)
    (start : Player) : Prop where
  clock : ∀ bound : Int, ∃ index, ∀ later, index ≤ later →
    bound ≤ (inputs later).now
  unpaused : ∀ index, ∃ later, index ≤ later ∧
    (runFor settings inputs start later).paused = false

/-- The place in the loop body, for a number of messages still to read. -/
def Pc.rank (unread : Nat) : Pc → Nat
  | .nextBag | .done _ => 0
  | .loopHead => 6 * unread + 1
  | .needsWait _ => 6 * unread + 2
  | .dispatch _ => 6 * unread + 3
  | .throttle _ => 6 * unread + 4
  | .paused _ _ => 6 * unread + 5
  | .keyboard _ => 6 * unread + 6

namespace Player

def rank (player : Player) : Nat ×ₗ Nat ×ₗ Nat :=
  toLex
    (if 0 < player.startOffset then 1 else 0,
      toLex (player.bags.length, player.pc.rank player.reader.length))

def Finished (player : Player) : Prop :=
  ∃ stopped, player.pc = .done stopped

/-- The same player up to the state of the pause key. -/
def SameButPause (player later : Player) : Prop :=
  later = { player with paused := later.paused }

theorem SameButPause.refl (player : Player) : SameButPause player player :=
  rfl

theorem SameButPause.rank {player later : Player}
    (same : SameButPause player later) : later.rank = player.rank := by
  rw [same]
  rfl

theorem SameButPause.trans {first second third : Player}
    (left : SameButPause first second)
    (right : SameButPause second third) : SameButPause first third := by
  unfold SameButPause at *
  rw [right, left]

theorem rank_lt_of_pc {player next : Player}
    (startOffset : next.startOffset = player.startOffset)
    (bags : next.bags = player.bags)
    (lower : next.pc.rank next.reader.length <
      player.pc.rank player.reader.length) : next.rank < player.rank := by
  unfold rank
  rw [startOffset, bags, Prod.Lex.toLex_lt_toLex]
  exact .inr ⟨rfl, Prod.Lex.toLex_lt_toLex.mpr (.inr ⟨rfl, lower⟩)⟩

theorem rank_lt_of_bags {player next : Player}
    (startOffset : next.startOffset = player.startOffset)
    (fewer : next.bags.length < player.bags.length) :
    next.rank < player.rank := by
  unfold rank
  rw [startOffset, Prod.Lex.toLex_lt_toLex]
  exact .inr ⟨rfl, Prod.Lex.toLex_lt_toLex.mpr (.inl fewer)⟩

theorem rank_lt_of_offset {player next : Player}
    (consumed : ¬ 0 < next.startOffset) (offset : 0 < player.startOffset) :
    next.rank < player.rank := by
  unfold rank
  rw [if_neg consumed, if_pos offset, Prod.Lex.toLex_lt_toLex]
  exact .inl Nat.zero_lt_one

end Player

variable {settings : Settings} {input : Input} {player next : Player}

/-- The condition of the waiting loop that the player is in. -/
def Player.spins (settings : Settings) (input : Input) (player : Player) :
    Bool :=
  match player.pc with
  | .paused _ _ => player.paused
  | .throttle read =>
      settings.throttles player.bagT0 player.realT0 input.now read
  | .needsWait since => !(1000000000 < input.now - since)
  | _ => false

/-- Every step ends the playback, lowers the rank or waits. -/
theorem progress_move (move : Move settings input player next) :
    (next.Finished ∨ next.rank < player.rank) ∨
      player.SameButPause next ∧ player.spins settings input = true := by
  cases move with
  | noBagLeft pc bags => exact .inl (.inl ⟨_, rfl⟩)
  | opens pc bags =>
      exact .inl (.inr (Player.rank_lt_of_bags rfl (by simp [bags])))
  | bagEnds pc reader =>
      exact .inl (.inr (Player.rank_lt_of_pc rfl rfl (by simp [Pc.rank, pc])))
  | shutdown pc reader down => exact .inl (.inl ⟨_, rfl⟩)
  | seeks pc reader up offset =>
      exact .inl (.inr (Player.rank_lt_of_offset (lt_irrefl 0) offset))
  | refuses pc reader up offset refused => exact .inl (.inl ⟨_, rfl⟩)
  | accepts pc reader up offset accepted =>
      exact .inl (.inr (Player.rank_lt_of_pc rfl rfl
        (by simp [Pc.rank, pc, reader]; omega)))
  | pauses pc pressed =>
      exact .inl (.inr (Player.rank_lt_of_pc rfl rfl (by simp [Pc.rank, pc])))
  | plays pc =>
      exact .inl (.inr (Player.rank_lt_of_pc rfl rfl (by simp [Pc.rank, pc])))
  | staysPaused pc paused =>
      exact .inr ⟨rfl, by rw [Player.spins, pc]; exact paused⟩
  | quitsPause pc down => exact .inl (.inl ⟨_, rfl⟩)
  | resumes pc =>
      exact .inl (.inr (Player.rank_lt_of_pc rfl rfl (by simp [Pc.rank, pc])))
  | throttles pc early =>
      exact .inr ⟨rfl, by rw [Player.spins, pc]; exact early⟩
  | releases pc due =>
      exact .inl (.inr (Player.rank_lt_of_pc rfl rfl (by simp [Pc.rank, pc])))
  | mismatches pc core => exact .inl (.inl ⟨_, rfl⟩)
  | handsLast pc core => exact .inl (.inl ⟨_, rfl⟩)
  | hands pc core =>
      exact .inl (.inr (Player.rank_lt_of_pc rfl rfl (by simp [Pc.rank, pc])))
  | waits pc short =>
      exact .inr ⟨rfl, by rw [Player.spins, pc]; simpa using short⟩
  | waited pc =>
      exact .inl (.inr (Player.rank_lt_of_pc rfl rfl (by simp [Pc.rank, pc])))
  | stays pc => exact .inl (.inl ⟨_, pc⟩)

/-- A clock reading at which the message is no longer held back. -/
theorem throttles_false (settings : Settings) (bagT0 realT0 : Int) (read : Read) :
    ∃ bound : Int, ∀ now, bound ≤ now →
      settings.throttles bagT0 realT0 now read = false := by
  by_cases speed : 0 < settings.playbackSpeed
  · let wait : Rat := ((read.time : Rat) - bagT0) / settings.playbackSpeed
    refine ⟨realT0 + ⌈wait⌉, fun now late => ?_⟩
    have long : wait ≤ (now : Rat) - realT0 := by
      have ceiling : wait ≤ (⌈wait⌉ : Rat) := Int.le_ceil wait
      have past : (realT0 : Rat) + (⌈wait⌉ : Rat) ≤ (now : Rat) := by
        exact_mod_cast late
      linarith
    have due := (div_le_iff₀ speed).mp long
    simp [Settings.throttles, speed, not_lt.mpr due]
  · exact ⟨0, fun now _ => by simp [Settings.throttles, speed]⟩

section Run

variable {inputs : Nat → Input} {start : Player}

/-- No waiting loop of a live run spins forever. -/
theorem spins_ends (live : Live settings inputs start) (index : Nat) :
    ∃ later, index ≤ later ∧
      ((runFor settings inputs start index).SameButPause
          (runFor settings inputs start later) →
        (runFor settings inputs start later).spins settings (inputs later) =
          false) := by
  cases pc : (runFor settings inputs start index).pc with
  | throttle read =>
      obtain ⟨bound, released⟩ :=
        throttles_false settings
          (runFor settings inputs start index).bagT0
          (runFor settings inputs start index).realT0 read
      obtain ⟨reached, past⟩ := live.clock bound
      refine ⟨max index reached, le_max_left _ _, fun same => ?_⟩
      rw [same, Player.spins]
      simpa [pc] using released _ (past _ (le_max_right _ _))
  | paused read pauseStart =>
      obtain ⟨later, after, playing⟩ := live.unpaused index
      refine ⟨later, after, fun same => ?_⟩
      have samePc : (runFor settings inputs start later).pc =
          .paused read pauseStart := by
        rw [same]
        exact pc
      rw [Player.spins, samePc]
      exact playing
  | needsWait since =>
      obtain ⟨reached, past⟩ := live.clock (since + 1000000001)
      refine ⟨max index reached, le_max_left _ _, fun same => ?_⟩
      have late := past _ (le_max_right index reached)
      rw [same, Player.spins]
      simp only [pc, Bool.not_eq_false', decide_eq_true_eq]
      omega
  | nextBag => exact ⟨index, le_rfl, fun _ => by rw [Player.spins, pc]⟩
  | loopHead => exact ⟨index, le_rfl, fun _ => by rw [Player.spins, pc]⟩
  | keyboard read => exact ⟨index, le_rfl, fun _ => by rw [Player.spins, pc]⟩
  | dispatch read => exact ⟨index, le_rfl, fun _ => by rw [Player.spins, pc]⟩
  | done stopped => exact ⟨index, le_rfl, fun _ => by rw [Player.spins, pc]⟩

theorem eventually_finished (live : Live settings inputs start) :
    ∃ count, (runFor settings inputs start count).Finished := by
  have step (index : Nat) :=
    progress_move
      (step_move settings (inputs index)
        (runFor settings inputs start index))
  have finishes :=
    Transition.eventually_done (runFor settings inputs start)
      Player.Finished Player.rank
      (fun index _ => ?_) 0
  · obtain ⟨count, _, finished⟩ := finishes
    exact ⟨count, finished⟩
  obtain ⟨later, after, same, moved⟩ :=
    Transition.exits_of_eventually
      (fun later =>
        (runFor settings inputs start index).SameButPause
          (runFor settings inputs start later))
      (fun later =>
        (runFor settings inputs start (later + 1)).Finished ∨
          (runFor settings inputs start (later + 1)).rank <
            (runFor settings inputs start later).rank)
      (fun later same =>
        (step later).imp_right fun waits => same.trans waits.1)
      (Player.SameButPause.refl _)
      (by
        obtain ⟨later, after, released⟩ := spins_ends live index
        refine ⟨later, after, fun same => (step later).resolve_right ?_⟩
        rintro ⟨_, spins⟩
        rw [released same] at spins
        cases spins)
  exact ⟨later + 1, Nat.le_succ_of_le after, same.rank ▸ moved⟩

/-- The surroundings of an unattended playback: ROS is up, the clock ticks,
no key is pressed and no module asks to wait. -/
def unattended (index : Nat) : Input :=
  { now := index
    ok := true
    keys := []
    needsWait := false }

theorem unattended_paused (start : Player) (playing : start.paused = false)
    (count : Nat) :
    (runFor settings unattended start count).paused = false := by
  induction count with
  | zero => exact playing
  | succ count induction =>
      have move := step_move settings (unattended count)
        (runFor settings unattended start count)
      rw [runFor]
      generalize step settings (unattended count) _ = next at move
      cases move with
      | pauses pc pressed =>
          rw [induction] at pressed
          simp [keyboardUpdate, unattended] at pressed
      | staysPaused pc paused =>
          rw [induction] at paused
          cases paused
      | plays pc => rfl
      | _ => exact induction

theorem unattended_live (settings : Settings) (bags : List Bag)
    (startOffset : Rat) :
    Live settings unattended (Player.start bags startOffset) where
  clock bound := by
    refine ⟨bound.toNat, fun later after => ?_⟩
    simp only [unattended]
    omega
  unpaused index := ⟨index, le_rfl, unattended_paused _ rfl index⟩

/-- The messages handed on by a playback are, at every point, the first ones
of the reference.  A playback that is over with ROS up has handed on exactly
the reference, and a live playback comes to that point. -/
theorem playback_reference
    (settings : Settings) (bags : List Bag) (startOffset : Rat)
    (distinct : settings.DistinctTopics)
    (positive : ∀ bag ∈ bags, ∀ read ∈ settings.openBag bag,
      0 < read.time) :
    (∀ inputs count,
      (runFor settings inputs (Player.start bags startOffset)
          count).processed.map Handed.read <+:
        referenceFromHead settings
          (timeline startOffset (bags.map settings.openBag))) ∧
    (∀ inputs, (∀ index, (inputs index).ok = true) → ∀ count stopped,
      (runFor settings inputs (Player.start bags startOffset) count).pc =
        .done stopped →
      (runFor settings inputs (Player.start bags startOffset)
          count).processed.map Handed.read =
        referenceFromHead settings
          (timeline startOffset (bags.map settings.openBag))) ∧
    (∀ inputs, Live settings inputs (Player.start bags startOffset) →
      ∃ count stopped,
        (runFor settings inputs (Player.start bags startOffset) count).pc =
          .done stopped) := by
  have pass :
      played settings 0 (timeline startOffset (bags.map settings.openBag)) =
        referenceFromHead settings
          (timeline startOffset (bags.map settings.openBag)) := by
    refine played_zero_eq_reference distinct fun read member => ?_
    obtain ⟨opened, inBags, inOpened⟩ :=
      List.mem_flatten.mp ((timeline_sublist _ _).subset member)
    obtain ⟨bag, inList, rfl⟩ := List.mem_map.mp inBags
    exact positive bag inList read inOpened
  rw [← pass]
  exact
    ⟨fun inputs count =>
        processed_prefix_played settings inputs bags startOffset count,
      fun inputs up _ _ pc =>
        processed_eq_played settings inputs bags startOffset up pc,
      fun _ live => eventually_finished live⟩

end Run

/-- Two topics of a recording that is split into two bags. -/
def splitSettings : Settings :=
  { imuTopic := "imu"
    pointsTopic := "points"
    imageTopic := "image"
    extensionSubscriptions := []
    playbackUntil := 0
    playbackDuration := 0
    playbackSpeed := 100
    endTime := 5 / 2
    keyboardActive := true }

def splitBag (messages : List BagMessage) : Bag :=
  { messages := messages
    topicsAndTypes :=
      [("imu", "sensor_msgs/msg/Imu"),
        ("points", "sensor_msgs/msg/PointCloud2")] }

def splitBags : List Bag :=
  [splitBag
      [{ topicName := "imu"
         recvTimestamp := 1000000000
         stampSec := 1
         stampNanosec := 0 },
        { topicName := "points"
          recvTimestamp := 2000000000
          stampSec := 2
          stampNanosec := 0 }],
    splitBag
      [{ topicName := "points"
         recvTimestamp := 3000000000
         stampSec := 3
         stampNanosec := 0 },
        { topicName := "imu"
          recvTimestamp := 4000000000
          stampSec := 4
          stampNanosec := 0 }]]

/-- The end time lies beyond the recording, which is played without waiting
for the clock. -/
def wholeSettings : Settings :=
  { splitSettings with
    playbackSpeed := 0
    endTime := 10 }

/-- One and a half seconds of the recording. -/
def limitedSettings : Settings :=
  { wholeSettings with playbackDuration := 3 / 2 }

/-- With an offset of one second, the playback is limited to one and a half
seconds from the first cloud on, and exactly the two clouds are handed on. -/
theorem playback_reference_split :
    ∃ count stopped,
      (runFor limitedSettings unattended (Player.start splitBags 1) count).pc =
        .done stopped ∧
      (runFor limitedSettings unattended (Player.start splitBags 1)
          count).processed.map (fun entry => entry.read.time) =
        [2000000000, 3000000000] := by
  obtain ⟨_, complete, ends⟩ :=
    playback_reference limitedSettings splitBags 1
      ⟨by decide, by decide, by decide⟩ (by decide)
  obtain ⟨count, stopped, pc⟩ :=
    ends unattended (unattended_live limitedSettings splitBags 1)
  refine ⟨count, stopped, pc, ?_⟩
  have same := congrArg (List.map Read.time)
    (complete unattended (fun _ => rfl) count stopped pc)
  rw [List.map_map] at same
  exact same.trans (by decide +kernel)

end GlimRos.Rosbag
