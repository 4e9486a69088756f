import GlimRos.Rosbag.Progress
import Mathlib.Algebra.Group.Nat.Even

/-!
# The pause key

`KeyboardHandler::update` toggles the pause once for each space it reads, and
it reads the keyboard before each message and while the playback is paused.
Whenever the spaces read so far are odd in number, the playback stands still.
-/

namespace GlimRos.Rosbag

variable {settings : Settings} {input : Input} {player : Player}

/-- The space bar was pressed an odd number of times. -/
def oddSpaces (keys : List Char) : Bool :=
  decide (keys.count ' ' % 2 = 1)

@[simp] theorem oddSpaces_nil : oddSpaces [] = false := rfl

theorem oddSpaces_cons (key : Char) (keys : List Char) :
    oddSpaces (key :: keys) =
      ((if key = ' ' then true else false) ^^ oddSpaces keys) := by
  by_cases space : key = ' '
  · subst space
    simp only [oddSpaces, List.count_cons_self, if_true, Bool.true_xor]
    rcases Nat.mod_two_eq_zero_or_one (keys.count ' ') with even | odd
    · simp [Nat.add_mod, even]
    · simp [Nat.add_mod, odd]
  · simp [oddSpaces, space]

theorem oddSpaces_append (earlier later : List Char) :
    oddSpaces (earlier ++ later) = (oddSpaces earlier ^^ oddSpaces later) := by
  induction earlier with
  | nil => simp
  | cons key keys induction =>
      rw [List.cons_append, oddSpaces_cons, oddSpaces_cons, induction,
        Bool.xor_assoc]

/-- `KeyboardHandler::update` in closed form. -/
theorem keyboardUpdate_eq (keys : List Char) (paused : Bool) :
    keyboardUpdate true keys paused = (paused ^^ oddSpaces keys) := by
  rw [keyboardUpdate, if_pos rfl]
  induction keys generalizing paused with
  | nil => simp
  | cons key keys induction =>
      rw [List.foldl_cons, induction, oddSpaces_cons]
      by_cases space : key = ' '
      · cases paused <;> simp [space]
      · simp [space]

/-- The keys that a step reads. -/
def Player.keysRead (settings : Settings) (input : Input) (player : Player) :
    List Char :=
  match settings.keyboardActive, player.pc with
  | true, .keyboard _ => input.keys
  | true, .paused _ _ => if player.paused && input.ok then input.keys else []
  | _, _ => []

/-- A step toggles the pause once for each space it reads. -/
theorem step_paused (settings : Settings) (input : Input) (player : Player) :
    (step settings input player).paused =
      (player.paused ^^ oddSpaces (player.keysRead settings input)) := by
  cases here : player.pc with
  | keyboard read =>
      cases active : settings.keyboardActive with
      | true => simp [step, here, Player.keysRead, active, keyboardUpdate_eq]
      | false => simp [step, here, Player.keysRead, active, keyboardUpdate]
  | paused read since =>
      cases active : settings.keyboardActive with
      | true =>
          cases held : player.paused && input.ok with
          | true =>
              simp [step, here, Player.keysRead, active, held,
                keyboardUpdate_eq]
          | false =>
              simp only [step, here, Player.keysRead, active, held]
              cases input.ok <;> simp
      | false =>
          have unread : player.keysRead settings input = [] := by
            simp [Player.keysRead, active]
          rw [unread]
          simp only [step, here, active, keyboardUpdate]
          split <;> simp
          split <;> rfl
  | _ =>
      have unread : player.keysRead settings input = [] := by
        simp [Player.keysRead, here]
      have move := step_move settings input player
      generalize step settings input player = next at move
      rw [unread]
      cases move <;> simp_all

/-- A paused player is in the loop of the pause, or at its end. -/
def Player.Held (player : Player) : Prop :=
  player.paused = true →
    (∃ read since, player.pc = .paused read since) ∨ player.Finished

theorem step_held (settings : Settings) (input : Input)
    (held : player.Held) : (step settings input player).Held := by
  intro paused
  have move := step_move settings input player
  cases here : player.pc with
  | paused read since =>
      cases up : input.ok with
      | false =>
          refine .inr ⟨true, ?_⟩
          simp [step, here, up]
      | true =>
          cases still : player.paused with
          | true => exact .inl ⟨read, since, by simp [step, here, up, still]⟩
          | false => simp [step, here, up, still] at paused
  | _ =>
      generalize step settings input player = next at move paused
      cases move <;> simp_all [Player.Held, Player.Finished]

/-- A paused player reads nothing, seeks nowhere and hands nothing on. -/
theorem step_log_of_paused (settings : Settings) (input : Input)
    (held : player.Held) (paused : player.paused = true) :
    (step settings input player).log = player.log := by
  rcases held paused with ⟨read, since, here⟩ | ⟨stopped, here⟩
  · cases up : input.ok <;> simp [step, here, up, paused]
  · simp [step, here]

section Run

variable (settings : Settings) (inputs : Nat → Input) (start : Player)

/-- The keys read by the first `count` steps. -/
def keysRead : Nat → List Char
  | 0 => []
  | count + 1 =>
      keysRead count ++
        (runFor settings inputs start count).keysRead settings (inputs count)

theorem runFor_paused (playing : start.paused = false) (count : Nat) :
    (runFor settings inputs start count).paused =
      oddSpaces (keysRead settings inputs start count) := by
  induction count with
  | zero => exact playing
  | succ count induction =>
      rw [runFor, step_paused, induction, keysRead, oddSpaces_append]

theorem runFor_held (playing : start.paused = false) (count : Nat) :
    (runFor settings inputs start count).Held := by
  induction count with
  | zero =>
      intro paused
      cases playing.symm.trans paused
  | succ count induction => exact step_held settings _ induction

end Run

/-- In every run, under every clock and sequence of key presses: as long as
the spaces read so far are odd in number, the playback stands still.  No
message is read or handed on, no seek is made and no pause ends. -/
theorem playback_stands_still (settings : Settings) (inputs : Nat → Input)
    (bags : List Bag) (startOffset : Rat) (earlier later : Nat)
    (before : earlier ≤ later)
    (odd : ∀ count, earlier ≤ count → count < later →
      oddSpaces (keysRead settings inputs (Player.start bags startOffset)
        count) = true) :
    (runFor settings inputs (Player.start bags startOffset) later).log =
      (runFor settings inputs (Player.start bags startOffset) earlier).log := by
  induction later, before using Nat.le_induction with
  | base => rfl
  | succ later before induction =>
      have paused := (runFor_paused settings inputs
        (Player.start bags startOffset) rfl later).trans
          (odd later before (Nat.lt_succ_self later))
      have held := runFor_held settings inputs
        (Player.start bags startOffset) rfl later
      rw [runFor, step_log_of_paused settings _ held paused]
      exact induction fun count after less =>
        odd count after (Nat.lt_succ_of_lt less)

/-- The space bar is pressed in front of the first message and not again. -/
def pressedOnce (index : Nat) : Input :=
  { unattended index with keys := if index = 2 then [' '] else [] }

theorem pressedOnce_keysRead (count : Nat) (after : 3 ≤ count) :
    keysRead splitSettings pressedOnce (Player.start splitBags 0) count =
      [' '] := by
  induction count, after using Nat.le_induction with
  | base => decide
  | succ count after induction =>
      have silent : (pressedOnce count).keys = [] := if_neg (by omega)
      rw [keysRead, induction, Player.keysRead, silent]
      split <;> simp

/-- Sixty steps on, the first message is still read and not handed on. -/
theorem playback_stands_still_pressed :
    ∃ read now,
      (runFor splitSettings pressedOnce (Player.start splitBags 0) 60).log =
        [.read read now] := by
  have still :=
    playback_stands_still splitSettings pressedOnce splitBags 0 3 60
      (by decide) fun count after _ => by
        rw [pressedOnce_keysRead count after]
        rfl
  exact ⟨_, _, still.trans rfl⟩

end GlimRos.Rosbag
