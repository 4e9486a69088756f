import GlimRos.Rosbag.Basic
import Mathlib.Tactic.SplitIfs

/-!
# What a step of the player can do

`Move` has one constructor for each branch of the three loops.  All
invariants of a playback are derived from this classification.
-/

namespace GlimRos.Rosbag

/-- `real_t0` after a message was read at `now`. -/
def Player.realT0With (player : Player) (now : Int) : Int :=
  if player.realT0 = 0 then now else player.realT0

/-- The target of the seek that reading the message causes. -/
def Player.seekTarget (player : Player) (read : Read) : Rat :=
  (originWith player.bagT0 read : Rat) + player.startOffset * 1e9

/-- One branch of the loop over the bags, of the message loop, of the pause
loop or of one of the two throttle loops. -/
inductive Move (settings : Settings) (input : Input) (player : Player) :
    Player → Prop where
  | noBagLeft
      (pc : player.pc = .nextBag) (bags : player.bags = []) :
      Move settings input player { player with pc := .done false }
  | opens {bag : Bag} {later : List Bag}
      (pc : player.pc = .nextBag) (bags : player.bags = bag :: later) :
      Move settings input player
        { player with
          bags := later
          opened := settings.openBag bag
          reader := settings.openBag bag
          pc := .loopHead }
  | bagEnds
      (pc : player.pc = .loopHead) (reader : player.reader = []) :
      Move settings input player { player with pc := .nextBag }
  | shutdown {read : Read} {rest : List Read}
      (pc : player.pc = .loopHead) (reader : player.reader = read :: rest)
      (down : input.ok = false) :
      Move settings input player { player with pc := .done true }
  | seeks {read : Read} {rest : List Read}
      (pc : player.pc = .loopHead) (reader : player.reader = read :: rest)
      (up : input.ok = true) (offset : 0 < player.startOffset) :
      Move settings input player
        { player with
          reader := seek player.opened (player.seekTarget read)
          startOffset := 0
          bagT0 := 0
          realT0 := 0
          log := player.log ++
            [.read read input.now, .seek (player.seekTarget read)] }
  | refuses {read : Read} {rest : List Read}
      (pc : player.pc = .loopHead) (reader : player.reader = read :: rest)
      (up : input.ok = true) (offset : ¬ 0 < player.startOffset)
      (refused : settings.refuses (originWith player.bagT0 read) read = true) :
      Move settings input player
        { player with
          reader := rest
          bagT0 := originWith player.bagT0 read
          realT0 := player.realT0With input.now
          pc := .done true
          log := player.log ++ [.read read input.now] }
  | accepts {read : Read} {rest : List Read}
      (pc : player.pc = .loopHead) (reader : player.reader = read :: rest)
      (up : input.ok = true) (offset : ¬ 0 < player.startOffset)
      (accepted : settings.refuses (originWith player.bagT0 read) read = false) :
      Move settings input player
        { player with
          reader := rest
          bagT0 := originWith player.bagT0 read
          realT0 := player.realT0With input.now
          pc := .keyboard read
          log := player.log ++ [.read read input.now] }
  | pauses {read : Read} (pc : player.pc = .keyboard read)
      (pressed : keyboardUpdate settings.keyboardActive input.keys
        player.paused = true) :
      Move settings input player
        { player with
          paused := true
          pc := .paused read input.now }
  | plays {read : Read} (pc : player.pc = .keyboard read) :
      Move settings input player
        { player with
          paused := false
          pc := .throttle read }
  | staysPaused {read : Read} {pauseStart : Int}
      (pc : player.pc = .paused read pauseStart)
      (paused : player.paused = true) :
      Move settings input player
        { player with
          paused :=
            keyboardUpdate settings.keyboardActive input.keys player.paused }
  | quitsPause {read : Read} {pauseStart : Int}
      (pc : player.pc = .paused read pauseStart)
      (down : input.ok = false) :
      Move settings input player { player with pc := .done true }
  | resumes {read : Read} {pauseStart : Int}
      (pc : player.pc = .paused read pauseStart) :
      Move settings input player
        { player with
          realT0 := player.realT0 + (input.now - pauseStart)
          pc := .throttle read
          log := player.log ++ [.pause pauseStart input.now] }
  | throttles {read : Read} (pc : player.pc = .throttle read)
      (early : settings.throttles player.bagT0 player.realT0 input.now read =
        true) :
      Move settings input player player
  | releases {read : Read} (pc : player.pc = .throttle read)
      (due : settings.throttles player.bagT0 player.realT0 input.now read =
        false) :
      Move settings input player { player with pc := .dispatch read }
  | mismatches {read : Read} (pc : player.pc = .dispatch read)
      (core : coreDispatch settings read = .mismatch) :
      Move settings input player { player with pc := .done true }
  | handsLast {read : Read} (pc : player.pc = .dispatch read)
      (core : coreDispatch settings read = .endTimeReached) :
      Move settings input player
        { player with
          pc := .done true
          log := player.log ++
            [.handed
              { read := read
                now := input.now
                core := some .points
                extensions := [] }] }
  | hands {read : Read} {callback : Option Callback}
      (pc : player.pc = .dispatch read)
      (core : coreDispatch settings read = .continues callback) :
      Move settings input player
        { player with
          pc := .needsWait input.now
          log := player.log ++
            [.handed
              { read := read
                now := input.now
                core := callback
                extensions :=
                  settings.subscriptionMap read.message.topicName }] }
  | waits {since : Int} (pc : player.pc = .needsWait since)
      (short : ¬ 1000000000 < input.now - since) :
      Move settings input player player
  | waited {since : Int} (pc : player.pc = .needsWait since) :
      Move settings input player { player with pc := .loopHead }
  | stays {stopped : Bool} (pc : player.pc = .done stopped) :
      Move settings input player player

variable (settings : Settings) (input : Input) (player : Player)

theorem readMessage_seeks {read : Read} (rest : List Read) (now : Int)
    (offset : 0 < player.startOffset) :
    readMessage settings now player read rest =
      { player with
        reader := seek player.opened (player.seekTarget read)
        startOffset := 0
        bagT0 := 0
        realT0 := 0
        pc := .loopHead
        log := player.log ++
          [.read read now, .seek (player.seekTarget read)] } := by
  unfold readMessage
  rw [if_pos offset]
  rfl

theorem readMessage_plays {read : Read} (rest : List Read) (now : Int)
    (offset : ¬ 0 < player.startOffset) :
    readMessage settings now player read rest =
      { player with
        reader := rest
        bagT0 := originWith player.bagT0 read
        realT0 := player.realT0With now
        pc :=
          if settings.refuses (originWith player.bagT0 read) read then .done true
          else .keyboard read
        log := player.log ++ [.read read now] } := by
  unfold readMessage
  rw [if_neg offset]
  rfl

/-- A step at the loop head with a message to read. -/
theorem readMessage_move {read : Read} {rest : List Read}
    (pc : player.pc = .loopHead) (reader : player.reader = read :: rest)
    (up : input.ok = true) :
    Move settings input player
      (readMessage settings input.now player read rest) := by
  by_cases offset : 0 < player.startOffset
  · rw [readMessage_seeks settings player rest input.now offset, ← pc]
    exact .seeks pc reader up offset
  · rw [readMessage_plays settings player rest input.now offset]
    cases refused : settings.refuses (originWith player.bagT0 read) read with
    | true => exact .refuses pc reader up offset refused
    | false => exact .accepts pc reader up offset refused

theorem step_move : Move settings input player (step settings input player) := by
  unfold step
  split
  next pc =>
    split
    next bags => exact .noBagLeft pc bags
    next bag later bags => exact .opens pc bags
  next pc =>
    split
    next reader => exact .bagEnds pc reader
    next read rest reader =>
      cases up : input.ok with
      | true => exact readMessage_move settings input player pc reader up
      | false => exact .shutdown pc reader up
  next read pc =>
    cases pressed :
        keyboardUpdate settings.keyboardActive input.keys player.paused with
    | true => exact .pauses pc pressed
    | false => exact .plays pc
  next read pauseStart pc =>
    split_ifs with paused down
    · rw [Bool.and_eq_true] at paused
      exact .staysPaused pc paused.1
    · exact .quitsPause pc (by simpa using down)
    · exact .resumes pc
  next read pc =>
    split_ifs with early
    · exact .throttles pc early
    · exact .releases pc (by simpa using early)
  next read pc =>
    unfold dispatch
    split
    next core => exact .mismatches pc core
    next core => exact .handsLast pc core
    next callback core => exact .hands pc core
  next since pc =>
    split_ifs with waiting
    · rw [Bool.and_eq_true] at waiting
      exact .waits pc (by simpa using waiting.2)
    · exact .waited pc
  next stopped pc => exact .stays pc

end GlimRos.Rosbag
