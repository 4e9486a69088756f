import GlimRos.Executable.Clock

/-!
# `glim_rosbag` comes to its exit

The clock passes every bound, every thread gets its turns, and no pause is
endless with ROS up.  Then no loop over the bags goes round for ever, every
callback returns, and every run comes to the exit, unless `main` was not told
to quit and ROS stays up.
-/

namespace GlimRos.Rosbag

variable {settings : Settings} {input : Input} {player next : Player}

theorem Player.SameButPause.due (same : player.SameButPause next) {now : Int} :
    next.Due settings now ↔ player.Due settings now := by
  rw [same]
  rfl

/-- A player that is due ends or lowers its rank, unless it is paused with
ROS up. -/
theorem rank_lower (due : player.Due settings input.now)
    (released : ∀ read since, player.pc = .paused read since →
      player.paused = false ∨ input.ok = false) :
    (step settings input player).Finished ∨
      (step settings input player).rank < player.rank := by
  have goesOn : player.GoesOn settings input := by
    unfold Player.Due at due
    unfold Player.GoesOn
    cases pc : player.pc with
    | paused read since =>
        intro held
        rcases released read since pc with playing | down
        · cases held.symm.trans playing
        · exact .inl down
    | throttle read =>
        rw [pc] at due
        exact due
    | needsWait since =>
        rw [pc] at due
        exact due
    | _ => trivial
  rcases progress_of_goesOn goesOn with
    progress | ⟨_, ⟨read, since, pc⟩, up, paused, _⟩
  · exact progress
  · rcases released read since pc with playing | down
    · cases paused.symm.trans playing
    · cases up.symm.trans down

end GlimRos.Rosbag

namespace GlimRos.Executable

open Transition

open Rosbag (Bag Input Player)

variable {K : Type} {glim : Glim K} {Module : Type}

section Steps

variable [Field K] [LinearOrder K] {setup : RosbagSetup glim}
  {main next : RosbagMain glim Module} {timed later : TimedMain glim Module}
  {bags : List Bag} {startOffset : Rat} {glimRos : LoadedNode glim Module}
  {run : Nat → TimedMain glim Module}

/-! ## The player gets on -/

theorem running_of_spinSome
    (reachable :
      (timedSystem setup
        (RosbagMain.start bags startOffset glimRos)).Reachable timed)
    (spins : timed.main.pc = .spinSome) : ¬ timed.main.player.Finished := by
  have stands := (reachable_follows (reachable_main reachable)).1.stands
  rw [spins] at stands
  rintro ⟨stopped, through⟩
  obtain ⟨input, calls⟩ := stands
  simp [callsSpinSome, through] at calls

theorem finished_of_spin
    (reachable :
      (timedSystem setup
        (RosbagMain.start bags startOffset glimRos)).Reachable timed)
    (past : timed.main.pc = .spin ∨ timed.main.pc = .exited) :
    timed.main.player.Finished := by
  have stands := (reachable_follows (reachable_main reachable)).1.stands
  rcases past with pc | pc <;> rw [pc] at stands <;> exact stands

/-- The player stands still or goes on with what the clock says. -/
theorem timedStep_player (step : TimedStep setup timed later) :
    later.main.player = timed.main.player ∨
      Advances setup timed later.main := by
  rcases step with passes | ⟨_, reads⟩
  · exact .inl (congrArg RosbagMain.player passes)
  · by_cases same : later.main.player = timed.main.player
    · exact .inl same
    · exact .inr (reads (.inl same))

/-- In the loops over the bags, the thread of `main` can always act. -/
theorem playing_acts (timed : TimedMain glim Module)
    (playing : timed.main.pc = .playing)
    (running : ¬ timed.main.player.Finished) :
    ∃ later, MainActs setup timed later := by
  let input : Input :=
    { now := timed.now
      ok := timed.main.node.rclcppOk
      keys := []
      needsWait := false }
  have sees : timed.main.Sees input := ⟨rfl, nofun⟩
  obtain ⟨later, proceeds, ⟨spins, same⟩ | moved⟩ :=
    exists_plays setup sees playing
  · refine ⟨⟨later, timed.now⟩, .steps proceeds.step ?_, .inl ?_⟩
    · rintro (moved | ⟨spins, _⟩)
      · exact (moved same).elim
      · cases playing.symm.trans spins
    · simp [spins, playing]
  · have advances : Advances setup timed later :=
      ⟨input, rfl, fun _ => sees, moved⟩
    exact ⟨⟨later, timed.now⟩, .steps proceeds.step fun _ => advances,
      .inr ⟨playing, running, advances⟩⟩

/-- In `spin_some` without a callback, it can return. -/
theorem spinSome_acts (timed : TimedMain glim Module)
    (spins : timed.main.pc = .spinSome) (idle : timed.main.node.pc = .idle) :
    ∃ later, MainActs setup timed later := by
  let input : Input :=
    { now := timed.now
      ok := true
      keys := []
      needsWait := true }
  refine ⟨⟨_, timed.now⟩, .steps (.spunSome input spins idle rfl rfl) ?_,
    .inl ?_⟩
  · refine fun _ => ⟨input, rfl, fun playing => ?_, rfl⟩
    cases spins.symm.trans playing
  · simp [spins]

theorem rosbagStep_from_playing (step : RosbagStep setup main next)
    (playing : main.pc = .playing) (running : ¬ main.player.Finished)
    (moves : next.pc ≠ main.pc) (same : next.player = main.player) :
    next.pc = .spinSome ∧ ∃ input, main.Sees input ∧
      callsSpinSome main.player input = true := by
  cases step with
  | callsSpinSome input pc sees calls => exact ⟨rfl, input, sees, calls⟩
  | plays input pc | receives | timerFires | statement | works | interrupt =>
      exact (moves rfl).elim
  | hands input pc sees here continues =>
      have moved : (Rosbag.step setup.settings input main.player).pc =
          .needsWait input.now := (Rosbag.step_hands here continues).1
      cases (here.symm.trans (congrArg Player.pc same).symm).trans moved
  | handsLast input pc sees here last =>
      have moved : (Rosbag.step setup.settings input main.player).pc =
          .done true := (Rosbag.step_handsLast here last).1
      cases (here.symm.trans (congrArg Player.pc same).symm).trans moved
  | returns pc => rcases pc with pc | pc <;> cases playing.symm.trans pc
  | quits pc through | spins pc through =>
      exact (running ⟨_, through⟩).elim
  | spunSome input pc | delivers pc | spun pc | saves pc | destroys pc
  | unloads pc => cases playing.symm.trans pc

theorem rosbagStep_from_spin (step : RosbagStep setup main next)
    (spins : main.pc = .spinSome ∨ main.pc = .spin)
    (moves : next.pc ≠ main.pc) :
    main.pc = .spinSome ∧ next.pc = .playing ∨
      main.pc = .spin ∧ next.pc = .wait := by
  have elsewhere {pc : MainPc} (here : main.pc = pc) :
      pc = .spinSome ∨ pc = .spin := here ▸ spins
  cases step with
  | spunSome input pc => exact .inl ⟨pc, rfl⟩
  | spun pc => exact .inr ⟨pc, rfl⟩
  | receives | timerFires | statement | works | interrupt =>
      exact (moves rfl).elim
  | returns pc => rcases pc with pc | pc <;> simpa using elsewhere pc
  | plays input pc | callsSpinSome input pc | hands input pc
  | handsLast input pc | delivers pc | quits pc | spins pc | saves pc
  | destroys pc | unloads pc => simpa using elsewhere pc

/-- In `spin` without a callback, it can return once ROS is down. -/
theorem spin_acts (timed : TimedMain glim Module)
    (spins : timed.main.pc = .spin) (idle : timed.main.node.pc = .idle)
    (down : timed.main.node.rclcppOk = false) :
    ∃ later, MainActs setup timed later := by
  refine ⟨⟨_, timed.now⟩, .steps (.spun spins idle down) ?_, .inl ?_⟩
  · rintro (moved | ⟨spinSome, _⟩)
    · exact (moved rfl).elim
    · cases spins.symm.trans spinSome
  · simp [spins]

/-- The thread of `main` moves the player on or calls `spin_some`. -/
theorem MainActs.of_playing (acts : MainActs setup timed later)
    (playing : timed.main.pc = .playing)
    (running : ¬ timed.main.player.Finished) :
    Advances setup timed later.main ∨
      later.main.pc = .spinSome ∧
        later.main.player = timed.main.player ∧
        ∃ input, timed.main.Sees input ∧
          callsSpinSome timed.main.player input = true := by
  obtain ⟨step, moves | ⟨_, _, advances⟩⟩ := acts
  · rcases timedStep_player step with same | advances
    · rcases step with passes | ⟨step, _⟩
      · exact (moves (congrArg RosbagMain.pc passes)).elim
      · obtain ⟨spins, called⟩ :=
          rosbagStep_from_playing step playing running moves same
        exact .inr ⟨spins, same, called⟩
    · exact .inl advances
  · exact .inl advances

/-- Back from `spin_some`, the player has moved on. -/
theorem MainActs.of_spinSome (acts : MainActs setup timed later)
    (spins : timed.main.pc = .spinSome) :
    later.main.pc = .playing ∧ Advances setup timed later.main := by
  obtain ⟨step, moves | ⟨playing, _⟩⟩ := acts
  · rcases step with passes | ⟨step, reads⟩
    · exact (moves (congrArg RosbagMain.pc passes)).elim
    · rcases rosbagStep_from_spin step (.inl spins) moves with
        ⟨_, playing⟩ | ⟨spin, _⟩
      · exact ⟨playing, reads (.inr ⟨spins, playing⟩)⟩
      · cases spins.symm.trans spin
  · cases spins.symm.trans playing

theorem MainActs.of_spin (acts : MainActs setup timed later)
    (spins : timed.main.pc = .spin) : later.main.pc = .wait := by
  obtain ⟨step, moves | ⟨playing, _⟩⟩ := acts
  · rcases step with passes | ⟨step, _⟩
    · exact (moves (congrArg RosbagMain.pc passes)).elim
    · rcases rosbagStep_from_spin step (.inr spins) moves with
        ⟨spinSome, _⟩ | ⟨_, waits⟩
      · cases spins.symm.trans spinSome
      · exact waits
  · cases spins.symm.trans playing

theorem runs_player
    (runs :
      (timedSystem setup
        (RosbagMain.start bags startOffset glimRos)).Runs run)
    (index : Nat) :
    (run (index + 1)).main.player = (run index).main.player ∨
      Advances setup (run index) (run (index + 1)).main := by
  rcases runs.step index with same | step
  · exact .inl (by rw [same])
  · exact timedStep_player step

/-- ROS stays down. -/
theorem runs_down
    (runs :
      (timedSystem setup
        (RosbagMain.start bags startOffset glimRos)).Runs run)
    {index later : Nat} (after : index ≤ later)
    (down : (run index).main.node.rclcppOk = false) :
    (run later).main.node.rclcppOk = false := by
  refine (runs.steps after).preserves
    (fun timed => timed.main.node.rclcppOk = false) ?_ down
  rintro timed next down (passes | ⟨step, _⟩)
  · rw [passes]
    exact down
  · exact rosbagStep_down step down

theorem rosbagStep_exited (step : RosbagStep setup main next)
    (exited : main.pc = .exited) : next.pc = main.pc := by
  cases step with
  | receives | timerFires | statement | works | interrupt => rfl
  | plays input pc => rfl
  | returns pc => rcases pc with pc | pc <;> cases exited.symm.trans pc
  | callsSpinSome input pc | spunSome input pc | hands input pc
  | handsLast input pc | delivers pc | quits pc | spins pc | spun pc
  | saves pc | destroys pc | unloads pc => cases exited.symm.trans pc

/-- Nothing follows the exit. -/
theorem runs_exited
    (runs :
      (timedSystem setup
        (RosbagMain.start bags startOffset glimRos)).Runs run)
    {index later : Nat} (after : index ≤ later)
    (exited : (run index).main.pc = .exited) :
    (run later).main.pc = .exited := by
  refine (runs.steps after).preserves (fun timed => timed.main.pc = .exited)
    ?_ exited
  rintro timed next exited (passes | ⟨step, _⟩)
  · rw [passes]
    exact exited
  · exact (rosbagStep_exited step exited).trans exited

omit [Field K] [LinearOrder K] in
/-- A paused player is about to see that it is not, or that ROS is down. -/
def TimedMain.Released (timed : TimedMain glim Module) : Prop :=
  ∀ read since, timed.main.player.pc = .paused read since →
    timed.main.player.paused = false ∨
      timed.main.pc = .playing ∧ timed.main.node.rclcppOk = false

omit [Field K] [LinearOrder K] in
theorem Advances.lowers (advances : Advances setup timed next)
    (due : timed.main.player.Due setup.settings timed.now)
    (released : timed.Released) :
    next.player.Finished ∨ next.player.rank < timed.main.player.rank := by
  obtain ⟨input, now, sees, moved⟩ := advances
  rw [moved]
  refine Rosbag.rank_lower (now ▸ due) fun read since here => ?_
  rcases released read since here with unpaused | ⟨playing, down⟩
  · exact .inl unpaused
  · exact .inr ((sees playing).ok.trans down)

section Runs

variable (fresh : glimRos.Fresh)
  (runs :
    (timedSystem setup
      (RosbagMain.start bags startOffset glimRos)).Runs run)
  (attended : Attended setup run)

include runs attended

/-- From a place in the loops over the bags or in `spin_some`, the thread of
`main` acts before anything else moves the player. -/
theorem comes_to_act {index : Nat}
    (again : ∀ later, index ≤ later →
      (run later).main.pc = (run index).main.pc →
      (run later).main.player = (run index).main.player →
      ∃ latest, later ≤ latest ∧ ∃ next, MainActs setup (run latest) next) :
    ∃ later, index ≤ later ∧
      (run later).main.pc = (run index).main.pc ∧
      (run later).main.player = (run index).main.player ∧
      MainActs setup (run later) (run (later + 1)) := by
  obtain ⟨later, after, ⟨stays, same⟩, acts⟩ := attended.main.taken runs
    (fun timed => timed.main.pc = (run index).main.pc ∧
      timed.main.player = (run index).main.player)
    (fun timed next held step =>
      (timedStep_acts step).imp_left fun still =>
        ⟨still.1.trans held.1, still.2.trans held.2⟩)
    (fun later after held => again later after held.1 held.2) ⟨rfl, rfl⟩
  exact ⟨later, after, stays, same, acts⟩

theorem comes_to_move {index : Nat}
    (playing : (run index).main.pc = .playing)
    (running : ¬ (run index).main.player.Finished) :
    ∃ later, index ≤ later ∧ (run later).main.pc = .playing ∧
      (run later).main.player = (run index).main.player ∧
      MainActs setup (run later) (run (later + 1)) := by
  obtain ⟨later, after, stays, same, acts⟩ :=
    comes_to_act runs attended fun later _ stays same =>
      ⟨later, le_rfl, playing_acts _ (stays.trans playing) (same ▸ running)⟩
  exact ⟨later, after, stays.trans playing, same, acts⟩

include fresh

/-- Every `spin_some` returns, and the player moves on. -/
theorem comes_back {index : Nat} (spins : (run index).main.pc = .spinSome) :
    ∃ later, index ≤ later ∧
      (run later).main.player = (run index).main.player ∧
      (run (later + 1)).main.pc = .playing ∧
      Advances setup (run later) (run (later + 1)).main := by
  have running := running_of_spinSome (runs.reachable index) spins
  obtain ⟨later, after, stays, same, acts⟩ :=
    comes_to_act runs attended fun later _ stays same => by
      obtain ⟨latest, beyond, halts, still, atMost⟩ :=
        comes_to_halt fresh runs attended later
      have running : ¬ (run latest).main.player.Finished := by
        rw [still, same]
        exact running
      rcases halts with ⟨playing, _⟩ | ⟨spinSome | spin, idle⟩ | exited
      · have within := place_le_of_toHalt atMost
        rw [stays, spins, playing] at within
        simp [MainPc.place] at within
      · exact ⟨latest, beyond, spinSome_acts _ spinSome idle⟩
      · exact (running
          (finished_of_spin (runs.reachable latest) (.inl spin))).elim
      · exact (running
          (finished_of_spin (runs.reachable latest) (.inr exited))).elim
  obtain ⟨playing, advances⟩ := acts.of_spinSome (stays.trans spins)
  exact ⟨later, after, same, playing, advances⟩

/-- The player moves on unless the playback is over. -/
theorem comes_to_advance {index : Nat}
    (running : ¬ (run index).main.player.Finished) :
    ∃ later, index ≤ later ∧
      (run later).main.player = (run index).main.player ∧
      Advances setup (run later) (run (later + 1)).main ∧
      ((run later).main.pc = .playing ∨
        (run (later + 1)).main.pc = .playing) := by
  obtain ⟨halted, after, halts, same, _⟩ :=
    comes_to_halt fresh runs attended index
  have still : ¬ (run halted).main.player.Finished := same ▸ running
  have returns {there : Nat} (beyond : index ≤ there)
      (unmoved : (run there).main.player = (run index).main.player)
      (spins : (run there).main.pc = .spinSome) :
      ∃ later, index ≤ later ∧
        (run later).main.player = (run index).main.player ∧
        Advances setup (run later) (run (later + 1)).main ∧
        ((run later).main.pc = .playing ∨
          (run (later + 1)).main.pc = .playing) := by
    obtain ⟨later, further, same, playing, advances⟩ :=
      comes_back fresh runs attended spins
    exact ⟨later, beyond.trans further, same.trans unmoved, advances,
      .inr playing⟩
  rcases halts with ⟨playing, _⟩ | ⟨spinSome | spin, _⟩ | exited
  · obtain ⟨later, beyond, stays, unmoved, acts⟩ :=
      comes_to_move runs attended playing still
    rcases acts.of_playing stays (unmoved ▸ still) with
      advances | ⟨spins, held, _⟩
    · exact ⟨later, after.trans beyond, unmoved.trans same, advances,
        .inl stays⟩
    · exact returns ((after.trans beyond).trans (Nat.le_succ later))
        (held.trans (unmoved.trans same)) spins
  · exact returns after same spinSome
  · exact (still (finished_of_spin (runs.reachable halted) (.inl spin))).elim
  · exact (still (finished_of_spin (runs.reachable halted) (.inr exited))).elim

/-- A player that is held back for good would see that the pause is over. -/
theorem comes_released {index : Nat} {player : Player}
    (running : ∀ later, index ≤ later → ¬ (run later).main.player.Finished)
    (held : ∀ later, index ≤ later →
      player.SameButPause (run later).main.player) :
    ∃ later, index ≤ later ∧ (run later).Released ∧
      Advances setup (run later) (run (later + 1)).main := by
  have stands (later : Nat) (after : index ≤ later) :
      (run later).main.player.pc = player.pc := by
    rw [held later after]
  by_cases pausing : ∃ read since, player.pc = .paused read since
  · obtain ⟨read, since, pc⟩ := pausing
    obtain ⟨start, after, unpaused | down | finished⟩ :=
      attended.unpaused index
    · obtain ⟨later, beyond, same, advances, _⟩ :=
        comes_to_advance fresh runs attended (running start after)
      refine ⟨later, after.trans beyond, fun _ _ _ => .inl ?_, advances⟩
      rw [same]
      exact unpaused
    · -- `main` may still be in a `spin_some` from before the shutdown
      obtain ⟨there, beyond, playing⟩ : ∃ there, start ≤ there ∧
          (run there).main.pc = .playing := by
        obtain ⟨later, beyond, _, _, playing | playing⟩ :=
          comes_to_advance fresh runs attended (running start after)
        · exact ⟨later, beyond, playing⟩
        · exact ⟨later + 1, Nat.le_succ_of_le beyond, playing⟩
      have late := after.trans beyond
      obtain ⟨later, further, stays, _, acts⟩ :=
        comes_to_move runs attended playing (running there late)
      have after := late.trans further
      have stillDown := runs_down runs (beyond.trans further) down
      rcases acts.of_playing stays (running later after) with
        advances | ⟨_, _, input, sees, calls⟩
      · exact ⟨later, after, fun _ _ _ => .inr ⟨stays, stillDown⟩, advances⟩
      · rw [callsSpinSome, stands later after, pc] at calls
        simp [sees.ok.trans stillDown] at calls
    · exact (running start after finished).elim
  · obtain ⟨later, after, _, advances, _⟩ :=
      comes_to_advance fresh runs attended (running index le_rfl)
    refine ⟨later, after, fun read since pc => (pausing ?_).elim, advances⟩
    exact ⟨read, since, (stands later after).symm.trans pc⟩

/-- Until the playback is over, the player lowers its rank. -/
theorem player_descends (index : Nat) :
    ∃ later, index ≤ later ∧ ((run later).main.player.Finished ∨
      (run later).main.player.rank < (run index).main.player.rank) := by
  by_contra never
  have stays : ∀ later, index ≤ later →
      (run index).main.player.SameButPause (run later).main.player := by
    intro later after
    induction later, after using Nat.le_induction with
    | base => exact .refl _
    | succ later after induction =>
        rcases runs_player runs later with same | ⟨input, _, _, moved⟩
        · rw [same]
          exact induction
        · rcases Rosbag.progress_move (Rosbag.step_move setup.settings input
            (run later).main.player) with progress | ⟨same, _⟩
          · rw [← moved, induction.rank] at progress
            exact (never ⟨later + 1, Nat.le_succ_of_le after, progress⟩).elim
          · rw [moved]
            exact induction.trans same
  obtain ⟨bound, due⟩ :=
    Rosbag.exists_due setup.settings (run index).main.player
  obtain ⟨reached, past⟩ := attended.clock bound
  obtain ⟨later, after, released, advances⟩ :=
    comes_released fresh runs attended
      (fun later after finished => never
        ⟨later, (le_max_left index reached).trans after, .inl finished⟩)
      (fun later after =>
        stays later ((le_max_left index reached).trans after))
  have beyond := (le_max_left index reached).trans after
  have lowers := advances.lowers
    ((stays later beyond).due.mpr
      (due _ (past later ((le_max_right index reached).trans after))))
    released
  rw [(stays later beyond).rank] at lowers
  exact never ⟨later + 1, Nat.le_succ_of_le beyond, lowers⟩

theorem comes_to_end : ∃ index, (run index).main.player.Finished := by
  obtain ⟨index, _, finished⟩ := eventually_done
    (fun index => (run index).main.player) Player.Finished Player.rank
    (fun index _ => player_descends fresh runs attended index) 0
  exact ⟨index, finished⟩

/-- Past `spin`, the next halt is the exit. -/
theorem comes_to_exit {index : Nat}
    (past : (run index).main.pc.place < MainPc.spin.place) :
    ∃ later, index ≤ later ∧ (run later).main.pc = .exited := by
  obtain ⟨later, after, halts, _, atMost⟩ :=
    comes_to_halt fresh runs attended index
  have within := (place_le_of_toHalt atMost).trans_lt past
  refine ⟨later, after, ?_⟩
  rcases halts with ⟨pc, _⟩ | ⟨pc | pc, _⟩ | exited
  · simp [pc, MainPc.place] at within
  · simp [pc, MainPc.place] at within
  · simp [pc, MainPc.place] at within
  · exact exited

/-- Once ROS is down, `spin` returns. -/
theorem comes_out_of_spin {index : Nat} (spins : (run index).main.pc = .spin)
    (down : (run index).main.node.rclcppOk = false) :
    ∃ later, index ≤ later ∧ (run later).main.pc = .exited := by
  by_contra never
  obtain ⟨later, after, stays, _, acts⟩ :=
    comes_to_act runs attended fun later after stays same => by
      obtain ⟨latest, beyond, halts, still, atMost⟩ :=
        comes_to_halt fresh runs attended later
      have within := place_le_of_toHalt atMost
      rw [stays, spins] at within
      rcases halts with ⟨pc, _⟩ | ⟨pc | pc, idle⟩ | exited
      · simp [pc, MainPc.place] at within
      · simp [pc, MainPc.place] at within
      · exact ⟨latest, beyond, spin_acts _ pc idle
          (runs_down runs (after.trans beyond) down)⟩
      · exact (never ⟨latest, after.trans beyond, exited⟩).elim
  have waits := acts.of_spin (stays.trans spins)
  obtain ⟨last, beyond, exited⟩ := comes_to_exit fresh runs attended
    (by rw [waits]; simp [MainPc.place])
  exact never ⟨last, (Nat.le_succ_of_le after).trans beyond, exited⟩

omit fresh attended in
theorem runs_finished {index later : Nat} (after : index ≤ later)
    (finished : (run index).main.player.Finished) :
    (run later).main.player.Finished := by
  induction later, after using Nat.le_induction with
  | base => exact finished
  | succ later after induction =>
      rcases runs_player runs later with same | ⟨input, _, _, moved⟩
      · rw [same]
        exact induction
      · obtain ⟨stopped, through⟩ := induction
        rw [moved, (Rosbag.step_move setup.settings input
          (run later).main.player).of_done through]
        exact ⟨stopped, through⟩

theorem eventually_exited
    (ends : setup.autoQuit = true ∨
      ∃ index, (run index).main.node.rclcppOk = false) :
    ∃ index, (run index).main.pc = .exited := by
  obtain ⟨ended, finished⟩ := comes_to_end fresh runs attended
  obtain ⟨late, after, quits⟩ : ∃ late, ended ≤ late ∧
      (setup.autoQuit = true ∨ (run late).main.node.rclcppOk = false) := by
    rcases ends with quits | ⟨index, down⟩
    · exact ⟨ended, le_rfl, .inl quits⟩
    · exact ⟨max ended index, le_max_left ended index,
        .inr (runs_down runs (le_max_right ended index) down)⟩
  obtain ⟨halted, beyond, halts, _, _⟩ :=
    comes_to_halt fresh runs attended late
  have through := runs_finished runs (after.trans beyond) finished
  rcases halts with ⟨_, running⟩ | ⟨spinSome | spin, _⟩ | exited
  · exact (running through).elim
  · exact (running_of_spinSome (runs.reachable halted) spinSome through).elim
  · have stays := (reachable_orderly
      (reachable_main (runs.reachable halted))).spins spin
    rcases quits with quits | down
    · cases stays.symm.trans quits
    · obtain ⟨last, _, exited⟩ := comes_out_of_spin fresh runs attended spin
        (runs_down runs beyond down)
      exact ⟨last, exited⟩
  · exact ⟨halted, exited⟩

end Runs

/-- In every attended run, `glim_rosbag` comes to its exit, whatever arrives
over the topics and whatever the workers emit meanwhile, if it was told to
quit or ROS is shut down at some time.  If ROS is still up then, the bags were
played out. -/
theorem rosbag_exits (fresh : glimRos.Fresh)
    (runs :
      (timedSystem setup
        (RosbagMain.start bags startOffset glimRos)).Runs run)
    (attended : Attended setup run)
    (ends : setup.autoQuit = true ∨
      ∃ index, (run index).main.node.rclcppOk = false) :
    ∃ index, (run index).main.pc = .exited ∧
      ((run index).main.node.rclcppOk = true →
        (run index).main.PlayedOut) := by
  obtain ⟨index, exited⟩ := eventually_exited fresh runs attended ends
  have reachable := reachable_main (runs.reachable index)
  exact ⟨index, exited, playedOut_of_exited reachable exited⟩

/-! ## A run with a clock -/

omit [Field K] [LinearOrder K] in
/-- The run that stands still at an index while its clock ticks. -/
def ticking (run : Nat → TimedMain glim Module) (stop index : Nat) :
    TimedMain glim Module :=
  if index ≤ stop then run index else { run stop with now := index }

theorem ticking_runs {start : RosbagMain glim Module}
    (runs : (timedSystem setup start).Runs run) (stop : Nat) :
    (timedSystem setup start).Runs (ticking run stop) := by
  constructor
  · simpa [ticking] using runs.init
  · intro index
    rcases Nat.lt_trichotomy index stop with before | here | after
    · have within : index ≤ stop := Nat.le_of_lt before
      have nextWithin : index + 1 ≤ stop := before
      simpa [ticking, within, nextWithin] using runs.step index
    · subst here
      exact .inr (.passes (by simp [ticking]))
    · have outside : ¬ index ≤ stop := Nat.not_le_of_lt after
      have nextOutside : ¬ index + 1 ≤ stop := by omega
      exact .inr (.passes (by simp [ticking, outside, nextOutside]))

/-- A run that has come to the exit is attended if its clock ticks on. -/
theorem exited_attended (fresh : glimRos.Fresh)
    (joins : glimRos.node.subMapping.isSome ∨
      glimRos.node.globalMapping = none)
    (runs :
      (timedSystem setup
        (RosbagMain.start bags startOffset glimRos)).Runs run)
    {stop : Nat} (exited : (run stop).main.pc = .exited) :
    Attended setup (ticking run stop) := by
  have reachable := reachable_main (runs.reachable stop)
  have stands {later : Nat} (after : stop ≤ later) :
      (ticking run stop later).main = (run stop).main := by
    rcases Nat.eq_or_lt_of_le after with rfl | after
    · simp [ticking]
    · simp [ticking, Nat.not_le_of_lt after]
  have waited : (run stop).main.node.pc = .waited := by
    have admits := (reachable_coupled fresh reachable).admits
    rw [exited] at admits
    exact admits
  have finished := (leavesBehind_of_exited fresh joins reachable exited).finished
  have ended := finished_of_spin (runs.reachable stop) (.inr exited)
  have mainStops : ∀ later, stop ≤ later → ∀ next,
      ¬ MainActs setup (ticking run stop later) next := by
    rintro later after next ⟨step, acts⟩
    have pc : (ticking run stop later).main.pc = .exited := by
      rw [stands after]
      exact exited
    rcases acts with moves | ⟨playing, _⟩
    · rcases step with passes | ⟨step, _⟩
      · exact moves (congrArg RosbagMain.pc passes)
      · exact moves (rosbagStep_exited step pc)
    · cases pc.symm.trans playing
  have nodeStops (party : Party) : ∀ later, stop ≤ later → ∀ next,
      ¬ NodeActs party (ticking run stop later) next := by
    rintro later after next ⟨acts, _⟩
    rw [stands after] at acts
    exact disabled_of_finished waited finished party _ acts
  refine ⟨.of_disabled mainStops, fun party =>
    (StronglyFair.of_disabled (nodeStops party)).weaklyFair,
    fun bound => ?_, fun index => ?_⟩
  · refine ⟨max (stop + 1) bound.toNat, fun later after => ?_⟩
    have outside : ¬ later ≤ stop := by omega
    simp only [ticking, outside, if_false]
    omega
  · refine ⟨max index stop, le_max_left index stop, .inr (.inr ?_)⟩
    rw [stands (le_max_right index stop)]
    exact ended

end Steps

/-- Some run of the sample program that was told to quit is attended and comes
to the exit. -/
theorem rosbag_exits_quitting :
    ∃ (run : Nat → TimedMain numberedGlim String) (index : Nat),
      (timedSystem quittingSetup
        (RosbagMain.start [oneImuBag] 0 dumpingNode)).Runs run ∧
      Attended quittingSetup run ∧ (run index).main.pc = .exited := by
  obtain ⟨last, reachable, exited, _, _⟩ :=
    exists_exit quittingSetup dumpingNode_fresh rfl [oneImuBag] 0
  obtain ⟨timed, reached, rfl⟩ :=
    (clockRefinement quittingSetup _).reachable reachable
  obtain ⟨run, stop, runs, stops⟩ := reached.exists_runs
  have there : (run stop).main.pc = .exited := by
    rw [stops stop le_rfl]
    exact exited
  have ticks := ticking_runs runs stop
  have attended := exited_attended dumpingNode_fresh (.inl rfl) runs there
  obtain ⟨index, exits, _⟩ :=
    rosbag_exits dumpingNode_fresh ticks attended (.inl rfl)
  exact ⟨_, index, ticks, attended, exits⟩

end GlimRos.Executable
