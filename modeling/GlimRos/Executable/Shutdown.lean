import GlimRos.Executable.Completion

/-!
# What still happens after ROS was shut down

The loops of `glim_rosbag` look at `rclcpp::ok()` at the head of the message
loop and while the playback is paused, and nowhere else.  A message that is
past the first check is still handed on, and no other.
-/

namespace GlimRos.Rosbag

variable {settings : Settings} {input : Input} {player : Player}

/-- A message is past the range checks and not handed on yet. -/
def Player.midMessage (player : Player) : Bool :=
  match player.pc with
  | .keyboard _ | .throttle _ | .dispatch _ => true
  | _ => false

/-- With ROS down no further message gets past the head of the loop, and a
pause ends the playback. -/
theorem midMessage_of_down (down : input.ok = false)
    (mid : (step settings input player).midMessage = true) :
    player.midMessage = true := by
  cases here : player.pc with
  | keyboard read | throttle read | dispatch read =>
      simp [Player.midMessage, here]
  | nextBag =>
      cases bags : player.bags <;>
        simp [step, here, bags, Player.midMessage] at mid
  | loopHead =>
      cases reader : player.reader <;>
        simp [step, here, reader, down, Player.midMessage] at mid
  | paused read since => simp [step, here, down, Player.midMessage] at mid
  | needsWait since =>
      simp only [step, here] at mid
      split at mid <;> simp [here, Player.midMessage] at mid
  | done stopped => simp [step, here, Player.midMessage] at mid

/-- A message that is handed on leaves no other one behind. -/
theorem midMessage_of_dispatch {read : Read} (here : player.pc = .dispatch read) :
    (step settings input player).midMessage = false := by
  simp only [step, here, dispatch]
  split <;> rfl

end GlimRos.Rosbag

namespace GlimRos.Executable

open Transition

open Rosbag (Bag Handed Input Player Read)

variable {K : Type} {glim : Glim K} {Module : Type}

/-- `main` is past the check of `rclcpp::ok()` for a message that it has not
handed on yet. -/
def RosbagMain.pastCheck (main : RosbagMain glim Module) : Bool :=
  main.player.midMessage ||
    decide (main.player.pc = .loopHead ∧ main.pc = .spinSome)

/-- A pause or a wait that called `spin_some` goes on after it. -/
theorem midMessage_of_spun {settings : Rosbag.Settings} {called input : Input}
    {player : Player} (calls : callsSpinSome player called = true)
    (ok : input.ok = true)
    (mid : (Rosbag.step settings input player).midMessage = true) :
    player.pc = .loopHead := by
  cases here : player.pc with
  | loopHead => rfl
  | paused read since =>
      have still : player.paused = true := by
        simp only [callsSpinSome, here, Bool.and_eq_true] at calls
        exact calls.1
      simp [Rosbag.step, here, still, ok, Player.midMessage] at mid
  | needsWait since =>
      simp only [Rosbag.step, here] at mid
      split at mid <;> simp [here, Player.midMessage] at mid
  | _ => simp [callsSpinSome, here] at calls

section Steps

variable {main next later : RosbagMain glim Module}

/-- The messages handed on by a step, within what the checks let through. -/
def Stops (main next : RosbagMain glim Module) : Prop :=
  ∃ last, next.player.processed = main.player.processed ++ last ∧
    last.length + next.pastCheck.toNat ≤ main.pastCheck.toNat

theorem Stops.quiet
    (processed : next.player.processed = main.player.processed)
    (past : next.pastCheck = true → main.pastCheck = true) :
    Stops main next := by
  refine ⟨[], by rw [processed, List.append_nil], ?_⟩
  rw [List.length_nil, Nat.zero_add]
  exact Bool.toNat_le_toNat past

/-- A step that leaves the player alone and does not enter `spin_some`. -/
theorem Stops.keep (same : next.player = main.player)
    (outside : next.pc = .spinSome → main.pc = .spinSome) :
    Stops main next := by
  apply Stops.quiet (by rw [same])
  simp only [RosbagMain.pastCheck, same, Bool.or_eq_true, decide_eq_true_eq]
  exact Or.imp_right fun spinning => ⟨spinning.1, outside spinning.2⟩

/-- The step that hands a message on. -/
theorem Stops.hand {read : Read} {entry : Handed}
    (here : main.player.pc = .dispatch read)
    (processed : next.player.processed = main.player.processed ++ [entry])
    (past : next.pastCheck = false) : Stops main next := by
  have through : main.pastCheck = true := by
    simp [RosbagMain.pastCheck, Player.midMessage, here]
  refine ⟨[entry], processed, ?_⟩
  rw [past, through]
  rfl

variable [Field K] [LinearOrder K] {setup : RosbagSetup glim}

theorem rosbagStep_stops (down : main.node.rclcppOk = false)
    (stands : main.pc.Stands main.player)
    (step : RosbagStep setup main next) : Stops main next := by
  cases step with
  | plays input pc sees direct quiet =>
      have move := Rosbag.step_move setup.settings input main.player
      apply Stops.quiet (Rosbag.processed_of_quiet move quiet)
      intro past
      have mid : (Rosbag.step setup.settings input main.player).midMessage =
          true := by
        simpa [RosbagMain.pastCheck, pc] using past
      rw [RosbagMain.pastCheck,
        Rosbag.midMessage_of_down (sees.ok.trans down) mid, Bool.true_or]
  | callsSpinSome input pc sees calls =>
      refine Stops.quiet rfl fun past => ?_
      have off : input.ok = false := sees.ok.trans down
      have mid : main.player.midMessage = true := by
        simp only [RosbagMain.pastCheck, Bool.or_eq_true, decide_eq_true_eq]
          at past
        rcases past with mid | ⟨here, _⟩
        · exact mid
        · simp [callsSpinSome, here, off] at calls
      rw [RosbagMain.pastCheck, mid, Bool.true_or]
  | spunSome input pc idle ok needsWait =>
      rw [pc] at stands
      obtain ⟨called, calls⟩ := stands
      have move := Rosbag.step_move setup.settings input main.player
      apply Stops.quiet
      · apply Rosbag.processed_of_quiet move
        intro read here
        rw [dispatch_calls_nothing here called] at calls
        cases calls
      · intro past
        have mid : (Rosbag.step setup.settings input main.player).midMessage =
            true := by
          simpa [RosbagMain.pastCheck] using past
        have here := midMessage_of_spun calls ok mid
        simp [RosbagMain.pastCheck, here, pc]
  | hands input pc sees here continues =>
      apply Stops.hand here (Rosbag.step_hands here continues).2
      simp [RosbagMain.pastCheck, Rosbag.midMessage_of_dispatch here]
  | handsLast input pc sees here last =>
      apply Stops.hand here (Rosbag.step_handsLast here last).2
      simp [RosbagMain.pastCheck, Rosbag.midMessage_of_dispatch here]
  | receives | timerFires | statement | works | interrupt =>
      exact .keep rfl id
  | destroys pc =>
      refine Stops.keep rfl fun spinning => ?_
      dsimp only at spinning
      split at spinning <;> cases spinning
  | _ =>
      refine Stops.keep rfl fun spinning => ?_
      cases spinning

variable {bags : List Bag} {startOffset : Rat}
  {glimRos : LoadedNode glim Module}

/-- In every run and under every schedule: once ROS is down, `glim_rosbag`
hands on only the message that was already past the check of `rclcpp::ok()`,
if there was one, and nothing more arrives at the node from the bags. -/
theorem shutdown_stops_playback
    (reachable :
      (rosbagSystem setup
        (RosbagMain.start bags startOffset glimRos)).Reachable main)
    (down : main.node.rclcppOk = false)
    (steps :
      (rosbagSystem setup
        (RosbagMain.start bags startOffset glimRos)).Steps main later) :
    ∃ last, later.player.processed = main.player.processed ++ last ∧
      last.length ≤ main.pastCheck.toNat ∧
      later.arrivals.filter Arrival.fromBag =
        main.arrivals.filter Arrival.fromBag ++
          last.flatMap fun entry => setup.arrival entry.read entry.core := by
  obtain ⟨reached, _, last, processed, bound⟩ := steps.preserves
    (fun current =>
      (rosbagSystem setup
        (RosbagMain.start bags startOffset glimRos)).Reachable current ∧
      current.node.rclcppOk = false ∧ Stops main current)
    (fun current next held step => by
      obtain ⟨reached, off, earlier, processed, bound⟩ := held
      obtain ⟨last, more, within⟩ :=
        rosbagStep_stops off (reachable_follows reached).1.stands step
      refine ⟨reached.step step, rosbagStep_down step off, earlier ++ last,
        ?_, ?_⟩
      · rw [more, processed, List.append_assoc]
      · rw [List.length_append]
        omega)
    ⟨reachable, down, [], (List.append_nil _).symm, by simp⟩
  refine ⟨last, processed, by omega, ?_⟩
  rw [(reachable_follows reached).2.arrivals,
    (reachable_follows reachable).2.arrivals, processed, List.flatMap_append]

end Steps

/-- ROS goes down while `main` is in the `spin_some` in front of the message:
the message is handed on, as the last one. -/
theorem shutdown_stops_playback_past :
    ∃ main later : RosbagMain numberedGlim String,
      main.node.rclcppOk = false ∧ main.player.processed = [] ∧
        later.player.processed.length = 1 ∧
        ∃ last, later.player.processed = main.player.processed ++ last ∧
          last.length ≤ main.pastCheck.toNat := by
  have started : (rosbagSystem quittingSetup
      (RosbagMain.start [oneImuBag] 0 dumpingNode)).Reachable _ := .init rfl
  have opened := started.step
    (.plays (Rosbag.unattended 0) rfl ⟨rfl, nofun⟩ rfl nofun)
  have spins := opened.step
    (.callsSpinSome (Rosbag.unattended 0) rfl ⟨rfl, nofun⟩ rfl)
  have interrupted := spins.step .interrupt
  obtain ⟨last, processed, bound, _⟩ :=
    shutdown_stops_playback interrupted rfl
      (Relation.ReflTransGen.head
        (.spunSome { Rosbag.unattended 0 with needsWait := true } rfl rfl rfl
          rfl)
        (.head (.plays { Rosbag.unattended 0 with ok := false } rfl
            ⟨rfl, nofun⟩ rfl nofun)
          (.head (.plays { Rosbag.unattended 0 with ok := false } rfl
              ⟨rfl, nofun⟩ rfl nofun)
            (.single
              (@RosbagStep.hands _ _ _ _ _ _ _
                { Rosbag.unattended 0 with ok := false } rfl ⟨rfl, nofun⟩
                imuRead (by decide +kernel) (some .imu)
                (by decide +kernel))))))
  exact ⟨_, _, rfl, rfl, by decide +kernel, last, processed, bound⟩

end GlimRos.Executable
