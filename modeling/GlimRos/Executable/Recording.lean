import GlimRos.Executable.Completion

/-!
# What odometry is given of a recording

The messages of the bags reach odometry in the order of the recording.  Played
again at another speed, with other mapping stages, with modules that make the
same subscriptions or under another schedule, a recording gives odometry the
same input.
-/

namespace GlimRos.Executable

open Transition

open Rosbag (Bag Read Settings)

variable {K : Type} {glim : Glim K} {Module : Type}

/-- The same playback at another speed, with or without a keyboard.  The
subscriptions of the modules and the limits of the playback are the same; how
the node quits and where it dumps does not matter. -/
structure RosbagSetup.SamePlayback (first second : RosbagSetup glim) :
    Prop where
  config : second.config = first.config
  decode : second.decode = first.decode
  settings : second.settings =
    { first.settings with
      playbackSpeed := second.settings.playbackSpeed
      keyboardActive := second.settings.keyboardActive }

theorem played_congr (settings : Settings) (speed : Rat) (active : Bool)
    (t0 : Int) (reads : List Read) :
    Rosbag.played
        { settings with playbackSpeed := speed, keyboardActive := active }
        t0 reads =
      Rosbag.played settings t0 reads := by
  induction reads generalizing t0 with
  | nil => rfl
  | cons read rest induction =>
      rw [Rosbag.played, Rosbag.played, induction]
      rfl

namespace RosbagSetup.SamePlayback

variable {first second : RosbagSetup glim}
  (same : first.SamePlayback second)

include same

theorem recorded (bags : List Bag) (startOffset : Rat) :
    second.recorded bags startOffset = first.recorded bags startOffset := by
  rw [RosbagSetup.recorded, same.settings, played_congr]
  rfl

theorem messages : second.messages = first.messages := by
  funext read
  rw [RosbagSetup.messages, RosbagSetup.messages, same.settings, same.decode]
  rfl

end RosbagSetup.SamePlayback

section Runs

variable [Field K] [LinearOrder K] {setup : RosbagSetup glim}
  {bags : List Bag} {startOffset : Rat} {glimRos : LoadedNode glim Module}
  {main : RosbagMain glim Module}

/-- In every run of `glim_rosbag`, odometry is given what handling the
arrived messages one after the other yields, whatever the workers, the timer
and the clock do.  Those from the bags are at every point the first ones of
the recording, and all of them once the bags were played out. -/
theorem playback_feeds_odometry (fresh : glimRos.Fresh)
    (reachable :
      (rosbagSystem setup
        (RosbagMain.start bags startOffset glimRos)).Reachable main) :
    (frontEndTransducer glim setup.config).run glimRos.node.frontEnd
        (main.arrivals.map Arrival.message) =
      (main.node.frontEnd, main.node.odometryInputs) ∧
    (main.arrivals.filter Arrival.fromBag).map Arrival.message <+:
      (setup.recorded bags startOffset).flatMap setup.messages ∧
    (main.PlayedOut →
      (main.arrivals.filter Arrival.fromBag).map Arrival.message =
        (setup.recorded bags startOffset).flatMap setup.messages) := by
  exact ⟨reachable_handled fresh reachable, reachable_fromBag reachable⟩

omit [Field K] [LinearOrder K] in
theorem RosbagMain.fromBag_of_live (offline : main.live = []) :
    ∀ arrival ∈ main.arrivals, arrival.fromBag := by
  intro arrival member
  have none := List.filter_eq_nil_iff.mp offline arrival member
  simpa using none

/-- Without live messages, the node is a function of the bags: a playback
that is cut has given odometry the first inputs of one that is not, and two
that are not cut agree, at whatever speed, under whatever schedule, with
whatever mapping stages and with all extension modules that make the same
subscriptions. -/
theorem playback_reproducible {first second : RosbagSetup glim}
    (same : first.SamePlayback second) {OtherModule : Type}
    {other : LoadedNode glim OtherModule} (fresh : glimRos.Fresh)
    (otherFresh : other.Fresh)
    (sameStart : other.node.frontEnd = glimRos.node.frontEnd)
    {cut : RosbagMain glim OtherModule}
    (reachable :
      (rosbagSystem first
        (RosbagMain.start bags startOffset glimRos)).Reachable main)
    (cutReachable :
      (rosbagSystem second
        (RosbagMain.start bags startOffset other)).Reachable cut)
    (offline : ∀ arrival ∈ main.arrivals, arrival.fromBag)
    (cutOffline : ∀ arrival ∈ cut.arrivals, arrival.fromBag)
    (through : main.PlayedOut) :
    cut.node.odometryInputs <+: main.node.odometryInputs ∧
      (cut.PlayedOut →
        cut.node.odometryInputs = main.node.odometryInputs ∧
        cut.node.frontEnd = main.node.frontEnd) := by
  have handled := reachable_handled fresh reachable
  have cutHandled := reachable_handled otherFresh cutReachable
  obtain ⟨_, all⟩ := reachable_fromBag reachable
  obtain ⟨part, cutAll⟩ := reachable_fromBag cutReachable
  rw [List.filter_eq_self.mpr offline] at all
  rw [List.filter_eq_self.mpr cutOffline] at part cutAll
  rw [same.recorded, same.messages, ← all through] at part cutAll
  rw [same.config, sameStart] at cutHandled
  constructor
  · have answered := (frontEndTransducer glim first.config).run_isPrefix
      glimRos.node.frontEnd part
    rwa [handled, cutHandled] at answered
  · intro cutOver
    rw [cutAll cutOver, handled] at cutHandled
    obtain ⟨sameFrontEnd, sameInputs⟩ := Prod.mk.inj cutHandled
    exact ⟨sameInputs.symm, sameFrontEnd.symm⟩

end Runs

/-- The recording of one message, played to its end, gives odometry its
sample. -/
theorem playback_feeds_odometry_imu :
    ∃ main : RosbagMain numberedGlim String,
      main.PlayedOut ∧
        StageInput.imus main.node.odometryInputs =
          [⟨1, ⟨0, 0, 49 / 5⟩, ⟨0, 0, 0⟩⟩] := by
  obtain ⟨main, reachable, _, live, through⟩ :=
    exists_exit quittingSetup dumpingNode_fresh rfl [oneImuBag] 0
  obtain ⟨handled, _, complete⟩ :=
    playback_feeds_odometry dumpingNode_fresh reachable
  have recorded := complete through
  rw [List.filter_eq_self.mpr (RosbagMain.fromBag_of_live live)] at recorded
  rw [recorded] at handled
  refine ⟨main, through, ?_⟩
  have inputs := congrArg (fun result => StageInput.imus result.2) handled
  have heard : (quittingSetup.recorded [oneImuBag] 0).flatMap
      quittingSetup.messages = [.imu levelImu] := by
    have one : quittingSetup.recorded [oneImuBag] 0 =
        [⟨⟨"imu", 1000000000, 1, 0⟩, "sensor_msgs/msg/Imu"⟩] := by
      decide +kernel
    rw [one]
    rfl
  rw [heard] at inputs
  have set : ¬ (1 : Rat) < 1e-6 := by norm_num
  refine inputs.symm.trans ?_
  simp [frontEndTransducer, Transducer.run, FrontEnd.handleImu,
    dumpingNode, Node.frontEnd, Node.start, detectAccScale, set, imuSample,
    imuStamp, quittingSetup, defaultNodeConfig, levelImu, numberedGlim]
  rfl

/-- The settings of a second playback, in real time and without a keyboard. -/
def realTimeSetup : RosbagSetup numberedGlim :=
  { quittingSetup with
    settings :=
      { Rosbag.splitSettings with
        playbackSpeed := 1
        keyboardActive := false } }

/-- The whole pipeline at 100 times the speed and odometry alone in real time
give odometry the same input. -/
theorem playback_reproducible_realTime :
    ∃ (main : RosbagMain numberedGlim String)
        (other : RosbagMain numberedGlim Empty),
      main.PlayedOut ∧ other.PlayedOut ∧
        other.node.odometryInputs = main.node.odometryInputs := by
  obtain ⟨main, reachable, _, live, through⟩ :=
    exists_exit quittingSetup dumpingNode_fresh rfl Rosbag.splitBags 0
  obtain ⟨other, otherReachable, _, otherLive, otherOver⟩ :=
    exists_exit realTimeSetup odometryNode_fresh rfl Rosbag.splitBags 0
  have same : quittingSetup.SamePlayback realTimeSetup := ⟨rfl, rfl, rfl⟩
  obtain ⟨_, agree⟩ := playback_reproducible same dumpingNode_fresh
    odometryNode_fresh rfl reachable otherReachable
    (RosbagMain.fromBag_of_live live)
    (RosbagMain.fromBag_of_live otherLive) through
  exact ⟨main, other, through, otherOver, (agree otherOver).1⟩

end GlimRos.Executable
