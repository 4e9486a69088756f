import GlimRos.Executable.Exit

/-!
# `glim_rosnode`

`main` spins the node until ROS is shut down, waits, saves and destroys it.
Its steps are those of `glim_rosbag` after the last bag, so what holds at the
exit of that program holds here.
-/

namespace GlimRos.Executable

open Transition

open Rosbag (Callback Player Read Settings)

variable {K : Type} {glim : Glim K} {Module : Type}

/-- Where `main` stands. -/
inductive RosnodePc where
  | spin
  | wait
  | saved
  /-- In the `wait` of the destructor. -/
  | unload
  | exited
  deriving DecidableEq, Repr

/-- What `main` has read of the parameters. -/
structure RosnodeSetup (glim : Glim K) where
  config : NodeConfig K
  dumpPath : String

/-- `main` with the node it owns and a record of the messages. -/
structure RosnodeMain (glim : Glim K) (Module : Type) where
  glimRos : LoadedNode glim Module
  pc : RosnodePc
  messages : List (Message glim)

namespace RosnodeMain

def node (main : RosnodeMain glim Module) : Node glim :=
  main.glimRos.node

def withNode (main : RosnodeMain glim Module) (node : Node glim) :
    RosnodeMain glim Module :=
  { main with glimRos := { main.glimRos with node := node } }

/-- What `ok()` of the extension modules may say. -/
def ModulesSay (main : RosnodeMain glim Module) (modulesOk : Bool) : Prop :=
  modulesOk = false → main.glimRos.extensionModules ≠ []

/-- In `spin`, with no callback running. -/
def Spinning (main : RosnodeMain glim Module) : Prop :=
  main.pc = .spin ∧ main.node.pc = .idle

def start (glimRos : LoadedNode glim Module) : RosnodeMain glim Module :=
  { glimRos := glimRos
    pc := .spin
    messages := [] }

end RosnodeMain

/-! ## Its steps -/

section Steps

variable [Field K] [LinearOrder K]

/-- One step of `main`, of a callback it runs or of a worker thread. -/
inductive RosnodeStep (setup : RosnodeSetup glim)
    (main : RosnodeMain glim Module) : RosnodeMain glim Module → Prop where
  | receives (spinning : main.Spinning) (message : Message glim) :
      RosnodeStep setup main
        { main.withNode (main.node.receive setup.config message) with
          messages := main.messages ++ [message] }
  | timerFires (spinning : main.Spinning) (modulesOk : Bool)
      (said : main.ModulesSay modulesOk) :
      RosnodeStep setup main
        (main.withNode (timerCallback main.node modulesOk))
  | statement (modulesOk : Bool) (said : main.ModulesSay modulesOk)
      {next : Node glim} (advanced : advance main.node modulesOk = some next) :
      RosnodeStep setup main (main.withNode next)
  | works {next : Node glim} (works : Works main.node next) :
      RosnodeStep setup main (main.withNode next)
  /-- The process is told to stop. -/
  | interrupt :
      RosnodeStep setup main
        (main.withNode { main.node with rclcppOk := false })
  /-- `spin` returns, and `main` shuts ROS down and calls `wait()`. -/
  | spun (spinning : main.Spinning) (down : main.node.rclcppOk = false) :
      RosnodeStep setup main
        { main.withNode
            { main.node with
              rclcppOk := false
              pc := .joinOdometry false } with
          pc := .wait }
  | saves (pc : main.pc = .wait) (waited : main.node.pc = .waited) :
      RosnodeStep setup main
        { main with
          glimRos := main.glimRos.save setup.dumpPath
          pc := .saved }
  /-- `~GlimROS` up to its `wait`. -/
  | destroys (pc : main.pc = .saved) :
      RosnodeStep setup main
        { main with
          glimRos :=
            { main.glimRos with
              extensionModules := []
              node :=
                if main.glimRos.dumpOnUnload then
                  { main.node with pc := .joinOdometry true }
                else main.node }
          pc := if main.glimRos.dumpOnUnload then .unload else .exited }
  | unloads (pc : main.pc = .unload) (waited : main.node.pc = .waited) :
      RosnodeStep setup main
        { main with
          glimRos := main.glimRos.save GlimRos.dumpPath
          pc := .exited }

/-- `glim_rosnode` over all schedules and messages. -/
def rosnodeSystem (setup : RosnodeSetup glim)
    (start : RosnodeMain glim Module) :
    Transition.System (RosnodeMain glim Module) :=
  { Init := fun main => main = start
    Step := RosnodeStep setup }

end Steps

/-! ## They are those of `glim_rosbag` after the last bag -/

def RosnodePc.asRosbag : RosnodePc → MainPc
  | .spin => .spin
  | .wait => .wait
  | .saved => .saved
  | .unload => .unload
  | .exited => .exited

/-- A call of `glim_rosbag` without bags and without `auto_quit`. -/
def RosnodeSetup.asRosbag (setup : RosnodeSetup glim) (settings : Settings)
    (decode : Read → Callback → Message glim) : RosbagSetup glim :=
  { config := setup.config
    settings := settings
    decode := decode
    autoQuit := false
    dumpPath := setup.dumpPath }

def RosnodeMain.asRosbag (main : RosnodeMain glim Module) :
    RosbagMain glim Module :=
  { player := { Player.start [] 0 with pc := .done false }
    glimRos := main.glimRos
    pc := main.pc.asRosbag
    arrivals := main.messages.map fun message => { message, source := none }
    delivered := [] }

section Refinement

variable {setup : RosnodeSetup glim}
  {settings : Settings} {decode : Read → Callback → Message glim}
  {main next : RosnodeMain glim Module}

theorem asRosbag_pc (pc : RosnodePc) :
    main.asRosbag.pc = pc.asRosbag ↔ main.pc = pc := by
  cases here : main.pc <;> cases pc <;>
    simp [RosnodeMain.asRosbag, RosnodePc.asRosbag, here]

theorem asRosbag_spinning : main.asRosbag.Spinning ↔ main.Spinning := by
  constructor
  · rintro ⟨spinSome | spin, idle⟩
    · cases here : main.pc <;>
        simp [RosnodeMain.asRosbag, RosnodePc.asRosbag, here] at spinSome
    · exact ⟨(asRosbag_pc .spin).mp spin, idle⟩
  · exact fun spinning => ⟨.inr ((asRosbag_pc .spin).mpr spinning.1), spinning.2⟩

/-- The record of a message in the image of `glim_rosnode`. -/
theorem asRosbag_receive (main : RosnodeMain glim Module) (node : Node glim)
    (message : Message glim) :
    ({ main.asRosbag.withNode node with
        arrivals := main.asRosbag.arrivals ++ [⟨message, none⟩] } :
      RosbagMain glim Module) =
      ({ main.withNode node with
          messages := main.messages ++ [message] } :
        RosnodeMain glim Module).asRosbag := by
  simp only [RosnodeMain.asRosbag, List.map_append]
  rfl

/-- Shutting ROS down again changes nothing. -/
theorem shutdown_again {node : Node glim} (down : node.rclcppOk = false) :
    ({ node with rclcppOk := false, pc := .joinOdometry false } : Node glim) =
      { node with pc := .joinOdometry false } := by
  rw [← down]

theorem asRosbag_destroyed (dumps : Bool) :
    (if dumps then RosnodePc.unload else .exited).asRosbag =
      if dumps then MainPc.unload else .exited := by
  cases dumps <;> rfl

variable [Field K] [LinearOrder K]

/-- A step of `glim_rosnode` is the same step of `glim_rosbag`. -/
theorem rosnodeStep_rosbag (step : RosnodeStep setup main next) :
    RosbagStep (setup.asRosbag settings decode) main.asRosbag
      next.asRosbag := by
  cases step with
  | receives spinning message =>
      rw [← asRosbag_receive]
      exact .receives (asRosbag_spinning.mpr spinning) message
  | timerFires spinning modulesOk said =>
      exact .timerFires (asRosbag_spinning.mpr spinning) modulesOk said
  | statement modulesOk said advanced =>
      exact @RosbagStep.statement _ _ _ _ _ _ main.asRosbag modulesOk said _
        advanced
  | works works => exact @RosbagStep.works _ _ _ _ _ _ main.asRosbag _ works
  | interrupt => exact @RosbagStep.interrupt _ _ _ _ _ _ main.asRosbag
  | spun spinning down =>
      have spin := (asRosbag_pc .spin).mpr spinning.1
      rw [shutdown_again down]
      exact @RosbagStep.spun _ _ _ _ _ _ main.asRosbag spin spinning.2 down
  | saves pc waited =>
      have wait := (asRosbag_pc .wait).mpr pc
      exact @RosbagStep.saves _ _ _ _ _ _ main.asRosbag wait waited
  | destroys pc =>
      have saved := (asRosbag_pc .saved).mpr pc
      simp only [RosnodeMain.asRosbag, asRosbag_destroyed]
      exact @RosbagStep.destroys _ _ _ _ _ _ main.asRosbag saved
  | unloads pc waited =>
      have unload := (asRosbag_pc .unload).mpr pc
      exact @RosbagStep.unloads _ _ _ _ _ _ main.asRosbag unload waited

/-- After the last bag, a step of `glim_rosbag` is one of `glim_rosnode`. -/
theorem rosbagStep_rosnode {image : RosbagMain glim Module}
    (step : RosbagStep (setup.asRosbag settings decode) main.asRosbag
      image) :
    ∃ next, RosnodeStep setup main next ∧ image = next.asRosbag := by
  cases step with
  | receives spinning message =>
      exact ⟨_, .receives (asRosbag_spinning.mp spinning) message,
        asRosbag_receive main _ message⟩
  | timerFires spinning modulesOk said =>
      exact ⟨_, .timerFires (asRosbag_spinning.mp spinning) modulesOk said, rfl⟩
  | statement modulesOk said advanced =>
      exact ⟨_, .statement modulesOk said advanced, rfl⟩
  | works works => exact ⟨_, .works works, rfl⟩
  | interrupt => exact ⟨_, .interrupt, rfl⟩
  | spun pc idle down =>
      have down : main.node.rclcppOk = false := down
      refine ⟨_, .spun ⟨(asRosbag_pc .spin).mp pc, idle⟩ down, ?_⟩
      rw [shutdown_again down]
      rfl
  | saves pc waited =>
      exact ⟨_, .saves ((asRosbag_pc .wait).mp pc) waited, rfl⟩
  | destroys pc =>
      refine ⟨_, .destroys ((asRosbag_pc .saved).mp pc), ?_⟩
      simp only [RosnodeMain.asRosbag, asRosbag_destroyed]
      rfl
  | unloads pc waited =>
      exact ⟨_, .unloads ((asRosbag_pc .unload).mp pc) waited, rfl⟩
  | plays input pc | callsSpinSome input pc | spunSome input pc
  | hands input pc | handsLast input pc | delivers pc | returns pc
  | quits pc | spins pc =>
      -- `glim_rosnode` is at none of these places
      cases here : main.pc <;>
        simp [RosnodeMain.asRosbag, RosnodePc.asRosbag, here] at pc

/-! ## Every run -/

/-- Without bags nothing is decoded. -/
def undecoded (_ : Read) (_ : Callback) : Message glim :=
  .imu
    { frameId := ""
      sec := 0
      nanosec := 0
      linearAcceleration := ⟨0, 0, 0⟩
      angularVelocity := ⟨0, 0, 0⟩ }

variable {loaded : LoadedNode glim Module}

/-- `glim_rosbag` without bags comes to spin the node. -/
theorem asRosbag_start (fresh : loaded.Fresh) :
    (rosbagSystem (setup.asRosbag settings decode)
      (RosbagMain.start [] 0 loaded)).Reachable
      (RosnodeMain.start loaded).asRosbag := by
  have started : (rosbagSystem (setup.asRosbag settings decode)
      (RosbagMain.start [] 0 loaded)).Reachable _ := .init rfl
  have sees : (RosbagMain.start [] 0 loaded).Sees (Rosbag.unattended 0) :=
    ⟨fresh.up.symm, nofun⟩
  have through := started.step (.plays (Rosbag.unattended 0) rfl sees rfl nofun)
  exact through.step (.spins rfl rfl rfl)

theorem asRosbag_reachable (fresh : loaded.Fresh)
    (reachable :
      (rosnodeSystem setup (RosnodeMain.start loaded)).Reachable main) :
    (rosbagSystem (setup.asRosbag settings decode)
      (RosbagMain.start [] 0 loaded)).Reachable main.asRosbag := by
  induction reachable with
  | init start =>
      cases start
      exact asRosbag_start fresh
  | step _ step induction => exact induction.step (rosnodeStep_rosbag step)

/-- What `glim_rosbag` can do after the last bag, `glim_rosnode` can do. -/
theorem asRosbag_steps {start : RosnodeMain glim Module}
    {image : RosbagMain glim Module}
    (steps : Relation.ReflTransGen
      (RosbagStep (setup.asRosbag settings decode)) main.asRosbag image) :
    ∃ last, (rosnodeSystem setup start).Steps main last ∧
      image = last.asRosbag := by
  induction steps with
  | refl => exact ⟨main, .refl _ main, rfl⟩
  | tail _ step induction =>
      obtain ⟨earlier, steps, rfl⟩ := induction
      obtain ⟨last, next, same⟩ := rosbagStep_rosnode step
      exact ⟨last, Relation.ReflTransGen.tail steps next, same⟩

/-- `glim_rosnode` is `glim_rosbag` without bags and without `auto_quit`: its
states are states of that program, and step for step it can do the same. -/
theorem rosnode_is_rosbag (setup : RosnodeSetup glim) (settings : Settings)
    (decode : Read → Callback → Message glim) (fresh : loaded.Fresh) :
    (∀ main, (rosnodeSystem setup (RosnodeMain.start loaded)).Reachable main →
      (rosbagSystem (setup.asRosbag settings decode)
        (RosbagMain.start [] 0 loaded)).Reachable main.asRosbag) ∧
    ∀ (main : RosnodeMain glim Module) (image : RosbagMain glim Module),
      RosbagStep (setup.asRosbag settings decode) main.asRosbag image ↔
        ∃ next, RosnodeStep setup main next ∧ image = next.asRosbag := by
  refine ⟨fun main reachable => asRosbag_reachable fresh reachable,
    fun main image => ⟨rosbagStep_rosnode, ?_⟩⟩
  rintro ⟨next, step, rfl⟩
  exact rosnodeStep_rosbag step

omit [Field K] [LinearOrder K] in
/-- All messages of `glim_rosnode` are live. -/
theorem asRosbag_live (main : RosnodeMain glim Module) :
    main.asRosbag.live.map Arrival.message = main.messages := by
  have live : main.asRosbag.live = main.asRosbag.arrivals := by
    rw [RosbagMain.live, List.filter_eq_self]
    intro arrival member
    obtain ⟨message, _, rfl⟩ := List.mem_map.mp member
    rfl
  rw [live, RosnodeMain.asRosbag, List.map_map]
  exact List.map_id _

theorem rosnode_reaches_exit (fresh : loaded.Fresh)
    (reachable :
      (rosnodeSystem setup (RosnodeMain.start loaded)).Reachable main) :
    ∃ last,
      (rosnodeSystem setup (RosnodeMain.start loaded)).Steps main last ∧
      last.pc = .exited ∧ last.messages = main.messages := by
  have image : (rosbagSystem
      (setup.asRosbag Rosbag.splitSettings undecoded)
      (RosbagMain.start [] 0 loaded)).Reachable main.asRosbag :=
    asRosbag_reachable fresh reachable
  obtain ⟨exit, proceeds, _, exited⟩ := reaches_exit fresh image
  have live := (proceeds_keep proceeds).1
  have steps := Relation.ReflTransGen.mono
    (fun _ _ (proceeds : Proceeds _ _ _) => proceeds.step) _ _ proceeds
  obtain ⟨last, steps, rfl⟩ := asRosbag_steps steps
  refine ⟨last, steps, (asRosbag_pc .exited).mp exited, ?_⟩
  rw [← asRosbag_live last, live, asRosbag_live]

theorem rosnode_leavesBehind (fresh : loaded.Fresh)
    (joins : loaded.node.subMapping.isSome ∨
      loaded.node.globalMapping = none)
    (reachable :
      (rosnodeSystem setup (RosnodeMain.start loaded)).Reachable main)
    (exited : main.pc = .exited) :
    LeavesBehind setup.config setup.dumpPath loaded main.messages
      main.glimRos := by
  have image : (rosbagSystem
      (setup.asRosbag Rosbag.splitSettings undecoded)
      (RosbagMain.start [] 0 loaded)).Reachable main.asRosbag :=
    asRosbag_reachable fresh reachable
  have left := leavesBehind_of_exited fresh joins image
    ((asRosbag_pc .exited).mpr exited)
  have same : main.asRosbag.arrivals.map Arrival.message = main.messages := by
    rw [RosnodeMain.asRosbag, List.map_map]
    exact List.map_id _
  rw [same] at left
  exact left

/-- With a sub mapping or without a global mapping: `glim_rosnode` leaves
behind, at the exit of every run, what the messages it received make of the
node.  From every state of every run some continuation without another
message comes to the exit, out of whichever callback is running. -/
theorem rosnode_dumps (fresh : loaded.Fresh)
    (joins : loaded.node.subMapping.isSome ∨
      loaded.node.globalMapping = none)
    (reachable :
      (rosnodeSystem setup (RosnodeMain.start loaded)).Reachable main) :
    (main.pc = .exited →
      LeavesBehind setup.config setup.dumpPath loaded main.messages
        main.glimRos) ∧
    ∃ last,
      (rosnodeSystem setup (RosnodeMain.start loaded)).Steps main last ∧
      last.pc = .exited ∧
      LeavesBehind setup.config setup.dumpPath loaded main.messages
        last.glimRos := by
  refine ⟨rosnode_leavesBehind fresh joins reachable, ?_⟩
  obtain ⟨last, steps, exited, messages⟩ :=
    rosnode_reaches_exit fresh reachable
  refine ⟨last, steps, exited, ?_⟩
  rw [← messages]
  exact rosnode_leavesBehind fresh joins (reachable.steps steps) exited

end Refinement

/-- A node without mapping stages, spun by `glim_rosnode`. -/
theorem rosnode_is_rosbag_odometry :
    (rosbagSystem
      (RosnodeSetup.asRosbag ⟨defaultNodeConfig, "/tmp/dump"⟩
        Rosbag.splitSettings sampleDecoder.decode)
      (RosbagMain.start [] 0 odometryNode)).Reachable
      (RosnodeMain.start odometryNode).asRosbag :=
  (rosnode_is_rosbag ⟨defaultNodeConfig, "/tmp/dump"⟩ Rosbag.splitSettings
    sampleDecoder.decode odometryNode_fresh).1 _ (.init rfl)

/-- A cloud has arrived and its callback has not inserted it yet; the node
with all stages can still leave its map behind. -/
theorem rosnode_dumps_map :
    ∃ (last : RosnodeMain numberedGlim String)
        (globalMapping : GlobalMappingStage numberedGlim),
      last.pc = .exited ∧ MapComplete last.node globalMapping ∧
        last.node.odometryEstimation.inserted = [.payload (1 : Nat)] ∧
        last.glimRos.dump =
          [.saveGlobalMapping "/tmp/map" globalMapping,
            .atExit "librviz_viewer.so" "/tmp/map",
            .saveGlobalMapping "/tmp/dump" globalMapping] := by
  have started : (rosnodeSystem ⟨defaultNodeConfig, "/tmp/map"⟩
      (RosnodeMain.start dumpingNode)).Reachable _ := .init rfl
  have received := started.step (.receives ⟨rfl, rfl⟩
    (.points { frameId := "lidar", data := (1 : Nat) }))
  obtain ⟨last, _, exited, left⟩ :=
    (rosnode_dumps dumpingNode_fresh (.inl rfl) received).2
  obtain ⟨globalMapping, present⟩ :=
    Option.isSome_iff_exists.mp (left.globalMapping.trans rfl)
  refine ⟨last, globalMapping, exited, left.complete globalMapping present,
    ?_, ?_⟩
  · exact (congrArg Prod.snd left.handled).symm
  · rw [left.dump, present]
    rfl

end GlimRos.Executable
