import GlimRos.Executable.Constructor
import GlimRos.Node.SensorStreams
import GlimRos.Rosbag.FileOrder

/-!
# `glim_rosbag`

`main` plays the bags into the node on one thread, with the callbacks of the
live subscriptions and of the timer in `spin_some` and `spin`, and then waits,
saves and destroys the node.  The worker threads of the node step at any
time.  Deserialising a message is left to ROS.
-/

namespace GlimRos.Executable

open Rosbag (Bag Callback Handed Input Player Read Settings Subscription)

variable {K : Type}

/-- `deserialize_message` for the messages of the core topics.  Images may
come compressed, which the topic type tells. -/
structure Decoder (glim : Glim K) where
  imu : Read → ImuMsg K
  points : Read → PointCloudMsg glim
  image : Read → ImageMsg glim

def Decoder.decode {glim : Glim K} (decoder : Decoder glim) (read : Read) :
    Callback → Message glim
  | .imu => .imu (decoder.imu read)
  | .points => .points (decoder.points read)
  | .image => .image (decoder.image read)

/-- A message that arrived at the node, from a bag or over a topic. -/
structure Arrival (glim : Glim K) where
  message : Message glim
  /-- The message of the bag that it was deserialised from. -/
  source : Option Read

def Arrival.fromBag {glim : Glim K} (arrival : Arrival glim) : Bool :=
  arrival.source.isSome

/-- Where `main` stands. -/
inductive MainPc where
  /-- In the loops over the bags, where the player stands. -/
  | playing
  /-- In `spin_some`, called from the place where the player stands. -/
  | spinSome
  /-- In the callback of the core for a message. -/
  | callback (read : Read)
  /-- In `points_callback` for the message that reaches `end_time`. -/
  | lastCallback
  /-- In the `timer_callback` after a message. -/
  | timer
  /-- In `rclcpp::spin`. -/
  | spin
  | wait
  | saved
  /-- In the `wait` of the destructor. -/
  | unload
  | exited
  deriving DecidableEq, Repr

/-- What `main` has fixed when it starts to play. -/
structure RosbagSetup (glim : Glim K) where
  config : NodeConfig K
  settings : Settings
  /-- What the callback of the core is given of a message of a bag. -/
  decode : Read → Callback → Message glim
  autoQuit : Bool
  dumpPath : String

/-- `main` with the node it owns.  No code reads the records of the messages
that arrived and of those of the bags that were delivered to the
extensions. -/
structure RosbagMain (glim : Glim K) (Module : Type) where
  player : Player
  glimRos : LoadedNode glim Module
  pc : MainPc
  arrivals : List (Arrival glim)
  delivered : List (Subscription × Read)

/-- `main` calls `spin_some` before it goes on with the loop the player is
in. -/
def callsSpinSome (player : Player) (input : Input) : Bool :=
  match player.pc with
  | .loopHead => !player.reader.isEmpty && input.ok
  | .paused _ _ => player.paused && input.ok
  | .needsWait _ => input.needsWait
  | _ => false

namespace RosbagMain

variable {glim : Glim K} {Module : Type}

def node (main : RosbagMain glim Module) : Node glim :=
  main.glimRos.node

def withNode (main : RosbagMain glim Module) (node : Node glim) :
    RosbagMain glim Module :=
  { main with glimRos := { main.glimRos with node := node } }

/-- What the loops read of ROS and of the extension modules. -/
structure Sees (main : RosbagMain glim Module) (input : Input) : Prop where
  ok : input.ok = main.node.rclcppOk
  needsWait : input.needsWait = true → main.glimRos.extensionModules ≠ []

/-- What `ok()` of the extension modules may say. -/
def ModulesSay (main : RosbagMain glim Module) (modulesOk : Bool) : Prop :=
  modulesOk = false → main.glimRos.extensionModules ≠ []

/-- In `spin_some` or `spin`, with no callback running. -/
def Spinning (main : RosbagMain glim Module) : Prop :=
  (main.pc = .spinSome ∨ main.pc = .spin) ∧ main.node.pc = .idle

end RosbagMain

section Steps

variable [Field K] [LinearOrder K] {glim : Glim K} {Module : Type}

/-- The node after the core callback of a message of a bag was entered. -/
def RosbagSetup.handOn (setup : RosbagSetup glim) (node : Node glim)
    (read : Read) : Option Callback → Node glim
  | none => node
  | some callback =>
      node.receive setup.config (setup.decode read callback)

/-- The arrival that the core callback of a message of a bag is. -/
def RosbagSetup.arrival (setup : RosbagSetup glim) (read : Read)
    (core : Option Callback) : List (Arrival glim) :=
  core.toList.map fun callback =>
    { message := setup.decode read callback
      source := some read }

/-- One step of `main`, of a callback it runs or of a worker thread. -/
inductive RosbagStep (setup : RosbagSetup glim)
    (main : RosbagMain glim Module) : RosbagMain glim Module → Prop where
  /-- A step of the loops that calls neither `spin_some` nor a callback. -/
  | plays (input : Input) (pc : main.pc = .playing) (sees : main.Sees input)
      (direct : callsSpinSome main.player input = false)
      (quiet : ∀ read, main.player.pc = .dispatch read →
        Rosbag.coreDispatch setup.settings read = .mismatch) :
      RosbagStep setup main
        { main with player := Rosbag.step setup.settings input main.player }
  | callsSpinSome (input : Input) (pc : main.pc = .playing)
      (sees : main.Sees input)
      (calls : callsSpinSome main.player input = true) :
      RosbagStep setup main { main with pc := .spinSome }
  /-- The conditions of the loop were read before `spin_some`. -/
  | spunSome (input : Input) (pc : main.pc = .spinSome)
      (idle : main.node.pc = .idle) (ok : input.ok = true)
      (needsWait : input.needsWait = true) :
      RosbagStep setup main
        { main with
          player := Rosbag.step setup.settings input main.player
          pc := .playing }
  | hands (input : Input) (pc : main.pc = .playing)
      (sees : main.Sees input) {read : Read}
      (here : main.player.pc = .dispatch read) {core : Option Callback}
      (continues :
        Rosbag.coreDispatch setup.settings read = .continues core) :
      RosbagStep setup main
        { main.withNode (setup.handOn main.node read core) with
          player := Rosbag.step setup.settings input main.player
          pc := .callback read
          arrivals := main.arrivals ++ setup.arrival read core }
  | handsLast (input : Input) (pc : main.pc = .playing)
      (sees : main.Sees input) {read : Read}
      (here : main.player.pc = .dispatch read)
      (last : Rosbag.coreDispatch setup.settings read = .endTimeReached) :
      RosbagStep setup main
        { main.withNode (setup.handOn main.node read (some .points)) with
          player := Rosbag.step setup.settings input main.player
          pc := .lastCallback
          arrivals := main.arrivals ++ setup.arrival read (some .points) }
  /-- `insert_message_instance` of each subscription, then the timer. -/
  | delivers {read : Read} (pc : main.pc = .callback read)
      (idle : main.node.pc = .idle) (modulesOk : Bool)
      (said : main.ModulesSay modulesOk) :
      RosbagStep setup main
        { main.withNode (timerCallback main.node modulesOk) with
          pc := .timer
          delivered := main.delivered ++
            (setup.settings.subscriptionMap read.message.topicName).map
              fun sub => (sub, read) }
  | returns (pc : main.pc = .timer ∨ main.pc = .lastCallback)
      (idle : main.node.pc = .idle) :
      RosbagStep setup main { main with pc := .playing }
  | receives (spinning : main.Spinning) (message : Message glim) :
      RosbagStep setup main
        { main.withNode (main.node.receive setup.config message) with
          arrivals := main.arrivals ++ [{ message, source := none }] }
  | timerFires (spinning : main.Spinning) (modulesOk : Bool)
      (said : main.ModulesSay modulesOk) :
      RosbagStep setup main
        (main.withNode (timerCallback main.node modulesOk))
  | statement (modulesOk : Bool) (said : main.ModulesSay modulesOk)
      {next : Node glim} (advanced : advance main.node modulesOk = some next) :
      RosbagStep setup main (main.withNode next)
  | works {next : Node glim} (works : Works main.node next) :
      RosbagStep setup main (main.withNode next)
  /-- The process is told to stop. -/
  | interrupt :
      RosbagStep setup main
        (main.withNode { main.node with rclcppOk := false })
  | quits (pc : main.pc = .playing) {stopped : Bool}
      (through : main.player.pc = .done stopped)
      (autoQuit : (setup.autoQuit || stopped) = true) :
      RosbagStep setup main
        { main.withNode { main.node with pc := .joinOdometry true } with
          pc := .wait }
  | spins (pc : main.pc = .playing) {stopped : Bool}
      (through : main.player.pc = .done stopped)
      (stays : (setup.autoQuit || stopped) = false) :
      RosbagStep setup main { main with pc := .spin }
  | spun (pc : main.pc = .spin) (idle : main.node.pc = .idle)
      (down : main.node.rclcppOk = false) :
      RosbagStep setup main
        { main.withNode { main.node with pc := .joinOdometry false } with
          pc := .wait }
  | saves (pc : main.pc = .wait) (waited : main.node.pc = .waited) :
      RosbagStep setup main
        { main with
          glimRos := main.glimRos.save setup.dumpPath
          pc := .saved }
  /-- `~GlimROS` up to its `wait`. -/
  | destroys (pc : main.pc = .saved) :
      RosbagStep setup main
        { main with
          glimRos :=
            { main.glimRos with
              extensionModules := []
              node :=
                if main.glimRos.dumpOnUnload then
                  { main.node with pc := .joinOdometry true }
                else main.node }
          pc := if main.glimRos.dumpOnUnload then .unload else .exited }
  | unloads (pc : main.pc = .unload) (waited : main.node.pc = .waited) :
      RosbagStep setup main
        { main with
          glimRos := main.glimRos.save GlimRos.dumpPath
          pc := .exited }

/-- `main` at the head of the loop over the bags. -/
def RosbagMain.start (bags : List Bag) (startOffset : Rat)
    (glimRos : LoadedNode glim Module) : RosbagMain glim Module :=
  { player := Player.start bags startOffset
    glimRos := glimRos
    pc := .playing
    arrivals := []
    delivered := [] }

/-- `glim_rosbag` over all schedules, clocks, keys and live messages. -/
def rosbagSystem (setup : RosbagSetup glim) (start : RosbagMain glim Module) :
    Transition.System (RosbagMain glim Module) :=
  { Init := fun main => main = start
    Step := RosbagStep setup }

end Steps

/-! ## The start of `main` -/

/-- `std::numeric_limits<double>::max()`. -/
def doubleMax : Rat :=
  2 ^ 1024 - 2 ^ 971

/-- What `glim_rosbag` is called with and finds on the machine. -/
structure RosbagCall (glim : Glim K) (Module : Type) where
  installation : Installation glim Module
  options : NodeOptions
  decoder : Decoder glim
  args : List String
  /-- Without an argument `main` prints its usage and returns. -/
  given : args ≠ []
  glob : String → List String
  /-- The bag that the reader opens under a name. -/
  disk : String → Bag
  /-- Standard input is a terminal. -/
  isTerminal : Bool

namespace RosbagCall

variable {glim : Glim K} {Module : Type}

def setup (call : RosbagCall glim Module) (made : GlimRosNode glim Module) :
    RosbagSetup glim :=
  let configRos := made.configRos
  let double := call.options.doubleParameter
  { config := made.config
    settings :=
      { imuTopic :=
          (configRos.paramString "glim_ros" "imu_topic").getD "/imu"
        pointsTopic :=
          (configRos.paramString "glim_ros" "points_topic").getD "/points"
        imageTopic :=
          (configRos.paramString "glim_ros" "image_topic").getD "/image"
        extensionSubscriptions := made.extensionSubs
        playbackUntil := (double "playback_until").getD 0
        playbackDuration := (double "playback_duration").getD 0
        playbackSpeed :=
          (configRos.paramDouble "glim_ros" "playback_speed").getD 100
        endTime := (double "end_time").getD doubleMax
        keyboardActive := call.isTerminal }
    decode := call.decoder.decode
    autoQuit := (call.options.boolParameter "auto_quit").getD false
    dumpPath := (call.options.stringParameter "dump_path").getD "/tmp/dump" }

def bags (call : RosbagCall glim Module) : List Bag :=
  (Rosbag.bagFilenames call.glob call.args).map call.disk

def startOffset (call : RosbagCall glim Module) : Rat :=
  (call.options.doubleParameter "start_offset").getD 0

end RosbagCall

end GlimRos.Executable
