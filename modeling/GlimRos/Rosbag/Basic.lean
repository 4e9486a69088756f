import Mathlib.Algebra.Order.Field.Rat
import Mathlib.Logic.Function.Basic

/-!
# The bag player of `glim_rosbag`

The main loop over the bags and the lambda `read_bag` share the variables
they capture, so the player is one state machine.  A step ends where the code
reads the wall clock, the keyboard or the state of ROS again; what it reads
is the input of the step.  Nanosecond time points are integers and the
`double` durations are exact rationals.
-/

namespace GlimRos.Rosbag

/-- A serialized message of a bag.  The header stamp is what deserialising
a point cloud yields. -/
structure BagMessage where
  topicName : String
  recvTimestamp : Int
  stampSec : Int
  stampNanosec : Nat
  deriving DecidableEq, Repr

structure Bag where
  messages : List BagMessage
  topicsAndTypes : List (String × String)
  deriving DecidableEq, Repr

/-- `topic_type_map`: later entries overwrite earlier ones, and looking up a
missing topic inserts the empty string. -/
def Bag.topicTypeMap (bag : Bag) : String → String :=
  bag.topicsAndTypes.foldl
    (fun map entry => Function.update map entry.1 entry.2) (fun _ => "")

/-- A message as the loop body sees it. -/
structure Read where
  message : BagMessage
  topicType : String
  deriving DecidableEq, Repr

namespace Read

def time (read : Read) : Int :=
  read.message.recvTimestamp

/-- `header.stamp.sec + header.stamp.nanosec * 1e-9`. -/
def headerStamp (read : Read) : Rat :=
  (read.message.stampSec : Rat) + (read.message.stampNanosec : Rat) * 1e-9

end Read

/-- A subscription of an extension module. -/
structure Subscription where
  topic : String
  index : Nat
  deriving DecidableEq, Repr

/-- The parameters that stay fixed during playback. -/
structure Settings where
  imuTopic : String
  pointsTopic : String
  imageTopic : String
  extensionSubscriptions : List Subscription
  playbackUntil : Rat
  playbackDuration : Rat
  playbackSpeed : Rat
  endTime : Rat
  /-- Standard input is a terminal. -/
  keyboardActive : Bool
  deriving DecidableEq, Repr

namespace Settings

variable (settings : Settings)

/-- The topics of the storage filter. -/
def filterTopics : List String :=
  [settings.imuTopic, settings.pointsTopic, settings.imageTopic] ++
    settings.extensionSubscriptions.map Subscription.topic

/-- `subscription_map[topic]`, empty for a topic without subscriptions. -/
def subscriptionMap (topic : String) : List Subscription :=
  settings.extensionSubscriptions.filter fun sub => sub.topic = topic

/-- What the reader of a bag returns, one message after the other. -/
def openBag (bag : Bag) : List Read :=
  (bag.messages.filter
    fun message => decide (message.topicName ∈ settings.filterTopics)).map
    fun message => { message, topicType := bag.topicTypeMap message.topicName }

end Settings

/-- `reader.seek(t)`: the reader goes on with the messages of its bag that
were received at `t` or later. -/
def seek (opened : List Read) (target : Rat) : List Read :=
  opened.filter fun read => decide (target ≤ (read.time : Rat))

/-- `KeyboardHandler::update` on the characters that are available. -/
def keyboardUpdate (active : Bool) (keys : List Char) (paused : Bool) :
    Bool :=
  if active then
    keys.foldl (fun state key => if key = ' ' then !state else state) paused
  else paused

/-- The callbacks of `GlimROS`. -/
inductive Callback where
  | imu
  | points
  | image
  deriving DecidableEq, Repr

/-- How the dispatch on the topic name ends. -/
inductive CoreOutcome where
  /-- `topic_type` does not match: nothing is called, `read_bag` returns. -/
  | mismatch
  /-- `points_callback` was called and `read_bag` returns. -/
  | endTimeReached
  | continues (callback : Option Callback)
  deriving DecidableEq, Repr

/-- The dispatch on the topic name, built with `cv_bridge`. -/
def coreDispatch (settings : Settings) (read : Read) : CoreOutcome :=
  if read.message.topicName = settings.imuTopic then
    if read.topicType ≠ "sensor_msgs/msg/Imu" then .mismatch
    else .continues (some .imu)
  else if read.message.topicName = settings.pointsTopic then
    if read.topicType ≠ "sensor_msgs/msg/PointCloud2" then .mismatch
    else if settings.endTime < read.headerStamp then .endTimeReached
    else .continues (some .points)
  else if read.message.topicName = settings.imageTopic then
    if read.topicType = "sensor_msgs/msg/Image" then
      .continues (some .image)
    else if read.topicType = "sensor_msgs/msg/CompressedImage" then
      .continues (some .image)
    else .mismatch
  else .continues none

/-- A message that was handed on: to which callback of `GlimROS` and to which
extension subscriptions, in that order, and when. -/
structure Handed where
  read : Read
  now : Int
  core : Option Callback
  extensions : List Subscription
  deriving DecidableEq, Repr

inductive Event where
  | read (read : Read) (now : Int)
  | seek (target : Rat)
  /-- A pause with the clock readings around it. -/
  | pause (start stop : Int)
  | handed (entry : Handed)
  deriving DecidableEq, Repr

/-- The next point of the code that reads its surroundings. -/
inductive Pc where
  /-- The head of the loop over `bag_filenames`. -/
  | nextBag
  /-- The head of `while (reader.has_next())`. -/
  | loopHead
  /-- `keyboard.update()` before the pause handling. -/
  | keyboard (read : Read)
  /-- The head of the pause loop. -/
  | paused (read : Read) (pauseStart : Int)
  /-- The head of the throttle loop. -/
  | throttle (read : Read)
  /-- The dispatch on the topic name. -/
  | dispatch (read : Read)
  /-- The head of `while (glim->needs_wait())`, entered at `t0`. -/
  | needsWait (t0 : Int)
  /-- The loop over the bags is over; `stopped` if `read_bag` said so. -/
  | done (stopped : Bool)
  deriving DecidableEq, Repr

/-- What a step may read: the clock, `rclcpp::ok()`, the pressed keys and
`GlimROS::needs_wait()`. -/
structure Input where
  now : Int
  ok : Bool
  keys : List Char
  needsWait : Bool
  deriving DecidableEq, Repr

@[ext]
structure Player where
  /-- The bags not opened yet. -/
  bags : List Bag
  /-- All messages of the open bag, and those still to be read. -/
  opened : List Read
  reader : List Read
  startOffset : Rat
  bagT0 : Int
  realT0 : Int
  paused : Bool
  pc : Pc
  log : List Event
  deriving DecidableEq, Repr

def Player.start (bags : List Bag) (startOffset : Rat) : Player :=
  { bags := bags
    opened := []
    reader := []
    startOffset := startOffset
    bagT0 := 0
    realT0 := 0
    paused := false
    pc := .nextBag
    log := [] }

/-- `bag_t0`, set to the time of a message while it is still zero. -/
def originWith (bagT0 : Int) (read : Read) : Int :=
  if bagT0 = 0 then read.time else bagT0

/-- `playback_until > 0.0 && msg_time / 1e9 > playback_until`. -/
def Settings.reachedUntil (settings : Settings) (read : Read) : Bool :=
  0 < settings.playbackUntil &&
    settings.playbackUntil < (read.time : Rat) / 1e9

/-- `playback_duration > 0.0 && (msg_time - bag_t0) / 1e9 >
playback_duration`. -/
def Settings.reachedDuration (settings : Settings) (bagT0 : Int)
    (read : Read) : Bool :=
  0 < settings.playbackDuration &&
    settings.playbackDuration < ((read.time : Rat) - bagT0) / 1e9

/-- One of the range checks ends the playback at the message. -/
def Settings.refuses (settings : Settings) (bagT0 : Int) (read : Read) :
    Bool :=
  settings.reachedUntil read || settings.reachedDuration bagT0 read

/-- `playback_speed > 0.0 && (now - real_t0) * playback_speed <
bag_elapsed`. -/
def Settings.throttles (settings : Settings) (bagT0 realT0 now : Int)
    (read : Read) : Bool :=
  0 < settings.playbackSpeed &&
    ((now : Rat) - realT0) * settings.playbackSpeed <
      (read.time : Rat) - bagT0

/-- The loop body from `read_next` to the playback range checks. -/
def readMessage (settings : Settings) (now : Int) (player : Player)
    (read : Read) (rest : List Read) : Player :=
  let realT0 := if player.realT0 = 0 then now else player.realT0
  let bagT0 := originWith player.bagT0 read
  if 0 < player.startOffset then
    let target := (bagT0 : Rat) + player.startOffset * 1e9
    { player with
      reader := seek player.opened target
      startOffset := 0
      bagT0 := 0
      realT0 := 0
      pc := .loopHead
      log := player.log ++ [.read read now, .seek target] }
  else
    { player with
      reader := rest
      bagT0 := bagT0
      realT0 := realT0
      pc := if settings.refuses bagT0 read then .done true else .keyboard read
      log := player.log ++ [.read read now] }

/-- The dispatch of a message and, unless `read_bag` returns, its delivery to
the extension subscriptions and `timer_callback`. -/
def dispatch (settings : Settings) (now : Int) (player : Player)
    (read : Read) : Player :=
  match coreDispatch settings read with
  | .mismatch => { player with pc := .done true }
  | .endTimeReached =>
      { player with
        pc := .done true
        log := player.log ++
          [.handed { read, now, core := some .points, extensions := [] }] }
  | .continues core =>
      { player with
        pc := .needsWait now
        log := player.log ++
          [.handed
            { read, now, core
              extensions :=
                settings.subscriptionMap read.message.topicName }] }

/-- One step of the player. -/
def step (settings : Settings) (input : Input) (player : Player) : Player :=
  match player.pc with
  | .nextBag =>
      match player.bags with
      | [] => { player with pc := .done false }
      | bag :: bags =>
          { player with
            bags := bags
            opened := settings.openBag bag
            reader := settings.openBag bag
            pc := .loopHead }
  | .loopHead =>
      match player.reader with
      | [] => { player with pc := .nextBag }
      | read :: rest =>
          if input.ok then readMessage settings input.now player read rest
          else { player with pc := .done true }
  | .keyboard read =>
      let paused :=
        keyboardUpdate settings.keyboardActive input.keys player.paused
      { player with
        paused := paused
        pc := if paused then .paused read input.now else .throttle read }
  | .paused read pauseStart =>
      if player.paused && input.ok then
        { player with
          paused :=
            keyboardUpdate settings.keyboardActive input.keys player.paused }
      else if !input.ok then { player with pc := .done true }
      else
        { player with
          realT0 := player.realT0 + (input.now - pauseStart)
          pc := .throttle read
          log := player.log ++ [.pause pauseStart input.now] }
  | .throttle read =>
      if settings.throttles player.bagT0 player.realT0 input.now read then
        player
      else { player with pc := .dispatch read }
  | .dispatch read => dispatch settings input.now player read
  | .needsWait t0 =>
      -- the loop is left when no module asks to wait, or after one second
      if input.needsWait && !(1000000000 < input.now - t0) then player
      else { player with pc := .loopHead }
  | .done _ => player

/-- The player after the first `count` inputs. -/
def runFor (settings : Settings) (inputs : Nat → Input) (start : Player) :
    Nat → Player
  | 0 => start
  | count + 1 =>
      step settings (inputs count) (runFor settings inputs start count)

/-- The messages handed on so far, in order. -/
def Player.processed (player : Player) : List Handed :=
  player.log.filterMap fun event =>
    match event with
    | .handed entry => some entry
    | _ => none

end GlimRos.Rosbag
