import GlimRos.Rosbag.Progress

/-!
# Core and extension subscriptions

A message goes to its callback of `GlimROS` first and to the extension
subscriptions of its topic after that.  The stop at `end_time` lies between
the two.
-/

namespace GlimRos.Rosbag

variable {settings : Settings} {input : Input} {player next : Player}

/-- The topics the core listens to. -/
def Settings.coreTopics (settings : Settings) : List String :=
  [settings.imuTopic, settings.pointsTopic, settings.imageTopic]

/-- The messages handed to a callback of `GlimROS`, in order. -/
def coreReads (entries : List Handed) : List Read :=
  (entries.filter fun entry => entry.core.isSome).map Handed.read

/-- The messages handed to an extension subscription, in order and as often
as they were handed to it. -/
def extensionReads (sub : Subscription) (entries : List Handed) : List Read :=
  entries.flatMap fun entry =>
    List.replicate (entry.extensions.count sub) entry.read

/-- The extension subscriptions of the topic got the message, each once for
every time it is registered. -/
def Handed.Complete (settings : Settings) (entry : Handed) : Prop :=
  entry.core.isSome = true → ∀ sub : Subscription,
    sub.topic = entry.read.message.topicName →
      entry.extensions.count sub = settings.extensionSubscriptions.count sub

/-- What the core was handed reached the extension subscriptions of the topic
as well, in the order of the core. -/
structure FollowsCore (settings : Settings) (entries : List Handed) : Prop where
  complete : ∀ entry ∈ entries, entry.Complete settings
  sameOrder : ∀ sub : Subscription,
    ((extensionReads sub entries).filter
        fun read => read.message.topicName ∈ settings.coreTopics) =
      ((coreReads entries).filter
          fun read => read.message.topicName = sub.topic).flatMap
        fun read => List.replicate (settings.extensionSubscriptions.count sub) read

/-- A point cloud for the core whose header stamp is past `end_time`. -/
def Settings.PastEnd (settings : Settings) (read : Read) : Prop :=
  read.message.topicName ≠ settings.imuTopic ∧
    read.message.topicName = settings.pointsTopic ∧
      read.topicType = "sensor_msgs/msg/PointCloud2" ∧
        settings.endTime < read.headerStamp

/-- The message about to be dispatched is no cloud past `end_time`, or no
extension subscribes to the clouds. -/
def KeepsExtensions (settings : Settings) (player : Player) : Prop :=
  ∀ read, player.pc = .dispatch read → settings.PastEnd read →
    ∀ sub ∈ settings.extensionSubscriptions, sub.topic ≠ settings.pointsTopic

/-! ## One dispatch -/

theorem coreDispatch_eq_endTimeReached_iff {read : Read} :
    coreDispatch settings read = .endTimeReached ↔ settings.PastEnd read := by
  unfold coreDispatch Settings.PastEnd
  split_ifs <;> simp_all

theorem coreDispatch_continues {read : Read} {callback : Option Callback}
    (core : coreDispatch settings read = .continues callback) :
    callback.isSome = true ↔ read.message.topicName ∈ settings.coreTopics := by
  unfold coreDispatch at core
  unfold Settings.coreTopics
  split_ifs at core <;> cases core <;> simp_all

/-- What a dispatch writes to the log. -/
def Handed.Dispatches (settings : Settings) (entry : Handed) : Prop :=
  settings.PastEnd entry.read ∧ entry.core = some .points ∧
      entry.extensions = [] ∨
    coreDispatch settings entry.read = .continues entry.core ∧
      entry.extensions = settings.subscriptionMap entry.read.message.topicName

theorem count_subscriptionMap (sub : Subscription) (topic : String) :
    (settings.subscriptionMap topic).count sub =
      if sub.topic = topic then settings.extensionSubscriptions.count sub else 0 := by
  unfold Settings.subscriptionMap
  split
  next same => exact List.count_filter (by simpa using same)
  next other =>
    rw [List.count_eq_zero]
    intro member
    exact other (of_decide_eq_true (List.mem_filter.mp member).2)

namespace Handed.Dispatches

variable {entry : Handed} (dispatches : entry.Dispatches settings)

include dispatches

theorem core_iff :
    entry.core.isSome = true ↔
      entry.read.message.topicName ∈ settings.coreTopics := by
  rcases dispatches with ⟨past, core, -⟩ | ⟨core, -⟩
  · simp [core, Settings.coreTopics, past.2.1]
  · exact coreDispatch_continues core

/-- A subscription gets messages of its own topic only. -/
theorem count_of_other {sub : Subscription}
    (other : sub.topic ≠ entry.read.message.topicName) :
    entry.extensions.count sub = 0 := by
  rcases dispatches with ⟨-, -, none⟩ | ⟨-, extensions⟩
  · rw [none, List.count_nil]
  · rw [extensions, count_subscriptionMap, if_neg other]

theorem complete_iff :
    entry.Complete settings ↔
      (settings.PastEnd entry.read →
        ∀ sub ∈ settings.extensionSubscriptions,
          sub.topic ≠ settings.pointsTopic) := by
  rcases dispatches with ⟨past, core, none⟩ | ⟨core, extensions⟩
  · simp only [past, true_imp_iff]
    constructor
    · intro complete sub registered topic
      have counted := complete (by rw [core]; rfl) sub (topic.trans past.2.1.symm)
      rw [none, List.count_nil] at counted
      exact List.count_pos_iff.mpr registered |>.ne counted
    · intro unsubscribed _ sub topic
      rw [none, List.count_nil, eq_comm, List.count_eq_zero]
      intro registered
      exact unsubscribed sub registered (topic.trans past.2.1)
  · have continues : ¬ settings.PastEnd entry.read := by
      rw [← coreDispatch_eq_endTimeReached_iff, core]
      nofun
    refine iff_of_true ?_ (fun past => (continues past).elim)
    intro _ sub topic
    rw [extensions, count_subscriptionMap, if_pos topic]

end Handed.Dispatches

/-! ## The log -/

theorem extensionReads_cons (sub : Subscription) (entry : Handed)
    (entries : List Handed) :
    extensionReads sub (entry :: entries) =
      List.replicate (entry.extensions.count sub) entry.read ++
        extensionReads sub entries :=
  rfl

theorem coreReads_cons (entry : Handed) (entries : List Handed) :
    coreReads (entry :: entries) =
      if entry.core.isSome then entry.read :: coreReads entries
      else coreReads entries := by
  unfold coreReads
  rw [List.filter_cons]
  split <;> rfl

/-- The order of the core comes with completeness: both stages of the loop
body see the messages one after the other. -/
theorem sameOrder_of_complete (sub : Subscription) (entries : List Handed)
    (dispatches : ∀ entry ∈ entries, entry.Dispatches settings)
    (complete : ∀ entry ∈ entries, entry.Complete settings) :
    ((extensionReads sub entries).filter
        fun read => read.message.topicName ∈ settings.coreTopics) =
      ((coreReads entries).filter
          fun read => read.message.topicName = sub.topic).flatMap
        fun read =>
          List.replicate (settings.extensionSubscriptions.count sub) read := by
  induction entries with
  | nil => rfl
  | cons entry entries induction =>
      have later := induction
        (fun other member => dispatches other (List.mem_cons_of_mem _ member))
        (fun other member => complete other (List.mem_cons_of_mem _ member))
      have dispatched := dispatches entry List.mem_cons_self
      have handed := complete entry List.mem_cons_self
      rw [extensionReads_cons, List.filter_append, List.filter_replicate, later,
        coreReads_cons]
      by_cases core : entry.core.isSome = true
      · have listed := dispatched.core_iff.mp core
        rw [if_pos (by simpa using listed), if_pos core, List.filter_cons]
        by_cases topic : sub.topic = entry.read.message.topicName
        · rw [if_pos (by simpa using topic.symm), List.flatMap_cons,
            handed core sub topic]
        · rw [if_neg (by simpa using fun same => topic same.symm),
            dispatched.count_of_other topic, List.replicate_zero, List.nil_append]
      · have unlisted := fun listed => core (dispatched.core_iff.mpr listed)
        rw [if_neg (by simpa using unlisted), if_neg core, List.nil_append]

theorem followsCore_iff {entries : List Handed}
    (dispatches : ∀ entry ∈ entries, entry.Dispatches settings) :
    FollowsCore settings entries ↔ ∀ entry ∈ entries, entry.Complete settings := by
  constructor
  · intro follows
    exact follows.complete
  · intro complete
    exact
      { complete := complete
        sameOrder := fun sub => sameOrder_of_complete sub entries dispatches complete }

/-! ## Whole playbacks -/

/-- What a step adds to the log of handed messages. -/
theorem processed_move (move : Move settings input player next) :
    (next.processed = player.processed ∧ KeepsExtensions settings player) ∨
      ∃ entry, next.processed = player.processed ++ [entry] ∧
        player.pc = .dispatch entry.read ∧ entry.Dispatches settings := by
  cases move with
  | @handsLast read pc core =>
      refine .inr ⟨⟨read, input.now, some .points, []⟩, ?_, pc, .inl ⟨?_, rfl, rfl⟩⟩
      · simp [Player.processed]
      · exact coreDispatch_eq_endTimeReached_iff.mp core
  | @hands read callback pc core =>
      let received := settings.subscriptionMap read.message.topicName
      refine .inr
        ⟨⟨read, input.now, callback, received⟩, ?_, pc, .inr ⟨core, rfl⟩⟩
      simp [Player.processed, received]
  | @mismatches read pc core =>
      refine .inl ⟨rfl, fun other at_other past => ?_⟩
      rw [pc] at at_other
      cases at_other
      rw [coreDispatch_eq_endTimeReached_iff.mpr past] at core
      cases core
  | _ pc =>
      refine .inl ⟨by simp [Player.processed], fun other at_other past => ?_⟩
      rw [pc] at at_other
      cases at_other

theorem processed_dispatches (inputs : Nat → Input) (bags : List Bag)
    (startOffset : Rat) (count : Nat) :
    ∀ entry ∈ (runFor settings inputs (Player.start bags startOffset)
      count).processed, entry.Dispatches settings := by
  induction count with
  | zero =>
      intro entry member
      simp [runFor, Player.start, Player.processed] at member
  | succ count induction =>
      rcases processed_move (step_move settings (inputs count) _) with
        ⟨same, -⟩ | ⟨last, added, -, dispatches⟩
      · rw [runFor, same]
        exact induction
      · rw [runFor, added]
        intro entry member
        rcases List.mem_append.mp member with earlier | here
        · exact induction entry earlier
        · exact List.mem_singleton.mp here ▸ dispatches

/-- A step keeps the log complete exactly when it loses no extension. -/
theorem complete_move (move : Move settings input player next) :
    (∀ entry ∈ next.processed, entry.Complete settings) ↔
      (∀ entry ∈ player.processed, entry.Complete settings) ∧
        KeepsExtensions settings player := by
  rcases processed_move move with ⟨same, keeps⟩ | ⟨last, added, pc, dispatches⟩
  · rw [same, and_iff_left keeps]
  · have kept : KeepsExtensions settings player ↔ last.Complete settings := by
      rw [dispatches.complete_iff]
      constructor
      · intro keeps
        exact keeps last.read pc
      · intro keeps read at_read
        rw [pc, Pc.dispatch.injEq] at at_read
        exact at_read ▸ keeps
    rw [added, kept]
    constructor
    · intro complete
      exact ⟨fun entry member => complete entry (List.mem_append_left _ member),
        complete last (by simp)⟩
    · rintro ⟨earlier, here⟩ entry member
      rcases List.mem_append.mp member with before | new
      · exact earlier entry before
      · exact List.mem_singleton.mp new ▸ here

/-- At every point of a playback, each message of the core reached the
extension subscriptions of its topic once and in order exactly when no step
so far dispatched a cloud past `end_time` that an extension subscribes to. -/
theorem extensions_follow_core_iff (settings : Settings) (bags : List Bag)
    (startOffset : Rat) (inputs : Nat → Input) (count : Nat) :
    FollowsCore settings
        (runFor settings inputs (Player.start bags startOffset) count).processed ↔
      ∀ index < count,
        KeepsExtensions settings
          (runFor settings inputs (Player.start bags startOffset) index) := by
  rw [followsCore_iff (processed_dispatches inputs bags startOffset count)]
  induction count with
  | zero => simp [runFor, Player.start, Player.processed]
  | succ count induction =>
      rw [runFor, complete_move (step_move settings (inputs count) _), induction,
        Nat.forall_lt_succ_right]

/-- An extension subscription of the point clouds. -/
def cloudSubscription : Subscription :=
  { topic := "points"
    index := 0 }

def extendedSettings : Settings :=
  { splitSettings with
    extensionSubscriptions := [cloudSubscription]
    playbackSpeed := 0 }

/-- The cloud at three seconds is past the end time of two and a half: the
core gets it, the extension subscription of the clouds does not. -/
theorem end_cloud_misses_extension :
    ¬ ∀ inputs count,
      FollowsCore extendedSettings
        (runFor extendedSettings inputs (Player.start splitBags 0)
          count).processed := by
  intro follows
  have counted : ∀ entry ∈ (runFor extendedSettings unattended
      (Player.start splitBags 0) 20).processed,
      entry.core.isSome = true →
        cloudSubscription.topic = entry.read.message.topicName →
          entry.extensions.count cloudSubscription =
            extendedSettings.extensionSubscriptions.count cloudSubscription :=
    fun entry member core =>
      (follows unattended 20).complete entry member core cloudSubscription
  revert counted
  decide +kernel

end GlimRos.Rosbag
