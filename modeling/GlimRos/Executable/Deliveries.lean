import GlimRos.Executable.Completion

/-!
# What the extension subscriptions receive

A subscription belongs to one extension module of the configuration.  Over a
whole playback it gets from the bags the messages of its topic that the player
hands on and does not stop at, each once and behind the core.  Messages that
reach it over its live topic are not counted.
-/

namespace GlimRos.Executable

open Transition

open Rosbag (Handed Player Read Settings Subscription)

variable {K : Type} {glim : Glim K} {Module : Type}

/-- The player goes on with the extension subscriptions after the core. -/
def goesOn (settings : Settings) (read : Read) : Bool :=
  match Rosbag.coreDispatch settings read with
  | .continues _ => true
  | _ => false

/-- The messages of a topic that reach the extension subscriptions. -/
def subscribedReads (settings : Settings) (topic : String)
    (reads : List Read) : List Read :=
  reads.filter fun read =>
    goesOn settings read && decide (topic = read.message.topicName)

/-- What a subscription was given of the bags, in order. -/
def RosbagMain.receivedFromBags (main : RosbagMain glim Module)
    (sub : Subscription) : List Read :=
  (main.delivered.filter fun delivery => delivery.1 = sub).map Prod.snd

variable {settings : Settings} {sub : Subscription}

theorem deliveries_to (sub : Subscription) (entry : Handed) :
    ((deliveries entry).filter fun delivery => delivery.1 = sub).map
        Prod.snd =
      List.replicate (entry.extensions.count sub) entry.read := by
  unfold deliveries
  induction entry.extensions with
  | nil => rfl
  | cons first rest induction =>
      by_cases same : first = sub
      · simp [same, induction, List.replicate_succ]
      · simp [same, induction]

/-- A registered subscription gets each message of its topic once. -/
theorem deliveries_once (once : settings.extensionSubscriptions.Nodup)
    (registered : sub ∈ settings.extensionSubscriptions) {entry : Handed}
    (dispatches : entry.Dispatches settings) :
    ((deliveries entry).filter fun delivery => delivery.1 = sub).map
        Prod.snd =
      subscribedReads settings sub.topic [entry.read] := by
  rw [deliveries_to]
  rcases dispatches with ⟨past, _, none⟩ | ⟨continues, extensions⟩
  · have last := Rosbag.coreDispatch_eq_endTimeReached_iff.mpr past
    simp [none, subscribedReads, goesOn, last]
  · rw [extensions, Rosbag.count_subscriptionMap,
      List.count_eq_one_of_mem once registered]
    by_cases topic : sub.topic = entry.read.message.topicName
    · simp [subscribedReads, goesOn, continues, topic]
    · simp [subscribedReads, goesOn, continues, topic]

theorem subscribedReads_append (topic : String)
    (earlier later : List Read) :
    subscribedReads settings topic (earlier ++ later) =
      subscribedReads settings topic earlier ++
        subscribedReads settings topic later :=
  List.filter_append ..

/-- What the log of the player stands for, seen by one subscription. -/
theorem handed_to (once : settings.extensionSubscriptions.Nodup)
    (registered : sub ∈ settings.extensionSubscriptions)
    (entries : List Handed)
    (dispatches : ∀ entry ∈ entries, entry.Dispatches settings) :
    ((entries.flatMap deliveries).filter
        fun delivery => delivery.1 = sub).map Prod.snd =
      subscribedReads settings sub.topic (entries.map Handed.read) := by
  induction entries with
  | nil => rfl
  | cons entry entries induction =>
      have later := induction fun other member =>
        dispatches other (List.mem_cons_of_mem _ member)
      have here := deliveries_once once registered
        (dispatches entry List.mem_cons_self)
      rw [List.flatMap_cons, List.filter_append, List.map_append, here,
        later, List.map_cons, ← subscribedReads_append,
        List.singleton_append]

section Runs

variable [Field K] [LinearOrder K] {main : RosbagMain glim Module}

omit [Field K] [LinearOrder K] in
/-- A playback that is over has delivered everything it handed on. -/
theorem Follows.settled {setup : RosbagSetup glim} {whole : List Read}
    (follows : Follows settings whole main) (through : main.PlayedOut) :
    main.undelivered setup = [] := by
  have stands := follows.stands
  cases here : main.pc with
  | callback read =>
      rw [here] at stands
      obtain ⟨since, waits⟩ := stands
      rcases through with ended | ⟨ended, _⟩ <;> cases waits.symm.trans ended
  | _ => simp [RosbagMain.undelivered, here]

/-- In every run of `glim_rosbag`, every subscription that the configured
extension modules create gets from the bags, at every point, the first of the
messages of its topic that an uninterrupted playback hands on and does not
stop at, each once and in order, and all of them once the bags were played
out. -/
theorem subscription_receives (call : RosbagCall glim Module)
    {made : GlimRosNode glim Module}
    (constructed :
      GlimRosNode.construct call.installation call.options = some made)
    (reachable :
      (rosbagSystem (call.setup made)
        (RosbagMain.start call.bags call.startOffset
          made.loaded)).Reachable main)
    (registered : sub ∈ made.extensionSubs) :
    let due := subscribedReads (call.setup made).settings sub.topic
      ((call.setup made).recorded call.bags call.startOffset)
    main.receivedFromBags sub <+: due ∧
      (main.PlayedOut → main.receivedFromBags sub = due) := by
  obtain ⟨follows, accounts⟩ := reachable_follows reachable
  have once : (call.setup made).settings.extensionSubscriptions.Nodup :=
    GlimRosNode.construct_nodup constructed
  have handed := handed_to once registered main.player.processed
    accounts.dispatches
  rw [← accounts.delivered] at handed
  constructor
  · obtain ⟨rest, split⟩ := follows.isPrefix
    have received : main.receivedFromBags sub <+:
        subscribedReads (call.setup made).settings sub.topic
          (main.player.processed.map Handed.read) := by
      rw [← handed, List.filter_append, List.map_append]
      exact List.prefix_append _ _
    rw [← split, subscribedReads_append]
    exact received.trans (List.prefix_append _ _)
  · intro through
    rw [follows.settled through, List.append_nil, follows.playedOut through]
      at handed
    exact handed

end Runs

/-- The module of the sample call is given both messages. -/
theorem subscription_receives_both :
    ∃ main : RosbagMain numberedGlim String,
      main.PlayedOut ∧
        (main.receivedFromBags ⟨"/imu", 0⟩).map Read.time =
          [1000000000, 2000000000] := by
  have constructed :
      GlimRosNode.construct loggingCall.installation loggingCall.options =
        some _ := rfl
  obtain ⟨main, reachable, _, _, through⟩ :=
    exists_exit (loggingCall.setup _)
      (GlimRosNode.construct_fresh constructed) rfl loggingCall.bags
      loggingCall.startOffset
  have registered : ⟨"/imu", 0⟩ ∈ [(⟨"/imu", 0⟩ : Subscription)] :=
    List.mem_singleton.mpr rfl
  obtain ⟨_, complete⟩ :=
    subscription_receives loggingCall constructed reachable registered
  refine ⟨main, through, ?_⟩
  rw [complete through]
  decide +kernel

end GlimRos.Executable
