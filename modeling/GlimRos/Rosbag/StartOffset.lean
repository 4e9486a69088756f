import GlimRos.Rosbag.Extensions

/-!
# How far a start offset reaches

The offset is consumed by one seek on the first bag that has messages.  If
that bag ends before the target of the seek, the playback goes on with the
first message of the bags after it, wherever that message lies.
-/

namespace GlimRos.Rosbag

/-- The messages of all bags, subscribed or not. -/
def recording (bags : List Bag) : List BagMessage :=
  bags.flatMap Bag.messages

/-- The message reached a callback of `GlimROS` or an extension
subscription. -/
def Handed.Delivered (entry : Handed) : Prop :=
  entry.core ≠ none ∨ entry.extensions ≠ []

instance (entry : Handed) : Decidable entry.Delivered :=
  inferInstanceAs (Decidable (_ ∨ _))

/-- The first bag with messages has one for the seek to stop at, or the bags
after it have none, or their first message lies at the target or is one that
the playback refuses. -/
def OffsetReaches (settings : Settings) (startOffset target : Rat) :
    List (List Read) → Prop
  | [] => True
  | [] :: bags => OffsetReaches settings startOffset target bags
  | (head :: tail) :: bags =>
      (∃ read ∈ head :: tail,
        (head.time : Rat) + startOffset * 1e9 ≤ (read.time : Rat)) ∨
      ∀ next ∈ bags.flatten.head?,
        target ≤ (next.time : Rat) ∨ settings.reachedUntil next = true ∨
          coreDispatch settings next = .mismatch

/-- Receive-time order. -/
def InOrder (reads : List Read) : Prop :=
  reads.Pairwise fun earlier later => earlier.time ≤ later.time

variable {settings : Settings} {startOffset target : Rat}

/-! ## One pass over the bags -/

theorem InOrder.head_le {head : Read} {rest : List Read}
    (inOrder : InOrder (head :: rest)) :
    ∀ read ∈ head :: rest, (head.time : Rat) ≤ (read.time : Rat) := by
  intro read member
  rcases List.mem_cons.mp member with rfl | later
  · exact le_refl _
  · exact_mod_cast List.rel_of_pairwise_cons inOrder later

/-- The first message of a pass is its own origin, so only `playback_until`
can refuse it. -/
theorem played_head_refuses (read : Read) :
    settings.refuses (originWith 0 read) read = settings.reachedUntil read := by
  have never : settings.reachedDuration read.time read = false := by
    simp only [Settings.reachedDuration, sub_self, zero_div]
    rw [Bool.and_eq_false_iff]
    by_cases limited : 0 < settings.playbackDuration
    · exact .inr (by simpa using limited.le)
    · exact .inl (by simpa using limited)
  rw [Settings.refuses, originWith_zero, never, Bool.or_false]

/-- A pass that refuses its first message hands on nothing. -/
theorem played_of_refused {read : Read} (rest : List Read)
    (refused : settings.reachedUntil read = true ∨
      coreDispatch settings read = .mismatch) :
    played settings 0 (read :: rest) = [] := by
  rw [played, played_head_refuses]
  rcases refused with late | mismatch
  · rw [if_pos late]
  · rw [playedAfter, mismatch, ite_self]

/-- Any other pass hands on its first message. -/
theorem mem_played_of_accepted {read : Read} (rest : List Read)
    (early : settings.reachedUntil read ≠ true)
    (matching : coreDispatch settings read ≠ .mismatch) :
    read ∈ played settings 0 (read :: rest) := by
  rw [played, played_head_refuses, if_neg early, playedAfter]
  cases core : coreDispatch settings read with
  | mismatch => exact (matching core).elim
  | endTimeReached => exact List.mem_cons_self
  | continues callback => exact List.mem_cons_self

/-- A pass over a first bag that the seek stays in. -/
theorem offset_reaches_inside {head : Read} {tail : List Read}
    {bags : List (List Read)} (offset : 0 < startOffset)
    (inOrder : InOrder ((head :: tail) ++ bags.flatten))
    (early : target ≤ (head.time : Rat) + startOffset * 1e9)
    {stop : Read} (inside : stop ∈ head :: tail)
    (past : (head.time : Rat) + startOffset * 1e9 ≤ (stop.time : Rat)) :
    ∀ read ∈ timeline startOffset ((head :: tail) :: bags),
      target ≤ (read.time : Rat) := by
  intro read member
  rw [timeline, if_pos offset, List.mem_append] at member
  rcases member with first | later
  · have sought := of_decide_eq_true (List.mem_filter.mp first).2
    exact early.trans sought
  · have ordered : stop.time ≤ read.time :=
      (List.pairwise_append.mp inOrder).2.2 stop inside read later
    have cast : (stop.time : Rat) ≤ (read.time : Rat) := by
      exact_mod_cast ordered
    exact early.trans (past.trans cast)

/-- A pass over a first bag that the seek leaves behind. -/
theorem timeline_of_exhausted {head : Read} {tail : List Read}
    (bags : List (List Read)) (offset : 0 < startOffset)
    (exhausted : ¬ ∃ read ∈ head :: tail,
      (head.time : Rat) + startOffset * 1e9 ≤ (read.time : Rat)) :
    timeline startOffset ((head :: tail) :: bags) = bags.flatten := by
  have nothing :
      seek (head :: tail) ((head.time : Rat) + startOffset * 1e9) = [] := by
    rw [seek, List.filter_eq_nil_iff]
    intro read member late
    exact exhausted ⟨read, member, of_decide_eq_true late⟩
  rw [timeline, if_pos offset, nothing, List.nil_append]

/-- A pass over bags in receive-time order hands on nothing before the
target exactly when the offset reaches it. -/
theorem played_respects_iff (offset : 0 < startOffset)
    (bags : List (List Read)) (inOrder : InOrder bags.flatten)
    (early : ∀ read ∈ bags.flatten,
      target ≤ (read.time : Rat) + startOffset * 1e9) :
    (∀ read ∈ played settings 0 (timeline startOffset bags),
        target ≤ (read.time : Rat)) ↔
      OffsetReaches settings startOffset target bags := by
  induction bags with
  | nil => simp [timeline, played, OffsetReaches]
  | cons bag bags induction =>
      cases bag with
      | nil => exact induction inOrder early
      | cons head tail =>
          rw [List.flatten_cons] at inOrder early
          rw [OffsetReaches]
          by_cases inside : ∃ read ∈ head :: tail,
              (head.time : Rat) + startOffset * 1e9 ≤ (read.time : Rat)
          · obtain ⟨stop, member, past⟩ := inside
            have start := early head (List.mem_append_left _ List.mem_cons_self)
            refine iff_of_true (fun read handed => ?_)
              (.inl ⟨stop, member, past⟩)
            exact offset_reaches_inside offset inOrder start member past read
              ((played_isPrefix _ _).subset handed)
          · rw [timeline_of_exhausted bags offset inside]
            have rest : InOrder bags.flatten :=
              (List.pairwise_append.mp inOrder).2.1
            cases later : bags.flatten with
            | nil => simp [played]
            | cons next more =>
                rw [later] at rest
                simp only [inside, false_or, List.head?_cons,
                  Option.mem_some_iff, forall_eq']
                constructor
                · intro respects
                  by_contra refused
                  simp only [not_or, not_le] at refused
                  obtain ⟨before, within, matching⟩ := refused
                  have handed := mem_played_of_accepted more within matching
                  exact (respects next handed).not_gt before
                · intro reaches read handed
                  rcases reaches with past | refused
                  · have member := (played_isPrefix _ _).subset handed
                    exact past.trans (rest.head_le read member)
                  · rw [played_of_refused more refused] at handed
                    cases handed

/-! ## Whole playbacks -/

/-- The messages of the readers are the subscribed ones of the recording. -/
theorem recording_reads (settings : Settings) (bags : List Bag) :
    (bags.map settings.openBag).flatten.map Read.message =
      (recording bags).filter
        fun message => decide (message.topicName ∈ settings.filterTopics) := by
  induction bags with
  | nil => rfl
  | cons bag bags induction =>
      have here :
          (settings.openBag bag).map Read.message =
            bag.messages.filter
              fun message =>
                decide (message.topicName ∈ settings.filterTopics) := by
        rw [Settings.openBag, List.map_map]
        exact List.map_id _
      rw [List.map_cons, List.flatten_cons, List.map_append, induction, here,
        recording, recording, List.flatMap_cons, List.filter_append]

/-- What a log entry says about the dispatch of its message. -/
def Handed.Dispatched (settings : Settings) (entry : Handed) : Prop :=
  coreDispatch settings entry.read = .endTimeReached ∧
      entry.core = some .points ∨
    coreDispatch settings entry.read = .continues entry.core ∧
      entry.extensions = settings.subscriptionMap entry.read.message.topicName

theorem Handed.Dispatches.dispatched {entry : Handed}
    (dispatches : entry.Dispatches settings) : entry.Dispatched settings := by
  rcases dispatches with ⟨past, core, -⟩ | continues
  · exact .inl ⟨coreDispatch_eq_endTimeReached_iff.mpr past, core⟩
  · exact .inr continues

theorem processed_dispatched (inputs : Nat → Input) (bags : List Bag)
    (startOffset : Rat) (count : Nat) :
    ∀ entry ∈ (runFor settings inputs (Player.start bags startOffset)
      count).processed, entry.Dispatched settings := by
  intro entry member
  exact (processed_dispatches inputs bags startOffset count entry member).dispatched

/-- Only a message of none of the three topics goes to no callback. -/
theorem coreDispatch_none {read : Read}
    (core : coreDispatch settings read = .continues none) :
    read.message.topicName ∉
      [settings.imuTopic, settings.pointsTopic, settings.imageTopic] := by
  intro listed
  have called := (coreDispatch_continues core).mpr listed
  cases called

/-- A subscribed message that was dispatched reached someone. -/
theorem Handed.Dispatched.delivered {entry : Handed}
    (dispatched : entry.Dispatched settings)
    (subscribed : entry.read.message.topicName ∈ settings.filterTopics) :
    entry.Delivered := by
  rcases dispatched with ⟨_, core⟩ | ⟨core, extensions⟩
  · exact .inl (by rw [core]; nofun)
  · by_cases nobody : entry.core = none
    · right
      rw [nobody] at core
      rw [Settings.filterTopics, List.mem_append] at subscribed
      obtain ⟨sub, member, topic⟩ :=
        List.mem_map.mp (subscribed.resolve_left (coreDispatch_none core))
      rw [extensions]
      have found : sub ∈ settings.subscriptionMap _ :=
        List.mem_filter.mpr ⟨member, decide_eq_true topic⟩
      exact List.ne_nil_of_mem found
    · exact .inl nobody

/-- Every logged message of a playback reached someone. -/
theorem processed_delivered (inputs : Nat → Input) (bags : List Bag)
    (startOffset : Rat) (count : Nat) :
    ∀ entry ∈ (runFor settings inputs (Player.start bags startOffset)
      count).processed, entry.Delivered := by
  intro entry member
  refine (processed_dispatched inputs bags startOffset count entry
    member).delivered ?_
  have inPass : entry.read ∈ played settings 0
      (timeline startOffset (bags.map settings.openBag)) :=
    (processed_prefix_played settings inputs bags startOffset
      count).subset (List.mem_map_of_mem member)
  have handed : entry.read ∈ (bags.map settings.openBag).flatten := by
    apply (timeline_sublist startOffset _).subset
    apply (played_isPrefix 0 _).subset
    exact inPass
  have recorded := List.mem_map_of_mem (f := Read.message) handed
  rw [recording_reads] at recorded
  exact of_decide_eq_true (List.mem_filter.mp recorded).2

/-- In a playback of a recording in receive-time order, everything handed on
was received at or after the first message of the recording plus the offset,
exactly when the first bag with messages reaches that far or no early message
after it is accepted. -/
theorem startOffset_respected_iff
    (settings : Settings) (bags : List Bag) (startOffset : Rat)
    (first : BagMessage) (later : List BagMessage)
    (recorded : recording bags = first :: later)
    (inOrder : (recording bags).Pairwise
      fun earlier later => earlier.recvTimestamp ≤ later.recvTimestamp)
    (offset : 0 < startOffset) :
    (∀ inputs count,
      ∀ entry ∈ (runFor settings inputs (Player.start bags startOffset)
        count).processed,
      entry.Delivered →
        (first.recvTimestamp : Rat) + startOffset * 1e9 ≤
          (entry.read.time : Rat)) ↔
      OffsetReaches settings startOffset
        ((first.recvTimestamp : Rat) + startOffset * 1e9)
        (bags.map settings.openBag) := by
  have reads := recording_reads settings bags
  have readsInOrder : InOrder (bags.map settings.openBag).flatten := by
    have filtered := inOrder.filter
      fun message => decide (message.topicName ∈ settings.filterTopics)
    rw [← reads, List.pairwise_map] at filtered
    exact filtered
  have early : ∀ read ∈ (bags.map settings.openBag).flatten,
      (first.recvTimestamp : Rat) + startOffset * 1e9 ≤
        (read.time : Rat) + startOffset * 1e9 := by
    intro read member
    have inRecording : read.message ∈ recording bags := by
      have mapped := List.mem_map_of_mem (f := Read.message) member
      rw [reads] at mapped
      exact (List.mem_filter.mp mapped).1
    have ordered : first.recvTimestamp ≤ read.time := by
      rw [recorded] at inOrder inRecording
      rcases List.mem_cons.mp inRecording with same | after
      · exact same ▸ le_refl _
      · exact List.rel_of_pairwise_cons inOrder after
    have cast : (first.recvTimestamp : Rat) ≤ (read.time : Rat) := by
      exact_mod_cast ordered
    linarith
  rw [← played_respects_iff offset _ readsInOrder early]
  constructor
  · intro respected read member
    obtain ⟨count, stopped, pc⟩ :=
      eventually_finished (unattended_live settings bags startOffset)
    have whole :=
      processed_eq_played settings unattended bags startOffset
        (fun _ => rfl) pc
    rw [← whole] at member
    obtain ⟨entry, handed, rfl⟩ := List.mem_map.mp member
    exact respected unattended count entry handed
      (processed_delivered unattended bags startOffset count entry handed)
  · intro respected inputs count entry member _
    apply respected entry.read
    apply (processed_prefix_played settings inputs bags startOffset
      count).subset
    exact List.mem_map_of_mem member

/-- A cloud that is received when it is stamped. -/
def cloudAt (sec : Nat) : BagMessage :=
  { topicName := "points"
    recvTimestamp := sec * 1000000000
    stampSec := sec
    stampNanosec := 0 }

/-- Two bags with two clouds each. -/
def cloudBags : List Bag :=
  [splitBag [cloudAt 1, cloudAt 2], splitBag [cloudAt 3, cloudAt 4]]

/-- The offset of five seconds is longer than the first bag.  The clouds at
three and four seconds, in the second bag, are handed on all the same. -/
theorem startOffset_lost_in_second_bag :
    recording cloudBags ≠ [] ∧
      ((recording cloudBags).Pairwise
        fun earlier later => earlier.recvTimestamp ≤ later.recvTimestamp) ∧
      ((runFor wholeSettings unattended (Player.start cloudBags 5)
        20).processed.map fun entry => entry.read.time) =
        [3000000000, 4000000000] ∧
      ¬ ∀ inputs count,
        ∀ entry ∈ (runFor wholeSettings inputs (Player.start cloudBags 5)
          count).processed,
        entry.Delivered →
          (1000000000 : Rat) + 5 * 1e9 ≤ (entry.read.time : Rat) := by
  refine ⟨by decide, by decide, by decide +kernel, fun respected => ?_⟩
  have handed := respected unattended 20
  revert handed
  decide +kernel

/-- With an offset of one second the first bag reaches the target. -/
theorem startOffset_respected_split :
    recording splitBags ≠ [] ∧
      ∀ inputs count,
        ∀ entry ∈ (runFor splitSettings inputs (Player.start splitBags 1)
          count).processed,
        entry.Delivered →
          (1000000000 : Rat) + 1 * 1e9 ≤ (entry.read.time : Rat) := by
  refine ⟨by decide, ?_⟩
  apply (startOffset_respected_iff splitSettings splitBags 1 _ _ rfl
    (by decide) (by decide)).mpr
  exact .inl ⟨_, List.mem_cons_of_mem _ List.mem_cons_self,
    by decide +kernel⟩

end GlimRos.Rosbag
