import GlimRos.Rosbag.Basic

/-!
# The flat reference of a playback

Playing a list of bags should be one pass over one list of messages: the
recording without its skipped beginning, up to the first message that a stop
condition refuses, cut after the cloud that reaches the end time.
-/

namespace GlimRos.Rosbag

variable (settings : Settings)

/-- The messages of the bags in playing order, without those of the first
non-empty bag that a positive start offset skips. -/
def timeline (startOffset : Rat) : List (List Read) → List Read
  | [] => []
  | [] :: bags => timeline startOffset bags
  | (head :: tail) :: bags =>
      (if 0 < startOffset then
        seek (head :: tail) ((head.time : Rat) + startOffset * 1e9)
      else head :: tail) ++ bags.flatten

@[simp] theorem timeline_nil (startOffset : Rat) :
    timeline startOffset [] = [] := rfl

@[simp] theorem timeline_empty_bag (startOffset : Rat)
    (bags : List (List Read)) :
    timeline startOffset ([] :: bags) = timeline startOffset bags := rfl

/-- Without a start offset nothing is skipped. -/
theorem timeline_of_nonpos {startOffset : Rat} (none : ¬ 0 < startOffset)
    (bags : List (List Read)) :
    timeline startOffset bags = bags.flatten := by
  induction bags with
  | nil => rfl
  | cons bag bags induction =>
      cases bag with
      | nil => simpa using induction
      | cons head tail => simp [timeline, none]

/-- What the loop body does with a message it has accepted, followed by what
the rest of the playback hands on. -/
def playedAfter (read : Read) (rest : List Read) : List Read :=
  match coreDispatch settings read with
  | .mismatch => []
  | .endTimeReached => [read]
  | .continues _ => read :: rest

/-- One pass over a list of messages.  Its time origin is `t0` or, if that is
zero, the time of the first message that is not received at zero. -/
def played (t0 : Int) : List Read → List Read
  | [] => []
  | read :: rest =>
      if settings.refuses (originWith t0 read) read then []
      else playedAfter settings read (played (originWith t0 read) rest)

/-- The message was not received after `playback_until` or later than
`playback_duration` after `t0`, where these are set. -/
def inRange (t0 : Int) (read : Read) : Bool :=
  decide (0 < settings.playbackUntil →
      (read.time : Rat) / 1e9 ≤ settings.playbackUntil) &&
    decide (0 < settings.playbackDuration →
      ((read.time : Rat) - t0) / 1e9 ≤ settings.playbackDuration)

/-- `topic_type` is one the core accepts for the topic. -/
def topicTypeMatches (read : Read) : Bool :=
  (read.message.topicName ≠ settings.imuTopic ||
      read.topicType = "sensor_msgs/msg/Imu") &&
    (read.message.topicName ≠ settings.pointsTopic ||
      read.topicType = "sensor_msgs/msg/PointCloud2") &&
    (read.message.topicName ≠ settings.imageTopic ||
      read.topicType = "sensor_msgs/msg/Image" ||
      read.topicType = "sensor_msgs/msg/CompressedImage")

/-- A point cloud stamped after `end_time`. -/
def isEndCloud (read : Read) : Bool :=
  read.message.topicName = settings.pointsTopic &&
    settings.endTime < read.headerStamp

/-- A list up to and including the first item that satisfies `last`. -/
def cutAfter {Item : Type} (last : Item → Bool) : List Item → List Item
  | [] => []
  | item :: items => if last item then [item] else item :: cutAfter last items

/-- The longest prefix in which no message lies past `playback_until`, past
`playback_duration` after `t0`, or has the wrong type, cut after the first
cloud past the end time. -/
def reference (t0 : Int) (reads : List Read) : List Read :=
  cutAfter (isEndCloud settings)
    (reads.takeWhile fun read =>
      inRange settings t0 read && topicTypeMatches settings read)

/-- The reference with the head of the list as time origin. -/
def referenceFromHead : List Read → List Read
  | [] => []
  | read :: rest => reference settings read.time (read :: rest)

/-- The three topics of the core are different. -/
structure Settings.DistinctTopics (settings : Settings) : Prop where
  imuPoints : settings.imuTopic ≠ settings.pointsTopic
  imuImage : settings.imuTopic ≠ settings.imageTopic
  pointsImage : settings.pointsTopic ≠ settings.imageTopic

variable {settings}

/-- With distinct topics the dispatch chain is a test of the type and of the
end time. -/
theorem playedAfter_eq (distinct : settings.DistinctTopics)
    (read : Read) (rest : List Read) :
    playedAfter settings read rest =
      if topicTypeMatches settings read then
        if isEndCloud settings read then [read] else read :: rest
      else [] := by
  obtain ⟨imuPoints, imuImage, pointsImage⟩ := distinct
  by_cases imu : read.message.topicName = settings.imuTopic
  · by_cases type : read.topicType = "sensor_msgs/msg/Imu" <;>
      simp [playedAfter, coreDispatch, topicTypeMatches, isEndCloud, imu,
        type, imuPoints, imuImage]
  · by_cases points : read.message.topicName = settings.pointsTopic
    · by_cases type : read.topicType = "sensor_msgs/msg/PointCloud2"
      · by_cases late : settings.endTime < read.headerStamp <;>
          simp [playedAfter, coreDispatch, topicTypeMatches, isEndCloud,
            points, type, late, imuPoints.symm, pointsImage]
      · simp [playedAfter, coreDispatch, topicTypeMatches, points, type,
          imuPoints.symm, pointsImage]
    · by_cases image : read.message.topicName = settings.imageTopic
      · by_cases raw : read.topicType = "sensor_msgs/msg/Image"
        · simp [playedAfter, coreDispatch, topicTypeMatches, isEndCloud,
            image, raw, imuImage.symm, pointsImage.symm]
        · by_cases compressed :
              read.topicType = "sensor_msgs/msg/CompressedImage" <;>
            simp [playedAfter, coreDispatch, topicTypeMatches, isEndCloud,
              image, raw, compressed, imuImage.symm, pointsImage.symm]
      · simp [playedAfter, coreDispatch, topicTypeMatches, isEndCloud, imu,
          points, image]

/-- The range checks of the loop body are the limits of the reference. -/
theorem refuses_eq (t0 : Int) (read : Read) :
    settings.refuses t0 read = !inRange settings t0 read := by
  rw [Bool.eq_iff_iff]
  simp [Settings.refuses, Settings.reachedUntil, Settings.reachedDuration,
    inRange, imp_iff_not_or]

theorem originWith_of_ne_zero {t0 : Int} (set : t0 ≠ 0) (read : Read) :
    originWith t0 read = t0 :=
  if_neg set

@[simp] theorem originWith_zero (read : Read) :
    originWith 0 read = read.time := rfl

theorem originWith_self (read : Read) :
    originWith read.time read = read.time := by
  unfold originWith
  split
  · rfl
  · rfl

/-- A pass with a fixed origin is the cut prefix. -/
theorem played_eq_reference (distinct : settings.DistinctTopics) {t0 : Int}
    (set : t0 ≠ 0) (reads : List Read) :
    played settings t0 reads = reference settings t0 reads := by
  induction reads with
  | nil => rfl
  | cons read rest induction =>
      rw [played, originWith_of_ne_zero set, playedAfter_eq distinct,
        induction, refuses_eq]
      simp only [reference, List.takeWhile_cons]
      cases inRange settings t0 read
      · simp [cutAfter]
      · cases topicTypeMatches settings read
        · simp [cutAfter]
        · simp [cutAfter]

/-- A pass that starts without an origin takes its first message as one. -/
theorem played_zero_eq_reference (distinct : settings.DistinctTopics)
    {reads : List Read} (positive : ∀ read ∈ reads, 0 < read.time) :
    played settings 0 reads = referenceFromHead settings reads := by
  cases reads with
  | nil => rfl
  | cons read rest =>
      have set : read.time ≠ 0 := (positive read List.mem_cons_self).ne'
      calc
        played settings 0 (read :: rest) =
            played settings read.time (read :: rest) := by
          rw [played, played, originWith_zero, originWith_self]
        _ = reference settings read.time (read :: rest) :=
          played_eq_reference distinct set _

theorem seek_sublist (opened : List Read) (target : Rat) :
    (seek opened target).Sublist opened :=
  List.filter_sublist

/-- The timeline leaves messages out and keeps the order of the bags. -/
theorem timeline_sublist (startOffset : Rat) (bags : List (List Read)) :
    (timeline startOffset bags).Sublist bags.flatten := by
  induction bags with
  | nil => exact List.Sublist.refl _
  | cons bag bags induction =>
      cases bag with
      | nil => simpa using induction
      | cons head tail =>
          rw [timeline, List.flatten_cons]
          split
          · exact (seek_sublist _ _).append_right _
          · exact List.Sublist.refl _

/-- What is played is an initial part of the list. -/
theorem played_isPrefix (t0 : Int) (reads : List Read) :
    played settings t0 reads <+: reads := by
  induction reads generalizing t0 with
  | nil => exact List.prefix_refl _
  | cons read rest induction =>
      rw [played]
      split
      · exact List.nil_prefix
      · unfold playedAfter
        split
        · exact List.nil_prefix
        · exact ⟨rest, rfl⟩
        · exact List.cons_prefix_cons.mpr ⟨rfl, induction _⟩

end GlimRos.Rosbag
