import GlimRos.Library.Numeral
import GlimRos.Rosbag.Extensions
import Mathlib.Data.Finset.Dedup
import Mathlib.Data.Finset.Order
import Mathlib.Data.List.Sort

/-!
# The order of split files

`main` collects the files its arguments match and sorts their names.  A split
recording numbers its files, and the names sort like the numerals in them:
`_10` comes before `_2`.
-/

namespace GlimRos.Rosbag

variable {settings : Settings}

/-- `bag_filenames`, for the arguments behind the name of the program. -/
def bagFilenames (glob : String → List String) (args : List String) : List String :=
  (args.flatMap glob).mergeSort (· ≤ ·)

/-- A recording that was split into numbered files. -/
structure Recording where
  base : String
  ext : String
  files : List (List BagMessage)
  inOrder : files.flatten.Pairwise fun earlier later =>
    earlier.recvTimestamp ≤ later.recvTimestamp

namespace Recording

variable (recording : Recording)

def fileName (index : Nat) : String :=
  recording.base ++ "_" ++ toString index ++ "." ++ recording.ext

def fileNames : List String :=
  (List.range recording.files.length).map recording.fileName

/-- The files lie on the disk under their names, whatever types they declare. -/
def StoredOn (disk : String → Bag) : Prop :=
  ∀ index messages, recording.files[index]? = some messages →
    (disk (recording.fileName index)).messages = messages

/-- However the files are named on the command line and played, the callbacks
of `GlimROS` get the messages in receive-time order. -/
def PlaysInOrder (imuTopic pointsTopic imageTopic : String) : Prop :=
  ∀ (settings : Settings) (glob : String → List String) (args : List String)
    (disk : String → Bag) (startOffset : Rat) (inputs : Nat → Input) (count : Nat),
    settings.coreTopics = [imuTopic, pointsTopic, imageTopic] →
    (args.flatMap glob).Perm recording.fileNames →
    recording.StoredOn disk →
    (coreReads (runFor settings inputs
        (Player.start ((bagFilenames glob args).map disk) startOffset)
        count).processed).Pairwise
      fun earlier later => earlier.time ≤ later.time

/-- A later file whose leading digits form a number below the index of an
earlier file holds nothing on the topics that was received later. -/
def OvertakesNothing (topics : List String) : Prop :=
  ∀ earlier later, earlier < later → Numeral.leading later earlier < earlier →
    ∀ before after, recording.files[earlier]? = some before →
      recording.files[later]? = some after →
        ∀ message ∈ before, ∀ message' ∈ after,
          message.topicName ∈ topics → message'.topicName ∈ topics →
            message'.recvTimestamp ≤ message.recvTimestamp

/-! ## The order of the names -/

theorem toList_fileName (index : Nat) :
    (recording.fileName index).toList =
      (recording.base ++ "_").toList ++
        (Nat.toDigits 10 index ++ '.' :: recording.ext.toList) := by
  simp [fileName, toString, Nat.toList_repr]

theorem fileName_injective : Function.Injective recording.fileName := by
  intro index index' same
  have lists := congrArg String.toList same
  rw [toList_fileName, toList_fileName, List.append_right_inj,
    List.append_left_inj] at lists
  exact Numeral.toDigits_injective lists

/-- Where the names of two files swap their order. -/
theorem fileName_lt_iff {earlier later : Nat} (less : earlier < later) :
    recording.fileName later < recording.fileName earlier ↔
      Numeral.leading later earlier < earlier := by
  rw [String.lt_iff_toList_lt, toList_fileName, toList_fileName,
    Numeral.append_lt_append_iff rfl]
  simp only [lt_irrefl, true_and, false_or]
  exact Numeral.toDigits_append_lt_iff recording.ext.toList (by decide) less

/-- The indices of the files in the order of their names. -/
def order : List Nat :=
  (List.range recording.files.length).mergeSort
    fun index index' => recording.fileName index ≤ recording.fileName index'

theorem mem_order {index : Nat} :
    index ∈ recording.order ↔ index < recording.files.length := by
  rw [order, (List.mergeSort_perm _ _).mem_iff, List.mem_range]

theorem map_order :
    recording.order.map recording.fileName = recording.fileNames.mergeSort (· ≤ ·) :=
  List.map_mergeSort fun _ _ _ _ => rfl

/-- Names are different, so their order is strict. -/
theorem order_pairwise :
    recording.order.Pairwise fun index index' =>
      recording.fileName index < recording.fileName index' := by
  have sorted := List.pairwise_mergeSort' (· ≤ ·) recording.fileNames
  rw [← map_order, List.pairwise_map] at sorted
  have nodup : recording.order.Nodup :=
    (List.mergeSort_perm _ _).nodup_iff.mpr List.nodup_range
  exact (sorted.and nodup).imp fun ⟨ordered, different⟩ =>
    lt_of_le_of_ne ordered fun same => different (recording.fileName_injective same)

/-- Sorting brings the files of every command line into this order. -/
theorem bagFilenames_eq {glob : String → List String} {args : List String}
    (matched : (args.flatMap glob).Perm recording.fileNames) :
    bagFilenames glob args = recording.order.map recording.fileName := by
  have sameNames : (bagFilenames glob args).Perm
      (recording.fileNames.mergeSort (· ≤ ·)) :=
    (List.mergeSort_perm _ _).trans (matched.trans (List.mergeSort_perm _ _).symm)
  rw [map_order]
  exact sameNames.eq_of_pairwise' (List.pairwise_mergeSort' (· ≤ ·) _)
    (List.pairwise_mergeSort' (· ≤ ·) _)

/-! ## The messages of the core -/

/-- What the reader of a file returns on the topics of the core. -/
def fileReads (settings : Settings) (disk : String → Bag) (index : Nat) : List Read :=
  (settings.openBag (disk (recording.fileName index))).filter
    fun read => read.message.topicName ∈ settings.coreTopics

variable {recording}

theorem mem_fileReads {disk : String → Bag} (stored : recording.StoredOn disk)
    {index : Nat} {messages : List BagMessage}
    (file : recording.files[index]? = some messages) {read : Read}
    (member : read ∈ recording.fileReads settings disk index) :
    read.message ∈ messages ∧ read.message.topicName ∈ settings.coreTopics := by
  obtain ⟨opened, topic⟩ := List.mem_filter.mp member
  obtain ⟨message, found, rfl⟩ := List.mem_map.mp opened
  rw [stored index messages file] at found
  exact ⟨(List.mem_filter.mp found).1, of_decide_eq_true topic⟩

theorem exists_mem_fileReads {disk : String → Bag} (stored : recording.StoredOn disk)
    {index : Nat} {messages : List BagMessage}
    (file : recording.files[index]? = some messages) {message : BagMessage}
    (member : message ∈ messages) (topic : message.topicName ∈ settings.coreTopics) :
    ∃ read ∈ recording.fileReads settings disk index, read.message = message := by
  rw [← stored index messages file] at member
  have filtered : message.topicName ∈ settings.filterTopics :=
    List.mem_append_left _ topic
  have found : message ∈ (disk (recording.fileName index)).messages.filter
      fun message => decide (message.topicName ∈ settings.filterTopics) :=
    List.mem_filter.mpr ⟨member, decide_eq_true filtered⟩
  exact ⟨_, List.mem_filter.mpr ⟨List.mem_map_of_mem found, decide_eq_true topic⟩, rfl⟩

/-- The messages of one file stay in order. -/
theorem fileReads_pairwise {disk : String → Bag} (stored : recording.StoredOn disk)
    {index : Nat} {messages : List BagMessage}
    (file : recording.files[index]? = some messages) :
    (recording.fileReads settings disk index).Pairwise
      fun earlier later => earlier.time ≤ later.time := by
  have ordered := (List.pairwise_flatten.mp recording.inOrder).1 messages
    (List.mem_of_getElem? file)
  rw [← stored index messages file] at ordered
  apply List.Pairwise.filter
  rw [Settings.openBag, List.pairwise_map]
  exact ordered.filter _

/-- The messages of two files are in the order of their indices. -/
theorem files_ordered {earlier later : Nat} (less : earlier < later)
    {before after : List BagMessage}
    (fileBefore : recording.files[earlier]? = some before)
    (fileAfter : recording.files[later]? = some after) :
    ∀ message ∈ before, ∀ message' ∈ after,
      message.recvTimestamp ≤ message'.recvTimestamp := by
  have ordered := (List.pairwise_flatten.mp recording.inOrder).2
  obtain ⟨inBefore, rfl⟩ := List.getElem?_eq_some_iff.mp fileBefore
  obtain ⟨inAfter, rfl⟩ := List.getElem?_eq_some_iff.mp fileAfter
  exact List.pairwise_iff_getElem.mp ordered earlier later inBefore inAfter less

/-- The files in the order in which the player opens them. -/
theorem openBag_flatten {glob : String → List String} {args : List String}
    (matched : (args.flatMap glob).Perm recording.fileNames)
    (disk : String → Bag) :
    ((((bagFilenames glob args).map disk).map settings.openBag).flatten.filter
        fun read => read.message.topicName ∈ settings.coreTopics) =
      recording.order.flatMap (recording.fileReads settings disk) := by
  rw [recording.bagFilenames_eq matched, List.filter_flatten]
  simp only [List.map_map, List.flatMap]
  rfl

end Recording

/-- The core is handed the messages of its topics among those processed. -/
theorem coreReads_eq {entries : List Handed}
    (dispatches : ∀ entry ∈ entries, entry.Dispatches settings) :
    coreReads entries =
      (entries.map Handed.read).filter
        fun read => read.message.topicName ∈ settings.coreTopics := by
  rw [coreReads, List.filter_map]
  congr 1
  apply List.filter_congr
  intro entry member
  rw [Bool.eq_iff_iff, (dispatches entry member).core_iff, Function.comp_apply,
    decide_eq_true_iff]

/-! ## A playback without limits -/

/-- A pass that nothing refuses and nothing stops hands on every message. -/
theorem played_eq_self (unlimited : ∀ t0 read, settings.refuses t0 read = false)
    (t0 : Int) (reads : List Read)
    (continues : ∀ read ∈ reads, ∃ callback,
      coreDispatch settings read = .continues callback) :
    played settings t0 reads = reads := by
  induction reads generalizing t0 with
  | nil => rfl
  | cons read rest induction =>
      obtain ⟨callback, core⟩ := continues read List.mem_cons_self
      have later := induction (originWith t0 read)
        fun other member => continues other (List.mem_cons_of_mem _ member)
      rw [played, unlimited, if_neg Bool.false_ne_true, playedAfter, core, later]

section

variable (imuTopic pointsTopic imageTopic : String)

/-- Settings that end a playback at no message stamped up to `endTime`. -/
def openSettings (endTime : Rat) : Settings :=
  { imuTopic := imuTopic
    pointsTopic := pointsTopic
    imageTopic := imageTopic
    extensionSubscriptions := []
    playbackUntil := 0
    playbackDuration := 0
    playbackSpeed := 0
    endTime := endTime
    keyboardActive := false }

/-- The topics with the types the core accepts. -/
def typedBag (messages : List BagMessage) : Bag :=
  { messages := messages
    topicsAndTypes :=
      [(imageTopic, "sensor_msgs/msg/Image"),
        (pointsTopic, "sensor_msgs/msg/PointCloud2"),
        (imuTopic, "sensor_msgs/msg/Imu")] }

variable {imuTopic pointsTopic imageTopic}

theorem openSettings_refuses (endTime : Rat) (t0 : Int) (read : Read) :
    (openSettings imuTopic pointsTopic imageTopic endTime).refuses t0 read = false := by
  simp [openSettings, Settings.refuses, Settings.reachedUntil, Settings.reachedDuration]

theorem typedBag_topicTypeMap (messages : List BagMessage) (topic : String) :
    (typedBag imuTopic pointsTopic imageTopic messages).topicTypeMap topic =
      if topic = imuTopic then "sensor_msgs/msg/Imu"
      else if topic = pointsTopic then "sensor_msgs/msg/PointCloud2"
      else if topic = imageTopic then "sensor_msgs/msg/Image"
      else "" := by
  simp [Bag.topicTypeMap, typedBag, Function.update_apply]

theorem openSettings_continues {endTime : Rat} {messages : List BagMessage}
    {read : Read} (stamped : read.headerStamp ≤ endTime)
    (member : read ∈ (openSettings imuTopic pointsTopic imageTopic endTime).openBag
      (typedBag imuTopic pointsTopic imageTopic messages)) :
    ∃ callback, coreDispatch (openSettings imuTopic pointsTopic imageTopic endTime) read =
      .continues callback := by
  obtain ⟨message, -, rfl⟩ := List.mem_map.mp member
  have early : ∀ type, ¬ endTime < Read.headerStamp ⟨message, type⟩ :=
    fun _ => not_lt.mpr stamped
  simp only [coreDispatch, typedBag_topicTypeMap, openSettings, early]
  split_ifs <;> simp_all

end

/-- In a list with strictly increasing keys the keys tell which item is first. -/
theorem rel_of_key_lt {Item Key : Type} [Preorder Key] {key : Item → Key}
    {Holds : Item → Item → Prop} {items : List Item}
    (increasing : items.Pairwise fun item item' => key item < key item')
    (related : items.Pairwise Holds) {first second : Item}
    (firstMember : first ∈ items) (secondMember : second ∈ items)
    (less : key first < key second) : Holds first second := by
  obtain ⟨index, inside, rfl⟩ := List.getElem_of_mem firstMember
  obtain ⟨index', inside', rfl⟩ := List.getElem_of_mem secondMember
  rcases lt_trichotomy index index' with before | rfl | after
  · exact List.pairwise_iff_getElem.mp related _ _ inside inside' before
  · exact (lt_irrefl _ less).elim
  · have greater := List.pairwise_iff_getElem.mp increasing _ _ inside' inside after
    exact (lt_asymm less greater).elim

/-! ## Both directions -/

namespace Recording

variable {recording : Recording} {imuTopic pointsTopic imageTopic : String}

theorem playsInOrder_of_overtakesNothing
    (nothing : recording.OvertakesNothing [imuTopic, pointsTopic, imageTopic]) :
    recording.PlaysInOrder imuTopic pointsTopic imageTopic := by
  intro settings glob args disk startOffset inputs count topics matched stored
  rw [coreReads_eq (processed_dispatches inputs _ startOffset count)]
  have played := processed_prefix_played settings inputs
    ((bagFilenames glob args).map disk) startOffset count
  have passed := played.sublist.trans
    ((played_isPrefix 0 _).sublist.trans (timeline_sublist startOffset _))
  refine List.Pairwise.sublist (passed.filter _) ?_
  rw [openBag_flatten matched, List.pairwise_flatMap]
  constructor
  · intro index member
    have inside := recording.mem_order.mp member
    exact fileReads_pairwise stored (List.getElem?_eq_getElem inside)
  · refine recording.order_pairwise.imp_of_mem ?_
    intro first second firstMember secondMember named read inFirst read' inSecond
    have firstFile := List.getElem?_eq_getElem (recording.mem_order.mp firstMember)
    have secondFile := List.getElem?_eq_getElem (recording.mem_order.mp secondMember)
    obtain ⟨message, topic⟩ := mem_fileReads stored firstFile inFirst
    obtain ⟨message', topic'⟩ := mem_fileReads stored secondFile inSecond
    rcases lt_trichotomy first second with less | rfl | greater
    · exact files_ordered less firstFile secondFile _ message _ message'
    · exact (lt_irrefl _ named).elim
    · -- The names swap the two files: here the condition is needed.
      rw [recording.fileName_lt_iff greater] at named
      exact nothing second first greater named _ _ secondFile firstFile _ message' _
        message (topics ▸ topic') (topics ▸ topic)

/-- A disk with the files of the recording, all topics of the core typed. -/
def disk (recording : Recording) (imuTopic pointsTopic imageTopic name : String) : Bag :=
  let index := (List.range recording.files.length).find? fun index =>
    recording.fileName index = name
  typedBag imuTopic pointsTopic imageTopic
    ((index.bind fun index => recording.files[index]?).getD [])

theorem storedOn_disk :
    recording.StoredOn (recording.disk imuTopic pointsTopic imageTopic) := by
  intro index messages file
  have inside := (List.getElem?_eq_some_iff.mp file).1
  have found : ((List.range recording.files.length).find? fun other =>
      recording.fileName other = recording.fileName index) = some index := by
    cases search : (List.range recording.files.length).find? fun other =>
        recording.fileName other = recording.fileName index with
    | none =>
        have missed := List.find?_eq_none.mp search index (List.mem_range.mpr inside)
        simp at missed
    | some other =>
        have same := List.find?_some search
        rw [decide_eq_true_eq] at same
        rw [recording.fileName_injective same]
  simp only [disk, typedBag, found, Option.bind_some, file, Option.getD_some]

theorem mem_of_mem_disk {name : String} {message : BagMessage}
    (member : message ∈ (recording.disk imuTopic pointsTopic imageTopic name).messages) :
    message ∈ recording.files.flatten := by
  simp only [disk, typedBag] at member
  generalize (List.range recording.files.length).find? _ = index at member
  cases file : index.bind fun index => recording.files[index]? with
  | none =>
      rw [file] at member
      cases member
  | some messages =>
      rw [file, Option.getD_some] at member
      obtain ⟨index, -, found⟩ := Option.bind_eq_some_iff.mp file
      exact List.mem_flatten.mpr ⟨messages, List.mem_of_getElem? found, member⟩

/-- A run without limits over the whole recording. -/
theorem exists_whole_run (recording : Recording)
    (imuTopic pointsTopic imageTopic : String) :
    ∃ settings count, settings.coreTopics = [imuTopic, pointsTopic, imageTopic] ∧
      coreReads (runFor settings unattended
        (Player.start ((bagFilenames (fun name => [name]) recording.fileNames).map
          (recording.disk imuTopic pointsTopic imageTopic)) 0) count).processed =
        recording.order.flatMap
          (recording.fileReads settings
            (recording.disk imuTopic pointsTopic imageTopic)) := by
  let stamp : BagMessage → Rat := fun message => Read.headerStamp ⟨message, ""⟩
  obtain ⟨endTime, stamped⟩ := (recording.files.flatten.map stamp).toFinset.exists_le
  let settings := openSettings imuTopic pointsTopic imageTopic endTime
  let bags := (bagFilenames (fun name => [name]) recording.fileNames).map
    (recording.disk imuTopic pointsTopic imageTopic)
  obtain ⟨count, stopped, pc⟩ := eventually_finished (unattended_live settings bags 0)
  refine ⟨settings, count, rfl, ?_⟩
  have whole := processed_eq_played settings unattended bags 0 (fun _ => rfl) pc
  have continues : ∀ read ∈ (bags.map settings.openBag).flatten, ∃ callback,
      coreDispatch settings read = .continues callback := by
    intro read member
    obtain ⟨opened, inOpened, here⟩ := List.mem_flatten.mp member
    obtain ⟨bag, inBags, rfl⟩ := List.mem_map.mp inOpened
    obtain ⟨name, -, rfl⟩ := List.mem_map.mp inBags
    refine openSettings_continues ?_ here
    obtain ⟨message, found, rfl⟩ := List.mem_map.mp here
    have recorded := mem_of_mem_disk (List.mem_filter.mp found).1
    exact stamped (stamp message)
      (List.mem_toFinset.mpr (List.mem_map_of_mem recorded))
  rw [timeline_of_nonpos (lt_irrefl 0),
    played_eq_self (openSettings_refuses endTime) 0 _ continues] at whole
  rw [coreReads_eq (processed_dispatches unattended bags 0 count), whole]
  exact openBag_flatten (by simp) _

theorem overtakesNothing_of_playsInOrder
    (inOrder : recording.PlaysInOrder imuTopic pointsTopic imageTopic) :
    recording.OvertakesNothing [imuTopic, pointsTopic, imageTopic] := by
  intro earlier later less leads before after fileBefore fileAfter message inBefore
    message' inAfter topic topic'
  obtain ⟨settings, count, topics, whole⟩ :=
    recording.exists_whole_run imuTopic pointsTopic imageTopic
  have ordered := inOrder settings (fun name => [name]) recording.fileNames
    (recording.disk imuTopic pointsTopic imageTopic) 0 unattended count topics
    (by simp) storedOn_disk
  rw [whole, List.pairwise_flatMap] at ordered
  rw [← topics] at topic topic'
  obtain ⟨read, member, rfl⟩ :=
    exists_mem_fileReads storedOn_disk fileBefore inBefore topic
  obtain ⟨read', member', rfl⟩ :=
    exists_mem_fileReads storedOn_disk fileAfter inAfter topic'
  have insideBefore := recording.mem_order.mpr (List.getElem?_eq_some_iff.mp fileBefore).1
  have insideAfter := recording.mem_order.mpr (List.getElem?_eq_some_iff.mp fileAfter).1
  exact rel_of_key_lt recording.order_pairwise ordered.2 insideAfter insideBefore
    ((recording.fileName_lt_iff less).mpr leads) read' member' read member

/-! ## Recordings of every size -/

/-- With up to ten files every index is one digit, and names sort like indices. -/
theorem overtakesNothing_of_length_le_ten (few : recording.files.length ≤ 10)
    (topics : List String) : recording.OvertakesNothing topics := by
  intro earlier later less leads before after fileBefore fileAfter
  have inside := (List.getElem?_eq_some_iff.mp fileAfter).1
  have digit : Nat.log 10 later = 0 := Nat.log_of_lt (inside.trans_le few)
  rw [Numeral.leading, digit, Nat.zero_sub, Nat.pow_zero, Nat.div_one] at leads
  exact (lt_asymm less leads).elim

/-- Up to ten files are played in order. -/
theorem playsInOrder_of_length_le_ten (few : recording.files.length ≤ 10) :
    recording.PlaysInOrder imuTopic pointsTopic imageTopic :=
  playsInOrder_of_overtakesNothing (overtakesNothing_of_length_le_ten few _)

/-- A split recording is played in receive-time order exactly when no file
whose name comes too early overtakes another on the topics of the core. -/
theorem playsInOrder_iff (recording : Recording)
    (imuTopic pointsTopic imageTopic : String) :
    recording.PlaysInOrder imuTopic pointsTopic imageTopic ↔
      recording.OvertakesNothing [imuTopic, pointsTopic, imageTopic] :=
  ⟨overtakesNothing_of_playsInOrder, playsInOrder_of_overtakesNothing⟩

end Recording

/-- A recording of one IMU message a second in each of its eleven files. -/
def elevenFiles : Recording :=
  { base := "rosbag2"
    ext := "db3"
    files := (List.range 11).map fun index =>
      [{ topicName := "imu"
         recvTimestamp := 1000000000 * (index + 1)
         stampSec := index + 1
         stampNanosec := 0 }]
    inOrder := by decide }

/-- File 10 is played before file 2. -/
theorem elevenFiles_out_of_order :
    ¬ ∀ recording : Recording, recording.PlaysInOrder "imu" "points" "image" := by
  intro inOrder
  have overtakes := Recording.overtakesNothing_of_playsInOrder (inOrder elevenFiles)
    2 10 (by decide) (by decide) _ _ rfl rfl _ List.mem_cons_self _ List.mem_cons_self
    (by decide) (by decide)
  revert overtakes
  decide

end GlimRos.Rosbag
