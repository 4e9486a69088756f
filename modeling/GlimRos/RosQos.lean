import GlimRos.Ros
import Mathlib.Data.Option.Basic
import Mathlib.Tactic.SplitIfs

/-!
# QoS settings of a subscription

`ros_qos.cpp` picks a base profile by name, replaces what the configuration
replaces in it, and falls back on the default of the caller while nothing is
configured.  The predefined profiles, the readers of policy names and the
class `rclcpp::QoS` belong to ROS and stay parameters.
-/

namespace GlimRos

inductive HistoryPolicy where
  | systemDefault
  | keepLast
  | keepAll
  | unknown
  deriving DecidableEq, Repr

inductive ReliabilityPolicy where
  | systemDefault
  | reliable
  | bestEffort
  | unknown
  | bestAvailable
  deriving DecidableEq, Repr

inductive DurabilityPolicy where
  | systemDefault
  | transientLocal
  | volatile
  | unknown
  | bestAvailable
  deriving DecidableEq, Repr

inductive LivelinessPolicy where
  | systemDefault
  | automatic
  | manualByTopic
  | unknown
  | bestAvailable
  deriving DecidableEq, Repr

/-- `rmw_time_t`. -/
structure RmwTime where
  sec : Nat
  nsec : Nat
  deriving DecidableEq, Repr

/-- `rmw_qos_profile_t`. -/
@[ext]
structure RmwQosProfile where
  history : HistoryPolicy
  depth : Nat
  reliability : ReliabilityPolicy
  durability : DurabilityPolicy
  deadline : RmwTime
  lifespan : RmwTime
  liveliness : LivelinessPolicy
  livelinessLeaseDuration : RmwTime
  avoidRosNamespaceConventions : Bool
  deriving DecidableEq, Repr

/-- What `rmw` supplies: its predefined profiles and `rmw_qos_*_policy_from_str`. -/
structure Rmw where
  profileDefault : RmwQosProfile
  profileSystemDefault : RmwQosProfile
  profileSensorData : RmwQosProfile
  profileServicesDefault : RmwQosProfile
  profileParameters : RmwQosProfile
  profileParameterEvents : RmwQosProfile
  durabilityPolicyFromStr : String → DurabilityPolicy
  reliabilityPolicyFromStr : String → ReliabilityPolicy
  historyPolicyFromStr : String → HistoryPolicy

/-- `Config::param_nested<T>(module_path, key)` at the two types asked for here. -/
structure ConfigRos where
  paramNestedString : List String → String → Option String
  paramNestedInt : List String → String → Option Int32

/-- The bytes a C function reads of `str.c_str()`. -/
def cStr (str : String) : String :=
  String.ofList (str.toList.takeWhile (· ≠ '\x00'))

/-- The conversion of `profile.depth = depth.value()` from `int` to `size_t`. -/
def sizeOfInt (value : Int32) : Nat := value.toInt64.toUInt64.toNat

def initQosProfile (rmw : Rmw) (name : String) : Bool × RmwQosProfile :=
  if name = "default" then (true, rmw.profileDefault)
  else if name = "system_default" then (true, rmw.profileSystemDefault)
  else if name = "sensor_data" then (true, rmw.profileSensorData)
  else if name = "services_default" then (true, rmw.profileServicesDefault)
  else if name = "parameters" then (true, rmw.profileParameters)
  else if name = "parameter_events" then (true, rmw.profileParameterEvents)
  else (false, rmw.profileDefault)

/-- The local variables `profile` and `is_configured` of `get_qos`. -/
@[ext]
structure QosDraft where
  profile : RmwQosProfile
  isConfigured : Bool
  deriving DecidableEq, Repr

namespace QosDraft

def overrideDepth (depth : Option Int32) (draft : QosDraft) : QosDraft :=
  match depth with
  | none => draft
  | some value =>
      { profile := { draft.profile with depth := sizeOfInt value }
        isConfigured := true }

/-- One block `if (str.has_value())`; `assign` stores the policy in its field. -/
def overridePolicy {Policy : Type} [DecidableEq Policy]
    (fromStr : String → Policy) (unknown : Policy)
    (assign : Policy → RmwQosProfile → RmwQosProfile)
    (str : Option String) (draft : QosDraft) : QosDraft :=
  match str with
  | none => draft
  | some text =>
      -- An unknown policy is only warned about: the flag keeps its value too.
      if fromStr (cStr text) = unknown then draft
      else
        { profile := assign (fromStr (cStr text)) draft.profile
          isConfigured := true }

def overrideDurability (rmw : Rmw) : Option String → QosDraft → QosDraft :=
  overridePolicy rmw.durabilityPolicyFromStr .unknown
    (fun value profile => { profile with durability := value })

def overrideReliability (rmw : Rmw) : Option String → QosDraft → QosDraft :=
  overridePolicy rmw.reliabilityPolicyFromStr .unknown
    (fun value profile => { profile with reliability := value })

def overrideHistory (rmw : Rmw) : Option String → QosDraft → QosDraft :=
  overridePolicy rmw.historyPolicyFromStr .unknown
    (fun value profile => { profile with history := value })

end QosDraft

/-- The result of `get_qos` and its two output parameters. -/
structure QosResult (Q : Type) where
  isConfigured : Bool
  profileName : String
  qos : Q

section

variable {Q : Type} (rmw : Rmw) (fromRmw : RmwQosProfile → Q)

/-- `fromRmw p` is `rclcpp::QoS(rclcpp::QoSInitialization::from_rmw(p), p)`. -/
def getQos (configRos : ConfigRos) (moduleName paramName : String) : QosResult Q :=
  let modulePath := [moduleName, paramName]
  let profileParam := configRos.paramNestedString modulePath "profile"
  let profileName := profileParam.getD "sensor_data"
  let named : QosDraft :=
    { profile := (initQosProfile rmw profileName).2
      isConfigured := profileParam.isSome }
  let deep := named.overrideDepth (configRos.paramNestedInt modulePath "depth")
  let durable :=
    deep.overrideDurability rmw (configRos.paramNestedString modulePath "durability")
  let reliable :=
    durable.overrideReliability rmw
      (configRos.paramNestedString modulePath "reliability")
  let final :=
    reliable.overrideHistory rmw (configRos.paramNestedString modulePath "history")
  { isConfigured := final.isConfigured
    profileName := profileName
    qos := fromRmw final.profile }

def getQosSettings (configRos : ConfigRos) (moduleName paramName : String)
    (defaultQos : Option Q) : Q :=
  let result := getQos rmw fromRmw configRos moduleName paramName
  if !result.isConfigured && defaultQos.isSome then
    defaultQos.getD result.qos
  else
    result.qos

/-- The subscription of `imu_topic`; its default has a queue of 1000 messages. -/
def imuQos (configRos : ConfigRos) (defaultImuQos : Q) : Q :=
  getQosSettings rmw fromRmw configRos "glim_ros" "imu_qos" (some defaultImuQos)

end

/-! ## What the entries of a parameter say -/

/-- The entries that hold the name of a policy. -/
inductive PolicyEntry where
  | durability
  | reliability
  | history
  deriving DecidableEq, Repr

def PolicyEntry.key : PolicyEntry → String
  | .durability => "durability"
  | .reliability => "reliability"
  | .history => "history"

/-- The readers of `rmw` answer `UNKNOWN` exactly on the names they do not recognise. -/
structure Rmw.Reads (rmw : Rmw) (recognises : PolicyEntry → String → Bool) : Prop where
  durability : ∀ name,
    rmw.durabilityPolicyFromStr name = .unknown ↔ recognises .durability name = false
  reliability : ∀ name,
    rmw.reliabilityPolicyFromStr name = .unknown ↔ recognises .reliability name = false
  history : ∀ name,
    rmw.historyPolicyFromStr name = .unknown ↔ recognises .history name = false

/-- The configuration with one string entry set, or left out. -/
def ConfigRos.withString (configRos : ConfigRos) (path : List String) (key : String)
    (value : Option String) : ConfigRos :=
  { configRos with
    paramNestedString := fun path' key' =>
      if path' = path ∧ key' = key then value
      else configRos.paramNestedString path' key' }

/-- The entries of one QoS parameter, without the unrecognised policies. -/
@[ext]
structure QosEntries where
  profile : Option String
  depth : Option Nat
  durability : Option DurabilityPolicy
  reliability : Option ReliabilityPolicy
  history : Option HistoryPolicy
  deriving DecidableEq, Repr

def recognisedPolicy {Policy : Type} (fromStr : String → Policy)
    (recognises : String → Bool) (str : Option String) : Option Policy :=
  (str.filter fun text => recognises (cStr text)).map fun text => fromStr (cStr text)

def ConfigRos.entries (configRos : ConfigRos) (rmw : Rmw)
    (recognises : PolicyEntry → String → Bool) (path : List String) : QosEntries :=
  { profile := configRos.paramNestedString path "profile"
    depth := (configRos.paramNestedInt path "depth").map fun depth => depth.toInt.toNat
    durability := recognisedPolicy rmw.durabilityPolicyFromStr (recognises .durability)
      (configRos.paramNestedString path "durability")
    reliability := recognisedPolicy rmw.reliabilityPolicyFromStr (recognises .reliability)
      (configRos.paramNestedString path "reliability")
    history := recognisedPolicy rmw.historyPolicyFromStr (recognises .history)
      (configRos.paramNestedString path "history") }

/-- The names a configuration may give to a base profile. -/
def Rmw.namedProfiles (rmw : Rmw) : List (String × RmwQosProfile) :=
  [("default", rmw.profileDefault),
    ("system_default", rmw.profileSystemDefault),
    ("sensor_data", rmw.profileSensorData),
    ("services_default", rmw.profileServicesDefault),
    ("parameters", rmw.profileParameters),
    ("parameter_events", rmw.profileParameterEvents)]

namespace QosEntries

/-- No entry is left: nothing configures the parameter. -/
def isEmpty (entries : QosEntries) : Bool :=
  !(entries.profile.isSome || entries.depth.isSome || entries.durability.isSome ||
    entries.reliability.isSome || entries.history.isSome)

def base (entries : QosEntries) (rmw : Rmw) : RmwQosProfile :=
  match entries.profile with
  | none => rmw.profileSensorData
  | some name => (rmw.namedProfiles.lookup name).getD rmw.profileDefault

def replacedIn (entries : QosEntries) (base : RmwQosProfile) : RmwQosProfile :=
  { base with
    depth := entries.depth.getD base.depth
    durability := entries.durability.getD base.durability
    reliability := entries.reliability.getD base.reliability
    history := entries.history.getD base.history }

/-- The QoS that a set of entries stands for, beside the default of the caller. -/
def settle {Q : Type} (entries : QosEntries) (rmw : Rmw) (fromRmw : RmwQosProfile → Q)
    (defaultQos : Option Q) : Q :=
  if entries.isEmpty then defaultQos.getD (fromRmw rmw.profileSensorData)
  else fromRmw (entries.replacedIn (entries.base rmw))

end QosEntries

theorem sizeOfInt_of_nonneg {value : Int32} (nonneg : 0 ≤ value.toInt) :
    sizeOfInt value = value.toInt.toNat := by
  have wide : 0 ≤ value.toInt64 := by
    rw [Int64.le_iff_toInt_le, Int32.toInt_toInt64]
    exact nonneg
  unfold sizeOfInt
  rw [Int64.toNat_toUInt64_of_le wide, Int64.toNatClampNeg, Int32.toInt_toInt64]

theorem lookup_cons_eq_ite {Value : Type} (key name : String) (value : Value)
    (rows : List (String × Value)) :
    ((key, value) :: rows).lookup name =
      if name = key then some value else rows.lookup name := by
  rw [List.lookup_cons]
  by_cases same : name = key
  · rw [if_pos same, beq_iff_eq.mpr same]
  · rw [if_neg same, beq_eq_false_iff_ne.mpr same]

/-- The chain of comparisons is a table with a default. -/
theorem initQosProfile_snd (rmw : Rmw) (name : String) :
    (initQosProfile rmw name).2 =
      (rmw.namedProfiles.lookup name).getD rmw.profileDefault := by
  unfold initQosProfile Rmw.namedProfiles
  simp only [lookup_cons_eq_ite]
  split_ifs <;> rfl

@[simp]
theorem recognisedPolicy_none {Policy : Type} (fromStr : String → Policy)
    (recognises : String → Bool) : recognisedPolicy fromStr recognises none = none :=
  rfl

@[simp]
theorem recognisedPolicy_some {Policy : Type} (fromStr : String → Policy)
    (recognises : String → Bool) (text : String) :
    recognisedPolicy fromStr recognises (some text) =
      if recognises (cStr text) then some (fromStr (cStr text)) else none := by
  cases known : recognises (cStr text) <;> simp [recognisedPolicy, known]

theorem QosEntries.replacedIn_base_of_isEmpty (entries : QosEntries) (rmw : Rmw)
    (empty : entries.isEmpty = true) :
    entries.replacedIn (entries.base rmw) = rmw.profileSensorData := by
  obtain ⟨profile, depth, durability, reliability, history⟩ := entries
  simp only [isEmpty, Bool.not_eq_true', Bool.or_eq_false_iff, Option.isSome_eq_false_iff,
    Option.isNone_iff_eq_none] at empty
  obtain ⟨⟨⟨⟨rfl, rfl⟩, rfl⟩, rfl⟩, rfl⟩ := empty
  rfl

/-- The entries do not tell an unrecognised policy from one that is left out. -/
theorem ConfigRos.entries_withString_unrecognised (configRos : ConfigRos) (rmw : Rmw)
    {recognises : PolicyEntry → String → Bool} (path : List String) (entry : PolicyEntry)
    {text : String} (unrecognised : recognises entry (cStr text) = false) :
    (configRos.withString path entry.key (some text)).entries rmw recognises path =
      (configRos.withString path entry.key none).entries rmw recognises path := by
  cases entry with
  | durability => simp [entries, withString, PolicyEntry.key, unrecognised]
  | reliability => simp [entries, withString, PolicyEntry.key, unrecognised]
  | history => simp [entries, withString, PolicyEntry.key, unrecognised]

namespace QosDraft

theorem overrideDepth_eq (depth : Option Int32) (draft : QosDraft)
    (nonneg : ∀ value, depth = some value → 0 ≤ value.toInt) :
    draft.overrideDepth depth =
      { profile :=
          { draft.profile with
            depth := (depth.map fun value => value.toInt.toNat).getD draft.profile.depth }
        isConfigured := draft.isConfigured || depth.isSome } := by
  cases depth with
  | none => simp [overrideDepth]
  | some value =>
      have converted := sizeOfInt_of_nonneg (nonneg value rfl)
      simp [overrideDepth, converted]

/--
An override assigns the recognised policy if there is one, and sets the flag
then only.  Assigning what `read` returns changes nothing.
-/
theorem overridePolicy_eq {Policy : Type} [DecidableEq Policy] {fromStr : String → Policy}
    {unknown : Policy} {recognises : String → Bool}
    (assign : Policy → RmwQosProfile → RmwQosProfile) (read : RmwQosProfile → Policy)
    (reads : ∀ name, fromStr name = unknown ↔ recognises name = false)
    (assign_read : ∀ profile, assign (read profile) profile = profile)
    (str : Option String) (draft : QosDraft) :
    draft.overridePolicy fromStr unknown assign str =
      { profile :=
          assign ((recognisedPolicy fromStr recognises str).getD (read draft.profile))
            draft.profile
        isConfigured :=
          draft.isConfigured || (recognisedPolicy fromStr recognises str).isSome } := by
  cases str with
  | none => simp [overridePolicy, assign_read]
  | some text =>
      by_cases skipped : fromStr (cStr text) = unknown
      · have ignored := (reads _).mp skipped
        simp [overridePolicy, skipped, ignored, assign_read]
      · have known : recognises (cStr text) = true := by
          apply Bool.of_not_eq_false
          intro ignored
          exact skipped ((reads _).mpr ignored)
        simp [overridePolicy, skipped, known]

end QosDraft

section

variable {Q : Type} {rmw : Rmw} {recognises : PolicyEntry → String → Bool}
variable (fromRmw : RmwQosProfile → Q) (configRos : ConfigRos)
variable (moduleName paramName : String)

/-- The mutable profile and flag of `get_qos` against the entries they come from. -/
theorem getQos_eq (reads : rmw.Reads recognises)
    (nonneg : ∀ depth,
      configRos.paramNestedInt [moduleName, paramName] "depth" = some depth →
        0 ≤ depth.toInt) :
    let entries := configRos.entries rmw recognises [moduleName, paramName]
    let result := getQos rmw fromRmw configRos moduleName paramName
    result.isConfigured = !entries.isEmpty ∧
      result.qos = fromRmw (entries.replacedIn (entries.base rmw)) := by
  intro entries result
  have named :
      (initQosProfile rmw (entries.profile.getD "sensor_data")).2 = entries.base rmw := by
    rw [initQosProfile_snd]
    unfold QosEntries.base
    cases entries.profile with
    | none => rfl
    | some name => rfl
  have durability := QosDraft.overridePolicy_eq
    (fun value profile => { profile with durability := value })
    RmwQosProfile.durability reads.durability (fun _ => rfl)
  have reliability := QosDraft.overridePolicy_eq
    (fun value profile => { profile with reliability := value })
    RmwQosProfile.reliability reads.reliability (fun _ => rfl)
  have history := QosDraft.overridePolicy_eq
    (fun value profile => { profile with history := value })
    RmwQosProfile.history reads.history (fun _ => rfl)
  simp only [result, getQos, QosDraft.overrideDepth_eq _ _ nonneg,
    QosDraft.overrideDurability, durability, QosDraft.overrideReliability, reliability,
    QosDraft.overrideHistory, history]
  constructor
  · simp [entries, ConfigRos.entries, QosEntries.isEmpty]
  · simp only [entries, ConfigRos.entries] at named
    rw [named]
    rfl

/-- `get_qos_settings` returns what the entries it reads stand for. -/
theorem getQosSettings_eq_settle (reads : rmw.Reads recognises)
    (nonneg : ∀ depth,
      configRos.paramNestedInt [moduleName, paramName] "depth" = some depth →
        0 ≤ depth.toInt)
    (defaultQos : Option Q) :
    getQosSettings rmw fromRmw configRos moduleName paramName defaultQos =
      (configRos.entries rmw recognises [moduleName, paramName]).settle rmw fromRmw
        defaultQos := by
  obtain ⟨configured, qos⟩ :=
    getQos_eq fromRmw configRos moduleName paramName reads nonneg
  unfold getQosSettings QosEntries.settle
  simp only [configured, qos, Bool.not_not]
  cases empty : (configRos.entries rmw recognises [moduleName, paramName]).isEmpty with
  | false => simp
  | true =>
      cases defaultQos with
      | none => simp [QosEntries.replacedIn_base_of_isEmpty _ rmw empty]
      | some default => simp

/--
The settings of a parameter: unrecognised policies count for nothing, the
remaining entries replace exactly their fields of the base profile, and the
default of the caller stands when no entry remains.
-/
theorem get_qos_settings_settles (reads : rmw.Reads recognises)
    (nonneg : ∀ depth,
      configRos.paramNestedInt [moduleName, paramName] "depth" = some depth →
        0 ≤ depth.toInt)
    (defaultQos : Option Q) :
    let path := [moduleName, paramName]
    let entries := configRos.entries rmw recognises path
    let settings := fun config => getQosSettings rmw fromRmw config moduleName paramName
    (∀ (entry : PolicyEntry) (text : String), recognises entry (cStr text) = false →
        settings (configRos.withString path entry.key (some text)) defaultQos =
          settings (configRos.withString path entry.key none) defaultQos) ∧
      (entries.isEmpty = false →
        settings configRos defaultQos =
          fromRmw (entries.replacedIn (entries.base rmw))) ∧
      (entries.isEmpty = true →
        settings configRos defaultQos =
          defaultQos.getD (fromRmw rmw.profileSensorData)) := by
  intro path entries settings
  have settled := fun config nonneg => getQosSettings_eq_settle fromRmw config moduleName
    paramName reads nonneg defaultQos
  refine ⟨?_, ?_, ?_⟩
  · intro entry text unrecognised
    have same := configRos.entries_withString_unrecognised rmw path entry unrecognised
    change getQosSettings .. = getQosSettings ..
    rw [settled (configRos.withString path entry.key (some text)) nonneg,
      settled (configRos.withString path entry.key none) nonneg, same]
  · intro left
    change getQosSettings .. = _
    rw [settled configRos nonneg, QosEntries.settle, left]
    rfl
  · intro empty
    change getQosSettings .. = _
    rw [settled configRos nonneg, QosEntries.settle, empty]
    rfl

end

/-! ### A configured IMU subscription -/

section

variable {Policy : Type} (table : List (String × Policy)) (unknown : Policy)

/-- A reader of policy names: a table, and `unknown` for every other name. -/
def policyFromStr (name : String) : Policy := (table.lookup name).getD unknown

theorem policyFromStr_eq_unknown_iff (fresh : ∀ row ∈ table, row.2 ≠ unknown)
    (name : String) :
    policyFromStr table unknown name = unknown ↔
      (table.lookup name).isSome = false := by
  unfold policyFromStr
  cases found : table.lookup name with
  | none => simp
  | some policy =>
      obtain ⟨before, after, split, -⟩ := List.lookup_eq_some_iff.mp found
      have listed : (name, policy) ∈ table := by simp [split]
      have known := fresh _ listed
      simp [known]

end

def sampleDurabilities : List (String × DurabilityPolicy) :=
  [("system_default", .systemDefault), ("transient_local", .transientLocal),
    ("volatile", .volatile)]

def sampleReliabilities : List (String × ReliabilityPolicy) :=
  [("system_default", .systemDefault), ("reliable", .reliable),
    ("best_effort", .bestEffort)]

def sampleHistories : List (String × HistoryPolicy) :=
  [("system_default", .systemDefault), ("keep_last", .keepLast), ("keep_all", .keepAll)]

def sampleRecognises : PolicyEntry → String → Bool
  | .durability, name => (sampleDurabilities.lookup name).isSome
  | .reliability, name => (sampleReliabilities.lookup name).isSome
  | .history, name => (sampleHistories.lookup name).isSome

def sampleProfile (depth : Nat) (reliability : ReliabilityPolicy) : RmwQosProfile :=
  { history := .keepLast
    depth := depth
    reliability := reliability
    durability := .volatile
    deadline := ⟨0, 0⟩
    lifespan := ⟨0, 0⟩
    liveliness := .systemDefault
    livelinessLeaseDuration := ⟨0, 0⟩
    avoidRosNamespaceConventions := false }

/-- The predefined profiles and policy names as `rmw` documents them. -/
def sampleRmw : Rmw :=
  { profileDefault := sampleProfile 10 .reliable
    profileSystemDefault :=
      { sampleProfile 0 .systemDefault with
        history := .systemDefault
        durability := .systemDefault }
    profileSensorData := sampleProfile 5 .bestEffort
    profileServicesDefault := sampleProfile 10 .reliable
    profileParameters := sampleProfile 1000 .reliable
    profileParameterEvents := sampleProfile 1000 .reliable
    durabilityPolicyFromStr := policyFromStr sampleDurabilities .unknown
    reliabilityPolicyFromStr := policyFromStr sampleReliabilities .unknown
    historyPolicyFromStr := policyFromStr sampleHistories .unknown }

theorem sampleRmw_reads : sampleRmw.Reads sampleRecognises :=
  { durability :=
      policyFromStr_eq_unknown_iff sampleDurabilities .unknown (by decide)
    reliability :=
      policyFromStr_eq_unknown_iff sampleReliabilities .unknown (by decide)
    history := policyFromStr_eq_unknown_iff sampleHistories .unknown (by decide) }

/-- `rclcpp::QoS(rclcpp::QoSInitialization::from_rmw(p), p)`, as the profile it holds. -/
def sampleFromRmw (profile : RmwQosProfile) : RmwQosProfile :=
  match profile.history with
  | .keepAll => { profile with depth := 0 }
  | _ => { profile with history := .keepLast }

/-- An `imu_qos` with a depth, a reliability and a misspelt durability. -/
def sampleConfigRos : ConfigRos :=
  { paramNestedString := fun path key =>
      if path = ["glim_ros", "imu_qos"] then
        [("reliability", "reliable"), ("durability", "persistent")].lookup key
      else none
    paramNestedInt := fun path key =>
      if path = ["glim_ros", "imu_qos"] ∧ key = "depth" then some 200 else none }

theorem get_qos_settings_settles_imu :
    imuQos sampleRmw sampleFromRmw sampleConfigRos (sampleProfile 1000 .bestEffort) =
      sampleProfile 200 .reliable := by
  have depths : ∀ depth,
      sampleConfigRos.paramNestedInt ["glim_ros", "imu_qos"] "depth" = some depth →
        0 ≤ depth.toInt := by
    rintro depth ⟨⟩
    decide
  have settled := (get_qos_settings_settles sampleFromRmw sampleConfigRos "glim_ros"
    "imu_qos" sampleRmw_reads depths (some (sampleProfile 1000 .bestEffort))).2.1
  exact settled (by decide)

end GlimRos
