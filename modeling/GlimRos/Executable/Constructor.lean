import GlimRos.Node.Unload
import GlimRos.Rosbag.Basic
import Mathlib.Data.List.Enum
import Mathlib.Data.List.Nodup

/-!
# The constructor of `GlimROS`

The constructor reads the configuration files, loads the stages and the
extension modules that are configured and can be loaded, and collects the
subscriptions of the modules in the order of the configuration.
-/

namespace GlimRos

open Rosbag (Subscription)

/-- `Config::param<T>(module, name)` at the types asked for here. -/
structure Config where
  paramBool : String → String → Option Bool
  paramDouble : String → String → Option Rat
  paramString : String → String → Option String
  paramStrings : String → String → Option (List String)

/-- The values given to the parameters of the ROS node. -/
structure NodeOptions where
  boolParameter : String → Option Bool
  doubleParameter : String → Option Rat
  stringParameter : String → Option String

variable {K : Type}

/-- The packages, configuration files and shared libraries of a machine. -/
structure Installation (glim : Glim K) (Module : Type) where
  /-- `none` stands for a `PackageNotFoundError`. -/
  packageShareDirectory : String → Option String
  /-- The configuration file of a name, for a given `config_path`. -/
  config : String → String → Config
  /-- The frame names that the global configuration of a `config_path` holds. -/
  metaConfig : String → MetaConfig
  newTimeKeeper : glim.TimeKeeper
  loadOdometryEstimation : String → Bool
  loadSubMapping : String → Bool
  loadGlobalMapping : String → Bool
  loadExtension : String → Option Module
  /-- The topics of `create_subscriptions`, none for a module that is no
  `ExtensionModuleROS2`. -/
  createSubscriptions : Module → List String

/-- `config_path`, relative to the `glim` package unless it starts with a
slash. -/
def resolveConfigPath (packageShareDirectory : String → Option String)
    (configPath : String) : Option String :=
  if configPath.toList.head? ≠ some '/' then
    (packageShareDirectory "glim").map fun share => share ++ "/" ++ configPath
  else some configPath

/-- A mapping stage exists if it is enabled and its library has a name and
loads. -/
def stageLoaded (enabled : Bool) (soName : String) (load : String → Bool) :
    Bool :=
  enabled && soName ≠ "" && load soName

section Extensions

variable {glim : Glim K} {Module : Type}

/-- `extension_modules` and `extension_subs`. -/
structure Extensions (Module : Type) where
  modules : List Module
  subs : List Subscription
  deriving DecidableEq, Repr

/-- The body of the loop over the configured extension modules. -/
def loadExtension (installation : Installation glim Module)
    (loaded : Extensions Module) (extension : String) : Extensions Module :=
  match installation.loadExtension extension with
  | none => loaded
  | some extModule =>
      { modules := loaded.modules ++ [extModule]
        subs := loaded.subs ++
          ((installation.createSubscriptions extModule).zipIdx
            loaded.subs.length).map fun (topic, index) => { topic, index } }

def loadExtensions (installation : Installation glim Module)
    (extensions : List String) : Extensions Module :=
  extensions.foldl (loadExtension installation)
    { modules := []
      subs := [] }

/-- A node as the constructor leaves it. -/
structure GlimRosNode (glim : Glim K) (Module : Type) where
  loaded : LoadedNode glim Module
  config : NodeConfig K
  configRos : Config
  extensionSubs : List Subscription

/-- `GlimROS::GlimROS`.  `none` is an exception or `abort()`. -/
def GlimRosNode.construct [Field K] (installation : Installation glim Module)
    (options : NodeOptions) : Option (GlimRosNode glim Module) := do
  let dumpOnUnload := (options.boolParameter "dump_on_unload").getD false
  let configPath ←
    resolveConfigPath installation.packageShareDirectory
      ((options.stringParameter "config_path").getD "config")
  let configRos := installation.config configPath "config_ros"
  let configSensors := installation.config configPath "config_sensors"
  let configOdometry := installation.config configPath "config_odometry"
  let configSubMapping := installation.config configPath "config_sub_mapping"
  let configGlobalMapping :=
    installation.config configPath "config_global_mapping"
  let seconds (name : String) : K :=
    ((configRos.paramDouble "glim_ros" name).getD 0 : Rat)
  let odometrySoName :=
    (configOdometry.paramString "odometry_estimation" "so_name").getD
      "libodometry_estimation_cpu.so"
  if !installation.loadOdometryEstimation odometrySoName then none
  let subMapping := stageLoaded
    ((configRos.paramBool "glim_ros" "enable_local_mapping").getD true)
    ((configSubMapping.paramString "sub_mapping" "so_name").getD
      "libsub_mapping.so")
    installation.loadSubMapping
  let globalMapping := stageLoaded
    ((configRos.paramBool "glim_ros" "enable_global_mapping").getD true)
    ((configGlobalMapping.paramString "global_mapping" "so_name").getD
      "libglobal_mapping.so")
    installation.loadGlobalMapping
  let extensions := loadExtensions installation
    ((configRos.paramStrings "glim_ros" "extension_modules").getD [])
  some
    { loaded :=
        { node := Node.start glim (installation.metaConfig configPath)
            (seconds "acc_scale") installation.newTimeKeeper
            subMapping globalMapping
          extensionModules := extensions.modules
          dumpOnUnload := dumpOnUnload
          dump := [] }
      config :=
        { keepRawPoints :=
            (configRos.paramBool "glim_ros" "keep_raw_points").getD false
          imuTimeOffset := seconds "imu_time_offset"
          pointsTimeOffset := seconds "points_time_offset"
          intensityField :=
            (configSensors.paramString "sensors" "intensity_field").getD
              "intensity"
          ringField :=
            (configSensors.paramString "sensors" "ring_field").getD "" }
      configRos := configRos
      extensionSubs := extensions.subs }

/-! ## The extension modules -/

section Loop

variable (installation : Installation glim Module)

/-- What the loop over the configured names has loaded behind what was loaded
before. -/
structure Extends (loaded : Extensions Module) (extensions : List String)
    (later : Extensions Module) : Prop where
  modules : later.modules =
    loaded.modules ++ extensions.filterMap installation.loadExtension
  indices : loaded.subs.map Subscription.index =
      List.range loaded.subs.length →
    later.subs.map Subscription.index = List.range later.subs.length

theorem loadExtension_extends (loaded : Extensions Module)
    (extension : String) :
    Extends installation loaded [extension]
      (loadExtension installation loaded extension) := by
  unfold loadExtension
  cases found : installation.loadExtension extension with
  | none => constructor <;> simp [found]
  | some extModule =>
      constructor
      · simp [found]
      · intro numbered
        simp only [List.map_append, numbered, List.map_map,
          Function.comp_def, List.zipIdx_map_snd, List.length_append,
          List.length_map, List.length_zipIdx, List.range_eq_range',
          ← List.range'_append_1, Nat.zero_add]

theorem loadExtensions_from (loaded : Extensions Module)
    (extensions : List String) :
    Extends installation loaded extensions
      (extensions.foldl (loadExtension installation) loaded) := by
  induction extensions generalizing loaded with
  | nil => constructor <;> simp
  | cons extension extensions induction =>
      have first := loadExtension_extends installation loaded extension
      have rest := induction (loadExtension installation loaded extension)
      have split : (extension :: extensions).filterMap
            installation.loadExtension =
          [extension].filterMap installation.loadExtension ++
            extensions.filterMap installation.loadExtension := by
        rw [← List.singleton_append, List.filterMap_append]
      constructor
      · rw [List.foldl_cons, rest.modules, first.modules, split,
          List.append_assoc]
      · exact fun numbered => rest.indices (first.indices numbered)

/-- The loaded modules, in the order of the configuration. -/
theorem loadExtensions_modules (extensions : List String) :
    (loadExtensions installation extensions).modules =
      extensions.filterMap installation.loadExtension :=
  (loadExtensions_from installation _ extensions).modules

/-- No subscription is listed twice. -/
theorem loadExtensions_nodup (extensions : List String) :
    (loadExtensions installation extensions).subs.Nodup := by
  have numbered := (loadExtensions_from installation
    { modules := [], subs := [] } extensions).indices rfl
  apply List.Nodup.of_map Subscription.index
  rw [loadExtensions, numbered]
  exact List.nodup_range

end Loop

section Construct

variable [Field K] {installation : Installation glim Module}
  {options : NodeOptions} {made : GlimRosNode glim Module}

/-- What the loading of the stages and of the modules comes to. -/
theorem GlimRosNode.construct_loads
    (constructed : GlimRosNode.construct installation options = some made) :
    ∃ metaConfig accScale subMapping globalMapping extensions,
      made.loaded =
        { node := Node.start glim metaConfig accScale
            installation.newTimeKeeper subMapping globalMapping
          extensionModules := extensions.filterMap installation.loadExtension
          dumpOnUnload := (options.boolParameter "dump_on_unload").getD false
          dump := [] } ∧
      made.extensionSubs = (loadExtensions installation extensions).subs := by
  unfold GlimRosNode.construct at constructed
  obtain ⟨configPath, _, rest⟩ := Option.bind_eq_some_iff.mp constructed
  dsimp only at rest
  split at rest
  · cases rest
  · cases rest
    rw [loadExtensions_modules]
    exact ⟨_, _, _, _, _, rfl, rfl⟩

theorem GlimRosNode.construct_nodup
    (constructed : GlimRosNode.construct installation options = some made) :
    made.extensionSubs.Nodup := by
  obtain ⟨_, _, _, _, extensions, _, subs⟩ := construct_loads constructed
  rw [subs]
  exact loadExtensions_nodup installation extensions

end Construct

end Extensions

end GlimRos
