import GlimRos.Viewer.Consistency

/-!
# The frame names are resolved once

A name is configured, detected or built in.  The base frame has two
fallbacks, one in the constructor and one at the first frame; both lead to
the name of the IMU frame.  From the first frame on no name changes, so a
run of the viewer has one set of names.
-/

namespace GlimRos.Viewer

open Transition

namespace FrameIds

/-- All three names are set. -/
structure Named (ids : FrameIds) : Prop where
  imu : ids.imu ≠ ""
  lidar : ids.lidar ≠ ""
  base : ids.base ≠ ""

/-- A configured name is the name in use. -/
structure Keeps (ids : FrameIds) (imu lidar base : String) : Prop where
  keepsImu : imu ≠ "" → ids.imu = imu
  keepsLidar : lidar ≠ "" → ids.lidar = lidar
  keepsBase : base ≠ "" → ids.base = base
  /-- Without a configured base frame the IMU is the base. -/
  unconfigured : base = "" → ids.base = ids.imu

variable {ids : FrameIds} {imu lidar base : String}

theorem resolve_of_named {frameId : String} (named : frameId ≠ "")
    (detected : Option String) (default : String) :
    resolve frameId detected default = frameId :=
  if_neg named

theorem resolve_ne_empty {default : String} (builtIn : default ≠ "")
    (frameId : String) (detected : Option String) :
    resolve frameId detected default ≠ "" := by
  unfold resolve
  split_ifs with unset undetected
  · exact builtIn
  · exact undetected
  · exact unset

theorem resolved_named (ids : FrameIds) (metaConfig : MetaConfig) :
    (ids.resolved metaConfig).Named := by
  have imuNamed : (ids.resolved metaConfig).imu ≠ "" :=
    resolve_ne_empty (by decide) _ _
  refine ⟨imuNamed, resolve_ne_empty (by decide) _ _, ?_⟩
  by_cases unset : ids.base = ""
  · simpa [resolved, unset] using imuNamed
  · simp [resolved, unset]

/-- Names that are set are not resolved again. -/
theorem Named.resolved_eq (named : ids.Named) (metaConfig : MetaConfig) :
    ids.resolved metaConfig = ids := by
  simp only [resolved, resolve_of_named named.imu,
    resolve_of_named named.lidar, if_neg named.base]

theorem configured_keeps (imu lidar base : String) :
    (configured imu lidar base).Keeps imu lidar base where
  keepsImu _ := rfl
  keepsLidar _ := rfl
  keepsBase set := if_neg set
  unconfigured unset := if_pos unset

/-- Resolving fills gaps only.  If the base frame follows the IMU, it still
does: either both are unset and get one name, or both stay. -/
theorem Keeps.resolved (keeps : ids.Keeps imu lidar base)
    (metaConfig : MetaConfig) :
    (ids.resolved metaConfig).Keeps imu lidar base where
  keepsImu set := by
    have named : ids.imu ≠ "" := (keeps.keepsImu set).symm ▸ set
    exact (resolve_of_named named _ _).trans (keeps.keepsImu set)
  keepsLidar set := by
    have named : ids.lidar ≠ "" := (keeps.keepsLidar set).symm ▸ set
    exact (resolve_of_named named _ _).trans (keeps.keepsLidar set)
  keepsBase set := by
    have named : ids.base ≠ "" := (keeps.keepsBase set).symm ▸ set
    exact (if_neg named).trans (keeps.keepsBase set)
  unconfigured unset := by
    have follows := keeps.unconfigured unset
    by_cases named : ids.imu = ""
    · have unnamed : ids.base = "" := follows.trans named
      exact if_pos unnamed
    · have baseNamed : ids.base ≠ "" := follows.symm ▸ named
      calc
        (ids.resolved metaConfig).base = ids.base := if_neg baseNamed
        _ = ids.imu := follows
        _ = (ids.resolved metaConfig).imu :=
          (resolve_of_named named _ _).symm

end FrameIds

/-! ## Every run -/

variable {K : Type} [CommRing K] {api : ViewerApi K}
  {config : ViewerConfig K}

/-- `odometry_new_frame` has been entered at least once. -/
def RvizViewer.Called (viewer : RvizViewer api) : Prop :=
  viewer.odometryPc ≠ .idle ∨ viewer.published ≠ []

/-- What is known about the names of a viewer with given configured names. -/
structure NamesFrames (config : ViewerConfig K) (imu lidar base : String)
    (viewer : RvizViewer api) : Prop where
  keeps : viewer.ids.Keeps imu lidar base
  named : viewer.Called → viewer.ids.Named
  published : ∀ batch ∈ viewer.published,
    batch.ids = viewer.ids ∧
      batch.outputs =
        publish api config batch.ids batch.call batch.snapshot
          batch.subscribed batch.lookup

variable {imu lidar base : String} {viewer next : RvizViewer api}

/-- Once the names are set, no step changes one. -/
theorem named_step (named : viewer.ids.Named)
    (step : ViewerStep api config viewer next) :
    next.ids.Named ∧ next.ids = viewer.ids := by
  have same : next.ids = viewer.ids := by
    cases step with
    | newFrame call pc => exact named.resolved_eq _
    | _ => rfl
  exact ⟨same.symm ▸ named, same⟩

theorem NamesFrames.step (names : NamesFrames config imu lidar base viewer)
    (step : ViewerStep api config viewer next) :
    NamesFrames config imu lidar base next := by
  obtain ⟨keeps, named, published⟩ := names
  cases step with
  | newFrame call pc =>
      refine ⟨keeps.resolved _, fun _ => viewer.ids.resolved_named _, ?_⟩
      intro batch member
      -- a batch of an earlier call carries names that are set already
      have called : viewer.Called := .inr (List.ne_nil_of_mem member)
      rw [(named called).resolved_eq]
      exact published batch member
  | lock pc =>
      have called : viewer.Called := .inl (by rw [pc]; nofun)
      exact ⟨keeps, fun _ => named called, published⟩
  | publish pc subscribed lookup =>
      have called : viewer.Called := .inl (by rw [pc]; nofun)
      refine ⟨keeps, fun _ => named called, ?_⟩
      intro batch member
      rcases List.mem_append.mp member with earlier | last
      · exact published batch earlier
      · cases List.mem_singleton.mp last
        exact ⟨rfl, rfl⟩
  | detect metaConfig => exact ⟨keeps, named, published⟩
  | notify submaps pc captured => exact ⟨keeps, named, published⟩
  | invoke pc => exact ⟨keeps, named, published⟩
  | spinOnce running finished => exact ⟨keeps, named, published⟩
  | runTask running taken subscribed now result =>
      exact ⟨keeps, named, published⟩

theorem reachable_namesFrames (imu lidar base : String)
    (metaConfig : MetaConfig) (now : Int)
    (reachable :
      (viewerSystem api config
        (RvizViewer.start api (FrameIds.configured imu lidar base)
          metaConfig now)).Reachable viewer) :
    NamesFrames config imu lidar base viewer := by
  apply reachable.invariant (NamesFrames config imu lidar base)
  · intro state init
    cases init
    refine ⟨FrameIds.configured_keeps imu lidar base, ?_, ?_⟩
    · rintro (called | called)
      · exact (called rfl).elim
      · exact (called rfl).elim
    · intro batch member
      cases member
  · intro state next _ names step
    exact names.step step

/-- A base frame that is the IMU needs no lookup. -/
theorem publish_of_base {ids : FrameIds} (base : ids.base = ids.imu)
    (call : Call K) (snapshot : Snapshot K) (subscribed : Publisher → Bool)
    (lookup other : String → String → Time → Option (TransformStamped K)) :
    publish api config ids call snapshot subscribed lookup =
      publish api config ids call snapshot subscribed other := by
  simp only [publish, broadcastTransforms, odomToBase, if_pos base]

/-- In every run, once `odometry_new_frame` has been entered the three names
are set and stay as they are, whatever is detected later.  A configured name
is always the one in use.  Without a configured base frame, everything is
published with the IMU as base frame and without a lookup. -/
theorem frame_ids_fixed (api : ViewerApi K) (config : ViewerConfig K)
    (imu lidar base : String) (metaConfig : MetaConfig) (now : Int)
    {viewer : RvizViewer api}
    (reachable :
      (viewerSystem api config
        (RvizViewer.start api (FrameIds.configured imu lidar base)
          metaConfig now)).Reachable viewer) :
    (viewer.Called →
      viewer.ids.Named ∧
        (∀ later,
          (viewerSystem api config
            (RvizViewer.start api (FrameIds.configured imu lidar base)
              metaConfig now)).Steps viewer later →
          later.ids = viewer.ids) ∧
        ∀ batch ∈ viewer.published, batch.ids = viewer.ids) ∧
      ((imu ≠ "" → viewer.ids.imu = imu) ∧
        (lidar ≠ "" → viewer.ids.lidar = lidar) ∧
        (base ≠ "" → viewer.ids.base = base)) ∧
      (base = "" → ∀ batch ∈ viewer.published,
        batch.ids.base = batch.ids.imu ∧
          ∀ lookup, batch.outputs =
            publish api config batch.ids batch.call batch.snapshot
              batch.subscribed lookup) := by
  obtain ⟨keeps, named, published⟩ :=
    reachable_namesFrames imu lidar base metaConfig now reachable
  refine ⟨fun called => ⟨named called, ?_, ?_⟩,
    ⟨keeps.keepsImu, keeps.keepsLidar, keeps.keepsBase⟩, ?_⟩
  · intro later steps
    have fixed : ∀ state next : RvizViewer api, state.ids.Named →
        ViewerStep api config state next →
        next.ids.Named ∧ next.ids = state.ids :=
      fun _ _ named step => named_step named step
    exact steps.constant RvizViewer.ids fixed (named called)
  · intro batch member
    exact (published batch member).1
  · intro unset batch member
    obtain ⟨ids, outputs⟩ := published batch member
    have follows : batch.ids.base = batch.ids.imu := by
      rw [ids]
      exact keeps.unconfigured unset
    refine ⟨follows, fun lookup => ?_⟩
    rw [outputs]
    exact publish_of_base follows _ _ _ _ _

/-- The IMU frame is detected before the first frame, and another name comes
in while the frame is processed. -/
theorem frame_ids_fixed_detected :
    ∃ viewer : RvizViewer realApi,
      viewer.metaConfig.imuFrameId = some "other_imu" ∧
        viewer.ids =
          { imu := "livox_imu", lidar := "lidar", base := "livox_imu" } ∧
        ∀ batch ∈ viewer.published, batch.ids.base = batch.ids.imu := by
  have detected := realStart_reachable.step
    (ViewerStep.detect
      { imuFrameId := some "livox_imu"
        lidarFrameId := none
        imageFrame := none })
  have called := detected.step (ViewerStep.newFrame (scan 0 1) rfl)
  have changed := called.step
    (ViewerStep.detect
      { imuFrameId := some "other_imu"
        lidarFrameId := none
        imageFrame := none })
  have locked := changed.step (ViewerStep.lock rfl)
  have published := locked.step
    (ViewerStep.publish rfl (fun _ => true) (fun _ _ _ => none))
  obtain ⟨_, _, follows⟩ :=
    frame_ids_fixed realApi realConfig "" "" "" _ _ published
  exact ⟨_, rfl, by decide, fun batch member =>
    (follows rfl batch member).1⟩

end GlimRos.Viewer
