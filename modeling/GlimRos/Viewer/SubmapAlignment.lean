import GlimRos.Viewer.MapQueue

/-!
# Submaps, poses and the published map

The task of a notification indexes the stored submaps and the poses of the
notification alike, although it stores one submap per notification.  If every
notification adds one submap this is right, and the published map is the
concatenation of the submaps of one notification.  A notification that only
updates poses shifts all later submaps by one.
-/

namespace GlimRos.Viewer

open Rigid Transition History

variable {K : Type} [CommRing K]

/-- The run saw the submaps of the notification, each at the index of its
pose. -/
structure Aligned {api : ViewerApi K} (submaps : List (SubMap K))
    (run : TaskRun api) : Prop where
  stored : run.submaps = submaps.map SubMap.frame
  pose : ∀ (index : Nat) frame, run.submaps[index]? = some frame →
    ∃ submap : SubMap K, submaps[index]? = some submap ∧
      submap.frame = frame ∧
      run.task.submapPoses[index]? = some submap.tWorldOrigin

/-- The poses of a task are those of its notification, so only the stored
submaps can be out of place. -/
theorem aligned_iff {api : ViewerApi K} {submaps : List (SubMap K)}
    {run : TaskRun api}
    (captured : MapTask.capture submaps = some run.task) :
    Aligned submaps run ↔ run.submaps = submaps.map SubMap.frame := by
  constructor
  · intro aligned
    exact aligned.stored
  · intro stored
    refine ⟨stored, ?_⟩
    intro index frame found
    rw [stored, List.getElem?_map] at found
    obtain ⟨submap, here, same⟩ := Option.map_eq_some_iff.mp found
    refine ⟨submap, here, same, ?_⟩
    rw [capture_poses captured, List.getElem?_map, here]
    rfl

/-! ## Notifications that keep or extend the submaps -/

/-- If notifications only ever update poses or append submaps, a run is
aligned with its notification exactly when every notification up to it
brought one submap: the one that came after `n` others has `n + 1`. -/
theorem submaps_aligned_iff
    (api : ViewerApi K) (config : ViewerConfig K) (ids : FrameIds)
    (metaConfig : MetaConfig) (now : Int) {viewer : RvizViewer api}
    (reachable :
      (viewerSystem api config
        (RvizViewer.start api ids metaConfig now)).Reachable viewer)
    (growing :
      (viewer.notified.map (List.map SubMap.frame)).IsChain (· <+: ·))
    (distinct : ∀ submaps ∈ viewer.notified,
      (submaps.map SubMap.frame).Nodup)
    {before after : List (TaskRun api)} {run : TaskRun api}
    (split : viewer.runs = before ++ run :: after) :
    ∃ submaps, RunOf viewer before run submaps ∧
      (Aligned submaps run ↔
        ∀ index list, index ≤ before.length →
          viewer.notified[index]? = some list →
          list.length = index + 1) := by
  obtain ⟨earlier, submaps, later, places, turn, runOf, lasts⟩ :=
    run_notification ids metaConfig now reachable split
  refine ⟨submaps, runOf, ?_⟩
  have unique := distinct submaps (List.mem_of_getElem? runOf.turn)
  rw [places, List.map_append, List.map_cons] at growing
  rw [List.map_append, List.map_singleton] at lasts
  rw [aligned_iff runOf.captured,
    newest_items_iff (related_of_isChain growing) unique lasts,
    ← List.map_singleton, ← List.map_append]
  -- up to its own place, the notifications are those that the run saw
  have seen (index : Nat) (early : index ≤ before.length) :
      viewer.notified[index]? = (earlier ++ [submaps])[index]? := by
    rw [places, List.append_cons, List.getElem?_append_left]
    rw [List.length_append, List.length_singleton]
    omega
  constructor
  · intro lengths index list early found
    have frames := lengths index (list.map SubMap.frame)
    rw [List.getElem?_map, ← seen index early, found,
      List.length_map] at frames
    exact frames rfl
  · intro lengths index frames found
    rw [List.getElem?_map] at found
    obtain ⟨list, here, rfl⟩ := Option.map_eq_some_iff.mp found
    have within := (List.getElem?_eq_some_iff.mp here).1
    have early : index ≤ before.length := by
      simp at within
      omega
    rw [List.length_map]
    exact lengths index list early ((seen index early).trans here)

/-- The viewer after a first submap, when nobody listens to the map. -/
noncomputable def mappedViewer : RvizViewer realApi :=
  afterTask realConfig realStart [submapAt 0 1 [origin]]
    (realApi.updateAnchor realStart.trajectory 0 (1 * 1))
    { latestFrame := (submapAt 0 1 [origin]).frame
      submapPoses := [1] }
    false 0

theorem mappedViewer_reachable :
    (viewerSystem realApi realConfig realStart).Reachable mappedViewer :=
  reachable_afterTask realStart_reachable rfl rfl rfl rfl
    [submapAt 0 1 [origin]] rfl false 0

/-- The viewer after a second submap, when the map is due. -/
noncomputable def grownViewer : RvizViewer realApi :=
  afterTask realConfig mappedViewer
    [submapAt 0 (shift 1) [origin], submapAt 1 1 [origin]]
    (realApi.updateAnchor mappedViewer.trajectory 0 (1 * 1))
    { latestFrame := (submapAt 1 1 [origin]).frame
      submapPoses := [shift 1, 1] }
    true 20000000000

theorem grownViewer_reachable :
    (viewerSystem realApi realConfig realStart).Reachable grownViewer :=
  reachable_afterTask mappedViewer_reachable rfl rfl rfl rfl
    [submapAt 0 (shift 1) [origin], submapAt 1 1 [origin]] rfl true
    20000000000

theorem grownViewer_growing :
    (grownViewer.notified.map (List.map SubMap.frame)).IsChain
      (· <+: ·) := by
  apply List.isChain_pair.mpr
  exact List.prefix_append _ _

theorem grownViewer_distinct :
    ∀ submaps ∈ grownViewer.notified,
      (submaps.map SubMap.frame).Nodup := by
  intro submaps member
  rcases List.mem_pair.mp member with rfl | rfl
  · exact List.nodup_singleton _
  · apply List.Nodup.cons
    · intro same
      have address := congrArg Shared.address (List.mem_singleton.mp same)
      cases address
    · exact List.nodup_singleton _

/-- Two notifications with one submap more each. -/
theorem submaps_aligned_grown :
    ∃ run, grownViewer.runs = mappedViewer.runs ++ [run] ∧
      Aligned
        [submapAt 0 (shift 1) [origin], submapAt 1 1 [origin]]
        run := by
  refine ⟨_, rfl, ?_⟩
  obtain ⟨submaps, runOf, agree⟩ :=
    submaps_aligned_iff realApi realConfig _ _ _ grownViewer_reachable
      grownViewer_growing grownViewer_distinct
      (rfl : grownViewer.runs = mappedViewer.runs ++ _ :: [])
  obtain rfl :
      [submapAt 0 (shift 1) [origin], submapAt 1 1 [origin]] =
        submaps :=
    Option.some.inj runOf.turn
  apply agree.mpr
  intro index list early found
  match index, early with
  | 0, _ =>
      cases found
      rfl
  | 1, _ =>
      cases found
      rfl

/-- After a notification that only updates a pose, the task has two submaps
and one pose, and reads past the poses. -/
theorem submaps_misaligned_after_update :
    ∃ (viewer : RvizViewer realApi) (before after : List (TaskRun realApi))
      (run : TaskRun realApi) (submaps : List (SubMap ℝ)),
      (viewerSystem realApi realConfig realStart).Reachable viewer ∧
        (viewer.notified.map (List.map SubMap.frame)).IsChain (· <+: ·) ∧
        (∀ submaps ∈ viewer.notified,
          (submaps.map SubMap.frame).Nodup) ∧
        viewer.runs = before ++ run :: after ∧
        RunOf viewer before run submaps ∧
        run.outcome = .undefined ∧ ¬ Aligned submaps run := by
  have reachable :=
    reachable_afterTask mappedViewer_reachable rfl rfl rfl rfl
      [submapAt 0 (shift 1) [origin]] rfl true 10000000000
  refine ⟨_, mappedViewer.runs, [], _, [submapAt 0 (shift 1) [origin]],
    reachable, ?_, ?_, rfl, ⟨rfl, rfl⟩, rfl, ?_⟩
  · apply List.isChain_pair.mpr
    exact List.prefix_refl _
  · intro submaps member
    rcases List.mem_pair.mp member with rfl | rfl
    · exact List.nodup_singleton _
    · exact List.nodup_singleton _
  · intro aligned
    have lengths := congrArg List.length aligned.stored
    cases lengths

/-! ## Notifications that add one submap each -/

/-- If every notification adds one submap, a published map holds the points of
all submaps of one notification, each carried by its pose there, in order and
nothing else. -/
theorem published_map_concatenated
    (api : ViewerApi K) (config : ViewerConfig K)
    (exactClouds : api.ExactClouds) (ids : FrameIds)
    (metaConfig : MetaConfig) (now : Int) {viewer : RvizViewer api}
    (reachable :
      (viewerSystem api config
        (RvizViewer.start api ids metaConfig now)).Reachable viewer)
    (grows : GrowsByOne (viewer.notified.map (List.map SubMap.frame)))
    (fits : ∀ submaps ∈ viewer.notified, sizeSum submaps < 2 ^ 31)
    {before after : List (TaskRun api)} {run : TaskRun api}
    (split : viewer.runs = before ++ run :: after) :
    ∃ submaps, RunOf viewer before run submaps ∧
      run.outcome ≠ .undefined ∧
      ∀ message, run.outcome = .published message →
        api.points message = submaps.flatMap SubMap.worldPoints ∧
        (api.points message).length = sizeSum submaps ∧
        api.headerFrameId message = config.mapFrameId := by
  obtain ⟨earlier, submaps, later, places, _, runOf, lasts⟩ :=
    run_notification ids metaConfig now reachable split
  have room := fits submaps (List.mem_of_getElem? runOf.turn)
  have runMember : run ∈ viewer.runs := by
    rw [split]
    exact List.mem_append_right _ List.mem_cons_self
  rw [places, List.map_append, List.map_cons] at grows
  rw [List.map_append, List.map_singleton, ← grows.items] at lasts
  have stored : run.submaps = submaps.map SubMap.frame :=
    List.map_injective_iff.mpr (Option.some_injective _) lasts
  have merged : mergeSubmaps api run.submaps run.task.submapPoses =
      some (submaps.flatMap SubMap.worldPoints) := by
    rw [stored, capture_poses runOf.captured]
    exact mergeSubmaps_eq api submaps room
  have merges :=
    (reachable_runsInOrder ids metaConfig now reachable).merges run runMember
  obtain ⟨defined, cloud⟩ := merges.cloud exactClouds merged
  refine ⟨submaps, runOf, defined, ?_⟩
  intro message sent
  obtain ⟨points, frameId⟩ := cloud message sent
  refine ⟨points, ?_, frameId⟩
  rw [points, flatMap_worldPoints_length]

theorem grownViewer_growsByOne :
    GrowsByOne (grownViewer.notified.map (List.map SubMap.frame)) := by
  have first : GrowsByOne [[(submapAt 0 1 [origin]).frame]] :=
    Lawful.nil.concat ⟨_, rfl⟩
  exact first.concat ⟨(submapAt 1 1 [origin]).frame, rfl⟩

theorem grownViewer_fits :
    ∀ submaps ∈ grownViewer.notified, sizeSum submaps < 2 ^ 31 := by
  intro submaps member
  rcases List.mem_pair.mp member with rfl | rfl
  · simp [submapAt, Shared.size]
  · simp [submapAt, Shared.size]

/-- The second notification's task publishes both submaps with the poses of
the second notification, although the first task published nothing. -/
theorem published_map_grown :
    ∃ run message, grownViewer.runs = mappedViewer.runs ++ [run] ∧
      run.outcome = .published message ∧
      realApi.points message = [shift 1 • origin, (1 : Isometry3d ℝ) • origin] := by
  refine ⟨_, _, rfl, rfl, ?_⟩
  obtain ⟨submaps, runOf, _, content⟩ :=
    published_map_concatenated realApi realConfig realApi_exactClouds _ _ _
      grownViewer_reachable grownViewer_growsByOne grownViewer_fits
      (rfl : grownViewer.runs = mappedViewer.runs ++ _ :: [])
  obtain rfl :
      [submapAt 0 (shift 1) [origin], submapAt 1 1 [origin]] =
        submaps :=
    Option.some.inj runOf.turn
  exact (content _ rfl).1

end GlimRos.Viewer
