import GlimRos.Viewer.MapQueue

/-!
# The callbacks of the viewer as if one came after the other

Each callback touches the trajectory once, while it holds `trajectory_mutex`.
In the order of these moments the callbacks can be run one at a time, by a
viewer without threads: it reads the same poses and captures the same tasks.
-/

namespace GlimRos.Viewer

open Rigid Transition

variable {K : Type} [CommRing K]

/-- A callback that runs from its beginning to its end. -/
inductive SerialCall (K : Type) [CommRing K] where
  | newFrame (call : Call K)
  | updateSubmaps (submaps : List (SubMap K))

/-- A viewer without threads, with what its callbacks have read and captured. -/
structure SerialViewer (api : ViewerApi K) where
  trajectory : api.TrajectoryManager
  /-- The frames, each with the poses that it was published with. -/
  snapshots : List (Call K × Snapshot K)
  /-- The notifications, each with the task that it invoked. -/
  tasks : List (List (SubMap K) × MapTask K)

namespace SerialViewer

def start (api : ViewerApi K) : SerialViewer api :=
  { trajectory := api.newTrajectory
    snapshots := []
    tasks := [] }

variable {api : ViewerApi K}

/-- The effect of one callback.  `none` stands for a notification that is
undefined behaviour. -/
def perform (serial : SerialViewer api) :
    SerialCall K → Option (SerialViewer api)
  | .newFrame call =>
      let taken := takeSnapshot api call.frame serial.trajectory
      some
        { serial with
          trajectory := taken.1
          snapshots := serial.snapshots ++ [(call, taken.2)] }
  | .updateSubmaps submaps =>
      (globalmapOnUpdateSubmaps api submaps serial.trajectory).map
        fun updated =>
          { serial with
            trajectory := updated.1
            tasks := serial.tasks ++ [(submaps, updated.2)] }

theorem perform_updateSubmaps {serial : SerialViewer api}
    {submaps : List (SubMap K)} {trajectory : api.TrajectoryManager}
    {task : MapTask K}
    (captured :
      globalmapOnUpdateSubmaps api submaps serial.trajectory =
        some (trajectory, task)) :
    serial.perform (.updateSubmaps submaps) =
      some
        { serial with
          trajectory := trajectory
          tasks := serial.tasks ++ [(submaps, task)] } := by
  rw [perform, captured]
  rfl

/-- One callback after the other, from the start. -/
def performAll (api : ViewerApi K) (calls : List (SerialCall K)) :
    Option (SerialViewer api) :=
  calls.foldlM perform (start api)

theorem performAll_concat (calls : List (SerialCall K))
    (call : SerialCall K) :
    performAll api (calls ++ [call]) =
      (performAll api calls).bind fun serial => serial.perform call := by
  simp only [performAll, List.foldlM_append, List.foldlM_cons,
    List.foldlM_nil, bind_pure]
  rfl

end SerialViewer

variable {api : ViewerApi K} {config : ViewerConfig K}

/-- The frame that the odometry thread is publishing. -/
def OdometryPc.taken : OdometryPc K → List (Call K × Snapshot K)
  | .publish call snapshot => [(call, snapshot)]
  | .idle | .lock _ => []

def Batch.taken (batch : Batch api) : Call K × Snapshot K :=
  (batch.call, batch.snapshot)

/-- The threads have read, captured and run what the serial viewer has. -/
structure Serializes (viewer : RvizViewer api) (serial : SerialViewer api) :
    Prop where
  trajectory : serial.trajectory = viewer.trajectory
  snapshots : serial.snapshots =
    viewer.published.map Batch.taken ++ viewer.odometryPc.taken
  notified : serial.tasks.map Prod.fst = viewer.notified
  tasks : serial.tasks.map Prod.snd =
    viewer.runs.map TaskRun.task ++ viewer.taken ++ viewer.invokeQueue ++
      viewer.mappingPc.toList

/-! ## The order of the mutex -/

/-- The callback that takes `trajectory_mutex` between two states. -/
def TakesMutex (viewer next : RvizViewer api) : SerialCall K → Prop
  | .newFrame call =>
      viewer.odometryPc = .lock call ∧
        ∃ snapshot, next.odometryPc = .publish call snapshot
  | .updateSubmaps submaps => next.notified = viewer.notified ++ [submaps]

/-- The states of a run together with the callbacks in the order in which they
took the mutex. -/
inductive Locked (config : ViewerConfig K) (start : RvizViewer api) :
    List (SerialCall K) → RvizViewer api → Prop where
  | start : Locked config start [] start
  | takes {calls : List (SerialCall K)} {viewer next : RvizViewer api}
      (earlier : Locked config start calls viewer)
      (step : ViewerStep api config viewer next) (call : SerialCall K)
      (taken : TakesMutex viewer next call) :
      Locked config start (calls ++ [call]) next
  | keeps {calls : List (SerialCall K)} {viewer next : RvizViewer api}
      (earlier : Locked config start calls viewer)
      (step : ViewerStep api config viewer next)
      (kept : ∀ call, ¬ TakesMutex viewer next call) :
      Locked config start calls next

variable {start viewer next : RvizViewer api} {calls : List (SerialCall K)}

theorem Locked.reachable (locked : Locked config start calls viewer) :
    (viewerSystem api config start).Reachable viewer := by
  induction locked with
  | start => exact .init rfl
  | takes earlier step call taken induction => exact induction.step step
  | keeps earlier step kept induction => exact induction.step step

/-- In every run the mutex was taken in some order. -/
theorem exists_locked
    (reachable : (viewerSystem api config start).Reachable viewer) :
    ∃ calls, Locked config start calls viewer := by
  induction reachable with
  | init same =>
      cases same
      exact ⟨[], .start⟩
  | @step viewer next _ step induction =>
      obtain ⟨calls, locked⟩ := induction
      by_cases taken : ∃ call, TakesMutex viewer next call
      · obtain ⟨call, taken⟩ := taken
        exact ⟨_, locked.takes step call taken⟩
      · exact ⟨calls, locked.keeps step (not_exists.mp taken)⟩

/-- A step that notifies nobody and reads no pose takes no mutex. -/
theorem not_takesMutex (notified : next.notified = viewer.notified)
    (reads : ∀ call, viewer.odometryPc = .lock call →
      next.odometryPc.taken = []) :
    ∀ call, ¬ TakesMutex viewer next call := by
  rintro (call | submaps)
  · rintro ⟨pc, snapshot, publishes⟩
    have none := reads call pc
    rw [publishes] at none
    cases none
  · intro grown
    rw [TakesMutex, notified] at grown
    simp at grown

/-- The callback that takes the mutex has its whole effect at once. -/
theorem Serializes.takes {serial : SerialViewer api}
    (serializes : Serializes viewer serial)
    (step : ViewerStep api config viewer next) {call : SerialCall K}
    (taken : TakesMutex viewer next call) :
    ∃ later, serial.perform call = some later ∧ Serializes next later := by
  obtain ⟨trajectory, snapshots, notified, tasks⟩ := serializes
  cases step with
  | @lock frame pc =>
      cases call with
      | newFrame call =>
          cases pc.symm.trans taken.1
          refine ⟨_, rfl, ?_, ?_, notified, tasks⟩
          · rw [trajectory]
          · rw [snapshots, pc, trajectory]
            simp [OdometryPc.taken]
      | updateSubmaps submaps => simp [TakesMutex] at taken
  | @notify submaps pc later task captured =>
      cases call with
      | newFrame call =>
          obtain ⟨waits, snapshot, publishes⟩ := taken
          cases waits.symm.trans publishes
      | updateSubmaps submaps =>
          have same := List.append_cancel_left taken
          cases same
          rw [← trajectory] at captured
          refine ⟨_, SerialViewer.perform_updateSubmaps captured, rfl,
            snapshots, ?_, ?_⟩
          · rw [List.map_append, notified]
            rfl
          · rw [List.map_append, tasks, pc]
            simp
  | newFrame | publish =>
      refine absurd taken (not_takesMutex ?_ ?_ call)
      · rfl
      · exact fun _ _ => rfl
  | detect | invoke | spinOnce | runTask =>
      have waits : ∀ call, viewer.odometryPc = .lock call →
          viewer.odometryPc.taken = [] := by
        intro call pc
        rw [pc]
        rfl
      exact absurd taken (not_takesMutex rfl waits call)

/-- No other step changes what was read and captured. -/
theorem Serializes.keeps {serial : SerialViewer api}
    (serializes : Serializes viewer serial)
    (step : ViewerStep api config viewer next)
    (kept : ∀ call, ¬ TakesMutex viewer next call) :
    Serializes next serial := by
  obtain ⟨trajectory, snapshots, notified, tasks⟩ := serializes
  cases step with
  | lock pc => exact (kept (.newFrame _) ⟨pc, _, rfl⟩).elim
  | notify submaps => exact (kept (.updateSubmaps submaps) rfl).elim
  | detect metaConfig => exact ⟨trajectory, snapshots, notified, tasks⟩
  | newFrame call pc =>
      refine ⟨trajectory, ?_, notified, tasks⟩
      rw [snapshots, pc]
      rfl
  | @publish call snapshot pc subscribed lookup =>
      refine ⟨trajectory, ?_, notified, tasks⟩
      rw [snapshots, pc]
      simp [OdometryPc.taken, Batch.taken]
  | @invoke task pc =>
      refine ⟨trajectory, snapshots, notified, ?_⟩
      rw [tasks, pc]
      simp
  | spinOnce running finished =>
      refine ⟨trajectory, snapshots, notified, ?_⟩
      rw [tasks, finished]
      simp
  | @runTask task rest running taken subscribed now taskRun pubTime result =>
      obtain ⟨sameTask, _, _⟩ := runTask_spec result
      refine ⟨trajectory, snapshots, notified, ?_⟩
      rw [tasks, taken]
      simp [sameTask]

/-- The threads have done what the callbacks do one after the other, in the
order of the mutex. -/
theorem Locked.serializes {ids : FrameIds} {metaConfig : MetaConfig}
    {now : Int}
    (locked : Locked config (RvizViewer.start api ids metaConfig now) calls
      viewer) :
    ∃ serial, SerialViewer.performAll api calls = some serial ∧
      Serializes viewer serial := by
  induction locked with
  | start => exact ⟨SerialViewer.start api, rfl, rfl, rfl, rfl, rfl⟩
  | takes earlier step call taken induction =>
      obtain ⟨serial, performed, serializes⟩ := induction
      obtain ⟨later, performs, serializes⟩ := serializes.takes step taken
      refine ⟨later, ?_, serializes⟩
      rw [SerialViewer.performAll_concat, performed]
      exact performs
  | keeps earlier step kept induction =>
      obtain ⟨serial, performed, serializes⟩ := induction
      exact ⟨serial, performed, serializes.keeps step kept⟩

/-- One callback more, while no other thread is under way. -/
theorem Locked.callback (locked : Locked config start calls viewer)
    (idle : viewer.odometryPc = .idle) (settled : viewer.mappingPc = none)
    {serial later : SerialViewer api} (serializes : Serializes viewer serial)
    {call : SerialCall K} (performed : serial.perform call = some later) :
    ∃ next, Locked config start (calls ++ [call]) next ∧
      next.odometryPc = .idle ∧ next.mappingPc = none := by
  cases call with
  | newFrame call =>
      have called := locked.keeps (.newFrame call idle)
        (not_takesMutex rfl fun _ _ => rfl)
      have locks := called.takes (.lock rfl) (.newFrame call) ⟨rfl, _, rfl⟩
      have published := locks.keeps
        (.publish rfl (fun _ => false) fun _ _ _ => none)
        (not_takesMutex rfl fun _ _ => rfl)
      exact ⟨_, published, rfl, settled⟩
  | updateSubmaps submaps =>
      obtain ⟨⟨trajectory, task⟩, captured, _⟩ :=
        Option.map_eq_some_iff.mp performed
      rw [serializes.trajectory] at captured
      have notified := locked.takes (.notify submaps settled captured)
        (.updateSubmaps submaps) rfl
      have invoked := notified.keeps (.invoke rfl)
        (not_takesMutex rfl fun _ waits => by rw [waits]; rfl)
      exact ⟨_, invoked, idle, rfl⟩

/-- Every order of callbacks is one in which the threads can take turns. -/
theorem exists_locked_of_performed (config : ViewerConfig K) (ids : FrameIds)
    (metaConfig : MetaConfig) (now : Int) {serial : SerialViewer api}
    (performed : SerialViewer.performAll api calls = some serial) :
    ∃ viewer,
      Locked config (RvizViewer.start api ids metaConfig now) calls viewer ∧
      viewer.odometryPc = .idle ∧ viewer.mappingPc = none := by
  induction calls using List.reverseRecOn generalizing serial with
  | nil => exact ⟨_, .start, rfl, rfl⟩
  | append_singleton calls call induction =>
      rw [SerialViewer.performAll_concat] at performed
      obtain ⟨earlier, before, performs⟩ :=
        Option.bind_eq_some_iff.mp performed
      obtain ⟨viewer, locked, idle, settled⟩ := induction before
      obtain ⟨other, same, serializes⟩ := locked.serializes
      cases before.symm.trans same
      exact locked.callback idle settled serializes performs

/-- Whatever the interleaving of the three threads, the callbacks of the
viewer have read and captured what they would have if they had been called
one after the other in the order in which they took the mutex, each from its
beginning to its end: the frames with the same poses, and the notifications
with the same tasks, which run in this order.  Every run has such an order,
and every sequence of calls is the order of some run. -/
theorem viewer_serializes (config : ViewerConfig K) (ids : FrameIds)
    (metaConfig : MetaConfig) (now : Int) :
    (∀ viewer : RvizViewer api,
      (viewerSystem api config
        (RvizViewer.start api ids metaConfig now)).Reachable viewer →
      ∃ calls,
        Locked config (RvizViewer.start api ids metaConfig now) calls
          viewer) ∧
    (∀ (calls : List (SerialCall K)) (viewer : RvizViewer api),
      Locked config (RvizViewer.start api ids metaConfig now) calls viewer →
      ∃ serial, SerialViewer.performAll api calls = some serial ∧
        Serializes viewer serial) ∧
    ∀ (calls : List (SerialCall K)) (serial : SerialViewer api),
      SerialViewer.performAll api calls = some serial →
      ∃ viewer,
        (viewerSystem api config
          (RvizViewer.start api ids metaConfig now)).Reachable viewer ∧
        Locked config (RvizViewer.start api ids metaConfig now) calls
          viewer ∧
        Serializes viewer serial := by
  refine ⟨fun viewer => exists_locked, fun calls viewer locked =>
    locked.serializes, ?_⟩
  intro calls serial performed
  obtain ⟨viewer, locked, _, _⟩ :=
    exists_locked_of_performed config ids metaConfig now performed
  obtain ⟨other, same, serializes⟩ := locked.serializes
  cases performed.symm.trans same
  exact ⟨viewer, locked.reachable, locked, serializes⟩

/-- A loop closure comes after a frame has read its poses and before the
frame is published. -/
theorem viewer_serializes_overtaken :
    ∃ (viewer : RvizViewer realApi) (serial : SerialViewer realApi),
      viewer.published.length = 1 ∧ viewer.notified.length = 1 ∧
        SerialViewer.performAll realApi
          [.newFrame (scan 0 1),
            .updateSubmaps [submapAt 0 (shift 1) [origin]]] =
          some serial ∧
        Serializes viewer serial := by
  have called := (Locked.start : Locked realConfig realStart [] _).keeps
    (.newFrame (scan 0 1) rfl) (not_takesMutex rfl fun _ _ => rfl)
  have locked := called.takes (.lock rfl) (.newFrame (scan 0 1)) ⟨rfl, _, rfl⟩
  have notified := locked.takes
    (.notify [submapAt 0 (shift 1) [origin]] rfl rfl)
    (.updateSubmaps [submapAt 0 (shift 1) [origin]]) rfl
  have published := notified.keeps
    (.publish rfl (fun _ => true) (fun _ _ _ => none))
    (not_takesMutex rfl fun _ _ => rfl)
  obtain ⟨serial, performed, serializes⟩ :=
    (viewer_serializes realConfig (FrameIds.configured "" "" "")
      MetaConfig.empty 0).2.1 _ _ published
  exact ⟨_, serial, rfl, rfl, performed, serializes⟩

end GlimRos.Viewer
