import GlimRos.Viewer.MapQueue

/-!
# The life of the viewer

The constructor starts the thread that calls `spin_once` in a loop, and the
destructor sets `kill_switch` and joins this thread.  The callbacks of the
odometry and of the mapping thread may come at any time before the destructor
has returned.
-/

namespace GlimRos.Viewer

open Rigid Transition

variable {K : Type} [CommRing K]

/-- Where the thread of the viewer stands. -/
inductive ThreadPc where
  /-- At `while (!kill_switch)`. -/
  | loopHead
  /-- In the body of the loop, before `spin_once` swaps the queue. -/
  | entered
  /-- At the tasks that `spin_once` took. -/
  | tasks
  | ended
  deriving DecidableEq

/-- Where the destructor stands. -/
inductive DestructorPc where
  | before
  /-- In `thread.join()`. -/
  | joining
  | returned
  deriving DecidableEq

structure LivingViewer (api : ViewerApi K) where
  viewer : RvizViewer api
  killSwitch : Bool
  thread : ThreadPc
  destructor : DestructorPc

/-- The viewer as the constructor leaves it. -/
def LivingViewer.start (api : ViewerApi K) (ids : FrameIds)
    (metaConfig : MetaConfig) (now : Int) : LivingViewer api :=
  { viewer := RvizViewer.start api ids metaConfig now
    killSwitch := false
    thread := .loopHead
    destructor := .before }

/-- A step of the thread of the viewer. -/
inductive ThreadStep (api : ViewerApi K) (config : ViewerConfig K)
    (living : LivingViewer api) : LivingViewer api → Prop where
  | checks (pc : living.thread = .loopHead) :
      ThreadStep api config living
        { living with
          thread := if living.killSwitch then .ended else .entered }
  | spinOnce (pc : living.thread = .entered) :
      ThreadStep api config living
        { living with
          viewer :=
            { living.viewer with
              invokeQueue := []
              taken := living.viewer.invokeQueue }
          thread := .tasks }
  | runTask {task : MapTask K} {rest : List (MapTask K)}
      (pc : living.thread = .tasks) (running : living.viewer.halted = false)
      (taken : living.viewer.taken = task :: rest)
      (subscribed : Bool) (now : Int)
      {taskRun : TaskRun api} {pubTime : Int}
      (result :
        Viewer.runTask api config subscribed now
          living.viewer.lastGlobalmapPubTime living.viewer.submaps task =
            (taskRun, pubTime)) :
      ThreadStep api config living
        { living with
          viewer :=
            { living.viewer with
              submaps := taskRun.submaps
              taken := rest
              lastGlobalmapPubTime := pubTime
              halted := taskRun.outcome.isUndefined
              runs := living.viewer.runs ++ [taskRun] } }
  /-- The rest of the ten milliseconds passes. -/
  | sleeps (pc : living.thread = .tasks)
      (running : living.viewer.halted = false)
      (finished : living.viewer.taken = []) :
      ThreadStep api config living { living with thread := .loopHead }

/-- `thread.join()` returns. -/
def Joins {api : ViewerApi K} (living next : LivingViewer api) : Prop :=
  living.destructor = .joining ∧ living.thread = .ended ∧
    next = { living with destructor := .returned }

inductive LifecycleStep (api : ViewerApi K) (config : ViewerConfig K)
    (living : LivingViewer api) : LivingViewer api → Prop where
  /-- A step of another thread: it takes no task and runs none. -/
  | callback {viewer : RvizViewer api}
      (alive : living.destructor ≠ .returned)
      (step : ViewerStep api config living.viewer viewer)
      (taken : viewer.taken = living.viewer.taken)
      (runs : viewer.runs = living.viewer.runs) :
      LifecycleStep api config living { living with viewer := viewer }
  | thread {next : LivingViewer api}
      (step : ThreadStep api config living next) :
      LifecycleStep api config living next
  | destroys (pc : living.destructor = .before) :
      LifecycleStep api config living
        { living with
          killSwitch := true
          destructor := .joining }
  | joins {next : LivingViewer api} (returns : Joins living next) :
      LifecycleStep api config living next

/-- All interleavings of the threads and the destructor. -/
def lifecycleSystem (api : ViewerApi K) (config : ViewerConfig K)
    (ids : FrameIds) (metaConfig : MetaConfig) (now : Int) :
    System (LivingViewer api) :=
  { Init := fun living => living = LivingViewer.start api ids metaConfig now
    Step := LifecycleStep api config }

variable {api : ViewerApi K} {config : ViewerConfig K} {ids : FrameIds}
  {metaConfig : MetaConfig} {now : Int}

/-! ## The threads of a living viewer are those of a viewer -/

/-- How the thread, the destructor and the tasks fit together. -/
structure LivingViewer.Coherent (living : LivingViewer api) : Prop where
  killed : living.killSwitch = true ↔ living.destructor ≠ .before
  outside : living.thread ≠ .tasks →
    living.viewer.taken = [] ∧ living.viewer.halted = false
  ended : living.thread = .ended → living.killSwitch = true
  returned : living.destructor = .returned → living.thread = .ended

theorem start_coherent (api : ViewerApi K) (ids : FrameIds)
    (metaConfig : MetaConfig) (now : Int) :
    (LivingViewer.start api ids metaConfig now).Coherent :=
  { killed := by simp [LivingViewer.start]
    outside := fun _ => ⟨rfl, rfl⟩
    ended := nofun
    returned := nofun }

/-- A viewer halts only in a task. -/
theorem halted_of_quiet {viewer next : RvizViewer api}
    (step : ViewerStep api config viewer next)
    (runs : next.runs = viewer.runs) : next.halted = viewer.halted := by
  cases step with
  | runTask running taken subscribed now result => simp at runs
  | _ => rfl

theorem threadStep_coherent {living next : LivingViewer api}
    (coherent : living.Coherent) (step : ThreadStep api config living next) :
    next.Coherent := by
  obtain ⟨killed, outside, ended, returned⟩ := coherent
  cases step with
  | checks pc =>
      have quiet := outside (by rw [pc]; nofun)
      refine ⟨killed, fun _ => quiet, ?_, ?_⟩
      · intro through
        by_contra alive
        simp [alive] at through
      · intro gone
        rw [pc] at returned
        exact absurd (returned gone) nofun
  | spinOnce pc | runTask pc =>
      refine ⟨killed, ?_, ?_, fun gone => ?_⟩
      · simp [pc]
      · simp [pc]
      · rw [pc] at returned
        exact absurd (returned gone) nofun
  | sleeps pc running finished =>
      refine ⟨killed, fun _ => ⟨finished, running⟩, nofun, fun gone => ?_⟩
      rw [pc] at returned
      exact absurd (returned gone) nofun

theorem lifecycleStep_coherent {living next : LivingViewer api}
    (coherent : living.Coherent)
    (step : LifecycleStep api config living next) : next.Coherent := by
  cases step with
  | callback alive step taken runs =>
      obtain ⟨killed, outside, ended, returned⟩ := coherent
      refine ⟨killed, ?_, ended, returned⟩
      intro elsewhere
      rw [taken, halted_of_quiet step runs]
      exact outside elsewhere
  | thread step => exact threadStep_coherent coherent step
  | destroys pc =>
      obtain ⟨killed, outside, ended, returned⟩ := coherent
      exact ⟨by simp, outside, fun _ => rfl, nofun⟩
  | joins returns =>
      obtain ⟨killed, outside, ended, returned⟩ := coherent
      obtain ⟨joining, through, rfl⟩ := returns
      exact ⟨by simp [ended through], outside, ended, fun _ => through⟩

theorem threadStep_refines {living next : LivingViewer api}
    (coherent : living.Coherent) (step : ThreadStep api config living next)
    (start : RvizViewer api) :
    (viewerSystem api config start).Steps living.viewer next.viewer := by
  cases step with
  | checks | sleeps => exact .refl _ _
  | spinOnce pc =>
      obtain ⟨finished, running⟩ := coherent.outside (by rw [pc]; nofun)
      exact .single (.spinOnce running finished)
  | runTask pc running taken subscribed now result =>
      exact .single (.runTask running taken subscribed now result)

/-- With its life around it the viewer takes no other steps. -/
def lifecycleSimulation (config : ViewerConfig K) (ids : FrameIds)
    (metaConfig : MetaConfig) (now : Int) :
    Simulation (lifecycleSystem api config ids metaConfig now)
      (viewerSystem api config
        (RvizViewer.start api ids metaConfig now)) :=
  { Related := fun living viewer =>
      living.Coherent ∧ living.viewer = viewer
    init := by
      rintro living rfl
      exact ⟨_, rfl, start_coherent api ids metaConfig now, rfl⟩
    step := by
      rintro living next _ ⟨coherent, rfl⟩ step
      refine ⟨next.viewer, ?_, lifecycleStep_coherent coherent step, rfl⟩
      cases step with
      | callback alive step taken runs => exact .single step
      | thread step => exact threadStep_refines coherent step _
      | destroys => exact .refl _ _
      | joins returns =>
          obtain ⟨_, _, rfl⟩ := returns
          exact .refl _ _ }

theorem reachable_coherent {living : LivingViewer api}
    (reachable :
      (lifecycleSystem api config ids metaConfig now).Reachable living) :
    living.Coherent ∧
      (viewerSystem api config
        (RvizViewer.start api ids metaConfig now)).Reachable
          living.viewer := by
  obtain ⟨_, reached, coherent, rfl⟩ :=
    (lifecycleSimulation config ids metaConfig now).reachable reachable
  exact ⟨coherent, reached⟩

/-! ## What still runs after the kill switch -/

/-- What happened since the kill switch was set: outside of the moment before
`spin_once` the thread only ran tasks that it had taken. -/
structure WindsDown (living later : LivingViewer api) : Prop where
  killed : later.killSwitch = true
  ran : ∃ more, later.viewer.runs = living.viewer.runs ++ more ∧
    (living.thread ≠ .entered → later.thread ≠ .entered ∧
      more.map TaskRun.task ++ later.viewer.taken = living.viewer.taken)

theorem lifecycleStep_windsDown {living current next : LivingViewer api}
    (winds : WindsDown living current)
    (step : LifecycleStep api config current next) :
    WindsDown living next := by
  obtain ⟨killed, more, ran, within⟩ := winds
  cases step with
  | callback alive step taken runs =>
      exact ⟨killed, more, runs.trans ran, by rwa [taken]⟩
  | destroys => exact ⟨rfl, more, ran, within⟩
  | joins returns =>
      obtain ⟨_, _, rfl⟩ := returns
      exact ⟨killed, more, ran, within⟩
  | thread step =>
      cases step with
      | checks pc =>
          refine ⟨killed, more, ran, fun outside => ⟨?_, (within outside).2⟩⟩
          simp [killed]
      | spinOnce pc =>
          exact ⟨killed, more, ran, fun outside =>
            absurd pc (within outside).1⟩
      | @runTask task rest pc running taken subscribed now taskRun pubTime
          result =>
          obtain ⟨sameTask, _, _⟩ := runTask_spec result
          refine ⟨killed, more ++ [taskRun], ?_, fun outside =>
            ⟨(within outside).1, ?_⟩⟩
          · rw [ran, List.append_assoc]
          · rw [← (within outside).2, taken, List.map_append,
              List.map_singleton, sameTask, List.append_assoc,
              List.singleton_append]
      | sleeps pc running finished =>
          exact ⟨killed, more, ran, fun outside =>
            ⟨nofun, (within outside).2⟩⟩

/-- In every run: once `kill_switch` is set, and unless the thread is just
about to swap the queue, it runs the tasks that it has taken and no other.
When the destructor has returned they have all run, and of all notifications
only those whose tasks were not taken by then, the last ones, are lost. -/
theorem viewer_stops {living later : LivingViewer api}
    (reachable :
      (lifecycleSystem api config ids metaConfig now).Reachable living)
    (killed : living.killSwitch = true)
    (steps :
      (lifecycleSystem api config ids metaConfig now).Steps living later) :
    ∃ more, later.viewer.runs = living.viewer.runs ++ more ∧
      (living.thread ≠ .entered →
        more.map TaskRun.task ++ later.viewer.taken = living.viewer.taken) ∧
      (later.destructor = .returned →
        later.viewer.taken = [] ∧
        later.viewer.notified.map MapTask.capture =
          (later.viewer.runs.map TaskRun.task ++ later.viewer.invokeQueue ++
            later.viewer.mappingPc.toList).map some) := by
  obtain ⟨_, more, ran, within⟩ := steps.preserves (WindsDown living)
    (fun _ _ winds step => lifecycleStep_windsDown winds step)
    ⟨killed, [], (List.append_nil _).symm, fun outside => ⟨outside, rfl⟩⟩
  refine ⟨more, ran, fun outside => (within outside).2, fun returned => ?_⟩
  obtain ⟨coherent, reached⟩ := reachable_coherent (reachable.steps steps)
  have through := coherent.returned returned
  have finished : later.viewer.taken = [] :=
    (coherent.outside (by rw [through]; nofun)).1
  obtain ⟨channel, _, tasks, captures, queue⟩ :=
    (taskSimulation config ids metaConfig now).reachable reached
  refine ⟨finished, ?_⟩
  rw [captures, ← queue.accounted, finished]
  simp

/-- The destructor is called when one task was taken and another one is in the
queue: the first runs, the second is lost. -/
theorem viewer_stops_between :
    ∃ living later : LivingViewer realApi,
      later.destructor = .returned ∧ later.viewer.notified.length = 2 ∧
        later.viewer.runs.length = 1 ∧
        ∃ more, later.viewer.runs = living.viewer.runs ++ more ∧
          later.viewer.taken = [] := by
  have started : (lifecycleSystem realApi realConfig
      (FrameIds.configured "" "" "") MetaConfig.empty 0).Reachable _ :=
    .init rfl
  have notified := started.step (.callback nofun
    (.notify [submapAt 0 1 []] rfl rfl) rfl rfl)
  have invoked := notified.step (.callback nofun (.invoke rfl) rfl rfl)
  have entered := invoked.step (.thread (.checks rfl))
  have taken := entered.step (.thread (.spinOnce rfl))
  have again := taken.step (.callback nofun
    (.notify [submapAt 0 1 []] rfl rfl) rfl rfl)
  have behind := again.step (.callback nofun (.invoke rfl) rfl rfl)
  have killed := behind.step (.destroys rfl)
  obtain ⟨more, ran, _, through⟩ := viewer_stops killed rfl
    (Relation.ReflTransGen.head
      (.thread (.runTask rfl rfl rfl false 0 rfl))
      (.head (.thread (.sleeps rfl rfl rfl))
        (.head (.thread (.checks rfl))
          (.single (.joins ⟨rfl, rfl, rfl⟩)))))
  exact ⟨_, _, rfl, rfl, rfl, more, ran, (through rfl).1⟩

end GlimRos.Viewer
