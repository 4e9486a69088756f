import GlimRos.Library.Fairness
import GlimRos.Viewer.Lifecycle
import GlimRos.Viewer.MapRate
import Mathlib.Data.Prod.Lex

/-!
# What the viewer does in the end

In a run that is fair to the thread of the viewer, every notification gets its
task run, and a destructor that was called returns.  Only a task that is
undefined behaviour can prevent it.
-/

namespace GlimRos.Viewer

open Rigid Transition

variable {K : Type} [CommRing K] {api : ViewerApi K}
  {config : ViewerConfig K} {ids : FrameIds} {metaConfig : MetaConfig}
  {now : Int}

/-- The thread of the viewer is never stuck, unless it ran into undefined
behaviour. -/
theorem threadStep_enabled {living : LivingViewer api}
    (alive : living.thread ≠ .ended)
    (running : living.viewer.halted = false) :
    ∃ next, ThreadStep api config living next := by
  cases pc : living.thread with
  | loopHead => exact ⟨_, .checks pc⟩
  | entered => exact ⟨_, .spinOnce pc⟩
  | tasks =>
      cases taken : living.viewer.taken with
      | nil => exact ⟨_, .sleeps pc running taken⟩
      | cons task rest => exact ⟨_, .runTask pc running taken false 0 rfl⟩
  | ended => exact absurd pc alive

/-! ## The destructor returns -/

/-- Whether a swap of the queue is ahead, and how many steps are after it. -/
def LivingViewer.stepsLeft (living : LivingViewer api) : Nat ×ₗ Nat :=
  match living.thread with
  | .entered => toLex (1, 0)
  | .tasks => toLex (0, living.viewer.taken.length + 2)
  | .loopHead => toLex (0, 1)
  | .ended => toLex (0, 0)

theorem threadStep_lowers {living next : LivingViewer api}
    (killed : living.killSwitch = true)
    (step : ThreadStep api config living next) :
    next.stepsLeft < living.stepsLeft := by
  cases step with
  | checks pc =>
      simp [LivingViewer.stepsLeft, pc, killed, Prod.Lex.toLex_lt_toLex]
  | spinOnce pc =>
      simp [LivingViewer.stepsLeft, pc, Prod.Lex.toLex_lt_toLex]
  | runTask pc running taken subscribed now result =>
      simp [LivingViewer.stepsLeft, pc, taken, Prod.Lex.toLex_lt_toLex]
  | sleeps pc running finished =>
      simp [LivingViewer.stepsLeft, pc, finished, Prod.Lex.toLex_lt_toLex]

/-- The destructor waits for the thread. -/
def LivingViewer.Waits (living : LivingViewer api) : Prop :=
  living.destructor = .joining ∧ living.killSwitch = true

theorem lifecycleStep_waits {living next : LivingViewer api}
    (waits : living.Waits) (alive : living.thread ≠ .ended)
    (step : LifecycleStep api config living next) :
    next.Waits ∧ next.stepsLeft ≤ living.stepsLeft := by
  obtain ⟨joining, killed⟩ := waits
  cases step with
  | callback present step taken runs =>
      refine ⟨⟨joining, killed⟩, ?_⟩
      rw [LivingViewer.stepsLeft, LivingViewer.stepsLeft]
      simp only [taken, le_refl]
  | thread step =>
      refine ⟨?_, (threadStep_lowers killed step).le⟩
      cases step <;> exact ⟨joining, killed⟩
  | destroys pc => rw [pc] at joining; cases joining
  | joins returns => exact absurd returns.2.1 alive

theorem lifecycleStep_joins {living next : LivingViewer api}
    (through : living.thread = .ended) (joining : living.destructor = .joining)
    (step : LifecycleStep api config living next) :
    next.destructor = .returned ∨
      next.thread = .ended ∧ next.destructor = .joining := by
  cases step with
  | callback => exact .inr ⟨through, joining⟩
  | thread step => cases step <;> simp_all
  | destroys pc => rw [pc] at joining; cases joining
  | joins returns =>
      obtain ⟨_, _, rfl⟩ := returns
      exact .inl rfl

/-- In every run that is fair to the thread of the viewer and to the caller of
the destructor: once called, the destructor returns, whatever the callbacks
do, unless a task is undefined behaviour. -/
theorem destructor_returns {run : Nat → LivingViewer api}
    (runs : (lifecycleSystem api config ids metaConfig now).Runs run)
    (thread : WeaklyFair (ThreadStep api config) run)
    (join : WeaklyFair Joins run) {index : Nat}
    (called : (run index).destructor ≠ .before) :
    ∃ later, index ≤ later ∧
      ((run later).destructor = .returned ∨
        (run later).viewer.halted = true) := by
  have coherent := (reachable_coherent (runs.reachable index)).1
  cases waits : (run index).destructor with
  | before => exact absurd waits called
  | returned => exact ⟨index, Nat.le_refl index, .inl waits⟩
  | joining =>
      obtain ⟨middle, after, ⟨through, joining⟩ | halted⟩ :=
        thread.leads runs LivingViewer.Waits
          (fun living =>
            living.thread = .ended ∧ living.destructor = .joining ∨
              living.viewer.halted = true)
          LivingViewer.stepsLeft
          (fun living waits going => threadStep_enabled
            (fun through => going (.inl ⟨through, waits.1⟩))
            (Bool.eq_false_of_not_eq_true fun halted =>
              going (.inr halted)))
          (fun living next waits going step => .inr
            (lifecycleStep_waits waits
              (fun through => going (.inl ⟨through, waits.1⟩)) step))
          (fun living next waits _ step =>
            .inr (threadStep_lowers waits.2 step))
          ⟨waits, coherent.killed.mpr called⟩
      · obtain ⟨later, beyond, returned⟩ := join.leads runs
          (fun living =>
            living.thread = .ended ∧ living.destructor = .joining)
          (fun living => living.destructor = .returned) (fun _ => 0)
          (fun living ended _ => ⟨_, ended.2, ended.1, rfl⟩)
          (fun living next ended _ step =>
            (lifecycleStep_joins ended.1 ended.2 step).imp_right
              fun still => ⟨still, Nat.le_refl 0⟩)
          (fun living next _ _ returns => .inl (by rw [returns.2.2]))
          ⟨through, joining⟩
        exact ⟨later, after.trans beyond, .inl returned⟩
      · exact ⟨middle, after, .inr halted⟩

/-! ## Every notification gets its task run -/

/-- The mapping thread puts its task into the queue. -/
def Invokes (living next : LivingViewer api) : Prop :=
  ∃ task, living.viewer.mappingPc = some task ∧
    next =
      { living with
        viewer :=
          { living.viewer with
            invokeQueue := living.viewer.invokeQueue ++ [task]
            mappingPc := none } }

/-- How many tasks have been put into the queue so far. -/
def RvizViewer.invoked (viewer : RvizViewer api) : Nat :=
  viewer.runs.length + viewer.taken.length + viewer.invokeQueue.length

theorem viewerStep_grows {viewer next : RvizViewer api}
    (step : ViewerStep api config viewer next) :
    viewer.notified <+: next.notified ∧ viewer.invoked ≤ next.invoked := by
  cases step with
  | notify => exact ⟨List.prefix_append _ _, Nat.le_refl _⟩
  | invoke pc =>
      refine ⟨List.prefix_rfl, ?_⟩
      simp only [RvizViewer.invoked, List.length_append]
      omega
  | spinOnce running finished =>
      refine ⟨List.prefix_rfl, ?_⟩
      simp [RvizViewer.invoked, finished]
  | runTask running taken subscribed now result =>
      refine ⟨List.prefix_rfl, ?_⟩
      simp only [RvizViewer.invoked, taken, List.length_append,
        List.length_cons, List.length_nil]
      omega
  | _ => exact ⟨List.prefix_rfl, Nat.le_refl _⟩

theorem steps_grow {start viewer later : RvizViewer api}
    (steps : (viewerSystem api config start).Steps viewer later) :
    viewer.notified <+: later.notified ∧ viewer.invoked ≤ later.invoked :=
  steps.preserves
    (fun current => viewer.notified <+: current.notified ∧
      viewer.invoked ≤ current.invoked)
    (fun _ _ grown step =>
      have more := viewerStep_grows step
      ⟨grown.1.trans more.1, grown.2.trans more.2⟩)
    ⟨List.prefix_rfl, Nat.le_refl _⟩

theorem lifecycleStep_grows {living next : LivingViewer api}
    (coherent : living.Coherent)
    (step : LifecycleStep api config living next) :
    next.Coherent ∧ living.viewer.invoked ≤ next.viewer.invoked := by
  obtain ⟨_, steps, nextCoherent, rfl⟩ :=
    (lifecycleSimulation config (FrameIds.configured "" "" "")
      MetaConfig.empty 0).step ⟨coherent, rfl⟩ step
  exact ⟨nextCoherent, (steps_grow steps).2⟩

/-- A bound on the steps of the thread until so many tasks have run. -/
def LivingViewer.stepsUntil (count : Nat) (living : LivingViewer api) : Nat :=
  4 * (count - living.viewer.runs.length) +
    match living.thread with
    | .tasks => if living.viewer.taken = [] then 3 else 0
    | .loopHead => 2
    | .entered => 1
    | .ended => 0

theorem threadStep_approaches {living next : LivingViewer api} {count : Nat}
    (coherent : living.Coherent) (alive : living.killSwitch = false)
    (ahead : living.viewer.runs.length < count)
    (invoked : count ≤ living.viewer.invoked)
    (step : ThreadStep api config living next) :
    next.stepsUntil count < living.stepsUntil count := by
  cases step with
  | checks pc => simp [LivingViewer.stepsUntil, pc, alive]
  | spinOnce pc =>
      have finished := (coherent.outside (by rw [pc]; nofun)).1
      have queued : living.viewer.invokeQueue ≠ [] := by
        intro empty
        rw [RvizViewer.invoked, finished, empty] at invoked
        simp at invoked
        omega
      simp [LivingViewer.stepsUntil, pc, queued]
  | @runTask task rest pc running taken subscribed now taskRun pubTime
      result =>
      have still : (if rest = [] then 3 else 0) ≤ 3 := by
        split <;> decide
      simp only [LivingViewer.stepsUntil, pc, taken, List.length_append,
        List.length_singleton, reduceCtorEq, if_false]
      omega
  | sleeps pc running finished =>
      simp [LivingViewer.stepsUntil, pc, finished]

theorem lifecycleStep_approaches {living next : LivingViewer api}
    {count : Nat} (coherent : living.Coherent)
    (alive : living.killSwitch = false)
    (ahead : living.viewer.runs.length < count)
    (invoked : count ≤ living.viewer.invoked)
    (step : LifecycleStep api config living next) :
    next.killSwitch = true ∨
      next.stepsUntil count ≤ living.stepsUntil count := by
  cases step with
  | callback present step taken runs =>
      apply Or.inr
      rw [LivingViewer.stepsUntil, LivingViewer.stepsUntil]
      simp only [taken, runs, le_refl]
  | thread step =>
      exact .inr
        (threadStep_approaches coherent alive ahead invoked step).le
  | destroys => exact .inl rfl
  | joins returns =>
      have killed := coherent.ended returns.2.1
      rw [alive] at killed
      cases killed

/-- All notifications have put their task into the queue, but for the one that
the mapping thread is at. -/
theorem reachable_invoked {viewer : RvizViewer api}
    (reachable :
      (viewerSystem api config
        (RvizViewer.start api ids metaConfig now)).Reachable viewer) :
    viewer.notified.length =
      viewer.invoked + viewer.mappingPc.toList.length := by
  obtain ⟨channel, _, tasks, captures, queue⟩ :=
    (taskSimulation config ids metaConfig now).reachable reachable
  calc
    viewer.notified.length = tasks.length := by
      simpa using congrArg List.length captures
    _ = viewer.invoked + viewer.mappingPc.toList.length := by
      rw [← queue.accounted]
      simp only [List.length_append, List.length_map, RvizViewer.invoked]
      omega

/-- The run that comes after `n` others is that of the notification that came
after `n` others. -/
theorem reachable_turn {viewer : RvizViewer api}
    (reachable :
      (viewerSystem api config
        (RvizViewer.start api ids metaConfig now)).Reachable viewer)
    {turn : Nat} {submaps : List (SubMap K)} {taskRun : TaskRun api}
    (raised : viewer.notified[turn]? = some submaps)
    (ran : viewer.runs[turn]? = some taskRun) :
    MapTask.capture submaps = some taskRun.task := by
  obtain ⟨channel, _, tasks, captures, queue⟩ :=
    (taskSimulation config ids metaConfig now).reachable reachable
  have order := congrArg (fun list => list[turn]?) captures
  have early : turn < (viewer.runs.map TaskRun.task).length := by
    rw [List.length_map]
    exact (List.getElem?_eq_some_iff.mp ran).1
  simp only [← queue.accounted, List.getElem?_map, raised,
    List.getElem?_append_left early, ran, Option.map_some] at order
  exact Option.some.inj order

section Fair

variable {run : Nat → LivingViewer api}

theorem runs_notified
    (runs : (lifecycleSystem api config ids metaConfig now).Runs run)
    {index later : Nat} (after : index ≤ later) :
    (run index).viewer.notified <+: (run later).viewer.notified := by
  have related := reachable_coherent (runs.reachable index)
  obtain ⟨_, steps, _, rfl⟩ :=
    (lifecycleSimulation config ids metaConfig now).steps
      ⟨related.1, rfl⟩ (runs.steps after)
  exact (steps_grow steps).1

/-- The mapping thread gets to put its task into the queue. -/
theorem eventually_invoked
    (runs : (lifecycleSystem api config ids metaConfig now).Runs run)
    (mapping : WeaklyFair Invokes run) {index count : Nat}
    (notified : count ≤ (run index).viewer.notified.length) :
    ∃ later, index ≤ later ∧ count ≤ (run later).viewer.invoked := by
  have accounted : ∀ {living : LivingViewer api},
      (lifecycleSystem api config ids metaConfig now).Reachable living →
      living.viewer.notified.length =
        living.viewer.invoked + living.viewer.mappingPc.toList.length :=
    fun reachable => reachable_invoked (reachable_coherent reachable).2
  apply mapping.leads runs
    (fun living =>
      (lifecycleSystem api config ids metaConfig now).Reachable living ∧
        count ≤ living.viewer.notified.length)
    (fun living => count ≤ living.viewer.invoked) (fun _ => 0)
  · rintro living ⟨reachable, notified⟩ missing
    cases pc : living.viewer.mappingPc with
    | none =>
        have all := accounted reachable
        rw [pc] at all
        exact absurd (notified.trans (Nat.le_of_eq all)) missing
    | some task => exact ⟨_, task, pc, rfl⟩
  · rintro living next ⟨reachable, notified⟩ _ step
    obtain ⟨_, steps, _, rfl⟩ :=
      (lifecycleSimulation config ids metaConfig now).step
        ⟨(reachable_coherent reachable).1, rfl⟩ step
    have longer := (steps_grow steps).1.length_le
    exact .inr ⟨⟨reachable.step step, notified.trans longer⟩, Nat.le_refl 0⟩
  · rintro living next ⟨reachable, notified⟩ _ ⟨task, pc, rfl⟩
    have all := accounted reachable
    rw [pc, Option.toList_some, List.length_singleton] at all
    refine .inl (notified.trans (Nat.le_of_eq (all.trans ?_)))
    simp only [RvizViewer.invoked, List.length_append, List.length_singleton]
    omega
  · exact ⟨runs.reachable index, notified⟩

/-- In every run that is fair to the thread of the viewer and to the mapping
thread: each notification gets its task run, in its turn, unless the
destructor is called before or a task is undefined behaviour. -/
theorem notification_runs
    (runs : (lifecycleSystem api config ids metaConfig now).Runs run)
    (thread : WeaklyFair (ThreadStep api config) run)
    (mapping : WeaklyFair Invokes run) {index turn : Nat}
    {submaps : List (SubMap K)}
    (raised : (run index).viewer.notified[turn]? = some submaps) :
    ∃ later, index ≤ later ∧
      ((∃ taskRun, (run later).viewer.runs[turn]? = some taskRun ∧
          MapTask.capture submaps = some taskRun.task) ∨
        (run later).killSwitch = true ∨
        (run later).viewer.halted = true) := by
  obtain ⟨middle, after, invoked⟩ := eventually_invoked runs mapping
    (List.getElem?_eq_some_iff.mp raised).1
  obtain ⟨later, beyond, ran | ended⟩ := thread.leads runs
    (fun living => living.Coherent ∧ turn + 1 ≤ living.viewer.invoked)
    (fun living => turn < living.viewer.runs.length ∨
      living.killSwitch = true ∨ living.viewer.halted = true)
    (LivingViewer.stepsUntil (turn + 1))
    (by
      rintro living ⟨coherent, _⟩ going
      apply threadStep_enabled
      · intro through
        exact going (.inr (.inl (coherent.ended through)))
      · simpa using fun halted => going (.inr (.inr halted)))
    (by
      rintro living next ⟨coherent, invoked⟩ going step
      obtain ⟨nextCoherent, more⟩ := lifecycleStep_grows coherent step
      have alive : living.killSwitch = false := by
        simpa using fun killed => going (.inr (.inl killed))
      rcases lifecycleStep_approaches coherent alive (by omega) invoked step
        with killed | closer
      · exact .inl (.inr (.inl killed))
      · exact .inr ⟨⟨nextCoherent, invoked.trans more⟩, closer⟩)
    (by
      rintro living next ⟨coherent, invoked⟩ going step
      have alive : living.killSwitch = false := by
        simpa using fun killed => going (.inr (.inl killed))
      exact .inr
        (threadStep_approaches coherent alive (by omega) invoked step))
    ⟨(reachable_coherent (runs.reachable middle)).1, invoked⟩
  · have last : index ≤ later := after.trans beyond
    have still : (run later).viewer.notified[turn]? = some submaps := by
      obtain ⟨rest, extended⟩ := runs_notified runs last
      rw [← extended, List.getElem?_append_left
        (List.getElem?_eq_some_iff.mp raised).1, raised]
    have here := List.getElem?_eq_getElem ran
    exact ⟨later, last, .inl ⟨_, here,
      reachable_turn (reachable_coherent (runs.reachable later)).2 still
        here⟩⟩
  · exact ⟨later, after.trans beyond, .inr ended⟩

end Fair

/-! ## A run that stops and a run that goes on -/

/-- A thread that has ended takes no step. -/
theorem disabled_of_ended {living : LivingViewer api}
    (through : living.thread = .ended) (next : LivingViewer api) :
    ¬ ThreadStep api config living next := by
  intro step
  cases step <;> simp_all

/-- Neither the kill switch nor undefined behaviour is undone. -/
theorem lifecycleStep_keeps {living next : LivingViewer api}
    (step : LifecycleStep api config living next) :
    (living.killSwitch = true → next.killSwitch = true) ∧
      (living.viewer.halted = true → next.viewer.halted = true) := by
  cases step with
  | callback alive step taken runs =>
      exact ⟨id, fun halted => (halted_of_quiet step runs).trans halted⟩
  | thread step =>
      cases step with
      | checks | spinOnce => exact ⟨id, id⟩
      | runTask _ running | sleeps _ running =>
          exact ⟨id, fun halted => absurd (running.symm.trans halted) nofun⟩
  | destroys => exact ⟨fun _ => rfl, id⟩
  | joins returns =>
      obtain ⟨_, _, rfl⟩ := returns
      exact ⟨id, id⟩

theorem runs_keep {run : Nat → LivingViewer api}
    (runs : (lifecycleSystem api config ids metaConfig now).Runs run)
    {index later : Nat} (after : index ≤ later) :
    ((run index).killSwitch = true → (run later).killSwitch = true) ∧
      ((run index).viewer.halted = true →
        (run later).viewer.halted = true) :=
  (runs.steps after).preserves
    (fun living =>
      ((run index).killSwitch = true → living.killSwitch = true) ∧
        ((run index).viewer.halted = true → living.viewer.halted = true))
    (fun _ _ kept step =>
      have more := lifecycleStep_keeps step
      ⟨more.1 ∘ kept.1, more.2 ∘ kept.2⟩)
    ⟨id, id⟩

/-- The destructor is called while the thread is at the head of its loop, and
comes back. -/
theorem destructor_returns_idle :
    ∃ (run : Nat → LivingViewer realApi) (index later : Nat),
      (run index).destructor = .joining ∧ index ≤ later ∧
        (run later).destructor = .returned := by
  have started : (lifecycleSystem realApi realConfig
      (FrameIds.configured "" "" "") MetaConfig.empty 0).Reachable _ :=
    .init rfl
  have killed := started.step (.destroys rfl)
  obtain ⟨run, index, stop, runs, called, stops⟩ :=
    killed.exists_runs_through
      (Relation.ReflTransGen.head (.thread (.checks rfl))
        (.single (.joins ⟨rfl, rfl, rfl⟩)))
  have waits : (run index).destructor ≠ .before := by
    rw [called]
    nofun
  obtain ⟨later, after, returned | halted⟩ := destructor_returns runs
    (.of_stops stops (disabled_of_ended rfl))
    (.of_stops stops (fun _ joins => nomatch joins.1)) waits
  · exact ⟨run, index, later, by rw [called], after, returned⟩
  · have still := (runs_keep runs (Nat.le_max_left later stop)).2 halted
    rw [stops _ (Nat.le_max_right later stop)] at still
    cases still

/-- A viewer that has nothing to do. -/
structure LivingViewer.Idle (living : LivingViewer api) : Prop where
  alive : living.killSwitch = false
  thread : living.thread ≠ .ended
  running : living.viewer.halted = false
  invokeQueue : living.viewer.invokeQueue = []
  taken : living.viewer.taken = []
  mappingPc : living.viewer.mappingPc = none

/-- Once more around part of the loop. -/
def LivingViewer.around (living : LivingViewer api) : LivingViewer api :=
  { living with
    thread :=
      match living.thread with
      | .loopHead => .entered
      | .entered => .tasks
      | .tasks => .loopHead
      | .ended => .ended }

theorem LivingViewer.Idle.around {living : LivingViewer api}
    (idle : living.Idle) : living.around.Idle := by
  obtain ⟨viewer, killSwitch, thread, destructor⟩ := living
  obtain ⟨alive, unended, running, queue, taken, mapped⟩ := idle
  cases thread with
  | loopHead | entered | tasks =>
      exact ⟨alive, nofun, running, queue, taken, mapped⟩
  | ended => exact absurd rfl unended

/-- The thread of an idle viewer goes around its loop. -/
theorem LivingViewer.Idle.goesAround {living : LivingViewer api}
    (idle : living.Idle) : ThreadStep api config living living.around := by
  obtain ⟨viewer, killSwitch, thread, destructor⟩ := living
  obtain ⟨alive, unended, running, queue, taken, mapped⟩ := idle
  cases thread with
  | loopHead =>
      cases alive
      exact .checks rfl
  | entered =>
      have unchanged :
          { viewer with
            invokeQueue := []
            taken := viewer.invokeQueue } = viewer := by
        cases viewer
        cases queue
        cases taken
        rfl
      have spinOnce : ThreadStep api config
          ⟨viewer, killSwitch, .entered, destructor⟩ _ := .spinOnce rfl
      rwa [unchanged] at spinOnce
  | tasks => exact .sleeps rfl running taken
  | ended => exact absurd rfl unended

theorem LivingViewer.Idle.iterate {living : LivingViewer api}
    (idle : living.Idle) (times : Nat) :
    (LivingViewer.around^[times] living).Idle := by
  induction times with
  | zero => exact idle
  | succ times induction =>
      rw [Function.iterate_succ_apply']
      exact induction.around

/-- A run that comes to an idle viewer can go on fairly for ever. -/
theorem exists_runs_idle {living last : LivingViewer api}
    (reachable :
      (lifecycleSystem api config ids metaConfig now).Reachable living)
    (steps : (lifecycleSystem api config ids metaConfig now).Steps living last)
    (idle : last.Idle) :
    ∃ run index offset,
      (lifecycleSystem api config ids metaConfig now).Runs run ∧
      WeaklyFair (ThreadStep api config) run ∧ WeaklyFair Invokes run ∧
      run index = living ∧ ∀ later, offset ≤ later → (run later).Idle := by
  have goesAround : ∀ times, ThreadStep api config
      (LivingViewer.around^[times] last)
      (LivingViewer.around^[times + 1] last) := by
    intro times
    rw [Function.iterate_succ_apply']
    exact (idle.iterate times).goesAround
  obtain ⟨run, index, offset, runs, here, same⟩ :=
    reachable.exists_runs_through_before steps
      (fun times => LivingViewer.around^[times] last) rfl
      fun times => .inr (.thread (goesAround times))
  have rests : ∀ later, offset ≤ later → (run later).Idle := by
    intro later after
    obtain ⟨times, rfl⟩ := Nat.exists_eq_add_of_le after
    rw [same]
    exact idle.iterate times
  refine ⟨run, index, offset, runs, .of_rest same (.of_taken goesAround),
    ?_, here, rests⟩
  have disabled : ∀ later, offset ≤ later → ∀ next,
      ¬ Invokes (run later) next := by
    rintro later after next ⟨task, pc, _⟩
    rw [(rests later after).mappingPc] at pc
    cases pc
  exact (StronglyFair.of_disabled disabled).weaklyFair

/-- One submap without points, whose task runs while the viewer lives on. -/
theorem notification_runs_empty :
    ∃ (run : Nat → LivingViewer realApi) (index later : Nat),
      (run index).viewer.notified = [[submapAt 0 1 []]] ∧ index ≤ later ∧
        ∃ taskRun, (run later).viewer.runs[0]? = some taskRun ∧
          MapTask.capture [submapAt 0 1 []] = some taskRun.task := by
  have started : (lifecycleSystem realApi realConfig
      (FrameIds.configured "" "" "") MetaConfig.empty 0).Reachable _ :=
    .init rfl
  have notified := started.step (.callback nofun
    (.notify [submapAt 0 1 []] rfl rfl) rfl rfl)
  obtain ⟨run, index, offset, runs, thread, mapping, here, idle⟩ :=
    exists_runs_idle notified
      (Relation.ReflTransGen.head (.callback nofun (.invoke rfl) rfl rfl)
        (.head (.thread (.checks rfl))
          (.head (.thread (.spinOnce rfl))
            (.single (.thread (.runTask rfl rfl rfl true mapPeriod
                runTask_emptyTask))))))
      { alive := rfl
        thread := by nofun
        running := rfl
        invokeQueue := rfl
        taken := rfl
        mappingPc := rfl }
  have raised : (run index).viewer.notified[0]? =
      some [submapAt 0 1 []] := by
    rw [here]
    rfl
  obtain ⟨later, after, ran⟩ := notification_runs runs thread mapping raised
  obtain ⟨killed, halted⟩ := runs_keep runs (Nat.le_max_left later offset)
  have still := idle _ (Nat.le_max_right later offset)
  refine ⟨run, index, later, by rw [here]; rfl, after, ?_⟩
  rcases ran with ran | ended | undefined
  · exact ran
  · exact absurd ((killed ended).symm.trans still.alive) nofun
  · exact absurd ((halted undefined).symm.trans still.running) nofun

end GlimRos.Viewer
