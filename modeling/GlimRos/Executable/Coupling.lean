import GlimRos.Executable.RosbagMain
import GlimRos.Node.Returns

/-!
# `main` and the node it drives

Every step of `main` is a step of its node or leaves the node alone, and the
place of `main` tells which callback can be running.
-/

namespace GlimRos

open Transition

variable {K : Type} {glim : Glim K}

/-- A node that was loaded and has not been used. -/
structure LoadedNode.Fresh {Module : Type} (loaded : LoadedNode glim Module) :
    Prop where
  node : ∃ metaConfig accScale timeKeeper enableSubMapping enableGlobalMapping,
    loaded.node = Node.start glim metaConfig accScale timeKeeper
      enableSubMapping enableGlobalMapping
  dump : loaded.dump = []

namespace LoadedNode.Fresh

variable {Module : Type} {loaded : LoadedNode glim Module}

theorem idle (fresh : loaded.Fresh) : loaded.node.pc = .idle := by
  obtain ⟨_, _, _, _, _, started⟩ := fresh.node
  rw [started]
  rfl

theorem up (fresh : loaded.Fresh) : loaded.node.rclcppOk = true := by
  obtain ⟨_, _, _, _, _, started⟩ := fresh.node
  rw [started]
  rfl

theorem unjoined (fresh : loaded.Fresh) : loaded.node.Unjoined := by
  obtain ⟨metaConfig, accScale, timeKeeper, _, _, started⟩ := fresh.node
  rw [started]
  exact start_unjoined metaConfig accScale timeKeeper _ _

theorem untouched (fresh : loaded.Fresh) : loaded.node.odometryInputs = [] := by
  obtain ⟨_, _, _, _, _, started⟩ := fresh.node
  rw [started]
  rfl

end LoadedNode.Fresh

theorem GlimRosNode.construct_fresh [Field K] {Module : Type}
    {installation : Installation glim Module} {options : NodeOptions}
    {made : GlimRosNode glim Module}
    (constructed : GlimRosNode.construct installation options = some made) :
    made.loaded.Fresh := by
  obtain ⟨_, _, _, _, _, loaded, _⟩ := construct_loads constructed
  rw [loaded]
  exact ⟨⟨_, _, _, _, _, rfl⟩, rfl⟩

end GlimRos

namespace GlimRos.Executable

open Transition

open Rosbag (Callback Read)

variable {K : Type} {glim : Glim K} {Module : Type}

/-! ## The places of `main` -/

/-- The callbacks that can be running at a place of `main`. -/
def MainPc.Admits : MainPc → Pc glim → Prop
  | .playing, pc => pc = .idle
  | .spinSome, pc | .callback _, pc | .lastCallback, pc | .timer, pc
  | .spin, pc => pc.inWait = false
  | .wait, pc | .unload, pc => pc.inWait = true
  | .saved, pc | .exited, pc => pc = .waited

theorem MainPc.Admits.advance {pc : MainPc} {node next : Node glim}
    {modulesOk : Bool} (admits : pc.Admits node.pc) (phases : node.Phases)
    (advanced : GlimRos.advance node modulesOk = some next) :
    pc.Admits next.pc := by
  have side := statement_inWait (advance_statement advanced) phases
  cases pc with
  | playing =>
      rw [MainPc.Admits] at admits
      simp [GlimRos.advance, admits] at advanced
  | saved | exited =>
      rw [MainPc.Admits] at admits
      simp [GlimRos.advance, admits] at advanced
  | _ => exact side.trans admits

/-- Any callback can run in `spin_some` and `spin`. -/
theorem RosbagMain.Spinning.admits {main : RosbagMain glim Module}
    (spinning : main.Spinning) {pc : Pc glim} (outside : pc.inWait = false) :
    main.pc.Admits pc := by
  rcases spinning.1 with here | here <;> rw [here] <;> exact outside

section Steps

variable [Field K] [LinearOrder K]

/-- The node has received what arrived, the running callback belongs to the
place of `main`, and `wait(false)` runs only after ROS was shut down. -/
structure Coupled (setup : RosbagSetup glim) (start : Node glim)
    (main : RosbagMain glim Module) : Prop where
  received : Received setup.config start
    (main.arrivals.map Arrival.message) main.node
  admits : main.pc.Admits main.node.pc
  argument : main.node.pc.waitArgument = some false →
    main.node.rclcppOk = false

variable {setup : RosbagSetup glim} {start : Node glim}
  {main next : RosbagMain glim Module}

/-- Entering the core callback of a message of a bag. -/
theorem handOn_coupled {node : Node glim} {arrivals : List (Arrival glim)}
    (received : Received setup.config start
      (arrivals.map Arrival.message) node)
    (idle : node.pc = .idle) (read : Read) (core : Option Callback) :
    Received setup.config start
        ((arrivals ++ setup.arrival read core).map Arrival.message)
        (setup.handOn node read core) ∧
      (setup.handOn node read core).pc.inWait = false := by
  cases core with
  | none =>
      simpa [RosbagSetup.arrival, RosbagSetup.handOn, idle] using received
  | some callback =>
      refine ⟨?_, (receive_started _ idle _).outside⟩
      simpa [RosbagSetup.arrival, RosbagSetup.handOn] using
        received.message idle (setup.decode read callback)

/-- A callback that starts outside `wait` has no argument to speak of. -/
theorem Coupled.outside
    (received : Received setup.config start
      (main.arrivals.map Arrival.message) main.node)
    (admits : main.pc.Admits main.node.pc)
    (outside : main.node.pc.inWait = false) : Coupled setup start main :=
  { received := received
    admits := admits
    argument := by
      rw [waitArgument_of_outside outside]
      nofun }

theorem rosbagStep_coupled (fresh : start.pc = .idle)
    (unjoined : start.Unjoined) (coupled : Coupled setup start main)
    (step : RosbagStep setup main next) : Coupled setup start next := by
  obtain ⟨received, admits, argument⟩ := coupled
  have phases := (reachable_joins fresh unjoined received.reachable).1
  cases step with
  | plays input pc sees direct quiet => exact ⟨received, admits, argument⟩
  | callsSpinSome input pc sees calls =>
      rw [pc] at admits
      have outside : main.node.pc.inWait = false := by
        rw [show main.node.pc = .idle from admits]
        rfl
      exact .outside received outside outside
  | spunSome input pc idle ok needsWait =>
      exact ⟨received, idle, argument⟩
  | hands input pc sees here continues =>
      rw [pc] at admits
      obtain ⟨handed, outside⟩ := handOn_coupled received admits _ _
      exact .outside handed outside outside
  | handsLast input pc sees here last =>
      rw [pc] at admits
      obtain ⟨handed, outside⟩ := handOn_coupled received admits _ _
      exact .outside handed outside outside
  | delivers pc idle modulesOk said =>
      exact .outside (received.silent (.timer idle modulesOk)) rfl rfl
  | returns pc idle => exact ⟨received, idle, argument⟩
  | receives spinning message =>
      have idle := spinning.2
      have outside := (receive_started setup.config idle message).outside
      have arrived : Received setup.config start
          ((main.arrivals ++ [Arrival.mk message none]).map Arrival.message)
          (main.node.receive setup.config message) := by
        rw [List.map_append]
        exact received.message idle message
      exact .outside arrived (spinning.admits outside) outside
  | timerFires spinning modulesOk said =>
      exact .outside (received.silent (.timer spinning.2 modulesOk))
        (spinning.admits rfl) rfl
  | @statement modulesOk said node advanced =>
      have statement := advance_statement advanced
      refine ⟨received.silent (.statement modulesOk advanced),
        admits.advance phases advanced, fun waiting => ?_⟩
      have down : main.node.rclcppOk = false := by
        rcases statement_waitArgument statement with same | none
        · exact argument (same ▸ waiting)
        · cases none.symm.trans waiting
      exact (statement_rclcppOk statement).trans down
  | works works =>
      obtain ⟨samePc, sameOk⟩ := works_pc works
      refine ⟨received.silent (.works works), ?_, ?_⟩
      · exact samePc ▸ admits
      · exact fun waiting => sameOk.trans (argument (samePc ▸ waiting))
  | interrupt => exact ⟨received.silent .shutdown, admits, fun _ => rfl⟩
  | quits pc through autoQuit =>
      rw [pc] at admits
      exact ⟨received.silent (.wait (.inl admits) true), rfl, nofun⟩
  | spins pc through stays =>
      rw [pc] at admits
      have outside : main.node.pc.inWait = false := by
        rw [show main.node.pc = .idle from admits]
        rfl
      exact .outside received outside outside
  | spun pc idle down =>
      exact ⟨received.silent (.wait (.inl idle) false), rfl, fun _ => down⟩
  | saves pc waited => exact ⟨received, waited, argument⟩
  | destroys pc =>
      rw [pc] at admits
      cases dumps : main.glimRos.dumpOnUnload with
      | false => exact ⟨received, admits, argument⟩
      | true => exact ⟨received.silent (.wait (.inr admits) true), rfl, nofun⟩
  | unloads pc waited => exact ⟨received, waited, argument⟩

theorem handOn_rclcppOk (setup : RosbagSetup glim) (node : Node glim)
    (read : Read) (core : Option Callback) :
    (setup.handOn node read core).rclcppOk = node.rclcppOk := by
  cases core with
  | none => rfl
  | some callback => exact receive_rclcppOk _ _

/-- ROS is never up again. -/
theorem rosbagStep_down (step : RosbagStep setup main next)
    (down : main.node.rclcppOk = false) : next.node.rclcppOk = false := by
  cases step with
  | @hands input pc sees read here core continues =>
      exact (handOn_rclcppOk setup main.node read core).trans down
  | @handsLast input pc sees read here last =>
      exact (handOn_rclcppOk setup main.node read (some .points)).trans down
  | delivers pc idle modulesOk said =>
      exact congrArg (· && modulesOk) down
  | receives spinning message => exact (receive_rclcppOk _ _).trans down
  | timerFires spinning modulesOk said =>
      exact congrArg (· && modulesOk) down
  | statement modulesOk said advanced =>
      exact (statement_rclcppOk (advance_statement advanced)).trans down
  | works works => exact (works_pc works).2.trans down
  | interrupt => rfl
  | destroys pc =>
      cases dumps : main.glimRos.dumpOnUnload <;>
        simpa [RosbagMain.node, dumps] using down
  | _ => exact down

variable {bags : List Rosbag.Bag} {startOffset : Rat}
  {glimRos : LoadedNode glim Module}

theorem reachable_coupled (fresh : glimRos.Fresh)
    (reachable :
      (rosbagSystem setup
        (RosbagMain.start bags startOffset glimRos)).Reachable main) :
    Coupled setup glimRos.node main := by
  refine reachable.invariant (Coupled setup glimRos.node) ?_ ?_
  · rintro _ rfl
    refine ⟨.start, fresh.idle, ?_⟩
    intro waiting
    have outside : glimRos.node.pc.waitArgument = none := by
      rw [fresh.idle]
      rfl
    cases outside.symm.trans waiting
  · intro current later _ coupled step
    exact rosbagStep_coupled fresh.idle fresh.unjoined coupled step

end Steps

end GlimRos.Executable
