import GlimRos.Node.Step

/-!
# Unloading a node against shutting a process down

The executables call `wait` and then `save`.  A component that is unloaded
with `dump_on_unload` does the same in its destructor, but drops its
extension modules first, so no module is left whose `at_exit` `save` could
call.
-/

namespace GlimRos

open Transition

variable {K : Type} {glim : Glim K} {Module : Type}

/-- A call that writes into the dump directory. -/
inductive DumpCall (glim : Glim K) (Module : Type) where
  | saveGlobalMapping (path : String) (globalMapping : GlobalMappingStage glim)
  | atExit (module : Module) (path : String)

/-- A node with its loaded extension modules and what it has dumped. -/
structure LoadedNode (glim : Glim K) (Module : Type) where
  node : Node glim
  extensionModules : List Module
  dumpOnUnload : Bool
  dump : List (DumpCall glim Module)

namespace LoadedNode

/-- `GlimROS::save`. -/
def save (loaded : LoadedNode glim Module) (path : String) :
    LoadedNode glim Module :=
  { loaded with
    dump := loaded.dump ++
      (match loaded.node.globalMapping with
      | some globalMapping => [.saveGlobalMapping path globalMapping]
      | none => []) ++
      loaded.extensionModules.map fun module => .atExit module path }

end LoadedNode

section Shutdown

variable [Field K] [LinearOrder K]

/-- A step while `wait` runs or after it has returned: no callback starts and
`wait` is not called again. -/
def WaitStep (config : NodeConfig K) (node next : Node glim) : Prop :=
  NodeStep config node next ∧ (node.pc = .waited → next.pc = .waited)

/-- `wait(true)` can return in the second state. -/
def WaitReturns (config : NodeConfig K) (node done : Node glim) : Prop :=
  Relation.ReflTransGen (WaitStep config)
      { node with pc := .joinOdometry true } done ∧
    done.pc = .waited

/-- The end of the executables: `wait(true)` and `save(path)`. -/
def ShutsDown (config : NodeConfig K) (path : String)
    (loaded after : LoadedNode glim Module) : Prop :=
  ∃ done, WaitReturns config loaded.node done ∧
    after = { loaded with node := done }.save path

def dumpPath : String := "/tmp/dump"

/-- The destructor `~GlimROS`. -/
def Unloads (config : NodeConfig K)
    (loaded after : LoadedNode glim Module) : Prop :=
  let cleared := { loaded with extensionModules := [] }
  if loaded.dumpOnUnload then ShutsDown config dumpPath cleared after
  else after = cleared

/-! ## `wait` can always return -/

/-- Some schedule of the workers lets `wait` return. -/
def CanReturn (config : NodeConfig K) (node : Node glim) : Prop :=
  ∃ done, Relation.ReflTransGen (WaitStep config) node done ∧
    done.pc = .waited

variable {config : NodeConfig K} {node next : Node glim}

theorem CanReturn.after
    (steps : Relation.ReflTransGen (WaitStep config) node next)
    (returns : CanReturn config next) : CanReturn config node := by
  obtain ⟨done, later, waited⟩ := returns
  exact ⟨done, steps.trans later, waited⟩

theorem CanReturn.statement (running : node.pc ≠ .waited)
    (advanced : advance node true = some next)
    (returns : CanReturn config next) : CanReturn config node :=
  returns.after (.single ⟨.statement true advanced,
    fun waited => (running waited).elim⟩)

theorem canReturn_of_polling (here : node.pc = .pollModules true) :
    CanReturn config node := by
  have returned : CanReturn config { node with pc := .waited } :=
    ⟨_, .refl, rfl⟩
  apply returned.statement (by rw [here]; nofun)
  simp [advance, here]

theorem globalMapping_drains {stage later : GlobalMappingStage glim}
    (steps : Relation.ReflTransGen Stage.ConsumesOne stage later)
    (present : node.globalMapping = some stage) :
    Relation.ReflTransGen (WaitStep config) node
      { node with globalMapping := some later } := by
  have same : node = { node with globalMapping := some stage } := by
    rw [← present]
  rw [same]
  refine Relation.ReflTransGen.lift
    (fun stage => { node with globalMapping := some stage }) ?_ _ _ steps
  rintro stage next ⟨input, rest, consumes, rfl⟩
  exact ⟨.works (.globalMappingConsumes rfl consumes), id⟩

theorem subMapping_drains {stage later : SubMappingStage glim}
    (steps : Relation.ReflTransGen Stage.ConsumesOne stage later)
    (present : node.subMapping = some stage) :
    Relation.ReflTransGen (WaitStep config) node
      { node with subMapping := some later } := by
  have same : node = { node with subMapping := some stage } := by
    rw [← present]
  rw [same]
  refine Relation.ReflTransGen.lift
    (fun stage => { node with subMapping := some stage }) ?_ _ _ steps
  rintro stage next ⟨input, rest, consumes, rfl⟩
  exact ⟨.works (.subMappingConsumes rfl consumes), id⟩

theorem odometry_drains {later : OdometryStage glim}
    (steps : Relation.ReflTransGen Stage.ConsumesOne
      node.odometryEstimation later) :
    Relation.ReflTransGen (WaitStep config) node
      { node with odometryEstimation := later } := by
  refine Relation.ReflTransGen.lift
    (fun stage => { node with odometryEstimation := stage }) ?_ _ _ steps
  rintro stage next ⟨input, rest, consumes, rfl⟩
  exact ⟨.works (.odometryConsumes consumes), id⟩

theorem canReturn_of_joinGlobalMapping
    {globalMapping : GlobalMappingStage glim}
    (present : node.globalMapping = some globalMapping)
    (here : node.pc = .joinGlobalMapping true) : CanReturn config node := by
  obtain ⟨later, steps, returns⟩ := globalMapping.eventually_joinReturns
  have joined : CanReturn config
      { node with
        globalMapping := some later.join
        pc := .pollModules true } := canReturn_of_polling rfl
  refine (joined.statement ?_ ?_).after (globalMapping_drains steps present)
  · rw [here]
    nofun
  · simp [advance, here, returns]

theorem canReturn_of_insertSubmaps
    {submaps : List (Emission K glim.SubMap)}
    (present : node.globalMapping.isSome)
    (here : node.pc = .insertSubmaps (.wait true) submaps) :
    CanReturn config node := by
  induction submaps generalizing node with
  | nil =>
      obtain ⟨globalMapping, exist⟩ := Option.isSome_iff_exists.mp present
      have joining : CanReturn config
          { node with pc := .joinGlobalMapping true } :=
        canReturn_of_joinGlobalMapping exist rfl
      apply joining.statement (by rw [here]; nofun)
      simp [advance, here, afterSubmaps]
  | cons submap submaps induction =>
      have inserted : CanReturn config
          { node with
            globalMapping :=
              insertIfEnabled node.globalMapping (.payload submap)
            pc := .insertSubmaps (.wait true) submaps } := by
        apply induction
        · simpa [insertIfEnabled] using present
        · rfl
      apply inserted.statement (by rw [here]; nofun)
      simp [advance, here]

theorem canReturn_of_getSubmaps {subMapping : SubMappingStage glim}
    (present : node.subMapping = some subMapping)
    (here : node.pc = .getSubmaps (.wait true)) : CanReturn config node := by
  have fetched : CanReturn config
      { node with
        subMapping := some subMapping.fetched
        pc :=
          if node.globalMapping.isSome then
            .insertSubmaps (.wait true) subMapping.buffer
          else afterSubmaps false (.wait true) } := by
    split_ifs with exist
    · exact canReturn_of_insertSubmaps exist rfl
    · exact canReturn_of_polling rfl
  apply fetched.statement (by rw [here]; nofun)
  simp [advance, here, present]

theorem canReturn_of_joinSubMapping {subMapping : SubMappingStage glim}
    (present : node.subMapping = some subMapping)
    (here : node.pc = .joinSubMapping true) : CanReturn config node := by
  obtain ⟨later, steps, returns⟩ := subMapping.eventually_joinReturns
  have joined : CanReturn config
      { node with
        subMapping := some later.join
        pc := .getSubmaps (.wait true) } := canReturn_of_getSubmaps rfl rfl
  refine (joined.statement ?_ ?_).after (subMapping_drains steps present)
  · rw [here]
    nofun
  · simp [advance, here, returns]

theorem canReturn_of_insertFrames
    {marginalized : List (Emission K glim.EstimationFrame)}
    (present : node.subMapping.isSome)
    (here : node.pc = .insertFrames (.wait true) marginalized) :
    CanReturn config node := by
  induction marginalized generalizing node with
  | nil =>
      obtain ⟨subMapping, exist⟩ := Option.isSome_iff_exists.mp present
      have joining : CanReturn config
          { node with pc := .joinSubMapping true } :=
        canReturn_of_joinSubMapping exist rfl
      apply joining.statement (by rw [here]; nofun)
      simp [advance, here]
  | cons frame marginalized induction =>
      have inserted : CanReturn config
          { node with
            subMapping := insertIfEnabled node.subMapping (.payload frame)
            pc := .insertFrames (.wait true) marginalized } := by
        apply induction
        · simpa [insertIfEnabled] using present
        · rfl
      apply inserted.statement (by rw [here]; nofun)
      simp [advance, here]

theorem canReturn_of_getResults (present : node.subMapping.isSome)
    (here : node.pc = .getResults (.wait true)) : CanReturn config node := by
  have fetched : CanReturn config
      { node with
        odometryEstimation := node.odometryEstimation.fetched
        pc := .insertFrames (.wait true) node.odometryEstimation.buffer } :=
    canReturn_of_insertFrames present rfl
  apply fetched.statement (by rw [here]; nofun)
  simp [advance, here, present]

/-- Whatever is still in flight, `wait(true)` can return. -/
theorem canReturn_of_joinOdometry (here : node.pc = .joinOdometry true) :
    CanReturn config node := by
  obtain ⟨later, steps, returns⟩ :=
    node.odometryEstimation.eventually_joinReturns
  have joined : CanReturn config
      { node with
        odometryEstimation := later.join
        pc :=
          if node.subMapping.isSome then .getResults (.wait true)
          else .pollModules true } := by
    split_ifs with exist
    · exact canReturn_of_getResults exist rfl
    · exact canReturn_of_polling rfl
  refine (joined.statement ?_ ?_).after (odometry_drains steps)
  · rw [here]
    nofun
  · simp [advance, here, returns]

theorem exists_waitReturns (config : NodeConfig K) (node : Node glim) :
    ∃ done, WaitReturns config node done :=
  canReturn_of_joinOdometry rfl

/-! ## The dump of an unloaded node -/

/-- Unloading and shutting down can leave the same node with the same dump,
and nothing else. -/
def SameDump (config : NodeConfig K) (loaded : LoadedNode glim Module) :
    Prop :=
  ∀ done dump,
    (∃ after, Unloads config loaded after ∧ after.node = done ∧
      after.dump = dump) ↔
    ∃ after, ShutsDown config dumpPath loaded after ∧ after.node = done ∧
      after.dump = dump

/-- An unloaded node calls no `at_exit`. -/
theorem unloads_no_atExit {loaded after : LoadedNode glim Module}
    (unloads : Unloads config loaded after) (fresh : loaded.dump = [])
    (module : Module) (path : String) :
    .atExit module path ∉ after.dump := by
  intro called
  unfold Unloads at unloads
  split at unloads
  · obtain ⟨done, _, rfl⟩ := unloads
    simp only [LoadedNode.save, fresh, List.nil_append, List.map_nil,
      List.append_nil] at called
    split at called
    · simp at called
    · cases called
  · rw [unloads, fresh] at called
    cases called

/-- For every list of loaded modules, every choice of stages and every state
of the pipeline, unloading leaves the dump that shutting down leaves exactly
when no module is loaded. -/
theorem unload_sameDump_iff (config : NodeConfig K)
    (loaded : LoadedNode glim Module) (dumps : loaded.dumpOnUnload = true) :
    SameDump config loaded ↔ loaded.extensionModules = [] := by
  constructor
  · intro same
    obtain ⟨done, returns⟩ := exists_waitReturns config loaded.node
    obtain ⟨after, unloads, sameNode, sameCalls⟩ :=
      (same done _).mpr ⟨_, ⟨done, returns, rfl⟩, rfl, rfl⟩
    rw [Unloads, if_pos dumps] at unloads
    obtain ⟨other, _, rfl⟩ := unloads
    have sameDone : other = done := sameNode
    subst sameDone
    -- both dumps save global mapping, and only one calls the modules
    have calls := List.append_cancel_left sameCalls
    exact List.map_eq_nil_iff.mp calls.symm
  · intro none done dump
    have unchanged :
        { loaded with extensionModules := [] } = loaded := by
      rw [← none]
    simp only [Unloads, if_pos dumps, unchanged]

end Shutdown

/-- A node without extension modules, unloaded while nothing runs. -/
theorem unload_sameDump_bare :
    SameDump defaultNodeConfig
      ({ node := Node.start numberedGlim .empty 1 () true true
         extensionModules := []
         dumpOnUnload := true
         dump := [] } : LoadedNode numberedGlim String) :=
  (unload_sameDump_iff defaultNodeConfig _ rfl).mpr rfl

/-- With one loaded module, shutting down calls its `at_exit` and unloading
does not. -/
theorem unload_skips_atExit :
    ∃ loaded : LoadedNode numberedGlim String,
      (nodeSystem defaultNodeConfig
        (Node.start numberedGlim .empty 1 () true true)).Reachable loaded.node ∧
        loaded.node.pc = .idle ∧ loaded.dumpOnUnload = true ∧
        loaded.extensionModules = ["librviz_viewer.so"] ∧
        ¬ SameDump defaultNodeConfig loaded := by
  refine
    ⟨{ node := Node.start numberedGlim .empty 1 () true true
       extensionModules := ["librviz_viewer.so"]
       dumpOnUnload := true
       dump := [] }, .init rfl, rfl, rfl, rfl, fun same => ?_⟩
  obtain ⟨done, returns⟩ := exists_waitReturns defaultNodeConfig
    (Node.start numberedGlim .empty 1 () true true)
  obtain ⟨after, unloads, _, sameCalls⟩ :=
    (same done _).mpr ⟨_, ⟨done, returns, rfl⟩, rfl, rfl⟩
  apply unloads_no_atExit unloads rfl "librviz_viewer.so" dumpPath
  rw [sameCalls]
  simp [LoadedNode.save]

end GlimRos
