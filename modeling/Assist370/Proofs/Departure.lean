import Assist370.Proofs.Evaluation
import Assist370.Proofs.UserSelection

/-!
# Departures

A user leaves the processor in one of four ways, as its status is found. If the scheduler has
nothing to do for it, or it is being logged off already, the next user is selected, just as by the
selection alone on storage in which the order to log off has been taken note of. Otherwise an exit
is taken, and nothing is selected (`System.DepartureSettles`).
-/

namespace Assist370

namespace Memory

open Dispatcher

variable (memory : Memory) (user list : UInt32)

/-- The scheduler has nothing to do for a user: its status is as the list expects it, or it is the
system. -/
def SkipsScheduler : Prop :=
  memory.get user Vmblok.statusWord &&& memory.get list DispatchList.statusMask =
      memory.get list DispatchList.statusMatch ∨
    user = memory.getAddress PrefixArea.base PrefixArea.systemUser

instance : Decidable (memory.SkipsScheduler user list) :=
  inferInstanceAs (Decidable (_ ∨ _))

/-- A user is to be logged off, and no console function without a console read is under way. -/
def IsToLogOff : Prop :=
  memory.get user Vmblok.operatingStatus &&& Vmblok.killed ≠ 0 ∧
    ¬(memory.get user Vmblok.queueStatus &&& Vmblok.consoleRead = 0 ∧
      memory.get user Vmblok.operatingStatus &&& Vmblok.consoleFunction ≠ 0)

instance : Decidable (memory.IsToLogOff user) :=
  inferInstanceAs (Decidable (_ ∧ _))

/-- A user is being logged off. -/
def IsLoggingOff : Prop :=
  memory.get user Vmblok.runStatus &&& Vmblok.loggingOff ≠ 0

instance : Decidable (memory.IsLoggingOff user) :=
  inferInstanceAs (Decidable (_ ≠ _))

/-- Memory once the order to log a user off has been taken note of. -/
def orderTaken : Memory :=
  (memory.put user Vmblok.queueStatus
    (memory.get user Vmblok.queueStatus &&& ~~~Vmblok.consoleRead)).put user
      Vmblok.operatingStatus (memory.get user Vmblok.operatingStatus &&& ~~~Vmblok.killed)

/-- Memory once a user is being logged off by that order. -/
def logOffBegun : Memory :=
  (memory.orderTaken user).put user Vmblok.runStatus
    (memory.get user Vmblok.runStatus ||| Vmblok.loggingOff)

theorem get_orderTaken_runStatus :
    (memory.orderTaken user).get user Vmblok.runStatus = memory.get user Vmblok.runStatus := by
  rw [orderTaken, get_put_field _ (by decide) (by decide), get_put_field _ (by decide) (by decide)]

theorem isLoggingOff_congr {memory after : Memory} {user : UInt32}
    (agrees : after.AgreesOn memory (.ofField user Vmblok.runStatus)) :
    after.IsLoggingOff user ↔ memory.IsLoggingOff user := by
  rw [IsLoggingOff, IsLoggingOff, agrees.get_eq]

theorem isLoggingOff_put (run : UInt8) :
    (memory.put user Vmblok.runStatus (run ||| Vmblok.loggingOff)).IsLoggingOff user := by
  have bits : ∀ run : UInt8, (run ||| Vmblok.loggingOff) &&& Vmblok.loggingOff ≠ 0 := by
    rintro ⟨bits⟩
    revert bits
    decide +kernel
  rw [IsLoggingOff, get_put_self]
  exact bits run

end Memory

/-- The registers of a processor that goes on at another address. -/
def Cpu.goingOn (cpu : Cpu) (address : UInt32) : Cpu :=
  { cpu with psw := { cpu.psw with instructionAddress := Address.wrap address } }

namespace Dispatcher

open Microcode

section

variable {answers : Answers} {scene : Scene}

/-- The scene once an exit has been taken. -/
def exited (scene : Scene) (exits : UInt32) (place : Field UInt32) : Scene :=
  { scene with cpu := scene.cpu.goingOn (scene.memory.get exits place) }

theorem takeExit_eval (exits : UInt32) (place : Field UInt32) :
    (takeExit exits place).eval answers scene = (.ok .completed, exited scene exits place) :=
  rfl

theorem skipsScheduler_eval (user list : UInt32) :
    (skipsScheduler user list).eval answers scene =
      (.ok (decide (scene.memory.SkipsScheduler user list)), scene) := by
  simp only [skipsScheduler, eval_bind, eval_fetch, eval_ite, eval_pure, eval_fetchAddress,
    beq_iff_eq]
  by_cases expected : scene.memory.get user Vmblok.statusWord &&&
      scene.memory.get list DispatchList.statusMask = scene.memory.get list DispatchList.statusMatch
  · simp [expected, Memory.SkipsScheduler]
  · simp [expected, Memory.SkipsScheduler, BEq.beq]

/-- Taking note of the order to log a user off logs the user off the first time. -/
theorem logOff_eval (user exits : UInt32) :
    (logOff user exits (scene.memory.get user Vmblok.operatingStatus)
      (scene.memory.get user Vmblok.queueStatus)).eval answers scene =
      if scene.memory.IsLoggingOff user then
        (.ok .dispatchNext, { scene with memory := scene.memory.orderTaken user })
      else
        (.ok (.left .completed),
          exited { scene with memory := scene.memory.logOffBegun user } exits
            DispatchExit.logoff.place) := by
  simp only [logOff, eval_bind, eval_store, eval_fetch, eval_ite, eval_pure, takeExit_eval]
  rw [← Memory.orderTaken, Memory.get_orderTaken_runStatus, ← Memory.logOffBegun]
  by_cases loggingOff : scene.memory.IsLoggingOff user
  · rw [if_pos loggingOff, if_pos (bne_iff_ne.mpr loggingOff)]
  · rw [if_neg loggingOff, if_neg (mt bne_iff_ne.mp loggingOff)]

theorem depart_eval (list exits : UInt32) :
    (depart list exits).eval answers scene =
      let user := Address.wrap (scene.cpu.general.read 11)
      if scene.memory.SkipsScheduler user list then
        (.ok .dispatchNext, scene)
      else if scene.memory.IsToLogOff user then
        if scene.memory.IsLoggingOff user then
          (.ok .dispatchNext, { scene with memory := scene.memory.orderTaken user })
        else
          (.ok (.left .completed),
            exited { scene with memory := scene.memory.logOffBegun user } exits
              DispatchExit.logoff.place)
      else
        (.ok (.left .completed), exited scene exits DispatchExit.schedule.place) := by
  simp only [depart, currentUser, eval_bind, eval_general, eval_pure, skipsScheduler_eval, eval_ite,
    eval_fetch, takeExit_eval, logOff_eval, decide_eq_true_eq, beq_iff_eq, Bool.and_eq_true,
    bne_iff_ne]
  generalize Address.wrap (scene.cpu.general.read 11) = user
  by_cases skips : scene.memory.SkipsScheduler user list
  · simp only [if_pos skips]
  by_cases toLogOff : scene.memory.IsToLogOff user
  · simp only [if_neg skips, if_neg toLogOff.1, if_neg toLogOff.2, if_pos toLogOff]
  by_cases killed : scene.memory.get user Vmblok.operatingStatus &&& Vmblok.killed = 0
  · simp only [if_neg skips, if_pos killed, if_neg toLogOff]
  · have waits : scene.memory.get user Vmblok.queueStatus &&& Vmblok.consoleRead = 0 ∧
        scene.memory.get user Vmblok.operatingStatus &&& Vmblok.consoleFunction ≠ 0 :=
      Decidable.byContradiction fun reads => toLogOff ⟨killed, reads⟩
    simp only [if_neg skips, if_neg killed, if_pos waits, if_neg toLogOff]

/-- A departure with the selection behind it is the selection behind a departure that skips the
scheduler or finds the user being logged off, and an exit otherwise. -/
theorem departAndSelect_eval (list exits : UInt32) :
    (departAndSelect list exits).eval answers scene =
      let user := Address.wrap (scene.cpu.general.read 11)
      if scene.memory.SkipsScheduler user list then
        (select list exits).eval answers scene
      else if scene.memory.IsToLogOff user then
        if scene.memory.IsLoggingOff user then
          (select list exits).eval answers { scene with memory := scene.memory.orderTaken user }
        else
          (.ok .completed,
            exited { scene with memory := scene.memory.logOffBegun user } exits
              DispatchExit.logoff.place)
      else
        (.ok .completed, exited scene exits DispatchExit.schedule.place) := by
  simp only [departAndSelect, eval_bind, depart_eval]
  generalize Address.wrap (scene.cpu.general.read 11) = user
  by_cases skips : scene.memory.SkipsScheduler user list
  · simp only [if_pos skips]
  by_cases toLogOff : scene.memory.IsToLogOff user
  · by_cases loggingOff : scene.memory.IsLoggingOff user
    · simp only [if_neg skips, if_pos toLogOff, if_pos loggingOff]
    · simp only [if_neg skips, if_pos toLogOff, if_neg loggingOff, eval_pure]
  · simp only [if_neg skips, if_neg toLogOff, eval_pure]

end

@[simp]
theorem fetchRow_fromStorage {α : Type} [Stored α] (block : UInt32) (field : Field α)
    (count : Nat) : (fetchRow block field count).Takes Action.FromStorage :=
  takes_fetchRow_of_fetches (fun _ _ => trivial) block field count

theorem fromStorage_allowsWork : AllowsWork Action.FromStorage :=
  ⟨fun _ _ => trivial, fun _ _ => trivial, fun _ => trivial, fun _ => trivial, fun _ => trivial⟩

@[simp]
theorem fromStorage_allowsCharging : AllowsCharging Action.FromStorage :=
  fromStorage_allowsWork.charging

@[simp]
theorem fromStorage_allowsRoutine : AllowsRoutine Action.FromStorage :=
  fromStorage_allowsCharging.toAllowsRoutine

theorem dispatchUser_fromStorage (list exits user systemUser : UInt32) :
    (dispatchUser list exits user systemUser).Takes Action.FromStorage :=
  takes_dispatchUser fromStorage_allowsCharging fromStorage_allowsWork.controls trivial trivial
    (fun _ _ => trivial) list exits user systemUser

theorem select_fromStorage (list exits : UInt32) :
    (select list exits).Takes Action.FromStorage :=
  takes_select fromStorage_allowsCharging fromStorage_allowsWork.controls trivial trivial
    (fun _ _ => trivial) list exits

theorem departAndSelect_fromStorage (list exits : UInt32) :
    (departAndSelect list exits).Takes Action.FromStorage :=
  takes_departAndSelect fromStorage_allowsCharging fromStorage_allowsWork.controls trivial trivial
    (fun _ _ => trivial) list exits

end Dispatcher

section Instructions

variable {Machine Refusal : Type} {callouts : Callouts Machine Refusal}

theorem Registry.cpGate_congr {registry : Registry} {assist other : Assist} (cpu : Cpu)
    (same : registry.isEnabled assist = registry.isEnabled other) :
    registry.cpGate assist cpu = registry.cpGate other cpu := by
  simp only [cpGate, same]

/-- The outcome of an instruction that the gate stops. -/
def CpGate.refusal : CpGate → Outcome
  | operationException => .operationException
  | _ => .declined

theorem CpGate.refusal_ne (gate : CpGate) (completion : Completion) :
    gate.refusal ≠ completion.outcome := by
  cases gate <;> cases completion <;> nofun

namespace System

/-- The user in general register 11. -/
def currentUser (system : System Machine) : UInt32 :=
  Address.wrap (system.cpu.general.read 11)

section

variable (policy : Policy) (callouts : Callouts Machine Refusal) (system : System Machine)
  (list exits : UInt32)

/-- What the departure of the current user comes to. -/
def departed : Response Machine Refusal :=
  system.perform policy callouts (.disp1 list exits)

/-- What the selection comes to. -/
def selected : Response Machine Refusal :=
  system.perform policy callouts (.disp2 list exits)

end

open Dispatcher

/-- The departure takes an exit of the list and leaves storage in some state. -/
structure Leaves (policy : Policy) (view : StorageView callouts) (system : System Machine)
    (list exits : UInt32) (place : Field UInt32) (after : Memory) : Prop where
  completed : (system.departed policy callouts list exits).result = .ok .completed
  cpu : (system.departed policy callouts list exits).system.cpu =
    system.cpu.goingOn (after.get (Address.wrap exits) place)
  memory : view.memory (system.departed policy callouts list exits).system.machine = after

/-- The departure of the current user comes to what the selection comes to on a machine, but that
an instruction that is not performed leaves storage as it was. -/
structure Chains (policy : Policy) (view : StorageView callouts) (system : System Machine)
    (list exits : UInt32) (machine : Machine) : Prop where
  result : (system.departed policy callouts list exits).result =
    ({ system with machine }.selected policy callouts list exits).result
  cpu : (system.departed policy callouts list exits).system.cpu =
    ({ system with machine }.selected policy callouts list exits).system.cpu
  performed : ∀ completion : Completion,
    (system.departed policy callouts list exits).result = .ok completion.outcome →
    view.memory (system.departed policy callouts list exits).system.machine =
      view.memory ({ system with machine }.selected policy callouts list exits).system.machine
  unperformed : (∀ completion : Completion,
      (system.departed policy callouts list exits).result ≠ .ok completion.outcome) →
    view.memory (system.departed policy callouts list exits).system.machine =
      view.memory system.machine

/-- The ways that an answered departure of the current user goes. -/
structure DepartureSettles (policy : Policy) (view : StorageView callouts)
    (system : System Machine) (list exits : UInt32) : Prop where
  /-- The scheduler has nothing to do, and the departure is the selection. -/
  skips : (view.memory system.machine).SkipsScheduler system.currentUser (Address.wrap list) →
    (system.departed policy callouts list exits).Answered →
    (system.selected policy callouts list exits).Answered →
    (system.departed policy callouts list exits).SameAs
      (system.selected policy callouts list exits) view
  /-- The user is being logged off already. The departure is the selection on storage in which the
  order has been taken note of. -/
  loggedOff :
    ¬(view.memory system.machine).SkipsScheduler system.currentUser (Address.wrap list) →
    (view.memory system.machine).IsToLogOff system.currentUser →
    (view.memory system.machine).IsLoggingOff system.currentUser →
    ∀ machine,
    view.memory machine = (view.memory system.machine).orderTaken system.currentUser →
    (system.departed policy callouts list exits).Answered →
    ({ system with machine }.selected policy callouts list exits).Answered →
    system.Chains policy view list exits machine
  /-- The scheduler has to look at the user. -/
  schedules :
    ¬(view.memory system.machine).SkipsScheduler system.currentUser (Address.wrap list) →
    ¬(view.memory system.machine).IsToLogOff system.currentUser →
    system.registry.cpGate .disp1 system.cpu = .passed →
    (system.departed policy callouts list exits).Answered →
    system.Leaves policy view list exits DispatchExit.schedule.place (view.memory system.machine)
  /-- The logging off of the user begins. -/
  logsOff :
    ¬(view.memory system.machine).SkipsScheduler system.currentUser (Address.wrap list) →
    (view.memory system.machine).IsToLogOff system.currentUser →
    ¬(view.memory system.machine).IsLoggingOff system.currentUser →
    system.registry.cpGate .disp1 system.cpu = .passed →
    (system.departed policy callouts list exits).Answered →
    system.Leaves policy view list exits DispatchExit.logoff.place
      ((view.memory system.machine).logOffBegun system.currentUser)

variable {policy : Policy} {system : System Machine} {request : Request}
  {body : Microcode Completion}

/-- An assist of the control program that its gate stops leaves everything as it was. -/
theorem perform_of_stopped
    (isProgram : request.program policy system.registry.level = .controlProgram body)
    (stopped : system.registry.cpGate request.assist system.cpu ≠ .passed) :
    (system.perform policy callouts request).result =
        .ok (system.registry.cpGate request.assist system.cpu).refusal ∧
      (system.perform policy callouts request).system = system := by
  simp only [perform, isProgram, performControlProgram]
  cases gate : system.registry.cpGate request.assist system.cpu with
  | passed => exact absurd gate stopped
  | declined reason => exact ⟨rfl, rfl⟩
  | operationException => exact ⟨rfl, rfl⟩

/-- An answered assist of the control program that has passed its gate comes to what its evaluation
tells, where the machine gives the answers that it asks for. -/
theorem perform_comesTo_of_tells {answers : Answers} {asked : Action → Prop}
    (view : StorageView callouts) (tells : callouts.Tells answers asked view.memory system.machine)
    (isProgram : request.program policy system.registry.level = .controlProgram body)
    (takes : body.Takes asked) (ignores : body.IgnoresReference)
    (gate : system.registry.cpGate request.assist system.cpu = .passed)
    (answered : (system.perform policy callouts request).Answered) :
    (system.perform policy callouts request).ComesTo view system
      (body.eval answers { memory := view.memory system.machine, cpu := system.cpu }) := by
  have settled := @settle_comesTo _ _ callouts answers _ view
    { system with registry := system.registry.recordCall request.assist }
    tells request.assist body takes ignores
    { machine := system.machine, cpu := system.cpu } .refl Journal.inSpace_empty
  simp only [perform, isProgram, performControlProgram, gate] at answered ⊢
  have comesTo := settled answered
  simp only [Staging.scene, Journal.onto_empty] at comesTo
  exact ⟨comesTo.result, comesTo.cpu, comesTo.memory⟩

/-- An assist that asks for nothing but storage and registers does so on any machine. -/
theorem perform_comesTo (view : StorageView callouts) (answers : Answers)
    (isProgram : request.program policy system.registry.level = .controlProgram body)
    (takes : body.Takes Action.FromStorage)
    (gate : system.registry.cpGate request.assist system.cpu = .passed)
    (answered : (system.perform policy callouts request).Answered) :
    (system.perform policy callouts request).ComesTo view system
      (body.eval answers { memory := view.memory system.machine, cpu := system.cpu }) :=
  perform_comesTo_of_tells view (view.tells answers system.machine) isProgram takes
    (takes.mono fun _ fromStorage => fromStorage.isKeyless).ignoresReference gate answered

section

variable {view : StorageView callouts} {list exits : UInt32}

theorem departed_comesTo (view : StorageView callouts)
    (passed : system.registry.cpGate .disp1 system.cpu = .passed)
    (answered : (system.departed policy callouts list exits).Answered) :
    (system.departed policy callouts list exits).ComesTo view system
      ((departAndSelect (Address.wrap list) (Address.wrap exits)).eval default
        { memory := view.memory system.machine, cpu := system.cpu }) :=
  @perform_comesTo _ _ callouts policy system (.disp1 list exits) _ view default rfl
    (departAndSelect_fromStorage _ _) passed answered

theorem selected_comesTo (view : StorageView callouts)
    (passed : system.registry.cpGate .disp2 system.cpu = .passed)
    (answered : (system.selected policy callouts list exits).Answered) :
    (system.selected policy callouts list exits).ComesTo view system
      ((select (Address.wrap list) (Address.wrap exits)).eval default
        { memory := view.memory system.machine, cpu := system.cpu }) :=
  @perform_comesTo _ _ callouts policy system (.disp2 list exits) _ view default rfl
    (select_fromStorage _ _) passed answered

theorem departed_stopped (stopped : system.registry.cpGate .disp1 system.cpu ≠ .passed) :
    (system.departed policy callouts list exits).result =
        .ok (system.registry.cpGate .disp1 system.cpu).refusal ∧
      (system.departed policy callouts list exits).system = system :=
  @perform_of_stopped _ _ callouts policy system (.disp1 list exits) _ rfl stopped

theorem selected_stopped (stopped : system.registry.cpGate .disp2 system.cpu ≠ .passed) :
    (system.selected policy callouts list exits).result =
        .ok (system.registry.cpGate .disp2 system.cpu).refusal ∧
      (system.selected policy callouts list exits).system = system :=
  @perform_of_stopped _ _ callouts policy system (.disp2 list exits) _ rfl stopped

/-- Where the evaluation of the departure is that of the selection on other storage, the departure
chains to it. -/
theorem chains_of_eval {machine : Machine}
    (sameGate : system.registry.cpGate .disp2 system.cpu =
      system.registry.cpGate .disp1 system.cpu)
    (same : (departAndSelect (Address.wrap list) (Address.wrap exits)).eval default
        { memory := view.memory system.machine, cpu := system.cpu } =
      (select (Address.wrap list) (Address.wrap exits)).eval default
        { memory := view.memory machine, cpu := system.cpu })
    (departed : (system.departed policy callouts list exits).Answered)
    (selected : ({ system with machine }.selected policy callouts list exits).Answered) :
    system.Chains policy view list exits machine := by
  -- Both instructions stand behind one gate.
  by_cases passed : system.registry.cpGate .disp1 system.cpu = .passed
  · have departs := departed_comesTo view passed departed
    have selects := @selected_comesTo _ _ callouts policy { system with machine } list exits view
      (sameGate.trans passed) selected
    rw [same] at departs
    simp only at selects
    generalize (select (Address.wrap list) (Address.wrap exits)).eval default _ = evaluation
      at departs selects
    refine ⟨departs.result.trans selects.result.symm,
      departs.cpu.trans selects.cpu.symm, ?_, ?_⟩
    · intro completion performed
      rcases evaluation with ⟨reason | _, final⟩
      · rw [departs.result] at performed
        cases completion <;> nomatch performed
      · exact departs.memory.trans selects.memory.symm
    · intro unperformed
      rcases evaluation with ⟨reason | completion, final⟩
      · exact departs.memory
      · exact absurd departs.result (unperformed completion)
  · obtain ⟨departResult, departSystem⟩ :=
      @departed_stopped _ _ callouts policy system list exits passed
    obtain ⟨selectResult, selectSystem⟩ := @selected_stopped _ _ callouts policy
      { system with machine } list exits (by rwa [sameGate])
    refine ⟨?_, ?_, fun completion performed => ?_, fun _ => by rw [departSystem]⟩
    · rw [departResult, selectResult, sameGate]
    · rw [departSystem, selectSystem]
    · rw [departResult, Except.ok.injEq] at performed
      exact absurd performed (CpGate.refusal_ne _ _)

theorem passed_of_performed {completion : Completion}
    (performed : (system.departed policy callouts list exits).result = .ok completion.outcome) :
    system.registry.cpGate .disp1 system.cpu = .passed := by
  refine Decidable.byContradiction fun stopped => ?_
  obtain ⟨result, -⟩ := @departed_stopped _ _ callouts policy system list exits stopped
  rw [result, Except.ok.injEq] at performed
  exact CpGate.refusal_ne _ _ performed

theorem leaves_of_eval {place : Field UInt32} {after : Memory}
    (evaluated : (departAndSelect (Address.wrap list) (Address.wrap exits)).eval default
        { memory := view.memory system.machine, cpu := system.cpu } =
      (.ok .completed, exited { memory := after, cpu := system.cpu } (Address.wrap exits) place))
    (passed : system.registry.cpGate .disp1 system.cpu = .passed)
    (departed : (system.departed policy callouts list exits).Answered) :
    system.Leaves policy view list exits place after := by
  have comesTo := departed_comesTo view passed departed
  rw [evaluated] at comesTo
  exact ⟨comesTo.result, comesTo.cpu, comesTo.memory⟩

theorem leaves_of_logsOff
    (heeds : ¬(view.memory system.machine).SkipsScheduler system.currentUser (Address.wrap list))
    (toLogOff : (view.memory system.machine).IsToLogOff system.currentUser)
    (begins : ¬(view.memory system.machine).IsLoggingOff system.currentUser)
    (passed : system.registry.cpGate .disp1 system.cpu = .passed)
    (departed : (system.departed policy callouts list exits).Answered) :
    system.Leaves policy view list exits DispatchExit.logoff.place
      ((view.memory system.machine).logOffBegun system.currentUser) := by
  refine leaves_of_eval ?_ passed departed
  rw [departAndSelect_eval]
  exact (if_neg heeds).trans ((if_pos toLogOff).trans (if_neg begins))

theorem departure_settles (policy : Policy) (view : StorageView callouts) (system : System Machine)
    (list exits : UInt32) (departs : system.registry.isEnabled .disp1)
    (selects : system.registry.isEnabled .disp2) :
    system.DepartureSettles policy view list exits := by
  have sameGate : system.registry.cpGate .disp2 system.cpu =
      system.registry.cpGate .disp1 system.cpu :=
    Registry.cpGate_congr system.cpu (selects.trans departs.symm)
  have evaluated : (departAndSelect (Address.wrap list) (Address.wrap exits)).eval default
      { memory := view.memory system.machine, cpu := system.cpu } = _ := departAndSelect_eval _ _
  simp only at evaluated
  rw [← currentUser] at evaluated
  constructor
  · intro skips departed selected
    rw [if_pos skips] at evaluated
    by_cases passed : system.registry.cpGate .disp1 system.cpu = .passed
    · have departs := departed_comesTo view passed departed
      rw [evaluated] at departs
      exact departs.sameAs (selected_comesTo view (sameGate.trans passed) selected)
    · obtain ⟨departResult, departSystem⟩ :=
        @departed_stopped _ _ callouts policy system list exits passed
      obtain ⟨selectResult, selectSystem⟩ :=
        @selected_stopped _ _ callouts policy system list exits (by rwa [sameGate])
      refine ⟨?_, by rw [departSystem, selectSystem], by rw [departSystem, selectSystem]⟩
      rw [departResult, selectResult, sameGate]
  · intro heeds toLogOff loggingOff machine sameMemory
    rw [if_neg heeds, if_pos toLogOff, if_pos loggingOff, ← sameMemory] at evaluated
    exact chains_of_eval sameGate evaluated
  · intro heeds stays
    rw [if_neg heeds, if_neg stays] at evaluated
    exact leaves_of_eval evaluated
  · exact leaves_of_logsOff

end

end System

end Instructions

end Assist370
