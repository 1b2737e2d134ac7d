import Assist370.Proofs.Outcome

/-!
# The order of callouts

For any instruction the machine is first looked at. Then, if the program of the assist is done, the
runs of its journal are stored one after the other until one is refused, and if none is refused the
translation lookaside buffer is emptied where the program has asked for that
(`System.perform_conduct`). So the callouts that an instruction makes tell how far it has come.
-/

namespace Assist370

variable {Machine Refusal : Type}

namespace Journal.Run

/-- The addresses of the run. -/
def region (run : Run) : Region :=
  ⟨run.start, run.bytes.length⟩

/-- The callout that stores the run. -/
def storing (run : Run) : Callout :=
  .writeReal run.start run.bytes

section

variable (callouts : Callouts Machine Refusal)

/-- The runs that are asked to be stored, up to the first one that is refused. -/
def asked : List Run → Machine → List Run
  | [], _ => []
  | run :: runs, machine =>
      match callouts.writeReal run.start run.bytes machine with
      | (.ok _, machine) => run :: asked runs machine
      | (.error _, _) => [run]

theorem asked_prefix (runs : List Run) (machine : Machine) :
    asked callouts runs machine <+: runs := by
  induction runs generalizing machine with
  | nil => exact List.prefix_rfl
  | cons run runs ih =>
      simp only [asked]
      split
      · exact (List.prefix_cons_inj run).mpr (ih _)
      · exact (List.prefix_cons_inj run).mpr List.nil_prefix

variable {callouts}

theorem asked_of_ok {runs : List Run} {machine : Machine}
    (written : (writeAll callouts runs machine).1 = .ok ()) :
    asked callouts runs machine = runs := by
  induction runs generalizing machine with
  | nil => rfl
  | cons run runs ih =>
      simp only [writeAll] at written
      simp only [asked]
      generalize callouts.writeReal run.start run.bytes machine = answered at written
      rcases answered with ⟨_ | _, middle⟩
      · simp at written
      · exact congrArg (run :: ·) (ih written)

/-- The last run that is asked to be stored is the one whose refusal is reported. -/
theorem asked_of_error {runs : List Run} {machine : Machine} {error : AccessError Refusal}
    (failed : (writeAll callouts runs machine).1 = .error error) :
    ∃ front run refusal, asked callouts runs machine = front ++ [run] ∧
      error = .storage run.start .write refusal := by
  induction runs generalizing machine with
  | nil => simp [writeAll] at failed
  | cons run runs ih =>
      simp only [writeAll] at failed
      simp only [asked]
      generalize callouts.writeReal run.start run.bytes machine = answered at failed
      rcases answered with ⟨refusal | _, middle⟩
      · exact ⟨[], run, refusal, rfl, (Except.error.inj failed).symm⟩
      · obtain ⟨front, last, refusal, isAsked, isError⟩ := ih failed
        exact ⟨run :: front, last, refusal, congrArg (run :: ·) isAsked, isError⟩

theorem writeAll_record (runs : List Run) (machine : Machine × List Callout) :
    (writeAll callouts.recorded runs machine).2.2 =
      machine.2 ++ (asked callouts runs machine.1).map storing := by
  induction runs generalizing machine with
  | nil => simp [writeAll, asked]
  | cons run runs ih =>
      have recorded : callouts.recorded.writeReal run.start run.bytes machine =
          ((callouts.writeReal run.start run.bytes machine.1).1,
            (callouts.writeReal run.start run.bytes machine.1).2, machine.2 ++ [run.storing]) :=
        rfl
      simp only [writeAll, asked, recorded]
      generalize callouts.writeReal run.start run.bytes machine.1 = answered
      rcases answered with ⟨_ | _, middle⟩
      · rfl
      · simp [ih]

end

end Journal.Run

/-- A store that is refused changes no byte. -/
def StorageView.RefusesWhole {callouts : Callouts Machine Refusal} (view : StorageView callouts) :
    Prop :=
  ∀ (address : UInt32) (bytes : List UInt8) (machine : Machine) (refusal : Refusal),
    address.toNat + bytes.length ≤ Address.space →
    (callouts.writeReal address bytes machine).1 = .error refusal →
    view.memory (callouts.writeReal address bytes machine).2 = view.memory machine

/-- When a store is refused, the stores before it have been made. -/
theorem StorageView.memory_writeAll_refused {callouts : Callouts Machine Refusal}
    (view : StorageView callouts) (whole : view.RefusesWhole) {runs : List Journal.Run}
    (inSpace : ∀ run ∈ runs, run.InSpace) {machine : Machine} {error : AccessError Refusal}
    (failed : (Journal.Run.writeAll callouts runs machine).1 = .error error) :
    view.memory (Journal.Run.writeAll callouts runs machine).2 =
      Journal.Run.storeAll (Journal.Run.asked callouts runs machine).dropLast
        (view.memory machine) := by
  induction runs generalizing machine with
  | nil => simp [Journal.Run.writeAll] at failed
  | cons run runs ih =>
      simp only [Journal.Run.writeAll] at failed
      simp only [Journal.Run.writeAll, Journal.Run.asked]
      have refused := fun refusal => whole run.start run.bytes machine refusal
        (inSpace run (by simp))
      have stored := view.writeReal run.start run.bytes machine (inSpace run (by simp))
      generalize callouts.writeReal run.start run.bytes machine = answered
        at failed refused stored
      rcases answered with ⟨refusal | _, middle⟩
      · exact refused refusal rfl
      · obtain ⟨front, last, _, isAsked, -⟩ := Journal.Run.asked_of_error failed
        rw [ih (fun other other_mem => inSpace other (by simp [other_mem])) failed, stored rfl]
        simp only [isAsked, ← List.cons_append, List.dropLast_concat]
        rfl

/-- What the completion of an assist comes to on a machine with a record: after some looks, the runs
of the journal up to the first that is refused, or all of them. -/
inductive Staging.Commits (callouts : Callouts Machine Refusal)
    (staging : Staging (Machine × List Callout)) (looks : List Callout) :
    Except (AccessError Refusal) Cpu × Machine × List Callout → Prop where
  | failed {error : AccessError Refusal} {stores : List Journal.Run}
      {after : Machine × List Callout}
      (record : after.2 = staging.machine.2 ++ looks ++ stores.map Journal.Run.storing)
      (fromJournal : stores <+: staging.journal.runs)
      (lastRefused : ∀ run, stores.getLast? = some run →
        ∃ refusal, error = .storage run.start .write refusal)
      (stored : ∀ view : StorageView callouts, view.RefusesWhole →
        view.memory after.1 =
          Journal.Run.storeAll stores.dropLast (view.memory staging.machine.1)) :
      Commits callouts staging looks (.error error, after)
  | completed {after : Machine × List Callout}
      (record : after.2 =
        staging.machine.2 ++ looks ++ staging.journal.runs.map Journal.Run.storing ++
          if staging.purge then [.purgeTlb] else []) :
      Commits callouts staging looks (.ok staging.committedCpu, after)

/-- A completion that has looked and then stores is recorded up to the store that is refused, or
whole. -/
theorem Staging.commits_of_looked {callouts : Callouts Machine Refusal}
    {staging : Staging (Machine × List Callout)} (inSpace : staging.journal.InSpace)
    {looks : List Callout} {middle : Machine × List Callout}
    (probed : Journal.Run.probeAll callouts.recorded staging.journal.runs staging.machine =
      (.ok (), middle))
    (looked : middle.2 = staging.machine.2 ++ looks)
    (sameMemory : ∀ view : StorageView callouts,
      view.memory middle.1 = view.memory staging.machine.1) :
    staging.Commits callouts looks (staging.commit callouts.recorded) := by
  have written := @Journal.Run.writeAll_record Machine Refusal callouts
    staging.journal.runs middle
  have unrecorded := Journal.Run.writeAll_map callouts.forgetRecord staging.journal.runs middle
  simp only [commit, probed]
  generalize Journal.Run.writeAll callouts.recorded staging.journal.runs middle = answered
    at written unrecorded
  rw [looked] at written
  rcases answered with ⟨error | _, after⟩
  · have failed := congrArg Prod.fst unrecorded
    obtain ⟨front, last, refusal, isAsked, isError⟩ := Journal.Run.asked_of_error failed
    refine .failed written (Journal.Run.asked_prefix _ _ _) (fun run isLast => ?_)
      fun view whole => ?_
    · rw [show Journal.Run.asked callouts staging.journal.runs middle.1 = front ++ [last] from
        isAsked, List.getLast?_concat, Option.some.injEq] at isLast
      exact ⟨refusal, isLast ▸ isError⟩
    · have stored := view.memory_writeAll_refused whole (Journal.inSpace_of_mem_runs inSpace) failed
      rw [unrecorded] at stored
      rw [← sameMemory view]
      exact stored
  · have all : Journal.Run.asked callouts staging.journal.runs middle.1 = staging.journal.runs :=
      Journal.Run.asked_of_ok (congrArg Prod.fst unrecorded)
    rw [all] at written
    refine .completed ?_
    dsimp only at written ⊢
    split <;> simp [Callouts.recorded, written]

/-- A completion probes the runs of its journal, then stores them up to the first that is refused,
and then may empty the lookaside buffer. -/
theorem Staging.commit_record {callouts : Callouts Machine Refusal}
    {staging : Staging (Machine × List Callout)} (inSpace : staging.journal.InSpace) :
    ∃ looks, (∀ callout ∈ looks, callout.Looks) ∧
      staging.Commits callouts looks (staging.commit callouts.recorded) := by
  have probed := Journal.Run.probeAll_looks callouts.recorded (Journal.inSpace_of_mem_runs inSpace)
    staging.machine
  generalize isProbed : Journal.Run.probeAll callouts.recorded staging.journal.runs
    staging.machine = answered at probed
  obtain ⟨looks, record, onlyLooks⟩ := probed.record
  have sameMemory := fun view : StorageView callouts =>
    view.memory_of_looks (probed.forget.mono fun _ made => made.2)
  refine ⟨looks, onlyLooks, ?_⟩
  rcases answered with ⟨error | _, middle⟩
  · simp only [commit, isProbed]
    refine .failed (by simpa using record) List.nil_prefix (by simp) ?_
    exact fun view _ => sameMemory view
  · exact commits_of_looked inSpace isProbed record sameMemory

namespace System

variable {policy : Policy} {callouts : Callouts Machine Refusal} {system : System Machine}
  {request : Request}

/-- What an instruction comes to, with the callouts made for it. -/
inductive Conduct (policy : Policy) (callouts : Callouts Machine Refusal) (system : System Machine)
    (request : Request) : Response Machine Refusal → List Callout → Prop where
  /-- The instruction is left to software, or does not exist. -/
  | left {response : Response Machine Refusal} {looks : List Callout}
      (onlyLooks : ∀ callout ∈ looks, callout.Looks)
      (unperformed : response.result = .ok .declined ∨
        response.result = .ok .operationException) :
      Conduct policy callouts system request response looks
  /-- A callout of the program or of its completion is refused. The runs before a refused one have
  been stored. -/
  | failed {response : Response Machine Refusal} {looks : List Callout}
      {stores : List Journal.Run} {error : AccessError Refusal}
      (onlyLooks : ∀ callout ∈ looks, callout.Looks)
      (result : response.result = .error error)
      (registry : response.system.registry = system.registry.recordCall request.assist)
      (cpu : ∃ timer, response.system.cpu = { system.cpu with virtualTimerAddress := timer } ∧
        (request.assist.family = .cp → timer = system.cpu.virtualTimerAddress))
      (fromJournal : stores <+: (system.ran policy callouts request).2.journal.runs)
      (lastRefused : ∀ run, stores.getLast? = some run →
        ∃ refusal, error = .storage run.start .write refusal)
      (stored : ∀ view : StorageView callouts, view.RefusesWhole →
        view.memory response.system.machine =
          Journal.Run.storeAll stores.dropLast (view.memory system.machine)) :
      Conduct policy callouts system request response (looks ++ stores.map Journal.Run.storing)
  /-- The assist completes. -/
  | completed {response : Response Machine Refusal} {looks : List Callout}
      {completion : Completion}
      (onlyLooks : ∀ callout ∈ looks, callout.Looks)
      (result : response.result = .ok completion.outcome)
      (isDone : (system.ran policy callouts request).1 = .done completion)
      (cpu : response.system.cpu = (system.ran policy callouts request).2.committedCpu) :
      Conduct policy callouts system request response
        (looks ++ (system.ran policy callouts request).2.journal.runs.map Journal.Run.storing ++
          if (system.ran policy callouts request).2.purge then [.purgeTlb] else [])

/-- The settlement of an assist whose program has come to its end on a machine with a record. Its
stores and the purge are committed, after the looks of the program and those of the commitment. -/
theorem settle_done_conduct {before : System (Machine × List Callout)} {completion : Completion}
    {after : Staging (Machine × List Callout)} {looks : List Callout}
    (registry : before.registry = system.registry.recordCall request.assist)
    (cpu : ∃ timer, before.cpu = { system.cpu with virtualTimerAddress := timer } ∧
      (request.assist.family = .cp → timer = system.cpu.virtualTimerAddress))
    (sameRan : (Ending.done completion, Staging.map Prod.fst after) =
      system.ran policy callouts request)
    (inSpace : after.journal.InSpace) (onlyLooks : ∀ callout ∈ looks, callout.Looks)
    (record : after.machine.2 = looks)
    (sameMemory : ∀ view : StorageView callouts,
      view.memory after.machine.1 = view.memory system.machine) :
    Conduct policy callouts system request
      ((before.settle callouts.recorded request.assist (.done completion, after)).map Prod.fst)
      (before.settle callouts.recorded request.assist
        (.done completion, after)).system.machine.2 := by
  have sameJournal : (system.ran policy callouts request).2.journal = after.journal := by
    rw [← sameRan]
    rfl
  have samePurge : (system.ran policy callouts request).2.purge = after.purge := by
    rw [← sameRan]
    rfl
  obtain ⟨probes, onlyProbes, committed⟩ :=
    @Staging.commit_record Machine Refusal callouts after inSpace
  have onlyLooks : ∀ callout ∈ looks ++ probes, callout.Looks := by
    intro callout callout_mem
    exact (List.mem_append.mp callout_mem).elim (onlyLooks callout) (onlyProbes callout)
  simp only [settle]
  generalize after.commit callouts.recorded = answered at committed
  cases committed with
  | failed made fromJournal lastRefused stored =>
      rw [record] at made
      rw [← sameJournal] at fromJournal
      dsimp only [Response.map, System.map]
      rw [made]
      refine .failed onlyLooks rfl registry cpu fromJournal lastRefused fun view whole => ?_
      rw [← sameMemory view]
      exact stored view whole
  | completed made =>
      rw [record, ← sameJournal, ← samePurge] at made
      dsimp only [Response.map, System.map]
      rw [made]
      refine .completed onlyLooks rfl ?_ ?_
      · rw [← sameRan]
      · rw [← sameRan]
        rfl

/-- The settlement of an assist whose program has run on a machine with a record. -/
theorem settle_conduct {before : System (Machine × List Callout)}
    {recordedRan : Ending Refusal Completion × Staging (Machine × List Callout)}
    (registry : before.registry = system.registry.recordCall request.assist)
    (cpu : ∃ timer, before.cpu = { system.cpu with virtualTimerAddress := timer } ∧
      (request.assist.family = .cp → timer = system.cpu.virtualTimerAddress))
    (sameRan : Prod.map id (Staging.map Prod.fst) recordedRan = system.ran policy callouts request)
    (inSpace : recordedRan.2.journal.InSpace)
    (looked : callouts.recorded.Reaches Callout.Looks (system.machine, [])
      recordedRan.2.machine) :
    Conduct policy callouts system request
      ((before.settle callouts.recorded request.assist recordedRan).map Prod.fst)
      (before.settle callouts.recorded request.assist recordedRan).system.machine.2 := by
  obtain ⟨looks, record, onlyLooks⟩ := looked.record
  have sameMemory := fun view : StorageView callouts =>
    view.memory_of_looks (looked.forget.mono fun _ made => made.2)
  rw [List.nil_append] at record
  rcases recordedRan with ⟨completion | reason | error, after⟩
  · exact settle_done_conduct registry cpu sameRan inSpace onlyLooks record sameMemory
  · dsimp only [settle, decline, Response.map, System.map]
    dsimp only at record
    rw [record]
    exact .left onlyLooks (.inl rfl)
  · dsimp only [settle, Response.map, System.map]
    dsimp only at record sameMemory
    have nothing : [] <+: (system.ran policy callouts request).2.journal.runs := List.nil_prefix
    rw [record, ← List.append_nil looks]
    exact .failed onlyLooks rfl registry cpu nothing (by simp) fun view _ => sameMemory view

/-- Every instruction conducts itself in one of the ways. -/
theorem perform_conduct (policy : Policy) (callouts : Callouts Machine Refusal)
    (system : System Machine) (request : Request) :
    Conduct policy callouts system request (system.perform policy callouts request)
      (system.calloutsMade policy callouts request) := by
  have course := perform_course policy callouts.recorded
    (system.map fun machine => (machine, [])) request
  rw [calloutsMade, ← forget_perform_recorded]
  generalize (system.map fun machine => (machine, [])).perform policy callouts.recorded request =
    response at course
  cases course with
  | refused reason timer _ => exact .left (by simp [decline, System.map]) (.inl rfl)
  | missing => exact .left (by simp [System.map]) (.inr rfl)
  | controlProgram body isProgram =>
      have isProgram : request.program policy system.registry.level = .controlProgram body :=
        isProgram
      refine settle_conduct rfl ⟨_, rfl, fun _ => rfl⟩ ?_ (body.run_inSpace _ Journal.inSpace_empty)
        (body.run_looks callouts.recorded
          { machine := (system.machine, []), cpu := system.cpu })
      rw [ran, staging, isProgram]
      exact (body.run_map callouts.forgetRecord _).symm
  | virtualMachine body timer isProgram _ =>
      have isProgram : request.program policy system.registry.level = .virtualMachine body :=
        isProgram
      refine settle_conduct rfl ⟨timer, rfl, fun isControl => ?_⟩ ?_
        (Microcode.run_inSpace _ _ Journal.inSpace_empty)
        ((GuestContext.lookUp.bind body).run_looks callouts.recorded
          { machine := (system.machine, [])
            cpu := { system.cpu with virtualTimerAddress := none } })
      · rw [Request.family_eq_vm isProgram] at isControl
        contradiction
      · rw [ran, staging, isProgram]
        exact ((GuestContext.lookUp.bind body).run_map callouts.forgetRecord _).symm

namespace Conduct

variable {response : Response Machine Refusal} {made : List Callout}

theorem not_purge_of_looks {looks : List Callout} (onlyLooks : ∀ callout ∈ looks, callout.Looks) :
    Callout.purgeTlb ∉ looks :=
  fun purge_mem => onlyLooks _ purge_mem

theorem not_purge_storing (stores : List Journal.Run) :
    Callout.purgeTlb ∉ stores.map Journal.Run.storing := by
  simp [Journal.Run.storing]

/-- The lookaside buffer is emptied by a completed assist alone whose program has asked for it. -/
theorem purge_of_mem (conduct : Conduct policy callouts system request response made)
    (purge_mem : .purgeTlb ∈ made) :
    ∃ completion : Completion, response.result = .ok completion.outcome ∧
      (system.ran policy callouts request).1 = .done completion ∧
      (system.ran policy callouts request).2.purge = true := by
  cases conduct with
  | left onlyLooks _ => exact absurd purge_mem (not_purge_of_looks onlyLooks)
  | failed onlyLooks _ _ _ _ _ _ =>
      rcases List.mem_append.mp purge_mem with looked | stored
      · exact absurd looked (not_purge_of_looks onlyLooks)
      · exact absurd stored (not_purge_storing _)
  | completed onlyLooks result isDone _ =>
      refine ⟨_, result, isDone, ?_⟩
      rcases List.mem_append.mp purge_mem with earlier | last
      · rcases List.mem_append.mp earlier with looked | stored
        · exact absurd looked (not_purge_of_looks onlyLooks)
        · exact absurd stored (not_purge_storing _)
      · split at last
        · assumption
        · simp at last

theorem done_of_completed (conduct : Conduct policy callouts system request response made)
    {completion : Completion} (completed : response.result = .ok completion.outcome) :
    (system.ran policy callouts request).1 = .done completion ∧
      response.system.cpu = (system.ran policy callouts request).2.committedCpu := by
  cases conduct with
  | left _ unperformed =>
      cases completion <;> simp [completed, Completion.outcome] at unperformed
  | failed _ result _ _ _ _ _ => simp [completed] at result
  | completed _ result isDone cpu =>
      have same := outcome_injective (Except.ok.inj (result.symm.trans completed))
      exact ⟨same ▸ isDone, cpu⟩

/-- When an assist completes whose program has asked for it, the lookaside buffer has been emptied
once. -/
theorem count_purge (conduct : Conduct policy callouts system request response made)
    {completion : Completion} (completed : response.result = .ok completion.outcome)
    (asked : (system.ran policy callouts request).2.purge = true) :
    made.count .purgeTlb = 1 := by
  cases conduct with
  | left _ unperformed =>
      cases completion <;> simp [completed, Completion.outcome] at unperformed
  | failed _ result _ _ _ _ _ => simp [completed] at result
  | completed onlyLooks _ _ _ =>
      rw [if_pos asked, List.count_append, List.count_append,
        List.count_eq_zero.mpr (not_purge_of_looks onlyLooks),
        List.count_eq_zero.mpr (not_purge_storing _)]
      rfl

end Conduct

end System

end Assist370
