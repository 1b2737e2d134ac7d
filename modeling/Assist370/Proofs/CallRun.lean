import Mathlib.Data.List.Chain
import Assist370.Proofs.Outcome

/-!
# Runs of calls

Between two assists the control program runs code of its own, which leaves the registers as it
likes. So a run of assists is a list of calls, each with the registers that it finds, while storage
is what the calls before have left. What a run does is told by an account that is kept of it: an
invariant that ties the account to the system and is kept by each call holds after all of them
(`System.throughout_of_invariant`). An answered call of the control program's assists has been
stopped at its gate, or it has come to what its program ensures (`System.call_settles`).
-/

namespace Assist370

/-- An instruction for an assist, with the registers that it finds. -/
structure Call where
  cpu : Cpu
  request : Request

/-- A call of the control program for the user in general register 11. -/
def Call.forUser (user : UInt32) (request : Request) : Call where
  cpu :=
    { Cpu.initial with
      general := RegisterFile.zero.load 11 user
      control := RegisterFile.zero.load 6 0x02000000 }
  request

/-- The instruction has been answered: no callout that it needed has been refused. -/
def Response.Answered {Machine Refusal : Type} (response : Response Machine Refusal) : Prop :=
  response.result.isOk = true

instance {Machine Refusal : Type} (response : Response Machine Refusal) :
    Decidable response.Answered :=
  inferInstanceAs (Decidable (_ = true))

theorem Response.answered_iff {Machine Refusal : Type} {response : Response Machine Refusal} :
    response.Answered ↔ ∃ outcome, response.result = .ok outcome := by
  rw [Answered]
  cases response.result <;> simp [Except.isOk, Except.toBool]

theorem Response.failed_of_unanswered {Machine Refusal : Type}
    {response : Response Machine Refusal} (unanswered : ¬response.Answered) :
    ∃ error, response.result = .error error := by
  cases result : response.result with
  | ok outcome => exact absurd (answered_iff.mpr ⟨outcome, result⟩) unanswered
  | error error => exact ⟨error, rfl⟩

namespace System

section

variable {Machine Refusal Account : Type} (policy : Policy) (callouts : Callouts Machine Refusal)

/-- What a call comes to. -/
def call (system : System Machine) (call : Call) : Response Machine Refusal :=
  { system with cpu := call.cpu }.perform policy callouts call.request

/-- What is left after calls have been made one after the other. -/
def callAll (system : System Machine) : List Call → System Machine
  | [] => system
  | call :: rest => (system.call policy callouts call).system.callAll rest

/-- The account of a run, to which each call adds its entry. -/
def account (enter : Account → System Machine → Call → Account) (account : Account)
    (system : System Machine) : List Call → Account
  | [] => account
  | call :: rest =>
      (system.call policy callouts call).system.account enter (enter account system call) rest

/-- A property of the account so far, the system and the call that is made next holds along a
run. -/
def Throughout (enter : Account → System Machine → Call → Account)
    (property : Account → System Machine → Call → Prop) (account : Account)
    (system : System Machine) : List Call → Prop
  | [] => True
  | call :: rest =>
      property account system call ∧
        (system.call policy callouts call).system.Throughout enter property
          (enter account system call) rest

instance Throughout.decidable (enter : Account → System Machine → Call → Account)
    (property : Account → System Machine → Call → Prop)
    [∀ account system call, Decidable (property account system call)] (account : Account)
    (system : System Machine) :
    (calls : List Call) → Decidable (system.Throughout policy callouts enter property account calls)
  | [] => inferInstanceAs (Decidable True)
  | call :: rest =>
      have := Throughout.decidable enter property (enter account system call)
        (system.call policy callouts call).system rest
      inferInstanceAs (Decidable (_ ∧ _))

end

variable {Machine Refusal Account : Type} {policy : Policy} {callouts : Callouts Machine Refusal}
  {enter : Account → System Machine → Call → Account} {account : Account}
  {system : System Machine} {calls : List Call}

theorem Throughout.mono {property weaker : Account → System Machine → Call → Prop}
    (throughout : system.Throughout policy callouts enter property account calls)
    (implies : ∀ account system, ∀ call ∈ calls, property account system call →
      weaker account system call) :
    system.Throughout policy callouts enter weaker account calls := by
  induction calls generalizing account system with
  | nil => trivial
  | cons call rest ih =>
      exact ⟨implies account system call (by simp) throughout.1,
        ih throughout.2 fun account system other other_mem =>
          implies account system other (by simp [other_mem])⟩

/-- What each call shows and keeps under an invariant, a run shows throughout and keeps. -/
theorem throughout_of_invariant {invariant : Account → System Machine → Prop}
    {assumed property : Account → System Machine → Call → Prop}
    (step : ∀ account system, ∀ call ∈ calls, invariant account system →
      assumed account system call →
      property account system call ∧
        invariant (enter account system call) (system.call policy callouts call).system)
    (holds : invariant account system)
    (throughout : system.Throughout policy callouts enter assumed account calls) :
    system.Throughout policy callouts enter property account calls ∧
      invariant (system.account policy callouts enter account calls)
        (system.callAll policy callouts calls) := by
  induction calls generalizing account system with
  | nil => exact ⟨trivial, holds⟩
  | cons call rest ih =>
      obtain ⟨shown, kept⟩ := step account system call (by simp) holds throughout.1
      obtain ⟨along, final⟩ := ih
        (fun account system other other_mem => step account system other (by simp [other_mem]))
        kept throughout.2
      exact ⟨⟨shown, along⟩, final⟩

end System

/-- Between visits other code runs. What that code carries over from each visit to the next, and the
visits keep, is found by all visits after one that leaves it. -/
theorem found_of_left {Visit : Type} {left found : Visit → Prop} {first : Visit}
    {rest : List Visit}
    (carried : (first :: rest).IsChain fun earlier later => left earlier → found later)
    (kept : ∀ visit ∈ rest, found visit → left visit) (isLeft : left first) :
    ∀ visit ∈ rest, found visit := by
  induction rest generalizing first with
  | nil => simp
  | cons next rest ih =>
      obtain ⟨handed, carried⟩ := List.isChain_cons_cons.mp carried
      have isFound := handed isLeft
      have later := ih carried (fun visit visit_mem => kept visit (by simp [visit_mem]))
        (kept next (by simp) isFound)
      exact List.forall_mem_cons.mpr ⟨isFound, later⟩

section

variable {Machine Refusal : Type} {callouts : Callouts Machine Refusal}

/-- Storage is known, and so is which translations a machine gives while it is only looked at. -/
def Knowledge.ofMachine (callouts : Callouts Machine Refusal) (start : Machine) : Knowledge where
  faithful := True
  translates control0 control1 address answer :=
    ∃ machine found, callouts.Reaches Callout.Looks start machine ∧
      (callouts.translate control0 control1 address machine).1 = .ok found ∧
      answer = found.map Address.wrap

theorem StorageView.shows_ofMachine (view : StorageView callouts) (start : Machine) :
    callouts.Shows (.ofMachine callouts start) view.memory start where
  keeps _ looked := view.memory_of_looks looked
  fetches _ journal address length machine := view.fetch_ok journal address length machine
  translates machine looked _ _ _ found answered := ⟨machine, found, looked, answered, rfl⟩

/-- What has become of an answered call of the control program's assists. -/
inductive Call.Settles (view : StorageView callouts) (system : System Machine) (call : Call)
    (declined : Decline → Scene → Prop) (post : Completion → Scene → Prop)
    (response : Response Machine Refusal) : Prop where
  /-- The gate has stopped it. -/
  | stopped (gate : system.registry.cpGate call.request.assist call.cpu ≠ .passed)
      (unperformed : response.result = .ok .declined ∨ response.result = .ok .operationException)
      (cpu : response.system.cpu = call.cpu)
      (memory : view.memory response.system.machine = view.memory system.machine)
  /-- Its program has left it to software. -/
  | left (reason : Decline) (final : Scene) (holds : declined reason final)
      (unperformed : response.result = .ok .declined)
      (memory : view.memory response.system.machine = view.memory system.machine)
  /-- Its program is done. -/
  | performed (completion : Completion) (final : Scene) (holds : post completion final)
      (completed : response.result = .ok completion.outcome)
      (cpu : response.system.cpu = final.committedCpu)
      (memory : view.memory response.system.machine = final.memory)

/-- An answered call of the control program's assists has been stopped at the gate, or it has come
to what its program ensures. -/
theorem System.call_settles {policy : Policy} (view : StorageView callouts)
    {system : System Machine} {call : Call} {body : Microcode Completion}
    (isProgram : call.request.program policy system.registry.level = .controlProgram body)
    (answered : (system.call policy callouts call).Answered)
    {declined : Decline → Scene → Prop} {post : Completion → Scene → Prop}
    (ensures : body.Ensures (.ofMachine callouts system.machine) declined post
      { memory := view.memory system.machine, cpu := call.cpu }) :
    call.Settles view system declined post (system.call policy callouts call) := by
  have atStart : body.Ensures (.ofMachine callouts system.machine) declined post
      (Staging.scene view.memory { machine := system.machine, cpu := call.cpu }) := by
    simpa [Staging.scene] using ensures
  have ends := atStart.run (view.shows_ofMachine system.machine) .refl fun _ _ => trivial
  have looked := view.memory_of_looks
    (body.run_looks callouts { machine := system.machine, cpu := call.cpu })
  have inSpace : (body.run callouts
      { machine := system.machine, cpu := call.cpu }).2.journal.InSpace :=
    body.run_inSpace callouts Journal.inSpace_empty
  simp only [System.call, System.perform, isProgram, System.performControlProgram] at answered ⊢
  split
  · rename_i reason gate
    exact .stopped (by simp [gate]) (.inl rfl) rfl rfl
  · rename_i gate
    exact .stopped (by simp [gate]) (.inr rfl) rfl rfl
  · rename_i gate
    rw [gate] at answered
    generalize body.run callouts { machine := system.machine, cpu := call.cpu } = ran
      at ends looked inSpace answered
    rcases ran with ⟨completion | reason | error, after⟩
    · cases committed : after.commit callouts with
      | mk answer machine =>
          rcases answer with error | cpu
          · simp [System.settle, committed, Response.Answered, Except.isOk, Except.toBool]
              at answered
          · obtain ⟨sameCpu, seen⟩ := view.commit_ok inSpace (congrArg Prod.fst committed)
            rw [committed] at seen
            refine .performed completion (after.scene view.memory) ends ?_ ?_ ?_
            all_goals simp only [System.settle, committed]
            · exact sameCpu
            · exact seen
    · exact .left reason (after.scene view.memory) ends rfl looked
    · simp [System.settle, Response.Answered, Except.isOk, Except.toBool] at answered

end

end Assist370
