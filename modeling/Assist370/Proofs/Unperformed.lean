import Assist370.Proofs.Outcome
import Assist370.Proofs.PlainMachine
import Assist370.Proofs.UserSelection

/-!
# Instructions that are left to software

An assist that declines has done nothing: it has only looked at the machine, and the registers are
those before it, with two exceptions. The assists of a virtual machine look the address of the
virtual interval timer up, and the selection of a user hands two registers to software.
-/

namespace Assist370

variable {Machine Refusal : Type}

/-- The memory in which an instruction looks for a user: that with the time of the current user
charged, and for a departure with the order to log the user off taken note of. -/
inductive Dispatcher.Searches (memory : Memory) (cpu : Cpu) : Request → Memory → Prop where
  | departAndSelect (list exits : UInt32) {departed : Memory}
      (departs : Departs memory (Address.wrap (cpu.general.read 11)) departed) :
      Searches memory cpu (.disp1 list exits)
        (departed.put (Address.wrap (cpu.general.read 11)) Vmblok.totalTime
          cpu.cpuTimer.toUInt64)
  | select (list exits : UInt32) :
      Searches memory cpu (.disp2 list exits)
        (memory.put (Address.wrap (cpu.general.read 11)) Vmblok.totalTime
          cpu.cpuTimer.toUInt64)

/-- The dispatcher's list that an instruction names. -/
def Request.dispatchList? : Request → Option UInt32
  | disp1 list _ | disp2 list _ => some (Address.wrap list)
  | _ => none

open Dispatcher

/-- The registers that an instruction leaves which is not performed. -/
inductive System.LeavesRegisters (callouts : Callouts Machine Refusal) (system : System Machine)
    (request : Request) : Cpu → Prop where
  | unchanged : LeavesRegisters callouts system request system.cpu
  /-- An assist of a virtual machine has forgotten the timer or looked it up. -/
  | timer (address : Option UInt32) (isGuest : request.assist.family = .vm) :
      LeavesRegisters callouts system request
        { system.cpu with virtualTimerAddress := address }
  /-- The first user that can run is not to be dispatched by assist. -/
  | notAssistable (list user systemUser : UInt32)
      (selects : request.dispatchList? = some list)
      (handsOver : ∀ view : StorageView callouts, ∃ memory,
        Searches (view.memory system.machine) system.cpu request memory ∧
          FirstRunnable memory list user ∧
          systemUser = memory.getAddress PrefixArea.base PrefixArea.systemUser ∧
          memory.get user Vmblok.notAssistable ≠ 0) :
      LeavesRegisters callouts system request
        ((system.cpu.setGeneral 1 user).setGeneral 11 systemUser)
  /-- The last user, neither the system nor the one to be dispatched, ran a shared system. -/
  | lastUserShared (list user lastUser : UInt32)
      (selects : request.dispatchList? = some list)
      (handsOver : ∀ view : StorageView callouts, ∃ memory,
        Searches (view.memory system.machine) system.cpu request memory ∧
          FirstRunnable memory list user ∧
          ∃ taken, taken = takenFrom memory
              (memory.getAddress PrefixArea.base PrefixArea.runUser) ∧
            lastUser = taken.getAddress PrefixArea.base PrefixArea.lastUser ∧
            lastUser ≠ memory.getAddress PrefixArea.base PrefixArea.systemUser ∧
            lastUser ≠ user ∧
            taken.get lastUser Vmblok.operatingStatus &&& Vmblok.runsShared ≠ 0) :
      LeavesRegisters callouts system request
        ((system.cpu.setGeneral 10 user).setGeneral 11 lastUser)

section Runs

theorem Microcode.KeepsHandOffs.run {α : Type} {program : Microcode α}
    (keeps : program.KeepsHandOffs) (callouts : Callouts Machine Refusal)
    (staging : Staging Machine) :
    (program.run callouts staging).2.handOffs = staging.handOffs := by
  refine Takes.keeps keeps Staging.handOffs (fun action staging allowed => ?_) staging
  cases action with
  | handOff _ _ => exact allowed.elim
  | storageKey _ | translate _ =>
      simp only [Action.run]
      split <;> rfl
  | fetch _ _ | store _ _ | registers | modify _ | setTimer _ | purgeTlb | log _ => rfl

/-- An instruction that selects a user ensures what its selection ensures from the scene that the
user is looked for in, and what holds when it completes before. -/
theorem Request.ensures_of_selects {known : Knowledge} {declined : Decline → Scene → Prop}
    {post : Completion → Scene → Prop} {policy : Policy} {level list : UInt32} {request : Request}
    {memory : Memory} {cpu : Cpu} (selects : request.dispatchList? = some list)
    (declines : ∀ reason after, after.handOffs = [] → declined reason after)
    (completes : ∀ after, post .completed after)
    (ensures : ∀ exits (before : Scene), before.handOffs = [] → before.cpu = cpu →
      (known.faithful →
        Departs memory (Address.wrap (cpu.general.read 11)) before.memory) →
      (known.faithful → Searches memory cpu request (charged before).memory) →
      (select list exits).Ensures known declined post before) :
    (request.program policy level).microcode.Ensures known declined post
      (.before memory (request.program policy level) cpu) := by
  cases request with
  | disp1 list exits =>
      cases selects
      refine departAndSelect_leads (Address.wrap list) (Address.wrap exits) rfl declines completes
        ?_
      intro before clean sameCpu departs
      refine ensures (Address.wrap exits) before clean sameCpu departs fun isFaithful => ?_
      rw [charged, sameCpu]
      exact .departAndSelect list exits (departs isFaithful)
  | disp2 list exits =>
      cases selects
      exact ensures (Address.wrap exits) _ rfl rfl (fun _ => .unchanged) fun _ => .select list exits
  | ssm _ | svc _ | lpsw _ | lctl _ _ _ | stevl _ | freex _ _ | fretx _ _ | lckpg _ _
  | ulkpg _ _ | trbrg _ _ | trlok _ _ | scnvu _ _ | scnru _ _ | disp0 _ _ | unassisted _ =>
      simp [dispatchList?] at selects

/-- What the selection of a user has handed off when it declines. -/
theorem Request.handsOver_of_declined {callouts : Callouts Machine Refusal} {known : Knowledge}
    {memory : Machine → Memory} {policy : Policy} {level list : UInt32} {request : Request}
    {body : Microcode Completion} {machine : Machine}
    (shows : callouts.Shows known memory machine) (stores : ∀ region, known.stores region)
    (isProgram : request.program policy level = .controlProgram body)
    (selects : request.dispatchList? = some list) {cpu : Cpu} {reason : Decline}
    {after : Staging Machine}
    (ran : body.run callouts { machine, cpu } = (.declined reason, after)) :
    after.handOffs = [] ∨ ∃ searched,
      (known.faithful → Searches (memory machine) cpu request searched) ∧
        HandsOver known.faithful searched list after.handOffs := by
  have ensures := @ensures_of_selects known
    (fun _ after => after.handOffs = [] ∨ ∃ searched,
      (known.faithful → Searches (memory machine) cpu request searched) ∧
        HandsOver known.faithful searched list after.handOffs)
    (fun _ _ => True) policy level list request (memory machine) cpu selects
    (fun _ _ => .inl) (fun _ => trivial) fun exits before clean _ _ searches =>
      (select_ensures list exits clean).mono (fun _ _ => id) fun _ _ declines =>
        declines.imp id fun handsOver => ⟨_, searches, handsOver⟩
  rw [isProgram] at ensures
  have sameScene : Staging.scene memory { machine, cpu } =
      .before (memory machine) (.controlProgram body) cpu := by
    simp [Staging.scene, Scene.before, AssistProgram.registers]
  rw [← sameScene] at ensures
  have ends := ensures.run shows .refl fun region _ => stores region
  rw [AssistProgram.microcode, ran] at ends
  exact ends

end Runs

namespace System

variable {callouts : Callouts Machine Refusal} {system : System Machine} {request : Request}

/-- The registers after a decline of the selection of a user. -/
theorem leavesRegisters_of_declined {policy : Policy} {list : UInt32}
    {body : Microcode Completion}
    (isProgram : request.program policy system.registry.level = .controlProgram body)
    (selects : request.dispatchList? = some list) {reason : Decline}
    {after : Staging Machine}
    (ran : body.run callouts { machine := system.machine, cpu := system.cpu } =
      (.declined reason, after)) :
    LeavesRegisters callouts system request
      (after.handOffs.foldl (fun cpu handOff => cpu.setGeneral handOff.1 handOff.2)
        system.cpu) := by
  have known := fun view : StorageView callouts =>
    Request.handsOver_of_declined (view.shows system.machine) (fun _ => trivial) isProgram selects
      ran
  rcases Request.handsOver_of_declined
    (callouts.shows_constant Memory.zero system.machine) (fun _ => trivial) isProgram selects
    ran with clean | ⟨_, _, handsOver⟩
  · rw [clean]
    exact .unchanged
  · generalize after.handOffs = handOffs at known handsOver
    cases handsOver with
    | notAssistable _ _ _ =>
        refine .notAssistable list _ _ selects fun view => ?_
        rcases known view with clean | ⟨searched, searches, handsOver⟩
        · contradiction
        · cases handsOver with
          | notAssistable isFirst isSystem refuses =>
              exact ⟨searched, searches trivial, isFirst trivial, isSystem trivial,
                refuses trivial⟩
    | lastUserShared _ _ _ _ _ _ =>
        refine .lastUserShared list _ _ selects fun view => ?_
        rcases known view with clean | ⟨searched, searches, handsOver⟩
        · contradiction
        · cases handsOver with
          | lastUserShared isFirst isRunning isLast notSystem another shared =>
              refine ⟨searched, searches trivial, isFirst trivial, _, rfl, ?_⟩
              rw [← isRunning trivial]
              exact ⟨isLast trivial, notSystem trivial, another, shared trivial⟩

theorem handOffs_of_declined (system : System Machine) (assist : Assist)
    {ran : Ending Refusal Completion × Staging Machine}
    (unperformed : (system.settle callouts assist ran).result = .ok .declined ∨
      (system.settle callouts assist ran).result = .ok .operationException) :
    ∃ reason after, ran = (.declined reason, after) ∧
      (system.settle callouts assist ran).system.cpu =
        after.handOffs.foldl (fun cpu handOff => cpu.setGeneral handOff.1 handOff.2)
          system.cpu := by
  rcases ran with ⟨completion | reason | error, staging⟩
  · simp only [settle] at unperformed
    split at unperformed
    · simp at unperformed
    · cases completion <;> simp [Completion.outcome] at unperformed
  · exact ⟨reason, staging, rfl, rfl⟩
  · simp [settle] at unperformed

theorem Course.leavesRegisters {policy : Policy} {response : Response Machine Refusal}
    (course : Course policy callouts system request response)
    (unperformed : response.result = .ok .declined ∨ response.result = .ok .operationException) :
    LeavesRegisters callouts system request response.system.cpu := by
  cases course with
  | refused reason timer kept =>
      cases family : request.assist.family with
      | vm => exact .timer timer family
      | cp =>
          rw [kept family]
          exact .unchanged
  | missing => exact .unchanged
  | controlProgram body isProgram =>
      obtain ⟨reason, after, ran, cpu⟩ := handOffs_of_declined _ _ unperformed
      rw [cpu]
      cases selects : request.dispatchList? with
      | some list => exact leavesRegisters_of_declined isProgram selects ran
      | none =>
          have keeps : body.KeepsHandOffs := by
            refine request.controlProgram_keepsHandOffs isProgram ?_ ?_ <;>
              · rintro list exits rfl
                simp [Request.dispatchList?] at selects
          have clean := keeps.run callouts
            { machine := system.machine, cpu := system.cpu }
          rw [ran] at clean
          rw [clean]
          exact .unchanged
  | virtualMachine body timer isProgram _ =>
      obtain ⟨reason, after, ran, cpu⟩ := handOffs_of_declined _ _ unperformed
      have clean := (GuestContext.lookUp_bind_keepsHandOffs isProgram).run callouts
        { machine := system.machine, cpu := { system.cpu with virtualTimerAddress := none } }
      rw [ran] at clean
      rw [cpu, clean]
      exact .timer timer (Request.family_eq_vm isProgram)

/-- An instruction that is left to software, or that does not exist, has made callouts that look at
the machine and no others, so that nothing has changed that they do not change; and it leaves its
registers, but for the timer's address and the hand-offs of a selection. -/
theorem perform_unperformed (policy : Policy) (callouts : Callouts Machine Refusal)
    (system : System Machine) (request : Request)
    (unperformed : (system.perform policy callouts request).result = .ok .declined ∨
      (system.perform policy callouts request).result = .ok .operationException) :
    (∀ callout ∈ system.calloutsMade policy callouts request, callout.Looks) ∧
      (∀ {View : Type} (view : Machine → View),
        (∀ (callout : Callout) (machine : Machine), callout.Looks →
          view (callout.after callouts machine) = view machine) →
        view (system.perform policy callouts request).system.machine = view system.machine) ∧
      LeavesRegisters callouts system request
        (system.perform policy callouts request).system.cpu := by
  have course := system.perform_course policy callouts request
  refine ⟨calloutsMade_looks policy callouts system request unperformed, ?_,
    course.leavesRegisters unperformed⟩
  intro View view kept
  exact (course.looks callouts unperformed).view_eq view kept

/-- A system whose first user that can run, at address 2000, is not to be dispatched by assist. -/
def refusingUser : System Memory where
  registry := Registry.initial true false
  cpu := { Cpu.initial with control := RegisterFile.zero.load 6 0x02000000 }
  machine :=
    ((((((Memory.zero.put 0x1000 DispatchList.executionQueue 0x1000).put
      0x1000 DispatchList.requestQueue 0x1000).put
      0x1000 DispatchList.inQueue 0x1100).put
      0x1100 Vmblok.nextInQueue 0x2000).put
      0x2000 Vmblok.dispatchStatus Vmblok.mayRun).put
      0x2000 Vmblok.notAssistable 1).put
      PrefixArea.base PrefixArea.systemUser 0x3000

theorem refusingUser_unperformed :
    (∀ callout ∈ refusingUser.calloutsMade .splitKeys Memory.callouts (.disp2 0x1000 0x1800),
        callout.Looks) ∧
      (refusingUser.perform .splitKeys Memory.callouts
        (.disp2 0x1000 0x1800)).system.machine = refusingUser.machine ∧
      (refusingUser.perform .splitKeys Memory.callouts (.disp2 0x1000 0x1800)).system.cpu =
        (refusingUser.cpu.setGeneral 1 0x2000).setGeneral 11 0x3000 := by
  obtain ⟨looks, kept, -⟩ := perform_unperformed .splitKeys Memory.callouts refusingUser
    (.disp2 0x1000 0x1800) (.inl (Response.result_eq_ok (by decide +kernel)))
  exact ⟨looks, kept id Memory.storageView.looks_keep, by decide +kernel⟩

end System

end Assist370
