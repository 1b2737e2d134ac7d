import Assist370.Proofs.GuestEvaluation

/-!
# SET SYSTEM MASK

SET SYSTEM MASK stores the virtual PSW with a new system mask and with the instruction address of
the real PSW, but checks it with the instruction address that it finds in the virtual PSW, which is
out of date (`System.setSystemMask_perform`). So the check is that of the PSW that it stores if both
addresses are even or both odd; otherwise the instruction is left to software though the new PSW is
sound, or an odd instruction address is stored (`System.staleAddress_declines`).
-/

namespace Assist370

namespace Psw

/-- The instruction address is the last that a transition is checked for. -/
theorem checkTransition_address (old new : Psw) (pending : UInt8) :
    old.checkTransition new pending = .ok () ↔
      old.checkTransition { new with instructionAddress := 0 } pending = .ok () ∧
        new.instructionAddress &&& 1 = 0 := by
  simp only [checkTransition, isExtended, translationBits, interruptionMask, isWait, masks, pure,
    Except.pure, bind, Except.bind, throw, throwThe, MonadExceptOf.throw]
  grind

end Psw

namespace GuestContext

open Microcode

variable {answers : Answers} {scene : Scene}

theorem validate_eval (old new : Psw) (pending : UInt8) :
    (validate old new pending).eval answers scene =
      match old.checkTransition new pending with
      | .ok () => (.ok (), scene)
      | .error reject =>
          (.error (.transitionRejected reject),
            { scene with log := scene.log ++ [.transitionRejected reject] }) := by
  unfold validate
  cases old.checkTransition new pending with
  | ok passed => rfl
  | error reject => rfl

/-- The virtual PSW with a new system mask, as it is checked. -/
def masked (context : GuestContext) (mask : UInt8) : Psw :=
  { context.psw with systemMask := mask }

/-- The virtual PSW with a new system mask, as it is stored. -/
def maskedAt (context : GuestContext) (mask : UInt8) (real : Psw) : Psw :=
  { context.psw with systemMask := mask, instructionAddress := real.instructionAddress }

theorem setSystemMask_eval (policy : Policy) (address : UInt32) {context : GuestContext}
    (supervisor : context.control.virtualProblem = false) :
    (context.setSystemMask policy address).eval answers scene =
      if scene.memory.get context.micblok.controlRegisters (Field.first : Field UInt32) &&&
          maskSuppression = 0 then
        match answers.place scene.cpu (·.admitsFetch scene.cpu.psw.key) address with
        | .error reason => (.error reason, scene)
        | .ok real =>
            match context.psw.checkTransition (context.masked (scene.memory.byte real))
              context.pending with
            | .ok () => (.ok .completed, { scene with
                memory := scene.memory.put context.pswAddress Field.first
                  (context.maskedAt (scene.memory.byte real) scene.cpu.psw) })
            | .error reject => (.error (.transitionRejected reject),
                { scene with log := scene.log ++ [.transitionRejected reject] })
      else
        (.error .maskSuppressed, scene) := by
  have nonempty : 0 < Stored.size UInt8 := by decide
  have inBlock : (Address.wrap address).toNat % policy.keyBlock + Stored.size UInt8 ≤
      policy.keyBlock :=
    Nat.mod_lt _ policy.keyBlock_pos
  simp only [setSystemMask, eval_bind, eval_require, eval_fetch, eval_registers,
    fetchLogical_eval nonempty inBlock, validate_eval, eval_store, eval_pure, supervisor,
    Bool.not_false, if_true, beq_iff_eq]
  by_cases suppressed : scene.memory.get context.micblok.controlRegisters
      (Field.first : Field UInt32) &&& maskSuppression = 0
  · simp only [if_pos suppressed]
    cases answers.place scene.cpu (·.admitsFetch scene.cpu.psw.key) address with
    | error reason => rfl
    | ok real =>
        have first : real + (Field.first : Field UInt8).offset = real := UInt32.add_zero real
        simp only [Except.map, Memory.get_byte, first, masked]
        cases context.psw.checkTransition _ context.pending with
        | ok passed => rfl
        | error reject => rfl
  · simp only [if_neg suppressed]

theorem setSystemMask_ignoresReference (policy : Policy) (address : UInt32)
    (context : GuestContext) : (context.setSystemMask policy address).IgnoresReference := by
  have keyless : ∀ {α : Type} {program : Microcode α}, program.Takes Action.IsKeyless →
      program.IgnoresReference := Takes.ignoresReference
  apply (keyless (takes_require _ _)).bind
  intro _
  apply (keyless (by simp)).bind
  intro control0
  apply (keyless (takes_require _ _)).bind
  intro _
  apply (keyless (by simp)).bind
  intro cpu
  apply (fetchLogical_ignoresReference policy address _).bind
  intro mask
  exact keyless (by simp)

end GuestContext

namespace System

variable {Machine Refusal : Type} {callouts : Callouts Machine Refusal} {policy : Policy}
  {system : System Machine} {address : UInt32} {mask : UInt8}

/-- A mask byte can be fetched from the operand address, and the virtual control register 0 that the
MICBLOK addresses does not suppress SET SYSTEM MASK. -/
def MasksWith (system : System Machine) (view : KeyedView callouts) (address : UInt32)
    (mask : UInt8) : Prop :=
  (view.memory system.machine).get
      (system.virtualMachine view.toStorageView).micblok.controlRegisters
      (Field.first : Field UInt32) &&& GuestContext.maskSuppression = 0 ∧
    ∃ real, view.CanFetch system.machine system.cpu system.cpu.psw.key address real ∧
      (view.memory system.machine).byte real = mask

variable {view : KeyedView callouts}

theorem MasksWith.unique {other : UInt8} (masks : system.MasksWith view address mask)
    (masksOther : system.MasksWith view address other) : mask = other := by
  rcases masks with ⟨-, real, canFetch, rfl⟩
  rcases masksOther with ⟨-, otherReal, canFetchOther, rfl⟩
  rw [canFetch.1.unique canFetchOther.1]

/-- What becomes of a SET SYSTEM MASK whose virtual machine has been looked up. -/
inductive MaskOutcome (system : System Machine) (view : KeyedView callouts) (address : UInt32)
    (response : Response Machine Refusal) : Prop where
  | failed (error : AccessError Refusal) (result : response.result = .error error)
  | set (mask : UInt8) (masks : system.MasksWith view address mask)
      (passed : (system.virtualMachine view.toStorageView).psw.checkTransition
        ((system.virtualMachine view.toStorageView).masked mask)
        (system.virtualMachine view.toStorageView).pending = .ok ())
      (result : response.result = .ok .completed)
      (memory : view.memory response.system.machine = (view.memory system.machine).put
        (system.virtualMachine view.toStorageView).pswAddress Field.first
        ((system.virtualMachine view.toStorageView).maskedAt mask system.cpu.psw))
  | declined
      (notPassed : ∀ mask, system.MasksWith view address mask →
        (system.virtualMachine view.toStorageView).psw.checkTransition
          ((system.virtualMachine view.toStorageView).masked mask)
          (system.virtualMachine view.toStorageView).pending ≠ .ok ())
      (result : response.result = .ok .declined)
      (memory : view.memory response.system.machine = view.memory system.machine)

theorem setSystemMask_outcome (runs : system.RunsGuest .ssm) :
    system.MaskOutcome view address (system.perform policy callouts (.ssm address)) := by
  by_cases answered : (system.perform policy callouts (.ssm address)).Answered
  · have comesTo := perform_guest_comesTo view rfl
      (fun context => context.setSystemMask_ignoresReference policy address) runs answered
    have supervisor : (system.virtualMachine view.toStorageView).control.virtualProblem = false :=
      runs.admitted.2.2.2.2.2
    have memory_eq : (system.guestScene view.toStorageView).memory = view.memory system.machine :=
      rfl
    rw [GuestContext.setSystemMask_eval policy address supervisor, memory_eq] at comesTo
    split at comesTo
    · rename_i unsuppressed
      rcases view.place_fetch_cases system.machine (system.guestScene view.toStorageView).cpu
        (system.guestScene view.toStorageView).cpu.psw.key address with
        ⟨real, canFetch, placed⟩ | ⟨reason, nowhere, placed⟩
      · have masks : system.MasksWith view address ((view.memory system.machine).byte real) :=
          ⟨unsuppressed, real, canFetch, rfl⟩
        simp only [placed] at comesTo
        split at comesTo
        · rename_i passed
          exact .set _ masks passed comesTo.result comesTo.memory
        · rename_i reject objected
          refine .declined (fun mask masksOther passed => ?_) comesTo.result comesTo.memory
          rw [masksOther.unique masks, objected] at passed
          cases passed
      · simp only [placed] at comesTo
        refine .declined (fun mask masks _ => ?_) comesTo.result comesTo.memory
        rcases masks.2 with ⟨real, canFetch, -⟩
        exact nowhere real canFetch
    · rename_i suppressed
      exact .declined (fun mask masks _ => suppressed masks.1) comesTo.result comesTo.memory
  · rcases Response.failed_of_unanswered answered with ⟨error, result⟩
    exact .failed error result

/-- A mask byte can be fetched with which the virtual PSW may be moved to another one. -/
def MaskPasses (system : System Machine) (view : KeyedView callouts) (address : UInt32)
    (moved : UInt8 → Psw) : Prop :=
  ∃ mask, system.MasksWith view address mask ∧
    (system.virtualMachine view.toStorageView).psw.checkTransition (moved mask)
      (system.virtualMachine view.toStorageView).pending = .ok ()

theorem maskPasses_iff {moved even : UInt8 → Psw} {place : UInt32}
    (address_eq : ∀ mask, (moved mask).instructionAddress = place)
    (even_eq : ∀ mask, { moved mask with instructionAddress := 0 } = even mask) :
    system.MaskPasses view address moved ↔
      system.MaskPasses view address even ∧ place &&& 1 = 0 := by
  constructor
  · rintro ⟨mask, masks, passed⟩
    rw [Psw.checkTransition_address, address_eq, even_eq] at passed
    exact ⟨⟨mask, masks, passed.1⟩, passed.2⟩
  · rintro ⟨⟨mask, masks, passed⟩, isEven⟩
    refine ⟨mask, masks, ?_⟩
    rw [Psw.checkTransition_address, address_eq, even_eq]
    exact ⟨passed, isEven⟩

theorem setSystemMask_completed_iff (runs : system.RunsGuest .ssm) :
    (system.perform policy callouts (.ssm address)).result = .ok .completed ↔
      (system.perform policy callouts (.ssm address)).Answered ∧
        system.MaskPasses view address (system.virtualMachine view.toStorageView).masked := by
  have outcome := @setSystemMask_outcome _ _ _ policy _ address view runs
  generalize system.perform policy callouts (.ssm address) = response at outcome
  rw [Response.answered_iff]
  cases outcome with
  | failed error result => simp [result]
  | set mask masks passed result _ =>
      simp only [result, true_iff]
      exact ⟨⟨_, rfl⟩, mask, masks, passed⟩
  | declined notPassed result _ =>
      simp only [result, Except.ok.injEq, reduceCtorEq, false_iff]
      rintro ⟨-, mask, masks, passed⟩
      exact notPassed mask masks passed

/-- SET SYSTEM MASK completes if the virtual PSW may be moved to itself with the new mask, and then
stores it with the real instruction address. What it checks decides like a check of what it stores
unless one of the two instruction addresses is odd and there is no other objection. -/
theorem setSystemMask_perform (view : KeyedView callouts) (runs : system.RunsGuest .ssm) :
    ((system.perform policy callouts (.ssm address)).result = .ok .completed ↔
      (system.perform policy callouts (.ssm address)).Answered ∧
        system.MaskPasses view address (system.virtualMachine view.toStorageView).masked) ∧
    ((system.perform policy callouts (.ssm address)).result = .ok .completed →
      ∃ mask, system.MasksWith view address mask ∧
        view.memory (system.perform policy callouts (.ssm address)).system.machine =
          (view.memory system.machine).put
            (system.virtualMachine view.toStorageView).pswAddress Field.first
            ((system.virtualMachine view.toStorageView).maskedAt mask system.cpu.psw)) ∧
    ((system.perform policy callouts (.ssm address)).result = .ok .declined →
      view.memory (system.perform policy callouts (.ssm address)).system.machine =
        view.memory system.machine) ∧
    ((system.perform policy callouts (.ssm address)).Answered →
      (((system.perform policy callouts (.ssm address)).result = .ok .completed ↔
          system.MaskPasses view address fun mask =>
            (system.virtualMachine view.toStorageView).maskedAt mask system.cpu.psw) ↔
        (system.MaskPasses view address (fun mask =>
            { (system.virtualMachine view.toStorageView).masked mask with
              instructionAddress := 0 }) →
          ((system.virtualMachine view.toStorageView).psw.instructionAddress &&& 1 = 0 ↔
            system.cpu.psw.instructionAddress &&& 1 = 0)))) := by
  have completed := @setSystemMask_completed_iff _ _ _ policy _ address view runs
  have checked := @maskPasses_iff _ _ _ system address view
    (system.virtualMachine view.toStorageView).masked _ _ (fun _ => rfl) (fun _ => rfl)
  have stored := @maskPasses_iff _ _ _ system address view
    (fun mask => (system.virtualMachine view.toStorageView).maskedAt mask system.cpu.psw)
    (fun mask => { (system.virtualMachine view.toStorageView).masked mask with
      instructionAddress := 0 }) _ (fun _ => rfl) (fun _ => rfl)
  refine ⟨completed, ?_, ?_, ?_⟩
  · intro result
    cases @setSystemMask_outcome _ _ _ policy _ address view runs with
    | failed error failed =>
        rw [result] at failed
        cases failed
    | set mask masks _ _ memory => exact ⟨mask, masks, memory⟩
    | declined _ declined _ =>
        rw [result] at declined
        cases declined
  · intro result
    cases @setSystemMask_outcome _ _ _ policy _ address view runs with
    | failed error failed =>
        rw [result] at failed
        cases failed
    | set _ _ _ completed _ =>
        rw [result] at completed
        cases completed
    | declined _ _ memory => exact memory
  · intro answered
    rw [completed, checked, stored]
    generalize system.MaskPasses view address _ = passes
    constructor
    · rintro agree isPassed
      constructor
      · intro slotEven
        exact (agree.mp ⟨answered, isPassed, slotEven⟩).2
      · intro realEven
        exact (agree.mpr ⟨isPassed, realEven⟩).2.2
    · intro agree
      constructor
      · rintro ⟨-, isPassed, slotEven⟩
        exact ⟨isPassed, (agree isPassed).mp slotEven⟩
      · rintro ⟨isPassed, realEven⟩
        exact ⟨answered, isPassed, (agree isPassed).mpr realEven⟩

/-- A virtual machine whose virtual PSW was stored at an odd address, and that has gone on to an
even one. -/
def staleAddress : System PagedStorage where
  registry := Registry.initial true false
  cpu :=
    { Cpu.initial with
      control := RegisterFile.zero.load 6 0x80001000
      psw :=
        { states := { problemState := true, extendedControl := true }
          instructionAddress := 0x402 } }
  machine :=
    { memory :=
        ((Memory.zero.store 0x1004 [0, 0, 0x30, 0]).store 0x1008 [0, 0, 0x20, 0xa8]).store
          0x20a8 [0, 8, 0, 0, 0, 0, 4, 1]
      keys := fun _ => ⟨0⟩
      frames := fun _ => none }

theorem staleAddress_masksWith : staleAddress.MasksWith PagedStorage.keyedView 0x4008 0 := by
  refine ⟨by decide +kernel, 0x4008, ⟨?_, .inl rfl⟩, by decide +kernel⟩
  rw [KeyedView.Locates, if_neg (by decide)]
  decide

/-- Its SET SYSTEM MASK is left to software, although the PSW to be stored passes the check. -/
theorem staleAddress_declines :
    (staleAddress.perform .splitKeys PagedStorage.callouts (.ssm 0x4008)).result =
        .ok .declined ∧
      staleAddress.MaskPasses PagedStorage.keyedView 0x4008 fun mask =>
        (staleAddress.virtualMachine PagedStorage.keyedView.toStorageView).maskedAt mask
          staleAddress.cpu.psw := by
  refine ⟨Response.result_eq_ok (by decide +kernel), 0, staleAddress_masksWith, ?_⟩
  decide +kernel

/-- The check of what is stored would have decided otherwise, because the addresses differ in
parity. -/
theorem staleAddress_misjudged :
    staleAddress.RunsGuest .ssm ∧
      ¬((staleAddress.perform .splitKeys PagedStorage.callouts (.ssm 0x4008)).result =
          .ok .completed ↔
        staleAddress.MaskPasses PagedStorage.keyedView 0x4008 fun mask =>
          (staleAddress.virtualMachine PagedStorage.keyedView.toStorageView).maskedAt mask
            staleAddress.cpu.psw) := by
  have runs : staleAddress.RunsGuest .ssm := by decide +kernel
  have performed := @setSystemMask_perform _ _ _ .splitKeys _ 0x4008 PagedStorage.keyedView runs
  have answered := @answered_of_refusesNothing _ _ _ .splitKeys _ (.ssm 0x4008)
    staleAddress.machine.refusesNothing
  refine ⟨runs, fun agree => ?_⟩
  have sameParity := (performed.2.2.2 answered).mp agree
    ⟨0, staleAddress_masksWith, by decide +kernel⟩
  revert sameParity
  decide +kernel

end System

end Assist370
