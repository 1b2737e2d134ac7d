import Assist370.Proofs.Confinement
import Assist370.Proofs.UserRun

/-!
# What an assist of a virtual machine leaves

Each of the four assists has one way to be done. `GuestContext.Leaves` says for each of them what it
then leaves in storage and in the registers, down to the fields of the PSW that it has stored. The
parts of a virtual PSW that the real PSW holds go there (`Cpu.adopt`), and what a format has no room
for is lost on the way through storage (`Psw.stored`).
-/

namespace Assist370

namespace Psw

/-- The PSW as it comes back from storage. -/
def stored (psw : Psw) : Psw :=
  { psw with
    interruptionCode := if psw.isExtended then 0 else psw.interruptionCode
    instructionLength := psw.instructionLength &&& (if psw.isExtended then 0 else 3)
    conditionCode := psw.conditionCode &&& 3
    programMask := psw.programMask &&& 0xf
    instructionAddress := Address.wrap psw.instructionAddress }

theorem ofBytes_toBytes_eq (psw : Psw) : ofBytes psw.toBytes = psw.stored := by
  have sameAddress := addressOfBytes_toBytes psw
  have fits : ∀ value bits : UInt8, value &&& bits &&& bits = value &&& bits := fun value bits => by
    rw [UInt8.and_assoc, UInt8.and_self]
  obtain ⟨mask, states, code, length, condition, program, address⟩ := psw
  cases extended : states.extendedControl with
  | true =>
      have fields := @fields_of_codeByte 0 (condition &&& 3) (program &&& 0xf) rfl
        (fits condition 3) (fits program 0xf)
      simp only [fits] at fields
      rw [ofBytes, sameAddress]
      simpa [toBytes, stored, isExtended, extended, Bytes.byte] using fields.2
  | false =>
      have fields := fields_of_codeByte (fits length 3) (fits condition 3) (fits program 0xf)
      simp only [fits] at fields
      have sameCode : Bytes.halfword #v[(code >>> 8).toUInt8, code.toUInt8] = code :=
        Bytes.halfword_ofHalfword code
      rw [ofBytes, sameAddress]
      simpa [toBytes, stored, isExtended, extended, Bytes.byte, Bytes.halfwordAt, Bytes.ofHalfword,
        sameCode] using fields

end Psw

/-- A PSW in storage comes back as far as its format has room for it. -/
theorem Memory.get_put_psw_eq (memory : Memory) (block : UInt32) (field : Field Psw) (psw : Psw) :
    (memory.put block field psw).get block field = psw.stored := by
  rw [get_put _ _ _ _ (by decide)]
  exact psw.ofBytes_toBytes_eq

theorem Memory.put_first {α : Type} [Stored α] (memory : Memory) (address : UInt32) (value : α) :
    memory.put address Field.first value = memory.store address (Stored.encode value).toList := by
  rw [put, Field.first, UInt32.add_zero]

theorem Memory.ofField_first {α : Type} [Stored α] (address : UInt32) :
    Region.ofField address (Field.first : Field α) = ⟨address, Stored.size α⟩ := by
  simp [Region.ofField, Field.first]

/-- The processor with those parts of a virtual PSW that it holds. -/
def Cpu.adopt (cpu : Cpu) (new : Psw) : Cpu :=
  { cpu with
    psw := { cpu.psw with
      instructionAddress := Address.wrap new.instructionAddress
      conditionCode := new.conditionCode
      states := { cpu.psw.states with key := new.key }
      programMask := new.programMask } }

/-- What SUPERVISOR CALL stores into the prefixed storage area: the old PSW, and the code if the PSW
is in extended-control mode. -/
def Memory.storeCall (memory : Memory) (code : UInt8) (old : Psw) (oldReal codeReal : UInt32) :
    Memory :=
  let withOld := memory.put oldReal Field.first old
  if old.isExtended then
    withOld.put codeReal Field.first (0x00020000 ||| code.toUInt32)
  else
    withOld

/-- SUPERVISOR CALL leaves a region as it was that it stores nothing into. -/
theorem Memory.storeCall_agreesOn {memory : Memory} {code : UInt8} {old : Psw}
    {oldReal codeReal : UInt32} {region : Region} (oldApart : Region.Apart ⟨oldReal, 8⟩ region)
    (codeApart : old.isExtended = true → Region.Apart ⟨codeReal, 4⟩ region) :
    (memory.storeCall code old oldReal codeReal).AgreesOn memory region := by
  have oldKept : (memory.put oldReal Field.first old).AgreesOn memory region := by
    apply put_agreesOn
    rw [ofField_first]
    exact oldApart
  unfold storeCall
  split
  · rename_i extended
    refine (put_agreesOn _ ?_).trans oldKept
    rw [ofField_first]
    exact codeApart extended
  · exact oldKept

/-- The old PSW of a supervisor call. -/
def GuestContext.callPsw (context : GuestContext) (real : Psw) (code : UInt8) : Psw :=
  { context.current real with interruptionCode := code.toUInt16 }

namespace Microcode

variable {known : Knowledge} {declined : Decline → Scene → Prop} {scene : Scene}

@[simp]
theorem ensures_loadUserFields (new : Psw) {post : Unit → Scene → Prop} :
    (GuestContext.loadUserFields new).Ensures known declined post scene ↔
      post () { scene with cpu := scene.cpu.adopt new } := by
  simp only [GuestContext.loadUserFields, branch, ensures_bind, ensures_modify]
  rfl

/-- A PSW that is fetched is as it has come from storage, and if its place lies within one key block
it has come from the real address of that. -/
theorem fetchLogicalPsw_achieves (isFaithful : known.faithful) (policy : Policy)
    (address : UInt32) (protection : BitVec 4) {post : Psw → Scene → Prop}
    (achieves : ∀ psw : Psw, psw.Fits →
      (Piece.split policy address 8 = [⟨Address.wrap address, 8⟩] →
        ∃ real, known.Maps scene.cpu address real ∧ psw = scene.memory.get real Field.first) →
      post psw scene) :
    (fetchLogical policy address protection).Achieves known post scene := by
  by_cases inBlock : Piece.split policy address 8 = [⟨Address.wrap address, 8⟩]
  · simp only [Achieves, fetchLogical, fetchLogicalBytes, Stored.size, inBlock, resolve,
      ensures_bind, ensures_pure]
    refine realAddress_achieves _ fun real maps => (ensures_perform _).mpr fun key => ?_
    simp only [ensures_require, fetchPieces, ensures_bind, ensures_pure]
    refine ⟨fun _ => (ensures_perform _).mpr fun bytes fetched => ?_, fun _ => trivial⟩
    rw [fetched isFaithful, List.append_nil, Bytes.ofList_toList]
    refine achieves _ (Psw.fits_ofBytes _) fun _ => ⟨real, ?_, ?_⟩
    · simpa [Knowledge.Maps] using maps
    · rw [Memory.get, Field.first, UInt32.add_zero]
      rfl
  · have looks : (fetchLogicalBytes policy address 8 protection).Takes Action.OnlyLooks := by
      simp [fetchLogicalBytes, takes_resolve, takes_fetchPieces onlyLooks_allowsLooks.fetch]
    simp only [Achieves, fetchLogical, ensures_bind, ensures_pure]
    refine looks.ensures_of_looks (fun bytes => ?_) fun _ => trivial
    exact achieves _ (Psw.fits_ofBytes _) fun within => absurd within inBlock

end Microcode

/-- What an instruction of a virtual machine leaves when its program is done. -/
inductive GuestContext.Leaves (known : Knowledge) (policy : Policy) (context : GuestContext)
    (memory : Memory) (cpu : Cpu) : Request → Memory → Cpu → Prop where
  | masked {address : UInt32} {systemMask : UInt8} {timer : Option UInt32}
      (passed : context.psw.checkTransition { context.psw with systemMask } context.pending =
        .ok ()) :
      Leaves known policy context memory cpu (.ssm address)
        (memory.put context.pswAddress Field.first
          { context.psw with systemMask, instructionAddress := cpu.psw.instructionAddress })
        { cpu with virtualTimerAddress := timer }
  | called {code : UInt8} {new : Psw} {oldReal codeReal : UInt32} {timer : Option UInt32}
      (fits : new.Fits)
      (passed : (context.callPsw cpu.psw code).checkTransition new context.pending = .ok ())
      (oldMaps : known.Maps cpu PrefixArea.callOldPsw oldReal)
      (codeMaps : context.psw.isExtended = true → known.Maps cpu PrefixArea.callCode codeReal) :
      Leaves known policy context memory cpu (.svc code)
        ((memory.storeCall code (context.callPsw cpu.psw code) oldReal codeReal).put
          context.pswAddress Field.first new)
        ({ cpu with virtualTimerAddress := timer }.adopt new)
  | loaded {address : UInt32} {new : Psw} {timer : Option UInt32} (fits : new.Fits)
      (passed : context.psw.checkTransition new context.pending = .ok ())
      (fetched : Piece.split policy address 8 = [⟨Address.wrap address, 8⟩] →
        ∃ real, known.Maps cpu address real ∧ new = memory.get real Field.first) :
      Leaves known policy context memory cpu (.lpsw address)
        (memory.put context.pswAddress Field.first new)
        ({ cpu with virtualTimerAddress := timer }.adopt new)
  | loadedControls {first last : RegisterNumber} {address : UInt32} {new : RegisterFile}
      {loaded : ControlRegisters} {timer : Option UInt32}
      (basic : memory.isExtended context.vmblok = false → first = 0 ∧ last = 0)
      (isLoaded : ControlRegisters.load
        { shadow := memory.shadowRegisters (memory.isExtended context.vmblok)
            (context.shadowAddress memory)
          real := cpu.control }
        (RegisterNumber.range first last) new context.psw context.pending = .ok loaded) :
      Leaves known policy context memory cpu (.lctl first last address)
        (Memory.putShadow (context.shadowAddress memory) loaded.shadow
          (RegisterNumber.range first last) memory)
        { cpu with control := loaded.real, virtualTimerAddress := timer }

namespace GuestContext

open Microcode

variable {known : Knowledge} {scene : Scene}

theorem presentCall_eq (policy : Policy) (code : UInt8) (new : Psw) (context : GuestContext) :
    context.presentCall policy code new = (do
      let old := context.callPsw (← registers).psw code
      validate old new context.pending
      storeLogical policy PrefixArea.callOldPsw old 0
      if old.isExtended then
        storeLogical policy PrefixArea.callCode (0x00020000 ||| code.toUInt32) 0
      loadUserFields new
      store context.pswAddress Field.first new
      return .completed) :=
  rfl

theorem presentCall_leaves (policy : Policy) (code : UInt8) (new : Psw) (context : GuestContext)
    {post : Completion → Scene → Prop}
    (achieves : ∀ oldReal codeReal,
      (context.callPsw scene.cpu.psw code).checkTransition new context.pending = .ok () →
      known.Maps scene.cpu PrefixArea.callOldPsw oldReal →
      (context.psw.isExtended = true → known.Maps scene.cpu PrefixArea.callCode codeReal) →
      post .completed { scene with
        cpu := scene.cpu.adopt new
        memory := (scene.memory.storeCall code (context.callPsw scene.cpu.psw code) oldReal
          codeReal).put context.pswAddress Field.first new }) :
    (context.presentCall policy code new).Achieves known post scene := by
  have oldInBlock : Piece.split policy PrefixArea.callOldPsw (Stored.size Psw) =
      [⟨Address.wrap PrefixArea.callOldPsw, Stored.size Psw⟩] := by
    cases policy <;> decide +kernel
  have codeInBlock : Piece.split policy PrefixArea.callCode (Stored.size UInt32) =
      [⟨Address.wrap PrefixArea.callCode, Stored.size UInt32⟩] := by
    cases policy <;> decide +kernel
  have sameMode : (context.callPsw scene.cpu.psw code).isExtended = context.psw.isExtended := rfl
  simp only [Achieves, presentCall_eq, ensures_bind, ensures_registers]
  generalize context.callPsw scene.cpu.psw code = old at achieves sameMode
  refine validate_achieves fun passed => ?_
  refine storeLogical_achieves policy _ _ _ oldInBlock fun oldReal oldMaps => ?_
  simp only [ensures_ite, ← Memory.put_first]
  refine ⟨fun extended => ?_, fun basic => ?_⟩
  · refine (ensures_bind _ _).mpr
      (storeLogical_achieves policy _ _ _ codeInBlock fun codeReal codeMaps => ?_)
    have stores := achieves oldReal codeReal passed oldMaps fun _ => codeMaps
    rw [Memory.storeCall, if_pos extended] at stores
    simp only [ensures_bind, ensures_loadUserFields, ensures_store, ensures_pure,
      ← Memory.put_first]
    exact fun _ => stores
  · have stores := achieves oldReal 0 passed oldMaps fun extended =>
      absurd (sameMode.trans extended) basic
    rw [Memory.storeCall, if_neg basic] at stores
    simp only [ensures_bind, ensures_loadUserFields, ensures_store, ensures_pure]
    exact fun _ => stores

end GuestContext

open Microcode GuestContext in
/-- An instruction of a virtual machine leaves what it may when its program is done. -/
theorem Request.IsVirtual.leaves {known : Knowledge} (isFaithful : known.faithful)
    {request : Request} (isVirtual : request.IsVirtual) (policy : Policy) (level : UInt32)
    (memory : Memory) (cpu : Cpu) :
    (request.program policy level).microcode.Achieves known
      (fun _ after => after.timerSet = false ∧
        (memory.guestContext cpu.assistControl).Leaves known policy memory cpu request after.memory
          after.cpu)
      (.before memory (request.program policy level) cpu) := by
  cases request with
  | ssm address =>
      simp only [Request.program, AssistProgram.microcode, ← bind_eq_bind, Achieves, ensures_bind]
      refine lookUp_achieves isFaithful fun timer => ?_
      exact setSystemMask_achieves _ _ _ fun systemMask passed => ⟨rfl, .masked passed⟩
  | svc code =>
      simp only [Request.program, AssistProgram.microcode, ← bind_eq_bind, Achieves, ensures_bind]
      refine lookUp_achieves isFaithful fun timer => ?_
      simp only [supervisorCall_eq, ensures_bind, ensures_require]
      refine ⟨fun _ => ⟨fun _ => ?_, fun _ => trivial⟩, fun _ => trivial⟩
      refine fetchLogicalPsw_achieves isFaithful _ _ _ fun new fits _ => ?_
      refine presentCall_leaves _ _ _ _ fun oldReal codeReal passed oldMaps codeMaps => ⟨rfl, ?_⟩
      exact .called fits passed oldMaps codeMaps
  | lpsw address =>
      simp only [Request.program, AssistProgram.microcode, ← bind_eq_bind, Achieves, ensures_bind]
      refine lookUp_achieves isFaithful fun timer => ?_
      simp only [loadPsw_eq, fetchOperandPsw, ensures_bind, ensures_require, ensures_registers]
      refine ⟨fun _ => ⟨fun _ => ⟨fun _ => ?_, fun _ => trivial⟩, fun _ => trivial⟩,
        fun _ => trivial⟩
      refine fetchLogicalPsw_achieves isFaithful _ _ _ fun new fits fetched => ?_
      simp only [adopt, ensures_bind]
      refine validate_achieves fun passed => ?_
      simp only [ensures_loadUserFields, ensures_store, ensures_pure]
      exact fun _ => ⟨rfl, .loaded fits passed fetched⟩
  | lctl first last address =>
      simp only [Request.program, AssistProgram.microcode, ← bind_eq_bind, Achieves, ensures_bind]
      refine lookUp_achieves isFaithful fun timer => ?_
      refine loadControl_achieves isFaithful _ _ _ _ _ fun new loaded basic isLoaded => ⟨rfl, ?_⟩
      exact .loadedControls basic isLoaded
  | stevl _ | freex _ _ | fretx _ _ | lckpg _ _ | ulkpg _ _ | trbrg _ _ | trlok _ _ | scnvu _ _
  | scnru _ _ | disp0 _ _ | disp1 _ _ | disp2 _ _ | unassisted _ => exact isVirtual.elim

namespace System

variable {Machine Refusal : Type} {policy : Policy} {callouts : Callouts Machine Refusal}
  {system : System Machine} {request : Request}

/-- Whatever becomes of an instruction, either storage is as it was, or the program is done and each
byte is as it was or as the program has seen it. -/
theorem bytes_perform (view : StorageView callouts) (system : System Machine) (policy : Policy)
    (request : Request) :
    (∀ place, (view.memory (system.perform policy callouts request).system.machine).byte place =
        (view.memory system.machine).byte place) ∨
      ∃ completion after, system.ran policy callouts request = (.done completion, after) ∧
        (system.perform policy callouts request).Concludes completion ∧
        ∀ place, (view.memory (system.perform policy callouts request).system.machine).byte place =
            (view.memory system.machine).byte place ∨
          (view.memory (system.perform policy callouts request).system.machine).byte place =
            (view.seen after).byte place := by
  have bytes := byte_perform view system policy request
  by_cases concluded : ∃ completion after,
      system.ran policy callouts request = (.done completion, after) ∧
        (system.perform policy callouts request).Concludes completion
  · obtain ⟨completion, after, ran, concludes⟩ := concluded
    refine .inr ⟨completion, after, ran, concludes, fun place => ?_⟩
    rcases bytes place with same | ⟨_, other, otherRan, -, seen⟩
    · exact .inl same
    · obtain rfl : other = after := congrArg Prod.snd (otherRan.symm.trans ran)
      exact .inr seen
  · refine .inl fun place => (bytes place).resolve_right ?_
    rintro ⟨completion, after, ran, concludes, -⟩
    exact concluded ⟨completion, after, ran, concludes⟩

/-- What an instruction of a virtual machine has staged when its program is done. -/
theorem leaves_of_ran (view : StorageView callouts) (isVirtual : request.IsVirtual)
    {completion : Completion} {after : Staging Machine}
    (ran : system.ran policy callouts request = (.done completion, after)) :
    after.timerSet = false ∧
      (system.virtualMachine view).Leaves (callouts.knowledge system.machine) policy
        (view.memory system.machine) system.cpu request (view.seen after) after.cpu := by
  have faithful : (callouts.knowledge system.machine).faithful := trivial
  exact ensures_of_ran (view.shows_knowledge system.machine) (fun _ _ => trivial)
    (isVirtual.leaves faithful policy system.registry.level _ system.cpu) ran

/-- What an instruction of a virtual machine has left when its completion could be stored. -/
theorem leaves_of_stored (view : StorageView callouts) (isVirtual : request.IsVirtual)
    {completion : Completion}
    (completed : (system.perform policy callouts request).result = .ok completion.outcome) :
    (system.virtualMachine view).Leaves (callouts.knowledge system.machine) policy
      (view.memory system.machine) system.cpu request
      (view.memory (system.perform policy callouts request).system.machine)
      (system.perform policy callouts request).system.cpu := by
  obtain ⟨after, ran, cpu, memory⟩ := ran_of_completed view completed
  obtain ⟨notSet, leaves⟩ := leaves_of_ran view isVirtual ran
  rw [cpu, memory, Staging.committedCpu, notSet]
  exact leaves

theorem leaves_of_completed (view : StorageView callouts) (isVirtual : request.IsVirtual)
    (completed : (system.perform policy callouts request).result = .ok .completed) :
    (system.virtualMachine view).Leaves (callouts.knowledge system.machine) policy
      (view.memory system.machine) system.cpu request
      (view.memory (system.perform policy callouts request).system.machine)
      (system.perform policy callouts request).system.cpu :=
  leaves_of_stored view isVirtual
    (show _ = Except.ok Completion.completed.outcome from completed)

end System

end Assist370
