import Assist370.Facility
import Assist370.Proofs.DispatcherFootprint

/-!
# Actions of the assists

But for the dispatcher, the programs of the control program's assists look, store and take routine
actions only, and so do those of a virtual machine's assists, where LOAD CONTROL loads control
registers besides. So each kind of actions that includes these is taken by all of them
(`Request.takes_controlProgram`, `Request.takes_virtualMachine`).
-/

namespace Assist370

open Microcode

variable {allowed : Action → Prop}

namespace GuestContext

theorem takes_validate (logs : ∀ event, allowed (.log event)) (old new : Psw) (pending : UInt8) :
    (validate old new pending).Takes allowed := by
  unfold validate
  split <;> simp [logs]

@[simp]
theorem takes_loadUserFields (routine : AllowsRoutine allowed) (new : Psw) :
    (loadUserFields new).Takes allowed := by
  simp only [loadUserFields, takes_bind, takes_modify]
  exact ⟨takes_branch routine _, fun _ _ =>
    routine.modify _ fun cpu => ⟨⟨rfl, rfl, rfl, rfl, rfl⟩, rfl⟩⟩

@[simp]
theorem takes_fetchOperands (looks : AllowsLooks allowed) (policy : Policy) (address : UInt32)
    (range : List RegisterNumber) (operands : RegisterFile) :
    (fetchOperands policy address range operands).Takes allowed := by
  induction range generalizing address operands with
  | nil => simp [fetchOperands]
  | cons register rest ih => simp [fetchOperands, looks, looks.registers, ih]

theorem takes_fetchShadow (fetches : ∀ address length, allowed (.fetch address length))
    (extended : Bool) (address : UInt32) : (fetchShadow extended address).Takes allowed := by
  cases extended <;> simp [fetchShadow, takes_fetchRow_of_fetches fetches, fetches]

@[simp]
theorem takes_storeShadow (stores : AllowsStores allowed) (address : UInt32)
    (shadow : RegisterFile) (range : List RegisterNumber) :
    (storeShadow address shadow range).Takes allowed := by
  induction range with
  | nil => simp [storeShadow]
  | cons register rest ih => simp [storeShadow, stores _ _, ih]

section Programs

variable (looks : AllowsLooks allowed) (stores : AllowsStores allowed)
  (routine : AllowsRoutine allowed)

include looks stores routine

theorem takes_setSystemMask (policy : Policy) (address : UInt32) (context : GuestContext) :
    (context.setSystemMask policy address).Takes allowed := by
  simp [setSystemMask, looks, looks.fetch, looks.registers, stores _ _, takes_validate routine.log]

theorem takes_supervisorCall (policy : Policy) (code : UInt8) (context : GuestContext) :
    (context.supervisorCall policy code).Takes allowed := by
  simp [supervisorCall, looks, looks.registers, stores, stores _ _, routine,
    takes_validate routine.log]

theorem takes_loadPsw (policy : Policy) (address : UInt32) (context : GuestContext) :
    (context.loadPsw policy address).Takes allowed := by
  simp [loadPsw, looks, looks.registers, stores _ _, routine, takes_validate routine.log]

theorem takes_loadControl (loads : AllowsControls allowed) (policy : Policy)
    (first last : RegisterNumber) (address : UInt32) (context : GuestContext) :
    (context.loadControl policy first last address).Takes allowed := by
  have loadsReal : ∀ control : RegisterFile,
      allowed (.modify fun cpu => { cpu with control }) :=
    fun control => loads _ fun cpu => ⟨rfl, rfl, rfl, rfl, rfl⟩
  simp only [loadControl, takes_bind, takes_ite]
  simp [looks, looks.fetch, looks.registers, takes_fetchShadow looks.fetch]
  intro _ _
  -- An extended virtual machine and any other one, whose load is made or refused.
  constructor <;> intros <;> split <;> simp [loadsReal, stores, routine.log]

end Programs

end GuestContext

namespace FreeStorage

@[simp]
theorem takes_release (routine : AllowsRoutine allowed) (stores : AllowsStores allowed)
    (block : UInt32) (count : UInt16) (sizeTable releaseList : UInt32) :
    (release block count sizeTable releaseList).Takes allowed := by
  simp [release, routine.fetch, stores _ _]

end FreeStorage

namespace PageLock

theorem takes_lockFrame (looks : AllowsLooks allowed) (stores : AllowsStores allowed)
    (pointer address : UInt32) : (lockFrame pointer address).Takes allowed := by
  simp [lockFrame, entryThrough, looks.fetch, stores _ _]

theorem takes_requireUnchanged (looks : AllowsLooks allowed) (blocks : List UInt32) :
    (requireUnchanged blocks).Takes allowed := by
  induction blocks with
  | nil => simp [requireUnchanged]
  | cons block blocks ih => simp [requireUnchanged, perform, looks.storageKey, ih]

theorem takes_translateUnchanged (looks : AllowsLooks allowed) (policy : Policy)
    (pointer : UInt32) : (translateUnchanged policy pointer).Takes allowed := by
  simp only [translateUnchanged, loadRealAddress, perform, takes_bind]
  refine ⟨by simp [looks.registers], fun address _ =>
    ⟨by simp [looks.translate], fun answer _ => ?_⟩⟩
  cases answer <;> simp [entryThrough, looks.fetch, takes_requireUnchanged looks]

end PageLock

namespace DeviceLookup

@[simp]
theorem takes_found (side : DeviceSide) (kind : DeviceBlockKind) (index : Option UInt32) :
    (found side kind index).Takes allowed := by
  cases index <;> simp [found]

theorem takes_realUnitIndex (fetches : ∀ address length, allowed (.fetch address length))
    (device channel : UInt32) : (realUnitIndex device channel).Takes allowed := by
  simp only [realUnitIndex, takes_bind]
  refine ⟨by simp [fetches], fun ofEight _ => ?_⟩
  cases index? ofEight <;> simp [fetches]

end DeviceLookup

namespace Request

variable (looks : AllowsLooks allowed) (stores : AllowsStores allowed)
  (routine : AllowsRoutine allowed) {policy : Policy} {level : UInt32} {request : Request}

include looks stores routine

/-- The programs of the virtual machine's assists. -/
theorem takes_virtualMachine (loads : AllowsControls allowed)
    {body : GuestContext → Microcode Completion}
    (isProgram : request.program policy level = .virtualMachine body) (context : GuestContext) :
    (body context).Takes allowed := by
  cases request with
  | ssm address =>
      cases isProgram
      exact GuestContext.takes_setSystemMask looks stores routine ..
  | svc code =>
      cases isProgram
      exact GuestContext.takes_supervisorCall looks stores routine ..
  | lpsw address =>
      cases isProgram
      exact GuestContext.takes_loadPsw looks stores routine ..
  | lctl first last address =>
      cases isProgram
      exact GuestContext.takes_loadControl looks stores routine loads ..
  | unassisted assist =>
      cases family : assist.family <;>
        simp only [program, family, decliningProgram, reduceCtorEq,
          AssistProgram.virtualMachine.injEq] at isProgram
      simp [← isProgram]
  | stevl _ | freex _ _ | fretx _ _ | lckpg _ _ | ulkpg _ _ | trbrg _ _ | trlok _ _ | scnvu _ _
  | scnru _ _ | disp0 _ _ | disp1 _ _ | disp2 _ _ => simp [program] at isProgram

/-- The programs of the control program's assists other than those of the dispatcher. -/
theorem takes_controlProgram {body : Microcode Completion}
    (isProgram : request.program policy level = .controlProgram body)
    (notDisp0 : ∀ list exits, request ≠ .disp0 list exits)
    (notDisp1 : ∀ list exits, request ≠ .disp1 list exits)
    (notDisp2 : ∀ list exits, request ≠ .disp2 list exits) : body.Takes allowed := by
  cases request with
  | stevl address => cases isProgram; simp [storeLevel, stores _ _]
  | freex sizeTable indexTable =>
      cases isProgram
      simp [FreeStorage.obtain, routine, looks.fetch, looks.registers, stores _ _]
  | fretx sizeTable releaseList =>
      cases isProgram
      simp [FreeStorage.giveBack, routine, looks.registers, stores]
  | lckpg pointer page =>
      cases isProgram
      simp [PageLock.lock, PageLock.takes_lockFrame looks stores, routine, looks.registers]
  | ulkpg parameters page =>
      cases isProgram
      simp [PageLock.unlock, routine, looks.fetch, looks.registers, stores _ _]
  | trbrg pointer target =>
      cases isProgram
      simp [PageLock.translate, PageLock.returnTranslated, routine,
        PageLock.takes_translateUnchanged looks]
  | trlok pointer target =>
      cases isProgram
      simp [PageLock.translateAndLock, PageLock.returnTranslated, routine,
        PageLock.takes_translateUnchanged looks, PageLock.takes_lockFrame looks stores]
  | scnvu indexTable bases =>
      cases isProgram
      simp [DeviceLookup.scanVirtual, DeviceLookup.virtualPath, DeviceLookup.returnPath, routine,
        looks.fetch, looks.registers]
  | scnru device tables =>
      cases isProgram
      simp [DeviceLookup.scanReal, DeviceLookup.realPath, DeviceLookup.returnPath, routine,
        looks.fetch, looks.registers, DeviceLookup.takes_realUnitIndex looks.fetch]
  | disp0 list exits => exact absurd rfl (notDisp0 list exits)
  | disp1 list exits => exact absurd rfl (notDisp1 list exits)
  | disp2 list exits => exact absurd rfl (notDisp2 list exits)
  | unassisted assist =>
      cases family : assist.family <;>
        simp only [program, family, decliningProgram, reduceCtorEq,
          AssistProgram.controlProgram.injEq] at isProgram
      simp [← isProgram]
  | ssm _ | svc _ | lpsw _ | lctl _ _ _ => simp [program] at isProgram

end Request

end Assist370
