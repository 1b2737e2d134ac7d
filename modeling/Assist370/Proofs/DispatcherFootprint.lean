import Assist370.Dispatcher.Entry
import Assist370.Dispatcher.Selection
import Assist370.Proofs.Footprint

/-!
# Actions of the dispatcher

Searches of the dispatcher only fetch. Its exits are taken by routine actions, users are charged by
accesses to storage and loads of the CPU timer, and only the look at a user's interval timer and the
load of a user change control registers. So these programs take allowed actions wherever such
actions are allowed.
-/

namespace Assist370

namespace Microcode

/-- Routine actions, stores and loads of the CPU timer are allowed. -/
structure AllowsCharging (allowed : Action → Prop) : Prop extends AllowsRoutine allowed where
  store : AllowsStores allowed
  setTimer : ∀ value, allowed (.setTimer value)

/-- All accesses to storage and all changes of registers are allowed, and so are events. -/
structure AllowsWork (allowed : Action → Prop) : Prop where
  fetch : ∀ address length, allowed (.fetch address length)
  store : AllowsStores allowed
  modify : ∀ change, allowed (.modify change)
  setTimer : ∀ value, allowed (.setTimer value)
  log : ∀ event, allowed (.log event)

variable {allowed : Action → Prop}

theorem AllowsWork.charging (works : AllowsWork allowed) : AllowsCharging allowed where
  fetch := works.fetch
  log := works.log
  modify change _ := works.modify change
  store := works.store
  setTimer := works.setTimer

theorem AllowsWork.controls (works : AllowsWork allowed) : AllowsControls allowed :=
  fun change _ => works.modify change

end Microcode

namespace Dispatcher

open Microcode

variable {allowed : Action → Prop}

@[simp]
theorem takes_currentUser : currentUser.Takes allowed ↔ allowed .registers := by
  simp [currentUser]

section Searches

variable (fetches : ∀ address length, allowed (.fetch address length))

include fetches

theorem takes_findEnabled (control0 : UInt32) (limit : Nat) (link block : UInt32) :
    (findEnabled control0 limit link block).Takes allowed := by
  induction limit generalizing link block with
  | zero => simp [findEnabled]
  | succ limit ih => simp [findEnabled, fetches, ih]

theorem takes_firstRunnable (anchor : UInt32) (limit : Nat) (user : UInt32) :
    (firstRunnable anchor limit user).Takes allowed := by
  induction limit generalizing user with
  | zero => simp [firstRunnable]
  | succ limit ih => simp [firstRunnable, isRunnable, fetches, ih]

theorem takes_externalInterruption (user : UInt32) (psw : Psw) (status : UInt8) :
    (externalInterruption user psw status).Takes allowed := by
  simp [externalInterruption, virtualControl0, takes_findEnabled fetches, fetches]

theorem takes_ioInterruptions (user : UInt32) (psw : Psw) (status : UInt8) :
    (ioInterruptions user psw status).Takes allowed := by
  simp [ioInterruptions, enabledChannels, fetches]

theorem takes_interruptionPending (user extension : UInt32) (status : UserStatus) :
    (interruptionPending user extension status).Takes allowed := by
  simp [interruptionPending, takes_findEnabled fetches, fetches]

theorem takes_loadControls (loads : AllowsControls allowed) (block : UInt32)
    (field : Field UInt32) (registers : List RegisterNumber) :
    (loadControls block field registers).Takes allowed := by
  induction registers generalizing field with
  | nil => simp [loadControls]
  | cons register registers ih =>
      simp only [loadControls, takes_bind, takes_fetch, takes_modify]
      exact ⟨fetches _ _, fun value _ =>
        ⟨loads _ fun cpu => ⟨rfl, rfl, rfl, rfl, rfl⟩, fun _ _ => ih _⟩⟩

end Searches

section Exits

variable (routine : AllowsRoutine allowed)

include routine

@[simp]
theorem takes_takeExit (exits : UInt32) (place : Field UInt32) :
    (takeExit exits place).Takes allowed := by
  simp [takeExit, routine, routine.fetch]

@[simp]
theorem takes_exitFor (user exits : UInt32) (exit : EntryExit) :
    (exitFor user exits exit).Takes allowed := by
  simp [exitFor, routine]

/-- To take the exit for a user, its run status is all that is stored. -/
@[simp]
theorem takes_reflect {user : UInt32}
    (notes : ∀ status : UInt8, (store user Vmblok.runStatus status).Takes allowed)
    (exits : UInt32) : (reflect user exits).Takes allowed := by
  simp only [reflect, takes_bind, takes_ite]
  refine ⟨by simp [routine.fetch], fun waits _ => ⟨by simp [routine], fun _ =>
    ⟨by simp [routine.fetch], fun event _ => ⟨by simp [routine], fun _ =>
    ⟨by simp [routine.fetch], fun psw _ => ⟨by simp [routine.fetch], fun status _ =>
    ⟨takes_externalInterruption routine.fetch _ _ _, fun interruption _ => ?_⟩⟩⟩⟩⟩⟩⟩
  cases interruption with
  | some interruption => simp [routine]
  | none =>
      simp only [takes_store] at notes
      simp [takes_ioInterruptions routine.fetch, exitByPsw, routine, routine.fetch, notes]

@[simp]
theorem takes_exitRunning {user : UInt32}
    (notes : ∀ status : UInt8, (store user Vmblok.runStatus status).Takes allowed)
    (exits : UInt32) : (exitRunning user exits).Takes allowed := by
  simp [exitRunning, routine, routine.fetch, takes_reflect routine notes]

end Exits

section Charging

variable (charging : AllowsCharging allowed)

include charging

@[simp]
theorem takes_startCharging (user : UInt32) : (startCharging user).Takes allowed := by
  simp [startCharging, setTimerFrom, charging.fetch, charging.setTimer]

@[simp]
theorem takes_unlink (block : UInt32) (next previous : Field UInt32) :
    (unlink block next previous).Takes allowed := by
  simp [unlink, charging.fetch, charging.store _ _]

@[simp]
theorem takes_unstack (user : UInt32) : (unstack user).Takes allowed := by
  simp [unstack, charging, charging.fetch, charging.store _ _]

@[simp]
theorem takes_runRequest (block : UInt32) : (runRequest block).Takes allowed := by
  simp [runRequest, charging, charging.toAllowsRoutine, charging.fetch, charging.store _ _]

theorem takes_enterRoutine (saved : Vector UInt32 15) (routine : UInt32) :
    (enterRoutine saved routine).Takes allowed := by
  simp only [enterRoutine, takes_bind, takes_modify, takes_pure, implies_true, and_true]
  exact ⟨charging.modify _ fun cpu => ⟨⟨rfl, rfl, rfl, rfl, rfl⟩, rfl⟩, fun _ _ =>
    takes_branch charging.toAllowsRoutine routine⟩

theorem takes_leaveRelease (list exits block routine : UInt32) (saved : Vector UInt32 15) :
    (leaveRelease list exits block routine saved).Takes allowed := by
  simp only [leaveRelease, takes_bind, takes_modify]
  exact ⟨charging.modify _ fun cpu => ⟨⟨rfl, rfl, rfl, rfl, rfl⟩, rfl⟩, fun _ _ =>
    ⟨takes_storeRow charging.store _ _ _, fun _ _ => takes_takeExit charging.toAllowsRoutine _ _⟩⟩

@[simp]
theorem takes_runExecution (list exits block : UInt32) :
    (runExecution list exits block).Takes allowed := by
  simp [runExecution, FreeStorage.release, takes_fetchRow_of_fetches charging.fetch, charging,
    charging.fetch, charging.store _ _]
  intros
  split <;> simp [takes_enterRoutine charging, takes_leaveRelease charging, charging.log]

@[simp]
theorem takes_noteEnd (user : UInt32) (flag : UInt8) : (noteEnd user flag).Takes allowed := by
  simp [noteEnd, charging.fetch, charging.store _ _]

@[simp]
theorem takes_chargeProblemTime (user : UInt32) : (chargeProblemTime user).Takes allowed := by
  simp [chargeProblemTime, charging.fetch, charging.store _ _]

@[simp]
theorem takes_stopCharging (user : UInt32) :
    (stopCharging user).Takes allowed ↔ allowed .registers := by
  simp [stopCharging, charging.store _ _]

@[simp]
theorem takes_depart (list exits : UInt32) :
    (depart list exits).Takes allowed ↔ allowed .registers := by
  simp [depart, skipsScheduler, logOff, charging.toAllowsRoutine, charging.fetch,
    charging.store _ _]

end Charging

section ControlLoads

variable (charging : AllowsCharging allowed) (loads : AllowsControls allowed)
  (looksAtRegisters : allowed .registers)

include charging loads looksAtRegisters

section Entry

variable (translates : ∀ address, allowed (.translate address))

include translates

theorem takes_intervalTimerAddress (user : UInt32) :
    (intervalTimerAddress user).Takes allowed := by
  simp only [intervalTimerAddress, loadRealAddress, perform, takes_bind, takes_modify]
  have loadsOne : ∀ value : UInt32, allowed (.modify fun cpu => cpu.setControl 1 value) :=
    fun value => loads _ fun cpu => ⟨rfl, rfl, rfl, rfl, rfl⟩
  refine ⟨by simp [looksAtRegisters], fun cpu _ => ⟨by simp [charging.fetch], fun segmentTable _ =>
    ⟨loadsOne _, fun _ _ => ⟨by simp [translates], fun answer _ =>
    ⟨loadsOne _, fun _ _ => ?_⟩⟩⟩⟩⟩
  cases answer <;> simp

theorem takes_countDown (user elapsed list exits : UInt32) :
    (countDown user elapsed list exits).Takes allowed := by
  simp [countDown, takes_intervalTimerAddress charging loads looksAtRegisters translates,
    charging.toAllowsRoutine, charging.fetch, charging.store, charging.store _ _]

theorem takes_chargeRunTime (user list exits : UInt32) :
    (chargeRunTime user list exits).Takes allowed := by
  simp [chargeRunTime, chargeIntervalTimer, charging, charging.toAllowsRoutine, charging.fetch,
    charging.store _ _, charging.log, looksAtRegisters,
    takes_countDown charging loads looksAtRegisters translates]

theorem takes_enter (list exits : UInt32) : (enter list exits).Takes allowed := by
  have notes : ∀ (user : UInt32) (status : UInt8),
      (store user Vmblok.runStatus status).Takes allowed := by
    simp [charging.store _ _]
  simp [enter, selectExit, charging.toAllowsRoutine, charging.fetch, charging.store _ _,
    looksAtRegisters, takes_chargeRunTime charging loads looksAtRegisters translates,
    takes_reflect charging.toAllowsRoutine (notes _)]
  intros
  split <;> simp [takes_exitRunning charging.toAllowsRoutine (notes _)]

end Entry

section Dispatch

variable (purges : allowed .purgeTlb)

include purges

theorem takes_start (user extension : UInt32) (status : UserStatus) (virtual : Psw)
    (controls : TranslationControls) :
    (start user extension status virtual controls).Takes allowed := by
  have loadsAssist : ∀ value : UInt32, allowed (.modify fun cpu => cpu.setControl 6 value) :=
    fun value => loads _ fun cpu => ⟨rfl, rfl, rfl, rfl, rfl⟩
  have loadsTranslation : ∀ first second : UInt32,
      allowed (.modify fun cpu => (cpu.setControl 0 first).setControl 1 second) :=
    fun first second => loads _ fun cpu => ⟨rfl, rfl, rfl, rfl, rfl⟩
  have loadsGeneral : ∀ general : RegisterFile,
      allowed (.modify fun cpu => { cpu with general }) :=
    fun general => loads _ fun cpu => ⟨rfl, rfl, rfl, rfl, rfl⟩
  have loadsPsw : ∀ psw : Psw, allowed (.modify fun cpu => { cpu with psw }) :=
    fun psw => loads _ fun cpu => ⟨rfl, rfl, rfl, rfl, rfl⟩
  simp [start, loadTracing, startClocks, honourPurge, UserStatus.store, setTimerFrom, charging,
    charging.fetch, charging.store _ _, charging.setTimer, looksAtRegisters, purges,
    takes_loadControls charging.fetch loads, takes_fetchRow_of_fetches charging.fetch, loadsAssist,
    loadsTranslation, loadsGeneral, loadsPsw]

theorem takes_load (user micblok extension : UInt32) (status : UserStatus) (virtual : Psw)
    (controls : TranslationControls) :
    (load user micblok extension status virtual controls).Takes allowed := by
  simp [load, enableAssists, charging.fetch, charging.store _ _,
    takes_interruptionPending charging.fetch,
    takes_start charging loads looksAtRegisters purges]

theorem takes_loadUser (user exits : UInt32) : (loadUser user exits).Takes allowed := by
  have loadsFloating : ∀ floating : Vector UInt64 4,
      allowed (.modify fun cpu => { cpu with floating }) :=
    fun floating => loads _ fun cpu => ⟨rfl, rfl, rfl, rfl, rfl⟩
  simp [loadUser, UserStatus.fetch, ownControls, shadowControls, charging.toAllowsRoutine,
    charging.fetch, charging.log, takes_fetchRow_of_fetches charging.fetch, loadsFloating,
    takes_load charging loads looksAtRegisters purges]

variable (handsOff : ∀ register value, allowed (.handOff register value))

include handsOff

theorem takes_dispatchUser (list exits user systemUser : UInt32) :
    (dispatchUser list exits user systemUser).Takes allowed := by
  simp [dispatchUser, takeFrom, timeSlice, giveTo, charging, charging.fetch, charging.store,
    charging.store _ _, handsOff, takes_loadUser charging loads looksAtRegisters purges]

theorem takes_select (list exits : UInt32) : (select list exits).Takes allowed := by
  have dispatches : ∀ systemUser, (dispatchFirst list exits systemUser).Takes allowed := by
    intro systemUser
    simp only [dispatchFirst, takes_bind, takes_fetchAddress]
    refine ⟨charging.fetch _ _, fun anchor _ => ⟨charging.fetch _ _, fun first _ =>
      ⟨takes_firstRunnable charging.fetch _ _ _, fun found _ => ?_⟩⟩⟩
    cases found with
    | some user => exact takes_dispatchUser charging loads looksAtRegisters purges handsOff _ _ _ _
    | none => exact takes_takeExit charging.toAllowsRoutine _ _
  simp [select, charging, charging.toAllowsRoutine, charging.fetch, looksAtRegisters, dispatches]

theorem takes_departAndSelect (list exits : UInt32) :
    (departAndSelect list exits).Takes allowed := by
  simp only [departAndSelect, takes_bind, takes_depart charging]
  refine ⟨looksAtRegisters, fun departure _ => ?_⟩
  cases departure with
  | left completion => exact takes_pure completion
  | dispatchNext =>
      exact takes_select charging loads looksAtRegisters purges handsOff list exits

end Dispatch

end ControlLoads

end Dispatcher

end Assist370
