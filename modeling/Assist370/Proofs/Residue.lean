import Assist370.Proofs.Dispatch
import Assist370.Proofs.TwoRuns

/-!
# Registers of the previous user

The selection of the next user looks at general register 11 and the CPU timer and at no other
register, so that it goes the same way whatever the previous user has left in the others. What is
loaded for the next user is then the same as well. Control registers that are not loaded for it
(`Dispatcher.loadedControls`) stay as the previous user has left them.
-/

namespace Assist370

namespace RegisterFile

/-- Two register files have had some registers loaded with the same values, and no others. -/
structure LoadedAlike (registers : List RegisterNumber)
    (before other after otherAfter : RegisterFile) : Prop where
  loaded : ∀ register ∈ registers, otherAfter.read register = after.read register
  kept : ∀ register ∉ registers,
    after.read register = before.read register ∧ otherAfter.read register = other.read register

namespace LoadedAlike

variable {registers : List RegisterNumber} {before other after otherAfter : RegisterFile}

theorem refl (before other : RegisterFile) : LoadedAlike [] before other before other :=
  ⟨nofun, fun _ _ => ⟨rfl, rfl⟩⟩

theorem load (alike : LoadedAlike registers before other after otherAfter)
    (register : RegisterNumber) (value : UInt32) :
    LoadedAlike (registers ++ [register]) before other (after.load register value)
      (otherAfter.load register value) := by
  constructor
  · intro read read_mem
    rw [read_load, read_load]
    split
    · rfl
    · rename_i others
      exact alike.loaded read
        ((List.mem_append.mp read_mem).resolve_right (by simpa using Ne.symm others))
  · intro read read_not_mem
    have others : register ≠ read := by
      rintro rfl
      simp at read_not_mem
    simpa [others] using
      alike.kept read fun read_mem => read_not_mem (List.mem_append_left _ read_mem)

end LoadedAlike

end RegisterFile

namespace Dispatcher

open Microcode RegisterFile

variable {known : Knowledge} {scene : Scene} {user : UInt32}

/-- The control registers that are loaded for a user with or without an extended virtual machine,
whose events are traced or not. -/
def loadedControls (extended traced : Bool) : List RegisterNumber :=
  (if extended then [4, 5, 6, 7, 8, 9, 10, 11, 12, 13] else []) ++
    (if traced then [9, 10, 11] else []) ++ [6, 0, 1]

/-- Two processors have been loaded with the registers of one user, among them some control
registers, while they have kept the others from before. -/
structure Coincide (registers : List RegisterNumber) (before other : RegisterFile)
    (after otherAfter : Cpu) : Prop where
  general : otherAfter.general = after.general
  floating : otherAfter.floating = after.floating
  psw : otherAfter.psw = after.psw
  cpuTimer : otherAfter.cpuTimer = after.cpuTimer
  control : LoadedAlike registers before other after.control otherAfter.control

theorem loadControls_couples (block : UInt32) (field : Field UInt32)
    {registers loaded : List RegisterNumber} {before beforeOther : RegisterFile} {other : Cpu}
    (alike : LoadedAlike loaded before beforeOther scene.cpu.control other.control)
    {α : Type} {next : Unit → Microcode α} {post : α → Scene → Cpu → Prop}
    (couples : ∀ after otherControl,
      after.cpu.floating = scene.cpu.floating → after.cpu.cpuTimer = scene.cpu.cpuTimer →
      LoadedAlike (loaded ++ registers) before beforeOther after.cpu.control otherControl →
      (next ()).Couples known post after { other with control := otherControl }) :
    (loadControls block field registers >>= next).Couples known post scene other := by
  induction registers generalizing field loaded scene other with
  | nil =>
      rw [List.append_nil] at couples
      exact couples scene _ rfl rfl alike
  | cons register rest ih =>
      simp only [loadControls, LawfulMonad.bind_assoc]
      refine couples_after_ignored (by simp) fun value fetched sameCpu => ?_
      rw [← sameCpu] at alike couples
      refine (couples_modify _ _).mpr (ih (field.item 1) (alike.load register value) ?_)
      intro after otherControl floating cpuTimer laterAlike
      rw [List.append_assoc] at laterAlike
      exact couples after otherControl floating cpuTimer laterAlike

/-- The rest of a start makes the registers of both processors those of the user. -/
theorem startAssisted_couples (user : UInt32) (status : UserStatus) (virtual real : Psw)
    (controls : TranslationControls) {loaded : List RegisterNumber}
    {before beforeOther : RegisterFile} {other : Cpu}
    (alike : LoadedAlike loaded before beforeOther scene.cpu.control other.control)
    (floating : other.floating = scene.cpu.floating)
    (cpuTimer : other.cpuTimer = scene.cpu.cpuTimer) :
    (startAssisted user status virtual real controls).Couples known
      (fun _ after otherAfter => after.cpu.psw = real ∧
        Coincide (loaded ++ [0, 1]) before beforeOther after.cpu otherAfter) scene other := by
  have alike := (alike.load 0 controls.control0).load 1 controls.control1
  rw [List.append_assoc] at alike
  simp only [startAssisted]
  refine couples_after_ignored (by simp [startClocks]) fun _ clocked clockedCpu => ?_
  refine (couples_modify _ _).mpr (couples_after_ignored (by simp) fun _ noted notedCpu => ?_)
  refine couples_after_ignored (by simp) fun general row rowCpu => (couples_modify _ _).mpr ?_
  refine couples_after_ignored (by simp) fun _ masked maskedCpu => ?_
  refine couples_after_ignored (by simp [honourPurge]) fun _ purged purgedCpu => ?_
  refine couples_after_ignored (by simp [UserStatus.store]) fun _ stored storedCpu => ?_
  refine couples_after_ignored (by simp) fun _ replaced replacedCpu => ?_
  have sameCpu : replaced.cpu =
      { (scene.cpu.setControl 0 controls.control0).setControl 1 controls.control1 with
        general } := by
    rw [replacedCpu, storedCpu, purgedCpu, maskedCpu, rowCpu, notedCpu, clockedCpu]
  simp only [stopCharging, setTimerFrom, LawfulMonad.bind_assoc]
  refine couples_registers ?_ ?_
  · rw [sameCpu]
    simp only [Cpu.setControl, cpuTimer]
  refine couples_after_ignored (by simp) fun _ charged chargedCpu => ?_
  refine couples_after_ignored (by simp) fun value fetched fetchedCpu => ?_
  refine (couples_setTimer _ _).mpr (couples_after_ignored (by simp) fun _ first firstCpu => ?_)
  refine couples_after_ignored (by simp) fun _ second secondCpu => ?_
  refine couples_after_ignored (by simp) fun _ third thirdCpu => (couples_modify _ _).mpr ?_
  refine couples_after_ignored (by simp) fun _ final finalCpu => (couples_pure _).mpr ?_
  rw [finalCpu, thirdCpu, secondCpu, firstCpu, fetchedCpu, chargedCpu, sameCpu]
  exact ⟨rfl, ⟨rfl, floating, rfl, rfl, alike⟩⟩

theorem realPsw_masks (virtual : Psw) : (realPsw virtual).masks Psw.eventRecordingMask = false := by
  have mask : (realPsw virtual).systemMask = 0x07 := rfl
  rw [Psw.masks, mask]
  decide

theorem masks_eventRecording (real : Psw) :
    { real with systemMask := real.systemMask ||| Psw.eventRecordingMask }.masks
      Psw.eventRecordingMask = true := by
  have bits : ∀ mask : UInt8,
      ((mask ||| Psw.eventRecordingMask) &&& Psw.eventRecordingMask != 0) = true := by
    rintro ⟨bits⟩
    revert bits
    decide +kernel
  exact bits real.systemMask

section

variable (user : UInt32) (status : UserStatus) (virtual : Psw) (controls : TranslationControls)
  {loaded : List RegisterNumber} {before beforeOther : RegisterFile} {other : Cpu}

/-- The same with the assist controls loaded before. -/
theorem startControls_couples (real : Psw)
    (alike : LoadedAlike loaded before beforeOther scene.cpu.control other.control)
    (floating : other.floating = scene.cpu.floating)
    (cpuTimer : other.cpuTimer = scene.cpu.cpuTimer) :
    (do
      let assistControl ← fetch user Vmblok.assistControl
      modify fun cpu => cpu.setControl 6 assistControl
      startAssisted user status virtual real controls).Couples known
        (fun _ after otherAfter => after.cpu.psw = real ∧
          Coincide (loaded ++ [6, 0, 1]) before beforeOther after.cpu otherAfter) scene other := by
  refine couples_after_ignored (by simp) fun assistControl fetched fetchedCpu => ?_
  rw [← fetchedCpu] at alike floating cpuTimer
  refine (couples_modify _ _).mpr ?_
  have couples := @startAssisted_couples known
    { fetched with cpu := fetched.cpu.setControl 6 assistControl } user status virtual real controls
    _ _ _ (other.setControl 6 assistControl) (alike.load 6 assistControl) floating cpuTimer
  rw [List.append_assoc] at couples
  exact couples

/-- The same with the tracing before, which has loaded three more control registers if it is on. -/
theorem startTracing_couples
    (alike : LoadedAlike loaded before beforeOther scene.cpu.control other.control)
    (floating : other.floating = scene.cpu.floating)
    (cpuTimer : other.cpuTimer = scene.cpu.cpuTimer) :
    (do
      store user Vmblok.assistFlags status.assists
      let real ← loadTracing user (realPsw virtual)
      let assistControl ← fetch user Vmblok.assistControl
      modify fun cpu => cpu.setControl 6 assistControl
      startAssisted user status virtual real controls).Couples known
        (fun _ after otherAfter => Coincide
          (loaded ++ ((if after.cpu.psw.masks Psw.eventRecordingMask then [9, 10, 11] else []) ++
            [6, 0, 1])) before beforeOther after.cpu otherAfter) scene other := by
  refine couples_after_ignored (by simp) fun _ stored storedCpu => ?_
  simp only [loadTracing, LawfulMonad.bind_assoc]
  refine couples_after_ignored (by simp) fun traced tested testedCpu => ?_
  rw [← testedCpu.trans storedCpu] at alike floating cpuTimer
  cases traced with
  | false =>
      refine (startControls_couples user status virtual controls (realPsw virtual) alike floating
        cpuTimer).mono ?_
      rintro _ after otherAfter ⟨isReal, coincide⟩
      have untraced : after.cpu.psw.masks Psw.eventRecordingMask = false := by
        rw [isReal, realPsw_masks]
      rw [untraced]
      exact coincide
  | true =>
      simp only [if_true, LawfulMonad.bind_assoc]
      refine couples_after_ignored (by simp) fun block addressed addressedCpu => ?_
      rw [← addressedCpu] at alike floating cpuTimer
      refine loadControls_couples block tracedEvents alike ?_
      intro recorded otherControl sameFloating sameTimer alike
      have couples := fun real => @startControls_couples known recorded user status virtual controls
        _ _ _ { other with control := otherControl } real alike
        (floating.trans sameFloating.symm) (cpuTimer.trans sameTimer.symm)
      refine (couples _).mono ?_
      rintro _ after otherAfter ⟨isReal, coincide⟩
      have isTraced : after.cpu.psw.masks Psw.eventRecordingMask = true := by
        rw [isReal, masks_eventRecording]
      rw [isTraced, if_pos rfl, ← List.append_assoc]
      exact coincide

end

/-- A start makes the registers of both processors those of the user, as far as it loads any. -/
theorem start_couples (user extension : UInt32) (status : UserStatus) (virtual : Psw)
    (controls : TranslationControls) {other : Cpu} (floating : other.floating = scene.cpu.floating)
    (cpuTimer : other.cpuTimer = scene.cpu.cpuTimer) :
    (start user extension status virtual controls).Couples known
      (fun _ after otherAfter => Coincide
        (loadedControls status.isExtended (after.cpu.psw.masks Psw.eventRecordingMask))
        scene.cpu.control other.control after.cpu otherAfter) scene other := by
  rw [start_eq]
  simp only [loadedControls, List.append_assoc]
  cases status.isExtended with
  | false => exact startTracing_couples user status virtual controls (.refl _ _) floating cpuTimer
  | true =>
      refine loadControls_couples _ _ (.refl _ _) ?_
      intro loaded otherControl sameFloating sameTimer alike
      exact startTracing_couples user status virtual controls alike
        (floating.trans sameFloating.symm) (cpuTimer.trans sameTimer.symm)

/-- Two processors have been given to a user, with the control registers that are loaded for it by
what the dispatch has left in its VMBLOK. -/
def GivenAlike (known : Knowledge) (user : UInt32) (before other : RegisterFile) (after : Scene)
    (otherAfter : Cpu) : Prop :=
  ∃ extended,
    Coincide (loadedControls extended (after.cpu.psw.masks Psw.eventRecordingMask)) before other
      after.cpu otherAfter ∧
    (known.faithful → prefixRegion.Apart (vmblokRegion user) →
      after.memory.isExtended user = extended)

theorem start_gives (user extension : UInt32) (status : UserStatus) {virtual : Psw}
    (fits : known.faithful → virtual.Fits) (controls : TranslationControls) {other : Cpu}
    (floating : other.floating = scene.cpu.floating)
    (cpuTimer : other.cpuTimer = scene.cpu.cpuTimer) :
    (start user extension status virtual controls).Couples known
      (fun _ after otherAfter =>
        GivenAlike known user scene.cpu.control other.control after otherAfter) scene other := by
  have extended : (start user extension status virtual controls).Achieves known
      (fun _ after => known.faithful ∧ prefixRegion.Apart (vmblokRegion user) →
        after.memory.isExtended user = status.isExtended) scene := by
    refine achieves_of_imp fun ⟨isFaithful, apart⟩ => ?_
    refine (start_runs apart isFaithful extension status (fits isFaithful) controls).mono ?_
      fun _ _ => id
    intro _ after starts
    rw [Memory.isExtended, starts.processorStatus]
    rfl
  refine ((start_couples user extension status virtual controls floating cpuTimer).and_achieves
    extended).mono ?_
  exact fun _ after otherAfter both =>
    ⟨status.isExtended, both.1, fun isFaithful apart => both.2 ⟨isFaithful, apart⟩⟩

theorem load_couples (user micblok extension : UInt32) (status : UserStatus) {virtual : Psw}
    (fits : known.faithful → virtual.Fits) (controls : TranslationControls) {other : Cpu}
    (floating : other.floating = scene.cpu.floating)
    (cpuTimer : other.cpuTimer = scene.cpu.cpuTimer) :
    (load user micblok extension status virtual controls).Couples known
      (fun _ after otherAfter =>
        GivenAlike known user scene.cpu.control other.control after otherAfter) scene other := by
  have looks : ∀ status : UserStatus,
      (interruptionPending user extension status).Takes Action.IgnoresRegisters :=
    takes_interruptionPending (fun _ _ => trivial) user extension
  simp only [load, pure_bind]
  refine couples_after_ignored (by simp) fun _ checked checkedCpu => ?_
  rw [← checkedCpu] at floating cpuTimer ⊢
  refine (couples_ite _ _ _).mpr ⟨fun _ => ?_, fun _ => ?_⟩
  · exact start_gives user extension _ fits controls floating cpuTimer
  · refine couples_after_ignored (by simp [enableAssists, looks]) fun assisted told toldCpu => ?_
    rw [← toldCpu] at floating cpuTimer ⊢
    exact start_gives user extension assisted fits controls floating cpuTimer

/-- Where no user is dispatched, nothing is promised of the registers. -/
theorem GoesOn.couples {program : Microcode Completion} (goesOn : GoesOn program)
    (blind : program.Takes Action.IsBlind) {post : Scene → Cpu → Prop} {other : Cpu} :
    program.Couples known
      (fun completion after otherAfter => completion = .dispatched → post after otherAfter)
      scene other := by
  refine couples_of_blind blind fun completion after otherAfter yields dispatched => ?_
  rw [goesOn.completes completion yields] at dispatched
  nomatch dispatched

theorem isBlind_allowsWork : AllowsWork Action.IsBlind :=
  ⟨fun _ _ => trivial, fun _ _ => trivial, fun _ => trivial, fun _ => trivial, fun _ => trivial⟩

@[simp]
theorem isBlind_allowsCharging : AllowsCharging Action.IsBlind :=
  isBlind_allowsWork.charging

@[simp]
theorem isBlind_allowsRoutine : AllowsRoutine Action.IsBlind :=
  isBlind_allowsCharging.toAllowsRoutine

theorem loadUser_couples (user exits : UInt32) {other : Cpu}
    (cpuTimer : other.cpuTimer = scene.cpu.cpuTimer) :
    (loadUser user exits).Couples known
      (fun completion after otherAfter => completion = .dispatched →
        GivenAlike known user scene.cpu.control other.control after otherAfter) scene other := by
  simp only [loadUser]
  refine couples_after_ignored (by simp [UserStatus.fetch]) fun status s1 c1 => ?_
  refine couples_after_ignored (by simp) fun micblok s2 c2 => ?_
  refine couples_after_ignored (by simp) fun floating s3 c3 => (couples_modify _ _).mpr ?_
  rw [← c1, ← c2, ← c3] at cpuTimer ⊢
  refine couples_bind_of_ignores (by simp) (ensures_fetch _ _ fun virtual isVirtual _ => ?_)
  have fits : known.faithful → virtual.Fits := fun isFaithful => by
    rw [isVirtual isFaithful]
    exact Psw.fits_ofBytes _
  have loads : ∀ (extension : UInt32) (status : UserStatus) (controls : TranslationControls)
      (before : Scene), before.cpu = { s3.cpu with floating } →
      (load user micblok extension status virtual controls).Couples known
        (fun completion after otherAfter => completion = .dispatched →
          GivenAlike known user s3.cpu.control other.control after otherAfter)
        before { other with floating } := by
    intro extension status controls before sameCpu
    have couples := @load_couples known before user micblok extension status virtual fits controls
      { other with floating } (by rw [sameCpu]) (by rw [sameCpu, cpuTimer])
    rw [sameCpu] at couples
    exact couples.mono fun _ _ _ given _ => given
  refine couples_after_ignored (by simp [ownControls]) fun controls s4 c4 => ?_
  refine couples_after_ignored (by simp) fun extension s5 c5 => ?_
  have sameCpu := c5.trans c4
  refine (couples_ite _ _ _).mpr ⟨fun _ => (couples_ite _ _ _).mpr ⟨fun _ => ?_, fun _ => ?_⟩,
    fun _ => loads _ _ _ _ sameCpu⟩
  · exact couples_after_ignored (by simp) fun _ _ _ =>
      (takeExit_goesOn _ _).couples (by simp)
  · refine (couples_ite _ _ _).mpr ⟨fun _ => ?_, fun _ => loads _ _ _ _ sameCpu⟩
    exact couples_after_ignored (by simp [shadowControls]) fun _ _ c6 =>
      loads _ _ _ _ (c6.trans sameCpu)

theorem dispatchUser_couples (list exits user systemUser : UInt32) {other : Cpu} :
    (dispatchUser list exits user systemUser).Couples known
      (fun completion after otherAfter => completion = .dispatched →
        GivenAlike known user scene.cpu.control other.control after otherAfter) scene other := by
  have gives : ∀ (running : Bool) (rest : UInt32) (before : Scene), before.cpu = scene.cpu →
      (do
        let slice ← timeSlice list user running rest
        giveTo user slice
        loadUser user exits).Couples known
          (fun completion after otherAfter => completion = Completion.dispatched →
            GivenAlike known user scene.cpu.control other.control after otherAfter)
          before other := by
    intro running rest before sameCpu
    simp only [giveTo, startCharging, setTimerFrom, LawfulMonad.bind_assoc]
    refine couples_after_ignored (by simp [timeSlice]) fun slice s1 c1 => ?_
    refine couples_after_ignored (by simp) fun _ s2 c2 => ?_
    refine couples_after_ignored (by simp) fun timer s3 c3 => (couples_setTimer _ _).mpr ?_
    refine couples_after_ignored (by simp) fun _ s4 c4 => ?_
    refine couples_after_ignored (by simp) fun _ s5 c5 => ?_
    have control : s5.cpu.control = scene.cpu.control := by
      rw [c5, c4, c3, c2, c1, sameCpu]
    have cpuTimer : s5.cpu.cpuTimer = timer.toInt64 := by
      rw [c5, c4]
    rw [← control]
    exact @loadUser_couples known s5 user exits { other with cpuTimer := timer.toInt64 }
      cpuTimer.symm
  simp only [dispatchUser]
  refine couples_after_ignored (by simp) fun refuses s1 c1 => ?_
  refine (couples_ite _ _ _).mpr ⟨fun _ => ?_, fun _ => ?_⟩
  · refine couples_after_ignored (by simp) fun _ _ _ => ?_
    exact couples_after_ignored (by simp) fun _ _ _ => couples_decline _
  · refine couples_after_ignored (by simp) fun runUser s2 c2 => ?_
    refine couples_after_ignored (by simp) fun rest s3 c3 => ?_
    refine (couples_ite _ _ _).mpr ⟨fun _ => ?_, fun _ => gives _ _ _ (by rw [c3, c2, c1])⟩
    refine couples_after_ignored (by simp [takeFrom]) fun _ s4 c4 => ?_
    exact gives _ _ _ (by rw [c4, c3, c2, c1])

/-- The selection goes the same way in both runs, and the first user that can run gets the
processor. -/
theorem select_couples (list exits : UInt32) {other : Cpu}
    (general : other.general.read 11 = scene.cpu.general.read 11)
    (cpuTimer : other.cpuTimer = scene.cpu.cpuTimer) :
    (select list exits).Couples known
      (fun completion after otherAfter => completion = .dispatched → ∃ user,
        (known.faithful → FirstRunnable (charged scene).memory list user) ∧
          GivenAlike known user scene.cpu.control other.control after otherAfter)
      scene other := by
  simp only [select, currentUser, stopCharging, Microcode.general, LawfulMonad.bind_assoc,
    pure_bind]
  refine couples_registers (by rw [general]) (couples_registers (by rw [cpuTimer]) ?_)
  refine couples_bind_of_ignores (by simp) ((ensures_store _ _ _).mpr fun _ _ => ?_)
  refine couples_bind_of_ignores (by simp) (ensures_fetch _ _ fun extendLock _ _ => ?_)
  refine couples_bind_of_ignores (by simp) ((ensures_require _ _).mpr ⟨fun _ _ => ?_, by simp⟩)
  refine couples_bind_of_ignores (by simp) (ensures_testBits _ _ _ fun recovering _ _ => ?_)
  refine couples_bind_of_ignores (by simp) ((ensures_require _ _).mpr ⟨fun _ _ => ?_, by simp⟩)
  refine couples_bind_of_ignores (by simp) (ensures_fetchAddress _ _ fun systemUser _ _ => ?_)
  refine couples_bind_of_ignores (by simp) (ensures_fetchAddress _ _ fun request _ _ => ?_)
  refine (couples_ite _ _ _).mpr
    ⟨fun _ => (runRequest_goesOn request).couples (by simp),
      fun _ => ?_⟩
  refine couples_bind_of_ignores (by simp) (ensures_fetchAddress _ _ fun execution _ _ => ?_)
  refine (couples_ite _ _ _).mpr ⟨fun _ => (runExecution_goesOn list exits execution).couples
    (by simp), fun _ => ?_⟩
  refine couples_bind_of_ignores (by simp) (ensures_testBits _ _ _ fun locked _ _ => ?_)
  refine (couples_ite _ _ _).mpr
    ⟨fun _ => (takeExit_goesOn _ _).couples (by simp), fun _ => ?_⟩
  simp only [dispatchFirst]
  refine couples_bind_of_ignores (by simp) (ensures_fetchAddress _ _ fun anchor isAnchor _ => ?_)
  refine couples_bind_of_ignores (by simp) (ensures_fetchAddress _ _ fun first isFirst _ => ?_)
  refine couples_bind_of_ignores (takes_firstRunnable (fun _ _ => trivial) _ _ _)
    (firstRunnable_ensures anchor chainLimit first (fun found leads _ => ?_) fun _ => trivial)
  cases found with
  | none => exact (takeExit_goesOn _ _).couples (by simp)
  | some user =>
      refine (dispatchUser_couples list exits user systemUser).mono ?_
      refine fun _ after otherAfter given dispatched =>
        ⟨user, fun isFaithful => ?_, given dispatched⟩
      have leads := leads isFaithful user rfl
      rwa [isAnchor isFaithful, isFirst isFaithful, isAnchor isFaithful] at leads

end Dispatcher

/-- The registers that a dispatch looks at before it loads any, and those that its gate looks at,
are the same in two processors. -/
structure Cpu.SelectsAlike (cpu other : Cpu) : Prop where
  user : other.general.read 11 = cpu.general.read 11
  cpuTimer : other.cpuTimer = cpu.cpuTimer
  sieActive : other.sieActive = cpu.sieActive
  problemState : other.psw.isProblemState = cpu.psw.isProblemState
  cpAssist : other.assistControl.cpAssist = cpu.assistControl.cpAssist

theorem Cpu.SelectsAlike.cpGate {cpu other : Cpu} (alike : cpu.SelectsAlike other)
    (registry : Registry) (assist : Assist) :
    registry.cpGate assist other = registry.cpGate assist cpu := by
  rw [Registry.cpGate, Registry.cpGate, alike.sieActive, alike.problemState, alike.cpAssist]

@[simp]
theorem Staging.committedCpu_psw {Machine : Type} (staging : Staging Machine) :
    staging.committedCpu.psw = staging.cpu.psw := by
  rw [committedCpu]
  split <;> rfl

open Dispatcher in
theorem Dispatcher.Coincide.committed {registers : List RegisterNumber}
    {before other : RegisterFile} {Machine : Type} {after : Staging Machine} {otherAfter : Cpu}
    (coincide : Coincide registers before other after.cpu otherAfter) :
    Coincide registers before other after.committedCpu
      { after with cpu := otherAfter }.committedCpu := by
  rw [Staging.committedCpu, Staging.committedCpu]
  split
  · exact { coincide with }
  · exact coincide

namespace System

variable {Machine Refusal : Type} {callouts : Callouts Machine Refusal}

/-- Whether an assist can complete, and what becomes of the machine then, does not depend on the
registers. -/
theorem commit_registers (callouts : Callouts Machine Refusal) (staging : Staging Machine) :
    ∃ (stored : Except (AccessError Refusal) Unit) (machine : Machine), ∀ cpu,
      { staging with cpu }.commit callouts =
        (stored.map fun _ => { staging with cpu }.committedCpu, machine) := by
  simp only [Staging.commit]
  rcases Journal.Run.probeAll callouts staging.journal.runs staging.machine with
    ⟨error | _, probed⟩
  · exact ⟨.error error, probed, fun _ => rfl⟩
  · rcases written : Journal.Run.writeAll callouts staging.journal.runs probed with
      ⟨error | _, machine⟩
    · exact ⟨.error error, machine, fun _ => by simp only [written]; rfl⟩
    · exact ⟨.ok (), if staging.purge then callouts.purgeTlb machine else machine,
        fun _ => by simp only [written]; rfl⟩

/-- An assist completes as well with other registers, and leaves the same machine. -/
theorem settle_registers {system : System Machine} {assist : Assist}
    {ran : Ending Refusal Completion × Staging Machine} {completion : Completion}
    (completed : (system.settle callouts assist ran).result = .ok completion.outcome)
    (other otherAfter : Cpu) :
    let settled := system.settle callouts assist ran
    let otherSettled := { system with cpu := other }.settle callouts assist
      (ran.1, { ran.2 with cpu := otherAfter })
    ran.1 = .done completion ∧ settled.system.cpu = ran.2.committedCpu ∧
      otherSettled.result = .ok completion.outcome ∧
      otherSettled.system.machine = settled.system.machine ∧
      otherSettled.system.cpu = { ran.2 with cpu := otherAfter }.committedCpu := by
  rcases ran with ⟨done | reason | error, after⟩
  · obtain ⟨stored, machine, commits⟩ := commit_registers callouts after
    have committed := commits after.cpu
    simp only [settle, committed, commits otherAfter] at completed ⊢
    cases stored with
    | error _ => simp [Except.map] at completed
    | ok _ =>
        simp only [Except.map, Except.ok.injEq] at completed ⊢
        simp [outcome_injective completed]
  · cases completion <;> simp [settle, decline, Completion.outcome] at completed
  · simp [settle] at completed

open Dispatcher

/-- The run of the selection of a user, with some registers. -/
def selection (callouts : Callouts Machine Refusal) (system : System Machine) (list exits : UInt32)
    (cpu : Cpu) : Ending Refusal Completion × Staging Machine :=
  (select (Address.wrap list) (Address.wrap exits)).run callouts { machine := system.machine, cpu }

/-- The selection runs in the same way with registers that are alike for it. -/
theorem selection_alike {system : System Machine} (list exits : UInt32) {other : Cpu}
    (alike : system.cpu.SelectsAlike other) {known : Knowledge} {memory : Machine → Memory}
    (shows : callouts.Shows known memory system.machine) (stores : ∀ region, known.stores region) :
    let ran := system.selection callouts list exits system.cpu
    ∃ otherAfter,
      system.selection callouts list exits other = (ran.1, { ran.2 with cpu := otherAfter }) ∧
      (ran.1 = .done .dispatched → ∃ user,
        (known.faithful →
          FirstRunnable ((memory system.machine).put (Address.wrap (system.cpu.general.read 11))
            Vmblok.totalTime system.cpu.cpuTimer.toUInt64) (Address.wrap list) user) ∧
          GivenAlike known user system.cpu.control other.control (ran.2.scene memory)
            otherAfter) := by
  have couples := @select_couples known (.before (memory system.machine) (.controlProgram
    (select (Address.wrap list) (Address.wrap exits))) system.cpu) (Address.wrap list)
    (Address.wrap exits) other alike.user alike.cpuTimer
  have coupled := @Microcode.Couples.run _ _ callouts known memory system.machine _ _ _
    { machine := system.machine, cpu := system.cpu } other shows .refl (fun _ _ => stores _)
    (by simpa [Staging.scene, Scene.before, AssistProgram.registers] using couples)
  obtain ⟨otherAfter, otherRan, gives⟩ := coupled
  exact ⟨otherAfter, otherRan, fun done => gives .dispatched _ (Prod.ext done rfl) rfl⟩

/-- With registers that are alike for it and a selection that runs in the same way, a dispatch is
done as well. -/
theorem perform_registers {policy : Policy} {system : System Machine} {list exits : UInt32}
    {other otherAfter : Cpu} (alike : system.cpu.SelectsAlike other)
    (sameRun : system.selection callouts list exits other =
      ((system.selection callouts list exits system.cpu).1,
        { (system.selection callouts list exits system.cpu).2 with cpu := otherAfter }))
    (dispatched : (system.perform policy callouts (.disp2 list exits)).result = .ok .dispatched) :
    let ran := system.selection callouts list exits system.cpu
    let performed := system.perform policy callouts (.disp2 list exits)
    let otherPerformed := { system with cpu := other }.perform policy callouts (.disp2 list exits)
    ran.1 = .done .dispatched ∧ performed.system.cpu = ran.2.committedCpu ∧
      otherPerformed.result = .ok .dispatched ∧
      otherPerformed.system.machine = performed.system.machine ∧
      otherPerformed.system.cpu = { ran.2 with cpu := otherAfter }.committedCpu := by
  have gate := alike.cpGate system.registry .disp2
  simp only [perform, Request.program, performControlProgram, Request.assist, gate] at dispatched ⊢
  cases passed : system.registry.cpGate .disp2 system.cpu with
  | declined reason => simp [passed, decline] at dispatched
  | operationException => simp [passed] at dispatched
  | passed =>
      simp only [passed] at dispatched ⊢
      have settled := @settle_registers _ _ callouts _ _
        (system.selection callouts list exits system.cpu) .dispatched dispatched other otherAfter
      rw [← sameRun] at settled
      exact settled

/-- Nothing of the registers of the previous user reaches the next one, but for the control
registers that are not loaded for it. A dispatch from the same storage with other registers is done
as well and leaves the same machine. The registers that are loaded for the user are the same then.
Control registers 4, 5 and 7 to 13 are among them if the user has an extended virtual machine, and
9 to 11 if its events are traced; the others are kept. -/
theorem dispatches_alike (policy : Policy) (callouts : Callouts Machine Refusal)
    (system : System Machine) (list exits : UInt32) {other : Cpu}
    (alike : system.cpu.SelectsAlike other)
    (dispatched : (system.perform policy callouts (.disp2 list exits)).result = .ok .dispatched) :
    let performed := system.perform policy callouts (.disp2 list exits)
    let otherPerformed := { system with cpu := other }.perform policy callouts (.disp2 list exits)
    let traced := performed.system.cpu.psw.masks Psw.eventRecordingMask
    otherPerformed.result = .ok .dispatched ∧
      otherPerformed.system.machine = performed.system.machine ∧
      (∃ extended, Coincide (loadedControls extended traced) system.cpu.control other.control
        performed.system.cpu otherPerformed.system.cpu) ∧
      ∀ view : StorageView callouts, ∃ user,
        (∃ searched, Searches (view.memory system.machine) system.cpu (.disp2 list exits) searched ∧
          FirstRunnable searched (Address.wrap list) user) ∧
        (prefixRegion.Apart (vmblokRegion user) →
          Coincide
            (loadedControls ((view.memory performed.system.machine).isExtended user) traced)
            system.cpu.control other.control performed.system.cpu otherPerformed.system.cpu) := by
  obtain ⟨otherAfter, sameRun, gives⟩ := selection_alike list exits alike
    (callouts.shows_constant Memory.zero system.machine) fun _ => trivial
  obtain ⟨done, cpu, otherDispatched, sameMachine, otherCpu⟩ :=
    perform_registers alike sameRun dispatched
  refine ⟨otherDispatched, sameMachine, ?_, fun view => ?_⟩
  · obtain ⟨user, -, extended, coincide, -⟩ := gives done
    rw [cpu, otherCpu, Staging.committedCpu_psw]
    exact ⟨extended, coincide.committed⟩
  · obtain ⟨final, viewRun, viewGives⟩ := selection_alike list exits alike
      (view.shows system.machine) fun _ => trivial
    obtain rfl : otherAfter = final :=
      congrArg (fun ran => ran.2.cpu) (sameRun.symm.trans viewRun)
    obtain ⟨user, isFirst, extended, coincide, isExtended⟩ := viewGives done
    obtain ⟨after, ran, -, memory⟩ := @ran_of_completed _ _ callouts policy system
      (.disp2 list exits) view .dispatched dispatched
    have sameMemory :
        view.memory (system.perform policy callouts (.disp2 list exits)).system.machine =
          ((system.selection callouts list exits system.cpu).2.scene view.memory).memory := by
      rw [memory]
      exact congrArg (fun ran => view.seen ran.2) ran.symm
    refine ⟨user, ⟨_, .select list exits, isFirst trivial⟩, fun apart => ?_⟩
    rw [sameMemory, isExtended trivial apart, cpu, otherCpu, Staging.committedCpu_psw]
    exact coincide.committed

/-- The registers of a previous user, other than those that its successor starts from. -/
def leftRegisters : Cpu :=
  { overlookedUser.cpu with
    general := overlookedUser.cpu.general.load 3 0x12345678
    floating := Vector.replicate 4 1
    control := overlookedUser.cpu.control.load 4 0x10 }

theorem leftRegisters_alike : overlookedUser.cpu.SelectsAlike leftRegisters :=
  ⟨by decide, by decide, by decide, by decide, by decide⟩

/-- An extended virtual machine gets the same registers, whatever the previous user has left. -/
theorem overlookedUser_dispatches_alike :
    let performed := overlookedUser.perform .splitKeys Memory.callouts (.disp2 0x6000 0x6800)
    let otherPerformed := { overlookedUser with cpu := leftRegisters }.perform .splitKeys
      Memory.callouts (.disp2 0x6000 0x6800)
    otherPerformed.result = .ok .dispatched ∧
      otherPerformed.system.cpu.general = performed.system.cpu.general ∧
      ∀ register ∈ [0, 1, 4, 5, 6, 7, 8, 9, 10, 11, 12, 13],
        otherPerformed.system.cpu.control.read register =
          performed.system.cpu.control.read register := by
  have dispatched : (overlookedUser.perform .splitKeys Memory.callouts
      (.disp2 0x6000 0x6800)).result = .ok .dispatched :=
    Response.result_eq_ok (by decide +kernel)
  obtain ⟨otherDispatched, -, -, views⟩ := dispatches_alike .splitKeys Memory.callouts
    overlookedUser 0x6000 0x6800 leftRegisters_alike dispatched
  obtain ⟨user, ⟨searched, searches, isFirst⟩, coincide⟩ := views Memory.storageView
  obtain rfl := overlookedUser_first searches isFirst
  have coincide := coincide (by decide +kernel)
  have extended : (Memory.storageView.memory (overlookedUser.perform .splitKeys Memory.callouts
      (.disp2 0x6000 0x6800)).system.machine).isExtended 0x7000 = true :=
    dispatchedUser_controls.2.2.2.1
  have loaded : ∀ traced, ∀ register ∈ [0, 1, 4, 5, 6, 7, 8, 9, 10, 11, 12, 13],
      register ∈ loadedControls true traced := by
    decide
  refine ⟨otherDispatched, coincide.general, fun register register_mem =>
    coincide.control.loaded register ?_⟩
  rw [extended]
  exact loaded _ register register_mem

/-- The system with a user whose virtual machine is not extended and in basic-control mode. -/
def basicUser : System Memory :=
  { overlookedUser with
    machine := ((overlookedUser.machine.put 0x7000 Vmblok.processorStatus 0).put
      0x7000 Vmblok.extendedStatus 0).put 0x7000 Vmblok.psw { instructionAddress := 0xa000 } }

/-- A user without an extended virtual machine gets control register 4 from the previous user. -/
theorem basicUser_control4 :
    basicUser.cpu.SelectsAlike leftRegisters ∧
      (basicUser.perform .splitKeys Memory.callouts (.disp2 0x6000 0x6800)).result =
        .ok .dispatched ∧
      (basicUser.perform .splitKeys Memory.callouts
        (.disp2 0x6000 0x6800)).system.cpu.control.read 4 = 0 ∧
      ({ basicUser with cpu := leftRegisters }.perform .splitKeys Memory.callouts
        (.disp2 0x6000 0x6800)).system.cpu.control.read 4 = 0x10 :=
  ⟨leftRegisters_alike, Response.result_eq_ok (by decide +kernel), by decide +kernel,
    by decide +kernel⟩

end System

end Assist370
