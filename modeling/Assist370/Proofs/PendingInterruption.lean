import Assist370.Dispatcher.UserLoad
import Assist370.Proofs.Observation

/-!
# Pending interruptions

Two parts of the dispatcher look for interruptions of a user. The entry finds those that the virtual
PSW lets through, and the dispatch those that it could come to let through, of which it tells the
MICBLOK. The dispatch asks virtual control register 0 which channels are enabled in
extended-control mode, where the entry asks virtual control register 2. That is the one way in which
an interruption is found by the entry, under some system mask, and not by the dispatch
(`Memory.overlooks_iff`).
-/

namespace Assist370

open Dispatcher

namespace Memory

variable (memory : Memory) (user : UInt32)

/-- From one block of a chain of pending external interruptions on, another is reached. -/
inductive Chained (memory : Memory) : UInt32 → UInt32 → Prop where
  | here {block : UInt32} (some : block ≠ 0) : Chained memory block block
  | next {block other : UInt32} (some : block ≠ 0)
      (rest : Chained memory (memory.getAddress block Xintblok.next) other) :
      Chained memory block other

/-- The pending external interruption that a user has enabled, if the end of the chain or such an
interruption is found. -/
def enabledExternal? : Option (Option EnabledInterruption) :=
  (findEnabled (memory.virtualControl0 user) chainLimit
    (user + Vmblok.externalPending.offset)
    (memory.getAddress user Vmblok.externalPending)).look memory

/-- The channels with a pending I/O interruption, a bit each from the left. -/
def waitingChannels : UInt32 :=
  (memory.get user Vmblok.ioPending).toUInt32 <<< 16

/-- The virtual PSW of a user with another system mask. -/
def maskedPsw (mask : UInt8) : Psw :=
  { memory.get user Vmblok.psw with systemMask := mask }

/-- With a system mask in the virtual PSW, the entry of the dispatcher finds an external or I/O
interruption that can be presented to a user. -/
inductive Delivers (mask : UInt8) : Prop where
  | external {interruption : EnabledInterruption}
      (found : (externalInterruption user (memory.maskedPsw user mask)
        (memory.get user Vmblok.processorStatus)).look memory = some (some interruption))
  | io {channels : UInt32}
      (found : (ioInterruptions user (memory.maskedPsw user mask)
        (memory.get user Vmblok.processorStatus)).look memory = some channels)
      (some : channels ≠ 0)

/-- All that is pending for a user in extended-control mode is I/O interruptions of channels that
virtual control register 2 enables, and none of them has a bit in virtual control register 0. -/
structure Overlooks : Prop where
  inExtendedMode : memory.inExtendedMode user = true
  enabled : memory.waitingChannels user &&& memory.virtualControl2 user ≠ 0
  unnoticed : memory.waitingChannels user &&& memory.virtualControl0 user = 0
  noPageFault : memory.get user Vmblok.pending &&& Vmblok.pagePending = 0
  noExternal : memory.enabledExternal? user = some none

/-- Where it lies which interruptions are pending for a user and enabled by its virtual control
registers. -/
def interruptionRegions : List Region :=
  [.ofField user Vmblok.extension, .ofField user Vmblok.ioPending,
    .ofField user Vmblok.externalPending, .ofField user Vmblok.pending] ++
    if memory.isExtended user then [memory.ecblokRegion user] else []

/-- All places are kept that tell which interruptions are pending for a user and enabled. -/
structure InterruptionsKept (kept : Region → Prop) : Prop where
  fields : ∀ region ∈ memory.interruptionRegions user, kept region
  blocks : ∀ block, memory.Chained (memory.getAddress user Vmblok.externalPending) block →
    kept ⟨block, 12⟩

/-- The status of a user as its dispatch finds it. -/
def userStatus : UserStatus where
  dispatch := memory.get user Vmblok.dispatchStatus
  run := memory.get user Vmblok.runStatus
  processor := memory.get user Vmblok.processorStatus
  extended := memory.get user Vmblok.extendedStatus
  operating := memory.get user Vmblok.operatingStatus
  pending := memory.get user Vmblok.pending
  assists := memory.get user Vmblok.assistFlags

end Memory

namespace Dispatcher

/-- Two states of a user differ in nothing that the search for pending interruptions depends on. -/
structure UserStatus.SameModes (status other : UserStatus) : Prop where
  processor : other.processor = status.processor
  inExtendedMode : other.inExtendedMode = status.inExtendedMode
  pending : other.pending = status.pending

theorem findEnabled_zero (control0 : UInt32) (limit : Nat) (link : UInt32) :
    findEnabled control0 limit link 0 = pure none := by
  cases limit <;> rfl

/-- The search for an enabled interruption depends on the blocks of the chain alone. -/
theorem look_findEnabled_congr {memory other : Memory} (control0 : UInt32) (limit : Nat)
    (link block : UInt32)
    (agrees : ∀ reached, memory.Chained block reached → other.AgreesOn memory ⟨reached, 12⟩) :
    (findEnabled control0 limit link block).look other =
      (findEnabled control0 limit link block).look memory := by
  induction limit generalizing link block with
  | zero =>
      simp only [findEnabled]
      split <;> rfl
  | succ limit ih =>
      simp only [findEnabled, beq_iff_eq]
      split
      · rfl
      · rename_i some
        have here := agrees block (.here some)
        have sameSubclasses : other.get block Xintblok.subclasses =
            memory.get block Xintblok.subclasses :=
          (here.mono (Region.ofField_within block (by decide) (by decide))).get_eq
        have sameNext : other.getAddress block Xintblok.next =
            memory.getAddress block Xintblok.next := by
          rw [Memory.getAddress, Memory.getAddress,
            (here.mono (Region.ofField_within block (by decide) (by decide))).get_eq]
        have rest := ih block (memory.getAddress block Xintblok.next) fun reached chained =>
          agrees reached (.next some chained)
        simp only [Microcode.look_bind, Microcode.look_ite, Microcode.look_fetch,
          Microcode.look_fetchAddress, Option.bind_some, sameSubclasses, sameNext, rest,
          Microcode.look_pure]

variable (memory : Memory) (user : UInt32)

theorem look_externalInterruption (psw : Psw) :
    (externalInterruption user psw (memory.get user Vmblok.processorStatus)).look memory =
      if psw.externalEnabled then memory.enabledExternal? user else some none := by
  simp only [externalInterruption, Memory.enabledExternal?, Microcode.look_bind,
    Microcode.look_fetchAddress, Option.bind_some, Microcode.look_ite, look_virtualControl0,
    Microcode.look_pure, Bool.and_eq_true, bne_iff_ne]
  by_cases none : memory.getAddress user Vmblok.externalPending = 0
  · simp [none, findEnabled_zero]
  · simp [none]

theorem look_ioInterruptions (psw : Psw) :
    (ioInterruptions user psw (memory.get user Vmblok.processorStatus)).look memory =
      some (memory.waitingChannels user &&&
        channelsOf psw.systemMask (memory.isExtended user) (memory.inExtendedMode user)
          (memory.virtualControl2 user) &&& 0xffff0000) := by
  simp only [ioInterruptions, Memory.waitingChannels, Microcode.look_bind, Microcode.look_fetch,
    Option.bind_some, Microcode.look_ite, look_enabledChannels, Microcode.look_pure, beq_iff_eq]
  split
  · rename_i none
    simp [none]
  · rfl

/-- The dispatch notices a pending I/O interruption or page fault of a user. -/
def Notices : Prop :=
  (memory.get user Vmblok.ioPending ≠ 0 ∧
      (memory.inExtendedMode user = true →
        memory.waitingChannels user &&& memory.virtualControl0 user ≠ 0)) ∨
    (memory.inExtendedMode user = true ∧
      memory.get user Vmblok.pending &&& Vmblok.pagePending ≠ 0)

instance : Decidable (Notices memory user) :=
  inferInstanceAs (Decidable (_ ∨ _))

/-- The dispatch notices a pending I/O interruption or page fault of a user in some status. -/
def NoticesIn (status : UserStatus) : Prop :=
  (memory.get user Vmblok.ioPending ≠ 0 ∧
      (status.inExtendedMode = true → memory.waitingChannels user &&&
        memory.get (memory.getAddress user Vmblok.extension) Ecblok.control ≠ 0)) ∨
    (status.inExtendedMode = true ∧ status.pending &&& Vmblok.pagePending ≠ 0)

instance (status : UserStatus) : Decidable (NoticesIn memory user status) :=
  inferInstanceAs (Decidable (_ ∨ _))

variable {memory user}

/-- What the dispatch does not notice before, it finds as the entry of the dispatcher does. -/
theorem look_interruptionPending_in {status : UserStatus}
    (processor : status.processor = memory.get user Vmblok.processorStatus) :
    (interruptionPending user (memory.get user Vmblok.extension) status).look memory =
      if NoticesIn memory user status then some true
      else (memory.enabledExternal? user).map Option.isSome := by
  have isExtended : status.isExtended = memory.isExtended user := by
    rw [UserStatus.isExtended, processor]
    rfl
  have external : (if memory.isExtended user = true then
        ((findEnabled (memory.get (Address.wrap (memory.get user Vmblok.extension)) Ecblok.control)
          chainLimit (user + Vmblok.externalPending.offset)
          (memory.getAddress user Vmblok.externalPending)).look memory).bind
            fun found => some found.isSome
      else
        ((findEnabled (memory.get user Vmblok.extension) chainLimit
          (user + Vmblok.externalPending.offset)
          (memory.getAddress user Vmblok.externalPending)).look memory).bind
            fun found => some found.isSome) =
      (memory.enabledExternal? user).map Option.isSome := by
    rw [Option.map_eq_bind, Memory.enabledExternal?, Memory.virtualControl0]
    split <;> rfl
  simp only [interruptionPending, Microcode.look_bind, Microcode.look_fetch,
    Microcode.look_fetchAddress, Microcode.look_ite, Microcode.look_pure, Option.bind_some,
    isExtended, external]
  simp only [NoticesIn, Memory.waitingChannels, Memory.getAddress]
  by_cases none : memory.get user Vmblok.ioPending = 0
  · simp [none]
  · by_cases mode : status.inExtendedMode = true
    · simp [none, mode]
    · simp [none, mode]

theorem look_interruptionPending {status : UserStatus}
    (same : (memory.userStatus user).SameModes status)
    (modes : memory.inExtendedMode user = true → memory.isExtended user = true) :
    (interruptionPending user (memory.get user Vmblok.extension) status).look memory =
      if Notices memory user then some true
      else (memory.enabledExternal? user).map Option.isSome := by
  have inExtendedMode : status.inExtendedMode = memory.inExtendedMode user :=
    same.inExtendedMode
  have pending : status.pending = memory.get user Vmblok.pending := same.pending
  have notices : NoticesIn memory user status ↔ Notices memory user := by
    rw [NoticesIn, Notices, inExtendedMode, pending]
    refine or_congr_left (and_congr_right fun _ => forall_congr' fun mode => ?_)
    rw [Memory.virtualControl0, if_pos (modes mode)]
  rw [look_interruptionPending_in same.processor]
  simp only [notices]

end Dispatcher

namespace Memory

variable {memory : Memory} {user : UInt32}

/-- The waiting channels stand in the left half of their word. -/
theorem waitingChannels_and (bits : UInt32) :
    memory.waitingChannels user &&& bits &&& 0xffff0000 = memory.waitingChannels user &&& bits := by
  have left : memory.waitingChannels user &&& 0xffff0000 = memory.waitingChannels user := by
    apply UInt32.toBitVec_inj.mp
    apply BitVec.eq_of_getLsbD_eq
    intro index index_lt
    have high : ∀ index < 32, 16 ≤ index → (0xffff0000 : BitVec 32).getLsbD index = true := by
      decide
    simp [waitingChannels]
    grind
  rw [UInt32.and_assoc, UInt32.and_comm bits, ← UInt32.and_assoc, left]

theorem channelsOf_extendedMode (mask : UInt8) (extended : Bool) (control2 : UInt32) :
    channelsOf mask extended true control2 = if mask &&& Psw.ioMask ≠ 0 then control2 else 0 := by
  simp [channelsOf, directChannels]

/-- What the entry of the dispatcher finds under some system mask, and the dispatch does not, is
what the dispatch overlooks. -/
theorem overlooks_iff {status : UserStatus} {pending : Bool}
    (same : (memory.userStatus user).SameModes status)
    (modes : memory.inExtendedMode user = true → memory.isExtended user = true)
    (looked : (interruptionPending user (memory.get user Vmblok.extension) status).look memory =
      some pending) :
    ((∃ mask, memory.Delivers user mask) ∧ pending = false) ↔ memory.Overlooks user := by
  rw [look_interruptionPending same modes] at looked
  constructor
  · rintro ⟨⟨mask, delivers⟩, rfl⟩
    have notNoticed : ¬Notices memory user := fun notices => by simp [notices] at looked
    have noExternal : memory.enabledExternal? user = some none := by
      simpa [notNoticed] using looked
    simp only [Notices, not_or, not_and, Classical.not_imp, ne_eq, Classical.not_not]
      at notNoticed
    obtain ⟨noIo, noPage⟩ := notNoticed
    cases delivers with
    | external found =>
        rw [look_externalInterruption, noExternal] at found
        simp at found
    | io found nonzero =>
        rw [look_ioInterruptions, waitingChannels_and] at found
        obtain rfl := Option.some.inj found
        have waits : memory.get user Vmblok.ioPending ≠ 0 := by
          intro none
          simp [waitingChannels, none] at nonzero
        obtain ⟨mode, unnoticed⟩ := noIo waits
        rw [mode, channelsOf_extendedMode] at nonzero
        refine ⟨mode, fun notEnabled => nonzero ?_, unnoticed, noPage mode, noExternal⟩
        split
        · exact notEnabled
        · exact UInt32.and_zero
  · intro overlooks
    have waits : memory.get user Vmblok.ioPending ≠ 0 := by
      intro none
      exact overlooks.enabled (by simp [waitingChannels, none])
    have notNoticed : ¬Notices memory user := by
      rintro (⟨-, enabled⟩ | ⟨-, page⟩)
      · exact enabled overlooks.inExtendedMode overlooks.unnoticed
      · exact page overlooks.noPageFault
    have masked : (memory.maskedPsw user Psw.ioMask).systemMask &&& Psw.ioMask ≠ 0 :=
      show Psw.ioMask &&& Psw.ioMask ≠ 0 by decide
    refine ⟨⟨Psw.ioMask, .io (look_ioInterruptions memory user _) ?_⟩, ?_⟩
    · rw [waitingChannels_and, overlooks.inExtendedMode, channelsOf_extendedMode, if_pos masked]
      exact overlooks.enabled
    · simpa [notNoticed, overlooks.noExternal] using looked.symm

variable {other : Memory} {status : UserStatus}

theorem InterruptionsKept.mono {kept weaker : Region → Prop}
    (isKept : memory.InterruptionsKept user kept)
    (implies : ∀ region, kept region → weaker region) :
    memory.InterruptionsKept user weaker where
  fields region region_mem := implies region (isKept.fields region region_mem)
  blocks block chained := implies _ (isKept.blocks block chained)

theorem InterruptionsKept.get_eq (kept : memory.InterruptionsKept user (other.AgreesOn memory))
    {α : Type} [Stored α] {field : Field α}
    (field_mem : .ofField user field ∈ memory.interruptionRegions user) :
    other.get user field = memory.get user field :=
  (kept.fields _ field_mem).get_eq

theorem InterruptionsKept.virtualControl0
    (kept : memory.InterruptionsKept user (other.AgreesOn memory))
    (isExtended : other.isExtended user = memory.isExtended user) :
    other.virtualControl0 user = memory.virtualControl0 user := by
  have extension : other.get user Vmblok.extension = memory.get user Vmblok.extension :=
    kept.get_eq (by simp [interruptionRegions])
  rw [Memory.virtualControl0, Memory.virtualControl0, isExtended, getAddress, getAddress,
    extension]
  split
  · rename_i extended
    have block : other.AgreesOn memory (memory.ecblokRegion user) :=
      kept.fields _ (by simp [interruptionRegions, extended])
    exact (block.mono (Region.ofField_within _ (by decide) (by decide))).get_eq
  · rfl

/-- Where the places are kept that tell of it, the same external interruption is enabled. -/
theorem InterruptionsKept.enabledExternal?
    (kept : memory.InterruptionsKept user (other.AgreesOn memory))
    (isExtended : other.isExtended user = memory.isExtended user) :
    other.enabledExternal? user = memory.enabledExternal? user := by
  have externalPending : other.get user Vmblok.externalPending =
      memory.get user Vmblok.externalPending := kept.get_eq (by simp [interruptionRegions])
  rw [Memory.enabledExternal?, Memory.enabledExternal?, kept.virtualControl0 isExtended,
    getAddress, externalPending]
  exact look_findEnabled_congr _ _ _ _ kept.blocks

/-- Where the places are kept that tell of them, the dispatch finds the same interruptions. -/
theorem InterruptionsKept.look_interruptionPending
    (kept : memory.InterruptionsKept user (other.AgreesOn memory))
    (same : (memory.userStatus user).SameModes status)
    (sameOther : (other.userStatus user).SameModes status)
    (modes : memory.inExtendedMode user = true → memory.isExtended user = true) :
    (interruptionPending user (other.get user Vmblok.extension) status).look other =
      (interruptionPending user (memory.get user Vmblok.extension) status).look memory := by
  have isExtended : other.isExtended user = memory.isExtended user :=
    congrArg (· &&& Vmblok.extendedMachine != 0) (sameOther.processor.symm.trans same.processor)
  have inExtendedMode : other.inExtendedMode user = memory.inExtendedMode user :=
    sameOther.inExtendedMode.symm.trans same.inExtendedMode
  have otherModes : other.inExtendedMode user = true → other.isExtended user = true := by
    rw [inExtendedMode, isExtended]
    exact modes
  have ioPending : other.get user Vmblok.ioPending = memory.get user Vmblok.ioPending :=
    kept.get_eq (by simp [interruptionRegions])
  have pending : other.get user Vmblok.pending = memory.get user Vmblok.pending :=
    kept.get_eq (by simp [interruptionRegions])
  have notices : Notices other user ↔ Notices memory user := by
    simp only [Notices, waitingChannels, inExtendedMode, ioPending, pending,
      kept.virtualControl0 isExtended]
  rw [Dispatcher.look_interruptionPending sameOther otherModes,
    Dispatcher.look_interruptionPending same modes]
  simp only [notices, kept.enabledExternal? isExtended]

end Memory

end Assist370
