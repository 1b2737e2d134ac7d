import Assist370.Proofs.GuestAssist
import Assist370.Proofs.OperandBytes
import Assist370.Proofs.ProgramFootprint

/-!
# Key blocks of either size

A machine configuration has a storage key for each page or one for each half of a page. Where both
halves of every page have the same key, programs for the one configuration end as those for the
other do (`Request.program_agrees`): an operand comes to its bytes however it is cut, and a shared
page has been changed if either half has. So an instruction comes to the same in both configurations
(`System.policies_agree`).
-/

namespace Assist370

namespace Microcode

variable {α β : Type} {answers : Answers} {policy other : Policy}

/-- Two programs end alike from every scene, and take no account of recorded accesses. -/
structure Agrees (answers : Answers) (program otherProgram : Microcode α) : Prop where
  same : ∀ scene, program.eval answers scene = otherProgram.eval answers scene
  ignores : program.IgnoresReference
  otherIgnores : otherProgram.IgnoresReference

theorem Agrees.refl {program : Microcode α} (keyless : program.Takes Action.IsKeyless) :
    program.Agrees answers program :=
  ⟨fun _ => rfl, keyless.ignoresReference, keyless.ignoresReference⟩

theorem Agrees.bind {program otherProgram : Microcode β} {next otherNext : β → Microcode α}
    (first : program.Agrees answers otherProgram)
    (rest : ∀ value, (next value).Agrees answers (otherNext value)) :
    (program >>= next).Agrees answers (otherProgram >>= otherNext) := by
  refine ⟨fun scene => ?_, first.ignores.bind fun value => (rest value).ignores,
    first.otherIgnores.bind fun value => (rest value).otherIgnores⟩
  rw [eval_bind, eval_bind, first.same]
  rcases otherProgram.eval answers scene with ⟨reason | value, after⟩
  · rfl
  · exact (rest value).same after

/-- Programs that begin alike, without a look at a storage key, agree if they go on so. -/
theorem Agrees.rest {program : Microcode β} {next otherNext : β → Microcode α}
    (keyless : program.Takes Action.IsKeyless)
    (rest : ∀ value, (next value).Agrees answers (otherNext value)) :
    (program >>= next).Agrees answers (program >>= otherNext) :=
  (Agrees.refl keyless).bind rest

theorem Agrees.ite (condition : Prop) [Decidable condition]
    {yes no otherYes otherNo : Microcode α} (holds : yes.Agrees answers otherYes)
    (fails : no.Agrees answers otherNo) :
    (if condition then yes else no).Agrees answers (if condition then otherYes else otherNo) := by
  split
  · exact holds
  · exact fails

section Operands

variable {admits : StorageKey → Bool}

theorem resolve_ignoresReference
    (ofAlike : ∀ key other : StorageKey, key.Alike other → admits key = admits other)
    (pieces : List Piece) : (resolve admits pieces).IgnoresReference := by
  induction pieces with
  | nil => trivial
  | cons piece pieces ih =>
      have realAddress_keyless : (realAddress piece.address).Takes Action.IsKeyless :=
        takes_realAddress trivial (fun _ => trivial) _
      refine realAddress_keyless.ignoresReference.bind fun real => ?_
      apply ignoresReference_storageKey
      · intro key other alike
        rw [ofAlike key other alike]
      · intro key
        have require_keyless : (require (admits key) .protectionException).Takes
            Action.IsKeyless := by simp
        exact require_keyless.ignoresReference.bind fun _ => ih.bind fun _ => trivial

variable (policy) in
theorem fetchLogicalBytes_ignoresReference (address : UInt32) (length : Nat)
    (protection : BitVec 4) :
    (fetchLogicalBytes policy address length protection).IgnoresReference := by
  apply (resolve_ignoresReference (fun _ _ alike => alike.admitsFetch protection) _).bind
  intro pieces
  exact (takes_fetchPieces (fun _ _ => trivial) pieces).ignoresReference

variable (policy) in
theorem storeLogicalBytes_ignoresReference (address : UInt32) (bytes : List UInt8)
    (protection : BitVec 4) :
    (storeLogicalBytes policy address bytes protection).IgnoresReference := by
  apply (resolve_ignoresReference (fun _ _ alike => alike.admitsStore protection) _).bind
  intro pieces
  exact (takes_storePieces Action.isKeyless_allowsStores pieces bytes).ignoresReference

variable (uniform : answers.Uniform)

include uniform

theorem fetchLogical_agrees [Stored α] (address : UInt32) (protection : BitVec 4) :
    (fetchLogical policy address protection : Microcode α).Agrees answers
      (fetchLogical other address protection) := by
  have bytes : (fetchLogicalBytes policy address (Stored.size α) protection).Agrees answers
      (fetchLogicalBytes other address (Stored.size α) protection) := by
    refine ⟨fun scene => ?_, fetchLogicalBytes_ignoresReference policy _ _ _,
      fetchLogicalBytes_ignoresReference other _ _ _⟩
    rw [fetchLogicalBytes_eval (uniform.on policy), fetchLogicalBytes_eval (uniform.on other)]
  exact bytes.bind fun _ => .refl (takes_pure _)

theorem storeLogical_agrees [Stored α] (address : UInt32) (value : α) (protection : BitVec 4) :
    (storeLogical policy address value protection).Agrees answers
      (storeLogical other address value protection) := by
  refine ⟨fun scene => ?_, storeLogicalBytes_ignoresReference policy _ _ _,
    storeLogicalBytes_ignoresReference other _ _ _⟩
  rw [storeLogical, storeLogical, storeLogicalBytes_eval (uniform.on policy),
    storeLogicalBytes_eval (uniform.on other)]

end Operands

end Microcode

open Microcode

section Programs

variable {answers : Answers} {policy other : Policy} (uniform : answers.Uniform)

@[simp]
theorem Action.isKeyless_allowsRoutine : AllowsRoutine IsKeyless :=
  ⟨fun _ _ => trivial, fun _ => trivial, fun _ _ => trivial⟩

namespace GuestContext

@[simp]
theorem validate_isKeyless (old new : Psw) (pending : UInt8) :
    (validate old new pending).Takes Action.IsKeyless :=
  takes_validate (fun _ => trivial) old new pending

theorem replaceControls_isKeyless (extended : Bool) (range : List RegisterNumber)
    (new : RegisterFile) (context : GuestContext) (shadowAddress : UInt32) :
    (context.replaceControls extended range new shadowAddress).Takes Action.IsKeyless := by
  simp only [replaceControls, takes_bind]
  refine ⟨takes_fetchShadow (fun _ _ => trivial) _ _, fun shadow _ => ⟨by simp, fun cpu _ => ?_⟩⟩
  split <;> simp

include uniform

theorem setSystemMask_agrees (address : UInt32) (context : GuestContext) :
    (context.setSystemMask policy address).Agrees answers
      (context.setSystemMask other address) := by
  refine .rest (by simp) fun _ => .rest (by simp) fun control0 => ?_
  refine .rest (by simp) fun _ => .rest (by simp) fun real => ?_
  refine (fetchLogical_agrees uniform _ _).bind fun mask => .refl ?_
  simp

theorem supervisorCall_agrees (code : UInt8) (context : GuestContext) :
    (context.supervisorCall policy code).Agrees answers (context.supervisorCall other code) := by
  refine .rest (by simp) fun _ => .rest (by simp) fun _ => ?_
  refine (fetchLogical_agrees uniform _ _).bind fun new => .rest (by simp) fun real => ?_
  refine .rest (by simp) fun _ => (storeLogical_agrees uniform _ _ _).bind fun _ => ?_
  -- The code of the call is stored in extended-control mode alone.
  refine .ite _ ((storeLogical_agrees uniform _ _ _).bind fun _ => .refl ?_) (.refl ?_)
  · simp
  · simp

theorem loadPsw_agrees (address : UInt32) (context : GuestContext) :
    (context.loadPsw policy address).Agrees answers (context.loadPsw other address) := by
  refine .rest (by simp) fun _ => .rest (by simp) fun _ => .rest (by simp) fun _ => ?_
  refine .rest (by simp) fun real => (fetchLogical_agrees uniform _ _).bind fun new => .refl ?_
  simp

theorem fetchOperands_agrees (address : UInt32) (range : List RegisterNumber)
    (operands : RegisterFile) :
    (fetchOperands policy address range operands).Agrees answers
      (fetchOperands other address range operands) := by
  induction range generalizing address operands with
  | nil => exact .refl (takes_pure _)
  | cons register rest ih =>
      refine .rest (by simp) fun real => (fetchLogical_agrees uniform _ _).bind fun operand => ?_
      exact ih _ _

theorem loadControl_agrees (first last : RegisterNumber) (address : UInt32)
    (context : GuestContext) :
    (context.loadControl policy first last address).Agrees answers
      (context.loadControl other first last address) := by
  rw [loadControl_eq, loadControl_eq]
  refine .rest (by simp) fun _ => .rest (by simp) fun extended => .rest (by simp) fun _ => ?_
  refine (fetchOperands_agrees uniform _ _ _).bind fun new => .refl ?_
  simp [replaceControls_isKeyless]

end GuestContext

namespace PageLock

theorem requireUnchanged_eval (blocks : List UInt32) (scene : Scene) :
    (requireUnchanged blocks).eval answers scene =
      (if blocks.any fun block => (answers.key (Address.wrap block)).change then
        .error .sharedPageChanged
      else
        .ok (), scene) := by
  induction blocks with
  | nil => rfl
  | cons block blocks ih =>
      rw [requireUnchanged, eval_bind, eval_storageKey]
      dsimp only
      rw [eval_bind, eval_require, List.any_cons]
      cases (answers.key (Address.wrap block)).change
      · exact ih
      · rfl

theorem requireUnchanged_ignoresReference (blocks : List UInt32) :
    (requireUnchanged blocks).IgnoresReference := by
  induction blocks with
  | nil => trivial
  | cons block blocks ih =>
      apply ignoresReference_storageKey
      · intro key other alike
        rw [alike.change]
      · intro key
        have require_keyless : (require (!key.change) .sharedPageChanged).Takes
            Action.IsKeyless := by simp
        exact require_keyless.ignoresReference.bind fun _ => ih

theorem entryThrough_isKeyless (pointer address : UInt32) :
    (entryThrough pointer address).Takes Action.IsKeyless := by
  simp [entryThrough]

include uniform

/-- A page has been changed if its first half has. -/
theorem any_keyBlocks (policy : Policy) (real : UInt32) :
    (keyBlocks policy (Address.frame real)).any (fun block =>
        (answers.key (Address.wrap block)).change) =
      (answers.key (Address.frame real)).change := by
  have inFrame : ∀ distance : UInt32, distance.toNat < 0x1000 →
      (answers.key (Address.wrap (Address.frame real + distance))).change =
        (answers.key (Address.frame real)).change := by
    intro distance distance_lt
    refine (uniform.key _ _ ?_).change
    rw [Address.toNat_wrap, UInt32.toNat_add, Address.toNat_frame, Address.space]
    omega
  cases policy with
  | splitKeys =>
      have blocks : keyBlocks .splitKeys (Address.frame real) =
          [Address.frame real + 0, Address.frame real + 0x800] := rfl
      simp only [blocks, List.any_cons, List.any_nil, inFrame 0 (by decide),
        inFrame 0x800 (by decide), Bool.or_false, Bool.or_self]
  | pageKeys =>
      have blocks : keyBlocks .pageKeys (Address.frame real) = [Address.frame real + 0] := rfl
      simp only [blocks, List.any_cons, List.any_nil, inFrame 0 (by decide), Bool.or_false]

theorem requireUnchanged_agrees (real : UInt32) :
    (requireUnchanged (keyBlocks policy (Address.frame real))).Agrees answers
      (requireUnchanged (keyBlocks other (Address.frame real))) := by
  refine ⟨fun scene => ?_, requireUnchanged_ignoresReference _,
    requireUnchanged_ignoresReference _⟩
  rw [requireUnchanged_eval, requireUnchanged_eval, any_keyBlocks uniform, any_keyBlocks uniform]

theorem translateUnchanged_agrees (pointer : UInt32) :
    (translateUnchanged policy pointer).Agrees answers (translateUnchanged other pointer) := by
  refine .rest (by simp) fun address => .rest (by simp [loadRealAddress, perform]) fun answer => ?_
  cases answer with
  | error fault => exact .refl (takes_decline _)
  | ok real =>
      refine .rest (entryThrough_isKeyless _ _) fun entry => .rest (by simp) fun shared => ?_
      refine .ite _ ?_ (.refl (by simp))
      exact (requireUnchanged_agrees uniform real).bind fun _ => .refl (takes_pure _)

theorem translate_agrees (pointer target : UInt32) :
    (translate policy pointer target).Agrees answers (translate other pointer target) := by
  refine (translateUnchanged_agrees uniform pointer).bind fun real => .refl ?_
  simp [returnTranslated, setGeneral, setConditionCode, branch]

theorem translateAndLock_agrees (pointer target : UInt32) :
    (translateAndLock policy pointer target).Agrees answers
      (translateAndLock other pointer target) := by
  refine (translateUnchanged_agrees uniform pointer).bind fun real => .refl ?_
  simp [lockFrame, entryThrough, returnTranslated, setGeneral, setConditionCode, branch]

end PageLock

/-- Programs behind the same gate agree, for every virtual machine that is looked up. -/
inductive AssistProgram.Agrees (answers : Answers) : AssistProgram → AssistProgram → Prop where
  | controlProgram {body other : Microcode Completion} (agrees : body.Agrees answers other) :
      Agrees answers (.controlProgram body) (.controlProgram other)
  | virtualMachine {body other : GuestContext → Microcode Completion}
      (agrees : ∀ context, (body context).Agrees answers (other context)) :
      Agrees answers (.virtualMachine body) (.virtualMachine other)

/-- The program of an instruction is that of the other configuration, or agrees with it. -/
theorem Request.program_agrees (uniform : answers.Uniform) (policy other : Policy) (level : UInt32)
    (request : Request) :
    request.program policy level = request.program other level ∨
      (request.program policy level).Agrees answers (request.program other level) := by
  cases request with
  | ssm address =>
      exact .inr (.virtualMachine fun _ => GuestContext.setSystemMask_agrees uniform _ _)
  | svc code => exact .inr (.virtualMachine fun _ => GuestContext.supervisorCall_agrees uniform _ _)
  | lpsw address => exact .inr (.virtualMachine fun _ => GuestContext.loadPsw_agrees uniform _ _)
  | lctl first last address =>
      exact .inr (.virtualMachine fun _ => GuestContext.loadControl_agrees uniform _ _ _ _)
  | trbrg pointer target =>
      exact .inr (.controlProgram (PageLock.translate_agrees uniform _ _))
  | trlok pointer target =>
      exact .inr (.controlProgram (PageLock.translateAndLock_agrees uniform _ _))
  | _ => exact .inl rfl

end Programs

section Machines

variable {Machine Refusal : Type} {callouts : Callouts Machine Refusal}

/-- The storage of a machine with its keys and its address translation. A look at the machine may
record that a block has been accessed. -/
structure KeyedView (callouts : Callouts Machine Refusal) extends StorageView callouts where
  /-- The storage key of a half of a page, by the number of the half. -/
  key : Machine → Nat → StorageKey
  /-- The translation of an address under control registers 0 and 1. -/
  translation : Machine → UInt32 → UInt32 → UInt32 → Except TranslationFault UInt32
  looks_key : ∀ (callout : Callout) (machine : Machine), callout.Looks →
    ∀ half, (key (callout.after callouts machine) half).Alike (key machine half)
  looks_translation : ∀ (callout : Callout) (machine : Machine), callout.Looks →
    translation (callout.after callouts machine) = translation machine
  storageKey : ∀ (address : UInt32) (machine : Machine) (found : StorageKey),
    address.toNat < Address.space → (callouts.storageKey address machine).1 = .ok found →
    found = key machine (address.toNat / 0x800)
  translate : ∀ (control0 control1 address : UInt32) (machine : Machine)
    (found : Except TranslationFault UInt32), address.toNat < Address.space →
    (callouts.translate control0 control1 address machine).1 = .ok found →
    found = translation machine control0 control1 address

namespace KeyedView

variable (view : KeyedView callouts)

/-- Both halves of every frame have the same key, and translation keeps the place in the page and
depends on the page alone. -/
structure Uniform (machine : Machine) : Prop where
  halves : ∀ frame < 0x1000,
    (view.key machine (2 * frame)).Alike (view.key machine (2 * frame + 1))
  offset : ∀ control0 control1 (address real : UInt32), address.toNat < Address.space →
    view.translation machine control0 control1 address = .ok real →
    real.toNat % 0x1000 = address.toNat % 0x1000
  page : ∀ control0 control1 (address other : UInt32), address.toNat < Address.space →
    other.toNat < Address.space → address.toNat / 0x1000 = other.toNat / 0x1000 →
    (view.translation machine control0 control1 address).map Address.frame =
      (view.translation machine control0 control1 other).map Address.frame

/-- The halves of pages that lie in one key block have the same key. -/
def KeysByBlock (policy : Policy) (machine : Machine) : Prop :=
  ∀ half < 0x2000, ∀ other < 0x2000,
    half * 0x800 / policy.keyBlock = other * 0x800 / policy.keyBlock →
    (view.key machine half).Alike (view.key machine other)

/-- Where each half of a page has a key of its own, nothing is asked of the keys. -/
theorem keysByBlock_splitKeys (machine : Machine) : view.KeysByBlock .splitKeys machine := by
  intro half _ other _ sameBlock
  have sameHalf : half = other := by
    simp only [Policy.keyBlock] at sameBlock
    omega
  rw [sameHalf]
  exact .refl _

/-- Translation keeps the place in the page and depends on the page alone. -/
structure TranslatesByPage (machine : Machine) : Prop where
  offset : ∀ control0 control1 (address real : UInt32), address.toNat < Address.space →
    view.translation machine control0 control1 address = .ok real →
    real.toNat % 0x1000 = address.toNat % 0x1000
  page : ∀ control0 control1 (address other : UInt32), address.toNat < Address.space →
    other.toNat < Address.space → address.toNat / 0x1000 = other.toNat / 0x1000 →
    (view.translation machine control0 control1 address).map Address.frame =
      (view.translation machine control0 control1 other).map Address.frame

/-- What the machine answers, by the addresses that there are. -/
def answers (machine : Machine) : Answers where
  key address := view.key machine ((Address.wrap address).toNat / 0x800)
  translation control0 control1 address :=
    view.translation machine control0 control1 (Address.wrap address)

theorem key_of_looks {before after : Machine} (looked : callouts.Reaches Callout.Looks before after)
    (half : Nat) : (view.key after half).Alike (view.key before half) := by
  induction looked with
  | refl => exact .refl _
  | step _ callout isMade ih => exact (view.looks_key callout _ isMade half).trans ih

theorem tells (start : Machine) :
    callouts.Tells (view.answers start) (fun _ => True) view.memory start where
  keeps _ looked := view.memory_of_looks looked
  fetches journal address length machine := view.fetch_ok journal address length machine
  storageKey machine looked address _ key answered := by
    rw [view.storageKey _ machine key (Address.wrap_lt address) answered]
    simp only [answers, Address.wrap_wrap]
    exact view.key_of_looks looked _
  translate machine looked address _ control0 control1 found answered := by
    have kept := looked.view_eq view.translation view.looks_translation
    rw [view.translate _ _ _ machine found (Address.wrap_lt address) answered, kept]
    simp only [answers, Address.wrap_wrap]

variable {view} {machine : Machine}

theorem Uniform.key_alike (uniform : view.Uniform machine) {half : Nat} (half_lt : half < 0x2000) :
    (view.key machine half).Alike (view.key machine (2 * (half / 2))) := by
  rcases Nat.mod_two_eq_zero_or_one half with first | second
  · rw [show 2 * (half / 2) = half by omega]
    exact .refl _
  · have halves := uniform.halves (half / 2) (by omega)
    rw [show 2 * (half / 2) + 1 = half by omega] at halves
    exact halves.symm

theorem Uniform.keysByBlock (uniform : view.Uniform machine) (policy : Policy) :
    view.KeysByBlock policy machine := by
  intro half half_lt other other_lt sameBlock
  have sameFirst : 2 * (half / 2) = 2 * (other / 2) := by
    cases policy <;> simp only [Policy.keyBlock] at sameBlock <;> omega
  have alike := uniform.key_alike half_lt
  rw [sameFirst] at alike
  exact alike.trans (uniform.key_alike other_lt).symm

theorem Uniform.byPage (uniform : view.Uniform machine) : view.TranslatesByPage machine :=
  ⟨uniform.offset, uniform.page⟩

theorem answers_uniformOn {policy : Policy} (byBlock : view.KeysByBlock policy machine)
    (byPage : view.TranslatesByPage machine) : (view.answers machine).UniformOn policy := by
  have wrap_lt : ∀ address : UInt32, (Address.wrap address).toNat < 0x1000000 :=
    Address.wrap_lt
  have sameUnit : ∀ (unit : Nat) (address other : UInt32), unit = 0x800 ∨ unit = 0x1000 →
      address.toNat / unit = other.toNat / unit →
      (Address.wrap address).toNat / unit = (Address.wrap other).toNat / unit := by
    intro unit address other size same
    rw [Address.toNat_wrap, Address.toNat_wrap, Address.space]
    rcases size with rfl | rfl <;> omega
  constructor
  · intro address other same
    have size : policy.keyBlock = 0x800 ∨ policy.keyBlock = 0x1000 := by
      cases policy <;> simp [Policy.keyBlock]
    have wrapped := sameUnit _ _ _ size same
    have address_lt := wrap_lt address
    have other_lt := wrap_lt other
    apply byBlock
    · omega
    · omega
    · rcases size with size | size <;> rw [size] at wrapped ⊢ <;> omega
  · intro control0 control1 address real found
    rw [byPage.offset _ _ _ _ (Address.wrap_lt address) found, Address.toNat_wrap, Address.space]
    omega
  · intro control0 control1 address other same
    exact byPage.page _ _ _ _ (Address.wrap_lt address) (Address.wrap_lt other)
      (sameUnit _ _ _ (.inr rfl) same)

theorem Uniform.answers (uniform : view.Uniform machine) : (view.answers machine).Uniform :=
  (answers_uniformOn (uniform.keysByBlock .pageKeys) uniform.byPage).uniform

end KeyedView

theorem Response.SameAs.refl (response : Response Machine Refusal) (view : StorageView callouts) :
    response.SameAs response view :=
  ⟨rfl, rfl, rfl⟩

namespace System

variable {view : KeyedView callouts} {system : System Machine}

theorem settle_sameAs {body otherBody : Microcode Completion}
    (agrees : body.Agrees (view.answers system.machine) otherBody) (assist : Assist)
    {staging : Staging Machine}
    (reached : callouts.Reaches Callout.Looks system.machine staging.machine)
    (inSpace : staging.journal.InSpace)
    (answered : (system.settle callouts assist (body.run callouts staging)).Answered)
    (otherAnswered : (system.settle callouts assist (otherBody.run callouts staging)).Answered) :
    (system.settle callouts assist (body.run callouts staging)).SameAs
      (system.settle callouts assist (otherBody.run callouts staging)) view.toStorageView := by
  have tells := view.tells system.machine
  have comesTo := settle_comesTo view.toStorageView tells assist
    (takes_of_forall body fun _ => trivial) agrees.ignores reached inSpace answered
  have otherComesTo := settle_comesTo view.toStorageView tells assist
    (takes_of_forall otherBody fun _ => trivial) agrees.otherIgnores reached inSpace otherAnswered
  rw [agrees.same] at comesTo
  exact comesTo.sameAs otherComesTo

theorem performControlProgram_sameAs {body otherBody : Microcode Completion}
    (agrees : body.Agrees (view.answers system.machine) otherBody) (assist : Assist)
    (answered : (system.performControlProgram callouts assist body).Answered)
    (otherAnswered : (system.performControlProgram callouts assist otherBody).Answered) :
    (system.performControlProgram callouts assist body).SameAs
      (system.performControlProgram callouts assist otherBody) view.toStorageView := by
  simp only [performControlProgram] at answered otherAnswered ⊢
  generalize system.registry.cpGate assist system.cpu = gate at answered otherAnswered ⊢
  rcases gate with _ | reason | _
  · exact @settle_sameAs _ _ callouts view
      { system with registry := system.registry.recordCall assist } body otherBody agrees assist
      { machine := system.machine, cpu := system.cpu } .refl Journal.inSpace_empty answered
      otherAnswered
  · exact .refl _ _
  · exact .refl _ _

theorem performForGuest_sameAs {body otherBody : GuestContext → Microcode Completion}
    (agrees : ∀ context, (body context).Agrees (view.answers system.machine) (otherBody context))
    (assist : Assist) (answered : (system.performForGuest callouts assist body).Answered)
    (otherAnswered : (system.performForGuest callouts assist otherBody).Answered) :
    (system.performForGuest callouts assist body).SameAs
      (system.performForGuest callouts assist otherBody) view.toStorageView := by
  -- The virtual machine is looked up by one program, whatever the configuration.
  have looked := GuestContext.lookUp.run_looks callouts
    { machine := system.machine, cpu := system.cpu }
  have inSpace := GuestContext.lookUp.run_inSpace callouts
    (show Staging.journal { machine := system.machine, cpu := system.cpu } |>.InSpace from
      Journal.inSpace_empty)
  simp only [performForGuest] at answered otherAnswered ⊢
  generalize GuestContext.lookUp.run callouts { machine := system.machine, cpu := system.cpu } = ran
    at answered otherAnswered looked inSpace ⊢
  rcases ran with ⟨context | reason | error, staging⟩
  · exact @settle_sameAs _ _ callouts view
      { system with
        cpu := { system.cpu with virtualTimerAddress := staging.cpu.virtualTimerAddress } }
      (body context) (otherBody context) (agrees context) assist staging looked inSpace answered
      otherAnswered
  · exact .refl _ _
  · exact .refl _ _

theorem performVirtualMachine_sameAs {body otherBody : GuestContext → Microcode Completion}
    (agrees : ∀ context, (body context).Agrees (view.answers system.machine) (otherBody context))
    (assist : Assist) (answered : (system.performVirtualMachine callouts assist body).Answered)
    (otherAnswered : (system.performVirtualMachine callouts assist otherBody).Answered) :
    (system.performVirtualMachine callouts assist body).SameAs
      (system.performVirtualMachine callouts assist otherBody) view.toStorageView := by
  simp only [performVirtualMachine] at answered otherAnswered ⊢
  generalize system.registry.guestRefusal? assist system.cpu = refusal
    at answered otherAnswered ⊢
  rcases refusal with _ | reason
  · generalize AssistControl.guestRefusal? _ = refusal at answered otherAnswered ⊢
    rcases refusal with _ | reason
    · exact @performForGuest_sameAs _ _ callouts view
        { system with
          registry := system.registry.recordCall assist
          cpu := { system.cpu with virtualTimerAddress := none } }
        body otherBody agrees assist answered otherAnswered
    · exact .refl _ _
  · exact .refl _ _

/-- On a machine with uniform keys an instruction that no callout is refused to comes to the same,
whether a key covers a page or half of one. -/
theorem policies_agree (view : KeyedView callouts) (system : System Machine) (request : Request)
    (uniform : view.Uniform system.machine)
    (answered : ∀ policy, (system.perform policy callouts request).Answered) :
    (system.perform .splitKeys callouts request).SameAs
      (system.perform .pageKeys callouts request) view.toStorageView := by
  have answeredSplit := answered .splitKeys
  have answeredPage := answered .pageKeys
  have agrees := request.program_agrees uniform.answers .splitKeys .pageKeys system.registry.level
  simp only [perform] at answeredSplit answeredPage ⊢
  generalize request.program .splitKeys system.registry.level = program at *
  generalize request.program .pageKeys system.registry.level = otherProgram at *
  rcases agrees with rfl | agrees
  · exact .refl _ _
  · cases agrees with
    | controlProgram agrees =>
        exact performControlProgram_sameAs agrees _ answeredSplit answeredPage
    | virtualMachine agrees =>
        exact performVirtualMachine_sameAs agrees _ answeredSplit answeredPage

end System

end Machines

/-- Storage with a key for each half of a page, and the frames of those pages that have one. -/
structure PagedStorage where
  memory : Memory
  keys : Nat → StorageKey
  frames : Nat → Option Nat

namespace PagedStorage

/-- Records an access in the keys of all blocks that it touches. -/
def record (storage : PagedStorage) (field : BitField) (address : UInt32) (length : Nat) :
    PagedStorage :=
  { storage with
    keys := fun half =>
      if address.toNat < 0x800 * (half + 1) ∧ 0x800 * half < address.toNat + length then
        ⟨field.set (storage.keys half).bits (.allOnes _)⟩
      else
        storage.keys half }

/-- The translation of an address by the frame of its page. -/
def translate (storage : PagedStorage) (address : UInt32) : Except TranslationFault UInt32 :=
  match storage.frames (address.toNat / 0x1000) with
  | some frame => .ok (UInt32.ofNat (0x1000 * frame + address.toNat % 0x1000))
  | none => .error .page

/-- The callouts of a machine of paged storage. -/
def callouts : Callouts PagedStorage Empty where
  readReal address length storage :=
    (.ok (storage.memory.bytes address length),
      storage.record StorageKey.referenceField address length)
  writeReal address bytes storage :=
    (.ok (), ({ storage with memory := storage.memory.store address bytes }.record
      StorageKey.referenceField address bytes.length).record
      StorageKey.changeField address bytes.length)
  storageKey address storage := (.ok (storage.keys (address.toNat / 0x800)), storage)
  translate _ _ address storage := (.ok (storage.translate address), storage)
  purgeTlb storage := storage

theorem alike_record (storage : PagedStorage) (address : UInt32) (length half : Nat) :
    ((storage.record StorageKey.referenceField address length).keys half).Alike
      (storage.keys half) := by
  simp only [record]
  split
  · generalize storage.keys half = key
    obtain ⟨bits⟩ := key
    constructor <;> revert bits <;> decide +kernel
  · exact .refl _

/-- What a machine of paged storage shows. -/
def keyedView : KeyedView callouts where
  memory := memory
  looks_keep callout storage looks := by
    cases callout with
    | readReal _ _ | storageKey _ | translate _ _ _ => rfl
    | writeReal _ _ | purgeTlb => exact looks.elim
  purge_keep _ := rfl
  readReal _ _ _ _ _ answered := (Except.ok.inj answered).symm
  writeReal _ _ _ _ _ := rfl
  writeReal_refused _ _ _ refusal _ _ _ := refusal.elim
  key := keys
  translation storage _ _ := storage.translate
  looks_key callout storage looks half := by
    cases callout with
    | readReal address length => exact storage.alike_record address length half
    | storageKey _ | translate _ _ _ => exact .refl _
    | writeReal _ _ | purgeTlb => exact looks.elim
  looks_translation callout storage looks := by
    cases callout with
    | readReal _ _ | storageKey _ | translate _ _ _ => rfl
    | writeReal _ _ | purgeTlb => exact looks.elim
  storageKey _ _ _ _ answered := (Except.ok.inj answered).symm
  translate _ _ _ _ _ _ answered := (Except.ok.inj answered).symm

theorem translatesByPage (storage : PagedStorage) : keyedView.TranslatesByPage storage := by
  constructor
  · intro _ _ address real _ found
    simp only [keyedView, translate] at found
    split at found
    · rw [← Except.ok.inj found, UInt32.toNat_ofNat']
      omega
    · cases found
  · intro _ _ address other _ _ same
    simp only [keyedView, translate, same]
    split
    · refine congrArg Except.ok (UInt32.toNat_inj.mp ?_)
      rw [Address.toNat_frame, Address.toNat_frame, UInt32.toNat_ofNat', UInt32.toNat_ofNat']
      omega
    · rfl

/-- Pages are translated as a whole, so that the keys alone have to be uniform. -/
theorem uniform_of_halves (storage : PagedStorage)
    (halves : ∀ frame < 0x1000,
      (storage.keys (2 * frame)).Alike (storage.keys (2 * frame + 1))) :
    keyedView.Uniform storage :=
  ⟨halves, storage.translatesByPage.offset, storage.translatesByPage.page⟩

end PagedStorage

namespace System

/-- A system whose virtual machine, with protection key 3, has its page at address 4000 in the frame
at address 14000, which is protected by that key. A new PSW lies across the middle of the page. -/
def pagedGuest : System PagedStorage where
  registry := Registry.initial true false
  cpu :=
    { Cpu.initial with
      control := RegisterFile.zero.load 6 0x80001000
      psw :=
        { systemMask := Psw.translationMask
          states := { problemState := true, extendedControl := true, key := 3 }
          instructionAddress := 0x7002 } }
  machine :=
    { memory :=
        (((Memory.zero.store 0x1004 [0, 0, 0x30, 0]).store
          0x1008 [0, 0, 0x20, 0xa8]).store
          0x1014 [0x80, 0, 0, 0]).store
          0x20a8 [1, 8, 0, 0, 0, 0, 4, 0] |>.store
          0x147fc [1, 0x38, 0, 0, 0, 0, 0x50, 0]
      keys := fun half => if half / 2 = 0x14 then ⟨0x38⟩ else ⟨0⟩
      frames := fun page => if page = 4 then some 0x14 else none }

theorem pagedGuest_policies_agree :
    (pagedGuest.perform .splitKeys PagedStorage.callouts (.lpsw 0x47fc)).result =
        .ok .completed ∧
      (pagedGuest.perform .splitKeys PagedStorage.callouts (.lpsw 0x47fc)).SameAs
        (pagedGuest.perform .pageKeys PagedStorage.callouts (.lpsw 0x47fc))
        PagedStorage.keyedView.toStorageView := by
  have uniform : PagedStorage.keyedView.Uniform pagedGuest.machine := by
    apply PagedStorage.uniform_of_halves
    intro frame _
    have sameFrame : (2 * frame + 1) / 2 = 2 * frame / 2 := by omega
    simp only [pagedGuest, sameFrame]
    exact .refl _
  refine ⟨Response.result_eq_ok (by decide +kernel), ?_⟩
  apply policies_agree PagedStorage.keyedView pagedGuest (.lpsw 0x47fc) uniform
  intro policy
  cases policy <;> decide +kernel

end System

end Assist370
