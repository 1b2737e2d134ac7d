import Assist370.Text

/-!
# The assists

The facility knows its assists by mnemonic. Each belongs to one of two classes, and some are
declared without being performed: they are counted and then left to software.
-/

namespace Assist370

/-- The two families of assists. -/
inductive AssistClass where
  /-- Assists for instructions that a virtual machine issues in real problem state. -/
  | vm
  /-- Assists for routines of the control program, issued in supervisor state. -/
  | cp
  deriving DecidableEq, Repr

namespace AssistClass

/-- The name of the class in reports. -/
def name : AssistClass → String
  | vm => "VM ASSIST"
  | cp => "CP ASSIST"

end AssistClass

/-- An assist, by mnemonic. -/
inductive Assist where
  | svc | ssm | lpsw | stnsm | stosm | sio | vtimer | stctl | lctl | diag | iucv
  | free | fret | lckpg | ulkpg | scnru | scnvu | disp0 | disp1 | disp2
  | dnccw | dfccw | fccws | ccwgn | uxccw | trbrg | trlok | vist | vipt | stevl
  | freex | fretx | pmass | lcspg
  deriving DecidableEq, Repr

namespace Assist

/-- Every assist, in the order of the registry. -/
def all : List Assist :=
  [svc, ssm, lpsw, stnsm, stosm, sio, vtimer, stctl, lctl, diag, iucv,
    free, fret, lckpg, ulkpg, scnru, scnvu, disp0, disp1, disp2,
    dnccw, dfccw, fccws, ccwgn, uxccw, trbrg, trlok, vist, vipt, stevl,
    freex, fretx, pmass, lcspg]

/-- The number of assists. -/
def count : Nat := 34

/-- The mnemonic. -/
def name : Assist → String
  | svc => "SVC"
  | ssm => "SSM"
  | lpsw => "LPSW"
  | stnsm => "STNSM"
  | stosm => "STOSM"
  | sio => "SIO"
  | vtimer => "VTIMER"
  | stctl => "STCTL"
  | lctl => "LCTL"
  | diag => "DIAG"
  | iucv => "IUCV"
  | free => "FREE"
  | fret => "FRET"
  | lckpg => "LCKPG"
  | ulkpg => "ULKPG"
  | scnru => "SCNRU"
  | scnvu => "SCNVU"
  | disp0 => "DISP0"
  | disp1 => "DISP1"
  | disp2 => "DISP2"
  | dnccw => "DNCCW"
  | dfccw => "DFCCW"
  | fccws => "FCCWS"
  | ccwgn => "CCWGN"
  | uxccw => "UXCCW"
  | trbrg => "TRBRG"
  | trlok => "TRLOK"
  | vist => "VIST"
  | vipt => "VIPT"
  | stevl => "STEVL"
  | freex => "FREEX"
  | fretx => "FRETX"
  | pmass => "PMASS"
  | lcspg => "LCSPG"

/-- The class of the assist. -/
def family : Assist → AssistClass
  | svc | ssm | lpsw | stnsm | stosm | sio | vtimer | stctl | lctl | diag | iucv => .vm
  | _ => .cp

/-- Whether the facility performs the assist. One that it does not perform always declines. -/
def isSupported : Assist → Bool
  | stnsm | stosm | sio | stctl | diag | iucv | free | fret | dnccw | dfccw | fccws | ccwgn
  | uxccw | vist | vipt | pmass | lcspg => false
  | _ => true

/-- The place of the assist in the registry. -/
def index (assist : Assist) : Fin count :=
  ⟨assist.ctorIdx, by cases assist <;> decide⟩

/-- The assist at a place of the registry. -/
def ofIndex (index : Fin count) : Assist :=
  all.get index

@[simp]
theorem ofIndex_index (assist : Assist) : ofIndex assist.index = assist := by
  cases assist <;> rfl

theorem mem_all (assist : Assist) : assist ∈ all := by
  cases assist <;> decide

theorem index_injective {left right : Assist} (equal : left.index = right.index) :
    left = right := by
  rw [← ofIndex_index left, equal, ofIndex_index]

/-- A text with its ASCII capitals made small. -/
def foldCase (text : String) : List Char :=
  text.toList.map Char.toLower

/-- The assist with the given mnemonic, in ASCII letters of either case. -/
def ofName? (name : String) : Option Assist :=
  all.find? fun assist => foldCase assist.name == foldCase name

end Assist

/-- A name that is no assist's mnemonic. -/
structure UnknownAssist where
  name : String
  deriving DecidableEq, Repr

namespace UnknownAssist

/-- The complaint in words. -/
def message (unknown : UnknownAssist) : String :=
  "unknown ECPS:VM assist " ++ Text.quoted unknown.name

end UnknownAssist

/-- The assist with the given mnemonic, or the complaint that there is none. -/
def Assist.ofName (name : String) : Except UnknownAssist Assist :=
  match Assist.ofName? name with
  | some assist => .ok assist
  | none => .error ⟨name⟩

end Assist370
