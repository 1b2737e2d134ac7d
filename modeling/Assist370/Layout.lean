import Assist370.Microcode.Storage

/-!
# Control blocks of the control program

Where the control program keeps what the assists work on: the fields of its blocks and of the
prefixed storage area, and the flags in their status bytes.
-/

namespace Assist370

namespace Vmblok

/-- The next virtual machine in the queue of those that may run. -/
def nextInQueue : Field UInt32 := ⟨0x00⟩

/-- The address of the ECBLOK of an extended virtual machine, virtual control register 0 of any
other. -/
def extension : Field UInt32 := ⟨0x0c⟩

/-- The segment table designation of the virtual machine's storage. -/
def segmentTable : Field UInt32 := ⟨0x10⟩

/-- General registers 0 to 15. -/
def generalRegisters : Field UInt32 := ⟨0x20⟩

/-- The floating-point registers. -/
def floatingRegisters : Field UInt64 := ⟨0x60⟩

/-- The CPU timer of time charged to the user (VMTTIME). -/
def totalTime : Field UInt64 := ⟨0x80⟩

/-- The total time at which the user has had its slice (VMTMINQ). -/
def sliceEnd : Field UInt64 := ⟨0x88⟩

/-- The CPU timer of time in virtual problem state (VMTMOUTQ). -/
def problemTime : Field UInt64 := ⟨0x90⟩

/-- The virtual interval timer while its page is not resident. -/
def intervalTimer : Field UInt32 := ⟨0x98⟩

/-- How many blocks of stacked work name the user. -/
def stackCount : Field UInt16 := ⟨0x9c⟩

/-- A bit for each channel with a pending I/O interruption. -/
def ioPending : Field UInt16 := ⟨0x9e⟩

/-- The first pending external interruption. -/
def externalPending : Field UInt32 := ⟨0xa0⟩

/-- The copy of control register 6, flags and MICBLOK address. -/
def assistControl : Field UInt32 := ⟨0xa4⟩

/-- The flags in the copy of control register 6. -/
def assistFlags : Field UInt8 := ⟨0xa4⟩

/-- The virtual PSW. -/
def psw : Field Psw := ⟨0xa8⟩

/-- The four bytes of run, dispatch, operating and queue status. -/
def statusWord : Field UInt32 := ⟨0xb0⟩

/-- What the user waits for. -/
def runStatus : Field UInt8 := ⟨0xb0⟩

/-- How the dispatcher sees the user. -/
def dispatchStatus : Field UInt8 := ⟨0xb1⟩

/-- How the user runs. -/
def operatingStatus : Field UInt8 := ⟨0xb2⟩

/-- How the scheduler sees the user. -/
def queueStatus : Field UInt8 := ⟨0xb3⟩

/-- Which facilities the virtual processor has. -/
def processorStatus : Field UInt8 := ⟨0xb4⟩

/-- The state of an extended virtual machine. -/
def extendedStatus : Field UInt8 := ⟨0xb5⟩

/-- Which interruptions are pending. -/
def pending : Field UInt8 := ⟨0xb6⟩

/-- Not zero if the user is not to be dispatched by assist. -/
def notAssistable : Field UInt8 := ⟨0xb7⟩

/-- What is traced. -/
def traceControl : Field UInt8 := ⟨0xb8⟩

/-- The user's queue. -/
def queueLevel : Field UInt8 := ⟨0xb9⟩

/-- Which virtual timers run. -/
def timerLevel : Field UInt8 := ⟨0xba⟩

/-- The trace extension block. -/
def traceExtension : Field UInt32 := ⟨0xbc⟩

/-- Run status: the user waits for the control program. -/
def waitsForCp : UInt8 := 0x80

/-- Run status: the virtual PSW is a wait PSW. -/
def waitsByPsw : UInt8 := 0x40

/-- Run status: the user is idle. -/
def idle : UInt8 := 0x20

/-- Run status: the user is being logged off. -/
def loggingOff : UInt8 := 0x08

/-- Dispatch status: the user has been dispatched. -/
def dispatched : UInt8 := 0x80

/-- Dispatch status: the time slice has ended. -/
def sliceEnded : UInt8 := 0x40

/-- Dispatch status: the stay in the queue has ended. -/
def queueEnded : UInt8 := 0x20

/-- Dispatch status: the user may run. -/
def mayRun : UInt8 := 0x08

/-- Operating status: the user runs a shared system. -/
def runsShared : UInt8 := 0x40

/-- Operating status: the user is to be logged off. -/
def killed : UInt8 := 0x04

/-- Operating status: a console function is under way. -/
def consoleFunction : UInt8 := 0x02

/-- Queue status: a console read is under way. -/
def consoleRead : UInt8 := 0x10

/-- Processor status: the virtual machine is extended and has an ECBLOK. -/
def extendedMachine : UInt8 := 0x40

/-- Extended status: the virtual machine has shadow tables. -/
def hasShadowTables : UInt8 := 0x80

/-- Extended status: the shadow segment tables are invalid. -/
def segmentsInvalid : UInt8 := 0x20

/-- Extended status: the shadow page tables are invalid. -/
def pagesInvalid : UInt8 := 0x10

/-- Extended status: the virtual PSW is in extended-control mode. -/
def extendedMode : UInt8 := 0x08

/-- Extended status: virtual control register 0 is new. -/
def newControl : UInt8 := 0x04

/-- Pending: an event recording interruption. -/
def eventPending : UInt8 := 0x40

/-- Pending: a page fault. -/
def pagePending : UInt8 := 0x08

/-- Trace control: event recording is traced. -/
def tracesEvents : UInt8 := 0x80

/-- Trace control: supervisor calls, privileged instructions or branches are traced. -/
def tracesInstructions : UInt8 := 0x70

/-- Queue level: the user computes and has a long slice. -/
def computing : UInt8 := 0x40

/-- Timer level: a virtual interval timer runs. -/
def timerRuns : UInt8 := 0xc0

end Vmblok

namespace PrefixArea

/-- The prefixed storage area starts at address zero. -/
def base : UInt32 := 0

/-- The first byte of the I/O old PSW. -/
def ioOldMask : Field UInt8 := ⟨0x38⟩

/-- The interval timer. -/
def intervalTimer : Field UInt32 := ⟨0x50⟩

/-- The PSW of the running user. -/
def runPsw : Field Psw := ⟨0x330⟩

/-- The running user. -/
def runUser : Field UInt32 := ⟨0x338⟩

/-- The last user that ran. -/
def lastUser : Field UInt32 := ⟨0x33c⟩

/-- Control register 0 of the running user. -/
def runControl0 : Field UInt32 := ⟨0x340⟩

/-- Control register 1 of the running user. -/
def runControl1 : Field UInt32 := ⟨0x344⟩

/-- The status of the control program. -/
def cpStatus : Field UInt8 := ⟨0x348⟩

/-- More of the status of the control program. -/
def cpStatus2 : Field UInt8 := ⟨0x349⟩

/-- The lock held while the system is extended. -/
def extendLock : Field UInt8 := ⟨0x34a⟩

/-- The status of the processors. -/
def processorStatus : Field UInt8 := ⟨0x34b⟩

/-- The rest of the time slice when the running user was dispatched. -/
def quantum : Field UInt32 := ⟨0x34c⟩

/-- The rest of the time slice when the running user was left. -/
def quantumLeft : Field UInt32 := ⟨0x350⟩

/-- The user that stacked work is done for. -/
def stackUser : Field UInt32 := ⟨0x354⟩

/-- The control program's control register 0. -/
def cpControl0 : Field UInt32 := ⟨0x358⟩

/-- The problem time when the running user was dispatched. -/
def problemStart : Field UInt64 := ⟨0x360⟩

/-- The CPU timer of all problem time. -/
def problemTime : Field UInt64 := ⟨0x368⟩

/-- The virtual machine that stands for the system. -/
def systemUser : Field UInt32 := ⟨0x37c⟩

/-- Control program status: in wait state. -/
def cpWaits : UInt8 := 0x80

/-- Control program status: a user runs. -/
def cpRuns : UInt8 := 0x40

/-- Control program status: executing for a user, in supervisor state. -/
def cpExecutes : UInt8 := 0x28

/-- Second control program status: the shared lock is held. -/
def sharedLock : UInt8 := 0x08

/-- The value of a lock that is held. -/
def lockHeld : UInt8 := 0xff

/-- Processor status: a machine check is being recovered from. -/
def machineCheckRecovery : UInt8 := 0x10

/-- Processor status: the translation lookaside buffer has to be emptied. -/
def purgeRequired : UInt8 := 0x04

/-- The logical address of a virtual machine's supervisor-call old PSW. -/
def callOldPsw : UInt32 := 0x20

/-- The logical address of a virtual machine's supervisor-call new PSW. -/
def callNewPsw : UInt32 := 0x60

/-- The logical address of a virtual machine's supervisor-call code. -/
def callCode : UInt32 := 0x88

end PrefixArea

namespace Ecblok

/-- Virtual control registers 0 to 15. -/
def control : Field UInt32 := ⟨0x00⟩

/-- Control register 0 for shadow tables. -/
def shadowControl0 : Field UInt32 := ⟨0x40⟩

/-- Control register 1 for shadow tables. -/
def shadowControl1 : Field UInt32 := ⟨0x44⟩

end Ecblok

namespace Xintblok

/-- The next pending external interruption. -/
def next : Field UInt32 := ⟨0x00⟩

/-- The subclasses of the interruption, tested against virtual control register 0. -/
def subclasses : Field UInt16 := ⟨0x0a⟩

end Xintblok

namespace Trqblok

/-- The next block of the queue. -/
def next : Field UInt32 := ⟨0x08⟩

/-- The block before this one in the queue. -/
def previous : Field UInt32 := ⟨0x0c⟩

/-- The user that the work is for. -/
def user : Field UInt32 := ⟨0x18⟩

/-- The routine that does the work. -/
def routine : Field UInt32 := ⟨0x1c⟩

end Trqblok

namespace Cpexblok

/-- The next block of the queue. -/
def next : Field UInt32 := ⟨0x00⟩

/-- The block before this one in the queue. -/
def previous : Field UInt32 := ⟨0x04⟩

/-- The routine that does the work. -/
def routine : Field UInt32 := ⟨0x0c⟩

/-- General registers 0 to 14 for the routine. -/
def registers : Field UInt32 := ⟨0x10⟩

/-- The size of the block in doublewords. -/
def doublewords : UInt16 := 10

end Cpexblok

namespace CoreTable

/-- What the frame is used for. -/
def descriptor : Field UInt32 := ⟨0x00⟩

/-- How many locks the frame has. -/
def lockCount : Field UInt32 := ⟨0x04⟩

/-- The flags of the frame. -/
def flags : Field UInt8 := ⟨0x08⟩

/-- Flag: the frame is locked. -/
def locked : UInt8 := 0x80

/-- Flag: the frame holds a shared page. -/
def shared : UInt8 := 0x08

/-- Flag: the frame belongs to free storage. -/
def freeStorage : UInt8 := 0x02

/-- The address of the entry of the frame that holds an address, sixteen bytes for each frame. -/
def entry (table address : UInt32) : UInt32 :=
  Address.wrap (table + Address.frame address >>> 8)

end CoreTable

end Assist370
