import KernelStart.Boot.Controller
import KernelStart.Device.LegacyPic
import KernelStart.Device.LocalApic
import KernelStart.MainLoop.Cycle
import KernelStart.Log.Console
import KernelStart.Memory.Mapping
import KernelStart.Pci.IoPorts
import KernelStart.Usb.Registers

/-!
# What start-up asks of the machine

Two signatures collect the capabilities of the kernel.  `Context` is what an interrupt
handler may use: the serial line, memory-mapped registers, and the main queue from its
producing end.  `Kernel` is what start-up and the main loop may use besides: the
descriptor tables, I/O ports, page mapping, the consuming end of the main queue, the
arming of a vector, and the two ways of halting.

Programs over a single capability are placed among these by the functions below, so the
signature of the whole never appears in the parts.
-/

set_option autoImplicit false

namespace KernelStart

/-! ## Capabilities -/

/-- What interrupt handlers ask for. -/
inductive ContextRequest where
  | console (request : Log.ConsoleRequest)
  | mmio (request : MmioRequest)
  | signal (message : Message)
  deriving DecidableEq, Repr

/-- The capabilities of an interrupt handler. -/
abbrev Context : Signature where
  Request := ContextRequest
  Answer
    | .console request => Log.Console.Answer request
    | .mmio request => Mmio.Answer request
    | .signal _ => Unit

/-- Segment registers. -/
inductive SegmentRegister where
  | ds
  | es
  | fs
  | gs
  | cs
  | ss
  /-- The task register. -/
  | tr
  deriving DecidableEq, Repr

/-- What start-up and the main loop ask for. -/
inductive KernelRequest where
  | context (request : ContextRequest)
  | loadSegmentTable (lastByte : UInt16)
  | loadVectorTable (lastByte : UInt16)
  | loadSegment (register : SegmentRegister) (selector : UInt16)
  | bytePort (request : BytePortRequest)
  | widePort (request : Pci.WidePortRequest)
  | mapper (request : Memory.MapperRequest)
  | createQueue (capacity : Nat)
  | pop
  | takeDropCount
  /-- Makes the controller's vector present. -/
  | arm
  /-- Enables interrupts and halts until the next one, with nothing in between. -/
  | enableAndHalt
  /-- Halts for good. -/
  | halt
  deriving DecidableEq, Repr

/-- The capabilities of start-up and the main loop. -/
abbrev Kernel : Signature where
  Request := KernelRequest
  Answer
    | .context request => Context.Answer request
    | .loadSegmentTable _ => Unit
    | .loadVectorTable _ => Unit
    | .loadSegment _ _ => Unit
    | .bytePort request => BytePorts.Answer request
    | .widePort request => Pci.WidePorts.Answer request
    | .mapper request => Memory.Mapper.Answer request
    | .createQueue _ => Except Failure Unit
    | .pop => Option Message
    | .takeDropCount => Nat
    | .arm => Unit
    | .enableAndHalt => Unit
    | .halt => Empty

/-! ## Placing programs in an interrupt handler -/

namespace Context

variable {α : Type}

def ask (request : ContextRequest) : Program Context (Context.Answer request) :=
  @Program.request Context request

/-- A program over registers in an interrupt handler. -/
def mmio (program : Program Mmio α) : Program Context α :=
  program.interpret fun request => ask (.mmio request)

/-- A program over the serial line in an interrupt handler. -/
def console (program : Program Log.Console α) : Program Context α :=
  program.interpret fun request => ask (.console request)

/-- Writes log entries that pass the threshold to the serial line. -/
def writingLog (threshold : Log.Level) :
    (request : (Logged Context).Request) → Program Context ((Logged Context).Answer request)
  | .log entry => console (Log.Console.write threshold entry)
  | .plain request => ask request

end Context

/-! ## Placing programs in the kernel -/

namespace Kernel

variable {α : Type}

/-- Asks one request of the machine. -/
def ask (request : KernelRequest) : Program (Logged Kernel) (Kernel.Answer request) :=
  .ask (LoggedRequest.plain request) .done

/-- Changes the interrupt flag. -/
def mask : Program (Logged Kernel) Unit := ask (.context (.console .mask))
def unmask : Program (Logged Kernel) Unit := ask (.context (.console .unmask))

/-- Halts for good. -/
def halt : Program (Logged Kernel) α :=
  .ask (LoggedRequest.plain KernelRequest.halt) fun never => nomatch never

def bytePorts (program : Program BytePorts α) : Program (Logged Kernel) α :=
  program.interpret fun request => ask (.bytePort request)

def mmio (program : Program Mmio α) : Program (Logged Kernel) α :=
  program.interpret fun request => ask (.context (.mmio request))

def mmioLogged (program : Program (Logged Mmio) α) : Program (Logged Kernel) α :=
  program.interpretLogged fun request => ask (.context (.mmio request))

def mapper (program : Program Memory.Mapper α) : Program (Logged Kernel) α :=
  program.interpret fun request => ask (.mapper request)

/-- An access to configuration space goes through the I/O ports. -/
def configAccess (request : Pci.ConfigRequest) :
    Program (Logged Kernel) (Pci.Config.Answer request) :=
  (Pci.throughPorts request).interpret fun wide => ask (.widePort wide)

def configRead (program : Program (Logged Pci.ConfigRead) α) : Program (Logged Kernel) α :=
  program.interpretLogged fun register => configAccess (.read register)

/-- The meaning of a request of the preparation of the controller. -/
def setupAccess :
    (request : Boot.SetupRequest) → Program (Logged Kernel) (Boot.Setup.Answer request)
  | .config request => configAccess request
  | .arm => do
    ask .arm
    .log .debug s!"vector {Text.hex Settings.standard.controllerVector.toNat} armed for xHC"

def setup (program : Program (Logged Boot.Setup) α) : Program (Logged Kernel) α :=
  program.interpretLogged setupAccess

/-- Writes log entries that pass the threshold to the serial line. -/
def writingLog (threshold : Log.Level) :
    (request : (Logged Kernel).Request) → Program Kernel ((Logged Kernel).Answer request)
  | .log entry => (Context.console (Log.Console.write threshold entry)).interpret fun request =>
      @Program.request Kernel (.context request)
  | .plain request => @Program.request Kernel request

/-- The kernel with its log on the serial line. -/
def withLog (threshold : Log.Level) (program : Program (Logged Kernel) α) : Program Kernel α :=
  program.interpret (writingLog threshold)

end Kernel

end KernelStart
