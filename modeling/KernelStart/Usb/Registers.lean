import KernelStart.Device.Mmio
import KernelStart.Usb.HostController

/-!
# A USB 3 controller behind its registers

The registers of a controller come in three groups.  The capability registers lie at
its base and say where the others are: the operational registers follow at the distance
given by the first byte, the runtime registers at an offset of their own.

Starting a controller is a short dialogue.  Resetting requires a halted controller; the
controller then clears the reset bit and reports when it is ready, and its interrupter is
enabled.  Waiting for a bit is bounded by `pollLimit` reads.  Bits that are cleared by
writing one to them are written as zero unless that is what is meant.
-/

set_option autoImplicit false

namespace KernelStart.Usb

/-- Where the three register groups of a controller lie. -/
structure Controller where
  capability : UInt64
  operational : UInt64
  runtime : UInt64
  deriving DecidableEq, Repr

namespace Controller

/-! ## Registers and their bits -/

/-- Capability registers. -/
def lengthOffset : UInt64 := 0x00
def structureOffset : UInt64 := 0x04
def runtimeOffsetOffset : UInt64 := 0x18

/-- Operational registers. -/
def commandOffset : UInt64 := 0x00
def statusOffset : UInt64 := 0x04
def rootPortsOffset : UInt64 := 0x400
def rootPortStride : UInt64 := 0x10

/-- Runtime registers: management of the first interrupter. -/
def interrupterOffset : UInt64 := 0x20

/-- Command bits. -/
def runBit : UInt32 := 0x1
def resetBit : UInt32 := 0x2
def interrupterEnableBit : UInt32 := 0x4

/-- Status bits. -/
def haltedBit : UInt32 := 0x1
def eventInterruptBit : UInt32 := 0x8
def notReadyBit : UInt32 := 0x800

/-- Interrupter bits. -/
def interruptPendingBit : UInt32 := 0x1
def interruptEnableBit : UInt32 := 0x2

/-- Root port bits. -/
def connectedBit : UInt32 := 0x1

/-- Whether a bit is set. -/
def hasBit (word bit : UInt32) : Bool := word &&& bit == bit

/-- The number of reads after which waiting is given up. -/
def pollLimit : Nat := 1000000

/-! ## Access -/

/-- Finds the register groups of the controller at an address. -/
def locate (base : UInt64) : Program Mmio Controller := do
  let length ← Mmio.readAt base lengthOffset
  let runtimeOffset ← Mmio.readAt base runtimeOffsetOffset
  let operational ← Mmio.register base (length &&& 0xff).toUInt64
  let runtime ← Mmio.register base (runtimeOffset &&& ~~~(0x1f : UInt32)).toUInt64
  return ⟨base, operational, runtime⟩

def command (controller : Controller) : Program Mmio UInt32 :=
  Mmio.readAt controller.operational commandOffset

def setCommand (controller : Controller) (value : UInt32) : Program Mmio Unit :=
  Mmio.writeAt controller.operational commandOffset value

def status (controller : Controller) : Program Mmio UInt32 :=
  Mmio.readAt controller.operational statusOffset

def interrupter (controller : Controller) : Program Mmio UInt32 :=
  Mmio.readAt controller.runtime interrupterOffset

def setInterrupter (controller : Controller) (value : UInt32) : Program Mmio Unit :=
  Mmio.writeAt controller.runtime interrupterOffset value

/-- Reads a register up to `limit` times, until a bit is clear. -/
def waitForClear (register : Program Mmio UInt32) (bit : UInt32) :
    Nat → Program Mmio (Except Failure Unit)
  | 0 => return .error .timeout
  | limit + 1 => do
    if hasBit (← register) bit then
      waitForClear register bit limit
    else
      return .ok ()

/-! ## Starting -/

/-- Sets a command bit and keeps the others. -/
def raiseCommand (controller : Controller) (bit : UInt32) : Program Mmio Unit := do
  controller.setCommand ((← controller.command) ||| bit)

/-- Enables the interrupter; the pending bit is written as zero, which leaves it alone. -/
def enableInterrupter (controller : Controller) : Program Mmio Unit := do
  controller.setInterrupter
    ((← controller.interrupter) &&& ~~~interruptPendingBit ||| interruptEnableBit)
  controller.raiseCommand interrupterEnableBit

/-- Resets a halted controller and enables its interrupter. -/
def reset (controller : Controller) : Program Mmio (Except Failure Unit) := do
  if !hasBit (← controller.status) haltedBit then
    return .error .controllerNotHalted
  controller.raiseCommand resetBit
  match ← waitForClear controller.command resetBit pollLimit with
  | .error kind => return .error kind
  | .ok _ =>
    match ← waitForClear controller.status notReadyBit pollLimit with
    | .error kind => return .error kind
    | .ok _ =>
      controller.enableInterrupter
      return .ok ()

/-- Starts a controller that was reset. -/
def start (controller : Controller) : Program Mmio (Except Failure Unit) := do
  controller.raiseCommand runBit
  waitForClear controller.status haltedBit pollLimit

/-! ## A running controller -/

/-- The number of root ports. -/
def rootPortCount (controller : Controller) : Program Mmio UInt8 := do
  return ((← Mmio.readAt controller.capability structureOffset) >>> 24).toUInt8

/-- The offset of a root port's register; numbers start at one. -/
def rootPortOffset (number : UInt8) : UInt64 :=
  rootPortsOffset + rootPortStride * (number.toUInt64 - 1)

/-- Looks at a root port. -/
def rootPort (controller : Controller) (number : UInt8) :
    Program Mmio (Except Failure RootPort) := do
  if number = 0 then
    return .error .indexOutOfRange
  if (← controller.rootPortCount) < number then
    return .error .indexOutOfRange
  let word ← Mmio.readAt controller.operational (rootPortOffset number)
  return .ok ⟨number, hasBit word connectedBit⟩

/-- An event is pending. -/
def eventPending (controller : Controller) : Program Mmio Bool := do
  return hasBit (← controller.interrupter) interruptPendingBit

/-- Acknowledges an event at the interrupter and in the status. -/
def acknowledgeEvent (controller : Controller) : Program Mmio Unit := do
  controller.setInterrupter ((← controller.interrupter) ||| interruptPendingBit)
  Mmio.writeAt controller.operational statusOffset eventInterruptBit

/-- The controller as the rest of the kernel sees it.  Configuring a root port needs transfer
rings, which do not exist yet. -/
def serve (controller : Controller) :
    (request : HostController.Request) → Program Mmio (HostController.Answer request)
  | .rootPortCount => controller.rootPortCount
  | .rootPort number => controller.rootPort number
  | .configure _ => return .error .notImplemented
  | .eventPending => controller.eventPending
  | .processEvent => do
    controller.acknowledgeEvent
    return .ok ()

/-- A logging program over a controller as a program over registers. -/
def serveLogged {α : Type} (controller : Controller) (program : Program (Logged HostController) α) :
    Program (Logged Mmio) α :=
  program.interpretLogged fun request => Program.quiet (controller.serve request)

end Controller

end KernelStart.Usb
