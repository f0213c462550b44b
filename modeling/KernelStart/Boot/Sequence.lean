import KernelStart.Boot.Kernel
import KernelStart.Usb.EventHandler
import KernelStart.Usb.RootHub

/-!
# The start-up sequence

Each step relies on the one before it.  The descriptor tables are loaded before
anything can fault safely; the register page of the local interrupt controller is
mapped before any vector is armed; the main queue exists before the controller's
vector is armed; and the controller is started before interrupts are enabled.

Three failures are fatal, because nothing works without what they miss: the heap, the
register page, and the main queue.  Every later failure is logged and the device is
left out.  Nothing is retried.

After the last step the main loop runs for good; `loop` is its first `cycles` turns.
-/

set_option autoImplicit false

namespace KernelStart.Boot

open Descriptor

/-! ## Steps -/

/-- Loads the segment table and every segment register; the data segments are not used in long
mode and stay empty. -/
def loadSegments : Program (Logged Kernel) Unit := do
  Kernel.ask (.loadSegmentTable SegmentTable.installed.lastByte)
  Kernel.ask (.loadSegment .ds 0)
  Kernel.ask (.loadSegment .es 0)
  Kernel.ask (.loadSegment .fs 0)
  Kernel.ask (.loadSegment .gs 0)
  Kernel.ask (.loadSegment .cs SegmentTable.codeSelector)
  Kernel.ask (.loadSegment .ss SegmentTable.dataSelector)
  Kernel.ask (.loadSegment .tr SegmentTable.taskSelector)

/-- Loads the vector table. -/
def loadVectors : Program (Logged Kernel) Unit :=
  Kernel.ask (.loadVectorTable VectorTable.lastByte)

/-- Loads the descriptor tables and silences the legacy interrupt controllers. -/
def takeOver : Program (Logged Kernel) Unit := do
  loadSegments
  loadVectors
  Kernel.bytePorts LegacyPic.disable
  .log .info "descriptor tables loaded"

/-- A fatal error: it is logged and the processor halts for good. -/
def fatal {α : Type} (text : String) : Program (Logged Kernel) α := do
  Program.log .error text
  Kernel.halt

/-- Maps the heap and the registers of the local interrupt controller. -/
def mapMemory : Program (Logged Kernel) Unit := do
  match ← Kernel.mapper Memory.mapHeap with
  | .error error => fatal s!"heap initialization failed: {error.text}"
  | .ok _ =>
    match ← Kernel.mapper (Memory.mapDevice LocalApic.base LocalApic.size) with
    | .error error => fatal s!"failed to map local APIC: {error.text}"
    | .ok _ => pure ()

/-- Turns the local interrupt controller on and returns its identity. -/
def enableApic : Program (Logged Kernel) UInt8 := do
  Kernel.mmio LocalApic.enable
  Kernel.mmio LocalApic.identity

/-- Creates the main queue. -/
def createQueue : Program (Logged Kernel) Unit := do
  match ← Kernel.ask (.createQueue Settings.standard.queueCapacity) with
  | .error kind => fatal s!"main queue: {kind.name}"
  | .ok _ => pure ()

/-- Resets and starts a located controller; one that cannot be reset is left out. -/
def startLocated (controller : Usb.Controller) :
    Program (Logged Kernel) (Option Usb.Controller) := do
  match ← Kernel.mmio controller.reset with
  | .error kind =>
    Program.log .error s!"xhc initialize: {kind.name}"
    return none
  | .ok _ =>
    Program.log .info "xHC starting"
    match ← Kernel.mmio controller.start with
    | .error kind =>
      Program.log .error s!"xhc run: {kind.name}"
      return some controller
    | .ok _ => return some controller

/-- Maps the registers of a prepared controller and starts it. -/
def startController (prepared : Prepared) : Program (Logged Kernel) (Option Usb.Controller) := do
  match ← Kernel.mapper
      (Memory.mapDevice prepared.registers Settings.standard.controllerWindow) with
  | .error error =>
    Program.log .error s!"failed to map xHC registers: {error.text}"
    return none
  | .ok _ => startLocated (← Kernel.mmio (Usb.Controller.locate prepared.registers))

/-- Enumerates the buses, prepares the controller and starts it. -/
def findAndStart (apicId : UInt8) : Program (Logged Kernel) (Option Usb.Controller) := do
  let inventory ← Kernel.configRead takeInventory
  match ← Kernel.setup (prepare inventory apicId) with
  | .error kind =>
    Program.log .warn s!"no usable xHC: {kind.name}"
    return none
  | .ok prepared => startController prepared

/-- A program over the root hub of a controller. -/
def onController {α : Type} (controller : Usb.Controller)
    (program : Program (Logged Usb.HostController) α) : Program (Logged Kernel) α :=
  Kernel.mmioLogged (controller.serveLogged program)

/-- Everything up to the main loop; interrupts are masked until the controller is started. -/
def startUp : Program (Logged Kernel) (Option Usb.Controller) := do
  takeOver
  mapMemory
  let apicId ← enableApic
  createQueue
  let controller ← findAndStart apicId
  Kernel.unmask
  Program.log .info "interrupts enabled"
  match controller with
  | none => return none
  | some controller =>
    onController controller Usb.RootHub.configureConnected
    return some controller

/-! ## The main loop -/

/-- Handles a message with the controller, if there is one. -/
def handle (controller : Option Usb.Controller) (type : MessageKind) :
    Program (Logged Kernel) (Except Failure Unit) :=
  match controller with
  | none => return Usb.EventHandler.withoutController
  | some controller => onController controller (Usb.EventHandler.handle true type)

/-- The meaning of the loop's requests. -/
def loopAccess (controller : Option Usb.Controller) :
    (request : MainLoop.Request) → Program (Logged Kernel) (MainLoop.Loop.Answer request)
  | .disable => Kernel.mask
  | .enable => Kernel.unmask
  | .enableAndHalt => Kernel.ask .enableAndHalt
  | .pop => Kernel.ask .pop
  | .takeDropCount => Kernel.ask .takeDropCount
  | .handle type => handle controller type

/-- One turn of the main loop. -/
def turn (controller : Option Usb.Controller) : Program (Logged Kernel) MainLoop.Outcome :=
  MainLoop.cycle.interpretLogged (loopAccess controller)

/-- The first turns of the main loop. -/
def loop (controller : Option Usb.Controller) : Nat → Program (Logged Kernel) Unit
  | 0 => pure ()
  | turns + 1 => do
    let _ ← turn controller
    loop controller turns

/-- Start-up and the first turns of the main loop. -/
def boot (turns : Nat) : Program (Logged Kernel) Unit := do
  loop (← startUp) turns

/-- The same with the log on the serial line, at the threshold of the settings. -/
def bootOnSerial (turns : Nat) : Program Kernel Unit :=
  Kernel.withLog Settings.standard.threshold (boot turns)

end KernelStart.Boot
