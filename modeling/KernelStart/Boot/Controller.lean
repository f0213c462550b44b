import KernelStart.Descriptor.VectorTable
import KernelStart.Pci.Bar
import KernelStart.Pci.Connectors
import KernelStart.Pci.MessageSignal
import KernelStart.Pci.BusWalk
import KernelStart.Settings

/-!
# Finding and routing the host controller

Start-up enumerates the PCI buses, picks the USB 3 controller to drive, and prepares it:
its interrupt vector is armed, its interrupts are routed to the processor, connectors
are taken over from a USB 2 controller where the chipset asks for it, and the place of
its registers is read.

The order matters.  The vector is armed before the first register is written, because a
routed controller may signal at once, and nothing is armed when there is no controller.
Routing that fails is logged, and the controller is used without interrupts.
-/

set_option autoImplicit false

namespace KernelStart.Boot

open Pci

/-! ## Enumeration -/

/-- The line that lists a function. -/
def listing (device : Device) (vendor : UInt16) : String :=
  let hex := Text.hexFilled
  let code := device.classCode
  let classText := hex 2 code.base.toNat ++ hex 2 code.sub.toNat ++ hex 2 code.interface.toNat
  s!"{device.address.dotted}: vend {hex 4 vendor.toNat}, class {classText}, " ++
    s!"head {hex 2 device.header.toNat}"

/-- Lists functions at the most talkative level; the vendor of each is read at any level. -/
def listDevices : List Device → Program (Logged ConfigRead) Unit
  | [] => pure ()
  | device :: rest => do
    Program.log .debug (listing device (← Program.quiet (readVendor device.address)))
    listDevices rest

/-- Enumerates the buses and lists what was found; after a failure what was found until then
is kept. -/
def takeInventory : Program (Logged ConfigRead) Inventory := do
  let (result, inventory) ← Program.quiet enumerateBuses
  match result with
  | .error kind => Program.log .error s!"ScanAllBus: {kind.name}"
  | .ok _ => pure ()
  Program.log .info s!"ScanAllBus: {inventory.size} device(s)"
  listDevices inventory.devices
  return inventory

/-! ## Choice -/

/-- The first USB 3 controller of the preferred vendor, else `fallback`, else the first USB 3
controller. -/
def chooseController (fallback : Option Device) :
    List Device → Program ConfigRead (Option Device)
  | [] => pure fallback
  | device :: rest =>
    if device.classCode.isXhci then do
      if (← readVendor device.address) = intelVendor then
        return some device
      chooseController (fallback.or (some device)) rest
    else
      chooseController fallback rest

/-- The controller to drive. -/
def findController (inventory : Inventory) : Program ConfigRead (Option Device) :=
  chooseController none inventory.devices

/-! ## Preparation -/

/-- An access to configuration space, or the arming of the controller's vector. -/
inductive SetupRequest where
  | config (request : ConfigRequest)
  | arm
  deriving DecidableEq, Repr

/-- What preparing the controller asks for. -/
abbrev Setup : Signature where
  Request := SetupRequest
  Answer
    | .config request => Config.Answer request
    | .arm => Unit

/-- A program over configuration space as part of the preparation. -/
def onConfig {α : Type} (program : Program Config α) : Program (Logged Setup) α :=
  program.interpret fun request => .ask (LoggedRequest.plain (SetupRequest.config request)) .done

/-- A logging program over configuration space as part of the preparation. -/
def onConfigLogged {α : Type} (program : Program (Logged Config) α) : Program (Logged Setup) α :=
  program.interpretLogged fun request =>
    .ask (LoggedRequest.plain (SetupRequest.config request)) .done

/-- Arms the controller's vector. -/
def arm : Program (Logged Setup) Unit :=
  .ask (LoggedRequest.plain SetupRequest.arm) .done

/-- A prepared controller. -/
structure Prepared where
  device : Device
  /-- The physical address of the registers, without flag bits. -/
  registers : UInt64
  deriving DecidableEq, Repr

/-- Routes the controller's interrupts; a failure is logged. -/
def routeInterrupts (device : Device) (apicId : UInt8) : Program (Logged Setup) Unit := do
  match ← onConfig (enableMessagesFor device.address apicId .level .fixed
      Settings.standard.controllerVector Settings.standard.vectorExponent) with
  | .ok _ => pure ()
  | .error kind => Program.log .error s!"failed to configure MSI for xHC: {kind.name}"

/-- Takes connectors over from a USB 2 controller, if the vendor of the controller asks for it. -/
def takeConnectors (inventory : Inventory) (device : Device) : Program (Logged Setup) Unit := do
  if (← onConfig (readOnly (readVendor device.address))) = intelVendor then
    let _ ← onConfigLogged (Connectors.takeOver inventory device.address)
    pure ()

/-- The flag bits of a base address register. -/
def barFlags : UInt64 := 0xf

/-- Finds the controller and prepares it. -/
def prepare (inventory : Inventory) (apicId : UInt8) :
    Program (Logged Setup) (Except Failure Prepared) := do
  match ← onConfig (readOnly (findController inventory)) with
  | none => return .error .notFound
  | some device =>
    Program.log .info s!"xHC has been found: {device.address.dotted}"
    arm
    routeInterrupts device apicId
    takeConnectors inventory device
    match ← onConfig (readOnly (Bar.fetch device.address 0)) with
    | .error kind => return .error kind
    | .ok bar =>
      let registers := bar &&& ~~~barFlags
      Program.log .debug s!"xHC mmio_base = {Text.hexFilled 8 registers.toNat}"
      return .ok ⟨device, registers⟩

end KernelStart.Boot
