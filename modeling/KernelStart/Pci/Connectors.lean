import KernelStart.Log.Entry
import KernelStart.Pci.Device
import KernelStart.Text.Hex

/-!
# Moving connectors from the USB 2 to the USB 3 controller

On Intel chipsets the USB 2 connectors belong to the USB 2 controller at first, and the
USB 3 controller sees nothing on them.  If such a controller is present, the connectors
that two mask registers allow are switched over: first their fast lanes are turned on,
then they are routed.  This happens before the USB 3 controller is started.
-/

set_option autoImplicit false

namespace KernelStart.Pci.Connectors

/-- Routing of the USB 2 lanes, and the connectors for which it may change. -/
def routingOffset : UInt8 := 0xd0
def routingMaskOffset : UInt8 := 0xd4

/-- Enabling of the fast lanes, and the connectors for which it may change. -/
def fastLanesOffset : UInt8 := 0xd8
def fastLanesMaskOffset : UInt8 := 0xdc

/-- Whether a USB 2 controller of the vendor is among the devices.  Vendors are read only
for USB 2 controllers, and only until one fits. -/
def hasIntelEhci : List Device → Program ConfigRead Bool
  | [] => pure false
  | device :: rest =>
    if device.classCode.isEhci then do
      if (← readVendor device.address) = intelVendor then
        pure true
      else
        hasIntelEhci rest
    else
      hasIntelEhci rest

/-- Copies a mask register to the register it governs and returns the mask. -/
def copyMask (address : Address) (mask target : UInt8) : Program Config UInt32 := do
  let value ← readOnly (read address mask)
  write address target value
  return value

/-- Switches the connectors over to the controller; the answer is whether there was anything
to switch. -/
def takeOver (inventory : Inventory) (controller : Address) : Program (Logged Config) Bool := do
  if ← Program.quiet (readOnly (hasIntelEhci inventory.devices)) then
    let fast ← Program.quiet (copyMask controller fastLanesMaskOffset fastLanesOffset)
    let routed ← Program.quiet (copyMask controller routingMaskOffset routingOffset)
    Program.log .debug
      (s!"switch_ehci_to_xhci: SS = {Text.hexFilled 2 fast.toNat}, " ++
        s!"xHCI = {Text.hexFilled 2 routed.toNat}")
    return true
  else
    return false

end KernelStart.Pci.Connectors
