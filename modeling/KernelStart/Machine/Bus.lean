import KernelStart.Device.LocalApic
import KernelStart.Usb.DeviceModel

/-!
# The memory bus

A memory-mapped access ends at one of three places: the window of the USB controller,
the register page of the local interrupt controller, or nowhere, where reads give zero
and writes are lost.  The window is looked at first.  An access reports what there is to
see of it: reads of the controller and reads from nowhere are only counted.
-/

set_option autoImplicit false

namespace KernelStart.Machine

/-- What can be seen of an access on the bus. -/
inductive BusEvent where
  | apicRead (offset : Nat)
  | apicWrite (offset : Nat) (value : UInt32)
  | controllerWrite (offset : Nat) (value : UInt32)
  | strayWrite (address : UInt64) (value : UInt32)
  deriving DecidableEq, Repr

/-- The devices on the memory bus. -/
structure Bus where
  controller : Usb.DeviceModel
  apic : Std.TreeMap Nat UInt32
  /-- Reads that no device answered. -/
  strayReads : Nat

namespace Bus

/-- Whether an address lies in the page of the local interrupt controller. -/
def isApic (address : UInt64) : Bool :=
  decide (LocalApic.base.toNat ≤ address.toNat ∧
    address.toNat < LocalApic.base.toNat + LocalApic.size.toNat)

def apicOffset (address : UInt64) : Nat := address.toNat - LocalApic.base.toNat

/-- Reads the register at an address. -/
def read (bus : Bus) (address : UInt64) : UInt32 × Option BusEvent × Bus :=
  if bus.controller.contains address then
    let (value, controller) := bus.controller.read (bus.controller.offsetOf address)
    (value, none, { bus with controller := controller })
  else if isApic address then
    let offset := apicOffset address
    (bus.apic.getD offset 0, some (.apicRead offset), bus)
  else
    (0, none, { bus with strayReads := bus.strayReads + 1 })

/-- Writes the register at an address. -/
def write (bus : Bus) (address : UInt64) (value : UInt32) : BusEvent × Bus :=
  if bus.controller.contains address then
    let offset := bus.controller.offsetOf address
    (.controllerWrite offset value, { bus with controller := bus.controller.write offset value })
  else if isApic address then
    let offset := apicOffset address
    (.apicWrite offset value, { bus with apic := bus.apic.insert offset value })
  else
    (.strayWrite address value, bus)

/-- The bus answers accesses. -/
def environment : Environment Mmio Bus
  | .read address, bus =>
    let (value, _, reached) := bus.read address
    (.ok value, reached)
  | .write address value, bus =>
    let (_, reached) := bus.write address value
    (.ok (), reached)

/-- A bus with a controller and the given registers of the local interrupt controller. -/
def start (controller : Usb.DeviceModel) (apic : List (Nat × UInt32)) : Bus where
  controller := controller
  apic := apic.foldl (fun map entry => map.insert entry.1 entry.2) ∅
  strayReads := 0

end Bus

end KernelStart.Machine
