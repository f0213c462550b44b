import Std.Data.TreeMap
import KernelStart.Device.Mmio

/-!
# A controller's registers as hardware

The model of a controller is a window of registers with three kinds of behaviour of
their own.  Some bits go away by themselves after they have been read a number of
times; some bits are cleared by writing one to them; and one bit says that events are
waiting, and is set again for each event that is left when it is found clear.

Registers are kept by their exact offset and are zero unless something else was
written.  The model counts the reads and remembers the writes.
-/

set_option autoImplicit false

namespace KernelStart.Usb

/-- Bits that are cleared by the hardware: after more than `patience` reads that found one of
them set. -/
structure SelfClearing where
  register : Nat
  mask : UInt32
  patience : Nat
  /-- Reads that found a bit set since the last clearing. -/
  count : Nat
  deriving DecidableEq, Repr

/-- Bits that are cleared by writing one to them. -/
structure WriteClearing where
  register : Nat
  mask : UInt32
  deriving DecidableEq, Repr

/-- Bits that announce an event, and the events that are still to be announced. -/
structure EventSource where
  register : Nat
  mask : UInt32
  left : Nat
  deriving DecidableEq, Repr

/-- The registers of a controller and what they do. -/
structure DeviceModel where
  base : UInt64
  registers : Std.TreeMap Nat UInt32
  selfClearing : List SelfClearing
  writeClearing : List WriteClearing
  events : Option EventSource
  reads : Nat
  /-- Offsets and values written, latest first. -/
  writes : List (Nat × UInt32)

namespace DeviceModel

/-- Bytes of the register window. -/
def windowSize : Nat := 0x10000

/-- The content of a register. -/
def register (device : DeviceModel) (offset : Nat) : UInt32 := device.registers.getD offset 0

/-- Changes a register without the hardware noticing. -/
def poke (device : DeviceModel) (offset : Nat) (value : UInt32) : DeviceModel :=
  { device with registers := device.registers.insert offset value }

/-- Changing a register changes what it holds, and no other register. -/
theorem register_poke (device : DeviceModel) (offset other : Nat) (value : UInt32) :
    (device.poke offset value).register other =
      if offset = other then value else device.register other := by
  simp [register, poke, Std.TreeMap.getD_insert, Std.LawfulEqCmp.compare_eq_iff_eq]

/-- Announces the next event, if one is left and none is announced. -/
def announce (device : DeviceModel) : DeviceModel :=
  match device.events with
  | none => device
  | some source =>
    let value := device.register source.register
    if value &&& source.mask = 0 ∧ source.left > 0 then
      let announced := device.poke source.register (value ||| source.mask)
      { announced with events := some { source with left := source.left - 1 } }
    else
      device

/-- Adds events to those that are left. -/
def addEvents (device : DeviceModel) (count : Nat) : DeviceModel :=
  let grow (source : EventSource) : EventSource := { source with left := source.left + count }
  announce { device with events := device.events.map grow }

/-- Whether an address lies in the window. -/
def contains (device : DeviceModel) (address : UInt64) : Bool :=
  decide (device.base.toNat ≤ address.toNat ∧ address.toNat < device.base.toNat + windowSize)

/-- The offset of an address in the window. -/
def offsetOf (device : DeviceModel) (address : UInt64) : Nat := address.toNat - device.base.toNat

/-- Applies the rules of a register to a value that is being read. -/
def settle (offset : Nat) : List SelfClearing → UInt32 → List SelfClearing × UInt32
  | [], value => ([], value)
  | rule :: rest, value =>
    if rule.register = offset ∧ value &&& rule.mask ≠ 0 then
      if rule.patience < rule.count + 1 then
        let (later, reached) := settle offset rest (value &&& ~~~rule.mask)
        ({ rule with count := 0 } :: later, reached)
      else
        let (later, reached) := settle offset rest value
        ({ rule with count := rule.count + 1 } :: later, reached)
    else
      let (later, reached) := settle offset rest value
      (rule :: later, reached)

/-- Reads a register; bits may go away before the value is returned. -/
def read (device : DeviceModel) (offset : Nat) : UInt32 × DeviceModel :=
  let held := device.register offset
  let (rules, value) := settle offset device.selfClearing held
  let counted := { device with reads := device.reads + 1, selfClearing := rules }
  (value, if value = held then counted else counted.poke offset value)

/-- The bits of a register that are cleared by writing one to them. -/
def clearingMask (device : DeviceModel) (offset : Nat) : UInt32 :=
  device.writeClearing.foldl
    (fun mask rule => if rule.register = offset then mask ||| rule.mask else mask) 0

/-- What a register holds after a value is written over another. -/
def merged (mask held value : UInt32) : UInt32 :=
  value &&& ~~~mask ||| held &&& mask &&& ~~~value

/-- Writes a register. -/
def write (device : DeviceModel) (offset : Nat) (value : UInt32) : DeviceModel :=
  let stored := device.poke offset
    (merged (device.clearingMask offset) (device.register offset) value)
  let noted := { stored with writes := (offset, value) :: stored.writes }
  match noted.events with
  | some source => if source.register = offset then noted.announce else noted
  | none => noted

/-- All registers that are not zero, in ascending order. -/
def contents (device : DeviceModel) : List (Nat × UInt32) :=
  device.registers.toList.filter fun entry => entry.2 != 0

/-- Forgets reads and writes made so far. -/
def withoutRecords (device : DeviceModel) : DeviceModel :=
  { device with reads := 0, writes := [] }

/-- A controller in its first state; an event may be announced at once. -/
def start (base : UInt64) (registers : List (Nat × UInt32)) (selfClearing : List SelfClearing)
    (writeClearing : List WriteClearing) (events : Option EventSource) : DeviceModel :=
  announce
    { base := base
      registers := registers.foldl (fun map entry => map.insert entry.1 entry.2) ∅
      selfClearing := selfClearing
      writeClearing := writeClearing
      events := events
      reads := 0
      writes := [] }

end DeviceModel

end KernelStart.Usb
