import KernelStart.Failure
import KernelStart.Pci.Config

/-!
# Discovered functions and the inventory

A `Device` is what enumeration records about one function: where it is, its header
type and its class.  The inventory records them in discovery order, in a fixed number
of slots; adding to a full inventory fails and changes nothing.

Clearing an inventory only forgets how many slots are in use.  What an earlier walk
left in the slots stays there, but `Inventory.devices`, which is all that anyone sees
of an inventory, does not reach it.
-/

set_option autoImplicit false

namespace KernelStart.Pci

/-- A discovered function. -/
structure Device where
  address : Address
  header : UInt8
  classCode : ClassCode
  deriving DecidableEq, Repr, Inhabited

/-- Reads the registers that a record of a function needs: first the header, then the class. -/
def readDevice (address : Address) : Program ConfigRead Device := do
  let header ← readHeader address
  let classCode ← readClass address
  return ⟨address, header, classCode⟩

/-- What a slot holds before anything was recorded in it. -/
def Device.blank : Device := ⟨⟨0, 0, 0⟩, 0, ⟨0, 0, 0⟩⟩

/-- The number of functions that one walk can record. -/
def Inventory.capacity : Nat := 32

/-- Discovered functions, in the order of discovery; slots behind the first `size` are not in
use. -/
structure Inventory where
  slots : Vector Device Inventory.capacity
  size : Nat
  size_le : size ≤ Inventory.capacity
  deriving DecidableEq, Repr

namespace Inventory

def empty : Inventory := ⟨.replicate capacity .blank, 0, Nat.zero_le _⟩

instance : Inhabited Inventory := ⟨empty⟩

/-- The recorded functions. -/
def devices (inventory : Inventory) : List Device := inventory.slots.toList.take inventory.size

def isEmpty (inventory : Inventory) : Bool := inventory.size == 0

/-- Forgets what was recorded; the slots keep what they hold. -/
def clear (inventory : Inventory) : Inventory :=
  { inventory with size := 0, size_le := Nat.zero_le _ }

/-- Records a function at the end. -/
def push (inventory : Inventory) (device : Device) : Except Failure Inventory :=
  if room : inventory.size < capacity then
    .ok ⟨inventory.slots.set inventory.size device, inventory.size + 1, room⟩
  else
    .error .resourceExhausted

/-- The outcome of recording a function, and the inventory after it. -/
def record (inventory : Inventory) (device : Device) : Except Failure Unit × Inventory :=
  match inventory.push device with
  | .ok next => (.ok (), next)
  | .error kind => (.error kind, inventory)

/-- Records functions in order until one finds no room. -/
def ofList (devices : List Device) : Inventory :=
  devices.foldl (fun inventory device => (inventory.record device).2) empty

/-! ## What the operations do to the recorded functions -/

theorem length_devices (inventory : Inventory) : inventory.devices.length = inventory.size := by
  have bound := inventory.size_le
  simp [devices, bound]

theorem length_devices_le (inventory : Inventory) : inventory.devices.length ≤ capacity := by
  rw [length_devices]
  exact inventory.size_le

@[simp] theorem devices_empty : empty.devices = [] := rfl

@[simp] theorem devices_clear (inventory : Inventory) : inventory.clear.devices = [] := rfl

/-- A function that finds room becomes the last one recorded. -/
theorem push_of_room {inventory : Inventory} {device : Device}
    (room : inventory.devices.length < capacity) :
    ∃ next, inventory.push device = .ok next ∧ next.devices = inventory.devices ++ [device] := by
  rw [length_devices] at room
  refine ⟨_, dif_pos room, ?_⟩
  have inSlots : inventory.size < inventory.slots.toList.length := by simpa using room
  simp only [devices, Vector.toList_set]
  rw [List.take_add_one, List.take_set_of_le (Nat.le_refl _), List.getElem?_set_self inSlots]
  rfl

/-- A full inventory takes no further function. -/
theorem push_of_full {inventory : Inventory} {device : Device}
    (full : capacity ≤ inventory.devices.length) :
    inventory.push device = .error .resourceExhausted := by
  rw [length_devices] at full
  exact dif_neg (Nat.not_lt.mpr full)

/-- A function that was recorded is the last one. -/
theorem devices_of_push {inventory next : Inventory} {device : Device}
    (pushed : inventory.push device = .ok next) :
    next.devices = inventory.devices ++ [device] := by
  rcases Nat.lt_or_ge inventory.devices.length capacity with room | full
  · obtain ⟨recorded, recorded_eq, devices_eq⟩ := @push_of_room inventory device room
    rw [recorded_eq] at pushed
    cases pushed
    exact devices_eq
  · rw [push_of_full full] at pushed
    cases pushed

/-- A function finds no room only in a full inventory. -/
theorem full_of_push_error {inventory : Inventory} {device : Device} {kind : Failure}
    (pushed : inventory.push device = .error kind) :
    kind = .resourceExhausted ∧ inventory.devices.length = capacity := by
  rcases Nat.lt_or_ge inventory.devices.length capacity with room | full
  · obtain ⟨recorded, recorded_eq, -⟩ := @push_of_room inventory device room
    rw [recorded_eq] at pushed
    cases pushed
  · rw [push_of_full full] at pushed
    cases pushed
    exact ⟨rfl, Nat.le_antisymm inventory.length_devices_le full⟩

end Inventory

end KernelStart.Pci
