import KernelStart.ByteSet
import KernelStart.Pci.Device

/-!
# The capability list of a function

Capabilities form a linked list inside the 256 bytes of configuration space.  Register
0x34 points at the first entry; the low byte of an entry is its kind, the next byte
points at the next entry.  Pointers are cut to multiples of four.

Hardware may hand out any list, so the walk ends at a pointer into the standard header
(below 0x40, which includes the end marker 0) and at an entry that was already
visited.  There are only so many places for an entry, so it ends in any case, even if
the registers change while it goes on.
-/

set_option autoImplicit false

namespace KernelStart.Pci

/-- An entry of the capability list. -/
structure Capability where
  offset : UInt8
  header : UInt32
  deriving DecidableEq, Repr

namespace Capability

/-- The kind of the entry. -/
def id (capability : Capability) : UInt8 := capability.header.toUInt8

/-- The kind of a capability for message signalled interrupts. -/
def messageSignalled : UInt8 := 0x05

/-- The pointer in a register, cut to a multiple of four. -/
def pointer (word : UInt32) : UInt8 := word.toUInt8 &&& 0xfc

/-- The pointer to the next entry. -/
def next (capability : Capability) : UInt8 := pointer (capability.header >>> 8)

/-- Entries lie behind the standard header. -/
def firstOffset : UInt8 := 0x40

/-! ## Walking the list -/

/-- A walk in progress: where the next entry should be, and where entries have been. -/
structure Walk where
  next : UInt8
  visited : ByteSet
  deriving DecidableEq, Repr

/-- Reads the pointer to the first entry. -/
def start (address : Address) : Program ConfigRead Walk := do
  return ⟨pointer (← read address capabilityPointerOffset), .empty⟩

namespace Walk

/-- The walk has reached the end of the list, or a place it has been before. -/
def isOver (walk : Walk) : Bool :=
  decide (walk.next < firstOffset) || walk.visited.contains walk.next

/-- The walk after the entry at the current place. -/
def onward (walk : Walk) (capability : Capability) : Walk :=
  ⟨capability.next, walk.visited.insert walk.next⟩

theorem free_onward_lt {walk : Walk} (capability : Capability)
    (goes : ¬walk.isOver = true) : (walk.onward capability).visited.free < walk.visited.free := by
  simp only [isOver, Bool.or_eq_true, not_or, Bool.not_eq_true] at goes
  exact ByteSet.free_insert_lt goes.2

/-- Reads the entry at the current place. -/
def entry (address : Address) (walk : Walk) : Program ConfigRead Capability := do
  return ⟨walk.next, ← read address walk.next⟩

/-- Collects at most `limit` further entries. -/
def take (address : Address) (walk : Walk) : Nat → Program ConfigRead (List Capability)
  | 0 => pure []
  | limit + 1 =>
    if walk.isOver then
      pure []
    else do
      let capability ← walk.entry address
      return capability :: (← (walk.onward capability).take address limit)

/-- Collects all further entries. -/
def collect (address : Address) (walk : Walk) : Program ConfigRead (List Capability) :=
  if _goes : walk.isOver = true then
    pure []
  else do
    let capability ← walk.entry address
    return capability :: (← (walk.onward capability).collect address)
termination_by walk.visited.free
decreasing_by exact free_onward_lt _ _goes

/-- The first further entry of a kind; reading stops there. -/
def find? (address : Address) (kind : UInt8) (walk : Walk) :
    Program ConfigRead (Option Capability) :=
  if _goes : walk.isOver = true then
    pure none
  else do
    let capability ← walk.entry address
    if capability.id = kind then
      return some capability
    (walk.onward capability).find? address kind
termination_by walk.visited.free
decreasing_by exact free_onward_lt _ _goes

end Walk

/-- The capabilities of a function, in the order of the list. -/
def list (address : Address) : Program ConfigRead (List Capability) := do
  (← start address).collect address

/-- The first `limit` capabilities of a function. -/
def listUpTo (address : Address) (limit : Nat) : Program ConfigRead (List Capability) := do
  (← start address).take address limit

/-- The first capability of a kind. -/
def find? (address : Address) (kind : UInt8) : Program ConfigRead (Option Capability) := do
  (← start address).find? address kind

end Capability

end KernelStart.Pci
