import KernelStart.Program

/-!
# Memory-mapped registers

Device registers of 32 bits are read and written at addresses.  A register address is
a base plus an offset, and the sum is checked: an address that leaves the 64-bit word
is a panic before anything is accessed.
-/

set_option autoImplicit false

namespace KernelStart

/-- An access to a memory-mapped register. -/
inductive MmioRequest where
  | read (address : UInt64)
  | write (address : UInt64) (value : UInt32)
  deriving DecidableEq, Repr

/-- Access to memory-mapped registers. -/
abbrev Mmio : Signature where
  Request := MmioRequest
  Answer
    | .read _ => UInt32
    | .write _ _ => Unit

namespace Mmio

def read (address : UInt64) : Program Mmio UInt32 := @Program.request Mmio (.read address)

def write (address : UInt64) (value : UInt32) : Program Mmio Unit :=
  @Program.request Mmio (.write address value)

/-- The sum of an address and an offset, if it is an address. -/
def addOffset? (base offset : UInt64) : Option UInt64 :=
  if base.toNat + offset.toNat < UInt64.size then some (base + offset) else none

/-- The address of a register. -/
def register (base offset : UInt64) : Program Mmio UInt64 :=
  Program.orPanic .arithmeticOverflow (addOffset? base offset)

/-- Reads the register at an offset. -/
def readAt (base offset : UInt64) : Program Mmio UInt32 := do
  read (← register base offset)

/-- Writes the register at an offset. -/
def writeAt (base offset : UInt64) (value : UInt32) : Program Mmio Unit := do
  write (← register base offset) value

end Mmio

end KernelStart
