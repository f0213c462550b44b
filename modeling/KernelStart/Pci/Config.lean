import KernelStart.Pci.Address
import KernelStart.Pci.ClassCode
import KernelStart.Program

/-!
# Access to configuration space

Configuration space is read and written in 32-bit registers, named by a byte offset
whose low two bits do not matter.  There are two signatures.  Programs over
`ConfigRead` can only read, so looking at hardware is harmless by its type; programs
over `Config` can also write.  `readOnly` places the first among the second.
-/

set_option autoImplicit false

namespace KernelStart.Pci

/-- A register of a function. -/
structure ConfigRegister where
  address : Address
  offset : UInt8
  deriving DecidableEq, Repr

/-- Reading registers, and nothing else. -/
abbrev ConfigRead : Signature where
  Request := ConfigRegister
  Answer _ := UInt32

/-- A read or a write of a register. -/
inductive ConfigRequest where
  | read (register : ConfigRegister)
  | write (register : ConfigRegister) (value : UInt32)
  deriving DecidableEq, Repr

/-- A request that changes nothing. -/
def ConfigRequest.IsRead (request : ConfigRequest) : Prop := ∃ register, request = .read register

/-- Reading and writing registers. -/
abbrev Config : Signature where
  Request := ConfigRequest
  Answer
    | .read _ => UInt32
    | .write _ _ => Unit

/-! ## Register offsets -/

def vendorOffset : UInt8 := 0x00
def classOffset : UInt8 := 0x08
def headerOffset : UInt8 := 0x0c
def firstBarOffset : UInt8 := 0x10
def busNumbersOffset : UInt8 := 0x18
def capabilityPointerOffset : UInt8 := 0x34

/-- The vendor read where no function is. -/
def absentVendor : UInt16 := 0xffff

/-- The vendor whose USB 2 and USB 3 controllers share their connectors. -/
def intelVendor : UInt16 := 0x8086

/-- Whether a header announces function 0 only (bit 7 clear). -/
def isSingleFunction (header : UInt8) : Bool := header &&& 0x80 == 0

/-! ## Reading -/

/-- Reads a register. -/
def read (address : Address) (offset : UInt8) : Program ConfigRead UInt32 :=
  @Program.request ConfigRead ⟨address, offset⟩

def readVendor (address : Address) : Program ConfigRead UInt16 := do
  return (← read address vendorOffset).toUInt16

def readDeviceId (address : Address) : Program ConfigRead UInt16 := do
  return ((← read address vendorOffset) >>> 16).toUInt16

def readHeader (address : Address) : Program ConfigRead UInt8 := do
  return ((← read address headerOffset) >>> 16).toUInt8

def readClass (address : Address) : Program ConfigRead ClassCode := do
  return ClassCode.ofRegister (← read address classOffset)

/-- Primary (bits 7 to 0), secondary (15 to 8) and subordinate (23 to 16) bus of a bridge. -/
def readBridgeBuses (address : Address) : Program ConfigRead UInt32 :=
  read address busNumbersOffset

/-- The bus behind a bridge. -/
def readSecondaryBus (address : Address) : Program ConfigRead UInt8 := do
  return ((← readBridgeBuses address) >>> 8).toUInt8

/-! ## Reading and writing -/

/-- A program that reads, as one that could also write. -/
def readOnly {α : Type} (program : Program ConfigRead α) : Program Config α :=
  program.interpret fun register => @Program.request Config (.read register)

/-- Writes a register. -/
def write (address : Address) (offset : UInt8) (value : UInt32) : Program Config Unit :=
  @Program.request Config (.write ⟨address, offset⟩ value)

end KernelStart.Pci
