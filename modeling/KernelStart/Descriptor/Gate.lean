import KernelStart.Descriptor.Segment

/-!
# Gates

A gate is the 16-byte entry of the vector table that sends an interrupt to its
handler.  The 64-bit handler address is split over three fields; the attribute word
carries the stack index (bits 0 to 2), the type (8 to 11), the privilege level (13
and 14) and the present bit (15).  Builders cut their arguments to the width of the
field, as they do for segments.
-/

set_option autoImplicit false

namespace KernelStart.Descriptor

/-- The attribute word of a gate. -/
structure GateAccess where
  bits : UInt16
  deriving DecidableEq, Repr, Inhabited

namespace GateAccess

/-- The vector may be delivered (bit 15). -/
def present : UInt16 := 0x8000

/-- Stack index, type and privilege level, each cut to its field, and the present bit. -/
def make (type : SystemType) (privilege : UInt8) (isPresent : Bool) (stack : UInt8) :
    GateAccess :=
  let stackBits : UInt16 := stack.toUInt16 &&& 7
  let typeBits : UInt16 := type.code &&& 0xf
  let privilegeBits : UInt16 := privilege.toUInt16 &&& 3
  let presentBits : UInt16 := if isPresent then present else 0
  ⟨stackBits ||| typeBits <<< 8 ||| privilegeBits <<< 13 ||| presentBits⟩

def stackSlot (access : GateAccess) : UInt8 := (access.bits &&& 7).toUInt8
def typeCode (access : GateAccess) : UInt8 := ((access.bits >>> 8) &&& 0xf).toUInt8
def privilegeLevel (access : GateAccess) : UInt8 := ((access.bits >>> 13) &&& 3).toUInt8
def isPresent (access : GateAccess) : Bool := access.bits &&& present == present

end GateAccess

/-- An entry of the vector table. -/
structure Gate where
  offsetLow : UInt16
  selector : UInt16
  access : GateAccess
  offsetMiddle : UInt16
  offsetHigh : UInt32
  reserved : UInt32
  deriving DecidableEq, Repr, Inhabited

namespace Gate

/-- A gate with the handler address taken apart. -/
def make (handler : UInt64) (selector : UInt16) (type : SystemType) (privilege : UInt8)
    (isPresent : Bool) (stack : UInt8) : Gate where
  offsetLow := (handler &&& 0xffff).toUInt16
  selector := selector
  access := .make type privilege isPresent stack
  offsetMiddle := ((handler >>> 16) &&& 0xffff).toUInt16
  offsetHigh := (handler >>> 32).toUInt32
  reserved := 0

/-- The entry of a vector that nothing owns: recognisably unconfigured and not present. -/
def missing : Gate where
  offsetLow := 0
  selector := 0
  access := .make .interruptGate 0 false 0
  offsetMiddle := 0
  offsetHigh := 0
  reserved := 0

/-- The handler address put together again. -/
def handler (gate : Gate) : UInt64 :=
  gate.offsetLow.toUInt64 ||| gate.offsetMiddle.toUInt64 <<< 16 |||
    gate.offsetHigh.toUInt64 <<< 32

def isPresent (gate : Gate) : Bool := gate.access.isPresent

/-- Bytes of a gate in memory. -/
def size : Nat := 16

/-- The low `count` bytes of a word, least significant first. -/
def littleEndian (count value : Nat) : List UInt8 :=
  (List.range count).map fun position => UInt8.ofNat (value >>> (8 * position))

/-- The 16 bytes of a gate in memory order. -/
def bytes (gate : Gate) : List UInt8 :=
  littleEndian 2 gate.offsetLow.toNat ++ littleEndian 2 gate.selector.toNat ++
    littleEndian 2 gate.access.bits.toNat ++ littleEndian 2 gate.offsetMiddle.toNat ++
    littleEndian 4 gate.offsetHigh.toNat ++ littleEndian 4 gate.reserved.toNat

theorem bytes_length (gate : Gate) : gate.bytes.length = size := by
  simp [bytes, littleEndian, size]

end Gate

end KernelStart.Descriptor
