import KernelStart.Pci.Capability

/-!
# Message signalled interrupts

A function with this capability raises an interrupt by writing a message to an
address.  Setting it up means writing the address and the message into the registers
behind the capability header and then setting the enable bit in the header; the enable
bit comes last, because the function may start to signal as soon as it is set.

Two layouts exist.  With a 64-bit address the upper half follows the lower one and the
message moves up by one register.  Register offsets are bytes and their sums are
checked: a capability so close to the end of configuration space that its registers do
not fit is a panic at the register that does not fit.
-/

set_option autoImplicit false

namespace KernelStart.Pci

/-- The capability header of a function that can signal by messages. -/
structure MessageCapability where
  offset : UInt8
  control : UInt32
  deriving DecidableEq, Repr

namespace MessageCapability

/-! ## The control word -/

/-- Signalling is on (bit 16). -/
def enableBit : UInt32 := 0x00010000

/-- How many messages are granted, as a power of two (bits 22 to 20). -/
def grantMask : UInt32 := 0x00700000

/-- The address has 64 bits (bit 23). -/
def wideAddressBit : UInt32 := 0x00800000

/-- Messages can be masked one by one (bit 24). -/
def maskingBit : UInt32 := 0x01000000

def isEnabled (capability : MessageCapability) : Bool :=
  capability.control &&& enableBit == enableBit

/-- How many messages the function can use, as a power of two (bits 19 to 17). -/
def offered (capability : MessageCapability) : UInt8 :=
  ((capability.control >>> 17) &&& 7).toUInt8

/-- How many messages the function is granted, as a power of two. -/
def granted (capability : MessageCapability) : UInt8 :=
  ((capability.control >>> 20) &&& 7).toUInt8

def hasWideAddress (capability : MessageCapability) : Bool :=
  capability.control &&& wideAddressBit == wideAddressBit

def canMask (capability : MessageCapability) : Bool :=
  capability.control &&& maskingBit == maskingBit

/-- The control word with signalling off and `exponent` granted; all else is kept. -/
def prepared (capability : MessageCapability) (exponent : UInt8) : UInt32 :=
  capability.control &&& ~~~(enableBit ||| grantMask) ||| exponent.toUInt32 <<< 20

/-- The distance from the header to the message register. -/
def messageDistance (capability : MessageCapability) : UInt8 :=
  if capability.hasWideAddress then 12 else 8

end MessageCapability

/-- The sum of two byte offsets, if it is one. -/
def addOffset? (left right : UInt8) : Option UInt8 :=
  if left.toNat + right.toNat < 256 then some (left + right) else none

/-- The capability for message signalled interrupts. -/
def findMessageCapability (address : Address) :
    Program ConfigRead (Except Failure MessageCapability) := do
  match ← Capability.find? address Capability.messageSignalled with
  | none => return .error .notFound
  | some capability => return .ok ⟨capability.offset, capability.header⟩

/-- Writes the register at a checked distance behind an offset. -/
def writeBehind (address : Address) (offset distance : UInt8) (value : UInt32) :
    Program Config Unit := do
  write address (← Program.orPanic .arithmeticOverflow (addOffset? offset distance)) value

/-- Writes the registers of a capability: first the header with signalling off, last the
header with signalling on. -/
def writeMessageRegisters (address : Address) (capability : MessageCapability)
    (target message : UInt32) (exponent : UInt8) : Program Config Unit := do
  let control := capability.prepared exponent
  write address capability.offset control
  writeBehind address capability.offset 4 target
  if capability.hasWideAddress then
    writeBehind address capability.offset 8 0
  writeBehind address capability.offset capability.messageDistance message
  write address capability.offset (control ||| MessageCapability.enableBit)

/-- Makes a function signal by writing `message` to `target`.  Asking for more messages than
the function offers is refused before anything is written. -/
def enableMessages (address : Address) (target message : UInt32) (exponent : UInt8) :
    Program Config (Except Failure Unit) := do
  match ← readOnly (findMessageCapability address) with
  | .error kind => return .error kind
  | .ok capability =>
    if capability.offered < exponent then
      return .error .unsupported
    writeMessageRegisters address capability target message exponent
    return .ok ()

/-! ## Messages to a local interrupt controller -/

/-- When an interrupt line counts as raised. -/
inductive Trigger where
  | edge
  | level
  deriving DecidableEq, Repr

/-- How the receiving processor treats the message. -/
inductive Delivery where
  | fixed
  | lowestPriority
  | systemManagement
  | nonMaskable
  | reset
  | external
  deriving DecidableEq, Repr

/-- The three bits by which a delivery mode is encoded. -/
def Delivery.code : Delivery → UInt32
  | fixed => 0
  | lowestPriority => 1
  | systemManagement => 2
  | nonMaskable => 4
  | reset => 5
  | external => 7

/-- The address that reaches the local interrupt controller with this identity. -/
def messageTarget (apicId : UInt8) : UInt32 := (0xfee00000 : UInt32) ||| apicId.toUInt32 <<< 12

/-- The message for a vector; a level trigger also asserts the level. -/
def messageFor (trigger : Trigger) (delivery : Delivery) (vector : UInt8) : UInt32 :=
  let message := delivery.code <<< 8 ||| vector.toUInt32
  match trigger with
  | .edge => message
  | .level => message ||| 0xc000

/-- Routes the interrupts of a function to a vector of one processor. -/
def enableMessagesFor (address : Address) (apicId : UInt8) (trigger : Trigger)
    (delivery : Delivery) (vector exponent : UInt8) : Program Config (Except Failure Unit) :=
  enableMessages address (messageTarget apicId) (messageFor trigger delivery vector) exponent

end KernelStart.Pci
