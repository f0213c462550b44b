/-!
# Addresses in configuration space

A PCI function is found at a bus, a device on that bus and a function of that device.
The configuration mechanism takes all three and a register offset in one 32-bit word:
bit 31 enables the access, then 8 bits of bus, 5 of device, 3 of function and the
register offset with its low two bits clear.  Wider values are cut to their field, so
`Address.reached` is the function that an access really goes to.
-/

set_option autoImplicit false

namespace KernelStart.Pci

/-- Where a function sits. -/
structure Address where
  bus : UInt8
  device : UInt8
  function : UInt8
  deriving DecidableEq, Repr, Inhabited

namespace Address

/-- The word that selects a register of the function. -/
def selectorWord (address : Address) (register : UInt8) : UInt32 :=
  (0x80000000 : UInt32) |||
    address.bus.toUInt32 <<< 16 |||
    (address.device &&& 0x1f).toUInt32 <<< 11 |||
    (address.function &&& 7).toUInt32 <<< 8 |||
    (register &&& 0xfc).toUInt32

/-- The function and the register offset that a selector word names. -/
def ofSelectorWord (word : UInt32) : Address × UInt8 :=
  (⟨(word >>> 16).toUInt8, (word >>> 11).toUInt8 &&& 0x1f, (word >>> 8).toUInt8 &&& 7⟩,
    word.toUInt8 &&& 0xfc)

/-- The function that an access to this address goes to. -/
def reached (address : Address) : Address :=
  ⟨address.bus, address.device &&& 0x1f, address.function &&& 7⟩

/-- Bus, device and function in decimal, separated by points. -/
def dotted (address : Address) : String :=
  s!"{address.bus.toNat}.{address.device.toNat}.{address.function.toNat}"

/-- Another function of the same device. -/
def withFunction (address : Address) (function : UInt8) : Address :=
  { address with function := function }

end Address

/-- Devices on a bus. -/
def devicesPerBus : Nat := 32

/-- Functions of a device. -/
def functionsPerDevice : Nat := 8

end KernelStart.Pci
