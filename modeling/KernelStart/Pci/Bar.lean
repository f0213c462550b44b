import KernelStart.Pci.Device

/-!
# Base address registers

A function has six base address registers, numbered from zero.  Bits 2 and 1 of a
register give the width of its address: `10` means that the next register holds the
upper half.  The flag bits in the low nibble are part of the value that is returned.
The last register has no next one, so a wide address there is an error, as is a number
beyond the six.
-/

set_option autoImplicit false

namespace KernelStart.Pci

namespace Bar

/-- The number of base address registers. -/
def count : UInt8 := 6

/-- The register offset of a base address register. -/
def offset (index : UInt8) : UInt8 := firstBarOffset + 4 * index

/-- Whether the address goes on in the next register. -/
def isWide (low : UInt32) : Bool := low &&& 6 == 4

/-- The address put together from its two halves. -/
def join (low high : UInt32) : UInt64 := low.toUInt64 ||| high.toUInt64 <<< 32

end Bar

/-- Reads a base address register, together with the next one if its address is wide. -/
def Bar.fetch (address : Address) (index : UInt8) :
    Program ConfigRead (Except Failure UInt64) := do
  if Bar.count ≤ index then
    return .error .indexOutOfRange
  let low ← read address (Bar.offset index)
  if !Bar.isWide low then
    return .ok low.toUInt64
  if index = Bar.count - 1 then
    return .error .indexOutOfRange
  let high ← read address (Bar.offset index + 4)
  return .ok (Bar.join low high)

end KernelStart.Pci
