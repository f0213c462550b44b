/-!
# Class codes

A function announces what it is by three bytes: base class, sub-class and programming
interface.  Start-up cares about three of them: bridges to other PCI buses and the two
USB host controllers that it may have to tell apart.
-/

set_option autoImplicit false

namespace KernelStart.Pci

/-- What a function is. -/
structure ClassCode where
  base : UInt8
  sub : UInt8
  interface : UInt8
  deriving DecidableEq, Repr, Inhabited

namespace ClassCode

def hasBase (code : ClassCode) (base : UInt8) : Bool := code.base == base

def hasSub (code : ClassCode) (base sub : UInt8) : Bool :=
  code.hasBase base && code.sub == sub

def isExactly (code : ClassCode) (base sub interface : UInt8) : Bool :=
  code.hasSub base sub && code.interface == interface

/-- A bridge to another PCI bus. -/
def isBridge (code : ClassCode) : Bool := code.hasSub 0x06 0x04

/-- A USB 3 host controller. -/
def isXhci (code : ClassCode) : Bool := code.isExactly 0x0c 0x03 0x30

/-- A USB 2 host controller. -/
def isEhci (code : ClassCode) : Bool := code.isExactly 0x0c 0x03 0x20

/-- The class code in the class register: base, sub-class and interface from the top. -/
def ofRegister (word : UInt32) : ClassCode :=
  ⟨(word >>> 24).toUInt8, (word >>> 16).toUInt8, (word >>> 8).toUInt8⟩

/-- The class register of a class code, with revision zero. -/
def register (code : ClassCode) : UInt32 :=
  code.base.toUInt32 <<< 24 ||| code.sub.toUInt32 <<< 16 ||| code.interface.toUInt32 <<< 8

end ClassCode

end KernelStart.Pci
