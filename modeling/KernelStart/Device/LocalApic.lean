import KernelStart.Descriptor.VectorTable
import KernelStart.Device.Mmio

/-!
# The local interrupt controller

Each processor has an interrupt controller of its own, with registers in one page.
Start-up reads its identity, turns it on with the spurious vector, and acknowledges
interrupts by writing zero.
-/

set_option autoImplicit false

namespace KernelStart.LocalApic

/-- Where the registers lie. -/
def base : UInt64 := 0xfee00000

/-- Bytes of the register page. -/
def size : UInt64 := 0x1000

def identityOffset : UInt64 := 0x20
def endOfInterruptOffset : UInt64 := 0xb0
def spuriousVectorOffset : UInt64 := 0xf0

/-- Turns the controller on (bit 8 of the spurious vector register). -/
def softwareEnable : UInt32 := 0x100

/-- The value that turns the controller on: the vector in the low byte, the rest kept. -/
def enabled (value : UInt32) : UInt32 :=
  value &&& ~~~(0xff : UInt32) ||| softwareEnable ||| Descriptor.Handler.spurious.vector.toUInt32

theorem enabled_and_softwareEnable (value : UInt32) :
    enabled value &&& softwareEnable = softwareEnable := by
  refine UInt32.toBitVec_inj.1 (BitVec.eq_of_getElem_eq fun bit _ => ?_)
  simp only [enabled, UInt32.toBitVec_and, UInt32.toBitVec_or, BitVec.getElem_and,
    BitVec.getElem_or]
  grind

/-- The identity of this processor's controller. -/
def identity : Program Mmio UInt8 := do
  return ((← Mmio.read (base + identityOffset)) >>> 24).toUInt8

/-- Acknowledges the interrupt in service. -/
def acknowledge : Program Mmio Unit :=
  Mmio.write (base + endOfInterruptOffset) 0

/-- Turns the controller on. -/
def enable : Program Mmio Unit := do
  Mmio.write (base + spuriousVectorOffset) (enabled (← Mmio.read (base + spuriousVectorOffset)))

end KernelStart.LocalApic
