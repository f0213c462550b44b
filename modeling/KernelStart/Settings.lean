import KernelStart.Log.Level

/-!
# Settings of the start-up code

There is nobody to ask for options this early, so everything that can be tuned is one
record, fixed when the kernel is built.
-/

set_option autoImplicit false

namespace KernelStart

/-- What can be tuned. -/
structure Settings where
  /-- The log threshold during start-up. -/
  threshold : Log.Level
  /-- Messages that the main queue holds. -/
  queueCapacity : Nat
  /-- First address of the kernel heap. -/
  heapStart : UInt64
  /-- Bytes of the kernel heap. -/
  heapSize : UInt64
  /-- How much of the controller's register window is mapped. -/
  controllerWindow : UInt64
  /-- The interrupt vector of the controller. -/
  controllerVector : UInt8
  /-- The controller may claim two to this power contiguous vectors. -/
  vectorExponent : UInt8
  deriving DecidableEq, Repr

/-- The settings in force. -/
def Settings.standard : Settings where
  threshold := .info
  queueCapacity := 32
  heapStart := 0x444444440000
  heapSize := 100 * 1024
  controllerWindow := 64 * 1024
  controllerVector := 0x40
  vectorExponent := 0

end KernelStart
