/-!
# Reasons for which a run ends without a result

The start-up code runs on bare hardware, so a run can end in ways that no caller
sees as a value.  A *panic* is raised by the code itself: a checked addition that
leaves its word, an address that the paging hardware cannot hold, a queue without
room for a single message or with more slots than memory can have.  The other causes
belong to the machine: the processor sleeps with nothing left to wake it, an access hits
a page that is not mapped, an interrupt arrives on a vector without a present gate.

Everything that happened before the end stays: a stop is paired with the state it
left behind, never with a rollback.
-/

set_option autoImplicit false

namespace KernelStart

/-- Defects that the code detects in its own operands. -/
inductive Panic where
  /-- A sum or product leaves its fixed-width word. -/
  | arithmeticOverflow
  /-- A physical address has one of its bits 52 to 63 set. -/
  | physicalAddressTooWide
  /-- A virtual address is not the sign extension of its low 48 bits. -/
  | virtualAddressNotCanonical
  /-- A page table lies where there is no memory. -/
  | tableOutsideMemory
  /-- A bounded queue was asked to hold nothing. -/
  | queueWithoutRoom
  /-- The slots of a bounded queue fit no block of memory. -/
  | queueTooLarge
  /-- The main queue is used after its creation was cut short. -/
  | mainQueuePoisoned
  /-- A fault arrived while a fault was being delivered. -/
  | doubleFault
  deriving DecidableEq, Repr, Inhabited

/-- How a run ends when it does not produce a value. -/
inductive Stop where
  | panic (cause : Panic)
  /-- The processor halted with interrupts enabled and nothing will wake it. -/
  | asleep
  /-- The processor halted for good after a fatal error. -/
  | haltedForGood
  /-- A memory-mapped register was accessed on a page that is not mapped. -/
  | pageFault (address : UInt64)
  /-- An interrupt arrived on a vector whose gate is not present. -/
  | noGate (vector : UInt8)
  deriving DecidableEq, Repr, Inhabited

end KernelStart
