import KernelStart.Descriptor.Segment

/-!
# The segment table

Five entries: an unused one, a flat code segment and a flat data segment for the
kernel, and the two halves of the task state segment.  The task state segment
matters only for its stack table: the first slot holds the stack on which a double
fault is handled, so that an overflow of the kernel stack ends in a report instead
of a reset.

Selectors are byte offsets into the table (eight bytes an entry) at privilege level
zero.
-/

set_option autoImplicit false

namespace KernelStart.Descriptor

/-- The entries of the segment table, in order. -/
structure SegmentTable where
  entries : List Segment
  deriving DecidableEq, Repr

namespace SegmentTable

/-- Bytes of a task state segment. -/
def taskSize : UInt32 := 104

/-- A 20-bit page count that covers the whole address space. -/
def flatLimit : UInt32 := 0xfffff

/-- The table for a task state segment at the given address. -/
def forTask (address : UInt64) : SegmentTable :=
  let (low, high) := Segment.task address (taskSize - 1)
  ⟨[.null, .code .executeRead 0 0 flatLimit, .data .readWrite 0 0 flatLimit, low, high]⟩

/-- Bytes of one entry. -/
def entrySize : Nat := 8

/-- The byte offset of the last byte, which is what the processor is told as the limit. -/
def lastByte (table : SegmentTable) : UInt16 :=
  UInt16.ofNat (table.entries.length * entrySize - 1)

/-- The selector of an entry at privilege level zero. -/
def selector (index : UInt16) : UInt16 := index <<< 3

def codeSelector : UInt16 := selector 1
def dataSelector : UInt16 := selector 2
def taskSelector : UInt16 := selector 3

/-! ## The table in use -/

/-- The stack slot that a double fault switches to, counted from one. -/
def doubleFaultStack : UInt8 := 1

/-- Where the kernel's own task state segment lies. -/
def taskAddress : UInt64 := 0xffffb3d15a5c2740

/-- Which of the seven stack slots of the kernel's task state segment hold a stack. -/
def stacksInUse : List Bool :=
  (List.range 7).map fun slot => slot + 1 == doubleFaultStack.toNat

/-- The table that start-up loads. -/
def installed : SegmentTable := forTask taskAddress

/-- The address recorded in the two task entries. -/
def recordedTask? (table : SegmentTable) : Option UInt64 :=
  match table.entries with
  | [_, _, _, low, high] => some ((high.bits <<< 32) ||| low.base.toUInt64)
  | _ => none

theorem installed_lastByte : installed.lastByte = 0x27 := by decide

end SegmentTable

end KernelStart.Descriptor
