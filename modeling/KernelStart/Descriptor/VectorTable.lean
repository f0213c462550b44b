import KernelStart.Descriptor.Gate
import KernelStart.Descriptor.SegmentTable
import KernelStart.Settings

/-!
# The vector table

One gate per interrupt vector.  Every vector of a fresh table is unconfigured, and a
vector becomes present only when the feature that owns it is set up: the table in use
at start-up has gates for breakpoints, double faults and spurious interrupts, and the
controller's vector is armed later, once there is a queue for its messages.

An entry remembers which of the kernel's routines its gate was made for, so that what an
interrupt enters is decided by how the gate came into the table and not by comparing
addresses.
-/

set_option autoImplicit false

namespace KernelStart.Descriptor

/-- The routines that the kernel enters through a gate. -/
inductive Handler where
  | breakpoint
  | doubleFault
  | spurious
  | controller
  deriving DecidableEq, Repr

namespace Handler

/-- The vector that a routine belongs to. -/
def vector : Handler → UInt8
  | breakpoint => 3
  | doubleFault => 8
  | spurious => 0xff
  | controller => Settings.standard.controllerVector

/-- Where a routine lies in memory. -/
def address : Handler → UInt64
  | breakpoint => 0xffffb3d1503c6a10
  | doubleFault => 0xffffb3d1503c6b90
  | spurious => 0xffffb3d1503c6d50
  | controller => 0xffffb3d1503c6e70

/-- The stack slot that a routine runs on; zero keeps the stack in use. -/
def stack : Handler → UInt8
  | doubleFault => SegmentTable.doubleFaultStack
  | _ => 0

end Handler

/-- A present interrupt gate at privilege level zero, entered through the kernel's code segment. -/
def Gate.kernel (handler : UInt64) (stack : UInt8) : Gate :=
  .make handler SegmentTable.codeSelector .interruptGate 0 true stack

/-- The gate of one of the kernel's own routines. -/
def Handler.gate (handler : Handler) : Gate :=
  .kernel handler.address handler.stack

/-- A gate and the kernel's routine that it was made for, if it was made for one. -/
structure VectorEntry where
  gate : Gate
  routine? : Option Handler
  deriving DecidableEq, Repr

/-- An entry for every vector. -/
structure VectorTable where
  entry : UInt8 → VectorEntry

namespace VectorTable

/-- Nothing is configured. -/
def empty : VectorTable := ⟨fun _ => ⟨.missing, none⟩⟩

/-- The gate of a vector. -/
def gate (table : VectorTable) (vector : UInt8) : Gate := (table.entry vector).gate

/-- Replaces the entry of one vector. -/
def setEntry (table : VectorTable) (vector : UInt8) (entry : VectorEntry) : VectorTable :=
  ⟨fun other => if other = vector then entry else table.entry other⟩

/-- Replaces the gate of one vector by one that was made for no routine of the kernel. -/
def set (table : VectorTable) (vector : UInt8) (gate : Gate) : VectorTable :=
  table.setEntry vector ⟨gate, none⟩

@[simp] theorem set_gate_self (table : VectorTable) (vector : UInt8) (gate : Gate) :
    (table.set vector gate).gate vector = gate := by simp [set, setEntry, VectorTable.gate]

theorem set_gate_of_ne (table : VectorTable) {vector other : UInt8} (gate : Gate)
    (h : other ≠ vector) : (table.set vector gate).gate other = table.gate other := by
  simp [set, setEntry, VectorTable.gate, h]

/-- Installs the gate of a routine on its own vector. -/
def install (table : VectorTable) (handler : Handler) : VectorTable :=
  table.setEntry handler.vector ⟨handler.gate, some handler⟩

theorem install_entry (table : VectorTable) (handler : Handler) (vector : UInt8) :
    (table.install handler).entry vector =
      if vector = handler.vector then ⟨handler.gate, some handler⟩ else table.entry vector := rfl

/-- Installing a routine again changes nothing. -/
theorem install_install (table : VectorTable) (handler : Handler) :
    (table.install handler).install handler = table.install handler := by
  refine congrArg mk (funext fun vector => ?_)
  by_cases own : vector = handler.vector
  · rw [if_pos own, if_pos own]
  · rw [if_neg own]
    rfl

/-- Whether an interrupt on this vector reaches a handler. -/
def isPresent (table : VectorTable) (vector : UInt8) : Bool :=
  (table.gate vector).isPresent

theorem isPresent_install (table : VectorTable) (handler : Handler) (vector : UInt8) :
    (table.install handler).isPresent vector =
      (decide (vector = handler.vector) || table.isPresent vector) := by
  have present : handler.gate.isPresent = true := by cases handler <;> rfl
  rw [isPresent, gate, install_entry]
  by_cases own : vector = handler.vector
  · rw [if_pos own, decide_eq_true own]
    exact present
  · rw [if_neg own, decide_eq_false own]
    rfl

theorem isPresent_empty (vector : UInt8) : empty.isPresent vector = false := by
  rw [isPresent, gate, empty]
  dsimp only
  decide

/-- The vectors whose gate is present, in ascending order. -/
def presentVectors (table : VectorTable) : List UInt8 :=
  ((List.range 256).map UInt8.ofNat).filter table.isPresent

/-- The byte offset of the last byte of the 256 gates. -/
def lastByte : UInt16 := UInt16.ofNat (256 * Gate.size - 1)

/-- The table that start-up loads: only the exception vectors are present. -/
def atBoot : VectorTable :=
  ((empty.install .breakpoint).install .doubleFault).install .spurious

theorem atBoot_presentVectors : atBoot.presentVectors = [3, 8, 0xff] := by decide +kernel

end VectorTable

end KernelStart.Descriptor
