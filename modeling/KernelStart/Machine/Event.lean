import KernelStart.Boot.Kernel
import KernelStart.Machine.Bus

/-!
# What an observer of the machine sees

The machine reports what is done to it as a list of events, and each event has a text of
its own.  Pages that are flushed one after another, upwards and with nothing seen in
between, are reported as one run.
-/

set_option autoImplicit false

namespace KernelStart.Machine

/-- Something that was done to the machine. -/
inductive Event where
  | loadSegmentTable (lastByte : UInt16)
  | loadVectorTable (lastByte : UInt16)
  | loadSegment (register : SegmentRegister) (selector : UInt16)
  | input (number : UInt16)
  | output (number : UInt16) (value : UInt8)
  /-- Interrupts were masked. -/
  | mask
  /-- Interrupts were enabled. -/
  | unmask
  | enableAndHalt
  | halt
  | flush (page : UInt64)
  | bus (event : BusEvent)
  | configWrite (write : Pci.ConfigWrite)
  | interrupt (vector : UInt8)
  | pageFault (address : UInt64)
  /-- A line of the log was completed. -/
  | line (text : String)
  deriving DecidableEq, Repr

namespace Event

open Text (hex)

/-- The name of a segment register. -/
def registerName : SegmentRegister → String
  | .ds => "ds"
  | .es => "es"
  | .fs => "fs"
  | .gs => "gs"
  | .cs => "cs"
  | .ss => "ss"
  | .tr => "tr"

/-- The text of an access on the bus. -/
def busText : BusEvent → String
  | .apicRead offset => s!"apic read {hex offset}"
  | .apicWrite offset value => s!"apic {hex offset} = {hex value.toNat}"
  | .controllerWrite offset value => s!"xhc {hex offset} = {hex value.toNat}"
  | .strayWrite address value => s!"mmio {hex address.toNat} = {hex value.toNat}"

/-- The text of a write to configuration space; register offsets are multiples of four. -/
def configText (write : Pci.ConfigWrite) : String :=
  let register := write.register
  s!"pci {register.address.dotted} {hex (register.offset &&& 0xfc).toNat} = {hex write.value.toNat}"

/-- The text of an event. -/
def text : Event → String
  | loadSegmentTable lastByte => s!"lgdt limit {hex lastByte.toNat}"
  | loadVectorTable lastByte => s!"lidt limit {hex lastByte.toNat}"
  | loadSegment register selector => s!"{registerName register} = {hex selector.toNat}"
  | input number => s!"in {hex number.toNat}"
  | output number value => s!"out {hex number.toNat} = {hex value.toNat}"
  | mask => "cli"
  | unmask => "sti"
  | enableAndHalt => "sti_hlt"
  | halt => "hlt"
  | flush page => s!"invlpg {hex page.toNat} 1"
  | bus event => busText event
  | configWrite write => configText write
  | interrupt vector => s!"irq {vector.toNat}"
  | pageFault address => s!"page_fault {hex address.toNat}"
  | line text => s!"log {text}"

/-- The text of a run of flushed pages. -/
def runText (first count : Nat) : String := s!"invlpg {hex first} {count}"

/-- The texts of events behind a run of `count` pages from `first` on, which is still open. -/
def textsAfterRun (first count : Nat) : List Event → List String
  | [] => [runText first count]
  | event :: rest =>
    match event with
    | flush page =>
      if page.toNat = first + count * Memory.pageSize then
        textsAfterRun first (count + 1) rest
      else
        runText first count :: textsAfterRun page.toNat 1 rest
    | other => runText first count :: other.text :: textsOutside rest
where
  /-- The texts of events while no run is open. -/
  textsOutside : List Event → List String
    | [] => []
    | event :: rest =>
      match event with
      | flush page => textsAfterRun page.toNat 1 rest
      | other => other.text :: textsOutside rest

/-- The texts of a list of events, with runs of flushed pages joined. -/
def texts (events : List Event) : List String := textsAfterRun.textsOutside events

/-- The lines of the log among the events. -/
def lines (events : List Event) : List String :=
  events.filterMap fun
    | line text => some text
    | _ => none

end Event

end KernelStart.Machine
