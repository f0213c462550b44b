import KernelStart.Boot.Sequence
import KernelStart.Machine.State

/-!
# Running the kernel on the machine

`Machine.kernel` answers everything that start-up and the main loop ask for, and
`Machine.execute` runs a program with its log on the serial line.  `Machine.boot` runs
start-up and the main loop until the run ends by itself: every turn of the loop either
takes a message or halts, a halt uses up an element of the script, and messages come
from the interrupts of the script alone, so the number of turns before the end is known
beforehand.
-/

set_option autoImplicit false

namespace KernelStart.Machine

open Descriptor

/-! ## Capabilities of the kernel -/

/-- Answers accesses to 8-bit I/O ports. -/
def bytePorts : Environment BytePorts Machine
  | .input number, machine =>
    let value :=
      if number = LegacyPic.firstData then machine.picMasks.1
      else if number = LegacyPic.secondData then machine.picMasks.2
      else 0
    (.ok value, machine.note (.input number))
  | .output number value, machine => (.ok (), machine.note (.output number value))

/-- Answers accesses to the I/O ports of configuration space; writes to registers are seen. -/
def widePorts : Environment Pci.WidePorts Machine
  | .input number, machine =>
    let (value, config) := machine.config.input number
    (.ok value, { machine with config := config })
  | .output number value, machine =>
    let reached := { machine with config := machine.config.output number value }
    if number = Pci.dataPort then
      (.ok (), reached.note (.configWrite ⟨machine.config.selected, value⟩))
    else
      (.ok (), reached)

/-- What is seen of a request of the mapper. -/
def noteMapper (machine : Machine) : Memory.MapperRequest → Machine
  | .flush page => machine.note (.flush page)
  | _ => machine

/-- Answers the requests of the mapper. -/
def mapper : Environment Memory.Mapper Machine := fun request machine =>
  let (answer, space) := Memory.AddressSpace.environment request machine.space
  (answer, { machine.noteMapper request with space := space })

/-- Creates the main queue. -/
def createQueue (machine : Machine) (capacity : Nat) :
    Except Stop (Except Failure Unit) × Machine :=
  let (outcome, queue) := machine.mainQueue.create capacity
  (outcome.mapError .panic, { machine with mainQueue := queue })

/-- Takes the message at the front of the main queue. -/
def pop (machine : Machine) : Except Stop (Option Message) × Machine :=
  match machine.mainQueue with
  | .created queue =>
    let (message, rest) := queue.pop
    (.ok message, { machine with mainQueue := .created rest })
  | .absent => (.ok none, machine)
  | .poisoned => (.error (.panic .mainQueuePoisoned), machine)

/-- Takes the count of messages that the main queue turned away. -/
def takeDropCount (machine : Machine) : Except Stop Nat × Machine :=
  match machine.mainQueue with
  | .created queue =>
    let (count, rest) := queue.takeDropCount
    (.ok count, { machine with mainQueue := .created rest })
  | .absent => (.ok 0, machine)
  | .poisoned => (.error (.panic .mainQueuePoisoned), machine)

/-- Answers everything that start-up and the main loop ask for. -/
def kernel : Environment Kernel Machine
  | .context request, machine => context request machine
  | .loadSegmentTable lastByte, machine => (.ok (), machine.note (.loadSegmentTable lastByte))
  | .loadVectorTable lastByte, machine =>
    (.ok (), { machine.note (.loadVectorTable lastByte) with vectorsLoaded := true })
  | .loadSegment register selector, machine =>
    (.ok (), machine.note (.loadSegment register selector))
  | .bytePort request, machine => bytePorts request machine
  | .widePort request, machine => widePorts request machine
  | .mapper request, machine => mapper request machine
  | .createQueue capacity, machine => machine.createQueue capacity
  | .pop, machine => machine.pop
  | .takeDropCount, machine => machine.takeDropCount
  | .arm, machine => (.ok (), { machine with vectors := machine.vectors.install .controller })
  | .enableAndHalt, machine => machine.sleep
  | .halt, machine => (.error .haltedForGood, machine.note .halt)

/-! ## Execution -/

/-- Runs a program on the machine with its log on the serial line. -/
def execute {α : Type} (program : Program (Logged Kernel) α) (machine : Machine) :
    Except Stop α × Machine :=
  (Kernel.withLog machine.threshold program).run kernel machine

/-- A machine before start-up. -/
def start (threshold : Log.Level) (controller : Usb.DeviceModel) (apic : List (Nat × UInt32))
    (config : Pci.RegisterFile) (picMasks : UInt8 × UInt8) (space : Memory.AddressSpace)
    (script : List WakeUp) : Machine where
  interruptsEnabled := false
  bus := .start controller apic
  config := .start config
  picMasks := picMasks
  vectors := .atBoot
  vectorsLoaded := false
  mainQueue := .absent
  space := space
  paging := false
  script := script
  threshold := threshold
  unmaskedSerial := false
  seen := []

/-- More turns than the main loop can take before the script is used up: one for each message
that can wait or arrive, and one for each halt. -/
def turnBound (machine : Machine) : Nat :=
  let arriving := (machine.script.map fun wakeUp => wakeUp.vectors.length).foldr (· + ·) 0
  arriving + machine.script.length + 1

/-- Start-up and the main loop, until the run ends.  Paging is on from the beginning, and the
threshold of the log is that of the settings. -/
def boot (machine : Machine) : Except Stop Unit × Machine :=
  (Boot.bootOnSerial machine.turnBound).run kernel
    { machine with paging := true, threshold := Settings.standard.threshold }

end KernelStart.Machine
