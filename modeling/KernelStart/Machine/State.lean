import KernelStart.Boot.Routines
import KernelStart.Machine.Event
import KernelStart.Memory.AddressSpace
import KernelStart.Queue.MainQueue

/-!
# The machine

The state that the kernel works on: the interrupt flag, the devices on the memory bus,
configuration space behind its I/O ports, the vector table, the main queue, and the
address space.  A script says what wakes the processor from each halt.

Interrupt handlers see part of it, and `Machine.context` answers what they ask.  With
paging on, an access to a register needs a mapped page; an access without one is the
last thing that happens.

An interrupt is delivered through the loaded vector table.  Its routine runs with the
interrupt flag clear, and the flag is set again when the routine returns.  A vector
without a present gate, or with one that is not meant for interrupts, ends the run.
-/

set_option autoImplicit false

namespace KernelStart

open Machine (Bus BusEvent Event)

/-- What wakes the processor: events at the controller, then interrupts in order. -/
structure WakeUp where
  events : Nat
  vectors : List UInt8
  deriving DecidableEq, Repr

/-- The machine that the kernel runs on. -/
structure Machine where
  interruptsEnabled : Bool
  bus : Bus
  config : Pci.ConfigPorts
  /-- What the data ports of the two legacy interrupt controllers read as. -/
  picMasks : UInt8 × UInt8
  vectors : Descriptor.VectorTable
  vectorsLoaded : Bool
  mainQueue : MainQueue
  space : Memory.AddressSpace
  /-- Whether register accesses go through the page tables. -/
  paging : Bool
  /-- What will wake the processor. -/
  script : List WakeUp
  /-- The threshold of the log. -/
  threshold : Log.Level
  /-- Something was sent on the serial line while interrupts were enabled. -/
  unmaskedSerial : Bool
  /-- What was seen so far, latest first. -/
  seen : List Event

namespace Machine

/-! ## Observation -/

/-- Adds an event to what was seen. -/
def note (machine : Machine) (event : Event) : Machine :=
  { machine with seen := event :: machine.seen }

/-- Everything that was seen, in order. -/
def trace (machine : Machine) : List Event := machine.seen.reverse

/-- What was seen after an earlier state of the same machine, in order. -/
def traceSince (machine earlier : Machine) : List Event :=
  machine.trace.drop earlier.seen.length

/-- Forgets what was seen. -/
def withoutTrace (machine : Machine) : Machine := { machine with seen := [] }

/-! ## Capabilities of an interrupt handler -/

def setInterrupts (machine : Machine) (enabled : Bool) : Machine :=
  { machine with interruptsEnabled := enabled }

/-- Sends an entry on the serial line. -/
def send (machine : Machine) (entry : Log.Entry) : Machine :=
  let sent := entry.lines.foldl (fun reached line => reached.note (.line line)) machine
  { sent with unmaskedSerial := machine.unmaskedSerial || machine.interruptsEnabled }

/-- Answers what writing to the serial line asks for. -/
def console : Environment Log.Console Machine
  | .interruptsEnabled, machine => (.ok machine.interruptsEnabled, machine)
  | .mask, machine => (.ok (), (machine.note .mask).setInterrupts false)
  | .unmask, machine => (.ok (), (machine.note .unmask).setInterrupts true)
  | .send entry, machine => (.ok (), machine.send entry)

/-- An access on the bus, with what is seen of it. -/
def access : Environment Mmio Machine
  | .read address, machine =>
    let (value, event, bus) := machine.bus.read address
    let reached := { machine with bus := bus }
    match event with
    | some event => (.ok value, reached.note (.bus event))
    | none => (.ok value, reached)
  | .write address value, machine =>
    let (event, bus) := machine.bus.write address value
    (.ok (), { machine with bus := bus }.note (.bus event))

/-- The address that an access goes to. -/
def addressOf : MmioRequest → UInt64
  | .read address => address
  | .write address _ => address

/-- Whether an access is allowed: without paging always, with paging on mapped pages. -/
def permits (machine : Machine) (address : UInt64) : Bool :=
  !machine.paging || machine.space.isMapped address

/-- An access to a register; without a mapped page it faults. -/
def mmio : Environment Mmio Machine := fun request machine =>
  if machine.permits (addressOf request) then
    access request machine
  else
    (.error (.pageFault (addressOf request)), machine.note (.pageFault (addressOf request)))

/-- Offers a message to the main queue. -/
def signal (machine : Machine) (message : Message) : Except Stop Unit × Machine :=
  let (outcome, queue) := machine.mainQueue.signal message
  (outcome.mapError .panic, { machine with mainQueue := queue })

/-- Answers what an interrupt handler asks for. -/
def context : Environment Context Machine
  | .console request, machine => console request machine
  | .mmio request, machine => mmio request machine
  | .signal message, machine => machine.signal message

/-! ## Interrupts -/

/-- The routine that an interrupt enters: its gate must be present and meant for interrupts. -/
def routine? (machine : Machine) (vector : UInt8) : Option Descriptor.Handler :=
  if machine.vectorsLoaded && machine.vectors.isPresent vector then
    (machine.vectors.entry vector).routine?.filter fun handler => handler != .doubleFault
  else
    none

/-- Runs a routine with interrupts masked; its return enables them. -/
def enter (machine : Machine) (handler : Descriptor.Handler) : Except Stop Unit × Machine :=
  let program := handler.routine.interpret (Context.writingLog machine.threshold)
  match program.run context (machine.setInterrupts false) with
  | (.ok _, reached) => (.ok (), reached.setInterrupts true)
  | (.error stop, reached) => (.error stop, reached)

/-- Delivers one interrupt. -/
def interrupt (machine : Machine) (vector : UInt8) : Except Stop Unit × Machine :=
  let arrived := machine.note (.interrupt vector)
  match arrived.routine? vector with
  | none => (.error (.noGate vector), arrived)
  | some handler => arrived.enter handler

/-- Delivers interrupts in order, until one ends the run. -/
def interrupts (machine : Machine) : List UInt8 → Except Stop Unit × Machine
  | [] => (.ok (), machine)
  | vector :: rest =>
    match machine.interrupt vector with
    | (.ok _, reached) => reached.interrupts rest
    | (.error stop, reached) => (.error stop, reached)

/-- Adds events to those that the controller will announce. -/
def addEvents (machine : Machine) (count : Nat) : Machine :=
  { machine with bus := { machine.bus with
    controller := machine.bus.controller.addEvents count } }

/-- Enables interrupts and halts; the script says what happens then. -/
def sleep (machine : Machine) : Except Stop Unit × Machine :=
  let halted := (machine.note .enableAndHalt).setInterrupts true
  match halted.script with
  | [] => (.error .asleep, halted)
  | wakeUp :: rest =>
    ({ halted with script := rest }.addEvents wakeUp.events).interrupts wakeUp.vectors

end Machine

end KernelStart
