import KernelStart.Machine.VectorBench
import KernelStart.Program.Requests

/-!
# Histories of the vector tables and the main queue

A history is any sequence of what can happen around the installed vector table and the
main queue: the table is loaded, the queue is created, the controller's vector is armed in
the installed table or in one of its own, interrupts arrive, and the queue is drained from
its consuming end.  The order is arbitrary.

Arming needs a handle of the main queue.  There is one as soon as the queue is created and
ever after, so an attempt before that is no arming at all and changes nothing.

`VectorBench.live` carries out a history and collects what is observed.  What a delivered
interrupt asks of the machine can be told from `Machine.interruptRequests`.
-/

set_option autoImplicit false

namespace KernelStart

/-- Somebody can hold a handle of the queue. -/
def MainQueue.hasHandle : MainQueue → Bool
  | absent => false
  | created _ => true
  | poisoned => false

/-- The messages that are queued and those counted as dropped. -/
def MainQueue.held : MainQueue → Nat
  | absent => 0
  | created queue => queue.toList.length + queue.dropped
  | poisoned => 0

namespace Machine

open Descriptor

/-- The requests that the routine of an interrupt makes; none if there is no way to it. -/
def interruptRequests (machine : Machine) (vector : UInt8) : List ContextRequest :=
  let arrived := machine.note (.interrupt vector)
  match arrived.routine? vector with
  | none => []
  | some handler =>
    (handler.routine.interpret (Context.writingLog arrived.threshold)).requests context
      (arrived.setInterrupts false)

/-- Where interrupts are acknowledged. -/
def endOfInterrupt : UInt64 := LocalApic.base + LocalApic.endOfInterruptOffset

/-- What an interrupt on a vector comes to.  Without a way to a routine it is a fault that reaches
neither the main queue nor a device.  The controller's routine offers its message to the main
queue and then acknowledges the interrupt; the other routines do no more than write to the
serial line. -/
structure AnswersInterrupt (machine : Machine) (vector : UInt8) : Prop where
  delivered_iff : (machine.interrupt vector).1 = .ok () ↔
    machine.vectorsLoaded = true ∧ machine.vectors.isPresent vector = true
  fault : (machine.interrupt vector).1 ≠ .ok () →
    (machine.interrupt vector).1 = .error (.noGate vector) ∧
      machine.interruptRequests vector = [] ∧
      (machine.interrupt vector).2.mainQueue = machine.mainQueue ∧
      (machine.interrupt vector).2.bus = machine.bus
  signal : (machine.interrupt vector).1 = .ok () → vector = Handler.controller.vector →
    machine.interruptRequests vector =
        [.signal (.ofType .controllerInterrupt), .mmio (.write endOfInterrupt 0)] ∧
      ∃ queue, machine.mainQueue = .created queue ∧
        (machine.interrupt vector).2.mainQueue =
          .created (queue.push (.ofType .controllerInterrupt)).2 ∧
        (machine.interrupt vector).2.bus = (machine.bus.write endOfInterrupt 0).2
  quiet : (machine.interrupt vector).1 = .ok () → vector ≠ Handler.controller.vector →
    (∀ request ∈ machine.interruptRequests vector, ∃ written, request = .console written) ∧
      (machine.interrupt vector).2.mainQueue = machine.mainQueue ∧
      (machine.interrupt vector).2.bus = machine.bus

/-- Before start-up has done anything about interrupts: the installed table is as it was built and
not loaded, there is no main queue, and interrupts can be acknowledged. -/
structure AtBoot (machine : Machine) : Prop where
  vectors_eq : machine.vectors = .atBoot
  notLoaded : machine.vectorsLoaded = false
  queue_eq : machine.mainQueue = .absent
  permits : machine.permits endOfInterrupt = true

namespace VectorBench

/-- What can happen to the vector tables and the main queue. -/
inductive Stimulus where
  /-- The installed table is loaded. -/
  | load
  | createQueue (capacity : Nat)
  /-- Arms the controller's vector in the installed table. -/
  | arm
  /-- Arms the controller's vector in the fresh table. -/
  | armFresh
  /-- An interrupt; double faults are raised by nobody but the processor. -/
  | interrupt (vector : UInt8) (ordinary : vector ≠ Handler.doubleFault.vector)
  | pop
  | takeDropCount

/-- What is observed of a stimulus. -/
inductive Observation where
  | nothing
  /-- The controller's vector was armed in the installed table. -/
  | armed
  /-- The routine of an interrupt ran to its end. -/
  | delivered (vector : UInt8)
  /-- An interrupt found no way to a routine, or its routine did not come to an end. -/
  | faulted (vector : UInt8)
  | popped (message : Option Message)
  | taken (count : Nat)
  deriving DecidableEq, Repr

namespace Observation

/-- Whether a controller interrupt was delivered. -/
def controllerInterrupts : Observation → Nat
  | delivered vector => if vector = Handler.controller.vector then 1 else 0
  | _ => 0

/-- How many messages were taken from the queue. -/
def poppedMessages : Observation → Nat
  | popped (some _) => 1
  | _ => 0

/-- How many dropped messages were taken off the count. -/
def takenDrops : Observation → Nat
  | taken count => count
  | _ => 0

end Observation

/-- The bench with another machine. -/
def withMachine (bench : VectorBench) (machine : Machine) : VectorBench :=
  { bench with machine := machine }

/-- What happens on a stimulus. -/
def react (bench : VectorBench) : Stimulus → Observation × VectorBench
  | .load => (.nothing, bench.withMachine (bench.machine.execute Boot.loadVectors).2)
  | .createQueue capacity =>
    (.nothing, bench.withMachine (bench.machine.createQueue capacity).2)
  | .arm =>
    if bench.machine.mainQueue.hasHandle then
      (.armed, bench.withMachine (bench.machine.execute (Kernel.setupAccess .arm)).2)
    else
      (.nothing, bench)
  | .armFresh =>
    if bench.machine.mainQueue.hasHandle then
      (.nothing, { bench with fresh := bench.fresh.install .controller })
    else
      (.nothing, bench)
  | .interrupt vector _ =>
    match bench.machine.interrupt vector with
    | (.ok _, reached) => (.delivered vector, bench.withMachine reached)
    | (.error _, reached) => (.faulted vector, bench.withMachine reached)
  | .pop =>
    match bench.machine.pop with
    | (.ok message, reached) => (.popped message, bench.withMachine reached)
    | (.error _, reached) => (.nothing, bench.withMachine reached)
  | .takeDropCount =>
    match bench.machine.takeDropCount with
    | (.ok count, reached) => (.taken count, bench.withMachine reached)
    | (.error _, reached) => (.nothing, bench.withMachine reached)

/-- Carries out a history and collects what is observed. -/
def live (bench : VectorBench) : List Stimulus → List Observation × VectorBench
  | [] => ([], bench)
  | stimulus :: rest =>
    let (observation, reached) := bench.react stimulus
    let (observations, last) := reached.live rest
    (observation :: observations, last)

end VectorBench

end Machine

end KernelStart
