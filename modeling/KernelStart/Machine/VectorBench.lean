import KernelStart.Machine.Startup

/-!
# Vector tables on the bench

Two vector tables can be exercised one operation at a time: a fresh one of its own, and
the one that the machine has installed.  Interrupts go through the installed table once
it is loaded.  Arming the controller's vector needs a main queue, which is created on
demand.
-/

set_option autoImplicit false

namespace KernelStart.Machine

open Descriptor

/-- A fresh vector table beside a machine. -/
structure VectorBench where
  fresh : VectorTable
  machine : Machine

namespace VectorBench

/-- What can be done on the bench. -/
inductive Operation where
  | set (vector : UInt8) (gate : Gate)
  | entry (vector : UInt8)
  | present
  | lastByte
  /-- Arms the controller's vector in the fresh table. -/
  | armFresh
  /-- Arms the controller's vector in the installed table. -/
  | arm
  | isArmed (vector : UInt8)
  /-- Loads the installed table. -/
  | load
  | installed (vector : UInt8)
  /-- Halts with interrupts enabled and raises the given vectors. -/
  | interrupt (vectors : List UInt8)
  /-- Empties the main queue and takes its drop count. -/
  | drain

/-- What an operation reports. -/
inductive Reply where
  | vectors (vectors : List UInt8)
  | entry (entry : VectorEntry)
  | lastByte (value : UInt16)
  | truth (value : Bool)
  | lines (lines : List String)
  | trace (events : List Event)
  | interrupted (outcome : Except Stop Unit) (events : List Event) (lines : List String)
  | drained (content : Option (List Message × Nat))

/-- A fresh table beside a machine at its start. -/
def start (machine : Machine) : VectorBench := ⟨.empty, machine⟩

/-- The capacity of a main queue that is created on demand. -/
def queueCapacity : Nat := 8

/-- Creates the main queue if there is none. -/
def ensureQueue (machine : Machine) : Machine :=
  match machine.mainQueue with
  | .absent => (machine.createQueue queueCapacity).2
  | _ => machine

/-- Reports what was seen and forgets it. -/
def takeTrace (machine : Machine) : List Event × Machine :=
  (machine.trace, machine.withoutTrace)

/-- Arms the controller's vector in the installed table. -/
def arm (machine : Machine) : List String × Machine :=
  let ready := ensureQueue machine
  let (_, armed) := ready.execute (Kernel.setupAccess .arm)
  (Event.lines (armed.traceSince ready), armed)

/-- Halts with interrupts enabled and raises the given vectors. -/
def raise (machine : Machine) (vectors : List UInt8) : Reply × Machine :=
  let ready := { machine with script := [⟨0, vectors⟩] }
  let (outcome, reached) := ready.execute (Kernel.ask .enableAndHalt)
  let (events, quiet) := takeTrace reached
  (.interrupted outcome events (Event.lines (reached.traceSince ready)), quiet)

/-- Carries out one operation. -/
def perform (bench : VectorBench) : Operation → Reply × VectorBench
  | .set vector gate =>
    let fresh := bench.fresh.set vector gate
    (.vectors fresh.presentVectors, { bench with fresh := fresh })
  | .entry vector => (.entry (bench.fresh.entry vector), bench)
  | .present => (.vectors bench.fresh.presentVectors, bench)
  | .lastByte => (.lastByte VectorTable.lastByte, bench)
  | .armFresh =>
    let fresh := bench.fresh.install .controller
    (.vectors fresh.presentVectors, ⟨fresh, ensureQueue bench.machine⟩)
  | .arm =>
    let (lines, machine) := arm bench.machine
    (.lines lines, { bench with machine := machine })
  | .isArmed vector => (.truth (bench.machine.vectors.isPresent vector), bench)
  | .load =>
    let (_, loaded) := bench.machine.execute Boot.loadVectors
    let (events, quiet) := takeTrace loaded
    (.trace events, { bench with machine := quiet })
  | .installed vector => (.entry (bench.machine.vectors.entry vector), bench)
  | .interrupt vectors =>
    let (reply, machine) := raise bench.machine vectors
    (reply, { bench with machine := machine })
  | .drain =>
    let (content, queue) := bench.machine.mainQueue.drain
    (.drained content, { bench with machine := { bench.machine with mainQueue := queue } })

end VectorBench

end KernelStart.Machine
