import KernelStart.Log.Entry
import KernelStart.Queue.Message

/-!
# The main loop

One cycle of the loop masks interrupts, takes a message and unmasks them again before
any work is done, so that the masked window is as short as one removal.  When the
queue is empty the processor is put to sleep by a single request that enables
interrupts and halts with nothing in between: an interrupt that became pending after
the queue was found empty still wakes it.

The loop is written over its own small signature.  It controls the interrupt flag,
takes messages and drop counts, and hands known messages to a handler whose answer is
only ever reported.
-/

set_option autoImplicit false

namespace KernelStart.MainLoop

/-- What the main loop asks of its surroundings. -/
inductive Request where
  | disable
  | enable
  | enableAndHalt
  | pop
  | takeDropCount
  | handle (message : MessageKind)
  deriving DecidableEq, Repr

/-- The signature of the main loop. -/
abbrev Loop : Signature where
  Request := Request
  Answer
    | .disable => Unit
    | .enable => Unit
    | .enableAndHalt => Unit
    | .pop => Option Message
    | .takeDropCount => Nat
    | .handle _ => Except Failure Unit

/-- What one cycle came to. -/
inductive Outcome where
  /-- The queue was empty and the processor slept until an interrupt. -/
  | idle
  | handled (message : Message)
  deriving DecidableEq, Repr

/-- Asks one request of the loop's signature. -/
def ask (request : Request) : Program (Logged Loop) (Loop.Answer request) :=
  Program.quiet (@Program.request Loop request)

/-- Reports the messages that were turned away since the last report, if there are any. -/
def reportDropped (count : Nat) : Program (Logged Loop) Unit :=
  if count > 0 then
    .log .warn s!"main queue full: {count} message(s) dropped"
  else
    pure ()

/-- Hands a message to the handler, or reports that nobody knows it. -/
def deliver (message : Message) : Program (Logged Loop) Unit :=
  match message.type? with
  | none => .log .error s!"Unknown message type: {message.tag.toNat}"
  | some type => do
    match ← ask (.handle type) with
    | .ok _ => pure ()
    | .error kind => .log .error s!"Error while handling {type.name}: {kind.name}"

/-- One cycle of the loop. -/
def cycle : Program (Logged Loop) Outcome := do
  ask .disable
  match ← ask .pop with
  | none =>
    ask .enableAndHalt
    pure .idle
  | some message =>
    ask .enable
    reportDropped (← ask .takeDropCount)
    deliver message
    pure (.handled message)

end KernelStart.MainLoop
