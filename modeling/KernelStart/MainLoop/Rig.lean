import KernelStart.MainLoop.Cycle
import KernelStart.Usb.EventHandler
import KernelStart.Usb.Scripted

/-!
# A simulated processor for the main loop

The rig is the surroundings of the loop: a queue, the interrupt flag, and the
interrupts that were raised while the flag was clear.  An interrupt raised while
interrupts are enabled is offered to the queue at once; while they are masked it
waits.  Enabling interrupts, with or without halting, delivers the waiting ones in
order.  A handler may raise interrupts of its own while it runs.

The rig records the processor requests that were made and the log entries that passed
the threshold.  It also keeps an account of the messages: all that were raised, and all
that arrived at the queue, each with how full the queue was and whether there was room.
-/

set_option autoImplicit false

namespace KernelStart.MainLoop

/-- A request to the processor that controls interrupts. -/
inductive CpuCall where
  | disable
  | enable
  | enableAndHalt
  deriving DecidableEq, Repr

/-- What a handler does with one message. -/
structure Response where
  raised : List Message
  logged : List Log.Entry
  result : Except Failure Unit

/-- A handler of messages with a state of its own. -/
structure Handler (η : Type) where
  handle : MessageKind → η → Response × η

namespace Handler

/-- A handler that follows a script; its state is the number of calls so far. -/
def scripted (results : List (Option Failure)) (during : List (List Message)) : Handler Nat where
  handle _ calls :=
    (⟨during.getD calls [], [], Usb.scriptedResult results calls⟩, calls + 1)

/-- The kernel's own handler over a controller that only has events, if there is one. -/
def draining (script : Usb.EventScript) : Handler (Option Usb.PendingEvents) where
  handle type controller :=
    let (outcome, (reached, logged)) :=
      (Usb.EventHandler.handle controller.isSome type).run
        (Log.collecting .debug (Usb.PendingEvents.environment script)) (controller.getD default, [])
    let result := match outcome with
      | .ok result => result
      | .error _ => .ok ()
    (⟨[], logged, result⟩, controller.map fun _ => reached)

end Handler

/-- A message that arrived at the queue. -/
structure Arrival where
  message : Message
  /-- The number of messages that it found in the queue. -/
  found : Nat
  /-- The queue had room for it. -/
  accepted : Bool
  deriving DecidableEq, Repr

/-- The surroundings of the loop. -/
structure Rig (η : Type) where
  queue : MessageQueue
  enabled : Bool
  waiting : List Message
  calls : List CpuCall
  emitted : List Log.Entry
  handlerState : η
  /-- Messages raised so far, latest first. -/
  raised : List Message
  /-- Messages that arrived at the queue so far, latest first. -/
  arrivals : List Arrival

namespace Rig

variable {η : Type}

/-- Interrupts enabled, nothing waiting, nothing recorded. -/
def start (queue : MessageQueue) (handlerState : η) : Rig η :=
  ⟨queue, true, [], [], [], handlerState, [], []⟩

/-- Offers a message to the queue. -/
def offer (rig : Rig η) (message : Message) : Rig η :=
  let (result, queue) := rig.queue.push message
  { rig with
    queue := queue
    arrivals := ⟨message, rig.queue.pending.size, result.isOk⟩ :: rig.arrivals }

/-- Offers messages to the queue in order. -/
def offerAll (rig : Rig η) (messages : List Message) : Rig η := messages.foldl offer rig

/-- Interrupts arrive: at the queue when they are enabled, else among the waiting. -/
def raise (rig : Rig η) (messages : List Message) : Rig η :=
  let noted := { rig with raised := messages.reverse ++ rig.raised }
  if rig.enabled then
    noted.offerAll messages
  else
    { noted with waiting := rig.waiting ++ messages }

/-- Sets the interrupt flag and delivers what was waiting. -/
def deliver (rig : Rig η) : Rig η :=
  { rig.offerAll rig.waiting with enabled := true, waiting := [] }

/-- The processor carries out one request and records it. -/
def call (rig : Rig η) : CpuCall → Rig η
  | .disable => { rig with enabled := false, calls := rig.calls ++ [.disable] }
  | .enable => { rig.deliver with calls := rig.calls ++ [.enable] }
  | .enableAndHalt => { rig.deliver with calls := rig.calls ++ [.enableAndHalt] }

/-- Keeps the entries that pass the threshold. -/
def emit (threshold : Log.Level) (rig : Rig η) (entries : List Log.Entry) : Rig η :=
  { rig with emitted := rig.emitted ++ entries.flatMap (·.emittedAt threshold) }

/-- Answers the requests of the loop. -/
def environment (threshold : Log.Level) (handler : Handler η) :
    Environment (Logged Loop) (Rig η)
  | .log entry, rig => (.ok (), rig.emit threshold [entry])
  | .plain .disable, rig => (.ok (), rig.call .disable)
  | .plain .enable, rig => (.ok (), rig.call .enable)
  | .plain .enableAndHalt, rig => (.ok (), rig.call .enableAndHalt)
  | .plain .pop, rig =>
    let (message, queue) := rig.queue.pop
    (.ok message, { rig with queue := queue })
  | .plain .takeDropCount, rig =>
    let (count, queue) := rig.queue.takeDropCount
    (.ok count, { rig with queue := queue })
  | .plain (.handle type), rig =>
    let (response, handlerState) := handler.handle type rig.handlerState
    let reached := (rig.raise response.raised).emit threshold response.logged
    (.ok response.result, { reached with handlerState := handlerState })

/-- One cycle of the loop on the rig. -/
def cycle (threshold : Log.Level) (handler : Handler η) (rig : Rig η) :
    Except Stop Outcome × Rig η :=
  MainLoop.cycle.run (environment threshold handler) rig

/-! ## Operations as values -/

/-- What can happen at the rig. -/
inductive Operation where
  | cycle
  | raise (messages : List Message)
  /-- Interrupts are disabled from outside the loop. -/
  | mask
  /-- Interrupts are enabled from outside the loop. -/
  | unmask
  | onQueue (operation : MessageQueue.Operation)

/-- What an operation at the rig reports. -/
inductive Reply where
  | outcome (outcome : Outcome)
  | nothing
  | fromQueue (reply : MessageQueue.Reply)

/-- Carries out one operation. -/
def perform (threshold : Log.Level) (handler : Handler η) (rig : Rig η) :
    Operation → Reply × Rig η
  | .cycle =>
    match rig.cycle threshold handler with
    | (.ok outcome, reached) => (.outcome outcome, reached)
    | (.error _, reached) => (.nothing, reached)
  | .raise messages => (.nothing, rig.raise messages)
  | .mask => (.nothing, rig.call .disable)
  | .unmask => (.nothing, rig.call .enable)
  | .onQueue operation =>
    let (reply, queue) := rig.queue.perform operation
    (.fromQueue reply, { rig with queue := queue })

/-- The rig with its records cleared. -/
def withoutRecords (rig : Rig η) : Rig η :=
  { rig with calls := [], emitted := [] }

end Rig

end KernelStart.MainLoop
