import KernelStart.Machine.Bus
import KernelStart.Usb.EventHandler
import KernelStart.Usb.Registers
import KernelStart.Usb.RootHub

/-!
# A controller on the bench

The register-level controller, attached to a model of its hardware, can be exercised one
operation at a time.  Besides the operations of the controller itself, the root ports
can be configured, a message can be handled, after which the controller is located
anew, and registers can be changed behind its back.
-/

set_option autoImplicit false

namespace KernelStart.Usb

/-- A located controller and the bus that it lies on. -/
structure Bench where
  controller : Controller
  bus : Machine.Bus

namespace Bench

/-- What can be done on the bench. -/
inductive Operation where
  | reset
  | start
  | rootPortCount
  | rootPort (number : UInt8)
  | configure (number : UInt8)
  | eventPending
  | processEvent
  | configureConnected
  | handleMessage
  | poke (offset : Nat) (value : UInt32)
  | contents
  deriving DecidableEq, Repr

/-- What an operation reports. -/
inductive Reply where
  | result (result : Except Failure Unit)
  | count (value : UInt8)
  | rootPort (result : Except Failure RootPort)
  | truth (value : Bool)
  | nothing
  | contents (registers : List (Nat × UInt32))

/-- Locates the controller at the base of its window. -/
def attach (bus : Machine.Bus) : Except Stop Bench × Machine.Bus :=
  let (located, reached) := (Controller.locate bus.controller.base).run Machine.Bus.environment bus
  (located.map fun controller => ⟨controller, reached⟩, reached)

/-- The program of an operation. -/
def program (controller : Controller) : Operation → Program (Logged Mmio) (Controller × Reply)
  | .reset => return (controller, .result (← controller.reset.quiet))
  | .start => return (controller, .result (← controller.start.quiet))
  | .rootPortCount => return (controller, .count (← controller.rootPortCount.quiet))
  | .rootPort number => return (controller, .rootPort (← (controller.rootPort number).quiet))
  | .configure number =>
    return (controller, .result (← (controller.serve (.configure ⟨number, true⟩)).quiet))
  | .eventPending => return (controller, .truth (← controller.eventPending.quiet))
  | .processEvent => return (controller, .result (← (controller.serve .processEvent).quiet))
  | .configureConnected => do
    controller.serveLogged RootHub.configureConnected
    return (controller, .nothing)
  | .handleMessage => do
    let result ← controller.serveLogged (EventHandler.handle true .controllerInterrupt)
    return (← (Controller.locate controller.capability).quiet, .result result)
  | .poke _ _ => return (controller, .nothing)
  | .contents => return (controller, .nothing)

/-- Carries out one operation and returns the log entries that pass the threshold. -/
def perform (threshold : Log.Level) (bench : Bench) (operation : Operation) :
    Except Stop Reply × List Log.Entry × Bench :=
  match operation with
  | .poke offset value =>
    (.ok .nothing, [], { bench with bus := { bench.bus with
      controller := bench.bus.controller.poke offset value } })
  | .contents => (.ok (.contents bench.bus.controller.contents), [], bench)
  | operation =>
    match (program bench.controller operation).run
        (Log.collecting threshold Machine.Bus.environment) (bench.bus, []) with
    | (.ok (controller, reply), (bus, emitted)) => (.ok reply, emitted, ⟨controller, bus⟩)
    | (.error stop, (bus, emitted)) => (.error stop, emitted, { bench with bus := bus })

/-- The bench with the records of its controller cleared. -/
def withoutRecords (bench : Bench) : Bench :=
  { bench with bus := { bench.bus with controller := bench.bus.controller.withoutRecords } }

end Bench

end KernelStart.Usb
