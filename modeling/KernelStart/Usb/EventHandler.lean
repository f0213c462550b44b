import KernelStart.Queue.Message
import KernelStart.Usb.HostController

/-!
# Handling a controller interrupt

One message stands for at least one event, so the handler drains the controller:
it processes events as long as some are pending.  The number of events per message is
bounded, so that a controller which keeps raising events cannot keep the loop from
the rest of the queue.  An event that fails is logged and does not strand the events
behind it.
-/

set_option autoImplicit false

namespace KernelStart.Usb.EventHandler

open HostController

/-- At most this many events are processed for one message. -/
def eventsPerMessage : Nat := 64

/-- Processes one event and logs its failure. -/
def processOne : Program (Logged HostController) Unit := do
  match ← ask .processEvent with
  | .ok _ => pure ()
  | .error kind => .log .error s!"Error while ProcessEvent: {kind.name}"

/-- Processes events while some are pending, but no more than `limit`. -/
def drain : Nat → Program (Logged HostController) Unit
  | 0 => pure ()
  | limit + 1 => do
    if ← ask .eventPending then
      processOne
      drain limit
    else
      pure ()

/-- Without a controller there is nobody to ask. -/
def withoutController : Except Failure Unit := .error .notFound

/-- Handles a message. -/
def handle (hasController : Bool) :
    MessageKind → Program (Logged HostController) (Except Failure Unit)
  | .controllerInterrupt =>
    if hasController then do
      drain eventsPerMessage
      pure (.ok ())
    else
      pure withoutController

end KernelStart.Usb.EventHandler
