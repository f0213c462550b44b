import KernelStart.Failure
import KernelStart.Log.Entry

/-!
# What the rest of the kernel needs from a host controller

Once a controller runs, the kernel looks at its root ports and acknowledges its
events.  The five requests here are all it needs, so everything that is built on them
works with the register-level controller, with a scripted one, and with one whose
answers change while it is being configured.
-/

set_option autoImplicit false

namespace KernelStart.Usb

/-- A root port as the controller reports it; numbers start at one. -/
structure RootPort where
  number : UInt8
  connected : Bool
  deriving DecidableEq, Repr, Inhabited

namespace HostController

/-- Requests to a running controller. -/
inductive Request where
  | rootPortCount
  | rootPort (number : UInt8)
  | configure (rootPort : RootPort)
  | eventPending
  | processEvent
  deriving DecidableEq, Repr

end HostController

/-- The signature of a running controller. -/
abbrev HostController : Signature where
  Request := HostController.Request
  Answer
    | .rootPortCount => UInt8
    | .rootPort _ => Except Failure RootPort
    | .configure _ => Except Failure Unit
    | .eventPending => Bool
    | .processEvent => Except Failure Unit

namespace HostController

/-- Asks one request of a controller. -/
def ask (request : Request) :
    Program (Logged HostController) (HostController.Answer request) :=
  Program.quiet (@Program.request HostController request)

end HostController

end KernelStart.Usb
