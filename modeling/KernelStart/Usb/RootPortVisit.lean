import KernelStart.Program.Simulation
import KernelStart.Usb.RootHub

/-!
# Visits of root ports

A `Visit` is what a controller answers about one root port.  The controller is asked for the root
port, and if that is connected it is asked to configure it, with nothing in between
(`Visit.exchanges`).  Either answer may be a failure, and a failure has one entry in the log, with
the number of the root port (`Visit.reports`).

A controller may answer differently after every request.  Two controllers
`DifferInResults` at most if they say the same of their root ports, also after one of them
has configured a root port that the other one has failed to configure.
-/

set_option autoImplicit false

namespace KernelStart.Usb

/-- What a controller says of a root port, and of configuring it if that is connected. -/
inductive Finding where
  | refused (kind : Failure)
  | vacant (rootPort : RootPort) (unconnected : rootPort.connected = false)
  | configured (rootPort : RootPort) (connected : rootPort.connected = true)
      (result : Except Failure Unit)

/-- The number by which a root port is asked for, and what is found. -/
structure Visit where
  number : UInt8
  finding : Finding

namespace Visit

variable (visit : Visit)

/-- What the controller is asked, and its answers. -/
def exchanges : Conversation HostController :=
  match visit.finding with
  | .refused kind => [⟨.rootPort visit.number, .error kind⟩]
  | .vacant rootPort _ => [⟨.rootPort visit.number, .ok rootPort⟩]
  | .configured rootPort _ result =>
    [⟨.rootPort visit.number, .ok rootPort⟩, ⟨.configure rootPort, result⟩]

/-- What the controller is asked. -/
def calls : List HostController.Request :=
  visit.exchanges.map (·.request)

/-- The entry about a failure, if there is one. -/
def reports : List Log.Entry :=
  match visit.finding with
  | .refused kind => [⟨.error, s!"port {visit.number.toNat}: {kind.name}"⟩]
  | .vacant _ _ => []
  | .configured _ _ (.ok _) => []
  | .configured _ _ (.error kind) =>
    [⟨.error, s!"failed to configure port {visit.number.toNat}: {kind.name}"⟩]

/-- What is asked of the controller and handed to the log, in order. -/
def asked : List (LoggedRequest HostController) :=
  visit.calls.map (LoggedRequest.plain (S := HostController)) ++ visit.reports.map .log

end Visit

/-! ## Controllers that differ in their results -/

/-- Requests that are about the root ports and do not configure any. -/
def HostController.Request.Looks : HostController.Request → Prop
  | .rootPortCount => True
  | .rootPort _ => True
  | .configure _ => False
  | .eventPending => False
  | .processEvent => False

/-- In related states the controllers say the same of their root ports.  What configuring returns
may differ, and the states are related again after it. -/
structure DifferInResults {σ τ : Type} (first : Environment HostController σ)
    (second : Environment HostController τ) (related : σ → τ → Prop) : Prop where
  looks : first.Agrees second HostController.Request.Looks related
  configures : ∀ rootPort state other, related state other →
    related (first (.configure rootPort) state).2 (second (.configure rootPort) other).2

end KernelStart.Usb
