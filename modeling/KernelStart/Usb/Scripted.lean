import KernelStart.Usb.HostController

/-!
# Scripted controllers

Two stand-ins for a host controller.  `PendingEvents` only has events: processing one
takes it off the count, may add new ones, and returns a result from a list.
`RootPorts` only has root ports: what it says about each of them, and what each
configuration call returns, comes from a list; it remembers the calls.
-/

set_option autoImplicit false

namespace KernelStart.Usb

/-- A result from a list in which a gap or the end means success. -/
def scriptedResult (results : List (Option Failure)) (call : Nat) : Except Failure Unit :=
  match results[call]?.join with
  | some kind => .error kind
  | none => .ok ()

/-! ## Events only -/

/-- A controller with pending events. -/
structure PendingEvents where
  pending : Nat
  processed : Nat
  deriving DecidableEq, Repr, Inhabited

/-- What processing the events does: the result of each and how many it adds. -/
structure EventScript where
  results : List (Option Failure)
  adds : List Nat
  deriving DecidableEq, Repr, Inhabited

namespace PendingEvents

/-- Takes one event off the count and adds those that the script says it raises. -/
def process (script : EventScript) (controller : PendingEvents) : PendingEvents where
  pending := controller.pending - 1 + script.adds.getD controller.processed 0
  processed := controller.processed + 1

/-- A controller that has no root ports. -/
def environment (script : EventScript) : Environment HostController PendingEvents
  | .rootPortCount, controller => (.ok 0, controller)
  | .rootPort _, controller => (.ok (.error .indexOutOfRange), controller)
  | .configure _, controller => (.ok (.error .notImplemented), controller)
  | .eventPending, controller => (.ok (decide (controller.pending > 0)), controller)
  | .processEvent, controller =>
    (.ok (scriptedResult script.results controller.processed), controller.process script)

end PendingEvents

/-! ## Root ports only -/

/-- What a root port reports, and what configuring does. -/
structure RootPortScript where
  reports : List (Except Failure Bool)
  results : List (Option Failure)

namespace RootPortScript

/-- What the controller says about a root port. -/
def report (script : RootPortScript) (number : UInt8) : Except Failure RootPort :=
  match script.reports[number.toNat - 1]? with
  | some (.ok connected) => .ok ⟨number, connected⟩
  | some (.error kind) => .error kind
  | none => .error .indexOutOfRange

/-- A controller without events; its state is the list of root ports configured so far. -/
def environment (script : RootPortScript) : Environment HostController (List RootPort)
  | .rootPortCount, configured => (.ok (UInt8.ofNat script.reports.length), configured)
  | .rootPort number, configured => (.ok (script.report number), configured)
  | .configure rootPort, configured =>
    (.ok (scriptedResult script.results configured.length), configured ++ [rootPort])
  | .eventPending, configured => (.ok false, configured)
  | .processEvent, configured => (.ok (.ok ()), configured)

end RootPortScript

end KernelStart.Usb
