import KernelStart.Usb.HostController

/-!
# Configuring the connected root ports

Every root port is looked at once, in ascending order, and configured at once if it
is connected.  A failure is logged under the number of the root port and has no
influence on the ones after it.  The number of root ports is asked once, up front, and
the numbers run from one to that count, which may be the largest byte.
-/

set_option autoImplicit false

namespace KernelStart.Usb.RootHub

open HostController

/-- Looks at one root port and configures it if something is connected. -/
def visit (number : UInt8) : Program (Logged HostController) Unit := do
  match ← ask (.rootPort number) with
  | .error kind => .log .error s!"port {number.toNat}: {kind.name}"
  | .ok rootPort =>
    if rootPort.connected then
      match ← ask (.configure rootPort) with
      | .error kind => .log .error s!"failed to configure port {number.toNat}: {kind.name}"
      | .ok _ => pure ()
    else
      pure ()

/-- Visits root ports one after another. -/
def visitAll : List UInt8 → Program (Logged HostController) Unit
  | [] => pure ()
  | number :: rest => do
    visit number
    visitAll rest

/-- The numbers of `count` root ports. -/
def numbers (count : UInt8) : List UInt8 :=
  (List.range count.toNat).map fun position => UInt8.ofNat (position + 1)

/-- Configures every connected root port of the controller. -/
def configureConnected : Program (Logged HostController) Unit := do
  visitAll (numbers (← ask .rootPortCount))

end KernelStart.Usb.RootHub
