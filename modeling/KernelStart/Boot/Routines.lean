import KernelStart.Boot.Kernel

/-!
# Interrupt routines

What the kernel does when it is entered through a gate.  The controller's routine does
the least possible: it leaves a message in the main queue and acknowledges the
interrupt, without logging and without taking memory.  A spurious interrupt is not
acknowledged.  A breakpoint is reported and execution goes on; a double fault cannot go
on.
-/

set_option autoImplicit false

namespace KernelStart.Descriptor.Handler

/-- What a routine does.  A double fault has nothing to return to. -/
def routine : Handler → Program (Logged Context) Unit
  | breakpoint => .log .warn "EXCEPTION: BREAKPOINT"
  | doubleFault => .panic .doubleFault
  | spurious => pure ()
  | controller => do
    Program.quiet (Context.ask (.signal (.ofType .controllerInterrupt)))
    Program.quiet (Context.mmio LocalApic.acknowledge)

end KernelStart.Descriptor.Handler
