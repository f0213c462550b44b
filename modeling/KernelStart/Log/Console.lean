import KernelStart.Log.Entry

/-!
# Writing to the serial line

A message on the serial line must not be interrupted by a handler that writes there
too, so interrupts are masked while it is sent and restored afterwards.  A writer that
finds interrupts masked already leaves them alone.
-/

set_option autoImplicit false

namespace KernelStart.Log

/-- What writing to the serial line asks for. -/
inductive ConsoleRequest where
  | interruptsEnabled
  | mask
  | unmask
  | send (entry : Entry)
  deriving DecidableEq, Repr

/-- The interrupt flag and the serial line. -/
abbrev Console : Signature where
  Request := ConsoleRequest
  Answer
    | .interruptsEnabled => Bool
    | .mask => Unit
    | .unmask => Unit
    | .send _ => Unit

namespace Console

def ask (request : ConsoleRequest) : Program Console (Console.Answer request) :=
  @Program.request Console request

/-- Sends an entry with interrupts masked. -/
def send (entry : Entry) : Program Console Unit := do
  if ← ask .interruptsEnabled then
    ask .mask
    ask (.send entry)
    ask .unmask
  else
    ask (.send entry)

/-- Sends an entry if it passes the threshold. -/
def write (threshold : Level) (entry : Entry) : Program Console Unit :=
  if entry.level.passes threshold then send entry else pure ()

end Console

end KernelStart.Log
