import KernelStart.Machine.Startup

/-!
# The log on the bench

The threshold can be changed and asked, levels can be compared, and entries can be
written with the interrupt flag in a chosen state.
-/

set_option autoImplicit false

namespace KernelStart.Machine.SerialBench

open Log (Level Entry)

/-- What can be done with the log. -/
inductive Operation where
  | setThreshold (level : Level)
  | isEnabled (level : Level)
  | compare (left right : Level)
  | write (entry : Entry) (interruptsEnabled : Bool)
  deriving DecidableEq, Repr

/-- What an operation reports. -/
inductive Reply where
  | code (value : Nat)
  | truth (value : Bool)
  | compared (isLower isEqual : Bool) (left right : Nat)
  | written (events : List Event) (interruptsEnabled unmaskedSerial : Bool)
  deriving DecidableEq, Repr

/-- Writes an entry with the interrupt flag in the given state. -/
def write (machine : Machine) (entry : Entry) (interruptsEnabled : Bool) : Machine :=
  let ready := machine.setInterrupts interruptsEnabled
  (ready.execute (Program.log entry.level entry.text)).2

/-- Carries out one operation. -/
def perform (machine : Machine) : Operation → Reply × Machine
  | .setThreshold level => (.code level.code, { machine with threshold := level })
  | .isEnabled level => (.truth (level.passes machine.threshold), machine)
  | .compare left right =>
    (.compared (decide (left < right)) (left == right) left.code right.code, machine)
  | .write entry interruptsEnabled =>
    let written := write machine.withoutTrace entry interruptsEnabled
    (.written written.trace written.interruptsEnabled written.unmaskedSerial, written)

end KernelStart.Machine.SerialBench
