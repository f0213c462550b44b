import KernelStart.MainLoop.Rig
import KernelStart.Program.Simulation

/-!
# Interrupts in the middle of a cycle

A history has interrupts arrive between the cycles of the loop.  They can arrive within a cycle
just as well, after any request of the loop and before the next one.  `Rig.interrupted` is the
surroundings in which this happens: the loop makes its requests one after the other, and just
before each of them a burst of interrupts is raised, which may be empty.  The bursts are given by
the number of the request, so every way to place interrupts within a cycle is a sequence of
bursts.

What the loop gets to see depends on the moment: while interrupts are enabled a burst is at the
queue at once, while they are masked it waits.  With empty bursts the loop has the same run as
without interrupts (`Rig.run_interrupted_silent`).
-/

set_option autoImplicit false

namespace KernelStart.MainLoop

/-- The part of a request that the processor carries out and records. -/
def Request.cpuCall? : Request → Option CpuCall
  | .disable => some .disable
  | .enable => some .enable
  | .enableAndHalt => some .enableAndHalt
  | .pop => none
  | .takeDropCount => none
  | .handle _ => none

namespace Rig

variable {η : Type}

/-- The surroundings of the loop with a burst of interrupts before each request; beside the rig
goes the number of requests made so far. -/
def interrupted (threshold : Log.Level) (handler : Handler η) (arriving : Nat → List Message) :
    Environment (Logged Loop) (Rig η × Nat) :=
  fun request (rig, made) =>
    let (answer, reached) := environment threshold handler request (rig.raise (arriving made))
    (answer, (reached, made + 1))

/-- An empty burst changes nothing. -/
theorem raise_nil (rig : Rig η) : rig.raise [] = rig := by
  unfold raise
  split
  · rfl
  · rw [List.append_nil]
    rfl

/-- Without interrupts a program has its run on the rig. -/
theorem run_interrupted_silent {α : Type} (threshold : Log.Level) (handler : Handler η)
    (program : Program (Logged Loop) α) (rig : Rig η) :
    (program.run (interrupted threshold handler fun _ => []) (rig, 0)).1 =
        (program.run (environment threshold handler) rig).1 ∧
      (program.run (interrupted threshold handler fun _ => []) (rig, 0)).2.1 =
        (program.run (environment threshold handler) rig).2 := by
  have agrees : Environment.Agrees (interrupted threshold handler fun _ => [])
      (environment threshold handler) (fun _ => True) fun state rig => state.1 = rig := by
    rintro request - ⟨rig, made⟩ _ rfl
    rw [interrupted, raise_nil]
    exact ⟨rfl, rfl⟩
  have start : ((rig, 0) : Rig η × Nat).1 = rig := rfl
  exact (Program.Asks.anything program).run_agrees agrees start

end Rig

end KernelStart.MainLoop
