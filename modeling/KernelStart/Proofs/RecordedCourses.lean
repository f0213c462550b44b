import KernelStart.Boot.Course
import KernelStart.Machine.Startup

/-!
# The machine keeps to courses

What a machine is asked in a run of start-up and the main loop, and what it answers, is a course
(`Machine.exists_course`), however the run ends.  A machine tells its interrupt flag as
it is, and changes it where the requests change it (`Machine.flag_of_answered`).  The interrupts
that a halt lets in make no difference: a routine runs with the flag clear, and its return sets it
again.
-/

set_option autoImplicit false

namespace KernelStart.Machine

open Boot Program

/-! ## The interrupt flag of the machine -/

/-- Requests that leave the interrupt flag alone. -/
def KeepsFlag : KernelRequest → Prop
  | .context (.console _) => False
  | .enableAndHalt => False
  | _ => True

theorem mmio_interruptsEnabled (request : MmioRequest) (machine : Machine) :
    (mmio request machine).2.interruptsEnabled = machine.interruptsEnabled := by
  unfold mmio
  split
  · cases request with
    | read address =>
      unfold access
      dsimp only
      split <;> rfl
    | write address value => rfl
  · rfl

theorem kernel_interruptsEnabled {request : KernelRequest} (keeps : KeepsFlag request)
    (machine : Machine) :
    (kernel request machine).2.interruptsEnabled = machine.interruptsEnabled := by
  cases request with
  | context request =>
    cases request with
    | console request => exact keeps.elim
    | mmio request => exact mmio_interruptsEnabled request machine
    | signal message => rfl
  | bytePort request => cases request <;> rfl
  | widePort request =>
    cases request with
    | input number => rfl
    | output number value =>
      simp only [kernel, widePorts]
      split <;> rfl
  | mapper request => cases request <;> rfl
  | pop =>
    simp only [kernel, pop]
    split <;> rfl
  | takeDropCount =>
    simp only [kernel, takeDropCount]
    split <;> rfl
  | enableAndHalt => exact keeps.elim
  | _ => rfl

theorem send_interruptsEnabled (machine : Machine) (entry : Log.Entry) :
    (machine.send entry).interruptsEnabled = machine.interruptsEnabled := by
  have noted (lines : List String) (machine : Machine) :
      (lines.foldl (fun reached line => reached.note (.line line)) machine).interruptsEnabled =
        machine.interruptsEnabled := by
    induction lines generalizing machine with
    | nil => rfl
    | cons line rest ih => exact ih (machine.note (.line line))
  rw [send]
  exact noted entry.lines machine

/-- An interrupt that is delivered returns with the flag set. -/
theorem interrupt_interruptsEnabled {vector : UInt8} {machine reached : Machine}
    (delivered : machine.interrupt vector = (.ok (), reached)) :
    reached.interruptsEnabled = true := by
  simp only [interrupt] at delivered
  split at delivered
  · cases delivered
  · simp only [enter] at delivered
    split at delivered
    · cases delivered
      rfl
    · cases delivered

theorem interrupts_interruptsEnabled {vectors : List UInt8} {machine reached : Machine}
    (enabled : machine.interruptsEnabled = true)
    (delivered : machine.interrupts vectors = (.ok (), reached)) :
    reached.interruptsEnabled = true := by
  induction vectors generalizing machine with
  | nil =>
    cases delivered
    exact enabled
  | cons vector rest ih =>
    rw [interrupts] at delivered
    split at delivered
    · next next first => exact ih (interrupt_interruptsEnabled first) delivered
    · cases delivered

/-- A halt with interrupts enabled ends with interrupts enabled. -/
theorem sleep_interruptsEnabled {machine reached : Machine}
    (woken : machine.sleep = (.ok (), reached)) : reached.interruptsEnabled = true := by
  simp only [sleep] at woken
  split at woken
  · cases woken
  · exact interrupts_interruptsEnabled rfl woken

/-- The machine tells its interrupt flag as it is, and an answered request leaves it as the exchange
says. -/
theorem flag_of_answered {request : KernelRequest} {answer : Kernel.Answer request}
    {machine reached : Machine} (answered : kernel request machine = (.ok answer, reached)) :
    Tells machine.interruptsEnabled ⟨request, answer⟩ ∧
      reached.interruptsEnabled = flagBehind machine.interruptsEnabled ⟨request, answer⟩ := by
  have kept (keeps : KeepsFlag request) :
      reached.interruptsEnabled = machine.interruptsEnabled := by
    rw [← kernel_interruptsEnabled keeps machine, answered]
  have unchanged : machine.interruptsEnabled = (machine.interruptsEnabled || false) :=
    (Bool.or_false _).symm
  cases request with
  | context request =>
    cases request with
    | console request =>
      cases request with
      | interruptsEnabled =>
        cases answered
        exact ⟨rfl, unchanged⟩
      | mask =>
        cases answered
        exact ⟨trivial, rfl⟩
      | unmask =>
        cases answered
        exact ⟨trivial, (Bool.or_true _).symm⟩
      | send entry =>
        simp only [kernel, context, console, Prod.mk.injEq] at answered
        obtain ⟨-, rfl⟩ := answered
        exact ⟨trivial, (send_interruptsEnabled machine entry).trans unchanged⟩
    | mmio request => exact ⟨trivial, (kept trivial).trans unchanged⟩
    | signal message => exact ⟨trivial, (kept trivial).trans unchanged⟩
  | enableAndHalt => exact ⟨trivial, (sleep_interruptsEnabled answered).trans (Bool.or_true _).symm⟩
  | _ => exact ⟨trivial, (kept trivial).trans unchanged⟩

/-! ## Courses of the machine -/

theorem truthful_of_answers {machine reached : Machine} {conversation : Conversation Kernel}
    (answers : Answers kernel machine conversation reached) :
    Truthful machine.interruptsEnabled conversation := by
  induction answers with
  | nil _ => trivial
  | cons answered _ ih =>
    obtain ⟨tells, flag⟩ := flag_of_answered answered
    exact ⟨tells, flag ▸ ih⟩

/-- A run of start-up and the main loop, on a machine with interrupts masked, records a course. -/
theorem exists_course (machine : Machine) (masked : machine.interruptsEnabled = false)
    (turns : Nat) :
    ∃ course : Boot.Course turns,
      ((bootOnSerial turns).run (recording kernel) (machine, [])).2.2 =
        course.conversation.reverse := by
  obtain ⟨conversation, rest, reached, kept, reaches, answers, -⟩ :=
    reaches_of_run_recording kernel (bootOnSerial turns) machine []
  have truthful := truthful_of_answers answers
  rw [masked] at truthful
  exact ⟨⟨conversation, rest, reaches, truthful⟩, kept.trans (List.append_nil _)⟩

end KernelStart.Machine
