import KernelStart.Program.Requests

/-!
# Programs that come to a value

`Program.Concludes` says of a program that it comes to a value as long as what it asks is
answered: it asks only what is allowed, and no answer leads to a panic.  What is known of the
value may depend on the requests that were made on the way.  Like `Program.Obeys` it is a
property of the program alone and follows the way programs are put together, but a program that
panics does not have it.  `Program.Returns` is the case in which everything is allowed and
nothing need be known of the value.

In an environment that answers what is allowed, such a program comes to a value
(`Concludes.run_ok`).  An environment that ends runs without panicking can at most end it in
its own way (`Concludes.not_panic`).
-/

set_option autoImplicit false

namespace KernelStart

variable {S T : Signature} {σ α β : Type}

/-- Requests of the given kind are answered. -/
def Environment.Serves (environment : Environment S σ) (allowed : S.Request → Prop) : Prop :=
  ∀ request, allowed request → ∀ state, ∃ answer reached,
    environment request state = (.ok answer, reached)

/-- No request makes the environment itself panic; it may end a run in any other way. -/
def Environment.NeverPanics (environment : Environment S σ) : Prop :=
  ∀ request state cause, (environment request state).1 ≠ .error (.panic cause)

namespace Program

/-- The program asks only what is allowed, and whatever the answers are it comes to a value that is
good after the requests that it made. -/
def Concludes (allowed : S.Request → Prop) :
    Program S α → (List S.Request → α → Prop) → Prop
  | .done value, good => good [] value
  | .ask request resume, good => allowed request ∧
      ∀ answer, (resume answer).Concludes allowed fun later value => good (request :: later) value
  | .panic _, _ => False

namespace Concludes

variable {allowed : S.Request → Prop} {permitted : T.Request → Prop}
  {good : List S.Request → α → Prop}

theorem request {r : S.Request} (isAllowed : allowed r) :
    (Program.request r).Concludes allowed fun _ _ => True :=
  ⟨isAllowed, fun _ => trivial⟩

theorem mono {better : List S.Request → α → Prop}
    (implied : ∀ made value, good made value → better made value) {program : Program S α}
    (concludes : program.Concludes allowed good) : program.Concludes allowed better := by
  induction program generalizing good better with
  | done value => exact implied [] value concludes
  | panic _ => exact concludes
  | ask request resume ih =>
    exact ⟨concludes.1, fun answer => ih answer (fun made => implied (request :: made))
      (concludes.2 answer)⟩

/-- A program that concludes asks only what is allowed. -/
theorem asks {program : Program S α} (concludes : program.Concludes allowed good) :
    program.Asks allowed := by
  induction program generalizing good with
  | done _ => trivial
  | panic _ => trivial
  | ask _ _ ih => exact ⟨concludes.1, fun answer _ => ih answer (concludes.2 answer)⟩

/-- A sequence concludes if its second part does after every value of the first. -/
theorem bind {result : List S.Request → β → Prop} {program : Program S α}
    {next : α → Program S β} (first : program.Concludes allowed good)
    (second : ∀ made value, good made value →
      (next value).Concludes allowed fun later => result (made ++ later)) :
    (program.bind next).Concludes allowed result := by
  induction program generalizing good result with
  | done value => exact second [] value first
  | panic _ => exact first
  | ask request resume ih =>
    exact ⟨first.1, fun answer => ih answer (first.2 answer) fun made =>
      second (request :: made)⟩

/-- A program concludes if what its requests mean does. -/
theorem interpret {meaning : (request : S.Request) → Program T (S.Answer request)}
    {good : α → Prop}
    (means : ∀ request, allowed request → (meaning request).Concludes permitted fun _ _ => True)
    {program : Program S α} (concludes : program.Concludes allowed fun _ => good) :
    (program.interpret meaning).Concludes permitted fun _ => good := by
  induction program with
  | done _ => exact concludes
  | panic _ => exact concludes
  | ask request _ ih =>
    exact (means request concludes.1).bind fun _ answer _ => ih answer (concludes.2 answer)

end Concludes

/-- Whatever it is answered, the program comes to a value. -/
def Returns (program : Program S α) : Prop :=
  program.Concludes (fun _ => True) fun _ _ => True

namespace Returns

theorem done (value : α) : (.done value : Program S α).Returns := trivial

theorem request (r : S.Request) : (Program.request r).Returns :=
  Concludes.request trivial

theorem bind {program : Program S α} {next : α → Program S β} (first : program.Returns)
    (second : ∀ value, (next value).Returns) : (program.bind next).Returns :=
  Concludes.bind first fun _ value _ => second value

/-- A program that returns does so whatever its requests mean, if they do. -/
theorem interpret {permitted : T.Request → Prop}
    {meaning : (request : S.Request) → Program T (S.Answer request)}
    (means : ∀ request, (meaning request).Concludes permitted fun _ _ => True)
    {program : Program S α} (returns : program.Returns) :
    (program.interpret meaning).Concludes permitted fun _ _ => True :=
  Concludes.interpret (fun request _ => means request) returns

end Returns

/-! ## Running such a program -/

namespace Concludes

variable {allowed : S.Request → Prop} {good : List S.Request → α → Prop}

/-- Where requests are answered, the program comes to a good value. -/
theorem run_ok {environment : Environment S σ} (serves : environment.Serves allowed)
    {program : Program S α} (concludes : program.Concludes allowed good) (state : σ) :
    ∃ value reached, program.run environment state = (.ok value, reached) ∧
      good (program.requests environment state) value := by
  induction program generalizing good state with
  | done value => exact ⟨value, state, rfl, concludes⟩
  | panic _ => exact concludes.elim
  | ask request resume ih =>
    obtain ⟨answer, next, answered⟩ := serves request concludes.1 state
    obtain ⟨value, reached, ran, isGood⟩ := ih answer (concludes.2 answer) next
    refine ⟨value, reached, ?_, ?_⟩
    · rw [run, answered]
      exact ran
    · rw [requests, moments, answered]
      exact isGood

/-- A panic of a run would be one of the environment. -/
theorem not_panic {environment : Environment S σ} (neverPanics : environment.NeverPanics)
    {program : Program S α} (concludes : program.Concludes allowed good) (state : σ)
    (cause : Panic) : (program.run environment state).1 ≠ .error (.panic cause) := by
  induction program generalizing good state with
  | done _ => exact fun ended => nomatch ended
  | panic _ => exact concludes.elim
  | ask request resume ih =>
    have kept := neverPanics request state cause
    rw [run]
    split
    · next answer next _ => exact ih answer (concludes.2 answer) next
    · next stop _ answered =>
      rw [answered] at kept
      exact fun ended => kept (congrArg Except.error (Except.error.inj ended))

end Concludes

end Program

end KernelStart
