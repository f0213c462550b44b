import KernelStart.Stop

/-!
# Programs as data

Start-up code spends its time asking: a configuration register for its content, a
control register to change, the processor to mask interrupts.  A `Program` is that
conversation written down as a value.  It either has its result, or it asks one
request and goes on with whatever the answer is, or it panics.

The requests a program may make are fixed by its `Signature`, so the type of a
program says what it can touch: a walk over configuration space that only reads
cannot write, whatever answers it is given.  Meaning is supplied separately, by an
`Environment` that answers requests and keeps a state.  One program can therefore
be run on a register file, through the I/O ports of a simulated machine, or against
answers chosen by an adversary.

* `Program.run` executes a program in an environment;
* `Program.interpret` replaces every request by a program over another signature,
  which is how code for one capability becomes part of a larger whole;
* `run_bind` and `run_interpret` say that both respect sequencing.
-/

set_option autoImplicit false

namespace KernelStart

/-- What a program may ask for, and what kind of answer each request gets. -/
structure Signature where
  Request : Type
  Answer : Request → Type

/-- A computation over the requests of `S`: finished, waiting for an answer, or defective. -/
inductive Program (S : Signature) (α : Type) where
  | done (value : α)
  | ask (request : S.Request) (resume : S.Answer request → Program S α)
  | panic (cause : Panic)

/-- Answers requests and keeps a state; it may also end the run. -/
abbrev Environment (S : Signature) (σ : Type) :=
  (request : S.Request) → σ → Except Stop (S.Answer request) × σ

namespace Program

variable {S T : Signature} {σ α β γ : Type}

/-! ## Sequencing -/

/-- Runs the first program to its result and goes on with the second. -/
def bind : Program S α → (α → Program S β) → Program S β
  | .done value, next => next value
  | .ask request resume, next => .ask request fun answer => (resume answer).bind next
  | .panic cause, _ => .panic cause

instance : Monad (Program S) where
  pure := .done
  bind := bind

@[simp] theorem pure_eq_done (value : α) : (pure value : Program S α) = .done value := rfl

@[simp] theorem bind_eq (program : Program S α) (next : α → Program S β) :
    program >>= next = program.bind next := rfl

@[simp] theorem bind_done (program : Program S α) : program.bind .done = program := by
  induction program with
  | done _ => rfl
  | ask request resume ih => simp [bind, ih]
  | panic _ => rfl

theorem bind_assoc (program : Program S α) (next : α → Program S β) (last : β → Program S γ) :
    (program.bind next).bind last = program.bind fun value => (next value).bind last := by
  induction program with
  | done _ => rfl
  | ask request resume ih => simp [bind, ih]
  | panic _ => rfl

instance : LawfulMonad (Program S) :=
  LawfulMonad.mk' (Program S) bind_done (fun _ _ => rfl) bind_assoc

/-- Asks one request and returns its answer. -/
def request (r : S.Request) : Program S (S.Answer r) :=
  .ask r .done

/-- The value if there is one; otherwise the given panic. -/
def orPanic (cause : Panic) : Option α → Program S α
  | some value => .done value
  | none => .panic cause

/-! ## Execution -/

/-- Executes a program.  The state reached so far survives every kind of ending. -/
@[specialize] def run (environment : Environment S σ) : Program S α → σ → Except Stop α × σ
  | .done value, state => (.ok value, state)
  | .panic cause, state => (.error (.panic cause), state)
  | .ask request resume, state =>
    match environment request state with
    | (.ok answer, next) => (resume answer).run environment next
    | (.error stop, next) => (.error stop, next)

/-- Asking one request is leaving it to the environment. -/
theorem run_request (environment : Environment S σ) (r : S.Request) (state : σ) :
    (request r).run environment state = environment r state := by
  rw [request, run]
  rcases environment r state with ⟨stop | answer, reached⟩
  · rfl
  · rfl

theorem run_bind (environment : Environment S σ) (program : Program S α)
    (next : α → Program S β) (state : σ) :
    (program.bind next).run environment state =
      match program.run environment state with
      | (.ok value, reached) => (next value).run environment reached
      | (.error stop, reached) => (.error stop, reached) := by
  induction program generalizing state with
  | done _ => rfl
  | panic _ => rfl
  | ask request resume ih =>
    simp only [bind, run]
    rcases environment request state with ⟨answer | answer, reached⟩
    · rfl
    · exact ih answer reached

/-- A program goes on with the result of its first part. -/
theorem run_bind_ok {environment : Environment S σ} {program : Program S α} {state reached : σ}
    {value : α} (first : program.run environment state = (.ok value, reached))
    (next : α → Program S β) :
    (program.bind next).run environment state = (next value).run environment reached := by
  rw [run_bind, first]

/-! ## Changing the signature -/

/-- Replaces every request by a program over another signature. -/
def interpret (meaning : (request : S.Request) → Program T (S.Answer request)) :
    Program S α → Program T α
  | .done value => .done value
  | .panic cause => .panic cause
  | .ask request resume => (meaning request).bind fun answer => (resume answer).interpret meaning

/-- The environment in which a request means running its interpretation. -/
def through (meaning : (request : S.Request) → Program T (S.Answer request))
    (environment : Environment T σ) : Environment S σ :=
  fun request state => (meaning request).run environment state

/-- Interpreting and then running is running in the interpreted environment. -/
theorem run_interpret (meaning : (request : S.Request) → Program T (S.Answer request))
    (environment : Environment T σ) (program : Program S α) (state : σ) :
    (program.interpret meaning).run environment state =
      program.run (through meaning environment) state := by
  induction program generalizing state with
  | done _ => rfl
  | panic _ => rfl
  | ask request resume ih =>
    simp only [interpret, run, run_bind, through]
    rcases (meaning request).run environment state with ⟨answer | answer, reached⟩
    · rfl
    · exact ih answer reached

theorem interpret_bind (meaning : (request : S.Request) → Program T (S.Answer request))
    (program : Program S α) (next : α → Program S β) :
    (program.bind next).interpret meaning =
      (program.interpret meaning).bind fun value => (next value).interpret meaning := by
  induction program with
  | done _ => rfl
  | panic _ => rfl
  | ask request resume ih => simp [bind, interpret, bind_assoc, ih]

/-- Two changes of signature are one. -/
theorem interpret_interpret {U : Signature}
    (first : (request : S.Request) → Program T (S.Answer request))
    (second : (request : T.Request) → Program U (T.Answer request)) (program : Program S α) :
    (program.interpret first).interpret second =
      program.interpret fun request => (first request).interpret second := by
  induction program with
  | done _ => rfl
  | panic _ => rfl
  | ask request resume ih => simp [interpret, interpret_bind, ih]

end Program

end KernelStart
