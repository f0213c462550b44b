import KernelStart.Program.Conversation

/-!
# What a program asks, and when

`Program.Obeys` bounds what a program can ask and what it can come to, for answers about which
something is known.  It is a property of the program alone, and it follows the way programs are
put together: it passes through sequences (`Obeys.bind`), and a change of signature carries it
over to what the requests mean (`Obeys.interpret`).  `Program.Asks` is the case in which
nothing is known of the answers and the value does not matter.

`Program.moments` looks at one run: it lists the requests that the run makes, each with the
state of the environment in which it is made.  Nothing that a program cannot ask is among
them (`Asks.of_mem_moments`), nor in any conversation that it can have (`Obeys.of_reaches`).
What every request preserves holds at each of these moments (`Asks.run_preserves`), so a run
changes nothing that its requests leave alone (`Asks.run_keeps`); and what every request adds to
a record is in it afterwards (`run_records`).
-/

set_option autoImplicit false

namespace KernelStart

/-- A request and the state of the environment in which it is made. -/
structure Moment (S : Signature) (σ : Type) where
  request : S.Request
  state : σ

namespace Program

variable {S T : Signature} {σ α β : Type}

/-! ## What a program can ask -/

/-- As long as its answers are of the given kind, the program asks only what is allowed, and if it
comes to a value it is a good one. -/
def Obeys (given : Exchange S → Prop) (allowed : S.Request → Prop) (good : α → Prop) :
    Program S α → Prop
  | .done value => good value
  | .ask request resume => allowed request ∧
      ∀ answer, given ⟨request, answer⟩ → (resume answer).Obeys given allowed good
  | .panic _ => True

namespace Obeys

variable {given : Exchange S → Prop} {allowed : S.Request → Prop} {good : α → Prop}
  {known : Exchange T → Prop} {permitted : T.Request → Prop}

theorem mono {wider : S.Request → Prop} {better : α → Prop}
    (wide : ∀ request, allowed request → wider request)
    (implied : ∀ value, good value → better value)
    {program : Program S α} (obeys : program.Obeys given allowed good) :
    program.Obeys given wider better := by
  induction program with
  | done value => exact implied value obeys
  | panic _ => trivial
  | ask request resume ih =>
    exact ⟨wide request obeys.1, fun answer expected => ih answer (obeys.2 answer expected)⟩

theorem bind {better : β → Prop} {program : Program S α} {next : α → Program S β}
    (first : program.Obeys given allowed good)
    (second : ∀ value, good value → (next value).Obeys given allowed better) :
    (program.bind next).Obeys given allowed better := by
  induction program with
  | done value => exact second value first
  | panic _ => trivial
  | ask _ _ ih => exact ⟨first.1, fun answer expected => ih answer (first.2 answer expected)⟩

/-- A bound on what the requests of a program mean is a bound on what the program means, if the
answers that they come to are of the kind that the program is given. -/
theorem interpret {meaning : (request : S.Request) → Program T (S.Answer request)}
    (means : ∀ request, allowed request →
      (meaning request).Obeys known permitted fun answer => given ⟨request, answer⟩)
    {program : Program S α} (obeys : program.Obeys given allowed good) :
    (program.interpret meaning).Obeys known permitted good := by
  induction program with
  | done _ => exact obeys
  | panic _ => trivial
  | ask request _ ih =>
    exact (means request obeys.1).bind fun answer expected => ih answer (obeys.2 answer expected)

/-- A conversation with such answers holds nothing that the program cannot ask, and the rest of the
program keeps to the bound. -/
theorem of_reaches {program rest : Program S α} {conversation : Conversation S}
    (obeys : program.Obeys given allowed good) (reaches : Reaches program conversation rest)
    (answered : ∀ exchange ∈ conversation, given exchange) :
    (∀ exchange ∈ conversation, allowed exchange.request) ∧ rest.Obeys given allowed good := by
  induction reaches with
  | refl _ => exact ⟨fun _ none => (nomatch none), obeys⟩
  | step _ ih =>
    obtain ⟨first, later⟩ := List.forall_mem_cons.1 answered
    obtain ⟨asked, ending⟩ := ih (obeys.2 _ first) later
    exact ⟨List.forall_mem_cons.2 ⟨obeys.1, asked⟩, ending⟩

end Obeys

/-- Whatever it is answered, the program asks only what is allowed. -/
def Asks (allowed : S.Request → Prop) (program : Program S α) : Prop :=
  program.Obeys (fun _ => True) allowed fun _ => True

namespace Asks

variable {allowed : S.Request → Prop} {permitted : T.Request → Prop}

theorem mono {wider : S.Request → Prop} (wide : ∀ request, allowed request → wider request)
    {program : Program S α} (asks : program.Asks allowed) : program.Asks wider :=
  Obeys.mono wide (fun _ _ => trivial) asks

/-- Nothing is asked that cannot be asked. -/
theorem anything (program : Program S α) : program.Asks fun _ => True := by
  induction program with
  | done _ => trivial
  | panic _ => trivial
  | ask _ _ ih => exact ⟨trivial, fun answer _ => ih answer⟩

theorem request {r : S.Request} (isAllowed : allowed r) : (Program.request r).Asks allowed :=
  ⟨isAllowed, fun _ _ => trivial⟩

theorem bind {program : Program S α} {next : α → Program S β} (first : program.Asks allowed)
    (second : ∀ value, (next value).Asks allowed) : (program.bind next).Asks allowed :=
  Obeys.bind first fun value _ => second value

/-- A bound on what the requests of a program mean is a bound on what the program means. -/
theorem interpret {meaning : (request : S.Request) → Program T (S.Answer request)}
    (means : ∀ request, allowed request → (meaning request).Asks permitted)
    {program : Program S α} (asks : program.Asks allowed) :
    (program.interpret meaning).Asks permitted :=
  Obeys.interpret means asks

/-- A conversation holds nothing that the program cannot ask. -/
theorem of_reaches {program rest : Program S α} {conversation : Conversation S}
    (asks : program.Asks allowed) (reaches : Reaches program conversation rest) :
    ∀ exchange ∈ conversation, allowed exchange.request :=
  (Obeys.of_reaches asks reaches fun _ _ => trivial).1

end Asks

/-! ## What a run asks -/

/-- The requests of a run in order, each with the state in which it is made. -/
def moments (environment : Environment S σ) : Program S α → σ → List (Moment S σ)
  | .done _, _ => []
  | .panic _, _ => []
  | .ask request resume, state =>
    ⟨request, state⟩ :: match environment request state with
      | (.ok answer, next) => (resume answer).moments environment next
      | (.error _, _) => []

/-- The requests of a run in order. -/
def requests (environment : Environment S σ) (program : Program S α) (state : σ) :
    List S.Request :=
  (program.moments environment state).map (·.request)

/-- A run makes the requests of its first part, and if that comes to a value those of the rest. -/
theorem moments_bind (environment : Environment S σ) (program : Program S α)
    (next : α → Program S β) (state : σ) :
    (program.bind next).moments environment state =
      program.moments environment state ++
        match program.run environment state with
        | (.ok value, reached) => (next value).moments environment reached
        | (.error _, _) => [] := by
  induction program generalizing state with
  | done _ => rfl
  | panic _ => rfl
  | ask request resume ih =>
    simp only [Program.bind, moments, run]
    rcases environment request state with ⟨stop | answer, reached⟩
    · rfl
    · exact congrArg (List.cons _) (ih answer reached)

/-- The requests of a first part that comes to a value, and those of the rest behind it. -/
theorem moments_bind_ok {environment : Environment S σ} {program : Program S α}
    {state reached : σ} {value : α} (first : program.run environment state = (.ok value, reached))
    (next : α → Program S β) :
    (program.bind next).moments environment state =
      program.moments environment state ++ (next value).moments environment reached := by
  rw [moments_bind, first]

theorem requests_bind_ok {environment : Environment S σ} {program : Program S α}
    {state reached : σ} {value : α} (first : program.run environment state = (.ok value, reached))
    (next : α → Program S β) :
    (program.bind next).requests environment state =
      program.requests environment state ++ (next value).requests environment reached := by
  rw [requests, moments_bind_ok first, List.map_append]
  rfl

/-- A run makes no request that the program cannot ask. -/
theorem Asks.of_mem_moments {allowed : S.Request → Prop} {program : Program S α}
    (asks : program.Asks allowed) {environment : Environment S σ} {state : σ}
    {moment : Moment S σ} (made : moment ∈ program.moments environment state) :
    allowed moment.request := by
  induction program generalizing state with
  | done _ => cases made
  | panic _ => cases made
  | ask request resume ih =>
    rw [moments] at made
    rcases List.mem_cons.1 made with rfl | later
    · exact asks.1
    · split at later
      · next answer _ _ => exact ih answer (asks.2 answer trivial) later
      · cases later

/-- A property of the state that every allowed request preserves holds wherever a run makes a
request, and after it. -/
theorem Asks.run_preserves {holds : σ → Prop} {allowed : S.Request → Prop}
    {environment : Environment S σ} {program : Program S α} (asks : program.Asks allowed)
    (keeps : ∀ request, allowed request → ∀ state, holds state →
      holds (environment request state).2)
    {state : σ} (before : holds state) :
    (∀ moment ∈ program.moments environment state, holds moment.state) ∧
      holds (program.run environment state).2 := by
  induction program generalizing state with
  | done _ => exact ⟨fun _ made => (nomatch made), before⟩
  | panic _ => exact ⟨fun _ made => (nomatch made), before⟩
  | ask request resume ih =>
    have kept := keeps request asks.1 state before
    rw [moments, run]
    rcases answered : environment request state with ⟨stop | answer, reached⟩
    · rw [answered] at kept
      exact ⟨List.forall_mem_singleton.2 before, kept⟩
    · rw [answered] at kept
      obtain ⟨later, after⟩ := ih answer (asks.2 answer trivial) kept
      exact ⟨List.forall_mem_cons.2 ⟨before, later⟩, after⟩

/-- A view of the state that no allowed request changes is the same after a run. -/
theorem Asks.run_keeps {τ : Type} {allowed : S.Request → Prop} {environment : Environment S σ}
    {program : Program S α} (asks : program.Asks allowed) (view : σ → τ)
    (keeps : ∀ request, allowed request → ∀ state, view (environment request state).2 = view state)
    (state : σ) : view (program.run environment state).2 = view state := by
  let same (reached : σ) : Prop := view reached = view state
  have step (request : S.Request) (isAllowed : allowed request) (reached : σ)
      (before : same reached) : same (environment request reached).2 :=
    (keeps request isAllowed reached).trans before
  exact (asks.run_preserves step rfl).2

/-- A record to which every request adds something holds after a run what its requests added. -/
theorem run_records {τ : Type} {environment : Environment S σ} {record : σ → List τ}
    {added : S.Request → List τ}
    (step : ∀ request state, record (environment request state).2 = record state ++ added request)
    (program : Program S α) (state : σ) :
    record (program.run environment state).2 =
      record state ++ (program.requests environment state).flatMap added := by
  induction program generalizing state with
  | done _ => exact (List.append_nil _).symm
  | panic _ => exact (List.append_nil _).symm
  | ask request resume ih =>
    have grown := step request state
    rw [run, requests, moments, List.map_cons, List.flatMap_cons, ← List.append_assoc, ← grown]
    rcases environment request state with ⟨stop | answer, reached⟩
    · exact (List.append_nil _).symm
    · exact ih answer reached

end Program

end KernelStart
