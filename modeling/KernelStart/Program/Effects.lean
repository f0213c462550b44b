import KernelStart.Log.Entry
import KernelStart.Program.Requests

/-!
# Effects of runs

Few of the requests of a run leave anything behind.  An `Observer` fixes an environment, what
it sees of the states and which requests it takes down.  `Program.effects` lists what it takes
down of a run, and `Program.Performs` says what a program comes to as far as the observer can
tell: from every state that looks like `before` it comes to a value, in a state that looks
like `after`, with the given effects in this order.

Performances follow each other (`Performs.bind`), and if the requests of a program mean for
one observer what they do for another, so does the program (`Performs.interpret`).
-/

set_option autoImplicit false

namespace KernelStart

/-- An environment, what is seen of its states, and what is taken down of the requests. -/
structure Observer (S : Signature) (σ τ ε : Type) where
  environment : Environment S σ
  view : σ → τ
  effect? : S.Request → Option ε

/-- The observer of programs that log: it takes down no log entries. -/
def Observer.logging {S : Signature} {σ τ ε : Type} (threshold : Log.Level)
    (observer : Observer S σ τ ε) : Observer (Logged S) (σ × List Log.Entry) τ ε where
  environment := Log.collecting threshold observer.environment
  view state := observer.view state.1
  effect?
    | .log _ => none
    | .plain request => observer.effect? request

namespace Program

variable {S T : Signature} {σ ρ τ ε δ α β : Type}

/-- What an observer takes down of a run. -/
def effects (observer : Observer S σ τ ε) (program : Program S α) (state : σ) : List ε :=
  (program.requests observer.environment state).filterMap observer.effect?

/-- What is taken down of a request that is answered, and of the rest behind it. -/
theorem effects_ask_ok {observer : Observer S σ τ ε} {request : S.Request}
    {resume : S.Answer request → Program S α} {state reached : σ} {answer : S.Answer request}
    (answered : observer.environment request state = (.ok answer, reached)) :
    (ask request resume).effects observer state =
      (observer.effect? request).toList ++ (resume answer).effects observer reached := by
  rw [effects, requests, moments, answered, List.map_cons, List.filterMap_cons]
  cases observer.effect? request <;> rfl

/-- What is taken down of a request that ends the run. -/
theorem effects_ask_error {observer : Observer S σ τ ε} {request : S.Request}
    {resume : S.Answer request → Program S α} {state reached : σ} {stop : Stop}
    (answered : observer.environment request state = (.error stop, reached)) :
    (ask request resume).effects observer state = (observer.effect? request).toList := by
  rw [effects, requests, moments, answered, List.map_cons, List.filterMap_cons]
  cases observer.effect? request <;> rfl

/-- What is taken down of a single request. -/
theorem effects_request (observer : Observer S σ τ ε) (r : S.Request) (state : σ) :
    (request r).effects observer state = (observer.effect? r).toList := by
  rcases answered : observer.environment r state with ⟨stop | answer, reached⟩
  · exact effects_ask_error answered
  · exact (effects_ask_ok answered).trans (List.append_nil _)

/-- What is taken down of a first part that comes to a value, and of the rest behind it. -/
theorem effects_bind_ok {observer : Observer S σ τ ε} {program : Program S α} {state reached : σ}
    {value : α} (first : program.run observer.environment state = (.ok value, reached))
    (next : α → Program S β) :
    (program.bind next).effects observer state =
      program.effects observer state ++ (next value).effects observer reached := by
  rw [effects, requests, moments_bind_ok first, List.map_append, List.filterMap_append]
  rfl

/-- What is taken down of a first part that ends the run. -/
theorem effects_bind_error {observer : Observer S σ τ ε} {program : Program S α}
    {state reached : σ} {stop : Stop}
    (first : program.run observer.environment state = (.error stop, reached))
    (next : α → Program S β) :
    (program.bind next).effects observer state = program.effects observer state := by
  rw [effects, requests, moments_bind, first, List.append_nil]
  rfl

/-- Nothing is taken down of a program that cannot ask for anything of interest. -/
theorem effects_eq_nil {observer : Observer S σ τ ε} {program : Program S α}
    (asks : program.Asks fun request => observer.effect? request = none) (state : σ) :
    program.effects observer state = [] := by
  rw [effects, requests, List.filterMap_eq_nil_iff]
  intro request made
  obtain ⟨moment, isMoment, rfl⟩ := List.mem_map.1 made
  exact asks.of_mem_moments isMoment

/-- As far as the observer can tell, the program comes to the value and leads from one view to
another, with these effects. -/
def Performs (observer : Observer S σ τ ε) (program : Program S α) (before : τ) (value : α)
    (after : τ) (effects : List ε) : Prop :=
  ∀ state, observer.view state = before → ∃ reached,
    program.run observer.environment state = (.ok value, reached) ∧
      observer.view reached = after ∧ program.effects observer state = effects

namespace Performs

variable {observer : Observer S σ τ ε}

theorem done (value : α) (view : τ) :
    Performs observer (.done value) view value view [] :=
  fun state seen => ⟨state, rfl, seen, rfl⟩

theorem bind {program : Program S α} {next : α → Program S β} {before middle after : τ}
    {value : α} {result : β} {early late : List ε}
    (first : Performs observer program before value middle early)
    (second : Performs observer (next value) middle result after late) :
    Performs observer (program.bind next) before result after (early ++ late) := by
  intro state seen
  obtain ⟨reached, ran, seenReached, made⟩ := first state seen
  obtain ⟨last, ranLast, seenLast, madeLast⟩ := second reached seenReached
  refine ⟨last, ?_, seenLast, ?_⟩
  · rw [run_bind_ok ran, ranLast]
  · rw [effects_bind_ok ran, made, madeLast]

/-- A first part without effects leaves those of the rest. -/
theorem silent_bind {program : Program S α} {next : α → Program S β} {before middle after : τ}
    {value : α} {result : β} {late : List ε}
    (first : Performs observer program before value middle [])
    (second : Performs observer (next value) middle result after late) :
    Performs observer (program.bind next) before result after late :=
  first.bind second

/-- A rest without effects leaves those of the first part. -/
theorem bind_silent {program : Program S α} {next : α → Program S β} {before middle after : τ}
    {value : α} {result : β} {early : List ε}
    (first : Performs observer program before value middle early)
    (second : Performs observer (next value) middle result after []) :
    Performs observer (program.bind next) before result after early :=
  List.append_nil early ▸ first.bind second

/-- A request whose meaning for the outer observer is what it is for the inner one. -/
def Means (inner : Observer S σ τ ε) (outer : Observer T ρ τ δ) (project : ρ → σ) (lift : ε → δ)
    (request : S.Request) (meaning : Program T (S.Answer request)) : Prop :=
  ∀ state, ∃ reached,
    meaning.run outer.environment state =
        ((inner.environment request (project state)).1, reached) ∧
      project reached = (inner.environment request (project state)).2 ∧
      meaning.effects outer state = (inner.effect? request).toList.map lift

/-- If all requests mean the same for both observers, runs come to the same for both. -/
theorem run_interpret_of_means {inner : Observer S σ τ ε} {outer : Observer T ρ τ δ}
    {project : ρ → σ} {lift : ε → δ}
    {meaning : (request : S.Request) → Program T (S.Answer request)}
    (means : ∀ request, Means inner outer project lift request (meaning request))
    (program : Program S α) (state : ρ) :
    ∃ reached, (program.interpret meaning).run outer.environment state =
        ((program.run inner.environment (project state)).1, reached) ∧
      project reached = (program.run inner.environment (project state)).2 ∧
      (program.interpret meaning).effects outer state =
        (program.effects inner (project state)).map lift := by
  induction program generalizing state with
  | done value => exact ⟨state, rfl, rfl, rfl⟩
  | panic cause => exact ⟨state, rfl, rfl, rfl⟩
  | ask request resume ih =>
    obtain ⟨reached, ran, projected, made⟩ := means request state
    rcases answered : inner.environment request (project state) with ⟨stop | answer, next⟩
    · rw [answered] at ran projected
      refine ⟨reached, ?_, ?_, ?_⟩
      · rw [interpret, run_bind, ran, run, answered]
      · rw [run, answered, projected]
      · rw [interpret, effects_bind_error ran, made, effects_ask_error answered]
    · rw [answered] at ran projected
      obtain rfl : project reached = next := projected
      obtain ⟨last, ranLast, projectedLast, madeLast⟩ := ih answer reached
      refine ⟨last, ?_, ?_, ?_⟩
      · rw [interpret, run_bind_ok ran, ranLast, run, answered]
      · rw [projectedLast, run, answered]
      · rw [interpret, effects_bind_ok ran, made, madeLast, effects_ask_ok answered,
          List.map_append]

/-- What a program performs for the inner observer, its interpretation performs for the outer
one. -/
theorem interpret {inner : Observer S σ τ ε} {outer : Observer T ρ τ δ} {project : ρ → σ}
    {lift : ε → δ} {meaning : (request : S.Request) → Program T (S.Answer request)}
    {program : Program S α} {before after : τ} {value : α} {made : List ε}
    (performs : Performs inner program before value after made)
    (means : ∀ request, Means inner outer project lift request (meaning request))
    (view_eq : ∀ state, outer.view state = inner.view (project state)) :
    Performs outer (program.interpret meaning) before value after (made.map lift) := by
  intro state seen
  rw [view_eq] at seen
  obtain ⟨inside, ran, seenInside, madeInside⟩ := performs (project state) seen
  obtain ⟨reached, ranOutside, projected, madeOutside⟩ :=
    run_interpret_of_means means program state
  rw [ran] at ranOutside projected
  refine ⟨reached, ranOutside, ?_, ?_⟩
  · rw [view_eq, projected, seenInside]
  · rw [madeOutside, madeInside]

/-! ## Programs that log -/

theorem log (threshold : Log.Level) (level : Log.Level) (text : String) (view : τ) :
    Performs (observer.logging threshold) (Program.log level text) view () view [] :=
  fun state seen => ⟨(state.1, _), rfl, seen, rfl⟩

/-- A request of a program that logs means what it means without logging. -/
theorem means_plain (threshold : Log.Level) (request : S.Request) :
    Means observer (observer.logging threshold) Prod.fst id request
      (.ask (LoggedRequest.plain request) .done) := by
  intro state
  refine ⟨_, run_request (observer.logging threshold).environment (.plain request) state, rfl, ?_⟩
  rw [List.map_id]
  exact effects_request (observer.logging threshold) (.plain request) state

/-- A program that happens not to log performs the same among programs that log. -/
theorem quiet (threshold : Log.Level) {program : Program S α} {before after : τ} {value : α}
    {made : List ε} (performs : Performs observer program before value after made) :
    Performs (observer.logging threshold) program.quiet before value after made := by
  have lifted : Performs (observer.logging threshold) program.quiet before value after
      (made.map id) := performs.interpret (means_plain threshold) fun _ => rfl
  rwa [List.map_id] at lifted

end Performs

end Program

end KernelStart
