import KernelStart.Log.Entry
import KernelStart.Program.Requests

/-!
# Environments that answer alike

Two environments can keep quite different states and still be the same to a program.
`Environment.Agrees` says so of single requests of a given kind: in related states they are
answered alike, and the states stay related.  By induction a program that asks only such
requests has the same run in both (`Asks.run_agrees`) and makes the same requests
(`Asks.requests_agree`), whether it logs or not (`Environment.Agrees.collecting`).

What a program asks of one environment through the requests of another is what its own requests
mean, one after the other (`requests_interpret`).
-/

set_option autoImplicit false

namespace KernelStart

variable {S T : Signature} {σ τ α : Type}

/-- In related states the environments give the same answers to requests of the given kind, and
the states behind the answers are related. -/
def Environment.Agrees (first : Environment S σ) (second : Environment S τ)
    (allowed : S.Request → Prop) (related : σ → τ → Prop) : Prop :=
  ∀ request, allowed request → ∀ state other, related state other →
    (first request state).1 = (second request other).1 ∧
      related (first request state).2 (second request other).2

namespace Program

variable {allowed : S.Request → Prop} {related : σ → τ → Prop} {first : Environment S σ}
  {second : Environment S τ}

/-- A program that asks only what is answered alike has the same run in both environments. -/
theorem Asks.run_agrees (agrees : first.Agrees second allowed related) {program : Program S α}
    (asks : program.Asks allowed) {state : σ} {other : τ} (start : related state other) :
    (program.run first state).1 = (program.run second other).1 ∧
      related (program.run first state).2 (program.run second other).2 := by
  induction program generalizing state other with
  | done _ => exact ⟨rfl, start⟩
  | panic _ => exact ⟨rfl, start⟩
  | ask request resume ih =>
    obtain ⟨same, still⟩ := agrees request asks.1 state other start
    rw [run, run]
    rcases answered : first request state with ⟨result, next⟩
    rcases otherwise : second request other with ⟨_, further⟩
    rw [answered, otherwise] at same still
    cases same
    cases result with
    | error _ => exact ⟨rfl, still⟩
    | ok answer => exact ih answer (asks.2 answer trivial) still

/-- Such a program makes the same requests in both environments. -/
theorem Asks.requests_agree (agrees : first.Agrees second allowed related)
    {program : Program S α} (asks : program.Asks allowed) {state : σ} {other : τ}
    (start : related state other) :
    program.requests first state = program.requests second other := by
  induction program generalizing state other with
  | done _ => rfl
  | panic _ => rfl
  | ask request resume ih =>
    obtain ⟨same, still⟩ := agrees request asks.1 state other start
    rw [requests, requests, moments, moments, List.map_cons, List.map_cons]
    rcases answered : first request state with ⟨result, next⟩
    rcases otherwise : second request other with ⟨_, further⟩
    rw [answered, otherwise] at same still
    cases same
    cases result with
    | error _ => rfl
    | ok answer => exact congrArg (List.cons request) (ih answer (asks.2 answer trivial) still)

/-! ## Programs that log -/

/-- A log entry, or a request of the given kind. -/
def OrLogs (allowed : S.Request → Prop) : LoggedRequest S → Prop
  | .log _ => True
  | .plain request => allowed request

theorem Asks.log (level : Log.Level) (text : String) :
    (Program.log level text : Program (Logged S) Unit).Asks (OrLogs allowed) :=
  .request trivial

theorem Asks.quiet {program : Program S α} (asks : program.Asks allowed) :
    program.quiet.Asks (OrLogs allowed) := by
  refine Asks.interpret (fun request isAllowed => ?_) asks
  exact ⟨isAllowed, fun _ _ => trivial⟩

end Program

/-- Environments that answer alike do so too while they collect the log. -/
theorem Environment.Agrees.collecting {first : Environment S σ} {second : Environment S τ}
    {allowed : S.Request → Prop} {related : σ → τ → Prop}
    (agrees : first.Agrees second allowed related) (threshold : Log.Level) :
    Environment.Agrees (Log.collecting threshold first) (Log.collecting threshold second)
      (Program.OrLogs allowed)
      fun state other => related state.1 other.1 ∧ state.2 = other.2 := by
  rintro (entry | request) isAllowed ⟨state, entries⟩ ⟨other, _⟩ ⟨start, rfl⟩
  · exact ⟨rfl, start, rfl⟩
  · obtain ⟨same, still⟩ := agrees request isAllowed state other start
    exact ⟨same, still, rfl⟩

/-! ## Requests by other requests -/

namespace Program

/-- If every request means a fixed list of others, a program asks these lists one after the
other. -/
theorem requests_interpret {meaning : (request : S.Request) → Program T (S.Answer request)}
    {environment : Environment T σ} {trace : S.Request → List T.Request}
    (traces : ∀ request state, (meaning request).requests environment state = trace request)
    (program : Program S α) (state : σ) :
    (program.interpret meaning).requests environment state =
      (program.requests (through meaning environment) state).flatMap trace := by
  induction program generalizing state with
  | done _ => rfl
  | panic _ => rfl
  | ask request resume ih =>
    have own := traces request state
    rw [requests] at own
    rw [interpret, requests, moments_bind, List.map_append, own, requests, moments, List.map_cons,
      List.flatMap_cons]
    congr 1
    rw [through]
    rcases (meaning request).run environment state with ⟨stop | answer, reached⟩
    · rfl
    · exact ih answer reached

end Program

end KernelStart
