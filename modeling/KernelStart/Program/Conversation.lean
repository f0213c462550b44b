import KernelStart.Program

/-!
# Conversations

What a program does depends on the answers it gets.  A *conversation* is a list of
requests with their answers, and `Reaches` says which conversations a program can have
and how it goes on after them.  Nothing is assumed about where the answers come from, so
a statement about all conversations holds for hardware that answers differently each
time, and for every beginning of a run.

`recording` keeps the conversation of a run in an environment.  It changes nothing else
(`run_recording`), and what it keeps is a conversation of the program
(`reaches_of_run_recording`).
-/

set_option autoImplicit false

namespace KernelStart

/-- A request with its answer. -/
structure Exchange (S : Signature) where
  request : S.Request
  answer : S.Answer request

/-- Exchanges in the order in which they were made. -/
abbrev Conversation (S : Signature) := List (Exchange S)

namespace Program

variable {S : Signature} {σ α β : Type}

/-- After the conversation the first program goes on as the second. -/
inductive Reaches : Program S α → Conversation S → Program S α → Prop where
  | refl (program : Program S α) : Reaches program [] program
  | step {request : S.Request} {resume : S.Answer request → Program S α}
      {answer : S.Answer request} {conversation : Conversation S} {rest : Program S α}
      (later : Reaches (resume answer) conversation rest) :
      Reaches (.ask request resume) (⟨request, answer⟩ :: conversation) rest

/-- Conversations can be continued. -/
theorem Reaches.trans {first second third : Program S α} {early late : Conversation S}
    (before : Reaches first early second) (after : Reaches second late third) :
    Reaches first (early ++ late) third := by
  induction before with
  | refl _ => exact after
  | step _ ih => exact .step (ih after)

/-! ## Conversations of a sequence -/

/-- What the first part of a sequence does, the sequence does. -/
theorem Reaches.of_first {program waiting : Program S α} {conversation : Conversation S}
    (reaches : Reaches program conversation waiting) (next : α → Program S β) :
    Reaches (program.bind next) conversation (waiting.bind next) := by
  induction reaches with
  | refl _ => exact .refl _
  | step _ ih => exact .step ih

/-- Once the first part has a value, a sequence does what its second part does. -/
theorem Reaches.bind {program : Program S α} {next : α → Program S β} {value : α}
    {early late : Conversation S} {rest : Program S β}
    (first : Reaches program early (.done value)) (second : Reaches (next value) late rest) :
    Reaches (program.bind next) (early ++ late) rest :=
  (first.of_first next).trans second

theorem Reaches.of_done {value : α} {conversation : Conversation S} {rest : Program S α}
    (reaches : Reaches (.done value) conversation rest) :
    conversation = [] ∧ rest = .done value := by
  cases reaches
  exact ⟨rfl, rfl⟩

/-- A program that asks has not begun yet, or it goes on with the answer to what it asks. -/
theorem Reaches.of_ask {request : S.Request} {resume : S.Answer request → Program S α}
    {conversation : Conversation S} {rest : Program S α}
    (reaches : Reaches (.ask request resume) conversation rest) :
    (conversation = [] ∧ rest = .ask request resume) ∨
      ∃ answer later, conversation = ⟨request, answer⟩ :: later ∧
        Reaches (resume answer) later rest := by
  cases reaches with
  | refl _ => exact .inl ⟨rfl, rfl⟩
  | step later => exact .inr ⟨_, _, rfl, later⟩

/-- A conversation of a sequence is one of its first part, followed by nothing as long as that
waits, and by a conversation of the second part once it has a value. -/
theorem Reaches.of_bind {program : Program S α} {next : α → Program S β}
    {conversation : Conversation S} {rest : Program S β}
    (reaches : Reaches (program.bind next) conversation rest) :
    ∃ early late waiting, conversation = early ++ late ∧ Reaches program early waiting ∧
      ((late = [] ∧ rest = waiting.bind next) ∨
        ∃ value, waiting = .done value ∧ Reaches (next value) late rest) := by
  induction program generalizing conversation with
  | done value => exact ⟨[], conversation, .done value, rfl, .refl _, .inr ⟨value, rfl, reaches⟩⟩
  | panic cause =>
    cases reaches
    exact ⟨[], [], .panic cause, rfl, .refl _, .inl ⟨rfl, rfl⟩⟩
  | ask request resume ih =>
    rcases reaches.of_ask with ⟨rfl, rfl⟩ | ⟨answer, later, rfl, onward⟩
    · exact ⟨[], [], .ask request resume, rfl, .refl _, .inl ⟨rfl, rfl⟩⟩
    · obtain ⟨early, late, waiting, rfl, first, second⟩ := ih answer onward
      exact ⟨⟨request, answer⟩ :: early, late, waiting, rfl, .step first, second⟩

/-- A sequence that has come to its value has come to that of its first part before. -/
theorem Reaches.of_bind_done {program : Program S α} {next : α → Program S β}
    {conversation : Conversation S} {result : β}
    (reaches : Reaches (program.bind next) conversation (.done result)) :
    ∃ early late value, conversation = early ++ late ∧ Reaches program early (.done value) ∧
      Reaches (next value) late (.done result) := by
  obtain ⟨early, late, waiting, rfl, first, ⟨rfl, ended⟩ | ⟨value, rfl, second⟩⟩ := reaches.of_bind
  · cases waiting with
    | done value => exact ⟨early, [], value, rfl, first, ended ▸ .refl _⟩
    | ask _ _ => cases ended
    | panic _ => cases ended
  · exact ⟨early, late, value, rfl, first, second⟩

theorem Reaches.of_request_done {request : S.Request} {conversation : Conversation S}
    {answer : S.Answer request}
    (reaches : Reaches (Program.request request) conversation (.done answer)) :
    conversation = [⟨request, answer⟩] := by
  rcases reaches.of_ask with ⟨-, ended⟩ | ⟨given, later, rfl, rest⟩
  · cases ended
  · obtain ⟨rfl, same⟩ := rest.of_done
    cases same
    rfl

/-- Of the beginnings of a conversation only one can bring a program to its value. -/
theorem Reaches.done_unique {program : Program S α}
    {first second firstRest secondRest : Conversation S} {value result : α}
    (reaches : Reaches program first (.done value))
    (other : Reaches program second (.done result))
    (same : first ++ firstRest = second ++ secondRest) : first = second ∧ value = result := by
  induction program generalizing first second with
  | done _ =>
    obtain ⟨rfl, ended⟩ := reaches.of_done
    obtain ⟨rfl, otherEnded⟩ := other.of_done
    cases ended
    cases otherEnded
    exact ⟨rfl, rfl⟩
  | panic _ => cases reaches
  | ask request resume ih =>
    rcases reaches.of_ask with ⟨-, ended⟩ | ⟨answer, later, rfl, rest⟩
    · cases ended
    rcases other.of_ask with ⟨-, ended⟩ | ⟨given, otherLater, rfl, otherRest⟩
    · cases ended
    rw [List.cons_append, List.cons_append, List.cons.injEq, Exchange.mk.injEq] at same
    obtain ⟨⟨-, sameAnswer⟩, sameRest⟩ := same
    obtain rfl := eq_of_heq sameAnswer
    obtain ⟨rfl, sameValue⟩ := ih answer rest otherRest sameRest
    exact ⟨rfl, sameValue⟩

/-! ## Recording -/

/-- Answers as before and keeps the exchanges, latest first. -/
def recording (environment : Environment S σ) : Environment S (σ × Conversation S) :=
  fun request (state, past) =>
    match environment request state with
    | (.ok answer, reached) => (.ok answer, (reached, ⟨request, answer⟩ :: past))
    | (.error stop, reached) => (.error stop, (reached, past))

/-- Recording does not change what a run comes to. -/
theorem run_recording (environment : Environment S σ) (program : Program S α) (state : σ)
    (past : Conversation S) :
    let recorded := program.run (recording environment) (state, past)
    (recorded.1, recorded.2.1) = program.run environment state := by
  induction program generalizing state past with
  | done _ => rfl
  | panic _ => rfl
  | ask request resume ih =>
    simp only [run, recording]
    rcases environment request state with ⟨answer | answer, reached⟩
    · rfl
    · exact ih answer reached (⟨request, answer⟩ :: past)

/-- The environment answers the conversation, and comes from one state to the other. -/
inductive Answers (environment : Environment S σ) : σ → Conversation S → σ → Prop where
  | nil (state : σ) : Answers environment state [] state
  | cons {request : S.Request} {answer : S.Answer request} {state next reached : σ}
      {conversation : Conversation S} (answered : environment request state = (.ok answer, next))
      (later : Answers environment next conversation reached) :
      Answers environment state (⟨request, answer⟩ :: conversation) reached

namespace Answers

variable {environment : Environment S σ} {state middle reached : σ} {early late : Conversation S}

/-- An environment goes on answering where it has come to. -/
theorem append (first : Answers environment state early middle)
    (second : Answers environment middle late reached) :
    Answers environment state (early ++ late) reached := by
  induction first with
  | nil _ => exact second
  | cons answered _ ih => exact .cons answered (ih second)

theorem of_append (answers : Answers environment state (early ++ late) reached) :
    ∃ middle, Answers environment state early middle ∧ Answers environment middle late reached := by
  induction early generalizing state with
  | nil => exact ⟨state, .nil state, answers⟩
  | cons exchange rest ih =>
    cases answers with
    | cons answered later =>
      obtain ⟨middle, first, second⟩ := ih later
      exact ⟨middle, .cons answered first, second⟩

end Answers

/-- A run that comes to a value has a conversation with the environment that ends with it. -/
theorem conversation_of_run {environment : Environment S σ} {program : Program S α} {value : α}
    {state reached : σ} (ran : program.run environment state = (.ok value, reached)) :
    ∃ conversation, Reaches program conversation (.done value) ∧
      Answers environment state conversation reached := by
  induction program generalizing state with
  | done _ =>
    cases ran
    exact ⟨[], .refl _, .nil _⟩
  | panic _ => cases ran
  | ask request resume ih =>
    rw [run] at ran
    rcases answered : environment request state with ⟨stop | answer, next⟩
    · rw [answered] at ran
      cases ran
    · rw [answered] at ran
      obtain ⟨conversation, reaches, answers⟩ := ih answer ran
      exact ⟨⟨request, answer⟩ :: conversation, .step reaches, .cons answered answers⟩

/-- What a run kept is a conversation of the program with the environment, however the run ended; if
it came to a value, the conversation ends with that. -/
theorem reaches_of_run_recording (environment : Environment S σ) (program : Program S α)
    (state : σ) (past : Conversation S) :
    let recorded := program.run (recording environment) (state, past)
    ∃ conversation rest reached, recorded.2.2 = conversation.reverse ++ past ∧
      Reaches program conversation rest ∧ Answers environment state conversation reached ∧
      ∀ value, recorded.1 = .ok value → rest = .done value := by
  induction program generalizing state past with
  | done result =>
    refine ⟨[], .done result, state, rfl, .refl _, .nil state, fun value ended => ?_⟩
    cases ended
    rfl
  | panic cause =>
    refine ⟨[], .panic cause, state, rfl, .refl _, .nil state, fun value ended => ?_⟩
    cases ended
  | ask request resume ih =>
    simp only [run, recording]
    rcases answered : environment request state with ⟨stop | answer, next⟩
    · refine ⟨[], .ask request resume, state, rfl, .refl _, .nil state, fun value ended => ?_⟩
      cases ended
    · obtain ⟨conversation, rest, reached, kept, reaches, answers, ended⟩ :=
        ih answer next (⟨request, answer⟩ :: past)
      refine ⟨⟨request, answer⟩ :: conversation, rest, reached, ?_, .step reaches,
        .cons answered answers, ended⟩
      rw [List.reverse_cons, List.append_assoc]
      exact kept

end Program

end KernelStart
