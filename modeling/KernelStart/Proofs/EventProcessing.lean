import KernelStart.Usb.EventCourse

/-!
# Which events a message gets processed

A message makes the handler look for a pending event and process it, again and again, until none
is pending or the budget is used up.  `Processes` says of a program what that comes to: the events
that it processes are the next ones in their order, a given number of them, and each of them that
fails is reported once.  Such programs follow each other (`Processes.bind`), and the numbers add up.

The number is settled by the course of the events and the budget alone.  One look decides whether
there is an event for the next unit of the budget (`dueCount_succ`), so draining processes the
events that are due (`processes_drain`), however the controller is refilled meanwhile.  Two budgets
one after the other are due what their sum is due (`dueCount_add`): a controller that is found
empty stays empty until the next message.  So messages in a row go on where the one before them
ended, and together they process what is due for all their budgets
(`handle_processes_due_events`).
-/

set_option autoImplicit false

namespace KernelStart.Usb

open Program

/-! ## Courses -/

namespace EventCourse

variable (course : EventCourse)

theorem after_add (controller : PendingEvents) (first second : Nat) :
    course.after controller (first + second) =
      course.after (course.after controller first) second := by
  induction first generalizing controller with
  | zero => rw [Nat.zero_add, after]
  | succ first ih => rw [Nat.succ_add, after, after, ih]

theorem processed_after (controller : PendingEvents) (count : Nat) :
    (course.after controller count).processed = controller.processed + count := by
  induction count generalizing controller with
  | zero => rfl
  | succ count ih => rw [after, ih, next, Nat.add_assoc, Nat.add_comm 1]

theorem reports_append (first count more : Nat) :
    course.reports first count ++ course.reports (first + count) more =
      course.reports first (count + more) := by
  rw [reports, reports, reports, ← List.filterMap_append, List.range'_append_1]

/-! ### How many events are due -/

theorem dueCount_zero (controller : PendingEvents) : course.dueCount controller 0 = 0 := by
  rw [dueCount, List.range_one, List.find?_singleton]
  split <;> rfl

variable {course} {controller : PendingEvents}

theorem dueCount_of_none (none : controller.pending = 0) (limit : Nat) :
    course.dueCount controller limit = 0 := by
  have found : course.isQuietAfter controller 0 = true := beq_of_eq none
  rw [dueCount, List.range_succ_eq_map, List.find?_cons_of_pos found, Option.getD_some]

/-- An event that is pending is due, and behind it what is due then. -/
theorem dueCount_succ (some : 0 < controller.pending) (limit : Nat) :
    course.dueCount controller (limit + 1) =
      course.dueCount (course.next controller) limit + 1 := by
  have notFound : ¬course.isQuietAfter controller 0 = true :=
    fun quiet => Nat.ne_of_gt some (eq_of_beq quiet)
  rw [dueCount, List.range_succ_eq_map, List.find?_cons_of_neg notFound, List.find?_map, dueCount]
  exact Option.getD_map Nat.succ limit _

/-- What is due for two budgets together is what is due for the first, and then for the second. -/
theorem dueCount_add (controller : PendingEvents) (first second : Nat) :
    course.dueCount controller (first + second) = course.dueCount controller first +
      course.dueCount (course.after controller (course.dueCount controller first)) second := by
  induction first generalizing controller with
  | zero => rw [dueCount_zero, Nat.zero_add, Nat.zero_add, after]
  | succ first ih =>
    rcases Nat.eq_zero_or_pos controller.pending with none | some
    · rw [dueCount_of_none none, dueCount_of_none none, after, dueCount_of_none none]
    · rw [Nat.succ_add, dueCount_succ some, dueCount_succ some, ih, after]
      omega

theorem after_of_adds_eq_zero (noneAdded : ∀ event, course.adds event = 0)
    (controller : PendingEvents) (count : Nat) :
    course.after controller count =
      ⟨controller.pending - count, controller.processed + count⟩ := by
  induction count generalizing controller with
  | zero => rfl
  | succ count ih =>
    rw [after, ih, next, noneAdded, PendingEvents.mk.injEq]
    dsimp only
    omega

/-- Without further events, those that are pending are due, as far as the budget goes. -/
theorem dueCount_of_adds_eq_zero (noneAdded : ∀ event, course.adds event = 0)
    (controller : PendingEvents) (limit : Nat) :
    course.dueCount controller limit = min controller.pending limit := by
  induction limit generalizing controller with
  | zero => rw [dueCount_zero, Nat.min_zero]
  | succ limit ih =>
    rcases Nat.eq_zero_or_pos controller.pending with none | some
    · rw [dueCount_of_none none, none, Nat.zero_min]
    · rw [dueCount_succ some, ih]
      dsimp only [next]
      rw [noneAdded]
      omega

end EventCourse

/-! ## Programs that process events -/

namespace EventHandler

variable {σ α β : Type} {threshold : Log.Level} {environment : Environment HostController σ}
  {view : σ → PendingEvents} {course : EventCourse} {controller : PendingEvents}

/-- From every state in which the controller is as given, the program comes to the value and has
processed the next events, `count` of them, and reported those that failed, all in order. -/
def Processes (threshold : Log.Level) (environment : Environment HostController σ)
    (view : σ → PendingEvents) (course : EventCourse) (program : Program (Logged HostController) α)
    (controller : PendingEvents) (value : α) (count : Nat) : Prop :=
  ∀ state entries, view state = controller → ∃ reached,
    program.run (Log.collecting threshold environment) (state, entries) =
        (.ok value, (reached, entries ++ course.reports controller.processed count)) ∧
      view reached = course.after controller count ∧
      processedEvents view
          (program.moments (Log.collecting threshold environment) (state, entries)) =
        List.range' controller.processed count

namespace Processes

theorem done (value : α) :
    Processes threshold environment view course (.done value) controller value 0 :=
  fun state entries seen => ⟨state, by rw [EventCourse.reports]; simp [run], seen, rfl⟩

theorem bind {program : Program (Logged HostController) α}
    {following : α → Program (Logged HostController) β} {value : α} {result : β} {count more : Nat}
    (first : Processes threshold environment view course program controller value count)
    (second : Processes threshold environment view course (following value)
      (course.after controller count) result more) :
    Processes threshold environment view course (program.bind following) controller result
      (count + more) := by
  intro state entries seen
  obtain ⟨middle, ran, seenMiddle, processed⟩ := first state entries seen
  obtain ⟨reached, ranOn, seenReached, processedOn⟩ := second middle _ seenMiddle
  refine ⟨reached, ?_, ?_, ?_⟩
  · rw [run_bind_ok ran, ranOn, course.processed_after, List.append_assoc, course.reports_append]
  · rw [seenReached, course.after_add]
  · rw [moments_bind_ok ran, processedEvents, List.filterMap_append]
    rw [processedEvents] at processed processedOn
    rw [processed, processedOn, course.processed_after, List.range'_append_1]

/-- A first part that processes no event leaves what the rest processes. -/
theorem silent_bind {program : Program (Logged HostController) α}
    {following : α → Program (Logged HostController) β} {value : α} {result : β} {count : Nat}
    (first : Processes threshold environment view course program controller value 0)
    (second : Processes threshold environment view course (following value) controller result
      count) :
    Processes threshold environment view course (program.bind following) controller result
      count := by
  rw [← Nat.zero_add count]
  exact first.bind second

/-- What a program makes of its value does not matter. -/
theorem bind_done {program : Program (Logged HostController) α} {value : α} {count : Nat}
    (first : Processes threshold environment view course program controller value count)
    (finish : α → β) :
    Processes threshold environment view course (program.bind fun value => .done (finish value))
      controller (finish value) count := by
  rw [← Nat.add_zero count]
  exact first.bind (.done (finish value))

end Processes

/-! ## The handler -/

/-- A request to the controller is answered by it, and leaves the log alone. -/
theorem run_ask {request : HostController.Request} {state reached : σ}
    {answer : HostController.Answer request}
    (answered : environment request state = (.ok answer, reached)) (entries : List Log.Entry) :
    (HostController.ask request).run (Log.collecting threshold environment) (state, entries) =
      (.ok answer, (reached, entries)) := by
  have asked := run_request (Log.collecting threshold environment) (.plain request) (state, entries)
  rw [Log.collecting, answered] at asked
  exact asked

theorem moments_ask {request : HostController.Request} {state reached : σ}
    {answer : HostController.Answer request}
    (answered : environment request state = (.ok answer, reached)) (entries : List Log.Entry) :
    (HostController.ask request).moments (Log.collecting threshold environment) (state, entries) =
      [⟨.plain request, (state, entries)⟩] := by
  have asked : Log.collecting threshold environment (.plain request) (state, entries) =
      (.ok answer, (reached, entries)) := by
    rw [Log.collecting, answered]
  have single : HostController.ask request = .ask (.plain request) .done := rfl
  rw [single, moments, asked]
  rfl

/-- An error is logged at every threshold. -/
theorem run_logError (text : String) (state : σ) (entries : List Log.Entry) :
    (Program.log .error text).run (Log.collecting threshold environment) (state, entries) =
      (.ok (), (state, entries ++ [⟨.error, text⟩])) := by
  cases threshold <;> rfl

variable (follows : course.Follows environment view)
include follows

/-- Looking for a pending event processes none. -/
theorem processes_eventPending :
    Processes threshold environment view course (HostController.ask .eventPending) controller
      (decide (0 < controller.pending)) 0 := by
  rintro state entries rfl
  obtain ⟨reached, answered, seen⟩ := follows.eventPending state
  refine ⟨reached, ?_, seen, ?_⟩
  · rw [run_ask answered, EventCourse.reports, List.range'_zero, List.filterMap_nil,
      List.append_nil]
  · rw [moments_ask answered]
    rfl

/-- A pending event is processed, whatever it returns, and reported if it fails. -/
theorem processes_processOne (some : 0 < controller.pending) :
    Processes threshold environment view course processOne controller () 1 := by
  rintro state entries rfl
  obtain ⟨reached, answered, seen⟩ := follows.processEvent state some
  have ran : (HostController.ask .processEvent).run (Log.collecting threshold environment)
      (state, entries) = _ := run_ask answered entries
  have made : (HostController.ask .processEvent).moments (Log.collecting threshold environment)
      (state, entries) = _ := moments_ask answered entries
  refine ⟨reached, ?_, seen, ?_⟩
  · rw [processOne, bind_eq, run_bind_ok ran, EventCourse.reports, List.range'_one,
      List.filterMap_cons, EventCourse.report?]
    cases course.result (view state).processed with
    | ok _ => rw [List.filterMap_nil, List.append_nil]; rfl
    | error kind => exact run_logError _ reached entries
  · rw [processOne, bind_eq, moments_bind_ok ran, made]
    cases course.result (view state).processed with
    | ok _ => rfl
    | error kind => rfl

/-- Draining processes the events that are due. -/
theorem processes_drain (controller : PendingEvents) (limit : Nat) :
    Processes threshold environment view course (drain limit) controller ()
      (course.dueCount controller limit) := by
  induction limit generalizing controller with
  | zero =>
    rw [course.dueCount_zero]
    exact .done ()
  | succ limit ih =>
    have looked : Processes threshold environment view course (HostController.ask .eventPending)
        controller (decide (0 < controller.pending)) 0 := processes_eventPending follows
    rcases Nat.eq_zero_or_pos controller.pending with none | some
    · rw [EventCourse.dueCount_of_none none]
      refine looked.silent_bind ?_
      rw [if_neg (by simp [none])]
      exact .done ()
    · rw [EventCourse.dueCount_succ some, Nat.add_comm (course.dueCount _ limit) 1]
      refine looked.silent_bind ?_
      rw [if_pos (decide_eq_true some)]
      exact (processes_processOne follows some).bind (ih _)

variable (threshold) in
/-- A message gets the events processed that are due for its budget, and it is a success. -/
theorem processes_handle (controller : PendingEvents) (message : MessageKind) :
    Processes threshold environment view course (handle true message) controller (.ok ())
      (course.dueCount controller eventsPerMessage) := by
  cases message with
  | controllerInterrupt =>
    exact (processes_drain follows controller eventsPerMessage).bind_done
      fun _ => (.ok () : Except Failure Unit)

/-- Messages in a row get the events processed that are due for all their budgets. -/
theorem processes_handleAll (controller : PendingEvents) (messages : List MessageKind) :
    Processes threshold environment view course (messages.mapM (handle true)) controller
      (List.replicate messages.length (.ok ()))
      (course.dueCount controller (eventsPerMessage * messages.length)) := by
  induction messages generalizing controller with
  | nil =>
    rw [List.length_nil, Nat.mul_zero, course.dueCount_zero]
    exact .done []
  | cons message rest ih =>
    rw [List.mapM_cons, List.length_cons, Nat.mul_succ,
      Nat.add_comm (eventsPerMessage * _) eventsPerMessage, EventCourse.dueCount_add]
    refine (processes_handle threshold follows controller message).bind ?_
    exact (ih _).bind_done (List.cons (.ok ()))

omit follows in
/-- Without a controller nothing is asked, and every message fails. -/
theorem handleAll_withoutController (messages : List MessageKind) :
    messages.mapM (handle false) =
      .done (List.replicate messages.length (.error .notFound)) := by
  induction messages with
  | nil => rfl
  | cons message rest ih =>
    rw [List.mapM_cons, ih]
    cases message
    rfl

/-- **Messages get due events processed, each one once and in order.**  A controller may add
events while one is processed, and any event may fail.  A message processes the next events of it,
until none is pending for the first time or `eventsPerMessage` are processed; it is a success,
and the failures are reported in order.  Messages in a row go on with the events where the one
before ended, so together they process as many as are due for all their budgets; if no event is ever
added, that is all that were pending, as far as the budgets go.  Without a controller every message
fails. -/
theorem handle_processes_due_events (threshold : Log.Level) (controller : PendingEvents) :
    (∀ message, Processes threshold environment view course (handle true message) controller
      (.ok ()) (course.dueCount controller eventsPerMessage)) ∧
    (∀ messages : List MessageKind, Processes threshold environment view course
      (messages.mapM (handle true)) controller (List.replicate messages.length (.ok ()))
      (course.dueCount controller (eventsPerMessage * messages.length))) ∧
    ((∀ event, course.adds event = 0) → ∀ count,
      course.dueCount controller (eventsPerMessage * count) =
        min controller.pending (eventsPerMessage * count)) ∧
    ∀ messages : List MessageKind, messages.mapM (handle false) =
      .done (List.replicate messages.length (.error .notFound)) :=
  ⟨processes_handle threshold follows controller, processes_handleAll follows controller,
    fun noneAdded _ => EventCourse.dueCount_of_adds_eq_zero noneAdded controller _,
    handleAll_withoutController⟩

omit follows in
/-- The first of 63 events adds two and fails.  One message then leaves one event, which a second
message processes. -/
theorem handle_processes_due_events_refilled :
    let script : EventScript := ⟨[some .timeout, none, some .notFound], [2]⟩
    let environment := Log.collecting .error (PendingEvents.environment script)
    let reports : List Log.Entry := [⟨.error, "Error while ProcessEvent: Timeout"⟩,
      ⟨.error, "Error while ProcessEvent: NotFound"⟩]
    script.course.Follows (PendingEvents.environment script) id ∧
      (handle true .controllerInterrupt).run environment (⟨63, 0⟩, []) =
        (.ok (.ok ()), (⟨1, 64⟩, reports)) ∧
      ([.controllerInterrupt, .controllerInterrupt].mapM (handle true)).run environment
          (⟨63, 0⟩, []) =
        (.ok [.ok (), .ok ()], (⟨0, 65⟩, reports)) := by
  intro script environment reports
  obtain ⟨one, several, -, -⟩ :=
    handle_processes_due_events script.follows .error (⟨63, 0⟩ : PendingEvents)
  have dueFirst : script.course.dueCount ⟨63, 0⟩ eventsPerMessage = 64 := by decide +kernel
  have dueBoth : script.course.dueCount ⟨63, 0⟩ (eventsPerMessage * 2) = 65 := by decide +kernel
  have reportsFirst : script.course.reports 0 64 = reports := by decide +kernel
  have reportsBoth : script.course.reports 0 65 = reports := by decide +kernel
  have afterFirst : script.course.after ⟨63, 0⟩ 64 = ⟨1, 64⟩ := by decide +kernel
  have afterBoth : script.course.after ⟨63, 0⟩ 65 = ⟨0, 65⟩ := by decide +kernel
  refine ⟨script.follows, ?_, ?_⟩
  · obtain ⟨reached, ran, seen, -⟩ := one .controllerInterrupt ⟨63, 0⟩ [] rfl
    rw [dueFirst] at ran seen
    rw [ran, reportsFirst, ← afterFirst, ← seen]
    rfl
  · obtain ⟨reached, ran, seen, -⟩ :=
      several [.controllerInterrupt, .controllerInterrupt] ⟨63, 0⟩ [] rfl
    rw [List.length_cons, List.length_singleton, dueBoth] at ran seen
    rw [ran, reportsBoth, ← afterBoth, ← seen]
    rfl

end EventHandler

end KernelStart.Usb
