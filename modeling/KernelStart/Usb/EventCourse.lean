import KernelStart.Program.Requests
import KernelStart.Usb.EventHandler
import KernelStart.Usb.Scripted

/-!
# What processing events comes to

A controller numbers its events in the order in which it processes them.  An `EventCourse` says
of each number what the result is and how many further events become pending, so it fixes what is
pending after any number of events (`EventCourse.after`) and which failures are to be reported
(`EventCourse.reports`).  Whether a controller of any kind keeps to a course is
`EventCourse.Follows`; the scripted one does.

`EventCourse.dueCount` is the number of events that are due if at most `limit` may be processed:
the least number after which none is pending, or the limit.  What a program really does is read
off its run: `processedEvents` are the numbers of the events that it processes.
-/

set_option autoImplicit false

namespace KernelStart.Usb

/-- What processing each event returns, and how many further events it makes pending. -/
structure EventCourse where
  result : Nat → Except Failure Unit
  adds : Nat → Nat

namespace EventCourse

variable (course : EventCourse)

/-- The controller after its next event. -/
def next (controller : PendingEvents) : PendingEvents where
  pending := controller.pending - 1 + course.adds controller.processed
  processed := controller.processed + 1

/-- The controller after a number of events. -/
def after (controller : PendingEvents) : Nat → PendingEvents
  | 0 => controller
  | count + 1 => after (course.next controller) count

/-- No event is pending after this number of them. -/
def isQuietAfter (controller : PendingEvents) (count : Nat) : Bool :=
  (course.after controller count).pending == 0

/-- The least number of events, up to a limit, after which none is pending; the limit if there is
no such number. -/
def dueCount (controller : PendingEvents) (limit : Nat) : Nat :=
  ((List.range (limit + 1)).find? (course.isQuietAfter controller)).getD limit

/-- The log entry about an event, if it fails. -/
def report? (event : Nat) : Option Log.Entry :=
  match course.result event with
  | .ok _ => none
  | .error kind => some ⟨.error, s!"Error while ProcessEvent: {kind.name}"⟩

/-- The log entries about consecutive events, one for each that fails. -/
def reports (first count : Nat) : List Log.Entry :=
  (List.range' first count).filterMap course.report?

/-- The controller keeps to the course, as far as its events are concerned: it says truly whether
one is pending, and processing one returns what the course says and has the effect that it says. -/
structure Follows {σ : Type} (environment : Environment HostController σ)
    (view : σ → PendingEvents) : Prop where
  eventPending (state : σ) : ∃ reached,
    environment .eventPending state = (.ok (decide (0 < (view state).pending)), reached) ∧
      view reached = view state
  processEvent (state : σ) (some : 0 < (view state).pending) : ∃ reached,
    environment .processEvent state = (.ok (course.result (view state).processed), reached) ∧
      view reached = course.next (view state)

end EventCourse

/-- The course that a script describes. -/
def EventScript.course (script : EventScript) : EventCourse where
  result := scriptedResult script.results
  adds event := script.adds.getD event 0

/-- A controller that only has events follows its script. -/
theorem EventScript.follows (script : EventScript) :
    script.course.Follows (PendingEvents.environment script) id where
  eventPending state := ⟨state, rfl, rfl⟩
  processEvent state _ := ⟨state.process script, rfl, rfl⟩

/-- The numbers of the events that are processed at these moments. -/
def processedEvents {σ : Type} (view : σ → PendingEvents)
    (moments : List (Moment (Logged HostController) (σ × List Log.Entry))) : List Nat :=
  moments.filterMap fun moment =>
    match moment.request with
    | .plain .processEvent => some (view moment.state.1).processed
    | _ => none

end KernelStart.Usb
