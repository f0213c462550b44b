import KernelStart.Proofs.EventProcessing
import KernelStart.Proofs.MessageConservation

/-!
# How many events are left when the loop sleeps

A message makes the handler drain the controller, but only of so many events; what is left
waits for another message.  So two counts decide what the controller still has when the loop
finds the queue empty: the events that were pending, and the messages handled since.

`PendingEvents.drained` is a controller that was drained of a number of events.  One message
drains `eventsPerMessage` of them (`draining_handle`), because no more are due
(`after_dueCount`), several what each of them drains (`after_draining`), and a history as many as
its replies report messages as handled (`handlerState_live`).  Events are stranded exactly when
there were more of them than the messages could drain (`live_drains`): the budget alone bounds what
one message does, and the loop does not come back for the rest by itself
(`live_strands_beyond_budget`).
-/

set_option autoImplicit false

namespace KernelStart

/-! ## Draining a controller that gets no new events -/

namespace Usb

/-- The controller after at most `count` of its events were processed. -/
def PendingEvents.drained (controller : PendingEvents) (count : Nat) : PendingEvents where
  pending := controller.pending - count
  processed := controller.processed + min controller.pending count

namespace PendingEvents

@[simp] theorem drained_zero (controller : PendingEvents) : controller.drained 0 = controller := by
  simp [drained]

/-- Draining twice drains of both counts. -/
theorem drained_drained (controller : PendingEvents) (first second : Nat) :
    (controller.drained first).drained second = controller.drained (first + second) := by
  simp only [drained, mk.injEq]
  omega

/-- Processing the events that are due, of which none raises another, drains the controller. -/
theorem after_dueCount (results : List (Option Failure)) (controller : PendingEvents)
    (limit : Nat) :
    let course := (EventScript.mk results []).course
    course.after controller (course.dueCount controller limit) = controller.drained limit := by
  intro course
  have noneAdded (event : Nat) : course.adds event = 0 := rfl
  rw [EventCourse.dueCount_of_adds_eq_zero noneAdded, EventCourse.after_of_adds_eq_zero noneAdded,
    drained, mk.injEq]
  omega

end PendingEvents

end Usb

namespace MainLoop

open Usb (PendingEvents)
open Usb.EventHandler (eventsPerMessage)

/-- A message drains a controller that is there of as many events as one message may, and
raises no interrupts. -/
theorem Handler.draining_handle (results : List (Option Failure)) (type : MessageKind)
    (controller : PendingEvents) :
    ((draining ⟨results, []⟩).handle type (some controller)).2 =
      some (controller.drained eventsPerMessage) := by
  obtain ⟨reached, handled, drained, -⟩ := Usb.EventHandler.processes_handle .debug
    (Usb.EventScript.follows ⟨results, []⟩) controller type controller [] rfl
  rw [PendingEvents.after_dueCount, id] at drained
  simp only [draining, Option.isSome_some, Option.getD_some, handled, drained, Option.map_some]

/-- A list of calls drains the controller of as many events as all of them may. -/
theorem Handler.after_draining (results : List (Option Failure)) (controller : PendingEvents)
    (calls : List MessageKind) :
    (draining ⟨results, []⟩).after (some controller) calls =
      some (controller.drained (eventsPerMessage * calls.length)) := by
  induction calls generalizing controller with
  | nil => exact congrArg some controller.drained_zero.symm
  | cons type rest ih =>
    have first := draining_handle results type controller
    have later := ih (controller.drained eventsPerMessage)
    rw [PendingEvents.drained_drained, ← first] at later
    rw [List.length_cons, Nat.mul_succ, Nat.add_comm]
    exact later

namespace Rig

/-- The reply reports an interrupt of the controller as handled. -/
def Reply.isInterrupt (reply : Reply) : Bool :=
  reply.handled?.any fun message => message.type? == some .controllerInterrupt

/-- The reply reports that the queue was empty and the processor slept. -/
def Reply.isIdle : Reply → Bool
  | .outcome .idle => true
  | _ => false

/-- How many interrupts of the controller the replies report as handled. -/
def interruptsHandled (replies : List Reply) : Nat := replies.countP Reply.isInterrupt

/-- A reply reports an interrupt of the controller if it reports a message with a known type. -/
theorem length_filterMap_type? (replies : List Reply) :
    (replies.filterMap Reply.type?).length = interruptsHandled replies := by
  rw [List.length_filterMap_eq_countP, interruptsHandled]
  refine List.countP_congr fun reply _ => ?_
  rw [Reply.isInterrupt, Reply.type?]
  cases reply.handled? with
  | none => rfl
  | some message =>
    rw [Option.bind_some, Option.any_some]
    rcases message.type? with _ | ⟨⟨⟩⟩ <;> rfl

/-! ## What a history drains -/

variable {rig : Rig (Option PendingEvents)} {controller : PendingEvents}

/-- A history drains the controller for each interrupt that its replies report as handled. -/
theorem handlerState_live (present : rig.handlerState = some controller)
    (threshold : Log.Level) (results : List (Option Failure)) (history : List Stimulus) :
    (rig.live threshold (.draining ⟨results, []⟩) history).2.handlerState =
      some (controller.drained (eventsPerMessage *
        interruptsHandled (rig.live threshold (.draining ⟨results, []⟩) history).1)) := by
  rw [handlerState_live_eq, present, Handler.after_draining, length_filterMap_type?]

/-- **When the loop sleeps, no event is left if the messages handled could drain them all.**  A
history begins when events have become pending at a controller that gets no others.  Each
interrupt of the controller that the loop handles takes `eventsPerMessage` of them away, and
nothing else does; so if the loop finds the queue empty, no event is pending exactly when there
was a message handled for every `eventsPerMessage` of them or part of as many. -/
theorem live_drains (present : rig.handlerState = some controller) (threshold : Log.Level)
    (results : List (Option Failure)) (history : List Stimulus) :
    let lived := rig.live threshold (.draining ⟨results, []⟩) history
    ∃ left, lived.2.handlerState = some left ∧
      left.pending = controller.pending - eventsPerMessage * interruptsHandled lived.1 ∧
      (lived.1.getLast?.any Reply.isIdle = true →
        (left.pending = 0 ↔
          controller.pending ≤ eventsPerMessage * interruptsHandled lived.1)) := by
  have drained := handlerState_live present threshold results history
  exact ⟨_, drained, rfl, fun _ => Nat.sub_eq_zero_iff_le⟩

/-- Two messages are enough for 70 events, the first of which fails, and a message of unknown type
between them makes no difference. -/
theorem live_drains_two_messages :
    let before := start (.ofCapacity 2) (some ⟨70, 0⟩)
    let interrupt := Message.ofType .controllerInterrupt
    let history := [.raise [interrupt, ⟨7⟩], .cycle, .cycle, .raise [interrupt], .cycle, .cycle]
    let lived := before.live .debug (.draining ⟨[some .timeout], []⟩) history
    before.handlerState = some ⟨70, 0⟩ ∧ lived.1.getLast?.any Reply.isIdle = true ∧
      interruptsHandled lived.1 = 2 ∧
      ∃ left, lived.2.handlerState = some left ∧ left.pending = 0 := by
  intro before interrupt history
  dsimp only
  have present : before.handlerState = some ⟨70, 0⟩ := rfl
  obtain ⟨left, reached_eq, -, drained⟩ := live_drains present .debug [some .timeout] history
  refine ⟨present, by decide +kernel, by decide +kernel, left, reached_eq, ?_⟩
  exact (drained (by decide +kernel)).2 (by decide +kernel)

/-- One event more than a message can drain is left when the loop sleeps, although a message was
handled since the events became pending. -/
theorem live_strands_beyond_budget :
    let before := start (.ofCapacity 1) (some ⟨eventsPerMessage + 1, 0⟩)
    let lived := before.live .debug (.draining ⟨[], []⟩)
      [.raise [.ofType .controllerInterrupt], .cycle, .cycle]
    lived.1.getLast?.any Reply.isIdle = true ∧ interruptsHandled lived.1 = 1 ∧
      lived.2.handlerState = some ⟨1, eventsPerMessage⟩ := by
  decide +kernel

end Rig

end MainLoop

end KernelStart
