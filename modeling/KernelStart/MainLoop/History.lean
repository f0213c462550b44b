import KernelStart.MainLoop.Rig

/-!
# Histories of the rig

A history is any sequence of the four things that can happen around the main loop: the
loop takes one step, interrupts are raised, interrupts are masked from outside the loop,
or they are unmasked.  The order is arbitrary, so a history stands for one interleaving
of the interrupts with the loop; what a handler raises while it runs comes on top.

`Rig.live` carries out a history and collects the replies.  What is raised along it is read
off the history and the handler (`Rig.raisedAlong`), and the messages that the loop says it
handled are read off the replies.  What came to the queue in between is read off the account
that the rig keeps: `Rig.arrived` are all messages that came there, and `Rig.accepted` those
of them that found room.
-/

set_option autoImplicit false

namespace KernelStart.MainLoop

/-- What can happen around the main loop. -/
inductive Stimulus where
  | cycle
  | raise (messages : List Message)
  | mask
  | unmask

/-- A stimulus as an operation at the rig. -/
def Stimulus.operation : Stimulus → Rig.Operation
  | .cycle => .cycle
  | .raise messages => .raise messages
  | .mask => .mask
  | .unmask => .unmask

/-- The message that a reply reports as handled. -/
def Rig.Reply.handled? : Rig.Reply → Option Message
  | .outcome (.handled message) => some message
  | _ => none

/-- What is read off replies is read off one after the other. -/
theorem Rig.Reply.filterMap_cons {α : Type} (read : Reply → Option α) (reply : Reply)
    (replies : List Reply) :
    (reply :: replies).filterMap read = (read reply).toList ++ replies.filterMap read := by
  rw [List.filterMap_cons]
  cases read reply <;> rfl

namespace Rig

variable {η : Type}

/-- Carries out operations in order. -/
def performAll (threshold : Log.Level) (handler : Handler η) (rig : Rig η) :
    List Operation → List Reply × Rig η
  | [] => ([], rig)
  | operation :: rest =>
    let (reply, reached) := rig.perform threshold handler operation
    let (replies, last) := reached.performAll threshold handler rest
    (reply :: replies, last)

/-- Carries out a history. -/
def live (threshold : Log.Level) (handler : Handler η) (rig : Rig η) (history : List Stimulus) :
    List Reply × Rig η :=
  rig.performAll threshold handler (history.map Stimulus.operation)

/-! ## What is raised -/

/-- The messages that a stimulus raises: those it names, or those that the handler raises on the
message at the front of the queue. -/
def raises (handler : Handler η) (rig : Rig η) : Stimulus → List Message
  | .cycle =>
    match rig.queue.toList.head?.bind Message.type? with
    | none => []
    | some type => (handler.handle type rig.handlerState).1.raised
  | .raise messages => messages
  | .mask => []
  | .unmask => []

/-- All messages that are raised along a history, in order. -/
def raisedAlong (threshold : Log.Level) (handler : Handler η) (rig : Rig η) :
    List Stimulus → List Message
  | [] => []
  | stimulus :: rest =>
    rig.raises handler stimulus ++
      (rig.perform threshold handler stimulus.operation).2.raisedAlong threshold handler rest

/-! ## The account of the messages -/

/-- All messages that arrived at the queue, in order. -/
def arrived (rig : Rig η) : List Message := rig.arrivals.reverse.map (·.message)

/-- The messages that the queue had room for, in order of arrival. -/
def accepted (rig : Rig η) : List Message :=
  (rig.arrivals.reverse.filter (·.accepted)).map (·.message)

end Rig

end KernelStart.MainLoop
