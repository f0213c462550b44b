import Mathlib.Algebra.GroupWithZero.Nat
import KernelStart.Queue.MainQueue

/-!
# Histories of the main queue

A history is any sequence of operations on the cell of the main queue: creations, signals
from interrupt context, and operations of the consuming end, in any order.  `turns` carries
one out and keeps of each operation what it found, what it reported and what it left; what
became of the messages can be read off these.

A signal reports nothing, so whether a message was accepted is told from the contents of the
queue and not from a report: it was if it is the last one queued afterwards.

Where queues come from is a parameter.  `stepFrom` leaves the making of a queue to `build`, and
is `step` if that is the allocation of its slots in memory (`stepFrom_allocate`).
-/

set_option autoImplicit false

namespace KernelStart.MainQueue

/-! ## Carrying out a history -/

/-- Carries out one operation.  The queue that a creation puts into the cell is made by `build`. -/
def stepFrom (build : Nat → Except Panic MessageQueue) (cell : MainQueue)
    (operation : Operation) : Except Panic Reply × MainQueue :=
  match cell, operation with
  | .absent, .create capacity =>
    match build capacity with
    | .ok queue => (.ok (.created (.ok capacity)), .created queue)
    | .error cause => (.error cause, .poisoned)
  | cell, operation => cell.step operation

theorem stepFrom_allocate (cell : MainQueue) (operation : Operation) :
    cell.stepFrom MessageQueue.allocate operation = cell.step operation := by
  cases cell with
  | absent =>
    cases operation with
    | create capacity =>
      simp only [stepFrom, step, create]
      cases MessageQueue.allocate capacity <;> rfl
    | isCreated => rfl
    | signal _ => rfl
    | onQueue _ => rfl
  | created _ => rfl
  | poisoned => rfl

/-- An operation with what it found, what it reported and what it left. -/
structure Turn where
  operation : Operation
  found : MainQueue
  reply : Except Panic Reply
  left : MainQueue

/-- Carries out one operation and keeps account of it. -/
def turn (build : Nat → Except Panic MessageQueue) (cell : MainQueue) (operation : Operation) :
    Turn :=
  ⟨operation, cell, (cell.stepFrom build operation).1, (cell.stepFrom build operation).2⟩

/-- Carries out a history and keeps account of it. -/
def turns (build : Nat → Except Panic MessageQueue) (cell : MainQueue) :
    List Operation → List Turn
  | [] => []
  | operation :: rest =>
    cell.turn build operation :: turns build (cell.turn build operation).left rest

/-- What a history leaves. -/
def after (build : Nat → Except Panic MessageQueue) (cell : MainQueue) :
    List Operation → MainQueue
  | [] => cell
  | operation :: rest => after build (cell.turn build operation).left rest

/-! ## What can be seen of a cell -/

/-- The waiting messages, front first. -/
def contents : MainQueue → List Message
  | absent => []
  | created queue => queue.toList
  | poisoned => []

/-- The number of messages turned away since the count was last taken. -/
def dropCount : MainQueue → Nat
  | absent => 0
  | created queue => queue.dropped
  | poisoned => 0

/-- The capacity of the queue, once there is one. -/
def capacity? : MainQueue → Option Nat
  | absent => none
  | created queue => some queue.capacity
  | poisoned => none

/-! ## Creations -/

/-- The capacity that an operation asks for. -/
def Operation.capacity? : Operation → Option Nat
  | create capacity => some capacity
  | _ => none

/-- The capacities that a history asks for, in order. -/
def asked (history : List Operation) : List Nat := history.filterMap Operation.capacity?

/-- Outcomes of creations of which exactly the first succeeds. -/
def firstSucceeds : List Nat → List (Except Failure Nat)
  | [] => []
  | capacity :: later => .ok capacity :: later.map fun _ => .error .alreadyInitialized

namespace Turn

/-- The outcome of a creation. -/
def creation? (turn : Turn) : Option (Except Failure Nat) :=
  match turn.reply with
  | .ok (.created outcome) => some outcome
  | _ => none

/-! ## Messages -/

/-- The message that is offered to the queue, by a signal or a push; without a queue there is
nothing to offer it to. -/
def offered? (turn : Turn) : Option Message :=
  match turn.found, turn.operation with
  | .created _, .signal message => some message
  | .created _, .onQueue (.push message) => some message
  | _, _ => none

/-- The message that was offered, if it is queued behind those that were there. -/
def accepted? (turn : Turn) : Option Message :=
  turn.offered?.filter fun message => turn.left.contents = turn.found.contents ++ [message]

/-- The message that was taken from the queue. -/
def popped? (turn : Turn) : Option Message :=
  match turn.reply with
  | .ok (.fromQueue (some (.popped message))) => message
  | _ => none

/-- How many dropped messages were taken off the count. -/
def taken (turn : Turn) : Nat :=
  match turn.operation, turn.reply with
  | .onQueue .takeDropCount, .ok (.fromQueue (some (.count count))) => count
  | _, _ => 0

/-- Whether a push was reported to have been accepted. -/
def pushed? (turn : Turn) : Option (Except Failure Unit) :=
  match turn.reply with
  | .ok (.fromQueue (some (.pushed result))) => some result
  | _ => none

end Turn

/-! ## The account of a history -/

/-- What comes of a history that finds no queue. -/
structure Accounts (history : List Operation) (turns : List Turn) (last : MainQueue) : Prop where
  /-- No operation panics. -/
  returns : ∀ turn ∈ turns, ∃ reply, turn.reply = .ok reply
  /-- Exactly the first creation succeeds. -/
  creations : turns.filterMap Turn.creation? = firstSucceeds (asked history)
  /-- It fixes the capacity. -/
  capacity : last.capacity? = (asked history).head?
  /-- Every later creation leaves the queue with its messages and its count. -/
  later : ∀ turn ∈ turns, turn.operation.capacity? ≠ none → ∀ queue, turn.found = .created queue →
    turn.left = .created queue
  /-- Without a creation nothing leaves a trace. -/
  traceless : asked history = [] → last = .absent
  /-- Messages leave in the order in which they were accepted. -/
  order : turns.filterMap Turn.accepted? = turns.filterMap Turn.popped? ++ last.contents
  /-- A message is accepted exactly if the queue holds fewer than it can. -/
  room : ∀ turn ∈ turns, ∀ message, turn.offered? = some message →
    ∃ capacity, (asked history).head? = some capacity ∧
      (turn.accepted? = some message ↔ turn.found.contents.length < capacity)
  /-- A push reports whether its message was accepted. -/
  reports : ∀ turn ∈ turns, ∀ message, turn.operation = .onQueue (.push message) →
    turn.offered? = some message →
      (turn.pushed? = some (.ok ()) ∧ turn.accepted? = some message) ∨
        (turn.pushed? = some (.error .resourceExhausted) ∧ turn.accepted? = none)
  /-- Every message offered was popped, is queued, or was counted as dropped. -/
  sum : (turns.filterMap Turn.offered?).length =
    (turns.filterMap Turn.popped?).length + last.contents.length +
      (turns.map Turn.taken).sum + last.dropCount

end KernelStart.MainQueue
