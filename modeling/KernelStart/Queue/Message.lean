import KernelStart.Failure
import KernelStart.Queue.Fifo
import KernelStart.Stop

/-!
# Messages between interrupt handlers and the main loop

A message is a one-byte tag.  The tag is kept raw so that one the loop does not know
can be reported instead of misread.  Messages wait in a bounded queue: a full queue
turns a message away and counts it, and nothing already queued is overwritten.
Taking the count sets it back to zero.
-/

set_option autoImplicit false

namespace KernelStart

/-- What the loop knows how to handle. -/
inductive MessageKind where
  /-- The host controller raised an interrupt. -/
  | controllerInterrupt
  deriving DecidableEq, Repr

namespace MessageKind

/-- The tag of a known message. -/
def tag : MessageKind → UInt8
  | controllerInterrupt => 0

/-- The name under which a known message is reported. -/
def name : MessageKind → String
  | controllerInterrupt => "InterruptXhci"

end MessageKind

/-- A notification of one byte. -/
structure Message where
  tag : UInt8
  deriving DecidableEq, Repr, Inhabited

namespace Message

def ofType (type : MessageKind) : Message := ⟨type.tag⟩

/-- The known message with this tag, if there is one. -/
def type? (message : Message) : Option MessageKind :=
  if message.tag = 0 then some .controllerInterrupt else none

@[simp] theorem type?_ofType (type : MessageKind) : (ofType type).type? = some type := by
  cases type; rfl

end Message

/-- A bounded queue of messages and the number turned away since the count was last taken.  The
count lives in a machine word of 64 bits.  An operation raises it by one at most, so no run that
can take place comes to the end of the word, and the count is a plain number here. -/
structure MessageQueue where
  capacity : Nat
  pending : Fifo Message
  dropped : Nat

namespace MessageQueue

/-- An empty queue. -/
def ofCapacity (capacity : Nat) : MessageQueue := ⟨capacity, .empty, 0⟩

/-- Bytes that a queue sets aside for each message. -/
def slotSize : Nat := 16

/-- No block of memory has more bytes than this. -/
def blockLimit : Nat := (1 <<< 63) - 1

/-- An empty queue with all its slots set aside: there has to be one, and all of them have to
fit one block of memory. -/
def allocate (capacity : Nat) : Except Panic MessageQueue :=
  if capacity = 0 then .error .queueWithoutRoom
  else if blockLimit < capacity * slotSize then .error .queueTooLarge
  else .ok (ofCapacity capacity)

/-- The waiting messages, front first. -/
def toList (queue : MessageQueue) : List Message := queue.pending.toList

def isEmpty (queue : MessageQueue) : Bool := queue.pending.size == 0

def isFull (queue : MessageQueue) : Bool := decide (queue.capacity ≤ queue.pending.size)

/-- Adds a message at the back, or counts it as dropped when the queue is full. -/
def push (queue : MessageQueue) (message : Message) : Except Failure Unit × MessageQueue :=
  if queue.isFull then
    (.error .resourceExhausted, { queue with dropped := queue.dropped + 1 })
  else
    (.ok (), { queue with pending := queue.pending.push message })

/-- Takes the message at the front. -/
def pop (queue : MessageQueue) : Option Message × MessageQueue :=
  match queue.pending.pop? with
  | some (message, rest) => (some message, { queue with pending := rest })
  | none => (none, queue)

/-- The number of messages turned away since the last call. -/
def takeDropCount (queue : MessageQueue) : Nat × MessageQueue :=
  (queue.dropped, { queue with dropped := 0 })

/-- Takes every waiting message, front first. -/
def drain (queue : MessageQueue) : List Message × MessageQueue :=
  (queue.toList, { queue with pending := .empty })

/-! ## Operations as values -/

/-- What can be done to a queue. -/
inductive Operation where
  | push (message : Message)
  | pop
  | isEmpty
  | capacity
  | takeDropCount
  deriving DecidableEq, Repr

/-- What an operation on a queue reports. -/
inductive Reply where
  | pushed (result : Except Failure Unit)
  | popped (message : Option Message)
  | truth (value : Bool)
  | count (value : Nat)

/-- Carries out one operation. -/
def perform (queue : MessageQueue) : Operation → Reply × MessageQueue
  | .push message =>
    let (result, next) := queue.push message
    (.pushed result, next)
  | .pop =>
    let (message, next) := queue.pop
    (.popped message, next)
  | .isEmpty => (.truth queue.isEmpty, queue)
  | .capacity => (.count queue.capacity, queue)
  | .takeDropCount =>
    let (count, next) := queue.takeDropCount
    (.count count, next)

/-! ## What the operations do to the view -/

theorem size_pending (queue : MessageQueue) : queue.pending.size = queue.toList.length :=
  queue.pending.size_eq_length

theorem isFull_iff (queue : MessageQueue) :
    queue.isFull = true ↔ queue.capacity ≤ queue.toList.length := by
  rw [isFull, decide_eq_true_iff, size_pending]

@[simp] theorem capacity_push (queue : MessageQueue) (message : Message) :
    (queue.push message).2.capacity = queue.capacity := by
  unfold push
  split <;> rfl

/-- A message is accepted exactly when the queue is not full. -/
theorem isOk_push (queue : MessageQueue) (message : Message) :
    (queue.push message).1.isOk = !queue.isFull := by
  unfold push
  cases queue.isFull <;> rfl

@[simp] theorem capacity_pop (queue : MessageQueue) : queue.pop.2.capacity = queue.capacity := by
  unfold pop
  split <;> rfl

theorem toList_push (queue : MessageQueue) (message : Message) :
    (queue.push message).2.toList =
      if queue.isFull then queue.toList else queue.toList ++ [message] := by
  unfold push toList
  split <;> simp

theorem toList_pop (queue : MessageQueue) :
    ((queue.pop).1, (queue.pop).2.toList) =
      match queue.toList with
      | [] => (none, [])
      | message :: rest => (some message, rest) := by
  have taken := queue.pending.toList_pop?
  unfold pop toList
  cases popped : queue.pending.pop? with
  | none =>
    rw [popped] at taken
    split at taken
    · next view_eq => simp [view_eq]
    · simp at taken
  | some pair =>
    rw [popped] at taken
    split at taken
    · simp at taken
    · next view_eq =>
      simp only [Option.map_some, Option.some.injEq, Prod.mk.injEq] at taken
      simp [view_eq, taken.1, taken.2]

/-- What is taken and what stays are what was queued, in order. -/
theorem pop_append_toList (queue : MessageQueue) :
    queue.pop.1.toList ++ queue.pop.2.toList = queue.toList := by
  have popped := queue.toList_pop
  cases queued : queue.toList with
  | nil =>
    rw [queued, Prod.mk.injEq] at popped
    rw [popped.1, popped.2]
    rfl
  | cons message rest =>
    rw [queued, Prod.mk.injEq] at popped
    rw [popped.1, popped.2]
    rfl

theorem pop_of_empty {queue : MessageQueue} (empty : queue.toList = []) :
    queue.pop.1 = none := by
  have popped := queue.toList_pop
  rw [empty, Prod.mk.injEq] at popped
  exact popped.1

/-- Taking from an empty queue changes nothing. -/
theorem pop_eq_self_of_empty {queue : MessageQueue} (empty : queue.toList = []) :
    queue.pop.2 = queue := by
  have nothing := pop_of_empty empty
  unfold pop at nothing ⊢
  split
  · next taken =>
    rw [taken] at nothing
    cases nothing
  · rfl

theorem pop_of_front {queue : MessageQueue} {message : Message} {rest : List Message}
    (front : queue.toList = message :: rest) : queue.pop.1 = some message := by
  have popped := queue.toList_pop
  rw [front, Prod.mk.injEq] at popped
  exact popped.1

end MessageQueue

end KernelStart
