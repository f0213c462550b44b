import KernelStart.Queue.History

/-!
# What the message queue relies on

Two parts of the message queue come from libraries: a bounded queue that may be used from
interrupt context, and a cell that is written once.  What they do is stated here as laws of
operations (`BoundedQueue.Laws`, `WriteOnce.Laws`), over what can be seen of a carrier: the waiting
elements of a queue, and the value of a cell.

`CountedQueue` and `MainQueue.stepWith` are the message queue and the operations of the main queue
over any such parts.  The slots of a `MessageQueue` and the cell of a `MainQueue` are parts of that
kind (`MessageQueue.slots_laws`, `MainQueue.cell_laws`), and the operations over them are those of
the main queue (`MainQueue.stepWith_cell`).
-/

set_option autoImplicit false

namespace KernelStart

/-! ## Bounded queues -/

/-- The operations of a bounded queue. -/
structure BoundedQueue (α : Type) where
  Carrier : Type
  /-- Makes an empty queue, or panics. -/
  make : Nat → Except Panic Carrier
  /-- Adds an element at the back; without room the element is given back. -/
  push : Carrier → α → Except α Unit × Carrier
  /-- Takes the element at the front. -/
  pop : Carrier → Option α × Carrier
  isEmpty : Carrier → Bool
  capacity : Carrier → Nat

/-- What is documented of a bounded queue, in terms of the elements that wait in it. -/
structure BoundedQueue.Laws {α : Type} (queue : BoundedQueue α)
    (waiting : queue.Carrier → List α) : Prop where
  make : ∀ capacity made, queue.make capacity = .ok made →
    waiting made = [] ∧ queue.capacity made = capacity
  push_room : ∀ carrier element, (waiting carrier).length < queue.capacity carrier →
    (queue.push carrier element).1 = .ok () ∧
      waiting (queue.push carrier element).2 = waiting carrier ++ [element]
  push_full : ∀ carrier element, queue.capacity carrier ≤ (waiting carrier).length →
    (queue.push carrier element).1 = .error element ∧
      waiting (queue.push carrier element).2 = waiting carrier
  pop : ∀ carrier, (queue.pop carrier).1 = (waiting carrier).head? ∧
    waiting (queue.pop carrier).2 = (waiting carrier).tail
  isEmpty : ∀ carrier, queue.isEmpty carrier = (waiting carrier).isEmpty
  capacity_push : ∀ carrier element,
    queue.capacity (queue.push carrier element).2 = queue.capacity carrier
  capacity_pop : ∀ carrier, queue.capacity (queue.pop carrier).2 = queue.capacity carrier

/-! ## Cells that are written once -/

/-- The operations of a cell that is written once.  A value can be changed in its place, through
what it is made of. -/
structure WriteOnce (β : Type) where
  Carrier : Type
  empty : Carrier
  /-- Puts in what is made, if the cell is empty, and tells whether it was; making may panic. -/
  init : Carrier → Except Panic β → Except Panic Bool × Carrier
  /-- The value, if there is one. -/
  value? : Carrier → Except Panic (Option β)
  change : Carrier → (β → β) → Carrier

/-- What is documented of such a cell: the first value stays, and after a panic while it was made
the cell cannot be used. -/
structure WriteOnce.Laws {β : Type} (cell : WriteOnce β) : Prop where
  empty : cell.value? cell.empty = .ok none
  init_first : ∀ carrier value, cell.value? carrier = .ok none →
    (cell.init carrier (.ok value)).1 = .ok true ∧
      cell.value? (cell.init carrier (.ok value)).2 = .ok (some value)
  init_panic : ∀ carrier cause, cell.value? carrier = .ok none →
    (cell.init carrier (.error cause)).1 = .error cause ∧
      cell.value? (cell.init carrier (.error cause)).2 = .error .mainQueuePoisoned
  init_again : ∀ carrier made value, cell.value? carrier = .ok (some value) →
    (cell.init carrier made).1 = .ok false ∧
      cell.value? (cell.init carrier made).2 = .ok (some value)
  init_poisoned : ∀ carrier made cause, cell.value? carrier = .error cause →
    (cell.init carrier made).1 = .error cause ∧
      cell.value? (cell.init carrier made).2 = .error cause
  change : ∀ carrier value replace, cell.value? carrier = .ok (some value) →
    cell.value? (cell.change carrier replace) = .ok (some (replace value))

/-! ## The message queue over its parts -/

/-- A bounded queue of messages and the number turned away since the count was last taken. -/
structure CountedQueue (parts : BoundedQueue Message) where
  waiting : parts.Carrier
  dropped : Nat

namespace CountedQueue

variable {parts : BoundedQueue Message}

def make (parts : BoundedQueue Message) (capacity : Nat) : Except Panic (CountedQueue parts) :=
  (parts.make capacity).map fun made => ⟨made, 0⟩

/-- Adds a message at the back, or counts it as dropped when it is given back. -/
def push (queue : CountedQueue parts) (message : Message) :
    Except Failure Unit × CountedQueue parts :=
  match parts.push queue.waiting message with
  | (.ok _, waiting) => (.ok (), { queue with waiting := waiting })
  | (.error _, waiting) => (.error .resourceExhausted, ⟨waiting, queue.dropped + 1⟩)

/-- Carries out one operation. -/
def perform (queue : CountedQueue parts) :
    MessageQueue.Operation → MessageQueue.Reply × CountedQueue parts
  | .push message =>
    let (result, next) := queue.push message
    (.pushed result, next)
  | .pop =>
    let (message, waiting) := parts.pop queue.waiting
    (.popped message, { queue with waiting := waiting })
  | .isEmpty => (.truth (parts.isEmpty queue.waiting), queue)
  | .capacity => (.count (parts.capacity queue.waiting), queue)
  | .takeDropCount => (.count queue.dropped, { queue with dropped := 0 })

end CountedQueue

namespace MainQueue

/-! ## The main queue over its parts -/

section

variable {parts : BoundedQueue Message} (cells : WriteOnce (CountedQueue parts))

/-- Carries out one operation on the main queue. -/
def stepWith (cell : cells.Carrier) : Operation → Except Panic Reply × cells.Carrier
  | .create capacity =>
    let (outcome, next) := cells.init cell (CountedQueue.make parts capacity)
    let report (isFirst : Bool) : Reply :=
      .created (if isFirst then .ok capacity else .error .alreadyInitialized)
    (outcome.map report, next)
  | .isCreated => ((cells.value? cell).map fun queue => .truth queue.isSome, cell)
  | .signal message =>
    match cells.value? cell with
    | .ok none => (.ok .nothing, cell)
    | .ok (some _) => (.ok .nothing, cells.change cell fun queue => (queue.push message).2)
    | .error cause => (.error cause, cell)
  | .onQueue operation =>
    match cells.value? cell with
    | .ok none => (.ok (.fromQueue none), cell)
    | .ok (some queue) =>
      (.ok (.fromQueue (some (queue.perform operation).1)),
        cells.change cell fun queue => (queue.perform operation).2)
    | .error cause => (.error cause, cell)

/-- What the operations of a history report, one after the other. -/
def repliesWith (cell : cells.Carrier) : List Operation → List (Except Panic Reply)
  | [] => []
  | operation :: rest =>
    (stepWith cells cell operation).1 :: repliesWith (stepWith cells cell operation).2 rest

/-- What a history leaves. -/
def afterWith (cell : cells.Carrier) : List Operation → cells.Carrier
  | [] => cell
  | operation :: rest => afterWith (stepWith cells cell operation).2 rest

end

end MainQueue

/-! ## The parts of the program -/

namespace MessageQueue

/-- The slots of a message queue: its capacity, and a queue of any length. -/
def slots : BoundedQueue Message where
  Carrier := Nat × Fifo Message
  make capacity := (allocate capacity).map fun queue => (queue.capacity, queue.pending)
  push := fun (capacity, pending) message =>
    if capacity ≤ pending.size then
      (.error message, (capacity, pending))
    else
      (.ok (), (capacity, pending.push message))
  pop := fun (capacity, pending) =>
    match pending.pop? with
    | some (message, rest) => (some message, (capacity, rest))
    | none => (none, (capacity, pending))
  isEmpty := fun (_, pending) => pending.size == 0
  capacity := Prod.fst

/-- A queue that is allocated is empty and has the capacity asked for. -/
theorem eq_of_allocate {capacity : Nat} {queue : MessageQueue}
    (allocated : allocate capacity = .ok queue) : queue = ofCapacity capacity := by
  rw [allocate] at allocated
  split at allocated
  · cases allocated
  split at allocated
  · cases allocated
  · exact (Except.ok.inj allocated).symm

theorem slots_laws : slots.Laws fun (_, pending) => pending.toList where
  make := by
    intro capacity made isMade
    simp only [slots] at isMade
    cases allocated : allocate capacity with
    | error cause =>
      rw [allocated] at isMade
      cases isMade
    | ok queue =>
      rw [allocated] at isMade
      cases isMade
      obtain rfl := eq_of_allocate allocated
      exact ⟨rfl, rfl⟩
  push_room := by
    rintro ⟨capacity, pending⟩ message room
    have notFull : ¬capacity ≤ pending.size := by
      rw [pending.size_eq_length]
      exact Nat.not_le.2 room
    simp [slots, notFull]
  push_full := by
    rintro ⟨capacity, pending⟩ message full
    have isFull : capacity ≤ pending.size := by
      rw [pending.size_eq_length]
      exact full
    simp [slots, isFull]
  pop := by
    rintro ⟨capacity, pending⟩
    have taken := pending.toList_pop?
    cases view : pending.toList with
    | nil =>
      rw [view] at taken
      have popped := Option.map_eq_none_iff.1 taken
      simp [slots, popped, view]
    | cons message rest =>
      rw [view] at taken
      obtain ⟨⟨front, behind⟩, popped, same⟩ := Option.map_eq_some_iff.1 taken
      obtain ⟨rfl, behind_eq⟩ := Prod.mk.inj same
      simp [slots, popped, view, behind_eq]
  isEmpty := by
    rintro ⟨capacity, pending⟩
    simp only [slots, pending.size_eq_length]
    cases pending.toList <;> rfl
  capacity_push := by
    rintro ⟨capacity, pending⟩ message
    simp only [slots]
    split <;> rfl
  capacity_pop := by
    rintro ⟨capacity, pending⟩
    simp only [slots]
    split <;> rfl

/-- A message queue is its slots with a count. -/
def counted (queue : MessageQueue) : CountedQueue slots :=
  ⟨(queue.capacity, queue.pending), queue.dropped⟩

/-- The message queue of slots with a count. -/
def ofCounted (queue : CountedQueue slots) : MessageQueue :=
  ⟨queue.waiting.1, queue.waiting.2, queue.dropped⟩

theorem push_counted (queue : MessageQueue) (message : Message) :
    queue.counted.push message =
      ((queue.push message).1, (queue.push message).2.counted) := by
  by_cases full : queue.capacity ≤ queue.pending.size
  · simp [CountedQueue.push, push, isFull, counted, slots, full]
  · simp [CountedQueue.push, push, isFull, counted, slots, full]

/-- What is done to the slots and the count is what is done to the queue. -/
theorem perform_counted (queue : MessageQueue) (operation : Operation) :
    queue.counted.perform operation =
      ((queue.perform operation).1, (queue.perform operation).2.counted) := by
  cases operation with
  | push message =>
    rw [CountedQueue.perform, push_counted]
    rfl
  | pop =>
    simp only [CountedQueue.perform, perform, pop, counted, slots]
    cases queue.pending.pop? <;> rfl
  | isEmpty => rfl
  | capacity => rfl
  | takeDropCount => rfl

end MessageQueue

namespace MainQueue

/-- The cell of the main queue. -/
def cell : WriteOnce (CountedQueue MessageQueue.slots) where
  Carrier := MainQueue
  empty := absent
  init
    | absent, .ok queue => (.ok true, created (.ofCounted queue))
    | absent, .error cause => (.error cause, poisoned)
    | created queue, _ => (.ok false, created queue)
    | poisoned, _ => (.error .mainQueuePoisoned, poisoned)
  value? main := main.queue?.map (Option.map MessageQueue.counted)
  change
    | absent, _ => absent
    | created queue, replace => created (.ofCounted (replace queue.counted))
    | poisoned, _ => poisoned

theorem cell_laws : cell.Laws where
  empty := rfl
  init_first := by
    intro main value unset
    cases main with
    | absent => exact ⟨rfl, rfl⟩
    | created queue => cases unset
    | poisoned => cases unset
  init_panic := by
    intro main cause unset
    cases main with
    | absent => exact ⟨rfl, rfl⟩
    | created queue => cases unset
    | poisoned => cases unset
  init_again := by
    intro main made value set
    cases main with
    | absent => cases set
    | created queue => exact ⟨rfl, set⟩
    | poisoned => cases set
  init_poisoned := by
    intro main made cause unusable
    cases main with
    | absent => cases unusable
    | created queue => cases unusable
    | poisoned =>
      cases unusable
      exact ⟨rfl, rfl⟩
  change := by
    intro main value replace set
    cases main with
    | absent => cases set
    | created queue =>
      cases set
      rfl
    | poisoned => cases set

/-- The operations over the slots and the cell are those of the main queue. -/
theorem stepWith_cell (main : MainQueue) (operation : Operation) :
    stepWith cell main operation = main.step operation := by
  cases operation with
  | create capacity =>
    cases main with
    | absent =>
      simp only [stepWith, step, create, cell, CountedQueue.make, MessageQueue.slots]
      cases made : MessageQueue.allocate capacity with
      | error cause => rfl
      | ok queue =>
        obtain rfl := MessageQueue.eq_of_allocate made
        rfl
    | created queue => rfl
    | poisoned => rfl
  | isCreated => cases main <;> rfl
  | signal message =>
    cases main with
    | absent => rfl
    | created queue =>
      simp only [stepWith, step, signal, cell, queue?, Except.map, Option.map,
        MessageQueue.push_counted]
      rfl
    | poisoned => rfl
  | onQueue operation =>
    cases main with
    | absent => rfl
    | created queue =>
      simp only [stepWith, step, perform, cell, queue?, Except.map, Option.map,
        MessageQueue.perform_counted]
      rfl
    | poisoned => rfl

end MainQueue

end KernelStart
