import KernelStart.Queue.Message

/-!
# The main queue

There is one queue between the interrupt handlers and the main loop.  It is created
once: later attempts fail and change nothing, and a signal that comes before the
creation leaves no trace.  A creation that is cut short because the queue cannot have
the capacity asked for leaves the cell unusable, and every later use of it panics.
-/

set_option autoImplicit false

namespace KernelStart

/-- The cell that holds the one main queue. -/
inductive MainQueue where
  | absent
  | created (queue : MessageQueue)
  /-- The creation was cut short. -/
  | poisoned
  deriving Inhabited

namespace MainQueue

/-- The queue, if it has been created. -/
def queue? : MainQueue → Except Panic (Option MessageQueue)
  | absent => .ok none
  | created queue => .ok (some queue)
  | poisoned => .error .mainQueuePoisoned

/-- Creates the queue; only the first creation succeeds. -/
def create (capacity : Nat) : MainQueue → Except Panic (Except Failure Unit) × MainQueue
  | absent =>
    match MessageQueue.allocate capacity with
    | .ok queue => (.ok (.ok ()), created queue)
    | .error cause => (.error cause, poisoned)
  | created queue => (.ok (.error .alreadyInitialized), created queue)
  | poisoned => (.error .mainQueuePoisoned, poisoned)

/-- Offers a message from interrupt context; without a queue it is lost without a trace. -/
def signal (message : Message) : MainQueue → Except Panic Unit × MainQueue
  | absent => (.ok (), absent)
  | created queue => (.ok (), created (queue.push message).2)
  | poisoned => (.error .mainQueuePoisoned, poisoned)

/-- Carries out an operation on the queue, if it exists. -/
def perform (operation : MessageQueue.Operation) :
    MainQueue → Except Panic (Option MessageQueue.Reply) × MainQueue
  | absent => (.ok none, absent)
  | created queue =>
    let (reply, next) := queue.perform operation
    (.ok (some reply), created next)
  | poisoned => (.error .mainQueuePoisoned, poisoned)

/-- Empties the queue and takes its drop count, if it exists. -/
def drain : MainQueue → Option (List Message × Nat) × MainQueue
  | created queue =>
    let (messages, emptied) := queue.drain
    let (count, next) := emptied.takeDropCount
    (some (messages, count), created next)
  | other => (none, other)

/-! ## Operations as values -/

/-- What can be done to the main queue from task or interrupt context. -/
inductive Operation where
  | create (capacity : Nat)
  | isCreated
  | signal (message : Message)
  | onQueue (operation : MessageQueue.Operation)

/-- What an operation on the main queue reports. -/
inductive Reply where
  | created (capacity : Except Failure Nat)
  | truth (value : Bool)
  | nothing
  | fromQueue (reply : Option MessageQueue.Reply)

/-- Carries out one operation. -/
def step (cell : MainQueue) : Operation → Except Panic Reply × MainQueue
  | .create capacity =>
    let (outcome, next) := cell.create capacity
    (outcome.map fun result => .created (result.map fun _ => capacity), next)
  | .isCreated => (cell.queue?.map fun queue => .truth queue.isSome, cell)
  | .signal message =>
    let (outcome, next) := cell.signal message
    (outcome.map fun _ => .nothing, next)
  | .onQueue operation =>
    let (outcome, next) := cell.perform operation
    (outcome.map .fromQueue, next)

end MainQueue

end KernelStart
