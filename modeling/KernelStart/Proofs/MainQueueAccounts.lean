import KernelStart.Queue.History

/-!
# The main queue accounts for its messages

An operation on the cell of the main queue does one of seven things: it makes the queue, it is
refused because there is one, a message is accepted, turned away or taken, the drop count is
taken, or nothing changes.  `Course` says what each of them is, and `turn_course` that there is
nothing else, as long as queues can be made.

From that it follows what an operation does to the books (`Course.balances`) and what it reports
(`Course.returns`, `Course.room`, `Course.reports`).  Along a history the books stay balanced
(`turns_balance`), and which creation succeeds depends only on what it finds
(`creations_turns`), so the whole account is that of the first creation and of what came after
it (`turns_account_for_offers`).
-/

set_option autoImplicit false

namespace KernelStart

/-! ## Pushing and popping -/

namespace MessageQueue

variable {queue : MessageQueue}

/-- A message that finds room is queued behind the others, and nothing else changes. -/
theorem push_of_room (room : queue.toList.length < queue.capacity) (message : Message) :
    ∃ next, queue.push message = (.ok (), next) ∧ next.toList = queue.toList ++ [message] ∧
      next.dropped = queue.dropped ∧ next.capacity = queue.capacity := by
  have notFull : queue.isFull = false := by
    rw [← Bool.not_eq_true, isFull_iff]
    exact Nat.not_le.2 room
  refine ⟨{ queue with pending := queue.pending.push message }, ?_,
    Fifo.toList_push queue.pending message, rfl, rfl⟩
  rw [push, notFull]
  rfl

/-- A message that finds no room is counted, and nothing else changes. -/
theorem push_of_full (full : queue.capacity ≤ queue.toList.length) (message : Message) :
    ∃ next, queue.push message = (.error .resourceExhausted, next) ∧
      next.toList = queue.toList ∧ next.dropped = queue.dropped + 1 ∧
      next.capacity = queue.capacity := by
  refine ⟨{ queue with dropped := queue.dropped + 1 }, ?_, rfl, rfl, rfl⟩
  rw [push, queue.isFull_iff.2 full]
  rfl

/-- Taking the message at the front changes nothing but that. -/
theorem pop_of_cons {message : Message} {rest : List Message}
    (front : queue.toList = message :: rest) :
    ∃ next, queue.pop = (some message, next) ∧ next.toList = rest ∧
      next.dropped = queue.dropped ∧ next.capacity = queue.capacity := by
  have popped := queue.toList_pop
  rw [front, Prod.mk.injEq] at popped
  refine ⟨queue.pop.2, Prod.ext popped.1 rfl, popped.2, ?_, queue.capacity_pop⟩
  unfold pop
  split <;> rfl

theorem pop_of_nil (empty : queue.toList = []) : queue.pop = (none, queue) :=
  Prod.ext (pop_of_empty empty) (pop_eq_self_of_empty empty)

end MessageQueue

namespace MainQueue

variable {build : Nat → Except Panic MessageQueue}

/-! ## What an operation can do -/

/-- No creation of the queue was cut short. -/
def IsUsable : MainQueue → Prop
  | absent => True
  | created _ => True
  | poisoned => False

/-- The queue that an operation can ask for is made, and is empty. -/
def Provides (build : Nat → Except Panic MessageQueue) (operation : Operation) : Prop :=
  ∀ capacity, operation.capacity? = some capacity → build capacity = .ok (.ofCapacity capacity)

/-- The operation offers the message, and the report is the one for the given result. -/
inductive Offers (message : Message) (result : Except Failure Unit) : Operation → Reply → Prop where
  | signal : Offers message result (.signal message) .nothing
  | push : Offers message result (.onQueue (.push message)) (.fromQueue (some (.pushed result)))

/-- What an operation does to a cell in use. -/
inductive Course : Turn → Prop where
  /-- The queue is made. -/
  | creates (capacity : Nat) :
      Course ⟨.create capacity, .absent, .ok (.created (.ok capacity)),
        .created (.ofCapacity capacity)⟩
  /-- There is a queue already. -/
  | declines (capacity : Nat) (queue : MessageQueue) :
      Course ⟨.create capacity, .created queue, .ok (.created (.error .alreadyInitialized)),
        .created queue⟩
  | accepts {operation : Operation} {reply : Reply} {message : Message}
      {queue next : MessageQueue} (offers : Offers message (.ok ()) operation reply)
      (room : queue.toList.length < queue.capacity)
      (contents_eq : next.toList = queue.toList ++ [message])
      (dropped_eq : next.dropped = queue.dropped) (capacity_eq : next.capacity = queue.capacity) :
      Course ⟨operation, .created queue, .ok reply, .created next⟩
  | refuses {operation : Operation} {reply : Reply} {message : Message}
      {queue next : MessageQueue}
      (offers : Offers message (.error .resourceExhausted) operation reply)
      (full : queue.capacity ≤ queue.toList.length) (contents_eq : next.toList = queue.toList)
      (dropped_eq : next.dropped = queue.dropped + 1)
      (capacity_eq : next.capacity = queue.capacity) :
      Course ⟨operation, .created queue, .ok reply, .created next⟩
  | pops {message : Message} {queue next : MessageQueue}
      (contents_eq : queue.toList = message :: next.toList)
      (dropped_eq : next.dropped = queue.dropped) (capacity_eq : next.capacity = queue.capacity) :
      Course ⟨.onQueue .pop, .created queue, .ok (.fromQueue (some (.popped (some message)))),
        .created next⟩
  | takesCount (queue : MessageQueue) :
      Course ⟨.onQueue .takeDropCount, .created queue,
        .ok (.fromQueue (some (.count queue.dropped))), .created { queue with dropped := 0 }⟩
  /-- Nothing changes, and no message is concerned. -/
  | observes {operation : Operation} {cell : MainQueue} {reply : Reply} (usable : cell.IsUsable)
      (uncreated : operation.capacity? = none)
      (quiet : let turn : Turn := ⟨operation, cell, .ok reply, cell⟩
        turn.creation? = none ∧ turn.offered? = none ∧ turn.popped? = none ∧ turn.taken = 0) :
      Course ⟨operation, cell, .ok reply, cell⟩

/-- An offer is accepted if there is room, and turned away if there is none. -/
theorem course_of_offers {operation : Operation} {queue : MessageQueue} {message : Message}
    {report : Except Failure Unit → Reply}
    (offers : ∀ result, Offers message result operation (report result)) :
    Course ⟨operation, .created queue, .ok (report (queue.push message).1),
      .created (queue.push message).2⟩ := by
  rcases Nat.lt_or_ge queue.toList.length queue.capacity with room | full
  · obtain ⟨next, pushed, contents_eq, dropped_eq, capacity_eq⟩ :=
      MessageQueue.push_of_room room message
    rw [pushed]
    exact .accepts (offers _) room contents_eq dropped_eq capacity_eq
  · obtain ⟨next, pushed, contents_eq, dropped_eq, capacity_eq⟩ :=
      MessageQueue.push_of_full full message
    rw [pushed]
    exact .refuses (offers _) full contents_eq dropped_eq capacity_eq

theorem course_of_pop (queue : MessageQueue) :
    Course ⟨.onQueue .pop, .created queue, .ok (.fromQueue (some (.popped queue.pop.1))),
      .created queue.pop.2⟩ := by
  cases front : queue.toList with
  | nil =>
    rw [MessageQueue.pop_of_nil front]
    exact .observes trivial rfl ⟨rfl, rfl, rfl, rfl⟩
  | cons message rest =>
    obtain ⟨next, popped, contents_eq, dropped_eq, capacity_eq⟩ := MessageQueue.pop_of_cons front
    rw [popped]
    exact .pops (contents_eq ▸ front) dropped_eq capacity_eq

/-- There is nothing else that an operation can do, as long as queues can be made. -/
theorem turn_course {cell : MainQueue} {operation : Operation} (usable : cell.IsUsable)
    (provides : Provides build operation) : Course (cell.turn build operation) := by
  cases cell with
  | poisoned => exact usable.elim
  | absent =>
    cases operation with
    | create capacity =>
      have made : build capacity = .ok (.ofCapacity capacity) := provides capacity rfl
      simp only [turn, stepFrom, made]
      exact .creates capacity
    | isCreated => exact .observes trivial rfl ⟨rfl, rfl, rfl, rfl⟩
    | signal _ => exact .observes trivial rfl ⟨rfl, rfl, rfl, rfl⟩
    | onQueue operation =>
      refine .observes trivial rfl ⟨rfl, rfl, rfl, ?_⟩
      cases operation <;> rfl
  | created queue =>
    cases operation with
    | create capacity => exact .declines capacity queue
    | isCreated => exact .observes trivial rfl ⟨rfl, rfl, rfl, rfl⟩
    | signal message => exact course_of_offers fun _ => .signal
    | onQueue operation =>
      cases operation with
      | push message => exact course_of_offers fun _ => .push
      | pop => exact course_of_pop queue
      | isEmpty => exact .observes trivial rfl ⟨rfl, rfl, rfl, rfl⟩
      | capacity => exact .observes trivial rfl ⟨rfl, rfl, rfl, rfl⟩
      | takeDropCount => exact .takesCount queue

/-! ## What follows for one operation -/

namespace Offers

variable {operation : Operation} {reply : Reply} {message : Message}
  {result : Except Failure Unit} {queue next : MessageQueue}

/-- The message of an offer to a queue. -/
theorem offered_eq (offers : Offers message result operation reply) (left : MainQueue) :
    Turn.offered? ⟨operation, .created queue, .ok reply, left⟩ = some message := by
  cases offers <;> rfl

theorem popped_eq (offers : Offers message result operation reply) (found left : MainQueue) :
    Turn.popped? ⟨operation, found, .ok reply, left⟩ = none := by
  cases offers <;> rfl

theorem taken_eq (offers : Offers message result operation reply) (found left : MainQueue) :
    Turn.taken ⟨operation, found, .ok reply, left⟩ = 0 := by
  cases offers <;> rfl

theorem creation_eq (offers : Offers message result operation reply) (found left : MainQueue) :
    Turn.creation? ⟨operation, found, .ok reply, left⟩ = none := by
  cases offers <;> rfl

theorem capacity_eq (offers : Offers message result operation reply) :
    operation.capacity? = none := by
  cases offers <;> rfl

/-- The message is accepted if it is queued behind the others. -/
theorem accepted_of_append (offers : Offers message result operation reply)
    (contents_eq : next.toList = queue.toList ++ [message]) :
    Turn.accepted? ⟨operation, .created queue, .ok reply, .created next⟩ = some message := by
  rw [Turn.accepted?, offers.offered_eq, Option.filter_some]
  exact if_pos (decide_eq_true contents_eq)

/-- It is not if the queue is as before. -/
theorem accepted_of_same (offers : Offers message result operation reply)
    (contents_eq : next.toList = queue.toList) :
    Turn.accepted? ⟨operation, .created queue, .ok reply, .created next⟩ = none := by
  have shorter : next.toList ≠ queue.toList ++ [message] := by simp [contents_eq]
  rw [Turn.accepted?, offers.offered_eq, Option.filter_some]
  exact if_neg (by simp [contents, shorter])

end Offers

/-- Without an offer nothing is accepted. -/
theorem Turn.accepted_of_not_offered {turn : Turn} (none : turn.offered? = none) :
    turn.accepted? = .none := by
  rw [accepted?, none, Option.filter_none]

/-- What is read off a single operation. -/
theorem filterMap_turn {α : Type} (read : Turn → Option α) (turn : Turn) :
    [turn].filterMap read = (read turn).toList := by
  rw [List.filterMap_cons]
  cases read turn <;> rfl

/-- The books of a stretch of a history: what was queued and what was accepted is what was popped
and what is queued, in order; and no message that was there or was offered is unaccounted for. -/
structure Balances (before : MainQueue) (turns : List Turn) (last : MainQueue) : Prop where
  order : before.contents ++ turns.filterMap Turn.accepted? =
    turns.filterMap Turn.popped? ++ last.contents
  sum : (turns.filterMap Turn.offered?).length + before.contents.length + before.dropCount =
    (turns.filterMap Turn.popped?).length + last.contents.length +
      (turns.map Turn.taken).sum + last.dropCount

namespace Balances

variable {before middle last : MainQueue} {early late : List Turn}

theorem nil (cell : MainQueue) : Balances cell [] cell where
  order := by simp
  sum := by simp

/-- Books are balanced if they are on both parts. -/
theorem append (first : Balances before early middle) (second : Balances middle late last) :
    Balances before (early ++ late) last where
  order := by
    rw [List.filterMap_append, List.filterMap_append, ← List.append_assoc, first.order,
      List.append_assoc, second.order, List.append_assoc]
  sum := by
    have firstSum := first.sum
    have secondSum := second.sum
    simp only [List.filterMap_append, List.map_append, List.length_append, List.sum_append]
    omega

/-- The books of one operation. -/
theorem single {turn : Turn}
    (order : turn.found.contents ++ turn.accepted?.toList =
      turn.popped?.toList ++ turn.left.contents)
    (sum : turn.offered?.toList.length + turn.found.contents.length + turn.found.dropCount =
      turn.popped?.toList.length + turn.left.contents.length + turn.taken + turn.left.dropCount) :
    Balances turn.found [turn] turn.left where
  order := by
    rw [filterMap_turn, filterMap_turn]
    exact order
  sum := by
    rw [filterMap_turn, filterMap_turn, List.map_singleton, List.sum_singleton]
    exact sum

end Balances

namespace Course

variable {turn : Turn}

/-- One operation keeps the books balanced. -/
theorem balances (course : Course turn) : Balances turn.found [turn] turn.left := by
  cases course with
  | creates capacity => exact .single rfl rfl
  | declines capacity queue =>
    exact .single (List.append_nil _) (by simp [Turn.offered?, Turn.popped?, Turn.taken])
  | accepts offers room contents_eq dropped_eq capacity_eq =>
    apply Balances.single
    · simp [offers.accepted_of_append contents_eq, offers.popped_eq, contents, contents_eq]
    · simp [offers.offered_eq, offers.popped_eq, offers.taken_eq, contents, dropCount, contents_eq,
        dropped_eq]
      omega
  | refuses offers full contents_eq dropped_eq capacity_eq =>
    apply Balances.single
    · simp [offers.accepted_of_same contents_eq, offers.popped_eq, contents, contents_eq]
    · simp [offers.offered_eq, offers.popped_eq, offers.taken_eq, contents, dropCount, contents_eq,
        dropped_eq]
      omega
  | pops contents_eq dropped_eq capacity_eq =>
    apply Balances.single
    · simp [Turn.accepted?, Turn.offered?, Turn.popped?, contents, contents_eq]
    · simp [Turn.offered?, Turn.popped?, Turn.taken, contents, dropCount, contents_eq, dropped_eq]
      omega
  | takesCount queue =>
    apply Balances.single
    · simp [Turn.accepted?, Turn.offered?, Turn.popped?, contents, MessageQueue.toList]
    · simp [Turn.offered?, Turn.popped?, Turn.taken, contents, dropCount, MessageQueue.toList]
  | observes usable uncreated quiet =>
    obtain ⟨-, unoffered, unpopped, untaken⟩ := quiet
    apply Balances.single
    · simp [Turn.accepted_of_not_offered unoffered, unpopped]
    · simp [unoffered, unpopped, untaken]

/-- A cell in use stays in use. -/
theorem usable_left (course : Course turn) : turn.left.IsUsable := by
  cases course with
  | observes usable _ _ => exact usable
  | _ => trivial

/-- No operation panics. -/
theorem returns (course : Course turn) : ∃ reply, turn.reply = .ok reply := by
  cases course <;> exact ⟨_, rfl⟩

/-- The capacity is that of the queue that was found, or the one that was asked for. -/
theorem capacity_left (course : Course turn) :
    turn.left.capacity? = turn.found.capacity?.or turn.operation.capacity? := by
  cases course with
  | creates _ => rfl
  | declines _ _ => rfl
  | accepts _ _ _ _ capacity_eq => exact congrArg some capacity_eq
  | refuses _ _ _ _ capacity_eq => exact congrArg some capacity_eq
  | pops _ _ capacity_eq => exact congrArg some capacity_eq
  | takesCount _ => rfl
  | observes _ uncreated _ => simp [uncreated]

/-- A creation that finds a queue leaves it as it is. -/
theorem later (course : Course turn) (creation : turn.operation.capacity? ≠ none)
    {queue : MessageQueue} (found_eq : turn.found = .created queue) :
    turn.left = .created queue := by
  cases course with
  | creates _ => cases found_eq
  | declines _ _ => exact found_eq
  | accepts offers _ _ _ _ => exact absurd offers.capacity_eq creation
  | refuses offers _ _ _ _ => exact absurd offers.capacity_eq creation
  | pops _ _ _ => exact absurd rfl creation
  | takesCount _ => exact absurd rfl creation
  | observes _ uncreated _ => exact absurd uncreated creation

/-- An offered message is accepted exactly if there is room for it. -/
theorem room (course : Course turn) {message : Message}
    (offered : turn.offered? = some message) :
    ∃ capacity, turn.found.capacity? = some capacity ∧
      (turn.accepted? = some message ↔ turn.found.contents.length < capacity) := by
  cases course with
  | creates _ => cases offered
  | declines _ _ => cases offered
  | accepts offers room contents_eq _ _ =>
    rw [offers.offered_eq, Option.some.injEq] at offered
    subst offered
    exact ⟨_, rfl, iff_of_true (offers.accepted_of_append contents_eq) room⟩
  | refuses offers full contents_eq _ _ =>
    refine ⟨_, rfl, iff_of_false ?_ (Nat.not_lt.2 full)⟩
    rw [offers.accepted_of_same contents_eq]
    exact nofun
  | pops _ _ _ => cases offered
  | takesCount _ => cases offered
  | observes _ _ quiet =>
    rw [quiet.2.1] at offered
    cases offered

/-- What a push reports is whether its message was accepted. -/
theorem reports (course : Course turn) {message : Message}
    (pushed : turn.operation = .onQueue (.push message)) (offered : turn.offered? = some message) :
    (turn.pushed? = some (.ok ()) ∧ turn.accepted? = some message) ∨
      (turn.pushed? = some (.error .resourceExhausted) ∧ turn.accepted? = none) := by
  cases course with
  | creates _ => cases pushed
  | declines _ _ => cases pushed
  | accepts offers _ contents_eq _ _ =>
    left
    cases offers with
    | signal => cases pushed
    | push =>
      cases pushed
      exact ⟨rfl, Offers.push.accepted_of_append contents_eq⟩
  | refuses offers _ contents_eq _ _ =>
    right
    cases offers with
    | signal => cases pushed
    | push => exact ⟨rfl, Offers.push.accepted_of_same contents_eq⟩
  | pops _ _ _ => cases pushed
  | takesCount _ => cases pushed
  | observes _ _ quiet =>
    rw [quiet.2.1] at offered
    cases offered

end Course

/-! ## Outcomes of creations -/

/-- The outcomes of creations on a cell: on one with a queue, none succeeds. -/
def outcomesOn (cell : MainQueue) (capacities : List Nat) : List (Except Failure Nat) :=
  match cell.capacity? with
  | none => firstSucceeds capacities
  | some _ => capacities.map fun _ => .error .alreadyInitialized

/-- One operation reports what a creation comes to, and the later ones come to what they do on
the cell that it leaves. -/
theorem Course.outcomes {turn : Turn} (course : Course turn) (later : List Nat) :
    turn.creation?.toList ++ outcomesOn turn.left later =
      outcomesOn turn.found (turn.operation.capacity?.toList ++ later) := by
  cases course with
  | creates _ => rfl
  | declines _ _ => rfl
  | accepts offers _ _ _ _ => rw [offers.creation_eq, offers.capacity_eq]; rfl
  | refuses offers _ _ _ _ => rw [offers.creation_eq, offers.capacity_eq]; rfl
  | pops _ _ _ => rfl
  | takesCount _ => rfl
  | observes _ uncreated quiet => rw [quiet.1, uncreated]; rfl

/-! ## Along a history -/

variable {cell : MainQueue} {history : List Operation}

/-- Every queue that the history can ask for is made. -/
abbrev ProvidesAll (build : Nat → Except Panic MessageQueue) (history : List Operation) : Prop :=
  ∀ operation ∈ history, Provides build operation

theorem asked_cons (operation : Operation) (rest : List Operation) :
    asked (operation :: rest) = operation.capacity?.toList ++ asked rest := by
  rw [asked, List.filterMap_cons]
  cases operation.capacity? <;> rfl

/-- A cell in use stays in use, and has the capacity of its queue or the first one asked for. -/
theorem after_usable (usable : cell.IsUsable) (provides : ProvidesAll build history) :
    (after build cell history).IsUsable ∧
      (after build cell history).capacity? = cell.capacity?.or (asked history).head? := by
  induction history generalizing cell with
  | nil => exact ⟨usable, (Option.or_none).symm⟩
  | cons operation rest ih =>
    obtain ⟨here, further⟩ := List.forall_mem_cons.1 provides
    have course := turn_course usable here
    obtain ⟨stays, capacity_eq⟩ := ih course.usable_left further
    refine ⟨stays, ?_⟩
    rw [after, capacity_eq, course.capacity_left, asked_cons, List.head?_append, Option.or_assoc,
      Option.head?_toList]
    rfl

/-- An operation of a history finds what those before it leave. -/
theorem exists_split_of_mem_turns {turn : Turn} (made : turn ∈ turns build cell history) :
    ∃ early operation late, history = early ++ operation :: late ∧
      turn = (after build cell early).turn build operation := by
  induction history generalizing cell with
  | nil => cases made
  | cons operation rest ih =>
    rcases List.mem_cons.1 made with rfl | made
    · exact ⟨[], operation, rest, rfl, rfl⟩
    · obtain ⟨early, later, late, rfl, turn_eq⟩ := ih made
      exact ⟨operation :: early, later, late, rfl, turn_eq⟩

/-- The books are balanced along a history. -/
theorem turns_balance (usable : cell.IsUsable) (provides : ProvidesAll build history) :
    Balances cell (turns build cell history) (after build cell history) := by
  induction history generalizing cell with
  | nil => exact .nil cell
  | cons operation rest ih =>
    obtain ⟨here, further⟩ := List.forall_mem_cons.1 provides
    have course := turn_course usable here
    exact course.balances.append (ih course.usable_left further)

/-- Creations come to what they come to on the cell that the history finds. -/
theorem creations_turns (usable : cell.IsUsable) (provides : ProvidesAll build history) :
    (turns build cell history).filterMap Turn.creation? = outcomesOn cell (asked history) := by
  induction history generalizing cell with
  | nil => cases cell <;> rfl
  | cons operation rest ih =>
    obtain ⟨here, further⟩ := List.forall_mem_cons.1 provides
    have course := turn_course usable here
    have split : (turns build cell (operation :: rest)).filterMap Turn.creation? =
        [cell.turn build operation].filterMap Turn.creation? ++
          (turns build (cell.turn build operation).left rest).filterMap Turn.creation? :=
      List.filterMap_append (l := [cell.turn build operation])
    rw [filterMap_turn, ih course.usable_left further, course.outcomes, ← asked_cons] at split
    exact split

/-- A signal before the creation, room for two of three messages, and a second creation, with more
room, while the queue is full. -/
def secondCreation : List Operation :=
  [.signal ⟨9⟩, .create 2, .onQueue (.push ⟨1⟩), .signal ⟨2⟩, .signal ⟨3⟩, .create 5,
    .onQueue .pop, .onQueue .takeDropCount, .signal ⟨4⟩, .onQueue (.push ⟨5⟩)]

end MainQueue

end KernelStart
