import KernelStart.Proofs.MainQueueAccounts
import KernelStart.Queue.Contract

/-!
# Any lawful parts make the same main queue

The main queue over a bounded queue and a cell that keep the laws reports what `MainQueue` reports,
along any history (`MainQueue.replies_of_laws`): what is known of `MainQueue` is known of it.  The
two are compared by what can be seen of them.  Queues are alike if the same messages wait in
the same order with the same capacity and the same count (`CountedQueue.IsLike`), and cells are
alike if both are empty, hold queues that are alike, or cannot be used (`IsLike`).  One operation
on like cells reports the same and leaves like cells (`stepWith_like`).

The count of dropped messages grows by no more than one in an operation (`dropCount_after_le`), so
a machine word has room for the count of any history that can take place.
-/

set_option autoImplicit false

namespace KernelStart

variable {parts : BoundedQueue Message} {waiting : parts.Carrier → List Message}

namespace CountedQueue

/-- The same messages wait, and as many were turned away. -/
structure IsLike (waiting : parts.Carrier → List Message) (queue : CountedQueue parts)
    (model : MessageQueue) : Prop where
  contents : waiting queue.waiting = model.toList
  capacity : parts.capacity queue.waiting = model.capacity
  dropped : queue.dropped = model.dropped

variable {queue : CountedQueue parts} {model : MessageQueue}

theorem push_of_ok {message : Message}
    (accepted : (parts.push queue.waiting message).1 = .ok ()) :
    queue.push message = (.ok (), ⟨(parts.push queue.waiting message).2, queue.dropped⟩) := by
  rw [push]
  generalize parts.push queue.waiting message = outcome at accepted ⊢
  obtain ⟨result, carrier⟩ := outcome
  obtain rfl : result = .ok () := accepted
  rfl

theorem push_of_error {message given : Message}
    (refused : (parts.push queue.waiting message).1 = .error given) :
    queue.push message =
      (.error .resourceExhausted, ⟨(parts.push queue.waiting message).2, queue.dropped + 1⟩) := by
  rw [push]
  generalize parts.push queue.waiting message = outcome at refused ⊢
  obtain ⟨result, carrier⟩ := outcome
  obtain rfl : result = .error given := refused
  rfl

section

variable (laws : parts.Laws waiting) (like : queue.IsLike waiting model)
include laws like

/-- A message is accepted by both or by none. -/
theorem push_like (message : Message) :
    (queue.push message).1 = (model.push message).1 ∧
      (queue.push message).2.IsLike waiting (model.push message).2 := by
  have capacity := (laws.capacity_push queue.waiting message).trans like.capacity
  by_cases full : model.capacity ≤ model.toList.length
  · obtain ⟨next, pushed, contents_eq, dropped_eq, capacity_eq⟩ :=
      MessageQueue.push_of_full full message
    have noRoom : parts.capacity queue.waiting ≤ (waiting queue.waiting).length := by
      rwa [like.capacity, like.contents]
    obtain ⟨refused, kept⟩ := laws.push_full queue.waiting message noRoom
    rw [push_of_error refused, pushed]
    refine ⟨rfl, ?_, capacity.trans capacity_eq.symm, ?_⟩
    · rw [contents_eq, ← like.contents]
      exact kept
    · rw [dropped_eq, ← like.dropped]
  · have free := Nat.not_le.1 full
    obtain ⟨next, pushed, contents_eq, dropped_eq, capacity_eq⟩ :=
      MessageQueue.push_of_room free message
    have room : (waiting queue.waiting).length < parts.capacity queue.waiting := by
      rwa [like.capacity, like.contents]
    obtain ⟨accepted, added⟩ := laws.push_room queue.waiting message room
    rw [push_of_ok accepted, pushed]
    refine ⟨rfl, ?_, capacity.trans capacity_eq.symm, ?_⟩
    · rw [contents_eq, ← like.contents]
      exact added
    · rw [dropped_eq, ← like.dropped]

/-- The same message is taken from both. -/
theorem pop_like :
    (parts.pop queue.waiting).1 = model.pop.1 ∧
      IsLike waiting ⟨(parts.pop queue.waiting).2, queue.dropped⟩ model.pop.2 := by
  obtain ⟨taken, kept⟩ := laws.pop queue.waiting
  have capacity := (laws.capacity_pop queue.waiting).trans like.capacity
  rw [like.contents] at taken kept
  cases view : model.toList with
  | nil =>
    rw [view] at taken kept
    rw [MessageQueue.pop_of_nil view]
    exact ⟨taken, kept.trans view.symm, capacity, like.dropped⟩
  | cons message rest =>
    obtain ⟨next, popped, contents_eq, dropped_eq, capacity_eq⟩ := MessageQueue.pop_of_cons view
    rw [view] at taken kept
    rw [popped]
    exact ⟨taken, kept.trans contents_eq.symm, capacity.trans capacity_eq.symm,
      like.dropped.trans dropped_eq.symm⟩

/-- An operation on like queues reports the same and leaves like queues. -/
theorem perform_like (operation : MessageQueue.Operation) :
    (queue.perform operation).1 = (model.perform operation).1 ∧
      (queue.perform operation).2.IsLike waiting (model.perform operation).2 := by
  cases operation with
  | push message =>
    obtain ⟨same, next⟩ := push_like laws like message
    exact ⟨congrArg _ same, next⟩
  | pop =>
    obtain ⟨same, next⟩ := pop_like laws like
    exact ⟨congrArg _ same, next⟩
  | isEmpty =>
    refine ⟨congrArg MessageQueue.Reply.truth ?_, like⟩
    rw [laws.isEmpty, like.contents, MessageQueue.isEmpty, model.size_pending]
    cases model.toList <;> rfl
  | capacity => exact ⟨congrArg _ like.capacity, like⟩
  | takeDropCount => exact ⟨congrArg _ like.dropped, like.contents, like.capacity, rfl⟩

end

end CountedQueue

namespace MainQueue

/-! ## Cells -/

/-- Both cells are empty, hold like queues, or cannot be used. -/
inductive IsLike (waiting : parts.Carrier → List Message) :
    Except Panic (Option (CountedQueue parts)) → MainQueue → Prop where
  | absent : IsLike waiting (.ok none) .absent
  | created {queue : CountedQueue parts} {model : MessageQueue}
      (like : queue.IsLike waiting model) : IsLike waiting (.ok (some queue)) (.created model)
  | poisoned : IsLike waiting (.error .mainQueuePoisoned) .poisoned

/-- Makes the queue that the parts make. -/
def buildFrom (parts : BoundedQueue Message) (capacity : Nat) : Except Panic MessageQueue :=
  (parts.make capacity).map fun _ => .ofCapacity capacity

section

variable {cells : WriteOnce (CountedQueue parts)} (laws : parts.Laws waiting)
  (cellLaws : cells.Laws) {cell : cells.Carrier} {main : MainQueue}
include laws cellLaws

/-- The first creation fills both cells or makes both unusable. -/
theorem create_like_of_absent (empty : cells.value? cell = .ok none) (capacity : Nat) :
    (stepWith cells cell (.create capacity)).1 =
        (absent.stepFrom (buildFrom parts) (.create capacity)).1 ∧
      IsLike waiting (cells.value? (stepWith cells cell (.create capacity)).2)
        (absent.stepFrom (buildFrom parts) (.create capacity)).2 := by
  simp only [stepWith, stepFrom, buildFrom, CountedQueue.make]
  cases made : parts.make capacity with
  | error cause =>
    obtain ⟨outcome, after⟩ := cellLaws.init_panic cell cause empty
    simp only [Except.map, outcome, after, true_and]
    exact .poisoned
  | ok carrier =>
    obtain ⟨outcome, after⟩ := cellLaws.init_first cell ⟨carrier, 0⟩ empty
    obtain ⟨nothing, capacity_eq⟩ := laws.make capacity carrier made
    simp only [Except.map, outcome, after]
    exact ⟨rfl, .created ⟨nothing, capacity_eq, rfl⟩⟩

/-- An operation on like cells reports the same and leaves like cells. -/
theorem stepWith_like (like : IsLike waiting (cells.value? cell) main) (operation : Operation) :
    (stepWith cells cell operation).1 = (main.stepFrom (buildFrom parts) operation).1 ∧
      IsLike waiting (cells.value? (stepWith cells cell operation).2)
        (main.stepFrom (buildFrom parts) operation).2 := by
  generalize value_eq : cells.value? cell = value at like
  cases like with
  | absent =>
    cases operation with
    | create capacity => exact create_like_of_absent laws cellLaws value_eq capacity
    | _ =>
      simp only [stepWith, value_eq]
      exact ⟨rfl, .absent⟩
  | @created queue model like =>
    cases operation with
    | create capacity =>
      obtain ⟨outcome, after⟩ :=
        cellLaws.init_again cell (CountedQueue.make parts capacity) queue value_eq
      simp only [stepWith, outcome, after]
      exact ⟨rfl, .created like⟩
    | isCreated =>
      simp only [stepWith, value_eq]
      exact ⟨rfl, .created like⟩
    | signal message =>
      obtain ⟨-, next⟩ := CountedQueue.push_like laws like message
      simp only [stepWith, value_eq, cellLaws.change cell queue _ value_eq]
      exact ⟨rfl, .created next⟩
    | onQueue operation =>
      obtain ⟨same, next⟩ := CountedQueue.perform_like laws like operation
      simp only [stepWith, value_eq, cellLaws.change cell queue _ value_eq, same]
      exact ⟨rfl, .created next⟩
  | poisoned =>
    cases operation with
    | create capacity =>
      obtain ⟨outcome, after⟩ :=
        cellLaws.init_poisoned cell (CountedQueue.make parts capacity) _ value_eq
      simp only [stepWith, outcome, after]
      exact ⟨rfl, .poisoned⟩
    | _ =>
      simp only [stepWith, value_eq]
      exact ⟨rfl, .poisoned⟩

/-- A history on like cells reports the same and leaves like cells. -/
theorem repliesWith_like (like : IsLike waiting (cells.value? cell) main)
    (history : List Operation) :
    repliesWith cells cell history =
        (main.turns (buildFrom parts) history).map (·.reply) ∧
      IsLike waiting (cells.value? (afterWith cells cell history))
        (main.after (buildFrom parts) history) := by
  induction history generalizing cell main with
  | nil => exact ⟨rfl, like⟩
  | cons operation rest ih =>
    obtain ⟨same, next⟩ := stepWith_like laws cellLaws like operation
    obtain ⟨later, last⟩ := ih next
    exact ⟨congrArg₂ List.cons same later, last⟩

/-- **Over any parts that keep the laws, the main queue is `MainQueue`.**  Along any history that
begins with an empty cell the same is reported, and at the end the same messages wait with the
same count. -/
theorem replies_of_laws (history : List Operation) :
    repliesWith cells cells.empty history =
        (absent.turns (buildFrom parts) history).map (·.reply) ∧
      IsLike waiting (cells.value? (afterWith cells cells.empty history))
        (absent.after (buildFrom parts) history) := by
  apply repliesWith_like laws cellLaws
  rw [cellLaws.empty]
  exact .absent

end

/-! ## The count of dropped messages -/

theorem dropped_perform_le (queue : MessageQueue) (operation : MessageQueue.Operation) :
    (queue.perform operation).2.dropped ≤ queue.dropped + 1 := by
  cases operation with
  | push message =>
    simp only [MessageQueue.perform, MessageQueue.push]
    split
    · exact Nat.le_refl _
    · exact Nat.le_succ _
  | pop =>
    simp only [MessageQueue.perform, MessageQueue.pop]
    split <;> exact Nat.le_succ _
  | isEmpty => exact Nat.le_succ _
  | capacity => exact Nat.le_succ _
  | takeDropCount => exact Nat.zero_le _

variable {build : Nat → Except Panic MessageQueue}
  (fresh : ∀ capacity queue, build capacity = .ok queue → queue.dropped = 0)
include fresh

theorem dropCount_stepFrom_le (main : MainQueue) (operation : Operation) :
    (main.stepFrom build operation).2.dropCount ≤ main.dropCount + 1 := by
  cases main with
  | absent =>
    cases operation with
    | create capacity =>
      simp only [stepFrom]
      cases built : build capacity with
      | error cause => exact Nat.zero_le _
      | ok queue => exact Nat.le_trans (Nat.le_of_eq (fresh capacity queue built)) (Nat.zero_le _)
    | isCreated => exact Nat.zero_le _
    | signal message => exact Nat.zero_le _
    | onQueue operation => exact Nat.zero_le _
  | created queue =>
    cases operation with
    | create capacity => exact Nat.le_succ _
    | isCreated => exact Nat.le_succ _
    | signal message => exact dropped_perform_le queue (.push message)
    | onQueue operation => exact dropped_perform_le queue operation
  | poisoned => cases operation <;> exact Nat.zero_le _

/-- No more messages are counted than operations were carried out. -/
theorem dropCount_after_le (main : MainQueue) (history : List Operation) :
    (main.after build history).dropCount ≤ main.dropCount + history.length := by
  induction history generalizing main with
  | nil => exact Nat.le_refl _
  | cons operation rest ih =>
    have step := dropCount_stepFrom_le fresh main operation
    have later := ih (main.stepFrom build operation).2
    rw [List.length_cons]
    exact Nat.le_trans later (by omega)

end MainQueue

end KernelStart
