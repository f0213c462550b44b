/-!
# First in, first out

A queue whose additions and removals take constant time on average: elements leave
from the head of one list and arrive at the head of another, which is turned around
when the first runs dry.  `Fifo.toList` is the view by which it is understood, front
first; `toList_push` and `toList_pop?` say what the operations do to it.
-/

set_option autoImplicit false

namespace KernelStart

/-- Elements in arrival order, split into an outgoing and an incoming list. -/
structure Fifo (α : Type) where
  outgoing : List α
  incoming : List α
  size : Nat
  size_eq : size = outgoing.length + incoming.length

namespace Fifo

variable {α : Type}

/-- The elements, front first. -/
def toList (queue : Fifo α) : List α :=
  queue.outgoing ++ queue.incoming.reverse

/-- No elements. -/
def empty : Fifo α := ⟨[], [], 0, rfl⟩

/-- Adds an element at the back. -/
def push (queue : Fifo α) (element : α) : Fifo α where
  outgoing := queue.outgoing
  incoming := element :: queue.incoming
  size := queue.size + 1
  size_eq := by have := queue.size_eq; simp only [List.length_cons]; omega

/-- Takes the element at the front, if there is one. -/
def pop? (queue : Fifo α) : Option (α × Fifo α) :=
  match outgoing_eq : queue.outgoing with
  | element :: rest =>
    some (element, ⟨rest, queue.incoming, queue.size - 1, by
      have := queue.size_eq
      simp only [outgoing_eq, List.length_cons] at this
      omega⟩)
  | [] =>
    match incoming_eq : queue.incoming.reverse with
    | element :: rest =>
      some (element, ⟨rest, [], queue.size - 1, by
        have := queue.size_eq
        have turned := congrArg List.length incoming_eq
        simp only [List.length_reverse, List.length_cons] at turned
        simp only [outgoing_eq, List.length_nil] at this ⊢
        omega⟩)
    | [] => none

instance : Inhabited (Fifo α) := ⟨empty⟩

@[simp] theorem toList_empty : (empty : Fifo α).toList = [] := rfl

@[simp] theorem toList_push (queue : Fifo α) (element : α) :
    (queue.push element).toList = queue.toList ++ [element] := by
  simp [toList, push]

theorem size_eq_length (queue : Fifo α) : queue.size = queue.toList.length := by
  simp [toList, queue.size_eq]

/-- Taking from a queue takes the front of its view. -/
theorem toList_pop? (queue : Fifo α) :
    queue.pop?.map (fun taken => (taken.1, taken.2.toList)) =
      match queue.toList with
      | [] => none
      | element :: rest => some (element, rest) := by
  unfold pop?
  split
  · next element rest outgoing_eq => simp [toList, outgoing_eq]
  · next outgoing_eq =>
    split
    · next element rest incoming_eq => simp [toList, outgoing_eq, incoming_eq]
    · next incoming_eq => simp [toList, outgoing_eq, incoming_eq]

end Fifo

end KernelStart
