/-!
# Sets of byte values

A walk that must not visit a place twice remembers where it has been.  The places here
are byte values, so there are only 256 of them, and `ByteSet.free` counts the ones
still outside.  Each visit of a new place lowers that count, which is why such a walk
ends whatever it is told on the way.

The sets are lists here, so that proofs can follow the visits.  Machine words with one
bit for each place serve as well: `Pci/VisitedBits` has them, and walks that use them
take the same course.
-/

set_option autoImplicit false

namespace KernelStart

/-- A set of byte values, latest first. -/
structure ByteSet where
  members : List UInt8
  deriving DecidableEq, Repr, Inhabited

namespace ByteSet

def empty : ByteSet := ⟨[]⟩

def contains (set : ByteSet) (value : UInt8) : Bool := set.members.contains value

def insert (set : ByteSet) (value : UInt8) : ByteSet := ⟨value :: set.members⟩

/-- The number of byte values outside the set. -/
def free (set : ByteSet) : Nat :=
  (List.range 256).countP fun key => !set.contains (UInt8.ofNat key)

@[simp] theorem contains_empty (value : UInt8) : empty.contains value = false := rfl

@[simp] theorem contains_insert (set : ByteSet) (value other : UInt8) :
    (set.insert value).contains other = (other == value || set.contains other) := by
  exact List.contains_cons

theorem countP_lt_countP_of_mem {α : Type} {p q : α → Bool} {list : List α} {element : α}
    (le : ∀ x, p x = true → q x = true) (mem : element ∈ list) (notP : p element = false)
    (isQ : q element = true) : list.countP p < list.countP q := by
  induction list with
  | nil => cases mem
  | cons head tail ih =>
    have mono : tail.countP p ≤ tail.countP q := List.countP_mono_left fun x _ => le x
    rcases List.mem_cons.1 mem with rfl | inTail
    · rw [List.countP_cons_of_neg (by simp [notP]), List.countP_cons_of_pos isQ]
      omega
    · have step := ih inTail
      rw [List.countP_cons, List.countP_cons]
      by_cases isP : p head = true
      · rw [if_pos isP, if_pos (le head isP)]; omega
      · rw [if_neg isP]; omega

/-- A new member lowers the number of values outside. -/
theorem free_insert_lt {set : ByteSet} {value : UInt8} (fresh : set.contains value = false) :
    (set.insert value).free < set.free := by
  have inRange : value.toNat ∈ List.range 256 := List.mem_range.2 value.toNat_lt
  refine countP_lt_countP_of_mem ?_ inRange ?_ ?_
  · intro key outside
    simp only [contains_insert, Bool.not_or, Bool.and_eq_true] at outside
    exact outside.2
  · simp
  · simp [fresh]

/-- At most all 256 values are outside. -/
theorem free_le (set : ByteSet) : set.free ≤ 256 := by
  have bound := List.countP_le_length (l := List.range 256)
    (p := fun key => !set.contains (UInt8.ofNat key))
  simpa [free] using bound

/-- A set that leaves no value outside holds every value. -/
theorem contains_of_free_eq_zero {set : ByteSet} (full : set.free = 0) (value : UInt8) :
    set.contains value = true := by
  have inRange : value.toNat ∈ List.range 256 := List.mem_range.2 value.toNat_lt
  have inside := List.countP_eq_zero.1 full value.toNat inRange
  simpa using inside

end ByteSet

end KernelStart
