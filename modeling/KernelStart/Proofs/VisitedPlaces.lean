import KernelStart.Pci.VisitedBits
import KernelStart.Proofs.CapabilityReads

/-!
# Walks that remember places by bits

A walk along a capability list keeps the places it has been to in the bits of a word, and a walk
through the buses keeps the buses in four words.  Both take the same course as the walks that keep
sets: the programs are equal.

Pointers are cut to multiples of four, so a walk along a list only ever asks for the bits of whole
registers, where the bits are exact.  That is part of its being sound (`Walk.IsSound`), which
every step keeps.
-/

set_option autoImplicit false

namespace KernelStart.Pci

namespace Capability

/-- The same walk, with its places in bits. -/
def Walk.inBits (walk : Walk) : BitWalk := ⟨walk.next, .ofSet walk.visited⟩

namespace BitWalk

variable {walk : Walk}

/-- At a place of a sound walk, the bits know what the set knows. -/
theorem contains_inBits (sound : walk.IsSound) :
    walk.inBits.visited.contains walk.next = walk.visited.contains walk.next := by
  apply RegisterBits.contains_ofSet
  · intro offset visited
    exact (sound.placed offset visited).whole
  · exact sound.whole

/-- A step with bits is over when the walk is, and otherwise reads the entry and goes on. -/
theorem step_inBits (address : Address) (sound : walk.IsSound) :
    walk.inBits.step address =
      if walk.isOver then
        pure none
      else do
        let capability ← walk.entry address
        return some (capability, (walk.onward capability).inBits) := by
  have known := contains_inBits sound
  have next_eq : walk.inBits.next = walk.next := rfl
  rw [step, next_eq, known, Walk.isOver]
  by_cases header : walk.next < firstOffset
  · simp [header]
  · cases walk.visited.contains walk.next with
    | true => simp [header]
    | false => simp [header]; rfl

theorem take_inBits (address : Address) (sound : walk.IsSound) (limit : Nat) :
    walk.inBits.take address limit = walk.take address limit := by
  induction limit generalizing walk with
  | zero => rfl
  | succ limit ih =>
    rw [take, Walk.take, step_inBits address sound]
    split
    · rfl
    · next goes =>
      rw [bind_assoc]
      refine bind_congr fun capability => ?_
      rw [pure_bind]
      dsimp only
      rw [ih (sound.onward goes capability)]

theorem find?_inBits (address : Address) (kind : UInt8) (sound : walk.IsSound) {limit : Nat}
    (enough : walk.visited.free ≤ limit) :
    walk.inBits.find? address kind limit = walk.find? address kind := by
  induction limit generalizing walk with
  | zero =>
    have known := ByteSet.contains_of_free_eq_zero (Nat.le_zero.1 enough) walk.next
    rw [find?, Walk.find?, dif_pos (by simp [Walk.isOver, known])]
  | succ limit ih =>
    rw [find?, Walk.find?, step_inBits address sound]
    split
    · rfl
    · next goes =>
      rw [bind_assoc]
      refine bind_congr fun capability => ?_
      have fewer := Walk.free_onward_lt capability goes
      rw [pure_bind]
      dsimp only
      rw [ih (sound.onward goes capability) (by omega)]

end BitWalk

/-- **The list is the one that a walk with bits collects.** -/
theorem list_eq_take_bits (address : Address) :
    list address = (do (← BitWalk.start address).take address 256) := by
  rw [← listUpTo_eq_list, listUpTo, start, BitWalk.start, bind_assoc, bind_assoc]
  refine bind_congr fun word => ?_
  rw [pure_bind, pure_bind, ← BitWalk.take_inBits address (Walk.isSound_start word)]
  rfl

/-- **The search for a kind is the one of a walk with bits.** -/
theorem find?_eq_find?_bits (address : Address) (kind : UInt8) :
    find? address kind = (do (← BitWalk.start address).find? address kind 256) := by
  rw [find?, start, BitWalk.start, bind_assoc, bind_assoc]
  refine bind_congr fun word => ?_
  rw [pure_bind, pure_bind,
    ← BitWalk.find?_inBits address kind (Walk.isSound_start word) (ByteSet.free_le _)]
  rfl

end Capability

namespace BusWalk

/-- **A walk enters a bus by its bit.**  With the bits of the buses that it has entered it comes to
the same, and has the bits of the buses that it has entered then. -/
theorem enterByBits_ofSet (walk : BusWalk) (bus : UInt8) :
    (walk.enterByBits (.ofSet walk.entered) bus).1 = walk.enter bus ∧
      ∀ inside, walk.enter bus = .ok inside →
        (walk.enterByBits (.ofSet walk.entered) bus).2 = .ofSet inside.entered := by
  have known_eq := BusBits.contains_ofSet walk.entered bus
  have isNew : ((BusBits.ofSet walk.entered).insert bus).1 = !walk.entered.contains bus := by
    rw [BusBits.insert_isNew, known_eq]
  rw [enterByBits, enter]
  dsimp only
  rw [isNew, Bool.not_not]
  cases known : walk.entered.contains bus with
  | true =>
    refine ⟨rfl, fun inside entered => ?_⟩
    cases entered
    exact BusBits.insert_of_contains (known_eq.trans known)
  | false =>
    rw [if_neg Bool.false_ne_true, if_neg Bool.false_ne_true]
    by_cases deep : depthLimit ≤ walk.stack.length
    · rw [if_pos deep, if_pos deep]
      exact ⟨rfl, nofun⟩
    · rw [if_neg deep, if_neg deep]
      refine ⟨rfl, fun inside entered => ?_⟩
      cases entered
      rfl

end BusWalk

end KernelStart.Pci
