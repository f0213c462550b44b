import Mathlib.Data.Nat.Bitwise
import KernelStart.Pci.BusWalk
import KernelStart.Pci.Capability

/-!
# Visited places in the bits of machine words

A walk keeps no list of where it has been.  One word has a bit for each of the 64 registers of
a configuration space, and four words have a bit for each of the 256 buses.  Looking a place up
is a test of its bit, and remembering it sets that bit.

The bits are exact (`RegisterBits.contains_ofSet`, `BusBits.contains_ofSet`): after the members
of a set of bytes were put in one by one, they tell the same places apart.  For registers that
takes offsets that are multiples of four, since all offsets into a register share its bit.

`Capability.BitWalk` is the walk along a capability list with such a word, and
`BusWalk.enterByBits` enters a bus by its bit.
-/

set_option autoImplicit false

namespace KernelStart.Pci

/-! ## One word -/

/-- The word with one bit; there are 64 positions. -/
def oneBit (position : UInt8) : UInt64 := 1 <<< position.toUInt64

/-- Whether the bit at a position is set. -/
def holdsBit (word : UInt64) (position : UInt8) : Bool := word &&& oneBit position != 0

/-- The word with the bit at a position set. -/
def withBit (word : UInt64) (position : UInt8) : UInt64 := word ||| oneBit position

section Word

variable {position other : UInt8}

theorem toNat_oneBit (inWord : position.toNat < 64) :
    (oneBit position).toNat = 2 ^ position.toNat := by
  rw [oneBit, UInt64.toNat_shiftLeft, UInt8.toNat_toUInt64, Nat.mod_eq_of_lt inWord,
    UInt64.toNat_one, Nat.one_shiftLeft]
  exact Nat.mod_eq_of_lt (Nat.pow_lt_pow_right (by decide) inWord)

theorem holdsBit_eq_testBit (word : UInt64) (inWord : position.toNat < 64) :
    holdsBit word position = word.toNat.testBit position.toNat := by
  rw [Bool.eq_iff_iff, holdsBit, bne_iff_ne, ne_eq, ← UInt64.toNat_inj, UInt64.toNat_and,
    toNat_oneBit inWord, UInt64.toNat_zero, Nat.and_two_pow]
  cases word.toNat.testBit position.toNat <;> simp

@[simp] theorem holdsBit_zero (position : UInt8) : holdsBit 0 position = false := by
  simp [holdsBit]

/-- Setting a bit sets that one and no other. -/
theorem holdsBit_withBit (word : UInt64) (inWord : position.toNat < 64)
    (otherInWord : other.toNat < 64) :
    holdsBit (withBit word position) other = (other == position || holdsBit word other) := by
  have sameBit : decide (position.toNat = other.toNat) = (other == position) := by
    rw [Bool.eq_iff_iff, decide_eq_true_iff, beq_iff_eq, UInt8.toNat_inj, eq_comm]
  rw [holdsBit_eq_testBit _ otherInWord, holdsBit_eq_testBit _ otherInWord, withBit,
    UInt64.toNat_or, toNat_oneBit inWord, Nat.testBit_or, Nat.testBit_two_pow, sameBit,
    Bool.or_comm]

/-- Setting a bit that is set changes nothing. -/
theorem withBit_of_holdsBit {word : UInt64} (inWord : position.toNat < 64)
    (held : holdsBit word position = true) : withBit word position = word := by
  rw [holdsBit_eq_testBit _ inWord] at held
  rw [← UInt64.toNat_inj, withBit, UInt64.toNat_or, toNat_oneBit inWord]
  refine Nat.eq_of_testBit_eq fun number => ?_
  rw [Nat.testBit_or, Nat.testBit_two_pow]
  by_cases same : position.toNat = number
  · simp [← same, held]
  · simp [same]

end Word

/-! ## The registers of a configuration space -/

/-- A bit for each register. -/
structure RegisterBits where
  word : UInt64
  deriving DecidableEq, Repr

namespace RegisterBits

def empty : RegisterBits := ⟨0⟩

/-- The position of the bit of a register. -/
def position (offset : UInt8) : UInt8 := offset >>> 2

def contains (bits : RegisterBits) (offset : UInt8) : Bool := holdsBit bits.word (position offset)

def insert (bits : RegisterBits) (offset : UInt8) : RegisterBits :=
  ⟨withBit bits.word (position offset)⟩

/-- The bits of the members of a set, put in from the first to the latest. -/
def ofSet (set : ByteSet) : RegisterBits :=
  set.members.foldr (fun offset bits => bits.insert offset) .empty

theorem toNat_position (offset : UInt8) : (position offset).toNat = offset.toNat / 4 := by
  rw [position, UInt8.toNat_shiftRight, Nat.shiftRight_eq_div_pow]
  rfl

theorem position_lt (offset : UInt8) : (position offset).toNat < 64 := by
  have bound := offset.toNat_lt
  rw [toNat_position]
  omega

/-- Multiples of four share no bits. -/
theorem position_beq {offset other : UInt8} (whole : offset.toNat % 4 = 0)
    (otherWhole : other.toNat % 4 = 0) :
    (position other == position offset) = (other == offset) := by
  rw [Bool.eq_iff_iff, beq_iff_eq, beq_iff_eq, ← UInt8.toNat_inj, ← UInt8.toNat_inj,
    toNat_position, toNat_position]
  omega

theorem contains_insert (bits : RegisterBits) {offset other : UInt8}
    (whole : offset.toNat % 4 = 0) (otherWhole : other.toNat % 4 = 0) :
    (bits.insert offset).contains other = (other == offset || bits.contains other) := by
  rw [contains, insert, holdsBit_withBit _ (position_lt offset) (position_lt other),
    position_beq whole otherWhole, contains]

/-- The bit of a register tells whether a multiple of four is among others. -/
theorem contains_ofSet {set : ByteSet} (whole : ∀ offset ∈ set.members, offset.toNat % 4 = 0)
    {other : UInt8} (otherWhole : other.toNat % 4 = 0) :
    (ofSet set).contains other = set.contains other := by
  obtain ⟨members⟩ := set
  induction members with
  | nil => simp [ofSet, empty, contains, ByteSet.contains]
  | cons offset rest ih =>
    obtain ⟨first, later⟩ := List.forall_mem_cons.1 whole
    have split : ByteSet.mk (offset :: rest) = (ByteSet.mk rest).insert offset := rfl
    have inBits : ofSet ⟨offset :: rest⟩ = (ofSet ⟨rest⟩).insert offset := rfl
    rw [inBits, contains_insert _ first otherWhole, ih later, split, ByteSet.contains_insert]

end RegisterBits

/-! ## The buses -/

/-- A bit for each bus. -/
structure BusBits where
  words : Vector UInt64 4

namespace BusBits

def empty : BusBits := ⟨Vector.replicate 4 0⟩

/-- The number of the word that has the bit of a bus. -/
def wordOf (bus : UInt8) : Fin 4 :=
  ⟨bus.toNat / 64, by have := bus.toNat_lt; omega⟩

/-- The position of the bit of a bus in its word. -/
def position (bus : UInt8) : UInt8 := bus % 64

def contains (bits : BusBits) (bus : UInt8) : Bool :=
  holdsBit bits.words[wordOf bus] (position bus)

/-- Sets the bit of a bus, and tells whether it was clear. -/
def insert (bits : BusBits) (bus : UInt8) : Bool × BusBits :=
  let word := bits.words[wordOf bus]
  (!holdsBit word (position bus), ⟨bits.words.set (wordOf bus) (withBit word (position bus))⟩)

/-- The bits of the members of a set, put in from the first to the latest. -/
def ofSet (set : ByteSet) : BusBits :=
  set.members.foldr (fun bus bits => (bits.insert bus).2) .empty

theorem position_lt (bus : UInt8) : (position bus).toNat < 64 := by
  rw [position, UInt8.toNat_mod]
  exact Nat.mod_lt _ (by decide)

/-- A bus is told by the number of its word and the position of its bit. -/
theorem eq_iff (bus other : UInt8) :
    other = bus ↔ wordOf bus = wordOf other ∧ position other = position bus := by
  constructor
  · rintro rfl
    exact ⟨rfl, rfl⟩
  · rintro ⟨sameWord, samePosition⟩
    have sameQuotient : bus.toNat / 64 = other.toNat / 64 := congrArg Fin.val sameWord
    have sameRest : other.toNat % 64 = bus.toNat % 64 := by
      have same := congrArg UInt8.toNat samePosition
      rwa [position, position, UInt8.toNat_mod, UInt8.toNat_mod] at same
    rw [← UInt8.toNat_inj]
    omega

theorem contains_insert (bits : BusBits) (bus other : UInt8) :
    (bits.insert bus).2.contains other = (other == bus || bits.contains other) := by
  simp only [contains, insert, Fin.getElem_fin, Vector.getElem_set]
  by_cases sameWord : wordOf bus = wordOf other
  · have told : (position other == position bus) = (other == bus) := by
      rw [Bool.eq_iff_iff, beq_iff_eq, beq_iff_eq, eq_iff bus other]
      exact (and_iff_right sameWord).symm
    rw [if_pos (congrArg Fin.val sameWord),
      holdsBit_withBit _ (position_lt bus) (position_lt other), told]
    simp only [sameWord]
  · have differs : (other == bus) = false :=
      beq_false_of_ne fun same => sameWord ((eq_iff bus other).1 same).1
    rw [if_neg (mt Fin.ext sameWord), differs, Bool.false_or]

/-- An insertion tells whether the bus is new. -/
theorem insert_isNew (bits : BusBits) (bus : UInt8) : (bits.insert bus).1 = !bits.contains bus :=
  rfl

/-- A bus that is not new leaves the bits alone. -/
theorem insert_of_contains {bits : BusBits} {bus : UInt8} (known : bits.contains bus = true) :
    (bits.insert bus).2 = bits := by
  rw [insert, withBit_of_holdsBit (position_lt bus) known]
  simp

/-- The bit of a bus tells whether it is among others. -/
theorem contains_ofSet (set : ByteSet) (other : UInt8) :
    (ofSet set).contains other = set.contains other := by
  obtain ⟨members⟩ := set
  induction members with
  | nil => simp [ofSet, empty, contains, ByteSet.contains]
  | cons bus rest ih =>
    have split : ByteSet.mk (bus :: rest) = (ByteSet.mk rest).insert bus := rfl
    have inBits : ofSet ⟨bus :: rest⟩ = ((ofSet ⟨rest⟩).insert bus).2 := rfl
    rw [inBits, contains_insert, ih, split, ByteSet.contains_insert]

end BusBits

/-! ## Walks with bits -/

namespace Capability

/-- A walk along the list of capabilities that remembers places by their bits. -/
structure BitWalk where
  next : UInt8
  visited : RegisterBits
  deriving DecidableEq, Repr

namespace BitWalk

/-- Reads the pointer to the first entry. -/
def start (address : Address) : Program ConfigRead BitWalk := do
  return ⟨pointer (← read address capabilityPointerOffset), .empty⟩

/-- Reads the next entry, unless the pointer leads into the standard header or to a place where
the walk has been. -/
def step (address : Address) (walk : BitWalk) :
    Program ConfigRead (Option (Capability × BitWalk)) :=
  if walk.next < firstOffset then
    pure none
  else if walk.visited.contains walk.next then
    pure none
  else do
    let capability : Capability := ⟨walk.next, ← read address walk.next⟩
    return some (capability, ⟨capability.next, walk.visited.insert walk.next⟩)

/-- Collects at most `limit` further entries. -/
def take (address : Address) (walk : BitWalk) : Nat → Program ConfigRead (List Capability)
  | 0 => pure []
  | limit + 1 => do
    match ← walk.step address with
    | none => return []
    | some (capability, onward) => return capability :: (← onward.take address limit)

/-- The first of at most `limit` further entries that is of a kind. -/
def find? (address : Address) (kind : UInt8) (walk : BitWalk) :
    Nat → Program ConfigRead (Option Capability)
  | 0 => pure none
  | limit + 1 => do
    match ← walk.step address with
    | none => return none
    | some (capability, onward) =>
      if capability.id = kind then
        return some capability
      onward.find? address kind limit

end BitWalk

end Capability

namespace BusWalk

/-- Puts a bus on top of the stack, unless its bit is set; the bit is set in any case. -/
def enterByBits (walk : BusWalk) (bits : BusBits) (bus : UInt8) :
    Except Failure BusWalk × BusBits :=
  let (isNew, next) := bits.insert bus
  if !isNew then
    (.ok walk, next)
  else if depthLimit ≤ walk.stack.length then
    (.error .resourceExhausted, next)
  else
    (.ok { walk with stack := .start bus :: walk.stack, entered := walk.entered.insert bus }, next)

end BusWalk

end KernelStart.Pci
