import Mathlib.Data.List.Induction
import KernelStart.Memory.PageMapper

/-!
# Changing one entry of a tree of tables

Tables are written through the frames they lie in, and two paths to one frame would change
together.  Where different paths lead to different frames (`TableMemory.Separate`), writing an
entry changes it on one path only (`EntryChanged`).  There are two such writes: an entry that
goes on leading where it led (`entryChanged_setEntry`), and one that gets a table in a frame
that no path led to, whose entries are zero (`entryChanged_create`).

Everything else is read off the entries: the tables behind the other paths are where they were,
and so is what maps an address whose path does not go through the changed entry
(`EntryChanged.firstLeaf_eq`).  `AddressSpace.Separated` is what a tree and its supply need for
this to go on, and what both writes keep.
-/

set_option autoImplicit false

namespace KernelStart.Memory

/-! ## Bits of an entry -/

theorem or_and_distrib (left right mask : UInt64) :
    (left ||| right) &&& mask = (left &&& mask) ||| (right &&& mask) := by
  rw [← UInt64.toBitVec_inj]
  simp only [UInt64.toBitVec_and, UInt64.toBitVec_or]
  exact BitVec.and_or_distrib_right

theorem and_or_absorb (word mask : UInt64) : (word &&& mask) ||| mask = mask := by
  rw [← UInt64.toBitVec_inj]
  simp only [UInt64.toBitVec_and, UInt64.toBitVec_or]
  ext bit
  simp

/-- A frame has no other bits than those that an entry keeps of it. -/
theorem IsFrame.target_eq {frame : UInt64} (isFrame : IsFrame frame) :
    Entry.target frame = frame := by
  obtain ⟨number, value⟩ := isFrame.aligned
  have physical := isFrame.physical
  have small : number < 2 ^ 40 := by
    rw [value, physicalLimit, pageSize] at physical
    omega
  have shifted : frame.toNat = number <<< 12 := by
    rw [value, Nat.shiftLeft_eq, Nat.mul_comm, pageSize]
  have mask : Entry.addressMask.toNat = (2 ^ 40 - 1) <<< 12 := by decide
  rw [← UInt64.toNat_inj, Entry.target, UInt64.toNat_and, shifted, mask,
    ← Nat.shiftLeft_and_distrib, Nat.and_two_pow_sub_one_eq_mod, Nat.mod_eq_of_lt small]

namespace Entry

variable {entry added required : UInt64}

theorem has_or_of_left (has_left : has entry required = true) :
    has (entry ||| added) required = true := by
  rw [has, beq_iff_eq] at has_left ⊢
  rw [or_and_distrib, has_left, UInt64.or_comm, and_or_absorb]

theorem has_or_of_right (has_right : has added required = true) :
    has (entry ||| added) required = true := by
  rw [UInt64.or_comm]
  exact has_or_of_left has_right

/-- Flags that are not asked for do not count. -/
theorem has_or_of_apart (apart : added &&& required = 0) :
    has (entry ||| added) required = has entry required := by
  rw [has, has, or_and_distrib, apart, UInt64.or_zero]

/-- Flags do not move a table. -/
theorem table?_or (isPresent : has entry present = true) (noAddress : added &&& addressMask = 0)
    (notHuge : added &&& huge = 0) : table? (entry ||| added) = table? entry := by
  rw [table?, table?, has_or_of_left isPresent, isPresent, has_or_of_apart notHuge, target, target,
    or_and_distrib, noAddress, UInt64.or_zero]

section

variable {frame flags : UInt64} (isFrame : IsFrame frame)
include isFrame

/-- An entry of a frame and flags holds the frame. -/
theorem target_or (noAddress : flags &&& addressMask = 0) : target (frame ||| flags) = frame := by
  rw [target, or_and_distrib, noAddress, UInt64.or_zero]
  exact isFrame.target_eq

/-- A frame has none of the bits around the address. -/
theorem frame_and (outside : required &&& addressMask = 0) : frame &&& required = 0 := by
  rw [← isFrame.target_eq, target, UInt64.and_assoc, UInt64.and_comm addressMask, outside,
    UInt64.and_zero]

/-- An entry of a frame and flags holds the flags. -/
theorem flags_or (outside : flags &&& ~~~addressMask = flags) :
    Entry.flags (frame ||| flags) = flags := by
  have none : frame &&& ~~~addressMask = 0 := frame_and isFrame (by decide)
  rw [Entry.flags, or_and_distrib, none, outside, UInt64.zero_or]

/-- What is entered as a table is one. -/
theorem table?_frame_or (isPresent : has flags present = true)
    (noAddress : flags &&& addressMask = 0) (notHuge : flags &&& huge = 0) :
    table? (frame ||| flags) = some frame := by
  have free : has frame huge = false := by
    rw [has, frame_and isFrame (by decide)]
    rfl
  rw [table?, has_or_of_right isPresent, has_or_of_apart notHuge, free, target_or isFrame noAddress]
  rfl

end

end Entry

theorem concat_eq_concat_iff {path other : List Nat} {index position : Nat} :
    other ++ [position] = path ++ [index] ↔ other = path ∧ position = index := by
  simp

/-! ## Places in memory -/

namespace TableMemory

variable {memory after : TableMemory} {root table frame value : UInt64} {path other : List Nat}
  {index position : Nat}

/-- Places are apart where pages or positions are. -/
theorem place_eq_place_iff {another : UInt64} (inTable : index < tableSize)
    (alsoInTable : position < tableSize) :
    place table index = place another position ↔
      pageOf table.toNat = pageOf another.toNat ∧ index = position := by
  rw [place, place, pageOf, pageOf, tableSize] at *
  omega

theorem getD_foldl_erase (entries : Std.TreeMap Nat UInt64) (table : UInt64) (count target : Nat) :
    ((List.range count).foldl (fun kept index => kept.erase (place table index)) entries).getD
        target 0 =
      if ∃ index < count, place table index = target then 0 else entries.getD target 0 := by
  induction count with
  | zero => simp
  | succ count ih =>
    rw [List.range_succ, List.foldl_append, List.foldl_cons, List.foldl_nil,
      Std.TreeMap.getD_erase, ih]
    by_cases here : place table count = target
    · rw [if_pos (Std.LawfulEqCmp.compare_eq_iff_eq.2 here),
        if_pos ⟨count, Nat.lt_succ_self _, here⟩]
    · rw [if_neg fun same => here (Std.LawfulEqCmp.compare_eq_iff_eq.1 same)]
      refine if_congr ⟨?_, ?_⟩ rfl rfl
      · rintro ⟨index, before, there⟩
        exact ⟨index, Nat.lt_succ_of_lt before, there⟩
      · rintro ⟨index, before, there⟩
        refine ⟨index, Nat.lt_of_le_of_ne (Nat.le_of_lt_succ before) ?_, there⟩
        rintro rfl
        exact here there

/-- Clearing a table sets its entries to zero, and nothing else. -/
theorem entry_clear (memory : TableMemory) (table another : UInt64) (inTable : index < tableSize) :
    (memory.clear table).entry another index =
      if pageOf table.toNat = pageOf another.toNat then 0 else memory.entry another index := by
  rw [entry, clear, getD_foldl_erase]
  refine if_congr ?_ rfl rfl
  constructor
  · rintro ⟨position, alsoInTable, samePlace⟩
    exact ((place_eq_place_iff alsoInTable inTable).1 samePlace).1
  · intro samePage
    exact ⟨index, inTable, (place_eq_place_iff inTable inTable).2 ⟨samePage, rfl⟩⟩

/-! ## Writing on one path -/

/-- Different paths lead to different frames. -/
def Separate (memory : TableMemory) (root : UInt64) : Prop :=
  ∀ ⦃path other : List Nat⦄, IsTablePath path → IsTablePath other → ∀ ⦃table another : UInt64⦄,
    memory.tableBelow root path = some table → memory.tableBelow root other = some another →
      pageOf table.toNat = pageOf another.toNat → path = other

/-- No table lies in the page of the frame. -/
def Avoids (memory : TableMemory) (root frame : UInt64) : Prop :=
  ∀ ⦃path : List Nat⦄, IsTablePath path → ∀ ⦃table : UInt64⦄,
    memory.tableBelow root path = some table → pageOf table.toNat ≠ pageOf frame.toNat

/-- One entry of the tree has a new value, on one path. -/
def EntryChanged (memory after : TableMemory) (root : UInt64) (path : List Nat) (index : Nat)
    (value : UInt64) : Prop :=
  ∀ other position, IsTablePath other → position < tableSize →
    after.entryBelow root other position =
      if other = path ∧ position = index then value else memory.entryBelow root other position

section

variable (separate : memory.Separate root) (isPath : IsTablePath path)
  (reached : memory.tableBelow root path = some table) (inTable : index < tableSize)
include separate isPath reached inTable

/-- Among the tables of the tree, a write is seen in the one that it is made to. -/
theorem entry_setEntry_of_separate {another : UInt64} (isOther : IsTablePath other)
    (alsoInTable : position < tableSize) (there : memory.tableBelow root other = some another) :
    (memory.setEntry table index value).entry another position =
      if other = path ∧ position = index then value else memory.entry another position := by
  rw [entry_setEntry]
  refine if_congr ((place_eq_place_iff inTable alsoInTable).trans ⟨?_, ?_⟩) rfl rfl
  · rintro ⟨samePage, rfl⟩
    exact ⟨(separate isPath isOther reached there samePage).symm, rfl⟩
  · rintro ⟨rfl, rfl⟩
    exact ⟨congrArg (pageOf ·.toNat) (Option.some.inj (reached.symm.trans there)), rfl⟩

/-- A walk that gets to the same table, or to none, finds the entries of an updated tree. -/
theorem entryBelow_of_same (isOther : IsTablePath other) (alsoInTable : position < tableSize)
    (same : after.tableBelow root other = memory.tableBelow root other)
    (written : ∀ another, memory.tableBelow root other = some another →
      after.entry another position = (memory.setEntry table index value).entry another position) :
    after.entryBelow root other position =
      if other = path ∧ position = index then value
      else memory.entryBelow root other position := by
  cases there : memory.tableBelow root other with
  | none =>
    have elsewhere : other ≠ path := by
      rintro rfl
      exact nomatch reached.symm.trans there
    rw [entryBelow_of_none (same.trans there), entryBelow_of_none there,
      if_neg fun both => elsewhere both.1]
  | some another =>
    rw [entryBelow_of_some (same.trans there), entryBelow_of_some there, written another there]
    exact entry_setEntry_of_separate separate isPath reached inTable isOther alsoInTable there

/-- An entry that goes on leading where it led can be written. -/
theorem entryChanged_setEntry
    (leads : path.length < upperLevels.length →
      Entry.table? value = Entry.table? (memory.entryBelow root path index)) :
    EntryChanged memory (memory.setEntry table index value) root path index value := by
  have tables_eq : ∀ other, IsTablePath other →
      (memory.setEntry table index value).tableBelow root other =
        memory.tableBelow root other := by
    intro other isOther
    induction other using List.reverseRecOn with
    | nil => rfl
    | append_singleton before last ih =>
      obtain ⟨isBefore, short, alsoInTable⟩ := isOther.of_concat
      rw [tableBelow_concat, tableBelow_concat,
        entryBelow_of_same separate isPath reached inTable isBefore alsoInTable (ih isBefore)
          fun _ _ => rfl]
      split
      · next both =>
        obtain ⟨rfl, rfl⟩ := both
        exact leads short
      · rfl
  intro other position isOther alsoInTable
  exact entryBelow_of_same separate isPath reached inTable isOther alsoInTable
    (tables_eq other isOther) fun _ _ => rfl

/-- An unused entry can be given a table in a frame without tables, once that is cleared. -/
theorem entryChanged_create (short : path.length < upperLevels.length)
    (unused : memory.entryBelow root path index = 0) (avoids : memory.Avoids root frame)
    (leads : Entry.table? value = some frame) :
    EntryChanged memory ((memory.setEntry table index value).clear frame) root path index
      value := by
  have missing : memory.tableBelow root (path ++ [index]) = none := by
    rw [tableBelow_concat, unused, Entry.table?_zero]
  -- the new table has no entries, and neither has the walk that did not get there
  have entry_eq {other : List Nat} {position : Nat} (isOther : IsTablePath other)
      (alsoInTable : position < tableSize)
      (same : ((memory.setEntry table index value).clear frame).tableBelow root other =
        if other = path ++ [index] then some frame else memory.tableBelow root other) :
      ((memory.setEntry table index value).clear frame).entryBelow root other position =
        if other = path ∧ position = index then value
        else memory.entryBelow root other position := by
    by_cases new : other = path ++ [index]
    · have elsewhere : other ≠ path := by
        rintro rfl
        exact absurd (congrArg List.length new) (by simp)
      rw [if_pos new] at same
      rw [entryBelow_of_some same, entry_clear _ _ _ alsoInTable, if_pos rfl, new,
        entryBelow_of_none missing, ← new, if_neg fun both => elsewhere both.1]
    · rw [if_neg new] at same
      refine entryBelow_of_same separate isPath reached inTable isOther alsoInTable same ?_
      intro another there
      rw [entry_clear _ _ _ alsoInTable, if_neg fun taken => avoids isOther there taken.symm]
  have tables_eq : ∀ other, IsTablePath other →
      ((memory.setEntry table index value).clear frame).tableBelow root other =
        if other = path ++ [index] then some frame else memory.tableBelow root other := by
    intro other isOther
    induction other using List.reverseRecOn with
    | nil =>
      rw [if_neg fun none => absurd (congrArg List.length none) (by simp), tableBelow, tableBelow]
    | append_singleton before last ih =>
      obtain ⟨isBefore, _, alsoInTable⟩ := isOther.of_concat
      rw [tableBelow_concat, tableBelow_concat, entry_eq isBefore alsoInTable (ih isBefore)]
      simp only [concat_eq_concat_iff]
      split
      · exact leads
      · rfl
  intro other position isOther alsoInTable
  exact entry_eq isOther alsoInTable (tables_eq other isOther)

end

namespace EntryChanged

variable (changed : EntryChanged memory after root path index value)
include changed

/-- The tables behind other entries are where they were. -/
theorem tableBelow_eq (isOther : IsTablePath other) :
    after.tableBelow root other =
      if other = path ++ [index] then Entry.table? value else memory.tableBelow root other := by
  cases other using List.reverseRecOn with
  | nil =>
    rw [if_neg fun none => absurd (congrArg List.length none) (by simp)]
    rfl
  | append_singleton before last =>
    obtain ⟨isBefore, _, inTable⟩ := isOther.of_concat
    rw [tableBelow_concat, tableBelow_concat, changed before last isBefore inTable]
    simp only [concat_eq_concat_iff]
    split <;> rfl

/-- No table is elsewhere if the entry goes on leading where it led. -/
theorem tableBelow_same (isOther : IsTablePath other)
    (leads : path.length < upperLevels.length →
      Entry.table? value = Entry.table? (memory.entryBelow root path index)) :
    after.tableBelow root other = memory.tableBelow root other := by
  rw [changed.tableBelow_eq isOther]
  split
  · next behind =>
    subst behind
    rw [tableBelow_concat]
    exact leads isOther.of_concat.2.1
  · rfl

section

variable (leads : Entry.table? value = some frame)
include leads

/-- A table in a frame without tables leaves the frames of the tree apart. -/
theorem separate_of_new (separate : memory.Separate root) (avoids : memory.Avoids root frame) :
    after.Separate root := by
  intro one other isOne isOther table another there elsewhere samePage
  rw [changed.tableBelow_eq isOne, leads] at there
  rw [changed.tableBelow_eq isOther, leads] at elsewhere
  split at there <;> split at elsewhere
  · next oneNew otherNew => exact oneNew.trans otherNew.symm
  · cases there
    exact absurd samePage.symm (avoids isOther elsewhere)
  · cases elsewhere
    exact absurd samePage (avoids isOne there)
  · exact separate isOne isOther there elsewhere samePage

/-- Other frames without tables go on having none. -/
theorem avoids_of_new {later : UInt64} (avoids : memory.Avoids root later)
    (otherPage : pageOf frame.toNat ≠ pageOf later.toNat) : after.Avoids root later := by
  intro other isOther table there
  rw [changed.tableBelow_eq isOther, leads] at there
  split at there
  · cases there
    exact otherPage
  · exact avoids isOther there

end

/-- Addresses whose entries do not change what they map go on meaning what they meant. -/
theorem firstLeaf_eq {whole : List Nat} (positions : ∀ position ∈ whole, position < tableSize)
    (levels : whole.length = upperLevels.length + 1)
    (same : ∀ rest, whole = path ++ index :: rest →
      Entry.leaf? value (rest.length + 1) =
        Entry.leaf? (memory.entryBelow root path index) (rest.length + 1)) :
    firstLeaf (after.entryBelow root) [] whole = firstLeaf (memory.entryBelow root) [] whole := by
  refine firstLeaf_congr fun before position rest split => ?_
  rw [List.nil_append]
  subst split
  rw [List.length_append, List.length_cons] at levels
  have isBefore : IsTablePath before :=
    ⟨by omega, fun other listed => positions other (List.mem_append_left _ listed)⟩
  have inTable : position < tableSize := positions position (by simp)
  rw [changed before position isBefore inTable]
  split
  · next both =>
    obtain ⟨rfl, rfl⟩ := both
    exact same rest rfl
  · rfl

end EntryChanged

end TableMemory

end KernelStart.Memory
