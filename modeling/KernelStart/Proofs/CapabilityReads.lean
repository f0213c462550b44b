import KernelStart.Pci.Capability
import KernelStart.Program.Conclusion
import Mathlib.Data.List.Perm.Subperm

/-!
# What a walk along the capability list reads

The pointers of a capability list come from the hardware, and a register may hold something else
each time it is read.  So nothing is assumed about the answers here, not even that a list has an
end.

Whatever a pointer is, it is cut to a multiple of four, and the walk goes on only behind the
standard header and only to a place where it has not been.  There are 48 such places, so a walk
reads at most 48 entries, each at a place of its own, and nothing else but the pointer to the
first one (`list_reads_each_place_once`).

Entries are collected as they are read.  Asking for no more than a number of them ends the walk
early, and a number that is large enough does not end it at all (`Walk.take_eq_collect`), so
both are followed by the same induction on that number.
-/

set_option autoImplicit false

namespace KernelStart.Pci

open Program (Concludes)

/-- Among programs that could write, a reading program reads as it does alone. -/
theorem readOnly_concludes {α : Type} {good : List ConfigRegister → α → Prop}
    {program : Program ConfigRead α} (concludes : program.Concludes (fun _ => True) good) :
    (readOnly program).Concludes ConfigRequest.IsRead
      fun made value => ∃ reads, made = reads.map ConfigRequest.read ∧ good reads value := by
  induction program generalizing good with
  | done value => exact ⟨[], rfl, concludes⟩
  | panic _ => exact concludes
  | ask register resume ih =>
    refine ⟨⟨register, rfl⟩, fun answer => (ih answer (concludes.2 answer)).mono ?_⟩
    rintro _ value ⟨reads, rfl, isGood⟩
    exact ⟨register :: reads, rfl, isGood⟩

namespace Capability

/-! ## Places for entries -/

/-- A place for an entry: a register behind the standard header. -/
structure IsPlace (offset : UInt8) : Prop where
  whole : offset.toNat % 4 = 0
  behindHeader : 0x40 ≤ offset.toNat
  inSpace : offset.toNat ≤ 0xfc

/-- The number of places for an entry. -/
def placeCount : Nat := 48

/-- Offsets at different places are not more than there are places. -/
theorem length_le_placeCount {offsets : List UInt8} (distinct : offsets.Nodup)
    (placed : ∀ offset ∈ offsets, IsPlace offset) : offsets.length ≤ placeCount := by
  let places := (List.range placeCount).map fun number => UInt8.ofNat (0x40 + 4 * number)
  have inPlaces : offsets ⊆ places := by
    intro offset isOne
    obtain ⟨whole, behindHeader, inSpace⟩ := placed offset isOne
    refine List.mem_map.2 ⟨(offset.toNat - 0x40) / 4, ?_, ?_⟩
    · simp only [List.mem_range, placeCount]
      omega
    · have back : 0x40 + 4 * ((offset.toNat - 0x40) / 4) = offset.toNat := by omega
      rw [back, UInt8.ofNat_toNat]
  have bound := (List.subperm_of_subset distinct inPlaces).length_le
  rwa [List.length_map, List.length_range] at bound

/-- A pointer is cut to a multiple of four, whatever the register holds. -/
theorem toNat_pointer_mod_four (word : UInt32) : (pointer word).toNat % 4 = 0 := by
  have cut := @Nat.and_mod_two_pow word.toUInt8.toNat 0xfc 2
  rw [pointer, UInt8.toNat_and]
  exact cut.trans (Nat.and_zero _)

/-! ## Walks over arbitrary hardware -/

namespace Walk

/-- The next place is a whole register, and entries have been read at places only, and at none
twice. -/
structure IsSound (walk : Walk) : Prop where
  whole : walk.next.toNat % 4 = 0
  placed : ∀ offset ∈ walk.visited.members, IsPlace offset
  once : walk.visited.members.Nodup

variable {walk : Walk}

theorem isSound_start (word : UInt32) : (Walk.mk (pointer word) .empty).IsSound where
  whole := toNat_pointer_mod_four word
  placed := fun _ none => nomatch none
  once := List.nodup_nil

/-- A sound walk that is not over has come to a place where it has not been. -/
theorem IsSound.next_isPlace (sound : walk.IsSound) (goes : ¬walk.isOver = true) :
    IsPlace walk.next ∧ walk.next ∉ walk.visited.members := by
  simp only [isOver, Bool.or_eq_true, decide_eq_true_iff, not_or, UInt8.not_lt] at goes
  obtain ⟨behindHeader, fresh⟩ := goes
  have whole := sound.whole
  have small := walk.next.toNat_lt
  refine ⟨⟨whole, UInt8.le_iff_toNat_le.1 behindHeader, by omega⟩, ?_⟩
  simpa [ByteSet.contains] using fresh

theorem IsSound.onward (sound : walk.IsSound) (goes : ¬walk.isOver = true)
    (capability : Capability) : (walk.onward capability).IsSound := by
  obtain ⟨isPlace, fresh⟩ := sound.next_isPlace goes
  refine ⟨toNat_pointer_mod_four _, ?_, List.nodup_cons.2 ⟨fresh, sound.once⟩⟩
  exact List.forall_mem_cons.2 ⟨isPlace, sound.placed⟩

/-- What is read for some entries behind those of a walk. -/
structure Reads (walk : Walk) (address : Address) (made : List ConfigRegister)
    (entries : List Capability) : Prop where
  registers : made = entries.map fun entry => ⟨address, entry.offset⟩
  placed : ∀ entry ∈ entries, IsPlace entry.offset
  fresh : ∀ entry ∈ entries, entry.offset ∉ walk.visited.members
  distinct : (entries.map (·.offset)).Nodup

theorem Reads.nil (walk : Walk) (address : Address) : walk.Reads address [] [] where
  registers := rfl
  placed := fun _ none => nomatch none
  fresh := fun _ none => nomatch none
  distinct := List.nodup_nil

/-- The entry at the place of a walk, in front of those behind it. -/
theorem Reads.cons {address : Address} {made : List ConfigRegister} {entries : List Capability}
    {capability : Capability} (later : (walk.onward capability).Reads address made entries)
    (sound : walk.IsSound) (goes : ¬walk.isOver = true)
    (sameOffset : capability.offset = walk.next) :
    walk.Reads address (⟨address, walk.next⟩ :: made) (capability :: entries) := by
  obtain ⟨isPlace, fresh⟩ := sound.next_isPlace goes
  rw [← sameOffset] at isPlace fresh ⊢
  have apart : ∀ entry ∈ entries,
      entry.offset ≠ capability.offset ∧ entry.offset ∉ walk.visited.members := by
    intro entry isLater
    rw [sameOffset]
    exact not_or.1 fun known => later.fresh entry isLater (List.mem_cons.2 known)
  refine ⟨congrArg _ later.registers, List.forall_mem_cons.2 ⟨isPlace, later.placed⟩,
    List.forall_mem_cons.2 ⟨fresh, fun entry isLater => (apart entry isLater).2⟩, ?_⟩
  refine List.nodup_cons.2 ⟨fun again => ?_, later.distinct⟩
  obtain ⟨entry, isLater, same⟩ := List.mem_map.1 again
  exact (apart entry isLater).1 same

/-- Reading an entry is reading the register at the current place. -/
theorem entry_concludes (address : Address) (walk : Walk) :
    (walk.entry address).Concludes (fun _ => True) fun made capability =>
      made = [⟨address, walk.next⟩] ∧ capability.offset = walk.next :=
  ⟨trivial, fun _ => ⟨rfl, rfl⟩⟩

/-- Whatever is answered, a sound walk reads one register for each entry that it takes. -/
theorem take_concludes (address : Address) (sound : walk.IsSound) (limit : Nat) :
    (walk.take address limit).Concludes (fun _ => True) fun made entries =>
      walk.Reads address made entries ∧ entries.length ≤ limit := by
  induction limit generalizing walk with
  | zero => exact ⟨.nil walk address, Nat.le_refl 0⟩
  | succ limit ih =>
    rw [take]
    split
    case isTrue _ => exact ⟨.nil walk address, Nat.zero_le _⟩
    case isFalse goes =>
      refine Concludes.bind (entry_concludes address walk) fun _ capability own => ?_
      obtain ⟨rfl, sameOffset⟩ := own
      have later := ih (sound.onward goes capability)
      refine Concludes.bind later fun made entries reads => ?_
      obtain ⟨reads, few⟩ := reads
      refine ⟨?_, Nat.succ_le_succ few⟩
      rw [List.append_nil]
      exact reads.cons sound goes sameOffset

/-- A limit for every place that is left does not end a walk. -/
theorem take_eq_collect (address : Address) {limit : Nat} (enough : walk.visited.free ≤ limit) :
    walk.take address limit = walk.collect address := by
  induction limit generalizing walk with
  | zero =>
    have known := ByteSet.contains_of_free_eq_zero (Nat.le_zero.1 enough) walk.next
    rw [take, collect, dif_pos (by simp [isOver, known])]
  | succ limit ih =>
    rw [take, collect]
    split
    case isTrue => rfl
    case isFalse goes =>
      refine bind_congr fun capability => ?_
      have fewer := free_onward_lt capability goes
      rw [ih (by omega)]

end Walk

/-! ## The list -/

/-- These requests were made for these capabilities: one read for the pointer to the first of
them and one for each of them, at different places. -/
structure ReadsEachPlaceOnce (address : Address) (made : List ConfigRequest)
    (entries : List Capability) : Prop where
  few : entries.length ≤ placeCount
  distinct : (entries.map (·.offset)).Nodup
  placed : ∀ entry ∈ entries, IsPlace entry.offset
  requests : made = .read ⟨address, capabilityPointerOffset⟩ ::
    entries.map fun entry => .read ⟨address, entry.offset⟩

theorem Walk.Reads.readsEachPlaceOnce {walk : Walk} {address : Address}
    {made : List ConfigRegister} {entries : List Capability}
    (reads : walk.Reads address made entries) :
    ReadsEachPlaceOnce address
      ((⟨address, capabilityPointerOffset⟩ :: made).map ConfigRequest.read) entries where
  few := by
    have bound := length_le_placeCount reads.distinct (List.forall_mem_map.2 reads.placed)
    rwa [List.length_map] at bound
  distinct := reads.distinct
  placed := reads.placed
  requests := by
    rw [reads.registers, List.map_cons, List.map_map]
    rfl

theorem listUpTo_concludes (address : Address) (limit : Nat) :
    (readOnly (listUpTo address limit)).Concludes
      ConfigRequest.IsRead
      fun made entries => ReadsEachPlaceOnce address made entries ∧ entries.length ≤ limit := by
  have concludes : (listUpTo address limit).Concludes (fun _ => True) fun made entries =>
      ReadsEachPlaceOnce address (made.map ConfigRequest.read) entries ∧
        entries.length ≤ limit := by
    refine ⟨trivial, fun word => ?_⟩
    refine (Walk.take_concludes address (Walk.isSound_start word) limit).mono ?_
    rintro made entries ⟨reads, few⟩
    exact ⟨reads.readsEachPlaceOnce, few⟩
  refine (readOnly_concludes concludes).mono ?_
  rintro _ entries ⟨reads, rfl, isGood⟩
  exact isGood

/-- The whole list is what a limit for every byte value leaves. -/
theorem listUpTo_eq_list (address : Address) : listUpTo address 256 = list address := by
  rw [listUpTo, list, start, bind_assoc, bind_assoc]
  refine bind_congr fun word => ?_
  exact Walk.take_eq_collect address (ByteSet.free_le _)

/-- **Whatever the hardware answers, a walk along the capability list ends, and it reads each place
at most once.**  It finds at most 48 capabilities, at different multiples of four from 0x40 to
0xfc; for that it reads the pointer to the first one and each of them once, and it writes
nothing.  The same holds as far as a walk is taken that ends after some entries. -/
theorem list_reads_each_place_once (address : Address) :
    (readOnly (list address)).Concludes ConfigRequest.IsRead
        (ReadsEachPlaceOnce address) ∧
      ∀ limit, (readOnly (listUpTo address limit)).Concludes
        ConfigRequest.IsRead
        fun made entries => ReadsEachPlaceOnce address made entries ∧ entries.length ≤ limit := by
  refine ⟨?_, listUpTo_concludes address⟩
  rw [← listUpTo_eq_list]
  exact (listUpTo_concludes address 256).mono fun _ _ reads => reads.1

end Capability

end KernelStart.Pci
