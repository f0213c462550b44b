import Mathlib.Data.List.Nodup
import KernelStart.Memory.Frame

/-!
# Every usable frame is handed out once

The supply looks for each frame from the start of the map, past regions of other types, empty
ones and those that it has used up, and it counts a request even when nothing is left.  None
of this can be seen from outside: on a map whose regions are apart and lie in physical memory,
the calls return the usable frames one after the other (`FrameSupply.call_eq`), because looking
through the regions finds in each of them the part of the list that it contributes
(`nthFrame_eq`).

What a caller relies on follows from the list (`FrameSupply.hands_out_each_frame_once`).  Within
a region the frames differ because their numbers do, and two regions have none in common
(`MemoryMap.nodup_frames`); and the addresses in the list are exactly those of the pages that lie
in usable regions (`MemoryMap.mem_frames`).
-/

set_option autoImplicit false

namespace KernelStart.Memory

/-! ## Regions as sets of frames -/

namespace Region

/-- The frame with this number is one of the region's. -/
def Holds (region : Region) (number : Nat) : Prop :=
  region.startFrame.toNat ≤ number ∧ number < region.endFrame.toNat

/-- No frame is in both regions. -/
def IsApartFrom (first second : Region) : Prop :=
  ∀ number, ¬(first.Holds number ∧ second.Holds number)

/-- Neither end of the region lies behind the end of physical memory. -/
def IsInMemory (region : Region) : Prop :=
  region.startFrame.toNat * pageSize ≤ physicalLimit ∧
    region.endFrame.toNat * pageSize ≤ physicalLimit

/-- A whole page frame of the region starts at the address. -/
def HasFrameAt (region : Region) (address : UInt64) : Prop :=
  pageSize ∣ address.toNat ∧ region.startFrame.toNat * pageSize ≤ address.toNat ∧
    address.toNat + pageSize ≤ region.endFrame.toNat * pageSize

instance (region : Region) (number : Nat) : Decidable (region.Holds number) :=
  inferInstanceAs (Decidable (_ ∧ _))

instance (region : Region) : Decidable region.IsInMemory :=
  inferInstanceAs (Decidable (_ ∧ _))

instance (region : Region) (address : UInt64) : Decidable (region.HasFrameAt address) :=
  inferInstanceAs (Decidable (_ ∧ _))

/-- Regions are apart if what they have in common would end before it starts. -/
theorem isApartFrom_iff {first second : Region} :
    first.IsApartFrom second ↔
      min first.endFrame.toNat second.endFrame.toNat ≤
        max first.startFrame.toNat second.startFrame.toNat := by
  constructor
  · intro apart
    refine Nat.le_of_not_lt fun shared => ?_
    exact apart (max first.startFrame.toNat second.startFrame.toNat)
      ⟨⟨by omega, by omega⟩, ⟨by omega, by omega⟩⟩
  · rintro separate number ⟨⟨_, _⟩, ⟨_, _⟩⟩
    omega

instance (first second : Region) : Decidable (first.IsApartFrom second) :=
  decidable_of_iff _ isApartFrom_iff.symm

variable {region : Region}

@[simp] theorem length_frames (region : Region) : region.frames.length = region.frameCount := by
  rw [frames, List.length_map, List.length_range]

theorem mem_frames_iff {address : UInt64} :
    address ∈ region.frames ↔ ∃ number, region.Holds number ∧ frameAddress number = address := by
  rw [frames, List.mem_map]
  constructor
  · rintro ⟨position, inside, rfl⟩
    rw [List.mem_range, frameCount] at inside
    exact ⟨_, ⟨by omega, by omega⟩, rfl⟩
  · rintro ⟨number, ⟨behind, before⟩, rfl⟩
    refine ⟨number - region.startFrame.toNat, ?_, ?_⟩
    · rw [List.mem_range, frameCount]
      omega
    · rw [Nat.add_sub_cancel' behind]

namespace IsInMemory

theorem isAddressable (inMemory : region.IsInMemory) : region.isAddressable = true := by
  have fits : physicalLimit < UInt64.size := by decide
  obtain ⟨first, last⟩ := inMemory
  exact decide_eq_true ⟨by omega, by omega⟩

/-- A frame of the region is a frame of physical memory. -/
theorem number_mul_lt (inMemory : region.IsInMemory) {number : Nat} (held : region.Holds number) :
    number * pageSize < physicalLimit :=
  Nat.lt_of_lt_of_le (Nat.mul_lt_mul_of_pos_right held.2 (by decide)) inMemory.2

/-- Looking past any number of its frames meets no address that is too wide. -/
theorem isPhysical (inMemory : region.IsInMemory) {count : Nat}
    (within : count ≤ region.frameCount) :
    region.isPhysical count = true := by
  refine decide_eq_true ?_
  rw [frameCount] at within
  rcases Nat.eq_zero_or_pos count with none | some
  · exact .inl none
  · exact .inr (inMemory.number_mul_lt ⟨by omega, by omega⟩)

/-- The addresses of frames of physical memory tell them apart. -/
theorem eq_of_frameAddress_eq {other : Region} (inMemory : region.IsInMemory)
    (otherInMemory : other.IsInMemory) {number another : Nat} (held : region.Holds number)
    (otherHeld : other.Holds another) (same : frameAddress number = frameAddress another) :
    number = another := by
  have equal := congrArg UInt64.toNat same
  rw [toNat_frameAddress (inMemory.number_mul_lt held),
    toNat_frameAddress (otherInMemory.number_mul_lt otherHeld)] at equal
  exact Nat.eq_of_mul_eq_mul_right (by decide) equal

theorem nodup_frames (inMemory : region.IsInMemory) : region.frames.Nodup := by
  refine List.Nodup.map_on (fun first isFirst second isSecond same => ?_) List.nodup_range
  rw [List.mem_range, frameCount] at isFirst isSecond
  have equal := inMemory.eq_of_frameAddress_eq inMemory
    ⟨by omega, by omega⟩ ⟨by omega, by omega⟩ same
  omega

theorem disjoint_frames {other : Region} (inMemory : region.IsInMemory)
    (otherInMemory : other.IsInMemory) (apart : region.IsApartFrom other) :
    region.frames.Disjoint other.frames := by
  intro address isFirst isSecond
  obtain ⟨number, held, rfl⟩ := mem_frames_iff.1 isFirst
  obtain ⟨another, otherHeld, same⟩ := mem_frames_iff.1 isSecond
  obtain rfl := otherInMemory.eq_of_frameAddress_eq inMemory otherHeld held same
  exact apart another ⟨held, otherHeld⟩

/-- The addresses of the region's frames are those where a whole page of it starts. -/
theorem mem_frames (inMemory : region.IsInMemory) (address : UInt64) :
    address ∈ region.frames ↔ region.HasFrameAt address := by
  rw [mem_frames_iff]
  constructor
  · rintro ⟨number, held, rfl⟩
    have value := toNat_frameAddress (inMemory.number_mul_lt held)
    refine ⟨value ▸ Nat.dvd_mul_left .., ?_, ?_⟩
    · rw [value]
      exact Nat.mul_le_mul_right _ held.1
    · rw [value, ← Nat.succ_mul]
      exact Nat.mul_le_mul_right _ held.2
  · rintro ⟨⟨number, value⟩, behind, before⟩
    have positive : 0 < pageSize := by decide
    rw [Nat.mul_comm] at value
    rw [value] at behind before
    rw [← Nat.succ_mul] at before
    have held : region.Holds number :=
      ⟨Nat.le_of_mul_le_mul_right behind positive, Nat.le_of_mul_le_mul_right before positive⟩
    refine ⟨number, held, UInt64.toNat_inj.1 ?_⟩
    rw [toNat_frameAddress (inMemory.number_mul_lt held), value]

end IsInMemory

end Region

/-! ## The list of all usable frames -/

namespace MemoryMap

variable {map : MemoryMap}

theorem mem_usable {region : Region} :
    region ∈ map.usable ↔ region ∈ map ∧ region.type = .usable := by
  rw [usable, List.mem_filter, beq_iff_eq]

/-- No frame is in the list twice. -/
theorem nodup_frames (apart : map.Pairwise Region.IsApartFrom)
    (inMemory : ∀ region ∈ map, region.IsInMemory) : map.frames.Nodup := by
  have usableInMemory : ∀ region ∈ map.usable, region.IsInMemory :=
    fun region isUsable => inMemory region (mem_usable.1 isUsable).1
  refine List.nodup_flatMap.2
    ⟨fun region isUsable => (usableInMemory region isUsable).nodup_frames, ?_⟩
  refine (apart.filter _).imp_of_mem fun {first second} isFirst isSecond apart => ?_
  exact (usableInMemory first isFirst).disjoint_frames (usableInMemory second isSecond) apart

/-- The list holds the addresses where a whole page of a usable region starts. -/
theorem mem_frames (inMemory : ∀ region ∈ map, region.IsInMemory) (address : UInt64) :
    address ∈ map.frames ↔
      ∃ region ∈ map, region.type = .usable ∧ region.HasFrameAt address := by
  rw [frames, List.mem_flatMap]
  constructor
  · rintro ⟨region, isUsable, isFrame⟩
    obtain ⟨listed, type_eq⟩ := mem_usable.1 isUsable
    exact ⟨region, listed, type_eq, ((inMemory region listed).mem_frames address).1 isFrame⟩
  · rintro ⟨region, listed, type_eq, hasFrame⟩
    exact ⟨region, mem_usable.2 ⟨listed, type_eq⟩,
      ((inMemory region listed).mem_frames address).2 hasFrame⟩

end MemoryMap

/-- Looking through the regions finds the frame at a position of their common list. -/
theorem nthFrame_eq {regions : List Region} (inMemory : ∀ region ∈ regions, region.IsInMemory)
    (position : Nat) :
    nthFrame position regions = .ok (regions.flatMap Region.frames)[position]? := by
  induction regions generalizing position with
  | nil => rfl
  | cons region rest ih =>
    obtain ⟨regionInMemory, restInMemory⟩ := List.forall_mem_cons.1 inMemory
    have physical := regionInMemory.isPhysical (Nat.min_le_right (position + 1) region.frameCount)
    rw [nthFrame, if_neg (by simp [regionInMemory.isAddressable]), if_neg (by simp [physical]),
      List.flatMap_cons]
    by_cases inside : position < region.frameCount
    · have here : position < region.frames.length := by rwa [Region.length_frames]
      rw [if_pos inside, List.getElem?_append_left here, Region.frames, List.getElem?_map,
        List.getElem?_range inside]
      rfl
    · have beyond : region.frames.length ≤ position := by
        rw [Region.length_frames]
        omega
      rw [if_neg inside, ih restInMemory, List.getElem?_append_right beyond, Region.length_frames]

/-! ## What the calls return -/

namespace FrameSupply

/-- The supply after a number of calls. -/
def afterCalls (supply : FrameSupply) : Nat → FrameSupply
  | 0 => supply
  | count + 1 => (supply.afterCalls count).allocate.2

/-- What the call at a position returns; the first one is at zero. -/
def call (supply : FrameSupply) (position : Nat) : Except Panic (Option UInt64) :=
  (supply.afterCalls position).allocate.1

variable {map : MemoryMap}

/-- A request returns the frame at the position that the count says, and counts. -/
theorem allocate_eq (inMemory : ∀ region ∈ map, region.IsInMemory) (asked : Nat) :
    allocate ⟨map, asked⟩ = (.ok map.frames[asked]?, ⟨map, asked + 1⟩) := by
  have found := nthFrame_eq
    (fun region isUsable => inMemory region (MemoryMap.mem_usable.1 isUsable).1) asked
  rw [allocate, found]
  rfl

theorem afterCalls_eq (inMemory : ∀ region ∈ map, region.IsInMemory) (count : Nat) :
    (ofMap map).afterCalls count = ⟨map, count⟩ := by
  induction count with
  | zero => rfl
  | succ count ih => rw [afterCalls, ih, allocate_eq inMemory]

/-- The calls return the usable frames one after the other, and then nothing. -/
theorem call_eq (inMemory : ∀ region ∈ map, region.IsInMemory) (position : Nat) :
    (ofMap map).call position = .ok map.frames[position]? := by
  rw [call, afterCalls_eq inMemory, allocate_eq inMemory]

theorem call_eq_some_iff (inMemory : ∀ region ∈ map, region.IsInMemory) {position : Nat}
    {address : UInt64} :
    (ofMap map).call position = .ok (some address) ↔ map.frames[position]? = some address := by
  rw [call_eq inMemory, Except.ok.injEq]

theorem call_eq_none_iff (inMemory : ∀ region ∈ map, region.IsInMemory) {position : Nat} :
    (ofMap map).call position = .ok none ↔ map.frames.length ≤ position := by
  rw [call_eq inMemory, Except.ok.injEq, List.getElem?_eq_none_iff]

/-- **Every usable frame is handed out once.**  On a map whose regions are apart and lie in
physical memory, the calls return the usable frames in the order of the map, and nothing behind
their end.  So no two calls return the same frame, what they return are exactly the pages that lie
in usable regions, and after a call without a frame there is none in any later one. -/
theorem hands_out_each_frame_once (apart : map.Pairwise Region.IsApartFrom)
    (inMemory : ∀ region ∈ map, region.IsInMemory) :
    let call := (ofMap map).call
    (∀ position, call position = .ok map.frames[position]?) ∧
      (∀ first second address, call first = .ok (some address) →
        call second = .ok (some address) → first = second) ∧
      (∀ address, (∃ position, call position = .ok (some address)) ↔
        ∃ region ∈ map, region.type = .usable ∧ region.HasFrameAt address) ∧
      ∀ first later, first ≤ later → call first = .ok none → call later = .ok none := by
  refine ⟨call_eq inMemory, fun first second address isFirst isSecond => ?_, fun address => ?_,
    fun first later ordered nothing => ?_⟩
  · rw [call_eq_some_iff inMemory] at isFirst isSecond
    have inside : first < map.frames.length := (List.getElem?_eq_some_iff.1 isFirst).1
    exact (List.getElem?_inj inside (MemoryMap.nodup_frames apart inMemory)).1
      (isFirst.trans isSecond.symm)
  · rw [← MemoryMap.mem_frames inMemory, List.mem_iff_getElem?]
    exact exists_congr fun position => call_eq_some_iff inMemory
  · rw [call_eq_none_iff inMemory] at nothing ⊢
    exact Nat.le_trans nothing ordered

/-- A map out of order, with an empty region inside a usable one, and with one that ends where
physical memory does. -/
def scatteredMap : MemoryMap :=
  [⟨7, 9, .usable⟩, ⟨8, 8, .usable⟩, ⟨2, 5, .kernel⟩, ⟨0xffffffffff, 0x10000000000, .usable⟩,
    ⟨1, 2, .usable⟩]

/-- Its frames are handed out in its order, not in that of their addresses, and then no more. -/
theorem hands_out_each_frame_once_scatteredMap :
    let call := (ofMap scatteredMap).call
    scatteredMap.Pairwise Region.IsApartFrom ∧ (∀ region ∈ scatteredMap, region.IsInMemory) ∧
      call 1 = .ok (some 0x8000) ∧ call 2 = .ok (some 0xffffffffff000) ∧
      call 3 = .ok (some 0x1000) ∧ (∀ position, call position = .ok (some 0x1000) → 3 = position) ∧
      (¬∃ position, call position = .ok (some 0x2000)) ∧
      ∀ later, 4 ≤ later → call later = .ok none := by
  have apart : scatteredMap.Pairwise Region.IsApartFrom := by decide
  have inMemory : ∀ region ∈ scatteredMap, region.IsInMemory := by decide
  obtain ⟨calls, once, handedOut, ended⟩ := hands_out_each_frame_once apart inMemory
  have last : (ofMap scatteredMap).call 3 = .ok (some 0x1000) := calls 3
  refine ⟨apart, inMemory, calls 1, calls 2, last,
    fun position again => once 3 position _ last again, ?_,
    fun later behind => ended 4 later behind (calls 4)⟩
  rw [handedOut]
  decide

end FrameSupply

end KernelStart.Memory
