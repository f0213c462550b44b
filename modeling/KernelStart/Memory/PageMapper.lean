import KernelStart.Memory.Translation
import KernelStart.Proofs.FrameHandout

/-!
# Ways to map a page

Mapping ranges of memory rests on a function that maps one page, and what that function does
inside the tables is its own affair.  `MapsPages` is what its callers are told: a page without a
translation is mapped exactly as asked, or the frames are exhausted; a page with one is refused
and takes no frame; and no other translation changes.  `BuildsTables` adds where the tables
come from: one frame of the supply for each that the page misses, in the order of the supply.

Both are relative to a kind of address space, `Sound`, that the function keeps.  Page tables that
share frames with each other, or with the supply, satisfy no such description.
-/

set_option autoImplicit false

namespace KernelStart.Memory

/-! ## Successive calls of the supply -/

namespace FrameSupply

variable (supply : FrameSupply)

/-- No call of the supply panics. -/
def Answers : Prop := ∀ position, ∃ frame, supply.call position = .ok frame

theorem afterCalls_add (first later : Nat) :
    supply.afterCalls (first + later) = (supply.afterCalls first).afterCalls later := by
  induction later with
  | zero => rfl
  | succ later ih => rw [← Nat.add_assoc, afterCalls, afterCalls, ih]

/-- The calls that follow are calls of the whole. -/
theorem call_afterCalls (first position : Nat) :
    (supply.afterCalls first).call position = supply.call (first + position) := by
  rw [call, call, afterCalls_add]

variable {supply}

theorem Answers.afterCalls (answers : supply.Answers) (taken : Nat) :
    (supply.afterCalls taken).Answers := by
  intro position
  rw [call_afterCalls]
  exact answers (taken + position)

section

variable (inMemory : ∀ region ∈ supply.map, region.IsInMemory)
include inMemory

/-- On a map in physical memory the supply only counts. -/
theorem afterCalls_of_inMemory (count : Nat) :
    supply.afterCalls count = ⟨supply.map, supply.asked + count⟩ := by
  induction count with
  | zero => rfl
  | succ count ih => rw [afterCalls, ih, allocate_eq inMemory, Nat.add_assoc]

/-- On a map in physical memory the calls go through the frames that are left. -/
theorem call_of_inMemory (position : Nat) :
    supply.call position = .ok (supply.map.frames.drop supply.asked)[position]? := by
  rw [call, afterCalls_of_inMemory inMemory, allocate_eq inMemory, List.getElem?_drop]

theorem answers_of_inMemory : supply.Answers :=
  fun position => ⟨_, call_of_inMemory inMemory position⟩

end

end FrameSupply

namespace AddressSpace

variable {before after : AddressSpace} {taken : Nat}
  (inMemory : ∀ region ∈ before.supply.map, region.IsInMemory)
  (supply : after.supply = before.supply.afterCalls taken)
include inMemory supply

/-- Frames are taken from the front of those that are left. -/
theorem freeFrames_afterCalls : after.freeFrames = before.freeFrames.drop taken := by
  rw [freeFrames, supply, FrameSupply.afterCalls_of_inMemory inMemory, freeFrames, List.drop_drop]

theorem map_afterCalls : after.supply.map = before.supply.map := by
  rw [supply, FrameSupply.afterCalls_of_inMemory inMemory]

end AddressSpace

/-- Taking a frame is calling the supply. -/
theorem AddressSpace.allocate_eq {space : AddressSpace} {frame : Option UInt64}
    (called : space.supply.call 0 = .ok frame) :
    space.allocate = (.ok frame, { space with supply := space.supply.afterCalls 1 }) := by
  have supplied : space.supply.allocate = (.ok frame, space.supply.afterCalls 1) :=
    Prod.ext called rfl
  rw [allocate, supplied]
  rfl

/-! ## Pages and frames -/

/-- The address of a page of virtual memory. -/
structure IsPage (address : UInt64) : Prop where
  aligned : pageSize ∣ address.toNat
  canonical : isCanonical address = true

/-- The address of a frame of physical memory. -/
structure IsFrame (address : UInt64) : Prop where
  aligned : pageSize ∣ address.toNat
  physical : address.toNat < physicalLimit

theorem isFrame_frameAddress {number : Nat} (physical : number * pageSize < physicalLimit) :
    IsFrame (frameAddress number) where
  aligned := toNat_frameAddress physical ▸ Nat.dvd_mul_left pageSize number
  physical := (toNat_frameAddress physical).symm ▸ physical

/-- Two frames of one page are the same. -/
theorem IsFrame.eq_of_pageOf_eq {frame other : UInt64} (isFrame : IsFrame frame)
    (otherIsFrame : IsFrame other) (samePage : pageOf frame.toNat = pageOf other.toNat) :
    frame = other := by
  refine UInt64.toNat_inj.1 ?_
  rw [← Nat.div_mul_cancel isFrame.aligned, ← Nat.div_mul_cancel otherIsFrame.aligned]
  exact congrArg (· * pageSize) samePage

/-- The frames of a map in physical memory are frames. -/
theorem MemoryMap.isFrame_of_mem {map : MemoryMap} {frame : UInt64}
    (inMemory : ∀ region ∈ map, region.IsInMemory) (listed : frame ∈ map.frames) :
    IsFrame frame := by
  obtain ⟨region, isUsable, isFrame⟩ := List.mem_flatMap.1 listed
  obtain ⟨number, held, rfl⟩ := Region.mem_frames_iff.1 isFrame
  exact isFrame_frameAddress
    ((inMemory region (MemoryMap.mem_usable.1 isUsable).1).number_mul_lt held)

theorem AddressSpace.isFrame_of_free {space : AddressSpace} {frame : UInt64}
    (inMemory : ∀ region ∈ space.supply.map, region.IsInMemory)
    (free : frame ∈ space.freeFrames) : IsFrame frame :=
  MemoryMap.isFrame_of_mem inMemory (List.mem_of_mem_drop free)

/-! ## Mapping one page -/

/-- A way to map a page to a frame with the given flags. -/
abbrev PageMapper :=
  (page frame flags : UInt64) → AddressSpace → Except Stop (Except MapError Unit) × AddressSpace

namespace AddressSpace

/-- Answers the requests of the mapper, with pages mapped in the given way. -/
def environmentWith (mapTo : PageMapper) : Environment Mapper AddressSpace
  | .mapPage page frame flags, space => mapTo page frame flags space
  | .allocateFrame, space => space.allocate
  | .flush page, space => (.ok (), { space with flushed := page :: space.flushed })
  | .startHeap first size, space => (.ok (), { space with heap := some (first, size) })

/-- Maps a page by running the page table program on the tables. -/
def mapInTables : PageMapper := fun page frame flags space =>
  (Memory.mapPage space.root page frame flags).run tables space

/-- With the page table program the requests are answered as they are in memory. -/
theorem environmentWith_mapInTables : environmentWith mapInTables = environment := by
  funext request space
  cases request <;> rfl

end AddressSpace

/-- The frame of a page is entered, and no other page is touched. -/
def EntersPage (before after : AddressSpace) (page frame flags : UInt64) : Prop :=
  ∀ address, after.translation address =
    if pageOf address.toNat = pageOf page.toNat then some ⟨frame, flags, 1⟩
    else before.translation address

/-- The outcomes of mapping a page, each with what it says of the page and of all others. -/
inductive MapOutcome (before after : AddressSpace) (page frame flags : UInt64) :
    Except MapError Unit → Prop where
  | entered (untranslated : before.translation page = none)
      (enters : EntersPage before after page frame flags) :
      MapOutcome before after page frame flags (.ok ())
  | refused {error : MapError} (translated : before.translation page ≠ none)
      (isRefusal : error ≠ .frameAllocationFailed)
      (unchanged : after.translation = before.translation) (kept : after.supply = before.supply) :
      MapOutcome before after page frame flags (.error error)
  | exhausted (untranslated : before.translation page = none)
      (unchanged : after.translation = before.translation) :
      MapOutcome before after page frame flags (.error .frameAllocationFailed)

/-- What changes of an address space leave alone, while they may take frames. -/
structure Keeps (Sound : AddressSpace → Prop) (before after : AddressSpace) : Prop where
  sound : Sound after
  present : after.EntriesPresent
  heap : after.heap = before.heap
  supply : ∃ taken, after.supply = before.supply.afterCalls taken

namespace Keeps

variable {Sound : AddressSpace → Prop} {before middle after : AddressSpace}

theorem refl (sound : Sound before) (present : before.EntriesPresent) : Keeps Sound before before :=
  ⟨sound, present, rfl, 0, rfl⟩

theorem trans (first : Keeps Sound before middle) (later : Keeps Sound middle after) :
    Keeps Sound before after := by
  refine ⟨later.sound, later.present, later.heap.trans first.heap, ?_⟩
  obtain ⟨taken, supply⟩ := first.supply
  obtain ⟨more, laterSupply⟩ := later.supply
  exact ⟨taken + more, by rw [laterSupply, supply, FrameSupply.afterCalls_add]⟩

theorem answers (keeps : Keeps Sound before after) (answers : before.supply.Answers) :
    after.supply.Answers := by
  obtain ⟨taken, supply⟩ := keeps.supply
  exact supply ▸ answers.afterCalls taken

end Keeps

/-- Pages are mapped with the given flags the way the callers are told. -/
structure MapsPages (mapTo : PageMapper) (flags : UInt64) (Sound : AddressSpace → Prop) : Prop where
  outcome {space : AddressSpace} (sound : Sound space) (present : space.EntriesPresent)
      {page frame : UInt64} (isPage : IsPage page) (isFrame : IsFrame frame)
      {result : Except MapError Unit} {next : AddressSpace}
      (mapped : mapTo page frame flags space = (.ok result, next)) :
    MapOutcome space next page frame flags result ∧ Keeps Sound space next
  /-- A panic can only be one of the supply, which is not asked for a page with a translation. -/
  returns {space : AddressSpace} (sound : Sound space) (present : space.EntriesPresent)
      {page frame : UInt64} (isPage : IsPage page) (isFrame : IsFrame frame)
      (able : space.supply.Answers ∨ space.translation page ≠ none) :
    ∃ result next, mapTo page frame flags space = (.ok result, next)
  /-- What the processor remembers is of no concern. -/
  flush {space : AddressSpace} (sound : Sound space) (page : UInt64) :
    Sound { space with flushed := page :: space.flushed }

/-- The tables that the page misses are made, each in a frame of its own from the supply. -/
structure TablesMade (before after : AddressSpace) (page : UInt64) : Prop where
  supply : after.supply =
    before.supply.afterCalls (before.missingTables {page}).card
  drawn : ∀ position < (before.missingTables {page}).card,
    ∃ frame, before.supply.call position = .ok (some frame)
  kept : ∀ path table, IsTablePath path → before.tableAt path = some table →
    after.tableAt path = some table
  made : ∀ path ∈ tablePaths page, after.tableAt path ≠ none
  fresh : ∀ path table, IsTablePath path → before.tableAt path = none →
    after.tableAt path = some table → path ∈ tablePaths page ∧
      ∃ position < (before.missingTables {page}).card,
        before.supply.call position = .ok (some table)

/-- What is entered behind the tables does not change where they are. -/
theorem TablesMade.congr {before middle after : AddressSpace} {page : UInt64}
    (made : TablesMade before middle page)
    (supply : after.supply = middle.supply)
    (tables : ∀ path, IsTablePath path → after.tableAt path = middle.tableAt path) :
    TablesMade before after page where
  supply := supply.trans made.supply
  drawn := made.drawn
  kept := fun path table isPath there =>
    (tables path isPath).trans (made.kept path table isPath there)
  made := by
    intro path needed
    rw [tables path (isTablePath_of_mem_tablePaths needed)]
    exact made.made path needed
  fresh := by
    intro path table isPath missing there
    rw [tables path isPath] at there
    exact made.fresh path table isPath missing there

/-- Pages are mapped the way the callers are told, and tables are taken from the supply only. -/
structure BuildsTables (mapTo : PageMapper) (flags : UInt64) (Sound : AddressSpace → Prop) : Prop
    extends MapsPages mapTo flags Sound where
  builds {space : AddressSpace} (sound : Sound space) (present : space.EntriesPresent)
      {page frame : UInt64} (isPage : IsPage page) (isFrame : IsFrame frame) {next : AddressSpace}
      (mapped : mapTo page frame flags space = (.ok (.ok ()), next)) : TablesMade space next page
  /-- The frames are exhausted only if the supply had none for one of the missing tables. -/
  exhausts {space : AddressSpace} (sound : Sound space) (present : space.EntriesPresent)
      {page frame : UInt64} (isPage : IsPage page) (isFrame : IsFrame frame) {next : AddressSpace}
      (mapped : mapTo page frame flags space = (.ok (.error .frameAllocationFailed), next)) :
    ∃ position < (space.missingTables {page}).card,
      space.supply.call position = .ok none
  /-- A frame can be taken at any time. -/
  allocate {space : AddressSpace} (sound : Sound space) : Sound space.allocate.2

end KernelStart.Memory
