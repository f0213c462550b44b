import KernelStart.Stop

/-!
# Page frames and the memory map

The boot loader describes physical memory as a list of regions, each a range of page
frames of 4096 bytes with a type.  The list has room for 64 regions and no more.  Only
usable regions may be handed out.  The supply hands the usable frames out one by one, in
the order of the map, by counting how many it has given away; at the end it answers
`none` for good.

`MemoryMap.frames` is the list of all usable frames, and `nthFrame` finds one of them
without building the list.  A frame number whose address does not fit a word, or whose
address has one of the bits 52 to 63 set, cannot be handed out: going through it is a
panic.
-/

set_option autoImplicit false

namespace KernelStart.Memory

/-- What a region of physical memory holds. -/
inductive RegionType where
  | usable
  | inUse
  | reserved
  | acpiReclaimable
  | acpiNonVolatile
  | badMemory
  | kernel
  | kernelStack
  | pageTable
  | bootLoader
  | frameZero
  | bootInfo
  | package
  deriving DecidableEq, Repr

/-- A range of page frames; the end is not part of it. -/
structure Region where
  startFrame : UInt64
  endFrame : UInt64
  type : RegionType
  deriving DecidableEq, Repr

/-- Bytes of a page frame. -/
def pageSize : Nat := 4096

/-- Physical addresses have 52 bits. -/
def physicalLimit : Nat := 1 <<< 52

/-- The address of a frame. -/
def frameAddress (number : Nat) : UInt64 := UInt64.ofNat (number * pageSize)

/-- The address of a frame of physical memory is not cut. -/
theorem toNat_frameAddress {number : Nat} (physical : number * pageSize < physicalLimit) :
    (frameAddress number).toNat = number * pageSize := by
  have fits : physicalLimit ≤ UInt64.size := by decide
  rw [frameAddress, UInt64.toNat_ofNat_of_lt' (by omega)]

namespace Region

/-- The number of frames. -/
def frameCount (region : Region) : Nat := region.endFrame.toNat - region.startFrame.toNat

/-- The addresses of both ends fit a word. -/
def isAddressable (region : Region) : Bool :=
  decide (region.startFrame.toNat * pageSize < UInt64.size ∧
    region.endFrame.toNat * pageSize < UInt64.size)

/-- The addresses of the frames, ascending. -/
def frames (region : Region) : List UInt64 :=
  (List.range region.frameCount).map fun position =>
    frameAddress (region.startFrame.toNat + position)

/-- Whether the first `count` frames of the region have physical addresses. -/
def isPhysical (region : Region) (count : Nat) : Bool :=
  decide (count = 0 ∨ (region.startFrame.toNat + count - 1) * pageSize < physicalLimit)

/-- Whether the region has no frames between two equal ends. -/
def isEmpty (region : Region) : Bool := region.startFrame == region.endFrame

/-- The order of the memory map: by first frame, then by end. -/
def comesBefore (left right : Region) : Bool :=
  left.startFrame < right.startFrame ||
    (left.startFrame == right.startFrame && left.endFrame ≤ right.endFrame)

end Region

/-- The regions of a machine. -/
abbrev MemoryMap := List Region

namespace MemoryMap

/-- The number of regions that a memory map has room for. -/
def capacity : Nat := 64

/-- Puts a region behind the ones that it does not precede. -/
def place (map : MemoryMap) (region : Region) : MemoryMap :=
  map.takeWhile (Region.comesBefore · region) ++
    region :: map.dropWhile (Region.comesBefore · region)

/-- Adds a region.  A full map takes no further one, not even an empty one; otherwise an
empty region leaves the map as it is. -/
def add? (map : MemoryMap) (region : Region) : Option MemoryMap :=
  if capacity ≤ map.length then none
  else if region.isEmpty then some map
  else some (map.place region)

/-- The memory map as the boot loader hands it over, in order and without empty regions, if
there is room for all regions. -/
def ofRegions? (regions : List Region) : Option MemoryMap :=
  regions.foldlM add? []

theorem length_place (map : MemoryMap) (region : Region) :
    (map.place region).length = map.length + 1 := by
  have split := congrArg List.length
    (List.takeWhile_append_dropWhile (p := (Region.comesBefore · region)) (l := map))
  simp only [List.length_append] at split
  simp only [place, List.length_append, List.length_cons]
  omega

/-- Adding a region keeps the map within its room. -/
theorem length_le_of_add? {map next : MemoryMap} {region : Region}
    (added : map.add? region = some next) : next.length ≤ capacity := by
  unfold add? at added
  split at added
  · cases added
  · next roomy =>
    split at added
    · cases added
      omega
    · cases added
      rw [length_place]
      omega

/-- The usable regions, in order. -/
def usable (map : MemoryMap) : List Region := map.filter fun region => region.type == .usable

/-- All usable frames, in the order of the map. -/
def frames (map : MemoryMap) : List UInt64 := map.usable.flatMap Region.frames

end MemoryMap

/-- The usable frame at a position, going through the regions one by one. -/
def nthFrame (position : Nat) : List Region → Except Panic (Option UInt64)
  | [] => .ok none
  | region :: rest =>
    if !region.isAddressable then
      .error .arithmeticOverflow
    else if !region.isPhysical (min (position + 1) region.frameCount) then
      .error .physicalAddressTooWide
    else if position < region.frameCount then
      .ok (some (frameAddress (region.startFrame.toNat + position)))
    else
      nthFrame (position - region.frameCount) rest

/-- The number of frames, going through all of them. -/
def countFrames : List Region → Except Panic Nat
  | [] => .ok 0
  | region :: rest =>
    if !region.isAddressable then
      .error .arithmeticOverflow
    else if !region.isPhysical region.frameCount then
      .error .physicalAddressTooWide
    else
      (countFrames rest).map (region.frameCount + ·)

/-- Hands out usable frames in order. -/
structure FrameSupply where
  map : MemoryMap
  /-- How many frames were asked for so far.  The count lives in a machine word of 64 bits.  A
  request raises it by one, so no run that can take place comes to the end of the word, and the
  count is a plain number here. -/
  asked : Nat
  deriving DecidableEq, Repr

namespace FrameSupply

def ofMap (map : MemoryMap) : FrameSupply := ⟨map, 0⟩

/-- The next frame, if there is one; a request counts even when nothing is left. -/
def allocate (supply : FrameSupply) : Except Panic (Option UInt64) × FrameSupply :=
  match nthFrame supply.asked supply.map.usable with
  | .ok frame => (.ok frame, { supply with asked := supply.asked + 1 })
  | .error cause => (.error cause, supply)

end FrameSupply

end KernelStart.Memory
