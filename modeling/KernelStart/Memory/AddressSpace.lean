import Std.Data.TreeMap
import KernelStart.Memory.Mapping

/-!
# An address space in memory

The tables lie in physical memory, which is kept as a sparse map from places to
non-zero entries.  `AddressSpace.environment` answers the requests of the mapper by
running the page table programs on that memory; `resolve` walks the tables the way the
processor does, and `mappings` lists everything that is mapped, with neighbours joined.

A frame that was handed out twice can hold two tables at once, so an entry that maps a
page can be met as one that leads to a table.  Going there is a panic if there is no
memory.
-/

set_option autoImplicit false

namespace KernelStart.Memory

/-! ## Tables in physical memory -/

/-- The entries of all tables; places that are not listed hold zero. -/
structure TableMemory where
  entries : Std.TreeMap Nat UInt64

namespace TableMemory

def empty : TableMemory := ⟨∅⟩

/-- Bytes of physical memory. -/
def memorySize : Nat := 1 <<< 22

/-- Whether a table lies in memory. -/
def isInMemory (table : UInt64) : Bool := decide (table.toNat + pageSize ≤ memorySize)

/-- The place of an entry. -/
def place (table : UInt64) (index : Nat) : Nat := table.toNat / pageSize * tableSize + index

def entry (memory : TableMemory) (table : UInt64) (index : Nat) : UInt64 :=
  memory.entries.getD (place table index) 0

def setEntry (memory : TableMemory) (table : UInt64) (index : Nat) (entry : UInt64) :
    TableMemory :=
  ⟨memory.entries.insert (place table index) entry⟩

/-- Writing an entry changes what is read at its place, and nothing else. -/
theorem entry_setEntry (memory : TableMemory) (table other : UInt64) (index position : Nat)
    (value : UInt64) :
    (memory.setEntry table index value).entry other position =
      if place table index = place other position then value else memory.entry other position := by
  simp [entry, setEntry, Std.TreeMap.getD_insert, Std.LawfulEqCmp.compare_eq_iff_eq]

/-- Sets all entries of a table to zero. -/
def clear (memory : TableMemory) (table : UInt64) : TableMemory :=
  ⟨(List.range tableSize).foldl (fun entries index => entries.erase (place table index))
    memory.entries⟩

/-- The memory that a virtual address reaches, walking down from a table. -/
def resolveFrom (memory : TableMemory) (address : UInt64) (table : UInt64) :
    Nat → Option UInt64
  | 0 => none
  | lower + 1 =>
    let entry := memory.entry table (tableIndex address (lower + 1))
    if !Entry.has entry Entry.present then
      none
    else if lower = 0 ∨ Entry.has entry Entry.huge then
      some (UInt64.ofNat ((Entry.target entry).toNat + address.toNat % spanOf (lower + 1)))
    else
      memory.resolveFrom address (Entry.target entry) lower

/-! ## Listing what is mapped -/

/-- A run of mapped pages of one size, consecutive in virtual and in physical memory. -/
structure Mapping where
  virtualStart : Nat
  physicalStart : Nat
  pages : Nat
  pageBytes : Nat
  flags : UInt64
  deriving DecidableEq, Repr

/-- The address with a given position in the tree: the upper half of the space lies at the top. -/
def virtualAddress (position : Nat) : Nat :=
  if position < 1 <<< 47 then position else position + (UInt64.size - 1 <<< 48)

/-- The entries that map memory below a table, in ascending order. -/
def leavesFrom (memory : TableMemory) (table : UInt64) (position : Nat) :
    Nat → Except Panic (List Mapping)
  | 0 => .ok []
  | lower + 1 =>
    if !isInMemory table then
      .error .tableOutsideMemory
    else do
      let below ← (List.range tableSize).mapM fun index =>
        let entry := memory.entry table index
        let reached := position + index * spanOf (lower + 1)
        if entry = 0 then
          .ok []
        else if lower = 0 ∨ Entry.has entry Entry.huge then
          .ok [⟨virtualAddress reached, (Entry.target entry).toNat, 1, spanOf (lower + 1),
            Entry.flags entry⟩]
        else
          memory.leavesFrom (Entry.target entry) reached lower
      return below.flatten

/-- Whether the second run continues the first. -/
def Mapping.continues (first second : Mapping) : Bool :=
  first.pageBytes == second.pageBytes && first.flags == second.flags &&
    first.virtualStart + first.pages * first.pageBytes == second.virtualStart &&
    first.physicalStart + first.pages * first.pageBytes == second.physicalStart

/-- Joins runs that continue each other. -/
def joinRuns : List Mapping → List Mapping
  | [] => []
  | run :: rest =>
    match joinRuns rest with
    | [] => [run]
    | next :: more =>
      if run.continues next then
        { run with pages := run.pages + next.pages } :: more
      else
        run :: next :: more

end TableMemory

/-! ## The address space -/

/-- Tables, free frames, and what start-up has done with them. -/
structure AddressSpace where
  memory : TableMemory
  root : UInt64
  supply : FrameSupply
  /-- Pages that were flushed, latest first. -/
  flushed : List UInt64
  heap : Option (UInt64 × UInt64)

namespace AddressSpace

/-- The memory that a virtual address reaches. -/
def resolve (space : AddressSpace) (address : UInt64) : Option UInt64 :=
  if isCanonical address then space.memory.resolveFrom address space.root 4 else none

/-- Whether a virtual address is mapped. -/
def isMapped (space : AddressSpace) (address : UInt64) : Bool := (space.resolve address).isSome

/-- Everything that is mapped, neighbours joined, in ascending order. -/
def mappings (space : AddressSpace) : Except Panic (List TableMemory.Mapping) :=
  (space.memory.leavesFrom space.root 0 4).map TableMemory.joinRuns

/-- Takes a free frame. -/
def allocate (space : AddressSpace) : Except Stop (Option UInt64) × AddressSpace :=
  let (frame, supply) := space.supply.allocate
  (frame.mapError .panic, { space with supply := supply })

/-- Answers the requests of the page table programs. -/
def tables : Environment Tables AddressSpace
  | .readEntry table index, space => (.ok (space.memory.entry table index), space)
  | .writeEntry table index entry, space =>
    (.ok (), { space with memory := space.memory.setEntry table index entry })
  | .clearTable table, space => (.ok (), { space with memory := space.memory.clear table })
  | .allocateFrame, space => space.allocate

/-- Answers the requests of the mapper. -/
def environment : Environment Mapper AddressSpace
  | .mapPage page frame flags, space =>
    (Memory.mapPage space.root page frame flags).run tables space
  | .allocateFrame, space => space.allocate
  | .flush page, space => (.ok (), { space with flushed := page :: space.flushed })
  | .startHeap first size, space => (.ok (), { space with heap := some (first, size) })

/-! ## Address spaces as they are found -/

/-- A mapping that exists before start-up: level 1 is a page, levels 2 and 3 are huge pages. -/
structure Premapped where
  virtualStart : UInt64
  physicalStart : UInt64
  level : Nat
  deriving DecidableEq, Repr

/-- The frame of the root table. -/
def rootFrame : Nat := 1023

/-- Goes to the next table of the found tree; a missing one takes the highest free frame. -/
def foundTable (memory : TableMemory) (spare : Nat) (table : UInt64) (index : Nat) :
    TableMemory × Nat × UInt64 :=
  let entry := memory.entry table index
  if entry = 0 then
    let next := frameAddress spare
    (memory.setEntry table index (next ||| (Entry.present ||| Entry.writable)), spare - 1, next)
  else
    (memory, spare, Entry.target entry)

/-- Enters a mapping below a table of the given level. -/
def placePremapped (mapping : Premapped) (memory : TableMemory) (spare : Nat) (table : UInt64) :
    Nat → Except Panic (TableMemory × Nat)
  | 0 => .ok (memory, spare)
  | lower + 1 =>
    let index := tableIndex mapping.virtualStart (lower + 1)
    if !TableMemory.isInMemory table then
      .error .tableOutsideMemory
    else if mapping.level = lower + 1 then
      let flags := Entry.present ||| Entry.writable ||| (if lower = 0 then 0 else Entry.huge)
      .ok (memory.setEntry table index (mapping.physicalStart ||| flags), spare)
    else
      let (memory, spare, next) := foundTable memory spare table index
      placePremapped mapping memory spare next lower

/-- An address space without any mapping. -/
def unmapped (map : MemoryMap) : AddressSpace :=
  ⟨.empty, frameAddress rootFrame, .ofMap map, [], none⟩

/-- An address space with the given mappings, before start-up changes anything. -/
def found (map : MemoryMap) (premapped : List Premapped) : Except Panic AddressSpace := do
  let space := unmapped map
  let (memory, _) ← premapped.foldlM
    (fun (memory, spare) mapping => placePremapped mapping memory spare space.root 4)
    (space.memory, rootFrame - 1)
  return { space with memory := memory }

end AddressSpace

end KernelStart.Memory
