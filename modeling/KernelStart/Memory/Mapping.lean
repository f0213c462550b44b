import KernelStart.Memory.PageTable
import KernelStart.Settings
import KernelStart.Text.Hex

/-!
# Mapping device registers and the heap

Two things are mapped during start-up.  Device registers are mapped at the virtual
address that equals their physical one, uncached; a page that is already mapped, or
lies under a huge page, is left as it is.  The heap is mapped to fresh frames, and
there every obstacle is an error.

Both are written over a small signature that maps single pages, so they can be
understood from what mapping one page means.
-/

set_option autoImplicit false

namespace KernelStart.Memory

/-- The text of a mapping error. -/
def MapError.text : MapError → String
  | frameAllocationFailed => "FrameAllocationFailed"
  | parentIsHuge => "ParentEntryHugePage"
  | alreadyMapped frame => s!"PageAlreadyMapped(PhysFrame[4KiB]({Text.hex frame.toNat}))"

/-- Mapping single pages, and taking free frames. -/
inductive MapperRequest where
  | mapPage (page frame flags : UInt64)
  | allocateFrame
  /-- Forgets what the processor remembers about a page. -/
  | flush (page : UInt64)
  /-- Hands a range of virtual memory to the heap. -/
  | startHeap (first size : UInt64)
  deriving DecidableEq, Repr

/-- What mapping ranges of memory asks for. -/
abbrev Mapper : Signature where
  Request := MapperRequest
  Answer
    | .mapPage _ _ _ => Except MapError Unit
    | .allocateFrame => Option UInt64
    | .flush _ => Unit
    | .startHeap _ _ => Unit

/-- Asks one request of the mapper. -/
def askMapper (request : MapperRequest) : Program Mapper (Mapper.Answer request) :=
  @Program.request Mapper request

/-- The page that an address lies in. -/
def pageOf (address : Nat) : Nat := address / pageSize

/-! ## Device registers -/

/-- Registers are read and written in place, never from a cache. -/
def deviceFlags : UInt64 :=
  Entry.present ||| Entry.writable ||| Entry.noCache ||| Entry.writeThrough

/-- An address that is both physical and virtual, or the reason why it is not. -/
def checkPhysical (address : Nat) : Program Mapper Unit :=
  if physicalLimit ≤ address then .panic .physicalAddressTooWide else pure ()

/-- Maps one page of device registers, unless the page has a meaning already. -/
def mapDevicePage (page : Nat) : Program Mapper (Except MapError Unit) := do
  let address := frameAddress page
  if !isCanonical address then
    .panic .virtualAddressNotCanonical
  else
    match ← askMapper (.mapPage address address deviceFlags) with
    | .ok _ =>
      askMapper (.flush address)
      return .ok ()
    | .error .frameAllocationFailed => return .error .frameAllocationFailed
    | .error _ => return .ok ()

/-- Maps consecutive pages of device registers until one fails. -/
def mapDevicePages (first : Nat) : Nat → Program Mapper (Except MapError Unit)
  | 0 => return .ok ()
  | count + 1 => do
    match ← mapDevicePage first with
    | .error error => return .error error
    | .ok _ => mapDevicePages (first + 1) count

/-- Maps the pages of a physical range at the same virtual addresses. -/
def mapDevice (start size : UInt64) : Program Mapper (Except MapError Unit) := do
  if size = 0 then
    return .ok ()
  checkPhysical start.toNat
  if UInt64.size ≤ start.toNat + size.toNat then
    .panic .arithmeticOverflow
  else
    let last := start.toNat + size.toNat - 1
    checkPhysical last
    mapDevicePages (pageOf start.toNat) (pageOf last + 1 - pageOf start.toNat)

/-! ## The heap -/

def heapFlags : UInt64 := Entry.present ||| Entry.writable

/-- Maps one page of the heap to a fresh frame. -/
def mapHeapPage (page : Nat) : Program Mapper (Except MapError Unit) := do
  match ← askMapper .allocateFrame with
  | none => return .error .frameAllocationFailed
  | some frame =>
    match ← askMapper (.mapPage (frameAddress page) frame heapFlags) with
    | .error error => return .error error
    | .ok _ =>
      askMapper (.flush (frameAddress page))
      return .ok ()

/-- Maps consecutive pages of the heap until one fails. -/
def mapHeapPages (first : Nat) : Nat → Program Mapper (Except MapError Unit)
  | 0 => return .ok ()
  | count + 1 => do
    match ← mapHeapPage first with
    | .error error => return .error error
    | .ok _ => mapHeapPages (first + 1) count

/-- The first page of the heap. -/
def heapFirstPage : Nat := pageOf Settings.standard.heapStart.toNat

/-- The number of pages of the heap. -/
def heapPageCount : Nat :=
  pageOf (Settings.standard.heapStart.toNat + Settings.standard.heapSize.toNat - 1) + 1 -
    heapFirstPage

/-- Maps the heap and starts it. -/
def mapHeap : Program Mapper (Except MapError Unit) := do
  match ← mapHeapPages heapFirstPage heapPageCount with
  | .error error => return .error error
  | .ok _ =>
    askMapper (.startHeap Settings.standard.heapStart Settings.standard.heapSize)
    return .ok ()

end KernelStart.Memory
