import KernelStart.Memory.Frame
import KernelStart.Program

/-!
# Page tables

Virtual memory is a tree of tables with 512 entries of 64 bits, four levels deep.  An
entry holds the address of the next table, or of the memory it maps, in bits 12 to 51,
and flags around it.  Entries of zero are unused.  An entry above the last level may
map a huge page, which ends the walk early.

`mapPage` enters one page.  It goes down from the root, creating the tables that are
missing, each in a frame of its own; tables created on the way stay even if the page
cannot be entered in the end.  A page that is in use is never changed.
-/

set_option autoImplicit false

namespace KernelStart.Memory

/-! ## Entries -/

namespace Entry

def present : UInt64 := 0x001
def writable : UInt64 := 0x002
def userAccessible : UInt64 := 0x004
def writeThrough : UInt64 := 0x008
def noCache : UInt64 := 0x010
/-- The entry maps memory although it is above the last level. -/
def huge : UInt64 := 0x080

/-- The bits that hold an address. -/
def addressMask : UInt64 := 0x000ffffffffff000

/-- The address in an entry. -/
def target (entry : UInt64) : UInt64 := entry &&& addressMask

/-- All of an entry but its address. -/
def flags (entry : UInt64) : UInt64 := entry &&& ~~~addressMask

/-- Whether all of the given flags are set. -/
def has (entry required : UInt64) : Bool := entry &&& required == required

end Entry

/-- Entries of a table. -/
def tableSize : Nat := 512

/-- The levels of the tree, from the root down to the one whose entries map single pages. -/
def upperLevels : List Nat := [4, 3, 2]

/-- The position of a virtual address in a table of the given level, counted from one. -/
def tableIndex (address : UInt64) (level : Nat) : Nat :=
  address.toNat / (pageSize * Nat.pow tableSize (level - 1)) % tableSize

/-- Bytes mapped by an entry of the given level. -/
def spanOf (level : Nat) : Nat := pageSize * Nat.pow tableSize (level - 1)

/-- Whether a virtual address is the sign extension of its low 48 bits. -/
def isCanonical (address : UInt64) : Bool :=
  decide (address.toNat < 1 <<< 47 ∨ UInt64.size - 1 <<< 47 ≤ address.toNat)

/-! ## Mapping a page -/

/-- Why a page could not be mapped. -/
inductive MapError where
  /-- No frame was left for a table. -/
  | frameAllocationFailed
  /-- A huge page covers the address. -/
  | parentIsHuge
  /-- The page is in use; the frame is the one that was to be mapped. -/
  | alreadyMapped (frame : UInt64)
  deriving DecidableEq, Repr

/-- Access to the entries of tables, and to free frames. -/
inductive TableRequest where
  | readEntry (table : UInt64) (index : Nat)
  | writeEntry (table : UInt64) (index : Nat) (entry : UInt64)
  /-- Sets all entries of a table to zero. -/
  | clearTable (table : UInt64)
  | allocateFrame
  deriving DecidableEq, Repr

/-- What mapping a page asks for. -/
abbrev Tables : Signature where
  Request := TableRequest
  Answer
    | .readEntry _ _ => UInt64
    | .writeEntry _ _ _ => Unit
    | .clearTable _ => Unit
    | .allocateFrame => Option UInt64

def readEntry (table : UInt64) (index : Nat) : Program Tables UInt64 :=
  @Program.request Tables (.readEntry table index)

def writeEntry (table : UInt64) (index : Nat) (entry : UInt64) : Program Tables Unit :=
  @Program.request Tables (.writeEntry table index entry)

/-- The flags that every table on the way needs for a page with the given flags. -/
def inheritedFlags (flags : UInt64) : UInt64 :=
  flags &&& (Entry.present ||| Entry.writable ||| Entry.userAccessible)

/-- Enters a new table in an unused entry. -/
def createTable (table : UInt64) (index : Nat) (inherited : UInt64) :
    Program Tables (Except MapError UInt64) := do
  match ← @Program.request Tables .allocateFrame with
  | none => return .error .frameAllocationFailed
  | some frame =>
    writeEntry table index (frame ||| inherited)
    @Program.request Tables (.clearTable frame)
    return .ok frame

/-- Goes to the next table, which is created if it is missing and gets the inherited flags. -/
def nextTable (table : UInt64) (index : Nat) (inherited : UInt64) :
    Program Tables (Except MapError UInt64) := do
  let entry ← readEntry table index
  if entry = 0 then
    createTable table index inherited
  else
    if !Entry.has entry inherited then
      writeEntry table index (entry ||| inherited)
    if Entry.has entry Entry.huge then
      return .error .parentIsHuge
    else
      return .ok (Entry.target entry)

/-- Goes down the given levels to the table that holds the entry of a page. -/
def lastTable (page inherited : UInt64) (table : UInt64) :
    List Nat → Program Tables (Except MapError UInt64)
  | [] => return .ok table
  | level :: lower => do
    match ← nextTable table (tableIndex page level) inherited with
    | .error error => return .error error
    | .ok next => lastTable page inherited next lower

/-- Maps a page to a frame. -/
def mapPage (root page frame flags : UInt64) : Program Tables (Except MapError Unit) := do
  match ← lastTable page (inheritedFlags flags) root upperLevels with
  | .error error => return .error error
  | .ok table =>
    let index := tableIndex page 1
    if (← readEntry table index) ≠ 0 then
      return .error (.alreadyMapped frame)
    else
      writeEntry table index (frame ||| flags)
      return .ok ()

end KernelStart.Memory
