import KernelStart.ByteSet
import KernelStart.Pci.Device

/-!
# Enumeration of the PCI buses

The walk goes through a bus device by device and function by function, and enters the
bus behind a bridge as soon as the bridge is recorded, so every subtree is contiguous
in the inventory.  It keeps its own stack of positions instead of recursing; a bus
that was already walked is not walked again, whatever misprogrammed bridges say.

`BusWalk.finish` repeats `BusWalk.turn`.  It is total for arbitrary hardware: each turn either
moves the topmost position on, or gives up a finished bus, or enters a bus that was never
entered before, and `BusWalk.work` counts what is left of these three.

`enumerateInto` clears an inventory and starts the walk at the root buses.  A host bridge with
one function owns bus 0; one with several functions owns bus `n` for each function `n` that is
present.
-/

set_option autoImplicit false

namespace KernelStart.Pci

/-! ## Positions on a bus -/

/-- How far a bus has been walked: devices and functions are numbered through, eight
functions to a device. -/
structure Cursor where
  bus : UInt8
  position : Nat
  deriving DecidableEq, Repr, Inhabited

namespace Cursor

/-- The positions on a bus: 32 devices of eight functions. -/
def positions : Nat := devicesPerBus * functionsPerDevice

/-- The start of a bus. -/
def start (bus : UInt8) : Cursor := ⟨bus, 0⟩

/-- The address to look at next. -/
def address (cursor : Cursor) : Address where
  bus := cursor.bus
  device := UInt8.ofNat (cursor.position / functionsPerDevice)
  function := UInt8.ofNat (cursor.position % functionsPerDevice)

/-- The next function to look at is function 0 of a device. -/
def atFirstFunction (cursor : Cursor) : Bool := cursor.position % functionsPerDevice == 0

/-- All devices have been looked at. -/
def isFinished (cursor : Cursor) : Bool := decide (positions ≤ cursor.position)

/-- Function 0 of the next device. -/
def toNextDevice (cursor : Cursor) : Cursor :=
  ⟨cursor.bus, (cursor.position / functionsPerDevice + 1) * functionsPerDevice⟩

/-- The next function; the last one of a device leads to the next device. -/
def toNextFunction (cursor : Cursor) : Cursor := ⟨cursor.bus, cursor.position + 1⟩

/-- Where to go on after nothing answered: without function 0 there is no device at all. -/
def afterAbsent (cursor : Cursor) : Cursor :=
  if cursor.atFirstFunction then cursor.toNextDevice else cursor.toNextFunction

/-- Where to go on after a function with this header: a single function has no siblings. -/
def afterPresent (cursor : Cursor) (header : UInt8) : Cursor :=
  if cursor.atFirstFunction && isSingleFunction header then
    cursor.toNextDevice
  else
    cursor.toNextFunction

/-- The number of positions left. -/
def remaining (cursor : Cursor) : Nat := positions - cursor.position

theorem position_lt_toNextDevice (cursor : Cursor) :
    cursor.position < cursor.toNextDevice.position := by
  simp only [toNextDevice, functionsPerDevice]
  omega

theorem position_lt_afterAbsent (cursor : Cursor) :
    cursor.position < cursor.afterAbsent.position := by
  unfold afterAbsent
  split
  · exact cursor.position_lt_toNextDevice
  · exact Nat.lt_succ_self _

theorem position_lt_afterPresent (cursor : Cursor) (header : UInt8) :
    cursor.position < (cursor.afterPresent header).position := by
  unfold afterPresent
  split
  · exact cursor.position_lt_toNextDevice
  · exact Nat.lt_succ_self _

/-- Moving on from an unfinished position leaves fewer positions. -/
theorem remaining_lt {cursor next : Cursor} (unfinished : cursor.isFinished = false)
    (moved : cursor.position < next.position) : next.remaining < cursor.remaining := by
  simp only [isFinished, decide_eq_false_iff_not, Nat.not_le] at unfinished
  unfold remaining
  omega

end Cursor

/-! ## The walk -/

/-- A walk in progress: what was recorded, where the walk stands on each bus that it is
in, innermost first, and which buses it has entered. -/
structure BusWalk where
  inventory : Inventory
  stack : List Cursor
  entered : ByteSet
  deriving DecidableEq, Repr, Inhabited

namespace BusWalk

/-- Every nested bus is entered through a recorded bridge, so the walk is never inside
more buses than the inventory has room for, and one root bus. -/
def depthLimit : Nat := Inventory.capacity + 1

/-- No bus entered yet. -/
def start (inventory : Inventory) : BusWalk := ⟨inventory, [], .empty⟩

/-- Puts a bus on top of the stack, unless it was entered before. -/
def enter (walk : BusWalk) (bus : UInt8) : Except Failure BusWalk :=
  if walk.entered.contains bus then
    .ok walk
  else if depthLimit ≤ walk.stack.length then
    .error .resourceExhausted
  else
    .ok { walk with stack := .start bus :: walk.stack, entered := walk.entered.insert bus }

/-- What is left to do: buses to enter, positions to look at, buses to leave. -/
def work (walk : BusWalk) : Nat :=
  walk.entered.free * (Cursor.positions + 2) +
    (walk.stack.map fun cursor => cursor.remaining + 1).foldr (· + ·) 0

theorem work_enter_le {walk next : BusWalk} {bus : UInt8} (entered : walk.enter bus = .ok next) :
    next.work ≤ walk.work := by
  unfold enter at entered
  split at entered
  · cases entered; exact Nat.le_refl _
  · next isFresh =>
    split at entered
    · cases entered
    · cases entered
      have less := ByteSet.free_insert_lt ((Bool.not_eq_true _).mp isFresh)
      have bound : (Cursor.start bus).remaining + 1 ≤ Cursor.positions + 2 := by
        unfold Cursor.remaining; omega
      have scaled := Nat.mul_le_mul_right (Cursor.positions + 2) (Nat.succ_le_of_lt less)
      rw [Nat.succ_mul] at scaled
      simp only [work, List.map_cons, List.foldr_cons]
      omega

/-- How a walk ended: the error, if any, and everything recorded up to then. -/
structure Ending where
  result : Except Failure Unit
  reached : BusWalk

/-- The walk with other positions. -/
def withStack (walk : BusWalk) (stack : List Cursor) : BusWalk := { walk with stack := stack }

theorem work_leave_lt {walk : BusWalk} {cursor : Cursor} {outer : List Cursor}
    (stack_eq : walk.stack = cursor :: outer) : (walk.withStack outer).work < walk.work := by
  simp only [work, withStack, stack_eq, List.map_cons, List.foldr_cons]
  omega

theorem work_move_lt {walk : BusWalk} {cursor next : Cursor} {outer : List Cursor}
    {inventory : Inventory} (stack_eq : walk.stack = cursor :: outer)
    (unfinished : cursor.isFinished = false) (moved : cursor.position < next.position) :
    (BusWalk.mk inventory (next :: outer) walk.entered).work < walk.work := by
  have less := Cursor.remaining_lt unfinished moved
  simp only [work, stack_eq, List.map_cons, List.foldr_cons]
  omega

/-- What one turn of the walk comes to: the end, or a walk with less work left. -/
inductive Turn (walk : BusWalk) where
  | ended (ending : Ending)
  | onward (next : BusWalk) (less : next.work < walk.work)

/-- Looks at the position of the topmost cursor: records the function there, if there is one,
and enters the bus behind it, if it is a bridge. -/
def look (walk : BusWalk) (cursor : Cursor) (outer : List Cursor)
    (stack_eq : walk.stack = cursor :: outer) (unfinished : cursor.isFinished = false) :
    Program ConfigRead (Turn walk) := do
  if (← readVendor cursor.address) = absentVendor then
    return .onward (walk.withStack (cursor.afterAbsent :: outer))
      (work_move_lt stack_eq unfinished cursor.position_lt_afterAbsent)
  let device ← readDevice cursor.address
  match walk.inventory.push device with
  | .error kind => return .ended ⟨.error kind, walk⟩
  | .ok inventory =>
    let onward : BusWalk := ⟨inventory, cursor.afterPresent device.header :: outer, walk.entered⟩
    have less : onward.work < walk.work :=
      work_move_lt stack_eq unfinished (cursor.position_lt_afterPresent _)
    if device.classCode.isBridge then
      let bus ← readSecondaryBus cursor.address
      match inside_eq : onward.enter bus with
      | .error kind => return .ended ⟨.error kind, onward⟩
      | .ok inside =>
        return .onward inside (Nat.lt_of_le_of_lt (work_enter_le inside_eq) less)
    else
      return .onward onward less

/-- One turn of the walk: the end, if no bus is left; otherwise the topmost bus is left, if it is
finished, or its next position is looked at. -/
def turn (walk : BusWalk) : Program ConfigRead (Turn walk) :=
  match stack_eq : walk.stack with
  | [] => return .ended ⟨.ok (), walk⟩
  | cursor :: outer =>
    if finished : cursor.isFinished = true then
      return .onward (walk.withStack outer) (work_leave_lt stack_eq)
    else
      walk.look cursor outer stack_eq ((Bool.not_eq_true _).mp finished)

/-- Walks the buses on the stack, and those behind the bridges found there, to the end. -/
def finish (walk : BusWalk) : Program ConfigRead Ending := do
  match ← walk.turn with
  | .ended ending => return ending
  | .onward next _less => finish next
termination_by walk.work

/-- Walks a root bus; what was recorded and entered before stays. -/
def walkRoot (walk : BusWalk) (bus : UInt8) : Program ConfigRead Ending :=
  match walk.enter bus with
  | .error kind => pure ⟨.error kind, walk⟩
  | .ok inside => inside.finish

/-- Walks the buses that belong to functions of a host bridge, in order, until an error. -/
def walkRoots (walk : BusWalk) : List UInt8 → Program ConfigRead Ending
  | [] => pure ⟨.ok (), walk⟩
  | function :: rest => do
    if (← readVendor ⟨0, 0, function⟩) = absentVendor then
      walkRoots walk rest
    else
      let ending ← walk.walkRoot function
      match ending.result with
      | .error _ => pure ending
      | .ok _ => walkRoots ending.reached rest

end BusWalk

/-- The functions of a host bridge that may own a root bus besides bus 0. -/
def rootFunctions : List UInt8 := [1, 2, 3, 4, 5, 6, 7]

theorem toNat_lt_of_mem_rootFunctions {function : UInt8} (further : function ∈ rootFunctions) :
    function.toNat < functionsPerDevice := by
  have all : rootFunctions.all (fun function => decide (function.toNat < functionsPerDevice)) =
      true := by decide
  exact of_decide_eq_true (List.all_eq_true.1 all function further)

/-- Walks every bus that can be reached from the host bridge, and reports the whole walk. -/
def enumerationReport (previous : Inventory) : Program ConfigRead BusWalk.Ending := do
  let header ← readHeader ⟨0, 0, 0⟩
  let ending ← (BusWalk.start previous.clear).walkRoot 0
  if isSingleFunction header then
    pure ending
  else
    match ending.result with
    | .error _ => pure ending
    | .ok _ => ending.reached.walkRoots rootFunctions

/-- Enumerates every function that can be reached from the host bridge into an inventory, in
place of what it recorded before.  A walk that runs out of room ends with an error; what it
found up to then is still worth searching. -/
def enumerateInto (previous : Inventory) :
    Program ConfigRead (Except Failure Unit × Inventory) := do
  let ending ← enumerationReport previous
  return (ending.result, ending.reached.inventory)

/-- Enumerates every function that can be reached from the host bridge into a new inventory. -/
def enumerateBuses : Program ConfigRead (Except Failure Unit × Inventory) :=
  enumerateInto .empty

end KernelStart.Pci
