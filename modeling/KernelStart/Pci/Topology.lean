import KernelStart.Pci.ConfigSpace
import KernelStart.Pci.BusWalk

/-!
# The bus graph of an unchanging configuration space

Buses are the vertices of a graph whose edges are bridges.  This module describes the
graph without the loop that explores it: which functions a bus shows, which buses are
roots, which buses and functions can be reached, and in which order a recursive
depth-first enumeration meets the functions.

A bus is walked at most once.  There are 256 buses, and the recursion goes deeper only
into a bus that was not entered before, so it is never deeper than that.
-/

set_option autoImplicit false

namespace KernelStart.Pci.ConfigSpace

/-! ## Functions of a bus -/

/-- The functions of a device that can be shown: without function 0 none, otherwise function 0, and
the others if its header announces them. -/
def probed (space : ConfigSpace) (bus device : UInt8) : List Address :=
  let first : Address := ⟨bus, device, 0⟩
  if !space.isPresent first then
    []
  else if isSingleFunction (space.header first) then
    [first]
  else
    (List.range functionsPerDevice).map fun function => ⟨bus, device, UInt8.ofNat function⟩

/-- The functions that a bus shows, in order. -/
def functionsOf (space : ConfigSpace) (bus : UInt8) : List Address :=
  (List.range devicesPerBus).flatMap fun device =>
    (space.probed bus (UInt8.ofNat device)).filter space.isPresent

/-- Whether a function is a bridge to another bus. -/
def isBridge (space : ConfigSpace) (address : Address) : Bool :=
  (space.classCode address).isBridge

/-! ## Reachability -/

/-- A function is shown if its device is there, that is, has function 0, and if it is function 0
itself or answers on a device that announces several functions. -/
def Shows (space : ConfigSpace) (address : Address) : Prop :=
  address.device.toNat < devicesPerBus ∧ address.function.toNat < functionsPerDevice ∧
    space.isPresent (address.withFunction 0) = true ∧
    (address.function = 0 ∨
      isSingleFunction (space.header (address.withFunction 0)) = false ∧
        space.isPresent address = true)

/-- Bus 0, and one bus for each further function of a host bridge that has several. -/
def rootBuses (space : ConfigSpace) : List UInt8 :=
  if isSingleFunction (space.header ⟨0, 0, 0⟩) then
    [0]
  else
    0 :: rootFunctions.filter fun function => space.isPresent ⟨0, 0, function⟩

/-- The buses that can be reached: bus 0, the buses of further functions of the host bridge, and
whatever lies behind a bridge that a reachable bus shows. -/
inductive IsReachable (space : ConfigSpace) : UInt8 → Prop where
  | zero : IsReachable space 0
  | hostFunction {function : UInt8} (further : function ∈ rootFunctions)
      (several : isSingleFunction (space.header ⟨0, 0, 0⟩) = false)
      (present : space.isPresent ⟨0, 0, function⟩ = true) : IsReachable space function
  | behind {address : Address} (above : IsReachable space address.bus)
      (shown : space.Shows address) (bridge : space.isBridge address = true) :
      IsReachable space (space.secondaryBus address)

/-- A function is visible if a reachable bus shows it. -/
def IsVisible (space : ConfigSpace) (address : Address) : Prop :=
  space.IsReachable address.bus ∧ space.Shows address

/-! ## Depth-first enumeration -/

/-- Lists functions in order, each bridge followed at once by what `enter` lists for the bus
behind it; `entered` is the set of buses entered so far. -/
def listFunctions (space : ConfigSpace) (enter : UInt8 → ByteSet → List Device × ByteSet) :
    List Address → ByteSet → List Device × ByteSet
  | [], entered => ([], entered)
  | address :: rest, entered =>
    let (below, reached) :=
      if space.isBridge address then enter (space.secondaryBus address) entered
      else ([], entered)
    let (later, last) := space.listFunctions enter rest reached
    (space.device address :: below ++ later, last)

/-- Lists what a bus shows and what lies behind its bridges, down to a given depth; a bus that
was entered before lists nothing. -/
def listBus (space : ConfigSpace) : Nat → UInt8 → ByteSet → List Device × ByteSet
  | 0, _, entered => ([], entered)
  | depth + 1, bus, entered =>
    if entered.contains bus then
      ([], entered)
    else
      space.listFunctions (space.listBus depth) (space.functionsOf bus) (entered.insert bus)

/-- The number of buses. -/
def busCount : Nat := 256

/-- Lists root buses one after another. -/
def listRoots (space : ConfigSpace) : List UInt8 → ByteSet → List Device
  | [], _ => []
  | bus :: rest, entered =>
    let (found, reached) := space.listBus busCount bus entered
    found ++ space.listRoots rest reached

theorem listRoots_cons (space : ConfigSpace) (bus : UInt8) (rest : List UInt8)
    (entered : ByteSet) :
    space.listRoots (bus :: rest) entered =
      (space.listBus busCount bus entered).1 ++
        space.listRoots rest (space.listBus busCount bus entered).2 := rfl

/-- The buses entered once root buses were listed one after another. -/
def enterRoots (space : ConfigSpace) : List UInt8 → ByteSet → ByteSet
  | [], entered => entered
  | bus :: rest, entered => space.enterRoots rest (space.listBus busCount bus entered).2

/-- Every function that the depth-first enumeration meets, in order. -/
def enumeration (space : ConfigSpace) : List Device :=
  space.listRoots space.rootBuses .empty

/-- Every bus that the depth-first enumeration enters. -/
def enteredBuses (space : ConfigSpace) : ByteSet :=
  space.enterRoots space.rootBuses .empty

end KernelStart.Pci.ConfigSpace
