import KernelStart.Pci.Topology

/-!
# What a walk over the buses has to read

To look at a function means to read its vendor, of a function that answers also its header and
its class, and of a bridge also its buses.  Of a bus that it enters, a walk looks at function 0
of every device, and at the other functions of a device only if function 0 is there and
announces them; it may not assume that reading elsewhere is harmless.

An enumeration reads a little more than that: the header of the host bridge, and the vendors of
its further functions if the header announces several.

All this is said without the loop that does the reading.
-/

set_option autoImplicit false

namespace KernelStart.Pci.ConfigSpace

/-! ## Looking at functions -/

/-- The reads with which a function is looked at. -/
def lookReads (space : ConfigSpace) (address : Address) : List ConfigRegister :=
  ⟨address, vendorOffset⟩ ::
    if space.isPresent address then
      ⟨address, headerOffset⟩ :: ⟨address, classOffset⟩ ::
        if space.isBridge address then [⟨address, busNumbersOffset⟩] else []
    else
      []

/-- The number of reads with which a function is looked at. -/
def lookCost (space : ConfigSpace) (address : Address) : Nat :=
  1 + if space.isPresent address then 2 + if space.isBridge address then 1 else 0 else 0

/-- Whether the device of a function is there and announces several functions. -/
def hasSeveral (space : ConfigSpace) (address : Address) : Bool :=
  space.isPresent (address.withFunction 0) &&
    !isSingleFunction (space.header (address.withFunction 0))

/-- The functions of a device that a walk looks at: function 0, and all if it announces them. -/
def looksAt (space : ConfigSpace) (bus device : UInt8) : List Address :=
  if space.hasSeveral ⟨bus, device, 0⟩ then
    (List.range functionsPerDevice).map fun function => ⟨bus, device, UInt8.ofNat function⟩
  else
    [⟨bus, device, 0⟩]

/-- The functions that a walk looks at on a bus, in order. -/
def looksOn (space : ConfigSpace) (bus : UInt8) : List Address :=
  (List.range devicesPerBus).flatMap fun device => space.looksAt bus (UInt8.ofNat device)

/-- The reads with which the functions of a bus are looked at. -/
def busReads (space : ConfigSpace) (bus : UInt8) : List ConfigRegister :=
  (space.looksOn bus).flatMap space.lookReads

/-- A function is looked at on a bus that can be reached, if it is function 0 of a device or one of
several that the device announces. -/
def IsLookedAt (space : ConfigSpace) (address : Address) : Prop :=
  space.IsReachable address.bus ∧ address.device.toNat < devicesPerBus ∧
    address.function.toNat < functionsPerDevice ∧
    (address.function = 0 ∨ space.hasSeveral address = true)

/-! ## Looking for root buses -/

/-- The further functions of the host bridge, if it seems to have several. -/
def IsRootCandidate (space : ConfigSpace) (address : Address) : Prop :=
  isSingleFunction (space.header ⟨0, 0, 0⟩) = false ∧ address.bus = 0 ∧ address.device = 0 ∧
    address.function ∈ rootFunctions

instance (space : ConfigSpace) : DecidablePred space.IsRootCandidate := fun _ =>
  inferInstanceAs (Decidable (_ ∧ _ ∧ _ ∧ _))

/-- The reads with which functions of the host bridge are looked for. -/
def candidateReads (functions : List UInt8) : List ConfigRegister :=
  functions.map fun function => ⟨⟨0, 0, function⟩, vendorOffset⟩

/-- The reads with which an enumeration looks for root buses. -/
def rootReads (space : ConfigSpace) : List ConfigRegister :=
  ⟨⟨0, 0, 0⟩, headerOffset⟩ ::
    if isSingleFunction (space.header ⟨0, 0, 0⟩) then [] else candidateReads rootFunctions

end KernelStart.Pci.ConfigSpace
