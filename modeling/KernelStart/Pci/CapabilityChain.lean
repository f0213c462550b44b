import KernelStart.Pci.Capability
import KernelStart.Pci.ConfigSpace

/-!
# The pointer chain of an unchanging function

While the registers of a function do not change, its capability pointers are an endless
sequence: the first comes from the standard header, and each place holds the pointer to
the next.  The sequence runs into a place it has been before or leaves the area of
capabilities; what comes before is the list of the function's capabilities.
-/

set_option autoImplicit false

namespace KernelStart.Pci.Capability

/-- The pointer at a position of the chain. -/
def chainPointer (space : ConfigSpace) (address : Address) : Nat → UInt8
  | 0 => pointer (space ⟨address, capabilityPointerOffset⟩)
  | position + 1 => pointer (space ⟨address, chainPointer space address position⟩ >>> 8)

/-- The entry at a position of the chain. -/
def chainEntry (space : ConfigSpace) (address : Address) (position : Nat) : Capability :=
  ⟨chainPointer space address position, space ⟨address, chainPointer space address position⟩⟩

/-- The pointers up to a position all lead to places of capabilities. -/
def ChainReaches (space : ConfigSpace) (address : Address) (position : Nat) : Prop :=
  ∀ earlier ≤ position, firstOffset ≤ chainPointer space address earlier

/-- The pointer at a position leads to the place of a capability that the chain has not met
before. -/
def isFreshAt (space : ConfigSpace) (address : Address) (position : Nat) : Bool :=
  decide (firstOffset ≤ chainPointer space address position) &&
    (List.range position).all fun earlier =>
      chainPointer space address earlier != chainPointer space address position

/-- The entries before the chain leaves the area or meets a place again; there are fewer than
256 places. -/
def chain (space : ConfigSpace) (address : Address) : List Capability :=
  ((List.range 256).takeWhile (isFreshAt space address)).map (chainEntry space address)

theorem next_chainEntry (space : ConfigSpace) (address : Address) (position : Nat) :
    (chainEntry space address position).next = chainPointer space address (position + 1) := rfl

end KernelStart.Pci.Capability
