import KernelStart.Proofs.BusCoverage
import Mathlib.Data.List.Basic

/-!
# What an enumeration depends on

Which registers an enumeration reads is decided by what it read before, so what it depends on
can only be said along the bus graph.  Two configuration spaces show a function alike
(`ShowsAlike`) if vendor, header and class agree, and for a bridge also the bus behind it.
They agree within reach (`AgreesWithinReach`) if they show every function alike that lies on a
bus which can be reached in the first of them.  Nothing is asked of the other buses, which may
hold anything, bridges to a reachable bus included.

An agenda that stays within reach is completed by both in the same way (`Completes.congr`): the
buses show the same functions, and a recorded bridge leads to the same bus, which is within
reach again.  So both have the same enumeration (`enumeration_congr`).  What the enumeration
records is determined by it alone (`enumerateInto_eq_of_enumeration_eq`), also where it runs out
of room, and so no inventory shows what was left in its slots by an earlier one.
-/

set_option autoImplicit false

namespace KernelStart.Pci.ConfigSpace

/-! ## Agreement within reach -/

/-- Two configuration spaces show a function alike, as far as enumeration looks at it. -/
structure ShowsAlike (first second : ConfigSpace) (address : Address) : Prop where
  vendor_eq : second.vendor address = first.vendor address
  header_eq : second.header address = first.header address
  classCode_eq : second.classCode address = first.classCode address
  secondaryBus_eq : first.isBridge address = true →
    second.secondaryBus address = first.secondaryBus address

/-- A second configuration space shows every function alike that lies on a bus which can be reached
in a first one.  Bus 0 can always be reached, so the functions of the host bridge are among
them. -/
def AgreesWithinReach (first second : ConfigSpace) : Prop :=
  ∀ address : Address, first.IsReachable address.bus →
    address.device.toNat < devicesPerBus → address.function.toNat < functionsPerDevice →
      ShowsAlike first second address

variable {first second : ConfigSpace}

namespace ShowsAlike

variable {address : Address}

theorem isPresent_eq (alike : ShowsAlike first second address) :
    second.isPresent address = first.isPresent address := by
  rw [isPresent, alike.vendor_eq, isPresent]

theorem isBridge_eq (alike : ShowsAlike first second address) :
    second.isBridge address = first.isBridge address := by
  rw [isBridge, alike.classCode_eq, isBridge]

theorem device_eq (alike : ShowsAlike first second address) :
    second.device address = first.device address := by
  rw [device, alike.header_eq, alike.classCode_eq, device]

end ShowsAlike

namespace AgreesWithinReach

/-- The further functions of the host bridge are shown alike. -/
theorem hostFunction (agrees : AgreesWithinReach first second) (function : UInt8)
    (small : function.toNat < functionsPerDevice) : ShowsAlike first second ⟨0, 0, function⟩ :=
  agrees ⟨0, 0, function⟩ .zero (Nat.succ_pos 31) small

/-- A visible function is shown alike. -/
theorem visible (agrees : AgreesWithinReach first second) {address : Address}
    (visible : first.IsVisible address) : ShowsAlike first second address := by
  obtain ⟨reachable, onBus, small, -⟩ := visible
  exact agrees address reachable onBus small

/-- A device announces several functions in both. -/
theorem hasSeveral_eq (agrees : AgreesWithinReach first second) (address : Address)
    (reachable : first.IsReachable address.bus) (onBus : address.device.toNat < devicesPerBus) :
    second.hasSeveral address = first.hasSeveral address := by
  have alike := agrees (address.withFunction 0) reachable onBus (Nat.succ_pos 7)
  rw [hasSeveral, alike.isPresent_eq, alike.header_eq, hasSeveral]

/-- On a bus that can be reached the same functions are looked at. -/
theorem looksOn_eq (agrees : AgreesWithinReach first second) {bus : UInt8}
    (reachable : first.IsReachable bus) : second.looksOn bus = first.looksOn bus := by
  refine List.flatMap_congr fun device inRange => ?_
  have onBus : (UInt8.ofNat device).toNat < devicesPerBus :=
    (exists_ofNat_eq (by decide)).1 ⟨device, List.mem_range.1 inRange, rfl⟩
  let first : Address := ⟨bus, UInt8.ofNat device, 0⟩
  have several := agrees.hasSeveral_eq first reachable onBus
  rw [looksAt, several, looksAt]

/-- A bus that can be reached shows the same functions. -/
theorem functionsOf_eq (agrees : AgreesWithinReach first second) {bus : UInt8}
    (reachable : first.IsReachable bus) : second.functionsOf bus = first.functionsOf bus := by
  rw [functionsOf_eq_filter, functionsOf_eq_filter, agrees.looksOn_eq reachable]
  refine List.filter_congr fun address looked => ?_
  obtain ⟨rfl, onBus, small, -⟩ := mem_looksOn.1 looked
  exact (agrees address reachable onBus small).isPresent_eq

/-- The root buses are the same. -/
theorem rootBuses_eq (agrees : AgreesWithinReach first second) :
    second.rootBuses = first.rootBuses := by
  have header_eq := (agrees.hostFunction 0 (by decide)).header_eq
  have present_eq : rootFunctions.filter (fun function => second.isPresent ⟨0, 0, function⟩) =
      rootFunctions.filter fun function => first.isPresent ⟨0, 0, function⟩ :=
    List.filter_congr fun function further =>
      (agrees.hostFunction function (toNat_lt_of_mem_rootFunctions further)).isPresent_eq
  rw [rootBuses, header_eq, present_eq, rootBuses]

end AgreesWithinReach

/-! ## The same enumeration -/

/-- An agenda within reach is completed in the same way. -/
theorem Completes.congr (agrees : AgreesWithinReach first second) {agenda : List Errand}
    {entered last : ByteSet} {found : List Device}
    (completes : first.Completes agenda entered found last)
    (within : ∀ errand ∈ agenda, first.IsWithinReach errand) :
    second.Completes agenda entered found last := by
  -- Every step of the first completion is one of the second, with an agenda within reach again.
  induction completes with
  | done entered => exact .done entered
  | skip known _ ih => exact .skip known (ih (List.forall_mem_cons.1 within).2)
  | enter unknown _ ih =>
    obtain ⟨above, further⟩ := List.forall_mem_cons.1 within
    have shown := isWithinReach_of_mem_functionsOf above
    have later := ih (List.forall_mem_append.2 ⟨shown, further⟩)
    rw [← agrees.functionsOf_eq above] at later
    exact .enter unknown later
  | @record address _ _ _ _ plain _ ih =>
    obtain ⟨visible, further⟩ := List.forall_mem_cons.1 within
    have alike := agrees.visible visible
    rw [← alike.device_eq]
    exact .record (alike.isBridge_eq.trans plain) (ih further)
  | @descend address _ _ _ _ bridge _ ih =>
    obtain ⟨visible, further⟩ := List.forall_mem_cons.1 within
    have alike := agrees.visible visible
    have below := isWithinReach_secondaryBus visible bridge
    have later := ih (List.forall_mem_cons.2 ⟨below, further⟩)
    rw [← alike.secondaryBus_eq bridge] at later
    rw [← alike.device_eq]
    exact .descend (alike.isBridge_eq.trans bridge) later

/-- Configuration spaces that agree within reach have the same enumeration. -/
theorem enumeration_congr (agrees : AgreesWithinReach first second) :
    second.enumeration = first.enumeration := by
  have completed := first.completes_listRoots first.rootBuses .empty
  have carried := completed.congr agrees first.isWithinReach_of_mem_rootBuses
  have own := second.completes_listRoots second.rootBuses .empty
  rw [agrees.rootBuses_eq] at own
  obtain ⟨found_eq, -⟩ := own.unique carried
  rw [enumeration, agrees.rootBuses_eq, enumeration]
  exact found_eq

/-- What is recorded depends only on the enumeration, and on nothing that an inventory recorded
before. -/
theorem enumerateInto_eq_of_enumeration_eq (same : second.enumeration = first.enumeration)
    (previous other : Inventory) :
    ∃ result recorded otherRecorded,
      first.value (enumerateInto previous) = .ok (result, recorded) ∧
      second.value (enumerateInto other) = .ok (result, otherRecorded) ∧
      otherRecorded.size = recorded.size ∧ otherRecorded.devices = recorded.devices := by
  obtain ⟨recorded, walked, devices_eq⟩ := first.value_enumerateInto previous
  obtain ⟨otherRecorded, otherWalked, other_eq⟩ := second.value_enumerateInto other
  rw [same] at otherWalked other_eq
  have shown : otherRecorded.devices = recorded.devices := other_eq.trans devices_eq.symm
  refine ⟨_, recorded, otherRecorded, walked, otherWalked, ?_, shown⟩
  rw [← otherRecorded.length_devices, shown, recorded.length_devices]

/-- To enumerate once more is to enumerate into a new inventory. -/
theorem enumerateInto_rescan (space : ConfigSpace) (previous : Inventory) :
    ∃ result recorded fresh,
      space.value (enumerateInto previous) = .ok (result, recorded) ∧
      space.value enumerateBuses = .ok (result, fresh) ∧
      fresh.size = recorded.size ∧ fresh.devices = recorded.devices :=
  enumerateInto_eq_of_enumeration_eq rfl previous .empty

/-- **An enumeration depends only on what the buses within reach show.**  Configuration spaces that
agree there give the same result and the same recorded functions, whatever the two inventories
recorded before.  Functions on other buses, registers besides vendor, header, class and the
buses of bridges, and what is left in the slots of an inventory never show, also not if the
walk runs out of room. -/
theorem enumerateInto_congr {first second : ConfigSpace} (agrees : AgreesWithinReach first second)
    (previous other : Inventory) :
    ∃ result recorded otherRecorded,
      first.value (enumerateInto previous) = .ok (result, recorded) ∧
      second.value (enumerateInto other) = .ok (result, otherRecorded) ∧
      otherRecorded.size = recorded.size ∧ otherRecorded.devices = recorded.devices :=
  enumerateInto_eq_of_enumeration_eq (enumeration_congr agrees) previous other

/-- The crossed bridges with other device numbers and base addresses, and with the function on bus 9
turned into a bridge to bus 0. -/
def disguisedBridges : ConfigSpace := fun register =>
  if register.address.bus = 9 then
    if register.offset = classOffset then 0x06040000 else 0
  else if register.offset = vendorOffset then
    crossedBridges register ^^^ 0x5a5a0000
  else if register.offset = 0x10 then
    ~~~crossedBridges register
  else
    crossedBridges register

/-- Away from bus 9 the disguise does not show. -/
theorem showsAlike_disguisedBridges {address : Address} (elsewhere : address.bus ≠ 9) :
    ShowsAlike crossedBridges disguisedBridges address := by
  have same {offset : UInt8} (noVendor : offset ≠ vendorOffset) (noBar : offset ≠ 0x10) :
      disguisedBridges ⟨address, offset⟩ = crossedBridges ⟨address, offset⟩ := by
    simp only [disguisedBridges, if_neg elsewhere, if_neg noVendor, if_neg noBar]
  constructor
  · have shown : disguisedBridges ⟨address, vendorOffset⟩ =
        crossedBridges ⟨address, vendorOffset⟩ ^^^ 0x5a5a0000 := by
      simp only [disguisedBridges, if_neg elsewhere, if_true]
    rw [vendor, shown, UInt32.toUInt16_xor]
    exact UInt16.xor_zero
  · rw [header, same (by decide) (by decide), header]
  · rw [classCode, same (by decide) (by decide), classCode]
  · intro _
    rw [secondaryBus, same (by decide) (by decide), secondaryBus]

/-- Into a full inventory of one function over and over, the disguised bridges are enumerated like
the crossed ones into a new one: the function on bus 9, a bridge now, does not show. -/
theorem enumerateInto_congr_disguisedBridges :
    AgreesWithinReach crossedBridges disguisedBridges ∧
      crossedBridges.isBridge ⟨9, 0, 0⟩ = false ∧ disguisedBridges.isBridge ⟨9, 0, 0⟩ = true ∧
      ∃ result recorded otherRecorded,
        crossedBridges.value (enumerateInto .empty) = .ok (result, recorded) ∧
        disguisedBridges.value
            (enumerateInto (.ofList (.replicate 32 (crossedBridges.device ⟨9, 0, 0⟩)))) =
          .ok (result, otherRecorded) ∧
        otherRecorded.size = recorded.size ∧ otherRecorded.devices = recorded.devices := by
  have unreachable : ¬ crossedBridges.IsReachable 9 := by decide +kernel
  have agrees : AgreesWithinReach crossedBridges disguisedBridges := by
    intro address reachable _ _
    refine showsAlike_disguisedBridges fun onBus => ?_
    rw [onBus] at reachable
    exact unreachable reachable
  exact ⟨agrees, by decide, by decide, enumerateInto_congr agrees _ _⟩

end KernelStart.Pci.ConfigSpace
