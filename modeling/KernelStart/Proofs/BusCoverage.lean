import KernelStart.Proofs.BusWalkOrder

/-!
# What an enumeration covers

A bus can be announced by several bridges, a bridge can point back at a bus that was
already walked, and the buses behind bridges become known only while the walk goes on.
Still every visible function is recorded once, and nothing else is.

The argument goes through the agenda of an enumeration.  What completing an agenda
records are the functions that were on it, and those shown by the buses that were entered
on the way (`Completes.mem_iff`); no function is recorded twice (`Completes.nodup`).  Every
bus that is asked for gets entered, behind a recorded bridge as well (`Completes.contains_of_enter`,
`Completes.closed`), and every bus that gets entered was announced (`Completes.reachable`).
Starting from the root buses this makes the entered buses exactly the reachable ones.
-/

set_option autoImplicit false

namespace KernelStart.Pci.ConfigSpace

variable {space : ConfigSpace}

/-! ## The functions that a bus shows -/

/-- What the list of functions of a bus holds. -/
theorem mem_functionsOf {bus : UInt8} {address : Address} :
    address ∈ space.functionsOf bus ↔ address.bus = bus ∧ space.Shows address := by
  have function_zero (first : address.function = 0) : address.withFunction 0 = address := by
    rw [Address.withFunction, ← first]
  simp only [functionsOf_eq_filter, List.mem_filter, mem_looksOn, Shows, hasSeveral,
    Bool.and_eq_true, Bool.not_eq_true']
  constructor
  · rintro ⟨⟨sameBus, onBus, small, first | ⟨present, several⟩⟩, answers⟩
    · exact ⟨sameBus, onBus, small, (function_zero first).symm ▸ answers, .inl first⟩
    · exact ⟨sameBus, onBus, small, present, .inr ⟨several, answers⟩⟩
  · rintro ⟨sameBus, onBus, small, present, first | ⟨several, answers⟩⟩
    · exact ⟨⟨sameBus, onBus, small, .inl first⟩, function_zero first ▸ present⟩
    · exact ⟨⟨sameBus, onBus, small, .inr ⟨present, several⟩⟩, answers⟩

/-- A bus shows no function twice. -/
theorem nodup_functionsOf (space : ConfigSpace) (bus : UInt8) :
    (space.functionsOf bus).Nodup := by
  rw [functionsOf_eq_filter]
  exact (space.nodup_looksOn bus).filter _

/-! ## Errands within reach -/

/-- Whether an errand stays within reach: the bus to enter can be reached, the function to record
is visible. -/
def IsWithinReach (space : ConfigSpace) : Errand → Prop
  | .enter bus => space.IsReachable bus
  | .record address => space.IsVisible address

/-- The functions that a reachable bus shows are within reach. -/
theorem isWithinReach_of_mem_functionsOf {bus : UInt8} (above : space.IsReachable bus) :
    ∀ errand ∈ (space.functionsOf bus).map .record, space.IsWithinReach errand := by
  intro errand asked
  obtain ⟨address, onBus, rfl⟩ := List.mem_map.1 asked
  obtain ⟨sameBus, shown⟩ := mem_functionsOf.1 onBus
  exact ⟨sameBus ▸ above, shown⟩

/-- The bus behind a bridge within reach is within reach. -/
theorem isWithinReach_secondaryBus {address : Address}
    (visible : space.IsWithinReach (.record address)) (bridge : space.isBridge address = true) :
    space.IsWithinReach (.enter (space.secondaryBus address)) :=
  .behind visible.1 visible.2 bridge

/-! ## What completing an agenda records -/

namespace Completes

variable {agenda : List Errand} {entered last : ByteSet} {found : List Device}

/-- Buses stay entered. -/
theorem entered_mono (completes : space.Completes agenda entered found last) {bus : UInt8}
    (known : entered.contains bus = true) : last.contains bus = true := by
  induction completes with
  | done _ => exact known
  | skip _ _ ih => exact ih known
  | enter _ _ ih => exact ih (by simp [known])
  | record _ _ ih => exact ih known
  | descend _ _ ih => exact ih known

/-- A bus that is to be entered is. -/
theorem contains_of_enter (completes : space.Completes agenda entered found last) {bus : UInt8}
    (asked : .enter bus ∈ agenda) : last.contains bus = true := by
  induction completes with
  | done _ => cases asked
  | skip known later ih =>
    rcases List.mem_cons.1 asked with same | further
    · obtain rfl : bus = _ := Errand.enter.inj same
      exact later.entered_mono known
    · exact ih further
  | enter _ later ih =>
    rcases List.mem_cons.1 asked with same | further
    · obtain rfl : bus = _ := Errand.enter.inj same
      exact later.entered_mono (by simp)
    · exact ih (List.mem_append_right _ further)
  | record _ _ ih =>
    rcases List.mem_cons.1 asked with same | further
    · cases same
    · exact ih further
  | descend _ _ ih =>
    rcases List.mem_cons.1 asked with same | further
    · cases same
    · exact ih (List.mem_cons_of_mem _ further)

/-- Behind every recorded bridge the bus is entered. -/
theorem closed (completes : space.Completes agenda entered found last) {address : Address}
    (recorded : address ∈ found.map (·.address)) (bridge : space.isBridge address = true) :
    last.contains (space.secondaryBus address) = true := by
  induction completes with
  | done _ => cases recorded
  | skip _ _ ih => exact ih recorded
  | enter _ _ ih => exact ih recorded
  | record plain _ ih =>
    rcases List.mem_cons.1 recorded with same | further
    · subst same
      exact absurd (bridge.symm.trans plain) (by decide)
    · exact ih further
  | descend _ later ih =>
    rcases List.mem_cons.1 recorded with same | further
    · subst same
      exact later.contains_of_enter (List.mem_cons_self ..)
    · exact ih further

/-- Only buses that can be reached are entered, if the agenda asks for nothing out of reach. -/
theorem reachable (completes : space.Completes agenda entered found last)
    (within : ∀ errand ∈ agenda, space.IsWithinReach errand) {bus : UInt8}
    (inside : last.contains bus = true) :
    entered.contains bus = true ∨ space.IsReachable bus := by
  -- Recording a bridge is where a bus gets onto the agenda that was not there before.
  induction completes with
  | done _ => exact .inl inside
  | skip _ _ ih => exact ih (List.forall_mem_cons.1 within).2 inside
  | @enter asked _ _ _ _ _ _ ih =>
    obtain ⟨above, further⟩ := List.forall_mem_cons.1 within
    have shown := isWithinReach_of_mem_functionsOf above
    rcases ih (List.forall_mem_append.2 ⟨shown, further⟩) inside with known | reached
    · rw [ByteSet.contains_insert, Bool.or_eq_true, beq_iff_eq] at known
      rcases known with rfl | known
      · exact .inr above
      · exact .inl known
    · exact .inr reached
  | record _ _ ih => exact ih (List.forall_mem_cons.1 within).2 inside
  | descend bridge _ ih =>
    obtain ⟨visible, further⟩ := List.forall_mem_cons.1 within
    have below := isWithinReach_secondaryBus visible bridge
    exact ih (List.forall_mem_cons.2 ⟨below, further⟩) inside

/-- What is recorded was on the agenda, or is shown by a bus that was entered on the way. -/
theorem mem_iff (completes : space.Completes agenda entered found last) (address : Address) :
    address ∈ found.map (·.address) ↔
      .record address ∈ agenda ∨
        entered.contains address.bus = false ∧ last.contains address.bus = true ∧
          space.Shows address := by
  induction completes with
  | done entered =>
    constructor
    · intro recorded
      cases recorded
    · rintro (asked | ⟨outside, inside, _⟩)
      · cases asked
      · exact absurd (inside.symm.trans outside) (by decide)
  | skip _ _ ih =>
    rw [ih, List.mem_cons, or_iff_right (a := Errand.record address = _) (by simp)]
  | @enter bus rest entered last found unknown later ih =>
    rw [ih, List.mem_cons, or_iff_right (a := Errand.record address = _) (by simp),
      List.mem_append, Errand.record_mem_map, mem_functionsOf, ByteSet.contains_insert]
    have inside : last.contains bus = true := later.entered_mono (by simp)
    -- The functions of the bus move from the buses still to be entered to the agenda.
    by_cases sameBus : address.bus = bus
    · subst sameBus
      simp [inside, unknown, or_comm]
    · simp [sameBus]
  | @record head rest _ _ _ _ _ ih =>
    rw [List.map_cons, List.mem_cons, ih, List.mem_cons, Errand.record.injEq, or_assoc]
    rfl
  | @descend head rest _ _ _ _ _ ih =>
    rw [List.map_cons, List.mem_cons, ih, List.mem_cons, List.mem_cons, Errand.record.injEq,
      or_iff_right (a := Errand.record address = Errand.enter _) (by simp)]
    exact or_assoc.symm

/-- A function of a bus that was entered is recorded only if the agenda asks for it. -/
theorem not_mem (completes : space.Completes agenda entered found last) {address : Address}
    (known : entered.contains address.bus = true) (notAsked : .record address ∉ agenda) :
    address ∉ found.map (·.address) := by
  rw [completes.mem_iff]
  rintro (asked | ⟨outside, _⟩)
  · exact notAsked asked
  · exact absurd (known.symm.trans outside) (by decide)

/-- The functions on an agenda, in order. -/
def functionsOn (agenda : List Errand) : List Address :=
  agenda.filterMap fun errand => match errand with
    | .enter _ => none
    | .record address => some address

/-- What is to be recorded first stands at the front. -/
theorem functionsOn_record_append (addresses : List Address) (rest : List Errand) :
    functionsOn (addresses.map .record ++ rest) = addresses ++ functionsOn rest := by
  induction addresses with
  | nil => rfl
  | cons address addresses ih => exact congrArg (address :: ·) ih

/-- Buses to enter are no functions. -/
theorem functionsOn_enter (buses : List UInt8) : functionsOn (buses.map .enter) = [] := by
  induction buses with
  | nil => rfl
  | cons bus buses ih => exact ih

theorem mem_functionsOn {agenda : List Errand} {address : Address} :
    address ∈ functionsOn agenda ↔ .record address ∈ agenda := by
  simp only [functionsOn, List.mem_filterMap]
  constructor
  · rintro ⟨errand, asked, same⟩
    cases errand with
    | enter _ => cases same
    | record _ =>
      cases same
      exact asked
  · intro asked
    exact ⟨_, asked, rfl⟩

/-- No function is recorded twice, if the agenda asks for none twice, and only for functions of
buses that were entered. -/
theorem nodup (completes : space.Completes agenda entered found last)
    (once : (functionsOn agenda).Nodup)
    (known : ∀ address, .record address ∈ agenda → entered.contains address.bus = true) :
    (found.map (·.address)).Nodup := by
  induction completes with
  | done _ => exact List.nodup_nil
  | skip _ _ ih =>
    exact ih once fun address asked => known address (List.mem_cons_of_mem _ asked)
  | @enter bus rest entered _ _ unknown _ ih =>
    have further (address : Address) (asked : .record address ∈ rest) :
        entered.contains address.bus = true := known address (List.mem_cons_of_mem _ asked)
    refine ih ?_ fun address asked => ?_
    -- A function on the agenda lies on a bus that was entered, so not on this one.
    · rw [functionsOn_record_append, List.nodup_append]
      refine ⟨nodup_functionsOf space bus, once, ?_⟩
      rintro address onBus _ asked rfl
      have sameBus := (mem_functionsOf.1 onBus).1
      have inside := further address (mem_functionsOn.1 asked)
      rw [sameBus] at inside
      exact absurd (inside.symm.trans unknown) (by decide)
    · rcases List.mem_append.1 asked with onBus | asked
      · have sameBus := (mem_functionsOf.1 (Errand.record_mem_map.1 onBus)).1
        simp [sameBus]
      · simp [further address asked]
  | record _ later ih =>
    obtain ⟨notLater, once⟩ := List.nodup_cons.1 once
    have inside := known _ (List.mem_cons_self ..)
    have notAgain := later.not_mem inside fun asked => notLater (mem_functionsOn.2 asked)
    exact List.nodup_cons.2 ⟨notAgain, ih once fun address asked =>
      known address (List.mem_cons_of_mem _ asked)⟩
  | @descend head rest _ _ _ _ later ih =>
    have onward (address : Address)
        (asked : .record address ∈ Errand.enter (space.secondaryBus head) :: rest) :
        .record address ∈ rest := by
      simpa using asked
    obtain ⟨notLater, once⟩ := List.nodup_cons.1 once
    have inside := known _ (List.mem_cons_self ..)
    have notAgain := later.not_mem inside fun asked =>
      notLater (mem_functionsOn.2 (onward head asked))
    exact List.nodup_cons.2 ⟨notAgain, ih once fun address asked =>
      known address (List.mem_cons_of_mem _ (onward address asked))⟩

end Completes

/-! ## What the enumeration from the root buses records -/

/-- The root buses are bus 0 and the buses of further functions of a host bridge that has
several. -/
theorem mem_rootBuses {bus : UInt8} :
    bus ∈ space.rootBuses ↔
      bus = 0 ∨ isSingleFunction (space.header ⟨0, 0, 0⟩) = false ∧ bus ∈ rootFunctions ∧
        space.isPresent ⟨0, 0, bus⟩ = true := by
  unfold rootBuses
  by_cases single : isSingleFunction (space.header ⟨0, 0, 0⟩) = true
  · rw [if_pos single, List.mem_singleton, single]
    exact (or_iff_left fun several => absurd several.1 (by decide)).symm
  · rw [if_neg single, List.mem_cons, List.mem_filter]
    exact or_congr_right (and_iff_right (Bool.eq_false_iff.2 single)).symm

/-- Every root bus can be reached. -/
theorem isReachable_of_mem_rootBuses {bus : UInt8} (root : bus ∈ space.rootBuses) :
    space.IsReachable bus := by
  rcases mem_rootBuses.1 root with rfl | ⟨several, further, present⟩
  · exact .zero
  · exact .hostFunction further several present

/-- To enter the root buses is within reach. -/
theorem isWithinReach_of_mem_rootBuses (space : ConfigSpace) :
    ∀ errand ∈ space.rootBuses.map .enter, space.IsWithinReach errand := by
  intro errand asked
  obtain ⟨bus, root, rfl⟩ := List.mem_map.1 asked
  exact isReachable_of_mem_rootBuses root

/-- Completing the agenda of the root buses enters exactly the buses that can be reached. -/
theorem Completes.contains_iff_isReachable {found : List Device} {last : ByteSet}
    (completes : space.Completes (space.rootBuses.map .enter) .empty found last) (bus : UInt8) :
    last.contains bus = true ↔ space.IsReachable bus := by
  have root (bus : UInt8) (isRoot : bus ∈ space.rootBuses) : last.contains bus = true :=
    completes.contains_of_enter (Errand.enter_mem_map.2 isRoot)
  constructor
  · intro inside
    rcases completes.reachable space.isWithinReach_of_mem_rootBuses inside with known | reached
    · exact absurd (known.symm.trans (ByteSet.contains_empty bus)) (by decide)
    · exact reached
  · intro reachable
    induction reachable with
    | zero => exact root 0 (mem_rootBuses.2 (.inl rfl))
    | hostFunction further several present =>
      exact root _ (mem_rootBuses.2 (.inr ⟨several, further, present⟩))
    | behind _ shown bridge ih =>
      exact completes.closed ((completes.mem_iff _).2 (.inr ⟨rfl, ih, shown⟩)) bridge

/-- The enumeration enters exactly the buses that can be reached. -/
theorem contains_enteredBuses (space : ConfigSpace) (bus : UInt8) :
    space.enteredBuses.contains bus = true ↔ space.IsReachable bus :=
  (space.completes_listRoots space.rootBuses .empty).contains_iff_isReachable bus

/-- Whether a bus can be reached is decided by the enumeration. -/
instance (space : ConfigSpace) : DecidablePred space.IsReachable := fun bus =>
  decidable_of_iff _ (space.contains_enteredBuses bus)

/-- The enumeration lists exactly the visible functions. -/
theorem mem_enumeration (space : ConfigSpace) (address : Address) :
    address ∈ space.enumeration.map (·.address) ↔ space.IsVisible address := by
  have completes := space.completes_listRoots space.rootBuses .empty
  have inside := completes.contains_iff_isReachable address.bus
  rw [enumeration, completes.mem_iff, inside]
  constructor
  · rintro (asked | ⟨-, visible⟩)
    · simp at asked
    · exact visible
  · intro visible
    exact .inr ⟨rfl, visible⟩

/-- The enumeration lists no function twice. -/
theorem nodup_enumeration (space : ConfigSpace) :
    (space.enumeration.map (·.address)).Nodup := by
  have completes := space.completes_listRoots space.rootBuses .empty
  refine completes.nodup ?_ fun address asked => ?_
  · rw [Completes.functionsOn_enter]
    exact List.nodup_nil
  · simp at asked

/-- A function that is shown answers. -/
theorem Shows.isPresent {address : Address} (shown : space.Shows address) :
    space.isPresent address = true := by
  obtain ⟨-, -, present, first | ⟨-, answers⟩⟩ := shown
  · rw [Address.withFunction, ← first] at present
    exact present
  · exact answers

/-- **A walk that finishes has recorded every visible function once, and nothing else.**  The
bridges may form chains and cycles, share a bus or point back at a root bus. -/
theorem enumerateInto_covers {previous inventory : Inventory}
    (finished : space.value (enumerateInto previous) = .ok (.ok (), inventory)) :
    (inventory.devices.map (·.address)).Nodup ∧
      (∀ address, address ∈ inventory.devices.map (·.address) ↔
        space.IsReachable address.bus ∧ space.Shows address) ∧
      ∀ address ∈ inventory.devices.map (·.address), space.vendor address ≠ absentVendor := by
  have devices_eq : inventory.devices = space.enumeration := by
    obtain ⟨reached, walked, devices_eq⟩ := space.value_enumerateInto previous
    rw [finished, Except.ok.injEq, Prod.mk.injEq] at walked
    obtain ⟨result, rfl⟩ := walked
    by_cases fits : space.enumeration.length ≤ Inventory.capacity
    · rw [devices_eq, List.take_of_length_le fits]
    · rw [if_neg fits] at result
      cases result
  rw [devices_eq]
  refine ⟨space.nodup_enumeration, space.mem_enumeration, fun address recorded => ?_⟩
  have visible := (space.mem_enumeration address).1 recorded
  exact (space.isPresent_iff address).1 visible.2.isPresent

/-- A host bridge with two functions, two bridges to bus 2, one to the root bus 1, one back to
bus 0, and a function on bus 9 that nothing leads to. -/
def crossedBridges : ConfigSpace :=
  (RegisterFile.ofList
    [ ⟨⟨0, 0, 0⟩, 0x8086, 1, ⟨0x06, 0x00, 0x00⟩, 0x80, []⟩,
      ⟨⟨0, 0, 1⟩, 0x8086, 1, ⟨0x06, 0x00, 0x00⟩, 0x80, []⟩,
      ⟨⟨0, 1, 0⟩, 0x8086, 2, ⟨0x06, 0x04, 0x00⟩, 0x01, [(busNumbersOffset, 0x00000200)]⟩,
      ⟨⟨0, 2, 0⟩, 0x8086, 2, ⟨0x06, 0x04, 0x00⟩, 0x01, [(busNumbersOffset, 0x00000200)]⟩,
      ⟨⟨0, 3, 0⟩, 0x8086, 2, ⟨0x06, 0x04, 0x00⟩, 0x01, [(busNumbersOffset, 0x00000100)]⟩,
      ⟨⟨1, 4, 0⟩, 0x1b36, 3, ⟨0x0c, 0x03, 0x30⟩, 0x00, []⟩,
      ⟨⟨2, 0, 0⟩, 0x8086, 2, ⟨0x06, 0x04, 0x00⟩, 0x01, [(busNumbersOffset, 0x00000000)]⟩,
      ⟨⟨9, 0, 0⟩, 0x1b36, 3, ⟨0x0c, 0x03, 0x30⟩, 0x00, []⟩ ]).content

/-- The walk over the crossed bridges finishes, and records each of the seven functions that are
visible there once. -/
theorem enumerateInto_covers_crossedBridges :
    ∃ inventory, crossedBridges.value (enumerateInto .empty) = .ok (.ok (), inventory) ∧
      inventory.devices.map (·.address) =
        [⟨0, 0, 0⟩, ⟨0, 0, 1⟩, ⟨0, 1, 0⟩, ⟨2, 0, 0⟩, ⟨0, 2, 0⟩, ⟨0, 3, 0⟩, ⟨1, 4, 0⟩] ∧
      (inventory.devices.map (·.address)).Nodup ∧
      (∀ address, address ∈ inventory.devices.map (·.address) ↔
        crossedBridges.IsReachable address.bus ∧ crossedBridges.Shows address) ∧
      ∀ address ∈ inventory.devices.map (·.address),
        crossedBridges.vendor address ≠ absentVendor := by
  have listed : crossedBridges.enumeration.map (·.address) =
      [⟨0, 0, 0⟩, ⟨0, 0, 1⟩, ⟨0, 1, 0⟩, ⟨2, 0, 0⟩, ⟨0, 2, 0⟩, ⟨0, 3, 0⟩, ⟨1, 4, 0⟩] := by
    decide +kernel
  have fits : crossedBridges.enumeration.length ≤ Inventory.capacity := by
    rw [← List.length_map (·.address), listed]
    decide
  obtain ⟨inventory, walked, devices_eq⟩ := crossedBridges.value_enumerateInto .empty
  rw [if_pos fits] at walked
  rw [List.take_of_length_le fits] at devices_eq
  exact ⟨inventory, walked, by rw [devices_eq, listed], enumerateInto_covers walked⟩

end KernelStart.Pci.ConfigSpace
