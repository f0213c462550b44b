import KernelStart.Proofs.BusCoverage

/-!
# Which recorded function announces a bus

A function on a bus other than bus 0 can be recorded only because something led the walk to
that bus.  Mostly this is a function that was recorded before: a bridge to the bus, or the
function of a host bridge with several functions that owns the bus (`IsAnnounced`).

There is one way to a bus that leaves no such trace.  Whether the host bridge has several
functions is read from its header, and a host bridge that is absent reads as all ones, as one
that has several.  A function of its device that answers then owns a root bus without being
recorded itself (`IsStrayRoot`).

Every recorded function on a further bus has one of these reasons, at the place where it is
recorded (`enumeration_hasReasons`).  So what an enumeration records announces all its buses
exactly as long as there is no stray root (`enumerateInto_announces_iff`).
-/

set_option autoImplicit false

namespace KernelStart.Pci.ConfigSpace

/-! ## Reasons to walk a bus -/

/-- Recorded functions announce a bus: a bridge to it, or a host bridge with several functions
together with the one of them that owns the bus. -/
def IsAnnounced (space : ConfigSpace) (recorded : List Device) (bus : UInt8) : Prop :=
  (∃ device ∈ recorded, device.classCode.isBridge = true ∧
      space.secondaryBus device.address = bus) ∨
    bus ∈ rootFunctions ∧
      (∃ host ∈ recorded, host.address = ⟨0, 0, 0⟩ ∧ isSingleFunction host.header = false) ∧
      ∃ device ∈ recorded, device.address = ⟨0, 0, bus⟩

/-- Every recorded function on a bus other than bus 0 comes behind functions that announce the
bus. -/
def Announces (space : ConfigSpace) (recorded : List Device) : Prop :=
  ∀ early device late, recorded = early ++ device :: late → device.address.bus ≠ 0 →
    space.IsAnnounced early device.address.bus

/-- A root bus of a function that answers although its device is not there: the host bridge is
absent, and what is read in place of its header announces several functions. -/
def IsStrayRoot (space : ConfigSpace) (bus : UInt8) : Prop :=
  bus ∈ rootFunctions ∧ space.isPresent ⟨0, 0, 0⟩ = false ∧
    isSingleFunction (space.header ⟨0, 0, 0⟩) = false ∧ space.isPresent ⟨0, 0, bus⟩ = true

/-- There is a reason to walk a bus once these functions were recorded. -/
def HasReason (space : ConfigSpace) (recorded : List Device) (bus : UInt8) : Prop :=
  bus = 0 ∨ space.IsAnnounced recorded bus ∨ space.IsStrayRoot bus

/-- Behind what was recorded before, each of the functions has a reason where it is recorded. -/
def HasReasons (space : ConfigSpace) (recorded found : List Device) : Prop :=
  ∀ early device late, found = early ++ device :: late →
    space.HasReason (recorded ++ early) device.address.bus

variable {space : ConfigSpace} {recorded found : List Device}

theorem IsAnnounced.append {bus : UInt8} (announced : space.IsAnnounced recorded bus)
    (more : List Device) : space.IsAnnounced (recorded ++ more) bus := by
  rcases announced with ⟨bridge, known, leads⟩ |
    ⟨further, ⟨host, knownHost, isHost⟩, own, known, is⟩
  · exact .inl ⟨bridge, List.mem_append_left _ known, leads⟩
  · exact .inr ⟨further, ⟨host, List.mem_append_left _ knownHost, isHost⟩, own,
      List.mem_append_left _ known, is⟩

theorem HasReason.append {bus : UInt8} (reason : space.HasReason recorded bus)
    (more : List Device) : space.HasReason (recorded ++ more) bus := by
  rcases reason with zero | announced | stray
  · exact .inl zero
  · exact .inr (.inl (announced.append more))
  · exact .inr (.inr stray)

namespace HasReasons

theorem nil (space : ConfigSpace) (recorded : List Device) : space.HasReasons recorded [] := by
  intro early device late split
  simp at split

/-- A function with a reason is known to the ones behind it. -/
theorem cons {device : Device} (reason : space.HasReason recorded device.address.bus)
    (later : space.HasReasons (recorded ++ [device]) found) :
    space.HasReasons recorded (device :: found) := by
  intro early other late split
  rcases List.cons_eq_append_iff.1 split with ⟨rfl, first⟩ | ⟨rest, rfl, onward⟩
  · obtain rfl : other = device := (List.cons.inj first).1
    exact reason.append []
  · have further := later rest other late onward
    rwa [List.append_assoc] at further

theorem append {more : List Device} (first : space.HasReasons recorded found)
    (second : space.HasReasons (recorded ++ found) more) :
    space.HasReasons recorded (found ++ more) := by
  induction found generalizing recorded with
  | nil => rwa [List.append_nil] at second
  | cons device rest ih =>
    have reason : space.HasReason (recorded ++ []) device.address.bus := first [] device rest rfl
    rw [List.append_nil] at reason
    refine cons reason (ih (fun early other late split => ?_) ?_)
    · have further := first (device :: early) other late (congrArg (device :: ·) split)
      rwa [List.append_assoc]
    · rwa [List.append_assoc]

/-- What is recorded first does not depend on what comes later. -/
theorem take (reasons : space.HasReasons recorded found) (count : Nat) :
    space.HasReasons recorded (found.take count) := by
  intro early device late split
  refine reasons early device (late ++ found.drop count) ?_
  rw [← List.cons_append, ← List.append_assoc, ← split, List.take_append_drop]

end HasReasons

/-! ## Reasons while an agenda is completed -/

namespace Completes

variable {agenda : List Errand} {entered last : ByteSet}

/-- A recorded function is recorded as it reads. -/
theorem eq_device (completes : space.Completes agenda entered found last) :
    ∀ device ∈ found, device = space.device device.address := by
  induction completes with
  | done _ => exact fun _ recorded => nomatch recorded
  | skip _ _ ih => exact ih
  | enter _ _ ih => exact ih
  | record _ _ ih => exact List.forall_mem_cons.2 ⟨rfl, ih⟩
  | descend _ _ ih => exact List.forall_mem_cons.2 ⟨rfl, ih⟩

/-- If there are reasons for the whole agenda, there are for all that completing it records. -/
theorem hasReasons (completes : space.Completes agenda entered found last)
    (buses : ∀ bus, .enter bus ∈ agenda → space.HasReason recorded bus)
    (functions : ∀ address, .record address ∈ agenda → space.HasReason recorded address.bus) :
    space.HasReasons recorded found := by
  induction completes generalizing recorded with
  | done _ => exact .nil space recorded
  | skip _ _ ih =>
    exact ih (fun bus asked => buses bus (List.mem_cons_of_mem _ asked))
      fun address asked => functions address (List.mem_cons_of_mem _ asked)
  | enter _ _ ih =>
    have own := buses _ (List.mem_cons_self ..)
    refine ih (fun bus asked => ?_) fun address asked => ?_
    · rcases List.mem_append.1 asked with shown | further
      · obtain ⟨_, _, same⟩ := List.mem_map.1 shown
        cases same
      · exact buses bus (List.mem_cons_of_mem _ further)
    · rcases List.mem_append.1 asked with shown | further
      · rw [(mem_functionsOf.1 (Errand.record_mem_map.1 shown)).1]
        exact own
      · exact functions address (List.mem_cons_of_mem _ further)
  | record _ _ ih =>
    have own := functions _ (List.mem_cons_self ..)
    refine .cons own (ih (fun bus asked => ?_) fun address asked => ?_)
    · exact (buses bus (List.mem_cons_of_mem _ asked)).append _
    · exact (functions address (List.mem_cons_of_mem _ asked)).append _
  | @descend bridge _ _ _ _ isBridge _ ih =>
    have own := functions _ (List.mem_cons_self ..)
    -- The bridge that was just recorded announces the bus that is to be entered next.
    have behind (earlier : List Device) :
        space.IsAnnounced (earlier ++ [space.device bridge]) (space.secondaryBus bridge) :=
      .inl ⟨space.device bridge, by simp, isBridge, rfl⟩
    refine .cons own (ih (fun bus asked => ?_) fun address asked => ?_)
    · rcases List.mem_cons.1 asked with same | further
      · obtain rfl : bus = _ := Errand.enter.inj same
        exact .inr (.inl (behind _))
      · exact (buses bus (List.mem_cons_of_mem _ further)).append _
    · rcases List.mem_cons.1 asked with same | further
      · cases same
      · exact (functions address (List.mem_cons_of_mem _ further)).append _

end Completes

/-! ## Reasons for the root buses -/

/-- Once bus 0 is done, each function of a host bridge with several owns a bus with a reason: if
the host bridge is there, it was recorded, and so was the function. -/
theorem hasReason_of_root {entered : ByteSet} {bus : UInt8}
    (completes : space.Completes [.enter 0] .empty found entered)
    (further : bus ∈ rootFunctions)
    (several : isSingleFunction (space.header ⟨0, 0, 0⟩) = false)
    (answers : space.isPresent ⟨0, 0, bus⟩ = true) : space.HasReason found bus := by
  cases present : space.isPresent ⟨0, 0, 0⟩ with
  | false => exact .inr (.inr ⟨further, present, several, answers⟩)
  | true =>
    have inside : entered.contains 0 = true := completes.contains_of_enter (List.mem_cons_self ..)
    have mem_found {address : Address} (onBus : address.bus = 0) (shown : space.Shows address) :
        ∃ device ∈ found, device.address = address := by
      have recorded := (completes.mem_iff address).2
        (.inr ⟨ByteSet.contains_empty _, onBus ▸ inside, shown⟩)
      exact List.mem_map.1 recorded
    obtain ⟨host, hostFound, isHost⟩ : ∃ host ∈ found, host.address = ⟨0, 0, 0⟩ :=
      mem_found rfl ⟨by decide, by decide, present, .inl rfl⟩
    have hostSeveral : isSingleFunction host.header = false := by
      rw [completes.eq_device host hostFound, isHost]
      exact several
    exact .inr (.inl (.inr ⟨further, ⟨host, hostFound, isHost, hostSeveral⟩,
      mem_found rfl ⟨Nat.zero_lt_succ _, toNat_lt_of_mem_rootFunctions further, present,
        .inr ⟨several, answers⟩⟩⟩))

/-- Bus 0 is the first root bus, and the others belong to functions of a host bridge that has
several. -/
theorem rootBuses_eq_cons (space : ConfigSpace) :
    ∃ rest, space.rootBuses = 0 :: rest ∧ ∀ bus ∈ rest, bus ∈ rootFunctions ∧
      isSingleFunction (space.header ⟨0, 0, 0⟩) = false ∧ space.isPresent ⟨0, 0, bus⟩ = true := by
  unfold rootBuses
  split
  · exact ⟨[], rfl, fun _ none => nomatch none⟩
  · next several =>
    refine ⟨_, rfl, fun bus kept => ?_⟩
    obtain ⟨further, answers⟩ := List.mem_filter.1 kept
    exact ⟨further, Bool.eq_false_iff.2 several, answers⟩

/-- Every function that the enumeration lists has a reason where it is listed. -/
theorem enumeration_hasReasons (space : ConfigSpace) : space.HasReasons [] space.enumeration := by
  obtain ⟨rest, roots_eq, further⟩ := space.rootBuses_eq_cons
  have first := space.completes_enter 0 (ByteSet.free_le .empty)
  have others := space.completes_listRoots rest (space.listBus busCount 0 .empty).2
  rw [enumeration, roots_eq, listRoots_cons]
  refine .append (first.hasReasons (fun bus asked => ?_) fun address asked => ?_)
    (others.hasReasons (fun bus asked => ?_) fun address asked => ?_)
  · rw [List.mem_singleton, Errand.enter.injEq] at asked
    exact .inl asked
  · simp at asked
  · obtain ⟨isFunction, several, answers⟩ := further bus (Errand.enter_mem_map.1 asked)
    exact hasReason_of_root first isFunction several answers
  · simp at asked

/-- **What an enumeration records announces every bus but stray roots.**  However it ends, each
recorded function on a bus other than bus 0 comes behind a bridge to the bus, or behind the host
bridge and the function of it that owns the bus, unless the bus is a stray root.  So recorded
functions are announced throughout, and without a host bridge there is no root bus but bus 0,
exactly if the space has no stray root. -/
theorem enumerateInto_announces_iff (space : ConfigSpace) :
    (∀ previous result inventory,
        space.value (enumerateInto previous) = .ok (result, inventory) →
          ∀ early device late, inventory.devices = early ++ device :: late →
            device.address.bus ≠ 0 → space.IsAnnounced early device.address.bus ∨
              space.IsStrayRoot device.address.bus) ∧
      (((∀ previous result inventory,
          space.value (enumerateInto previous) = .ok (result, inventory) →
            space.Announces inventory.devices) ∧
          (space.isPresent ⟨0, 0, 0⟩ = false → space.rootBuses = [0])) ↔
        ∀ bus, ¬space.IsStrayRoot bus) := by
  have reasons (previous : Inventory) (result : Except Failure Unit) (inventory : Inventory)
      (ended : space.value (enumerateInto previous) = .ok (result, inventory)) :
      ∀ early device late, inventory.devices = early ++ device :: late →
        device.address.bus ≠ 0 → space.IsAnnounced early device.address.bus ∨
          space.IsStrayRoot device.address.bus := by
    intro early device late split further
    obtain ⟨reached, walked, devices_eq⟩ := space.value_enumerateInto previous
    rw [ended, Except.ok.injEq, Prod.mk.injEq] at walked
    obtain ⟨-, rfl⟩ := walked
    rw [devices_eq] at split
    have reason := space.enumeration_hasReasons.take Inventory.capacity early device late split
    exact reason.resolve_left further
  refine ⟨reasons, fun ⟨_, single⟩ bus stray => ?_, fun none => ⟨?_, fun absent => ?_⟩⟩
  · obtain ⟨further, absent, several, answers⟩ := stray
    have root := mem_rootBuses.2 (.inr ⟨several, further, answers⟩)
    rw [single absent, List.mem_singleton] at root
    subst root
    exact absurd further (by decide)
  · intro previous result inventory ended early device late split further
    exact (reasons previous result inventory ended early device late split further).resolve_right
      (none _)
  · obtain ⟨rest, roots_eq, owned⟩ := space.rootBuses_eq_cons
    cases rest with
    | nil => exact roots_eq
    | cons bus _ =>
      obtain ⟨further, several, answers⟩ := owned bus (List.mem_cons_self ..)
      exact absurd ⟨further, absent, several, answers⟩ (none bus)

/-- Function 3 of a host bridge that is absent otherwise, and a function on bus 3. -/
def loneHostFunction : ConfigSpace :=
  (RegisterFile.ofList
    [ ⟨⟨0, 0, 3⟩, 0x8086, 1, ⟨0x06, 0x00, 0x00⟩, 0x00, []⟩,
      ⟨⟨3, 0, 0⟩, 0x1b36, 13, ⟨0x02, 0x00, 0x00⟩, 0x00, []⟩ ]).content

/-- Behind a lone function of an absent host bridge a bus is walked that nothing announces. -/
theorem enumerateInto_unannounced_loneHostFunction :
    ∃ inventory, loneHostFunction.value (enumerateInto .empty) = .ok (.ok (), inventory) ∧
      inventory.devices.map (·.address) = [⟨3, 0, 0⟩] ∧
      ¬loneHostFunction.Announces inventory.devices ∧
      loneHostFunction.isPresent ⟨0, 0, 0⟩ = false ∧ loneHostFunction.rootBuses = [0, 3] := by
  have listed : loneHostFunction.enumeration = [loneHostFunction.device ⟨3, 0, 0⟩] := by
    decide +kernel
  obtain ⟨inventory, walked, devices_eq⟩ := loneHostFunction.value_enumerateInto .empty
  rw [listed] at walked devices_eq
  have unannounced : ¬loneHostFunction.Announces inventory.devices := by
    intro announces
    rcases announces [] _ [] devices_eq (by decide) with ⟨_, none, _⟩ | ⟨_, ⟨_, none, _⟩, _⟩
    · cases none
    · cases none
  exact ⟨inventory, walked, by rw [devices_eq]; rfl, unannounced, by decide, by decide⟩

end KernelStart.Pci.ConfigSpace
