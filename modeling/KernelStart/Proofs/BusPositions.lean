import KernelStart.Pci.WalkReads

/-!
# What a walk still meets on a bus

A walk goes through a bus position by position.  Where it goes on from a position depends
on what it meets there: without function 0 it passes over the whole device, and after a
device with a single function over its other functions.  `looksFrom` lists the functions
that are looked at from a position on by following these rules, whether they answer or not.
From the start of a bus this is function 0 of every device, and the other functions of the
devices that announce several (`looksFrom_start`, `mem_looksOn`), each of them once
(`nodup_looksOn`).

`shownFrom` lists those of them that answer (`shownFrom_eq_filter`), so from the start of a
bus they are the functions that the bus shows, device by device (`shownFrom_start`).
-/

set_option autoImplicit false

namespace KernelStart.Pci

/-! ## Positions by device and function -/

namespace Cursor

/-- The position of a function of a device. -/
def onFunction (bus : UInt8) (device function : Nat) : Cursor :=
  ⟨bus, device * functionsPerDevice + function⟩

theorem start_eq (bus : UInt8) : start bus = onFunction bus 0 0 := rfl

theorem address_onFunction (bus : UInt8) (device : Nat) {function : Nat}
    (small : function < functionsPerDevice) :
    (onFunction bus device function).address =
      ⟨bus, UInt8.ofNat device, UInt8.ofNat function⟩ := by
  simp only [functionsPerDevice] at small
  have quotient : (device * 8 + function) / 8 = device := by omega
  have remainder : (device * 8 + function) % 8 = function := by omega
  simp only [address, onFunction, functionsPerDevice, quotient, remainder]

theorem atFirstFunction_onFunction (bus : UInt8) (device : Nat) {function : Nat}
    (small : function < functionsPerDevice) :
    (onFunction bus device function).atFirstFunction = (function == 0) := by
  simp only [functionsPerDevice] at small
  have remainder : (device * 8 + function) % 8 = function := by omega
  simp only [atFirstFunction, onFunction, functionsPerDevice, remainder]

theorem toNextFunction_onFunction (bus : UInt8) (device function : Nat) :
    (onFunction bus device function).toNextFunction = onFunction bus device (function + 1) := rfl

theorem toNextDevice_onFunction (bus : UInt8) (device : Nat) :
    (onFunction bus device 0).toNextDevice = onFunction bus (device + 1) 0 := by
  have quotient : device * 8 / 8 = device := by omega
  simp only [toNextDevice, onFunction, functionsPerDevice, Nat.add_zero, quotient]

/-- Behind the last function of a device comes the next device. -/
theorem onFunction_functionsPerDevice (bus : UInt8) (device : Nat) :
    onFunction bus device functionsPerDevice = onFunction bus (device + 1) 0 := by
  simp only [onFunction, Nat.succ_mul, Nat.add_zero]

theorem isFinished_onFunction (bus : UInt8) {device function : Nat}
    (onBus : device < devicesPerBus) (small : function < functionsPerDevice) :
    (onFunction bus device function).isFinished = false := by
  simp only [devicesPerBus, functionsPerDevice] at onBus small
  refine decide_eq_false ?_
  simp only [onFunction, positions, devicesPerBus, functionsPerDevice]
  omega

theorem isFinished_devicesPerBus (bus : UInt8) :
    (onFunction bus devicesPerBus 0).isFinished = true := by
  simp [isFinished, onFunction, positions]

end Cursor

/-! ## Functions that are looked at -/

namespace ConfigSpace

/-- Where a walk goes on after what it meets at a position. -/
def after (space : ConfigSpace) (cursor : Cursor) : Cursor :=
  if space.isPresent cursor.address then cursor.afterPresent (space.header cursor.address)
  else cursor.afterAbsent

theorem position_lt_after (space : ConfigSpace) (cursor : Cursor) :
    cursor.position < (space.after cursor).position := by
  unfold after
  split
  · exact cursor.position_lt_afterPresent _
  · exact cursor.position_lt_afterAbsent

/-- The functions that a walk of the bus still looks at from a position on. -/
def looksFrom (space : ConfigSpace) (cursor : Cursor) : List Address :=
  if _unfinished : cursor.isFinished = false then
    cursor.address :: space.looksFrom (space.after cursor)
  else
    []
termination_by cursor.remaining
decreasing_by exact Cursor.remaining_lt _unfinished (space.position_lt_after cursor)

variable {space : ConfigSpace} {cursor : Cursor}

theorem looksFrom_finished (finished : cursor.isFinished = true) : space.looksFrom cursor = [] := by
  rw [looksFrom, dif_neg (by simp [finished])]

theorem looksFrom_unfinished (unfinished : cursor.isFinished = false) :
    space.looksFrom cursor = cursor.address :: space.looksFrom (space.after cursor) := by
  rw [looksFrom, dif_pos unfinished]

/-- Behind function 0 of a device a walk goes on function by function, whatever it meets. -/
theorem after_sibling (space : ConfigSpace) (sibling : cursor.atFirstFunction = false) :
    space.after cursor = cursor.toNextFunction := by
  simp [after, Cursor.afterPresent, Cursor.afterAbsent, sibling]

/-- After function 0 a walk stays on the device only if it announces several functions. -/
theorem after_first (space : ConfigSpace) (first : cursor.atFirstFunction = true) :
    space.after cursor =
      if space.isPresent cursor.address && !isSingleFunction (space.header cursor.address) then
        cursor.toNextFunction
      else
        cursor.toNextDevice := by
  unfold after Cursor.afterPresent Cursor.afterAbsent
  rw [first]
  cases space.isPresent cursor.address with
  | false => rfl
  | true => cases isSingleFunction (space.header cursor.address) <;> rfl

/-- Behind function 0 of a device every function is looked at. -/
theorem looksFrom_siblings (space : ConfigSpace) (bus : UInt8) {device : Nat}
    (onBus : device < devicesPerBus) (left function : Nat) (notFirst : 0 < function)
    (upTo : function + left = functionsPerDevice) :
    space.looksFrom (.onFunction bus device function) =
      ((List.range' function left).map fun number =>
          (⟨bus, UInt8.ofNat device, UInt8.ofNat number⟩ : Address)) ++
        space.looksFrom (.onFunction bus (device + 1) 0) := by
  induction left generalizing function with
  | zero =>
    obtain rfl : function = functionsPerDevice := upTo
    rw [Cursor.onFunction_functionsPerDevice]
    rfl
  | succ left ih =>
    have small : function < functionsPerDevice := by omega
    have sibling : (Cursor.onFunction bus device function).atFirstFunction = false := by
      rw [Cursor.atFirstFunction_onFunction bus device small]
      exact beq_false_of_ne (Nat.ne_of_gt notFirst)
    rw [looksFrom_unfinished (Cursor.isFinished_onFunction bus onBus small),
      space.after_sibling sibling, Cursor.toNextFunction_onFunction,
      ih (function + 1) (Nat.succ_pos _) (by omega), Cursor.address_onFunction bus device small]
    rfl

/-- What is looked at from function 0 of a device on: the device, then the next devices. -/
theorem looksFrom_device (space : ConfigSpace) (bus : UInt8) {device : Nat}
    (onBus : device < devicesPerBus) :
    space.looksFrom (.onFunction bus device 0) =
      space.looksAt bus (UInt8.ofNat device) ++
        space.looksFrom (.onFunction bus (device + 1) 0) := by
  have small : 0 < functionsPerDevice := by decide
  have first : (Cursor.onFunction bus device 0).atFirstFunction = true :=
    Cursor.atFirstFunction_onFunction bus device small
  have place : (Cursor.onFunction bus device 0).address = ⟨bus, UInt8.ofNat device, 0⟩ :=
    Cursor.address_onFunction bus device small
  rw [looksFrom_unfinished (Cursor.isFinished_onFunction bus onBus small), place,
    space.after_first first, place, looksAt, hasSeveral, Address.withFunction]
  split
  · have functions : List.range functionsPerDevice = 0 :: List.range' 1 7 := by decide
    rw [Cursor.toNextFunction_onFunction,
      looksFrom_siblings space bus onBus 7 1 Nat.one_pos rfl, functions]
    rfl
  · rw [Cursor.toNextDevice_onFunction]
    rfl

/-- From the start of a bus, a walk looks at its devices one after the other. -/
theorem looksFrom_start (space : ConfigSpace) (bus : UInt8) :
    space.looksFrom (.start bus) = space.looksOn bus := by
  have devices (left device : Nat) (upTo : device + left = devicesPerBus) :
      space.looksFrom (.onFunction bus device 0) =
        (List.range' device left).flatMap fun number =>
          space.looksAt bus (UInt8.ofNat number) := by
    induction left generalizing device with
    | zero =>
      obtain rfl : device = devicesPerBus := upTo
      rw [looksFrom_finished (Cursor.isFinished_devicesPerBus bus)]
      rfl
    | succ left ih =>
      rw [looksFrom_device space bus (by omega), ih (device + 1) (by omega), List.range'_succ,
        List.flatMap_cons]
  rw [Cursor.start_eq, devices devicesPerBus 0 (Nat.zero_add _), looksOn, List.range_eq_range']

/-! ## Each function once -/

/-- A byte below a bound is one of the numbers up to the bound. -/
theorem exists_ofNat_eq {value : UInt8} {bound : Nat} (le : bound ≤ 256) :
    (∃ number < bound, UInt8.ofNat number = value) ↔ value.toNat < bound := by
  constructor
  · rintro ⟨number, small, rfl⟩
    rwa [UInt8.toNat_ofNat_of_lt' (Nat.lt_of_lt_of_le small le)]
  · intro small
    exact ⟨value.toNat, small, UInt8.ofNat_toNat⟩

/-- Different numbers of devices or functions are different bytes. -/
theorem ofNat_ne_of_lt {left right : Nat} (less : left < right) (small : right < 256) :
    UInt8.ofNat left ≠ UInt8.ofNat right := by
  intro same
  have values := congrArg UInt8.toNat same
  rw [UInt8.toNat_ofNat_of_lt' (Nat.lt_trans less small), UInt8.toNat_ofNat_of_lt' small] at values
  exact Nat.ne_of_lt less values

theorem mem_looksAt {bus device : UInt8} {address : Address} :
    address ∈ space.looksAt bus device ↔
      address.bus = bus ∧ address.device = device ∧
        address.function.toNat < functionsPerDevice ∧
        (address.function = 0 ∨ space.hasSeveral address = true) := by
  obtain ⟨ownBus, ownDevice, function⟩ := address
  unfold looksAt
  split
  · next several =>
    simp only [List.mem_map, List.mem_range, Address.mk.injEq]
    constructor
    · rintro ⟨number, small, rfl, rfl, rfl⟩
      exact ⟨rfl, rfl, (exists_ofNat_eq (by decide)).1 ⟨number, small, rfl⟩, .inr several⟩
    · rintro ⟨rfl, rfl, small, -⟩
      obtain ⟨number, inRange, rfl⟩ := (exists_ofNat_eq (by decide)).2 small
      exact ⟨number, inRange, rfl, rfl, rfl⟩
  · next single =>
    simp only [List.mem_singleton, Address.mk.injEq]
    constructor
    · rintro ⟨rfl, rfl, rfl⟩
      exact ⟨rfl, rfl, by decide, .inl rfl⟩
    · rintro ⟨rfl, rfl, -, first | several⟩
      · exact ⟨rfl, rfl, first⟩
      · exact absurd several single

/-- On a bus, a walk looks at function 0 of every device, and at the other functions of those that
announce several. -/
theorem mem_looksOn {bus : UInt8} {address : Address} :
    address ∈ space.looksOn bus ↔
      address.bus = bus ∧ address.device.toNat < devicesPerBus ∧
        address.function.toNat < functionsPerDevice ∧
        (address.function = 0 ∨ space.hasSeveral address = true) := by
  simp only [looksOn, List.mem_flatMap, List.mem_range, mem_looksAt]
  constructor
  · rintro ⟨number, small, sameBus, sameDevice, looked⟩
    exact ⟨sameBus, (exists_ofNat_eq (by decide)).1 ⟨number, small, sameDevice.symm⟩, looked⟩
  · rintro ⟨sameBus, small, looked⟩
    obtain ⟨number, inRange, sameDevice⟩ := (exists_ofNat_eq (by decide)).2 small
    exact ⟨number, inRange, sameBus, sameDevice.symm, looked⟩

theorem nodup_looksAt (space : ConfigSpace) (bus device : UInt8) :
    (space.looksAt bus device).Nodup := by
  unfold looksAt
  split
  · refine List.pairwise_map.2 (List.pairwise_lt_range.imp_of_mem fun _ inRange less same => ?_)
    have small := Nat.lt_trans (List.mem_range.1 inRange) (by decide : functionsPerDevice < 256)
    exact ofNat_ne_of_lt less small (congrArg Address.function same)
  · exact List.pairwise_singleton _ _

/-- A walk looks at no function of a bus twice. -/
theorem nodup_looksOn (space : ConfigSpace) (bus : UInt8) : (space.looksOn bus).Nodup := by
  refine List.pairwise_flatMap.2 ⟨fun number _ => space.nodup_looksAt bus _, ?_⟩
  refine List.pairwise_lt_range.imp_of_mem
    fun _ inRange less first ofLeft second ofRight same => ?_
  have small := Nat.lt_trans (List.mem_range.1 inRange) (by decide : devicesPerBus < 256)
  have leftDevice := (mem_looksAt.1 ofLeft).2.1
  have rightDevice := (mem_looksAt.1 ofRight).2.1
  rw [same] at leftDevice
  exact ofNat_ne_of_lt less small (leftDevice.symm.trans rightDevice)

/-! ## Functions that are met -/

/-- The functions that a walk of the bus still meets from a position on. -/
def shownFrom (space : ConfigSpace) (cursor : Cursor) : List Address :=
  if _unfinished : cursor.isFinished = false then
    if space.isPresent cursor.address then
      cursor.address :: space.shownFrom (cursor.afterPresent (space.header cursor.address))
    else
      space.shownFrom cursor.afterAbsent
  else
    []
termination_by cursor.remaining
decreasing_by
  · exact Cursor.remaining_lt _unfinished (cursor.position_lt_afterPresent _)
  · exact Cursor.remaining_lt _unfinished cursor.position_lt_afterAbsent

theorem shownFrom_finished (finished : cursor.isFinished = true) : space.shownFrom cursor = [] := by
  rw [shownFrom, dif_neg (by simp [finished])]

theorem shownFrom_present (unfinished : cursor.isFinished = false)
    (present : space.isPresent cursor.address = true) :
    space.shownFrom cursor =
      cursor.address ::
        space.shownFrom (cursor.afterPresent (space.header cursor.address)) := by
  rw [shownFrom, dif_pos unfinished, if_pos present]

theorem shownFrom_absent (unfinished : cursor.isFinished = false)
    (absent : space.isPresent cursor.address = false) :
    space.shownFrom cursor = space.shownFrom cursor.afterAbsent := by
  rw [shownFrom, dif_pos unfinished, if_neg (by simp [absent])]

/-- Of the functions that are looked at, those are met that answer. -/
theorem shownFrom_eq_filter (space : ConfigSpace) (cursor : Cursor) :
    space.shownFrom cursor = (space.looksFrom cursor).filter space.isPresent := by
  induction cursor using shownFrom.induct space with
  | case1 cursor unfinished present ih =>
    rw [shownFrom_present unfinished present, looksFrom_unfinished unfinished, after,
      if_pos present, List.filter_cons_of_pos present, ih]
  | case2 cursor unfinished absent ih =>
    rw [shownFrom_absent unfinished (Bool.eq_false_iff.2 absent), looksFrom_unfinished unfinished,
      after, if_neg absent, List.filter_cons_of_neg absent, ih]
  | case3 cursor finished =>
    have isLast : cursor.isFinished = true := by simpa using finished
    rw [shownFrom_finished isLast, looksFrom_finished isLast]
    rfl

/-- Of the functions of a device that are looked at, those that answer are listed. -/
theorem filter_looksAt (space : ConfigSpace) (bus device : UInt8) :
    (space.looksAt bus device).filter space.isPresent =
      (space.probed bus device).filter space.isPresent := by
  simp only [looksAt, probed, hasSeveral, Address.withFunction]
  by_cases present : space.isPresent ⟨bus, device, 0⟩ = true
  · by_cases single : isSingleFunction (space.header ⟨bus, device, 0⟩) = true
    · simp [present, single]
    · simp [present, single]
  · simp [present]

/-- A bus shows those of the functions looked at on it that answer. -/
theorem functionsOf_eq_filter (space : ConfigSpace) (bus : UInt8) :
    space.functionsOf bus = (space.looksOn bus).filter space.isPresent := by
  simp only [functionsOf, looksOn, List.filter_flatMap, filter_looksAt]

/-- From the start of a bus, a walk meets the functions that the bus shows. -/
theorem shownFrom_start (space : ConfigSpace) (bus : UInt8) :
    space.shownFrom (.start bus) = space.functionsOf bus := by
  rw [shownFrom_eq_filter, looksFrom_start, functionsOf_eq_filter]

end ConfigSpace

end KernelStart.Pci
