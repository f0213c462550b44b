import KernelStart.Proofs.CapabilityReads
import KernelStart.Proofs.MessageRegisters

/-!
# Setting up messages again

A second setup reads what the first one wrote: it searches a chain that may lead through rewritten
registers, and it takes the header over that the first one left behind.  Still the last setup
decides alone, whatever was set up before it (`enableMessages_last_decides`).

The entries in front of the capability are read as before, provided they do not lie on the
registers behind its header (`IsClearOnChain`), so the same capability is found
(`Capability.IsFirstOf.congr`).  Its header is another one, but it agrees with the old one in all
that is kept of a header, and the assignments of a setup depend on nothing else
(`assignments_congr`).  Hence the second setup makes the assignments that it would have made
without the first.  They go to the same registers as those of the first, so nothing of the
first setup is left (`RegisterFile.AgreesBut.writeAll_congr`).
-/

set_option autoImplicit false

namespace KernelStart.Pci

open Capability (IsFirstOf chainPointer chainEntry messageSignalled)

/-! ## Register files that differ where writes will go -/

/-- A write that goes to a register of a function. -/
def ConfigWrite.Hits (entry : ConfigWrite) (address : Address) (number : Nat) : Prop :=
  address = entry.register.address ∧ number = registerNumber entry.register.offset

namespace RegisterFile

/-- What is in a register of a function, if the function exists. -/
def slot? (file : RegisterFile) (address : Address) (number : Nat) : Option UInt32 :=
  (file.functionAt address).map (· number)

theorem slot?_write_of_hits {entry : ConfigWrite} {address : Address} {number : Nat}
    (hits : entry.Hits address number) (file : RegisterFile) :
    (file.write entry.register entry.value).slot? address number =
      (file.functionAt address).map fun _ => entry.value := by
  obtain ⟨rfl, rfl⟩ := hits
  cases found : file.functionAt entry.register.address <;> simp [slot?, write, store, found]

theorem slot?_write_of_not_hits {entry : ConfigWrite} {address : Address} {number : Nat}
    (misses : ¬entry.Hits address number) (file : RegisterFile) :
    (file.write entry.register entry.value).slot? address number = file.slot? address number := by
  by_cases same : address = entry.register.address
  · have other : number ≠ registerNumber entry.register.offset := fun hit => misses ⟨same, hit⟩
    subst same
    cases found : file.functionAt entry.register.address <;>
      simp [slot?, write, store, found, other]
  · simp [slot?, write, store, same]

/-- The same functions exist, and their registers differ at most where one of the writes goes. -/
structure AgreesBut (writes : List ConfigWrite) (file other : RegisterFile) : Prop where
  functions : ∀ address,
    (file.functionAt address).isSome = (other.functionAt address).isSome
  slots : ∀ address number, file.slot? address number = other.slot? address number ∨
    ∃ entry ∈ writes, entry.Hits address number

/-- Nothing but the functions matters. -/
theorem AgreesBut.congr {writes : List ConfigWrite} {file other next otherNext : RegisterFile}
    (agrees : AgreesBut writes file other) (same : next.functionAt = file.functionAt)
    (otherSame : otherNext.functionAt = other.functionAt) : AgreesBut writes next otherNext := by
  obtain ⟨functions, slots⟩ := agrees
  simp only [slot?, ← same, ← otherSame] at functions slots
  exact ⟨functions, slots⟩

/-- Where no register differs the functions are the same. -/
theorem AgreesBut.functionAt_eq {file other : RegisterFile} (agrees : AgreesBut [] file other) :
    file.functionAt = other.functionAt := by
  funext address
  have slots (number : Nat) : file.slot? address number = other.slot? address number :=
    (agrees.slots address number).resolve_right (by simp)
  simp only [slot?] at slots
  cases here : file.functionAt address with
  | none =>
    cases there : other.functionAt address with
    | none => rfl
    | some registers => simp [here, there] at slots
  | some registers =>
    cases there : other.functionAt address with
    | none => simp [here, there] at slots
    | some others =>
      simp only [here, there, Option.map_some, Option.some.injEq] at slots
      exact congrArg some (funext slots)

/-- A write makes the files agree where it goes. -/
theorem AgreesBut.write {entry : ConfigWrite} {rest : List ConfigWrite}
    {file other : RegisterFile} (agrees : AgreesBut (entry :: rest) file other) :
    AgreesBut rest (file.write entry.register entry.value)
      (other.write entry.register entry.value) := by
  refine ⟨fun address => ?_, fun address number => ?_⟩
  · rw [isSome_functionAt_write, isSome_functionAt_write]
    exact agrees.functions address
  by_cases hits : entry.Hits address number
  · refine .inl ?_
    have exist := agrees.functions address
    rw [slot?_write_of_hits hits, slot?_write_of_hits hits]
    cases here : file.functionAt address <;> cases there : other.functionAt address <;>
      simp_all
  · rw [slot?_write_of_not_hits hits, slot?_write_of_not_hits hits]
    refine (agrees.slots address number).imp_right ?_
    rintro ⟨hitting, isOne, hitsHere⟩
    rcases List.mem_cons.1 isOne with rfl | isLater
    · exact absurd hitsHere hits
    · exact ⟨hitting, isLater, hitsHere⟩

/-- Writes leave nothing of what was different where they go. -/
theorem AgreesBut.writeAll_congr {writes : List ConfigWrite} {file other : RegisterFile}
    (agrees : AgreesBut writes file other) :
    (file.writeAll writes).functionAt = (other.writeAll writes).functionAt := by
  induction writes generalizing file other with
  | nil => exact agrees.functionAt_eq
  | cons entry rest ih => exact ih agrees.write

/-- Writes change a file only where others go that go to the same registers. -/
theorem agreesBut_writeAll {earlier writes : List ConfigWrite}
    (covered : ∀ first ∈ earlier, ∃ entry ∈ writes, entry.register = first.register)
    (file : RegisterFile) : AgreesBut writes (file.writeAll earlier) file := by
  refine ⟨fun address => file.isSome_functionAt_writeAll earlier address, fun address number => ?_⟩
  induction earlier generalizing file with
  | nil => exact .inl rfl
  | cons first rest ih =>
    obtain ⟨own, later⟩ := List.forall_mem_cons.1 covered
    by_cases hits : first.Hits address number
    · obtain ⟨entry, isOne, same⟩ := own
      refine .inr ⟨entry, isOne, ?_⟩
      rwa [ConfigWrite.Hits, same]
    · have onward := ih later (file.write first.register first.value)
      rwa [slot?_write_of_not_hits hits] at onward

end RegisterFile

/-! ## A chain of which later registers were rewritten -/

/-- Every pointer of a chain leads to a whole register. -/
theorem Capability.toNat_chainPointer_mod_four (space : ConfigSpace) (address : Address)
    (position : Nat) : (chainPointer space address position).toNat % 4 = 0 := by
  cases position with
  | zero => exact toNat_pointer_mod_four _
  | succ position => exact toNat_pointer_mod_four _

/-- The first entry of a kind stays the first, with another header perhaps, if it stays of that
kind and what one passes on the way to it stays the same. -/
theorem Capability.IsFirstOf.congr {space other : ConfigSpace} {address : Address} {kind : UInt8}
    {entry : Capability} (first : IsFirstOf space address kind entry)
    (start : other ⟨address, capabilityPointerOffset⟩ = space ⟨address, capabilityPointerOffset⟩)
    (before : ∀ position, (∀ earlier ≤ position, (chainEntry space address earlier).id ≠ kind) →
      other ⟨address, chainPointer space address position⟩ =
        space ⟨address, chainPointer space address position⟩)
    (same : (Capability.mk entry.offset (other ⟨address, entry.offset⟩)).id = kind) :
    IsFirstOf other address kind ⟨entry.offset, other ⟨address, entry.offset⟩⟩ := by
  obtain ⟨position, reaches, rfl, -, notEarlier⟩ := first
  have passed (earlier : Nat) (less : earlier < position) :
      other ⟨address, chainPointer space address earlier⟩ =
        space ⟨address, chainPointer space address earlier⟩ :=
    before earlier fun further le => notEarlier further (Nat.lt_of_le_of_lt le less)
  have pointers : ∀ reached ≤ position,
      chainPointer other address reached = chainPointer space address reached := by
    intro reached
    induction reached with
    | zero => exact fun _ => congrArg pointer start
    | succ reached ih =>
      intro le
      rw [chainPointer, chainPointer, ih (Nat.le_of_succ_le le), passed reached le]
  refine ⟨position, fun earlier le => ?_, ?_, same, fun earlier less => ?_⟩
  · rw [pointers earlier le]
    exact reaches earlier le
  · rw [chainEntry, pointers position (Nat.le_refl position)]
    rfl
  · have entry_eq : chainEntry other address earlier = chainEntry space address earlier := by
      rw [chainEntry, pointers earlier (Nat.le_of_lt less), passed earlier less]
      rfl
    rw [entry_eq]
    exact notEarlier earlier less

namespace MessageCapability

/-- The entries that one passes on the way to the first capability for messages do not lie on the
registers behind the header of this one. -/
def IsClearOnChain (capability : MessageCapability) (space : ConfigSpace)
    (address : Address) : Prop :=
  ∀ position, (∀ earlier ≤ position, (chainEntry space address earlier).id ≠ messageSignalled) →
    ∀ distance ∈ capability.distances, distance ≠ 0 →
      chainPointer space address position ≠ capability.offset + distance

/-! ## Headers that agree on what is kept -/

section Kept

variable {capability other : MessageCapability} (sameOffset : other.offset = capability.offset)
  (kept : other.control &&& keptMask = capability.control &&& keptMask)
include sameOffset kept

theorem isSame : other.IsSame capability := by
  obtain ⟨offset, control⟩ := other
  obtain rfl : offset = capability.offset := sameOffset
  exact isSame_of_kept capability.offset kept

/-- What a setup assigns depends on nothing of the header but what is kept of it. -/
theorem assignments_congr (target message : UInt32) (exponent : UInt8) :
    other.assignments target message exponent = capability.assignments target message exponent := by
  have prepared_eq : other.prepared exponent = capability.prepared exponent :=
    congrArg (· ||| exponent.toUInt32 <<< 20) kept
  have wide_eq := (isSame sameOffset kept).wideAddress
  simp only [assignments, messageDistance, prepared_eq, wide_eq]

theorem fits_congr : other.fits = capability.fits := by
  rw [fits, fits, messageDistance, messageDistance, sameOffset,
    (isSame sameOffset kept).wideAddress]

end Kept

/-- Setups of a capability write to the same registers, whatever they write. -/
theorem covers_assignments (capability : MessageCapability) (address : Address)
    (target message : UInt32) (exponent : UInt8) (otherTarget otherMessage : UInt32)
    (otherExponent : UInt8) :
    ∀ first ∈ (capability.assignments target message exponent).map
        (·.toWrite address capability.offset),
      ∃ entry ∈ (capability.assignments otherTarget otherMessage otherExponent).map
          (·.toWrite address capability.offset), entry.register = first.register := by
  have registers_eq :
      ((capability.assignments target message exponent).map
          (·.toWrite address capability.offset)).map (·.register) =
        ((capability.assignments otherTarget otherMessage otherExponent).map
          (·.toWrite address capability.offset)).map (·.register) := by
    cases wide : capability.hasWideAddress <;> simp [assignments, wide, Assignment.toWrite]
  intro first made
  have isRegister := List.mem_map_of_mem (f := ConfigWrite.register) made
  rw [registers_eq] at isRegister
  exact List.mem_map.1 isRegister

end MessageCapability

/-! ## Behind a setup -/

section Setups

variable {file : RegisterFile} {address : Address} {capability : MessageCapability}
  {target message : UInt32} {exponent : UInt8}

/-- Where a capability is found, a function exists. -/
theorem isSome_functionAt_of_isFirstOf {entry : Capability}
    (first : IsFirstOf file.content address messageSignalled entry) :
    (file.functionAt address).isSome = true := by
  obtain ⟨position, -, rfl, isKind, -⟩ := first
  cases absent : file.functionAt address with
  | some _ => rfl
  | none =>
    -- Without a function all registers read as ones, and so does the kind of an entry.
    have ones (offset : UInt8) : file.content ⟨address, offset⟩ = 0xffffffff := by
      rw [RegisterFile.content, absent]
    rw [chainEntry, ones] at isKind
    exact absurd isKind (by decide : (0xffffffff : UInt32).toUInt8 ≠ messageSignalled)

/-- A setup that succeeds has made all its assignments. -/
theorem of_run_enableMessages_eq_ok
    (found : ConfigSpace.value file.content (findMessageCapability address) = .ok (.ok capability))
    (succeeded : ((enableMessages address target message exponent).run
      RegisterFile.environment file).1 = .ok (.ok ())) :
    exponent ≤ capability.offered ∧ capability.fits = true ∧
      ∃ searched : RegisterFile, searched.functionAt = file.functionAt ∧
        ((enableMessages address target message exponent).run RegisterFile.environment file).2 =
          searched.writeAll ((capability.assignments target message exponent).map
            (·.toWrite address capability.offset)) := by
  obtain ⟨searched, functions_eq, -, ran⟩ :=
    run_enableMessages file address target message exponent
  rw [found] at ran
  dsimp only at ran
  rw [ran] at succeeded ⊢
  split at succeeded
  · cases succeeded
  · next offered =>
    cases fits : capability.fits with
    | false => simp [fits] at succeeded
    | true =>
      have allFit := (capability.all_fits_assignments target message exponent).trans fits
      rw [if_neg offered, List.takeWhile_eq_self_iff.2 (List.all_eq_true.1 allFit)]
      exact ⟨UInt8.not_lt.1 offered, rfl, searched, functions_eq, rfl⟩

/-- On the way to the capability one passes none of its registers. -/
theorem MessageCapability.IsClearOnChain.registerNumber_ne
    (clear : capability.IsClearOnChain file.content address)
    (first : IsFirstOf file.content address messageSignalled
      ⟨capability.offset, capability.control⟩) {position : Nat}
    (before : ∀ earlier ≤ position,
      (chainEntry file.content address earlier).id ≠ messageSignalled)
    {distance : UInt8} (isOne : distance ∈ capability.distances) :
    registerNumber (chainPointer file.content address position) ≠
      registerNumber (capability.offset + distance) := by
  intro same
  obtain ⟨found, -, found_eq, isKind, -⟩ := first
  have offset_eq : chainPointer file.content address found = capability.offset :=
    congrArg Capability.offset found_eq
  have whole := Capability.toNat_chainPointer_mod_four file.content address position
  have wholeFound := Capability.toNat_chainPointer_mod_four file.content address found
  have wholeDistance := mod_four_of_mem_distances isOne
  have sum := UInt8.toNat_add capability.offset distance
  rw [offset_eq] at wholeFound
  have place : chainPointer file.content address position = capability.offset + distance := by
    apply UInt8.toNat_inj.1
    simp only [registerNumber] at same
    omega
  by_cases own : distance = 0
  · rw [own, UInt8.add_zero, ← offset_eq] at place
    apply before position (Nat.le_refl position)
    rw [Capability.chainEntry_congr place, found_eq]
    exact isKind
  · exact clear position before distance isOne own place

/-- The next setup finds the same capability, with a header that agrees in what is kept. -/
theorem found_again
    (first : IsFirstOf file.content address messageSignalled
      ⟨capability.offset, capability.control⟩)
    (clear : capability.IsClearOnChain file.content address)
    (succeeded : ((enableMessages address target message exponent).run
      RegisterFile.environment file).1 = .ok (.ok ())) :
    let after := ((enableMessages address target message exponent).run
      RegisterFile.environment file).2
    ∃ header, ConfigSpace.value after.content (findMessageCapability address) =
        .ok (.ok ⟨capability.offset, header⟩) ∧
      header &&& MessageCapability.keptMask =
        capability.control &&& MessageCapability.keptMask := by
  have found : ConfigSpace.value file.content (findMessageCapability address) =
      .ok (.ok capability) := Capability.value_findMessageCapability_eq_ok_iff.2 first
  obtain ⟨offered, fits, searched, functions_eq, after_eq⟩ :=
    of_run_enableMessages_eq_ok found succeeded
  have content_eq : searched.content = file.content :=
    RegisterFile.content_eq_of_functionAt_eq functions_eq
  have present : (searched.functionAt address).isSome = true := by
    rw [functions_eq]
    exact isSome_functionAt_of_isFirstOf first
  obtain ⟨position, reaches, found_eq, -, -⟩ := id first
  have offset_eq : chainPointer file.content address position = capability.offset :=
    congrArg Capability.offset found_eq
  have header : capability.control = searched.content ⟨address, capability.offset⟩ := by
    rw [content_eq, ← offset_eq]
    exact (congrArg Capability.header found_eq).symm
  obtain ⟨_, _, -, enabledLast⟩ :=
    enabledLast_stages fits present header offered target message
  rw [after_eq]
  intro after
  have kept : after.content ⟨address, capability.offset⟩ &&& MessageCapability.keptMask =
      capability.control &&& MessageCapability.keptMask := by
    rw [header]
    exact enabledLast.kept
  refine ⟨after.content ⟨address, capability.offset⟩,
    Capability.value_findMessageCapability_eq_ok_iff.2 (first.congr ?_ ?_ ?_), kept⟩
  · rw [← content_eq]
    refine enabledLast.elsewhere _ fun distance isOne => .inr ?_
    have behindHeader : 0x40 ≤ (chainPointer file.content address position).toNat :=
      UInt8.le_iff_toNat_le.1 (reaches position (Nat.le_refl position))
    have pointer : registerNumber capabilityPointerOffset = 13 := rfl
    rw [MessageCapability.registerNumber_of_mem_distances fits isOne, ← offset_eq, pointer]
    simp only [registerNumber]
    omega
  · intro position before
    rw [← content_eq]
    refine enabledLast.elsewhere _ fun distance isOne => .inr ?_
    rw [content_eq]
    exact clear.registerNumber_ne first before isOne
  · have same : (MessageCapability.mk capability.offset
        (after.content ⟨address, capability.offset⟩)).IsSame capability :=
      MessageCapability.isSame rfl kept
    obtain ⟨_, _, _, isKind, _⟩ := first
    exact same.id.trans isKind

/-- After a setup that succeeded, another one comes to what it would have come to alone. -/
theorem run_again
    (first : IsFirstOf file.content address messageSignalled
      ⟨capability.offset, capability.control⟩)
    (clear : capability.IsClearOnChain file.content address)
    (succeeded : ((enableMessages address target message exponent).run
      RegisterFile.environment file).1 = .ok (.ok ()))
    (nextTarget nextMessage : UInt32) (nextExponent : UInt8) :
    let after := ((enableMessages address target message exponent).run
      RegisterFile.environment file).2
    let setup := enableMessages address nextTarget nextMessage nextExponent
    let again := setup.run RegisterFile.environment after
    let alone := setup.run RegisterFile.environment file
    again.1 = alone.1 ∧ (alone.1 = .ok (.ok ()) → again.2.functionAt = alone.2.functionAt) := by
  intro after setup again alone
  have found : ConfigSpace.value file.content (findMessageCapability address) =
      .ok (.ok capability) := Capability.value_findMessageCapability_eq_ok_iff.2 first
  obtain ⟨header, foundAgain, kept⟩ := found_again first clear succeeded
  have same := @MessageCapability.isSame capability ⟨capability.offset, header⟩ rfl kept
  have fits_eq := @MessageCapability.fits_congr capability ⟨capability.offset, header⟩ rfl kept
  have assignments_eq :=
    @MessageCapability.assignments_congr capability ⟨capability.offset, header⟩ rfl kept
  have result_eq : again.1 = alone.1 := by
    obtain ⟨_, -, -, alone_eq⟩ :=
      run_enableMessages file address nextTarget nextMessage nextExponent
    obtain ⟨_, -, -, again_eq⟩ :=
      run_enableMessages after address nextTarget nextMessage nextExponent
    rw [found] at alone_eq
    rw [foundAgain] at again_eq
    dsimp only at alone_eq again_eq
    simp only [again, alone, setup]
    rw [again_eq, alone_eq, same.offered, fits_eq]
    split <;> rfl
  refine ⟨result_eq, fun returned => ?_⟩
  obtain ⟨-, -, searched, functions_eq, after_eq⟩ := of_run_enableMessages_eq_ok found succeeded
  obtain ⟨-, -, start, start_eq, alone_eq⟩ := of_run_enableMessages_eq_ok found returned
  obtain ⟨-, -, behind, behind_eq, again_eq⟩ :=
    of_run_enableMessages_eq_ok foundAgain (result_eq.trans returned)
  rw [assignments_eq] at again_eq
  rw [again_eq, alone_eq]
  have agrees := RegisterFile.agreesBut_writeAll
    (capability.covers_assignments address target message exponent nextTarget nextMessage
      nextExponent) searched
  refine (agrees.congr ?_ (start_eq.trans functions_eq.symm)).writeAll_congr
  rw [behind_eq, after_eq]

end Setups

/-- **The last setup decides alone.**  After a setup that succeeded, another one returns what it
would have returned without it, and if it succeeds it leaves the registers of all functions as it
would have left them; in particular the same setup may be repeated.  The function and its
capability need not be asked to exist and to fit: a setup that succeeds has found them so. -/
theorem enableMessages_last_decides {file after : RegisterFile} {address : Address}
    {entry : Capability} {firstTarget firstMessage : UInt32} {firstExponent : UInt8}
    (first : IsFirstOf file.content address messageSignalled entry)
    (clear : (MessageCapability.mk entry.offset entry.header).IsClearOnChain file.content address)
    (succeeded : (enableMessages address firstTarget firstMessage firstExponent).run
      RegisterFile.environment file = (.ok (.ok ()), after))
    (target message : UInt32) (exponent : UInt8) :
    let setup := enableMessages address target message exponent
    let again := setup.run RegisterFile.environment after
    let alone := setup.run RegisterFile.environment file
    again.1 = alone.1 ∧ (alone.1 = .ok (.ok ()) → again.2.functionAt = alone.2.functionAt) ∧
      let repeated := (enableMessages address firstTarget firstMessage firstExponent).run
        RegisterFile.environment after
      repeated.1 = .ok (.ok ()) ∧ repeated.2.functionAt = after.functionAt := by
  intro setup again alone
  have next := @run_again file address ⟨entry.offset, entry.header⟩ firstTarget firstMessage
    firstExponent first clear (congrArg Prod.fst succeeded)
  rw [succeeded] at next
  obtain ⟨result_eq, functions_eq⟩ := next target message exponent
  obtain ⟨repeated_eq, sameFunctions⟩ := next firstTarget firstMessage firstExponent
  rw [succeeded] at repeated_eq sameFunctions
  exact ⟨result_eq, functions_eq, repeated_eq, sameFunctions rfl⟩

/-- A capability right below an entry that leads to it and to which it leads back: it is set up for
two messages, and then for eight. -/
theorem enableMessages_last_decides_crossedChain :
    let address : Address := ⟨0, 3, 0⟩
    let file := RegisterFile.ofList [⟨address, 0x1b36, 0x000d, ⟨0x0c, 0x03, 0x30⟩, 0,
      [(capabilityPointerOffset, 0x50), (0x50, 0x4011), (0x40, 0x00865005)]⟩]
    let capability : MessageCapability := ⟨0x40, 0x00865005⟩
    let early := enableMessages address 0xfee00000 0x41 1
    let late := enableMessages address 0xfee01000 0x42 3
    IsFirstOf file.content address messageSignalled ⟨0x40, 0x00865005⟩ ∧
      capability.IsClearOnChain file.content address ∧
      ∃ after, early.run RegisterFile.environment file = (.ok (.ok ()), after) ∧
        (late.run RegisterFile.environment after).1 =
          (late.run RegisterFile.environment file).1 ∧
        ((late.run RegisterFile.environment file).1 = .ok (.ok ()) →
          (late.run RegisterFile.environment after).2.functionAt =
            (late.run RegisterFile.environment file).2.functionAt) ∧
        (early.run RegisterFile.environment after).1 = .ok (.ok ()) ∧
        (early.run RegisterFile.environment after).2.functionAt = after.functionAt := by
  intro address file capability early late
  have first : IsFirstOf file.content address messageSignalled ⟨0x40, 0x00865005⟩ := by
    refine ⟨1, ?_, by decide, by decide, ?_⟩
    · intro earlier le
      interval_cases earlier <;> decide
    · intro earlier before
      interval_cases earlier
      decide
  have clear : capability.IsClearOnChain file.content address := by
    have apart : capability.distances.all (fun distance => decide (distance ≠ 0 →
        chainPointer file.content address 0 ≠ capability.offset + distance)) = true := by decide
    intro position before
    cases position with
    | zero =>
      intro distance isOne
      exact of_decide_eq_true (List.all_eq_true.1 apart distance isOne)
    | succ position => exact absurd (by decide) (before 1 (Nat.le_add_left 1 position))
  obtain ⟨searched, -, succeeded, -⟩ := enableMessages_of_fits
    (Capability.value_findMessageCapability_eq_ok_iff.2 first)
    (by decide : 1 ≤ capability.offered) (by decide) 0xfee00000 0x41
  exact ⟨first, clear, _, succeeded,
    enableMessages_last_decides first clear succeeded 0xfee01000 0x42 3⟩

end KernelStart.Pci
