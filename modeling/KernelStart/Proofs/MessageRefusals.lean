import KernelStart.Proofs.MessageRegisters

/-!
# When setting up messages is refused

A setup is refused for two reasons: one comes to no capability for messages by following the
pointers of the function, or the first one offers fewer messages than are asked for.  Both are
known before anything is written, so a refusal leaves every register alone, also that of a
capability which was enabled before (`enableMessages_refuses_iff`).

What a capability offers fits three bits.  A larger grant would spill into the bits above them,
but it is refused; so in no state that a setup passes through, however it ends, has the header
changed outside the enable bit and the grant (`MessageCapability.keeps_of_mem_assignments`,
`kept_of_mem_statesAfterWrites`).
-/

set_option autoImplicit false

namespace KernelStart.Pci

open Capability (IsFirstOf ChainReaches chainEntry messageSignalled)

/-! ## The header -/

namespace MessageCapability

variable (capability : MessageCapability)

/-- What a capability offers stands in bits 19 to 17 of its header. -/
theorem toNat_offered : capability.offered.toNat = capability.control.toNat / 2 ^ 17 % 8 := by
  have three := Nat.and_two_pow_sub_one_eq_mod (capability.control.toNat / 2 ^ 17) 3
  have small : capability.control.toNat / 2 ^ 17 % 8 < 256 := by omega
  rw [offered, UInt32.toNat_toUInt8, UInt32.toNat_and, UInt32.toNat_shiftRight,
    Nat.shiftRight_eq_div_pow]
  exact (congrArg (· % 256) three).trans (Nat.mod_eq_of_lt small)

/-- The prepared header differs from the one found in nothing that is kept. -/
theorem prepared_and_keptMask {exponent : UInt8} (small : exponent ≤ 7) :
    capability.prepared exponent &&& keptMask = capability.control &&& keptMask := by
  have outside : enableBit &&& keptMask = 0 := by decide
  have spread (word : UInt32) : (word ||| enableBit) &&& keptMask =
      word &&& keptMask ||| enableBit &&& keptMask :=
    UInt32.toBitVec_inj.1 BitVec.and_or_distrib_right
  have enabled := capability.enabled_and_keptMask small
  rwa [spread, outside, UInt32.or_zero] at enabled

end MessageCapability

/-! ## States that keep the header -/

/-- Stages keep what is true of a register, if each of the writes misses it or writes a value of
which it is true. -/
theorem RegisterFile.content_of_mem_stages_of_each (good : UInt32 → Prop)
    {register : ConfigRegister} {writes : List ConfigWrite}
    (each : ∀ entry ∈ writes, entry.Misses register ∨ good entry.value)
    {file state : RegisterFile} (start : good (file.content register))
    (isStage : state ∈ file.stages writes) : good (state.content register) := by
  induction writes generalizing file with
  | nil => cases isStage
  | cons entry rest ih =>
    obtain ⟨first, later⟩ := List.forall_mem_cons.1 each
    have written : good ((file.write entry.register entry.value).content register) := by
      rcases first with misses | isGood
      · rwa [content_write_of_misses misses]
      · rw [content_write]
        split
        · exact isGood
        · exact start
    rcases List.mem_cons.1 isStage with rfl | isLater
    · exact written
    · exact ih later written isLater

/-- An assignment that fits misses the header or keeps what is kept of it. -/
theorem MessageCapability.keeps_of_mem_assignments {capability : MessageCapability}
    {exponent : UInt8} (offered : exponent ≤ capability.offered) {target message : UInt32}
    {assignment : Assignment}
    (isAssigned : assignment ∈ capability.assignments target message exponent)
    (fits : assignment.fits capability.offset = true) (address : Address) :
    (assignment.toWrite address capability.offset).Misses ⟨address, capability.offset⟩ ∨
      assignment.value &&& keptMask = capability.control &&& keptMask := by
  have small := UInt8.le_trans offered capability.offered_le
  rw [assignments_eq, List.mem_append, List.mem_cons, List.mem_singleton] at isAssigned
  rcases isAssigned with (rfl | payload) | rfl
  · exact .inr (capability.prepared_and_keptMask small)
  · obtain ⟨isOne, behind⟩ := mem_distances_of_mem_payload payload
    have whole := mod_four_of_mem_distances isOne
    have apart : assignment.distance.toNat ≠ 0 := fun same => behind (UInt8.toNat_inj.1 same)
    have number := registerNumber_add (of_decide_eq_true fits) whole
    have other : registerNumber capability.offset ≠
        registerNumber (capability.offset + assignment.distance) := by omega
    exact .inl (.inr other)
  · exact .inr (capability.enabled_and_keptMask small)

/-! ## The states of a whole setup -/

/-- The states that a program passes through do not depend on what is made of its value. -/
theorem RegisterFile.statesAfterWrites_bind_done {α β : Type} (program : Program Config α)
    (result : α → β) (file : RegisterFile) :
    statesAfterWrites (program.bind fun value => .done (result value)) file =
      statesAfterWrites program file := by
  rw [statesAfterWrites, Program.moments_bind]
  rcases program.run environment file with ⟨_ | _, _⟩ <;>
    exact congrArg (List.filterMap _) (List.append_nil _)

/-- A refused setup passes through no other state, and any other through the stages of the
assignments that are made. -/
theorem statesAfterWrites_enableMessages (file : RegisterFile) (address : Address)
    (target message : UInt32) (exponent : UInt8) :
    ∃ searched : RegisterFile, searched.functionAt = file.functionAt ∧
      RegisterFile.statesAfterWrites (enableMessages address target message exponent) file =
        match ConfigSpace.value file.content (findMessageCapability address) with
        | .ok (.ok capability) =>
          if capability.offered < exponent then
            []
          else
            searched.stages (((capability.assignments target message exponent).takeWhile
              (·.fits capability.offset)).map (·.toWrite address capability.offset))
        | _ => [] := by
  obtain ⟨searched, ran, functions_eq, -⟩ := file.run_readOnly (findMessageCapability address)
  refine ⟨searched, functions_eq, ?_⟩
  rcases value_findMessageCapability file.content address with none | ⟨capability, found⟩
  · rw [none] at ran ⊢
    rw [enableMessages, Program.bind_eq, RegisterFile.statesAfterWrites_bind_ok ran,
      RegisterFile.statesAfterWrites_readOnly]
    rfl
  · rw [found] at ran ⊢
    rw [enableMessages, Program.bind_eq, RegisterFile.statesAfterWrites_bind_ok ran,
      RegisterFile.statesAfterWrites_readOnly, List.nil_append]
    dsimp only
    split
    · rfl
    · rw [← statesAfterWrites_assignAll address, ← writeMessageRegisters_eq]
      exact RegisterFile.statesAfterWrites_bind_done _ _ searched

/-- In every state that a setup passes through the header is kept, but for the enable bit and the
grant. -/
theorem kept_of_mem_statesAfterWrites {file state : RegisterFile} {address : Address}
    {entry : Capability} (first : IsFirstOf file.content address messageSignalled entry)
    {target message : UInt32} {exponent : UInt8}
    (passed : state ∈ RegisterFile.statesAfterWrites
      (enableMessages address target message exponent) file) :
    state.content ⟨address, entry.offset⟩ &&& MessageCapability.keptMask =
      entry.header &&& MessageCapability.keptMask := by
  obtain ⟨searched, functions_eq, states_eq⟩ :=
    statesAfterWrites_enableMessages file address target message exponent
  have found : ConfigSpace.value file.content (findMessageCapability address) =
      .ok (.ok ⟨entry.offset, entry.header⟩) :=
    Capability.value_findMessageCapability_eq_ok_iff.2 first
  obtain ⟨position, -, rfl, -, -⟩ := first
  rw [states_eq, found] at passed
  dsimp only at passed
  split at passed
  · cases passed
  · next offered =>
    let isKept (word : UInt32) : Prop :=
      word &&& MessageCapability.keptMask =
        (chainEntry file.content address position).header &&& MessageCapability.keptMask
    refine RegisterFile.content_of_mem_stages_of_each isKept (fun write made => ?_) ?_ passed
    · obtain ⟨assignment, isMade, rfl⟩ := List.mem_map.1 made
      have fits := List.mem_takeWhile_imp isMade
      have isAssigned := (List.takeWhile_prefix _).subset isMade
      exact MessageCapability.keeps_of_mem_assignments (UInt8.not_lt.1 offered) isAssigned fits
        address
    · rw [RegisterFile.content_eq_of_functionAt_eq functions_eq]
      rfl

/-! ## Refusals -/

section Refusals

variable (file : RegisterFile) (address : Address) (target message : UInt32) (exponent : UInt8)

/-- What a setup is refused for. -/
theorem run_enableMessages_eq_error_iff (kind : Failure) :
    ((enableMessages address target message exponent).run RegisterFile.environment file).1 =
        .ok (.error kind) ↔
      kind = .notFound ∧
          ConfigSpace.value file.content (findMessageCapability address) =
            .ok (.error .notFound) ∨
        kind = .unsupported ∧ ∃ capability,
          ConfigSpace.value file.content (findMessageCapability address) = .ok (.ok capability) ∧
            capability.offered < exponent := by
  obtain ⟨searched, -, -, ran⟩ := run_enableMessages file address target message exponent
  rw [ran]
  rcases value_findMessageCapability file.content address with none | ⟨capability, found⟩
  · rw [none]
    simp [eq_comm]
  · rw [found]
    dsimp only
    by_cases refused : capability.offered < exponent
    · rw [if_pos refused]
      simp [refused, eq_comm]
    · rw [if_neg refused]
      cases capability.fits <;> simp [refused]

/-- Too much is asked for, if bits 19 to 17 of the header say so. -/
theorem run_enableMessages_eq_unsupported_iff :
    ((enableMessages address target message exponent).run RegisterFile.environment file).1 =
        .ok (.error .unsupported) ↔
      ∃ entry, IsFirstOf file.content address messageSignalled entry ∧
        entry.header.toNat / 2 ^ 17 % 8 < exponent.toNat := by
  rw [run_enableMessages_eq_error_iff]
  constructor
  · rintro (⟨other, -⟩ | ⟨-, capability, found, less⟩)
    · cases other
    · refine ⟨⟨capability.offset, capability.control⟩,
        Capability.value_findMessageCapability_eq_ok_iff.1 found, ?_⟩
      rwa [UInt8.lt_iff_toNat_lt, capability.toNat_offered] at less
  · rintro ⟨entry, first, less⟩
    refine .inr ⟨rfl, ⟨entry.offset, entry.header⟩,
      Capability.value_findMessageCapability_eq_ok_iff.2 first, ?_⟩
    rwa [UInt8.lt_iff_toNat_lt, MessageCapability.toNat_offered]

/-- A refusal changes and writes nothing. -/
theorem untouched_of_error {kind : Failure}
    (refused : ((enableMessages address target message exponent).run
      RegisterFile.environment file).1 = .ok (.error kind)) :
    let ran := (enableMessages address target message exponent).run RegisterFile.environment file
    ran.2.functionAt = file.functionAt ∧ ran.2.writes = file.writes := by
  obtain ⟨searched, functions_eq, writes_eq, ran⟩ :=
    run_enableMessages file address target message exponent
  rw [run_enableMessages_eq_error_iff] at refused
  intro reached
  rcases refused with ⟨-, none⟩ | ⟨-, capability, found, refused⟩
  · rw [none] at ran
    simp only [reached, ran]
    exact ⟨functions_eq, writes_eq⟩
  · rw [found] at ran
    dsimp only at ran
    rw [if_pos refused] at ran
    simp only [reached, ran]
    exact ⟨functions_eq, writes_eq⟩

/-- **A setup is refused exactly if there is no capability or it offers too little, and a refusal
changes nothing.**  There is no capability if one comes to none by following the pointers, and
what it offers stands in bits 19 to 17 of its header.  However a setup ends, in no state that it
passes through has the header changed outside the enable bit and the grant. -/
theorem enableMessages_refuses_iff :
    let setup := enableMessages address target message exponent
    let ran := setup.run RegisterFile.environment file
    (ran.1 = .ok (.error .notFound) ↔
      ∀ position, ChainReaches file.content address position →
        (chainEntry file.content address position).id ≠ messageSignalled) ∧
    (ran.1 = .ok (.error .unsupported) ↔
      ∃ entry, IsFirstOf file.content address messageSignalled entry ∧
        entry.header.toNat / 2 ^ 17 % 8 < exponent.toNat) ∧
    (∀ kind, ran.1 = .ok (.error kind) → (kind = .notFound ∨ kind = .unsupported) ∧
      ran.2.functionAt = file.functionAt ∧ ran.2.writes = file.writes) ∧
    ∀ entry, IsFirstOf file.content address messageSignalled entry →
      ∀ state ∈ RegisterFile.statesAfterWrites setup file,
        state.content ⟨address, entry.offset⟩ &&& MessageCapability.keptMask =
          entry.header &&& MessageCapability.keptMask := by
  intro setup ran
  have refused := run_enableMessages_eq_error_iff file address target message exponent
  refine ⟨?_, ?_, fun kind isError => ⟨?_, ?_⟩, ?_⟩
  · rw [refused, Capability.value_findMessageCapability_eq_notFound_iff]
    simp
  · exact run_enableMessages_eq_unsupported_iff file address target message exponent
  · exact ((refused kind).1 isError).imp And.left And.left
  · exact untouched_of_error file address target message exponent isError
  · intro entry first state passed
    exact kept_of_mem_statesAfterWrites first passed

end Refusals

end KernelStart.Pci
