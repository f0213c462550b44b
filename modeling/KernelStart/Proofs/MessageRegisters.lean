import KernelStart.Program.Requests
import KernelStart.Proofs.MessageSetup
import Mathlib.Data.List.TakeWhile
import Mathlib.Tactic.IntervalCases

/-!
# The registers of a capability while messages are set up

A function may start to signal as soon as its enable bit is set, so a setup is right only if every
state that it passes through is.  `RegisterFile.statesAfterWrites` lists these states: one for
each write of a run.  For a setup that has room they are the stages of its assignments
(`enableMessages_of_fits`).

The first assignment turns signalling off, whatever was in the header, and the last one turns it
on.  In between only the registers behind the header are written, so signalling stays off until
the target and the message are in place, and the header that is written last is the one that
was found, but for the enable bit and the grant (`enableMessages_enables_last`).
-/

set_option autoImplicit false

namespace KernelStart.Pci

/-! ## The states that a run passes through -/

/-- The register file after a request, if that is a write. -/
def stateAfterWrite? (moment : Moment Config RegisterFile) : Option RegisterFile :=
  match moment.request with
  | .read _ => none
  | .write register value => some (moment.state.write register value)

namespace RegisterFile

/-- The register files after each write of a run, in order. -/
def statesAfterWrites {α : Type} (program : Program Config α) (file : RegisterFile) :
    List RegisterFile :=
  (program.moments environment file).filterMap stateAfterWrite?

/-- The register files after each of some writes, in order. -/
def stages (file : RegisterFile) : List ConfigWrite → List RegisterFile
  | [] => []
  | entry :: rest =>
    file.write entry.register entry.value :: (file.write entry.register entry.value).stages rest

theorem stages_concat (file : RegisterFile) (writes : List ConfigWrite) (last : ConfigWrite) :
    file.stages (writes ++ [last]) = file.stages writes ++ [file.writeAll (writes ++ [last])] := by
  induction writes generalizing file with
  | nil => rfl
  | cons entry rest ih => exact congrArg (List.cons _) (ih _)

theorem statesAfterWrites_bind_ok {α β : Type} {program : Program Config α}
    {file reached : RegisterFile} {value : α}
    (first : program.run environment file = (.ok value, reached)) (next : α → Program Config β) :
    statesAfterWrites (program.bind next) file =
      statesAfterWrites program file ++ statesAfterWrites (next value) reached := by
  rw [statesAfterWrites, Program.moments_bind_ok first, List.filterMap_append]
  rfl

/-- A reading program writes nothing. -/
theorem statesAfterWrites_readOnly {α : Type} (program : Program ConfigRead α)
    (file : RegisterFile) : statesAfterWrites (readOnly program) file = [] := by
  have read (register : ConfigRegister) : (@Program.request Config (.read register)).Asks
      fun request => ∃ register, request = ConfigRequest.read register := .request ⟨register, rfl⟩
  have reads : (readOnly program).Asks
      fun request => ∃ register, request = ConfigRequest.read register :=
    .interpret (fun register _ => read register) (.anything program)
  rw [statesAfterWrites, List.filterMap_eq_nil_iff]
  intro moment made
  obtain ⟨register, isRead⟩ := reads.of_mem_moments made
  rw [stateAfterWrite?, isRead]

/-! ## What writes leave alone -/

theorem content_eq_of_functionAt_eq {file other : RegisterFile}
    (functions_eq : file.functionAt = other.functionAt) : file.content = other.content := by
  funext register
  rw [content, content, functions_eq]

@[simp] theorem isSome_functionAt_write (file : RegisterFile) (register : ConfigRegister)
    (value : UInt32) (address : Address) :
    ((file.write register value).functionAt address).isSome =
      (file.functionAt address).isSome := by
  simp only [write, store]
  split <;> simp

theorem isSome_functionAt_writeAll (file : RegisterFile) (writes : List ConfigWrite)
    (address : Address) :
    ((file.writeAll writes).functionAt address).isSome = (file.functionAt address).isSome := by
  induction writes generalizing file with
  | nil => rfl
  | cons entry rest ih => exact (ih _).trans (file.isSome_functionAt_write _ _ _)

theorem content_writeAll_of_misses {writes : List ConfigWrite} {register : ConfigRegister}
    (misses : ∀ entry ∈ writes, entry.Misses register) (file : RegisterFile) :
    (file.writeAll writes).content register = file.content register := by
  induction writes generalizing file with
  | nil => rfl
  | cons entry rest ih =>
    obtain ⟨first, later⟩ := List.forall_mem_cons.1 misses
    exact (ih later _).trans (content_write_of_misses first file)

theorem content_of_mem_stages {writes : List ConfigWrite} {register : ConfigRegister}
    (misses : ∀ entry ∈ writes, entry.Misses register) {file state : RegisterFile}
    (isStage : state ∈ file.stages writes) : state.content register = file.content register := by
  induction writes generalizing file with
  | nil => cases isStage
  | cons entry rest ih =>
    obtain ⟨first, later⟩ := List.forall_mem_cons.1 misses
    rcases List.mem_cons.1 isStage with rfl | isLater
    · exact content_write_of_misses first file
    · exact (ih later isLater).trans (content_write_of_misses first file)

end RegisterFile

/-- Assignments pass through the stages of those that are made: all up to the first that does not
fit. -/
theorem statesAfterWrites_assignAll (address : Address) (offset : UInt8)
    (assignments : List Assignment) (file : RegisterFile) :
    RegisterFile.statesAfterWrites (assignAll address offset assignments) file =
      file.stages
        ((assignments.takeWhile (·.fits offset)).map (·.toWrite address offset)) := by
  induction assignments generalizing file with
  | nil => rfl
  | cons assignment rest ih =>
    rw [assignAll, Program.bind_eq]
    cases fits : assignment.fits offset with
    | true =>
      have first : (write address (offset + assignment.distance) assignment.value).run
          RegisterFile.environment file =
            (.ok (), file.writeAll [assignment.toWrite address offset]) := rfl
      rw [writeBehind_of_fits fits, RegisterFile.statesAfterWrites_bind_ok first, ih,
        List.takeWhile_cons_of_pos fits, List.map_cons]
      rfl
    | false =>
      rw [writeBehind_of_not_fits fits, List.takeWhile_cons_of_neg (Bool.eq_false_iff.1 fits)]
      rfl

/-- Registers at whole distances behind an offset follow each other. -/
theorem registerNumber_add {offset distance : UInt8}
    (inside : offset.toNat + distance.toNat < 256) (whole : distance.toNat % 4 = 0) :
    registerNumber (offset + distance) = registerNumber offset + distance.toNat / 4 := by
  rw [registerNumber, registerNumber, UInt8.toNat_add]
  omega

/-! ## The bits of the header -/

theorem word_eq_of_bits {first second : UInt32}
    (same : ∀ (bit : Nat) (inside : bit < 32), first.toBitVec[bit] = second.toBitVec[bit]) :
    first = second :=
  UInt32.toBitVec_inj.1 (BitVec.eq_of_getElem_eq same)

theorem byte_eq_of_bits {first second : UInt8}
    (same : ∀ (bit : Nat) (inside : bit < 8), first.toBitVec[bit] = second.toBitVec[bit]) :
    first = second :=
  UInt8.toBitVec_inj.1 (BitVec.eq_of_getElem_eq same)

namespace MessageCapability

/-- What a setup keeps of the header: all but the enable bit and the grant. -/
def keptMask : UInt32 := ~~~(enableBit ||| grantMask)

/-- Where the header says how many messages the function can use (bits 19 to 17). -/
def offerMask : UInt32 := 0x000e0000

theorem offered_le (capability : MessageCapability) : capability.offered ≤ 7 := by
  rw [offered, UInt8.le_iff_toNat_le]
  simp
  exact Nat.and_le_right

theorem and_seven {exponent : UInt8} (small : exponent ≤ 7) : exponent &&& 7 = exponent := by
  have cut : ∀ few : Fin 8, UInt8.ofNat few &&& 7 = UInt8.ofNat few := by decide
  have lt : exponent.toNat < 8 := Nat.lt_succ_of_le (UInt8.le_iff_toNat_le.1 small)
  simpa using cut ⟨exponent.toNat, lt⟩

section Bits

variable (capability : MessageCapability) (offset : UInt8)

/-- The prepared header has signalling off, even if it was on before. -/
theorem isEnabled_prepared (exponent : UInt8) :
    (MessageCapability.mk offset (capability.prepared exponent)).isEnabled = false := by
  have off : capability.prepared exponent &&& enableBit = 0 := by
    unfold prepared enableBit grantMask
    apply word_eq_of_bits
    intro bit inside
    interval_cases bit <;> simp
  rw [isEnabled, off]
  decide

theorem isEnabled_or_enableBit (control : UInt32) :
    (MessageCapability.mk offset (control ||| enableBit)).isEnabled = true := by
  have on : (control ||| enableBit) &&& enableBit = enableBit := by
    unfold enableBit
    apply word_eq_of_bits
    intro bit inside
    interval_cases bit <;> simp
  rw [isEnabled, on]
  decide

/-- Turning signalling on leaves the grant alone. -/
theorem granted_or_enableBit (control : UInt32) :
    (MessageCapability.mk offset (control ||| enableBit)).granted =
      (MessageCapability.mk offset control).granted := by
  rw [granted, granted, enableBit]
  apply byte_eq_of_bits
  intro bit inside
  interval_cases bit <;> simp

variable {exponent : UInt8} (small : exponent ≤ 7)
include small

/-- The prepared header grants what was asked for, whatever was granted before. -/
theorem granted_prepared :
    (MessageCapability.mk offset (capability.prepared exponent)).granted = exponent := by
  rw [granted, prepared, ← and_seven small, enableBit, grantMask]
  apply byte_eq_of_bits
  intro bit inside
  interval_cases bit <;> simp

theorem granted_enabled :
    (MessageCapability.mk offset (capability.prepared exponent ||| enableBit)).granted =
      exponent := by
  rw [granted_or_enableBit]
  exact capability.granted_prepared offset small

/-- The header that is written last differs from the one found in nothing that is kept. -/
theorem enabled_and_keptMask :
    (capability.prepared exponent ||| enableBit) &&& keptMask =
      capability.control &&& keptMask := by
  rw [prepared, ← and_seven small, keptMask, enableBit, grantMask]
  apply word_eq_of_bits
  intro bit inside
  interval_cases bit <;> simp

end Bits

/-- The same capability, perhaps enabled and granted differently: its kind, the next entry, and what
it can do. -/
structure IsSame (first second : MessageCapability) : Prop where
  id : (Capability.mk first.offset first.control).id =
    (Capability.mk second.offset second.control).id
  next : (Capability.mk first.offset first.control).next =
    (Capability.mk second.offset second.control).next
  offered : first.offered = second.offered
  wideAddress : first.hasWideAddress = second.hasWideAddress
  masking : first.canMask = second.canMask

/-- Headers that agree on what is kept are those of the same capability. -/
theorem isSame_of_kept (offset : UInt8) {first second : UInt32}
    (kept : first &&& keptMask = second &&& keptMask) :
    (mk offset first).IsSame (mk offset second) := by
  have id_eq (word : UInt32) : word.toUInt8 = (word &&& keptMask).toUInt8 := by
    unfold keptMask enableBit grantMask
    apply byte_eq_of_bits
    intro bit inside
    interval_cases bit <;> simp
  have next_eq (word : UInt32) : (word >>> 8).toUInt8 = ((word &&& keptMask) >>> 8).toUInt8 := by
    unfold keptMask enableBit grantMask
    apply byte_eq_of_bits
    intro bit inside
    interval_cases bit <;> simp
  have field_eq (field word : UInt32) (isKept : (field : UInt32) = keptMask &&& field) :
      word &&& field = (word &&& keptMask) &&& field := by
    rw [UInt32.and_assoc, ← isKept]
  have offered_eq (word : UInt32) : word >>> 17 &&& (7 : UInt32) = (word &&& offerMask) >>> 17 := by
    unfold offerMask
    apply word_eq_of_bits
    intro bit inside
    interval_cases bit <;> simp
  constructor
  · rw [Capability.id, Capability.id, id_eq, kept, ← id_eq]
  · rw [Capability.next, Capability.next, Capability.pointer, Capability.pointer, next_eq, kept,
      ← next_eq]
  · rw [offered, offered, offered_eq, offered_eq, field_eq offerMask first (by decide), kept,
      ← field_eq offerMask second (by decide)]
  · rw [hasWideAddress, hasWideAddress, field_eq wideAddressBit first (by decide), kept,
      ← field_eq wideAddressBit second (by decide)]
  · rw [canMask, canMask, field_eq maskingBit first (by decide), kept,
      ← field_eq maskingBit second (by decide)]

/-! ## Between the first assignment and the last -/

/-- What is assigned while signalling is off: the target, the upper half of a wide target, and the
message. -/
def payload (capability : MessageCapability) (target message : UInt32) : List Assignment :=
  [⟨4, target⟩] ++ (if capability.hasWideAddress then [⟨8, 0⟩] else []) ++
    [⟨capability.messageDistance, message⟩]

theorem assignments_eq (capability : MessageCapability) (target message : UInt32)
    (exponent : UInt8) :
    capability.assignments target message exponent =
      ⟨0, capability.prepared exponent⟩ :: capability.payload target message ++
        [⟨0, capability.prepared exponent ||| enableBit⟩] := by
  simp [assignments, payload]

/-- The distances behind the header at which a setup writes. -/
def distances (capability : MessageCapability) : List UInt8 :=
  [0, 4, 8] ++ if capability.hasWideAddress then [12] else []

/-- The register at one of these distances. -/
def register (capability : MessageCapability) (address : Address) (distance : UInt8) :
    ConfigRegister :=
  ⟨address, capability.offset + distance⟩

theorem register_zero (capability : MessageCapability) (address : Address) :
    capability.register address 0 = ⟨address, capability.offset⟩ := by
  rw [register, UInt8.add_zero]

/-- The capability as its header stands in a register file. -/
def reread (capability : MessageCapability) (address : Address) (file : RegisterFile) :
    MessageCapability :=
  ⟨capability.offset, file.content ⟨address, capability.offset⟩⟩

/-- Target and message are in their registers. -/
structure IsLoaded (capability : MessageCapability) (address : Address)
    (target message : UInt32) (file : RegisterFile) : Prop where
  target : file.content (capability.register address 4) = target
  narrow : capability.hasWideAddress = false →
    file.content (capability.register address 8) = message
  wide : capability.hasWideAddress = true →
    file.content (capability.register address 8) = 0 ∧
      file.content (capability.register address 12) = message

theorem mem_distances_of_mem_payload {capability : MessageCapability} {target message : UInt32}
    {assignment : Assignment} (isAssigned : assignment ∈ capability.payload target message) :
    assignment.distance ∈ capability.distances ∧ assignment.distance ≠ 0 := by
  cases wide : capability.hasWideAddress with
  | false =>
    simp only [payload, messageDistance, wide] at isAssigned
    simp at isAssigned
    rcases isAssigned with rfl | rfl <;> simp [distances]
  | true =>
    simp only [payload, messageDistance, wide] at isAssigned
    simp at isAssigned
    rcases isAssigned with rfl | rfl | rfl <;> simp [distances, wide]

/-- The distances are those of whole registers. -/
theorem mod_four_of_mem_distances {capability : MessageCapability} {distance : UInt8}
    (isOne : distance ∈ capability.distances) : distance.toNat % 4 = 0 := by
  revert distance
  cases wide : capability.hasWideAddress <;> simp [distances, wide]

section Registers

variable {capability : MessageCapability} (fits : capability.fits = true)
include fits

/-- The registers of a capability that has room follow each other. -/
theorem registerNumber_of_mem_distances {distance : UInt8}
    (isOne : distance ∈ capability.distances) :
    registerNumber (capability.offset + distance) =
      registerNumber capability.offset + distance.toNat / 4 := by
  have inside : capability.offset.toNat + capability.messageDistance.toNat < 256 :=
    of_decide_eq_true fits
  have within : distance.toNat ≤ capability.messageDistance.toNat := by
    revert distance
    cases wide : capability.hasWideAddress <;> simp [distances, messageDistance, wide]
  exact registerNumber_add (by omega) (mod_four_of_mem_distances isOne)

theorem misses_of_ne {first second : UInt8} (isFirst : first ∈ capability.distances)
    (isSecond : second ∈ capability.distances) (other : first ≠ second) (address : Address)
    (value : UInt32) :
    ConfigWrite.Misses ⟨capability.register address first, value⟩
      (capability.register address second) := by
  have firstWhole := mod_four_of_mem_distances isFirst
  have secondWhole := mod_four_of_mem_distances isSecond
  have apart : first.toNat ≠ second.toNat := fun same => other (UInt8.toNat_inj.1 same)
  refine .inr fun same => ?_
  have sameNumber : registerNumber (capability.offset + second) =
      registerNumber (capability.offset + first) := same
  rw [registerNumber_of_mem_distances fits isFirst,
    registerNumber_of_mem_distances fits isSecond] at sameNumber
  omega

/-- The payload leaves the header alone. -/
theorem payload_misses_header (address : Address) (target message : UInt32) :
    ∀ entry ∈ (capability.payload target message).map (·.toWrite address capability.offset),
      entry.Misses (capability.register address 0) := by
  intro entry written
  obtain ⟨assignment, isAssigned, rfl⟩ := List.mem_map.1 written
  obtain ⟨isOne, behind⟩ := mem_distances_of_mem_payload isAssigned
  exact misses_of_ne fits isOne (by simp [distances]) behind address assignment.value

/-- Once the payload is written, target and message are in their registers. -/
theorem isLoaded_payload {address : Address} {file : RegisterFile}
    (present : (file.functionAt address).isSome = true) (target message : UInt32) :
    capability.IsLoaded address target message
      (file.writeAll ((capability.payload target message).map
        (·.toWrite address capability.offset))) := by
  have four : registerNumber (capability.offset + 4) = registerNumber capability.offset + 1 :=
    registerNumber_of_mem_distances fits (by simp [distances])
  have eight : registerNumber (capability.offset + 8) = registerNumber capability.offset + 2 :=
    registerNumber_of_mem_distances fits (by simp [distances])
  have twelve (wide : capability.hasWideAddress = true) :
      registerNumber (capability.offset + 12) = registerNumber capability.offset + 3 :=
    registerNumber_of_mem_distances fits (by simp [distances, wide])
  refine ⟨?_, ?_, ?_⟩
  · cases wide : capability.hasWideAddress with
    | false =>
      simp [payload, messageDistance, wide, RegisterFile.writeAll, Assignment.toWrite, register,
        RegisterFile.content_write, present, four, eight]
    | true =>
      simp [payload, messageDistance, wide, RegisterFile.writeAll, Assignment.toWrite, register,
        RegisterFile.content_write, present, four, eight, twelve wide]
  · intro narrow
    simp [payload, messageDistance, narrow, RegisterFile.writeAll, Assignment.toWrite, register,
      RegisterFile.content_write, present]
  · intro wide
    simp [payload, messageDistance, wide, RegisterFile.writeAll, Assignment.toWrite, register,
      RegisterFile.content_write, present, eight, twelve wide]

end Registers

end MessageCapability

/-! ## A setup that succeeds -/

/-- With an offer that is large enough and room for the registers, the setup makes all assignments
and passes through their stages. -/
theorem enableMessages_of_fits {file : RegisterFile} {address : Address}
    {capability : MessageCapability}
    (found : ConfigSpace.value file.content (findMessageCapability address) = .ok (.ok capability))
    {exponent : UInt8} (offered : exponent ≤ capability.offered) (fits : capability.fits = true)
    (target message : UInt32) :
    let writes := (capability.assignments target message exponent).map
      (·.toWrite address capability.offset)
    ∃ searched : RegisterFile, searched.functionAt = file.functionAt ∧
      (enableMessages address target message exponent).run RegisterFile.environment file =
        (.ok (.ok ()), searched.writeAll writes) ∧
      RegisterFile.statesAfterWrites (enableMessages address target message exponent) file =
        searched.stages writes := by
  intro writes
  obtain ⟨searched, ran, functions_eq, -⟩ := file.run_readOnly (findMessageCapability address)
  rw [found] at ran
  have allFit := (capability.all_fits_assignments target message exponent).trans fits
  have allMade := List.takeWhile_eq_self_iff.2 (List.all_eq_true.1 allFit)
  have assigned : (writeMessageRegisters address capability target message exponent).run
      RegisterFile.environment searched = (.ok (), searched.writeAll writes) := by
    rw [writeMessageRegisters_eq, run_assignAll, if_pos allFit, allMade]
  refine ⟨searched, functions_eq, ?_, ?_⟩
  · rw [enableMessages, Program.bind_eq, Program.run_bind_ok ran]
    dsimp only
    rw [if_neg (UInt8.not_lt.2 offered), Program.bind_eq, Program.run_bind_ok assigned]
    rfl
  · rw [enableMessages, Program.bind_eq, RegisterFile.statesAfterWrites_bind_ok ran,
      RegisterFile.statesAfterWrites_readOnly, List.nil_append]
    dsimp only
    rw [if_neg (UInt8.not_lt.2 offered), Program.bind_eq,
      RegisterFile.statesAfterWrites_bind_ok assigned, writeMessageRegisters_eq,
      statesAfterWrites_assignAll, allMade]
    exact List.append_nil _

/-- A setup that turns signalling on last: it comes from a register file through earlier states to
the one in which everything is ready, and from there by one write to the final one. -/
structure EnabledLast (file : RegisterFile) (address : Address) (capability : MessageCapability)
    (target message : UInt32) (exponent : UInt8) (earlier : List RegisterFile)
    (ready final : RegisterFile) : Prop where
  silent : ∀ state ∈ earlier ++ [ready], (capability.reread address state).isEnabled = false
  loaded : capability.IsLoaded address target message ready
  granted : (capability.reread address ready).granted = exponent
  last : ∃ header, final = ready.write ⟨address, capability.offset⟩ header
  enabled : (capability.reread address final).isEnabled = true
  grantedLast : (capability.reread address final).granted = exponent
  /-- Of the header only the enable bit and the grant have changed. -/
  kept : (capability.reread address final).control &&& MessageCapability.keptMask =
    file.content ⟨address, capability.offset⟩ &&& MessageCapability.keptMask
  same : (capability.reread address final).IsSame (capability.reread address file)
  elsewhere : ∀ register : ConfigRegister, (∀ distance ∈ capability.distances,
      register.address ≠ address ∨
        registerNumber register.offset ≠ registerNumber (capability.offset + distance)) →
    final.content register = file.content register

/-- What was read before the first write does not matter. -/
theorem EnabledLast.congr_start {start file : RegisterFile} {address : Address}
    {capability : MessageCapability} {target message : UInt32} {exponent : UInt8}
    {earlier : List RegisterFile} {ready final : RegisterFile}
    (enabledLast : EnabledLast start address capability target message exponent earlier ready final)
    (content_eq : start.content = file.content) :
    EnabledLast file address capability target message exponent earlier ready final where
  silent := enabledLast.silent
  loaded := enabledLast.loaded
  granted := enabledLast.granted
  last := enabledLast.last
  enabled := enabledLast.enabled
  grantedLast := enabledLast.grantedLast
  kept := content_eq ▸ enabledLast.kept
  same := by
    have same := enabledLast.same
    rwa [MessageCapability.reread, MessageCapability.reread, content_eq] at same
  elsewhere := by
    intro register apart
    rw [← content_eq]
    exact enabledLast.elsewhere register apart

section Stages

variable {file : RegisterFile} {address : Address} {capability : MessageCapability}
  {exponent : UInt8}

/-- The write of a header. -/
def MessageCapability.headerWrite (capability : MessageCapability) (address : Address)
    (header : UInt32) : ConfigWrite :=
  ⟨⟨address, capability.offset⟩, header⟩

/-- The writes between those of the header. -/
def MessageCapability.payloadWrites (capability : MessageCapability) (address : Address)
    (target message : UInt32) : List ConfigWrite :=
  (capability.payload target message).map (·.toWrite address capability.offset)

theorem MessageCapability.writes_eq (capability : MessageCapability) (address : Address)
    (target message : UInt32) (exponent : UInt8) :
    (capability.assignments target message exponent).map (·.toWrite address capability.offset) =
      capability.headerWrite address (capability.prepared exponent) ::
          capability.payloadWrites address target message ++
        [capability.headerWrite address (capability.prepared exponent ||| enableBit)] := by
  simp [assignments_eq, headerWrite, payloadWrites, Assignment.toWrite]

/-- The stages up to the one in which everything is ready, and the one after it. -/
theorem MessageCapability.stages_eq (capability : MessageCapability) (address : Address)
    (target message : UInt32) (exponent : UInt8) (file : RegisterFile) :
    let first := capability.headerWrite address (capability.prepared exponent)
    let last := capability.headerWrite address (capability.prepared exponent ||| enableBit)
    let payload := capability.payloadWrites address target message
    ∃ earlier, file.stages (first :: payload) = earlier ++ [file.writeAll (first :: payload)] ∧
      file.stages (first :: payload ++ [last]) =
        earlier ++ [file.writeAll (first :: payload),
          file.writeAll (first :: payload ++ [last])] := by
  intro first last payload
  have some : payload ≠ [] := by simp [payload, payloadWrites, MessageCapability.payload]
  have split : first :: payload = (first :: payload.dropLast) ++ [payload.getLast some] := by
    rw [List.cons_append, List.dropLast_concat_getLast]
  have stages_eq := file.stages_concat (first :: payload.dropLast) (payload.getLast some)
  rw [← split] at stages_eq
  refine ⟨file.stages (first :: payload.dropLast), stages_eq, ?_⟩
  rw [file.stages_concat, stages_eq, List.append_assoc]
  rfl

variable (fits : capability.fits = true)
include fits

/-- Until the last write the header is the prepared one. -/
theorem content_of_mem_stages_payload
    (present : (file.functionAt address).isSome = true) (target message : UInt32)
    {state : RegisterFile}
    (isStage : state ∈ file.stages
      (capability.headerWrite address (capability.prepared exponent) ::
        capability.payloadWrites address target message)) :
    capability.reread address state = ⟨capability.offset, capability.prepared exponent⟩ := by
  have misses := capability.payload_misses_header fits address target message
  rw [capability.register_zero] at misses
  have written : (file.write ⟨address, capability.offset⟩ (capability.prepared exponent)).content
      ⟨address, capability.offset⟩ = capability.prepared exponent := by
    simp [RegisterFile.content_write, present]
  rw [MessageCapability.reread, MessageCapability.mk.injEq]
  refine ⟨rfl, ?_⟩
  rcases List.mem_cons.1 isStage with rfl | isLater
  · exact written
  · exact (RegisterFile.content_of_mem_stages misses isLater).trans written

/-- The stages of the assignments turn signalling on last. -/
theorem enabledLast_stages (present : (file.functionAt address).isSome = true)
    (found : capability.control = file.content ⟨address, capability.offset⟩)
    (offered : exponent ≤ capability.offered) (target message : UInt32) :
    let writes := (capability.assignments target message exponent).map
      (·.toWrite address capability.offset)
    ∃ earlier ready, file.stages writes = earlier ++ [ready, file.writeAll writes] ∧
      EnabledLast file address capability target message exponent earlier ready
        (file.writeAll writes) := by
  obtain ⟨earlier, upToReady, all⟩ := capability.stages_eq address target message exponent file
  have small := UInt8.le_trans offered capability.offered_le
  let first := capability.headerWrite address (capability.prepared exponent)
  let enabled := capability.prepared exponent ||| MessageCapability.enableBit
  let payload := capability.payloadWrites address target message
  let ready := file.writeAll (first :: payload)
  have prepared := fun state isStage =>
    @content_of_mem_stages_payload file address capability exponent fits present target message
      state isStage
  rw [upToReady] at prepared
  have readyPresent : (ready.functionAt address).isSome = true :=
    (file.isSome_functionAt_writeAll _ _).trans present
  have final_eq : file.writeAll (first :: payload ++ [capability.headerWrite address enabled]) =
      ready.write ⟨address, capability.offset⟩ enabled := List.foldl_append ..
  have final : capability.reread address (ready.write ⟨address, capability.offset⟩ enabled) =
      ⟨capability.offset, enabled⟩ := by
    simp [MessageCapability.reread, RegisterFile.content_write, readyPresent]
  have kept : enabled &&& MessageCapability.keptMask =
      file.content ⟨address, capability.offset⟩ &&& MessageCapability.keptMask := by
    rw [← found]
    exact capability.enabled_and_keptMask small
  rw [capability.writes_eq]
  refine ⟨earlier, ready, all, ?_⟩
  rw [final_eq]
  constructor
  case silent =>
    intro state isStage
    rw [prepared state isStage]
    exact capability.isEnabled_prepared _ exponent
  case loaded =>
    exact MessageCapability.isLoaded_payload fits
      ((file.isSome_functionAt_write _ _ _).trans present) target message
  case granted =>
    rw [prepared ready (by simp [ready, first, payload])]
    exact capability.granted_prepared _ small
  case last => exact ⟨enabled, rfl⟩
  case enabled =>
    rw [final]
    exact MessageCapability.isEnabled_or_enableBit _ _
  case grantedLast =>
    rw [final]
    exact capability.granted_enabled _ small
  case kept =>
    rw [final]
    exact kept
  case same =>
    rw [final]
    exact MessageCapability.isSame_of_kept capability.offset kept
  case elsewhere =>
    intro register apart
    have headerApart := apart 0 (by simp [MessageCapability.distances])
    rw [UInt8.add_zero] at headerApart
    have payloadApart : ∀ entry ∈ payload, entry.Misses register := by
      intro entry written
      obtain ⟨assignment, isAssigned, rfl⟩ := List.mem_map.1 written
      exact apart _ (MessageCapability.mem_distances_of_mem_payload isAssigned).1
    have headerMissed (header : UInt32) : (capability.headerWrite address header).Misses register :=
      headerApart
    refine (RegisterFile.content_write_of_misses (headerMissed enabled) ready).trans ?_
    refine RegisterFile.content_writeAll_of_misses ?_ file
    exact List.forall_mem_cons.2 ⟨headerMissed _, payloadApart⟩

end Stages

/-- **A setup turns signalling on last, and changes nothing but the registers of the capability.**
If the first capability for messages on the chain of an existing function has room and offers
enough, the setup succeeds.  Signalling is off after every write but the last, also if it was on
before; the last write finds target, message and grant in place; and in the end the header
differs from the one found in the enable bit and the grant alone. -/
theorem enableMessages_enables_last {file : RegisterFile} {address : Address} {entry : Capability}
    {exponent : UInt8} (present : (file.functionAt address).isSome = true)
    (first : Capability.IsFirstOf file.content address Capability.messageSignalled entry)
    (offered : exponent ≤ (MessageCapability.mk entry.offset entry.header).offered)
    (room : entry.offset.toNat ≤
      if (MessageCapability.mk entry.offset entry.header).hasWideAddress then 0xf0 else 0xf4)
    (target message : UInt32) :
    let setup := enableMessages address target message exponent
    ∃ earlier ready final,
      setup.run RegisterFile.environment file = (.ok (.ok ()), final) ∧
        RegisterFile.statesAfterWrites setup file = earlier ++ [ready, final] ∧
        EnabledLast file address ⟨entry.offset, entry.header⟩ target message exponent earlier ready
          final := by
  have fits : (MessageCapability.mk entry.offset entry.header).fits = true := by
    refine decide_eq_true ?_
    unfold MessageCapability.messageDistance
    split at room <;> simp [*] <;> omega
  have found : ConfigSpace.value file.content (findMessageCapability address) =
      .ok (.ok ⟨entry.offset, entry.header⟩) :=
    Capability.value_findMessageCapability_eq_ok_iff.2 first
  obtain ⟨position, -, rfl, -, -⟩ := first
  obtain ⟨searched, functions_eq, ran, states_eq⟩ :=
    enableMessages_of_fits found offered fits target message
  have content_eq : searched.content = file.content :=
    RegisterFile.content_eq_of_functionAt_eq functions_eq
  have foundHeader : (Capability.chainEntry file.content address position).header =
      searched.content ⟨address, (Capability.chainEntry file.content address position).offset⟩ := by
    rw [content_eq]
    rfl
  obtain ⟨earlier, ready, stages_eq, enabledLast⟩ :=
    enabledLast_stages fits (by rw [functions_eq]; exact present) foundHeader offered target message
  exact ⟨earlier, ready, _, ran, states_eq.trans stages_eq, enabledLast.congr_start content_eq⟩

/-- A wide capability behind another one, which was left enabled with eight messages and is set up
for two. -/
theorem enableMessages_enables_last_reenabled :
    let address : Address := ⟨0, 3, 0⟩
    let file := RegisterFile.ofList [⟨address, 0x1b36, 0x000d, ⟨0x0c, 0x03, 0x30⟩, 0,
      [(capabilityPointerOffset, 0x40), (0x40, 0x5001), (0x50, 0x00b70005)]⟩]
    let capability : MessageCapability := ⟨0x50, 0x00b70005⟩
    let setup := enableMessages address 0xfee00000 0x41 1
    (file.functionAt address).isSome = true ∧
      Capability.IsFirstOf file.content address Capability.messageSignalled ⟨0x50, 0x00b70005⟩ ∧
      1 ≤ capability.offered ∧
      (0x50 : UInt8).toNat ≤ (if capability.hasWideAddress then 0xf0 else 0xf4) ∧
      (capability.reread address file).isEnabled = true ∧
      (capability.reread address file).granted = 3 ∧
      ∃ earlier ready final,
        setup.run RegisterFile.environment file = (.ok (.ok ()), final) ∧
          RegisterFile.statesAfterWrites setup file = earlier ++ [ready, final] ∧
          EnabledLast file address capability 0xfee00000 0x41 1 earlier ready final := by
  intro address file capability setup
  have present : (file.functionAt address).isSome = true := by decide
  have first : Capability.IsFirstOf file.content address Capability.messageSignalled
      ⟨0x50, 0x00b70005⟩ := by
    refine ⟨1, ?_, by decide, by decide, ?_⟩
    · intro earlier le
      interval_cases earlier <;> decide
    · intro earlier before
      interval_cases earlier
      decide
  have offered : 1 ≤ capability.offered := by decide
  have room : (0x50 : UInt8).toNat ≤
      if capability.hasWideAddress then 0xf0 else 0xf4 := by decide
  exact ⟨present, first, offered, room, by decide, by decide,
    enableMessages_enables_last present first offered room 0xfee00000 0x41⟩

end KernelStart.Pci
