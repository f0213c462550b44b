import KernelStart.Proofs.CapabilitySearch

/-!
# When setting up messages is all or nothing

Setting up message signalled interrupts writes four or five registers behind the
capability header, and each register offset is a checked sum.  The header comes from a
list in the hardware, which may place it anywhere up to the last register of
configuration space; and the header itself is written first.  So a sum that does not
fit a byte strikes after the first write.

What is written is a list of assignments (`MessageCapability.assignments`), and a run of such a
list is described for any list at all (`run_assignAll`): the assignments are made up to the
first whose register does not fit.  The header always fits, and the register that holds
the message is the farthest one; hence the exact condition under which a setup either
succeeds or leaves configuration space alone (`SetupFits`).
-/

set_option autoImplicit false

namespace KernelStart.Pci

/-! ## Assignments to the registers behind an offset -/

/-- A register at a distance behind the capability header, and the value for it. -/
structure Assignment where
  distance : UInt8
  value : UInt32
  deriving DecidableEq, Repr

namespace Assignment

/-- The register lies inside configuration space. -/
def fits (offset : UInt8) (assignment : Assignment) : Bool :=
  decide (offset.toNat + assignment.distance.toNat < 256)

/-- The write that an assignment comes to. -/
def toWrite (address : Address) (offset : UInt8) (assignment : Assignment) : ConfigWrite :=
  ⟨⟨address, offset + assignment.distance⟩, assignment.value⟩

end Assignment

/-- Makes assignments in order. -/
def assignAll (address : Address) (offset : UInt8) : List Assignment → Program Config Unit
  | [] => pure ()
  | assignment :: rest => do
    writeBehind address offset assignment.distance assignment.value
    assignAll address offset rest

/-- A register file after writes in order. -/
def RegisterFile.writeAll (file : RegisterFile) (writes : List ConfigWrite) : RegisterFile :=
  writes.foldl (fun reached entry => reached.write entry.register entry.value) file

@[simp] theorem RegisterFile.writes_writeAll (file : RegisterFile) (writes : List ConfigWrite) :
    (file.writeAll writes).writes = writes.reverse ++ file.writes := by
  induction writes generalizing file with
  | nil => rfl
  | cons entry rest ih =>
    rw [writeAll, List.foldl_cons, ← writeAll, ih, List.reverse_cons, List.append_assoc]
    rfl

/-- A write that leaves a register alone. -/
def ConfigWrite.Misses (entry : ConfigWrite) (register : ConfigRegister) : Prop :=
  register.address ≠ entry.register.address ∨
    registerNumber register.offset ≠ registerNumber entry.register.offset

theorem RegisterFile.content_write_of_misses {entry : ConfigWrite} {register : ConfigRegister}
    (misses : entry.Misses register) (file : RegisterFile) :
    (file.write entry.register entry.value).content register = file.content register := by
  rw [content_write, if_neg]
  rintro ⟨sameAddress, sameNumber, -⟩
  exact misses.elim (· sameAddress) (· sameNumber)

theorem writeBehind_of_fits {offset : UInt8} {assignment : Assignment}
    (fits : assignment.fits offset = true) (address : Address) :
    writeBehind address offset assignment.distance assignment.value =
      write address (offset + assignment.distance) assignment.value := by
  have sum : addOffset? offset assignment.distance = some (offset + assignment.distance) :=
    if_pos (of_decide_eq_true fits)
  rw [writeBehind, sum]
  rfl

theorem writeBehind_of_not_fits {offset : UInt8} {assignment : Assignment}
    (beyond : assignment.fits offset = false) (address : Address) :
    writeBehind address offset assignment.distance assignment.value =
      .panic .arithmeticOverflow := by
  have sum : addOffset? offset assignment.distance = none :=
    if_neg (of_decide_eq_false beyond)
  rw [writeBehind, sum]
  rfl

/-- Assignments are made up to the first whose register does not fit; that one is a panic. -/
theorem run_assignAll (address : Address) (offset : UInt8) (assignments : List Assignment)
    (file : RegisterFile) :
    (assignAll address offset assignments).run RegisterFile.environment file =
      (if assignments.all (·.fits offset) then .ok () else .error (.panic .arithmeticOverflow),
        file.writeAll
          ((assignments.takeWhile (·.fits offset)).map (·.toWrite address offset))) := by
  induction assignments generalizing file with
  | nil => rfl
  | cons assignment rest ih =>
    rw [assignAll, Program.bind_eq, List.all_cons]
    cases fits : assignment.fits offset with
    | true =>
      have first : (write address (offset + assignment.distance) assignment.value).run
          RegisterFile.environment file =
            (.ok (), file.writeAll [assignment.toWrite address offset]) := rfl
      rw [writeBehind_of_fits fits, Program.run_bind_ok first, ih, Bool.true_and,
        List.takeWhile_cons_of_pos fits, List.map_cons]
      rfl
    | false =>
      rw [writeBehind_of_not_fits fits, List.takeWhile_cons_of_neg (Bool.eq_false_iff.1 fits)]
      rfl

/-! ## The registers of a capability -/

namespace MessageCapability

/-- What is assigned to set a capability up: the header with signalling off, the target, the
upper half of a wide target, the message, and the header with signalling on. -/
def assignments (capability : MessageCapability) (target message : UInt32) (exponent : UInt8) :
    List Assignment :=
  [⟨0, capability.prepared exponent⟩, ⟨4, target⟩] ++
    (if capability.hasWideAddress then [⟨8, 0⟩] else []) ++
    [⟨capability.messageDistance, message⟩, ⟨0, capability.prepared exponent ||| enableBit⟩]

/-- The register for the message lies inside configuration space. -/
def fits (capability : MessageCapability) : Bool :=
  decide (capability.offset.toNat + capability.messageDistance.toNat < 256)

/-- If the register for the message fits, all registers do. -/
theorem all_fits_assignments (capability : MessageCapability) (target message : UInt32)
    (exponent : UInt8) :
    (capability.assignments target message exponent).all (·.fits capability.offset) =
      capability.fits := by
  have header := capability.offset.toNat_lt
  rw [Bool.eq_iff_iff]
  -- The header is at distance 0, and no other register is farther than the one for the message.
  by_cases wide : capability.hasWideAddress = true
  · simp [assignments, messageDistance, fits, Assignment.fits, wide]
    omega
  · simp [assignments, messageDistance, fits, Assignment.fits, wide]
    omega

end MessageCapability

/-- Writing the registers of a capability makes its assignments. -/
theorem writeMessageRegisters_eq (address : Address) (capability : MessageCapability)
    (target message : UInt32) (exponent : UInt8) :
    writeMessageRegisters address capability target message exponent =
      assignAll address capability.offset (capability.assignments target message exponent) := by
  have header (value : UInt32) : write address capability.offset value =
      writeBehind address capability.offset 0 value := by
    have inside : (Assignment.mk 0 value).fits capability.offset = true :=
      decide_eq_true capability.offset.toNat_lt
    rw [writeBehind_of_fits inside, UInt8.add_zero]
  have last (program : Program Config Unit) : (program.bind fun _ => .done ()) = program :=
    program.bind_done
  by_cases wide : capability.hasWideAddress = true
  · simp [writeMessageRegisters, MessageCapability.assignments, assignAll, wide, header, last]
  · simp [writeMessageRegisters, MessageCapability.assignments, assignAll, wide, header, last]

/-! ## Looking for the capability -/

/-- Looking for the capability either finds it or finds that there is none. -/
theorem value_findMessageCapability (space : ConfigSpace) (address : Address) :
    space.value (findMessageCapability address) = .ok (.error .notFound) ∨
      ∃ capability, space.value (findMessageCapability address) = .ok (.ok capability) := by
  rw [Capability.value_findMessageCapability_chain]
  cases (Capability.chain space address).find? fun entry =>
      entry.id == Capability.messageSignalled with
  | none => exact .inl rfl
  | some entry => exact .inr ⟨_, rfl⟩

/-! ## The whole setup -/

/-- What a setup comes to, and what it leaves behind: the search only reads, a refusal ends the
setup, and otherwise the assignments are made as far as their registers fit. -/
theorem run_enableMessages (file : RegisterFile) (address : Address) (target message : UInt32)
    (exponent : UInt8) :
    ∃ searched : RegisterFile,
      searched.functionAt = file.functionAt ∧ searched.writes = file.writes ∧
      (enableMessages address target message exponent).run RegisterFile.environment file =
        match ConfigSpace.value file.content (findMessageCapability address) with
        | .error stop => (.error stop, searched)
        | .ok (.error kind) => (.ok (.error kind), searched)
        | .ok (.ok capability) =>
          if capability.offered < exponent then
            (.ok (.error .unsupported), searched)
          else
            (if capability.fits then .ok (.ok ()) else .error (.panic .arithmeticOverflow),
              searched.writeAll (((capability.assignments target message exponent).takeWhile
                (·.fits capability.offset)).map (·.toWrite address capability.offset))) := by
  obtain ⟨searched, ran, functions_eq, writes_eq⟩ :=
    file.run_readOnly (findMessageCapability address)
  refine ⟨searched, functions_eq, writes_eq, ?_⟩
  rw [enableMessages, Program.bind_eq, Program.run_bind, ran]
  rcases ConfigSpace.value file.content (findMessageCapability address) with
    stop | (kind | capability)
  · rfl
  · rfl
  · dsimp only
    by_cases refused : capability.offered < exponent
    · rw [if_pos refused, if_pos refused]
      rfl
    · rw [if_neg refused, if_neg refused, writeMessageRegisters_eq, Program.bind_eq,
        Program.run_bind, run_assignAll, MessageCapability.all_fits_assignments]
      cases capability.fits <;> rfl

/-- A run from a register file is all or nothing if it returns, and changes and writes no register
unless it succeeds. -/
structure AllOrNothing (before : RegisterFile)
    (ran : Except Stop (Except Failure Unit) × RegisterFile) : Prop where
  returns : ∃ result, ran.1 = .ok result
  untouched : ran.1 ≠ .ok (.ok ()) →
    ran.2.functionAt = before.functionAt ∧ ran.2.writes = before.writes

/-- The setup does not get to registers that lie outside configuration space: there is no
capability, or it offers too little, or its register for the message lies inside. -/
def SetupFits (space : ConfigSpace) (address : Address) (exponent : UInt8) : Prop :=
  ∀ capability, space.value (findMessageCapability address) = .ok (.ok capability) →
    exponent ≤ capability.offered →
      capability.offset.toNat + capability.messageDistance.toNat < 256

/-- A setup is all or nothing exactly when it does not get to registers outside. -/
theorem allOrNothing_iff_setupFits (file : RegisterFile) (address : Address)
    (target message : UInt32) (exponent : UInt8) :
    AllOrNothing file
        ((enableMessages address target message exponent).run RegisterFile.environment file) ↔
      SetupFits file.content address exponent := by
  obtain ⟨searched, functions_eq, writes_eq, ran⟩ :=
    run_enableMessages file address target message exponent
  have refusal (kind : Failure) : AllOrNothing file (.ok (.error kind), searched) :=
    ⟨⟨_, rfl⟩, fun _ => ⟨functions_eq, writes_eq⟩⟩
  rw [ran]
  rcases value_findMessageCapability file.content address with none | ⟨capability, found⟩
  · rw [none]
    refine iff_of_true (refusal .notFound) fun capability found => ?_
    rw [none] at found
    cases found
  · have setupFits_iff : SetupFits file.content address exponent ↔
        (exponent ≤ capability.offered → capability.fits = true) := by
      rw [SetupFits, found, MessageCapability.fits, decide_eq_true_iff]
      constructor
      · intro inside
        exact inside capability rfl
      · rintro inside _ ⟨⟩
        exact inside
    rw [found, setupFits_iff]
    dsimp only
    by_cases refused : capability.offered < exponent
    · rw [if_pos refused]
      exact iff_of_true (refusal .unsupported) fun offered =>
        absurd refused (UInt8.not_lt.2 offered)
    · rw [if_neg refused]
      cases fits : capability.fits with
      | true =>
        refine iff_of_true ⟨⟨_, rfl⟩, fun failed => ?_⟩ fun _ => rfl
        exact absurd rfl failed
      | false =>
        refine iff_of_false (fun whole => ?_) fun inside => ?_
        · obtain ⟨result, returned⟩ := whole.returns
          cases returned
        · cases inside (UInt8.not_lt.1 refused)

/-- A setup that gets to registers outside panics there, and by then has written the header. -/
theorem panic_of_not_setupFits {file : RegisterFile} {address : Address} {exponent : UInt8}
    (outside : ¬SetupFits file.content address exponent) (target message : UInt32) :
    let ran := (enableMessages address target message exponent).run RegisterFile.environment file
    ran.1 = .error (.panic .arithmeticOverflow) ∧
      ∃ (header : ConfigWrite) (later : List ConfigWrite),
        ran.2.writes = later ++ header :: file.writes := by
  obtain ⟨capability, found, offered, beyond⟩ : ∃ capability,
      ConfigSpace.value file.content (findMessageCapability address) = .ok (.ok capability) ∧
        exponent ≤ capability.offered ∧
        ¬capability.offset.toNat + capability.messageDistance.toNat < 256 := by
    simpa [SetupFits] using outside
  obtain ⟨searched, -, writes_eq, ran⟩ := run_enableMessages file address target message exponent
  rw [found] at ran
  dsimp only at ran
  have unfit : capability.fits = false := decide_eq_false beyond
  rw [if_neg (UInt8.not_lt.2 offered), unfit] at ran
  let header : Assignment := ⟨0, capability.prepared exponent⟩
  have headerFits : header.fits capability.offset = true :=
    decide_eq_true capability.offset.toNat_lt
  obtain ⟨rest, assignments_eq⟩ :
      ∃ rest, capability.assignments target message exponent = header :: rest := ⟨_, rfl⟩
  rw [assignments_eq, List.takeWhile_cons_of_pos headerFits, List.map_cons] at ran
  rw [ran]
  let later := (rest.takeWhile (·.fits capability.offset)).map
    (·.toWrite address capability.offset)
  refine ⟨rfl, header.toWrite address capability.offset, later.reverse, ?_⟩
  rw [RegisterFile.writes_writeAll, List.reverse_cons, List.append_assoc, writes_eq]
  rfl

/-- **A setup is all or nothing exactly when it does not get to registers outside configuration
space**, whichever message is to be sent, and for messages to a local interrupt controller as
well.  When it does get there, it panics, and something has been written. -/
theorem setup_allOrNothing_iff (file : RegisterFile) (address : Address) (exponent : UInt8) :
    (∀ target message : UInt32, AllOrNothing file
        ((enableMessages address target message exponent).run RegisterFile.environment file) ↔
      SetupFits file.content address exponent) ∧
    (∀ (apicId : UInt8) (trigger : Trigger) (delivery : Delivery) (vector : UInt8),
      AllOrNothing file ((enableMessagesFor address apicId trigger delivery vector exponent).run
          RegisterFile.environment file) ↔
        SetupFits file.content address exponent) ∧
    (¬SetupFits file.content address exponent → ∀ target message : UInt32,
      let ran := (enableMessages address target message exponent).run
        RegisterFile.environment file
      ran.1 = .error (.panic .arithmeticOverflow) ∧
        ∃ (header : ConfigWrite) (later : List ConfigWrite),
          ran.2.writes = later ++ header :: file.writes) :=
  ⟨fun target message => allOrNothing_iff_setupFits file address target message exponent,
    fun apicId trigger delivery vector => allOrNothing_iff_setupFits file address
      (messageTarget apicId) (messageFor trigger delivery vector) exponent,
    fun outside => panic_of_not_setupFits outside⟩

/-- A function whose only capability sits in the last register of configuration space. -/
def capabilityInLastRegister : RegisterFile :=
  .ofList [⟨⟨0, 3, 0⟩, 0x1b36, 0x000d, ⟨0x0c, 0x03, 0x30⟩, 0,
    [(capabilityPointerOffset, 0xfc), (0xfc, 0x05)]⟩]

/-- There the setup panics at the register for the target, after it has written the header. -/
theorem setup_not_allOrNothing_in_last_register :
    let ran := (enableMessages ⟨0, 3, 0⟩ 0xfee01000 0xc040 0).run RegisterFile.environment
      capabilityInLastRegister
    ran.1 = .error (.panic .arithmeticOverflow) ∧
      ran.2.writes = [⟨⟨⟨0, 3, 0⟩, 0xfc⟩, 0x05⟩] ∧
      ¬AllOrNothing capabilityInLastRegister ran := by
  have found : ConfigSpace.value capabilityInLastRegister.content
      (findMessageCapability ⟨0, 3, 0⟩) = .ok (.ok ⟨0xfc, 0x05⟩) := by
    unfold findMessageCapability Capability.find? Capability.Walk.find?
    rfl
  obtain ⟨searched, functions_eq, writes_eq, ran⟩ :=
    run_enableMessages capabilityInLastRegister ⟨0, 3, 0⟩ 0xfee01000 0xc040 0
  rw [found] at ran
  rw [ran]
  refine ⟨rfl, ?_, fun whole => ?_⟩
  · exact (RegisterFile.writes_writeAll ..).trans (writes_eq ▸ rfl)
  · obtain ⟨result, returned⟩ := whole.returns
    cases returned

end KernelStart.Pci
