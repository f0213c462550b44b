import KernelStart.Descriptor.Gate
import KernelStart.Proofs.SegmentFields

/-!
# What is read back of a gate

The attribute word of a gate is a row of six fields, two of which are not used.  The row of a word
that was made holds the arguments, each cut to the width of its field, and zeros between them
(`GateAccess.row_make`); the accessors are columns of the row.  Words with the same row are the
same, so arguments make the same word if they agree in what fits (`GateAccess.make_eq_iff`).

The address of the handler is cut in three, at the bits 16 and 32, and put together again
(`Gate.handler_make`).  Both cuts are between bytes, so what stands in memory are bytes of the
address (`Gate.bytes_make`): the bytes of a part are those of the whole from some position on
(`Gate.littleEndian_part`).

The main result says this of gates and, with the fields of segments, of the two entries of a task
state segment (`gate_task_read_back`).
-/

set_option autoImplicit false

namespace KernelStart.Descriptor

/-! ## The attribute word -/

namespace GateAccess

/-- The widths of the fields of an attribute word, from bit 0 up: the stack index, five bits that
are zero, the type, one bit that is zero, the privilege level and the present bit. -/
def widths : List Nat := [3, 5, 4, 1, 2, 1]

theorem row_widths (word : Nat) : row widths word =
    [word % 2 ^ 3, word / 2 ^ 3 % 2 ^ 5, word / 2 ^ 8 % 2 ^ 4, word / 2 ^ 12 % 2,
      word / 2 ^ 13 % 2 ^ 2, word / 2 ^ 15 % 2] := by
  simp [row, widths, Nat.div_div_eq_div_mul]

section Accessors

variable (access : GateAccess)

theorem toNat_stackSlot : access.stackSlot.toNat = access.bits.toNat % 2 ^ 3 := by
  have cut : (access.bits &&& 7).toNat = access.bits.toNat % 2 ^ 3 :=
    Nat.and_two_pow_sub_one_eq_mod _ 3
  rw [stackSlot, UInt16.toNat_toUInt8, cut]
  omega

theorem toNat_typeCode : access.typeCode.toNat = access.bits.toNat / 2 ^ 8 % 2 ^ 4 := by
  have cut : ((access.bits >>> 8) &&& 0xf).toNat = (access.bits.toNat >>> 8) % 2 ^ 4 :=
    Nat.and_two_pow_sub_one_eq_mod _ 4
  rw [typeCode, UInt16.toNat_toUInt8, cut, Nat.shiftRight_eq_div_pow]
  omega

theorem toNat_privilegeLevel :
    access.privilegeLevel.toNat = access.bits.toNat / 2 ^ 13 % 2 ^ 2 := by
  have cut : ((access.bits >>> 13) &&& 3).toNat = (access.bits.toNat >>> 13) % 2 ^ 2 :=
    Nat.and_two_pow_sub_one_eq_mod _ 2
  rw [privilegeLevel, UInt16.toNat_toUInt8, cut, Nat.shiftRight_eq_div_pow]
  omega

theorem toNat_isPresent : access.isPresent.toNat = access.bits.toNat / 2 ^ 15 % 2 := by
  have single : present.toNat = 2 ^ 15 := rfl
  have bit : access.isPresent = access.bits.toNat.testBit 15 := by
    rw [isPresent, Bool.eq_iff_iff, beq_iff_eq, ← UInt16.toNat_inj, UInt16.toNat_and, single,
      and_two_pow_eq_iff]
  rw [bit, Nat.toNat_testBit]

end Accessors

section Arguments

variable (type : SystemType) (privilege : UInt8) (isPresent : Bool) (stack : UInt8)

/-- Each argument is cut to the width of its field, and what is between the fields is zero. -/
theorem row_make :
    row widths (make type privilege isPresent stack).bits.toNat =
      [stack.toNat % 2 ^ 3, 0, type.code.toNat, 0, privilege.toNat % 2 ^ 2, isPresent.toNat] := by
  have stackRow : row widths (stack.toUInt16 &&& 7).toNat =
      onlyAt widths 0 (stack.toNat % 2 ^ 3) := by
    have cut : (stack.toUInt16 &&& 7).toNat = 2 ^ 0 * (stack.toNat % 2 ^ 3) := by
      rw [Nat.pow_zero, Nat.one_mul]
      exact Nat.and_two_pow_sub_one_eq_mod _ 3
    rw [cut]
    exact row_shifted (by decide) rfl (Nat.mod_lt _ (Nat.two_pow_pos 3))
  have privilegeRow : row widths ((privilege.toUInt16 &&& 3) <<< 13).toNat =
      onlyAt widths 4 (privilege.toNat % 2 ^ 2) := by
    have cut : (privilege.toUInt16 &&& 3).toNat = privilege.toNat % 2 ^ 2 :=
      Nat.and_two_pow_sub_one_eq_mod _ 2
    have shifted : ((privilege.toUInt16 &&& 3) <<< 13).toNat =
        2 ^ 13 * (privilege.toNat % 2 ^ 2) := by
      have distance : (13 : UInt16).toNat % 16 = 13 := rfl
      rw [UInt16.toNat_shiftLeft, cut, distance, Nat.shiftLeft_eq]
      omega
    rw [shifted]
    exact row_shifted (by decide) rfl (Nat.mod_lt _ (Nat.two_pow_pos 2))
  have typeRow : row widths ((type.code &&& 0xf) <<< 8).toNat =
      onlyAt widths 2 type.code.toNat := by
    cases type <;> decide
  have presentRow : row widths (if isPresent then present else 0).toNat =
      onlyAt widths 5 isPresent.toNat := by
    cases isPresent <;> decide
  rw [make]
  simp only [UInt16.toNat_or, row_or, stackRow, typeRow, privilegeRow, presentRow]
  simp [onlyAt, widths, List.replicate]

/-- The accessors return the arguments, cut to the widths of their fields. -/
theorem make_read_back :
    let access := make type privilege isPresent stack
    access.stackSlot = stack % 8 ∧ access.typeCode = type.code.toUInt8 ∧
      access.privilegeLevel = privilege % 4 ∧ access.isPresent = isPresent := by
  intro access
  have row_eq := row_make type privilege isPresent stack
  rw [row_widths] at row_eq
  simp only [List.cons.injEq, and_true] at row_eq
  obtain ⟨stack_eq, -, type_eq, -, privilege_eq, present_eq⟩ := row_eq
  have code_eq : type.code.toNat = type.code.toUInt8.toNat := by cases type <;> rfl
  refine ⟨UInt8.toNat_inj.1 ?_, UInt8.toNat_inj.1 ?_, UInt8.toNat_inj.1 ?_, ?_⟩
  · rw [toNat_stackSlot, stack_eq, UInt8.toNat_mod]
    rfl
  · rw [toNat_typeCode, type_eq, code_eq]
  · rw [toNat_privilegeLevel, privilege_eq, UInt8.toNat_mod]
    rfl
  · rw [Bool.eq_iff_iff, ← Bool.toNat_eq_one, toNat_isPresent, present_eq, Bool.toNat_eq_one]

end Arguments

/-- Words with the same fields are the same. -/
theorem eq_iff_row_eq {first second : GateAccess} :
    first = second ↔ row widths first.bits.toNat = row widths second.bits.toNat := by
  refine ⟨fun same => same ▸ rfl, fun same => ?_⟩
  have fits (access : GateAccess) : access.bits.toNat < 2 ^ widths.sum := access.bits.toNat_lt
  have bits_eq : first.bits.toNat = second.bits.toNat :=
    eq_of_row_eq (fits first) (fits second) same
  cases first
  cases second
  exact congrArg mk (UInt16.toNat_inj.1 bits_eq)

/-- Arguments that agree in what fits into their fields make the same word. -/
theorem make_eq_iff {type otherType : SystemType} {privilege otherPrivilege : UInt8}
    {isPresent isOtherPresent : Bool} {stack otherStack : UInt8} :
    make type privilege isPresent stack = make otherType otherPrivilege isOtherPresent otherStack ↔
      type = otherType ∧ privilege % 4 = otherPrivilege % 4 ∧ isPresent = isOtherPresent ∧
        stack % 8 = otherStack % 8 := by
  have code_inj : type.code.toNat = otherType.code.toNat ↔ type = otherType := by
    cases type <;> cases otherType <;> decide
  have present_inj : isPresent.toNat = isOtherPresent.toNat ↔ isPresent = isOtherPresent := by
    cases isPresent <;> cases isOtherPresent <;> decide
  have privilege_inj : privilege % 4 = otherPrivilege % 4 ↔
      privilege.toNat % 2 ^ 2 = otherPrivilege.toNat % 2 ^ 2 := by
    rw [← UInt8.toNat_inj, UInt8.toNat_mod, UInt8.toNat_mod]
    rfl
  have stack_inj : stack % 8 = otherStack % 8 ↔
      stack.toNat % 2 ^ 3 = otherStack.toNat % 2 ^ 3 := by
    rw [← UInt8.toNat_inj, UInt8.toNat_mod, UInt8.toNat_mod]
    rfl
  rw [eq_iff_row_eq, row_make, row_make, privilege_inj, stack_inj, ← code_inj, ← present_inj]
  simp only [List.cons.injEq, and_true, true_and]
  tauto

end GateAccess

/-! ## The address -/

namespace Gate

theorem toNat_handler (gate : Gate) : gate.handler.toNat =
    gate.offsetLow.toNat + 2 ^ 16 * gate.offsetMiddle.toNat + 2 ^ 32 * gate.offsetHigh.toNat := by
  have low_lt : gate.offsetLow.toNat < 2 ^ 16 := gate.offsetLow.toNat_lt
  have middle_lt : gate.offsetMiddle.toNat < 2 ^ 16 := gate.offsetMiddle.toNat_lt
  have high_lt : gate.offsetHigh.toNat < 2 ^ 32 := gate.offsetHigh.toNat_lt
  have lower : (gate.offsetLow.toUInt64 ||| gate.offsetMiddle.toUInt64 <<< 16).toNat =
      gate.offsetLow.toNat + 2 ^ 16 * gate.offsetMiddle.toNat :=
    toNat_or_shiftLeft rfl (by decide) low_lt (by rw [UInt16.toNat_toUInt64]; omega)
  have whole : (gate.offsetLow.toUInt64 ||| gate.offsetMiddle.toUInt64 <<< 16 |||
      gate.offsetHigh.toUInt64 <<< 32).toNat =
      (gate.offsetLow.toUInt64 ||| gate.offsetMiddle.toUInt64 <<< 16).toNat +
        2 ^ 32 * gate.offsetHigh.toUInt64.toNat :=
    toNat_or_shiftLeft rfl (by decide) (by omega) (by rw [UInt32.toNat_toUInt64]; omega)
  rw [handler, whole, lower, UInt32.toNat_toUInt64]

variable (handler : UInt64) (selector : UInt16) (type : SystemType) (privilege : UInt8)
  (isPresent : Bool) (stack : UInt8)

theorem offsets_make :
    let gate := make handler selector type privilege isPresent stack
    gate.offsetLow.toNat = handler.toNat % 2 ^ 16 ∧
      gate.offsetMiddle.toNat = handler.toNat / 2 ^ 16 % 2 ^ 16 ∧
      gate.offsetHigh.toNat = handler.toNat / 2 ^ 32 := by
  have lowCut : (handler &&& 0xffff).toNat = handler.toNat % 2 ^ 16 :=
    Nat.and_two_pow_sub_one_eq_mod _ 16
  have middleCut : ((handler >>> 16) &&& 0xffff).toNat = (handler.toNat >>> 16) % 2 ^ 16 :=
    Nat.and_two_pow_sub_one_eq_mod _ 16
  have upper : (handler >>> 32).toNat = handler.toNat >>> 32 := rfl
  have handler_lt : handler.toNat < 2 ^ 64 := handler.toNat_lt
  rw [Nat.shiftRight_eq_div_pow] at middleCut upper
  refine ⟨?_, ?_, ?_⟩
  · rw [make, UInt64.toNat_toUInt16, lowCut, Nat.mod_mod]
  · rw [make, UInt64.toNat_toUInt16, middleCut, Nat.mod_mod]
  · rw [make, UInt64.toNat_toUInt32, upper]
    omega

/-- The three parts of the address are put together again. -/
theorem handler_make :
    (make handler selector type privilege isPresent stack).handler = handler := by
  obtain ⟨low, middle, high⟩ := offsets_make handler selector type privilege isPresent stack
  rw [← UInt64.toNat_inj, toNat_handler, low, middle, high]
  omega

/-! ## The bytes -/

/-- The byte of a number at a position, counted from the least significant one. -/
def byteOf (number position : Nat) : UInt8 := UInt8.ofNat (number / 256 ^ position)

/-- The bytes of a part of a number are bytes of the number. -/
theorem littleEndian_part (number first count : Nat) :
    littleEndian count (number / 2 ^ (8 * first) % 2 ^ (8 * count)) =
      (List.range' first count).map (byteOf number) := by
  rw [littleEndian, List.range'_eq_map_range, List.map_map]
  refine List.map_congr_left fun position listed => ?_
  have before : position < count := List.mem_range.1 listed
  have byte_eq : (number / 2 ^ (8 * first) % 2 ^ (8 * count)) >>> (8 * position) % 2 ^ 8 =
      number / 256 ^ (first + position) % 2 ^ 8 := by
    have base_eq : (256 : Nat) ^ (first + position) = 2 ^ (8 * (first + position)) :=
      (Nat.pow_mul 2 8 _).symm
    refine Nat.eq_of_testBit_eq fun bit => ?_
    rw [base_eq]
    simp only [Nat.testBit_mod_two_pow, Nat.testBit_shiftRight, Nat.testBit_div_two_pow]
    by_cases small : bit < 8
    · have within : 8 * position + bit < 8 * count := by omega
      have place : 8 * position + bit + 8 * first = bit + 8 * (first + position) := by omega
      rw [decide_eq_true within, place, Bool.true_and]
    · rw [decide_eq_false small, Bool.false_and, Bool.false_and]
  rw [← UInt8.ofNat_mod_size, byte_eq, UInt8.ofNat_mod_size]
  rfl

theorem littleEndian_whole {number count : Nat} (fits : number < 2 ^ (8 * count)) :
    littleEndian count number = (List.range' 0 count).map (byteOf number) := by
  rw [← littleEndian_part, Nat.mul_zero, Nat.pow_zero, Nat.div_one, Nat.mod_eq_of_lt fits]

/-- In memory the address is cut in three, around the selector and the attribute word; the last four
bytes are zero. -/
theorem bytes_make :
    let gate := make handler selector type privilege isPresent stack
    gate.bytes =
      (List.range' 0 2).map (byteOf handler.toNat) ++
        (List.range' 0 2).map (byteOf selector.toNat) ++
        (List.range' 0 2).map (byteOf gate.access.bits.toNat) ++
        (List.range' 2 2).map (byteOf handler.toNat) ++
        (List.range' 4 4).map (byteOf handler.toNat) ++ List.replicate 4 0 := by
  intro gate
  obtain ⟨low, middle, high⟩ := offsets_make handler selector type privilege isPresent stack
  have handler_lt : handler.toNat < 2 ^ 64 := handler.toNat_lt
  have low_eq : gate.offsetLow.toNat = handler.toNat / 2 ^ (8 * 0) % 2 ^ (8 * 2) := by
    rw [low]
    omega
  have high_eq : gate.offsetHigh.toNat = handler.toNat / 2 ^ (8 * 4) % 2 ^ (8 * 4) := by
    rw [high]
    omega
  have rest : littleEndian 4 gate.reserved.toNat = List.replicate 4 0 := by
    have reserved_eq : gate.reserved = 0 := rfl
    rw [reserved_eq]
    decide
  rw [bytes, low_eq, middle, high_eq, rest, littleEndian_part, littleEndian_part _ 2 2,
    littleEndian_part, littleEndian_whole gate.selector.toNat_lt,
    littleEndian_whole gate.access.bits.toNat_lt]
  rfl

/-! ## Everything that is read back -/

/-- Arguments that agree in what is read back make the same gate. -/
theorem make_eq_iff {handler otherHandler : UInt64} {selector otherSelector : UInt16}
    {type otherType : SystemType} {privilege otherPrivilege : UInt8}
    {isPresent isOtherPresent : Bool} {stack otherStack : UInt8} :
    make handler selector type privilege isPresent stack =
        make otherHandler otherSelector otherType otherPrivilege isOtherPresent otherStack ↔
      handler = otherHandler ∧ selector = otherSelector ∧ type = otherType ∧
        privilege % 4 = otherPrivilege % 4 ∧ isPresent = isOtherPresent ∧
        stack % 8 = otherStack % 8 := by
  rw [← GateAccess.make_eq_iff]
  constructor
  · intro same
    have handler_eq := congrArg Gate.handler same
    rw [handler_make, handler_make] at handler_eq
    exact ⟨handler_eq, congrArg Gate.selector same, congrArg Gate.access same⟩
  · rintro ⟨rfl, rfl, access_eq⟩
    rw [make, access_eq]
    rfl

end Gate

/-- **Gates and task state segments are read back as they were built.**  The accessors of a gate
return the whole handler address, the selector, the code of the type and the present bit, and
privilege level and stack index cut to the width of their fields; the rest of the attribute word is
zero.  In memory the bytes of the address stand around those of the selector and the attribute
word, and the last four are zero.  Two calls give the same gate if and only if they agree in all of
this.  The two entries of a task state segment hold its address; the lower one is present, with the
limit cut to 20 bits, and has no other flag and no privilege level, and the upper half of the
upper one is zero. -/
theorem gate_task_read_back :
    (∀ (handler : UInt64) (selector : UInt16) (type : SystemType) (privilege : UInt8)
      (isPresent : Bool) (stack : UInt8),
      let gate := Gate.make handler selector type privilege isPresent stack
      gate.handler = handler ∧ gate.selector = selector ∧
        gate.access.typeCode = type.code.toUInt8 ∧ gate.access.privilegeLevel = privilege % 4 ∧
        gate.access.isPresent = isPresent ∧ gate.access.stackSlot = stack % 8 ∧
        row GateAccess.widths gate.access.bits.toNat =
          [stack.toNat % 2 ^ 3, 0, type.code.toNat, 0, privilege.toNat % 2 ^ 2, isPresent.toNat] ∧
        gate.bytes =
          (List.range' 0 2).map (Gate.byteOf handler.toNat) ++
            (List.range' 0 2).map (Gate.byteOf selector.toNat) ++
            (List.range' 0 2).map (Gate.byteOf gate.access.bits.toNat) ++
            (List.range' 2 2).map (Gate.byteOf handler.toNat) ++
            (List.range' 4 4).map (Gate.byteOf handler.toNat) ++ List.replicate 4 0) ∧
    (∀ (handler otherHandler : UInt64) (selector otherSelector : UInt16)
      (type otherType : SystemType) (privilege otherPrivilege : UInt8)
      (isPresent isOtherPresent : Bool) (stack otherStack : UInt8),
      Gate.make handler selector type privilege isPresent stack =
          Gate.make otherHandler otherSelector otherType otherPrivilege isOtherPresent otherStack ↔
        handler = otherHandler ∧ selector = otherSelector ∧ type = otherType ∧
          privilege % 4 = otherPrivilege % 4 ∧ isPresent = isOtherPresent ∧
          stack % 8 = otherStack % 8) ∧
    ∀ (base : UInt64) (limit : UInt32),
      (Segment.task base limit).2.bits <<< 32 ||| (Segment.task base limit).1.base.toUInt64 =
          base ∧
        (Segment.task base limit).1.reading = Segment.Reading.ofTask base.toUInt32 limit ∧
        (Segment.task base limit).2.bits.toNat / 2 ^ 32 = 0 := by
  refine ⟨fun handler selector type privilege isPresent stack => ?_,
    fun _ _ _ _ _ _ _ _ _ _ _ _ => Gate.make_eq_iff, fun base limit => ?_⟩
  · obtain ⟨stack_eq, type_eq, privilege_eq, present_eq⟩ :=
      GateAccess.make_read_back type privilege isPresent stack
    exact ⟨Gate.handler_make handler selector type privilege isPresent stack, rfl, type_eq,
      privilege_eq, present_eq, stack_eq, GateAccess.row_make type privilege isPresent stack,
      Gate.bytes_make handler selector type privilege isPresent stack⟩
  · have upper := Segment.toNat_task_upper base limit
    have base_lt : base.toNat < 2 ^ 64 := base.toNat_lt
    exact ⟨Segment.join_task base limit, Segment.reading_task base limit, by omega⟩

example : (Gate.make 0xffff8123456789ab 8 .interruptGate 0 true 0).bytes =
    [0xab, 0x89, 0x08, 0x00, 0x00, 0x8e, 0x67, 0x45, 0x23, 0x81, 0xff, 0xff, 0, 0, 0, 0] := by
  decide

end KernelStart.Descriptor
