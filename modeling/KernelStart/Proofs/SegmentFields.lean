import KernelStart.Descriptor.Row
import KernelStart.Descriptor.SegmentTable

/-!
# What is read back of a segment descriptor

The fields of a segment descriptor are scattered: base and limit are cut into pieces, and the
privilege level stands between flags.  A `Segment.Reading` is what the accessors say of a word, and
`Reading.pieces` is the row of the diagram that a reading fills.  Every word is the row of what
is read of it (`Segment.row_bits`), so the accessors miss nothing: words that read alike are
equal (`Segment.eq_of_reading_eq`).  Readings with the same pieces are equal in turn, so to know
what is read of a word it is enough to know its row (`Segment.reading_eq_of_row`).

The row of a built word is read off its parts.  Each argument stands at the place of one field,
cut to the width of that field (`Segment.row_placed`), and the parts are joined field by field.
This gives what is read back of code and data segments (`Segment.code_data_read_back`), and of the
lower entry of a task state segment (`Segment.reading_task`).
-/

set_option autoImplicit false

namespace KernelStart.Descriptor

namespace Segment

/-! ## Fields as numbers -/

section Fields

variable {mask low : UInt64} {width position : Nat}

/-- A field is a quotient of the word, cut to the width of its mask. -/
theorem toNat_field (ones : mask.toNat = 2 ^ width - 1) (low_eq : low.toNat = position)
    (inside : position < 64) (word : UInt64) :
    (field word low mask).toNat = word.toNat / 2 ^ position % 2 ^ width := by
  rw [field, UInt64.toNat_and, UInt64.toNat_shiftRight, low_eq, ones,
    Nat.and_two_pow_sub_one_eq_mod, Nat.mod_eq_of_lt inside, Nat.shiftRight_eq_div_pow]

/-- A value at its place is a multiple of the value cut to size. -/
theorem toNat_placed (ones : mask.toNat = 2 ^ width - 1) (low_eq : low.toNat = position)
    (inside : position < 64) (fits : position + width ≤ 64) (value : UInt64) :
    (placed value mask low).toNat = 2 ^ position * (value.toNat % 2 ^ width) := by
  have small : 2 ^ position * (value.toNat % 2 ^ width) < 2 ^ 64 :=
    calc 2 ^ position * (value.toNat % 2 ^ width)
      _ < 2 ^ position * 2 ^ width :=
        Nat.mul_lt_mul_of_pos_left (Nat.mod_lt _ (Nat.two_pow_pos width)) (Nat.two_pow_pos _)
      _ = 2 ^ (position + width) := (Nat.pow_add 2 _ _).symm
      _ ≤ 2 ^ 64 := Nat.pow_le_pow_right (by decide) fits
  rw [placed, UInt64.toNat_shiftLeft, UInt64.toNat_and, low_eq, ones,
    Nat.and_two_pow_sub_one_eq_mod, Nat.mod_eq_of_lt inside, Nat.shiftLeft_eq, Nat.mul_comm,
    Nat.mod_eq_of_lt small]

/-- A flag is a bit of the word. -/
theorem has_eq_testBit {flag : UInt64} (single : flag.toNat = 2 ^ position)
    (isFlag : flagMask &&& flag = flag) (segment : Segment) :
    segment.has flag = segment.bits.toNat.testBit position := by
  rw [has, flags, UInt64.and_assoc, isFlag, Bool.eq_iff_iff, beq_iff_eq, ← UInt64.toNat_inj,
    UInt64.toNat_and, single, and_two_pow_eq_iff]

end Fields

/-! ## Readings -/

/-- The bit that the processor leaves to software (bit 52). -/
def softwareBit (segment : Segment) : Bool := segment.bits.toNat.testBit 52

/-- What the accessors say of a segment. -/
structure Reading where
  base : UInt32
  limit : UInt32
  type : UInt8
  privilege : UInt8
  nonSystem : Bool
  present : Bool
  software : Bool
  longMode : Bool
  defaultOperationSize : Bool
  granularity : Bool
  deriving DecidableEq, Repr

def reading (segment : Segment) : Reading where
  base := segment.base
  limit := segment.limit
  type := segment.typeCode
  privilege := segment.privilegeLevel
  nonSystem := segment.has nonSystem
  present := segment.isPresent
  software := segment.softwareBit
  longMode := segment.isLongMode
  defaultOperationSize := segment.hasDefaultOperationSize
  granularity := segment.has granularity

/-- The widths of the fields in the diagram, from bit 0 up. -/
def widths : List Nat := [16, 16, 8, 4, 1, 2, 1, 4, 1, 1, 1, 1, 8]

namespace Reading

/-- The diagram with the content that a reading says, from bit 0 up. -/
def pieces (reading : Reading) : List Nat :=
  [reading.limit.toNat % 2 ^ 16,
    reading.base.toNat % 2 ^ 16,
    reading.base.toNat / 2 ^ 16 % 2 ^ 8,
    reading.type.toNat,
    reading.nonSystem.toNat,
    reading.privilege.toNat,
    reading.present.toNat,
    reading.limit.toNat / 2 ^ 16,
    reading.software.toNat,
    reading.longMode.toNat,
    reading.defaultOperationSize.toNat,
    reading.granularity.toNat,
    reading.base.toNat / 2 ^ 24]

theorem flag_eq_of_toNat_eq {first second : Bool} (same : first.toNat = second.toNat) :
    first = second := by
  rw [Bool.eq_iff_iff, ← Bool.toNat_eq_one, same, Bool.toNat_eq_one]

/-- Readings with the same pieces are the same: base and limit are put together of theirs. -/
theorem eq_of_pieces_eq {first second : Reading} (same : first.pieces = second.pieces) :
    first = second := by
  simp only [pieces, List.cons.injEq, and_true] at same
  obtain ⟨limitLow, baseLow, baseMiddle, type, nonSystem, privilege, present, limitHigh, software,
    longMode, operationSize, granularity, baseHigh⟩ := same
  have base : first.base = second.base := UInt32.toNat_inj.1 (by omega)
  have limit : first.limit = second.limit := UInt32.toNat_inj.1 (by omega)
  rw [Reading.mk.injEq]
  exact ⟨base, limit, UInt8.toNat_inj.1 type, UInt8.toNat_inj.1 privilege,
    flag_eq_of_toNat_eq nonSystem, flag_eq_of_toNat_eq present, flag_eq_of_toNat_eq software,
    flag_eq_of_toNat_eq longMode, flag_eq_of_toNat_eq operationSize,
    flag_eq_of_toNat_eq granularity⟩

end Reading

section Accessors

variable (segment : Segment)

theorem toNat_base : segment.base.toNat =
    segment.bits.toNat / 2 ^ 16 % 2 ^ 24 + 2 ^ 24 * (segment.bits.toNat / 2 ^ 56 % 2 ^ 8) := by
  have lower : (field segment.bits 16 0xffffff).toNat = segment.bits.toNat / 2 ^ 16 % 2 ^ 24 :=
    toNat_field rfl rfl (by decide) segment.bits
  have upper : (field segment.bits 56 0xff).toNat = segment.bits.toNat / 2 ^ 56 % 2 ^ 8 :=
    toNat_field rfl rfl (by decide) segment.bits
  have joined : (field segment.bits 16 0xffffff ||| field segment.bits 56 0xff <<< 24).toNat =
      (field segment.bits 16 0xffffff).toNat + 2 ^ 24 * (field segment.bits 56 0xff).toNat :=
    toNat_or_shiftLeft rfl (by decide) (by omega) (by omega)
  rw [base, UInt64.toNat_toUInt32, joined, lower, upper]
  omega

theorem toNat_limit : segment.limit.toNat =
    segment.bits.toNat % 2 ^ 16 + 2 ^ 16 * (segment.bits.toNat / 2 ^ 48 % 2 ^ 4) := by
  have lower : (field segment.bits 0 0xffff).toNat = segment.bits.toNat / 2 ^ 0 % 2 ^ 16 :=
    toNat_field rfl rfl (by decide) segment.bits
  have upper : (field segment.bits 48 0xf).toNat = segment.bits.toNat / 2 ^ 48 % 2 ^ 4 :=
    toNat_field rfl rfl (by decide) segment.bits
  have joined : (field segment.bits 0 0xffff ||| field segment.bits 48 0xf <<< 16).toNat =
      (field segment.bits 0 0xffff).toNat + 2 ^ 16 * (field segment.bits 48 0xf).toNat :=
    toNat_or_shiftLeft rfl (by decide) (by omega) (by omega)
  rw [limit, UInt64.toNat_toUInt32, joined, lower, upper]
  omega

theorem toNat_typeCode : segment.typeCode.toNat = segment.bits.toNat / 2 ^ 40 % 2 ^ 4 := by
  have whole : (field segment.bits 40 0xf).toNat = segment.bits.toNat / 2 ^ 40 % 2 ^ 4 :=
    toNat_field rfl rfl (by decide) segment.bits
  rw [typeCode, UInt64.toNat_toUInt8, whole]
  omega

theorem toNat_privilegeLevel :
    segment.privilegeLevel.toNat = segment.bits.toNat / 2 ^ 45 % 2 ^ 2 := by
  have whole : (field segment.bits 45 3).toNat = segment.bits.toNat / 2 ^ 45 % 2 ^ 2 :=
    toNat_field rfl rfl (by decide) segment.bits
  rw [privilegeLevel, UInt64.toNat_toUInt8, whole]
  omega

theorem row_widths (word : Nat) : row widths word =
    [word % 2 ^ 16, word / 2 ^ 16 % 2 ^ 16, word / 2 ^ 32 % 2 ^ 8, word / 2 ^ 40 % 2 ^ 4,
      word / 2 ^ 44 % 2, word / 2 ^ 45 % 2 ^ 2, word / 2 ^ 47 % 2, word / 2 ^ 48 % 2 ^ 4,
      word / 2 ^ 52 % 2, word / 2 ^ 53 % 2, word / 2 ^ 54 % 2, word / 2 ^ 55 % 2,
      word / 2 ^ 56 % 2 ^ 8] := by
  simp [row, widths, Nat.div_div_eq_div_mul]

/-- Every word is made of the pieces that are read of it. -/
theorem row_bits : row widths segment.bits.toNat = segment.reading.pieces := by
  have nonSystem_eq : segment.has nonSystem = segment.bits.toNat.testBit 44 :=
    has_eq_testBit rfl rfl segment
  have present_eq : segment.isPresent = segment.bits.toNat.testBit 47 :=
    has_eq_testBit rfl rfl segment
  have longMode_eq : segment.isLongMode = segment.bits.toNat.testBit 53 :=
    has_eq_testBit rfl rfl segment
  have operationSize_eq : segment.hasDefaultOperationSize = segment.bits.toNat.testBit 54 :=
    has_eq_testBit rfl rfl segment
  have granularity_eq : segment.has granularity = segment.bits.toNat.testBit 55 :=
    has_eq_testBit rfl rfl segment
  have base_eq := segment.toNat_base
  have limit_eq := segment.toNat_limit
  rw [row_widths, reading, Reading.pieces, softwareBit, nonSystem_eq, present_eq, longMode_eq,
    operationSize_eq, granularity_eq, toNat_typeCode, toNat_privilegeLevel]
  simp only [Nat.toNat_testBit, List.cons.injEq, and_true, true_and]
  -- What is left are the pieces of base and limit.
  refine ⟨?_, ?_, ?_, ?_, ?_⟩
  all_goals omega

end Accessors

/-- A segment is read as the row of its word says. -/
theorem reading_eq_of_row {segment : Segment} {reading : Reading}
    (row_eq : row widths segment.bits.toNat = reading.pieces) : segment.reading = reading :=
  Reading.eq_of_pieces_eq (segment.row_bits.symm.trans row_eq)

theorem bits_lt (segment : Segment) : segment.bits.toNat < 2 ^ widths.sum :=
  segment.bits.toNat_lt

/-- The fields determine all 64 bits. -/
theorem eq_of_reading_eq {first second : Segment} (same : first.reading = second.reading) :
    first = second := by
  have row_eq : row widths first.bits.toNat = row widths second.bits.toNat := by
    rw [row_bits, row_bits, same]
  have bits_eq : first.bits.toNat = second.bits.toNat :=
    eq_of_row_eq first.bits_lt second.bits_lt row_eq
  cases first
  cases second
  exact congrArg mk (UInt64.toNat_inj.1 bits_eq)

/-! ## Rows of what is built -/

theorem widths_fit {column : Nat} (inside : column < widths.length) :
    (widths.take column).sum < 64 ∧ (widths.take column).sum + widths[column] ≤ 64 := by
  have each : ∀ place : Fin 13, (widths.take place).sum < 64 ∧
      (widths.take place).sum + widths.get place ≤ 64 := by decide
  exact each ⟨column, inside⟩

/-- A value that is placed at a field is cut to its width, and fills this field only. -/
theorem row_placed (column : Nat) {mask low : UInt64} (inside : column < widths.length)
    (ones : mask.toNat = 2 ^ widths[column] - 1) (low_eq : low.toNat = (widths.take column).sum)
    (value : UInt64) :
    row widths (placed value mask low).toNat =
      onlyAt widths column (value.toNat % 2 ^ widths[column]) := by
  obtain ⟨low_lt, fits⟩ := widths_fit inside
  rw [toNat_placed ones low_eq low_lt fits]
  exact row_shifted inside rfl (Nat.mod_lt _ (Nat.two_pow_pos _))

theorem row_scatter (base limit : UInt32) : row widths (scatter base limit).toNat =
    [limit.toNat % 2 ^ 16, base.toNat % 2 ^ 16, base.toNat / 2 ^ 16 % 2 ^ 8, 0, 0, 0, 0,
      limit.toNat / 2 ^ 16 % 2 ^ 4, 0, 0, 0, 0, base.toNat / 2 ^ 24 % 2 ^ 8] := by
  rw [scatter]
  simp only [UInt64.toNat_or, row_or]
  rw [row_placed 0 (by decide) rfl rfl, row_placed 1 (by decide) rfl rfl,
    row_placed 2 (by decide) rfl rfl, row_placed 7 (by decide) rfl rfl,
    row_placed 12 (by decide) rfl rfl]
  simp [onlyAt, widths, List.replicate, Nat.shiftRight_eq_div_pow]

/-- The pieces of base and limit, if the limit is cut to 20 bits. -/
theorem pieces_cut (base limit : UInt32) :
    (limit % 0x100000).toNat % 2 ^ 16 = limit.toNat % 2 ^ 16 ∧
      (limit % 0x100000).toNat / 2 ^ 16 = limit.toNat / 2 ^ 16 % 2 ^ 4 ∧
      base.toNat / 2 ^ 24 % 2 ^ 8 = base.toNat / 2 ^ 24 := by
  have limit_eq : (limit % 0x100000).toNat = limit.toNat % 2 ^ 20 := UInt32.toNat_mod _ _
  have base_lt : base.toNat < 2 ^ 32 := base.toNat_lt
  omega

/-! ## Code and data -/

/-- What is read back of a segment for code or data. -/
def Reading.ofArguments (type : SegmentType) (privilege : UInt8) (base limit : UInt32)
    (inLongMode : Bool) : Reading where
  base := base
  limit := limit % 0x100000
  type := type.code.toUInt8
  privilege := privilege % 4
  nonSystem := true
  present := true
  software := false
  longMode := inLongMode
  defaultOperationSize := !inLongMode
  granularity := true

section Arguments

variable (type : SegmentType) (privilege : UInt8) (base limit : UInt32)

/-- The arguments are cut to the widths of their fields. -/
theorem pieces_ofArguments (inLongMode : Bool) :
    (Reading.ofArguments type privilege base limit inLongMode).pieces =
      [limit.toNat % 2 ^ 16, base.toNat % 2 ^ 16, base.toNat / 2 ^ 16 % 2 ^ 8,
        type.code.toNat % 2 ^ 4, 1, privilege.toNat % 2 ^ 2, 1, limit.toNat / 2 ^ 16 % 2 ^ 4, 0,
        inLongMode.toNat, (!inLongMode).toNat, 1, base.toNat / 2 ^ 24 % 2 ^ 8] := by
  obtain ⟨limitLow, limitHigh, baseHigh⟩ := pieces_cut base limit
  have privilege_eq : (privilege % 4).toNat = privilege.toNat % 2 ^ 2 := UInt8.toNat_mod _ _
  have type_eq : type.code.toUInt8.toNat = type.code.toNat % 2 ^ 4 := by cases type <;> rfl
  rw [Reading.pieces, Reading.ofArguments, limitLow, limitHigh, baseHigh, privilege_eq, type_eq]
  rfl

theorem row_code : row widths (code type privilege base limit).bits.toNat =
    (Reading.ofArguments type privilege base limit true).pieces := by
  have flagRow : row widths (nonSystem ||| present ||| longMode ||| granularity).toNat =
      [0, 0, 0, 0, 1, 0, 1, 0, 0, 1, 0, 1, 0] := by decide
  rw [code]
  simp only [UInt64.toNat_or, row_or] at flagRow ⊢
  rw [row_scatter, row_placed 3 (by decide) rfl rfl, row_placed 5 (by decide) rfl rfl, flagRow,
    pieces_ofArguments]
  simp [onlyAt, widths, List.replicate]

/-- Leaving long mode clears one field, and the default operation size fills another. -/
theorem row_data : row widths (data type privilege base limit).bits.toNat =
    (Reading.ofArguments type privilege base limit false).pieces := by
  have keepRow : row widths (~~~longMode).toNat =
      [2 ^ 16 - 1, 2 ^ 16 - 1, 2 ^ 8 - 1, 2 ^ 4 - 1, 2 ^ 1 - 1, 2 ^ 2 - 1, 2 ^ 1 - 1, 2 ^ 4 - 1,
        2 ^ 1 - 1, 0, 2 ^ 1 - 1, 2 ^ 1 - 1, 2 ^ 8 - 1] := by decide
  have setRow : row widths defaultOperationSize.toNat =
      [0, 0, 0, 0, 0, 0, 0, 0, 0, 0, 1, 0, 0] := by decide
  rw [data, UInt64.toNat_or, row_or, UInt64.toNat_and, row_and, row_code, keepRow, setRow,
    pieces_ofArguments, pieces_ofArguments]
  simp only [List.zipWith, Nat.and_two_pow_sub_one_eq_mod, Nat.mod_mod, Nat.or_zero]
  rfl

theorem reading_code : (code type privilege base limit).reading =
    Reading.ofArguments type privilege base limit true :=
  reading_eq_of_row (row_code type privilege base limit)

theorem reading_data : (data type privilege base limit).reading =
    Reading.ofArguments type privilege base limit false :=
  reading_eq_of_row (row_data type privilege base limit)

/-- The two words differ in the mode bits, and in no other. -/
theorem testBit_code_ne_data_iff (position : Nat) :
    (code type privilege base limit).bits.toNat.testBit position ≠
        (data type privilege base limit).bits.toNat.testBit position ↔
      position = 53 ∨ position = 54 := by
  let coded := code type privilege base limit
  let stored := data type privilege base limit
  have modeRow : row widths (2 ^ 53 ||| 2 ^ 54) = [0, 0, 0, 0, 0, 0, 0, 0, 0, 1, 1, 0, 0] := by
    decide
  have difference_row : row widths (coded.bits.toNat ^^^ stored.bits.toNat) =
      row widths (2 ^ 53 ||| 2 ^ 54) := by
    rw [row_xor, row_code, row_data, pieces_ofArguments, pieces_ofArguments, modeRow]
    simp
  have difference : coded.bits.toNat ^^^ stored.bits.toNat = 2 ^ 53 ||| 2 ^ 54 :=
    eq_of_row_eq (Nat.xor_lt_two_pow coded.bits_lt stored.bits_lt) (by decide) difference_row
  have bit : (coded.bits.toNat.testBit position ^^ stored.bits.toNat.testBit position) =
      (decide (53 = position) || decide (54 = position)) := by
    rw [← Nat.testBit_xor, difference, Nat.testBit_or, Nat.testBit_two_pow, Nat.testBit_two_pow]
  rw [← Bool.xor_iff_ne, bit, Bool.or_eq_true, decide_eq_true_iff, decide_eq_true_iff]
  exact or_congr eq_comm eq_comm

end Arguments

theorem eq_iff_reading_eq {first second : Segment} :
    first = second ↔ first.reading = second.reading :=
  ⟨congrArg reading, eq_of_reading_eq⟩

/-- Arguments are read alike if they agree in what fits into their fields. -/
theorem ofArguments_eq_iff {type otherType : SegmentType} {privilege otherPrivilege : UInt8}
    {base otherBase limit otherLimit : UInt32} {inLongMode : Bool} :
    Reading.ofArguments type privilege base limit inLongMode =
        Reading.ofArguments otherType otherPrivilege otherBase otherLimit inLongMode ↔
      type = otherType ∧ base = otherBase ∧ limit % 0x100000 = otherLimit % 0x100000 ∧
        privilege % 4 = otherPrivilege % 4 := by
  have code_inj : type.code.toUInt8 = otherType.code.toUInt8 ↔ type = otherType := by
    cases type <;> cases otherType <;> decide
  simp only [Reading.ofArguments, Reading.mk.injEq, code_inj, and_true]
  tauto

/-- **Segments for code and data are read back as they were built.**  The accessors return the base,
the limit and the privilege level, the last two cut to the width of their fields, and the type; the
segment is present, page-granular, for code or data, and in long mode or with the default
operation size.  What the accessors say determines the word, so two calls of a builder give the same
word if and only if their arguments agree in what is read back.  A code segment and a data segment
with the same arguments differ in the bits 53 and 54, and in no other. -/
theorem code_data_read_back :
    (∀ (type : SegmentType) (privilege : UInt8) (base limit : UInt32),
      (code type privilege base limit).reading =
          Reading.ofArguments type privilege base limit true ∧
        (data type privilege base limit).reading =
          Reading.ofArguments type privilege base limit false ∧
        ∀ position, (code type privilege base limit).bits.toNat.testBit position ≠
            (data type privilege base limit).bits.toNat.testBit position ↔
          position = 53 ∨ position = 54) ∧
    (∀ first second : Segment, first = second ↔ first.reading = second.reading) ∧
    ∀ (type otherType : SegmentType) (privilege otherPrivilege : UInt8)
      (base otherBase limit otherLimit : UInt32),
      (code type privilege base limit = code otherType otherPrivilege otherBase otherLimit ↔
        type = otherType ∧ base = otherBase ∧ limit % 0x100000 = otherLimit % 0x100000 ∧
          privilege % 4 = otherPrivilege % 4) ∧
      (data type privilege base limit = data otherType otherPrivilege otherBase otherLimit ↔
        type = otherType ∧ base = otherBase ∧ limit % 0x100000 = otherLimit % 0x100000 ∧
          privilege % 4 = otherPrivilege % 4) := by
  refine ⟨fun type privilege base limit => ⟨reading_code type privilege base limit,
    reading_data type privilege base limit, testBit_code_ne_data_iff type privilege base limit⟩,
    fun _ _ => eq_iff_reading_eq, fun _ _ _ _ _ _ _ _ => ⟨?_, ?_⟩⟩
  · rw [eq_iff_reading_eq, reading_code, reading_code, ofArguments_eq_iff]
  · rw [eq_iff_reading_eq, reading_data, reading_data, ofArguments_eq_iff]

example : (code .executeRead 0 0 0xfffff).bits = 0x00af9a000000ffff ∧
    (data .readWrite 0 0 0xfffff).bits = 0x00cf92000000ffff := by decide

/-! ## Task state segments -/

/-- What is read back of the lower entry of a task state segment: a present system segment, and no
other flag. -/
def Reading.ofTask (base limit : UInt32) : Reading where
  base := base
  limit := limit % 0x100000
  type := 9
  privilege := 0
  nonSystem := false
  present := true
  software := false
  longMode := false
  defaultOperationSize := false
  granularity := false

theorem reading_task (base : UInt64) (limit : UInt32) :
    (task base limit).1.reading = Reading.ofTask base.toUInt32 limit := by
  have flagRow : row widths
      (placed SystemType.taskAvailable.code.toUInt64 0xf 40 ||| present).toNat =
        [0, 0, 0, 9, 0, 0, 1, 0, 0, 0, 0, 0, 0] := by decide
  obtain ⟨limitLow, limitHigh, baseHigh⟩ := pieces_cut base.toUInt32 limit
  refine reading_eq_of_row ?_
  rw [task, UInt64.or_assoc, UInt64.toNat_or, row_or, row_scatter, flagRow, Reading.pieces,
    Reading.ofTask, limitLow, limitHigh, baseHigh]
  simp

theorem toNat_task_upper (base : UInt64) (limit : UInt32) :
    (task base limit).2.bits.toNat = base.toNat / 2 ^ 32 := by
  rw [task, UInt64.toNat_shiftRight, Nat.shiftRight_eq_div_pow]
  rfl

/-- The two entries hold the whole address. -/
theorem join_task (base : UInt64) (limit : UInt32) :
    (task base limit).2.bits <<< 32 ||| (task base limit).1.base.toUInt64 = base := by
  have low_eq : (task base limit).1.base = base.toUInt32 :=
    congrArg Reading.base (reading_task base limit)
  have upper := toNat_task_upper base limit
  have lower : base.toUInt32.toUInt64.toNat = base.toNat % 2 ^ 32 := by
    rw [UInt32.toNat_toUInt64, UInt64.toNat_toUInt32]
  have base_lt : base.toNat < 2 ^ 64 := base.toNat_lt
  have joined : (base.toUInt32.toUInt64 ||| (task base limit).2.bits <<< 32).toNat =
      base.toUInt32.toUInt64.toNat + 2 ^ 32 * (task base limit).2.bits.toNat :=
    toNat_or_shiftLeft rfl (by decide) (by omega) (by omega)
  rw [low_eq, UInt64.or_comm, ← UInt64.toNat_inj, joined]
  omega

end Segment

namespace SegmentTable

/-- A segment table records the address of the task state segment that it was made for. -/
theorem recordedTask?_forTask (address : UInt64) :
    (forTask address).recordedTask? = some address :=
  congrArg some (Segment.join_task address (taskSize - 1))

end SegmentTable

end KernelStart.Descriptor
