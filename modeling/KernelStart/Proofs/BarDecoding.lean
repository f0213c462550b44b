import KernelStart.Pci.Bar
import KernelStart.Pci.ConfigSpace
import KernelStart.Program.Requests
import Mathlib.Algebra.GroupWithZero.Nat

/-!
# Which base address registers are decoded correctly

Two encodings share a base address register.  Bit 0 tells them apart: if it is set, the address
lies in I/O space, and the bits from bit 2 on belong to it.  Only if it is clear, bits 2 and 1
give the type of a memory address, and only type `10` takes the next register for its upper
half.

`Bar.Decodes` says what a correct decoder comes to, and which registers it reads for that.
`Bar.fetch` looks at bits 2 and 1 alone.  So it takes an address in I/O space with these bits for
a wide one (`Bar.IsMistaken`): it joins the register with the next one, or fails at the last.  This
is the only mistake; it decodes everything else correctly (`Bar.decodes_iff`).

What a program comes to and what it reads on the way is followed by one relation, `ComesTo`, and
the four ways through `Bar.fetch` are four lemmas.
-/

set_option autoImplicit false

namespace KernelStart.Pci

/-! ## The value of a program together with its reads -/

namespace ConfigSpace

variable {α : Type} {space : ConfigSpace}

/-- On a configuration space the program comes to a value after these reads. -/
structure ComesTo (space : ConfigSpace) (program : Program ConfigRead α)
    (reads : List ConfigRegister) (value : α) : Prop where
  value_eq : space.value program = .ok value
  reads_eq : program.requests space.environment () = reads

namespace ComesTo

theorem done (value : α) : space.ComesTo (.done value) [] value := ⟨rfl, rfl⟩

/-- A read comes first, and the program goes on with the content of the register. -/
theorem read {address : Address} {offset : UInt8} {next : UInt32 → Program ConfigRead α}
    {reads : List ConfigRegister} {value : α}
    (later : space.ComesTo (next (space ⟨address, offset⟩)) reads value) :
    space.ComesTo ((Pci.read address offset).bind next) (⟨address, offset⟩ :: reads) value :=
  ⟨later.value_eq, congrArg (List.cons _) later.reads_eq⟩

end ComesTo

end ConfigSpace

/-! ## The two encodings -/

namespace Bar

/-- A base address register of a function, by its number. -/
def register (address : Address) (slot : Nat) : ConfigRegister :=
  ⟨address, UInt8.ofNat (0x10 + 4 * slot)⟩

/-- The content of a base address register. -/
def content (space : ConfigSpace) (address : Address) (slot : Nat) : UInt32 :=
  space (register address slot)

/-- An address in I/O space: bit 0 is set. -/
def IsPort (low : UInt32) : Prop := low.toNat % 2 = 1

/-- Bits 2 and 1 are `10`, which for a memory address means 64 bits. -/
def HasWideType (low : UInt32) : Prop := low.toNat / 2 % 4 = 2

/-- The address whose halves are the contents of two registers. -/
def joined (low high : UInt32) : Nat := low.toNat + 2 ^ 32 * high.toNat

instance (low : UInt32) : Decidable (IsPort low) := inferInstanceAs (Decidable (_ = _))

instance (low : UInt32) : Decidable (HasWideType low) := inferInstanceAs (Decidable (_ = _))

theorem offset_eq (index : UInt8) : offset index = UInt8.ofNat (0x10 + 4 * index.toNat) := by
  rw [UInt8.ofNat_add, UInt8.ofNat_mul, UInt8.ofNat_toNat]
  rfl

theorem register_toNat (address : Address) (index : UInt8) :
    register address index.toNat = ⟨address, offset index⟩ := by
  rw [register, offset_eq]

theorem register_toNat_succ (address : Address) (index : UInt8) :
    register address (index.toNat + 1) = ⟨address, offset index + 4⟩ := by
  rw [register, offset_eq, Nat.mul_succ, ← Nat.add_assoc, UInt8.ofNat_add _ 4]
  rfl

theorem read_eq_content (space : ConfigSpace) (address : Address) (index : UInt8) :
    space ⟨address, offset index⟩ = content space address index.toNat := by
  rw [content, register_toNat]

theorem read_next_eq_content (space : ConfigSpace) (address : Address) (index : UInt8) :
    space ⟨address, offset index + 4⟩ = content space address (index.toNat + 1) := by
  rw [content, register_toNat_succ]

/-- Bits 2 and 1 are all that `fetch` looks at. -/
theorem isWide_iff (low : UInt32) : isWide low = true ↔ HasWideType low := by
  have even : (low.toNat &&& 6) % 2 = 0 := by
    rw [← Nat.and_one_is_mod, Nat.and_assoc]
    exact Nat.and_zero _
  have half : (low.toNat &&& 6) / 2 = low.toNat / 2 % 4 := by
    rw [Nat.and_div_two]
    exact Nat.and_two_pow_sub_one_eq_mod _ 2
  have masked : (low &&& 6).toNat = low.toNat &&& 6 := UInt32.toNat_and low 6
  have four : (4 : UInt32).toNat = 4 := rfl
  rw [isWide, beq_iff_eq, ← UInt32.toNat_inj, masked, four, HasWideType, ← half]
  omega

/-- The two halves do not overlap. -/
theorem toNat_join (low high : UInt32) : (join low high).toNat = joined low high := by
  have lowSmall : low.toNat < 2 ^ 32 := low.toNat_lt
  have highSmall : high.toNat < 2 ^ 32 := high.toNat_lt
  have shifted : (high.toUInt64 <<< 32).toNat = 2 ^ 32 * high.toNat := by
    rw [UInt64.toNat_shiftLeft, UInt32.toNat_toUInt64, Nat.shiftLeft_eq, Nat.mul_comm]
    exact Nat.mod_eq_of_lt (by simp; omega)
  rw [join, UInt64.toNat_or, UInt32.toNat_toUInt64, shifted, Nat.or_comm,
    ← Nat.two_pow_add_eq_or_of_lt lowSmall, joined, Nat.add_comm]

/-! ## What a correct decoder comes to -/

/-- Fetching a base address register comes to this after reading these registers, in order. -/
def Fetches (space : ConfigSpace) (address : Address) (index : UInt8)
    (result : Except Failure Nat) (slots : List Nat) : Prop :=
  ∃ fetched, space.ComesTo (fetch address index) (slots.map (register address)) fetched ∧
    fetched.map UInt64.toNat = result

/-- Fetching a base address register decodes it correctly. -/
structure Decodes (space : ConfigSpace) (address : Address) (index : UInt8) : Prop where
  /-- Beyond the six registers nothing is read. -/
  beyond : 6 ≤ index.toNat → Fetches space address index (.error .indexOutOfRange) []
  /-- An address in I/O space, or in memory without the wide type, is the register alone. -/
  narrow : index.toNat < 6 →
    IsPort (content space address index.toNat) ∨
      ¬ HasWideType (content space address index.toNat) →
    Fetches space address index (.ok (content space address index.toNat).toNat) [index.toNat]
  /-- A wide memory address goes on in the next register. -/
  wide : index.toNat < 5 → ¬ IsPort (content space address index.toNat) →
    HasWideType (content space address index.toNat) →
    Fetches space address index
      (.ok (joined (content space address index.toNat)
        (content space address (index.toNat + 1))))
      [index.toNat, index.toNat + 1]
  /-- The last register has no next one. -/
  last : index.toNat = 5 → ¬ IsPort (content space address 5) →
    HasWideType (content space address 5) →
    Fetches space address index (.error .indexOutOfRange) [5]

/-- A base address register with an address in I/O space whose bits 2 and 1 look like the type of a
wide memory address. -/
def IsMistaken (space : ConfigSpace) (address : Address) (index : UInt8) : Prop :=
  index.toNat < 6 ∧ IsPort (content space address index.toNat) ∧
    HasWideType (content space address index.toNat)

/-! ## The four ways through the decoder -/

variable {space : ConfigSpace} {address : Address} {index : UInt8}

theorem count_le_iff : count ≤ index ↔ 6 ≤ index.toNat := UInt8.le_iff_toNat_le

theorem eq_last_iff : index = count - 1 ↔ index.toNat = 5 := UInt8.toNat_inj.symm

/-- Within the six registers, what follows depends on the register read first. -/
theorem fetch_of_lt (address : Address) (small : index.toNat < 6) :
    fetch address index = (read address (offset index)).bind fun low =>
      if !isWide low then .done (.ok low.toUInt64)
      else if index = count - 1 then .done (.error .indexOutOfRange)
      else (read address (offset index + 4)).bind fun high => .done (.ok (join low high)) := by
  rw [fetch, if_neg (mt count_le_iff.1 (Nat.not_le.2 small))]
  rfl

theorem fetches_beyond (beyond : 6 ≤ index.toNat) :
    Fetches space address index (.error .indexOutOfRange) [] := by
  refine ⟨.error .indexOutOfRange, ?_, rfl⟩
  rw [fetch, if_pos (count_le_iff.2 beyond)]
  exact .done _

theorem fetches_alone (small : index.toNat < 6)
    (narrow : ¬ HasWideType (content space address index.toNat)) :
    Fetches space address index (.ok (content space address index.toNat).toNat)
      [index.toNat] := by
  let low := content space address index.toNat
  refine ⟨.ok low.toUInt64, ?_, congrArg Except.ok low.toNat_toUInt64⟩
  rw [fetch_of_lt address small, List.map_cons, register_toNat]
  refine .read ?_
  have notWide := Bool.eq_false_iff.2 (mt (isWide_iff low).1 narrow)
  rw [read_eq_content space, notWide]
  exact .done _

theorem fetches_both (small : index.toNat < 5)
    (wide : HasWideType (content space address index.toNat)) :
    Fetches space address index
      (.ok (joined (content space address index.toNat)
        (content space address (index.toNat + 1))))
      [index.toNat, index.toNat + 1] := by
  let low := content space address index.toNat
  let high := content space address (index.toNat + 1)
  refine ⟨.ok (join low high), ?_, congrArg Except.ok (toNat_join low high)⟩
  rw [fetch_of_lt address (Nat.lt_succ_of_lt small), List.map_cons, List.map_cons,
    register_toNat, register_toNat_succ]
  refine .read ?_
  rw [read_eq_content space, (isWide_iff low).2 wide, if_neg (by decide),
    if_neg (mt eq_last_iff.1 (Nat.ne_of_lt small))]
  refine .read ?_
  rw [read_next_eq_content space]
  exact .done _

theorem fetches_last (last : index.toNat = 5)
    (wide : HasWideType (content space address 5)) :
    Fetches space address index (.error .indexOutOfRange) [5] := by
  refine ⟨.error .indexOutOfRange, ?_, rfl⟩
  rw [← last] at wide ⊢
  rw [fetch_of_lt address (last ▸ by decide), List.map_cons, register_toNat]
  refine .read ?_
  rw [read_eq_content space, (isWide_iff _).2 wide, if_neg (by decide),
    if_pos (eq_last_iff.2 last)]
  exact .done _

/-! ## The only mistake -/

/-- Fetching a register comes to one result after one list of reads. -/
theorem Fetches.unique {result other : Except Failure Nat} {slots otherSlots : List Nat}
    (first : Fetches space address index result slots)
    (second : Fetches space address index other otherSlots) :
    result = other ∧ slots.map (register address) = otherSlots.map (register address) := by
  obtain ⟨fetched, comes, rfl⟩ := first
  obtain ⟨otherFetched, otherComes, rfl⟩ := second
  have same := comes.value_eq.symm.trans otherComes.value_eq
  obtain rfl : fetched = otherFetched := Except.ok.inj same
  exact ⟨rfl, comes.reads_eq.symm.trans otherComes.reads_eq⟩

/-- A mistaken register is not decoded correctly: it alone would be the address. -/
theorem not_decodes_of_isMistaken (mistaken : IsMistaken space address index) :
    ¬ Decodes space address index := by
  intro decodes
  obtain ⟨small, port, wide⟩ := mistaken
  have alone := decodes.narrow small (.inl port)
  rcases Nat.lt_or_eq_of_le (Nat.le_of_lt_succ small) with before | last
  · -- One read cannot be two.
    have reads_eq := ((fetches_both before wide).unique alone).2
    exact absurd (congrArg List.length reads_eq) (by simp)
  · -- An address cannot be an error.
    rw [last] at wide
    have result_eq := ((fetches_last last wide).unique alone).1
    cases result_eq

/-- **Base address registers are decoded correctly, except addresses in I/O space that look like
wide ones.**  Those are joined with the content of the next register, and the last register
is refused. -/
theorem decodes_iff (space : ConfigSpace) (address : Address) (index : UInt8) :
    (Decodes space address index ↔ ¬ IsMistaken space address index) ∧
      (IsMistaken space address index →
        if index.toNat = 5 then Fetches space address index (.error .indexOutOfRange) [5]
        else Fetches space address index
          (.ok (joined (content space address index.toNat)
            (content space address (index.toNat + 1))))
          [index.toNat, index.toNat + 1]) := by
  refine ⟨⟨fun decodes mistaken => not_decodes_of_isMistaken mistaken decodes,
    fun sound => ?_⟩, fun ⟨small, _, wide⟩ => ?_⟩
  · constructor
    · exact fetches_beyond
    · intro small kind
      refine fetches_alone small fun wide => ?_
      rcases kind with port | narrow
      · exact sound ⟨small, port, wide⟩
      · exact narrow wide
    · exact fun small _ wide => fetches_both small wide
    · exact fun last _ wide => fetches_last last wide
  · split
    · next last =>
      rw [last] at wide
      exact fetches_last last wide
    · next before => exact fetches_both (by omega) wide

/-- A function whose first base address register holds port `0xc004`. -/
def portFunction : ConfigSpace :=
  (RegisterFile.ofList
    [⟨⟨0, 1, 0⟩, 0x1b36, 0x000d, ⟨0x02, 0x00, 0x00⟩, 0x00, [(0x10, 0xc005), (0x14, 1)]⟩]).content

/-- Not every register is decoded correctly: this one holds a port, and comes out as an address of
33 bits. -/
theorem portFunction_mistaken :
    IsPort (content portFunction ⟨0, 1, 0⟩ 0) ∧
      portFunction.value (fetch ⟨0, 1, 0⟩ 0) = .ok (.ok 0x10000c005) ∧
      ¬ Decodes portFunction ⟨0, 1, 0⟩ 0 := by
  have port : IsPort (content portFunction ⟨0, 1, 0⟩ 0) := by decide +kernel
  have wide : HasWideType (content portFunction ⟨0, 1, 0⟩ 0) := by decide +kernel
  exact ⟨port, rfl, not_decodes_of_isMistaken ⟨by decide, port, wide⟩⟩

end Bar

end KernelStart.Pci
