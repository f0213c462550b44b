import Mathlib.Algebra.BigOperators.Group.List.Basic
import Mathlib.Data.Nat.Bitwise

/-!
# Words as rows of fields

A descriptor word is drawn as a row of fields, each a few bits wide.  `row` cuts a word into
its fields, the lowest first.  Nothing is lost by that: two words that fit into the fields and have
the same row are equal (`eq_of_row_eq`).

A builder puts its arguments at the places of their fields and joins the parts bit by bit.  Such
an operation acts on each field by itself (`row_or`, `row_and`, `row_xor`), and a value at the
place of one field leaves all the others zero (`row_shifted`).  So the row of a built word is read
off its parts, and no argument can leak into the field of another one.
-/

set_option autoImplicit false

namespace KernelStart.Descriptor

/-- The fields of a word, lowest first, if they have these widths. -/
def row : List Nat → Nat → List Nat
  | [], _ => []
  | width :: rest, word => word % 2 ^ width :: row rest (word / 2 ^ width)

theorem row_zero (widths : List Nat) : row widths 0 = List.replicate widths.length 0 := by
  induction widths with
  | nil => rfl
  | cons width rest ih =>
    rw [row, Nat.zero_mod, Nat.zero_div, ih]
    rfl

/-- Words that fit into the fields are told apart by them. -/
theorem eq_of_row_eq {widths : List Nat} {first second : Nat}
    (firstFits : first < 2 ^ widths.sum) (secondFits : second < 2 ^ widths.sum)
    (same : row widths first = row widths second) : first = second := by
  induction widths generalizing first second with
  | nil =>
    rw [List.sum_nil] at firstFits secondFits
    omega
  | cons width rest ih =>
    obtain ⟨low_eq, later_eq⟩ := List.cons.inj same
    rw [List.sum_cons, Nat.pow_add] at firstFits secondFits
    have high_eq : first / 2 ^ width = second / 2 ^ width :=
      ih (Nat.div_lt_of_lt_mul firstFits) (Nat.div_lt_of_lt_mul secondFits) later_eq
    rw [← Nat.div_add_mod first (2 ^ width), ← Nat.div_add_mod second (2 ^ width), low_eq, high_eq]

/-- A field of one bit is that bit. -/
theorem and_two_pow_eq_iff (word position : Nat) :
    word &&& 2 ^ position = 2 ^ position ↔ word.testBit position = true := by
  rw [Nat.and_two_pow]
  cases word.testBit position with
  | false => simp [Nat.ne_of_lt (Nat.two_pow_pos position)]
  | true => simp

/-- Parts of a word that do not overlap are added. -/
theorem toNat_or_shiftLeft {lower upper shift : UInt64} {position : Nat}
    (shift_eq : shift.toNat = position) (inside : position < 64)
    (lowerSmall : lower.toNat < 2 ^ position) (upperSmall : 2 ^ position * upper.toNat < 2 ^ 64) :
    (lower ||| upper <<< shift).toNat = lower.toNat + 2 ^ position * upper.toNat := by
  rw [UInt64.toNat_or, UInt64.toNat_shiftLeft, shift_eq, Nat.mod_eq_of_lt inside, Nat.shiftLeft_eq,
    Nat.mul_comm upper.toNat, Nat.mod_eq_of_lt upperSmall, Nat.or_comm,
    ← Nat.two_pow_add_eq_or_of_lt lowerSmall, Nat.add_comm]

/-! ## Operations bit by bit -/

/-- An operation that can be carried out on the lower and the upper part of words can be carried
out field by field. -/
theorem row_zipWith {operation : Nat → Nat → Nat}
    (lower : ∀ first second width,
      operation first second % 2 ^ width = operation (first % 2 ^ width) (second % 2 ^ width))
    (upper : ∀ first second width,
      operation first second / 2 ^ width = operation (first / 2 ^ width) (second / 2 ^ width))
    (widths : List Nat) (first second : Nat) :
    row widths (operation first second) =
      List.zipWith operation (row widths first) (row widths second) := by
  induction widths generalizing first second with
  | nil => rfl
  | cons width rest ih =>
    rw [row, lower, upper, ih]
    rfl

variable (widths : List Nat) (first second : Nat)

theorem row_or : row widths (first ||| second) =
    List.zipWith (· ||| ·) (row widths first) (row widths second) :=
  row_zipWith (fun _ _ _ => Nat.or_mod_two_pow) (fun _ _ _ => Nat.or_div_two_pow) _ _ _

theorem row_and : row widths (first &&& second) =
    List.zipWith (· &&& ·) (row widths first) (row widths second) :=
  row_zipWith (fun _ _ _ => Nat.and_mod_two_pow) (fun _ _ _ => Nat.and_div_two_pow) _ _ _

theorem row_xor : row widths (first ^^^ second) =
    List.zipWith (· ^^^ ·) (row widths first) (row widths second) :=
  row_zipWith (fun _ _ _ => Nat.xor_mod_two_pow) (fun _ _ _ => Nat.xor_div_two_pow) _ _ _

/-! ## A value at the place of a field -/

/-- The row in which only one field is not zero. -/
def onlyAt (column value : Nat) : List Nat :=
  (List.replicate widths.length 0).set column value

variable {widths}

/-- A value that fits into a field, moved to the place of the field, touches no other. -/
theorem row_shifted {column position value : Nat} (inside : column < widths.length)
    (below : (widths.take column).sum = position) (fits : value < 2 ^ widths[column]) :
    row widths (2 ^ position * value) = onlyAt widths column value := by
  subst below
  induction widths generalizing column with
  | nil => cases inside
  | cons width rest ih =>
    cases column with
    | zero =>
      rw [List.getElem_cons_zero] at fits
      rw [List.take_zero, List.sum_nil, Nat.pow_zero, Nat.one_mul, row, Nat.mod_eq_of_lt fits,
        Nat.div_eq_of_lt fits, row_zero]
      rfl
    | succ column =>
      rw [List.take_succ_cons, List.sum_cons, Nat.pow_add, Nat.mul_assoc, row, Nat.mul_mod_right,
        Nat.mul_div_cancel_left _ (Nat.two_pow_pos width), ih (Nat.lt_of_succ_lt_succ inside) fits]
      rfl

end KernelStart.Descriptor
