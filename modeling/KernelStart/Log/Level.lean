/-!
# Severity of log messages

Severities carry the numbers of the system log convention, where a lower number is
more severe.  A message is emitted when its severity is at or below the threshold in
force.  The order on levels is the order of their numbers.
-/

set_option autoImplicit false

namespace KernelStart.Log

/-- How severe a message is. -/
inductive Level where
  | error
  | warn
  | info
  | debug
  deriving DecidableEq, Repr, Inhabited

namespace Level

/-- The number of a severity; lower is more severe. -/
def code : Level → Nat
  | error => 3
  | warn => 4
  | info => 6
  | debug => 7

/-- The marker that opens a line of this severity; all four have the same width. -/
def tag : Level → String
  | error => "[ERROR]"
  | warn => "[WARN] "
  | info => "[INFO] "
  | debug => "[DEBUG]"

instance : LE Level := ⟨fun left right => left.code ≤ right.code⟩
instance : LT Level := ⟨fun left right => left.code < right.code⟩

instance (left right : Level) : Decidable (left ≤ right) :=
  inferInstanceAs (Decidable (left.code ≤ right.code))
instance (left right : Level) : Decidable (left < right) :=
  inferInstanceAs (Decidable (left.code < right.code))

/-- Whether a message of this severity passes the threshold. -/
def passes (level threshold : Level) : Bool :=
  decide (level ≤ threshold)

/-- A lower threshold lets through no message that a higher one holds back. -/
theorem passes_mono {level low high : Level} (h : low ≤ high) (p : level.passes low = true) :
    level.passes high = true := by
  simp only [passes, decide_eq_true_eq] at p ⊢
  exact Nat.le_trans p h

/-- The level named by a word. -/
def ofName? : String → Option Level
  | "Error" => some error
  | "Warn" => some warn
  | "Info" => some info
  | "Debug" => some debug
  | _ => none

end Level

end KernelStart.Log
