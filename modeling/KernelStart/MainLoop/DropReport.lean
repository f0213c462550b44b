import Mathlib.Algebra.GroupWithZero.Nat
import KernelStart.MainLoop.History

/-!
# Reports of dropped messages

The loop reports the messages that a full queue turned away in one line of the log, a
warning with their number in it.  `Log.Entry.reportedDrops` reads the number back from such
a line and is nothing for any other entry (`reportedDrops_dropReport`), so the numbers that
a log announces can be added up (`Log.dropsIn`).

A handler may write to the log as well.  What it writes along a history is collected by
`Rig.writtenAlong`, so that lines of a handler that happen to read like a report can be told
from those of the loop.
-/

set_option autoImplicit false

namespace KernelStart

/-! ## The text of a report -/

/-- What a report says before and after the number. -/
def Log.reportOpening : String := "main queue full: "
def Log.reportClosing : String := " message(s) dropped"

/-- The report of a number of dropped messages. -/
def Log.dropReport (count : Nat) : Log.Entry :=
  ⟨.warn, s!"main queue full: {count} message(s) dropped"⟩

/-- The number in a report of dropped messages. -/
def Log.Entry.reportedDrops (entry : Log.Entry) : Option Nat :=
  let opening := reportOpening.toList
  let closing := reportClosing.toList
  let text := entry.text.toList
  let digits := (text.drop opening.length).take (text.length - opening.length - closing.length)
  if entry.level = .warn ∧ text = opening ++ digits ++ closing ∧
      digits.all Char.isDigit = true then
    some (Nat.ofDigitChars 10 digits 0)
  else
    none

/-- The number of a report is read back from it. -/
theorem Log.Entry.reportedDrops_dropReport (count : Nat) :
    (dropReport count).reportedDrops = some count := by
  let digits := Nat.toDigits 10 count
  have text_eq : (dropReport count).text.toList =
      reportOpening.toList ++ digits ++ reportClosing.toList := by
    have printed : (dropReport count).text =
        reportOpening ++ String.ofList digits ++ reportClosing :=
      congrArg (reportOpening ++ · ++ reportClosing) Nat.repr_eq_ofList_toDigits
    rw [printed, String.toList_append, String.toList_append, String.toList_ofList]
  have decimal : digits.all Char.isDigit = true :=
    List.all_eq_true.2 fun _ digit => Nat.isDigit_of_mem_toDigits (by decide) (by decide) digit
  unfold reportedDrops
  generalize reportOpening.toList = opening, reportClosing.toList = closing at text_eq ⊢
  have digits_eq : ((opening ++ digits ++ closing).drop opening.length).take
      ((opening ++ digits ++ closing).length - opening.length - closing.length) = digits := by
    rw [List.append_assoc, List.drop_left, List.length_append, List.length_append,
      Nat.add_sub_cancel_left, Nat.add_sub_cancel, List.take_left]
  rw [text_eq]
  dsimp only
  rw [digits_eq, if_pos ⟨rfl, rfl, decimal⟩, Nat.ofDigitChars_ten_toDigits]

/-- Only warnings report dropped messages. -/
theorem Log.Entry.reportedDrops_of_ne_warn {entry : Log.Entry} (other : entry.level ≠ .warn) :
    entry.reportedDrops = none :=
  if_neg fun report => other report.1

/-- The dropped messages that the entries of a log report. -/
def Log.dropsIn (entries : List Log.Entry) : Nat :=
  (entries.filterMap Log.Entry.reportedDrops).sum

@[simp] theorem Log.dropsIn_nil : dropsIn [] = 0 := rfl

@[simp] theorem Log.dropsIn_append (early late : List Log.Entry) :
    dropsIn (early ++ late) = dropsIn early + dropsIn late := by
  rw [dropsIn, List.filterMap_append, List.sum_append]
  rfl

namespace MainLoop.Rig

variable {η : Type}

/-! ## What a handler writes -/

/-- What the handler writes to the log when a stimulus has it called. -/
def writes (threshold : Log.Level) (handler : Handler η) (rig : Rig η) :
    Stimulus → List Log.Entry
  | .cycle =>
    match rig.queue.toList.head?.bind Message.type? with
    | none => []
    | some type =>
      (handler.handle type rig.handlerState).1.logged.flatMap (·.emittedAt threshold)
  | .raise _ => []
  | .mask => []
  | .unmask => []

/-- What the handler writes to the log along a history, in order. -/
def writtenAlong (threshold : Log.Level) (handler : Handler η) (rig : Rig η) :
    List Stimulus → List Log.Entry
  | [] => []
  | stimulus :: rest =>
    rig.writes threshold handler stimulus ++
      (rig.perform threshold handler stimulus.operation).2.writtenAlong threshold handler rest

/-! ## The account of the drops -/

/-- How many messages a full queue has turned away. -/
def rejected (rig : Rig η) : Nat := rig.arrivals.countP fun arrival => !arrival.accepted

end MainLoop.Rig

end KernelStart
