/-!
# Failure classes

Start-up code reports a failure by its class.  The list is closed and its order is
part of the interface: `Failure.all` names every class once, in that order.

A `LocatedFailure` pairs a class with the place in the sources that raised it, and its message
names both; two located failures are equal only when all three parts are.  The programs of
start-up do not carry places: they pass the class alone, and their log entries name the class
without a place.
-/

set_option autoImplicit false

namespace KernelStart

/-- Why an operation of the start-up code did not do what was asked. -/
inductive Failure where
  /-- A table of fixed capacity is full. -/
  | resourceExhausted
  /-- No matching controller or capability exists. -/
  | notFound
  /-- The request exceeds what the hardware advertises. -/
  | unsupported
  | indexOutOfRange
  | alreadyInitialized
  | controllerNotHalted
  /-- A status bit did not settle within the poll limit. -/
  | timeout
  | notImplemented
  deriving DecidableEq, Repr, Inhabited

namespace Failure

/-- The word by which a failure class is reported. -/
def name : Failure → String
  | resourceExhausted => "ResourceExhausted"
  | notFound => "NotFound"
  | unsupported => "Unsupported"
  | indexOutOfRange => "IndexOutOfRange"
  | alreadyInitialized => "AlreadyInitialized"
  | controllerNotHalted => "ControllerNotHalted"
  | timeout => "Timeout"
  | notImplemented => "NotImplemented"

/-- Every failure class, in the order of the interface. -/
def all : List Failure :=
  [resourceExhausted, notFound, unsupported, indexOutOfRange, alreadyInitialized,
    controllerNotHalted, timeout, notImplemented]

/-- The failure class reported by a word. -/
def ofName? (word : String) : Option Failure :=
  all.find? fun kind => kind.name == word

theorem mem_all (kind : Failure) : kind ∈ all := by cases kind <;> decide

/-- No two classes share a word, so a reported word names its class. -/
theorem ofName?_name (kind : Failure) : ofName? kind.name = some kind := by
  cases kind <;> decide

end Failure

/-- A failure class together with the place in the sources that raised it. -/
structure LocatedFailure where
  kind : Failure
  file : String
  line : UInt32
  deriving DecidableEq, Repr

/-- The class, then the file and line that raised it. -/
def LocatedFailure.message (error : LocatedFailure) : String :=
  s!"{error.kind.name} at {error.file}:{error.line.toNat}"

end KernelStart
