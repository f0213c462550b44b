import KernelStart.Boot.Controller
import KernelStart.Pci.RegisterFile

/-!
# Preparing a controller without a machine

The preparation of a controller can be rehearsed on a register file.  Arming the vector
then only records how many registers had been written before, which shows that nothing
is routed to a vector that is not armed.
-/

set_option autoImplicit false

namespace KernelStart.Boot

open Pci

/-- A register file, and the number of writes that came before the arming. -/
structure Rehearsal where
  file : RegisterFile
  armedAfter : Option Nat

namespace Rehearsal

/-- Nothing is armed yet. -/
def start (file : RegisterFile) : Rehearsal := ⟨file, none⟩

/-- Answers what the preparation asks for. -/
def environment : Environment Setup Rehearsal
  | .config request, rehearsal =>
    let (answer, file) := RegisterFile.environment request rehearsal.file
    (answer, { rehearsal with file := file })
  | .arm, rehearsal => (.ok (), { rehearsal with armedAfter := some rehearsal.file.writes.length })

end Rehearsal

/-- What a rehearsal found, and with what accesses. -/
structure Rehearsed where
  found : Except Stop (Option Device)
  /-- The register file after the search for the controller. -/
  searched : RegisterFile
  outcome : Except Stop (Except Failure Prepared)
  /-- The register file after the preparation, with the reads of the preparation alone. -/
  prepared : RegisterFile
  armedAfter : Option Nat
  entries : List Log.Entry

/-- The inventory of a walk over the register file, also of one that failed; its reads are not
kept. -/
def surveyed (file : RegisterFile) : Inventory × RegisterFile :=
  match enumerateBuses.run RegisterFile.readEnvironment file with
  | (.ok (_, inventory), reached) => (inventory, reached.withoutReads)
  | (.error _, reached) => (.empty, reached.withoutReads)

/-- Searches the inventory for a controller and prepares it, each on its own. -/
def rehearse (threshold : Log.Level) (inventory : Inventory) (apicId : UInt8)
    (file : RegisterFile) : Rehearsed :=
  let (found, searched) := (findController inventory).run RegisterFile.readEnvironment file
  let (outcome, (reached, entries)) := (prepare inventory apicId).run
    (Log.collecting threshold Rehearsal.environment) (.start searched.withoutReads, [])
  ⟨found, searched, outcome, reached.file, reached.armedAfter, entries⟩

end KernelStart.Boot
