import KernelStart.Pci.RegisterFile

/-!
# Unchanging configuration space

While nothing writes, configuration space is a function from registers to their
contents.  `ConfigSpace.value` is what a program that only reads comes to on it.

A register file is such a function as long as it is only read: a reading program comes
to the same value on it (`RegisterFile.run_readEnvironment`), and leaves its functions
and the record of its writes alone.
-/

set_option autoImplicit false

namespace KernelStart.Pci

/-- The contents of all registers. -/
abbrev ConfigSpace := ConfigRegister → UInt32

namespace ConfigSpace

variable {α : Type}

/-- Every read is answered with the content of the register. -/
def environment (space : ConfigSpace) : Environment ConfigRead Unit :=
  fun register _ => (.ok (space register), ())

/-- The same for programs that could write, with writes that have no effect. -/
def unchanging (space : ConfigSpace) : Environment Config Unit
  | .read register, _ => (.ok (space register), ())
  | .write _ _, _ => (.ok (), ())

/-- What a reading program comes to. -/
def value (space : ConfigSpace) (program : Program ConfigRead α) : Except Stop α :=
  (program.run space.environment ()).1

/-! ## Fields of a function -/

def vendor (space : ConfigSpace) (address : Address) : UInt16 :=
  (space ⟨address, vendorOffset⟩).toUInt16

/-- Whether a function answers at all. -/
def isPresent (space : ConfigSpace) (address : Address) : Bool :=
  space.vendor address != absentVendor

theorem isPresent_iff (space : ConfigSpace) (address : Address) :
    space.isPresent address = true ↔ space.vendor address ≠ absentVendor := bne_iff_ne

theorem isPresent_eq_false_iff (space : ConfigSpace) (address : Address) :
    space.isPresent address = false ↔ space.vendor address = absentVendor := bne_eq_false_iff_eq

def header (space : ConfigSpace) (address : Address) : UInt8 :=
  (space ⟨address, headerOffset⟩ >>> 16).toUInt8

def classCode (space : ConfigSpace) (address : Address) : ClassCode :=
  ClassCode.ofRegister (space ⟨address, classOffset⟩)

/-- The bus behind a bridge. -/
def secondaryBus (space : ConfigSpace) (address : Address) : UInt8 :=
  (space ⟨address, busNumbersOffset⟩ >>> 8).toUInt8

/-- What enumeration records about a function. -/
def device (space : ConfigSpace) (address : Address) : Device :=
  ⟨address, space.header address, space.classCode address⟩

/-! ## Values of programs -/

/-- A program goes on with the value of its first part. -/
theorem value_bind {β : Type} {space : ConfigSpace} {program : Program ConfigRead α} {result : α}
    (first : space.value program = .ok result) (next : α → Program ConfigRead β) :
    space.value (program.bind next) = space.value (next result) := by
  have ran : program.run space.environment () = (.ok result, ()) := Prod.ext first rfl
  rw [value, Program.run_bind_ok ran]
  rfl

theorem value_readVendor (space : ConfigSpace) (address : Address) :
    space.value (readVendor address) = .ok (space.vendor address) := rfl

theorem value_readHeader (space : ConfigSpace) (address : Address) :
    space.value (readHeader address) = .ok (space.header address) := rfl

theorem value_readDevice (space : ConfigSpace) (address : Address) :
    space.value (readDevice address) = .ok (space.device address) := rfl

theorem value_readSecondaryBus (space : ConfigSpace) (address : Address) :
    space.value (readSecondaryBus address) = .ok (space.secondaryBus address) := rfl

end ConfigSpace

/-- A reading program comes to the same value on a register file and on its contents, and
changes neither the functions nor the record of the writes. -/
theorem RegisterFile.run_readEnvironment {α : Type} (program : Program ConfigRead α)
    (file : RegisterFile) :
    (program.run readEnvironment file).1 = ConfigSpace.value file.content program ∧
      (program.run readEnvironment file).2.functionAt = file.functionAt ∧
      (program.run readEnvironment file).2.writes = file.writes := by
  induction program generalizing file with
  | done _ => exact ⟨rfl, rfl, rfl⟩
  | panic _ => exact ⟨rfl, rfl, rfl⟩
  | ask register resume ih => exact ih (file.content register) (file.read register).2

/-- A reading program among others that can write comes to its value on the contents of a
register file, and changes neither the functions nor the record of the writes. -/
theorem RegisterFile.run_readOnly {α : Type} (program : Program ConfigRead α)
    (file : RegisterFile) :
    ∃ searched : RegisterFile, (readOnly program).run environment file =
        (ConfigSpace.value file.content program, searched) ∧
      searched.functionAt = file.functionAt ∧ searched.writes = file.writes := by
  obtain ⟨value_eq, functions_eq, writes_eq⟩ := file.run_readEnvironment program
  refine ⟨(program.run readEnvironment file).2, ?_, functions_eq, writes_eq⟩
  rw [readOnly, Program.run_interpret, ← value_eq]
  rfl

end KernelStart.Pci
