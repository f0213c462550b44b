import KernelStart.Pci.Device

/-!
# Configuration space as a register file

Plain hardware: every function has 64 registers of 32 bits that keep what is written to
them.  A place without a function reads as all ones, and a write to it changes nothing.
The file also remembers which functions were read and, in order, what was written.
-/

set_option autoImplicit false

namespace KernelStart.Pci

/-- The contents of a function's registers, by register number. -/
abbrev Registers := Nat → UInt32

/-- The number of the register that a byte offset lies in. -/
def registerNumber (offset : UInt8) : Nat := offset.toNat / 4

/-- A function as it is described before the start: its identity and further registers. -/
structure FunctionImage where
  address : Address
  vendor : UInt16
  deviceId : UInt16
  classCode : ClassCode
  header : UInt8
  settings : List (UInt8 × UInt32)

/-- The registers of a described function; later settings overwrite earlier ones. -/
def FunctionImage.registers (image : FunctionImage) : Registers := fun number =>
  let described : UInt32 :=
    if number = registerNumber vendorOffset then
      image.deviceId.toUInt32 <<< 16 ||| image.vendor.toUInt32
    else if number = registerNumber classOffset then
      image.classCode.register
    else if number = registerNumber headerOffset then
      image.header.toUInt32 <<< 16
    else
      0
  image.settings.foldl
    (fun value setting => if registerNumber setting.1 = number then setting.2 else value)
    described

/-- A write to a register. -/
structure ConfigWrite where
  register : ConfigRegister
  value : UInt32
  deriving DecidableEq, Repr

/-- The functions of a machine, and the accesses made so far, latest first. -/
structure RegisterFile where
  functionAt : Address → Option Registers
  reads : List ConfigRegister
  writes : List ConfigWrite

namespace RegisterFile

/-- A machine without functions. -/
def empty : RegisterFile := ⟨fun _ => none, [], []⟩

/-- Plugs a function in. -/
def add (file : RegisterFile) (image : FunctionImage) : RegisterFile :=
  let registers := image.registers
  { file with functionAt := fun address =>
      if address = image.address then some registers else file.functionAt address }

/-- A machine with the described functions. -/
def ofList (images : List FunctionImage) : RegisterFile := images.foldl add empty

/-- The content of a register; all ones where no function is. -/
def content (file : RegisterFile) (register : ConfigRegister) : UInt32 :=
  match file.functionAt register.address with
  | some registers => registers (registerNumber register.offset)
  | none => 0xffffffff

/-- Reads a register and remembers the access. -/
def read (file : RegisterFile) (register : ConfigRegister) : UInt32 × RegisterFile :=
  (file.content register, { file with reads := register :: file.reads })

/-- Stores a value in a register, if the function exists. -/
def store (file : RegisterFile) (register : ConfigRegister) (value : UInt32) :
    Address → Option Registers := fun address =>
  if address = register.address then
    (file.functionAt address).map fun registers number =>
      if number = registerNumber register.offset then value else registers number
  else
    file.functionAt address

/-- Writes a register and remembers the access. -/
def write (file : RegisterFile) (register : ConfigRegister) (value : UInt32) : RegisterFile :=
  { file with
    functionAt := file.store register value
    writes := ⟨register, value⟩ :: file.writes }

/-- A write changes the register of an existing function, and nothing else. -/
theorem content_write (file : RegisterFile) (register other : ConfigRegister) (value : UInt32) :
    (file.write register value).content other =
      if other.address = register.address ∧
          registerNumber other.offset = registerNumber register.offset ∧
          (file.functionAt register.address).isSome = true then value
      else file.content other := by
  by_cases sameAddress : other.address = register.address
  · cases found : file.functionAt register.address with
    | none => simp [content, write, store, sameAddress, found]
    | some registers => simp [content, write, store, sameAddress, found]
  · simp [content, write, store, sameAddress]

/-- The register file answers reads. -/
def readEnvironment : Environment ConfigRead RegisterFile := fun register file =>
  let (value, next) := file.read register
  (.ok value, next)

/-- The register file answers reads and writes. -/
def environment : Environment Config RegisterFile
  | .read register, file =>
    let (value, next) := file.read register
    (.ok value, next)
  | .write register value, file => (.ok (), file.write register value)

/-- Forgets the reads made so far. -/
def withoutReads (file : RegisterFile) : RegisterFile := { file with reads := [] }

/-! ## Summary of the reads -/

/-- How often each key occurs, keys ascending. -/
def tally (keys : List Nat) : List (Nat × Nat) :=
  (keys.mergeSort.splitBy (· == ·)).filterMap fun group =>
    group.head?.map fun key => (key, group.length)

/-- A number that orders addresses by bus, device and function. -/
def addressKey (address : Address) : Nat :=
  address.bus.toNat * 65536 + address.device.toNat * 256 + address.function.toNat

/-- The address with a given number. -/
def addressOfKey (key : Nat) : Address :=
  ⟨UInt8.ofNat (key / 65536), UInt8.ofNat (key / 256), UInt8.ofNat key⟩

/-- The reads by address, ascending. -/
def readsByAddress (file : RegisterFile) : List (Address × Nat) :=
  (tally (file.reads.map fun register => addressKey register.address)).map fun entry =>
    (addressOfKey entry.1, entry.2)

/-- The reads by bus, ascending. -/
def readsByBus (file : RegisterFile) : List (Nat × Nat) :=
  tally (file.reads.map fun register => register.address.bus.toNat)

/-- The reads of functions that exist or are not function 0, by address. -/
def notableReads (file : RegisterFile) : List (Address × Nat) :=
  file.readsByAddress.filter fun entry =>
    (file.functionAt entry.1).isSome || entry.1.function != 0

end RegisterFile

end KernelStart.Pci
