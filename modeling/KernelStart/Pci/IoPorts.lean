import KernelStart.Pci.RegisterFile

/-!
# Configuration space behind two I/O ports

On a PC configuration space is reached through two 32-bit I/O ports: a word written to
the first selects a register, an access to the second reads or writes it.
`throughPorts` is that pair of accesses as a program, and `ConfigPorts` is the hardware
at the other end: it remembers the selector word and passes data accesses on to a
register file.
-/

set_option autoImplicit false

namespace KernelStart.Pci

/-- An access to a 32-bit I/O port. -/
inductive WidePortRequest where
  | input (number : UInt16)
  | output (number : UInt16) (value : UInt32)
  deriving DecidableEq, Repr

/-- Access to 32-bit I/O ports. -/
abbrev WidePorts : Signature where
  Request := WidePortRequest
  Answer
    | .input _ => UInt32
    | .output _ _ => Unit

/-- Takes the word that selects a register. -/
def selectPort : UInt16 := 0xcf8

/-- Reads and writes the selected register. -/
def dataPort : UInt16 := 0xcfc

/-- Selects a register. -/
def selectRegister (register : ConfigRegister) : Program WidePorts Unit :=
  @Program.request WidePorts (.output selectPort (register.address.selectorWord register.offset))

/-- An access to configuration space as a pair of accesses to I/O ports. -/
def throughPorts : (request : ConfigRequest) → Program WidePorts (Config.Answer request)
  | .read register => do
    selectRegister register
    @Program.request WidePorts (.input dataPort)
  | .write register value => do
    selectRegister register
    @Program.request WidePorts (.output dataPort value)

/-- The hardware behind the two I/O ports. -/
structure ConfigPorts where
  selector : UInt32
  file : RegisterFile

namespace ConfigPorts

/-- The hardware before the first selection. -/
def start (file : RegisterFile) : ConfigPorts := ⟨0, file⟩

/-- The register that the selector word names. -/
def selected (ports : ConfigPorts) : ConfigRegister :=
  let (address, offset) := Address.ofSelectorWord ports.selector
  ⟨address, offset⟩

/-- Reads a 32-bit I/O port. -/
def input (ports : ConfigPorts) (number : UInt16) : UInt32 × ConfigPorts :=
  if number = dataPort then
    let (value, file) := ports.file.read ports.selected
    (value, { ports with file := file })
  else
    (ports.selector, ports)

/-- Writes a 32-bit I/O port. -/
def output (ports : ConfigPorts) (number : UInt16) (value : UInt32) : ConfigPorts :=
  if number = dataPort then
    { ports with file := ports.file.write ports.selected value }
  else
    { ports with selector := value }

/-- The hardware answers accesses to its I/O ports. -/
def environment : Environment WidePorts ConfigPorts
  | .input number, ports =>
    let (value, next) := ports.input number
    (.ok value, next)
  | .output number value, ports => (.ok (), ports.output number value)

end ConfigPorts

end KernelStart.Pci
