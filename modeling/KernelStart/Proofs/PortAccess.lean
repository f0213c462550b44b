import KernelStart.Pci.IoPorts
import KernelStart.Program.Conclusion
import KernelStart.Proofs.ConfigAddresses
import Mathlib.Tactic.IntervalCases

/-!
# Configuration space through two ports

An access through the I/O ports packs an address and an offset into a word and leaves it to the
hardware to take them apart again.  What comes out is the register that is `reached`: device
and function cut to the places of configuration space, and the offset to the first byte of its
register.

So a program that uses the ports has exactly the run that it has on the register file when each
of its accesses goes to the register reached (`agrees_reaching`).  For an address that has a place
only the offset is cut, which a register file does not notice (`agrees_direct`); and that is all
that enumeration and the preparation of a controller ever access.
-/

set_option autoImplicit false

namespace KernelStart.Pci

open Program

/-! ## The register that is reached -/

/-- The fields of a selector word do not overlap, so the hardware finds what was put there. -/
theorem Address.ofSelectorWord_selectorWord (address : Address) (offset : UInt8) :
    ofSelectorWord (address.selectorWord offset) = (address.reached, offset &&& 0xfc) := by
  simp only [ofSelectorWord, selectorWord, reached, Prod.mk.injEq, Address.mk.injEq]
  -- Field by field and bit by bit: every other field is shifted past the bit or masked off there.
  refine ⟨⟨?_, ?_, ?_⟩, ?_⟩ <;>
    refine UInt8.toBitVec_inj.1 (BitVec.eq_of_getElem_eq fun bit inside => ?_) <;>
    interval_cases bit <;> simp

/-- The first byte of the register that a byte offset lies in. -/
def ConfigRegister.aligned (register : ConfigRegister) : ConfigRegister :=
  ⟨register.address, register.offset &&& 0xfc⟩

/-- The register that an access through the ports goes to. -/
def ConfigRegister.reached (register : ConfigRegister) : ConfigRegister :=
  ⟨register.address.reached, register.offset &&& 0xfc⟩

/-- An access goes to the device and the function by their remainders. -/
theorem Address.toNat_reached (address : Address) :
    address.reached.bus = address.bus ∧
      address.reached.device.toNat = address.device.toNat % devicesPerBus ∧
      address.reached.function.toNat = address.function.toNat % functionsPerDevice := by
  refine ⟨rfl, ?_, ?_⟩
  · rw [reached, UInt8.toNat_and]
    exact Nat.and_two_pow_sub_one_eq_mod _ 5
  · rw [reached, UInt8.toNat_and]
    exact Nat.and_two_pow_sub_one_eq_mod _ 3

/-- An address that has a place is reached itself. -/
theorem Address.HasPlace.reached_eq {address : Address} (place : address.HasPlace) :
    address.reached = address := by
  obtain ⟨-, device_eq, function_eq⟩ := address.toNat_reached
  rw [Nat.mod_eq_of_lt place.device] at device_eq
  rw [Nat.mod_eq_of_lt place.function] at function_eq
  obtain ⟨bus, device, function⟩ := address
  rw [reached, Address.mk.injEq]
  exact ⟨rfl, UInt8.toNat_inj.1 device_eq, UInt8.toNat_inj.1 function_eq⟩

theorem ConfigRegister.InPlace.reached_eq {register : ConfigRegister} (place : register.InPlace) :
    register.reached = register.aligned := by
  rw [reached, Address.HasPlace.reached_eq place, aligned]

/-- The two low bits of an offset do not choose the register. -/
theorem registerNumber_aligned (offset : UInt8) :
    registerNumber (offset &&& 0xfc) = registerNumber offset := by
  have cut : ∀ byte : Fin 256,
      registerNumber (UInt8.ofFin byte &&& 0xfc) = registerNumber (UInt8.ofFin byte) := by
    decide +kernel
  exact cut offset.toFin

/-! ## Register files up to the bytes of a register -/

namespace RegisterFile

/-- The register file with its accesses taken down by the first byte of their registers. -/
def aligned (file : RegisterFile) : RegisterFile where
  functionAt := file.functionAt
  reads := file.reads.map ConfigRegister.aligned
  writes := file.writes.map fun write => { write with register := write.register.aligned }

theorem read_aligned (file : RegisterFile) (register : ConfigRegister) :
    file.aligned.read register.aligned =
      ((file.read register).1, (file.read register).2.aligned) := by
  have content_eq : file.aligned.content register.aligned = file.content register := by
    simp only [content, aligned, ConfigRegister.aligned, registerNumber_aligned]
  rw [read, content_eq]
  rfl

theorem write_aligned (file : RegisterFile) (register : ConfigRegister) (value : UInt32) :
    file.aligned.write register.aligned value = (file.write register value).aligned := by
  have store_eq : file.aligned.store register.aligned value = file.store register value := by
    funext address
    simp only [store, aligned, ConfigRegister.aligned, registerNumber_aligned]
  rw [write, store_eq]
  rfl

/-- Every access goes to the register that it reaches. -/
def reaching : Environment Config RegisterFile
  | .read register, file => environment (.read register.reached) file
  | .write register value, file => environment (.write register.reached value) file

end RegisterFile

/-! ## One access through the ports -/

/-- The accesses to I/O ports that an access to configuration space takes. -/
def ConfigRequest.portAccesses : ConfigRequest → List WidePortRequest
  | read register =>
    [.output selectPort (register.address.selectorWord register.offset), .input dataPort]
  | write register value =>
    [.output selectPort (register.address.selectorWord register.offset), .output dataPort value]

namespace ConfigPorts

/-- Configuration space as it is found behind the two ports. -/
def configuration : Environment Config ConfigPorts := through throughPorts environment

/-- Every access is one selection and one access to the selected register. -/
theorem requests_throughPorts (request : ConfigRequest) (ports : ConfigPorts) :
    (throughPorts request).requests environment ports = request.portAccesses := by
  cases request <;> rfl

/-- The ports after a register was selected. -/
def select (ports : ConfigPorts) (register : ConfigRegister) : ConfigPorts :=
  ports.output selectPort (register.address.selectorWord register.offset)

/-- Selecting a register selects the one that is reached. -/
theorem selected_select (ports : ConfigPorts) (register : ConfigRegister) :
    (ports.select register).selected = register.reached := by
  change ConfigRegister.mk
    (Address.ofSelectorWord (register.address.selectorWord register.offset)).1
    (Address.ofSelectorWord (register.address.selectorWord register.offset)).2 = register.reached
  rw [Address.ofSelectorWord_selectorWord, ConfigRegister.reached]

theorem configuration_read (ports : ConfigPorts) (register : ConfigRegister) :
    configuration (.read register) ports =
      (.ok (ports.file.content register.reached),
        { ports.select register with file := (ports.file.read register.reached).2 }) := by
  rw [← selected_select ports register]
  rfl

theorem configuration_write (ports : ConfigPorts) (register : ConfigRegister) (value : UInt32) :
    configuration (.write register value) ports =
      (.ok (), { ports.select register with file := ports.file.write register.reached value }) := by
  rw [← selected_select ports register]
  rfl

/-- An access through the ports is an access to the register that is reached. -/
theorem agrees_reaching :
    configuration.Agrees RegisterFile.reaching (fun _ => True) fun ports file =>
      ports.file = file := by
  rintro request - ports _ rfl
  cases request with
  | read register =>
    rw [configuration_read]
    exact ⟨rfl, rfl⟩
  | write register value =>
    rw [configuration_write]
    exact ⟨rfl, rfl⟩

/-- While all addresses have a place, an access through the ports is one to the register itself, as
far as a register file can tell. -/
theorem agrees_direct :
    configuration.Agrees RegisterFile.environment ConfigRequest.InPlace fun ports file =>
      ports.file = file.aligned := by
  rintro request place ports file start
  cases request with
  | read register =>
    have read_eq := file.read_aligned register
    rw [configuration_read, ConfigRegister.InPlace.reached_eq place, start]
    exact ⟨congrArg Except.ok (congrArg Prod.fst read_eq), congrArg Prod.snd read_eq⟩
  | write register value =>
    rw [configuration_write, ConfigRegister.InPlace.reached_eq place, start]
    exact ⟨rfl, file.write_aligned register value⟩

end ConfigPorts

/-! ## Sequences of accesses -/

/-- Makes accesses one after the other, and keeps what they are answered. -/
def accessAll : List ConfigRequest → Program Config (Conversation Config)
  | [] => pure []
  | request :: rest => do
    let answer ← @Program.request Config request
    return ⟨request, answer⟩ :: (← accessAll rest)

/-- A sequence of accesses comes to its answers, and it has made the accesses in their order. -/
theorem accessAll_concludes (accesses : List ConfigRequest) :
    (accessAll accesses).Concludes (fun _ => True) fun made _ => made = accesses := by
  induction accesses with
  | nil => rfl
  | cons request rest ih =>
    refine ⟨trivial, fun answer => ih.bind fun made answers isRest => ?_⟩
    change request :: (made ++ []) = request :: rest
    rw [List.append_nil, isRest]

theorem RegisterFile.reaching_serves : reaching.Serves fun _ => True := by
  rintro (register | ⟨register, value⟩) - file
  · exact ⟨_, _, rfl⟩
  · exact ⟨_, _, rfl⟩

/-- Through the ports a sequence of accesses comes to the answers of the registers that are reached,
leaves the functions with the same registers, and takes two accesses to ports for each. -/
theorem ConfigPorts.run_accessAll (accesses : List ConfigRequest) (ports : ConfigPorts) :
    ∃ answers reached,
      (accessAll accesses).run RegisterFile.reaching ports.file = (.ok answers, reached.file) ∧
        ((accessAll accesses).interpret throughPorts).run environment ports =
          (.ok answers, reached) ∧
        ((accessAll accesses).interpret throughPorts).requests environment ports =
          accesses.flatMap ConfigRequest.portAccesses := by
  have anything := Asks.anything (accessAll accesses)
  obtain ⟨answers, file, direct, made⟩ :=
    (accessAll_concludes accesses).run_ok RegisterFile.reaching_serves ports.file
  obtain ⟨same, still⟩ := anything.run_agrees agrees_reaching rfl
  rw [direct] at same still
  refine ⟨answers, ((accessAll accesses).run configuration ports).2, ?_, ?_, ?_⟩
  · rw [direct, still]
  · rw [run_interpret]
    exact Prod.ext same rfl
  · rw [requests_interpret requests_throughPorts]
    change ((accessAll accesses).requests configuration ports).flatMap _ = _
    rw [anything.requests_agree agrees_reaching rfl, made]

/-! ## Programs over configuration space -/

/-- Through the ports the program comes to what it comes to on the register file, and its effects
are the same, byte offsets apart that mean the same register. -/
def AgreesThroughPorts {α : Type} (program : Program Config α) : Prop :=
  ∀ (selector : UInt32) (file : RegisterFile),
    let ported := program.run ConfigPorts.configuration ⟨selector, file.aligned⟩
    let direct := program.run RegisterFile.environment file
    ported.1 = direct.1 ∧ ported.2.file = direct.2.aligned

/-- The same of a program that logs; the log is the same as well. -/
def LogAgreesThroughPorts {α : Type} (program : Program (Logged Config) α) : Prop :=
  ∀ (threshold : Log.Level) (selector : UInt32) (file : RegisterFile) (entries : List Log.Entry),
    let ported := program.run (Log.collecting threshold ConfigPorts.configuration)
      (⟨selector, file.aligned⟩, entries)
    let direct := program.run (Log.collecting threshold RegisterFile.environment) (file, entries)
    ported.1 = direct.1 ∧ ported.2.1.file = direct.2.1.aligned ∧ ported.2.2 = direct.2.2

theorem agreesThroughPorts {α : Type} {program : Program Config α}
    (asks : program.Asks ConfigRequest.InPlace) : AgreesThroughPorts program :=
  fun _ _ => asks.run_agrees ConfigPorts.agrees_direct rfl

theorem logAgreesThroughPorts {α : Type} {program : Program (Logged Config) α}
    (asks : program.Asks (OrLogs ConfigRequest.InPlace)) : LogAgreesThroughPorts program :=
  fun threshold _ _ _ => asks.run_agrees (ConfigPorts.agrees_direct.collecting threshold) ⟨rfl, rfl⟩

/-- The ports are as good as the registers behind them. -/
structure ConfigPorts.Transparent : Prop where
  /-- A sequence of accesses, whatever its addresses and offsets, comes through the ports to the
  answers that it gets at the registers that it reaches, and leaves the functions with the same
  registers.  Each access is a selection and one access to the selected register. -/
  sequences : ∀ (accesses : List ConfigRequest) (ports : ConfigPorts), ∃ answers reached,
    (accessAll accesses).run RegisterFile.reaching ports.file = (.ok answers, reached.file) ∧
      ((accessAll accesses).interpret throughPorts).run environment ports =
        (.ok answers, reached) ∧
      ((accessAll accesses).interpret throughPorts).requests environment ports =
        accesses.flatMap ConfigRequest.portAccesses
  /-- A register that has a place is reached itself, at its first byte. -/
  reached_own : ∀ register : ConfigRegister, register.address.HasPlace →
    register.reached = ⟨register.address, register.offset &&& 0xfc⟩
  /-- Any other access reaches the device and the function with the same remainders. -/
  reached_remainders : ∀ register : ConfigRegister,
    register.reached.address.bus = register.address.bus ∧
      register.reached.address.device.toNat = register.address.device.toNat % devicesPerBus ∧
      register.reached.address.function.toNat =
        register.address.function.toNat % functionsPerDevice ∧
      register.reached.offset = register.offset &&& 0xfc
  enumerates : ∀ previous : Inventory, AgreesThroughPorts (readOnly (enumerateInto previous))
  findsCapability : ∀ device : Device, device.IsRecordable →
    AgreesThroughPorts (readOnly (findMessageCapability device.address))
  enablesMessages : ∀ device : Device, device.IsRecordable →
    ∀ (target message : UInt32) (exponent : UInt8),
      AgreesThroughPorts (enableMessages device.address target message exponent)
  fetchesBar : ∀ device : Device, device.IsRecordable → ∀ index : UInt8,
    AgreesThroughPorts (readOnly (Bar.fetch device.address index))
  takesOver : ∀ inventory : Inventory, inventory.IsScanned → ∀ device : Device,
    device.IsRecordable → LogAgreesThroughPorts (Connectors.takeOver inventory device.address)

/-- **The two ports are transparent.**  Accesses through them, in any order and number, do what
accesses to the registers reached do, and enumeration, the search for capabilities, the setup of
messages, the reading of base addresses and the takeover of connectors cannot tell them from the
registers themselves, for every function that an enumeration can record. -/
theorem ConfigPorts.transparent : Transparent where
  sequences := run_accessAll
  reached_own _ place := ConfigRegister.InPlace.reached_eq place
  reached_remainders register :=
    ⟨register.address.toNat_reached.1, register.address.toNat_reached.2.1,
      register.address.toNat_reached.2.2, rfl⟩
  enumerates previous := agreesThroughPorts (asks_readOnly (enumerateInto_asks previous))
  findsCapability _ recordable :=
    agreesThroughPorts (asks_readOnly (findMessageCapability_asks recordable.hasPlace))
  enablesMessages _ recordable target message exponent :=
    agreesThroughPorts (enableMessages_asks recordable.hasPlace target message exponent)
  fetchesBar _ recordable index :=
    agreesThroughPorts (asks_readOnly (Bar.fetch_asks recordable.hasPlace index))
  takesOver _ scanned _ recordable :=
    logAgreesThroughPorts (Connectors.takeOver_asks scanned.inPlace recordable.hasPlace)

end KernelStart.Pci
