import KernelStart.Pci.BusWalk
import KernelStart.Pci.Connectors
import KernelStart.Pci.Bar
import KernelStart.Pci.MessageSignal
import KernelStart.Program.Simulation

/-!
# Which addresses programs over configuration space use

Configuration space has a place for 32 devices on a bus and eight functions of a device, and
`Address.HasPlace` says that an address is one of these.  A walk over the buses looks at no
others, whatever it reads, and so it records no others (`enumerateInto_readsInPlace`,
`Device.IsRecordable.hasPlace`).  All other programs stay with the address that they are given
(`findMessageCapability_asks`, `enableMessages_asks`, `Bar.fetch_asks`), or with those of an
inventory (`Connectors.takeOver_asks`).
-/

set_option autoImplicit false

namespace KernelStart.Pci

open Program

/-- Configuration space has a place for the function. -/
structure Address.HasPlace (address : Address) : Prop where
  device : address.device.toNat < devicesPerBus
  function : address.function.toNat < functionsPerDevice

/-- Configuration space has a place for the function that is accessed. -/
def ConfigRegister.InPlace (register : ConfigRegister) : Prop := register.address.HasPlace

/-- Configuration space has a place for the function that is accessed. -/
def ConfigRequest.InPlace : ConfigRequest → Prop
  | read register => register.InPlace
  | write register _ => register.InPlace

/-! ## Walks over the buses -/

/-- A position on a bus has a place. -/
theorem Cursor.hasPlace_address {cursor : Cursor} (unfinished : cursor.isFinished = false) :
    cursor.address.HasPlace := by
  rw [isFinished, decide_eq_false_iff_not, positions, devicesPerBus, functionsPerDevice]
    at unfinished
  constructor
  · change (UInt8.ofNat (cursor.position / 8)).toNat < 32
    rw [UInt8.toNat_ofNat']
    omega
  · change (UInt8.ofNat (cursor.position % 8)).toNat < 8
    rw [UInt8.toNat_ofNat']
    omega

/-- All recorded functions have a place. -/
def Inventory.InPlace (inventory : Inventory) : Prop :=
  ∀ device ∈ inventory.devices, device.address.HasPlace

theorem Inventory.inPlace_clear (inventory : Inventory) : inventory.clear.InPlace := by
  intro device none
  rw [devices_clear] at none
  cases none

/-- Recording a function that has a place keeps the inventory in place. -/
theorem Inventory.InPlace.push {inventory next : Inventory} {device : Device}
    (inPlace : inventory.InPlace) (own : device.address.HasPlace)
    (pushed : inventory.push device = .ok next) : next.InPlace := by
  intro other isOne
  rw [devices_of_push pushed, List.mem_append, List.mem_singleton] at isOne
  rcases isOne with before | rfl
  · exact inPlace other before
  · exact own

namespace BusWalk

/-- What the walk recorded has a place. -/
def InPlace (walk : BusWalk) : Prop := walk.inventory.InPlace

/-- What a walk recorded up to its end has a place. -/
def Ending.InPlace (ending : Ending) : Prop := ending.reached.InPlace

/-- What a turn leads to has recorded only what has a place. -/
def Turn.InPlace {walk : BusWalk} : Turn walk → Prop
  | .ended ending => ending.InPlace
  | .onward next _ => next.InPlace

theorem InPlace.enter {walk next : BusWalk} {bus : UInt8} (inPlace : walk.InPlace)
    (entered : walk.enter bus = .ok next) : next.InPlace := by
  unfold BusWalk.enter at entered
  split at entered
  · cases entered
    exact inPlace
  · split at entered
    · cases entered
    · cases entered
      exact inPlace

/-- Whatever it is answered, the program reads in place and comes to a good value. -/
abbrev ReadsInPlace {α : Type} (program : Program ConfigRead α) (good : α → Prop) : Prop :=
  program.Obeys (fun _ => True) ConfigRegister.InPlace good

theorem readsInPlace_readVendor {address : Address} (place : address.HasPlace) :
    ReadsInPlace (readVendor address) fun _ => True :=
  ⟨place, fun _ _ => trivial⟩

theorem readsInPlace_readHeader {address : Address} (place : address.HasPlace) :
    ReadsInPlace (readHeader address) fun _ => True :=
  ⟨place, fun _ _ => trivial⟩

theorem readsInPlace_readSecondaryBus {address : Address} (place : address.HasPlace) :
    ReadsInPlace (readSecondaryBus address) fun _ => True :=
  ⟨place, fun _ _ => trivial⟩

theorem readsInPlace_readDevice {address : Address} (place : address.HasPlace) :
    ReadsInPlace (readDevice address) fun device => device.address = address :=
  ⟨place, fun _ _ => ⟨place, fun _ _ => rfl⟩⟩

theorem look_readsInPlace {walk : BusWalk} (inPlace : walk.InPlace) {cursor : Cursor}
    {outer : List Cursor} (stack_eq : walk.stack = cursor :: outer)
    (unfinished : cursor.isFinished = false) :
    ReadsInPlace (walk.look cursor outer stack_eq unfinished) Turn.InPlace := by
  have place := Cursor.hasPlace_address unfinished
  refine Obeys.bind (readsInPlace_readVendor place) fun vendor _ => ?_
  split
  · exact inPlace
  refine Obeys.bind (readsInPlace_readDevice place) fun device own => ?_
  split
  · exact inPlace
  · next inventory pushed =>
    have recorded : (BusWalk.mk inventory (cursor.afterPresent device.header :: outer)
        walk.entered).InPlace := Inventory.InPlace.push inPlace (own ▸ place) pushed
    dsimp only
    split
    · refine Obeys.bind (readsInPlace_readSecondaryBus place) fun bus _ => ?_
      split
      · exact recorded
      · next inside entered => exact recorded.enter entered
    · exact recorded

theorem turn_readsInPlace {walk : BusWalk} (inPlace : walk.InPlace) :
    ReadsInPlace walk.turn Turn.InPlace := by
  unfold turn
  split
  · exact inPlace
  · split
    · exact inPlace
    · exact look_readsInPlace inPlace _ _

/-- A walk reads in place until it ends, and what it recorded then has a place. -/
theorem finish_readsInPlace {walk : BusWalk} (inPlace : walk.InPlace) :
    ReadsInPlace walk.finish Ending.InPlace := by
  induction walk using finish.induct with
  | case1 walk ih =>
    rw [finish]
    refine Obeys.bind (turn_readsInPlace inPlace) fun turn kept => ?_
    cases turn with
    | ended ending => exact kept
    | onward next less => exact ih next less kept

theorem walkRoot_readsInPlace {walk : BusWalk} (inPlace : walk.InPlace) (bus : UInt8) :
    ReadsInPlace (walk.walkRoot bus) Ending.InPlace := by
  unfold walkRoot
  split
  · exact inPlace
  · next inside entered => exact finish_readsInPlace (inPlace.enter entered)

theorem walkRoots_readsInPlace {functions : List UInt8}
    (few : ∀ function ∈ functions, function.toNat < functionsPerDevice) {walk : BusWalk}
    (inPlace : walk.InPlace) : ReadsInPlace (walk.walkRoots functions) Ending.InPlace := by
  induction functions generalizing walk with
  | nil => exact inPlace
  | cons function rest ih =>
    obtain ⟨own, others⟩ := List.forall_mem_cons.1 few
    have device : (0 : UInt8).toNat < devicesPerBus := by decide
    have place : Address.HasPlace ⟨0, 0, function⟩ := ⟨device, own⟩
    refine Obeys.bind (readsInPlace_readVendor place) fun vendor _ => ?_
    split
    · exact ih others inPlace
    · refine Obeys.bind (walkRoot_readsInPlace inPlace function) fun ending kept => ?_
      split
      · exact kept
      · exact ih others kept

end BusWalk

open BusWalk (ReadsInPlace)

theorem enumerationReport_readsInPlace (previous : Inventory) :
    ReadsInPlace (enumerationReport previous) BusWalk.Ending.InPlace := by
  have host : Address.HasPlace ⟨0, 0, 0⟩ := ⟨by decide, by decide⟩
  refine Obeys.bind (BusWalk.readsInPlace_readHeader host) fun header _ => ?_
  have start : (BusWalk.start previous.clear).InPlace := previous.inPlace_clear
  refine Obeys.bind (BusWalk.walkRoot_readsInPlace start 0) fun ending kept => ?_
  split
  · exact kept
  · split
    · exact kept
    · exact BusWalk.walkRoots_readsInPlace (fun _ => toNat_lt_of_mem_rootFunctions) kept

/-- Whatever the hardware answers, an enumeration looks only at addresses that have a place, and
the functions that it records have one. -/
theorem enumerateInto_readsInPlace (previous : Inventory) :
    ReadsInPlace (enumerateInto previous) fun outcome => outcome.2.InPlace :=
  Obeys.bind (enumerationReport_readsInPlace previous) fun _ kept => kept

theorem enumerateInto_asks (previous : Inventory) :
    (enumerateInto previous).Asks ConfigRegister.InPlace :=
  (enumerateInto_readsInPlace previous).mono (fun _ => id) fun _ _ => trivial

/-! ## What a walk can record -/

/-- An inventory to which an enumeration can come, whatever hardware it walks over. -/
def Inventory.IsScanned (inventory : Inventory) : Prop :=
  ∃ previous conversation result,
    Reaches (enumerateInto previous) conversation (.done (result, inventory))

/-- Every enumeration that comes to an inventory has scanned it. -/
theorem Inventory.isScanned_of_run {σ : Type} {environment : Environment ConfigRead σ}
    {state reached : σ} {previous inventory : Inventory} {result : Except Failure Unit}
    (ran : (enumerateInto previous).run environment state = (.ok (result, inventory), reached)) :
    inventory.IsScanned := by
  obtain ⟨conversation, rest, -, -, reaches, -, ended⟩ :=
    reaches_of_run_recording environment (enumerateInto previous) state []
  have same := run_recording environment (enumerateInto previous) state []
  rw [ran] at same
  obtain rfl := ended _ (congrArg Prod.fst same)
  exact ⟨previous, conversation, result, reaches⟩

/-- A function that an enumeration can record. -/
def Device.IsRecordable (device : Device) : Prop :=
  ∃ inventory : Inventory, inventory.IsScanned ∧ device ∈ inventory.devices

theorem Inventory.IsScanned.inPlace {inventory : Inventory} (scanned : inventory.IsScanned) :
    inventory.InPlace := by
  obtain ⟨previous, conversation, result, reaches⟩ := scanned
  exact ((enumerateInto_readsInPlace previous).of_reaches reaches fun _ _ => trivial).2

theorem Device.IsRecordable.hasPlace {device : Device} (recordable : device.IsRecordable) :
    device.address.HasPlace := by
  obtain ⟨inventory, scanned, isOne⟩ := recordable
  exact scanned.inPlace device isOne

/-! ## Programs that stay with an address -/

/-- A reading program asks the same things among programs that can write. -/
theorem asks_readOnly {α : Type} {program : Program ConfigRead α}
    (asks : program.Asks ConfigRegister.InPlace) :
    (readOnly program).Asks ConfigRequest.InPlace := by
  refine Asks.interpret (fun register place => ?_) asks
  exact Asks.request place

section

variable {address : Address} (place : address.HasPlace)
include place

theorem write_asks (offset : UInt8) (value : UInt32) :
    (write address offset value).Asks ConfigRequest.InPlace :=
  .request place

theorem Capability.Walk.find?_asks (kind : UInt8) (walk : Walk) :
    (walk.find? address kind).Asks ConfigRegister.InPlace := by
  induction walk using Walk.find?.induct with
  | case1 walk ended =>
    rw [Walk.find?, dif_pos ended]
    trivial
  | case2 walk goes ih =>
    rw [Walk.find?, dif_neg goes]
    refine Asks.bind ⟨place, fun _ _ => trivial⟩ fun capability => ?_
    split
    · trivial
    · exact ih capability

theorem findMessageCapability_asks :
    (findMessageCapability address).Asks ConfigRegister.InPlace := by
  refine Asks.bind ?_ fun found => ?_
  · exact ⟨place, fun _ _ => Capability.Walk.find?_asks place _ _⟩
  · cases found <;> trivial

theorem writeBehind_asks (offset distance : UInt8) (value : UInt32) :
    (writeBehind address offset distance value).Asks ConfigRequest.InPlace := by
  rw [writeBehind]
  cases addOffset? offset distance with
  | none => trivial
  | some sum => exact write_asks place sum value

theorem writeMessageRegisters_asks (capability : MessageCapability) (target message : UInt32)
    (exponent : UInt8) :
    (writeMessageRegisters address capability target message exponent).Asks
      ConfigRequest.InPlace := by
  refine .bind (write_asks place _ _) fun _ => .bind (writeBehind_asks place _ _ _) fun _ => ?_
  have rest : (do
      writeBehind address capability.offset capability.messageDistance message
      write address capability.offset
        (capability.prepared exponent ||| MessageCapability.enableBit)).Asks
      ConfigRequest.InPlace :=
    .bind (writeBehind_asks place _ _ _) fun _ => write_asks place _ _
  split
  · exact .bind (writeBehind_asks place _ _ _) fun _ => rest
  · exact rest

theorem enableMessages_asks (target message : UInt32) (exponent : UInt8) :
    (enableMessages address target message exponent).Asks ConfigRequest.InPlace := by
  refine .bind (asks_readOnly (findMessageCapability_asks place)) fun found => ?_
  cases found with
  | error _ => trivial
  | ok capability =>
    dsimp only
    split
    · trivial
    · exact .bind (writeMessageRegisters_asks place _ _ _ _) fun _ => trivial

theorem Bar.fetch_asks (index : UInt8) :
    (Bar.fetch address index).Asks ConfigRegister.InPlace := by
  rw [Bar.fetch]
  split
  · trivial
  refine Asks.bind (.request place) fun low => ?_
  split
  · trivial
  split
  · trivial
  · exact .bind (.request place) fun _ => trivial

end

/-! ## Programs that search an inventory -/

theorem Connectors.hasIntelEhci_asks {devices : List Device}
    (inPlace : ∀ device ∈ devices, device.address.HasPlace) :
    (hasIntelEhci devices).Asks ConfigRegister.InPlace := by
  induction devices with
  | nil => trivial
  | cons device rest ih =>
    obtain ⟨own, others⟩ := List.forall_mem_cons.1 inPlace
    rw [hasIntelEhci]
    split
    · refine Asks.bind (BusWalk.readsInPlace_readVendor own) fun vendor => ?_
      split
      · trivial
      · exact ih others
    · exact ih others

theorem Connectors.copyMask_asks {address : Address} (place : address.HasPlace)
    (mask target : UInt8) : (copyMask address mask target).Asks ConfigRequest.InPlace :=
  ⟨place, fun _ _ => ⟨place, fun _ _ => trivial⟩⟩

theorem Connectors.takeOver_asks {inventory : Inventory} (inPlace : inventory.InPlace)
    {controller : Address} (place : controller.HasPlace) :
    (takeOver inventory controller).Asks (OrLogs ConfigRequest.InPlace) := by
  refine .bind (asks_readOnly (hasIntelEhci_asks inPlace)).quiet fun found => ?_
  split
  · exact .bind (copyMask_asks place _ _).quiet fun _ =>
      .bind (copyMask_asks place _ _).quiet fun _ => .bind (.log _ _) fun _ => trivial
  · trivial

end KernelStart.Pci
