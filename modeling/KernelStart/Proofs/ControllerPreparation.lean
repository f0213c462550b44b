import KernelStart.Boot.Rehearsal
import KernelStart.Program.Effects
import KernelStart.Proofs.MessageSetup

/-!
# What preparing the controller writes

The preparation runs four procedures over registers that change under their hands: it searches
the inventory, sets up messages, copies the masks of the connectors, and reads where the
registers of the controller lie.  What the later ones read must not depend on what the earlier
ones wrote.

The steps are described one by one as performances (`Program.Performs`) from the functions of a
machine to the functions after it, with the writes in between.  The setup of messages writes
beside the standard header and the registers for connectors, provided the capability is clear of
the latter (`HasClearCapability`, `ConfigWrite.IsAside`).  So the vendors, the masks and the base
address are the same behind the setup as before it (`AgreesLater`), and the whole preparation can
be told from the registers as they stood at its start (`prepare_routes_chosen`).
-/

set_option autoImplicit false

namespace KernelStart.Pci

/-! ## The functions of a machine -/

/-- The registers of all functions. -/
abbrev Functions := Address → Option Registers

namespace Functions

/-- The contents of the registers; all ones where no function is. -/
def content (functions : Functions) : ConfigSpace :=
  RegisterFile.content ⟨functions, [], []⟩

/-- The functions after a write. -/
def assign (functions : Functions) (entry : ConfigWrite) : Functions :=
  RegisterFile.store ⟨functions, [], []⟩ entry.register entry.value

end Functions

theorem Functions.content_assign {functions : Functions} {entry : ConfigWrite}
    {register : ConfigRegister} (misses : entry.Misses register) :
    (functions.assign entry).content register = functions.content register :=
  RegisterFile.content_write_of_misses misses ⟨functions, [], []⟩

theorem Functions.content_assignAll {functions : Functions} {writes : List ConfigWrite}
    {register : ConfigRegister} (misses : ∀ entry ∈ writes, entry.Misses register) :
    Functions.content (writes.foldl assign functions) register = functions.content register := by
  induction writes generalizing functions with
  | nil => rfl
  | cons entry rest ih =>
    obtain ⟨first, later⟩ := List.forall_mem_cons.1 misses
    rw [List.foldl_cons, ih later, content_assign first]

/-! ## Programs over configuration space -/

/-- The write that a request makes. -/
def ConfigRequest.write? : ConfigRequest → Option ConfigWrite
  | read _ => none
  | write register value => some ⟨register, value⟩

/-- Takes down the writes to a register file. -/
def RegisterFile.observer : Observer Config RegisterFile Functions ConfigWrite where
  environment := environment
  view := functionAt
  effect? := ConfigRequest.write?

open Program (Performs)

/-- A reading program comes to its value and has no effects. -/
theorem performs_readOnly {α : Type} {functions : Functions} {program : Program ConfigRead α}
    {value : α} (value_eq : functions.content.value program = .ok value) :
    Performs RegisterFile.observer (readOnly program) functions value functions [] := by
  rintro file rfl
  obtain ⟨searched, ran, functions_eq, -⟩ := file.run_readOnly program
  refine ⟨searched, ?_, functions_eq, ?_⟩
  · exact ran.trans (congrArg (·, searched) value_eq)
  · have reads (register : ConfigRegister) :
        (@Program.request Config (.read register)).Asks
          fun request => RegisterFile.observer.effect? request = none := .request rfl
    exact Program.effects_eq_nil
      (.interpret (fun register _ => reads register) (.anything program)) file

theorem performs_write (functions : Functions) (address : Address) (offset : UInt8)
    (value : UInt32) :
    Performs RegisterFile.observer (write address offset value) functions ()
      (functions.assign ⟨⟨address, offset⟩, value⟩) [⟨⟨address, offset⟩, value⟩] := by
  rintro file rfl
  exact ⟨_, rfl, rfl, rfl⟩

/-- Assignments that all fit are made in order. -/
theorem performs_assignAll {offset : UInt8} {assignments : List Assignment}
    (fit : assignments.all (·.fits offset) = true) (functions : Functions) (address : Address) :
    let writes := assignments.map (·.toWrite address offset)
    Performs RegisterFile.observer (assignAll address offset assignments) functions ()
      (writes.foldl Functions.assign functions) writes := by
  induction assignments generalizing functions with
  | nil => exact .done () functions
  | cons assignment rest ih =>
    rw [List.all_cons, Bool.and_eq_true] at fit
    obtain ⟨fits, later⟩ := fit
    rw [assignAll, writeBehind_of_fits fits]
    exact (performs_write functions address (offset + assignment.distance) assignment.value).bind
      (ih later _)

/-! ## Routing interrupts -/

/-- The capability is not found in the standard header. -/
theorem firstOffset_le_of_value_findMessageCapability {space : ConfigSpace} {address : Address}
    {capability : MessageCapability}
    (found : space.value (findMessageCapability address) = .ok (.ok capability)) :
    Capability.firstOffset ≤ capability.offset := by
  obtain ⟨position, reaches, same, -, -⟩ :=
    Capability.value_findMessageCapability_eq_ok_iff.1 found
  have inArea := reaches position (Nat.le_refl position)
  have offset_eq : (Capability.chainEntry space address position).offset = capability.offset :=
    congrArg Capability.offset same
  rw [← offset_eq]
  exact inArea

/-- The capability of a function leaves room for its registers and keeps clear of the registers
that route connectors. -/
def HasClearCapability (space : ConfigSpace) (address : Address) : Prop :=
  ∀ capability, space.value (findMessageCapability address) = .ok (.ok capability) →
    capability.offset.toNat ≤ 0xf0 ∧
      (capability.offset.toNat + 16 ≤ 0xd0 ∨ 0xe0 ≤ capability.offset.toNat)

/-- A write to a function that goes neither to its standard header nor to the registers that route
connectors. -/
structure ConfigWrite.IsAside (entry : ConfigWrite) (address : Address) : Prop where
  address_eq : entry.register.address = address
  behindHeader : 0x40 ≤ entry.register.offset.toNat
  besideConnectors : entry.register.offset.toNat < 0xd0 ∨ 0xe0 ≤ entry.register.offset.toNat

/-- The offsets that the preparation reads after the routing: in the standard header, and among the
registers that route connectors. -/
def IsReadLater (offset : UInt8) : Prop :=
  offset.toNat < 0x40 ∨ (0xd0 ≤ offset.toNat ∧ offset.toNat < 0xe0)

instance (offset : UInt8) : Decidable (IsReadLater offset) :=
  inferInstanceAs (Decidable (_ ∨ _ ∧ _))

theorem ConfigWrite.IsAside.misses {entry : ConfigWrite} {address : Address}
    (aside : entry.IsAside address) {register : ConfigRegister}
    (later : IsReadLater register.offset) : entry.Misses register := by
  refine .inr fun same => ?_
  obtain ⟨-, behindHeader, besideConnectors⟩ := aside
  unfold registerNumber at same
  unfold IsReadLater at later
  omega

/-- All assignments of a clear capability go aside. -/
theorem MessageCapability.isAside_assignments {capability : MessageCapability}
    (behindHeader : Capability.firstOffset ≤ capability.offset)
    (room : capability.offset.toNat ≤ 0xf0)
    (clear : capability.offset.toNat + 16 ≤ 0xd0 ∨ 0xe0 ≤ capability.offset.toNat)
    (target message : UInt32) (exponent : UInt8) (address : Address) :
    ∀ assignment ∈ capability.assignments target message exponent,
      (assignment.toWrite address capability.offset).IsAside address := by
  have near : ∀ assignment ∈ capability.assignments target message exponent,
      assignment.distance.toNat ≤ 12 := by
    by_cases wide : capability.hasWideAddress = true
    · simp [assignments, messageDistance, wide]
    · simp [assignments, messageDistance, wide]
  intro assignment isAssigned
  have distance_le := near assignment isAssigned
  have first : 0x40 ≤ capability.offset.toNat := UInt8.le_iff_toNat_le.1 behindHeader
  have sum : (capability.offset + assignment.distance).toNat =
      capability.offset.toNat + assignment.distance.toNat := by
    rw [UInt8.toNat_add]
    omega
  refine ⟨rfl, ?_, ?_⟩
  · change 0x40 ≤ (capability.offset + assignment.distance).toNat
    omega
  · change (capability.offset + assignment.distance).toNat < 0xd0 ∨
      0xe0 ≤ (capability.offset + assignment.distance).toNat
    omega

/-- With a clear capability the setup of messages returns; what it writes goes aside, and it writes
nothing unless it succeeds. -/
theorem performs_enableMessages {functions : Functions} {address : Address}
    (clear : HasClearCapability functions.content address) (target message : UInt32)
    (exponent : UInt8) :
    ∃ (result : Except Failure Unit) (writes : List ConfigWrite),
      Performs RegisterFile.observer (enableMessages address target message exponent) functions
          result (writes.foldl Functions.assign functions) writes ∧
        (∀ entry ∈ writes, entry.IsAside address) ∧ (result ≠ .ok () → writes = []) := by
  have nothing : ∀ entry ∈ ([] : List ConfigWrite), entry.IsAside address :=
    fun _ none => nomatch none
  rcases value_findMessageCapability functions.content address with none | ⟨capability, found⟩
  · refine ⟨.error .notFound, [], ?_, nothing, fun _ => rfl⟩
    rw [enableMessages, Program.bind_eq]
    exact (performs_readOnly none).silent_bind (.done _ functions)
  · by_cases refused : capability.offered < exponent
    · refine ⟨.error .unsupported, [], ?_, nothing, fun _ => rfl⟩
      rw [enableMessages, Program.bind_eq]
      refine (performs_readOnly found).silent_bind ?_
      dsimp only
      rw [if_pos refused]
      exact .done _ functions
    · obtain ⟨room, aside⟩ := clear capability found
      have behindHeader := firstOffset_le_of_value_findMessageCapability found
      have fits : capability.fits = true := by
        refine decide_eq_true ?_
        unfold MessageCapability.messageDistance
        split <;> simp <;> omega
      have assigned := capability.isAside_assignments behindHeader room aside target message
        exponent address
      refine ⟨.ok (), (capability.assignments target message exponent).map
        (·.toWrite address capability.offset), ?_, ?_, fun failed => absurd rfl failed⟩
      · rw [enableMessages, Program.bind_eq]
        refine (performs_readOnly found).silent_bind ?_
        dsimp only
        rw [if_neg refused, writeMessageRegisters_eq, Program.bind_eq]
        exact (performs_assignAll
          ((capability.all_fits_assignments target message exponent).trans fits) functions
          address).bind_silent (.done _ _)
      · intro entry written
        obtain ⟨assignment, isAssigned, rfl⟩ := List.mem_map.1 written
        exact assigned assignment isAssigned

/-! ## Taking connectors over -/

namespace Connectors

/-- A USB 2 controller of the vendor is among the devices. -/
def AnyIntelEhci (space : ConfigSpace) (devices : List Device) : Prop :=
  ∃ device ∈ devices, device.classCode.isEhci = true ∧ space.vendor device.address = intelVendor

instance (space : ConfigSpace) (devices : List Device) : Decidable (AnyIntelEhci space devices) :=
  inferInstanceAs (Decidable (∃ device ∈ devices, _ ∧ _))

theorem value_hasIntelEhci (space : ConfigSpace) (devices : List Device) :
    space.value (hasIntelEhci devices) = .ok (decide (AnyIntelEhci space devices)) := by
  induction devices with
  | nil => rfl
  | cons device rest ih =>
    have cons_iff : AnyIntelEhci space (device :: rest) ↔
        (device.classCode.isEhci = true ∧ space.vendor device.address = intelVendor) ∨
          AnyIntelEhci space rest := by
      simp only [AnyIntelEhci, List.mem_cons, exists_eq_or_imp]
    rw [hasIntelEhci, decide_eq_decide.2 cons_iff]
    by_cases ehci : device.classCode.isEhci = true
    · rw [if_pos ehci, Program.bind_eq,
        ConfigSpace.value_bind (space.value_readVendor device.address)]
      by_cases intel : space.vendor device.address = intelVendor
      · rw [if_pos intel, decide_eq_true (.inl ⟨ehci, intel⟩)]
        rfl
      · rw [if_neg intel, ih]
        simp [intel]
    · rw [if_neg ehci, ih]
      simp [ehci]

/-- What is written to take connectors over. -/
def takeOverWrites (space : ConfigSpace) (controller : Address) : List ConfigWrite :=
  [⟨⟨controller, fastLanesOffset⟩, space ⟨controller, fastLanesMaskOffset⟩⟩,
    ⟨⟨controller, routingOffset⟩, space ⟨controller, routingMaskOffset⟩⟩]

theorem performs_copyMask (functions : Functions) (controller : Address) (mask target : UInt8) :
    let value := functions.content ⟨controller, mask⟩
    Performs RegisterFile.observer (copyMask controller mask target) functions value
      (functions.assign ⟨⟨controller, target⟩, value⟩) [⟨⟨controller, target⟩, value⟩] :=
  (performs_readOnly rfl).silent_bind
    (Performs.bind_silent (performs_write functions controller target _) (.done _ _))

theorem performs_takeOver (threshold : Log.Level) (functions : Functions) (inventory : Inventory)
    (controller : Address) :
    let writes := if AnyIntelEhci functions.content inventory.devices then
      takeOverWrites functions.content controller else []
    Performs (RegisterFile.observer.logging threshold) (takeOver inventory controller) functions
      (decide (AnyIntelEhci functions.content inventory.devices))
      (writes.foldl Functions.assign functions) writes := by
  have searched := (performs_readOnly
    (value_hasIntelEhci functions.content inventory.devices)).quiet threshold
  rw [takeOver, Program.bind_eq]
  refine searched.silent_bind ?_
  by_cases any : AnyIntelEhci functions.content inventory.devices
  · have fast := performs_copyMask functions controller fastLanesMaskOffset fastLanesOffset
    have distinct : registerNumber routingMaskOffset ≠ registerNumber fastLanesOffset := by decide
    have misses : (ConfigWrite.mk ⟨controller, fastLanesOffset⟩
        (functions.content ⟨controller, fastLanesMaskOffset⟩)).Misses
          ⟨controller, routingMaskOffset⟩ := .inr distinct
    have routed := performs_copyMask
      (functions.assign ⟨⟨controller, fastLanesOffset⟩,
        functions.content ⟨controller, fastLanesMaskOffset⟩⟩)
      controller routingMaskOffset routingOffset
    dsimp only at routed
    rw [Functions.content_assign misses] at routed
    simp only [decide_eq_true any, if_pos any, if_true]
    exact (fast.quiet threshold).bind ((routed.quiet threshold).bind_silent
      ((Performs.log threshold _ _ _).silent_bind (.done _ _)))
  · simp only [decide_eq_false any, if_neg any]
    exact .done _ _

end Connectors

/-! ## Base address registers -/

/-- The first base address register, together with the next one if its address is wide. -/
def Bar.first (space : ConfigSpace) (address : Address) : UInt64 :=
  let low := space ⟨address, Bar.offset 0⟩
  if Bar.isWide low then Bar.join low (space ⟨address, Bar.offset 0 + 4⟩) else low.toUInt64

theorem value_fetch_first (space : ConfigSpace) (address : Address) :
    space.value (Bar.fetch address 0) = .ok (.ok (Bar.first space address)) := by
  let low := space ⟨address, Bar.offset 0⟩
  have lower : space.value (read address (Bar.offset 0)) = .ok low := rfl
  rw [Bar.fetch, if_neg (by decide), Program.bind_eq, ConfigSpace.value_bind lower, Bar.first]
  by_cases wide : Bar.isWide low = true
  · rw [if_neg (by simp [wide]), if_neg (by decide), if_pos wide]
    rfl
  · rw [if_pos (by simp [wide]), if_neg wide]
    rfl

end KernelStart.Pci

namespace KernelStart.Boot

open Pci
open Program (Performs)

/-! ## The chosen controller -/

theorem value_chooseController (space : ConfigSpace) (fallback : Option Device)
    (devices : List Device) :
    ∃ chosen, space.value (chooseController fallback devices) = .ok chosen ∧
      (chosen = none ↔ fallback = none ∧ ∀ device ∈ devices, device.classCode.isXhci = false) ∧
      ∀ device, chosen = some device →
        fallback = some device ∨ (device ∈ devices ∧ device.classCode.isXhci = true) := by
  induction devices generalizing fallback with
  | nil =>
    refine ⟨fallback, rfl, (and_iff_left (fun _ none => nomatch none)).symm, fun device => .inl⟩
  | cons first rest ih =>
    rw [chooseController]
    by_cases xhci : first.classCode.isXhci = true
    · rw [if_pos xhci, Program.bind_eq,
        ConfigSpace.value_bind (space.value_readVendor first.address)]
      by_cases intel : space.vendor first.address = intelVendor
      · rw [if_pos intel]
        refine ⟨some first, rfl, ?_, ?_⟩
        · simp [xhci]
        · rintro device ⟨⟩
          exact .inr ⟨List.mem_cons_self, xhci⟩
      · rw [if_neg intel]
        obtain ⟨chosen, value_eq, none_iff, chosen_of⟩ := ih (fallback.or (some first))
        refine ⟨chosen, value_eq, ?_, fun device isChosen => ?_⟩
        · rw [none_iff]
          cases fallback <;> simp [xhci]
        · rcases chosen_of device isChosen with kept | ⟨later, isXhci⟩
          · cases fallback with
            | some other => exact .inl kept
            | none =>
              obtain rfl : first = device := Option.some.inj kept
              exact .inr ⟨List.mem_cons_self, xhci⟩
          · exact .inr ⟨List.mem_cons_of_mem _ later, isXhci⟩
    · rw [if_neg xhci]
      obtain ⟨chosen, value_eq, none_iff, chosen_of⟩ := ih fallback
      refine ⟨chosen, value_eq, ?_, fun device isChosen => ?_⟩
      · simp [none_iff, xhci]
      · rcases chosen_of device isChosen with kept | ⟨later, isXhci⟩
        · exact .inl kept
        · exact .inr ⟨List.mem_cons_of_mem _ later, isXhci⟩

/-! ## The preparation, step by step -/

/-- The request for a write. -/
def SetupRequest.ofWrite (entry : ConfigWrite) : SetupRequest :=
  .config (.write entry.register entry.value)

/-- Everything but reading has an effect. -/
def SetupRequest.effect? : SetupRequest → Option SetupRequest
  | .config (.read _) => none
  | request => some request

/-- Takes down the arming and the writes of a preparation. -/
def Rehearsal.observer : Observer Setup Rehearsal Functions SetupRequest where
  environment := environment
  view rehearsal := rehearsal.file.functionAt
  effect? := SetupRequest.effect?

section Steps

variable {α : Type} {before after : Functions} {value : α} {writes : List ConfigWrite}

/-- An access to configuration space is the same for a register file and for a rehearsal. -/
theorem means_config (threshold : Log.Level) (request : ConfigRequest) :
    Performs.Means RegisterFile.observer (Rehearsal.observer.logging threshold)
      (fun state => state.1.file) SetupRequest.ofWrite request
      (.ask (LoggedRequest.plain (SetupRequest.config request)) .done) := by
  intro state
  refine ⟨_, Program.run_request (Rehearsal.observer.logging threshold).environment
    (.plain (.config request)) state, rfl, ?_⟩
  refine (Program.effects_request (Rehearsal.observer.logging threshold)
    (.plain (.config request)) state).trans ?_
  cases request <;> rfl

/-- The same for a program that logs, and both keep the same entries. -/
theorem means_configLogged (threshold : Log.Level) (request : LoggedRequest Config) :
    Performs.Means (RegisterFile.observer.logging threshold)
      (Rehearsal.observer.logging threshold) (fun state => (state.1.file, state.2))
      SetupRequest.ofWrite request
      (Program.keepingLog (fun request =>
        .ask (LoggedRequest.plain (SetupRequest.config request)) .done) request) := by
  intro state
  cases request with
  | log entry =>
    exact ⟨_, rfl, rfl, rfl⟩
  | plain request =>
    refine ⟨_, Program.run_request (Rehearsal.observer.logging threshold).environment
      (.plain (.config request)) state, rfl, ?_⟩
    refine (Program.effects_request (Rehearsal.observer.logging threshold)
      (.plain (.config request)) state).trans ?_
    cases request <;> rfl

theorem performs_onConfig {program : Program Config α}
    (performs : Performs RegisterFile.observer program before value after writes)
    (threshold : Log.Level) :
    Performs (Rehearsal.observer.logging threshold) (onConfig program) before value after
      (writes.map SetupRequest.ofWrite) :=
  performs.interpret (means_config threshold) fun _ => rfl

theorem performs_onConfigLogged {threshold : Log.Level} {program : Program (Logged Config) α}
    (performs : Performs (RegisterFile.observer.logging threshold) program before value after
      writes) :
    Performs (Rehearsal.observer.logging threshold) (onConfigLogged program) before value after
      (writes.map SetupRequest.ofWrite) := by
  refine performs.interpret (means_configLogged threshold) fun _ => rfl

end Steps

theorem performs_arm (threshold : Log.Level) (functions : Functions) :
    Performs (Rehearsal.observer.logging threshold) arm functions () functions [.arm] :=
  fun state seen => ⟨({ state.1 with armedAfter := _ }, state.2), rfl, seen, rfl⟩

/-- What is written to route the interrupts of a controller: all that the setup of messages to the
local interrupt controller writes on its own if it succeeds, and nothing if it does not. -/
def routingWrites (file : RegisterFile) (controller : Address) (apicId : UInt8) :
    List ConfigWrite :=
  let setup := enableMessagesFor controller apicId .level .fixed 0x40 0
  match (setup.run RegisterFile.environment file).1 with
  | .ok (.ok _) => setup.effects RegisterFile.observer file
  | _ => []

theorem performs_routeInterrupts (threshold : Log.Level) {functions : Functions} {device : Device}
    (clear : HasClearCapability functions.content device.address) (apicId : UInt8) :
    ∃ writes, Performs (Rehearsal.observer.logging threshold) (routeInterrupts device apicId)
        functions () (writes.foldl Functions.assign functions) (writes.map SetupRequest.ofWrite) ∧
      (∀ entry ∈ writes, entry.IsAside device.address) ∧
      ∀ file : RegisterFile, file.functionAt = functions →
        routingWrites file device.address apicId = writes := by
  obtain ⟨result, writes, performs, aside, refused⟩ := performs_enableMessages clear
    (messageTarget apicId) (messageFor .level .fixed 0x40) 0
  refine ⟨writes, ?_, aside, fun file same => ?_⟩
  · rw [routeInterrupts, Program.bind_eq]
    refine (performs_onConfig performs threshold).bind_silent ?_
    cases result with
    | ok _ => exact .done _ _
    | error kind =>
      dsimp only
      exact .log threshold _ _ _
  · obtain ⟨reached, ran, -, made⟩ := performs file same
    rw [routingWrites]
    dsimp only [enableMessagesFor]
    rw [show (enableMessages device.address (messageTarget apicId)
      (messageFor .level .fixed 0x40) 0).run RegisterFile.environment file = _ from ran]
    cases result with
    | ok _ => exact made
    | error kind => exact (refused fun same => nomatch same).symm

/-- What is written to take connectors over: the two copies of masks, if both controllers are of
the vendor that asks for it. -/
def connectorWrites (space : ConfigSpace) (inventory : Inventory) (controller : Address) :
    List ConfigWrite :=
  if space.vendor controller = intelVendor ∧ Connectors.AnyIntelEhci space inventory.devices then
    Connectors.takeOverWrites space controller
  else
    []

theorem performs_takeConnectors (threshold : Log.Level) (functions : Functions)
    (inventory : Inventory) (device : Device) :
    let writes := connectorWrites functions.content inventory device.address
    Performs (Rehearsal.observer.logging threshold) (takeConnectors inventory device)
      functions () (writes.foldl Functions.assign functions)
      (writes.map SetupRequest.ofWrite) := by
  have read := performs_onConfig
    (performs_readOnly (functions.content.value_readVendor device.address)) threshold
  rw [takeConnectors, Program.bind_eq]
  refine read.silent_bind ?_
  by_cases intel : functions.content.vendor device.address = intelVendor
  · have taken := performs_onConfigLogged
      (Connectors.performs_takeOver threshold functions inventory device.address)
    simp only [connectorWrites, intel, true_and, if_true]
    exact taken.bind_silent (.done _ _)
  · simp only [connectorWrites, intel, false_and, if_false]
    exact .done _ _

/-! ## Reading after writing -/

/-- Contents that agree on what is read after the routing. -/
def AgreesLater (space other : ConfigSpace) : Prop :=
  ∀ (address : Address) (offset : UInt8), IsReadLater offset →
    space ⟨address, offset⟩ = other ⟨address, offset⟩

theorem agreesLater_assignAll {functions : Functions} {writes : List ConfigWrite}
    {controller : Address} (aside : ∀ entry ∈ writes, entry.IsAside controller) :
    AgreesLater (Functions.content (writes.foldl Functions.assign functions))
      functions.content :=
  fun _ _ later =>
    Functions.content_assignAll fun entry written => (aside entry written).misses later

theorem AgreesLater.connectorWrites_eq {space other : ConfigSpace}
    (agrees : AgreesLater space other) (inventory : Inventory) (controller : Address) :
    connectorWrites space inventory controller = connectorWrites other inventory controller := by
  have vendor_eq (address : Address) : space.vendor address = other.vendor address :=
    congrArg UInt32.toUInt16 (agrees address vendorOffset (by decide))
  have any_iff : Connectors.AnyIntelEhci space inventory.devices ↔
      Connectors.AnyIntelEhci other inventory.devices := by
    simp only [Connectors.AnyIntelEhci, vendor_eq]
  have fast := agrees controller Connectors.fastLanesMaskOffset (by decide)
  have routed := agrees controller Connectors.routingMaskOffset (by decide)
  have writes_eq : Connectors.takeOverWrites space controller =
      Connectors.takeOverWrites other controller := by
    rw [Connectors.takeOverWrites, Connectors.takeOverWrites, fast, routed]
  simp only [connectorWrites, vendor_eq, writes_eq, any_iff]

theorem AgreesLater.first_eq {space other : ConfigSpace} (agrees : AgreesLater space other)
    (controller : Address) : Bar.first space controller = Bar.first other controller := by
  have lower := agrees controller (Bar.offset 0) (by decide)
  have upper := agrees controller (Bar.offset 0 + 4) (by decide)
  rw [Bar.first, Bar.first, lower, upper]

/-- Taking connectors over goes to the registers of the controller for that. -/
theorem offset_of_mem_connectorWrites {space : ConfigSpace} {inventory : Inventory}
    {controller : Address} {entry : ConfigWrite}
    (written : entry ∈ connectorWrites space inventory controller) :
    entry.register.address = controller ∧ 0xd0 ≤ entry.register.offset.toNat := by
  rw [connectorWrites] at written
  split at written
  · rw [Connectors.takeOverWrites, List.mem_cons, List.mem_singleton] at written
    rcases written with rfl | rfl
    · exact ⟨rfl, by dsimp only; decide⟩
    · exact ⟨rfl, by dsimp only; decide⟩
  · cases written

/-- Taking connectors over does not reach the base address registers. -/
theorem first_connectorWrites (functions : Functions) (inventory : Inventory)
    (controller : Address) :
    let writes := connectorWrites functions.content inventory controller
    Bar.first (Functions.content (writes.foldl Functions.assign functions)) controller =
      Bar.first functions.content controller := by
  have kept (offset : UInt8) (header : offset.toNat < 0x40) :
      Functions.content ((connectorWrites functions.content inventory controller).foldl
        Functions.assign functions) ⟨controller, offset⟩ =
          functions.content ⟨controller, offset⟩ := by
    refine Functions.content_assignAll fun entry written => .inr fun same => ?_
    obtain ⟨-, beyond⟩ := offset_of_mem_connectorWrites written
    unfold registerNumber at same
    dsimp only at same
    omega
  dsimp only
  rw [Bar.first, Bar.first, kept (Bar.offset 0) (by decide), kept (Bar.offset 0 + 4) (by decide)]

/-! ## The whole preparation -/

/-- The address of the registers, as the registers of the function give it. -/
def registersAt (space : ConfigSpace) (controller : Address) : UInt64 :=
  Bar.first space controller &&& ~~~barFlags

theorem performs_prepare_none (threshold : Log.Level) {functions : Functions}
    {inventory : Inventory}
    (chosen : functions.content.value (findController inventory) = .ok none) (apicId : UInt8) :
    Performs (Rehearsal.observer.logging threshold) (prepare inventory apicId) functions
      (.error .notFound) functions [] := by
  rw [prepare, Program.bind_eq]
  exact (performs_onConfig (performs_readOnly chosen) threshold).silent_bind (.done _ _)

theorem performs_prepare_some (threshold : Log.Level) {functions : Functions}
    {inventory : Inventory} {device : Device}
    (chosen : functions.content.value (findController inventory) = .ok (some device))
    (clear : HasClearCapability functions.content device.address) (apicId : UInt8) :
    ∃ routing writes : List ConfigWrite,
      writes = routing ++ connectorWrites functions.content inventory device.address ∧
        Performs (Rehearsal.observer.logging threshold) (prepare inventory apicId) functions
          (.ok ⟨device, registersAt functions.content device.address⟩)
          (writes.foldl Functions.assign functions)
          (.arm :: writes.map SetupRequest.ofWrite) ∧
        (∀ entry ∈ routing, entry.IsAside device.address) ∧
        ∀ file : RegisterFile, file.functionAt = functions →
          routingWrites file device.address apicId = routing := by
  obtain ⟨routing, routed, aside, routing_eq⟩ :=
    performs_routeInterrupts threshold clear apicId
  let afterRouting := routing.foldl Functions.assign functions
  have agrees : AgreesLater afterRouting.content functions.content := agreesLater_assignAll aside
  have taken := performs_takeConnectors threshold afterRouting inventory device
  have fetched := performs_readOnly (value_fetch_first (Functions.content
    ((connectorWrites afterRouting.content inventory device.address).foldl Functions.assign
      afterRouting)) device.address)
  dsimp only at taken
  rw [first_connectorWrites, agrees.first_eq] at fetched
  rw [agrees.connectorWrites_eq] at taken fetched
  refine ⟨routing, _, rfl, ?_, aside, routing_eq⟩
  rw [prepare, Program.bind_eq, List.map_append, List.foldl_append]
  refine (performs_onConfig (performs_readOnly chosen) threshold).silent_bind ?_
  refine (Performs.log threshold _ _ _).silent_bind ?_
  refine (performs_arm threshold functions).bind (routed.bind (taken.bind_silent ?_))
  refine (performs_onConfig fetched threshold).silent_bind ?_
  exact (Performs.log threshold _ _ _).silent_bind (.done _ _)

/-- **Preparing the controller arms its vector, routes its interrupts, takes connectors over, and
does nothing else.**  Without a USB 3 controller in the inventory nothing at all is done, and that
is the only failure, as long as the capability for messages leaves room for its registers and
keeps clear of those for connectors.  Otherwise the vector of the chosen controller is armed
before the first write; what is written are the routing and the take-over, in this order and to
the chosen controller only; and the address that is returned is the one that stood in the base
address registers before. -/
theorem prepare_routes_chosen (threshold : Log.Level) (inventory : Inventory) (apicId : UInt8)
    (file : RegisterFile)
    (clear : ∀ device,
      ConfigSpace.value file.content (findController inventory) = .ok (some device) →
        HasClearCapability file.content device.address) :
    let observer := Rehearsal.observer.logging threshold
    let start := (Rehearsal.start file, [])
    let outcome := ((prepare inventory apicId).run observer.environment start).1
    let effects := (prepare inventory apicId).effects observer start
    (outcome = .ok (.error .notFound) ↔
        ∀ device ∈ inventory.devices, device.classCode.isXhci = false) ∧
      (outcome = .ok (.error .notFound) → effects = []) ∧
      (outcome ≠ .ok (.error .notFound) → ∃ device ∈ inventory.devices,
        device.classCode.isXhci = true ∧
        ConfigSpace.value file.content (findController inventory) = .ok (some device) ∧
        outcome = .ok (.ok ⟨device, registersAt file.content device.address⟩) ∧
        let writes := routingWrites file device.address apicId ++
          connectorWrites file.content inventory device.address
        effects = .arm :: writes.map SetupRequest.ofWrite ∧
          ∀ entry ∈ writes, entry.register.address = device.address) := by
  obtain ⟨chosen, value_eq, none_iff, chosen_of⟩ :=
    value_chooseController file.content none inventory.devices
  rw [eq_self, true_and] at none_iff
  dsimp only
  cases chosen with
  | none =>
    obtain ⟨reached, ran, -, made⟩ :=
      performs_prepare_none threshold value_eq apicId (.start file, []) rfl
    rw [ran, made]
    exact ⟨iff_of_true rfl (none_iff.1 rfl), fun _ => rfl, fun found => absurd rfl found⟩
  | some device =>
    obtain ⟨routing, _, rfl, performs, aside, routing_eq⟩ :=
      performs_prepare_some threshold value_eq (clear device value_eq) apicId
    obtain ⟨reached, ran, -, made⟩ := performs (.start file, []) rfl
    obtain ⟨listed, isXhci⟩ := (chosen_of device rfl).resolve_left fun none => nomatch none
    have found : (Except.ok (.ok ⟨device, registersAt file.content device.address⟩) :
        Except Stop (Except Failure Prepared)) ≠ .ok (.error .notFound) := fun same => nomatch same
    rw [ran, made]
    refine ⟨iff_of_false found fun noneXhci => ?_, fun none => absurd none found, fun _ => ?_⟩
    · rw [noneXhci device listed] at isXhci
      cases isXhci
    · refine ⟨device, listed, isXhci, value_eq, rfl, ?_⟩
      rw [routing_eq file rfl]
      refine ⟨rfl, fun entry written => ?_⟩
      rcases List.mem_append.1 written with routed | connected
      · exact (aside entry routed).address_eq
      · exact (offset_of_mem_connectorWrites connected).1

/-- A USB 3 controller of the vendor with a wide message address and a wide base address. -/
def intelXhci : FunctionImage where
  address := ⟨0, 0x14, 0⟩
  vendor := intelVendor
  deviceId := 0x1e31
  classCode := ⟨0x0c, 0x03, 0x30⟩
  header := 0
  settings := [(capabilityPointerOffset, 0x50), (0x50, 0x00800005), (0x10, 0xf7f00004), (0x14, 1),
    (0xd4, 0x3f), (0xdc, 0x0f)]

/-- A USB 2 controller of the same vendor. -/
def intelEhci : FunctionImage where
  address := ⟨0, 0x1a, 0⟩
  vendor := intelVendor
  deviceId := 0x1e2d
  classCode := ⟨0x0c, 0x03, 0x20⟩
  header := 0
  settings := []

/-- Both on one board, and what enumeration records about them. -/
def intelBoard : RegisterFile := .ofList [intelEhci, intelXhci]
def intelInventory : Inventory :=
  .ofList ([intelEhci, intelXhci].map fun image => ⟨image.address, image.header, image.classCode⟩)

/-- The USB 3 controller of this board is routed and takes the connectors over. -/
theorem prepare_routes_chosen_intelBoard :
    let observer := Rehearsal.observer.logging .info
    let start := (Rehearsal.start intelBoard, [])
    let controller : Device := ⟨⟨0, 0x14, 0⟩, 0, ⟨0x0c, 0x03, 0x30⟩⟩
    (∀ device, ConfigSpace.value intelBoard.content (findController intelInventory) =
        .ok (some device) → HasClearCapability intelBoard.content device.address) ∧
      ((prepare intelInventory 1).run observer.environment start).1 =
        .ok (.ok ⟨controller, 0x1f7f00000⟩) ∧
      (prepare intelInventory 1).effects observer start = .arm :: List.map SetupRequest.ofWrite
        [⟨⟨controller.address, 0x50⟩, 0x00800005⟩, ⟨⟨controller.address, 0x54⟩, 0xfee01000⟩,
          ⟨⟨controller.address, 0x58⟩, 0⟩, ⟨⟨controller.address, 0x5c⟩, 0xc040⟩,
          ⟨⟨controller.address, 0x50⟩, 0x00810005⟩, ⟨⟨controller.address, 0xd8⟩, 0x0f⟩,
          ⟨⟨controller.address, 0xd0⟩, 0x3f⟩] := by
  intro observer start controller
  have chosen : ConfigSpace.value intelBoard.content (findController intelInventory) =
      .ok (some controller) := by rfl
  have found : ConfigSpace.value intelBoard.content (findMessageCapability ⟨0, 0x14, 0⟩) =
      .ok (.ok ⟨0x50, 0x00800005⟩) := by
    unfold findMessageCapability Capability.find? Capability.Walk.find?
    rfl
  have clear : ∀ device, ConfigSpace.value intelBoard.content (findController intelInventory) =
      .ok (some device) → HasClearCapability intelBoard.content device.address := by
    intro device isChosen capability isFound
    obtain rfl : controller = device :=
      Option.some.inj (Except.ok.inj (chosen.symm.trans isChosen))
    obtain rfl : (⟨0x50, 0x00800005⟩ : MessageCapability) = capability :=
      Except.ok.inj (Except.ok.inj (found.symm.trans isFound))
    decide
  have routing : routingWrites intelBoard ⟨0, 0x14, 0⟩ 1 =
      [⟨⟨⟨0, 0x14, 0⟩, 0x50⟩, 0x00800005⟩, ⟨⟨⟨0, 0x14, 0⟩, 0x54⟩, 0xfee01000⟩,
        ⟨⟨⟨0, 0x14, 0⟩, 0x58⟩, 0⟩, ⟨⟨⟨0, 0x14, 0⟩, 0x5c⟩, 0xc040⟩,
        ⟨⟨⟨0, 0x14, 0⟩, 0x50⟩, 0x00810005⟩] := by
    unfold routingWrites enableMessagesFor enableMessages findMessageCapability Capability.find?
      Capability.Walk.find?
    rfl
  have connectors : connectorWrites intelBoard.content intelInventory ⟨0, 0x14, 0⟩ =
      [⟨⟨⟨0, 0x14, 0⟩, 0xd8⟩, 0x0f⟩, ⟨⟨⟨0, 0x14, 0⟩, 0xd0⟩, 0x3f⟩] := by rfl
  have registers : registersAt intelBoard.content ⟨0, 0x14, 0⟩ = 0x1f7f00000 := by rfl
  obtain ⟨none_iff, -, some_of⟩ := prepare_routes_chosen .info intelInventory 1 intelBoard clear
  have listed : controller ∈ intelInventory.devices := by decide
  obtain ⟨device, -, -, isChosen, outcome, effects, -⟩ := some_of fun none =>
    absurd (none_iff.1 none controller listed) (by decide)
  obtain rfl : controller = device :=
    Option.some.inj (Except.ok.inj (chosen.symm.trans isChosen))
  refine ⟨clear, outcome.trans ?_, effects.trans ?_⟩
  · rw [show registersAt intelBoard.content controller.address = _ from registers]
  · rw [show routingWrites intelBoard controller.address 1 = _ from routing,
      show connectorWrites intelBoard.content intelInventory controller.address = _ from connectors]
    rfl

end KernelStart.Boot
