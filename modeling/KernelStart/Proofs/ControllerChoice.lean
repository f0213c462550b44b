import KernelStart.Boot.Controller
import KernelStart.Proofs.BusAnnouncements
import KernelStart.Proofs.BusWalkReads

/-!
# Which controller is chosen

The search goes through an inventory once, carries the first USB 3 controller along, and stops
at the first one of the preferred vendor.  Said without the search, the choice is made among the
controllers of the inventory (`controllers`): the first preferred one, or else the first
(`choice`); and to make it, the vendors up to the first preferred one have to be known, or all of
them (`consulted`).  An induction over the inventory shows that the search comes to that choice
with exactly these reads (`chooseController_yields`).

After a walk over the buses that recorded all it met, an inventory holds the visible functions as
they read (`devices_of_finished`).  So no visible controller is missed, and a preferred one is
not shadowed by one that was met before it (`findController_chooses`).
-/

set_option autoImplicit false

namespace KernelStart.Boot

open Pci

/-! ## The choice -/

/-- The class of USB 3 host controllers. -/
def xhciClass : ClassCode := ⟨0x0c, 0x03, 0x30⟩

theorem isXhci_iff (code : ClassCode) : code.isXhci = true ↔ code = xhciClass := by
  obtain ⟨base, sub, interface⟩ := code
  simp [ClassCode.isXhci, ClassCode.isExactly, ClassCode.hasSub, ClassCode.hasBase, xhciClass,
    and_assoc]

/-- The USB 3 host controllers among devices, in order. -/
def controllers (devices : List Device) : List Device :=
  devices.filter fun device => device.classCode = xhciClass

/-- Whether a device is of the preferred vendor. -/
def isPreferred (space : ConfigSpace) (device : Device) : Bool :=
  space.vendor device.address == intelVendor

/-- The first controller of the preferred vendor, or else the first controller. -/
def choice (space : ConfigSpace) (devices : List Device) : Option Device :=
  ((controllers devices).find? (isPreferred space)).or (controllers devices).head?

/-- The controllers up to and with the first one of the preferred vendor; all if there is none. -/
def consulted (space : ConfigSpace) (devices : List Device) : List Device :=
  (controllers devices).takeWhile (fun device => !isPreferred space device) ++
    ((controllers devices).find? (isPreferred space)).toList

section Lists

variable {space : ConfigSpace} {device : Device} {rest : List Device}

theorem controllers_cons_of_eq (isController : device.classCode = xhciClass) :
    controllers (device :: rest) = device :: controllers rest :=
  List.filter_cons_of_pos (decide_eq_true isController)

theorem controllers_cons_of_ne (other : device.classCode ≠ xhciClass) :
    controllers (device :: rest) = controllers rest :=
  List.filter_cons_of_neg (by simp [other])

theorem mem_controllers {devices : List Device} :
    device ∈ controllers devices ↔ device ∈ devices ∧ device.classCode = xhciClass := by
  rw [controllers, List.mem_filter, decide_eq_true_iff]

/-- There is a choice unless there is no controller. -/
theorem choice_eq_none_iff {devices : List Device} :
    choice space devices = none ↔ ∀ device ∈ devices, device.classCode ≠ xhciClass := by
  rw [choice, Option.or_eq_none_iff, List.head?_eq_none_iff, List.find?_eq_none]
  constructor
  · rintro ⟨-, none⟩ device listed isController
    have isListed := mem_controllers.2 ⟨listed, isController⟩
    rw [none] at isListed
    cases isListed
  · intro others
    have none : controllers devices = [] :=
      List.filter_eq_nil_iff.2 fun device listed => by simp [others device listed]
    rw [none]
    exact ⟨nofun, rfl⟩

/-- What is chosen is one of the controllers. -/
theorem mem_controllers_of_choice {devices : List Device}
    (chosen : choice space devices = some device) :
    device ∈ controllers devices := by
  rcases Option.or_eq_some_iff.1 chosen with found | ⟨-, first⟩
  · exact List.mem_of_find?_eq_some found
  · exact List.mem_of_mem_head? first

/-- If another vendor's controller is chosen, no controller is of the preferred vendor. -/
theorem not_isPreferred_of_choice {devices : List Device}
    (chosen : choice space devices = some device) (other : isPreferred space device = false) :
    ∀ candidate ∈ controllers devices, isPreferred space candidate = false := by
  rcases Option.or_eq_some_iff.1 chosen with found | ⟨none, -⟩
  · have preferred := List.find?_some found
    exact absurd (preferred.symm.trans other) (by decide)
  · intro candidate listed
    exact Bool.eq_false_iff.2 (List.find?_eq_none.1 none candidate listed)

end Lists

/-! ## The search -/

/-- The register that names the vendor of a device. -/
def vendorRegister (device : Device) : ConfigRegister := ⟨device.address, vendorOffset⟩

/-- The search comes to the first preferred controller, else to the fallback, else to the first
controller, and it reads the vendors of the controllers that it has to consult. -/
theorem chooseController_yields (space : ConfigSpace) (fallback : Option Device)
    (devices : List Device) :
    space.Yields (chooseController fallback devices) fun made chosen =>
      made = (consulted space devices).map vendorRegister ∧
        chosen = ((controllers devices).find? (isPreferred space)).or
          (fallback.or (controllers devices).head?) := by
  induction devices generalizing fallback with
  | nil => exact .done ⟨rfl, (Option.or_none).symm⟩
  | cons device rest ih =>
    rw [chooseController]
    by_cases isController : device.classCode = xhciClass
    · rw [if_pos ((isXhci_iff _).2 isController), consulted, controllers_cons_of_eq isController]
      refine (space.readVendor_yields device.address).bind ?_
      rintro made vendor ⟨rfl, rfl⟩
      by_cases preferred : space.vendor device.address = intelVendor
      · have isFirst : isPreferred space device = true := beq_iff_eq.2 preferred
        rw [if_pos preferred, List.find?_cons_of_pos isFirst,
          List.takeWhile_cons_of_neg (by simp [isFirst])]
        exact .done ⟨rfl, rfl⟩
      · have isOther : isPreferred space device = false := beq_eq_false_iff_ne.2 preferred
        rw [if_neg preferred, List.find?_cons_of_neg (by simp [isOther]),
          List.takeWhile_cons_of_pos (by simp [isOther])]
        refine (ih (fallback.or (some device))).mono ?_
        rintro later chosen ⟨rfl, rfl⟩
        refine ⟨rfl, ?_⟩
        rw [Option.or_assoc, Option.some_or, List.head?_cons]
    · rw [if_neg (mt (isXhci_iff _).1 isController), consulted,
        controllers_cons_of_ne isController]
      exact ih fallback

/-! ## After a walk over the buses -/

/-- A walk that finishes has recorded what the enumeration lists. -/
theorem devices_of_finished {space : ConfigSpace} {previous inventory : Inventory}
    (finished : space.value (enumerateInto previous) = .ok (.ok (), inventory)) :
    inventory.devices = space.enumeration := by
  obtain ⟨reached, walked, devices_eq⟩ := space.value_enumerateInto previous
  rw [finished, Except.ok.injEq, Prod.mk.injEq] at walked
  obtain ⟨result, rfl⟩ := walked
  by_cases fits : space.enumeration.length ≤ Inventory.capacity
  · rw [devices_eq, List.take_of_length_le fits]
  · rw [if_neg fits] at result
    cases result

/-- A controller is listed by the enumeration if it is visible and reads as one. -/
theorem mem_controllers_enumeration {space : ConfigSpace} {device : Device} :
    device ∈ controllers space.enumeration ↔
      space.IsVisible device.address ∧ space.classCode device.address = xhciClass ∧
        device = space.device device.address := by
  have asRead := (space.completes_listRoots space.rootBuses .empty).eq_device
  rw [mem_controllers, ← space.mem_enumeration]
  constructor
  · rintro ⟨listed, isController⟩
    have device_eq := asRead device listed
    refine ⟨List.mem_map_of_mem listed, ?_, device_eq⟩
    rw [device_eq] at isController
    exact isController
  · rintro ⟨visible, isController, device_eq⟩
    obtain ⟨recorded, listed, address_eq⟩ := List.mem_map.1 visible
    have recorded_eq : recorded = device := by
      rw [asRead recorded listed, address_eq, ← device_eq]
    rw [device_eq]
    exact ⟨device_eq ▸ recorded_eq ▸ listed, isController⟩

/-- **The preferred controller is found wherever it is, and any other only without it.**  On an
unchanging configuration space the search comes to the first controller of the inventory that
reads as one of the preferred vendor, or else to the first controller, and to none only if there
is none.  It writes nothing, and reads one vendor for each controller up to the one that ends it.
After a walk over the buses that recorded all it met, a controller is chosen as soon as one is
visible, and one of another vendor only if no visible one is of the preferred vendor. -/
theorem findController_chooses (space : ConfigSpace) (inventory : Inventory) :
    (readOnly (findController inventory)).run space.unchanging () =
        (.ok (choice space inventory.devices), ()) ∧
      (readOnly (findController inventory)).requests space.unchanging () =
        (consulted space inventory.devices).map (fun device => .read (vendorRegister device)) ∧
      (choice space inventory.devices = none ↔
        ∀ device ∈ inventory.devices, device.classCode ≠ xhciClass) ∧
      ∀ previous, space.value (enumerateInto previous) = .ok (.ok (), inventory) →
        ∀ address, space.IsVisible address → space.classCode address = xhciClass →
          ∃ device, choice space inventory.devices = some device ∧
            space.IsVisible device.address ∧ space.classCode device.address = xhciClass ∧
            (space.vendor device.address ≠ intelVendor →
              ∀ other, space.IsVisible other → space.classCode other = xhciClass →
                space.vendor other ≠ intelVendor) := by
  obtain ⟨chosen, came, made_eq, rfl⟩ :=
    chooseController_yields space none inventory.devices
  obtain ⟨ran, asked⟩ := space.run_readOnly_unchanging (findController inventory)
  have value_eq : space.value (findController inventory) =
      .ok (choice space inventory.devices) := came
  have reads_eq : space.reads (findController inventory) =
      (consulted space inventory.devices).map vendorRegister := made_eq
  refine ⟨?_, ?_, choice_eq_none_iff, fun previous finished address visible isController => ?_⟩
  · rw [ran, value_eq]
  · rw [asked, reads_eq, List.map_map]
    rfl
  · have listed (other : Address) (otherVisible : space.IsVisible other)
        (otherController : space.classCode other = xhciClass) :
        space.device other ∈ controllers inventory.devices := by
      rw [devices_of_finished finished]
      exact mem_controllers_enumeration.2 ⟨otherVisible, otherController, rfl⟩
    cases chosen : choice space inventory.devices with
    | none =>
      obtain ⟨isListed, isListedController⟩ :=
        mem_controllers.1 (listed address visible isController)
      exact absurd isListedController (choice_eq_none_iff.1 chosen _ isListed)
    | some device =>
      have isCandidate := mem_controllers_of_choice chosen
      rw [devices_of_finished finished] at isCandidate
      obtain ⟨deviceVisible, deviceController, -⟩ := mem_controllers_enumeration.1 isCandidate
      refine ⟨device, rfl, deviceVisible, deviceController, ?_⟩
      intro otherVendor other otherVisible otherController
      have none := not_isPreferred_of_choice chosen (beq_eq_false_iff_ne.2 otherVendor)
      exact beq_eq_false_iff_ne.1 (none _ (listed other otherVisible otherController))

/-- Two controllers of another vendor, one of the preferred vendor as the third function of a device
behind a bridge, one more of it after that, and one on bus 5, where nothing leads to. -/
def controllerBehindBridge : ConfigSpace :=
  (RegisterFile.ofList
    [ ⟨⟨0, 0, 0⟩, 0x8086, 1, ⟨0x06, 0x00, 0x00⟩, 0x00, []⟩,
      ⟨⟨0, 2, 0⟩, 0x1b36, 3, ⟨0x0c, 0x03, 0x30⟩, 0x00, []⟩,
      ⟨⟨0, 3, 0⟩, 0x1b36, 2, ⟨0x06, 0x04, 0x00⟩, 0x01, [(busNumbersOffset, 0x00000100)]⟩,
      ⟨⟨1, 0, 0⟩, 0x1b36, 3, ⟨0x0c, 0x03, 0x30⟩, 0x80, []⟩,
      ⟨⟨1, 0, 2⟩, 0x8086, 4, ⟨0x0c, 0x03, 0x30⟩, 0x00, []⟩,
      ⟨⟨1, 0, 5⟩, 0x8086, 5, ⟨0x0c, 0x03, 0x20⟩, 0x00, []⟩,
      ⟨⟨1, 7, 0⟩, 0x8086, 4, ⟨0x0c, 0x03, 0x30⟩, 0x00, []⟩,
      ⟨⟨5, 0, 0⟩, 0x8086, 4, ⟨0x0c, 0x03, 0x30⟩, 0x00, []⟩ ]).content

/-- It is the third of four visible controllers that is chosen, after three reads. -/
theorem findController_chooses_behindBridge :
    ∃ inventory, controllerBehindBridge.value (enumerateInto .empty) =
        .ok (.ok (), inventory) ∧
      (readOnly (findController inventory)).run controllerBehindBridge.unchanging () =
        (.ok (some ⟨⟨1, 0, 2⟩, 0x00, xhciClass⟩), ()) ∧
      (readOnly (findController inventory)).requests controllerBehindBridge.unchanging () =
        [.read ⟨⟨0, 2, 0⟩, vendorOffset⟩, .read ⟨⟨1, 0, 0⟩, vendorOffset⟩,
          .read ⟨⟨1, 0, 2⟩, vendorOffset⟩] ∧
      controllerBehindBridge.IsVisible ⟨1, 0, 2⟩ := by
  have fits : controllerBehindBridge.enumeration.length ≤ Inventory.capacity := by
    decide +kernel
  obtain ⟨inventory, walked, devices_eq⟩ := controllerBehindBridge.value_enumerateInto .empty
  rw [if_pos fits] at walked
  rw [List.take_of_length_le fits] at devices_eq
  obtain ⟨ran, asked, -, found⟩ := findController_chooses controllerBehindBridge inventory
  have chosen : choice controllerBehindBridge controllerBehindBridge.enumeration =
      some ⟨⟨1, 0, 2⟩, 0x00, xhciClass⟩ := by decide +kernel
  have consulted_eq :
      (consulted controllerBehindBridge controllerBehindBridge.enumeration).map vendorRegister =
        [⟨⟨0, 2, 0⟩, vendorOffset⟩, ⟨⟨1, 0, 0⟩, vendorOffset⟩, ⟨⟨1, 0, 2⟩, vendorOffset⟩] := by
    decide +kernel
  have visible : controllerBehindBridge.IsVisible ⟨1, 0, 2⟩ :=
    (controllerBehindBridge.mem_enumeration _).1 (by decide +kernel)
  rw [devices_eq] at ran asked found
  obtain ⟨device, chosen_eq, deviceVisible, -⟩ := found .empty walked _ visible (by decide +kernel)
  rw [chosen, Option.some.injEq] at chosen_eq
  subst chosen_eq
  rw [chosen] at ran
  rw [← Function.comp_def, ← List.map_map, consulted_eq] at asked
  exact ⟨inventory, walked, ran, asked, deviceVisible⟩

end KernelStart.Boot
