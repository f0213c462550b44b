import KernelStart.Boot.Rehearsal
import KernelStart.Proofs.BootStages
import KernelStart.Proofs.RegisterAccess

/-!
# Starting a controller wherever its registers are said to be

The place of a controller's registers is read from the controller, so it can be any word.  It
goes through three partial operations before anything is known of it: it must be a physical
address, the same number must be a virtual address, and register addresses are sums.  The
first two are defined exactly for windows that end at `lowerHalfEnd` at the latest, where the
lower half of virtual memory ends (`mapDevice_returns`, `run_mapDevice_beyond`); the sums are
all defined below that.

So starting a prepared controller degrades in the way that is asked of it (`Degrades`) if and
only if its window ends there at the latest (`startController_degrades_iff`).  A window that
lies further up costs not the controller but the whole run: its base address register need only
present a high word (`startController_highWindow`).
-/

set_option autoImplicit false

namespace KernelStart

open Program

/-! ## Mapping device registers -/

namespace Memory

/-- The end of the lower half of virtual memory. -/
def lowerHalfEnd : Nat := 1 <<< 47

/-- A page of physical memory has a virtual address of the same number in the lower half only. -/
theorem isCanonical_frameAddress {page : Nat} (physical : page * pageSize < physicalLimit) :
    isCanonical (frameAddress page) = true ↔ page * pageSize < lowerHalfEnd := by
  have upperHalf : physicalLimit ≤ UInt64.size - 1 <<< 47 := by decide
  rw [isCanonical, decide_eq_true_iff, toNat_frameAddress physical, lowerHalfEnd]
  omega

theorem checkPhysical_of_lt {address : Nat} (physical : address < physicalLimit) :
    checkPhysical address = .done () :=
  if_neg (Nat.not_le.2 physical)

theorem checkPhysical_of_le {address : Nat} (tooWide : physicalLimit ≤ address) :
    checkPhysical address = .panic .physicalAddressTooWide :=
  if_pos tooWide

/-- The last page of a window. -/
def lastPage (start size : UInt64) : Nat := pageOf (start.toNat + size.toNat - 1)

section

variable {start size : UInt64}

theorem toNat_pos (nonempty : size ≠ 0) : 0 < size.toNat :=
  Nat.pos_of_ne_zero fun none => nonempty (UInt64.toNat_inj.1 none)

theorem firstPage_le_lastPage (nonempty : size ≠ 0) : pageOf start.toNat ≤ lastPage start size := by
  have positive := toNat_pos nonempty
  exact Nat.div_le_div_right (by omega)

/-- A window of physical memory is mapped page by page. -/
theorem mapDevice_eq (nonempty : size ≠ 0) (physical : start.toNat + size.toNat ≤ physicalLimit) :
    mapDevice start size =
      mapDevicePages (pageOf start.toNat) (lastPage start size + 1 - pageOf start.toNat) := by
  have belowSize : physicalLimit < UInt64.size := by decide
  have positive := toNat_pos nonempty
  rw [mapDevice, if_neg nonempty, checkPhysical_of_lt (by omega), if_neg (by omega)]
  dsimp only
  rw [checkPhysical_of_lt (by omega)]
  rfl

end

/-! ### Windows in the lower half -/

theorem mapDevicePage_returns {page : Nat} (low : page * pageSize < lowerHalfEnd) :
    (mapDevicePage page).Returns := by
  have physical : page * pageSize < physicalLimit := Nat.lt_trans low (by decide)
  have canonical := (isCanonical_frameAddress physical).2 low
  rw [mapDevicePage, if_neg (by simp [canonical])]
  refine .bind (.request _) fun answer => ?_
  cases answer with
  | ok _ => exact .bind (.request _) fun _ => .done _
  | error error => cases error <;> exact .done _

/-- Pages are mapped one after the other, and one that fails ends it with its error. -/
theorem mapDevicePages_returns {first count : Nat}
    (low : ∀ page, page < first + count → page * pageSize < lowerHalfEnd) :
    (mapDevicePages first count).Returns := by
  induction count generalizing first with
  | zero => exact .done _
  | succ count ih =>
    refine .bind (mapDevicePage_returns (low first (by omega))) fun result => ?_
    cases result with
    | error _ => exact .done _
    | ok _ => exact ih fun page inside => low page (by omega)

/-- A window that ends in the lower half is mapped, or an error is returned. -/
theorem mapDevice_returns {start size : UInt64}
    (low : start.toNat + size.toNat ≤ lowerHalfEnd) : (mapDevice start size).Returns := by
  by_cases empty : size = 0
  · rw [mapDevice, if_pos empty]
    exact .done _
  rw [mapDevice_eq empty (Nat.le_trans low (by decide))]
  refine mapDevicePages_returns fun page inside => ?_
  have positive := toNat_pos empty
  have ordered : pageOf start.toNat ≤ lastPage start size := firstPage_le_lastPage empty
  have inWindow : page ≤ lastPage start size := by omega
  calc page * pageSize ≤ start.toNat + size.toNat - 1 :=
        (Nat.le_div_iff_mul_le (by decide)).1 inWindow
    _ < lowerHalfEnd := by omega

/-! ### Windows that reach further -/

/-- Every page is mapped at once. -/
def obliging : Environment Mapper Unit
  | .mapPage _ _ _, _ => (.ok (.ok ()), ())
  | .allocateFrame, _ => (.ok none, ())
  | .flush _, _ => (.ok (), ())
  | .startHeap _ _, _ => (.ok (), ())

theorem run_mapDevicePage_low {page : Nat} (low : isCanonical (frameAddress page) = true) :
    (mapDevicePage page).run obliging () = (.ok (.ok ()), ()) := by
  rw [mapDevicePage, if_neg (by simp [low])]
  rfl

theorem run_mapDevicePage_high {page : Nat} (high : isCanonical (frameAddress page) ≠ true) :
    (mapDevicePage page).run obliging () = (.error (.panic .virtualAddressNotCanonical), ()) := by
  rw [mapDevicePage, if_pos (by simp [high])]
  rfl

/-- One page without a virtual address is enough, however many before it are mapped. -/
theorem run_mapDevicePages_high {first count page : Nat} (behind : first ≤ page)
    (inside : page < first + count) (high : isCanonical (frameAddress page) ≠ true) :
    (mapDevicePages first count).run obliging () =
      (.error (.panic .virtualAddressNotCanonical), ()) := by
  induction count generalizing first with
  | zero => omega
  | succ count ih =>
    rw [mapDevicePages, bind_eq, run_bind]
    by_cases low : isCanonical (frameAddress first) = true
    · have other : first ≠ page := fun same => high (same ▸ low)
      rw [run_mapDevicePage_low low]
      exact ih (by omega) (by omega)
    · rw [run_mapDevicePage_high low]

/-- The last page of a window that ends behind the lower half has no virtual address. -/
theorem lastPage_high {start size : UInt64} (beyond : lowerHalfEnd < start.toNat + size.toNat)
    (physical : start.toNat + size.toNat ≤ physicalLimit) :
    isCanonical (frameAddress (lastPage start size)) ≠ true := by
  have cut : lastPage start size * pageSize ≤ start.toNat + size.toNat - 1 :=
    Nat.div_mul_le_self _ pageSize
  have high : lowerHalfEnd ≤ lastPage start size * pageSize :=
    calc lowerHalfEnd = lowerHalfEnd / pageSize * pageSize := by decide
      _ ≤ _ := Nat.mul_le_mul_right _ (Nat.div_le_div_right (by omega))
  rw [Ne, isCanonical_frameAddress (by omega)]
  exact Nat.not_lt.2 high

/-- A window that ends behind the lower half panics, if only because all else goes well. -/
theorem run_mapDevice_beyond {start size : UInt64} (nonempty : size ≠ 0)
    (beyond : lowerHalfEnd < start.toNat + size.toNat) :
    ∃ cause, (mapDevice start size).run obliging () = (.error (.panic cause), ()) := by
  by_cases physical : start.toNat + size.toNat ≤ physicalLimit
  · have ordered : pageOf start.toNat ≤ lastPage start size := firstPage_le_lastPage nonempty
    rw [mapDevice_eq nonempty physical]
    exact ⟨_, run_mapDevicePages_high ordered (by omega) (lastPage_high beyond physical)⟩
  rw [mapDevice, if_neg nonempty]
  by_cases startTooWide : physicalLimit ≤ start.toNat
  · exact ⟨_, by rw [checkPhysical_of_le startTooWide]; rfl⟩
  rw [checkPhysical_of_lt (Nat.lt_of_not_le startTooWide)]
  by_cases overflow : UInt64.size ≤ start.toNat + size.toNat
  · exact ⟨_, by rw [if_pos overflow]; rfl⟩
  · refine ⟨.physicalAddressTooWide, ?_⟩
    rw [if_neg overflow]
    dsimp only
    rw [checkPhysical_of_le (by omega)]
    rfl

end Memory

/-! ## Locating the registers -/

namespace Usb.Controller

/-- The registers of the controller have addresses. -/
structure IsAddressable (controller : Controller) : Prop where
  operational : controller.operational.toNat < 1 <<< 48
  runtime : controller.runtime.toNat < 1 <<< 48

theorem lt_size_of_near {base offset : UInt64} (low : base.toNat < 1 <<< 48)
    (near : offset.toNat < 1 <<< 32) : base.toNat + offset.toNat < UInt64.size := by
  have fits : (1 <<< 48) + (1 <<< 32) < UInt64.size := by decide
  omega

theorem placed_isAddressable {base : UInt64} (low : base.toNat < Memory.lowerHalfEnd)
    (length runtimeOffset : UInt32) : (placed base length runtimeOffset).IsAddressable := by
  have below : Memory.lowerHalfEnd + (1 <<< 32) ≤ 1 <<< 48 := by decide
  have sum_lt (word : UInt32) : (base + word.toUInt64).toNat < 1 <<< 48 := by
    have near : word.toUInt64.toNat < 1 <<< 32 := word.toNat_lt
    rw [UInt64.toNat_add, Nat.mod_eq_of_lt (lt_size_of_near (by omega) near)]
    omega
  exact ⟨sum_lt _, sum_lt _⟩

/-- Wherever the controller says that its registers lie, they have addresses. -/
theorem locate_concludes {base : UInt64} (low : base.toNat < Memory.lowerHalfEnd) :
    (locate base).Concludes (fun _ => True) fun _ controller => controller.IsAddressable := by
  have room : Memory.lowerHalfEnd + (1 <<< 32) ≤ UInt64.size := by decide
  rw [locate_eq (by omega)]
  exact ⟨trivial, fun _ => ⟨trivial, fun _ => placed_isAddressable low _ _⟩⟩

theorem IsAddressable.hasRegisters {controller : Controller}
    (addressable : controller.IsAddressable) : controller.HasRegisters where
  status := lt_size_of_near addressable.operational (by decide)
  interrupter := lt_size_of_near addressable.runtime (by decide)

end Usb.Controller

/-! ## Starting a prepared controller -/

namespace Boot

/-- A controller that is left out was reported in the log. -/
def ReportsAbsence (made : List (LoggedRequest Kernel)) (outcome : Option Usb.Controller) : Prop :=
  outcome = none → ∃ text, LoggedRequest.log ⟨.error, text⟩ ∈ made

/-- Looking for a controller gives one, or an entry in the log that says why there is none. -/
structure Degrades (program : Program (Logged Kernel) (Option Usb.Controller)) : Prop where
  /-- This is so on every machine that maps pages, or says why it does not, and has registers. -/
  comesToValue : ∀ {σ : Type} (environment : Environment (Logged Kernel) σ),
    environment.Serves Stage.controller.AllowsLogged → ∀ state, ∃ outcome reached,
      program.run environment state = (.ok outcome, reached) ∧
        ReportsAbsence (program.requests environment state) outcome
  /-- Even a machine that ends the run at some access does not see a panic. -/
  neverPanics : ∀ {σ : Type} (environment : Environment (Logged Kernel) σ),
    environment.NeverPanics → ∀ state cause,
      (program.run environment state).1 ≠ .error (.panic cause)

theorem Degrades.of_concludes {program : Program (Logged Kernel) (Option Usb.Controller)}
    (concludes : program.Concludes Stage.controller.AllowsLogged ReportsAbsence) :
    Degrades program where
  comesToValue _ serves := concludes.run_ok serves
  neverPanics _ quiet := concludes.not_panic quiet

/-- A controller is given up with an entry in the log. -/
theorem leaveOut_concludes (text : String) (made : List (LoggedRequest Kernel)) :
    ((Program.log .error text).bind fun _ => .done none).Concludes
      Stage.controller.AllowsLogged fun later => ReportsAbsence (made ++ later) :=
  ⟨trivial, fun _ _ => ⟨text, List.mem_append_right made List.mem_cons_self⟩⟩

theorem mapper_concludes {α : Type} {program : Program Memory.Mapper α}
    (returns : program.Returns) :
    (Kernel.mapper program).Concludes Stage.controller.AllowsLogged fun _ _ => True := by
  refine Returns.interpret (fun request => ?_) returns
  exact ⟨trivial, fun _ => trivial⟩

theorem mmio_concludes {α : Type} {program : Program Mmio α} {good : α → Prop}
    (concludes : program.Concludes (fun _ => True) fun _ => good) :
    (Kernel.mmio program).Concludes Stage.controller.AllowsLogged fun _ => good := by
  refine Concludes.interpret (fun request _ => ?_) concludes
  exact ⟨trivial, fun _ => trivial⟩

theorem startLocated_concludes {controller : Usb.Controller}
    (addressable : controller.IsAddressable) (made : List (LoggedRequest Kernel)) :
    (startLocated controller).Concludes Stage.controller.AllowsLogged
      fun later => ReportsAbsence (made ++ later) := by
  refine (mmio_concludes addressable.hasRegisters.reset_returns).bind fun before reset _ => ?_
  simp only [← List.append_assoc]
  cases reset with
  | error _ => exact leaveOut_concludes _ _
  | ok _ =>
    refine ⟨trivial, fun _ => ?_⟩
    refine (mmio_concludes addressable.hasRegisters.start_returns).bind fun _ started _ => ?_
    cases started with
    | error _ => exact ⟨trivial, fun _ none => nomatch none⟩
    | ok _ => exact fun none => nomatch none

theorem startController_concludes {prepared : Prepared}
    (low : prepared.registers.toNat + Settings.standard.controllerWindow.toNat ≤
      Memory.lowerHalfEnd) :
    (startController prepared).Concludes Stage.controller.AllowsLogged ReportsAbsence := by
  have window : 0 < Settings.standard.controllerWindow.toNat := by decide
  refine (mapper_concludes (Memory.mapDevice_returns low)).bind fun before mapped _ => ?_
  cases mapped with
  | error _ => exact leaveOut_concludes _ _
  | ok _ =>
    refine (mmio_concludes (Usb.Controller.locate_concludes (by omega))).bind
      fun located controller addressable => ?_
    simp only [← List.append_assoc]
    exact startLocated_concludes addressable _

/-- A machine that maps every page and sleeps at everything else. -/
def obligingMachine : Environment (Logged Kernel) Unit
  | .log _, _ => (.ok (), ())
  | .plain (.mapper request), _ => Memory.obliging request ()
  | .plain _, _ => (.error .asleep, ())

theorem obligingMachine_neverPanics : obligingMachine.NeverPanics := by
  intro request _ cause
  cases request with
  | log _ => exact fun ended => nomatch ended
  | plain request =>
    cases request with
    | mapper request => cases request <;> exact fun ended => nomatch ended
    | _ => exact fun ended => nomatch ended

theorem run_mapper_obligingMachine {α : Type} (program : Program Memory.Mapper α) :
    (Kernel.mapper program).run obligingMachine () = program.run Memory.obliging () := by
  have same : through (fun request => Kernel.ask (.mapper request)) obligingMachine =
      Memory.obliging := by
    funext request state
    exact run_request obligingMachine (.plain (.mapper request)) state
  rw [Kernel.mapper, run_interpret, same]

/-- **Starting a controller degrades exactly below the end of the lower half.**  Whatever the
machine answers, a prepared controller is started, or it is left out with an entry in the log,
if its window lies in the lower half of virtual memory; and if it does not, a machine that does all
it is asked for makes the start panic. -/
theorem startController_degrades_iff (prepared : Prepared) :
    Degrades (startController prepared) ↔
      prepared.registers.toNat + Settings.standard.controllerWindow.toNat ≤
        Memory.lowerHalfEnd := by
  refine ⟨fun degrades => ?_, fun low => .of_concludes (startController_concludes low)⟩
  refine Nat.le_of_not_lt fun beyond => ?_
  obtain ⟨cause, panics⟩ := Memory.run_mapDevice_beyond
    (by decide : Settings.standard.controllerWindow ≠ 0) beyond
  refine degrades.neverPanics obligingMachine obligingMachine_neverPanics () cause ?_
  rw [startController, bind_eq, run_bind, run_mapper_obligingMachine, panics]

/-- A host bridge, and a controller whose registers are said to lie where the lower half of
virtual memory ends. -/
def highWindow : Pci.RegisterFile :=
  .ofList
    [ ⟨⟨0, 0, 0⟩, 0x8086, 0x29c0, ⟨0x06, 0x00, 0x00⟩, 0x00, []⟩,
      ⟨⟨0, 3, 0⟩, 0x1b36, 0x000d, ⟨0x0c, 0x03, 0x30⟩, 0x00, [(0x10, 0x4), (0x14, 0x8000)]⟩ ]

/-- The rehearsal of the preparation came to a prepared controller. -/
theorem Rehearsed.outcome_eq {rehearsed : Rehearsed} {prepared : Prepared}
    (found : rehearsed.outcome.toOption.bind Except.toOption = some prepared) :
    rehearsed.outcome = .ok (.ok prepared) := by
  rcases ended : rehearsed.outcome with stop | kind | other
  · rw [ended] at found
    cases found
  · rw [ended] at found
    cases found
  · rw [ended] at found
    cases found
    rfl

/-- Such a controller is found and prepared, and the first thing that starting it does is to
panic. -/
theorem startController_highWindow :
    let prepared : Prepared := ⟨⟨⟨0, 3, 0⟩, 0x00, ⟨0x0c, 0x03, 0x30⟩⟩, 0x800000000000⟩
    (rehearse .info (surveyed highWindow).1 0 highWindow).outcome = .ok (.ok prepared) ∧
      startController prepared = .panic .virtualAddressNotCanonical ∧
      ¬Degrades (startController prepared) :=
  ⟨Rehearsed.outcome_eq (by decide +kernel), rfl, fun degrades =>
    degrades.neverPanics obligingMachine obligingMachine_neverPanics () _ rfl⟩

end Boot

end KernelStart
