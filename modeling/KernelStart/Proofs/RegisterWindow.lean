import KernelStart.Proofs.ControllerStart

/-!
# Registers outside the mapped window

Of a controller's registers as many bytes are mapped as the settings say, beginning with the
capability registers.  The driver adds to the same address what the capability registers tell it: a
byte, for the operational registers, and a word without its last bits, for the runtime
registers.  It compares neither with the window.

For the byte this does no harm.  It and the offset of the last root port that a byte can name
come to little, so the capability and the operational registers lie in the window whatever is
presented.  What is left is one register, the interrupter (`placed_confined`).  A word can lead
anywhere behind the address, and the driver stays in the window if and only if the word leaves room
for the interrupter in it (`driver_stays_iff`).  Otherwise the first look for an event goes
astray (`driver_leaves_window`).
-/

set_option autoImplicit false

namespace KernelStart

open Program

/-! ## Windows -/

namespace Mmio

/-- The four bytes of the register at an address lie in a window. -/
def InWindow (base size address : UInt64) : Prop :=
  base.toNat ≤ address.toNat ∧ address.toNat + 4 ≤ base.toNat + size.toNat

variable {inside : UInt64 → Prop} {base offset size : UInt64}

theorem inWindow_add (fits : base.toNat + offset.toNat < UInt64.size) :
    InWindow base size (base + offset) ↔ offset.toNat + 4 ≤ size.toNat := by
  rw [InWindow, UInt64.toNat_add, Nat.mod_eq_of_lt fits]
  omega

/-- A register without an address is not accessed. -/
theorem register_asks (base offset : UInt64) (allowed : MmioRequest → Prop) :
    (register base offset).Obeys (fun _ => True) allowed (· = base + offset) := by
  rw [register, addOffset?]
  split
  · rfl
  · trivial

theorem readAt_asks (lies : inside (base + offset)) : (readAt base offset).Asks (Within inside) :=
  (register_asks base offset _).bind fun _ isSum => isSum ▸ (read_concludes lies).asks

theorem writeAt_asks (lies : inside (base + offset)) (value : UInt32) :
    (writeAt base offset value).Asks (Within inside) :=
  (register_asks base offset _).bind fun _ isSum => isSum ▸ ⟨lies, fun _ _ => trivial⟩

end Mmio

namespace Usb.Controller

open Mmio

/-! ## What the driver accesses -/

/-- Whatever the driver does with a located controller, it accesses only registers of the given
kind. -/
structure Confined (inside : UInt64 → Prop) (controller : Controller) : Prop where
  reset : controller.reset.Asks (Within inside)
  start : controller.start.Asks (Within inside)
  serve : ∀ request, (controller.serve request).Asks (Within inside)

theorem Confined.mono {inside wider : UInt64 → Prop} {controller : Controller}
    (wide : ∀ address, inside address → wider address) (confined : controller.Confined inside) :
    controller.Confined wider where
  reset := confined.reset.mono fun _ => wide _
  start := confined.start.mono fun _ => wide _
  serve request := (confined.serve request).mono fun _ => wide _

/-- The registers that the driver knows are of the given kind. -/
structure LiesWithin (inside : UInt64 → Prop) (controller : Controller) : Prop
    extends StartsWithin inside controller where
  parameters : inside (controller.capability + structureOffset)
  rootPorts : ∀ number, number ≠ 0 → inside (controller.operational + rootPortOffset number)

variable {inside : UInt64 → Prop} {controller : Controller}

namespace LiesWithin

theorem rootPort_asks (lies : controller.LiesWithin inside) (number : UInt8) :
    (controller.rootPort number).Asks (Within inside) := by
  rw [rootPort]
  split
  · trivial
  next nonzero =>
    refine .bind (.bind (readAt_asks lies.parameters) fun _ => trivial) fun _ => ?_
    split
    · trivial
    · exact .bind (readAt_asks (lies.rootPorts number nonzero)) fun _ => trivial

theorem serve_asks (lies : controller.LiesWithin inside) (request : HostController.Request) :
    (controller.serve request).Asks (Within inside) := by
  cases request with
  | rootPortCount => exact .bind (readAt_asks lies.parameters) fun _ => trivial
  | rootPort number => exact lies.rootPort_asks number
  | configure _ => trivial
  | eventPending => exact .bind (readAt_asks lies.interrupter) fun _ => trivial
  | processEvent =>
    refine .bind (.bind (readAt_asks lies.interrupter) fun _ => ?_) fun _ => trivial
    exact .bind (writeAt_asks lies.interrupter _) fun _ => writeAt_asks lies.status _

theorem confined (lies : controller.LiesWithin inside) (registers : controller.HasRegisters) :
    controller.Confined inside where
  reset := (HasRegisters.reset_concludes lies.toStartsWithin registers).asks
  start := (HasRegisters.start_concludes lies.toStartsWithin registers).asks
  serve := lies.serve_asks

end LiesWithin

/-! ## Where the registers lie -/

/-- How much is mapped of a controller. -/
abbrev mappedSize : UInt64 := Settings.standard.controllerWindow

theorem toNat_rootPortOffset {number : UInt8} (nonzero : number ≠ 0) :
    (rootPortOffset number).toNat = 0x400 + 0x10 * (number.toNat - 1) := by
  have positive : 1 ≤ number.toNat :=
    Nat.pos_of_ne_zero fun none => nonzero (UInt8.toNat_inj.1 none)
  have bound := number.toNat_lt
  have before : (number.toUInt64 - 1).toNat = number.toNat - 1 :=
    UInt64.toNat_sub_of_le _ _ (UInt64.le_iff_toNat_le.2 positive)
  rw [rootPortOffset, UInt64.toNat_add, UInt64.toNat_mul, before]
  simp only [rootPortsOffset, rootPortStride, UInt64.reduceToNat]
  omega

section

variable {base : UInt64} (low : base.toNat < Memory.lowerHalfEnd) (length runtimeOffset : UInt32)
include low

theorem capability_inWindow {offset : UInt64} (near : offset.toNat ≤ 0x4000) :
    InWindow base mappedSize (base + offset) := by
  have below : Memory.lowerHalfEnd + 0x4000 < UInt64.size := by decide
  exact (inWindow_add (by omega)).2 (Nat.le_trans (Nat.add_le_add_right near 4) (by decide))

theorem operational_inWindow {offset : UInt64} (near : offset.toNat ≤ 0x2000) :
    InWindow base mappedSize ((placed base length runtimeOffset).operational + offset) := by
  have byte : (length &&& 0xff).toUInt64.toNat ≤ 0xff := by
    rw [UInt32.toNat_toUInt64, UInt32.toNat_and]
    exact Nat.and_le_right
  rw [placed, UInt64.add_assoc]
  refine capability_inWindow low ?_
  rw [UInt64.toNat_add]
  omega

theorem interrupter_inWindow_iff :
    InWindow base mappedSize (placed base length runtimeOffset).interrupterRegister ↔
      (runtimeOffset &&& ~~~(0x1f : UInt32)).toNat + interrupterOffset.toNat + 4 ≤
        mappedSize.toNat := by
  have far : (runtimeOffset &&& ~~~(0x1f : UInt32)).toNat < 1 <<< 32 := UInt32.toNat_lt _
  have below : Memory.lowerHalfEnd + (1 <<< 32) + 0x20 < UInt64.size := by decide
  have sum : ((runtimeOffset &&& ~~~(0x1f : UInt32)).toUInt64 + interrupterOffset).toNat =
      (runtimeOffset &&& ~~~(0x1f : UInt32)).toNat + interrupterOffset.toNat := by
    rw [UInt64.toNat_add, UInt32.toNat_toUInt64]
    exact Nat.mod_eq_of_lt (by simp only [interrupterOffset, UInt64.reduceToNat]; omega)
  rw [interrupterRegister, placed, UInt64.add_assoc, inWindow_add, sum]
  rw [sum]
  simp only [interrupterOffset, UInt64.reduceToNat]
  omega

/-- Wherever the controller says that its registers lie, the driver accesses nothing outside the
window but the interrupter. -/
theorem placed_confined :
    let controller := placed base length runtimeOffset
    controller.Confined fun address =>
      InWindow base mappedSize address ∨ address = controller.interrupterRegister := by
  have operational {offset : UInt64} (near : offset.toNat ≤ 0x2000) :=
    operational_inWindow low length runtimeOffset near
  refine LiesWithin.confined ?_ (placed_isAddressable low length runtimeOffset).hasRegisters
  refine
    { parameters := .inl (capability_inWindow low (by decide))
      command := .inl (operational (by decide))
      status := .inl (operational (by decide))
      rootPorts := fun number nonzero => .inl (operational ?_)
      interrupter := .inr rfl }
  have bound := number.toNat_lt
  rw [toNat_rootPortOffset nonzero]
  omega

/-- Looking for an event goes wherever the interrupter is said to lie. -/
theorem interrupter_of_confined {inside : UInt64 → Prop}
    (confined : (placed base length runtimeOffset).Confined inside) :
    inside (placed base length runtimeOffset).interrupterRegister := by
  have registers := (placed_isAddressable low length runtimeOffset).hasRegisters
  have looks : (placed base length runtimeOffset).eventPending.Asks (Within inside) :=
    confined.serve .eventPending
  rw [eventPending, interrupter, Mmio.readAt_eq registers.interrupter] at looks
  exact looks.1

theorem placed_confined_iff :
    (placed base length runtimeOffset).Confined (InWindow base mappedSize) ↔
      (runtimeOffset &&& ~~~(0x1f : UInt32)).toNat + interrupterOffset.toNat + 4 ≤
        mappedSize.toNat := by
  rw [← interrupter_inWindow_iff low length runtimeOffset]
  refine ⟨interrupter_of_confined low length runtimeOffset, fun inWindow => ?_⟩
  refine (placed_confined low length runtimeOffset).mono fun address => ?_
  rintro (lies | rfl)
  · exact lies
  · exact inWindow

end

/-! ## The driver in its window -/

/-- An answer that is in keeping with these words in the capability registers. -/
def Presents (base : UInt64) (length runtimeOffset : UInt32) (exchange : Exchange Mmio) : Prop :=
  ∀ word, (exchange = readOf (base + lengthOffset) word → word = length) ∧
    (exchange = readOf (base + runtimeOffsetOffset) word → word = runtimeOffset)

/-- If the capability registers hold these words, the driver accesses only registers of the given
kind: while it locates the controller, and then whatever it does with the controller it came to. -/
def DriverStays (inside : UInt64 → Prop) (base : UInt64) (length runtimeOffset : UInt32) : Prop :=
  (locate base).Obeys (Presents base length runtimeOffset) (Within inside) (Confined inside)

section

variable {base : UInt64} (low : base.toNat < Memory.lowerHalfEnd) (length runtimeOffset : UInt32)
include low

theorem driverStays_iff (inside : UInt64 → Prop) :
    DriverStays inside base length runtimeOffset ↔
      inside (base + lengthOffset) ∧ inside (base + runtimeOffsetOffset) ∧
        (placed base length runtimeOffset).Confined inside := by
  have room : Memory.lowerHalfEnd + (1 <<< 32) ≤ UInt64.size := by decide
  have apart : base + lengthOffset ≠ base + runtimeOffsetOffset := fun same =>
    absurd (UInt64.add_right_inj base |>.1 same) (by decide)
  rw [DriverStays, locate_eq (by omega)]
  constructor
  · rintro ⟨atLength, onward⟩
    obtain ⟨atRuntimeOffset, last⟩ := onward length fun _ =>
      ⟨fun same => (readOf_inj same).2, fun same => absurd (readOf_inj same).1 apart⟩
    exact ⟨atLength, atRuntimeOffset, last runtimeOffset fun _ =>
      ⟨fun same => absurd (readOf_inj same).1.symm apart, fun same => (readOf_inj same).2⟩⟩
  · rintro ⟨atLength, atRuntimeOffset, confined⟩
    refine ⟨atLength, fun word presents => ⟨atRuntimeOffset, fun other presentsOther => ?_⟩⟩
    obtain rfl := (presents word).1 rfl
    obtain rfl := (presentsOther other).2 rfl
    exact confined

/-- **The interrupter decides whether the driver stays in its window.**  Whatever the capability
registers hold, the driver accesses nothing but the window that is mapped and the interrupter;
so it stays in the window exactly when the interrupter lies there. -/
theorem driver_stays_iff :
    DriverStays
        (fun address => InWindow base mappedSize address ∨
          address = (placed base length runtimeOffset).interrupterRegister)
        base length runtimeOffset ∧
      (DriverStays (InWindow base mappedSize) base length runtimeOffset ↔
        (runtimeOffset &&& ~~~(0x1f : UInt32)).toNat + interrupterOffset.toNat + 4 ≤
          mappedSize.toNat) := by
  have atLength : InWindow base mappedSize (base + lengthOffset) :=
    capability_inWindow low (by decide)
  have atRuntimeOffset : InWindow base mappedSize (base + runtimeOffsetOffset) :=
    capability_inWindow low (by decide)
  rw [driverStays_iff low, driverStays_iff low, placed_confined_iff low]
  exact ⟨⟨.inl atLength, .inl atRuntimeOffset, placed_confined low length runtimeOffset⟩,
    fun stays => stays.2.2, fun fits => ⟨atLength, atRuntimeOffset, fits⟩⟩

end

theorem driver_stays_iff_usual :
    (0xfebf0000 : UInt64).toNat < Memory.lowerHalfEnd ∧
      DriverStays (InWindow 0xfebf0000 mappedSize) 0xfebf0000 0x20 0x1000 := by
  have low : (0xfebf0000 : UInt64).toNat < Memory.lowerHalfEnd := by decide
  exact ⟨low, (driver_stays_iff low 0x20 0x1000).2.2 (by decide)⟩

/-- A controller whose runtime registers are said to lie right behind the window. -/
def behindWindow : Machine.Bus :=
  .start (.start 0xfebf0000 [(0x00, 0x20), (0x18, 0x10000)] [] [] none) []

/-- The first look for an event is a read that no device answers. -/
theorem driver_leaves_window :
    (0xfebf0000 : UInt64).toNat + mappedSize.toNat < Memory.lowerHalfEnd ∧
      ¬DriverStays (InWindow 0xfebf0000 mappedSize) 0xfebf0000 0x20 0x10000 ∧
      (((locate 0xfebf0000).bind eventPending).run Machine.Bus.environment
        behindWindow).2.strayReads = 1 := by
  have low : (0xfebf0000 : UInt64).toNat < Memory.lowerHalfEnd := by decide
  refine ⟨by decide, ?_, by decide +kernel⟩
  rw [driverStays_iff low, placed_confined_iff low]
  exact fun stays => absurd stays.2.2 (by decide)

end Usb.Controller

end KernelStart
