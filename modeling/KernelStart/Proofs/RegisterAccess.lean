import KernelStart.Device.RegisterDialogue
import KernelStart.Machine.State
import KernelStart.Program.Conclusion

/-!
# Registers that have addresses

The address of a register is a sum, and asking for one that leaves the 64-bit word is a panic.
Where the sum fits, an access is a single request: `readAt_eq` and `writeAt_eq` say which.

A controller has the registers that starting it takes (`HasRegisters`) if two sums fit, that of
its status register and that of its interrupter; the command register lies below the first.
Then everything that starting does is one of two things, reading a register or changing a register
to what a function makes of the word that was read (`Mmio.modify`).  So the reset and the start
come to a value, and on the way they access nothing but three registers
(`HasRegisters.reset_concludes`, `HasRegisters.start_concludes`).
-/

set_option autoImplicit false

namespace KernelStart

open Program

/-! ## Accessing registers -/

namespace Mmio

variable {base offset : UInt64}

theorem register_of_lt (fits : base.toNat + offset.toNat < UInt64.size) :
    register base offset = .done (base + offset) := by
  rw [register, addOffset?, if_pos fits]
  rfl

theorem readAt_eq (fits : base.toNat + offset.toNat < UInt64.size) :
    readAt base offset = read (base + offset) := by
  rw [readAt, register_of_lt fits]
  rfl

theorem writeAt_eq (fits : base.toNat + offset.toNat < UInt64.size) (value : UInt32) :
    writeAt base offset value = write (base + offset) value := by
  rw [writeAt, register_of_lt fits]
  rfl

/-- An access to a register of the given kind. -/
def Within (inside : UInt64 → Prop) (request : MmioRequest) : Prop :=
  inside (Machine.addressOf request)

section

variable {inside : UInt64 → Prop} {register : UInt64} (lies : inside register)
include lies

theorem read_concludes : (read register).Concludes (Within inside) fun _ _ => True :=
  ⟨lies, fun _ => trivial⟩

theorem modify_concludes (change : UInt32 → UInt32) :
    (modify register change).Concludes (Within inside) fun _ _ => True :=
  (read_concludes lies).bind fun _ _ _ => ⟨lies, fun _ => trivial⟩

end

end Mmio

/-! ## The registers of a controller -/

namespace Usb.Controller

def commandRegister (controller : Controller) : UInt64 := controller.operational + commandOffset

def statusRegister (controller : Controller) : UInt64 := controller.operational + statusOffset

def interrupterRegister (controller : Controller) : UInt64 :=
  controller.runtime + interrupterOffset

/-- The registers that starting the controller takes have addresses. -/
structure HasRegisters (controller : Controller) : Prop where
  status : controller.operational.toNat + statusOffset.toNat < UInt64.size
  interrupter : controller.runtime.toNat + interrupterOffset.toNat < UInt64.size

theorem statusRegister_ne_commandRegister (controller : Controller) :
    controller.statusRegister ≠ controller.commandRegister := fun same =>
  absurd (UInt64.add_right_inj controller.operational |>.1 same) (by decide)

/-- The controller whose capability registers at an address hold these words. -/
def placed (base : UInt64) (length runtimeOffset : UInt32) : Controller where
  capability := base
  operational := base + (length &&& 0xff).toUInt64
  runtime := base + (runtimeOffset &&& ~~~(0x1f : UInt32)).toUInt64

/-- Locating a controller reads two words, if there is room for what they may say. -/
theorem locate_eq {base : UInt64} (room : base.toNat + (1 <<< 32) ≤ UInt64.size) :
    locate base =
      (Mmio.read (base + lengthOffset)).bind fun length =>
        (Mmio.read (base + runtimeOffsetOffset)).bind fun runtimeOffset =>
          .done (placed base length runtimeOffset) := by
  have near (word : UInt32) : base.toNat + word.toUInt64.toNat < UInt64.size := by
    have bound : word.toUInt64.toNat < 1 <<< 32 := word.toNat_lt
    omega
  have first : base.toNat + lengthOffset.toNat < UInt64.size := near 0x00
  have second : base.toNat + runtimeOffsetOffset.toNat < UInt64.size := near 0x18
  rw [locate, Mmio.readAt_eq first, Mmio.readAt_eq second]
  simp only [Mmio.register_of_lt (near _)]
  rfl

/-- What is written to the interrupter: the pending bit as zero, and the enable bit. -/
def enabling (word : UInt32) : UInt32 := word &&& ~~~interruptPendingBit ||| interruptEnableBit

theorem command_lt (controller : Controller) :
    controller.operational.toNat + commandOffset.toNat < UInt64.size :=
  controller.operational.toNat_lt

theorem command_eq (controller : Controller) :
    controller.command = Mmio.read controller.commandRegister :=
  Mmio.readAt_eq (command_lt controller)

theorem raiseCommand_eq (controller : Controller) (bit : UInt32) :
    controller.raiseCommand bit = Mmio.modify controller.commandRegister (· ||| bit) := by
  rw [raiseCommand, command_eq]
  simp only [setCommand, Mmio.writeAt_eq (command_lt controller)]
  rfl

/-- The registers that starting the controller takes are of the given kind. -/
structure StartsWithin (inside : UInt64 → Prop) (controller : Controller) : Prop where
  command : inside controller.commandRegister
  status : inside controller.statusRegister
  interrupter : inside controller.interrupterRegister

theorem StartsWithin.anywhere (controller : Controller) :
    controller.StartsWithin fun _ => True :=
  ⟨trivial, trivial, trivial⟩

/-- Waiting for a bit comes to an end, at the latest with the last read. -/
theorem waitForClear_concludes {inside : UInt64 → Prop} {register : UInt64}
    (lies : inside register) (bit : UInt32) (limit : Nat) :
    (waitForClear (Mmio.read register) bit limit).Concludes (Mmio.Within inside)
      fun _ _ => True := by
  induction limit with
  | zero => trivial
  | succ limit ih =>
    refine (Mmio.read_concludes lies).bind fun _ word _ => ?_
    split
    · exact ih
    · trivial

namespace HasRegisters

variable {controller : Controller}

theorem status_eq (registers : controller.HasRegisters) :
    controller.status = Mmio.read controller.statusRegister :=
  Mmio.readAt_eq registers.status

/-- The interrupter is enabled by two changes, the second of them to the command register. -/
theorem enableInterrupter_eq (registers : controller.HasRegisters) :
    controller.enableInterrupter =
      (Mmio.modify controller.interrupterRegister enabling).bind fun _ =>
        Mmio.modify controller.commandRegister (· ||| interrupterEnableBit) := by
  rw [enableInterrupter, Controller.interrupter, Mmio.readAt_eq registers.interrupter]
  simp only [setInterrupter, Mmio.writeAt_eq registers.interrupter, raiseCommand_eq]
  rfl

section

variable {inside : UInt64 → Prop} (lies : controller.StartsWithin inside)
include lies

theorem enableInterrupter_concludes (registers : controller.HasRegisters) :
    controller.enableInterrupter.Concludes (Mmio.Within inside) fun _ _ => True := by
  rw [registers.enableInterrupter_eq]
  exact (Mmio.modify_concludes lies.interrupter _).bind fun _ _ _ =>
    Mmio.modify_concludes lies.command _

theorem reset_concludes (registers : controller.HasRegisters) :
    controller.reset.Concludes (Mmio.Within inside) fun _ _ => True := by
  rw [reset, registers.status_eq, command_eq, raiseCommand_eq]
  refine (Mmio.read_concludes lies.status).bind fun _ status _ => ?_
  split
  · trivial
  refine (Mmio.modify_concludes lies.command _).bind fun _ _ _ => ?_
  refine (waitForClear_concludes lies.command ..).bind fun _ cleared _ => ?_
  cases cleared with
  | error _ => trivial
  | ok _ =>
    refine (waitForClear_concludes lies.status ..).bind fun _ ready _ => ?_
    cases ready with
    | error _ => trivial
    | ok _ =>
      exact (enableInterrupter_concludes lies registers).bind fun _ _ _ => trivial

theorem start_concludes (registers : controller.HasRegisters) :
    controller.start.Concludes (Mmio.Within inside) fun _ _ => True := by
  rw [start, registers.status_eq, raiseCommand_eq]
  exact (Mmio.modify_concludes lies.command _).bind fun _ _ _ =>
    waitForClear_concludes lies.status ..

end

theorem reset_returns (registers : controller.HasRegisters) : controller.reset.Returns :=
  reset_concludes (.anywhere controller) registers

theorem start_returns (registers : controller.HasRegisters) : controller.start.Returns :=
  start_concludes (.anywhere controller) registers

end HasRegisters

end Usb.Controller

end KernelStart
