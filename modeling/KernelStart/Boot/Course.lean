import KernelStart.Boot.Sequence
import KernelStart.Program.Requests

/-!
# Courses of start-up

A course is a beginning of start-up and the main loop as the processor sees it: what was asked,
and what was answered.  The answers are arbitrary.  They stand for every memory map and every
content of the page tables, for all functions on the buses, and for registers that read as
they like.  Only the interrupt flag is kept to: it is clear when the course begins, it
changes with the requests that change it, and a question for it is answered truthfully.

`Course.InOrder` says what happens in which order.  The parts of start-up that it refers to are
given as programs of their own, together with what is left after the interrupts are enabled.

An interrupt is not part of a course.  While the flag is clear there is none, a routine that
an interrupt enters returns with the flag as it found it, and it has no access to I/O ports,
to the tables, or to the consuming end of the main queue.
-/

set_option autoImplicit false

namespace KernelStart

open Descriptor

/-! ## Kinds of requests -/

namespace KernelRequest

/-- Sets the interrupt flag. -/
def enables : KernelRequest → Bool
  | context (.console .unmask) => true
  | enableAndHalt => true
  | _ => false

/-- Accesses an I/O port; the serial line has a request of its own. -/
def isPort : KernelRequest → Bool
  | bytePort _ => true
  | widePort _ => true
  | _ => false

/-- Reads or writes the register of configuration space that is selected. -/
def isDataAccess : KernelRequest → Bool
  | widePort (.input number) => number == Pci.dataPort
  | widePort (.output number _) => number == Pci.dataPort
  | _ => false

/-- Writes a register of configuration space. -/
def isConfigWrite : KernelRequest → Bool
  | widePort (.output number _) => number == Pci.dataPort
  | _ => false

/-- Writes a memory-mapped register. -/
def isRegisterWrite : KernelRequest → Bool
  | context (.mmio (.write _ _)) => true
  | _ => false

end KernelRequest

namespace Boot

/-! ## The interrupt flag and the vector table along a conversation -/

/-- The interrupt flag behind an exchange. -/
def flagBehind (flag : Bool) (exchange : Exchange Kernel) : Bool :=
  match exchange.request with
  | .context (.console .mask) => false
  | request => flag || request.enables

/-- The interrupt flag behind a conversation. -/
def flagAfter (flag : Bool) (conversation : Conversation Kernel) : Bool :=
  conversation.foldl flagBehind flag

/-- The exchange gives away no other state of the interrupt flag than this. -/
def Tells (flag : Bool) : Exchange Kernel → Prop
  | ⟨.context (.console .interruptsEnabled), answer⟩ => answer = flag
  | _ => True

/-- The interrupt flag is told as it is. -/
def Truthful : Bool → Conversation Kernel → Prop
  | _, [] => True
  | flag, exchange :: rest => Tells flag exchange ∧ Truthful (flagBehind flag exchange) rest

/-- The installed vector table behind an exchange. -/
def vectorsBehind (table : VectorTable) (exchange : Exchange Kernel) : VectorTable :=
  match exchange.request with
  | .arm => table.install .controller
  | _ => table

/-- The installed vector table behind a conversation that begins with start-up. -/
def vectorsAfter (conversation : Conversation Kernel) : VectorTable :=
  conversation.foldl vectorsBehind .atBoot

/-- The last output to a port was this value. -/
def LastOutput (number : UInt16) (value : UInt8) (conversation : Conversation Kernel) : Prop :=
  ∃ early late, conversation = early ++ ⟨.bytePort (.output number value), ()⟩ :: late ∧
    ∀ exchange ∈ late, ∀ other, exchange.request ≠ .bytePort (.output number other)


/-! ## Programs with their log on the serial line -/

/-- A program with its log on the serial line, at the threshold of the settings. -/
def onSerial {α : Type} (program : Program (Logged Kernel) α) : Program Kernel α :=
  Kernel.withLog Settings.standard.threshold program

/-- The conversation is one in which the program comes to the value. -/
def Finishes {α : Type} (program : Program (Logged Kernel) α)
    (conversation : Conversation Kernel) (value : α) : Prop :=
  Program.Reaches (onSerial program) conversation (.done value)

/-! ## Configuration space behind the I/O ports -/

/-- The selection of the register that an access to configuration space is about. -/
def selection : Pci.ConfigRequest → Exchange Kernel
  | .read register | .write register _ =>
    ⟨.widePort (.output Pci.selectPort (register.address.selectorWord register.offset)), ()⟩

/-- The access to the selected register. -/
def dataAccess : Pci.ConfigRequest → KernelRequest
  | .read _ => .widePort (.input Pci.dataPort)
  | .write _ value => .widePort (.output Pci.dataPort value)

/-- The request accesses a selected register, and behind this beginning of a conversation of the
program the right one is selected: the program was about to make the access to configuration
space that the request belongs to, and the last exchange is the selection for it. -/
def IsSelected {α : Type} (program : Program Kernel α) (early : Conversation Kernel)
    (request : KernelRequest) : Prop :=
  ∃ before access next, early = before ++ [selection access] ∧ request = dataAccess access ∧
    Program.Reaches program before ((onSerial (Kernel.configAccess access)).bind next)

/-- In the conversation of the program, registers of configuration space are selected immediately
before they are accessed. -/
def Selects {α : Type} (program : Program Kernel α) (conversation : Conversation Kernel) : Prop :=
  ∀ early exchange late, conversation = early ++ exchange :: late →
    exchange.request.isDataAccess = true → IsSelected program early exchange.request

/-! ## Parts of start-up -/

/-- Up to the result of mapping the heap. -/
def heapMapping : Program (Logged Kernel) (Except Memory.MapError Unit) := do
  takeOver
  Kernel.mapper Memory.mapHeap

/-- Up to the result of mapping the registers of the local interrupt controller. -/
def apicMapping : Program (Logged Kernel) (Except Memory.MapError Unit) := do
  let _ ← heapMapping
  Kernel.mapper (Memory.mapDevice LocalApic.base LocalApic.size)

/-- Up to the result of creating the main queue. -/
def queueCreation : Program (Logged Kernel) (Except Failure Unit) := do
  let _ ← apicMapping
  let _ ← enableApic
  Kernel.ask (.createQueue Settings.standard.queueCapacity)

/-- Up to the main queue; the identity of the local interrupt controller is known then. -/
def untilQueue : Program (Logged Kernel) UInt8 := do
  takeOver
  mapMemory
  let apicId ← enableApic
  createQueue
  return apicId

/-- Up to the inventory of the buses. -/
def untilInventory : Program (Logged Kernel) (UInt8 × Pci.Inventory) := do
  let apicId ← untilQueue
  let inventory ← Kernel.configRead takeInventory
  return (apicId, inventory)

/-- Prepares the controller of an inventory and starts it. -/
def prepareAndStart (found : UInt8 × Pci.Inventory) :
    Program (Logged Kernel) (Option Usb.Controller) := do
  match ← Kernel.setup (prepare found.2 found.1) with
  | .error kind =>
    Program.log .warn s!"no usable xHC: {kind.name}"
    return none
  | .ok prepared => startController prepared

/-- Up to the point at which interrupts are enabled. -/
def untilEnabled : Program (Logged Kernel) (Option Usb.Controller) := do
  prepareAndStart (← untilInventory)

/-- Configures the root ports of the controller, if there is one. -/
def configurePorts : Option Usb.Controller → Program (Logged Kernel) Unit
  | none => pure ()
  | some controller => onController controller Usb.RootHub.configureConnected

/-- What follows the enabling of interrupts: the root ports are configured, and the main loop
runs. -/
def afterEnabled (controller : Option Usb.Controller) (turns : Nat) :
    Program (Logged Kernel) Unit := do
  Program.log .info "interrupts enabled"
  configurePorts controller
  loop controller turns

/-! ## What is ready when interrupts are enabled -/

/-- The tables are loaded, the legacy interrupt controllers silent, the local one is on, and there
is a main queue. -/
structure IsReady (conversation : Conversation Kernel) : Prop where
  segmentTable : ⟨.loadSegmentTable SegmentTable.installed.lastByte, ()⟩ ∈ conversation
  vectorTable : ⟨.loadVectorTable VectorTable.lastByte, ()⟩ ∈ conversation
  firstMasked : LastOutput LegacyPic.firstData 0xff conversation
  secondMasked : LastOutput LegacyPic.secondData 0xff conversation
  apicOn : ∃ value,
    ⟨.context (.mmio (.write (LocalApic.base + LocalApic.spuriousVectorOffset) value)), ()⟩ ∈
        conversation ∧
      value &&& LocalApic.softwareEnable = LocalApic.softwareEnable
  queue : ⟨.createQueue Settings.standard.queueCapacity, .ok ()⟩ ∈ conversation

/-- The inventory holds a USB 3 controller. -/
def HasController (inventory : Pci.Inventory) : Prop :=
  ∃ device ∈ inventory.devices, device.classCode.isXhci = true

/-! ## Courses -/

/-- A beginning of start-up and the main loop, from a processor with the interrupt flag clear. -/
structure Course (turns : Nat) where
  conversation : Conversation Kernel
  /-- How it goes on. -/
  rest : Program Kernel Unit
  reached : Program.Reaches (bootOnSerial turns) conversation rest
  truthful : Truthful false conversation

/-- What a course does in which order. -/
structure Course.InOrder {turns : Nat} (course : Course turns) : Prop where
  /-- The flag stays clear until it is set by the request that enables interrupts. -/
  masked : ∀ early late, course.conversation = early ++ late →
    (∀ exchange ∈ early, exchange.request ≠ .context (.console .unmask)) →
      flagAfter false early = false
  /-- The first such request is made when the controller was dealt with; everything is ready then,
  the root ports and the main loop follow, and no I/O port is accessed any more. -/
  enabled : ∀ early late,
    course.conversation = early ++ ⟨.context (.console .unmask), ()⟩ :: late →
    (∀ exchange ∈ early, exchange.request ≠ .context (.console .unmask)) →
      IsReady early ∧
      (∃ controller, Finishes untilEnabled early controller ∧
        Program.Reaches (onSerial (afterEnabled controller turns)) late course.rest) ∧
      ∀ exchange ∈ late, exchange.request.isPort = false
  /-- A register of configuration space is selected immediately before it is accessed. -/
  selected : Selects (bootOnSerial turns) course.conversation
  /-- The controller's vector is present only if there is a controller. -/
  present : (vectorsAfter course.conversation).isPresent Handler.controller.vector = true →
    ∃ early late found, course.conversation = early ++ late ∧
      Finishes untilInventory early found ∧ HasController found.2
  /-- The vector is present before configuration space is written. -/
  armed : ∀ early exchange late, course.conversation = early ++ exchange :: late →
    exchange.request.isConfigWrite = true →
      (vectorsAfter early).isPresent Handler.controller.vector = true
  /-- Behind the inventory, configuration space is written before the registers of the
  controller. -/
  routed : ∀ early late found, course.conversation = early ++ late →
    Finishes untilInventory early found →
      late.Pairwise fun first second =>
        first.request.isRegisterWrite = true → second.request.isConfigWrite = false
  /-- If the heap, the registers of the local interrupt controller or the main queue are missing,
  the flag is never set. -/
  fatal : ∀ early late, course.conversation = early ++ late →
    ((∃ error, Finishes heapMapping early (.error error)) ∨
      (∃ error, Finishes apicMapping early (.error error)) ∨
      ∃ kind, Finishes queueCreation early (.error kind)) →
        ∀ before after, course.conversation = before ++ after → flagAfter false before = false

end Boot

end KernelStart
