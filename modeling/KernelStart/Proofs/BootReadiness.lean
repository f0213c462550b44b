import KernelStart.Proofs.BootSequence

/-!
# What is ready when interrupts are enabled

A conversation in which start-up comes to the enabling of interrupts falls into parts, one for
each step (`Preparations`).  No step was left out, because the fatal errors have no value that the
next step could go on with.  What each step did is read off its part.

That a mask is the last access to its port needs more: none of the later steps accesses a byte
port at all (`Preparations.not_bytePort`), and that is known from their stages.
-/

set_option autoImplicit false

namespace KernelStart.Boot

open Descriptor Program

variable {α β : Type}

/-! ## What finished steps have done -/

theorem finishes_mapMemory {conversation : Conversation Kernel}
    (finishes : Finishes mapMemory conversation ()) :
    ∃ heap apic, conversation = heap ++ apic ∧
      Finishes (Kernel.mapper Memory.mapHeap) heap (.ok ()) ∧
      Finishes (Kernel.mapper (Memory.mapDevice LocalApic.base LocalApic.size)) apic (.ok ()) := by
  obtain ⟨heap, rest, mapped, rfl, first, onward⟩ := Finishes.of_bind finishes
  cases mapped with
  | error error => exact absurd onward (not_finishes_fatal _ _ _)
  | ok _ =>
    obtain ⟨apic, last, mapped, rfl, second, ended⟩ := Finishes.of_bind onward
    cases mapped with
    | error error => exact absurd ended (not_finishes_fatal _ _ _)
    | ok _ =>
      obtain ⟨rfl, -⟩ := Reaches.of_done ended
      exact ⟨heap, apic, by rw [List.append_nil], first, second⟩

/-- The request for the main queue, granted. -/
def queueCreated : Exchange Kernel := ⟨.createQueue Settings.standard.queueCapacity, .ok ()⟩

theorem finishes_createQueue {conversation : Conversation Kernel}
    (finishes : Finishes createQueue conversation ()) : conversation = [queueCreated] := by
  obtain ⟨asked, rest, created, rfl, first, ended⟩ := Finishes.of_bind finishes
  cases created with
  | error kind => exact absurd ended (not_finishes_fatal _ _ _)
  | ok _ =>
    obtain ⟨rfl, -⟩ := Reaches.of_done ended
    rw [first.of_ask, List.append_nil]
    rfl

/-- The parts of a conversation in which start-up comes to the point at which it enables
interrupts. -/
structure Preparations (conversation : Conversation Kernel) where
  taken : Conversation Kernel
  heap : Conversation Kernel
  apic : Conversation Kernel
  on : Conversation Kernel
  others : Conversation Kernel
  apicId : UInt8
  controller : Option Usb.Controller
  whole : conversation = taken ++ (heap ++ (apic ++ (on ++ queueCreated :: others)))
  tables : Finishes takeOver taken ()
  heapMapped : Finishes (Kernel.mapper Memory.mapHeap) heap (.ok ())
  apicMapped :
    Finishes (Kernel.mapper (Memory.mapDevice LocalApic.base LocalApic.size)) apic (.ok ())
  apicOn : Finishes enableApic on apicId
  dealt : Finishes (findAndStart apicId) others controller

theorem nonempty_preparations {conversation : Conversation Kernel}
    {controller : Option Usb.Controller}
    (finishes : Finishes untilEnabled conversation controller) :
    Nonempty (Preparations conversation) := by
  rw [untilEnabled_eq] at finishes
  obtain ⟨taken, _, _, rfl, tables, finishes⟩ := finishes.of_bind
  obtain ⟨memory, _, _, rfl, mapped, finishes⟩ := finishes.of_bind
  obtain ⟨on, _, apicId, rfl, apicOn, finishes⟩ := finishes.of_bind
  obtain ⟨queue, others, _, rfl, created, dealt⟩ := finishes.of_bind
  obtain ⟨heap, apic, rfl, heapMapped, apicMapped⟩ := finishes_mapMemory mapped
  obtain rfl := finishes_createQueue created
  refine ⟨⟨taken, heap, apic, on, others, apicId, controller, ?_, tables, heapMapped, apicMapped,
    apicOn, dealt⟩⟩
  rw [List.append_assoc, List.singleton_append]

/-- Masks all lines of one of the legacy interrupt controllers. -/
def maskLines (port : UInt16) : Exchange Kernel := ⟨.bytePort (.output port 0xff), ()⟩

theorem finishes_disable {conversation : Conversation Kernel}
    (finishes : Finishes (Kernel.bytePorts LegacyPic.disable) conversation ()) :
    ∃ before, conversation =
      before ++ [maskLines LegacyPic.firstData, maskLines LegacyPic.secondData] := by
  rw [Kernel.bytePorts, LegacyPic.disable] at finishes
  simp only [bind_eq, interpret_bind] at finishes
  obtain ⟨firstRead, _, first, rfl, -, finishes⟩ := finishes.of_bind
  obtain ⟨secondRead, _, second, rfl, -, finishes⟩ := finishes.of_bind
  obtain ⟨moved, _, _, rfl, -, finishes⟩ := finishes.of_bind
  obtain ⟨restored, masks, _, rfl, -, masked⟩ := finishes.of_bind
  rw [LegacyPic.setMasks, bind_eq, interpret_bind] at masked
  obtain ⟨firstMask, secondMask, _, rfl, firstMasked, secondMasked⟩ := masked.of_bind
  obtain rfl : firstMask = [maskLines LegacyPic.firstData] := Finishes.of_ask firstMasked
  obtain rfl : secondMask = [maskLines LegacyPic.secondData] := Finishes.of_ask secondMasked
  refine ⟨firstRead ++ (secondRead ++ (moved ++ restored)), ?_⟩
  simp only [List.append_assoc, List.singleton_append]

/-- The tables are loaded, and behind the masks of the legacy interrupt controllers only a line is
logged. -/
theorem finishes_takeOver {conversation : Conversation Kernel}
    (finishes : Finishes takeOver conversation ()) :
    ⟨.loadSegmentTable SegmentTable.installed.lastByte, ()⟩ ∈ conversation ∧
      ⟨.loadVectorTable VectorTable.lastByte, ()⟩ ∈ conversation ∧
      ∃ before logged, conversation = before ++
          maskLines LegacyPic.firstData :: maskLines LegacyPic.secondData :: logged ∧
        Finishes (Program.log .info "descriptor tables loaded") logged () := by
  obtain ⟨segments, _, _, rfl, loaded, finishes⟩ := Finishes.of_bind finishes
  obtain ⟨vectors, _, _, rfl, loadedVectors, finishes⟩ := finishes.of_bind
  obtain ⟨ports, logged, _, rfl, silenced, logs⟩ := finishes.of_bind
  obtain ⟨table, registers, _, rfl, loadedTable, -⟩ := Finishes.of_bind loaded
  obtain ⟨before, rfl⟩ := finishes_disable silenced
  obtain rfl : table = [⟨.loadSegmentTable SegmentTable.installed.lastByte, ()⟩] :=
    loadedTable.of_ask
  obtain rfl : vectors = [⟨.loadVectorTable VectorTable.lastByte, ()⟩] :=
    Finishes.of_ask loadedVectors
  refine ⟨List.mem_append_left _ List.mem_cons_self,
    List.mem_append_right _ (List.mem_append_left _ List.mem_cons_self), ?_⟩
  refine ⟨⟨.loadSegmentTable SegmentTable.installed.lastByte, ()⟩ ::
    (registers ++ ⟨.loadVectorTable VectorTable.lastByte, ()⟩ :: before), logged, ?_, logs⟩
  simp only [List.append_assoc, List.cons_append, List.nil_append]

theorem finishes_enableApic {conversation : Conversation Kernel} {apicId : UInt8}
    (finishes : Finishes enableApic conversation apicId) :
    ∃ value,
      ⟨.context (.mmio (.write (LocalApic.base + LocalApic.spuriousVectorOffset) value)), ()⟩ ∈
          conversation ∧
        value &&& LocalApic.softwareEnable = LocalApic.softwareEnable := by
  obtain ⟨on, identity, _, rfl, turnedOn, -⟩ := Finishes.of_bind finishes
  rw [Kernel.mmio, LocalApic.enable, bind_eq, interpret_bind] at turnedOn
  obtain ⟨asked, written, value, rfl, -, writes⟩ := turnedOn.of_bind
  obtain rfl : written = [⟨.context (.mmio (.write
      (LocalApic.base + LocalApic.spuriousVectorOffset) (LocalApic.enabled value))), ()⟩] :=
    Finishes.of_ask writes
  refine ⟨LocalApic.enabled value, ?_, ?_⟩
  · exact List.mem_append_left _ (List.mem_append_right _ List.mem_cons_self)
  · exact LocalApic.enabled_and_softwareEnable value

namespace Preparations

variable {conversation : Conversation Kernel}

/-- Behind the loading of the tables, no byte port is accessed. -/
theorem not_bytePort (parts : Preparations conversation)
    (told : ∀ exchange ∈ conversation, Tells false exchange) :
    ∀ exchange ∈ parts.heap ++ (parts.apic ++ (parts.on ++ queueCreated :: parts.others)),
      ∀ access, exchange.request ≠ .bytePort access := by
  rw [parts.whole] at told
  simp only [List.forall_mem_append, List.forall_mem_cons] at told ⊢
  obtain ⟨-, heap, apic, on, -, others⟩ := told
  refine ⟨?_, ?_, ?_, nofun, ?_⟩
  · intro exchange made
    have shows := shows_of_reaches parts.heapMapped (.mapper .memory (fun _ => trivial) _) heap
    exact Stage.ne_bytePort (shows exchange made) nofun
  · intro exchange made
    have shows := shows_of_reaches parts.apicMapped (.mapper .memory (fun _ => trivial) _) apic
    exact Stage.ne_bytePort (shows exchange made) nofun
  · intro exchange made
    exact Stage.ne_bytePort (shows_of_reaches parts.apicOn keeps_enableApic on exchange made) nofun
  · intro exchange made
    have shows := ((obeys_findAndStart parts.apicId).of_reaches parts.dealt others).1 exchange made
    intro access isPort
    rw [isPort] at shows
    exact absurd (shows.mem fun _ => Stage.tables_of_bytePort) (by decide)

/-- The masks of the legacy interrupt controllers stay. -/
theorem lastOutputs (parts : Preparations conversation)
    (told : ∀ exchange ∈ conversation, Tells false exchange) :
    LastOutput LegacyPic.firstData 0xff conversation ∧
      LastOutput LegacyPic.secondData 0xff conversation := by
  obtain ⟨-, -, before, logged, taken, logs⟩ := finishes_takeOver parts.tables
  have notPort := parts.not_bytePort told
  have whole := parts.whole
  generalize parts.heap ++ (parts.apic ++ (parts.on ++ queueCreated :: parts.others)) = later
    at whole notPort
  rw [taken, List.append_assoc, List.cons_append, List.cons_append] at whole
  have toldLog : ∀ exchange ∈ logged, Tells false exchange := fun exchange made =>
    told exchange (by simp [whole, made])
  have quiet : ∀ exchange ∈ logged ++ later, ∀ access, exchange.request ≠ .bytePort access := by
    refine List.forall_mem_append.2 ⟨fun exchange made => ?_, notPort⟩
    exact Stage.ne_bytePort (shows_of_reaches logs (.log .memory _ _) toldLog exchange made) nofun
  constructor
  · refine ⟨before, maskLines LegacyPic.secondData :: (logged ++ later), whole, ?_⟩
    exact List.forall_mem_cons.2 ⟨nofun, fun exchange made other => quiet exchange made _⟩
  · refine ⟨before ++ [maskLines LegacyPic.firstData], logged ++ later, ?_, ?_⟩
    · exact whole.trans (List.append_cons ..)
    · exact fun exchange made other => quiet exchange made _

theorem isReady (parts : Preparations conversation)
    (told : ∀ exchange ∈ conversation, Tells false exchange) : IsReady conversation := by
  obtain ⟨segmentTable, vectorTable, -⟩ := finishes_takeOver parts.tables
  obtain ⟨value, written, isOn⟩ := finishes_enableApic parts.apicOn
  obtain ⟨firstMasked, secondMasked⟩ := parts.lastOutputs told
  have whole := parts.whole
  refine ⟨?_, ?_, firstMasked, secondMasked, ⟨value, ?_, isOn⟩, ?_⟩
  · rw [whole]
    exact List.mem_append_left _ segmentTable
  · rw [whole]
    exact List.mem_append_left _ vectorTable
  · rw [whole]
    simp [written]
  · rw [whole]
    simp [queueCreated]

theorem heapMapping_ok (parts : Preparations conversation) :
    ∃ early late, conversation = early ++ late ∧ Finishes heapMapping early (.ok ()) := by
  have whole := parts.whole
  rw [← List.append_assoc] at whole
  exact ⟨_, _, whole, parts.tables.bind parts.heapMapped⟩

theorem apicMapping_ok (parts : Preparations conversation) :
    ∃ early late, conversation = early ++ late ∧ Finishes apicMapping early (.ok ()) := by
  have whole := parts.whole
  rw [← List.append_assoc, ← List.append_assoc] at whole
  exact ⟨_, _, whole, (parts.tables.bind parts.heapMapped).bind parts.apicMapped⟩

theorem queueCreation_ok (parts : Preparations conversation) :
    ∃ early late, conversation = early ++ late ∧ Finishes queueCreation early (.ok ()) := by
  have whole := parts.whole
  rw [← List.append_assoc, ← List.append_assoc, List.append_cons, ← List.append_assoc] at whole
  have mapped : Finishes apicMapping (parts.taken ++ parts.heap ++ parts.apic) (.ok ()) :=
    (parts.tables.bind parts.heapMapped).bind parts.apicMapped
  have created : Finishes (enableApic.bind fun _ => Kernel.ask queueCreated.request)
      (parts.on ++ [queueCreated]) queueCreated.answer := parts.apicOn.bind (.ask ..)
  have finishes : Finishes queueCreation (parts.taken ++ parts.heap ++ parts.apic ++
      (parts.on ++ [queueCreated])) (.ok ()) := mapped.bind created
  exact ⟨_, _, whole, finishes⟩

end Preparations

end KernelStart.Boot
