import KernelStart.Proofs.BootStages

/-!
# Start-up as a sequence

Start-up is put together with `bind`, and so are its conversations.  Up to the point at
which interrupts are enabled there is one long sequence (`untilEnabled_eq`); the request that
enables them and the main loop follow it (`bootOnSerial_eq`).

The log on the serial line respects sequencing (`onSerial_bind`), so a part that has finished
can be taken apart like the program it belongs to (`Finishes.of_bind`).
-/

set_option autoImplicit false

namespace KernelStart.Boot

open Descriptor Program

variable {α β : Type}

/-! ## Sequences on the serial line -/

theorem onSerial_bind (program : Program (Logged Kernel) α)
    (next : α → Program (Logged Kernel) β) :
    onSerial (program.bind next) = (onSerial program).bind fun value => onSerial (next value) :=
  interpret_bind ..

namespace Finishes

variable {program : Program (Logged Kernel) α} {next : α → Program (Logged Kernel) β}
  {conversation early late : Conversation Kernel} {value : α} {result : β}

theorem bind (first : Finishes program early value) (second : Finishes (next value) late result) :
    Finishes (program.bind next) (early ++ late) result := by
  rw [Finishes, onSerial_bind]
  exact Reaches.bind first second

/-- A finished sequence finished its first part before. -/
theorem of_bind (finishes : Finishes (program.bind next) conversation result) :
    ∃ early late value, conversation = early ++ late ∧ Finishes program early value ∧
      Finishes (next value) late result := by
  rw [Finishes, onSerial_bind] at finishes
  exact finishes.of_bind_done

theorem ask (request : KernelRequest) (answer : Kernel.Answer request) :
    Finishes (Kernel.ask request) [⟨request, answer⟩] answer :=
  Reaches.step (.refl _)

theorem of_ask {request : KernelRequest} {answer : Kernel.Answer request}
    (finishes : Finishes (Kernel.ask request) conversation answer) :
    conversation = [⟨request, answer⟩] :=
  Reaches.of_request_done finishes

/-- A program that came to a value in the beginning of a conversation comes to no other. -/
theorem unique {rest : Conversation Kernel} {result : α} (finishes : Finishes program early result)
    (came : ∃ front back, conversation = front ++ back ∧ Finishes program front value)
    (split : conversation ++ rest = early ++ late) : value = result := by
  obtain ⟨front, back, rfl, finished⟩ := came
  rw [List.append_assoc] at split
  exact (Reaches.done_unique finished finishes split).2

end Finishes

/-- After a fatal error there is no value. -/
theorem not_finishes_fatal (text : String) (conversation : Conversation Kernel) (value : α) :
    ¬ Finishes (fatal text) conversation value := by
  intro finishes
  obtain ⟨-, late, -, -, -, halted⟩ := Finishes.of_bind finishes
  rcases Reaches.of_ask halted with ⟨-, ended⟩ | ⟨never, -⟩
  · cases ended
  · cases never

/-! ## The sequence -/

theorem findAndStart_eq (apicId : UInt8) :
    findAndStart apicId = (Kernel.configRead takeInventory).bind fun inventory =>
      prepareAndStart (apicId, inventory) := rfl

/-- The steps up to the point at which interrupts are enabled, one after another. -/
theorem untilEnabled_eq :
    untilEnabled = takeOver.bind fun _ => mapMemory.bind fun _ => enableApic.bind fun apicId =>
      createQueue.bind fun _ => findAndStart apicId := by
  simp only [untilEnabled, untilInventory, untilQueue, bind_eq, pure_eq_done, Program.bind_assoc,
    Program.bind]
  rfl

/-- Start-up enables interrupts once it dealt with the controller; its root ports come after. -/
theorem startUp_eq :
    startUp = untilEnabled.bind fun controller => Kernel.unmask.bind fun _ =>
      (Program.log .info "interrupts enabled").bind fun _ =>
        (configurePorts controller).bind fun _ => .done controller := by
  simp only [startUp, untilEnabled_eq, bind_eq, pure_eq_done, Program.bind_assoc]
  -- Only behind the enabling of interrupts it matters whether there is a controller.
  iterate 4 refine congrArg _ (funext fun _ => ?_)
  refine congrArg _ (funext fun controller => ?_)
  cases controller with
  | none => rfl
  | some controller => rfl

theorem bootOnSerial_eq (turns : Nat) :
    bootOnSerial turns = (onSerial untilEnabled).bind fun controller =>
      (onSerial Kernel.unmask).bind fun _ => onSerial (afterEnabled controller turns) := by
  have sequence : boot turns = untilEnabled.bind fun controller => Kernel.unmask.bind fun _ =>
      afterEnabled controller turns := by
    rw [boot, bind_eq, startUp_eq]
    simp only [Program.bind_assoc, afterEnabled, bind_eq, Program.bind]
  change onSerial (boot turns) = _
  rw [sequence, onSerial_bind]
  simp only [onSerial_bind]

/-! ## The stages of the sequence -/

/-- The stages up to the inventory. -/
def scanStages : List Stage := [.tables, .memory, .apic, .queue, .walk]

theorem obeys_untilInventory : (onSerial untilInventory).Obeys (Tells false)
    (Stage.OneShows scanStages) fun _ => True := by
  simp only [untilInventory, untilQueue, bind_eq, pure_eq_done, Program.bind_assoc, Program.bind,
    onSerial_bind]
  refine Obeys.bind (obeys_oneShows (by decide) keeps_takeOver) fun _ _ => ?_
  refine Obeys.bind (obeys_oneShows (by decide) keeps_mapMemory) fun _ _ => ?_
  refine Obeys.bind (obeys_oneShows (by decide) keeps_enableApic) fun apicId _ => ?_
  refine Obeys.bind (obeys_oneShows (by decide) keeps_createQueue) fun _ _ => ?_
  exact Obeys.bind (obeys_oneShows (by decide) (keeps_walk _)) fun inventory _ => trivial

theorem obeys_prepareAndStart (found : UInt8 × Pci.Inventory) :
    (onSerial (prepareAndStart found)).Obeys (Tells false)
      (Stage.OneShows [.routing, .controller]) fun _ => True := by
  rw [prepareAndStart, bind_eq, onSerial_bind]
  refine Obeys.bind (obeys_oneShows (by decide) (keeps_setup _)) fun prepared _ => ?_
  refine obeys_oneShows (by decide : Stage.controller ∈ _) ?_
  cases prepared with
  | error kind => exact .bind (.log ..) fun _ => .done ..
  | ok prepared => exact keeps_startController prepared

theorem obeys_findAndStart (apicId : UInt8) :
    (onSerial (findAndStart apicId)).Obeys (Tells false)
      (Stage.OneShows [.walk, .routing, .controller]) fun _ => True := by
  rw [findAndStart_eq, onSerial_bind]
  refine Obeys.bind (obeys_oneShows (by decide) (keeps_walk _)) fun inventory _ => ?_
  exact (obeys_prepareAndStart (apicId, inventory)).mono (fun _ => .mono (by decide)) fun _ => id

/-- The stages in which interrupts are masked. -/
def maskedStages : List Stage := [.tables, .memory, .apic, .queue, .walk, .routing, .controller]

theorem obeys_untilEnabled : (onSerial untilEnabled).Obeys (Tells false)
    (Stage.OneShows maskedStages) fun _ => True := by
  rw [untilEnabled, bind_eq, onSerial_bind]
  refine Obeys.bind (obeys_untilInventory.mono (fun _ => .mono (by decide)) fun _ => id)
    fun found _ => ?_
  exact (obeys_prepareAndStart found).mono (fun _ => .mono (by decide)) fun _ => id

theorem not_enables_of_masked {request : KernelRequest}
    (shows : Stage.OneShows maskedStages request) : request.enables = false := by
  refine Bool.eq_false_iff.2 fun enables => ?_
  have runs := shows.mem fun _ shows => Stage.running_of_enables shows enables
  exact absurd runs (by decide)

/-! ## Splitting lists -/

/-- An entry of a list of two parts is in the first part or in the second. -/
theorem split_append {front back early late : Conversation Kernel} {exchange : Exchange Kernel}
    (split : front ++ back = early ++ exchange :: late) :
    (∃ more, front = early ++ exchange :: more) ∨
      ∃ middle, early = front ++ middle ∧ back = middle ++ exchange :: late := by
  rcases List.append_eq_append_iff.1 split with ⟨middle, rfl, rest⟩ | ⟨middle, rfl, rest⟩
  · exact .inr ⟨middle, rfl, rest⟩
  · cases middle with
    | nil => exact .inr ⟨[], by rw [List.append_nil, List.append_nil], rest.symm⟩
    | cons first more =>
      obtain ⟨rfl, -⟩ := List.cons.inj rest
      exact .inl ⟨more, rfl⟩

/-- An entry that is not in the first part is in the second. -/
theorem split_append_of_not_mem {front back early late : Conversation Kernel}
    {exchange : Exchange Kernel} (outside : exchange ∉ front)
    (split : front ++ back = early ++ exchange :: late) :
    ∃ middle, early = front ++ middle ∧ back = middle ++ exchange :: late := by
  rcases split_append split with ⟨more, rfl⟩ | inside
  · exact absurd (List.mem_append_right _ List.mem_cons_self) outside
  · exact inside

end KernelStart.Boot
