import KernelStart.Proofs.BootSequence

/-!
# Registers of configuration space are selected before they are accessed

Two I/O ports lead to all of configuration space, so an access goes to whatever was selected
last.  That this is what the access was meant for cannot be seen from the ports.  It is a
property of the program: when it accessed the selected register, it was about to make the access
to configuration space that this belongs to (`IsSelected`).

A single access has the property (`AlwaysSelects.configAccess`), programs without such accesses
have it, and it passes through sequences and changes of signature, so all of start-up has it
(`alwaysSelects_boot`).
-/

set_option autoImplicit false

namespace KernelStart.Boot

open Descriptor Program

variable {α β : Type}

namespace IsSelected

variable {program : Program Kernel α} {next : α → Program Kernel β} {request : KernelRequest}
  {front early : Conversation Kernel} {value : α}

theorem of_first (selected : IsSelected program early request) :
    IsSelected (program.bind next) early request := by
  obtain ⟨before, access, goesOn, rfl, about, reaches⟩ := selected
  have onward := reaches.of_first next
  rw [Program.bind_assoc] at onward
  exact ⟨before, access, _, rfl, about, onward⟩

theorem of_second (first : Reaches program front (.done value))
    (selected : IsSelected (next value) early request) :
    IsSelected (program.bind next) (front ++ early) request := by
  obtain ⟨before, access, goesOn, rfl, about, reaches⟩ := selected
  exact ⟨front ++ before, access, goesOn, (List.append_assoc ..).symm, about, first.bind reaches⟩

end IsSelected

/-- Every conversation of the program selects registers before it accesses them. -/
def AlwaysSelects (program : Program Kernel α) : Prop :=
  ∀ conversation rest, Reaches program conversation rest → Selects program conversation

namespace AlwaysSelects

/-- A program that does not access the selected register. -/
theorem of_asks {program : Program Kernel α}
    (asks : program.Asks fun request => KernelRequest.isDataAccess request = false) :
    AlwaysSelects program := by
  rintro conversation rest reaches early exchange late rfl accesses
  rw [asks.of_reaches reaches exchange (List.mem_append_right _ List.mem_cons_self)] at accesses
  cases accesses

theorem done (value : α) : AlwaysSelects (.done value) := of_asks trivial

theorem bind {program : Program Kernel α} {next : α → Program Kernel β}
    (first : AlwaysSelects program) (second : ∀ value, AlwaysSelects (next value)) :
    AlwaysSelects (program.bind next) := by
  intro conversation rest reaches early exchange late split accesses
  obtain ⟨front, back, waiting, rfl, reached, onward⟩ := reaches.of_bind
  rcases split_append split with ⟨more, lies⟩ | ⟨middle, rfl, lies⟩
  · exact (first front waiting reached early exchange more lies accesses).of_first
  · rcases onward with ⟨rfl, -⟩ | ⟨value, rfl, goesOn⟩
    · cases middle <;> cases lies
    · exact (second value back rest goesOn middle exchange late lies accesses).of_second reached

theorem interpret {S : Signature}
    {meaning : (request : S.Request) → Program Kernel (S.Answer request)}
    (means : ∀ request, AlwaysSelects (meaning request)) (program : Program S α) :
    AlwaysSelects (program.interpret meaning) := by
  induction program with
  | done value => exact .done value
  | panic _ => exact of_asks trivial
  | ask request _ ih => exact .bind (means request) ih

/-- A program that keeps to a stage without such accesses. -/
theorem of_keeps {stage : Stage} {program : Program (Logged Kernel) α} (keeps : Keeps stage program)
    (notWalk : stage ≠ .walk) (notRouting : stage ≠ .routing) :
    AlwaysSelects (onSerial program) := by
  refine of_asks ((asks_onSerial keeps).mono fun request asked => ?_)
  rcases asked with allowed | ⟨written, rfl⟩
  · unfold KernelRequest.isDataAccess
    split
    · exact ((Stage.walk_or_routing_of_widePort (.inl allowed)).elim notWalk notRouting).elim
    · exact ((Stage.walk_or_routing_of_widePort (.inl allowed)).elim notWalk notRouting).elim
    · rfl
  · rfl

theorem log (level : Log.Level) (text : String) :
    AlwaysSelects (onSerial (Program.log level text)) :=
  of_keeps (.log .memory level text) (by decide) (by decide)

theorem interpretLogged {S : Signature}
    {meaning : (request : S.Request) → Program (Logged Kernel) (S.Answer request)}
    (means : ∀ request, AlwaysSelects (onSerial (meaning request)))
    (program : Program (Logged S) α) :
    AlwaysSelects (onSerial (program.interpretLogged meaning)) := by
  rw [onSerial, Kernel.withLog, Program.interpretLogged, interpret_interpret]
  refine .interpret (fun request => ?_) program
  cases request with
  | log entry => exact .log entry.level entry.text
  | plain request => exact means request

/-- A selection followed by the access that it is for. -/
theorem of_pair {access : Pci.ConfigRequest}
    {resume : Kernel.Answer (dataAccess access) → Pci.Config.Answer access}
    (pair : onSerial (Kernel.configAccess access) = .ask (selection access).request fun _ =>
      .ask (dataAccess access) fun answer => .done (resume answer)) :
    AlwaysSelects (onSerial (Kernel.configAccess access)) := by
  rintro conversation rest reaches early exchange late rfl accesses
  rw [pair] at reaches
  rcases reaches.of_ask with ⟨none, -⟩ | ⟨_, later, split, onward⟩
  · cases early <;> cases none
  rcases List.append_eq_cons_iff.1 split with ⟨rfl, first⟩ | ⟨early, rfl, rfl⟩
  · obtain ⟨rfl, -⟩ := List.cons.inj first
    cases access <;> cases accesses
  rcases onward.of_ask with ⟨none, -⟩ | ⟨answer, others, split, ended⟩
  · cases early <;> cases none
  obtain ⟨rfl, -⟩ := ended.of_done
  rcases List.append_eq_cons_iff.1 split with ⟨rfl, first⟩ | ⟨early, rfl, none⟩
  · obtain ⟨rfl, -⟩ := List.cons.inj first
    refine ⟨[], access, .done, ?_, rfl, ?_⟩
    · cases access <;> rfl
    · rw [bind_done]
      exact .refl _
  · cases early <;> cases none

/-- An access to configuration space selects its own register. -/
theorem configAccess (access : Pci.ConfigRequest) :
    AlwaysSelects (onSerial (Kernel.configAccess access)) := by
  cases access with
  | read register => exact of_pair rfl
  | write register value => exact of_pair rfl

theorem setup (program : Program (Logged Setup) α) :
    AlwaysSelects (onSerial (Kernel.setup program)) := by
  refine .interpretLogged (fun request => ?_) program
  cases request with
  | config access => exact .configAccess access
  | arm =>
    change AlwaysSelects (onSerial ((Kernel.ask .arm).bind fun _ => Program.log _ _))
    rw [onSerial_bind]
    exact .bind (.of_asks (Asks.request rfl)) fun _ => AlwaysSelects.log _ _

theorem configRead (program : Program (Logged Pci.ConfigRead) α) :
    AlwaysSelects (onSerial (Kernel.configRead program)) :=
  .interpretLogged (fun register => .configAccess (.read register)) program

theorem prepareAndStart (found : UInt8 × Pci.Inventory) :
    AlwaysSelects (onSerial (prepareAndStart found)) := by
  rw [Boot.prepareAndStart, bind_eq, onSerial_bind]
  refine .bind (.setup _) fun prepared => ?_
  cases prepared with
  | error kind =>
    exact .of_keeps (.bind (.log .controller _ _) fun _ => .done ..) (by decide) (by decide)
  | ok prepared => exact .of_keeps (keeps_startController prepared) (by decide) (by decide)

theorem findAndStart (apicId : UInt8) : AlwaysSelects (onSerial (findAndStart apicId)) := by
  rw [findAndStart_eq, onSerial_bind]
  exact .bind (.configRead takeInventory) fun inventory => .prepareAndStart (apicId, inventory)

end AlwaysSelects

/-- Start-up and the main loop select registers of configuration space before they access them. -/
theorem alwaysSelects_boot (turns : Nat) : AlwaysSelects (bootOnSerial turns) := by
  rw [bootOnSerial_eq, untilEnabled_eq]
  simp only [onSerial_bind]
  refine .bind ?_ fun controller => .bind (.of_asks (Asks.request rfl)) fun _ =>
    .of_keeps (keeps_afterEnabled controller turns) (by decide) (by decide)
  exact .bind (.of_keeps keeps_takeOver (by decide) (by decide)) fun _ =>
    .bind (.of_keeps keeps_mapMemory (by decide) (by decide)) fun _ =>
      .bind (.of_keeps keeps_enableApic (by decide) (by decide)) fun apicId =>
        .bind (.of_keeps keeps_createQueue (by decide) (by decide)) fun _ => .findAndStart apicId

end KernelStart.Boot
