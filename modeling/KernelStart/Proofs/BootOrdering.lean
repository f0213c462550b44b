import KernelStart.Proofs.BootReadiness
import KernelStart.Proofs.ConfigSelection
import KernelStart.Proofs.RecordedCourses

/-!
# The order of start-up

A course of start-up falls into two halves (`Halves`): what happens with interrupts masked, and
what happens from the request on that enables them.  The first half falls into parts, along
the stages (`Parts`): everything up to the inventory, the search for a controller, its
routing, and its start.  Which requests a part can hold is known from its stage, and what
must have finished before a part begins is known from the way programs are put together.  The
order of a course (`Course.InOrder`) is read off the parts.
-/

set_option autoImplicit false

namespace KernelStart.Boot

open Descriptor Program

variable {α β : Type}

/-! ## The interrupt flag -/

theorem flagBehind_of_not_enables {exchange : Exchange Kernel}
    (quiet : KernelRequest.enables exchange.request = false) :
    flagBehind false exchange = false := by
  unfold flagBehind
  split
  · rfl
  · exact quiet

/-- The flag stays clear as long as nothing sets it. -/
theorem flagAfter_of_not_enables {conversation : Conversation Kernel}
    (quiet : ∀ exchange ∈ conversation, KernelRequest.enables exchange.request = false) :
    flagAfter false conversation = false := by
  induction conversation with
  | nil => rfl
  | cons exchange rest ih =>
    obtain ⟨first, later⟩ := List.forall_mem_cons.1 quiet
    rw [flagAfter, List.foldl_cons, flagBehind_of_not_enables first]
    exact ih later

theorem Truthful.left {flag : Bool} {early late : Conversation Kernel}
    (truthful : Truthful flag (early ++ late)) : Truthful flag early := by
  induction early generalizing flag with
  | nil => trivial
  | cons exchange rest ih => exact ⟨truthful.1, ih truthful.2⟩

/-- A program that leaves interrupts masked as long as it is told that they are is told so, if it
is told the truth. -/
theorem told_of_truthful {allowed : KernelRequest → Prop}
    (quiet : ∀ request, allowed request → request.enables = false) {program rest : Program Kernel α}
    (obeys : program.Obeys (Tells false) allowed fun _ => True) {conversation : Conversation Kernel}
    (reaches : Reaches program conversation rest) (truthful : Truthful false conversation) :
    ∀ exchange ∈ conversation, Tells false exchange := by
  induction reaches with
  | refl _ => exact List.forall_mem_nil _
  | @step request _ answer _ _ _ ih =>
    obtain ⟨tells, later⟩ := truthful
    have flag : flagBehind false ⟨request, answer⟩ = false :=
      flagBehind_of_not_enables (quiet request obeys.1)
    rw [flag] at later
    exact List.forall_mem_cons.2 ⟨tells, ih (obeys.2 answer tells) later⟩

/-! ## The two halves of a course -/

/-- The request that enables interrupts. -/
def enabling : Exchange Kernel := ⟨.context (.console .unmask), ()⟩

/-- What a course does with interrupts masked, and what it does from their enabling on. -/
structure Halves {turns : Nat} (course : Course turns) where
  masked : Conversation Kernel
  running : Conversation Kernel
  whole : course.conversation = masked ++ running
  reached : ∃ waiting, Reaches (onSerial untilEnabled) masked waiting
  told : ∀ exchange ∈ masked, Tells false exchange
  enabled : running = [] ∨ ∃ controller later, running = enabling :: later ∧
    Finishes untilEnabled masked controller ∧
      Reaches (onSerial (afterEnabled controller turns)) later course.rest

theorem Course.nonempty_halves {turns : Nat} (course : Course turns) :
    Nonempty (Halves course) := by
  have reached := course.reached
  rw [bootOnSerial_eq] at reached
  obtain ⟨masked, running, waiting, whole, first, second⟩ := reached.of_bind
  have truthful : Truthful false masked := by
    have := course.truthful
    rw [whole] at this
    exact this.left
  have told : ∀ exchange ∈ masked, Tells false exchange :=
    told_of_truthful (fun _ => not_enables_of_masked) obeys_untilEnabled first truthful
  refine ⟨⟨masked, running, whole, ⟨waiting, first⟩, told, ?_⟩⟩
  rcases second with ⟨rfl, -⟩ | ⟨controller, rfl, onward⟩
  · exact .inl rfl
  · rcases onward.of_ask with ⟨rfl, -⟩ | ⟨_, later, rfl, goesOn⟩
    · exact .inl rfl
    · exact .inr ⟨controller, later, rfl, first, goesOn⟩

namespace Halves

variable {turns : Nat} {course : Course turns}

theorem not_enables (halves : Halves course) :
    ∀ exchange ∈ halves.masked, KernelRequest.enables exchange.request = false := by
  intro exchange made
  obtain ⟨waiting, reached⟩ := halves.reached
  exact not_enables_of_masked ((obeys_untilEnabled.of_reaches reached halves.told).1 exchange made)

/-- Interrupts are not enabled by an exchange of the first half. -/
theorem enabling_not_mem (halves : Halves course) : enabling ∉ halves.masked :=
  fun made => nomatch halves.not_enables enabling made

/-- The second half keeps to its stage. -/
theorem running_allows (halves : Halves course) :
    ∀ exchange ∈ halves.running, Stage.running.Allows exchange.request := by
  rcases halves.enabled with none | ⟨controller, later, isRunning, -, goesOn⟩
  · rw [none]
    exact fun _ made => nomatch made
  · rw [isRunning]
    refine List.forall_mem_cons.2 ⟨trivial, fun exchange made => ?_⟩
    have asks := asks_onSerial (keeps_afterEnabled controller turns)
    rcases asks.of_reaches goesOn exchange made with allowed | ⟨written, isWritten⟩
    · exact allowed
    · rw [isWritten]
      trivial

/-- A beginning in which interrupts are not enabled lies in the first half. -/
theorem masked_of_not_mem (halves : Halves course) {early late : Conversation Kernel}
    (split : course.conversation = early ++ late) (none : enabling ∉ early) :
    ∃ more, halves.masked = early ++ more := by
  rcases List.append_eq_append_iff.1 (halves.whole.symm.trans split) with
    ⟨middle, rfl, rest⟩ | ⟨middle, whole, -⟩
  · rcases halves.enabled with nothing | ⟨-, later, isRunning, -⟩
    · rw [nothing] at rest
      obtain ⟨rfl, -⟩ := List.append_eq_nil_iff.1 rest.symm
      exact ⟨[], by simp⟩
    · cases middle with
      | nil => exact ⟨[], by simp⟩
      | cons first others =>
        rw [isRunning] at rest
        obtain ⟨rfl, -⟩ := List.cons.inj rest
        exact absurd (List.mem_append_right _ List.mem_cons_self) none
  · exact ⟨middle, whole⟩

end Halves

/-! ## The parts of the first half -/

/-- Whatever it is answered, the choice is the given one or a USB 3 controller of the list. -/
theorem chooseController_obeys (fallback : Option Pci.Device) (devices : List Pci.Device) :
    (chooseController fallback devices).Obeys (fun _ => True) (fun _ => True) fun chosen =>
      ∀ device, chosen = some device →
        fallback = some device ∨ device ∈ devices ∧ device.classCode.isXhci = true := by
  induction devices generalizing fallback with
  | nil => exact fun device chosen => .inl chosen
  | cons head rest ih =>
    rw [chooseController]
    split
    · next isXhci =>
      refine Obeys.bind (Asks.anything _) fun vendor _ => ?_
      split
      · intro device chosen
        cases chosen
        exact .inr ⟨List.mem_cons_self, isXhci⟩
      · refine (ih _).mono (fun _ => id) fun chosen good device isChosen => ?_
        rcases good device isChosen with kept | ⟨isOne, isController⟩
        · rcases Option.or_eq_some_iff.1 kept with given | ⟨-, own⟩
          · exact .inl given
          · cases own
            exact .inr ⟨List.mem_cons_self, isXhci⟩
        · exact .inr ⟨List.mem_cons_of_mem _ isOne, isController⟩
    · refine (ih fallback).mono (fun _ => id) fun chosen good device isChosen => ?_
      exact (good device isChosen).imp id fun found => ⟨List.mem_cons_of_mem _ found.1, found.2⟩

/-- The search for a controller comes to one of the inventory. -/
theorem finishes_search {inventory : Pci.Inventory} {conversation : Conversation Kernel}
    {device : Pci.Device}
    (finishes : Finishes (Kernel.setup (onConfig (Pci.readOnly (findController inventory))))
      conversation (some device)) :
    device ∈ inventory.devices ∧ device.classCode.isXhci = true := by
  have obeys := chooseController_obeys none inventory.devices
  have carried : (onSerial (Kernel.setup (onConfig (Pci.readOnly
      (findController inventory))))).Obeys (fun _ => True) (fun _ => True) fun chosen =>
        ∀ device, chosen = some device →
          none = some device ∨ device ∈ inventory.devices ∧ device.classCode.isXhci = true := by
    rw [onSerial, Kernel.withLog, Kernel.setup, Program.interpretLogged, onConfig, Pci.readOnly]
    simp only [interpret_interpret]
    refine Obeys.interpret (fun request _ => ?_) obeys
    exact Asks.anything _
  rcases (carried.of_reaches finishes fun _ _ => trivial).2 device rfl with none | found
  · cases none
  · exact found

/-- Makes the controller's vector present. -/
def arming : Exchange Kernel := ⟨.arm, ()⟩

theorem setup_bind (program : Program (Logged Setup) α) (next : α → Program (Logged Setup) β) :
    Kernel.setup (program.bind next) =
      (Kernel.setup program).bind fun value => Kernel.setup (next value) :=
  interpret_bind ..

/-- Preparing the controller is a search, followed by its routing if there is one; the first thing
there is the arming. -/
theorem parts_of_prepare {inventory : Pci.Inventory} {apicId : UInt8}
    {conversation : Conversation Kernel} {waiting : Program Kernel (Except Failure Prepared)}
    (reaches : Reaches (onSerial (Kernel.setup (prepare inventory apicId))) conversation waiting)
    (told : ∀ exchange ∈ conversation, Tells false exchange) :
    ∃ search routing, conversation = search ++ routing ∧
      (∀ exchange ∈ search, Stage.walk.Shows exchange.request) ∧
      (∀ exchange ∈ routing, Stage.routing.Shows exchange.request) ∧
      (routing = [] ∨ HasController inventory ∧ ∃ more, routing = arming :: more) := by
  rw [prepare, bind_eq, setup_bind, onSerial_bind] at reaches
  obtain ⟨search, back, searching, rfl, searches, onward⟩ := reaches.of_bind
  obtain ⟨toldSearch, told⟩ := List.forall_mem_append.1 told
  have walked := shows_of_reaches searches (keeps_search _) toldSearch
  rcases onward with ⟨rfl, -⟩ | ⟨chosen, rfl, onward⟩
  · exact ⟨search, [], rfl, walked, List.forall_mem_nil _, .inl rfl⟩
  cases chosen with
  | none =>
    obtain ⟨rfl, -⟩ := Reaches.of_done onward
    exact ⟨search, [], rfl, walked, List.forall_mem_nil _, .inl rfl⟩
  | some device =>
    dsimp only [bind_eq] at onward
    rw [setup_bind, onSerial_bind] at onward
    obtain ⟨logged, routing, logging, rfl, logs, onward⟩ := onward.of_bind
    obtain ⟨toldLog, told⟩ := List.forall_mem_append.1 told
    have walkedOn := shows_of_reaches logs (.log .walk _ _) toldLog
    refine ⟨search ++ logged, routing, (List.append_assoc ..).symm,
      List.forall_mem_append.2 ⟨walked, walkedOn⟩, ?_⟩
    rcases onward with ⟨rfl, -⟩ | ⟨_, rfl, onward⟩
    · exact ⟨List.forall_mem_nil _, .inl rfl⟩
    · refine ⟨shows_of_reaches onward (keeps_setup _) told, ?_⟩
      rcases onward.of_ask with ⟨rfl, -⟩ | ⟨_, more, rfl, -⟩
      · exact .inl rfl
      · exact .inr ⟨⟨device, finishes_search searches⟩, more, rfl⟩

/-- The parts of what happens with interrupts masked. -/
structure Parts (conversation : Conversation Kernel) where
  scan : Conversation Kernel
  search : Conversation Kernel
  routing : Conversation Kernel
  starting : Conversation Kernel
  whole : conversation = scan ++ (search ++ (routing ++ starting))
  scans : ∀ exchange ∈ scan, Stage.OneShows scanStages exchange.request
  searches : ∀ exchange ∈ search, Stage.walk.Shows exchange.request
  routes : ∀ exchange ∈ routing, Stage.routing.Shows exchange.request
  starts : ∀ exchange ∈ starting, Stage.controller.Shows exchange.request
  /-- Behind the inventory there is nothing before it is complete. -/
  scanned : search ++ (routing ++ starting) = [] ∨ ∃ found, Finishes untilInventory scan found
  /-- What is routed is a controller of the inventory, and its vector is armed first. -/
  armed : routing = [] ∨ (∃ found, Finishes untilInventory scan found ∧ HasController found.2) ∧
    ∃ more, routing = arming :: more

theorem parts_of_prepareAndStart {found : UInt8 × Pci.Inventory}
    {conversation : Conversation Kernel} {waiting : Program Kernel (Option Usb.Controller)}
    (reaches : Reaches (onSerial (prepareAndStart found)) conversation waiting)
    (told : ∀ exchange ∈ conversation, Tells false exchange) :
    ∃ search routing starting, conversation = search ++ (routing ++ starting) ∧
      (∀ exchange ∈ search, Stage.walk.Shows exchange.request) ∧
      (∀ exchange ∈ routing, Stage.routing.Shows exchange.request) ∧
      (∀ exchange ∈ starting, Stage.controller.Shows exchange.request) ∧
      (routing = [] ∨ HasController found.2 ∧ ∃ more, routing = arming :: more) := by
  rw [prepareAndStart, bind_eq, onSerial_bind] at reaches
  obtain ⟨front, starting, preparing, rfl, prepares, onward⟩ := reaches.of_bind
  obtain ⟨toldFront, toldStart⟩ := List.forall_mem_append.1 told
  obtain ⟨search, routing, rfl, searches, routes, armed⟩ := parts_of_prepare prepares toldFront
  refine ⟨search, routing, starting, List.append_assoc .., searches, routes, ?_, armed⟩
  rcases onward with ⟨rfl, -⟩ | ⟨prepared, rfl, onward⟩
  · exact List.forall_mem_nil _
  · cases prepared with
    | error kind =>
      exact shows_of_reaches onward (.bind (.log .controller _ _) fun _ => .done ..) toldStart
    | ok prepared => exact shows_of_reaches onward (keeps_startController prepared) toldStart

theorem nonempty_parts {conversation : Conversation Kernel}
    {waiting : Program Kernel (Option Usb.Controller)}
    (reaches : Reaches (onSerial untilEnabled) conversation waiting)
    (told : ∀ exchange ∈ conversation, Tells false exchange) : Nonempty (Parts conversation) := by
  rw [untilEnabled, bind_eq, onSerial_bind] at reaches
  obtain ⟨scan, back, scanning, rfl, scans, onward⟩ := reaches.of_bind
  obtain ⟨toldScan, told⟩ := List.forall_mem_append.1 told
  have inScan := (obeys_untilInventory.of_reaches scans toldScan).1
  rcases onward with ⟨rfl, -⟩ | ⟨found, rfl, onward⟩
  · exact ⟨⟨scan, [], [], [], rfl, inScan, List.forall_mem_nil _, List.forall_mem_nil _,
      List.forall_mem_nil _, .inl rfl, .inl rfl⟩⟩
  · obtain ⟨search, routing, starting, rfl, searches, routes, starts, armed⟩ :=
      parts_of_prepareAndStart onward told
    refine ⟨⟨scan, search, routing, starting, rfl, inScan, searches, routes, starts,
      .inr ⟨found, scans⟩, ?_⟩⟩
    exact armed.imp id (And.imp_left fun controller => ⟨found, scans, controller⟩)

namespace Parts

variable {conversation : Conversation Kernel}

theorem course_eq {turns : Nat} {course : Course turns} (halves : Halves course)
    (parts : Parts halves.masked) : course.conversation =
      (parts.scan ++ parts.search) ++ (parts.routing ++ (parts.starting ++ halves.running)) := by
  have whole := halves.whole.trans (congrArg (· ++ halves.running) parts.whole)
  simpa only [List.append_assoc] using whole

/-- Before the routing, configuration space is not written. -/
theorem not_isConfigWrite_before (parts : Parts conversation) :
    ∀ exchange ∈ parts.scan ++ parts.search,
      KernelRequest.isConfigWrite exchange.request = false := by
  refine List.forall_mem_append.2 ⟨fun exchange made => ?_, fun exchange made => ?_⟩
  · refine Bool.eq_false_iff.2 fun writes => ?_
    have routing := (parts.scans exchange made).mem fun _ shows =>
      Stage.routing_of_isConfigWrite shows writes
    exact absurd routing (by decide)
  · exact Stage.not_isConfigWrite (parts.searches exchange made) nofun

/-- Nor is it behind. -/
theorem not_isConfigWrite_after {turns : Nat} {course : Course turns} (halves : Halves course)
    (parts : Parts halves.masked) :
    ∀ exchange ∈ parts.starting ++ halves.running,
      KernelRequest.isConfigWrite exchange.request = false := by
  refine List.forall_mem_append.2 ⟨fun exchange made => ?_, fun exchange made => ?_⟩
  · exact Stage.not_isConfigWrite (parts.starts exchange made) nofun
  · exact Stage.not_isConfigWrite (.inl (halves.running_allows exchange made)) nofun

/-- Up to the end of the routing, the registers of the controller are not written. -/
theorem not_isRegisterWrite (parts : Parts conversation) :
    ∀ exchange ∈ parts.search ++ parts.routing,
      KernelRequest.isRegisterWrite exchange.request = false := by
  refine List.forall_mem_append.2 ⟨fun exchange made => ?_, fun exchange made => ?_⟩
  · exact Stage.not_isRegisterWrite (parts.searches exchange made) (.inl rfl)
  · exact Stage.not_isRegisterWrite (parts.routes exchange made) (.inr rfl)

end Parts

theorem Halves.nonempty_parts {turns : Nat} {course : Course turns} (halves : Halves course) :
    Nonempty (Parts halves.masked) := by
  obtain ⟨waiting, reached⟩ := halves.reached
  exact Boot.nonempty_parts reached halves.told

/-! ## The vector table -/

theorem isPresent_vectorsBehind (table : VectorTable) (exchange : Exchange Kernel) :
    (vectorsBehind table exchange).isPresent Handler.controller.vector = true ↔
      table.isPresent Handler.controller.vector = true ∨ exchange = arming := by
  obtain ⟨request, answer⟩ := exchange
  cases request with
  | arm => simp [vectorsBehind, VectorTable.isPresent_install, arming]
  | _ => simp [vectorsBehind, arming]

/-- The controller's vector is present once it was armed. -/
theorem isPresent_vectorsAfter (conversation : Conversation Kernel) :
    (vectorsAfter conversation).isPresent Handler.controller.vector = true ↔
      arming ∈ conversation := by
  have behind (table : VectorTable) :
      (conversation.foldl vectorsBehind table).isPresent Handler.controller.vector = true ↔
        table.isPresent Handler.controller.vector = true ∨ arming ∈ conversation := by
    induction conversation generalizing table with
    | nil => simp
    | cons exchange rest ih =>
      rw [List.foldl_cons, ih, isPresent_vectorsBehind, List.mem_cons, or_assoc,
        eq_comm (a := exchange)]
  have absent : VectorTable.atBoot.isPresent Handler.controller.vector = false := by decide
  rw [vectorsAfter, behind, absent]
  exact or_iff_right nofun

/-! ## The order of a course -/

namespace Course

variable {turns : Nat}

theorem masked (course : Course turns) {early late : Conversation Kernel}
    (split : course.conversation = early ++ late) (none : enabling ∉ early) :
    flagAfter false early = false := by
  obtain ⟨halves⟩ := course.nonempty_halves
  obtain ⟨more, isMasked⟩ := halves.masked_of_not_mem split none
  refine flagAfter_of_not_enables fun exchange made => halves.not_enables exchange ?_
  rw [isMasked]
  exact List.mem_append_left _ made

theorem enabled (course : Course turns) {early late : Conversation Kernel}
    (split : course.conversation = early ++ enabling :: late) (none : enabling ∉ early) :
    IsReady early ∧
      (∃ controller, Finishes untilEnabled early controller ∧
        Reaches (onSerial (afterEnabled controller turns)) late course.rest) ∧
      ∀ exchange ∈ late, KernelRequest.isPort exchange.request = false := by
  obtain ⟨halves⟩ := course.nonempty_halves
  obtain ⟨middle, rfl, isRunning⟩ :=
    split_append_of_not_mem halves.enabling_not_mem (halves.whole.symm.trans split)
  have allows := halves.running_allows
  rcases halves.enabled with nothing | ⟨controller, later, begins, finishes, goesOn⟩
  · rw [nothing] at isRunning
    cases middle <;> cases isRunning
  cases middle with
  | cons first others =>
    rw [begins] at isRunning
    obtain ⟨rfl, -⟩ := List.cons.inj isRunning
    exact absurd (List.mem_append_right _ List.mem_cons_self) none
  | nil =>
    rw [begins] at isRunning
    obtain ⟨-, rfl⟩ := List.cons.inj isRunning
    rw [begins] at allows
    rw [List.append_nil]
    obtain ⟨parts⟩ := nonempty_preparations finishes
    refine ⟨parts.isReady halves.told, ⟨controller, finishes, goesOn⟩, fun exchange made => ?_⟩
    exact Stage.not_isPort_of_running (allows exchange (List.mem_cons_of_mem _ made))

theorem present (course : Course turns)
    (isPresent : (vectorsAfter course.conversation).isPresent Handler.controller.vector = true) :
    ∃ early late found, course.conversation = early ++ late ∧ Finishes untilInventory early found ∧
      HasController found.2 := by
  obtain ⟨halves⟩ := course.nonempty_halves
  obtain ⟨parts⟩ := halves.nonempty_parts
  have whole := parts.course_eq halves
  have made := (isPresent_vectorsAfter _).1 isPresent
  have routed : arming ∈ parts.routing := by
    rw [whole] at made
    simp only [List.mem_append] at made
    rcases made with (scan | search) | routing | starting | running
    · have routing := (parts.scans arming scan).mem fun _ => Stage.routing_of_arm
      exact absurd routing (by decide)
    · exact nomatch Stage.routing_of_arm (parts.searches arming search)
    · exact routing
    · exact nomatch Stage.routing_of_arm (parts.starts arming starting)
    · exact (halves.running_allows arming running).elim
  rcases parts.armed with none | ⟨⟨found, scanned, controller⟩, -⟩
  · rw [none] at routed
    cases routed
  · rw [List.append_assoc] at whole
    exact ⟨parts.scan, _, found, whole, scanned, controller⟩

theorem armed (course : Course turns) {early late : Conversation Kernel}
    {exchange : Exchange Kernel}
    (split : course.conversation = early ++ exchange :: late)
    (writes : KernelRequest.isConfigWrite exchange.request = true) :
    (vectorsAfter early).isPresent Handler.controller.vector = true := by
  obtain ⟨halves⟩ := course.nonempty_halves
  obtain ⟨parts⟩ := halves.nonempty_parts
  have notBefore : exchange ∉ parts.scan ++ parts.search := fun made => by
    rw [parts.not_isConfigWrite_before exchange made] at writes
    cases writes
  obtain ⟨middle, rfl, rest⟩ :=
    split_append_of_not_mem notBefore ((parts.course_eq halves).symm.trans split)
  refine (isPresent_vectorsAfter _).2 (List.mem_append_right _ ?_)
  rcases parts.armed with none | ⟨-, more, isRouting⟩
  · rw [none, List.nil_append] at rest
    have made : exchange ∈ parts.starting ++ halves.running := by
      rw [rest]
      exact List.mem_append_right _ List.mem_cons_self
    rw [parts.not_isConfigWrite_after halves exchange made] at writes
    cases writes
  · rw [isRouting, List.cons_append] at rest
    cases middle with
    | nil =>
      obtain ⟨rfl, -⟩ := List.cons.inj rest
      cases writes
    | cons first others =>
      obtain ⟨rfl, -⟩ := List.cons.inj rest
      exact List.mem_cons_self

theorem routed (course : Course turns) {early late : Conversation Kernel}
    {found : UInt8 × Pci.Inventory} (split : course.conversation = early ++ late)
    (finishes : Finishes untilInventory early found) :
    late.Pairwise fun first second => KernelRequest.isRegisterWrite first.request = true →
      KernelRequest.isConfigWrite second.request = false := by
  obtain ⟨halves⟩ := course.nonempty_halves
  obtain ⟨parts⟩ := halves.nonempty_parts
  have whole := parts.course_eq halves
  have before := parts.not_isConfigWrite_before
  have after := parts.not_isConfigWrite_after halves
  rcases parts.scanned with nothing | ⟨other, scanned⟩
  · obtain ⟨-, noRouting⟩ := List.append_eq_nil_iff.1 nothing
    rw [(List.append_eq_nil_iff.1 noRouting).1, List.nil_append] at whole
    have never : ∀ exchange ∈ early ++ late,
        KernelRequest.isConfigWrite exchange.request = false := by
      rw [← split, whole]
      exact List.forall_mem_append.2 ⟨before, after⟩
    exact List.pairwise_of_forall_mem_list fun _ _ second isLate _ =>
      never second (List.mem_append_right _ isLate)
  · rw [List.append_assoc] at whole
    obtain ⟨rfl, -⟩ := Reaches.done_unique scanned finishes (whole.symm.trans split)
    obtain rfl := List.append_cancel_left (split.symm.trans whole)
    rw [← List.append_assoc]
    refine List.pairwise_append.2 ⟨?_, ?_, fun _ _ second made _ => after second made⟩
    · refine List.pairwise_of_forall_mem_list fun first made _ _ writes => ?_
      rw [parts.not_isRegisterWrite first made] at writes
      cases writes
    · exact List.pairwise_of_forall_mem_list fun _ _ second made _ => after second made

theorem fatal (course : Course turns) {early late : Conversation Kernel}
    (split : course.conversation = early ++ late)
    (failed : (∃ error, Finishes heapMapping early (.error error)) ∨
      (∃ error, Finishes apicMapping early (.error error)) ∨
        ∃ kind, Finishes queueCreation early (.error kind))
    {before after : Conversation Kernel} (other : course.conversation = before ++ after) :
    flagAfter false before = false := by
  obtain ⟨halves⟩ := course.nonempty_halves
  have whole := halves.whole.symm.trans split
  have never : enabling ∉ before := fun made => by
    rcases halves.enabled with nothing | ⟨controller, later, -, finishes, -⟩
    · refine halves.enabling_not_mem ?_
      rw [← List.append_nil halves.masked, ← nothing, ← halves.whole, other]
      exact List.mem_append_left _ made
    · obtain ⟨parts⟩ := nonempty_preparations finishes
      rcases failed with ⟨error, failed⟩ | ⟨error, failed⟩ | ⟨kind, failed⟩
      · cases failed.unique parts.heapMapping_ok whole
      · cases failed.unique parts.apicMapping_ok whole
      · cases failed.unique parts.queueCreation_ok whole
  exact course.masked other never

end Course

/-- **Start-up goes in order.** -/
theorem Course.inOrder {turns : Nat} (course : Course turns) : course.InOrder where
  masked _ _ split none := course.masked split fun made => none enabling made rfl
  enabled _ _ split none := course.enabled split fun made => none enabling made rfl
  selected := alwaysSelects_boot turns _ _ course.reached
  present := course.present
  armed _ _ _ := course.armed
  routed _ _ _ := course.routed
  fatal _ _ split failed _ _ other := course.fatal split failed other

/-! ## Courses of two machines -/

/-- A host bridge, and two USB controllers of the vendor whose connectors are moved: one for USB 2,
and one for USB 3 that can signal by messages. -/
def usbFunctions : Pci.RegisterFile :=
  .ofList
    [⟨⟨0, 0, 0⟩, Pci.intelVendor, 0x0154, ⟨0x06, 0x00, 0x00⟩, 0x00, []⟩,
     ⟨⟨0, 2, 0⟩, Pci.intelVendor, 0x1e26, ⟨0x0c, 0x03, 0x20⟩, 0x00, []⟩,
     ⟨⟨0, 3, 0⟩, Pci.intelVendor, 0x1e31, ⟨0x0c, 0x03, 0x30⟩, 0x00,
       [(0x10, 0xfebf0000), (0x34, 0x50), (0x50, 0x05), (0xd4, 0x0f), (0xdc, 0x0f)]⟩]

/-- A halted controller with a device at its only root port.  A reset is over at the first look,
and the second look at the status finds the controller running. -/
def usbController : Usb.DeviceModel :=
  .start 0xfebf0000 [(0x00, 0x20), (0x04, 0x01000000), (0x18, 0x1000), (0x24, 0x1), (0x420, 0x1)]
    [⟨0x20, 0x2, 0, 0⟩, ⟨0x24, 0x1, 1, 0⟩] [⟨0x24, 0x8⟩, ⟨0x1020, 0x1⟩] (some ⟨0x1020, 0x1, 0⟩)

/-- A machine with these controllers and a hundred free frames; an event at the controller wakes it
from the first halt. -/
def usbBoard : Machine :=
  { Machine.start .warn usbController [(0x20, 0x01000000)] usbFunctions (0, 0)
      (.unmapped [⟨100, 200, .usable⟩]) [⟨1, [Settings.standard.controllerVector]⟩] with
    paging := true }

/-- A machine without functions and without free frames. -/
def bareMachine : Machine :=
  .start .warn (.start 0 [] [] [] none) [] .empty (0, 0) (.unmapped []) []

/-- What a machine is asked in start-up and the first turns of the main loop. -/
def requests (machine : Machine) (turns : Nat) : List KernelRequest :=
  ((bootOnSerial turns).run (recording Machine.kernel) (machine, [])).2.2.reverse.map (·.request)

/-- They are the requests of a course. -/
theorem exists_course_of_requests (machine : Machine) (masked : machine.interruptsEnabled = false)
    (turns : Nat) :
    ∃ course : Course turns, requests machine turns = course.conversation.map (·.request) := by
  obtain ⟨course, kept⟩ := machine.exists_course masked turns
  refine ⟨course, ?_⟩
  rw [requests, kept, List.reverse_reverse]

/-- The route of the board through start-up: the tables are loaded, the legacy interrupt controllers
silenced, the local one turned on and the queue created; the vector is armed, the controller's
messages are routed and its connectors moved, and it is reset; interrupts are enabled, and the main
loop halts and takes the message of the controller. -/
def usbBoardRoute : List KernelRequest :=
  let controller : Pci.Address := ⟨0, 3, 0⟩
  [.loadSegmentTable SegmentTable.installed.lastByte,
   .loadVectorTable VectorTable.lastByte,
   .bytePort (.output LegacyPic.firstData 0xff),
   .bytePort (.output LegacyPic.secondData 0xff),
   .context (.mmio (.write (LocalApic.base + LocalApic.spuriousVectorOffset) 0x1ff)),
   .createQueue Settings.standard.queueCapacity,
   .arm,
   .widePort (.output Pci.selectPort (controller.selectorWord 0x54)),
   .widePort (.output Pci.dataPort 0xfee01000),
   .widePort (.output Pci.selectPort (controller.selectorWord Pci.Connectors.fastLanesOffset)),
   .widePort (.output Pci.dataPort 0x0f),
   .context (.mmio (.write 0xfebf0020 Usb.Controller.resetBit)),
   .context (.console .unmask),
   .enableAndHalt,
   .pop,
   .context (.mmio (.write 0xfebf1020 0x3))]

/-- The course that the board records takes the whole route, and that of the bare machine breaks off
with the heap. -/
theorem inOrder_usbBoard :
    (∃ course : Course 3,
      requests usbBoard 3 = course.conversation.map (·.request) ∧
      usbBoardRoute.Sublist (course.conversation.map (·.request)) ∧
      course.InOrder) ∧
    ∃ course : Course 3,
      requests bareMachine 3 = course.conversation.map (·.request) ∧
      .context (.console (.send ⟨.error, "heap initialization failed: FrameAllocationFailed"⟩)) ∈
        course.conversation.map (·.request) ∧
      course.InOrder := by
  obtain ⟨course, asked⟩ := exists_course_of_requests usbBoard rfl 3
  obtain ⟨short, askedShort⟩ := exists_course_of_requests bareMachine rfl 3
  have route : usbBoardRoute.Sublist (requests usbBoard 3) := by decide +kernel
  have failure : .context (.console (.send
      ⟨.error, "heap initialization failed: FrameAllocationFailed"⟩)) ∈ requests bareMachine 3 := by
    decide +kernel
  exact ⟨⟨course, asked, asked ▸ route, course.inOrder⟩,
    ⟨short, askedShort, askedShort ▸ failure, short.inOrder⟩⟩

end KernelStart.Boot
