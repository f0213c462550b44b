import Mathlib.Algebra.GroupWithZero.Nat
import KernelStart.Machine.VectorHistory

/-!
# Interrupts of the controller are delivered once its vector is armed

Three pieces of state meet in an interrupt: the installed vector table, the main queue, and
the count of messages that the queue turned away.  What holds of them together, in whatever
order they are set up and used, is short (`Prepared`): the table is the one built at the start
or that one with the controller's vector armed, and in the second case the queue exists.  So
the controller's routine never runs without a queue, and each of its runs leaves exactly one
trace in the queue or in the count (`held_push`).

Writing to the serial line happens in between, from the routine of breakpoints and after an
arming.  It touches only the interrupt flag and what was seen (`Machine.offConsole`).
-/

set_option autoImplicit false

namespace KernelStart

open Descriptor

/-! ## Vector tables -/

namespace Descriptor.VectorTable

/-- Every present gate was made for the routine that belongs to its vector. -/
def HasRoutines (table : VectorTable) : Prop :=
  ∀ vector, table.isPresent vector = true →
    ∃ handler : Handler, (table.entry vector).routine? = some handler ∧ handler.vector = vector

theorem HasRoutines.install {table : VectorTable} (routines : table.HasRoutines)
    (handler : Handler) : (table.install handler).HasRoutines := by
  intro vector present
  rw [install_entry]
  by_cases own : vector = handler.vector
  · rw [if_pos own]
    exact ⟨handler, rfl, own.symm⟩
  · rw [isPresent_install, decide_eq_false own, Bool.false_or] at present
    rw [if_neg own]
    exact routines vector present

theorem hasRoutines_atBoot : atBoot.HasRoutines := by
  have nothing : empty.HasRoutines := fun vector present => by
    rw [isPresent_empty] at present
    cases present
  rw [atBoot]
  exact ((nothing.install .breakpoint).install .doubleFault).install .spurious

theorem armed_presentVectors :
    (atBoot.install .controller).presentVectors = [3, 8, 0x40, 0xff] := by decide +kernel

end Descriptor.VectorTable

/-! ## Writing to the serial line -/

namespace Machine

/-- The machine without what writing to the serial line touches. -/
def offConsole (machine : Machine) : Machine :=
  { machine with interruptsEnabled := false, unmaskedSerial := false, seen := [] }

theorem offConsole_console (request : Log.ConsoleRequest) (machine : Machine) :
    (console request machine).2.offConsole = machine.offConsole := by
  have noted (lines : List String) : ∀ start : Machine,
      (lines.foldl (fun reached line => reached.note (.line line)) start).offConsole =
        start.offConsole := by
    induction lines with
    | nil => exact fun _ => rfl
    | cons line rest ih => exact fun start => ih (start.note (.line line))
  cases request with
  | interruptsEnabled => rfl
  | mask => rfl
  | unmask => rfl
  | send entry =>
    change (machine.send entry).offConsole = machine.offConsole
    rw [send]
    generalize entry.lines = lines
    exact noted lines machine

/-- Writing a log entry. -/
def writing (threshold : Log.Level) (entry : Log.Entry) : Program Context Unit :=
  Context.console (Log.Console.write threshold entry)

/-- A request of the serial line. -/
def IsConsole (request : ContextRequest) : Prop := ∃ written, request = .console written

theorem writing_asks (threshold : Log.Level) (entry : Log.Entry) :
    (writing threshold entry).Asks IsConsole := by
  have means (request : Log.ConsoleRequest) : (Context.ask (.console request)).Asks IsConsole :=
    .request ⟨request, rfl⟩
  exact Program.Asks.interpret (fun request _ => means request) (Program.Asks.anything _)

theorem offConsole_context {request : ContextRequest} (isConsole : IsConsole request)
    (machine : Machine) : (context request machine).2.offConsole = machine.offConsole := by
  obtain ⟨written, rfl⟩ := isConsole
  exact offConsole_console written machine

/-- Two machines that agree on what interrupts, the queue and the bus depend on. -/
structure Agrees (machine other : Machine) : Prop where
  vectors_eq : machine.vectors = other.vectors
  loaded_eq : machine.vectorsLoaded = other.vectorsLoaded
  queue_eq : machine.mainQueue = other.mainQueue
  bus_eq : machine.bus = other.bus
  permits_eq : machine.permits endOfInterrupt = other.permits endOfInterrupt

theorem agrees_refl (machine : Machine) : machine.Agrees machine := ⟨rfl, rfl, rfl, rfl, rfl⟩

/-- Machines agree if they differ at most in what writing to the serial line touches. -/
theorem Agrees.of_offConsole {machine other : Machine}
    (same : machine.offConsole = other.offConsole) : machine.Agrees other := by
  have agrees : machine.offConsole.Agrees other.offConsole := same ▸ agrees_refl _
  exact ⟨agrees.vectors_eq, agrees.loaded_eq, agrees.queue_eq, agrees.bus_eq, agrees.permits_eq⟩

/-- Writing a log entry comes to an end. -/
theorem run_writing (threshold : Log.Level) (entry : Log.Entry) (machine : Machine) :
    ∃ reached, (writing threshold entry).run context machine = (.ok (), reached) ∧
      reached.Agrees machine := by
  have ended : ∃ reached, (writing threshold entry).run context machine = (.ok (), reached) := by
    unfold writing Log.Console.write
    split
    · obtain ⟨enabled⟩ := machine
      cases enabled with
      | true => exact ⟨_, rfl⟩
      | false => exact ⟨_, rfl⟩
    · exact ⟨_, rfl⟩
  obtain ⟨reached, ran⟩ := ended
  refine ⟨reached, ran, ?_⟩
  have kept := (writing_asks threshold entry).run_keeps offConsole
    (fun _ isConsole => offConsole_context isConsole) machine
  rw [ran] at kept
  exact .of_offConsole kept

/-! ## The way to a routine -/

theorem routine?_of_present {machine : Machine} (routines : machine.vectors.HasRoutines)
    {vector : UInt8} (ordinary : vector ≠ Handler.doubleFault.vector)
    (loaded : machine.vectorsLoaded = true) (present : machine.vectors.isPresent vector = true) :
    ∃ handler : Handler, handler.vector = vector ∧ machine.routine? vector = some handler := by
  obtain ⟨handler, made, rfl⟩ := routines vector present
  have usual : (handler != .doubleFault) = true := by
    cases handler with
    | doubleFault => exact absurd rfl ordinary
    | breakpoint => rfl
    | spurious => rfl
    | controller => rfl
  refine ⟨handler, rfl, ?_⟩
  rw [routine?, loaded, present, made, Bool.and_self, if_pos rfl, Option.filter_some, if_pos usual]

theorem routine?_of_no_way {machine : Machine} {vector : UInt8}
    (noWay : ¬(machine.vectorsLoaded = true ∧ machine.vectors.isPresent vector = true)) :
    machine.routine? vector = none := by
  rw [routine?, if_neg]
  rwa [Bool.and_eq_true]

/-- Apart from the controller's, a routine that interrupts enter at most writes to the serial
line, and comes to an end. -/
theorem routine_quiet {handler : Handler} (other : handler ≠ .controller)
    (ordinary : handler ≠ .doubleFault) (threshold : Log.Level) :
    let program := handler.routine.interpret (Context.writingLog threshold)
    program.Asks IsConsole ∧
      ∀ machine, ∃ reached, program.run context machine = (.ok (), reached) := by
  cases handler with
  | breakpoint =>
    have written : Handler.breakpoint.routine.interpret (Context.writingLog threshold) =
        writing threshold ⟨.warn, "EXCEPTION: BREAKPOINT"⟩ := Program.bind_done _
    dsimp only
    rw [written]
    refine ⟨writing_asks _ _, fun machine => ?_⟩
    obtain ⟨reached, ran, -⟩ := run_writing threshold ⟨.warn, "EXCEPTION: BREAKPOINT"⟩ machine
    exact ⟨reached, ran⟩
  | doubleFault => exact absurd rfl ordinary
  | spurious => exact ⟨trivial, fun machine => ⟨machine, rfl⟩⟩
  | controller => exact absurd rfl other

/-- The controller's routine: a message, and then the acknowledgement. -/
theorem routine_controller (threshold : Log.Level) :
    Handler.controller.routine.interpret (Context.writingLog threshold) =
      .ask (.signal (.ofType .controllerInterrupt)) fun _ =>
        .ask (.mmio (.write endOfInterrupt 0)) fun _ => .done () := rfl

/-! ## What an interrupt comes to -/

/-- What holds of the vectors and the queue in any history: the installed table is the one that
was built, with the controller's vector armed or not; there is a queue when it is armed; and
interrupts can be acknowledged. -/
structure Prepared (machine : Machine) (armed : Bool) : Prop where
  vectors_eq : machine.vectors = if armed then VectorTable.atBoot.install .controller else .atBoot
  queue_of_armed : armed = true → ∃ queue, machine.mainQueue = .created queue
  permits : machine.permits endOfInterrupt = true

namespace Prepared

variable {machine : Machine} {armed : Bool}

theorem hasRoutines (prepared : machine.Prepared armed) : machine.vectors.HasRoutines := by
  rw [prepared.vectors_eq]
  cases armed with
  | false => exact VectorTable.hasRoutines_atBoot
  | true => exact VectorTable.hasRoutines_atBoot.install .controller

/-- With the controller's vector present there is a queue. -/
theorem queue_of_present (prepared : machine.Prepared armed)
    (present : machine.vectors.isPresent Handler.controller.vector = true) :
    ∃ queue, machine.mainQueue = .created queue := by
  cases armed with
  | true => exact prepared.queue_of_armed rfl
  | false =>
    have absent : VectorTable.atBoot.isPresent Handler.controller.vector = false := by
      decide +kernel
    rw [prepared.vectors_eq, if_neg Bool.false_ne_true, absent] at present
    cases present

/-- What the controller's routine does: its message is offered to the queue, and the interrupt is
acknowledged. -/
theorem run_routine_controller (prepared : machine.Prepared armed) {queue : MessageQueue}
    (queue_eq : machine.mainQueue = .created queue) :
    let program := Handler.controller.routine.interpret (Context.writingLog machine.threshold)
    program.requests context machine =
        [.signal (.ofType .controllerInterrupt), .mmio (.write endOfInterrupt 0)] ∧
      ∃ reached, program.run context machine = (.ok (), reached) ∧
        reached.Agrees { machine with
          mainQueue := .created (queue.push (.ofType .controllerInterrupt)).2
          bus := (machine.bus.write endOfInterrupt 0).2 } := by
  let signalled : Machine :=
    { machine with mainQueue := .created (queue.push (.ofType .controllerInterrupt)).2 }
  have offered :
      context (.signal (.ofType .controllerInterrupt)) machine = (.ok (), signalled) := by
    rw [context, signal, queue_eq]
    rfl
  have acknowledged : context (.mmio (.write endOfInterrupt 0)) signalled =
      access (.write endOfInterrupt 0) signalled := by
    have permitted : signalled.permits endOfInterrupt = true := prepared.permits
    rw [context, mmio, addressOf, if_pos permitted]
  dsimp only
  rw [routine_controller, Program.requests]
  simp only [Program.moments, Program.run, offered, acknowledged]
  exact ⟨rfl, _, rfl, rfl, rfl, rfl, rfl, rfl⟩

/-- Everything that an interrupt can come to. -/
inductive Course (machine : Machine) (vector : UInt8) : Prop where
  | fault
    (noWay : ¬(machine.vectorsLoaded = true ∧ machine.vectors.isPresent vector = true))
    (asked : machine.interruptRequests vector = [])
    (ended : machine.interrupt vector =
      (.error (.noGate vector), machine.note (.interrupt vector)))
  | signal (queue : MessageQueue) (reached : Machine)
    (way : machine.vectorsLoaded = true ∧ machine.vectors.isPresent vector = true)
    (own : vector = Handler.controller.vector)
    (queue_eq : machine.mainQueue = .created queue)
    (asked : machine.interruptRequests vector =
      [.signal (.ofType .controllerInterrupt), .mmio (.write endOfInterrupt 0)])
    (ended : machine.interrupt vector = (.ok (), reached))
    (changed : reached.Agrees { machine with
      mainQueue := .created (queue.push (.ofType .controllerInterrupt)).2
      bus := (machine.bus.write endOfInterrupt 0).2 })
  | quiet (reached : Machine)
    (way : machine.vectorsLoaded = true ∧ machine.vectors.isPresent vector = true)
    (other : vector ≠ Handler.controller.vector)
    (asked : ∀ request ∈ machine.interruptRequests vector, IsConsole request)
    (ended : machine.interrupt vector = (.ok (), reached))
    (kept : reached.Agrees machine)

theorem vector_injective {first second : Handler} (same : first.vector = second.vector) :
    first = second := by
  revert same
  cases first <;> cases second <;> decide

theorem course (prepared : machine.Prepared armed) {vector : UInt8}
    (ordinary : vector ≠ Handler.doubleFault.vector) : Course machine vector := by
  let arrived := machine.note (.interrupt vector)
  by_cases way : machine.vectorsLoaded = true ∧ machine.vectors.isPresent vector = true
  · have ready : (arrived.setInterrupts false).Prepared armed :=
      ⟨prepared.vectors_eq, prepared.queue_of_armed, prepared.permits⟩
    obtain ⟨handler, rfl, entered⟩ :=
      @routine?_of_present arrived prepared.hasRoutines vector ordinary way.1 way.2
    have asks : machine.interruptRequests handler.vector =
        (handler.routine.interpret (Context.writingLog arrived.threshold)).requests context
          (arrived.setInterrupts false) := by
      rw [interruptRequests, entered]
    have enters {reached : Machine}
        (ran : (handler.routine.interpret (Context.writingLog arrived.threshold)).run context
          (arrived.setInterrupts false) = (.ok (), reached)) :
        machine.interrupt handler.vector = (.ok (), reached.setInterrupts true) := by
      rw [interrupt, entered]
      dsimp only [enter]
      rw [ran]
    by_cases own : handler = .controller
    · subst own
      obtain ⟨queue, queue_eq⟩ := prepared.queue_of_present way.2
      obtain ⟨asked, reached, ran, changed⟩ := ready.run_routine_controller queue_eq
      exact .signal queue (reached.setInterrupts true) way rfl queue_eq (asks.trans asked)
        (enters ran) ⟨changed.vectors_eq, changed.loaded_eq, changed.queue_eq, changed.bus_eq,
          changed.permits_eq⟩
    · have usual : handler ≠ .doubleFault := fun double => ordinary (congrArg Handler.vector double)
      obtain ⟨writes, ends⟩ := routine_quiet own usual arrived.threshold
      obtain ⟨reached, ran⟩ := ends (arrived.setInterrupts false)
      refine .quiet (reached.setInterrupts true) way (fun same => own (vector_injective same)) ?_
        (enters ran) ?_
      · intro request made
        rw [asks, Program.requests, List.mem_map] at made
        obtain ⟨moment, made, rfl⟩ := made
        exact writes.of_mem_moments made
      · have kept := writes.run_keeps offConsole (fun _ isConsole => offConsole_context isConsole)
          (arrived.setInterrupts false)
        rw [ran] at kept
        exact .of_offConsole kept
  · have none : arrived.routine? vector = none := routine?_of_no_way way
    refine .fault way ?_ ?_
    · rw [interruptRequests, none]
    · rw [interrupt, none]

theorem answersInterrupt (prepared : machine.Prepared armed) {vector : UInt8}
    (ordinary : vector ≠ Handler.doubleFault.vector) : machine.AnswersInterrupt vector := by
  cases prepared.course ordinary with
  | fault noWay asked ended =>
    have failed : (machine.interrupt vector).1 ≠ .ok () := by
      rw [ended]
      exact fun ok => nomatch ok
    exact {
      delivered_iff := iff_of_false failed noWay
      fault := fun _ => by
        rw [ended]
        exact ⟨rfl, asked, rfl, rfl⟩
      signal := fun ok => absurd ok failed
      quiet := fun ok => absurd ok failed }
  | signal queue reached way own queue_eq asked ended changed =>
    have delivered : (machine.interrupt vector).1 = .ok () := congrArg Prod.fst ended
    exact {
      delivered_iff := iff_of_true delivered way
      fault := fun failed => absurd delivered failed
      signal := fun _ _ => by
        refine ⟨asked, queue, queue_eq, ?_⟩
        rw [ended]
        exact ⟨changed.queue_eq, changed.bus_eq⟩
      quiet := fun _ other => absurd own other }
  | quiet reached way other asked ended kept =>
    have delivered : (machine.interrupt vector).1 = .ok () := congrArg Prod.fst ended
    exact {
      delivered_iff := iff_of_true delivered way
      fault := fun failed => absurd delivered failed
      signal := fun _ own => absurd own other
      quiet := fun _ _ => by
        rw [ended]
        exact ⟨asked, kept.queue_eq, kept.bus_eq⟩ }

end Prepared

/-! ## Arming -/

/-- Asking the kernel for what interrupt handlers may use is using it. -/
theorem run_kernel_context {α : Type} (program : Program Context α) (machine : Machine) :
    (program.interpret fun request => @Program.request Kernel (.context request)).run kernel
      machine = program.run context machine := by
  have through_eq : Program.through
      (fun request => @Program.request Kernel (.context request)) kernel = context := by
    funext request state
    exact Program.run_request kernel (.context request) state
  rw [Program.run_interpret, through_eq]

/-- Arming makes the controller's vector present, and says so on the serial line. -/
theorem execute_arm (machine : Machine) :
    ∃ reached, machine.execute (Kernel.setupAccess .arm) = (.ok (), reached) ∧
      reached.Agrees { machine with vectors := machine.vectors.install .controller } := by
  let armed : Machine := { machine with vectors := machine.vectors.install .controller }
  let entry : Log.Entry := ⟨.debug,
    s!"vector {Text.hex Settings.standard.controllerVector.toNat} armed for xHC"⟩
  obtain ⟨reached, ran, kept⟩ := run_writing machine.threshold entry armed
  refine ⟨reached, ?_, kept⟩
  have written : machine.execute (Kernel.setupAccess .arm) =
      ((writing machine.threshold entry).interpret fun request =>
        @Program.request Kernel (.context request)).run kernel armed := by
    change Program.run kernel (Program.bind _ _) _ = _
    exact congrArg (fun program => Program.run kernel program _) (Program.bind_done _)
  rw [written, run_kernel_context, ran]

theorem Prepared.of_agrees {machine reached : Machine} {armed : Bool}
    (prepared : machine.Prepared armed) (kept : reached.Agrees machine) :
    reached.Prepared armed where
  vectors_eq := kept.vectors_eq.trans prepared.vectors_eq
  queue_of_armed isArmed := by
    rw [kept.queue_eq]
    exact prepared.queue_of_armed isArmed
  permits := kept.permits_eq.trans prepared.permits

end Machine

/-! ## What the queue holds -/

namespace MainQueue

theorem exists_of_hasHandle {cell : MainQueue} (handle : cell.hasHandle = true) :
    ∃ queue, cell = .created queue := by
  cases cell with
  | absent => cases handle
  | created queue => exact ⟨queue, rfl⟩
  | poisoned => cases handle

/-- Offering a message puts it among the queued ones or counts it as dropped. -/
theorem held_push (queue : MessageQueue) (message : Message) :
    (created (queue.push message).2).held = (created queue).held + 1 := by
  rw [held, held, MessageQueue.toList_push, MessageQueue.push]
  cases queue.isFull with
  | true => exact Nat.add_assoc _ _ 1
  | false =>
    rw [if_neg Bool.false_ne_true, if_neg Bool.false_ne_true, List.length_append]
    exact Nat.add_right_comm _ 1 _

theorem held_pop (queue : MessageQueue) :
    (created queue.pop.2).held + queue.pop.1.toList.length = (created queue).held := by
  have lengths := congrArg List.length queue.pop_append_toList
  have dropped_eq : queue.pop.2.dropped = queue.dropped := by
    unfold MessageQueue.pop
    split <;> rfl
  rw [List.length_append] at lengths
  rw [held, held, dropped_eq]
  omega

/-- Nothing is held by a new queue, and a queue that exists is not replaced. -/
theorem held_create (capacity : Nat) (cell : MainQueue) :
    (cell.create capacity).2.held = cell.held := by
  cases cell with
  | absent =>
    rw [create, MessageQueue.allocate]
    by_cases none : capacity = 0
    · rw [if_pos none]
      rfl
    · rw [if_neg none]
      by_cases large : MessageQueue.blockLimit < capacity * MessageQueue.slotSize
      · rw [if_pos large]
        rfl
      · rw [if_neg large]
        rfl
  | created queue => rfl
  | poisoned => rfl

end MainQueue

/-! ## Histories -/

namespace Machine.VectorBench

/-- What one stimulus does to the arming, to the loading, and to the messages that are held. -/
structure Reaction (bench : VectorBench) (armed : Bool) (stimulus : Stimulus)
    (observation : Observation) (reached : VectorBench) : Prop where
  prepared : reached.machine.Prepared (armed || decide (observation = .armed))
  loaded_iff : reached.machine.vectorsLoaded = true ↔
    bench.machine.vectorsLoaded = true ∨ stimulus = .load
  held : reached.machine.mainQueue.held + observation.poppedMessages + observation.takenDrops =
    bench.machine.mainQueue.held + observation.controllerInterrupts

variable {bench : VectorBench} {armed : Bool}

/-- Only arming makes a difference to what is armed. -/
theorem prepared_unless_armed {machine : Machine} {observation : Observation}
    (prepared : machine.Prepared armed) (silent : observation ≠ .armed) :
    machine.Prepared (armed || decide (observation = .armed)) := by
  rwa [decide_eq_false silent, Bool.or_false]

/-- A stimulus that changes no more than what the serial line touches. -/
theorem Reaction.of_kept {stimulus : Stimulus} {observation : Observation} {reached : VectorBench}
    (prepared : bench.machine.Prepared armed)
    (kept : reached.machine.Agrees bench.machine)
    (other : stimulus ≠ .load) (silent : observation ≠ .armed)
    (uncounted : observation.poppedMessages + observation.takenDrops =
      observation.controllerInterrupts) :
    Reaction bench armed stimulus observation reached where
  prepared := prepared_unless_armed (prepared.of_agrees kept) silent
  loaded_iff := by
    rw [or_iff_left other, kept.loaded_eq]
  held := by
    rw [Nat.add_assoc, uncounted, kept.queue_eq]

theorem reaction_arm (prepared : bench.machine.Prepared armed) {reached : Machine}
    (handle : bench.machine.mainQueue.hasHandle = true)
    (changed : reached.Agrees
      { bench.machine with vectors := bench.machine.vectors.install .controller }) :
    Reaction bench armed .arm .armed (bench.withMachine reached) where
  prepared := by
    refine ⟨?_, fun _ => ?_, changed.permits_eq.trans prepared.permits⟩
    · rw [decide_eq_true rfl, Bool.or_true, if_pos rfl]
      refine changed.vectors_eq.trans ?_
      dsimp only
      rw [prepared.vectors_eq]
      cases armed with
      | false => rfl
      | true => exact VectorTable.atBoot.install_install .controller
    · obtain ⟨queue, created⟩ := MainQueue.exists_of_hasHandle handle
      exact ⟨queue, changed.queue_eq.trans created⟩
  loaded_iff := by
    rw [or_iff_left nofun]
    exact iff_of_eq (congrArg (· = true) changed.loaded_eq)
  held := congrArg MainQueue.held changed.queue_eq

theorem reaction_signal (prepared : bench.machine.Prepared armed) {reached : Machine}
    {queue : MessageQueue} (queue_eq : bench.machine.mainQueue = .created queue)
    (changed : reached.Agrees { bench.machine with
      mainQueue := .created (queue.push (.ofType .controllerInterrupt)).2
      bus := (bench.machine.bus.write endOfInterrupt 0).2 })
    (ordinary : Handler.controller.vector ≠ Handler.doubleFault.vector) :
    Reaction bench armed (.interrupt Handler.controller.vector ordinary)
      (.delivered Handler.controller.vector) (bench.withMachine reached) where
  prepared := by
    refine prepared_unless_armed ⟨changed.vectors_eq.trans prepared.vectors_eq, fun _ => ?_,
      changed.permits_eq.trans prepared.permits⟩ nofun
    exact ⟨_, changed.queue_eq⟩
  loaded_iff := by
    rw [or_iff_left nofun]
    exact iff_of_eq (congrArg (· = true) changed.loaded_eq)
  held := by
    have queue_after : reached.mainQueue =
        .created (queue.push (.ofType .controllerInterrupt)).2 := changed.queue_eq
    change reached.mainQueue.held + 0 + 0 = bench.machine.mainQueue.held +
      if Handler.controller.vector = Handler.controller.vector then 1 else 0
    rw [queue_after, queue_eq, MainQueue.held_push, if_pos rfl]

theorem reaction_pop (prepared : bench.machine.Prepared armed) :
    Reaction bench armed .pop (bench.react .pop).1 (bench.react .pop).2 := by
  cases queue_eq : bench.machine.mainQueue with
  | absent =>
    rw [react, pop, queue_eq]
    exact .of_kept prepared (agrees_refl _) nofun nofun rfl
  | poisoned =>
    rw [react, pop, queue_eq]
    exact .of_kept prepared (agrees_refl _) nofun nofun rfl
  | created queue =>
    rw [react, pop, queue_eq]
    refine {
      prepared := prepared_unless_armed
        ⟨prepared.vectors_eq, fun _ => ⟨_, rfl⟩, prepared.permits⟩ nofun
      loaded_iff := (or_iff_left nofun).symm
      held := ?_ }
    have counted : (Observation.popped queue.pop.1).poppedMessages =
        queue.pop.1.toList.length := by
      cases queue.pop.1 with
      | none => rfl
      | some message => rfl
    change (MainQueue.created queue.pop.2).held +
      (Observation.popped queue.pop.1).poppedMessages + 0 = bench.machine.mainQueue.held + 0
    rw [counted, queue_eq, MainQueue.held_pop]

theorem reaction_takeDropCount (prepared : bench.machine.Prepared armed) :
    Reaction bench armed .takeDropCount (bench.react .takeDropCount).1
      (bench.react .takeDropCount).2 := by
  cases queue_eq : bench.machine.mainQueue with
  | absent =>
    rw [react, takeDropCount, queue_eq]
    exact .of_kept prepared (agrees_refl _) nofun nofun rfl
  | poisoned =>
    rw [react, takeDropCount, queue_eq]
    exact .of_kept prepared (agrees_refl _) nofun nofun rfl
  | created queue =>
    rw [react, takeDropCount, queue_eq]
    refine {
      prepared := prepared_unless_armed
        ⟨prepared.vectors_eq, fun _ => ⟨_, rfl⟩, prepared.permits⟩ nofun
      loaded_iff := (or_iff_left nofun).symm
      held := ?_ }
    change queue.toList.length + 0 + 0 + queue.dropped = bench.machine.mainQueue.held + 0
    rw [queue_eq]
    rfl

/-- Every stimulus is such a reaction. -/
theorem reaction (prepared : bench.machine.Prepared armed) (stimulus : Stimulus) :
    Reaction bench armed stimulus (bench.react stimulus).1 (bench.react stimulus).2 := by
  cases stimulus with
  | load =>
    exact {
      prepared := prepared_unless_armed
        ⟨prepared.vectors_eq, prepared.queue_of_armed, prepared.permits⟩ nofun
      loaded_iff := iff_of_true rfl (.inr rfl)
      held := rfl }
  | createQueue capacity =>
    refine {
      prepared := prepared_unless_armed
        ⟨prepared.vectors_eq, fun isArmed => ?_, prepared.permits⟩ nofun
      loaded_iff := (or_iff_left nofun).symm
      held := bench.machine.mainQueue.held_create capacity }
    obtain ⟨queue, queue_eq⟩ := prepared.queue_of_armed isArmed
    refine ⟨queue, ?_⟩
    change (bench.machine.mainQueue.create capacity).2 = .created queue
    rw [queue_eq]
    rfl
  | arm =>
    by_cases handle : bench.machine.mainQueue.hasHandle = true
    · obtain ⟨reached, ran, changed⟩ := execute_arm bench.machine
      have reacted : bench.react .arm = (.armed, bench.withMachine reached) := by
        rw [react, if_pos handle, ran]
      rw [reacted]
      exact reaction_arm prepared handle changed
    · rw [react, if_neg handle]
      exact .of_kept prepared (agrees_refl _) nofun nofun rfl
  | armFresh =>
    have unchanged : bench.react .armFresh = (.nothing, (bench.react .armFresh).2) ∧
        (bench.react .armFresh).2.machine = bench.machine := by
      rw [react]
      split
      · exact ⟨rfl, rfl⟩
      · exact ⟨rfl, rfl⟩
    rw [unchanged.1]
    refine .of_kept prepared ?_ nofun nofun rfl
    rw [unchanged.2]
    exact agrees_refl _
  | interrupt vector ordinary =>
    cases prepared.course ordinary with
    | fault noWay asked ended =>
      rw [react, ended]
      exact .of_kept prepared (.of_offConsole rfl) nofun nofun rfl
    | signal queue reached way own queue_eq asked ended changed =>
      rw [react, ended]
      subst own
      exact reaction_signal prepared queue_eq changed ordinary
    | quiet reached way other asked ended kept =>
      rw [react, ended]
      exact .of_kept prepared kept nofun nofun
        (if_neg other).symm
  | pop => exact reaction_pop prepared
  | takeDropCount => exact reaction_takeDropCount prepared

/-- What holds after a history that begins in the middle of one. -/
theorem live_reaction (prepared : bench.machine.Prepared armed) (history : List Stimulus) :
    let lived := bench.live history
    lived.2.machine.Prepared (armed || decide (.armed ∈ lived.1)) ∧
      (lived.2.machine.vectorsLoaded = true ↔
        bench.machine.vectorsLoaded = true ∨ .load ∈ history) ∧
      lived.2.machine.mainQueue.held + (lived.1.map Observation.poppedMessages).sum +
          (lived.1.map Observation.takenDrops).sum =
        bench.machine.mainQueue.held + (lived.1.map Observation.controllerInterrupts).sum := by
  induction history generalizing bench armed with
  | nil =>
    refine ⟨?_, (or_iff_left List.not_mem_nil).symm, rfl⟩
    rw [live, decide_eq_false List.not_mem_nil, Bool.or_false]
    exact prepared
  | cons stimulus rest ih =>
    obtain ⟨ready, loaded_iff, held⟩ := reaction prepared stimulus
    obtain ⟨last, lastLoaded_iff, lastHeld⟩ := ih ready
    dsimp only [live]
    refine ⟨?_, ?_, ?_⟩
    · rw [Bool.or_assoc, ← Bool.decide_or] at last
      simpa only [List.mem_cons, eq_comm] using last
    · rw [lastLoaded_iff, loaded_iff, or_assoc, List.mem_cons, @eq_comm _ stimulus]
    · simp only [List.map_cons, List.sum_cons]
      omega

/-- **Interrupts of the controller are delivered exactly when its vector is armed and the table is
loaded, and each leaves its trace.**  Take any history from the start on.  The installed table has
the gates that it was built with, and that of the controller once its vector was armed, which it
is only when there is a queue.  Every interrupt that may arrive next is answered accordingly, and
the controller's interrupts that were delivered are those whose messages were popped or are still
queued, and those that were counted as dropped. -/
theorem live_delivers_when_armed (bench : VectorBench) (atBoot : bench.machine.AtBoot)
    (history : List Stimulus) :
    let lived := bench.live history
    let machine := lived.2.machine
    machine.vectors.presentVectors =
        (if .armed ∈ lived.1 then [3, 8, 0x40, 0xff] else [3, 8, 0xff]) ∧
      (machine.vectors.isPresent 0x40 = true → ∃ queue, machine.mainQueue = .created queue) ∧
      (machine.vectorsLoaded = true ↔ .load ∈ history) ∧
      (∀ vector, vector ≠ Handler.doubleFault.vector → machine.AnswersInterrupt vector) ∧
      (lived.1.map Observation.controllerInterrupts).sum =
        (lived.1.map Observation.poppedMessages).sum +
          (lived.1.map Observation.takenDrops).sum + machine.mainQueue.held := by
  have prepared : bench.machine.Prepared false :=
    ⟨atBoot.vectors_eq, fun isArmed => (nomatch isArmed), atBoot.permits⟩
  obtain ⟨ready, loaded_iff, held⟩ := live_reaction prepared history
  dsimp only
  rw [Bool.false_or] at ready
  refine ⟨?_, ready.queue_of_present, ?_, fun vector ordinary => ready.answersInterrupt ordinary,
    ?_⟩
  · rw [ready.vectors_eq]
    by_cases armed : .armed ∈ (bench.live history).1
    · rw [decide_eq_true armed, if_pos rfl, if_pos armed, VectorTable.armed_presentVectors]
    · rw [decide_eq_false armed, if_neg Bool.false_ne_true, if_neg armed,
        VectorTable.atBoot_presentVectors]
  · rw [loaded_iff, atBoot.notLoaded]
    exact or_iff_right Bool.false_ne_true
  · have nothing : bench.machine.mainQueue.held = 0 := congrArg MainQueue.held atBoot.queue_eq
    omega

/-- A machine without functions and without mapped pages. -/
def bare : VectorBench :=
  start (.start .warn (.start 0 [] [] [] none) [] .empty (0, 0) (.unmapped []) [])

/-- The controller signals before the table is loaded, before its vector is armed, and twice after
that, with room for one message. -/
def earlySignals : List Stimulus :=
  let signal : Stimulus := .interrupt Handler.controller.vector (by decide)
  [signal, .load, signal, .arm, .createQueue 1, .arm, signal, .interrupt 3 (by decide), signal,
    .takeDropCount, .pop]

/-- Then the first two signals are faults, and of the others one is popped and one was dropped. -/
theorem live_delivers_when_armed_after_earlySignals :
    bare.machine.AtBoot ∧
      (bare.live earlySignals).1 = [.faulted 0x40, .nothing, .faulted 0x40, .nothing, .nothing,
        .armed, .delivered 0x40, .delivered 3, .delivered 0x40, .taken 1, .popped (some ⟨0⟩)] ∧
      (bare.live earlySignals).2.machine.vectors.presentVectors = [3, 8, 0x40, 0xff] ∧
      (bare.live earlySignals).2.machine.mainQueue.held = 0 := by
  have atBoot : bare.machine.AtBoot := ⟨rfl, rfl, rfl, rfl⟩
  obtain ⟨present, -, -, -, sum⟩ := live_delivers_when_armed bare atBoot earlySignals
  have observed : (bare.live earlySignals).1 = [.faulted 0x40, .nothing, .faulted 0x40, .nothing,
      .nothing, .armed, .delivered 0x40, .delivered 3, .delivered 0x40, .taken 1,
      .popped (some ⟨0⟩)] := by
    decide +kernel
  rw [observed] at sum present
  rw [if_pos (by decide)] at present
  refine ⟨atBoot, observed, present, ?_⟩
  generalize (bare.live earlySignals).2.machine.mainQueue.held = held at sum ⊢
  change 2 = 1 + 1 + held at sum
  omega

end Machine.VectorBench

end KernelStart
