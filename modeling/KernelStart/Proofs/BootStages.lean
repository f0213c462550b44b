import KernelStart.Boot.Course

/-!
# The stages of start-up

Start-up goes through stages, and a stage makes requests of few kinds (`Stage.Allows`).  What
never happens in a stage is read off that table, one lemma for each kind of request; that a part
of start-up keeps to its stage follows the way it is put together.

Writing to the serial line comes in between everywhere.  While it finds interrupts masked, a writer
leaves the interrupt flag alone (`obeys_onSerial`).
-/

set_option autoImplicit false

namespace KernelStart.Boot

open Descriptor Program

/-! ## The table of stages -/

/-- The stages of start-up and the main loop. -/
inductive Stage where
  /-- The descriptor tables are loaded and the legacy interrupt controllers silenced. -/
  | tables
  /-- The heap and the registers of the local interrupt controller are mapped. -/
  | memory
  /-- The local interrupt controller is turned on. -/
  | apic
  /-- The main queue is created. -/
  | queue
  /-- The buses are walked, and the inventory is searched. -/
  | walk
  /-- The controller's vector is armed, and its interrupts and connectors are routed. -/
  | routing
  /-- The controller is mapped and started. -/
  | controller
  /-- Interrupts are enabled. -/
  | running
  deriving DecidableEq

namespace Stage

/-- The requests that a stage makes, apart from writing to the serial line. -/
def Allows : Stage → KernelRequest → Prop
  | tables, .loadSegmentTable _ => True
  | tables, .loadVectorTable _ => True
  | tables, .loadSegment _ _ => True
  | tables, .bytePort _ => True
  | memory, .mapper _ => True
  | memory, .halt => True
  | apic, .context (.mmio _) => True
  | queue, .createQueue _ => True
  | queue, .halt => True
  | walk, .widePort (.input _) => True
  | walk, .widePort (.output number _) => number = Pci.selectPort
  | routing, .widePort _ => True
  | routing, .arm => True
  | controller, .mapper _ => True
  | controller, .context (.mmio _) => True
  | running, .context (.mmio _) => True
  | running, .context (.console _) => True
  | running, .enableAndHalt => True
  | running, .pop => True
  | running, .takeDropCount => True
  | _, _ => False

/-- What a writer to the serial line asks while interrupts are masked. -/
def IsSending : KernelRequest → Prop
  | .context (.console .interruptsEnabled) => True
  | .context (.console (.send _)) => True
  | _ => False

/-- The requests that are seen of a stage while interrupts are masked. -/
def Shows (stage : Stage) (request : KernelRequest) : Prop :=
  stage.Allows request ∨ IsSending request

/-- The request is seen of one of the stages while interrupts are masked. -/
def OneShows (stages : List Stage) (request : KernelRequest) : Prop :=
  ∃ stage ∈ stages, stage.Shows request

theorem OneShows.mono {stages more : List Stage} {request : KernelRequest} (within : stages ⊆ more)
    (shows : OneShows stages request) : OneShows more request := by
  obtain ⟨stage, isOne, shows⟩ := shows
  exact ⟨stage, within isOne, shows⟩

/-- A stage that alone shows the request is among the stages. -/
theorem OneShows.mem {stages : List Stage} {request : KernelRequest} {other : Stage}
    (shows : OneShows stages request) (only : ∀ stage, stage.Shows request → stage = other) :
    other ∈ stages := by
  obtain ⟨stage, isOne, shows⟩ := shows
  exact only stage shows ▸ isOne

variable {stage : Stage} {request : KernelRequest}

theorem running_of_enables (shows : stage.Shows request) (enables : request.enables = true) :
    stage = running := by
  unfold KernelRequest.enables at enables
  split at enables
  · cases stage <;> first | rfl | exact shows.elim False.elim False.elim
  · cases stage <;> first | rfl | exact shows.elim False.elim False.elim
  · cases enables

theorem routing_of_arm (shows : stage.Shows .arm) : stage = routing := by
  cases stage <;> first | rfl | exact shows.elim False.elim False.elim

theorem tables_of_bytePort {access : BytePortRequest} (shows : stage.Shows (.bytePort access)) :
    stage = tables := by
  cases stage <;> first | rfl | exact shows.elim False.elim False.elim

theorem ne_bytePort (shows : stage.Shows request) (behind : stage ≠ tables)
    (access : BytePortRequest) : request ≠ .bytePort access := by
  rintro rfl
  exact behind (tables_of_bytePort shows)

theorem walk_or_routing_of_widePort {access : Pci.WidePortRequest}
    (shows : stage.Shows (.widePort access)) : stage = walk ∨ stage = routing := by
  cases stage <;> first | exact .inl rfl | exact .inr rfl | exact shows.elim False.elim False.elim

theorem routing_of_isConfigWrite (shows : stage.Shows request)
    (writes : request.isConfigWrite = true) : stage = routing := by
  unfold KernelRequest.isConfigWrite at writes
  split at writes
  · next number value =>
    rcases walk_or_routing_of_widePort shows with rfl | rfl
    · have selects := shows.resolve_right id
      obtain rfl : number = Pci.selectPort := selects
      cases writes
    · rfl
  · cases writes

theorem not_isConfigWrite (shows : stage.Shows request) (other : stage ≠ routing) :
    request.isConfigWrite = false :=
  Bool.eq_false_iff.2 fun writes => other (routing_of_isConfigWrite shows writes)

theorem not_isRegisterWrite (shows : stage.Shows request)
    (ports : stage = walk ∨ stage = routing) : request.isRegisterWrite = false := by
  unfold KernelRequest.isRegisterWrite
  split
  · rcases ports with rfl | rfl
    · exact shows.elim False.elim False.elim
    · exact shows.elim False.elim False.elim
  · rfl

theorem not_isPort_of_running (allowed : running.Allows request) : request.isPort = false := by
  cases request <;> first | rfl | exact allowed.elim

end Stage

/-! ## Programs that keep to a stage -/

variable {α β : Type} {stage : Stage}

/-- The requests of a stage among programs that log. -/
def Stage.AllowsLogged (stage : Stage) : LoggedRequest Kernel → Prop
  | .log _ => True
  | .plain request => stage.Allows request

/-- Whatever it is answered, the program keeps to the stage. -/
def Keeps (stage : Stage) (program : Program (Logged Kernel) α) : Prop :=
  program.Asks stage.AllowsLogged

namespace Keeps

theorem bind {program : Program (Logged Kernel) α} {next : α → Program (Logged Kernel) β}
    (first : Keeps stage program) (second : ∀ value, Keeps stage (next value)) :
    Keeps stage (program.bind next) :=
  Asks.bind first second

theorem done (stage : Stage) (value : α) : Keeps stage (.done value) := trivial

theorem log (stage : Stage) (level : Log.Level) (text : String) :
    Keeps stage (Program.log level text) :=
  Asks.request trivial

theorem ask {request : KernelRequest} (allowed : stage.Allows request) :
    Keeps stage (Kernel.ask request) :=
  Asks.request allowed

theorem fatal (stage : Stage) (halts : stage.Allows .halt) (text : String) :
    Keeps stage (Boot.fatal text : Program (Logged Kernel) α) :=
  (log stage _ _).bind fun _ => ⟨halts, fun never => nomatch never⟩

/-- A program keeps to a stage if whatever its requests mean does. -/
theorem interpret {S : Signature}
    {meaning : (request : S.Request) → Program (Logged Kernel) (S.Answer request)}
    (means : ∀ request, Keeps stage (meaning request)) (program : Program S α) :
    Keeps stage (program.interpret meaning) :=
  Asks.interpret (fun request _ => means request) (.anything program)

theorem interpretLogged {S : Signature}
    {meaning : (request : S.Request) → Program (Logged Kernel) (S.Answer request)}
    (means : ∀ request, Keeps stage (meaning request)) (program : Program (Logged S) α) :
    Keeps stage (program.interpretLogged meaning) := by
  refine interpret (fun request => ?_) program
  cases request with
  | log entry => exact log stage entry.level entry.text
  | plain request => exact means request

theorem mmio (stage : Stage) (allowed : ∀ access, stage.Allows (.context (.mmio access)))
    (program : Program Mmio α) : Keeps stage (Kernel.mmio program) := by
  refine interpret (fun access => ?_) program
  exact ask (allowed access)

theorem mmioLogged (stage : Stage) (allowed : ∀ access, stage.Allows (.context (.mmio access)))
    (program : Program (Logged Mmio) α) : Keeps stage (Kernel.mmioLogged program) := by
  refine interpretLogged (fun access => ?_) program
  exact ask (allowed access)

theorem bytePorts (stage : Stage) (allowed : ∀ access, stage.Allows (.bytePort access))
    (program : Program BytePorts α) : Keeps stage (Kernel.bytePorts program) := by
  refine interpret (fun access => ?_) program
  exact ask (allowed access)

theorem mapper (stage : Stage) (allowed : ∀ request, stage.Allows (.mapper request))
    (program : Program Memory.Mapper α) : Keeps stage (Kernel.mapper program) := by
  refine interpret (fun request => ?_) program
  exact ask (allowed request)

end Keeps

/-! ## Writing to the serial line -/

/-- Told that interrupts are masked, a writer leaves them alone. -/
theorem obeys_writing (threshold : Log.Level) (entry : Log.Entry) :
    (Kernel.writingLog threshold (.log entry)).Obeys (Tells false) Stage.IsSending
      fun _ => True := by
  change ((Context.console (Log.Console.write threshold entry)).interpret fun request =>
    @Program.request Kernel (.context request)).Obeys (Tells false) Stage.IsSending fun _ => True
  unfold Log.Console.write
  split
  · refine ⟨trivial, fun enabled told => ?_⟩
    obtain rfl : enabled = false := told
    exact ⟨trivial, fun _ _ => trivial⟩
  · trivial

/-- While interrupts are masked, a program with its log on the serial line shows its stage. -/
theorem obeys_onSerial {program : Program (Logged Kernel) α} (keeps : Keeps stage program) :
    (onSerial program).Obeys (Tells false) stage.Shows fun _ => True := by
  refine Obeys.interpret (fun request allowed => ?_) keeps
  cases request with
  | log entry => exact (obeys_writing _ entry).mono (fun _ => .inr) fun _ _ => trivial
  | plain request => exact ⟨.inl allowed, fun _ _ => trivial⟩

/-- While it finds interrupts masked, a program shows its stage in every conversation. -/
theorem shows_of_reaches {program : Program (Logged Kernel) α} {conversation : Conversation Kernel}
    {waiting : Program Kernel α} (reaches : Reaches (onSerial program) conversation waiting)
    (keeps : Keeps stage program) (told : ∀ exchange ∈ conversation, Tells false exchange) :
    ∀ exchange ∈ conversation, stage.Shows exchange.request :=
  ((obeys_onSerial keeps).of_reaches reaches told).1

theorem obeys_oneShows {stages : List Stage} {program : Program (Logged Kernel) α}
    (isOne : stage ∈ stages) (keeps : Keeps stage program) :
    (onSerial program).Obeys (Tells false) (Stage.OneShows stages) fun _ => True :=
  (obeys_onSerial keeps).mono (fun _ shows => ⟨stage, isOne, shows⟩) fun _ _ => trivial

/-- Whatever it is answered, a program with its log on the serial line asks for nothing but what its
stage allows and what writing takes. -/
theorem asks_onSerial {program : Program (Logged Kernel) α} (keeps : Keeps stage program) :
    (onSerial program).Asks fun request =>
      stage.Allows request ∨ ∃ written, request = KernelRequest.context (.console written) := by
  refine Asks.interpret (fun request allowed => ?_) keeps
  cases request with
  | log entry =>
    have consoles (program : Program Log.Console Unit) :
        (Context.console program).Asks fun request =>
          ∃ written, request = ContextRequest.console written := by
      refine Asks.interpret (fun request _ => ?_) (.anything program)
      exact Asks.request ⟨request, rfl⟩
    refine Asks.interpret (fun request isConsole => ?_) (consoles _)
    obtain ⟨written, rfl⟩ := isConsole
    exact Asks.request (.inr ⟨written, rfl⟩)
  | plain request => exact Asks.request (.inl allowed)

/-! ## The parts of start-up and their stages -/

theorem keeps_takeOver : Keeps .tables takeOver := by
  have segments : Keeps .tables loadSegments :=
    .bind (.ask trivial) fun _ => .bind (.ask trivial) fun _ => .bind (.ask trivial) fun _ =>
      .bind (.ask trivial) fun _ => .bind (.ask trivial) fun _ => .bind (.ask trivial) fun _ =>
        .bind (.ask trivial) fun _ => .ask trivial
  exact .bind segments fun _ => .bind (.ask trivial) fun _ =>
    .bind (.bytePorts .tables (fun _ => trivial) _) fun _ => .log ..

theorem keeps_mapMemory : Keeps .memory mapMemory := by
  refine .bind (.mapper .memory (fun _ => trivial) _) fun heap => ?_
  cases heap with
  | error error => exact .fatal .memory trivial _
  | ok _ =>
    refine .bind (.mapper .memory (fun _ => trivial) _) fun apic => ?_
    cases apic with
    | error error => exact .fatal .memory trivial _
    | ok _ => exact .done ..

theorem keeps_enableApic : Keeps .apic enableApic :=
  .bind (.mmio .apic (fun _ => trivial) _) fun _ => .mmio .apic (fun _ => trivial) _

theorem keeps_createQueue : Keeps .queue createQueue := by
  refine .bind (.ask trivial) fun created => ?_
  cases created with
  | error kind => exact .fatal .queue trivial _
  | ok _ => exact .done ..

theorem keeps_configRead (register : Pci.ConfigRegister) :
    Keeps .walk (Kernel.configAccess (.read register)) :=
  .bind (.ask rfl) fun _ => .bind (.ask trivial) fun _ => .done ..

theorem keeps_walk (program : Program (Logged Pci.ConfigRead) α) :
    Keeps .walk (Kernel.configRead program) :=
  .interpretLogged keeps_configRead program

theorem keeps_search (program : Program Pci.ConfigRead α) :
    Keeps .walk (Kernel.setup (onConfig (Pci.readOnly program))) := by
  rw [Kernel.setup, interpretLogged, onConfig, Pci.readOnly, interpret_interpret,
    interpret_interpret]
  refine .interpret (fun register => ?_) program
  exact .bind (keeps_configRead register) fun _ => .done ..

theorem keeps_setup (program : Program (Logged Setup) α) :
    Keeps .routing (Kernel.setup program) := by
  refine .interpretLogged (fun request => ?_) program
  cases request with
  | arm => exact .bind (.ask trivial) fun _ => .log ..
  | config request =>
    refine .interpret (fun access => ?_) _
    exact .ask trivial

theorem keeps_startController (prepared : Prepared) :
    Keeps .controller (startController prepared) := by
  refine .bind (.mapper .controller (fun _ => trivial) _) fun mapped => ?_
  cases mapped with
  | error error => exact .bind (.log ..) fun _ => .done ..
  | ok _ =>
    refine .bind (.mmio .controller (fun _ => trivial) _) fun controller => ?_
    refine .bind (.mmio .controller (fun _ => trivial) _) fun reset => ?_
    cases reset with
    | error kind => exact .bind (.log ..) fun _ => .done ..
    | ok _ =>
      refine .bind (.log ..) fun _ => ?_
      refine .bind (.mmio .controller (fun _ => trivial) _) fun started => ?_
      cases started with
      | error kind => exact .bind (.log ..) fun _ => .done ..
      | ok _ => exact .done ..

theorem keeps_onController (controller : Usb.Controller)
    (program : Program (Logged Usb.HostController) α) :
    Keeps .running (onController controller program) :=
  .mmioLogged .running (fun _ => trivial) _

theorem keeps_loop (controller : Option Usb.Controller) (turns : Nat) :
    Keeps .running (loop controller turns) := by
  have access (request : MainLoop.Request) : Keeps .running (loopAccess controller request) := by
    cases request with
    | handle type =>
      cases controller with
      | none => exact .done ..
      | some controller => exact keeps_onController ..
    | _ => exact .ask trivial
  induction turns with
  | zero => exact .done ..
  | succ turns ih => exact .bind (.interpretLogged access _) fun _ => ih

theorem keeps_afterEnabled (controller : Option Usb.Controller) (turns : Nat) :
    Keeps .running (afterEnabled controller turns) := by
  refine .bind (.log ..) fun _ => .bind ?_ fun _ => keeps_loop controller turns
  cases controller with
  | none => exact .done ..
  | some controller => exact keeps_onController ..

end KernelStart.Boot
