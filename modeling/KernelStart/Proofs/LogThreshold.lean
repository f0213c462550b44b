import KernelStart.Boot.Rehearsal
import KernelStart.MainLoop.History
import KernelStart.Program.Simulation
import KernelStart.Proofs.BusWalkBounds
import KernelStart.Proofs.RigFrames

/-!
# The threshold of the log

A program hands every entry to the log and learns nothing from it, so two runs at different
thresholds differ in what is kept of the log and in nothing else: the lower threshold keeps
those of the entries kept at the higher one that pass it, in order.  `Log.Quieter` says so of
two logs; environments that collect at two thresholds agree up to it
(`Log.collecting_agrees`), hence every logging program has the same run in both.

The main loop keeps its log on the rig, among other things.  No operation at the rig looks at
the log (`Rig.IgnoresLog`), so two rigs whose logs are related in this way stay so, operation
by operation (`Rig.perform_quieter`).

What an entry shows may have been read from hardware.  That happens before the entry is handed
over, at every threshold: the listing of an inventory reads the vendor of every function
(`Boot.requests_takeInventory`).
-/

set_option autoImplicit false

namespace KernelStart

open Program (Asks)

/-! ## Logs at two thresholds -/

namespace Log

/-- Two logs that continue the same past: the first holds those of the new entries of the second
that pass the threshold. -/
def Quieter (threshold : Level) (past first second : List Entry) : Prop :=
  ∃ entries : List Entry, second = past ++ entries ∧
    first = past ++ entries.filter fun entry => entry.level.passes threshold

/-- What is kept of a list of entries. -/
theorem flatMap_emittedAt (threshold : Level) (entries : List Entry) :
    entries.flatMap (·.emittedAt threshold) =
      entries.filter fun entry => entry.level.passes threshold := by
  induction entries with
  | nil => rfl
  | cons entry rest ih =>
    rw [List.flatMap_cons, List.filter_cons, ih, Entry.emittedAt]
    split <;> rfl

/-- The lower threshold keeps of all entries what it keeps of those that the higher one keeps. -/
theorem filter_flatMap_emittedAt {low high : Level} (lower : low ≤ high) (entries : List Entry) :
    (entries.flatMap (·.emittedAt high)).filter (fun entry => entry.level.passes low) =
      entries.flatMap (·.emittedAt low) := by
  rw [flatMap_emittedAt, flatMap_emittedAt, List.filter_filter]
  refine List.filter_congr fun entry _ => ?_
  cases passes : entry.level.passes low with
  | true => rw [Level.passes_mono lower passes]; rfl
  | false => rfl

theorem Quieter.refl (threshold : Level) (past : List Entry) : Quieter threshold past past past :=
  ⟨[], (List.append_nil past).symm, (List.append_nil past).symm⟩

/-- Logs stay related if the same entries are handed to both. -/
theorem Quieter.append {low high : Level} (lower : low ≤ high) {past first second : List Entry}
    (quieter : Quieter low past first second) (entries : List Entry) :
    Quieter low past (first ++ entries.flatMap (·.emittedAt low))
      (second ++ entries.flatMap (·.emittedAt high)) := by
  obtain ⟨before, rfl, rfl⟩ := quieter
  refine ⟨before ++ entries.flatMap (·.emittedAt high), List.append_assoc _ _ _, ?_⟩
  rw [List.filter_append, filter_flatMap_emittedAt lower, List.append_assoc]

/-! ## Programs that log -/

variable {S : Signature} {σ α : Type}

theorem collecting_agrees {low high : Level} (lower : low ≤ high) (environment : Environment S σ)
    (past : List Entry) :
    Environment.Agrees (collecting low environment) (collecting high environment) (fun _ => True)
      fun first second => first.1 = second.1 ∧ Quieter low past first.2 second.2 := by
  rintro (entry | request) - ⟨state, first⟩ ⟨_, second⟩ ⟨rfl, quieter⟩
  · have more := quieter.append lower [entry]
    rw [List.flatMap_singleton, List.flatMap_singleton] at more
    exact ⟨rfl, rfl, more⟩
  · exact ⟨rfl, rfl, quieter⟩

/-- The runs of a logging program at two thresholds come to the same result in the same state, make
the same requests, and leave related logs. -/
structure RunsAlike (low high : Level) (program : Program (Logged S) α)
    (environment : Environment S σ) (state : σ) (past : List Entry) : Prop where
  result : (program.run (collecting low environment) (state, past)).1 =
    (program.run (collecting high environment) (state, past)).1
  reached : (program.run (collecting low environment) (state, past)).2.1 =
    (program.run (collecting high environment) (state, past)).2.1
  requests : program.requests (collecting low environment) (state, past) =
    program.requests (collecting high environment) (state, past)
  emitted : Quieter low past (program.run (collecting low environment) (state, past)).2.2
    (program.run (collecting high environment) (state, past)).2.2

/-- Every logging program runs alike. -/
theorem runsAlike {low high : Level} (lower : low ≤ high) (program : Program (Logged S) α)
    (environment : Environment S σ) (state : σ) (past : List Entry) :
    RunsAlike low high program environment state past := by
  have agrees := collecting_agrees lower environment past
  have asks := Asks.anything program
  have start : (state, past).1 = (state, past).1 ∧
      Quieter low past (state, past).2 (state, past).2 := ⟨rfl, .refl low past⟩
  obtain ⟨result, reached, emitted⟩ := asks.run_agrees agrees start
  exact ⟨result, reached, asks.requests_agree agrees start, emitted⟩

end Log

/-! ## The rig of the main loop -/

namespace MainLoop.Rig

variable {η : Type}

/-- The rig with another log. -/
def withLog (rig : Rig η) (entries : List Log.Entry) : Rig η := { rig with emitted := entries }

/-- Two rigs that differ in their logs alone, and these are related. -/
def Quieter (threshold : Log.Level) (past : List Log.Entry) (first second : Rig η) : Prop :=
  ∃ kept, first = second.withLog kept ∧ Log.Quieter threshold past kept second.emitted

/-- The operation neither looks at the log nor changes it. -/
def IgnoresLog (operation : Rig η → Rig η) : Prop :=
  ∀ (rig : Rig η) (entries : List Log.Entry),
    operation (rig.withLog entries) = (operation rig).withLog entries

variable {threshold low high : Log.Level} {past : List Log.Entry} {first second : Rig η}

theorem Quieter.refl (threshold : Log.Level) (rig : Rig η) :
    Quieter threshold rig.emitted rig rig :=
  ⟨rig.emitted, rfl, .refl threshold rig.emitted⟩

theorem IgnoresLog.quieter {operation : Rig η → Rig η} (ignores : IgnoresLog operation)
    (quieter : Quieter threshold past first second) :
    Quieter threshold past (operation first) (operation second) := by
  obtain ⟨kept, rfl, related⟩ := quieter
  refine ⟨kept, ignores second kept, ?_⟩
  have same : operation second = (operation second).withLog second.emitted :=
    ignores second second.emitted
  rw [same]
  exact related

theorem Quieter.emit (lower : low ≤ high) (quieter : Quieter low past first second)
    (entries : List Log.Entry) :
    Quieter low past (first.emit low entries) (second.emit high entries) := by
  obtain ⟨kept, rfl, related⟩ := quieter
  exact ⟨_, rfl, related.append lower entries⟩

/-! ### What ignores the log -/

/-- Another log is another log with the handler's state as it is. -/
theorem withLog_eq (rig : Rig η) (entries : List Log.Entry) :
    rig.withLog entries = rig.withHandler rig.handlerState entries := rfl

theorem raise_ignoresLog (messages : List Message) :
    IgnoresLog fun rig : Rig η => rig.raise messages := by
  intro rig entries
  dsimp only
  rw [withLog_eq, withLog_eq, raise_withHandler, handlerState_raise]

theorem call_ignoresLog (call : CpuCall) : IgnoresLog fun rig : Rig η => rig.call call := by
  intro rig entries
  dsimp only
  rw [withLog_eq, withLog_eq, call_withHandler, handlerState_call]

/-! ### Operations at two thresholds -/

/-- What the loop asks of its surroundings during an operation. -/
def asked (threshold : Log.Level) (handler : Handler η) (rig : Rig η) :
    Operation → List (LoggedRequest Loop)
  | .cycle => MainLoop.cycle.requests (environment threshold handler) rig
  | .raise _ => []
  | .mask => []
  | .unmask => []
  | .onQueue _ => []

/-- What the loop asks of its surroundings during operations, in order. -/
def askedAlong (threshold : Log.Level) (handler : Handler η) (rig : Rig η) :
    List Operation → List (LoggedRequest Loop)
  | [] => []
  | operation :: rest =>
    rig.asked threshold handler operation ++
      (rig.perform threshold handler operation).2.askedAlong threshold handler rest

section TwoThresholds

variable (lower : low ≤ high) (handler : Handler η)
include lower

theorem environment_agrees (past : List Log.Entry) :
    Environment.Agrees (environment low handler) (environment high handler) (fun _ => True)
      (Quieter low past) := by
  rintro (entry | request) - first second quieter
  · exact ⟨rfl, quieter.emit lower [entry]⟩
  cases request with
  | disable => exact ⟨rfl, (call_ignoresLog .disable).quieter quieter⟩
  | enable => exact ⟨rfl, (call_ignoresLog .enable).quieter quieter⟩
  | enableAndHalt => exact ⟨rfl, (call_ignoresLog .enableAndHalt).quieter quieter⟩
  | pop =>
    obtain ⟨kept, rfl, related⟩ := quieter
    exact ⟨rfl, kept, rfl, related⟩
  | takeDropCount =>
    obtain ⟨kept, rfl, related⟩ := quieter
    exact ⟨rfl, kept, rfl, related⟩
  | handle type =>
    have sameState : first.handlerState = second.handlerState := by
      obtain ⟨kept, rfl, -⟩ := quieter
      rfl
    let outcome := handler.handle type second.handlerState
    have raised := (raise_ignoresLog outcome.1.raised).quieter quieter
    have emitted := raised.emit lower outcome.1.logged
    dsimp only [environment]
    rw [sameState]
    refine ⟨rfl, ?_⟩
    obtain ⟨kept, same, related⟩ := emitted
    exact ⟨kept, congrArg (fun rig : Rig η => { rig with handlerState := outcome.2 }) same, related⟩

/-- An operation has the same reply at two thresholds, makes the same requests, and leads to rigs
that differ in their logs alone. -/
theorem perform_quieter (quieter : Quieter low past first second) (operation : Operation) :
    (first.perform low handler operation).1 = (second.perform high handler operation).1 ∧
      Quieter low past (first.perform low handler operation).2
        (second.perform high handler operation).2 ∧
      first.asked low handler operation = second.asked high handler operation := by
  cases operation with
  | cycle =>
    have agrees := environment_agrees lower handler past
    have asks := Asks.anything MainLoop.cycle
    have requests := asks.requests_agree agrees quieter
    obtain ⟨same, still⟩ : (first.cycle low handler).1 = (second.cycle high handler).1 ∧
        Quieter low past (first.cycle low handler).2 (second.cycle high handler).2 :=
      asks.run_agrees agrees quieter
    rcases ranLow : first.cycle low handler with ⟨result, reached⟩
    rcases ranHigh : second.cycle high handler with ⟨_, last⟩
    rw [ranLow, ranHigh] at same still
    cases same
    simp only [perform, ranLow, ranHigh]
    cases result with
    | ok outcome => exact ⟨rfl, still, requests⟩
    | error stop => exact ⟨rfl, still, requests⟩
  | raise messages => exact ⟨rfl, (raise_ignoresLog messages).quieter quieter, rfl⟩
  | mask => exact ⟨rfl, (call_ignoresLog .disable).quieter quieter, rfl⟩
  | unmask => exact ⟨rfl, (call_ignoresLog .enable).quieter quieter, rfl⟩
  | onQueue operation =>
    obtain ⟨kept, rfl, related⟩ := quieter
    exact ⟨rfl, ⟨kept, rfl, related⟩, rfl⟩

/-- Operations have the same replies at two thresholds, make the same requests, and lead to rigs
that differ in their logs alone. -/
theorem performAll_quieter (quieter : Quieter low past first second)
    (operations : List Operation) :
    (first.performAll low handler operations).1 = (second.performAll high handler operations).1 ∧
      Quieter low past (first.performAll low handler operations).2
        (second.performAll high handler operations).2 ∧
      first.askedAlong low handler operations = second.askedAlong high handler operations := by
  induction operations generalizing first second with
  | nil => exact ⟨rfl, quieter, rfl⟩
  | cons operation rest ih =>
    obtain ⟨reply_eq, next, asked_eq⟩ := perform_quieter lower handler quieter operation
    obtain ⟨replies_eq, reached, later_eq⟩ := ih next
    refine ⟨?_, reached, ?_⟩
    · exact congrArg₂ List.cons reply_eq replies_eq
    · exact congrArg₂ List.append asked_eq later_eq

end TwoThresholds

end MainLoop.Rig

/-! ## Requests besides the log -/

/-- The request, unless it is an entry for the log. -/
def LoggedRequest.plain? {S : Signature} : LoggedRequest S → Option S.Request
  | .log _ => none
  | .plain request => some request

namespace Log

variable {S : Signature} {σ α β : Type} {threshold : Level} {environment : Environment S σ}

/-- What a run asks besides handing over entries, in order. -/
def plainRequests (threshold : Level) (environment : Environment S σ)
    (program : Program (Logged S) α) (state : σ) (past : List Entry) : List S.Request :=
  (program.requests (collecting threshold environment) (state, past)).filterMap
    LoggedRequest.plain?

theorem plainRequests_bind_ok {program : Program (Logged S) α} {state reached : σ}
    {past entries : List Entry} {value : α}
    (first : program.run (collecting threshold environment) (state, past) =
      (.ok value, (reached, entries)))
    (next : α → Program (Logged S) β) :
    plainRequests threshold environment (program.bind next) state past =
      plainRequests threshold environment program state past ++
        plainRequests threshold environment (next value) reached entries := by
  rw [plainRequests, Program.requests_bind_ok first, List.filterMap_append]
  rfl

/-- A request that is passed on besides the log. -/
def passOn (request : S.Request) : Program (Logged S) (S.Answer request) :=
  .ask (LoggedRequest.plain request) .done

/-- What is passed on is answered as before, and the log stays as it is. -/
theorem through_passOn_agrees (threshold : Level) (environment : Environment S σ)
    (past : List Entry) :
    Environment.Agrees (Program.through passOn (collecting threshold environment)) environment
      (fun _ => True) fun first second => first = (second, past) := by
  rintro request - _ state rfl
  simp only [Program.through, passOn, Program.run, collecting]
  rcases environment request state with ⟨stop | answer, reached⟩
  · exact ⟨rfl, rfl⟩
  · exact ⟨rfl, rfl⟩

theorem run_quiet (program : Program S α) (state : σ) (past : List Entry) :
    program.quiet.run (collecting threshold environment) (state, past) =
      ((program.run environment state).1, ((program.run environment state).2, past)) := by
  obtain ⟨same, still⟩ := (Asks.anything program).run_agrees
    (through_passOn_agrees threshold environment past) rfl
  rw [Program.quiet, Program.run_interpret]
  exact Prod.ext same still

/-- A quiet program asks what it would ask without a log. -/
theorem plainRequests_quiet (program : Program S α) (state : σ) (past : List Entry) :
    plainRequests threshold environment program.quiet state past =
      program.requests environment state := by
  have same : program.requests (Program.through passOn (collecting threshold environment))
      (state, past) = program.requests environment state :=
    (Asks.anything program).requests_agree (through_passOn_agrees threshold environment past) rfl
  have passed : program.quiet.requests (collecting threshold environment) (state, past) =
      (program.requests environment state).flatMap fun request => [.plain request] := by
    rw [← same]
    refine Program.requests_interpret (fun request reached => ?_) program (state, past)
    simp only [Program.requests, Program.moments]
    split <;> rfl
  rw [plainRequests, passed]
  induction program.requests environment state with
  | nil => rfl
  | cons request rest ih => exact congrArg (List.cons request) ih

end Log

namespace Boot

open Pci

variable {σ : Type} {environment : Environment ConfigRead σ}
  (serves : environment.Serves fun _ => True) (threshold : Log.Level)
include serves

/-- The listing of functions reads the vendor of each, in order. -/
theorem requests_listDevices (devices : List Device) (state : σ) (past : List Log.Entry) :
    (∃ reached, (listDevices devices).run (Log.collecting threshold environment) (state, past) =
      (.ok (), reached)) ∧
    Log.plainRequests threshold environment (listDevices devices) state past =
      devices.map fun device => ⟨device.address, vendorOffset⟩ := by
  induction devices generalizing state past with
  | nil => exact ⟨⟨_, rfl⟩, rfl⟩
  | cons device rest ih =>
    let register : ConfigRegister := ⟨device.address, vendorOffset⟩
    obtain ⟨content, read, answered⟩ := serves register trivial state
    have vendor : (readVendor device.address).run environment state =
        (.ok content.toUInt16, read) := by
      simp only [readVendor, Pci.read, Program.request, Program.bind_eq, Program.bind, Program.run]
      rw [answered]
      rfl
    have asked : (readVendor device.address).requests environment state = [register] := by
      simp only [readVendor, Pci.read, Program.request, Program.bind_eq, Program.bind,
        Program.requests, Program.moments]
      rw [answered]
      rfl
    have first := @Log.run_quiet _ _ _ threshold environment (readVendor device.address) state past
    rw [vendor] at first
    let entry : Log.Entry := ⟨.debug, listing device content.toUInt16⟩
    obtain ⟨⟨reached, ran⟩, later⟩ := ih read (past ++ entry.emittedAt threshold)
    rw [listDevices, Program.bind_eq, Log.plainRequests_bind_ok first, Log.plainRequests_quiet,
      Program.run_bind_ok first, asked, List.map_cons]
    refine ⟨⟨reached, ran⟩, ?_⟩
    exact congrArg (List.cons register) later

/-- Taking the inventory enumerates the buses and then reads the vendor of every function that was
found, at every threshold. -/
theorem requests_takeInventory (state : σ) (past : List Log.Entry) :
    ∃ result inventory scanned,
      enumerateBuses.run environment state = (.ok (result, inventory), scanned) ∧
      (∃ reached, takeInventory.run (Log.collecting threshold environment) (state, past) =
        (.ok inventory, reached)) ∧
      Log.plainRequests threshold environment takeInventory state past =
        enumerateBuses.requests environment state ++
          inventory.devices.map fun device => ⟨device.address, vendorOffset⟩ := by
  obtain ⟨⟨result, inventory⟩, scanned, ran, -⟩ :=
    (enumerateInto_concludes .empty).run_ok serves state
  refine ⟨result, inventory, scanned, ran, ?_⟩
  have first := @Log.run_quiet _ _ _ threshold environment enumerateBuses state past
  rw [enumerateBuses, ran, ← enumerateBuses] at first
  rw [takeInventory, Program.bind_eq, Log.plainRequests_bind_ok first, Log.plainRequests_quiet,
    Program.run_bind_ok first]
  -- Reporting the result hands over entries and asks nothing; so only the listing is left.
  have listed : ∀ entries : List Log.Entry,
      (∃ reached, ((listDevices inventory.devices).bind fun _ => .done inventory).run
        (Log.collecting threshold environment) (scanned, entries) = (.ok inventory, reached)) ∧
      Log.plainRequests threshold environment
          ((listDevices inventory.devices).bind fun _ => .done inventory) scanned entries =
        inventory.devices.map fun device => ⟨device.address, vendorOffset⟩ := by
    intro entries
    obtain ⟨⟨reached, ends⟩, asked⟩ :=
      requests_listDevices serves threshold inventory.devices scanned entries
    refine ⟨⟨reached, Program.run_bind_ok ends _⟩, ?_⟩
    rw [Log.plainRequests_bind_ok ends, asked]
    exact List.append_nil _
  cases result with
  | error kind =>
    obtain ⟨ends, asked⟩ := listed _
    exact ⟨ends, congrArg (List.append _) asked⟩
  | ok _ =>
    obtain ⟨ends, asked⟩ := listed _
    exact ⟨ends, congrArg (List.append _) asked⟩

end Boot

/-! ## The threshold changes nothing but the log -/

open MainLoop (Rig Handler)

/-- **The threshold never influences what happens.**  At two thresholds, taking the inventory and
preparing the controller come to the same result in the same state and make the same requests;
operations at the rig of the main loop have the same replies, make the same requests, and lead to
the same rig but for the log.  The lower threshold keeps the entries kept at the higher one that
pass it.  And at every threshold the vendor of each function that was found is read again, for the
listing. -/
theorem threshold_changes_only_the_log {low high : Log.Level} (lower : low ≤ high) :
    (∀ {σ : Type} (environment : Environment Pci.ConfigRead σ) (state : σ)
      (past : List Log.Entry),
      Log.RunsAlike low high Boot.takeInventory environment state past) ∧
    (∀ (inventory : Pci.Inventory) (apicId : UInt8) {σ : Type}
      (environment : Environment Boot.Setup σ) (state : σ) (past : List Log.Entry),
      Log.RunsAlike low high (Boot.prepare inventory apicId) environment state past) ∧
    (∀ {η : Type} (handler : Handler η) (rig : Rig η) (operations : List Rig.Operation),
      (rig.performAll low handler operations).1 = (rig.performAll high handler operations).1 ∧
        Rig.Quieter low rig.emitted (rig.performAll low handler operations).2
          (rig.performAll high handler operations).2 ∧
        rig.askedAlong low handler operations = rig.askedAlong high handler operations) ∧
    ∀ (threshold : Log.Level) {σ : Type} (environment : Environment Pci.ConfigRead σ),
      environment.Serves (fun _ => True) → ∀ (state : σ) (past : List Log.Entry),
        ∃ result inventory scanned,
          Pci.enumerateBuses.run environment state = (.ok (result, inventory), scanned) ∧
          (∃ reached, Boot.takeInventory.run (Log.collecting threshold environment)
            (state, past) = (.ok inventory, reached)) ∧
          Log.plainRequests threshold environment Boot.takeInventory state past =
            Pci.enumerateBuses.requests environment state ++
              inventory.devices.map fun device => ⟨device.address, Pci.vendorOffset⟩ := by
  refine ⟨?_, ?_, ?_, ?_⟩
  · intro σ environment state past
    exact Log.runsAlike lower _ environment state past
  · intro inventory apicId σ environment state past
    exact Log.runsAlike lower _ environment state past
  · intro η handler rig operations
    exact Rig.performAll_quieter lower handler (.refl low rig) operations
  · intro threshold σ environment serves state past
    exact Boot.requests_takeInventory serves threshold state past

/-- The most quiet threshold and the most talkative one, on a board with a controller behind the
host bridge, and for a queue that turns a message away before the handler fails. -/
theorem threshold_changes_only_the_log_error_debug :
    let host : Pci.FunctionImage := ⟨⟨0, 0, 0⟩, 0x8086, 0x1237, ⟨0x06, 0x00, 0x00⟩, 0, []⟩
    let controller : Pci.FunctionImage :=
      ⟨⟨0, 3, 0⟩, 0x1b36, 0x000d, ⟨0x0c, 0x03, 0x30⟩, 0, [(Pci.firstBarOffset, 0xfebf0004)]⟩
    let file := Pci.RegisterFile.ofList [host, controller]
    let inventory := Pci.Inventory.ofList [⟨⟨0, 3, 0⟩, 0, ⟨0x0c, 0x03, 0x30⟩⟩]
    let handler : Handler Nat := .scripted [some .notFound] []
    let rig := Rig.start (.ofCapacity 1) 0
    let operations : List Rig.Operation := [.raise [⟨0⟩, ⟨1⟩], .cycle]
    Log.Level.error ≤ Log.Level.debug ∧
      Log.RunsAlike .error .debug Boot.takeInventory Pci.RegisterFile.readEnvironment file [] ∧
      Log.RunsAlike .error .debug (Boot.prepare inventory 0) Boot.Rehearsal.environment
        (.start file) [] ∧
      (rig.performAll .error handler operations).2.emitted.length = 1 ∧
      (rig.performAll .debug handler operations).2.emitted.length = 2 ∧
      Rig.Quieter .error [] (rig.performAll .error handler operations).2
        (rig.performAll .debug handler operations).2 ∧
      ∃ result inventory scanned,
        Pci.enumerateBuses.run Pci.RegisterFile.readEnvironment file =
          (.ok (result, inventory), scanned) ∧
        (∃ reached, Boot.takeInventory.run
          (Log.collecting .error Pci.RegisterFile.readEnvironment) (file, []) =
            (.ok inventory, reached)) ∧
        Log.plainRequests .error Pci.RegisterFile.readEnvironment Boot.takeInventory file [] =
          Pci.enumerateBuses.requests Pci.RegisterFile.readEnvironment file ++
            inventory.devices.map fun device => ⟨device.address, Pci.vendorOffset⟩ := by
  intro host controller file inventory handler rig operations
  have lower : Log.Level.error ≤ Log.Level.debug := by decide
  have serves : Pci.RegisterFile.readEnvironment.Serves fun _ => True := by
    intro register _ file
    exact ⟨file.content register, _, rfl⟩
  obtain ⟨taken, prepared, performed, listed⟩ := threshold_changes_only_the_log lower
  refine ⟨lower, taken _ file [], prepared inventory 0 _ _ [], by decide, by decide,
    (performed handler rig operations).2.1, ?_⟩
  exact listed .error _ serves file []

end KernelStart
