import KernelStart.MainLoop.DropReport
import KernelStart.Program.Requests
import KernelStart.Proofs.MessageConservation

/-!
# Dropped messages are all reported, and before the loop sleeps

A full queue turns messages away at three places: where they arrive while interrupts are
enabled, where a masked burst is let in, and where a handler raises more of them.  The loop
takes the count of them in between, once in each cycle that handles a message.

The numbers stay in balance through all of this (`DropsCounted`): what the log reports and
what is still counted are together the messages turned away.  The fact that keeps the loop
from sleeping on an unreported count is another one (`DropsWhileFull`): a count that is not
zero means a full queue.  A cycle breaks it when it takes a message, and restores it when it
takes the count; a cycle that finds the queue empty takes neither.
-/

set_option autoImplicit false

namespace KernelStart.MainLoop.Rig

open Log (dropsIn)

variable {η : Type} {written : Nat} {rig : Rig η}

/-- What the log reports and what is still counted are the messages turned away, and what the
handler has written itself in the words of a report. -/
def DropsCounted (written : Nat) (rig : Rig η) : Prop :=
  dropsIn rig.emitted + rig.queue.dropped = rig.rejected + written

/-- Messages are counted as dropped only while the queue is full. -/
def DropsWhileFull (rig : Rig η) : Prop :=
  0 < rig.queue.dropped → rig.queue.isFull = true

theorem DropsCounted.congr {other : Rig η} (counted : rig.DropsCounted written)
    (emitted_eq : other.emitted = rig.emitted) (queue_eq : other.queue = rig.queue)
    (arrivals_eq : other.arrivals = rig.arrivals) : other.DropsCounted written := by
  rw [DropsCounted, rejected, emitted_eq, queue_eq, arrivals_eq]
  exact counted

/-! ## Messages that arrive at the queue -/

theorem dropped_offer (rig : Rig η) (message : Message) :
    (rig.offer message).queue.dropped =
      rig.queue.dropped + if rig.queue.isFull then 1 else 0 := by
  rw [offer, MessageQueue.push]
  cases rig.queue.isFull <;> rfl

theorem rejected_offer (rig : Rig η) (message : Message) :
    (rig.offer message).rejected = rig.rejected + if rig.queue.isFull then 1 else 0 := by
  rw [rejected, arrivals_offer, List.countP_cons, Bool.not_not]
  rfl

/-- A message that arrives is either counted and turned away or neither. -/
theorem DropsCounted.offer (counted : rig.DropsCounted written) (message : Message) :
    (rig.offer message).DropsCounted written := by
  have before : dropsIn rig.emitted + rig.queue.dropped = rig.rejected + written := counted
  have emitted_eq : (rig.offer message).emitted = rig.emitted := rfl
  rw [DropsCounted, dropped_offer, rejected_offer, emitted_eq]
  omega

/-- A queue that has room counts nothing, and a full one stays full. -/
theorem DropsWhileFull.offer (full : rig.DropsWhileFull) (message : Message) :
    (rig.offer message).DropsWhileFull := by
  intro dropped
  cases isFull : rig.queue.isFull with
  | true =>
    have queue_eq : (rig.offer message).queue =
        { rig.queue with dropped := rig.queue.dropped + 1 } := by
      rw [Rig.offer, MessageQueue.push, if_pos isFull]
    rw [queue_eq]
    exact isFull
  | false =>
    rw [dropped_offer, isFull] at dropped
    exact absurd (full dropped) (by rw [isFull]; decide)

theorem DropsCounted.offerAll (counted : rig.DropsCounted written) (messages : List Message) :
    (rig.offerAll messages).DropsCounted written := by
  induction messages generalizing rig with
  | nil => exact counted
  | cons message rest ih => exact ih (counted.offer message)

theorem DropsWhileFull.offerAll (full : rig.DropsWhileFull) (messages : List Message) :
    (rig.offerAll messages).DropsWhileFull := by
  induction messages generalizing rig with
  | nil => exact full
  | cons message rest ih => exact ih (full.offer message)

/-! ## The stages of a cycle -/

theorem DropsCounted.raise (counted : rig.DropsCounted written) (messages : List Message) :
    (rig.raise messages).DropsCounted written := by
  have noted : DropsCounted written
      { rig with raised := messages.reverse ++ rig.raised } := counted
  unfold Rig.raise
  split
  · exact noted.offerAll messages
  · exact noted.congr rfl rfl rfl

theorem DropsWhileFull.raise (full : rig.DropsWhileFull) (messages : List Message) :
    (rig.raise messages).DropsWhileFull := by
  have noted : DropsWhileFull { rig with raised := messages.reverse ++ rig.raised } := full
  unfold Rig.raise
  split
  · exact noted.offerAll messages
  · exact full

theorem DropsCounted.call (counted : rig.DropsCounted written) (call : CpuCall) :
    (rig.call call).DropsCounted written := by
  cases call with
  | disable => exact counted
  | enable => exact counted.offerAll rig.waiting
  | enableAndHalt => exact counted.offerAll rig.waiting

theorem DropsWhileFull.call (full : rig.DropsWhileFull) (call : CpuCall) :
    (rig.call call).DropsWhileFull := by
  cases call with
  | disable => exact full
  | enable => exact full.offerAll rig.waiting
  | enableAndHalt => exact full.offerAll rig.waiting

theorem DropsCounted.afterPop (counted : rig.DropsCounted written) :
    rig.afterPop.DropsCounted written := by
  have dropped_eq : rig.afterPop.queue.dropped = rig.queue.dropped := by
    rw [Rig.afterPop, MessageQueue.pop]
    split <;> rfl
  rw [DropsCounted, dropped_eq]
  exact counted

/-- Entries on the log add what they report. -/
theorem DropsCounted.emit (counted : rig.DropsCounted written) (threshold : Log.Level)
    (entries : List Log.Entry) :
    (rig.emit threshold entries).DropsCounted
      (written + dropsIn (entries.flatMap (·.emittedAt threshold))) := by
  have before : dropsIn rig.emitted + rig.queue.dropped = rig.rejected + written := counted
  have same : (rig.emit threshold entries).rejected = rig.rejected := rfl
  rw [DropsCounted, same, Rig.emit, Log.dropsIn_append]
  dsimp only
  omega

/-- An entry that is no warning adds nothing. -/
theorem DropsCounted.emit_other (counted : rig.DropsCounted written) (threshold : Log.Level)
    {entry : Log.Entry} (other : entry.level ≠ .warn) :
    (rig.emit threshold [entry]).DropsCounted written := by
  have nothing : dropsIn ([entry].flatMap (·.emittedAt threshold)) = 0 := by
    rw [List.flatMap_cons, List.flatMap_nil, List.append_nil, Log.Entry.emittedAt, dropsIn]
    split
    · rw [List.filterMap_cons_none (Log.Entry.reportedDrops_of_ne_warn other)]
      rfl
    · rfl
  have emitted := counted.emit threshold [entry]
  rw [nothing] at emitted
  exact emitted

/-- The report moves the count to the log, at every threshold that lets warnings through. -/
theorem DropsCounted.afterReport (counted : rig.DropsCounted written) {threshold : Log.Level}
    (reports : Log.Level.warn ≤ threshold) :
    (rig.afterReport threshold).DropsCounted written := by
  have before : dropsIn rig.emitted + rig.queue.dropped = rig.rejected + written := counted
  unfold Rig.afterReport
  split
  · have passes : Log.Level.passes .warn threshold = true := decide_eq_true reports
    have shown : (Log.dropReport rig.queue.dropped).emittedAt threshold =
        [Log.dropReport rig.queue.dropped] := if_pos passes
    have reported : dropsIn [Log.dropReport rig.queue.dropped] = rig.queue.dropped := by
      rw [dropsIn, List.filterMap_cons_some (Log.Entry.reportedDrops_dropReport _)]
      rfl
    have emitted_eq : dropsIn (rig.emitted ++ [Log.dropReport rig.queue.dropped].flatMap
        (·.emittedAt threshold)) = dropsIn rig.emitted + rig.queue.dropped := by
      rw [List.flatMap_cons, List.flatMap_nil, List.append_nil, shown, Log.dropsIn_append,
        reported]
    exact (congrArg (· + 0) emitted_eq).trans before
  · next none =>
    have zero : rig.queue.dropped = 0 := Nat.eq_zero_of_not_pos none
    rw [zero] at before
    exact before

/-- Where the count was taken nothing is counted. -/
theorem dropped_afterReport (rig : Rig η) (threshold : Log.Level) :
    (rig.afterReport threshold).queue.dropped = 0 := by
  unfold Rig.afterReport
  split <;> rfl

theorem DropsWhileFull.afterReport (rig : Rig η) (threshold : Log.Level) :
    (rig.afterReport threshold).DropsWhileFull := by
  intro dropped
  rw [dropped_afterReport] at dropped
  cases dropped

/-- What a handler writes when a message is handed over. -/
def entriesFor (threshold : Log.Level) (handler : Handler η) (rig : Rig η)
    (message : Message) : List Log.Entry :=
  match message.type? with
  | none => []
  | some type => (handler.handle type rig.handlerState).1.logged.flatMap (·.emittedAt threshold)

theorem DropsCounted.afterDelivery (counted : rig.DropsCounted written) (threshold : Log.Level)
    (handler : Handler η) (message : Message) :
    (rig.afterDelivery threshold handler message).DropsCounted
      (written + dropsIn (rig.entriesFor threshold handler message)) := by
  have called (type : MessageKind) : (rig.afterCall threshold handler type).DropsCounted
      (written + dropsIn ((handler.handle type rig.handlerState).1.logged.flatMap
        (·.emittedAt threshold))) :=
    ((counted.raise _).emit threshold _).congr rfl rfl rfl
  have noWarning : Log.Level.error ≠ Log.Level.warn := by decide
  unfold Rig.afterDelivery entriesFor
  cases message.type? with
  | none => exact counted.emit_other threshold noWarning
  | some type =>
    dsimp only
    cases (handler.handle type rig.handlerState).1.result with
    | ok _ => exact called type
    | error _ => exact (called type).emit_other threshold noWarning

theorem DropsWhileFull.afterDelivery (full : rig.DropsWhileFull) (threshold : Log.Level)
    (handler : Handler η) (message : Message) :
    (rig.afterDelivery threshold handler message).DropsWhileFull := by
  have called (type : MessageKind) : (rig.afterCall threshold handler type).DropsWhileFull :=
    full.raise (handler.handle type rig.handlerState).1.raised
  unfold Rig.afterDelivery
  split
  · exact full
  · next type _ =>
    split
    · exact called type
    · exact called type

/-! ## A whole history -/

theorem writes_cycle {threshold : Log.Level} {handler : Handler η} {message : Message}
    {rest : List Message} (front : rig.queue.toList = message :: rest) :
    rig.writes threshold handler .cycle =
      (((rig.call .disable).afterPop.call .enable).afterReport threshold).entriesFor
        threshold handler message := by
  rw [writes, front, entriesFor, handlerState_afterReport, handlerState_call]
  rfl

/-- Each stimulus keeps the numbers in balance. -/
theorem DropsCounted.perform (counted : rig.DropsCounted written) {threshold : Log.Level}
    (reports : Log.Level.warn ≤ threshold) (handler : Handler η) (stimulus : Stimulus) :
    (rig.perform threshold handler stimulus.operation).2.DropsCounted
      (written + dropsIn (rig.writes threshold handler stimulus)) := by
  cases stimulus with
  | cycle =>
    have taken := (counted.call .disable).afterPop
    rw [Stimulus.operation, Rig.perform]
    cases queued : rig.queue.toList with
    | nil =>
      have silent : rig.writes threshold handler .cycle = [] := by rw [writes, queued]; rfl
      rw [cycle_of_empty threshold handler queued, silent]
      exact taken.call .enableAndHalt
    | cons message rest =>
      rw [cycle_of_front threshold handler queued, writes_cycle queued]
      exact ((taken.call .enable).afterReport reports).afterDelivery threshold handler message
  | raise messages => exact counted.raise messages
  | mask => exact counted.call .disable
  | unmask => exact counted.call .enable

/-- After each stimulus messages are counted as dropped only while the queue is full. -/
theorem DropsWhileFull.perform (full : rig.DropsWhileFull) (threshold : Log.Level)
    (handler : Handler η) (stimulus : Stimulus) :
    (rig.perform threshold handler stimulus.operation).2.DropsWhileFull := by
  cases stimulus with
  | cycle =>
    rw [Stimulus.operation, Rig.perform]
    cases queued : rig.queue.toList with
    | nil =>
      rw [cycle_of_empty threshold handler queued]
      have kept : (rig.call .disable).afterPop.DropsWhileFull := by
        have queue_eq : (rig.call .disable).afterPop.queue = rig.queue :=
          MessageQueue.pop_eq_self_of_empty queued
        rw [DropsWhileFull, queue_eq]
        exact full
      exact kept.call .enableAndHalt
    | cons message rest =>
      -- What was taken may leave room under a count; the count is taken before anything else
      -- can see it.
      rw [cycle_of_front threshold handler queued]
      exact (DropsWhileFull.afterReport _ threshold).afterDelivery threshold handler message
  | raise messages => exact full.raise messages
  | mask => exact full.call .disable
  | unmask => exact full.call .enable

theorem DropsCounted.live (counted : rig.DropsCounted written) {threshold : Log.Level}
    (reports : Log.Level.warn ≤ threshold) (handler : Handler η) (history : List Stimulus) :
    (rig.live threshold handler history).2.DropsCounted
      (written + dropsIn (rig.writtenAlong threshold handler history)) := by
  induction history generalizing rig written with
  | nil => exact counted
  | cons stimulus rest ih =>
    have later := ih (counted.perform reports handler stimulus)
    rw [Nat.add_assoc, ← Log.dropsIn_append] at later
    exact later

theorem DropsWhileFull.live (full : rig.DropsWhileFull) (threshold : Log.Level)
    (handler : Handler η) (history : List Stimulus) :
    (rig.live threshold handler history).2.DropsWhileFull := by
  induction history generalizing rig with
  | nil => exact full
  | cons stimulus rest ih => exact ih (full.perform threshold handler stimulus)

/-! ## The moment before the processor sleeps -/

/-- Any request but the one that puts the processor to sleep. -/
def KeepsAwake (request : (Logged Loop).Request) : Prop := request ≠ .plain .enableAndHalt

theorem keepsAwake_log (entry : Log.Entry) : KeepsAwake (.log entry) := nofun

/-- What a cycle does with what it found in the queue. -/
def goOn : Option Message → Program (Logged Loop) Outcome
  | none => do
    ask .enableAndHalt
    pure .idle
  | some message => do
    ask .enable
    reportDropped (← ask .takeDropCount)
    MainLoop.deliver message
    pure (.handled message)

/-- A cycle that has taken a message does not put the processor to sleep any more. -/
theorem goOn_asks (message : Message) : (goOn (some message)).Asks KeepsAwake := by
  have reporting (count : Nat) : (reportDropped count).Asks KeepsAwake := by
    unfold reportDropped
    split
    · exact .request (keepsAwake_log _)
    · trivial
  have delivering : (MainLoop.deliver message).Asks KeepsAwake := by
    unfold MainLoop.deliver
    cases message.type? with
    | none => exact .request (keepsAwake_log _)
    | some type =>
      refine ⟨nofun, fun result _ => ?_⟩
      cases result with
      | ok _ => trivial
      | error _ => exact ⟨keepsAwake_log _, fun _ _ => trivial⟩
  refine ⟨nofun, fun _ _ => ⟨nofun, fun count _ => (reporting count).bind fun _ => ?_⟩⟩
  exact delivering.bind fun _ => trivial

/-- A cycle masks interrupts, takes from the queue, and goes on with what it found. -/
theorem moments_cycle (rig : Rig η) (threshold : Log.Level) (handler : Handler η) :
    MainLoop.cycle.moments (environment threshold handler) rig =
      ⟨.plain .disable, rig⟩ :: ⟨.plain .pop, rig.call .disable⟩ ::
        (goOn rig.queue.pop.1).moments (environment threshold handler)
          (rig.call .disable).afterPop := rfl

/-- Where the processor is put to sleep, no dropped message is counted. -/
theorem dropped_at_halt (full : rig.DropsWhileFull) (positive : 0 < rig.queue.capacity)
    (threshold : Log.Level) (handler : Handler η) :
    ∀ moment ∈ MainLoop.cycle.moments (environment threshold handler) rig,
      moment.request = .plain .enableAndHalt → moment.state.queue.dropped = 0 := by
  intro moment made halts
  cases queued : rig.queue.toList with
  | nil =>
    have notFull : rig.queue.isFull ≠ true := by
      rw [Ne, MessageQueue.isFull_iff, queued]
      exact Nat.not_le.2 positive
    have zero : rig.queue.dropped = 0 :=
      Nat.eq_zero_of_not_pos fun dropped => notFull (full dropped)
    have queue_eq : (rig.call .disable).afterPop.queue = rig.queue :=
      MessageQueue.pop_eq_self_of_empty queued
    rw [moments_cycle, MessageQueue.pop_of_empty queued] at made
    rcases List.mem_cons.1 made with rfl | made
    · exact zero
    rcases List.mem_cons.1 made with rfl | made
    · exact zero
    obtain rfl := List.mem_singleton.1 made
    exact (congrArg MessageQueue.dropped queue_eq).trans zero
  | cons message _ =>
    rw [moments_cycle, MessageQueue.pop_of_front queued] at made
    rcases List.mem_cons.1 made with rfl | made
    · cases halts
    rcases List.mem_cons.1 made with rfl | made
    · cases halts
    exact absurd halts ((goOn_asks message).of_mem_moments made)

/-- **Dropped messages are accounted for, and none is unreported when the loop sleeps.**  After
any history of a loop whose log lets warnings through: a count of dropped messages that is not
zero means that the queue holds exactly as many as it can; a cycle that puts the processor to
sleep does so with the count at zero; and the numbers in the reports on the log, together with
the count, are the messages turned away so far, not counting what the handler has written itself
in the words of a report. -/
theorem live_accounts_drops {capacity : Nat} (positive : 0 < capacity) {threshold : Log.Level}
    (reports : Log.Level.warn ≤ threshold) (handler : Handler η) (handlerState : η)
    (history : List Stimulus) :
    let before := start (.ofCapacity capacity) handlerState
    let rig := (before.live threshold handler history).2
    (0 < rig.queue.dropped → rig.queue.toList.length = capacity) ∧
      (∀ moment ∈ MainLoop.cycle.moments (environment threshold handler) rig,
        moment.request = .plain .enableAndHalt → moment.state.queue.dropped = 0) ∧
      dropsIn rig.emitted + rig.queue.dropped =
        rig.rejected + dropsIn (before.writtenAlong threshold handler history) := by
  let before := start (.ofCapacity capacity) handlerState
  have account := ((balanced_start capacity handlerState).live threshold handler history).ofQueue
  have nothing : before.DropsWhileFull := fun dropped => nomatch dropped
  have full := nothing.live threshold handler history
  have counted : before.DropsCounted 0 := rfl
  refine ⟨fun dropped => ?_, ?_, ?_⟩
  · have holds := (MessageQueue.isFull_iff _).1 (full dropped)
    rw [account.capacity_eq] at holds
    exact Nat.le_antisymm account.within holds
  · exact dropped_at_halt full (account.capacity_eq ▸ positive) threshold handler
  · have sum := counted.live reports handler history
    rw [Nat.zero_add] at sum
    exact sum

/-- Messages are turned away on arrival, out of a masked window and while the handler runs.  The
report in between names the first two, and the count the other two. -/
theorem live_accounts_drops_of_three_bursts :
    let handler : Handler Nat := .scripted [] [[⟨0⟩, ⟨0⟩]]
    let history : List Stimulus :=
      [.raise [⟨0⟩, ⟨1⟩, ⟨2⟩], .mask, .raise [⟨3⟩, ⟨4⟩], .cycle]
    let rig := ((start (.ofCapacity 2) 0).live .warn handler history).2
    rig.rejected = 4 ∧ rig.queue.dropped = 2 ∧ rig.queue.toList.length = 2 ∧
      dropsIn rig.emitted = 2 := by
  intro handler history rig
  obtain ⟨full, -, sum⟩ := live_accounts_drops (by decide : 0 < 2)
    (by decide : Log.Level.warn ≤ Log.Level.warn) handler 0 history
  have rejected_eq : rig.rejected = 4 := by decide
  have dropped_eq : rig.queue.dropped = 2 := by decide
  have quiet : dropsIn ((start (.ofCapacity 2) 0).writtenAlong .warn handler history) = 0 := rfl
  refine ⟨rejected_eq, dropped_eq, full (by decide), ?_⟩
  have balance : dropsIn rig.emitted + rig.queue.dropped = rig.rejected + 0 := quiet ▸ sum
  omega

end KernelStart.MainLoop.Rig
