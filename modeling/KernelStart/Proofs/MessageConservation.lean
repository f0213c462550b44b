import KernelStart.Proofs.RigFrames

/-!
# No message is lost, duplicated or reordered

Interrupts come at any time: at the queue while they are enabled, among the waiting while
they are masked, and from there to the queue in one burst when they are enabled again,
which may overflow the queue halfway.  Handlers raise more of them.

Two accounts are kept in balance by everything that happens (`Balanced`).  The account of
the queue says that the messages it accepted are those that were handled, followed by
those still queued.  The account of the interrupts says that all raised messages have
arrived at the queue, in order, but for those that wait; and that none wait while
interrupts are enabled, without which a message raised later could overtake them.
-/

set_option autoImplicit false

namespace KernelStart.MainLoop.Rig

variable {η : Type} {capacity : Nat} {handled : List Message}

/-! ## The two accounts -/

/-- The account of the queue: what it accepted was handled or is still queued, and it turned
messages away only when it was full. -/
structure QueueAccount (capacity : Nat) (handled : List Message) (rig : Rig η) : Prop where
  capacity_eq : rig.queue.capacity = capacity
  within : rig.queue.toList.length ≤ capacity
  accepted_eq : rig.accepted = handled ++ rig.queue.toList
  rejected_iff : ∀ arrival ∈ rig.arrivals, arrival.accepted = false ↔ arrival.found = capacity

/-- The account of the interrupts: what was raised has arrived at the queue or waits, and nothing
waits while interrupts are enabled. -/
structure InterruptAccount (rig : Rig η) : Prop where
  raised_eq : rig.raised.reverse = rig.arrived ++ rig.waiting
  waiting_eq : rig.enabled = true → rig.waiting = []

/-- Both accounts are in order. -/
structure Balanced (capacity : Nat) (handled : List Message) (rig : Rig η) : Prop where
  ofQueue : rig.QueueAccount capacity handled
  ofInterrupts : rig.InterruptAccount

/-- The account of the queue depends only on the queue and on what arrived there. -/
theorem QueueAccount.congr {rig other : Rig η} (account : rig.QueueAccount capacity handled)
    (queue_eq : other.queue = rig.queue) (arrivals_eq : other.arrivals = rig.arrivals) :
    other.QueueAccount capacity handled where
  capacity_eq := by rw [queue_eq, account.capacity_eq]
  within := by rw [queue_eq]; exact account.within
  accepted_eq := by rw [accepted, arrivals_eq, queue_eq, ← account.accepted_eq, accepted]
  rejected_iff := by rw [arrivals_eq]; exact account.rejected_iff

/-! ## Messages that arrive at the queue -/

theorem arrivals_offer (rig : Rig η) (message : Message) :
    (rig.offer message).arrivals =
      ⟨message, rig.queue.toList.length, !rig.queue.isFull⟩ :: rig.arrivals := by
  rw [← MessageQueue.isOk_push rig.queue message, ← MessageQueue.size_pending]
  rfl

theorem arrived_offer (rig : Rig η) (message : Message) :
    (rig.offer message).arrived = rig.arrived ++ [message] := by
  simp [arrived, arrivals_offer]

theorem accepted_offer (rig : Rig η) (message : Message) :
    (rig.offer message).accepted =
      if rig.queue.isFull then rig.accepted else rig.accepted ++ [message] := by
  cases full : rig.queue.isFull with
  | true => simp [accepted, arrivals_offer, full]
  | false => simp [accepted, arrivals_offer, full]

/-- A message that arrives at the queue keeps its account in order. -/
theorem QueueAccount.offer {rig : Rig η} (account : rig.QueueAccount capacity handled)
    (message : Message) : (rig.offer message).QueueAccount capacity handled := by
  have queue_eq : (rig.offer message).queue = (rig.queue.push message).2 := rfl
  have full_iff := rig.queue.isFull_iff
  rw [account.capacity_eq] at full_iff
  -- With the bound on the length, "at least the capacity" is "exactly the capacity".
  have within := account.within
  constructor
  · rw [queue_eq, MessageQueue.capacity_push, account.capacity_eq]
  · rw [queue_eq, MessageQueue.toList_push]
    split
    · exact within
    · next room =>
      rw [full_iff] at room
      rw [List.length_append, List.length_singleton]
      omega
  · rw [accepted_offer, queue_eq, MessageQueue.toList_push, account.accepted_eq]
    split
    · rfl
    · rw [List.append_assoc]
  · intro arrival recorded
    rw [arrivals_offer] at recorded
    rcases List.mem_cons.1 recorded with rfl | earlier
    · rw [Bool.not_eq_false', full_iff]
      exact ⟨fun full => Nat.le_antisymm within full, fun same => Nat.le_of_eq same.symm⟩
    · exact account.rejected_iff arrival earlier

theorem QueueAccount.offerAll {rig : Rig η} (account : rig.QueueAccount capacity handled)
    (messages : List Message) : (rig.offerAll messages).QueueAccount capacity handled := by
  induction messages generalizing rig with
  | nil => exact account
  | cons message rest ih => exact ih (account.offer message)

theorem arrived_offerAll (rig : Rig η) (messages : List Message) :
    (rig.offerAll messages).arrived = rig.arrived ++ messages := by
  induction messages generalizing rig with
  | nil => exact (List.append_nil _).symm
  | cons message rest ih =>
    refine (ih (rig.offer message)).trans ?_
    rw [arrived_offer, List.append_assoc, List.singleton_append]

theorem raised_offerAll (rig : Rig η) (messages : List Message) :
    (rig.offerAll messages).raised = rig.raised := by
  rw [offerAll_eq]

theorem waiting_offerAll (rig : Rig η) (messages : List Message) :
    (rig.offerAll messages).waiting = rig.waiting := by
  rw [offerAll_eq]

/-! ## The record of what was raised -/

theorem raised_raise (rig : Rig η) (messages : List Message) :
    (rig.raise messages).raised.reverse = rig.raised.reverse ++ messages := by
  have noted : (messages.reverse ++ rig.raised).reverse = rig.raised.reverse ++ messages := by
    rw [List.reverse_append, List.reverse_reverse]
  unfold raise
  split
  · exact (congrArg List.reverse (raised_offerAll _ messages)).trans noted
  · exact noted

/-- Handing a message over raises what the handler raises on it. -/
theorem raised_afterDelivery (rig : Rig η) (threshold : Log.Level) (handler : Handler η)
    (message : Message) :
    (rig.afterDelivery threshold handler message).raised.reverse =
      rig.raised.reverse ++ match message.type? with
        | none => []
        | some type => (handler.handle type rig.handlerState).1.raised := by
  unfold afterDelivery
  cases message.type? with
  | none => exact (List.append_nil _).symm
  | some type =>
    have called := rig.raised_raise (handler.handle type rig.handlerState).1.raised
    dsimp only
    cases (handler.handle type rig.handlerState).1.result with
    | ok _ => exact called
    | error _ => exact called

/-- The record of what was raised grows by what each stimulus raises. -/
theorem raised_perform (rig : Rig η) (threshold : Log.Level) (handler : Handler η)
    (stimulus : Stimulus) :
    (rig.perform threshold handler stimulus.operation).2.raised.reverse =
      rig.raised.reverse ++ rig.raises handler stimulus := by
  cases stimulus with
  | cycle =>
    let taken := (rig.call .disable).afterPop
    rw [Stimulus.operation, Rig.perform, raises]
    cases queued : rig.queue.toList with
    | nil =>
      rw [cycle_of_empty threshold handler queued]
      have slept := congrArg List.reverse (taken.raised_call .enableAndHalt)
      exact slept.trans (List.append_nil _).symm
    | cons message rest =>
      rw [cycle_of_front threshold handler queued]
      have served := ((taken.call .enable).afterReport threshold).raised_afterDelivery threshold
        handler message
      rw [raised_afterReport, handlerState_afterReport, raised_call, handlerState_call] at served
      exact served
  | raise messages => exact rig.raised_raise messages
  | mask => exact (List.append_nil _).symm
  | unmask =>
    exact (congrArg List.reverse (rig.raised_call .enable)).trans (List.append_nil _).symm

/-- The record of what was raised holds what is raised along a history. -/
theorem raised_live (rig : Rig η) (threshold : Log.Level) (handler : Handler η)
    (history : List Stimulus) :
    (rig.live threshold handler history).2.raised.reverse =
      rig.raised.reverse ++ rig.raisedAlong threshold handler history := by
  induction history generalizing rig with
  | nil => exact (List.append_nil _).symm
  | cons stimulus rest ih =>
    have later := ih (rig.perform threshold handler stimulus.operation).2
    rw [raised_perform, List.append_assoc] at later
    exact later

/-! ## Everything keeps the balance -/

/-- At the start nothing was raised, nothing waits and nothing is queued. -/
theorem balanced_start (capacity : Nat) (handlerState : η) :
    (start (.ofCapacity capacity) handlerState).Balanced capacity [] where
  ofQueue := ⟨rfl, Nat.zero_le _, rfl, fun _ recorded => nomatch recorded⟩
  ofInterrupts := ⟨rfl, fun _ => rfl⟩

namespace Balanced

variable {rig : Rig η}

/-- What the accounts do not mention can change. -/
theorem congr {other : Rig η} (balanced : rig.Balanced capacity handled)
    (queue_eq : other.queue = rig.queue) (arrivals_eq : other.arrivals = rig.arrivals)
    (raised_eq : other.raised = rig.raised) (waiting_eq : other.waiting = rig.waiting)
    (enabled_eq : other.enabled = rig.enabled) : other.Balanced capacity handled where
  ofQueue := balanced.ofQueue.congr queue_eq arrivals_eq
  ofInterrupts := {
    raised_eq := by
      rw [raised_eq, arrived, arrivals_eq, waiting_eq]
      exact balanced.ofInterrupts.raised_eq
    waiting_eq := by
      rw [enabled_eq, waiting_eq]
      exact balanced.ofInterrupts.waiting_eq }

/-- Interrupts that arrive keep the balance, masked or not. -/
theorem raise (balanced : rig.Balanced capacity handled) (messages : List Message) :
    (rig.raise messages).Balanced capacity handled := by
  obtain ⟨ofQueue, raised_eq, waiting_eq⟩ := balanced
  let noted : Rig η := { rig with raised := messages.reverse ++ rig.raised }
  have noted_eq : noted.raised.reverse = rig.arrived ++ rig.waiting ++ messages := by
    rw [List.reverse_append, List.reverse_reverse, raised_eq]
  -- Enabled, the messages go behind all that has arrived, since none waits; masked, behind
  -- all that waits.
  by_cases enabled : rig.enabled = true
  · have raise_eq : rig.raise messages = noted.offerAll messages := if_pos enabled
    rw [waiting_eq enabled, List.append_nil] at noted_eq
    have noneWaits : (noted.offerAll messages).waiting = [] :=
      (noted.waiting_offerAll messages).trans (waiting_eq enabled)
    have ofNoted : noted.QueueAccount capacity handled := ofQueue.congr rfl rfl
    rw [raise_eq]
    refine ⟨ofNoted.offerAll messages, ?_, fun _ => noneWaits⟩
    rw [raised_offerAll, noted_eq, noneWaits, arrived_offerAll, List.append_nil]
    rfl
  · have raise_eq : rig.raise messages = { noted with waiting := rig.waiting ++ messages } :=
      if_neg enabled
    rw [raise_eq]
    refine ⟨ofQueue.congr rfl rfl, ?_, fun isEnabled => absurd isEnabled enabled⟩
    exact noted_eq.trans (List.append_assoc ..)

/-- Enabling interrupts brings everything that waits to the queue. -/
theorem deliver (balanced : rig.Balanced capacity handled) :
    rig.deliver.Balanced capacity handled := by
  refine ⟨(balanced.ofQueue.offerAll rig.waiting).congr rfl rfl, ?_, fun _ => rfl⟩
  calc rig.deliver.raised.reverse
      = rig.raised.reverse := congrArg List.reverse (rig.raised_offerAll rig.waiting)
    _ = rig.arrived ++ rig.waiting := balanced.ofInterrupts.raised_eq
    _ = (rig.offerAll rig.waiting).arrived := (rig.arrived_offerAll rig.waiting).symm
    _ = rig.deliver.arrived ++ rig.deliver.waiting := (List.append_nil _).symm

/-- Each request to the processor keeps the balance. -/
theorem call (balanced : rig.Balanced capacity handled) (call : CpuCall) :
    (rig.call call).Balanced capacity handled := by
  cases call with
  | disable =>
    refine ⟨balanced.ofQueue.congr rfl rfl, balanced.ofInterrupts.raised_eq, fun enabled => ?_⟩
    cases enabled
  | enable => exact balanced.deliver.congr rfl rfl rfl rfl rfl
  | enableAndHalt => exact balanced.deliver.congr rfl rfl rfl rfl rfl

/-- A message that is taken off the queue becomes the last one handled. -/
theorem afterPop (balanced : rig.Balanced capacity handled) :
    rig.afterPop.Balanced capacity (handled ++ rig.queue.pop.1.toList) := by
  obtain ⟨ofQueue, ofInterrupts⟩ := balanced
  have whole := rig.queue.pop_append_toList
  have within := ofQueue.within
  rw [← whole, List.length_append] at within
  refine ⟨⟨?_, ?_, ?_, ofQueue.rejected_iff⟩, ofInterrupts.raised_eq, ofInterrupts.waiting_eq⟩
  · exact rig.queue.capacity_pop.trans ofQueue.capacity_eq
  · exact Nat.le_trans (Nat.le_add_left ..) within
  · calc rig.afterPop.accepted
        = handled ++ rig.queue.toList := ofQueue.accepted_eq
      _ = handled ++ rig.queue.pop.1.toList ++ rig.queue.pop.2.toList := by
        rw [List.append_assoc, whole]

/-- Reporting dropped messages only touches their count. -/
theorem afterReport (balanced : rig.Balanced capacity handled) (threshold : Log.Level) :
    (rig.afterReport threshold).Balanced capacity handled := by
  have counted : Rig.Balanced capacity handled
      { rig with queue := rig.queue.takeDropCount.2 } := by
    obtain ⟨⟨capacity_eq, within, accepted_eq, rejected_iff⟩, ofInterrupts⟩ := balanced
    exact ⟨⟨capacity_eq, within, accepted_eq, rejected_iff⟩,
      ofInterrupts.raised_eq, ofInterrupts.waiting_eq⟩
  unfold Rig.afterReport
  split
  · exact counted.congr rfl rfl rfl rfl rfl
  · exact counted

/-- Handing a message over keeps the balance, whatever the handler raises. -/
theorem afterDelivery (balanced : rig.Balanced capacity handled) (threshold : Log.Level)
    (handler : Handler η) (message : Message) :
    (rig.afterDelivery threshold handler message).Balanced capacity handled := by
  have called (type : MessageKind) :
      (rig.afterCall threshold handler type).Balanced capacity handled :=
    (balanced.raise (handler.handle type rig.handlerState).1.raised).congr rfl rfl rfl rfl rfl
  unfold Rig.afterDelivery
  split
  · exact balanced.congr rfl rfl rfl rfl rfl
  · next type _ =>
    split
    · exact called type
    · exact (called type).congr rfl rfl rfl rfl rfl

/-- Each stimulus keeps the balance, with the message that the reply reports as handled. -/
theorem perform (balanced : rig.Balanced capacity handled) (threshold : Log.Level)
    (handler : Handler η) (stimulus : Stimulus) :
    (rig.perform threshold handler stimulus.operation).2.Balanced capacity
      (handled ++ (rig.perform threshold handler stimulus.operation).1.handled?.toList) := by
  cases stimulus with
  | cycle =>
    -- The message is accounted for where it is taken; nothing later in the cycle depends on it.
    have taken : (rig.call .disable).afterPop.Balanced capacity
        (handled ++ rig.queue.pop.1.toList) := (balanced.call .disable).afterPop
    rw [Stimulus.operation, Rig.perform]
    cases queued : rig.queue.toList with
    | nil =>
      rw [MessageQueue.pop_of_empty queued] at taken
      rw [cycle_of_empty threshold handler queued]
      exact taken.call .enableAndHalt
    | cons message rest =>
      rw [MessageQueue.pop_of_front queued] at taken
      rw [cycle_of_front threshold handler queued]
      exact ((taken.call .enable).afterReport threshold).afterDelivery threshold handler message
  | raise messages => exact (List.append_nil handled).symm ▸ balanced.raise messages
  | mask => exact (List.append_nil handled).symm ▸ balanced.call .disable
  | unmask => exact (List.append_nil handled).symm ▸ balanced.call .enable

/-- A history keeps the balance, with all messages that its replies report as handled. -/
theorem live (balanced : rig.Balanced capacity handled) (threshold : Log.Level)
    (handler : Handler η) (history : List Stimulus) :
    (rig.live threshold handler history).2.Balanced capacity
      (handled ++ (rig.live threshold handler history).1.filterMap Reply.handled?) := by
  induction history generalizing rig handled with
  | nil => exact (List.append_nil handled).symm ▸ balanced
  | cons stimulus rest ih =>
    have later := ih (balanced.perform threshold handler stimulus)
    rw [List.append_assoc, ← Reply.filterMap_cons] at later
    exact later

end Balanced

/-- **No message is lost, duplicated or reordered.**  After any history, the messages raised
along it have arrived at the queue in order, up to those that still wait.  Without those that
the full queue turned away they are the messages handled, those queued and those that wait, in
this order.  The queue never holds more than its capacity, and turned messages away only when
it held exactly that many. -/
theorem live_conserves (capacity : Nat) (threshold : Log.Level) (handler : Handler η)
    (handlerState : η) (history : List Stimulus) :
    let before := start (.ofCapacity capacity) handlerState
    let (replies, rig) := before.live threshold handler history
    before.raisedAlong threshold handler history = rig.arrived ++ rig.waiting ∧
      rig.accepted ++ rig.waiting =
        replies.filterMap Reply.handled? ++ rig.queue.toList ++ rig.waiting ∧
      rig.queue.toList.length ≤ capacity ∧
      ∀ arrival ∈ rig.arrivals, arrival.accepted = false ↔ arrival.found = capacity := by
  let before := start (.ofCapacity capacity) handlerState
  obtain ⟨ofQueue, ofInterrupts⟩ :=
    (balanced_start capacity handlerState).live threshold handler history
  have raised_eq : before.raisedAlong threshold handler history =
      (before.live threshold handler history).2.raised.reverse :=
    (before.raised_live threshold handler history).symm
  exact ⟨raised_eq.trans ofInterrupts.raised_eq, congrArg (· ++ _) ofQueue.accepted_eq,
    ofQueue.within, ofQueue.rejected_iff⟩

-- A burst of three comes out of a masked window, and the queue has room for two.
example :
    let (replies, rig) := (start (.ofCapacity 2) 0).live .debug (.scripted [] [])
      [.mask, .raise [⟨7⟩, ⟨8⟩, ⟨9⟩], .cycle, .cycle]
    replies.filterMap Reply.handled? = [⟨7⟩] ∧ rig.queue.toList = [⟨8⟩] ∧
      rig.arrivals.reverse.map (·.accepted) = [true, true, false] := by decide

end KernelStart.MainLoop.Rig
