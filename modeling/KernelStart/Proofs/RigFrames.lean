import KernelStart.MainLoop.HandlerCalls
import KernelStart.Proofs.LoopCycle

/-!
# What changes the rig, and what does not matter to it

Most of what happens at the rig touches only a part of it.  Messages that arrive change the queue
and the record of arrivals (`Rig.offerAll_eq`), and interrupts that are raised or let in
(`Rig.raise_eq`, `Rig.call_eq`) reach neither the handler nor the log.  So the handler is left in
the state that its calls have left it in, and these are the messages with a known type that the
loop says it handled (`Rig.handlerState_live_eq`).

Interrupts do not look at the handler or at the log either.  So they come to the same thing on a
rig with another handler's state and another log (`Rig.raise_withHandler`,
`Rig.call_withHandler`).
-/

set_option autoImplicit false

namespace KernelStart.MainLoop.Rig

variable {η θ : Type}

/-! ## What arrivals leave alone -/

/-- Messages that arrive at the queue touch nothing else but the record of arrivals. -/
theorem offerAll_eq (rig : Rig η) (messages : List Message) :
    rig.offerAll messages =
      { rig with
        queue := (rig.offerAll messages).queue
        arrivals := (rig.offerAll messages).arrivals } := by
  induction messages generalizing rig with
  | nil => rfl
  | cons message rest ih => exact ih (rig.offer message)

/-- Interrupts that are raised make no request to the processor, and neither the handler nor the
log gets to know of them. -/
theorem raise_eq (rig : Rig η) (messages : List Message) :
    rig.raise messages =
      { rig with
        queue := (rig.raise messages).queue
        waiting := (rig.raise messages).waiting
        raised := (rig.raise messages).raised
        arrivals := (rig.raise messages).arrivals } := by
  unfold raise
  split
  · rw [offerAll_eq]
  · rfl

/-- Requests to the processor raise nothing, and neither the handler nor the log gets to know of
them. -/
theorem call_eq (rig : Rig η) (call : CpuCall) :
    rig.call call =
      { rig with
        queue := (rig.call call).queue
        enabled := (rig.call call).enabled
        waiting := (rig.call call).waiting
        calls := (rig.call call).calls
        arrivals := (rig.call call).arrivals } := by
  cases call with
  | disable => rfl
  | enable => rw [Rig.call, deliver, offerAll_eq]
  | enableAndHalt => rw [Rig.call, deliver, offerAll_eq]

theorem calls_raise (rig : Rig η) (messages : List Message) :
    (rig.raise messages).calls = rig.calls := by
  rw [raise_eq]

theorem handlerState_raise (rig : Rig η) (messages : List Message) :
    (rig.raise messages).handlerState = rig.handlerState := by
  rw [raise_eq]

theorem emitted_raise (rig : Rig η) (messages : List Message) :
    (rig.raise messages).emitted = rig.emitted := by
  rw [raise_eq]

theorem raised_call (rig : Rig η) (call : CpuCall) : (rig.call call).raised = rig.raised := by
  rw [call_eq]

theorem handlerState_call (rig : Rig η) (call : CpuCall) :
    (rig.call call).handlerState = rig.handlerState := by
  rw [call_eq]

theorem emitted_call (rig : Rig η) (call : CpuCall) : (rig.call call).emitted = rig.emitted := by
  rw [call_eq]

theorem raised_afterReport (rig : Rig η) (threshold : Log.Level) :
    (rig.afterReport threshold).raised = rig.raised := by
  unfold afterReport
  split <;> rfl

theorem handlerState_afterReport (rig : Rig η) (threshold : Log.Level) :
    (rig.afterReport threshold).handlerState = rig.handlerState := by
  unfold afterReport
  split <;> rfl

/-! ## What changes the handler -/

section HandlerState

variable (rig : Rig η) (threshold : Log.Level) (handler : Handler η)

/-- A message that is handed over changes the state of the handler if it has a known type. -/
theorem handlerState_afterDelivery (message : Message) :
    (rig.afterDelivery threshold handler message).handlerState =
      handler.after rig.handlerState message.type?.toList := by
  unfold afterDelivery
  cases message.type? with
  | none => rfl
  | some type =>
    dsimp only
    cases (handler.handle type rig.handlerState).1.result <;> rfl

theorem handlerState_afterService (message : Message) :
    (rig.afterService threshold handler message).handlerState =
      handler.after rig.handlerState message.type?.toList := by
  rw [afterService, handlerState_afterDelivery, handlerState_afterReport, handlerState_call]

/-- Only a cycle that handles a message with a known type changes the state of the handler. -/
theorem handlerState_perform_eq (stimulus : Stimulus) :
    (rig.perform threshold handler stimulus.operation).2.handlerState =
      handler.after rig.handlerState
        (rig.perform threshold handler stimulus.operation).1.type?.toList := by
  cases stimulus with
  | cycle =>
    let taken := (rig.call .disable).afterPop
    rw [Stimulus.operation, Rig.perform]
    cases queued : rig.queue.toList with
    | nil =>
      rw [cycle_of_empty threshold handler queued]
      exact taken.handlerState_call .enableAndHalt
    | cons message rest =>
      rw [cycle_of_front threshold handler queued]
      exact taken.handlerState_afterService threshold handler message
  | raise messages => exact rig.handlerState_raise messages
  | mask => rfl
  | unmask => exact rig.handlerState_call .enable

/-- The handler is in the state that the handled messages with a known type have left it in. -/
theorem handlerState_live_eq (history : List Stimulus) :
    (rig.live threshold handler history).2.handlerState =
      handler.after rig.handlerState
        ((rig.live threshold handler history).1.filterMap Reply.type?) := by
  induction history generalizing rig with
  | nil => rfl
  | cons stimulus rest ih =>
    have now := rig.handlerState_perform_eq threshold handler stimulus
    have later := ih (rig.perform threshold handler stimulus.operation).2
    rw [now, ← Handler.after_append, ← Reply.filterMap_cons] at later
    exact later

end HandlerState

/-! ## Another handler and another log -/

theorem offerAll_withHandler (rig : Rig η) (state : θ) (entries : List Log.Entry)
    (messages : List Message) :
    (rig.withHandler state entries).offerAll messages =
      (rig.offerAll messages).withHandler state entries := by
  induction messages generalizing rig with
  | nil => rfl
  | cons message rest ih => exact ih (rig.offer message)

theorem raise_withHandler (rig : Rig η) (state : θ) (entries : List Log.Entry)
    (messages : List Message) :
    (rig.withHandler state entries).raise messages =
      (rig.raise messages).withHandler state entries := by
  let noted : Rig η := { rig with raised := messages.reverse ++ rig.raised }
  let waits : Rig η := { noted with waiting := rig.waiting ++ messages }
  change (if rig.enabled then (noted.withHandler state entries).offerAll messages
      else waits.withHandler state entries) =
    (if rig.enabled then noted.offerAll messages else waits).withHandler state entries
  split
  · exact offerAll_withHandler noted state entries messages
  · rfl

theorem call_withHandler (rig : Rig η) (state : θ) (entries : List Log.Entry) (call : CpuCall) :
    (rig.withHandler state entries).call call = (rig.call call).withHandler state entries := by
  have delivered := rig.offerAll_withHandler state entries rig.waiting
  cases call with
  | disable => rfl
  | enable =>
    exact congrArg (fun reached : Rig θ => { reached with
      enabled := true, waiting := [], calls := rig.calls ++ [CpuCall.enable] }) delivered
  | enableAndHalt =>
    exact congrArg (fun reached : Rig θ => { reached with
      enabled := true, waiting := [], calls := rig.calls ++ [CpuCall.enableAndHalt] }) delivered

end KernelStart.MainLoop.Rig
