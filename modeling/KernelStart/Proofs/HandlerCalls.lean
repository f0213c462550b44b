import KernelStart.Proofs.LogThreshold
import KernelStart.Proofs.LoopMasking
import KernelStart.Proofs.RigFrames

/-!
# What the loop asks and writes when it handles a message

A cycle that handles a message calls the handler, or reports the message as unknown, between two
things that may or may not be in the log: the report of dropped messages before, and the report
of a failure after.  This module says exactly which requests the cycle makes
(`Rig.requests_cycle_of_front`), which entries reach the log (`Rig.emitted_perform`), and what
else changes (`Rig.perform_cycle_of_front`).

Along a history it follows that each message which the loop says it handled was dealt with once,
and in order (`Rig.asked_dealings`), and that the log holds the report of each unknown message
(`Rig.reported_sublist`).
-/

set_option autoImplicit false

namespace KernelStart.MainLoop

namespace Rig

variable {η θ : Type} (threshold : Log.Level) (handler : Handler η)

/-! ## A cycle in two parts, the log and the rest -/

theorem emit_nil (rig : Rig η) : rig.emit threshold [] = rig := by
  rw [emit, List.flatMap_nil, List.append_nil]

theorem emit_emit (rig : Rig η) (early late : List Log.Entry) :
    (rig.emit threshold early).emit threshold late = rig.emit threshold (early ++ late) := by
  rw [emit, emit, emit, List.flatMap_append, List.append_assoc]

/-- The rig once interrupts are enabled again. -/
def awoken (rig : Rig η) : Rig η := (rig.call .disable).afterPop.call .enable

/-- The rig once the drop count is taken as well. -/
def attending (rig : Rig η) : Rig η :=
  { rig.awoken with queue := rig.awoken.queue.takeDropCount.2 }

/-- What handing a message over comes to besides the log. -/
def afterHandling (rig : Rig η) (message : Message) : Rig η :=
  match message.type? with
  | none => rig
  | some type =>
    (rig.raise (handler.handle type rig.handlerState).1.raised).withHandler
      (handler.handle type rig.handlerState).2 rig.emitted

/-- The entries that a stimulus hands to the log. -/
def handed (rig : Rig η) : Stimulus → List Log.Entry
  | .cycle =>
    match rig.queue.toList with
    | [] => []
    | message :: _ =>
      dropReports rig.awoken.queue.dropped ++ handler.entriesOn rig.handlerState message
  | .raise _ => []
  | .mask => []
  | .unmask => []

/-- The entries that a history hands to the log, in order. -/
def handedAlong (rig : Rig η) : List Stimulus → List Log.Entry
  | [] => []
  | stimulus :: rest =>
    rig.handed handler stimulus ++
      (rig.perform threshold handler stimulus.operation).2.handedAlong rest

theorem afterReport_awoken (rig : Rig η) :
    rig.awoken.afterReport threshold =
      rig.attending.emit threshold (dropReports rig.awoken.queue.dropped) := by
  unfold afterReport dropReports
  split
  · rfl
  · exact (emit_nil threshold _).symm

/-- A call, the log apart. -/
theorem afterCall_eq (rig : Rig η) (type : MessageKind) :
    rig.afterCall threshold handler type =
      ((rig.raise (handler.handle type rig.handlerState).1.raised).withHandler
        (handler.handle type rig.handlerState).2 rig.emitted).emit threshold
          (handler.handle type rig.handlerState).1.logged := by
  rw [← emitted_raise rig (handler.handle type rig.handlerState).1.raised]
  rfl

theorem afterDelivery_eq (rig : Rig η) (message : Message) :
    rig.afterDelivery threshold handler message =
      (rig.afterHandling handler message).emit threshold
        (handler.entriesOn rig.handlerState message) := by
  unfold afterDelivery afterHandling Handler.entriesOn
  cases message.type? with
  | none => rfl
  | some type =>
    dsimp only
    rw [← emit_emit, ← afterCall_eq]
    cases (handler.handle type rig.handlerState).1.result with
    | ok _ => exact (emit_nil threshold _).symm
    | error _ => rfl

theorem handlerState_attending (rig : Rig η) : rig.attending.handlerState = rig.handlerState :=
  handlerState_call _ .enable

theorem emitted_attending (rig : Rig η) : rig.attending.emitted = rig.emitted :=
  emitted_call _ .enable

theorem handlerState_afterHandling (rig : Rig η) (message : Message) :
    (rig.afterHandling handler message).handlerState =
      handler.after rig.handlerState message.type?.toList := by
  unfold afterHandling
  cases message.type? <;> rfl

theorem emitted_afterHandling (rig : Rig η) (message : Message) :
    (rig.afterHandling handler message).emitted = rig.emitted := by
  unfold afterHandling
  cases message.type? <;> rfl

/-- A handler that raises the same has the message handled in the same way. -/
theorem afterHandling_withHandler {rig : Rig η} {message : Message} {other : Handler θ} {state : θ}
    (alike : ∀ type, (other.handle type state).1.raised =
      (handler.handle type rig.handlerState).1.raised) (entries : List Log.Entry) :
    (rig.withHandler state entries).afterHandling other message =
      (rig.afterHandling handler message).withHandler
        (other.after state message.type?.toList) entries := by
  unfold afterHandling
  cases message.type? with
  | none => rfl
  | some type =>
    dsimp only
    rw [handlerState_withHandler, alike type, raise_withHandler]
    rfl

/-- What was handed to the log before does not matter to the rest. -/
theorem afterHandling_emit (rig : Rig η) (entries : List Log.Entry) (message : Message) :
    (rig.emit threshold entries).afterHandling handler message =
      (rig.afterHandling handler message).emit threshold entries := by
  have unchanged (type : MessageKind) : (handler.handle type rig.handlerState).1.raised =
      (handler.handle type rig.handlerState).1.raised := rfl
  have same : (rig.emit threshold entries).afterHandling handler message = _ :=
    afterHandling_withHandler handler unchanged (rig.emit threshold entries).emitted
  rw [same, ← handlerState_afterHandling, emit, emit, emitted_afterHandling]
  rfl

/-- A message at the front of the queue is handled. -/
theorem perform_cycle_of_front {rig : Rig η} {message : Message} {rest : List Message}
    (front : rig.queue.toList = message :: rest) :
    rig.perform threshold handler .cycle =
      (.outcome (.handled message),
        (rig.attending.afterHandling handler message).emit threshold
          (rig.handed handler .cycle)) := by
  have reported := rig.afterReport_awoken threshold
  have state_eq : (rig.awoken.afterReport threshold).handlerState = rig.handlerState := by
    rw [reported]
    exact rig.handlerState_attending
  have delivered := afterDelivery_eq threshold handler (rig.awoken.afterReport threshold) message
  rw [state_eq, reported, afterHandling_emit, emit_emit, ← reported] at delivered
  rw [perform, cycle_of_front threshold handler front, handed, front]
  exact congrArg (Prod.mk _) delivered

/-! ## The log -/

/-- The log grows by those of the entries that pass the threshold. -/
theorem emitted_perform (rig : Rig η) (stimulus : Stimulus) :
    (rig.perform threshold handler stimulus.operation).2.emitted =
      rig.emitted ++ (rig.handed handler stimulus).flatMap (·.emittedAt threshold) := by
  have unchanged : rig.emitted ++ ([] : List Log.Entry).flatMap (·.emittedAt threshold) =
      rig.emitted := List.append_nil _
  cases stimulus with
  | cycle =>
    rw [Stimulus.operation]
    cases queued : rig.queue.toList with
    | nil =>
      rw [perform, cycle_of_empty threshold handler queued, handed, queued, unchanged]
      exact emitted_call _ .enableAndHalt
    | cons message rest =>
      rw [perform_cycle_of_front threshold handler queued, emit, emitted_afterHandling,
        emitted_attending]
  | raise messages => exact (rig.emitted_raise messages).trans unchanged.symm
  | mask => exact unchanged.symm
  | unmask => exact (rig.emitted_call .enable).trans unchanged.symm

theorem emitted_live (rig : Rig η) (history : List Stimulus) :
    (rig.live threshold handler history).2.emitted =
      rig.emitted ++
        (rig.handedAlong threshold handler history).flatMap (·.emittedAt threshold) := by
  induction history generalizing rig with
  | nil => exact (List.append_nil _).symm
  | cons stimulus rest ih =>
    rw [handedAlong, List.flatMap_append, ← List.append_assoc, ← emitted_perform]
    exact ih _

/-! ## The requests -/

theorem requests_reportDropped (count : Nat) (rig : Rig η) :
    (reportDropped count).requests (environment threshold handler) rig =
      (dropReports count).map .log := by
  unfold reportDropped dropReports
  split <;> rfl

theorem requests_deliver (rig : Rig η) (message : Message) :
    (MainLoop.deliver message).requests (environment threshold handler) rig =
      handler.requestsOn rig.handlerState message := by
  unfold MainLoop.deliver Handler.requestsOn
  cases message.type? with
  | none => rfl
  | some type =>
    refine (Program.requests_bind_ok (run_handle threshold handler rig type) _).trans ?_
    dsimp only
    cases (handler.handle type rig.handlerState).1.result <;> rfl

theorem requests_attend (rig : Rig η) (message : Message) :
    (attend message).requests (environment threshold handler) rig =
      .plain .takeDropCount :: ((dropReports rig.queue.dropped).map .log ++
        handler.requestsOn rig.handlerState message) := by
  have counted := run_takeDropCount threshold handler rig
  have reported := run_reportDropped threshold handler rig
  have delivered := run_deliver threshold handler (rig.afterReport threshold) message
  refine (Program.requests_bind_ok counted _).trans (congrArg (List.cons _) ?_)
  refine (Program.requests_bind_ok reported _).trans ?_
  rw [requests_reportDropped]
  refine congrArg _ ((Program.requests_bind_ok delivered _).trans ?_)
  rw [requests_deliver, handlerState_afterReport]
  exact List.append_nil _

theorem requests_cycle_of_empty {rig : Rig η} (empty : rig.queue.toList = []) :
    MainLoop.cycle.requests (environment threshold handler) rig =
      [.plain .disable, .plain .pop, .plain .enableAndHalt] := by
  rw [Program.requests, moments_cycle, MessageQueue.pop_of_empty empty]
  rfl

/-- The requests of a cycle that handles a message, with the reports that there may be. -/
theorem requests_cycle_of_front {rig : Rig η} {message : Message} {rest : List Message}
    (front : rig.queue.toList = message :: rest) :
    MainLoop.cycle.requests (environment threshold handler) rig =
      [.plain .disable, .plain .pop, .plain .enable, .plain .takeDropCount] ++
        ((dropReports rig.awoken.queue.dropped).map .log ++
          handler.requestsOn rig.handlerState message) := by
  have attended := requests_attend threshold handler rig.awoken message
  have state_eq : rig.awoken.handlerState = rig.handlerState := handlerState_call _ .enable
  rw [state_eq] at attended
  rw [Program.requests, moments_cycle, MessageQueue.pop_of_front front]
  exact congrArg (fun later => .plain .disable :: .plain .pop :: .plain .enable :: later) attended

/-! ## How messages are dealt with -/

theorem filter_isDealing_dropReports (count : Nat) :
    ((dropReports count).map LoggedRequest.log).filter isDealing = [] := by
  unfold dropReports
  split
  · exact List.filter_cons_of_neg (Bool.eq_false_iff.1 (isUnknownReport_dropReport count))
  · rfl

/-- A message is dealt with first; what follows are reports of failures, if anything. -/
theorem requestsOn_eq (state : η) (message : Message) :
    ∃ reports : List Log.Entry,
      handler.requestsOn state message = dealing message :: reports.map .log ∧
        ∀ entry ∈ reports, isFailureReport entry = true := by
  unfold Handler.requestsOn dealing Message.type?
  by_cases zero : message.tag = 0
  · rw [if_pos zero, if_pos zero]
    exact ⟨_, rfl, fun _ reported => isFailureReport_of_mem_resultReport reported⟩
  · rw [if_neg zero, if_neg zero]
    exact ⟨[], rfl, fun _ none => nomatch none⟩

/-- A message is dealt with by one request, whatever the handler makes of it. -/
theorem filter_isDealing_requestsOn (state : η) (message : Message) :
    (handler.requestsOn state message).filter isDealing = [dealing message] := by
  obtain ⟨reports, requests_eq, failures⟩ := requestsOn_eq handler state message
  have noneElse : (reports.map LoggedRequest.log).filter isDealing = [] := by
    rw [List.filter_eq_nil_iff, List.forall_mem_map]
    exact fun entry reported =>
      Bool.eq_false_iff.1 (isUnknownReport_of_isFailureReport (failures entry reported))
  rw [requests_eq, List.filter_cons_of_pos (isDealing_dealing message), noneElse]

/-- Each stimulus deals with the message that its reply reports as handled. -/
theorem asked_dealing (rig : Rig η) (stimulus : Stimulus) :
    (rig.asked threshold handler stimulus.operation).filter isDealing =
      ((rig.perform threshold handler stimulus.operation).1.handled?.map dealing).toList := by
  cases stimulus with
  | cycle =>
    rw [Stimulus.operation, asked]
    cases queued : rig.queue.toList with
    | nil =>
      rw [requests_cycle_of_empty threshold handler queued, perform,
        cycle_of_empty threshold handler queued]
      rfl
    | cons message rest =>
      rw [requests_cycle_of_front threshold handler queued, List.filter_append,
        List.filter_append, filter_isDealing_dropReports, filter_isDealing_requestsOn,
        perform_cycle_of_front threshold handler queued]
      rfl
  | raise _ => rfl
  | mask => rfl
  | unmask => rfl

/-- A history deals with the messages that its replies report as handled, in order. -/
theorem asked_dealings (rig : Rig η) (history : List Stimulus) :
    (rig.askedAlong threshold handler (history.map Stimulus.operation)).filter isDealing =
      ((rig.live threshold handler history).1.filterMap Reply.handled?).map dealing := by
  induction history generalizing rig with
  | nil => rfl
  | cons stimulus rest ih =>
    have now := rig.asked_dealing threshold handler stimulus
    have later := ih (rig.perform threshold handler stimulus.operation).2
    rw [List.map_cons, askedAlong, List.filter_append, now, later, Option.toList_map,
      ← List.map_append, ← Reply.filterMap_cons]
    rfl

/-! ## The reports of unknown messages -/

/-- The reports of those messages whose tag is not zero. -/
def unknownReports (messages : List Message) : List Log.Entry :=
  (messages.filter fun message => message.tag != 0).map unknownReport

theorem unknownReports_append (early late : List Message) :
    unknownReports (early ++ late) = unknownReports early ++ unknownReports late := by
  rw [unknownReports, List.filter_append, List.map_append]
  rfl

theorem unknownReports_sublist_entriesOn (state : η) (message : Message) :
    (unknownReports [message]).Sublist (handler.entriesOn state message) := by
  unfold unknownReports Handler.entriesOn Message.type?
  by_cases zero : message.tag = 0
  · rw [List.filter_cons, if_neg (by simp [zero])]
    exact List.nil_sublist _
  · rw [List.filter_cons, if_pos (bne_iff_ne.2 zero), if_neg zero]
    exact List.Sublist.refl _

theorem unknownReports_sublist_handed (rig : Rig η) (stimulus : Stimulus) :
    (unknownReports
      (rig.perform threshold handler stimulus.operation).1.handled?.toList).Sublist
        (rig.handed handler stimulus) := by
  cases stimulus with
  | cycle =>
    rw [Stimulus.operation, handed]
    cases queued : rig.queue.toList with
    | nil =>
      rw [perform, cycle_of_empty threshold handler queued]
      exact List.nil_sublist _
    | cons message rest =>
      rw [perform_cycle_of_front threshold handler queued]
      have reported := unknownReports_sublist_entriesOn handler rig.handlerState message
      exact reported.trans (List.sublist_append_right _ _)
  | raise _ => exact List.nil_sublist _
  | mask => exact List.nil_sublist _
  | unmask => exact List.nil_sublist _

theorem unknownReports_sublist_handedAlong (rig : Rig η) (history : List Stimulus) :
    (unknownReports ((rig.live threshold handler history).1.filterMap Reply.handled?)).Sublist
      (rig.handedAlong threshold handler history) := by
  induction history generalizing rig with
  | nil => exact List.nil_sublist _
  | cons stimulus rest ih =>
    have now := rig.unknownReports_sublist_handed threshold handler stimulus
    have later := ih (rig.perform threshold handler stimulus.operation).2
    rw [handedAlong]
    refine List.Sublist.trans ?_ (now.append later)
    rw [← unknownReports_append, ← Reply.filterMap_cons]
    exact List.Sublist.refl _

/-- Errors pass every threshold, so none of these reports is held back. -/
theorem flatMap_emittedAt_unknownReports (messages : List Message) :
    (unknownReports messages).flatMap (·.emittedAt threshold) = unknownReports messages := by
  rw [Log.flatMap_emittedAt, List.filter_eq_self]
  intro entry reported
  obtain ⟨message, -, rfl⟩ := List.mem_map.1 reported
  cases threshold <;> rfl

/-- The log holds the reports of the unknown messages, in order. -/
theorem reported_sublist (rig : Rig η) (history : List Stimulus) :
    ∃ entries, (rig.live threshold handler history).2.emitted = rig.emitted ++ entries ∧
      (unknownReports ((rig.live threshold handler history).1.filterMap Reply.handled?)).Sublist
        entries := by
  refine ⟨_, emitted_live threshold handler rig history, ?_⟩
  rw [← flatMap_emittedAt_unknownReports threshold, Log.flatMap_emittedAt, Log.flatMap_emittedAt]
  exact (rig.unknownReports_sublist_handedAlong threshold handler history).filter _

/-! ## What is left without the reports of failed calls -/

/-- The requests besides the reports of failed calls. -/
def besidesFailures (requests : List (LoggedRequest Loop)) : List (LoggedRequest Loop) :=
  requests.filter fun request => !reportsFailure request

/-- The entries of a log besides the reports of failed calls. -/
def besidesFailureReports (entries : List Log.Entry) : List Log.Entry :=
  entries.filter fun entry => !isFailureReport entry

theorem besidesFailures_append (early late : List (LoggedRequest Loop)) :
    besidesFailures (early ++ late) = besidesFailures early ++ besidesFailures late :=
  List.filter_append ..

theorem besidesFailureReports_append (early late : List Log.Entry) :
    besidesFailureReports (early ++ late) =
      besidesFailureReports early ++ besidesFailureReports late :=
  List.filter_append ..

theorem besidesFailureReports_resultReport (type : MessageKind) (result : Except Failure Unit) :
    besidesFailureReports (resultReport type result) = [] := by
  refine List.filter_eq_nil_iff.2 fun entry reported => ?_
  rw [isFailureReport_of_mem_resultReport reported]
  exact Bool.false_ne_true

/-- Besides the report of its failure, a call brings to the log what the handler writes. -/
theorem besidesFailureReports_entriesOn (state : η) (message : Message) :
    besidesFailureReports (handler.entriesOn state message) =
      match message.type? with
      | none => [unknownReport message]
      | some type => besidesFailureReports (handler.handle type state).1.logged := by
  unfold Handler.entriesOn
  cases message.type? with
  | none =>
    have noReport := isFailureReport_unknownReport message
    exact List.filter_cons_of_pos (by simp [noReport])
  | some type =>
    dsimp only
    rw [besidesFailureReports_append, besidesFailureReports_resultReport, List.append_nil]

/-- The threshold holds back the same, with and without the reports. -/
theorem besidesFailureReports_flatMap_emittedAt (entries : List Log.Entry) :
    besidesFailureReports (entries.flatMap (·.emittedAt threshold)) =
      (besidesFailureReports entries).flatMap (·.emittedAt threshold) := by
  rw [Log.flatMap_emittedAt, Log.flatMap_emittedAt, besidesFailureReports, besidesFailureReports,
    List.filter_filter, List.filter_filter]
  exact List.filter_congr fun _ _ => Bool.and_comm ..

/-- Besides the report of its failure, a message is handed over in the same way whatever the handler
makes of it. -/
theorem besidesFailures_requestsOn (state : η) (message : Message) :
    besidesFailures (handler.requestsOn state message) = [dealing message] := by
  obtain ⟨reports, requests_eq, failures⟩ := requestsOn_eq handler state message
  have noneElse : besidesFailures (reports.map .log) = [] := by
    rw [besidesFailures, List.filter_eq_nil_iff, List.forall_mem_map]
    intro entry reported
    rw [reportsFailure, failures entry reported]
    exact Bool.false_ne_true
  rw [requests_eq]
  refine (List.filter_cons_of_pos ?_).trans (congrArg (List.cons _) noneElse)
  rw [reportsFailure_dealing]
  rfl

/-- Calls of the handler are not reports of failed ones. -/
theorem countP_isHandling_besidesFailures (requests : List (LoggedRequest Loop)) :
    (besidesFailures requests).countP isHandling = requests.countP isHandling := by
  rw [besidesFailures, List.countP_filter]
  refine List.countP_congr fun request _ => ?_
  rcases request with entry | request
  · simp [isHandling]
  · simp [reportsFailure]

end Rig

end KernelStart.MainLoop
