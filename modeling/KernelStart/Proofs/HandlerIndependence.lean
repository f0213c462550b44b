import KernelStart.Proofs.HandlerCalls

/-!
# What the result of a call does not change

The loop reports a call that fails and goes on.  So two handlers that raise the same interrupts on
each call give the same history, whatever they return and whatever states they keep: the same
replies, the same requests to the processor, the same queue.  That is not only because the loop
does nothing else with a result; a handler feeds interrupts into the queue it is served from, so
one history that differed once would differ ever after.

The two rigs are kept in step by a relation (`Rig.InStep`): they agree in all but the handler's
state and the log, and both handlers have been called equally often.  Each stimulus keeps them in
step (`Rig.InStep.perform`), and so does a history (`Rig.InStep.live`).  The logs are compared
apart from that, by what each stimulus hands to them: the reports of failed calls can differ, and
the rest is the same if the handlers write the same (`Rig.InStep.handedAlong_eq`).
-/

set_option autoImplicit false

namespace KernelStart.MainLoop

namespace Rig

variable {η θ : Type}

theorem awoken_withHandler (rig : Rig η) (state : θ) (entries : List Log.Entry) :
    (rig.withHandler state entries).awoken = rig.awoken.withHandler state entries :=
  (rig.call .disable).afterPop.call_withHandler state entries .enable

theorem attending_withHandler (rig : Rig η) (state : θ) (entries : List Log.Entry) :
    (rig.withHandler state entries).attending = rig.attending.withHandler state entries := by
  rw [attending, awoken_withHandler]
  rfl

/-- Two rigs agree in all but the handler's state and the log, and each handler is in the state
that the same calls have left it in. -/
structure InStep (first : Handler η) (start : η) (second : Handler θ) (other : θ)
    (calls : List MessageKind) (rig : Rig η) (shadow : Rig θ) : Prop where
  state_eq : rig.handlerState = first.after start calls
  shadow_eq : ∃ entries, shadow = rig.withHandler (second.after other calls) entries

variable {first : Handler η} {start : η} {second : Handler θ} {other : θ}
  {calls : List MessageKind} {rig : Rig η} {shadow : Rig θ}

namespace InStep

theorem begin (first : Handler η) (second : Handler θ) (rig : Rig η) (other : θ)
    (entries : List Log.Entry) :
    InStep first rig.handlerState second other [] rig (rig.withHandler other entries) :=
  ⟨rfl, entries, rfl⟩

/-- What the next call raises is the same. -/
theorem raised_eq (raises : first.RaisesAlike start second other)
    (inStep : InStep first start second other calls rig shadow) (type : MessageKind) :
    (second.handle type (second.after other calls)).1.raised =
      (first.handle type rig.handlerState).1.raised := by
  rw [inStep.state_eq]
  exact raises calls type

theorem raise (inStep : InStep first start second other calls rig shadow)
    (messages : List Message) :
    InStep first start second other calls (rig.raise messages) (shadow.raise messages) := by
  obtain ⟨state_eq, entries, rfl⟩ := inStep
  exact ⟨(rig.handlerState_raise messages).trans state_eq, entries,
    rig.raise_withHandler _ entries messages⟩

theorem call (inStep : InStep first start second other calls rig shadow) (call : CpuCall) :
    InStep first start second other calls (rig.call call) (shadow.call call) := by
  obtain ⟨state_eq, entries, rfl⟩ := inStep
  exact ⟨(rig.handlerState_call call).trans state_eq, entries,
    rig.call_withHandler _ entries call⟩

theorem afterPop (inStep : InStep first start second other calls rig shadow) :
    InStep first start second other calls rig.afterPop shadow.afterPop := by
  obtain ⟨state_eq, entries, rfl⟩ := inStep
  exact ⟨state_eq, entries, rfl⟩

theorem attending (inStep : InStep first start second other calls rig shadow) :
    InStep first start second other calls rig.attending shadow.attending := by
  obtain ⟨state_eq, entries, rfl⟩ := inStep
  exact ⟨rig.handlerState_attending.trans state_eq, entries, rig.attending_withHandler _ entries⟩

/-- The logs may differ. -/
theorem emit (inStep : InStep first start second other calls rig shadow) (threshold : Log.Level)
    (entries otherEntries : List Log.Entry) :
    InStep first start second other calls (rig.emit threshold entries)
      (shadow.emit threshold otherEntries) := by
  obtain ⟨state_eq, before, rfl⟩ := inStep
  exact ⟨state_eq, _, rfl⟩

/-- Handing over a message with a known type is one more call. -/
theorem afterHandling (raises : first.RaisesAlike start second other)
    (inStep : InStep first start second other calls rig shadow) (message : Message) :
    InStep first start second other (calls ++ message.type?.toList)
      (rig.afterHandling first message) (shadow.afterHandling second message) := by
  have alike := inStep.raised_eq raises
  obtain ⟨state_eq, entries, rfl⟩ := inStep
  refine ⟨?_, entries, ?_⟩
  · rw [handlerState_afterHandling, state_eq, Handler.after_append]
  · rw [afterHandling_withHandler first alike, Handler.after_append]

theorem queue_eq (inStep : InStep first start second other calls rig shadow) :
    shadow.queue = rig.queue := by
  obtain ⟨-, entries, rfl⟩ := inStep
  rfl

/-- Each stimulus has the same reply, and keeps the rigs in step. -/
theorem perform (threshold : Log.Level) (raises : first.RaisesAlike start second other)
    (inStep : InStep first start second other calls rig shadow) (stimulus : Stimulus) :
    (shadow.perform threshold second stimulus.operation).1 =
        (rig.perform threshold first stimulus.operation).1 ∧
      InStep first start second other
        (calls ++ (rig.perform threshold first stimulus.operation).1.type?.toList)
        (rig.perform threshold first stimulus.operation).2
        (shadow.perform threshold second stimulus.operation).2 := by
  have noCall : calls = calls ++ [] := (List.append_nil calls).symm
  cases stimulus with
  | cycle =>
    have sameQueue := congrArg MessageQueue.toList inStep.queue_eq
    cases queued : rig.queue.toList with
    | nil =>
      rw [queued] at sameQueue
      rw [Stimulus.operation, Rig.perform, Rig.perform, cycle_of_empty threshold first queued,
        cycle_of_empty threshold second sameQueue]
      exact ⟨rfl, noCall ▸ ((inStep.call .disable).afterPop.call .enableAndHalt)⟩
    | cons message rest =>
      rw [queued] at sameQueue
      rw [Stimulus.operation, perform_cycle_of_front threshold first queued,
        perform_cycle_of_front threshold second sameQueue]
      exact ⟨rfl, (inStep.attending.afterHandling raises message).emit threshold _ _⟩
  | raise messages => exact ⟨rfl, noCall ▸ inStep.raise messages⟩
  | mask => exact ⟨rfl, noCall ▸ inStep.call .disable⟩
  | unmask => exact ⟨rfl, noCall ▸ inStep.call .enable⟩

/-- Besides reports of failed calls the loop makes the same requests. -/
theorem asked_eq (threshold : Log.Level)
    (inStep : InStep first start second other calls rig shadow) (stimulus : Stimulus) :
    besidesFailures (shadow.asked threshold second stimulus.operation) =
      besidesFailures (rig.asked threshold first stimulus.operation) := by
  cases stimulus with
  | cycle =>
    have sameQueue := congrArg MessageQueue.toList inStep.queue_eq
    rw [Stimulus.operation, asked, asked]
    cases queued : rig.queue.toList with
    | nil =>
      rw [queued] at sameQueue
      rw [requests_cycle_of_empty threshold first queued,
        requests_cycle_of_empty threshold second sameQueue]
    | cons message rest =>
      rw [queued] at sameQueue
      have sameCount : shadow.awoken.queue.dropped = rig.awoken.queue.dropped :=
        congrArg MessageQueue.dropped ((inStep.call .disable).afterPop.call .enable).queue_eq
      rw [requests_cycle_of_front threshold first queued,
        requests_cycle_of_front threshold second sameQueue, sameCount]
      simp only [besidesFailures_append, besidesFailures_requestsOn]
  | raise _ => rfl
  | mask => rfl
  | unmask => rfl

/-- Besides reports of failed calls the loop writes the same, if the handlers do. -/
theorem handed_eq (writes : first.WritesAlike start second other)
    (inStep : InStep first start second other calls rig shadow) (stimulus : Stimulus) :
    besidesFailureReports (shadow.handed second stimulus) =
      besidesFailureReports (rig.handed first stimulus) := by
  have sameQueue := congrArg MessageQueue.toList inStep.queue_eq
  have sameCount : shadow.awoken.queue.dropped = rig.awoken.queue.dropped :=
    congrArg MessageQueue.dropped ((inStep.call .disable).afterPop.call .enable).queue_eq
  have written (type : MessageKind) : (second.handle type shadow.handlerState).1.logged =
      (first.handle type rig.handlerState).1.logged := by
    obtain ⟨state_eq, entries, rfl⟩ := inStep
    rw [state_eq]
    exact writes calls type
  cases stimulus with
  | cycle =>
    rw [handed, handed, sameQueue, sameCount]
    cases rig.queue.toList with
    | nil => rfl
    | cons message rest =>
      simp only [besidesFailureReports_append, besidesFailureReports_entriesOn, written]
  | raise _ => rfl
  | mask => rfl
  | unmask => rfl

/-- A history has the same replies, keeps the rigs in step, and has the loop make the same requests
besides reports of failed calls. -/
theorem live (threshold : Log.Level) (raises : first.RaisesAlike start second other)
    (inStep : InStep first start second other calls rig shadow) (history : List Stimulus) :
    (shadow.live threshold second history).1 = (rig.live threshold first history).1 ∧
      InStep first start second other
        (calls ++ (rig.live threshold first history).1.filterMap Reply.type?)
        (rig.live threshold first history).2 (shadow.live threshold second history).2 ∧
      besidesFailures (shadow.askedAlong threshold second (history.map Stimulus.operation)) =
        besidesFailures (rig.askedAlong threshold first (history.map Stimulus.operation)) := by
  induction history generalizing calls rig shadow with
  | nil => exact ⟨rfl, (List.append_nil calls).symm ▸ inStep, rfl⟩
  | cons stimulus rest ih =>
    obtain ⟨reply_eq, next⟩ := inStep.perform threshold raises stimulus
    obtain ⟨replies_eq, last, later_eq⟩ := ih next
    have now_eq := inStep.asked_eq threshold stimulus
    refine ⟨congrArg₂ List.cons reply_eq replies_eq, ?_, ?_⟩
    · rw [List.append_assoc, ← Reply.filterMap_cons] at last
      exact last
    · rw [List.map_cons, askedAlong, askedAlong, besidesFailures_append, besidesFailures_append,
        now_eq, later_eq]

/-- Along a history, too, the loop writes the same besides reports of failed calls. -/
theorem handedAlong_eq (threshold : Log.Level) (raises : first.RaisesAlike start second other)
    (writes : first.WritesAlike start second other)
    (inStep : InStep first start second other calls rig shadow) (history : List Stimulus) :
    besidesFailureReports (shadow.handedAlong threshold second history) =
      besidesFailureReports (rig.handedAlong threshold first history) := by
  induction history generalizing calls rig shadow with
  | nil => rfl
  | cons stimulus rest ih =>
    have next := (inStep.perform threshold raises stimulus).2
    rw [handedAlong, handedAlong, besidesFailureReports_append, besidesFailureReports_append,
      inStep.handed_eq writes stimulus, ih next]

end InStep

/-! ## Whole histories -/

/-- Two histories went the same way, as far as anything tells but the handlers and the logs. -/
structure WentAlike (lived : List Reply × Rig η) (shadowed : List Reply × Rig θ) : Prop where
  replies_eq : shadowed.1 = lived.1
  calls_eq : shadowed.2.calls = lived.2.calls
  queue_eq : shadowed.2.queue = lived.2.queue
  enabled_eq : shadowed.2.enabled = lived.2.enabled
  waiting_eq : shadowed.2.waiting = lived.2.waiting
  raised_eq : shadowed.2.raised = lived.2.raised
  arrivals_eq : shadowed.2.arrivals = lived.2.arrivals

theorem InStep.wentAlike {lived : List Reply × Rig η} {shadowed : List Reply × Rig θ}
    (replies_eq : shadowed.1 = lived.1)
    (inStep : InStep first start second other calls lived.2 shadowed.2) :
    WentAlike lived shadowed := by
  obtain ⟨entries, shadow_eq⟩ := inStep.shadow_eq
  constructor
  · exact replies_eq
  all_goals
    rw [shadow_eq]
    rfl

/-- **The result of a call changes nothing but the report of its failure.**  Along any history, and
so along each beginning of one, the loop deals with the messages that it says it handled, one
after the other: it calls the handler for those with tag zero, and nothing else does; the
others it reports and drops.  Another handler that raises the same interrupts on each call,
whatever it returns, has the same history: the same replies, the same requests to the
processor, the same messages queued, waiting and dropped, and as many calls.  The loop asks the
same besides reports of failed calls, and so does the log hold the same besides them, if the
handlers write the same. -/
theorem live_ignores_results (threshold : Log.Level) (handler : Handler η) (rig : Rig η)
    (history : List Stimulus) :
    let lived := rig.live threshold handler history
    let asked := rig.askedAlong threshold handler (history.map Stimulus.operation)
    let served := lived.1.filterMap Reply.handled?
    (asked.filter isDealing = served.map dealing ∧
      lived.2.handlerState = handler.after rig.handlerState (lived.1.filterMap Reply.type?) ∧
      ∃ entries, lived.2.emitted = rig.emitted ++ entries ∧
        (unknownReports served).Sublist entries) ∧
    ∀ (θ : Type) (other : Handler θ) (state : θ),
      handler.RaisesAlike rig.handlerState other state →
      let shadow := rig.withHandler state rig.emitted
      let shadowed := shadow.live threshold other history
      let otherAsked := shadow.askedAlong threshold other (history.map Stimulus.operation)
      WentAlike lived shadowed ∧
        besidesFailures otherAsked = besidesFailures asked ∧
        otherAsked.countP isHandling = asked.countP isHandling ∧
        (handler.WritesAlike rig.handlerState other state →
          besidesFailureReports shadowed.2.emitted = besidesFailureReports lived.2.emitted) := by
  refine ⟨⟨rig.asked_dealings threshold handler history,
    rig.handlerState_live_eq threshold handler history,
    rig.reported_sublist threshold handler history⟩, fun θ other state raises => ?_⟩
  have began := InStep.begin handler other rig state rig.emitted
  obtain ⟨replies_eq, inStep, asked_eq⟩ := began.live threshold raises history
  refine ⟨inStep.wentAlike replies_eq, asked_eq, ?_, fun writes => ?_⟩
  · have counted := congrArg (·.countP isHandling) asked_eq
    simp only [countP_isHandling_besidesFailures] at counted
    exact counted
  · have handed_eq := began.handedAlong_eq threshold raises writes history
    rw [emitted_live, emitted_live, besidesFailureReports_append, besidesFailureReports_append,
      besidesFailureReports_flatMap_emittedAt, besidesFailureReports_flatMap_emittedAt, handed_eq]
    rfl

/-- A handler that follows a script counts its calls. -/
theorem after_scripted (results : List (Option Failure)) (during : List (List Message))
    (made : Nat) (earlier : List MessageKind) :
    (Handler.scripted results during).after made earlier = made + earlier.length := by
  induction earlier generalizing made with
  | nil => rfl
  | cons type rest ih =>
    have later := ih (made + 1)
    rw [List.length_cons, ← Nat.add_assoc, Nat.add_right_comm]
    exact later

/-- Scripts that differ in the results alone raise the same. -/
theorem scripted_raisesAlike (results otherResults : List (Option Failure))
    (during : List (List Message)) :
    Handler.RaisesAlike (.scripted results during) 0 (.scripted otherResults during) 0 := by
  intro earlier type
  rw [Handler.response, Handler.response, after_scripted, after_scripted]
  rfl

/-- A call that raises two interrupts fails, or does not; one of the two is of no known type, and a
burst overflows the queue later on. -/
theorem live_ignores_results_timeout :
    let during : List (List Message) := [[⟨7⟩, ⟨0⟩]]
    let rig := Rig.start (.ofCapacity 2) 0
    let history : List Stimulus :=
      [.raise [⟨0⟩], .cycle, .cycle, .mask, .raise [⟨0⟩, ⟨0⟩, ⟨0⟩], .cycle, .cycle]
    let lived := rig.live .debug (.scripted [] during) history
    let shadow := rig.withHandler 0 rig.emitted
    let shadowed := shadow.live .debug (.scripted [some .timeout] during) history
    Handler.RaisesAlike (.scripted [] during) 0 (.scripted [some .timeout] during) 0 ∧
      lived.1.filterMap Reply.handled? = [⟨0⟩, ⟨7⟩, ⟨0⟩, ⟨0⟩] ∧
      lived.2.emitted.length = 2 ∧ shadowed.2.emitted.length = 3 ∧
      WentAlike lived shadowed ∧
      besidesFailureReports shadowed.2.emitted = besidesFailureReports lived.2.emitted := by
  intro during rig history
  dsimp only
  have raises : Handler.RaisesAlike (.scripted [] during) 0 (.scripted [some .timeout] during) 0 :=
    scripted_raisesAlike [] [some .timeout] during
  obtain ⟨alike, -, -, written⟩ :=
    (live_ignores_results .debug (.scripted [] during) rig history).2 Nat
      (.scripted [some .timeout] during) 0 raises
  exact ⟨raises, by decide +kernel, by decide +kernel, by decide +kernel, alike,
    written fun _ _ => rfl⟩

end Rig

end KernelStart.MainLoop
