import KernelStart.MainLoop.History

/-!
# One cycle of the main loop

A cycle on the rig always comes to an outcome, and the outcome depends on nothing but
whether a message is queued when the cycle begins.  With an empty queue the rig sleeps
(`Rig.cycle_of_empty`); otherwise the message at the front is taken while interrupts are
masked, and served after they are enabled again (`Rig.cycle_of_front`).  The stages of a
cycle have names here, so that facts about a cycle can be put together from facts about
its stages.
-/

set_option autoImplicit false

namespace KernelStart.MainLoop.Rig

variable {η : Type} (threshold : Log.Level) (handler : Handler η)

/-! ## The stages of a cycle -/

/-- The front of the queue is taken. -/
def afterPop (rig : Rig η) : Rig η := { rig with queue := rig.queue.pop.2 }

/-- The drop count is taken, and reported unless it is zero. -/
def afterReport (rig : Rig η) : Rig η :=
  let counted := { rig with queue := rig.queue.takeDropCount.2 }
  if rig.queue.dropped > 0 then
    counted.emit threshold
      [⟨.warn, s!"main queue full: {rig.queue.dropped} message(s) dropped"⟩]
  else
    counted

/-- The handler is called. -/
def afterCall (rig : Rig η) (type : MessageKind) : Rig η :=
  let (response, handlerState) := handler.handle type rig.handlerState
  { (rig.raise response.raised).emit threshold response.logged with handlerState := handlerState }

/-- A message is handed to the handler, and a failure or an unknown message is reported. -/
def afterDelivery (rig : Rig η) (message : Message) : Rig η :=
  match message.type? with
  | none => rig.emit threshold [⟨.error, s!"Unknown message type: {message.tag.toNat}"⟩]
  | some type =>
    match (handler.handle type rig.handlerState).1.result with
    | .ok _ => rig.afterCall threshold handler type
    | .error kind => (rig.afterCall threshold handler type).emit threshold
        [⟨.error, s!"Error while handling {type.name}: {kind.name}"⟩]

/-- A message that was taken is served with interrupts enabled. -/
def afterService (rig : Rig η) (message : Message) : Rig η :=
  ((rig.call .enable).afterReport threshold).afterDelivery threshold handler message

/-! ## What the requests of a cycle come to -/

theorem run_disable (rig : Rig η) :
    (ask .disable).run (environment threshold handler) rig = (.ok (), rig.call .disable) := rfl

theorem run_enable (rig : Rig η) :
    (ask .enable).run (environment threshold handler) rig = (.ok (), rig.call .enable) := rfl

theorem run_enableAndHalt (rig : Rig η) :
    (ask .enableAndHalt).run (environment threshold handler) rig =
      (.ok (), rig.call .enableAndHalt) := rfl

theorem run_pop (rig : Rig η) :
    (ask .pop).run (environment threshold handler) rig =
      (.ok rig.queue.pop.1, rig.afterPop) := rfl

theorem run_takeDropCount (rig : Rig η) :
    (ask .takeDropCount).run (environment threshold handler) rig =
      (.ok rig.queue.dropped, { rig with queue := rig.queue.takeDropCount.2 }) := rfl

theorem run_handle (rig : Rig η) (type : MessageKind) :
    (ask (.handle type)).run (environment threshold handler) rig =
      (.ok (handler.handle type rig.handlerState).1.result, rig.afterCall threshold handler type) :=
  rfl

theorem run_reportDropped (rig : Rig η) :
    (reportDropped rig.queue.dropped).run (environment threshold handler)
        { rig with queue := rig.queue.takeDropCount.2 } =
      (.ok (), rig.afterReport threshold) := by
  unfold reportDropped afterReport
  by_cases some : rig.queue.dropped > 0
  · simp only [if_pos some]
    rfl
  · simp only [if_neg some]
    rfl

theorem run_deliver (rig : Rig η) (message : Message) :
    (MainLoop.deliver message).run (environment threshold handler) rig =
      (.ok (), rig.afterDelivery threshold handler message) := by
  unfold MainLoop.deliver afterDelivery
  cases message.type? with
  | none => rfl
  | some type =>
    refine (Program.run_bind_ok (run_handle threshold handler rig type) _).trans ?_
    dsimp only
    cases (handler.handle type rig.handlerState).1.result with
    | ok _ => rfl
    | error _ => rfl

/-! ## A whole cycle -/

/-- With an empty queue the rig sleeps, and what was waiting is delivered. -/
theorem cycle_of_empty {rig : Rig η} (empty : rig.queue.toList = []) :
    rig.cycle threshold handler =
      (.ok .idle, (rig.call .disable).afterPop.call .enableAndHalt) := by
  have nothing : (rig.call .disable).queue.pop.1 = none := MessageQueue.pop_of_empty empty
  refine (Program.run_bind_ok (run_disable threshold handler rig) _).trans ?_
  refine (Program.run_bind_ok (run_pop threshold handler (rig.call .disable)) _).trans ?_
  rw [nothing]
  exact Program.run_bind_ok (run_enableAndHalt threshold handler (rig.call .disable).afterPop) _

/-- A message at the front of the queue is handled. -/
theorem cycle_of_front {rig : Rig η} {message : Message} {rest : List Message}
    (front : rig.queue.toList = message :: rest) :
    rig.cycle threshold handler =
      (.ok (.handled message),
        (rig.call .disable).afterPop.afterService threshold handler message) := by
  have found : (rig.call .disable).queue.pop.1 = some message := MessageQueue.pop_of_front front
  let taken := (rig.call .disable).afterPop
  let reported := (taken.call .enable).afterReport threshold
  refine (Program.run_bind_ok (run_disable threshold handler rig) _).trans ?_
  refine (Program.run_bind_ok (run_pop threshold handler (rig.call .disable)) _).trans ?_
  rw [found]
  refine (Program.run_bind_ok (run_enable threshold handler taken) _).trans ?_
  refine (Program.run_bind_ok
    (run_takeDropCount threshold handler (taken.call .enable)) _).trans ?_
  refine (Program.run_bind_ok
    (run_reportDropped threshold handler (taken.call .enable)) _).trans ?_
  exact Program.run_bind_ok (run_deliver threshold handler reported message) _

end KernelStart.MainLoop.Rig
