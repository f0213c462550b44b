import KernelStart.MainLoop.Interruption
import KernelStart.Program.Conclusion
import KernelStart.Proofs.DropAccounting
import KernelStart.Proofs.RigFrames

/-!
# The masked window of a cycle

Interrupts can arrive anywhere in a cycle (`Rig.interrupted`), and a cycle may begin with
interrupts masked from outside and some of them waiting.  Still the loop can rely on what it found
while it was masking: nothing gets to the queue between the look at it and the decision to sleep,
and what arrives there in the meantime is let in by the very request that halts.

Two things are kept apart.  Which requests a cycle makes does not depend on interrupts, only on
the answers it gets (`attend_concludes`); what it asks of the processor is read off them
(`Rig.calls_interrupted_cycle`).  What arrives between the requests only matters for the state,
and once interrupts are enabled again nothing that the loop asks lets a message wait
(`Rig.IsAwake.answer`), so it stays awake to the end of the cycle.
-/

set_option autoImplicit false

namespace KernelStart.MainLoop

open Program (Concludes)

/-! ## The requests of a cycle -/

/-- A request that takes a message off the queue. -/
def isPop : LoggedRequest Loop → Bool
  | .plain .pop => true
  | _ => false

/-- A request that calls the handler. -/
def isHandling : LoggedRequest Loop → Bool
  | .plain (.handle _) => true
  | _ => false

/-- A request that leaves the interrupt flag and the queued messages alone. -/
def IsService : LoggedRequest Loop → Prop
  | .log _ => True
  | .plain .takeDropCount => True
  | .plain (.handle _) => True
  | _ => False

/-- What a cycle does with a message after it has enabled interrupts again. -/
def attend (message : Message) : Program (Logged Loop) Outcome := do
  reportDropped (← ask .takeDropCount)
  MainLoop.deliver message
  pure (.handled message)

/-- The requests that the processor carries out. -/
def cpuCalls : LoggedRequest Loop → List CpuCall
  | .log _ => []
  | .plain request => request.cpuCall?.toList

theorem IsService.isPop_eq_false {request : LoggedRequest Loop} (service : IsService request) :
    isPop request = false := by
  rcases request with _ | request
  · rfl
  · cases request <;> first | rfl | cases service

/-- Service asks nothing of the processor. -/
theorem IsService.cpuCalls_eq {request : LoggedRequest Loop} (service : IsService request) :
    cpuCalls request = [] := by
  rcases request with _ | request
  · rfl
  · cases request <;> first | rfl | cases service

theorem reportDropped_concludes (count : Nat) :
    (reportDropped count).Concludes IsService fun made _ => made.countP isHandling = 0 := by
  unfold reportDropped
  split
  · exact ⟨trivial, fun _ => rfl⟩
  · exact rfl

theorem deliver_concludes (message : Message) :
    (MainLoop.deliver message).Concludes IsService
      fun made _ => made.countP isHandling ≤ 1 := by
  unfold MainLoop.deliver
  cases message.type? with
  | none => exact ⟨trivial, fun _ => Nat.zero_le 1⟩
  | some type =>
    refine ⟨trivial, fun result => ?_⟩
    cases result with
    | ok _ => exact Nat.le_refl 1
    | error _ => exact ⟨trivial, fun _ => Nat.le_refl 1⟩

/-- With interrupts enabled a cycle calls the handler at most once, and comes to the message as
handled. -/
theorem attend_concludes (message : Message) :
    (attend message).Concludes IsService
      fun made outcome => outcome = .handled message ∧ made.countP isHandling ≤ 1 := by
  refine ⟨trivial, fun count => ?_⟩
  refine (reportDropped_concludes count).bind fun reports _ reporting => ?_
  refine (deliver_concludes message).bind fun made _ delivering => ⟨rfl, ?_⟩
  have total : (LoggedRequest.plain Request.takeDropCount :: (reports ++ (made ++ []))).countP
      isHandling = 0 + made.countP isHandling := by
    rw [List.countP_cons_of_neg (by decide), List.countP_append, reporting, List.append_nil]
  rw [total, Nat.zero_add]
  exact delivering

namespace Rig

variable {η : Type}

/-! ## Bursts of interrupts -/

/-- The queue takes messages as long as there is room, and counts the others. -/
theorem queue_offerAll (rig : Rig η) (messages : List Message) :
    (rig.offerAll messages).queue.toList = rig.queue.toList ++
        messages.take (rig.queue.capacity - rig.queue.toList.length) ∧
      (rig.offerAll messages).queue.dropped = rig.queue.dropped +
        (messages.length - (rig.queue.capacity - rig.queue.toList.length)) := by
  induction messages generalizing rig with
  | nil =>
    rw [List.take_nil, List.append_nil, List.length_nil, Nat.zero_sub, Nat.add_zero]
    exact ⟨rfl, rfl⟩
  | cons message rest ih =>
    obtain ⟨queued, counted⟩ := ih (rig.offer message)
    by_cases full : rig.queue.isFull = true
    · have queue_eq : (rig.offer message).queue =
          { rig.queue with dropped := rig.queue.dropped + 1 } := by
        rw [offer, MessageQueue.push, if_pos full]
      have toList_eq : (rig.offer message).queue.toList = rig.queue.toList := by
        rw [queue_eq, MessageQueue.toList, MessageQueue.toList]
      have noRoom := Nat.sub_eq_zero_of_le (rig.queue.isFull_iff.1 full)
      rw [toList_eq, queue_eq, noRoom] at queued counted
      rw [noRoom]
      refine ⟨queued, counted.trans ?_⟩
      rw [List.length_cons, Nat.sub_zero, Nat.sub_zero, Nat.add_assoc, Nat.add_comm 1]
    · have queue_eq : (rig.offer message).queue =
          { rig.queue with pending := rig.queue.pending.push message } := by
        rw [offer, MessageQueue.push, if_neg full]
      have toList_eq : (rig.offer message).queue.toList = rig.queue.toList ++ [message] := by
        rw [queue_eq, MessageQueue.toList, Fifo.toList_push, MessageQueue.toList]
      have room := Nat.not_le.1 (mt rig.queue.isFull_iff.2 full)
      obtain ⟨left, left_eq⟩ := Nat.exists_eq_add_of_lt room
      have before : rig.queue.capacity - rig.queue.toList.length = left + 1 := by omega
      have after : rig.queue.capacity - (rig.queue.toList ++ [message]).length = left := by
        rw [List.length_append, List.length_singleton]
        omega
      rw [toList_eq, queue_eq, after] at queued counted
      rw [before, List.take_succ_cons, List.length_cons, Nat.add_sub_add_right]
      exact ⟨queued.trans (List.append_assoc ..), counted⟩

/-- Interrupts are enabled and none waits. -/
structure IsAwake (rig : Rig η) : Prop where
  enabled_eq : rig.enabled = true
  waiting_eq : rig.waiting = []

/-- Interrupts that arrive do not wait. -/
theorem IsAwake.raise {rig : Rig η} (awake : rig.IsAwake) (messages : List Message) :
    (rig.raise messages).IsAwake := by
  rw [Rig.raise, if_pos awake.enabled_eq, offerAll_eq]
  exact ⟨awake.enabled_eq, awake.waiting_eq⟩

/-! ## Requests among interrupts -/

variable (threshold : Log.Level) (handler : Handler η) (arriving : Nat → List Message)

/-- Whatever arrives, every request is answered. -/
theorem interrupted_serves :
    Environment.Serves (interrupted threshold handler arriving) fun _ => True := by
  rintro (_ | request) - state
  · exact ⟨_, _, rfl⟩
  · cases request <;> exact ⟨_, _, rfl⟩

/-- Once interrupts are enabled, none waits for the rest of the cycle. -/
theorem IsAwake.answer {state : Rig η × Nat} (awake : state.1.IsAwake)
    {request : LoggedRequest Loop} (service : IsService request) :
    (interrupted threshold handler arriving request state).2.1.IsAwake := by
  have raised := awake.raise (arriving state.2)
  cases request with
  | log _ => exact ⟨raised.enabled_eq, raised.waiting_eq⟩
  | plain request =>
    cases request with
    | takeDropCount => exact ⟨raised.enabled_eq, raised.waiting_eq⟩
    | handle type =>
      have again := raised.raise
        (handler.handle type (state.1.raise (arriving state.2)).handlerState).1.raised
      exact ⟨again.enabled_eq, again.waiting_eq⟩
    | _ => cases service

theorem calls_interrupted (request : LoggedRequest Loop) (state : Rig η × Nat) :
    (interrupted threshold handler arriving request state).2.1.calls =
      state.1.calls ++ cpuCalls request := by
  have raised := calls_raise state.1 (arriving state.2)
  have unrecorded := raised.trans (List.append_nil _).symm
  cases request with
  | log _ => exact unrecorded
  | plain request =>
    cases request with
    | disable => exact congrArg (· ++ [CpuCall.disable]) raised
    | enable => exact congrArg (· ++ [CpuCall.enable]) raised
    | enableAndHalt => exact congrArg (· ++ [CpuCall.enableAndHalt]) raised
    | pop => exact unrecorded
    | takeDropCount => exact unrecorded
    | handle type => exact (calls_raise _ _).trans unrecorded

/-! ## A cycle among interrupts -/

/-- A cycle that puts the processor to sleep: it makes these requests, and the burst that came in
the masked window is in the queue, as far as it fits. -/
structure SleepsThrough (found : Rig η) (burst : List Message)
    (requests : List (LoggedRequest Loop)) (reached : Rig η) : Prop where
  requests_eq : requests = [.plain .disable, .plain .pop, .plain .enableAndHalt]
  calls_eq : reached.calls = found.calls ++ [.disable, .enableAndHalt]
  queued_eq : reached.queue.toList = burst.take found.queue.capacity
  dropped_eq : reached.queue.dropped =
    found.queue.dropped + (burst.length - found.queue.capacity)

/-- A cycle that handles a message: it takes it from the front in the masked window, and calls the
handler at most once, awake. -/
structure AttendsTo (found : Rig η) (message : Message)
    (moments : List (Moment (Logged Loop) (Rig η × Nat))) (reached : Rig η) : Prop where
  front : found.queue.toList.head? = some message
  calls_eq : reached.calls = found.calls ++ [.disable, .enable]
  pops_once : (moments.map (·.request)).countP isPop = 1
  pops_masked : ∀ moment ∈ moments, isPop moment.request = true →
    moment.state.1.enabled = false
  handles_once : (moments.map (·.request)).countP isHandling ≤ 1
  handles_awake : ∀ moment ∈ moments, isHandling moment.request = true →
    moment.state.1.enabled = true

/-- Interrupts are masked, and what arrives by then waits. -/
def masked (rig : Rig η) : Rig η := ((rig.raise (arriving 0)).call .disable).raise (arriving 1)

/-- A cycle takes from the queue that it found when it masked interrupts, and goes on with what was
there. -/
theorem run_interrupted_cycle (rig : Rig η) :
    MainLoop.cycle.run (interrupted threshold handler arriving) (rig, 0) =
      (goOn (rig.raise (arriving 0)).queue.pop.1).run (interrupted threshold handler arriving)
        ((rig.masked arriving).afterPop, 2) := rfl

theorem moments_interrupted_cycle (rig : Rig η) :
    MainLoop.cycle.moments (interrupted threshold handler arriving) (rig, 0) =
      ⟨.plain .disable, (rig, 0)⟩ ::
        ⟨.plain .pop, ((rig.raise (arriving 0)).call .disable, 1)⟩ ::
          (goOn (rig.raise (arriving 0)).queue.pop.1).moments
            (interrupted threshold handler arriving) ((rig.masked arriving).afterPop, 2) := rfl

/-- What the processor is asked in a cycle is read off the requests of the cycle. -/
theorem calls_interrupted_cycle (rig : Rig η) :
    (MainLoop.cycle.run (interrupted threshold handler arriving) (rig, 0)).2.1.calls =
      (rig.raise (arriving 0)).calls ++
        (MainLoop.cycle.requests (interrupted threshold handler arriving) (rig, 0)).flatMap
          cpuCalls := by
  let record (state : Rig η × Nat) : List CpuCall := state.1.calls
  have step (request : LoggedRequest Loop) (state : Rig η × Nat) :
      record (interrupted threshold handler arriving request state).2 =
        record state ++ cpuCalls request :=
    calls_interrupted threshold handler arriving request state
  rw [calls_raise]
  exact Program.run_records step MainLoop.cycle (rig, 0)

/-- With nothing in the queue the processor halts, and everything that waits is let in. -/
theorem sleepsThrough_of_empty {rig : Rig η}
    (empty : (rig.raise (arriving 0)).queue.toList = []) :
    ∃ reached, MainLoop.cycle.run (interrupted threshold handler arriving) (rig, 0) =
        (.ok .idle, (reached, 3)) ∧
      (rig.raise (arriving 0)).SleepsThrough
        ((rig.raise (arriving 0)).waiting ++ arriving 1 ++ arriving 2)
        (MainLoop.cycle.requests (interrupted threshold handler arriving) (rig, 0)) reached ∧
      reached.IsAwake := by
  let found := rig.raise (arriving 0)
  let burst := found.waiting ++ arriving 1 ++ arriving 2
  let looked := (rig.masked arriving).afterPop.raise (arriving 2)
  have popped : found.queue.pop.1 = none := MessageQueue.pop_of_empty empty
  have queue_eq : looked.queue = found.queue := MessageQueue.pop_eq_self_of_empty empty
  have ran : MainLoop.cycle.run (interrupted threshold handler arriving) (rig, 0) =
      (.ok .idle, (looked.call .enableAndHalt, 3)) := by
    rw [run_interrupted_cycle, popped]
    rfl
  have requests_eq : MainLoop.cycle.requests (interrupted threshold handler arriving) (rig, 0) =
      [.plain .disable, .plain .pop, .plain .enableAndHalt] := by
    rw [Program.requests, moments_interrupted_cycle, popped]
    rfl
  have calls_eq := calls_interrupted_cycle threshold handler arriving rig
  rw [ran, requests_eq] at calls_eq
  obtain ⟨queued, counted⟩ := looked.queue_offerAll burst
  rw [queue_eq, empty, List.nil_append, List.length_nil, Nat.sub_zero] at queued
  rw [queue_eq, empty, List.length_nil, Nat.sub_zero] at counted
  exact ⟨_, ran, ⟨requests_eq, calls_eq, queued, counted⟩, rfl, rfl⟩

/-- Attending to a message from awake on, the loop stays awake. -/
theorem attend_of_isAwake (message : Message) (state : Rig η × Nat) (awake : state.1.IsAwake) :
    ∃ reached made, (attend message).run (interrupted threshold handler arriving) state =
        (.ok (.handled message), (reached, made)) ∧
      reached.IsAwake ∧
      ((attend message).requests (interrupted threshold handler arriving) state).countP
        isHandling ≤ 1 ∧
      ∀ moment ∈ (attend message).moments (interrupted threshold handler arriving) state,
        IsService moment.request ∧ moment.state.1.IsAwake := by
  have concludes := attend_concludes message
  have serves : (interrupted threshold handler arriving).Serves IsService := fun request _ =>
    interrupted_serves threshold handler arriving request trivial
  let holds (state : Rig η × Nat) : Prop := state.1.IsAwake
  have step (request : LoggedRequest Loop) (service : IsService request) (state : Rig η × Nat)
      (before : holds state) : holds (interrupted threshold handler arriving request state).2 :=
    IsAwake.answer threshold handler arriving before service
  have start : holds state := awake
  obtain ⟨_, ⟨reached, made⟩, attended, rfl, once⟩ := concludes.run_ok serves state
  obtain ⟨throughout, last⟩ := concludes.asks.run_preserves step start
  rw [attended] at last
  exact ⟨reached, made, attended, last, once, fun moment among =>
    ⟨concludes.asks.of_mem_moments among, throughout moment among⟩⟩

/-- A message was taken off the queue, and interrupts are enabled again. -/
def taken (rig : Rig η) : Rig η :=
  ((rig.masked arriving).afterPop.raise (arriving 2)).call .enable

section Front

variable {rig : Rig η} {message : Message} {rest : List Message}
  (front : (rig.raise (arriving 0)).queue.toList = message :: rest)
include front

/-- A cycle that finds a message attends to it. -/
theorem run_interrupted_of_front :
    MainLoop.cycle.run (interrupted threshold handler arriving) (rig, 0) =
      (attend message).run (interrupted threshold handler arriving) (rig.taken arriving, 3) := by
  rw [run_interrupted_cycle, MessageQueue.pop_of_front front]
  rfl

theorem moments_interrupted_of_front :
    MainLoop.cycle.moments (interrupted threshold handler arriving) (rig, 0) =
      ⟨.plain .disable, (rig, 0)⟩ ::
        ⟨.plain .pop, ((rig.raise (arriving 0)).call .disable, 1)⟩ ::
          ⟨.plain .enable, ((rig.masked arriving).afterPop, 2)⟩ ::
            (attend message).moments (interrupted threshold handler arriving)
              (rig.taken arriving, 3) := by
  rw [moments_interrupted_cycle, MessageQueue.pop_of_front front]
  rfl

/-- A message at the front of the queue is attended to, with interrupts enabled. -/
theorem attendsTo_of_front :
    ∃ reached made, MainLoop.cycle.run (interrupted threshold handler arriving) (rig, 0) =
        (.ok (.handled message), (reached, made)) ∧
      (rig.raise (arriving 0)).AttendsTo message
        (MainLoop.cycle.moments (interrupted threshold handler arriving) (rig, 0)) reached ∧
      reached.IsAwake := by
  let surroundings := interrupted threshold handler arriving
  let later := (attend message).moments surroundings (rig.taken arriving, 3)
  have ran := run_interrupted_of_front threshold handler arriving front
  have moments_eq : MainLoop.cycle.moments surroundings (rig, 0) =
      ⟨.plain .disable, _⟩ :: ⟨.plain .pop, _⟩ :: ⟨.plain .enable, _⟩ :: later :=
    moments_interrupted_of_front threshold handler arriving front
  have awake : (rig.taken arriving).IsAwake := ⟨rfl, rfl⟩
  obtain ⟨reached, made, attended, last, once, throughout⟩ :=
    attend_of_isAwake threshold handler arriving message (rig.taken arriving, 3) awake
  have noPop (moment : Moment (Logged Loop) (Rig η × Nat)) (among : moment ∈ later) :
      isPop moment.request = false := (throughout moment among).1.isPop_eq_false
  have noneLater : (later.map (·.request)).countP isPop = 0 := by
    rw [List.countP_map, List.countP_eq_zero]
    exact fun moment among => Bool.eq_false_iff.1 (noPop moment among)
  have noCalls : (later.map (·.request)).flatMap cpuCalls = [] := by
    rw [List.flatMap_map, List.flatMap_eq_nil_iff]
    exact fun moment among => (throughout moment among).1.cpuCalls_eq
  refine ⟨reached, made, ran.trans attended, ?_, last⟩
  constructor
  case front => rw [front, List.head?_cons]
  case calls_eq =>
    have calls_eq := calls_interrupted_cycle threshold handler arriving rig
    rw [Program.requests, ran.trans attended, moments_eq] at calls_eq
    simp only [List.map_cons, List.flatMap_cons, noCalls] at calls_eq
    exact calls_eq
  case pops_once =>
    rw [moments_eq]
    simp only [List.map_cons, List.countP_cons, noneLater]
    rfl
  case pops_masked =>
    rw [moments_eq, List.forall_mem_cons, List.forall_mem_cons, List.forall_mem_cons]
    refine ⟨(absurd · Bool.false_ne_true), fun _ => rfl, (absurd · Bool.false_ne_true),
      fun moment among pops => ?_⟩
    rw [noPop moment among] at pops
    cases pops
  case handles_once =>
    rw [moments_eq]
    simp only [List.map_cons, List.countP_cons]
    exact once
  case handles_awake =>
    rw [moments_eq, List.forall_mem_cons, List.forall_mem_cons, List.forall_mem_cons]
    refine ⟨(absurd · Bool.false_ne_true), (absurd · Bool.false_ne_true),
      (absurd · Bool.false_ne_true), fun moment among _ => ?_⟩
    exact (throughout moment among).2.enabled_eq

end Front

/-- **Interrupts are masked for one look at the queue, and none is lost that comes meanwhile.**
From any state of the rig, and with interrupts arriving between any two requests of a cycle: the
cycle sleeps exactly if the queue was empty when interrupts were masked, and then everything
that was waiting, or came before the processor halted, is in the queue in order, or is counted
as dropped where it did not fit.  Otherwise the cycle handles the message that was at the front
then, takes it while interrupts are masked, and calls the handler at most once and with
interrupts enabled.  Either way it ends with interrupts enabled and none waiting. -/
theorem cycle_masks_briefly (threshold : Log.Level) (handler : Handler η)
    (arriving : Nat → List Message) (rig : Rig η) :
    let found := rig.raise (arriving 0)
    let moments := MainLoop.cycle.moments (interrupted threshold handler arriving) (rig, 0)
    ∃ outcome reached made,
      MainLoop.cycle.run (interrupted threshold handler arriving) (rig, 0) =
        (.ok outcome, (reached, made)) ∧
      (outcome = .idle ↔ found.queue.toList = []) ∧
      (outcome = .idle → found.SleepsThrough (found.waiting ++ arriving 1 ++ arriving 2)
        (moments.map (·.request)) reached) ∧
      (∀ message, outcome = .handled message → found.AttendsTo message moments reached) ∧
      reached.enabled = true ∧ reached.waiting = [] := by
  intro found moments
  cases queued : found.queue.toList with
  | nil =>
    obtain ⟨reached, ran, sleeps, awake⟩ :=
      sleepsThrough_of_empty threshold handler arriving queued
    refine ⟨.idle, reached, 3, ran, ⟨fun _ => rfl, fun _ => rfl⟩, fun _ => sleeps, nofun, ?_⟩
    exact ⟨awake.enabled_eq, awake.waiting_eq⟩
  | cons message rest =>
    obtain ⟨reached, made, ran, attends, awake⟩ :=
      attendsTo_of_front threshold handler arriving queued
    refine ⟨.handled message, reached, made, ran, ⟨nofun, nofun⟩, nofun, ?_, ?_⟩
    · intro other same
      obtain rfl := Outcome.handled.inj same
      exact attends
    · exact ⟨awake.enabled_eq, awake.waiting_eq⟩

-- Interrupts come before the look at the queue and behind it, and the queue has room for two.
example :
    let arriving (made : Nat) : List Message := [[], [⟨0⟩], [⟨1⟩, ⟨2⟩]].getD made []
    let (_, (reached, _)) := MainLoop.cycle.run (interrupted .debug (.scripted [] []) arriving)
      (start (.ofCapacity 2) 0, 0)
    reached.calls = [.disable, .enableAndHalt] ∧ reached.queue.toList = [⟨0⟩, ⟨1⟩] ∧
      reached.queue.dropped = 1 := by decide

end Rig

end KernelStart.MainLoop
