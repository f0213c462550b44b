import Mathlib.Data.List.Forall2
import KernelStart.Machine.Bus
import KernelStart.Proofs.RegisterAccess

/-!
# What a reset tells the controller

Resetting a controller asks its status, tells it to reset, waits twice for it to be done with
that, and enables its interrupter.  The controller answers as it likes: it can change its mind
between two reads, and the driver must neither wait forever nor tell it anything on the wrong
occasion.

What the driver did can be told from the dialogue alone.  `Polls` are the reads of one wait,
at most as many as the limit says, and `ResetCourse` lists the dialogues that a reset can have
(`ResetCourse.of_reaches`): it ends with the first read, in either wait, or with the last of three
changes (`resetSteps`).  On such a dialogue the outcome can be read off the answers, and the writes
off the outcome (`ResetCourse.resetOutcome`).

All that this asks of a controller is that its registers have addresses; one that was located in
the lower half of virtual memory has them.  Then the reset comes to a value on every device that
answers, and with that to the end of one of these dialogues (`reset_outcome`).
-/

set_option autoImplicit false

namespace KernelStart.Usb.Controller

open Program Mmio

/-! ## Waiting -/

/-- Words that a wait for a bit reads: the bit is set in each but the last, and if it is set there
too, as many were read as the limit says. -/
inductive Polls (bit : UInt32) : Nat → List UInt32 → Except Failure Unit → Prop where
  | givenUp : Polls bit 0 [] (.error .timeout)
  | cleared {limit : Nat} {word : UInt32} (clear : hasBit word bit = false) :
      Polls bit (limit + 1) [word] (.ok ())
  | again {limit : Nat} {word : UInt32} {words : List UInt32} {outcome : Except Failure Unit}
      (set : hasBit word bit = true) (later : Polls bit limit words outcome) :
      Polls bit (limit + 1) (word :: words) outcome

/-- There are as many words as the limit says, and the bit is set in all of them up to there. -/
def StaysSet (bit : UInt32) (limit : Nat) (words : List UInt32) : Prop :=
  limit ≤ words.length ∧ ∀ word ∈ words.take limit, hasBit word bit = true

/-- The bit is clear in one of the words, within the limit. -/
def Clears (bit : UInt32) (limit : Nat) (words : List UInt32) : Prop :=
  ∃ word ∈ words.take limit, hasBit word bit = false

variable {bit : UInt32} {limit : Nat} {words : List UInt32}

theorem Clears.not_staysSet (clears : Clears bit limit words) : ¬StaysSet bit limit words := by
  obtain ⟨word, member, clear⟩ := clears
  exact fun stays => Bool.false_ne_true (clear.symm.trans (stays.2 word member))

theorem not_staysSet_nil (positive : 0 < limit) : ¬StaysSet bit limit [] :=
  fun stays => Nat.not_le.2 positive stays.1

namespace Polls

theorem of_reaches {register : UInt64} {conversation : Conversation Mmio}
    {outcome : Except Failure Unit}
    (reaches : Reaches (waitForClear (read register) bit limit) conversation (.done outcome)) :
    ∃ words, conversation = readsOf register words ∧ Polls bit limit words outcome := by
  induction limit generalizing conversation with
  | zero =>
    obtain ⟨rfl, ended⟩ := reaches.of_done
    cases ended
    exact ⟨[], rfl, .givenUp⟩
  | succ limit ih =>
    obtain ⟨early, late, word, rfl, asked, onward⟩ := reaches.of_bind_done
    rw [reaches_read asked]
    cases held : hasBit word bit with
    | true =>
      rw [if_pos held] at onward
      obtain ⟨words, rfl, polls⟩ := ih onward
      exact ⟨word :: words, rfl, .again held polls⟩
    | false =>
      rw [if_neg (Bool.eq_false_iff.1 held)] at onward
      obtain ⟨rfl, ended⟩ := onward.of_done
      cases ended
      exact ⟨[word], rfl, .cleared held⟩

/-- A wait that was given up saw the bit set as often as the limit says. -/
theorem staysSet {kind : Failure} (polls : Polls bit limit words (.error kind)) :
    kind = .timeout ∧ StaysSet bit limit words := by
  generalize ended : (Except.error kind : Except Failure Unit) = outcome at polls
  induction polls with
  | givenUp =>
    cases ended
    exact ⟨rfl, Nat.zero_le _, fun _ none => nomatch none⟩
  | cleared _ => cases ended
  | again set _ ih =>
    obtain ⟨timeout, enough, all⟩ := ih ended
    exact ⟨timeout, Nat.succ_le_succ enough, List.forall_mem_cons.2 ⟨set, all⟩⟩

/-- A wait that succeeded saw the bit clear, whatever is read of the register later. -/
theorem clears (polls : Polls bit limit words (.ok ())) (more : List UInt32) :
    Clears bit limit (words ++ more) := by
  generalize ended : (Except.ok () : Except Failure Unit) = outcome at polls
  induction polls with
  | givenUp => cases ended
  | cleared clear => exact ⟨_, List.mem_cons_self, clear⟩
  | again _ _ ih =>
    obtain ⟨word, member, clear⟩ := ih ended
    exact ⟨word, List.mem_cons_of_mem _ member, clear⟩

end Polls

/-! ## The dialogues of a reset -/

variable {controller : Controller} {conversation : Conversation Mmio}
  {outcome : Except Failure Unit}

/-- Dialogues after the controller was told to reset. -/
inductive ResetCourse.Waits (controller : Controller) :
    Conversation Mmio → Except Failure Unit → Prop where
  | stuck {words : List UInt32} {kind : Failure}
      (stays : Polls resetBit pollLimit words (.error kind)) :
      Waits controller (readsOf controller.commandRegister words) (.error kind)
  | notReady {words more : List UInt32} {kind : Failure}
      (clears : Polls resetBit pollLimit words (.ok ()))
      (stays : Polls notReadyBit pollLimit more (.error kind)) :
      Waits controller
        (readsOf controller.commandRegister words ++ readsOf controller.statusRegister more)
        (.error kind)
  | ready {words more : List UInt32} {interrupts commands : UInt32}
      (clears : Polls resetBit pollLimit words (.ok ()))
      (becomesReady : Polls notReadyBit pollLimit more (.ok ())) :
      Waits controller
        (readsOf controller.commandRegister words ++ (readsOf controller.statusRegister more ++
          (changeOf controller.interrupterRegister enabling interrupts ++
            changeOf controller.commandRegister (· ||| interrupterEnableBit) commands)))
        (.ok ())

/-- Dialogues of a reset, with what they come to. -/
inductive ResetCourse (controller : Controller) :
    Conversation Mmio → Except Failure Unit → Prop where
  | running {status : UInt32} (notHalted : hasBit status haltedBit = false) :
      ResetCourse controller (readsOf controller.statusRegister [status])
        (.error .controllerNotHalted)
  | halted {status commands : UInt32} {later : Conversation Mmio} {outcome : Except Failure Unit}
      (isHalted : hasBit status haltedBit = true)
      (waits : ResetCourse.Waits controller later outcome) :
      ResetCourse controller
        (readsOf controller.statusRegister [status] ++
          (changeOf controller.commandRegister (· ||| resetBit) commands ++ later)) outcome

/-- What is done after a wait follows its reads; it is not done if the wait was given up. -/
theorem Polls.of_reaches_bind {register : UInt64} {next : Program Mmio (Except Failure Unit)}
    (reaches : Reaches
      ((waitForClear (read register) bit limit).bind fun
        | .error kind => .done (.error kind)
        | .ok _ => next)
      conversation (.done outcome)) :
    ∃ words later, conversation = readsOf register words ++ later ∧
      ((∃ kind, outcome = .error kind ∧ later = [] ∧ Polls bit limit words (.error kind)) ∨
        Polls bit limit words (.ok ()) ∧ Reaches next later (.done outcome)) := by
  obtain ⟨_, later, waited, rfl, waiting, onward⟩ := reaches.of_bind_done
  obtain ⟨words, rfl, polls⟩ := Polls.of_reaches waiting
  refine ⟨words, later, rfl, ?_⟩
  cases waited with
  | ok _ => exact .inr ⟨polls, onward⟩
  | error kind =>
    obtain ⟨rfl, ended⟩ := onward.of_done
    cases ended
    exact .inl ⟨kind, rfl, rfl, polls⟩

/-- A reset that has come to its value had one of its dialogues. -/
theorem ResetCourse.of_reaches (registers : controller.HasRegisters)
    (reaches : Reaches controller.reset conversation (.done outcome)) :
    ResetCourse controller conversation outcome := by
  rw [reset, registers.status_eq, command_eq, raiseCommand_eq,
    registers.enableInterrupter_eq] at reaches
  obtain ⟨_, _, status, rfl, asked, onward⟩ := reaches.of_bind_done
  rw [reaches_read asked]
  cases isHalted : hasBit status haltedBit with
  | false =>
    rw [isHalted] at onward
    obtain ⟨rfl, ended⟩ := onward.of_done
    cases ended
    exact .running isHalted
  | true =>
    rw [isHalted] at onward
    obtain ⟨_, _, _, rfl, changed, waits⟩ := onward.of_bind_done
    obtain ⟨commands, rfl⟩ := reaches_modify changed
    refine .halted isHalted ?_
    obtain ⟨words, _, rfl, ⟨kind, rfl, rfl, stays⟩ | ⟨clears, waitsAgain⟩⟩ :=
      Polls.of_reaches_bind waits
    · rw [List.append_nil]
      exact .stuck stays
    obtain ⟨more, _, rfl, ⟨kind, rfl, rfl, stays⟩ | ⟨becomesReady, enables⟩⟩ :=
      Polls.of_reaches_bind waitsAgain
    · rw [List.append_nil]
      exact .notReady clears stays
    obtain ⟨_, _, _, rfl, enabled, ending⟩ := enables.of_bind_done
    obtain ⟨_, _, _, rfl, first, second⟩ := enabled.of_bind_done
    obtain ⟨interrupts, rfl⟩ := reaches_modify first
    obtain ⟨commandsAgain, rfl⟩ := reaches_modify second
    obtain ⟨rfl, ended⟩ := ending.of_done
    cases ended
    rw [List.append_nil]
    exact .ready clears becomesReady

/-! ## What can be told from a dialogue -/

/-- What a register was read as after the controller had been told something. -/
def polls (register : UInt64) (conversation : Conversation Mmio) : List UInt32 :=
  answersAt register (afterFirstWrite conversation)

/-- The status that was read first is not that of a halted controller. -/
def FoundRunning (controller : Controller) (conversation : Conversation Mmio) : Prop :=
  ∃ status, (answersAt controller.statusRegister conversation).head? = some status ∧
    hasBit status haltedBit = false

/-- The controller did not end the reset, or it did and did not become ready, for as long as the
driver may wait. -/
def TimedOut (controller : Controller) (conversation : Conversation Mmio) : Prop :=
  StaysSet resetBit pollLimit (polls controller.commandRegister conversation) ∨
    Clears resetBit pollLimit (polls controller.commandRegister conversation) ∧
      StaysSet notReadyBit pollLimit (polls controller.statusRegister conversation)

/-- The changes that a reset makes, in order. -/
def resetSteps (controller : Controller) : List (UInt64 × (UInt32 → UInt32)) :=
  [(controller.commandRegister, (· ||| resetBit)),
    (controller.interrupterRegister, enabling),
    (controller.commandRegister, (· ||| interrupterEnableBit))]

/-- How many of its changes a reset has made when it ends. -/
def stepsMade : Except Failure Unit → Nat
  | .ok _ => 3
  | .error .timeout => 1
  | .error _ => 0

/-- What a reset came to and what it wrote agree with what the controller answered. -/
structure ResetOutcome (controller : Controller) (conversation : Conversation Mmio)
    (outcome : Except Failure Unit) : Prop where
  notHalted_iff : outcome = .error .controllerNotHalted ↔ controller.FoundRunning conversation
  timeout_iff : outcome = .error .timeout ↔ controller.TimedOut conversation
  succeeds_otherwise : outcome ≠ .error .controllerNotHalted → outcome ≠ .error .timeout →
    outcome = .ok ()
  writes : List.Forall₂ Update.Makes (updates conversation)
    (controller.resetSteps.take (stepsMade outcome))
  /-- The second change is the one that is meant for the interrupter. -/
  secondWrite_sparesPending : ∀ update, (updates conversation)[1]? = some update →
    hasBit update.value interruptPendingBit = false
  /-- Nor is the bit written otherwise, unless the controller claims that the interrupter lies at
  its command register. -/
  writesAt_sparePending : controller.interrupterRegister ≠ controller.commandRegister →
    ∀ update ∈ updates conversation, update.register = controller.interrupterRegister →
      hasBit update.value interruptPendingBit = false

theorem hasBit_enabling (word : UInt32) : hasBit (enabling word) interruptPendingBit = false := by
  have cleared : enabling word &&& interruptPendingBit = 0 := by
    rw [enabling, ← UInt32.toBitVec_inj]
    simp only [UInt32.toBitVec_and, UInt32.toBitVec_or, UInt32.toBitVec_not,
      BitVec.and_or_distrib_right, BitVec.and_assoc, BitVec.not_and_self, BitVec.ofNat_eq_ofNat,
      BitVec.and_zero]
    rfl
  rw [hasBit, cleared]
  rfl

/-- The updates of a dialogue make the steps at the same places. -/
theorem makes_of_getElem? {written : List Update} {steps : List (UInt64 × (UInt32 → UInt32))}
    (made : List.Forall₂ Update.Makes written steps) {index : Nat} {update : Update}
    (found : written[index]? = some update) :
    ∃ step, steps[index]? = some step ∧ update.Makes step := by
  induction made generalizing index with
  | nil => cases found
  | cons makes _ ih =>
    cases index with
    | zero =>
      cases found
      exact ⟨_, rfl, makes⟩
    | succ index => exact ih found

section

variable {written : List Update} {count : Nat} {update : Update}

theorem resetSteps_of_getElem?
    (made : List.Forall₂ Update.Makes written (controller.resetSteps.take count)) {index : Nat}
    (found : written[index]? = some update) :
    ∃ step, controller.resetSteps[index]? = some step ∧ update.Makes step := by
  obtain ⟨step, isStep, makes⟩ := makes_of_getElem? made found
  rw [List.getElem?_take, Option.ite_none_right_eq_some] at isStep
  exact ⟨step, isStep.2, makes⟩

theorem sparesPending {register : UInt64} (makes : update.Makes (register, enabling)) :
    hasBit update.value interruptPendingBit = false := by
  obtain ⟨word, -, written⟩ := Option.map_eq_some_iff.1 makes.2
  exact written ▸ hasBit_enabling word

theorem secondWrite_sparesPending
    (made : List.Forall₂ Update.Makes written (controller.resetSteps.take count))
    (second : written[1]? = some update) : hasBit update.value interruptPendingBit = false := by
  obtain ⟨_, isStep, makes⟩ := resetSteps_of_getElem? made second
  cases isStep
  exact sparesPending makes

theorem writesAt_sparePending
    (made : List.Forall₂ Update.Makes written (controller.resetSteps.take count))
    (apart : controller.interrupterRegister ≠ controller.commandRegister)
    (member : update ∈ written) (there : update.register = controller.interrupterRegister) :
    hasBit update.value interruptPendingBit = false := by
  obtain ⟨index, found⟩ := List.mem_iff_getElem?.1 member
  obtain ⟨step, isStep, makes⟩ := resetSteps_of_getElem? made found
  have notCommand : step.1 ≠ controller.commandRegister := fun same =>
    apart (there.symm.trans (makes.1.trans same))
  have cases : step ∈ controller.resetSteps := List.mem_of_getElem? isStep
  simp only [resetSteps, List.mem_cons, List.not_mem_nil, or_false] at cases
  obtain rfl | rfl | rfl := cases
  · exact absurd rfl notCommand
  · exact sparesPending makes
  · exact absurd rfl notCommand

end

/-! ## What a reset comes to -/

namespace ResetCourse

theorem Waits.outcome_cases {later : Conversation Mmio} (waits : Waits controller later outcome) :
    outcome = .error .timeout ∨ outcome = .ok () := by
  cases waits with
  | stuck stays => exact .inl (congrArg _ stays.staysSet.1)
  | notReady _ stays => exact .inl (congrArg _ stays.staysSet.1)
  | ready _ _ => exact .inr rfl

/-- Whether a wait was given up can be told from what was read after the controller was told to
reset. -/
theorem Waits.timeout_iff {later : Conversation Mmio} (waits : Waits controller later outcome) :
    outcome = .error .timeout ↔
      StaysSet resetBit pollLimit (answersAt controller.commandRegister later) ∨
        Clears resetBit pollLimit (answersAt controller.commandRegister later) ∧
          StaysSet notReadyBit pollLimit (answersAt controller.statusRegister later) := by
  have apart := controller.statusRegister_ne_commandRegister.symm
  cases waits with
  | stuck stays =>
    obtain ⟨rfl, staysSet⟩ := stays.staysSet
    rw [answersAt_readsOf]
    exact iff_of_true rfl (.inl staysSet)
  | notReady clears stays =>
    obtain ⟨rfl, staysSet⟩ := stays.staysSet
    rw [answersAt_append, answersAt_append, answersAt_readsOf, answersAt_readsOf,
      answersAt_readsOf_of_ne apart, List.nil_append]
    exact iff_of_true rfl (.inr ⟨clears.clears _, staysSet⟩)
  | ready clears becomesReady =>
    simp only [answersAt_append, answersAt_readsOf, answersAt_readsOf_of_ne apart, List.nil_append]
    refine iff_of_false (fun same => nomatch same) ?_
    rintro (stays | ⟨-, stays⟩)
    · exact (clears.clears _).not_staysSet stays
    · exact (becomesReady.clears _).not_staysSet stays

/-- The changes that follow the first one. -/
theorem Waits.writes {later : Conversation Mmio} (waits : Waits controller later outcome)
    (early : Conversation Mmio) {update : Update}
    (first : update.Makes (controller.commandRegister, (· ||| resetBit))) :
    List.Forall₂ Update.Makes (update :: updatesAfter early later)
      (controller.resetSteps.take (stepsMade outcome)) := by
  cases waits with
  | stuck stays =>
    obtain ⟨rfl, -⟩ := stays.staysSet
    rw [updatesAfter_readsOf]
    exact .cons first .nil
  | notReady _ stays =>
    obtain ⟨rfl, -⟩ := stays.staysSet
    rw [updatesAfter_append, updatesAfter_readsOf, updatesAfter_readsOf]
    exact .cons first .nil
  | ready _ _ =>
    simp only [updatesAfter_append, updatesAfter_readsOf, updatesAfter_changeOf, List.nil_append,
      List.cons_append]
    exact .cons first (.cons ⟨rfl, rfl⟩ (.cons ⟨rfl, rfl⟩ .nil))

theorem writes (course : ResetCourse controller conversation outcome) :
    List.Forall₂ Update.Makes (updates conversation)
      (controller.resetSteps.take (stepsMade outcome)) := by
  cases course with
  | running _ =>
    rw [updates, updatesAfter_readsOf]
    exact .nil
  | halted _ waits =>
    rw [updates, updatesAfter_append, updatesAfter_append, updatesAfter_readsOf,
      updatesAfter_changeOf]
    exact waits.writes _ ⟨rfl, rfl⟩

theorem resetOutcome (course : ResetCourse controller conversation outcome) :
    ResetOutcome controller conversation outcome where
  writes := course.writes
  secondWrite_sparesPending _ := Controller.secondWrite_sparesPending course.writes
  writesAt_sparePending apart _ := Controller.writesAt_sparePending course.writes apart
  notHalted_iff := by
    cases course with
    | @running status notHalted =>
      exact iff_of_true rfl ⟨status, by rw [answersAt_readsOf]; rfl, notHalted⟩
    | halted isHalted waits =>
      refine iff_of_false ?_ ?_
      · rcases waits.outcome_cases with rfl | rfl <;> exact fun same => nomatch same
      · rintro ⟨status, isFirst, running⟩
        rw [answersAt_append, answersAt_readsOf] at isFirst
        cases isFirst
        exact Bool.false_ne_true (running.symm.trans isHalted)
  timeout_iff := by
    cases course with
    | running _ =>
      refine iff_of_false (fun same => nomatch same) ?_
      rw [TimedOut, polls, polls, afterFirstWrite_readsOf]
      have positive : 0 < pollLimit := by decide
      rintro (stays | ⟨-, stays⟩)
      · exact not_staysSet_nil positive stays
      · exact not_staysSet_nil positive stays
    | halted _ waits =>
      rw [TimedOut, polls, polls, afterFirstWrite_changeOf]
      exact waits.timeout_iff
  succeeds_otherwise notRunning notTimeout := by
    cases course with
    | running _ => exact absurd rfl notRunning
    | halted _ waits => exact waits.outcome_cases.resolve_left notTimeout

end ResetCourse

/-- **A reset ends, and the answers decide how.**  Whatever a device answers, the reset comes to a
value; the value says truly whether the controller was found running, and whether it kept one of two
bits set for as long as the driver may wait; and of its three changes, each made from what was last
read of the register, the reset made those that the value calls for. -/
theorem reset_outcome (registers : controller.HasRegisters) {σ : Type}
    {device : Environment Mmio σ} (answers : device.Serves fun _ => True) (state : σ) :
    ∃ outcome conversation reached,
      controller.reset.run device state = (.ok outcome, reached) ∧
        Answers device state conversation reached ∧
        Reaches controller.reset conversation (.done outcome) ∧
        ResetOutcome controller conversation outcome := by
  obtain ⟨outcome, reached, ran, -⟩ := registers.reset_returns.run_ok answers state
  obtain ⟨conversation, reaches, answered⟩ := conversation_of_run ran
  exact ⟨outcome, conversation, reached, ran, answered, reaches,
    (ResetCourse.of_reaches registers reaches).resetOutcome⟩

/-- Whatever is on the bus, it answers. -/
theorem serves_bus : Machine.Bus.environment.Serves fun _ => True := by
  intro request _ bus
  cases request with
  | read _ => exact ⟨_, _, rfl⟩
  | write _ _ => exact ⟨_, _, rfl⟩

/-- A controller with its registers at usual places. -/
def usual : Controller := ⟨0xfebf0000, 0xfebf0020, 0xfebf1000⟩

/-- A bus with a halted controller that resets in some reads and is ready after more, and whose
interrupter says that an interrupt is pending. -/
def usualBus : Machine.Bus :=
  .start
    (.start 0xfebf0000 [(0x24, 0x801), (0x1020, 0x1)] [⟨0x20, 0x2, 3, 0⟩, ⟨0x24, 0x800, 5, 0⟩]
      [⟨0x1020, 0x1⟩] none) []

theorem hasRegisters_usual : usual.HasRegisters := ⟨by decide, by decide⟩

/-- It is reset with all three changes, although each of the bits that are waited for stays set for
a while. -/
theorem reset_outcome_usual :
    usual.HasRegisters ∧ (Machine.Bus.environment.Serves fun _ => True) ∧
      ∃ conversation reached,
        usual.reset.run Machine.Bus.environment usualBus = (.ok (.ok ()), reached) ∧
          Answers Machine.Bus.environment usualBus conversation reached ∧
          ¬usual.FoundRunning conversation ∧ ¬usual.TimedOut conversation ∧
          List.Forall₂ Update.Makes (updates conversation) usual.resetSteps := by
  refine ⟨hasRegisters_usual, serves_bus, ?_⟩
  obtain ⟨outcome, conversation, reached, ran, answered, -, agrees⟩ :=
    reset_outcome hasRegisters_usual serves_bus usualBus
  have succeeds :
      (usual.reset.run Machine.Bus.environment usualBus).1.toOption = some (.ok ()) := by
    decide +kernel
  rw [ran] at succeeds
  obtain rfl : outcome = .ok () := Option.some.inj succeeds
  exact ⟨conversation, reached, ran, answered,
    fun running => (nomatch agrees.notHalted_iff.2 running),
    fun timedOut => (nomatch agrees.timeout_iff.2 timedOut), agrees.writes⟩

example :
    (usual.reset.run Machine.Bus.environment usualBus).2.controller.writes =
      [(0x20, 0x4), (0x1020, 0x2), (0x20, 0x2)] := by
  decide +kernel

end KernelStart.Usb.Controller
