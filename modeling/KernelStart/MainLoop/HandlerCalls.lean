import KernelStart.MainLoop.DropReport

/-!
# Calls of the handler

The loop deals with a message that it has taken in one of two ways: it calls the handler, if it
knows the type of the message, or else reports the message as unknown (`dealing`).  Of a call that
fails it writes one more line, and that is all it does about it (`resultReport`).

What a handler does on a call may depend on all calls before it.  `Handler.after` is the state in
which a list of calls leaves the handler, and `Handler.response` what it does on the next one.  So
two handlers with different states of their own can be compared call by call: in what they raise
(`Handler.RaisesAlike`), and in what they write to the log (`Handler.WritesAlike`).

`Rig.Reply.type?` reads a call off the reply of a cycle, and `Rig.withHandler` puts another
handler's state on a rig, and another log.  All else is what the rig is without its handler and
its log.
-/

set_option autoImplicit false

namespace KernelStart.MainLoop

/-! ## What is reported -/

/-- The report of a message that nobody knows. -/
def unknownReport (message : Message) : Log.Entry :=
  ⟨.error, s!"Unknown message type: {message.tag.toNat}"⟩

/-- The report of a call that failed. -/
def failureReport (type : MessageKind) (kind : Failure) : Log.Entry :=
  ⟨.error, s!"Error while handling {type.name}: {kind.name}"⟩

/-- What is reported of the result of a call. -/
def resultReport (type : MessageKind) : Except Failure Unit → List Log.Entry
  | .ok _ => []
  | .error kind => [failureReport type kind]

/-- What is reported of a number of dropped messages. -/
def dropReports (count : Nat) : List Log.Entry :=
  if count > 0 then [Log.dropReport count] else []

/-- Whether an entry is the report of a message that nobody knows. -/
def isUnknownReport (entry : Log.Entry) : Bool :=
  (List.range 256).any fun tag => entry == unknownReport ⟨UInt8.ofNat tag⟩

/-- Whether an entry is the report of a call that failed. -/
def isFailureReport (entry : Log.Entry) : Bool :=
  Failure.all.any fun kind => entry == failureReport .controllerInterrupt kind

theorem isUnknownReport_iff (entry : Log.Entry) :
    isUnknownReport entry = true ↔ ∃ message, entry = unknownReport message := by
  simp only [isUnknownReport, List.any_eq_true, List.mem_range, beq_iff_eq]
  constructor
  · rintro ⟨tag, -, rfl⟩
    exact ⟨_, rfl⟩
  · rintro ⟨⟨tag⟩, rfl⟩
    exact ⟨tag.toNat, tag.toNat_lt, by rw [UInt8.ofNat_toNat]⟩

theorem isFailureReport_iff (entry : Log.Entry) :
    isFailureReport entry = true ↔ ∃ type kind, entry = failureReport type kind := by
  simp only [isFailureReport, List.any_eq_true, beq_iff_eq]
  constructor
  · rintro ⟨kind, -, rfl⟩
    exact ⟨_, kind, rfl⟩
  · rintro ⟨⟨⟩, kind, rfl⟩
    exact ⟨kind, kind.mem_all, rfl⟩

/-- The letter with which an entry begins. -/
def firstLetter (entry : Log.Entry) : Option Char := entry.text.toList.head?

theorem firstLetter_unknownReport (message : Message) :
    firstLetter (unknownReport message) = some 'U' := by
  have text_eq : (unknownReport message).text =
      "Unknown message type: " ++ toString message.tag.toNat := rfl
  rw [firstLetter, text_eq, String.toList_append]
  rfl

theorem firstLetter_failureReport (type : MessageKind) (kind : Failure) :
    firstLetter (failureReport type kind) = some 'E' := by
  have text_eq : (failureReport type kind).text =
      "Error while handling " ++ (type.name ++ (": " ++ kind.name)) := by
    rw [← String.append_assoc, ← String.append_assoc]
    rfl
  rw [firstLetter, text_eq, String.toList_append]
  rfl

theorem unknownReport_ne_failureReport (message : Message) (type : MessageKind)
    (kind : Failure) : unknownReport message ≠ failureReport type kind := by
  intro same
  have letter := firstLetter_unknownReport message
  rw [same, firstLetter_failureReport] at letter
  cases letter

/-- The report of dropped messages is a warning, and no other report is. -/
theorem isUnknownReport_dropReport (count : Nat) :
    isUnknownReport (Log.dropReport count) = false := by
  refine Bool.eq_false_iff.2 fun unknown => ?_
  obtain ⟨message, same⟩ := (isUnknownReport_iff _).1 unknown
  have levels : Log.Level.warn = Log.Level.error := congrArg Log.Entry.level same
  cases levels

theorem isUnknownReport_unknownReport (message : Message) :
    isUnknownReport (unknownReport message) = true :=
  (isUnknownReport_iff _).2 ⟨message, rfl⟩

theorem isUnknownReport_of_isFailureReport {entry : Log.Entry}
    (failed : isFailureReport entry = true) : isUnknownReport entry = false := by
  refine Bool.eq_false_iff.2 fun unknown => ?_
  obtain ⟨message, same⟩ := (isUnknownReport_iff _).1 unknown
  obtain ⟨type, kind, rfl⟩ := (isFailureReport_iff _).1 failed
  exact unknownReport_ne_failureReport message type kind same.symm

theorem isFailureReport_unknownReport (message : Message) :
    isFailureReport (unknownReport message) = false := by
  refine Bool.eq_false_iff.2 fun failed => ?_
  have known := isUnknownReport_of_isFailureReport failed
  rw [isUnknownReport_unknownReport] at known
  cases known

/-- Of the result of a call nothing but its failure is reported. -/
theorem isFailureReport_of_mem_resultReport {type : MessageKind} {result : Except Failure Unit}
    {entry : Log.Entry} (reported : entry ∈ resultReport type result) :
    isFailureReport entry = true := by
  cases result with
  | ok _ => cases reported
  | error kind => exact (isFailureReport_iff _).2 ⟨type, kind, List.mem_singleton.1 reported⟩

/-! ## How a message is dealt with -/

/-- The request with which a message is dealt with: a call of the handler if its tag is zero, and
otherwise a report. -/
def dealing (message : Message) : LoggedRequest Loop :=
  if message.tag = 0 then .plain (.handle .controllerInterrupt)
  else .log (unknownReport message)

/-- Whether a message is dealt with by a request. -/
def isDealing : LoggedRequest Loop → Bool
  | .log entry => isUnknownReport entry
  | .plain (.handle _) => true
  | .plain _ => false

/-- Whether a request only reports that a call has failed. -/
def reportsFailure : LoggedRequest Loop → Bool
  | .log entry => isFailureReport entry
  | .plain _ => false

theorem isDealing_dealing (message : Message) : isDealing (dealing message) = true := by
  unfold dealing
  split
  · rfl
  · exact isUnknownReport_unknownReport message

theorem reportsFailure_dealing (message : Message) : reportsFailure (dealing message) = false := by
  unfold dealing
  split
  · rfl
  · exact isFailureReport_unknownReport message

/-! ## Handlers, call by call -/

namespace Handler

variable {η θ : Type}

/-- The state in which a list of calls leaves a handler. -/
def after (handler : Handler η) (state : η) (calls : List MessageKind) : η :=
  calls.foldl (fun reached type => (handler.handle type reached).2) state

theorem after_append (handler : Handler η) (state : η) (early late : List MessageKind) :
    handler.after state (early ++ late) = handler.after (handler.after state early) late :=
  List.foldl_append

/-- What a handler does on a call that comes after others. -/
def response (handler : Handler η) (state : η) (earlier : List MessageKind)
    (type : MessageKind) : Response :=
  (handler.handle type (handler.after state earlier)).1

/-- Two handlers raise the same interrupts on each call. -/
def RaisesAlike (first : Handler η) (start : η) (second : Handler θ) (other : θ) : Prop :=
  ∀ earlier type,
    (second.response other earlier type).raised = (first.response start earlier type).raised

/-- Two handlers write the same to the log on each call. -/
def WritesAlike (first : Handler η) (start : η) (second : Handler θ) (other : θ) : Prop :=
  ∀ earlier type,
    (second.response other earlier type).logged = (first.response start earlier type).logged

/-- What is handed to the log when a message is handed over: the report that it is unknown, or what
the handler writes and the report of its result. -/
def entriesOn (handler : Handler η) (state : η) (message : Message) : List Log.Entry :=
  match message.type? with
  | none => [unknownReport message]
  | some type =>
    let response := (handler.handle type state).1
    response.logged ++ resultReport type response.result

/-- The requests with which a message is handed over. -/
def requestsOn (handler : Handler η) (state : η) (message : Message) :
    List (LoggedRequest Loop) :=
  match message.type? with
  | none => [.log (unknownReport message)]
  | some type =>
    .plain (.handle type) :: (resultReport type (handler.handle type state).1.result).map .log

end Handler

/-! ## The rig and its handler -/

namespace Rig

variable {η θ : Type}

/-- The type of the message that a reply reports as handled, if it has a known one. -/
def Reply.type? (reply : Reply) : Option MessageKind := reply.handled?.bind Message.type?

/-- The rig with the state of another handler and another log. -/
def withHandler (rig : Rig η) (state : θ) (entries : List Log.Entry) : Rig θ where
  queue := rig.queue
  enabled := rig.enabled
  waiting := rig.waiting
  calls := rig.calls
  emitted := entries
  handlerState := state
  raised := rig.raised
  arrivals := rig.arrivals

@[simp] theorem handlerState_withHandler (rig : Rig η) (state : θ) (entries : List Log.Entry) :
    (rig.withHandler state entries).handlerState = state := rfl

end Rig

end KernelStart.MainLoop
