import KernelStart.Program.Effects
import KernelStart.Proofs.EventProcessing
import KernelStart.Proofs.LogThreshold
import KernelStart.Usb.RootPortVisit
import KernelStart.Usb.Scripted

/-!
# Root ports are visited once each

Whatever a controller does, its answers about the root ports one after the other are a list of
visits (`RootHub.exists_visits`).  The program follows them: it asks what a visit says, in this
order, and logs what the visit reports (`RootHub.performs_visit`, one case for each finding).  Along
a list of numbers every root port has its one visit, wherever the failures are
(`RootHub.performs_visitAll`).

A second controller that differs in its results at most is asked the same in a visit
(`RootHub.exists_alike`), so it is asked the same in all of them, although its findings and the log
about them are different ones.
-/

set_option autoImplicit false

namespace KernelStart.Usb

open Program

/-! ## Requests of a visit -/

namespace Visit

/-- Without the entries for the log, the calls are left. -/
theorem filterMap_plain_asked (visit : Visit) :
    visit.asked.filterMap LoggedRequest.plain? = visit.calls := by
  have plain_eq (calls : List HostController.Request) :
      (calls.map (LoggedRequest.plain (S := HostController))).filterMap LoggedRequest.plain? =
        calls := by
    rw [List.filterMap_map]
    exact List.filterMap_some
  have log_eq (entries : List Log.Entry) :
      (entries.map (LoggedRequest.log (S := HostController))).filterMap LoggedRequest.plain? =
        [] := by
    rw [List.filterMap_map]
    exact List.filterMap_none _
  rw [asked, List.filterMap_append, plain_eq, log_eq, List.append_nil]

theorem filterMap_plain_flatMap_asked (visits : List Visit) :
    (visits.flatMap asked).filterMap LoggedRequest.plain? = visits.flatMap calls := by
  rw [List.filterMap_flatMap]
  exact congrArg visits.flatMap (funext filterMap_plain_asked)

end Visit

namespace RootHub

/-! ## The numbers -/

/-- The numbers run from one to the count, also if that is the largest byte. -/
theorem toNat_numbers (count : UInt8) :
    (numbers count).map UInt8.toNat = List.range' 1 count.toNat := by
  have count_lt : count.toNat < 256 := count.toNat_lt
  rw [numbers, List.map_map, List.range'_eq_map_range]
  refine List.map_congr_left fun position listed => ?_
  have before : position < count.toNat := List.mem_range.1 listed
  have small : position + 1 < 256 := by omega
  rw [Function.comp_apply, UInt8.toNat_ofNat_of_lt' small, Nat.add_comm]

/-! ## What a controller answers -/

variable {σ τ : Type} {environment : Environment HostController σ}

/-- Asked for a root port, and for configuring it if it is connected, the controller makes a
visit. -/
theorem exists_visit (serves : environment.Serves fun _ => True) (number : UInt8) (state : σ) :
    ∃ finding reached, Answers environment state (Visit.mk number finding).exchanges reached := by
  obtain ⟨answer, looked, answered⟩ := serves (.rootPort number) trivial state
  cases answer with
  | error kind => exact ⟨.refused kind, looked, .cons answered (.nil looked)⟩
  | ok rootPort =>
    cases isConnected : rootPort.connected with
    | false => exact ⟨.vacant rootPort isConnected, looked, .cons answered (.nil looked)⟩
    | true =>
      obtain ⟨result, reached, configured⟩ := serves (.configure rootPort) trivial looked
      exact ⟨.configured rootPort isConnected result, reached,
        .cons answered (.cons configured (.nil reached))⟩

/-- Along any numbers, the answers of the controller are visits with these numbers. -/
theorem exists_visits (serves : environment.Serves fun _ => True) (numbers : List UInt8)
    (state : σ) :
    ∃ visits : List Visit, visits.map Visit.number = numbers ∧
      ∃ reached, Answers environment state (visits.flatMap Visit.exchanges) reached := by
  induction numbers generalizing state with
  | nil => exact ⟨[], rfl, state, .nil state⟩
  | cons number rest ih =>
    obtain ⟨finding, middle, first⟩ := exists_visit serves number state
    obtain ⟨visits, rfl, reached, later⟩ := ih middle
    exact ⟨⟨number, finding⟩ :: visits, rfl, reached, first.append later⟩

/-! ## What the program does -/

section Performance

variable {threshold : Log.Level} {state reached : σ}

/-- The observer who sees the state and the log, and takes down every request. -/
def observer (threshold : Log.Level) (environment : Environment HostController σ) :
    Observer (Logged HostController) (σ × List Log.Entry) (σ × List Log.Entry)
      (LoggedRequest HostController) where
  environment := Log.collecting threshold environment
  view := id
  effect? := some

theorem performs_ask {request : HostController.Request} {answer : HostController.Answer request}
    (answered : environment request state = (.ok answer, reached)) (entries : List Log.Entry) :
    Performs (observer threshold environment) (HostController.ask request) (state, entries) answer
      (reached, entries) [.plain request] := by
  rintro _ rfl
  exact ⟨_, EventHandler.run_ask answered entries, rfl, effects_request _ _ _⟩

theorem performs_logError (text : String) (entries : List Log.Entry) :
    Performs (observer threshold environment) (Program.log .error text) (state, entries) ()
      (state, entries ++ [⟨.error, text⟩]) [.log ⟨.error, text⟩] := by
  rintro _ rfl
  exact ⟨_, EventHandler.run_logError text state entries, rfl, effects_request _ _ _⟩

theorem performs_nothing (entries : List Log.Entry) :
    Performs (observer threshold environment) (.done ()) (state, entries) ()
      (state, entries ++ []) [] := by
  rw [List.append_nil]
  exact .done () _

/-- Visiting a root port asks what the visit says and logs what it reports. -/
theorem performs_visit {visit : Visit} (answers : Answers environment state visit.exchanges reached)
    (entries : List Log.Entry) :
    Performs (observer threshold environment) (RootHub.visit visit.number) (state, entries) ()
      (reached, entries ++ visit.reports) visit.asked := by
  obtain ⟨number, finding⟩ := visit
  cases finding with
  | refused kind =>
    cases answers with | cons looked later =>
    cases later
    exact (performs_ask looked entries).bind (performs_logError _ entries)
  | vacant rootPort unconnected =>
    cases answers with | cons looked later =>
    cases later
    refine (performs_ask looked entries).bind ?_
    dsimp only
    rw [unconnected, if_neg Bool.false_ne_true]
    exact performs_nothing entries
  | configured rootPort connected result =>
    cases answers with | cons looked later =>
    cases later with | cons configured later =>
    cases later
    refine (performs_ask looked entries).bind ?_
    dsimp only
    rw [if_pos connected]
    refine (performs_ask configured entries).bind ?_
    cases result with
    | ok _ => exact performs_nothing entries
    | error kind => exact performs_logError _ entries

/-- Visiting root ports one after another is following their visits, whatever these find. -/
theorem performs_visitAll {visits : List Visit}
    (answers : Answers environment state (visits.flatMap Visit.exchanges) reached)
    (entries : List Log.Entry) :
    Performs (observer threshold environment) (visitAll (visits.map Visit.number)) (state, entries)
      () (reached, entries ++ visits.flatMap Visit.reports) (visits.flatMap Visit.asked) := by
  -- What one visit logs is the past of the next one.
  induction visits generalizing state entries with
  | nil =>
    cases answers
    exact performs_nothing entries
  | cons visit rest ih =>
    obtain ⟨middle, first, later⟩ := answers.of_append
    rw [List.flatMap_cons, List.flatMap_cons, ← List.append_assoc]
    exact (performs_visit first entries).bind (ih later _)

end Performance

section WholeRun

variable {state reached : σ} {count : UInt8} {visits : List Visit}
  (numbered : visits.map Visit.number = numbers count)
  (answers : Answers environment state
    (⟨.rootPortCount, count⟩ :: visits.flatMap Visit.exchanges) reached)
  (threshold : Log.Level) (past : List Log.Entry)
include numbered answers

/-- The program asks for the number of root ports, and follows their visits. -/
theorem performs_configureConnected :
    Performs (observer threshold environment) configureConnected (state, past) ()
      (reached, past ++ visits.flatMap Visit.reports)
      (.plain .rootPortCount :: visits.flatMap Visit.asked) := by
  cases answers with | cons counted later =>
  refine (performs_ask counted past).bind ?_
  rw [← numbered]
  exact performs_visitAll later past

/-- What the run comes to, and its requests. -/
theorem run_requests_configureConnected :
    configureConnected.run (Log.collecting threshold environment) (state, past) =
        (.ok (), (reached, past ++ visits.flatMap Visit.reports)) ∧
      configureConnected.requests (Log.collecting threshold environment) (state, past) =
        .plain .rootPortCount :: visits.flatMap Visit.asked := by
  obtain ⟨_, ran, rfl, made⟩ :=
    performs_configureConnected numbered answers threshold past (state, past) rfl
  rw [effects] at made
  exact ⟨ran, List.filterMap_some.symm.trans made⟩

/-- What the controller itself is asked. -/
theorem plainRequests_configureConnected :
    Log.plainRequests threshold environment configureConnected state past =
      .rootPortCount :: visits.flatMap Visit.calls := by
  obtain ⟨-, made⟩ := run_requests_configureConnected numbered answers threshold past
  rw [Log.plainRequests, made]
  exact congrArg (List.cons _) (Visit.filterMap_plain_flatMap_asked visits)

end WholeRun

/-! ## Two controllers -/

section Comparison

variable {first : Environment HostController σ} {second : Environment HostController τ}
  {related : σ → τ → Prop} {state reached : σ} {other : τ}

/-- The answer of the first controller to a look is that of the second, and they stay related. -/
theorem looks_alike (differ : DifferInResults first second related)
    {request : HostController.Request} {answer : HostController.Answer request}
    (answered : first request state = (.ok answer, reached)) (look : request.Looks)
    (start : related state other) :
    ∃ otherReached, second request other = (.ok answer, otherReached) ∧
      related reached otherReached := by
  obtain ⟨same, still⟩ := differ.looks request look state other start
  rw [answered] at same still
  exact ⟨_, Prod.ext same.symm rfl, still⟩

/-- Of the two controllers the second is asked what the first is asked in a visit. -/
theorem exists_alike (differ : DifferInResults first second related)
    (serves : second.Serves fun _ => True) {visit : Visit}
    (answers : Answers first state visit.exchanges reached) (start : related state other) :
    ∃ finding otherReached,
      Answers second other (Visit.mk visit.number finding).exchanges otherReached ∧
        (Visit.mk visit.number finding).calls = visit.calls ∧ related reached otherReached := by
  obtain ⟨number, finding⟩ := visit
  cases finding with
  | refused kind =>
    cases answers with | cons looked later =>
    cases later
    obtain ⟨otherReached, answered, still⟩ := looks_alike differ looked trivial start
    exact ⟨.refused kind, otherReached, .cons answered (.nil _), rfl, still⟩
  | vacant rootPort unconnected =>
    cases answers with | cons looked later =>
    cases later
    obtain ⟨otherReached, answered, still⟩ := looks_alike differ looked trivial start
    exact ⟨.vacant rootPort unconnected, otherReached, .cons answered (.nil _), rfl, still⟩
  | configured rootPort connected result =>
    -- The second controller has a result of its own, which is why its finding may be another one.
    cases answers with | cons looked later =>
    cases later with | cons configured later =>
    cases later
    obtain ⟨otherMiddle, answered, between⟩ := looks_alike differ looked trivial start
    obtain ⟨otherResult, otherReached, otherConfigured⟩ :=
      serves (.configure rootPort) trivial otherMiddle
    have still := differ.configures rootPort _ otherMiddle between
    rw [configured, otherConfigured] at still
    exact ⟨.configured rootPort connected otherResult, otherReached,
      .cons answered (.cons otherConfigured (.nil _)), rfl, still⟩

/-- The second controller is asked what the first is asked in visits one after the other. -/
theorem exists_allAlike (differ : DifferInResults first second related)
    (serves : second.Serves fun _ => True) {visits : List Visit}
    (answers : Answers first state (visits.flatMap Visit.exchanges) reached)
    (start : related state other) :
    ∃ (others : List Visit) (otherReached : τ), others.map Visit.number = visits.map Visit.number ∧
      Answers second other (others.flatMap Visit.exchanges) otherReached ∧
      others.flatMap Visit.calls = visits.flatMap Visit.calls := by
  induction visits generalizing state other with
  | nil => exact ⟨[], other, rfl, .nil other, rfl⟩
  | cons visit rest ih =>
    obtain ⟨middle, now, later⟩ := answers.of_append
    obtain ⟨finding, otherMiddle, otherNow, calls_eq, between⟩ :=
      exists_alike differ serves now start
    obtain ⟨others, otherReached, numbers_eq, otherLater, rest_eq⟩ := ih later between
    refine ⟨⟨visit.number, finding⟩ :: others, otherReached, ?_, otherNow.append otherLater, ?_⟩
    · rw [List.map_cons, List.map_cons, numbers_eq]
    · rw [List.flatMap_cons, List.flatMap_cons, calls_eq, rest_eq]

end Comparison

/-! ## Scripted controllers -/

theorem serves_scripted (script : RootPortScript) :
    script.environment.Serves fun _ => True := by
  rintro (_ | number | rootPort | _ | _) - configured
  all_goals exact ⟨_, _, rfl⟩

/-- Scripts that only give different results of configuring. -/
theorem differInResults_scripted {first second : RootPortScript}
    (same : first.reports = second.reports) :
    DifferInResults first.environment second.environment Eq where
  looks := by
    rintro request look configured _ rfl
    cases request with
    | rootPortCount =>
      refine ⟨?_, rfl⟩
      rw [RootPortScript.environment, RootPortScript.environment, same]
    | rootPort number =>
      refine ⟨?_, rfl⟩
      rw [RootPortScript.environment, RootPortScript.environment, RootPortScript.report,
        RootPortScript.report, same]
    | configure rootPort => exact look.elim
    | eventPending => exact look.elim
    | processEvent => exact look.elim
  configures := by
    rintro rootPort configured _ rfl
    rfl

/-! ## Every root port, once -/

/-- **Every root port is visited once, in ascending order, wherever the failures are.**  A
controller may change its answers with every request.  The program comes to its end; it asks for the
number of root ports once, and then follows visits with the numbers from one to that number.  In
each of them the root port is looked at, and configured directly behind that if and only if it is
connected; a failure of either is logged with the number.  A controller that differs in the results
of configuring at most is asked the same. -/
theorem configureConnected_visits_each_once (serves : environment.Serves fun _ => True)
    (threshold : Log.Level) (state : σ) (past : List Log.Entry) :
    (∃ (count : UInt8) (visits : List Visit) (reached : σ),
      visits.map (fun visit => visit.number.toNat) = List.range' 1 count.toNat ∧
      Answers environment state (⟨.rootPortCount, count⟩ :: visits.flatMap Visit.exchanges)
        reached ∧
      configureConnected.run (Log.collecting threshold environment) (state, past) =
        (.ok (), (reached, past ++ visits.flatMap Visit.reports)) ∧
      configureConnected.requests (Log.collecting threshold environment) (state, past) =
        .plain .rootPortCount :: visits.flatMap Visit.asked) ∧
    ∀ (second : Environment HostController τ) (related : σ → τ → Prop) (other : τ),
      second.Serves (fun _ => True) → DifferInResults environment second related →
      related state other → ∀ otherThreshold otherPast,
        Log.plainRequests otherThreshold second configureConnected other otherPast =
          Log.plainRequests threshold environment configureConnected state past := by
  obtain ⟨count, middle, counted⟩ := serves .rootPortCount trivial state
  obtain ⟨visits, numbered, reached, later⟩ := exists_visits serves (numbers count) middle
  have answers : Answers environment state
      (⟨.rootPortCount, count⟩ :: visits.flatMap Visit.exchanges) reached := .cons counted later
  obtain ⟨ran, made⟩ := run_requests_configureConnected numbered answers threshold past
  refine ⟨⟨count, visits, reached, ?_, answers, ran, made⟩, ?_⟩
  · rw [← toNat_numbers, ← numbered, List.map_map]
    rfl
  intro second related other secondServes differ start otherThreshold otherPast
  obtain ⟨otherMiddle, otherCounted, between⟩ := looks_alike differ counted trivial start
  obtain ⟨others, otherReached, numbers_eq, otherLater, calls_eq⟩ :=
    exists_allAlike differ secondServes later between
  have otherAnswers : Answers second other
      (⟨.rootPortCount, count⟩ :: others.flatMap Visit.exchanges) otherReached :=
    .cons otherCounted otherLater
  rw [plainRequests_configureConnected (numbers_eq.trans numbered) otherAnswers,
    plainRequests_configureConnected numbered answers, calls_eq]

/-- Configuring fails for both of the root ports that are connected, and the one between them cannot
be looked at.  All are visited, and a controller that configures them is asked the same. -/
theorem configureConnected_visits_each_once_failing :
    let looks : List (Except Failure Bool) := [.ok false, .ok true, .error .timeout, .ok true]
    let failing : RootPortScript := ⟨looks, [some .notImplemented, some .notImplemented]⟩
    let working : RootPortScript := ⟨looks, []⟩
    let reports : List Log.Entry := [⟨.error, "failed to configure port 2: NotImplemented"⟩,
      ⟨.error, "port 3: Timeout"⟩, ⟨.error, "failed to configure port 4: NotImplemented"⟩]
    failing.environment.Serves (fun _ => True) ∧ working.environment.Serves (fun _ => True) ∧
      DifferInResults failing.environment working.environment Eq ∧
      (∃ visits : List Visit, visits.map (fun visit => visit.number.toNat) = [1, 2, 3, 4] ∧
        visits.flatMap Visit.reports = reports) ∧
      Log.plainRequests .error working.environment configureConnected [] [] =
        [.rootPortCount, .rootPort 1, .rootPort 2, .configure ⟨2, true⟩, .rootPort 3, .rootPort 4,
          .configure ⟨4, true⟩] := by
  intro looks failing working reports
  have differ : DifferInResults failing.environment working.environment Eq :=
    differInResults_scripted rfl
  obtain ⟨⟨count, visits, reached, numbered, answers, ran, -⟩, alike⟩ :=
    configureConnected_visits_each_once (τ := List RootPort) (serves_scripted failing) .error [] []
  have logged :
      (configureConnected.run (Log.collecting .error failing.environment) ([], [])).2.2 =
        reports := by
    decide +kernel
  refine ⟨serves_scripted failing, serves_scripted working, differ, ⟨visits, ?_, ?_⟩, ?_⟩
  · cases answers with | cons counted later =>
    cases counted
    exact numbered
  · rw [ran] at logged
    exact logged
  · rw [alike working.environment Eq [] (serves_scripted working) differ rfl .error []]
    rfl

end RootHub

end KernelStart.Usb
