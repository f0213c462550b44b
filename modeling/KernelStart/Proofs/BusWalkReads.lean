import KernelStart.Program.Simulation
import KernelStart.Proofs.BusCoverage
import Mathlib.Data.List.Count
import Mathlib.Data.List.Nodup

/-!
# What an enumeration reads

The reads of a walk are settled like a ledger.  Every position on the stack stands for the reads
that are due on the rest of its bus (`dueReads`), and a bus that is entered brings in those of
the whole bus.  Each turn makes reads that were due, so the reads that were made and those
that are still due are always, up to their order, those that were due in the beginning and
those of the buses entered since (`Accounts`).  A walk that ends without an error is in no bus
any more: nothing is due, and it has made exactly the reads of the buses that it entered.

`Yields` says of a program what it comes to and which reads it makes on the way, so the account
is carried through `turn`, `finish`, `walkRoot` and `walkRoots` the way these are put together
(`turn_accounts` to `enumerationReport_accounts`).  The buses that were entered are those that
can be reached, each of them once, and a walk looks at no function of a bus twice; so the number of
reads of each function is known (`enumerateInto_reads`).
-/

set_option autoImplicit false

namespace KernelStart.Pci

open scoped List

namespace ConfigSpace

variable {α β : Type} {space : ConfigSpace}

/-! ## Values and reads together -/

/-- The reads that a reading program makes, in order. -/
def reads (space : ConfigSpace) (program : Program ConfigRead α) : List ConfigRegister :=
  program.requests space.environment ()

/-- A program makes the reads of its first part, and those of the rest behind it. -/
theorem reads_bind {program : Program ConfigRead α} {value : α}
    (came : space.value program = .ok value) (next : α → Program ConfigRead β) :
    space.reads (program.bind next) = space.reads program ++ space.reads (next value) := by
  have ran : program.run space.environment () = (.ok value, ()) := Prod.ext came rfl
  rw [reads, Program.requests, Program.moments_bind_ok ran, List.map_append]
  rfl

/-- Among programs that could write, a reading program comes to its value and makes its reads. -/
theorem run_readOnly_unchanging (space : ConfigSpace) (program : Program ConfigRead α) :
    (readOnly program).run space.unchanging () = (space.value program, ()) ∧
      (readOnly program).requests space.unchanging () = (space.reads program).map .read := by
  constructor
  · rw [readOnly, Program.run_interpret]
    rfl
  · have asked (register : ConfigRegister) (state : Unit) :
        (@Program.request Config (.read register)).requests space.unchanging state =
          [.read register] := rfl
    rw [readOnly, Program.requests_interpret asked, ← List.map_eq_flatMap]
    rfl

/-- On this space the program comes to a value that is good after the reads that it made. -/
def Yields (space : ConfigSpace) (program : Program ConfigRead α)
    (good : List ConfigRegister → α → Prop) : Prop :=
  ∃ result, space.value program = .ok result ∧ good (space.reads program) result

namespace Yields

theorem done {good : List ConfigRegister → α → Prop} {value : α} (isGood : good [] value) :
    space.Yields (.done value) good := ⟨value, rfl, isGood⟩

theorem mono {good better : List ConfigRegister → α → Prop} {program : Program ConfigRead α}
    (yields : space.Yields program good)
    (implied : ∀ made value, good made value → better made value) :
    space.Yields program better := by
  obtain ⟨value, came, isGood⟩ := yields
  exact ⟨value, came, implied _ _ isGood⟩

theorem bind {good : List ConfigRegister → α → Prop} {result : List ConfigRegister → β → Prop}
    {program : Program ConfigRead α} {next : α → Program ConfigRead β}
    (first : space.Yields program good)
    (second : ∀ made value, good made value →
      space.Yields (next value) fun later => result (made ++ later)) :
    space.Yields (program.bind next) result := by
  obtain ⟨value, came, isGood⟩ := first
  obtain ⟨last, cameLast, isResult⟩ := second _ value isGood
  refine ⟨last, (value_bind came next).trans cameLast, ?_⟩
  rwa [reads_bind came]

end Yields

theorem readVendor_yields (space : ConfigSpace) (address : Address) :
    space.Yields (readVendor address) fun made vendor =>
      made = [⟨address, vendorOffset⟩] ∧ vendor = space.vendor address := ⟨_, rfl, rfl, rfl⟩

theorem readHeader_yields (space : ConfigSpace) (address : Address) :
    space.Yields (readHeader address) fun made header =>
      made = [⟨address, headerOffset⟩] ∧ header = space.header address := ⟨_, rfl, rfl, rfl⟩

theorem readDevice_yields (space : ConfigSpace) (address : Address) :
    space.Yields (readDevice address) fun made device =>
      made = [⟨address, headerOffset⟩, ⟨address, classOffset⟩] ∧ device = space.device address :=
  ⟨_, rfl, rfl, rfl⟩

theorem readSecondaryBus_yields (space : ConfigSpace) (address : Address) :
    space.Yields (readSecondaryBus address) fun made bus =>
      made = [⟨address, busNumbersOffset⟩] ∧ bus = space.secondaryBus address :=
  ⟨_, rfl, rfl, rfl⟩

/-! ## Accounts of reads -/

/-- The reads that are due on a stack of positions: those of all functions still to be looked at. -/
def dueReads (space : ConfigSpace) (stack : List Cursor) : List ConfigRegister :=
  stack.flatMap fun cursor => (space.looksFrom cursor).flatMap space.lookReads

theorem dueReads_cons (space : ConfigSpace) (cursor : Cursor) (outer : List Cursor) :
    space.dueReads (cursor :: outer) =
      (space.looksFrom cursor).flatMap space.lookReads ++ space.dueReads outer :=
  List.flatMap_cons ..

/-- A walk goes on to another walk and enters these buses on the way, and the reads made and those
still due are those that were due and those of the buses. -/
structure Accounts (space : ConfigSpace) (walk : BusWalk) (opened : List UInt8)
    (made : List ConfigRegister) (next : BusWalk) : Prop where
  members : next.entered.members = opened ++ walk.entered.members
  once : walk.entered.members.Nodup → next.entered.members.Nodup
  balance : (made ++ space.dueReads next.stack).Perm
    (space.dueReads walk.stack ++ opened.flatMap space.busReads)

namespace Accounts

variable {walk middle next : BusWalk} {opened further : List UInt8}
  {made later : List ConfigRegister}

theorem refl (space : ConfigSpace) (walk : BusWalk) : space.Accounts walk [] [] walk where
  members := rfl
  once := id
  balance := by simp

theorem trans (first : space.Accounts walk opened made middle)
    (second : space.Accounts middle further later next) :
    space.Accounts walk (further ++ opened) (made ++ later) next where
  members := by rw [second.members, first.members, List.append_assoc]
  once := second.once ∘ first.once
  balance := by
    rw [List.append_assoc, List.flatMap_append]
    calc made ++ (later ++ space.dueReads next.stack)
      _ ~ made ++ (space.dueReads middle.stack ++ further.flatMap space.busReads) :=
        second.balance.append_left made
      _ = made ++ space.dueReads middle.stack ++ further.flatMap space.busReads :=
        (List.append_assoc ..).symm
      _ ~ space.dueReads walk.stack ++ opened.flatMap space.busReads ++
            further.flatMap space.busReads := first.balance.append_right _
      _ = space.dueReads walk.stack ++
            (opened.flatMap space.busReads ++ further.flatMap space.busReads) :=
        List.append_assoc ..
      _ ~ space.dueReads walk.stack ++
            (further.flatMap space.busReads ++ opened.flatMap space.busReads) :=
        List.perm_append_comm.append_left _

/-- A bus that was not entered before is still to be looked at as a whole. -/
theorem enter (space : ConfigSpace) {bus : UInt8} (entered : walk.enter bus = .ok next) :
    ∃ opened, space.Accounts walk opened [] next := by
  rcases BusWalk.enter_cases entered with rfl | ⟨unknown, rfl⟩
  · exact ⟨[], .refl space _⟩
  refine ⟨[bus], rfl, fun once => List.nodup_cons.2 ⟨unknown, once⟩, ?_⟩
  rw [List.nil_append, dueReads_cons, looksFrom_start, List.flatMap_singleton]
  exact List.perm_append_comm

/-- A finished bus leaves nothing to be looked at. -/
theorem leave {cursor : Cursor} {outer : List Cursor} (finished : cursor.isFinished = true)
    (stack_eq : walk.stack = cursor :: outer) :
    space.Accounts walk [] [] (walk.withStack outer) where
  members := rfl
  once := id
  balance := by
    rw [stack_eq, dueReads_cons, looksFrom_finished finished]
    simp [BusWalk.withStack]

/-- Looking at a function settles what is due for it. -/
theorem look {cursor : Cursor} {outer : List Cursor} (unfinished : cursor.isFinished = false)
    (stack_eq : walk.stack = cursor :: outer) (inventory : Inventory) :
    space.Accounts walk [] (space.lookReads cursor.address)
      ⟨inventory, space.after cursor :: outer, walk.entered⟩ where
  members := rfl
  once := id
  balance := by
    rw [stack_eq, dueReads_cons, dueReads_cons, looksFrom_unfinished unfinished]
    simp

end Accounts

/-! ## Turns -/

/-- A turn accounts for its reads: it ends a walk that is in no bus, or ends with an error, or goes
on. -/
def AccountsTurn (space : ConfigSpace) {walk : BusWalk} (made : List ConfigRegister) :
    BusWalk.Turn walk → Prop
  | .ended ending => ending.result = .ok () → made = [] ∧ ending.reached = walk ∧ walk.stack = []
  | .onward next _ => ∃ opened, space.Accounts walk opened made next

variable {walk : BusWalk}

theorem look_accounts {cursor : Cursor} {outer : List Cursor}
    (stack_eq : walk.stack = cursor :: outer) (unfinished : cursor.isFinished = false) :
    space.Yields (walk.look cursor outer stack_eq unfinished) space.AccountsTurn := by
  -- What the look settles depends on what answers; it is spelled out as far as that is known.
  have accounts (inventory : Inventory) :
      space.Accounts walk [] (space.lookReads cursor.address)
        ⟨inventory, space.after cursor :: outer, walk.entered⟩ :=
    .look unfinished stack_eq inventory
  refine (space.readVendor_yields cursor.address).bind ?_
  rintro _ _ ⟨rfl, rfl⟩
  split
  case isTrue vendor =>
    have absent := (space.isPresent_eq_false_iff cursor.address).2 vendor
    simp only [lookReads, after, absent, Bool.false_eq_true, if_false] at accounts
    exact .done ⟨[], accounts walk.inventory⟩
  case isFalse vendor =>
    have present := (space.isPresent_iff cursor.address).2 vendor
    simp only [lookReads, after, present, if_true] at accounts
    refine (space.readDevice_yields cursor.address).bind ?_
    rintro _ _ ⟨rfl, rfl⟩
    split
    case h_1 kind _ => exact .done (by rintro ⟨⟩)
    case h_2 grown _ =>
      dsimp only
      split
      case isTrue bridge =>
        have isBridge : space.isBridge cursor.address = true := bridge
        simp only [isBridge, if_true] at accounts
        refine (space.readSecondaryBus_yields cursor.address).bind ?_
        rintro _ _ ⟨rfl, rfl⟩
        split
        case h_1 kind _ => exact .done (by rintro ⟨⟩)
        case h_2 inside entered =>
          obtain ⟨opened, inBus⟩ := Accounts.enter space entered
          exact .done ⟨_, (accounts grown).trans inBus⟩
      case isFalse plain =>
        have notBridge : space.isBridge cursor.address = false := Bool.eq_false_iff.2 plain
        simp only [notBridge, Bool.false_eq_true, if_false] at accounts
        exact .done ⟨[], accounts grown⟩

/-- Every turn accounts for its reads. -/
theorem turn_accounts (space : ConfigSpace) (walk : BusWalk) :
    space.Yields walk.turn space.AccountsTurn := by
  unfold BusWalk.turn
  split
  case h_1 none => exact .done fun _ => ⟨rfl, rfl, none⟩
  case h_2 cursor outer stack_eq =>
    split
    case isTrue finished => exact .done ⟨[], .leave finished stack_eq⟩
    case isFalse unfinished =>
      exact look_accounts stack_eq ((Bool.not_eq_true _).mp unfinished)

/-! ## Whole walks -/

/-- If a walk ends without an error, it is in no bus any more, and besides these reads it made those
that it accounts for. -/
def AccountsEnding (space : ConfigSpace) (walk : BusWalk) (besides made : List ConfigRegister)
    (ending : BusWalk.Ending) : Prop :=
  ending.result = .ok () → ending.reached.stack = [] ∧
    ∃ opened looks, made.Perm (besides ++ looks) ∧
      space.Accounts walk opened looks ending.reached

/-- A read besides all others. -/
theorem AccountsEnding.cons {besides made : List ConfigRegister} {ending : BusWalk.Ending}
    (accounts : space.AccountsEnding walk besides made ending) (register : ConfigRegister) :
    space.AccountsEnding walk (register :: besides) (register :: made) ending := by
  intro ended
  obtain ⟨none, opened, looks, same, walked⟩ := accounts ended
  exact ⟨none, opened, looks, same.cons register, walked⟩

theorem finish_accounts (space : ConfigSpace) (walk : BusWalk) :
    space.Yields walk.finish (space.AccountsEnding walk []) := by
  induction walk using BusWalk.finish.induct with
  | case1 walk ih =>
    rw [BusWalk.finish]
    refine (space.turn_accounts walk).bind fun made turn accounts => ?_
    cases turn with
    | ended ending =>
      refine .done fun ended => ?_
      obtain ⟨rfl, rfl, none⟩ := accounts ended
      exact ⟨none, [], [], .refl _, .refl space _⟩
    | onward next less =>
      obtain ⟨opened, first⟩ := accounts
      refine (ih next less).mono fun later ending rest ended => ?_
      obtain ⟨none, further, looks, same, second⟩ := rest ended
      exact ⟨none, _, made ++ looks, same.append_left made, first.trans second⟩

theorem walkRoot_accounts (space : ConfigSpace) (walk : BusWalk) (bus : UInt8) :
    space.Yields (walk.walkRoot bus) (space.AccountsEnding walk []) := by
  unfold BusWalk.walkRoot
  split
  case h_1 kind _ => exact .done fun ended => nomatch ended
  case h_2 inside entered =>
    obtain ⟨opened, inBus⟩ := Accounts.enter space entered
    refine (space.finish_accounts inside).mono fun made ending rest ended => ?_
    obtain ⟨none, further, looks, same, walked⟩ := rest ended
    exact ⟨none, _, looks, same, inBus.trans walked⟩

/-- After a root bus the next ones are walked, unless it ended with an error. -/
theorem goOn_accounts {walk : BusWalk} {ending : BusWalk.Ending} {functions : List UInt8}
    {besides further made : List ConfigRegister}
    (first : space.AccountsEnding walk besides made ending)
    (later : ∀ reached : BusWalk, reached.stack = [] →
      space.Yields (reached.walkRoots functions) (space.AccountsEnding reached further)) :
    space.Yields (match ending.result with
        | .error _ => pure ending
        | .ok _ => ending.reached.walkRoots functions)
      fun rest => space.AccountsEnding walk (besides ++ further) (made ++ rest) := by
  split
  case h_1 kind failed => exact .done fun ended => nomatch failed.symm.trans ended
  case h_2 walked =>
    obtain ⟨none, opened, looks, same, accounts⟩ := first walked
    refine (later _ none).mono fun rest whole onward ended => ?_
    obtain ⟨noneLeft, openedLater, looksLater, sameLater, accountsLater⟩ := onward ended
    refine ⟨noneLeft, _, looks ++ looksLater, ?_, accounts.trans accountsLater⟩
    calc made ++ rest
      _ ~ besides ++ looks ++ (further ++ looksLater) := same.append sameLater
      _ = besides ++ (looks ++ (further ++ looksLater)) := List.append_assoc ..
      _ ~ besides ++ (further ++ (looks ++ looksLater)) :=
        (List.perm_append_comm_assoc ..).append_left besides
      _ = besides ++ further ++ (looks ++ looksLater) := (List.append_assoc ..).symm

theorem walkRoots_accounts (space : ConfigSpace) (functions : List UInt8) {walk : BusWalk}
    (outside : walk.stack = []) :
    space.Yields (walk.walkRoots functions)
      (space.AccountsEnding walk (candidateReads functions)) := by
  induction functions generalizing walk with
  | nil => exact .done fun _ => ⟨outside, [], [], .refl _, .refl space walk⟩
  | cons function rest ih =>
    rw [BusWalk.walkRoots]
    refine (space.readVendor_yields ⟨0, 0, function⟩).bind ?_
    rintro _ _ ⟨rfl, rfl⟩
    split
    case isTrue absent => exact (ih outside).mono fun made ending accounts => accounts.cons _
    case isFalse present =>
      refine (space.walkRoot_accounts walk function).bind fun made ending first => ?_
      exact (goOn_accounts first fun _ => ih).mono fun more whole accounts => accounts.cons _

/-- An enumeration that ends without an error makes the reads with which it looks for root buses,
and those that it accounts for. -/
theorem enumerationReport_accounts (space : ConfigSpace) (previous : Inventory) :
    space.Yields (enumerationReport previous)
      (space.AccountsEnding (.start previous.clear) space.rootReads) := by
  refine (space.readHeader_yields ⟨0, 0, 0⟩).bind ?_
  rintro _ _ ⟨rfl, rfl⟩
  refine (space.walkRoot_accounts (.start previous.clear) 0).bind fun made ending first => ?_
  unfold rootReads
  split
  case isTrue single =>
    refine .done ?_
    rw [List.append_nil]
    exact first.cons _
  case isFalse several =>
    exact (goOn_accounts first fun _ => walkRoots_accounts space rootFunctions).mono
      fun more whole accounts => accounts.cons _

/-! ## The number of reads -/

/-- Whether a function is looked at is decided by the enumeration. -/
instance (space : ConfigSpace) : DecidablePred space.IsLookedAt := fun _ =>
  inferInstanceAs (Decidable (_ ∧ _ ∧ _ ∧ _))

/-- All reads with which a function is looked at go to the function. -/
theorem map_address_lookReads (space : ConfigSpace) (address : Address) :
    (space.lookReads address).map (·.address) =
      List.replicate (space.lookCost address) address := by
  unfold lookReads lookCost
  by_cases present : space.isPresent address = true
  · by_cases bridge : space.isBridge address = true
    · simp [present, bridge, List.replicate_succ]
    · simp [present, bridge, List.replicate_succ]
  · simp [present]

theorem count_flatMap_lookReads (space : ConfigSpace) (addresses : List Address)
    (address : Address) :
    ((addresses.flatMap space.lookReads).map (·.address)).count address =
      addresses.count address * space.lookCost address := by
  induction addresses with
  | nil => simp
  | cons head rest ih =>
    rw [List.flatMap_cons, List.map_append, List.count_append, map_address_lookReads, ih,
      List.count_replicate, List.count_cons, Nat.add_mul, Nat.add_comm]
    by_cases same : head = address
    · subst same
      simp
    · simp [same]

/-- On all buses that are entered, the functions to be looked at are looked at once. -/
theorem count_looks (space : ConfigSpace) (once : space.enteredBuses.members.Nodup)
    (address : Address) :
    (space.enteredBuses.members.flatMap space.looksOn).count address =
      if space.IsLookedAt address then 1 else 0 := by
  have nodup : (space.enteredBuses.members.flatMap space.looksOn).Nodup := by
    refine List.pairwise_flatMap.2 ⟨fun bus _ => space.nodup_looksOn bus, once.imp ?_⟩
    rintro left right apart address onLeft _ onRight rfl
    exact apart ((mem_looksOn.1 onLeft).1.symm.trans (mem_looksOn.1 onRight).1)
  have member : address ∈ space.enteredBuses.members.flatMap space.looksOn ↔
      space.IsLookedAt address := by
    have entered := space.contains_enteredBuses address.bus
    rw [ByteSet.contains, List.contains_iff_mem] at entered
    rw [IsLookedAt, ← entered]
    simp only [List.mem_flatMap, mem_looksOn]
    constructor
    · rintro ⟨bus, inside, rfl, looked⟩
      exact ⟨inside, looked⟩
    · rintro ⟨inside, looked⟩
      exact ⟨_, inside, rfl, looked⟩
  rw [nodup.count]
  exact if_congr member rfl rfl

/-- The number of reads with which a function is looked at on the buses that are entered. -/
theorem count_busReads (space : ConfigSpace) (once : space.enteredBuses.members.Nodup)
    (address : Address) :
    ((space.enteredBuses.members.flatMap space.busReads).map (·.address)).count address =
      if space.IsLookedAt address then space.lookCost address else 0 := by
  have looks : space.enteredBuses.members.flatMap space.busReads =
      (space.enteredBuses.members.flatMap space.looksOn).flatMap space.lookReads :=
    (List.flatMap_assoc ..).symm
  rw [looks, count_flatMap_lookReads, count_looks space once]
  split
  · exact Nat.one_mul _
  · exact Nat.zero_mul _

/-- The host bridge and its further functions are read once when root buses are looked for. -/
theorem count_rootReads (space : ConfigSpace) (address : Address) :
    (space.rootReads.map (·.address)).count address =
      (if address = ⟨0, 0, 0⟩ then 1 else 0) + if space.IsRootCandidate address then 1 else 0 := by
  have host : List.count address [⟨0, 0, 0⟩] = if address = ⟨0, 0, 0⟩ then 1 else 0 := by
    rw [List.count_singleton]
    exact if_congr (beq_iff_eq.trans eq_comm) rfl rfl
  have further : ((candidateReads rootFunctions).map (·.address)).count address =
      if address.bus = 0 ∧ address.device = 0 ∧ address.function ∈ rootFunctions then 1 else 0 := by
    have once : ((candidateReads rootFunctions).map (·.address)).Nodup := by decide
    rw [once.count]
    refine if_congr ?_ rfl rfl
    obtain ⟨bus, device, function⟩ := address
    rw [candidateReads, List.map_map, List.mem_map]
    constructor
    · rintro ⟨_, isOne, same⟩
      cases same
      exact ⟨rfl, rfl, isOne⟩
    · rintro ⟨rfl, rfl, isOne⟩
      exact ⟨function, isOne, rfl⟩
  by_cases single : isSingleFunction (space.header ⟨0, 0, 0⟩) = true
  · have none : ¬space.IsRootCandidate address := fun candidate =>
      absurd (single.symm.trans candidate.1) (by decide)
    rw [rootReads, if_pos single, if_neg none]
    exact host
  · have isOne : space.IsRootCandidate address ↔
        address.bus = 0 ∧ address.device = 0 ∧ address.function ∈ rootFunctions :=
      and_iff_right (Bool.eq_false_iff.2 single)
    rw [rootReads, if_neg single, List.map_cons, ← List.singleton_append, List.count_append,
      host, further]
    exact congrArg _ (if_congr isOne.symm rfl rfl)

/-- The reads of an enumeration that finishes, up to their order. -/
theorem reads_enumerateInto_perm {previous inventory : Inventory}
    (finished : space.value (enumerateInto previous) = .ok (.ok (), inventory)) :
    space.enteredBuses.members.Nodup ∧
      (space.reads (enumerateInto previous)).Perm
        (space.rootReads ++ space.enteredBuses.members.flatMap space.busReads) ∧
      ∃ ending, space.value (enumerationReport previous) = .ok ending ∧
        ending.reached.entered = space.enteredBuses := by
  obtain ⟨ending, reported, accounts⟩ := space.enumerationReport_accounts previous
  obtain ⟨same, reportedSame, isEnd⟩ := space.enumerationReport_isEndOf previous
  obtain rfl : ending = same := Except.ok.inj (reported.symm.trans reportedSame)
  have reads_eq : space.reads (enumerateInto previous) = space.reads (enumerationReport previous) :=
    (reads_bind reported _).trans (List.append_nil _)
  rw [enumerateInto, Program.bind_eq, value_bind reported] at finished
  have ended : ending.result = .ok () := congrArg Prod.fst (Except.ok.inj finished)
  have fits : space.enumeration.length ≤ Inventory.capacity := by
    by_contra tooMany
    rw [isEnd.result_eq, if_neg tooMany] at ended
    cases ended
  obtain ⟨none, opened, looks, same, walked⟩ := accounts ended
  obtain ⟨-, entered_eq⟩ := isEnd.left fits
  have members : space.enteredBuses.members = opened := by
    rw [← entered_eq, walked.members]
    exact List.append_nil _
  have balance : looks.Perm (opened.flatMap space.busReads) := by
    have balance := walked.balance
    rwa [none, dueReads, List.flatMap_nil, List.append_nil] at balance
  refine ⟨entered_eq ▸ walked.once List.nodup_nil, ?_, ending, reported, entered_eq⟩
  rw [reads_eq, members]
  exact same.trans (balance.append_left _)

/-- **A walk that finishes reads exactly what it has to, and writes nothing.**  The buses that it
entered are those that can be reached.  There it looks at function 0 of every device, and at
the other functions of a device only if function 0 is there and announces them: once for the
vendor, twice more if the function answers, and once more if it is a bridge.  Besides, it reads
the header of the host bridge, and the vendors of its further functions if the header announces
several.  Nothing else is read, so where a device has no further functions, they are left alone
but for those reads. -/
theorem enumerateInto_reads {previous inventory : Inventory}
    (finished : (readOnly (enumerateInto previous)).run space.unchanging () =
      (.ok (.ok (), inventory), ())) :
    (∃ ending, space.value (enumerationReport previous) = .ok ending ∧
      ∀ bus, ending.reached.entered.contains bus = true ↔ space.IsReachable bus) ∧
    ∃ made : List ConfigRegister,
      (readOnly (enumerateInto previous)).requests space.unchanging () = made.map .read ∧
      (∀ address, (made.map (·.address)).count address =
        (if space.IsLookedAt address then space.lookCost address else 0) +
          (if address = ⟨0, 0, 0⟩ then 1 else 0) +
          (if space.IsRootCandidate address then 1 else 0)) ∧
      ∀ register ∈ made,
        register.address.device.toNat < devicesPerBus ∧
          register.address.function.toNat < functionsPerDevice ∧
          (register.address.function ≠ 0 → space.hasSeveral register.address = false →
            space.IsRootCandidate register.address) := by
  obtain ⟨ran, asked⟩ := space.run_readOnly_unchanging (enumerateInto previous)
  have came : space.value (enumerateInto previous) = .ok (.ok (), inventory) :=
    congrArg Prod.fst (ran.symm.trans finished)
  obtain ⟨once, same, ending, reported, entered_eq⟩ := reads_enumerateInto_perm came
  have counts (address : Address) :
      ((space.reads (enumerateInto previous)).map (·.address)).count address =
        (if space.IsLookedAt address then space.lookCost address else 0) +
          (if address = ⟨0, 0, 0⟩ then 1 else 0) +
          (if space.IsRootCandidate address then 1 else 0) := by
    rw [(same.map _).count_eq, List.map_append, List.count_append, count_rootReads,
      count_busReads space once, Nat.add_comm, Nat.add_assoc]
  refine ⟨⟨ending, reported, fun bus => ?_⟩, _, asked, counts, fun register read => ?_⟩
  · rw [entered_eq]
    exact space.contains_enteredBuses bus
  · have some := List.count_pos_iff.2 (List.mem_map_of_mem (f := (·.address)) read)
    rw [counts] at some
    have reason : space.IsLookedAt register.address ∨ register.address = ⟨0, 0, 0⟩ ∨
        space.IsRootCandidate register.address := by
      by_contra none
      simp only [not_or] at none
      simp [none] at some
    rcases reason with ⟨-, onBus, small, first | several⟩ | host | candidate
    · exact ⟨onBus, small, fun further => absurd first further⟩
    · exact ⟨onBus, small, fun _ single => absurd (several.symm.trans single) (by decide)⟩
    · rw [host]
      exact ⟨by decide, by decide, fun further => absurd rfl further⟩
    · have ⟨_, _, device_eq, further⟩ := candidate
      refine ⟨?_, toNat_lt_of_mem_rootFunctions further, fun _ _ => candidate⟩
      rw [device_eq]
      decide

/-- Over the crossed bridges the walk looks at the host bridge and its second function, at a
function of it that is absent, at a bridge, and at a device that is absent on bus 2.  It leaves
the further functions of the bridge alone, and bus 9, which nothing leads to. -/
theorem enumerateInto_reads_crossedBridges :
    ∃ inventory, (readOnly (enumerateInto .empty)).run crossedBridges.unchanging () =
        (.ok (.ok (), inventory), ()) ∧
      (∃ ending, crossedBridges.value (enumerationReport .empty) = .ok ending ∧
        ∀ bus, ending.reached.entered.contains bus = true ↔ crossedBridges.IsReachable bus) ∧
      ∃ made : List ConfigRegister,
        (readOnly (enumerateInto .empty)).requests crossedBridges.unchanging () =
            made.map .read ∧
          [⟨0, 0, 0⟩, ⟨0, 0, 1⟩, ⟨0, 0, 2⟩, ⟨0, 1, 0⟩, ⟨2, 5, 0⟩, ⟨0, 1, 1⟩, ⟨9, 0, 0⟩].map
              (made.map (·.address)).count = [4, 4, 2, 4, 1, 0, 0] := by
  have fits : crossedBridges.enumeration.length ≤ Inventory.capacity := by decide +kernel
  obtain ⟨inventory, walked, -⟩ := crossedBridges.value_enumerateInto .empty
  rw [if_pos fits] at walked
  have ran := (crossedBridges.run_readOnly_unchanging (enumerateInto .empty)).1
  rw [walked] at ran
  obtain ⟨entered, made, asked, counts, -⟩ := enumerateInto_reads ran
  refine ⟨inventory, ran, entered, made, asked, ?_⟩
  simp only [List.map_cons, List.map_nil, counts]
  decide +kernel

end ConfigSpace

end KernelStart.Pci
