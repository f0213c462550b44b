import KernelStart.Program.Conclusion
import KernelStart.Proofs.BusWalkOrder
import Mathlib.Data.List.Nodup

/-!
# The bounds of a walk over arbitrary hardware

Registers may answer differently each time they are read, so the walk is followed without a
configuration space.  A `Journey` keeps the steps of an enumeration, one for each turn and
one for each root bus, next to how it ended; taking the steps away leaves the enumeration
itself (`map_ending_travelReport`).

Every walk on a journey is sound: the buses that it is in were entered once each, and each but
the first lies behind a recorded bridge.  Soundness passes through a turn whatever is
answered (`turn_sound`), so it passes through a journey (`travel_sound`).  A sound walk is never
inside more buses than the stack has places for, and entering a bus behind a function that
found room in the inventory never fails (`Sound.entersFreely`).  So the only error is that the
inventory is full (`enumeration_stays_in_bounds`).
-/

set_option autoImplicit false

namespace KernelStart.Pci

open Program (Concludes)

namespace BusWalk

/-! ## Journeys -/

/-- A step of an enumeration, with the walk before and after it. -/
structure Step where
  before : BusWalk
  after : BusWalk

/-- The steps of an enumeration in order, and how it ended. -/
structure Journey where
  steps : List Step
  ending : Ending

/-- A journey with other steps before its own. -/
def Journey.behind (earlier : List Step) (journey : Journey) : Journey :=
  ⟨earlier ++ journey.steps, journey.ending⟩

/-- `finish`, with a step for each turn that leads onward. -/
def travel (walk : BusWalk) : Program ConfigRead Journey := do
  match ← walk.turn with
  | .ended ending => return ⟨[], ending⟩
  | .onward next _less => Journey.behind [⟨walk, next⟩] <$> next.travel
termination_by walk.work

/-- `walkRoot`, with a step into the root bus. -/
def travelRoot (walk : BusWalk) (bus : UInt8) : Program ConfigRead Journey :=
  match walk.enter bus with
  | .error kind => pure ⟨[], .error kind, walk⟩
  | .ok inside => Journey.behind [⟨walk, inside⟩] <$> inside.travel

/-- `walkRoots`, with the steps of every root bus. -/
def travelRoots (walk : BusWalk) : List UInt8 → Program ConfigRead Journey
  | [] => pure ⟨[], .ok (), walk⟩
  | function :: rest => do
    if (← readVendor ⟨0, 0, function⟩) = absentVendor then
      walk.travelRoots rest
    else
      let journey ← walk.travelRoot function
      match journey.ending.result with
      | .error _ => pure journey
      | .ok _ => Journey.behind journey.steps <$> journey.ending.reached.travelRoots rest

end BusWalk

/-- `enumerationReport`, with the steps of every root bus. -/
def travelReport (previous : Inventory) : Program ConfigRead BusWalk.Journey := do
  let header ← readHeader ⟨0, 0, 0⟩
  let journey ← (BusWalk.start previous.clear).travelRoot 0
  if isSingleFunction header then
    pure journey
  else
    match journey.ending.result with
    | .error _ => pure journey
    | .ok _ =>
      BusWalk.Journey.behind journey.steps <$> journey.ending.reached.travelRoots rootFunctions

/-! ## Without its steps, a journey is the enumeration -/

namespace BusWalk

theorem map_ending_behind (earlier : List Step) (program : Program ConfigRead Journey) :
    Journey.ending <$> Journey.behind earlier <$> program = Journey.ending <$> program := by
  rw [Functor.map_map]
  rfl

theorem map_ending_travel (walk : BusWalk) : Journey.ending <$> walk.travel = walk.finish := by
  induction walk using finish.induct with
  | case1 walk ih =>
    rw [travel, finish, map_bind]
    refine bind_congr fun turn => ?_
    cases turn with
    | ended ending => rfl
    | onward next less => exact (map_ending_behind _ _).trans (ih next less)

theorem map_ending_travelRoot (walk : BusWalk) (bus : UInt8) :
    Journey.ending <$> walk.travelRoot bus = walk.walkRoot bus := by
  unfold travelRoot walkRoot
  cases walk.enter bus with
  | error kind => rfl
  | ok inside => exact (map_ending_behind _ _).trans inside.map_ending_travel

theorem map_ending_travelRoots (walk : BusWalk) (functions : List UInt8) :
    Journey.ending <$> walk.travelRoots functions = walk.walkRoots functions := by
  induction functions generalizing walk with
  | nil => rfl
  | cons function rest ih =>
    rw [travelRoots, walkRoots, map_bind]
    refine bind_congr fun vendor => ?_
    split
    · exact ih walk
    · rw [map_bind, ← map_ending_travelRoot, bind_map_left]
      refine bind_congr fun journey => ?_
      cases journey.ending.result with
      | error kind => rfl
      | ok _ => exact (map_ending_behind _ _).trans (ih _)

end BusWalk

theorem map_ending_travelReport (previous : Inventory) :
    BusWalk.Journey.ending <$> travelReport previous = enumerationReport previous := by
  rw [travelReport, enumerationReport, map_bind]
  refine bind_congr fun header => ?_
  rw [map_bind, ← BusWalk.map_ending_travelRoot, bind_map_left]
  refine bind_congr fun journey => ?_
  split
  · rfl
  · cases journey.ending.result with
    | error kind => rfl
    | ok _ => exact (BusWalk.map_ending_behind _ _).trans (BusWalk.map_ending_travelRoots _ _)

/-! ## Reading -/

theorem readVendor_returns (address : Address) : (readVendor address).Returns :=
  ⟨trivial, fun _ => trivial⟩

theorem readHeader_returns (address : Address) : (readHeader address).Returns :=
  ⟨trivial, fun _ => trivial⟩

theorem readDevice_returns (address : Address) : (readDevice address).Returns :=
  ⟨trivial, fun _ => ⟨trivial, fun _ => trivial⟩⟩

theorem readSecondaryBus_returns (address : Address) : (readSecondaryBus address).Returns :=
  ⟨trivial, fun _ => trivial⟩

/-! ## Sound walks -/

namespace BusWalk

/-- Every bus that the walk is in was entered, and no bus more than once; and there are at most as
many of them as recorded functions, besides the root. -/
structure Sound (walk : BusWalk) : Prop where
  shallow : walk.stack.length ≤ walk.inventory.devices.length + 1
  entered : ∀ cursor ∈ walk.stack, cursor.bus ∈ walk.entered.members
  distinct : (walk.stack.map Cursor.bus).Nodup
  once : walk.entered.members.Nodup

/-- An unfinished walk can go on into any bus: at the root, and after a function that found room
in the inventory. -/
structure EntersFreely (walk : BusWalk) : Prop where
  root : walk.stack = [] → ∀ bus, ∃ inside, walk.enter bus = .ok inside
  behind : ∀ cursor outer, walk.stack = cursor :: outer →
    ∀ device grown, walk.inventory.push device = .ok grown →
      ∀ bus, ∃ inside, (BusWalk.mk grown (cursor.afterPresent device.header :: outer)
        walk.entered).enter bus = .ok inside

variable {walk inside : BusWalk} {cursor : Cursor} {outer : List Cursor} {bus : UInt8}

/-- While the limit on the depth is not reached, every bus can be entered. -/
theorem exists_enter (shallow : walk.stack.length < depthLimit) (bus : UInt8) :
    ∃ inside, walk.enter bus = .ok inside := by
  cases known : walk.entered.contains bus with
  | true => exact ⟨walk, enter_known known⟩
  | false => exact ⟨_, enter_unknown known shallow⟩

namespace Sound

theorem start (inventory : Inventory) : (BusWalk.start inventory).Sound where
  shallow := Nat.zero_le _
  entered := by simp [BusWalk.start]
  distinct := List.nodup_nil
  once := List.nodup_nil

theorem length_stack_le (sound : walk.Sound) : walk.stack.length ≤ depthLimit :=
  Nat.le_trans sound.shallow (Nat.succ_le_succ walk.inventory.length_devices_le)

theorem leave (sound : walk.Sound) (stack_eq : walk.stack = cursor :: outer) :
    (walk.withStack outer).Sound := by
  obtain ⟨shallow, entered, distinct, once⟩ := sound
  rw [stack_eq] at shallow entered distinct
  refine ⟨Nat.le_of_succ_le shallow, ?_, (List.nodup_cons.1 distinct).2, once⟩
  intro other isOuter
  exact entered other (List.mem_cons_of_mem _ isOuter)

/-- A walk stays sound if the topmost position moves on its bus, and functions are recorded. -/
theorem move (sound : walk.Sound) (stack_eq : walk.stack = cursor :: outer) {next : Cursor}
    (same : next.bus = cursor.bus) {inventory : Inventory}
    (more : walk.inventory.devices.length ≤ inventory.devices.length) :
    (BusWalk.mk inventory (next :: outer) walk.entered).Sound := by
  obtain ⟨shallow, entered, distinct, once⟩ := sound
  rw [stack_eq] at shallow entered distinct
  refine ⟨Nat.le_trans shallow (Nat.succ_le_succ more), ?_, ?_, once⟩
  · intro other isOne
    rcases List.mem_cons.1 isOne with rfl | isOuter
    · rw [same]
      exact entered cursor List.mem_cons_self
    · exact entered other (List.mem_cons_of_mem _ isOuter)
  · rw [List.map_cons, same]
    exact distinct

/-- A walk stays sound if it goes into a bus for which a function has been recorded. -/
theorem enter (sound : walk.Sound)
    (fewer : walk.stack.length ≤ walk.inventory.devices.length)
    (entered : walk.enter bus = .ok inside) : inside.Sound := by
  rcases enter_cases entered with rfl | ⟨unknown, rfl⟩
  · exact sound
  have fresh : bus ∉ walk.stack.map Cursor.bus := by
    intro isOne
    obtain ⟨cursor, inStack, rfl⟩ := List.mem_map.1 isOne
    exact unknown (sound.entered cursor inStack)
  refine ⟨Nat.succ_le_succ fewer, ?_, ?_, List.nodup_cons.2 ⟨unknown, sound.once⟩⟩
  · intro cursor isOne
    rcases List.mem_cons.1 isOne with rfl | inStack
    · exact List.mem_cons_self
    · exact List.mem_cons_of_mem _ (sound.entered cursor inStack)
  · exact List.nodup_cons.2 ⟨fresh, sound.distinct⟩

/-- The limit on the depth is never in the way. -/
theorem entersFreely (sound : walk.Sound) : walk.EntersFreely where
  root := by
    intro none
    apply exists_enter
    rw [none]
    exact Nat.succ_pos _
  behind := by
    intro cursor outer stack_eq device grown pushed
    apply exists_enter
    have deep := sound.shallow
    have bound := grown.length_devices_le
    rw [Inventory.devices_of_push pushed, List.length_append, List.length_singleton] at bound
    rw [stack_eq, List.length_cons] at deep
    rw [List.length_cons, depthLimit]
    omega

end Sound

/-! ## What a step does -/

/-- The bus that a step puts on the stack, if it does. -/
def Step.newBus? (step : Step) : Option UInt8 :=
  if step.before.stack.length < step.after.stack.length then
    step.after.stack.head?.map Cursor.bus
  else
    none

/-- A step comes to a sound walk, and the bus that it puts on the stack is the only one that it
enters. -/
structure Step.IsSound (step : Step) : Prop where
  after : step.after.Sound
  entered : step.after.entered.members = step.newBus?.toList ++ step.before.entered.members

theorem Step.newBus?_of_le {step : Step}
    (le : step.after.stack.length ≤ step.before.stack.length) : step.newBus? = none :=
  if_neg (Nat.not_lt.2 le)

theorem Step.newBus?_start {before after : BusWalk} (stack_eq : after.stack = .start bus :: outer)
    (deeper : before.stack.length ≤ outer.length) : (Step.mk before after).newBus? = some bus := by
  have grows : before.stack.length < after.stack.length := by
    rw [stack_eq]
    exact Nat.lt_succ_of_le deeper
  rw [newBus?, if_pos grows, stack_eq]
  rfl

/-- Entering a bus from a walk of the same depth, in which the same buses were entered. -/
theorem Step.isSound_enter {before moved : BusWalk} (sound : moved.Sound)
    (fewer : moved.stack.length ≤ moved.inventory.devices.length)
    (sameDepth : moved.stack.length = before.stack.length)
    (sameEntered : moved.entered = before.entered) (entered : moved.enter bus = .ok inside) :
    (Step.mk before inside).IsSound := by
  refine ⟨sound.enter fewer entered, ?_⟩
  rcases enter_cases entered with rfl | ⟨-, rfl⟩
  · rw [Step.newBus?_of_le (Nat.le_of_eq sameDepth), ← sameEntered]
    rfl
  · rw [Step.newBus?_start rfl (Nat.le_of_eq sameDepth.symm), ← sameEntered]
    rfl

/-- A walk ends when it has left every bus, or when there is no room for a further function. -/
def Ending.IsOverOrFull (ending : Ending) : Prop :=
  ending.result = .ok () ∧ ending.reached.stack = [] ∨
    ending.result = .error .resourceExhausted ∧
      ending.reached.inventory.devices.length = Inventory.capacity

/-- A turn ends the walk where it is, or takes a sound step. -/
def Turn.IsSound {walk : BusWalk} : Turn walk → Prop
  | .ended ending => ending.reached = walk ∧ ending.IsOverOrFull
  | .onward next _ => (Step.mk walk next).IsSound

theorem look_sound (sound : walk.Sound) (stack_eq : walk.stack = cursor :: outer)
    (unfinished : cursor.isFinished = false) :
    (walk.look cursor outer stack_eq unfinished).Concludes (fun _ => True)
      fun _ => Turn.IsSound := by
  have depth {next : Cursor} : (next :: outer).length = walk.stack.length := by
    rw [stack_eq]
    rfl
  refine Concludes.bind (readVendor_returns _) fun _ vendor _ => ?_
  split
  case isTrue absent =>
    refine ⟨sound.move stack_eq ?_ (Nat.le_refl _), ?_⟩
    · unfold Cursor.afterAbsent
      split <;> rfl
    · rw [Step.newBus?_of_le (Nat.le_of_eq depth)]
      rfl
  refine Concludes.bind (readDevice_returns _) fun _ device _ => ?_
  have same : (cursor.afterPresent device.header).bus = cursor.bus := by
    unfold Cursor.afterPresent
    split <;> rfl
  split
  case h_1 kind pushed =>
    obtain ⟨rfl, full⟩ := Inventory.full_of_push_error pushed
    exact ⟨rfl, .inr ⟨rfl, full⟩⟩
  case h_2 grown pushed =>
    have recorded : grown.devices.length = walk.inventory.devices.length + 1 := by
      rw [Inventory.devices_of_push pushed, List.length_append, List.length_singleton]
    have moved := sound.move stack_eq same (Nat.le_of_succ_le (Nat.le_of_eq recorded.symm))
    dsimp only
    split
    case isTrue bridge =>
      refine Concludes.bind (readSecondaryBus_returns _) fun _ bus _ => ?_
      obtain ⟨inside, inside_eq⟩ :=
        sound.entersFreely.behind cursor outer stack_eq device grown pushed bus
      split
      case h_1 kind failed => exact absurd (failed.symm.trans inside_eq) (by simp)
      case h_2 reached reached_eq =>
        have fewer : outer.length + 1 ≤ grown.devices.length := by
          have deep := sound.shallow
          rw [stack_eq, List.length_cons] at deep
          omega
        exact Step.isSound_enter moved fewer depth rfl reached_eq
    case isFalse plain =>
      refine ⟨moved, ?_⟩
      rw [Step.newBus?_of_le (Nat.le_of_eq depth)]
      rfl

/-- Whatever is answered, a turn ends a sound walk where it is or takes a sound step. -/
theorem turn_sound (sound : walk.Sound) :
    walk.turn.Concludes (fun _ => True) fun _ => Turn.IsSound := by
  unfold turn
  split
  case h_1 none => exact ⟨rfl, .inl ⟨rfl, none⟩⟩
  case h_2 cursor outer stack_eq =>
    split
    case isTrue finished =>
      refine ⟨sound.leave stack_eq, ?_⟩
      rw [Step.newBus?_of_le]
      · rfl
      · rw [stack_eq]
        exact Nat.le_succ _
    case isFalse unfinished =>
      exact look_sound sound stack_eq ((Bool.not_eq_true _).mp unfinished)

/-! ## What a journey does -/

/-- The steps lead from the first walk to the last, one after the other. -/
def Leads : BusWalk → List Step → BusWalk → Prop
  | first, [], last => first = last
  | first, step :: rest, last => step.before = first ∧ Leads step.after rest last

theorem Leads.append {first middle last : BusWalk} {early late : List Step}
    (before : Leads first early middle) (after : Leads middle late last) :
    Leads first (early ++ late) last := by
  induction early generalizing first with
  | nil =>
    cases before
    exact after
  | cons step rest ih => exact ⟨before.1, ih before.2⟩

/-- The buses that a journey puts on the stack, in order. -/
def Journey.newBuses (journey : Journey) : List UInt8 := journey.steps.filterMap Step.newBus?

/-- Sound steps enter what they put on the stack, latest first, and nothing else. -/
theorem Leads.entered_members {first last : BusWalk} {steps : List Step}
    (leads : Leads first steps last) (sound : ∀ step ∈ steps, step.IsSound) :
    last.entered.members = (steps.filterMap Step.newBus?).reverse ++ first.entered.members := by
  induction steps generalizing first with
  | nil =>
    cases leads
    rfl
  | cons step rest ih =>
    obtain ⟨rfl, later⟩ := leads
    obtain ⟨own, others⟩ := List.forall_mem_cons.1 sound
    rw [ih later others, own.entered]
    cases new : step.newBus? with
    | none => rw [List.filterMap_cons_none new, Option.toList_none, List.nil_append]
    | some bus =>
      rw [List.filterMap_cons_some new, List.reverse_cons, List.append_assoc]
      rfl

/-- Sound steps lead to a sound walk. -/
theorem Leads.sound {first last : BusWalk} {steps : List Step} (leads : Leads first steps last)
    (start : first.Sound) (sound : ∀ step ∈ steps, step.IsSound) :
    last.Sound ∧ ∀ step ∈ steps, step.before.Sound := by
  induction steps generalizing first with
  | nil =>
    cases leads
    exact ⟨start, fun _ none => nomatch none⟩
  | cons step rest ih =>
    obtain ⟨rfl, later⟩ := leads
    obtain ⟨own, others⟩ := List.forall_mem_cons.1 sound
    obtain ⟨reached, before⟩ := ih later own.after others
    exact ⟨reached, List.forall_mem_cons.2 ⟨start, before⟩⟩

/-- Sound steps from one walk to another; each does some of the work, but for at most the given
number of them. -/
structure Passes (first : BusWalk) (steps : List Step) (last : BusWalk) (idle : Nat) : Prop where
  leads : Leads first steps last
  sound : ∀ step ∈ steps, step.IsSound
  short : steps.length + last.work ≤ first.work + idle

theorem Passes.refl (walk : BusWalk) : Passes walk [] walk 0 where
  leads := rfl
  sound := fun _ none => nomatch none
  short := by simp

theorem Passes.append {first middle last : BusWalk} {early late : List Step} {idle further : Nat}
    (before : Passes first early middle idle) (after : Passes middle late last further) :
    Passes first (early ++ late) last (idle + further) where
  leads := before.leads.append after.leads
  sound := List.forall_mem_append.2 ⟨before.sound, after.sound⟩
  short := by
    have early_short := before.short
    have late_short := after.short
    rw [List.length_append]
    omega

theorem Passes.mono {first last : BusWalk} {steps : List Step} {idle more : Nat}
    (passes : Passes first steps last idle) (le : idle ≤ more) : Passes first steps last more :=
  ⟨passes.leads, passes.sound, Nat.le_trans passes.short (Nat.add_le_add_left le _)⟩

/-- One step, which works or is idle. -/
theorem Passes.step {next : BusWalk} {idle : Nat} (sound : (Step.mk walk next).IsSound)
    (less : 1 + next.work ≤ walk.work + idle) : Passes walk [⟨walk, next⟩] next idle :=
  ⟨⟨rfl, rfl⟩, List.forall_mem_singleton.2 sound, less⟩

/-- The journey passes from a walk to its end. -/
def Journey.IsSoundFrom (journey : Journey) (first : BusWalk) (idle : Nat) : Prop :=
  Passes first journey.steps journey.ending.reached idle ∧ journey.ending.IsOverOrFull

theorem Journey.IsSoundFrom.behind {journey : Journey} {first middle : BusWalk}
    {earlier : List Step} {idle further : Nat} (after : journey.IsSoundFrom middle further)
    (before : Passes first earlier middle idle) :
    (journey.behind earlier).IsSoundFrom first (idle + further) :=
  ⟨before.append after.1, after.2⟩

/-- A program that comes to a sound journey does so with a passage before it. -/
theorem behind_sound {program : Program ConfigRead Journey} {first middle : BusWalk}
    {earlier : List Step} {idle further : Nat} (before : Passes first earlier middle idle)
    (after : program.Concludes (fun _ => True) fun _ journey =>
      journey.IsSoundFrom middle further) :
    (Journey.behind earlier <$> program).Concludes (fun _ => True) fun _ journey =>
      journey.IsSoundFrom first (idle + further) :=
  Concludes.bind after fun _ _ sound => sound.behind before

/-- Whatever is answered, a sound walk comes to its end in sound steps. -/
theorem travel_sound (sound : walk.Sound) :
    walk.travel.Concludes (fun _ => True) fun _ journey => journey.IsSoundFrom walk 0 := by
  induction walk using finish.induct with
  | case1 walk ih =>
    rw [travel]
    refine Concludes.bind (turn_sound sound) fun _ turn isSound => ?_
    cases turn with
    | ended ending =>
      obtain ⟨rfl, ends⟩ := isSound
      exact ⟨.refl ending.reached, ends⟩
    | onward next less =>
      have step : (Step.mk walk next).IsSound := isSound
      exact behind_sound (.step step (by omega)) (ih next less step.after)

/-- Whatever is answered, a sound walk that is in no bus comes to its end from a root bus. -/
theorem travelRoot_sound (sound : walk.Sound) (outside : walk.stack = []) (bus : UInt8) :
    (walk.travelRoot bus).Concludes (fun _ => True) fun _ journey =>
      journey.IsSoundFrom walk 1 := by
  obtain ⟨inside, entered⟩ := sound.entersFreely.root outside bus
  have fewer : walk.stack.length ≤ walk.inventory.devices.length := by
    rw [outside]
    exact Nat.zero_le _
  have step := Step.isSound_enter sound fewer rfl rfl entered
  have work := work_enter_le entered
  rw [travelRoot, entered]
  exact behind_sound (.step step (by omega)) (travel_sound step.after)

/-- After a root bus the enumeration goes on where that ended, unless it ended with an error. -/
theorem goOn_sound {first : BusWalk} {journey : Journey} {idle further : Nat}
    (start : first.Sound) (sound : journey.IsSoundFrom first idle)
    {next : BusWalk → Program ConfigRead Journey}
    (later : ∀ reached : BusWalk, reached.Sound → reached.stack = [] →
      (next reached).Concludes (fun _ => True) fun _ rest => rest.IsSoundFrom reached further) :
    (match journey.ending.result with
      | .error _ => (pure journey : Program ConfigRead Journey)
      | .ok _ => Journey.behind journey.steps <$> next journey.ending.reached).Concludes
        (fun _ => True) fun _ whole => whole.IsSoundFrom first (idle + further) := by
  obtain ⟨passes, ⟨result_eq, outside⟩ | ⟨result_eq, full⟩⟩ := sound
  · rw [result_eq]
    exact behind_sound passes
      (later _ (passes.leads.sound start passes.sound).1 outside)
  · rw [result_eq]
    exact ⟨passes.mono (Nat.le_add_right idle further), .inr ⟨result_eq, full⟩⟩

theorem travelRoots_sound (sound : walk.Sound) (outside : walk.stack = [])
    (functions : List UInt8) :
    (walk.travelRoots functions).Concludes (fun _ => True) fun _ journey =>
      journey.IsSoundFrom walk functions.length := by
  induction functions generalizing walk with
  | nil => exact ⟨.refl walk, .inl ⟨rfl, outside⟩⟩
  | cons function rest ih =>
    rw [travelRoots, List.length_cons, Nat.add_comm]
    refine Concludes.bind (readVendor_returns _) fun _ vendor _ => ?_
    split
    case isTrue absent =>
      refine (ih sound outside).mono fun _ journey isSound => ?_
      exact ⟨isSound.1.mono (Nat.le_add_left _ _), isSound.2⟩
    case isFalse present =>
      refine Concludes.bind (travelRoot_sound sound outside function) fun _ journey isSound => ?_
      exact goOn_sound sound isSound fun reached reachedSound left => ih reachedSound left

end BusWalk

/-- Whatever is answered, an enumeration comes to its end in sound steps. -/
theorem travelReport_sound (previous : Inventory) :
    (travelReport previous).Concludes (fun _ => True) fun _ journey =>
      journey.IsSoundFrom (BusWalk.start previous.clear) (1 + rootFunctions.length) := by
  have start := BusWalk.Sound.start previous.clear
  refine Concludes.bind (readHeader_returns _) fun _ header _ => ?_
  refine Concludes.bind (BusWalk.travelRoot_sound start rfl 0) fun _ journey isSound => ?_
  split
  · exact ⟨isSound.1.mono (Nat.le_add_right _ _), isSound.2⟩
  · exact BusWalk.goOn_sound start isSound fun reached reachedSound left =>
      BusWalk.travelRoots_sound reachedSound left rootFunctions

/-! ## The bounds -/

namespace BusWalk

/-- The walk is inside different buses, not more of them than the stack has places for, and has not
recorded more functions than the inventory has room for; and the limit on the depth keeps it from
no bus. -/
structure InBounds (walk : BusWalk) : Prop where
  depth : walk.stack.length ≤ depthLimit
  distinct : (walk.stack.map Cursor.bus).Nodup
  recorded : walk.inventory.devices.length ≤ Inventory.capacity
  entersFreely : walk.EntersFreely

theorem Sound.inBounds {walk : BusWalk} (sound : walk.Sound) : walk.InBounds where
  depth := sound.length_stack_le
  distinct := sound.distinct
  recorded := walk.inventory.length_devices_le
  entersFreely := sound.entersFreely

/-- No enumeration takes more steps: there are 256 buses, each is entered, left, and looked at
position by position, and the root buses may have been entered before. -/
def stepLimit : Nat := 256 * (Cursor.positions + 2) + functionsPerDevice

theorem work_start_le (inventory : Inventory) :
    (start inventory).work ≤ 256 * (Cursor.positions + 2) := by
  have bound := Nat.mul_le_mul_right (Cursor.positions + 2) (start inventory).entered.free_le
  simpa [work, start] using bound

end BusWalk

theorem map_travelReport (previous : Inventory) :
    (fun journey : BusWalk.Journey =>
        (journey.ending.result, journey.ending.reached.inventory)) <$> travelReport previous =
      enumerateInto previous := by
  rw [enumerateInto, ← map_ending_travelReport, bind_map_left]
  exact map_eq_pure_bind _ _

/-- Whatever is answered, an enumeration comes to a result, and fails only with a full inventory. -/
theorem enumerateInto_concludes (previous : Inventory) :
    (enumerateInto previous).Concludes (fun _ => True) fun _ outcome =>
      outcome.1 = .ok () ∨
        outcome.1 = .error .resourceExhausted ∧
          outcome.2.devices.length = Inventory.capacity := by
  rw [← map_travelReport]
  refine Concludes.bind (travelReport_sound previous) fun _ journey isSound => ?_
  rcases isSound.2 with ⟨result_eq, -⟩ | ⟨result_eq, full⟩
  · exact .inl result_eq
  · exact .inr ⟨result_eq, full⟩

/-- **Whatever the hardware answers, an enumeration ends, and stays in bounds on the way.**  The
steps that it takes are bounded, each walk that they pass is in bounds, and over all root buses no
bus is put on the stack twice.  The enumeration ends when every bus is left, or because a function
finds no room in a full inventory. -/
theorem enumeration_stays_in_bounds (previous : Inventory) :
    (fun journey : BusWalk.Journey =>
        (journey.ending.result, journey.ending.reached.inventory)) <$> travelReport previous =
      enumerateInto previous ∧
    (travelReport previous).Concludes (fun _ => True) fun _ journey =>
      BusWalk.Leads (.start previous.clear) journey.steps journey.ending.reached ∧
        journey.steps.length ≤ BusWalk.stepLimit ∧
        (∀ step ∈ journey.steps, step.before.InBounds ∧ step.after.InBounds) ∧
        journey.newBuses.Nodup ∧
        journey.ending.IsOverOrFull := by
  refine ⟨map_travelReport previous, ?_⟩
  refine (travelReport_sound previous).mono ?_
  rintro _ journey ⟨passes, ends⟩
  have start := BusWalk.Sound.start previous.clear
  obtain ⟨reached, before⟩ := passes.leads.sound start passes.sound
  have short : journey.steps.length ≤ BusWalk.stepLimit := by
    have spent := Nat.le_trans (Nat.le_add_right _ _) passes.short
    exact Nat.le_trans spent (Nat.add_le_add_right (BusWalk.work_start_le previous.clear) _)
  have bounded : ∀ step ∈ journey.steps, step.before.InBounds ∧ step.after.InBounds := by
    intro step isOne
    exact ⟨(before step isOne).inBounds, (passes.sound step isOne).after.inBounds⟩
  have once : journey.newBuses.Nodup := by
    have entered := reached.once
    rw [passes.leads.entered_members passes.sound] at entered
    exact List.nodup_reverse.1 entered.of_append_left
  exact ⟨passes.leads, short, bounded, once, ends⟩

end KernelStart.Pci
