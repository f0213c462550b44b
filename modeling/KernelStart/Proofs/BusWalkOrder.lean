import KernelStart.Proofs.BusAgenda
import KernelStart.Proofs.BusPositions

/-!
# The walk follows the recursive enumeration

The walk keeps a stack of positions, a set of entered buses and an inventory of fixed
capacity; the enumeration of the bus graph is a recursion without a capacity.  On a
configuration space whose registers do not change the two agree: the walk records the
functions of the enumeration in the same order, and fails exactly when there are more of
them than the inventory has room for (`enumerateInto_eq_enumeration`).

The stack stands for an agenda: what is left of the innermost bus, then what is left of the
bus around it, and so on (`stackAgenda`).  A walk is *on course* for a list of functions if
completing its agenda leads from what it has recorded to that list.  One turn keeps the
walk on course or ends it as it should (`turn_onCourse`), so a whole walk does
(`finish_onCourse`).  Being on course includes that the walk is never inside more buses than
it has recorded bridges, which is why the limit on the depth never ends it.
-/

set_option autoImplicit false

namespace KernelStart.Pci

/-! ## Entering a bus -/

namespace BusWalk

theorem enter_known {walk : BusWalk} {bus : UInt8} (known : walk.entered.contains bus = true) :
    walk.enter bus = .ok walk := by
  unfold enter
  rw [if_pos known]

/-- While the limit on the depth is not reached, a bus that was never entered is put on top. -/
theorem enter_unknown {walk : BusWalk} {bus : UInt8}
    (unknown : walk.entered.contains bus = false) (shallow : walk.stack.length < depthLimit) :
    walk.enter bus =
      .ok ⟨walk.inventory, .start bus :: walk.stack, walk.entered.insert bus⟩ := by
  unfold enter
  rw [if_neg (Bool.eq_false_iff.1 unknown), if_neg (Nat.not_le.2 shallow)]

/-- A bus is put on top of the stack only if it was not entered before. -/
theorem enter_cases {walk inside : BusWalk} {bus : UInt8}
    (entered : walk.enter bus = .ok inside) :
    inside = walk ∨ bus ∉ walk.entered.members ∧
      inside = ⟨walk.inventory, .start bus :: walk.stack, walk.entered.insert bus⟩ := by
  unfold enter at entered
  split at entered
  case isTrue known =>
    cases entered
    exact .inl rfl
  case isFalse unknown =>
    split at entered
    · cases entered
    · cases entered
      refine .inr ⟨?_, rfl⟩
      simpa [ByteSet.contains] using unknown

end BusWalk

/-! ## Turns on an unchanging configuration space -/

namespace ConfigSpace

/-- One turn leads from one walk to another. -/
def TurnsTo (space : ConfigSpace) (walk next : BusWalk) : Prop :=
  ∃ less, space.value walk.turn = .ok (.onward next less)

variable {space : ConfigSpace} {inventory grown : Inventory} {cursor : Cursor}
  {outer : List Cursor} {entered : ByteSet}

/-- A walk that is in no bus is over. -/
theorem value_turn_nil (space : ConfigSpace) (inventory : Inventory) (entered : ByteSet) :
    space.value (BusWalk.mk inventory [] entered).turn =
      .ok (.ended ⟨.ok (), ⟨inventory, [], entered⟩⟩) := rfl

theorem turnsTo_leave (finished : cursor.isFinished = true) :
    space.TurnsTo ⟨inventory, cursor :: outer, entered⟩ ⟨inventory, outer, entered⟩ := by
  refine ⟨@BusWalk.work_leave_lt ⟨inventory, cursor :: outer, entered⟩ cursor outer rfl, ?_⟩
  simp only [BusWalk.turn, dif_pos finished]
  rfl

/-- A turn at an unfinished position looks at the function there. -/
theorem value_turn_cons (unfinished : cursor.isFinished = false) :
    space.value (BusWalk.mk inventory (cursor :: outer) entered).turn =
      space.value ((BusWalk.mk inventory (cursor :: outer) entered).look cursor outer rfl
        unfinished) := by
  have goes : ¬cursor.isFinished = true := Bool.eq_false_iff.1 unfinished
  simp only [BusWalk.turn, dif_neg goes]

theorem turnsTo_absent (unfinished : cursor.isFinished = false)
    (absent : space.isPresent cursor.address = false) :
    space.TurnsTo ⟨inventory, cursor :: outer, entered⟩
      ⟨inventory, cursor.afterAbsent :: outer, entered⟩ := by
  have vendor := (space.isPresent_eq_false_iff cursor.address).1 absent
  refine ⟨@BusWalk.work_move_lt ⟨inventory, cursor :: outer, entered⟩ cursor _ outer inventory rfl
    unfinished cursor.position_lt_afterAbsent, ?_⟩
  rw [value_turn_cons unfinished, BusWalk.look, Program.bind_eq,
    value_bind (space.value_readVendor cursor.address), if_pos vendor]
  rfl

/-- A function that finds no room ends the walk. -/
theorem value_turn_full (unfinished : cursor.isFinished = false)
    (present : space.isPresent cursor.address = true)
    (full : Inventory.capacity ≤ inventory.devices.length) :
    space.value (BusWalk.mk inventory (cursor :: outer) entered).turn =
      .ok (.ended ⟨.error .resourceExhausted, ⟨inventory, cursor :: outer, entered⟩⟩) := by
  have vendor := (space.isPresent_iff cursor.address).1 present
  rw [value_turn_cons unfinished, BusWalk.look, Program.bind_eq,
    value_bind (space.value_readVendor cursor.address), if_neg vendor]
  simp only [Program.bind_eq, value_bind (space.value_readDevice cursor.address),
    Inventory.push_of_full full]
  rfl

theorem turnsTo_plain (unfinished : cursor.isFinished = false)
    (present : space.isPresent cursor.address = true)
    (pushed : inventory.push (space.device cursor.address) = .ok grown)
    (plain : space.isBridge cursor.address = false) :
    space.TurnsTo ⟨inventory, cursor :: outer, entered⟩
      ⟨grown, cursor.afterPresent (space.header cursor.address) :: outer, entered⟩ := by
  have vendor := (space.isPresent_iff cursor.address).1 present
  have notBridge : (space.device cursor.address).classCode.isBridge = false := plain
  refine ⟨@BusWalk.work_move_lt ⟨inventory, cursor :: outer, entered⟩ cursor _ outer grown rfl
    unfinished (cursor.position_lt_afterPresent _), ?_⟩
  rw [value_turn_cons unfinished, BusWalk.look, Program.bind_eq,
    value_bind (space.value_readVendor cursor.address), if_neg vendor]
  simp only [Program.bind_eq, value_bind (space.value_readDevice cursor.address), pushed,
    notBridge, Bool.false_eq_true, if_false]
  rfl

/-- After a bridge the walk goes on where entering the bus behind it leads. -/
theorem turnsTo_bridge {inside : BusWalk} (unfinished : cursor.isFinished = false)
    (present : space.isPresent cursor.address = true)
    (pushed : inventory.push (space.device cursor.address) = .ok grown)
    (bridge : space.isBridge cursor.address = true)
    (inside_eq : (BusWalk.mk grown (cursor.afterPresent (space.header cursor.address) :: outer)
      entered).enter (space.secondaryBus cursor.address) = .ok inside) :
    space.TurnsTo ⟨inventory, cursor :: outer, entered⟩ inside := by
  have vendor := (space.isPresent_iff cursor.address).1 present
  have isBridge : (space.device cursor.address).classCode.isBridge = true := bridge
  have moved := @BusWalk.work_move_lt ⟨inventory, cursor :: outer, entered⟩ cursor _ outer grown rfl
    unfinished (cursor.position_lt_afterPresent (space.header cursor.address))
  refine ⟨Nat.lt_of_le_of_lt (BusWalk.work_enter_le inside_eq) moved, ?_⟩
  rw [value_turn_cons unfinished, BusWalk.look, Program.bind_eq,
    value_bind (space.value_readVendor cursor.address), if_neg vendor]
  simp only [Program.bind_eq, value_bind (space.value_readDevice cursor.address), pushed,
    isBridge, if_true, value_bind (space.value_readSecondaryBus cursor.address)]
  split
  · next kind failed => exact absurd (failed.symm.trans inside_eq) (by simp)
  · next reached reached_eq =>
    obtain rfl : reached = inside := Except.ok.inj (reached_eq.symm.trans inside_eq)
    rfl

/-- A turn that leads onward does not change where the walk ends. -/
theorem TurnsTo.value_finish {walk next : BusWalk} (turns : space.TurnsTo walk next) :
    space.value walk.finish = space.value next.finish := by
  obtain ⟨_, turned⟩ := turns
  rw [BusWalk.finish, Program.bind_eq, value_bind turned]

/-- A turn that ends the walk says how it ends. -/
theorem value_finish_of_ended {walk : BusWalk} {ending : BusWalk.Ending}
    (turned : space.value walk.turn = .ok (.ended ending)) :
    space.value walk.finish = .ok ending := by
  rw [BusWalk.finish, Program.bind_eq, value_bind turned]
  rfl

end ConfigSpace

/-! ## Walks on course -/

/-- What comes of a walk that is to record these functions: all of them, or, if there are too
many, an error and those that found room. -/
structure BusWalk.Ending.Records (ending : BusWalk.Ending) (all : List Device) : Prop where
  result_eq : ending.result =
    if all.length ≤ Inventory.capacity then .ok () else .error .resourceExhausted
  devices_eq : ending.reached.inventory.devices = all.take Inventory.capacity

/-- A walk that recorded all it was to record has left every bus, with these buses entered. -/
structure BusWalk.Ending.IsEndOf (ending : BusWalk.Ending) (all : List Device)
    (last : ByteSet) : Prop extends ending.Records all where
  left : all.length ≤ Inventory.capacity →
    ending.reached.stack = [] ∧ ending.reached.entered = last

namespace BusWalk.Ending

variable {ending : BusWalk.Ending} {all : List Device}

/-- What an inventory holds has found room in it. -/
theorem isEndOf_devices (inventory : Inventory) (entered : ByteSet) :
    (BusWalk.Ending.mk (.ok ()) ⟨inventory, [], entered⟩).IsEndOf inventory.devices entered := by
  have fits := inventory.length_devices_le
  exact ⟨⟨(if_pos fits).symm, (List.take_of_length_le fits).symm⟩, fun _ => ⟨rfl, rfl⟩⟩

/-- Where there was too much already, more makes no difference. -/
theorem Records.append (records : ending.Records all)
    (tooMany : Inventory.capacity < all.length) (more : List Device) (last : ByteSet) :
    ending.IsEndOf (all ++ more) last := by
  have stillTooMany : ¬(all ++ more).length ≤ Inventory.capacity := by
    rw [List.length_append]
    omega
  refine ⟨⟨?_, ?_⟩, fun fits => absurd fits stillTooMany⟩
  · rw [records.result_eq, if_neg (Nat.not_le.2 tooMany), if_neg stillTooMany]
  · rw [records.devices_eq, List.take_append_of_le_length (Nat.le_of_lt tooMany)]

end BusWalk.Ending

namespace ConfigSpace

/-- The agenda that a stack of positions stands for. -/
def stackAgenda (space : ConfigSpace) (stack : List Cursor) : List Errand :=
  stack.flatMap fun cursor => (space.shownFrom cursor).map .record

/-- A walk that will have recorded these functions when it ends, with these buses entered.  Each
bus that it is in, but for the first, lies behind a bridge that it has recorded. -/
structure OnCourse (space : ConfigSpace) (all : List Device) (last : ByteSet)
    (walk : BusWalk) : Prop where
  shallow : walk.stack.length ≤ walk.inventory.devices.length + 1
  ahead : ∃ found, space.Completes (space.stackAgenda walk.stack) walk.entered found last ∧
    walk.inventory.devices ++ found = all

variable {space : ConfigSpace} {all : List Device} {last : ByteSet}

/-- A turn at a function keeps a walk on course, or ends it if the function finds no room. -/
theorem turn_onCourse_present {inventory : Inventory} {cursor : Cursor} {outer : List Cursor}
    {entered : ByteSet} {found : List Device} (unfinished : cursor.isFinished = false)
    (present : space.isPresent cursor.address = true)
    (shallow : outer.length + 1 ≤ inventory.devices.length + 1)
    (completes : space.Completes (.record cursor.address ::
      space.stackAgenda (cursor.afterPresent (space.header cursor.address) :: outer))
      entered found last) :
    (∃ ending, space.value (BusWalk.mk inventory (cursor :: outer) entered).turn =
        .ok (.ended ending) ∧ ending.IsEndOf (inventory.devices ++ found) last) ∨
      ∃ next, space.TurnsTo ⟨inventory, cursor :: outer, entered⟩ next ∧
        space.OnCourse (inventory.devices ++ found) last next := by
  by_cases room : inventory.devices.length < Inventory.capacity
  · obtain ⟨grown, pushed, grown_eq⟩ := Inventory.push_of_room room
    have deeper : outer.length + 1 ≤ grown.devices.length := by
      rw [grown_eq, List.length_append]
      exact shallow
    cases completes with
    | @record _ _ _ _ later plain completes =>
      refine .inr ⟨_, turnsTo_plain unfinished present pushed plain,
        Nat.le_succ_of_le deeper, later, completes, ?_⟩
      rw [grown_eq, List.append_assoc]
      rfl
    | @descend _ _ _ _ later bridge completes =>
      have all_eq : grown.devices ++ later =
          inventory.devices ++ space.device cursor.address :: later := by
        rw [grown_eq, List.append_assoc]
        rfl
      cases completes with
      | skip known completes =>
        exact .inr ⟨_, turnsTo_bridge unfinished present pushed bridge (BusWalk.enter_known known),
          Nat.le_succ_of_le deeper, later, completes, all_eq⟩
      | enter unknown completes =>
        -- The stack has one position more than the bus around it, and the bridge was just
        -- recorded, so the limit is out of reach.
        have below : outer.length + 1 < BusWalk.depthLimit :=
          Nat.lt_succ_of_le (Nat.le_trans deeper grown.length_devices_le)
        rw [← shownFrom_start] at completes
        exact .inr ⟨_, turnsTo_bridge unfinished present pushed bridge
          (BusWalk.enter_unknown unknown below), Nat.succ_le_succ deeper, later, completes, all_eq⟩
  · have full : Inventory.capacity ≤ inventory.devices.length := Nat.le_of_not_lt room
    have exact_length := Nat.le_antisymm inventory.length_devices_le full
    have more : 0 < found.length := by
      cases completes <;> exact Nat.succ_pos _
    have tooMany : ¬(inventory.devices ++ found).length ≤ Inventory.capacity := by
      rw [List.length_append]
      omega
    refine .inl ⟨_, value_turn_full unfinished present full, ⟨?_, ?_⟩, fun fits => ?_⟩
    · rw [if_neg tooMany]
    · rw [← exact_length, List.take_left]
    · exact absurd fits tooMany

/-- One turn keeps a walk on course, or ends it with what it was to record. -/
theorem turn_onCourse {walk : BusWalk} (course : space.OnCourse all last walk) :
    (∃ ending, space.value walk.turn = .ok (.ended ending) ∧ ending.IsEndOf all last) ∨
      ∃ next, space.TurnsTo walk next ∧ space.OnCourse all last next := by
  obtain ⟨shallow, found, completes, rfl⟩ := course
  obtain ⟨inventory, stack, entered⟩ := walk
  cases stack with
  | nil =>
    cases completes
    rw [List.append_nil]
    exact .inl ⟨_, space.value_turn_nil inventory entered,
      BusWalk.Ending.isEndOf_devices inventory entered⟩
  | cons cursor outer =>
    simp only [List.length_cons] at shallow
    cases finished : cursor.isFinished with
    | true =>
      rw [stackAgenda, List.flatMap_cons, shownFrom_finished finished] at completes
      exact .inr ⟨_, turnsTo_leave finished, Nat.le_of_succ_le shallow, found, completes, rfl⟩
    | false =>
      cases present : space.isPresent cursor.address with
      | false =>
        rw [stackAgenda, List.flatMap_cons, shownFrom_absent finished present] at completes
        exact .inr ⟨_, turnsTo_absent finished present, shallow, found, completes, rfl⟩
      | true =>
        rw [stackAgenda, List.flatMap_cons, shownFrom_present finished present] at completes
        exact turn_onCourse_present finished present shallow completes

/-- A walk on course ends with what it was to record. -/
theorem finish_onCourse {walk : BusWalk} (course : space.OnCourse all last walk) :
    ∃ ending, space.value walk.finish = .ok ending ∧ ending.IsEndOf all last := by
  induction left : walk.work using Nat.strongRecOn generalizing walk with
  | ind work ih =>
    subst left
    rcases turn_onCourse course with ⟨ending, turned, isEnd⟩ | ⟨next, turns, onward⟩
    · exact ⟨ending, value_finish_of_ended turned, isEnd⟩
    · rw [turns.value_finish]
      exact ih _ turns.1 onward rfl

/-- Walking a root bus records what the recursive enumeration lists for the bus. -/
theorem walkRoot_eq_listBus (space : ConfigSpace) (inventory : Inventory) (entered : ByteSet)
    (bus : UInt8) :
    ∃ ending, space.value ((BusWalk.mk inventory [] entered).walkRoot bus) = .ok ending ∧
      ending.IsEndOf (inventory.devices ++ (space.listBus busCount bus entered).1)
        (space.listBus busCount bus entered).2 := by
  have completes := space.completes_enter bus entered.free_le
  cases completes with
  | skip known completes =>
    rw [BusWalk.walkRoot, BusWalk.enter_known known]
    exact finish_onCourse ⟨Nat.zero_le _, _, completes, rfl⟩
  | enter unknown completes =>
    rw [← shownFrom_start] at completes
    rw [BusWalk.walkRoot, @BusWalk.enter_unknown ⟨inventory, [], entered⟩ bus unknown
      (Nat.succ_pos _)]
    exact finish_onCourse ⟨Nat.succ_le_succ (Nat.zero_le _), _, completes, rfl⟩

/-! ## Root buses -/

/-- After a root bus the next ones are walked, unless the inventory is full. -/
theorem goOn_isEndOf {ending : BusWalk.Ending} (isEnd : ending.IsEndOf all last)
    {functions : List UInt8} {later : List Device} {final : ByteSet}
    (onward : ∀ inventory : Inventory, ∃ ending,
      space.value ((BusWalk.mk inventory [] last).walkRoots functions) = .ok ending ∧
        ending.IsEndOf (inventory.devices ++ later) final) :
    ∃ whole, space.value (match ending.result with
        | .error _ => pure ending
        | .ok _ => ending.reached.walkRoots functions) = .ok whole ∧
      whole.IsEndOf (all ++ later) final := by
  by_cases fits : all.length ≤ Inventory.capacity
  · obtain ⟨stack_eq, entered_eq⟩ := isEnd.left fits
    have devices_eq := isEnd.devices_eq
    obtain ⟨result, inventory, stack, entered⟩ := ending
    obtain rfl : result = .ok () := isEnd.result_eq.trans (if_pos fits)
    subst stack_eq entered_eq
    rw [List.take_of_length_le fits] at devices_eq
    rw [← devices_eq]
    exact onward inventory
  · have full := isEnd.toRecords.append (Nat.lt_of_not_le fits) later final
    refine ⟨ending, ?_, full⟩
    rw [isEnd.result_eq.trans (if_neg fits)]
    rfl

/-- Walking the buses of further host functions records what is listed for those that are
present. -/
theorem walkRoots_eq_listRoots (space : ConfigSpace) (functions : List UInt8)
    (inventory : Inventory) (entered : ByteSet) :
    ∃ ending, space.value ((BusWalk.mk inventory [] entered).walkRoots functions) = .ok ending ∧
      ending.IsEndOf
        (inventory.devices ++ space.listRoots
          (functions.filter fun function => space.isPresent ⟨0, 0, function⟩) entered)
        (space.enterRoots
          (functions.filter fun function => space.isPresent ⟨0, 0, function⟩) entered) := by
  induction functions generalizing inventory entered with
  | nil =>
    rw [List.filter_nil, listRoots, List.append_nil]
    exact ⟨_, rfl, BusWalk.Ending.isEndOf_devices inventory entered⟩
  | cons function rest ih =>
    rw [BusWalk.walkRoots, Program.bind_eq,
      value_bind (space.value_readVendor ⟨0, 0, function⟩)]
    cases present : space.isPresent ⟨0, 0, function⟩ with
    | false =>
      have vendor := (space.isPresent_eq_false_iff ⟨0, 0, function⟩).1 present
      rw [if_pos vendor, List.filter_cons_of_neg (by simp [present])]
      exact ih inventory entered
    | true =>
      have vendor := (space.isPresent_iff ⟨0, 0, function⟩).1 present
      obtain ⟨ending, walked, isEnd⟩ := space.walkRoot_eq_listBus inventory entered function
      rw [if_neg vendor, List.filter_cons, if_pos present, listRoots_cons, Program.bind_eq,
        value_bind walked, ← List.append_assoc]
      exact goOn_isEndOf isEnd fun grown => ih grown _

/-- Enumeration records what the recursive enumeration lists, and enters the same buses. -/
theorem enumerationReport_isEndOf (space : ConfigSpace) (previous : Inventory) :
    ∃ ending, space.value (enumerationReport previous) = .ok ending ∧
      ending.IsEndOf space.enumeration space.enteredBuses := by
  obtain ⟨ending, walked, isEnd⟩ := space.walkRoot_eq_listBus previous.clear .empty 0
  rw [Inventory.devices_clear, List.nil_append] at isEnd
  rw [enumerationReport, Program.bind_eq, value_bind (space.value_readHeader ⟨0, 0, 0⟩),
    BusWalk.start, Program.bind_eq, value_bind walked]
  by_cases single : isSingleFunction (space.header ⟨0, 0, 0⟩) = true
  · rw [if_pos single, enumeration, enteredBuses, rootBuses, if_pos single, listRoots_cons,
      listRoots, List.append_nil]
    exact ⟨ending, rfl, isEnd⟩
  · rw [if_neg single, enumeration, enteredBuses, rootBuses, if_neg single, listRoots_cons]
    exact goOn_isEndOf isEnd fun grown => space.walkRoots_eq_listRoots rootFunctions grown _

/-- The value of an enumeration, in terms of the recursive one. -/
theorem value_enumerateInto (space : ConfigSpace) (previous : Inventory) :
    ∃ inventory, space.value (enumerateInto previous) =
        .ok (if space.enumeration.length ≤ Inventory.capacity then .ok ()
          else .error .resourceExhausted, inventory) ∧
      inventory.devices = space.enumeration.take Inventory.capacity := by
  obtain ⟨ending, reported, isEnd⟩ := space.enumerationReport_isEndOf previous
  refine ⟨ending.reached.inventory, ?_, isEnd.devices_eq⟩
  rw [enumerateInto, Program.bind_eq, value_bind reported, ← isEnd.result_eq]
  rfl

/-- **The walk over the buses agrees with the recursive depth-first enumeration.**  Whatever the
inventory recorded before, it ends with the first functions of the enumeration, as many as
there is room for, and the walk fails exactly when there are more.  The enumeration obeys the
plain recursion over the bridges: its bound on the depth is never reached. -/
theorem enumerateInto_eq_enumeration (space : ConfigSpace) (previous : Inventory) :
    (∀ (bus : UInt8) (entered : ByteSet), space.listBus busCount bus entered =
      if entered.contains bus then ([], entered)
      else space.listFunctions (space.listBus busCount) (space.functionsOf bus)
        (entered.insert bus)) ∧
    ∃ inventory, space.value (enumerateInto previous) =
        .ok (if space.enumeration.length ≤ Inventory.capacity then .ok ()
          else .error .resourceExhausted, inventory) ∧
      inventory.devices = space.enumeration.take Inventory.capacity :=
  ⟨space.listBus_busCount, space.value_enumerateInto previous⟩

end ConfigSpace

end KernelStart.Pci
