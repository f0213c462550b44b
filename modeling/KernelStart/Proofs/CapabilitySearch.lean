import KernelStart.Pci.CapabilityChain
import KernelStart.Pci.MessageSignal
import Mathlib.Data.Nat.Find

/-!
# What a walk along the capability chain finds

The pointers of an unchanging function form an endless sequence, and a walk follows it only up to
the first pointer that leaves the area of capabilities or leads back.  At a position of the
chain the walk has visited exactly the places of the positions before (`chainWalk`), so it goes
on exactly where the chain is fresh (`isOver_chainWalk`), and it lists the chain
(`value_list`).

Stopping there hides nothing.  A pointer decides all that come after it, so once the sequence leads
back it only meets places that the walk has seen (`exists_earlier_of_chainReaches`).  Hence the
search finds the first entry of a kind on the whole sequence, if there is one
(`list_stops_and_find_reaches_first`).
-/

set_option autoImplicit false

namespace KernelStart.Pci.Capability

variable {space : ConfigSpace} {address : Address} {count : Nat}

/-! ## The walk at a position of the chain -/

/-- The walk when it has come to a position of the chain. -/
def chainWalk (space : ConfigSpace) (address : Address) (position : Nat) : Walk where
  next := chainPointer space address position
  visited := ⟨((List.range position).map (chainPointer space address)).reverse⟩

theorem onward_chainWalk (space : ConfigSpace) (address : Address) (position : Nat) :
    (chainWalk space address position).onward (chainEntry space address position) =
      chainWalk space address (position + 1) := by
  simp only [chainWalk, List.range_succ, List.map_append, List.map_singleton,
    List.reverse_append]
  rfl

/-- The walk ends at the first position that is not fresh. -/
theorem isOver_chainWalk (space : ConfigSpace) (address : Address) (position : Nat) :
    (chainWalk space address position).isOver = !isFreshAt space address position := by
  by_cases inArea : firstOffset ≤ chainPointer space address position
  · have notBelow := UInt8.not_lt.2 inArea
    rw [Bool.eq_iff_iff]
    simp [Walk.isOver, chainWalk, isFreshAt, ByteSet.contains, inArea, notBelow]
  · have below := UInt8.not_le.1 inArea
    simp [Walk.isOver, chainWalk, isFreshAt, inArea, below]

/-- What `isFreshAt` decides. -/
theorem isFreshAt_iff (space : ConfigSpace) (address : Address) (position : Nat) :
    isFreshAt space address position = true ↔
      firstOffset ≤ chainPointer space address position ∧
        ∀ earlier < position,
          chainPointer space address earlier ≠ chainPointer space address position := by
  simp [isFreshAt]

/-! ## Where the chain ends -/

/-- The chain is fresh up to this position, and there no longer. -/
structure ChainEnds (space : ConfigSpace) (address : Address) (count : Nat) : Prop where
  fresh : ∀ position < count, isFreshAt space address position = true
  stale : isFreshAt space address count = false

/-- Each fresh position takes one of the places for an entry. -/
theorem free_chainWalk_add_le
    (fresh : ∀ position < count, isFreshAt space address position = true) :
    (chainWalk space address count).visited.free + count ≤ 256 := by
  induction count with
  | zero =>
    rw [Nat.add_zero]
    exact ByteSet.free_le _
  | succ count ih =>
    have goes : ¬(chainWalk space address count).isOver = true := by
      simp [isOver_chainWalk, fresh count (Nat.lt_succ_self count)]
    have less := Walk.free_onward_lt (chainEntry space address count) goes
    rw [onward_chainWalk] at less
    have bound := ih fun position before => fresh position (Nat.lt_succ_of_lt before)
    omega

/-- There are only so many places, so the chain ends. -/
theorem exists_chainEnds (space : ConfigSpace) (address : Address) :
    ∃ count ≤ 256, ChainEnds space address count := by
  classical
  have stale : ∃ position, isFreshAt space address position = false := by
    by_contra never
    simp only [not_exists, Bool.not_eq_false] at never
    have bound := @free_chainWalk_add_le space address 257 fun position _ => never position
    omega
  have fresh : ∀ position < Nat.find stale, isFreshAt space address position = true := by
    intro position before
    exact (Bool.not_eq_false _).mp (Nat.find_min stale before)
  have bound := free_chainWalk_add_le fresh
  exact ⟨Nat.find stale, by omega, fresh, Nat.find_spec stale⟩

/-- The chain consists of the entries before its end. -/
theorem ChainEnds.chain_eq (ends : ChainEnds space address count) (few : count ≤ 256) :
    chain space address = (List.range count).map (chainEntry space address) := by
  have split : List.range 256 = List.range count ++ List.range' count (256 - count) := by
    have shifted := List.range'_append_1 (s := 0) (m := count) (n := 256 - count)
    rw [Nat.zero_add, Nat.add_sub_cancel' few] at shifted
    rw [List.range_eq_range', List.range_eq_range', shifted]
  have stops : (List.range' count (256 - count)).takeWhile (isFreshAt space address) = [] := by
    cases 256 - count with
    | zero => rfl
    | succ more => rw [List.range'_succ, List.takeWhile_cons_of_neg (by simp [ends.stale])]
  rw [chain, split, List.takeWhile_append_of_pos, stops, List.append_nil]
  intro position before
  exact ends.fresh position (List.mem_range.1 before)

/-! ## What the walk comes to -/

section Values

variable (ends : ChainEnds space address count)
include ends

theorem ChainEnds.goes {position : Nat} (before : position < count) :
    ¬(chainWalk space address position).isOver = true := by
  simp [isOver_chainWalk, ends.fresh position before]

theorem ChainEnds.stops : (chainWalk space address count).isOver = true := by
  simp [isOver_chainWalk, ends.stale]

/-- From a position of the chain the walk collects the entries up to its end. -/
theorem ChainEnds.value_collect {position left : Nat} (sum : position + left = count) :
    space.value ((chainWalk space address position).collect address) =
      .ok ((List.range' position left).map (chainEntry space address)) := by
  induction left generalizing position with
  | zero =>
    subst sum
    rw [Nat.add_zero] at ends
    rw [Walk.collect, dif_pos ends.stops]
    rfl
  | succ left ih =>
    have here : space.value ((chainWalk space address position).entry address) =
        .ok (chainEntry space address position) := rfl
    have later := @ih (position + 1) (by omega)
    rw [← onward_chainWalk] at later
    rw [Walk.collect, dif_neg (ends.goes (by omega)), Program.bind_eq,
      ConfigSpace.value_bind here, Program.bind_eq, ConfigSpace.value_bind later, List.range'_succ]
    rfl

/-- From a position of the chain the search finds the first entry of the kind before its end. -/
theorem ChainEnds.value_find? (kind : UInt8) {position left : Nat}
    (sum : position + left = count) :
    space.value ((chainWalk space address position).find? address kind) =
      .ok (((List.range' position left).map (chainEntry space address)).find?
        fun entry => entry.id == kind) := by
  induction left generalizing position with
  | zero =>
    subst sum
    rw [Nat.add_zero] at ends
    rw [Walk.find?, dif_pos ends.stops]
    rfl
  | succ left ih =>
    have here : space.value ((chainWalk space address position).entry address) =
        .ok (chainEntry space address position) := rfl
    have later := @ih (position + 1) (by omega)
    rw [← onward_chainWalk] at later
    rw [Walk.find?, dif_neg (ends.goes (by omega)), Program.bind_eq,
      ConfigSpace.value_bind here, List.range'_succ, List.map_cons]
    by_cases same : (chainEntry space address position).id = kind
    · rw [if_pos same, List.find?_cons_of_pos (by simp [same])]
      rfl
    · rw [if_neg same, List.find?_cons_of_neg (by simp [same])]
      exact later

end Values

/-- The walk lists the chain. -/
theorem value_list (space : ConfigSpace) (address : Address) :
    space.value (list address) = .ok (chain space address) := by
  obtain ⟨count, few, ends⟩ := exists_chainEnds space address
  have start : space.value (start address) = .ok (chainWalk space address 0) := rfl
  rw [list, Program.bind_eq, ConfigSpace.value_bind start, ends.chain_eq few,
    List.range_eq_range']
  exact ends.value_collect (Nat.zero_add count)

/-- The search finds the first entry of the kind on the chain. -/
theorem value_find? (space : ConfigSpace) (address : Address) (kind : UInt8) :
    space.value (find? address kind) =
      .ok ((chain space address).find? fun entry => entry.id == kind) := by
  obtain ⟨count, few, ends⟩ := exists_chainEnds space address
  have start : space.value (start address) = .ok (chainWalk space address 0) := rfl
  rw [find?, Program.bind_eq, ConfigSpace.value_bind start, ends.chain_eq few,
    List.range_eq_range']
  exact ends.value_find? kind (Nat.zero_add count)

/-! ## The endless sequence -/

/-- A pointer decides the next one. -/
theorem chainPointer_succ_congr {position other : Nat}
    (same : chainPointer space address position = chainPointer space address other) :
    chainPointer space address (position + 1) = chainPointer space address (other + 1) := by
  rw [chainPointer, same, ← chainPointer]

/-- As long as the sequence stays in the area, it only meets places before the end of the chain, and
it met them there first. -/
theorem ChainEnds.exists_earlier_of_chainReaches (ends : ChainEnds space address count)
    {position : Nat} (reaches : ChainReaches space address position) :
    ∃ earlier < count, earlier ≤ position ∧
      chainPointer space address earlier = chainPointer space address position := by
  -- The end of the chain is in the area only if it leads back to a place before it.
  have back : firstOffset ≤ chainPointer space address count → ∃ earlier < count,
      chainPointer space address earlier = chainPointer space address count := by
    intro inArea
    have stale := ends.stale
    rw [← Bool.not_eq_true, isFreshAt_iff] at stale
    simpa [inArea] using stale
  induction position with
  | zero =>
    rcases Nat.eq_zero_or_pos count with rfl | some
    · obtain ⟨earlier, before, -⟩ := back (reaches 0 (Nat.le_refl 0))
      exact absurd before (Nat.not_lt_zero earlier)
    · exact ⟨0, some, Nat.le_refl 0, rfl⟩
  | succ position ih =>
    obtain ⟨earlier, before, le, same⟩ := ih fun place le => reaches place (Nat.le_succ_of_le le)
    have next := chainPointer_succ_congr same
    rcases Nat.lt_or_eq_of_le (Nat.succ_le_of_lt before) with inside | atEnd
    · exact ⟨earlier + 1, inside, Nat.succ_le_succ le, next⟩
    · obtain rfl : earlier + 1 = count := atEnd
      have inArea := reaches (position + 1) (Nat.le_refl _)
      rw [← next] at inArea
      obtain ⟨first, firstBefore, firstSame⟩ := back inArea
      exact ⟨first, firstBefore, by omega, firstSame.trans next⟩

/-- Before its end the chain stays in the area. -/
theorem ChainEnds.chainReaches (ends : ChainEnds space address count) {position : Nat}
    (before : position < count) : ChainReaches space address position := by
  intro earlier le
  have fresh := ends.fresh earlier (Nat.lt_of_le_of_lt le before)
  exact ((isFreshAt_iff space address earlier).1 fresh).1

/-- An entry is decided by its pointer. -/
theorem chainEntry_congr {position other : Nat}
    (same : chainPointer space address position = chainPointer space address other) :
    chainEntry space address position = chainEntry space address other := by
  rw [chainEntry, same, ← chainEntry]

/-- The first entry of a kind that one comes to by following the pointers, however often they lead
back. -/
def IsFirstOf (space : ConfigSpace) (address : Address) (kind : UInt8)
    (capability : Capability) : Prop :=
  ∃ position, ChainReaches space address position ∧
    chainEntry space address position = capability ∧ capability.id = kind ∧
    ∀ earlier < position, (chainEntry space address earlier).id ≠ kind

theorem find?_chain_eq_some_iff {kind : UInt8} {capability : Capability} :
    (chain space address).find? (fun entry => entry.id == kind) = some capability ↔
      IsFirstOf space address kind capability := by
  obtain ⟨count, few, ends⟩ := exists_chainEnds space address
  rw [ends.chain_eq few, List.find?_map, Option.map_eq_some_iff]
  simp only [List.find?_range_eq_some, List.mem_range, Function.comp_apply, beq_iff_eq]
  constructor
  · rintro ⟨position, ⟨isKind, before, notEarlier⟩, rfl⟩
    refine ⟨position, ends.chainReaches before, rfl, isKind, ?_⟩
    intro earlier less
    simpa using notEarlier earlier less
  · rintro ⟨position, reaches, rfl, isKind, notEarlier⟩
    obtain ⟨first, before, le, same⟩ := ends.exists_earlier_of_chainReaches reaches
    -- The place was met before the end of the chain; but this is the first entry of the kind.
    have entry_eq := chainEntry_congr same
    obtain rfl : first = position := by
      refine Nat.le_antisymm le (Nat.not_lt.1 ?_)
      intro less
      apply notEarlier first less
      rw [entry_eq, isKind]
    refine ⟨first, ⟨isKind, before, ?_⟩, rfl⟩
    intro earlier less
    simpa using notEarlier earlier less

theorem find?_chain_eq_none_iff {kind : UInt8} :
    (chain space address).find? (fun entry => entry.id == kind) = none ↔
      ∀ position, ChainReaches space address position →
        (chainEntry space address position).id ≠ kind := by
  obtain ⟨count, few, ends⟩ := exists_chainEnds space address
  rw [ends.chain_eq few]
  simp only [List.find?_eq_none, List.mem_map, List.mem_range, beq_iff_eq]
  constructor
  · intro absent position reaches
    obtain ⟨first, before, -, same⟩ := ends.exists_earlier_of_chainReaches reaches
    rw [← chainEntry_congr same]
    exact absent _ ⟨first, before, rfl⟩
  · rintro absent _ ⟨position, before, rfl⟩
    exact absent position (ends.chainReaches before)

/-- The search for the capability finds the first entry of its kind on the chain. -/
theorem value_findMessageCapability_chain (space : ConfigSpace) (address : Address) :
    space.value (findMessageCapability address) =
      .ok (match (chain space address).find? fun entry => entry.id == messageSignalled with
        | none => .error .notFound
        | some entry => .ok ⟨entry.offset, entry.header⟩) := by
  rw [findMessageCapability, Program.bind_eq,
    ConfigSpace.value_bind (value_find? space address messageSignalled)]
  cases (chain space address).find? fun entry => entry.id == messageSignalled with
  | none => rfl
  | some _ => rfl

theorem value_findMessageCapability_eq_ok_iff {capability : MessageCapability} :
    space.value (findMessageCapability address) = .ok (.ok capability) ↔
      IsFirstOf space address messageSignalled ⟨capability.offset, capability.control⟩ := by
  rw [value_findMessageCapability_chain, ← find?_chain_eq_some_iff]
  cases (chain space address).find? fun entry => entry.id == messageSignalled with
  | none => simp
  | some entry =>
    obtain ⟨offset, header⟩ := entry
    obtain ⟨_, _⟩ := capability
    simp

theorem value_findMessageCapability_eq_notFound_iff :
    space.value (findMessageCapability address) = .ok (.error .notFound) ↔
      ∀ position, ChainReaches space address position →
        (chainEntry space address position).id ≠ messageSignalled := by
  rw [value_findMessageCapability_chain, ← find?_chain_eq_none_iff]
  cases (chain space address).find? fun entry => entry.id == messageSignalled with
  | none => simp
  | some _ => simp

/-- **A walk lists the chain up to where it leaves the area of capabilities or comes to a place
again, and stopping there hides nothing.**  The capability for messages is found exactly if one
comes to it by following the pointers for as long as they stay in the area, also around a
cycle, and the first one is found. -/
theorem list_stops_and_find_reaches_first (space : ConfigSpace) (address : Address) :
    (∃ count, space.value (list address) =
        .ok ((List.range count).map (chainEntry space address)) ∧
      (chainPointer space address count < firstOffset ∨
        ∃ earlier < count,
          chainPointer space address earlier = chainPointer space address count) ∧
      ∀ position < count, firstOffset ≤ chainPointer space address position ∧
        ∀ earlier < position,
          chainPointer space address earlier ≠ chainPointer space address position) ∧
    (∀ capability : MessageCapability,
      space.value (findMessageCapability address) = .ok (.ok capability) ↔
        IsFirstOf space address messageSignalled ⟨capability.offset, capability.control⟩) ∧
    (space.value (findMessageCapability address) = .ok (.error .notFound) ↔
      ∀ position, ChainReaches space address position →
        (chainEntry space address position).id ≠ messageSignalled) := by
  obtain ⟨count, few, ends⟩ := exists_chainEnds space address
  refine ⟨⟨count, ?_, ?_, ?_⟩, ?_, value_findMessageCapability_eq_notFound_iff⟩
  · rw [value_list, ends.chain_eq few]
  · have stale := ends.stale
    rw [← Bool.not_eq_true, isFreshAt_iff] at stale
    by_cases inArea : firstOffset ≤ chainPointer space address count
    · exact .inr (by simpa [inArea] using stale)
    · exact .inl (UInt8.not_le.1 inArea)
  · intro position before
    exact (isFreshAt_iff space address position).1 (ends.fresh position before)
  · intro capability
    exact value_findMessageCapability_eq_ok_iff

end KernelStart.Pci.Capability
