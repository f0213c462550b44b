import KernelStart.Proofs.TableUpdates

/-!
# How a tree of tables grows

A tree is *separated* from itself and from the supply if no frame is used twice
(`AddressSpace.Separated`).  Mapping a page writes to the tables in three ways: it adds flags to an
entry that leads to a table (`grows_addFlags`), it makes a missing table in the next free frame
(`grows_create`), and it enters the page in the last table (`enters_leaf`).  All of them keep
the tree separated.  The first two change no translation, whatever they do to the tables, and the
third changes that of its page only.

`Grows` says which tables have come, and that each took one frame of the supply.
-/

set_option autoImplicit false

namespace KernelStart.Memory

open Program

/-! ## The positions of an address -/

/-- Pages that can be addressed have positions of their own. -/
theorem pageOf_eq_of_entryPath_eq {address other : UInt64} (canonical : isCanonical address = true)
    (otherCanonical : isCanonical other = true)
    (same : entryPath address 4 = entryPath other 4) :
    pageOf address.toNat = pageOf other.toNat := by
  have half : 1 <<< 47 = 34359738368 * 4096 := by decide
  have size : UInt64.size = 4503599627370496 * 4096 := by decide
  have bound := address.toNat_lt_size
  have otherBound := other.toNat_lt_size
  rw [isCanonical, decide_eq_true_iff, half, size] at canonical otherCanonical
  rw [size] at bound otherBound
  simp only [entryPath, tableIndex, pageSize, tableSize, List.cons.injEq, Nat.pow_eq, Nat.reduceAdd,
    Nat.reduceSub, Nat.reducePow, Nat.reduceMul, and_true] at same
  rw [pageOf, pageOf, pageSize]
  omega

namespace Entry

/-- The flags that a page of devices or of the heap asks of the tables on its way. -/
def tableFlags : UInt64 := present ||| writable

/-- Flags for a page: the entry is present, and the tables on the way need no more. -/
structure IsLeafFlags (flags : UInt64) : Prop where
  present : has flags present = true
  noAddress : flags &&& addressMask = 0
  outside : flags &&& ~~~addressMask = flags
  inherited : inheritedFlags flags = tableFlags

/-- An entry that leads to a table maps nothing above the last level. -/
theorem leaf?_of_table? {entry next : UInt64} (leads : table? entry = some next) {level : Nat}
    (above : level ≠ 1) : leaf? entry level = none := by
  rw [table?] at leads
  split at leads
  · next table =>
    rw [Bool.and_eq_true, Bool.not_eq_true'] at table
    simp [leaf?, table, above]
  · cases leads

end Entry

/-- A walk that gets to a table goes on from there. -/
theorem TableMemory.translationBelow_append {memory : TableMemory} {root table : UInt64}
    {path rest : List Nat} (reached : memory.tableBelow root path = some table)
    (above : rest ≠ []) :
    memory.translationBelow root (path ++ rest) = memory.translationBelow table rest := by
  induction path generalizing root with
  | nil =>
    obtain rfl := Option.some.inj reached
    rfl
  | cons index path ih =>
    rw [tableBelow] at reached
    obtain ⟨next, leads, behind⟩ := Option.bind_eq_some_iff.1 reached
    have level : (path ++ rest).length + 1 ≠ 1 := by
      have positive := List.length_pos_iff.2 above
      rw [List.length_append]
      omega
    rw [List.cons_append, translationBelow, leads, Entry.leaf?_of_table? leads level]
    exact ih behind

namespace AddressSpace

/-! ## Trees whose frames are apart -/

/-- The tables lie in frames of their own, and the frames that are left hold none.  An entry that
maps a huge page allows what a page under it may ask for. -/
structure Separated (space : AddressSpace) : Prop where
  separate : space.memory.Separate space.root
  huge : ∀ path index, IsTablePath path → path.length < upperLevels.length → index < tableSize →
    Entry.has (space.entryAt path index) Entry.huge = true →
      Entry.has (space.entryAt path index) Entry.tableFlags = true
  inMemory : ∀ region ∈ space.supply.map, region.IsInMemory
  apart : space.supply.map.Pairwise Region.IsApartFrom
  unused : ∀ frame ∈ space.freeFrames, space.memory.Avoids space.root frame

variable {space : AddressSpace}

namespace Separated

variable (separated : space.Separated)
include separated

theorem call_eq (position : Nat) : space.supply.call position = .ok space.freeFrames[position]? :=
  FrameSupply.call_of_inMemory separated.inMemory position

theorem nodup_freeFrames : space.freeFrames.Nodup :=
  (MemoryMap.nodup_frames separated.apart separated.inMemory).sublist (List.drop_sublist _ _)

theorem not_servesAsTable {frame : UInt64} (free : frame ∈ space.freeFrames) :
    ¬space.ServesAsTable frame :=
  fun ⟨_, _, isPath, there, samePage⟩ => separated.unused frame free isPath there samePage

/-- Behind the first of the frames that are left there are only others. -/
theorem otherPage_of_first {frame later : UInt64} (first : space.freeFrames[0]? = some frame)
    (isLater : later ∈ space.freeFrames.drop 1) : pageOf frame.toNat ≠ pageOf later.toNat := by
  intro samePage
  obtain rfl := (isFrame_of_free separated.inMemory (List.mem_of_getElem? first)).eq_of_pageOf_eq
    (isFrame_of_free separated.inMemory (List.mem_of_mem_drop isLater)) samePage
  obtain ⟨position, found⟩ := List.mem_iff_getElem?.1 isLater
  rw [List.getElem?_drop] at found
  have inside := (List.getElem?_eq_some_iff.1 first).1
  have samePosition :=
    (List.getElem?_inj inside separated.nodup_freeFrames).1 (first.trans found.symm)
  omega

/-- Frames can be taken. -/
theorem take (taken : Nat) :
    ({ space with supply := space.supply.afterCalls taken } : AddressSpace).Separated where
  separate := separated.separate
  huge := separated.huge
  inMemory := by
    rw [map_afterCalls separated.inMemory rfl]
    exact separated.inMemory
  apart := by
    rw [map_afterCalls separated.inMemory rfl]
    exact separated.apart
  unused := by
    intro frame free
    rw [freeFrames_afterCalls separated.inMemory rfl] at free
    exact separated.unused frame (List.mem_of_mem_drop free)

end Separated

/-! ## One entry that changes -/

section

variable {after : TableMemory} {supply : FrameSupply} {path : List Nat} {index : Nat}
  {value : UInt64}
  (changed : TableMemory.EntryChanged space.memory after space.root path index value)
include changed

theorem entriesPresent_of_changed (present : space.EntriesPresent)
    (valuePresent : Entry.has value Entry.present = true) :
    ({ space with memory := after, supply := supply } : AddressSpace).EntriesPresent := by
  intro other position isOther inTable used
  have there := changed other position isOther inTable
  rw [entryAt] at used ⊢
  rw [there] at used ⊢
  split
  · exact valuePresent
  · next elsewhere =>
    rw [if_neg elsewhere] at used
    exact present other position isOther inTable used

/-- What maps an address does not change with an entry that goes on mapping what it mapped. -/
theorem translation_of_changed
    (same : Entry.leaf? value (4 - path.length) =
      Entry.leaf? (space.entryAt path index) (4 - path.length)) :
    ({ space with memory := after, supply := supply } : AddressSpace).translation =
      space.translation := by
  funext address
  by_cases canonical : isCanonical address = true
  · rw [translation_of_canonical canonical, translation_of_canonical canonical]
    refine changed.firstLeaf_eq (fun _ => lt_of_mem_entryPath) (length_entryPath address 4) ?_
    intro rest split
    have level : rest.length + 1 = 4 - path.length := by
      have length := congrArg List.length split
      rw [length_entryPath, List.length_append, List.length_cons] at length
      omega
    rw [level]
    exact same
  · rw [translation, translation, if_neg canonical, if_neg canonical]

theorem huge_of_changed (separated : space.Separated)
    (allowed : path.length < upperLevels.length → Entry.has value Entry.huge = true →
      Entry.has value Entry.tableFlags = true) (other : List Nat) (position : Nat)
    (isOther : IsTablePath other) (short : other.length < upperLevels.length)
    (inTable : position < tableSize) :
    let changedSpace : AddressSpace := { space with memory := after, supply := supply }
    Entry.has (changedSpace.entryAt other position) Entry.huge = true →
      Entry.has (changedSpace.entryAt other position) Entry.tableFlags = true := by
  intro changedSpace huge
  have there : changedSpace.entryAt other position = _ := changed other position isOther inTable
  rw [there] at huge ⊢
  split at huge
  · next both =>
    rw [if_pos both]
    exact allowed (both.1 ▸ short) huge
  · next elsewhere =>
    rw [if_neg elsewhere]
    exact separated.huge other position isOther short inTable huge

end

/-! ## Tables that come and stay -/

/-- Translations and what goes with them are kept; tables may have been added. -/
structure Settles (before after : AddressSpace) : Prop extends Keeps Separated before after where
  translation : after.translation = before.translation

/-- The tables at the given paths are new, each in a frame of its own from the supply. -/
structure Grows (before after : AddressSpace) (created : List (List Nat)) : Prop
    extends Settles before after where
  count : after.supply = before.supply.afterCalls created.length
  drawn : ∀ position < created.length, ∃ frame, before.supply.call position = .ok (some frame)
  kept : ∀ path table, IsTablePath path → before.tableAt path = some table →
    after.tableAt path = some table
  made : ∀ path ∈ created, after.tableAt path ≠ none
  fresh : ∀ path table, IsTablePath path → before.tableAt path = none →
    after.tableAt path = some table → path ∈ created ∧
      ∃ position < created.length, before.supply.call position = .ok (some table)

namespace Settles

variable {before middle after : AddressSpace}

theorem trans (first : Settles before middle) (later : Settles middle after) :
    Settles before after where
  toKeeps := first.toKeeps.trans later.toKeeps
  translation := later.translation.trans first.translation

end Settles

namespace Grows

variable {before middle after : AddressSpace} {created more : List (List Nat)}

theorem refl (separated : space.Separated) (present : space.EntriesPresent) :
    Grows space space [] where
  toKeeps := .refl separated present
  translation := rfl
  count := rfl
  drawn := fun _ none => absurd none (Nat.not_lt_zero _)
  kept := fun _ _ _ there => there
  made := fun _ none => nomatch none
  fresh := fun _ _ _ missing there => nomatch missing.symm.trans there

theorem trans (first : Grows before middle created) (later : Grows middle after more)
    (paths : ∀ path ∈ created, IsTablePath path) : Grows before after (created ++ more) where
  toSettles := first.toSettles.trans later.toSettles
  count := by
    rw [later.count, first.count, List.length_append, FrameSupply.afterCalls_add]
  drawn := by
    intro position inside
    rw [List.length_append] at inside
    by_cases early : position < created.length
    · exact first.drawn position early
    · obtain ⟨frame, called⟩ := later.drawn (position - created.length) (by omega)
      rw [first.count, FrameSupply.call_afterCalls, Nat.add_sub_cancel' (by omega)] at called
      exact ⟨frame, called⟩
  kept := fun path table isPath there =>
    later.kept path table isPath (first.kept path table isPath there)
  made := by
    intro path listed
    rcases List.mem_append.1 listed with early | late
    · obtain ⟨table, there⟩ := Option.ne_none_iff_exists'.1 (first.made path early)
      rw [later.kept path table (paths path early) there]
      exact Option.some_ne_none table
    · exact later.made path late
  fresh := by
    intro path table isPath missing there
    rw [List.length_append]
    cases between : middle.tableAt path with
    | none =>
      obtain ⟨listed, position, inside, called⟩ := later.fresh path table isPath between there
      rw [first.count, FrameSupply.call_afterCalls] at called
      exact ⟨List.mem_append_right _ listed, _, by omega, called⟩
    | some other =>
      obtain rfl : table = other :=
        Option.some.inj (there.symm.trans (later.kept path other isPath between))
      obtain ⟨listed, position, inside, called⟩ := first.fresh path table isPath missing between
      exact ⟨List.mem_append_left _ listed, position, by omega, called⟩

/-- Other paths miss a table afterwards if they did before. -/
theorem tableAt_eq_none_iff (grows : Grows before after created) {path : List Nat}
    (isPath : IsTablePath path) (other : path ∉ created) :
    after.tableAt path = none ↔ before.tableAt path = none := by
  constructor
  · intro missing
    cases there : before.tableAt path with
    | none => rfl
    | some table => exact nomatch missing.symm.trans (grows.kept path table isPath there)
  · intro missing
    cases there : after.tableAt path with
    | none => rfl
    | some table => exact absurd (grows.fresh path table isPath missing there).1 other

end Grows

/-! ## Where a walk finds an address -/

section

variable {page table : UInt64} {path rest : List Nat} {index : Nat}

/-- From a table on its way, an address means what the entry there says. -/
theorem translation_eq_of_split (canonical : isCanonical page = true)
    (split : entryPath page 4 = path ++ index :: rest) (reached : space.tableAt path = some table) :
    space.translation page =
      (Entry.leaf? (space.entryAt path index) (rest.length + 1)).or
        ((Entry.table? (space.entryAt path index)).bind
          (space.memory.translationBelow · rest)) := by
  rw [translation, if_pos canonical, split,
    TableMemory.translationBelow_append reached (List.cons_ne_nil index rest),
    TableMemory.translationBelow, entryAt, TableMemory.entryBelow_of_some reached]

theorem translation_eq_none (canonical : isCanonical page = true)
    (split : entryPath page 4 = path ++ index :: rest) (reached : space.tableAt path = some table)
    (unused : space.entryAt path index = 0) : space.translation page = none := by
  rw [translation_eq_of_split canonical split reached, unused]
  rfl

theorem translation_ne_none (canonical : isCanonical page = true)
    (split : entryPath page 4 = path ++ index :: rest) (reached : space.tableAt path = some table)
    (isPresent : Entry.has (space.entryAt path index) Entry.present = true)
    (isLeaf : rest = [] ∨ Entry.has (space.entryAt path index) Entry.huge = true) :
    space.translation page ≠ none := by
  have maps : Entry.leaf? (space.entryAt path index) (rest.length + 1) ≠ none := by
    rcases isLeaf with last | huge
    · simp [Entry.leaf?, isPresent, last]
    · simp [Entry.leaf?, isPresent, huge]
  obtain ⟨leaf, maps⟩ := Option.ne_none_iff_exists'.1 maps
  rw [translation_eq_of_split canonical split reached, maps]
  exact Option.some_ne_none leaf

end

/-! ## The three writes -/

/-- Entries of tables that lead to others are above the last level. -/
theorem level_ne_one {path : List Nat} (short : path.length < upperLevels.length) :
    4 - path.length ≠ 1 := by
  rw [length_upperLevels] at short
  omega

section

variable {path : List Nat} {index : Nat} {table : UInt64} (separated : space.Separated)
  (present : space.EntriesPresent) (isPath : IsTablePath path)
  (reached : space.tableAt path = some table) (inTable : index < tableSize)

/-- Where no table is elsewhere, the frames stay apart. -/
theorem Separated.of_changed {after : TableMemory} {value : UInt64} (separated : space.Separated)
    (changed : TableMemory.EntryChanged space.memory after space.root path index value)
    (leads : path.length < upperLevels.length →
      Entry.table? value = Entry.table? (space.entryAt path index))
    (allowed : path.length < upperLevels.length → Entry.has value Entry.huge = true →
      Entry.has value Entry.tableFlags = true) :
    ({ space with memory := after } : AddressSpace).Separated where
  separate := by
    intro one other isOne isOther
    rw [changed.tableBelow_same isOne leads, changed.tableBelow_same isOther leads]
    exact separated.separate isOne isOther
  huge := huge_of_changed changed separated allowed
  inMemory := separated.inMemory
  apart := separated.apart
  unused := by
    intro frame free other isOther
    rw [changed.tableBelow_same isOther leads]
    exact separated.unused frame free isOther

include separated present isPath reached inTable

/-- Flags can be added to an entry that leads to a table. -/
theorem grows_addFlags (short : path.length < upperLevels.length)
    (used : space.entryAt path index ≠ 0)
    (notHuge : Entry.has (space.entryAt path index) Entry.huge = false) :
    Grows space { space with
      memory := space.memory.setEntry table index
        (space.entryAt path index ||| Entry.tableFlags) } [] := by
  have isPresent := present path index isPath inTable used
  have leads : Entry.table? (space.entryAt path index ||| Entry.tableFlags) =
      Entry.table? (space.entryAt path index) :=
    Entry.table?_or isPresent (by decide) (by decide)
  have changed := TableMemory.entryChanged_setEntry separated.separate isPath reached inTable
    fun _ => leads
  have leads_some : Entry.table? (space.entryAt path index) =
      some (Entry.target (space.entryAt path index)) := by
    rw [Entry.table?, isPresent, notHuge]
    rfl
  have above := level_ne_one short
  have same_tables {other : List Nat} (isOther : IsTablePath other) :=
    changed.tableBelow_same isOther fun _ => leads
  exact
    { sound := separated.of_changed changed (fun _ => leads) fun _ huge => by
        rw [Entry.has_or_of_apart (by decide), notHuge] at huge
        cases huge
      present := entriesPresent_of_changed changed present (Entry.has_or_of_left isPresent)
      heap := rfl
      supply := ⟨0, rfl⟩
      translation := translation_of_changed changed <| by
        rw [Entry.leaf?_of_table? leads_some above,
          Entry.leaf?_of_table? (leads.trans leads_some) above]
      count := rfl
      drawn := fun _ none => absurd none (Nat.not_lt_zero _)
      kept := fun other _ isOther there => (same_tables isOther).trans there
      made := fun _ none => absurd none List.not_mem_nil
      fresh := by
        intro other _ isOther missing there
        cases missing.symm.trans ((same_tables isOther).symm.trans there) }

/-- A missing table can be made in the next free frame. -/
theorem grows_create (short : path.length < upperLevels.length)
    (empty : space.entryAt path index = 0) {frame : UInt64}
    (called : space.supply.call 0 = .ok (some frame)) :
    let next : AddressSpace := { space with
      memory := (space.memory.setEntry table index (frame ||| Entry.tableFlags)).clear frame
      supply := space.supply.afterCalls 1 }
    Grows space next [path ++ [index]] ∧ next.tableAt (path ++ [index]) = some frame := by
  have first : space.freeFrames[0]? = some frame := by
    rw [separated.call_eq] at called
    exact Except.ok.inj called
  have free : frame ∈ space.freeFrames := List.mem_of_getElem? first
  have isFrame := isFrame_of_free separated.inMemory free
  have leads : Entry.table? (frame ||| Entry.tableFlags) = some frame :=
    Entry.table?_frame_or isFrame (by decide) (by decide) (by decide)
  have avoids := separated.unused frame free
  have changed := TableMemory.entryChanged_create separated.separate isPath reached inTable short
    empty avoids leads
  have above := level_ne_one short
  have tables_eq {other : List Nat} (isOther : IsTablePath other) :=
    (changed.tableBelow_eq isOther).trans (if_congr Iff.rfl leads rfl)
  have missing : space.tableAt (path ++ [index]) = none := by
    rw [tableAt, TableMemory.tableBelow_concat]
    exact congrArg Entry.table? empty
  have newTable := (tables_eq (isPath.concat short inTable)).trans (if_pos rfl)
  refine ⟨?_, newTable⟩
  refine
    { sound :=
        { separate := changed.separate_of_new leads separated.separate avoids
          huge := huge_of_changed changed separated fun _ _ => Entry.has_or_of_right (by decide)
          inMemory := (separated.take 1).inMemory
          apart := (separated.take 1).apart
          unused := ?_ }
      present := entriesPresent_of_changed changed present (Entry.has_or_of_right (by decide))
      heap := rfl
      supply := ⟨1, rfl⟩
      translation := translation_of_changed changed <| by
        rw [Entry.leaf?_of_table? leads above, empty, Entry.leaf?_zero]
      count := rfl
      drawn := ?_
      kept := ?_
      made := ?_
      fresh := ?_ }
  · intro later isLater
    rw [freeFrames_afterCalls separated.inMemory rfl] at isLater
    exact changed.avoids_of_new leads (separated.unused later (List.mem_of_mem_drop isLater))
      (separated.otherPage_of_first first isLater)
  · intro position inside
    obtain rfl : position = 0 := Nat.lt_one_iff.1 inside
    exact ⟨frame, called⟩
  · intro other another isOther there
    have elsewhere : other ≠ path ++ [index] := by
      rintro rfl
      exact nomatch missing.symm.trans there
    exact (tables_eq isOther).trans ((if_neg elsewhere).trans there)
  · intro other listed absent
    obtain rfl := List.mem_singleton.1 listed
    exact nomatch absent.symm.trans newTable
  · intro other another isOther absent there
    have found := (tables_eq isOther).symm.trans there
    split at found
    · next new =>
      cases found
      exact ⟨List.mem_singleton.2 new, 0, Nat.one_pos, called⟩
    · exact nomatch absent.symm.trans found

/-- The frame of a page can be entered in the last table on its way. -/
theorem enters_leaf {page frame flags : UInt64} (isPage : IsPage page) (isFrame : IsFrame frame)
    (leafFlags : Entry.IsLeafFlags flags) (split : entryPath page 4 = path ++ [index]) :
    let next : AddressSpace :=
      { space with memory := space.memory.setEntry table index (frame ||| flags) }
    Keeps Separated space next ∧ EntersPage space next page frame flags ∧
      ∀ other, IsTablePath other → next.tableAt other = space.tableAt other := by
  have last : ¬path.length < upperLevels.length := by
    have levels := (isTablePath_of_split split).2.2
    rw [List.length_nil] at levels
    omega
  have changed : TableMemory.EntryChanged space.memory
      (space.memory.setEntry table index (frame ||| flags)) space.root path index
        (frame ||| flags) :=
    TableMemory.entryChanged_setEntry separated.separate isPath reached inTable
      fun short => absurd short last
  have same_tables {other : List Nat} (isOther : IsTablePath other) :=
    changed.tableBelow_same isOther fun short => absurd short last
  have isPresent : Entry.has (frame ||| flags) Entry.present = true :=
    Entry.has_or_of_right leafFlags.present
  intro next
  have sound : next.Separated := separated.of_changed changed (fun short => absurd short last)
    fun short => absurd short last
  refine ⟨⟨sound, entriesPresent_of_changed changed present isPresent, rfl, 0, rfl⟩,
    fun address => ?_, fun other => same_tables⟩
  split
  · next samePage =>
    have there : next.tableAt path = some table := (same_tables isPath).trans reached
    have entered : next.entryAt path index = frame ||| flags :=
      (changed path index isPath inTable).trans (if_pos ⟨rfl, rfl⟩)
    rw [translation_congr _ samePage, translation_eq_of_split isPage.canonical split there, entered,
      Entry.leaf?, isPresent, Entry.target_or isFrame leafFlags.noAddress,
      Entry.flags_or isFrame leafFlags.outside]
    rfl
  · next otherPage =>
    by_cases canonical : isCanonical address = true
    · rw [translation_of_canonical canonical, translation_of_canonical canonical]
      refine changed.firstLeaf_eq (fun _ => lt_of_mem_entryPath) (length_entryPath address 4) ?_
      intro rest along
      have none : rest = [] := by
        have levels := (isTablePath_of_split along).2.2
        exact List.length_eq_zero_iff.1 (by omega)
      subst none
      exact absurd (pageOf_eq_of_entryPath_eq canonical isPage.canonical (along.trans split.symm))
        otherPage
    · rw [translation, translation, if_neg canonical, if_neg canonical]

end

end AddressSpace

end KernelStart.Memory
