import KernelStart.Proofs.TableGrowth

/-!
# Entering a page in the tables

The page table program goes down the levels one by one, and what it does on one level it does on
several (`AddressSpace.Descent`): it gets to the table it wants, having made the ones that were
missing, or a huge page covers the address and nothing has changed, or there was no frame for
a table.  With the last table reached, the page is entered or found to be in use.

So the program does what callers of a page mapper rely on, wherever no frame is used twice
(`AddressSpace.mapInTables_buildsTables`).
-/

set_option autoImplicit false

namespace KernelStart.Memory

open Program

/-! ## Descending -/

namespace AddressSpace

variable {space after : AddressSpace} {page table : UInt64} {path indices : List Nat}
  {index : Nat} {result : Except MapError UInt64}

/-- The tables that are missing on the way below a path. -/
def missingAlong (space : AddressSpace) (path indices : List Nat) : List (List Nat) :=
  (tablesAlong path indices).filter (space.tableAt · = none)

/-- What becomes of the attempt to go down from the end of `path` with the given positions of a
page. -/
inductive Descent (space : AddressSpace) (page : UInt64) (path indices : List Nat) :
    Except MapError UInt64 → AddressSpace → Prop where
  | reached {after : AddressSpace} {table : UInt64}
      (grows : Grows space after (space.missingAlong path indices))
      (there : after.tableAt (path ++ indices) = some table)
      (untranslated : space.missingAlong path indices ≠ [] → space.translation page = none) :
      Descent space page path indices (.ok table) after
  | covered {after : AddressSpace} (grows : Grows space after [])
      (translated : space.translation page ≠ none) :
      Descent space page path indices (.error .parentIsHuge) after
  | exhausted {after : AddressSpace} (settles : Settles space after)
      (untranslated : space.translation page = none)
      (lacking : ∃ position < (space.missingAlong path indices).length,
        space.supply.call position = .ok none) :
      Descent space page path indices (.error .frameAllocationFailed) after

theorem missingAlong_cons (space : AddressSpace) (path : List Nat) (index : Nat)
    (indices : List Nat) :
    space.missingAlong path (index :: indices) =
      space.missingAlong path [index] ++ space.missingAlong (path ++ [index]) indices := by
  rw [missingAlong, missingAlong, missingAlong, ← List.filter_append]
  rfl

/-- What is missing below the next table was missing before that was made. -/
theorem missingAlong_of_grows (isPath : IsTablePath path)
    (levels : path.length + (index :: indices).length ≤ upperLevels.length)
    (positions : ∀ position ∈ index :: indices, position < tableSize)
    (grows : Grows space after (space.missingAlong path [index])) :
    space.missingAlong path [index] ++ after.missingAlong (path ++ [index]) indices =
      space.missingAlong path (index :: indices) := by
  have deeper_eq : after.missingAlong (path ++ [index]) indices =
      space.missingAlong (path ++ [index]) indices := by
    refine List.filter_congr fun other listed => decide_eq_decide.2 ?_
    have isOther : IsTablePath other := by
      refine isTablePath_of_mem_tablesAlong isPath levels positions ?_
      exact List.mem_cons_of_mem _ listed
    refine grows.tableAt_eq_none_iff isOther fun made => ?_
    obtain rfl := List.mem_singleton.1 (List.mem_filter.1 made).1
    exact Nat.lt_irrefl _ (length_of_mem_tablesAlong listed)
  rw [deeper_eq, ← missingAlong_cons]

/-- Going down one level and then the others is going down all of them. -/
theorem Descent.cons (isPath : IsTablePath path)
    (levels : path.length + (index :: indices).length ≤ upperLevels.length)
    (positions : ∀ position ∈ index :: indices, position < tableSize) {middle : AddressSpace}
    (first : Descent space page path [index] (.ok table) middle)
    (later : Descent middle page (path ++ [index]) indices result after) :
    Descent space page path (index :: indices) result after := by
  cases first with
  | reached grows there untranslated =>
    have missing := missingAlong_of_grows isPath levels positions grows
    have paths : ∀ other ∈ space.missingAlong path [index], IsTablePath other := by
      intro other listed
      obtain rfl := List.mem_singleton.1 (List.mem_filter.1 listed).1
      rw [List.length_cons] at levels
      exact isPath.concat (by omega) (positions index (List.mem_cons_self ..))
    cases later with
    | reached laterGrows laterThere laterUntranslated =>
      refine .reached (missing ▸ grows.trans laterGrows paths) ?_ fun some => ?_
      · rwa [List.append_assoc] at laterThere
      · by_cases none : space.missingAlong path [index] = []
        · rw [grows.translation] at laterUntranslated
          refine laterUntranslated fun noneLater => some ?_
          rw [← missing, none, noneLater]
          rfl
        · exact untranslated none
    | covered laterGrows translated =>
      rw [grows.translation] at translated
      have none : space.missingAlong path [index] = [] := by
        by_contra some
        exact translated (untranslated some)
      rw [none] at grows
      exact .covered (grows.trans laterGrows fun _ listed => nomatch listed) translated
    | exhausted settles laterUntranslated lacking =>
      obtain ⟨position, inside, called⟩ := lacking
      rw [grows.translation] at laterUntranslated
      refine .exhausted (grows.toSettles.trans settles) laterUntranslated ?_
      rw [grows.count, FrameSupply.call_afterCalls] at called
      refine ⟨_, ?_, called⟩
      rw [← missing, List.length_append]
      omega

end AddressSpace

/-! ## The program -/

namespace AddressSpace

variable {space : AddressSpace} {page table : UInt64} {path rest : List Nat} {index : Nat}

/-- What is read from a table on the way is the entry there. -/
theorem run_readEntry (reached : space.tableAt path = some table) (index : Nat) :
    (readEntry table index).run tables space = (.ok (space.entryAt path index), space) := by
  rw [entryAt, TableMemory.entryBelow_of_some reached]
  rfl

theorem isTablePath_of_split_above (split : entryPath page 4 = path ++ index :: rest)
    (above : rest ≠ []) :
    IsTablePath path ∧ index < tableSize ∧ path.length < upperLevels.length := by
  obtain ⟨isPath, inTable, levels⟩ := isTablePath_of_split split
  have positive := List.length_pos_iff.2 above
  exact ⟨isPath, inTable, by omega⟩

theorem missingAlong_of_missing (missing : space.tableAt (path ++ [index]) = none) :
    space.missingAlong path [index] = [path ++ [index]] := by
  rw [missingAlong, tablesAlong, tablesAlong, List.filter_singleton, missing]
  rfl

theorem missingAlong_of_there (there : space.tableAt (path ++ [index]) = some table) :
    space.missingAlong path [index] = [] := by
  rw [missingAlong, tablesAlong, tablesAlong, List.filter_singleton, there]
  rfl

section

variable (separated : space.Separated) (present : space.EntriesPresent)
  (canonical : isCanonical page = true) (split : entryPath page 4 = path ++ index :: rest)
  (above : rest ≠ []) (reached : space.tableAt path = some table)
include separated present canonical split above reached

/-- A table that is missing is made, if there is a frame for it. -/
theorem run_createTable (unused : space.entryAt path index = 0) :
    ∃ result after,
      (createTable table index Entry.tableFlags).run tables space = (.ok result, after) ∧
        Descent space page path [index] result after := by
  obtain ⟨isPath, inTable, short⟩ := isTablePath_of_split_above split above
  have untranslated := translation_eq_none canonical split reached unused
  have missing : space.missingAlong path [index] = [path ++ [index]] := by
    refine missingAlong_of_missing ?_
    rw [tableAt, TableMemory.tableBelow_concat]
    exact congrArg Entry.table? unused
  rw [createTable, bind_eq]
  cases called : space.freeFrames[0]? with
  | none =>
    have nothing : space.supply.call 0 = .ok none := (separated.call_eq 0).trans (by rw [called])
    rw [run_bind_ok ((run_request ..).trans (allocate_eq nothing))]
    refine ⟨_, _, rfl, .exhausted ⟨⟨separated.take 1, present, rfl, 1, rfl⟩, rfl⟩ untranslated ?_⟩
    exact ⟨0, by rw [missing]; exact Nat.one_pos, nothing⟩
  | some frame =>
    have handed : space.supply.call 0 = .ok (some frame) :=
      (separated.call_eq 0).trans (by rw [called])
    rw [run_bind_ok ((run_request ..).trans (allocate_eq handed))]
    obtain ⟨grows, there⟩ :=
      grows_create separated present isPath reached inTable short unused handed
    exact ⟨_, _, rfl, .reached (missing ▸ grows) there fun _ => untranslated⟩

/-- An entry in use leads to the next table, unless it maps a huge page. -/
theorem run_nextTable_of_used (used : space.entryAt path index ≠ 0) :
    ∃ result after,
      (nextTable table index Entry.tableFlags).run tables space = (.ok result, after) ∧
        Descent space page path [index] result after := by
  obtain ⟨isPath, inTable, short⟩ := isTablePath_of_split_above split above
  have isPresent := present path index isPath inTable used
  rw [nextTable, bind_eq, run_bind_ok (run_readEntry reached index), if_neg used]
  cases huge : Entry.has (space.entryAt path index) Entry.huge with
  | true =>
    have allowed := separated.huge path index isPath short inTable huge
    have translated := translation_ne_none canonical split reached isPresent (.inr huge)
    refine ⟨_, space, ?_, .covered (.refl separated present) translated⟩
    rw [allowed]
    rfl
  | false =>
    have there : space.tableAt (path ++ [index]) =
        some (Entry.target (space.entryAt path index)) := by
      refine (TableMemory.tableBelow_concat space.memory space.root path index).trans ?_
      change Entry.table? (space.entryAt path index) = _
      rw [Entry.table?, isPresent, huge]
      rfl
    have missing := missingAlong_of_there there
    cases Entry.has (space.entryAt path index) Entry.tableFlags with
    | true =>
      exact ⟨_, space, rfl, .reached (missing ▸ .refl separated present) there
        fun some => absurd missing some⟩
    | false =>
      have grows := grows_addFlags separated present isPath reached inTable short used huge
      exact ⟨_, _, rfl, .reached (missing ▸ grows)
        (grows.kept _ _ (isPath.concat short inTable) there) fun some => absurd missing some⟩

/-- Going to the next table. -/
theorem run_nextTable :
    ∃ result after,
      (nextTable table index Entry.tableFlags).run tables space = (.ok result, after) ∧
        Descent space page path [index] result after := by
  by_cases unused : space.entryAt path index = 0
  · rw [nextTable, bind_eq, run_bind_ok (run_readEntry reached index), if_pos unused]
    exact run_createTable separated present canonical split above reached unused
  · exact run_nextTable_of_used separated present canonical split above reached unused

end

/-- Going down the given levels, however many of the tables are there. -/
theorem run_lastTable (canonical : isCanonical page = true) {levels : List Nat}
    (separated : space.Separated) (present : space.EntriesPresent)
    (split : entryPath page 4 = path ++ (levels.map (tableIndex page) ++ [tableIndex page 1]))
    (reached : space.tableAt path = some table) :
    ∃ result after,
      (lastTable page Entry.tableFlags table levels).run tables space = (.ok result, after) ∧
        Descent space page path (levels.map (tableIndex page)) result after := by
  induction levels generalizing space table path with
  | nil =>
    refine ⟨.ok table, space, rfl, .reached (.refl separated present) ?_ ?_⟩
    · rwa [List.map_nil, List.append_nil]
    · exact fun some => absurd rfl some
  | cons level lower ih =>
    rw [List.map_cons, List.cons_append] at split
    obtain ⟨isPath, -, length⟩ := isTablePath_of_split split
    have deep : path.length + ((level :: lower).map (tableIndex page)).length ≤
        upperLevels.length := by
      rw [List.length_append, List.length_singleton] at length
      rw [List.map_cons, List.length_cons]
      omega
    have positions : ∀ position ∈ (level :: lower).map (tableIndex page), position < tableSize := by
      intro position listed
      obtain ⟨upper, _, rfl⟩ := List.mem_map.1 listed
      exact tableIndex_lt page upper
    obtain ⟨first, middle, ran, descent⟩ :=
      run_nextTable separated present canonical split (by simp) reached
    rw [lastTable, bind_eq, run_bind_ok ran]
    cases descent with
    | covered grows translated => exact ⟨_, middle, rfl, .covered grows translated⟩
    | exhausted settles untranslated lacking =>
      obtain ⟨position, inside, called⟩ := lacking
      refine ⟨_, middle, rfl, .exhausted settles untranslated ⟨position, ?_, called⟩⟩
      rw [List.map_cons, missingAlong_cons, List.length_append]
      omega
    | @reached _ next grows there untranslated =>
      have further : entryPath page 4 =
          path ++ [tableIndex page level] ++
            (lower.map (tableIndex page) ++ [tableIndex page 1]) := by
        rw [split, List.append_assoc]
        rfl
      obtain ⟨result, after, laterRan, laterDescent⟩ := ih grows.sound grows.present further there
      refine ⟨result, after, laterRan, ?_⟩
      exact Descent.cons isPath deep positions (.reached grows there untranslated) laterDescent

/-- The tables that a page misses are missed on its way down from the root. -/
theorem card_missingTables (space : AddressSpace) (page : UInt64) :
    (space.missingTables {page}).card =
      (space.missingAlong [] (upperLevels.map (tableIndex page))).length := by
  rw [missingTables, Finset.singleton_biUnion, missingAlong, ← List.toFinset_card_of_nodup
    ((nodup_tablesAlong [] (upperLevels.map (tableIndex page))).filter _), List.toFinset_filter]
  congr 1
  ext path
  simp [tablePaths]

/-- There is one table on the way for each level but the first. -/
theorem card_missingTables_le (space : AddressSpace) (page : UInt64) :
    (space.missingTables {page}).card ≤ upperLevels.length := by
  rw [missingTables, Finset.singleton_biUnion]
  calc _ ≤ (tablePaths page).toFinset.card := Finset.card_filter_le ..
    _ ≤ (tablePaths page).length := List.toFinset_card_le _

theorem Grows.tablesMade {after : AddressSpace}
    (grows : Grows space after (space.missingAlong [] (upperLevels.map (tableIndex page)))) :
    TablesMade space after page where
  supply := by
    rw [card_missingTables]
    exact grows.count
  drawn := by
    rw [card_missingTables]
    exact grows.drawn
  kept := grows.kept
  made := by
    intro path needed
    cases there : space.tableAt path with
    | none => exact grows.made path (List.mem_filter.2 ⟨needed, by rw [there]; rfl⟩)
    | some table =>
      rw [grows.kept path table (isTablePath_of_mem_tablePaths needed) there]
      exact Option.some_ne_none table
  fresh := by
    intro path table isPath missing there
    rw [card_missingTables]
    obtain ⟨listed, handed⟩ := grows.fresh path table isPath missing there
    exact ⟨(List.mem_filter.1 listed).1, handed⟩

/-- Mapping a page comes to one of its outcomes, and the tables that it missed are there if it
was mapped. -/
theorem run_mapInTables {frame flags : UInt64} (separated : space.Separated)
    (present : space.EntriesPresent) (isPage : IsPage page) (isFrame : IsFrame frame)
    (leafFlags : Entry.IsLeafFlags flags) :
    ∃ result after, mapInTables page frame flags space = (.ok result, after) ∧
      MapOutcome space after page frame flags result ∧ Keeps Separated space after ∧
      (result = .ok () → TablesMade space after page) ∧
      (result = .error .frameAllocationFailed →
        ∃ position < (space.missingTables {page}).card, space.supply.call position = .ok none) := by
  have split : entryPath page 4 =
      [] ++ (upperLevels.map (tableIndex page) ++ [tableIndex page 1]) := rfl
  have root : space.tableAt [] = some space.root := rfl
  obtain ⟨result, middle, ran, descent⟩ :=
    run_lastTable isPage.canonical separated present split root
  rw [mapInTables, mapPage, leafFlags.inherited, bind_eq, run_bind_ok ran]
  cases descent with
  | covered grows translated =>
    exact ⟨_, middle, rfl, .refused translated nofun grows.translation grows.count, grows.toKeeps,
      nofun, nofun⟩
  | exhausted settles untranslated lacking =>
    refine ⟨_, middle, rfl, .exhausted untranslated settles.translation, settles.toKeeps, nofun,
      fun _ => ?_⟩
    rw [card_missingTables]
    exact lacking
  | @reached _ table grows there untranslated =>
    rw [List.nil_append] at there split
    have lastPath : upperLevels.map (tableIndex page) ∈ tablePaths page :=
      List.mem_cons_of_mem _ (List.mem_cons_of_mem _ (List.mem_singleton_self _))
    have isPath := isTablePath_of_mem_tablePaths lastPath
    have inTable := tableIndex_lt page 1
    dsimp only
    rw [bind_eq, run_bind_ok (run_readEntry there (tableIndex page 1))]
    by_cases unused :
        middle.entryAt (upperLevels.map (tableIndex page)) (tableIndex page 1) = 0
    · have free := translation_eq_none isPage.canonical split there unused
      obtain ⟨keeps, enters, tables⟩ := enters_leaf grows.sound grows.present isPath there inTable
        isPage isFrame leafFlags split
      rw [grows.translation] at free
      rw [if_neg (not_not.2 unused)]
      refine ⟨_, _, rfl, .entered free ?_, grows.toKeeps.trans keeps, fun _ => ?_, nofun⟩
      · intro address
        rw [enters address, grows.translation]
      · exact grows.tablesMade.congr rfl tables
    · have isPresent := grows.present _ _ isPath inTable unused
      have translated := translation_ne_none isPage.canonical split there isPresent (.inl rfl)
      rw [grows.translation] at translated
      have supply : middle.supply = space.supply := by
        have none : space.missingAlong [] (upperLevels.map (tableIndex page)) = [] := by
          by_contra some
          exact translated (untranslated some)
        rw [grows.count, none]
        rfl
      rw [if_pos unused]
      exact ⟨_, middle, rfl, .refused translated nofun grows.translation supply, grows.toKeeps,
        nofun, nofun⟩

/-- **The page table program maps pages the way its callers are told.**  This holds wherever
no frame is used twice. -/
theorem mapInTables_buildsTables {flags : UInt64} (leafFlags : Entry.IsLeafFlags flags) :
    BuildsTables mapInTables flags Separated where
  outcome := by
    intro space separated present page frame isPage isFrame result next mapped
    obtain ⟨_, _, ran, outcome, keeps, -⟩ :=
      run_mapInTables separated present isPage isFrame leafFlags
    cases ran.symm.trans mapped
    exact ⟨outcome, keeps⟩
  returns := by
    intro space separated present page frame isPage isFrame _
    obtain ⟨result, next, ran, -⟩ := run_mapInTables separated present isPage isFrame leafFlags
    exact ⟨result, next, ran⟩
  flush := fun separated _ => ⟨separated.1, separated.2, separated.3, separated.4, separated.5⟩
  builds := by
    intro space separated present page frame isPage isFrame next mapped
    obtain ⟨_, _, ran, -, -, made, -⟩ :=
      run_mapInTables separated present isPage isFrame leafFlags
    cases ran.symm.trans mapped
    exact made rfl
  exhausts := by
    intro space separated present page frame isPage isFrame next mapped
    obtain ⟨_, _, ran, -, -, -, lacking⟩ :=
      run_mapInTables separated present isPage isFrame leafFlags
    cases ran.symm.trans mapped
    exact lacking rfl
  allocate := by
    intro space separated
    rw [allocate_eq (separated.call_eq 0)]
    exact separated.take 1

end AddressSpace

/-- Pages of device registers ask no more of tables than pages of the heap. -/
theorem isLeafFlags_deviceFlags : Entry.IsLeafFlags deviceFlags :=
  ⟨by decide, by decide, by decide, by decide⟩

theorem isLeafFlags_heapFlags : Entry.IsLeafFlags heapFlags :=
  ⟨by decide, by decide, by decide, by decide⟩

/-! ## Address spaces without mappings -/

namespace AddressSpace

variable {map : MemoryMap}

theorem entry_empty (table : UInt64) (index : Nat) : TableMemory.empty.entry table index = 0 :=
  Std.TreeMap.getD_emptyc

/-- Without mappings there is no table but the root. -/
theorem tableAt_unmapped (path : List Nat) :
    (unmapped map).tableAt path = if path = [] then some (frameAddress rootFrame) else none := by
  cases path with
  | nil => rfl
  | cons index path =>
    rw [if_neg (List.cons_ne_nil index path), tableAt, unmapped, TableMemory.tableBelow,
      entry_empty, Entry.table?_zero, Option.bind_none]

theorem entryAt_unmapped (path : List Nat) (index : Nat) :
    (unmapped map).entryAt path index = 0 := by
  cases there : (unmapped map).tableAt path with
  | none => exact TableMemory.entryBelow_of_none there index
  | some table => exact (TableMemory.entryBelow_of_some there index).trans (entry_empty table index)

theorem translation_unmapped (address : UInt64) : (unmapped map).translation address = none := by
  rw [translation]
  split
  · rw [entryPath, unmapped, TableMemory.translationBelow, entry_empty]
    rfl
  · rfl

theorem entriesPresent_unmapped : (unmapped map).EntriesPresent :=
  fun path index _ _ used => absurd (entryAt_unmapped path index) used

/-- Without mappings only the root must not be handed out. -/
theorem separated_unmapped (inMemory : ∀ region ∈ map, region.IsInMemory)
    (apart : map.Pairwise Region.IsApartFrom)
    (rootKept : ∀ region ∈ map.usable, ¬region.Holds rootFrame) :
    (unmapped map).Separated where
  separate := by
    have only_root {path : List Nat} {table : UInt64}
        (there : (unmapped map).tableAt path = some table) : path = [] := by
      rw [tableAt_unmapped] at there
      split at there
      · assumption
      · exact nomatch there
    intro path other _ _ table another there elsewhere _
    exact (only_root there).trans (only_root elsewhere).symm
  huge := by
    intro path index _ _ _ huge
    rw [entryAt_unmapped] at huge
    exact absurd huge (by decide)
  inMemory := inMemory
  apart := apart
  unused := by
    intro frame free path _ table there samePage
    have there : (unmapped map).tableAt path = some table := there
    rw [tableAt_unmapped] at there
    split at there
    · cases there
      obtain ⟨region, isUsable, isFrame⟩ := List.mem_flatMap.1 (List.mem_of_mem_drop free)
      obtain ⟨number, held, rfl⟩ := Region.mem_frames_iff.1 isFrame
      have physical := (inMemory region (MemoryMap.mem_usable.1 isUsable).1).number_mul_lt held
      have same : rootFrame = number := by
        rwa [pageOf_frameAddress physical, pageOf_frameAddress (by decide)] at samePage
      exact rootKept region isUsable (same ▸ held)
    · exact nomatch there

end AddressSpace

/-! ## Address spaces as they are found -/

/-- Whatever lies in a table is present. -/
def TableMemory.OnlyPresent (memory : TableMemory) : Prop :=
  ∀ table index, memory.entry table index ≠ 0 →
    Entry.has (memory.entry table index) Entry.present = true

namespace TableMemory.OnlyPresent

variable {memory : TableMemory}

theorem setEntry (only : memory.OnlyPresent) {table : UInt64} {index : Nat} {entry : UInt64}
    (isPresent : Entry.has entry Entry.present = true) :
    (memory.setEntry table index entry).OnlyPresent := by
  intro other position used
  rw [entry_setEntry] at used ⊢
  split
  · exact isPresent
  · next elsewhere =>
    rw [if_neg elsewhere] at used
    exact only other position used

theorem foundTable (only : memory.OnlyPresent) (spare : Nat) (table : UInt64) (index : Nat) :
    (AddressSpace.foundTable memory spare table index).1.OnlyPresent := by
  unfold AddressSpace.foundTable
  dsimp only
  split
  · apply only.setEntry
    apply Entry.has_or_of_right
    decide
  · exact only

theorem placePremapped (only : memory.OnlyPresent) {mapping : AddressSpace.Premapped}
    {spare level : Nat} {table : UInt64} {reached : TableMemory × Nat}
    (placed : AddressSpace.placePremapped mapping memory spare table level = .ok reached) :
    reached.1.OnlyPresent := by
  induction level generalizing memory spare table with
  | zero =>
    cases placed
    exact only
  | succ lower ih =>
    rw [AddressSpace.placePremapped] at placed
    split at placed
    · cases placed
    split at placed
    · cases placed
      apply only.setEntry
      apply Entry.has_or_of_right
      split <;> decide
    · exact ih (only.foundTable spare table _) placed

theorem placeAll (only : memory.OnlyPresent) {mappings : List AddressSpace.Premapped}
    {spare : Nat} {root : UInt64} {reached : TableMemory × Nat}
    (placed : mappings.foldlM (fun (memory, spare) mapping =>
      AddressSpace.placePremapped mapping memory spare root 4) (memory, spare) = .ok reached) :
    reached.1.OnlyPresent := by
  induction mappings generalizing memory spare with
  | nil =>
    cases placed
    exact only
  | cons mapping rest ih =>
    rw [List.foldlM_cons] at placed
    dsimp only at placed
    cases first : AddressSpace.placePremapped mapping memory spare root 4 with
    | error cause =>
      rw [first] at placed
      cases placed
    | ok next =>
      rw [first] at placed
      exact ih (only.placePremapped first) placed

end TableMemory.OnlyPresent

namespace AddressSpace

variable {map : MemoryMap} {premapped : List Premapped} {space : AddressSpace}

/-- In a tree that is found there are only present entries. -/
theorem onlyPresent_of_found (found : AddressSpace.found map premapped = .ok space) :
    space.memory.OnlyPresent := by
  have empty : TableMemory.empty.OnlyPresent :=
    fun table index used => absurd (entry_empty table index) used
  simp only [AddressSpace.found, Bind.bind, Except.bind] at found
  split at found
  · cases found
  · next reached placed =>
    cases found
    exact empty.placeAll placed

theorem entriesPresent_of_found (found : AddressSpace.found map premapped = .ok space) :
    space.EntriesPresent := by
  intro path index _ _ used
  cases there : space.tableAt path with
  | none => exact absurd (TableMemory.entryBelow_of_none there index) used
  | some table =>
    have entry : space.entryAt path index = space.memory.entry table index :=
      TableMemory.entryBelow_of_some there index
    rw [entry] at used ⊢
    exact onlyPresent_of_found found table index used

/-- Without an entry in the root there is no translation. -/
theorem translation_of_entry_eq_zero {address : UInt64}
    (absent : space.memory.entry space.root (tableIndex address 4) = 0) :
    space.translation address = none := by
  rw [translation]
  split
  · rw [entryPath, TableMemory.translationBelow, absent]
    rfl
  · rfl

end AddressSpace

end KernelStart.Memory
