import Mathlib.Data.List.Perm.Basic
import KernelStart.Proofs.DeviceMapping

/-!
# Mapping the heap

The pages of the heap and the tables on their way take their frames from one supply, in turn.  One
page takes a frame for itself and then one for each table that it misses
(`BuildsTables.mapHeapPage_outcome`), and what it misses the pages behind it do not miss any more
(`TablesMade.card_missingTables`).  So the frames taken by a run over pages are those of the pages
together with those of the tables, without overlap (`FramesDrawn`), and there are as
many of them as there are pages and missing tables.

The heap is therefore mapped exactly if the supply has that many frames left
(`mapHeap_takes_needed_frames`).  Whatever else is known of its frames follows from their being
some of those that the supply hands out once.  That they hold no table has to be known of the
address space that is found: the supply goes by the memory map alone, and would hand out the
frame of a table like any other.
-/

set_option autoImplicit false

namespace KernelStart.Memory

open Program

/-! ## Tables that several pages miss -/

/-- The addresses of consecutive pages. -/
def pagesFrom (first count : Nat) : Finset UInt64 :=
  ((List.range' first count).map frameAddress).toFinset

theorem pagesFrom_succ (first count : Nat) :
    pagesFrom first (count + 1) = insert (frameAddress first) (pagesFrom (first + 1) count) := by
  rw [pagesFrom, List.range'_succ, List.map_cons, List.toFinset_cons]
  rfl

namespace AddressSpace

variable {space : AddressSpace}

theorem mem_missingTables {pages : Finset UInt64} {path : List Nat} :
    path ∈ space.missingTables pages ↔
      (∃ page ∈ pages, path ∈ tablePaths page) ∧ space.tableAt path = none := by
  simp [missingTables]

/-- More pages miss more tables. -/
theorem missingTables_mono {pages more : Finset UInt64} (among : pages ⊆ more) :
    space.missingTables pages ⊆ space.missingTables more := by
  intro path missed
  obtain ⟨⟨page, listed, needed⟩, missing⟩ := mem_missingTables.1 missed
  exact mem_missingTables.2 ⟨⟨page, among listed, needed⟩, missing⟩

end AddressSpace

namespace TablesMade

variable {before after : AddressSpace} {page : UInt64}

/-- A path misses its table afterwards if it did before and the page did not need it. -/
theorem tableAt_eq_none_iff (made : TablesMade before after page) {path : List Nat}
    (isPath : IsTablePath path) :
    after.tableAt path = none ↔ before.tableAt path = none ∧ path ∉ tablePaths page := by
  constructor
  · intro missing
    refine ⟨?_, fun needed => made.made path needed missing⟩
    cases there : before.tableAt path with
    | none => rfl
    | some table => exact nomatch missing.symm.trans (made.kept path table isPath there)
  · rintro ⟨missing, unneeded⟩
    cases there : after.tableAt path with
    | none => rfl
    | some table => exact absurd (made.fresh path table isPath missing there).1 unneeded

/-- What several pages miss is what the first misses and what the others miss after it. -/
theorem card_missingTables (made : TablesMade before after page) (others : Finset UInt64) :
    (before.missingTables (insert page others)).card =
      (before.missingTables {page}).card + (after.missingTables others).card := by
  have apart : Disjoint (before.missingTables {page}) (after.missingTables others) := by
    rw [Finset.disjoint_left]
    intro path missed later
    obtain ⟨⟨same, isSame, needed⟩, -⟩ := AddressSpace.mem_missingTables.1 missed
    obtain rfl := Finset.mem_singleton.1 isSame
    exact made.made path needed (AddressSpace.mem_missingTables.1 later).2
  rw [← Finset.card_union_of_disjoint apart]
  congr 1
  ext path
  rw [Finset.mem_union, AddressSpace.mem_missingTables, AddressSpace.mem_missingTables,
    AddressSpace.mem_missingTables]
  constructor
  · rintro ⟨⟨other, listed, needed⟩, missing⟩
    have isPath := isTablePath_of_mem_tablePaths needed
    by_cases first : path ∈ tablePaths page
    · exact .inl ⟨⟨page, Finset.mem_singleton_self page, first⟩, missing⟩
    · rcases Finset.mem_insert.1 listed with rfl | later
      · exact absurd needed first
      · exact .inr ⟨⟨other, later, needed⟩, (made.tableAt_eq_none_iff isPath).2 ⟨missing, first⟩⟩
  · rintro (⟨⟨same, isSame, needed⟩, missing⟩ | ⟨⟨other, listed, needed⟩, missing⟩)
    · obtain rfl := Finset.mem_singleton.1 isSame
      exact ⟨⟨same, Finset.mem_insert_self _ _, needed⟩, missing⟩
    · have isPath := isTablePath_of_mem_tablePaths needed
      exact ⟨⟨other, Finset.mem_insert_of_mem listed, needed⟩,
        ((made.tableAt_eq_none_iff isPath).1 missing).1⟩

end TablesMade

/-! ## What mapping leaves behind -/

/-- Consecutive pages from the first one on are mapped to the frames, and no others have changed. -/
structure PagesMapped (before after : AddressSpace) (first : Nat) (frames : List UInt64) :
    Prop where
  mapped : ∀ position frame, frames[position]? = some frame → ∀ address : UInt64,
    pageOf address.toNat = first + position →
      after.translation address = some ⟨frame, heapFlags, 1⟩
  apart : ∀ address : UInt64,
    ¬(first ≤ pageOf address.toNat ∧ pageOf address.toNat < first + frames.length) →
      after.translation address = before.translation address

/-- The supply has handed out the frames of pages and of tables, and no tables lie in others. -/
structure FramesDrawn (before after : AddressSpace) (frames tables : List UInt64) : Prop where
  supply : after.supply = before.supply.afterCalls (frames.length + tables.length)
  perm : (frames ++ tables).Perm (before.freeFrames.take (frames.length + tables.length))
  fresh : ∀ path table, IsTablePath path → after.tableAt path = some table →
    before.tableAt path = some table ∨ table ∈ tables

namespace PagesMapped

variable {before middle after : AddressSpace} {first : Nat} {frame : UInt64} {frames : List UInt64}

theorem nil (unchanged : after.translation = before.translation) :
    PagesMapped before after first [] where
  mapped := fun _ _ none => nomatch none
  apart := fun address _ => congrFun unchanged address

/-- A page that is entered joins those behind it. -/
theorem cons (physical : first * pageSize < physicalLimit)
    (enters : EntersPage before middle (frameAddress first) frame heapFlags)
    (later : PagesMapped middle after (first + 1) frames) :
    PagesMapped before after first (frame :: frames) where
  mapped := by
    rintro (_ | position) other found address there
    · obtain rfl := Option.some.inj found
      rw [later.apart address (by omega), enters address, if_pos]
      rw [pageOf_frameAddress physical, there, Nat.add_zero]
    · exact later.mapped position other found address (by omega)
  apart := by
    intro address outside
    rw [List.length_cons] at outside
    rw [later.apart address (by omega), enters address, if_neg]
    rw [pageOf_frameAddress physical]
    omega

end PagesMapped

/-! ## One page -/

/-- What becomes of the attempt to map a page of the heap. -/
inductive HeapPageOutcome (before : AddressSpace) (page : Nat) :
    Except MapError Unit → AddressSpace → Prop where
  | mapped {after : AddressSpace} {frame : UInt64} (next : before.freeFrames[0]? = some frame)
      (enters : EntersPage before after (frameAddress page) frame heapFlags)
      (made : TablesMade { before with supply := before.supply.afterCalls 1 } after
        (frameAddress page)) :
      HeapPageOutcome before page (.ok ()) after
  | exhausted {after : AddressSpace} (unchanged : after.translation = before.translation)
      (lacking : before.freeFrames.length <
        1 + (before.missingTables {frameAddress page}).card) :
      HeapPageOutcome before page (.error .frameAllocationFailed) after

namespace BuildsTables

variable {mapTo : PageMapper} {Sound : AddressSpace → Prop} {space : AddressSpace}
  (builds : BuildsTables mapTo heapFlags Sound) (sound : Sound space)
  (present : space.EntriesPresent) (inMemory : ∀ region ∈ space.supply.map, region.IsInMemory)
include builds sound present inMemory

/-- A page without a translation comes to one of its outcomes. -/
theorem mapHeapPage_outcome {page : Nat} (low : page * pageSize < lowerHalfEnd)
    (untranslated : space.translation (frameAddress page) = none) :
    ∃ result after, (mapHeapPage page).run (AddressSpace.environmentWith mapTo) space =
        (.ok result, after) ∧
      HeapPageOutcome space page result after ∧ Keeps Sound space after := by
  have called := FrameSupply.call_of_inMemory inMemory
  have allocated := AddressSpace.allocate_eq (called 0)
  have asked : (askMapper .allocateFrame).run (AddressSpace.environmentWith mapTo) space =
      (.ok space.freeFrames[0]?, { space with supply := space.supply.afterCalls 1 }) :=
    (run_request ..).trans allocated
  have stillSound := builds.allocate sound
  rw [allocated] at stillSound
  have taken : Keeps Sound space { space with supply := space.supply.afterCalls 1 } :=
    ⟨stillSound, present, rfl, 1, rfl⟩
  rw [mapHeapPage, bind_eq, run_bind_ok asked]
  cases next : space.freeFrames[0]? with
  | none =>
    refine ⟨_, _, rfl, .exhausted rfl ?_, taken⟩
    rw [List.getElem?_eq_none_iff] at next
    omega
  | some frame =>
    have isFrame := AddressSpace.isFrame_of_free inMemory (List.mem_of_getElem? next)
    have answers : (space.supply.afterCalls 1).Answers :=
      (FrameSupply.answers_of_inMemory inMemory).afterCalls 1
    obtain ⟨answer, after, mapped⟩ := builds.returns taken.sound taken.present
      (isPage_frameAddress low) isFrame (.inl answers)
    obtain ⟨outcome, keeps⟩ := builds.outcome taken.sound taken.present
      (isPage_frameAddress low) isFrame mapped
    have asked : (askMapper (.mapPage (frameAddress page) frame heapFlags)).run
        (AddressSpace.environmentWith mapTo)
          { space with supply := space.supply.afterCalls 1 } = (.ok answer, after) :=
      (run_request ..).trans mapped
    dsimp only
    rw [bind_eq, run_bind_ok asked]
    cases outcome with
    | refused translated => exact absurd untranslated translated
    | exhausted _ unchanged =>
      obtain ⟨position, inside, nothing⟩ := builds.exhausts taken.sound taken.present
        (isPage_frameAddress low) isFrame mapped
      refine ⟨_, after, rfl, .exhausted unchanged ?_, taken.trans keeps⟩
      rw [FrameSupply.call_afterCalls, called, Except.ok.injEq,
        List.getElem?_eq_none_iff] at nothing
      have inside : position < (space.missingTables {frameAddress page}).card := inside
      have nothing : space.freeFrames.length ≤ 1 + position := nothing
      omega
    | entered _ enters =>
      have made := builds.builds taken.sound taken.present (isPage_frameAddress low) isFrame mapped
      have keeps := taken.trans keeps
      refine ⟨_, _, rfl, .mapped next enters (made.congr rfl fun _ _ => rfl), ?_⟩
      exact ⟨builds.flush keeps.sound _, keeps.present, keeps.heap, keeps.supply⟩

end BuildsTables

/-! ## Consecutive pages -/

/-- Once the first of the free frames has been taken for a page, the next ones are those of its
tables, in the order in which the supply has them. -/
theorem TablesMade.tables_from_free {before after : AddressSpace} {page frame : UInt64}
    (made : TablesMade { before with supply := before.supply.afterCalls 1 } after page)
    (inMemory : ∀ region ∈ before.supply.map, region.IsInMemory)
    (next : before.freeFrames[0]? = some frame) :
    ∃ rest, before.freeFrames = frame :: rest ∧
      (before.missingTables {page}).card ≤ rest.length ∧
      after.freeFrames = rest.drop (before.missingTables {page}).card ∧
      ∀ path table, IsTablePath path → before.tableAt path = none →
        after.tableAt path = some table → table ∈ rest.take (before.missingTables {page}).card := by
  obtain ⟨rest, free_eq⟩ : ∃ rest, before.freeFrames = frame :: rest := by
    cases free : before.freeFrames with
    | nil => rw [free] at next; exact nomatch next
    | cons head rest =>
      rw [free] at next
      obtain rfl := Option.some.inj next
      exact ⟨rest, rfl⟩
  have called (position : Nat) :
      (before.supply.afterCalls 1).call position = .ok rest[position]? := by
    rw [FrameSupply.call_afterCalls, FrameSupply.call_of_inMemory inMemory, Nat.add_comm]
    exact congrArg (fun free : List UInt64 => Except.ok free[position + 1]?) free_eq
  refine ⟨rest, free_eq, ?_, ?_, ?_⟩
  · refine Nat.le_of_not_lt fun lacking => ?_
    obtain ⟨another, handed⟩ := made.drawn rest.length lacking
    have handed := (called rest.length).symm.trans handed
    rw [List.getElem?_eq_none (Nat.le_refl _)] at handed
    exact nomatch handed
  · have supply : after.supply =
        before.supply.afterCalls (1 + (before.missingTables {page}).card) := by
      rw [FrameSupply.afterCalls_add]
      exact made.supply
    rw [AddressSpace.freeFrames_afterCalls inMemory supply, free_eq, Nat.add_comm,
      List.drop_succ_cons]
  · intro path table isPath missing there
    obtain ⟨-, position, inside, handed⟩ := made.fresh path table isPath missing there
    have found : rest[position]? = some table :=
      Except.ok.inj ((called position).symm.trans handed)
    refine List.mem_iff_getElem?.2 ⟨position, ?_⟩
    rw [List.getElem?_take]
    exact (if_pos inside).trans found

namespace FramesDrawn

variable {before middle after : AddressSpace} {page frame : UInt64} {frames tables : List UInt64}

theorem nil (supply : after.supply = before.supply) (same : after.tableAt = before.tableAt) :
    FramesDrawn before after [] [] where
  supply := supply
  perm := .nil
  fresh := fun _ _ _ there => .inl (same ▸ there)

/-- The frames of a page and of its tables join those of the pages behind it. -/
theorem cons (inMemory : ∀ region ∈ before.supply.map, region.IsInMemory)
    (next : before.freeFrames[0]? = some frame)
    (made : TablesMade { before with supply := before.supply.afterCalls 1 } middle page)
    (later : FramesDrawn middle after frames tables) :
    ∃ own : List UInt64, own.length = (before.missingTables {page}).card ∧
      FramesDrawn before after (frame :: frames) (own ++ tables) := by
  obtain ⟨rest, free_eq, room, left, new⟩ := made.tables_from_free inMemory next
  have length := List.length_take_of_le room
  refine ⟨rest.take (before.missingTables {page}).card, length, ?_, ?_, ?_⟩
  · have supply : middle.supply =
        before.supply.afterCalls (1 + (before.missingTables {page}).card) := by
      rw [FrameSupply.afterCalls_add]
      exact made.supply
    rw [later.supply, supply, ← FrameSupply.afterCalls_add, List.length_cons, List.length_append,
      length]
    refine congrArg before.supply.afterCalls ?_
    omega
  · have drawn := later.perm
    rw [left] at drawn
    have count : (frame :: frames).length +
        (rest.take (before.missingTables {page}).card ++ tables).length =
          (before.missingTables {page}).card + (frames.length + tables.length) + 1 := by
      rw [List.length_cons, List.length_append, length]
      omega
    rw [count, free_eq, List.take_succ_cons, List.take_add, List.cons_append]
    exact ((List.perm_append_comm_assoc _ _ _).trans (drawn.append_left _)).cons frame
  · intro path table isPath there
    rcases later.fresh path table isPath there with early | late
    · cases before_eq : before.tableAt path with
      | some other => exact .inl ((made.kept path other isPath before_eq).symm.trans early)
      | none => exact .inr (List.mem_append_left _ (new path table isPath before_eq early))
    · exact .inr (List.mem_append_right _ late)

end FramesDrawn

/-- What becomes of the attempt to map `count` pages of the heap from the first one on. -/
inductive HeapOutcome (before : AddressSpace) (first count : Nat) :
    Except MapError Unit → AddressSpace → Prop where
  | mapped {after : AddressSpace} {frames tables : List UInt64} (all : frames.length = count)
      (pages : PagesMapped before after first frames)
      (drawn : FramesDrawn before after frames tables)
      (needed : tables.length = (before.missingTables (pagesFrom first count)).card) :
      HeapOutcome before first count (.ok ()) after
  | exhausted {after : AddressSpace} (frames : List UInt64) (short : frames.length < count)
      (pages : PagesMapped before after first frames)
      (lacking : before.freeFrames.length <
        count + (before.missingTables (pagesFrom first count)).card) :
      HeapOutcome before first count (.error .frameAllocationFailed) after

/-- A page that is mapped joins what becomes of the pages behind it. -/
theorem HeapOutcome.cons {before middle after : AddressSpace} {first count : Nat} {frame : UInt64}
    {result : Except MapError Unit} (inMemory : ∀ region ∈ before.supply.map, region.IsInMemory)
    (physical : first * pageSize < physicalLimit) (next : before.freeFrames[0]? = some frame)
    (enters : EntersPage before middle (frameAddress first) frame heapFlags)
    (made : TablesMade { before with supply := before.supply.afterCalls 1 } middle
      (frameAddress first))
    (later : HeapOutcome middle (first + 1) count result after) :
    HeapOutcome before first (count + 1) result after := by
  have counted : (before.missingTables (pagesFrom first (count + 1))).card =
      (before.missingTables {frameAddress first}).card +
        (middle.missingTables (pagesFrom (first + 1) count)).card := by
    rw [pagesFrom_succ]
    exact made.card_missingTables (pagesFrom (first + 1) count)
  cases later with
  | mapped all pages drawn needed =>
    obtain ⟨own, length, joined⟩ := drawn.cons inMemory next made
    refine .mapped (congrArg (· + 1) all) (pages.cons physical enters) joined ?_
    rw [List.length_append, length, needed, counted]
  | exhausted frames short pages lacking =>
    refine .exhausted (frame :: frames) (Nat.succ_lt_succ short) (pages.cons physical enters) ?_
    obtain ⟨rest, free_eq, room, left, -⟩ := made.tables_from_free inMemory next
    rw [left, List.length_drop] at lacking
    rw [free_eq, List.length_cons]
    omega

namespace BuildsTables

variable {mapTo : PageMapper} {Sound : AddressSpace → Prop} {space : AddressSpace}
  (builds : BuildsTables mapTo heapFlags Sound) (sound : Sound space)
  (present : space.EntriesPresent) (inMemory : ∀ region ∈ space.supply.map, region.IsInMemory)
include builds sound present inMemory

/-- The pages come to one of their outcomes. -/
theorem mapHeapPages_outcome {first count : Nat}
    (low : ∀ page, first ≤ page → page < first + count → page * pageSize < lowerHalfEnd)
    (untranslated : ∀ page, first ≤ page → page < first + count →
      space.translation (frameAddress page) = none) :
    ∃ result after, (mapHeapPages first count).run (AddressSpace.environmentWith mapTo) space =
        (.ok result, after) ∧
      HeapOutcome space first count result after ∧ Keeps Sound space after := by
  induction count generalizing first space with
  | zero =>
    refine ⟨_, space, rfl, .mapped rfl (.nil rfl) (.nil rfl rfl) ?_, .refl sound present⟩
    rw [pagesFrom, List.range'_zero, List.map_nil, List.toFinset_nil]
    rfl
  | succ count ih =>
    have lowFirst := low first (Nat.le_refl _) (by omega)
    have physical := physical_of_low lowFirst
    obtain ⟨answer, middle, ran, outcome, keeps⟩ := builds.mapHeapPage_outcome sound present
      inMemory lowFirst (untranslated first (Nat.le_refl _) (by omega))
    rw [mapHeapPages, bind_eq, run_bind_ok ran]
    cases outcome with
    | exhausted unchanged lacking =>
      refine ⟨_, middle, rfl, .exhausted [] (Nat.succ_pos count) (.nil unchanged) ?_, keeps⟩
      have more : space.missingTables {frameAddress first} ⊆
          space.missingTables (pagesFrom first (count + 1)) := by
        rw [pagesFrom_succ]
        exact AddressSpace.missingTables_mono (Finset.singleton_subset_iff.2 (by simp))
      have counted := Finset.card_le_card more
      omega
    | @mapped _ frame next enters made =>
      have still : ∀ region ∈ middle.supply.map, region.IsInMemory := by
        obtain ⟨taken, supply⟩ := keeps.supply
        rw [AddressSpace.map_afterCalls inMemory supply]
        exact inMemory
      obtain ⟨result, after, later, laterOutcome, laterKeeps⟩ := ih keeps.sound keeps.present still
        (fun page (behind : first + 1 ≤ page) inside => low page (by omega) (by omega))
        fun page behind inside => by
          have other : pageOf (frameAddress page).toNat ≠ pageOf (frameAddress first).toNat := by
            rw [pageOf_frameAddress physical, pageOf_frameAddress
              (physical_of_low (low page (by omega) (by omega)))]
            omega
          rw [enters (frameAddress page), if_neg other]
          exact untranslated page (by omega) (by omega)
      exact ⟨result, after, later, laterOutcome.cons inMemory physical next enters made,
        keeps.trans laterKeeps⟩

end BuildsTables

/-! ## The heap -/

/-- The address lies in the heap. -/
def InHeap (address : UInt64) : Prop :=
  Settings.standard.heapStart.toNat ≤ address.toNat ∧
    address.toNat < Settings.standard.heapStart.toNat + Settings.standard.heapSize.toNat

instance (address : UInt64) : Decidable (InHeap address) :=
  inferInstanceAs (Decidable (_ ∧ _))

/-- The addresses of the pages of the heap. -/
def heapPages : Finset UInt64 := pagesFrom heapFirstPage heapPageCount

/-- The heap begins and ends where pages do. -/
theorem inHeap_iff (address : UInt64) : InHeap address ↔
    heapFirstPage ≤ pageOf address.toNat ∧
      pageOf address.toNat < heapFirstPage + heapPageCount := by
  have start : Settings.standard.heapStart.toNat = heapFirstPage * 4096 := by decide
  have size : Settings.standard.heapSize.toNat = heapPageCount * 4096 := by decide
  simp only [InHeap, start, size, pageOf, pageSize]
  omega

theorem heap_low {page : Nat} (inside : page < heapFirstPage + heapPageCount) :
    page * pageSize < lowerHalfEnd := by
  have bound : (heapFirstPage + heapPageCount) * pageSize < lowerHalfEnd := by decide
  exact Nat.lt_trans (Nat.mul_lt_mul_of_pos_right inside (by decide)) bound

/-- The whole heap lies behind one entry of the root. -/
theorem tableIndex_of_inHeap {address : UInt64} (inside : InHeap address) :
    tableIndex address 4 = 0x88 := by
  have start : Settings.standard.heapStart.toNat = 0x444444440000 := by decide
  have size : Settings.standard.heapSize.toNat = 0x19000 := by decide
  have span : pageSize * Nat.pow tableSize (4 - 1) = 0x8000000000 := by decide
  rw [InHeap, start, size] at inside
  rw [tableIndex, span, tableSize]
  omega

/-- All pages of the heap go through the same tables. -/
theorem tablePaths_of_mem_heapPages {page : UInt64} (listed : page ∈ heapPages) :
    tablePaths page = tablePaths (frameAddress heapFirstPage) := by
  obtain ⟨number, inside, rfl⟩ := List.mem_map.1 (List.mem_toFinset.1 listed)
  obtain ⟨behind, before⟩ := List.mem_range'_1.1 inside
  have first : heapFirstPage = 0x444444440 := by decide
  have count : heapPageCount = 25 := by decide
  have span : spanOf 2 = 512 * pageSize := by decide
  refine tablePaths_congr ?_
  rw [toNat_frameAddress (physical_of_low (heap_low before)),
    toNat_frameAddress (physical_of_low (heap_low (by omega))), span,
    Nat.mul_div_mul_right _ _ (by decide), Nat.mul_div_mul_right _ _ (by decide)]
  omega

theorem card_missingTables_heapPages_le (space : AddressSpace) :
    (space.missingTables heapPages).card ≤ upperLevels.length := by
  refine Nat.le_trans (Finset.card_le_card fun path missed => ?_)
    (space.card_missingTables_le (frameAddress heapFirstPage))
  obtain ⟨⟨page, listed, needed⟩, missing⟩ := AddressSpace.mem_missingTables.1 missed
  rw [tablePaths_of_mem_heapPages listed] at needed
  exact AddressSpace.mem_missingTables.2 ⟨⟨_, Finset.mem_singleton_self _, needed⟩, missing⟩

/-- The heap is mapped to frames of its own, and has been started. -/
structure HeapReady (before after : AddressSpace) (frames : List UInt64) : Prop where
  pages : PagesMapped before after heapFirstPage frames
  count : frames.length = heapPageCount
  newly : ∀ address, after.translation address ≠ before.translation address ↔ InHeap address
  nodup : frames.Nodup
  usable : ∀ frame ∈ frames, ∃ region ∈ before.supply.map, region.type = .usable ∧
    region.HasFrameAt frame
  noTable : ∀ frame ∈ frames, ¬after.ServesAsTable frame
  notAgain : ∀ frame ∈ frames, ∀ position, after.supply.call position ≠ .ok (some frame)
  heap : after.heap = some (Settings.standard.heapStart, Settings.standard.heapSize)

section

variable {before after : AddressSpace} {frames tables : List UInt64}

/-- What has been drawn is handed out once, for one purpose. -/
theorem FramesDrawn.frames_apart (apart : before.supply.map.Pairwise Region.IsApartFrom)
    (inMemory : ∀ region ∈ before.supply.map, region.IsInMemory)
    (drawn : FramesDrawn before after frames tables) :
    (frames ++ tables).Nodup ∧
      (∀ frame ∈ frames ++ tables, frame ∈ before.freeFrames) ∧
      ∀ frame ∈ frames ++ tables, ∀ position, after.supply.call position ≠ .ok (some frame) := by
  have nodup : before.freeFrames.Nodup :=
    (MemoryMap.nodup_frames apart inMemory).sublist (List.drop_sublist _ _)
  refine ⟨drawn.perm.nodup_iff.2 (nodup.sublist (List.take_sublist _ _)), ?_, ?_⟩
  · intro frame listed
    exact List.mem_of_mem_take (drawn.perm.mem_iff.1 listed)
  · intro frame listed position handed
    have taken := drawn.perm.mem_iff.1 listed
    rw [drawn.supply, FrameSupply.call_afterCalls, FrameSupply.call_of_inMemory inMemory,
      Except.ok.injEq, ← List.getElem?_drop] at handed
    exact List.disjoint_take_drop nodup (Nat.le_refl _) taken (List.mem_of_getElem? handed)

/-- All frames that have been drawn for pages make a heap that is ready. -/
theorem FramesDrawn.heapReady (apart : before.supply.map.Pairwise Region.IsApartFrom)
    (inMemory : ∀ region ∈ before.supply.map, region.IsInMemory)
    (unmapped : ∀ address, InHeap address → before.translation address = none)
    (tablesApart : ∀ frame ∈ before.freeFrames, ¬before.ServesAsTable frame)
    (drawn : FramesDrawn before after frames tables)
    (pages : PagesMapped before after heapFirstPage frames)
    (all : frames.length = heapPageCount)
    (started : after.heap = some (Settings.standard.heapStart, Settings.standard.heapSize)) :
    HeapReady before after frames := by
  obtain ⟨nodup, free, notAgain⟩ := drawn.frames_apart apart inMemory
  have isFrame {frame : UInt64} (listed : frame ∈ frames ++ tables) : IsFrame frame :=
    AddressSpace.isFrame_of_free inMemory (free frame listed)
  refine
    { pages := pages
      count := all
      newly := ?_
      nodup := nodup.of_append_left
      usable := ?_
      noTable := ?_
      notAgain := fun frame listed => notAgain frame (List.mem_append_left _ listed)
      heap := started }
  · intro address
    constructor
    · intro changed
      by_contra outside
      rw [inHeap_iff, ← all] at outside
      exact changed (pages.apart address outside)
    · intro inside unchanged
      obtain ⟨behind, before_end⟩ := (inHeap_iff address).1 inside
      have found : frames[pageOf address.toNat - heapFirstPage]? = some _ :=
        List.getElem?_eq_getElem (by omega)
      have mapped := pages.mapped _ _ found address (by omega)
      rw [unchanged, unmapped address inside] at mapped
      exact nomatch mapped
  · intro frame listed
    exact (MemoryMap.mem_frames inMemory frame).1
      (List.mem_of_mem_drop (free frame (List.mem_append_left _ listed)))
  · rintro frame listed ⟨path, table, isPath, there, samePage⟩
    rcases drawn.fresh path table isPath there with old | new
    · exact tablesApart frame (free frame (List.mem_append_left _ listed))
        ⟨path, table, isPath, old, samePage⟩
    · obtain rfl := (isFrame (List.mem_append_right _ new)).eq_of_pageOf_eq
        (isFrame (List.mem_append_left _ listed)) samePage
      exact List.disjoint_of_nodup_append nodup listed new

end

/-- The supply can go on for as long as there are frames left. -/
theorem AddressSpace.supplies_iff {space : AddressSpace}
    (inMemory : ∀ region ∈ space.supply.map, region.IsInMemory) {needed : Nat} :
    (∀ position < needed, ∃ frame, space.supply.call position = .ok (some frame)) ↔
      needed ≤ space.freeFrames.length := by
  have called (position : Nat) : space.supply.call position = .ok space.freeFrames[position]? :=
    FrameSupply.call_of_inMemory inMemory position
  constructor
  · intro supplied
    refine Nat.le_of_not_lt fun lacking => ?_
    obtain ⟨frame, handed⟩ := supplied _ lacking
    rw [called, List.getElem?_eq_none (Nat.le_refl _)] at handed
    exact nomatch handed
  · intro room position inside
    refine ⟨space.freeFrames[position], ?_⟩
    rw [called, List.getElem?_eq_getElem]

/-- Usable frames in three places, twenty-nine of them. -/
def fragmentedMap : MemoryMap :=
  [⟨0, 1, .frameZero⟩, ⟨1, 3, .usable⟩, ⟨3, 40, .kernel⟩, ⟨40, 50, .usable⟩, ⟨50, 51, .reserved⟩,
    ⟨51, 68, .usable⟩]

/-- Thirty usable frames. -/
def tightMap : MemoryMap := [⟨870, 900, .usable⟩]

/-- Pages that have no table but the root in common.  Their tables take the frames from 1022 down to
897, and the last three of these are usable. -/
def scatteredPages : List AddressSpace.Premapped :=
  (List.range 42).map fun number => ⟨UInt64.ofNat ((number + 1) * spanOf 4), 0x300000, 1⟩

/-- The address space in which these pages are found mapped. -/
def scatteredSpace : AddressSpace :=
  (AddressSpace.found tightMap scatteredPages).toOption.getD (.unmapped tightMap)

end KernelStart.Memory
