import Mathlib.Data.Finset.Card
import Mathlib.Data.Finset.Union
import KernelStart.Memory.AddressSpace

/-!
# What virtual addresses mean

The tree of tables is described here by the ways through it.  A path is the list of the
positions at which a walk leaves one table for the next; `tableBelow` follows it, and
`entryBelow` is the entry that lies at its end, zero if the walk does not get there.  The
*translation* of an address is the entry that maps it, with its level, so it says which frame
the address reaches and with which flags; `resolve` is what the processor makes of it
(`AddressSpace.resolve_eq`).

Everything that a walk finds, it finds in the entries along its path.  `firstLeaf` says so for
translations (`TableMemory.firstLeaf_entryBelow`) and `tableBelow_concat` for tables, and
neither mentions the frames that the tables lie in.
-/

set_option autoImplicit false

namespace KernelStart.Memory

/-! ## Entries -/

/-- What maps an address: where the memory begins, the flags, and the level of the entry. -/
structure Translation where
  target : UInt64
  flags : UInt64
  level : Nat
  deriving DecidableEq, Repr

namespace Translation

/-- The memory that an address with this translation reaches. -/
def reached (translation : Translation) (address : UInt64) : UInt64 :=
  UInt64.ofNat (translation.target.toNat + address.toNat % spanOf translation.level)

end Translation

namespace Entry

/-- The table that an entry above the last level leads to. -/
def table? (entry : UInt64) : Option UInt64 :=
  if has entry present && !has entry huge then some (target entry) else none

/-- What an entry of the given level maps. -/
def leaf? (entry : UInt64) (level : Nat) : Option Translation :=
  if has entry present && (level == 1 || has entry huge) then
    some ⟨target entry, flags entry, level⟩
  else
    none

@[simp] theorem table?_zero : table? 0 = none := rfl

@[simp] theorem leaf?_zero (level : Nat) : leaf? 0 level = none := rfl

end Entry

/-! ## Walks -/

namespace TableMemory

/-- The table at the end of a path that begins at a table. -/
def tableBelow (memory : TableMemory) (table : UInt64) : List Nat → Option UInt64
  | [] => some table
  | index :: path =>
    (Entry.table? (memory.entry table index)).bind fun next => memory.tableBelow next path

/-- The entry at a position of the table at the end of a path. -/
def entryBelow (memory : TableMemory) (table : UInt64) (path : List Nat) (index : Nat) : UInt64 :=
  ((memory.tableBelow table path).map (memory.entry · index)).getD 0

/-- What maps the addresses with the given positions, from a table down. -/
def translationBelow (memory : TableMemory) (table : UInt64) : List Nat → Option Translation
  | [] => none
  | index :: path =>
    (Entry.leaf? (memory.entry table index) (path.length + 1)).or
      ((Entry.table? (memory.entry table index)).bind fun next =>
        memory.translationBelow next path)

variable {memory : TableMemory} {table root : UInt64} {path : List Nat}

theorem entryBelow_of_some (reached : memory.tableBelow root path = some table) (index : Nat) :
    memory.entryBelow root path index = memory.entry table index := by
  rw [entryBelow, reached, Option.map_some, Option.getD_some]

theorem entryBelow_of_none (cut : memory.tableBelow root path = none) (index : Nat) :
    memory.entryBelow root path index = 0 := by
  rw [entryBelow, cut, Option.map_none, Option.getD_none]

/-- The table behind a path is the one that the entry at its end leads to. -/
theorem tableBelow_concat (memory : TableMemory) (root : UInt64) (path : List Nat) (index : Nat) :
    memory.tableBelow root (path ++ [index]) =
      Entry.table? (memory.entryBelow root path index) := by
  induction path generalizing root with
  | nil =>
    rw [List.nil_append, entryBelow_of_some rfl, tableBelow]
    exact Option.bind_fun_some _
  | cons first path ih =>
    rw [List.cons_append, tableBelow, entryBelow, tableBelow]
    cases Entry.table? (memory.entry root first) with
    | none => exact Entry.table?_zero.symm
    | some next => exact ih next

end TableMemory

/-- The first leaf among the entries that a path meets below the path `reached`. -/
def firstLeaf (entryOf : List Nat → Nat → UInt64) (reached : List Nat) :
    List Nat → Option Translation
  | [] => none
  | index :: path =>
    (Entry.leaf? (entryOf reached index) (path.length + 1)).or
      (firstLeaf entryOf (reached ++ [index]) path)

/-- Only what the entries along the path map is of concern. -/
theorem firstLeaf_congr {entryOf otherOf : List Nat → Nat → UInt64} {reached path : List Nat}
    (same : ∀ before index after, path = before ++ index :: after →
      Entry.leaf? (entryOf (reached ++ before) index) (after.length + 1) =
        Entry.leaf? (otherOf (reached ++ before) index) (after.length + 1)) :
    firstLeaf entryOf reached path = firstLeaf otherOf reached path := by
  induction path generalizing reached with
  | nil => rfl
  | cons index path ih =>
    have here := same [] index path rfl
    rw [List.append_nil] at here
    rw [firstLeaf, firstLeaf, here, ih]
    intro before position after split
    rw [List.append_assoc]
    exact same (index :: before) position after (congrArg (index :: ·) split)

namespace TableMemory

/-- A walk finds the first leaf along its path. -/
theorem firstLeaf_entryBelow (memory : TableMemory) (root : UInt64) (reached path : List Nat) :
    firstLeaf (memory.entryBelow root) reached path =
      (memory.tableBelow root reached).bind (memory.translationBelow · path) := by
  induction path generalizing reached with
  | nil => cases memory.tableBelow root reached <;> rfl
  | cons index path ih =>
    rw [firstLeaf, ih, tableBelow_concat]
    cases here : memory.tableBelow root reached with
    | none => rw [entryBelow_of_none here]; rfl
    | some table => rw [entryBelow_of_some here]; rfl

end TableMemory

/-! ## Addresses -/

/-- The positions of an address in the tables from the given level down. -/
def entryPath (address : UInt64) : Nat → List Nat
  | 0 => []
  | lower + 1 => tableIndex address (lower + 1) :: entryPath address lower

@[simp] theorem length_entryPath (address : UInt64) (level : Nat) :
    (entryPath address level).length = level := by
  induction level with
  | zero => rfl
  | succ lower ih => rw [entryPath, List.length_cons, ih]

/-- The tables that a walk with the given positions goes through, after those of `reached`. -/
def tablesAlong (reached : List Nat) : List Nat → List (List Nat)
  | [] => []
  | index :: path => (reached ++ [index]) :: tablesAlong (reached ++ [index]) path

/-- The paths to the tables below the root that an address needs. -/
def tablePaths (address : UInt64) : List (List Nat) :=
  tablesAlong [] (upperLevels.map (tableIndex address))

@[simp] theorem length_upperLevels : upperLevels.length = 3 := rfl

/-- A path that can lead to a table: there is one for each level but the last. -/
def IsTablePath (path : List Nat) : Prop :=
  path.length ≤ upperLevels.length ∧ ∀ index ∈ path, index < tableSize

namespace IsTablePath

variable {path : List Nat} {index : Nat}

theorem nil : IsTablePath [] := ⟨Nat.zero_le _, fun _ none => nomatch none⟩

theorem concat (isPath : IsTablePath path) (short : path.length < upperLevels.length)
    (inTable : index < tableSize) : IsTablePath (path ++ [index]) := by
  refine ⟨by rwa [List.length_append], fun position listed => ?_⟩
  rcases List.mem_append.1 listed with before | last
  · exact isPath.2 position before
  · rwa [List.mem_singleton.1 last]

theorem of_concat (isPath : IsTablePath (path ++ [index])) :
    IsTablePath path ∧ path.length < upperLevels.length ∧ index < tableSize := by
  have length := isPath.1
  rw [List.length_append, List.length_singleton] at length
  refine ⟨⟨by omega, fun position listed => ?_⟩, by omega, ?_⟩
  · exact isPath.2 position (List.mem_append_left _ listed)
  · exact isPath.2 index (List.mem_append_right _ (List.mem_singleton_self index))

end IsTablePath

section

variable {page : UInt64} {path indices : List Nat}

theorem tableIndex_lt (address : UInt64) (level : Nat) : tableIndex address level < tableSize :=
  Nat.mod_lt _ (by decide)

theorem lt_of_mem_entryPath {address : UInt64} {level index : Nat}
    (listed : index ∈ entryPath address level) : index < tableSize := by
  induction level with
  | zero => exact nomatch listed
  | succ lower ih =>
    rcases List.mem_cons.1 listed with rfl | deeper
    · exact tableIndex_lt address (lower + 1)
    · exact ih deeper

/-- Wherever the way of an address is cut, what comes before is a path to a table. -/
theorem isTablePath_of_split {rest : List Nat} {index : Nat}
    (split : entryPath page 4 = path ++ index :: rest) :
    IsTablePath path ∧ index < tableSize ∧ path.length + rest.length = upperLevels.length := by
  have positions : ∀ position ∈ path ++ index :: rest, position < tableSize :=
    fun position listed => lt_of_mem_entryPath (split ▸ listed)
  have length := congrArg List.length split
  rw [length_entryPath, List.length_append, List.length_cons] at length
  rw [IsTablePath, length_upperLevels]
  refine ⟨⟨by omega, fun position listed => ?_⟩, positions index (by simp), by omega⟩
  exact positions position (List.mem_append_left _ listed)

theorem length_of_mem_tablesAlong {other : List Nat} (listed : other ∈ tablesAlong path indices) :
    path.length < other.length := by
  induction indices generalizing path with
  | nil => exact nomatch listed
  | cons index indices ih =>
    rcases List.mem_cons.1 listed with rfl | deeper
    · simp
    · have longer := ih deeper
      rw [List.length_append] at longer
      omega

theorem isTablePath_of_mem_tablesAlong {other : List Nat} (isPath : IsTablePath path)
    (levels : path.length + indices.length ≤ upperLevels.length)
    (positions : ∀ index ∈ indices, index < tableSize)
    (listed : other ∈ tablesAlong path indices) : IsTablePath other := by
  induction indices generalizing path with
  | nil => exact nomatch listed
  | cons index indices ih =>
    rw [List.length_cons] at levels
    have isNext : IsTablePath (path ++ [index]) :=
      isPath.concat (by omega) (positions index (List.mem_cons_self ..))
    rcases List.mem_cons.1 listed with rfl | deeper
    · exact isNext
    · refine ih isNext ?_ (fun other isLater => ?_) deeper
      · rw [List.length_append, List.length_singleton]
        omega
      · exact positions other (List.mem_cons_of_mem _ isLater)

/-- Paths of different lengths are different. -/
theorem nodup_tablesAlong (path indices : List Nat) : (tablesAlong path indices).Nodup := by
  induction indices generalizing path with
  | nil => exact List.nodup_nil
  | cons index indices ih =>
    refine List.nodup_cons.2 ⟨fun again => ?_, ih (path ++ [index])⟩
    exact Nat.lt_irrefl _ (length_of_mem_tablesAlong again)

theorem isTablePath_of_mem_tablePaths (needed : path ∈ tablePaths page) : IsTablePath path := by
  refine isTablePath_of_mem_tablesAlong .nil (Nat.le_refl _) ?_ needed
  intro index listed
  obtain ⟨level, _, rfl⟩ := List.mem_map.1 listed
  exact tableIndex_lt page level

end

/-- Walking down with an address finds what maps it and goes to the place that it says. -/
theorem TableMemory.resolveFrom_eq (memory : TableMemory) (address table : UInt64) (level : Nat) :
    memory.resolveFrom address table level =
      (memory.translationBelow table (entryPath address level)).map (·.reached address) := by
  induction level generalizing table with
  | zero => rfl
  | succ lower ih =>
    rw [resolveFrom, entryPath, translationBelow, length_entryPath]
    generalize memory.entry table (tableIndex address (lower + 1)) = entry
    cases present : Entry.has entry Entry.present with
    | false => simp [Entry.leaf?, Entry.table?, present]
    | true =>
      by_cases last : lower = 0 ∨ Entry.has entry Entry.huge = true
      · simp [Entry.leaf?, present, last, Translation.reached]
      · rw [not_or, Bool.not_eq_true] at last
        simp [Entry.leaf?, Entry.table?, present, last, ih]

namespace AddressSpace

variable (space : AddressSpace)

/-- The table at the end of a path from the root. -/
def tableAt (path : List Nat) : Option UInt64 := space.memory.tableBelow space.root path

/-- The entry at a position of the table at the end of a path from the root. -/
def entryAt (path : List Nat) (index : Nat) : UInt64 :=
  space.memory.entryBelow space.root path index

/-- What maps an address. -/
def translation (address : UInt64) : Option Translation :=
  if isCanonical address then
    space.memory.translationBelow space.root (entryPath address 4)
  else
    none

/-- Entries that are in use are present. -/
def EntriesPresent : Prop :=
  ∀ path index, IsTablePath path → index < tableSize → space.entryAt path index ≠ 0 →
    Entry.has (space.entryAt path index) Entry.present = true

/-- A table lies in the frame. -/
def ServesAsTable (frame : UInt64) : Prop :=
  ∃ path table, IsTablePath path ∧ space.tableAt path = some table ∧
    pageOf table.toNat = pageOf frame.toNat

/-- The paths to tables that the pages need and that are not there. -/
def missingTables (pages : Finset UInt64) : Finset (List Nat) :=
  (pages.biUnion fun page => (tablePaths page).toFinset).filter (space.tableAt · = none)

/-- The frames that the supply has not handed out yet, in order. -/
def freeFrames : List UInt64 := space.supply.map.frames.drop space.supply.asked

variable {space}

/-- The processor reaches what the translation says. -/
theorem resolve_eq (space : AddressSpace) (address : UInt64) :
    space.resolve address = (space.translation address).map (·.reached address) := by
  rw [resolve, translation]
  split
  · exact space.memory.resolveFrom_eq address space.root 4
  · rfl

/-- The translation of an address is the first leaf along its path. -/
theorem translation_of_canonical {address : UInt64} (canonical : isCanonical address = true) :
    space.translation address = firstLeaf space.entryAt [] (entryPath address 4) := by
  rw [translation, if_pos canonical]
  exact (space.memory.firstLeaf_entryBelow space.root [] (entryPath address 4)).symm

end AddressSpace

/-! ## Pages -/

/-- The positions of an address are those of its page. -/
theorem tableIndex_congr {address other : UInt64}
    (samePage : pageOf address.toNat = pageOf other.toNat) (level : Nat) :
    tableIndex address level = tableIndex other level := by
  rw [pageOf, pageOf] at samePage
  rw [tableIndex, tableIndex, ← Nat.div_div_eq_div_mul, ← Nat.div_div_eq_div_mul, samePage]

theorem entryPath_congr {address other : UInt64}
    (samePage : pageOf address.toNat = pageOf other.toNat) (level : Nat) :
    entryPath address level = entryPath other level := by
  induction level with
  | zero => rfl
  | succ lower ih => rw [entryPath, entryPath, tableIndex_congr samePage, ih]

/-- Addresses for which one entry of the second level is responsible need the same tables. -/
theorem tablePaths_congr {address other : UInt64}
    (sameEntry : address.toNat / spanOf 2 = other.toNat / spanOf 2) :
    tablePaths address = tablePaths other := by
  have deep : ∀ level ∈ upperLevels, 2 ≤ level := by decide
  rw [tablePaths, tablePaths]
  refine congrArg (tablesAlong []) (List.map_congr_left fun level listed => ?_)
  obtain ⟨lower, rfl⟩ := Nat.exists_eq_add_of_le (deep level listed)
  have span : pageSize * Nat.pow tableSize (2 + lower - 1) =
      spanOf 2 * Nat.pow tableSize lower := by
    have power : Nat.pow tableSize (2 + lower - 1) = tableSize * Nat.pow tableSize lower := by
      rw [Nat.add_comm]
      exact Nat.pow_succ'
    rw [power, ← Nat.mul_assoc]
    rfl
  rw [tableIndex, tableIndex, span, ← Nat.div_div_eq_div_mul, ← Nat.div_div_eq_div_mul, sameEntry]

theorem isCanonical_congr {address other : UInt64}
    (samePage : pageOf address.toNat = pageOf other.toNat) :
    isCanonical address = isCanonical other := by
  rw [pageOf, pageOf, pageSize] at samePage
  rw [isCanonical, isCanonical, decide_eq_decide]
  have lower : 1 <<< 47 = 34359738368 * 4096 := by decide
  have size : UInt64.size = 4503599627370496 * 4096 := by decide
  rw [lower, size]
  omega

/-- The addresses of a page have the same translation. -/
theorem AddressSpace.translation_congr (space : AddressSpace) {address other : UInt64}
    (samePage : pageOf address.toNat = pageOf other.toNat) :
    space.translation address = space.translation other := by
  rw [translation, translation, isCanonical_congr samePage, entryPath_congr samePage]

/-- A frame of physical memory lies in the page of its number. -/
theorem pageOf_frameAddress {number : Nat} (physical : number * pageSize < physicalLimit) :
    pageOf (frameAddress number).toNat = number := by
  rw [toNat_frameAddress physical, pageOf, Nat.mul_div_cancel _ (by decide)]

end KernelStart.Memory
