import KernelStart.Pci.Topology

/-!
# Working off an agenda of buses and functions

The depth-first enumeration is described by recursion on the depth of the bridges.  This
module describes the same enumeration without recursion: there is one agenda, its first
errand is taken care of, and whatever that brings up goes in front of the rest.  Entering
a bus puts its functions on the agenda; recording a bridge puts the bus behind it there.

`Completes` relates an agenda to everything that is recorded until it is empty.  Nothing
is left open by it (`Completes.unique`), and the recursive enumeration is one way to
complete an agenda (`completes_listBus`, `completes_listRoots`).  It follows that the bound
on the depth is never reached: the enumeration obeys the plain recursion
(`listBus_busCount`).

An agenda is also what the stack of positions of a walk in progress stands for, so the
relation is where the walk and the recursion meet.  What an enumeration finds is derived
from it by one induction for each fact.
-/

set_option autoImplicit false

namespace KernelStart.Pci

/-- Something that an enumeration has still to do. -/
inductive Errand where
  | enter (bus : UInt8)
  | record (address : Address)

@[simp] theorem Errand.record_mem_map {addresses : List Address} {address : Address} :
    record address ∈ addresses.map record ↔ address ∈ addresses := by
  simp

@[simp] theorem Errand.enter_mem_map {buses : List UInt8} {bus : UInt8} :
    enter bus ∈ buses.map enter ↔ bus ∈ buses := by
  simp

namespace ConfigSpace

/-- Working off an agenda from the front, starting with the buses of one set entered, records
these devices and ends with the buses of another set entered. -/
inductive Completes (space : ConfigSpace) :
    List Errand → ByteSet → List Device → ByteSet → Prop where
  | done (entered : ByteSet) : Completes space [] entered [] entered
  | skip {bus : UInt8} {rest : List Errand} {entered last : ByteSet} {found : List Device}
      (known : entered.contains bus = true) (later : Completes space rest entered found last) :
      Completes space (.enter bus :: rest) entered found last
  | enter {bus : UInt8} {rest : List Errand} {entered last : ByteSet} {found : List Device}
      (unknown : entered.contains bus = false)
      (later : Completes space ((space.functionsOf bus).map .record ++ rest)
        (entered.insert bus) found last) :
      Completes space (.enter bus :: rest) entered found last
  | record {address : Address} {rest : List Errand} {entered last : ByteSet}
      {found : List Device} (plain : space.isBridge address = false)
      (later : Completes space rest entered found last) :
      Completes space (.record address :: rest) entered (space.device address :: found) last
  | descend {address : Address} {rest : List Errand} {entered last : ByteSet}
      {found : List Device} (bridge : space.isBridge address = true)
      (later : Completes space (.enter (space.secondaryBus address) :: rest) entered found last) :
      Completes space (.record address :: rest) entered (space.device address :: found) last

variable {space : ConfigSpace}

/-- An agenda and the buses entered before decide everything. -/
theorem Completes.unique {agenda : List Errand} {entered last otherLast : ByteSet}
    {found otherFound : List Device} (first : space.Completes agenda entered found last)
    (second : space.Completes agenda entered otherFound otherLast) :
    found = otherFound ∧ last = otherLast := by
  -- The two cases for one errand exclude each other, whatever the second derivation says.
  induction first generalizing otherFound with
  | done _ =>
    cases second
    exact ⟨rfl, rfl⟩
  | skip known _ ih =>
    cases second with
    | skip _ later => exact ih later
    | enter unknown _ => exact absurd (known.symm.trans unknown) (by decide)
  | enter unknown _ ih =>
    cases second with
    | skip known _ => exact absurd (known.symm.trans unknown) (by decide)
    | enter _ later => exact ih later
  | record plain _ ih =>
    cases second with
    | record _ later =>
      obtain ⟨rfl, rfl⟩ := ih later
      exact ⟨rfl, rfl⟩
    | descend bridge _ => exact absurd (bridge.symm.trans plain) (by decide)
  | descend bridge _ ih =>
    cases second with
    | record plain _ => exact absurd (bridge.symm.trans plain) (by decide)
    | descend _ later =>
      obtain ⟨rfl, rfl⟩ := ih later
      exact ⟨rfl, rfl⟩

/-! ## The recursive enumeration completes an agenda -/

/-- A way of listing buses that takes care of the errand to enter one, as long as no more than
`limit` buses have never been entered. -/
def Serves (space : ConfigSpace) (enter : UInt8 → ByteSet → List Device × ByteSet)
    (limit : Nat) : Prop :=
  ∀ (bus : UInt8) (entered : ByteSet), entered.free ≤ limit →
    (enter bus entered).2.free ≤ entered.free ∧
      ∀ {rest : List Errand} {found : List Device} {last : ByteSet},
        space.Completes rest (enter bus entered).2 found last →
          space.Completes (.enter bus :: rest) entered ((enter bus entered).1 ++ found) last

/-- Listing functions takes care of the errands to record them. -/
theorem completes_listFunctions {enter : UInt8 → ByteSet → List Device × ByteSet} {limit : Nat}
    (serves : space.Serves enter limit) (addresses : List Address) (entered : ByteSet)
    (within : entered.free ≤ limit) :
    (space.listFunctions enter addresses entered).2.free ≤ entered.free ∧
      ∀ {rest : List Errand} {found : List Device} {last : ByteSet},
        space.Completes rest (space.listFunctions enter addresses entered).2 found last →
          space.Completes (addresses.map .record ++ rest) entered
            ((space.listFunctions enter addresses entered).1 ++ found) last := by
  induction addresses generalizing entered with
  | nil => exact ⟨Nat.le_refl _, fun later => later⟩
  | cons address addresses ih =>
    by_cases bridge : space.isBridge address = true
    · obtain ⟨less, inside⟩ := serves (space.secondaryBus address) entered within
      obtain ⟨lessLater, onward⟩ :=
        ih (enter (space.secondaryBus address) entered).2 (Nat.le_trans less within)
      simp only [listFunctions, bridge, if_true]
      refine ⟨Nat.le_trans lessLater less, fun later => ?_⟩
      have served := inside (onward later)
      rw [← List.append_assoc] at served
      exact .descend bridge served
    · obtain ⟨less, onward⟩ := ih entered within
      have plain : space.isBridge address = false := Bool.eq_false_iff.2 bridge
      simp only [listFunctions, plain, Bool.false_eq_true, if_false]
      exact ⟨less, fun later => .record plain (onward later)⟩

/-- Listing a bus takes care of the errand to enter it, if the depth allows for every bus that
was never entered. -/
theorem completes_listBus (space : ConfigSpace) (depth : Nat) :
    space.Serves (space.listBus depth) depth := by
  induction depth with
  | zero =>
    intro bus entered within
    have known := ByteSet.contains_of_free_eq_zero (Nat.le_zero.1 within) bus
    exact ⟨Nat.le_refl _, fun later => .skip known later⟩
  | succ depth ih =>
    intro bus entered within
    by_cases known : entered.contains bus = true
    · simp only [listBus, known, if_true]
      exact ⟨Nat.le_refl _, fun later => .skip known later⟩
    · have unknown : entered.contains bus = false := Bool.eq_false_iff.2 known
      have fewer := ByteSet.free_insert_lt unknown
      obtain ⟨less, onward⟩ :=
        completes_listFunctions ih (space.functionsOf bus) (entered.insert bus) (by omega)
      simp only [listBus, unknown, Bool.false_eq_true, if_false]
      exact ⟨Nat.le_trans less (Nat.le_of_lt fewer), fun later => .enter unknown (onward later)⟩

/-- Listing a bus completes the agenda that only asks to enter it, at any depth that allows for
every bus that was never entered. -/
theorem completes_enter (space : ConfigSpace) {depth : Nat} (bus : UInt8) {entered : ByteSet}
    (within : entered.free ≤ depth) :
    space.Completes [.enter bus] entered (space.listBus depth bus entered).1
      (space.listBus depth bus entered).2 := by
  have served := (completes_listBus space depth bus entered within).2 (.done _)
  rwa [List.append_nil] at served

/-- The bound on the depth is never reached: listing a bus obeys the plain recursion. -/
theorem listBus_busCount (space : ConfigSpace) (bus : UInt8) (entered : ByteSet) :
    space.listBus busCount bus entered =
      if entered.contains bus then ([], entered)
      else space.listFunctions (space.listBus busCount) (space.functionsOf bus)
        (entered.insert bus) := by
  have within : entered.free ≤ busCount := entered.free_le
  have once := completes_enter space bus within
  have deeper := completes_enter space bus (Nat.le_succ_of_le within)
  obtain ⟨sameFound, sameLast⟩ := once.unique deeper
  exact Prod.ext sameFound sameLast

/-- Listing root buses completes the agenda that asks to enter them. -/
theorem completes_listRoots (space : ConfigSpace) (roots : List UInt8) (entered : ByteSet) :
    space.Completes (roots.map .enter) entered (space.listRoots roots entered)
      (space.enterRoots roots entered) := by
  induction roots generalizing entered with
  | nil => exact .done entered
  | cons bus rest ih =>
    have later := ih (space.listBus busCount bus entered).2
    exact (completes_listBus space busCount bus entered entered.free_le).2 later

end ConfigSpace

end KernelStart.Pci
