import KernelStart.Proofs.ControllerStart
import KernelStart.Proofs.PageEntering

/-!
# Mapping a range of device registers

The pages of a range are mapped one after the other, whatever else is mapped.  One page
(`MapsPages.mapDevicePage_outcome`) comes to one of two ends: it has a translation, which is the
old one if there was one and the identity otherwise, and no other page has changed; or the frames
are exhausted and nothing has changed.  So a run over pages (`mapDevicePages_outcome`) leaves an
initial segment of them mapped, and all of them if it succeeds.  Pages that have translations
are passed over without a frame (`mapDevicePages_again`).

The range itself need not begin or end where a page does.  The pages that the run covers are those
that share a byte with it (`overlaps_iff`).
-/

set_option autoImplicit false

namespace KernelStart.Memory

open Program

/-! ## The pages of a range -/

/-- The page shares a byte with the range. -/
def Overlaps (start size : UInt64) (page : Nat) : Prop :=
  page * pageSize < start.toNat + size.toNat ∧ start.toNat < (page + 1) * pageSize

instance (start size : UInt64) (page : Nat) : Decidable (Overlaps start size page) :=
  inferInstanceAs (Decidable (_ ∧ _))

theorem overlaps_iff {start size : UInt64} (nonempty : size ≠ 0) {page : Nat} :
    Overlaps start size page ↔ pageOf start.toNat ≤ page ∧ page ≤ lastPage start size := by
  have positive := toNat_pos nonempty
  have positivePage : 0 < pageSize := by decide
  rw [Overlaps, and_comm, lastPage, pageOf, pageOf, ← Nat.lt_succ_iff,
    Nat.div_lt_iff_lt_mul positivePage, Nat.le_div_iff_mul_le positivePage]
  refine and_congr Iff.rfl ?_
  omega

/-- A range of physical memory that has virtual addresses lies in the lower half. -/
theorem le_lowerHalfEnd {start size : UInt64} (nonempty : size ≠ 0)
    (physical : start.toNat + size.toNat ≤ physicalLimit)
    (canonical : ∀ address : UInt64, start.toNat ≤ address.toNat →
      address.toNat < start.toNat + size.toNat → isCanonical address = true) :
    start.toNat + size.toNat ≤ lowerHalfEnd := by
  refine Nat.le_of_not_lt fun beyond => ?_
  have positive := toNat_pos nonempty
  have fits : physicalLimit < UInt64.size := by decide
  have upperHalf : physicalLimit ≤ UInt64.size - 1 <<< 47 := by decide
  have value : (UInt64.ofNat (start.toNat + size.toNat - 1)).toNat = start.toNat + size.toNat - 1 :=
    UInt64.toNat_ofNat_of_lt' (by omega)
  have last := canonical (UInt64.ofNat (start.toNat + size.toNat - 1)) (by omega) (by omega)
  rw [isCanonical, decide_eq_true_iff, value] at last
  rw [lowerHalfEnd] at beyond
  omega

/-! ## What mapping leaves behind -/

/-- The covered pages are mapped to the frames of the same numbers, but for those that had a
translation; and nothing else has changed. -/
structure DevicesMapped (before after : AddressSpace) (covered : Nat → Prop) : Prop where
  translated : ∀ address, covered (pageOf address.toNat) → after.translation address ≠ none
  fresh : ∀ address, covered (pageOf address.toNat) → before.translation address = none →
    after.translation address = some ⟨frameAddress (pageOf address.toNat), deviceFlags, 1⟩
  kept : ∀ address, before.translation address ≠ none →
    after.translation address = before.translation address
  apart : ∀ address, ¬covered (pageOf address.toNat) →
    after.translation address = before.translation address

namespace DevicesMapped

variable {before middle after : AddressSpace} {covered further : Nat → Prop}

theorem of_unchanged (unchanged : after.translation = before.translation)
    (had : ∀ address, covered (pageOf address.toNat) → before.translation address ≠ none) :
    DevicesMapped before after covered where
  translated := by
    rw [unchanged]
    exact had
  fresh := fun address inside missing => absurd missing (had address inside)
  kept := fun address _ => congrFun unchanged address
  apart := fun address _ => congrFun unchanged address

theorem congr (mapped : DevicesMapped before after covered)
    (same : ∀ page, covered page ↔ further page) : DevicesMapped before after further := by
  obtain rfl : covered = further := funext fun page => propext (same page)
  exact mapped

theorem trans (first : DevicesMapped before middle covered)
    (later : DevicesMapped middle after further) :
    DevicesMapped before after fun page => covered page ∨ further page where
  translated := by
    rintro address (early | late)
    · rw [later.kept address (first.translated address early)]
      exact first.translated address early
    · exact later.translated address late
  fresh := by
    intro address inside missing
    by_cases early : covered (pageOf address.toNat)
    · rw [later.kept address (first.translated address early)]
      exact first.fresh address early missing
    · exact later.fresh address (inside.resolve_left early)
        ((first.apart address early).trans missing)
  kept := by
    intro address had
    have between := first.kept address had
    exact (later.kept address (between ▸ had)).trans between
  apart := by
    intro address outside
    rw [not_or] at outside
    exact (later.apart address outside.2).trans (first.apart address outside.1)

/-- Entering a page with the frame of the same number. -/
theorem of_enters {page : Nat} (physical : page * pageSize < physicalLimit)
    (untranslated : before.translation (frameAddress page) = none)
    (enters : EntersPage before after (frameAddress page) (frameAddress page) deviceFlags) :
    DevicesMapped before after (· = page) := by
  have number := pageOf_frameAddress physical
  have here (address : UInt64) (inside : pageOf address.toNat = page) :
      after.translation address = some ⟨frameAddress page, deviceFlags, 1⟩ :=
    (enters address).trans (if_pos (inside.trans number.symm))
  have elsewhere (address : UInt64) (outside : pageOf address.toNat ≠ page) :
      after.translation address = before.translation address :=
    (enters address).trans (if_neg fun inside => outside (inside.trans number))
  refine ⟨?_, ?_, ?_, elsewhere⟩
  · intro address inside
    rw [here address inside]
    exact Option.some_ne_none _
  · intro address inside _
    rw [inside]
    exact here address inside
  · intro address had
    refine elsewhere address fun inside => had ?_
    rw [before.translation_congr (inside.trans number.symm)]
    exact untranslated

end DevicesMapped

/-! ## One page -/

/-- What becomes of the attempt to map a page of device registers. -/
inductive PageOutcome (before : AddressSpace) (page : Nat) :
    Except MapError Unit → AddressSpace → Prop where
  | mapped {after : AddressSpace} (maps : DevicesMapped before after (· = page)) :
      PageOutcome before page (.ok ()) after
  | exhausted {after : AddressSpace} (unchanged : after.translation = before.translation) :
      PageOutcome before page (.error .frameAllocationFailed) after

section

variable {mapTo : PageMapper} {Sound : AddressSpace → Prop} {space : AddressSpace} {page : Nat}

/-- Pages of the lower half can be mapped to the frames of the same numbers. -/
theorem isPage_frameAddress (low : page * pageSize < lowerHalfEnd) :
    IsPage (frameAddress page) where
  aligned := (isFrame_frameAddress (Nat.lt_trans low (by decide))).aligned
  canonical := (isCanonical_frameAddress (Nat.lt_trans low (by decide))).2 low

theorem physical_of_low (low : page * pageSize < lowerHalfEnd) :
    page * pageSize < physicalLimit := Nat.lt_trans low (by decide)

/-- A page is mapped and flushed; that it has a translation already does no harm. -/
theorem run_mapDevicePage (low : page * pageSize < lowerHalfEnd)
    {answer : Except MapError Unit} {next : AddressSpace}
    (mapped : mapTo (frameAddress page) (frameAddress page) deviceFlags space =
      (.ok answer, next)) :
    (mapDevicePage page).run (AddressSpace.environmentWith mapTo) space =
      match answer with
      | .ok _ => (.ok (.ok ()), { next with flushed := frameAddress page :: next.flushed })
      | .error .frameAllocationFailed => (.ok (.error .frameAllocationFailed), next)
      | .error _ => (.ok (.ok ()), next) := by
  have canonical := (isPage_frameAddress low).canonical
  have asked : (askMapper (.mapPage (frameAddress page) (frameAddress page) deviceFlags)).run
      (AddressSpace.environmentWith mapTo) space = (.ok answer, next) :=
    (run_request ..).trans mapped
  rw [mapDevicePage, if_neg (by simp [canonical]), bind_eq, run_bind_ok asked]
  rcases answer with error | done
  · cases error <;> rfl
  · rfl

/-- The run over a page ends where mapping it does. -/
theorem run_mapDevicePage_stopped (low : page * pageSize < lowerHalfEnd) {stop : Stop}
    {next : AddressSpace}
    (stopped : mapTo (frameAddress page) (frameAddress page) deviceFlags space =
      (.error stop, next)) :
    (mapDevicePage page).run (AddressSpace.environmentWith mapTo) space = (.error stop, next) := by
  have canonical := (isPage_frameAddress low).canonical
  have asked : (askMapper (.mapPage (frameAddress page) (frameAddress page) deviceFlags)).run
      (AddressSpace.environmentWith mapTo) space = (.error stop, next) :=
    (run_request ..).trans stopped
  rw [mapDevicePage, if_neg (by simp [canonical]), bind_eq, run_bind, asked]

namespace MapsPages

variable (maps : MapsPages mapTo deviceFlags Sound) (sound : Sound space)
  (present : space.EntriesPresent)
include maps sound present

/-- A page comes to one of its outcomes. -/
theorem mapDevicePage_outcome (low : page * pageSize < lowerHalfEnd)
    {result : Except MapError Unit} {reached : AddressSpace}
    (ran : (mapDevicePage page).run (AddressSpace.environmentWith mapTo) space =
      (.ok result, reached)) :
    PageOutcome space page result reached ∧ Keeps Sound space reached := by
  rcases mapped : mapTo (frameAddress page) (frameAddress page) deviceFlags space with
    ⟨stop | answer, next⟩
  · rw [run_mapDevicePage_stopped low mapped] at ran
    exact nomatch ran
  obtain ⟨outcome, keeps⟩ := maps.outcome sound present (isPage_frameAddress low)
    (isFrame_frameAddress (physical_of_low low)) mapped
  rw [run_mapDevicePage low mapped] at ran
  cases outcome with
  | entered untranslated enters =>
    cases ran
    have mapped := DevicesMapped.of_enters (physical_of_low low) untranslated enters
    exact ⟨.mapped ⟨mapped.1, mapped.2, mapped.3, mapped.4⟩, maps.flush keeps.sound _,
      keeps.present, keeps.heap, keeps.supply⟩
  | @refused error translated isRefusal unchanged kept =>
    have done : PageOutcome space page (.ok ()) next := by
      refine .mapped (.of_unchanged unchanged fun address here => ?_)
      have number := pageOf_frameAddress (physical_of_low low)
      rw [space.translation_congr (here.trans number.symm)]
      exact translated
    cases error with
    | frameAllocationFailed => exact absurd rfl isRefusal
    | parentIsHuge => cases ran; exact ⟨done, keeps⟩
    | alreadyMapped frame => cases ran; exact ⟨done, keeps⟩
  | exhausted untranslated unchanged =>
    cases ran
    exact ⟨.exhausted unchanged, keeps⟩

/-- A panic can only be one of the supply. -/
theorem mapDevicePage_returns (low : page * pageSize < lowerHalfEnd)
    (answers : space.supply.Answers) :
    ∃ result reached, (mapDevicePage page).run (AddressSpace.environmentWith mapTo) space =
      (.ok result, reached) := by
  obtain ⟨answer, next, mapped⟩ := maps.returns sound present (isPage_frameAddress low)
    (isFrame_frameAddress (physical_of_low low)) (.inl answers)
  rw [run_mapDevicePage low mapped]
  split <;> exact ⟨_, _, rfl⟩

/-- A page with a translation is passed over. -/
theorem mapDevicePage_again (low : page * pageSize < lowerHalfEnd)
    (translated : space.translation (frameAddress page) ≠ none) :
    ∃ reached, (mapDevicePage page).run (AddressSpace.environmentWith mapTo) space =
        (.ok (.ok ()), reached) ∧
      Keeps Sound space reached ∧ reached.supply = space.supply ∧
        reached.translation = space.translation := by
  obtain ⟨answer, next, mapped⟩ := maps.returns sound present (isPage_frameAddress low)
    (isFrame_frameAddress (physical_of_low low)) (.inr translated)
  obtain ⟨outcome, keeps⟩ := maps.outcome sound present (isPage_frameAddress low)
    (isFrame_frameAddress (physical_of_low low)) mapped
  rw [run_mapDevicePage low mapped]
  cases outcome with
  | entered untranslated _ => exact absurd untranslated translated
  | exhausted untranslated _ => exact absurd untranslated translated
  | @refused error _ isRefusal unchanged kept =>
    cases error with
    | frameAllocationFailed => exact absurd rfl isRefusal
    | parentIsHuge => exact ⟨next, rfl, keeps, kept, unchanged⟩
    | alreadyMapped frame => exact ⟨next, rfl, keeps, kept, unchanged⟩

end MapsPages

end

/-! ## Consecutive pages -/

/-- What becomes of the attempt to map `count` pages from the first one on. -/
inductive RangeOutcome (before : AddressSpace) (first count : Nat) :
    Except MapError Unit → AddressSpace → Prop where
  | mapped {after : AddressSpace}
      (maps : DevicesMapped before after fun page => first ≤ page ∧ page < first + count) :
      RangeOutcome before first count (.ok ()) after
  | exhausted {after : AddressSpace} {page : Nat} (behind : first ≤ page)
      (inside : page < first + count)
      (maps : DevicesMapped before after fun other => first ≤ other ∧ other < page) :
      RangeOutcome before first count (.error .frameAllocationFailed) after

/-- A page that is mapped joins what becomes of the pages behind it. -/
theorem RangeOutcome.cons {before middle after : AddressSpace} {first count : Nat}
    {result : Except MapError Unit} (here : DevicesMapped before middle (· = first))
    (later : RangeOutcome middle (first + 1) count result after) :
    RangeOutcome before first (count + 1) result after := by
  cases later with
  | mapped maps => exact .mapped ((here.trans maps).congr fun page => by omega)
  | @exhausted _ page behind inside maps =>
    have joined : DevicesMapped before after fun other => first ≤ other ∧ other < page :=
      (here.trans maps).congr fun other => by omega
    exact .exhausted (by omega) (by omega) joined

namespace MapsPages

variable {mapTo : PageMapper} {Sound : AddressSpace → Prop} {space : AddressSpace}
  {first count : Nat} (maps : MapsPages mapTo deviceFlags Sound) (sound : Sound space)
  (present : space.EntriesPresent)
  (low : ∀ page, first ≤ page → page < first + count → page * pageSize < lowerHalfEnd)
include maps sound present low

/-- The pages come to one of their outcomes. -/
theorem mapDevicePages_outcome {result : Except MapError Unit} {reached : AddressSpace}
    (ran : (mapDevicePages first count).run (AddressSpace.environmentWith mapTo) space =
      (.ok result, reached)) :
    RangeOutcome space first count result reached ∧ Keeps Sound space reached := by
  induction count generalizing first space with
  | zero =>
    cases ran
    exact ⟨.mapped (.of_unchanged rfl fun _ none => by omega), .refl sound present⟩
  | succ count ih =>
    rw [mapDevicePages, bind_eq, run_bind] at ran
    have lowFirst := low first (Nat.le_refl _) (by omega)
    rcases ranFirst : (mapDevicePage first).run (AddressSpace.environmentWith mapTo) space with
      ⟨stop | answer, next⟩
    · rw [ranFirst] at ran
      cases ran
    obtain ⟨outcome, keeps⟩ := maps.mapDevicePage_outcome sound present lowFirst ranFirst
    rw [ranFirst] at ran
    cases outcome with
    | mapped here =>
      obtain ⟨later, laterKeeps⟩ := ih keeps.sound keeps.present
        (fun page behind inside => low page (by omega) (by omega)) ran
      exact ⟨later.cons here, keeps.trans laterKeeps⟩
    | exhausted unchanged =>
      cases ran
      refine ⟨.exhausted (Nat.le_refl first) (by omega) ?_, keeps⟩
      exact .of_unchanged unchanged fun _ none => by omega

/-- Panics can only be those of the supply. -/
theorem mapDevicePages_returns (answers : space.supply.Answers) :
    ∃ result reached, (mapDevicePages first count).run (AddressSpace.environmentWith mapTo) space =
      (.ok result, reached) := by
  induction count generalizing first space with
  | zero => exact ⟨_, space, rfl⟩
  | succ count ih =>
    have lowFirst := low first (Nat.le_refl _) (by omega)
    obtain ⟨answer, next, ran⟩ := maps.mapDevicePage_returns sound present lowFirst answers
    obtain ⟨_, keeps⟩ := maps.mapDevicePage_outcome sound present lowFirst ran
    rw [mapDevicePages, bind_eq, run_bind_ok ran]
    cases answer with
    | error error => exact ⟨_, next, rfl⟩
    | ok _ =>
      exact ih keeps.sound keeps.present (fun page behind inside => low page (by omega) (by omega))
        (keeps.answers answers)

/-- Pages with translations are passed over, and none of them takes a frame. -/
theorem mapDevicePages_again
    (translated : ∀ page, first ≤ page → page < first + count →
      space.translation (frameAddress page) ≠ none) :
    ∃ reached, (mapDevicePages first count).run (AddressSpace.environmentWith mapTo) space =
        (.ok (.ok ()), reached) ∧
      reached.supply = space.supply ∧ reached.translation = space.translation := by
  induction count generalizing first space with
  | zero => exact ⟨space, rfl, rfl, rfl⟩
  | succ count ih =>
    obtain ⟨next, ran, keeps, supply, translation⟩ := maps.mapDevicePage_again sound present
      (low first (Nat.le_refl _) (by omega)) (translated first (Nat.le_refl _) (by omega))
    obtain ⟨reached, later, laterSupply, laterTranslation⟩ := ih keeps.sound keeps.present
      (fun page (behind : first + 1 ≤ page) inside => low page (by omega) (by omega))
      fun page behind inside => by
        rw [translation]
        exact translated page (by omega) (by omega)
    refine ⟨reached, ?_, laterSupply.trans supply, laterTranslation.trans translation⟩
    rw [mapDevicePages, bind_eq, run_bind_ok ran]
    exact later

end MapsPages

/-! ## The range -/

/-- **Mapping device registers covers their range and touches nothing else.**  The range is one of
physical memory that has virtual addresses.  If mapping it succeeds, all pages that share a
byte with it have translations: the old ones where there were any, and otherwise the frames
of the same numbers, uncached.  Mapping it again then succeeds, takes no frame and changes no
translation.  If it fails, the frames are exhausted, and the pages before the one that failed
are as they would have been, those from it on as they were.  It can end in no other way unless
the supply panics. -/
theorem mapDevice_covers_range {mapTo : PageMapper} {Sound : AddressSpace → Prop}
    {space : AddressSpace} {start size : UInt64} (maps : MapsPages mapTo deviceFlags Sound)
    (sound : Sound space) (present : space.EntriesPresent) (nonempty : size ≠ 0)
    (physical : start.toNat + size.toNat ≤ physicalLimit)
    (canonical : ∀ address : UInt64, start.toNat ≤ address.toNat →
      address.toNat < start.toNat + size.toNat → isCanonical address = true) :
    let run := (mapDevice start size).run (AddressSpace.environmentWith mapTo)
    (∀ reached, run space = (.ok (.ok ()), reached) →
      DevicesMapped space reached (Overlaps start size) ∧
        ∃ again, run reached = (.ok (.ok ()), again) ∧ again.supply = reached.supply ∧
          again.translation = reached.translation) ∧
      (∀ error reached, run space = (.ok (.error error), reached) →
        error = .frameAllocationFailed ∧
          ∃ page, Overlaps start size page ∧
            DevicesMapped space reached fun other => Overlaps start size other ∧ other < page) ∧
      (space.supply.Answers → ∃ result reached, run space = (.ok result, reached)) := by
  have bound := le_lowerHalfEnd nonempty physical canonical
  have ordered : pageOf start.toNat ≤ lastPage start size := firstPage_le_lastPage nonempty
  have positive := toNat_pos nonempty
  have covers (page : Nat) : Overlaps start size page ↔ pageOf start.toNat ≤ page ∧
      page < pageOf start.toNat + (lastPage start size + 1 - pageOf start.toNat) := by
    rw [overlaps_iff nonempty]
    omega
  have low : ∀ page, pageOf start.toNat ≤ page →
      page < pageOf start.toNat + (lastPage start size + 1 - pageOf start.toNat) →
        page * pageSize < lowerHalfEnd :=
    fun page behind inside => Nat.lt_of_lt_of_le ((covers page).2 ⟨behind, inside⟩).1 bound
  dsimp only
  rw [mapDevice_eq nonempty physical]
  refine ⟨fun reached ran => ?_, fun error reached ran => ?_, fun answers => ?_⟩
  · obtain ⟨outcome, keeps⟩ := maps.mapDevicePages_outcome sound present low ran
    cases outcome with
    | mapped mapped =>
      have mapped := mapped.congr fun page => (covers page).symm
      refine ⟨mapped, maps.mapDevicePages_again keeps.sound keeps.present low ?_⟩
      intro page behind inside
      refine mapped.translated (frameAddress page) ?_
      rw [pageOf_frameAddress (physical_of_low (low page behind inside))]
      exact (covers page).2 ⟨behind, inside⟩
  · obtain ⟨outcome, -⟩ := maps.mapDevicePages_outcome sound present low ran
    cases outcome with
    | @exhausted _ page behind inside mapped =>
      refine ⟨rfl, page, (covers page).2 ⟨behind, inside⟩, mapped.congr fun other => ?_⟩
      rw [covers other]
      omega
  · exact maps.mapDevicePages_returns sound present low answers

/-! ### A range around a page in use -/

/-- Sixteen frames behind a kernel. -/
def smallMap : MemoryMap := [⟨1, 4, .kernel⟩, ⟨4, 20, .usable⟩]

/-- One page is mapped, to a frame of another number. -/
def occupiedSpace : AddressSpace :=
  (AddressSpace.mapInTables 0xfee01000 0x5000 deviceFlags (.unmapped smallMap)).2

/-- No frame is used twice, and no other page is mapped. -/
theorem occupiedSpace_entered :
    occupiedSpace.Separated ∧ occupiedSpace.EntriesPresent ∧
      EntersPage (.unmapped smallMap) occupiedSpace 0xfee01000 0x5000 deviceFlags := by
  have separated : (AddressSpace.unmapped smallMap).Separated :=
    AddressSpace.separated_unmapped (by decide) (by decide) (by decide)
  have isPage : IsPage 0xfee01000 := ⟨by decide, by decide⟩
  have isFrame : IsFrame 0x5000 := ⟨by decide, by decide⟩
  obtain ⟨result, space, ran, outcome, keeps, -, lacking⟩ := AddressSpace.run_mapInTables separated
    AddressSpace.entriesPresent_unmapped isPage isFrame isLeafFlags_deviceFlags
  rw [occupiedSpace, ran]
  cases outcome with
  | entered _ enters => exact ⟨keeps.sound, keeps.present, enters⟩
  | refused translated => exact absurd (AddressSpace.translation_unmapped _) translated
  | exhausted =>
    obtain ⟨position, inside, nothing⟩ := lacking rfl
    have few := AddressSpace.card_missingTables_le (.unmapped smallMap) 0xfee01000
    have frames : (AddressSpace.unmapped smallMap).freeFrames.length = 16 := by decide
    rw [separated.call_eq, Except.ok.injEq, List.getElem?_eq_none_iff, frames] at nothing
    rw [length_upperLevels] at few
    omega

/-- A range that begins and ends within pages, with the page in use between them. -/
theorem mapDevice_covers_range_occupiedSpace :
    let run := (mapDevice 0xfee00ff8 0x1010).run AddressSpace.environment
    ∃ reached, run occupiedSpace = (.ok (.ok ()), reached) ∧
      reached.translation 0xfee00fff = some ⟨0xfee00000, deviceFlags, 1⟩ ∧
      reached.translation 0xfee01fff = some ⟨0x5000, deviceFlags, 1⟩ ∧
      reached.translation 0xfee02fff = some ⟨0xfee02000, deviceFlags, 1⟩ ∧
      reached.translation 0xfee03000 = none ∧
      ∃ again, run reached = (.ok (.ok ()), again) ∧ again.supply = reached.supply := by
  obtain ⟨separated, present, enters⟩ := occupiedSpace_entered
  rw [← AddressSpace.environmentWith_mapInTables]
  have canonical : ∀ address : UInt64, (0xfee00ff8 : UInt64).toNat ≤ address.toNat →
      address.toNat < (0xfee00ff8 : UInt64).toNat + (0x1010 : UInt64).toNat →
        isCanonical address = true :=
    fun address _ below => decide_eq_true (.inl (Nat.lt_trans below (by decide)))
  obtain ⟨covered, -, -⟩ := mapDevice_covers_range
    (AddressSpace.mapInTables_buildsTables isLeafFlags_deviceFlags).toMapsPages separated present
    (by decide) (by decide) canonical
  have succeeds : ((mapDevice 0xfee00ff8 0x1010).run
      (AddressSpace.environmentWith AddressSpace.mapInTables) occupiedSpace).1 = .ok (.ok ()) := by
    decide +kernel
  rcases ran : (mapDevice 0xfee00ff8 0x1010).run
    (AddressSpace.environmentWith AddressSpace.mapInTables) occupiedSpace with ⟨result, reached⟩
  rw [ran] at succeeds
  obtain rfl : result = .ok (.ok ()) := succeeds
  obtain ⟨mapped, again, ranAgain, supply, -⟩ := covered reached ran
  have elsewhere (address : UInt64) (other : pageOf address.toNat ≠ 0xfee01) :
      occupiedSpace.translation address = none :=
    (enters address).trans ((if_neg other).trans (AddressSpace.translation_unmapped address))
  have occupied : occupiedSpace.translation 0xfee01fff = some ⟨0x5000, deviceFlags, 1⟩ :=
    (enters 0xfee01fff).trans (if_pos (by decide))
  refine ⟨reached, ran, ?_, ?_, ?_, ?_, again, ranAgain, supply⟩
  · exact mapped.fresh 0xfee00fff (by decide) (elsewhere _ (by decide))
  · exact (mapped.kept 0xfee01fff (occupied ▸ Option.some_ne_none _)).trans occupied
  · exact mapped.fresh 0xfee02fff (by decide) (elsewhere _ (by decide))
  · exact (mapped.apart 0xfee03000 (by decide +kernel)).trans (elsewhere _ (by decide))

end KernelStart.Memory
