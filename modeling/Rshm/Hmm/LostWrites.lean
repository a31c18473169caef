import Rshm.Hmm.HomePages
import Rshm.Hmm.WriteRequests

/-!
# Device writes across migrations to the device

`dmirror_do_write` writes to the page that the entry of the mirror names.
`dmirror_migrate_alloc_and_copy` copies the page of the process, and the entry
names the page before until `dmirror_migrate_finalize_and_map` replaces it.
`lastWrite` is what the last critical section of `dmirror_do_write` has
written at an address.
-/

namespace Rshm.Hmm

open RangeLoop

variable {Contents : Type}

namespace World

variable {world next : World Contents}

/-- What the process and the mirrors find at an address is what was last
written there. -/
def ShowsLastWrite (world : World Contents) : Prop :=
  ∀ mm pfn,
    (∀ page writable, world.cpu mm pfn = .present page writable →
      ∃ home, world.mem.backingPage page = some home ∧
        world.mem.contents home = world.lastWrite mm pfn) ∧
    ∀ m dmirror entry, world.dmirror m = some dmirror → dmirror.mm = mm →
      dmirror.pt pfn = some entry →
      world.mem.contents entry.page = world.lastWrite mm pfn

/-- The page of an address has what was last written there, and an address
without a page, like the zero page, has zeroes. -/
structure HomesCurrent [Zero Contents] (world : World Contents) : Prop where
  homes : ∀ mm pfn page, world.Home mm pfn page →
    world.mem.contents page = world.lastWrite mm pfn
  empty : ∀ mm pfn, world.cpu mm pfn = .none → world.lastWrite mm pfn = 0
  zero : world.mem.contents .zero = 0

/-- A state to start from: at most one mirror, whose page table may be any
that agrees with the page table of its process. -/
structure Ready [Zero Contents] (world : World Contents) : Prop where
  owned : world.PagesOwned
  idle : world.Idle
  single : world.Single
  entries : ∀ m dmirror pfn entry, world.dmirror m = some dmirror →
    dmirror.pt pfn = some entry → world.PointsTo dmirror.mm pfn entry
  zeroReadOnly : world.ZeroReadOnly
  current : world.HomesCurrent

/-- Every page that has been migrated still has what was copied from it. -/
def CopyCurrent (world : World Contents) (migration : Migration) : Prop :=
  ∀ pfn target rpage, (migration.slots pfn).moved = true →
    (migration.slots pfn).dst.page = some target →
    world.mem.backingPage target = some rpage →
    world.mem.contents rpage =
      world.mem.contents ((migration.slots pfn).src.page.getD .zero)

/-- When a map update replaces the entries, the pages still have what was
copied from them, and it replaces the entries of all of them. -/
def WritesBeforeOrAfter (world : World Contents) (input : Input Contents) :
    Prop :=
  world.WritesAndMigrations input ∧ ∀ id xaFails migration,
    input = .finalizeAndMap id xaFails →
    world.migrations id = some migration →
    world.CopyCurrent migration ∧ world.StoresEntries migration xaFails

theorem MovesTracked.landed_occupied (tracked : world.MovesTracked)
    {id pfn : Nat} {migration : Migration}
    (there : world.migrations id = some migration)
    (landed : migration.landed pfn = true) :
    world.cpu migration.mm pfn ≠ .none := by
  intro unmapped
  rcases tracked.owned.landed_pte there landed with
    ⟨held, writable, -, entry⟩ | ⟨target, writable, -, -, -, entry⟩
  · rw [unmapped] at entry
    cases entry
  · rw [unmapped] at entry
    cases entry

theorem Home.occupied (tracked : world.MovesTracked) {mm pfn : Nat}
    {page : Page} (home : world.Home mm pfn page) :
    world.cpu mm pfn ≠ .none := by
  cases home with
  | settled held still mapped backing =>
      intro unmapped
      rw [unmapped] at mapped
      cases mapped
  | migrated id migration there process landed stage source =>
      exact process ▸ tracked.landed_occupied there landed
  | mapped id migration target there process landed stage aimed backing =>
      exact process ▸ tracked.landed_occupied there landed

/-- A step that changes neither the page of an address nor a migration that
has given it another one. -/
theorem Home.before (tracked : world.MovesTracked) {mm pfn : Nat}
    {page : Page} (home : next.Home mm pfn page)
    (pte : (next.cpu mm pfn).page = (world.cpu mm pfn).page)
    (links : ∀ held, held ∈ world.mem.inUse ∨ held = .zero →
      next.mem.backingPage held = world.mem.backingPage held)
    (same : ∀ id migration, migration.mm = mm →
      migration.landed pfn = true →
      (next.migrations id = some migration ↔
        world.migrations id = some migration)) :
    world.Home mm pfn page := by
  have owned : world.PagesOwned := tracked.owned
  cases home with
  | settled held still mapped backing =>
      rw [pte] at mapped
      rw [links held (owned.mapped mapped)] at backing
      refine .settled held ?_ mapped backing
      intro id migration there process
      cases landed : migration.landed pfn with
      | false => rfl
      | true =>
          have still := still id migration
            ((same id migration process landed).mpr there) process
          rw [landed] at still
          cases still
  | migrated id migration there process landed stage source =>
      exact .migrated id migration
        ((same id migration process landed).mp there) process landed stage
        source
  | mapped id migration target there process landed stage aimed backing =>
      have there := (same id migration process landed).mp there
      rw [links target (.inl (owned.landed_used there landed aimed))]
        at backing
      exact .mapped id migration target there process landed stage aimed
        backing

/-- One migration takes a step, and has given the address no other page. -/
theorem landed_iff {mm pfn id : Nat} {migration : Option Migration}
    (migrations : next.migrations =
      Function.update world.migrations id migration)
    (before : ∀ found, world.migrations id = some found → found.mm = mm →
      found.landed pfn = false)
    (after : ∀ found, migration = some found → found.mm = mm →
      found.landed pfn = false) (other : Nat) (found : Migration)
    (process : found.mm = mm) (landed : found.landed pfn = true) :
    next.migrations other = some found ↔
      world.migrations other = some found := by
  rw [migrations]
  by_cases here : other = id
  · subst here
    rw [Function.update_self]
    constructor
    · intro same
      rw [after found same process] at landed
      cases landed
    · intro same
      rw [before found same process] at landed
      cases landed
  · rw [Function.update_of_ne here]

/-- A step that writes to no page with the data of an address. -/
theorem HomesCurrent.advance [Zero Contents] (current : world.HomesCurrent)
    (tracked : world.MovesTracked) (forward : world.Forward)
    (homes : ∀ mm pfn page, next.Home mm pfn page →
      world.Home mm pfn page ∨
        next.mem.contents page = world.lastWrite mm pfn)
    (kept : ∀ page, page = .zero ∨ page ∈ world.mem.inUse →
      next.mem.contents page = world.mem.contents page)
    (written : next.lastWrite = world.lastWrite)
    (empty : ∀ mm pfn, next.cpu mm pfn = .none →
      world.cpu mm pfn = .none) : next.HomesCurrent := by
  constructor
  · intro mm pfn page home
    rw [written]
    rcases homes mm pfn page home with before | same
    · rw [kept page (before.used tracked forward)]
      exact current.homes mm pfn page before
    · exact same
  · intro mm pfn unmapped
    rw [written]
    exact current.empty mm pfn (empty mm pfn unmapped)
  · rw [kept .zero (.inl rfl)]
    exact current.zero

theorem HomesCurrent.of_same [Zero Contents] (current : world.HomesCurrent)
    (tracked : world.MovesTracked) (forward : world.Forward)
    (pages : world.SamePages next)
    (contents : next.mem.contents = world.mem.contents)
    (written : next.lastWrite = world.lastWrite) : next.HomesCurrent := by
  refine current.advance tracked forward ?_ ?_ written ?_
  · intro mm pfn page home
    refine .inl (home.before tracked (by rw [pages.cpu]) ?_ ?_)
    · intro held _
      simp only [Memory.backingPage, pages.links]
    · intro id migration _ _
      rw [pages.migrations]
  · intro page _
    rw [contents]
  · intro mm pfn unmapped
    rwa [pages.cpu] at unmapped

/-- The pages written by `dmirror_do_write` when no two entries name one
page. -/
theorem dmirrorDoWrite_spec (pt : XArray) (count first : Nat)
    (mem : Memory Contents) (bounce : DmirrorBounce Contents)
    (apart : ∀ pfn pfn' page, pt pfn = some ⟨page, .write⟩ →
      pt pfn' = some ⟨page, .write⟩ → pfn = pfn') :
    let after := (dmirrorDoWrite pt count first (mem, bounce)).1
    ∃ done, done ≤ count ∧ after.2.cpages = bounce.cpages + done ∧
      (∀ pfn, first ≤ pfn → pfn < first + done →
        ∃ page, pt pfn = some ⟨page, .write⟩ ∧
          after.1.contents page = bounce.ptr (pfn - bounce.addr)) ∧
      ∀ page, (∀ pfn, first ≤ pfn → pfn < first + done →
          pt pfn ≠ some ⟨page, .write⟩) →
        after.1.contents page = mem.contents page := by
  intro after
  let holds (index : Nat)
      (state : Memory Contents × DmirrorBounce Contents) : Prop :=
    first ≤ index ∧
      state.2 = { bounce with cpages := bounce.cpages + (index - first) } ∧
      (∀ pfn, first ≤ pfn → pfn < index →
        ∃ page, pt pfn = some ⟨page, .write⟩ ∧
          state.1.contents page = bounce.ptr (pfn - bounce.addr)) ∧
      ∀ page, (∀ pfn, first ≤ pfn → pfn < index →
          pt pfn ≠ some ⟨page, .write⟩) →
        state.1.contents page = mem.contents page
  suffices loop : ∃ done, done ≤ count ∧ holds (first + done) after by
    obtain ⟨done, short, -, counted, written, kept⟩ := loop
    refine ⟨done, short, ?_, written, kept⟩
    rw [counted]
    dsimp only
    omega
  apply forRange_induction holds
  · refine ⟨Nat.le_refl first, by simp, ?_, ?_⟩
    · intro pfn lower upper
      omega
    · intro page _
      rfl
  · rintro index ⟨mem', bounce'⟩ _ _ ⟨lower, counted, written, kept⟩
    have counted : bounce' =
      { bounce with cpages := bounce.cpages + (index - first) } := counted
    subst counted
    dsimp only
    split
    · next page found =>
      refine ⟨fun _ => ⟨by omega, ?_, ?_, ?_⟩, nofun⟩
      · have shift : index - first + 1 = index + 1 - first := by omega
        simp only [Nat.add_assoc, shift]
      · intro pfn lower' upper
        by_cases here : pfn = index
        · subst here
          exact ⟨page, found, Function.update_self ..⟩
        · obtain ⟨page', found', stored⟩ := written pfn lower' (by omega)
          refine ⟨page', found', ?_⟩
          have different : page' ≠ page := by
            rintro rfl
            exact here (apart pfn index page' found' found)
          exact (Function.update_of_ne different ..).trans stored
      · intro page' untouched
        have different : page' ≠ page := by
          rintro rfl
          exact untouched index lower (by omega) found
        refine (Function.update_of_ne different ..).trans (kept page' ?_)
        intro pfn lower' upper
        exact untouched pfn lower' (by omega)
    · exact ⟨nofun, fun _ => ⟨lower, rfl, written, kept⟩⟩

/-- An entry that can be written through names a page with the data of its
address, which is not the zero page. -/
theorem Located.writable_home (located : world.Located)
    (tracked : world.MovesTracked) (zero : world.ZeroReadOnly)
    {m : Nat} {dmirror : Dmirror} {pfn : Nat} {page : Page}
    (present : world.dmirror m = some dmirror)
    (found : dmirror.pt pfn = some ⟨page, .write⟩) :
    page ≠ .zero ∧ world.Home dmirror.mm pfn page := by
  refine ⟨?_, located.home tracked present found⟩
  intro same
  exact zero.entries m dmirror pfn ⟨page, .write⟩ present found same rfl

theorem Located.writable_apart (located : world.Located)
    (tracked : world.MovesTracked) (forward : world.Forward)
    (zero : world.ZeroReadOnly) {m : Nat} {dmirror : Dmirror}
    (present : world.dmirror m = some dmirror) (pfn pfn' : Nat) (page : Page)
    (found : dmirror.pt pfn = some ⟨page, .write⟩)
    (found' : dmirror.pt pfn' = some ⟨page, .write⟩) : pfn = pfn' := by
  obtain ⟨nonzero, here⟩ := located.writable_home tracked zero present found
  obtain ⟨-, there⟩ := located.writable_home tracked zero present found'
  exact (here.apart tracked forward nonzero there).2

theorem HomesCurrent.doWrite [Zero Contents] (current : world.HomesCurrent)
    (tracked : world.MovesTracked) (forward : world.Forward)
    (located : world.Located) (zero : world.ZeroReadOnly)
    {m count first : Nat} {bounce : DmirrorBounce Contents}
    (moved : world.doWrite m count first bounce = some next) :
    next.HomesCurrent := by
  have pages := SamePages.doWrite moved
  obtain ⟨dmirror, present, rfl⟩ := Option.map_eq_some_iff.mp moved
  have home {pfn : Nat} {page : Page}
      (found : dmirror.pt pfn = some ⟨page, .write⟩) :
      page ≠ .zero ∧ world.Home dmirror.mm pfn page :=
    located.writable_home tracked zero present found
  obtain ⟨done, -, counted, written, kept⟩ := dmirrorDoWrite_spec dmirror.pt
    count first world.mem bounce
    (located.writable_apart tracked forward zero present)
  dsimp only at pages
  generalize (dmirrorDoWrite dmirror.pt count first (world.mem, bounce)).1 =
    after at pages counted written kept ⊢
  have inside (pfn : Nat) :
      (first ≤ pfn ∧ pfn + bounce.cpages < first + after.2.cpages) ↔
        first ≤ pfn ∧ pfn < first + done := by
    rw [counted]
    omega
  simp only [inside] at pages ⊢
  refine ⟨?_, ?_, ?_⟩
  · intro mm pfn page later
    have before : world.Home mm pfn page := by
      refine later.before tracked rfl ?_ fun _ _ _ _ => Iff.rfl
      intro held _
      have links : after.1.zoneDeviceData = world.mem.zoneDeviceData :=
        pages.links
      simp only [Memory.backingPage, links]
    dsimp only
    by_cases own : mm = dmirror.mm ∧ first ≤ pfn ∧ pfn < first + done
    · obtain ⟨rfl, lower, upper⟩ := own
      obtain ⟨page', found, stored⟩ := written pfn lower upper
      obtain rfl := before.same tracked (home found).2
      rw [Function.update_self, if_pos ⟨lower, upper⟩]
      exact stored
    · have same : Function.update world.lastWrite dmirror.mm (fun pfn =>
          if first ≤ pfn ∧ pfn < first + done then
            bounce.ptr (pfn - bounce.addr)
          else world.lastWrite dmirror.mm pfn) mm pfn =
          world.lastWrite mm pfn := by
        by_cases process : mm = dmirror.mm
        · subst process
          rw [Function.update_self, if_neg fun within => own ⟨rfl, within⟩]
        · rw [Function.update_of_ne process]
      rw [same, kept page, current.homes mm pfn page before]
      intro pfn' lower upper found
      obtain ⟨nonzero, there⟩ := home found
      obtain ⟨rfl, rfl⟩ := before.apart tracked forward nonzero there
      exact own ⟨rfl, lower, upper⟩
  · intro mm pfn unmapped
    have unmapped : world.cpu mm pfn = .none := unmapped
    dsimp only
    by_cases process : mm = dmirror.mm
    · subst process
      rw [Function.update_self]
      split
      · next within =>
        obtain ⟨page, found, -⟩ := written pfn within.1 within.2
        exact absurd unmapped ((home found).2.occupied tracked)
      · exact current.empty _ pfn unmapped
    · rw [Function.update_of_ne process]
      exact current.empty mm pfn unmapped
  · refine (kept .zero ?_).trans current.zero
    intro pfn _ _ found
    exact (home found).1 rfl

theorem HomesCurrent.fill [Zero Contents] (current : world.HomesCurrent)
    (tracked : world.MovesTracked) (forward : world.Forward)
    {mm pfn : Nat} {page : Page} {writable : Bool}
    (unmapped : world.cpu mm pfn = .none)
    (plain : page.isDevicePrivatePage = false)
    (cpu : next.cpu = (world.setCpu mm pfn (.present page writable)).cpu)
    (migrations : next.migrations = world.migrations)
    (links : next.mem.zoneDeviceData = world.mem.zoneDeviceData)
    (written : next.lastWrite = world.lastWrite)
    (zeroes : next.mem.contents page = 0)
    (kept : ∀ held, held = .zero ∨ held ∈ world.mem.inUse →
      next.mem.contents held = world.mem.contents held) :
    next.HomesCurrent := by
  refine current.advance tracked forward ?_ kept written ?_
  · intro mm' pfn' held home
    by_cases here : mm' = mm ∧ pfn' = pfn
    · obtain ⟨rfl, rfl⟩ := here
      refine .inr ?_
      rw [current.empty mm' pfn' unmapped, ← zeroes]
      cases home with
      | settled found still mapped backing =>
          rw [cpu] at mapped
          simp only [World.setCpu, Function.update_self, Pte.page_present,
            Option.some.injEq] at mapped
          subst mapped
          simp only [Memory.backingPage, plain, Bool.false_eq_true, if_false,
            Option.some.injEq] at backing
          rw [backing]
      | migrated id migration there process landed stage source =>
          rw [migrations] at there
          subst process
          exact absurd unmapped (tracked.landed_occupied there landed)
      | mapped id migration target there process landed stage aimed backing =>
          rw [migrations] at there
          subst process
          exact absurd unmapped (tracked.landed_occupied there landed)
    · refine .inl (home.before tracked ?_ ?_ ?_)
      · rw [cpu]
        exact congrArg Pte.page (setCpu_page mm pfn _ _ _ here)
      · intro found _
        simp only [Memory.backingPage, links]
      · intro id migration _ _
        rw [migrations]
  · intro mm' pfn' unmapped'
    by_cases here : mm' = mm ∧ pfn' = pfn
    · obtain ⟨rfl, rfl⟩ := here
      exact unmapped
    · rw [cpu] at unmapped'
      exact (setCpu_page mm pfn _ _ _ here).symm.trans unmapped'

theorem HomesCurrent.setup [Zero Contents] (current : world.HomesCurrent)
    (tracked : world.MovesTracked) (forward : world.Forward) {id m : Nat}
    {flags : MigrateVmaDirection} {vmWrite : Bool} {count first : Nat}
    {collected : Nat → Bool}
    (moved : world.setup id m flags vmWrite count first collected =
      some next) : next.HomesCurrent := by
  obtain ⟨dmirror, -, unused, rfl⟩ := setup_begun moved
  have page (mm pfn : Nat) : ((world.migrateSetup id m dmirror.mdevice
      dmirror.mm flags vmWrite count first collected).cpu mm pfn).page =
        (world.cpu mm pfn).page := by
    by_cases here : mm = dmirror.mm
    · subst here
      simp only [World.migrateSetup, setMigration, Function.update_self]
      exact migrateVmaSetup_page _ _ _ _ _ _ _
    · simp [World.migrateSetup, setMigration, Function.update_of_ne here]
  refine current.advance tracked forward ?_ (fun _ _ => rfl) rfl ?_
  · intro mm pfn held home
    refine .inl (home.before tracked (page mm pfn) (fun _ _ => rfl)
      (landed_iff rfl ?_ ?_))
    · intro found there
      rw [unused] at there
      cases there
    · intro found begun _
      cases begun
      simp [Migration.landed]
  · intro mm pfn unmapped
    have same := page mm pfn
    rw [unmapped] at same
    cases entry : world.cpu mm pfn with
    | none => rfl
    | present held writable =>
        rw [entry] at same
        cases same
    | migration held writable =>
        rw [entry] at same
        cases same

theorem dmirrorMigrateAllocAndCopy_zero [Zero Contents]
    (mdevice dmirror : Nat) (vmWrite : Bool)
    (alloc : Nat → Option (Nat × Nat)) (count first : Nat)
    (state : (Nat → MigrateSlot) × Memory Contents) :
    (dmirrorMigrateAllocAndCopy mdevice dmirror vmWrite alloc count first
      state).2.contents .zero = state.2.contents .zero := by
  apply forEach_keeps (fun after : (Nat → MigrateSlot) × Memory Contents =>
    after.2.contents .zero = state.2.contents .zero)
  · rfl
  · rintro index ⟨slots, mem⟩ _ _ held
    rcases dmirrorMigrateAllocAndCopyOne_cases mdevice dmirror vmWrite alloc
        index slots mem with same | ⟨dpfn, rpfn, -, -, -, taken⟩
    · rw [same]
      exact held
    · rw [taken]
      have different : Page.zero ≠ .normal rpfn := by
        intro same
        cases same
      dsimp only
      rw [Function.update_of_ne different]
      exact held

theorem HomesCurrent.allocAndCopy [Zero Contents]
    (current : world.HomesCurrent) (tracked : world.MovesTracked)
    (forward : world.Forward) {id : Nat} {alloc : Nat → Option (Nat × Nat)}
    (moved : world.allocAndCopy id alloc = some next) :
    next.HomesCurrent := by
  obtain ⟨migration, after, there, -, stage, copied, rfl⟩ :=
    allocAndCopy_copied moved
  have grown : world.mem.Extends after.2 := by
    rw [copied]
    exact dmirrorMigrateAllocAndCopy_extends migration.npages migration.first
      (migration.slots, world.mem)
  have zeroes : after.2.contents .zero = world.mem.contents .zero := by
    rw [copied]
    exact dmirrorMigrateAllocAndCopy_zero _ _ _ _ _ _ _
  refine current.advance tracked forward ?_ ?_ rfl fun _ _ unmapped =>
    unmapped
  · intro mm pfn held home
    refine .inl (home.before tracked rfl ?_ (landed_iff rfl ?_ ?_))
    · intro found used
      rcases used with used | rfl
      · exact grown.backingPage used
      · rfl
    · intro found known _
      rw [there, Option.some.injEq] at known
      subst known
      simp [Migration.landed, stage]
    · intro found known _
      cases known
      simp [Migration.landed]
  · intro held used
    rcases used with rfl | used
    · exact zeroes
    · exact grown.contents held used

theorem HomesCurrent.copyCurrent [Zero Contents]
    (current : world.HomesCurrent) (tracked : world.MovesTracked) {id : Nat}
    {alloc : Nat → Option (Nat × Nat)}
    (moved : world.allocAndCopy id alloc = some next) (later : Migration)
    (known : next.migrations id = some later) : next.CopyCurrent later := by
  obtain ⟨migration, after, there, -, stage, copied, rfl⟩ :=
    allocAndCopy_copied moved
  simp only [setMigration, Function.update_self, Option.some.injEq] at known
  subst known
  have used : ∀ pfn page, (migration.slots pfn).src.page = some page →
      page ∈ world.mem.inUse := by
    intro pfn page source
    exact tracked.owned.exclusive.alive (.src id pfn) page
      ⟨migration, there, source⟩
  have grown : world.mem.Extends after.2 := by
    rw [copied]
    exact dmirrorMigrateAllocAndCopy_extends migration.npages migration.first
      (migration.slots, world.mem)
  have zeroes : after.2.contents .zero = 0 := by
    rw [copied, dmirrorMigrateAllocAndCopy_zero]
    exact current.zero
  intro pfn target rpage _ aimed backing
  have aimed : (after.1 pfn).dst.page = some target := aimed
  have backing : after.2.backingPage target = some rpage := backing
  change after.2.contents rpage =
    after.2.contents ((after.1 pfn).src.page.getD .zero)
  have slots := dmirrorMigrateAllocAndCopy_cases migration.pgmapOwner
    migration.dmirror migration.vmWrite alloc migration.npages
    migration.first used pfn
  rw [← copied] at slots
  rcases slots with same | ⟨source, dpfn, rpfn, made⟩
  · rw [same, tracked.apart.untargeted id migration pfn there stage] at aimed
    cases aimed
  · rw [made.dst, Option.some.injEq] at aimed
    subst aimed
    rw [made.backing, Option.some.injEq] at backing
    subst backing
    rw [made.bytes, source]
    cases held : (migration.slots pfn).src.page with
    | none => exact zeroes.symm
    | some page => exact (grown.contents page (used pfn page held)).symm

/-- `migrate_vma_pages` leaves the data of an address where it is. -/
theorem HomesCurrent.pages [Zero Contents] (current : world.HomesCurrent)
    (tracked : world.MovesTracked) (forward : world.Forward)
    (after : next.MovesTracked) {id : Nat} {migrated : Nat → Bool}
    (moved : world.pages id migrated = some next) : next.HomesCurrent := by
  obtain ⟨migration, outcome, there, stage, made, rfl⟩ :=
    pages_migrated moved
  have at_ := migrateVmaPages_at tracked.owned there migrated
  rw [← made] at at_
  let later : Migration :=
    { migration with slots := outcome.2, stage := .migrated }
  have changed : ((world.remap migration.mm outcome.1).setMigration id
      (some later)).migrations id = some later := Function.update_self ..
  have landed_moved (pfn : Nat) : later.landed pfn = (outcome.2 pfn).moved :=
    by simp [later, Migration.landed]
  have uncopied (found : Migration) (known : world.migrations id = some found)
      (pfn : Nat) : found.landed pfn = false := by
    rw [there, Option.some.injEq] at known
    subst known
    simp [Migration.landed, stage]
  refine current.advance tracked forward ?_ (fun _ _ => rfl) rfl ?_
  · intro mm pfn page home
    by_cases lands : mm = migration.mm ∧ (outcome.2 pfn).moved = true
    · obtain ⟨rfl, lands⟩ := lands
      have landed : later.landed pfn = true := by
        rw [landed_moved]
        exact lands
      obtain rfl := home.same after
        (.migrated id later changed rfl landed rfl rfl)
      have still : world.Still migration.mm pfn := by
        intro other found known process
        cases already : found.landed pfn with
        | false => rfl
        | true =>
            by_cases here : other = id
            · subst here
              rw [uncopied found known pfn] at already
              cases already
            · have same := after.apart.alone other id found later pfn
                ((Function.update_of_ne here ..).trans known) changed process
                already landed
              exact absurd same here
      obtain ⟨-, sources, ⟨-, hole⟩ | ⟨-, -, source, free, -, -⟩⟩ := at_ pfn
      · cases source : (outcome.2 pfn).src.page with
        | none =>
            rw [hole source] at lands
            cases lands
        | some held =>
            have kept := sources.symm.trans source
            obtain ⟨writable, locked⟩ :=
              tracked.owned.unmapped id migration pfn held there kept
            have kind := (tracked.apart.system id migration pfn held there
              (forward id migration there) kept).2
            refine .inl (.settled held still (by rw [locked]; rfl) ?_)
            simp [Memory.backingPage, kind]
      · -- An empty address, or one with the zero page.
        have named : later.slots = outcome.2 := rfl
        rw [named, sources, source]
        cases entry : world.cpu migration.mm pfn with
        | none =>
            refine .inr ?_
            rw [current.empty _ pfn entry]
            exact current.zero
        | migration held writable =>
            rw [entry] at free
            cases free
        | present held writable =>
            rw [entry] at free
            cases held with
            | zero => exact .inl (.settled .zero still (by rw [entry]; rfl) rfl)
            | _ => cases free
    · refine .inl (home.before tracked ?_ (fun _ _ => rfl) (landed_iff rfl
        (fun found known _ => uncopied found known pfn) ?_))
      · by_cases process : mm = migration.mm
        · subst process
          simp only [setMigration, World.remap, Function.update_self]
          rcases (at_ pfn).2.2 with ⟨stays, -⟩ | ⟨-, -, -, -, landed, -⟩
          · rw [stays]
          · exact absurd ⟨rfl, landed⟩ lands
        · simp [setMigration, World.remap, Function.update_of_ne process]
      · intro found same process
        cases same
        refine (landed_moved pfn).trans ?_
        rw [← Bool.not_eq_true]
        exact fun landed => lands ⟨process.symm, landed⟩
  · intro mm pfn unmapped
    by_cases process : mm = migration.mm
    · subst process
      simp only [setMigration, World.remap, Function.update_self] at unmapped
      rcases (at_ pfn).2.2 with ⟨stays, -⟩ | ⟨newpage, -, -, -, -, put⟩
      · exact stays.symm.trans unmapped
      · rw [put] at unmapped
        cases unmapped
    · simpa [setMigration, World.remap, Function.update_of_ne process]
        using unmapped

theorem HomesCurrent.finalizeAndMap [Zero Contents]
    (current : world.HomesCurrent) (tracked : world.MovesTracked)
    (forward : world.Forward) (after : next.MovesTracked) {id : Nat}
    {xaFails : Nat → Bool}
    (copies : ∀ migration, world.migrations id = some migration →
      world.CopyCurrent migration)
    (moved : world.finalizeAndMap id xaFails = some next) :
    next.HomesCurrent := by
  obtain ⟨migration, there, toDevice, stage, ⟨-, rfl⟩ | ⟨dmirror, pt,
    present, -, rfl⟩⟩ := finalizeAndMap_mapped moved
  · exact current.of_same tracked forward ⟨rfl, rfl, rfl, rfl⟩ rfl rfl
  · let later : Migration := { migration with stage := .mapped }
    have changed : ((world.setPt migration.dmirror dmirror pt).setMigration id
        (some later)).migrations id = some later := Function.update_self ..
    have landed_same (pfn : Nat) :
        later.landed pfn = migration.landed pfn := by
      simp [later, Migration.landed, stage]
    refine current.advance tracked forward ?_ (fun _ _ => rfl) rfl
      fun _ _ unmapped => unmapped
    intro mm pfn page home
    by_cases lands : mm = migration.mm ∧ migration.landed pfn = true
    · obtain ⟨rfl, landed⟩ := lands
      obtain ⟨-, target, aimed⟩ := Migration.landed_moved landed
      have used := tracked.owned.landed_used there landed aimed
      have device := tracked.apart.device id migration pfn target there
        toDevice aimed
      obtain ⟨frame, link⟩ := tracked.owned.backed target used device
      have backing : world.mem.backingPage target = some (.normal frame) := by
        simp [Memory.backingPage, device, link]
      obtain rfl := home.same after (.mapped id later target changed rfl
        ((landed_same pfn).trans landed) rfl aimed backing)
      refine .inr ?_
      have moved_ : (migration.slots pfn).moved = true := by
        simpa [Migration.landed, stage] using landed
      have same := copies migration there pfn target (.normal frame) moved_
        aimed backing
      refine Eq.trans same ?_
      exact current.homes migration.mm pfn _
        (.migrated id migration there rfl landed stage rfl)
    · have unlanded : ∀ found : Migration, found.mm = mm →
          found.mm = migration.mm → found.landed pfn = migration.landed pfn →
          found.landed pfn = false := by
        intro found process own same
        rw [same, ← Bool.not_eq_true]
        exact fun landed => lands ⟨process.symm.trans own, landed⟩
      refine .inl (home.before tracked rfl (fun _ _ => rfl)
        (landed_iff rfl ?_ ?_))
      · intro found known process
        rw [there, Option.some.injEq] at known
        subst known
        exact unlanded migration process rfl rfl
      · intro found known process
        cases known
        exact unlanded later process rfl (landed_same pfn)

theorem finalizePte_none {slot : MigrateSlot} {pte : Pte}
    (entry : finalizePte slot pte = .none) : pte = .none := by
  unfold finalizePte at entry
  split at entry
  · split at entry
    · cases entry
    · cases entry
  · exact entry

/-- `migrate_vma_finalize` maps the pages with the data. -/
theorem HomesCurrent.finalize [Zero Contents] (current : world.HomesCurrent)
    (tracked : world.MovesTracked) (forward : world.Forward)
    (after : next.MovesTracked) {id : Nat}
    (moved : world.finalize id = some next) : next.HomesCurrent := by
  obtain ⟨migration, outcome, there, finished, made, rfl⟩ :=
    finalize_finished moved
  have toDevice := forward id migration there
  have stage : migration.stage = .mapped := by
    simpa [Migration.finished, toDevice] using finished
  obtain ⟨links, contents⟩ := migrateVmaFinalize_mem migration.slots
    migration.npages migration.first (world.cpu migration.mm, world.mem)
  have windowed (pfn : Nat) : outcome.1 pfn =
      finalizePte (migration.slots pfn) (world.cpu migration.mm pfn) := by
    rw [made, migrateVmaFinalize_pte]
    split
    · rfl
    · next outside =>
      rw [tracked.owned.window id migration pfn there outside]
      rfl
  rw [← made] at links contents
  have landed_moved (pfn : Nat) :
      migration.landed pfn = (migration.slots pfn).moved := by
    simp [Migration.landed, stage]
  refine current.advance tracked forward ?_
    (fun held _ => congrFun contents held) rfl ?_
  · intro mm pfn page home
    by_cases lands : mm = migration.mm ∧ migration.landed pfn = true
    · obtain ⟨rfl, landed⟩ := lands
      obtain ⟨-, target, aimed⟩ := Migration.landed_moved landed
      have used := tracked.owned.landed_used there landed aimed
      have device := tracked.apart.device id migration pfn target there
        toDevice aimed
      obtain ⟨frame, link⟩ := tracked.owned.backed target used device
      have backing : world.mem.backingPage target = some (.normal frame) := by
        simp [Memory.backingPage, device, link]
      have before : world.Home migration.mm pfn (.normal frame) :=
        .mapped id migration target there rfl landed stage aimed backing
      have mapped : (({ world with mem := outcome.2 }.remap migration.mm
          outcome.1).setMigration id none).Home migration.mm pfn
            (.normal frame) := by
        refine .settled target ?_ ?_ ?_
        · intro other found known process
          by_cases here : other = id
          · subst here
            simp [setMigration] at known
          · have old : world.migrations other = some found :=
              (Function.update_of_ne here ..).symm.trans known
            cases already : found.landed pfn with
            | false => rfl
            | true =>
                exact absurd (tracked.apart.alone other id found migration pfn
                  old there process already landed) here
        · simp only [setMigration, World.remap, Function.update_self,
            windowed]
          exact finalizePte_landed tracked.owned there landed aimed
        · simpa only [Memory.backingPage, setMigration, World.remap, links]
            using backing
      obtain rfl := home.same after mapped
      exact .inl before
    · refine .inl (home.before tracked ?_ ?_ (landed_iff rfl ?_ ?_))
      · by_cases process : mm = migration.mm
        · subst process
          simp only [setMigration, World.remap, Function.update_self,
            windowed]
          apply finalizePte_unmoved
          rw [← landed_moved, ← Bool.not_eq_true]
          exact fun landed => lands ⟨rfl, landed⟩
        · simp [setMigration, World.remap, Function.update_of_ne process]
      · intro held _
        simp only [Memory.backingPage, setMigration, World.remap, links]
      · intro found known process
        rw [there, Option.some.injEq] at known
        subst known
        rw [← Bool.not_eq_true]
        exact fun landed => lands ⟨process.symm, landed⟩
      · intro found known
        cases known
  · intro mm pfn unmapped
    by_cases process : mm = migration.mm
    · subst process
      simp only [setMigration, World.remap, Function.update_self,
        windowed] at unmapped
      exact finalizePte_none unmapped
    · simpa [setMigration, World.remap, Function.update_of_ne process]
        using unmapped

/-- The invariant behind `ShowsLastWrite`. -/
structure WritesTracked [Zero Contents] (world : World Contents) : Prop where
  moves : world.MovesTracked
  located : world.Located
  faults : world.FaultsTracked
  forward : world.Forward
  single : world.Single
  zeroReadOnly : world.ZeroReadOnly
  current : world.HomesCurrent

theorem Ready.tracked [Zero Contents] (ready : world.Ready) :
    world.WritesTracked where
  moves := .of_idle ready.owned ready.idle.migrations
  located := by
    constructor
    · intro m dmirror pfn entry present found _
      exact ready.entries m dmirror pfn entry present found
    · intro id migration m dmirror pfn entry there
      rw [ready.idle.migrations id] at there
      cases there
  faults := NoFault.tracked ready.idle.faults
  forward := by
    intro id migration there
    rw [ready.idle.migrations id] at there
    cases there
  single := ready.single
  zeroReadOnly := ready.zeroReadOnly
  current := ready.current

theorem WritesTracked.moves_step [Zero Contents]
    (tracked : world.WritesTracked) {input : Input Contents}
    (admitted : world.WritesBeforeOrAfter input)
    (moved : world.step input = some next) : next.MovesTracked := by
  have moves := tracked.moves
  have alone (single : world.OneAtATime input)
      (repairable : world.Repairable input) : next.MovesTracked :=
    moves.step single repairable moved
  cases input with
  | readBegin _ _ _ _ _ =>
      have same := SamePages.readBegin moved
      exact moves.of_fewer (moves.owned.of_same same) same.migrations
        same.links (.readBegin moved)
  | doFault _ _ => exact moves.doFault tracked.forward admitted.1 moved
  | invalidateStart _ _ =>
      have same := SamePages.invalidateStart moved
      exact moves.of_fewer (moves.owned.of_same same) same.migrations
        same.links (.invalidateStart moved)
  | setup _ _ _ _ _ _ _ =>
      refine moves.setup ?_ moved
      intro other found there
      exact ⟨admitted.1, tracked.forward other found there⟩
  | pages id migrated =>
      refine alone trivial ?_
      intro migration there
      exact tracked.single.othersEmpty moves tracked.forward there _
  | finalizeAndMap id xaFails =>
      refine alone trivial ?_
      intro migration there
      exact (admitted.2 id xaFails migration rfl there).2
  | openFile _ _ _ => exact alone trivial trivial
  | doWrite _ _ _ _ => exact alone trivial trivial
  | hmmRangeFault _ => exact alone trivial trivial
  | abandonFault _ => exact alone trivial trivial
  | populate _ _ _ _ => exact alone trivial trivial
  | populateZero _ _ => exact alone trivial trivial
  | invalidateEnd _ => exact alone trivial trivial
  | allocAndCopy _ _ => exact alone trivial trivial
  | finalize _ => exact alone trivial trivial
  | _ => exact admitted.1.elim

theorem WritesTracked.located_step [Zero Contents]
    (tracked : world.WritesTracked) (after : next.MovesTracked)
    {input : Input Contents} (admitted : world.WritesAndMigrations input)
    (moved : world.step input = some next) : next.Located := by
  have located := tracked.located
  have same (pages : world.SamePages next) (fewer : world.Fewer next) :
      next.Located :=
    located.of_old pages.migrations pages.links fewer.entries
      fun _ _ _ _ _ _ => .inl (by rw [pages.cpu])
  cases input with
  | openFile _ _ _ => exact same (.openFile moved) (.openFile moved)
  | doWrite _ _ _ _ => exact same (.doWrite moved) (.doWrite moved)
  | readBegin _ _ _ _ _ => exact same (.readBegin moved) (.readBegin moved)
  | hmmRangeFault _ =>
      exact same (.hmmRangeFault moved) (.hmmRangeFault moved)
  | abandonFault _ => exact same (.abandonFault moved) (.abandonFault moved)
  | doFault _ _ => exact located.doFault tracked.faults admitted moved
  | populate _ _ _ _ => exact located.populate moved
  | populateZero _ _ => exact located.populateZero moved
  | invalidateStart _ _ =>
      exact same (.invalidateStart moved) (.invalidateStart moved)
  | invalidateEnd _ =>
      exact same (.invalidateEnd moved) (.invalidateEnd moved)
  | setup _ _ _ _ _ _ _ => exact located.setup moved
  | allocAndCopy _ _ => exact located.allocAndCopy tracked.moves.owned moved
  | pages _ _ => exact located.pages tracked.moves after moved
  | finalizeAndMap _ _ => exact located.finalizeAndMap tracked.moves moved
  | finalize _ => exact located.finalize tracked.moves moved
  | _ => exact admitted.elim

theorem WritesTracked.current_step [Zero Contents]
    (tracked : world.WritesTracked) (after : next.MovesTracked)
    {input : Input Contents} (admitted : world.WritesBeforeOrAfter input)
    (moved : world.step input = some next) : next.HomesCurrent := by
  have current := tracked.current
  have moves := tracked.moves
  have forward := tracked.forward
  cases input with
  | openFile _ _ _ =>
      have pages := SamePages.openFile moved
      obtain ⟨-, -, rfl⟩ := openFile_opened moved
      exact current.of_same moves forward pages rfl rfl
  | doWrite _ _ _ _ =>
      exact current.doWrite moves forward tracked.located
        tracked.zeroReadOnly moved
  | readBegin _ _ _ _ _ =>
      have pages := SamePages.readBegin moved
      obtain ⟨_, -, -, -, rfl⟩ := readBegin_started moved
      exact current.of_same moves forward pages rfl rfl
  | hmmRangeFault _ =>
      have pages := SamePages.hmmRangeFault moved
      obtain ⟨fault, _, -, -, -, rfl⟩ := hmmRangeFault_taken moved
      exact current.of_same moves forward pages rfl rfl
  | abandonFault _ =>
      have pages := SamePages.abandonFault moved
      obtain rfl := abandonFault_dropped moved
      exact current.of_same moves forward pages rfl rfl
  | doFault _ _ =>
      have pages := SamePages.doFault moved
      rcases doFault_stored moved with ⟨fault, -, rfl⟩ |
        ⟨fault, dmirror, hmmPfns, pt, -, -, -, -, -, rfl⟩
      · exact current.of_same moves forward pages rfl rfl
      · exact current.of_same moves forward pages rfl rfl
  | populate mm pfn frame writable =>
      obtain ⟨unmapped, unused, rfl⟩ := populate_mapped moved
      refine current.fill moves forward unmapped ?_ rfl rfl rfl rfl ?_ ?_
      · rfl
      · exact Function.update_self ..
      · intro held used
        have different : held ≠ .normal frame := by
          rintro rfl
          rcases used with same | used
          · cases same
          · exact unused used
        exact Function.update_of_ne different ..
  | populateZero mm pfn =>
      obtain ⟨unmapped, rfl⟩ := populateZero_mapped moved
      exact current.fill moves forward unmapped rfl rfl rfl rfl rfl
        current.zero fun _ _ => rfl
  | invalidateStart _ _ =>
      have pages := SamePages.invalidateStart moved
      obtain ⟨-, rfl⟩ := invalidateStart_told moved
      exact current.of_same moves forward pages rfl rfl
  | invalidateEnd _ =>
      have pages := SamePages.invalidateEnd moved
      obtain ⟨-, rfl⟩ := invalidateEnd_ended moved
      exact current.of_same moves forward pages rfl rfl
  | setup _ _ _ _ _ _ _ => exact current.setup moves forward moved
  | allocAndCopy _ _ => exact current.allocAndCopy moves forward moved
  | pages _ _ => exact current.pages moves forward after moved
  | finalizeAndMap id xaFails =>
      refine current.finalizeAndMap moves forward after ?_ moved
      intro migration there
      exact (admitted.2 id xaFails migration rfl there).1
  | finalize _ => exact current.finalize moves forward after moved
  | _ => exact admitted.1.elim

theorem WritesTracked.step [Zero Contents] (tracked : world.WritesTracked)
    {input : Input Contents} (admitted : world.WritesBeforeOrAfter input)
    (moved : world.step input = some next) : next.WritesTracked := by
  have moves := tracked.moves_step admitted moved
  exact
    { moves := moves
      located := tracked.located_step moves admitted.1 moved
      faults := tracked.faults.step moved
      forward := tracked.forward.step admitted.1 moved
      single := tracked.single.step admitted.1 moved
      zeroReadOnly := tracked.zeroReadOnly.step tracked.moves tracked.forward
        admitted.1 moved
      current := tracked.current_step moves admitted moved }

theorem WritesTracked.shows [Zero Contents] (tracked : world.WritesTracked)
    (finished : ∀ id, world.migrations id = none) : world.ShowsLastWrite := by
  have owned : world.PagesOwned := tracked.moves.owned
  intro mm pfn
  constructor
  · intro page writable entry
    have mapped : (world.cpu mm pfn).page = some page := by
      rw [entry]
      rfl
    have backed : ∃ home, world.mem.backingPage page = some home := by
      unfold Memory.backingPage
      cases device : page.isDevicePrivatePage with
      | false => exact ⟨page, rfl⟩
      | true =>
          rcases owned.mapped mapped with used | rfl
          · obtain ⟨frame, link⟩ := owned.backed page used device
            rw [link]
            exact ⟨_, rfl⟩
          · cases device
    obtain ⟨home, backing⟩ := backed
    refine ⟨home, backing, tracked.current.homes mm pfn home ?_⟩
    refine .settled page ?_ mapped backing
    intro id migration there
    rw [finished id] at there
    cases there
  · intro m dmirror entry present process found
    subst process
    exact tracked.current.homes _ pfn _
      (tracked.located.home tracked.moves present found)

/-- No device write is lost by migrations to the device, in any run in which
the pages still have what was copied from them when the map update replaces
the entries. -/
theorem migrations_keep_writes [Zero Contents] (world : World Contents)
    (reached : (machine Ready).Reaches WritesBeforeOrAfter world)
    (finished : ∀ id, world.migrations id = none) :
    world.ShowsLastWrite := by
  have invariant : (machine (Ready : World Contents → Prop)).Invariant
      WritesBeforeOrAfter WritesTracked := by
    constructor
    · intro start ready
      exact ready.tracked
    · intro state input next tracked admitted moved
      exact tracked.step admitted moved
  exact (invariant.reaches reached).shows finished

theorem boot_ready : (boot : World Nat).Ready where
  owned := boot_owned
  idle := ⟨fun _ => rfl, fun _ => rfl, rfl⟩
  single := by
    intro m n opened
    cases opened
  entries := by
    intro m dmirror pfn entry present
    cases present
  zeroReadOnly := by
    constructor
    · intro mm pfn writable entry
      cases entry
    · intro id fault hmmPfns pfn started
      cases started
    · intro m dmirror pfn entry present
      cases present
  current := by
    refine ⟨?_, fun _ _ _ => rfl, rfl⟩
    intro mm pfn page home
    rfl

private theorem beforeOrAfter_of {world : World Contents}
    {input : Input Contents} (admitted : world.WritesAndMigrations input)
    (other : ∀ id xaFails, input ≠ .finalizeAndMap id xaFails) :
    world.WritesBeforeOrAfter input :=
  ⟨admitted, fun id xaFails _ same => absurd same (other id xaFails)⟩

/-- Page 0 is frame 1, and the mirror has faulted it in for writing. -/
private def faultedForWriting : List (Input Nat) :=
  [.openFile 0 0 0, .populate 0 0 1 true, .readBegin 0 0 1 0 true,
    .hmmRangeFault 0, .doFault 0 fun _ => false]

/-- The device writes before page 0 is migrated. -/
private def writeThenMigrate : List (Input Nat) :=
  faultedForWriting ++ [.doWrite 0 1 0 ⟨0, 0, fun _ => 7⟩,
    .setup 0 0 .selectSystem true 1 0 fun _ => true,
    .allocAndCopy 0 fun _ => some (0, 2), .pages 0 fun _ => true,
    .finalizeAndMap 0 fun _ => false, .finalize 0]

/-- The device writes after page 0 has been copied. -/
private def writeAfterCopy : List (Input Nat) :=
  faultedForWriting ++ [.setup 0 0 .selectSystem true 1 0 fun _ => true,
    .allocAndCopy 0 fun _ => some (0, 2),
    .doWrite 0 1 0 ⟨0, 0, fun _ => 7⟩, .pages 0 fun _ => true,
    .finalizeAndMap 0 fun _ => false, .finalize 0]

private theorem writeThenMigrate_run :
    ∃ world : World Nat, (machine Ready).Run WritesBeforeOrAfter boot
      writeThenMigrate world ∧ ∀ id, world.migrations id = none := by
  refine ⟨_, .cons ?_ rfl (.cons ?_ rfl (.cons ?_ rfl (.cons ?_ rfl
    (.cons ?_ rfl (.cons ?_ rfl (.cons ?_ rfl (.cons ?_ rfl (.cons ?_ rfl
      (.cons ?_ rfl (.cons ?_ rfl (.nil _))))))))))), ?_⟩
  · exact beforeOrAfter_of (fun _ => rfl) (by simp)
  · exact beforeOrAfter_of trivial (by simp)
  · exact beforeOrAfter_of trivial (by simp)
  · exact beforeOrAfter_of trivial (by simp)
  · refine beforeOrAfter_of ?_ (by simp)
    intro fault dmirror hmmPfns started _ _ taken pfn _ upper _
    cases started
    cases taken
    have here : pfn = 0 := by
      change pfn < 0 + 1 at upper
      omega
    subst here
    refine ⟨?_, rfl, rfl⟩
    intro id migration there
    cases there
  · exact beforeOrAfter_of trivial (by simp)
  · exact beforeOrAfter_of rfl (by simp)
  · exact beforeOrAfter_of trivial (by simp)
  · exact beforeOrAfter_of trivial (by simp)
  · refine ⟨trivial, ?_⟩
    rintro id xaFails migration ⟨⟩ there
    cases there
    constructor
    · intro pfn target rpage moved aimed backing
      by_cases here : pfn = 0
      · subst here
        cases aimed
        cases backing
        rfl
      · change (Function.update (Function.update (fun _ => MigrateSlot.empty)
          0 _) 0 _ pfn).moved = true at moved
        rw [Function.update_of_ne here, Function.update_of_ne here] at moved
        cases moved
    · intro dmirror pfn entry _ _ _ place _ _ _
      rfl
  · exact beforeOrAfter_of trivial (by simp)
  · exact over_none (others_none (others_none (others_none (others_none
      fun _ _ => rfl))))

theorem migrations_keep_writes_before :
    ∃ world : World Nat, (machine Ready).Reaches WritesBeforeOrAfter world ∧
      (∀ id, world.migrations id = none) ∧ world.ShowsLastWrite := by
  obtain ⟨world, run, finished⟩ := writeThenMigrate_run
  have reached : (machine (Ready : World Nat → Prop)).Reaches
      WritesBeforeOrAfter world := ⟨boot, writeThenMigrate, boot_ready, run⟩
  exact ⟨world, reached, finished,
    migrations_keep_writes world reached finished⟩

/-- The process maps the device page, which has the copy that was made before
the device wrote 7. -/
private def showsOldCopy (world : World Nat) : Bool :=
  world.cpu 0 0 == .present (.devicePrivate 0 0) true &&
    world.mem.backingPage (.devicePrivate 0 0) == some (.normal 2) &&
    world.mem.contents (.normal 2) == 0 && world.lastWrite 0 0 == 7

private theorem writeAfterCopy_run :
    ∃ world : World Nat, (machine Ready).Run WritesAndMigrations boot
      writeAfterCopy world ∧ (∀ id, world.migrations id = none) ∧
        showsOldCopy world = true := by
  refine ⟨_, .cons ?_ rfl (.cons ?_ rfl (.cons ?_ rfl (.cons ?_ rfl
    (.cons ?_ rfl (.cons ?_ rfl (.cons ?_ rfl (.cons ?_ rfl (.cons ?_ rfl
      (.cons ?_ rfl (.cons ?_ rfl (.nil _))))))))))), ?_, by decide +kernel⟩
  · exact fun _ => rfl
  · trivial
  · trivial
  · trivial
  · intro fault dmirror hmmPfns started _ _ taken pfn _ upper _
    cases started
    cases taken
    have here : pfn = 0 := by
      change pfn < 0 + 1 at upper
      omega
    subst here
    refine ⟨?_, rfl, rfl⟩
    intro id migration there
    cases there
  · exact rfl
  · trivial
  · trivial
  · trivial
  · trivial
  · trivial
  · exact over_none (others_none (others_none (others_none (others_none
      fun _ _ => rfl))))

/-- What the device has written between the copy of a page and the map update
is lost. -/
theorem migration_loses_write :
    ∃ world : World Nat, (machine Ready).Reaches WritesAndMigrations world ∧
      (∀ id, world.migrations id = none) ∧ ¬world.ShowsLastWrite := by
  obtain ⟨world, run, finished, old⟩ := writeAfterCopy_run
  have reached : (machine (Ready : World Nat → Prop)).Reaches
      WritesAndMigrations world := ⟨boot, writeAfterCopy, boot_ready, run⟩
  refine ⟨world, reached, finished, ?_⟩
  intro shows
  simp only [showsOldCopy, Bool.and_eq_true, beq_iff_eq] at old
  obtain ⟨⟨⟨mapped, backing⟩, copied⟩, written⟩ := old
  obtain ⟨home, found, same⟩ := (shows 0 0).1 _ true mapped
  rw [backing, Option.some.injEq] at found
  subst found
  rw [copied, written] at same
  cases same

end World

end Rshm.Hmm
