import Rshm.Hmm.MovesTracked

/-!
# Where the entries of a mirror point to

An entry names the backing page of the page that the process maps at its
address, except between `migrate_vma_pages` and the map update of the
mirror's own migration, when it still names the page before.
-/

namespace Rshm.Hmm

open RangeLoop

variable {Contents : Type}

namespace World

variable {world next : World Contents}

/-- The entry of an address is for the page of the process. -/
def PointsTo (world : World Contents) (mm pfn : Nat) (entry : Entry) :
    Prop :=
  ∃ page, (world.cpu mm pfn).page = some page ∧
    world.mem.backingPage page = some entry.page

/-- The invariant of the entries. -/
structure Located (world : World Contents) : Prop where
  settled : ∀ m dmirror pfn entry, world.dmirror m = some dmirror →
    dmirror.pt pfn = some entry → world.Still dmirror.mm pfn →
    world.PointsTo dmirror.mm pfn entry
  migrated : ∀ id migration m dmirror pfn entry,
    world.migrations id = some migration → migration.landed pfn = true →
    migration.stage = .migrated → world.dmirror m = some dmirror →
    dmirror.mm = migration.mm → dmirror.pt pfn = some entry →
    entry.page = (migration.slots pfn).src.page.getD .zero

def EntriesOld (world next : World Contents) : Prop :=
  ∀ m after pfn entry, next.dmirror m = some after →
    after.pt pfn = some entry → ∃ before, world.dmirror m = some before ∧
      before.mm = after.mm ∧ before.pt pfn = some entry

theorem PointsTo.of_eq {mm pfn : Nat} {entry : Entry}
    (points : world.PointsTo mm pfn entry)
    (page : (next.cpu mm pfn).page = (world.cpu mm pfn).page)
    (links : next.mem.zoneDeviceData = world.mem.zoneDeviceData) :
    next.PointsTo mm pfn entry := by
  obtain ⟨held, mapped, backing⟩ := points
  refine ⟨held, page.trans mapped, ?_⟩
  simpa only [Memory.backingPage, links] using backing

/-- A step that stores no entry and works on no migration changes the page of
an address only where no mirror of the process has an entry. -/
theorem Located.of_old (located : world.Located)
    (same : next.migrations = world.migrations)
    (links : next.mem.zoneDeviceData = world.mem.zoneDeviceData)
    (old : world.EntriesOld next)
    (pages : ∀ m after pfn entry, next.dmirror m = some after →
      after.pt pfn = some entry →
      (next.cpu after.mm pfn).page = (world.cpu after.mm pfn).page ∨
        ¬world.Still after.mm pfn) :
    next.Located := by
  constructor
  · intro m after pfn entry opened found still
    have still : world.Still after.mm pfn := by
      intro id migration there
      exact still id migration (same ▸ there)
    obtain ⟨before, present, mm, stored⟩ :=
      old m after pfn entry opened found
    have points := located.settled m before pfn entry present stored
      (mm.symm ▸ still)
    rw [mm] at points
    rcases pages m after pfn entry opened found with page | moved
    · exact points.of_eq page links
    · exact absurd still moved
  · intro id migration m after pfn entry there landed stage opened process
      found
    obtain ⟨before, present, mm, stored⟩ :=
      old m after pfn entry opened found
    exact located.migrated id migration m before pfn entry (same ▸ there)
      landed stage present (mm.trans process) stored

theorem EntriesOld.closeFile {m : Nat}
    (moved : world.closeFile m = some next) : world.EntriesOld next := by
  obtain rfl := closeFile_closed moved
  intro n after pfn entry opened found
  by_cases here : n = m
  · subst here
    simp at opened
  · simp only [Function.update_of_ne here] at opened
    exact ⟨after, opened, rfl, found⟩

/-- Entries are stored in one mirror, at addresses that no migration has
given another page. -/
theorem Located.of_stored (located : world.Located) {m : Nat}
    {dmirror : Dmirror} {pt : XArray}
    (present : world.dmirror m = some dmirror)
    (mirrors : next.dmirror = Function.update world.dmirror m
      (some { dmirror with pt := pt }))
    (links : next.mem.zoneDeviceData = world.mem.zoneDeviceData)
    (cpu : next.cpu = world.cpu)
    (same : next.migrations = world.migrations)
    (entries : ∀ pfn entry, pt pfn = some entry →
      dmirror.pt pfn = some entry ∨
        world.Still dmirror.mm pfn ∧
          world.PointsTo dmirror.mm pfn entry) :
    next.Located := by
  have still {mm pfn : Nat} (later : next.Still mm pfn) :
      world.Still mm pfn := by
    intro id migration there
    exact later id migration (same ▸ there)
  have page (mm pfn : Nat) :
      (next.cpu mm pfn).page = (world.cpu mm pfn).page := by rw [cpu]
  constructor
  · intro n after pfn entry opened found unmoved
    rw [mirrors] at opened
    by_cases here : n = m
    · subst here
      rw [Function.update_self, Option.some.injEq] at opened
      subst opened
      rcases entries pfn entry found with stored | ⟨-, points⟩
      · exact (located.settled n dmirror pfn entry present stored
          (still unmoved)).of_eq (page _ _) links
      · exact points.of_eq (page _ _) links
    · rw [Function.update_of_ne here] at opened
      exact (located.settled n after pfn entry opened found
        (still unmoved)).of_eq (page _ _) links
  · intro id migration n after pfn entry there landed stage opened process
      found
    rw [same] at there
    rw [mirrors] at opened
    by_cases here : n = m
    · subst here
      rw [Function.update_self, Option.some.injEq] at opened
      subst opened
      rcases entries pfn entry found with stored | ⟨unmoved, -⟩
      · exact located.migrated id migration n dmirror pfn entry there landed
          stage present process stored
      · rw [unmoved id migration there process.symm] at landed
        cases landed
    · rw [Function.update_of_ne here] at opened
      exact located.migrated id migration n after pfn entry there landed
        stage opened process found

theorem Located.doFault (located : world.Located)
    (faults : world.FaultsTracked) {id : Nat} {xaFails : Nat → Bool}
    (plain : world.CommitsPlain id xaFails)
    (moved : world.doFault id xaFails = some next) : next.Located := by
  rcases doFault_stored moved with ⟨fault, -, rfl⟩ |
    ⟨fault, dmirror, hmmPfns, pt, started, present, taken, current, rfl, rfl⟩
  · exact located.of_old rfl rfl (Fewer.of_eq rfl).entries
      fun _ _ _ _ _ _ => .inl rfl
  · refine located.of_stored present rfl rfl rfl rfl ?_
    intro pfn entry found
    rcases dmirrorDoFault_entry found with
      old | ⟨lower, upper, rfl, reached⟩
    · exact .inl old
    · obtain ⟨still, unmoved, kind⟩ := plain fault dmirror hmmPfns started
        present current taken pfn lower upper reached
      have process := (faults.mirror id fault dmirror started present).1
      have mapped := faults.mapped id fault dmirror hmmPfns started present
        current taken pfn lower upper unmoved
      refine .inr ⟨still, (hmmPfns pfn).page, process ▸ mapped, ?_⟩
      simp [Memory.backingPage, kind]

theorem Located.migrateSetup (located : world.Located)
    (id m mdevice mm : Nat) (flags : MigrateVmaDirection) (vmWrite : Bool)
    (count first : Nat) (collected : Nat → Bool)
    (unused : world.migrations id = none) :
    (world.migrateSetup id m mdevice mm flags vmWrite count first
      collected).Located := by
  have told := Fewer.notify world .migrate (some mdevice) mm first
    (first + count)
  have page (process pfn : Nat) :
      ((world.migrateSetup id m mdevice mm flags vmWrite count first
        collected).cpu process pfn).page = (world.cpu process pfn).page := by
    by_cases here : process = mm
    · subst here
      simp only [World.migrateSetup, setMigration, Function.update_self]
      exact migrateVmaSetup_page _ _ _ _ _ _ _
    · simp [World.migrateSetup, setMigration, Function.update_of_ne here]
  constructor
  · intro n after pfn entry opened found later
    obtain ⟨before, present, same, stored⟩ :=
      told.entries n after pfn entry opened found
    have still : world.Still before.mm pfn := by
      intro other migration there process
      have different : other ≠ id := by
        rintro rfl
        rw [unused] at there
        cases there
      apply later other migration _ (process.trans same)
      exact (Function.update_of_ne different ..).trans there
    have points := located.settled n before pfn entry present stored still
    rw [same] at points
    exact points.of_eq (page _ _) rfl
  · intro other migration n after pfn entry there landed stage opened process
      found
    obtain ⟨before, present, same, stored⟩ :=
      told.entries n after pfn entry opened found
    rcases Owned.update_cases there with ⟨-, rfl⟩ | ⟨-, old⟩
    · cases stage
    · exact located.migrated other migration n before pfn entry old landed
        stage present (same.trans process) stored

theorem Located.setup (located : world.Located) {id m : Nat}
    {flags : MigrateVmaDirection} {vmWrite : Bool} {count first : Nat}
    {collected : Nat → Bool}
    (moved : world.setup id m flags vmWrite count first collected =
      some next) : next.Located := by
  obtain ⟨_, -, unused, rfl⟩ := setup_begun moved
  exact located.migrateSetup id m _ _ flags vmWrite count first collected
    unused

theorem Located.cpuFault (located : world.Located) {id mm pfn : Nat}
    {vmWrite collected : Bool}
    (moved : world.cpuFault id mm pfn vmWrite collected = some next) :
    next.Located := by
  obtain ⟨unused, _, _, _, -, ⟨_, _, _, -, -, -, rfl⟩ | ⟨rfl, -⟩⟩ :=
    cpuFault_begun moved
  · exact located.migrateSetup id _ _ mm .selectDevicePrivate vmWrite 1 pfn _
      unused
  · exact located.of_old rfl rfl (Fewer.of_eq rfl).entries
      fun _ _ _ _ _ _ => .inl rfl

/-- A migration that has not changed the page table yet takes a step, and no
entry is stored. -/
theorem Located.of_copied (located : world.Located) {id : Nat}
    {migration after : Migration}
    (there : world.migrations id = some migration)
    (unlanded : ∀ pfn, migration.landed pfn = false)
    (unlanded' : ∀ pfn, after.landed pfn = false)
    (migrations : next.migrations =
      Function.update world.migrations id (some after))
    (cpu : next.cpu = world.cpu)
    (backing : ∀ mm pfn page, (world.cpu mm pfn).page = some page →
      next.mem.backingPage page = world.mem.backingPage page)
    (old : world.EntriesOld next) : next.Located := by
  constructor
  · intro m last pfn entry opened found later
    obtain ⟨before, present, same, stored⟩ :=
      old m last pfn entry opened found
    have still : world.Still before.mm pfn := by
      intro other found' known process
      by_cases here : other = id
      · subst here
        rw [there, Option.some.injEq] at known
        exact known ▸ unlanded pfn
      · apply later other found' _ (process.trans same)
        rw [migrations, Function.update_of_ne here, known]
    obtain ⟨page, mapped, link⟩ :=
      located.settled m before pfn entry present stored still
    rw [same] at mapped
    exact ⟨page, by rw [cpu, mapped],
      (backing _ pfn page mapped).trans link⟩
  · intro other found' m last pfn entry known landed stage opened process
      found
    obtain ⟨before, present, same, stored⟩ :=
      old m last pfn entry opened found
    rw [migrations] at known
    rcases Owned.update_cases known with ⟨-, rfl⟩ | ⟨-, earlier⟩
    · rw [unlanded'] at landed
      cases landed
    · exact located.migrated other found' m before pfn entry earlier landed
        stage present (same.trans process) stored

theorem Located.allocAndCopy [Zero Contents] (located : world.Located)
    (owned : world.PagesOwned) {id : Nat} {alloc : Nat → Option (Nat × Nat)}
    (moved : world.allocAndCopy id alloc = some next) : next.Located := by
  obtain ⟨migration, after, there, -, stage, copied, rfl⟩ :=
    allocAndCopy_copied moved
  have grown : world.mem.Extends after.2 := by
    rw [copied]
    exact dmirrorMigrateAllocAndCopy_extends migration.npages migration.first
      (migration.slots, world.mem)
  refine located.of_copied there ?_ ?_ rfl rfl ?_ ?_
  · simp [Migration.landed, stage]
  · simp [Migration.landed]
  · intro mm pfn page mapped
    rcases owned.mapped mapped with used | rfl
    · exact grown.backingPage used
    · rfl
  · intro m after pfn entry opened found
    exact ⟨after, opened, rfl, found⟩

theorem Located.faultAllocAndCopy (located : world.Located) {id : Nat}
    {alloc : Nat → Option Nat}
    (moved : world.faultAllocAndCopy id alloc = some next) :
    next.Located := by
  obtain ⟨migration, there, -, stage, ⟨-, rfl⟩ |
    ⟨dmirror, after, present, copied, rfl⟩⟩ := faultAllocAndCopy_copied moved
  · exact located.of_old rfl rfl (Fewer.of_eq rfl).entries
      fun _ _ _ _ _ _ => .inl rfl
  · have keeps := dmirrorDevmemFaultAllocAndCopy_keeps alloc
      migration.npages migration.first
      ⟨migration.slots, world.mem, dmirror.pt⟩
    have links := (Memory.LinksKept.faultAllocAndCopy alloc
      migration.npages migration.first
      ⟨migration.slots, world.mem, dmirror.pt⟩).links
    rw [← copied] at keeps links
    have fewer : world.Fewer (world.setPt migration.dmirror dmirror
        after.pt) := .setPt present fun pfn => (keeps pfn).2.1
    refine located.of_copied there ?_ ?_ rfl rfl ?_ fewer.entries
    · simp [Migration.landed, stage]
    · simp [Migration.landed]
    · intro mm pfn page _
      change after.mem.backingPage page = _
      simp only [Memory.backingPage, links]

/-- An address that is being migrated has its old page, until the page table
is changed. -/
theorem Located.pages (located : world.Located)
    (tracked : world.MovesTracked) (after : next.MovesTracked) {id : Nat}
    {migrated : Nat → Bool} (moved : world.pages id migrated = some next) :
    next.Located := by
  have owned := tracked.owned
  obtain ⟨migration, outcome, there, stage, made, rfl⟩ :=
    pages_migrated moved
  have at_ := migrateVmaPages_at owned there migrated
  rw [← made] at at_
  let later : Migration :=
    { migration with slots := outcome.2, stage := .migrated }
  have changed : ((world.remap migration.mm outcome.1).setMigration id
      (some later)).migrations id = some later := Function.update_self ..
  have landed_moved (pfn : Nat) :
      later.landed pfn = (outcome.2 pfn).moved := by
    simp [later, Migration.landed]
  -- Before the step, an address that it leaves or lands is untouched.
  have still {mm pfn : Nat}
      (others : ∀ other found, other ≠ id →
        world.migrations other = some found → found.mm = mm →
        found.landed pfn = false) : world.Still mm pfn := by
    intro other found known process
    by_cases here : other = id
    · subst here
      rw [there, Option.some.injEq] at known
      subst known
      simp [Migration.landed, stage]
    · exact others other found here known process
  constructor
  · intro m dmirror pfn entry present found unmoved
    have points := located.settled m dmirror pfn entry present found (by
      apply still
      intro other found' different known process
      apply unmoved other found' _ process
      exact (Function.update_of_ne different ..).trans known)
    refine points.of_eq ?_ rfl
    by_cases process : dmirror.mm = migration.mm
    · rw [process]
      have unlanded := unmoved id later changed process.symm
      rw [landed_moved] at unlanded
      simp only [setMigration, World.remap, Function.update_self]
      rcases (at_ pfn).2.2 with ⟨stays, -⟩ | ⟨-, -, -, -, landed, -⟩
      · rw [stays]
      · rw [unlanded] at landed
        cases landed
    · simp [setMigration, World.remap, Function.update_of_ne process]
  · intro other found' m dmirror pfn entry known landed stage' present
      process found
    rcases Owned.update_cases known with ⟨rfl, rfl⟩ | ⟨-, old⟩
    · have landed' : (outcome.2 pfn).moved = true := by
        rw [← landed_moved]
        exact landed
      have points := located.settled m dmirror pfn entry present found (by
        apply still
        intro another found'' different known' process'
        cases already : found''.landed pfn with
        | false => rfl
        | true =>
            have same := after.apart.alone another other found'' later pfn
              ((Function.update_of_ne different ..).trans known') changed
              (process'.trans process) already landed
            exact absurd same different)
      obtain ⟨page, mapped, link⟩ := points
      have process : dmirror.mm = migration.mm := process
      rw [process] at mapped
      obtain ⟨-, sources, ⟨-, hole⟩ | ⟨-, -, source, free, -, -⟩⟩ := at_ pfn
      · change entry.page = (outcome.2 pfn).src.page.getD .zero
        cases source : (outcome.2 pfn).src.page with
        | none =>
            rw [hole source] at landed'
            cases landed'
        | some held =>
            rw [sources] at source
            obtain ⟨writable, locked⟩ :=
              owned.unmapped other migration pfn held there source
            rw [locked] at mapped
            have same : held = page := Option.some.inj mapped
            subst same
            have forward : migration.flags = .selectSystem :=
              ((after.repairs other later changed).own pfn m dmirror entry
                landed present process found).1
            have kind := (tracked.apart.system other migration pfn held
              there forward source).2
            simpa [Memory.backingPage, kind] using link.symm
      · change entry.page = (outcome.2 pfn).src.page.getD .zero
        rw [sources, source]
        cases entry' : world.cpu migration.mm pfn with
        | none =>
            rw [entry'] at mapped
            cases mapped
        | migration held writable =>
            rw [entry'] at free
            cases free
        | present held writable =>
            rw [entry'] at free mapped
            have same : held = page := Option.some.inj mapped
            subst same
            cases held with
            | zero =>
                simpa [Memory.backingPage, Page.isDevicePrivatePage]
                  using link.symm
            | _ => cases free
    · exact located.migrated other found' m dmirror pfn entry old landed
        stage' present process found

theorem Located.finalizeAndMap (located : world.Located)
    (tracked : world.MovesTracked) {id : Nat} {xaFails : Nat → Bool}
    (moved : world.finalizeAndMap id xaFails = some next) : next.Located := by
  obtain ⟨migration, there, forward, stage, ⟨-, rfl⟩ | ⟨own, pt, present,
    mapped, rfl⟩⟩ := finalizeAndMap_mapped moved
  · exact located.of_old rfl rfl (Fewer.of_eq rfl).entries
      fun _ _ _ _ _ _ => .inl rfl
  · have update := dmirrorMigrateFinalizeAndMap_at world.mem
      migration.slots xaFails migration.npages migration.first own.pt
    rw [← mapped] at update
    have process : own.mm = migration.mm := by
      obtain ⟨found, opened, mm⟩ :=
        tracked.apart.mirror id migration there forward
      rw [present, Option.some.injEq] at opened
      exact opened ▸ mm
    let later : Migration := { migration with stage := .mapped }
    have landed_same (pfn : Nat) :
        later.landed pfn = migration.landed pfn := by
      simp [later, Migration.landed, stage]
    have changed : ((world.setPt migration.dmirror own pt).setMigration id
        (some later)).migrations id = some later :=
      Function.update_self ..
    -- An entry of an address that is not migrated is an earlier one.
    have old {m pfn : Nat} {dmirror : Dmirror} {entry : Entry}
        (unlanded : dmirror.mm = migration.mm →
          migration.landed pfn = false)
        (opened : (world.setPt migration.dmirror own pt).dmirror m =
          some dmirror) (found : dmirror.pt pfn = some entry) :
        ∃ before, world.dmirror m = some before ∧
          before.mm = dmirror.mm ∧ before.pt pfn = some entry := by
      by_cases here : m = migration.dmirror
      · subst here
        simp only [World.setPt, Function.update_self,
          Option.some.injEq] at opened
        subst opened
        refine ⟨own, present, rfl, ?_⟩
        have unmoved : (migration.slots pfn).moved = false := by
          simpa [Migration.landed, stage] using unlanded process
        rw [← (update pfn).2 (by simp [unmoved])]
        exact found
      · simp only [World.setPt, Function.update_of_ne here] at opened
        exact ⟨dmirror, opened, rfl, found⟩
    constructor
    · intro m dmirror pfn entry opened found unmoved
      have still : world.Still dmirror.mm pfn := by
        intro other found' known same
        by_cases here : other = id
        · subst here
          rw [there, Option.some.injEq] at known
          subst known
          rw [← landed_same]
          exact unmoved other later changed same
        · apply unmoved other found' _ same
          exact (Function.update_of_ne here ..).trans known
      obtain ⟨before, earlier, mm, stored⟩ :=
        old (fun same => still id migration there same.symm) opened found
      have points := located.settled m before pfn entry earlier stored
        (mm.symm ▸ still)
      rw [mm] at points
      exact points.of_eq rfl rfl
    · intro other found' m dmirror pfn entry known landed stage' opened
        same found
      rcases Owned.update_cases known with ⟨-, rfl⟩ | ⟨different, earlier⟩
      · cases stage'
      · obtain ⟨before, present', mm, stored⟩ := old (by
          intro own_mm
          cases already : migration.landed pfn with
          | false => rfl
          | true =>
              exact absurd (tracked.apart.alone other id found' migration
                pfn earlier there (same.symm.trans own_mm) landed already)
                different) opened found
        exact located.migrated other found' m before pfn entry earlier
          landed stage' present' (mm.trans same) stored

/-- `migrate_vma_finalize` puts the page of an unmigrated address back. -/
theorem finalizePte_unmoved {slot : MigrateSlot} (pte : Pte)
    (unmoved : slot.moved = false) :
    (finalizePte slot pte).page = pte.page := by
  unfold finalizePte
  split
  · next page held writable source =>
    split
    · next same =>
      subst same
      split
      · next marked =>
        cases target : slot.dst.page with
        | none => rfl
        | some newpage =>
            simp [MigrateSlot.moved, marked, target] at unmoved
      · rfl
    · rfl
  · rfl

theorem finalizePte_landed {inUse : Finset Page}
    {zoneDeviceData : Page → ZoneDeviceData} {cpu : Nat → Nat → Pte}
    {migrations : Nat → Option Migration}
    (owned : Owned inUse zoneDeviceData cpu migrations) {id : Nat}
    {migration : Migration} (there : migrations id = some migration)
    {pfn : Nat} (landed : migration.landed pfn = true) {target : Page}
    (aimed : (migration.slots pfn).dst.page = some target) :
    (finalizePte (migration.slots pfn) (cpu migration.mm pfn)).page =
      some target := by
  obtain ⟨marked, -⟩ := Migration.landed_moved landed
  rcases owned.landed_pte there landed with
    ⟨page, writable, source, entry⟩ |
    ⟨found, writable, source, aimed', -, entry⟩
  · simp [finalizePte, source, entry, marked, aimed]
  · rw [aimed] at aimed'
    cases aimed'
    simp [finalizePte, source, entry]

theorem Located.finalize (located : world.Located)
    (tracked : world.MovesTracked) {id : Nat}
    (moved : world.finalize id = some next) : next.Located := by
  obtain ⟨migration, outcome, there, finished, made, rfl⟩ :=
    finalize_finished moved
  have links := (migrateVmaFinalize_mem migration.slots migration.npages
    migration.first (world.cpu migration.mm, world.mem)).1
  have pte := migrateVmaFinalize_pte migration.slots migration.npages
    migration.first (world.cpu migration.mm, world.mem)
  rw [← made] at links pte
  have windowed (pfn : Nat) : outcome.1 pfn =
      finalizePte (migration.slots pfn) (world.cpu migration.mm pfn) := by
    rw [pte]
    split
    · rfl
    · next outside =>
      rw [tracked.owned.window id migration pfn there outside]
      rfl
  have moved_landed (pfn : Nat) :
      migration.landed pfn = (migration.slots pfn).moved := by
    unfold Migration.finished at finished
    split at finished
    · simp [Migration.landed, of_decide_eq_true finished]
    · simp [Migration.landed, of_decide_eq_true finished]
  have find {other : Nat} {found : Migration}
      (known : Function.update world.migrations id none other =
        some found) : world.migrations other = some found := by
    by_cases here : other = id
    · subst here
      simp at known
    · simpa [here] using known
  constructor
  · intro m dmirror pfn entry present found unmoved
    have present : world.dmirror m = some dmirror := present
    have still (unlanded : dmirror.mm = migration.mm →
        migration.landed pfn = false) : world.Still dmirror.mm pfn := by
      intro other found' known same
      by_cases here : other = id
      · subst here
        rw [there, Option.some.injEq] at known
        subst known
        exact unlanded same.symm
      · apply unmoved other found' _ same
        exact (Function.update_of_ne here ..).trans known
    by_cases process : dmirror.mm = migration.mm
    · cases landed : migration.landed pfn with
      | true =>
          have repairs := tracked.repairs id migration there
          obtain ⟨forward, rfl⟩ := repairs.own pfn m dmirror entry landed
            present process found
          have stage : migration.stage = .mapped := by
            simpa [Migration.finished, forward] using finished
          obtain ⟨-, target, aimed⟩ := Migration.landed_moved landed
          refine ⟨target, ?_, ?_⟩
          · rw [process]
            simp only [setMigration, World.remap, Function.update_self,
              windowed]
            exact finalizePte_landed tracked.owned there landed aimed
          · have backing := repairs.mapped stage pfn dmirror entry target
              landed aimed present found
            simpa only [Memory.backingPage, setMigration, World.remap,
              links] using backing
      | false =>
          have points := located.settled m dmirror pfn entry present found
            (still fun _ => landed)
          refine points.of_eq ?_ links
          rw [process]
          simp only [setMigration, World.remap, Function.update_self,
            windowed]
          exact finalizePte_unmoved _ (moved_landed pfn ▸ landed)
    · have points := located.settled m dmirror pfn entry present found
        (still fun same => absurd same process)
      refine points.of_eq ?_ links
      simp [setMigration, World.remap, Function.update_of_ne process]
  · intro other found' m dmirror pfn entry known landed stage present
      process found
    exact located.migrated other found' m dmirror pfn entry (find known)
      landed stage present process found

end World

end Rshm.Hmm
