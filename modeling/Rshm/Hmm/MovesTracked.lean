import Rshm.Hmm.MovedEntries

/-!
# Steps of the driver and the entries of migrated addresses

One lemma for each step of the machine, with what has to hold before the step
where the driver itself does not see to it.
-/

namespace Rshm.Hmm

open RangeLoop

variable {Contents : Type}

namespace World

variable {world next : World Contents}

/-- The invariant of the migrations in progress. -/
structure MovesTracked (world : World Contents) : Prop where
  owned : world.PagesOwned
  apart : world.MigrationsApart
  repairs : ∀ id migration, world.migrations id = some migration →
    world.Repairs migration

theorem MovesTracked.of_idle (owned : world.PagesOwned)
    (idle : ∀ id, world.migrations id = none) : world.MovesTracked := by
  refine ⟨owned, ⟨?_, ?_, ?_, ?_, ?_, ?_⟩, ?_⟩
  · intro id other migration found pfn there
    rw [idle id] at there
    cases there
  · intro id other migration found there
    rw [idle id] at there
    cases there
  · intro id migration pfn page there
    rw [idle id] at there
    cases there
  · intro id migration pfn target there
    rw [idle id] at there
    cases there
  · intro id migration there
    rw [idle id] at there
    cases there
  · intro id migration pfn there
    rw [idle id] at there
    cases there
  · intro id migration there
    rw [idle id] at there
    cases there

theorem MovesTracked.of_fewer (tracked : world.MovesTracked)
    (owned : next.PagesOwned)
    (same : next.migrations = world.migrations)
    (links : next.mem.zoneDeviceData = world.mem.zoneDeviceData)
    (fewer : world.Fewer next) : next.MovesTracked := by
  refine ⟨owned, tracked.apart.of_same same fewer.kept, ?_⟩
  intro id migration there
  rw [same] at there
  apply (tracked.repairs id migration there).of_fewer fewer
  intro pfn target _ _
  simp only [Memory.backingPage, links]

/-- No migration in progress has given the address another page. -/
def Still (world : World Contents) (mm pfn : Nat) : Prop :=
  ∀ id migration, world.migrations id = some migration →
    migration.mm = mm → migration.landed pfn = false

/-- All migrations in progress are migrations to a device. -/
def Forward (world : World Contents) : Prop :=
  ∀ id migration, world.migrations id = some migration →
    migration.flags = .selectSystem

/-- An entry found after a device fault was there before, or is the page of
the snapshot, and no store up to its address fails. -/
theorem dmirrorDoFault_entry {requestWrite : Bool} {hmmPfns : Nat → HmmPfn}
    {xaFails : Nat → Bool} {count first : Nat} {pt : XArray} {pfn : Nat}
    {entry : Entry}
    (found : (dmirrorDoFault requestWrite hmmPfns xaFails count first pt).1
      pfn = some entry) :
    pt pfn = some entry ∨
      first ≤ pfn ∧ pfn < first + count ∧
        entry = ⟨(hmmPfns pfn).page, writeTag (hmmPfns pfn).write⟩ ∧
        ∀ place, first ≤ place → place ≤ pfn → xaFails place = false := by
  obtain ⟨done, bound, stored, kept⟩ :=
    dmirrorDoFault_spec requestWrite hmmPfns xaFails count first pt
  by_cases inside : first ≤ pfn ∧ pfn < first + done
  · rw [(stored pfn inside.1 inside.2).2, Option.some.injEq] at found
    refine .inr ⟨inside.1, by omega, found.symm, ?_⟩
    intro place lower upper
    exact (stored place lower (by omega)).1
  · rw [kept pfn inside] at found
    exact .inl found

/-- At the addresses that a device fault stores, no migration has changed the
page since the snapshot, and the page is not a device page. -/
def CommitsPlain (world : World Contents) (id : Nat)
    (xaFails : Nat → Bool) : Prop :=
  ∀ fault dmirror hmmPfns, world.faults id = some fault →
    world.dmirror fault.dmirror = some dmirror →
    dmirror.invalidateSeq = fault.notifierSeq →
    fault.hmmPfns = some hmmPfns → ∀ pfn, fault.first ≤ pfn →
      pfn < fault.first + fault.npages →
      (∀ place, fault.first ≤ place → place ≤ pfn →
        xaFails place = false) →
      world.Still dmirror.mm pfn ∧ fault.moved pfn = false ∧
        (hmmPfns pfn).page.isDevicePrivatePage = false

theorem MovesTracked.doFault (tracked : world.MovesTracked) {id : Nat}
    {xaFails : Nat → Bool} (forward : world.Forward)
    (plain : world.CommitsPlain id xaFails)
    (moved : world.doFault id xaFails = some next) : next.MovesTracked := by
  have owned := tracked.owned.of_same (.doFault moved)
  rcases doFault_stored moved with ⟨fault, -, rfl⟩ |
    ⟨fault, dmirror, hmmPfns, pt, started, present, taken, current, rfl, rfl⟩
  · exact tracked.of_fewer owned rfl rfl (.of_eq rfl)
  · have clear := plain fault dmirror hmmPfns started present current taken
    refine ⟨owned, tracked.apart.of_same rfl ?_, ?_⟩
    · intro m before opened
      by_cases here : m = fault.dmirror
      · subst here
        rw [present, Option.some.injEq] at opened
        exact ⟨_, Function.update_self .., opened ▸ rfl⟩
      · exact ⟨before, (Function.update_of_ne here ..).trans opened, rfl⟩
    · intro other found there
      have there : world.migrations other = some found := there
      have repairs := tracked.repairs other found there
      refine repairs.of_stored present rfl rfl (tracked.apart.mirror other
        found there (forward other found there)) (forward other found there)
        ?_
      intro pfn entry stored
      rcases dmirrorDoFault_entry stored with
        old | ⟨lower, upper, -, reached⟩
      · exact .inl old
      · exact .inr fun process =>
          (clear pfn lower upper reached).1 other found there process.symm

theorem MovesTracked.migrateSetup (tracked : world.MovesTracked)
    {id m mdevice mm : Nat} {flags : MigrateVmaDirection} (vmWrite : Bool)
    (count first : Nat) (collected : Nat → Bool)
    (unused : world.migrations id = none)
    (mirror : flags = .selectSystem → ∃ dmirror,
      world.dmirror m = some dmirror ∧ dmirror.mm = mm)
    (others : ∀ other found, world.migrations other = some found →
      flags = .selectSystem ∧ found.flags = .selectSystem)
    (owned : (world.migrateSetup id m mdevice mm flags vmWrite count first
      collected).PagesOwned) :
    (world.migrateSetup id m mdevice mm flags vmWrite count first
      collected).MovesTracked := by
  refine ⟨owned, tracked.apart.migrateSetup vmWrite count first collected
    unused mirror others, ?_⟩
  intro other found known
  rcases Owned.update_cases known with ⟨-, rfl⟩ | ⟨-, old⟩
  · have unlanded (pfn : Nat) (slots : Nat → MigrateSlot) :
        Migration.landed ⟨m, mdevice, mm, flags, vmWrite, first, count,
          slots, .setup⟩ pfn = false := by
      simp [Migration.landed]
    constructor
    · intro _ stage
      cases stage
    · intro pfn n dmirror entry landed
      rw [unlanded] at landed
      cases landed
    · intro stage
      cases stage
  · apply (tracked.repairs other found old).of_fewer
    · exact (Fewer.notify world .migrate (some mdevice) mm first
        (first + count)).trans (.of_eq rfl)
    · intro pfn target _ _
      rfl

theorem MovesTracked.setup (tracked : world.MovesTracked) {id m : Nat}
    {flags : MigrateVmaDirection} {vmWrite : Bool} {count first : Nat}
    {collected : Nat → Bool}
    (others : ∀ other found, world.migrations other = some found →
      flags = .selectSystem ∧ found.flags = .selectSystem)
    (moved : world.setup id m flags vmWrite count first collected =
      some next) : next.MovesTracked := by
  have locked : world.Locked
      (.setup id m flags vmWrite count first collected) := by
    intro back other
    cases known : world.migrations other with
    | none => rfl
    | some found =>
        rw [(others other found known).1] at back
        cases back
  have owned := tracked.owned.setup locked moved
  obtain ⟨dmirror, present, unused, rfl⟩ := setup_begun moved
  exact tracked.migrateSetup vmWrite count first collected unused
    (fun _ => ⟨dmirror, present, rfl⟩) others owned

theorem MovesTracked.cpuFault (tracked : world.MovesTracked)
    {id mm pfn : Nat} {vmWrite collected : Bool}
    (idle : ∀ id, world.migrations id = none)
    (moved : world.cpuFault id mm pfn vmWrite collected = some next) :
    next.MovesTracked := by
  have owned := tracked.owned.cpuFault idle moved
  obtain ⟨unused, _, _, _, -, ⟨_, _, _, -, -, -, rfl⟩ | ⟨rfl, -⟩⟩ :=
    cpuFault_begun moved
  · refine tracked.migrateSetup vmWrite 1 pfn (fun _ => collected) unused
      (fun forward => by cases forward) ?_ owned
    intro other found known
    rw [idle other] at known
    cases known
  · exact tracked.of_fewer tracked.owned rfl rfl (.of_eq rfl)

theorem dmirrorMigrateAllocAndCopy_sources [Zero Contents]
    (owned : world.PagesOwned) {id : Nat} {migration : Migration}
    (there : world.migrations id = some migration)
    (alloc : Nat → Option (Nat × Nat)) (pfn : Nat) :
    ((dmirrorMigrateAllocAndCopy migration.pgmapOwner migration.dmirror
      migration.vmWrite alloc migration.npages migration.first
      (migration.slots, world.mem)).1 pfn).src = (migration.slots pfn).src := by
  have used : ∀ pfn page, (migration.slots pfn).src.page = some page →
      page ∈ world.mem.inUse := by
    intro place page source
    exact owned.exclusive.alive (.src id place) page
      ⟨migration, there, source⟩
  rcases dmirrorMigrateAllocAndCopy_cases migration.pgmapOwner
      migration.dmirror migration.vmWrite alloc migration.npages
      migration.first used pfn with same | ⟨kept, -⟩
  · rw [same]
  · exact kept

theorem dmirrorMigrateAllocAndCopy_device [Zero Contents]
    (owned : world.PagesOwned) {id : Nat} {migration : Migration}
    (there : world.migrations id = some migration)
    (alloc : Nat → Option (Nat × Nat)) (pfn : Nat) (target : Page)
    (aimed : ((dmirrorMigrateAllocAndCopy migration.pgmapOwner
      migration.dmirror migration.vmWrite alloc migration.npages
      migration.first (migration.slots, world.mem)).1 pfn).dst.page =
        some target)
    (untargeted : (migration.slots pfn).dst.page = none) :
    target.isDevicePrivatePage = true := by
  have used : ∀ pfn page, (migration.slots pfn).src.page = some page →
      page ∈ world.mem.inUse := by
    intro place page source
    exact owned.exclusive.alive (.src id place) page
      ⟨migration, there, source⟩
  rcases dmirrorMigrateAllocAndCopy_cases migration.pgmapOwner
      migration.dmirror migration.vmWrite alloc migration.npages
      migration.first used pfn with same | ⟨-, dpfn, rpfn, copied⟩
  · rw [same, untargeted] at aimed
    cases aimed
  · rw [copied.dst, Option.some.injEq] at aimed
    subst aimed
    rfl

theorem MovesTracked.allocAndCopy [Zero Contents]
    (tracked : world.MovesTracked) {id : Nat}
    {alloc : Nat → Option (Nat × Nat)}
    (moved : world.allocAndCopy id alloc = some next) :
    next.MovesTracked := by
  have owned := tracked.owned.allocAndCopy moved
  obtain ⟨migration, after, there, forward, stage, rfl, rfl⟩ :=
    allocAndCopy_copied moved
  have grown : world.mem.Extends (dmirrorMigrateAllocAndCopy
      migration.pgmapOwner migration.dmirror migration.vmWrite alloc
      migration.npages migration.first (migration.slots, world.mem)).2 :=
    dmirrorMigrateAllocAndCopy_extends migration.npages migration.first
      (migration.slots, world.mem)
  have unlanded (pfn : Nat) (slots : Nat → MigrateSlot) :
      Migration.landed
        { migration with slots := slots, stage := .copied } pfn = false := by
    simp [Migration.landed]
  refine ⟨owned, ?_, ?_⟩
  · apply tracked.apart.advance there _ _ _ _ rfl
    · intro m before present
      exact ⟨before, present, rfl⟩
    · refine ⟨rfl, rfl, rfl, ?_⟩
      intro pfn
      exact congrArg MigratePfn.page
        (dmirrorMigrateAllocAndCopy_sources tracked.owned there alloc pfn)
    · simp
    · intro other found pfn _ _ _ landed
      rw [unlanded] at landed
      cases landed
    · intro _ pfn target aimed
      exact dmirrorMigrateAllocAndCopy_device tracked.owned there alloc pfn
        target aimed (tracked.apart.untargeted id migration pfn there stage)
  · intro other found known
    rcases Owned.update_cases known with ⟨-, rfl⟩ | ⟨-, old⟩
    · constructor
      · intro back
        rw [forward] at back
        cases back
      · intro pfn m dmirror entry landed
        rw [unlanded] at landed
        cases landed
      · intro mapped
        cases mapped
    · refine (tracked.repairs other found old).of_fewer (.of_eq rfl) ?_
      intro pfn target landed aimed
      exact grown.backingPage (tracked.owned.landed_used old landed aimed)

/-- What the copy loop back to system memory does to the slots and to the
table. -/
theorem dmirrorDevmemFaultAllocAndCopy_keeps (alloc : Nat → Option Nat)
    (count first : Nat) (state : FaultCopyState Contents) (pfn : Nat) :
    let after := dmirrorDevmemFaultAllocAndCopy alloc count first state
    (after.slots pfn).src = (state.slots pfn).src ∧
      (∀ entry, after.pt pfn = some entry → state.pt pfn = some entry) ∧
      ((after.slots pfn).dst.page.isSome = true →
        (state.slots pfn).dst.page.isSome = true ∨ after.pt pfn = none) := by
  apply forEach_keeps (fun after : FaultCopyState Contents =>
    (after.slots pfn).src = (state.slots pfn).src ∧
      (∀ entry, after.pt pfn = some entry → state.pt pfn = some entry) ∧
      ((after.slots pfn).dst.page.isSome = true →
        (state.slots pfn).dst.page.isSome = true ∨ after.pt pfn = none))
  · exact ⟨rfl, fun _ found => found, .inl⟩
  · intro index before _ _ held
    rcases dmirrorDevmemFaultAllocAndCopyOne_cases alloc index before with
      same | ⟨spage, rpage, frame, -, -, -, -, taken⟩
    · rw [same]
      exact held
    · rw [taken]
      by_cases here : pfn = index
      · subst here
        simp only [Function.update_self]
        refine ⟨held.1, ?_, fun _ => .inr trivial⟩
        intro entry found
        cases found
      · simp only [Function.update_of_ne here]
        exact held

theorem MovesTracked.faultAllocAndCopy (tracked : world.MovesTracked)
    {id : Nat} {alloc : Nat → Option Nat}
    (moved : world.faultAllocAndCopy id alloc = some next) :
    next.MovesTracked := by
  have owned := tracked.owned.faultAllocAndCopy moved
  obtain ⟨migration, there, back, stage, ⟨-, rfl⟩ |
    ⟨dmirror, after, present, copied, rfl⟩⟩ := faultAllocAndCopy_copied moved
  · exact tracked.of_fewer owned rfl rfl (.of_eq rfl)
  · have keeps := dmirrorDevmemFaultAllocAndCopy_keeps alloc
      migration.npages migration.first
      ⟨migration.slots, world.mem, dmirror.pt⟩
    have links := (Memory.LinksKept.faultAllocAndCopy alloc
      migration.npages migration.first
      ⟨migration.slots, world.mem, dmirror.pt⟩).links
    rw [← copied] at keeps links
    have fewer : world.Fewer (world.setPt migration.dmirror dmirror
        after.pt) := .setPt present fun pfn => (keeps pfn).2.1
    have unlanded (pfn : Nat) (slots : Nat → MigrateSlot) :
        Migration.landed
          { migration with slots := slots, stage := .copied } pfn =
            false := by
      simp [Migration.landed]
    refine ⟨owned, ?_, ?_⟩
    · refine tracked.apart.advance there ?_ ?_ ?_ ?_ rfl fewer.kept
      · refine ⟨rfl, rfl, rfl, ?_⟩
        intro pfn
        exact congrArg MigratePfn.page (keeps pfn).1
      · simp
      · intro other found pfn _ _ _ landed
        rw [unlanded] at landed
        cases landed
      · intro forward
        rw [back] at forward
        cases forward
    · intro other found known
      rcases Owned.update_cases known with ⟨-, rfl⟩ | ⟨-, old⟩
      · constructor
        · intro _ _ pfn own aimed opened
          have opened : (world.setPt migration.dmirror dmirror
              after.pt).dmirror migration.dmirror = some own := opened
          simp only [World.setPt, Function.update_self,
            Option.some.injEq] at opened
          subst opened
          rcases (keeps pfn).2.2 aimed with before | erased
          · rw [tracked.apart.untargeted id migration pfn there stage]
              at before
            cases before
          · exact erased
        · intro pfn m own entry landed
          rw [unlanded] at landed
          cases landed
        · intro mapped
          cases mapped
      · apply (tracked.repairs other found old).of_fewer
        · exact fewer.trans (.of_eq rfl)
        · intro pfn target _ _
          change after.mem.backingPage target = _
          simp only [Memory.backingPage, links]

/-- No other mirror of the process has an entry for an address that gets
another page. -/
def OthersEmpty (world : World Contents) (migration : Migration)
    (slots : Nat → MigrateSlot) : Prop :=
  ∀ pfn m dmirror, (slots pfn).moved = true → m ≠ migration.dmirror →
    world.dmirror m = some dmirror → dmirror.mm = migration.mm →
    dmirror.pt pfn = none

/-- What `migrate_vma_pages` does to an address of a migration. -/
theorem migrateVmaPages_at (owned : world.PagesOwned) {id : Nat}
    {migration : Migration} (there : world.migrations id = some migration)
    (migrated : Nat → Bool) (pfn : Nat) :
    let after := migrateVmaPages migration.vmWrite migrated migration.npages
      migration.first (world.cpu migration.mm, migration.slots)
    (after.2 pfn).dst = (migration.slots pfn).dst ∧
      (after.2 pfn).src.page = (migration.slots pfn).src.page ∧
      (after.1 pfn = world.cpu migration.mm pfn ∧
          ((after.2 pfn).src.page = none → (after.2 pfn).moved = false) ∨
        ∃ newpage, (migration.slots pfn).dst.page = some newpage ∧
          (migration.slots pfn).src.page = none ∧
          (world.cpu migration.mm pfn).insertable = true ∧
          (after.2 pfn).moved = true ∧
          after.1 pfn = .present newpage migration.vmWrite) := by
  intro after
  have cell := migrateVmaPages_cell migration.vmWrite migrated
    migration.npages migration.first
    (world.cpu migration.mm, migration.slots) pfn
  have cell : (after.1 pfn, after.2 pfn) = _ := cell
  split at cell
  · have cases := pagesCell_cases migration.vmWrite (migrated pfn)
      (world.cpu migration.mm pfn) (migration.slots pfn)
    dsimp only at cell cases
    rw [← cell] at cases
    obtain ⟨dst, src, ⟨stays, unmarked⟩ |
      ⟨newpage, target, source, -, free, marked, put⟩⟩ := cases
    · refine ⟨dst, src, .inl ⟨stays, ?_⟩⟩
      intro empty
      cases moved : (after.2 pfn).moved with
      | false => rfl
      | true =>
          simp only [MigrateSlot.moved, Bool.and_eq_true] at moved
          exact absurd ⟨empty, moved.1⟩ unmarked
    · refine ⟨dst, src, .inr ⟨newpage, target, source, free, ?_, put⟩⟩
      have aimed : (after.2 pfn).dst.page = some newpage := by
        rw [dst, target]
      simp only [MigrateSlot.moved, aimed, Option.isSome_some,
        Bool.and_true]
      exact marked
  · next outside =>
    obtain ⟨stays, same⟩ := Prod.mk.inj cell
    have empty := owned.window id migration pfn there outside
    rw [same]
    refine ⟨rfl, rfl, .inl ⟨stays, ?_⟩⟩
    intro _
    dsimp only
    rw [empty]
    rfl

theorem MovesTracked.pages (tracked : world.MovesTracked) {id : Nat}
    {migrated : Nat → Bool}
    (others : ∀ migration, world.migrations id = some migration →
      world.OthersEmpty migration (migrateVmaPages migration.vmWrite migrated
        migration.npages migration.first
        (world.cpu migration.mm, migration.slots)).2)
    (moved : world.pages id migrated = some next) : next.MovesTracked := by
  have owned := tracked.owned.pages moved
  obtain ⟨migration, after, there, stage, made, rfl⟩ := pages_migrated moved
  have empty := others migration there
  have at_ := migrateVmaPages_at tracked.owned there migrated
  rw [← made] at empty at_
  have landed_moved {pfn : Nat}
      (landed : Migration.landed
        { migration with slots := after.2, stage := .migrated } pfn =
          true) : (after.2 pfn).moved = true := by
    simpa [Migration.landed] using landed
  refine ⟨owned, ?_, ?_⟩
  · refine tracked.apart.advance there ?_ ?_ ?_ ?_ rfl ?_
    · exact ⟨rfl, rfl, rfl, fun pfn => (at_ pfn).2.1⟩
    · simp
    · intro other found pfn different known same landed
      cases already : found.landed pfn with
      | false => rfl
      | true =>
          have moved := landed_moved landed
          obtain ⟨dst, source, ⟨stays, hole⟩ | ⟨_, _, -, free, -, -⟩⟩ :=
            at_ pfn
          · cases held : (migration.slots pfn).src.page with
            | none =>
                rw [hole (source.trans held)] at moved
                cases moved
            | some page =>
                exact absurd (tracked.owned.source_unlanded there known
                  same held already) different
          · rcases tracked.owned.landed_pte known already with
              ⟨page, writable, -, entry⟩ | ⟨target, writable, -, -, device,
                entry⟩
            · rw [same] at entry
              rw [entry] at free
              cases free
            · rw [same] at entry
              rw [entry] at free
              cases target with
              | devicePrivate mdevice dpfn => cases free
              | _ => cases device
    · intro forward pfn target aimed
      have aimed : (after.2 pfn).dst.page = some target := aimed
      rw [(at_ pfn).1] at aimed
      exact tracked.apart.device id migration pfn target there forward aimed
    · intro m before present
      exact ⟨before, present, rfl⟩
  · intro other found known
    rcases Owned.update_cases known with ⟨-, rfl⟩ | ⟨-, old⟩
    · constructor
      · intro _ copied
        cases copied
      · intro pfn m dmirror entry landed present process stored
        have moved := landed_moved landed
        by_cases own : m = migration.dmirror
        · refine ⟨?_, own⟩
          subst own
          cases flags : migration.flags with
          | selectSystem => rfl
          | selectDevicePrivate =>
              obtain ⟨-, target, aimed⟩ := Migration.landed_moved landed
              have aimed : (after.2 pfn).dst.page = some target := aimed
              rw [(at_ pfn).1] at aimed
              have none_ := (tracked.repairs id migration there).erased
                flags stage pfn dmirror (by rw [aimed]; rfl) present
              rw [none_] at stored
              cases stored
        · rw [empty pfn m dmirror moved own present process] at stored
          cases stored
      · intro mapped
        cases mapped
    · refine (tracked.repairs other found old).of_fewer (.of_eq rfl) ?_
      intro pfn target _ _
      rfl

/-- The map update stores an entry for every migrated address for which the
mirror has one. -/
def StoresEntries (world : World Contents) (migration : Migration)
    (xaFails : Nat → Bool) : Prop :=
  ∀ dmirror pfn entry, world.dmirror migration.dmirror = some dmirror →
    (migration.slots pfn).moved = true → dmirror.pt pfn = some entry →
    StoresThrough migration.slots xaFails migration.first pfn

theorem MovesTracked.finalizeAndMap (tracked : world.MovesTracked)
    {id : Nat} {xaFails : Nat → Bool}
    (stores : ∀ migration, world.migrations id = some migration →
      world.StoresEntries migration xaFails)
    (moved : world.finalizeAndMap id xaFails = some next) :
    next.MovesTracked := by
  have owned := tracked.owned.finalizeAndMap moved
  obtain ⟨migration, there, forward, stage, ⟨-, rfl⟩ | ⟨dmirror, pt, present,
    mapped, rfl⟩⟩ := finalizeAndMap_mapped moved
  · exact tracked.of_fewer owned rfl rfl (.of_eq rfl)
  · have through := stores migration there
    have update := dmirrorMigrateFinalizeAndMap_at world.mem
      migration.slots xaFails migration.npages migration.first dmirror.pt
    rw [← mapped] at update
    have process : dmirror.mm = migration.mm := by
      obtain ⟨own, opened, mm⟩ :=
        tracked.apart.mirror id migration there forward
      rw [present, Option.some.injEq] at opened
      exact opened ▸ mm
    have landed_same (pfn : Nat) : Migration.landed
        { migration with stage := .mapped } pfn = migration.landed pfn := by
      simp [Migration.landed, stage]
    have kept : ∀ m before, world.dmirror m = some before → ∃ after,
        (world.setPt migration.dmirror dmirror pt).dmirror m = some after ∧
          after.mm = before.mm := by
      intro m before opened
      by_cases here : m = migration.dmirror
      · subst here
        rw [present, Option.some.injEq] at opened
        exact ⟨_, Function.update_self .., opened ▸ rfl⟩
      · exact ⟨before, (Function.update_of_ne here ..).trans opened, rfl⟩
    refine ⟨owned, ?_, ?_⟩
    · refine tracked.apart.advance there ?_ ?_ ?_ ?_ rfl kept
      · exact ⟨rfl, rfl, rfl, fun _ => rfl⟩
      · simp
      · intro other found pfn different known same landed
        rw [landed_same] at landed
        cases already : found.landed pfn with
        | false => rfl
        | true =>
            exact absurd (tracked.apart.alone other id found migration pfn
              known there same already landed) different
      · intro _ pfn target aimed
        exact tracked.apart.device id migration pfn target there forward
          aimed
    · intro other found known
      rcases Owned.update_cases known with ⟨-, rfl⟩ | ⟨different, old⟩
      · constructor
        · intro back
          rw [forward] at back
          cases back
        · intro pfn m after entry landed opened same stored
          refine ⟨forward, ?_⟩
          by_contra foreign
          have opened : (world.setPt migration.dmirror dmirror pt).dmirror
              m = some after := opened
          simp only [World.setPt, Function.update_of_ne foreign] at opened
          rw [landed_same] at landed
          exact foreign ((tracked.repairs id migration there).own pfn m
            after entry landed opened same stored).2
        · intro _ pfn after entry target landed aimed opened stored
          have opened : (world.setPt migration.dmirror dmirror pt).dmirror
              migration.dmirror = some after := opened
          simp only [World.setPt, Function.update_self,
            Option.some.injEq] at opened
          subst opened
          have moved : (migration.slots pfn).moved = true := by
            simpa [Migration.landed] using landed
          have inside : migration.first ≤ pfn ∧
              pfn < migration.first + migration.npages := by
            by_contra outside
            have empty := tracked.owned.window id migration pfn there
              outside
            rw [empty] at moved
            cases moved
          by_cases reached : StoresThrough migration.slots xaFails
              migration.first pfn
          · have put := (update pfn).1 target inside.1 inside.2 moved aimed
              reached
            have stored : pt pfn = some entry := stored
            rw [put, finalizeAndMapEntry, Option.map_eq_some_iff] at stored
            obtain ⟨rpage, link, rfl⟩ := stored
            exact link
          · have stays := (update pfn).2 fun all => reached all.2.2.2
            have stored : pt pfn = some entry := stored
            rw [stays] at stored
            exact absurd (through dmirror pfn entry present moved stored)
              reached
      · have forward' : found.flags = .selectSystem := by
          cases flags : found.flags with
          | selectSystem => rfl
          | selectDevicePrivate =>
              exact absurd (tracked.apart.back other id found migration old
                there flags) different
        refine (tracked.repairs other found old).of_stored present rfl rfl
          (tracked.apart.mirror other found old forward') forward' ?_
        intro pfn entry stored
        by_cases mapped : migration.first ≤ pfn ∧
            pfn < migration.first + migration.npages ∧
            (migration.slots pfn).moved = true ∧
            StoresThrough migration.slots xaFails migration.first pfn
        · refine .inr fun same => ?_
          cases already : found.landed pfn with
          | false => rfl
          | true =>
              have landed : migration.landed pfn = true := by
                simp [Migration.landed, stage, mapped.2.2.1]
              exact absurd (tracked.apart.alone other id found migration
                pfn old there (same.symm.trans process) already landed)
                different
        · rw [(update pfn).2 mapped] at stored
          exact .inl stored

theorem MovesTracked.finalize (tracked : world.MovesTracked) {id : Nat}
    (moved : world.finalize id = some next) : next.MovesTracked := by
  have owned := tracked.owned.finalize moved
  obtain ⟨migration, after, there, -, rfl, rfl⟩ := finalize_finished moved
  refine ⟨owned, tracked.apart.remove id rfl rfl, ?_⟩
  intro other found known
  have old : world.migrations other = some found := by
    by_cases here : other = id
    · subst here
      simp [World.setMigration] at known
    · simpa [World.setMigration, World.remap, here] using known
  refine (tracked.repairs other found old).of_fewer (.of_eq rfl) ?_
  intro pfn target _ _
  have links := (migrateVmaFinalize_mem migration.slots migration.npages
    migration.first (world.cpu migration.mm, world.mem)).1
  change (migrateVmaFinalize migration.slots migration.npages
    migration.first (world.cpu migration.mm, world.mem)).2.backingPage
      target = _
  simp only [Memory.backingPage, links]

/-- Nothing is in progress. -/
structure Idle (world : World Contents) : Prop where
  migrations : ∀ id, world.migrations id = none
  faults : ∀ id, world.faults id = none
  invalidations : world.invalidations = []

/-- Requests that do not overlap: migrations and EXCLUSIVE windows start when
nothing is in progress, and everything else that reads or changes a page
table waits until no migration is in progress. -/
def OneAtATime (world : World Contents) : Input Contents → Prop
  | .setup _ _ _ _ _ _ _ => world.Idle
  | .cpuFault _ _ _ _ _ => world.Idle
  | .exclusive _ _ _ _ _ _ => world.Idle
  | .closeFile _ => ∀ id, world.migrations id = none
  | .readBegin _ _ _ _ _ => ∀ id, world.migrations id = none
  | .doFault _ _ => ∀ id, world.migrations id = none
  | .invalidateStart _ _ => ∀ id, world.migrations id = none
  | .cpuChange _ _ _ => ∀ id, world.migrations id = none
  | .release _ _ => ∀ id, world.migrations id = none
  | _ => True

theorem OneAtATime.locked {input : Input Contents}
    (single : world.OneAtATime input) : world.Locked input := by
  cases input with
  | setup _ _ _ _ _ _ _ => exact fun _ => single.migrations
  | cpuFault _ _ _ _ _ => exact single.migrations
  | cpuChange _ _ _ => exact single
  | release _ _ => exact single
  | _ => trivial

/-- What has to hold when a migration changes a page table or a mirror: no
other mirror has an entry for an address that gets another page, and the map
update reaches the addresses for which its own mirror has one. -/
def Repairable (world : World Contents) : Input Contents → Prop
  | .pages id migrated => ∀ migration,
      world.migrations id = some migration →
      world.OthersEmpty migration (migrateVmaPages migration.vmWrite migrated
        migration.npages migration.first
        (world.cpu migration.mm, migration.slots)).2
  | .finalizeAndMap id xaFails => ∀ migration,
      world.migrations id = some migration →
      world.StoresEntries migration xaFails
  | _ => True

theorem populate_migrations [Zero Contents] {mm pfn frame : Nat}
    {writable : Bool}
    (moved : world.populate mm pfn frame writable = some next) :
    next.migrations = world.migrations := by
  obtain ⟨-, -, rfl⟩ := populate_mapped moved
  rfl

theorem populateZero_migrations {mm pfn : Nat}
    (moved : world.populateZero mm pfn = some next) :
    next.migrations = world.migrations := by
  obtain ⟨-, rfl⟩ := populateZero_mapped moved
  rfl

theorem cpuChange_migrations {mm pfn : Nat} {change : CpuChange}
    (moved : world.cpuChange mm pfn change = some next) :
    next.migrations = world.migrations := by
  obtain ⟨-, ⟨_, _, -, rfl⟩ | ⟨_, _, -, rfl⟩ | ⟨_, _, _, -, rfl⟩ |
    ⟨_, _, _, _, _, -, -, -, rfl⟩⟩ := cpuChange_made moved
  · rfl
  · rfl
  · rfl
  · rfl

theorem exclusive_migrations {m count first : Nat}
    {pages : Nat → Option Page} {complete : Bool} {xaFails : Nat → Bool}
    (moved : world.exclusive m count first pages complete xaFails =
      some next) : next.migrations = world.migrations :=
  (SamePages.exclusive moved).migrations

theorem release_migrations {mdevice : Nat}
    {evictions : List (Nat × Nat × Nat)}
    (moved : world.release mdevice evictions = some next) :
    next.migrations = world.migrations := by
  refine release_keeps
    (fun between => between.migrations = world.migrations) ?_ rfl moved
  rintro between after ⟨mm, pfn, frame⟩ held evicted
  obtain ⟨_, _, _, -, -, -, rfl⟩ := evictPage_evicted evicted
  exact held

theorem MovesTracked.step [Zero Contents] (tracked : world.MovesTracked)
    {input : Input Contents} (single : world.OneAtATime input)
    (repairable : world.Repairable input)
    (moved : world.step input = some next) : next.MovesTracked := by
  have owned : next.PagesOwned := tracked.owned.step single.locked moved
  cases input with
  | openFile _ _ _ =>
      have same := SamePages.openFile moved
      exact tracked.of_fewer owned same.migrations same.links
        (.openFile moved)
  | closeFile _ =>
      apply MovesTracked.of_idle owned
      rw [(SamePages.closeFile moved).migrations]
      exact single
  | doWrite _ _ _ _ =>
      have same := SamePages.doWrite moved
      exact tracked.of_fewer owned same.migrations same.links (.doWrite moved)
  | readBegin _ _ _ _ _ =>
      have same := SamePages.readBegin moved
      exact tracked.of_fewer owned same.migrations same.links
        (.readBegin moved)
  | hmmRangeFault _ =>
      have same := SamePages.hmmRangeFault moved
      exact tracked.of_fewer owned same.migrations same.links
        (.hmmRangeFault moved)
  | abandonFault _ =>
      have same := SamePages.abandonFault moved
      exact tracked.of_fewer owned same.migrations same.links
        (.abandonFault moved)
  | doFault _ _ =>
      apply MovesTracked.of_idle owned
      rw [(SamePages.doFault moved).migrations]
      exact single
  | populate _ _ _ _ =>
      refine tracked.of_fewer owned ?_ (Steady.populate moved).mem.links
        (.populate moved)
      exact populate_migrations moved
  | populateZero _ _ =>
      refine tracked.of_fewer owned ?_ (Steady.populateZero moved).mem.links
        (.populateZero moved)
      exact populateZero_migrations moved
  | invalidateStart _ _ =>
      have same := SamePages.invalidateStart moved
      exact tracked.of_fewer owned same.migrations same.links
        (.invalidateStart moved)
  | cpuChange _ _ _ =>
      apply MovesTracked.of_idle owned
      rw [cpuChange_migrations moved]
      exact single
  | invalidateEnd _ =>
      have same := SamePages.invalidateEnd moved
      exact tracked.of_fewer owned same.migrations same.links
        (.invalidateEnd moved)
  | setup _ _ _ _ _ _ _ =>
      apply tracked.setup _ moved
      intro other found known
      rw [single.migrations other] at known
      cases known
  | cpuFault _ _ _ _ _ => exact tracked.cpuFault single.migrations moved
  | allocAndCopy _ _ => exact tracked.allocAndCopy moved
  | faultAllocAndCopy _ _ => exact tracked.faultAllocAndCopy moved
  | pages _ _ => exact tracked.pages repairable moved
  | finalizeAndMap _ _ => exact tracked.finalizeAndMap repairable moved
  | finalize _ => exact tracked.finalize moved
  | exclusive _ _ _ _ _ _ =>
      apply MovesTracked.of_idle owned
      rw [exclusive_migrations moved]
      exact single.migrations
  | release _ _ =>
      apply MovesTracked.of_idle owned
      rw [release_migrations moved]
      exact single

end World

end Rshm.Hmm
