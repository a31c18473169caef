import Rshm.Hmm.LiveMirror
import Rshm.Hmm.StaleEntries

/-!
# The entries of migrated addresses

The mirrors of a process ignore the migrations of their own device, so it is
left to the driver to repair the entries of the addresses that get another
page: the copy loop back to system memory erases them, and
`dmirror_migrate_finalize_and_map` replaces them.  Both work on one mirror.
The invariant says what the mirrors have at such an address between
`migrate_vma_pages` and `migrate_vma_finalize`.
-/

namespace Rshm.Hmm

open RangeLoop

variable {Contents : Type}

/-- `migrate_vma_pages` has given the address another page. -/
def Migration.landed (migration : Migration) (pfn : Nat) : Bool :=
  (migration.stage == .migrated || migration.stage == .mapped) &&
    (migration.slots pfn).moved

theorem Migration.landed_moved {migration : Migration} {pfn : Nat}
    (landed : migration.landed pfn = true) :
    (migration.slots pfn).src.migrate = true ∧
      ∃ target, (migration.slots pfn).dst.page = some target := by
  simp only [Migration.landed, MigrateSlot.moved, Bool.and_eq_true] at landed
  exact ⟨landed.2.1, Option.isSome_iff_exists.mp landed.2.2⟩

/-- The page table entry of a migrated address waits for its page to be put
back, or has got the target already. -/
theorem Owned.landed_pte {inUse : Finset Page}
    {zoneDeviceData : Page → ZoneDeviceData} {cpu : Nat → Nat → Pte}
    {migrations : Nat → Option Migration}
    (owned : Owned inUse zoneDeviceData cpu migrations) {id : Nat}
    {migration : Migration} (there : migrations id = some migration)
    {pfn : Nat} (landed : migration.landed pfn = true) :
    (∃ page writable, (migration.slots pfn).src.page = some page ∧
      cpu migration.mm pfn = .migration page writable) ∨
    ∃ target writable, (migration.slots pfn).src.page = none ∧
      (migration.slots pfn).dst.page = some target ∧
      target.isDevicePrivatePage = true ∧
      cpu migration.mm pfn = .present target writable := by
  obtain ⟨marked, target, aimed⟩ := Migration.landed_moved landed
  cases source : (migration.slots pfn).src.page with
  | some page =>
      obtain ⟨writable, entry⟩ :=
        owned.unmapped id migration pfn page there source
      exact .inl ⟨page, writable, rfl, entry⟩
  | none =>
      have inserted : migration.inserted pfn = true := by
        simp only [Migration.landed, Bool.and_eq_true] at landed
        simp only [Migration.inserted, source, marked, landed.1,
          Option.isNone_none, Bool.and_self]
      obtain ⟨writable, entry⟩ :=
        owned.inserted id migration pfn target there inserted aimed
      exact .inr ⟨target, writable, rfl, aimed,
        owned.hole id migration pfn target there source aimed, entry⟩

theorem Owned.landed_used {inUse : Finset Page}
    {zoneDeviceData : Page → ZoneDeviceData} {cpu : Nat → Nat → Pte}
    {migrations : Nat → Option Migration}
    (owned : Owned inUse zoneDeviceData cpu migrations) {id : Nat}
    {migration : Migration} (there : migrations id = some migration)
    {pfn : Nat} (landed : migration.landed pfn = true) {target : Page}
    (aimed : (migration.slots pfn).dst.page = some target) :
    target ∈ inUse := by
  rcases owned.landed_pte there landed with
    ⟨page, -, source, -⟩ | ⟨found, writable, -, aimed', device, entry⟩
  · apply owned.exclusive.alive (.dst id pfn) target
    refine ⟨migration, there, aimed, ?_⟩
    simp [Migration.inserted, source]
  · rw [aimed] at aimed'
    cases aimed'
    apply owned.exclusive.alive (.pte migration.mm pfn) target
    refine ⟨?_, writable, entry⟩
    rintro rfl
    cases device

theorem Owned.aimed_used {inUse : Finset Page}
    {zoneDeviceData : Page → ZoneDeviceData} {cpu : Nat → Nat → Pte}
    {migrations : Nat → Option Migration}
    (owned : Owned inUse zoneDeviceData cpu migrations) {id pfn : Nat}
    {migration : Migration} (there : migrations id = some migration)
    {target : Page} (aimed : (migration.slots pfn).dst.page = some target) :
    target ∈ inUse := by
  cases inserted : migration.inserted pfn with
  | false =>
      exact owned.exclusive.alive (.dst id pfn) target
        ⟨migration, there, aimed, inserted⟩
  | true =>
      apply owned.landed_used there ?_ aimed
      simp only [Migration.inserted, Bool.and_eq_true] at inserted
      simp [Migration.landed, MigrateSlot.moved, inserted.1.1, inserted.2,
        aimed]

theorem Owned.source_unlanded {inUse : Finset Page}
    {zoneDeviceData : Page → ZoneDeviceData} {cpu : Nat → Nat → Pte}
    {migrations : Nat → Option Migration}
    (owned : Owned inUse zoneDeviceData cpu migrations) {id other : Nat}
    {migration found : Migration} (there : migrations id = some migration)
    (known : migrations other = some found) (same : found.mm = migration.mm)
    {pfn : Nat} {page : Page}
    (source : (migration.slots pfn).src.page = some page)
    (landed : found.landed pfn = true) : other = id := by
  obtain ⟨writable, entry⟩ :=
    owned.unmapped id migration pfn page there source
  rcases owned.landed_pte known landed with
    ⟨page', writable', source', entry'⟩ | ⟨target, writable', -, -, -, entry'⟩
  · rw [same, entry] at entry'
    cases entry'
    have once := owned.exclusive.once (.src other pfn) (.src id pfn) page
      ⟨found, known, source'⟩ ⟨migration, there, source⟩
    cases once
    rfl
  · rw [same, entry] at entry'
    cases entry'

namespace World

variable {world next : World Contents}

/-- Every mirror is still there, and every entry is an earlier one. -/
structure Fewer (world next : World Contents) : Prop where
  kept : ∀ m before, world.dmirror m = some before → ∃ after,
    next.dmirror m = some after ∧ after.mm = before.mm
  entries : ∀ m after pfn entry, next.dmirror m = some after →
    after.pt pfn = some entry → ∃ before, world.dmirror m = some before ∧
      before.mm = after.mm ∧ before.pt pfn = some entry

theorem Fewer.of_eq (same : next.dmirror = world.dmirror) :
    world.Fewer next := by
  constructor
  · intro m before present
    exact ⟨before, same ▸ present, rfl⟩
  · intro m after pfn entry present found
    exact ⟨after, same ▸ present, rfl, found⟩

theorem Fewer.trans {middle : World Contents} (first : world.Fewer middle)
    (second : middle.Fewer next) : world.Fewer next := by
  constructor
  · intro m before present
    obtain ⟨between, reached, same⟩ := first.kept m before present
    obtain ⟨after, opened, kept⟩ := second.kept m between reached
    exact ⟨after, opened, kept.trans same⟩
  · intro m after pfn entry present found
    obtain ⟨between, reached, same, stored⟩ :=
      second.entries m after pfn entry present found
    obtain ⟨before, opened, kept, old⟩ :=
      first.entries m between pfn entry reached stored
    exact ⟨before, opened, kept.trans same, old⟩

theorem Fewer.notify (world : World Contents) (event : NotifierEvent)
    (owner : Option Nat) (mm first last : Nat) :
    world.Fewer (world.notify event owner mm first last) := by
  constructor
  · intro m before present
    have told : (world.notify event owner mm first last).dmirror m =
        some (if before.mm = mm then
          dmirrorIntervalInvalidate event owner first last before
        else before) := congrArg (Option.map _) present
    refine ⟨_, told, ?_⟩
    split
    · exact dmirrorIntervalInvalidate_mm event owner first last before
    · rfl
  · intro m after pfn entry present found
    obtain ⟨before, opened, rfl⟩ := notify_dmirror present
    split at found
    · next own =>
      refine ⟨before, opened, ?_, dmirrorIntervalInvalidate_entry found⟩
      rw [if_pos own, dmirrorIntervalInvalidate_mm]
    · next foreign =>
      exact ⟨before, opened, by rw [if_neg foreign], found⟩

theorem Fewer.setPt {m : Nat} {dmirror : Dmirror} {pt : XArray}
    (present : world.dmirror m = some dmirror)
    (fewer : ∀ pfn entry, pt pfn = some entry →
      dmirror.pt pfn = some entry) :
    world.Fewer (world.setPt m dmirror pt) := by
  constructor
  · intro n before opened
    by_cases here : n = m
    · subst here
      obtain rfl : dmirror = before :=
        Option.some.inj (present.symm.trans opened)
      exact ⟨_, Function.update_self .., rfl⟩
    · exact ⟨before, (Function.update_of_ne here ..).trans opened, rfl⟩
  · intro n after pfn entry opened found
    by_cases here : n = m
    · subst here
      simp only [World.setPt, Function.update_self,
        Option.some.injEq] at opened
      subst opened
      exact ⟨dmirror, present, rfl, fewer pfn entry found⟩
    · simp only [World.setPt, Function.update_of_ne here] at opened
      exact ⟨after, opened, rfl, found⟩

theorem Fewer.openFile {m mdevice mm : Nat}
    (moved : world.openFile m mdevice mm = some next) :
    world.Fewer next := by
  obtain ⟨free, -, rfl⟩ := openFile_opened moved
  constructor
  · intro n before present
    have other : n ≠ m := by
      rintro rfl
      rw [present] at free
      cases free
    exact ⟨before, (Function.update_of_ne other ..).trans present, rfl⟩
  · intro n after pfn entry present found
    by_cases here : n = m
    · subst here
      simp only [Function.update_self, Option.some.injEq] at present
      subst present
      cases found
    · simp only [Function.update_of_ne here] at present
      exact ⟨after, present, rfl, found⟩

theorem Fewer.doWrite {m count first : Nat}
    {bounce : DmirrorBounce Contents}
    (moved : world.doWrite m count first bounce = some next) :
    world.Fewer next := by
  obtain ⟨dmirror, _, rfl⟩ := Option.map_eq_some_iff.mp moved
  exact .of_eq rfl

theorem Fewer.readBegin {id m count first : Nat} {write : Bool}
    (moved : world.readBegin id m count first write = some next) :
    world.Fewer next := by
  obtain ⟨_, -, -, -, rfl⟩ := readBegin_started moved
  exact .of_eq rfl

theorem Fewer.hmmRangeFault {id : Nat}
    (moved : world.hmmRangeFault id = some next) : world.Fewer next := by
  obtain ⟨_, _, -, -, -, rfl⟩ := hmmRangeFault_taken moved
  exact .of_eq rfl

theorem Fewer.abandonFault {id : Nat}
    (moved : world.abandonFault id = some next) : world.Fewer next := by
  obtain rfl := abandonFault_dropped moved
  exact .of_eq rfl

theorem Fewer.populate [Zero Contents] {mm pfn frame : Nat}
    {writable : Bool}
    (moved : world.populate mm pfn frame writable = some next) :
    world.Fewer next := by
  obtain ⟨-, -, rfl⟩ := populate_mapped moved
  exact .of_eq rfl

theorem Fewer.populateZero {mm pfn : Nat}
    (moved : world.populateZero mm pfn = some next) : world.Fewer next := by
  obtain ⟨-, rfl⟩ := populateZero_mapped moved
  exact .of_eq rfl

theorem Fewer.invalidateStart {event : NotifierEvent}
    {range : Invalidation}
    (moved : world.invalidateStart event range = some next) :
    world.Fewer next := by
  obtain ⟨-, rfl⟩ := invalidateStart_told moved
  exact (Fewer.notify world event none range.mm range.first range.last).trans
    (.of_eq rfl)

theorem Fewer.cpuChange {mm pfn : Nat} {change : CpuChange}
    (moved : world.cpuChange mm pfn change = some next) :
    world.Fewer next := by
  obtain ⟨-, ⟨_, _, -, rfl⟩ | ⟨_, _, -, rfl⟩ | ⟨_, _, _, -, rfl⟩ |
    ⟨_, _, _, _, _, -, -, -, rfl⟩⟩ := cpuChange_made moved
  · exact .of_eq rfl
  · exact .of_eq rfl
  · exact .of_eq rfl
  · exact .of_eq rfl

theorem Fewer.invalidateEnd {range : Invalidation}
    (moved : world.invalidateEnd range = some next) : world.Fewer next := by
  obtain ⟨-, rfl⟩ := invalidateEnd_ended moved
  exact .of_eq rfl

theorem Fewer.evictPage {mdevice : Nat} {eviction : Nat × Nat × Nat}
    (moved : world.evictPage mdevice eviction = some next) :
    world.Fewer next := by
  obtain ⟨mm, pfn, frame⟩ := eviction
  obtain ⟨_, _, _, -, -, -, rfl⟩ := evictPage_evicted moved
  exact (Fewer.notify world .clear none mm pfn (pfn + 1)).trans (.of_eq rfl)

theorem Fewer.release {mdevice : Nat} {evictions : List (Nat × Nat × Nat)}
    (moved : world.release mdevice evictions = some next) :
    world.Fewer next :=
  release_keeps world.Fewer
    (fun _ _ _ held evicted => held.trans (.evictPage evicted)) (.of_eq rfl)
    moved

/-- No address is migrated twice at a time, a migration back to system memory
runs alone, and one to the device finds its mirror. -/
structure MigrationsApart (world : World Contents) : Prop where
  alone : ∀ id other migration found pfn,
    world.migrations id = some migration →
    world.migrations other = some found → migration.mm = found.mm →
    migration.landed pfn = true → found.landed pfn = true → id = other
  back : ∀ id other migration found,
    world.migrations id = some migration →
    world.migrations other = some found →
    migration.flags = .selectDevicePrivate → id = other
  system : ∀ id migration pfn page, world.migrations id = some migration →
    migration.flags = .selectSystem →
    (migration.slots pfn).src.page = some page →
    page ≠ .zero ∧ page.isDevicePrivatePage = false
  device : ∀ id migration pfn target,
    world.migrations id = some migration → migration.flags = .selectSystem →
    (migration.slots pfn).dst.page = some target →
    target.isDevicePrivatePage = true
  mirror : ∀ id migration, world.migrations id = some migration →
    migration.flags = .selectSystem → ∃ dmirror,
      world.dmirror migration.dmirror = some dmirror ∧
        dmirror.mm = migration.mm
  untargeted : ∀ id migration pfn, world.migrations id = some migration →
    migration.stage = .setup → (migration.slots pfn).dst.page = none

/-- A later point of the same migration. -/
structure SameMigration (before after : Migration) : Prop where
  mm : after.mm = before.mm
  flags : after.flags = before.flags
  dmirror : after.dmirror = before.dmirror
  sources : ∀ pfn, (after.slots pfn).src.page = (before.slots pfn).src.page

theorem MigrationsApart.of_same (apart : world.MigrationsApart)
    (same : next.migrations = world.migrations)
    (kept : ∀ m before, world.dmirror m = some before → ∃ after,
      next.dmirror m = some after ∧ after.mm = before.mm) :
    next.MigrationsApart := by
  constructor
  · rw [same]
    exact apart.alone
  · rw [same]
    exact apart.back
  · rw [same]
    exact apart.system
  · rw [same]
    exact apart.device
  · intro id migration there forward
    rw [same] at there
    obtain ⟨before, present, process⟩ :=
      apart.mirror id migration there forward
    obtain ⟨after, opened, mm⟩ := kept _ before present
    exact ⟨after, opened, mm.trans process⟩
  · rw [same]
    exact apart.untargeted

theorem MigrationsApart.advance (apart : world.MigrationsApart) {id : Nat}
    {migration after : Migration}
    (there : world.migrations id = some migration)
    (same : SameMigration migration after) (begun : after.stage ≠ .setup)
    (alone : ∀ other found pfn, other ≠ id →
      world.migrations other = some found → found.mm = migration.mm →
      after.landed pfn = true → found.landed pfn = false)
    (device : migration.flags = .selectSystem → ∀ pfn target,
      (after.slots pfn).dst.page = some target →
      target.isDevicePrivatePage = true)
    (migrations : next.migrations =
      Function.update world.migrations id (some after))
    (kept : ∀ m before, world.dmirror m = some before → ∃ after,
      next.dmirror m = some after ∧ after.mm = before.mm) :
    next.MigrationsApart := by
  have find {other : Nat} {found : Migration}
      (known : next.migrations other = some found) :
      other = id ∧ found = after ∨
        other ≠ id ∧ world.migrations other = some found :=
    Owned.update_cases (migrations ▸ known)
  constructor
  · intro left right found found' pfn known known' process landed landed'
    rcases find known with ⟨rfl, rfl⟩ | ⟨apart_, old⟩
    · rcases find known' with ⟨rfl, rfl⟩ | ⟨apart_', old'⟩
      · rfl
      · have clear := alone right found' pfn apart_' old'
          (process.symm.trans same.mm) landed
        rw [landed'] at clear
        cases clear
    · rcases find known' with ⟨rfl, rfl⟩ | ⟨apart_', old'⟩
      · have clear := alone left found pfn apart_ old
          (process.trans same.mm) landed'
        rw [landed] at clear
        cases clear
      · exact apart.alone left right found found' pfn old old' process landed
          landed'
  · intro left right found found' known known' back
    rcases find known with ⟨rfl, rfl⟩ | ⟨-, old⟩
    · rw [same.flags] at back
      rcases find known' with ⟨rfl, -⟩ | ⟨-, old'⟩
      · rfl
      · exact apart.back left right migration found' there old' back
    · rcases find known' with ⟨rfl, -⟩ | ⟨-, old'⟩
      · exact apart.back left right found migration old there back
      · exact apart.back left right found found' old old' back
  · intro other found pfn page known forward source
    rcases find known with ⟨rfl, rfl⟩ | ⟨-, old⟩
    · rw [same.sources] at source
      exact apart.system other migration pfn page there
        (same.flags ▸ forward) source
    · exact apart.system other found pfn page old forward source
  · intro other found pfn target known forward aimed
    rcases find known with ⟨rfl, rfl⟩ | ⟨-, old⟩
    · exact device (same.flags ▸ forward) pfn target aimed
    · exact apart.device other found pfn target old forward aimed
  · intro other found known forward
    have before : ∃ dmirror, world.dmirror found.dmirror = some dmirror ∧
        dmirror.mm = found.mm := by
      rcases find known with ⟨rfl, rfl⟩ | ⟨-, old⟩
      · rw [same.dmirror, same.mm]
        exact apart.mirror other migration there (same.flags ▸ forward)
      · exact apart.mirror other found old forward
    obtain ⟨dmirror, present, process⟩ := before
    obtain ⟨last, opened, mm⟩ := kept _ dmirror present
    exact ⟨last, opened, mm.trans process⟩
  · intro other found pfn known stage
    rcases find known with ⟨rfl, rfl⟩ | ⟨-, old⟩
    · exact absurd stage begun
    · exact apart.untargeted other found pfn old stage

theorem MigrationsApart.remove (apart : world.MigrationsApart) (id : Nat)
    (migrations : next.migrations =
      Function.update world.migrations id none)
    (mirrors : next.dmirror = world.dmirror) : next.MigrationsApart := by
  have find {other : Nat} {found : Migration}
      (known : next.migrations other = some found) :
      world.migrations other = some found := by
    rw [migrations] at known
    by_cases here : other = id
    · rw [here, Function.update_self] at known
      cases known
    · rwa [Function.update_of_ne here] at known
  constructor
  · intro left right found found' pfn known known'
    exact apart.alone left right found found' pfn (find known) (find known')
  · intro left right found found' known known'
    exact apart.back left right found found' (find known) (find known')
  · intro other found pfn page known
    exact apart.system other found pfn page (find known)
  · intro other found pfn target known
    exact apart.device other found pfn target (find known)
  · intro other found known
    rw [mirrors]
    exact apart.mirror other found (find known)
  · intro other found pfn known
    exact apart.untargeted other found pfn (find known)

/-- What `migrate_vma_setup` leaves in a slot. -/
theorem migrateVmaSetup_slot (flags : MigrateVmaDirection)
    (pgmapOwner : Nat) (collected : Nat → Bool) (count first : Nat)
    (cpu : Nat → Pte) (pfn : Nat) :
    let slot := (migrateVmaSetup flags pgmapOwner collected count first
      cpu).2 pfn
    slot.dst.page = none ∧ ∀ page, slot.src.page = some page →
      page ≠ .zero ∧ (page.isDevicePrivatePage = true →
        flags = .selectDevicePrivate) := by
  intro slot
  have cell := migrateVmaSetup_cell flags pgmapOwner collected count first
    cpu pfn
  dsimp only at cell
  split at cell
  · obtain ⟨-, made⟩ := Prod.mk.inj cell
    have made : slot = ⟨if collected pfn = true then
      migrateVmaCollect flags pgmapOwner (cpu pfn) else .empty, .empty⟩ :=
      made
    rw [made]
    refine ⟨rfl, ?_⟩
    intro page source
    dsimp only at source
    split at source
    · obtain ⟨nonzero, -, device⟩ := migrateVmaCollect_source source
      exact ⟨nonzero, device⟩
    · cases source
  · obtain ⟨-, made⟩ := Prod.mk.inj cell
    have made : slot = .empty := made
    rw [made]
    exact ⟨rfl, nofun⟩

theorem MigrationsApart.migrateSetup (apart : world.MigrationsApart)
    {id m mdevice mm : Nat} {flags : MigrateVmaDirection} (vmWrite : Bool)
    (count first : Nat) (collected : Nat → Bool)
    (unused : world.migrations id = none)
    (mirror : flags = .selectSystem → ∃ dmirror,
      world.dmirror m = some dmirror ∧ dmirror.mm = mm)
    (others : ∀ other found, world.migrations other = some found →
      flags = .selectSystem ∧ found.flags = .selectSystem) :
    (world.migrateSetup id m mdevice mm flags vmWrite count first
      collected).MigrationsApart := by
  let started : Migration :=
    { dmirror := m
      pgmapOwner := mdevice
      mm := mm
      flags := flags
      vmWrite := vmWrite
      first := first
      npages := count
      slots := (migrateVmaSetup flags mdevice collected count first
        (world.cpu mm)).2
      stage := .setup }
  have slot := migrateVmaSetup_slot flags mdevice collected count first
    (world.cpu mm)
  have unlanded (pfn : Nat) : started.landed pfn = false := by
    simp [Migration.landed, started]
  have find {other : Nat} {found : Migration}
      (known : (world.migrateSetup id m mdevice mm flags vmWrite count first
        collected).migrations other = some found) :
      other = id ∧ found = started ∨
        other ≠ id ∧ world.migrations other = some found :=
    Owned.update_cases known
  have told := Fewer.notify world .migrate (some mdevice) mm first
    (first + count)
  constructor
  · intro left right found found' pfn known known' process landed landed'
    rcases find known with ⟨-, rfl⟩ | ⟨-, old⟩
    · rw [unlanded] at landed
      cases landed
    · rcases find known' with ⟨-, rfl⟩ | ⟨-, old'⟩
      · rw [unlanded] at landed'
        cases landed'
      · exact apart.alone left right found found' pfn old old' process landed
          landed'
  · intro left right found found' known known' back
    rcases find known with ⟨rfl, rfl⟩ | ⟨-, old⟩
    · rcases find known' with ⟨rfl, -⟩ | ⟨-, old'⟩
      · rfl
      · have forward : started.flags = .selectSystem := (others _ _ old').1
        rw [back] at forward
        cases forward
    · rcases find known' with ⟨rfl, -⟩ | ⟨-, old'⟩
      · rw [(others _ _ old).2] at back
        cases back
      · exact apart.back left right found found' old old' back
  · intro other found pfn page known forward source
    rcases find known with ⟨-, rfl⟩ | ⟨-, old⟩
    · obtain ⟨nonzero, private_⟩ := (slot pfn).2 page source
      refine ⟨nonzero, ?_⟩
      rw [← Bool.not_eq_true]
      intro device
      have back : started.flags = .selectDevicePrivate := private_ device
      rw [back] at forward
      cases forward
    · exact apart.system other found pfn page old forward source
  · intro other found pfn target known forward aimed
    rcases find known with ⟨-, rfl⟩ | ⟨-, old⟩
    · have none_ : (started.slots pfn).dst.page = none := (slot pfn).1
      rw [none_] at aimed
      cases aimed
    · exact apart.device other found pfn target old forward aimed
  · intro other found known forward
    have before : ∃ dmirror, world.dmirror found.dmirror = some dmirror ∧
        dmirror.mm = found.mm := by
      rcases find known with ⟨-, rfl⟩ | ⟨-, old⟩
      · exact mirror forward
      · exact apart.mirror other found old forward
    obtain ⟨dmirror, present, process⟩ := before
    obtain ⟨last, opened, kept⟩ := told.kept _ dmirror present
    exact ⟨last, opened, kept.trans process⟩
  · intro other found pfn known stage
    rcases find known with ⟨-, rfl⟩ | ⟨-, old⟩
    · exact (slot pfn).1
    · exact apart.untargeted other found pfn old stage

/-- What the mirrors have at the addresses of a migration: the copy loop back
to system memory has erased the entries of its mirror, no other mirror has an
entry for a migrated address, and the map update has replaced those of its
mirror. -/
structure Repairs (world : World Contents) (migration : Migration) :
    Prop where
  erased : migration.flags = .selectDevicePrivate →
    migration.stage = .copied → ∀ pfn dmirror,
      (migration.slots pfn).dst.page.isSome = true →
      world.dmirror migration.dmirror = some dmirror →
      dmirror.pt pfn = none
  own : ∀ pfn m dmirror entry, migration.landed pfn = true →
    world.dmirror m = some dmirror → dmirror.mm = migration.mm →
    dmirror.pt pfn = some entry →
    migration.flags = .selectSystem ∧ m = migration.dmirror
  mapped : migration.stage = .mapped → ∀ pfn dmirror entry target,
    migration.landed pfn = true →
    (migration.slots pfn).dst.page = some target →
    world.dmirror migration.dmirror = some dmirror →
    dmirror.pt pfn = some entry →
    world.mem.backingPage target = some entry.page

theorem Repairs.of_fewer {migration : Migration}
    (repairs : world.Repairs migration) (fewer : world.Fewer next)
    (backing : ∀ pfn target, migration.landed pfn = true →
      (migration.slots pfn).dst.page = some target →
      next.mem.backingPage target = world.mem.backingPage target) :
    next.Repairs migration := by
  constructor
  · intro back stage pfn after aimed present
    cases found : after.pt pfn with
    | none => rfl
    | some entry =>
        obtain ⟨before, opened, -, stored⟩ :=
          fewer.entries _ after pfn entry present found
        rw [repairs.erased back stage pfn before aimed opened] at stored
        cases stored
  · intro pfn m after entry landed present process found
    obtain ⟨before, opened, same, stored⟩ :=
      fewer.entries m after pfn entry present found
    exact repairs.own pfn m before entry landed opened
      (same.trans process) stored
  · intro stage pfn after entry target landed aimed present found
    obtain ⟨before, opened, -, stored⟩ :=
      fewer.entries _ after pfn entry present found
    rw [backing pfn target landed aimed]
    exact repairs.mapped stage pfn before entry target landed aimed opened
      stored

/-- Entries are stored in one mirror, none of them at a migrated address. -/
theorem Repairs.of_stored {migration : Migration}
    (repairs : world.Repairs migration) {m : Nat} {dmirror : Dmirror}
    {pt : XArray} (present : world.dmirror m = some dmirror)
    (mirrors : next.dmirror = Function.update world.dmirror m
      (some { dmirror with pt := pt }))
    (links : next.mem.zoneDeviceData = world.mem.zoneDeviceData)
    (mirror : ∃ own, world.dmirror migration.dmirror = some own ∧
      own.mm = migration.mm)
    (forward : migration.flags = .selectSystem)
    (entries : ∀ pfn entry, pt pfn = some entry →
      dmirror.pt pfn = some entry ∨
        (dmirror.mm = migration.mm → migration.landed pfn = false)) :
    next.Repairs migration := by
  -- An entry of a migrated address is an earlier one.
  have old : ∀ n after pfn entry, migration.landed pfn = true →
      next.dmirror n = some after → after.mm = migration.mm →
      after.pt pfn = some entry → ∃ before, world.dmirror n = some before ∧
        before.mm = migration.mm ∧ before.pt pfn = some entry := by
    intro n after pfn entry landed opened process found
    rw [mirrors] at opened
    by_cases here : n = m
    · subst here
      rw [Function.update_self, Option.some.injEq] at opened
      subst opened
      rcases entries pfn entry found with stored | clear
      · exact ⟨dmirror, present, process, stored⟩
      · rw [clear process] at landed
        cases landed
    · rw [Function.update_of_ne here] at opened
      exact ⟨after, opened, process, found⟩
  constructor
  · intro back
    rw [forward] at back
    cases back
  · intro pfn n after entry landed opened process found
    obtain ⟨before, earlier, same, stored⟩ :=
      old n after pfn entry landed opened process found
    exact repairs.own pfn n before entry landed earlier same stored
  · intro stage pfn after entry target landed aimed opened found
    have process : after.mm = migration.mm := by
      obtain ⟨own, own_opened, own_mm⟩ := mirror
      rw [mirrors] at opened
      by_cases here : migration.dmirror = m
      · rw [here, Function.update_self, Option.some.injEq] at opened
        rw [here, present, Option.some.injEq] at own_opened
        subst opened own_opened
        exact own_mm
      · rw [Function.update_of_ne here, own_opened,
          Option.some.injEq] at opened
        exact opened ▸ own_mm
    obtain ⟨before, earlier, -, stored⟩ :=
      old _ after pfn entry landed opened process found
    have backing : next.mem.backingPage target =
        world.mem.backingPage target := by
      simp only [Memory.backingPage, links]
    rw [backing]
    exact repairs.mapped stage pfn before entry target landed aimed earlier
      stored

end World

end Rshm.Hmm
