import Rshm.Hmm.Located
import Rshm.Hmm.OtherMirrors

/-!
# Entries name the page that holds the data

The map update of a migration stores the backing page of a device page, and
`dmirror_do_fault` stores what `hmm_range_fault` reports.  For a page of the
mirror's own device that is the device page itself, which has no memory.
-/

namespace Rshm.Hmm

open RangeLoop

variable {Contents : Type}

/-- The data of a page in use is on a page with memory. -/
theorem Owned.backing_plain {mem : Memory Contents} {cpu : Nat → Nat → Pte}
    {migrations : Nat → Option Migration}
    (owned : Owned mem.inUse mem.zoneDeviceData cpu migrations)
    {page rpage : Page} (used : page ∈ mem.inUse ∨ page = .zero)
    (backing : mem.backingPage page = some rpage) :
    rpage.isDevicePrivatePage = false := by
  unfold Memory.backingPage at backing
  split at backing
  · next device =>
    rcases used with used | rfl
    · obtain ⟨frame, link⟩ := owned.backed page used device
      rw [link, Option.some.injEq] at backing
      subst backing
      rfl
    · cases device
  · next plain =>
    cases backing
    simpa using plain

namespace World

variable {world next : World Contents}

/-- Every entry names a page with memory, and the page that holds the data of
its address, as long as no migration works on the address. -/
def EntriesAddressable (world : World Contents) : Prop :=
  ∀ m dmirror pfn entry, world.dmirror m = some dmirror →
    dmirror.pt pfn = some entry →
    entry.page.isDevicePrivatePage = false ∧
      ((∀ id migration, world.migrations id = some migration →
          migration.mm = dmirror.mm → ¬(migration.first ≤ pfn ∧
            pfn < migration.first + migration.npages)) →
        ∃ page writable,
          world.cpu dmirror.mm pfn = .present page writable ∧
            world.mem.backingPage page = some entry.page)

/-- The entry that a device fault stores for a page is the one that the map
update of a migration stores for it, unless the page is a device page. -/
def FillsAgree (world : World Contents) : Prop :=
  ∀ requestWrite hmmPfns xaFails count first pt pfn entry,
    (hmmPfns pfn).page ∈ world.mem.inUse → pt pfn = none →
    (dmirrorDoFault requestWrite hmmPfns xaFails count first pt).1 pfn =
      some entry →
    (finalizeAndMapEntry world.mem
        ⟨some (hmmPfns pfn).page, false, (hmmPfns pfn).write⟩
        (hmmPfns pfn).page = some entry ↔
      (hmmPfns pfn).page.isDevicePrivatePage = false)

/-- Requests do not overlap, and the migrations repair the entries. -/
def Repaired (world : World Contents) (input : Input Contents) : Prop :=
  world.OneAtATime input ∧ world.Repairable input

/-- No device page is stored by the device fault. -/
def StoresPlain (world : World Contents) (id : Nat)
    (xaFails : Nat → Bool) : Prop :=
  ∀ fault dmirror hmmPfns, world.faults id = some fault →
    world.dmirror fault.dmirror = some dmirror →
    dmirror.invalidateSeq = fault.notifierSeq →
    fault.hmmPfns = some hmmPfns → ∀ pfn, fault.first ≤ pfn →
      pfn < fault.first + fault.npages →
      (∀ place, fault.first ≤ place → place ≤ pfn →
        xaFails place = false) →
      (hmmPfns pfn).page.isDevicePrivatePage = false

/-- No device fault is given a page of the mirror's own device. -/
def FaultsPlain (world : World Contents) (input : Input Contents) : Prop :=
  world.Repaired input ∧
    ∀ id xaFails, input = .doFault id xaFails → world.StoresPlain id xaFails

/-- No migration is in progress, or no fault and no invalidation. -/
def Quiet (world : World Contents) : Prop :=
  (∀ id, world.migrations id = none) ∨
    (∀ id, world.faults id = none) ∧ world.invalidations = []

/-- No page has moved since the snapshot of a fault. -/
def Unmoved (world : World Contents) : Prop :=
  ∀ id fault pfn, world.faults id = some fault → fault.moved pfn = false

/-- No mirror of the process has an entry in a range that is being
invalidated. -/
def Cleared (world : World Contents) : Prop :=
  ∀ range ∈ world.invalidations, ∀ m dmirror pfn,
    world.dmirror m = some dmirror → dmirror.mm = range.mm →
    range.first ≤ pfn → pfn < range.last → dmirror.pt pfn = none

theorem Cleared.of_old (cleared : world.Cleared)
    (active : ∀ range ∈ next.invalidations, range ∈ world.invalidations)
    (old : world.EntriesOld next) : next.Cleared := by
  intro range there m after pfn opened process lower upper
  cases found : after.pt pfn with
  | none => rfl
  | some entry =>
      obtain ⟨before, present, mm, stored⟩ :=
        old m after pfn entry opened found
      rw [cleared range (active range there) m before pfn present
        (mm.trans process) lower upper] at stored
      cases stored

/-- The invariant behind `EntriesAddressable`. -/
structure EntriesTracked (world : World Contents) : Prop where
  moves : world.MovesTracked
  located : world.Located
  faults : world.FaultsTracked
  quiet : world.Quiet
  unmoved : world.Unmoved
  cleared : world.Cleared

theorem EntriesTracked.addressable (tracked : world.EntriesTracked) :
    world.EntriesAddressable := by
  intro m dmirror pfn entry present found
  have owned : world.PagesOwned := tracked.moves.owned
  have pointed (still : world.Still dmirror.mm pfn) :=
    tracked.located.settled m dmirror pfn entry present found still
  refine ⟨?_, ?_⟩
  · by_cases still : world.Still dmirror.mm pfn
    · obtain ⟨page, mapped, backing⟩ := pointed still
      exact Owned.backing_plain owned (owned.mapped mapped) backing
    · simp only [Still, not_forall, Bool.not_eq_false] at still
      obtain ⟨id, migration, there, process, landed⟩ := still
      have repairs := tracked.moves.repairs id migration there
      obtain ⟨forward, rfl⟩ :=
        repairs.own pfn m dmirror entry landed present process.symm found
      cases stage : migration.stage with
      | setup => simp [Migration.landed, stage] at landed
      | copied => simp [Migration.landed, stage] at landed
      | migrated =>
          rw [tracked.located.migrated id migration _ dmirror pfn entry there
            landed stage present process.symm found]
          cases source : (migration.slots pfn).src.page with
          | none => rfl
          | some page =>
              exact (tracked.moves.apart.system id migration pfn page there
                forward source).2
      | mapped =>
          obtain ⟨-, target, aimed⟩ := Migration.landed_moved landed
          exact Owned.backing_plain owned
            (.inl (owned.landed_used there landed aimed))
            (repairs.mapped stage pfn dmirror entry target landed aimed
              present found)
  · intro alone
    have still : world.Still dmirror.mm pfn := by
      intro id migration there process
      have empty := owned.window id migration pfn there
        (alone id migration there process)
      simp [Migration.landed, empty, MigrateSlot.moved, MigrateSlot.empty,
        MigratePfn.empty]
    obtain ⟨page, mapped, backing⟩ := pointed still
    cases entry' : world.cpu dmirror.mm pfn with
    | none =>
        rw [entry'] at mapped
        cases mapped
    | present held writable =>
        rw [entry'] at mapped
        cases mapped
        exact ⟨_, writable, rfl, backing⟩
    | migration held writable =>
        obtain ⟨id, migration, there, process, source⟩ :=
          owned.migrating _ pfn held writable entry'
        have empty := owned.window id migration pfn there
          (alone id migration there process)
        rw [empty] at source
        cases source

theorem PagesOwned.fillsAgree (owned : world.PagesOwned) :
    world.FillsAgree := by
  intro requestWrite hmmPfns xaFails count first pt pfn entry used absent
    stored
  rcases dmirrorDoFault_entry stored with old | ⟨-, -, rfl, -⟩
  · rw [absent] at old
    cases old
  · generalize (hmmPfns pfn).page = page at used ⊢
    unfold finalizeAndMapEntry Memory.backingPage
    cases device : page.isDevicePrivatePage with
    | false => simp
    | true =>
        obtain ⟨frame, link⟩ := owned.backed page used device
        rw [link]
        constructor
        · intro same
          have same : Entry.mk (.normal frame) _ = ⟨page, _⟩ :=
            Option.some.inj same
          cases same
          cases device
        · intro plain
          cases plain

theorem Quiet.of_same (quiet : world.Quiet)
    (migrations : next.migrations = world.migrations)
    (faults : (∀ id, world.faults id = none) → ∀ id, next.faults id = none)
    (active : world.invalidations = [] → next.invalidations = []) :
    next.Quiet := by
  rcases quiet with idle | ⟨none_, empty⟩
  · exact .inl (by rw [migrations]; exact idle)
  · exact .inr ⟨faults none_, active empty⟩

theorem Unmoved.of_eq (unmoved : world.Unmoved)
    (faults : next.faults = world.faults) : next.Unmoved := by
  intro id fault pfn started
  rw [faults] at started
  exact unmoved id fault pfn started

theorem Unmoved.setFault (unmoved : world.Unmoved) (id : Nat)
    (fault : Option Fault)
    (fresh : ∀ found pfn, fault = some found → found.moved pfn = false) :
    (world.setFault id fault).Unmoved := by
  intro other found pfn started
  by_cases here : other = id
  · subst here
    simp only [World.setFault, Function.update_self] at started
    exact fresh found pfn started
  · simp only [World.setFault, Function.update_of_ne here] at started
    exact unmoved other found pfn started

theorem Located.unmapped (located : world.Located) {m pfn : Nat}
    {dmirror : Dmirror} {entry : Entry}
    (present : world.dmirror m = some dmirror)
    (found : dmirror.pt pfn = some entry)
    (empty : world.cpu dmirror.mm pfn = .none) :
    ¬world.Still dmirror.mm pfn := by
  intro still
  obtain ⟨page, mapped, -⟩ :=
    located.settled m dmirror pfn entry present found still
  rw [empty] at mapped
  cases mapped

theorem Located.populate [Zero Contents] (located : world.Located)
    {mm pfn frame : Nat} {writable : Bool}
    (moved : world.populate mm pfn frame writable = some next) :
    next.Located := by
  obtain ⟨empty, -, rfl⟩ := populate_mapped moved
  refine located.of_old rfl rfl (Fewer.of_eq rfl).entries ?_
  intro m after pfn' entry present found
  by_cases here : after.mm = mm ∧ pfn' = pfn
  · obtain ⟨process, rfl⟩ := here
    subst process
    exact .inr (located.unmapped present found empty)
  · exact .inl (congrArg Pte.page (setCpu_page mm pfn _ _ _ here))

theorem Located.populateZero (located : world.Located) {mm pfn : Nat}
    (moved : world.populateZero mm pfn = some next) : next.Located := by
  obtain ⟨empty, rfl⟩ := populateZero_mapped moved
  refine located.of_old rfl rfl (Fewer.of_eq rfl).entries ?_
  intro m after pfn' entry present found
  by_cases here : after.mm = mm ∧ pfn' = pfn
  · obtain ⟨process, rfl⟩ := here
    subst process
    exact .inr (located.unmapped present found empty)
  · exact .inl (congrArg Pte.page (setCpu_page mm pfn _ _ _ here))

/-- The page of one address changes, where no mirror of the process has an
entry. -/
theorem Located.changed (located : world.Located) {mm pfn : Nat}
    (migrations : next.migrations = world.migrations)
    (links : next.mem.zoneDeviceData = world.mem.zoneDeviceData)
    (mirrors : next.dmirror = world.dmirror)
    (others : ∀ mm' pfn', ¬(mm' = mm ∧ pfn' = pfn) →
      next.cpu mm' pfn' = world.cpu mm' pfn')
    (absent : ∀ m dmirror, world.dmirror m = some dmirror →
      dmirror.mm = mm → dmirror.pt pfn = none) : next.Located := by
  refine located.of_old migrations links (Fewer.of_eq mirrors).entries ?_
  intro m after pfn' entry present found
  refine .inl (congrArg Pte.page (others _ _ ?_))
  rintro ⟨process, rfl⟩
  rw [absent m after (mirrors ▸ present) process] at found
  cases found

theorem Located.cpuChange (located : world.Located)
    (cleared : world.Cleared) {mm pfn : Nat} {change : CpuChange}
    (moved : world.cpuChange mm pfn change = some next) :
    next.Located := by
  have links := (Steady.cpuChange moved).mem.links
  have same := cpuChange_migrations moved
  obtain ⟨⟨range, there, process, lower, upper⟩, made⟩ :=
    cpuChange_made moved
  have absent : ∀ m dmirror, world.dmirror m = some dmirror →
      dmirror.mm = mm → dmirror.pt pfn = none := by
    intro m dmirror present own
    exact cleared range there m dmirror pfn present (own.trans process.symm)
      lower upper
  rcases made with ⟨_, _, -, rfl⟩ | ⟨_, _, -, rfl⟩ | ⟨_, _, _, -, rfl⟩ |
    ⟨_, _, _, _, _, -, -, -, rfl⟩
  · exact located.changed same links rfl (setCpu_page mm pfn _) absent
  · exact located.changed same links rfl (setCpu_page mm pfn _) absent
  · exact located.changed same links rfl (setCpu_page mm pfn _) absent
  · exact located.changed same links rfl (setCpu_page mm pfn _) absent

/-- After a notification that is no migration, no mirror of the process has
an entry in the range. -/
theorem notify_cleared {event : NotifierEvent} (owner : Option Nat)
    (mm first last : Nat) (foreign : event ≠ .migrate) {m pfn : Nat}
    {dmirror : Dmirror}
    (present : (world.notify event owner mm first last).dmirror m =
      some dmirror) (process : dmirror.mm = mm) (lower : first ≤ pfn)
    (upper : pfn ≤ last) : dmirror.pt pfn = none := by
  obtain ⟨before, -, rfl⟩ := notify_dmirror present
  by_cases own : before.mm = mm
  · rw [if_pos own]
    unfold dmirrorIntervalInvalidate
    rw [if_neg fun same => foreign same.1]
    exact if_pos ⟨lower, upper⟩
  · rw [if_neg own] at process
    exact absurd process own

theorem Located.notify (located : world.Located) (event : NotifierEvent)
    (owner : Option Nat) (mm first last : Nat) :
    (world.notify event owner mm first last).Located :=
  located.of_old rfl rfl (Fewer.notify world event owner mm first last).entries
    fun _ _ _ _ _ _ => .inl rfl

theorem Located.evictPage (located : world.Located) {mdevice : Nat}
    {eviction : Nat × Nat × Nat}
    (moved : world.evictPage mdevice eviction = some next) :
    next.Located := by
  have links := (Steady.evictPage moved).mem.links
  obtain ⟨mm, pfn, frame⟩ := eviction
  obtain ⟨_, _, _, -, -, -, rfl⟩ := evictPage_evicted moved
  have notified := located.notify .clear none mm pfn (pfn + 1)
  refine notified.changed rfl links rfl (setCpu_page mm pfn _) ?_
  intro m dmirror present process
  exact notify_cleared none mm pfn (pfn + 1) (by simp) present process
    (Nat.le_refl pfn) (Nat.le_succ pfn)

theorem Located.release (located : world.Located) {mdevice : Nat}
    {evictions : List (Nat × Nat × Nat)}
    (moved : world.release mdevice evictions = some next) :
    next.Located :=
  release_keeps Located (fun _ _ _ held evicted => held.evictPage evicted)
    located moved

theorem Located.exclusive (located : world.Located)
    (idle : ∀ id, world.migrations id = none) {m count first : Nat}
    {pages : Nat → Option Page} {complete : Bool} {xaFails : Nat → Bool}
    (moved : world.exclusive m count first pages complete xaFails =
      some next) : next.Located := by
  obtain ⟨dmirror, notified, present, ready, told, ended⟩ :=
    exclusive_mapped moved
  have same : world.SamePages notified := by
    rw [told]
    apply notified_keeps world.SamePages _ (.refl world)
    intro between mm pfn held
    exact ⟨held.inUse, held.links, held.cpu, held.migrations⟩
  have fewer : world.Fewer notified := by
    rw [told]
    apply notified_keeps world.Fewer _ (.of_eq rfl)
    intro between mm pfn held
    exact held.trans (.notify between .exclusive none mm pfn (pfn + 1))
  have kept : notified.Located :=
    located.of_old same.migrations same.links fewer.entries
      fun _ _ _ _ _ _ => .inl (by rw [same.cpu])
  rcases ended with rfl | ⟨after, opened, rfl⟩
  · exact kept
  · have process : after.mm = dmirror.mm := by
      obtain ⟨later, opened', mm⟩ := fewer.kept m dmirror present
      rw [opened, Option.some.injEq] at opened'
      exact opened' ▸ mm
    refine kept.of_stored opened rfl rfl rfl rfl ?_
    intro pfn entry found
    rcases dmirrorAtomicMap_entry found with
      old | ⟨lower, upper, reported, -⟩
    · exact .inl old
    · obtain ⟨mapped, plain, -⟩ := ready pfn entry.page lower upper reported
      refine .inr ⟨?_, entry.page, ?_, ?_⟩
      · intro id migration there
        rw [same.migrations, idle id] at there
        cases there
      · rw [same.cpu, process, mapped, Pte.page_present]
      · have plain : entry.page.isDevicePrivatePage = false := by
          cases kind : entry.page with
          | devicePrivate mdevice dpfn =>
              rw [kind] at plain
              cases plain
          | _ => rfl
        simp [Memory.backingPage, plain]

/-- The same faults and invalidations are in progress. -/
structure SameRequests (world next : World Contents) : Prop where
  faults : next.faults = world.faults
  invalidations : next.invalidations = world.invalidations

theorem SameRequests.trans {middle : World Contents}
    (first : world.SameRequests middle)
    (second : middle.SameRequests next) : world.SameRequests next :=
  ⟨second.faults.trans first.faults,
    second.invalidations.trans first.invalidations⟩

theorem SameRequests.openFile {m mdevice mm : Nat}
    (moved : world.openFile m mdevice mm = some next) :
    world.SameRequests next := by
  obtain ⟨-, -, rfl⟩ := openFile_opened moved
  exact ⟨rfl, rfl⟩

theorem SameRequests.closeFile {m : Nat}
    (moved : world.closeFile m = some next) : world.SameRequests next := by
  obtain rfl := closeFile_closed moved
  exact ⟨rfl, rfl⟩

theorem SameRequests.doWrite {m count first : Nat}
    {bounce : DmirrorBounce Contents}
    (moved : world.doWrite m count first bounce = some next) :
    world.SameRequests next := by
  obtain ⟨dmirror, _, rfl⟩ := Option.map_eq_some_iff.mp moved
  exact ⟨rfl, rfl⟩

theorem SameRequests.populate [Zero Contents] {mm pfn frame : Nat}
    {writable : Bool}
    (moved : world.populate mm pfn frame writable = some next) :
    world.SameRequests next := by
  obtain ⟨-, -, rfl⟩ := populate_mapped moved
  exact ⟨rfl, rfl⟩

theorem SameRequests.populateZero {mm pfn : Nat}
    (moved : world.populateZero mm pfn = some next) :
    world.SameRequests next := by
  obtain ⟨-, rfl⟩ := populateZero_mapped moved
  exact ⟨rfl, rfl⟩

theorem SameRequests.cpuChange {mm pfn : Nat} {change : CpuChange}
    (moved : world.cpuChange mm pfn change = some next) :
    world.SameRequests next := by
  obtain ⟨-, ⟨_, _, -, rfl⟩ | ⟨_, _, -, rfl⟩ | ⟨_, _, _, -, rfl⟩ |
    ⟨_, _, _, _, _, -, -, -, rfl⟩⟩ := cpuChange_made moved
  · exact ⟨rfl, rfl⟩
  · exact ⟨rfl, rfl⟩
  · exact ⟨rfl, rfl⟩
  · exact ⟨rfl, rfl⟩

theorem SameRequests.setup {id m : Nat} {flags : MigrateVmaDirection}
    {vmWrite : Bool} {count first : Nat} {collected : Nat → Bool}
    (moved : world.setup id m flags vmWrite count first collected =
      some next) : world.SameRequests next := by
  obtain ⟨_, -, -, rfl⟩ := setup_begun moved
  exact ⟨rfl, rfl⟩

theorem SameRequests.cpuFault {id mm pfn : Nat} {vmWrite collected : Bool}
    (moved : world.cpuFault id mm pfn vmWrite collected = some next) :
    world.SameRequests next := by
  obtain ⟨-, _, _, _, -, ⟨_, _, _, -, -, -, rfl⟩ | ⟨rfl, -⟩⟩ :=
    cpuFault_begun moved
  · exact ⟨rfl, rfl⟩
  · exact ⟨rfl, rfl⟩

theorem SameRequests.allocAndCopy [Zero Contents] {id : Nat}
    {alloc : Nat → Option (Nat × Nat)}
    (moved : world.allocAndCopy id alloc = some next) :
    world.SameRequests next := by
  obtain ⟨_, _, -, -, -, -, rfl⟩ := allocAndCopy_copied moved
  exact ⟨rfl, rfl⟩

theorem SameRequests.faultAllocAndCopy {id : Nat}
    {alloc : Nat → Option Nat}
    (moved : world.faultAllocAndCopy id alloc = some next) :
    world.SameRequests next := by
  obtain ⟨_, -, -, -, ⟨-, rfl⟩ | ⟨_, _, -, -, rfl⟩⟩ :=
    faultAllocAndCopy_copied moved
  · exact ⟨rfl, rfl⟩
  · exact ⟨rfl, rfl⟩

theorem SameRequests.finalizeAndMap {id : Nat} {xaFails : Nat → Bool}
    (moved : world.finalizeAndMap id xaFails = some next) :
    world.SameRequests next := by
  obtain ⟨_, -, -, -, ⟨-, rfl⟩ | ⟨_, _, -, -, rfl⟩⟩ :=
    finalizeAndMap_mapped moved
  · exact ⟨rfl, rfl⟩
  · exact ⟨rfl, rfl⟩

theorem SameRequests.exclusive {m count first : Nat}
    {pages : Nat → Option Page} {complete : Bool} {xaFails : Nat → Bool}
    (moved : world.exclusive m count first pages complete xaFails =
      some next) : world.SameRequests next := by
  apply exclusive_keeps world.SameRequests _ _ ⟨rfl, rfl⟩ moved
  · intro between mm pfn held
    exact held.trans ⟨rfl, rfl⟩
  · intro between m dmirror pt held _
    exact held.trans ⟨rfl, rfl⟩

theorem SameRequests.release {mdevice : Nat}
    {evictions : List (Nat × Nat × Nat)}
    (moved : world.release mdevice evictions = some next) :
    world.SameRequests next := by
  refine release_keeps world.SameRequests ?_ ⟨rfl, rfl⟩ moved
  rintro between after ⟨mm, pfn, frame⟩ held evicted
  obtain ⟨_, _, _, -, -, -, rfl⟩ := evictPage_evicted evicted
  exact held.trans ⟨rfl, rfl⟩

/-- The faults and invalidations of a world in which a migration is in
progress. -/
theorem Quiet.migrating (quiet : world.Quiet) {id : Nat}
    {migration : Migration} (there : world.migrations id = some migration) :
    (∀ id, world.faults id = none) ∧ world.invalidations = [] := by
  rcases quiet with idle | none_
  · rw [idle id] at there
    cases there
  · exact none_

theorem Quiet.of_requests (same : world.SameRequests next)
    (none_ : (∀ id, world.faults id = none) ∧ world.invalidations = []) :
    next.Quiet := by
  refine .inr ⟨?_, same.invalidations.trans none_.2⟩
  rw [same.faults]
  exact none_.1

theorem remap_faults (none_ : ∀ id, world.faults id = none) (mm : Nat)
    (after : Nat → Pte) (id : Nat) :
    (world.remap mm after).faults id = none := by
  simp [World.remap, none_ id]

theorem Quiet.step [Zero Contents] (quiet : world.Quiet)
    {input : Input Contents} (single : world.OneAtATime input)
    (moved : world.step input = some next) : next.Quiet := by
  have same (requests : world.SameRequests next)
      (migrations : next.migrations = world.migrations) : next.Quiet := by
    apply quiet.of_same migrations
    · rw [requests.faults]
      exact id
    · rw [requests.invalidations]
      exact id
  cases input with
  | openFile _ _ _ =>
      exact same (.openFile moved) (SamePages.openFile moved).migrations
  | closeFile _ =>
      exact same (.closeFile moved) (SamePages.closeFile moved).migrations
  | doWrite _ _ _ _ =>
      exact same (.doWrite moved) (SamePages.doWrite moved).migrations
  | readBegin _ _ _ _ _ =>
      refine .inl ?_
      rw [(SamePages.readBegin moved).migrations]
      exact single
  | hmmRangeFault id =>
      rcases quiet with idle | ⟨none_, -⟩
      · refine .inl ?_
        rw [(SamePages.hmmRangeFault moved).migrations]
        exact idle
      · obtain ⟨fault, _, started, -⟩ := hmmRangeFault_taken moved
        rw [none_ id] at started
        cases started
  | abandonFault id =>
      obtain rfl := abandonFault_dropped moved
      refine quiet.of_same rfl ?_ fun empty => empty
      intro none_ other
      by_cases here : other = id
      · subst here
        exact Function.update_self ..
      · exact (Function.update_of_ne here ..).trans (none_ other)
  | doFault _ _ =>
      refine .inl ?_
      rw [(SamePages.doFault moved).migrations]
      exact single
  | populate _ _ _ _ =>
      exact same (.populate moved) (populate_migrations moved)
  | populateZero _ _ =>
      exact same (.populateZero moved) (populateZero_migrations moved)
  | invalidateStart _ _ =>
      refine .inl ?_
      rw [(SamePages.invalidateStart moved).migrations]
      exact single
  | cpuChange _ _ _ =>
      exact same (.cpuChange moved) (cpuChange_migrations moved)
  | invalidateEnd _ =>
      obtain ⟨there, rfl⟩ := invalidateEnd_ended moved
      refine quiet.of_same rfl (fun none_ => none_) ?_
      intro empty
      rw [empty] at there
      cases there
  | setup _ _ _ _ _ _ _ =>
      exact .of_requests (.setup moved) ⟨single.faults, single.invalidations⟩
  | cpuFault _ _ _ _ _ =>
      exact .of_requests (.cpuFault moved)
        ⟨single.faults, single.invalidations⟩
  | allocAndCopy _ _ =>
      obtain ⟨migration, _, there, -⟩ := allocAndCopy_copied moved
      exact .of_requests (.allocAndCopy moved) (quiet.migrating there)
  | faultAllocAndCopy _ _ =>
      obtain ⟨migration, there, -⟩ := faultAllocAndCopy_copied moved
      exact .of_requests (.faultAllocAndCopy moved) (quiet.migrating there)
  | pages _ _ =>
      obtain ⟨migration, _, there, -, -, rfl⟩ := pages_migrated moved
      obtain ⟨none_, empty⟩ := quiet.migrating there
      exact .inr ⟨remap_faults none_ _ _, empty⟩
  | finalizeAndMap _ _ =>
      obtain ⟨migration, there, -⟩ := finalizeAndMap_mapped moved
      exact .of_requests (.finalizeAndMap moved) (quiet.migrating there)
  | finalize _ =>
      obtain ⟨migration, _, there, -, -, rfl⟩ := finalize_finished moved
      obtain ⟨none_, empty⟩ := quiet.migrating there
      exact .inr ⟨remap_faults none_ _ _, empty⟩
  | exclusive _ _ _ _ _ _ =>
      exact same (.exclusive moved) (exclusive_migrations moved)
  | release _ _ => exact same (.release moved) (release_migrations moved)

theorem Unmoved.of_none (none_ : ∀ id, world.faults id = none) :
    world.Unmoved := by
  intro id fault pfn started
  rw [none_ id] at started
  cases started

theorem Unmoved.step [Zero Contents] (unmoved : world.Unmoved)
    (quiet : world.Quiet) {input : Input Contents}
    (moved : world.step input = some next) : next.Unmoved := by
  cases input with
  | openFile _ _ _ => exact unmoved.of_eq (SameRequests.openFile moved).faults
  | closeFile _ => exact unmoved.of_eq (SameRequests.closeFile moved).faults
  | doWrite _ _ _ _ => exact unmoved.of_eq (SameRequests.doWrite moved).faults
  | readBegin id m count first write =>
      obtain ⟨_, -, -, -, rfl⟩ := readBegin_started moved
      apply unmoved.setFault
      rintro found pfn ⟨⟩
      rfl
  | hmmRangeFault id =>
      obtain ⟨_, _, -, -, -, rfl⟩ := hmmRangeFault_taken moved
      apply unmoved.setFault
      rintro found pfn ⟨⟩
      rfl
  | abandonFault id =>
      obtain rfl := abandonFault_dropped moved
      apply unmoved.setFault
      rintro found pfn ⟨⟩
  | doFault id xaFails =>
      rcases doFault_stored moved with ⟨fault, -, rfl⟩ |
        ⟨fault, dmirror, hmmPfns, pt, -, -, -, -, -, rfl⟩
      · apply unmoved.setFault
        rintro found pfn ⟨⟩
      · have same : (world.setPt fault.dmirror dmirror pt).Unmoved :=
          unmoved.of_eq rfl
        apply same.setFault
        rintro found pfn ⟨⟩
  | populate _ _ _ _ =>
      exact unmoved.of_eq (SameRequests.populate moved).faults
  | populateZero _ _ =>
      exact unmoved.of_eq (SameRequests.populateZero moved).faults
  | invalidateStart _ _ =>
      obtain ⟨-, rfl⟩ := invalidateStart_told moved
      exact unmoved.of_eq rfl
  | cpuChange _ _ _ =>
      exact unmoved.of_eq (SameRequests.cpuChange moved).faults
  | invalidateEnd _ =>
      obtain ⟨-, rfl⟩ := invalidateEnd_ended moved
      exact unmoved.of_eq rfl
  | setup _ _ _ _ _ _ _ =>
      exact unmoved.of_eq (SameRequests.setup moved).faults
  | cpuFault _ _ _ _ _ =>
      exact unmoved.of_eq (SameRequests.cpuFault moved).faults
  | allocAndCopy _ _ =>
      exact unmoved.of_eq (SameRequests.allocAndCopy moved).faults
  | faultAllocAndCopy _ _ =>
      exact unmoved.of_eq (SameRequests.faultAllocAndCopy moved).faults
  | pages _ _ =>
      obtain ⟨migration, _, there, -, -, rfl⟩ := pages_migrated moved
      exact .of_none (remap_faults (quiet.migrating there).1 _ _)
  | finalizeAndMap _ _ =>
      exact unmoved.of_eq (SameRequests.finalizeAndMap moved).faults
  | finalize _ =>
      obtain ⟨migration, _, there, -, -, rfl⟩ := finalize_finished moved
      exact .of_none (remap_faults (quiet.migrating there).1 _ _)
  | exclusive _ _ _ _ _ _ =>
      exact unmoved.of_eq (SameRequests.exclusive moved).faults
  | release _ _ => exact unmoved.of_eq (SameRequests.release moved).faults

theorem Cleared.of_empty (empty : world.invalidations = []) :
    world.Cleared := by
  intro range there
  rw [empty] at there
  cases there

theorem Cleared.of_requests (cleared : world.Cleared)
    (same : world.SameRequests next) (old : world.EntriesOld next) :
    next.Cleared := by
  apply cleared.of_old _ old
  rw [same.invalidations]
  exact fun _ active => active

theorem Cleared.doFault (cleared : world.Cleared)
    (faults : world.FaultsTracked) {id : Nat} {xaFails : Nat → Bool}
    (moved : world.doFault id xaFails = some next) : next.Cleared := by
  rcases doFault_stored moved with ⟨fault, -, rfl⟩ |
    ⟨fault, dmirror, hmmPfns, pt, started, present, -, current, -, rfl⟩
  · exact cleared.of_old (fun _ active => active) (Fewer.of_eq rfl).entries
  · intro range active m after pfn opened process lower upper
    by_cases here : m = fault.dmirror
    · subst here
      have own : dmirror.mm = range.mm := by
        simp only [World.setFault, World.setPt, Function.update_self,
          Option.some.injEq] at opened
        subst opened
        exact process
      -- The sequence number would have changed.
      have other := faults.quiet id fault dmirror started present current
        range active
      exact absurd (own.symm.trans
        (faults.mirror id fault dmirror started present).1) other
    · simp only [World.setFault, World.setPt,
        Function.update_of_ne here] at opened
      exact cleared range active m after pfn opened process lower upper

theorem Cleared.invalidateStart (cleared : world.Cleared)
    {event : NotifierEvent} {range : Invalidation}
    (moved : world.invalidateStart event range = some next) :
    next.Cleared := by
  have fewer := Fewer.invalidateStart moved
  obtain ⟨foreign, rfl⟩ := invalidateStart_told moved
  intro other active m after pfn opened process lower upper
  rcases List.mem_cons.mp active with rfl | active
  · exact notify_cleared none other.mm other.first other.last foreign opened
      process lower (Nat.le_of_lt upper)
  · have same : (world.notify event none range.mm range.first
        range.last).Cleared :=
      cleared.of_old (fun _ there => there) fewer.entries
    exact same other active m after pfn opened process lower upper

theorem Cleared.step [Zero Contents] (cleared : world.Cleared)
    (quiet : world.Quiet) (faults : world.FaultsTracked)
    {input : Input Contents} (single : world.OneAtATime input)
    (moved : world.step input = some next) : next.Cleared := by
  cases input with
  | openFile _ _ _ =>
      exact cleared.of_requests (.openFile moved)
        (Fewer.openFile moved).entries
  | closeFile _ =>
      exact cleared.of_requests (.closeFile moved) (.closeFile moved)
  | doWrite _ _ _ _ =>
      exact cleared.of_requests (.doWrite moved) (Fewer.doWrite moved).entries
  | readBegin _ _ _ _ _ =>
      obtain ⟨_, -, -, -, rfl⟩ := readBegin_started moved
      exact cleared.of_old (fun _ active => active) (Fewer.of_eq rfl).entries
  | hmmRangeFault _ =>
      obtain ⟨_, _, -, -, -, rfl⟩ := hmmRangeFault_taken moved
      exact cleared.of_old (fun _ active => active) (Fewer.of_eq rfl).entries
  | abandonFault _ =>
      obtain rfl := abandonFault_dropped moved
      exact cleared.of_old (fun _ active => active) (Fewer.of_eq rfl).entries
  | doFault _ _ => exact cleared.doFault faults moved
  | populate _ _ _ _ =>
      exact cleared.of_requests (.populate moved)
        (Fewer.populate moved).entries
  | populateZero _ _ =>
      exact cleared.of_requests (.populateZero moved)
        (Fewer.populateZero moved).entries
  | invalidateStart _ _ => exact cleared.invalidateStart moved
  | cpuChange _ _ _ =>
      exact cleared.of_requests (.cpuChange moved)
        (Fewer.cpuChange moved).entries
  | invalidateEnd _ =>
      obtain ⟨-, rfl⟩ := invalidateEnd_ended moved
      exact cleared.of_old (fun _ active => List.mem_of_mem_erase active)
        (Fewer.of_eq rfl).entries
  | setup _ _ _ _ _ _ _ =>
      exact .of_empty ((SameRequests.setup moved).invalidations.trans
        single.invalidations)
  | cpuFault _ _ _ _ _ =>
      exact .of_empty ((SameRequests.cpuFault moved).invalidations.trans
        single.invalidations)
  | allocAndCopy _ _ =>
      obtain ⟨migration, _, there, -⟩ := allocAndCopy_copied moved
      exact .of_empty ((SameRequests.allocAndCopy moved).invalidations.trans
        (quiet.migrating there).2)
  | faultAllocAndCopy _ _ =>
      obtain ⟨migration, there, -⟩ := faultAllocAndCopy_copied moved
      exact .of_empty ((SameRequests.faultAllocAndCopy
        moved).invalidations.trans (quiet.migrating there).2)
  | pages _ _ =>
      obtain ⟨migration, _, there, -, -, rfl⟩ := pages_migrated moved
      exact .of_empty (quiet.migrating there).2
  | finalizeAndMap _ _ =>
      obtain ⟨migration, there, -⟩ := finalizeAndMap_mapped moved
      exact .of_empty ((SameRequests.finalizeAndMap
        moved).invalidations.trans (quiet.migrating there).2)
  | finalize _ =>
      obtain ⟨migration, _, there, -, -, rfl⟩ := finalize_finished moved
      exact .of_empty (quiet.migrating there).2
  | exclusive _ _ _ _ _ _ =>
      exact .of_empty ((SameRequests.exclusive moved).invalidations.trans
        single.invalidations)
  | release _ _ =>
      exact cleared.of_requests (.release moved)
        (Fewer.release moved).entries

theorem FaultsPlain.commitsPlain (tracked : world.EntriesTracked) {id : Nat}
    {xaFails : Nat → Bool}
    (plain : world.FaultsPlain (.doFault id xaFails)) :
    world.CommitsPlain id xaFails := by
  intro fault dmirror hmmPfns started present current taken pfn lower upper
    reached
  refine ⟨?_, tracked.unmoved id fault pfn started, ?_⟩
  · intro other migration there
    rw [plain.1.1 other] at there
    cases there
  · exact plain.2 id xaFails rfl fault dmirror hmmPfns started present current
      taken pfn lower upper reached

theorem EntriesTracked.located_step [Zero Contents]
    (tracked : world.EntriesTracked) (after : next.MovesTracked)
    {input : Input Contents} (plain : world.FaultsPlain input)
    (moved : world.step input = some next) : next.Located := by
  have located := tracked.located
  have single := plain.1.1
  have same (pages : world.SamePages next) (old : world.EntriesOld next) :
      next.Located :=
    located.of_old pages.migrations pages.links old
      fun _ _ _ _ _ _ => .inl (by rw [pages.cpu])
  cases input with
  | openFile _ _ _ =>
      exact same (.openFile moved) (Fewer.openFile moved).entries
  | closeFile _ => exact same (.closeFile moved) (.closeFile moved)
  | doWrite _ _ _ _ =>
      exact same (.doWrite moved) (Fewer.doWrite moved).entries
  | readBegin _ _ _ _ _ =>
      exact same (.readBegin moved) (Fewer.readBegin moved).entries
  | hmmRangeFault _ =>
      exact same (.hmmRangeFault moved) (Fewer.hmmRangeFault moved).entries
  | abandonFault _ =>
      exact same (.abandonFault moved) (Fewer.abandonFault moved).entries
  | doFault _ _ =>
      exact located.doFault tracked.faults
        (FaultsPlain.commitsPlain tracked plain) moved
  | populate _ _ _ _ => exact located.populate moved
  | populateZero _ _ => exact located.populateZero moved
  | invalidateStart _ _ =>
      exact same (.invalidateStart moved)
        (Fewer.invalidateStart moved).entries
  | cpuChange _ _ _ => exact located.cpuChange tracked.cleared moved
  | invalidateEnd _ =>
      exact same (.invalidateEnd moved) (Fewer.invalidateEnd moved).entries
  | setup _ _ _ _ _ _ _ => exact located.setup moved
  | cpuFault _ _ _ _ _ => exact located.cpuFault moved
  | allocAndCopy _ _ => exact located.allocAndCopy tracked.moves.owned moved
  | faultAllocAndCopy _ _ => exact located.faultAllocAndCopy moved
  | pages _ _ => exact located.pages tracked.moves after moved
  | finalizeAndMap _ _ => exact located.finalizeAndMap tracked.moves moved
  | finalize _ => exact located.finalize tracked.moves moved
  | exclusive _ _ _ _ _ _ =>
      exact located.exclusive single.migrations moved
  | release _ _ => exact located.release moved

theorem EntriesTracked.step [Zero Contents] (tracked : world.EntriesTracked)
    {input : Input Contents} (plain : world.FaultsPlain input)
    (moved : world.step input = some next) : next.EntriesTracked := by
  have moves : next.MovesTracked :=
    tracked.moves.step plain.1.1 plain.1.2 moved
  exact
    { moves := moves
      located := tracked.located_step moves plain moved
      faults := tracked.faults.step moved
      quiet := tracked.quiet.step plain.1.1 moved
      unmoved := tracked.unmoved.step tracked.quiet moved
      cleared := tracked.cleared.step tracked.quiet tracked.faults plain.1.1
        moved }

theorem boot_entriesTracked [Zero Contents] :
    (boot : World Contents).EntriesTracked where
  moves := .of_idle boot_owned fun _ => rfl
  located := by
    constructor
    · intro m dmirror pfn entry present
      cases present
    · intro id migration m dmirror pfn entry there
      cases there
  faults := boot_noFault.tracked
  quiet := .inl fun _ => rfl
  unmoved := .of_none fun _ => rfl
  cleared := .of_empty rfl

/-- Entries name pages with memory, and the pages that hold the data, in any
run in which no device fault is given a page of the mirror's own device, which
are the pages for which it does not store what the map update stores. -/
theorem entries_addressable [Zero Contents] (world : World Contents)
    (reached : (machine (· = boot)).Reaches FaultsPlain world) :
    world.EntriesAddressable ∧ world.FillsAgree := by
  have invariant : (machine (· = (boot : World Contents))).Invariant
      FaultsPlain EntriesTracked := by
    constructor
    · intro start initial
      subst initial
      exact boot_entriesTracked
    · intro state input next tracked plain moved
      exact tracked.step plain moved
  have tracked := invariant.reaches reached
  exact ⟨tracked.addressable, PagesOwned.fillsAgree tracked.moves.owned⟩

/-- Page 1 is faulted in, page 0 is migrated to the device, page 1 is
invalidated and faulted in again. -/
private def faultedIn : List (Input Nat) :=
  [.openFile 0 0 0, .populate 0 0 1 true, .populate 0 1 3 true,
    .readBegin 0 0 1 1 true, .hmmRangeFault 0, .doFault 0 fun _ => false,
    .setup 0 0 .selectSystem true 1 0 fun _ => true,
    .allocAndCopy 0 fun _ => some (0, 2), .pages 0 fun _ => true,
    .finalizeAndMap 0 fun _ => false, .finalize 0,
    .invalidateStart .protection ⟨0, 1, 2⟩, .invalidateEnd ⟨0, 1, 2⟩,
    .readBegin 0 0 1 1 true, .hmmRangeFault 0, .doFault 0 fun _ => false]

/-- The mirror has the backing page of page 0 and the frame of page 1. -/
private def bothStored (world : World Nat) : Bool :=
  (world.dmirror 0).any fun dmirror =>
    dmirror.pt 0 == some ⟨.normal 2, .write⟩ &&
      dmirror.pt 1 == some ⟨.normal 3, .write⟩

private theorem plain_of {world : World Contents} {input : Input Contents}
    (repaired : world.Repaired input)
    (other : ∀ id xaFails, input ≠ .doFault id xaFails) :
    world.FaultsPlain input :=
  ⟨repaired, fun id xaFails same => absurd same (other id xaFails)⟩

private theorem faultedIn_run :
    ∃ world : World Nat, (machine (· = boot)).Run FaultsPlain boot faultedIn
      world ∧ bothStored world = true := by
  refine ⟨_, .cons ?_ rfl (.cons ?_ rfl (.cons ?_ rfl (.cons ?_ rfl
    (.cons ?_ rfl (.cons ?_ rfl (.cons ?_ rfl (.cons ?_ rfl (.cons ?_ rfl
      (.cons ?_ rfl (.cons ?_ rfl (.cons ?_ rfl (.cons ?_ rfl (.cons ?_ rfl
        (.cons ?_ rfl (.cons ?_ rfl (.nil _)))))))))))))))),
    by decide +kernel⟩
  · exact plain_of ⟨trivial, trivial⟩ (by simp)
  · exact plain_of ⟨trivial, trivial⟩ (by simp)
  · exact plain_of ⟨trivial, trivial⟩ (by simp)
  · exact plain_of ⟨fun _ => rfl, trivial⟩ (by simp)
  · exact plain_of ⟨trivial, trivial⟩ (by simp)
  · refine ⟨⟨fun _ => rfl, trivial⟩, ?_⟩
    rintro id xaFails ⟨⟩ fault dmirror hmmPfns started - - taken pfn lower
      upper -
    cases started
    cases taken
    have here : pfn = 1 := by
      change pfn < 1 + 1 at upper
      change 1 ≤ pfn at lower
      omega
    subst here
    rfl
  · refine plain_of ⟨⟨fun _ => rfl, ?_, rfl⟩, trivial⟩ (by simp)
    intro id
    by_cases here : id = 0
    · subst here
      rfl
    · exact (Function.update_of_ne here _ _).trans
        ((Function.update_of_ne here _ _).trans
          (Function.update_of_ne here _ _))
  · exact plain_of ⟨trivial, trivial⟩ (by simp)
  · refine plain_of ⟨trivial, ?_⟩ (by simp)
    intro migration there pfn m dmirror _ foreign present
    cases there
    obtain ⟨before, opened, -⟩ := Option.map_eq_some_iff.mp present
    have first := (Function.update_of_ne foreign _ _).symm.trans opened
    have absent : (none : Option Dmirror) = some before :=
      (Function.update_of_ne foreign _ _).symm.trans first
    cases absent
  · refine plain_of ⟨trivial, ?_⟩ (by simp)
    intro migration _ dmirror pfn entry _ _ _ place _ _ _
    rfl
  · exact plain_of ⟨trivial, trivial⟩ (by simp)
  · exact plain_of ⟨over_none (others_none (others_none (others_none
      (others_none fun _ _ => rfl)))), trivial⟩ (by simp)
  · exact plain_of ⟨trivial, trivial⟩ (by simp)
  · exact plain_of ⟨over_none (others_none (others_none (others_none
      (others_none fun _ _ => rfl)))), trivial⟩ (by simp)
  · exact plain_of ⟨trivial, trivial⟩ (by simp)
  · refine ⟨⟨over_none (others_none (others_none (others_none
      (others_none fun _ _ => rfl)))), trivial⟩, ?_⟩
    rintro id xaFails ⟨⟩ fault dmirror hmmPfns started - - taken pfn lower
      upper -
    cases started
    cases taken
    have here : pfn = 1 := by
      change pfn < 1 + 1 at upper
      change 1 ≤ pfn at lower
      omega
    subst here
    rfl

theorem faulted_entries_addressable :
    ∃ world : World Nat, (machine (· = boot)).Reaches FaultsPlain world ∧
      (world.dmirror 0).any (fun dmirror =>
        dmirror.pt 0 == some ⟨.normal 2, .write⟩ &&
          dmirror.pt 1 == some ⟨.normal 3, .write⟩) = true ∧
      world.EntriesAddressable ∧ world.FillsAgree := by
  obtain ⟨world, run, stored⟩ := faultedIn_run
  have reached : (machine (· = (boot : World Nat))).Reaches FaultsPlain
      world := ⟨boot, faultedIn, rfl, run⟩
  exact ⟨world, reached, stored, entries_addressable world reached⟩

/-- The only mirror has had page 0 migrated to the device, the range is
invalidated without a change of the page, and the page is faulted in
again. -/
private def faultedAgain : List (Input Nat) :=
  [.openFile 0 0 0, .populate 0 0 1 true,
    .setup 0 0 .selectSystem true 1 0 fun _ => true,
    .allocAndCopy 0 fun _ => some (0, 2), .pages 0 fun _ => true,
    .finalizeAndMap 0 fun _ => false, .finalize 0,
    .invalidateStart .protection ⟨0, 0, 1⟩, .invalidateEnd ⟨0, 0, 1⟩,
    .readBegin 0 0 1 0 true, .hmmRangeFault 0, .doFault 0 fun _ => false]

private def storesDevicePage (world : World Nat) : Bool :=
  (world.dmirror 0).any fun dmirror =>
    dmirror.pt 0 == some ⟨.devicePrivate 0 0, .write⟩

private theorem faultedAgain_run :
    ∃ world : World Nat, (machine (· = boot)).Run Repaired boot faultedAgain
      world ∧ storesDevicePage world = true := by
  refine ⟨_, .cons ?_ rfl (.cons ?_ rfl (.cons ?_ rfl (.cons ?_ rfl
    (.cons ?_ rfl (.cons ?_ rfl (.cons ?_ rfl (.cons ?_ rfl (.cons ?_ rfl
      (.cons ?_ rfl (.cons ?_ rfl (.cons ?_ rfl (.nil _)))))))))))),
    by decide +kernel⟩
  · exact ⟨trivial, trivial⟩
  · exact ⟨trivial, trivial⟩
  · exact ⟨⟨fun _ => rfl, fun _ => rfl, rfl⟩, trivial⟩
  · exact ⟨trivial, trivial⟩
  · refine ⟨trivial, ?_⟩
    intro migration there pfn m dmirror _ foreign present
    cases there
    obtain ⟨before, opened, -⟩ := Option.map_eq_some_iff.mp present
    have absent : (none : Option Dmirror) = some before :=
      (Function.update_of_ne foreign _ _).symm.trans opened
    cases absent
  · refine ⟨trivial, ?_⟩
    intro migration _ dmirror pfn entry _ _ _ place _ _ _
    rfl
  · exact ⟨trivial, trivial⟩
  · exact ⟨over_none (others_none (others_none (others_none (others_none
      fun _ _ => rfl)))), trivial⟩
  · exact ⟨trivial, trivial⟩
  · exact ⟨over_none (others_none (others_none (others_none (others_none
      fun _ _ => rfl)))), trivial⟩
  · exact ⟨trivial, trivial⟩
  · exact ⟨over_none (others_none (others_none (others_none (others_none
      fun _ _ => rfl)))), trivial⟩

/-- The re-fault stores the device page, where the map update had stored its
backing page. -/
theorem device_page_stored :
    ∃ world : World Nat, (machine (· = boot)).Reaches Repaired world ∧
      (world.dmirror 0).bind (fun dmirror => dmirror.pt 0) =
        some ⟨.devicePrivate 0 0, .write⟩ ∧ ¬world.EntriesAddressable := by
  obtain ⟨world, run, stored⟩ := faultedAgain_run
  have reached : (machine (· = (boot : World Nat))).Reaches Repaired world :=
    ⟨boot, faultedAgain, rfl, run⟩
  obtain ⟨dmirror, present, found⟩ := (Option.any_eq_true _ _).mp stored
  rw [beq_iff_eq] at found
  refine ⟨world, reached, by simp [present, found], ?_⟩
  intro addressable
  have plain := (addressable 0 dmirror 0 _ present found).1
  cases plain

end World

end Rshm.Hmm
