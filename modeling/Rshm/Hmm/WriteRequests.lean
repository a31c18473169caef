import Rshm.Hmm.EntriesBacked
import Rshm.Hmm.StepEffects

/-!
# The requests of one mirror

Reads, writes and migrations to the device through the only open mirror, in
any order.  Nobody ever writes to the zero page.
-/

namespace Rshm.Hmm

open RangeLoop

variable {Contents : Type}

namespace World

variable {world next : World Contents}

/-- At most one mirror is open. -/
def Single (world : World Contents) : Prop :=
  ∀ m n, (world.dmirror m).isSome = true → (world.dmirror n).isSome = true →
    m = n

/-- Nobody writes to the zero page: neither a process nor a mirror has it
mapped writable. -/
structure ZeroReadOnly (world : World Contents) : Prop where
  ptes : ∀ mm pfn writable, world.cpu mm pfn = .present .zero writable →
    writable = false
  snapshots : ∀ id fault hmmPfns pfn, world.faults id = some fault →
    fault.hmmPfns = some hmmPfns → (hmmPfns pfn).page = .zero →
    (hmmPfns pfn).write = false
  entries : ∀ m dmirror pfn entry, world.dmirror m = some dmirror →
    dmirror.pt pfn = some entry → entry.page = .zero → entry.tag ≠ .write

/-- The requests of one mirror: reads and writes with their device faults,
and migrations to the device, in any order and overlapping.  The process may
touch new pages and have ranges invalidated.  The page that a device fault
stores is the page of the process. -/
def WritesAndMigrations (world : World Contents) : Input Contents → Prop
  | .openFile _ _ _ => ∀ m, world.dmirror m = none
  | .doWrite _ _ _ _ => True
  | .readBegin _ _ _ _ _ => True
  | .hmmRangeFault _ => True
  | .abandonFault _ => True
  | .doFault id xaFails => world.CommitsPlain id xaFails
  | .populate _ _ _ _ => True
  | .populateZero _ _ => True
  | .invalidateStart _ _ => True
  | .invalidateEnd _ => True
  | .setup _ _ flags _ _ _ _ => flags = .selectSystem
  | .allocAndCopy _ _ => True
  | .pages _ _ => True
  | .finalizeAndMap _ _ => True
  | .finalize _ => True
  | _ => False

theorem Single.of_isSome (single : world.Single)
    (mirrors : ∀ m, (next.dmirror m).isSome = true →
      (world.dmirror m).isSome = true) : next.Single :=
  fun m n opened opened' => single m n (mirrors m opened) (mirrors n opened')

theorem Single.othersEmpty (single : world.Single)
    (tracked : world.MovesTracked) (forward : world.Forward) {id : Nat}
    {migration : Migration} (there : world.migrations id = some migration)
    (slots : Nat → MigrateSlot) : world.OthersEmpty migration slots := by
  intro pfn m dmirror _ foreign present _
  obtain ⟨own, opened, -⟩ :=
    tracked.apart.mirror id migration there (forward id migration there)
  refine absurd (single m migration.dmirror ?_ ?_) foreign
  · rw [present]
    rfl
  · rw [opened]
    rfl

theorem Single.step [Zero Contents] (single : world.Single)
    {input : Input Contents} (admitted : world.WritesAndMigrations input)
    (moved : world.step input = some next) : next.Single := by
  have same (mirrors : next.dmirror = world.dmirror) : next.Single := by
    apply single.of_isSome
    rw [mirrors]
    exact fun _ opened => opened
  cases input with
  | openFile m mdevice mm =>
      obtain ⟨-, -, rfl⟩ := openFile_opened moved
      have here : ∀ n, (Function.update world.dmirror m (some
          ⟨mdevice, mm, fun _ => none, 0⟩) n).isSome = true → n = m := by
        intro n opened
        by_contra other
        rw [Function.update_of_ne other, admitted n] at opened
        cases opened
      intro n n' opened opened'
      exact (here n opened).trans (here n' opened').symm
  | doWrite m count first bounce =>
      obtain ⟨dmirror, _, rfl⟩ := Option.map_eq_some_iff.mp moved
      exact same rfl
  | readBegin id m count first write =>
      obtain ⟨_, -, -, -, rfl⟩ := readBegin_started moved
      exact same rfl
  | hmmRangeFault id =>
      obtain ⟨fault, _, -, -, -, rfl⟩ := hmmRangeFault_taken moved
      exact same rfl
  | abandonFault id =>
      obtain rfl := abandonFault_dropped moved
      exact same rfl
  | doFault id xaFails =>
      rcases doFault_stored moved with ⟨fault, -, rfl⟩ |
        ⟨fault, dmirror, hmmPfns, pt, -, present, -, -, -, rfl⟩
      · exact same rfl
      · apply single.of_isSome
        intro m opened
        exact (setPt_isSome pt present m).symm.trans opened
  | populate mm pfn frame writable =>
      obtain ⟨-, -, rfl⟩ := populate_mapped moved
      exact same rfl
  | populateZero mm pfn =>
      obtain ⟨-, rfl⟩ := populateZero_mapped moved
      exact same rfl
  | invalidateStart event range =>
      obtain ⟨-, rfl⟩ := invalidateStart_told moved
      apply single.of_isSome
      intro m opened
      rw [← notify_isSome event none range.mm range.first range.last m]
      exact opened
  | invalidateEnd range =>
      obtain ⟨-, rfl⟩ := invalidateEnd_ended moved
      exact same rfl
  | setup id m flags vmWrite count first collected =>
      obtain ⟨dmirror, -, -, rfl⟩ := setup_begun moved
      apply single.of_isSome
      intro n opened
      rw [← notify_isSome .migrate (some dmirror.mdevice) dmirror.mm first
        (first + count) n]
      exact opened
  | allocAndCopy id alloc =>
      obtain ⟨migration, after, -, -, -, -, rfl⟩ := allocAndCopy_copied moved
      exact same rfl
  | pages id migrated =>
      obtain ⟨migration, after, -, -, -, rfl⟩ := pages_migrated moved
      exact same rfl
  | finalizeAndMap id xaFails =>
      obtain ⟨migration, -, -, -, ⟨-, rfl⟩ | ⟨dmirror, pt, present, -,
        rfl⟩⟩ := finalizeAndMap_mapped moved
      · exact same rfl
      · apply single.of_isSome
        intro m opened
        exact (setPt_isSome pt present m).symm.trans opened
  | finalize id =>
      obtain ⟨migration, after, -, -, -, rfl⟩ := finalize_finished moved
      exact same rfl
  | _ => exact admitted.elim

theorem Forward.of_same (forward : world.Forward)
    (same : next.migrations = world.migrations) : next.Forward := by
  intro id migration there
  exact forward id migration (same ▸ there)

theorem Forward.advance (forward : world.Forward) {id : Nat}
    {migration : Option Migration}
    (toDevice : ∀ found, migration = some found → found.flags = .selectSystem)
    (migrations : next.migrations =
      Function.update world.migrations id migration) : next.Forward := by
  intro other found there
  rw [migrations] at there
  by_cases here : other = id
  · subst here
    rw [Function.update_self] at there
    exact toDevice found there
  · rw [Function.update_of_ne here] at there
    exact forward other found there

theorem Forward.step [Zero Contents] (forward : world.Forward)
    {input : Input Contents} (admitted : world.WritesAndMigrations input)
    (moved : world.step input = some next) : next.Forward := by
  cases input with
  | openFile _ _ _ => exact forward.of_same (SamePages.openFile moved).migrations
  | doWrite _ _ _ _ => exact forward.of_same (SamePages.doWrite moved).migrations
  | readBegin _ _ _ _ _ =>
      exact forward.of_same (SamePages.readBegin moved).migrations
  | hmmRangeFault _ =>
      exact forward.of_same (SamePages.hmmRangeFault moved).migrations
  | abandonFault _ =>
      exact forward.of_same (SamePages.abandonFault moved).migrations
  | doFault _ _ => exact forward.of_same (SamePages.doFault moved).migrations
  | populate _ _ _ _ => exact forward.of_same (populate_migrations moved)
  | populateZero _ _ => exact forward.of_same (populateZero_migrations moved)
  | invalidateStart _ _ =>
      exact forward.of_same (SamePages.invalidateStart moved).migrations
  | invalidateEnd _ =>
      exact forward.of_same (SamePages.invalidateEnd moved).migrations
  | setup id m flags vmWrite count first collected =>
      obtain ⟨dmirror, -, -, rfl⟩ := setup_begun moved
      refine forward.advance ?_ rfl
      intro found same
      cases same
      exact admitted
  | allocAndCopy id alloc =>
      obtain ⟨migration, after, -, toDevice, -, -, rfl⟩ := allocAndCopy_copied moved
      refine forward.advance ?_ rfl
      intro found same
      cases same
      exact toDevice
  | pages id migrated =>
      obtain ⟨migration, after, there, -, -, rfl⟩ := pages_migrated moved
      refine forward.advance ?_ rfl
      intro found same
      cases same
      exact forward id migration there
  | finalizeAndMap id xaFails =>
      obtain ⟨migration, -, toDevice, -, ⟨-, rfl⟩ | ⟨dmirror, pt, -, -,
        rfl⟩⟩ := finalizeAndMap_mapped moved
      · exact forward.of_same rfl
      · refine forward.advance ?_ rfl
        intro found same
        cases same
        exact toDevice
  | finalize id =>
      obtain ⟨migration, after, -, -, -, rfl⟩ := finalize_finished moved
      refine forward.advance ?_ rfl
      intro found same
      cases same
  | _ => exact admitted.elim

def SnapshotsOld (world next : World Contents) : Prop :=
  ∀ id fault hmmPfns, next.faults id = some fault →
    fault.hmmPfns = some hmmPfns → ∃ before, world.faults id = some before ∧
      before.hmmPfns = some hmmPfns

theorem SnapshotsOld.of_eq (same : next.faults = world.faults) :
    world.SnapshotsOld next := by
  intro id fault hmmPfns started taken
  exact ⟨fault, same ▸ started, taken⟩

theorem SnapshotsOld.setFault (id : Nat) (fault : Option Fault)
    (untaken : ∀ found, fault = some found → found.hmmPfns = none) :
    world.SnapshotsOld (world.setFault id fault) := by
  intro other found hmmPfns started taken
  by_cases here : other = id
  · subst here
    simp only [World.setFault, Function.update_self] at started
    rw [untaken found started] at taken
    cases taken
  · simp only [World.setFault, Function.update_of_ne here] at started
    exact ⟨found, started, taken⟩

theorem SnapshotsOld.dropped (id : Nat) :
    world.SnapshotsOld (world.setFault id none) := by
  apply SnapshotsOld.setFault
  intro found started
  cases started

theorem SnapshotsOld.remap (mm : Nat) (after : Nat → Pte) :
    world.SnapshotsOld (world.remap mm after) := by
  intro id fault hmmPfns started taken
  obtain ⟨before, old, rfl⟩ := Option.map_eq_some_iff.mp started
  exact ⟨before, old, taken⟩

theorem ZeroReadOnly.of_old (zero : world.ZeroReadOnly)
    (ptes : ∀ mm pfn writable, next.cpu mm pfn = .present .zero writable →
      world.cpu mm pfn = .present .zero writable ∨ writable = false)
    (snapshots : world.SnapshotsOld next) (old : world.EntriesOld next) :
    next.ZeroReadOnly := by
  constructor
  · intro mm pfn writable entry
    rcases ptes mm pfn writable entry with before | readOnly
    · exact zero.ptes mm pfn writable before
    · exact readOnly
  · intro id fault hmmPfns pfn started taken
    obtain ⟨before, earlier, same⟩ := snapshots id fault hmmPfns started taken
    exact zero.snapshots id before hmmPfns pfn earlier same
  · intro m dmirror pfn entry present found
    obtain ⟨before, opened, -, stored⟩ := old m dmirror pfn entry present found
    exact zero.entries m before pfn entry opened stored

theorem ZeroReadOnly.hmmRangeFault (zero : world.ZeroReadOnly) {id : Nat}
    (moved : world.hmmRangeFault id = some next) : next.ZeroReadOnly := by
  obtain ⟨fault, _, started, -, -, rfl⟩ := hmmRangeFault_taken moved
  refine ⟨zero.ptes, ?_, zero.entries⟩
  intro other found hmmPfns pfn started' taken
  by_cases here : other = id
  · subst here
    simp only [World.setFault, Function.update_self,
      Option.some.injEq] at started'
    subst started'
    cases taken
    dsimp only
    cases entry : world.cpu fault.mm pfn with
    | none => exact fun _ => rfl
    | migration held writable => exact fun _ => rfl
    | present held writable =>
        intro named
        have named : held = .zero := named
        subst named
        exact zero.ptes fault.mm pfn writable entry
  · simp only [World.setFault, Function.update_of_ne here] at started'
    exact zero.snapshots other found hmmPfns pfn started' taken

theorem ZeroReadOnly.doFault (zero : world.ZeroReadOnly) {id : Nat}
    {xaFails : Nat → Bool}
    (moved : world.doFault id xaFails = some next) : next.ZeroReadOnly := by
  rcases doFault_stored moved with ⟨fault, -, rfl⟩ |
    ⟨fault, dmirror, hmmPfns, pt, started, present, taken, -, rfl, rfl⟩
  · exact zero.of_old (fun _ _ _ entry => .inl entry)
      (.dropped id) (Fewer.of_eq rfl).entries
  · refine ⟨zero.ptes, ?_, ?_⟩
    · intro other found hmmPfns' pfn started' taken'
      obtain ⟨before, earlier, same⟩ := SnapshotsOld.dropped id other found hmmPfns' started' taken'
      exact zero.snapshots other before hmmPfns' pfn earlier same
    · intro m after pfn entry opened found named
      by_cases here : m = fault.dmirror
      · subst here
        simp only [World.setFault, World.setPt, Function.update_self,
          Option.some.injEq] at opened
        subst opened
        rcases dmirrorDoFault_entry found with old | ⟨-, -, rfl, -⟩
        · exact zero.entries _ dmirror pfn entry present old named
        · rw [zero.snapshots id fault hmmPfns pfn started taken named]
          intro same
          cases same
      · simp only [World.setFault, World.setPt,
          Function.update_of_ne here] at opened
        exact zero.entries m after pfn entry opened found named

theorem migrateVmaSetup_present {flags : MigrateVmaDirection}
    {pgmapOwner : Nat} {collected : Nat → Bool} {count first pfn : Nat}
    {cpu : Nat → Pte} {page : Page} {writable : Bool}
    (entry : (migrateVmaSetup flags pgmapOwner collected count first
      cpu).1 pfn = .present page writable) :
    cpu pfn = .present page writable := by
  have cell := migrateVmaSetup_cell flags pgmapOwner collected count first
    cpu pfn
  have cell := congrArg Prod.fst cell
  dsimp only at cell
  rw [entry] at cell
  split at cell
  · unfold setupCell at cell
    dsimp only at cell
    split at cell
    · cases cell
    · exact cell.symm
  · exact cell.symm

/-- `migrate_vma_finalize` maps the source or the target of a slot. -/
theorem finalizePte_present {slot : MigrateSlot} {pte : Pte} {page : Page}
    {writable : Bool} (entry : finalizePte slot pte = .present page writable) :
    pte = .present page writable ∨ slot.src.page = some page ∨
      slot.dst.page = some page := by
  unfold finalizePte at entry
  split at entry
  · next source held writable' locked =>
    split at entry
    · cases entry
      split
      · cases target : slot.dst.page with
        | none => exact .inr (.inl locked)
        | some newpage => exact .inr (.inr rfl)
      · exact .inr (.inl locked)
    · exact .inl entry
  · exact .inl entry

theorem ZeroReadOnly.setup (zero : world.ZeroReadOnly) {id m : Nat}
    {flags : MigrateVmaDirection} {vmWrite : Bool} {count first : Nat}
    {collected : Nat → Bool}
    (moved : world.setup id m flags vmWrite count first collected =
      some next) : next.ZeroReadOnly := by
  obtain ⟨dmirror, -, -, rfl⟩ := setup_begun moved
  refine zero.of_old ?_ (.of_eq rfl) (Fewer.notify world .migrate
    (some dmirror.mdevice) dmirror.mm first (first + count)).entries
  intro mm pfn writable entry
  by_cases here : mm = dmirror.mm
  · subst here
    simp only [World.migrateSetup, setMigration,
      Function.update_self] at entry
    exact .inl (migrateVmaSetup_present entry)
  · simp only [World.migrateSetup, setMigration,
      Function.update_of_ne here] at entry
    exact .inl entry

theorem ZeroReadOnly.pages (zero : world.ZeroReadOnly)
    (tracked : world.MovesTracked) (forward : world.Forward) {id : Nat}
    {migrated : Nat → Bool} (moved : world.pages id migrated = some next) :
    next.ZeroReadOnly := by
  obtain ⟨migration, after, there, -, rfl, rfl⟩ := pages_migrated moved
  refine zero.of_old ?_ (.remap _ _) (Fewer.of_eq rfl).entries
  intro mm pfn writable entry
  by_cases here : mm = migration.mm
  · subst here
    simp only [setMigration, World.remap, Function.update_self] at entry
    rcases (migrateVmaPages_at tracked.owned there migrated pfn).2.2 with
      ⟨stays, -⟩ | ⟨newpage, aimed, -, -, -, put⟩
    · exact .inl (stays.symm.trans entry)
    · have device := tracked.apart.device id migration pfn newpage there
        (forward id migration there) aimed
      have same := put.symm.trans entry
      cases same
      cases device
  · simp only [setMigration, World.remap, Function.update_of_ne here] at entry
    exact .inl entry

theorem ZeroReadOnly.finalize (zero : world.ZeroReadOnly)
    (tracked : world.MovesTracked) (forward : world.Forward) {id : Nat}
    (moved : world.finalize id = some next) : next.ZeroReadOnly := by
  obtain ⟨migration, after, there, -, rfl, rfl⟩ := finalize_finished moved
  refine zero.of_old ?_ (.remap _ _) (Fewer.of_eq rfl).entries
  intro mm pfn writable entry
  by_cases here : mm = migration.mm
  · subst here
    simp only [setMigration, World.remap, Function.update_self,
      migrateVmaFinalize_pte] at entry
    split at entry
    · have toDevice := forward id migration there
      rcases finalizePte_present entry with old | source | target
      · exact .inl old
      · exact absurd rfl
          (tracked.apart.system id migration pfn _ there toDevice source).1
      · have device :=
          tracked.apart.device id migration pfn _ there toDevice target
        cases device
    · exact .inl entry
  · simp only [setMigration, World.remap, Function.update_of_ne here] at entry
    exact .inl entry

theorem ZeroReadOnly.finalizeAndMap (zero : world.ZeroReadOnly)
    (tracked : world.MovesTracked) {id : Nat} {xaFails : Nat → Bool}
    (moved : world.finalizeAndMap id xaFails = some next) :
    next.ZeroReadOnly := by
  obtain ⟨migration, there, toDevice, stage, ⟨-, rfl⟩ | ⟨dmirror, pt,
    present, rfl, rfl⟩⟩ := finalizeAndMap_mapped moved
  · exact zero.of_old (fun _ _ _ entry => .inl entry) (.of_eq rfl)
      (Fewer.of_eq rfl).entries
  · refine ⟨zero.ptes, zero.snapshots, ?_⟩
    intro m after pfn entry opened found named
    by_cases here : m = migration.dmirror
    · subst here
      simp only [setMigration, World.setPt, Function.update_self,
        Option.some.injEq] at opened
      subst opened
      rcases dmirrorMigrateFinalizeAndMap_spec world.mem migration.slots
          xaFails migration.npages migration.first dmirror.pt pfn with
        ⟨target, -, -, marked, aimed, stored⟩ | ⟨stays, -⟩
      · -- The backing page of the target is a frame.
        have landed : migration.landed pfn = true := by
          simp [Migration.landed, stage, MigrateSlot.moved, marked, aimed]
        have used := tracked.owned.landed_used there landed aimed
        have device := tracked.apart.device id migration pfn target there
          toDevice aimed
        obtain ⟨frame, link⟩ := tracked.owned.backed target used device
        have same := stored.symm.trans found
        simp only [finalizeAndMapEntry, Memory.backingPage, device, link,
          if_true, Option.map_some, Option.some.injEq] at same
        subst same
        cases named
      · exact zero.entries _ dmirror pfn entry present
          (stays.symm.trans found) named
    · simp only [setMigration, World.setPt,
        Function.update_of_ne here] at opened
      exact zero.entries m after pfn entry opened found named

theorem ZeroReadOnly.step [Zero Contents] (zero : world.ZeroReadOnly)
    (tracked : world.MovesTracked) (forward : world.Forward)
    {input : Input Contents} (admitted : world.WritesAndMigrations input)
    (moved : world.step input = some next) : next.ZeroReadOnly := by
  have same (cpu : next.cpu = world.cpu)
      (snapshots : world.SnapshotsOld next) (old : world.EntriesOld next) :
      next.ZeroReadOnly :=
    zero.of_old (fun mm pfn writable entry => .inl (cpu ▸ entry)) snapshots
      old
  cases input with
  | openFile _ _ _ =>
      exact same (SamePages.openFile moved).cpu
        (.of_eq (SameRequests.openFile moved).faults)
        (Fewer.openFile moved).entries
  | doWrite _ _ _ _ =>
      exact same (SamePages.doWrite moved).cpu
        (.of_eq (SameRequests.doWrite moved).faults)
        (Fewer.doWrite moved).entries
  | readBegin id m count first write =>
      have fewer := Fewer.readBegin moved
      obtain ⟨_, -, -, -, rfl⟩ := readBegin_started moved
      refine same rfl (.setFault id (some _) ?_) fewer.entries
      intro found started
      cases started
      rfl
  | hmmRangeFault id => exact zero.hmmRangeFault moved
  | abandonFault id =>
      obtain rfl := abandonFault_dropped moved
      exact same rfl (.dropped id) (Fewer.of_eq rfl).entries
  | doFault id xaFails => exact zero.doFault moved
  | populate mm pfn frame writable =>
      obtain ⟨-, -, rfl⟩ := populate_mapped moved
      refine zero.of_old ?_ (.of_eq rfl) (Fewer.of_eq rfl).entries
      intro mm' pfn' writable' entry
      by_cases here : mm' = mm ∧ pfn' = pfn
      · obtain ⟨rfl, rfl⟩ := here
        simp only [World.setCpu, Function.update_self] at entry
        cases entry
      · exact .inl ((setCpu_page mm pfn _ _ _ here).symm.trans entry)
  | populateZero mm pfn =>
      obtain ⟨-, rfl⟩ := populateZero_mapped moved
      refine zero.of_old ?_ (.of_eq rfl) (Fewer.of_eq rfl).entries
      intro mm' pfn' writable' entry
      by_cases here : mm' = mm ∧ pfn' = pfn
      · obtain ⟨rfl, rfl⟩ := here
        simp only [World.setCpu, Function.update_self] at entry
        cases entry
        exact .inr rfl
      · exact .inl ((setCpu_page mm pfn _ _ _ here).symm.trans entry)
  | invalidateStart event range =>
      have fewer := Fewer.invalidateStart moved
      obtain ⟨-, rfl⟩ := invalidateStart_told moved
      exact same rfl (.of_eq rfl) fewer.entries
  | invalidateEnd range =>
      obtain ⟨-, rfl⟩ := invalidateEnd_ended moved
      exact same rfl (.of_eq rfl) (Fewer.of_eq rfl).entries
  | setup _ _ _ _ _ _ _ => exact zero.setup moved
  | allocAndCopy id alloc =>
      obtain ⟨migration, after, -, -, -, -, rfl⟩ := allocAndCopy_copied moved
      exact same rfl (.of_eq rfl) (Fewer.of_eq rfl).entries
  | pages _ _ => exact zero.pages tracked forward moved
  | finalizeAndMap _ _ => exact zero.finalizeAndMap tracked moved
  | finalize _ => exact zero.finalize tracked forward moved
  | _ => exact admitted.elim

end World

end Rshm.Hmm
