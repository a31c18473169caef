import Rshm.Hmm.OwnershipKept
import Rshm.Hmm.StepEffects

/-!
# The driver keeps ownership

`migrate_vma_finalize` gives every address of a migration back, and with it
each step of the machine keeps `Owned`.  A process changes what it maps under
the mmap lock, that is, while no migration is in progress.
-/

namespace Rshm.Hmm

open RangeLoop

variable {Contents : Type}

namespace Owned

variable {cpu : Nat → Nat → Pte} {migrations : Nat → Option Migration}

/-- One address of `migrate_vma_finalize`. -/
theorem finalizeOne {mem : Memory Contents}
    (owned : Owned mem.inUse mem.zoneDeviceData cpu migrations) {id : Nat}
    {migration : Migration} (there : migrations id = some migration)
    (slots : Nat → MigrateSlot) (pfn : Nat)
    (same : migration.slots pfn = slots pfn) :
    let after := migrateVmaFinalizeOne slots pfn (cpu migration.mm, mem)
    Owned after.2.inUse after.2.zoneDeviceData
      (Function.update cpu migration.mm after.1)
      (Function.update migrations id (some (migration.clear pfn))) := by
  have unchanged : Function.update cpu migration.mm (cpu migration.mm) =
      cpu := Function.update_eq_self ..
  unfold migrateVmaFinalizeOne
  dsimp only
  rw [← same]
  cases source : (migration.slots pfn).src.page with
  | none =>
      have cleared := owned.clearHole there source
      cases target : (migration.slots pfn).dst.page with
      | none =>
          dsimp only
          rw [unchanged]
          exact cleared
      | some newpage =>
          dsimp only
          split
          · rw [unchanged]
            exact cleared
          · next unmapped =>
            rw [unchanged]
            have uninserted : migration.inserted pfn = false := by
              by_contra inserted
              rw [Bool.not_eq_false] at inserted
              obtain ⟨writable, entry⟩ := owned.inserted id migration pfn
                newpage there inserted target
              rw [entry] at unmapped
              exact unmapped rfl
            have held : Holds mem.inUse mem.zoneDeviceData cpu migrations
                (.dst id pfn) newpage := ⟨migration, there, target, uninserted⟩
            apply cleared.put
            · intro owner still
              obtain ⟨before, -, other⟩ := clear_holds there still
              exact other (owned.exclusive.once owner _ newpage before held)
            · exact owned.exclusive.alive _ newpage held
  | some page =>
      obtain ⟨writable, entry⟩ :=
        owned.unmapped id migration pfn page there source
      have locked : Holds mem.inUse mem.zoneDeviceData cpu migrations
          (.src id pfn) page := ⟨migration, there, source⟩
      dsimp only
      rw [entry]
      dsimp only
      rw [if_pos rfl]
      cases target : (migration.slots pfn).dst.page with
      | none =>
          have stays : (if (migration.slots pfn).src.migrate = true then
              (none : Option Page).getD page else page) = page := by
            split <;> rfl
          rw [stays]
          exact (owned.settle there source (.inl rfl) writable).1
      | some newpage =>
          have uninserted : migration.inserted pfn = false := by
            simp [Migration.inserted, source]
          have aimed : Holds mem.inUse mem.zoneDeviceData cpu migrations
              (.dst id pfn) newpage := ⟨migration, there, target, uninserted⟩
          have apart : page ≠ newpage := by
            rintro rfl
            have once := owned.exclusive.once _ _ page locked aimed
            cases once
          dsimp only [Option.getD_some]
          cases (migration.slots pfn).src.migrate with
          | true =>
              obtain ⟨settled, freed⟩ :=
                owned.settle there source (.inr target) writable
              rw [if_pos rfl, if_pos rfl]
              apply settled.put
              · exact freed page apart (.inl rfl)
              · exact owned.exclusive.alive _ page locked
          | false =>
              obtain ⟨settled, freed⟩ :=
                owned.settle there source (.inl rfl) writable
              rw [if_neg Bool.false_ne_true, if_neg Bool.false_ne_true]
              apply settled.put
              · exact freed newpage apart.symm (.inr target)
              · exact owned.exclusive.alive _ newpage aimed

theorem forget {inUse : Finset Page} {zoneDeviceData : Page → ZoneDeviceData}
    {id : Nat} {done : Migration}
    (owned : Owned inUse zoneDeviceData cpu
      (Function.update migrations id (some done)))
    (empty : ∀ pfn, done.slots pfn = .empty) :
    Owned inUse zoneDeviceData cpu (Function.update migrations id none) := by
  have back {other : Nat} {found : Migration}
      (there : Function.update migrations id none other = some found) :
      other ≠ id ∧
        Function.update migrations id (some done) other = some found := by
    by_cases here : other = id
    · subst here
      rw [Function.update_self] at there
      cases there
    · rw [Function.update_of_ne here] at there ⊢
      exact ⟨here, there⟩
  refine ⟨?_, owned.backed, ?_, ?_, ?_, ?_, ?_⟩
  · apply owned.exclusive.drop
    intro owner item held
    cases owner with
    | src other pfn =>
        obtain ⟨found, there, source⟩ := held
        exact ⟨found, (back there).2, source⟩
    | dst other pfn =>
        obtain ⟨found, there, target⟩ := held
        exact ⟨found, (back there).2, target⟩
    | _ => exact held
  · intro mm pfn page writable entry
    obtain ⟨other, found, there, place, source⟩ :=
      owned.migrating mm pfn page writable entry
    by_cases here : other = id
    · subst here
      rw [Function.update_self, Option.some.injEq] at there
      rw [← there, empty pfn] at source
      cases source
    · rw [Function.update_of_ne here] at there
      exact ⟨other, found, by simp [here, there], place, source⟩
  · intro other found pfn page there
    exact owned.unmapped other found pfn page (back there).2
  · intro other found pfn page there
    exact owned.inserted other found pfn page (back there).2
  · intro other found pfn page there
    exact owned.hole other found pfn page (back there).2
  · intro other found pfn there
    exact owned.window other found pfn (back there).2

theorem finalize {mem : Memory Contents}
    (owned : Owned mem.inUse mem.zoneDeviceData cpu migrations) {id : Nat}
    {migration : Migration} (there : migrations id = some migration) :
    let after := migrateVmaFinalize migration.slots migration.npages
      migration.first (cpu migration.mm, mem)
    Owned after.2.inUse after.2.zoneDeviceData
      (Function.update cpu migration.mm after.1)
      (Function.update migrations id none) := by
  intro after
  let rest (next pfn : Nat) : MigrateSlot :=
    if migration.first ≤ pfn ∧ pfn < next then .empty
    else migration.slots pfn
  have loop := forEach_induction
    (fun next (state : (Nat → Pte) × Memory Contents) =>
      Owned state.2.inUse state.2.zoneDeviceData
        (Function.update cpu migration.mm state.1)
        (Function.update migrations id
          (some { migration with slots := rest next })))
    (migrateVmaFinalizeOne migration.slots) migration.npages migration.first
    (cpu migration.mm, mem)
    (by
      have whole : rest migration.first = migration.slots := by
        funext pfn
        exact if_neg (by omega)
      dsimp only
      rw [whole, Function.update_eq_self]
      have same : Function.update migrations id (some migration) =
          migrations := by
        rw [← there, Function.update_eq_self]
      exact same.symm ▸ owned)
    (by
      rintro pfn ⟨ptes, mem⟩ lower upper held
      have passed := held.finalizeOne (Function.update_self ..)
        migration.slots pfn (if_neg (by omega))
      dsimp only at passed ⊢
      rw [Function.update_self, Function.update_idem,
        Function.update_idem] at passed
      have cleared : Migration.clear { migration with slots := rest pfn } pfn =
          { migration with slots := rest (pfn + 1) } := by
        have slots : Function.update (rest pfn) pfn .empty =
            rest (pfn + 1) := by
          funext other
          by_cases here : other = pfn
          · subst here
            rw [Function.update_self]
            exact (if_pos (by omega)).symm
          · rw [Function.update_of_ne here]
            have side : migration.first ≤ other ∧ other < pfn ↔
                migration.first ≤ other ∧ other < pfn + 1 := by omega
            unfold rest
            rw [if_congr side rfl rfl]
        unfold Migration.clear
        rw [slots]
      rw [cleared] at passed
      exact passed)
  apply loop.forget
  intro pfn
  dsimp only
  by_cases inside : migration.first ≤ pfn ∧
      pfn < migration.first + migration.npages
  · exact if_pos inside
  · exact (if_neg inside).trans (owned.window id migration pfn there inside)

theorem replace {mem : Memory Contents}
    (owned : Owned mem.inUse mem.zoneDeviceData cpu migrations)
    (idle : ∀ id, migrations id = none) {mm pfn : Nat} {page : Page}
    {writable : Bool} (entry : cpu mm pfn = .present page writable)
    {frame : Nat} (fresh : Page.normal frame ∉ mem.inUse) (bytes : Contents)
    (writable' : Bool) :
    let grown : Memory Contents :=
      { mem with inUse := insert (.normal frame) mem.inUse }
    let after := (grown.write (.normal frame) bytes).putPage page
    Owned after.inUse after.zoneDeviceData
      (setPte cpu mm pfn (.present (.normal frame) writable'))
      migrations := by
  intro grown after
  obtain ⟨unmapped, unheld⟩ := owned.unmap entry idle
  have filled := unmapped.populate (setPte_here ..) fresh writable'
  have again : setPte (setPte cpu mm pfn .none) mm pfn
      (.present (.normal frame) writable') =
        setPte cpu mm pfn (.present (.normal frame) writable') := by
    simp [setPte]
  rw [again] at filled
  by_cases zero : page = .zero
  · subst zero
    exact filled
  have used : page ∈ mem.inUse :=
    owned.exclusive.alive (.pte mm pfn) page ⟨zero, writable, entry⟩
  have different : page ≠ .normal frame := by
    rintro rfl
    exact fresh used
  have written : Owned (grown.write (.normal frame) bytes).inUse
      (grown.write (.normal frame) bytes).zoneDeviceData
      (setPte cpu mm pfn (.present (.normal frame) writable'))
      migrations := filled
  apply written.put
  · intro owner held
    apply unheld owner zero
    cases owner with
    | pte mm' pfn' =>
        obtain ⟨nonzero, w, entry'⟩ := held
        refine ⟨nonzero, w, ?_⟩
        by_cases here : mm' = mm ∧ pfn' = pfn
        · obtain ⟨rfl, rfl⟩ := here
          rw [setPte_here] at entry'
          cases entry'
          exact absurd rfl different
        · rw [setPte_elsewhere _ _ here] at entry' ⊢
          exact entry'
    | backing dpage =>
        obtain ⟨used', kind, link⟩ := held
        rcases Finset.mem_insert.mp used' with rfl | old
        · cases kind
        · exact ⟨old, kind, link⟩
    | _ => exact held
  · exact Finset.mem_insert_of_mem used

end Owned

namespace World

variable {world next : World Contents}

/-- The invariant of a machine state. -/
def PagesOwned (world : World Contents) : Prop :=
  Owned world.mem.inUse world.mem.zoneDeviceData world.cpu world.migrations

/-- What the mmap lock and the page locks exclude. -/
def Locked (world : World Contents) : Input Contents → Prop
  | .cpuChange _ _ _ => ∀ id, world.migrations id = none
  | .release _ _ => ∀ id, world.migrations id = none
  | .cpuFault _ _ _ _ _ => ∀ id, world.migrations id = none
  | .setup _ _ flags _ _ _ _ => flags = .selectDevicePrivate →
      ∀ id, world.migrations id = none
  | _ => True

/-- A step that leaves the pages, the page tables and the migrations. -/
structure SamePages (world next : World Contents) : Prop where
  inUse : next.mem.inUse = world.mem.inUse
  links : next.mem.zoneDeviceData = world.mem.zoneDeviceData
  cpu : next.cpu = world.cpu
  migrations : next.migrations = world.migrations

theorem SamePages.refl (world : World Contents) : world.SamePages world :=
  ⟨rfl, rfl, rfl, rfl⟩

theorem PagesOwned.of_same (owned : world.PagesOwned)
    (same : world.SamePages next) : next.PagesOwned := by
  unfold PagesOwned
  rw [same.inUse, same.links, same.cpu, same.migrations]
  exact owned

theorem dmirrorDoWrite_links (pt : XArray) (count first : Nat)
    (state : Memory Contents × DmirrorBounce Contents) :
    let after := (dmirrorDoWrite pt count first state).1.1
    after.inUse = state.1.inUse ∧
      after.zoneDeviceData = state.1.zoneDeviceData := by
  let links (after : Memory Contents) : Prop :=
    after.inUse = state.1.inUse ∧
      after.zoneDeviceData = state.1.zoneDeviceData
  suffices loop : ∃ done, done ≤ count ∧
      links (dmirrorDoWrite pt count first state).1.1 by
    obtain ⟨done, -, held⟩ := loop
    exact held
  apply forRange_induction
    (fun _ (after : Memory Contents × DmirrorBounce Contents) =>
      links after.1)
  · exact ⟨rfl, rfl⟩
  · intro pfn before _ _ held
    dsimp only
    split
    · exact ⟨fun _ => held, nofun⟩
    · exact ⟨nofun, fun _ => held⟩

theorem SamePages.openFile {m mdevice mm : Nat}
    (moved : world.openFile m mdevice mm = some next) :
    world.SamePages next := by
  obtain ⟨-, -, rfl⟩ := openFile_opened moved
  exact ⟨rfl, rfl, rfl, rfl⟩

theorem SamePages.closeFile {m : Nat}
    (moved : world.closeFile m = some next) : world.SamePages next := by
  obtain rfl := closeFile_closed moved
  exact ⟨rfl, rfl, rfl, rfl⟩

theorem SamePages.doWrite {m count first : Nat}
    {bounce : DmirrorBounce Contents}
    (moved : world.doWrite m count first bounce = some next) :
    world.SamePages next := by
  obtain ⟨dmirror, _, rfl⟩ := Option.map_eq_some_iff.mp moved
  obtain ⟨inUse, links⟩ :=
    dmirrorDoWrite_links dmirror.pt count first (world.mem, bounce)
  exact ⟨inUse, links, rfl, rfl⟩

theorem SamePages.readBegin {id m count first : Nat} {write : Bool}
    (moved : world.readBegin id m count first write = some next) :
    world.SamePages next := by
  obtain ⟨_, -, -, -, rfl⟩ := readBegin_started moved
  exact ⟨rfl, rfl, rfl, rfl⟩

theorem SamePages.hmmRangeFault {id : Nat}
    (moved : world.hmmRangeFault id = some next) : world.SamePages next := by
  obtain ⟨_, _, -, -, -, rfl⟩ := hmmRangeFault_taken moved
  exact ⟨rfl, rfl, rfl, rfl⟩

theorem SamePages.abandonFault {id : Nat}
    (moved : world.abandonFault id = some next) : world.SamePages next := by
  obtain rfl := abandonFault_dropped moved
  exact ⟨rfl, rfl, rfl, rfl⟩

theorem SamePages.doFault {id : Nat} {xaFails : Nat → Bool}
    (moved : world.doFault id xaFails = some next) :
    world.SamePages next := by
  rcases doFault_stored moved with ⟨_, -, rfl⟩ |
    ⟨_, _, _, _, -, -, -, -, -, rfl⟩
  · exact ⟨rfl, rfl, rfl, rfl⟩
  · exact ⟨rfl, rfl, rfl, rfl⟩

theorem SamePages.invalidateStart {event : NotifierEvent}
    {range : Invalidation}
    (moved : world.invalidateStart event range = some next) :
    world.SamePages next := by
  obtain ⟨-, rfl⟩ := invalidateStart_told moved
  exact ⟨rfl, rfl, rfl, rfl⟩

theorem SamePages.invalidateEnd {range : Invalidation}
    (moved : world.invalidateEnd range = some next) :
    world.SamePages next := by
  obtain ⟨-, rfl⟩ := invalidateEnd_ended moved
  exact ⟨rfl, rfl, rfl, rfl⟩

theorem SamePages.exclusive {m count first : Nat} {pages : Nat → Option Page}
    {complete : Bool} {xaFails : Nat → Bool}
    (moved : world.exclusive m count first pages complete xaFails =
      some next) : world.SamePages next := by
  apply exclusive_keeps world.SamePages _ _ (.refl world) moved
  · intro between mm pfn held
    exact ⟨held.inUse, held.links, held.cpu, held.migrations⟩
  · intro between m dmirror pt held present
    exact ⟨held.inUse, held.links, held.cpu, held.migrations⟩

theorem PagesOwned.populate [Zero Contents] (owned : world.PagesOwned)
    {mm pfn frame : Nat} {writable : Bool}
    (moved : world.populate mm pfn frame writable = some next) :
    next.PagesOwned := by
  obtain ⟨empty, unused, rfl⟩ := populate_mapped moved
  exact Owned.populate owned empty unused writable

theorem PagesOwned.populateZero (owned : world.PagesOwned) {mm pfn : Nat}
    (moved : world.populateZero mm pfn = some next) : next.PagesOwned := by
  obtain ⟨empty, rfl⟩ := populateZero_mapped moved
  exact Owned.populateZero owned empty false

theorem PagesOwned.cpuChange (owned : world.PagesOwned)
    (idle : ∀ id, world.migrations id = none) {mm pfn : Nat}
    {change : CpuChange}
    (moved : world.cpuChange mm pfn change = some next) :
    next.PagesOwned := by
  obtain ⟨-, ⟨page, writable, entry, rfl⟩ | ⟨page, writable, entry, -⟩ |
    ⟨page, writable, writable', entry, rfl⟩ |
    ⟨page, writable, rpage, frame, writable', entry, backing, unused,
      rfl⟩⟩ := cpuChange_made moved
  · obtain ⟨unmapped, unheld⟩ := Owned.unmap owned entry idle
    by_cases zero : page = .zero
    · subst zero
      exact unmapped
    · apply unmapped.put fun owner => unheld owner zero
      exact owned.exclusive.alive (.pte mm pfn) page
        ⟨zero, writable, entry⟩
  · obtain ⟨id, migration, there, -⟩ :=
      owned.migrating mm pfn page writable entry
    rw [idle id] at there
    cases there
  · exact Owned.protect owned entry writable'
  · exact Owned.replace owned idle entry unused _ writable'

theorem PagesOwned.migrateSetup (owned : world.PagesOwned) {id : Nat}
    (unused : world.migrations id = none) (m mdevice mm : Nat)
    {flags : MigrateVmaDirection} (vmWrite : Bool) (count first : Nat)
    (collected : Nat → Bool)
    (alone : flags = .selectDevicePrivate →
      ∀ other, world.migrations other = none) :
    (world.migrateSetup id m mdevice mm flags vmWrite count first
      collected).PagesOwned := by
  let migration : Migration :=
    { dmirror := m
      pgmapOwner := mdevice
      mm := mm
      flags := flags
      vmWrite := vmWrite
      first := first
      npages := count
      slots := (migrateVmaSetup flags mdevice collected count first
        (world.cpu mm)).2
      stage := .setup }
  have stage : migration.stage = .setup := rfl
  exact Owned.setup owned unused stage collected rfl alone

theorem PagesOwned.setup (owned : world.PagesOwned) {id m : Nat}
    {flags : MigrateVmaDirection} {vmWrite : Bool} {count first : Nat}
    {collected : Nat → Bool}
    (locked : world.Locked
      (.setup id m flags vmWrite count first collected))
    (moved : world.setup id m flags vmWrite count first collected =
      some next) : next.PagesOwned := by
  obtain ⟨dmirror, -, unused, rfl⟩ := setup_begun moved
  exact owned.migrateSetup unused _ _ _ _ _ _ _ locked

theorem PagesOwned.cpuFault (owned : world.PagesOwned)
    {id mm pfn : Nat} {vmWrite collected : Bool}
    (locked : world.Locked (.cpuFault id mm pfn vmWrite collected))
    (moved : world.cpuFault id mm pfn vmWrite collected = some next) :
    next.PagesOwned := by
  obtain ⟨unused, _, _, _, -, ⟨_, _, _, -, -, -, rfl⟩ | ⟨rfl, -⟩⟩ :=
    cpuFault_begun moved
  · exact owned.migrateSetup unused _ _ _ _ _ _ _ fun _ => locked
  · exact owned

theorem PagesOwned.allocAndCopy [Zero Contents] (owned : world.PagesOwned)
    {id : Nat} {alloc : Nat → Option (Nat × Nat)}
    (moved : world.allocAndCopy id alloc = some next) :
    next.PagesOwned := by
  obtain ⟨migration, after, there, -, stage, rfl, rfl⟩ :=
    allocAndCopy_copied moved
  exact Owned.allocAndCopy owned there stage _ alloc _ _

theorem PagesOwned.faultAllocAndCopy (owned : world.PagesOwned) {id : Nat}
    {alloc : Nat → Option Nat}
    (moved : world.faultAllocAndCopy id alloc = some next) :
    next.PagesOwned := by
  obtain ⟨migration, there, -, stage, ⟨-, rfl⟩ |
    ⟨dmirror, after, -, rfl, rfl⟩⟩ := faultAllocAndCopy_copied moved
  · exact owned
  · exact Owned.faultAllocAndCopy owned there stage alloc _

theorem PagesOwned.pages (owned : world.PagesOwned) {id : Nat}
    {migrated : Nat → Bool} (moved : world.pages id migrated = some next) :
    next.PagesOwned := by
  obtain ⟨migration, after, there, stage, rfl, rfl⟩ := pages_migrated moved
  exact Owned.pages owned there stage migrated

theorem PagesOwned.finalizeAndMap (owned : world.PagesOwned) {id : Nat}
    {xaFails : Nat → Bool}
    (moved : world.finalizeAndMap id xaFails = some next) :
    next.PagesOwned := by
  obtain ⟨migration, there, -, stage, ⟨-, rfl⟩ | ⟨_, _, -, -, rfl⟩⟩ :=
    finalizeAndMap_mapped moved
  · exact owned
  · exact Owned.mapAfter owned there stage

theorem PagesOwned.finalize (owned : world.PagesOwned) {id : Nat}
    (moved : world.finalize id = some next) : next.PagesOwned := by
  obtain ⟨migration, after, there, -, rfl, rfl⟩ := finalize_finished moved
  exact Owned.finalize owned there

theorem PagesOwned.evictPage (owned : world.PagesOwned)
    (idle : ∀ id, world.migrations id = none) {mdevice : Nat}
    {eviction : Nat × Nat × Nat}
    (moved : world.evictPage mdevice eviction = some next) :
    next.PagesOwned ∧ next.migrations = world.migrations := by
  obtain ⟨mm, pfn, frame⟩ := eviction
  obtain ⟨dpfn, writable, rpage, entry, -, unused, rfl⟩ :=
    evictPage_evicted moved
  exact ⟨Owned.replace owned idle entry unused _ writable, rfl⟩

theorem PagesOwned.release (owned : world.PagesOwned)
    (idle : ∀ id, world.migrations id = none) {mdevice : Nat}
    {evictions : List (Nat × Nat × Nat)}
    (moved : world.release mdevice evictions = some next) :
    next.PagesOwned := by
  have kept : next.PagesOwned ∧ ∀ id, next.migrations id = none := by
    refine release_keeps (fun between : World Contents =>
      between.PagesOwned ∧ ∀ id, between.migrations id = none) ?_
      ⟨owned, idle⟩ moved
    intro between after eviction held evicted
    obtain ⟨stays, same⟩ := held.1.evictPage held.2 evicted
    exact ⟨stays, same.symm ▸ held.2⟩
  exact kept.1

theorem PagesOwned.step [Zero Contents] (owned : world.PagesOwned)
    {input : Input Contents} (locked : world.Locked input)
    (moved : world.step input = some next) : next.PagesOwned := by
  cases input with
  | openFile _ _ _ => exact owned.of_same (.openFile moved)
  | closeFile _ => exact owned.of_same (.closeFile moved)
  | doWrite _ _ _ _ => exact owned.of_same (.doWrite moved)
  | readBegin _ _ _ _ _ => exact owned.of_same (.readBegin moved)
  | hmmRangeFault _ => exact owned.of_same (.hmmRangeFault moved)
  | abandonFault _ => exact owned.of_same (.abandonFault moved)
  | doFault _ _ => exact owned.of_same (.doFault moved)
  | populate _ _ _ _ => exact owned.populate moved
  | populateZero _ _ => exact owned.populateZero moved
  | invalidateStart _ _ => exact owned.of_same (.invalidateStart moved)
  | cpuChange _ _ _ => exact owned.cpuChange locked moved
  | invalidateEnd _ => exact owned.of_same (.invalidateEnd moved)
  | setup _ _ _ _ _ _ _ => exact owned.setup locked moved
  | cpuFault _ _ _ _ _ => exact owned.cpuFault locked moved
  | allocAndCopy _ _ => exact owned.allocAndCopy moved
  | faultAllocAndCopy _ _ => exact owned.faultAllocAndCopy moved
  | pages _ _ => exact owned.pages moved
  | finalizeAndMap _ _ => exact owned.finalizeAndMap moved
  | finalize _ => exact owned.finalize moved
  | exclusive _ _ _ _ _ _ => exact owned.of_same (.exclusive moved)
  | release _ _ => exact owned.release locked moved

theorem boot_unheld [Zero Contents] (owner : Owner) (page : Page) :
    ¬Holds (boot : World Contents).mem.inUse
      (boot : World Contents).mem.zoneDeviceData (boot : World Contents).cpu
      (boot : World Contents).migrations owner page := by
  intro held
  cases owner with
  | pte mm pfn =>
      obtain ⟨_, writable, entry⟩ := held
      cases entry
  | src id pfn =>
      obtain ⟨migration, there, _⟩ := held
      cases there
  | dst id pfn =>
      obtain ⟨migration, there, _⟩ := held
      cases there
  | backing dpage => cases held.1

theorem boot_owned [Zero Contents] : (boot : World Contents).PagesOwned := by
  constructor
  · constructor
    · intro owner page held
      exact absurd held (boot_unheld owner page)
    · intro owner other page held
      exact absurd held (boot_unheld owner page)
  · intro page used
    exact absurd used (Finset.notMem_empty _)
  · intro mm pfn page writable entry
    cases entry
  · intro id migration pfn page there
    cases there
  · intro id migration pfn page there
    cases there
  · intro id migration pfn page there
    cases there
  · intro id migration pfn there
    cases there

theorem others_none {migrations : Nat → Option Migration}
    {migration : Option Migration}
    (before : ∀ id, id ≠ 0 → migrations id = none) :
    ∀ id, id ≠ 0 → Function.update migrations 0 migration id = none := by
  intro id other
  rw [Function.update_of_ne other]
  exact before id other

theorem over_none {migrations : Nat → Option Migration}
    (before : ∀ id, id ≠ 0 → migrations id = none) :
    ∀ id, Function.update migrations 0 none id = none := by
  intro id
  by_cases here : id = 0
  · subst here
    exact Function.update_self ..
  · exact others_none before id here

end World

end Rshm.Hmm
