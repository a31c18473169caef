import Rshm.Hmm.World
import Rshm.Lib.Exclusive

/-!
# Who holds a page

A page in use is mapped by one page table entry, or locked and unmapped by a
migration, or the target of one, or the backing page of a device page in use.
The invariant is stated about the four parts of the machine it depends on.
It rests on the mmap lock: a process changes what it maps, and RELEASE evicts
pages, only while no migration is in progress.
-/

namespace Rshm.Hmm

open RangeLoop

variable {Contents : Type}

inductive Owner where
  | pte (mm pfn : Nat)
  | src (id pfn : Nat)
  | dst (id pfn : Nat)
  | backing (dpage : Page)
  deriving DecidableEq

/-- `migrate_vma_pages` has put the target of an empty address into the page
table. -/
def Migration.inserted (migration : Migration) (pfn : Nat) : Bool :=
  (migration.stage == .migrated || migration.stage == .mapped) &&
    (migration.slots pfn).src.page.isNone && (migration.slots pfn).src.migrate

/-- The target of one address is recorded. -/
def Migration.aim (migration : Migration) (pfn : Nat) (dst : MigratePfn) :
    Migration :=
  { migration with
    slots := Function.update migration.slots pfn
      { migration.slots pfn with dst := dst } }

def Migration.clear (migration : Migration) (pfn : Nat) : Migration :=
  { migration with slots := Function.update migration.slots pfn .empty }

def Holds (inUse : Finset Page) (zoneDeviceData : Page → ZoneDeviceData)
    (cpu : Nat → Nat → Pte) (migrations : Nat → Option Migration) :
    Owner → Page → Prop
  | .pte mm pfn, page =>
      page ≠ .zero ∧ ∃ writable, cpu mm pfn = .present page writable
  | .src id pfn, page => ∃ migration, migrations id = some migration ∧
      (migration.slots pfn).src.page = some page
  | .dst id pfn, page => ∃ migration, migrations id = some migration ∧
      (migration.slots pfn).dst.page = some page ∧
      migration.inserted pfn = false
  | .backing dpage, page => dpage ∈ inUse ∧
      dpage.isDevicePrivatePage = true ∧ zoneDeviceData dpage = .page page

/-- Each page in use has at most one holder, a device page has its backing
page, and the page tables agree with the migrations in progress. -/
structure Owned (inUse : Finset Page)
    (zoneDeviceData : Page → ZoneDeviceData) (cpu : Nat → Nat → Pte)
    (migrations : Nat → Option Migration) : Prop where
  exclusive : Exclusive (Holds inUse zoneDeviceData cpu migrations)
    (fun page => page ∈ inUse)
  backed : ∀ page, page ∈ inUse → page.isDevicePrivatePage = true →
    ∃ pfn, zoneDeviceData page = .page (.normal pfn)
  migrating : ∀ mm pfn page writable,
    cpu mm pfn = .migration page writable →
    ∃ id migration, migrations id = some migration ∧ migration.mm = mm ∧
      (migration.slots pfn).src.page = some page
  unmapped : ∀ id migration pfn page, migrations id = some migration →
    (migration.slots pfn).src.page = some page →
    ∃ writable, cpu migration.mm pfn = .migration page writable
  inserted : ∀ id migration pfn page, migrations id = some migration →
    migration.inserted pfn = true →
    (migration.slots pfn).dst.page = some page →
    ∃ writable, cpu migration.mm pfn = .present page writable
  hole : ∀ id migration pfn page, migrations id = some migration →
    (migration.slots pfn).src.page = none →
    (migration.slots pfn).dst.page = some page →
    page.isDevicePrivatePage = true
  window : ∀ id migration pfn, migrations id = some migration →
    ¬(migration.first ≤ pfn ∧ pfn < migration.first + migration.npages) →
    migration.slots pfn = .empty

/-- The page table entry of one address. -/
def setPte (cpu : Nat → Nat → Pte) (mm pfn : Nat) (pte : Pte) :
    Nat → Nat → Pte :=
  Function.update cpu mm (Function.update (cpu mm) pfn pte)

theorem setPte_here (cpu : Nat → Nat → Pte) (mm pfn : Nat) (pte : Pte) :
    setPte cpu mm pfn pte mm pfn = pte := by
  simp [setPte]

theorem setPte_elsewhere (cpu : Nat → Nat → Pte) {mm pfn mm' pfn' : Nat}
    (pte : Pte) (other : ¬(mm' = mm ∧ pfn' = pfn)) :
    setPte cpu mm pfn pte mm' pfn' = cpu mm' pfn' := by
  by_cases process : mm' = mm
  · subst process
    have different : pfn' ≠ pfn := fun same => other ⟨rfl, same⟩
    simp [setPte, different]
  · simp [setPte, process]

namespace Owned

variable {inUse : Finset Page} {zoneDeviceData : Page → ZoneDeviceData}
  {cpu : Nat → Nat → Pte} {migrations : Nat → Option Migration}

theorem mapped (owned : Owned inUse zoneDeviceData cpu migrations)
    {mm pfn : Nat} {page : Page} (found : (cpu mm pfn).page = some page) :
    page ∈ inUse ∨ page = .zero := by
  cases entry : cpu mm pfn with
  | none =>
      rw [entry] at found
      cases found
  | present present writable =>
      rw [entry] at found
      cases found
      by_cases zero : page = .zero
      · exact .inr zero
      · exact .inl (owned.exclusive.alive (.pte mm pfn) page
          ⟨zero, writable, entry⟩)
  | migration held writable =>
      rw [entry] at found
      cases found
      obtain ⟨id, migration, there, -, source⟩ :=
        owned.migrating mm pfn page writable entry
      exact .inl (owned.exclusive.alive (.src id pfn) page
        ⟨migration, there, source⟩)

private theorem shrink (owned : Owned inUse zoneDeviceData cpu migrations)
    {inUse' : Finset Page} (fewer : inUse' ⊆ inUse)
    (kept : ∀ owner item, Holds inUse zoneDeviceData cpu migrations owner
      item → (∀ dpage, owner = .backing dpage → dpage ∈ inUse') →
      item ∈ inUse') :
    Owned inUse' zoneDeviceData cpu migrations := by
  have before : ∀ owner item,
      Holds inUse' zoneDeviceData cpu migrations owner item →
      Holds inUse zoneDeviceData cpu migrations owner item ∧
        ∀ dpage, owner = .backing dpage → dpage ∈ inUse' := by
    intro owner item held
    cases owner with
    | backing dpage =>
        refine ⟨⟨fewer held.1, held.2⟩, ?_⟩
        rintro other ⟨⟩
        exact held.1
    | _ => exact ⟨held, nofun⟩
  refine ⟨?_, ?_, owned.migrating, owned.unmapped, owned.inserted,
    owned.hole, owned.window⟩
  · apply (owned.exclusive.drop fun owner item held =>
      (before owner item held).1).free
    intro owner item held
    obtain ⟨old, backing⟩ := before owner item held
    exact kept owner item old backing
  · intro other used
    exact owned.backed other (fewer used)

theorem put {mem : Memory Contents} {page : Page}
    (owned : Owned mem.inUse mem.zoneDeviceData cpu migrations)
    (unheld : ∀ owner,
      ¬Holds mem.inUse mem.zoneDeviceData cpu migrations owner page)
    (live : page ∈ mem.inUse) :
    Owned (mem.putPage page).inUse (mem.putPage page).zoneDeviceData cpu
      migrations := by
  have alive {owner : Owner} {item : Page}
      (held : Holds mem.inUse mem.zoneDeviceData cpu migrations owner item) :
      item ≠ page ∧ item ∈ mem.inUse := by
    refine ⟨?_, owned.exclusive.alive owner item held⟩
    rintro rfl
    exact unheld owner held
  cases page with
  | normal pfn =>
      apply owned.shrink (Finset.erase_subset (Page.normal pfn) mem.inUse)
      intro owner item held _
      exact Finset.mem_erase.mpr (alive held)
  | devicePrivate mdevice pfn =>
      obtain ⟨frame, link⟩ := owned.backed _ live rfl
      have backing : mem.backingPage (.devicePrivate mdevice pfn) =
          some (.normal frame) := by
        simp [Memory.backingPage, Page.isDevicePrivatePage, link]
      simp only [Memory.putPage, Memory.dmirrorDevmemFree, backing]
      apply owned.shrink ((Finset.erase_subset _ _).trans
        (Finset.erase_subset _ _))
      intro owner item held stays
      refine Finset.mem_erase.mpr ⟨?_, Finset.mem_erase.mpr (alive held)⟩
      -- Only the freed device page held the backing page.
      rintro rfl
      have holder := owned.exclusive.once owner
        (.backing (.devicePrivate mdevice pfn)) (.normal frame) held
        ⟨live, rfl, link⟩
      have gone := stays _ holder
      simp at gone
  | _ => exact owned

theorem unmap (owned : Owned inUse zoneDeviceData cpu migrations)
    {mm pfn : Nat} {page : Page} {writable : Bool}
    (entry : cpu mm pfn = .present page writable)
    (idle : ∀ id, migrations id = none) :
    Owned inUse zoneDeviceData (setPte cpu mm pfn .none) migrations ∧
      ∀ owner, page ≠ .zero → ¬Holds inUse zoneDeviceData
        (setPte cpu mm pfn .none) migrations owner page := by
  have fewer : ∀ owner item,
      Holds inUse zoneDeviceData (setPte cpu mm pfn .none) migrations owner
        item →
      owner ≠ .pte mm pfn ∧
        Holds inUse zoneDeviceData cpu migrations owner item := by
    intro owner item held
    cases owner with
    | pte mm' pfn' =>
        obtain ⟨nonzero, writable', entry'⟩ := held
        by_cases here : mm' = mm ∧ pfn' = pfn
        · obtain ⟨rfl, rfl⟩ := here
          rw [setPte_here] at entry'
          cases entry'
        · rw [setPte_elsewhere _ _ here] at entry'
          refine ⟨?_, nonzero, writable', entry'⟩
          rintro ⟨⟩
          exact here ⟨rfl, rfl⟩
    | _ => exact ⟨nofun, held⟩
  refine ⟨⟨?_, owned.backed, ?_, ?_, ?_, ?_, ?_⟩, ?_⟩
  · exact owned.exclusive.drop fun owner item held =>
      (fewer owner item held).2
  · intro mm' pfn' held writable' entry'
    by_cases here : mm' = mm ∧ pfn' = pfn
    · obtain ⟨rfl, rfl⟩ := here
      rw [setPte_here] at entry'
      cases entry'
    · rw [setPte_elsewhere _ _ here] at entry'
      exact owned.migrating mm' pfn' held writable' entry'
  · intro id migration pfn' page' there
    rw [idle id] at there
    cases there
  · intro id migration pfn' page' there
    rw [idle id] at there
    cases there
  · exact owned.hole
  · exact owned.window
  · intro owner nonzero held
    obtain ⟨different, before⟩ := fewer owner page held
    exact different (owned.exclusive.once owner (.pte mm pfn) page before
      ⟨nonzero, writable, entry⟩)

private theorem fill (owned : Owned inUse zoneDeviceData cpu migrations)
    {mm pfn : Nat} (entry : cpu mm pfn = .none) {inUse' : Finset Page}
    {page : Page} {writable : Bool}
    (exclusive : Exclusive (Holds inUse' zoneDeviceData
      (setPte cpu mm pfn (.present page writable)) migrations)
      (fun page => page ∈ inUse'))
    (backed : ∀ page, page ∈ inUse' → page.isDevicePrivatePage = true →
      page ∈ inUse) :
    Owned inUse' zoneDeviceData (setPte cpu mm pfn (.present page writable))
      migrations where
  exclusive := exclusive
  backed := by
    intro page used kind
    exact owned.backed page (backed page used kind) kind
  migrating := by
    intro mm' pfn' held writable' entry'
    by_cases here : mm' = mm ∧ pfn' = pfn
    · obtain ⟨rfl, rfl⟩ := here
      rw [setPte_here] at entry'
      cases entry'
    · rw [setPte_elsewhere _ _ here] at entry'
      exact owned.migrating mm' pfn' held writable' entry'
  unmapped := by
    intro id migration pfn' page' there source
    obtain ⟨writable', entry'⟩ := owned.unmapped id migration pfn' page'
      there source
    have elsewhere : ¬(migration.mm = mm ∧ pfn' = pfn) := by
      rintro ⟨rfl, rfl⟩
      rw [entry] at entry'
      cases entry'
    exact ⟨writable', by rw [setPte_elsewhere _ _ elsewhere, entry']⟩
  inserted := by
    intro id migration pfn' page' there inserted target
    obtain ⟨writable', entry'⟩ := owned.inserted id migration pfn' page'
      there inserted target
    have elsewhere : ¬(migration.mm = mm ∧ pfn' = pfn) := by
      rintro ⟨rfl, rfl⟩
      rw [entry] at entry'
      cases entry'
    exact ⟨writable', by rw [setPte_elsewhere _ _ elsewhere, entry']⟩
  hole := owned.hole
  window := owned.window

theorem populate (owned : Owned inUse zoneDeviceData cpu migrations)
    {mm pfn : Nat} (entry : cpu mm pfn = .none) {frame : Nat}
    (fresh : Page.normal frame ∉ inUse) (writable : Bool) :
    Owned (insert (.normal frame) inUse) zoneDeviceData
      (setPte cpu mm pfn (.present (.normal frame) writable))
      migrations := by
  apply owned.fill entry
  · apply owned.exclusive.acquire (.pte mm pfn) (.normal frame) fresh
    · intro item
      rw [Finset.mem_insert]
      exact Or.symm
    · intro owner item held
      cases owner with
      | pte mm' pfn' =>
          obtain ⟨nonzero, writable', entry'⟩ := held
          by_cases here : mm' = mm ∧ pfn' = pfn
          · obtain ⟨rfl, rfl⟩ := here
            rw [setPte_here] at entry'
            cases entry'
            exact .inr ⟨rfl, rfl⟩
          · rw [setPte_elsewhere _ _ here] at entry'
            exact .inl ⟨nonzero, writable', entry'⟩
      | backing dpage =>
          obtain ⟨used, kind, link⟩ := held
          rcases Finset.mem_insert.mp used with rfl | old
          · cases kind
          · exact .inl ⟨old, kind, link⟩
      | _ => exact .inl held
  · intro page used kind
    rcases Finset.mem_insert.mp used with rfl | old
    · cases kind
    · exact old

theorem populateZero (owned : Owned inUse zoneDeviceData cpu migrations)
    {mm pfn : Nat} (entry : cpu mm pfn = .none) (writable : Bool) :
    Owned inUse zoneDeviceData
      (setPte cpu mm pfn (.present .zero writable)) migrations := by
  apply owned.fill entry
  · apply owned.exclusive.drop
    intro owner item held
    cases owner with
    | pte mm' pfn' =>
        obtain ⟨nonzero, writable', entry'⟩ := held
        by_cases here : mm' = mm ∧ pfn' = pfn
        · obtain ⟨rfl, rfl⟩ := here
          rw [setPte_here] at entry'
          cases entry'
          exact absurd rfl nonzero
        · rw [setPte_elsewhere _ _ here] at entry'
          exact ⟨nonzero, writable', entry'⟩
    | _ => exact held
  · intro page used _
    exact used

/-- `mprotect`. -/
theorem protect (owned : Owned inUse zoneDeviceData cpu migrations)
    {mm pfn : Nat} {page : Page} {writable : Bool}
    (entry : cpu mm pfn = .present page writable) (writable' : Bool) :
    Owned inUse zoneDeviceData
      (setPte cpu mm pfn (.present page writable')) migrations := by
  have present (mm' pfn' : Nat) (held : Page) :
      (∃ w, setPte cpu mm pfn (.present page writable') mm' pfn' =
        .present held w) ↔ ∃ w, cpu mm' pfn' = .present held w := by
    by_cases here : mm' = mm ∧ pfn' = pfn
    · obtain ⟨rfl, rfl⟩ := here
      rw [setPte_here, entry]
      simp
    · rw [setPte_elsewhere _ _ here]
  have migration (mm' pfn' : Nat) (held : Page) (w : Bool) :
      setPte cpu mm pfn (.present page writable') mm' pfn' =
        .migration held w ↔ cpu mm' pfn' = .migration held w := by
    by_cases here : mm' = mm ∧ pfn' = pfn
    · obtain ⟨rfl, rfl⟩ := here
      rw [setPte_here, entry]
      simp
    · rw [setPte_elsewhere _ _ here]
  refine ⟨?_, owned.backed, ?_, ?_, ?_, owned.hole, owned.window⟩
  · apply owned.exclusive.drop
    intro owner item held
    cases owner with
    | pte mm' pfn' => exact ⟨held.1, (present mm' pfn' item).mp held.2⟩
    | _ => exact held
  · intro mm' pfn' held w entry'
    exact owned.migrating mm' pfn' held w
      ((migration mm' pfn' held w).mp entry')
  · intro id task pfn' held there source
    obtain ⟨w, entry'⟩ := owned.unmapped id task pfn' held there source
    exact ⟨w, (migration task.mm pfn' held w).mpr entry'⟩
  · intro id task pfn' held there inserted target
    exact (present task.mm pfn' held).mpr
      (owned.inserted id task pfn' held there inserted target)

end Owned

end Rshm.Hmm
