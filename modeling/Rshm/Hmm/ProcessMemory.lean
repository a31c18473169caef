import Rshm.Hmm.DataPages

/-!
# The memory of a process and the pages that hold it

`ProcessMemory` is what the processes and the devices share: contents at
addresses, with no page frames, page tables or migrations.  The machine
presents such a memory when the data of each address is what the memory has
there, during a migration also on the page it is copied to or from.
-/

namespace Rshm.Hmm

open RangeLoop

variable {Contents : Type}

/-- What each process has at its addresses. -/
abbrev ProcessMemory (Contents : Type) := Nat → Nat → Contents

namespace ProcessMemory

variable (memory : ProcessMemory Contents)

def store (mm pfn : Nat) (bytes : Contents) : ProcessMemory Contents :=
  Function.update memory mm (Function.update (memory mm) pfn bytes)

def write (mm first count : Nat) (bytes : Nat → Contents) :
    ProcessMemory Contents :=
  Function.update memory mm fun pfn =>
    if first ≤ pfn ∧ pfn < first + count then bytes pfn else memory mm pfn

@[simp] theorem store_here (mm pfn : Nat) (bytes : Contents) :
    memory.store mm pfn bytes mm pfn = bytes := by
  simp [store]

theorem store_elsewhere {mm pfn mm' pfn' : Nat} (bytes : Contents)
    (other : ¬(mm' = mm ∧ pfn' = pfn)) :
    memory.store mm pfn bytes mm' pfn' = memory mm' pfn' := by
  by_cases process : mm' = mm
  · subst process
    have different : pfn' ≠ pfn := fun same => other ⟨rfl, same⟩
    simp [store, different]
  · simp [store, process]

theorem write_inside {mm first count pfn : Nat} (bytes : Nat → Contents)
    (inside : first ≤ pfn ∧ pfn < first + count) :
    memory.write mm first count bytes mm pfn = bytes pfn := by
  simp [write, inside]

theorem write_outside {mm first count mm' pfn : Nat}
    (bytes : Nat → Contents)
    (outside : ¬(mm' = mm ∧ first ≤ pfn ∧ pfn < first + count)) :
    memory.write mm first count bytes mm' pfn = memory mm' pfn := by
  by_cases process : mm' = mm
  · subst process
    rw [write, Function.update_self,
      if_neg fun inside => outside ⟨rfl, inside⟩]
  · rw [write, Function.update_of_ne process]

end ProcessMemory

namespace World

variable {world next : World Contents}

/-- What a step does to the memory of the processes. -/
def remember [Zero Contents] (world : World Contents)
    (memory : ProcessMemory Contents) :
    Input Contents → ProcessMemory Contents
  | .doWrite m count first bounce =>
      match world.dmirror m with
      | none => memory
      | some dmirror =>
          let after := (dmirrorDoWrite dmirror.pt count first
            (world.mem, bounce)).1
          memory.write dmirror.mm first (after.2.cpages - bounce.cpages)
            fun pfn => bounce.ptr (pfn - bounce.addr)
  | .cpuChange mm pfn .unmap => memory.store mm pfn 0
  | _ => memory

/-- A process writes to a page that it has mapped writable. -/
def cpuStore (world : World Contents) (mm pfn : Nat) (bytes : Contents) :
    Option (World Contents) :=
  match world.cpu mm pfn with
  | .present page true =>
      if page.isZoneDevicePage then none
      else some { world with mem := world.mem.write page bytes }
  | _ => none

theorem cpuStore_stored {mm pfn : Nat} {bytes : Contents}
    (moved : world.cpuStore mm pfn bytes = some next) :
    ∃ page, world.cpu mm pfn = .present page true ∧
      page.isZoneDevicePage = false ∧
      next = { world with mem := world.mem.write page bytes } := by
  unfold World.cpuStore at moved
  split at moved
  · next page entry =>
    obtain ⟨plain, equal⟩ := Option.ite_none_left_eq_some.mp moved
    cases equal
    exact ⟨page, entry, by simpa using plain, rfl⟩
  · cases moved

theorem cpuChange_done {mm pfn : Nat} {change : CpuChange}
    (moved : world.cpuChange mm pfn change = some next) :
    (∃ page writable, change = .unmap ∧
        world.cpu mm pfn = .present page writable ∧
        next = { world with mem := world.mem.putPage page }.setCpu mm pfn
          .none) ∨
      (∃ page writable, change = .unmap ∧
        world.cpu mm pfn = .migration page writable ∧
        next = world.setCpu mm pfn .none) ∨
      (∃ page writable writable', change = .protect writable' ∧
        world.cpu mm pfn = .present page writable ∧
        next = world.setCpu mm pfn
          (.present page (writable' && page != .zero))) ∨
      ∃ page writable rpage frame writable', change = .copy frame writable' ∧
        world.cpu mm pfn = .present page writable ∧
        world.mem.backingPage page = some rpage ∧
        Page.normal frame ∉ world.mem.inUse ∧
        next = world.replacePage mm pfn page rpage frame writable' := by
  obtain ⟨-, equal⟩ := Option.ite_none_right_eq_some.mp moved
  split at equal
  · next page writable entry =>
    cases equal
    exact .inl ⟨page, writable, rfl, entry, rfl⟩
  · next page writable entry =>
    cases equal
    exact .inr (.inl ⟨page, writable, rfl, entry, rfl⟩)
  · next page writable writable' entry =>
    cases equal
    exact .inr (.inr (.inl ⟨page, writable, writable', rfl, entry, rfl⟩))
  · next page writable frame writable' entry =>
    split at equal
    · next rpage target mem backing allocated =>
      obtain ⟨found, rfl, unused, grown, same⟩ :=
        Memory.allocPage_some (congrArg Prod.fst allocated)
      cases same
      obtain ⟨-, rfl⟩ := Prod.mk.inj (allocated.symm.trans grown)
      cases equal
      exact .inr (.inr (.inr ⟨page, writable, rpage, frame, writable', rfl,
        entry, backing, unused, rfl⟩))
    · cases equal
  · cases equal

/-- The pages that a migration has copied from and to. -/
structure Carries [Zero Contents] (world : World Contents)
    (memory : ProcessMemory Contents) (migration : Migration) : Prop where
  left : migration.flags = .selectSystem → migration.stage = .migrated →
    ∀ pfn, migration.landed pfn = true →
      world.mem.contents ((migration.slots pfn).src.page.getD .zero) =
        memory migration.mm pfn
  copied : migration.stage = .copied → ∀ pfn target page,
    (migration.slots pfn).dst.page = some target →
    world.mem.backingPage target = some page →
    world.mem.contents page =
      if (migration.slots pfn).src.page.isSome then memory migration.mm pfn
      else 0

/-- The pages have the memory of the processes. -/
structure Presents [Zero Contents] (world : World Contents)
    (memory : ProcessMemory Contents) : Prop where
  data : ∀ mm pfn page, world.Data mm pfn page →
    world.mem.contents page = memory mm pfn
  carries : ∀ id migration, world.migrations id = some migration →
    world.Carries memory migration
  empty : ∀ mm pfn, world.cpu mm pfn = .none → memory mm pfn = 0
  zero : world.mem.contents .zero = 0

variable [Zero Contents] {memory : ProcessMemory Contents}

/-- Before the copies and after the map update, a migration holds no data but
that of its addresses. -/
theorem Carries.of_stage {migration : Migration}
    (stage : migration.stage = .setup ∨ migration.stage = .mapped) :
    world.Carries memory migration := by
  constructor
  · intro _ migrated
    simp [migrated] at stage
  · intro copied
    simp [copied] at stage

theorem Carries.of_kept {id : Nat} {migration : Migration}
    (carries : world.Carries memory migration) (owned : world.PagesOwned)
    (there : world.migrations id = some migration)
    (kept : ∀ page, page = .zero ∨ page ∈ world.mem.inUse →
      next.mem.contents page = world.mem.contents page)
    (links : ∀ held, held ∈ world.mem.inUse ∨ held = .zero →
      next.mem.backingPage held = world.mem.backingPage held) :
    next.Carries memory migration := by
  constructor
  · intro forward stage pfn landed
    rw [kept, carries.left forward stage pfn landed]
    cases source : (migration.slots pfn).src.page with
    | none => exact .inl rfl
    | some page =>
        exact .inr (owned.exclusive.alive (.src id pfn) page
          ⟨migration, there, source⟩)
  · intro stage pfn target page aimed backing
    have used : target ∈ world.mem.inUse := by
      apply owned.exclusive.alive (.dst id pfn) target
      exact ⟨migration, there, aimed, by simp [Migration.inserted, stage]⟩
    rw [links target (.inl used)] at backing
    rw [kept page (.inr (owned.backing_used used backing))]
    exact carries.copied stage pfn target page aimed backing

/-- A step that writes to no page in use and changes no memory. -/
theorem Presents.advance (presents : world.Presents memory)
    (owned : world.PagesOwned)
    (data : ∀ mm pfn page, next.Data mm pfn page →
      world.Data mm pfn page ∨ next.mem.contents page = memory mm pfn)
    (kept : ∀ page, page = .zero ∨ page ∈ world.mem.inUse →
      next.mem.contents page = world.mem.contents page)
    (links : ∀ held, held ∈ world.mem.inUse ∨ held = .zero →
      next.mem.backingPage held = world.mem.backingPage held)
    (moves : ∀ id migration, next.migrations id = some migration →
      world.migrations id = some migration ∨ next.Carries memory migration)
    (empty : ∀ mm pfn, next.cpu mm pfn = .none →
      world.cpu mm pfn = .none) : next.Presents memory := by
  constructor
  · intro mm pfn page found
    rcases data mm pfn page found with before | same
    · rw [kept page (before.used owned)]
      exact presents.data mm pfn page before
    · exact same
  · intro id migration there
    rcases moves id migration there with old | carries
    · exact (presents.carries id migration old).of_kept owned old kept links
    · exact carries
  · intro mm pfn unmapped
    exact presents.empty mm pfn (empty mm pfn unmapped)
  · rw [kept .zero (.inl rfl)]
    exact presents.zero

theorem Presents.of_same (presents : world.Presents memory)
    (tracked : world.MovesTracked) (pages : world.SamePages next)
    (contents : next.mem.contents = world.mem.contents) :
    next.Presents memory := by
  have links (held : Page) :
      next.mem.backingPage held = world.mem.backingPage held := by
    simp only [Memory.backingPage, pages.links]
  refine presents.advance tracked.owned ?_ ?_ (fun held _ => links held) ?_
    ?_
  · intro mm pfn page data
    refine .inl (data.before tracked (by rw [pages.cpu])
      (fun held _ => links held) ?_)
    intro id migration _ _
    rw [pages.migrations]
  · intro page _
    rw [contents]
  · intro id migration there
    exact .inl (pages.migrations ▸ there)
  · intro mm pfn unmapped
    rwa [pages.cpu] at unmapped

theorem Presents.of_idle (idle : ∀ id, world.migrations id = none)
    (mapped : ∀ mm pfn held page, (world.cpu mm pfn).page = some held →
      world.mem.backingPage held = some page →
      world.mem.contents page = memory mm pfn)
    (empty : ∀ mm pfn, world.cpu mm pfn = .none → memory mm pfn = 0)
    (zero : world.mem.contents .zero = 0) : world.Presents memory := by
  refine ⟨?_, ?_, empty, zero⟩
  · intro mm pfn page data
    cases data with
    | settled held still found backing =>
        exact mapped mm pfn held page found backing
    | landed id migration target there =>
        rw [idle id] at there
        cases there
  · intro id migration there
    rw [idle id] at there
    cases there

theorem Presents.settled (presents : world.Presents memory)
    (idle : ∀ id, world.migrations id = none) {mm pfn : Nat}
    {held page : Page} (mapped : (world.cpu mm pfn).page = some held)
    (backing : world.mem.backingPage held = some page) :
    world.mem.contents page = memory mm pfn := by
  refine presents.data mm pfn page (.settled held ?_ mapped backing)
  intro id migration there
  rw [idle id] at there
  cases there

theorem Presents.replacePage (presents : world.Presents memory)
    (owned : world.PagesOwned) (idle : ∀ id, world.migrations id = none)
    {mm pfn frame : Nat} {page rpage : Page} {writable : Bool}
    (entry : world.cpu mm pfn = .present page writable)
    (backing : world.mem.backingPage page = some rpage)
    (unused : Page.normal frame ∉ world.mem.inUse) (writable' : Bool) :
    (world.replacePage mm pfn page rpage frame writable').Presents
      memory := by
  have elsewhere {page : Page}
      (used : page ∈ world.mem.inUse ∨ page = .zero) :
      page ≠ .normal frame := by
    rintro rfl
    rcases used with used | same
    · exact unused used
    · cases same
  refine .of_idle idle ?_ ?_ ?_
  · intro mm' pfn' held found mapped behind
    have behind : world.mem.backingPage held = some found := by
      simpa [World.replacePage, Memory.backingPage, setCpu] using behind
    simp only [World.replacePage, setCpu, putPage_contents]
    by_cases here : mm' = mm ∧ pfn' = pfn
    · obtain ⟨rfl, rfl⟩ := here
      simp only [World.replacePage, setCpu, Function.update_self,
        Pte.page_present, Option.some.injEq] at mapped
      subst mapped
      cases behind
      rw [Function.update_self]
      exact presents.settled idle (by rw [entry]; rfl) backing
    · have mapped : (world.cpu mm' pfn').page = some held := by
        rw [← mapped]
        exact congrArg Pte.page (setCpu_page mm pfn _ _ _ here).symm
      rw [Function.update_of_ne (elsewhere ?_)]
      · exact presents.settled idle mapped behind
      · rcases owned.mapped mapped with used | rfl
        · exact .inl (owned.backing_used used behind)
        · cases behind
          exact .inr rfl
  · intro mm' pfn' unmapped
    by_cases here : mm' = mm ∧ pfn' = pfn
    · obtain ⟨rfl, rfl⟩ := here
      simp [World.replacePage, setCpu] at unmapped
    · apply presents.empty
      exact (setCpu_page mm pfn _ _ _ here).symm.trans unmapped
  · simp only [World.replacePage, setCpu, putPage_contents]
    rw [Function.update_of_ne (elsewhere (.inr rfl))]
    exact presents.zero

theorem Presents.release (presents : world.Presents memory)
    (tracked : world.MovesTracked) (idle : ∀ id, world.migrations id = none)
    {mdevice : Nat} {evictions : List (Nat × Nat × Nat)}
    (moved : world.release mdevice evictions = some next) :
    next.Presents memory := by
  have kept := release_keeps (fun between : World Contents =>
    between.Presents memory ∧ between.PagesOwned ∧
      ∀ id, between.migrations id = none) ?_
    ⟨presents, tracked.owned, idle⟩ moved
  · exact kept.1
  · rintro between after ⟨mm, pfn, frame⟩ ⟨presents, owned, idle⟩ evicted
    obtain ⟨stays, same⟩ := owned.evictPage idle evicted
    obtain ⟨dpfn, writable, rpage, entry, backing, unused, rfl⟩ :=
      evictPage_evicted evicted
    refine ⟨?_, stays, same.symm ▸ idle⟩
    have notified : (between.notify .clear none mm pfn (pfn + 1)).Presents
        memory :=
      presents.of_same (.of_idle owned idle) ⟨rfl, rfl, rfl, rfl⟩ rfl
    exact notified.replacePage owned idle entry backing unused writable

theorem Presents.unmap (presents : world.Presents memory)
    (idle : ∀ id, world.migrations id = none) {mm pfn : Nat}
    {mem : Memory Contents}
    (contents : mem.contents = world.mem.contents)
    (links : mem.zoneDeviceData = world.mem.zoneDeviceData) :
    ({ world with mem := mem }.setCpu mm pfn .none).Presents
      (memory.store mm pfn 0) := by
  refine .of_idle idle ?_ ?_ ?_
  · intro mm' pfn' held page mapped backing
    by_cases here : mm' = mm ∧ pfn' = pfn
    · obtain ⟨rfl, rfl⟩ := here
      simp [setCpu] at mapped
    · rw [memory.store_elsewhere 0 here]
      have entry : ({ world with mem := mem }.setCpu mm pfn .none).cpu mm'
          pfn' = world.cpu mm' pfn' :=
        setCpu_page mm pfn .none mm' pfn' here
      rw [entry] at mapped
      have backing : world.mem.backingPage held = some page := by
        simpa only [setCpu, Memory.backingPage, links] using backing
      exact (congrFun contents page).trans
        (presents.settled idle mapped backing)
  · intro mm' pfn' unmapped
    by_cases here : mm' = mm ∧ pfn' = pfn
    · obtain ⟨rfl, rfl⟩ := here
      exact memory.store_here mm' pfn' 0
    · rw [memory.store_elsewhere 0 here]
      apply presents.empty
      have entry : ({ world with mem := mem }.setCpu mm pfn .none).cpu mm'
          pfn' = world.cpu mm' pfn' :=
        setCpu_page mm pfn .none mm' pfn' here
      exact entry.symm.trans unmapped
  · exact (congrFun contents .zero).trans presents.zero

theorem Presents.cpuChange (presents : world.Presents memory)
    (owned : world.PagesOwned) (idle : ∀ id, world.migrations id = none)
    {mm pfn : Nat} {change : CpuChange}
    (moved : world.cpuChange mm pfn change = some next) :
    next.Presents (world.remember memory (.cpuChange mm pfn change)) := by
  rcases cpuChange_done moved with ⟨page, _, rfl, -, rfl⟩ |
    ⟨_, _, rfl, -, rfl⟩ | ⟨page, writable, writable', rfl, entry, rfl⟩ |
    ⟨page, writable, rpage, frame, writable', rfl, entry, backing, unused,
      rfl⟩
  · exact presents.unmap idle (putPage_contents _ page)
      (putPage_zoneDeviceData _ page)
  · exact presents.unmap idle rfl rfl
  · change (world.setCpu mm pfn _).Presents memory
    refine .of_idle idle ?_ ?_ presents.zero
    · intro mm' pfn' held found mapped behind
      refine presents.settled idle ?_ behind
      by_cases here : mm' = mm ∧ pfn' = pfn
      · obtain ⟨rfl, rfl⟩ := here
        simp only [setCpu, Function.update_self] at mapped
        rw [entry, ← mapped]
        rfl
      · rw [← mapped]
        exact congrArg Pte.page (setCpu_page mm pfn _ _ _ here).symm
    · intro mm' pfn' unmapped
      by_cases here : mm' = mm ∧ pfn' = pfn
      · obtain ⟨rfl, rfl⟩ := here
        simp [setCpu] at unmapped
      · apply presents.empty
        exact (setCpu_page mm pfn _ _ _ here).symm.trans unmapped
  · exact presents.replacePage owned idle entry backing unused writable'

end World

end Rshm.Hmm
