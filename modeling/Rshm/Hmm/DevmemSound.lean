import Rshm.Hmm.Devmem

/-!
# What the device page allocator keeps

The invariants of a device, in three groups: the chunks and the calls that
build them, the pages in use and the calls that hold them, and the free list.
Each group is stated about the fields it depends on, so that a section that
leaves these alone keeps it without an argument.  A RELEASE is admitted only
where it does not meet a call half way.
-/

namespace Rshm.Hmm.Devmem

open IntrusiveList

namespace Stage

/-- The chunk that a call is building. -/
def devmem : Stage → Option Nat
  | requestRegion _ devmem => some devmem
  | register _ devmem _ => some devmem
  | pushPages _ devmem _ => some devmem
  | releaseRegion _ devmem _ => some devmem
  | freeChunk _ devmem => some devmem
  | _ => none

/-- The region of that chunk, once the call has it. -/
def range : Stage → Option Nat
  | register _ _ start => some start
  | pushPages _ _ start => some start
  | releaseRegion _ _ start => some start
  | _ => none

/-- Between the registration of a chunk and the push of its pages. -/
def pushing : Stage → Bool
  | pushPages _ _ _ => true
  | _ => false

/-- The page a call has popped and not initialised. -/
def popped : Stage → Option Page
  | initPage _ dpage => some dpage
  | _ => none

/-- The page a call is freeing. -/
def freeing : Stage → Option Page
  | pushFree page => some page
  | _ => none

end Stage

namespace Device

def stage (device : Device) (id : Nat) : Option Stage :=
  (device.calls id).map Call.stage

theorem stage_of_call {device : Device} {id : Nat} {call : Call}
    (here : device.calls id = some call) :
    device.stage id = some call.stage := by
  simp [stage, here]

@[simp] theorem setCall_stage (device : Device) (id : Nat) (call : Call) :
    (device.setCall id call).stage =
      Function.update device.stage id (some call.stage) := by
  funext other
  by_cases same : other = id
  · subst same
    simp [stage, setCall]
  · simp [stage, setCall, same]

theorem clearCall_stage (device : Device) (id : Nat) :
    { device with calls := Function.update device.calls id none }.stage =
      Function.update device.stage id none := by
  funext other
  by_cases same : other = id
  · subst same
    simp [stage]
  · simp [stage, same]

/-- A chunk in `devmem_chunks[0..devmem_count)`. -/
def Listed (device : Device) (devmem : Nat) : Prop :=
  ∃ index, index < device.devmemCount ∧
    device.devmemChunks index = some devmem

end Device

/-- The chunks, their regions, and the calls that build them. -/
structure ChunkTable (config : Config) (chunk : Nat → Option DmirrorChunk)
    (made : Nat) (regions : Finset Nat) (listed : Nat → Prop)
    (stage : Nat → Option Stage) : Prop where
  unmade : ∀ devmem, made ≤ devmem → chunk devmem = none ∧ ¬listed devmem
  busy : ∀ devmem found start, chunk devmem = some found →
    found.range = some start → start ∈ regions
  apart : ∀ devmem other found found' start start', devmem ≠ other →
    chunk devmem = some found → chunk other = some found' →
    found.range = some start → found'.range = some start' →
    Device.Apart config start start'
  built : ∀ id at_ devmem, stage id = some at_ → at_.devmem = some devmem →
    chunk devmem = some ⟨at_.range, false⟩
  builtOnce : ∀ id other at_ at' devmem, stage id = some at_ →
    stage other = some at' → at_.devmem = some devmem →
    at'.devmem = some devmem → id = other
  listedIff : ∀ id at_ devmem, stage id = some at_ →
    at_.devmem = some devmem → (listed devmem ↔ at_.pushing = true)

/-- The pages in use and the calls that hold some of them. -/
structure PageUse (inUse pinned referenced : Finset Page)
    (stage : Nat → Option Stage) : Prop where
  pinnedUsed : pinned ⊆ inUse
  referencedPinned : referenced ⊆ pinned
  popped : ∀ id at_ page, stage id = some at_ → at_.popped = some page →
    page ∈ inUse ∧ page ∉ pinned
  poppedOnce : ∀ id other at_ at' page, stage id = some at_ →
    stage other = some at' → at_.popped = some page →
    at'.popped = some page → id = other
  unpinned : ∀ page, page ∈ inUse → page ∉ pinned →
    ∃ id at_, stage id = some at_ ∧ at_.popped = some page
  freeing : ∀ id at_ page, stage id = some at_ → at_.freeing = some page →
    page ∈ pinned ∧ page ∉ referenced
  freeingOnce : ∀ id other at_ at' page, stage id = some at_ →
    stage other = some at' → at_.freeing = some page →
    at'.freeing = some page → id = other

/-- A page of a registered chunk that has not been freed. -/
def Settled (config : Config) (pgmap : Page → Option Nat)
    (chunk : Nat → Option DmirrorChunk) (listed : Nat → Prop)
    (page : Page) : Prop :=
  ∃ devmem found start, pgmap page = some devmem ∧
    chunk devmem = some found ∧ found.range = some start ∧
    Device.InRegion config start page ∧ listed devmem

/-- The free list and where its pages, and those in use, come from. -/
structure FreeList (config : Config) (free : List Page)
    (next : Page → Option Page) (head : Option Page)
    (pgmap : Page → Option Nat) (inUse : Finset Page)
    (chunk : Nat → Option DmirrorChunk) (listed : Nat → Prop)
    (stage : Nat → Option Stage) : Prop where
  chain : Chain next head free
  unused : ∀ page ∈ free, page ∉ inUse
  settled : ∀ page, page ∈ free ∨ page ∈ inUse →
    Settled config pgmap chunk listed page
  unmarked : ∀ page ∈ free, ∀ devmem found, pgmap page = some devmem →
    chunk devmem = some found → found.remove = false
  unpushed : ∀ id at_ devmem, stage id = some at_ → at_.pushing = true →
    at_.devmem = some devmem →
    ∀ page, page ∈ free ∨ page ∈ inUse → pgmap page ≠ some devmem
  mapped : ∀ id at_ devmem start, stage id = some at_ →
    at_.pushing = true → at_.devmem = some devmem →
    at_.range = some start →
    ∀ page, Device.InRegion config start page → pgmap page = some devmem

/-- The chunks that a RELEASE in progress is through with. -/
structure Removing (lock : Option Removal) (count : Nat)
    (chunks : Nat → Option Nat) (chunk : Nat → Option DmirrorChunk) :
    Prop where
  removed : ∀ removal, lock = some removal → ∀ index, index < removal.index →
    index < count → ∀ devmem, chunks index = some devmem →
    chunk devmem = none
  marked : ∀ index, lock = some ⟨index, true⟩ → index < count ∧
    ∀ devmem, chunks index = some devmem →
      ∃ found, chunk devmem = some found ∧ found.remove = true

/-- A stage that follows another without taking or leaving a chunk. -/
def SameChunk (before : Option Stage) (after : Stage) : Prop :=
  after.devmem = none ∨ ∃ at_, before = some at_ ∧
    after.devmem = at_.devmem ∧ after.range = at_.range ∧
    after.pushing = at_.pushing

namespace ChunkTable

variable {config : Config} {chunk : Nat → Option DmirrorChunk} {made : Nat}
  {regions : Finset Nat} {listed : Nat → Prop} {stage : Nat → Option Stage}

theorem goto (table : ChunkTable config chunk made regions listed stage)
    (id : Nat) (after : Stage) (same : SameChunk (stage id) after) :
    ChunkTable config chunk made regions listed
      (Function.update stage id (some after)) where
  unmade := table.unmade
  busy := table.busy
  apart := table.apart
  built := by
    have built := table.built
    grind [SameChunk]
  builtOnce := by
    have builtOnce := table.builtOnce
    grind [SameChunk]
  listedIff := by
    have listedIff := table.listedIff
    grind [SameChunk]

theorem leave (table : ChunkTable config chunk made regions listed stage)
    (id : Nat) :
    ChunkTable config chunk made regions listed
      (Function.update stage id none) where
  unmade := table.unmade
  busy := table.busy
  apart := table.apart
  built := by
    have built := table.built
    grind
  builtOnce := by
    have builtOnce := table.builtOnce
    grind
  listedIff := by
    have listedIff := table.listedIff
    grind

theorem kzalloc (table : ChunkTable config chunk made regions listed stage)
    (id : Nat) (after : Stage) (builds : after.devmem = some made)
    (noRange : after.range = none) (unpushed : after.pushing = false) :
    ChunkTable config (Function.update chunk made (some ⟨none, false⟩))
      (made + 1) regions listed (Function.update stage id (some after)) where
  unmade := by
    have unmade := table.unmade
    grind
  busy := by
    have busy := table.busy
    grind
  apart := by
    have apart := table.apart
    grind
  built := by
    have built := table.built
    have unmade := table.unmade
    grind
  builtOnce := by
    have builtOnce := table.builtOnce
    have built := table.built
    have unmade := table.unmade
    grind
  listedIff := by
    have listedIff := table.listedIff
    have built := table.built
    have unmade := table.unmade
    grind

/-- The chunk under construction gets a region that is apart from all
others. -/
theorem request (table : ChunkTable config chunk made regions listed stage)
    {id devmem start : Nat} {before after : Stage}
    (here : stage id = some before) (built : before.devmem = some devmem)
    (unpushed : before.pushing = false)
    (free : ∀ other ∈ regions, Device.Apart config start other)
    (builds : after.devmem = some devmem) (ranged : after.range = some start)
    (still : after.pushing = false) :
    ChunkTable config
      (Function.update chunk devmem (some ⟨some start, false⟩)) made
      (insert start regions) listed
      (Function.update stage id (some after)) where
  unmade := by
    have unmade := table.unmade
    have exists_ := table.built id before devmem here built
    grind
  busy := by
    have busy := table.busy
    grind
  apart := by
    have apart := table.apart
    have busy := table.busy
    have symmetric (x y : Nat) (far : Device.Apart config x y) :
        Device.Apart config y x := Or.symm far
    grind
  built := by
    have others := table.built
    have builtOnce := table.builtOnce
    grind
  builtOnce := by
    have builtOnce := table.builtOnce
    grind
  listedIff := by
    have listedIff := table.listedIff
    grind

theorem release (table : ChunkTable config chunk made regions listed stage)
    {id devmem start : Nat} {before after : Stage}
    (here : stage id = some before) (built : before.devmem = some devmem)
    (ranged : before.range = some start)
    (unpushed : before.pushing = false)
    (builds : after.devmem = some devmem) (noRange : after.range = none)
    (still : after.pushing = false) :
    ChunkTable config (Function.update chunk devmem (some ⟨none, false⟩))
      made (regions.erase start) listed
      (Function.update stage id (some after)) where
  unmade := by
    have unmade := table.unmade
    have exists_ := table.built id before devmem here built
    grind
  busy := by
    have busy := table.busy
    have apart := table.apart
    have exists_ := table.built id before devmem here built
    have irreflexive : ¬Device.Apart config start start := by
      have positive := config.positive
      unfold Device.Apart
      omega
    grind
  apart := by
    have apart := table.apart
    grind
  built := by
    have others := table.built
    have builtOnce := table.builtOnce
    grind
  builtOnce := by
    have builtOnce := table.builtOnce
    grind
  listedIff := by
    have listedIff := table.listedIff
    grind

theorem kfree (table : ChunkTable config chunk made regions listed stage)
    {devmem : Nat} {regions' : Finset Nat}
    (unbuilt : ∀ id at_, stage id = some at_ → at_.devmem ≠ some devmem)
    (kept : ∀ other found start, other ≠ devmem → chunk other = some found →
      found.range = some start → start ∈ regions') :
    ChunkTable config (Function.update chunk devmem none) made regions' listed
      stage where
  unmade := by
    have unmade := table.unmade
    grind
  busy := by grind
  apart := by
    have apart := table.apart
    grind
  built := by
    have built := table.built
    grind
  builtOnce := table.builtOnce
  listedIff := table.listedIff

theorem mark (table : ChunkTable config chunk made regions listed stage)
    {devmem : Nat} {found : DmirrorChunk} (here : chunk devmem = some found)
    (unbuilt : ∀ id at_, stage id = some at_ → at_.devmem ≠ some devmem) :
    ChunkTable config
      (Function.update chunk devmem (some { found with remove := true }))
      made regions listed stage where
  unmade := by
    have unmade := table.unmade
    grind
  busy := by
    have busy := table.busy
    grind
  apart := by
    have apart := table.apart
    grind
  built := by
    have built := table.built
    grind
  builtOnce := table.builtOnce
  listedIff := table.listedIff

/-- The chunk under construction enters `devmem_chunks`. -/
theorem register (table : ChunkTable config chunk made regions listed stage)
    {id devmem : Nat} {before after : Stage} {listed' : Nat → Prop}
    (here : stage id = some before) (built : before.devmem = some devmem)
    (grows : ∀ other, listed' other ↔ listed other ∨ other = devmem)
    (builds : after.devmem = some devmem) (same : after.range = before.range)
    (pushes : after.pushing = true) :
    ChunkTable config chunk made regions listed'
      (Function.update stage id (some after)) where
  unmade := by
    have unmade := table.unmade
    have exists_ := table.built id before devmem here built
    grind
  busy := table.busy
  apart := table.apart
  built := by
    have others := table.built
    grind
  builtOnce := by
    have builtOnce := table.builtOnce
    grind
  listedIff := by
    have listedIff := table.listedIff
    have builtOnce := table.builtOnce
    grind

/-- All of `devmem_chunks` is dropped while no call is about to push. -/
theorem unlist (table : ChunkTable config chunk made regions listed stage)
    {listed' : Nat → Prop} (dropped : ∀ devmem, ¬listed' devmem)
    (idle : ∀ id at_, stage id = some at_ → at_.pushing = false) :
    ChunkTable config chunk made regions listed' stage where
  unmade := by
    have unmade := table.unmade
    grind
  busy := table.busy
  apart := table.apart
  built := table.built
  builtOnce := table.builtOnce
  listedIff := by grind

end ChunkTable

namespace PageUse

variable {inUse pinned referenced : Finset Page}
  {stage : Nat → Option Stage}

private theorem holder_kept {id : Nat} {page : Page}
    (holder : ∃ holder at_, stage holder = some at_ ∧
      at_.popped = some page) (after : Option Stage)
    (elsewhere : ∀ at_, stage id = some at_ → at_.popped ≠ some page) :
    ∃ holder at_, Function.update stage id after holder = some at_ ∧
      at_.popped = some page := by
  obtain ⟨holder, at_, here, holds⟩ := holder
  have other : holder ≠ id := by
    rintro rfl
    exact elsewhere at_ here holds
  refine ⟨holder, at_, ?_, holds⟩
  rw [Function.update_of_ne other]
  exact here

private theorem move (use : PageUse inUse pinned referenced stage) (id : Nat)
    (after : Option Stage)
    (unheld : ∀ at_, stage id = some at_ → at_.popped = none)
    (noPopped : ∀ at_, after = some at_ → at_.popped = none)
    (noFreeing : ∀ at_, after = some at_ → at_.freeing = none) :
    PageUse inUse pinned referenced (Function.update stage id after) where
  pinnedUsed := use.pinnedUsed
  referencedPinned := use.referencedPinned
  popped := by
    have popped := use.popped
    grind
  poppedOnce := by
    have poppedOnce := use.poppedOnce
    grind
  unpinned := by
    intro page used loose
    apply holder_kept (use.unpinned page used loose) after
    intro at_ here
    simp [unheld at_ here]
  freeing := by
    have freeing := use.freeing
    grind
  freeingOnce := by
    have freeingOnce := use.freeingOnce
    grind

theorem goto (use : PageUse inUse pinned referenced stage) (id : Nat)
    (after : Stage)
    (unheld : ∀ at_, stage id = some at_ → at_.popped = none)
    (noPopped : after.popped = none) (noFreeing : after.freeing = none) :
    PageUse inUse pinned referenced
      (Function.update stage id (some after)) := by
  apply use.move id (some after) unheld
  · rintro at_ ⟨⟩
    exact noPopped
  · rintro at_ ⟨⟩
    exact noFreeing

theorem leave (use : PageUse inUse pinned referenced stage) (id : Nat)
    (unheld : ∀ at_, stage id = some at_ → at_.popped = none) :
    PageUse inUse pinned referenced (Function.update stage id none) :=
  use.move id none unheld nofun nofun

theorem pop (use : PageUse inUse pinned referenced stage) (id : Nat)
    {after : Stage} {page : Page} (fresh : page ∉ inUse)
    (unheld : ∀ at_, stage id = some at_ → at_.popped = none)
    (pops : after.popped = some page) (noFreeing : after.freeing = none) :
    PageUse (insert page inUse) pinned referenced
      (Function.update stage id (some after)) where
  pinnedUsed := use.pinnedUsed.trans (Finset.subset_insert page inUse)
  referencedPinned := use.referencedPinned
  popped := by
    have popped := use.popped
    have pinnedUsed := use.pinnedUsed
    grind
  poppedOnce := by
    have popped := use.popped
    have poppedOnce := use.poppedOnce
    grind
  unpinned := by
    intro other used loose
    by_cases same : other = page
    · exact ⟨id, after, by simp, same ▸ pops⟩
    · have old : other ∈ inUse := Finset.mem_of_mem_insert_of_ne used same
      apply holder_kept (use.unpinned other old loose) (some after)
      intro at_ here
      simp [unheld at_ here]
  freeing := by
    have freeing := use.freeing
    grind
  freeingOnce := by
    have freeingOnce := use.freeingOnce
    grind

/-- `zone_device_page_init` on a popped page. -/
theorem pin (use : PageUse inUse pinned referenced stage) {id : Nat}
    {before after : Stage} {page : Page} (here : stage id = some before)
    (popped : before.popped = some page) (noPopped : after.popped = none)
    (noFreeing : after.freeing = none) :
    PageUse inUse (insert page pinned) (insert page referenced)
      (Function.update stage id (some after)) where
  pinnedUsed := by
    have used := (use.popped id before page here popped).1
    exact Finset.insert_subset used use.pinnedUsed
  referencedPinned := Finset.insert_subset_insert page use.referencedPinned
  popped := by
    have others := use.popped
    have poppedOnce := use.poppedOnce
    grind
  poppedOnce := by
    have poppedOnce := use.poppedOnce
    grind
  unpinned := by
    intro other used loose
    rw [Finset.mem_insert, not_or] at loose
    apply holder_kept (use.unpinned other used loose.2) (some after)
    intro at_ there holds
    rw [here, Option.some.injEq] at there
    subst there
    rw [popped, Option.some.injEq] at holds
    exact loose.1 holds.symm
  freeing := by
    have freeing := use.freeing
    have fresh := use.popped id before page here popped
    grind
  freeingOnce := by
    have freeingOnce := use.freeingOnce
    grind

theorem drop (use : PageUse inUse pinned referenced stage) {id : Nat}
    {after : Stage} {page : Page} (held : page ∈ referenced)
    (idle : stage id = none) (frees : after.freeing = some page)
    (noPopped : after.popped = none) :
    PageUse inUse pinned (referenced.erase page)
      (Function.update stage id (some after)) where
  pinnedUsed := use.pinnedUsed
  referencedPinned := (Finset.erase_subset page referenced).trans
    use.referencedPinned
  popped := by
    have popped := use.popped
    grind
  poppedOnce := by
    have poppedOnce := use.poppedOnce
    grind
  unpinned := by
    intro other used loose
    apply holder_kept (use.unpinned other used loose) (some after)
    intro at_ there
    simp [idle] at there
  freeing := by
    have freeing := use.freeing
    have referencedPinned := use.referencedPinned
    grind
  freeingOnce := by
    have freeing := use.freeing
    have freeingOnce := use.freeingOnce
    grind

/-- The end of `dmirror_devmem_free`. -/
theorem push (use : PageUse inUse pinned referenced stage) {id : Nat}
    {before after : Stage} {page : Page} (here : stage id = some before)
    (frees : before.freeing = some page) (unheld : before.popped = none)
    (noPopped : after.popped = none) (noFreeing : after.freeing = none) :
    PageUse (inUse.erase page) (pinned.erase page) referenced
      (Function.update stage id (some after)) where
  pinnedUsed := Finset.erase_subset_erase page use.pinnedUsed
  referencedPinned := by
    have dropped := (use.freeing id before page here frees).2
    have referencedPinned := use.referencedPinned
    grind
  popped := by
    have popped := use.popped
    have freeing := use.freeing
    grind
  poppedOnce := by
    have poppedOnce := use.poppedOnce
    grind
  unpinned := by
    intro other used loose
    have old : other ∈ inUse ∧ other ∉ pinned := by grind
    apply holder_kept (use.unpinned other old.1 old.2) (some after)
    intro at_ there
    rw [here, Option.some.injEq] at there
    subst there
    simp [unheld]
  freeing := by
    have freeing := use.freeing
    have freeingOnce := use.freeingOnce
    grind
  freeingOnce := by
    have freeingOnce := use.freeingOnce
    grind

end PageUse

theorem Settled.mono {config : Config} {pgmap pgmap' : Page → Option Nat}
    {chunk chunk' : Nat → Option DmirrorChunk} {listed listed' : Nat → Prop}
    {page : Page} (settled : Settled config pgmap chunk listed page)
    (mapped : pgmap' page = pgmap page)
    (kept : ∀ devmem found, pgmap page = some devmem → listed devmem →
      chunk devmem = some found →
      ∃ found', chunk' devmem = some found' ∧ found'.range = found.range)
    (stays : ∀ devmem, listed devmem → listed' devmem) :
    Settled config pgmap' chunk' listed' page := by
  obtain ⟨devmem, found, start, owned, alive, ranged, inside, registered⟩ :=
    settled
  obtain ⟨found', alive', ranged'⟩ := kept devmem found owned registered alive
  exact ⟨devmem, found', start, mapped.trans owned, alive',
    ranged'.trans ranged, inside, stays devmem registered⟩

theorem Device.InRegion.apart {config : Config} {start other : Nat}
    {page : Page} (inside : InRegion config start page)
    (far : Apart config start other) : ¬InRegion config other page := by
  cases page with
  | devicePrivate mdevice pfn =>
      unfold Apart at far
      simp only [InRegion] at inside ⊢
      omega
  | _ => exact inside.elim

namespace FreeList

variable {config : Config} {free : List Page} {next : Page → Option Page}
  {head : Option Page} {pgmap : Page → Option Nat} {inUse : Finset Page}
  {chunk : Nat → Option DmirrorChunk} {listed : Nat → Prop}
  {stage : Nat → Option Stage}

private theorem move (list : FreeList config free next head pgmap inUse chunk
      listed stage) (id : Nat) (after : Option Stage)
    (still : ∀ at_, after = some at_ → at_.pushing = false) :
    FreeList config free next head pgmap inUse chunk listed
      (Function.update stage id after) where
  chain := list.chain
  unused := list.unused
  settled := list.settled
  unmarked := list.unmarked
  unpushed := by
    have unpushed := list.unpushed
    grind
  mapped := by
    have mapped := list.mapped
    grind

theorem goto (list : FreeList config free next head pgmap inUse chunk listed
      stage) (id : Nat) (after : Stage) (still : after.pushing = false) :
    FreeList config free next head pgmap inUse chunk listed
      (Function.update stage id (some after)) := by
  apply list.move id (some after)
  rintro at_ ⟨⟩
  exact still

theorem leave (list : FreeList config free next head pgmap inUse chunk listed
      stage) (id : Nat) :
    FreeList config free next head pgmap inUse chunk listed
      (Function.update stage id none) :=
  list.move id none nofun

/-- Chunks outside `devmem_chunks` come, change and go. -/
theorem rechunk (list : FreeList config free next head pgmap inUse chunk
      listed stage) {chunk' : Nat → Option DmirrorChunk}
    (kept : ∀ devmem, listed devmem → chunk' devmem = chunk devmem) :
    FreeList config free next head pgmap inUse chunk' listed stage where
  chain := list.chain
  unused := list.unused
  settled := by
    intro page member
    apply (list.settled page member).mono rfl _ (fun _ => id)
    intro devmem found _ registered alive
    exact ⟨found, (kept devmem registered).trans alive, rfl⟩
  unmarked := by
    intro page member devmem found owned alive
    obtain ⟨_, _, _, owned', _, _, _, registered⟩ :=
      list.settled page (.inl member)
    rw [owned] at owned'
    cases owned'
    rw [kept devmem registered] at alive
    exact list.unmarked page member devmem found owned alive
  unpushed := list.unpushed
  mapped := list.mapped

theorem pop (list : FreeList config free next head pgmap inUse chunk listed
      stage) {page : Page} (first : head = some page) :
    ∃ rest, free = page :: rest ∧
      FreeList config rest next (next page) pgmap (insert page inUse) chunk
        listed stage := by
  have chain := list.chain
  rw [first] at chain
  obtain ⟨rest, rfl, tail⟩ := chain.nodes_some
  have distinct := List.nodup_cons.mp chain.nodup
  refine ⟨rest, rfl, tail, ?_, ?_, ?_, ?_, list.mapped⟩
  · have unused := list.unused
    grind
  · have settled := list.settled
    grind
  · have unmarked := list.unmarked
    grind
  · have unpushed := list.unpushed
    grind

/-- The link field of a page in use is free for other data. -/
theorem store (list : FreeList config free next head pgmap inUse chunk listed
      stage) {page : Page} (used : page ∈ inUse) (data : Option Page) :
    FreeList config free (Function.update next page data) head pgmap inUse
      chunk listed stage where
  chain := by
    apply list.chain.update
    intro member
    exact list.unused page member used
  unused := list.unused
  settled := list.settled
  unmarked := list.unmarked
  unpushed := list.unpushed
  mapped := list.mapped

theorem push (list : FreeList config free next head pgmap inUse chunk listed
      stage) {page : Page} (used : page ∈ inUse)
    (unmarked : ∀ devmem found, pgmap page = some devmem →
      chunk devmem = some found → found.remove = false) :
    FreeList config (page :: free) (Function.update next page head)
      (some page) pgmap (inUse.erase page) chunk listed stage where
  chain := by
    apply list.chain.push
    intro member
    exact list.unused page member used
  unused := by
    have unused := list.unused
    grind
  settled := by
    have settled := list.settled
    grind
  unmarked := by
    have others := list.unmarked
    grind
  unpushed := by
    have unpushed := list.unpushed
    grind
  mapped := list.mapped

theorem drop (list : FreeList config free next head pgmap inUse chunk listed
      stage) (page : Page) :
    FreeList config free next head pgmap (inUse.erase page) chunk listed
      stage where
  chain := list.chain
  unused := by
    have unused := list.unused
    grind
  settled := by
    have settled := list.settled
    grind
  unmarked := list.unmarked
  unpushed := by
    have unpushed := list.unpushed
    grind
  mapped := list.mapped

/-- `memremap_pages` and the registration of the chunk. -/
theorem register (list : FreeList config free next head pgmap inUse chunk
      listed stage) {made : Nat} {regions : Finset Nat}
    (table : ChunkTable config chunk made regions listed stage)
    {id devmem start : Nat} {before after : Stage} {listed' : Nat → Prop}
    (here : stage id = some before) (built : before.devmem = some devmem)
    (ranged : before.range = some start)
    (unpushed : before.pushing = false)
    (grows : ∀ other, listed' other ↔ listed other ∨ other = devmem)
    (builds : after.devmem = some devmem) (same : after.range = some start) :
    FreeList config free
      (fun page => if Device.InRegion config start page then none
        else next page)
      head
      (fun page => if Device.InRegion config start page then some devmem
        else pgmap page)
      inUse chunk listed' (Function.update stage id (some after)) := by
  have alive := table.built id before devmem here built
  rw [ranged] at alive
  have unlisted : ¬listed devmem := by
    rw [table.listedIff id before devmem here built, unpushed]
    simp
  have outside : ∀ page, page ∈ free ∨ page ∈ inUse →
      ¬Device.InRegion config start page := by
    intro page member
    obtain ⟨other, found, start', owned, alive', ranged', inside, registered⟩
      := list.settled page member
    have different : other ≠ devmem := by
      rintro rfl
      exact unlisted registered
    exact inside.apart (table.apart other devmem found _ start' start different
      alive' alive ranged' rfl)
  constructor
  case chain =>
    apply list.chain.frame
    intro page member
    rw [if_neg (outside page (.inl member))]
  case unused => exact list.unused
  case settled =>
    intro page member
    apply (list.settled page member).mono (if_neg (outside page member))
    · intro other found _ _ alive'
      exact ⟨found, alive', rfl⟩
    · intro other registered
      exact (grows other).mpr (.inl registered)
  case unmarked =>
    intro page member other found owned
    rw [if_neg (outside page (.inl member))] at owned
    exact list.unmarked page member other found owned
  case unpushed =>
    intro caller at_ other there pushes builds' page member
    rw [if_neg (outside page member)]
    by_cases same' : caller = id
    · subst same'
      rw [Function.update_self, Option.some.injEq] at there
      subst there
      rw [builds, Option.some.injEq] at builds'
      subst builds'
      obtain ⟨other, _, _, owned, _, _, _, registered⟩ :=
        list.settled page member
      rw [owned]
      intro equal
      cases equal
      exact unlisted registered
    · rw [Function.update_of_ne same'] at there
      exact list.unpushed caller at_ other there pushes builds' page member
  case mapped =>
    intro caller at_ other start' there pushes builds' ranged' page inside
    by_cases same' : caller = id
    · subst same'
      rw [Function.update_self, Option.some.injEq] at there
      subst there
      rw [same, Option.some.injEq] at ranged'
      rw [builds] at builds'
      subst ranged'
      rw [if_pos inside]
      exact builds'
    · rw [Function.update_of_ne same'] at there
      have different : other ≠ devmem := by
        rintro rfl
        exact same' (table.builtOnce caller id at_ before other there here
          builds' built)
      have far := table.apart other devmem _ _ start' start different
        (table.built caller at_ other there builds') alive ranged' rfl
      rw [if_neg (inside.apart far)]
      exact list.mapped caller at_ other start' there pushes builds' ranged'
        page inside

theorem pushPages (list : FreeList config free next head pgmap inUse chunk
      listed stage) {made : Nat} {regions : Finset Nat}
    (table : ChunkTable config chunk made regions listed stage)
    {id devmem start : Nat} {before : Stage} (after : Stage)
    (here : stage id = some before) (built : before.devmem = some devmem)
    (ranged : before.range = some start) (pushes : before.pushing = true)
    (still : after.pushing = false) :
    let pages := pushed (Page.devicePrivate config.mdevice) start
      config.chunkPages
    let state := pushAll (Page.devicePrivate config.mdevice)
      config.chunkPages start (next, head)
    FreeList config (pages ++ free) state.1 state.2 pgmap inUse chunk listed
      (Function.update stage id (some after)) := by
  intro pages state
  have inside : ∀ page, page ∈ pages → Device.InRegion config start page := by
    intro page member
    obtain ⟨pfn, lower, upper, rfl⟩ := mem_pushed.mp member
    exact ⟨rfl, lower, upper⟩
  have owned : ∀ page, page ∈ pages → pgmap page = some devmem := by
    intro page member
    exact list.mapped id before devmem start here pushes built ranged page
      (inside page member)
  have fresh : ∀ page, page ∈ pages → ¬(page ∈ free ∨ page ∈ inUse) := by
    intro page member old
    exact list.unpushed id before devmem here pushes built page old
      (owned page member)
  have alive := table.built id before devmem here built
  rw [ranged] at alive
  have registered : listed devmem :=
    (table.listedIff id before devmem here built).mpr pushes
  obtain ⟨chain, -⟩ := pushAll_spec list.chain (by
      intro pfn lower upper old
      exact fresh _ (mem_pushed.mpr ⟨pfn, lower, upper, rfl⟩) (.inl old))
    (by
      intro i j same
      cases same
      rfl)
  constructor
  case chain => exact chain
  case unused =>
    have unused := list.unused
    grind
  case settled =>
    intro page member
    by_cases new : page ∈ pages
    · exact ⟨devmem, _, start, owned page new, alive, rfl, inside page new,
        registered⟩
    · apply list.settled page
      grind
  case unmarked =>
    intro page member other found owner alive'
    by_cases new : page ∈ pages
    · grind
    · apply list.unmarked page _ other found owner alive'
      grind
  case unpushed =>
    intro caller at_ other there pushes' builds' page member
    have apart : caller ≠ id := by
      rintro rfl
      simp only [Function.update_self, Option.some.injEq] at there
      subst there
      simp [still] at pushes'
    rw [Function.update_of_ne apart] at there
    by_cases new : page ∈ pages
    · rw [owned page new]
      intro same
      simp only [Option.some.injEq] at same
      subst same
      exact apart (table.builtOnce caller id at_ before _ there here builds'
        built)
    · apply list.unpushed caller at_ other there pushes' builds' page
      grind
  case mapped =>
    have mapped := list.mapped
    grind

/-- `dmirror_remove_free_pages` leaves a suffix of the list without pages of
the marked chunk. -/
theorem mark (list : FreeList config free next head pgmap inUse chunk listed
      stage) {devmem : Nat} {found : DmirrorChunk}
    (here : chunk devmem = some found) {rest : List Page}
    {head' : Option Page} (chain : Chain next head' rest)
    (suffix : rest <:+ free)
    (clean : ∀ page ∈ rest, pgmap page ≠ some devmem) :
    FreeList config rest next head' pgmap inUse
      (Function.update chunk devmem (some { found with remove := true }))
      listed stage where
  chain := chain
  unused := fun page member => list.unused page (suffix.subset member)
  settled := by
    intro page member
    have before : page ∈ free ∨ page ∈ inUse :=
      member.imp_left fun left => suffix.subset left
    apply (list.settled page before).mono rfl _ (fun _ => id)
    intro other found' _ _ alive
    by_cases same : other = devmem
    · subst same
      rw [here, Option.some.injEq] at alive
      subst alive
      exact ⟨_, Function.update_self .., rfl⟩
    · exact ⟨found', by rw [Function.update_of_ne same, alive], rfl⟩
  unmarked := by
    intro page member other found' owned alive
    have different : other ≠ devmem := by
      rintro rfl
      exact clean page member owned
    rw [Function.update_of_ne different] at alive
    exact list.unmarked page (suffix.subset member) other found' owned alive
  unpushed := by
    intro id at_ other there pushes builds page member
    exact list.unpushed id at_ other there pushes builds page
      (member.imp_left fun left => suffix.subset left)
  mapped := list.mapped

/-- A chunk none of whose pages is on the list or in use is freed. -/
theorem kfree (list : FreeList config free next head pgmap inUse chunk listed
      stage) {devmem : Nat}
    (gone : ∀ page, page ∈ free ∨ page ∈ inUse → pgmap page ≠ some devmem) :
    FreeList config free next head pgmap inUse
      (Function.update chunk devmem none) listed stage where
  chain := list.chain
  unused := list.unused
  settled := by
    intro page member
    apply (list.settled page member).mono rfl _ (fun _ => id)
    intro other found owned _ alive
    have different : other ≠ devmem := by
      rintro rfl
      exact gone page member owned
    exact ⟨found, by rw [Function.update_of_ne different, alive], rfl⟩
  unmarked := by
    have unmarked := list.unmarked
    grind
  unpushed := list.unpushed
  mapped := list.mapped

end FreeList

end Rshm.Hmm.Devmem
