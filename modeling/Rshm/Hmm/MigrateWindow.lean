import Rshm.Hmm.DevmemFault
import Rshm.Hmm.OwnedWorld
import Rshm.Hmm.StaleEntries
import Rshm.Hmm.Sweep

/-!
# One window of a migration

What the calls for one window make of the page table entry and of the mirror
entry of each address.  A page has moved when its slot has a target that
`migrate_vma_pages` did not refuse; every other page is put back where it
was.
-/

namespace Rshm.Hmm

open RangeLoop

variable {Contents : Type}

def Window.Holds (window : Window) (pfn : Nat) : Prop :=
  pfnOf window.start ≤ pfn ∧ pfn < pfnOf window.stop

theorem Window.holds_iff (window : Window) (pfn : Nat) :
    pfnOf window.start ≤ pfn ∧
        pfn < pfnOf window.start + window.npages ↔ window.Holds pfn := by
  unfold Window.Holds Window.npages
  omega

theorem Window.holds_range {start stop : UInt64} {pfn : Nat} :
    Window.Holds ⟨start, stop⟩ pfn ↔
      pfnOf start ≤ pfn ∧ pfn < pfnOf stop := Iff.rfl

/-- What `migrate_vma_setup` leaves of a page table entry, for the slot it
fills. -/
def CollectedFrom (pte held : Pte) (src : MigratePfn) : Prop :=
  (∃ page, src.page = some page ∧ page ≠ .zero ∧
      held = .migration page src.write ∧ pte = .present page src.write) ∨
    src.page = none ∧ held = pte

theorem setupCell_collected (flags : MigrateVmaDirection)
    (pgmapOwner : Nat) (collected : Bool) (pte : Pte) :
    let after := setupCell flags pgmapOwner collected (pte, .empty)
    CollectedFrom pte after.1 after.2.src ∧ after.2.dst = .empty := by
  intro after
  refine ⟨?_, rfl⟩
  cases collected with
  | false => exact .inr ⟨rfl, rfl⟩
  | true =>
      cases source : (migrateVmaCollect flags pgmapOwner pte).page with
      | none =>
          refine .inr ⟨source, ?_⟩
          simp only [after, setupCell, if_true, source]
      | some page =>
          obtain ⟨nonzero, present, -⟩ := migrateVmaCollect_source source
          refine .inl ⟨page, source, nonzero, ?_, present⟩
          simp only [after, setupCell, if_true, source]

/-- The pages and the finalize call move a page to its target, or leave its
address as it was before the migration. -/
theorem finalizePte_moved (vmWrite migrated : Bool) {pte held : Pte}
    {slot : MigrateSlot} (collected : CollectedFrom pte held slot.src) :
    let after := pagesCell vmWrite migrated (held, slot)
    after.2.dst = slot.dst ∧
      (after.2.moved = true → ∃ page writable, slot.dst.page = some page ∧
        finalizePte after.2 after.1 = .present page writable) ∧
      (after.2.moved = false → finalizePte after.2 after.1 = pte) := by
  obtain ⟨⟨source, marked, write⟩, target, dstMigrate, dstWrite⟩ := slot
  rcases collected with ⟨page, found, -, rfl, rfl⟩ | ⟨hole, rfl⟩
  · cases found
    cases target with
    | none =>
        simp [pagesCell, MigrateSlot.refuse, MigrateSlot.moved, finalizePte]
    | some dpage =>
        cases migrated <;> cases marked <;>
          simp [pagesCell, MigrateSlot.refuse, MigrateSlot.moved, finalizePte]
  · cases hole
    cases target with
    | none =>
        simp [pagesCell, MigrateSlot.refuse, MigrateSlot.moved, finalizePte]
    | some dpage =>
        cases marked with
        | false => simp [pagesCell, MigrateSlot.moved, finalizePte]
        | true =>
            cases chosen : migrated && held.insertable <;>
              simp [pagesCell, MigrateSlot.refuse, MigrateSlot.moved,
                finalizePte, chosen]

section Calls

variable (flags : MigrateVmaDirection) (pgmapOwner : Nat) (vmWrite : Bool)
  (answer : MigrateAnswer) (window : Window) (cpu : Nat → Pte)
  (copied : Nat → MigrateSlot) (mem : Memory Contents)

def windowCollected : (Nat → Pte) × (Nat → MigrateSlot) :=
  migrateVmaSetup flags pgmapOwner answer.collected window.npages
    (pfnOf window.start) cpu

/-- `migrate_vma_pages`, for the slots that the copy loop leaves. -/
def windowMoved : (Nat → Pte) × (Nat → MigrateSlot) :=
  migrateVmaPages vmWrite answer.migrated window.npages (pfnOf window.start)
    ((windowCollected flags pgmapOwner answer window cpu).1, copied)

def windowFinal : (Nat → Pte) × Memory Contents :=
  migrateVmaFinalize
    (windowMoved flags pgmapOwner vmWrite answer window cpu copied).2
    window.npages (pfnOf window.start)
    ((windowMoved flags pgmapOwner vmWrite answer window cpu copied).1, mem)

/-- What `migrate_vma_setup` makes of each address. -/
theorem windowCollected_from (pfn : Nat) :
    let after := windowCollected flags pgmapOwner answer window cpu
    CollectedFrom (cpu pfn) (after.1 pfn) (after.2 pfn).src ∧
      (after.2 pfn).dst = .empty := by
  intro after
  have cell := migrateVmaSetup_cell flags pgmapOwner answer.collected
    window.npages (pfnOf window.start) cpu pfn
  change (after.1 pfn, after.2 pfn) = _ at cell
  split at cell
  · have collected := setupCell_collected flags pgmapOwner
      (answer.collected pfn) (cpu pfn)
    dsimp only at collected
    rw [← cell] at collected
    exact collected
  · obtain ⟨held, slot⟩ := Prod.mk.inj cell
    rw [held, slot]
    exact ⟨.inr ⟨rfl, rfl⟩, rfl⟩

theorem windowFinal_outside {pfn : Nat} (outside : ¬window.Holds pfn) :
    (windowFinal flags pgmapOwner vmWrite answer window cpu copied mem).1 pfn
      = cpu pfn := by
  rw [← window.holds_iff] at outside
  have collected := migrateVmaSetup_cell flags pgmapOwner answer.collected
    window.npages (pfnOf window.start) cpu pfn
  have moved := migrateVmaPages_cell vmWrite answer.migrated window.npages
    (pfnOf window.start)
    ((windowCollected flags pgmapOwner answer window cpu).1, copied) pfn
  dsimp only at collected moved
  rw [if_neg outside] at collected moved
  calc (windowFinal flags pgmapOwner vmWrite answer window cpu copied mem).1
        pfn
    _ = (windowMoved flags pgmapOwner vmWrite answer window cpu copied).1
        pfn := by
      rw [windowFinal, migrateVmaFinalize_pte, if_neg outside]
    _ = (windowCollected flags pgmapOwner answer window cpu).1 pfn :=
      (Prod.mk.inj moved).1
    _ = cpu pfn := (Prod.mk.inj collected).1

/-- In the window, a page moves to the target that the copy loop gave it, or
its address is as it was. -/
theorem windowFinal_moved {pfn : Nat} (inside : window.Holds pfn)
    (same : (copied pfn).src =
      ((windowCollected flags pgmapOwner answer window cpu).2 pfn).src) :
    let slot :=
      (windowMoved flags pgmapOwner vmWrite answer window cpu copied).2 pfn
    let after :=
      (windowFinal flags pgmapOwner vmWrite answer window cpu copied mem).1 pfn
    slot = (pagesCell vmWrite (answer.migrated pfn)
      ((windowCollected flags pgmapOwner answer window cpu).1 pfn,
        copied pfn)).2 ∧
    slot.dst = (copied pfn).dst ∧
    (slot.moved = true → ∃ page writable, (copied pfn).dst.page = some page ∧
      after = .present page writable) ∧
    (slot.moved = false → after = cpu pfn) := by
  intro slot after
  rw [← window.holds_iff] at inside
  obtain ⟨source, -⟩ :=
    windowCollected_from flags pgmapOwner answer window cpu pfn
  rw [← same] at source
  have cell := migrateVmaPages_cell vmWrite answer.migrated window.npages
    (pfnOf window.start)
    ((windowCollected flags pgmapOwner answer window cpu).1, copied) pfn
  rw [if_pos inside] at cell
  have ends := finalizePte_moved vmWrite (answer.migrated pfn) source
  dsimp only at cell ends
  refine ⟨congrArg Prod.snd cell, ?_⟩
  rw [← cell] at ends
  have last : after = finalizePte slot
      ((windowMoved flags pgmapOwner vmWrite answer window cpu copied).1
        pfn) := by
    rw [show after = _ from migrateVmaFinalize_pte _ _ _ _ pfn,
      if_pos inside]
  rw [last]
  exact ends

end Calls

/-- The page tables of a single process. -/
def solo (cpu : Nat → Pte) : Nat → Nat → Pte :=
  Function.update (fun _ _ => .none) 0 cpu

/-- Each page in use has one holder, and no migration is in progress. -/
def MigrateState.Settled (state : MigrateState Contents) : Prop :=
  Owned state.mem.inUse state.mem.zoneDeviceData (solo state.cpu)
    fun _ => none

theorem update_solo (cpu next : Nat → Pte) :
    Function.update (solo cpu) 0 next = solo next :=
  Function.update_idem ..

theorem MigrateState.Settled.mapped {state : MigrateState Contents}
    (settled : state.Settled) {pfn : Nat} {page : Page}
    (found : (state.cpu pfn).page = some page) :
    page ∈ state.mem.inUse ∨ page = .zero := by
  apply Owned.mapped settled
  rw [solo, Function.update_self]
  exact found

/-- A read through the entry finds the bytes of the device page. -/
def ReadsAs (mem : Memory Contents) (entry : Option Entry) (dpage : Page) :
    Prop :=
  ∃ found rpage, entry = some found ∧ mem.backingPage dpage = some rpage ∧
    mem.contents found.page = mem.contents rpage

/-- The process maps a page of the device, and the mirror reads that page. -/
def Delivered (mdevice : Nat) (mem : Memory Contents) (pte : Pte)
    (entry : Option Entry) : Prop :=
  ∃ dpfn writable, pte = .present (.devicePrivate mdevice dpfn) writable ∧
    ReadsAs mem entry (.devicePrivate mdevice dpfn)

section ToDevice

variable [Zero Contents] (mdevice dmirror : Nat) (vmWrite : Bool)
  (answer : MigrateAnswer) (window : Window) (state : MigrateState Contents)

/-- The slots and the memory after `dmirror_migrate_alloc_and_copy`. -/
def copiedToDevice : (Nat → MigrateSlot) × Memory Contents :=
  dmirrorMigrateAllocAndCopy mdevice dmirror vmWrite answer.alloc
    window.npages (pfnOf window.start)
    ((windowCollected .selectSystem mdevice answer window state.cpu).2,
      state.mem)

/-- The window after `migrate_vma_pages`. -/
def movedToDevice : (Nat → Pte) × (Nat → MigrateSlot) :=
  windowMoved .selectSystem mdevice vmWrite answer window state.cpu
    (copiedToDevice mdevice dmirror vmWrite answer window state).1

def finalToDevice : (Nat → Pte) × Memory Contents :=
  windowFinal .selectSystem mdevice vmWrite answer window state.cpu
    (copiedToDevice mdevice dmirror vmWrite answer window state).1
    (copiedToDevice mdevice dmirror vmWrite answer window state).2

theorem migrateWindowToDevice_eq :
    migrateWindowToDevice mdevice dmirror vmWrite answer window state =
      { state with
        cpu := (finalToDevice mdevice dmirror vmWrite answer window state).1
        mem := (finalToDevice mdevice dmirror vmWrite answer window state).2
        pt := (dmirrorMigrateFinalizeAndMap
          (copiedToDevice mdevice dmirror vmWrite answer window state).2
          (movedToDevice mdevice dmirror vmWrite answer window state).2
          answer.xaFails window.npages (pfnOf window.start)
          (answer.others state.pt)).1 } := rfl

theorem MigrateState.Settled.windowToDevice {state : MigrateState Contents}
    (settled : state.Settled) :
    (migrateWindowToDevice mdevice dmirror vmWrite answer window
      state).Settled := by
  let migration (stage : Stage) (slots : Nat → MigrateSlot) : Migration :=
    { dmirror := dmirror
      pgmapOwner := mdevice
      mm := 0
      flags := .selectSystem
      vmWrite := vmWrite
      first := pfnOf window.start
      npages := window.npages
      slots := slots
      stage := stage }
  let running (stage : Stage) (slots : Nat → MigrateSlot) :
      Nat → Option Migration :=
    Function.update (fun _ => none) 0 (some (migration stage slots))
  let collected :=
    windowCollected .selectSystem mdevice answer window state.cpu
  let copied := copiedToDevice mdevice dmirror vmWrite answer window state
  let moved := movedToDevice mdevice dmirror vmWrite answer window state
  have setup : Owned state.mem.inUse state.mem.zoneDeviceData
      (solo collected.1) (running .setup collected.2) := by
    have step := @Owned.setup _ _ (solo state.cpu) (fun _ => none) settled 0
      rfl (migration .setup collected.2) rfl answer.collected rfl nofun
    rw [update_solo] at step
    exact step
  have copy : Owned copied.2.inUse copied.2.zoneDeviceData
      (solo collected.1) (running .copied copied.1) := by
    have step := @Owned.allocAndCopy _ _ _ _ state.mem setup 0 _
      (Function.update_self ..) rfl vmWrite answer.alloc mdevice dmirror
    dsimp only at step
    rw [Function.update_idem] at step
    exact step
  have pages : Owned copied.2.inUse copied.2.zoneDeviceData
      (solo moved.1) (running .migrated moved.2) := by
    have step := @Owned.pages _ _ _ _ copy 0 _ (Function.update_self ..) rfl
      answer.migrated
    dsimp only at step
    rw [update_solo, Function.update_idem] at step
    exact step
  have step := @Owned.finalize _ _ _ copied.2 pages 0 _
    (Function.update_self ..)
  dsimp only at step
  rw [update_solo, Function.update_idem, Function.update_eq_self] at step
  exact step

theorem migrateWindowToDevice_outside (alone : answer.others = id)
    {pfn : Nat} (outside : ¬window.Holds pfn) :
    let after := migrateWindowToDevice mdevice dmirror vmWrite answer window
      state
    after.cpu pfn = state.cpu pfn ∧ after.pt pfn = state.pt pfn := by
  rw [migrateWindowToDevice_eq]
  constructor
  · exact windowFinal_outside _ _ _ _ _ _ _ _ outside
  · rw [← window.holds_iff] at outside
    dsimp only
    rw [alone, (dmirrorMigrateFinalizeAndMap_at _ _ _ _ _ _ pfn).2]
    · rfl
    · intro inside
      exact outside ⟨inside.1, inside.2.1⟩

theorem migrateWindowToDevice_links {page : Page}
    (used : page ∈ state.mem.inUse) :
    (migrateWindowToDevice mdevice dmirror vmWrite answer window
      state).mem.zoneDeviceData page = state.mem.zoneDeviceData page := by
  rw [migrateWindowToDevice_eq, finalToDevice, windowFinal]
  dsimp only
  rw [(migrateVmaFinalize_mem _ _ _ _).1]
  exact (dmirrorMigrateAllocAndCopy_extends _ _ _).links page used

omit [Zero Contents] in
theorem windowCollected_used {state : MigrateState Contents}
    (settled : state.Settled) {flags : MigrateVmaDirection} {pfn : Nat}
    {page : Page}
    (source : ((windowCollected flags mdevice answer window state.cpu).2
      pfn).src.page = some page) : page ∈ state.mem.inUse := by
  rcases (windowCollected_from flags mdevice answer window state.cpu pfn).1
    with ⟨held, found, nonzero, -, present⟩ | ⟨hole, -⟩
  · obtain rfl := Option.some.inj (found.symm.trans source)
    rcases settled.mapped (congrArg Pte.page present) with used | zero
    · exact used
    · exact absurd zero nonzero
  · have absent := hole.symm.trans source
    cases absent

/-- A page of the window is on a fresh device page, or its address is as it
was. -/
theorem migrateWindowToDevice_moved {state : MigrateState Contents}
    (settled : state.Settled) {pfn : Nat} (inside : window.Holds pfn) :
    let copied := copiedToDevice mdevice dmirror vmWrite answer window state
    let slot :=
      (movedToDevice mdevice dmirror vmWrite answer window state).2 pfn
    let after :=
      (finalToDevice mdevice dmirror vmWrite answer window state).1 pfn
    (slot.moved = true → ∃ dpfn rpage writable,
      slot.dst.page = some (.devicePrivate mdevice dpfn) ∧
      copied.2.backingPage (.devicePrivate mdevice dpfn) = some rpage ∧
      after = .present (.devicePrivate mdevice dpfn) writable) ∧
    (slot.moved = false → after = state.cpu pfn) := by
  intro copied slot after
  let collected :=
    windowCollected .selectSystem mdevice answer window state.cpu
  have used : ∀ pfn page, (collected.2 pfn).src.page = some page →
      page ∈ state.mem.inUse :=
    fun _ _ => windowCollected_used mdevice answer window settled
  have outcome := dmirrorMigrateAllocAndCopy_cases mdevice dmirror vmWrite
    answer.alloc window.npages (pfnOf window.start) used pfn
  change copied.1 pfn = _ ∨ (copied.1 pfn).src = _ ∧ _ at outcome
  have same : (copied.1 pfn).src = (collected.2 pfn).src := by
    rcases outcome with same | ⟨same, -⟩
    · rw [same]
    · exact same
  obtain ⟨-, target, moves, stays⟩ := windowFinal_moved .selectSystem mdevice
    vmWrite answer window state.cpu copied.1 copied.2 inside same
  refine ⟨?_, stays⟩
  intro moved
  obtain ⟨page, writable, aimed, present⟩ := moves moved
  rcases outcome with unchanged | ⟨-, dpfn, rpfn, done⟩
  · have blank := (windowCollected_from .selectSystem mdevice answer window
      state.cpu pfn).2
    rw [unchanged, show (collected.2 pfn).dst = _ from blank] at aimed
    cases aimed
  · have named : (copied.1 pfn).dst.page =
        some (.devicePrivate mdevice dpfn) :=
      congrArg MigratePfn.page done.dst
    obtain rfl := Option.some.inj (aimed.symm.trans named)
    have kept : slot.dst.page = (copied.1 pfn).dst.page :=
      congrArg MigratePfn.page target
    exact ⟨dpfn, .normal rpfn, writable, kept.trans named, done.backing,
      present⟩

/-- The page has moved and its entry was stored, or the entry that was left
reads the same; a page that has not moved was on the device before, with such
an entry. -/
def Lands (later : Memory Contents) (pfn : Nat) : Prop :=
  let slots := (movedToDevice mdevice dmirror vmWrite answer window state).2
  if (slots pfn).moved then
    StoresThrough slots answer.xaFails (pfnOf window.start) pfn ∨
      ∃ dpage, (slots pfn).dst.page = some dpage ∧
        ReadsAs later (state.pt pfn) dpage
  else Delivered mdevice later (state.cpu pfn) (state.pt pfn)

theorem delivered_iff_lands {state : MigrateState Contents}
    (settled : state.Settled) (alone : answer.others = id)
    {later : Memory Contents} {pfn : Nat} (inside : window.Holds pfn) :
    let after := migrateWindowToDevice mdevice dmirror vmWrite answer window
      state
    (∀ page, (after.cpu pfn).page = some page → page ≠ .zero →
        later.zoneDeviceData page = after.mem.zoneDeviceData page) →
    (Delivered mdevice later (after.cpu pfn) (after.pt pfn) ↔
      Lands mdevice dmirror vmWrite answer window state later pfn) := by
  intro after links
  obtain ⟨moves, stays⟩ := migrateWindowToDevice_moved mdevice dmirror
    vmWrite answer window settled inside
  let copied := copiedToDevice mdevice dmirror vmWrite answer window state
  let slots := (movedToDevice mdevice dmirror vmWrite answer window state).2
  have entry := dmirrorMigrateFinalizeAndMap_at copied.2 slots answer.xaFails
    window.npages (pfnOf window.start) state.pt pfn
  have table : after.pt = (dmirrorMigrateFinalizeAndMap copied.2 slots
      answer.xaFails window.npages (pfnOf window.start) state.pt).1 := by
    rw [show after = _ from migrateWindowToDevice_eq ..]
    dsimp only
    rw [alone]
    rfl
  dsimp only at entry
  rw [← table] at entry
  obtain ⟨stored, kept⟩ := entry
  unfold Lands
  change _ ↔ if (slots pfn).moved then _ else _
  cases moved : (slots pfn).moved with
  | false =>
      rw [if_neg Bool.false_ne_true, show after.cpu pfn = _ from stays moved,
        kept fun all => by rw [moved] at all; cases all.2.2.1]
  | true =>
      obtain ⟨dpfn, rpage, writable, target, backing, present⟩ := moves moved
      have mapped : after.cpu pfn =
          .present (.devicePrivate mdevice dpfn) writable := present
      have delivers : Delivered mdevice later (after.cpu pfn) (after.pt pfn) ↔
          ReadsAs later (after.pt pfn) (.devicePrivate mdevice dpfn) := by
        unfold Delivered
        rw [mapped]
        constructor
        · intro delivered
          obtain ⟨found, writable', same, reads⟩ := delivered
          cases same
          exact reads
        · intro reads
          exact ⟨dpfn, writable, rfl, reads⟩
      rw [if_pos rfl, delivers]
      by_cases stores : StoresThrough slots answer.xaFails
          (pfnOf window.start) pfn
      · have range := (window.holds_iff pfn).mpr inside
        have linked : later.backingPage (.devicePrivate mdevice dpfn) =
            some rpage := by
          have same : later.zoneDeviceData (.devicePrivate mdevice dpfn) =
              copied.2.zoneDeviceData (.devicePrivate mdevice dpfn) := by
            rw [links _ (congrArg Pte.page mapped) nofun]
            exact congrFun (migrateVmaFinalize_mem _ _ _ _).1 _
          unfold Memory.backingPage at backing ⊢
          rw [same]
          exact backing
        have new := stored _ range.1 range.2 moved target stores
        rw [finalizeAndMapEntry, show copied.2.backingPage _ = _ from backing]
          at new
        refine iff_of_true ?_ (.inl stores)
        exact ⟨_, rpage, new, linked, rfl⟩
      · rw [kept fun all => stores all.2.2.2]
        constructor
        · intro reads
          exact .inr ⟨_, target, reads⟩
        · intro lands
          obtain ⟨dpage, aimed, reads⟩ := lands.resolve_left stores
          obtain rfl := Option.some.inj (target.symm.trans aimed)
          exact reads

end ToDevice

/-- The copy loop gives targets to collected pages only, and the targets are
system pages. -/
theorem dmirrorDevmemFaultAllocAndCopy_cases (alloc : Nat → Option Nat)
    (count first : Nat) (state : FaultCopyState Contents) (pfn : Nat) :
    let after := dmirrorDevmemFaultAllocAndCopy alloc count first state
    (after.slots pfn).src = (state.slots pfn).src ∧
      ((after.slots pfn).dst = (state.slots pfn).dst ∨
        (state.slots pfn).src.page.isSome = true ∧
          ∃ frame, (after.slots pfn).dst.page = some (.normal frame)) := by
  apply forEach_keeps (fun after : FaultCopyState Contents =>
    (after.slots pfn).src = (state.slots pfn).src ∧
      ((after.slots pfn).dst = (state.slots pfn).dst ∨
        (state.slots pfn).src.page.isSome = true ∧
          ∃ frame, (after.slots pfn).dst.page = some (.normal frame)))
  · exact ⟨rfl, .inl rfl⟩
  · intro place before _ _ held
    rcases dmirrorDevmemFaultAllocAndCopyOne_cases alloc place before with
      same | ⟨spage, rpage, frame, source, -, -, -, taken⟩
    · rw [same]
      exact held
    · rw [taken]
      by_cases here : pfn = place
      · subst here
        simp only [Function.update_self]
        refine ⟨held.1, .inr ⟨?_, frame, rfl⟩⟩
        rw [← held.1, source]
        rfl
      · simp only [Function.update_of_ne here]
        exact held

theorem pagesCell_untargeted {vmWrite migrated : Bool} {pte : Pte}
    {slot : MigrateSlot} (untargeted : slot.dst.page = none) :
    pagesCell vmWrite migrated (pte, slot) = (pte, slot.refuse) := by
  unfold pagesCell
  simp only [untargeted]

/-- The process maps a page of the device. -/
def Pte.onDevice (mdevice : Nat) : Pte → Bool
  | .present (.devicePrivate owner _) _ => owner = mdevice
  | _ => false

/-- The process maps a page of system memory. -/
def Pte.inSystem : Pte → Bool
  | .present (.normal _) _ => true
  | _ => false

theorem Pte.not_both (mdevice : Nat) (pte : Pte) :
    (pte.onDevice mdevice && pte.inSystem) = false := by
  cases pte with
  | present page writable =>
      cases page <;> simp [Pte.onDevice, Pte.inSystem]
  | _ => rfl

section ToSystem

variable (mdevice : Nat) (vmWrite : Bool) (answer : MigrateAnswer)
  (window : Window) (state : MigrateState Contents)

/-- The window after `dmirror_devmem_fault_alloc_and_copy`. -/
def copiedToSystem : FaultCopyState Contents :=
  dmirrorDevmemFaultAllocAndCopy answer.allocPage window.npages
    (pfnOf window.start)
    ⟨(windowCollected .selectDevicePrivate mdevice answer window
      state.cpu).2, state.mem, answer.others state.pt⟩

/-- The window after `migrate_vma_pages`. -/
def movedToSystem : (Nat → Pte) × (Nat → MigrateSlot) :=
  windowMoved .selectDevicePrivate mdevice vmWrite answer window state.cpu
    (copiedToSystem mdevice answer window state).slots

def finalToSystem : (Nat → Pte) × Memory Contents :=
  windowFinal .selectDevicePrivate mdevice vmWrite answer window state.cpu
    (copiedToSystem mdevice answer window state).slots
    (copiedToSystem mdevice answer window state).mem

theorem migrateWindowToSystem_eq :
    migrateWindowToSystem mdevice vmWrite answer window state =
      { state with
        cpu := (finalToSystem mdevice vmWrite answer window state).1
        mem := (finalToSystem mdevice vmWrite answer window state).2
        pt := (copiedToSystem mdevice answer window state).pt
        cpages := state.cpages + UInt64.ofNat
          (dmirrorSuccessfulMigratedPages
            (movedToSystem mdevice vmWrite answer window state).2
            window.npages (pfnOf window.start)) } := rfl

theorem windowCollected_device {cpu : Nat → Pte} {pfn : Nat} {page : Page}
    (source : ((windowCollected .selectDevicePrivate mdevice answer window
      cpu).2 pfn).src.page = some page) :
    ∃ dpfn, page = .devicePrivate mdevice dpfn := by
  have cell := congrArg Prod.snd (migrateVmaSetup_cell .selectDevicePrivate
    mdevice answer.collected window.npages (pfnOf window.start) cpu pfn)
  dsimp only at cell
  rw [windowCollected, cell] at source
  split at source
  · unfold setupCell at source
    dsimp only at source
    split at source
    · obtain ⟨dpfn, -, device, -⟩ := migrateVmaCollect_private source
      exact ⟨dpfn, device⟩
    · cases source
  · cases source

/-- A window counts the page of an address just when it was on the device
and is in system memory afterwards. -/
theorem migrateWindowToSystem_counted {pfn : Nat}
    (inside : window.Holds pfn) :
    let slot := (movedToSystem mdevice vmWrite answer window state).2 pfn
    let after := migrateWindowToSystem mdevice vmWrite answer window state
    slot.migrated =
      ((state.cpu pfn).onDevice mdevice && (after.cpu pfn).inSystem) := by
  intro slot after
  let collected :=
    windowCollected .selectDevicePrivate mdevice answer window state.cpu
  let copied := copiedToSystem mdevice answer window state
  obtain ⟨same, outcome⟩ := dmirrorDevmemFaultAllocAndCopy_cases
    answer.allocPage window.npages (pfnOf window.start)
    ⟨collected.2, state.mem, answer.others state.pt⟩ pfn
  obtain ⟨source, blank⟩ := windowCollected_from .selectDevicePrivate mdevice
    answer window state.cpu pfn
  obtain ⟨cell, target, moves, stays⟩ := windowFinal_moved
    .selectDevicePrivate mdevice vmWrite answer window state.cpu copied.slots
    copied.mem inside same
  change slot = _ at cell
  change slot.dst = _ at target
  cases moved : slot.moved with
  | false =>
      rw [show after.cpu pfn = _ from stays moved, Pte.not_both]
      by_contra counted
      obtain ⟨_, marked⟩ := Bool.and_eq_true_iff.mp
        (Bool.eq_true_of_not_eq_false counted)
      have untargeted : (copied.slots pfn).dst.page = none := by
        rw [MigrateSlot.moved, marked, target, Bool.true_and] at moved
        exact Option.isNone_iff_eq_none.mp (Option.isSome_eq_false_iff.mp moved)
      rw [cell, pagesCell_untargeted untargeted] at marked
      cases marked
  | true =>
      obtain ⟨page, writable, aimed, present⟩ := moves moved
      rcases outcome with unaimed | ⟨taken, frame, target'⟩
      · rw [show (copied.slots pfn).dst = _ from unaimed.trans blank] at aimed
        cases aimed
      · have normal : page = .normal frame :=
          Option.some.inj (aimed.symm.trans target')
        have mapped : after.cpu pfn = .present page writable := present
        rcases source with ⟨held, found, -, -, before⟩ | ⟨hole, -⟩
        · obtain ⟨dpfn, rfl⟩ :=
            windowCollected_device mdevice answer window found
          obtain ⟨marked, _⟩ := Bool.and_eq_true_iff.mp moved
          have valid : slot.src.page = some (.devicePrivate mdevice dpfn) := by
            have kept := pagesCell_cases vmWrite (answer.migrated pfn)
              (collected.1 pfn) (copied.slots pfn)
            dsimp only at kept
            rw [cell]
            exact kept.2.1.trans ((congrArg MigratePfn.page same).trans found)
          rw [MigrateSlot.migrated, valid, marked, before, mapped, normal]
          simp [Pte.onDevice, Pte.inSystem]
        · rw [show (collected.2 pfn).src.page = _ from hole] at taken
          cases taken

end ToSystem

end Rshm.Hmm
