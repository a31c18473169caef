import Rshm.Hmm.Mirror

/-!
# Page migration as the driver drives it

The two copy loops of `hmm.c` and the `migrate_vma_*` calls around them.  The
calls are modelled by what `migrate_device.c` documents: `setup` collects,
locks and unmaps pages, `pages` decides which of them migrate, `finalize`
puts the migrated or the old page back into the page table.  Trylocks, pins,
allocation results and migration results are answers of the environment, one
for each page number.
-/

namespace Rshm.Hmm

open RangeLoop

variable {Contents : Type}

/-- `MIGRATE_VMA_SELECT_*`. -/
inductive MigrateVmaDirection where
  | selectSystem
  | selectDevicePrivate
  deriving DecidableEq, Repr

/-- `dmirror_devmem_alloc_page` for a private device.  The environment names
the device page and the backing page; one that is taken counts as a failed
allocation. -/
def dmirrorDevmemAllocPage (mdevice : Nat) (mem : Memory Contents) :
    Option (Nat × Nat) → Option Page × Memory Contents
  | none => (none, mem)
  | some (dpfn, rpfn) =>
      let dpage := Page.devicePrivate mdevice dpfn
      let rpage := Page.normal rpfn
      if dpage ∈ mem.inUse ∨ rpage ∈ mem.inUse then (none, mem)
      else
        (some dpage,
          { mem with inUse := insert dpage (insert rpage mem.inUse) }
            |>.setZoneDeviceData dpage (.page rpage))

/-- The source word of one address, as `migrate_vma_collect_pmd` builds it
when the page can be locked and is not pinned. -/
def migrateVmaCollect (flags : MigrateVmaDirection) (pgmapOwner : Nat) :
    Pte → MigratePfn
  | .none => ⟨none, true, false⟩
  | .present page writable =>
      match page, flags with
      | .zero, .selectSystem => ⟨none, true, false⟩
      | .normal _, .selectSystem => ⟨some page, true, writable⟩
      | .devicePrivate mdevice _, .selectDevicePrivate =>
          if mdevice = pgmapOwner then ⟨some page, true, writable⟩
          else .empty
      | _, _ => .empty
  | .migration _ _ => .empty

/-- One address of `migrate_vma_setup`. -/
def migrateVmaSetupOne (flags : MigrateVmaDirection) (pgmapOwner : Nat)
    (collected : Nat → Bool) (pfn : Nat)
    (state : (Nat → Pte) × (Nat → MigrateSlot)) :
    (Nat → Pte) × (Nat → MigrateSlot) :=
  let src :=
    if collected pfn then migrateVmaCollect flags pgmapOwner (state.1 pfn)
    else .empty
  (match src.page with
    | some page => Function.update state.1 pfn (.migration page src.write)
    | none => state.1,
    Function.update state.2 pfn ⟨src, .empty⟩)

/-- `migrate_vma_setup`; both arrays start out zeroed. -/
def migrateVmaSetup (flags : MigrateVmaDirection) (pgmapOwner : Nat)
    (collected : Nat → Bool) (count first : Nat) (cpu : Nat → Pte) :
    (Nat → Pte) × (Nat → MigrateSlot) :=
  forEach (migrateVmaSetupOne flags pgmapOwner collected) count first
    (cpu, fun _ => .empty)

/-- The body of the `dmirror_migrate_alloc_and_copy` loop. -/
def dmirrorMigrateAllocAndCopyOne [Zero Contents] (mdevice dmirror : Nat)
    (vmWrite : Bool) (alloc : Nat → Option (Nat × Nat)) (pfn : Nat)
    (state : (Nat → MigrateSlot) × Memory Contents) :
    (Nat → MigrateSlot) × Memory Contents :=
  let slot := state.1 pfn
  if slot.src.migrate = false then state
  else if slot.src.page.any Page.isZoneDevicePage then state
  else
    match dmirrorDevmemAllocPage mdevice state.2 (alloc pfn) with
    | (none, mem) => (state.1, mem)
    | (some dpage, mem) =>
        match mem.backingPage dpage with
        | none => (state.1, mem)
        | some rpage =>
            let bytes :=
              match slot.src.page with
              | some spage => mem.contents spage
              | none => 0
            let write := slot.src.write || (slot.src.page.isNone && vmWrite)
            (Function.update state.1 pfn
              { slot with dst := ⟨some dpage, false, write⟩ },
              (mem.write rpage bytes).setZoneDeviceData rpage
                (.dmirror dmirror))

def dmirrorMigrateAllocAndCopy [Zero Contents] (mdevice dmirror : Nat)
    (vmWrite : Bool) (alloc : Nat → Option (Nat × Nat)) (count first : Nat)
    (state : (Nat → MigrateSlot) × Memory Contents) :
    (Nat → MigrateSlot) × Memory Contents :=
  forEach (dmirrorMigrateAllocAndCopyOne mdevice dmirror vmWrite alloc)
    count first state

/-- What `dmirror_devmem_fault_alloc_and_copy` works on: the slots, the
memory, and the page table of the mirror it was called for. -/
structure FaultCopyState (Contents : Type) where
  slots : Nat → MigrateSlot
  mem : Memory Contents
  pt : XArray

/-- The body of the `dmirror_devmem_fault_alloc_and_copy` loop. -/
def dmirrorDevmemFaultAllocAndCopyOne (alloc : Nat → Option Nat) (pfn : Nat)
    (state : FaultCopyState Contents) : FaultCopyState Contents :=
  let slot := state.slots pfn
  match slot.src.page with
  | none => state
  | some spage =>
      if slot.src.migrate = false then state
      else if !spage.isDevicePrivatePage && !spage.isDeviceCoherentPage then
        state
      else
        match state.mem.backingPage spage with
        | none => state
        | some rpage =>
            match state.mem.allocPage (alloc pfn) with
            | (none, _) => state
            | (some dpage, mem) =>
                { slots := Function.update state.slots pfn
                    { slot with dst := ⟨some dpage, false, slot.src.write⟩ }
                  mem := mem.write dpage (mem.contents rpage)
                  pt := Function.update state.pt pfn none }

def dmirrorDevmemFaultAllocAndCopy (alloc : Nat → Option Nat)
    (count first : Nat) (state : FaultCopyState Contents) :
    FaultCopyState Contents :=
  forEach (dmirrorDevmemFaultAllocAndCopyOne alloc) count first state

/-- Where `migrate_vma_insert_page` can put a page. -/
def Pte.insertable : Pte → Bool
  | .none => true
  | .present .zero _ => true
  | _ => false

/-- `src &= ~MIGRATE_PFN_MIGRATE`. -/
def MigrateSlot.refuse (slot : MigrateSlot) : MigrateSlot :=
  { slot with src := { slot.src with migrate := false } }

/-- One address of `migrate_vma_pages`. -/
def migrateVmaPagesOne (vmWrite : Bool) (migrated : Nat → Bool) (pfn : Nat)
    (state : (Nat → Pte) × (Nat → MigrateSlot)) :
    (Nat → Pte) × (Nat → MigrateSlot) :=
  let slot := state.2 pfn
  match slot.dst.page with
  | none => (state.1, Function.update state.2 pfn slot.refuse)
  | some newpage =>
      match slot.src.page with
      | some _ =>
          if migrated pfn then state
          else (state.1, Function.update state.2 pfn slot.refuse)
      | none =>
          if slot.src.migrate = false then state
          else if migrated pfn && (state.1 pfn).insertable then
            (Function.update state.1 pfn (.present newpage vmWrite),
              Function.update state.2 pfn
                { slot with src := ⟨none, true, false⟩ })
          else (state.1, Function.update state.2 pfn slot.refuse)

def migrateVmaPages (vmWrite : Bool) (migrated : Nat → Bool)
    (count first : Nat) (state : (Nat → Pte) × (Nat → MigrateSlot)) :
    (Nat → Pte) × (Nat → MigrateSlot) :=
  forEach (migrateVmaPagesOne vmWrite migrated) count first state

/-- One address of `migrate_vma_finalize`.  A page that no page table entry
takes back loses its last reference. -/
def migrateVmaFinalizeOne (slots : Nat → MigrateSlot) (pfn : Nat)
    (state : (Nat → Pte) × Memory Contents) :
    (Nat → Pte) × Memory Contents :=
  let slot := slots pfn
  match slot.src.page, slot.dst.page with
  | none, none => state
  | none, some newpage =>
      if (state.1 pfn).page = some newpage then state
      else (state.1, state.2.putPage newpage)
  | some page, dst =>
      let target := if slot.src.migrate then dst.getD page else page
      let mem :=
        match dst with
        | none => state.2
        | some newpage =>
            state.2.putPage (if slot.src.migrate then page else newpage)
      match state.1 pfn with
      | .migration held writable =>
          if held = page then
            (Function.update state.1 pfn (.present target writable), mem)
          else (state.1, mem.putPage target)
      | _ => (state.1, mem.putPage target)

def migrateVmaFinalize (slots : Nat → MigrateSlot) (count first : Nat)
    (state : (Nat → Pte) × Memory Contents) :
    (Nat → Pte) × Memory Contents :=
  forEach (migrateVmaFinalizeOne slots) count first state

theorem migrateVmaCollect_source {flags : MigrateVmaDirection}
    {pgmapOwner : Nat} {pte : Pte} {page : Page}
    (collected : (migrateVmaCollect flags pgmapOwner pte).page = some page) :
    page ≠ .zero ∧
      pte = .present page (migrateVmaCollect flags pgmapOwner pte).write ∧
      (page.isDevicePrivatePage = true → flags = .selectDevicePrivate) := by
  cases pte with
  | none => cases collected
  | migration held writable => cases collected
  | present held writable =>
      cases held with
      | zero => cases flags <;> cases collected
      | normal pfn =>
          cases flags with
          | selectSystem =>
              cases collected
              exact ⟨nofun, rfl, nofun⟩
          | selectDevicePrivate => cases collected
      | devicePrivate mdevice pfn =>
          cases flags with
          | selectSystem => cases collected
          | selectDevicePrivate =>
              simp only [migrateVmaCollect] at collected ⊢
              split at collected
              · next local_ =>
                cases collected
                exact ⟨nofun, by rw [if_pos local_], fun _ => trivial⟩
              · cases collected
      | deviceCoherent mdevice pfn => cases flags <;> cases collected
      | zoneDevice pfn => cases flags <;> cases collected

/-- What `migrate_vma_setup` collects for the handler. -/
theorem migrateVmaCollect_private {mdevice : Nat} {pte : Pte} {page : Page}
    (collected : (migrateVmaCollect .selectDevicePrivate mdevice pte).page =
      some page) :
    ∃ dpfn writable, page = .devicePrivate mdevice dpfn ∧
      pte = .present (.devicePrivate mdevice dpfn) writable ∧
      migrateVmaCollect .selectDevicePrivate mdevice pte =
        ⟨some page, true, writable⟩ := by
  cases pte with
  | none => cases collected
  | migration held writable => cases collected
  | present held writable =>
      cases held with
      | devicePrivate owner dpfn =>
          simp only [migrateVmaCollect] at collected ⊢
          split at collected
          · next local_ =>
            subst local_
            cases collected
            exact ⟨dpfn, writable, rfl, rfl, by rw [if_pos rfl]⟩
          · cases collected
      | _ => cases collected

/-- What `migrate_vma_setup` makes of one address. -/
def setupCell (flags : MigrateVmaDirection) (pgmapOwner : Nat)
    (collected : Bool) (cell : Pte × MigrateSlot) : Pte × MigrateSlot :=
  let src :=
    if collected then migrateVmaCollect flags pgmapOwner cell.1 else .empty
  (match src.page with
    | some page => .migration page src.write
    | none => cell.1, ⟨src, .empty⟩)

theorem migrateVmaSetup_cell (flags : MigrateVmaDirection)
    (pgmapOwner : Nat) (collected : Nat → Bool) (count first : Nat)
    (cpu : Nat → Pte) (pfn : Nat) :
    let after := migrateVmaSetup flags pgmapOwner collected count first cpu
    (after.1 pfn, after.2 pfn) =
      if first ≤ pfn ∧ pfn < first + count then
        setupCell flags pgmapOwner (collected pfn) (cpu pfn, .empty)
      else (cpu pfn, .empty) := by
  apply forEach_cell
    (fun (state : (Nat → Pte) × (Nat → MigrateSlot)) pfn =>
      (state.1 pfn, state.2 pfn))
    (fun pfn => setupCell flags pgmapOwner (collected pfn))
  · intro index state
    unfold migrateVmaSetupOne setupCell
    dsimp only
    generalize (if collected index then _ else _) = src
    cases locked : src.page <;> simp
  · intro index state other different
    unfold migrateVmaSetupOne
    dsimp only
    generalize (if collected index then _ else _) = src
    cases locked : src.page <;> simp [different]

/-- One pass of `dmirror_migrate_alloc_and_copy` leaves everything as it is,
or takes a device page with its backing page and copies into the latter. -/
theorem dmirrorMigrateAllocAndCopyOne_cases [Zero Contents]
    (mdevice dmirror : Nat) (vmWrite : Bool)
    (alloc : Nat → Option (Nat × Nat)) (pfn : Nat)
    (slots : Nat → MigrateSlot) (mem : Memory Contents) :
    dmirrorMigrateAllocAndCopyOne mdevice dmirror vmWrite alloc pfn
        (slots, mem) = (slots, mem) ∨
      ∃ dpfn rpfn, (slots pfn).src.migrate = true ∧
        Page.devicePrivate mdevice dpfn ∉ mem.inUse ∧
        Page.normal rpfn ∉ mem.inUse ∧
        dmirrorMigrateAllocAndCopyOne mdevice dmirror vmWrite alloc pfn
            (slots, mem) =
          (Function.update slots pfn
            { slots pfn with
              dst := ⟨some (.devicePrivate mdevice dpfn), false,
                (slots pfn).src.write ||
                  ((slots pfn).src.page.isNone && vmWrite)⟩ },
          { contents := Function.update mem.contents (.normal rpfn)
              ((slots pfn).src.page.elim 0 mem.contents)
            zoneDeviceData := Function.update
              (Function.update mem.zoneDeviceData
                (.devicePrivate mdevice dpfn) (.page (.normal rpfn)))
              (.normal rpfn) (.dmirror dmirror)
            inUse := insert (.devicePrivate mdevice dpfn)
              (insert (.normal rpfn) mem.inUse) }) := by
  unfold dmirrorMigrateAllocAndCopyOne
  dsimp only
  cases marked : (slots pfn).src.migrate with
  | false => exact .inl (if_pos rfl)
  | true =>
      rw [if_neg (by decide)]
      split
      · exact .inl rfl
      · cases answer : alloc pfn with
        | none => exact .inl rfl
        | some pair =>
            obtain ⟨dpfn, rpfn⟩ := pair
            unfold dmirrorDevmemAllocPage
            dsimp only
            by_cases taken : Page.devicePrivate mdevice dpfn ∈ mem.inUse ∨
                Page.normal rpfn ∈ mem.inUse
            · rw [if_pos taken]
              exact .inl rfl
            · rw [if_neg taken]
              obtain ⟨unused, unused'⟩ := not_or.mp taken
              refine .inr ⟨dpfn, rpfn, rfl, unused, unused', ?_⟩
              simp only [Memory.backingPage, Page.isDevicePrivatePage,
                Memory.setZoneDeviceData, Memory.write,
                Function.update_self, if_true]
              cases (slots pfn).src.page <;> rfl

/-- One pass of `dmirror_devmem_fault_alloc_and_copy` leaves everything as
it is, or takes a system page, copies into it, and erases the entry of the
mirror. -/
theorem dmirrorDevmemFaultAllocAndCopyOne_cases
    (alloc : Nat → Option Nat) (pfn : Nat)
    (state : FaultCopyState Contents) :
    dmirrorDevmemFaultAllocAndCopyOne alloc pfn state = state ∨
      ∃ spage rpage frame, (state.slots pfn).src.page = some spage ∧
        (state.slots pfn).src.migrate = true ∧
        state.mem.backingPage spage = some rpage ∧
        Page.normal frame ∉ state.mem.inUse ∧
        dmirrorDevmemFaultAllocAndCopyOne alloc pfn state =
          { slots := Function.update state.slots pfn
              { state.slots pfn with
                dst := ⟨some (.normal frame), false,
                  (state.slots pfn).src.write⟩ }
            mem :=
              { contents := Function.update state.mem.contents
                  (.normal frame) (state.mem.contents rpage)
                zoneDeviceData := state.mem.zoneDeviceData
                inUse := insert (.normal frame) state.mem.inUse }
            pt := Function.update state.pt pfn none } := by
  unfold dmirrorDevmemFaultAllocAndCopyOne
  dsimp only
  cases source : (state.slots pfn).src.page with
  | none => exact .inl rfl
  | some spage =>
      dsimp only
      cases marked : (state.slots pfn).src.migrate with
      | false => exact .inl (if_pos rfl)
      | true =>
          rw [if_neg (by decide)]
          split
          · exact .inl rfl
          · cases link : state.mem.backingPage spage with
            | none => exact .inl rfl
            | some rpage =>
                dsimp only
                cases answer : alloc pfn with
                | none => exact .inl rfl
                | some frame =>
                    unfold Memory.allocPage
                    by_cases taken : Page.normal frame ∈ state.mem.inUse
                    · simp only [taken, if_true]
                      exact .inl trivial
                    · simp only [taken, if_false]
                      exact .inr ⟨spage, rpage, frame, rfl, trivial, link,
                        taken, rfl⟩

/-- What `migrate_vma_pages` makes of one address. -/
def pagesCell (vmWrite migrated : Bool) (cell : Pte × MigrateSlot) :
    Pte × MigrateSlot :=
  match cell.2.dst.page with
  | none => (cell.1, cell.2.refuse)
  | some newpage =>
      match cell.2.src.page with
      | some _ => if migrated then cell else (cell.1, cell.2.refuse)
      | none =>
          if cell.2.src.migrate = false then cell
          else if migrated && cell.1.insertable then
            (.present newpage vmWrite,
              { cell.2 with src := ⟨none, true, false⟩ })
          else (cell.1, cell.2.refuse)

theorem migrateVmaPages_cell (vmWrite : Bool) (migrated : Nat → Bool)
    (count first : Nat) (state : (Nat → Pte) × (Nat → MigrateSlot))
    (pfn : Nat) :
    let after := migrateVmaPages vmWrite migrated count first state
    (after.1 pfn, after.2 pfn) =
      if first ≤ pfn ∧ pfn < first + count then
        pagesCell vmWrite (migrated pfn) (state.1 pfn, state.2 pfn)
      else (state.1 pfn, state.2 pfn) := by
  apply forEach_cell
    (fun (state : (Nat → Pte) × (Nat → MigrateSlot)) pfn =>
      (state.1 pfn, state.2 pfn))
    (fun pfn => pagesCell vmWrite (migrated pfn))
  · intro index state
    unfold migrateVmaPagesOne pagesCell
    dsimp only
    repeat' split
    all_goals simp_all
  · intro index state other different
    unfold migrateVmaPagesOne
    dsimp only
    repeat' split
    all_goals simp [different]

/-- `migrate_vma_pages` changes the page table at an empty address only,
where it puts in the target. -/
theorem pagesCell_cases (vmWrite migrated : Bool) (pte : Pte)
    (slot : MigrateSlot) :
    let after := pagesCell vmWrite migrated (pte, slot)
    after.2.dst = slot.dst ∧ after.2.src.page = slot.src.page ∧
      (after.1 = pte ∧
          ¬(after.2.src.page = none ∧ after.2.src.migrate = true) ∨
        ∃ newpage, slot.dst.page = some newpage ∧ slot.src.page = none ∧
          slot.src.migrate = true ∧ pte.insertable = true ∧
          after.2.src.migrate = true ∧
          after.1 = .present newpage vmWrite) := by
  unfold pagesCell MigrateSlot.refuse
  dsimp only
  cases target : slot.dst.page with
  | none => simp
  | some newpage =>
      cases source : slot.src.page with
      | some page =>
          dsimp only
          split <;> simp [source]
      | none =>
          dsimp only
          split
          · next unmarked => simp [source, unmarked]
          · next marked =>
            split
            · next chosen =>
              simp only [Bool.and_eq_true] at chosen
              simp only [Bool.not_eq_false] at marked
              exact ⟨rfl, rfl, .inr ⟨newpage, rfl, rfl, marked, chosen.2, rfl,
                rfl⟩⟩
            · simp

/-- `migrate_vma_pages` marks no slot that was not marked. -/
theorem pagesCell_moved (vmWrite migrated : Bool) (pte : Pte)
    {slot : MigrateSlot}
    (moved : (pagesCell vmWrite migrated (pte, slot)).2.moved = true) :
    slot.moved = true := by
  unfold pagesCell MigrateSlot.refuse at moved
  dsimp only at moved
  repeat' split at moved
  all_goals simp_all [MigrateSlot.moved]

/-- What `migrate_vma_finalize` makes of one page table entry. -/
def finalizePte (slot : MigrateSlot) (pte : Pte) : Pte :=
  match slot.src.page, pte with
  | some page, .migration held writable =>
      if held = page then
        .present (if slot.src.migrate then slot.dst.page.getD page else page)
          writable
      else pte
  | _, _ => pte

theorem migrateVmaFinalize_pte (slots : Nat → MigrateSlot)
    (count first : Nat) (state : (Nat → Pte) × Memory Contents) (pfn : Nat) :
    (migrateVmaFinalize slots count first state).1 pfn =
      if first ≤ pfn ∧ pfn < first + count then
        finalizePte (slots pfn) (state.1 pfn)
      else state.1 pfn := by
  apply forEach_cell
    (fun (state : (Nat → Pte) × Memory Contents) pfn => state.1 pfn)
    (fun pfn => finalizePte (slots pfn))
  · intro index state
    unfold migrateVmaFinalizeOne finalizePte
    dsimp only
    repeat' split
    all_goals simp_all
  · intro index state other different
    unfold migrateVmaFinalizeOne
    dsimp only
    repeat' split
    all_goals simp [different]

theorem migrateVmaFinalizeOne_mem (slots : Nat → MigrateSlot) (pfn : Nat)
    (state : (Nat → Pte) × Memory Contents) :
    (migrateVmaFinalizeOne slots pfn state).2.zoneDeviceData =
        state.2.zoneDeviceData ∧
      (migrateVmaFinalizeOne slots pfn state).2.contents =
        state.2.contents := by
  unfold migrateVmaFinalizeOne
  dsimp only
  repeat' split
  all_goals simp

theorem migrateVmaFinalize_mem (slots : Nat → MigrateSlot)
    (count first : Nat) (state : (Nat → Pte) × Memory Contents) :
    (migrateVmaFinalize slots count first state).2.zoneDeviceData =
        state.2.zoneDeviceData ∧
      (migrateVmaFinalize slots count first state).2.contents =
        state.2.contents := by
  apply forEach_keeps (fun after : (Nat → Pte) × Memory Contents =>
    after.2.zoneDeviceData = state.2.zoneDeviceData ∧
      after.2.contents = state.2.contents)
  · exact ⟨rfl, rfl⟩
  · intro index before _ _ held
    obtain ⟨links, contents⟩ := migrateVmaFinalizeOne_mem slots index before
    exact ⟨links.trans held.1, contents.trans held.2⟩

end Rshm.Hmm
