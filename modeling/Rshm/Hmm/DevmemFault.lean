import Rshm.Hmm.RoundTrip

/-!
# A CPU fault on device memory

`dmirror_devmem_fault` hears of a failed setup only.  Whether the page could
be collected, a system page be had and the migration be made stands in the
`src` and `dst` words, and the handler returns 0 without looking at them.
-/

namespace Rshm.Hmm

open RangeLoop

variable {Contents : Type}

/-- The errors of `vm_fault_t` that the handler returns. -/
inductive VmFaultError where
  | sigbus
  deriving DecidableEq, Repr

/-- `struct vm_fault`: the device page and the page number of the fault. -/
structure VmFault where
  page : Page
  pfn : Nat
  vmWrite : Bool

/-- How the calls of `dmirror_devmem_fault` go. -/
structure FaultAnswer where
  setup : Option Errno
  collected : Bool
  alloc : Option Nat
  migrated : Bool

/-- What the handler works on. -/
structure FaultWorld (Contents : Type) where
  cpu : Nat → Pte
  mem : Memory Contents
  dmirror : Nat → Dmirror

/-- How the handler ends.  `slot` are `src_pfns` and `dst_pfns`, and
`finalized` records the call of `migrate_vma_finalize`. -/
structure FaultResult (Contents : Type) where
  ret : Option VmFaultError
  world : FaultWorld Contents
  slot : MigrateSlot
  finalized : Bool

/-- `dmirror_devmem_fault_alloc_and_copy` with its return value, which is
always 0. -/
def devmemFaultAllocAndCopy (alloc : Nat → Option Nat) (count first : Nat)
    (state : FaultCopyState Contents) :
    FaultCopyState Contents × Option VmFaultError :=
  (dmirrorDevmemFaultAllocAndCopy alloc count first state, none)

/-- `dmirror_devmem_fault`; `none` when the page leads to no mirror. -/
def dmirrorDevmemFault (vmf : VmFault) (answer : FaultAnswer)
    (world : FaultWorld Contents) : Option (FaultResult Contents) :=
  match world.mem.zoneDeviceData vmf.page with
  | .page rpage =>
      match world.mem.zoneDeviceData rpage with
      | .dmirror m =>
          match answer.setup with
          | some _ => some ⟨some .sigbus, world, .empty, false⟩
          | none =>
              let dmirror := world.dmirror m
              let collected := migrateVmaSetup .selectDevicePrivate
                dmirror.mdevice (fun _ => answer.collected) 1 vmf.pfn
                world.cpu
              let copied := devmemFaultAllocAndCopy (fun _ => answer.alloc) 1
                vmf.pfn ⟨collected.2, world.mem, dmirror.pt⟩
              let mirrors := Function.update world.dmirror m
                { dmirror with pt := copied.1.pt }
              match copied.2 with
              | some error =>
                  some ⟨some error, ⟨collected.1, copied.1.mem, mirrors⟩,
                    copied.1.slots vmf.pfn, false⟩
              | none =>
                  let moved := migrateVmaPages vmf.vmWrite
                    (fun _ => answer.migrated) 1 vmf.pfn
                    (collected.1, copied.1.slots)
                  let final := migrateVmaFinalize moved.2 1 vmf.pfn
                    (moved.1, copied.1.mem)
                  some ⟨none, ⟨final.1, final.2, mirrors⟩, moved.2 vmf.pfn,
                    true⟩
      | _ => none
  | _ => none

/-- The page was migrated: after `migrate_vma_pages` its source word is still
valid and marked. -/
def MigrateSlot.migrated (slot : MigrateSlot) : Bool :=
  slot.src.page.isSome && slot.src.migrate

/-- The handler returns 0 only for a page that has been migrated and
`VM_FAULT_SIGBUS` otherwise, it finalizes what it has set up, and it leaves
no page locked and unmapped. -/
structure FaultReported (answer : FaultAnswer) (world : FaultWorld Contents)
    (result : FaultResult Contents) : Prop where
  honest : result.ret = none → result.slot.migrated = true
  sigbus : result.slot.migrated = false → result.ret = some .sigbus
  finalized : answer.setup = none → result.finalized = true
  unlocked : ∀ place held writable,
    result.world.cpu place = .migration held writable →
    world.cpu place = .migration held writable

/-- The page can be brought back: it is a collected page of the mirror's
device, there is a system page for it, and the migration of it works. -/
def Returnable (vmf : VmFault) (answer : FaultAnswer)
    (world : FaultWorld Contents) (mdevice : Nat) : Prop :=
  ∃ dpfn writable rpage frame,
    world.cpu vmf.pfn = .present (.devicePrivate mdevice dpfn) writable ∧
    answer.collected = true ∧
    world.mem.backingPage (.devicePrivate mdevice dpfn) = some rpage ∧
    answer.alloc = some frame ∧ Page.normal frame ∉ world.mem.inUse ∧
    answer.migrated = true

theorem devmemFaultAllocAndCopy_target (alloc : Nat → Option Nat)
    {pfn dpfn mdevice : Nat} {write : Bool} (state : FaultCopyState Contents)
    (source : state.slots pfn =
      ⟨⟨some (.devicePrivate mdevice dpfn), true, write⟩, .empty⟩) :
    let after := (devmemFaultAllocAndCopy alloc 1 pfn state).1
    (after.slots pfn).src = (state.slots pfn).src ∧
      ((after.slots pfn).dst.page.isSome = true ↔
        ∃ rpage frame,
          state.mem.backingPage (.devicePrivate mdevice dpfn) = some rpage ∧
          alloc pfn = some frame ∧ Page.normal frame ∉ state.mem.inUse) := by
  intro after
  have unfolded : after = dmirrorDevmemFaultAllocAndCopyOne alloc pfn state :=
    rfl
  clear_value after
  subst unfolded
  unfold dmirrorDevmemFaultAllocAndCopyOne
  simp only [source, Bool.true_eq_false, if_false, Page.isDevicePrivatePage,
    Bool.not_true, Bool.false_and, Bool.false_eq_true]
  cases backing : state.mem.backingPage (.devicePrivate mdevice dpfn) with
  | none => simp [source, MigratePfn.empty]
  | some rpage =>
      dsimp only
      cases answer : alloc pfn with
      | none => simp [source, Memory.allocPage, MigratePfn.empty]
      | some frame =>
          by_cases taken : Page.normal frame ∈ state.mem.inUse
          · simp [source, Memory.allocPage, taken, MigratePfn.empty]
          · simp [Memory.allocPage, taken]

theorem devmemFaultAllocAndCopy_hole {alloc : Nat → Option Nat} {pfn : Nat}
    (state : FaultCopyState Contents)
    (hole : (state.slots pfn).src.page = none) :
    (devmemFaultAllocAndCopy alloc 1 pfn state).1 = state := by
  change dmirrorDevmemFaultAllocAndCopyOne alloc pfn state = state
  unfold dmirrorDevmemFaultAllocAndCopyOne
  simp only [hole]

section Handler

variable (vmf : VmFault) (answer : FaultAnswer) (world : FaultWorld Contents)
  (mdevice : Nat) (pt : XArray)

def faultCollected : (Nat → Pte) × (Nat → MigrateSlot) :=
  migrateVmaSetup .selectDevicePrivate mdevice (fun _ => answer.collected) 1
    vmf.pfn world.cpu

def faultCopied : FaultCopyState Contents :=
  (devmemFaultAllocAndCopy (fun _ => answer.alloc) 1 vmf.pfn
    ⟨(faultCollected vmf answer world mdevice).2, world.mem, pt⟩).1

def faultMoved : (Nat → Pte) × (Nat → MigrateSlot) :=
  migrateVmaPages vmf.vmWrite (fun _ => answer.migrated) 1 vmf.pfn
    ((faultCollected vmf answer world mdevice).1,
      (faultCopied vmf answer world mdevice pt).slots)

/-- The setup collects a page of the device, or there is nothing to copy. -/
theorem faultCollected_cases :
    (∃ dpfn writable, answer.collected = true ∧
      world.cpu vmf.pfn = .present (.devicePrivate mdevice dpfn) writable ∧
      (faultCollected vmf answer world mdevice).1 vmf.pfn =
        .migration (.devicePrivate mdevice dpfn) writable ∧
      (faultCollected vmf answer world mdevice).2 vmf.pfn =
        ⟨⟨some (.devicePrivate mdevice dpfn), true, writable⟩, .empty⟩) ∨
    ((∀ dpfn writable, answer.collected = true →
        world.cpu vmf.pfn ≠ .present (.devicePrivate mdevice dpfn) writable) ∧
      (faultCollected vmf answer world mdevice).1 vmf.pfn =
        world.cpu vmf.pfn ∧
      ((faultCollected vmf answer world mdevice).2 vmf.pfn).src.page = none ∧
      ((faultCollected vmf answer world mdevice).2 vmf.pfn).dst = .empty) := by
  have cell := migrateVmaSetup_cell .selectDevicePrivate mdevice
    (fun _ => answer.collected) 1 vmf.pfn world.cpu vmf.pfn
  rw [if_pos ⟨Nat.le_refl _, Nat.lt_succ_self _⟩] at cell
  obtain ⟨entry, slot⟩ := Prod.mk.inj cell
  change (faultCollected vmf answer world mdevice).1 vmf.pfn = _ at entry
  change (faultCollected vmf answer world mdevice).2 vmf.pfn = _ at slot
  rw [entry, slot]
  dsimp only
  cases chosen : answer.collected with
  | false =>
      refine .inr ⟨nofun, ?_⟩
      simp [MigratePfn.empty]
  | true =>
      rw [if_pos rfl]
      cases source : (migrateVmaCollect .selectDevicePrivate mdevice
          (world.cpu vmf.pfn)).page with
      | none =>
          refine .inr ⟨?_, rfl, rfl, rfl⟩
          intro dpfn writable _ present
          rw [present] at source
          simp [migrateVmaCollect] at source
      | some page =>
          obtain ⟨dpfn, writable, rfl, present, word⟩ :=
            migrateVmaCollect_private source
          refine .inl ⟨dpfn, writable, rfl, present, ?_, ?_⟩
          · rw [word]
          · rw [word]

theorem faultMoved_cell :
    ((faultMoved vmf answer world mdevice pt).1 vmf.pfn,
      (faultMoved vmf answer world mdevice pt).2 vmf.pfn) =
      pagesCell vmf.vmWrite answer.migrated
        ((faultCollected vmf answer world mdevice).1 vmf.pfn,
          (faultCopied vmf answer world mdevice pt).slots vmf.pfn) := by
  have cell := migrateVmaPages_cell vmf.vmWrite (fun _ => answer.migrated) 1
    vmf.pfn ((faultCollected vmf answer world mdevice).1,
      (faultCopied vmf answer world mdevice pt).slots) vmf.pfn
  rw [if_pos ⟨Nat.le_refl _, Nat.lt_succ_self _⟩] at cell
  exact cell

omit vmf answer world mdevice pt in
/-- A page is migrated when it has a target and its migration works. -/
theorem pagesCell_migrated {vmWrite migrated write : Bool} {pte : Pte}
    {slot : MigrateSlot} {page : Page}
    (source : slot.src = ⟨some page, true, write⟩) :
    (pagesCell vmWrite migrated (pte, slot)).2.migrated = true ↔
      slot.dst.page.isSome = true ∧ migrated = true := by
  unfold pagesCell MigrateSlot.migrated MigrateSlot.refuse
  cases target : slot.dst.page with
  | none => simp [source]
  | some dpage => cases migrated <;> simp [source]

theorem faultMoved_migrated :
    ((faultMoved vmf answer world mdevice pt).2 vmf.pfn).migrated = true ↔
      Returnable vmf answer world mdevice := by
  have moved : (faultMoved vmf answer world mdevice pt).2 vmf.pfn =
      (pagesCell vmf.vmWrite answer.migrated
        ((faultCollected vmf answer world mdevice).1 vmf.pfn,
          (faultCopied vmf answer world mdevice pt).slots vmf.pfn)).2 :=
    congrArg Prod.snd (faultMoved_cell vmf answer world mdevice pt)
  rcases faultCollected_cases vmf answer world mdevice with
    ⟨dpfn, writable, chosen, present, entry, slot⟩ |
      ⟨absent, entry, hole, untargeted⟩
  · obtain ⟨source, target⟩ := devmemFaultAllocAndCopy_target
      (fun _ => answer.alloc)
      ⟨(faultCollected vmf answer world mdevice).2, world.mem, pt⟩ slot
    change ((faultCopied vmf answer world mdevice pt).slots vmf.pfn).src = _
      at source
    change ((faultCopied vmf answer world mdevice pt).slots
      vmf.pfn).dst.page.isSome = true ↔ _ at target
    dsimp only at source target
    rw [slot] at source
    rw [moved, pagesCell_migrated source, target]
    constructor
    · rintro ⟨⟨rpage, frame, backing, allocated, unused⟩, migrated⟩
      exact ⟨dpfn, writable, rpage, frame, present, chosen, backing,
        allocated, unused, migrated⟩
    · rintro ⟨dpfn', writable', rpage, frame, present', -, backing,
        allocated, unused, migrated⟩
      rw [present] at present'
      cases present'
      exact ⟨⟨rpage, frame, backing, allocated, unused⟩, migrated⟩
  · have source : ((faultMoved vmf answer world mdevice pt).2
        vmf.pfn).src.page = none := by
      have copied : faultCopied vmf answer world mdevice pt = _ :=
        devmemFaultAllocAndCopy_hole _ hole
      have cases_ := pagesCell_cases vmf.vmWrite answer.migrated
        ((faultCollected vmf answer world mdevice).1 vmf.pfn)
        ((faultCopied vmf answer world mdevice pt).slots vmf.pfn)
      rw [moved, cases_.2.1, copied]
      exact hole
    constructor
    · intro migrated
      simp [MigrateSlot.migrated, source] at migrated
    · rintro ⟨dpfn, writable, -, -, present, chosen, -⟩
      exact absurd present (absent dpfn writable chosen)

/-- `migrate_vma_finalize` puts a page back into each entry that the setup
took one out of. -/
theorem faultMoved_unlocked (place : Nat) (held : Page) (writable : Bool)
    (locked : (migrateVmaFinalize (faultMoved vmf answer world mdevice pt).2 1
      vmf.pfn ((faultMoved vmf answer world mdevice pt).1,
        (faultCopied vmf answer world mdevice pt).mem)).1 place =
          .migration held writable) :
    world.cpu place = .migration held writable := by
  rw [migrateVmaFinalize_pte] at locked
  by_cases here : place = vmf.pfn
  · subst here
    rw [if_pos ⟨Nat.le_refl _, Nat.lt_succ_self _⟩] at locked
    dsimp only at locked
    have cell := faultMoved_cell vmf answer world mdevice pt
    have cases_ := pagesCell_cases vmf.vmWrite answer.migrated
      ((faultCollected vmf answer world mdevice).1 vmf.pfn)
      ((faultCopied vmf answer world mdevice pt).slots vmf.pfn)
    dsimp only at cases_
    rw [← cell] at cases_
    obtain ⟨-, source, outcome⟩ := cases_
    dsimp only at source outcome
    rcases faultCollected_cases vmf answer world mdevice with
      ⟨dpfn, write, -, -, entry, slot⟩ | ⟨-, entry, hole, untargeted⟩
    · have copied := (devmemFaultAllocAndCopy_target (fun _ => answer.alloc)
        ⟨(faultCollected vmf answer world mdevice).2, world.mem, pt⟩ slot).1
      change ((faultCopied vmf answer world mdevice pt).slots vmf.pfn).src = _
        at copied
      dsimp only at copied
      rw [copied, slot] at source
      rcases outcome with ⟨stays, -⟩ | ⟨_, -, none_, -⟩
      · rw [stays, entry] at locked
        unfold finalizePte at locked
        rw [source] at locked
        simp at locked
      · rw [copied, slot] at none_
        cases none_
    · have copied : faultCopied vmf answer world mdevice pt = _ :=
        devmemFaultAllocAndCopy_hole _ hole
      rw [copied] at source outcome
      dsimp only at source outcome
      rw [hole] at source
      rcases outcome with ⟨stays, -⟩ | ⟨newpage, target, -⟩
      · rw [stays, entry] at locked
        unfold finalizePte at locked
        rw [source] at locked
        exact locked
      · rw [untargeted] at target
        cases target
  · have outside : ¬(vmf.pfn ≤ place ∧ place < vmf.pfn + 1) := by omega
    rw [if_neg outside] at locked
    have pages := migrateVmaPages_cell vmf.vmWrite (fun _ => answer.migrated)
      1 vmf.pfn ((faultCollected vmf answer world mdevice).1,
        (faultCopied vmf answer world mdevice pt).slots) place
    have setup := migrateVmaSetup_cell .selectDevicePrivate mdevice
      (fun _ => answer.collected) 1 vmf.pfn world.cpu place
    rw [if_neg outside] at pages setup
    have pages := (Prod.mk.inj pages).1
    have setup := (Prod.mk.inj setup).1
    change (faultMoved vmf answer world mdevice pt).1 place = _ at pages
    change (faultCollected vmf answer world mdevice).1 place = _ at setup
    rw [pages] at locked
    exact setup.symm.trans locked

end Handler

/-- The fault handler reports what has become of the page just when its setup
fails or the page can be brought back. -/
theorem devmem_fault_reported_iff (vmf : VmFault) (answer : FaultAnswer)
    (world : FaultWorld Contents) (rpage : Page) (m : Nat)
    (backed : world.mem.zoneDeviceData vmf.page = .page rpage)
    (mirrored : world.mem.zoneDeviceData rpage = .dmirror m) :
    ∃ result, dmirrorDevmemFault vmf answer world = some result ∧
      (FaultReported answer world result ↔
        answer.setup ≠ none ∨
          Returnable vmf answer world (world.dmirror m).mdevice) := by
  unfold dmirrorDevmemFault
  rw [backed]
  dsimp only
  rw [mirrored]
  dsimp only
  cases setup : answer.setup with
  | some errno =>
      refine ⟨_, rfl, ?_⟩
      constructor
      · intro _
        exact .inl nofun
      · intro _
        refine ⟨nofun, fun _ => rfl, ?_, fun _ _ _ locked => locked⟩
        rw [setup]
        exact nofun
  | none =>
      have migrated := faultMoved_migrated vmf answer world
        (world.dmirror m).mdevice (world.dmirror m).pt
      have unlocked := faultMoved_unlocked vmf answer world
        (world.dmirror m).mdevice (world.dmirror m).pt
      refine ⟨_, rfl, ?_⟩
      constructor
      · intro reported
        exact .inr (migrated.mp (reported.honest rfl))
      · rintro (fails | returnable)
        · exact absurd rfl fails
        · have moved := migrated.mpr returnable
          refine ⟨fun _ => moved, ?_, fun _ => rfl, unlocked⟩
          intro unmoved
          exact absurd (moved.symm.trans unmoved) (by decide)

/-- Page 3 of the process is on device 0, backed by frame 20. -/
def faultWorld : FaultWorld Nat where
  cpu := fun pfn =>
    if pfn = 3 then .present (.devicePrivate 0 7) true else .none
  mem :=
    { contents := fun _ => 0
      zoneDeviceData := fun page =>
        if page = .devicePrivate 0 7 then .page (.normal 20)
        else if page = .normal 20 then .dmirror 1
        else .null
      inUse := {.devicePrivate 0 7, .normal 20} }
  dmirror := fun _ => ⟨0, 0, fun _ => none, 0⟩

theorem devmem_fault_returns :
    ∃ result, dmirrorDevmemFault ⟨.devicePrivate 0 7, 3, true⟩
        ⟨none, true, some 30, true⟩ faultWorld = some result ∧
      FaultReported ⟨none, true, some 30, true⟩ faultWorld result := by
  obtain ⟨result, handled, reported⟩ := devmem_fault_reported_iff
    ⟨.devicePrivate 0 7, 3, true⟩ ⟨none, true, some 30, true⟩ faultWorld
    (.normal 20) 1 (by decide) (by decide)
  refine ⟨result, handled, reported.mpr (.inr ?_)⟩
  exact ⟨7, true, .normal 20, 30, by decide, by decide, by decide,
    by decide, by decide, by decide⟩

/-- There is no system page for it, and the fault is reported as handled. -/
theorem devmem_fault_loses_failure :
    ¬∀ (vmf : VmFault) (answer : FaultAnswer) (world : FaultWorld Nat) result,
      dmirrorDevmemFault vmf answer world = some result →
      FaultReported answer world result := by
  intro always
  have ends : (dmirrorDevmemFault ⟨.devicePrivate 0 7, 3, true⟩
      ⟨none, true, none, true⟩ faultWorld).map
        (fun result => (result.ret, result.slot.migrated)) =
      some (none, false) := by decide
  cases handled : dmirrorDevmemFault ⟨.devicePrivate 0 7, 3, true⟩
      ⟨none, true, none, true⟩ faultWorld with
  | none =>
      rw [handled] at ends
      cases ends
  | some result =>
      rw [handled, Option.map_some, Option.some.injEq, Prod.mk.injEq] at ends
      have honest := (always _ _ _ result handled).honest ends.1
      rw [ends.2] at honest
      cases honest

end Rshm.Hmm
