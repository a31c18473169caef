import Mathlib.Algebra.GroupWithZero.Nat
import Rshm.Hmm.Migrate

/-!
# To the device and back

The three copy loops walk arrays with a slot for each address.  Each pass
works on its own slot and only takes pages that are not in use, so what one
pass has copied the later ones leave alone, and copying back undoes it.
-/

namespace Rshm.Hmm

open RangeLoop

variable {Contents : Type}

/-- Pages in use stay in use and are not written. -/
structure Memory.Extends (mem later : Memory Contents) : Prop where
  inUse : mem.inUse ⊆ later.inUse
  contents : ∀ page ∈ mem.inUse, later.contents page = mem.contents page
  links : ∀ page ∈ mem.inUse,
    later.zoneDeviceData page = mem.zoneDeviceData page

namespace Memory.Extends

theorem refl (mem : Memory Contents) : mem.Extends mem :=
  ⟨Finset.Subset.refl _, fun _ _ => rfl, fun _ _ => rfl⟩

theorem trans {mem between later : Memory Contents}
    (first : mem.Extends between) (second : between.Extends later) :
    mem.Extends later := by
  refine ⟨first.inUse.trans second.inUse, ?_, ?_⟩
  · intro page used
    rw [second.contents page (first.inUse used), first.contents page used]
  · intro page used
    rw [second.links page (first.inUse used), first.links page used]

theorem backingPage {mem later : Memory Contents}
    (extends_ : mem.Extends later) {page : Page} (used : page ∈ mem.inUse) :
    later.backingPage page = mem.backingPage page := by
  unfold Memory.backingPage
  rw [extends_.links page used]

end Memory.Extends

/-- The slots that `dmirror_migrate_alloc_and_copy` does not skip. -/
def MigrateSlot.selected (slot : MigrateSlot) : Bool :=
  slot.src.migrate && !slot.src.page.any Page.isZoneDevicePage

/-- `dmirror_devmem_alloc_page` takes two pages that are not in use. -/
theorem dmirrorDevmemAllocPage_some {mdevice : Nat} {mem : Memory Contents}
    {answer : Option (Nat × Nat)} {dpage : Page}
    (allocated : (dmirrorDevmemAllocPage mdevice mem answer).1 =
      some dpage) :
    ∃ dpfn rpfn, answer = some (dpfn, rpfn) ∧
      dpage = .devicePrivate mdevice dpfn ∧
      Page.devicePrivate mdevice dpfn ∉ mem.inUse ∧
      Page.normal rpfn ∉ mem.inUse := by
  cases answer with
  | none => cases allocated
  | some pair =>
      obtain ⟨dpfn, rpfn⟩ := pair
      unfold dmirrorDevmemAllocPage at allocated
      dsimp only at allocated
      split at allocated
      · cases allocated
      · next free =>
        obtain ⟨unused, unused'⟩ := not_or.mp free
        exact ⟨dpfn, rpfn, rfl, (Option.some.inj allocated).symm, unused,
          unused'⟩

theorem dmirrorDevmemAllocPage_none {mdevice : Nat} {mem : Memory Contents}
    {answer : Option (Nat × Nat)}
    (failed : (dmirrorDevmemAllocPage mdevice mem answer).1 = none) :
    dmirrorDevmemAllocPage mdevice mem answer = (none, mem) := by
  cases answer with
  | none => rfl
  | some pair =>
      obtain ⟨dpfn, rpfn⟩ := pair
      unfold dmirrorDevmemAllocPage at failed ⊢
      dsimp only at failed ⊢
      split at failed
      · next taken => rw [if_pos taken]
      · cases failed

section ToDevice

variable [Zero Contents] {mdevice dmirror : Nat} {vmWrite : Bool}
  {alloc : Nat → Option (Nat × Nat)}

theorem dmirrorMigrateAllocAndCopyOne_take {pfn dpfn rpfn : Nat}
    {slots : Nat → MigrateSlot} {mem : Memory Contents}
    (selected : (slots pfn).selected = true)
    (answer : alloc pfn = some (dpfn, rpfn))
    (unused : Page.devicePrivate mdevice dpfn ∉ mem.inUse)
    (unused' : Page.normal rpfn ∉ mem.inUse) :
    dmirrorMigrateAllocAndCopyOne mdevice dmirror vmWrite alloc pfn
        (slots, mem) =
      (Function.update slots pfn
        { slots pfn with
          dst := ⟨some (.devicePrivate mdevice dpfn), false,
            (slots pfn).src.write ||
              ((slots pfn).src.page.isNone && vmWrite)⟩ },
      { contents := Function.update mem.contents (.normal rpfn)
          ((slots pfn).src.page.elim 0 mem.contents)
        zoneDeviceData := Function.update
          (Function.update mem.zoneDeviceData
            (.devicePrivate mdevice dpfn) (.page (.normal rpfn)))
          (.normal rpfn) (.dmirror dmirror)
        inUse := insert (.devicePrivate mdevice dpfn)
          (insert (.normal rpfn) mem.inUse) }) := by
  simp only [MigrateSlot.selected, Bool.and_eq_true,
    Bool.not_eq_true'] at selected
  unfold dmirrorMigrateAllocAndCopyOne dmirrorDevmemAllocPage
  dsimp only
  rw [if_neg (by rw [selected.1]; decide), if_neg (by rw [selected.2]; decide),
    answer]
  dsimp only
  rw [if_neg (not_or.mpr ⟨unused, unused'⟩)]
  simp only [Memory.backingPage, Page.isDevicePrivatePage,
    Memory.setZoneDeviceData, Memory.write, Function.update_self, if_true]
  cases (slots pfn).src.page <;> rfl

theorem dmirrorMigrateAllocAndCopyOne_skip {pfn : Nat}
    {slots : Nat → MigrateSlot} {mem : Memory Contents}
    (skips : (slots pfn).selected = false ∨
      (dmirrorDevmemAllocPage mdevice mem (alloc pfn)).1 = none) :
    dmirrorMigrateAllocAndCopyOne mdevice dmirror vmWrite alloc pfn
      (slots, mem) = (slots, mem) := by
  unfold dmirrorMigrateAllocAndCopyOne
  dsimp only
  rcases skips with unselected | failed
  · simp only [MigrateSlot.selected, Bool.and_eq_false_iff,
      Bool.not_eq_false'] at unselected
    rcases unselected with unmarked | device
    · rw [if_pos unmarked]
    · rw [if_pos device, ite_self]
  · rw [dmirrorDevmemAllocPage_none failed]
    simp only [ite_self]

theorem dmirrorMigrateAllocAndCopyOne_slots {pfn other : Nat}
    (state : (Nat → MigrateSlot) × Memory Contents)
    (different : other ≠ pfn) :
    (dmirrorMigrateAllocAndCopyOne mdevice dmirror vmWrite alloc pfn
      state).1 other = state.1 other := by
  obtain ⟨slots, mem⟩ := state
  rcases dmirrorMigrateAllocAndCopyOne_cases mdevice dmirror vmWrite alloc pfn
      slots mem with same | ⟨dpfn, rpfn, -, -, -, taken⟩
  · rw [same]
  · rw [taken]
    exact Function.update_of_ne different _ _

theorem dmirrorMigrateAllocAndCopyOne_extends (pfn : Nat)
    (state : (Nat → MigrateSlot) × Memory Contents) :
    state.2.Extends (dmirrorMigrateAllocAndCopyOne mdevice dmirror vmWrite
      alloc pfn state).2 := by
  obtain ⟨slots, mem⟩ := state
  rcases dmirrorMigrateAllocAndCopyOne_cases mdevice dmirror vmWrite alloc pfn
      slots mem with same | ⟨dpfn, rpfn, -, unused, unused', taken⟩
  · rw [same]
    exact .refl mem
  · rw [taken]
    refine ⟨?_, ?_, ?_⟩
    · intro page used
      exact Finset.mem_insert_of_mem (Finset.mem_insert_of_mem used)
    · intro page used
      have different : page ≠ .normal rpfn := by
        rintro rfl
        exact unused' used
      exact Function.update_of_ne different _ _
    · intro page used
      have different : page ≠ .normal rpfn := by
        rintro rfl
        exact unused' used
      have different' : page ≠ .devicePrivate mdevice dpfn := by
        rintro rfl
        exact unused used
      dsimp only
      rw [Function.update_of_ne different, Function.update_of_ne different']

theorem dmirrorMigrateAllocAndCopy_extends (count first : Nat)
    (state : (Nat → MigrateSlot) × Memory Contents) :
    state.2.Extends (dmirrorMigrateAllocAndCopy mdevice dmirror vmWrite
      alloc count first state).2 := by
  apply forEach_keeps
    (fun after : (Nat → MigrateSlot) × Memory Contents =>
      state.2.Extends after.2)
  · exact .refl state.2
  · intro pfn before _ _ held
    exact held.trans (dmirrorMigrateAllocAndCopyOne_extends pfn before)

theorem dmirrorMigrateAllocAndCopy_outside {count first pfn : Nat}
    (outside : ¬(first ≤ pfn ∧ pfn < first + count))
    (state : (Nat → MigrateSlot) × Memory Contents) :
    (dmirrorMigrateAllocAndCopy mdevice dmirror vmWrite alloc count first
      state).1 pfn = state.1 pfn := by
  apply forEach_keeps
    (fun after : (Nat → MigrateSlot) × Memory Contents =>
      after.1 pfn = state.1 pfn)
  · rfl
  · intro place before lower upper held
    rw [dmirrorMigrateAllocAndCopyOne_slots before, held]
    rintro rfl
    exact outside ⟨lower, upper⟩

end ToDevice

/-- The word `dst` names a device page that was free, whose backing page was
free, holds the bytes of the source and names the mirror. -/
structure CopiedTo (mdevice dmirror : Nat) (vmWrite : Bool) [Zero Contents]
    (mem after : Memory Contents) (src dst : MigratePfn)
    (dpfn rpfn : Nat) : Prop where
  dst : dst = ⟨some (.devicePrivate mdevice dpfn), false,
    src.write || (src.page.isNone && vmWrite)⟩
  fresh : Page.devicePrivate mdevice dpfn ∉ mem.inUse
  freshBacking : Page.normal rpfn ∉ mem.inUse
  used : Page.devicePrivate mdevice dpfn ∈ after.inUse
  usedBacking : Page.normal rpfn ∈ after.inUse
  backing : after.backingPage (.devicePrivate mdevice dpfn) =
    some (.normal rpfn)
  bytes : after.contents (.normal rpfn) = src.page.elim 0 mem.contents
  mirror : after.zoneDeviceData (.normal rpfn) = .dmirror dmirror

namespace CopiedTo

variable [Zero Contents] {mdevice dmirror : Nat} {vmWrite : Bool}
  {mem after : Memory Contents} {src dst : MigratePfn} {dpfn rpfn : Nat}

theorem later {next : Memory Contents}
    (copied : CopiedTo mdevice dmirror vmWrite mem after src dst dpfn rpfn)
    (extends_ : after.Extends next) :
    CopiedTo mdevice dmirror vmWrite mem next src dst dpfn rpfn where
  dst := copied.dst
  fresh := copied.fresh
  freshBacking := copied.freshBacking
  used := extends_.inUse copied.used
  usedBacking := extends_.inUse copied.usedBacking
  backing := (extends_.backingPage copied.used).trans copied.backing
  bytes := (extends_.contents _ copied.usedBacking).trans copied.bytes
  mirror := (extends_.links _ copied.usedBacking).trans copied.mirror

theorem earlier {before : Memory Contents}
    (copied : CopiedTo mdevice dmirror vmWrite before after src dst dpfn rpfn)
    (extends_ : mem.Extends before)
    (used : ∀ page, src.page = some page → page ∈ mem.inUse) :
    CopiedTo mdevice dmirror vmWrite mem after src dst dpfn rpfn where
  dst := copied.dst
  fresh := fun old => copied.fresh (extends_.inUse old)
  freshBacking := fun old => copied.freshBacking (extends_.inUse old)
  used := copied.used
  usedBacking := copied.usedBacking
  backing := copied.backing
  bytes := by
    rw [copied.bytes]
    cases source : src.page with
    | none => rfl
    | some page => exact extends_.contents page (used page source)
  mirror := copied.mirror

end CopiedTo

section ToDevice

variable [Zero Contents] {mdevice dmirror : Nat} {vmWrite : Bool}
  {alloc : Nat → Option (Nat × Nat)}

theorem dmirrorMigrateAllocAndCopyOne_copied (dmirror : Nat)
    (vmWrite : Bool) {pfn : Nat} {dpage : Page}
    (state : (Nat → MigrateSlot) × Memory Contents)
    (selected : (state.1 pfn).selected = true)
    (allocated : (dmirrorDevmemAllocPage mdevice state.2 (alloc pfn)).1 =
      some dpage) :
    let after := dmirrorMigrateAllocAndCopyOne mdevice dmirror vmWrite alloc
      pfn state
    (after.1 pfn).src = (state.1 pfn).src ∧ ∃ dpfn rpfn,
      dpage = .devicePrivate mdevice dpfn ∧
      CopiedTo mdevice dmirror vmWrite state.2 after.2 (state.1 pfn).src
        (after.1 pfn).dst dpfn rpfn := by
  intro after
  obtain ⟨slots, mem⟩ := state
  obtain ⟨dpfn, rpfn, answer, rfl, unused, unused'⟩ :=
    dmirrorDevmemAllocPage_some allocated
  have taken : after = _ :=
    dmirrorMigrateAllocAndCopyOne_take selected answer unused unused'
  have different : Page.devicePrivate mdevice dpfn ≠ .normal rpfn := nofun
  clear_value after
  subst taken
  dsimp only
  rw [Function.update_self]
  refine ⟨rfl, dpfn, rpfn, rfl, rfl, unused, unused', ?_, ?_, ?_, ?_, ?_⟩
  · exact Finset.mem_insert_self _ _
  · exact Finset.mem_insert_of_mem (Finset.mem_insert_self _ _)
  · simp [Memory.backingPage, Page.isDevicePrivatePage, different]
  · exact Function.update_self ..
  · exact Function.update_self ..

/-- What `dmirror_migrate_alloc_and_copy` makes of slot `i`, by the result of
the allocation in its pass. -/
theorem dmirrorMigrateAllocAndCopy_slot {first : Nat}
    {slots : Nat → MigrateSlot} {mem : Memory Contents}
    (used : ∀ pfn page, (slots pfn).src.page = some page → page ∈ mem.inUse)
    {count i : Nat} (inside : i < count) :
    let before := (dmirrorMigrateAllocAndCopy mdevice dmirror vmWrite alloc i
      first (slots, mem)).2
    let after := dmirrorMigrateAllocAndCopy mdevice dmirror vmWrite alloc
      count first (slots, mem)
    let slot := slots (first + i)
    (∀ dpage, slot.selected = true →
      (dmirrorDevmemAllocPage mdevice before (alloc (first + i))).1 =
        some dpage →
      (after.1 (first + i)).src = slot.src ∧ dpage ∉ before.inUse ∧
      ∃ dpfn rpfn, dpage = .devicePrivate mdevice dpfn ∧
        CopiedTo mdevice dmirror vmWrite mem after.2 slot.src
          (after.1 (first + i)).dst dpfn rpfn) ∧
    (slot.selected = false ∨
      (dmirrorDevmemAllocPage mdevice before (alloc (first + i))).1 = none →
      after.1 (first + i) = slot) := by
  intro before after slot
  have split : after = dmirrorMigrateAllocAndCopy mdevice dmirror vmWrite
      alloc (count - (i + 1)) (first + i + 1)
      (dmirrorMigrateAllocAndCopyOne mdevice dmirror vmWrite alloc (first + i)
        (dmirrorMigrateAllocAndCopy mdevice dmirror vmWrite alloc i first
          (slots, mem))) :=
    forEach_at _ inside first (slots, mem)
  have here : (dmirrorMigrateAllocAndCopy mdevice dmirror vmWrite alloc i
      first (slots, mem)).1 (first + i) = slot :=
    dmirrorMigrateAllocAndCopy_outside (by omega) (slots, mem)
  have grown : mem.Extends before :=
    dmirrorMigrateAllocAndCopy_extends i first (slots, mem)
  have present : ∀ page, slot.src.page = some page → page ∈ mem.inUse :=
    used (first + i)
  clear_value after slot
  subst split
  dsimp only [before] at grown ⊢
  clear before
  generalize dmirrorMigrateAllocAndCopy mdevice dmirror vmWrite alloc i first
    (slots, mem) = state at here grown ⊢
  subst here
  have untouched (next : (Nat → MigrateSlot) × Memory Contents) :
      (dmirrorMigrateAllocAndCopy mdevice dmirror vmWrite alloc
        (count - (i + 1)) (first + i + 1) next).1 (first + i) =
        next.1 (first + i) :=
    dmirrorMigrateAllocAndCopy_outside (by omega) next
  constructor
  · intro dpage selected allocated
    obtain ⟨source, dpfn, rpfn, rfl, copied⟩ :=
      dmirrorMigrateAllocAndCopyOne_copied dmirror vmWrite state selected
        allocated
    rw [untouched]
    refine ⟨source, copied.fresh, dpfn, rpfn, rfl, ?_⟩
    exact (copied.earlier grown present).later
      (dmirrorMigrateAllocAndCopy_extends _ _ _)
  · intro skips
    rw [untouched]
    obtain ⟨slots', mem'⟩ := state
    rw [dmirrorMigrateAllocAndCopyOne_skip skips]

/-- A slot is left as it is, or its page has been copied. -/
theorem dmirrorMigrateAllocAndCopy_cases (mdevice dmirror : Nat)
    (vmWrite : Bool) (alloc : Nat → Option (Nat × Nat)) (count first : Nat)
    {slots : Nat → MigrateSlot} {mem : Memory Contents}
    (used : ∀ pfn page, (slots pfn).src.page = some page → page ∈ mem.inUse)
    (pfn : Nat) :
    let after := dmirrorMigrateAllocAndCopy mdevice dmirror vmWrite alloc
      count first (slots, mem)
    after.1 pfn = slots pfn ∨
      (after.1 pfn).src = (slots pfn).src ∧ ∃ dpfn rpfn,
        CopiedTo mdevice dmirror vmWrite mem after.2 (slots pfn).src
          (after.1 pfn).dst dpfn rpfn := by
  intro after
  by_cases inside : first ≤ pfn ∧ pfn < first + count
  · obtain ⟨i, rfl⟩ : ∃ i, pfn = first + i := ⟨pfn - first, by omega⟩
    have slot := @dmirrorMigrateAllocAndCopy_slot _ _ mdevice dmirror vmWrite
      alloc first slots mem used count i (by omega)
    cases selected : (slots (first + i)).selected with
    | false => exact .inl (slot.2 (.inl selected))
    | true =>
        cases allocated : (dmirrorDevmemAllocPage mdevice
            (dmirrorMigrateAllocAndCopy mdevice dmirror vmWrite alloc i first
              (slots, mem)).2 (alloc (first + i))).1 with
        | none => exact .inl (slot.2 (.inr allocated))
        | some dpage =>
            obtain ⟨source, -, dpfn, rpfn, -, copied⟩ :=
              slot.1 dpage selected allocated
            exact .inr ⟨source, dpfn, rpfn, copied⟩
  · exact .inl (dmirrorMigrateAllocAndCopy_outside inside (slots, mem))

theorem dmirrorMigrateAllocAndCopy_distinct {first : Nat}
    {slots : Nat → MigrateSlot} {mem : Memory Contents}
    (used : ∀ pfn page, (slots pfn).src.page = some page → page ∈ mem.inUse)
    {i j : Nat} (order : i < j) {dpage dpage' : Page}
    (selected : (slots (first + i)).selected = true)
    (allocated : (dmirrorDevmemAllocPage mdevice
      (dmirrorMigrateAllocAndCopy mdevice dmirror vmWrite alloc i first
        (slots, mem)).2 (alloc (first + i))).1 = some dpage)
    (allocated' : (dmirrorDevmemAllocPage mdevice
      (dmirrorMigrateAllocAndCopy mdevice dmirror vmWrite alloc j first
        (slots, mem)).2 (alloc (first + j))).1 = some dpage') :
    dpage ≠ dpage' := by
  obtain ⟨-, -, dpfn, rpfn, rfl, copied⟩ :=
    (dmirrorMigrateAllocAndCopy_slot used order).1 dpage selected allocated
  obtain ⟨dpfn', rpfn', -, rfl, unused, -⟩ :=
    dmirrorDevmemAllocPage_some allocated'
  intro same
  exact unused (same ▸ copied.used)

end ToDevice

/-- The body of the copy loop of `dmirror_device_evict_chunk`, which has no
mirror to update.  Its `alloc_page` has `__GFP_NOFAIL`. -/
def dmirrorDeviceEvictChunkOne (alloc : Nat → Option Nat) (i : Nat)
    (state : (Nat → MigrateSlot) × Memory Contents) :
    (Nat → MigrateSlot) × Memory Contents :=
  let slot := state.1 i
  match slot.src.page with
  | none => state
  | some spage =>
      if slot.src.migrate = false then state
      else if !spage.isDevicePrivatePage && !spage.isDeviceCoherentPage then
        state
      else
        match state.2.backingPage spage with
        | none => state
        | some rpage =>
            match state.2.allocPage (alloc i) with
            | (none, _) => state
            | (some dpage, mem) =>
                (Function.update state.1 i
                  { slot with dst := ⟨some dpage, false, slot.src.write⟩ },
                  mem.write dpage (mem.contents rpage))

def dmirrorDeviceEvictChunk (alloc : Nat → Option Nat) (npages first : Nat)
    (state : (Nat → MigrateSlot) × Memory Contents) :
    (Nat → MigrateSlot) × Memory Contents :=
  forEach (dmirrorDeviceEvictChunkOne alloc) npages first state

theorem dmirrorDevmemFaultAllocAndCopy_eq_evict (alloc : Nat → Option Nat)
    (count first : Nat) (state : FaultCopyState Contents) :
    let after := dmirrorDevmemFaultAllocAndCopy alloc count first state
    (after.slots, after.mem) =
      dmirrorDeviceEvictChunk alloc count first (state.slots, state.mem) := by
  apply forEach_image
    (fun state : FaultCopyState Contents => (state.slots, state.mem))
  intro pfn state
  unfold dmirrorDevmemFaultAllocAndCopyOne dmirrorDeviceEvictChunkOne
  dsimp only
  cases (state.slots pfn).src.page with
  | none => rfl
  | some spage =>
      dsimp only
      split
      · rfl
      · split
        · rfl
        · cases state.mem.backingPage spage with
          | none => rfl
          | some rpage =>
              dsimp only
              cases state.mem.allocPage (alloc pfn) with
              | mk target mem =>
                  cases target with
                  | none => rfl
                  | some dpage => rfl

section ToSystem

variable (alloc : Nat → Option Nat)

theorem dmirrorDeviceEvictChunkOne_take {i : Nat} {dpage rpage : Page}
    {write : Bool} (state : (Nat → MigrateSlot) × Memory Contents)
    (source : (state.1 i).src = ⟨some dpage, true, write⟩)
    (kind : dpage.isDevicePrivatePage = true)
    (backing : state.2.backingPage dpage = some rpage) :
    (∀ target, (state.2.allocPage (alloc i)).1 = some target →
      ∃ frame, target = .normal frame ∧ Page.normal frame ∉ state.2.inUse ∧
        dmirrorDeviceEvictChunkOne alloc i state =
          (Function.update state.1 i
            { state.1 i with dst := ⟨some target, false, write⟩ },
          { contents := Function.update state.2.contents target
              (state.2.contents rpage)
            zoneDeviceData := state.2.zoneDeviceData
            inUse := insert target state.2.inUse })) ∧
    ((state.2.allocPage (alloc i)).1 = none →
      dmirrorDeviceEvictChunkOne alloc i state = state) := by
  unfold dmirrorDeviceEvictChunkOne
  simp only [source, kind, backing, Bool.true_eq_false, if_false,
    Bool.not_true, Bool.false_and, Bool.false_eq_true]
  constructor
  · intro target allocated
    obtain ⟨frame, rfl, unused, taken, -⟩ :=
      Memory.allocPage_some allocated
    rw [taken]
    exact ⟨frame, rfl, unused, rfl⟩
  · intro failed
    generalize state.2.allocPage (alloc i) = outcome at failed
    obtain ⟨target, mem⟩ := outcome
    cases failed
    rfl

/-- Every pass leaves its slot as it is, or sets `dst` and takes a page. -/
theorem dmirrorDeviceEvictChunkOne_cases (i : Nat)
    (state : (Nat → MigrateSlot) × Memory Contents) :
    dmirrorDeviceEvictChunkOne alloc i state = state ∨
      ∃ dst frame bytes, Page.normal frame ∉ state.2.inUse ∧
        dmirrorDeviceEvictChunkOne alloc i state =
          (Function.update state.1 i { state.1 i with dst := dst },
          { contents := Function.update state.2.contents (.normal frame) bytes
            zoneDeviceData := state.2.zoneDeviceData
            inUse := insert (.normal frame) state.2.inUse }) := by
  unfold dmirrorDeviceEvictChunkOne
  dsimp only
  cases (state.1 i).src.page with
  | none => exact .inl rfl
  | some spage =>
      dsimp only
      split
      · exact .inl rfl
      · split
        · exact .inl rfl
        · cases state.2.backingPage spage with
          | none => exact .inl rfl
          | some rpage =>
              dsimp only
              cases outcome : (state.2.allocPage (alloc i)).1 with
              | none =>
                  generalize state.2.allocPage (alloc i) = pair at outcome
                  obtain ⟨target, mem⟩ := pair
                  cases outcome
                  exact .inl rfl
              | some target =>
                  obtain ⟨frame, rfl, unused, taken, -⟩ :=
                    Memory.allocPage_some outcome
                  rw [taken]
                  exact .inr ⟨_, frame, _, unused, rfl⟩

theorem dmirrorDeviceEvictChunkOne_slots {i other : Nat}
    (state : (Nat → MigrateSlot) × Memory Contents)
    (different : other ≠ i) :
    (dmirrorDeviceEvictChunkOne alloc i state).1 other = state.1 other := by
  rcases dmirrorDeviceEvictChunkOne_cases alloc i state with
    same | ⟨dst, frame, bytes, -, taken⟩
  · rw [same]
  · rw [taken]
    exact Function.update_of_ne different _ _

theorem dmirrorDeviceEvictChunkOne_extends (i : Nat)
    (state : (Nat → MigrateSlot) × Memory Contents) :
    state.2.Extends (dmirrorDeviceEvictChunkOne alloc i state).2 := by
  rcases dmirrorDeviceEvictChunkOne_cases alloc i state with
    same | ⟨dst, frame, bytes, unused, taken⟩
  · rw [same]
    exact .refl state.2
  · rw [taken]
    refine ⟨Finset.subset_insert _ _, ?_, fun _ _ => rfl⟩
    intro page used
    have different : page ≠ .normal frame := by
      rintro rfl
      exact unused used
    exact Function.update_of_ne different _ _

theorem dmirrorDeviceEvictChunk_extends (count first : Nat)
    (state : (Nat → MigrateSlot) × Memory Contents) :
    state.2.Extends (dmirrorDeviceEvictChunk alloc count first state).2 := by
  apply forEach_keeps
    (fun after : (Nat → MigrateSlot) × Memory Contents =>
      state.2.Extends after.2)
  · exact .refl state.2
  · intro i before _ _ held
    exact held.trans (dmirrorDeviceEvictChunkOne_extends alloc i before)

theorem dmirrorDeviceEvictChunk_outside {count first i : Nat}
    (outside : ¬(first ≤ i ∧ i < first + count))
    (state : (Nat → MigrateSlot) × Memory Contents) :
    (dmirrorDeviceEvictChunk alloc count first state).1 i = state.1 i := by
  apply forEach_keeps
    (fun after : (Nat → MigrateSlot) × Memory Contents =>
      after.1 i = state.1 i)
  · rfl
  · intro place before lower upper held
    rw [dmirrorDeviceEvictChunkOne_slots alloc before, held]
    rintro rfl
    exact outside ⟨lower, upper⟩

/-- What the eviction makes of a slot that names a device page: the bytes of
its backing page in a free system page, when there is one. -/
theorem dmirrorDeviceEvictChunk_slot {first : Nat}
    {slots : Nat → MigrateSlot} {mem : Memory Contents} {count i : Nat}
    (inside : i < count) {dpage rpage : Page} {write : Bool}
    (source : (slots (first + i)).src = ⟨some dpage, true, write⟩)
    (kind : dpage.isDevicePrivatePage = true)
    (used : dpage ∈ mem.inUse) (usedBacking : rpage ∈ mem.inUse)
    (backing : mem.backingPage dpage = some rpage) :
    let before := (dmirrorDeviceEvictChunk alloc i first (slots, mem)).2
    let after := dmirrorDeviceEvictChunk alloc count first (slots, mem)
    (∀ target, (before.allocPage (alloc (first + i))).1 = some target →
      (after.1 (first + i)).src = (slots (first + i)).src ∧
      (after.1 (first + i)).dst = ⟨some target, false, write⟩ ∧
      after.2.contents target = mem.contents rpage ∧
      ∃ frame, target = .normal frame ∧ Page.normal frame ∉ mem.inUse) ∧
    ((before.allocPage (alloc (first + i))).1 = none →
      after.1 (first + i) = slots (first + i)) := by
  intro before after
  have split : after = dmirrorDeviceEvictChunk alloc (count - (i + 1))
      (first + i + 1) (dmirrorDeviceEvictChunkOne alloc (first + i)
        (dmirrorDeviceEvictChunk alloc i first (slots, mem))) :=
    forEach_at _ inside first (slots, mem)
  have here : (dmirrorDeviceEvictChunk alloc i first (slots, mem)).1
      (first + i) = slots (first + i) :=
    dmirrorDeviceEvictChunk_outside alloc (by omega) (slots, mem)
  have grown : mem.Extends before :=
    dmirrorDeviceEvictChunk_extends alloc i first (slots, mem)
  clear_value after
  subst split
  dsimp only [before] at grown ⊢
  clear before
  generalize dmirrorDeviceEvictChunk alloc i first (slots, mem) = state
    at here grown ⊢
  rw [← here] at source ⊢
  have untouched (next : (Nat → MigrateSlot) × Memory Contents) :
      (dmirrorDeviceEvictChunk alloc (count - (i + 1)) (first + i + 1)
        next).1 (first + i) = next.1 (first + i) :=
    dmirrorDeviceEvictChunk_outside alloc (by omega) next
  obtain ⟨takes, skips⟩ := dmirrorDeviceEvictChunkOne_take alloc
    state source kind ((grown.backingPage used).trans backing)
  constructor
  · intro target allocated
    obtain ⟨frame, rfl, unused, taken⟩ := takes target allocated
    have later := dmirrorDeviceEvictChunk_extends alloc
      (count - (i + 1)) (first + i + 1)
      (dmirrorDeviceEvictChunkOne alloc (first + i) state)
    rw [untouched]
    have bytes := later.contents (.normal frame) (by
      rw [taken]
      exact Finset.mem_insert_self _ _)
    refine ⟨?_, ?_, ?_, frame, rfl, fun old => unused (grown.inUse old)⟩
    · rw [taken]
      dsimp only
      rw [Function.update_self]
    · rw [taken]
      dsimp only
      rw [Function.update_self]
    · rw [bytes, taken]
      dsimp only
      rw [Function.update_self, grown.contents rpage usedBacking]
  · intro failed
    rw [untouched, skips failed]

end ToSystem

/-- The fault handler erases the mirror's entry of an address whose page it
copies back. -/
theorem dmirrorDevmemFaultAllocAndCopy_erased (alloc : Nat → Option Nat)
    {first count i : Nat} (inside : i < count)
    (state : FaultCopyState Contents) {dpage rpage target : Page}
    {write : Bool}
    (source : (state.slots (first + i)).src = ⟨some dpage, true, write⟩)
    (kind : dpage.isDevicePrivatePage = true)
    (used : dpage ∈ state.mem.inUse)
    (backing : state.mem.backingPage dpage = some rpage)
    (allocated : ((dmirrorDevmemFaultAllocAndCopy alloc i first
      state).mem.allocPage (alloc (first + i))).1 = some target) :
    (dmirrorDevmemFaultAllocAndCopy alloc count first state).pt (first + i) =
      none := by
  have split : dmirrorDevmemFaultAllocAndCopy alloc count first state =
      dmirrorDevmemFaultAllocAndCopy alloc (count - (i + 1)) (first + i + 1)
        (dmirrorDevmemFaultAllocAndCopyOne alloc (first + i)
          (dmirrorDevmemFaultAllocAndCopy alloc i first state)) :=
    forEach_at _ inside first state
  have shadow := dmirrorDevmemFaultAllocAndCopy_eq_evict alloc i first state
  dsimp only at shadow
  generalize dmirrorDevmemFaultAllocAndCopy alloc i first state = before
    at split shadow allocated
  have here : before.slots (first + i) = state.slots (first + i) := by
    have same : (dmirrorDeviceEvictChunk alloc i first
        (state.slots, state.mem)).1 (first + i) = state.slots (first + i) :=
      dmirrorDeviceEvictChunk_outside alloc (by omega) _
    rw [← shadow] at same
    exact same
  have grown : state.mem.Extends before.mem := by
    have same := dmirrorDeviceEvictChunk_extends alloc i first
      (state.slots, state.mem)
    rw [← shadow] at same
    exact same
  have erased : (dmirrorDevmemFaultAllocAndCopyOne alloc (first + i)
      before).pt (first + i) = none := by
    obtain ⟨frame, rfl, unused, taken, -⟩ :=
      Memory.allocPage_some allocated
    unfold dmirrorDevmemFaultAllocAndCopyOne
    simp only [here, source, kind, (grown.backingPage used).trans backing,
      taken, Bool.true_eq_false, if_false, Bool.not_true, Bool.false_and,
      Bool.false_eq_true, Function.update_self]
  rw [split]
  apply forEach_keeps (fun after : FaultCopyState Contents =>
    after.pt (first + i) = none)
  · exact erased
  · intro pfn after _ _ held
    rcases dmirrorDevmemFaultAllocAndCopyOne_cases alloc pfn after with
      same | ⟨_, _, _, -, -, -, -, taken⟩
    · rw [same]
      exact held
    · rw [taken]
      dsimp only
      by_cases other : first + i = pfn
      · rw [other, Function.update_self]
      · rw [Function.update_of_ne other, held]

/-- Slot `i` is marked, is not on the device, and the allocation in its pass
gives `dpage`. -/
def Targeted [Zero Contents] (mdevice dmirror : Nat) (vmWrite : Bool)
    (alloc : Nat → Option (Nat × Nat)) (first : Nat)
    (slots : Nat → MigrateSlot) (mem : Memory Contents) (i : Nat)
    (dpage : Page) : Prop :=
  (slots (first + i)).selected = true ∧
    (dmirrorDevmemAllocPage mdevice
      (dmirrorMigrateAllocAndCopy mdevice dmirror vmWrite alloc i first
        (slots, mem)).2 (alloc (first + i))).1 = some dpage

/-- Copying back a slot that names `dpage` gives a free system page with the
given bytes and write flag, if the allocation in the pass of the slot
succeeds. -/
def ComesBack (mem : Memory Contents) (dpage : Page) (write : Bool)
    (bytes : Contents) : Prop :=
  ∀ (alloc : Nat → Option Nat) (slots : Nat → MigrateSlot)
    (count first i : Nat), i < count →
    (slots (first + i)).src = ⟨some dpage, true, write⟩ →
    ∀ target, ((dmirrorDeviceEvictChunk alloc i first
      (slots, mem)).2.allocPage (alloc (first + i))).1 = some target →
    let after := dmirrorDeviceEvictChunk alloc count first (slots, mem)
    (after.1 (first + i)).dst = ⟨some target, false, write⟩ ∧
      after.2.contents target = bytes ∧
      ∃ frame, target = .normal frame ∧ Page.normal frame ∉ mem.inUse

/-- The same for a CPU fault, which also erases the mirror's entry of the
slot's address. -/
def FaultsBack (mem : Memory Contents) (dpage : Page) (write : Bool)
    (bytes : Contents) : Prop :=
  ∀ (alloc : Nat → Option Nat) (slots : Nat → MigrateSlot) (pt : XArray)
    (count first i : Nat), i < count →
    (slots (first + i)).src = ⟨some dpage, true, write⟩ →
    ∀ target, ((dmirrorDevmemFaultAllocAndCopy alloc i first
      ⟨slots, mem, pt⟩).mem.allocPage (alloc (first + i))).1 = some target →
    let after := dmirrorDevmemFaultAllocAndCopy alloc count first
      ⟨slots, mem, pt⟩
    (after.slots (first + i)).dst = ⟨some target, false, write⟩ ∧
      after.mem.contents target = bytes ∧ after.pt (first + i) = none ∧
      ∃ frame, target = .normal frame ∧ Page.normal frame ∉ mem.inUse

theorem comesBack_of_backing {mem : Memory Contents} {dpage rpage : Page}
    (kind : dpage.isDevicePrivatePage = true) (used : dpage ∈ mem.inUse)
    (usedBacking : rpage ∈ mem.inUse)
    (backing : mem.backingPage dpage = some rpage) (write : Bool) :
    ComesBack mem dpage write (mem.contents rpage) ∧
      FaultsBack mem dpage write (mem.contents rpage) := by
  constructor
  · intro alloc slots count first i inside source target allocated
    obtain ⟨-, dst, bytes, fresh⟩ := (dmirrorDeviceEvictChunk_slot alloc
      inside source kind used usedBacking backing).1 target allocated
    exact ⟨dst, bytes, fresh⟩
  · intro alloc slots pt count first i inside source target allocated after
    have erased := dmirrorDevmemFaultAllocAndCopy_erased alloc inside
      ⟨slots, mem, pt⟩ source kind used backing allocated
    have whole := dmirrorDevmemFaultAllocAndCopy_eq_evict alloc count first
      ⟨slots, mem, pt⟩
    have prefix_ := dmirrorDevmemFaultAllocAndCopy_eq_evict alloc i first
      ⟨slots, mem, pt⟩
    obtain ⟨-, dst, bytes, fresh⟩ := (dmirrorDeviceEvictChunk_slot alloc
      inside source kind used usedBacking backing).1 target (by
        rw [← prefix_]
        exact allocated)
    rw [← whole] at dst bytes
    exact ⟨dst, bytes, erased, fresh⟩

/-- `dmirror_migrate_alloc_and_copy` sets `dst` for the slots it has a page
for and no others, and copying back what it has set gives the bytes and the
write permission of the source again. -/
theorem to_device_and_back [Zero Contents] (mdevice dmirror : Nat)
    (vmWrite : Bool) (alloc : Nat → Option (Nat × Nat)) (count first : Nat)
    (slots : Nat → MigrateSlot) (mem : Memory Contents)
    (used : ∀ pfn page, (slots pfn).src.page = some page →
      page ∈ mem.inUse) :
    let after := dmirrorMigrateAllocAndCopy mdevice dmirror vmWrite alloc
      count first (slots, mem)
    let targeted := Targeted mdevice dmirror vmWrite alloc first slots mem
    (∀ i dpage, i < count → targeted i dpage →
      (after.1 (first + i)).src = (slots (first + i)).src ∧
      (∃ dpfn rpfn, dpage = .devicePrivate mdevice dpfn ∧
        CopiedTo mdevice dmirror vmWrite mem after.2 (slots (first + i)).src
          (after.1 (first + i)).dst dpfn rpfn) ∧
      ComesBack after.2 dpage (after.1 (first + i)).dst.write
        ((slots (first + i)).src.page.elim 0 mem.contents) ∧
      FaultsBack after.2 dpage (after.1 (first + i)).dst.write
        ((slots (first + i)).src.page.elim 0 mem.contents)) ∧
    (∀ i, i < count → (∀ dpage, ¬targeted i dpage) →
      after.1 (first + i) = slots (first + i)) ∧
    (∀ pfn, ¬(first ≤ pfn ∧ pfn < first + count) →
      after.1 pfn = slots pfn) ∧
    (∀ i j dpage dpage', i < j → j < count → targeted i dpage →
      targeted j dpage' → dpage ≠ dpage') := by
  intro after targeted
  refine ⟨?_, ?_, ?_, ?_⟩
  · intro i dpage inside target
    obtain ⟨source, -, dpfn, rpfn, rfl, copied⟩ :=
      (dmirrorMigrateAllocAndCopy_slot used inside).1 dpage target.1 target.2
    have back := comesBack_of_backing rfl copied.used copied.usedBacking
      copied.backing (after.1 (first + i)).dst.write
    rw [copied.bytes] at back
    exact ⟨source, ⟨dpfn, rpfn, rfl, copied⟩, back.1, back.2⟩
  · intro i inside untargeted
    apply (dmirrorMigrateAllocAndCopy_slot used inside).2
    cases selected : (slots (first + i)).selected with
    | false => exact .inl rfl
    | true =>
        apply Or.inr
        cases allocated : (dmirrorDevmemAllocPage mdevice
            (dmirrorMigrateAllocAndCopy mdevice dmirror vmWrite alloc i first
              (slots, mem)).2 (alloc (first + i))).1 with
        | none => rfl
        | some dpage => exact absurd ⟨selected, allocated⟩ (untargeted dpage)
  · intro pfn outside
    exact dmirrorMigrateAllocAndCopy_outside outside (slots, mem)
  · intro i j dpage dpage' order inside target target'
    exact dmirrorMigrateAllocAndCopy_distinct used order target.1 target.2
      target'.2

/-- One writable page in frame 5. -/
def oneSystemPage : Memory Nat where
  contents := fun _ => 42
  zoneDeviceData := fun _ => .null
  inUse := {.normal 5}

/-- A writable page, a read-only one, one that is on the device already, a
hole, a page for which nothing can be allocated, and an empty slot. -/
def sixSlots : Nat → MigrateSlot
  | 0 => ⟨⟨some (.normal 5), true, true⟩, .empty⟩
  | 1 => ⟨⟨some (.normal 6), true, false⟩, .empty⟩
  | 2 => ⟨⟨some (.devicePrivate 0 3), true, true⟩, .empty⟩
  | 3 => ⟨⟨none, true, false⟩, .empty⟩
  | 4 => ⟨⟨some (.normal 8), true, true⟩, .empty⟩
  | _ => .empty

def sixPages : Memory Nat :=
  { oneSystemPage with
    contents := fun page => if page = .normal 6 then 43 else 42
    inUse := {.normal 5, .normal 6, .devicePrivate 0 3, .normal 8} }

def sixAnswers (pfn : Nat) : Option (Nat × Nat) :=
  if pfn = 4 then none else some (9 + pfn, 20 + pfn)

private theorem sixPages_used (pfn : Nat) (page : Page)
    (source : (sixSlots pfn).src.page = some page) :
    page ∈ sixPages.inUse := by
  unfold sixSlots at source
  split at source
  all_goals
    cases source
    try decide

/-- The pages of slots 0 and 1 and the zeros of the hole are on the device and
come back; the other three slots are as they were. -/
theorem sixSlots_and_back :
    let after := dmirrorMigrateAllocAndCopy 0 1 true sixAnswers 6 0
      (sixSlots, sixPages)
    (ComesBack after.2 (.devicePrivate 0 9) true 42 ∧
      ComesBack after.2 (.devicePrivate 0 10) false 43 ∧
      ComesBack after.2 (.devicePrivate 0 12) true 0) ∧
    (FaultsBack after.2 (.devicePrivate 0 9) true 42 ∧
      FaultsBack after.2 (.devicePrivate 0 10) false 43 ∧
      FaultsBack after.2 (.devicePrivate 0 12) true 0) ∧
    after.1 2 = sixSlots 2 ∧ after.1 4 = sixSlots 4 ∧
    after.1 5 = sixSlots 5 := by
  intro after
  obtain ⟨targeted, untouched, -⟩ := to_device_and_back 0 1 true sixAnswers 6
    0 sixSlots sixPages sixPages_used
  obtain ⟨-, -, writable, faulted⟩ := targeted 0 (.devicePrivate 0 9)
    (by decide) ⟨by decide, by decide⟩
  obtain ⟨-, -, readOnly, faultedOnly⟩ := targeted 1 (.devicePrivate 0 10)
    (by decide) ⟨by decide, by decide⟩
  obtain ⟨-, -, hole, faultedHole⟩ := targeted 3 (.devicePrivate 0 12)
    (by decide) ⟨by decide, by decide⟩
  refine ⟨⟨writable, readOnly, hole⟩, ⟨faulted, faultedOnly, faultedHole⟩,
    ?_, ?_, ?_⟩
  · apply untouched 2 (by decide)
    rintro dpage ⟨selected, -⟩
    cases selected
  · apply untouched 4 (by decide)
    rintro dpage ⟨-, allocated⟩
    cases allocated
  · apply untouched 5 (by decide)
    rintro dpage ⟨selected, -⟩
    cases selected

end Rshm.Hmm
