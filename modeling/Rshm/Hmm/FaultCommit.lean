import Mathlib.Algebra.GroupWithZero.Nat
import Rshm.Hmm.StepEffects

/-!
# What a device fault commits

`dmirror_range_fault` takes a snapshot of the page table and commits it only
if the sequence number of its notifier stands still.  The invariant ties the
snapshot to the page table for as long as the number does: a page of the
range is still the one in the snapshot unless a migration of the mirror's own
device has changed it, which moves no sequence number.
-/

namespace Rshm.Hmm

open RangeLoop

variable {Contents : Type}

namespace World

variable {world next : World Contents}

/-- Every mirror is an earlier one, of the same process, whose sequence
number has not gone back. -/
def MirrorsAdvance (world next : World Contents) : Prop :=
  ∀ m after, next.dmirror m = some after → ∃ before,
    world.dmirror m = some before ∧ after.mm = before.mm ∧
      before.invalidateSeq ≤ after.invalidateSeq

/-- Every mirror of the process has been told of an invalidation. -/
def Told (world next : World Contents) (mm : Nat) : Prop :=
  ∀ m before after, world.dmirror m = some before →
    next.dmirror m = some after → before.mm = mm →
      before.invalidateSeq < after.invalidateSeq

theorem MirrorsAdvance.of_eq (same : next.dmirror = world.dmirror) :
    world.MirrorsAdvance next := by
  intro m after found
  exact ⟨after, same ▸ found, rfl, Nat.le_refl _⟩

theorem MirrorsAdvance.trans {middle : World Contents}
    (first : world.MirrorsAdvance middle)
    (second : middle.MirrorsAdvance next) : world.MirrorsAdvance next := by
  intro m after found
  obtain ⟨between, reached, same, later⟩ := second m after found
  obtain ⟨before, started, kept, earlier⟩ := first m between reached
  exact ⟨before, started, same.trans kept, earlier.trans later⟩

theorem dmirrorIntervalInvalidate_seq (event : NotifierEvent)
    (owner : Option Nat) (first last : Nat) (dmirror : Dmirror) :
    dmirror.invalidateSeq ≤
      (dmirrorIntervalInvalidate event owner first last dmirror).invalidateSeq := by
  unfold dmirrorIntervalInvalidate
  split
  · exact Nat.le_refl _
  · exact Nat.le_succ _

theorem notify_dmirror {event : NotifierEvent} {owner : Option Nat}
    {mm first last m : Nat} {after : Dmirror}
    (found : (world.notify event owner mm first last).dmirror m = some after) :
    ∃ before, world.dmirror m = some before ∧
      after = if before.mm = mm then
        dmirrorIntervalInvalidate event owner first last before
      else before := by
  obtain ⟨before, present, equal⟩ := Option.map_eq_some_iff.mp found
  exact ⟨before, present, equal.symm⟩

theorem notify_advances (event : NotifierEvent) (owner : Option Nat)
    (mm first last : Nat) :
    world.MirrorsAdvance (world.notify event owner mm first last) := by
  intro m after found
  obtain ⟨before, present, rfl⟩ := notify_dmirror found
  refine ⟨before, present, ?_, ?_⟩
  · split
    · exact dmirrorIntervalInvalidate_mm event owner first last before
    · rfl
  · split
    · exact dmirrorIntervalInvalidate_seq event owner first last before
    · exact Nat.le_refl _

theorem notify_told {event : NotifierEvent} (owner : Option Nat)
    (mm first last : Nat) (foreign : event ≠ .migrate) :
    world.Told (world.notify event owner mm first last) mm := by
  intro m before after present found process
  obtain ⟨old, same, rfl⟩ := notify_dmirror found
  obtain rfl : old = before := Option.some.inj (same.symm.trans present)
  rw [if_pos process]
  unfold dmirrorIntervalInvalidate
  rw [if_neg fun own => foreign own.1]
  exact Nat.lt_succ_self _

theorem setPt_advances {m : Nat} {dmirror : Dmirror} {pt : XArray}
    (present : world.dmirror m = some dmirror) :
    world.MirrorsAdvance (world.setPt m dmirror pt) := by
  intro n after found
  by_cases same : n = m
  · subst same
    simp only [setPt, Function.update_self, Option.some.injEq] at found
    subst found
    exact ⟨dmirror, present, rfl, Nat.le_refl _⟩
  · simp only [setPt, Function.update_of_ne same] at found
    exact ⟨after, found, rfl, Nat.le_refl _⟩

/-- Closing is the only step that takes a mirror away, and it names it. -/
def NamesKept (world next : World Contents) : Prop :=
  ∀ m, (world.dmirror m).isSome = true ∨ world.released m = true →
    (next.dmirror m).isSome = true ∨ next.released m = true

theorem notify_isSome (event : NotifierEvent) (owner : Option Nat)
    (mm first last m : Nat) :
    ((world.notify event owner mm first last).dmirror m).isSome =
      (world.dmirror m).isSome := by
  simp [notify]

theorem setPt_isSome {m : Nat} {dmirror : Dmirror} (pt : XArray)
    (present : world.dmirror m = some dmirror) (n : Nat) :
    ((world.setPt m dmirror pt).dmirror n).isSome =
      (world.dmirror n).isSome := by
  by_cases same : n = m
  · subst same
    simp [setPt, present]
  · simp [setPt, Function.update_of_ne same]

theorem NamesKept.of_isSome
    (mirrors : ∀ m, (next.dmirror m).isSome = (world.dmirror m).isSome)
    (released : next.released = world.released) : world.NamesKept next := by
  intro m named
  rw [mirrors m, released]
  exact named

/-- The same request, with at least the changes of the page table that were
recorded before. -/
structure SameFault (before after : Fault) : Prop where
  dmirror : after.dmirror = before.dmirror
  mm : after.mm = before.mm
  first : after.first = before.first
  npages : after.npages = before.npages
  notifierSeq : after.notifierSeq = before.notifierSeq
  hmmPfns : after.hmmPfns = before.hmmPfns
  moved : ∀ pfn, after.moved pfn = false → before.moved pfn = false

theorem SameFault.refl (fault : Fault) : SameFault fault fault :=
  ⟨rfl, rfl, rfl, rfl, rfl, rfl, fun _ => id⟩

/-- Every fault in progress was in progress before. -/
def FaultsContinue (world next : World Contents) : Prop :=
  ∀ id after, next.faults id = some after → ∃ before,
    world.faults id = some before ∧ SameFault before after

theorem FaultsContinue.of_eq (same : next.faults = world.faults) :
    world.FaultsContinue next := by
  intro id after found
  exact ⟨after, same ▸ found, .refl after⟩

/-- The reasons for which an address may get another page without staleness
of the faults in progress: it had none, it is marked as moved, or the mirrors
of the process have been told, now or by an invalidation in progress. -/
def PagesAccounted (world next : World Contents) : Prop :=
  ∀ mm pfn, (next.cpu mm pfn).page = (world.cpu mm pfn).page ∨
    world.cpu mm pfn = .none ∨
    (∀ id fault, next.faults id = some fault → fault.mm = mm →
      fault.moved pfn = true) ∨
    world.Told next mm ∨
    ∃ range ∈ world.invalidations, range.mm = mm

theorem PagesAccounted.of_eq (same : next.cpu = world.cpu) :
    world.PagesAccounted next := fun _ _ => .inl (by rw [same])

/-- What a fault in progress knows as long as the sequence number of its
mirror stands still. -/
structure FaultsTracked (world : World Contents) : Prop where
  named : ∀ id fault, world.faults id = some fault →
    (world.dmirror fault.dmirror).isSome = true ∨
      world.released fault.dmirror = true
  mirror : ∀ id fault dmirror, world.faults id = some fault →
    world.dmirror fault.dmirror = some dmirror →
      dmirror.mm = fault.mm ∧ fault.notifierSeq ≤ dmirror.invalidateSeq
  quiet : ∀ id fault dmirror, world.faults id = some fault →
    world.dmirror fault.dmirror = some dmirror →
      dmirror.invalidateSeq = fault.notifierSeq →
        ∀ range ∈ world.invalidations, range.mm ≠ fault.mm
  mapped : ∀ id fault dmirror hmmPfns, world.faults id = some fault →
    world.dmirror fault.dmirror = some dmirror →
      dmirror.invalidateSeq = fault.notifierSeq →
        fault.hmmPfns = some hmmPfns → ∀ pfn, fault.first ≤ pfn →
          pfn < fault.first + fault.npages → fault.moved pfn = false →
            (world.cpu fault.mm pfn).page = some (hmmPfns pfn).page

/-- A step that starts no fault and takes no snapshot keeps the
invariant. -/
theorem FaultsTracked.advance (tracked : world.FaultsTracked)
    (names : world.NamesKept next) (mirrors : world.MirrorsAdvance next)
    (faults : world.FaultsContinue next)
    (invalidations : ∀ range ∈ next.invalidations,
      range ∈ world.invalidations ∨ world.Told next range.mm)
    (pages : world.PagesAccounted next) : next.FaultsTracked := by
  -- A number that stands still in `next` stood still in `world`.
  have still : ∀ id after dmirror, next.faults id = some after →
      next.dmirror after.dmirror = some dmirror → ∃ before earlier,
        world.faults id = some before ∧ SameFault before after ∧
          world.dmirror before.dmirror = some earlier ∧
          earlier.mm = before.mm ∧ dmirror.mm = earlier.mm ∧
          before.notifierSeq ≤ earlier.invalidateSeq ∧
          earlier.invalidateSeq ≤ dmirror.invalidateSeq := by
    intro id after dmirror found present
    obtain ⟨before, started, same⟩ := faults id after found
    obtain ⟨earlier, opened, process, later⟩ :=
      mirrors after.dmirror dmirror present
    rw [same.dmirror] at opened
    obtain ⟨owned, bound⟩ := tracked.mirror id before earlier started opened
    exact ⟨before, earlier, started, same, opened, owned, process, bound,
      later⟩
  constructor
  · intro id after found
    obtain ⟨before, started, same⟩ := faults id after found
    rw [same.dmirror]
    exact names _ (tracked.named id before started)
  · intro id after dmirror found present
    obtain ⟨before, earlier, _, same, _, owned, process, bound, later⟩ :=
      still id after dmirror found present
    rw [same.mm, same.notifierSeq]
    exact ⟨process.trans owned, bound.trans later⟩
  · intro id after dmirror found present current range active
    obtain ⟨before, earlier, started, same, opened, owned, process, bound,
      later⟩ := still id after dmirror found present
    rw [same.notifierSeq] at current
    obtain old | told := invalidations range active
    · rw [same.mm]
      apply tracked.quiet id before earlier started opened _ range old
      omega
    · intro process
      have moved := told after.dmirror earlier dmirror
        (same.dmirror ▸ opened) present
        (owned.trans (same.mm.symm.trans process.symm))
      omega
  · intro id after dmirror hmmPfns found present current taken pfn lower upper
      unmoved
    obtain ⟨before, earlier, started, same, opened, owned, process, bound,
      later⟩ := still id after dmirror found present
    rw [same.notifierSeq] at current
    have stood : earlier.invalidateSeq = before.notifierSeq := by omega
    have kept := tracked.mapped id before earlier hmmPfns started opened stood
      (same.hmmPfns ▸ taken) pfn (same.first ▸ lower)
      (by rw [← same.first, ← same.npages]; exact upper)
      (same.moved pfn unmoved)
    rw [same.mm]
    obtain equal | empty | moved | told | ⟨range, active, overlapping⟩ :=
      pages before.mm pfn
    · rw [equal]
      exact kept
    · rw [empty] at kept
      cases kept
    · have marked := moved id after found same.mm
      rw [unmoved] at marked
      cases marked
    · have moved := told after.dmirror earlier dmirror
        (same.dmirror ▸ opened) present owned
      omega
    · exact absurd overlapping
        (tracked.quiet id before earlier started opened stood range active)

theorem FaultsContinue.of_dropped {id : Nat}
    (dropped : next.faults = Function.update world.faults id none) :
    world.FaultsContinue next := by
  intro other after found
  rw [dropped] at found
  by_cases same : other = id
  · rw [same, Function.update_self] at found
    cases found
  · rw [Function.update_of_ne same] at found
    exact ⟨after, found, .refl after⟩

theorem FaultsTracked.openFile (tracked : world.FaultsTracked)
    {m mdevice mm : Nat}
    (moved : world.openFile m mdevice mm = some next) :
    next.FaultsTracked := by
  obtain ⟨free, unreleased, rfl⟩ := openFile_opened moved
  -- A fault in progress belongs to a mirror that is open or has been.
  have other : ∀ id fault, world.faults id = some fault →
      fault.dmirror ≠ m := by
    rintro id fault found rfl
    obtain opened | closed := tracked.named id fault found
    · rw [free] at opened
      cases opened
    · rw [unreleased] at closed
      cases closed
  constructor
  · intro id fault found
    simp only [Function.update_of_ne (other id fault found)]
    exact tracked.named id fault found
  · intro id fault dmirror found present
    simp only [Function.update_of_ne (other id fault found)] at present
    exact tracked.mirror id fault dmirror found present
  · intro id fault dmirror found present
    simp only [Function.update_of_ne (other id fault found)] at present
    exact tracked.quiet id fault dmirror found present
  · intro id fault dmirror hmmPfns found present
    simp only [Function.update_of_ne (other id fault found)] at present
    exact tracked.mapped id fault dmirror hmmPfns found present

theorem FaultsTracked.setFault (tracked : world.FaultsTracked) {id : Nat}
    {fault : Fault} {dmirror : Dmirror}
    (present : world.dmirror fault.dmirror = some dmirror)
    (process : dmirror.mm = fault.mm)
    (seq : fault.notifierSeq ≤ dmirror.invalidateSeq)
    (quiet : dmirror.invalidateSeq = fault.notifierSeq →
      ∀ range ∈ world.invalidations, range.mm ≠ fault.mm)
    (mapped : dmirror.invalidateSeq = fault.notifierSeq → ∀ hmmPfns,
      fault.hmmPfns = some hmmPfns → ∀ pfn, fault.first ≤ pfn →
        pfn < fault.first + fault.npages → fault.moved pfn = false →
          (world.cpu fault.mm pfn).page = some (hmmPfns pfn).page) :
    (world.setFault id (some fault)).FaultsTracked := by
  have cases : ∀ other found,
      (world.setFault id (some fault)).faults other = some found →
        world.faults other = some found ∨ found = fault := by
    intro other found stored
    by_cases same : other = id
    · simp only [World.setFault, same, Function.update_self,
        Option.some.injEq] at stored
      exact .inr stored.symm
    · simp only [World.setFault, Function.update_of_ne same] at stored
      exact .inl stored
  constructor
  · intro other found stored
    obtain old | rfl := cases other found stored
    · exact tracked.named other found old
    · exact .inl (by rw [World.setFault, present]; rfl)
  · intro other found mirror stored opened
    obtain old | rfl := cases other found stored
    · exact tracked.mirror other found mirror old opened
    · obtain rfl : dmirror = mirror :=
        Option.some.inj (present.symm.trans opened)
      exact ⟨process, seq⟩
  · intro other found mirror stored opened current
    obtain old | rfl := cases other found stored
    · exact tracked.quiet other found mirror old opened current
    · obtain rfl : dmirror = mirror :=
        Option.some.inj (present.symm.trans opened)
      exact quiet current
  · intro other found mirror hmmPfns stored opened current taken
    obtain old | rfl := cases other found stored
    · exact tracked.mapped other found mirror hmmPfns old opened current taken
    · obtain rfl : dmirror = mirror :=
        Option.some.inj (present.symm.trans opened)
      exact mapped current hmmPfns taken

theorem FaultsTracked.readBegin (tracked : world.FaultsTracked)
    {id m count first : Nat} {write : Bool}
    (moved : world.readBegin id m count first write = some next) :
    next.FaultsTracked := by
  obtain ⟨dmirror, present, -, free, rfl⟩ := readBegin_started moved
  refine tracked.setFault present rfl (Nat.le_refl _) (fun _ => free) ?_
  intro _ hmmPfns taken
  cases taken

theorem hmmFaultable_present {mdevice : Nat} {write : Bool} {pte : Pte}
    (faultable : hmmFaultable mdevice write pte = true) :
    pte.page = some (hmmPfnOf pte).page := by
  cases pte with
  | none => cases faultable
  | migration page writable => cases faultable
  | present page writable => rfl

theorem FaultsTracked.hmmRangeFault (tracked : world.FaultsTracked)
    {id : Nat} (moved : world.hmmRangeFault id = some next) :
    next.FaultsTracked := by
  obtain ⟨fault, dmirror, started, present, faultable, rfl⟩ :=
    hmmRangeFault_taken moved
  obtain ⟨process, seq⟩ := tracked.mirror id fault dmirror started present
  refine tracked.setFault present process seq
    (tracked.quiet id fault dmirror started present) ?_
  intro _ hmmPfns taken pfn lower upper _
  cases taken
  exact hmmFaultable_present (faultable pfn lower upper)

theorem FaultsTracked.stored (tracked : world.FaultsTracked) {m : Nat}
    {dmirror : Dmirror} {pt : XArray}
    (present : world.dmirror m = some dmirror)
    (mirrors : next.dmirror = (world.setPt m dmirror pt).dmirror)
    (released : next.released = world.released)
    (faults : next.faults = world.faults)
    (invalidations : next.invalidations = world.invalidations)
    (cpu : next.cpu = world.cpu) : next.FaultsTracked := by
  apply tracked.advance
  · refine .of_isSome (fun n => ?_) released
    rw [mirrors]
    exact setPt_isSome pt present n
  · intro n after found
    rw [mirrors] at found
    exact setPt_advances present n after found
  · exact .of_eq faults
  · exact fun range active => .inl (invalidations ▸ active)
  · exact .of_eq cpu

theorem FaultsTracked.dropped (tracked : world.FaultsTracked) (id : Nat) :
    (world.setFault id none).FaultsTracked := by
  apply tracked.advance
  · exact .of_isSome (fun _ => rfl) rfl
  · exact .of_eq rfl
  · exact .of_dropped rfl
  · exact fun range active => .inl active
  · exact .of_eq rfl

theorem FaultsTracked.abandonFault (tracked : world.FaultsTracked) {id : Nat}
    (moved : world.abandonFault id = some next) : next.FaultsTracked := by
  obtain rfl := abandonFault_dropped moved
  exact tracked.dropped id

theorem FaultsTracked.doFault (tracked : world.FaultsTracked) {id : Nat}
    {xaFails : Nat → Bool} (moved : world.doFault id xaFails = some next) :
    next.FaultsTracked := by
  rcases doFault_stored moved with ⟨fault, -, rfl⟩ |
    ⟨fault, dmirror, hmmPfns, pt, -, present, -, -, -, rfl⟩
  · exact tracked.dropped id
  · have updated : (world.setPt fault.dmirror dmirror pt).FaultsTracked :=
      tracked.stored present rfl rfl rfl rfl rfl
    exact updated.dropped id

/-- A step that only writes memory, page table entries that were empty or
are being invalidated, and the list of invalidations it closes. -/
theorem FaultsTracked.process (tracked : world.FaultsTracked)
    (mirrors : next.dmirror = world.dmirror)
    (released : next.released = world.released)
    (faults : next.faults = world.faults)
    (invalidations : ∀ range ∈ next.invalidations,
      range ∈ world.invalidations)
    (pages : world.PagesAccounted next) : next.FaultsTracked := by
  apply tracked.advance
  · exact .of_isSome (fun m => by rw [mirrors]) released
  · exact .of_eq mirrors
  · exact .of_eq faults
  · exact fun range active => .inl (invalidations range active)
  · exact pages

theorem setCpu_page (mm pfn : Nat) (pte : Pte) (mm' pfn' : Nat)
    (other : ¬(mm' = mm ∧ pfn' = pfn)) :
    (world.setCpu mm pfn pte).cpu mm' pfn' = world.cpu mm' pfn' := by
  by_cases process : mm' = mm
  · subst process
    have different : pfn' ≠ pfn := fun same => other ⟨rfl, same⟩
    simp [setCpu, Function.update_of_ne different]
  · simp [setCpu, Function.update_of_ne process]

theorem PagesAccounted.of_one (mm pfn : Nat)
    (others : ∀ mm' pfn', ¬(mm' = mm ∧ pfn' = pfn) →
      next.cpu mm' pfn' = world.cpu mm' pfn')
    (here : world.cpu mm pfn = .none ∨ world.Told next mm ∨
      ∃ range ∈ world.invalidations, range.mm = mm) :
    world.PagesAccounted next := by
  intro mm' pfn'
  by_cases same : mm' = mm ∧ pfn' = pfn
  · obtain ⟨rfl, rfl⟩ := same
    obtain empty | told | active := here
    · exact .inr (.inl empty)
    · exact .inr (.inr (.inr (.inl told)))
    · exact .inr (.inr (.inr (.inr active)))
  · exact .inl (by rw [others mm' pfn' same])

theorem FaultsTracked.closeFile (tracked : world.FaultsTracked) {m : Nat}
    (moved : world.closeFile m = some next) : next.FaultsTracked := by
  obtain rfl := closeFile_closed moved
  apply tracked.advance
  · intro n named
    by_cases same : n = m
    · exact .inr (by simp [same])
    · simpa [Function.update_of_ne same] using named
  · intro n after found
    by_cases same : n = m
    · simp [same] at found
    · simp only [Function.update_of_ne same] at found
      exact ⟨after, found, rfl, Nat.le_refl _⟩
  · exact .of_eq rfl
  · exact fun range active => .inl active
  · exact .of_eq rfl

theorem FaultsTracked.doWrite (tracked : world.FaultsTracked)
    {m count first : Nat} {bounce : DmirrorBounce Contents}
    (moved : world.doWrite m count first bounce = some next) :
    next.FaultsTracked := by
  obtain ⟨dmirror, _, rfl⟩ := Option.map_eq_some_iff.mp moved
  exact tracked.process rfl rfl rfl (fun _ => id) (.of_eq rfl)

theorem FaultsTracked.populate [Zero Contents]
    (tracked : world.FaultsTracked) {mm pfn frame : Nat} {writable : Bool}
    (moved : world.populate mm pfn frame writable = some next) :
    next.FaultsTracked := by
  obtain ⟨empty, -, rfl⟩ := populate_mapped moved
  exact tracked.process rfl rfl rfl (fun _ => id)
    (.of_one mm pfn (setCpu_page mm pfn _) (.inl empty))

theorem FaultsTracked.populateZero (tracked : world.FaultsTracked)
    {mm pfn : Nat} (moved : world.populateZero mm pfn = some next) :
    next.FaultsTracked := by
  obtain ⟨empty, rfl⟩ := populateZero_mapped moved
  exact tracked.process rfl rfl rfl (fun _ => id)
    (.of_one mm pfn (setCpu_page mm pfn _) (.inl empty))

theorem FaultsTracked.invalidateStart (tracked : world.FaultsTracked)
    {event : NotifierEvent} {range : Invalidation}
    (moved : world.invalidateStart event range = some next) :
    next.FaultsTracked := by
  obtain ⟨foreign, rfl⟩ := invalidateStart_told moved
  apply tracked.advance
  · exact .of_isSome (notify_isSome _ _ _ _ _) rfl
  · exact notify_advances event none range.mm range.first range.last
  · exact .of_eq rfl
  · intro other active
    obtain rfl | old := List.mem_cons.mp active
    · exact .inr (notify_told none _ _ _ foreign)
    · exact .inl old
  · exact .of_eq rfl

theorem FaultsTracked.invalidateEnd (tracked : world.FaultsTracked)
    {range : Invalidation} (moved : world.invalidateEnd range = some next) :
    next.FaultsTracked := by
  obtain ⟨-, rfl⟩ := invalidateEnd_ended moved
  exact tracked.process rfl rfl rfl
    (fun other active => List.mem_of_mem_erase active) (.of_eq rfl)

theorem FaultsTracked.cpuChange (tracked : world.FaultsTracked)
    {mm pfn : Nat} {change : CpuChange}
    (moved : world.cpuChange mm pfn change = some next) :
    next.FaultsTracked := by
  obtain ⟨⟨range, active, process, -⟩, made⟩ := cpuChange_made moved
  have accounted : ∀ (mem : Memory Contents) (pte : Pte),
      ({ world with mem := mem }.setCpu mm pfn pte).FaultsTracked := by
    intro mem pte
    exact tracked.process rfl rfl rfl (fun _ => id)
      (.of_one mm pfn (setCpu_page mm pfn _)
        (.inr (.inr ⟨range, active, process⟩)))
  rcases made with ⟨page, _, -, rfl⟩ | ⟨page, _, -, rfl⟩ |
    ⟨page, _, _, -, rfl⟩ | ⟨page, _, rpage, frame, _, -, -, -, rfl⟩
  · exact accounted _ _
  · exact accounted world.mem _
  · exact accounted world.mem _
  · exact accounted _ _

theorem migrateVmaCollect_page {flags : MigrateVmaDirection}
    {pgmapOwner : Nat} {pte : Pte} {page : Page}
    (collected : (migrateVmaCollect flags pgmapOwner pte).page = some page) :
    ∃ writable, pte = .present page writable := by
  unfold migrateVmaCollect MigratePfn.empty at collected
  split at collected
  · cases collected
  · next present writable =>
      refine ⟨writable, ?_⟩
      split at collected
      · cases collected
      · exact congrArg (Pte.present · writable) (Option.some.inj collected)
      · split at collected
        · exact congrArg (Pte.present · writable) (Option.some.inj collected)
        · cases collected
      · cases collected
  · cases collected

/-- `migrate_vma_setup` replaces entries by migration entries of the same
page. -/
theorem migrateVmaSetup_page (flags : MigrateVmaDirection) (pgmapOwner : Nat)
    (collected : Nat → Bool) (count first : Nat) (cpu : Nat → Pte)
    (pfn : Nat) :
    ((migrateVmaSetup flags pgmapOwner collected count first cpu).1 pfn).page =
      (cpu pfn).page := by
  have kept : ∀ pfn, ((migrateVmaSetup flags pgmapOwner collected count first
      cpu).1 pfn).page = (cpu pfn).page := by
    apply forEach_keeps fun state : (Nat → Pte) × (Nat → MigrateSlot) =>
      ∀ pfn, (state.1 pfn).page = (cpu pfn).page
    · exact fun _ => rfl
    · intro index state _ _ held pfn
      unfold migrateVmaSetupOne
      cases chosen : collected index with
      | false => simpa [chosen, MigratePfn.empty] using held pfn
      | true =>
          simp only [if_true]
          cases source :
            (migrateVmaCollect flags pgmapOwner (state.1 index)).page with
          | none => exact held pfn
          | some page =>
              obtain ⟨writable, present⟩ := migrateVmaCollect_page source
              by_cases here : pfn = index
              · subst here
                rw [← held pfn, present]
                simp
              · simp only [Function.update_of_ne here]
                exact held pfn
  exact kept pfn

theorem FaultsTracked.migrateSetup (tracked : world.FaultsTracked)
    (id m mdevice mm : Nat) (flags : MigrateVmaDirection) (vmWrite : Bool)
    (count first : Nat) (collected : Nat → Bool) :
    (world.migrateSetup id m mdevice mm flags vmWrite count first
      collected).FaultsTracked := by
  apply tracked.advance
  · exact .of_isSome (notify_isSome _ _ _ _ _) rfl
  · exact notify_advances .migrate (some mdevice) mm first (first + count)
  · exact .of_eq rfl
  · exact fun range active => .inl active
  · intro process pfn
    refine .inl ?_
    by_cases same : process = mm
    · subst same
      simp only [World.migrateSetup, setMigration, Function.update_self]
      exact migrateVmaSetup_page _ _ _ _ _ _ _
    · simp [World.migrateSetup, setMigration, Function.update_of_ne same]

theorem FaultsTracked.setup (tracked : world.FaultsTracked) {id m : Nat}
    {flags : MigrateVmaDirection} {vmWrite : Bool} {count first : Nat}
    {collected : Nat → Bool}
    (moved : world.setup id m flags vmWrite count first collected =
      some next) : next.FaultsTracked := by
  obtain ⟨dmirror, -, -, rfl⟩ := setup_begun moved
  exact tracked.migrateSetup _ _ _ _ _ _ _ _ _

theorem FaultsTracked.freed (tracked : world.FaultsTracked) :
    ({ world with useAfterFree := true } : World Contents).FaultsTracked :=
  tracked.process rfl rfl rfl (fun _ => id) (.of_eq rfl)

theorem FaultsTracked.cpuFault (tracked : world.FaultsTracked)
    {id mm pfn : Nat} {vmWrite collected : Bool}
    (moved : world.cpuFault id mm pfn vmWrite collected = some next) :
    next.FaultsTracked := by
  obtain ⟨-, _, _, _, -, ⟨_, _, _, -, -, -, rfl⟩ | ⟨rfl, -⟩⟩ :=
    cpuFault_begun moved
  · exact tracked.migrateSetup _ _ _ _ _ _ _ _ _
  · exact tracked.freed

theorem FaultsTracked.allocAndCopy [Zero Contents]
    (tracked : world.FaultsTracked) {id : Nat}
    {alloc : Nat → Option (Nat × Nat)}
    (moved : world.allocAndCopy id alloc = some next) :
    next.FaultsTracked := by
  obtain ⟨_, _, -, -, -, -, rfl⟩ := allocAndCopy_copied moved
  exact tracked.process rfl rfl rfl (fun _ active => active) (.of_eq rfl)

theorem FaultsTracked.faultAllocAndCopy (tracked : world.FaultsTracked)
    {id : Nat} {alloc : Nat → Option Nat}
    (moved : world.faultAllocAndCopy id alloc = some next) :
    next.FaultsTracked := by
  obtain ⟨_, -, -, -, ⟨-, rfl⟩ | ⟨_, _, present, -, rfl⟩⟩ :=
    faultAllocAndCopy_copied moved
  · exact tracked.freed
  · exact tracked.stored present rfl rfl rfl rfl rfl

theorem FaultsTracked.finalizeAndMap (tracked : world.FaultsTracked)
    {id : Nat} {xaFails : Nat → Bool}
    (moved : world.finalizeAndMap id xaFails = some next) :
    next.FaultsTracked := by
  obtain ⟨_, -, -, -, ⟨-, rfl⟩ | ⟨_, _, present, -, rfl⟩⟩ :=
    finalizeAndMap_mapped moved
  · exact tracked.freed
  · exact tracked.stored present rfl rfl rfl rfl rfl

/-- Every change of a page by a migration is marked in the faults. -/
theorem FaultsTracked.remap (tracked : world.FaultsTracked) (mm : Nat)
    (after : Nat → Pte) : (world.remap mm after).FaultsTracked := by
  apply tracked.advance
  · exact .of_isSome (fun _ => rfl) rfl
  · exact .of_eq rfl
  · intro id fault found
    obtain ⟨before, started, rfl⟩ := Option.map_eq_some_iff.mp found
    refine ⟨before, started, rfl, rfl, rfl, rfl, rfl, rfl, ?_⟩
    intro pfn unmoved
    simp only [Fault.passMigration, Bool.or_eq_false_iff] at unmoved
    exact unmoved.1
  · exact fun range active => .inl active
  · intro process pfn
    by_cases same : process = mm
    · subst same
      by_cases kept : (after pfn).page = (world.cpu process pfn).page
      · exact .inl (by simp [World.remap, kept])
      · refine .inr (.inr (.inl ?_))
        intro id fault found owned
        obtain ⟨before, _, rfl⟩ := Option.map_eq_some_iff.mp found
        have changed : (world.cpu process pfn).page ≠ (after pfn).page :=
          fun equal => kept equal.symm
        have process : before.mm = process := owned
        simp [Fault.passMigration, process, changed]
    · exact .inl (by simp [World.remap, Function.update_of_ne same])

theorem FaultsTracked.setMigration (tracked : world.FaultsTracked) (id : Nat)
    (migration : Option Migration) :
    (world.setMigration id migration).FaultsTracked :=
  tracked.process rfl rfl rfl (fun _ active => active) (.of_eq rfl)

theorem FaultsTracked.pages (tracked : world.FaultsTracked) {id : Nat}
    {migrated : Nat → Bool} (moved : world.pages id migrated = some next) :
    next.FaultsTracked := by
  obtain ⟨_, _, -, -, -, rfl⟩ := pages_migrated moved
  exact (tracked.remap _ _).setMigration _ _

theorem FaultsTracked.finalize (tracked : world.FaultsTracked) {id : Nat}
    (moved : world.finalize id = some next) : next.FaultsTracked := by
  obtain ⟨_, _, -, -, -, rfl⟩ := finalize_finished moved
  refine FaultsTracked.setMigration (FaultsTracked.remap ?_ _ _) _ _
  exact tracked.process rfl rfl rfl (fun _ active => active) (.of_eq rfl)

theorem FaultsTracked.notify (tracked : world.FaultsTracked)
    (event : NotifierEvent) (owner : Option Nat) (mm first last : Nat) :
    (world.notify event owner mm first last).FaultsTracked := by
  apply tracked.advance
  · exact .of_isSome (notify_isSome _ _ _ _ _) rfl
  · exact notify_advances event owner mm first last
  · exact .of_eq rfl
  · exact fun range active => .inl active
  · exact .of_eq rfl

theorem FaultsTracked.exclusive (tracked : world.FaultsTracked)
    {m count first : Nat} {pages : Nat → Option Page} {complete : Bool}
    {xaFails : Nat → Bool}
    (moved : world.exclusive m count first pages complete xaFails =
      some next) : next.FaultsTracked := by
  apply exclusive_keeps FaultsTracked _ _ tracked moved
  · intro between mm pfn held
    exact held.notify .exclusive none mm pfn (pfn + 1)
  · intro between m dmirror pt held present
    exact held.stored present rfl rfl rfl rfl rfl

theorem FaultsTracked.evictPage (tracked : world.FaultsTracked)
    {mdevice : Nat} {eviction : Nat × Nat × Nat}
    (moved : world.evictPage mdevice eviction = some next) :
    next.FaultsTracked := by
  obtain ⟨mm, pfn, frame⟩ := eviction
  obtain ⟨_, _, _, -, -, -, rfl⟩ := evictPage_evicted moved
  apply tracked.advance
  · exact .of_isSome (notify_isSome _ _ _ _ _) rfl
  · exact notify_advances .clear none mm pfn (pfn + 1)
  · exact .of_eq rfl
  · exact fun range active => .inl active
  · refine .of_one mm pfn (setCpu_page mm pfn _) (.inr (.inl ?_))
    exact notify_told none mm pfn (pfn + 1) (by simp)

theorem FaultsTracked.release (tracked : world.FaultsTracked) {mdevice : Nat}
    {evictions : List (Nat × Nat × Nat)}
    (moved : world.release mdevice evictions = some next) :
    next.FaultsTracked :=
  release_keeps FaultsTracked
    (fun _ _ _ held evicted => held.evictPage evicted) tracked moved

theorem FaultsTracked.step [Zero Contents] (tracked : world.FaultsTracked)
    {input : Input Contents} (moved : world.step input = some next) :
    next.FaultsTracked := by
  cases input with
  | openFile _ _ _ => exact tracked.openFile moved
  | closeFile _ => exact tracked.closeFile moved
  | doWrite _ _ _ _ => exact tracked.doWrite moved
  | readBegin _ _ _ _ _ => exact tracked.readBegin moved
  | hmmRangeFault _ => exact tracked.hmmRangeFault moved
  | abandonFault _ => exact tracked.abandonFault moved
  | doFault _ _ => exact tracked.doFault moved
  | populate _ _ _ _ => exact tracked.populate moved
  | populateZero _ _ => exact tracked.populateZero moved
  | invalidateStart _ _ => exact tracked.invalidateStart moved
  | cpuChange _ _ _ => exact tracked.cpuChange moved
  | invalidateEnd _ => exact tracked.invalidateEnd moved
  | setup _ _ _ _ _ _ _ => exact tracked.setup moved
  | cpuFault _ _ _ _ _ => exact tracked.cpuFault moved
  | allocAndCopy _ _ => exact tracked.allocAndCopy moved
  | faultAllocAndCopy _ _ => exact tracked.faultAllocAndCopy moved
  | pages _ _ => exact tracked.pages moved
  | finalizeAndMap _ _ => exact tracked.finalizeAndMap moved
  | finalize _ => exact tracked.finalize moved
  | exclusive _ _ _ _ _ _ => exact tracked.exclusive moved
  | release _ _ => exact tracked.release moved

/-- The driver may be started with anything mapped, open or migrating, as
long as no device fault is in progress. -/
def NoFault (world : World Contents) : Prop :=
  ∀ id, world.faults id = none

theorem NoFault.tracked (none : world.NoFault) : world.FaultsTracked := by
  constructor
  all_goals
    intro id fault
    rw [none id]
  · exact fun found => nomatch found
  · exact fun _ found => nomatch found
  · exact fun _ found => nomatch found
  · exact fun _ _ found => nomatch found

theorem faultsTracked_invariant [Zero Contents]
    (allowed : World Contents → Input Contents → Prop) :
    (machine (NoFault : World Contents → Prop)).Invariant allowed
      FaultsTracked :=
  ⟨fun _ => NoFault.tracked, fun _ _ _ tracked _ => tracked.step⟩

/-- The inputs under which the sequence number tells all there is to know:
when a fault commits, no migration has changed a page of its range since the
snapshot, and none has one unmapped. -/
def Undisturbed (world : World Contents) : Input Contents → Prop
  | .doFault id _ =>
      ∀ fault dmirror, world.faults id = some fault →
        world.dmirror fault.dmirror = some dmirror →
          dmirror.invalidateSeq = fault.notifierSeq →
            ∀ pfn, fault.first ≤ pfn → pfn < fault.first + fault.npages →
              fault.moved pfn = false ∧
                ∀ page writable,
                  world.cpu fault.mm pfn ≠ .migration page writable
  | _ => True

/-- What a device fault stores names the page that the process maps; the
rest of the table stays. -/
def CommitsMapped (world next : World Contents) (id : Nat) : Prop :=
  ∀ fault before, world.faults id = some fault →
    world.dmirror fault.dmirror = some before → ∃ after done,
      next.dmirror fault.dmirror = some after ∧ done ≤ fault.npages ∧
        (∀ pfn, fault.first ≤ pfn → pfn < fault.first + done →
          ∃ entry writable, after.pt pfn = some entry ∧
            world.cpu fault.mm pfn = .present entry.page writable) ∧
        ∀ pfn, ¬(fault.first ≤ pfn ∧ pfn < fault.first + done) →
          after.pt pfn = before.pt pfn

theorem FaultsTracked.commitsMapped (tracked : world.FaultsTracked) {id : Nat}
    {xaFails : Nat → Bool}
    (undisturbed : world.Undisturbed (.doFault id xaFails))
    (moved : world.doFault id xaFails = some next) :
    world.CommitsMapped next id := by
  intro fault before started present
  rcases doFault_stored moved with ⟨_, -, rfl⟩ |
    ⟨found, dmirror, hmmPfns, pt, started', opened, taken, current, rfl, rfl⟩
  · exact ⟨before, 0, present, Nat.zero_le _, by omega, fun _ _ => rfl⟩
  · obtain rfl : fault = found := Option.some.inj (started.symm.trans started')
    obtain rfl : before = dmirror :=
      Option.some.inj (present.symm.trans opened)
    obtain ⟨done, bound, stored, kept⟩ := dmirrorDoFault_spec fault.write
      hmmPfns xaFails fault.npages fault.first before.pt
    refine ⟨_, done, Function.update_self _ _ _, bound, ?_, kept⟩
    intro pfn lower upper
    have inside : pfn < fault.first + fault.npages := by omega
    obtain ⟨unmoved, settled⟩ :=
      undisturbed fault before started present current pfn lower inside
    have mapped := tracked.mapped id fault before hmmPfns started present
      current taken pfn lower inside unmoved
    cases pte : world.cpu fault.mm pfn with
    | none =>
        rw [pte] at mapped
        cases mapped
    | migration page writable => exact absurd pte (settled page writable)
    | present page writable =>
        rw [pte] at mapped
        cases mapped
        exact ⟨_, writable, (stored pfn lower upper).2, rfl⟩

/-- A device fault that no migration of its own device disturbs commits the
pages of the process, whatever else runs beside it. -/
theorem doFault_commitsMapped [Zero Contents] (world next : World Contents)
    (reached : (machine NoFault).Reaches Undisturbed world) (id : Nat)
    (xaFails : Nat → Bool)
    (undisturbed : world.Undisturbed (.doFault id xaFails))
    (moved : world.doFault id xaFails = some next) :
    world.CommitsMapped next id :=
  ((faultsTracked_invariant Undisturbed).reaches reached).commitsMapped
    undisturbed moved

theorem boot_noFault [Zero Contents] : (boot : World Contents).NoFault :=
  fun _ => rfl

private def commitsNothing : World Contents → Input Contents → Bool
  | _, .doFault _ _ => false
  | _, _ => true

private theorem commitsNothing_undisturbed (world : World Contents)
    (input : Input Contents)
    (admitted : commitsNothing world input = true) :
    world.Undisturbed input := by
  cases input with
  | doFault _ _ => cases admitted
  | _ => trivial

/-- A process that maps frame 1 and whose page 0 is being faulted into the
mirror. -/
private def faultInputs : List (Input Nat) :=
  [.openFile 0 0 0, .populate 0 0 1 true, .readBegin 0 0 1 0 false,
    .hmmRangeFault 0]

theorem doFault_commitsMapped_first :
    ∃ world next : World Nat, (machine NoFault).Reaches Undisturbed world ∧
      world.doFault 0 (fun _ => false) = some next ∧
      world.CommitsMapped next 0 := by
  have reached : ∃ world next : World Nat,
      (machine NoFault).Reaches Undisturbed world ∧
      world.doFault 0 (fun _ => false) = some next ∧
      world.Undisturbed (.doFault 0 fun _ => false) := by
    refine ⟨_, _, Machine.reaches_of_execIf commitsNothing_undisturbed
      faultInputs boot_noFault rfl, rfl, ?_⟩
    intro fault dmirror started present _ pfn lower upper
    cases started
    have here : pfn = 0 := by
      change pfn < 0 + 1 at upper
      omega
    subst here
    exact ⟨rfl, fun page writable migrating => nomatch migrating⟩
  obtain ⟨world, next, reached, moved, undisturbed⟩ := reached
  exact ⟨world, next, reached, moved,
    doFault_commitsMapped world next reached 0 _ undisturbed moved⟩

/-- The first fault would store frame 1, while the process maps page 0 of
the device and the mirror has its backing page, frame 2. -/
private def wouldCommitStale (world : World Nat) : Bool :=
  match world.faults 0, world.dmirror 0, world.doFault 0 fun _ => false with
  | some fault, some before, some next =>
      fault.dmirror == 0 && fault.mm == 0 &&
        before.pt 0 == some ⟨.normal 2, .write⟩ &&
        (next.dmirror 0).any (fun after =>
          after.pt 0 == some ⟨.normal 1, .write⟩) &&
        world.cpu 0 0 == .present (.devicePrivate 0 0) true
  | _, _, _ => false

private theorem not_commitsMapped {world next : World Contents} {id pfn : Nat}
    {fault : Fault} {before after : Dmirror} {entry : Entry}
    (started : world.faults id = some fault)
    (opened : world.dmirror fault.dmirror = some before)
    (found : next.dmirror fault.dmirror = some after)
    (stored : after.pt pfn = some entry)
    (changed : before.pt pfn ≠ some entry)
    (other : (world.cpu fault.mm pfn).page ≠ some entry.page) :
    ¬ world.CommitsMapped next id := by
  intro commits
  obtain ⟨last, done, present, _, mapped, kept⟩ := commits fault before
    started opened
  obtain rfl : last = after := Option.some.inj (present.symm.trans found)
  by_cases inside : fault.first ≤ pfn ∧ pfn < fault.first + done
  · obtain ⟨same, writable, again, shown⟩ := mapped pfn inside.1 inside.2
    obtain rfl : same = entry := Option.some.inj (again.symm.trans stored)
    rw [shown] at other
    exact other rfl
  · exact changed ((kept pfn inside).symm.trans stored)

/-- A migration to the mirror's own device between the snapshot and the
commit goes unnoticed: the old frame is stored. -/
theorem doFault_commits_stale :
    ∃ world next : World Nat, (machine NoFault).Reachable world ∧
      world.doFault 0 (fun _ => false) = some next ∧
      (next.dmirror 0).bind (fun dmirror => dmirror.pt 0) =
        some ⟨.normal 1, .write⟩ ∧
      world.cpu 0 0 = .present (.devicePrivate 0 0) true ∧
      ¬ world.CommitsMapped next 0 := by
  obtain ⟨world, reached, stale⟩ := (machine NoFault).reachable_of_test
    (faultInputs ++ [.setup 0 0 .selectSystem true 1 0 fun _ => true,
      .allocAndCopy 0 fun _ => some (0, 2), .pages 0 fun _ => true,
      .finalizeAndMap 0 fun _ => false, .finalize 0])
    wouldCommitStale boot_noFault (by decide +kernel)
  unfold wouldCommitStale at stale
  split at stale
  · next fault before next started opened moved =>
      simp only [Bool.and_eq_true, beq_iff_eq] at stale
      obtain ⟨⟨⟨⟨own, process⟩, backed⟩, stored⟩, mapped⟩ := stale
      obtain ⟨after, found, entry⟩ := (Option.any_eq_true _ _).mp stored
      have entry : after.pt 0 = some ⟨.normal 1, .write⟩ := by
        simpa using entry
      refine ⟨world, next, reached, moved, by simp [found, entry], mapped, ?_⟩
      apply not_commitsMapped started (own ▸ opened) (own ▸ found) entry
      · rw [backed]
        simp
      · rw [process, mapped]
        simp
  · cases stale

end World

end Rshm.Hmm
