import Rshm.Hmm.Page
import Rshm.Lib.RangeLoop

/-!
# The mirror page table

The functions of `hmm.c` that read and fill `dmirror->pt`.  Three of them,
`dmirror_do_fault`, `dmirror_atomic_map` and
`dmirror_migrate_finalize_and_map`, are one loop: at each page number they
skip, store an entry, or give up, and they return at the first store that
fails.  `storeRange` is that loop and each function is its instance.
-/

namespace Rshm.Hmm

open RangeLoop

variable {Contents : Type}

/-- What a table-filling loop does at one page number. -/
inductive Store where
  | skip
  | put (entry : Option Entry)
  | stop (errno : Errno)

/-- `xa_store`; storing a null entry erases. -/
def xaStore (xaFails : Nat → Bool) (pfn : Nat) (entry : Option Entry)
    (pt : XArray) : XArray × Option Errno :=
  if xaFails pfn then (pt, some .enomem)
  else (Function.update pt pfn entry, none)

def storeOne (plan : Nat → Store) (xaFails : Nat → Bool) (pfn : Nat)
    (pt : XArray) : XArray × Option Errno :=
  match plan pfn with
  | .skip => (pt, none)
  | .put entry => xaStore xaFails pfn entry pt
  | .stop errno => (pt, some errno)

def storeRange (plan : Nat → Store) (xaFails : Nat → Bool)
    (count first : Nat) (pt : XArray) : XArray × Option Errno :=
  forRange (storeOne plan xaFails) count first pt

/-- The table after the passes at `first`, ..., `first + done - 1`. -/
def storedUpTo (plan : Nat → Store) (first done : Nat) (pt : XArray) :
    XArray := fun pfn =>
  if first ≤ pfn ∧ pfn < first + done then
    match plan pfn with
    | .put entry => entry
    | _ => pt pfn
  else pt pfn

/-- How a table-filling loop ends: after all passes, or at the pass that
gives up or whose store fails. -/
inductive StoreEnd (plan : Nat → Store) (xaFails : Nat → Bool)
    (count first done : Nat) : Option Errno → Prop where
  | complete (all : done = count) :
      StoreEnd plan xaFails count first done none
  | gaveUp {errno : Errno} (early : done < count)
      (stops : plan (first + done) = .stop errno) :
      StoreEnd plan xaFails count first done (some errno)
  | failed {entry : Option Entry} (early : done < count)
      (puts : plan (first + done) = .put entry)
      (fails : xaFails (first + done) = true) :
      StoreEnd plan xaFails count first done (some .enomem)

private theorem storedUpTo_succ (plan : Nat → Store) (first done : Nat)
    (pt : XArray) :
    storedUpTo plan (first + 1) done (storedUpTo plan first 1 pt) =
      storedUpTo plan first (done + 1) pt := by
  funext pfn
  unfold storedUpTo
  grind

private theorem storedUpTo_one_skip {plan : Nat → Store} {first : Nat}
    (pt : XArray) (skips : plan first = .skip) :
    storedUpTo plan first 1 pt = pt := by
  funext pfn
  unfold storedUpTo
  grind

private theorem storedUpTo_one_put {plan : Nat → Store} {first : Nat}
    {entry : Option Entry} (pt : XArray) (puts : plan first = .put entry) :
    storedUpTo plan first 1 pt = Function.update pt first entry := by
  funext pfn
  unfold storedUpTo
  by_cases here : pfn = first
  · subst here
    simp [puts]
  · have outside : ¬(first ≤ pfn ∧ pfn < first + 1) := by omega
    rw [if_neg outside, Function.update_of_ne here]

/-- A pass that stored what it planned and went on. -/
def Passed (plan : Nat → Store) (xaFails : Nat → Bool) (pfn : Nat) : Prop :=
  (∀ errno, plan pfn ≠ .stop errno) ∧
    ∀ entry, plan pfn = .put entry → xaFails pfn = false

private theorem StoreEnd.shift {plan : Nat → Store} {xaFails : Nat → Bool}
    {count first done : Nat} {result : Option Errno}
    (ended : StoreEnd plan xaFails count (first + 1) done result) :
    StoreEnd plan xaFails (count + 1) first (done + 1) result := by
  have moved : first + 1 + done = first + (done + 1) := by omega
  cases ended with
  | complete all => exact .complete (by omega)
  | gaveUp early stops => exact .gaveUp (by omega) (moved ▸ stops)
  | failed early puts fails =>
      exact .failed (by omega) (moved ▸ puts) (moved ▸ fails)

theorem storeRange_spec (plan : Nat → Store) (xaFails : Nat → Bool)
    (count first : Nat) (pt : XArray) :
    ∃ done, done ≤ count ∧
      (storeRange plan xaFails count first pt).1 =
        storedUpTo plan first done pt ∧
      (∀ pfn, first ≤ pfn → pfn < first + done → Passed plan xaFails pfn) ∧
      StoreEnd plan xaFails count first done
        (storeRange plan xaFails count first pt).2 := by
  induction count generalizing first pt with
  | zero =>
      refine ⟨0, Nat.le_refl 0, ?_, by omega, .complete rfl⟩
      funext pfn
      simp [storeRange, storedUpTo]
  | succ count induction =>
      -- The first pass either ends the loop or leaves a shorter one.
      have resume (goesOn : Passed plan xaFails first)
          (passed : storeOne plan xaFails first pt =
            (storedUpTo plan first 1 pt, none)) :
          ∃ done, done ≤ count + 1 ∧
            (storeRange plan xaFails (count + 1) first pt).1 =
              storedUpTo plan first done pt ∧
            (∀ pfn, first ≤ pfn → pfn < first + done →
              Passed plan xaFails pfn) ∧
            StoreEnd plan xaFails (count + 1) first done
              (storeRange plan xaFails (count + 1) first pt).2 := by
        have unfolded : storeRange plan xaFails (count + 1) first pt =
            storeRange plan xaFails count (first + 1)
              (storedUpTo plan first 1 pt) := by
          simp only [storeRange, forRange, passed]
        obtain ⟨done, bound, table, succeeded, ended⟩ :=
          induction (first + 1) (storedUpTo plan first 1 pt)
        refine ⟨done + 1, by omega, ?_, ?_, ?_⟩
        · rw [unfolded, table, storedUpTo_succ]
        · intro pfn lower upper
          by_cases here : pfn = first
          · exact here ▸ goesOn
          · exact succeeded pfn (by omega) (by omega)
        · rw [unfolded]
          exact ended.shift
      have stopped {errno : Errno}
          (passed : storeOne plan xaFails first pt = (pt, some errno))
          (reason : StoreEnd plan xaFails (count + 1) first 0 (some errno)) :
          ∃ done, done ≤ count + 1 ∧
            (storeRange plan xaFails (count + 1) first pt).1 =
              storedUpTo plan first done pt ∧
            (∀ pfn, first ≤ pfn → pfn < first + done →
              Passed plan xaFails pfn) ∧
            StoreEnd plan xaFails (count + 1) first done
              (storeRange plan xaFails (count + 1) first pt).2 := by
        have unfolded : storeRange plan xaFails (count + 1) first pt =
            (pt, some errno) := by
          simp only [storeRange, forRange, passed]
        refine ⟨0, by omega, ?_, by omega, by rw [unfolded]; exact reason⟩
        rw [unfolded]
        funext pfn
        simp [storedUpTo]
      cases decision : plan first with
      | skip =>
          refine resume ⟨by simp [decision], by simp [decision]⟩ ?_
          simp [storeOne, decision, storedUpTo_one_skip pt decision]
      | put entry =>
          by_cases fails : xaFails first = true
          · have ending : StoreEnd plan xaFails (count + 1) first 0
                (some .enomem) :=
              .failed (by omega) (by simpa using decision)
                (by simpa using fails)
            refine stopped ?_ ending
            simp [storeOne, decision, xaStore, fails]
          · refine resume ⟨by simp [decision], fun _ _ => by simpa using fails⟩ ?_
            simp [storeOne, decision, xaStore, fails,
              storedUpTo_one_put pt decision]
      | stop errno =>
          have ending : StoreEnd plan xaFails (count + 1) first 0
              (some errno) :=
            .gaveUp (by omega) (by simpa using decision)
          refine stopped ?_ ending
          simp [storeOne, decision]

/-- An entry found after a table-filling loop was there before or was put by
the plan at its own page number. -/
theorem storeRange_entry {plan : Nat → Store} {xaFails : Nat → Bool}
    {count first : Nat} {pt : XArray} {pfn : Nat} {entry : Entry}
    (found : (storeRange plan xaFails count first pt).1 pfn = some entry) :
    pt pfn = some entry ∨
      (first ≤ pfn ∧ pfn < first + count ∧ plan pfn = .put (some entry)) := by
  obtain ⟨done, bound, table, -, -⟩ :=
    storeRange_spec plan xaFails count first pt
  rw [table] at found
  unfold storedUpTo at found
  grind

def writeTag (write : Bool) : Tag := if write then .write else .none

def dmirrorDoFault (requestWrite : Bool) (hmmPfns : Nat → HmmPfn)
    (xaFails : Nat → Bool) (count first : Nat) (pt : XArray) :
    XArray × Option Errno :=
  storeRange
    (fun pfn =>
      let hmmPfn := hmmPfns pfn
      if hmmPfn.write then .put (some ⟨hmmPfn.page, .write⟩)
      else if requestWrite then .stop .efault
      else .put (some ⟨hmmPfn.page, .none⟩))
    xaFails count first pt

/-- `dmirror_do_fault` stores the pages of the snapshot, up to the address
at which it stops; none of these stores has failed. -/
theorem dmirrorDoFault_spec (requestWrite : Bool) (hmmPfns : Nat → HmmPfn)
    (xaFails : Nat → Bool) (count first : Nat) (pt : XArray) :
    let after := (dmirrorDoFault requestWrite hmmPfns xaFails count first pt).1
    ∃ done, done ≤ count ∧
      (∀ pfn, first ≤ pfn → pfn < first + done → xaFails pfn = false ∧
        after pfn = some ⟨(hmmPfns pfn).page, writeTag (hmmPfns pfn).write⟩) ∧
      (∀ pfn, ¬(first ≤ pfn ∧ pfn < first + done) → after pfn = pt pfn) := by
  intro after
  obtain ⟨done, bound, table, passed, -⟩ := storeRange_spec
    (fun pfn =>
      let hmmPfn := hmmPfns pfn
      if hmmPfn.write then .put (some ⟨hmmPfn.page, .write⟩)
      else if requestWrite then .stop .efault
      else .put (some ⟨hmmPfn.page, .none⟩)) xaFails count first pt
  have result : after = storedUpTo _ first done pt := table
  refine ⟨done, bound, ?_, ?_⟩
  · intro pfn lower upper
    obtain ⟨goesOn, works⟩ := passed pfn lower upper
    rw [result, storedUpTo, if_pos ⟨lower, upper⟩]
    dsimp only at goesOn works ⊢
    cases writable : (hmmPfns pfn).write with
    | true => exact ⟨works _ (if_pos writable), by simp [writeTag]⟩
    | false =>
        simp only [writable, Bool.false_eq_true, if_false] at goesOn works ⊢
        cases requestWrite with
        | true => exact absurd rfl (goesOn .efault)
        | false => exact ⟨works _ rfl, rfl⟩
  · intro pfn outside
    rw [result, storedUpTo, if_neg outside]

/-- A `dmirror_do_fault` that returns 0 has stored every page of its range,
and every one of them writable if that was asked for. -/
theorem dmirrorDoFault_complete (requestWrite : Bool)
    (hmmPfns : Nat → HmmPfn) (xaFails : Nat → Bool) (count first : Nat)
    (pt : XArray)
    (ended : (dmirrorDoFault requestWrite hmmPfns xaFails count first pt).2 =
      none) :
    let after := (dmirrorDoFault requestWrite hmmPfns xaFails count first
      pt).1
    (∀ pfn, first ≤ pfn → pfn < first + count →
      after pfn = some ⟨(hmmPfns pfn).page, writeTag (hmmPfns pfn).write⟩ ∧
        (requestWrite = true → (hmmPfns pfn).write = true)) ∧
    (∀ pfn, ¬(first ≤ pfn ∧ pfn < first + count) → after pfn = pt pfn) := by
  intro after
  obtain ⟨done, -, table, passed, reason⟩ := storeRange_spec
    (fun pfn =>
      let hmmPfn := hmmPfns pfn
      if hmmPfn.write then .put (some ⟨hmmPfn.page, .write⟩)
      else if requestWrite then .stop .efault
      else .put (some ⟨hmmPfn.page, .none⟩)) xaFails count first pt
  have result : after = storedUpTo _ first done pt := table
  have all : done = count := by
    unfold dmirrorDoFault at ended
    rw [ended] at reason
    cases reason
    assumption
  subst all
  constructor
  · intro pfn lower upper
    have goesOn := (passed pfn lower upper).1
    rw [result, storedUpTo, if_pos ⟨lower, upper⟩]
    cases writable : (hmmPfns pfn).write with
    | true => simp [writable, writeTag]
    | false =>
        cases requestWrite with
        | true => simp [writable] at goesOn
        | false => simp [writable, writeTag]
  · intro pfn outside
    rw [result, storedUpTo, if_neg outside]

/-- `dmirror_do_update`.  `xa_for_each_range` includes its last index, so the
page at `last` goes too. -/
def dmirrorDoUpdate (pt : XArray) (first last : Nat) : XArray := fun pfn =>
  if first ≤ pfn ∧ pfn ≤ last then none else pt pfn

/-- The reasons for which the kernel calls an interval notifier. -/
inductive NotifierEvent where
  | unmap
  | clear
  | protection
  | migrate
  | exclusive
  deriving DecidableEq, Repr

/-- `struct dmirror`, with the sequence number of its interval notifier. -/
structure Dmirror where
  mdevice : Nat
  mm : Nat
  pt : XArray
  invalidateSeq : Nat

/-- `dmirror_interval_invalidate` for a blockable range.  The driver's own
migrations are ignored: neither `mmu_interval_set_seq` nor
`dmirror_do_update` runs for them. -/
def dmirrorIntervalInvalidate (event : NotifierEvent) (owner : Option Nat)
    (first last : Nat) (dmirror : Dmirror) : Dmirror :=
  if event = .migrate ∧ owner = some dmirror.mdevice then dmirror
  else
    { dmirror with
      invalidateSeq := dmirror.invalidateSeq + 1
      pt := dmirrorDoUpdate dmirror.pt first last }

theorem dmirrorIntervalInvalidate_entry {event : NotifierEvent}
    {owner : Option Nat} {first last : Nat} {dmirror : Dmirror} {pfn : Nat}
    {entry : Entry}
    (found : (dmirrorIntervalInvalidate event owner first last dmirror).pt pfn
      = some entry) :
    dmirror.pt pfn = some entry := by
  unfold dmirrorIntervalInvalidate dmirrorDoUpdate at found
  grind

@[simp] theorem dmirrorIntervalInvalidate_mdevice (event : NotifierEvent)
    (owner : Option Nat) (first last : Nat) (dmirror : Dmirror) :
    (dmirrorIntervalInvalidate event owner first last dmirror).mdevice =
      dmirror.mdevice := by
  unfold dmirrorIntervalInvalidate
  split <;> rfl

@[simp] theorem dmirrorIntervalInvalidate_mm (event : NotifierEvent)
    (owner : Option Nat) (first last : Nat) (dmirror : Dmirror) :
    (dmirrorIntervalInvalidate event owner first last dmirror).mm =
      dmirror.mm := by
  unfold dmirrorIntervalInvalidate
  split <;> rfl

/-- `struct dmirror_bounce`: `ptr k` is page `k` of the bounce buffer. -/
structure DmirrorBounce (Contents : Type) where
  addr : Nat
  cpages : Nat
  ptr : Nat → Contents

def dmirrorDoRead (pt : XArray) (mem : Memory Contents) (count first : Nat)
    (bounce : DmirrorBounce Contents) :
    DmirrorBounce Contents × Option Errno :=
  forRange
    (fun pfn bounce =>
      match pt pfn with
      | none => (bounce, some .enoent)
      | some entry =>
          ({ bounce with
              ptr := Function.update bounce.ptr (pfn - bounce.addr)
                (mem.contents entry.page)
              cpages := bounce.cpages + 1 }, none))
    count first bounce

/-- `dmirror_do_write`, one critical section of `dmirror->mutex`. -/
def dmirrorDoWrite (pt : XArray) (count first : Nat)
    (state : Memory Contents × DmirrorBounce Contents) :
    (Memory Contents × DmirrorBounce Contents) × Option Errno :=
  forRange
    (fun pfn state =>
      match pt pfn with
      | some ⟨page, .write⟩ =>
          ((state.1.write page (state.2.ptr (pfn - state.2.addr)),
            { state.2 with cpages := state.2.cpages + 1 }), none)
      | _ => (state, some .enoent))
    count first state

def dmirrorCheckAtomic (pt : XArray) (count first : Nat) : Option Errno :=
  (forRange
    (fun pfn (_ : Unit) =>
      match pt pfn with
      | some ⟨_, .atomic⟩ => ((), some .eperm)
      | _ => ((), none))
    count first ()).2

/-- `dmirror_check_atomic` reports `-EPERM` just when the range has an atomic
entry. -/
theorem dmirrorCheckAtomic_iff (pt : XArray) (count first : Nat) :
    dmirrorCheckAtomic pt count first = some .eperm ↔
      ∃ pfn page, first ≤ pfn ∧ pfn < first + count ∧
        pt pfn = some ⟨page, .atomic⟩ := by
  induction count generalizing first with
  | zero =>
      constructor
      · intro reported
        cases reported
      · rintro ⟨pfn, page, lower, upper, -⟩
        omega
  | succ count induction =>
      have shift : dmirrorCheckAtomic pt (count + 1) first =
          match pt first with
          | some ⟨_, .atomic⟩ => some .eperm
          | _ => dmirrorCheckAtomic pt count (first + 1) := by
        unfold dmirrorCheckAtomic
        rw [forRange]
        split <;> grind
      rw [shift]
      split
      · next page found =>
        exact ⟨fun _ => ⟨first, page, by omega, by omega, found⟩, fun _ => rfl⟩
      · next other =>
        rw [induction (first + 1)]
        constructor
        · rintro ⟨pfn, page, lower, upper, found⟩
          exact ⟨pfn, page, by omega, by omega, found⟩
        · rintro ⟨pfn, page, lower, upper, found⟩
          refine ⟨pfn, page, ?_, by omega, found⟩
          apply Nat.lt_of_le_of_ne lower
          rintro rfl
          exact other page found

/-- `dmirror_atomic_map`; the result is the number of pages mapped. -/
def dmirrorAtomicMap (pages : Nat → Option Page) (xaFails : Nat → Bool)
    (count first : Nat) (pt : XArray) : XArray × Except Errno Nat :=
  let outcome := storeRange
    (fun pfn =>
      match pages pfn with
      | none => .skip
      | some page => .put (some ⟨page, .atomic⟩))
    xaFails count first pt
  (outcome.1,
    match outcome.2 with
    | some errno => .error errno
    | none => .ok ((List.range count).countP fun i =>
        (pages (first + i)).isSome))

theorem dmirrorAtomicMap_entry {pages : Nat → Option Page}
    {xaFails : Nat → Bool} {count first : Nat} {pt : XArray} {pfn : Nat}
    {entry : Entry}
    (found : (dmirrorAtomicMap pages xaFails count first pt).1 pfn
      = some entry) :
    pt pfn = some entry ∨
      (first ≤ pfn ∧ pfn < first + count ∧ pages pfn = some entry.page ∧
        entry.tag = .atomic) := by
  rcases storeRange_entry found with old | ⟨lower, upper, puts⟩
  · exact .inl old
  · refine .inr ⟨lower, upper, ?_⟩
    cases reported : pages pfn with
    | none => simp [reported] at puts
    | some page =>
        simp only [reported, Store.put.injEq, Option.some.injEq] at puts
        subst puts
        exact ⟨rfl, rfl⟩

/-- Whether `migrate_vma_pages` left the slot as migrated to a page. -/
def MigrateSlot.moved (slot : MigrateSlot) : Bool :=
  slot.src.migrate && slot.dst.page.isSome

/-- The entry `dmirror_migrate_finalize_and_map` stores for a migrated
page. -/
def finalizeAndMapEntry (mem : Memory Contents) (dst : MigratePfn)
    (dpage : Page) : Option Entry :=
  (mem.backingPage dpage).map fun page => ⟨page, writeTag dst.write⟩

def dmirrorMigrateFinalizeAndMap (mem : Memory Contents)
    (slots : Nat → MigrateSlot) (xaFails : Nat → Bool)
    (count first : Nat) (pt : XArray) : XArray × Option Errno :=
  storeRange
    (fun pfn =>
      if (slots pfn).src.migrate then
        match (slots pfn).dst.page with
        | none => .skip
        | some dpage => .put (finalizeAndMapEntry mem (slots pfn).dst dpage)
      else .skip)
    xaFails count first pt

/-- Where `dmirror_migrate_finalize_and_map` leaves the entry of an address:
it stores an entry for a moved slot, or leaves the old one, and it leaves the
old one of a moved slot only from a failing store on. -/
theorem dmirrorMigrateFinalizeAndMap_spec (mem : Memory Contents)
    (slots : Nat → MigrateSlot) (xaFails : Nat → Bool)
    (count first : Nat) (pt : XArray) (pfn : Nat) :
    let after := (dmirrorMigrateFinalizeAndMap mem slots xaFails count first
      pt).1
    (∃ dpage, first ≤ pfn ∧ pfn < first + count ∧
      (slots pfn).src.migrate = true ∧ (slots pfn).dst.page = some dpage ∧
      after pfn = finalizeAndMapEntry mem (slots pfn).dst dpage) ∨
    (after pfn = pt pfn ∧
      (first ≤ pfn → pfn < first + count → (slots pfn).moved = true →
        ∃ stop, first ≤ stop ∧ stop ≤ pfn ∧ xaFails stop = true ∧
          (slots stop).moved = true)) := by
  intro after
  obtain ⟨done, bound, table, -, ended⟩ := storeRange_spec
    (fun pfn =>
      if (slots pfn).src.migrate then
        match (slots pfn).dst.page with
        | none => .skip
        | some dpage => .put (finalizeAndMapEntry mem (slots pfn).dst dpage)
      else .skip) xaFails count first pt
  have result : after = storedUpTo _ first done pt := table
  clear_value after
  subst result
  clear table
  generalize (storeRange _ xaFails count first pt).2 = exit at ended
  unfold storedUpTo
  by_cases processed : first ≤ pfn ∧ pfn < first + done
  · cases marked : (slots pfn).src.migrate with
    | false =>
        refine .inr ⟨by simp [marked], ?_⟩
        intro _ _ moved
        simp [MigrateSlot.moved, marked] at moved
    | true =>
        cases target : (slots pfn).dst.page with
        | none =>
            refine .inr ⟨by simp [marked, target], ?_⟩
            intro _ _ moved
            simp [MigrateSlot.moved, target] at moved
        | some dpage =>
            refine .inl ⟨dpage, processed.1, by omega, rfl, rfl, ?_⟩
            simp [processed, marked, target]
  · refine .inr ⟨by simp [processed], ?_⟩
    intro lower upper moved
    cases ended with
    | complete all => omega
    | gaveUp early stops => grind
    | failed early puts fails =>
        refine ⟨first + done, by omega, by omega, fails, ?_⟩
        unfold MigrateSlot.moved
        grind

end Rshm.Hmm
