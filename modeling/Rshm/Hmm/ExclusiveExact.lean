import Rshm.Hmm.SweepExact

/-!
# EXCLUSIVE takes the whole range or fails

`dmirror_atomic_map` returns a count or an error, and the loop of
`dmirror_exclusive` reads both as a number of pages.  `-ENOMEM` read as a
number of pages is twelve pages short of 2^64: added to an address it steps
back twelve pages, and it wraps to the end of the address space when there are
not twelve pages to step back.
-/

namespace Rshm.Hmm

open RangeLoop AddressLoop

variable {Contents : Type}

/-- `for (i = 0; i < ret; i++)`: each page that is there is unlocked and
put.  The list says which, in order. -/
def unlockAndPut (pages : Nat → Option Page) (ret : Int) (first : Nat) :
    List (Nat × Page) :=
  forEach
    (fun pfn put =>
      match pages pfn with
      | none => put
      | some page => put ++ [(pfn, page)])
    ret.toNat first []

/-- Everything the passes of `dmirror_exclusive` unlock and put, with the pass
that does it. -/
def exclusivePuts (answers : Nat → ExclusiveAnswer) (handed : List Window) :
    List (Nat × Nat × Page) :=
  handed.zipIdx.flatMap fun (window, pass) =>
    (unlockAndPut (answers pass).pages ((answers pass).ret window)
      (pfnOf window.start)).map fun put => (pass, put)

/-- `make_device_exclusive_range` has locked and reported the page. -/
def ExclusiveAnswer.Reports (answer : ExclusiveAnswer) (window : Window)
    (pfn : Nat) (page : Page) : Prop :=
  pfnOf window.start ≤ pfn ∧
    pfn < pfnOf window.start + (answer.ret window).toNat ∧
    answer.pages pfn = some page

theorem unlockAndPut_eq (pages : Nat → Option Page) (ret : Int)
    (first : Nat) :
    unlockAndPut pages ret first =
      (List.range' first ret.toNat).filterMap fun pfn =>
        (pages pfn).map fun page => (pfn, page) := by
  have done := forEach_induction
    (fun next put => put =
      (List.range' first (next - first)).filterMap fun pfn =>
        (pages pfn).map fun page => (pfn, page))
    (fun pfn put =>
      match pages pfn with
      | none => put
      | some page => put ++ [(pfn, page)])
    ret.toNat first [] (by simp) (by
      intro pfn put lower _ held
      have longer : pfn + 1 - first = pfn - first + 1 := by omega
      have last : first + (pfn - first) = pfn := by omega
      rw [longer, List.range'_concat, Nat.one_mul, last,
        List.filterMap_append, ← held]
      cases found : pages pfn with
      | none => simp [found]
      | some page => simp [found])
  rw [Nat.add_sub_cancel_left] at done
  exact done

theorem mem_unlockAndPut {pages : Nat → Option Page} {ret : Int}
    {first pfn : Nat} {page : Page} :
    (pfn, page) ∈ unlockAndPut pages ret first ↔
      first ≤ pfn ∧ pfn < first + ret.toNat ∧ pages pfn = some page := by
  rw [unlockAndPut_eq, List.mem_filterMap]
  constructor
  · rintro ⟨place, member, found⟩
    rw [List.mem_range'_1] at member
    cases reported : pages place with
    | none => simp [reported] at found
    | some other =>
        simp only [reported, Option.map_some, Option.some.injEq,
          Prod.mk.injEq] at found
        obtain ⟨rfl, rfl⟩ := found
        exact ⟨member.1, member.2, reported⟩
  · rintro ⟨lower, upper, found⟩
    refine ⟨pfn, List.mem_range'_1.mpr ⟨lower, upper⟩, ?_⟩
    simp [found]

theorem unlockAndPut_nodup (pages : Nat → Option Page) (ret : Int)
    (first : Nat) : (unlockAndPut pages ret first).Nodup := by
  rw [unlockAndPut_eq]
  apply List.Nodup.filterMap
  · intro a b put left right
    simp only [Option.mem_def, Option.map_eq_some_iff] at left right
    obtain ⟨_, -, rfl⟩ := left
    obtain ⟨_, -, same⟩ := right
    exact (Prod.mk.inj same).1.symm
  · exact List.nodup_range'

/-- Each page that a pass was given is unlocked and put by that pass, and no
page is put twice. -/
theorem exclusivePuts_once (answers : Nat → ExclusiveAnswer)
    (handed : List Window) :
    (exclusivePuts answers handed).Nodup ∧
      ∀ pass pfn page, (pass, pfn, page) ∈ exclusivePuts answers handed ↔
        ∃ window, handed[pass]? = some window ∧
          (answers pass).Reports window pfn page := by
  have member (pass pfn : Nat) (page : Page) :
      (pass, pfn, page) ∈ exclusivePuts answers handed ↔
        ∃ window, handed[pass]? = some window ∧
          (answers pass).Reports window pfn page := by
    unfold exclusivePuts ExclusiveAnswer.Reports
    rw [List.mem_flatMap]
    constructor
    · rintro ⟨⟨window, index⟩, indexed, put⟩
      rw [List.mem_map] at put
      obtain ⟨⟨place, other⟩, listed, same⟩ := put
      obtain ⟨rfl, rfl, rfl⟩ : index = pass ∧ place = pfn ∧ other = page := by
        simpa using same
      exact ⟨window, List.mem_zipIdx_iff_getElem?.mp indexed,
        mem_unlockAndPut.mp listed⟩
    · rintro ⟨window, found, reported⟩
      refine ⟨⟨window, pass⟩, List.mem_zipIdx_iff_getElem?.mpr found, ?_⟩
      exact List.mem_map.mpr ⟨_, mem_unlockAndPut.mpr reported, rfl⟩
  refine ⟨?_, member⟩
  unfold exclusivePuts
  rw [List.nodup_flatMap]
  constructor
  · intro indexed _
    apply List.Nodup.map
    · intro a b same
      exact (Prod.mk.inj same).2
    · exact unlockAndPut_nodup _ _ _
  · have indices : (handed.zipIdx.map Prod.snd).Nodup := by
      rw [List.zipIdx_map_snd]
      exact List.nodup_range'
    rw [List.Nodup, List.pairwise_map] at indices
    apply indices.imp
    intro a b apart
    apply List.disjoint_left.mpr
    rintro ⟨pass, put⟩ left right
    rw [List.mem_map] at left right
    obtain ⟨_, -, leftPass⟩ := left
    obtain ⟨_, -, rightPass⟩ := right
    apply apart
    rw [(Prod.mk.inj leftPass).1, (Prod.mk.inj rightPass).1]

/-- `make_device_exclusive_range` returns the number of pages of the
window. -/
def ExclusiveAnswer.Full (answer : ExclusiveAnswer) (window : Window) :
    Prop :=
  answer.ret window = ((window.stop - window.start) >>> pageShift).toNat

/-- Every page of the window is made exclusive and stored. -/
structure ExclusiveAnswer.Whole (answer : ExclusiveAnswer)
    (window : Window) : Prop where
  full : answer.Full window
  pages : ∀ pfn, pfnOf window.start ≤ pfn → pfn < pfnOf window.stop →
    (answer.pages pfn).isSome = true
  stores : ∀ pfn, pfnOf window.start ≤ pfn → pfn < pfnOf window.stop →
    answer.xaFails pfn = false

/-- `dmirror_atomic_map` is called for the window and an `xa_store` of it
fails. -/
def ExclusiveAnswer.StoreFails (answer : ExclusiveAnswer)
    (window : Window) : Prop :=
  answer.Full window ∧
    ∃ pfn, pfnOf window.start ≤ pfn ∧ pfn < pfnOf window.stop ∧
      (answer.pages pfn).isSome = true ∧ answer.xaFails pfn = true

/-- What `dmirror_atomic_map` does at a page number. -/
def atomicPlan (pages : Nat → Option Page) (pfn : Nat) : Store :=
  match pages pfn with
  | none => .skip
  | some page => .put (some ⟨page, .atomic⟩)

theorem dmirrorAtomicMap_eq (pages : Nat → Option Page)
    (xaFails : Nat → Bool) (count first : Nat) (pt : XArray) :
    dmirrorAtomicMap pages xaFails count first pt =
      ((storeRange (atomicPlan pages) xaFails count first pt).1,
        match (storeRange (atomicPlan pages) xaFails count first pt).2 with
        | some errno => .error errno
        | none => .ok ((List.range count).countP fun i =>
            (pages (first + i)).isSome)) := rfl

/-- `dmirror_atomic_map` fails exactly when a store that it makes does, and
only with `-ENOMEM`. -/
theorem dmirrorAtomicMap_result (pages : Nat → Option Page)
    (xaFails : Nat → Bool) (count first : Nat) (pt : XArray) :
    ((dmirrorAtomicMap pages xaFails count first pt).2 = .error .enomem ∧
      ∃ pfn, first ≤ pfn ∧ pfn < first + count ∧
        (pages pfn).isSome = true ∧ xaFails pfn = true) ∨
    ((dmirrorAtomicMap pages xaFails count first pt).2 =
        .ok ((List.range count).countP fun i =>
          (pages (first + i)).isSome) ∧
      ∀ pfn, first ≤ pfn → pfn < first + count →
        (pages pfn).isSome = true → xaFails pfn = false) := by
  rw [dmirrorAtomicMap_eq]
  obtain ⟨done, bound, -, passed, ended⟩ :=
    storeRange_spec (atomicPlan pages) xaFails count first pt
  generalize storeRange (atomicPlan pages) xaFails count first pt = outcome
    at ended ⊢
  obtain ⟨table, result⟩ := outcome
  cases ended with
  | complete all =>
      refine .inr ⟨rfl, ?_⟩
      intro pfn lower upper present
      obtain ⟨page, found⟩ := Option.isSome_iff_exists.mp present
      have stored := (passed pfn lower (by omega)).2
      exact stored (some ⟨page, .atomic⟩) (by simp [atomicPlan, found])
  | gaveUp early stops =>
      exfalso
      unfold atomicPlan at stops
      split at stops <;> cases stops
  | failed early puts fails =>
      refine .inl ⟨rfl, first + done, by omega, by omega, ?_, fails⟩
      cases found : pages (first + done) with
      | none => simp [atomicPlan, found] at puts
      | some page => rfl

theorem dmirrorAtomicMap_failed (pages : Nat → Option Page)
    {xaFails : Nat → Bool} (count first : Nat) (pt : XArray) {pfn : Nat}
    (fails : xaFails pfn = true) :
    (dmirrorAtomicMap pages xaFails count first pt).1 pfn = pt pfn := by
  rw [dmirrorAtomicMap_eq]
  obtain ⟨done, -, table, passed, -⟩ :=
    storeRange_spec (atomicPlan pages) xaFails count first pt
  rw [table, storedUpTo]
  split
  · next inside =>
    obtain ⟨-, stored⟩ := passed pfn inside.1 inside.2
    split
    · next entry puts =>
      rw [stored entry puts] at fails
      cases fails
    · rfl
  · rfl

theorem ExclusiveAnswer.Whole.table {answer : ExclusiveAnswer}
    {window : Window} (whole : answer.Whole window)
    (order : pfnOf window.start ≤ pfnOf window.stop) (pt : XArray)
    (pfn : Nat) :
    (dmirrorAtomicMap answer.pages answer.xaFails window.npages
        (pfnOf window.start) pt).1 pfn =
      if pfnOf window.start ≤ pfn ∧ pfn < pfnOf window.stop then
        (answer.pages pfn).map fun page => ⟨page, .atomic⟩
      else pt pfn := by
  have width : pfnOf window.start + window.npages = pfnOf window.stop := by
    unfold Window.npages
    omega
  rw [dmirrorAtomicMap_eq]
  obtain ⟨done, bound, table, -, ended⟩ := storeRange_spec
    (atomicPlan answer.pages) answer.xaFails window.npages
    (pfnOf window.start) pt
  have all : done = window.npages := by
    generalize (storeRange (atomicPlan answer.pages) answer.xaFails
      window.npages (pfnOf window.start) pt).2 = result at ended
    cases ended with
    | complete all => exact all
    | gaveUp early stops =>
        exfalso
        unfold atomicPlan at stops
        split at stops <;> cases stops
    | failed early puts fails =>
        rw [whole.stores _ (by omega) (by omega)] at fails
        cases fails
  rw [table, storedUpTo, all, width]
  split
  · next inside =>
    have present := whole.pages pfn inside.1 inside.2
    unfold atomicPlan
    cases found : answer.pages pfn with
    | none => simp [found] at present
    | some page => simp
  · rfl

/-- The twelve pages that `-ENOMEM` steps back. -/
def enomemPages : Nat := 12

/-- `-ENOMEM` as a number of pages reaches the end of the window just when
there are not twelve pages below it. -/
theorem mapped_enomem {addr next : UInt64}
    (rises : addr.toNat < next.toNat)
    (short : next.toNat ≤ addr.toNat + 262144) :
    addr + (mappedPages (.error .enomem) <<< pageShift) < next ↔
      enomemPages * 4096 ≤ addr.toNat := by
  have back : (mappedPages (.error .enomem) <<< pageShift).toNat =
      2 ^ 64 - 49152 := by decide
  have below : next.toNat < 2 ^ 64 := next.toNat_lt
  rw [UInt64.lt_iff_toNat_lt, UInt64.toNat_add, back, enomemPages]
  omega

/-- A count of pages reaches the end of the window just when it counts all of
them. -/
theorem mapped_count {addr next : UInt64} {count : Nat}
    (rises : addr.toNat < next.toNat)
    (first : addr.toNat % 4096 = 0) (last : next.toNat % 4096 = 0)
    (bound : count ≤ Window.npages ⟨addr, next⟩) :
    addr + (mappedPages (.ok count) <<< pageShift) < next ↔
      count < Window.npages ⟨addr, next⟩ := by
  have below : next.toNat < 2 ^ 64 := next.toNat_lt
  unfold Window.npages at bound ⊢
  dsimp only at bound ⊢
  rw [pfnOf_eq, pfnOf_eq] at bound ⊢
  have value : (mappedPages (.ok count)).toNat = count := by
    unfold mappedPages
    dsimp only
    rw [UInt64.toNat_ofNat']
    omega
  rw [UInt64.lt_iff_toNat_lt, UInt64.toNat_add, toNat_shiftPage, value]
  omega

/-- The loop goes on to the next window when this one is stored whole, and
when `-ENOMEM` is taken for the end of it. -/
def ExclusiveAnswer.Passes (answer : ExclusiveAnswer) (window : Window) :
    Prop :=
  answer.Whole window ∨
    (window.start.toNat < enomemPages * 4096 ∧ answer.StoreFails window)

theorem dmirrorExclusiveOne_choice (answers : Nat → ExclusiveAnswer)
    (stop addr : UInt64) (state : ExclusiveState) :
    (dmirrorExclusiveOne answers stop addr state).2 =
      if addr + ((if (answers state.handed.length).ret
            ⟨addr, windowEnd addr stop⟩ =
              ((windowEnd addr stop - addr) >>> pageShift).toNat
          then mappedPages (dmirrorAtomicMap
            (answers state.handed.length).pages
            (answers state.handed.length).xaFails
            (Window.npages ⟨addr, windowEnd addr stop⟩) (pfnOf addr)
            ((answers state.handed.length).others state.pt)).2
          else 0) <<< pageShift) < windowEnd addr stop
      then .error .ebusy else .ok (windowEnd addr stop) := by
  simp only [dmirrorExclusiveOne, exclusive_next]

theorem dmirrorExclusiveOne_table (answers : Nat → ExclusiveAnswer)
    (stop addr : UInt64) (state : ExclusiveState)
    (full : (answers state.handed.length).Full
      ⟨addr, windowEnd addr stop⟩) :
    (dmirrorExclusiveOne answers stop addr state).1.pt =
      (dmirrorAtomicMap (answers state.handed.length).pages
        (answers state.handed.length).xaFails
        (Window.npages ⟨addr, windowEnd addr stop⟩) (pfnOf addr)
        ((answers state.handed.length).others state.pt)).1 := by
  simp only [dmirrorExclusiveOne, exclusive_next]
  exact if_pos full

section Pass

variable {addr next : UInt64} (rises : addr.toNat < next.toNat)
  (short : next.toNat ≤ addr.toNat + 262144)
  (first : addr.toNat % 4096 = 0) (last : next.toNat % 4096 = 0)

include rises first last

theorem npages_add :
    pfnOf addr + Window.npages ⟨addr, next⟩ = pfnOf next := by
  unfold Window.npages
  dsimp only
  rw [pfnOf_eq, pfnOf_eq]
  omega

include short

/-- The number of pages `dmirror_atomic_map` returns brings the loop to the
end of the window just when the window passes. -/
theorem ExclusiveAnswer.passes_iff {answer : ExclusiveAnswer}
    (full : answer.Full ⟨addr, next⟩) (pt : XArray) :
    addr + (mappedPages (dmirrorAtomicMap answer.pages answer.xaFails
        (Window.npages ⟨addr, next⟩) (pfnOf addr) pt).2 <<< pageShift) <
        next ↔
      ¬answer.Passes ⟨addr, next⟩ := by
  have width := npages_add rises first last
  rcases dmirrorAtomicMap_result answer.pages answer.xaFails
      (Window.npages ⟨addr, next⟩) (pfnOf addr) pt with
    ⟨error, pfn, lower, upper, present, fails⟩ | ⟨counted, stores⟩
  · have inside : pfn < pfnOf next := by omega
    have failure : answer.StoreFails ⟨addr, next⟩ :=
      ⟨full, pfn, lower, inside, present, fails⟩
    have notWhole : ¬answer.Whole ⟨addr, next⟩ := by
      intro whole
      rw [whole.stores pfn lower inside] at fails
      cases fails
    rw [error, mapped_enomem rises short]
    constructor
    · intro high passes
      rcases passes with whole | ⟨low, -⟩
      · exact notWhole whole
      · exact Nat.not_lt.mpr high low
    · intro stays
      by_contra low
      exact stays (.inr ⟨Nat.lt_of_not_le low, failure⟩)
  · have bound : ((List.range (Window.npages ⟨addr, next⟩)).countP fun i =>
        (answer.pages (pfnOf addr + i)).isSome) ≤
          Window.npages ⟨addr, next⟩ := by
      apply Nat.le_trans List.countP_le_length
      rw [List.length_range]
    rw [counted, mapped_count rises first last bound]
    constructor
    · intro fewer passes
      rcases passes with whole | ⟨-, -, pfn, lower, upper, present, fails⟩
      · rw [List.countP_eq_length.mpr, List.length_range] at fewer
        · exact absurd fewer (Nat.lt_irrefl _)
        · intro i member
          rw [List.mem_range] at member
          have inside : pfnOf addr + i < pfnOf next := by omega
          exact whole.pages _ (Nat.le_add_right _ _) inside
      · dsimp only at lower upper
        rw [stores pfn lower (by omega) present] at fails
        cases fails
    · intro stays
      apply Nat.lt_of_le_of_ne bound
      intro all
      have present := List.countP_eq_length.mp
        (all.trans List.length_range.symm)
      have every : ∀ pfn, pfnOf addr ≤ pfn → pfn < pfnOf next →
          (answer.pages pfn).isSome = true := by
        intro pfn lower upper
        have found := present (pfn - pfnOf addr)
          (List.mem_range.mpr (by omega))
        rwa [Nat.add_sub_cancel' lower] at found
      apply stays
      refine .inl ⟨full, every, ?_⟩
      intro pfn lower upper
      dsimp only at lower upper
      exact stores pfn lower (by omega) (every pfn lower upper)

omit first last short in
theorem stays_of_none : addr + ((0 : UInt64) <<< pageShift) < next := by
  have zero : (0 : UInt64).toNat = 0 := rfl
  have below : next.toNat < 2 ^ 64 := next.toNat_lt
  rw [UInt64.lt_iff_toNat_lt, UInt64.toNat_add, toNat_shiftPage, zero]
  omega

end Pass

/-- How one pass of the loop of `dmirror_exclusive` ends. -/
theorem dmirrorExclusiveOne_result (answers : Nat → ExclusiveAnswer)
    {stop addr : UInt64}
    (rises : addr.toNat < (windowEnd addr stop).toNat)
    (short : (windowEnd addr stop).toNat ≤ addr.toNat + 262144)
    (first : addr.toNat % 4096 = 0)
    (last : (windowEnd addr stop).toNat % 4096 = 0)
    (state : ExclusiveState) :
    ((answers state.handed.length).Passes ⟨addr, windowEnd addr stop⟩ ∧
      (dmirrorExclusiveOne answers stop addr state).2 =
        .ok (windowEnd addr stop)) ∨
    (¬(answers state.handed.length).Passes ⟨addr, windowEnd addr stop⟩ ∧
      (dmirrorExclusiveOne answers stop addr state).2 = .error .ebusy) := by
  have choice := dmirrorExclusiveOne_choice answers stop addr state
  generalize answers state.handed.length = answer at choice ⊢
  generalize windowEnd addr stop = next at rises short first last choice ⊢
  by_cases full : answer.Full ⟨addr, next⟩
  · have same : answer.ret ⟨addr, next⟩ =
        ((next - addr) >>> pageShift).toNat := full
    have reaches := answer.passes_iff rises short first last full
      (answer.others state.pt)
    rw [if_pos same] at choice
    by_cases passes : answer.Passes ⟨addr, next⟩
    · refine .inl ⟨passes, ?_⟩
      rw [choice, if_neg (fun less => reaches.mp less passes)]
    · refine .inr ⟨passes, ?_⟩
      rw [choice, if_pos (reaches.mpr passes)]
  · have other : ¬answer.ret ⟨addr, next⟩ =
        ((next - addr) >>> pageShift).toNat := full
    rw [if_neg other, if_pos (stays_of_none rises)] at choice
    refine .inr ⟨?_, choice⟩
    intro passes
    rcases passes with whole | ⟨-, failure⟩
    · exact full whole.full
    · exact full failure.1

/-- Window number `k` of a request. -/
def windowAt (start stop : UInt64) (k : Nat) : Window :=
  let addr := start + UInt64.ofNat (262144 * k)
  ⟨addr, windowEnd addr stop⟩

section Loop

variable {answers : Nat → ExclusiveAnswer} {start stop : UInt64}

theorem toNat_windowAt (fits : Fits start stop) {k : Nat}
    (inside : start.toNat + 262144 * k < stop.toNat) :
    (windowAt start stop k).start.toNat = start.toNat + 262144 * k ∧
      (windowAt start stop k).stop.toNat =
        min (start.toNat + 262144 * (k + 1)) stop.toNat := by
  have below : stop.toNat < 2 ^ 64 := stop.toNat_lt
  have place : (start + UInt64.ofNat (262144 * k)).toNat =
      start.toNat + 262144 * k := by
    rw [UInt64.toNat_add, UInt64.toNat_ofNat']
    omega
  have inStep : InStep start stop (start + UInt64.ofNat (262144 * k)) := by
    right
    rw [place]
    omega
  have ending := (windowEnd_of_fits fits inStep (by omega)).1
  refine ⟨place, ?_⟩
  change (windowEnd (start + UInt64.ofNat (262144 * k)) stop).toNat = _
  rw [ending, place, Nat.mul_succ, Nat.add_assoc]

theorem windowAt_rises (fits : Fits start stop)
    (first : start.toNat % 4096 = 0) {k : Nat}
    (inside : start.toNat + 262144 * k < stop.toNat) :
    (windowAt start stop k).start.toNat ≤
        (windowAt start stop k).stop.toNat ∧
      (windowAt start stop k).start.toNat % 4096 = 0 := by
  obtain ⟨low, high⟩ := toNat_windowAt fits inside
  rw [low, high]
  omega

theorem windowAt_covers (fits : Fits start stop)
    (first : start.toNat % 4096 = 0) (last : stop.toNat % 4096 = 0)
    {pfn : Nat} (lower : pfnOf start ≤ pfn) (upper : pfn < pfnOf stop) :
    ∃ k, start.toNat + 262144 * k < stop.toNat ∧
      pfnOf (windowAt start stop k).start ≤ pfn ∧
      pfn < pfnOf (windowAt start stop k).stop := by
  rw [pfnOf_eq] at lower upper
  have inside : start.toNat + 262144 * ((pfn - start.toNat / 4096) / 64) <
      stop.toNat := by omega
  obtain ⟨low, high⟩ := toNat_windowAt fits inside
  refine ⟨(pfn - start.toNat / 4096) / 64, inside, ?_⟩
  rw [pfnOf_eq, pfnOf_eq, low, high]
  omega

/-- The passes so far went through the first windows of the request. -/
structure Swept (answers : Nat → ExclusiveAnswer) (start stop addr : UInt64)
    (state : ExclusiveState) : Prop where
  place : addr.toNat =
    min (start.toNat + 262144 * state.handed.length) stop.toNat
  windows : ∀ k window, state.handed[k]? = some window →
    start.toNat + 262144 * k < stop.toNat ∧ window = windowAt start stop k ∧
      (answers k).Passes window

theorem Swept.entered (order : start.toNat ≤ stop.toNat) (pt : XArray) :
    Swept answers start stop start ⟨pt, []⟩ := by
  constructor
  · rw [List.length_nil]
    omega
  · intro k window found
    cases found

theorem Swept.addr_eq {addr : UInt64} {state : ExclusiveState}
    (swept : Swept answers start stop addr state)
    (inside : addr.toNat < stop.toNat) :
    start.toNat + 262144 * state.handed.length < stop.toNat ∧
      addr = start + UInt64.ofNat (262144 * state.handed.length) := by
  have below : stop.toNat < 2 ^ 64 := stop.toNat_lt
  have place := swept.place
  refine ⟨by omega, ?_⟩
  apply UInt64.toNat_inj.mp
  rw [UInt64.toNat_add, UInt64.toNat_ofNat']
  omega

theorem Swept.next {addr : UInt64} {state after : ExclusiveState}
    (fits : Fits start stop) (swept : Swept answers start stop addr state)
    (inside : addr.toNat < stop.toNat)
    (handed : after.handed = state.handed ++ [⟨addr, windowEnd addr stop⟩])
    (passes : (answers state.handed.length).Passes
      ⟨addr, windowEnd addr stop⟩) :
    Swept answers start stop (windowEnd addr stop) after := by
  obtain ⟨room, address⟩ := swept.addr_eq inside
  have window : (⟨addr, windowEnd addr stop⟩ : Window) =
      windowAt start stop state.handed.length := by
    rw [address]
    rfl
  have ending := (toNat_windowAt fits room).2
  rw [← window] at ending
  constructor
  · rw [handed, List.length_append, List.length_singleton]
    exact ending
  · intro k other found
    rw [handed, List.getElem?_append] at found
    split at found
    · exact swept.windows k other found
    · next beyond =>
      have here : k = state.handed.length := by
        by_contra other
        rw [List.getElem?_eq_none] at found
        · cases found
        · rw [List.length_singleton]
          omega
      subst here
      rw [Nat.sub_self] at found
      obtain rfl := Option.some.inj found
      exact ⟨room, window, passes⟩

end Loop

section Request

variable {answers : Nat → ExclusiveAnswer} {start stop : UInt64}
  (fits : Fits start stop) (first : start.toNat % 4096 = 0)
  (last : stop.toNat % 4096 = 0)

include fits first last

theorem dmirrorExclusiveOne_swept {addr : UInt64} {state : ExclusiveState}
    (swept : Swept answers start stop addr state)
    (inside : addr.toNat < stop.toNat) :
    addr.toNat < (windowEnd addr stop).toNat ∧
      (windowEnd addr stop).toNat ≤ addr.toNat + 262144 ∧
      addr.toNat % 4096 = 0 ∧ (windowEnd addr stop).toNat % 4096 = 0 := by
  obtain ⟨room, address⟩ := swept.addr_eq inside
  obtain ⟨low, high⟩ := toNat_windowAt fits room
  have window : windowAt start stop state.handed.length =
      ⟨addr, windowEnd addr stop⟩ := by
    rw [address]
    rfl
  rw [window] at low high
  dsimp only at low high
  omega

theorem dmirrorExclusive_swept (order : start.toNat ≤ stop.toNat)
    (passes : Nat) (pt : XArray) :
    Concludes stop (Swept answers start stop) (fun _ _ => True)
      (forAddress (dmirrorExclusiveOne answers stop) stop passes start
        ⟨pt, []⟩) := by
  apply forAddress_induction
  · intro addr state after next inside swept pass
    rw [UInt64.lt_iff_toNat_lt] at inside
    obtain ⟨rises, short, low, high⟩ :=
      dmirrorExclusiveOne_swept fits first last swept inside
    obtain ⟨handed, choice⟩ := dmirrorExclusiveOne_hands answers stop addr state
    have result := dmirrorExclusiveOne_result answers rises short low high
      state
    rw [pass] at handed choice result
    rcases result with ⟨went, -⟩ | ⟨-, failed⟩
    · rw [choice next rfl]
      exact swept.next fits inside handed went
    · cases failed
  · intro addr state after errno _ _ _
    trivial
  · exact .entered order pt

/-- Nothing else changes the entry of a page while the loop runs. -/
def Undisturbed (answers : Nat → ExclusiveAnswer) (pfn : Nat) : Prop :=
  ∀ k pt, (answers k).others pt pfn = pt pfn

theorem dmirrorExclusive_stored (order : start.toNat ≤ stop.toNat)
    (whole : ∀ k, start.toNat + 262144 * k < stop.toNat →
      (answers k).Whole (windowAt start stop k))
    (passes : Nat) (pt : XArray) :
    Concludes stop
      (fun addr state => Swept answers start stop addr state ∧
        ∀ pfn, Undisturbed answers pfn → pfnOf start ≤ pfn →
          pfn < pfnOf addr → ∃ page, state.pt pfn = some ⟨page, .atomic⟩)
      (fun _ _ => True)
      (forAddress (dmirrorExclusiveOne answers stop) stop passes start
        ⟨pt, []⟩) := by
  apply forAddress_induction
  · intro addr state after next inside held pass
    obtain ⟨swept, stored⟩ := held
    rw [UInt64.lt_iff_toNat_lt] at inside
    obtain ⟨rises, short, low, high⟩ :=
      dmirrorExclusiveOne_swept fits first last swept inside
    obtain ⟨room, address⟩ := swept.addr_eq inside
    have window : windowAt start stop state.handed.length =
        ⟨addr, windowEnd addr stop⟩ := by
      rw [address]
      rfl
    have here := whole _ room
    rw [window] at here
    obtain ⟨handed, choice⟩ := dmirrorExclusiveOne_hands answers stop addr state
    have table := dmirrorExclusiveOne_table answers stop addr state here.full
    rw [pass] at handed choice table
    rw [choice next rfl]
    dsimp only at table
    have lowest : start.toNat ≤ addr.toNat := by
      have place := swept.place
      omega
    have highest : (windowEnd addr stop).toNat ≤ stop.toNat := by
      have ending := (toNat_windowAt fits room).2
      rw [window] at ending
      dsimp only at ending
      omega
    have pfns : pfnOf start ≤ pfnOf addr ∧
        pfnOf addr ≤ pfnOf (windowEnd addr stop) ∧
        pfnOf (windowEnd addr stop) ≤ pfnOf stop := by
      rw [pfnOf_eq, pfnOf_eq, pfnOf_eq, pfnOf_eq]
      omega
    refine ⟨swept.next fits inside handed (.inl here), ?_⟩
    intro pfn undisturbed lower upper
    rw [table, here.table pfns.2.1]
    dsimp only
    split
    · next within =>
      obtain ⟨page, found⟩ := Option.isSome_iff_exists.mp
        (here.pages pfn within.1 within.2)
      exact ⟨page, by rw [found]; rfl⟩
    · rw [undisturbed]
      exact stored pfn undisturbed lower (by omega)
  · intro addr state after errno _ _ _
    trivial
  · exact ⟨.entered order pt, fun pfn _ lower upper => by omega⟩

end Request

/-- Pass `k` went through `window`, was given `page` for `pfn`, and its
`dmirror_atomic_map` left the page there, whatever the mirror was before. -/
structure StoredBy (answers : Nat → ExclusiveAnswer) (handed : List Window)
    (pfn k : Nat) (window : Window) (page : Page) : Prop where
  handed : handed[k]? = some window
  full : (answers k).Full window
  inside : pfnOf window.start ≤ pfn ∧ pfn < pfnOf window.stop
  reported : (answers k).Reports window pfn page
  stored : ∀ table, (dmirrorAtomicMap (answers k).pages (answers k).xaFails
    window.npages (pfnOf window.start) table).1 pfn = some ⟨page, .atomic⟩

/-- EXCLUSIVE is all or error: behind its loop every page of the range has
been stored, a call that could not store a page returns an error, and what was
reported is put. -/
structure AllOrError (Contents : Type) (cmd : HmmDmirrorCmd)
    (answers : Nat → ExclusiveAnswer) (pt : XArray) : Prop where
  stored : ∀ passes,
    let loop := forAddress (dmirrorExclusiveOne answers cmd.stop) cmd.stop
      passes cmd.addr ⟨pt, []⟩
    loop.2 = .ended → ∀ pfn, pfnOf cmd.addr ≤ pfn → pfn < pfnOf cmd.stop →
      ∃ k window page, StoredBy answers loop.1.handed pfn k window page
  atomic : ∀ passes,
    let loop := forAddress (dmirrorExclusiveOne answers cmd.stop) cmd.stop
      passes cmd.addr ⟨pt, []⟩
    loop.2 = .ended →
      (∀ pfn, pfnOf cmd.addr ≤ pfn → pfn < pfnOf cmd.stop →
        Undisturbed answers pfn) →
      ∀ first count, pfnOf cmd.addr ≤ first →
        first + count ≤ pfnOf cmd.stop → 0 < count →
        dmirrorCheckAtomic loop.1.pt count first = some .eperm
  error : ∀ (env : SweepEnv ExclusiveAnswer) (back : ReadBackEnv Contents)
    served, env.answers = answers →
      dmirrorExclusive cmd env back pt = some served →
      (∃ k window, served.windows[k]? = some window ∧
        ¬(answers k).Whole window) →
      served.ret ≠ none
  puts : ∀ passes,
    let loop := forAddress (dmirrorExclusiveOne answers cmd.stop) cmd.stop
      passes cmd.addr ⟨pt, []⟩
    (exclusivePuts answers loop.1.handed).Nodup ∧
      ∀ k pfn page, (k, pfn, page) ∈ exclusivePuts answers loop.1.handed ↔
        ∃ window, loop.1.handed[k]? = some window ∧
          (answers k).Reports window pfn page

/-- In the first window, below the twelfth page, a store fails, and all the
other windows of the range are stored whole. -/
structure LosesStore (cmd : HmmDmirrorCmd)
    (answers : Nat → ExclusiveAnswer) : Prop where
  low : cmd.addr.toNat < enomemPages * 4096
  fits : Fits cmd.addr cmd.stop
  fails : (answers 0).StoreFails (windowAt cmd.addr cmd.stop 0)
  others : ∀ k, 0 < k → cmd.addr.toNat + 262144 * k < cmd.stop.toNat →
    (answers k).Whole (windowAt cmd.addr cmd.stop k)

section Call

variable {cmd : HmmDmirrorCmd} {answers : Nat → ExclusiveAnswer}
  {passes : Nat} {pt : XArray}

/-- A loop that ends has stored every window whole, or has taken a failed
store of the first window for the end of it. -/
theorem whole_of_ended (admitted : cmd.Admitted)
    (keeps : ¬LosesStore cmd answers)
    (ended : (forAddress (dmirrorExclusiveOne answers cmd.stop) cmd.stop
      passes cmd.addr ⟨pt, []⟩).2 = .ended) :
    Fits cmd.addr cmd.stop ∧
      ∀ k, cmd.addr.toNat + 262144 * k < cmd.stop.toNat →
        (answers k).Whole (windowAt cmd.addr cmd.stop k) ∧
        (forAddress (dmirrorExclusiveOne answers cmd.stop) cmd.stop passes
          cmd.addr ⟨pt, []⟩).1.handed[k]? =
            some (windowAt cmd.addr cmd.stop k) := by
  obtain ⟨first, last, order⟩ := admitted.range
  have fits : Fits cmd.addr cmd.stop :=
    (dmirrorExclusiveOne_hands answers cmd.stop).fits_of_ended
      (UInt64.lt_iff_toNat_lt.mpr order) ended
  obtain ⟨addr, beyond, swept⟩ := (dmirrorExclusive_swept fits first last
    (Nat.le_of_lt order) passes pt).ended ended
  generalize (forAddress (dmirrorExclusiveOne answers cmd.stop) cmd.stop
    passes cmd.addr ⟨pt, []⟩).1 = state at swept ⊢
  rw [UInt64.lt_iff_toNat_lt] at beyond
  have place := swept.place
  have reached (k : Nat)
      (inside : cmd.addr.toNat + 262144 * k < cmd.stop.toNat) :
      state.handed[k]? = some (windowAt cmd.addr cmd.stop k) ∧
        (answers k).Passes (windowAt cmd.addr cmd.stop k) := by
    have listed : k < state.handed.length := by omega
    obtain ⟨-, window, went⟩ := swept.windows k state.handed[k]
      (List.getElem?_eq_getElem listed)
    rw [List.getElem?_eq_getElem listed, window]
    exact ⟨rfl, window ▸ went⟩
  have later (k : Nat) (positive : 0 < k)
      (inside : cmd.addr.toNat + 262144 * k < cmd.stop.toNat) :
      (answers k).Whole (windowAt cmd.addr cmd.stop k) := by
    rcases (reached k inside).2 with whole | ⟨low, -⟩
    · exact whole
    · rw [(toNat_windowAt fits inside).1, enomemPages] at low
      omega
  refine ⟨fits, ?_⟩
  intro k inside
  refine ⟨?_, (reached k inside).1⟩
  cases k with
  | succ k => exact later (k + 1) (Nat.succ_pos k) inside
  | zero =>
      rcases (reached 0 inside).2 with whole | ⟨low, fails⟩
      · exact whole
      · rw [(toNat_windowAt fits inside).1] at low
        exact absurd ⟨low, fits, fails, later⟩ keeps

/-- The pages of a whole window are those that the call has reported. -/
theorem ExclusiveAnswer.Whole.reports {answer : ExclusiveAnswer}
    {window : Window} (whole : answer.Whole window)
    (order : window.start.toNat ≤ window.stop.toNat)
    (first : window.start.toNat % 4096 = 0) {pfn : Nat}
    (lower : pfnOf window.start ≤ pfn) (upper : pfn < pfnOf window.stop) :
    ∃ page, answer.Reports window pfn page := by
  obtain ⟨page, found⟩ := Option.isSome_iff_exists.mp
    (whole.pages pfn lower upper)
  refine ⟨page, lower, ?_, found⟩
  have count : answer.ret window = (pfnOf (window.stop - window.start)) :=
    whole.full
  rw [count, Int.toNat_natCast, pfnOf_eq, pfnOf_eq,
    UInt64.toNat_sub_of_le _ _ (UInt64.le_iff_toNat_le.mpr order)]
  rw [pfnOf_eq] at lower upper
  omega

theorem readBack_windows (cmd : HmmDmirrorCmd) (back : ReadBackEnv Contents)
    (pt : XArray) (windows : List Window) :
    (readBack cmd back pt windows).windows = windows := by
  unfold readBack
  split
  · rfl
  · dsimp only
    split
    · rfl
    · split <;> rfl

theorem allOrError_of_keeps (admitted : cmd.Admitted)
    (keeps : ¬LosesStore cmd answers) :
    AllOrError Contents cmd answers pt := by
  obtain ⟨first, last, order⟩ := admitted.range
  have range := Nat.le_of_lt order
  constructor
  · intro passes loop ended pfn lower upper
    obtain ⟨fits, whole⟩ := whole_of_ended admitted keeps ended
    obtain ⟨k, inside, within⟩ := windowAt_covers fits first last lower upper
    obtain ⟨here, handed⟩ := whole k inside
    obtain ⟨rises, aligned⟩ := windowAt_rises fits first inside
    obtain ⟨page, reported⟩ := here.reports rises aligned within.1 within.2
    refine ⟨k, _, page, handed, here.full, within, reported, ?_⟩
    intro table
    rw [here.table (Nat.le_trans within.1 (Nat.le_of_lt within.2)) table pfn,
      if_pos within, reported.2.2]
    rfl
  · intro passes loop ended undisturbed place count lower upper positive
    obtain ⟨fits, whole⟩ := whole_of_ended admitted keeps ended
    obtain ⟨addr, beyond, -, stored⟩ :=
      (dmirrorExclusive_stored fits first last range
        (fun k inside => (whole k inside).1) passes pt).ended ended
    rw [UInt64.lt_iff_toNat_lt] at beyond
    have reached : pfnOf cmd.stop ≤ pfnOf addr := by
      rw [pfnOf_eq, pfnOf_eq]
      omega
    obtain ⟨page, found⟩ := stored place
      (undisturbed place lower (by omega)) lower (by omega)
    rw [dmirrorCheckAtomic_iff]
    exact ⟨place, page, Nat.le_refl _, by omega, found⟩
  · intro env back served same returned failed zero
    subst same
    unfold dmirrorExclusive at returned
    split at returned
    · obtain rfl := Option.some.inj returned
      cases zero
    · split at returned
      · obtain rfl := Option.some.inj returned
        cases zero
      · split at returned
        · cases returned
        · obtain rfl := Option.some.inj returned
          cases zero
        · next state outcome =>
          obtain rfl := Option.some.inj returned
          obtain ⟨k, window, listed, broken⟩ := failed
          rw [readBack_windows] at listed
          have ended : (forAddress (dmirrorExclusiveOne env.answers cmd.stop)
              cmd.stop env.passes cmd.addr ⟨pt, []⟩).2 = .ended := by
            rw [outcome]
          obtain ⟨fits, whole⟩ := whole_of_ended admitted keeps ended
          obtain ⟨addr, -, swept⟩ := (dmirrorExclusive_swept fits first last
            range env.passes pt).ended ended
          rw [outcome] at swept
          obtain ⟨inside, rfl, -⟩ := swept.windows k window listed
          exact broken (whole k inside).1
  · intro passes loop
    exact exclusivePuts_once answers loop.1.handed

theorem LosesStore.ended (admitted : cmd.Admitted)
    (loses : LosesStore cmd answers) :
    (forAddress (dmirrorExclusiveOne answers cmd.stop) cmd.stop
      (cmd.stop.toNat + 1) cmd.addr ⟨pt, []⟩).2 = .ended := by
  obtain ⟨first, last, order⟩ := admitted.range
  have fits := loses.fits
  have passes (addr : UInt64) (state : ExclusiveState)
      (swept : Swept answers cmd.addr cmd.stop addr state)
      (inside : addr.toNat < cmd.stop.toNat) :
      (dmirrorExclusiveOne answers cmd.stop addr state).2 =
          .ok (windowEnd addr cmd.stop) ∧
        ∀ after, after.handed =
            state.handed ++ [⟨addr, windowEnd addr cmd.stop⟩] →
          Swept answers cmd.addr cmd.stop (windowEnd addr cmd.stop) after := by
    obtain ⟨room, address⟩ := swept.addr_eq inside
    obtain ⟨rises, short, low, high⟩ :=
      dmirrorExclusiveOne_swept fits first last swept inside
    have window : windowAt cmd.addr cmd.stop state.handed.length =
        ⟨addr, windowEnd addr cmd.stop⟩ := by
      rw [address]
      rfl
    have went : (answers state.handed.length).Passes
        ⟨addr, windowEnd addr cmd.stop⟩ := by
      rw [← window]
      cases position : state.handed.length with
      | zero =>
          rw [position] at room
          refine .inr ⟨?_, loses.fails⟩
          rw [(toNat_windowAt fits room).1]
          exact loses.low
      | succ k =>
          rw [position] at room
          exact .inl (loses.others (k + 1) (Nat.succ_pos k) room)
    refine ⟨?_, fun after handed => swept.next fits inside handed went⟩
    rcases dmirrorExclusiveOne_result answers rises short low high state with
      ⟨-, result⟩ | ⟨stays, -⟩
    · exact result
    · exact absurd went stays
  have continues : ∀ addr state after next, addr < cmd.stop →
      Swept answers cmd.addr cmd.stop addr state →
      dmirrorExclusiveOne answers cmd.stop addr state = (after, .ok next) →
      Swept answers cmd.addr cmd.stop next after ∧
        cmd.stop.toNat - next.toNat < cmd.stop.toNat - addr.toNat := by
    intro addr state after next inside swept pass
    rw [UInt64.lt_iff_toNat_lt] at inside
    obtain ⟨rises, -⟩ := dmirrorExclusiveOne_swept fits first last swept inside
    obtain ⟨handed, choice⟩ :=
      dmirrorExclusiveOne_hands answers cmd.stop addr state
    rw [pass] at handed choice
    rw [choice next rfl]
    exact ⟨(passes addr state swept inside).2 after handed, by omega⟩
  have entered : Swept answers cmd.addr cmd.stop cmd.addr ⟨pt, []⟩ :=
    .entered (Nat.le_of_lt order) pt
  have concluded := forAddress_induction cmd.stop
    (Swept answers cmd.addr cmd.stop) (fun _ _ => False)
    (dmirrorExclusiveOne answers cmd.stop)
    (fun addr state after next inside swept pass =>
      (continues addr state after next inside swept pass).1)
    (by
      intro addr state after errno inside swept pass
      have result := (passes addr state swept
        (UInt64.lt_iff_toNat_lt.mp inside)).1
      rw [pass] at result
      cases result)
    (cmd.stop.toNat + 1) cmd.addr ⟨pt, []⟩ entered
  have returns := forAddress_returns cmd.stop
    (fun addr => cmd.stop.toNat - addr.toNat)
    (Swept answers cmd.addr cmd.stop) (dmirrorExclusiveOne answers cmd.stop)
    continues (cmd.stop.toNat + 1) cmd.addr ⟨pt, []⟩ entered (by omega)
  cases outcome : (forAddress (dmirrorExclusiveOne answers cmd.stop) cmd.stop
      (cmd.stop.toNat + 1) cmd.addr ⟨pt, []⟩).2 with
  | running => exact absurd outcome returns
  | ended => rfl
  | left errno => exact (concluded.left outcome).elim

theorem LosesStore.breaks (admitted : cmd.Admitted)
    (loses : LosesStore cmd answers) :
    ¬AllOrError Contents cmd answers pt := by
  intro allOrError
  obtain ⟨first, last, order⟩ := admitted.range
  have fits := loses.fits
  have ended : (forAddress (dmirrorExclusiveOne answers cmd.stop) cmd.stop
      (cmd.stop.toNat + 1) cmd.addr ⟨pt, []⟩).2 = .ended :=
    loses.ended admitted
  obtain ⟨-, pfn, lower, upper, -, fails⟩ := loses.fails
  have room : cmd.addr.toNat + 262144 * 0 < cmd.stop.toNat := by omega
  obtain ⟨low, high⟩ := toNat_windowAt fits room
  rw [pfnOf_eq] at lower upper
  obtain ⟨k, window, page, stored⟩ := allOrError.stored _ ended pfn
    (by rw [pfnOf_eq]; omega) (by rw [pfnOf_eq]; omega)
  obtain ⟨addr, -, swept⟩ := (dmirrorExclusive_swept fits first last
    (Nat.le_of_lt order) _ pt).ended ended
  obtain ⟨inside, rfl, -⟩ := swept.windows k window stored.handed
  have here : k = 0 := by
    have starts := (toNat_windowAt fits inside).1
    have within := stored.inside.1
    rw [pfnOf_eq] at within
    omega
  subst here
  have found := stored.stored fun _ => none
  rw [dmirrorAtomicMap_failed _ _ _ _ fails] at found
  cases found

end Call

/-- EXCLUSIVE is all or error, except when it loses a store of the first
window. -/
theorem exclusive_all_or_error_iff (cmd : HmmDmirrorCmd)
    (admitted : cmd.Admitted) (answers : Nat → ExclusiveAnswer)
    (pt : XArray) :
    AllOrError Contents cmd answers pt ↔ ¬LosesStore cmd answers := by
  constructor
  · intro allOrError loses
    exact loses.breaks admitted allOrError
  · intro keeps
    exact allOrError_of_keeps admitted keeps

/-- One page at address 0, with no memory for the mirror's entry. -/
def exclusiveNoMemory : ExclusiveAnswer where
  others := id
  ret := fun _ => 1
  pages := fun _ => some (.normal 7)
  xaFails := fun _ => true

theorem exclusive_all_or_error_above :
    AllOrError Nat ⟨49152, 0, 1, 0, 0⟩ (fun _ => exclusiveNoMemory)
      fun _ => none :=
  (exclusive_all_or_error_iff ⟨49152, 0, 1, 0, 0⟩ (by decide)
    (fun _ => exclusiveNoMemory) fun _ => none).mpr fun loses =>
      absurd loses.low (by decide)

theorem exclusive_loses_store :
    ¬∀ (cmd : HmmDmirrorCmd) (answers : Nat → ExclusiveAnswer) (pt : XArray),
      cmd.Admitted → AllOrError Nat cmd answers pt := by
  intro always
  let cmd : HmmDmirrorCmd := ⟨0, 0, 1, 0, 0⟩
  have admitted : cmd.Admitted := by decide
  have loses : LosesStore cmd fun _ => exclusiveNoMemory := by
    refine ⟨by decide, by decide, ⟨?_, 0, ?_, ?_, rfl, rfl⟩, ?_⟩
    · have one : ((windowAt cmd.addr cmd.stop 0).stop -
          (windowAt cmd.addr cmd.stop 0).start) >>> pageShift = 1 := by decide
      rw [ExclusiveAnswer.Full, one]
      rfl
    · decide
    · decide
    · intro k positive inside
      have stop : cmd.stop.toNat = 4096 := by decide
      omega
  exact loses.breaks admitted (always cmd _ (fun _ => none) admitted)

end Rshm.Hmm
