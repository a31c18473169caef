import Rshm.Mm.CollectExact

/-!
# Huge pages in the walk

Which huge pages `migrate_vma_collect` splits, which references to them it
keeps, and how it comes to each of its slots: all of it is decided by the
callbacks and by the pages before the walk.
-/

namespace Rshm.Mm

open RangeLoop

variable {host : Host} {args : CollectArgs} {start kernel : Kernel}
  {walk : Collect}

/-- The huge page whose lock the walk tries to take. -/
def PmdLook.hugePage : PmdLook → Option Pfn
  | raced again => again.hugePage
  | huge page _ _ _ => some page
  | _ => Option.none

/-- The huge page that `split_huge_page` can split. -/
def PmdLook.splitPage : PmdLook → Option Pfn
  | raced again => again.splitPage
  | huge page split _ _ => if split = 0 then some page else Option.none
  | _ => Option.none

def Segment.hugePage : Segment → Option Pfn
  | hole _ => none
  | pmd _ look => look.hugePage

def Segment.splitPage : Segment → Option Pfn
  | hole _ => none
  | pmd _ look => look.splitPage

/-- How often the walk comes to a huge page. -/
def hugeLooks (page : Pfn) (segments : List Segment) : Nat :=
  segments.countP fun segment => decide (segment.hugePage = some page)

/-- The slot before which the walk can first split a huge page. -/
def splitSlot (page : Pfn) : List Segment → Nat → Option Nat
  | [], _ => none
  | segment :: rest, slot =>
      if segment.splitPage = some page then some slot
      else splitSlot page rest (slot + segment.count)

/-- What a look at a huge page does to its references and to the page. -/
theorem collectPmdLook_huge (walked : Walked host args start walk)
    (look : PmdLook) (page : Pfn) :
    (collectPmdLook host look walk).2.lost page = walk.lost page +
        (if (start.isHuge host page && (start.frame page).locked) ∧
            look.hugePage = some page then 1 else 0) ∧
      (collectPmdLook host look walk).2.split page = (walk.split page).or
        (if (start.isHuge host page && !(start.frame page).locked) ∧
            look.splitPage = some page then some walk.npages else none) := by
  induction look with
  | none => simp [collectPmdLook, PmdLook.hugePage, PmdLook.splitPage]
  | table bad => simp [collectPmdLook, PmdLook.hugePage, PmdLook.splitPage]
  | hugeZero unstable bad =>
      simp [collectPmdLook, PmdLook.hugePage, PmdLook.splitPage]
  | raced again induction => exact induction
  | huge found split gone bad =>
      have got : ((walk.kernel.getPage found).frame found).locked =
          (walk.kernel.frame found).locked := by rw [Kernel.getPage_frame]
      have huge := walked.isHuge_iff found
      unfold collectPmdLook PmdLook.hugePage PmdLook.splitPage
      dsimp only
      rw [got]
      by_cases same : found = page
      · subst same
        cases whole : walk.kernel.isHuge host found with
        | false =>
            rw [whole] at huge
            cases first : start.isHuge host found with
            | false => simp
            | true =>
                cases slot : walk.split found with
                | none => simp [first, slot] at huge
                | some slot' =>
                    obtain ⟨-, -, free⟩ := walked.splits found slot' slot
                    simp [free, slot]
        | true =>
            obtain ⟨first, unsplit⟩ := huge.mp whole
            rw [walked.isHuge_locked whole]
            cases locked : (start.frame found).locked with
            | true => simp [first, unsplit]
            | false =>
                by_cases splits : split = 0
                · simp [first, unsplit, splits]
                · simp [splits, unsplit]
      · have other : page ≠ found := fun equal => same equal.symm
        split
        · simp [same]
        · split
          · simp [same, other]
          · split
            · simp [same, other]
            · simp [same]

/-- A part of the walk that fills its slots in one way. -/
structure Reaches (reached : PmdEnd) (count : Nat) (walk next : Collect) :
    Prop where
  lost : next.lost = walk.lost
  split : next.split = walk.split
  npages : next.npages = walk.npages + count
  ends : ∀ i, next.ends i =
    if walk.npages ≤ i ∧ i < walk.npages + count then reached
    else walk.ends i

theorem Reaches.push (walk : Collect) (reached : PmdEnd) (mpfn : UInt64) :
    Reaches reached 1 walk (walk.push reached mpfn) := by
  refine ⟨rfl, rfl, rfl, ?_⟩
  intro i
  by_cases here : i = walk.npages
  · subst here
    rw [if_pos (by omega)]
    exact Function.update_self ..
  · rw [if_neg (by omega)]
    exact Function.update_of_ne here ..

theorem Reaches.trans {reached : PmdEnd} {count more : Nat}
    {walk next after : Collect} (first : Reaches reached count walk next)
    (second : Reaches reached more next after) :
    Reaches reached (count + more) walk after := by
  refine ⟨second.lost.trans first.lost, second.split.trans first.split, ?_,
    ?_⟩
  · rw [second.npages, first.npages, Nat.add_assoc]
  · intro i
    rw [second.ends, first.ends, first.npages]
    by_cases late : walk.npages + count ≤ i ∧
        i < walk.npages + count + more
    · rw [if_pos late, if_pos (by omega)]
    · rw [if_neg late]
      congr 1
      apply propext
      omega

theorem Reaches.forEach {reached : PmdEnd} (body : Nat → Collect → Collect)
    (each : ∀ index walk, Reaches reached 1 walk (body index walk))
    (count first : Nat) (walk : Collect) :
    Reaches reached count walk (forEach body count first walk) := by
  induction count generalizing first walk with
  | zero =>
      refine ⟨rfl, rfl, rfl, ?_⟩
      intro i
      rw [if_neg (by omega)]
      rfl
  | succ count induction =>
      have whole := (each first walk).trans
        (induction (first + 1) (body first walk))
      rw [Nat.add_comm] at whole
      exact whole

theorem collectPte_reaches (index : Nat) (walk : Collect) :
    Reaches .walk 1 walk (collectPte host args index walk) := by
  have same (kernel : Kernel) (cpages : Nat) (mpfn : UInt64) :
      Reaches .walk 1 walk
        ({ walk with kernel := kernel, cpages := cpages }.push .walk mpfn) := by
    have pushed := Reaches.push walk .walk mpfn
    exact ⟨pushed.lost, pushed.split, pushed.npages, pushed.ends⟩
  unfold collectPte collectPage
  dsimp only
  split
  · exact same ..
  · exact same ..
  · split
    · exact same ..
    · split
      · exact same ..
      · split
        · exact same ..
        · exact same ..

theorem migrateVmaCollectSkip_reaches (count first : Nat) (walk : Collect) :
    Reaches .skip count walk (migrateVmaCollectSkip count first walk) :=
  .forEach _ (fun _ walk => .push walk .skip 0) count first walk

/-- How the slots of a callback are reached: only anonymous memory is
populated. -/
def PmdEnd.filled (args : CollectArgs) : PmdEnd → PmdEnd
  | hole => if args.anonymous then hole else skip
  | reached => reached

theorem migrateVmaCollectHole_reaches (count first : Nat) (walk : Collect) :
    Reaches (PmdEnd.hole.filled args) count walk
      (migrateVmaCollectHole args count first walk) := by
  unfold migrateVmaCollectHole PmdEnd.filled
  cases anonymous : args.anonymous with
  | false => exact migrateVmaCollectSkip_reaches count first walk
  | true =>
      refine .forEach _ ?_ count first walk
      intro _ walk
      have pushed := Reaches.push walk .hole migratePfnMigrate
      exact ⟨pushed.lost, pushed.split, pushed.npages, pushed.ends⟩

/-- What the walk makes of an entry of the middle level, by the huge pages
that it has split before. -/
def PmdLook.reached (host : Host) (start : Kernel) (done : Pfn → Bool) :
    PmdLook → PmdEnd
  | none => .hole
  | table bad => if bad then .skip else .walk
  | raced again => again.reached host start done
  | hugeZero unstable bad =>
      if unstable then .skip else if bad then .skip else .walk
  | huge page split gone bad =>
      if (start.isHuge host page && !done page) = true ∧
          ((start.frame page).locked = true ∨ split ≠ 0) then .skip
      else if gone then .hole else if bad then .skip else .walk

def Segment.reached (host : Host) (args : CollectArgs) (start : Kernel)
    (done : Pfn → Bool) : Segment → PmdEnd
  | hole _ => PmdEnd.hole.filled args
  | pmd _ look => (look.reached host start done).filled args

/-- The huge pages that have been split after a callback. -/
def Segment.splits (host : Host) (start : Kernel) (done : Pfn → Bool)
    (segment : Segment) (page : Pfn) : Bool :=
  done page || (start.isHuge host page && !(start.frame page).locked &&
    decide (segment.splitPage = some page))

/-- How the walk reaches each of its slots. -/
def slotEnds (host : Host) (args : CollectArgs) (start : Kernel) :
    List Segment → (Pfn → Bool) → List PmdEnd
  | [], _ => []
  | segment :: rest, done =>
      List.replicate segment.count (segment.reached host args start done) ++
        slotEnds host args start rest (segment.splits host start done)

theorem collectPmdLook_reached (walked : Walked host args start walk)
    (look : PmdLook) :
    (collectPmdLook host look walk).1 =
      look.reached host start fun page => (walk.split page).isSome := by
  induction look with
  | none => rfl
  | table bad => rfl
  | hugeZero unstable bad => rfl
  | raced again induction => exact induction
  | huge page split gone bad =>
      have got : ((walk.kernel.getPage page).frame page).locked =
          (walk.kernel.frame page).locked := by rw [Kernel.getPage_frame]
      have huge := walked.isHuge_iff page
      unfold collectPmdLook PmdLook.reached
      dsimp only
      rw [got]
      cases whole : walk.kernel.isHuge host page with
      | false =>
          have done : (start.isHuge host page &&
              !(walk.split page).isSome) = false := by
            rw [whole] at huge
            cases slot : walk.split page with
            | none => simpa [slot] using huge
            | some slot' => simp
          rw [done]
          simp
      | true =>
          obtain ⟨first, unsplit⟩ := huge.mp whole
          rw [walked.isHuge_locked whole, first, unsplit]
          cases locked : (start.frame page).locked with
          | true => simp
          | false =>
              by_cases splits : split = 0
              · simp [splits]
              · simp [splits]

/-- What a part of the walk does to a huge page. -/
structure Looks (host : Host) (start : Kernel) (page : Pfn) (looks : Nat)
    (slot : Option Nat) (walk next : Collect) : Prop where
  lost : next.lost page = walk.lost page +
    if start.isHuge host page && (start.frame page).locked then looks else 0
  split : next.split page = (walk.split page).or
    (if start.isHuge host page && !(start.frame page).locked then slot
      else none)

theorem Looks.trans {page : Pfn} {looks more : Nat} {slot slot' : Option Nat}
    {next after : Collect} (first : Looks host start page looks slot walk next)
    (second : Looks host start page more slot' next after) :
    Looks host start page (looks + more) (slot.or slot') walk after := by
  constructor
  · rw [second.lost, first.lost]
    split
    · omega
    · rfl
  · rw [second.split, first.split]
    split
    · exact Option.or_assoc
    · simp

theorem collectPmdLook_ends (look : PmdLook) (walk : Collect) :
    (collectPmdLook host look walk).2.ends = walk.ends := by
  induction look with
  | none => rfl
  | table bad => rfl
  | hugeZero unstable bad => rfl
  | raced again induction => exact induction
  | huge page split gone bad =>
      unfold collectPmdLook
      dsimp only
      split
      · rfl
      · split
        · rfl
        · split
          · rfl
          · rfl

theorem Segment.collect_reaches (segment : Segment)
    (walked : Walked host args start walk) (first : Nat) :
    ∃ between, Reaches (segment.reached host args start fun page =>
          (walk.split page).isSome) segment.count between
        (segment.collect host args first walk) ∧
      between.npages = walk.npages ∧ between.ends = walk.ends ∧
      ∀ page, Looks host start page
        (if segment.hugePage = some page then 1 else 0)
        (if segment.splitPage = some page then some walk.npages else none)
        walk between := by
  cases segment with
  | hole count =>
      refine ⟨walk, migrateVmaCollectHole_reaches count first walk, rfl, rfl,
        ?_⟩
      intro page
      constructor
      · simp [Segment.hugePage]
      · simp [Segment.splitPage]
  | pmd count look =>
      have reached := collectPmdLook_reached walked look
      have huge := collectPmdLook_huge walked look
      obtain ⟨-, npages⟩ := walked.collectPmdLook look
      have ends := @collectPmdLook_ends host look walk
      rw [Segment.collect, migrateVmaCollectPmd, Segment.count,
        Segment.reached, ← reached]
      generalize collectPmdLook host look walk = looked at *
      obtain ⟨reached', between⟩ := looked
      refine ⟨between, ?_, npages, ends, ?_⟩
      · cases reached' with
        | hole => exact migrateVmaCollectHole_reaches count first between
        | skip => exact migrateVmaCollectSkip_reaches count first between
        | walk => exact .forEach _ collectPte_reaches count first between
      · intro page
        obtain ⟨lost, split⟩ := huge page
        constructor
        · rw [lost, ite_and]
          rfl
        · rw [split, ite_and]
          rfl

theorem Looks.of_reaches {page : Pfn} {looks count : Nat}
    {slot : Option Nat} {reached : PmdEnd} {next after : Collect}
    (first : Looks host start page looks slot walk next)
    (reaches : Reaches reached count next after) :
    Looks host start page looks slot walk after :=
  ⟨(congrFun reaches.lost page).trans first.lost,
    (congrFun reaches.split page).trans first.split⟩

/-- The history of the walk, by its callbacks and the kernel it starts in. -/
theorem walkPageRange_history (walked : Walked host args start walk)
    (sound : start.Sound host) (segments : List Segment) :
    (∀ page, Looks host start page (hugeLooks page segments)
        (splitSlot page segments walk.npages) walk
        (walkPageRange host args segments (args.first + walk.npages) walk)) ∧
      (∀ i, i < walk.npages →
        (walkPageRange host args segments (args.first + walk.npages)
          walk).ends i = walk.ends i) ∧
      ∀ i, i < pagesOf segments →
        (slotEnds host args start segments fun page =>
            (walk.split page).isSome)[i]? =
          some ((walkPageRange host args segments (args.first + walk.npages)
            walk).ends (walk.npages + i)) := by
  induction segments generalizing walk with
  | nil =>
      refine ⟨?_, fun _ _ => rfl, fun i inside => absurd inside (by
        simp [pagesOf])⟩
      intro page
      constructor
      · simp [walkPageRange, hugeLooks]
      · simp [walkPageRange, splitSlot]
  | cons segment rest induction =>
      obtain ⟨collected, more⟩ := walked.collect sound segment
      obtain ⟨between, reaches, npages, ends, looks⟩ :=
        segment.collect_reaches walked (args.first + walk.npages)
      obtain ⟨later, before, after⟩ := induction collected
      rw [more, ← Nat.add_assoc] at later before after
      have passes (page : Pfn) := (looks page).of_reaches reaches
      refine ⟨?_, ?_, ?_⟩
      · intro page
        have whole := (passes page).trans (later page)
        have counted : hugeLooks page (segment :: rest) =
            (if segment.hugePage = some page then 1 else 0) +
              hugeLooks page rest := by
          rw [hugeLooks, List.countP_cons, Nat.add_comm]
          simp only [decide_eq_true_eq]
          rfl
        have slots : splitSlot page (segment :: rest) walk.npages =
            (if segment.splitPage = some page then some walk.npages
              else none).or
              (splitSlot page rest (walk.npages + segment.count)) := by
          rw [splitSlot]
          split
          · rfl
          · rfl
        rw [counted, slots]
        exact whole
      · intro i inside
        rw [walkPageRange, before i (by omega), reaches.ends, npages, ends,
          if_neg (by omega)]
      · intro i inside
        have done : segment.splits host start (fun page =>
              (walk.split page).isSome) =
            fun page => ((segment.collect host args
              (args.first + walk.npages) walk).split page).isSome := by
          funext page
          rw [(passes page).split, Segment.splits]
          cases slot : walk.split page with
          | some slot' => simp
          | none =>
              by_cases splits : segment.splitPage = some page
              · cases first : start.isHuge host page <;>
                  cases locked : (start.frame page).locked <;> simp [splits]
              · simp [splits]
        rw [walkPageRange, slotEnds, done]
        by_cases early : i < segment.count
        · rw [List.getElem?_append_left (by simpa using early),
            List.getElem?_replicate, if_pos early, before _ (by omega),
            reaches.ends, npages, if_pos (by omega)]
        · have later := after (i - segment.count) (by
            have total : pagesOf (segment :: rest) =
                segment.count + pagesOf rest := by simp [pagesOf]
            omega)
          rw [List.getElem?_append_right (by simpa using early),
            List.length_replicate, later]
          congr 2
          omega

/-- The references that the walk keeps: one to a huge page each time it finds
it locked. -/
def walkLost (host : Host) (kernel : Kernel) (segments : List Segment)
    (page : Pfn) : Nat :=
  if kernel.isHuge host page && (kernel.frame page).locked then
    hugeLooks page segments
  else 0

/-- The huge pages that the walk splits, and before which slot. -/
def walkSplit (host : Host) (kernel : Kernel) (segments : List Segment)
    (page : Pfn) : Option Nat :=
  if kernel.isHuge host page && !(kernel.frame page).locked then
    splitSlot page segments 0
  else none

/-- The kernel after the walk, but for the pages that it takes. -/
def Kernel.walked (host : Host) (segments : List Segment) (kernel : Kernel) :
    Kernel :=
  kernel.settled host (walkSplit host kernel segments)
    (walkLost host kernel segments)

theorem migrateVmaCollect_history (sound : kernel.Sound host)
    (segments : List Segment) (src dst : Nat → UInt64) :
    (migrateVmaCollect host args segments src dst kernel).lost =
        walkLost host kernel segments ∧
      (migrateVmaCollect host args segments src dst kernel).split =
        walkSplit host kernel segments ∧
      ∀ i, i < pagesOf segments →
        (slotEnds host args kernel segments fun _ => false)[i]? =
          some ((migrateVmaCollect host args segments src dst kernel).ends
            i) := by
  obtain ⟨looks, -, ends⟩ := walkPageRange_history
    (@Walked.first host args src dst kernel) sound segments
  refine ⟨?_, ?_, ?_⟩
  · funext page
    exact (looks page).lost.trans (Nat.zero_add _)
  · funext page
    exact (looks page).split
  · intro i inside
    have reached := ends i inside
    rw [Collect.first, Nat.zero_add] at reached
    exact reached

theorem walkLost_free {segments : List Segment} {page : Pfn}
    (free : (kernel.frame page).locked = false) :
    walkLost host kernel segments page = 0 := by
  rw [walkLost, free, Bool.and_false]
  rfl

end Rshm.Mm
