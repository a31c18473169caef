import Rshm.Hmm.Sweep
import Rshm.Hmm.TransferEnds

/-!
# The windows tile the request

Five loops pick the end of their next window in three ways.  Where the last
window fits below the end of the address space they all cut the request into
the same kind of tiling; where it does not, the addition wraps.
-/

namespace Rshm.Hmm

open RangeLoop AddressLoop

variable {Contents : Type}

/-- The handed windows tile the request from its start on, all of it when the
loop has ended, and have no page that is not of the request.  Given passes
enough the loop comes to an end, and it is only left when a call fails. -/
structure Sweeps (start stop : UInt64) (passes : Nat) (succeeds : Prop)
    (handed : List Window) (outcome : Outcome Errno) : Prop where
  tiles : ∃ last, Tiling start stop handed last ∧
    (outcome = .ended → last = stop)
  pages : ∀ window ∈ handed, ∀ pfn, pfnOf window.start ≤ pfn →
    pfn < pfnOf window.stop → pfnOf start ≤ pfn ∧ pfn < pfnOf stop
  returns : stop.toNat < passes → outcome ≠ .running
  complete : succeeds → ∀ errno, outcome ≠ .left errno

theorem Sweeps.whole {start stop : UInt64} {passes : Nat} {succeeds : Prop}
    {handed : List Window} {outcome : Outcome Errno}
    (sweeps : Sweeps start stop passes succeeds handed outcome)
    (ended : outcome = .ended) : Tiling start stop handed stop := by
  obtain ⟨last, tiling, all⟩ := sweeps.tiles
  rw [all ended] at tiling
  exact tiling

section Rules

variable {State : Type} {start stop : UInt64}

/-- A loop each of whose passes hands the next window of a tiling, or none
and leaves. -/
theorem sweeps_of_passes (succeeds : Prop) (handed : State → List Window)
    (body : UInt64 → State → State × Except Errno UInt64)
    (holds : UInt64 → Prop)
    (continues : ∀ addr state after next, addr.toNat < stop.toNat →
      Tiling start stop (handed state) addr → holds addr →
      body addr state = (after, .ok next) →
      Tiling start stop (handed after) next ∧ holds next)
    (exits : ∀ addr state after errno, addr.toNat < stop.toNat →
      Tiling start stop (handed state) addr → holds addr →
      body addr state = (after, .error errno) →
      (∃ last, Tiling start stop (handed after) last) ∧ ¬succeeds)
    (rises : ∀ addr state after next, addr.toNat < stop.toNat →
      holds addr → body addr state = (after, .ok next) →
      addr.toNat < next.toNat)
    (order : start.toNat ≤ stop.toNat) (passes : Nat) (state : State)
    (empty : handed state = []) (entered : holds start) :
    Sweeps start stop passes succeeds
      (handed (forAddress body stop passes start state).1)
      (forAddress body stop passes start state).2 := by
  let tiled : UInt64 → State → Prop := fun addr state =>
    Tiling start stop (handed state) addr ∧ holds addr
  have start_ : tiled start state := by
    refine ⟨?_, entered⟩
    rw [empty]
    exact .none
  have next_ : ∀ addr state after next, addr < stop → tiled addr state →
      body addr state = (after, .ok next) → tiled next after := by
    intro addr state after next inside held pass
    rw [UInt64.lt_iff_toNat_lt] at inside
    exact continues addr state after next inside held.1 held.2 pass
  have concluded := forAddress_induction stop tiled
    (fun _ after => (∃ last, Tiling start stop (handed after) last) ∧
      ¬succeeds) body next_
    (fun addr state after errno inside held pass =>
      exits addr state after errno (UInt64.lt_iff_toNat_lt.mp inside)
        held.1 held.2 pass)
    passes start state start_
  have tiles : ∃ last, Tiling start stop
      (handed (forAddress body stop passes start state).1) last ∧
      ((forAddress body stop passes start state).2 = .ended →
        last = stop) := by
    cases outcome : (forAddress body stop passes start state).2 with
    | running =>
        obtain ⟨addr, -, tiling, -⟩ := concluded.running outcome
        exact ⟨addr, tiling, nofun⟩
    | ended =>
        obtain ⟨addr, beyond, tiling, -⟩ := concluded.ended outcome
        refine ⟨addr, tiling, fun _ => ?_⟩
        have upper := tiling.upper order
        rw [UInt64.lt_iff_toNat_lt] at beyond
        apply UInt64.toNat_inj.mp
        omega
    | left errno =>
        obtain ⟨⟨last, tiling⟩, -⟩ := concluded.left outcome
        exact ⟨last, tiling, nofun⟩
  refine ⟨tiles, ?_, ?_, ?_⟩
  · intro window member pfn lower upper
    obtain ⟨last, tiling, -⟩ := tiles
    have inside := tiling.inside member
    rw [pfnOf_eq] at lower upper ⊢
    rw [pfnOf_eq]
    omega
  · intro enough
    apply forAddress_returns stop (fun addr => stop.toNat - addr.toNat) tiled
    · intro addr state after next inside held pass
      have kept := next_ addr state after next inside held pass
      rw [UInt64.lt_iff_toNat_lt] at inside
      have more := rises addr state after next inside held.2 pass
      exact ⟨kept, by omega⟩
    · exact start_
    · omega
  · intro success errno left
    obtain ⟨-, failure⟩ := concluded.left left
    exact failure success

/-- A loop that hands the window up to `windowEnd` in each pass. -/
def HandsWindows (stop : UInt64) (handed : State → List Window)
    (body : UInt64 → State → State × Except Errno UInt64) : Prop :=
  ∀ addr state,
    handed (body addr state).1 =
      handed state ++ [⟨addr, windowEnd addr stop⟩] ∧
    ∀ next, (body addr state).2 = .ok next → next = windowEnd addr stop

theorem sweeps_of_fits (fits : Fits start stop)
    (first : start.toNat % 4096 = 0) (last : stop.toNat % 4096 = 0)
    (order : start.toNat ≤ stop.toNat) (succeeds : Prop)
    (handed : State → List Window)
    (body : UInt64 → State → State × Except Errno UInt64)
    (hands : HandsWindows stop handed body)
    (passed : ∀ addr state errno, addr.toNat < (windowEnd addr stop).toNat →
      addr.toNat % 4096 = 0 → (windowEnd addr stop).toNat % 4096 = 0 →
      succeeds → (body addr state).2 ≠ .error errno)
    (passes : Nat) (state : State) (empty : handed state = []) :
    Sweeps start stop passes succeeds
      (handed (forAddress body stop passes start state).1)
      (forAddress body stop passes start state).2 := by
  apply sweeps_of_passes succeeds handed body (InStep start stop)
  · intro addr state after next inside tiling inStep pass
    obtain ⟨window, choice⟩ := hands addr state
    rw [pass] at window choice
    rw [choice next rfl, window]
    refine ⟨?_, (windowEnd_of_fits fits inStep inside).2⟩
    exact tiling.window fits inStep last first inside
  · intro addr state after errno inside tiling inStep pass
    have next := tiling.window fits inStep last first inside
    obtain ⟨window, -⟩ := hands addr state
    rw [pass] at window
    constructor
    · rw [window]
      exact ⟨_, next⟩
    · intro success
      have value := (windowEnd_of_fits fits inStep inside).1
      apply passed addr state errno _ (tiling.aligned first)
        (next.aligned first) success (by rw [pass])
      omega
  · intro addr state after next inside inStep pass
    obtain ⟨-, choice⟩ := hands addr state
    rw [pass] at choice
    have value := (windowEnd_of_fits fits inStep inside).1
    rw [choice next rfl]
    omega
  · exact order
  · exact empty
  · exact .inr rfl

theorem HandsWindows.fits_of_ended
    {handed : State → List Window}
    {body : UInt64 → State → State × Except Errno UInt64}
    (hands : HandsWindows stop handed body) (order : start < stop)
    {passes : Nat} {state : State}
    (ended : (forAddress body stop passes start state).2 = .ended) :
    Fits start stop := by
  by_contra wraps
  rw [UInt64.lt_iff_toNat_lt] at order
  have concluded := forAddress_induction stop
    (fun addr _ => addr.toNat % 262144 = start.toNat % 262144 ∧
      addr.toNat < stop.toNat)
    (fun _ _ => True) body
    (by
      intro addr state after next _ held pass
      obtain ⟨-, choice⟩ := hands addr state
      rw [pass] at choice
      rw [choice next rfl]
      exact windowEnd_of_not_fits wraps held.1)
    (fun _ _ _ _ _ _ _ => trivial) passes start state ⟨rfl, order⟩
  obtain ⟨addr, beyond, -, inside⟩ := concluded.ended ended
  rw [UInt64.lt_iff_toNat_lt] at beyond
  exact beyond inside

end Rules

/-- A `dmirror_range_fault` in which no call fails. -/
def RangeFault.Succeeds (write : Bool) (answer : RangeFault) : Prop :=
  ∃ hmmPfns, answer.reported = .ok hmmPfns ∧
    (∀ pfn, answer.xaFails pfn = false) ∧
    (write = true → ∀ pfn, (hmmPfns pfn).write = true)

/-- A pass of the loop of `dmirror_exclusive` in which every page can be
isolated and stored. -/
structure ExclusiveAnswer.Succeeds (answer : ExclusiveAnswer) : Prop where
  all : ∀ window : Window,
    answer.ret window = ((window.stop - window.start) >>> pageShift).toNat
  pages : ∀ pfn, (answer.pages pfn).isSome = true
  stores : ∀ pfn, answer.xaFails pfn = false

theorem dmirrorAtomicMap_succeeds {pages : Nat → Option Page}
    {xaFails : Nat → Bool} (present : ∀ pfn, (pages pfn).isSome = true)
    (stores : ∀ pfn, xaFails pfn = false) (count first : Nat) (pt : XArray) :
    (dmirrorAtomicMap pages xaFails count first pt).2 = .ok count := by
  have whole : (List.range count).countP
      (fun i => (pages (first + i)).isSome) = count := by
    rw [List.countP_eq_length.mpr (fun i _ => present (first + i)),
      List.length_range]
  unfold dmirrorAtomicMap
  dsimp only
  split
  · next errno result =>
    exfalso
    refine @forRange_exit _ _ (fun _ => False) _ ?_ _ _ _ errno result
    intro pfn table exit failed
    have page := present pfn
    cases found : pages pfn with
    | none =>
        rw [found] at page
        cases page
    | some page => simp [storeOne, xaStore, found, stores] at failed
  · rw [whole]

theorem exclusive_next (addr stop : UInt64) :
    (if stop < addr + windowSize then stop else addr + windowSize) =
      windowEnd addr stop := by
  have choice : windowEnd addr stop =
      if addr + windowSize ≤ stop then addr + windowSize else stop := rfl
  rw [choice]
  by_cases beyond : stop < addr + windowSize
  · rw [if_pos beyond, if_neg (UInt64.not_le.mpr beyond)]
  · rw [if_neg beyond, if_pos (UInt64.not_lt.mp beyond)]

private theorem next_of_guard {fails : Prop} [Decidable fails]
    {errno : Errno} {next chosen : UInt64}
    (choice : (if fails then .error errno else .ok next) =
      (.ok chosen : Except Errno UInt64)) :
    chosen = next := by
  split at choice
  · cases choice
  · exact (Except.ok.inj choice).symm

theorem dmirrorExclusiveOne_hands (answers : Nat → ExclusiveAnswer)
    (stop : UInt64) :
    HandsWindows stop ExclusiveState.handed
      (dmirrorExclusiveOne answers stop) := by
  intro addr state
  simp only [dmirrorExclusiveOne, exclusive_next]
  refine ⟨trivial, ?_⟩
  intro next choice
  exact next_of_guard choice

/-- All pages of a window are mapped when their number brings the loop to the
end of it. -/
theorem mapped_whole {addr next : UInt64} (rises : addr.toNat < next.toNat)
    (first : addr.toNat % 4096 = 0) (last : next.toNat % 4096 = 0) :
    ¬addr + (mappedPages (.ok (Window.npages ⟨addr, next⟩)) <<< pageShift) <
      next := by
  have below : next.toNat < 2 ^ 64 := next.toNat_lt
  have count : (mappedPages (.ok (Window.npages ⟨addr, next⟩))).toNat =
      (next.toNat - addr.toNat) / 4096 := by
    unfold mappedPages Window.npages
    dsimp only
    rw [pfnOf_eq, pfnOf_eq, UInt64.toNat_ofNat']
    omega
  rw [UInt64.lt_iff_toNat_lt, UInt64.toNat_add, toNat_shiftPage, count]
  omega

theorem dmirrorExclusive_sweeps {start stop : UInt64}
    (fits : Fits start stop) (first : start.toNat % 4096 = 0)
    (last : stop.toNat % 4096 = 0) (order : start.toNat ≤ stop.toNat)
    (answers : Nat → ExclusiveAnswer) (passes : Nat) (pt : XArray) :
    let loop := forAddress (dmirrorExclusiveOne answers stop) stop passes
      start ⟨pt, []⟩
    Sweeps start stop passes (∀ k, (answers k).Succeeds) loop.1.handed
      loop.2 := by
  apply sweeps_of_fits fits first last order _ ExclusiveState.handed
    (dmirrorExclusiveOne answers stop)
    (dmirrorExclusiveOne_hands answers stop)
  · intro addr state errno rises low high succeeds failed
    obtain ⟨all, pages, stores⟩ := succeeds state.handed.length
    have whole := mapped_whole rises low high
    unfold dmirrorExclusiveOne at failed
    simp only [exclusive_next, all, if_true,
      dmirrorAtomicMap_succeeds pages stores, if_neg whole] at failed
    cases failed
  · rfl

/-- A pass of a migration loop in which no call fails. -/
structure MigrateAnswer.Succeeds (answer : MigrateAnswer) : Prop where
  vma : ∀ addr, ∃ vma, answer.vma addr = some vma ∧ vma.vmRead = true
  setup : answer.setup = none

theorem toNat_min (a b : UInt64) : (min a b).toNat = min a.toNat b.toNat := by
  have choice : min a b = if a ≤ b then a else b := rfl
  rw [choice]
  split
  · next order =>
    rw [UInt64.le_iff_toNat_le] at order
    omega
  · next order =>
    rw [UInt64.le_iff_toNat_le] at order
    omega

theorem toNat_migrateNext {addr : UInt64} (vma : VmArea addr)
    (stop : UInt64) :
    addr.toNat < vma.stop.toNat ∧
      (migrateNext vma stop).toNat =
        min (min stop.toNat (addr.toNat + 262144)) vma.stop.toNat := by
  have inside := UInt64.lt_iff_toNat_lt.mp vma.contains.2
  have below := vma.below
  have sum : (addr + windowSize).toNat = addr.toNat + 262144 := by
    rw [UInt64.toNat_add, toNat_windowSize]
    omega
  refine ⟨inside, ?_⟩
  unfold migrateNext
  dsimp only
  split
  · next shorter =>
    rw [UInt64.lt_iff_toNat_lt, toNat_min, sum] at shorter
    omega
  · next longer =>
    rw [UInt64.lt_iff_toNat_lt, toNat_min, sum] at longer
    rw [toNat_min, sum]
    omega

/-- The ways a pass of a migration loop goes: no area to work on, an error of
`migrate_vma_setup`, or a window that is worked on. -/
theorem migrateOne_cases
    (work : Bool → MigrateAnswer → Window → MigrateState Contents →
      MigrateState Contents)
    (answers : Nat → MigrateAnswer) (stop addr : UInt64)
    (state : MigrateState Contents) :
    let answer := answers state.handed.length
    (¬answer.Succeeds ∧
      migrateOne work answers stop addr state = (state, .error .einval)) ∨
    ∃ vma : VmArea addr,
      let next := migrateNext vma stop
      let handed : MigrateState Contents :=
        { state with handed := state.handed ++ [⟨addr, next⟩] }
      (¬answer.Succeeds ∧ ∃ errno,
        migrateOne work answers stop addr state = (handed, .error errno)) ∨
      migrateOne work answers stop addr state =
        (work vma.vmWrite answer ⟨addr, next⟩ handed, .ok next) := by
  intro answer
  cases found : answer.vma addr with
  | none =>
      refine .inl ⟨?_, ?_⟩
      · intro succeeds
        obtain ⟨vma, some_, -⟩ := succeeds.vma addr
        rw [found] at some_
        cases some_
      · unfold migrateOne
        simp only [answer] at found
        simp only [found]
  | some vma =>
      simp only [answer] at found
      cases read : vma.vmRead with
      | false =>
          refine .inl ⟨?_, ?_⟩
          · intro succeeds
            obtain ⟨vma', some_, read'⟩ := succeeds.vma addr
            rw [found] at some_
            obtain rfl := Option.some.inj some_
            rw [read] at read'
            cases read'
          · unfold migrateOne
            simp only [found, read, if_true]
      | true =>
          refine .inr ⟨vma, ?_⟩
          cases setup : answer.setup with
          | some errno =>
              refine .inl ⟨?_, errno, ?_⟩
              · intro succeeds
                rw [succeeds.setup] at setup
                cases setup
              · unfold migrateOne
                simp only [answer] at setup
                simp only [found, read, setup, Bool.true_eq_false, if_false]
          | none =>
              apply Or.inr
              unfold migrateOne
              simp only [answer] at setup
              simp only [found, read, setup, Bool.true_eq_false, if_false,
                answer]

theorem Tiling.vmWindow {start stop addr : UInt64} {windows : List Window}
    (tiling : Tiling start stop windows addr) (vma : VmArea addr)
    (first : start.toNat % 4096 = 0) (last : stop.toNat % 4096 = 0)
    (inside : addr.toNat < stop.toNat) :
    Tiling start stop (windows ++ [⟨addr, migrateNext vma stop⟩])
        (migrateNext vma stop) ∧
      addr.toNat < (migrateNext vma stop).toNat := by
  obtain ⟨rises, value⟩ := toNat_migrateNext vma stop
  have aligned := tiling.aligned first
  have end_ := vma.aligned
  constructor
  · apply tiling.next <;> omega
  · omega

theorem migrateLoop_sweeps
    (work : Bool → MigrateAnswer → Window → MigrateState Contents →
      MigrateState Contents)
    (keeps : ∀ vmWrite answer window state,
      (work vmWrite answer window state).handed = state.handed)
    {start stop : UInt64} (first : start.toNat % 4096 = 0)
    (last : stop.toNat % 4096 = 0) (order : start.toNat ≤ stop.toNat)
    (answers : Nat → MigrateAnswer) (passes : Nat)
    (state : MigrateState Contents) (empty : state.handed = []) :
    let loop := forAddress (migrateOne work answers stop) stop passes start
      state
    Sweeps start stop passes (∀ k, (answers k).Succeeds) loop.1.handed
      loop.2 := by
  apply sweeps_of_passes _ MigrateState.handed (migrateOne work answers stop)
    (fun _ => True)
  · intro addr state after next inside tiling _ pass
    refine ⟨?_, trivial⟩
    rcases migrateOne_cases work answers stop addr state with
      ⟨-, refused⟩ | ⟨vma, ⟨-, errno, refused⟩ | worked⟩
    · rw [refused] at pass
      cases (Prod.mk.inj pass).2
    · rw [refused] at pass
      cases (Prod.mk.inj pass).2
    · rw [worked] at pass
      obtain ⟨done, choice⟩ := Prod.mk.inj pass
      rw [← done, ← Except.ok.inj choice, keeps]
      exact (tiling.vmWindow vma first last inside).1
  · intro addr state after errno inside tiling _ pass
    rcases migrateOne_cases work answers stop addr state with
      ⟨fails, refused⟩ | ⟨vma, ⟨fails, errno', refused⟩ | worked⟩
    · rw [refused] at pass
      rw [← (Prod.mk.inj pass).1]
      exact ⟨⟨addr, tiling⟩, fun succeeds => fails (succeeds _)⟩
    · rw [refused] at pass
      rw [← (Prod.mk.inj pass).1]
      have more := (tiling.vmWindow vma first last inside).1
      exact ⟨⟨_, more⟩, fun succeeds => fails (succeeds _)⟩
    · rw [worked] at pass
      cases (Prod.mk.inj pass).2
  · intro addr state after next inside _ pass
    rcases migrateOne_cases work answers stop addr state with
      ⟨-, refused⟩ | ⟨vma, ⟨-, errno, refused⟩ | worked⟩
    · rw [refused] at pass
      cases (Prod.mk.inj pass).2
    · rw [refused] at pass
      cases (Prod.mk.inj pass).2
    · rw [worked] at pass
      obtain ⟨rises, value⟩ := toNat_migrateNext vma stop
      rw [← Except.ok.inj (Prod.mk.inj pass).2]
      omega
  · exact order
  · exact empty
  · trivial

end Rshm.Hmm
