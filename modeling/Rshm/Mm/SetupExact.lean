import Rshm.Mm.HugePages
import Rshm.Mm.MigrateVma
import Rshm.Mm.ReverseMap

/-!
# Which pages a migration takes

`migrate_vma_setup` in one statement: the word of every slot, by the entry at
its address and the state of its page before the call, and what the call has
done to the pages that it has not taken.
-/

namespace Rshm.Mm

variable {host : Host} {args : CollectArgs} {base kernel start : Kernel}
  {pfn : Pfn} {walk : Collect}

/-- The migration takes the page for the slot: it is not taken for an earlier
slot, and nothing stands against it.  A page may have been a part of a huge
page that was whole at an earlier slot. -/
structure Chosen (host : Host) (args : CollectArgs) (start : Kernel)
    (split : Pfn → Option Nat) (ends : Nat → PmdEnd) (faultPage : Option Pfn)
    (i : Nat) (pfn : Pfn) : Prop where
  first : ∀ j, j < i → ∀ write, Finds host args start ends j pfn write →
    ((start.seen host split j).frame pfn).compound = true
  collectable : Collectable host (start.seen host split i) pfn
  listed : (host.kind pfn).isZoneDevice = false →
    (start.frame pfn).lru = true
  free : ∀ place, (start.table place).maps = some pfn →
    place ≠ (args.mm, args.first + i) → host.keeps place = false
  unpinned : (start.frame pfn).count + 1 - (start.frame pfn).mapcount ≤
    expectedRefs host pfn faultPage

/-- The word of a slot after `migrate_vma_setup`. -/
def SetupWord (host : Host) (args : CollectArgs) (start : Kernel)
    (split : Pfn → Option Nat) (ends : Nat → PmdEnd) (faultPage : Option Pfn)
    (i : Nat) (word : UInt64) : Prop :=
  match ends i with
  | .skip => word = 0
  | .hole => args.anonymous = true ∧ word = migratePfnMigrate
  | .walk =>
      match collectSource host args
          (start.table (args.mm, args.first + i)) with
      | .skip => word = 0
      | .populate => word = migratePfnMigrate
      | .page pfn write =>
          Chosen host args start split ends faultPage i pfn ∧
              word = sourceWord pfn write ∨
            ¬Chosen host args start split ends faultPage i pfn ∧ word = 0

theorem Walked.takes_iff (walked : Walked host args start walk)
    {i : Nat} (inside : i < walk.npages) :
    Takes host (start.seen host walk.split i) walk.src i pfn ↔
      Collectable host (start.seen host walk.split i) pfn ∧
        ∀ j, j < i → ∀ write, Finds host args start walk.ends j pfn write →
          ((start.seen host walk.split j).frame pfn).compound = true := by
  constructor
  · rintro ⟨collectable, first⟩
    refine ⟨collectable, ?_⟩
    rintro j before write ⟨reached, source⟩
    have source : collectSource host args
        ((start.seen host walk.split j).table (args.mm, args.first + j)) =
          .page pfn write := source
    have word := walked.worded j (by omega)
    rw [reached, SlotExact, source] at word
    rcases word with ⟨-, word⟩ | ⟨refused, -⟩
    · exfalso
      apply first j before
      rw [word, pageOf_sourceWord]
    · rw [← Bool.not_eq_false]
      intro single
      apply refused
      -- Only that the page was compound can have kept it from the slot.
      exact ⟨⟨collectable.mapping, single, collectable.free,
        collectable.shared⟩, fun k earlier => first k (by omega)⟩
  · rintro ⟨collectable, first⟩
    refine ⟨collectable, ?_⟩
    intro j before page
    obtain ⟨write, finds, takes, -⟩ := walked.worded.finds (by omega) page
    have compound := first j before write finds
    rw [takes.1.single] at compound
    cases compound

theorem Walked.maps_iff (walked : Walked host args start walk)
    (sound : start.Sound host) {i : Nat} (inside : i < walk.npages)
    (page : pageOf (walk.src i) = some pfn) (place : Place) :
    (walk.kernel.table place).maps = some pfn ↔
      (start.table place).maps = some pfn ∧
        place ≠ (args.mm, args.first + i) := by
  have collected := walked.collected
  obtain ⟨held, moves⟩ := collected.held i inside pfn page
  constructor
  · intro maps
    constructor
    · have same := held.mapped (sound.settled walk.split walk.lost)
        (collected.names.traced pfn) maps
      rw [same] at maps
      exact maps
    · rintro rfl
      rw [Pte.not_moves_of_maps maps] at moves
      cases moves
  · rintro ⟨maps, elsewhere⟩
    rw [collected.rest place]
    · exact maps
    · rintro j other inside' page' rfl
      obtain ⟨write, ⟨-, source⟩, -⟩ := walked.worded.finds inside' page'
      have same := (collectSource_page source).1
      have same : (start.table (args.mm, args.first + j)).maps =
          some other := same
      rw [maps] at same
      cases same
      have here := collected.distinct i j pfn inside inside' page page'
      rw [here] at elsewhere
      exact elsewhere rfl

/-- The walk loses no reference to a page that is free. -/
def Unlost (start : Kernel) (walk : Collect) : Prop :=
  ∀ pfn, (start.frame pfn).locked = false → walk.lost pfn = 0

theorem Walked.movable_iff (walked : Walked host args start walk)
    (sound : start.Sound host) (unlost : Unlost start walk) {i : Nat}
    (inside : i < walk.npages) (page : pageOf (walk.src i) = some pfn)
    (faultPage : Option Pfn) :
    Movable host (walk.settled host start) walk.kernel faultPage pfn ↔
      Chosen host args start walk.split walk.ends faultPage i pfn := by
  obtain ⟨write, finds, takes, -⟩ := walked.worded.finds inside page
  obtain ⟨collectable, first⟩ := (walked.takes_iff inside).mp takes
  have count : ((walk.settled host start).frame pfn).count =
      (start.frame pfn).count := by
    rw [Collect.settled_frame, unlost pfn collectable.free]
    exact Int.add_zero _
  have mapcount : ((walk.settled host start).frame pfn).mapcount =
      (start.frame pfn).mapcount := rfl
  constructor
  · rintro ⟨-, listed, free, unpinned⟩
    rw [count, mapcount] at unpinned
    refine ⟨first, collectable, listed, ?_, unpinned⟩
    intro place maps elsewhere
    apply free place
    rw [walked.maps_iff sound inside page]
    exact ⟨maps, elsewhere⟩
  · rintro ⟨-, -, listed, free, unpinned⟩
    rw [← count, ← mapcount] at unpinned
    refine ⟨Kernel.seen_single collectable.single, listed, ?_, unpinned⟩
    intro place maps
    rw [walked.maps_iff sound inside page] at maps
    exact free place maps.1 maps.2

/-- The word of the walk, and then that of `migrate_device_unmap`. -/
theorem Walked.setupWord (walked : Walked host args start walk)
    (sound : start.Sound host) (unlost : Unlost start walk) {i : Nat}
    (inside : i < walk.npages) {faultPage : Option Pfn} {word : UInt64}
    (unmapped : UnmappedWord host (walk.settled host start) walk.kernel
      faultPage (walk.src i) word) :
    SetupWord host args start walk.split walk.ends faultPage i word := by
  have slot := walked.worded i inside
  unfold SetupWord
  cases reached : walk.ends i with
  | skip =>
      rw [reached] at slot
      have slot : walk.src i = 0 := slot
      rw [slot] at unmapped
      exact unmapped
  | hole =>
      rw [reached] at slot
      rw [slot.2] at unmapped
      exact ⟨slot.1, unmapped⟩
  | walk =>
      rw [reached, SlotExact] at slot
      have table : (start.seen host walk.split i).table = start.table := rfl
      rw [table] at slot
      cases source : collectSource host args
          (start.table (args.mm, args.first + i)) with
      | skip =>
          rw [source] at slot
          have slot : walk.src i = 0 := slot
          rw [slot] at unmapped
          exact unmapped
      | populate =>
          rw [source] at slot
          have slot : walk.src i = migratePfnMigrate := slot
          rw [slot] at unmapped
          exact unmapped
      | page pfn write =>
          rw [source] at slot
          rcases slot with ⟨takes, slot⟩ | ⟨refused, slot⟩
          · have page : pageOf (walk.src i) = some pfn := by
              rw [slot, pageOf_sourceWord]
            rw [UnmappedWord, page] at unmapped
            dsimp only at unmapped
            rw [walked.movable_iff sound unlost inside page, slot]
              at unmapped
            exact unmapped
          · rw [slot] at unmapped
            refine .inr ⟨?_, unmapped⟩
            intro chosen
            apply refused
            rw [walked.takes_iff inside]
            exact ⟨chosen.collectable, chosen.first⟩

theorem Walked.claimed (walked : Walked host args start walk) :
    Claimed host (walk.settled host start) walk.kernel walk.src
      walk.npages := by
  have collected := walked.collected
  refine ⟨collected.names, ?_, collected.distinct, collected.intact⟩
  intro i pfn inside page
  obtain ⟨write, -, -, word⟩ := walked.worded.finds inside page
  refine ⟨?_, (collected.held i inside pfn page).1⟩
  rw [word, migrating_sourceWord]

theorem Claimed.setUp {src : Nat → UInt64} {npages : Nat}
    (claimed : Claimed host base start src npages)
    (pageless : ∀ i, i < npages → pageOf (src i) = none) :
    SetUp host base start src npages := by
  refine ⟨claimed.names, ?_, claimed.distinct, claimed.intact⟩
  intro i pfn inside page
  rw [pageless i inside] at page
  cases page

def MigrateVmaArgs.segments (args : MigrateVmaArgs) (walker : Walker) :
    List Segment :=
  walker.segments args.masked.pages

/-- The pages that `migrate_vma_setup` hands to its caller, and what its walk
does besides: it splits huge pages, and keeps references to those that are
locked. -/
structure SetupExact (host : Host) (walker : Walker) (args : MigrateVmaArgs)
    (vma : Vma) (kernel : Kernel) (setup : Setup) (src : Nat → UInt64) :
    Prop where
  setUp : SetUp host (kernel.walked host (args.segments walker))
    setup.kernel src setup.args.npages
  npages : setup.args.npages = args.masked.pages
  cpages : setup.args.cpages =
    Tally.upTo (fun i => migrating (src i)) setup.args.npages
  words : ∀ i, i < setup.args.npages →
    SetupWord host (args.masked.collect vma) kernel setup.split setup.ends
      args.faultPage i (src i)
  dst : ∃ dst, setup.args.dst = some dst ∧
    ∀ i, i < setup.args.npages → dst i = 0
  lost : setup.lost = walkLost host kernel (args.segments walker)
  split : setup.split = walkSplit host kernel (args.segments walker)
  ends : ∀ i, i < setup.args.npages →
    (slotEnds host (args.masked.collect vma) kernel (args.segments walker)
      fun _ => false)[i]? = some (setup.ends i)

theorem migrateVmaFill_exact (sound : kernel.Sound host) (walker : Walker)
    (args : MigrateVmaArgs) (vma : Vma) (src dst : Nat → UInt64)
    (zeroed : Nat) :
    ∃ src', (migrateVmaFill host walker args.masked vma src dst zeroed
        kernel).args.src = some src' ∧
      SetupExact host walker args vma kernel
        (migrateVmaFill host walker args.masked vma src dst zeroed kernel)
        src' := by
  unfold migrateVmaFill
  dsimp only
  obtain ⟨walked, npages⟩ := @migrateVmaCollect_walked host
    (args.masked.collect vma) kernel sound (args.segments walker)
    (fun i => if i < zeroed then 0 else src i) dst
  obtain ⟨lost, split, ends⟩ := @migrateVmaCollect_history host
    (args.masked.collect vma) kernel sound (args.segments walker)
    (fun i => if i < zeroed then 0 else src i) dst
  have covers : pagesOf (args.segments walker) = args.masked.pages :=
    walker.covers _
  rw [covers] at npages ends
  unfold MigrateVmaArgs.segments at walked npages lost split ends
  generalize migrateVmaCollect host (args.masked.collect vma)
    (walker.segments args.masked.pages)
    (fun i => if i < zeroed then 0 else src i) dst kernel = walk at *
  have claimed := walked.claimed
  have settled : walk.settled host kernel =
      kernel.walked host (args.segments walker) := by
    rw [Collect.settled, lost, split]
    rfl
  have unlost : Unlost kernel walk := by
    intro pfn free
    rw [lost]
    exact walkLost_free free
  split
  · next none_ =>
    -- Nothing has been collected.
    refine ⟨walk.src, rfl, ?_⟩
    have still (i : Nat) (inside : i < walk.npages) :
        migrating (walk.src i) = false := by
      have counted := walked.counted
      unfold Counted at counted
      cases moving : migrating (walk.src i) with
      | false => rfl
      | true =>
          have some_ := (@Tally.upTo_pos_iff (fun i => migrating (walk.src i))
            walk.npages).mpr ⟨i, inside, moving⟩
          omega
    have pageless (i : Nat) (inside : i < walk.npages) :
        pageOf (walk.src i) = none := by
      cases page : pageOf (walk.src i) with
      | none => rfl
      | some pfn =>
          have moving := (claimed.held i pfn inside page).1
          rw [still i inside] at moving
          cases moving
    have setUp := claimed.setUp pageless
    rw [settled] at setUp
    refine ⟨setUp, npages, walked.counted, ?_, ⟨walk.dst, rfl,
      walked.collected.dst⟩, lost, split, ?_⟩
    · intro i inside
      refine walked.setupWord sound unlost inside ?_
      rw [UnmappedWord, pageless i inside]
    · intro i inside
      exact ends i (Nat.lt_of_lt_of_eq inside npages)
  · obtain ⟨setUp, unmapped, -, words⟩ := migrateDeviceUnmap_setUp
      (sound.settled walk.split walk.lost) claimed args.faultPage
    have setUp' := setUp
    rw [← Collect.settled, settled] at setUp'
    refine ⟨_, rfl, setUp', npages, unmapped, ?_, ⟨walk.dst, rfl,
      walked.collected.dst⟩, lost, split, ?_⟩
    · intro i inside
      exact walked.setupWord sound unlost inside (words i inside)
    · intro i inside
      exact ends i (Nat.lt_of_lt_of_eq inside npages)

theorem migrateVmaFill_ret (host : Host) (walker : Walker)
    (args : MigrateVmaArgs) (vma : Vma) (src dst : Nat → UInt64)
    (zeroed : Nat) (kernel : Kernel) :
    (migrateVmaFill host walker args vma src dst zeroed kernel).ret = 0 := by
  unfold migrateVmaFill
  dsimp only
  split
  · rfl
  · rfl

/-- One anonymous page that one process maps, and a huge page that is locked. -/
def onePageSetting : Setting where
  kind pfn :=
    { zone := .normal, pgmapOwner := 0, anon := true, file := false
      hasPrivate := false
      head := if pfn = 1 ∨ pfn = 9 then some pfn else none
      zero := false }
  rmap _ := [(0, 5)]
  pinned _ := false
  keeps _ := false

def onePageHost : Host := onePageSetting.host

def onePageKernel : Kernel where
  table place :=
    if place = (0, 5) then .present 1 true false ⟨true, true, false, false⟩
    else .none
  frame pfn :=
    { count := 1, mapcount := if pfn = 1 then 1 else 0
      locked := decide (pfn = 9), lru := true, dirty := false
      anonExclusive := true, compound := decide (pfn = 9) }

theorem onePageKernel_maps {place : Place} {pfn : Pfn}
    (maps : (onePageKernel.table place).maps = some pfn) :
    place = (0, 5) ∧ pfn = 1 := by
  unfold onePageKernel at maps
  dsimp only at maps
  split at maps
  · next here =>
    cases maps
    exact ⟨here, rfl⟩
  · cases maps

theorem onePageKernel_sound : onePageKernel.Sound onePageHost := by
  constructor
  · intro pfn
    exact List.nodup_singleton _
  · intro place pfn maps
    rw [(onePageKernel_maps maps).1]
    exact List.mem_singleton.mpr rfl
  · intro place pfn moves
    unfold onePageKernel at moves
    dsimp only at moves
    split at moves
    · cases moves
    · cases moves
  · intro pfn
    have one : onePageKernel.mappings onePageHost pfn =
        if pfn = 1 then 1 else 0 := by
      by_cases same : pfn = 1
      · subst same
        rfl
      · rw [if_neg same, Kernel.mappings, List.countP_eq_zero]
        intro place _
        rw [decide_eq_true_iff]
        intro maps
        exact same (onePageKernel_maps maps).2
    rw [one]
    by_cases same : pfn = 1
    · subst same
      rfl
    · simp [onePageKernel, same]
  · intro place
    unfold onePageKernel
    dsimp only
    split
    · intro _
      exact ⟨rfl, fun waits => by cases waits⟩
    · trivial
  · intro _ _ _ _ _
    rfl

def onePageWalker : Walker where
  segments count := [.pmd count (.table false)]
  covers count := by simp [pagesOf, Segment.count]

def onePageArgs : MigrateVmaArgs where
  vma := some ⟨0, 0, 0x10000, true, false, false, false⟩
  dst := some fun _ => 0
  src := some fun _ => 0
  cpages := 0
  npages := 0
  start := 0x5000
  stop := 0x7000
  pgmapOwner := 0
  select := ⟨true, false, false⟩
  faultPage := none

/-- The walk over the page neither splits a page nor loses a reference. -/
theorem onePage_walked :
    onePageKernel.walked onePageHost (onePageArgs.segments onePageWalker) =
      onePageKernel := by
  have lost : walkLost onePageHost onePageKernel
      (onePageArgs.segments onePageWalker) = fun _ => 0 := by
    funext page
    rw [walkLost]
    split
    · rfl
    · rfl
  have split : walkSplit onePageHost onePageKernel
      (onePageArgs.segments onePageWalker) = fun _ => none := by
    funext page
    rw [walkSplit]
    split
    · rfl
    · rfl
  rw [Kernel.walked, lost, split]
  exact onePageKernel.settled_none onePageHost

theorem migrateVmaFill_npages (sound : kernel.Sound host) (walker : Walker)
    (args : MigrateVmaArgs) (vma : Vma) (src dst : Nat → UInt64)
    (zeroed : Nat) :
    (migrateVmaFill host walker args.masked vma src dst zeroed
      kernel).args.npages = args.masked.pages := by
  obtain ⟨_, -, exact_⟩ :=
    migrateVmaFill_exact sound walker args vma src dst zeroed
  exact exact_.npages

theorem migrateVmaFill_zeroed (host : Host) (walker : Walker)
    (args : MigrateVmaArgs) (vma : Vma) (src dst : Nat → UInt64)
    (zeroed : Nat) (kernel : Kernel) :
    (migrateVmaFill host walker args vma src dst zeroed kernel).zeroed =
      zeroed := by
  unfold migrateVmaFill
  dsimp only
  split
  · rfl
  · rfl

/-- The words that `migrate_vma_setup` clears and those that it fills, by the
addresses it was called with. -/
structure SlotsExact (args : MigrateVmaArgs) (vma : Vma) (setup : Setup) :
    Prop where
  forward : args.start.toNat ≤ args.stop.toNat →
    setup.zeroed = (args.stop.toNat - args.start.toNat) / 4096 ∧
      setup.args.npages = setup.zeroed +
        if args.stop.toNat % 4096 < args.start.toNat % 4096 then 1 else 0
  reversed : args.stop.toNat < args.start.toNat →
    setup.args.npages = 0 ∧
      2 ^ 64 ≤ (setup.zeroed + 2) * 4096 + (vma.stop.toNat - vma.start.toNat)

/-- The arguments pass exactly when the addresses are in the area and the
range, taken modulo the size of a word, is a page long: a range that begins
after its end does, and has the words of the whole address space cleared. -/
theorem migrateVmaSetup_accepts (sound : kernel.Sound host) (walker : Walker)
    (args : MigrateVmaArgs) :
    ((migrateVmaSetup host walker args kernel).ret = 0 ↔
        ∃ vma, Accepted host args vma) ∧
      ∀ vma, Accepted host args vma →
        SlotsExact args vma (migrateVmaSetup host walker args kernel) := by
  rcases migrateVmaSetup_cases host walker args kernel with
    ⟨ret, -, -, bad⟩ | ⟨vma, src, dst, accepted, -, filled⟩
  · refine ⟨⟨?_, fun accepted => absurd accepted bad⟩,
      fun vma accepted => absurd ⟨vma, accepted⟩ bad⟩
    intro zero
    rw [ret] at zero
    cases zero
  · rw [filled]
    refine ⟨⟨fun _ => ⟨vma, accepted⟩, fun _ => migrateVmaFill_ret ..⟩, ?_⟩
    intro vma' accepted'
    have same : vma' = vma := by
      have given := accepted'.given
      rw [accepted.given] at given
      exact (Option.some.inj given).symm
    subst same
    have zeroed := toNat_nrPages args
    have range := UInt64.toNat_sub args.stop args.start
    have start : args.masked.start.toNat = args.start.toNat / 4096 * 4096 :=
      Hmm.toNat_pageMask args.start
    have stop : args.masked.stop.toNat = args.stop.toNat / 4096 * 4096 :=
      Hmm.toNat_pageMask args.stop
    have below := args.start.toNat_lt
    have below' := args.stop.toNat_lt
    obtain ⟨-, -, -, startAbove, startBelow, stopAbove, stopBelow, -, -, -⟩ :=
      accepted
    constructor
    · intro order
      rw [migrateVmaFill_npages sound, migrateVmaFill_zeroed,
        MigrateVmaArgs.pages, start, stop, zeroed, range]
      refine ⟨by omega, ?_⟩
      split
      · omega
      · omega
    · intro order
      rw [migrateVmaFill_npages sound, migrateVmaFill_zeroed,
        MigrateVmaArgs.pages, start, stop, zeroed, range]
      omega

/-- A range of one page of an area, from its end to its start. -/
theorem migrateVmaSetup_accepts_reversed :
    SlotsExact { onePageArgs with start := 0x6000, stop := 0x5000 }
      ⟨0, 0, 0x10000, true, false, false, false⟩
      (migrateVmaSetup onePageHost onePageWalker
        { onePageArgs with start := 0x6000, stop := 0x5000 }
        onePageKernel) := by
  refine (migrateVmaSetup_accepts onePageKernel_sound onePageWalker
    { onePageArgs with start := 0x6000, stop := 0x5000 }).2 _ ?_
  refine ⟨rfl, rfl, by decide, by decide, by decide, by decide, by decide,
    Option.some_ne_none _, Option.some_ne_none _, ?_⟩
  intro page fault
  cases fault

theorem SetupWord.chosen {split : Pfn → Option Nat} {ends : Nat → PmdEnd}
    {faultPage : Option Pfn} {i : Nat} {word : UInt64}
    (slot : SetupWord host args start split ends faultPage i word)
    (page : pageOf word = some pfn) :
    Chosen host args start split ends faultPage i pfn ∧
      ∃ write, Finds host args start ends i pfn write ∧
        word = sourceWord pfn write := by
  unfold SetupWord at slot
  split at slot
  · rw [slot] at page
    cases page
  · rw [slot.2] at page
    cases page
  · next reached =>
    split at slot
    · rw [slot] at page
      cases page
    · rw [slot] at page
      cases page
    · next found write source =>
      rcases slot with ⟨chosen, word⟩ | ⟨-, word⟩
      · rw [word, pageOf_sourceWord] at page
        cases page
        exact ⟨chosen, write, ⟨reached, source⟩, word⟩
      · rw [word] at page
        cases page

/-- The walk splits none of the huge pages that the page is a part of. -/
def Whole (host : Host) (kernel : Kernel) (segments : List Segment)
    (pfn : Pfn) : Prop :=
  ∀ head, (host.kind pfn).head = some head →
    walkSplit host kernel segments head = none

/-- A page that `migrate_vma_setup` leaves alone, but for references. -/
structure LeftAlone (kernel : Kernel) (setup : Setup) (lost : Nat)
    (pfn : Pfn) : Prop where
  frame : setup.kernel.frame pfn =
    { kernel.frame pfn with
      dirty := (setup.kernel.frame pfn).dirty
      count := (kernel.frame pfn).count + lost }
  dirty : (kernel.frame pfn).dirty = true →
    (setup.kernel.frame pfn).dirty = true
  entries : ∀ place, (kernel.table place).names = some pfn →
    setup.kernel.table place = kernel.table place
  untaken : ∀ src i, setup.args.src = some src → i < setup.args.npages →
    pageOf (src i) ≠ some pfn

theorem SetUp.compound {src : Nat → UInt64} {npages : Nat}
    (setUp : SetUp host base kernel src npages) :
    (kernel.frame pfn).compound = (base.frame pfn).compound := by
  by_cases taken : ∃ i, i < npages ∧ pageOf (src i) = some pfn
  · obtain ⟨i, inside, page⟩ := taken
    exact (setUp.ready i pfn inside page).2.held.compound
  · rw [(setUp.intact pfn fun i inside page => taken ⟨i, inside, page⟩).frame]

theorem Kernel.walked_compound {segments : List Segment}
    (compound : (kernel.frame pfn).compound = true) :
    ((kernel.walked host segments).frame pfn).compound = true ↔
      Whole host kernel segments pfn := by
  rw [Kernel.walked, Kernel.settled_frame, Whole]
  cases whole : (host.kind pfn).head with
  | none => simp [compound]
  | some head => simp [compound]

/-- A part of a huge page is single after `migrate_vma_setup` exactly where
the walk can split the huge page.  Where it cannot, the page is left as it
was, but that each time the walk finds it locked it keeps a reference for
good. -/
theorem migrateVmaSetup_huge (sound : kernel.Sound host) (walker : Walker)
    (args : MigrateVmaArgs)
    (accepted : (migrateVmaSetup host walker args kernel).ret = 0)
    (compound : (kernel.frame pfn).compound = true) :
    (((migrateVmaSetup host walker args kernel).kernel.frame pfn).compound =
          true ↔
        Whole host kernel (args.segments walker) pfn) ∧
      (Whole host kernel (args.segments walker) pfn →
        LeftAlone kernel (migrateVmaSetup host walker args kernel)
          (walkLost host kernel (args.segments walker) pfn) pfn) := by
  rcases migrateVmaSetup_cases host walker args kernel with
    ⟨ret, -, -, bad⟩ | ⟨vma, array, array', -, -, filled⟩
  · rw [ret] at accepted
    cases accepted
  · rw [filled]
    obtain ⟨src, given, exact_⟩ := migrateVmaFill_exact sound walker args vma
      array array' args.nrPages.toNat
    generalize migrateVmaFill host walker args.masked vma array array'
      args.nrPages.toNat kernel = setup at *
    have walked := @Kernel.walked_compound host kernel pfn
      (args.segments walker) compound
    refine ⟨?_, ?_⟩
    · rw [exact_.setUp.compound]
      exact walked
    · intro whole
      have untaken (i : Nat) (inside : i < setup.args.npages) :
          pageOf (src i) ≠ some pfn := by
        intro page
        have chosen := ((exact_.words i inside).chosen page).1
        have single := @Kernel.seen_single host pfn kernel setup.split
          setup.lost i chosen.collectable.single
        rw [exact_.split, exact_.lost] at single
        have still := walked.mpr whole
        rw [Kernel.walked, single] at still
        cases still
      have intact := exact_.setUp.intact pfn untaken
      refine ⟨intact.frame.trans ?_, intact.dirty, intact.entries, ?_⟩
      · have still := walked.mpr whole
        rw [Kernel.walked, Kernel.settled_frame] at still ⊢
        dsimp only at still
        rw [still, ← compound]
      · intro src' i given' inside
        rw [given] at given'
        cases given'
        exact untaken i inside

/-- Two huge pages, of which one is locked. -/
def hugePageKernel : Kernel :=
  { onePageKernel with
    frame := fun pfn =>
      { onePageKernel.frame pfn with
        compound := decide (pfn = 1 ∨ pfn = 9) } }

theorem hugePageKernel_sound : hugePageKernel.Sound onePageHost :=
  ⟨onePageKernel_sound.nodup, onePageKernel_sound.mapped,
    onePageKernel_sound.moving, onePageKernel_sound.mapcount,
    onePageKernel_sound.proper, onePageKernel_sound.exclusive⟩

/-- A walk that comes to both of them. -/
def hugePageWalker : Walker where
  segments count :=
    [.pmd 0 (.huge 9 0 false false), .pmd count (.huge 1 0 false false)]
  covers count := by simp [pagesOf, Segment.count]

/-- The huge page that is locked has gained a reference, and the other one is
split and taken. -/
theorem migrateVmaSetup_huge_lost :
    LeftAlone hugePageKernel (migrateVmaSetup onePageHost hugePageWalker
        onePageArgs hugePageKernel) 1 9 ∧
      ((migrateVmaSetup onePageHost hugePageWalker onePageArgs
        hugePageKernel).kernel.frame 1).compound = false ∧
      (migrateVmaSetup onePageHost hugePageWalker onePageArgs
          hugePageKernel).args.src.map (fun src => src 0) =
        some (sourceWord 1 true) := by
  have locked := (@migrateVmaSetup_huge onePageHost hugePageKernel 9
    hugePageKernel_sound hugePageWalker onePageArgs rfl rfl).2 (by
      intro head first
      cases first
      rfl)
  have free := (@migrateVmaSetup_huge onePageHost hugePageKernel 1
    hugePageKernel_sound hugePageWalker onePageArgs rfl rfl).1
  refine ⟨locked, ?_, rfl⟩
  rw [← Bool.not_eq_true, free]
  intro whole
  have split := whole 1 rfl
  cases split

end Rshm.Mm
