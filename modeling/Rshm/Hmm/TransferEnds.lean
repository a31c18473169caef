import Rshm.Hmm.TransferExact

/-!
# When reading and writing come to an end

With nothing else going on, a refault that returns 0 has filled the range and
the next critical section copies the rest.  It returns 0 as well when the
process is gone, and has then filled nothing.
-/

namespace Rshm.Hmm

open RangeLoop AddressLoop

variable {Contents : Type}

/-- The answers of a refault beside which nothing else touches the
mirror. -/
def QuietAnswers (answers : Nat → RangeFault) : Prop :=
  ∀ k pt, (answers k).others pt = pt

/-- A `dmirror_range_fault` that returns 0 fills its window. -/
theorem dmirrorRangeFault_fills (direction : Direction)
    {answer : RangeFault} (quiet : ∀ pt, answer.others pt = pt)
    {range : Window} {pt : XArray}
    (ended : (dmirrorRangeFault (direction = .write) answer range pt).2 =
      none) :
    let after := (dmirrorRangeFault (direction = .write) answer range pt).1
    range.start < range.stop ∧ ∀ pfn,
      (pfnOf range.start ≤ pfn → pfn < pfnOf range.stop →
        direction.accepts (after pfn) = true) ∧
      (¬(pfnOf range.start ≤ pfn ∧ pfn < pfnOf range.stop) →
        after pfn = pt pfn) := by
  unfold dmirrorRangeFault at ended ⊢
  by_cases inverted : range.stop ≤ range.start
  · rw [if_pos inverted] at ended
    cases ended
  · rw [if_neg inverted] at ended ⊢
    refine ⟨UInt64.not_le.mp inverted, ?_⟩
    cases reported : answer.reported with
    | error errno =>
        rw [reported] at ended
        cases ended
    | ok hmmPfns =>
        rw [reported] at ended
        obtain ⟨stored, kept⟩ := dmirrorDoFault_complete _ _ _ _ _ _ ended
        intro pfn
        constructor
        · intro lower upper
          obtain ⟨entry, write⟩ := stored pfn lower (by
            unfold Window.npages
            omega)
          dsimp only
          rw [entry]
          cases direction with
          | read => rfl
          | write => simp [Direction.accepts, writeTag, write]
        · intro outside
          have elsewhere := kept pfn (by
            unfold Window.npages
            omega)
          dsimp only
          rw [elsewhere, quiet]

/-- A pass that goes on had no error, and goes on at the end of its
window. -/
theorem FaultState.handOut_ok {state after : FaultState}
    {addr last next : UInt64} {faulted : XArray × Option Errno}
    (went : state.handOut ⟨addr, last⟩ faulted = (after, .ok next)) :
    after.pt = faulted.1 ∧ next = last ∧ faulted.2 = none := by
  obtain ⟨pt, errno⟩ := faulted
  obtain ⟨same, choice⟩ := Prod.mk.inj went
  cases errno with
  | some errno => cases choice
  | none =>
      exact ⟨(congrArg FaultState.pt same).symm, (Except.ok.inj choice).symm,
        rfl⟩

theorem dmirrorFaultOne_ok {answers : Nat → RangeFault} {write : Bool}
    {stop addr next : UInt64} {state after : FaultState}
    (went : dmirrorFaultOne answers write stop addr state =
      (after, .ok next)) :
    after.pt = (dmirrorRangeFault write (answers state.handed.length)
        ⟨addr, windowEnd addr stop⟩ state.pt).1 ∧
      next = windowEnd addr stop ∧
      (dmirrorRangeFault write (answers state.handed.length)
        ⟨addr, windowEnd addr stop⟩ state.pt).2 = none := by
  have handed : state.handOut ⟨addr, windowEnd addr stop⟩
      (dmirrorRangeFault write (answers state.handed.length)
        ⟨addr, windowEnd addr stop⟩ state.pt) = (after, .ok next) := went
  exact FaultState.handOut_ok handed

/-- A `dmirror_fault` on a living process comes to an end, and if it returns
0 its range is filled. -/
theorem dmirrorFault_fills (direction : Direction)
    {answers : Nat → RangeFault} (quiet : QuietAnswers answers)
    {passes : Nat} {start stop : UInt64} (enough : stop.toNat < passes)
    (first : start.toNat % 4096 = 0) (last : stop.toNat % 4096 = 0)
    (pt : XArray) :
    let fault := dmirrorFault true answers (direction = .write) passes start
      stop pt
    fault.2 ≠ .running ∧
      (fault.2 = .ended → ∀ pfn, pfnOf start ≤ pfn → pfn < pfnOf stop →
        direction.accepts (fault.1.pt pfn) = true) := by
  intro fault
  let holds : UInt64 → FaultState → Prop := fun addr state =>
    addr.toNat % 4096 = 0 ∧ ∀ pfn, pfnOf start ≤ pfn → pfn < pfnOf addr →
      direction.accepts (state.pt pfn) = true
  have entered : holds start ⟨pt, []⟩ := by
    refine ⟨first, ?_⟩
    intro pfn lower upper
    omega
  have continues : ∀ addr state after next, addr < stop → holds addr state →
      dmirrorFaultOne answers (direction = .write) stop addr state =
        (after, .ok next) →
      holds next after ∧ addr.toNat < next.toNat ∧
        next.toNat ≤ stop.toNat := by
    intro addr state after next inside held pass
    obtain ⟨same, stopped, ended⟩ := dmirrorFaultOne_ok pass
    obtain ⟨rises, filled⟩ := dmirrorRangeFault_fills direction
      (quiet state.handed.length) ended
    have value := toNat_windowEnd addr stop
    have aligned := held.1
    dsimp only at rises filled
    rw [← stopped] at same rises filled value
    rw [UInt64.lt_iff_toNat_lt] at rises inside
    refine ⟨⟨by omega, ?_⟩, rises, by omega⟩
    intro pfn lower upper
    obtain ⟨within, outside⟩ := filled pfn
    rw [same]
    by_cases earlier : pfn < pfnOf addr
    · rw [outside (by omega)]
      exact held.2 pfn lower earlier
    · apply within _ upper
      omega
  constructor
  · apply forAddress_returns stop (fun addr => stop.toNat - addr.toNat) holds
    · intro addr state after next inside held pass
      obtain ⟨kept, rises, bound⟩ :=
        continues addr state after next inside held pass
      exact ⟨kept, by omega⟩
    · exact entered
    · omega
  · intro ended pfn lower upper
    have concluded := forAddress_induction stop holds (fun _ _ => True)
      (dmirrorFaultOne answers (direction = .write) stop)
      (fun addr state after next inside held pass =>
        (continues addr state after next inside held pass).1)
      (fun _ _ _ _ _ _ _ => trivial) passes start ⟨pt, []⟩ entered
    obtain ⟨addr, beyond, -, filled⟩ := concluded.ended ended
    apply filled pfn lower
    rw [UInt64.lt_iff_toNat_lt] at beyond
    rw [pfnOf_eq] at upper ⊢
    omega

/-- An iteration beside which nothing else touches the mirror, with passes
enough for `dmirror_fault` to come to its end. -/
structure Turn.Quiet (cmd : HmmDmirrorCmd) (alive : Bool)
    (turn : Turn Contents) : Prop where
  others : ∀ pt, turn.others pt = pt
  alive : turn.alive = alive
  answers : QuietAnswers turn.answers
  passes : cmd.stop.toNat < turn.passes

/-- The loop is left in its first iteration, or in the second, after one
`dmirror_fault` that returned 0. -/
def EndsAfterOneFault (Contents : Type) (direction : Direction)
    (cmd : HmmDmirrorCmd) (alive : Bool) (pt : XArray) : Prop :=
  ∀ (ptr : UInt64 → Contents) (mem : Memory Contents)
    (first second : Turn Contents),
    first.Quiet cmd alive → second.Quiet cmd alive →
    ∃ middle,
      retryOnce direction cmd (cmd.enter ptr pt mem) first = some middle ∧
      (middle.result.isSome = true ∨
        ∃ last, retryOnce direction cmd middle second = some last ∧
          last.result.isSome = true)

/-- Each page of the range has an entry that the ioctl copies through. -/
def Filled (direction : Direction) (cmd : HmmDmirrorCmd) (pt : XArray) :
    Prop :=
  ∀ pfn, pfnOf cmd.addr ≤ pfn → pfn < pfnOf cmd.stop →
    direction.accepts (pt pfn) = true

/-- A `dmirror_fault` for the range that returns 0 has filled it. -/
def FaultFills (direction : Direction) (cmd : HmmDmirrorCmd) (alive : Bool)
    (pt : XArray) : Prop :=
  ∀ answers passes, QuietAnswers answers → cmd.stop.toNat < passes →
    (dmirrorFault alive answers (direction = .write) passes cmd.addr cmd.stop
      pt).2 = .ended →
    Filled direction cmd
      (dmirrorFault alive answers (direction = .write) passes cmd.addr
        cmd.stop pt).1.pt

theorem doTransfer_complete {direction : Direction} {pt : XArray}
    {start stop : UInt64}
    (filled : ∀ pfn, pfnOf start ≤ pfn → pfn < pfnOf stop →
      direction.accepts (pt pfn) = true)
    (bounce : Bounce Contents) (mem : Memory Contents)
    (copies : List (Copy Contents)) :
    (doTransfer direction pt start stop bounce mem copies).2 = none := by
  have complete := forRange_complete (fun _ _ => True)
    (doPage direction pt) (pfnOf stop - pfnOf start)
    (pfnOf start) ⟨(start - bounce.addr) &&& pageMask, bounce, mem, copies⟩
    trivial (by
      intro pfn state lower upper _
      have accepts := filled pfn lower (by omega)
      unfold doPage
      cases found : pt pfn with
      | none =>
          rw [found] at accepts
          cases direction <;> cases accepts
      | some entry =>
          rw [found] at accepts
          simp [accepts])
  exact complete.1

section Quiet

variable {direction : Direction} {cmd : HmmDmirrorCmd} {alive : Bool}
  {pt : XArray}

theorem faultFills_of (aligned : PageAligned cmd.addr)
    (range : cmd.InRange) (able : alive = true ∨ Filled direction cmd pt) :
    FaultFills direction cmd alive pt := by
  intro answers passes quiet enough ended
  have first := (pageAligned_iff cmd.addr).mp aligned
  have stop := range.toNat_stop
  cases alive with
  | true =>
      exact (dmirrorFault_fills direction quiet enough first (by omega)
        pt).2 ended
  | false =>
      rcases able with never | filled
      · cases never
      · exact filled

theorem retryOnce_filled (progress : Progress Contents)
    {turn : Turn Contents} (quiet : turn.Quiet cmd alive)
    (running : progress.result = none)
    (filled : ∀ pfn, pfnOf progress.start ≤ pfn → pfn < pfnOf cmd.stop →
      direction.accepts (progress.pt pfn) = true) :
    ∃ last, retryOnce direction cmd progress turn = some last ∧
      last.result.isSome = true := by
  have same := quiet.others progress.pt
  have complete := doTransfer_complete filled progress.bounce
    (turn.stores progress.mem) progress.copies
  unfold retryOnce
  rw [running, same]
  simp only [Option.isSome_none, Bool.false_eq_true, if_false, complete]
  exact ⟨_, rfl, rfl⟩

/-- An iteration on a living process leaves the loop, or the rest of the
range is filled after it. -/
theorem retryOnce_living (aligned : PageAligned cmd.addr)
    (range : cmd.InRange) {progress : Progress Contents}
    {turn : Turn Contents} (quiet : turn.Quiet cmd true)
    (exact_ : progress.Exact direction cmd)
    (running : progress.result = none) :
    ∃ middle, retryOnce direction cmd progress turn = some middle ∧
      (middle.result.isSome = true ∨ middle.result = none ∧
        ∀ pfn, pfnOf middle.start ≤ pfn → pfn < pfnOf cmd.stop →
          direction.accepts (middle.pt pfn) = true) := by
  have first := (pageAligned_iff cmd.addr).mp aligned
  have stop := range.toNat_stop
  have same := quiet.others progress.pt
  obtain ⟨position, -⟩ := exact_.retry running
  rw [← exact_.inOrder.count] at position
  obtain ⟨inOrder, -, -, exits⟩ := doTransfer_inOrder aligned range
    progress.pt (turn.stores progress.mem) exact_.inOrder position
  unfold retryOnce
  rw [running, same]
  simp only [Option.isSome_none, Bool.false_eq_true, if_false]
  generalize doTransfer direction progress.pt progress.start cmd.stop
    progress.bounce (turn.stores progress.mem) progress.copies = after at inOrder exits ⊢
  rcases exits with done | missing
  · rw [done]
    exact ⟨_, rfl, .inl rfl⟩
  · rw [missing]
    have bound := inOrder.bound
    rw [inOrder.count] at bound
    have start := range.toNat_start bound
    have from_ : (cmd.addr +
        (after.1.bounce.cpages <<< pageShift)).toNat % 4096 = 0 := by
      rw [start]
      omega
    have to_ : cmd.stop.toNat % 4096 = 0 := by
      rw [stop]
      omega
    obtain ⟨returns, fills⟩ := dmirrorFault_fills direction quiet.answers
      quiet.passes from_ to_ progress.pt
    unfold refault
    rw [quiet.alive]
    dsimp only
    split
    · next still => exact absurd still returns
    · exact ⟨_, rfl, .inl rfl⟩
    · next ended =>
      refine ⟨_, rfl, .inr ⟨running, ?_⟩⟩
      exact fills ended

theorem endsAfterOneFault_of (aligned : PageAligned cmd.addr)
    (range : cmd.InRange) (able : alive = true ∨ Filled direction cmd pt) :
    EndsAfterOneFault Contents direction cmd alive pt := by
  intro ptr mem first second quiet quiet'
  rcases able with rfl | filled
  · have entered : (cmd.enter ptr pt mem).Exact direction cmd :=
      Progress.enter_exact range ptr pt mem
    obtain ⟨middle, moved, left | ⟨running, filled⟩⟩ :=
      retryOnce_living aligned range quiet entered rfl
    · exact ⟨middle, moved, .inl left⟩
    · refine ⟨middle, moved, .inr ?_⟩
      exact retryOnce_filled middle quiet' running filled
  · obtain ⟨middle, moved, left⟩ :=
      retryOnce_filled (cmd.enter ptr pt mem) quiet rfl filled
    exact ⟨middle, moved, .inl left⟩

/-- On a process that is gone, with a page missing, no iteration leaves the
loop. -/
structure Spins (direction : Direction) (cmd : HmmDmirrorCmd) (pt : XArray)
    (progress : Progress Contents) : Prop where
  exact_ : progress.Exact direction cmd
  running : progress.result = none
  same : progress.pt = pt
  loaded : ∀ copy ∈ progress.copies, pt copy.pfn = some copy.entry

theorem retryOnce_spins (aligned : PageAligned cmd.addr)
    (range : cmd.InRange) (missing : ¬Filled direction cmd pt)
    {progress next : Progress Contents} {turn : Turn Contents}
    (quiet : turn.Quiet cmd false) (spins : Spins direction cmd pt progress)
    (moved : retryOnce direction cmd progress turn = some next) :
    Spins direction cmd pt next := by
  obtain ⟨exact_, new, list, loaded, -⟩ :=
    retryOnce_exact aligned range spins.exact_ moved
  have quietPt : turn.others progress.pt = pt := by
    rw [quiet.others, spins.same]
  have through : ∀ copy ∈ next.copies, pt copy.pfn = some copy.entry := by
    intro copy member
    rw [list] at member
    rcases List.mem_append.mp member with earlier | late
    · exact spins.loaded copy earlier
    · rw [← quietPt]
      exact (loaded copy late).1
  -- A loop left with 0 would have copied the missing page.
  have unfinished : next.result ≠ some none := by
    intro finished
    apply missing
    have all := exact_.finished finished
    intro pfn lower upper
    have inOrder := exact_.inOrder
    have stop := range.toNat_stop
    have first := (pageAligned_iff cmd.addr).mp aligned
    have count := inOrder.count
    rw [all] at count
    rw [pfnOf_eq] at upper
    have here : pfn - pfnOf cmd.addr < next.copies.length := by
      rw [pfnOf_eq] at lower ⊢
      omega
    have found := List.getElem?_eq_getElem here
    have place := (inOrder.place _ _ found).1
    have member := List.getElem_mem here
    have entry := through _ member
    have at_ : pfnOf cmd.addr + (pfn - pfnOf cmd.addr) = pfn := by omega
    rw [place, at_] at entry
    rw [entry]
    exact inOrder.accepted _ member
  unfold retryOnce at moved
  rw [spins.running, quietPt] at moved
  simp only [Option.isSome_none, Bool.false_eq_true, if_false] at moved
  split at moved
  · unfold refault at moved
    rw [quiet.alive] at moved
    simp only [dmirrorFault, Bool.false_eq_true, if_false] at moved
    obtain rfl := Option.some.inj moved
    exact ⟨exact_, spins.running, rfl, through⟩
  · next ret other =>
    obtain ⟨position, -⟩ := spins.exact_.retry spins.running
    rw [← spins.exact_.inOrder.count] at position
    obtain ⟨-, -, -, done | early⟩ := doTransfer_inOrder aligned range pt
      (turn.stores progress.mem) spins.exact_.inOrder position
    · obtain rfl := Option.some.inj moved
      exact absurd (congrArg some done) unfinished
    · exact absurd early other

end Quiet

/-- The request with as many pages as its range has.  `npages` may have more
bits than survive the shift. -/
def HmmDmirrorCmd.exactly (cmd : HmmDmirrorCmd) : HmmDmirrorCmd :=
  { cmd with npages := cmd.size >>> pageShift }

theorem HmmDmirrorCmd.exactly_size (cmd : HmmDmirrorCmd) :
    cmd.exactly.size = cmd.size := by
  have pages : (cmd.size >>> pageShift).toNat = cmd.size.toNat / 4096 :=
    pfnOf_eq cmd.size
  have size := toNat_shiftPage cmd.npages
  have again := toNat_shiftPage (cmd.size >>> pageShift)
  have below := cmd.size.toNat_lt
  change cmd.size.toNat = _ at size
  change cmd.exactly.size.toNat = _ at again
  apply UInt64.toNat_inj.mp
  rw [again, pages, size]
  omega

theorem HmmDmirrorCmd.exactly_stop (cmd : HmmDmirrorCmd) :
    cmd.exactly.stop = cmd.stop := by
  unfold HmmDmirrorCmd.stop
  rw [cmd.exactly_size]
  rfl

theorem HmmDmirrorCmd.Admitted.exactly {cmd : HmmDmirrorCmd}
    (admitted : cmd.Admitted) : cmd.exactly.InRange := by
  have order := UInt64.lt_iff_toNat_lt.mp admitted.2
  have sum : cmd.stop.toNat = (cmd.addr.toNat + cmd.size.toNat) % 2 ^ 64 :=
    UInt64.toNat_add cmd.addr cmd.size
  have pages : cmd.exactly.npages.toNat = cmd.size.toNat / 4096 :=
    pfnOf_eq cmd.size
  have addr : cmd.exactly.addr = cmd.addr := rfl
  have first := cmd.addr.toNat_lt
  have last := cmd.size.toNat_lt
  unfold HmmDmirrorCmd.InRange
  rw [pages, addr]
  omega

theorem retryOnce_exactly (direction : Direction) (cmd : HmmDmirrorCmd) :
    ∀ (progress : Progress Contents) turn,
      retryOnce direction cmd.exactly progress turn =
        retryOnce direction cmd progress turn := by
  intro progress turn
  unfold retryOnce refault
  rw [cmd.exactly_stop]
  rfl

theorem HmmDmirrorCmd.exactly_enter (cmd : HmmDmirrorCmd)
    (ptr : UInt64 → Contents) (pt : XArray) (mem : Memory Contents) :
    cmd.exactly.enter ptr pt mem = cmd.enter ptr pt mem := by
  unfold HmmDmirrorCmd.enter
  rw [cmd.exactly_size]
  rfl

@[simp] theorem HmmDmirrorCmd.exactly_addr (cmd : HmmDmirrorCmd) :
    cmd.exactly.addr = cmd.addr := rfl

section Exactly

variable {direction : Direction} {cmd : HmmDmirrorCmd} {alive : Bool}
  {pt : XArray}

theorem filled_exactly :
    Filled direction cmd.exactly pt ↔ Filled direction cmd pt := by
  unfold Filled
  rw [cmd.exactly_stop, cmd.exactly_addr]

theorem faultFills_exactly :
    FaultFills direction cmd.exactly alive pt ↔
      FaultFills direction cmd alive pt := by
  unfold FaultFills Filled
  rw [cmd.exactly_stop, cmd.exactly_addr]

theorem Turn.Quiet.exactly {turn : Turn Contents}
    (quiet : turn.Quiet cmd alive) : turn.Quiet cmd.exactly alive := by
  refine ⟨quiet.others, quiet.alive, quiet.answers, ?_⟩
  rw [cmd.exactly_stop]
  exact quiet.passes

theorem endsAfterOneFault_exactly
    (ends : EndsAfterOneFault Contents direction cmd.exactly alive pt) :
    EndsAfterOneFault Contents direction cmd alive pt := by
  intro ptr mem first second quiet quiet'
  have both := ends ptr mem first second quiet.exactly quiet'.exactly
  rw [cmd.exactly_enter] at both
  simpa only [retryOnce_exactly] using both

/-- On a process that is gone, with a page missing, the loop goes on for
ever. -/
theorem never_ends (admitted : cmd.Admitted)
    (missing : ¬Filled direction cmd pt) (ptr : UInt64 → Contents)
    (mem : Memory Contents) {turns : List (Turn Contents)} {last : Progress Contents}
    (run : (transferMachine direction cmd).Run
      (fun _ turn => turn.Quiet cmd false) (cmd.enter ptr pt mem) turns last) :
    last.result = none := by
  have range := admitted.exactly
  have aligned : PageAligned cmd.exactly.addr := admitted.1
  rw [← filled_exactly] at missing
  have entered : Spins direction cmd.exactly pt (cmd.enter ptr pt mem) := by
    rw [← cmd.exactly_enter]
    refine ⟨Progress.enter_exact range ptr pt mem, rfl, rfl, ?_⟩
    intro copy member
    cases member
  have spins := run.preserves (Spins direction cmd.exactly pt) (by
    intro progress turn next spins quiet moved
    apply retryOnce_spins aligned range missing quiet.exactly spins
    rw [retryOnce_exactly]
    exact moved) entered
  exact spins.running

end Exactly

/-- With nothing else going on the loops of `dmirror_read` and
`dmirror_write` end after one `dmirror_fault` that returns 0, which then has
filled the range, exactly if the process is alive or no page is missing.
Else they never end. -/
theorem ends_iff_alive (direction : Direction) (cmd : HmmDmirrorCmd)
    (alive : Bool) (pt : XArray) (admitted : cmd.Admitted) :
    (EndsAfterOneFault Contents direction cmd alive pt ∧
        FaultFills direction cmd alive pt ↔
      alive = true ∨ Filled direction cmd pt) ∧
    (¬(alive = true ∨ Filled direction cmd pt) →
      ∀ (ptr : UInt64 → Contents) mem turns last,
        (transferMachine direction cmd).Run
          (fun _ turn => turn.Quiet cmd alive) (cmd.enter ptr pt mem) turns
          last →
        last.result = none) := by
  refine ⟨⟨?_, ?_⟩, ?_⟩
  · rintro ⟨-, fills⟩
    cases alive with
    | true => exact .inl rfl
    | false =>
        have filled := fills
          (fun _ => ⟨fun pt => pt, .error .ebusy, fun _ => false⟩)
          (cmd.stop.toNat + 1) (fun _ _ => rfl) (by omega) rfl
        exact .inr filled
  · intro able
    rw [← filled_exactly] at able
    constructor
    · apply endsAfterOneFault_exactly
      exact endsAfterOneFault_of admitted.1 admitted.exactly able
    · apply faultFills_exactly.mp
      exact faultFills_of admitted.1 admitted.exactly able
  · intro unable ptr mem turns last run
    obtain ⟨gone, missing⟩ := not_or.mp unable
    rw [Bool.not_eq_true] at gone
    subst gone
    exact never_ends admitted missing ptr mem run

/-- One page at address 4096, on a process that has exited. -/
private def onePage : HmmDmirrorCmd := ⟨4096, 0, 1, 0, 0⟩

private def deadTurn : Turn Nat where
  others := fun pt => pt
  stores := fun mem => mem
  alive := false
  answers := fun _ => ⟨fun pt => pt, .error .ebusy, fun _ => false⟩
  passes := 8193

private def emptyMemory : Memory Nat := ⟨fun _ => 0, fun _ => .null, ∅⟩

private theorem deadTurn_quiet : deadTurn.Quiet onePage false :=
  ⟨fun _ => rfl, rfl, fun _ _ => rfl, by decide⟩

theorem ends_iff_alive_dead :
    onePage.Admitted ∧
      ¬(EndsAfterOneFault Nat .read onePage false (fun _ => none) ∧
        FaultFills .read onePage false fun _ => none) := by
  have admitted : onePage.Admitted := by decide
  refine ⟨admitted, ?_⟩
  intro both
  have able :=
    (ends_iff_alive .read onePage false (fun _ => none) admitted).1.mp both
  rcases able with alive | filled
  · cases alive
  · have present := filled 1 (by decide) (by decide)
    cases present

/-- `dmirror_read` on a process that has exited does not end. -/
theorem read_of_dead_process :
    onePage.Admitted ∧
      ¬EndsAfterOneFault Nat .read onePage false fun _ => none := by
  refine ⟨by decide, ?_⟩
  intro ends
  obtain ⟨middle, moved, left⟩ := ends (fun _ => 0) emptyMemory deadTurn
    deadTurn deadTurn_quiet deadTurn_quiet
  have once : (retryOnce .read onePage
      (onePage.enter (fun _ => 0) (fun _ => none) emptyMemory) deadTurn).any
        (fun middle => middle.result.isNone &&
          (retryOnce .read onePage middle deadTurn).any
            fun last => last.result.isNone) = true := by
    decide +kernel
  rw [moved] at once
  simp only [Option.any_some, Bool.and_eq_true,
    Option.isNone_iff_eq_none] at once
  rcases left with first | ⟨last, again, second⟩
  · rw [once.1] at first
    cases first
  · have none_ := once.2
    rw [again, Option.any_some, Option.isNone_iff_eq_none] at none_
    rw [none_] at second
    cases second

end Rshm.Hmm
