import Rshm.Hmm.Transfer

/-!
# Every page once and in order

However the mirror changes between the critical sections, the pages of the
request are copied one after the other, each at its own place in the bounce
buffer, and the two ways in which the loop keeps its position agree.
-/

namespace Rshm.Hmm

open RangeLoop AddressLoop

variable {Contents : Type}

/-- The range of the request does not wrap. -/
def HmmDmirrorCmd.InRange (cmd : HmmDmirrorCmd) : Prop :=
  cmd.addr.toNat + cmd.npages.toNat * 4096 < 2 ^ 64

instance (cmd : HmmDmirrorCmd) : Decidable cmd.InRange :=
  inferInstanceAs (Decidable (_ < _))

theorem HmmDmirrorCmd.toNat_size (cmd : HmmDmirrorCmd)
    (small : cmd.npages.toNat < 2 ^ 52) :
    cmd.size.toNat = cmd.npages.toNat * 4096 := by
  rw [HmmDmirrorCmd.size, toNat_shiftPage]
  omega

theorem HmmDmirrorCmd.InRange.toNat_size {cmd : HmmDmirrorCmd}
    (range : cmd.InRange) : cmd.size.toNat = cmd.npages.toNat * 4096 := by
  unfold HmmDmirrorCmd.InRange at range
  apply HmmDmirrorCmd.toNat_size
  omega

theorem HmmDmirrorCmd.InRange.toNat_stop {cmd : HmmDmirrorCmd}
    (range : cmd.InRange) :
    cmd.stop.toNat = cmd.addr.toNat + cmd.npages.toNat * 4096 := by
  have size := range.toNat_size
  unfold HmmDmirrorCmd.InRange at range
  rw [HmmDmirrorCmd.stop, UInt64.toNat_add, size]
  omega

/-- The address of page `pages` of the request. -/
theorem HmmDmirrorCmd.InRange.toNat_start {cmd : HmmDmirrorCmd}
    (range : cmd.InRange) {pages : UInt64}
    (bound : pages.toNat ≤ cmd.npages.toNat) :
    (cmd.addr + (pages <<< pageShift)).toNat =
      cmd.addr.toNat + pages.toNat * 4096 := by
  unfold HmmDmirrorCmd.InRange at range
  rw [UInt64.toNat_add, toNat_shiftPage]
  omega

/-- The copies made so far are those of the first pages of the request, each
once and at its own offset, and the buffer holds what they moved. -/
structure InOrder (direction : Direction) (cmd : HmmDmirrorCmd)
    (copies : List (Copy Contents)) (bounce : Bounce Contents) : Prop where
  addr : bounce.addr = cmd.addr
  size : bounce.size = cmd.size
  count : copies.length = bounce.cpages.toNat
  bound : copies.length ≤ cmd.npages.toNat
  place : ∀ k copy, copies[k]? = some copy →
    copy.pfn = pfnOf cmd.addr + k ∧ copy.offset.toNat = 4096 * k ∧
      copy.offset.toNat + 4096 ≤ bounce.size.toNat
  accepted : ∀ copy ∈ copies, direction.accepts (some copy.entry) = true
  bytes : ∀ copy ∈ copies, bounce.ptr copy.offset = copy.bytes

/-- The memory after `dmirror_do_write` has made some copies, one after the
other. -/
def Memory.copyIn (mem : Memory Contents) (copies : List (Copy Contents)) :
    Memory Contents :=
  copies.foldl (fun mem copy => mem.write copy.entry.page copy.bytes) mem

theorem Memory.copyIn_other {mem : Memory Contents}
    {copies : List (Copy Contents)} {page : Page}
    (others : ∀ copy ∈ copies, copy.entry.page ≠ page) :
    (mem.copyIn copies).contents page = mem.contents page := by
  induction copies generalizing mem with
  | nil => rfl
  | cons copy copies induction =>
      have rest : (mem.copyIn (copy :: copies)).contents page =
          (mem.write copy.entry.page copy.bytes).contents page :=
        induction fun later member =>
          others later (List.mem_cons_of_mem _ member)
      rw [rest]
      exact Function.update_of_ne (others copy List.mem_cons_self).symm ..

/-- A page has the bytes of the last copy that went to it. -/
theorem Memory.copyIn_last (mem : Memory Contents)
    {front back : List (Copy Contents)} {copy : Copy Contents}
    (last : ∀ later ∈ back, later.entry.page ≠ copy.entry.page) :
    (mem.copyIn (front ++ copy :: back)).contents copy.entry.page =
      copy.bytes := by
  have split : mem.copyIn (front ++ copy :: back) =
      ((mem.copyIn front).write copy.entry.page copy.bytes).copyIn back := by
    simp only [copyIn, List.foldl_append, List.foldl_cons]
  rw [split, copyIn_other last]
  exact Function.update_self ..

/-- What a critical section does with the memory: a read leaves it alone, and
a write puts the bytes of each copy into the page of its entry. -/
structure Leaves (direction : Direction) (copies : List (Copy Contents))
    (before after : Memory Contents) : Prop where
  read : direction = .read → after = before
  write : direction = .write → after = before.copyIn copies

/-- After a write the page of an entry has the bytes of the last copy through
it. -/
theorem Leaves.holds {direction : Direction} {copies : List (Copy Contents)}
    {before after : Memory Contents}
    (leaves : Leaves direction copies before after)
    (writes : direction = .write) {front back : List (Copy Contents)}
    {copy : Copy Contents} (here : copies = front ++ copy :: back)
    (last : ∀ later ∈ back, later.entry.page ≠ copy.entry.page) :
    after.contents copy.entry.page = copy.bytes := by
  rw [leaves.write writes, here]
  exact before.copyIn_last last

/-- A copy is recorded with the entry it goes through, and the buffer holds
its bytes afterwards. -/
theorem copyPage_copies (direction : Direction) (pfn : Nat) (entry : Entry)
    (state : Section Contents) :
    let after := copyPage direction pfn entry state
    ∃ bytes, after.copies =
        state.copies ++ [⟨pfn, state.ptr, entry, bytes⟩] ∧
      (direction = .read → bytes = state.mem.contents entry.page) ∧
      after.bounce.ptr state.ptr = bytes ∧
      ∀ offset, offset ≠ state.ptr →
        after.bounce.ptr offset = state.bounce.ptr offset := by
  cases direction with
  | read =>
      refine ⟨_, rfl, fun _ => rfl, Function.update_self .., ?_⟩
      intro offset different
      exact Function.update_of_ne different ..
  | write => exact ⟨_, rfl, nofun, rfl, fun _ _ => rfl⟩

theorem Leaves.copyPage {direction : Direction}
    {copies new : List (Copy Contents)} {before : Memory Contents}
    {pfn : Nat} {entry : Entry} {state : Section Contents}
    (leaves : Leaves direction new before state.mem)
    {bytes : Contents}
    (appended : (Hmm.copyPage direction pfn entry state).copies =
      copies ++ [⟨pfn, state.ptr, entry, bytes⟩]) :
    Leaves direction (new ++ [⟨pfn, state.ptr, entry, bytes⟩]) before
      (Hmm.copyPage direction pfn entry state).mem := by
  constructor
  · rintro rfl
    unfold Hmm.copyPage
    exact leaves.read rfl
  · rintro rfl
    have same : state.bounce.ptr state.ptr = bytes := by
      have last := congrArg List.getLast? appended
      simpa [Hmm.copyPage] using last
    rw [Memory.copyIn, List.foldl_append, List.foldl_cons, List.foldl_nil]
    show state.mem.write entry.page (state.bounce.ptr state.ptr) = _
    rw [same, leaves.write rfl]
    rfl

namespace InOrder

variable {direction : Direction} {cmd : HmmDmirrorCmd}
  {copies : List (Copy Contents)} {bounce : Bounce Contents}

theorem pages (inOrder : InOrder direction cmd copies bounce) :
    copies.map Copy.pfn =
      (List.range copies.length).map (pfnOf cmd.addr + ·) := by
  apply List.ext_getElem?
  intro k
  rw [List.getElem?_map, List.getElem?_map]
  by_cases inside : k < copies.length
  · have found : copies[k]? = some copies[k] :=
      List.getElem?_eq_getElem inside
    rw [found, List.getElem?_range inside]
    simp only [Option.map_some, (inOrder.place k _ found).1]
  · have beyond : copies.length ≤ k := Nat.le_of_not_lt inside
    rw [List.getElem?_eq_none beyond, List.getElem?_eq_none (by simpa)]
    rfl

theorem copy (inOrder : InOrder direction cmd copies bounce)
    (range : cmd.InRange) (more : copies.length < cmd.npages.toNat)
    {ptr : UInt64} (position : ptr.toNat = 4096 * copies.length)
    {entry : Entry} (accepts : direction.accepts (some entry) = true)
    (mem : Memory Contents) :
    let after := copyPage direction (pfnOf cmd.addr + copies.length) entry
      ⟨ptr, bounce, mem, copies⟩
    InOrder direction cmd after.copies after.bounce ∧
      after.ptr.toNat = 4096 * after.copies.length := by
  intro after
  have size := range.toNat_size
  unfold HmmDmirrorCmd.InRange at range
  obtain ⟨bytes, list, -, here, elsewhere⟩ := copyPage_copies direction
    (pfnOf cmd.addr + copies.length) entry ⟨ptr, bounce, mem, copies⟩
  change after.copies = copies ++ [_] at list
  have length : after.copies.length = copies.length + 1 := by
    rw [list, List.length_append, List.length_singleton]
  constructor
  · refine ⟨inOrder.addr, inOrder.size, ?_, by omega, ?_, ?_, ?_⟩
    · have cpages : after.bounce.cpages = bounce.cpages + 1 := rfl
      have count := inOrder.count
      rw [length, cpages, UInt64.toNat_add]
      have one : (1 : UInt64).toNat = 1 := rfl
      omega
    · intro k copy found
      rw [list, List.getElem?_append] at found
      split at found
      · exact inOrder.place k copy found
      · next beyond =>
        obtain ⟨first, same⟩ := List.getElem?_eq_some_iff.mp found
        have last : k = copies.length := by
          simp only [List.length_singleton] at first
          omega
        subst last
        simp only [Nat.sub_self, List.getElem_cons_zero] at same
        subst same
        have room : after.bounce.size.toNat = cmd.npages.toNat * 4096 := by
          rw [← size]
          exact congrArg UInt64.toNat inOrder.size
        refine ⟨rfl, position, ?_⟩
        rw [room]
        change ptr.toNat + 4096 ≤ _
        omega
    · intro copy member
      rw [list] at member
      rcases List.mem_append.mp member with earlier | last
      · exact inOrder.accepted copy earlier
      · cases List.mem_singleton.mp last
        exact accepts
    · intro copy member
      rw [list] at member
      rcases List.mem_append.mp member with earlier | last
      · obtain ⟨k, bound, same⟩ := List.mem_iff_getElem.mp earlier
        have place := (inOrder.place k copy (by
          rw [List.getElem?_eq_getElem bound, same])).2.1
        have different : copy.offset ≠ ptr := by
          intro equal
          rw [equal] at place
          omega
        rw [elsewhere copy.offset different]
        exact inOrder.bytes copy earlier
      · cases List.mem_singleton.mp last
        exact here
  · have moved : after.ptr = ptr + pageSize := rfl
    rw [length, moved, UInt64.toNat_add, toNat_pageSize]
    omega

end InOrder

theorem doPage_exit (direction : Direction) (pt : XArray) (pfn : Nat)
    (state : Section Contents) (errno : Errno)
    (left : (doPage direction pt pfn state).2 = some errno) :
    errno = .enoent := by
  unfold doPage at left
  split at left
  · cases left
    rfl
  · split at left <;> cases left
    rfl

/-- What a critical section does from page `copies.length` of the request
on: it copies the next pages through the entries it finds, and if it returns
0, all of them. -/
theorem doTransfer_inOrder {direction : Direction} {cmd : HmmDmirrorCmd}
    (aligned : PageAligned cmd.addr) (range : cmd.InRange) (pt : XArray)
    {start : UInt64} {bounce : Bounce Contents} (mem : Memory Contents)
    {copies : List (Copy Contents)}
    (inOrder : InOrder direction cmd copies bounce)
    (position : start.toNat = cmd.addr.toNat + copies.length * 4096) :
    let after := doTransfer direction pt start cmd.stop bounce mem copies
    InOrder direction cmd after.1.copies after.1.bounce ∧
      (∃ new, after.1.copies = copies ++ new ∧
        (∀ copy ∈ new, pt copy.pfn = some copy.entry ∧
          (direction = .read →
            copy.bytes = mem.contents copy.entry.page)) ∧
        Leaves direction new mem after.1.mem ∧
        (direction = .write → after.1.bounce.ptr = bounce.ptr)) ∧
      (after.2 = none → after.1.copies.length = cmd.npages.toNat) ∧
      (after.2 = none ∨ after.2 = some .enoent) := by
  intro after
  have first := (pageAligned_iff cmd.addr).mp aligned
  have stop := range.toNat_stop
  have below : cmd.addr.toNat + cmd.npages.toNat * 4096 < 2 ^ 64 := range
  have bound := inOrder.bound
  -- The offset of the next page, by the pointer and by the address.
  have offset : ((start - bounce.addr) &&& pageMask).toNat =
      4096 * copies.length := by
    rw [toNat_pageMask, inOrder.addr, UInt64.toNat_sub_of_le]
    · omega
    · rw [UInt64.le_iff_toNat_le]
      omega
  have firstPfn : pfnOf start = pfnOf cmd.addr + copies.length := by
    rw [pfnOf_eq, pfnOf_eq]
    omega
  have passes : pfnOf cmd.stop - pfnOf start =
      cmd.npages.toNat - copies.length := by
    rw [pfnOf_eq, pfnOf_eq]
    omega
  let holds : Nat → Section Contents → Prop := fun pfn state =>
    InOrder direction cmd state.copies state.bounce ∧
      state.ptr.toNat = 4096 * state.copies.length ∧
      pfn = pfnOf cmd.addr + state.copies.length ∧
      ∃ new, state.copies = copies ++ new ∧
        (∀ copy ∈ new, pt copy.pfn = some copy.entry ∧
          (direction = .read →
            copy.bytes = mem.contents copy.entry.page)) ∧
        Leaves direction new mem state.mem ∧
        (direction = .write → state.bounce.ptr = bounce.ptr)
  have entered : holds (pfnOf start)
      ⟨(start - bounce.addr) &&& pageMask, bounce, mem, copies⟩ :=
    ⟨inOrder, offset, firstPfn, [], by simp, by simp,
      ⟨fun _ => rfl, fun _ => rfl⟩, fun _ => rfl⟩
  have pass : ∀ pfn state, pfnOf start ≤ pfn →
      pfn < pfnOf start + (pfnOf cmd.stop - pfnOf start) →
      holds pfn state →
      ((doPage direction pt pfn state).2 = none ∧
        holds (pfn + 1) (doPage direction pt pfn state).1) ∨
      (doPage direction pt pfn state).2 = some .enoent ∧
        (doPage direction pt pfn state).1 = state := by
    intro pfn state lower upper held
    obtain ⟨sound, ptr, here, new, list, loaded, leaves, buffer⟩ := held
    unfold doPage
    cases found : pt pfn with
    | none => exact .inr ⟨rfl, rfl⟩
    | some entry =>
        dsimp only
        by_cases accepts : direction.accepts (some entry) = true
        · rw [if_pos accepts]
          subst here
          have more : state.copies.length < cmd.npages.toNat := by omega
          obtain ⟨next, moved⟩ := sound.copy range more ptr accepts state.mem
          obtain ⟨bytes, appended, read, -⟩ := copyPage_copies direction
            (pfnOf cmd.addr + state.copies.length) entry state
          refine .inl ⟨rfl, next, moved, ?_, new ++ [⟨pfnOf cmd.addr +
            state.copies.length, state.ptr, entry, bytes⟩], ?_, ?_,
            leaves.copyPage appended, ?_⟩
          · rw [appended, List.length_append, List.length_singleton]
            omega
          · rw [appended, list, List.append_assoc]
          · intro copy member
            rcases List.mem_append.mp member with earlier | last
            · exact loaded copy earlier
            · cases List.mem_singleton.mp last
              refine ⟨found, ?_⟩
              intro reads
              rw [← leaves.read reads]
              exact read reads
          · rintro rfl
            exact buffer rfl
        · rw [if_neg accepts]
          exact .inr ⟨rfl, rfl⟩
  obtain ⟨done, -, sound, -, -, through⟩ :=
    forRange_induction holds (doPage direction pt) _ _ _ entered (by
      intro pfn state lower upper held
      rcases pass pfn state lower upper held with
        ⟨goesOn, kept⟩ | ⟨stops, same⟩
      · exact ⟨fun _ => kept, fun stops => absurd goesOn stops⟩
      · rw [stops, same]
        exact ⟨nofun, fun _ => held⟩)
  refine ⟨sound, through, ?_, ?_⟩
  · intro ended
    have all := forRange_finished holds (doPage direction pt) _ _ _ entered
      (by
        intro pfn state lower upper held goesOn
        rcases pass pfn state lower upper held with ⟨-, kept⟩ | ⟨stops, -⟩
        · exact kept
        · rw [goesOn] at stops
          cases stops) ended
    obtain ⟨sound, -, last, -⟩ := all
    have most := sound.bound
    show after.1.copies.length = _
    change _ = pfnOf cmd.addr + after.1.copies.length at last
    change after.1.copies.length ≤ _ at most
    omega
  · cases ret : after.2 with
    | none => exact .inl rfl
    | some errno =>
        exact .inr (by rw [forRange_exit (doPage_exit direction pt) ret])

/-- What holds between any two iterations: the copies are in order, the next
address and the number of pages agree, and a loop left with 0 has copied the
whole request. -/
structure Progress.Exact (direction : Direction) (cmd : HmmDmirrorCmd)
    (progress : Progress Contents) : Prop where
  inOrder : InOrder direction cmd progress.copies progress.bounce
  retry : progress.result = none →
    progress.start.toNat =
      cmd.addr.toNat + progress.bounce.cpages.toNat * 4096 ∧
    progress.start ≤ cmd.stop
  finished : progress.result = some none →
    progress.bounce.cpages = cmd.npages

/-- What one iteration adds went through the entries that the mirror held in
its critical section: a read found the copied bytes in the pages of the
entries, and a write, whose buffer keeps the data of the user, left them
there. -/
def Progress.Through (direction : Direction) (progress : Progress Contents)
    (turn : Turn Contents) (next : Progress Contents) : Prop :=
  ∃ new, next.copies = progress.copies ++ new ∧
    (∀ copy ∈ new, turn.others progress.pt copy.pfn = some copy.entry ∧
      (direction = .read →
        copy.bytes = (turn.stores progress.mem).contents copy.entry.page)) ∧
    Leaves direction new (turn.stores progress.mem) next.mem ∧
    (direction = .write → next.bounce.ptr = progress.bounce.ptr)

/-- A copy of the last iteration to whose page no later one went is in that
page. -/
theorem Progress.Through.holds {direction : Direction}
    {progress next : Progress Contents} {turn : Turn Contents}
    (through : progress.Through direction turn next)
    (writes : direction = .write) {front back : List (Copy Contents)}
    {copy : Copy Contents} (split : next.copies = front ++ copy :: back)
    (recent : progress.copies.length ≤ front.length)
    (last : ∀ later ∈ back, later.entry.page ≠ copy.entry.page) :
    next.mem.contents copy.entry.page = copy.bytes := by
  obtain ⟨new, list, -, leaves, -⟩ := through
  have tail : new = front.drop progress.copies.length ++ copy :: back := by
    have dropped := congrArg (List.drop progress.copies.length)
      (list.symm.trans split)
    rw [List.drop_left, List.drop_append_of_le_length recent] at dropped
    exact dropped
  exact leaves.holds writes tail last

section Loop

variable {direction : Direction} {cmd : HmmDmirrorCmd}

theorem Progress.enter_exact (range : cmd.InRange)
    (ptr : UInt64 → Contents) (pt : XArray) (mem : Memory Contents) :
    (cmd.enter ptr pt mem).Exact direction cmd := by
  refine ⟨⟨rfl, rfl, rfl, Nat.zero_le _, ?_, ?_, ?_⟩, ?_, nofun⟩
  · intro k copy found
    cases found
  · intro copy member
    cases member
  · intro copy member
    cases member
  · intro _
    have stop := range.toNat_stop
    have start : (cmd.enter ptr pt mem).start = cmd.addr := rfl
    have cpages : (cmd.enter ptr pt mem).bounce.cpages.toNat = 0 := rfl
    rw [start, cpages, UInt64.le_iff_toNat_le]
    omega

theorem retryOnce_exact (aligned : PageAligned cmd.addr)
    (range : cmd.InRange) {progress next : Progress Contents}
    {turn : Turn Contents} (exact_ : progress.Exact direction cmd)
    (moved : retryOnce direction cmd progress turn = some next) :
    next.Exact direction cmd ∧ progress.Through direction turn next := by
  unfold retryOnce at moved
  split at moved
  · cases moved
  · next unfinished =>
    have running : progress.result = none := by
      simpa using unfinished
    obtain ⟨position, -⟩ := exact_.retry running
    rw [← exact_.inOrder.count] at position
    obtain ⟨inOrder, through, complete, exits⟩ := doTransfer_inOrder aligned
      range (turn.others progress.pt) (turn.stores progress.mem)
      exact_.inOrder position
    dsimp only at moved
    split at moved
    · unfold refault at moved
      have bound := inOrder.bound
      rw [inOrder.count] at bound
      have start := range.toNat_start bound
      have stop := range.toNat_stop
      dsimp only at moved
      -- The new position is the number of pages copied.
      split at moved
      · cases moved
      · obtain rfl := Option.some.inj moved
        exact ⟨⟨inOrder, nofun, nofun⟩, through⟩
      · obtain rfl := Option.some.inj moved
        refine ⟨⟨inOrder, ?_, ?_⟩, through⟩
        · intro _
          refine ⟨start, ?_⟩
          rw [UInt64.le_iff_toNat_le]
          change (cmd.addr + (_ <<< pageShift)).toNat ≤ _
          omega
        · intro finished
          rw [show progress.result = some none from finished] at running
          cases running
    · next other =>
      obtain rfl := Option.some.inj moved
      rcases exits with done | missing
      · refine ⟨⟨inOrder, nofun, ?_⟩, through⟩
        intro _
        have all := inOrder.count.symm.trans (complete done)
        exact UInt64.toNat_inj.mp all
      · exact absurd missing other

theorem transfer_invariant (aligned : PageAligned cmd.addr)
    (range : cmd.InRange) :
    (transferMachine direction cmd).Invariant Machine.anyInput
      (fun progress : Progress Contents => progress.Exact direction cmd) := by
  constructor
  · rintro progress ⟨ptr, pt, mem, rfl⟩
    exact Progress.enter_exact range ptr pt mem
  · intro progress turn next exact_ _ moved
    exact (retryOnce_exact aligned range exact_ moved).1

end Loop

/-- The pages of a request that have been served are the first ones, as many
as it reports, and all of them when it returns 0. -/
structure Served.Exact (cmd : HmmDmirrorCmd) (served : Served) : Prop where
  pages : served.pages =
    (List.range served.cmd.cpages.toNat).map (pfnOf cmd.addr + ·)
  bound : served.cmd.cpages.toNat ≤ cmd.npages.toNat
  finished : served.ret = none → served.cmd.cpages = cmd.npages

section Served

variable {direction : Direction} {cmd : HmmDmirrorCmd}

theorem Served.refuse_exact (cleared : cmd.cpages = 0) (errno : Errno) :
    (Served.refuse cmd errno).Exact cmd := by
  have zero : cmd.cpages.toNat = 0 := by
    rw [cleared]
    rfl
  refine ⟨?_, ?_, nofun⟩
  · change [] = (List.range cmd.cpages.toNat).map _
    rw [zero]
    rfl
  · change cmd.cpages.toNat ≤ _
    omega

/-- A loop that was left, or never entered, serves what it has copied. -/
theorem Progress.Exact.serve {progress : Progress Contents}
    (exact_ : progress.Exact direction cmd) {ret : Option Errno}
    (result : ret = none → progress.result = some none) (bytes : Nat) :
    (progress.serve cmd ret bytes).Exact cmd := by
  have inOrder := exact_.inOrder
  refine ⟨?_, ?_, ?_⟩
  · change progress.copies.map Copy.pfn =
      (List.range progress.bounce.cpages.toNat).map _
    rw [inOrder.pages, inOrder.count]
  · change progress.bounce.cpages.toNat ≤ _
    rw [← inOrder.count]
    exact inOrder.bound
  · intro finished
    exact exact_.finished (result finished)

theorem leaveLoop_exact (aligned : PageAligned cmd.addr)
    (range : cmd.InRange) {ptr : UInt64 → Contents}
    {env : TransferEnv Contents} {progress : Progress Contents}
    {ret : Option Errno}
    (left : leaveLoop direction cmd ptr env = some (progress, ret)) :
    progress.Exact direction cmd ∧ progress.result = some ret := by
  unfold leaveLoop at left
  split at left
  · cases left
  · next last executed =>
    obtain ⟨result, finished, same⟩ := Option.map_eq_some_iff.mp left
    obtain ⟨rfl, rfl⟩ := Prod.mk.inj same
    refine ⟨?_, finished⟩
    apply (transfer_invariant aligned range).reaches
    exact Machine.reachable_of_exec env.turns ⟨ptr, env.pt, env.mem, rfl⟩
      executed

theorem dmirrorRead_exact (aligned : PageAligned cmd.addr)
    (range : cmd.InRange) (cleared : cmd.cpages = 0)
    {env : TransferEnv Contents} {served : Served}
    (returned : dmirrorRead cmd env = some served) : served.Exact cmd := by
  unfold dmirrorRead at returned
  split at returned
  · obtain rfl := Option.some.inj returned
    exact Served.refuse_exact cleared .einval
  · split at returned
    · obtain rfl := Option.some.inj returned
      exact Served.refuse_exact cleared .enomem
    · obtain ⟨⟨progress, ret⟩, left, same⟩ :=
        Option.map_eq_some_iff.mp returned
      obtain ⟨exact_, result⟩ := leaveLoop_exact aligned range left
      dsimp only at same
      split at same
      · next zero =>
        subst zero
        split at same <;> subst same
        · exact exact_.serve (fun _ => result) _
        · have failed : some Errno.efault = none →
              progress.result = some none := nofun
          exact exact_.serve failed 0
      · subst same
        exact exact_.serve (fun zero => zero ▸ result) _

theorem dmirrorWrite_exact (aligned : PageAligned cmd.addr)
    (range : cmd.InRange) (cleared : cmd.cpages = 0)
    {env : TransferEnv Contents} {served : Served}
    (returned : dmirrorWrite cmd env = some served) : served.Exact cmd := by
  unfold dmirrorWrite at returned
  split at returned
  · obtain rfl := Option.some.inj returned
    exact Served.refuse_exact cleared .einval
  · split at returned
    · obtain rfl := Option.some.inj returned
      exact Served.refuse_exact cleared .enomem
    · split at returned
      · obtain ⟨⟨progress, ret⟩, left, same⟩ :=
          Option.map_eq_some_iff.mp returned
        obtain ⟨exact_, result⟩ := leaveLoop_exact aligned range left
        subst same
        exact exact_.serve (fun zero => zero ▸ result) _
      · next ptr _ _ =>
        obtain rfl := Option.some.inj returned
        have entered : (cmd.enter ptr env.pt env.mem).Exact .write cmd :=
          Progress.enter_exact range ptr env.pt env.mem
        have failed : some Errno.efault = none →
            (cmd.enter ptr env.pt env.mem).result = some none := nofun
        exact entered.serve failed 0

end Served

/-- However the mirror and the memory change between the iterations,
`dmirror_read` and `dmirror_write` copy the pages of the request once and in
order, and what a write copies is then in the pages. -/
theorem transfers_in_order (cmd : HmmDmirrorCmd)
    (aligned : PageAligned cmd.addr) (range : cmd.InRange)
    (cleared : cmd.cpages = 0) :
    (∀ direction (progress : Progress Contents),
      (transferMachine direction cmd).Reachable progress →
      progress.Exact direction cmd ∧
        ∀ turn next, retryOnce direction cmd progress turn = some next →
          progress.Through direction turn next ∧
          (direction = .write → ∀ front copy back,
            next.copies = front ++ copy :: back →
            progress.copies.length ≤ front.length →
            (∀ later ∈ back, later.entry.page ≠ copy.entry.page) →
            next.mem.contents copy.entry.page = copy.bytes)) ∧
    ∀ (env : TransferEnv Contents) served,
      dmirrorRead cmd env = some served ∨
        dmirrorWrite cmd env = some served →
      served.Exact cmd := by
  constructor
  · intro direction progress reached
    have exact_ := (transfer_invariant aligned range).reaches reached
    refine ⟨exact_, ?_⟩
    intro turn next moved
    have through := (retryOnce_exact aligned range exact_ moved).2
    refine ⟨through, ?_⟩
    intro writes front copy back split old last
    exact through.holds writes split old last
  · intro env served returned
    rcases returned with reads | writes
    · exact dmirrorRead_exact aligned range cleared reads
    · exact dmirrorWrite_exact aligned range cleared writes

private def twoPages : HmmDmirrorCmd := ⟨4096, 0, 2, 0, 0⟩

private def quietTurn : Turn Nat where
  others := fun pt => pt
  stores := fun mem => mem
  alive := true
  answers := fun _ =>
    ⟨fun pt => pt, .ok fun pfn => ⟨.normal pfn, true⟩, fun _ => false⟩
  passes := 2

/-- Two pages whose second entry is missing at first. -/
private def refaulted (tag : Tag) : TransferEnv Nat where
  vmalloc := some fun _ => 0
  userCopy := true
  userData := fun offset => if offset = 0 then 11 else 12
  pt := fun pfn => if pfn = 1 then some ⟨.normal 1, tag⟩ else none
  mem := ⟨fun _ => 7, fun _ => .null, ∅⟩
  turns := [quietTurn, quietTurn]

/-- A read and a write of two pages, each with one refault in between. -/
theorem transfers_in_order_refaulted :
    dmirrorRead twoPages (refaulted .none) =
        some ⟨none, ⟨4096, 0, 2, 2, 1⟩, [1, 2], 8192, []⟩ ∧
      (∀ served, dmirrorRead twoPages (refaulted .none) = some served →
        served.Exact twoPages) ∧
      ∃ middle last,
        (transferMachine .write twoPages).Reachable middle ∧
        retryOnce .write twoPages middle quietTurn = some last ∧
        middle.Exact .write twoPages ∧ middle.Through .write quietTurn last ∧
        middle.bounce.cpages = 1 ∧ last.result = some none ∧
        last.mem.contents (.normal 1) = 11 ∧
        last.mem.contents (.normal 2) = 12 := by
  have exact_ := @transfers_in_order Nat twoPages (by decide) (by decide) rfl
  refine ⟨by decide +kernel, fun served returned =>
    exact_.2 (refaulted .none) served (.inl returned), ?_⟩
  obtain ⟨middle, reached, shape⟩ :=
    (transferMachine .write twoPages).reachable_of_test [quietTurn]
      (fun middle => middle.bounce.cpages == 1 &&
        (retryOnce .write twoPages middle quietTurn).any fun last =>
          last.result == some none &&
            (last.mem.contents (.normal 1) == 11 &&
              last.mem.contents (.normal 2) == 12))
      ⟨(refaulted .write).userData, (refaulted .write).pt,
        (refaulted .write).mem, rfl⟩ (by decide +kernel)
  simp only [Bool.and_eq_true, Option.any_eq_true, beq_iff_eq] at shape
  obtain ⟨one, last, moved, ended, first, second⟩ := shape
  obtain ⟨position, through⟩ := exact_.1 .write middle reached
  exact ⟨middle, last, reached, moved, position, (through _ _ moved).1, one,
    ended, first, second⟩

end Rshm.Hmm
