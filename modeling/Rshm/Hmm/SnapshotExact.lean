import Rshm.Hmm.SweepTiles

/-!
# What SNAPSHOT stores

Each window of the loop adds the bytes of its pages where the last one
stopped.  The number of windows handed so far says where the loop stands, so
the answer a byte comes from can be named by the page.
-/

namespace Rshm.Hmm

open RangeLoop AddressLoop

/-- A pass of the loop of `dmirror_snapshot` in which no call fails. -/
structure SnapshotAnswer.Succeeds (answer : SnapshotAnswer) : Prop where
  insert : answer.insert = none
  reported : ∃ hmmPfns, answer.reported = .ok hmmPfns
  userCopy : answer.userCopy = true

/-- The state after the window from `addr` to `next` has been copied out. -/
def SnapshotState.store (mdevice : Nat) (hmmPfns : Nat → SnapshotPfn)
    (addr next : UInt64) (state : SnapshotState) : SnapshotState :=
  let n := (next - addr) >>> pageShift
  { handed := state.handed ++ [⟨addr, next⟩]
    pages := state.pages ++ (List.range n.toNat).map (pfnOf addr + ·)
    cpages := state.cpages + n
    uptr := state.uptr + n
    user := storeBytes (fun pfn => dmirrorMkentry mdevice (hmmPfns pfn))
      (pfnOf addr) state.uptr n state.user }

/-- A pass stores the bytes of its window, or leaves the loop and has stored
nothing. -/
theorem dmirrorSnapshotOne_cases (mdevice : Nat)
    (answers : Nat → SnapshotAnswer) (stop addr : UInt64)
    (state : SnapshotState) :
    let answer := answers state.handed.length
    let next := windowEnd addr stop
    (¬answer.Succeeds ∧ ∃ errno,
      dmirrorSnapshotOne mdevice answers stop addr state =
        ({ state with handed := state.handed ++ [⟨addr, next⟩] },
          .error errno)) ∨
    ∃ hmmPfns, answer.reported = .ok hmmPfns ∧
      dmirrorSnapshotOne mdevice answers stop addr state =
        (state.store mdevice hmmPfns addr next, .ok next) := by
  intro answer next
  unfold dmirrorSnapshotOne dmirrorRangeSnapshot
  dsimp only
  cases insert : (answers state.handed.length).insert with
  | some errno =>
      refine .inl ⟨?_, errno, rfl⟩
      intro succeeds
      have free := succeeds.insert
      rw [insert] at free
      cases free
  | none =>
      cases reported : (answers state.handed.length).reported with
      | error errno =>
          refine .inl ⟨?_, errno, rfl⟩
          intro succeeds
          obtain ⟨hmmPfns, ok⟩ := succeeds.reported
          rw [reported] at ok
          cases ok
      | ok hmmPfns =>
          cases copied : (answers state.handed.length).userCopy with
          | false =>
              refine .inl ⟨?_, .efault, rfl⟩
              intro succeeds
              have copies := succeeds.userCopy
              rw [copied] at copies
              cases copies
          | true => exact .inr ⟨hmmPfns, rfl, rfl⟩

theorem dmirrorSnapshotOne_hands (mdevice : Nat)
    (answers : Nat → SnapshotAnswer) (stop : UInt64) :
    HandsWindows stop SnapshotState.handed
      (dmirrorSnapshotOne mdevice answers stop) := by
  intro addr state
  rcases dmirrorSnapshotOne_cases mdevice answers stop addr state with
    ⟨-, errno, refused⟩ | ⟨hmmPfns, -, stored⟩
  · rw [refused]
    exact ⟨rfl, nofun⟩
  · rw [stored]
    refine ⟨rfl, ?_⟩
    intro next choice
    exact (Except.ok.inj choice).symm

theorem snapshot_sweeps {start stop : UInt64} (fits : Fits start stop)
    (first : start.toNat % 4096 = 0) (last : stop.toNat % 4096 = 0)
    (order : start.toNat ≤ stop.toNat) (mdevice : Nat)
    (answers : Nat → SnapshotAnswer) (passes : Nat) (state : SnapshotState)
    (empty : state.handed = []) :
    let loop := forAddress (dmirrorSnapshotOne mdevice answers stop) stop
      passes start state
    Sweeps start stop passes (∀ k, (answers k).Succeeds) loop.1.handed
      loop.2 := by
  apply sweeps_of_fits fits first last order _ SnapshotState.handed
    (dmirrorSnapshotOne mdevice answers stop)
    (dmirrorSnapshotOne_hands mdevice answers stop)
  · intro addr state errno _ _ _ succeeds failed
    rcases dmirrorSnapshotOne_cases mdevice answers stop addr state with
      ⟨fails, -⟩ | ⟨hmmPfns, -, stored⟩
    · exact fails (succeeds _)
    · rw [stored] at failed
      cases failed
  · exact empty

/-- The bytes of the first `count` pages, and no others, stand behind one
another from `cmd.ptr` on.  The byte of a page is made from the answer to its
window. -/
structure Snapshotted (mdevice : Nat) (cmd : HmmDmirrorCmd)
    (answers : Nat → SnapshotAnswer) (count : Nat) (state : SnapshotState) :
    Prop where
  pages : state.pages = (List.range count).map (pfnOf cmd.addr + ·)
  cpages : state.cpages = cmd.cpages + UInt64.ofNat count
  uptr : state.uptr = cmd.ptr + UInt64.ofNat count
  bytes : ∀ k < count, ∃ hmmPfns,
    (answers (k / 64)).reported = .ok hmmPfns ∧
    state.user (cmd.ptr + UInt64.ofNat k) =
      some (dmirrorMkentry mdevice (hmmPfns (pfnOf cmd.addr + k)))
  only : ∀ place, state.user place ≠ none →
    ∃ k < count, place = cmd.ptr + UInt64.ofNat k

theorem toNat_distance (ptr : UInt64) {k count : Nat} (low : k < 2 ^ 63)
    (high : count < 2 ^ 63) :
    (ptr + UInt64.ofNat k - (ptr + UInt64.ofNat count)).toNat =
      if count ≤ k then k - count else 2 ^ 64 - (count - k) := by
  have bound : ptr.toNat < 2 ^ 64 := ptr.toNat_lt
  rw [UInt64.toNat_sub, UInt64.toNat_add, UInt64.toNat_add,
    UInt64.toNat_ofNat', UInt64.toNat_ofNat']
  split <;> omega

/-- A window of `more` pages behind the first `count`. -/
theorem Snapshotted.store {mdevice : Nat} {cmd : HmmDmirrorCmd}
    {answers : Nat → SnapshotAnswer} {count more : Nat}
    {state : SnapshotState}
    (stored : Snapshotted mdevice cmd answers count state)
    {hmmPfns : Nat → SnapshotPfn} {addr next : UInt64}
    (window : ((next - addr) >>> pageShift) = UInt64.ofNat more)
    (position : pfnOf addr = pfnOf cmd.addr + count)
    (bound : count + more < 2 ^ 63)
    (reported : ∀ k, count ≤ k → k < count + more →
      (answers (k / 64)).reported = .ok hmmPfns) :
    Snapshotted mdevice cmd answers (count + more)
      (state.store mdevice hmmPfns addr next) := by
  have size : (UInt64.ofNat more).toNat = more := by
    rw [UInt64.toNat_ofNat']
    omega
  have sum : UInt64.ofNat (count + more) =
      UInt64.ofNat count + UInt64.ofNat more := by
    apply UInt64.toNat_inj.mp
    rw [UInt64.toNat_add, UInt64.toNat_ofNat', UInt64.toNat_ofNat',
      UInt64.toNat_ofNat']
    omega
  have place_ : ∀ k, k < 2 ^ 63 →
      (state.store mdevice hmmPfns addr next).user
          (cmd.ptr + UInt64.ofNat k) =
        if count ≤ k ∧ k < count + more then
          some (dmirrorMkentry mdevice (hmmPfns (pfnOf cmd.addr + k)))
        else state.user (cmd.ptr + UInt64.ofNat k) := by
    intro k small
    have distance := toNat_distance cmd.ptr small
      (show count < 2 ^ 63 by omega)
    unfold SnapshotState.store storeBytes
    dsimp only
    rw [window, stored.uptr, distance, size, position]
    by_cases later : count ≤ k
    · have same : pfnOf cmd.addr + count + (k - count) =
          pfnOf cmd.addr + k := by omega
      rw [if_pos later, same]
      by_cases inside : k < count + more
      · rw [if_pos (by omega), if_pos ⟨later, inside⟩]
      · rw [if_neg (by omega), if_neg (by omega)]
    · rw [if_neg later, if_neg (by omega), if_neg (by omega)]
  constructor
  · unfold SnapshotState.store
    dsimp only
    rw [window, size, stored.pages, position, List.range_add,
      List.map_append, List.map_map]
    simp only [Function.comp_def, Nat.add_assoc]
  · unfold SnapshotState.store
    dsimp only
    rw [window, stored.cpages, sum, UInt64.add_assoc]
  · unfold SnapshotState.store
    dsimp only
    rw [window, stored.uptr, sum, UInt64.add_assoc]
  · intro k inside
    rw [place_ k (by omega)]
    by_cases earlier : k < count
    · rw [if_neg (by omega)]
      exact stored.bytes k earlier
    · rw [if_pos (by omega)]
      exact ⟨hmmPfns, reported k (by omega) inside, rfl⟩
  · intro place written
    unfold SnapshotState.store storeBytes at written
    dsimp only at written
    rw [window, stored.uptr, size] at written
    split at written
    · next inside =>
      refine ⟨count + (place - (cmd.ptr + UInt64.ofNat count)).toNat,
        by omega, ?_⟩
      apply UInt64.toNat_inj.mp
      have bound := cmd.ptr.toNat_lt
      have bound' := place.toNat_lt
      rw [UInt64.toNat_sub, UInt64.toNat_add, UInt64.toNat_ofNat'] at inside ⊢
      rw [UInt64.toNat_add, UInt64.toNat_ofNat']
      omega
    · obtain ⟨k, inside, same⟩ := stored.only place written
      exact ⟨k, by omega, same⟩

/-- Where the loop stands after so many windows of a range that fits. -/
def Reached (start stop : UInt64) (windows : Nat) (addr : UInt64) : Prop :=
  addr.toNat = min (start.toNat + 262144 * windows) stop.toNat

theorem Reached.next {start stop addr : UInt64} {windows : Nat}
    (reached : Reached start stop windows addr) (fits : Fits start stop)
    (inside : addr.toNat < stop.toNat) :
    Reached start stop (windows + 1) (windowEnd addr stop) ∧
      addr.toNat = start.toNat + 262144 * windows ∧
      (windowEnd addr stop).toNat = min (addr.toNat + 262144) stop.toNat := by
  unfold Reached at reached ⊢
  have inStep : InStep start stop addr := by
    unfold InStep
    omega
  obtain ⟨value, -⟩ := windowEnd_of_fits fits inStep inside
  omega

section Loop

variable {mdevice : Nat} {cmd : HmmDmirrorCmd}
  {answers : Nat → SnapshotAnswer}

/-- Where the loop of `dmirror_snapshot` stands, and what it has stored. -/
def SnapshotAt (mdevice : Nat) (cmd : HmmDmirrorCmd)
    (answers : Nat → SnapshotAnswer) (addr : UInt64) (state : SnapshotState) :
    Prop :=
  Reached cmd.addr cmd.stop state.handed.length addr ∧
    Snapshotted mdevice cmd answers ((addr.toNat - cmd.addr.toNat) / 4096)
      state

theorem dmirrorSnapshotOne_stores (fits : Fits cmd.addr cmd.stop)
    (first : cmd.addr.toNat % 4096 = 0) (last : cmd.stop.toNat % 4096 = 0)
    {addr next : UInt64} {state after : SnapshotState}
    (inside : addr < cmd.stop)
    (at_ : SnapshotAt mdevice cmd answers addr state)
    (pass : dmirrorSnapshotOne mdevice answers cmd.stop addr state =
      (after, .ok next)) :
    SnapshotAt mdevice cmd answers next after := by
  rw [UInt64.lt_iff_toNat_lt] at inside
  obtain ⟨reached, stored⟩ := at_
  obtain ⟨further, here, value⟩ := reached.next fits inside
  have below : cmd.stop.toNat < 2 ^ 64 := cmd.stop.toNat_lt
  rcases dmirrorSnapshotOne_cases mdevice answers cmd.stop addr state with
    ⟨-, errno, refused⟩ | ⟨hmmPfns, reported, worked⟩
  · rw [refused] at pass
    cases (Prod.mk.inj pass).2
  · rw [worked] at pass
    obtain ⟨done, choice⟩ := Prod.mk.inj pass
    rw [← done, ← Except.ok.inj choice]
    constructor
    · unfold SnapshotState.store
      dsimp only
      rw [List.length_append]
      exact further
    · let more := ((windowEnd addr cmd.stop).toNat - addr.toNat) / 4096
      have total : ((windowEnd addr cmd.stop).toNat - cmd.addr.toNat) / 4096 =
          (addr.toNat - cmd.addr.toNat) / 4096 + more := by omega
      rw [total]
      apply stored.store
      · apply UInt64.toNat_inj.mp
        have shifted := pfnOf_eq (windowEnd addr cmd.stop - addr)
        unfold pfnOf at shifted
        rw [shifted, UInt64.toNat_sub, UInt64.toNat_ofNat']
        omega
      · rw [pfnOf_eq, pfnOf_eq]
        omega
      · omega
      · intro k lower upper
        have same : k / 64 = state.handed.length := by omega
        rw [same]
        exact reported

/-- The loop of `dmirror_snapshot` stores the bytes of the first pages of the
request, of all of them when it ends. -/
theorem snapshotLoop_stores (fits : Fits cmd.addr cmd.stop)
    (first : cmd.addr.toNat % 4096 = 0) (last : cmd.stop.toNat % 4096 = 0)
    (order : cmd.addr.toNat ≤ cmd.stop.toNat)
    (env : SweepEnv SnapshotAnswer) :
    ∃ count, Snapshotted mdevice cmd env.answers count
        (snapshotLoop mdevice cmd env).1 ∧
      ((snapshotLoop mdevice cmd env).2 = .ended →
        count = (cmd.stop.toNat - cmd.addr.toNat) / 4096) := by
  have start : SnapshotAt mdevice cmd env.answers cmd.addr
      ⟨[], [], cmd.cpages, cmd.ptr, fun _ => none⟩ := by
    constructor
    · unfold Reached
      dsimp only [List.length_nil]
      omega
    · rw [Nat.sub_self]
      constructor
      · rfl
      · exact (UInt64.add_zero _).symm
      · exact (UInt64.add_zero _).symm
      · intro k inside
        omega
      · intro place written
        exact absurd rfl written
  have concluded := forAddress_induction cmd.stop
    (SnapshotAt mdevice cmd env.answers)
    (fun _ after => ∃ count, Snapshotted mdevice cmd env.answers count after)
    (dmirrorSnapshotOne mdevice env.answers cmd.stop)
    (fun addr state after next inside at_ pass =>
      dmirrorSnapshotOne_stores fits first last inside at_ pass)
    (by
      intro addr state after errno inside at_ pass
      rcases dmirrorSnapshotOne_cases mdevice env.answers cmd.stop addr state
        with ⟨-, errno', refused⟩ | ⟨hmmPfns, -, worked⟩
      · rw [refused] at pass
        rw [← (Prod.mk.inj pass).1]
        obtain ⟨-, stored⟩ := at_
        exact ⟨_, stored.pages, stored.cpages, stored.uptr, stored.bytes,
          stored.only⟩
      · rw [worked] at pass
        cases (Prod.mk.inj pass).2)
    env.passes cmd.addr _ start
  unfold snapshotLoop
  cases outcome : (forAddress (dmirrorSnapshotOne mdevice env.answers cmd.stop)
      cmd.stop env.passes cmd.addr
      ⟨[], [], cmd.cpages, cmd.ptr, fun _ => none⟩).2 with
  | running =>
      obtain ⟨addr, -, -, stored⟩ := concluded.running outcome
      exact ⟨_, stored, nofun⟩
  | ended =>
      obtain ⟨addr, beyond, reached, stored⟩ := concluded.ended outcome
      refine ⟨_, stored, fun _ => ?_⟩
      rw [UInt64.lt_iff_toNat_lt] at beyond
      unfold Reached at reached
      omega
  | left errno =>
      obtain ⟨count, stored⟩ := concluded.left outcome
      exact ⟨count, stored, nofun⟩

end Loop

end Rshm.Hmm
