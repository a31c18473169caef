import Rshm.Hmm.Ioctl

/-!
# When success means the whole request

A request whose size is below 2^64 bytes is served whole whenever a command
returns 0; a longer one that the guard admits is cut down to the size modulo
2^64.
-/

namespace Rshm.Hmm

open RangeLoop AddressLoop

variable {Contents : Type} {cmd : HmmDmirrorCmd}

/-- What a command that returns 0 has moved. -/
structure Served.Moved (cmd : HmmDmirrorCmd) (served : Served)
    (bytes : Nat) : Prop where
  cpages : served.cmd.cpages = cmd.npages
  pages : served.pages =
    (List.range cmd.npages.toNat).map (pfnOf cmd.addr + ·)
  bytes : served.bytes = bytes

theorem Served.Exact.moved {served : Served} (exact_ : served.Exact cmd)
    (zero : served.ret = none) : served.Moved cmd served.bytes := by
  have cpages := exact_.finished zero
  refine ⟨cpages, ?_, rfl⟩
  rw [exact_.pages, cpages]

section Moved

variable (aligned : PageAligned cmd.addr) (range : cmd.InRange)

include aligned range

theorem dmirrorRead_moved (cleared : cmd.cpages = 0)
    {env : TransferEnv Contents} {served : Served}
    (returned : dmirrorRead cmd env = some served)
    (zero : served.ret = none) :
    served.Moved cmd (cmd.npages.toNat * 4096) := by
  have moved := (dmirrorRead_exact aligned range cleared returned).moved zero
  suffices bytes : served.bytes = cmd.npages.toNat * 4096 by
    rw [bytes] at moved
    exact moved
  unfold dmirrorRead at returned
  split at returned
  · obtain rfl := Option.some.inj returned
    cases zero
  · split at returned
    · obtain rfl := Option.some.inj returned
      cases zero
    · obtain ⟨⟨progress, ret⟩, left, same⟩ :=
        Option.map_eq_some_iff.mp returned
      obtain ⟨exact_, -⟩ := leaveLoop_exact aligned range left
      dsimp only at same
      split at same
      · split at same <;> subst same
        · change progress.bounce.size.toNat = _
          rw [exact_.inOrder.size, range.toNat_size]
        · cases zero
      · next failed =>
        subst same
        exact absurd zero failed

theorem dmirrorWrite_moved (cleared : cmd.cpages = 0)
    {env : TransferEnv Contents} {served : Served}
    (returned : dmirrorWrite cmd env = some served)
    (zero : served.ret = none) :
    served.Moved cmd (cmd.npages.toNat * 4096) := by
  have moved := (dmirrorWrite_exact aligned range cleared returned).moved zero
  suffices bytes : served.bytes = cmd.npages.toNat * 4096 by
    rw [bytes] at moved
    exact moved
  unfold dmirrorWrite at returned
  split at returned
  · obtain rfl := Option.some.inj returned
    cases zero
  · split at returned
    · obtain rfl := Option.some.inj returned
      cases zero
    · split at returned
      · obtain ⟨⟨progress, ret⟩, left, same⟩ :=
          Option.map_eq_some_iff.mp returned
        obtain ⟨exact_, -⟩ := leaveLoop_exact aligned range left
        subst same
        change progress.bounce.size.toNat = _
        rw [exact_.inOrder.size, range.toNat_size]
      · obtain rfl := Option.some.inj returned
        cases zero

theorem write_invariant (userData : UInt64 → Contents) (pt : XArray)
    (mem : Memory Contents) {turns : List (Turn Contents)}
    {last : Progress Contents}
    (executed : (transferMachine .write cmd).exec (cmd.enter userData pt mem)
      turns = some last) :
    last.Exact .write cmd ∧ last.bounce.ptr = userData := by
  apply (Machine.run_of_exec executed).preserves
    (fun progress => progress.Exact .write cmd ∧
      progress.bounce.ptr = userData)
  · rintro progress turn next ⟨exact_, kept⟩ - moved
    obtain ⟨after, _, -, -, -, same⟩ :=
      retryOnce_exact aligned range exact_ moved
    exact ⟨after, (same rfl).trans kept⟩
  · exact ⟨Progress.enter_exact range userData pt mem, rfl⟩

theorem dmirrorWrite_stores {env : TransferEnv Contents} {served : Served}
    (returned : dmirrorWrite cmd env = some served)
    (zero : served.ret = none) : StoresPages cmd env := by
  obtain ⟨last, executed, result⟩ : ∃ last,
      (transferMachine .write cmd).exec
        (cmd.enter env.userData env.pt env.mem) env.turns = some last ∧
      last.result = some none := by
    unfold dmirrorWrite at returned
    split at returned
    · obtain rfl := Option.some.inj returned
      cases zero
    split at returned
    · obtain rfl := Option.some.inj returned
      cases zero
    split at returned
    · obtain ⟨⟨last, ret⟩, left, same⟩ := Option.map_eq_some_iff.mp returned
      subst same
      have zero : ret = none := zero
      subst zero
      unfold leaveLoop at left
      split at left
      · cases left
      · next progress executed =>
        obtain ⟨result, finished, same⟩ := Option.map_eq_some_iff.mp left
        obtain ⟨rfl, rfl⟩ := Prod.mk.inj same
        exact ⟨progress, executed, finished⟩
    · obtain rfl := Option.some.inj returned
      cases zero
  have ended := (write_invariant aligned range _ _ _ executed).1
  intro k inside
  obtain ⟨front, turn, back, before, next, list, ran, moved, below, above⟩ :=
    Machine.exec_crosses (fun progress => progress.copies.length) executed
      (Nat.zero_le k) (by
        rw [ended.inOrder.count, ended.finished result]
        exact inside)
  obtain ⟨exact_, kept⟩ := write_invariant aligned range _ _ _ ran
  obtain ⟨after, through⟩ := retryOnce_exact aligned range exact_ moved
  obtain ⟨new, grown, entries, -, same⟩ := id through
  -- The entry of a page that this iteration has copied.
  have entry : ∀ place (bound : place < next.copies.length),
      before.copies.length ≤ place →
      turn.others before.pt (pfnOf cmd.addr + place) =
        some next.copies[place].entry := by
    intro place bound recent
    have member : next.copies[place] ∈ new := by
      simp only [grown, List.getElem_append_right recent]
      exact List.getElem_mem _
    rw [← (after.inOrder.place place next.copies[place]
      (List.getElem?_eq_getElem bound)).1]
    exact (entries _ member).1
  have accepted := after.inOrder.accepted next.copies[k]
    (List.getElem_mem above)
  refine ⟨front, turn, back, before, next, next.copies[k].entry, list, ran,
    moved, entry k above below, ?_, ?_⟩
  · exact of_decide_eq_true accepted
  · intro others
    have split : next.copies =
        next.copies.take k ++ next.copies[k] :: next.copies.drop (k + 1) := by
      simp
    rw [through.holds rfl split (by simp; omega) ?_]
    · have offset := (after.inOrder.place k next.copies[k]
        (List.getElem?_eq_getElem above)).2.1
      have stored := after.inOrder.bytes next.copies[k]
        (List.getElem_mem above)
      rw [same rfl, kept] at stored
      rw [← stored, ← offset, UInt64.ofNat_toNat]
    · intro later member
      obtain ⟨place, bound, rfl⟩ := List.getElem_of_mem member
      rw [List.getElem_drop]
      rw [List.length_drop] at bound
      have short := after.inOrder.bound
      exact others (k + 1 + place) _ (by omega) (by omega)
        (entry (k + 1 + place) (by omega) (by omega))

theorem readBack_moved {env : ReadBackEnv Contents} {pt : XArray}
    {windows : List Window} (zero : (readBack cmd env pt windows).ret = none) :
    (readBack cmd env pt windows).Moved cmd (cmd.npages.toNat * 4096) ∧
      (readBack cmd env pt windows).windows = windows := by
  unfold readBack at zero ⊢
  split at zero
  · cases zero
  · next ptr _ =>
    have entered : InOrder .read cmd ([] : List (Copy Contents))
        (dmirrorBounceInit cmd.addr cmd.size ptr) :=
      (Progress.enter_exact range ptr pt env.mem).inOrder
    have position : cmd.addr.toNat =
        cmd.addr.toNat + ([] : List (Copy Contents)).length * 4096 := by
      rw [List.length_nil, Nat.zero_mul, Nat.add_zero]
    obtain ⟨inOrder, -, complete, -⟩ := doTransfer_inOrder aligned range
      (env.others pt) env.mem entered position
    dsimp only at zero ⊢
    generalize doTransfer .read (env.others pt) cmd.addr cmd.stop
      (dmirrorBounceInit cmd.addr cmd.size ptr) env.mem [] = after
      at zero inOrder complete ⊢
    cases ended : after.2 with
    | some errno =>
        rw [ended] at zero
        cases zero
    | none =>
        have whole := complete ended
        have count : after.1.bounce.cpages = cmd.npages := by
          apply UInt64.toNat_inj.mp
          rw [← inOrder.count, whole]
        have pages := inOrder.pages
        rw [whole] at pages
        have size := inOrder.size
        rw [ended] at zero
        dsimp only at zero ⊢
        split at zero
        · next copied =>
          rw [if_pos copied]
          refine ⟨⟨count, pages, ?_⟩, rfl⟩
          dsimp only
          rw [size, range.toNat_size]
        · cases zero

end Moved

theorem HmmDmirrorCmd.InRange.stop_aligned (range : cmd.InRange)
    (aligned : PageAligned cmd.addr) : cmd.stop.toNat % 4096 = 0 := by
  have first := (pageAligned_iff cmd.addr).mp aligned
  rw [range.toNat_stop]
  omega

section Sweeping

variable (aligned : PageAligned cmd.addr) (range : cmd.InRange)
  (some_ : cmd.addr.toNat < cmd.stop.toNat)

include aligned range some_

theorem dmirrorExclusive_moved {env : SweepEnv ExclusiveAnswer}
    {back : ReadBackEnv Contents} {pt : XArray} {served : Served}
    (returned : dmirrorExclusive cmd env back pt = some served)
    (zero : served.ret = none) :
    served.Moved cmd (cmd.npages.toNat * 4096) ∧
      Tiling cmd.addr cmd.stop served.windows cmd.stop := by
  have first := (pageAligned_iff cmd.addr).mp aligned
  have last := range.stop_aligned aligned
  have order := Nat.le_of_lt some_
  unfold dmirrorExclusive at returned
  split at returned
  · obtain rfl := Option.some.inj returned
    cases zero
  · split at returned
    · obtain rfl := Option.some.inj returned
      cases zero
    · split at returned
      · cases returned
      · obtain rfl := Option.some.inj returned
        cases zero
      · next state outcome =>
        obtain rfl := Option.some.inj returned
        have hands := dmirrorExclusiveOne_hands env.answers cmd.stop
        have fits : Fits cmd.addr cmd.stop :=
          hands.fits_of_ended (UInt64.lt_iff_toNat_lt.mpr some_)
            (by rw [outcome])
        have sweeps := dmirrorExclusive_sweeps fits first last order
          env.answers env.passes pt
        rw [outcome] at sweeps
        obtain ⟨moved, windows⟩ := readBack_moved aligned range zero
        rw [windows]
        exact ⟨moved, sweeps.whole rfl⟩

theorem dmirrorMigrateToDevice_moved [Zero Contents] {mdevice dmirror : Nat}
    {env : SweepEnv MigrateAnswer} {back : ReadBackEnv Contents}
    {cpu : Nat → Pte} {mem : Memory Contents} {pt : XArray} {served : Served}
    (returned : dmirrorMigrateToDevice mdevice dmirror cmd env back cpu mem
      pt = some served)
    (zero : served.ret = none) :
    served.Moved cmd (cmd.npages.toNat * 4096) ∧
      Tiling cmd.addr cmd.stop served.windows cmd.stop := by
  have first := (pageAligned_iff cmd.addr).mp aligned
  have last := range.stop_aligned aligned
  have order := Nat.le_of_lt some_
  unfold dmirrorMigrateToDevice at returned
  split at returned
  · obtain rfl := Option.some.inj returned
    cases zero
  · split at returned
    · obtain rfl := Option.some.inj returned
      cases zero
    · split at returned
      · cases returned
      · obtain rfl := Option.some.inj returned
        cases zero
      · next state outcome =>
        obtain rfl := Option.some.inj returned
        have sweeps := migrateLoop_sweeps
          (migrateWindowToDevice mdevice dmirror) (fun _ _ _ _ => rfl) first
          last order env.answers env.passes ⟨cpu, mem, pt, cmd.cpages, []⟩ rfl
        unfold migrateLoop at outcome
        rw [outcome] at sweeps
        obtain ⟨moved, windows⟩ := readBack_moved aligned range zero
        rw [windows]
        exact ⟨moved, sweeps.whole rfl⟩

theorem dmirrorSnapshot_moved {mdevice : Nat} (cleared : cmd.cpages = 0)
    {env : SweepEnv SnapshotAnswer} {served : Served}
    (returned : dmirrorSnapshot mdevice cmd env = some served)
    (zero : served.ret = none) :
    served.Moved cmd cmd.npages.toNat ∧
      Tiling cmd.addr cmd.stop served.windows cmd.stop := by
  have first := (pageAligned_iff cmd.addr).mp aligned
  have last := range.stop_aligned aligned
  have order := Nat.le_of_lt some_
  unfold dmirrorSnapshot at returned
  split at returned
  · obtain rfl := Option.some.inj returned
    cases zero
  · split at returned
    · obtain rfl := Option.some.inj returned
      cases zero
    · dsimp only at returned
      split at returned
      · cases returned
      · obtain rfl := Option.some.inj returned
        cases zero
      · next outcome =>
        obtain rfl := Option.some.inj returned
        have hands := dmirrorSnapshotOne_hands mdevice env.answers cmd.stop
        have fits : Fits cmd.addr cmd.stop :=
          hands.fits_of_ended (UInt64.lt_iff_toNat_lt.mpr some_) outcome
        have sweeps := snapshot_sweeps fits first last order mdevice
          env.answers env.passes
          ⟨[], [], cmd.cpages, cmd.ptr, fun _ => none⟩ rfl
        obtain ⟨count, stored, complete⟩ :
            ∃ count, Snapshotted mdevice cmd env.answers count
                (snapshotLoop mdevice cmd env).1 ∧
              ((snapshotLoop mdevice cmd env).2 = .ended → count = _) :=
          snapshotLoop_stores fits first last order env
        have whole : count = cmd.npages.toNat := by
          rw [complete outcome, range.toNat_stop]
          omega
        rw [whole] at stored
        refine ⟨⟨?_, stored.pages, ?_⟩, sweeps.whole outcome⟩
        · apply UInt64.toNat_inj.mp
          dsimp only
          rw [stored.cpages, cleared, UInt64.zero_add,
            UInt64.ofNat_toNat]
        · dsimp only
          rw [stored.pages, List.length_map, List.length_range]

end Sweeping

/-- The command that the ioctl hands to its `switch`. -/
def HmmDmirrorCmd.cleared (uarg : HmmDmirrorCmd) : HmmDmirrorCmd :=
  { uarg with cpages := 0, faults := 0 }

section Ioctl

variable [Zero Contents] {command : Command} {uarg : HmmDmirrorCmd}
  {env : IoctlEnv Contents} {reply : Reply}

/-- An ioctl that returns 0 has passed its guard, and its command has
returned 0. -/
theorem ioctl_success
    (returned : dmirrorFopsUnlockedIoctl command uarg env = some reply)
    (zero : reply.ret = none) :
    uarg.Admitted ∧ dispatch command uarg.cleared env = some reply.served ∧
      reply.served.ret = none ∧ reply.uarg = some reply.served.cmd := by
  unfold dmirrorFopsUnlockedIoctl at returned
  dsimp only at returned
  split at returned
  · obtain rfl := Option.some.inj returned
    cases zero
  split at returned
  · obtain rfl := Option.some.inj returned
    cases zero
  split at returned
  · obtain rfl := Option.some.inj returned
    cases zero
  split at returned
  · obtain rfl := Option.some.inj returned
    cases zero
  next aligned order =>
  split at returned
  · cases returned
  next served dispatched =>
  split at returned
  · obtain rfl := Option.some.inj returned
    cases zero
  next ended =>
  split at returned
  · obtain rfl := Option.some.inj returned
    refine ⟨⟨not_not.mp aligned, ?_⟩, dispatched, ended, rfl⟩
    exact UInt64.not_le.mp order
  · obtain rfl := Option.some.inj returned
    cases zero

theorem dispatch_whole (admitted : uarg.Admitted) (range : uarg.InRange)
    {served : Served} (moves : command.moves = true)
    (returned : dispatch command uarg.cleared env = some served)
    (zero : served.ret = none) : served.Whole command uarg := by
  have aligned : PageAligned uarg.cleared.addr := admitted.1
  have inside : uarg.cleared.InRange := range
  have some_ : uarg.cleared.addr.toNat < uarg.cleared.stop.toNat :=
    UInt64.lt_iff_toNat_lt.mp admitted.2
  cases command with
  | read =>
      have moved := dmirrorRead_moved aligned inside rfl returned zero
      exact ⟨moved.cpages, moved.pages, moved.bytes, nofun, range⟩
  | write =>
      have moved := dmirrorWrite_moved aligned inside rfl returned zero
      exact ⟨moved.cpages, moved.pages, moved.bytes, nofun, range⟩
  | migrateToDev =>
      obtain ⟨moved, tiling⟩ :=
        dmirrorMigrateToDevice_moved aligned inside some_ returned zero
      exact ⟨moved.cpages, moved.pages, moved.bytes, fun _ => tiling, range⟩
  | exclusive =>
      obtain ⟨moved, tiling⟩ :=
        dmirrorExclusive_moved aligned inside some_ returned zero
      exact ⟨moved.cpages, moved.pages, moved.bytes, fun _ => tiling, range⟩
  | snapshot =>
      obtain ⟨moved, tiling⟩ :=
        dmirrorSnapshot_moved aligned inside some_ rfl returned zero
      refine ⟨moved.cpages, moved.pages, ?_, fun _ => tiling, range⟩
      rw [moved.bytes]
      exact (Nat.mul_one _).symm
  | migrateToSys => cases moves
  | checkExclusive => cases moves
  | release => cases moves
  | other => cases moves

theorem successIsWhole_of (small : uarg.Admitted → uarg.npages.toNat < 2 ^ 52) :
    SuccessIsWhole Contents uarg := by
  intro command env reply moves returned zero
  obtain ⟨admitted, dispatched, ended, copied⟩ := ioctl_success returned zero
  have range := admitted.inRange (small admitted)
  refine ⟨dispatch_whole admitted range moves dispatched ended, copied, ?_⟩
  rintro rfl
  have aligned : PageAligned uarg.cleared.addr := admitted.1
  have inside : uarg.cleared.InRange := range
  exact dmirrorWrite_stores aligned inside dispatched ended

omit [Zero Contents] in
theorem doTransfer_size (direction : Direction) (pt : XArray)
    (start stop : UInt64) (bounce : Bounce Contents) (mem : Memory Contents)
    (copies : List (Copy Contents)) :
    (doTransfer direction pt start stop bounce mem copies).1.bounce.size =
      bounce.size := by
  obtain ⟨done, -, kept⟩ := forRange_induction
    (fun _ (state : Section Contents) => state.bounce.size = bounce.size)
    (doPage direction pt) (pfnOf stop - pfnOf start) (pfnOf start)
    ⟨(start - bounce.addr) &&& pageMask, bounce, mem, copies⟩ rfl (by
      intro pfn state _ _ held
      have same : (doPage direction pt pfn state).1.bounce.size =
          state.bounce.size := by
        unfold doPage
        split
        · rfl
        · split <;> rfl
      exact ⟨fun _ => same.trans held, fun _ => same.trans held⟩)
  exact kept

/-- A process all of whose pages are mapped. -/
def mappedEnv (Contents : Type) [Zero Contents] : TransferEnv Contents where
  vmalloc := some fun _ => 0
  userCopy := true
  userData := fun _ => 0
  pt := fun _ => some ⟨.zero, .write⟩
  mem := ⟨fun _ => 0, fun _ => .null, ∅⟩
  turns :=
    [{ others := id
       stores := id
       alive := true
       answers := fun _ => faultAll
       passes := 0 }]

def mappedIoctl (Contents : Type) [Zero Contents] : IoctlEnv Contents where
  privateData := true
  copyIn := true
  copyOut := true
  mdevice := 0
  dmirror := 0
  pt := fun _ => none
  cpu := fun _ => .none
  mem := ⟨fun _ => 0, fun _ => .null, ∅⟩
  transfer := mappedEnv Contents
  exclusive := ⟨false, fun _ => ⟨id, fun _ => 0, fun _ => none,
    fun _ => false⟩, 0⟩
  snapshot := ⟨false, fun _ => ⟨none, .error .ebusy, false⟩, 0⟩
  migrate := ⟨false, fun _ => ⟨id, fun _ => none, none, fun _ => false,
    fun _ => none, fun _ => none, fun _ => false, fun _ => false⟩, 0⟩
  back := ⟨none, id, ⟨fun _ => 0, fun _ => .null, ∅⟩, false⟩

theorem dmirrorRead_mapped {cmd : HmmDmirrorCmd}
    (order : cmd.addr ≤ cmd.stop) :
    ∃ served, dmirrorRead cmd (mappedEnv Contents) = some served ∧
      served.ret = none ∧ served.bytes = cmd.size.toNat := by
  let pt : XArray := fun _ => some ⟨.zero, .write⟩
  let mem : Memory Contents := ⟨fun _ => 0, fun _ => .null, ∅⟩
  let bounce : Bounce Contents :=
    dmirrorBounceInit cmd.addr cmd.size fun _ => 0
  have complete : (doTransfer .read pt cmd.addr cmd.stop bounce mem []).2 =
      none :=
    doTransfer_complete (fun _ _ _ => rfl) bounce mem []
  have size := doTransfer_size .read pt cmd.addr cmd.stop bounce mem []
  obtain ⟨progress, turn, result, kept⟩ : ∃ progress,
      retryOnce .read cmd (cmd.enter (fun _ => (0 : Contents)) pt mem)
        ⟨id, id, true, fun _ => faultAll, 0⟩ = some progress ∧
      progress.result = some none ∧ progress.bounce.size = cmd.size := by
    refine ⟨{
      cmd.enter (fun _ => (0 : Contents)) pt mem with
      bounce := (doTransfer .read pt cmd.addr cmd.stop bounce mem []).1.bounce
      copies := (doTransfer .read pt cmd.addr cmd.stop bounce mem []).1.copies
      mem := (doTransfer .read pt cmd.addr cmd.stop bounce mem []).1.mem
      result := some none }, ?_, rfl, size⟩
    unfold retryOnce
    dsimp only [HmmDmirrorCmd.enter, id]
    rw [complete]
    rfl
  have left : leaveLoop .read cmd (fun _ => 0) (mappedEnv Contents) =
      some (progress, none) := by
    have executed : (transferMachine .read cmd).exec
        (cmd.enter (fun _ => (0 : Contents)) pt mem)
        [⟨id, id, true, fun _ => faultAll, 0⟩] = some progress := by
      unfold Machine.exec transferMachine
      dsimp only
      rw [turn]
      rfl
    unfold leaveLoop mappedEnv
    dsimp only
    rw [executed]
    dsimp only
    rw [result]
    rfl
  refine ⟨progress.serve cmd none progress.bounce.size.toNat, ?_, rfl, ?_⟩
  · unfold dmirrorRead
    rw [if_neg (UInt64.not_lt.mpr order)]
    change (leaveLoop .read cmd (fun _ => 0) (mappedEnv Contents)).map _ = _
    rw [left]
    rfl
  · change progress.bounce.size.toNat = _
    rw [kept]

/-- A request that the guard admits is served, so its size is what was
asked for. -/
theorem small_of_successIsWhole (success : SuccessIsWhole Contents uarg)
    (admitted : uarg.Admitted) : uarg.npages.toNat < 2 ^ 52 := by
  have order : uarg.cleared.addr ≤ uarg.cleared.stop :=
    UInt64.le_of_lt admitted.2
  obtain ⟨served, returned, zero, bytes⟩ : ∃ served,
      dmirrorRead uarg.cleared (mappedEnv Contents) = some served ∧ _ :=
    dmirrorRead_mapped order
  let env := mappedIoctl Contents
  have reply : dmirrorFopsUnlockedIoctl .read uarg env =
      some ⟨none, some served.cmd, served⟩ := by
    have dispatched : dispatch .read uarg.cleared env = some served := returned
    unfold dmirrorFopsUnlockedIoctl
    dsimp only
    rw [if_neg nofun, if_neg nofun,
      if_neg (not_not.mpr admitted.1), if_neg (UInt64.not_le.mpr admitted.2)]
    unfold HmmDmirrorCmd.cleared at dispatched
    rw [dispatched]
    dsimp only
    rw [zero]
    rfl
  have whole := (success .read env _ rfl reply rfl).1.bytes
  dsimp only at whole
  rw [bytes] at whole
  have below := uarg.cleared.size.toNat_lt
  change _ = uarg.npages.toNat * 4096 at whole
  omega

/-- A return value of 0 means that the whole request was served exactly when
the guard admits the request only if its size is below 2^64 bytes. -/
theorem success_whole_iff (uarg : HmmDmirrorCmd) :
    SuccessIsWhole Contents uarg ↔
      (uarg.Admitted → uarg.npages.toNat < 2 ^ 52) :=
  ⟨small_of_successIsWhole, successIsWhole_of⟩

end Ioctl

/-- 2^52 + 1 pages are taken for one. -/
theorem success_of_one_page :
    ¬∀ uarg : HmmDmirrorCmd, SuccessIsWhole Nat uarg := by
  intro always
  have small := small_of_successIsWhole
    (always ⟨4096, 0, 0x10000000000001, 0, 0⟩) (by decide)
  exact absurd small (by decide)

end Rshm.Hmm
