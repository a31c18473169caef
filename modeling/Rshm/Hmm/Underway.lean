import Rshm.Hmm.CoherentMemory
import Rshm.Hmm.TransferExact

/-!
# Requests under way

`dmirror_read` and `dmirror_write` run beside everything else that happens in
the machine.  A request copies each page at one moment, the moments are in the
order of the pages, and at that moment the process has in the page what the
bounce buffer has.
-/

namespace Rshm.Hmm

open RangeLoop

variable {Contents : Type}

/-- The bounce buffer by page numbers. -/
def Bounce.pages (bounce : Bounce Contents) : DmirrorBounce Contents where
  addr := pfnOf bounce.addr
  cpages := bounce.cpages.toNat
  ptr := fun page => bounce.ptr (UInt64.ofNat page <<< pageShift)

theorem Bounce.pages_ptr (bounce : Bounce Contents) {page : Nat}
    {offset : UInt64} (place : offset.toNat = 4096 * page) :
    bounce.pages.ptr page = bounce.ptr offset := by
  have below : offset.toNat < 2 ^ 64 := offset.toNat_lt
  have same : UInt64.ofNat page <<< pageShift = offset := by
    rw [← UInt64.toNat_inj, toNat_shiftPage, UInt64.toNat_ofNat']
    omega
  exact congrArg bounce.ptr same

/-- The loop body of `dmirrorDoWrite`. -/
def writePage (pt : XArray) (pfn : Nat)
    (state : Memory Contents × DmirrorBounce Contents) :
    (Memory Contents × DmirrorBounce Contents) × Option Errno :=
  match pt pfn with
  | some ⟨page, .write⟩ =>
      ((state.1.write page (state.2.ptr (pfn - state.2.addr)),
        { state.2 with cpages := state.2.cpages + 1 }), none)
  | _ => (state, some .enoent)

/-- The section of a write before the pass for a page, and what the loop by
pages has there. -/
structure Section.Shown (cmd : HmmDmirrorCmd) (ptr : UInt64 → Contents)
    (pfn : Nat) (state : Section Contents)
    (image : Memory Contents × DmirrorBounce Contents) : Prop where
  inOrder : InOrder .write cmd state.copies state.bounce
  place : state.ptr.toNat = 4096 * state.copies.length
  here : pfn = pfnOf cmd.addr + state.copies.length
  data : state.bounce.ptr = ptr
  mem : image.1 = state.mem
  cpages : image.2.cpages = state.copies.length
  addr : image.2.addr = pfnOf cmd.addr
  pages : ∀ page offset, offset.toNat = 4096 * page →
    image.2.ptr page = ptr offset

theorem Section.Shown.pass {cmd : HmmDmirrorCmd} {ptr : UInt64 → Contents}
    {pfn : Nat} {state : Section Contents}
    {image : Memory Contents × DmirrorBounce Contents}
    (shown : state.Shown cmd ptr pfn image) (range : cmd.InRange)
    (upper : pfn < pfnOf cmd.addr + cmd.npages.toNat) (pt : XArray) :
    let after := doPage .write pt pfn state
    let write := writePage pt pfn image
    write.2 = after.2 ∧
      (after.2 = none → after.1.Shown cmd ptr (pfn + 1) write.1) ∧
      (after.2 ≠ none → after.1.Shown cmd ptr pfn write.1) := by
  intro after write
  have refused (table : ∀ page, pt pfn ≠ some ⟨page, .write⟩) :
      after = (state, some .enoent) ∧ write = (image, some .enoent) := by
    constructor
    · change doPage .write pt pfn state = _
      unfold doPage
      cases found : pt pfn with
      | none => rfl
      | some entry =>
          have other : ¬Direction.write.accepts (some entry) = true := by
            intro accepts
            have writable : entry.tag = .write := by
              simpa [Direction.accepts] using accepts
            exact table entry.page (found.trans (by rw [← writable]))
          exact if_neg other
    · change writePage pt pfn image = _
      unfold writePage
      split
      · next page found => exact absurd found (table page)
      · rfl
  by_cases table : ∃ page, pt pfn = some ⟨page, .write⟩
  · obtain ⟨page, found⟩ := table
    have accepts : Direction.write.accepts (some ⟨page, .write⟩) = true := by
      simp [Direction.accepts]
    have copied : after = (copyPage .write pfn ⟨page, .write⟩ state, none) := by
      change doPage .write pt pfn state = _
      unfold doPage
      rw [found]
      exact if_pos accepts
    have written : write =
        ((image.1.write page (image.2.ptr (pfn - image.2.addr)),
          { image.2 with cpages := image.2.cpages + 1 }), none) := by
      change writePage pt pfn image = _
      unfold writePage
      rw [found]
    rw [copied, written]
    refine ⟨rfl, fun _ => ?_, fun stopped => absurd rfl stopped⟩
    obtain ⟨inOrder, place, here, data, mem, cpages, addr, pages⟩ := shown
    subst here
    obtain ⟨next, moved⟩ :=
      inOrder.copy range (by omega) place accepts state.mem
    have grown : (copyPage .write (pfnOf cmd.addr + state.copies.length)
        ⟨page, .write⟩ state).copies.length = state.copies.length + 1 := by
      unfold copyPage
      simp
    refine ⟨next, moved, ?_, data, ?_, ?_, addr, pages⟩
    · rw [grown]
      omega
    · have piece : image.2.ptr
          (pfnOf cmd.addr + state.copies.length - image.2.addr) =
          state.bounce.ptr state.ptr := by
        rw [addr, Nat.add_sub_cancel_left, data]
        exact pages _ _ place
      dsimp only
      rw [mem, piece]
      rfl
    · rw [grown]
      exact congrArg (· + 1) cpages
  · obtain ⟨same, kept⟩ := refused fun page found => table ⟨page, found⟩
    rw [same, kept]
    refine ⟨rfl, ?_, fun _ => shown⟩
    intro passed
    cases passed

/-- `dmirrorDoWrite` is the critical section of `dmirror_write`. -/
theorem doTransfer_write {cmd : HmmDmirrorCmd}
    (aligned : PageAligned cmd.addr) (range : cmd.InRange) (pt : XArray)
    {start : UInt64} {bounce : Bounce Contents} (mem : Memory Contents)
    {copies : List (Copy Contents)}
    (inOrder : InOrder .write cmd copies bounce)
    (position : start.toNat = cmd.addr.toNat + copies.length * 4096) :
    let after := doTransfer .write pt start cmd.stop bounce mem copies
    let write := dmirrorDoWrite pt (pfnOf cmd.stop - pfnOf start)
      (pfnOf start) (mem, bounce.pages)
    write.2 = after.2 ∧ write.1.1 = after.1.mem ∧
      write.1.2.cpages = after.1.copies.length ∧
      after.1.bounce.ptr = bounce.ptr := by
  intro after write
  have first := (pageAligned_iff cmd.addr).mp aligned
  have stop := range.toNat_stop
  have below : cmd.addr.toNat + cmd.npages.toNat * 4096 < 2 ^ 64 := range
  have bound := inOrder.bound
  have offset : ((start - bounce.addr) &&& pageMask).toNat =
      4096 * copies.length := by
    rw [toNat_pageMask, inOrder.addr, UInt64.toNat_sub_of_le]
    · omega
    · rw [UInt64.le_iff_toNat_le]
      omega
  have firstPfn : pfnOf start = pfnOf cmd.addr + copies.length := by
    rw [pfnOf_eq, pfnOf_eq]
    omega
  have passes : pfnOf cmd.stop - pfnOf start =
      cmd.npages.toNat - copies.length := by
    rw [pfnOf_eq, pfnOf_eq]
    omega
  have entered : Section.Shown cmd bounce.ptr (pfnOf start)
      ⟨(start - bounce.addr) &&& pageMask, bounce, mem, copies⟩
      (mem, bounce.pages) :=
    ⟨inOrder, offset, firstPfn, rfl, rfl, inOrder.count.symm,
      congrArg pfnOf inOrder.addr, fun _ _ => bounce.pages_ptr⟩
  obtain ⟨together, done, -, shown⟩ := forRange_follows
    (fun pfn state image => state.Shown cmd bounce.ptr pfn image)
    (doPage .write pt) (writePage pt) (pfnOf cmd.stop - pfnOf start)
    (pfnOf start) _ _ entered (by
      intro pfn state image lower upper held
      exact held.pass range (by omega) pt)
  exact ⟨together, shown.mem, shown.cpages, shown.data⟩

theorem retryOnce_section {direction : Direction} {cmd : HmmDmirrorCmd}
    {progress next : Progress Contents} {turn : Turn Contents}
    (moved : retryOnce direction cmd progress turn = some next) :
    let after := doTransfer direction (turn.others progress.pt)
      progress.start cmd.stop progress.bounce (turn.stores progress.mem)
      progress.copies
    progress.result = none ∧ next.copies = after.1.copies ∧
      next.bounce = after.1.bounce := by
  unfold retryOnce at moved
  split at moved
  · cases moved
  · next unfinished =>
    have running : progress.result = none := by
      simpa using unfinished
    dsimp only at moved
    split at moved
    · unfold refault at moved
      dsimp only at moved
      split at moved
      · cases moved
      · obtain rfl := Option.some.inj moved
        exact ⟨running, rfl, rfl⟩
      · obtain rfl := Option.some.inj moved
        exact ⟨running, rfl, rfl⟩
    · obtain rfl := Option.some.inj moved
      exact ⟨running, rfl, rfl⟩

/-- A request to a mirror of a process.  `ptr` is what its bounce buffer has
at first. -/
structure Request (Contents : Type) where
  direction : Direction
  dmirror : Nat
  mm : Nat
  cmd : HmmDmirrorCmd
  ptr : UInt64 → Contents

/-- The machine with a request under way.  `moments` is a history variable:
what the memory has been since the request began. -/
structure Underway (Contents : Type) where
  shared : Shared Contents
  progress : Progress Contents
  moments : List (ProcessMemory Contents)

/-- Something else happens, or the loop of the request goes on. -/
inductive UnderwayInput (Contents : Type) where
  | other (input : SharedInput Contents)
  | turn (alive : Bool) (answers : Nat → RangeFault) (passes : Nat)

namespace Underway

/-- Each copy was made at one of the moments, and these are in the order of
the copies. -/
def Timely (mm : Nat) (copies : List (Copy Contents))
    (moments : List (ProcessMemory Contents)) : Prop :=
  ∃ moment : Nat → Nat, Monotone moment ∧
    ∀ page copy, copies[page]? = some copy →
      ∃ memory, moments[moment page]? = some memory ∧
        memory mm copy.pfn = copy.bytes

theorem Timely.extend {mm : Nat} {copies new : List (Copy Contents)}
    {moments : List (ProcessMemory Contents)}
    (timely : Timely mm copies moments) {memory : ProcessMemory Contents}
    (now : ∀ copy ∈ new, memory mm copy.pfn = copy.bytes) :
    Timely mm (copies ++ new) (moments ++ [memory]) := by
  obtain ⟨moment, ordered, seen⟩ := timely
  have earlier : ∀ page, page < copies.length →
      moment page < moments.length := by
    intro page inside
    obtain ⟨before, there, -⟩ := seen page copies[page]
      (List.getElem?_eq_getElem inside)
    exact (List.getElem?_eq_some_iff.mp there).1
  refine ⟨fun page => if page < copies.length then moment page
    else moments.length, ?_, ?_⟩
  · intro page later before
    dsimp only
    split
    · next old =>
      split
      · exact ordered before
      · exact Nat.le_of_lt (earlier page old)
    · next recent =>
      rw [if_neg (by omega)]
  · intro page copy found
    rw [List.getElem?_append] at found
    dsimp only
    split at found
    · next old =>
      rw [if_pos old]
      obtain ⟨before, there, same⟩ := seen page copy found
      refine ⟨before, ?_, same⟩
      rw [List.getElem?_append_left (earlier page old)]
      exact there
    · next recent =>
      rw [if_neg recent]
      refine ⟨memory, by simp, ?_⟩
      exact now copy (List.mem_of_getElem? found)

variable [Zero Contents] {request : Request Contents}
  {underway next : Underway Contents}

/-- An iteration works on the table of the mirror and on the memory as they
are.  What its `dmirror_fault` stores are steps of the driver, which come
before the next iteration. -/
def turn (underway : Underway Contents) (dmirror : Dmirror) (alive : Bool)
    (answers : Nat → RangeFault) (passes : Nat) : Turn Contents where
  others := fun _ => dmirror.pt
  stores := fun _ => underway.shared.world.mem
  alive := alive
  answers := answers
  passes := passes

/-- The critical section of `dmirror_write` as a step of the driver. -/
def doWrite (underway : Underway Contents) (request : Request Contents) :
    Input Contents :=
  .doWrite request.dmirror
    (pfnOf request.cmd.stop - pfnOf underway.progress.start)
    (pfnOf underway.progress.start) underway.progress.bounce.pages

/-- What a critical section does to the machine. -/
def critical (underway : Underway Contents) (request : Request Contents) :
    Option (Shared Contents) :=
  match request.direction with
  | .read => some underway.shared
  | .write => underway.shared.step (.driver (underway.doWrite request))

def goOn (underway : Underway Contents) (shared : Shared Contents)
    (progress : Progress Contents) : Underway Contents :=
  ⟨shared, progress, underway.moments ++ [shared.memory]⟩

def step (request : Request Contents) (underway : Underway Contents) :
    UnderwayInput Contents → Option (Underway Contents)
  | .other input =>
      (underway.shared.step input).map fun shared =>
        underway.goOn shared underway.progress
  | .turn alive answers passes =>
      match underway.shared.world.dmirror request.dmirror with
      | none => none
      | some dmirror =>
          match retryOnce request.direction request.cmd underway.progress
              (underway.turn dmirror alive answers passes),
            underway.critical request with
          | some progress, some shared => some (underway.goOn shared progress)
          | _, _ => none

/-- The request begins in any state that the machine reaches. -/
def machine (request : Request Contents) :
    Machine (Underway Contents) (UnderwayInput Contents) where
  Initial := fun underway => ∃ shared pt,
    Shared.machine.Reaches Shared.InTurn shared ∧
      underway = ⟨shared,
        request.cmd.enter request.ptr pt shared.world.mem, [shared.memory]⟩
  step := step request

/-- The file of the request stays open, and the steps of the driver are in
turn. -/
def InTurn (request : Request Contents) (underway : Underway Contents) :
    UnderwayInput Contents → Prop
  | .other input => underway.shared.InTurn input
  | .turn _ _ _ =>
      (∀ dmirror,
        underway.shared.world.dmirror request.dmirror = some dmirror →
        dmirror.mm = request.mm) ∧
      (request.direction = .write →
        underway.shared.InTurn (.driver (underway.doWrite request)))

/-- Every page that the request has copied is in its buffer as the process
had it at a moment of the request, the moments are in the order of the pages,
a request that returns 0 has copied all its pages, and a write has copied the
data of the user. -/
structure Served (request : Request Contents)
    (underway : Underway Contents) : Prop where
  bound : underway.progress.bounce.cpages.toNat ≤ request.cmd.npages.toNat
  finished : underway.progress.result = some none →
    underway.progress.bounce.cpages = request.cmd.npages
  data : request.direction = .write →
    underway.progress.bounce.ptr = request.ptr
  pages : ∃ moment : Nat → Nat, Monotone moment ∧
    ∀ page, page < underway.progress.bounce.cpages.toNat →
      ∃ memory, underway.moments[moment page]? = some memory ∧
        memory request.mm (pfnOf request.cmd.addr + page) =
          underway.progress.bounce.pages.ptr page

/-- The invariant behind `Served`. -/
structure Sound (request : Request Contents)
    (underway : Underway Contents) : Prop where
  tracked : underway.shared.Tracked
  exact_ : underway.progress.Exact request.direction request.cmd
  data : request.direction = .write →
    underway.progress.bounce.ptr = request.ptr
  timely : Timely request.mm underway.progress.copies underway.moments

theorem Sound.served (sound : underway.Sound request) :
    underway.Served request := by
  have inOrder := sound.exact_.inOrder
  refine ⟨?_, sound.exact_.finished, sound.data, ?_⟩
  · rw [← inOrder.count]
    exact inOrder.bound
  · obtain ⟨moment, ordered, seen⟩ := sound.timely
    refine ⟨moment, ordered, ?_⟩
    intro page inside
    rw [← inOrder.count] at inside
    have found : underway.progress.copies[page]? =
        some underway.progress.copies[page] :=
      List.getElem?_eq_getElem inside
    obtain ⟨memory, there, same⟩ := seen page _ found
    obtain ⟨pfn, place, -⟩ := inOrder.place page _ found
    refine ⟨memory, there, ?_⟩
    rw [← pfn, same, Bounce.pages_ptr _ place]
    exact (inOrder.bytes _ (List.mem_of_getElem? found)).symm

theorem Sound.read (sound : underway.Sound request)
    (way : request.direction = .read) {dmirror : Dmirror}
    (present :
      underway.shared.world.dmirror request.dmirror = some dmirror)
    (mirror : dmirror.mm = request.mm) {turn : Turn Contents}
    (table : ∀ pt, turn.others pt = dmirror.pt)
    (mem : ∀ mem, turn.stores mem = underway.shared.world.mem)
    {progress : Progress Contents}
    (through : underway.progress.Through request.direction turn progress) :
    Timely request.mm progress.copies
      (underway.moments ++ [underway.shared.memory]) := by
  obtain ⟨new, list, loaded, -⟩ := through
  rw [list]
  apply sound.timely.extend
  intro copy member
  obtain ⟨found, bytes⟩ := loaded copy member
  rw [table] at found
  rw [bytes way, mem, ← mirror]
  exact (sound.tracked.entry present found).symm

theorem Sound.write (sound : underway.Sound request)
    (aligned : PageAligned request.cmd.addr) (range : request.cmd.InRange)
    (way : request.direction = .write) {dmirror : Dmirror}
    (present :
      underway.shared.world.dmirror request.dmirror = some dmirror)
    (mirror : dmirror.mm = request.mm) {turn : Turn Contents}
    (table : ∀ pt, turn.others pt = dmirror.pt)
    (mem : ∀ mem, turn.stores mem = underway.shared.world.mem)
    {progress : Progress Contents}
    (iterated : retryOnce request.direction request.cmd underway.progress
      turn = some progress) :
    progress.bounce.ptr = underway.progress.bounce.ptr ∧
      Timely request.mm progress.copies (underway.moments ++
        [underway.shared.rememberInput
          (.driver (underway.doWrite request))]) := by
  have inOrder := sound.exact_.inOrder
  obtain ⟨exact_, new, list, -⟩ :=
    retryOnce_exact aligned range sound.exact_ iterated
  obtain ⟨running, copied, buffer⟩ := retryOnce_section iterated
  obtain ⟨position, -⟩ := sound.exact_.retry running
  rw [← inOrder.count] at position
  rw [way, table, mem] at copied buffer
  obtain ⟨-, -, counted, data⟩ := doTransfer_write aligned range dmirror.pt
    underway.shared.world.mem (way ▸ inOrder) position
  rw [← buffer] at data
  rw [← copied] at counted
  refine ⟨data, ?_⟩
  have length : progress.copies.length =
      underway.progress.copies.length + new.length := by
    rw [list, List.length_append]
  have start : pfnOf underway.progress.start =
      pfnOf request.cmd.addr + underway.progress.copies.length := by
    have first := (pageAligned_iff request.cmd.addr).mp aligned
    rw [pfnOf_eq, pfnOf_eq]
    omega
  rw [list]
  apply sound.timely.extend
  intro copy member
  obtain ⟨i, inside, same⟩ := List.mem_iff_getElem.mp member
  have found : progress.copies[underway.progress.copies.length + i]? =
      some copy := by
    rw [list, List.getElem?_append_right (by omega), Nat.add_sub_cancel_left,
      List.getElem?_eq_getElem inside, same]
  obtain ⟨pfn, place, -⟩ := exact_.inOrder.place _ copy found
  have written : underway.shared.rememberInput
      (.driver (underway.doWrite request)) request.mm copy.pfn =
      underway.progress.bounce.pages.ptr
        (copy.pfn - pfnOf underway.progress.bounce.addr) := by
    rw [← mirror]
    simp only [Shared.rememberInput, doWrite, World.remember, present]
    refine ProcessMemory.write_inside _ _ ?_
    have before : underway.progress.bounce.pages.cpages =
        underway.progress.copies.length := inOrder.count.symm
    rw [counted, before]
    omega
  rw [written, inOrder.addr, pfn, Nat.add_sub_cancel_left,
    Bounce.pages_ptr _ place, ← data]
  exact exact_.inOrder.bytes copy (List.mem_of_getElem? found)

theorem Sound.turn (sound : underway.Sound request)
    (aligned : PageAligned request.cmd.addr) (range : request.cmd.InRange)
    {alive : Bool} {answers : Nat → RangeFault} {passes : Nat}
    (admitted : InTurn request underway (.turn alive answers passes))
    (moved : step request underway (.turn alive answers passes) =
      some next) : next.Sound request := by
  simp only [step] at moved
  split at moved
  · cases moved
  · next dmirror present =>
    split at moved
    · next progress shared iterated entered =>
      obtain rfl := Option.some.inj moved
      have mirror := admitted.1 dmirror present
      obtain ⟨exact_, through⟩ :=
        retryOnce_exact aligned range sound.exact_ iterated
      cases way : request.direction with
      | read =>
          simp only [critical, way, Option.some.injEq] at entered
          subst entered
          refine ⟨sound.tracked, exact_, ?_, ?_⟩
          · intro writes
            rw [way] at writes
            cases writes
          · exact sound.read way present mirror (fun _ => rfl)
              (fun _ => rfl) through
      | write =>
          simp only [critical, way] at entered
          have tracked := sound.tracked.step (admitted.2 way) entered
          obtain ⟨world, -, rfl⟩ := Option.map_eq_some_iff.mp entered
          obtain ⟨data, timely⟩ := sound.write aligned range way present
            mirror (fun _ => rfl) (fun _ => rfl) iterated
          exact ⟨tracked, exact_, fun _ => data.trans (sound.data way),
            timely⟩
    · cases moved

theorem Sound.step (sound : underway.Sound request)
    (aligned : PageAligned request.cmd.addr) (range : request.cmd.InRange)
    {input : UnderwayInput Contents}
    (admitted : InTurn request underway input)
    (moved : step request underway input = some next) :
    next.Sound request := by
  cases input with
  | other input =>
      obtain ⟨shared, stepped, rfl⟩ := Option.map_eq_some_iff.mp moved
      refine ⟨sound.tracked.step admitted stepped, sound.exact_, sound.data,
        ?_⟩
      have timely : Timely request.mm (underway.progress.copies ++ [])
          (underway.moments ++ [shared.memory]) := by
        apply sound.timely.extend
        simp
      rw [List.append_nil] at timely
      exact timely
  | turn alive answers passes =>
      exact sound.turn aligned range admitted moved

theorem requests_served (request : Request Contents)
    (aligned : PageAligned request.cmd.addr) (range : request.cmd.InRange)
    (underway : Underway Contents)
    (reached : (machine request).Reaches (InTurn request) underway) :
    underway.Served request := by
  have invariant : (machine request).Invariant (InTurn request)
      (Sound request) := by
    constructor
    · rintro start ⟨shared, pt, before, rfl⟩
      refine ⟨Shared.tracked_invariant.reaches before,
        Progress.enter_exact range request.ptr pt shared.world.mem,
        fun _ => rfl, fun page => page, monotone_id, ?_⟩
      intro page copy found
      cases found
    · intro state input next sound admitted moved
      exact sound.step aligned range admitted moved
  exact (invariant.reaches reached).served

/-- A read of one page, for which its mirror has no entry at first.  The
process writes 8 before the page is made exclusive. -/
private def readOnePage : Request Nat := ⟨.read, 0, 0, ⟨0, 0, 1, 0, 0⟩, 0⟩

private def onePageMapped : List (SharedInput Nat) :=
  [.driver (.openFile 0 0 0), .driver (.populate 0 0 1 true), .store 0 0 7]

private def fillOnePage : Nat → RangeFault := fun _ =>
  ⟨fun pt => pt, .ok fun _ => ⟨.normal 1, true⟩, fun _ => false⟩

private def readOnePageInputs : List (UnderwayInput Nat) :=
  [.turn true fillOnePage 2, .other (.store 0 0 8),
    .other (.driver (.exclusive 0 1 0 (fun _ => some (.normal 1)) true
      fun _ => false)), .turn true fillOnePage 2]

private theorem readOnePage_reached : ∃ underway : Underway Nat,
    (machine readOnePage).Reaches (InTurn readOnePage) underway ∧
      underway.progress.result = some none ∧
      underway.progress.bounce.pages.ptr 0 = 8 := by
  refine ⟨_, ⟨_, readOnePageInputs, ⟨_, fun _ => none,
    ⟨Shared.boot, onePageMapped, rfl, .cons ?_ rfl (.cons ?_ rfl
      (.cons ?_ rfl (.nil _)))⟩, rfl⟩, .cons ?_ rfl (.cons ?_ rfl
    (.cons ?_ rfl (.cons ?_ rfl (.nil _))))⟩, rfl, rfl⟩
  · exact ⟨⟨⟨trivial, trivial⟩, by simp⟩, by simp⟩
  · exact ⟨⟨⟨trivial, trivial⟩, by simp⟩, by simp⟩
  · trivial
  · refine ⟨?_, fun writes => by cases writes⟩
    intro dmirror present
    cases present
    rfl
  · trivial
  · exact ⟨⟨⟨⟨fun _ => rfl, fun _ => rfl, rfl⟩, trivial⟩, by simp⟩, by simp⟩
  · refine ⟨?_, fun writes => by cases writes⟩
    intro dmirror present
    cases present
    rfl

theorem requests_served_during_store :
    ∃ underway : Underway Nat,
      (machine readOnePage).Reaches (InTurn readOnePage) underway ∧
      underway.progress.result = some none ∧
      underway.progress.bounce.pages.ptr 0 = 8 ∧
      underway.Served readOnePage := by
  obtain ⟨underway, reached, ended, read⟩ := readOnePage_reached
  exact ⟨underway, reached, ended, read,
    requests_served readOnePage (by decide) (by decide) underway reached⟩

end Underway

end Rshm.Hmm
