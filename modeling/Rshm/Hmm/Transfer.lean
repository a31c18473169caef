import Rshm.Hmm.Address
import Rshm.Hmm.Mirror
import Rshm.Lib.AddressLoop
import Rshm.Lib.Machine

/-!
# Reading and writing through the mirror

`dmirror_read` and `dmirror_write` as loops over addresses: a critical
section copies until an entry is missing, `dmirror_fault` fills the rest of
the range, and the loop tries again.  Between two critical sections the
mirror may change in any way.
-/

namespace Rshm.Hmm

open RangeLoop AddressLoop

variable {Contents : Type}

/-- How one `dmirror_range_fault` goes: what happens to the mirror before its
critical section, how its retry loop ends, and which stores fail. -/
structure RangeFault where
  others : XArray → XArray
  reported : Except Errno (Nat → HmmPfn)
  xaFails : Nat → Bool

/-- `dmirror_range_fault`.  `hmm_range_fault` refuses a range that is empty
or ends before it starts. -/
def dmirrorRangeFault (write : Bool) (answer : RangeFault) (range : Window)
    (pt : XArray) : XArray × Option Errno :=
  if range.stop ≤ range.start then (answer.others pt, some .einval)
  else
    match answer.reported with
    | .error errno => (answer.others pt, some errno)
    | .ok hmmPfns =>
        dmirrorDoFault write hmmPfns answer.xaFails range.npages
          (pfnOf range.start) (answer.others pt)

/-- The mirror and the windows handed out so far. -/
structure FaultState where
  pt : XArray
  handed : List Window

/-- `if (ret) break;` after the call for a window. -/
def FaultState.handOut (state : FaultState) (range : Window)
    (faulted : XArray × Option Errno) : FaultState × Except Errno UInt64 :=
  ({ pt := faulted.1, handed := state.handed ++ [range] },
    match faulted.2 with
    | some errno => .error errno
    | none => .ok range.stop)

/-- The body of the loop of `dmirror_fault`. -/
def dmirrorFaultOne (answers : Nat → RangeFault) (write : Bool)
    (stop addr : UInt64) (state : FaultState) :
    FaultState × Except Errno UInt64 :=
  let range : Window := ⟨addr, windowEnd addr stop⟩
  state.handOut range
    (dmirrorRangeFault write (answers state.handed.length) range state.pt)

/-- `dmirror_fault`.  `alive` is the answer of `mmget_not_zero`. -/
def dmirrorFault (alive : Bool) (answers : Nat → RangeFault) (write : Bool)
    (passes : Nat) (start stop : UInt64) (pt : XArray) :
    FaultState × Outcome Errno :=
  if alive then
    forAddress (dmirrorFaultOne answers write stop) stop passes start ⟨pt, []⟩
  else (⟨pt, []⟩, .ended)

/-- Which of the two ioctls runs. -/
inductive Direction where
  | read
  | write
  deriving DecidableEq, Repr

/-- Whether `dmirror_do_read` or `dmirror_do_write` copies through an
entry. -/
def Direction.accepts : Direction → Option Entry → Bool
  | .read, some _ => true
  | .write, some entry => entry.tag = .write
  | _, none => false

/-- `struct dmirror_bounce`; `ptr` holds the page-sized piece of the buffer
at each byte offset. -/
structure Bounce (Contents : Type) where
  size : UInt64
  addr : UInt64
  cpages : UInt64
  ptr : UInt64 → Contents

/-- One `memcpy` between the bounce buffer and a page. -/
structure Copy (Contents : Type) where
  pfn : Nat
  offset : UInt64
  entry : Entry
  bytes : Contents

/-- What a critical section works on.  `ptr` is the offset in the buffer;
`copies` is a history variable. -/
structure Section (Contents : Type) where
  ptr : UInt64
  bounce : Bounce Contents
  mem : Memory Contents
  copies : List (Copy Contents)

/-- The `memcpy` for one entry. -/
def copyPage (direction : Direction) (pfn : Nat) (entry : Entry)
    (state : Section Contents) : Section Contents :=
  let bytes :=
    match direction with
    | .read => state.mem.contents entry.page
    | .write => state.bounce.ptr state.ptr
  { ptr := state.ptr + pageSize
    bounce :=
      { state.bounce with
        cpages := state.bounce.cpages + 1
        ptr :=
          match direction with
          | .read => Function.update state.bounce.ptr state.ptr bytes
          | .write => state.bounce.ptr }
    mem :=
      match direction with
      | .read => state.mem
      | .write => state.mem.write entry.page bytes
    copies := state.copies ++ [⟨pfn, state.ptr, entry, bytes⟩] }

/-- The loop body that `dmirror_do_read` and `dmirror_do_write` share. -/
def doPage (direction : Direction) (pt : XArray) (pfn : Nat)
    (state : Section Contents) : Section Contents × Option Errno :=
  match pt pfn with
  | none => (state, some .enoent)
  | some entry =>
      if direction.accepts (some entry) then
        (copyPage direction pfn entry state, none)
      else (state, some .enoent)

/-- The critical section of `dmirror_read` or `dmirror_write`. -/
def doTransfer (direction : Direction) (pt : XArray) (start stop : UInt64)
    (bounce : Bounce Contents) (mem : Memory Contents)
    (copies : List (Copy Contents)) : Section Contents × Option Errno :=
  forRange (doPage direction pt) (pfnOf stop - pfnOf start) (pfnOf start)
    ⟨(start - bounce.addr) &&& pageMask, bounce, mem, copies⟩

/-- `struct hmm_dmirror_cmd`. -/
structure HmmDmirrorCmd where
  addr : UInt64
  ptr : UInt64
  npages : UInt64
  cpages : UInt64
  faults : UInt64
  deriving DecidableEq, Repr

def HmmDmirrorCmd.size (cmd : HmmDmirrorCmd) : UInt64 :=
  cmd.npages <<< pageShift

def HmmDmirrorCmd.stop (cmd : HmmDmirrorCmd) : UInt64 := cmd.addr + cmd.size

/-- The guard of `dmirror_fops_unlocked_ioctl`. -/
def HmmDmirrorCmd.Admitted (cmd : HmmDmirrorCmd) : Prop :=
  PageAligned cmd.addr ∧ cmd.addr < cmd.stop

instance (cmd : HmmDmirrorCmd) : Decidable cmd.Admitted :=
  inferInstanceAs (Decidable (_ ∧ _))

/-- What one iteration of the `while (1)` loop meets: how others have changed
the mirror and the memory since the last one, and how `dmirror_fault` goes. -/
structure Turn (Contents : Type) where
  others : XArray → XArray
  stores : Memory Contents → Memory Contents
  alive : Bool
  answers : Nat → RangeFault
  passes : Nat

/-- The loop between two iterations.  `result` is there when the loop has
been left; `faults` counts the calls of `dmirror_fault` that returned 0. -/
structure Progress (Contents : Type) where
  start : UInt64
  bounce : Bounce Contents
  copies : List (Copy Contents)
  pt : XArray
  mem : Memory Contents
  faults : UInt64
  result : Option (Option Errno)

/-- The rest of an iteration after the critical section returned
`-ENOENT`. -/
def refault (direction : Direction) (cmd : HmmDmirrorCmd)
    (turn : Turn Contents) (pt : XArray) (progress : Progress Contents)
    (after : Section Contents) : Option (Progress Contents) :=
  let start := cmd.addr + (after.bounce.cpages <<< pageShift)
  let fault := dmirrorFault turn.alive turn.answers (direction = .write)
    turn.passes start cmd.stop pt
  let next : Progress Contents :=
    { progress with
      start := start
      bounce := after.bounce
      copies := after.copies
      pt := fault.1.pt
      mem := after.mem }
  match fault.2 with
  | .running => none
  | .left errno => some { next with result := some (some errno) }
  | .ended => some { next with faults := progress.faults + 1 }

/-- One iteration of the `while (1)` loop of `dmirror_read` or
`dmirror_write`. -/
def retryOnce (direction : Direction) (cmd : HmmDmirrorCmd)
    (progress : Progress Contents) (turn : Turn Contents) :
    Option (Progress Contents) :=
  if progress.result.isSome then none
  else
    let pt := turn.others progress.pt
    let section_ := doTransfer direction pt progress.start cmd.stop
      progress.bounce (turn.stores progress.mem) progress.copies
    match section_.2 with
    | some .enoent =>
        refault direction cmd turn pt progress section_.1
    | ret =>
        some
          { progress with
            bounce := section_.1.bounce
            copies := section_.1.copies
            pt := pt
            mem := section_.1.mem
            result := some ret }

/-- `dmirror_bounce_init`, once `vmalloc` has returned a buffer. -/
def dmirrorBounceInit (addr size : UInt64) (ptr : UInt64 → Contents) :
    Bounce Contents :=
  ⟨size, addr, 0, ptr⟩

/-- The loop before its first iteration. -/
def HmmDmirrorCmd.enter (cmd : HmmDmirrorCmd) (ptr : UInt64 → Contents)
    (pt : XArray) (mem : Memory Contents) : Progress Contents where
  start := cmd.addr
  bounce := dmirrorBounceInit cmd.addr cmd.size ptr
  copies := []
  pt := pt
  mem := mem
  faults := cmd.faults
  result := none

/-- The `while (1)` loop as a machine. -/
def transferMachine (direction : Direction) (cmd : HmmDmirrorCmd) :
    Machine (Progress Contents) (Turn Contents) where
  Initial := fun progress => ∃ ptr pt mem, progress = cmd.enter ptr pt mem
  step := retryOnce direction cmd

/-- What `dmirror_read` or `dmirror_write` meets: the buffer `vmalloc`
returns, whether the copy from or to user space succeeds, the data of the
user, the mirror, the memory, and the iterations of the loop. -/
structure TransferEnv (Contents : Type) where
  vmalloc : Option (UInt64 → Contents)
  userCopy : Bool
  userData : UInt64 → Contents
  pt : XArray
  mem : Memory Contents
  turns : List (Turn Contents)

/-- How a request ends.  `pages` are the pages whose data was moved, `bytes`
is how much went from or to `cmd.ptr`, and `windows` were handed to the
memory management. -/
structure Served where
  ret : Option Errno
  cmd : HmmDmirrorCmd
  pages : List Nat
  bytes : Nat
  windows : List Window
  deriving DecidableEq, Repr

/-- A request that fails before it has done anything. -/
def Served.refuse (cmd : HmmDmirrorCmd) (errno : Errno) : Served :=
  ⟨some errno, cmd, [], 0, []⟩

/-- The loop up to its end, with its result. -/
def leaveLoop (direction : Direction) (cmd : HmmDmirrorCmd)
    (ptr : UInt64 → Contents) (env : TransferEnv Contents) :
    Option (Progress Contents × Option Errno) :=
  match (transferMachine direction cmd).exec (cmd.enter ptr env.pt env.mem)
      env.turns with
  | none => none
  | some progress => progress.result.map fun ret => (progress, ret)

/-- `cmd->cpages = bounce.cpages`. -/
def Progress.serve (cmd : HmmDmirrorCmd) (progress : Progress Contents)
    (ret : Option Errno) (bytes : Nat) : Served where
  ret := ret
  cmd :=
    { cmd with
      cpages := progress.bounce.cpages
      faults := progress.faults }
  pages := progress.copies.map Copy.pfn
  bytes := bytes
  windows := []

/-- `dmirror_read`; `none` while it has not returned. -/
def dmirrorRead (cmd : HmmDmirrorCmd) (env : TransferEnv Contents) :
    Option Served :=
  if cmd.stop < cmd.addr then some (.refuse cmd .einval)
  else
    match env.vmalloc with
    | none => some (.refuse cmd .enomem)
    | some ptr =>
        (leaveLoop .read cmd ptr env).map fun (progress, ret) =>
          if ret = none then
            if env.userCopy then
              progress.serve cmd none progress.bounce.size.toNat
            else progress.serve cmd (some .efault) 0
          else progress.serve cmd ret 0

/-- `dmirror_write`; `none` while it has not returned. -/
def dmirrorWrite (cmd : HmmDmirrorCmd) (env : TransferEnv Contents) :
    Option Served :=
  if cmd.stop < cmd.addr then some (.refuse cmd .einval)
  else
    match env.vmalloc with
    | none => some (.refuse cmd .enomem)
    | some ptr =>
        if env.userCopy then
          (leaveLoop .write cmd env.userData env).map fun (progress, ret) =>
            progress.serve cmd ret progress.bounce.size.toNat
        else
          some ((cmd.enter ptr env.pt env.mem).serve cmd (some .efault) 0)

end Rshm.Hmm
