import Rshm.Hmm.Migrate
import Rshm.Hmm.TransferExact

/-!
# The loops that sweep a range

EXCLUSIVE, SNAPSHOT and the two migrations work through the request window by
window.  Each loop keeps the windows it has handed to the memory management;
what the calls answer is the environment's choice, one answer a window.
-/

namespace Rshm.Hmm

open AddressLoop

variable {Contents : Type}

/-- The number behind an error code. -/
def Errno.value : Errno → UInt64
  | .ebusy => 16
  | .efault => 14
  | .einval => 22
  | .enoent => 2
  | .enomem => 12
  | .eperm => 1

/-- What one pass of the loop of `dmirror_exclusive` meets.  `ret` is what
`make_device_exclusive_range` returns for a window. -/
structure ExclusiveAnswer where
  others : XArray → XArray
  ret : Window → Int
  pages : Nat → Option Page
  xaFails : Nat → Bool

structure ExclusiveState where
  pt : XArray
  handed : List Window

/-- `unsigned long mapped = dmirror_atomic_map(...)`. -/
def mappedPages : Except Errno Nat → UInt64
  | .ok mapped => UInt64.ofNat mapped
  | .error errno => 0 - errno.value

/-- The body of the loop of `dmirror_exclusive`. -/
def dmirrorExclusiveOne (answers : Nat → ExclusiveAnswer)
    (stop addr : UInt64) (state : ExclusiveState) :
    ExclusiveState × Except Errno UInt64 :=
  let next := if stop < addr + windowSize then stop else addr + windowSize
  let window : Window := ⟨addr, next⟩
  let answer := answers state.handed.length
  let pt := answer.others state.pt
  let all := answer.ret window = ((next - addr) >>> pageShift).toNat
  let map := dmirrorAtomicMap answer.pages answer.xaFails window.npages
    (pfnOf addr) pt
  let mapped := if all then mappedPages map.2 else 0
  ({ pt := if all then map.1 else pt, handed := state.handed ++ [window] },
    if addr + (mapped <<< pageShift) < next then .error .ebusy else .ok next)

/-- What the read-back at the end of EXCLUSIVE and MIGRATE_TO_DEV meets. -/
structure ReadBackEnv (Contents : Type) where
  vmalloc : Option (UInt64 → Contents)
  others : XArray → XArray
  mem : Memory Contents
  userCopy : Bool

/-- "Return the migrated data for verification." -/
def readBack (cmd : HmmDmirrorCmd) (env : ReadBackEnv Contents) (pt : XArray)
    (windows : List Window) : Served :=
  match env.vmalloc with
  | none => ⟨some .enomem, cmd, [], 0, windows⟩
  | some ptr =>
      let after := doTransfer .read (env.others pt) cmd.addr cmd.stop
        (dmirrorBounceInit cmd.addr cmd.size ptr) env.mem []
      let served (ret : Option Errno) (bytes : Nat) : Served :=
        ⟨ret, { cmd with cpages := after.1.bounce.cpages },
          after.1.copies.map Copy.pfn, bytes, windows⟩
      match after.2 with
      | some errno => served (some errno) 0
      | none =>
          if env.userCopy then served none after.1.bounce.size.toNat
          else served (some .efault) 0

/-- What a request that sweeps its range meets. -/
structure SweepEnv (Answer : Type) where
  alive : Bool
  answers : Nat → Answer
  passes : Nat

/-- `dmirror_exclusive`; `none` while it has not returned. -/
def dmirrorExclusive (cmd : HmmDmirrorCmd) (env : SweepEnv ExclusiveAnswer)
    (back : ReadBackEnv Contents) (pt : XArray) : Option Served :=
  if cmd.stop < cmd.addr then some (.refuse cmd .einval)
  else if env.alive = false then some (.refuse cmd .einval)
  else
    match forAddress (dmirrorExclusiveOne env.answers cmd.stop) cmd.stop
        env.passes cmd.addr ⟨pt, []⟩ with
    | (_, .running) => none
    | (state, .left errno) => some ⟨some errno, cmd, [], 0, state.handed⟩
    | (state, .ended) => some (readBack cmd back state.pt state.handed)

/-- An entry of `range->hmm_pfns` for a snapshot. -/
structure SnapshotPfn where
  error : Bool
  valid : Bool
  write : Bool
  order : Nat
  page : Page
  deriving DecidableEq, Repr

/-- `HMM_DMIRROR_PROT_*`. -/
def protError : UInt8 := 0xff
def protNone : UInt8 := 0x00
def protRead : UInt8 := 0x01
def protWrite : UInt8 := 0x02
def protPmd : UInt8 := 0x04
def protPud : UInt8 := 0x08
def protZero : UInt8 := 0x10
def protDevPrivateLocal : UInt8 := 0x20
def protDevPrivateRemote : UInt8 := 0x30
def protDevCoherentLocal : UInt8 := 0x40
def protDevCoherentRemote : UInt8 := 0x50

def dmirrorMkentry (mdevice : Nat) (entry : SnapshotPfn) : UInt8 :=
  if entry.error then protError
  else if entry.valid = false then protNone
  else
    let kind :=
      match entry.page with
      | .devicePrivate owner _ =>
          if owner = mdevice then protDevPrivateLocal
          else protDevPrivateRemote
      | .deviceCoherent owner _ =>
          if owner = mdevice then protDevCoherentLocal
          else protDevCoherentRemote
      | .zero => protZero
      | _ => protNone
    let access := kind ||| (if entry.write then protWrite else protRead)
    if entry.order + 12 = 21 then access ||| protPmd
    else if entry.order + 12 = 30 then access ||| protPud
    else access

/-- What one pass of the loop of `dmirror_snapshot` meets: whether the
notifier can be inserted, how the retry loop of `dmirror_range_snapshot`
ends, and whether the copy to user space succeeds. -/
structure SnapshotAnswer where
  insert : Option Errno
  reported : Except Errno (Nat → SnapshotPfn)
  userCopy : Bool

/-- `uptr` is where the next byte goes; `user` is what has been stored. -/
structure SnapshotState where
  handed : List Window
  pages : List Nat
  cpages : UInt64
  uptr : UInt64
  user : UInt64 → Option UInt8

/-- `dmirror_range_snapshot`: the byte for each page. -/
def dmirrorRangeSnapshot (mdevice : Nat) (answer : SnapshotAnswer) :
    Except Errno (Nat → UInt8) :=
  match answer.insert with
  | some errno => .error errno
  | none =>
      match answer.reported with
      | .error errno => .error errno
      | .ok hmmPfns => .ok fun pfn => dmirrorMkentry mdevice (hmmPfns pfn)

/-- `copy_to_user` of the bytes of `n` pages. -/
def storeBytes (perm : Nat → UInt8) (first : Nat) (uptr n : UInt64)
    (user : UInt64 → Option UInt8) : UInt64 → Option UInt8 := fun at_ =>
  if (at_ - uptr).toNat < n.toNat then some (perm (first + (at_ - uptr).toNat))
  else user at_

/-- The body of the loop of `dmirror_snapshot`. -/
def dmirrorSnapshotOne (mdevice : Nat) (answers : Nat → SnapshotAnswer)
    (stop addr : UInt64) (state : SnapshotState) :
    SnapshotState × Except Errno UInt64 :=
  let next := windowEnd addr stop
  let answer := answers state.handed.length
  let handed := state.handed ++ [⟨addr, next⟩]
  match dmirrorRangeSnapshot mdevice answer with
  | .error errno => ({ state with handed := handed }, .error errno)
  | .ok perm =>
      if answer.userCopy then
        let n := (next - addr) >>> pageShift
        ({ handed := handed
           pages := state.pages ++
             (List.range n.toNat).map (pfnOf addr + ·)
           cpages := state.cpages + n
           uptr := state.uptr + n
           user := storeBytes perm (pfnOf addr) state.uptr n state.user },
          .ok next)
      else ({ state with handed := handed }, .error .efault)

/-- The loop of `dmirror_snapshot`. -/
def snapshotLoop (mdevice : Nat) (cmd : HmmDmirrorCmd)
    (env : SweepEnv SnapshotAnswer) : SnapshotState × Outcome Errno :=
  forAddress (dmirrorSnapshotOne mdevice env.answers cmd.stop) cmd.stop
    env.passes cmd.addr ⟨[], [], cmd.cpages, cmd.ptr, fun _ => none⟩

/-- `dmirror_snapshot`; `none` while it has not returned. -/
def dmirrorSnapshot (mdevice : Nat) (cmd : HmmDmirrorCmd)
    (env : SweepEnv SnapshotAnswer) : Option Served :=
  if cmd.stop < cmd.addr then some (.refuse cmd .einval)
  else if env.alive = false then some (.refuse cmd .einval)
  else
    let loop := snapshotLoop mdevice cmd env
    let served (ret : Option Errno) : Served :=
      ⟨ret, { cmd with cpages := loop.1.cpages }, loop.1.pages,
        loop.1.pages.length, loop.1.handed⟩
    match loop.2 with
    | .running => none
    | .left errno => some (served (some errno))
    | .ended => some (served none)

/-- An area that `vma_lookup` finds for an address.  Areas are made of whole
pages, and user addresses have the top bit clear. -/
structure VmArea (addr : UInt64) where
  start : UInt64
  stop : UInt64
  vmRead : Bool
  vmWrite : Bool
  contains : start ≤ addr ∧ addr < stop
  below : stop.toNat ≤ 2 ^ 63
  aligned : stop.toNat % 4096 = 0

/-- `next` of the two migration loops. -/
def migrateNext {addr : UInt64} (vma : VmArea addr) (stop : UInt64) :
    UInt64 :=
  let next := min stop (addr + windowSize)
  if vma.stop < next then vma.stop else next

/-- What one pass of a migration loop meets. -/
structure MigrateAnswer where
  others : XArray → XArray
  vma : (addr : UInt64) → Option (VmArea addr)
  setup : Option Errno
  collected : Nat → Bool
  alloc : Nat → Option (Nat × Nat)
  allocPage : Nat → Option Nat
  migrated : Nat → Bool
  xaFails : Nat → Bool

structure MigrateState (Contents : Type) where
  cpu : Nat → Pte
  mem : Memory Contents
  pt : XArray
  cpages : UInt64
  handed : List Window

/-- One window of `dmirror_migrate_to_device`, after `migrate_vma_setup`. -/
def migrateWindowToDevice [Zero Contents] (mdevice dmirror : Nat)
    (vmWrite : Bool) (answer : MigrateAnswer) (window : Window)
    (state : MigrateState Contents) : MigrateState Contents :=
  let count := window.npages
  let first := pfnOf window.start
  let collected := migrateVmaSetup .selectSystem mdevice answer.collected
    count first state.cpu
  let copied := dmirrorMigrateAllocAndCopy mdevice dmirror vmWrite
    answer.alloc count first (collected.2, state.mem)
  let moved := migrateVmaPages vmWrite answer.migrated count first
    (collected.1, copied.1)
  let mapped := dmirrorMigrateFinalizeAndMap copied.2 moved.2 answer.xaFails
    count first (answer.others state.pt)
  let final := migrateVmaFinalize moved.2 count first (moved.1, copied.2)
  { state with cpu := final.1, mem := final.2, pt := mapped.1 }

def dmirrorSuccessfulMigratedPages (slots : Nat → MigrateSlot)
    (count first : Nat) : Nat :=
  (List.range count).countP fun i =>
    (slots (first + i)).src.page.isSome && (slots (first + i)).src.migrate

/-- One window of `dmirror_migrate_to_system`, after `migrate_vma_setup`. -/
def migrateWindowToSystem (mdevice : Nat) (vmWrite : Bool)
    (answer : MigrateAnswer) (window : Window)
    (state : MigrateState Contents) : MigrateState Contents :=
  let count := window.npages
  let first := pfnOf window.start
  let collected := migrateVmaSetup .selectDevicePrivate mdevice
    answer.collected count first state.cpu
  let copied := dmirrorDevmemFaultAllocAndCopy answer.allocPage count first
    ⟨collected.2, state.mem, answer.others state.pt⟩
  let moved := migrateVmaPages vmWrite answer.migrated count first
    (collected.1, copied.slots)
  let final := migrateVmaFinalize moved.2 count first (moved.1, copied.mem)
  { state with
    cpu := final.1
    mem := final.2
    pt := copied.pt
    cpages := state.cpages +
      UInt64.ofNat (dmirrorSuccessfulMigratedPages moved.2 count first) }

/-- The body of the two migration loops, up to what a window is for. -/
def migrateOne
    (work : Bool → MigrateAnswer → Window → MigrateState Contents →
      MigrateState Contents)
    (answers : Nat → MigrateAnswer) (stop addr : UInt64)
    (state : MigrateState Contents) :
    MigrateState Contents × Except Errno UInt64 :=
  let answer := answers state.handed.length
  match answer.vma addr with
  | none => (state, .error .einval)
  | some vma =>
      if vma.vmRead = false then (state, .error .einval)
      else
        let next := migrateNext vma stop
        let window : Window := ⟨addr, next⟩
        let state := { state with handed := state.handed ++ [window] }
        match answer.setup with
        | some errno => (state, .error errno)
        | none => (work vma.vmWrite answer window state, .ok next)

/-- The loop of the two migrations. -/
def migrateLoop
    (work : Bool → MigrateAnswer → Window → MigrateState Contents →
      MigrateState Contents)
    (cmd : HmmDmirrorCmd) (env : SweepEnv MigrateAnswer)
    (state : MigrateState Contents) :
    MigrateState Contents × Outcome Errno :=
  forAddress (migrateOne work env.answers cmd.stop) cmd.stop env.passes
    cmd.addr state

/-- `dmirror_migrate_to_device`; `none` while it has not returned. -/
def dmirrorMigrateToDevice [Zero Contents] (mdevice dmirror : Nat)
    (cmd : HmmDmirrorCmd) (env : SweepEnv MigrateAnswer)
    (back : ReadBackEnv Contents) (cpu : Nat → Pte) (mem : Memory Contents)
    (pt : XArray) : Option Served :=
  if cmd.stop < cmd.addr then some (.refuse cmd .einval)
  else if env.alive = false then some (.refuse cmd .einval)
  else
    match migrateLoop (migrateWindowToDevice mdevice dmirror) cmd env
        ⟨cpu, mem, pt, cmd.cpages, []⟩ with
    | (_, .running) => none
    | (state, .left errno) => some ⟨some errno, cmd, [], 0, state.handed⟩
    | (state, .ended) => some (readBack cmd back state.pt state.handed)

/-- `dmirror_migrate_to_system`; `none` while it has not returned. -/
def dmirrorMigrateToSystem (mdevice : Nat) (cmd : HmmDmirrorCmd)
    (env : SweepEnv MigrateAnswer) (cpu : Nat → Pte) (mem : Memory Contents)
    (pt : XArray) : Option Served :=
  if cmd.stop < cmd.addr then some (.refuse cmd .einval)
  else if env.alive = false then some (.refuse cmd .einval)
  else
    let served (ret : Option Errno) (state : MigrateState Contents) :
        Served :=
      ⟨ret, { cmd with cpages := state.cpages }, [], 0, state.handed⟩
    match migrateLoop (migrateWindowToSystem mdevice) cmd env
        ⟨cpu, mem, pt, 0, []⟩ with
    | (_, .running) => none
    | (state, .left errno) => some (served (some errno) state)
    | (state, .ended) => some (served none state)

end Rshm.Hmm
