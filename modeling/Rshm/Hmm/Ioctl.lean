import Rshm.Hmm.SweepExact

/-!
# The ioctl

`dmirror_fops_unlocked_ioctl` with its guard, and what a return value of 0
says about the request.  The guard compares sums modulo 2^64, and so do all
sub-commands; they agree on the range as long as its size is below 2^64.
-/

namespace Rshm.Hmm

open RangeLoop AddressLoop

variable {Contents : Type}

/-- The commands of the ioctl. -/
inductive Command where
  | read
  | write
  | migrateToDev
  | migrateToSys
  | exclusive
  | checkExclusive
  | snapshot
  | release
  | other
  deriving DecidableEq, Repr

/-- The commands that move a whole range and report its pages. -/
def Command.moves : Command → Bool
  | .read | .write | .migrateToDev | .exclusive | .snapshot => true
  | _ => false

/-- The commands among them that go through windows of their own. -/
def Command.sweeps : Command → Bool
  | .migrateToDev | .exclusive | .snapshot => true
  | _ => false

/-- How much a page is for `cmd.ptr`. -/
def Command.pageBytes : Command → Nat
  | .snapshot => 1
  | _ => 4096

/-- What an ioctl meets. -/
structure IoctlEnv (Contents : Type) where
  privateData : Bool
  copyIn : Bool
  copyOut : Bool
  mdevice : Nat
  dmirror : Nat
  pt : XArray
  cpu : Nat → Pte
  mem : Memory Contents
  transfer : TransferEnv Contents
  exclusive : SweepEnv ExclusiveAnswer
  snapshot : SweepEnv SnapshotAnswer
  migrate : SweepEnv MigrateAnswer
  back : ReadBackEnv Contents

/-- The `switch` of the ioctl; `none` while the command has not returned. -/
def dispatch [Zero Contents] (command : Command) (cmd : HmmDmirrorCmd)
    (env : IoctlEnv Contents) : Option Served :=
  match command with
  | .read => dmirrorRead cmd env.transfer
  | .write => dmirrorWrite cmd env.transfer
  | .migrateToDev =>
      dmirrorMigrateToDevice env.mdevice env.dmirror cmd env.migrate env.back
        env.cpu env.mem env.pt
  | .migrateToSys =>
      dmirrorMigrateToSystem env.mdevice cmd env.migrate env.cpu env.mem
        env.pt
  | .exclusive => dmirrorExclusive cmd env.exclusive env.back env.pt
  | .checkExclusive =>
      some
        ⟨dmirrorCheckAtomic env.pt (pfnOf cmd.stop - pfnOf cmd.addr)
            (pfnOf cmd.addr), cmd, [], 0, []⟩
  | .snapshot => dmirrorSnapshot env.mdevice cmd env.snapshot
  | .release => some ⟨none, cmd, [], 0, []⟩
  | .other => some (.refuse cmd .einval)

/-- How an ioctl ends.  `uarg` is the command that was copied back. -/
structure Reply where
  ret : Option Errno
  uarg : Option HmmDmirrorCmd
  served : Served
  deriving DecidableEq, Repr

/-- `dmirror_fops_unlocked_ioctl`; `none` while it has not returned. -/
def dmirrorFopsUnlockedIoctl [Zero Contents] (command : Command)
    (uarg : HmmDmirrorCmd) (env : IoctlEnv Contents) : Option Reply :=
  let refuse (errno : Errno) : Option Reply :=
    some ⟨some errno, none, .refuse uarg errno⟩
  if env.privateData = false then refuse .einval
  else if env.copyIn = false then refuse .efault
  else if ¬PageAligned uarg.addr then refuse .einval
  else if uarg.addr ≥ uarg.stop then refuse .einval
  else
    let cmd := { uarg with cpages := 0, faults := 0 }
    match dispatch command cmd env with
    | none => none
    | some served =>
        match served.ret with
        | some errno => some ⟨some errno, none, served⟩
        | none =>
            if env.copyOut then some ⟨none, some served.cmd, served⟩
            else some ⟨some .efault, none, served⟩

/-- The whole request was served, read as a range of naturals. -/
structure Served.Whole (command : Command) (cmd : HmmDmirrorCmd)
    (served : Served) : Prop where
  cpages : served.cmd.cpages = cmd.npages
  pages : served.pages =
    (List.range cmd.npages.toNat).map (pfnOf cmd.addr + ·)
  bytes : served.bytes = cmd.npages.toNat * command.pageBytes
  windows : command.sweeps = true →
    Tiling cmd.addr cmd.stop served.windows cmd.stop
  range : cmd.InRange

/-- Every page of a write has been stored: in one iteration its bytes went
through the entry that the mirror had then, and when it was over the page of
the entry had them, unless a later page of the request has the same page. -/
def StoresPages (cmd : HmmDmirrorCmd) (env : TransferEnv Contents) : Prop :=
  ∀ k, k < cmd.npages.toNat → ∃ front turn back before next entry,
    env.turns = front ++ turn :: back ∧
    (transferMachine .write cmd).exec
      (cmd.enter env.userData env.pt env.mem) front = some before ∧
    retryOnce .write cmd before turn = some next ∧
    turn.others before.pt (pfnOf cmd.addr + k) = some entry ∧
    entry.tag = .write ∧
    ((∀ later other, k < later → later < cmd.npages.toNat →
      turn.others before.pt (pfnOf cmd.addr + later) = some other →
      other.page ≠ entry.page) →
      next.mem.contents entry.page =
        env.userData (UInt64.ofNat (4096 * k)))

/-- A return value of 0 means that the whole request was served, and that the
pages of a write were stored. -/
def SuccessIsWhole (Contents : Type) [Zero Contents] (uarg : HmmDmirrorCmd) :
    Prop :=
  ∀ (command : Command) (env : IoctlEnv Contents) reply,
    command.moves = true →
    dmirrorFopsUnlockedIoctl command uarg env = some reply →
    reply.ret = none →
    reply.served.Whole command uarg ∧ reply.uarg = some reply.served.cmd ∧
      (command = .write →
        StoresPages { uarg with cpages := 0, faults := 0 } env.transfer)

section Range

variable {cmd : HmmDmirrorCmd}

theorem HmmDmirrorCmd.Admitted.inRange (admitted : cmd.Admitted)
    (small : cmd.npages.toNat < 2 ^ 52) : cmd.InRange := by
  obtain ⟨-, order⟩ := admitted
  have size := cmd.toNat_size small
  have sum : cmd.stop.toNat = (cmd.addr.toNat + cmd.size.toNat) % 2 ^ 64 :=
    UInt64.toNat_add cmd.addr cmd.size
  rw [UInt64.lt_iff_toNat_lt] at order
  unfold HmmDmirrorCmd.InRange
  omega

end Range

end Rshm.Hmm
