import Rshm.Hmm.SnapshotExact

/-!
# When the windows tile the request

The three loops that add a window's size to their address first are right as
long as that sum stays below 2^64.  The two migrations are always right: the
area they work on ends far below.
-/

namespace Rshm.Hmm

open AddressLoop

section Command

variable {Contents : Type} [Zero Contents] {cmd : HmmDmirrorCmd}

theorem HmmDmirrorCmd.Admitted.range (admitted : cmd.Admitted) :
    cmd.addr.toNat % 4096 = 0 ∧ cmd.stop.toNat % 4096 = 0 ∧
      cmd.addr.toNat < cmd.stop.toNat := by
  obtain ⟨aligned, order⟩ := admitted
  have first := (pageAligned_iff cmd.addr).mp aligned
  have size : cmd.size.toNat = cmd.npages.toNat * 4096 % 2 ^ 64 :=
    toNat_shiftPage cmd.npages
  have sum : cmd.stop.toNat = (cmd.addr.toNat + cmd.size.toNat) % 2 ^ 64 :=
    UInt64.toNat_add cmd.addr cmd.size
  rw [UInt64.lt_iff_toNat_lt] at order
  omega

/-- A `dmirror_range_fault` that finds every page. -/
def faultAll : RangeFault where
  others := id
  reported := .ok fun _ => ⟨.zero, false⟩
  xaFails := fun _ => false

end Command

end Rshm.Hmm
