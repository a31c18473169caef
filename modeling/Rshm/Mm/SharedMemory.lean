import Rshm.Mm.Nmsg
import Mathlib.Data.Finset.Image

/-!
# The shared memory from init to destroy

`memory_init` and `memory_destroy` of `mem.c`.
-/

namespace Rshm.Mm

variable {Contents : Type}

/-- `DIV_ROUND_UP(BUF_LEN, PAGE_SIZE)`. -/
def memorySize : Nat := (1024000 + 4096 - 1) / 4096

/-- `memory_init`, when no allocation fails; `frames` are the pages that
`alloc_page` returns, `contents` is what they hold. -/
def memoryInit (frames : Nat → Nat) (contents : Nat → Contents) :
    Memory Contents where
  pages := fun i => ⟨.invalid, frames i⟩
  size := memorySize
  contents := contents
  allocated := (Finset.range memorySize).image frames
  overrun := false

/-- The pages that `memory_destroy` frees, one for each slot. -/
def memoryDestroy (memory : Memory Contents) : List Nat :=
  (List.range memory.size).map fun i => (memory.pages i).page

end Rshm.Mm
