import Mathlib.Data.Finset.Insert
import Mathlib.Logic.Function.Basic
import Rshm.Lib.RangeLoop

/-!
# The UDP client and the shared memory

The client side of `nmsg.c` over the page table of `mem.c`.  Socket calls and
page allocation answer as their environment decides.
-/

namespace Rshm.Mm

/-- `__state_t`. -/
inductive PageState where
  | invalid
  | shared
  | modified
  | exclusive
  deriving DecidableEq, Repr

/-- `__page_t`; a page is named by its frame. -/
structure SharedPage where
  state : PageState
  page : Nat
  deriving DecidableEq, Repr

/-- `memory` and the frames behind it.  `pages` has room for `size` entries;
`overrun` records a write past them. -/
structure Memory (Contents : Type) where
  pages : Nat → SharedPage
  size : Nat
  contents : Nat → Contents
  allocated : Finset Nat
  overrun : Bool

/-- What the environment answers to one pass of the receive loop: the result
of `kernel_recvmsg`, the bytes that `iov_base` then points to, and the frame
`alloc_page` returns. -/
structure Reply (Contents : Type) where
  len : Int
  bytes : Contents
  newPage : Option Nat

/-- The client's side of the sockets: how many were created and released. -/
structure Client (Contents : Type) where
  memory : Memory Contents
  created : Nat
  released : Nat

variable {Contents : Type}

def nmsgInitClient (err : Int) (client : Client Contents) :
    Int × Client Contents :=
  if err < 0 then (err, client)
  else (0, { client with created := client.created + 1 })

def nmsgSendMessage (sent : Int) : Int :=
  if sent < 0 then -1 else 0

def nmsgDestroyClient (client : Client Contents) : Client Contents :=
  { client with released := client.released + 1 }

/-- The body of the receive loop; an exit carries the result `-1`. -/
def retrieveOne (replies : Nat → Reply Contents) (i : Nat)
    (memory : Memory Contents) : Memory Contents × Option Int :=
  let reply := replies i
  if reply.len < 0 then (memory, some (-1))
  else
    match reply.newPage with
    | none => (memory, some (-1))
    | some newPage =>
        ({ memory with
            contents := Function.update memory.contents newPage reply.bytes
            allocated := insert newPage memory.allocated
            pages := Function.update memory.pages i ⟨.shared, newPage⟩
            overrun := memory.overrun || decide (memory.size ≤ i) }, none)

def nmsgRetrievePages (sent : Int) (replies : Nat → Reply Contents)
    (numPages : Int) (memory : Memory Contents) : Int × Memory Contents :=
  if nmsgSendMessage sent < 0 then (-1, memory)
  else
    let received :=
      RangeLoop.forRange (retrieveOne replies) numPages.toNat 0 memory
    (received.2.getD 0, received.1)

theorem nmsgRetrievePages_result (sent : Int) (replies : Nat → Reply Contents)
    (numPages : Int) (memory : Memory Contents) :
    (nmsgRetrievePages sent replies numPages memory).1 = 0 ∨
      (nmsgRetrievePages sent replies numPages memory).1 = -1 := by
  have exits : ∀ i memory exit,
      (retrieveOne replies i memory).2 = some exit → exit = -1 := by
    intro i memory exit exited
    unfold retrieveOne at exited
    dsimp only at exited
    split at exited
    · cases exited
      rfl
    · split at exited <;> cases exited
      rfl
  unfold nmsgRetrievePages
  split
  · exact .inr rfl
  · cases outcome :
      (RangeLoop.forRange (retrieveOne replies) numPages.toNat 0 memory).2 with
    | none => exact .inl (by simp [outcome])
    | some exit =>
        have failed := RangeLoop.forRange_exit exits outcome
        exact .inr (by simp [outcome, failed])

end Rshm.Mm
