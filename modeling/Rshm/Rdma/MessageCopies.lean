import Mathlib.Data.UInt
import Rshm.Lib.Terminated

/-!
# The copies of a message

On its way to the server a message is copied three times: `nmsg_start` copies
the command with `strcpy` into a buffer of `strlen(command)` bytes,
`nmsg_start_client` copies `message_size` bytes of that into `start_buf`, and
the server reads `message_size` bytes of it over RDMA.
-/

namespace Rshm.Rdma

open Terminated

/-- Memory from the start of a buffer on, and behind its end. -/
abbrev BufferBytes := Nat → UInt8

inductive Buffer where
  | command
  | message
  | startBuf
  deriving DecidableEq, Repr

/-- Some bytes from the start of a buffer on are read or written. -/
structure Access where
  buffer : Buffer
  count : Nat
  deriving DecidableEq, Repr

/-- What the calls of `nmsg_send_message` return; `registered` says that
`make_message` does not set the state to `ERROR`. -/
structure SendVerbs where
  kmalloc : Bool
  registered : Bool
  postSend : Int
  deriving DecidableEq, Repr

/-- The client's buffers; `size` is what has been allocated for each.  The
accesses and whether the advertisement is posted are history. -/
structure MessageBuffers where
  message : BufferBytes
  startBuf : BufferBytes
  size : Buffer → Nat
  accesses : List Access
  posted : Bool

namespace MessageBuffers

/-- `memcpy(cb->start_buf, cb->message, cb->message_size)` and what follows it
in `nmsg_start_client`. -/
def nmsgStartClient (verbs : SendVerbs) (messageSize : Nat)
    (buffers : MessageBuffers) : Int × MessageBuffers :=
  let buffers :=
    { buffers with
      startBuf := fun i =>
        if i < messageSize then buffers.message i else buffers.startBuf i
      accesses := buffers.accesses ++
        [⟨.message, messageSize⟩, ⟨.startBuf, messageSize⟩] }
  if verbs.registered then
    if verbs.postSend ≠ 0 then (verbs.postSend, buffers)
    else (0, { buffers with posted := true })
  else (-1, buffers)

/-- The size of the command, and what is allocated for the others. -/
def sizes (verbs : SendVerbs) (messageSize : Nat) (command : List UInt8) :
    Buffer → Nat
  | .command => command.length + 1
  | .message => if verbs.kmalloc then command.length else 0
  | .startBuf => messageSize

/-- `strcpy(cb->message, command)`, which copies the terminator as well.  The
buffer that `kmalloc` returns holds the bytes of the heap. -/
def copyCommand (verbs : SendVerbs) (messageSize : Nat)
    (command : List UInt8) (heap startBuf : BufferBytes) :
    MessageBuffers where
  message := store (command ++ [0]) heap
  startBuf := startBuf
  size := sizes verbs messageSize command
  accesses :=
    [⟨.command, command.length + 1⟩, ⟨.message, command.length + 1⟩]
  posted := false

/-- `nmsg_start`, called by `nmsg_send_message`. -/
def nmsgStart (verbs : SendVerbs) (messageSize : Nat) (command : List UInt8)
    (heap startBuf : BufferBytes) : Int × MessageBuffers :=
  (copyCommand verbs messageSize command heap startBuf).nmsgStartClient verbs
    messageSize

/-- All accesses have been inside their buffers. -/
def InBounds (buffers : MessageBuffers) : Prop :=
  ∀ access ∈ buffers.accesses, access.count ≤ buffers.size access.buffer

end MessageBuffers

def rdmaRead (messageSize : Nat) (startBuf rdmaBuf : BufferBytes) :
    BufferBytes := fun i =>
  if i < messageSize then startBuf i else rdmaBuf i

open MessageBuffers

variable {verbs : SendVerbs} {messageSize : Nat} {command : List UInt8}
variable {heap startBuf rdmaBuf : BufferBytes}

theorem nmsgStartClient_copies (verbs : SendVerbs) (messageSize : Nat)
    (buffers : MessageBuffers) :
    let after := (buffers.nmsgStartClient verbs messageSize).2
    after.accesses = buffers.accesses ++
        [⟨.message, messageSize⟩, ⟨.startBuf, messageSize⟩] ∧
      after.size = buffers.size ∧
      after.startBuf = fun i =>
        if i < messageSize then buffers.message i else buffers.startBuf i := by
  unfold nmsgStartClient
  dsimp only
  split
  · split
    · exact ⟨rfl, rfl, rfl⟩
    · exact ⟨rfl, rfl, rfl⟩
  · exact ⟨rfl, rfl, rfl⟩

/-- `strcpy` writes one byte more than there are in the buffer. -/
theorem nmsgStart_not_inBounds (verbs : SendVerbs) (messageSize : Nat)
    (command : List UInt8) (heap startBuf : BufferBytes) :
    ¬(nmsgStart verbs messageSize command heap startBuf).2.InBounds := by
  intro inBounds
  obtain ⟨accesses, size, -⟩ := nmsgStartClient_copies verbs messageSize
    (copyCommand verbs messageSize command heap startBuf)
  have written : (⟨.message, command.length + 1⟩ : Access) ∈
      (nmsgStart verbs messageSize command heap startBuf).2.accesses := by
    unfold nmsgStart
    rw [accesses]
    exact List.mem_append_left _ (List.mem_cons_of_mem _ List.mem_cons_self)
  have inside := inBounds _ written
  unfold nmsgStart at inside
  rw [size] at inside
  have allocated : sizes verbs messageSize command .message ≤
      command.length := by
    unfold sizes
    dsimp only
    split
    · exact Nat.le_refl _
    · exact Nat.zero_le _
  exact Nat.not_succ_le_self _ (Nat.le_trans inside allocated)

theorem rdmaRead_nmsgStart {i : Nat} (inside : i < messageSize) :
    rdmaRead messageSize
        (nmsgStart verbs messageSize command heap startBuf).2.startBuf
        rdmaBuf i =
      store (command ++ [0]) heap i := by
  obtain ⟨-, -, copied⟩ := nmsgStartClient_copies verbs messageSize
    (copyCommand verbs messageSize command heap startBuf)
  unfold rdmaRead nmsgStart
  rw [if_pos inside, copied]
  exact if_pos inside

theorem store_terminated {i : Nat} (inside : i < command.length + 1) :
    (command ++ [0])[i]? = some (store (command ++ [0]) heap i) := by
  apply store_inside
  rw [List.length_append, List.length_singleton]
  exact inside

/-- The string arrives with its terminator if it is shorter than a
message. -/
theorem message_arrives (clean : (0 : UInt8) ∉ command)
    (short : command.length < messageSize) :
    Begins (rdmaRead messageSize
      (nmsgStart verbs messageSize command heap startBuf).2.startBuf rdmaBuf)
      command := by
  refine ⟨?_, clean, ?_⟩
  · intro i inside
    rw [rdmaRead_nmsgStart (by omega), ← store_terminated (by omega),
      List.getElem?_append_left inside]
  · have stop : (command ++ [0])[command.length]? =
        some (store (command ++ [0]) heap command.length) :=
      store_terminated (Nat.lt_succ_self _)
    rw [List.getElem?_append_right (Nat.le_refl _), Nat.sub_self] at stop
    rw [rdmaRead_nmsgStart short]
    exact (Option.some.inj stop).symm

theorem message_unterminated (clean : (0 : UInt8) ∉ command)
    (long : messageSize ≤ command.length) {i : Nat}
    (inside : i < messageSize) :
    rdmaRead messageSize
      (nmsgStart verbs messageSize command heap startBuf).2.startBuf rdmaBuf
      i ≠ 0 := by
  have byte : (command ++ [0])[i]? = some (store (command ++ [0]) heap i) :=
    store_terminated (by omega)
  rw [List.getElem?_append_left (by omega)] at byte
  rw [rdmaRead_nmsgStart inside]
  intro zero
  rw [zero] at byte
  exact clean (List.mem_of_getElem? byte)

/-- The length of the message does not matter for whether it is sent. -/
theorem nmsgStart_posted (verbs : SendVerbs) (messageSize : Nat)
    (command : List UInt8) (heap startBuf : BufferBytes) :
    (nmsgStart verbs messageSize command heap startBuf).2.posted = true ↔
      verbs.registered = true ∧ verbs.postSend = 0 := by
  unfold nmsgStart nmsgStartClient
  dsimp only
  by_cases registered : verbs.registered
  · rw [if_pos registered]
    by_cases sent : verbs.postSend = 0
    · simp [registered, sent]
    · rw [if_pos sent]
      simp [copyCommand, sent]
  · rw [if_neg registered]
    simp [copyCommand, registered]

/-- A message that fits with its terminator is copied inside the buffers and
arrives; one that does not fit is not sent. -/
structure MessageSafe (messageSize : Nat) (command : List UInt8) : Prop where
  inBounds : command.length < messageSize → ∀ verbs heap startBuf,
    (nmsgStart verbs messageSize command heap startBuf).2.InBounds
  arrives : command.length < messageSize → ∀ verbs heap startBuf rdmaBuf,
    (nmsgStart verbs messageSize command heap startBuf).2.posted = true →
      Begins (rdmaRead messageSize
        (nmsgStart verbs messageSize command heap startBuf).2.startBuf
        rdmaBuf) command
  refused : messageSize ≤ command.length → ∀ verbs heap startBuf,
    (nmsgStart verbs messageSize command heap startBuf).2.posted ≠ true

/-- The first copy of a message is never inside its buffer, and no message is
refused for its length. -/
theorem message_never_safe (messageSize : Nat) (command : List UInt8)
    (clean : (0 : UInt8) ∉ command) :
    ¬MessageSafe messageSize command ∧
      (∀ verbs heap startBuf,
        ¬(nmsgStart verbs messageSize command heap startBuf).2.InBounds) ∧
      (messageSize ≤ command.length → ∀ verbs heap startBuf rdmaBuf,
        verbs.registered = true → verbs.postSend = 0 →
          (nmsgStart verbs messageSize command heap startBuf).2.posted =
              true ∧
            ∀ i, i < messageSize → rdmaRead messageSize
              (nmsgStart verbs messageSize command heap startBuf).2.startBuf
              rdmaBuf i ≠ 0) := by
  refine ⟨?_, fun verbs => nmsgStart_not_inBounds verbs messageSize command,
    ?_⟩
  · intro safe
    rcases Nat.lt_or_ge command.length messageSize with short | long
    · exact nmsgStart_not_inBounds ⟨true, true, 0⟩ messageSize command
        (fun _ => 0) (fun _ => 0) (safe.inBounds short _ _ _)
    · apply safe.refused long ⟨true, true, 0⟩ (fun _ => 0) (fun _ => 0)
      exact (nmsgStart_posted _ _ _ _ _).mpr ⟨rfl, rfl⟩
  · intro long verbs heap startBuf rdmaBuf registered sent
    refine ⟨(nmsgStart_posted _ _ _ _ _).mpr ⟨registered, sent⟩, ?_⟩
    intro i inside
    exact message_unterminated clean long inside

/-- The message `"page"`. -/
theorem message_never_safe_page :
    ¬MessageSafe 1024 [112, 97, 103, 101] :=
  (message_never_safe 1024 [112, 97, 103, 101] (by decide)).1

/-- Four bytes are allocated for it, and five are written. -/
theorem message_overruns_page :
    ¬∀ messageSize command, (0 : UInt8) ∉ command →
      MessageSafe messageSize command := by
  intro claim
  have safe := claim 1024 [112, 97, 103, 101] (by decide)
  have inBounds := safe.inBounds (by decide) ⟨true, true, 0⟩ (fun _ => 0)
    (fun _ => 0)
  have written := inBounds ⟨.message, 5⟩ (by decide)
  exact absurd written (by decide)

end Rshm.Rdma
