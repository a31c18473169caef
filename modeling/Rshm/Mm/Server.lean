import Mathlib.Data.UInt
import Rshm.Lib.Terminated
import Rshm.Mm.Nmsg

/-!
# The UDP server

The receive loop of `__nmsg_init_server`.  All passes share one receive
buffer; a datagram is written over its start and `nmsg_process_message` copies
the string it then begins with to page 0.
-/

namespace Rshm.Mm

open Terminated

abbrev Bytes := Nat → UInt8

/-- `PAGE_SIZE`. -/
def pageBytes : Nat := 4096

/-- The size passed to `kernel_recvmsg`. -/
def receiveBytes : Nat := 1024

/-- `nmsg_process_message`; `none` where `strcpy` runs over the end of the
receive buffer and of the page. -/
def nmsgProcessMessage (message : Bytes) (memory : Memory Bytes) :
    Option (Memory Bytes) :=
  let page := (memory.pages 0).page
  (copy pageBytes message (memory.contents page)).map fun bytes =>
    { memory with
      contents := Function.update memory.contents page bytes
      pages := Function.update memory.pages 0 ⟨.shared, page⟩ }

/-- `nmsg_server` with the memory it syncs. -/
structure Server where
  buf : Bytes
  memory : Memory Bytes
  running : Bool
  overread : Bool

/-- What a pass of the receive loop gets. -/
inductive Received where
  | datagram (payload : List UInt8)
  | failed
  | stop
  deriving DecidableEq, Repr

/-- One pass of the receive loop. -/
def receivePass (server : Server) : Received → Server
  | .stop => { server with running := false }
  | .failed => { server with running := false }
  | .datagram payload =>
      let buf := store (payload.take receiveBytes) server.buf
      match nmsgProcessMessage buf server.memory with
      | none =>
          { server with
            buf := buf
            running := false
            overread := true }
      | some memory =>
          { server with
            buf := buf
            memory := memory }

/-- The C string in page 0. -/
def Server.string (server : Server) : Option (List UInt8) :=
  read (server.memory.contents (server.memory.pages 0).page) pageBytes

/-- The server when it enters the loop, with whatever the buffer holds. -/
def Server.start (buf : Bytes) (memory : Memory Bytes) : Server :=
  ⟨buf, memory, true, false⟩

/-- Page 0 holds the payload, and nothing has been read or written beyond a
page. -/
def Server.Synced (server : Server) (payload : List UInt8) : Prop :=
  server.overread = false ∧ server.string = some payload

theorem receivePass_copied {server : Server} {payload text : List UInt8}
    (short : text.length < pageBytes)
    (begins : Begins (store (payload.take receiveBytes) server.buf) text) :
    let buf := store (payload.take receiveBytes) server.buf
    let page := (server.memory.pages 0).page
    receivePass server (.datagram payload) =
      { server with
        buf := buf
        memory :=
          { server.memory with
            contents := Function.update server.memory.contents page fun i =>
              if i ≤ text.length then buf i
              else server.memory.contents page i
            pages := Function.update server.memory.pages 0
              ⟨.shared, page⟩ } } := by
  unfold receivePass nmsgProcessMessage
  dsimp only
  rw [copy_of_begins short begins]
  rfl

theorem receivePass_overread {server : Server} {payload : List UInt8}
    (open_ : ∀ text, text.length < pageBytes →
      ¬Begins (store (payload.take receiveBytes) server.buf) text) :
    (receivePass server (.datagram payload)).overread = true := by
  have refused : copy pageBytes
      (store (payload.take receiveBytes) server.buf)
      (server.memory.contents (server.memory.pages 0).page) = none := by
    rw [Option.eq_none_iff_forall_not_mem]
    intro after copied
    obtain ⟨text, short, begins, -⟩ := copy_eq_some_iff.mp copied
    exact open_ text short begins
  unfold receivePass nmsgProcessMessage
  dsimp only
  rw [refused]
  rfl

/-- After a pass page 0 holds the string that the buffer begins with. -/
theorem receivePass_synced_iff {server : Server} {payload text : List UInt8}
    (sound : server.overread = false) :
    (receivePass server (.datagram payload)).Synced text ↔
      text.length < pageBytes ∧
        Begins (store (payload.take receiveBytes) server.buf) text := by
  by_cases ends : ∃ text, text.length < pageBytes ∧
      Begins (store (payload.take receiveBytes) server.buf) text
  · obtain ⟨found, short, begins⟩ := ends
    have page : Begins (fun i =>
        if i ≤ found.length then
          store (payload.take receiveBytes) server.buf i
        else server.memory.contents (server.memory.pages 0).page i) found :=
      begins.congr fun i inside => if_pos inside
    have string : (receivePass server (.datagram payload)).string =
        some found := by
      unfold Server.string
      rw [receivePass_copied short begins]
      dsimp only
      rw [Function.update_self]
      dsimp only
      rw [Function.update_self]
      exact read_eq_some_iff.mpr ⟨short, page⟩
    have kept : (receivePass server (.datagram payload)).overread = false := by
      rw [receivePass_copied short begins]
      exact sound
    unfold Server.Synced
    rw [string]
    constructor
    · rintro ⟨-, same⟩
      obtain rfl := Option.some.inj same
      exact ⟨short, begins⟩
    · rintro ⟨-, begins'⟩
      exact ⟨kept, congrArg some (begins.unique begins')⟩
  · have overrun := receivePass_overread
      fun text short begins => ends ⟨text, short, begins⟩
    constructor
    · rintro ⟨sound', -⟩
      rw [overrun] at sound'
      cases sound'
    · intro found
      exact absurd ⟨text, found⟩ ends

/-- What `nmsg_send_message` sends of a message that is not longer than the
server receives: its bytes without the terminator. -/
structure Sent (payload : List UInt8) : Prop where
  clean : (0 : UInt8) ∉ payload
  some_ : 1 ≤ payload.length
  short : payload.length ≤ 1023

/-- After each pass page 0 holds the payload just received. -/
def EachSynced : Server → List (List UInt8) → Prop
  | _, [] => True
  | server, payload :: payloads =>
      (receivePass server (.datagram payload)).Synced payload ∧
        EachSynced (receivePass server (.datagram payload)) payloads

theorem receivePass_buf (server : Server) (payload : List UInt8) :
    (receivePass server (.datagram payload)).buf =
      store (payload.take receiveBytes) server.buf := by
  unfold receivePass
  dsimp only
  split <;> rfl

theorem receivePass_sent_iff {server : Server} {payload : List UInt8}
    (sound : server.overread = false) (sent : Sent payload) :
    (receivePass server (.datagram payload)).Synced payload ↔
      server.buf payload.length = 0 := by
  have short := sent.short
  have whole : payload.take receiveBytes = payload :=
    List.take_of_length_le (by unfold receiveBytes; omega)
  rw [receivePass_synced_iff sound, whole, begins_store_iff]
  constructor
  · rintro ⟨-, -, stop⟩
    exact stop
  · intro stop
    exact ⟨by unfold pageBytes; omega, sent.clean, stop⟩

/-- Page 0 holds each message after its pass exactly when no message is
shorter than one before it and the buffer had a terminator behind each from
the beginning. -/
theorem eachSynced_iff {server : Server} (sound : server.overread = false)
    (payloads : List (List UInt8))
    (sent : ∀ payload ∈ payloads, Sent payload) :
    EachSynced server payloads ↔
      (payloads.map List.length).Pairwise (· ≤ ·) ∧
        ∀ payload ∈ payloads, server.buf payload.length = 0 := by
  induction payloads generalizing server with
  | nil => simp [EachSynced]
  | cons payload payloads induction =>
      have first := sent payload (List.mem_cons_self)
      have later : ∀ payload ∈ payloads, Sent payload := fun payload member =>
        sent payload (List.mem_cons_of_mem _ member)
      have short := first.short
      have whole : payload.take receiveBytes = payload :=
        List.take_of_length_le (by unfold receiveBytes; omega)
      rw [EachSynced, receivePass_sent_iff sound first, List.map_cons,
        List.pairwise_cons, List.forall_mem_cons]
      -- What a later length finds in the buffer after this pass.
      have found : ∀ length, (receivePass server (.datagram payload)).buf
          length = 0 ↔ payload.length ≤ length ∧ server.buf length = 0 := by
        intro length
        rw [receivePass_buf, whole]
        by_cases inside : length < payload.length
        · have byte : payload[length]? =
              some (store payload server.buf length) := store_inside inside
          constructor
          · intro zero
            rw [zero] at byte
            exact absurd (List.mem_of_getElem? byte) first.clean
          · rintro ⟨outside, -⟩
            omega
        · rw [store_outside (Nat.le_of_not_lt inside)]
          exact ⟨fun zero => ⟨Nat.le_of_not_lt inside, zero⟩, And.right⟩
      constructor
      · rintro ⟨stop, rest⟩
        have synced := (receivePass_sent_iff sound first).mpr stop
        obtain ⟨ordered, stops⟩ := (induction synced.1 later).mp rest
        refine ⟨⟨?_, ordered⟩, stop, ?_⟩
        · intro length member
          obtain ⟨other, member', rfl⟩ := List.mem_map.mp member
          exact ((found _).mp (stops other member')).1
        · intro other member
          exact ((found _).mp (stops other member)).2
      · rintro ⟨⟨longer, ordered⟩, stop, stops⟩
        have synced := (receivePass_sent_iff sound first).mpr stop
        refine ⟨stop, (induction synced.1 later).mpr ⟨ordered, ?_⟩⟩
        intro other member
        exact (found _).mpr
          ⟨longer _ (List.mem_map_of_mem member), stops other member⟩

/-- The shared page always equals the last message: exactly when no message
is shorter than one before it and the buffer that `kmalloc` returned has a
zero at the length of each. -/
theorem page_equals_message_iff (buf : Bytes) (memory : Memory Bytes)
    (payloads : List (List UInt8))
    (sent : ∀ payload ∈ payloads, Sent payload) :
    EachSynced (.start buf memory) payloads ↔
      (payloads.map List.length).Pairwise (· ≤ ·) ∧
        ∀ payload ∈ payloads, buf payload.length = 0 :=
  eachSynced_iff rfl payloads sent

/-- "hi" and then "hello", received into a cleared buffer. -/
theorem page_equals_message_growing :
    EachSynced (.start (fun _ => 0)
        ⟨fun i => ⟨.invalid, i⟩, 250, fun _ _ => 0, ∅, false⟩)
      [[104, 105], [104, 101, 108, 108, 111]] :=
  (page_equals_message_iff _ _ _ (by
    intro payload member
    rcases List.mem_cons.mp member with rfl | member
    · exact ⟨by decide, by decide, by decide⟩
    · obtain rfl := List.mem_singleton.mp member
      exact ⟨by decide, by decide, by decide⟩)).mpr ⟨by decide, fun _ _ => rfl⟩

/-- "hello" and then "hi" leave "hillo" in the page. -/
theorem page_keeps_older_bytes :
    ¬∀ (buf : Bytes) (memory : Memory Bytes) payloads,
      (∀ payload ∈ payloads, Sent payload) →
      EachSynced (.start buf memory) payloads := by
  intro always
  have synced := always (fun _ => 0)
    ⟨fun i => ⟨.invalid, i⟩, 250, fun _ _ => 0, ∅, false⟩
    [[104, 101, 108, 108, 111], [104, 105]] (by
      intro payload member
      rcases List.mem_cons.mp member with rfl | member
      · exact ⟨by decide, by decide, by decide⟩
      · obtain rfl := List.mem_singleton.mp member
        exact ⟨by decide, by decide, by decide⟩)
  have last := synced.2.1.2
  exact absurd last (by decide +kernel)

end Rshm.Mm
