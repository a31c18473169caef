import Rshm.Mm.Requests

/-!
# What a retrieval stores

`nmsg_retrieve_pages` receives with the vector that its own request has left
over: it points to the fourteen characters of the request, so the rest of a
page is not taken from the reply, and nothing compares the number of pages
with that of the slots.
-/

namespace Rshm.Mm

open Terminated

/-- What the environment answers to one pass: the result of `kernel_recvmsg`,
the datagram it received, and the frame of `alloc_page`. -/
structure Exchange where
  len : Int
  payload : List UInt8
  newPage : Option Nat
  deriving DecidableEq, Repr

def Exchange.Fails (exchange : Exchange) : Prop :=
  exchange.len < 0 ∨ exchange.newPage = none

instance (exchange : Exchange) : Decidable exchange.Fails :=
  inferInstanceAs (Decidable (_ ∨ _))

/-- What a call meets: the result of `kernel_sendmsg`, its replies, and the
bytes of the stack behind `request_message` in each pass. -/
structure Exchanges where
  sent : Int
  replies : Nat → Exchange
  stack : Nat → Bytes

/-- `sizeof(request_message)`. -/
def requestSize : Nat := 100

/-- `request_message` as it is initialised. -/
def requestBuffer : Bytes := store requestMessage fun _ => 0

/-- `iov_len` and `iov_base` are those of the request: what `kernel_recvmsg`
receives goes over its characters. -/
def receiveInto (exchange : Exchange) (request : Bytes) : Bytes :=
  if exchange.len < 0 then request
  else store (exchange.payload.take requestMessage.length) request

/-- The `PAGE_SIZE` bytes from `iov_base` on. -/
def receivedData (stack request : Bytes) : Bytes := fun j =>
  if j < requestSize then request j else stack j

/-- One pass of the receive loop with the buffer it receives in. -/
def receivePage (exchanges : Exchanges) (i : Nat)
    (state : Bytes × Memory Bytes) :
    (Bytes × Memory Bytes) × Option Int :=
  let exchange := exchanges.replies i
  let request := receiveInto exchange state.1
  let reply : Reply Bytes :=
    ⟨exchange.len, receivedData (exchanges.stack i) request,
      exchange.newPage⟩
  let retrieved := retrieveOne (fun _ => reply) i state.2
  ((request, retrieved.1), retrieved.2)

/-- `nmsg_retrieve_pages` over the bytes of the datagrams. -/
def nmsgRetrieveData (exchanges : Exchanges) (numPages : Int)
    (memory : Memory Bytes) : Int × Memory Bytes :=
  if nmsgSendMessage exchanges.sent < 0 then (-1, memory)
  else
    let received := RangeLoop.forRange (receivePage exchanges)
      numPages.toNat 0 (requestBuffer, memory)
    (received.2.getD 0, received.1.2)

section Pass

variable {exchanges : Exchanges} {i : Nat} {request : Bytes}
variable {memory : Memory Bytes}

theorem receivePage_fails (fails : (exchanges.replies i).Fails) :
    receivePage exchanges i (request, memory) =
      ((receiveInto (exchanges.replies i) request, memory), some (-1)) := by
  unfold receivePage retrieveOne
  dsimp only
  by_cases lost : (exchanges.replies i).len < 0
  · rw [if_pos lost]
  · rw [if_neg lost, fails.resolve_left lost]

theorem receivePage_stores {newPage : Nat}
    (received : ¬(exchanges.replies i).len < 0)
    (allocated : (exchanges.replies i).newPage = some newPage) :
    receivePage exchanges i (request, memory) =
      ((receiveInto (exchanges.replies i) request,
        { memory with
          contents := Function.update memory.contents newPage
            (receivedData (exchanges.stack i)
              (receiveInto (exchanges.replies i) request))
          allocated := insert newPage memory.allocated
          pages := Function.update memory.pages i ⟨.shared, newPage⟩
          overrun := memory.overrun || decide (memory.size ≤ i) }),
        none) := by
  unfold receivePage retrieveOne
  dsimp only
  rw [if_neg received, allocated]

theorem receivePage_exit_iff (state : Bytes × Memory Bytes) :
    (receivePage exchanges i state).2 = none ↔
      ¬(exchanges.replies i).Fails := by
  obtain ⟨request, memory⟩ := state
  by_cases fails : (exchanges.replies i).Fails
  · rw [receivePage_fails fails]
    simp [fails]
  · unfold Exchange.Fails at fails
    rw [not_or] at fails
    obtain ⟨newPage, allocated⟩ := Option.ne_none_iff_exists'.mp fails.2
    rw [receivePage_stores fails.1 allocated]
    simp [Exchange.Fails, fails]

theorem receiveInto_behind (exchange : Exchange) (request : Bytes) {j : Nat}
    (behind : requestMessage.length ≤ j) :
    receiveInto exchange request j = request j := by
  unfold receiveInto
  split
  · rfl
  · apply store_outside
    rw [List.length_take]
    exact Nat.le_trans (Nat.min_le_left _ _) behind

end Pass

/-- What a page gets behind the first fourteen bytes. -/
def leftover (stack : Bytes) : Bytes := receivedData stack requestBuffer

/-- The frame of a pass that stores. -/
def Exchange.frame (exchange : Exchange) : Nat := exchange.newPage.getD 0

/-- The datagrams are pages, and `alloc_page` never returns a page that is in
use. -/
structure Exchanges.Sound (exchanges : Exchanges) (numPages : Nat) : Prop where
  whole : ∀ i, i < numPages →
    (exchanges.replies i).payload.length = pageBytes
  distinct : ∀ i k page, (exchanges.replies i).newPage = some page →
    (exchanges.replies k).newPage = some page → i = k

/-- The state of the loop after so many passes. -/
structure Retrieved (exchanges : Exchanges) (before : Memory Bytes)
    (done : Nat) (state : Bytes × Memory Bytes) : Prop where
  passed : ∀ k, k < done → ¬(exchanges.replies k).Fails
  request : ∀ j, requestMessage.length ≤ j → state.1 j = requestBuffer j
  pages : ∀ i, state.2.pages i =
    if i < done then ⟨.shared, (exchanges.replies i).frame⟩
    else before.pages i
  contents : ∀ i, i < done → ∀ j,
    state.2.contents (exchanges.replies i).frame j =
      if j < requestMessage.length then
        (exchanges.replies i).payload[j]?.getD 0
      else leftover (exchanges.stack i) j
  size : state.2.size = before.size
  overrun : state.2.overrun =
    (before.overrun || decide (before.size < done))

section Loop

variable {exchanges : Exchanges} {before : Memory Bytes} {numPages : Nat}
variable {done : Nat} {state : Bytes × Memory Bytes}

theorem requestMessage_short : requestMessage.length ≤ pageBytes := by
  decide

theorem receiveInto_front {exchange : Exchange} {request : Bytes} {j : Nat}
    (received : ¬exchange.len < 0)
    (whole : exchange.payload.length = pageBytes)
    (inside : j < requestMessage.length) :
    receiveInto exchange request j = exchange.payload[j]?.getD 0 := by
  have short := requestMessage_short
  have bound : j < (exchange.payload.take requestMessage.length).length := by
    rw [List.length_take]
    omega
  have byte : (exchange.payload.take requestMessage.length)[j]? =
      some (store (exchange.payload.take requestMessage.length) request j) :=
    store_inside bound
  rw [List.getElem?_take_of_lt inside] at byte
  unfold receiveInto
  rw [if_neg received, byte]
  rfl

theorem frame_of_stores {exchange : Exchange} (stores : ¬exchange.Fails) :
    ¬exchange.len < 0 ∧ exchange.newPage = some exchange.frame := by
  unfold Exchange.Fails at stores
  rw [not_or] at stores
  obtain ⟨page, allocated⟩ := Option.ne_none_iff_exists'.mp stores.2
  unfold Exchange.frame
  rw [allocated]
  exact ⟨stores.1, rfl⟩

theorem Retrieved.pass (retrieved : Retrieved exchanges before done state)
    (sound : exchanges.Sound numPages) (inside : done < numPages)
    (stores : ¬(exchanges.replies done).Fails) :
    Retrieved exchanges before (done + 1)
      (receivePage exchanges done state).1 := by
  obtain ⟨request, memory⟩ := state
  obtain ⟨received, allocated⟩ := frame_of_stores stores
  have behind (j : Nat) (behind : requestMessage.length ≤ j) :
      receiveInto (exchanges.replies done) request j = requestBuffer j :=
    (receiveInto_behind _ _ behind).trans (retrieved.request j behind)
  rw [receivePage_stores received allocated]
  constructor
  · intro k earlier
    rcases Nat.lt_succ_iff_lt_or_eq.mp earlier with earlier | rfl
    · exact retrieved.passed k earlier
    · exact stores
  · exact behind
  · intro i
    by_cases here : i = done
    · subst here
      rw [if_pos (Nat.lt_succ_self i)]
      exact Function.update_self ..
    · have other := retrieved.pages i
      have same : i < done + 1 ↔ i < done := by omega
      rw [if_congr same rfl rfl, ← other]
      exact Function.update_of_ne here ..
  · intro i earlier j
    by_cases here : i = done
    · subst here
      have stored : Function.update memory.contents (exchanges.replies i).frame
          (receivedData (exchanges.stack i)
            (receiveInto (exchanges.replies i) request))
          (exchanges.replies i).frame j =
            receivedData (exchanges.stack i)
              (receiveInto (exchanges.replies i) request) j := by
        rw [Function.update_self]
      refine stored.trans ?_
      unfold leftover receivedData
      by_cases front : j < requestMessage.length
      · have short : j < requestSize :=
          Nat.lt_trans front (by decide)
        rw [if_pos front, if_pos short]
        exact receiveInto_front received (sound.whole i inside) front
      · rw [if_neg front]
        congr 1
        exact behind j (Nat.le_of_not_lt front)
    · have earlier' : i < done := by omega
      obtain ⟨-, allocated'⟩ := frame_of_stores (retrieved.passed i earlier')
      have apart : (exchanges.replies i).frame ≠
          (exchanges.replies done).frame := by
        intro same
        rw [same] at allocated'
        exact here (sound.distinct i done _ allocated' allocated)
      have kept : Function.update memory.contents
          (exchanges.replies done).frame
          (receivedData (exchanges.stack done)
            (receiveInto (exchanges.replies done) request))
          (exchanges.replies i).frame =
            memory.contents (exchanges.replies i).frame :=
        Function.update_of_ne apart ..
      exact (congrFun kept j).trans (retrieved.contents i earlier' j)
  · exact retrieved.size
  · have size := retrieved.size
    have overrun := retrieved.overrun
    dsimp only at size overrun ⊢
    rw [overrun, size, Bool.or_assoc, ← Bool.decide_or]
    congr 2
    apply propext
    omega

theorem Retrieved.stop (retrieved : Retrieved exchanges before done state)
    (fails : (exchanges.replies done).Fails) :
    Retrieved exchanges before done
      (receivePage exchanges done state).1 := by
  obtain ⟨request, memory⟩ := state
  rw [receivePage_fails fails]
  refine ⟨retrieved.passed, ?_, retrieved.pages, retrieved.contents,
    retrieved.size, retrieved.overrun⟩
  intro j behind
  exact (receiveInto_behind _ _ behind).trans (retrieved.request j behind)

theorem receiveLoop_retrieved (before : Memory Bytes)
    (sound : exchanges.Sound numPages) :
    let looped := RangeLoop.forRange (receivePage exchanges) numPages 0
      (requestBuffer, before)
    ∃ done, done ≤ numPages ∧ Retrieved exchanges before done looped.1 ∧
      (looped.2 = none ∧ done = numPages ∨
        looped.2 = some (-1) ∧ done < numPages ∧
          (exchanges.replies done).Fails) := by
  intro looped
  have start : Retrieved exchanges before 0 (requestBuffer, before) := by
    refine ⟨?_, fun _ _ => rfl, ?_, ?_, rfl, ?_⟩
    · intro k earlier
      exact absurd earlier (Nat.not_lt_zero k)
    · intro i
      rw [if_neg (Nat.not_lt_zero i)]
    · intro i earlier
      exact absurd earlier (Nat.not_lt_zero i)
    · simp
  obtain ⟨done, bound, retrieved, ended, stopped⟩ :=
    RangeLoop.forRange_outcome (Retrieved exchanges before)
      (receivePage exchanges) numPages 0 (requestBuffer, before) start (by
        intro index state _ upper retrieved
        constructor
        · intro continues
          apply retrieved.pass sound (by omega)
          exact (receivePage_exit_iff state).mp continues
        · intro stops
          apply retrieved.stop
          rw [Ne, receivePage_exit_iff, Classical.not_not] at stops
          exact stops)
  rw [Nat.zero_add] at retrieved
  refine ⟨done, bound, retrieved, ?_⟩
  cases outcome : looped.2 with
  | none => exact .inl ⟨rfl, ended outcome⟩
  | some exit =>
      obtain ⟨inside, state, exited⟩ := stopped exit outcome
      rw [Nat.zero_add] at exited
      have fails : (exchanges.replies done).Fails := by
        by_contra stores
        rw [(receivePage_exit_iff state).mpr stores] at exited
        cases exited
      obtain ⟨request, memory⟩ := state
      rw [receivePage_fails fails] at exited
      exact .inr ⟨exited.symm, inside, fails⟩

end Loop

/-- A retrieval stays within the slots, stores what the replies hold, and
leaves the slots from the reply on at which it fails. -/
structure RetrievesExactly (exchanges : Exchanges) (numPages : Int)
    (memory : Memory Bytes) : Prop where
  inside : (nmsgRetrieveData exchanges numPages memory).2.overrun = false
  exact : (nmsgRetrieveData exchanges numPages memory).1 = 0 →
    ∀ i, i < numPages.toNat →
      let after := (nmsgRetrieveData exchanges numPages memory).2
      (after.pages i).state = .shared ∧ ∀ j, j < pageBytes →
        (exchanges.replies i).payload[j]? =
          some (after.contents (after.pages i).page j)
  frame : ∀ k, (exchanges.sent < 0 ∨
      k < numPages.toNat ∧ (∀ i, i < k → ¬(exchanges.replies i).Fails) ∧
        (exchanges.replies k).Fails) →
    ∀ i, k ≤ i →
      (nmsgRetrieveData exchanges numPages memory).2.pages i =
        memory.pages i

/-- What the replies have to be like: one fails before the slots end, or they
all end before; and if none fails, each holds, behind its first fourteen
bytes, what the retrieval would store without it. -/
structure Exchanges.Fit (exchanges : Exchanges) (numPages size : Nat) :
    Prop where
  slots : ∀ i, i < numPages → size ≤ i →
    ∃ k, k ≤ i ∧ (exchanges.replies k).Fails
  rest : (∀ k, k < numPages → ¬(exchanges.replies k).Fails) →
    ∀ i, i < numPages → ∀ j, requestMessage.length ≤ j → j < pageBytes →
      (exchanges.replies i).payload[j]? =
        some (leftover (exchanges.stack i) j)

/-- A retrieval stores what the server sent if it is lucky with the replies,
and only then. -/
theorem retrieves_exactly_iff (exchanges : Exchanges) (numPages : Int)
    (memory : Memory Bytes) (before : memory.overrun = false)
    (sound : exchanges.Sound numPages.toNat) :
    RetrievesExactly exchanges numPages memory ↔
      (0 ≤ exchanges.sent →
        exchanges.Fit numPages.toNat memory.size) := by
  by_cases unsent : exchanges.sent < 0
  · have eq : nmsgRetrieveData exchanges numPages memory = (-1, memory) := by
      unfold nmsgRetrieveData nmsgSendMessage
      rw [if_pos unsent]
      rfl
    constructor
    · intro _ sent
      omega
    · intro _
      constructor
      · rw [eq]
        exact before
      · rw [eq]
        intro zero
        cases zero
      · rw [eq]
        intro _ _ _ _
        rfl
  · have eq : nmsgRetrieveData exchanges numPages memory =
        ((RangeLoop.forRange (receivePage exchanges) numPages.toNat 0
          (requestBuffer, memory)).2.getD 0,
        (RangeLoop.forRange (receivePage exchanges) numPages.toNat 0
          (requestBuffer, memory)).1.2) := by
      unfold nmsgRetrieveData nmsgSendMessage
      rw [if_neg unsent]
      rfl
    obtain ⟨done, bound, retrieved, outcome⟩ :=
      receiveLoop_retrieved memory sound
    generalize RangeLoop.forRange (receivePage exchanges) numPages.toNat 0
      (requestBuffer, memory) = looped at eq retrieved outcome
    obtain ⟨⟨request, after⟩, exit⟩ := looped
    have finished : (∀ k, k < numPages.toNat →
        ¬(exchanges.replies k).Fails) → exit = none ∧ done = numPages.toNat := by
      intro stores
      rcases outcome with complete | ⟨-, inside, fails⟩
      · exact complete
      · exact absurd fails (stores done inside)
    have overrun : after.overrun = decide (memory.size < done) := by
      have flag := retrieved.overrun
      rw [before, Bool.false_or] at flag
      exact flag
    constructor
    · rintro ⟨inside, exact, frame⟩ _
      rw [eq] at inside exact
      constructor
      · intro i upper lower
        rcases Nat.lt_or_ge i done with stored | rest
        · dsimp only at inside
          rw [overrun, decide_eq_false_iff_not] at inside
          exact absurd (Nat.lt_of_le_of_lt lower stored) inside
        · rcases outcome with ⟨-, all⟩ | ⟨-, -, fails⟩
          · omega
          · exact ⟨done, rest, fails⟩
      · intro stores i upper j behind short
        obtain ⟨rfl, rfl⟩ := finished stores
        obtain ⟨-, bytes⟩ := exact rfl i upper
        have byte := bytes j short
        dsimp only at byte
        rw [retrieved.pages, if_pos upper, retrieved.contents i upper,
          if_neg (Nat.not_lt.mpr behind)] at byte
        exact byte
    · intro fit
      obtain ⟨slots, rest⟩ := fit (Int.not_lt.mp unsent)
      constructor
      · rw [eq]
        dsimp only
        rw [overrun, decide_eq_false_iff_not]
        intro past
        obtain ⟨k, early, fails⟩ := slots memory.size (by omega)
          (Nat.le_refl _)
        exact retrieved.passed k (by omega) fails
      · rw [eq]
        intro zero i upper
        have complete : exit = none ∧ done = numPages.toNat := by
          rcases outcome with complete | ⟨stopped, -⟩
          · exact complete
          · dsimp only at zero stopped
            rw [stopped] at zero
            cases zero
        obtain ⟨rfl, rfl⟩ := complete
        dsimp only
        rw [retrieved.pages, if_pos upper]
        refine ⟨rfl, ?_⟩
        intro j short
        rw [retrieved.contents i upper]
        by_cases front : j < requestMessage.length
        · have bound : j < (exchanges.replies i).payload.length := by
            rw [sound.whole i upper]
            exact short
          rw [if_pos front, List.getElem?_eq_getElem bound,
            Option.getD_some]
        · rw [if_neg front]
          exact rest retrieved.passed i upper j (Nat.le_of_not_lt front) short
      · rw [eq]
        rintro k (lost | ⟨upper, stores, fails⟩) i later
        · exact absurd lost unsent
        · have same : done = k := by
            rcases Nat.lt_trichotomy done k with less | same | greater
            · rcases outcome with ⟨-, all⟩ | ⟨-, -, failed⟩
              · omega
              · exact absurd failed (stores done less)
            · exact same
            · exact absurd fails (retrieved.passed k greater)
          dsimp only
          rw [retrieved.pages, if_neg (by omega)]

/-- A memory of two slots. -/
private def twoSlots : Memory Bytes :=
  ⟨fun i => ⟨.invalid, i⟩, 2, fun _ _ => 0, {0, 1}, false⟩

/-- Replies that are pages filled with one byte. -/
private def filledWith (byte : UInt8) : Exchanges :=
  ⟨14, fun i => ⟨4096, List.replicate pageBytes byte, some (i + 2)⟩,
    fun _ _ => 0⟩

private theorem filledWith_sound (byte : UInt8) (numPages : Nat) :
    (filledWith byte).Sound numPages := by
  constructor
  · intro i _
    exact List.length_replicate
  · intro i k page here there
    have same : i + 2 = k + 2 :=
      Option.some.inj (here.trans there.symm)
    omega

/-- A page of zero bytes arrives. -/
theorem retrieves_exactly_zeros :
    RetrievesExactly (filledWith 0) 1 twoSlots := by
  apply (retrieves_exactly_iff (filledWith 0) 1 twoSlots rfl
    (filledWith_sound 0 _)).mpr
  intro _
  constructor
  · intro i upper lower
    have bound : i < 1 := upper
    have size : 2 ≤ i := lower
    omega
  · intro _ i _ j behind short
    have byte : (List.replicate pageBytes (0 : UInt8))[j]? = some 0 :=
      List.getElem?_replicate_of_lt short
    have zero : requestBuffer j = 0 := store_outside behind
    refine byte.trans (congrArg some ?_)
    unfold leftover receivedData
    rw [zero]
    split
    · rfl
    · rfl

/-- A page of another byte does not. -/
theorem retrieved_page_truncated :
    ¬∀ exchanges numPages (memory : Memory Bytes), memory.overrun = false →
      exchanges.Sound numPages.toNat →
        RetrievesExactly exchanges numPages memory := by
  intro claim
  have exact := (claim (filledWith 1) 1 twoSlots rfl
    (filledWith_sound 1 _)).exact rfl 0 (by decide)
  have byte := exact.2 14 (by decide)
  exact absurd byte (by decide +kernel)

end Rshm.Mm
