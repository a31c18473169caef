import Rshm.Rdma.Posting

/-!
# The read that answers an advertisement

The server posts its read with the length the peer advertised.  Nothing
between `server_recv` and `ib_post_send` compares it with `message_size`, the
length of the buffer and of the registered region.  What an advertisement
names, the read and the go-ahead of its round name too.
-/

namespace Rshm.Rdma

open Wire

def WorkRequest.readLength : WorkRequest → Option UInt32
  | .rdmaRead _ _ _ length _ => some length
  | _ => none

def WorkRequest.regionLength : WorkRequest → Option UInt32
  | .regMr _ _ length => some length
  | _ => none

/-- A completed receive of a whole `struct nmsg_data`, with what
`server_recv` decodes from the buffer. -/
def Wc.received (order : ByteOrder) (bytes : NmsgBytes) : Wc :=
  ⟨.success, .recv, NmsgData.sizeof, NmsgData.decode order bytes⟩

/-- A read and a go-ahead that name what was advertised. -/
def WorkRequest.Names (data : NmsgData) : WorkRequest → Prop
  | .rdmaRead rkey remoteAddr _ length _ =>
      rkey = data.rkey ∧ remoteAddr = data.buf ∧ length = data.size
  | .sendWithInv invalidateRkey => invalidateRkey = data.rkey
  | _ => True

namespace Posting

/-- Every read fits in the buffer and in the region. -/
def ReadsWithin (posting : Posting) : Prop :=
  ∀ request ∈ posting.posted, ∀ length, request.readLength = some length →
    length ≤ posting.messageSize.toUInt32

/-- The buffer and every region registered for it are of `message_size`. -/
structure Sized (posting : Posting) : Prop where
  buffer : ∀ length, posting.rdmaBuf = some length →
    length = posting.messageSize.toUInt32
  regions : ∀ request ∈ posting.posted, ∀ length,
    request.regionLength = some length →
      length = posting.messageSize.toUInt32

/-- The thread fills in a request only for what the buffer holds. -/
def FillsWithin (posting : Posting) (input : ServerInput) : Prop :=
  (∃ ret, input = .rdmaRkey ret) →
    posting.remote.size ≤ posting.messageSize.toUInt32

def Callbacks (_ : Posting) (input : ServerInput) : Prop :=
  ∃ handlerInput, input = .handler handlerInput

/-- The read that the thread is about to fill in and post fits, whatever the
callbacks do until it is posted. -/
def NextReadWithin (posting : Posting) : Prop :=
  ∀ ret filled callbacks ready last,
    posting.step (.rdmaRkey ret) = some filled →
    postingMachine.Run Callbacks filled callbacks ready →
    ready.step (.postRead 0) = some last →
    ∀ request ∈ last.posted.drop ready.posted.length, ∀ length,
      request.readLength = some length →
        length ≤ posting.messageSize.toUInt32

theorem post_posted (posting : Posting) (ret : Int)
    (requests : List WorkRequest) :
    ∃ new, (posting.post ret requests).posted = posting.posted ++ new ∧
      ∀ request ∈ new, request ∈ requests := by
  unfold post
  split
  · exact ⟨requests, rfl, fun _ member => member⟩
  · exact ⟨[], by simp, by simp⟩

/-- A request that a step of the thread posts. -/
def Posts (posting : Posting) (input : ServerInput)
    (request : WorkRequest) : Prop :=
  (∃ ret, input = .rdmaRkey ret ∧ request = .regMr
    (ibUpdateFastRegKey posting.rkey (posting.key + 1)) posting.rdmaDmaAddr
    posting.messageSize.toUInt32) ∨
  (∃ ret, input = .postRead ret ∧ request ∈ posting.readRequests) ∨
  ∃ ret, input = .postGoAhead ret ∧
    request = .sendWithInv posting.remote.rkey

theorem step_posted {posting next : Posting} {input : ServerInput}
    (moved : posting.step input = some next) :
    ∃ new, next.posted = posting.posted ++ new ∧
      ∀ request ∈ new, posting.Posts input request := by
  rw [(step_some moved).2]
  cases input with
  | connect interrupted setup =>
      refine ⟨[], ?_, by simp⟩
      simp only [effect, List.append_nil]
      split <;> rfl
  | rdmaRkey ret =>
      obtain ⟨new, grown, posted⟩ := post_posted _ ret
        [.regMr (ibUpdateFastRegKey posting.rkey (posting.key + 1))
          posting.rdmaDmaAddr posting.messageSize.toUInt32]
      refine ⟨new, grown, ?_⟩
      intro request member
      exact .inl ⟨ret, rfl, List.mem_singleton.mp (posted request member)⟩
  | postRead ret =>
      obtain ⟨new, grown, posted⟩ := posting.post_posted ret
        posting.readRequests
      refine ⟨new, grown, ?_⟩
      intro request member
      exact .inr (.inl ⟨ret, rfl, posted request member⟩)
  | postGoAhead ret =>
      obtain ⟨new, grown, posted⟩ := posting.post_posted ret
        [.sendWithInv posting.remote.rkey]
      refine ⟨new, grown, ?_⟩
      intro request member
      exact .inr (.inr
        ⟨ret, rfl, List.mem_singleton.mp (posted request member)⟩)
  | _ => exact ⟨[], (List.append_nil _).symm, by simp⟩

theorem step_postRead {posting next : Posting} {ret : Int}
    (moved : posting.step (.postRead ret) = some next) :
    posting.server.stage = .postingRead := by
  obtain ⟨stage, _⟩ := Option.ite_none_right_eq_some.mp (step_some moved).1
  exact stage

theorem readRequests_length {posting : Posting} {request : WorkRequest}
    {length : UInt32} (member : request ∈ posting.readRequests)
    (reads : request.readLength = some length) :
    length = posting.rdmaWr.length := by
  simp only [readRequests, List.mem_cons, List.not_mem_nil, or_false] at member
  rcases member with rfl | rfl
  · exact (Option.some.inj reads).symm
  · cases reads

theorem postRead_posted {posting next : Posting}
    (moved : posting.step (.postRead 0) = some next) :
    next.posted.drop posting.posted.length = posting.readRequests := by
  rw [(step_some moved).2]
  simp [effect, post]

theorem callbacks_effect {posting last : Posting} {inputs : List ServerInput}
    (run : postingMachine.Run Callbacks posting inputs last) :
    last.rdmaWr = posting.rdmaWr := by
  apply run.preserves fun other => other.rdmaWr = posting.rdmaWr
  · rintro other input next same ⟨handlerInput, rfl⟩ moved
    rw [(step_some moved).2]
    exact same
  · rfl

theorem rdmaRkey_filled {posting next : Posting} {ret : Int}
    (moved : posting.step (.rdmaRkey ret) = some next) :
    next.rdmaWr =
      { rkey := posting.remote.rkey
        remoteAddr := posting.remote.buf
        length := posting.remote.size
        lkey := ibUpdateFastRegKey posting.rkey (posting.key + 1) } := by
  rw [(step_some moved).2]
  simp only [effect, fillRead, post]
  split <;> rfl

theorem step_rdmaWr {posting next : Posting} {input : ServerInput}
    (moved : posting.step input = some next)
    (other : ∀ ret, input ≠ .rdmaRkey ret) : next.rdmaWr = posting.rdmaWr := by
  rw [(step_some moved).2]
  cases input with
  | connect interrupted setup =>
      simp only [effect]
      split <;> rfl
  | rdmaRkey ret => exact absurd rfl (other ret)
  | postRead ret =>
      simp only [effect, post]
      split <;> rfl
  | postGoAhead ret =>
      simp only [effect, post]
      split <;> rfl
  | _ => rfl

theorem rdmaRkey_moves {posting : Posting} (ret : Int)
    (filling : posting.server.stage = .registering) :
    ∃ next, posting.step (.rdmaRkey ret) = some next ∧
      next.server.stage = .postingRead := by
  obtain ⟨server, stepped, stage⟩ : ∃ server,
      posting.server.step (.rdmaRkey ret) = some server ∧
        server.stage = .postingRead := by
    simp only [Server.step, filling, if_true]
    split <;> exact ⟨_, rfl, rfl⟩
  rw [step, stepped]
  exact ⟨_, rfl, stage⟩

theorem postRead_moves {posting : Posting} (ret : Int)
    (ready : posting.server.stage = .postingRead) :
    ∃ next, posting.step (.postRead ret) = some next := by
  simp only [step, Server.step, ready, if_true]
  exact ⟨_, rfl⟩

theorem nextReadWithin_iff {posting : Posting}
    (filling : posting.server.stage = .registering) :
    posting.NextReadWithin ↔
      posting.remote.size ≤ posting.messageSize.toUInt32 := by
  constructor
  · intro within
    obtain ⟨filled, fills, ready⟩ := rdmaRkey_moves 0 filling
    obtain ⟨last, posts⟩ := postRead_moves 0 ready
    have length := congrArg RdmaWr.length (rdmaRkey_filled fills)
    dsimp only at length
    rw [← length]
    apply within 0 filled [] filled last fills (.nil filled) posts
      (.rdmaRead filled.rdmaWr.rkey filled.rdmaWr.remoteAddr
        filled.rdmaDmaAddr filled.rdmaWr.length filled.rdmaWr.lkey)
    · rw [postRead_posted posts]
      exact List.mem_cons_self
    · rfl
  · intro fits ret filled callbacks ready last fills run posts request member
      length reads
    rw [postRead_posted posts] at member
    rw [readRequests_length member reads, callbacks_effect run,
      rdmaRkey_filled fills]
    exact fits

/-- What a run keeps whose requests are all filled in for what the buffer
holds. -/
structure Bounded (posting : Posting) : Prop where
  reads : posting.ReadsWithin
  ready : posting.server.stage = .postingRead →
    posting.rdmaWr.length ≤ posting.messageSize.toUInt32

theorem step_messageSize {posting next : Posting} {input : ServerInput}
    (moved : posting.step input = some next) :
    next.messageSize = posting.messageSize := by
  rw [(step_some moved).2]
  exact effect_messageSize posting input

theorem step_bounded {posting next : Posting} {input : ServerInput}
    (bounded : posting.Bounded) (fills : posting.FillsWithin input)
    (moved : posting.step input = some next) : next.Bounded := by
  constructor
  · intro request member length reads
    obtain ⟨new, grown, posts⟩ := step_posted moved
    rw [step_messageSize moved]
    rw [grown, List.mem_append] at member
    rcases member with old | late
    · exact bounded.reads request old length reads
    · rcases posts request late with ⟨ret, -, rfl⟩ | ⟨ret, rfl, read⟩ |
        ⟨ret, -, rfl⟩
      · cases reads
      · rw [readRequests_length read reads]
        exact bounded.ready (step_postRead moved)
      · cases reads
  · intro ready
    rw [step_messageSize moved]
    rcases Server.step_postingRead (step_some moved).1 ready with
      ⟨ret, rfl⟩ | ⟨stage, handlerInput, rfl⟩
    · rw [rdmaRkey_filled moved]
      exact fills ⟨ret, rfl⟩
    · rw [step_rdmaWr moved (by simp)]
      exact bounded.ready stage

theorem bounded_invariant :
    postingMachine.Invariant FillsWithin Bounded := by
  constructor
  · rintro posting ⟨server, -, posted⟩
    refine ⟨?_, ?_⟩
    · intro request member
      rw [posted] at member
      cases member
    · intro ready
      rw [server] at ready
      cases ready
  · intro posting input next bounded fills moved
    exact step_bounded bounded fills moved

theorem effect_rdmaBuf (posting : Posting) (input : ServerInput) :
    (posting.effect input).rdmaBuf = posting.rdmaBuf ∨
      (posting.effect input).rdmaBuf =
        some posting.messageSize.toUInt32 := by
  cases input with
  | connect interrupted setup =>
      simp only [effect]
      split
      · exact .inr rfl
      · exact .inl rfl
  | rdmaRkey ret =>
      left
      simp only [effect, fillRead, post]
      split <;> rfl
  | postRead ret =>
      left
      simp only [effect, post]
      split <;> rfl
  | postGoAhead ret =>
      left
      simp only [effect, post]
      split <;> rfl
  | _ => exact .inl rfl

theorem sized_invariant : postingMachine.Invariant Machine.anyInput Sized := by
  constructor
  · rintro posting ⟨-, buffer, posted⟩
    refine ⟨?_, ?_⟩
    · intro length found
      rw [buffer] at found
      cases found
    · intro request member
      rw [posted] at member
      cases member
  · intro posting input next sized _ moved
    refine ⟨?_, ?_⟩
    · intro length found
      rw [step_messageSize moved]
      rw [(step_some moved).2] at found
      rcases effect_rdmaBuf posting input with same | allocated
      · exact sized.buffer length (same ▸ found)
      · exact Option.some.inj (found.symm.trans allocated)
    · intro request member length region
      obtain ⟨new, grown, posts⟩ := step_posted moved
      rw [step_messageSize moved]
      rw [grown, List.mem_append] at member
      rcases member with old | late
      · exact sized.regions request old length region
      · rcases posts request late with ⟨ret, -, rfl⟩ | ⟨ret, -, read⟩ |
          ⟨ret, -, rfl⟩
        · exact (Option.some.inj region).symm
        · simp only [readRequests, List.mem_cons, List.not_mem_nil,
            or_false] at read
          rcases read with rfl | rfl <;> cases region
        · cases region

/-- The next read fits the buffer exactly if the advertised size does, and in
a run in which it does whenever the thread fills in a request, every read
fits. -/
theorem read_length_iff (posting : Posting) (order : ByteOrder)
    (bytes : NmsgBytes) :
    (posting.server.stage = .registering →
      posting.remote = NmsgData.decode order bytes →
      (posting.NextReadWithin ↔
        (NmsgData.decode order bytes).size ≤
          posting.messageSize.toUInt32)) ∧
    (postingMachine.Reaches FillsWithin posting → posting.ReadsWithin) ∧
    (postingMachine.Reachable posting → posting.Sized) := by
  refine ⟨?_, ?_, ?_⟩
  · intro filling decoded
    rw [← decoded]
    exact nextReadWithin_iff filling
  · intro reached
    exact (bounded_invariant.reaches reached).reads
  · intro reached
    exact sized_invariant.reaches reached

/-- A server before its first connection. -/
def fresh (messageSize : Int32) : Posting where
  server := ⟨.fresh, .connecting⟩
  messageSize := messageSize
  rdmaBuf := none
  rdmaDmaAddr := 0x1000
  rkey := 0x100
  key := 0
  rdmaWr := ⟨0, 0, 0, 0⟩
  posted := []

/-- What arrives when a peer advertises a size. -/
def advertises (size : UInt32) : NmsgBytes :=
  NmsgData.encode .little ⟨0x2000, 0x200, size⟩ fun _ => 0

/-- One round up to the post of the read. -/
def readInputs (wc : Wc) : List ServerInput :=
  [.handler (.cmEvent .connectRequest), .connect false 0, .accept 0,
    .handler .cqEvent, .handler (.poll (some (.ok wc))), .handler .recvWrite,
    .handler (.postRecv 0), .wake false, .wake false, .rdmaRkey 0,
    .postRead 0]

theorem read_length_exact :
    ({ fresh 1024 with
        server := ⟨{ Handler.fresh with
          remote := NmsgData.decode .little (advertises 1024) },
          .registering⟩ } : Posting).NextReadWithin ↔
      (NmsgData.decode .little (advertises 1024)).size ≤
        (1024 : Int32).toUInt32 :=
  (read_length_iff
    { fresh 1024 with
      server := ⟨{ Handler.fresh with
        remote := NmsgData.decode .little (advertises 1024) },
        .registering⟩ } .little (advertises 1024)).1 rfl rfl

/-- A peer that advertises 2048 bytes makes the server read as many. -/
theorem read_length_exceeded :
    ¬∀ posting, postingMachine.Reachable posting → posting.ReadsWithin := by
  intro within
  obtain ⟨posting, reached, long⟩ := postingMachine.reachable_of_test
    (readInputs (.received .little (advertises 2048)))
    (fun posting => posting.messageSize == 1024 &&
      posting.posted.any fun request => request.readLength == some 2048)
    (⟨rfl, rfl, rfl⟩ : postingMachine.Initial (fresh 1024))
    (by decide +kernel)
  simp only [Bool.and_eq_true, beq_iff_eq, List.any_eq_true] at long
  obtain ⟨size, request, member, length⟩ := long
  have bound := within posting reached request member 2048 length
  rw [size] at bound
  exact absurd bound (by decide)

def NoAdvert (_ : Posting) (input : ServerInput) : Prop :=
  ∀ wc, input = .handler (.poll (some (.ok wc))) → wc.status = .success →
    wc.opcode = .recv → wc.byteLen ≠ NmsgData.sizeof

/-- The round of an advertisement: a request that is filled in was filled in
from it, and so was all that has been posted since. -/
structure RoundOf (data : NmsgData) (before : List WorkRequest)
    (posting : Posting) : Prop where
  remote : posting.remote = data
  ready : posting.server.stage = .postingRead →
    posting.rdmaWr.rkey = data.rkey ∧ posting.rdmaWr.remoteAddr = data.buf ∧
      posting.rdmaWr.length = data.size
  names : ∃ since, posting.posted = before ++ since ∧
    ∀ request ∈ since, request.Names data

theorem step_remote {posting next : Posting} {input : ServerInput}
    (quiet : posting.NoAdvert input) (moved : posting.step input = some next) :
    next.remote = posting.remote := by
  have stepped := (step_some moved).1
  cases input with
  | handler handlerInput =>
      obtain ⟨handler, ran, same⟩ := Option.map_eq_some_iff.mp stepped
      rw [remote, ← same]
      apply Handler.step_remote ran
      intro wc polled
      exact quiet wc (by rw [polled])
  | _ =>
      rcases Server.thread_handler stepped (by simp) with same | failed |
        ⟨-, connected⟩
      · rw [remote, same]
        rfl
      · rw [remote, failed]
        rfl
      · rw [remote, connected]
        rfl

theorem RoundOf.posts {posting next : Posting} {input : ServerInput}
    {data : NmsgData} {before : List WorkRequest} {request : WorkRequest}
    (round : RoundOf data before posting)
    (moved : posting.step input = some next)
    (posts : posting.Posts input request) : request.Names data := by
  rcases posts with ⟨ret, -, rfl⟩ | ⟨ret, rfl, read⟩ | ⟨ret, -, rfl⟩
  · trivial
  · simp only [readRequests, List.mem_cons, List.not_mem_nil,
      or_false] at read
    rcases read with rfl | rfl
    · exact round.ready (step_postRead moved)
    · trivial
  · rw [round.remote]
    rfl

theorem step_roundOf {posting next : Posting} {input : ServerInput}
    {data : NmsgData} {before : List WorkRequest}
    (round : RoundOf data before posting) (quiet : posting.NoAdvert input)
    (moved : posting.step input = some next) : RoundOf data before next := by
  refine ⟨(step_remote quiet moved).trans round.remote, ?_, ?_⟩
  · intro ready
    rcases Server.step_postingRead (step_some moved).1 ready with
      ⟨ret, rfl⟩ | ⟨stage, handlerInput, rfl⟩
    · rw [rdmaRkey_filled moved, round.remote]
      exact ⟨rfl, rfl, rfl⟩
    · rw [step_rdmaWr moved (by simp)]
      exact round.ready stage
  · obtain ⟨since, posted, names⟩ := round.names
    obtain ⟨new, grown, posts⟩ := step_posted moved
    refine ⟨since ++ new, ?_, ?_⟩
    · rw [grown, posted, List.append_assoc]
    · intro request member
      rcases List.mem_append.mp member with old | late
      · exact names request old
      · exact round.posts moved (posts request late)

/-- `server_recv` opens the round of what it decodes. -/
theorem received_roundOf {posting next : Posting} {order : ByteOrder}
    {bytes : NmsgBytes} (unfilled : posting.server.stage ≠ .postingRead)
    (moved : posting.step
      (.handler (.poll (some (.ok (.received order bytes))))) = some next) :
    RoundOf (NmsgData.decode order bytes) posting.posted next := by
  obtain ⟨handler, ran, same⟩ :=
    Option.map_eq_some_iff.mp (step_some moved).1
  obtain ⟨_, ran⟩ := Option.ite_none_right_eq_some.mp ran
  refine ⟨?_, ?_, [], ?_, by simp⟩
  · rw [remote, ← same, ← Option.some.inj ran]
    rfl
  · intro ready
    rw [← same] at ready
    exact absurd ready unfilled
  · rw [(step_some moved).2, List.append_nil]
    rfl

theorem run_roundOf {posting last : Posting} {inputs : List ServerInput}
    {data : NmsgData} {before : List WorkRequest}
    (round : RoundOf data before posting)
    (run : postingMachine.Run NoAdvert posting inputs last) :
    RoundOf data before last :=
  run.preserves (RoundOf data before)
    (fun _ _ _ round quiet moved => step_roundOf round quiet moved) round

/-- All that the server posts in the round of an advertisement names it. -/
def PostsNaming (order : ByteOrder) (bytes : NmsgBytes) (data : NmsgData) :
    Prop :=
  ∀ (posting received last : Posting) (inputs : List ServerInput),
    posting.server.stage ≠ .postingRead →
    posting.step (.handler (.poll (some (.ok (.received order bytes))))) =
      some received →
    postingMachine.Run NoAdvert received inputs last →
    ∃ since, last.posted = posting.posted ++ since ∧
      ∀ request ∈ since, request.Names data

/-- An advertisement arrives as `make_message` built it, the server reads and
invalidates what it names, and the next one has another key. -/
theorem advertised_round (client : Advertising)
    (clientOrder serverOrder : ByteOrder) (buf : UInt64)
    (size : 0 ≤ client.messageSize) :
    let sent := client.makeMessage clientOrder buf
    (∀ recvBuf : NmsgBytes,
      (∀ i, i < NmsgData.sizeof → recvBuf i = sent.sendBuf i) →
      let data := NmsgData.decode serverOrder recvBuf
      data.buf = buf ∧ data.rkey = sent.rkey ∧
        (data.size.toNat : Int) = client.messageSize.toInt ∧
        sent.posted = client.posted ++ [.regMr data.rkey buf data.size] ∧
        PostsNaming serverOrder recvBuf data) ∧
    ∀ nextOrder nextBuf,
      (sent.makeMessage nextOrder nextBuf).rkey ≠ sent.rkey := by
  intro sent
  constructor
  · intro recvBuf arrived data
    have decoded : data = ⟨buf, sent.rkey, client.messageSize.toUInt32⟩ :=
      client.decode_makeMessage clientOrder serverOrder buf arrived
    refine ⟨?_, ?_, ?_, ?_, ?_⟩
    · rw [decoded]
    · rw [decoded]
    · rw [decoded, Int32.toInt_eq_toNatClampNeg size,
        ← Int32.toNat_toUInt32_of_le size]
    · rw [decoded]
      rfl
    · intro posting received last inputs unfilled moved run
      exact (run_roundOf (received_roundOf unfilled moved) run).names
  · intro nextOrder nextBuf
    exact ibUpdateFastRegKey_next client.rkey sent.rkey (client.key + 1)

/-- The same as `NoAdvert`, to be evaluated. -/
private def isNoAdvert (_ : Posting) : ServerInput → Bool
  | .handler (.poll (some (.ok wc))) =>
      decide (wc.status = .success → wc.opcode = .recv →
        wc.byteLen ≠ NmsgData.sizeof)
  | _ => true

private theorem isNoAdvert_noAdvert (posting : Posting) (input : ServerInput)
    (admitted : isNoAdvert posting input = true) : posting.NoAdvert input := by
  intro wc same
  subst same
  exact of_decide_eq_true admitted

/-- The server up to the receive of the first advertisement. -/
private def listens : List ServerInput :=
  [.handler (.cmEvent .connectRequest), .connect false 0, .accept 0,
    .handler .cqEvent]

/-- The read is posted and completes, and the go-ahead is posted. -/
private def answers : List ServerInput :=
  [.handler .recvWrite, .handler (.postRecv 0), .wake false, .wake false,
    .rdmaRkey 0, .postRead 0,
    .handler (.poll (some (.ok ⟨.success, .rdmaRead, 0, ⟨0, 0, 0⟩⟩))),
    .wake false, .writeConnected, .postGoAhead 0]

/-- A big-endian client whose counter wraps. -/
private def wrapping : Advertising := ⟨1024, fun _ => 0xff, 0x1ff, 0xff, []⟩

private def wrapped : Advertising :=
  wrapping.makeMessage .big 0x1122334455667788

/-- The server posts the region, the read and the go-ahead. -/
private def answered (posting last : Posting) : Bool :=
  last.posted == posting.posted ++
    [.regMr 0x101 0x1000 1024,
      .rdmaRead 0x100 0x1122334455667788 0x1000 1024 0x101, .localInv 0x101,
      .sendWithInv 0x100]

private theorem wrapped_answered :
    ∃ posting received last : Posting,
      posting.server.stage ≠ .postingRead ∧
      posting.step
        (.handler (.poll (some (.ok (.received .little wrapped.sendBuf))))) =
          some received ∧
      postingMachine.Run NoAdvert received answers last ∧
      answered posting last = true := by
  have executed : (postingMachine.exec (fresh 1024) listens).any
      (fun posting => decide (posting.server.stage ≠ .postingRead) &&
        (posting.step (.handler (.poll (some (.ok
          (.received .little wrapped.sendBuf)))))).any fun received =>
            (postingMachine.execIf isNoAdvert received answers).any
              (answered posting)) = true := by
    decide +kernel
  obtain ⟨posting, -, passed⟩ := (Option.any_eq_true _ _).mp executed
  obtain ⟨unfilled, passed⟩ := Bool.and_eq_true_iff.mp passed
  obtain ⟨received, moved, passed⟩ := (Option.any_eq_true _ _).mp passed
  obtain ⟨last, ran, same⟩ := (Option.any_eq_true _ _).mp passed
  exact ⟨posting, received, last, of_decide_eq_true unfilled, moved,
    Machine.run_of_execIf isNoAdvert_noAdvert ran, same⟩

/-- A big-endian client whose counter wraps and a little-endian server, which
posts the read and the go-ahead. -/
theorem advertised_round_wraps :
    let client : Advertising := ⟨1024, fun _ => 0xff, 0x1ff, 0xff, []⟩
    let sent := client.makeMessage .big 0x1122334455667788
    let data : NmsgData := ⟨0x1122334455667788, 0x100, 1024⟩
    NmsgData.decode .little sent.sendBuf = data ∧
      PostsNaming .little sent.sendBuf data ∧
      ∃ (posting received last : Posting) (inputs : List ServerInput),
        posting.step
          (.handler (.poll (some (.ok (.received .little sent.sendBuf))))) =
            some received ∧
        postingMachine.Run NoAdvert received inputs last ∧
        ∃ since, last.posted = posting.posted ++ since ∧
          (∀ request ∈ since, request.Names data) ∧
          since =
            [.regMr 0x101 0x1000 1024,
              .rdmaRead 0x100 0x1122334455667788 0x1000 1024 0x101,
              .localInv 0x101, .sendWithInv 0x100] := by
  intro client sent data
  have round := (advertised_round client .big .little 0x1122334455667788
    (by decide)).1 sent.sendBuf fun _ _ => rfl
  have decoded : NmsgData.decode .little sent.sendBuf = data := by
    decide +kernel
  have posts : PostsNaming .little sent.sendBuf data := by
    rw [← decoded]
    exact round.2.2.2.2
  obtain ⟨posting, received, last, unfilled, moved, run, same⟩ :=
    wrapped_answered
  obtain ⟨since, posted, names⟩ :=
    posts posting received last answers unfilled moved run
  refine ⟨decoded, posts, posting, received, last, answers, moved, run, since,
    posted, names, ?_⟩
  rw [answered, beq_iff_eq, posted] at same
  exact List.append_cancel_left same

end Posting

end Rshm.Rdma
