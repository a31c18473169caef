import Rshm.Rdma.Advertisement

/-!
# What the server posts

The server machine with the work requests that its thread hands to
`ib_post_send`.  `nmsg_run_server` fills in the read request from the fields
that `server_recv` wrote, posts it, and reads the remote key again for the
go-ahead.  Callbacks may run between any two steps.
-/

namespace Rshm.Rdma

open Wire

/-- The fields of `rdma_wr` and `rdma_sge` that a round fills in. -/
structure RdmaWr where
  rkey : UInt32
  remoteAddr : UInt64
  length : UInt32
  lkey : UInt32
  deriving DecidableEq, Repr

/-- `rdmaBuf` is the length of the buffer once there is one, `rkey` the key
of `reg_mr`; `posted` is history. -/
structure Posting where
  server : Server
  messageSize : Int32
  rdmaBuf : Option UInt32
  rdmaDmaAddr : UInt64
  rkey : UInt32
  key : UInt8
  rdmaWr : RdmaWr
  posted : List WorkRequest

namespace Posting

/-- The remote fields, as `server_recv` left them. -/
def remote (posting : Posting) : NmsgData := posting.server.handler.remote

def post (posting : Posting) (ret : Int) (requests : List WorkRequest) :
    Posting :=
  if ret = 0 then { posting with posted := posting.posted ++ requests }
  else posting

/-- The read request filled in, `nmsg_rdma_rkey` of the server included. -/
def fillRead (posting : Posting) (ret : Int) : Posting :=
  let key := posting.key + 1
  let rkey := ibUpdateFastRegKey posting.rkey key
  let filled :=
    { posting with
      key := key
      rkey := rkey
      rdmaWr :=
        { rkey := posting.remote.rkey
          remoteAddr := posting.remote.buf
          length := posting.remote.size
          lkey := rkey } }
  filled.post ret
    [.regMr rkey posting.rdmaDmaAddr posting.messageSize.toUInt32]

/-- The read and the fenced `LOCAL_INV` behind it. -/
def readRequests (posting : Posting) : List WorkRequest :=
  [.rdmaRead posting.rdmaWr.rkey posting.rdmaWr.remoteAddr
      posting.rdmaDmaAddr posting.rdmaWr.length posting.rdmaWr.lkey,
    .localInv posting.rkey]

/-- What a step of the thread does besides moving the thread. -/
def effect (posting : Posting) : ServerInput → Posting
  | .connect _ setup =>
      if posting.server.handler.state = .connectRequest ∧ setup = 0 then
        { posting with rdmaBuf := some posting.messageSize.toUInt32 }
      else posting
  | .rdmaRkey ret => posting.fillRead ret
  | .postRead ret => posting.post ret posting.readRequests
  | .postGoAhead ret => posting.post ret [.sendWithInv posting.remote.rkey]
  | _ => posting

def step (posting : Posting) (input : ServerInput) : Option Posting :=
  (posting.server.step input).map fun server =>
    { posting.effect input with server := server }

end Posting

/-- `nmsg_pre_setup` sets `message_size` to 1024; the results hold for any. -/
def postingMachine : Machine Posting ServerInput where
  Initial := fun posting =>
    posting.server = ⟨.fresh, .connecting⟩ ∧ posting.rdmaBuf = none ∧
      posting.posted = []
  step := Posting.step

namespace Posting

theorem step_some {posting next : Posting} {input : ServerInput}
    (moved : posting.step input = some next) :
    posting.server.step input = some next.server ∧
      next = { posting.effect input with server := next.server } := by
  obtain ⟨server, stepped, rfl⟩ := Option.map_eq_some_iff.mp moved
  exact ⟨stepped, rfl⟩

@[simp] theorem effect_messageSize (posting : Posting) (input : ServerInput) :
    (posting.effect input).messageSize = posting.messageSize := by
  cases input with
  | connect interrupted setup =>
      rw [effect]
      split <;> rfl
  | rdmaRkey ret =>
      rw [effect, fillRead, post]
      split <;> rfl
  | postRead ret =>
      rw [effect, post]
      split <;> rfl
  | postGoAhead ret =>
      rw [effect, post]
      split <;> rfl
  | _ => rfl

end Posting

theorem Server.step_postingRead {server next : Server} {input : ServerInput}
    (moved : server.step input = some next)
    (posting : next.stage = .postingRead) :
    (∃ ret, input = .rdmaRkey ret) ∨
      server.stage = .postingRead ∧ ∃ handlerInput,
        input = .handler handlerInput := by
  cases input with
  | handler handlerInput =>
      obtain ⟨handler, -, rfl⟩ := Option.map_eq_some_iff.mp moved
      exact .inr ⟨posting, handlerInput, rfl⟩
  | rdmaRkey ret => exact .inl ⟨ret, rfl⟩
  | connect interrupted setup =>
      obtain ⟨_, moved⟩ := Option.ite_none_right_eq_some.mp moved
      unfold Server.orLeave at moved
      repeat' split at moved
      all_goals
        cases moved
        cases posting
  | accept ret =>
      obtain ⟨_, moved⟩ := Option.ite_none_right_eq_some.mp moved
      unfold Server.orLeave at moved
      split at moved
      all_goals
        cases moved
        cases posting
  | wake interrupted =>
      simp only [Server.step, Server.wake] at moved
      repeat' split at moved
      all_goals
        cases moved
        try cases posting
  | postRead ret =>
      obtain ⟨_, moved⟩ := Option.ite_none_right_eq_some.mp moved
      unfold Server.orLeave at moved
      split at moved
      all_goals
        cases moved
        cases posting
  | writeConnected =>
      obtain ⟨_, moved⟩ := Option.ite_none_right_eq_some.mp moved
      cases moved
      cases posting
  | postGoAhead ret =>
      obtain ⟨_, moved⟩ := Option.ite_none_right_eq_some.mp moved
      unfold Server.orLeave at moved
      split at moved
      all_goals
        cases moved
        cases posting

theorem Handler.step_remote {side : Side} {handler next : Handler}
    {input : HandlerInput} (moved : handler.step side input = some next)
    (none_ : ∀ wc, input = .poll (some (.ok wc)) → wc.status = .success →
      wc.opcode = .recv → wc.byteLen ≠ NmsgData.sizeof) :
    next.remote = handler.remote := by
  cases input with
  | cmEvent event =>
      cases moved
      unfold nmsgCmaEventHandler
      split
      · rfl
      · split <;> rfl
  | resolveRoute ret =>
      obtain ⟨_, moved⟩ := Option.ite_none_left_eq_some.mp moved
      cases moved
      rfl
  | cqEvent =>
      obtain ⟨_, moved⟩ := Option.ite_none_right_eq_some.mp moved
      cases moved
      unfold nmsgCqEventHandler
      split <;> rfl
  | poll polled =>
      obtain ⟨_, moved⟩ := Option.ite_none_right_eq_some.mp moved
      cases moved
      match polled with
      | none => rfl
      | some (.error _) => rfl
      | some (.ok wc) =>
          simp only [pollCq]
          unfold handleWc
          split
          case h_5 status opcode =>
            rw [if_pos (none_ wc rfl status opcode)]
            rfl
          case h_4 => split <;> rfl
          all_goals rfl
  | recvWrite =>
      rw [Handler.step] at moved
      split at moved
      · cases moved
        rfl
      · cases moved
  | postRecv ret =>
      obtain ⟨_, moved⟩ := Option.ite_none_right_eq_some.mp moved
      split at moved
      all_goals
        cases moved
        rfl

end Rshm.Rdma
