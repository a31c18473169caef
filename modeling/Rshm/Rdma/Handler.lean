import Rshm.Lib.Machine

/-!
# The state word of an RDMA endpoint

`nmsg_rdma_client.c` and `nmsg_rdma_server.c` carry one state word in their
handler.  Three contexts write it without a lock: the connection manager's
callback, the completion callback and the endpoint's own thread or callers.
Every read and every write of the word is a step of its own here.
-/

namespace Rshm.Rdma

/-- `enum nmsg_state`, in the order of its values. -/
inductive NmsgState where
  | idle
  | connectRequest
  | addrResolved
  | routeResolved
  | connected
  | rdmaReadAdv
  | rdmaReadComplete
  | rdmaWriteAdv
  | rdmaWriteComplete
  | error
  deriving DecidableEq, Repr

def NmsgState.value : NmsgState → Nat
  | idle => 1
  | connectRequest => 2
  | addrResolved => 3
  | routeResolved => 4
  | connected => 5
  | rdmaReadAdv => 6
  | rdmaReadComplete => 7
  | rdmaWriteAdv => 8
  | rdmaWriteComplete => 9
  | error => 10

/-- The events `nmsg_cma_event_handler` distinguishes; `other` is its
`default` branch. -/
inductive CmEvent where
  | addrResolved
  | routeResolved
  | connectRequest
  | established
  | addrError
  | routeError
  | connectError
  | unreachable
  | rejected
  | disconnected
  | deviceRemoval
  | other
  deriving DecidableEq, Repr

inductive WcStatus where
  | success
  | flushErr
  | failed (status : Nat)
  deriving DecidableEq, Repr

inductive WcOpcode where
  | send
  | rdmaRead
  | recv
  | other
  deriving DecidableEq, Repr

/-- `struct nmsg_data`, as far as either side fills or reads it. -/
structure NmsgData where
  buf : UInt64
  rkey : UInt32
  size : UInt32
  deriving DecidableEq, Repr

def NmsgData.sizeof : Nat := 56

structure NmsgStats where
  sendBytes : Nat
  sendMsgs : Nat
  recvBytes : Nat
  recvMsgs : Nat
  deriving DecidableEq, Repr

def NmsgStats.countSend (stats : NmsgStats) : NmsgStats :=
  { stats with
    sendBytes := stats.sendBytes + NmsgData.sizeof
    sendMsgs := stats.sendMsgs + 1 }

def NmsgStats.countRecv (stats : NmsgStats) : NmsgStats :=
  { stats with
    recvBytes := stats.recvBytes + NmsgData.sizeof
    recvMsgs := stats.recvMsgs + 1 }

/-- A work completion; `recvBuf` is what a receive left in `recv_buf`. -/
structure Wc where
  status : WcStatus
  opcode : WcOpcode
  byteLen : Nat
  recvBuf : NmsgData
  deriving DecidableEq, Repr

/-- What `client_recv` makes of the state word. -/
def clientRecv (state : NmsgState) : NmsgState :=
  if state = .rdmaReadAdv then .rdmaWriteAdv else .rdmaWriteComplete

/-- What `server_recv` makes of the state word. -/
def serverRecv (state : NmsgState) : NmsgState :=
  if state.value ≤ NmsgState.connected.value ∨ state = .rdmaWriteComplete then
    .rdmaReadAdv
  else .rdmaWriteAdv

/-- Where the two copies of the handlers differ. -/
structure Side where
  established : Option NmsgState
  handlesRdmaRead : Bool
  recv : NmsgState → NmsgState

def clientSide : Side :=
  { established := some .connected
    handlesRdmaRead := false
    recv := clientRecv }

/-- The server's `ESTABLISHED` branch only wakes the waiter. -/
def serverSide : Side :=
  { established := none
    handlesRdmaRead := true
    recv := serverRecv }

/-- Where a running completion callback stands. -/
inductive CqStage where
  | idle
  | polling
  | received (state : NmsgState)
  | posting
  deriving DecidableEq, Repr

/-- The part of `struct nmsg_client_handler` and `struct nmsg_server_handler`
that the callbacks touch.  `resolving` counts the `rdma_resolve_route` calls
that have not returned; `failed` records that a handler has seen a failure. -/
structure Handler where
  state : NmsgState
  stats : NmsgStats
  remote : NmsgData
  resolving : Nat
  cq : CqStage
  failed : Bool
  deriving DecidableEq, Repr

/-- A handler as `nmsg_pre_start` leaves it. -/
def Handler.fresh : Handler :=
  { state := .idle
    stats := ⟨0, 0, 0, 0⟩
    remote := ⟨0, 0, 0⟩
    resolving := 0
    cq := .idle
    failed := false }

namespace Handler

def setState (handler : Handler) (state : NmsgState) : Handler :=
  { handler with state := state }

/-- The `error:` label of the completion callback and the failure branches
of the event handler. -/
def fail (handler : Handler) : Handler :=
  { handler with state := .error, cq := .idle, failed := true }

end Handler

/-- The state an event writes, for the events that are no failure. -/
def Side.advance (side : Side) : CmEvent → Option NmsgState
  | .addrResolved => some .addrResolved
  | .routeResolved => some .routeResolved
  | .connectRequest => some .connectRequest
  | .established => side.established
  | _ => none

def CmEvent.isFailure : CmEvent → Bool
  | addrError | routeError | connectError | unreachable | rejected => true
  | disconnected | deviceRemoval => true
  | _ => false

/-- `nmsg_cma_event_handler`, up to the return of `rdma_resolve_route`. -/
def nmsgCmaEventHandler (side : Side) (event : CmEvent) (handler : Handler) :
    Handler :=
  if event.isFailure then
    { handler with state := .error, failed := true }
  else
    match side.advance event with
    | some state =>
        { handler with
          state := state
          resolving := if event = .addrResolved then handler.resolving + 1
            else handler.resolving }
    | none => handler

/-- The rest of the `ADDR_RESOLVED` branch: a failing `rdma_resolve_route`
is logged and the waiters are woken, nothing more. -/
def resolveRouteReturns (ret : Int) (handler : Handler) : Handler :=
  { handler with
    resolving := handler.resolving - 1
    failed := handler.failed || ret ≠ 0 }

/-- The guard at the entry of `nmsg_cq_event_handler`. -/
def nmsgCqEventHandler (handler : Handler) : Handler :=
  if handler.state = .error then handler
  else { handler with cq := .polling }

/-- What the loop body does with a completion, up to the write of the state
word that a receive leads to. -/
def handleWc (side : Side) (wc : Wc) (handler : Handler) : Handler :=
  match wc.status, wc.opcode with
  | .flushErr, _ => handler
  | .failed _, _ => handler.fail
  | .success, .send => { handler with stats := handler.stats.countSend }
  | .success, .rdmaRead =>
      if side.handlesRdmaRead then
        { handler with
          stats := handler.stats.countRecv
          state := .rdmaReadComplete }
      else handler.fail
  | .success, .recv =>
      if wc.byteLen ≠ NmsgData.sizeof then handler.fail
      else
        { handler with
          remote := wc.recvBuf
          cq := .received (side.recv handler.state) }
  | .success, .other => handler.fail

/-- One `ib_poll_cq`: `none` is an empty queue, `some (.error _)` a poll
error. -/
def pollCq (side : Side) (polled : Option (Except Int Wc))
    (handler : Handler) : Handler :=
  match polled with
  | none => { handler with cq := .idle }
  | some (.error _) => handler.fail
  | some (.ok wc) => handleWc side wc handler

inductive HandlerInput where
  | cmEvent (event : CmEvent)
  | resolveRoute (ret : Int)
  | cqEvent
  | poll (polled : Option (Except Int Wc))
  | recvWrite
  | postRecv (ret : Int)

/-- One step of the two callbacks.  The connection manager and the
completion queue run concurrently; a completion callback is not entered
again while it runs. -/
def Handler.step (side : Side) (handler : Handler) :
    HandlerInput → Option Handler
  | .cmEvent event => some (nmsgCmaEventHandler side event handler)
  | .resolveRoute ret =>
      if handler.resolving = 0 then none
      else some (resolveRouteReturns ret handler)
  | .cqEvent =>
      if handler.cq = .idle then some (nmsgCqEventHandler handler) else none
  | .poll polled =>
      if handler.cq = .polling then some (pollCq side polled handler)
      else none
  | .recvWrite =>
      match handler.cq with
      | .received state => some { handler with state := state, cq := .posting }
      | _ => none
  | .postRecv ret =>
      if handler.cq = .posting then
        if ret ≠ 0 then some handler.fail
        else some { handler with cq := .polling }
      else none

/-- The inputs that leave a recorded failure in place: no route resolution
fails, and no branch that writes the state word without looking at it runs
on a word that says `ERROR`. -/
def Handler.Quiet (side : Side) (handler : Handler) : HandlerInput → Prop
  | .cmEvent event =>
      (side.advance event).isSome = true → handler.state ≠ .error
  | .resolveRoute ret => ret ≠ 0 → handler.state = .error
  | .poll (some (.ok wc)) =>
      wc.status = .success → wc.opcode = .rdmaRead →
        side.handlesRdmaRead = true → handler.state ≠ .error
  | .recvWrite => handler.state ≠ .error
  | _ => True

instance (side : Side) (handler : Handler) :
    (input : HandlerInput) → Decidable (handler.Quiet side input)
  | .cmEvent _ => inferInstanceAs (Decidable (_ = true → _ ≠ _))
  | .resolveRoute _ => inferInstanceAs (Decidable (_ ≠ _ → _ = _))
  | .poll none => inferInstanceAs (Decidable True)
  | .poll (some (.error _)) => inferInstanceAs (Decidable True)
  | .poll (some (.ok _)) =>
      inferInstanceAs (Decidable (_ = _ → _ = _ → _ = true → _ ≠ _))
  | .recvWrite => inferInstanceAs (Decidable (_ ≠ _))
  | .cqEvent => inferInstanceAs (Decidable True)
  | .postRecv _ => inferInstanceAs (Decidable True)

/-- What a step may do to the record of failures: enter `ERROR`, or leave
the failures as they are and an `ERROR` standing. -/
def Handler.KeepsError (handler next : Handler) : Prop :=
  next.state = .error ∨
    (next.failed = handler.failed ∧ handler.state ≠ .error)

namespace Handler

variable {side : Side} {handler next : Handler}

@[simp] theorem fail_state : handler.fail.state = .error := rfl

theorem keepsError_of_state (same : next.state = handler.state)
    (unfailed : next.failed = handler.failed) : handler.KeepsError next := by
  by_cases error : handler.state = .error
  · exact .inl (same.trans error)
  · exact .inr ⟨unfailed, error⟩

theorem cmaEventHandler_keepsError (event : CmEvent)
    (quiet : handler.Quiet side (.cmEvent event)) :
    handler.KeepsError (nmsgCmaEventHandler side event handler) := by
  unfold nmsgCmaEventHandler
  split
  · exact .inl rfl
  · split
    · next state advanced =>
        exact .inr ⟨rfl, quiet (by rw [advanced]; rfl)⟩
    · exact keepsError_of_state rfl rfl

theorem resolveRoute_keepsError (ret : Int)
    (quiet : handler.Quiet side (.resolveRoute ret)) :
    handler.KeepsError (resolveRouteReturns ret handler) := by
  by_cases resolved : ret = 0
  · apply keepsError_of_state
    · rfl
    · simp [resolveRouteReturns, resolved]
  · exact .inl (quiet resolved)

theorem handleWc_keepsError (wc : Wc)
    (quiet : handler.Quiet side (.poll (some (.ok wc)))) :
    handler.KeepsError (handleWc side wc handler) := by
  unfold handleWc
  split
  case h_1 => exact keepsError_of_state rfl rfl
  case h_2 => exact .inl rfl
  case h_3 => exact keepsError_of_state rfl rfl
  case h_4 status opcode =>
    split
    · next handled => exact .inr ⟨rfl, quiet status opcode handled⟩
    · exact .inl rfl
  case h_5 =>
    split
    · exact .inl rfl
    · exact keepsError_of_state rfl rfl
  case h_6 => exact .inl rfl

theorem pollCq_keepsError (polled : Option (Except Int Wc))
    (quiet : handler.Quiet side (.poll polled)) :
    handler.KeepsError (pollCq side polled handler) := by
  match polled with
  | none => exact keepsError_of_state rfl rfl
  | some (.error _) => exact .inl rfl
  | some (.ok wc) => exact handleWc_keepsError wc quiet

theorem step_keepsError {input : HandlerInput}
    (quiet : handler.Quiet side input)
    (moved : handler.step side input = some next) :
    handler.KeepsError next := by
  cases input with
  | cmEvent event =>
      cases moved
      exact cmaEventHandler_keepsError event quiet
  | resolveRoute ret =>
      obtain ⟨_, moved⟩ := Option.ite_none_left_eq_some.mp moved
      cases moved
      exact resolveRoute_keepsError ret quiet
  | cqEvent =>
      obtain ⟨_, moved⟩ := Option.ite_none_right_eq_some.mp moved
      cases moved
      unfold nmsgCqEventHandler
      split <;> exact keepsError_of_state rfl rfl
  | poll polled =>
      obtain ⟨_, moved⟩ := Option.ite_none_right_eq_some.mp moved
      cases moved
      exact pollCq_keepsError polled quiet
  | recvWrite =>
      rw [Handler.step] at moved
      split at moved
      · cases moved
        exact .inr ⟨rfl, quiet⟩
      · cases moved
  | postRecv ret =>
      obtain ⟨_, moved⟩ := Option.ite_none_right_eq_some.mp moved
      split at moved
      · cases moved
        exact .inl rfl
      · cases moved
        exact keepsError_of_state rfl rfl

end Handler

end Rshm.Rdma
