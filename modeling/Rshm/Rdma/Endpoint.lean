import Mathlib.Logic.Function.Basic
import Rshm.Rdma.Handler

/-!
# The two endpoints as machines

The callbacks of `Rshm.Rdma.Handler` run beside `nmsg_start_client`, entered
by any number of callers, and beside the server thread.  `ERROR` is meant to
be final; the last theorem says in which runs it is.
-/

namespace Rshm.Rdma

/-- Where a caller stands in `nmsg_start_client`. -/
inductive CallerStage where
  | idle
  | copying
  | registering
  | checking
  | posting
  | returned (ret : Int)
  deriving DecidableEq, Repr

structure Client where
  handler : Handler
  callers : Nat → CallerStage

inductive ClientInput where
  | handler (input : HandlerInput)
  | startClient (caller : Nat)
  | copyMessage (caller : Nat)
  | rdmaRkey (caller : Nat) (ret : Int)
  | checkState (caller : Nat)
  | postSend (caller : Nat) (ret : Int)

def Client.setCaller (client : Client) (caller : Nat) (stage : CallerStage) :
    Client :=
  { client with callers := Function.update client.callers caller stage }

def Client.setState (client : Client) (state : NmsgState) : Client :=
  { client with handler := client.handler.setState state }

/-- Whether a caller may enter `nmsg_start_client`. -/
def CallerStage.outside : CallerStage → Bool
  | idle => true
  | returned _ => true
  | _ => false

/-- `nmsg_start_client` writes `RDMA_READ_ADV` before it looks at anything;
`nmsg_rdma_rkey` writes `ERROR` when its post fails. -/
def Client.step (client : Client) : ClientInput → Option Client
  | .handler input =>
      (client.handler.step clientSide input).map fun handler =>
        { client with handler := handler }
  | .startClient caller =>
      if (client.callers caller).outside then
        some ((client.setState .rdmaReadAdv).setCaller caller .copying)
      else none
  | .copyMessage caller =>
      if client.callers caller = .copying then
        some (client.setCaller caller .registering)
      else none
  | .rdmaRkey caller ret =>
      if client.callers caller = .registering then
        if ret ≠ 0 then
          some ((client.setState .error).setCaller caller .checking)
        else some (client.setCaller caller .checking)
      else none
  | .checkState caller =>
      if client.callers caller = .checking then
        if client.handler.state = .error then
          some (client.setCaller caller (.returned (-1)))
        else some (client.setCaller caller .posting)
      else none
  | .postSend caller ret =>
      if client.callers caller = .posting then
        some (client.setCaller caller (.returned ret))
      else none

def clientMachine : Machine Client ClientInput :=
  { Initial := fun client => client = ⟨.fresh, fun _ => .idle⟩
    step := Client.step }

/-- The client's inputs that leave a recorded failure in place. -/
def Client.Quiet (client : Client) : ClientInput → Prop
  | .handler input => client.handler.Quiet clientSide input
  | .startClient _ => client.handler.state ≠ .error
  | _ => True

instance (client : Client) :
    (input : ClientInput) → Decidable (client.Quiet input)
  | .handler input =>
      inferInstanceAs (Decidable (client.handler.Quiet clientSide input))
  | .startClient _ => inferInstanceAs (Decidable (_ ≠ _))
  | .copyMessage _ => inferInstanceAs (Decidable True)
  | .rdmaRkey _ _ => inferInstanceAs (Decidable True)
  | .checkState _ => inferInstanceAs (Decidable True)
  | .postSend _ _ => inferInstanceAs (Decidable True)

/-- Where the server thread stands between `nmsg_server_setup` and the exit
of the loop in `nmsg_start`. -/
inductive ServerStage where
  | connecting
  | accepting
  | waitConnected
  | waitReadAdv
  | registering
  | postingRead
  | waitReadComplete
  | readComplete
  | postingGoAhead
  | left (ret : Int)
  deriving DecidableEq, Repr

structure Server where
  handler : Handler
  stage : ServerStage
  deriving DecidableEq, Repr

/-- A wait returns when its condition holds or a signal interrupts it. -/
inductive ServerInput where
  | handler (input : HandlerInput)
  | connect (interrupted : Bool) (setup : Int)
  | accept (ret : Int)
  | wake (interrupted : Bool)
  | rdmaRkey (ret : Int)
  | postRead (ret : Int)
  | writeConnected
  | postGoAhead (ret : Int)

def Server.goto (server : Server) (stage : ServerStage) : Server :=
  { server with stage := stage }

def Server.setState (server : Server) (state : NmsgState) : Server :=
  { server with handler := server.handler.setState state }

/-- `cb->state >= bound`, or a signal. -/
def Server.awake (server : Server) (interrupted : Bool) (bound : NmsgState) :
    Bool :=
  interrupted || decide (bound.value ≤ server.handler.state.value)

/-- The waits of `nmsg_accept` and `nmsg_run_server`, each with the test
that follows it. -/
def Server.wake (server : Server) (interrupted : Bool) : Option Server :=
  let state := server.handler.state
  match server.stage with
  | .waitConnected =>
      if server.awake interrupted .connected then
        if state = .error then some (server.goto (.left (-1)))
        else some (server.goto .waitReadAdv)
      else none
  | .waitReadAdv =>
      if server.awake interrupted .rdmaReadAdv then
        if state = .rdmaReadAdv then some (server.goto .registering)
        else some (server.goto (.left (-1)))
      else none
  | .waitReadComplete =>
      if server.awake interrupted .rdmaReadComplete then
        -- `ret` is still 0 here, so the loop of `nmsg_start` goes on
        if state = .rdmaReadComplete then some (server.goto .readComplete)
        else some (server.goto .waitReadAdv)
      else none
  | _ => none

/-- A step that returns `ret` from the loop when a verb fails. -/
def Server.orLeave (server : Server) (ret : Int) (stage : ServerStage) :
    Server :=
  if ret ≠ 0 then server.goto (.left ret) else server.goto stage

def Server.step (server : Server) : ServerInput → Option Server
  | .handler input =>
      (server.handler.step serverSide input).map fun handler =>
        { server with handler := handler }
  | .connect interrupted setup =>
      if server.stage = .connecting ∧
          server.awake interrupted .connectRequest then
        -- an unexpected state makes `nmsg_server_setup` return 0
        if server.handler.state = .connectRequest then
          some (server.orLeave setup .accepting)
        else some (server.goto .accepting)
      else none
  | .accept ret =>
      if server.stage = .accepting then
        some (server.orLeave ret .waitConnected)
      else none
  | .wake interrupted => server.wake interrupted
  | .rdmaRkey ret =>
      if server.stage = .registering then
        if ret ≠ 0 then some ((server.setState .error).goto .postingRead)
        else some (server.goto .postingRead)
      else none
  | .postRead ret =>
      if server.stage = .postingRead then
        some (server.orLeave ret .waitReadComplete)
      else none
  | .writeConnected =>
      if server.stage = .readComplete then
        some ((server.setState .connected).goto .postingGoAhead)
      else none
  | .postGoAhead ret =>
      if server.stage = .postingGoAhead then
        some (server.orLeave ret .waitReadAdv)
      else none

def serverMachine : Machine Server ServerInput :=
  { Initial := fun server => server = ⟨.fresh, .connecting⟩
    step := Server.step }

/-- The server's inputs that leave a recorded failure in place. -/
def Server.Quiet (server : Server) : ServerInput → Prop
  | .handler input => server.handler.Quiet serverSide input
  | .writeConnected => server.handler.state ≠ .error
  | _ => True

instance (server : Server) :
    (input : ServerInput) → Decidable (server.Quiet input)
  | .handler input =>
      inferInstanceAs (Decidable (server.handler.Quiet serverSide input))
  | .writeConnected => inferInstanceAs (Decidable (_ ≠ _))
  | .connect _ _ => inferInstanceAs (Decidable True)
  | .accept _ => inferInstanceAs (Decidable True)
  | .wake _ => inferInstanceAs (Decidable True)
  | .rdmaRkey _ => inferInstanceAs (Decidable True)
  | .postRead _ => inferInstanceAs (Decidable True)
  | .postGoAhead _ => inferInstanceAs (Decidable True)

@[simp] theorem Client.setCaller_handler (client : Client) (caller : Nat)
    (stage : CallerStage) :
    (client.setCaller caller stage).handler = client.handler := rfl

@[simp] theorem Client.setState_handler (client : Client) (state : NmsgState) :
    (client.setState state).handler = client.handler.setState state := rfl

@[simp] theorem Server.goto_handler (server : Server) (stage : ServerStage) :
    (server.goto stage).handler = server.handler := rfl

@[simp] theorem Server.setState_handler (server : Server) (state : NmsgState) :
    (server.setState state).handler = server.handler.setState state := rfl

@[simp] theorem Server.orLeave_handler (server : Server) (ret : Int)
    (stage : ServerStage) :
    (server.orLeave ret stage).handler = server.handler := by
  unfold Server.orLeave
  split <;> rfl

theorem Server.wake_handler {server next : Server} {interrupted : Bool}
    (moved : server.wake interrupted = some next) :
    next.handler = server.handler := by
  unfold Server.wake at moved
  split at moved
  all_goals
    try (obtain ⟨_, moved⟩ := Option.ite_none_right_eq_some.mp moved
         split at moved <;> (cases moved; rfl))
  cases moved

/-- A step of the client's callers writes `RDMA_READ_ADV` at the entry,
`ERROR` after a failed post, and nothing else. -/
theorem Client.caller_handler {client next : Client} {input : ClientInput}
    (moved : client.step input = some next)
    (caller : ∀ handlerInput, input ≠ .handler handlerInput) :
    next.handler = client.handler ∨
      next.handler = client.handler.setState .error ∨
      (∃ entering, input = .startClient entering) ∧
        next.handler = client.handler.setState .rdmaReadAdv := by
  cases input with
  | handler handlerInput => exact absurd rfl (caller handlerInput)
  | startClient entering =>
      obtain ⟨_, moved⟩ := Option.ite_none_right_eq_some.mp moved
      cases moved
      exact .inr (.inr ⟨⟨entering, rfl⟩, rfl⟩)
  | copyMessage entered =>
      obtain ⟨_, moved⟩ := Option.ite_none_right_eq_some.mp moved
      cases moved
      exact .inl rfl
  | rdmaRkey entered ret =>
      obtain ⟨_, moved⟩ := Option.ite_none_right_eq_some.mp moved
      split at moved <;> cases moved
      · exact .inr (.inl rfl)
      · exact .inl rfl
  | checkState entered =>
      obtain ⟨_, moved⟩ := Option.ite_none_right_eq_some.mp moved
      split at moved <;> (cases moved; exact .inl rfl)
  | postSend entered ret =>
      obtain ⟨_, moved⟩ := Option.ite_none_right_eq_some.mp moved
      cases moved
      exact .inl rfl

/-- A step of the server thread writes `CONNECTED` after a completed read,
`ERROR` after a failed post, and nothing else. -/
theorem Server.thread_handler {server next : Server} {input : ServerInput}
    (moved : server.step input = some next)
    (thread : ∀ handlerInput, input ≠ .handler handlerInput) :
    next.handler = server.handler ∨
      next.handler = server.handler.setState .error ∨
      input = .writeConnected ∧
        next.handler = server.handler.setState .connected := by
  cases input with
  | handler handlerInput => exact absurd rfl (thread handlerInput)
  | connect interrupted setup =>
      obtain ⟨_, moved⟩ := Option.ite_none_right_eq_some.mp moved
      split at moved <;> (cases moved; simp)
  | accept ret =>
      obtain ⟨_, moved⟩ := Option.ite_none_right_eq_some.mp moved
      cases moved
      simp
  | wake interrupted => exact .inl (Server.wake_handler moved)
  | rdmaRkey ret =>
      obtain ⟨_, moved⟩ := Option.ite_none_right_eq_some.mp moved
      split at moved <;> (cases moved; simp)
  | postRead ret =>
      obtain ⟨_, moved⟩ := Option.ite_none_right_eq_some.mp moved
      cases moved
      simp
  | writeConnected =>
      obtain ⟨_, moved⟩ := Option.ite_none_right_eq_some.mp moved
      cases moved
      exact .inr (.inr ⟨rfl, rfl⟩)
  | postGoAhead ret =>
      obtain ⟨_, moved⟩ := Option.ite_none_right_eq_some.mp moved
      cases moved
      simp

theorem Client.step_keepsError {client next : Client} {input : ClientInput}
    (quiet : client.Quiet input)
    (moved : client.step input = some next) :
    client.handler.KeepsError next.handler := by
  by_cases callback : ∃ handlerInput, input = .handler handlerInput
  · obtain ⟨handlerInput, rfl⟩ := callback
    obtain ⟨handler, stepped, rfl⟩ := Option.map_eq_some_iff.mp moved
    exact Handler.step_keepsError quiet stepped
  · obtain same | failed | ⟨⟨caller, rfl⟩, written⟩ :=
      Client.caller_handler moved fun handlerInput equal =>
        callback ⟨handlerInput, equal⟩
    · exact Handler.keepsError_of_state (by rw [same]) (by rw [same])
    · exact .inl (by rw [failed]; rfl)
    · exact .inr ⟨by rw [written]; rfl, quiet⟩

theorem Server.step_keepsError {server next : Server} {input : ServerInput}
    (quiet : server.Quiet input)
    (moved : server.step input = some next) :
    server.handler.KeepsError next.handler := by
  by_cases callback : ∃ handlerInput, input = .handler handlerInput
  · obtain ⟨handlerInput, rfl⟩ := callback
    obtain ⟨handler, stepped, rfl⟩ := Option.map_eq_some_iff.mp moved
    exact Handler.step_keepsError quiet stepped
  · obtain same | failed | ⟨rfl, written⟩ :=
      Server.thread_handler moved fun handlerInput equal =>
        callback ⟨handlerInput, equal⟩
    · exact Handler.keepsError_of_state (by rw [same]) (by rw [same])
    · exact .inl (by rw [failed]; rfl)
    · exact .inr ⟨by rw [written]; rfl, quiet⟩

namespace Handler

variable {handler next : Handler}

/-- A failure that was seen is recorded in the state word. -/
def Recorded (handler : Handler) : Prop :=
  handler.failed = true → handler.state = .error

theorem Recorded.keeps (recorded : handler.Recorded)
    (keeps : handler.KeepsError next) : next.Recorded := by
  intro failed
  obtain error | ⟨same, standing⟩ := keeps
  · exact error
  · exact absurd (recorded (same ▸ failed)) standing

theorem KeepsError.absorbs (keeps : handler.KeepsError next)
    (error : handler.state = .error) : next.state = .error := by
  obtain recorded | ⟨_, standing⟩ := keeps
  · exact recorded
  · exact absurd error standing

end Handler

theorem Client.recorded_invariant :
    clientMachine.Invariant Client.Quiet (fun client =>
      client.handler.Recorded) := by
  constructor
  · rintro client rfl failed
    cases failed
  · intro client input next recorded quiet moved
    exact recorded.keeps (Client.step_keepsError quiet moved)

theorem Server.recorded_invariant :
    serverMachine.Invariant Server.Quiet (fun server =>
      server.handler.Recorded) := by
  constructor
  · rintro server rfl failed
    cases failed
  · intro server input next recorded quiet moved
    exact recorded.keeps (Server.step_keepsError quiet moved)

/-- A failure that a handler has seen is recorded as `ERROR`, and in every
admitted run from here `ERROR` stays. -/
def FinalFrom {State Input : Type} (machine : Machine State Input)
    (handler : State → Handler) (allowed : State → Input → Prop)
    (state : State) : Prop :=
  ((handler state).failed = true → (handler state).state = .error) ∧
    ((handler state).state = .error →
      ∀ inputs last, machine.Run allowed state inputs last →
        (handler last).state = .error)

def ErrorIsFinal {State Input : Type} (machine : Machine State Input)
    (handler : State → Handler) (allowed : State → Input → Prop) : Prop :=
  ∀ state, machine.Reaches allowed state →
    FinalFrom machine handler allowed state

theorem error_is_final (client : Client) (server : Server) :
    (clientMachine.Reaches Client.Quiet client →
      FinalFrom clientMachine Client.handler Client.Quiet client) ∧
    (serverMachine.Reaches Server.Quiet server →
      FinalFrom serverMachine Server.handler Server.Quiet server) := by
  constructor
  · intro reached
    refine ⟨Client.recorded_invariant.reaches reached, ?_⟩
    intro error inputs last run
    refine run.preserves (fun client => client.handler.state = .error) ?_ error
    intro client input next error quiet moved
    exact (Client.step_keepsError quiet moved).absorbs error
  · intro reached
    refine ⟨Server.recorded_invariant.reaches reached, ?_⟩
    intro error inputs last run
    refine run.preserves (fun server => server.handler.state = .error) ?_ error
    intro server input next error quiet moved
    exact (Server.step_keepsError quiet moved).absorbs error

/-- The inputs of a client whose connection the peer rejects. -/
private def rejectedClient : List ClientInput :=
  [.handler (.cmEvent .addrResolved), .handler (.resolveRoute 0),
    .handler (.cmEvent .routeResolved), .handler (.cmEvent .rejected)]

/-- A server that has read one message, up to the test before it writes
`CONNECTED`. -/
private def readComplete : List ServerInput :=
  [.handler (.cmEvent .connectRequest), .connect false 0, .accept 0,
    .handler .cqEvent,
    .handler (.poll (some (.ok ⟨.success, .recv, 56, ⟨4096, 1, 1024⟩⟩))),
    .handler .recvWrite, .handler (.postRecv 0), .wake false, .wake false,
    .rdmaRkey 0, .postRead 0,
    .handler (.poll (some (.ok ⟨.success, .rdmaRead, 0, ⟨0, 0, 0⟩⟩))),
    .handler (.poll none), .wake false]

theorem error_is_final_rejected :
    (∃ client, clientMachine.Reaches Client.Quiet client ∧
      client.handler.failed = true ∧ client.handler.state = .error) ∧
    (∃ server, serverMachine.Reaches Server.Quiet server ∧
      server.stage = .postingGoAhead ∧
      server.handler.failed = true ∧ server.handler.state = .error) := by
  constructor
  · have reached : ∃ client, clientMachine.Reaches Client.Quiet client ∧
        client.handler.failed = true :=
      ⟨_, Machine.reaches_of_execIf
        (fun client input admitted => of_decide_eq_true admitted)
        rejectedClient rfl rfl, rfl⟩
    obtain ⟨client, reached, failed⟩ := reached
    have final := (error_is_final client ⟨.fresh, .connecting⟩).1 reached
    exact ⟨client, reached, failed, final.1 failed⟩
  · have reached : ∃ server, serverMachine.Reaches Server.Quiet server ∧
        server.stage = .postingGoAhead ∧ server.handler.failed = true :=
      ⟨_, Machine.reaches_of_execIf
        (fun server input admitted => of_decide_eq_true admitted)
        (readComplete ++ [.writeConnected, .handler (.cmEvent .disconnected)])
        rfl rfl, rfl, rfl⟩
    obtain ⟨server, reached, stage, failed⟩ := reached
    have final := (error_is_final ⟨.fresh, fun _ => .idle⟩ server).2 reached
    exact ⟨server, reached, stage, failed, final.1 failed⟩

/-- A client whose `rdma_resolve_route` fails stays in `ADDR_RESOLVED`, and a
server that is disconnected before it writes `CONNECTED` forgets it. -/
theorem error_is_not_final :
    ¬ ErrorIsFinal clientMachine Client.handler Machine.anyInput ∧
      ¬ ErrorIsFinal serverMachine Server.handler Machine.anyInput := by
  constructor
  · intro final
    have reached : ∃ client, clientMachine.Reachable client ∧
        client.handler.failed = true ∧ client.handler.state = .addrResolved :=
      ⟨_, Machine.reachable_of_exec
        [.handler (.cmEvent .addrResolved), .handler (.resolveRoute (-110))]
        rfl rfl, rfl, rfl⟩
    obtain ⟨client, reached, failed, state⟩ := reached
    have recorded := (final client reached).1 failed
    rw [state] at recorded
    cases recorded
  · intro final
    have reached : ∃ server next, serverMachine.Reachable server ∧
        server.handler.state = .error ∧
        serverMachine.step server .writeConnected = some next ∧
        next.handler.state = .connected :=
      ⟨_, _, Machine.reachable_of_exec
        (readComplete ++ [.handler (.cmEvent .disconnected)]) rfl rfl,
        rfl, rfl, rfl⟩
    obtain ⟨server, next, reached, error, moved, state⟩ := reached
    have kept := (final server reached).2 error [.writeConnected] next
      (.cons trivial moved (.nil next))
    rw [state] at kept
    cases kept

end Rshm.Rdma
