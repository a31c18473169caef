import Rshm.Rdma.Endpoint

/-!
# What connection setup reports

`nmsg_server_setup` and `nmsg_accept` of the server and `nmsg_connect_client`
of the client, up to the message loop.  A wait ends when its condition holds
or when a signal interrupts it; what it returned is thrown away, and the test
that follows looks at the state word again, with callbacks in between.
-/

namespace Rshm.Rdma

/-- The calls of `nmsg_setup_qp` and `nmsg_setup_buffers` that can fail and
the `ib_post_recv` behind them, in their order. -/
inductive SetupVerb where
  | allocPd
  | createCq
  | reqNotifyCq
  | createQp
  | allocRdmaBuf
  | allocMr
  | postRecv
  deriving DecidableEq, Repr

/-- Where `nmsg_start` stands.  `serving` carries the state word that the
test in `nmsg_accept` saw before it returned 0. -/
inductive SetupStage where
  | waitRequest
  | testRequest
  | calling (verb : SetupVerb)
  | accepting
  | waitConnected
  | testConnected
  | serving (seen : NmsgState)
  | left (ret : Int)
  deriving DecidableEq, Repr

def SetupVerb.following : SetupVerb → SetupStage
  | allocPd => .calling .createCq
  | createCq => .calling .reqNotifyCq
  | reqNotifyCq => .calling .createQp
  | createQp => .calling .allocRdmaBuf
  | allocRdmaBuf => .calling .allocMr
  | allocMr => .calling .postRecv
  | postRecv => .accepting

/-- `requested` tells whether a connect request has set `child_cm_id`, `made`
lists the calls that succeeded. -/
structure ServerSetup where
  handler : Handler
  requested : Bool
  made : List SetupVerb
  stage : SetupStage
  deriving DecidableEq, Repr

inductive SetupInput where
  | handler (input : HandlerInput)
  | wake (interrupted : Bool)
  | test (supported : Bool)
  | call (ret : Int)
  | accept (ret : Int)

/-- The event that sets `child_cm_id`. -/
def HandlerInput.isConnectRequest : HandlerInput → Bool
  | .cmEvent .connectRequest => true
  | _ => false

namespace ServerSetup

def goto (setup : ServerSetup) (stage : SetupStage) : ServerSetup :=
  { setup with stage := stage }

/-- `wait_event_interruptible`: the condition, or a signal. -/
def wake (setup : ServerSetup) (interrupted : Bool) : Option ServerSetup :=
  let reaches (bound : NmsgState) : Bool :=
    interrupted || decide (bound.value ≤ setup.handler.state.value)
  match setup.stage with
  | .waitRequest =>
      if reaches .connectRequest then some (setup.goto .testRequest) else none
  | .waitConnected =>
      if reaches .connected then some (setup.goto .testConnected) else none
  | _ => none

def test (setup : ServerSetup) (supported : Bool) : Option ServerSetup :=
  match setup.stage with
  | .testRequest =>
      if setup.handler.state = .connectRequest ∧ supported then
        some (setup.goto (.calling .allocPd))
      else
        -- `nmsg_server_setup` turns the failure into a 0
        some (setup.goto .accepting)
  | .testConnected =>
      if setup.handler.state = .error then some (setup.goto (.left (-1)))
      else some (setup.goto (.serving setup.handler.state))
  | _ => none

def step (setup : ServerSetup) : SetupInput → Option ServerSetup
  | .handler input =>
      (setup.handler.step serverSide input).map fun handler =>
        { setup with
          handler := handler
          requested := setup.requested || input.isConnectRequest }
  | .wake interrupted => setup.wake interrupted
  | .test supported => setup.test supported
  | .call ret =>
      match setup.stage with
      | .calling verb =>
          if ret ≠ 0 then some (setup.goto (.left ret))
          else
            some { setup with
              made := setup.made ++ [verb], stage := verb.following }
      | _ => none
  | .accept ret =>
      if setup.stage = .accepting then
        if ret ≠ 0 then some (setup.goto (.left ret))
        else some (setup.goto .waitConnected)
      else none

end ServerSetup

def serverSetupMachine : Machine ServerSetup SetupInput where
  Initial := fun setup => setup = ⟨.fresh, false, [], .waitRequest⟩
  step := ServerSetup.step

/-- Where `nmsg_connect_client` of the client stands, and with which state
word its last test returned. -/
inductive ConnectStage where
  | connecting
  | waitConnected
  | testConnected
  | returned (ret : Int) (seen : NmsgState)
  deriving DecidableEq, Repr

structure ClientConnect where
  handler : Handler
  stage : ConnectStage
  deriving DecidableEq, Repr

inductive ConnectInput where
  | handler (input : HandlerInput)
  | connect (ret : Int)
  | wake (interrupted : Bool)
  | test

namespace ClientConnect

def goto (client : ClientConnect) (stage : ConnectStage) : ClientConnect :=
  { client with stage := stage }

def step (client : ClientConnect) : ConnectInput → Option ClientConnect
  | .handler input =>
      (client.handler.step clientSide input).map fun handler =>
        { client with handler := handler }
  | .connect ret =>
      if client.stage = .connecting then
        if ret ≠ 0 then
          some (client.goto (.returned ret client.handler.state))
        else some (client.goto .waitConnected)
      else none
  | .wake interrupted =>
      if client.stage = .waitConnected ∧ (interrupted = true ∨
          NmsgState.connected.value ≤ client.handler.state.value) then
        some (client.goto .testConnected)
      else none
  | .test =>
      if client.stage = .testConnected then
        if client.handler.state = .error then
          some (client.goto (.returned (-1) client.handler.state))
        else some (client.goto (.returned 0 client.handler.state))
      else none

end ClientConnect

/-- The callbacks have been running since `nmsg_bind_client`. -/
def clientConnectMachine : Machine ClientConnect ConnectInput where
  Initial := fun client => client.stage = .connecting
  step := ClientConnect.step

/-- At least `CONNECTED`, and no failure. -/
def NmsgState.Established (state : NmsgState) : Prop :=
  NmsgState.connected.value ≤ state.value ∧ state ≠ .error

instance (state : NmsgState) : Decidable state.Established :=
  inferInstanceAs (Decidable (_ ∧ _))

/-- The stages behind a `nmsg_server_setup` that returned 0. -/
def SetupStage.isSetUp : SetupStage → Bool
  | .accepting | .waitConnected | .testConnected | .serving _ => true
  | _ => false

namespace ServerSetup

/-- A client has asked, everything has been made and a receive is posted when
`nmsg_server_setup` has returned 0, and `nmsg_accept` returned 0 in a
connected state. -/
structure Honest (setup : ServerSetup) : Prop where
  prepared : setup.stage.isSetUp = true →
    setup.requested = true ∧ ∀ verb, verb ∈ setup.made
  connected : ∀ seen, setup.stage = .serving seen → seen.Established

/-- A test finds what its wait waited for. -/
def Awaited (setup : ServerSetup) : SetupInput → Prop
  | .test supported =>
      (setup.stage = .testRequest →
        setup.handler.state = .connectRequest ∧ supported = true) ∧
      (setup.stage = .testConnected →
        NmsgState.connected.value ≤ setup.handler.state.value)
  | _ => True

end ServerSetup

namespace ClientConnect

def Honest (client : ClientConnect) : Prop :=
  ∀ seen, client.stage = .returned 0 seen → seen.Established

def Awaited (client : ClientConnect) : ConnectInput → Prop
  | .test =>
      client.stage = .testConnected →
        NmsgState.connected.value ≤ client.handler.state.value
  | _ => True

end ClientConnect

/-- The calls before one of the sequence. -/
def SetupVerb.before : SetupVerb → List SetupVerb
  | allocPd => []
  | createCq => [allocPd]
  | reqNotifyCq => [allocPd, createCq]
  | createQp => [allocPd, createCq, reqNotifyCq]
  | allocRdmaBuf => [allocPd, createCq, reqNotifyCq, createQp]
  | allocMr => [allocPd, createCq, reqNotifyCq, createQp, allocRdmaBuf]
  | postRecv =>
      [allocPd, createCq, reqNotifyCq, createQp, allocRdmaBuf, allocMr]

theorem SetupVerb.complete (verb : SetupVerb) :
    verb ∈ SetupVerb.postRecv.before ++ [.postRecv] := by
  cases verb <;> decide

/-- The state word says `CONNECT_REQUEST` only after an event did. -/
structure Handler.Requested (handler : Handler) (requested : Bool) : Prop where
  state : handler.state = .connectRequest → requested = true
  pending : ∀ state, handler.cq = .received state → state ≠ .connectRequest

namespace Handler

theorem serverRecv_ne (state : NmsgState) :
    serverRecv state ≠ .connectRequest := by
  unfold serverRecv
  split
  · exact nofun
  · exact nofun

theorem Requested.cmEvent {handler : Handler} {requested : Bool}
    (held : handler.Requested requested) (event : CmEvent) :
    (nmsgCmaEventHandler serverSide event handler).Requested
      (requested || (HandlerInput.cmEvent event).isConnectRequest) := by
  cases event with
  | connectRequest => exact ⟨fun _ => Bool.or_true _, held.pending⟩
  | established =>
      rw [HandlerInput.isConnectRequest, Bool.or_false]
      · exact held
      · exact nofun
  | other =>
      rw [HandlerInput.isConnectRequest, Bool.or_false]
      · exact held
      · exact nofun
  | _ => exact ⟨nofun, held.pending⟩

theorem Requested.fail {handler : Handler} {requested : Bool} :
    handler.fail.Requested requested :=
  ⟨nofun, nofun⟩

theorem Requested.handleWc {handler : Handler} {requested : Bool}
    (held : handler.Requested requested) (wc : Wc) :
    (handleWc serverSide wc handler).Requested requested := by
  unfold Rdma.handleWc
  split
  case h_1 => exact held
  case h_2 => exact .fail
  case h_3 => exact ⟨held.state, held.pending⟩
  case h_4 =>
    split
    · exact ⟨nofun, held.pending⟩
    · exact .fail
  case h_5 =>
    split
    · exact .fail
    · refine ⟨held.state, ?_⟩
      rintro state received
      cases received
      exact serverRecv_ne handler.state
  case h_6 => exact .fail

theorem Requested.step {handler next : Handler} {requested : Bool}
    {input : HandlerInput} (held : handler.Requested requested)
    (moved : handler.step serverSide input = some next) :
    next.Requested (requested || input.isConnectRequest) := by
  have unasked (other : input.isConnectRequest = false)
      (kept : next.Requested requested) :
      next.Requested (requested || input.isConnectRequest) := by
    rw [other, Bool.or_false]
    exact kept
  cases input with
  | cmEvent event =>
      cases moved
      exact held.cmEvent event
  | resolveRoute ret =>
      obtain ⟨_, moved⟩ := Option.ite_none_left_eq_some.mp moved
      cases moved
      exact unasked rfl ⟨held.state, held.pending⟩
  | cqEvent =>
      obtain ⟨_, moved⟩ := Option.ite_none_right_eq_some.mp moved
      cases moved
      apply unasked rfl
      rw [nmsgCqEventHandler]
      split
      · exact held
      · exact ⟨held.state, nofun⟩
  | poll polled =>
      obtain ⟨_, moved⟩ := Option.ite_none_right_eq_some.mp moved
      cases moved
      apply unasked rfl
      cases polled with
      | none => exact ⟨held.state, nofun⟩
      | some completion =>
          cases completion with
          | error _ => exact .fail
          | ok wc => exact held.handleWc wc
  | recvWrite =>
      rw [Handler.step] at moved
      split at moved
      next state received =>
        cases moved
        apply unasked rfl
        constructor
        · intro written
          exact absurd written (held.pending state received)
        · intro other pending
          cases pending
      · cases moved
  | postRecv ret =>
      obtain ⟨_, moved⟩ := Option.ite_none_right_eq_some.mp moved
      apply unasked rfl
      split at moved
      · cases moved
        exact .fail
      · cases moved
        exact ⟨held.state, nofun⟩

end Handler

namespace ServerSetup

/-- What every run keeps whose tests all find what was waited for. -/
structure Standing (setup : ServerSetup) : Prop where
  requests : setup.handler.Requested setup.requested
  unmade : setup.stage = .waitRequest ∨ setup.stage = .testRequest →
    setup.made = []
  calling : ∀ verb, setup.stage = .calling verb →
    setup.requested = true ∧ setup.made = verb.before
  honest : setup.Honest

/-- A stage that follows a successful setup keeps what it was reached
with. -/
theorem Standing.goto {setup : ServerSetup} (standing : setup.Standing)
    {stage : SetupStage} (prepared : setup.stage.isSetUp = true)
    (connected : ∀ seen, stage = .serving seen → seen.Established)
    (later : stage.isSetUp = true) : (setup.goto stage).Standing := by
  refine ⟨standing.requests, ?_, ?_, ?_, connected⟩
  · rintro (rfl | rfl) <;> cases later
  · rintro verb rfl
    cases later
  · intro _
    exact standing.honest.prepared prepared

theorem Standing.leave {setup : ServerSetup} (standing : setup.Standing)
    (ret : Int) : (setup.goto (.left ret)).Standing := by
  refine ⟨standing.requests, ?_, nofun, nofun, nofun⟩
  rintro (left | left) <;> cases left

theorem Standing.callback {setup next : ServerSetup} {input : HandlerInput}
    (standing : setup.Standing)
    (moved : setup.step (.handler input) = some next) : next.Standing := by
  obtain ⟨handler, ran, rfl⟩ := Option.map_eq_some_iff.mp moved
  have kept (asked : setup.requested = true) (more : Bool) :
      (setup.requested || more) = true := by
    rw [asked]
    rfl
  refine ⟨standing.requests.step ran, standing.unmade, ?_, ?_,
    standing.honest.connected⟩
  · intro verb at_
    obtain ⟨asked, made⟩ := standing.calling verb at_
    exact ⟨kept asked _, made⟩
  · intro isSetUp
    obtain ⟨asked, made⟩ := standing.honest.prepared isSetUp
    exact ⟨kept asked _, made⟩

theorem Standing.wake {setup next : ServerSetup} {interrupted : Bool}
    (standing : setup.Standing)
    (moved : setup.wake interrupted = some next) : next.Standing := by
  simp only [ServerSetup.wake] at moved
  split at moved
  next at_ =>
    obtain ⟨_, moved⟩ := Option.ite_none_right_eq_some.mp moved
    cases moved
    exact ⟨standing.requests, fun _ => standing.unmade (.inl at_), nofun,
      nofun, nofun⟩
  next at_ =>
    obtain ⟨_, moved⟩ := Option.ite_none_right_eq_some.mp moved
    cases moved
    exact standing.goto (by rw [at_]; rfl) nofun rfl
  next => cases moved

theorem Standing.call {setup next : ServerSetup} {ret : Int}
    (standing : setup.Standing)
    (moved : setup.step (.call ret) = some next) : next.Standing := by
  rw [step] at moved
  split at moved
  next verb at_ =>
    obtain ⟨asked, made⟩ := standing.calling verb at_
    split at moved
    · cases moved
      exact standing.leave ret
    · cases moved
      refine ⟨standing.requests, ?_, ?_, ?_, ?_⟩
      · intro early
        cases verb <;> rcases early with early | early <;> cases early
      · intro following at_
        refine ⟨asked, ?_⟩
        rw [made]
        cases verb <;> cases at_ <;> rfl
      · intro isSetUp
        refine ⟨asked, ?_⟩
        intro other
        rw [made]
        cases verb <;> cases isSetUp
        exact SetupVerb.complete other
      · intro seen at_
        cases verb <;> cases at_
  next => cases moved

theorem Standing.accept {setup next : ServerSetup} {ret : Int}
    (standing : setup.Standing)
    (moved : setup.step (.accept ret) = some next) : next.Standing := by
  obtain ⟨at_, moved⟩ := Option.ite_none_right_eq_some.mp moved
  split at moved
  · cases moved
    exact standing.leave ret
  · cases moved
    exact standing.goto (by rw [at_]; rfl) nofun rfl

/-- What a test does when it finds what was waited for, and when not. -/
theorem Standing.test {setup next : ServerSetup} {supported : Bool}
    (standing : setup.Standing)
    (moved : setup.step (.test supported) = some next) :
    (setup.Awaited (.test supported) → next.Standing) ∧
      (next.Honest → setup.Awaited (.test supported)) := by
  simp only [step, ServerSetup.test] at moved
  split at moved
  next at_ =>
    by_cases found : setup.handler.state = .connectRequest ∧ supported = true
    · rw [if_pos found] at moved
      cases moved
      constructor
      · intro _
        refine ⟨standing.requests, ?_, ?_, nofun, nofun⟩
        · rintro (early | early) <;> cases early
        · rintro verb ⟨⟩
          exact ⟨standing.requests.state found.1, standing.unmade (.inr at_)⟩
      · intro _
        refine ⟨fun _ => found, ?_⟩
        rw [at_]
        exact nofun
    · rw [if_neg found] at moved
      cases moved
      constructor
      · intro awaited
        exact absurd (awaited.1 at_) found
      · intro honest
        have made : SetupVerb.allocPd ∈ setup.made :=
          (honest.prepared rfl).2 .allocPd
        rw [standing.unmade (.inr at_)] at made
        cases made
  next at_ =>
    have prepared : setup.stage.isSetUp = true := by
      rw [at_]
      rfl
    by_cases failed : setup.handler.state = .error
    · rw [if_pos failed] at moved
      cases moved
      constructor
      · intro _
        exact standing.leave (-1)
      · intro _
        refine ⟨?_, ?_⟩
        · rw [at_]
          exact nofun
        · intro _
          rw [failed]
          decide
    · rw [if_neg failed] at moved
      cases moved
      constructor
      · intro awaited
        apply standing.goto prepared _ rfl
        rintro seen ⟨⟩
        exact ⟨awaited.2 at_, failed⟩
      · intro honest
        refine ⟨?_, ?_⟩
        · rw [at_]
          exact nofun
        · intro _
          exact (honest.connected setup.handler.state rfl).1
  next => cases moved

theorem Standing.step {setup next : ServerSetup} {input : SetupInput}
    (standing : setup.Standing) (awaited : setup.Awaited input)
    (moved : setup.step input = some next) : next.Standing := by
  cases input with
  | handler input => exact standing.callback moved
  | wake interrupted => exact standing.wake moved
  | test supported => exact (standing.test moved).1 awaited
  | call ret => exact standing.call moved
  | accept ret => exact standing.accept moved

theorem standing_invariant :
    serverSetupMachine.Invariant Awaited Standing := by
  constructor
  · rintro setup rfl
    refine ⟨⟨nofun, nofun⟩, fun _ => rfl, nofun, nofun, nofun⟩
  · intro setup input next standing awaited moved
    exact standing.step awaited moved

/-- A step keeps what a 0 promises exactly if its test finds what was waited
for. -/
theorem Standing.honest_iff {setup next : ServerSetup} {input : SetupInput}
    (standing : setup.Standing)
    (moved : serverSetupMachine.step setup input = some next) :
    next.Honest ↔ setup.Awaited input := by
  constructor
  · intro honest
    cases input with
    | test supported => exact (standing.test moved).2 honest
    | _ => trivial
  · intro awaited
    exact (standing.step awaited moved).honest

end ServerSetup

namespace ClientConnect

theorem honest_iff {client next : ClientConnect} {input : ConnectInput}
    (honest : client.Honest)
    (moved : clientConnectMachine.step client input = some next) :
    next.Honest ↔ client.Awaited input := by
  cases input with
  | handler input =>
      obtain ⟨handler, -, rfl⟩ := Option.map_eq_some_iff.mp moved
      exact ⟨fun _ => trivial, fun _ => honest⟩
  | connect ret =>
      obtain ⟨_, moved⟩ := Option.ite_none_right_eq_some.mp moved
      split at moved
      next failed =>
        cases moved
        refine ⟨fun _ => trivial, ?_⟩
        rintro _ seen same
        simp only [goto, ConnectStage.returned.injEq] at same
        exact absurd same.1 failed
      next =>
        cases moved
        exact ⟨fun _ => trivial, fun _ => nofun⟩
  | wake interrupted =>
      obtain ⟨_, moved⟩ := Option.ite_none_right_eq_some.mp moved
      cases moved
      exact ⟨fun _ => trivial, fun _ => nofun⟩
  | test =>
      obtain ⟨at_, moved⟩ := Option.ite_none_right_eq_some.mp moved
      split at moved
      next failed =>
        cases moved
        refine ⟨fun _ _ => ?_, fun _ => nofun⟩
        rw [failed]
        decide
      next standing =>
        cases moved
        constructor
        · intro honest _
          exact (honest client.handler.state rfl).1
        · rintro awaited seen ⟨⟩
          exact ⟨awaited at_, standing⟩

theorem honest_invariant :
    clientConnectMachine.Invariant Awaited Honest := by
  constructor
  · intro client connecting seen returned
    rw [connecting] at returned
    cases returned
  · intro client input next honest awaited moved
    exact (honest_iff honest moved).mpr awaited

end ClientConnect

/-- While every test finds what its wait waited for, a 0 means a connection;
the first test that does not is the one that breaks it. -/
theorem setup_reports_iff (setup : ServerSetup) (client : ClientConnect) :
    (serverSetupMachine.Reaches ServerSetup.Awaited setup →
      setup.Honest ∧ ∀ input next,
        serverSetupMachine.step setup input = some next →
          (next.Honest ↔ setup.Awaited input)) ∧
    (clientConnectMachine.Reaches ClientConnect.Awaited client →
      client.Honest ∧ ∀ input next,
        clientConnectMachine.step client input = some next →
          (next.Honest ↔ client.Awaited input)) := by
  constructor
  · intro reached
    have standing := ServerSetup.standing_invariant.reaches reached
    refine ⟨standing.honest, ?_⟩
    intro input next moved
    exact standing.honest_iff moved
  · intro reached
    have honest := ClientConnect.honest_invariant.reaches reached
    refine ⟨honest, ?_⟩
    intro input next moved
    exact ClientConnect.honest_iff honest moved

instance (setup : ServerSetup) :
    (input : SetupInput) → Decidable (setup.Awaited input)
  | .test _ => inferInstanceAs (Decidable (_ ∧ _))
  | .handler _ => inferInstanceAs (Decidable True)
  | .wake _ => inferInstanceAs (Decidable True)
  | .call _ => inferInstanceAs (Decidable True)
  | .accept _ => inferInstanceAs (Decidable True)

instance (client : ClientConnect) :
    (input : ConnectInput) → Decidable (client.Awaited input)
  | .test => inferInstanceAs (Decidable (_ → _))
  | .handler _ => inferInstanceAs (Decidable True)
  | .connect _ => inferInstanceAs (Decidable True)
  | .wake _ => inferInstanceAs (Decidable True)

/-- One client asks, all is made for it, and its first advertisement, which
the connection event does not wait for, ends the wait in `nmsg_accept`. -/
private def acceptOne : List SetupInput :=
  [.handler (.cmEvent .connectRequest), .wake false, .test true] ++
    List.replicate 7 (.call 0) ++
    [.accept 0, .handler (.cmEvent .established), .handler .cqEvent,
      .handler (.poll (some (.ok
        ⟨.success, .recv, NmsgData.sizeof, ⟨0, 0, 0⟩⟩))),
      .handler .recvWrite, .wake false, .test true]

/-- The client is connected after it has asked. -/
private def connectOne : List ConnectInput :=
  [.connect 0, .handler (.cmEvent .established), .wake false, .test]

private theorem acceptOne_serves :
    ∃ setup, serverSetupMachine.Reaches ServerSetup.Awaited setup ∧
      setup.stage = .serving .rdmaReadAdv :=
  ⟨_, Machine.reaches_of_execIf
    (fun _ _ admitted => of_decide_eq_true admitted) acceptOne rfl rfl, rfl⟩

private theorem connectOne_returns :
    ∃ client, clientConnectMachine.Reaches ClientConnect.Awaited client ∧
      client.stage = .returned 0 .connected :=
  ⟨_, Machine.reaches_of_execIf
    (fun _ _ admitted => of_decide_eq_true admitted) connectOne
    (rfl : clientConnectMachine.Initial
      ⟨{ Handler.fresh with state := .routeResolved }, .connecting⟩) rfl, rfl⟩

/-- `nmsg_accept` and the client's `nmsg_connect_client` return 0. -/
theorem setup_reports_accept :
    ∃ setup client,
      serverSetupMachine.Reaches ServerSetup.Awaited setup ∧
        clientConnectMachine.Reaches ClientConnect.Awaited client ∧
        setup.stage = .serving .rdmaReadAdv ∧
        client.stage = .returned 0 .connected ∧
        setup.Honest ∧ client.Honest := by
  obtain ⟨setup, served, stage⟩ := acceptOne_serves
  obtain ⟨client, connected, returned⟩ := connectOne_returns
  have reports := setup_reports_iff setup client
  exact ⟨setup, client, served, connected, stage, returned,
    (reports.1 served).1, (reports.2 connected).1⟩

/-- A signal ends the server's wait before a client has asked, and the
client's wait before it is connected: both report success. -/
theorem setup_reports_nothing :
    ¬(∀ setup, serverSetupMachine.Reachable setup → setup.Honest) ∧
      ¬∀ client, clientConnectMachine.Reachable client → client.Honest := by
  constructor
  · intro honest
    have reached : ∃ setup, serverSetupMachine.Reachable setup ∧
        setup.stage = .accepting ∧ setup.made = [] :=
      ⟨_, Machine.reachable_of_exec [.wake true, .test true] rfl rfl, rfl,
        rfl⟩
    obtain ⟨setup, reached, stage, made⟩ := reached
    have all := (honest setup reached).prepared (by rw [stage]; rfl)
    have one := all.2 .postRecv
    rw [made] at one
    cases one
  · intro honest
    have reached : ∃ client, clientConnectMachine.Reachable client ∧
        client.stage = .returned 0 .routeResolved :=
      ⟨_, Machine.reachable_of_exec [.connect 0, .wake true, .test]
        (rfl : clientConnectMachine.Initial
          ⟨{ Handler.fresh with state := .routeResolved }, .connecting⟩)
        rfl, rfl⟩
    obtain ⟨client, reached, stage⟩ := reached
    exact absurd (honest client reached _ stage) (by decide)

end Rshm.Rdma
