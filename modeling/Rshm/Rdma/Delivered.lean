import Rshm.Rdma.StepsPerMessage

/-!
# Every message is delivered

A round that is not over has a step that the delivery invariant admits, and
the connection can make only so many steps without a new call.  So it comes
to rest, and all messages of its calls have been obtained when it does.
-/

namespace Rshm.Rdma

namespace Link

variable {Message : Type} {link next : Link Message}
  {input : LinkInput Message}

/-- A step that needs no new call and does not hurry the server. -/
structure Moves (link : Link Message) (input : LinkInput Message) : Prop where
  free : input.grant = 0
  open_ : input ≠ .destroyClient
  unhurried : link.Unhurried input
  moves : (link.step input).isSome = true

theorem callback_moves
    (settled : link.server.handler.cq.settled = true)
    (queued : link.serverCq ≠ [])
    (unhurried : link.Unhurried .serverPoll) :
    ∃ input, link.Moves input := by
  cases stage : link.server.handler.cq with
  | received state =>
      rw [stage] at settled
      cases settled
  | idle =>
      refine ⟨.serverCqEvent, rfl, by simp, trivial, ?_⟩
      simp [Link.step, Link.serverCallback, onServer, Server.step,
        Handler.step, stage, queued]
  | polling =>
      refine ⟨.serverPoll, rfl, by simp, unhurried, ?_⟩
      simp [Link.step, Link.serverCallback, onServer, Server.step,
        Handler.step, stage]
  | posting =>
      refine ⟨.serverPostRecv, rfl, by simp, trivial, ?_⟩
      simp [Link.step, Link.serverCallback, onServer, Server.step,
        Handler.step, stage]

theorem head_of_fetched {cq : List Wc} {rest : List WcOpcode}
    (signalled : Rdma.signals cq = .rdmaRead :: rest) :
    (cq.head?.map (·.opcode)) ≠ some .recv := by
  cases cq with
  | nil => simp
  | cons wc others =>
      rw [signals_cons] at signalled
      intro receive
      have opcode : wc.opcode = .recv := by simpa using receive
      rw [opcode, if_neg (by simp)] at signalled
      cases signalled

theorem nonempty_of_signals {cq : List Wc} {opcode : WcOpcode}
    {rest : List WcOpcode} (signalled : Rdma.signals cq = opcode :: rest) :
    cq ≠ [] := by
  rintro rfl
  cases signalled

theorem InRound.advertised_moves {following : Following}
    (inRound : link.InRound .advertised following) :
    ∃ input, link.Moves input := by
  have advertised : link.server.handler.state = .rdmaReadAdv := inRound.state
  obtain listening | registering | posting :
      link.server.stage.listening = true ∨
        link.server.stage = .registering ∨
        link.server.stage = .postingRead := inRound.stage
  · obtain waiting | waiting | posting :=
      ServerStage.listening_cases listening
    · refine ⟨.serverWake, rfl, by simp, trivial, ?_⟩
      simp [Link.step, Link.threadStep, onServer, Server.step, Server.wake,
        Server.awake, waiting, advertised, NmsgState.value]
    · refine ⟨.serverWake, rfl, by simp, trivial, ?_⟩
      simp [Link.step, Link.threadStep, onServer, Server.step, Server.wake,
        Server.awake, waiting, advertised]
    · refine ⟨.postGoAhead, rfl, by simp, trivial, ?_⟩
      simp [Link.step, Link.threadStep, onServer, Server.step, posting]
  · refine ⟨.serverRkey, rfl, by simp, trivial, ?_⟩
    simp [Link.step, Link.threadStep, onServer, Server.step, registering]
  · refine ⟨.postRead, rfl, by simp, trivial, ?_⟩
    simp [Link.step, Link.threadStep, onServer, Server.step, posting]

theorem InRound.posted_moves {round : Round}
    (inRound : link.InRound round .posted)
    (settled : link.server.handler.cq.settled = true) :
    ∃ input, link.Moves input := by
  have adverts := inRound.adverts
  have posted := inRound.recvPosted
  cases waiting : link.adverts with
  | nil =>
      rw [waiting] at adverts
      cases adverts
  | cons data rest =>
      cases stage : link.server.handler.cq with
      | received state =>
          rw [stage] at settled
          cases settled
      | posting =>
          refine ⟨.serverPostRecv, rfl, by simp, trivial, ?_⟩
          simp [Link.step, Link.serverCallback, onServer, Server.step,
            Handler.step, stage]
      | idle | polling =>
          rw [stage] at posted
          refine ⟨.deliverAdvert, rfl, by simp, trivial, ?_⟩
          simp [Link.step, Link.networkStep, waiting, posted,
            CqStage.holdsRecv]

theorem InRound.goes_on {round : Round} {following : Following}
    (inRound : link.InRound round following)
    (unfinished : ¬(round = .ready ∧ following = .none)) :
    ∃ input, link.Moves input := by
  have state := inRound.state
  have stage := inRound.stage
  have cq := inRound.cq
  have serverCq := inRound.serverCq
  cases round with
  | received =>
      refine ⟨.serverRecvWrite, rfl, by simp, trivial, ?_⟩
      simp [Link.step, Link.serverCallback, onServer, Server.step,
        Handler.step, show link.server.handler.cq = _ from cq]
  | advertised => exact inRound.advertised_moves
  | reading =>
      obtain ⟨data, reading⟩ := Option.isSome_iff_exists.mp inRound.read
      refine ⟨.executeRead, rfl, by simp, trivial, ?_⟩
      simp [Link.step, Link.networkStep, reading]
  | fetched =>
      exact callback_moves cq (nonempty_of_signals serverCq)
        fun receive => absurd receive (head_of_fetched serverCq)
  | complete =>
      refine ⟨.serverWake, rfl, by simp, trivial, ?_⟩
      simp [Link.step, Link.threadStep, onServer, Server.step, Server.wake,
        Server.awake, show link.server.stage = _ from stage,
        show link.server.handler.state = _ from state]
  | obtained =>
      refine ⟨.writeConnected, rfl, by simp, trivial, ?_⟩
      simp [Link.step, Link.threadStep, onServer, Server.step,
        show link.server.stage = _ from stage]
  | ready =>
      cases following with
      | none => exact absurd ⟨rfl, rfl⟩ unfinished
      | posted => exact inRound.posted_moves cq
      | arrived =>
          exact callback_moves cq (nonempty_of_signals serverCq)
            fun _ => state

/-- No step is left but a new call or the disconnect. -/
def Rested (link : Link Message) : Prop :=
  (linkMachine Message).Resting (Undisturbed Unhurried) LinkInput.grant link

theorem Rested.stuck (rested : link.Rested) (moves : link.Moves input) :
    False := by
  obtain ⟨next, moved⟩ := Option.isSome_iff_exists.mp moves.moves
  exact rested input next moves.free ⟨moves.unhurried, moves.open_⟩ moved

/-- The call that has been entered and has not returned. -/
def pending (link : Link Message) : List Message :=
  if (link.client.callers 0).outside then [] else [link.call]

theorem Open.call_moves {round : Round} {following : Following}
    (opened : link.Open round following)
    (nothing : outstanding round following = false)
    (entered : (link.client.callers 0).outside = false) :
    ∃ input, link.Moves input := by
  have standing := opened.standing
  cases stage : link.client.callers 0 with
  | idle | returned _ =>
      rw [stage] at entered
      cases entered
  | copying =>
      refine ⟨.copyMessage, rfl, by simp, ?_, ?_⟩
      · have sent := opened.history.sent
        rw [nothing, if_neg Bool.false_ne_true, List.append_nil] at sent
        exact congrArg List.length sent.symm
      · simp [Link.step, Link.callerStep, onClient, Client.step, stage,
          standing]
  | registering =>
      refine ⟨.rdmaRkey, rfl, by simp, trivial, ?_⟩
      simp [Link.step, Link.callerStep, onClient, Client.step, stage,
        standing]
  | checking =>
      refine ⟨.checkState, rfl, by simp, trivial, ?_⟩
      by_cases error : link.client.handler.state = .error <;>
        simp [Link.step, Link.callerStep, onClient, Client.step, stage,
          standing, error]
  | posting =>
      refine ⟨.postSend, rfl, by simp, trivial, ?_⟩
      simp [Link.step, Link.callerStep, onClient, Client.step, stage,
        standing]

theorem Open.rested {round : Round} {following : Following}
    (opened : link.Open round following) (rested : link.Rested) :
    link.obtained = link.sent ++ link.pending := by
  obtain ⟨rfl, rfl⟩ : round = .ready ∧ following = .none := by
    by_contra unfinished
    obtain ⟨input, moves⟩ := opened.server.goes_on unfinished
    exact rested.stuck moves
  have returned : (link.client.callers 0).outside = true := by
    by_contra entered
    obtain ⟨input, moves⟩ := opened.call_moves rfl
      (Bool.eq_false_iff.mpr entered)
    exact rested.stuck moves
  rw [pending, if_pos returned, opened.history.sent, opened.history.fetched]
  simp [outstanding, Round.unread, Round.unseen]

/-- What has been sent and what is pending changes with the caller only. -/
theorem calls_same (client : next.client.callers = link.client.callers)
    (call : next.call = link.call) (sent : next.sent = link.sent) :
    next.sent ++ next.pending = link.sent ++ link.pending ++ [] := by
  rw [pending, pending, client, call, sent, List.append_nil]

theorem Healthy.callerStep_calls (healthy : link.Healthy)
    (open_ : input ≠ .destroyClient)
    (moved : link.callerStep input = some next) :
    next.sent ++ next.pending =
      link.sent ++ link.pending ++ called [input] := by
  cases input <;> simp only [Link.callerStep, reduceCtorEq] at moved
  case sendMessage message =>
    obtain ⟨stepped, moves, rfl⟩ := onClient_some moved
    obtain ⟨outside, equal⟩ := Option.ite_none_right_eq_some.mp moves
    cases equal
    have before : link.pending = [] := if_pos outside
    rw [before]
    simp [pending, Client.setCaller, Client.setState, CallerStage.outside,
      called, LinkInput.message]
  case copyMessage =>
    obtain ⟨stepped, moves, rfl⟩ := onClient_some moved
    obtain ⟨stage, equal⟩ := Option.ite_none_right_eq_some.mp moves
    cases equal
    simp [pending, Client.setCaller, stage, CallerStage.outside, called,
      LinkInput.message]
  case rdmaRkey =>
    obtain ⟨stepped, moves, rfl⟩ := onClient_some moved
    obtain ⟨stage, equal⟩ := Option.ite_none_right_eq_some.mp moves
    cases equal
    simp [pending, makeMessage, Client.setCaller, stage, CallerStage.outside,
      called, LinkInput.message]
  case checkState =>
    obtain ⟨stepped, moves, rfl⟩ := onClient_some moved
    obtain ⟨stage, equal⟩ := Option.ite_none_right_eq_some.mp moves
    rw [if_neg healthy.client.state] at equal
    cases equal
    simp [pending, Client.setCaller, stage, CallerStage.outside, called,
      LinkInput.message]
  case postSend =>
    obtain ⟨stepped, moves, rfl⟩ := onClient_some moved
    obtain ⟨stage, equal⟩ := Option.ite_none_right_eq_some.mp moves
    cases equal
    simp [pending, Client.setCaller, stage, CallerStage.outside, called,
      LinkInput.message]
  case destroyClient => exact absurd rfl open_

theorem Healthy.calls (healthy : link.Healthy)
    (open_ : input ≠ .destroyClient)
    (moved : link.step input = some next) :
    next.sent ++ next.pending =
      link.sent ++ link.pending ++ called [input] := by
  obtain caller | callback | network | callback | thread := step_cases moved
  · exact healthy.callerStep_calls open_ caller
  · cases input <;>
      simp only [Link.clientCallback, reduceCtorEq] at callback
    case clientCqEvent =>
      obtain ⟨_, callback⟩ := Option.ite_none_left_eq_some.mp callback
      obtain ⟨_, _, rfl⟩ := onClientCallback_some callback
      exact calls_same rfl rfl rfl
    all_goals
      obtain ⟨_, _, rfl⟩ := onClientCallback_some callback
      exact calls_same rfl rfl rfl
  · cases input <;> simp only [Link.networkStep, reduceCtorEq] at network
    case disconnect =>
      rw [healthy.standing] at network
      cases network
    case executeRead =>
      split at network
      · cases network
      · cases network
        exact calls_same rfl rfl rfl
    all_goals
      split at network
      · cases network
      · obtain ⟨_, equal⟩ := Option.ite_none_right_eq_some.mp network
        cases equal
        exact calls_same rfl rfl rfl
  · cases input <;>
      simp only [Link.serverCallback, reduceCtorEq] at callback
    case serverCqEvent =>
      obtain ⟨_, callback⟩ := Option.ite_none_left_eq_some.mp callback
      obtain ⟨_, _, rfl⟩ := onServer_some callback
      exact calls_same rfl rfl rfl
    all_goals
      obtain ⟨_, _, rfl⟩ := onServer_some callback
      exact calls_same rfl rfl rfl
  · cases input <;> simp only [Link.threadStep, reduceCtorEq] at thread
    case serverWake =>
      obtain ⟨server, _, rfl⟩ := onServer_some thread
      by_cases complete : server.stage = .readComplete
      · simp only [if_pos complete]
        exact calls_same rfl rfl rfl
      · simp only [if_neg complete]
        exact calls_same rfl rfl rfl
    all_goals
      obtain ⟨_, _, rfl⟩ := onServer_some thread
      exact calls_same rfl rfl rfl

theorem run_calls {last : Link Message} {inputs : List (LinkInput Message)}
    {allowed : Link Message → LinkInput Message → Prop}
    (healthy : link.Healthy)
    (run : (linkMachine Message).Run (Undisturbed allowed) link inputs last) :
    last.sent ++ last.pending =
      link.sent ++ link.pending ++ called inputs := by
  induction run with
  | nil link => exact (List.append_nil _).symm
  | cons admitted moved _ induction =>
      have first := healthy.calls admitted.2 moved
      have rest := induction (healthy.step admitted.2 moved).1
      rw [rest, first, List.append_assoc, called, called, called,
        ← List.filterMap_append]
      rfl

end Link

/-- A connection whose calls and completions do not hurry the server comes
to rest whatever it does next, and the server has then obtained the messages
of all calls in their order. -/
theorem unhurried_delivered {Message : Type} {start link : Link Message}
    {inputs : List (LinkInput Message)} (connected : start.Connected)
    (run : (linkMachine Message).Run Link.Unhurried start inputs link)
    (standing : link.destroyed = false) :
    (∃ more last, (linkMachine Message).Run Link.Unhurried link more last ∧
      called more = [] ∧ last.destroyed = false ∧ last.Rested) ∧
    ∀ more last, (linkMachine Message).Run Link.Unhurried link more last →
      called more = [] → last.destroyed = false →
        inputs.length + more.length ≤ 33 * (called inputs).length + 2 ∧
          (last.Rested → last.obtained = called inputs) := by
  have before := (Link.run_undisturbed run standing).1
  have healthy := before.preserves Link.Healthy
    (Link.budget Link.Unhurried).preserved connected.healthy
  refine ⟨?_, ?_⟩
  · obtain ⟨more, last, after, free, rested⟩ :=
      (Link.budget Link.Unhurried).rests healthy
    refine ⟨more, last, after.mono fun _ _ admitted => admitted.1, ?_,
      (after.preserves Link.Healthy
        (Link.budget Link.Unhurried).preserved healthy).standing, rested⟩
    apply List.filterMap_eq_nil_iff.mpr
    intro input member
    have nothing := free input member
    cases input with
    | sendMessage message => cases nothing
    | _ => rfl
  · intro more last after uncalled stands
    have whole := before.append (Link.run_undisturbed after stands).1
    have calls : called (inputs ++ more) = called inputs := by
      rw [called, List.filterMap_append]
      exact (congrArg (called inputs ++ ·) uncalled).trans
        (List.append_nil _)
    refine ⟨?_, ?_⟩
    · have spent := (Link.budget Link.Unhurried).run connected.healthy whole
      rw [grants, connected.work, calls, List.length_append] at spent
      omega
    · intro rested
      have sent := Link.run_calls connected.healthy whole
      obtain ⟨round, following, opened⟩ | closed :=
        whole.preserves Link.Delivering
          (fun _ _ _ delivering admitted moved =>
            delivering.step admitted.1 moved) connected.delivering
      · rw [opened.rested rested, sent, calls, connected.sent,
          Link.pending, connected.callers]
        rfl
      · rw [closed.destroyed] at stands
        cases stands

theorem unhurried_delivered_hello :
    ∃ link more last,
      (linkMachine String).Run Link.Unhurried (Link.fresh "")
        [.sendMessage "hello"] link ∧
      (linkMachine String).Run Link.Unhurried link more last ∧
        last.obtained = ["hello"] := by
  have entered : ∃ link, (linkMachine String).Run Link.Unhurried
      (Link.fresh "") [.sendMessage "hello"] link ∧
        link.destroyed = false :=
    ⟨_, Machine.run_of_execIf
      (fun link input admitted => of_decide_eq_true admitted) rfl, rfl⟩
  obtain ⟨link, run, standing⟩ := entered
  obtain ⟨⟨more, last, after, uncalled, stands, rested⟩, delivered⟩ :=
    unhurried_delivered (Link.fresh_connected "") run standing
  exact ⟨link, more, last, run, after,
    (delivered more last after uncalled stands).2 rested⟩

end Rshm.Rdma
