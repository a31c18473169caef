import Rshm.Rdma.Round

/-!
# Exactly-once delivery

A connection is delivering while it is in some round, and stays so after the
disconnect.  The main theorem reads the delivery guarantee off that
invariant; the runs at the end show what an impatient caller breaks.
-/

namespace Rshm.Rdma

namespace Link

variable {Message : Type}

theorem Closed.onClient {link next : Link Message} {input : ClientInput}
    {effect : Link Message → Link Message} (closed : link.Closed)
    (moved : link.onClient input effect = some next) : False := by
  rw [Link.onClient, if_pos closed.destroyed] at moved
  cases moved

theorem Closed.networkStep {link next : Link Message}
    {input : LinkInput Message} (closed : link.Closed)
    (moved : link.networkStep input = some next) : next.Closed := by
  cases input <;> try (simp only [Link.networkStep, reduceCtorEq] at moved)
  case deliverAdvert =>
    rw [closed.adverts] at moved
    cases moved
  case executeRead =>
    rw [closed.read] at moved
    cases moved
  case deliverGoAhead =>
    split at moved
    · cases moved
    · obtain ⟨_, equal⟩ := Option.ite_none_right_eq_some.mp moved
      cases equal
      refine { closed with serverCq := ?_, succeeded := ?_ }
      · rw [signals_append, closed.serverCq]
        rfl
      · exact succeeded_append closed.succeeded sendCompletion_succeeded
  case disconnect =>
    rw [if_pos closed.destroyed] at moved
    obtain ⟨handler, handled, rfl⟩ := onCallback_some moved
    cases handled
    refine { closed with state := ?_ }
    intro advertised
    cases advertised

theorem Closed.serverCallback {link next : Link Message}
    {input : LinkInput Message} (closed : link.Closed)
    (moved : link.serverCallback input = some next) : next.Closed := by
  cases input <;> try (simp only [Link.serverCallback, reduceCtorEq] at moved)
  case serverCqEvent =>
    obtain ⟨_, moved⟩ := Option.ite_none_left_eq_some.mp moved
    obtain ⟨handler, handled, rfl⟩ := onCallback_some moved
    obtain ⟨_, equal⟩ := Option.ite_none_right_eq_some.mp handled
    cases equal
    unfold nmsgCqEventHandler
    split
    · exact { closed with }
    · exact { closed with cq := rfl }
  case serverPoll =>
    obtain ⟨handler, handled, rfl⟩ := onCallback_some moved
    obtain ⟨_, equal⟩ := Option.ite_none_right_eq_some.mp handled
    cases queue : link.serverCq with
    | nil =>
        rw [queue] at equal
        cases equal
        refine { closed with cq := rfl, serverCq := rfl, succeeded := ?_ }
        intro wc member
        cases member
    | cons wc rest =>
        obtain ⟨status, _⟩ := closed.succeeded wc (by simp [queue])
        have signalled := closed.serverCq
        rw [queue, signals_cons] at signalled
        have opcode : wc.opcode = .send := by
          by_contra other
          rw [if_neg other] at signalled
          cases signalled
        rw [if_pos opcode] at signalled
        simp only [queue, takeCompletion, pollCq, handleWc, status, opcode,
          Option.some.injEq] at equal ⊢
        subst equal
        refine { closed with serverCq := signalled, succeeded := ?_ }
        intro entry member
        exact closed.succeeded entry (by simp [queue, member])
  case serverRecvWrite =>
    obtain ⟨handler, handled, rfl⟩ := onCallback_some moved
    rw [Handler.step] at handled
    split at handled
    · next state received =>
        have settled := closed.cq
        rw [received] at settled
        cases settled
    · cases handled
  case serverPostRecv =>
    obtain ⟨handler, handled, rfl⟩ := onCallback_some moved
    obtain ⟨_, equal⟩ := Option.ite_none_right_eq_some.mp handled
    cases equal
    exact { closed with cq := rfl }

theorem Closed.stages {link : Link Message} (closed : link.Closed)
    {stage : ServerStage} (reached : link.server.stage = stage) :
    stage ≠ .registering ∧ stage ≠ .postingRead ∧
      stage ≠ .waitReadComplete := by
  have stages := closed.stage
  rw [reached] at stages
  obtain listening | rfl | ⟨ret, rfl⟩ := stages
  · cases stage <;> simp [ServerStage.listening] at listening ⊢
  · simp
  · simp

theorem Closed.threadStep {link next : Link Message}
    {input : LinkInput Message} (closed : link.Closed)
    (moved : link.threadStep input = some next) : next.Closed := by
  cases input <;> try (simp only [Link.threadStep, reduceCtorEq] at moved)
  case serverWake =>
    obtain ⟨server, stepped, rfl⟩ := onServer_some moved
    simp only [Server.step, Server.wake] at stepped
    split at stepped
    · obtain ⟨_, equal⟩ := Option.ite_none_right_eq_some.mp stepped
      split at equal
      · cases equal
        exact { closed with stage := .inr (.inr ⟨-1, rfl⟩) }
      · cases equal
        exact { closed with stage := .inl rfl }
    · obtain ⟨_, equal⟩ := Option.ite_none_right_eq_some.mp stepped
      rw [if_neg closed.state] at equal
      cases equal
      exact { closed with stage := .inr (.inr ⟨-1, rfl⟩) }
    · next stage => exact absurd rfl (closed.stages stage).2.2
    · cases stepped
  case serverRkey =>
    obtain ⟨server, stepped, rfl⟩ := onServer_some moved
    obtain ⟨stage, _⟩ := Option.ite_none_right_eq_some.mp stepped
    exact absurd rfl (closed.stages stage).1
  case postRead =>
    obtain ⟨server, stepped, rfl⟩ := onServer_some moved
    obtain ⟨stage, _⟩ := Option.ite_none_right_eq_some.mp stepped
    exact absurd rfl (closed.stages stage).2.1
  case writeConnected =>
    obtain ⟨server, stepped, rfl⟩ := onServer_some moved
    obtain ⟨stage, equal⟩ := Option.ite_none_right_eq_some.mp stepped
    cases equal
    refine { closed with state := ?_, stage := .inl rfl }
    intro advertised
    cases advertised
  case postGoAhead =>
    obtain ⟨server, stepped, rfl⟩ := onServer_some moved
    obtain ⟨stage, equal⟩ := Option.ite_none_right_eq_some.mp stepped
    cases equal
    exact { closed with stage := .inl rfl }

theorem Closed.callerStep {link next : Link Message}
    {input : LinkInput Message} (closed : link.Closed)
    (moved : link.callerStep input = some next) : False := by
  cases input <;> try (simp only [Link.callerStep, reduceCtorEq] at moved)
  case destroyClient =>
    rw [if_pos (.inl closed.destroyed)] at moved
    cases moved
  all_goals exact closed.onClient moved

theorem Closed.clientCallback {link next : Link Message}
    {input : LinkInput Message} (closed : link.Closed)
    (moved : link.clientCallback input = some next) : False := by
  cases input <;> try (simp only [Link.clientCallback, reduceCtorEq] at moved)
  case clientCqEvent =>
    obtain ⟨_, moved⟩ := Option.ite_none_left_eq_some.mp moved
    exact closed.onClient moved
  all_goals exact closed.onClient moved

theorem step_cases {link next : Link Message} {input : LinkInput Message}
    (moved : link.step input = some next) :
    link.callerStep input = some next ∨
      link.clientCallback input = some next ∨
      link.networkStep input = some next ∨
      link.serverCallback input = some next ∨
      link.threadStep input = some next := by
  cases input with
  | sendMessage _ | copyMessage | rdmaRkey | checkState | postSend
  | destroyClient => exact .inl moved
  | clientCqEvent | clientPoll | clientRecvWrite | clientPostRecv =>
      exact .inr (.inl moved)
  | deliverAdvert | executeRead | deliverGoAhead | disconnect =>
      exact .inr (.inr (.inl moved))
  | serverCqEvent | serverPoll | serverRecvWrite | serverPostRecv =>
      exact .inr (.inr (.inr (.inl moved)))
  | serverWake | serverRkey | postRead | writeConnected | postGoAhead =>
      exact .inr (.inr (.inr (.inr moved)))

theorem Delivering.step {link next : Link Message}
    {input : LinkInput Message} (delivering : link.Delivering)
    (unhurried : link.Unhurried input)
    (moved : link.step input = some next) : next.Delivering := by
  obtain ⟨round, following, opened⟩ | closed := delivering
  · obtain caller | callback | network | callback | thread := step_cases moved
    · exact opened.callerStep unhurried caller
    · exact .inl ⟨round, following, opened.clientCallback callback⟩
    · exact opened.networkStep network
    · exact opened.serverCallback unhurried callback
    · exact opened.threadStep thread
  · obtain caller | callback | network | callback | thread := step_cases moved
    · exact (closed.callerStep caller).elim
    · exact (closed.clientCallback callback).elim
    · exact .inr (closed.networkStep network)
    · exact .inr (closed.serverCallback callback)
    · exact .inr (closed.threadStep thread)

theorem Connected.delivering {link : Link Message}
    (connected : link.Connected) : link.Delivering := by
  refine .inl ⟨.ready, .none, connected.destroyed, ?_, ?_, ?_⟩
  · constructor
    · rw [connected.serverState]
      exact (by decide : 2 ≤ 5)
    · rw [connected.stage]
      rfl
    · rw [connected.serverCq]
      rfl
    · rw [connected.read]
      rfl
    · rw [connected.adverts]
      rfl
    · rw [connected.serverCompletions]
      rfl
    · rw [connected.serverCompletions]
      intro wc member
      cases member
    · exact fun _ => rfl
    · rw [connected.serverRecvPosted, connected.serverCq]
      rfl
    · exact fun arrived => nomatch arrived
  · constructor
    · rw [connected.fetched, connected.obtained]
      rfl
    · rw [connected.sent, connected.fetched]
      rfl
  · rw [connected.callers]
    exact fun copied => nomatch copied

theorem delivering_invariant :
    (linkMachine Message).Invariant Unhurried Delivering :=
  ⟨fun _ => Connected.delivering, fun _ _ _ => Delivering.step⟩

/-- Nothing can move any more but a new call. -/
def Quiescent (link : Link Message) : Prop :=
  ∀ input next, link.step input = some next →
    (∃ message, input = .sendMessage message) ∨ input = .destroyClient

theorem Quiescent.stuck {link : Link Message} (quiescent : link.Quiescent)
    (input : LinkInput Message)
    (uncalled : ∀ message, input ≠ .sendMessage message)
    (undestroyed : input ≠ .destroyClient)
    (moves : (link.step input).isSome = true) : False := by
  obtain ⟨next, moved⟩ := Option.isSome_iff_exists.mp moves
  obtain ⟨message, called⟩ | destroyed := quiescent input next moved
  · exact uncalled message called
  · exact undestroyed destroyed

theorem Quiescent.noCompletion {link : Link Message}
    (quiescent : link.Quiescent)
    (settled : link.server.handler.cq.settled = true) :
    link.serverCq = [] := by
  by_contra queued
  cases stage : link.server.handler.cq with
  | received state =>
      rw [stage] at settled
      cases settled
  | idle =>
      apply quiescent.stuck .serverCqEvent <;>
        simp [Link.step, Link.serverCallback, onServer, Server.step,
          Handler.step, stage, queued]
  | polling =>
      apply quiescent.stuck .serverPoll <;>
        simp [Link.step, Link.serverCallback, onServer, Server.step,
          Handler.step, stage]
  | posting =>
      apply quiescent.stuck .serverPostRecv <;>
        simp [Link.step, Link.serverCallback, onServer, Server.step,
          Handler.step, stage]

theorem Quiescent.noMessage {link : Link Message} {round : Round}
    {following : Following} (quiescent : link.Quiescent)
    (inRound : link.InRound round following) :
    round = .ready ∧ following = .none := by
  have state := inRound.state
  have stage := inRound.stage
  have cq := inRound.cq
  have serverCq := inRound.serverCq
  cases round with
  | received =>
      exfalso
      apply quiescent.stuck .serverRecvWrite <;>
        simp [Link.step, Link.serverCallback, onServer, Server.step,
          Handler.step, show link.server.handler.cq = _ from cq]
  | advertised =>
      exfalso
      have advertised : link.server.handler.state = .rdmaReadAdv := state
      obtain listening | registering | posting :
          link.server.stage.listening = true ∨
            link.server.stage = .registering ∨
            link.server.stage = .postingRead := stage
      · obtain waiting | waiting | posting :=
          ServerStage.listening_cases listening
        · apply quiescent.stuck .serverWake <;>
            simp [Link.step, Link.threadStep, onServer, Server.step,
              Server.wake, Server.awake, waiting, advertised, NmsgState.value]
        · apply quiescent.stuck .serverWake <;>
            simp [Link.step, Link.threadStep, onServer, Server.step,
              Server.wake, Server.awake, waiting, advertised]
        · apply quiescent.stuck .postGoAhead <;>
            simp [Link.step, Link.threadStep, onServer, Server.step, posting]
      · apply quiescent.stuck .serverRkey <;>
          simp [Link.step, Link.threadStep, onServer, Server.step, registering]
      · apply quiescent.stuck .postRead <;>
          simp [Link.step, Link.threadStep, onServer, Server.step, posting]
  | reading =>
      exfalso
      have read := inRound.read
      obtain ⟨data, reading⟩ := Option.isSome_iff_exists.mp read
      apply quiescent.stuck .executeRead <;>
        simp [Link.step, Link.networkStep, reading]
  | fetched =>
      have empty := quiescent.noCompletion cq
      rw [empty] at serverCq
      cases serverCq
  | complete =>
      exfalso
      have complete : link.server.handler.state = .rdmaReadComplete := state
      apply quiescent.stuck .serverWake <;>
        simp [Link.step, Link.threadStep, onServer, Server.step, Server.wake,
          Server.awake, show link.server.stage = _ from stage, complete]
  | obtained =>
      exfalso
      apply quiescent.stuck .writeConnected <;>
        simp [Link.step, Link.threadStep, onServer, Server.step,
          show link.server.stage = _ from stage]
  | ready =>
      refine ⟨rfl, ?_⟩
      have empty := quiescent.noCompletion cq
      cases following with
      | none => rfl
      | arrived =>
          rw [empty] at serverCq
          cases serverCq
      | posted =>
          exfalso
          have adverts := inRound.adverts
          have posted := inRound.recvPosted
          cases waiting : link.adverts with
          | nil =>
              rw [waiting] at adverts
              cases adverts
          | cons data rest =>
              cases stage : link.server.handler.cq with
              | received state =>
                  rw [stage] at cq
                  cases cq
              | posting =>
                  apply quiescent.stuck .serverPostRecv <;>
                    simp [Link.step, Link.serverCallback, onServer,
                      Server.step, Handler.step, stage]
              | idle | polling =>
                  rw [stage] at posted
                  apply quiescent.stuck .deliverAdvert <;>
                    simp [Link.step, Link.networkStep, waiting, posted,
                      CqStage.holdsRecv]

/-- What the record of a run has to say: the server has obtained a first
part of what was sent, all of it when nothing can move any more or the
client has disconnected, and its loop has not ended before that. -/
structure ExactlyOnce (link : Link Message) : Prop where
  inOrder : link.obtained <+: link.sent
  complete : link.Quiescent → link.obtained = link.sent
  disconnected : link.destroyed = true → link.obtained = link.sent
  stays : ∀ ret, link.server.stage = .left ret → link.destroyed = true

theorem Open.exactlyOnce {round : Round} {following : Following}
    {link : Link Message} (opened : link.Open round following) :
    link.ExactlyOnce := by
  obtain ⟨standing, inRound, history, _⟩ := opened
  refine ⟨?_, ?_, ?_, ?_⟩
  · rw [history.sent, history.fetched, List.append_assoc]
    exact List.prefix_append _ _
  · intro quiescent
    obtain ⟨rfl, rfl⟩ := quiescent.noMessage inRound
    rw [history.sent, history.fetched]
    simp [outstanding, Round.unread, Round.unseen]
  · intro destroyed
    rw [standing] at destroyed
    cases destroyed
  · intro ret left
    have fits := Round.fits_stage inRound.stage
    rw [left] at fits
    exact fits.elim

theorem Closed.exactlyOnce {link : Link Message} (closed : link.Closed) :
    link.ExactlyOnce :=
  ⟨closed.delivered ▸ List.prefix_refl _, fun _ => closed.delivered,
    fun _ => closed.delivered, fun _ _ => closed.destroyed⟩

end Link

/-- Delivery is exactly once and in order in every run whose calls and
completions do not hurry the server. -/
theorem unhurried_exactlyOnce (Message : Type) (link : Link Message)
    (reached : (linkMachine Message).Reaches Link.Unhurried link) :
    link.ExactlyOnce := by
  obtain ⟨round, following, opened⟩ | closed :=
    Link.delivering_invariant.reaches reached
  · exact opened.exactlyOnce
  · exact closed.exactlyOnce

/-- A fresh connection whose buffers all hold `blank`. -/
def Link.fresh {Message : Type} (blank : Message) : Link Message :=
  { client := ⟨{ Handler.fresh with state := .connected }, fun _ => .idle⟩
    server := ⟨{ Handler.fresh with state := .connectRequest }, .waitConnected⟩
    call := blank
    startBuf := blank
    startDmaAddr := 4096
    messageSize := 1024
    rkey := 0
    key := 0
    sendBuf := ⟨0, 0, 0⟩
    rdmaWr := ⟨0, 0, 0⟩
    rdmaBuf := blank
    adverts := []
    serverRecvPosted := true
    serverCq := []
    read := none
    goAheads := []
    clientRecvPosted := true
    clientCq := []
    destroyed := false
    sent := []
    fetched := []
    obtained := [] }

theorem Link.fresh_connected {Message : Type} (blank : Message) :
    (Link.fresh blank).Connected := by
  constructor <;> rfl

/-- One call of `nmsg_send_message`, run to its end. -/
def sendInputs {Message : Type} (message : Message) :
    List (LinkInput Message) :=
  [.sendMessage message, .copyMessage, .rdmaRkey, .checkState, .postSend]

/-- The server's callback and thread from an advertisement to the posted
read. -/
def readInputs {Message : Type} : List (LinkInput Message) :=
  [.deliverAdvert, .serverCqEvent, .serverPoll, .serverRecvWrite,
    .serverPostRecv, .serverWake, .serverWake, .serverRkey, .postRead]

theorem unhurried_exactlyOnce_hello :
    ∃ link, (linkMachine String).Reaches Link.Unhurried link ∧
      link.ExactlyOnce ∧ link.obtained = ["hello"] := by
  have reached : ∃ link, (linkMachine String).Reaches Link.Unhurried link ∧
      link.obtained = ["hello"] :=
    ⟨_, Machine.reaches_of_execIf
      (fun link input admitted => of_decide_eq_true admitted)
      (sendInputs "hello" ++ readInputs ++
        [.executeRead, .serverPoll, .serverWake])
      (Link.fresh_connected "") rfl, rfl⟩
  obtain ⟨link, reached, obtained⟩ := reached
  exact ⟨link, reached, unhurried_exactlyOnce String link reached, obtained⟩

/-- Nothing makes the caller wait.  A second message overwrites the first
before it is read; an advertisement that finds `RDMA_READ_COMPLETE` ends the
server's loop; and a disconnect drops a message whose call returned 0. -/
theorem hurried_not_exactlyOnce :
    (∃ link, (linkMachine String).Reachable link ∧
      link.sent = ["first"] ∧ link.obtained = ["second"] ∧
        ¬ link.ExactlyOnce) ∧
    (∃ link, (linkMachine String).Reachable link ∧
      link.destroyed = false ∧ link.server.stage = .left (-1) ∧
        ¬ link.ExactlyOnce) ∧
    (∃ link, (linkMachine String).Reachable link ∧
      link.destroyed = true ∧ link.sent = ["first"] ∧ link.obtained = [] ∧
        ¬ link.ExactlyOnce) := by
  refine ⟨?_, ?_, ?_⟩
  · refine ⟨_, Machine.reachable_of_exec
      (sendInputs "first" ++ readInputs ++
        [.sendMessage "second", .copyMessage, .executeRead, .serverPoll,
          .serverWake])
      (Link.fresh_connected "") rfl, rfl, rfl, ?_⟩
    intro exactlyOnce
    have inOrder : ["second"] <+: ["first"] := exactlyOnce.inOrder
    exact absurd inOrder (by decide)
  · refine ⟨_, Machine.reachable_of_exec
      (sendInputs "first" ++ readInputs ++ [.executeRead, .serverPoll] ++
        sendInputs "second" ++ [.deliverAdvert, .serverPoll,
          .serverRecvWrite, .serverWake, .serverWake])
      (Link.fresh_connected "") rfl, rfl, rfl, ?_⟩
    intro exactlyOnce
    have destroyed : false = true := exactlyOnce.stays (-1) rfl
    cases destroyed
  · refine ⟨_, Machine.reachable_of_exec
      (sendInputs "first" ++ [.deliverAdvert, .destroyClient, .disconnect])
      (Link.fresh_connected "") rfl, rfl, rfl, rfl, ?_⟩
    intro exactlyOnce
    have delivered : [] = ["first"] := exactlyOnce.disconnected rfl
    cases delivered

end Rshm.Rdma
