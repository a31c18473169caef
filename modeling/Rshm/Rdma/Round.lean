import Rshm.Rdma.Delivery

/-!
# The rounds of the server

The server goes through one round for each message.  The invariant names the
point its round has reached and where the next advertisement is, and reads
off which messages the record of the run must hold.
-/

namespace Rshm.Rdma

/-- How far the server is with the message of its current round. -/
inductive Round where
  | ready
  | received
  | advertised
  | reading
  | fetched
  | complete
  | obtained
  deriving DecidableEq

/-- Where the advertisement is that the server has not looked at yet. -/
inductive Following where
  | none
  | posted
  | arrived
  deriving DecidableEq

/-- The stages in which the thread has no message in hand. -/
def ServerStage.listening : ServerStage → Bool
  | waitConnected | waitReadAdv | postingGoAhead => true
  | _ => false

/-- The callback is not about to write the state word. -/
def CqStage.settled : CqStage → Bool
  | received _ => false
  | _ => true

/-- The callback has taken the one receive and has not posted it again. -/
def CqStage.holdsRecv : CqStage → Bool
  | received _ | posting => true
  | _ => false

namespace Round

def state : Round → NmsgState → Prop
  | ready, state | received, state => state.value ≤ NmsgState.connected.value
  | advertised, state | reading, state | fetched, state =>
      state = .rdmaReadAdv
  | complete, state | obtained, state => state = .rdmaReadComplete

def stage : Round → ServerStage → Prop
  | ready, stage | received, stage => stage.listening = true
  | advertised, stage =>
      stage.listening = true ∨ stage = .registering ∨ stage = .postingRead
  | reading, stage | fetched, stage | complete, stage =>
      stage = .waitReadComplete
  | obtained, stage => stage = .readComplete

def cq : Round → CqStage → Prop
  | received, cq => cq = .received .rdmaReadAdv
  | _, cq => cq.settled = true

/-- The completions, other than those of sends, that belong to the round. -/
def signals : Round → List WcOpcode
  | fetched => [.rdmaRead]
  | _ => []

/-- The round's message is still in the client's buffer only. -/
def unread : Round → Bool
  | received | advertised | reading => true
  | _ => false

/-- The round's message is in `rdma_buf` and the thread has not seen it. -/
def unseen : Round → Bool
  | fetched | complete => true
  | _ => false

end Round

def Following.adverts : Following → Nat
  | posted => 1
  | _ => 0

def Following.signals : Following → List WcOpcode
  | arrived => [.recv]
  | _ => []

/-- The completions of a queue that are not those of sends. -/
def signals (cq : List Wc) : List WcOpcode :=
  (cq.map (·.opcode)).filter (· ≠ .send)

/-- A completion that no verb failed for. -/
def Wc.succeeded (wc : Wc) : Prop :=
  wc.status = .success ∧ (wc.opcode = .recv → wc.byteLen = NmsgData.sizeof)

def AllSucceeded (cq : List Wc) : Prop :=
  ∀ wc ∈ cq, wc.succeeded

/-- Whether the client's buffer holds a message that has been sent and not
been read. -/
def outstanding (round : Round) (following : Following) : Bool :=
  round.unread || decide (following ≠ .none)

/-- The stages of a call in which the message is in `start_buf` and its
advertisement has not been posted. -/
def CallerStage.copied : CallerStage → Bool
  | registering | checking | posting => true
  | _ => false

theorem not_readAdv_le :
    ¬ NmsgState.rdmaReadAdv.value ≤ NmsgState.connected.value := by decide

theorem signals_append (front back : List Wc) :
    signals (front ++ back) =
      signals front ++ signals back := by
  simp [signals]

theorem signals_cons (wc : Wc) (rest : List Wc) :
    signals (wc :: rest) =
      if wc.opcode = .send then signals rest
      else wc.opcode :: signals rest := by
  by_cases send : wc.opcode = .send <;> simp [signals, send]

theorem succeeded_append {cq : List Wc} {wc : Wc}
    (front : AllSucceeded cq) (last : wc.succeeded) :
    AllSucceeded (cq ++ [wc]) := by
  intro entry member
  obtain earlier | final := List.mem_append.mp member
  · exact front entry earlier
  · rw [List.mem_singleton.mp final]
    exact last

theorem recvCompletion_succeeded (data : NmsgData) :
    (recvCompletion data).succeeded := ⟨rfl, fun _ => rfl⟩

theorem sendCompletion_succeeded : sendCompletion.succeeded :=
  ⟨rfl, fun receive => nomatch receive⟩

theorem readCompletion_succeeded : readCompletion.succeeded :=
  ⟨rfl, fun receive => nomatch receive⟩

theorem Round.cq_settled {round : Round} {cq : CqStage}
    (described : round.cq cq) (settled : cq.settled = true) (next : CqStage)
    (stays : next.settled = true) : round.cq next := by
  cases round with
  | received =>
      obtain rfl : cq = .received .rdmaReadAdv := described
      cases settled
  | _ => exact stays

theorem signals_rdmaRead {round : Round} {following : Following}
    {rest : List WcOpcode}
    (signalled : .rdmaRead :: rest = round.signals ++ following.signals) :
    round = .fetched ∧ rest = following.signals := by
  cases round <;> cases following <;>
    simp [Round.signals, Following.signals] at signalled ⊢ <;>
    exact signalled

theorem signals_recv {round : Round} {following : Following}
    {rest : List WcOpcode}
    (signalled : .recv :: rest = round.signals ++ following.signals) :
    round.signals = [] ∧ following = .arrived ∧ rest = [] := by
  cases round <;> cases following <;>
    simp [Round.signals, Following.signals] at signalled ⊢ <;>
    exact signalled

theorem signals_other {round : Round} {following : Following}
    {rest : List WcOpcode} :
    WcOpcode.other :: rest ≠ round.signals ++ following.signals := by
  cases round <;> cases following <;> simp [Round.signals, Following.signals]

/-- Only a round that has not begun has an advertisement to handle in a
state of at most `CONNECTED`. -/
theorem Round.ready_of_arrived {round : Round} {state : NmsgState}
    (described : round.state state) (unread : round.unread = false)
    (bound : state.value ≤ NmsgState.connected.value) : round = .ready := by
  cases round with
  | ready => rfl
  | received | advertised | reading => cases unread
  | fetched | complete | obtained =>
      obtain rfl : state = _ := described
      exact absurd bound (by decide)

theorem ServerStage.listening_cases {stage : ServerStage}
    (listening : stage.listening = true) :
    stage = .waitConnected ∨ stage = .waitReadAdv ∨
      stage = .postingGoAhead := by
  cases stage <;> simp [ServerStage.listening] at listening ⊢

/-- The rounds in which the thread can be at a stage. -/
def Round.fits (round : Round) : ServerStage → Prop
  | .registering | .postingRead => round = .advertised
  | .waitReadComplete =>
      round = .reading ∨ round = .fetched ∨ round = .complete
  | .readComplete => round = .obtained
  | .waitConnected | .waitReadAdv | .postingGoAhead =>
      round = .ready ∨ round = .received ∨ round = .advertised
  | _ => False

theorem Round.fits_stage {round : Round} {stage : ServerStage}
    (described : round.stage stage) : round.fits stage := by
  cases round with
  | ready | received =>
      obtain rfl | rfl | rfl := ServerStage.listening_cases described <;>
        simp [Round.fits]
  | advertised =>
      obtain listens | rfl | rfl : stage.listening = true ∨
          stage = .registering ∨ stage = .postingRead := described
      · obtain rfl | rfl | rfl := ServerStage.listening_cases listens <;>
          simp [Round.fits]
      · rfl
      · rfl
  | reading | fetched | complete =>
      obtain rfl : stage = .waitReadComplete := described
      simp [Round.fits]
  | obtained =>
      obtain rfl : stage = .readComplete := described
      rfl

namespace Link

variable {Message : Type}

/-- The server's side of a connection in a given round. -/
structure InRound (round : Round) (following : Following)
    (link : Link Message) : Prop where
  state : round.state link.server.handler.state
  stage : round.stage link.server.stage
  cq : round.cq link.server.handler.cq
  read : link.read.isSome = decide (round = .reading)
  adverts : link.adverts.length = following.adverts
  serverCq : Rdma.signals link.serverCq = round.signals ++ following.signals
  succeeded : AllSucceeded link.serverCq
  one : round.unread = true → following = .none
  recvPosted : link.serverRecvPosted =
    (!link.server.handler.cq.holdsRecv && decide (following ≠ .arrived))
  arrived : following = .arrived →
    link.server.handler.cq.holdsRecv = false

/-- What has been sent, fetched and obtained, given where the messages
are. -/
structure History (unsent unseen : Bool) (link : Link Message) : Prop where
  fetched : link.fetched =
    link.obtained ++ if unseen then [link.rdmaBuf] else []
  sent : link.sent = link.fetched ++ if unsent then [link.startBuf] else []

/-- An open connection. -/
structure Open (round : Round) (following : Following) (link : Link Message) :
    Prop where
  standing : link.destroyed = false
  server : link.InRound round following
  history : link.History (outstanding round following) round.unseen
  copied : (link.client.callers 0).copied = true →
    link.startBuf = link.call ∧ outstanding round following = false

/-- A connection after `nmsg_destroy_client`. -/
structure Closed (link : Link Message) : Prop where
  destroyed : link.destroyed = true
  delivered : link.obtained = link.sent
  state : link.server.handler.state ≠ .rdmaReadAdv
  stage : link.server.stage.listening = true ∨
    link.server.stage = .readComplete ∨ ∃ ret, link.server.stage = .left ret
  cq : link.server.handler.cq.settled = true
  read : link.read = none
  adverts : link.adverts = []
  serverCq : Rdma.signals link.serverCq = []
  succeeded : AllSucceeded link.serverCq

/-- The invariant of the runs in which delivery works. -/
def Delivering (link : Link Message) : Prop :=
  (∃ round following, link.Open round following) ∨ link.Closed

/-- The inputs that delivery works for: the buffer is filled again once the
server's read of it is done, an advertisement is handled when the server is
through with the message before it, and the connection is destroyed when
every message has been obtained. -/
def Unhurried (link : Link Message) : LinkInput Message → Prop
  | .copyMessage => link.fetched.length = link.sent.length
  | .serverPoll =>
      (link.serverCq.head?.map (·.opcode)) = some .recv →
        link.server.handler.state.value ≤ NmsgState.connected.value
  | .destroyClient => link.obtained.length = link.sent.length
  | _ => True

instance (link : Link Message) :
    (input : LinkInput Message) → Decidable (link.Unhurried input)
  | .copyMessage => inferInstanceAs (Decidable (_ = _))
  | .serverPoll => inferInstanceAs (Decidable (_ = _ → _ ≤ _))
  | .destroyClient => inferInstanceAs (Decidable (_ = _))
  | .sendMessage _ | .rdmaRkey | .checkState | .postSend => isTrue trivial
  | .clientCqEvent | .clientPoll | .clientRecvWrite | .clientPostRecv =>
      isTrue trivial
  | .deliverAdvert | .executeRead | .deliverGoAhead | .disconnect =>
      isTrue trivial
  | .serverCqEvent | .serverRecvWrite | .serverPostRecv => isTrue trivial
  | .serverWake | .serverRkey | .postRead | .writeConnected | .postGoAhead =>
      isTrue trivial

theorem Open.ofClient {round : Round} {following : Following}
    {link next : Link Message} (opened : link.Open round following)
    (server : next.server = link.server) (read : next.read = link.read)
    (adverts : next.adverts = link.adverts)
    (serverCq : next.serverCq = link.serverCq)
    (recvPosted : next.serverRecvPosted = link.serverRecvPosted)
    (destroyed : next.destroyed = link.destroyed)
    (history : next.History (outstanding round following) round.unseen)
    (copied : (next.client.callers 0).copied = true →
      next.startBuf = next.call ∧ outstanding round following = false) :
    next.Open round following := by
  obtain ⟨standing, inRound, _, _⟩ := opened
  refine ⟨destroyed.trans standing, ?_, history, copied⟩
  constructor
  · exact server ▸ inRound.state
  · exact server ▸ inRound.stage
  · exact server ▸ inRound.cq
  · exact read ▸ inRound.read
  · exact adverts ▸ inRound.adverts
  · exact serverCq ▸ inRound.serverCq
  · exact serverCq ▸ inRound.succeeded
  · exact inRound.one
  · rw [recvPosted, server]
    exact inRound.recvPosted
  · exact server ▸ inRound.arrived

theorem onClient_some {link next : Link Message} {input : ClientInput}
    {effect : Link Message → Link Message}
    (moved : link.onClient input effect = some next) :
    ∃ client, link.client.step input = some client ∧
      next = { effect link with client := client } := by
  unfold onClient at moved
  split at moved
  · cases moved
  · obtain ⟨client, stepped, equal⟩ := Option.map_eq_some_iff.mp moved
    exact ⟨client, stepped, equal.symm⟩

theorem onServer_some {link next : Link Message} {input : ServerInput}
    {effect : Server → Link Message → Link Message}
    (moved : link.onServer input effect = some next) :
    ∃ server, link.server.step input = some server ∧
      next = { effect server link with server := server } := by
  obtain ⟨server, stepped, equal⟩ := Option.map_eq_some_iff.mp moved
  exact ⟨server, stepped, equal.symm⟩

theorem outstanding_eq_false {round : Round} {following : Following}
    (nothing : outstanding round following = false) :
    round.unread = false ∧ following = .none := by
  simpa [outstanding] using nothing

theorem History.caughtUp {unseen unsent : Bool} {link : Link Message}
    (history : link.History unsent unseen)
    (caughtUp : link.fetched.length = link.sent.length) : unsent = false := by
  cases unsent with
  | false => rfl
  | true =>
      have length := congrArg List.length history.sent
      simp [caughtUp] at length

theorem History.drained {unseen unsent : Bool} {link : Link Message}
    (history : link.History unsent unseen)
    (drained : link.obtained.length = link.sent.length) :
    unsent = false ∧ unseen = false := by
  have sent := congrArg List.length history.sent
  have fetched := congrArg List.length history.fetched
  cases unsent <;> cases unseen <;> simp at sent fetched ⊢ <;> omega

theorem Open.closed {round : Round} {following : Following}
    {link : Link Message} (opened : link.Open round following)
    (nothing : outstanding round following = false)
    (seen : round.unseen = false) :
    ({ link with
      destroyed := true, adverts := [], read := none,
      goAheads := [] } : Link Message).Closed := by
  obtain ⟨read, rfl⟩ := outstanding_eq_false nothing
  obtain ⟨_, inRound, history, _⟩ := opened
  have delivered : link.obtained = link.sent := by
    rw [history.sent, history.fetched, nothing, seen]
    simp
  have rounds : round = .ready ∨ round = .obtained := by
    cases round <;> simp_all [Round.unread, Round.unseen]
  have state := inRound.state
  have stage := inRound.stage
  have cq := inRound.cq
  have serverCq := inRound.serverCq
  obtain rfl | rfl := rounds
  · refine ⟨rfl, delivered, ?_, .inl stage, cq, rfl, rfl, serverCq,
      inRound.succeeded⟩
    intro advertised
    rw [advertised] at state
    exact absurd (show 6 ≤ 5 from state) (by decide)
  · refine ⟨rfl, delivered, ?_, .inr (.inl stage), cq, rfl, rfl, serverCq,
      inRound.succeeded⟩
    intro advertised
    rw [advertised] at state
    cases state

/-- A call leaves the server's side alone, except that its last step posts
an advertisement. -/
theorem Open.callerStep {round : Round} {following : Following}
    {link next : Link Message} {input : LinkInput Message}
    (opened : link.Open round following) (unhurried : link.Unhurried input)
    (moved : link.callerStep input = some next) : next.Delivering := by
  have history := opened.history
  cases input <;> simp only [Link.callerStep, reduceCtorEq] at moved
  case sendMessage message =>
    obtain ⟨client, stepped, rfl⟩ := onClient_some moved
    obtain ⟨outside, equal⟩ := Option.ite_none_right_eq_some.mp stepped
    cases equal
    refine .inl ⟨round, following, opened.ofClient rfl rfl rfl rfl rfl rfl
      ⟨history.fetched, history.sent⟩ ?_⟩
    intro copied
    simp [Client.setCaller, CallerStage.copied] at copied
  case copyMessage =>
    obtain ⟨client, stepped, rfl⟩ := onClient_some moved
    obtain ⟨stage, equal⟩ := Option.ite_none_right_eq_some.mp stepped
    cases equal
    have nothing := history.caughtUp unhurried
    refine .inl ⟨round, following, opened.ofClient rfl rfl rfl rfl rfl rfl
      ⟨history.fetched, ?_⟩ fun _ => ⟨rfl, nothing⟩⟩
    have sent := history.sent
    rw [nothing] at sent ⊢
    exact sent
  case rdmaRkey =>
    obtain ⟨client, stepped, rfl⟩ := onClient_some moved
    obtain ⟨stage, equal⟩ := Option.ite_none_right_eq_some.mp stepped
    cases equal
    refine .inl ⟨round, following, opened.ofClient rfl rfl rfl rfl rfl rfl
      ⟨history.fetched, history.sent⟩ fun _ => opened.copied ?_⟩
    rw [stage]
    rfl
  case checkState =>
    obtain ⟨client, stepped, rfl⟩ := onClient_some moved
    obtain ⟨stage, equal⟩ := Option.ite_none_right_eq_some.mp stepped
    have copied : (link.client.callers 0).copied = true := by rw [stage]; rfl
    split at equal
    all_goals
      cases equal
      exact .inl ⟨round, following, opened.ofClient rfl rfl rfl rfl rfl rfl
        ⟨history.fetched, history.sent⟩ fun _ => opened.copied copied⟩
  case postSend =>
    obtain ⟨client, stepped, rfl⟩ := onClient_some moved
    obtain ⟨stage, equal⟩ := Option.ite_none_right_eq_some.mp stepped
    cases equal
    have copied : (link.client.callers 0).copied = true := by rw [stage]; rfl
    obtain ⟨buffered, nothing⟩ := opened.copied copied
    obtain ⟨read, rfl⟩ := outstanding_eq_false nothing
    obtain ⟨standing, inRound, _, _⟩ := opened
    refine .inl ⟨round, .posted, standing, ?_, ?_, ?_⟩
    · refine { inRound with adverts := ?_, one := ?_, recvPosted := ?_,
                            arrived := ?_ }
      · have empty := inRound.adverts
        simp only [Following.adverts, List.length_append] at empty ⊢
        simp [empty]
      · intro unread
        rw [read] at unread
        cases unread
      · exact inRound.recvPosted
      · intro arrived
        cases arrived
    · refine ⟨history.fetched, ?_⟩
      have sent := history.sent
      rw [nothing] at sent
      simp only [outstanding, sent, buffered]
      simp
    · intro copied
      simp [Client.setCaller, CallerStage.copied] at copied
  case destroyClient =>
    obtain ⟨_, equal⟩ := Option.ite_none_left_eq_some.mp moved
    cases equal
    obtain ⟨nothing, seen⟩ := history.drained unhurried
    exact .inr (opened.closed nothing seen)

theorem clientCallback_callers {link next : Link Message}
    {input : HandlerInput} {effect : Link Message → Link Message}
    (moved : link.onClient (.handler input) effect = some next) :
    next.client.callers = link.client.callers := by
  obtain ⟨client, stepped, rfl⟩ := onClient_some moved
  obtain ⟨handler, _, rfl⟩ := Option.map_eq_some_iff.mp stepped
  rfl

theorem Open.clientCallback {round : Round} {following : Following}
    {link next : Link Message} {input : LinkInput Message}
    (opened : link.Open round following)
    (moved : link.clientCallback input = some next) :
    next.Open round following := by
  have history := opened.history
  have keeps : ∀ (handlerInput : HandlerInput)
      (effect : Link Message → Link Message),
      link.onClient (.handler handlerInput) effect = some next →
      ({ effect link with client := link.client } : Link Message).Open
        round following → next.Open round following := by
    intro handlerInput effect stepped framed
    have callers := clientCallback_callers stepped
    obtain ⟨client, _, rfl⟩ := onClient_some stepped
    refine framed.ofClient rfl rfl rfl rfl rfl rfl
      ⟨framed.history.fetched, framed.history.sent⟩ ?_
    intro copied
    exact framed.copied (callers ▸ copied)
  cases input <;> simp only [Link.clientCallback, reduceCtorEq] at moved
  case clientCqEvent =>
    obtain ⟨_, moved⟩ := Option.ite_none_left_eq_some.mp moved
    exact keeps _ _ moved opened
  case clientPoll =>
    exact keeps _ _ moved (opened.ofClient rfl rfl rfl rfl rfl rfl
      ⟨history.fetched, history.sent⟩ opened.copied)
  case clientRecvWrite => exact keeps _ _ moved opened
  case clientPostRecv =>
    exact keeps _ _ moved (opened.ofClient rfl rfl rfl rfl rfl rfl
      ⟨history.fetched, history.sent⟩ opened.copied)

theorem Open.deliverAdvert {round : Round} {following : Following}
    {link next : Link Message} (opened : link.Open round following)
    (moved : link.networkStep .deliverAdvert = some next) :
    following = .posted ∧ next.Open round .arrived := by
  obtain ⟨standing, inRound, history, copied⟩ := opened
  simp only [Link.networkStep] at moved
  split at moved
  · cases moved
  · next data rest adverts =>
      obtain ⟨posted, equal⟩ := Option.ite_none_right_eq_some.mp moved
      cases equal
      have count := inRound.adverts
      have waiting := inRound.recvPosted
      have signalled := inRound.serverCq
      rw [adverts] at count
      rw [posted] at waiting
      have posted : following = .posted := by
        cases following <;> simp [Following.adverts] at count ⊢
      subst posted
      refine ⟨rfl, standing, ?_, ⟨history.fetched, ?_⟩, ?_⟩
      · refine { inRound with adverts := ?_, serverCq := ?_, succeeded := ?_,
                              one := ?_, recvPosted := ?_, arrived := ?_ }
        · simpa [Following.adverts] using count
        · rw [signals_append, signalled]
          simp [Following.signals, Rdma.signals, recvCompletion]
        · exact succeeded_append inRound.succeeded
            (recvCompletion_succeeded data)
        · intro unread
          cases inRound.one unread
        · simp
        · intro _
          simpa using waiting.symm
      · have sent := history.sent
        simpa [outstanding] using sent
      · intro stage
        obtain ⟨_, nothing⟩ := copied stage
        exact absurd nothing (by simp [outstanding])

theorem Open.executeRead {round : Round} {following : Following}
    {link next : Link Message} (opened : link.Open round following)
    (moved : link.networkStep .executeRead = some next) :
    next.Open .fetched following := by
  obtain ⟨standing, inRound, history, copied⟩ := opened
  simp only [Link.networkStep] at moved
  split at moved
  · cases moved
  · next data reading =>
      cases moved
      have posted := inRound.read
      rw [reading] at posted
      obtain rfl : round = .reading := by simpa using posted
      obtain rfl := inRound.one rfl
      refine ⟨standing, ?_, ?_, ?_⟩
      · refine ⟨inRound.state, inRound.stage, inRound.cq, rfl,
          inRound.adverts, ?_, ?_, (fun unread => nomatch unread),
          inRound.recvPosted, inRound.arrived⟩
        · rw [signals_append, inRound.serverCq]
          rfl
        · exact succeeded_append inRound.succeeded readCompletion_succeeded
      · constructor
        · have fetched := history.fetched
          simp only [Round.unseen, Bool.false_eq_true, if_false,
            List.append_nil] at fetched
          rw [fetched]
          rfl
        · have sent := history.sent
          rw [sent]
          simp [outstanding, Round.unread]
      · intro stage
        obtain ⟨_, nothing⟩ := copied stage
        exact absurd nothing (by simp [outstanding, Round.unread])

theorem Open.deliverGoAhead {round : Round} {following : Following}
    {link next : Link Message} (opened : link.Open round following)
    (moved : link.networkStep .deliverGoAhead = some next) :
    next.Open round following := by
  obtain ⟨standing, inRound, history, copied⟩ := opened
  simp only [Link.networkStep] at moved
  split at moved
  · cases moved
  · obtain ⟨_, equal⟩ := Option.ite_none_right_eq_some.mp moved
    cases equal
    refine ⟨standing, ?_, ⟨history.fetched, history.sent⟩, copied⟩
    refine { inRound with serverCq := ?_, succeeded := ?_ }
    · rw [signals_append, inRound.serverCq]
      simp [Rdma.signals, sendCompletion]
    · exact succeeded_append inRound.succeeded sendCompletion_succeeded

theorem Open.networkStep {round : Round} {following : Following}
    {link next : Link Message} {input : LinkInput Message}
    (opened : link.Open round following)
    (moved : link.networkStep input = some next) : next.Delivering := by
  cases input <;> try (simp only [Link.networkStep, reduceCtorEq] at moved)
  case deliverAdvert =>
    exact .inl ⟨round, .arrived, (opened.deliverAdvert moved).2⟩
  case executeRead =>
    exact .inl ⟨.fetched, following, opened.executeRead moved⟩
  case deliverGoAhead =>
    exact .inl ⟨round, following, opened.deliverGoAhead moved⟩
  case disconnect =>
    rw [opened.standing] at moved
    cases moved

theorem InRound.standing {round : Round} {following : Following}
    {link : Link Message} (inRound : link.InRound round following) :
    link.server.handler.state ≠ .error := by
  have state := inRound.state
  intro error
  rw [error] at state
  cases round with
  | ready | received => exact absurd (show 10 ≤ 5 from state) (by decide)
  | _ => cases state

theorem onCallback_some {link next : Link Message} {input : HandlerInput}
    {effect : Server → Link Message → Link Message}
    (moved : link.onServer (.handler input) effect = some next) :
    ∃ handler, link.server.handler.step serverSide input = some handler ∧
      next = { effect { link.server with handler := handler } link with
        server := { link.server with handler := handler } } := by
  obtain ⟨server, stepped, rfl⟩ := onServer_some moved
  obtain ⟨handler, handled, rfl⟩ := Option.map_eq_some_iff.mp stepped
  exact ⟨handler, handled, rfl⟩

theorem Open.serverCqEvent {round : Round} {following : Following}
    {link next : Link Message} (opened : link.Open round following)
    (moved : link.serverCallback .serverCqEvent = some next) :
    next.Open round following := by
  obtain ⟨standing, inRound, history, copied⟩ := opened
  simp only [Link.serverCallback] at moved
  obtain ⟨_, moved⟩ := Option.ite_none_left_eq_some.mp moved
  obtain ⟨handler, handled, rfl⟩ := onCallback_some moved
  obtain ⟨idle, equal⟩ := Option.ite_none_right_eq_some.mp handled
  rw [nmsgCqEventHandler, if_neg inRound.standing] at equal
  cases equal
  refine ⟨standing, ?_, ⟨history.fetched, history.sent⟩, copied⟩
  refine { inRound with cq := ?_, recvPosted := ?_, arrived := fun _ => rfl }
  · exact Round.cq_settled inRound.cq (by rw [idle]; rfl) _ rfl
  · have posted := inRound.recvPosted
    rw [idle] at posted
    exact posted

theorem Open.serverPostRecv {round : Round} {following : Following}
    {link next : Link Message} (opened : link.Open round following)
    (moved : link.serverCallback .serverPostRecv = some next) :
    next.Open round following := by
  obtain ⟨standing, inRound, history, copied⟩ := opened
  simp only [Link.serverCallback] at moved
  obtain ⟨handler, handled, rfl⟩ := onCallback_some moved
  obtain ⟨posting, equal⟩ := Option.ite_none_right_eq_some.mp handled
  cases equal
  refine ⟨standing, ?_, ⟨history.fetched, history.sent⟩, copied⟩
  refine { inRound with cq := ?_, recvPosted := ?_, arrived := fun _ => rfl }
  · exact Round.cq_settled inRound.cq (by rw [posting]; rfl) _ rfl
  · have arrived := inRound.arrived
    rw [posting] at arrived
    simpa [CqStage.holdsRecv] using arrived

theorem Open.serverRecvWrite {round : Round} {following : Following}
    {link next : Link Message} (opened : link.Open round following)
    (moved : link.serverCallback .serverRecvWrite = some next) :
    round = .received ∧ next.Open .advertised following := by
  obtain ⟨standing, inRound, history, copied⟩ := opened
  simp only [Link.serverCallback] at moved
  obtain ⟨handler, handled, rfl⟩ := onCallback_some moved
  rw [Handler.step] at handled
  split at handled
  · next state received =>
      cases handled
      have described := inRound.cq
      rw [received] at described
      have rounds : round = .received ∧ state = .rdmaReadAdv := by
        cases round with
        | received => exact ⟨rfl, by cases described; rfl⟩
        | _ => cases described
      obtain ⟨rfl, rfl⟩ := rounds
      obtain rfl := inRound.one rfl
      refine ⟨rfl, standing, ?_, ⟨history.fetched, history.sent⟩, copied⟩
      refine ⟨rfl, .inl inRound.stage, rfl, inRound.read, inRound.adverts,
        inRound.serverCq, inRound.succeeded, fun _ => rfl, ?_, ?_⟩
      · have posted := inRound.recvPosted
        rw [received] at posted
        exact posted
      · intro arrived
        cases arrived
  · cases handled

theorem Open.serverPoll {round : Round} {following : Following}
    {link next : Link Message} (opened : link.Open round following)
    (unhurried : link.Unhurried .serverPoll)
    (moved : link.serverCallback .serverPoll = some next) :
    next.Open round following ∨
      round = .fetched ∧ next.Open .complete following ∨
      round = .ready ∧ following = .arrived ∧ next.Open .received .none := by
  obtain ⟨standing, inRound, history, copied⟩ := opened
  simp only [Link.serverCallback] at moved
  obtain ⟨handler, handled, rfl⟩ := onCallback_some moved
  obtain ⟨polling, equal⟩ := Option.ite_none_right_eq_some.mp handled
  have posted := inRound.recvPosted
  have settled : ∀ cq : CqStage, cq.settled = true → round.cq cq :=
    Round.cq_settled inRound.cq (by rw [polling]; rfl)
  rw [polling] at posted
  cases queue : link.serverCq with
  | nil =>
      rw [queue] at equal
      cases equal
      refine .inl ⟨standing, ?_, ⟨history.fetched, history.sent⟩, copied⟩
      refine { inRound with cq := settled _ rfl, serverCq := ?_,
                            succeeded := ?_, recvPosted := posted,
                            arrived := fun _ => rfl }
      · have signalled := inRound.serverCq
        rw [queue] at signalled
        exact signalled
      · intro wc member
        cases member
  | cons wc rest =>
      obtain ⟨status, size⟩ := inRound.succeeded wc (by simp [queue])
      have succeeded : AllSucceeded rest := fun entry member =>
        inRound.succeeded entry (by simp [queue, member])
      have signalled := inRound.serverCq
      rw [queue, signals_cons] at signalled
      simp only [queue, takeCompletion, pollCq, handleWc, status] at equal ⊢
      cases opcode : wc.opcode with
      | send =>
          rw [if_pos opcode] at signalled
          simp only [opcode, Option.some.injEq] at equal
          subst equal
          refine .inl ⟨standing, ?_, ⟨history.fetched, history.sent⟩, copied⟩
          exact { inRound with
            cq := settled _ (by rw [polling]; rfl)
            serverCq := signalled
            succeeded := succeeded }
      | rdmaRead =>
          rw [if_neg (by rw [opcode]; simp), opcode] at signalled
          obtain ⟨rfl, remaining⟩ := signals_rdmaRead signalled
          simp only [opcode, serverSide, if_true, Option.some.injEq] at equal
          subst equal
          refine .inr (.inl ⟨rfl, standing, ?_,
            ⟨history.fetched, history.sent⟩, copied⟩)
          exact ⟨rfl, inRound.stage, inRound.cq, inRound.read,
            inRound.adverts, remaining, succeeded, inRound.one,
            inRound.recvPosted, inRound.arrived⟩
      | recv =>
          rw [if_neg (by rw [opcode]; simp), opcode] at signalled
          obtain ⟨_, rfl, remaining⟩ := signals_recv signalled
          have unread : round.unread = false := by
            cases unread : round.unread with
            | false => rfl
            | true => cases inRound.one unread
          have bound := unhurried (by simp [queue, opcode])
          obtain rfl := Round.ready_of_arrived inRound.state unread bound
          have advertised : serverRecv link.server.handler.state =
              .rdmaReadAdv := if_pos (.inl bound)
          simp only [opcode, size opcode, ne_eq, not_true_eq_false, if_false,
            serverSide, advertised, Option.some.injEq] at equal
          subst equal
          refine .inr (.inr ⟨rfl, rfl, standing, ?_,
            ⟨history.fetched, history.sent⟩, copied⟩)
          exact ⟨inRound.state, inRound.stage, rfl, inRound.read,
            inRound.adverts, remaining, succeeded, fun _ => rfl,
            by rw [posted]; rfl, (fun arrived => nomatch arrived)⟩
      | other =>
          rw [if_neg (by rw [opcode]; simp), opcode] at signalled
          exact absurd signalled signals_other

theorem Open.serverCallback {round : Round} {following : Following}
    {link next : Link Message} {input : LinkInput Message}
    (opened : link.Open round following) (unhurried : link.Unhurried input)
    (moved : link.serverCallback input = some next) : next.Delivering := by
  cases input <;> try (simp only [Link.serverCallback, reduceCtorEq] at moved)
  case serverCqEvent =>
    exact .inl ⟨round, following, opened.serverCqEvent moved⟩
  case serverPoll =>
    obtain same | ⟨_, complete⟩ | ⟨_, _, received⟩ :=
      opened.serverPoll unhurried moved
    · exact .inl ⟨_, _, same⟩
    · exact .inl ⟨_, _, complete⟩
    · exact .inl ⟨_, _, received⟩
  case serverRecvWrite =>
    exact .inl ⟨.advertised, following, (opened.serverRecvWrite moved).2⟩
  case serverPostRecv =>
    exact .inl ⟨round, following, opened.serverPostRecv moved⟩

theorem Open.serverRkey {round : Round} {following : Following}
    {link next : Link Message} (opened : link.Open round following)
    (moved : link.threadStep .serverRkey = some next) :
    next.Open round following := by
  obtain ⟨standing, inRound, history, copied⟩ := opened
  simp only [Link.threadStep] at moved
  obtain ⟨server, stepped, rfl⟩ := onServer_some moved
  obtain ⟨stage, equal⟩ := Option.ite_none_right_eq_some.mp stepped
  cases equal
  have fixed := Round.fits_stage inRound.stage
  rw [stage] at fixed
  obtain rfl : round = .advertised := fixed
  refine ⟨standing, ?_, ⟨history.fetched, history.sent⟩, copied⟩
  exact { inRound with stage := .inr (.inr rfl) }

theorem Open.postRead {round : Round} {following : Following}
    {link next : Link Message} (opened : link.Open round following)
    (moved : link.threadStep .postRead = some next) :
    round = .advertised ∧ next.Open .reading following := by
  obtain ⟨standing, inRound, history, copied⟩ := opened
  simp only [Link.threadStep] at moved
  obtain ⟨server, stepped, rfl⟩ := onServer_some moved
  obtain ⟨stage, equal⟩ := Option.ite_none_right_eq_some.mp stepped
  cases equal
  have fixed := Round.fits_stage inRound.stage
  rw [stage] at fixed
  obtain rfl : round = .advertised := fixed
  refine ⟨rfl, standing, ?_, ⟨history.fetched, history.sent⟩, copied⟩
  refine ⟨inRound.state, rfl, inRound.cq, ?_, inRound.adverts,
    inRound.serverCq, inRound.succeeded, inRound.one, inRound.recvPosted,
    inRound.arrived⟩
  simp [standing]

theorem Open.writeConnected {round : Round} {following : Following}
    {link next : Link Message} (opened : link.Open round following)
    (moved : link.threadStep .writeConnected = some next) :
    round = .obtained ∧ next.Open .ready following := by
  obtain ⟨standing, inRound, history, copied⟩ := opened
  simp only [Link.threadStep] at moved
  obtain ⟨server, stepped, rfl⟩ := onServer_some moved
  obtain ⟨stage, equal⟩ := Option.ite_none_right_eq_some.mp stepped
  cases equal
  have fixed := Round.fits_stage inRound.stage
  rw [stage] at fixed
  obtain rfl : round = .obtained := fixed
  refine ⟨rfl, standing, ?_, ⟨history.fetched, history.sent⟩, copied⟩
  exact ⟨Nat.le_refl 5, rfl, inRound.cq, inRound.read, inRound.adverts,
    inRound.serverCq, inRound.succeeded, (fun unread => nomatch unread),
    inRound.recvPosted, inRound.arrived⟩

theorem Open.postGoAhead {round : Round} {following : Following}
    {link next : Link Message} (opened : link.Open round following)
    (moved : link.threadStep .postGoAhead = some next) :
    next.Open round following := by
  obtain ⟨standing, inRound, history, copied⟩ := opened
  simp only [Link.threadStep] at moved
  obtain ⟨server, stepped, rfl⟩ := onServer_some moved
  obtain ⟨stage, equal⟩ := Option.ite_none_right_eq_some.mp stepped
  cases equal
  have fixed := Round.fits_stage inRound.stage
  rw [stage] at fixed
  refine ⟨standing, ?_, ⟨history.fetched, history.sent⟩, copied⟩
  refine { inRound with stage := ?_ }
  obtain rfl | rfl | rfl := fixed
  · exact rfl
  · exact rfl
  · exact .inl rfl

/-- A wake-up that finds its condition moves a listening thread on, or
hands it the message of a completed read. -/
theorem Open.serverWake {round : Round} {following : Following}
    {link next : Link Message} (opened : link.Open round following)
    (moved : link.threadStep .serverWake = some next) :
    next.Open round following ∨
      round = .complete ∧ next.Open .obtained following := by
  obtain ⟨standing, inRound, history, copied⟩ := opened
  have alive := inRound.standing
  have state := inRound.state
  simp only [Link.threadStep] at moved
  obtain ⟨server, stepped, rfl⟩ := onServer_some moved
  simp only [Server.step, Server.wake] at stepped
  have fixed := Round.fits_stage inRound.stage
  split at stepped
  · next stage =>
      obtain ⟨_, equal⟩ := Option.ite_none_right_eq_some.mp stepped
      rw [if_neg alive] at equal
      cases equal
      rw [stage] at fixed
      refine .inl ⟨standing, ?_, ⟨history.fetched, history.sent⟩, copied⟩
      refine { inRound with stage := ?_ }
      obtain rfl | rfl | rfl := fixed
      · exact rfl
      · exact rfl
      · exact .inl rfl
  · next stage =>
      obtain ⟨awake, equal⟩ := Option.ite_none_right_eq_some.mp stepped
      rw [stage] at fixed
      simp only [Server.awake, Bool.false_or, decide_eq_true_eq] at awake
      have rounds : round = .advertised := by
        obtain rfl | rfl | rfl := fixed
        · exact absurd (Nat.le_trans awake state) not_readAdv_le
        · exact absurd (Nat.le_trans awake state) not_readAdv_le
        · rfl
      subst rounds
      rw [if_pos (show _ = _ from state)] at equal
      cases equal
      refine .inl ⟨standing, ?_, ⟨history.fetched, history.sent⟩, copied⟩
      exact { inRound with stage := .inr (.inl rfl) }
  · next stage =>
      obtain ⟨awake, equal⟩ := Option.ite_none_right_eq_some.mp stepped
      rw [stage] at fixed
      simp only [Server.awake, Bool.false_or, decide_eq_true_eq] at awake
      have rounds : round = .complete := by
        obtain rfl | rfl | rfl := fixed
        · rw [show _ = _ from state] at awake
          exact absurd awake (by decide)
        · rw [show _ = _ from state] at awake
          exact absurd awake (by decide)
        · rfl
      subst rounds
      rw [if_pos (show _ = _ from state)] at equal
      cases equal
      refine .inr ⟨rfl, standing, ?_, ⟨?_, history.sent⟩, copied⟩
      · exact ⟨inRound.state, rfl, inRound.cq, inRound.read,
          inRound.adverts, inRound.serverCq, inRound.succeeded,
          (fun unread => nomatch unread), inRound.recvPosted,
          inRound.arrived⟩
      · have fetched := history.fetched
        simpa [Server.goto, Round.unseen] using fetched
  · cases stepped

theorem Open.threadStep {round : Round} {following : Following}
    {link next : Link Message} {input : LinkInput Message}
    (opened : link.Open round following)
    (moved : link.threadStep input = some next) : next.Delivering := by
  cases input <;> try (simp only [Link.threadStep, reduceCtorEq] at moved)
  case serverWake =>
    obtain same | ⟨_, obtained⟩ := opened.serverWake moved
    · exact .inl ⟨_, _, same⟩
    · exact .inl ⟨_, _, obtained⟩
  case serverRkey => exact .inl ⟨_, _, opened.serverRkey moved⟩
  case postRead => exact .inl ⟨_, _, (opened.postRead moved).2⟩
  case writeConnected =>
    exact .inl ⟨_, _, (opened.writeConnected moved).2⟩
  case postGoAhead => exact .inl ⟨_, _, opened.postGoAhead moved⟩

end Link

end Rshm.Rdma
