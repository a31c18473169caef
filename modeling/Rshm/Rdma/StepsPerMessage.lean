import Rshm.Lib.Budget
import Rshm.Rdma.ExactlyOnce

/-!
# How much work a message is

Everything a standing connection can still do is paid for by a call: the
copy and the posting of the advertisement, its delivery, the read it leads
to, the go-ahead that answers it and the completions of all of these.  The
work in a state is the number of steps that what is in flight there can
still cause.
-/

namespace Rshm.Rdma

/-- The completions that a side's callback has a branch for. -/
def Side.handles (side : Side) : WcOpcode → Bool
  | .send | .recv => true
  | .rdmaRead => side.handlesRdmaRead
  | .other => false

/-- A callback that has not failed and has nothing to fail for. -/
structure Callback (side : Side) (handler : Handler) (cq : List Wc) :
    Prop where
  state : handler.state ≠ .error
  written : ∀ state, handler.cq = .received state → state ≠ .error
  succeeded : ∀ wc ∈ cq, wc.succeeded ∧ side.handles wc.opcode = true

/-- A receive is polled, written to the state word, which costs `write`
steps elsewhere, and posted again. -/
def completionWork (write : Nat) (wc : Wc) : Nat :=
  if wc.opcode = .recv then 3 + write else 1

def queueWork (write : Nat) (cq : List Wc) : Nat :=
  (cq.map (completionWork write)).sum

/-- An idle callback is entered once for a queue that has something, and a
polling one ends with a poll that finds nothing. -/
def callbackWork (write : Nat) (handler : Handler) (cq : List Wc) : Nat :=
  match handler.cq with
  | .idle => if cq = [] then 0 else 2
  | .polling => 1
  | .received _ => 3 + write
  | .posting => 2

def handlerWork (write : Nat) (handler : Handler) (cq : List Wc) : Nat :=
  callbackWork write handler cq + queueWork write cq

@[simp] theorem queueWork_nil (write : Nat) : queueWork write [] = 0 := rfl

@[simp] theorem queueWork_cons (write : Nat) (wc : Wc) (rest : List Wc) :
    queueWork write (wc :: rest) =
      completionWork write wc + queueWork write rest := by
  simp [queueWork]

theorem queueWork_append (write : Nat) (cq : List Wc) (wc : Wc) :
    queueWork write (cq ++ [wc]) =
      queueWork write cq + completionWork write wc := by
  simp [queueWork]

theorem handlerWork_append (write : Nat) (handler : Handler) (cq : List Wc)
    (wc : Wc) :
    handlerWork write handler (cq ++ [wc]) ≤
      handlerWork write handler cq + completionWork write wc + 2 := by
  have callback : callbackWork write handler (cq ++ [wc]) ≤
      callbackWork write handler cq + 2 := by
    unfold callbackWork
    cases handler.cq with
    | idle =>
        dsimp only
        rw [if_neg (by simp)]
        omega
    | polling | received _ | posting => exact Nat.le_add_right _ _
  unfold handlerWork
  rw [queueWork_append]
  omega

theorem Callback.append {side : Side} {handler : Handler} {cq : List Wc}
    {wc : Wc} (callback : Callback side handler cq)
    (succeeded : wc.succeeded) (handled : side.handles wc.opcode = true) :
    Callback side handler (cq ++ [wc]) := by
  refine ⟨callback.state, callback.written, ?_⟩
  intro entry member
  rcases List.mem_append.mp member with earlier | final
  · exact callback.succeeded entry earlier
  · rw [List.mem_singleton.mp final]
    exact ⟨succeeded, handled⟩

theorem Callback.setState {side : Side} {handler : Handler} {cq : List Wc}
    (callback : Callback side handler cq) {state : NmsgState}
    (standing : state ≠ .error) :
    Callback side (handler.setState state) cq :=
  ⟨standing, callback.written, callback.succeeded⟩

theorem handlerWork_setState (write : Nat) (handler : Handler)
    (state : NmsgState) (cq : List Wc) :
    handlerWork write (handler.setState state) cq =
      handlerWork write handler cq := rfl

section Steps

variable {side : Side} {handler next : Handler} {cq : List Wc}

theorem Callback.cqEvent (write : Nat) (callback : Callback side handler cq)
    (queued : cq ≠ []) (moved : handler.step side .cqEvent = some next) :
    Callback side next cq ∧ next.state = handler.state ∧
      handlerWork write next cq + 1 ≤ handlerWork write handler cq := by
  obtain ⟨idle, equal⟩ := Option.ite_none_right_eq_some.mp moved
  rw [nmsgCqEventHandler, if_neg callback.state] at equal
  cases equal
  refine ⟨⟨callback.state, by simp,
    callback.succeeded⟩, rfl, ?_⟩
  simp only [handlerWork, callbackWork, idle, if_neg queued]
  omega

/-- A poll takes a completion or ends the callback.  The state word changes
with a read that has completed only. -/
theorem Callback.poll (write : Nat) (recv : ∀ state, side.recv state ≠ .error)
    (callback : Callback side handler cq)
    (moved : handler.step side (.poll (takeCompletion cq).1) = some next) :
    Callback side next (takeCompletion cq).2 ∧
      (next.state = handler.state ∨ next.state = .rdmaReadComplete) ∧
      handlerWork write next (takeCompletion cq).2 + 1 ≤
        handlerWork write handler cq := by
  obtain ⟨polling, equal⟩ := Option.ite_none_right_eq_some.mp moved
  have before : ∀ cq, handlerWork write handler cq =
      1 + queueWork write cq := by
    intro cq
    simp only [handlerWork, callbackWork, polling]
  rw [before]
  cases queue : cq with
  | nil =>
      rw [queue] at equal
      cases equal
      refine ⟨⟨callback.state, by simp [takeCompletion, pollCq],
        by simp [takeCompletion]⟩, .inl rfl, ?_⟩
      simp [handlerWork, callbackWork, takeCompletion, pollCq]
  | cons wc rest =>
      obtain ⟨⟨status, size⟩, handled⟩ :=
        callback.succeeded wc (by simp [queue])
      have succeeded : ∀ entry ∈ rest, entry.succeeded ∧
          side.handles entry.opcode = true := fun entry member =>
        callback.succeeded entry (by simp [queue, member])
      simp only [queue, takeCompletion, pollCq, handleWc, status] at equal ⊢
      rw [queueWork_cons]
      cases opcode : wc.opcode with
      | send =>
          simp only [opcode, Option.some.injEq] at equal
          subst equal
          refine ⟨⟨callback.state, callback.written, succeeded⟩, .inl rfl, ?_⟩
          simp only [handlerWork, callbackWork, polling, completionWork,
            opcode, reduceCtorEq, if_false]
          omega
      | rdmaRead =>
          rw [opcode] at handled
          simp only [opcode, if_pos (show side.handlesRdmaRead = true from
            handled), Option.some.injEq] at equal
          subst equal
          refine ⟨⟨by simp, callback.written, succeeded⟩, .inr rfl, ?_⟩
          simp only [handlerWork, callbackWork, polling, completionWork,
            opcode, reduceCtorEq, if_false]
          omega
      | recv =>
          simp only [opcode, size opcode, ne_eq, not_true_eq_false, if_false,
            Option.some.injEq] at equal
          subst equal
          refine ⟨⟨callback.state, ?_, succeeded⟩, .inl rfl, ?_⟩
          · intro state received
            cases received
            exact recv _
          · simp only [handlerWork, callbackWork, completionWork, opcode,
              if_true]
            omega
      | other =>
          rw [opcode] at handled
          cases handled

theorem Callback.recvWrite (write : Nat)
    (callback : Callback side handler cq)
    (moved : handler.step side .recvWrite = some next) :
    Callback side next cq ∧
      handlerWork write next cq + write + 1 ≤
        handlerWork write handler cq := by
  rw [Handler.step] at moved
  split at moved
  · next state received =>
      cases moved
      refine ⟨⟨callback.written state received,
        by simp, callback.succeeded⟩, ?_⟩
      simp only [handlerWork, callbackWork, received]
      omega
  · cases moved

theorem Callback.postRecv (write : Nat)
    (callback : Callback side handler cq)
    (moved : handler.step side (.postRecv 0) = some next) :
    Callback side next cq ∧ next.state = handler.state ∧
      handlerWork write next cq + 1 ≤ handlerWork write handler cq := by
  obtain ⟨posting, equal⟩ := Option.ite_none_right_eq_some.mp moved
  cases equal
  refine ⟨⟨callback.state, by simp,
    callback.succeeded⟩, rfl, ?_⟩
  simp only [handlerWork, callbackWork, posting]
  omega

end Steps

theorem clientRecv_standing (state : NmsgState) : clientRecv state ≠ .error := by
  unfold clientRecv
  split <;> simp

theorem serverRecv_standing (state : NmsgState) : serverRecv state ≠ .error := by
  unfold serverRecv
  split <;> simp

/-- A call that has entered copies, registers, looks at the state and posts
the advertisement. -/
def callerWork : CallerStage → Nat
  | .copying => 32
  | .registering => 31
  | .checking => 30
  | .posting => 29
  | _ => 0

/-- What a thread that listens makes of an advertisement. -/
def advertisedWork (state : NmsgState) : Nat :=
  if state = .rdmaReadAdv then 19 else 0

/-- The thread waits for an advertisement, registers, posts the read, sees
it complete, goes back to `CONNECTED` and posts the go-ahead.  The unit that
is left at rest is the step out of the loop. -/
def threadWork (state : NmsgState) : ServerStage → Nat
  | .waitConnected => 2 + advertisedWork state
  | .waitReadAdv => 1 + advertisedWork state
  | .registering => 19
  | .postingRead => 18
  | .waitReadComplete => 13
  | .readComplete => 12
  | .postingGoAhead => 11 + advertisedWork state
  | .connecting | .accepting | .left _ => 0

theorem advertisedWork_le (state : NmsgState) : advertisedWork state ≤ 19 := by
  unfold advertisedWork
  split <;> omega

theorem threadWork_write (state written : NmsgState) (stage : ServerStage) :
    threadWork written stage ≤ threadWork state stage + 19 := by
  have bound := advertisedWork_le written
  cases stage <;> dsimp only [threadWork] <;> omega

theorem threadWork_keep {state next : NmsgState} (stage : ServerStage)
    (keeps : next = state ∨ next = .rdmaReadComplete) :
    threadWork next stage ≤ threadWork state stage := by
  have fewer : advertisedWork next ≤ advertisedWork state := by
    rcases keeps with rfl | rfl
    · exact Nat.le_refl _
    · exact Nat.zero_le _
  cases stage <;> dsimp only [threadWork] <;> omega

/-- A read is executed, and its completion polled. -/
def readWork : Option NmsgData → Nat
  | some _ => 4
  | none => 0

namespace Link

variable {Message : Type}

/-- The steps that the connection can still make without a new call. -/
def work (link : Link Message) : Nat :=
  callerWork (link.client.callers 0) + 28 * link.adverts.length +
    readWork link.read + 9 * link.goAheads.length +
    handlerWork 0 link.client.handler link.clientCq +
    handlerWork 19 link.server.handler link.serverCq +
    threadWork link.server.handler.state link.server.stage

/-- A connection before the disconnect, with nothing that fails. -/
structure Healthy (link : Link Message) : Prop where
  standing : link.destroyed = false
  client : Callback clientSide link.client.handler link.clientCq
  server : Callback serverSide link.server.handler link.serverCq

end Link

/-- A call is the one input that brings work: its own step and the 32 after
it. -/
def LinkInput.grant {Message : Type} : LinkInput Message → Nat
  | .sendMessage _ => 33
  | _ => 0

namespace Link

variable {Message : Type} {link next : Link Message}
  {input : LinkInput Message}

/-- A step of a healthy connection, paid for. -/
def Pays (link : Link Message) (input : LinkInput Message)
    (next : Link Message) : Prop :=
  next.Healthy ∧ next.work + 1 ≤ link.work + input.grant

theorem Healthy.callerStep (healthy : link.Healthy)
    (open_ : input ≠ .destroyClient)
    (moved : link.callerStep input = some next) : link.Pays input next := by
  obtain ⟨standing, client, server⟩ := healthy
  cases input <;> simp only [Link.callerStep, reduceCtorEq] at moved
  case sendMessage message =>
    obtain ⟨stepped, moves, rfl⟩ := onClient_some moved
    obtain ⟨outside, equal⟩ := Option.ite_none_right_eq_some.mp moves
    cases equal
    refine ⟨⟨standing, client.setState (by simp), server⟩, ?_⟩
    simp only [work, Client.setCaller, Client.setState, Function.update_self,
      handlerWork_setState, callerWork, LinkInput.grant]
    omega
  case copyMessage =>
    obtain ⟨stepped, moves, rfl⟩ := onClient_some moved
    obtain ⟨stage, equal⟩ := Option.ite_none_right_eq_some.mp moves
    cases equal
    refine ⟨⟨standing, client, server⟩, ?_⟩
    simp only [work, Client.setCaller, Function.update_self, callerWork,
      stage, LinkInput.grant]
    omega
  case rdmaRkey =>
    obtain ⟨stepped, moves, rfl⟩ := onClient_some moved
    obtain ⟨stage, equal⟩ := Option.ite_none_right_eq_some.mp moves
    cases equal
    refine ⟨⟨standing, client, server⟩, ?_⟩
    simp only [work, makeMessage, Client.setCaller, Function.update_self,
      callerWork, stage, LinkInput.grant]
    omega
  case checkState =>
    obtain ⟨stepped, moves, rfl⟩ := onClient_some moved
    obtain ⟨stage, equal⟩ := Option.ite_none_right_eq_some.mp moves
    rw [if_neg client.state] at equal
    cases equal
    refine ⟨⟨standing, client, server⟩, ?_⟩
    simp only [work, id_eq, Client.setCaller, Function.update_self,
      callerWork, stage, LinkInput.grant]
    omega
  case postSend =>
    obtain ⟨stepped, moves, rfl⟩ := onClient_some moved
    obtain ⟨stage, equal⟩ := Option.ite_none_right_eq_some.mp moves
    cases equal
    refine ⟨⟨standing, client, server⟩, ?_⟩
    simp only [work, Client.setCaller, Function.update_self, callerWork,
      stage, List.length_append, List.length_singleton, LinkInput.grant]
    omega
  case destroyClient => exact absurd rfl open_

theorem Pays.ofClient (healthy : link.Healthy) {handler : Handler}
    {cq : List Wc} {posted : Bool}
    (callback : Callback clientSide handler cq)
    (spent : handlerWork 0 handler cq + 1 ≤
      handlerWork 0 link.client.handler link.clientCq) :
    link.Pays input
      { link with
        clientCq := cq, clientRecvPosted := posted
        client := { link.client with handler := handler } } := by
  refine ⟨⟨healthy.standing, callback, healthy.server⟩, ?_⟩
  simp only [work]
  omega

theorem onClientCallback_some {handlerInput : HandlerInput}
    {effect : Link Message → Link Message}
    (moved : link.onClient (.handler handlerInput) effect = some next) :
    ∃ handler,
      link.client.handler.step clientSide handlerInput = some handler ∧
      next = { effect link with
        client := { link.client with handler := handler } } := by
  obtain ⟨client, stepped, rfl⟩ := onClient_some moved
  obtain ⟨handler, handled, rfl⟩ := Option.map_eq_some_iff.mp stepped
  exact ⟨handler, handled, rfl⟩

theorem Healthy.clientCallback (healthy : link.Healthy)
    (moved : link.clientCallback input = some next) :
    link.Pays input next := by
  cases input <;> simp only [Link.clientCallback, reduceCtorEq] at moved
  case clientCqEvent =>
    obtain ⟨queued, moved⟩ := Option.ite_none_left_eq_some.mp moved
    obtain ⟨handler, handled, rfl⟩ := onClientCallback_some moved
    obtain ⟨callback, -, spent⟩ := healthy.client.cqEvent 0 queued handled
    exact Pays.ofClient healthy callback spent
  case clientPoll =>
    obtain ⟨handler, handled, rfl⟩ := onClientCallback_some moved
    obtain ⟨callback, -, spent⟩ :=
      healthy.client.poll 0 clientRecv_standing handled
    exact Pays.ofClient healthy callback spent
  case clientRecvWrite =>
    obtain ⟨handler, handled, rfl⟩ := onClientCallback_some moved
    obtain ⟨callback, spent⟩ := healthy.client.recvWrite 0 handled
    exact Pays.ofClient healthy callback spent
  case clientPostRecv =>
    obtain ⟨handler, handled, rfl⟩ := onClientCallback_some moved
    obtain ⟨callback, -, spent⟩ := healthy.client.postRecv 0 handled
    exact Pays.ofClient healthy callback spent

theorem Healthy.networkStep (healthy : link.Healthy)
    (moved : link.networkStep input = some next) : link.Pays input next := by
  obtain ⟨standing, client, server⟩ := healthy
  cases input <;> simp only [Link.networkStep, reduceCtorEq] at moved
  case deliverAdvert =>
    split at moved
    · cases moved
    · next data rest adverts =>
        obtain ⟨-, equal⟩ := Option.ite_none_right_eq_some.mp moved
        cases equal
        have sent := handlerWork_append 0 link.client.handler link.clientCq
          sendCompletion
        have received := handlerWork_append 19 link.server.handler
          link.serverCq (recvCompletion data)
        refine ⟨⟨standing, client.append sendCompletion_succeeded rfl,
          server.append (recvCompletion_succeeded data) rfl⟩, ?_⟩
        simp only [completionWork, sendCompletion, recvCompletion,
          reduceCtorEq, if_true, if_false] at sent received
        simp only [work, adverts, List.length_cons, LinkInput.grant,
          sendCompletion, recvCompletion]
        omega
  case executeRead =>
    split at moved
    · cases moved
    · next data reading =>
        cases moved
        have read := handlerWork_append 19 link.server.handler link.serverCq
          readCompletion
        refine ⟨⟨standing, client,
          server.append readCompletion_succeeded rfl⟩, ?_⟩
        simp only [completionWork, readCompletion, reduceCtorEq,
          if_false] at read
        simp only [work, reading, readWork, readCompletion, LinkInput.grant]
        omega
  case deliverGoAhead =>
    split at moved
    · cases moved
    · next data rest goAheads =>
        obtain ⟨-, equal⟩ := Option.ite_none_right_eq_some.mp moved
        cases equal
        have sent := handlerWork_append 19 link.server.handler link.serverCq
          sendCompletion
        have received := handlerWork_append 0 link.client.handler
          link.clientCq goAheadCompletion
        refine ⟨⟨standing,
          client.append (recvCompletion_succeeded _) rfl,
          server.append sendCompletion_succeeded rfl⟩, ?_⟩
        simp only [completionWork, sendCompletion, goAheadCompletion,
          recvCompletion, reduceCtorEq, if_true, if_false] at sent received
        simp only [work, goAheads, List.length_cons, LinkInput.grant,
          sendCompletion, goAheadCompletion, recvCompletion]
        omega
  case disconnect =>
    rw [standing] at moved
    cases moved

/-- A step of the server's callback is one of its handler, and the thread may
have to answer it. -/
theorem Pays.ofServer (healthy : link.Healthy) {handler : Handler}
    {cq : List Wc} {posted : Bool}
    (callback : Callback serverSide handler cq)
    (spent : handlerWork 19 handler cq +
        threadWork handler.state link.server.stage + 1 ≤
      handlerWork 19 link.server.handler link.serverCq +
        threadWork link.server.handler.state link.server.stage) :
    link.Pays input
      { link with
        serverCq := cq, serverRecvPosted := posted
        server := { link.server with handler := handler } } := by
  refine ⟨⟨healthy.standing, healthy.client, callback⟩, ?_⟩
  simp only [work]
  omega

theorem Healthy.serverCallback (healthy : link.Healthy)
    (moved : link.serverCallback input = some next) :
    link.Pays input next := by
  cases input <;> simp only [Link.serverCallback, reduceCtorEq] at moved
  case serverCqEvent =>
    obtain ⟨queued, moved⟩ := Option.ite_none_left_eq_some.mp moved
    obtain ⟨handler, handled, rfl⟩ := onCallback_some moved
    obtain ⟨callback, same, spent⟩ :=
      healthy.server.cqEvent 19 queued handled
    have thread := threadWork_keep link.server.stage (.inl same)
    exact Pays.ofServer healthy callback (by omega)
  case serverPoll =>
    obtain ⟨handler, handled, rfl⟩ := onCallback_some moved
    obtain ⟨callback, keeps, spent⟩ :=
      healthy.server.poll 19 serverRecv_standing handled
    have thread := threadWork_keep link.server.stage keeps
    exact Pays.ofServer healthy callback (by dsimp only; omega)
  case serverRecvWrite =>
    obtain ⟨handler, handled, rfl⟩ := onCallback_some moved
    obtain ⟨callback, spent⟩ := healthy.server.recvWrite 19 handled
    have thread := threadWork_write link.server.handler.state
      handler.state link.server.stage
    exact Pays.ofServer healthy callback (by omega)
  case serverPostRecv =>
    obtain ⟨handler, handled, rfl⟩ := onCallback_some moved
    obtain ⟨callback, same, spent⟩ := healthy.server.postRecv 19 handled
    have thread := threadWork_keep link.server.stage (.inl same)
    exact Pays.ofServer healthy callback (by dsimp only; omega)

theorem Healthy.threadStep (healthy : link.Healthy)
    (moved : link.threadStep input = some next) : link.Pays input next := by
  obtain ⟨standing, client, server⟩ := healthy
  have alive := server.state
  cases input <;> simp only [Link.threadStep, reduceCtorEq] at moved
  case serverWake =>
    obtain ⟨stepped, moves, rfl⟩ := onServer_some moved
    simp only [Server.step, Server.wake] at moves
    split at moves
    · next stage =>
        obtain ⟨-, equal⟩ := Option.ite_none_right_eq_some.mp moves
        rw [if_neg alive] at equal
        cases equal
        refine ⟨⟨standing, client, server⟩, ?_⟩
        simp only [work, threadWork, Server.goto, stage, reduceCtorEq,
          if_false, LinkInput.grant]
        omega
    · next stage =>
        obtain ⟨-, equal⟩ := Option.ite_none_right_eq_some.mp moves
        split at equal
        · next advertised =>
            cases equal
            refine ⟨⟨standing, client, server⟩, ?_⟩
            simp only [work, threadWork, Server.goto, stage, reduceCtorEq,
              if_false, advertisedWork, advertised, if_true, LinkInput.grant]
            omega
        · cases equal
          refine ⟨⟨standing, client, server⟩, ?_⟩
          simp only [work, threadWork, Server.goto, stage, reduceCtorEq,
            if_false, LinkInput.grant]
          omega
    · next stage =>
        obtain ⟨awake, equal⟩ := Option.ite_none_right_eq_some.mp moves
        have read : link.server.handler.state ≠ .rdmaReadAdv := by
          intro advertised
          simp [Server.awake, advertised, NmsgState.value] at awake
        split at equal
        · cases equal
          refine ⟨⟨standing, client, server⟩, ?_⟩
          simp only [work, threadWork, Server.goto, stage, if_true,
            LinkInput.grant]
          omega
        · cases equal
          refine ⟨⟨standing, client, server⟩, ?_⟩
          simp only [work, threadWork, Server.goto, stage, reduceCtorEq,
            if_false, advertisedWork, read, LinkInput.grant]
          omega
    · cases moves
  case serverRkey =>
    obtain ⟨stepped, moves, rfl⟩ := onServer_some moved
    obtain ⟨stage, equal⟩ := Option.ite_none_right_eq_some.mp moves
    cases equal
    refine ⟨⟨standing, client, server⟩, ?_⟩
    simp only [work, threadWork, Server.goto, stage, LinkInput.grant]
    omega
  case postRead =>
    obtain ⟨stepped, moves, rfl⟩ := onServer_some moved
    obtain ⟨stage, equal⟩ := Option.ite_none_right_eq_some.mp moves
    cases equal
    refine ⟨⟨standing, client, server⟩, ?_⟩
    have pays := Nat.le_add_left 4 (readWork link.read)
    simp only [work, threadWork, Server.orLeave, Server.goto, stage,
      standing, Bool.false_eq_true, if_false, ne_eq, not_true_eq_false,
      readWork, LinkInput.grant]
    omega
  case writeConnected =>
    obtain ⟨stepped, moves, rfl⟩ := onServer_some moved
    obtain ⟨stage, equal⟩ := Option.ite_none_right_eq_some.mp moves
    cases equal
    refine ⟨⟨standing, client, server.setState (by simp)⟩, ?_⟩
    have listens : (link.server.handler.setState .connected).state =
        .connected := rfl
    simp only [work, threadWork, Server.goto, Server.setState, stage,
      handlerWork_setState, listens, advertisedWork, reduceCtorEq, if_false,
      LinkInput.grant]
    omega
  case postGoAhead =>
    obtain ⟨stepped, moves, rfl⟩ := onServer_some moved
    obtain ⟨stage, equal⟩ := Option.ite_none_right_eq_some.mp moves
    cases equal
    refine ⟨⟨standing, client, server⟩, ?_⟩
    simp only [work, threadWork, Server.orLeave, Server.goto, stage,
      standing, Bool.false_eq_true, if_false, ne_eq, not_true_eq_false,
      List.length_append, List.length_singleton, LinkInput.grant]
    omega

theorem Healthy.step (healthy : link.Healthy)
    (open_ : input ≠ .destroyClient)
    (moved : link.step input = some next) : link.Pays input next := by
  obtain caller | callback | network | callback | thread := step_cases moved
  · exact healthy.callerStep open_ caller
  · exact healthy.clientCallback callback
  · exact healthy.networkStep network
  · exact healthy.serverCallback callback
  · exact healthy.threadStep thread

theorem Connected.healthy (connected : link.Connected) : link.Healthy := by
  refine ⟨connected.destroyed, ⟨?_, ?_, ?_⟩, ⟨?_, ?_, ?_⟩⟩
  · rw [connected.clientState]
    simp
  · rw [connected.clientCq]
    simp
  · rw [connected.clientCompletions]
    simp
  · rw [connected.serverState]
    simp
  · rw [connected.serverCq]
    simp
  · rw [connected.serverCompletions]
    simp

/-- A fresh connection has the wait of `nmsg_accept` and the loop to leave,
no more. -/
theorem Connected.work (connected : link.Connected) : link.work = 2 := by
  simp only [Link.work, handlerWork, callbackWork, threadWork,
    advertisedWork, connected.callers, connected.adverts, connected.read,
    connected.goAheads, connected.clientCq, connected.serverCq,
    connected.clientCompletions, connected.serverCompletions,
    connected.stage, connected.serverState]
  rfl

/-- The disconnect is final, and only `nmsg_destroy_client` brings it. -/
theorem step_standing (moved : link.step input = some next)
    (standing : next.destroyed = false) :
    link.destroyed = false ∧ input ≠ .destroyClient := by
  cases input <;>
    simp only [Link.step, Link.callerStep, Link.clientCallback,
      Link.networkStep, Link.serverCallback, Link.threadStep] at moved
  case destroyClient =>
    obtain ⟨_, equal⟩ := Option.ite_none_left_eq_some.mp moved
    cases equal
    cases standing
  case clientCqEvent =>
    obtain ⟨_, moved⟩ := Option.ite_none_left_eq_some.mp moved
    obtain ⟨_, _, rfl⟩ := onClient_some moved
    exact ⟨standing, by simp⟩
  case serverCqEvent =>
    obtain ⟨_, moved⟩ := Option.ite_none_left_eq_some.mp moved
    obtain ⟨_, _, rfl⟩ := onServer_some moved
    exact ⟨standing, by simp⟩
  case deliverAdvert | deliverGoAhead =>
    split at moved
    · cases moved
    · obtain ⟨_, equal⟩ := Option.ite_none_right_eq_some.mp moved
      cases equal
      exact ⟨standing, by simp⟩
  case executeRead =>
    split at moved
    · cases moved
    · cases moved
      exact ⟨standing, by simp⟩
  case disconnect =>
    obtain ⟨_, moved⟩ := Option.ite_none_right_eq_some.mp moved
    obtain ⟨_, _, rfl⟩ := onServer_some moved
    exact ⟨standing, by simp⟩
  case serverWake =>
    obtain ⟨_, _, rfl⟩ := onServer_some moved
    refine ⟨?_, by simp⟩
    dsimp only at standing
    split at standing <;> exact standing
  case sendMessage | copyMessage | rdmaRkey | checkState | postSend
      | clientPoll | clientRecvWrite | clientPostRecv =>
    obtain ⟨_, _, rfl⟩ := onClient_some moved
    exact ⟨standing, by simp⟩
  all_goals
    obtain ⟨_, _, rfl⟩ := onServer_some moved
    exact ⟨standing, by simp⟩

/-- The inputs of a run that leaves the connection standing. -/
def Undisturbed (allowed : Link Message → LinkInput Message → Prop)
    (link : Link Message) (input : LinkInput Message) : Prop :=
  allowed link input ∧ input ≠ .destroyClient

theorem run_undisturbed
    {allowed : Link Message → LinkInput Message → Prop}
    {last : Link Message} {inputs : List (LinkInput Message)}
    (run : (linkMachine Message).Run allowed link inputs last)
    (standing : last.destroyed = false) :
    (linkMachine Message).Run (Undisturbed allowed) link inputs last ∧
      link.destroyed = false := by
  induction run with
  | nil link => exact ⟨.nil link, standing⟩
  | cons admitted moved _ induction =>
      obtain ⟨rest, before⟩ := induction standing
      obtain ⟨first, open_⟩ := step_standing moved before
      exact ⟨.cons ⟨admitted, open_⟩ moved rest, first⟩

theorem budget (allowed : Link Message → LinkInput Message → Prop) :
    (linkMachine Message).Budget (Undisturbed allowed) Healthy work
      LinkInput.grant :=
  ⟨fun _ _ _ healthy admitted moved =>
    (healthy.step admitted.2 moved).1,
   fun _ _ _ healthy admitted moved =>
    (healthy.step admitted.2 moved).2⟩

end Link

def LinkInput.message {Message : Type} : LinkInput Message → Option Message
  | .sendMessage message => some message
  | _ => none

/-- The messages of the calls in a run. -/
def called {Message : Type} (inputs : List (LinkInput Message)) :
    List Message :=
  inputs.filterMap LinkInput.message

theorem grants {Message : Type} (inputs : List (LinkInput Message)) :
    (inputs.map LinkInput.grant).sum = 33 * (called inputs).length := by
  induction inputs with
  | nil => rfl
  | cons input rest induction =>
      have first : input.grant = 33 * (called [input]).length := by
        cases input <;> rfl
      have split : called (input :: rest) = called [input] ++ called rest := by
        rw [called, called, called, ← List.filterMap_append]
        rfl
      rw [List.map_cons, List.sum_cons, split, List.length_append, induction,
        first]
      omega

/-- A connection that stands makes at most 33 steps for each call, whatever
the calls and the order of the steps are. -/
theorem steps_per_message {Message : Type} {start link : Link Message}
    {inputs : List (LinkInput Message)} (connected : start.Connected)
    (run : (linkMachine Message).Run Machine.anyInput start inputs link)
    (standing : link.destroyed = false) :
    inputs.length ≤ 33 * (called inputs).length + 2 := by
  have spent := (Link.budget Machine.anyInput).run connected.healthy
    (Link.run_undisturbed run standing).1
  rw [grants, connected.work] at spent
  omega

theorem steps_per_message_hello :
    ∃ inputs link, (linkMachine String).Run Machine.anyInput (Link.fresh "")
        inputs link ∧
      link.destroyed = false ∧ called inputs = ["hello"] ∧
      inputs.length = 34 ∧
      inputs.length ≤ 33 * (called inputs).length + 2 := by
  have executed : ∃ inputs link, (linkMachine String).Run Machine.anyInput
      (Link.fresh "") inputs link ∧ link.destroyed = false ∧
        called inputs = ["hello"] ∧ inputs.length = 34 :=
    ⟨sendInputs "hello" ++
        [.deliverAdvert, .clientCqEvent, .clientPoll, .clientPoll,
          .serverCqEvent, .serverPoll, .serverRecvWrite, .serverPostRecv,
          .serverPoll, .serverWake, .serverWake, .serverRkey, .postRead,
          .executeRead, .serverCqEvent, .serverPoll, .serverPoll, .serverWake,
          .writeConnected, .postGoAhead, .deliverGoAhead, .clientCqEvent,
          .clientPoll, .clientRecvWrite, .clientPostRecv, .clientPoll,
          .serverCqEvent, .serverPoll, .serverPoll],
      _, Machine.run_of_exec rfl, rfl, rfl, rfl⟩
  obtain ⟨inputs, link, run, standing, messages, length⟩ := executed
  exact ⟨inputs, link, run, standing, messages, length,
    steps_per_message (Link.fresh_connected "") run standing⟩

end Rshm.Rdma
