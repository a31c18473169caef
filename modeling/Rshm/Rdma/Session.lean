import Rshm.Rdma.Endpoint

/-!
# One session and other peers

The listener and every connection it accepts share one handler object and one
event handler, so an event of any peer writes the state word, and a connect
request writes `child_cm_id`, whatever the server thread is doing.  The
session begins when the queue pair has been built on a connection.
-/

namespace Rshm.Rdma

/-- Where `nmsg_start` stands.  `storing` is between the return of
`rdma_create_qp` and `cb->qp = cb->child_cm_id->qp`; the stages of `serving`
are those of the server thread. -/
inductive Phase where
  | connecting
  | settingUp
  | storing
  | preparing
  | serving
  | over
  deriving DecidableEq, Repr

/-- The server with the connections it names by their cm ids.  `connection`
is a history variable: the one that the queue pair was built on. -/
structure Session where
  server : Server
  phase : Phase
  childCmId : Option Nat
  qp : Option Nat
  connection : Option Nat
  destroyed : List Nat
  deriving DecidableEq, Repr

inductive SessionInput where
  | cmEvent (cmId : Nat) (event : CmEvent)
  | callback (input : HandlerInput)
  | connectClient (interrupted supported : Bool)
  | createQp (ret : Int)
  | storeQp
  | prepare (ret : Int)
  | serve (input : ServerInput)
  | tearDown

namespace Session

/-- `nmsg_cma_event_handler` for an event of any cm id. -/
def cmEvent (session : Session) (cmId : Nat) (event : CmEvent) : Session :=
  { session with
    server :=
      { session.server with
        handler := nmsgCmaEventHandler serverSide event
          session.server.handler }
    childCmId :=
      if event = .connectRequest then some cmId else session.childCmId }

/-- `rdma_destroy_id(cb->child_cm_id)` at the end of `nmsg_server_setup` or
`nmsg_start`. -/
def destroy (session : Session) : Session :=
  { session with
    phase := .over
    destroyed := session.destroyed ++ session.childCmId.toList }

/-- The steps of the server thread that `Server.step` takes. -/
def isThread : ServerInput → Bool
  | .handler _ => false
  | .connect _ _ => false
  | _ => true

def step (session : Session) : SessionInput → Option Session
  | .cmEvent cmId event => some (session.cmEvent cmId event)
  | .callback input =>
      match input with
      | .cmEvent _ => none
      | input =>
          (session.server.handler.step serverSide input).map fun handler =>
            { session with server := { session.server with handler := handler } }
  | .connectClient interrupted supported =>
      if session.phase = .connecting ∧
          session.server.awake interrupted .connectRequest then
        if session.server.handler.state = .connectRequest ∧ supported then
          some { session with phase := .settingUp }
        else
          -- `nmsg_server_setup` returns 0 here as well
          some
            { session with
              phase := .serving
              server := session.server.goto .accepting }
      else none
  | .createQp ret =>
      if session.phase = .settingUp ∧ session.childCmId.isSome then
        if ret ≠ 0 then some session.destroy
        else
          some
            { session with
              phase := .storing
              connection := session.childCmId }
      else none
  | .storeQp =>
      if session.phase = .storing then
        some { session with phase := .preparing, qp := session.childCmId }
      else none
  | .prepare ret =>
      if session.phase = .preparing then
        if ret ≠ 0 then some session.destroy
        else
          some
            { session with
              phase := .serving
              server := session.server.goto .accepting }
      else none
  | .serve input =>
      if session.phase = .serving ∧ isThread input then
        (session.server.step input).map fun server =>
          { session with server := server }
      else none
  | .tearDown =>
      match session.phase, session.server.stage with
      | .serving, .left _ => some session.destroy
      | _, _ => none

/-- The fields of the handler, the thread's place and the connections, with
the history variables of the handler left out. -/
def fields (session : Session) : Session :=
  { session with
    server :=
      { session.server with
        handler :=
          { session.server.handler with
            resolving := 0
            failed := false } } }

/-- An event of a peer that is not the session's. -/
def Foreign (session : Session) (cmId : Nat) : Prop :=
  session.phase ≠ .over ∧ session.connection.isSome = true ∧
    session.connection ≠ some cmId

instance (session : Session) (cmId : Nat) :
    Decidable (session.Foreign cmId) :=
  inferInstanceAs (Decidable (_ ∧ _ ∧ _))

/-- The session is on its connection, and that connection is destroyed at its
end. -/
structure Kept (session : Session) : Prop where
  child : session.phase ≠ .over → session.connection.isSome = true →
    session.childCmId = session.connection
  qp : session.connection.isSome = true →
    session.qp = none ∨ session.qp = session.connection
  destroyed : session.connection.isSome = true →
    session.destroyed =
      if session.phase = .over then session.connection.toList else []

end Session

def sessionMachine : Machine Session SessionInput where
  Initial := fun session =>
    session = ⟨⟨.fresh, .connecting⟩, .connecting, none, none, none, []⟩
  step := Session.step

/-- The session is on its connection, and no admitted event of another peer
changes a field that it uses. -/
def Session.Undisturbed (session : Session)
    (allowed : Session → SessionInput → Prop) : Prop :=
  session.Kept ∧ ∀ cmId event next, session.Foreign cmId →
    allowed session (.cmEvent cmId event) →
    session.step (.cmEvent cmId event) = some next →
    next.fields = session.fields

def SessionUndisturbed (allowed : Session → SessionInput → Prop) : Prop :=
  ∀ session, sessionMachine.Reaches allowed session →
    session.Undisturbed allowed

/-- An event that only wakes the waiters, or writes what the state word says
already. -/
def CmEvent.Harmless (state : NmsgState) : CmEvent → Prop
  | .connectRequest => False
  | .addrResolved => state = .addrResolved
  | .routeResolved => state = .routeResolved
  | .established => True
  | .other => True
  | _ => state = .error

instance (state : NmsgState) :
    (event : CmEvent) → Decidable (event.Harmless state)
  | .connectRequest => inferInstanceAs (Decidable False)
  | .addrResolved => inferInstanceAs (Decidable (_ = _))
  | .routeResolved => inferInstanceAs (Decidable (_ = _))
  | .established => inferInstanceAs (Decidable True)
  | .other => inferInstanceAs (Decidable True)
  | .addrError => inferInstanceAs (Decidable (_ = _))
  | .routeError => inferInstanceAs (Decidable (_ = _))
  | .connectError => inferInstanceAs (Decidable (_ = _))
  | .unreachable => inferInstanceAs (Decidable (_ = _))
  | .rejected => inferInstanceAs (Decidable (_ = _))
  | .disconnected => inferInstanceAs (Decidable (_ = _))
  | .deviceRemoval => inferInstanceAs (Decidable (_ = _))

namespace Session

/-- The events of other peers during a session are harmless. -/
def Spared (session : Session) : SessionInput → Prop
  | .cmEvent cmId event => session.Foreign cmId →
      event.Harmless session.server.handler.state
  | _ => True

instance (session : Session) :
    (input : SessionInput) → Decidable (session.Spared input)
  | .cmEvent _ _ => inferInstanceAs (Decidable (_ → _))
  | .callback _ => inferInstanceAs (Decidable True)
  | .connectClient _ _ => inferInstanceAs (Decidable True)
  | .createQp _ => inferInstanceAs (Decidable True)
  | .storeQp => inferInstanceAs (Decidable True)
  | .prepare _ => inferInstanceAs (Decidable True)
  | .serve _ => inferInstanceAs (Decidable True)
  | .tearDown => inferInstanceAs (Decidable True)

theorem cmEvent_fields_iff {session : Session} {cmId : Nat}
    (elsewhere : session.childCmId ≠ some cmId) (event : CmEvent) :
    (session.cmEvent cmId event).fields = session.fields ↔
      event.Harmless session.server.handler.state := by
  constructor
  · intro same
    have state : (session.cmEvent cmId event).server.handler.state =
        session.server.handler.state :=
      congrArg (fun fields => fields.server.handler.state) same
    have child : (session.cmEvent cmId event).childCmId = session.childCmId :=
      congrArg (fun fields => fields.childCmId) same
    cases event with
    | connectRequest => exact absurd child.symm elsewhere
    | established => trivial
    | other => trivial
    | _ => exact state.symm
  · intro harmless
    unfold fields cmEvent nmsgCmaEventHandler
    cases event with
    | connectRequest => exact absurd harmless id
    | established => rfl
    | other => rfl
    | _ =>
        have state := harmless
        unfold CmEvent.Harmless at state
        simp [CmEvent.isFailure, Side.advance, state]

/-- `Kept`, and nothing has been stored before the queue pair is built. -/
structure Standing (session : Session) : Prop where
  kept : session.Kept
  early : session.phase = .connecting ∨ session.phase = .settingUp →
    session.connection = none ∧ session.qp = none ∧ session.destroyed = []

/-- What the thread does between the beginning of the session and its end
touches no connection. -/
theorem Kept.goOn {session : Session} (kept : session.Kept)
    (up : session.phase ≠ .over) {phase : Phase} (up' : phase ≠ .over)
    (server : Server) :
    ({ session with phase := phase, server := server } : Session).Kept := by
  refine ⟨fun _ => kept.child up, kept.qp, ?_⟩
  intro built
  have before := kept.destroyed built
  rw [if_neg up] at before
  rw [if_neg up']
  exact before

theorem Kept.of_none {session : Session} (none_ : session.connection = none) :
    session.Kept := by
  refine ⟨?_, ?_, ?_⟩ <;> simp [none_]

theorem destroy_kept {session : Session} (kept : session.Kept)
    (up : session.phase ≠ .over) : session.destroy.Kept := by
  constructor
  · intro alive
    exact absurd rfl alive
  · exact kept.qp
  · intro built
    have child := kept.child up built
    have before := kept.destroyed built
    rw [if_neg up] at before
    unfold destroy
    dsimp only
    rw [before, child, if_pos rfl, List.nil_append]

theorem cmEvent_standing {session : Session} {cmId : Nat} {event : CmEvent}
    (standing : session.Standing)
    (spared : session.Spared (.cmEvent cmId event)) :
    (session.cmEvent cmId event).Standing := by
  refine ⟨⟨?_, standing.kept.qp, standing.kept.destroyed⟩, standing.early⟩
  intro up built
  have child := standing.kept.child up built
  unfold cmEvent
  dsimp only
  split
  · next request =>
    subst request
    -- The connect request of another peer is never harmless.
    by_contra different
    exact spared ⟨up, built, fun same => different same.symm⟩
  · exact child

theorem step_standing {session next : Session} {input : SessionInput}
    (standing : session.Standing) (spared : session.Spared input)
    (moved : session.step input = some next) : next.Standing := by
  have kept := standing.kept
  cases input with
  | cmEvent cmId event =>
      obtain rfl := Option.some.inj moved
      exact cmEvent_standing standing spared
  | callback input =>
      unfold Session.step at moved
      dsimp only at moved
      split at moved
      · cases moved
      · obtain ⟨handler, -, rfl⟩ := Option.map_eq_some_iff.mp moved
        exact ⟨⟨kept.child, kept.qp, kept.destroyed⟩, standing.early⟩
  | connectClient interrupted supported =>
      obtain ⟨⟨phase, -⟩, moved⟩ := Option.ite_none_right_eq_some.mp moved
      obtain ⟨connection, qp, destroyed⟩ := standing.early (.inl phase)
      split at moved <;> obtain rfl := Option.some.inj moved
      · exact ⟨.of_none connection, fun _ => ⟨connection, qp, destroyed⟩⟩
      · exact ⟨.of_none connection, nofun⟩
  | createQp ret =>
      obtain ⟨⟨phase, child⟩, moved⟩ := Option.ite_none_right_eq_some.mp moved
      obtain ⟨connection, qp, destroyed⟩ := standing.early (.inr phase)
      split at moved <;> obtain rfl := Option.some.inj moved
      · exact ⟨.of_none connection, nofun⟩
      · exact ⟨⟨fun _ _ => rfl, fun _ => .inl qp, fun _ => destroyed⟩, nofun⟩
  | storeQp =>
      obtain ⟨phase, moved⟩ := Option.ite_none_right_eq_some.mp moved
      obtain rfl := Option.some.inj moved
      have up : session.phase ≠ .over := by
        rw [phase]
        decide
      refine ⟨⟨fun _ => kept.child up, ?_, ?_⟩, nofun⟩
      · intro built
        exact .inr (kept.child up built)
      · intro built
        have before := kept.destroyed built
        rw [if_neg up] at before
        exact before
  | prepare ret =>
      obtain ⟨phase, moved⟩ := Option.ite_none_right_eq_some.mp moved
      have up : session.phase ≠ .over := by
        rw [phase]
        decide
      split at moved <;> obtain rfl := Option.some.inj moved
      · exact ⟨destroy_kept kept up, nofun⟩
      · have serving : Phase.serving ≠ .over := nofun
        exact ⟨kept.goOn up serving _, nofun⟩
  | serve input =>
      obtain ⟨-, moved⟩ := Option.ite_none_right_eq_some.mp moved
      obtain ⟨server, -, rfl⟩ := Option.map_eq_some_iff.mp moved
      exact ⟨⟨kept.child, kept.qp, kept.destroyed⟩, standing.early⟩
  | tearDown =>
      unfold Session.step at moved
      dsimp only at moved
      split at moved
      · next phase _ =>
        obtain rfl := Option.some.inj moved
        have up : session.phase ≠ .over := by
          rw [phase]
          decide
        exact ⟨destroy_kept kept up, nofun⟩
      · cases moved

theorem standing_invariant :
    sessionMachine.Invariant Spared Standing := by
  constructor
  · rintro session rfl
    exact ⟨.of_none rfl, fun _ => ⟨rfl, rfl, rfl⟩⟩
  · intro session input next standing spared moved
    exact step_standing standing spared moved

/-- In a session that stays on its connection, an event of another peer
changes nothing exactly when it is harmless. -/
theorem foreign_fields_iff {session : Session} (kept : session.Kept)
    {cmId : Nat} (foreign : session.Foreign cmId) (event : CmEvent) :
    (session.cmEvent cmId event).fields = session.fields ↔
      event.Harmless session.server.handler.state := by
  obtain ⟨up, built, other⟩ := foreign
  apply cmEvent_fields_iff
  rw [kept.child up built]
  exact other

end Session

/-- An active session is not disturbed as long as the events of other peers
are harmless, and no other event of theirs leaves it undisturbed. -/
theorem session_undisturbed (session : Session)
    (reached : sessionMachine.Reaches Session.Spared session) :
    session.Undisturbed Session.Spared ∧
      ∀ cmId event, session.Foreign cmId →
        ((session.cmEvent cmId event).fields = session.fields ↔
          session.Spared (.cmEvent cmId event)) := by
  have kept : session.Kept :=
    (Session.standing_invariant.reaches reached).kept
  constructor
  · refine ⟨kept, ?_⟩
    intro cmId event next foreign spared moved
    obtain rfl := Option.some.inj moved
    exact (Session.foreign_fields_iff kept foreign event).mpr (spared foreign)
  · intro cmId event foreign
    rw [Session.foreign_fields_iff kept foreign event]
    exact ⟨fun harmless _ => harmless, fun spared => spared foreign⟩

/-- A session on connection 1 up to the wait for the first advertisement. -/
private def onConnection : List SessionInput :=
  [.cmEvent 1 .connectRequest, .connectClient false true, .createQp 0,
    .storeQp, .prepare 0, .serve (.accept 0), .callback .cqEvent,
    .callback (.poll (some (.ok ⟨.success, .recv, 56, ⟨4096, 1, 1024⟩⟩))),
    .callback .recvWrite, .callback (.postRecv 0), .serve (.wake false)]

/-- Another peer's connection is only established during the session, and the
session ends with its own peer. -/
theorem session_undisturbed_established :
    ∃ session, sessionMachine.Reaches Session.Spared session ∧
      session.connection = some 1 ∧ session.Kept ∧
      session.destroyed = [1] := by
  have reached : ∃ session,
      sessionMachine.Reaches Session.Spared session ∧
        session.phase = .over ∧ session.connection = some 1 :=
    ⟨_, Machine.reaches_of_execIf
      (fun session input admitted => of_decide_eq_true admitted)
      (onConnection ++ [.cmEvent 2 .established, .cmEvent 1 .disconnected,
        .serve (.wake false), .tearDown]) rfl rfl, rfl, rfl⟩
  obtain ⟨session, reached, closed, connection⟩ := reached
  have kept := (session_undisturbed session reached).1.1
  refine ⟨session, reached, connection, kept, ?_⟩
  have destroyed := kept.destroyed (by rw [connection]; rfl)
  rw [if_pos closed, connection] at destroyed
  exact destroyed

/-- A second client's connect request takes the place of the session's
connection. -/
theorem session_disturbed : ¬SessionUndisturbed Machine.anyInput := by
  intro undisturbed
  have reached : ∃ session, sessionMachine.Reachable session ∧
      session.phase = .serving ∧ session.connection = some 1 ∧
      session.childCmId = some 2 :=
    ⟨_, Machine.reachable_of_exec
      (onConnection ++ [.cmEvent 2 .connectRequest]) rfl rfl, rfl, rfl, rfl⟩
  obtain ⟨session, reached, phase, connection, child⟩ := reached
  have kept := (undisturbed session reached).1
  have same := kept.child (by rw [phase]; decide) (by rw [connection]; rfl)
  rw [child, connection] at same
  cases same

end Rshm.Rdma
