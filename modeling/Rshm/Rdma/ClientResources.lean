import Rshm.Rdma.ServerResources

/-!
# What the client acquires and releases

The client runs in its caller's thread: `nmsg_init_client`, then the messages,
then `nmsg_destroy_client`.  Its functions are those of the source, with what
every allocation and verb returns as an argument; a run that goes through a
null pointer has no end.
-/

namespace Rshm.Rdma

inductive ClientResource where
  | cb
  | addrStr
  | cmId
  | pd
  | cq
  | qp
  | regMr
  | recvDma
  | sendDma
  | startBuf
  | message
  deriving DecidableEq, Repr

/-- The pointer fields are those that a cleanup path tests. -/
structure ClientRun where
  ledger : Ledger ClientResource
  regMr : Pointer
  startBuf : Pointer
  deriving DecidableEq, Repr

structure SetupQpVerbs where
  allocPd : Int
  createCq : Int
  reqNotifyCq : Int
  createQp : Int
  deriving DecidableEq, Repr

structure SetupBuffersVerbs where
  mapRecv : Bool
  mapSend : Bool
  allocMr : Int
  allocCoherent : Bool
  deriving DecidableEq, Repr

structure RunClientVerbs where
  bindClient : Int
  setupQp : SetupQpVerbs
  setupBuffers : SetupBuffersVerbs
  postRecv : Int
  connectClient : Int
  deriving DecidableEq, Repr

/-- `cb` is what `kmalloc` leaves in the pointer fields of the handler. -/
structure PreStartVerbs where
  cb : Option (Pointer × Pointer)
  addrStr : Bool
  createId : Int
  runClient : RunClientVerbs
  deriving DecidableEq, Repr

namespace ClientRun

def acquire (client : ClientRun) (resource : ClientResource) : ClientRun :=
  { client with ledger := client.ledger.acquire resource }

def acquireIf (client : ClientRun) (acquired : Bool)
    (resource : ClientResource) : ClientRun :=
  if acquired then client.acquire resource else client

def releaseAll (client : ClientRun) (resources : List ClientResource) :
    ClientRun :=
  { client with ledger := client.ledger.releaseAll resources }

/-- What the `bail` label of `nmsg_setup_buffers` releases. -/
def bail (client : ClientRun) : List ClientResource :=
  (if client.regMr = .address then [.regMr] else []) ++
    if client.startBuf = .null then [] else [.startBuf]

def nmsgSetupBuffers (verbs : SetupBuffersVerbs) (client : ClientRun) :
    Int × ClientRun :=
  -- neither address is checked
  let client :=
    (client.acquireIf verbs.mapRecv .recvDma).acquireIf verbs.mapSend .sendDma
  if verbs.allocMr ≠ 0 then
    let client := { client with regMr := .error }
    (verbs.allocMr, client.releaseAll client.bail)
  else
    let client := { client.acquire .regMr with regMr := .address }
    if verbs.allocCoherent then
      (0, { client.acquire .startBuf with startBuf := .address })
    else
      let client := { client with startBuf := .null }
      (-12, client.releaseAll client.bail)

/-- What `nmsg_free_buffers` releases. -/
def buffers (client : ClientRun) : List ClientResource :=
  (if client.regMr = .null then [] else [.regMr]) ++ [.recvDma, .sendDma] ++
    if client.startBuf = .null then [] else [.startBuf]

def nmsgFreeBuffers (client : ClientRun) : ClientRun :=
  client.releaseAll client.buffers

def nmsgFreeQp (client : ClientRun) : ClientRun :=
  client.releaseAll [.qp, .cq, .pd]

def nmsgSetupQp (verbs : SetupQpVerbs) (client : ClientRun) :
    Int × ClientRun :=
  if verbs.allocPd ≠ 0 then (verbs.allocPd, client)
  else
    let client := client.acquire .pd
    if verbs.createCq ≠ 0 then (verbs.createCq, client.releaseAll [.pd])
    else
      let client := client.acquire .cq
      if verbs.reqNotifyCq ≠ 0 then
        (verbs.reqNotifyCq, client.releaseAll [.cq, .pd])
      else if verbs.createQp ≠ 0 then
        (verbs.createQp, client.releaseAll [.cq, .pd])
      else (0, client.acquire .qp)

def nmsgRunClient (verbs : RunClientVerbs) (client : ClientRun) :
    Int × ClientRun :=
  if verbs.bindClient ≠ 0 then (verbs.bindClient, client)
  else
    let built := nmsgSetupQp verbs.setupQp client
    if built.1 ≠ 0 then built
    else
      let ready := nmsgSetupBuffers verbs.setupBuffers built.2
      if ready.1 ≠ 0 then (ready.1, ready.2.nmsgFreeQp)
      else if verbs.postRecv ≠ 0 then
        (verbs.postRecv, ready.2.nmsgFreeBuffers.nmsgFreeQp)
      else if verbs.connectClient ≠ 0 then
        (verbs.connectClient, ready.2.nmsgFreeBuffers.nmsgFreeQp)
      else (0, ready.2)

def nmsgPreStart (verbs : PreStartVerbs) : Option (Int × ClientRun) :=
  match verbs.cb with
  | none => none
  | some (regMr, startBuf) =>
      if verbs.addrStr then
        let client : ClientRun := ⟨.empty, regMr, startBuf⟩
        let client := (client.acquire .cb).acquire .addrStr
        if verbs.createId ≠ 0 then
          some (verbs.createId, client.releaseAll [.cb])
        else some (nmsgRunClient verbs.runClient (client.acquire .cmId))
      else none

def nmsgInitClient (verbs : PreStartVerbs) : Option (Int × ClientRun) :=
  nmsgPreStart verbs

/-- `nmsg_start` copies the message; `nmsg_start_client` acquires nothing. -/
def nmsgStart (client : ClientRun) (copied : Bool) : Option ClientRun :=
  if copied then some (client.acquire .message) else none

def nmsgSendMessage (client : ClientRun) (copied : Bool) : Option ClientRun :=
  client.nmsgStart copied

def nmsgFree (client : ClientRun) : ClientRun :=
  ((client.releaseAll [.cmId]).nmsgFreeBuffers.nmsgFreeQp).releaseAll [.cb]

def nmsgDestroyClient (client : ClientRun) : ClientRun :=
  client.nmsgFree

/-- A whole run of the client; `copied` says for each message whether its copy
could be allocated. -/
def run (verbs : PreStartVerbs) (copied : List Bool) : Option ClientRun :=
  match nmsgInitClient verbs with
  | none => none
  | some (ret, client) =>
      if ret ≠ 0 then some client
      else (copied.foldlM nmsgSendMessage client).map nmsgDestroyClient

end ClientRun

namespace ClientRun

def Holds (client : ClientRun) (resource : ClientResource) : Prop :=
  resource ∈ client.ledger.acquired ∧ resource ∉ client.ledger.released

theorem Holds.acquire {client : ClientRun} {resource : ClientResource}
    (held : client.Holds resource) (other : ClientResource) :
    (client.acquire other).Holds resource :=
  ⟨List.mem_cons_of_mem other held.1, held.2⟩

theorem Holds.acquireIf {client : ClientRun} {resource : ClientResource}
    (held : client.Holds resource) (acquired : Bool)
    (other : ClientResource) :
    (client.acquireIf acquired other).Holds resource := by
  unfold ClientRun.acquireIf
  split
  · exact held.acquire other
  · exact held

theorem Holds.releaseAll {client : ClientRun} {resource : ClientResource}
    (held : client.Holds resource) {resources : List ClientResource}
    (outside : resource ∉ resources) :
    (client.releaseAll resources).Holds resource := by
  refine ⟨?_, ?_⟩
  · unfold ClientRun.releaseAll
    rw [Ledger.releaseAll_acquired]
    exact held.1
  · intro released
    rcases Ledger.mem_releaseAll_released.mp released with now | before
    · exact outside now
    · exact held.2 before

/-- The resources of the connection itself. -/
def connectionResources : List ClientResource :=
  [.pd, .cq, .qp, .regMr, .recvDma, .sendDma, .startBuf]

section Outside

variable {client : ClientRun} {resource : ClientResource}

theorem bail_subset (client : ClientRun) :
    client.bail ⊆ connectionResources := by
  unfold bail
  split <;> split <;> decide

theorem buffers_subset (client : ClientRun) :
    client.buffers ⊆ connectionResources := by
  unfold buffers
  split <;> split <;> decide

theorem Holds.nmsgFreeBuffers (held : client.Holds resource)
    (outside : resource ∉ connectionResources) :
    client.nmsgFreeBuffers.Holds resource := by
  apply held.releaseAll
  intro released
  exact outside (buffers_subset client released)

theorem Holds.nmsgFreeQp (held : client.Holds resource)
    (outside : resource ∉ connectionResources) :
    client.nmsgFreeQp.Holds resource := by
  apply held.releaseAll
  intro released
  have within : [ClientResource.qp, .cq, .pd] ⊆ connectionResources := by
    decide
  exact outside (within released)

theorem Holds.nmsgSetupBuffers (held : client.Holds resource)
    (outside : resource ∉ connectionResources) (verbs : SetupBuffersVerbs) :
    (ClientRun.nmsgSetupBuffers verbs client).2.Holds resource := by
  have mapped := (held.acquireIf verbs.mapRecv .recvDma).acquireIf
    verbs.mapSend .sendDma
  unfold ClientRun.nmsgSetupBuffers
  dsimp only
  split
  · apply Holds.releaseAll
    · exact mapped
    · intro released
      exact outside (bail_subset _ released)
  · have registered := mapped.acquire .regMr
    split
    · exact registered.acquire .startBuf
    · apply Holds.releaseAll
      · exact registered
      · intro released
        exact outside (bail_subset _ released)

theorem Holds.nmsgSetupQp (held : client.Holds resource)
    (outside : resource ∉ connectionResources) (verbs : SetupQpVerbs) :
    (ClientRun.nmsgSetupQp verbs client).2.Holds resource := by
  have allocated := held.acquire .pd
  have created := allocated.acquire .cq
  have notPd : resource ∉ [ClientResource.pd] := by
    intro released
    have within : [ClientResource.pd] ⊆ connectionResources := by decide
    exact outside (within released)
  have notBoth : resource ∉ [ClientResource.cq, .pd] := by
    intro released
    have within : [ClientResource.cq, .pd] ⊆ connectionResources := by decide
    exact outside (within released)
  unfold ClientRun.nmsgSetupQp
  dsimp only
  split
  · exact held
  split
  · exact allocated.releaseAll notPd
  split
  · exact created.releaseAll notBoth
  split
  · exact created.releaseAll notBoth
  · exact created.acquire .qp

theorem Holds.nmsgRunClient (held : client.Holds resource)
    (outside : resource ∉ connectionResources) (verbs : RunClientVerbs) :
    (ClientRun.nmsgRunClient verbs client).2.Holds resource := by
  have built := held.nmsgSetupQp outside verbs.setupQp
  have ready := built.nmsgSetupBuffers outside verbs.setupBuffers
  have freed := (ready.nmsgFreeBuffers outside).nmsgFreeQp outside
  unfold ClientRun.nmsgRunClient
  dsimp only
  split
  · exact held
  split
  · exact built
  split
  · exact ready.nmsgFreeQp outside
  split
  · exact freed
  split
  · exact freed
  · exact ready

end Outside

/-- A start that returns holds the address string, and a failed one also the
handler and the cm id when it has created one. -/
theorem nmsgInitClient_holds {verbs : PreStartVerbs} {ret : Int}
    {client : ClientRun} (returned : nmsgInitClient verbs = some (ret, client)) :
    client.Holds .addrStr ∧
      (verbs.createId = 0 → client.Holds .cb ∧ client.Holds .cmId) := by
  unfold nmsgInitClient nmsgPreStart at returned
  split at returned
  · cases returned
  split at returned
  · next regMr startBuf _ _ =>
    split at returned <;> have same := Option.some.inj returned
    · next failed =>
      obtain rfl : _ = client := congrArg Prod.snd same
      refine ⟨?_, fun created => absurd created failed⟩
      apply Holds.releaseAll
      · exact ⟨List.mem_cons_self, List.not_mem_nil⟩
      · decide
    · obtain rfl : _ = client := congrArg Prod.snd same
      let fresh : ClientRun := ⟨.empty, regMr, startBuf⟩
      let entered := ((fresh.acquire .cb).acquire .addrStr).acquire .cmId
      have held : ∀ resource ∈ [ClientResource.cmId, .addrStr, .cb],
          entered.Holds resource := fun resource member =>
        ⟨member, List.not_mem_nil⟩
      have outside : ∀ resource ∈ [ClientResource.cmId, .addrStr, .cb],
          resource ∉ connectionResources := by decide
      have kept : ∀ resource ∈ [ClientResource.cmId, .addrStr, .cb],
          (ClientRun.nmsgRunClient verbs.runClient entered).2.Holds
            resource := fun resource member =>
        (held resource member).nmsgRunClient (outside resource member) _
      exact ⟨kept .addrStr (by decide), fun _ =>
        ⟨kept .cb (by decide), kept .cmId (by decide)⟩⟩
  · cases returned

theorem Holds.nmsgDestroyClient {client : ClientRun}
    (held : client.Holds .addrStr) :
    client.nmsgDestroyClient.Holds .addrStr := by
  unfold ClientRun.nmsgDestroyClient ClientRun.nmsgFree
  apply Holds.releaseAll
  · apply Holds.nmsgFreeQp
    · apply Holds.nmsgFreeBuffers
      · exact held.releaseAll (by decide)
      · decide
    · decide
  · decide

theorem nmsgSendMessage_cases {client next : ClientRun} {copied : Bool}
    (sent : client.nmsgSendMessage copied = some next) :
    next = client.acquire .message := by
  unfold nmsgSendMessage nmsgStart at sent
  split at sent
  · exact (Option.some.inj sent).symm
  · cases sent

theorem Holds.messages {client next : ClientRun} {copied : List Bool}
    {resource : ClientResource} (held : client.Holds resource)
    (sent : copied.foldlM nmsgSendMessage client = some next) :
    next.Holds resource := by
  induction copied generalizing client with
  | nil =>
      obtain rfl := Option.some.inj sent
      exact held
  | cons first copied induction =>
      rw [List.foldlM_cons] at sent
      obtain ⟨middle, one, rest⟩ := Option.bind_eq_some_iff.mp sent
      rw [nmsgSendMessage_cases one] at rest
      exact induction (held.acquire .message) rest

theorem run_holds {verbs : PreStartVerbs} {copied : List Bool}
    {client : ClientRun} (ended : run verbs copied = some client) :
    client.Holds .addrStr := by
  unfold run at ended
  split at ended
  · cases ended
  · next ret started returned =>
    have held := (nmsgInitClient_holds returned).1
    split at ended
    · obtain rfl := Option.some.inj ended
      exact held
    · obtain ⟨sending, sent, rfl⟩ := Option.map_eq_some_iff.mp ended
      exact (held.messages sent).nmsgDestroyClient

/-- Everything that `nmsg_setup_qp` builds, or an error. -/
theorem nmsgSetupQp_cases (verbs : SetupQpVerbs) (client : ClientRun) :
    (nmsgSetupQp verbs client).1 ≠ 0 ∨
      nmsgSetupQp verbs client =
        (0, ((client.acquire .pd).acquire .cq).acquire .qp) := by
  unfold nmsgSetupQp
  dsimp only
  split
  · next failed => exact .inl failed
  split
  · next failed => exact .inl failed
  split
  · next failed => exact .inl failed
  split
  · next failed => exact .inl failed
  · exact .inr rfl

def buffered (verbs : SetupBuffersVerbs) (client : ClientRun) : ClientRun :=
  let client :=
    (client.acquireIf verbs.mapRecv .recvDma).acquireIf verbs.mapSend .sendDma
  { (client.acquire .regMr).acquire .startBuf with
    regMr := .address
    startBuf := .address }

theorem nmsgSetupBuffers_cases (verbs : SetupBuffersVerbs)
    (client : ClientRun) :
    (nmsgSetupBuffers verbs client).1 ≠ 0 ∨
      nmsgSetupBuffers verbs client = (0, client.buffered verbs) := by
  unfold nmsgSetupBuffers
  dsimp only
  split
  · next failed => exact .inl failed
  split
  · exact .inr rfl
  · have enomem : (-12 : Int) ≠ 0 := by decide
    exact .inl enomem

theorem nmsgRunClient_cases (verbs : RunClientVerbs) (client : ClientRun) :
    (nmsgRunClient verbs client).1 ≠ 0 ∨
      nmsgRunClient verbs client =
        (0, (((client.acquire .pd).acquire .cq).acquire .qp).buffered
          verbs.setupBuffers) := by
  have fine : ¬(0 : Int) ≠ 0 := not_not.mpr rfl
  unfold nmsgRunClient
  dsimp only
  split
  · next failed => exact .inl failed
  rcases nmsgSetupQp_cases verbs.setupQp client with failed | built
  · rw [if_pos failed]
    exact .inl failed
  rw [built, if_neg fine]
  dsimp only
  rcases nmsgSetupBuffers_cases verbs.setupBuffers
    (((client.acquire .pd).acquire .cq).acquire .qp) with failed | ready
  · rw [if_pos failed]
    exact .inl failed
  rw [ready, if_neg fine]
  split
  · next failed => exact .inl failed
  split
  · next failed => exact .inl failed
  · exact .inr rfl

/-- What a connected client has acquired when both mappings succeed. -/
def connected : List ClientResource :=
  [.startBuf, .regMr, .sendDma, .recvDma, .qp, .cq, .pd, .cmId, .addrStr,
    .cb]

theorem nmsgInitClient_zero {verbs : PreStartVerbs} {client : ClientRun}
    (returned : nmsgInitClient verbs = some (0, client))
    (mappedRecv : verbs.runClient.setupBuffers.mapRecv = true)
    (mappedSend : verbs.runClient.setupBuffers.mapSend = true) :
    client = ⟨⟨connected, []⟩, .address, .address⟩ := by
  unfold nmsgInitClient nmsgPreStart at returned
  split at returned
  · cases returned
  split at returned
  · next regMr startBuf _ _ =>
    split at returned <;> have same := Option.some.inj returned
    · next failed => exact absurd (congrArg Prod.fst same) failed
    · let fresh : ClientRun := ⟨.empty, regMr, startBuf⟩
      let entered := ((fresh.acquire .cb).acquire .addrStr).acquire .cmId
      rcases nmsgRunClient_cases verbs.runClient entered with failed | ready
      · exact absurd (congrArg Prod.fst same) failed
      · have built : _ = client := (congrArg Prod.snd ready).symm.trans
          (congrArg Prod.snd same)
        rw [← built]
        unfold buffered acquireIf
        rw [mappedRecv, mappedSend]
        rfl
  · cases returned

theorem messages_ledger {client next : ClientRun} {copied : List Bool}
    (sent : copied.foldlM nmsgSendMessage client = some next) :
    next =
      { client with
        ledger :=
          { client.ledger with
            acquired := List.replicate copied.length .message ++
              client.ledger.acquired } } := by
  induction copied generalizing client with
  | nil => exact (Option.some.inj sent).symm
  | cons first copied induction =>
      rw [List.foldlM_cons] at sent
      obtain ⟨middle, one, rest⟩ := Option.bind_eq_some_iff.mp sent
      rw [nmsgSendMessage_cases one] at rest
      rw [induction rest]
      have moved : List.replicate copied.length ClientResource.message ++
          .message :: client.ledger.acquired =
            List.replicate (copied.length + 1) .message ++
              client.ledger.acquired := by
        rw [List.replicate_succ', List.append_assoc]
        rfl
      exact congrArg (fun acquired =>
        ({ client with
          ledger := { client.ledger with acquired := acquired } } :
            ClientRun)) moved

/-- After a run whose start succeeds everything has been released once but
the address string and the copies of the messages. -/
theorem run_released {verbs : PreStartVerbs} {copied : List Bool}
    {client ended : ClientRun}
    (returned : nmsgInitClient verbs = some (0, client))
    (mappedRecv : verbs.runClient.setupBuffers.mapRecv = true)
    (mappedSend : verbs.runClient.setupBuffers.mapSend = true)
    (ran : run verbs copied = some ended) :
    ended.ledger.acquired.Perm
      (ended.ledger.released ++
        .addrStr :: List.replicate copied.length .message) := by
  unfold run at ran
  rw [returned] at ran
  dsimp only at ran
  rw [if_neg (not_not.mpr rfl)] at ran
  obtain ⟨sending, sent, rfl⟩ := Option.map_eq_some_iff.mp ran
  obtain rfl := nmsgInitClient_zero returned mappedRecv mappedSend
  obtain rfl := messages_ledger sent
  let copies := List.replicate copied.length ClientResource.message
  let released : List ClientResource :=
    [.cb, .pd, .cq, .qp, .startBuf, .sendDma, .recvDma, .regMr, .cmId]
  have known : connected.Perm (released ++ [.addrStr]) := by decide
  have apart : (connected ++ copies).Perm
      (released ++ .addrStr :: copies) := known.append_right copies
  have swapped : (copies ++ connected).Perm (connected ++ copies) :=
    List.perm_append_comm
  exact swapped.trans apart

end ClientRun

/-- What a run of the client has acquired has been released exactly once, and
nothing else has been. -/
def ClientReleases : Prop :=
  ∀ verbs copied client, ClientRun.run verbs copied = some client →
    client.ledger.Balanced

/-- No run of the client releases its resources exactly once. -/
theorem client_never_releases (verbs : PreStartVerbs) (copied : List Bool)
    (client : ClientRun) (ended : ClientRun.run verbs copied = some client) :
    ¬client.ledger.Balanced := by
  obtain ⟨acquired, kept⟩ := ClientRun.run_holds ended
  exact Ledger.not_balanced_of_leak acquired kept

/-- The verbs of a start in which nothing fails. -/
private def allFine : PreStartVerbs :=
  ⟨some (.address, .null), true, 0,
    ⟨0, ⟨0, 0, 0, 0⟩, ⟨true, true, 0, true⟩, 0, 0⟩⟩

theorem client_never_releases_two_messages :
    ∃ client, ClientRun.run allFine [true, true] = some client ∧
      client.ledger.acquired.count .message = 2 ∧
      ¬client.ledger.Balanced :=
  ⟨_, rfl, rfl, client_never_releases allFine [true, true] _ rfl⟩

/-- A client that sends nothing keeps the address string. -/
theorem client_keeps_addrStr : ¬ClientReleases := by
  intro releases
  have ended : ∃ client, ClientRun.run allFine [] = some client ∧
      client.ledger.acquired.count .addrStr = 1 ∧
      client.ledger.released.count .addrStr = 0 := ⟨_, rfl, rfl, rfl⟩
  obtain ⟨client, ran, acquired, released⟩ := ended
  have even := Ledger.balanced_iff_count.mp
    (releases allFine [] client ran) .addrStr
  rw [acquired, released] at even
  cases even

end Rshm.Rdma
