import Mathlib.Data.List.Basic
import Rshm.Rdma.Endpoint

/-!
# One connected client and server

The two endpoints over a reliable connection: the advertisements and
go-aheads in flight, the receives posted for them, the RDMA read the server
has outstanding and the completions queued on either side, each delivered in
order.  Every verb succeeds.  A message is the contents of a whole buffer.
-/

namespace Rshm.Rdma

/-- `call` is the message that `nmsg_start` copied for the running call, and
`sendBuf` the advertisement `make_message` left in `send_buf`.  `sent`,
`fetched` and `obtained` record the messages of the calls that returned 0,
the buffer contents the reads transferred, and those the server thread
found at `RDMA_READ_COMPLETE`.  `rdmaWr` is the read request the thread
has filled in. -/
structure Link (Message : Type) where
  client : Client
  server : Server
  call : Message
  startBuf : Message
  startDmaAddr : UInt64
  messageSize : UInt32
  rkey : UInt32
  key : UInt8
  sendBuf : NmsgData
  rdmaWr : NmsgData
  rdmaBuf : Message
  adverts : List NmsgData
  serverRecvPosted : Bool
  serverCq : List Wc
  read : Option NmsgData
  goAheads : List UInt32
  clientRecvPosted : Bool
  clientCq : List Wc
  destroyed : Bool
  sent : List Message
  fetched : List Message
  obtained : List Message

inductive LinkInput (Message : Type) where
  | sendMessage (message : Message)
  | copyMessage
  | rdmaRkey
  | checkState
  | postSend
  | destroyClient
  | clientCqEvent
  | clientPoll
  | clientRecvWrite
  | clientPostRecv
  | deliverAdvert
  | executeRead
  | deliverGoAhead
  | disconnect
  | serverCqEvent
  | serverPoll
  | serverRecvWrite
  | serverPostRecv
  | serverWake
  | serverRkey
  | postRead
  | writeConnected
  | postGoAhead

/-- `ib_update_fast_reg_key`: the low byte of the key is replaced. -/
def ibUpdateFastRegKey (rkey : UInt32) (key : UInt8) : UInt32 :=
  (rkey &&& 0xffffff00) ||| key.toUInt32

def recvCompletion (data : NmsgData) : Wc :=
  ⟨.success, .recv, NmsgData.sizeof, data⟩

def sendCompletion : Wc := ⟨.success, .send, 0, ⟨0, 0, 0⟩⟩

def readCompletion : Wc := ⟨.success, .rdmaRead, 0, ⟨0, 0, 0⟩⟩

/-- Nothing reads the payload of a go-ahead. -/
def goAheadCompletion : Wc := recvCompletion ⟨0, 0, 0⟩

/-- What one `ib_poll_cq` returns, and what it leaves. -/
def takeCompletion (cq : List Wc) : Option (Except Int Wc) × List Wc :=
  match cq with
  | [] => (none, [])
  | wc :: rest => (some (.ok wc), rest)

namespace Link

variable {Message : Type}

/-- A step of the client's code, with what it does to the rest. -/
def onClient (link : Link Message) (input : ClientInput)
    (effect : Link Message → Link Message) : Option (Link Message) :=
  if link.destroyed then none
  else
    (link.client.step input).map fun client =>
      { effect link with client := client }

/-- A step of the server's code, with what it does to the rest. -/
def onServer (link : Link Message) (input : ServerInput)
    (effect : Server → Link Message → Link Message) : Option (Link Message) :=
  (link.server.step input).map fun server =>
    { effect server link with server := server }

/-- `nmsg_rdma_rkey` and the three fields `make_message` fills. -/
def makeMessage (link : Link Message) : Link Message :=
  let key := link.key + 1
  let rkey := ibUpdateFastRegKey link.rkey key
  { link with
    key := key
    rkey := rkey
    sendBuf := ⟨link.startDmaAddr, rkey, link.messageSize⟩ }

/-- The caller's thread.  `nmsg_send_message` returns 0 when its last verb
has: `sent` grows there. -/
def callerStep (link : Link Message) :
    LinkInput Message → Option (Link Message)
  | .sendMessage message =>
      link.onClient (.startClient 0) fun link => { link with call := message }
  | .copyMessage =>
      link.onClient (.copyMessage 0) fun link =>
        { link with startBuf := link.call }
  | .rdmaRkey => link.onClient (.rdmaRkey 0 0) makeMessage
  | .checkState => link.onClient (.checkState 0) id
  | .postSend =>
      link.onClient (.postSend 0 0) fun link =>
        { link with
          adverts := link.adverts ++ [link.sendBuf]
          sent := link.sent ++ [link.call] }
  | .destroyClient =>
      -- the disconnect flushes what has not been delivered
      if link.destroyed ∨ (link.client.callers 0).outside = false then none
      else
        some { link with
          destroyed := true, adverts := [], read := none, goAheads := [] }
  | _ => none

def clientCallback (link : Link Message) :
    LinkInput Message → Option (Link Message)
  | .clientCqEvent =>
      if link.clientCq = [] then none
      else link.onClient (.handler .cqEvent) id
  | .clientPoll =>
      let polled := takeCompletion link.clientCq
      link.onClient (.handler (.poll polled.1)) fun link =>
        { link with clientCq := polled.2 }
  | .clientRecvWrite => link.onClient (.handler .recvWrite) id
  | .clientPostRecv =>
      link.onClient (.handler (.postRecv 0)) fun link =>
        { link with clientRecvPosted := true }
  | _ => none

/-- The connection.  A send is delivered into a posted receive and
completes at its sender; a read copies the client's buffer and completes at
the server. -/
def networkStep (link : Link Message) :
    LinkInput Message → Option (Link Message)
  | .deliverAdvert =>
      match link.adverts with
      | [] => none
      | data :: rest =>
          if link.serverRecvPosted then
            some { link with
              adverts := rest
              serverRecvPosted := false
              serverCq := link.serverCq ++ [recvCompletion data]
              clientCq := link.clientCq ++ [sendCompletion] }
          else none
  | .executeRead =>
      match link.read with
      | none => none
      | some _ =>
          some { link with
            read := none
            rdmaBuf := link.startBuf
            serverCq := link.serverCq ++ [readCompletion]
            fetched := link.fetched ++ [link.startBuf] }
  | .deliverGoAhead =>
      match link.goAheads with
      | [] => none
      | _ :: rest =>
          if link.clientRecvPosted then
            some { link with
              goAheads := rest
              clientRecvPosted := false
              clientCq := link.clientCq ++ [goAheadCompletion]
              serverCq := link.serverCq ++ [sendCompletion] }
          else none
  | .disconnect =>
      if link.destroyed then
        link.onServer (.handler (.cmEvent .disconnected)) fun _ link => link
      else none
  | _ => none

def serverCallback (link : Link Message) :
    LinkInput Message → Option (Link Message)
  | .serverCqEvent =>
      if link.serverCq = [] then none
      else link.onServer (.handler .cqEvent) fun _ link => link
  | .serverPoll =>
      let polled := takeCompletion link.serverCq
      link.onServer (.handler (.poll polled.1)) fun _ link =>
        { link with serverCq := polled.2 }
  | .serverRecvWrite =>
      link.onServer (.handler .recvWrite) fun _ link => link
  | .serverPostRecv =>
      link.onServer (.handler (.postRecv 0)) fun _ link =>
        { link with serverRecvPosted := true }
  | _ => none

/-- The server thread.  `nmsg_run_server` prints `rdma_buf` once it has seen
`RDMA_READ_COMPLETE`: `obtained` grows there. -/
def threadStep (link : Link Message) :
    LinkInput Message → Option (Link Message)
  | .serverWake =>
      link.onServer (.wake false) fun server link =>
        if server.stage = .readComplete then
          { link with obtained := link.obtained ++ [link.rdmaBuf] }
        else link
  | .serverRkey =>
      link.onServer (.rdmaRkey 0) fun server link =>
        { link with rdmaWr := server.handler.remote }
  | .postRead =>
      link.onServer (.postRead 0) fun _ link =>
        { link with
          read := if link.destroyed then none else some link.rdmaWr }
  | .writeConnected => link.onServer .writeConnected fun _ link => link
  | .postGoAhead =>
      link.onServer (.postGoAhead 0) fun server link =>
        { link with
          goAheads :=
            if link.destroyed then []
            else link.goAheads ++ [server.handler.remote.rkey] }
  | _ => none

def step (link : Link Message) (input : LinkInput Message) :
    Option (Link Message) :=
  match input with
  | .sendMessage _ | .copyMessage | .rdmaRkey | .checkState | .postSend
  | .destroyClient => link.callerStep input
  | .clientCqEvent | .clientPoll | .clientRecvWrite | .clientPostRecv =>
      link.clientCallback input
  | .deliverAdvert | .executeRead | .deliverGoAhead | .disconnect =>
      link.networkStep input
  | .serverCqEvent | .serverPoll | .serverRecvWrite | .serverPostRecv =>
      link.serverCallback input
  | .serverWake | .serverRkey | .postRead | .writeConnected | .postGoAhead =>
      link.threadStep input

/-- A connection as `nmsg_connect_client` on the client and `rdma_accept` on
the server leave it.  The server's `ESTABLISHED` event writes nothing, so
`nmsg_accept` still waits. -/
structure Connected (link : Link Message) : Prop where
  clientState : link.client.handler.state = .connected
  clientCq : link.client.handler.cq = .idle
  callers : link.client.callers 0 = .idle
  serverState : link.server.handler.state = .connectRequest
  serverCq : link.server.handler.cq = .idle
  stage : link.server.stage = .waitConnected
  adverts : link.adverts = []
  goAheads : link.goAheads = []
  serverRecvPosted : link.serverRecvPosted = true
  clientRecvPosted : link.clientRecvPosted = true
  serverCompletions : link.serverCq = []
  clientCompletions : link.clientCq = []
  read : link.read = none
  destroyed : link.destroyed = false
  sent : link.sent = []
  fetched : link.fetched = []
  obtained : link.obtained = []

end Link

def linkMachine (Message : Type) : Machine (Link Message) (LinkInput Message) :=
  { Initial := Link.Connected
    step := Link.step }

end Rshm.Rdma
