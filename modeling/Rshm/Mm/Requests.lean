import Rshm.Mm.Server
import Rshm.Mm.SharedMemory

/-!
# Requests and data on one socket

A retrieval request reaches the server as a datagram like any other, and the
receive loop has one handler for all of them.  So a request is copied to
page 0, over the last data message.
-/

namespace Rshm.Mm

open Terminated

/-- `request_message` of `nmsg_retrieve_pages`. -/
def requestMessage : List UInt8 :=
  "retrieve_pages".toList.map fun char => UInt8.ofNat char.toNat

/-- The two kinds of datagrams that clients send. -/
inductive Datagram where
  | message (text : List UInt8)
  | retrievePages
  deriving DecidableEq, Repr

/-- The bytes on the wire, with no tag in front of them. -/
def Datagram.payload : Datagram → List UInt8
  | .message text => text
  | .retrievePages => requestMessage

/-- The last data message after a datagram. -/
def Datagram.last (before : Option (List UInt8)) :
    Datagram → Option (List UInt8)
  | .message text => some text
  | .retrievePages => before

def Server.receive (server : Server) (datagram : Datagram) : Server :=
  receivePass server (.datagram datagram.payload)

/-- What a pass has to do: a request leaves every page and every page state
as it is, and page 0 holds the last data message. -/
structure Server.Framed (server after : Server) (datagram : Datagram)
    (last : Option (List UInt8)) : Prop where
  frame : datagram = .retrievePages → after.memory = server.memory
  sound : after.overread = false
  holds : ∀ text, last = some text → after.string = some text

def EachFramed : Option (List UInt8) → Server → List Datagram → Prop
  | _, _, [] => True
  | last, server, datagram :: datagrams =>
      server.Framed (server.receive datagram) datagram (datagram.last last) ∧
        EachFramed (datagram.last last) (server.receive datagram) datagrams

/-- When a pass finds the buffer as it needs it.  A data message needs its
terminator behind it, and what the server does not receive of it, already in
the buffer; a request needs to have been received before. -/
def Server.Ready (server : Server) (used : Bool) : Datagram → Prop
  | .message text =>
      text.length < pageBytes ∧ server.buf text.length = 0 ∧
        ∀ i, receiveBytes ≤ i → i < text.length →
          text[i]? = some (server.buf i)
  | .retrievePages =>
      used = true ∧ ∀ i, i < requestMessage.length →
        requestMessage[i]? = some (server.buf i)

/-- Each pass finds the buffer so. -/
def EachReady : Bool → Server → List Datagram → Prop
  | _, _, [] => True
  | used, server, datagram :: datagrams =>
      server.Ready used datagram ∧
        EachReady true (server.receive datagram) datagrams

def Datagram.Clean : Datagram → Prop
  | .message text => (0 : UInt8) ∉ text
  | .retrievePages => True

theorem Datagram.Clean.payload {datagram : Datagram}
    (clean : datagram.Clean) : (0 : UInt8) ∉ datagram.payload := by
  cases datagram with
  | message text => exact clean
  | retrievePages => decide

/-- The server has processed a datagram, so page 0 holds the string that the
buffer begins with. -/
structure Server.Holding (server : Server) (text : List UInt8) : Prop where
  sound : server.overread = false
  short : text.length < pageBytes
  begins : Begins server.buf text
  page : ∀ i, i ≤ text.length →
    server.memory.contents (server.memory.pages 0).page i = server.buf i
  state : (server.memory.pages 0).state = .shared

theorem Server.Holding.string {server : Server} {text : List UInt8}
    (holding : server.Holding text) : server.string = some text :=
  read_eq_some_iff.mpr ⟨holding.short, holding.begins.congr holding.page⟩

theorem receive_holding {server : Server} {datagram : Datagram}
    {text : List UInt8} (sound : server.overread = false)
    (short : text.length < pageBytes)
    (begins : Begins (store (datagram.payload.take receiveBytes) server.buf)
      text) :
    (server.receive datagram).Holding text := by
  unfold Server.receive
  rw [receivePass_copied short begins]
  constructor
  · exact sound
  · exact short
  · exact begins
  · intro i inside
    dsimp only
    rw [Function.update_self]
    dsimp only
    rw [Function.update_self, if_pos inside]
  · dsimp only
    rw [Function.update_self]

theorem receive_sound {server : Server} {datagram : Datagram}
    (sound : server.overread = false)
    (sound' : (server.receive datagram).overread = false) :
    ∃ text, text.length < pageBytes ∧
      Begins (store (datagram.payload.take receiveBytes) server.buf) text ∧
      (server.receive datagram).Holding text := by
  by_contra none_
  have overrun : (receivePass server (.datagram datagram.payload)).overread =
      true :=
    receivePass_overread fun text short begins =>
      none_ ⟨text, short, begins, receive_holding sound short begins⟩
  unfold Server.receive at sound'
  rw [overrun] at sound'
  cases sound'

/-- What is left of a message of which the server receives a part. -/
theorem begins_store_take_iff {text : List UInt8} (clean : (0 : UInt8) ∉ text)
    (buffer : Bytes) (count : Nat) :
    Begins (store (text.take count) buffer) text ↔
      buffer text.length = 0 ∧ ∀ i, count ≤ i → i < text.length →
        text[i]? = some (buffer i) := by
  have whole : (text.take count).length = min count text.length :=
    List.length_take
  have stop : store (text.take count) buffer text.length =
      buffer text.length := store_outside (by omega)
  constructor
  · intro begins
    refine ⟨stop.symm.trans begins.stop, ?_⟩
    intro i beyond inside
    have byte := begins.bytes i inside
    rw [store_outside (by omega)] at byte
    exact byte
  · rintro ⟨zero, rest⟩
    refine ⟨?_, clean, stop.trans zero⟩
    intro i inside
    by_cases received : i < count
    · rw [← List.getElem?_take_of_lt received]
      exact store_inside (by omega)
    · rw [store_outside (by omega)]
      exact rest i (by omega) inside

theorem message_framed_iff {server : Server} {text : List UInt8}
    (sound : server.overread = false) (clean : (0 : UInt8) ∉ text)
    (last : Option (List UInt8)) (used : Bool) :
    server.Framed (server.receive (.message text)) (.message text)
        ((Datagram.message text).last last) ↔
      server.Ready used (.message text) := by
  have synced : (receivePass server (.datagram text)).Synced text ↔
      server.Ready used (.message text) :=
    (receivePass_synced_iff sound).trans (and_congr_right fun _ =>
      begins_store_take_iff clean server.buf receiveBytes)
  rw [← synced]
  constructor
  · intro framed
    exact ⟨framed.sound, framed.holds text rfl⟩
  · rintro ⟨sound', string⟩
    refine ⟨nofun, sound', ?_⟩
    intro other same
    obtain rfl := Option.some.inj same
    exact string

/-- The page that holds the string of the buffer stays as it is when a
datagram changes nothing in the buffer. -/
theorem receive_same {server : Server} {datagram : Datagram}
    {text : List UInt8} (holding : server.Holding text)
    (same : store (datagram.payload.take receiveBytes) server.buf =
      server.buf) :
    (server.receive datagram).memory = server.memory := by
  have begins : Begins (store (datagram.payload.take receiveBytes) server.buf)
      text := by
    rw [same]
    exact holding.begins
  have bytes : (fun i =>
      if i ≤ text.length then server.buf i
      else server.memory.contents (server.memory.pages 0).page i) =
      server.memory.contents (server.memory.pages 0).page := by
    funext i
    split
    · next inside => exact (holding.page i inside).symm
    · rfl
  have page : (⟨.shared, (server.memory.pages 0).page⟩ : SharedPage) =
      server.memory.pages 0 := by
    rw [← holding.state]
  unfold Server.receive
  rw [receivePass_copied holding.short begins]
  dsimp only
  rw [same, bytes, Function.update_eq_self, page, Function.update_eq_self]

/-- A pass that leaves the page as it is has changed nothing in the buffer
up to the end of the string. -/
theorem buffer_same {server : Server} {datagram : Datagram}
    {text : List UInt8} (holding : server.Holding text)
    (sound : (server.receive datagram).overread = false)
    (frame : (server.receive datagram).memory = server.memory) :
    Begins (store (datagram.payload.take receiveBytes) server.buf) text ∧
      ∀ i, i ≤ text.length →
        store (datagram.payload.take receiveBytes) server.buf i =
          server.buf i := by
  obtain ⟨other, short, begins, after⟩ := receive_sound holding.sound sound
  have string := after.string
  unfold Server.string at string
  rw [frame] at string
  have same := holding.string.symm.trans string
  obtain rfl := Option.some.inj same
  refine ⟨begins, ?_⟩
  intro i inside
  have page := after.page i inside
  rw [frame, holding.page i inside] at page
  unfold Server.receive at page
  rw [receivePass_buf] at page
  exact page.symm

theorem request_framed_iff {server : Server} {text : List UInt8}
    (holding : server.Holding text) {last : Option (List UInt8)}
    (holds : ∀ text, last = some text → server.string = some text) :
    server.Framed (server.receive .retrievePages) .retrievePages last ↔
      server.Ready true .retrievePages := by
  have whole : requestMessage.take receiveBytes = requestMessage := by decide
  have nonzero : ∀ i, i < requestMessage.length →
      store requestMessage server.buf i ≠ 0 := by
    intro i inside zero
    have byte : requestMessage[i]? =
        some (store requestMessage server.buf i) := store_inside inside
    rw [zero] at byte
    exact absurd (List.mem_of_getElem? byte) (by decide)
  constructor
  · intro framed
    obtain ⟨begins, same⟩ := buffer_same holding framed.sound
      (framed.frame rfl)
    unfold Datagram.payload at begins same
    dsimp only at begins same
    rw [whole] at begins same
    refine ⟨rfl, ?_⟩
    intro i inside
    have bound := begins.inside nonzero
    rw [← same i (by omega)]
    exact store_inside inside
  · rintro ⟨-, found⟩
    have same : store (Datagram.retrievePages.payload.take receiveBytes)
        server.buf = server.buf := by
      unfold Datagram.payload
      dsimp only
      rw [whole]
      exact store_same found
    have frame := receive_same holding same
    have begins : Begins
        (store (Datagram.retrievePages.payload.take receiveBytes) server.buf)
        text := by
      rw [same]
      exact holding.begins
    have after := receive_holding holding.sound holding.short begins
    refine ⟨fun _ => frame, after.sound, ?_⟩
    intro other some_
    unfold Server.string
    rw [frame]
    exact holds other some_

/-- A server between two passes: it has not used page 0 yet, or holds the last
data message there. -/
def Server.Between (server : Server) (last : Option (List UInt8)) :
    Bool → Prop
  | false =>
      server.overread = false ∧ (server.memory.pages 0).state ≠ .shared
  | true => (∃ text, server.Holding text) ∧
      ∀ text, last = some text → server.string = some text

theorem Server.Between.sound {server : Server} {last : Option (List UInt8)}
    {used : Bool} (between : server.Between last used) :
    server.overread = false := by
  cases used with
  | false => exact between.1
  | true =>
      obtain ⟨⟨text, holding⟩, -⟩ := between
      exact holding.sound

theorem framed_iff {server : Server} {last : Option (List UInt8)}
    {used : Bool} (between : server.Between last used) {datagram : Datagram}
    (clean : datagram.Clean) :
    server.Framed (server.receive datagram) datagram (datagram.last last) ↔
      server.Ready used datagram := by
  cases datagram with
  | message text => exact message_framed_iff between.sound clean last used
  | retrievePages =>
      cases used with
      | true =>
          obtain ⟨⟨text, holding⟩, holds⟩ := between
          exact request_framed_iff holding holds
      | false =>
          -- The first datagram turns the state of page 0.
          constructor
          · intro framed
            obtain ⟨text, -, -, after⟩ :=
              receive_sound between.sound framed.sound
            have state := after.state
            rw [framed.frame rfl] at state
            exact absurd state between.2
          · rintro ⟨never, -⟩
            cases never

theorem Server.Framed.between {server : Server} {datagram : Datagram}
    {last : Option (List UInt8)} (sound : server.overread = false)
    (framed : server.Framed (server.receive datagram) datagram last) :
    (server.receive datagram).Between last true := by
  obtain ⟨text, -, -, after⟩ := receive_sound sound framed.sound
  exact ⟨⟨text, after⟩, framed.holds⟩

theorem eachFramed_iff {server : Server} {last : Option (List UInt8)}
    {used : Bool} (between : server.Between last used)
    (datagrams : List Datagram)
    (clean : ∀ datagram ∈ datagrams, datagram.Clean) :
    EachFramed last server datagrams ↔ EachReady used server datagrams := by
  induction datagrams generalizing server last used with
  | nil => exact Iff.rfl
  | cons datagram datagrams induction =>
      have first := clean datagram List.mem_cons_self
      have later : ∀ datagram ∈ datagrams, datagram.Clean :=
        fun datagram member => clean datagram (List.mem_cons_of_mem _ member)
      have step := framed_iff between first
      unfold EachFramed EachReady
      constructor
      · rintro ⟨framed, rest⟩
        have after := framed.between between.sound
        exact ⟨step.mp framed, (induction after later).mp rest⟩
      · rintro ⟨ready, rest⟩
        have framed := step.mpr ready
        have after := framed.between between.sound
        exact ⟨framed, (induction after later).mpr rest⟩

section Runs

variable (buf : Bytes) (frames : Nat → Nat) (contents : Nat → Bytes)

/-- Requests disturb nothing and page 0 holds the last data message exactly
when each request has been received before, as the beginning of the last
string, and each data message finds its terminator in the buffer. -/
theorem requests_disturb_nothing_iff (datagrams : List Datagram)
    (clean : ∀ datagram ∈ datagrams, datagram.Clean) :
    EachFramed none (.start buf (memoryInit frames contents)) datagrams ↔
      EachReady false (.start buf (memoryInit frames contents)) datagrams := by
  have between :
      (Server.start buf (memoryInit frames contents)).Between none false :=
    ⟨rfl, nofun⟩
  exact eachFramed_iff between datagrams clean

end Runs

/-- A request after a message that begins like one. -/
theorem requests_disturb_nothing_same :
    EachFramed none (.start (fun _ => 0) (memoryInit id fun _ _ => 0))
      [.message (requestMessage ++ [33]), .retrievePages] :=
  (requests_disturb_nothing_iff _ _ _ _ (by
    intro datagram member
    rcases List.mem_cons.mp member with rfl | member
    · show (0 : UInt8) ∉ _
      decide
    · obtain rfl := List.mem_singleton.mp member
      trivial)).mpr (by
    refine ⟨⟨by decide, rfl, ?_⟩, ⟨rfl, ?_⟩, trivial⟩
    · intro i beyond inside
      have short : (requestMessage ++ [33]).length = 15 := by decide
      unfold receiveBytes at beyond
      omega
    · decide +kernel)

/-- "hello" and then a request, which takes its place in page 0. -/
theorem request_overwrites_page :
    ¬∀ (buf : Bytes) frames contents datagrams,
      (∀ datagram ∈ datagrams, datagram.Clean) →
      EachFramed none (.start buf (memoryInit frames contents)) datagrams := by
  intro always
  have framed := always (fun _ => 0) id (fun _ _ => 0)
    [.message [104, 101, 108, 108, 111], .retrievePages] (by
      intro datagram member
      rcases List.mem_cons.mp member with rfl | member
      · show (0 : UInt8) ∉ _
        decide
      · obtain rfl := List.mem_singleton.mp member
        trivial)
  have string := framed.2.1.holds [104, 101, 108, 108, 111] rfl
  exact absurd string (by decide +kernel)

end Rshm.Mm
