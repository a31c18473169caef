import Mathlib.Logic.Basic
import Mathlib.Tactic.ByContra
import Rshm.Lib.Machine

/-!
# Stopping the UDP server

`__nmsg_init_server` runs as a thread and gives back its socket and its
receive buffer when it returns.  `nmsg_stop_server` sends the thread a signal
and gives the same two globals back itself; it neither waits for the thread
nor clears them.
-/

namespace Rshm.Mm

/-- The next thing that the server thread does. -/
inductive ServerThread where
  | creating
  | binding
  | allocating
  | looping
  | receiving
  | received (len : Int)
  | processing
  | freeing
  | releasing
  | returned (ret : Int)
  deriving DecidableEq, Repr

/-- The next thing that a call of `nmsg_stop_server` does. -/
inductive StopCall where
  | absent
  | freeing
  | releasing
  deriving DecidableEq, Repr

/-- The thread, `nmsg_stop_server` and their globals.  `sock` and `buf` say
whether the pointer is set.  The counts and the last two fields are history:
calls of `sock_release` with and without a socket, calls of `kfree` with a
buffer, whether the setup has failed, and whether the thread has used what was
released. -/
structure UdpServer where
  thread : ServerThread
  stop : StopCall
  sock : Bool
  buf : Bool
  err : Int
  sockReleases : Nat
  nullReleases : Nat
  bufFrees : Nat
  setupFailed : Bool
  usedReleased : Bool
  deriving DecidableEq, Repr

/-- One step of either side, with what its call returns.  No signal is
modelled apart from what it makes `kernel_recvmsg` return. -/
inductive UdpServerInput where
  | sockCreate (err : Int)
  | bind (err : Int)
  | kmalloc (allocated : Bool)
  | shouldStop (stopping : Bool)
  | recvmsg (len : Int)
  | processMessage
  | kfree
  | sockRelease
  | stopServer
  | stopKfree
  | stopSockRelease
  deriving DecidableEq, Repr

namespace UdpServer

def goThread (server : UdpServer) (thread : ServerThread) : UdpServer :=
  { server with thread := thread }

def useSock (server : UdpServer) : UdpServer :=
  { server with
    usedReleased := server.usedReleased || decide (0 < server.sockReleases) }

def useBuf (server : UdpServer) : UdpServer :=
  { server with
    usedReleased := server.usedReleased || decide (0 < server.bufFrees) }

/-- `kfree(nmsg_server.buf)`. -/
def kfreeBuf (server : UdpServer) : UdpServer :=
  if server.buf then { server with bufFrees := server.bufFrees + 1 }
  else server

/-- `sock_release(nmsg_server.sock)`. -/
def releaseSock (server : UdpServer) : UdpServer :=
  if server.sock then { server with sockReleases := server.sockReleases + 1 }
  else { server with nullReleases := server.nullReleases + 1 }

def step (server : UdpServer) : UdpServerInput → Option UdpServer
  | .sockCreate err =>
      if server.thread = .creating then
        if err < 0 then
          some { server with thread := .returned err, setupFailed := true }
        else some { server with thread := .binding, sock := true, err := err }
      else none
  | .bind err =>
      if server.thread = .binding then
        let server := { server.useSock with err := err }
        if err < 0 then
          some { server with thread := .releasing, setupFailed := true }
        else some (server.goThread .allocating)
      else none
  | .kmalloc allocated =>
      if server.thread = .allocating then
        if allocated then some { server with thread := .looping, buf := true }
        else some { server with thread := .releasing, setupFailed := true }
      else none
  | .shouldStop stopping =>
      match server.thread with
      | .looping =>
          some (server.goThread (if stopping then .freeing else .receiving))
      | .received len =>
          some (server.goThread
            (if stopping ∨ len < 0 then .freeing else .processing))
      | _ => none
  | .recvmsg len =>
      if server.thread = .receiving then
        some (server.useSock.useBuf.goThread (.received len))
      else none
  | .processMessage =>
      if server.thread = .processing then
        some (server.useBuf.goThread .looping)
      else none
  | .kfree =>
      if server.thread = .freeing then
        some (server.kfreeBuf.goThread .releasing)
      else none
  | .sockRelease =>
      if server.thread = .releasing then
        some (server.releaseSock.goThread (.returned server.err))
      else none
  | .stopServer =>
      if server.stop = .absent then some { server with stop := .freeing }
      else none
  | .stopKfree =>
      if server.stop = .freeing then
        some { server.kfreeBuf with stop := .releasing }
      else none
  | .stopSockRelease =>
      if server.stop = .releasing then
        some { server.releaseSock with stop := .absent }
      else none

/-- The thread has returned, and no call of `nmsg_stop_server` is going on. -/
def Ended (server : UdpServer) : Prop :=
  (∃ ret, server.thread = .returned ret) ∧ server.stop = .absent

/-- What has been created is released at most once, and exactly once in the
end; what has not been created is not released; the thread uses nothing that
has been released, and returns an error if its setup failed. -/
structure Clean (server : UdpServer) : Prop where
  sockAtMostOnce : server.sockReleases ≤ server.sock.toNat
  bufAtMostOnce : server.bufFrees ≤ server.buf.toNat
  noNull : server.nullReleases = 0
  unused : server.usedReleased = false
  once : server.Ended → server.sockReleases = server.sock.toNat ∧
    server.bufFrees = server.buf.toNat
  error : ∀ ret, server.thread = .returned ret →
    server.setupFailed = true → ret ≠ 0

end UdpServer

def udpServerMachine : Machine UdpServer UdpServerInput where
  Initial := fun server =>
    server = ⟨.creating, .absent, false, false, 0, 0, 0, 0, false, false⟩
  step := UdpServer.step

/-- The server is not stopped, and the buffer is allocated once `bind` has
returned 0. -/
def Undisturbed (server : UdpServer) (input : UdpServerInput) : Prop :=
  input ≠ .stopServer ∧ (input = .kmalloc false → server.err ≠ 0)

instance (server : UdpServer) (input : UdpServerInput) :
    Decidable (Undisturbed server input) :=
  inferInstanceAs (Decidable (_ ∧ _))

namespace UdpServer

variable {server next : UdpServer} {input : UdpServerInput}

/-- The thread is between the allocation and the release of the buffer. -/
inductive Serving : ServerThread → Prop where
  | looping : Serving .looping
  | receiving : Serving .receiving
  | received (len : Int) : Serving (.received len)
  | processing : Serving .processing
  | freeing : Serving .freeing

/-- The states of a server that nobody stops. -/
inductive Undamaged : UdpServer → Prop where
  | creating :
      Undamaged ⟨.creating, .absent, false, false, 0, 0, 0, 0, false, false⟩
  | binding (err : Int) :
      Undamaged ⟨.binding, .absent, true, false, err, 0, 0, 0, false, false⟩
  | allocating (err : Int) :
      Undamaged ⟨.allocating, .absent, true, false, err, 0, 0, 0, false,
        false⟩
  | serving {thread : ServerThread} (serving : Serving thread) (err : Int) :
      Undamaged ⟨thread, .absent, true, true, err, 0, 0, 0, false, false⟩
  | releasing (buf : Bool) (err : Int) (failed : Bool)
      (error : failed = true → err ≠ 0) :
      Undamaged ⟨.releasing, .absent, true, buf, err, 0, 0, buf.toNat, failed,
        false⟩
  | returned (sock buf : Bool) (err ret : Int) (failed : Bool)
      (error : failed = true → ret ≠ 0) :
      Undamaged ⟨.returned ret, .absent, sock, buf, err, sock.toNat, 0,
        buf.toNat, failed, false⟩

theorem Undamaged.step (undamaged : Undamaged server)
    (undisturbed : Undisturbed server input)
    (moved : server.step input = some next) : Undamaged next := by
  obtain ⟨unstopped, allocates⟩ := undisturbed
  cases undamaged with
  | creating =>
      cases input with
      | sockCreate err =>
          simp only [UdpServer.step, if_true] at moved
          split at moved
          · next negative =>
            cases moved
            exact .returned false false 0 err true (fun _ => by omega)
          · cases moved
            exact .binding err
      | stopServer => exact absurd rfl unstopped
      | _ => cases moved
  | binding err =>
      cases input with
      | bind err =>
          simp only [UdpServer.step, if_true] at moved
          split at moved
          · next negative =>
            cases moved
            exact .releasing false err true (fun _ => by omega)
          · cases moved
            exact .allocating err
      | stopServer => exact absurd rfl unstopped
      | _ => cases moved
  | allocating err =>
      cases input with
      | kmalloc allocated =>
          cases allocated with
          | true =>
              cases moved
              exact .serving .looping err
          | false =>
              cases moved
              exact .releasing false err true (fun _ => allocates rfl)
      | stopServer => exact absurd rfl unstopped
      | _ => cases moved
  | serving serving err =>
      cases input with
      | shouldStop stopping =>
          cases serving with
          | looping =>
              cases stopping with
              | true =>
                  cases moved
                  exact .serving .freeing err
              | false =>
                  cases moved
                  exact .serving .receiving err
          | received len =>
              simp only [UdpServer.step] at moved
              split at moved
              · cases moved
                exact .serving .freeing err
              · cases moved
                exact .serving .processing err
          | _ => cases moved
      | recvmsg len =>
          cases serving with
          | receiving =>
              cases moved
              exact .serving (.received len) err
          | _ => cases moved
      | processMessage =>
          cases serving with
          | processing =>
              cases moved
              exact .serving .looping err
          | _ => cases moved
      | kfree =>
          cases serving with
          | freeing =>
              cases moved
              exact .releasing true err false (fun failed => by cases failed)
          | _ => cases moved
      | stopServer => exact absurd rfl unstopped
      | _ => cases serving <;> cases moved
  | releasing buf err failed error =>
      cases input with
      | sockRelease =>
          cases moved
          exact .returned true buf err err failed error
      | stopServer => exact absurd rfl unstopped
      | _ => cases moved
  | returned sock buf err ret failed error =>
      cases input with
      | stopServer => exact absurd rfl unstopped
      | _ => cases moved

theorem Undamaged.clean (undamaged : Undamaged server) : server.Clean := by
  cases undamaged with
  | creating =>
      refine ⟨Nat.le_refl _, Nat.le_refl _, rfl, rfl, ?_, ?_⟩
      · intro ended
        exact ⟨rfl, rfl⟩
      · intro ret returned
        cases returned
  | binding err =>
      refine ⟨Nat.zero_le _, Nat.le_refl _, rfl, rfl, ?_, ?_⟩
      · rintro ⟨⟨ret, returned⟩, -⟩
        cases returned
      · intro ret returned
        cases returned
  | allocating err =>
      refine ⟨Nat.zero_le _, Nat.le_refl _, rfl, rfl, ?_, ?_⟩
      · rintro ⟨⟨ret, returned⟩, -⟩
        cases returned
      · intro ret returned
        cases returned
  | serving serving err =>
      refine ⟨Nat.zero_le _, Nat.zero_le _, rfl, rfl, ?_, ?_⟩
      · rintro ⟨⟨ret, returned⟩, -⟩
        cases serving <;> cases returned
      · intro ret returned failed
        cases failed
  | releasing buf err failed error =>
      refine ⟨Nat.zero_le _, Nat.le_refl _, rfl, rfl, ?_, ?_⟩
      · rintro ⟨⟨ret, returned⟩, -⟩
        cases returned
      · intro ret returned
        cases returned
  | returned sock buf err ret failed error =>
      refine ⟨Nat.le_refl _, Nat.le_refl _, rfl, rfl, ?_, ?_⟩
      · intro ended
        exact ⟨rfl, rfl⟩
      · intro other returned
        cases returned
        exact error

/-- The releases of the socket that the thread has made. -/
def threadReleases (server : UdpServer) : Nat :=
  match server.thread with
  | .returned _ => server.sock.toNat
  | _ => 0

/-- The calls of `sock_release`, with that of a call of `nmsg_stop_server`
that is going on. -/
def releases (server : UdpServer) : Nat :=
  server.sockReleases + server.nullReleases +
    if server.stop = .absent then 0 else 1

/-- No release of the thread has been forgotten. -/
structure Backed (server : UdpServer) : Prop where
  releases : server.threadReleases ≤ server.releases
  unset : server.thread = .creating → server.sock = false

/-- The socket has been released by another than the thread, or is being, or
the thread returns 0 though it has no buffer. -/
structure Marred (server : UdpServer) : Prop where
  backed : server.Backed
  marred : server.threadReleases < server.releases ∨
    server.setupFailed = true ∧ server.err = 0 ∧
      (server.thread = .releasing ∨ server.thread = .returned 0)

theorem Marred.not_clean (marred : Marred server) (ended : server.Ended) :
    ¬server.Clean := by
  intro clean
  obtain ⟨⟨ret, returned⟩, absent⟩ := ended
  have last : server.threadReleases = server.sock.toNat := by
    unfold threadReleases
    rw [returned]
  rcases marred.marred with more | ⟨failed, -, releasing | zero⟩
  · unfold releases at more
    rw [if_pos absent] at more
    have once := clean.sockAtMostOnce
    have noNull := clean.noNull
    omega
  · rw [returned] at releasing
    cases releasing
  · exact clean.error 0 zero failed rfl

theorem releaseSock_counts (server : UdpServer) :
    server.releaseSock.sockReleases + server.releaseSock.nullReleases =
      server.sockReleases + server.nullReleases + 1 := by
  unfold releaseSock
  cases server.sock with
  | true => exact Nat.add_right_comm ..
  | false => rfl

theorem kfreeBuf_counts (server : UdpServer) :
    server.kfreeBuf.sockReleases + server.kfreeBuf.nullReleases =
      server.sockReleases + server.nullReleases := by
  unfold kfreeBuf
  split
  · rfl
  · rfl

theorem kfreeBuf_releases (server : UdpServer) :
    server.kfreeBuf.releases = server.releases := by
  unfold kfreeBuf
  split
  · rfl
  · rfl

@[simp] theorem kfreeBuf_threadReleases (server : UdpServer) :
    server.kfreeBuf.threadReleases = server.threadReleases := by
  unfold kfreeBuf
  split
  · rfl
  · rfl

@[simp] theorem releaseSock_threadReleases (server : UdpServer) :
    server.releaseSock.threadReleases = server.threadReleases := by
  unfold releaseSock
  split
  · rfl
  · rfl

theorem step_releases (unset : server.thread = .creating → server.sock = false)
    (moved : server.step input = some next) :
    next.threadReleases + server.releases ≤
      server.threadReleases + next.releases := by
  cases input with
  | sockCreate err =>
      simp only [step] at moved
      split at moved
      · next stage =>
        split at moved
        · cases moved
          simp [threadReleases, releases, stage, unset stage]
        · cases moved
          simp [threadReleases, releases, stage]
      · cases moved
  | bind err =>
      simp only [step] at moved
      split at moved
      · next stage =>
        split at moved
        · cases moved
          simp [threadReleases, releases, stage, useSock]
        · cases moved
          simp [threadReleases, releases, stage, useSock, goThread]
      · cases moved
  | kmalloc allocated =>
      simp only [step] at moved
      split at moved
      · next stage =>
        split at moved
        · cases moved
          simp [threadReleases, releases, stage]
        · cases moved
          simp [threadReleases, releases, stage]
      · cases moved
  | shouldStop stopping =>
      simp only [step] at moved
      split at moved
      · next stage =>
        cases moved
        cases stopping with
        | true => simp [threadReleases, releases, stage, goThread]
        | false => simp [threadReleases, releases, stage, goThread]
      · next len stage =>
        cases moved
        have later : (server.goThread (if stopping = true ∨ len < 0 then
            .freeing else .processing)).threadReleases = 0 := by
          split
          · rfl
          · rfl
        rw [later]
        exact Nat.add_le_add_right (Nat.zero_le _) _
      · cases moved
  | recvmsg len =>
      simp only [step] at moved
      split at moved
      · next stage =>
        cases moved
        simp [threadReleases, releases, stage, goThread, useSock, useBuf]
      · cases moved
  | processMessage =>
      simp only [step] at moved
      split at moved
      · next stage =>
        cases moved
        simp [threadReleases, releases, stage, goThread, useBuf]
      · cases moved
  | kfree =>
      simp only [step] at moved
      split at moved
      · next stage =>
        cases moved
        have same := kfreeBuf_releases server
        show 0 + server.releases ≤
          server.threadReleases + server.kfreeBuf.releases
        rw [same]
        omega
      · cases moved
  | sockRelease =>
      simp only [step] at moved
      split at moved
      · next stage =>
        cases moved
        cases sock : server.sock with
        | true =>
            simp [threadReleases, releases, stage, goThread, releaseSock, sock]
            omega
        | false =>
            simp [threadReleases, releases, stage, goThread, releaseSock, sock]
      · cases moved
  | stopServer =>
      simp only [step] at moved
      split at moved
      · next stop =>
        cases moved
        simp [threadReleases, releases, stop]
      · cases moved
  | stopKfree =>
      simp only [step] at moved
      split at moved
      · next stop =>
        cases moved
        show server.kfreeBuf.threadReleases + server.releases ≤
          server.threadReleases + (server.kfreeBuf.sockReleases +
            server.kfreeBuf.nullReleases + 1)
        unfold releases
        rw [kfreeBuf_threadReleases, kfreeBuf_counts, stop]
        exact Nat.le_refl _
      · cases moved
  | stopSockRelease =>
      simp only [step] at moved
      split at moved
      · next stop =>
        cases moved
        show server.releaseSock.threadReleases + server.releases ≤
          server.threadReleases + (server.releaseSock.sockReleases +
            server.releaseSock.nullReleases + 0)
        unfold releases
        rw [releaseSock_threadReleases, releaseSock_counts, stop]
        exact Nat.le_refl _
      · cases moved

/-- The fields that the calls of `nmsg_stop_server` leave alone. -/
structure SameSetup (server next : UdpServer) : Prop where
  thread : next.thread = server.thread
  sock : next.sock = server.sock
  err : next.err = server.err
  setupFailed : next.setupFailed = server.setupFailed

theorem kfreeBuf_sameSetup (server : UdpServer) :
    SameSetup server server.kfreeBuf := by
  unfold kfreeBuf
  split
  · exact ⟨rfl, rfl, rfl, rfl⟩
  · exact ⟨rfl, rfl, rfl, rfl⟩

theorem releaseSock_sameSetup (server : UdpServer) :
    SameSetup server server.releaseSock := by
  unfold releaseSock
  split
  · exact ⟨rfl, rfl, rfl, rfl⟩
  · exact ⟨rfl, rfl, rfl, rfl⟩

/-- A step of the thread leaves the stage in which it was for a later one, and
a thread without a buffer returns what `bind` has returned. -/
theorem step_setup (moved : server.step input = some next) :
    SameSetup server next ∨
      next.thread ≠ .creating ∧
        (∀ ret, server.thread ≠ .returned ret) ∧
        (server.thread = .releasing → next.thread = .returned server.err ∧
          next.err = server.err ∧ next.setupFailed = server.setupFailed) := by
  cases input with
  | stopServer =>
      simp only [step] at moved
      split at moved
      · cases moved
        exact .inl ⟨rfl, rfl, rfl, rfl⟩
      · cases moved
  | stopKfree =>
      simp only [step] at moved
      split at moved
      · cases moved
        have same := kfreeBuf_sameSetup server
        exact .inl ⟨same.thread, same.sock, same.err, same.setupFailed⟩
      · cases moved
  | stopSockRelease =>
      simp only [step] at moved
      split at moved
      · cases moved
        have same := releaseSock_sameSetup server
        exact .inl ⟨same.thread, same.sock, same.err, same.setupFailed⟩
      · cases moved
  | sockRelease =>
      simp only [step] at moved
      split at moved
      · next stage =>
        cases moved
        have same := releaseSock_sameSetup server
        refine .inr ⟨by simp [goThread], by simp [stage], ?_⟩
        intro _
        exact ⟨rfl, same.err, same.setupFailed⟩
      · cases moved
  | sockCreate err =>
      simp only [step] at moved
      split at moved
      · next stage =>
        split at moved
        · cases moved
          simp [stage]
        · cases moved
          simp [stage]
      · cases moved
  | bind err =>
      simp only [step] at moved
      split at moved
      · next stage =>
        split at moved
        · cases moved
          simp [stage]
        · cases moved
          simp [stage, goThread]
      · cases moved
  | kmalloc allocated =>
      simp only [step] at moved
      split at moved
      · next stage =>
        split at moved
        · cases moved
          simp [stage]
        · cases moved
          simp [stage]
      · cases moved
  | shouldStop stopping =>
      simp only [step] at moved
      split at moved
      · next stage =>
        cases moved
        cases stopping with
        | true => simp [stage, goThread]
        | false => simp [stage, goThread]
      · next len stage =>
        cases moved
        split
        · simp [stage, goThread]
        · simp [stage, goThread]
      · cases moved
  | recvmsg len =>
      simp only [step] at moved
      split at moved
      · next stage =>
        cases moved
        simp [stage, goThread]
      · cases moved
  | processMessage =>
      simp only [step] at moved
      split at moved
      · next stage =>
        cases moved
        simp [stage, goThread]
      · cases moved
  | kfree =>
      simp only [step] at moved
      split at moved
      · next stage =>
        cases moved
        simp [stage, goThread]
      · cases moved

theorem Backed.step (backed : server.Backed)
    (moved : server.step input = some next) : next.Backed := by
  have counted := step_releases backed.unset moved
  have releases := backed.releases
  constructor
  · omega
  · intro creating
    rcases step_setup moved with same | ⟨later, -, -⟩
    · rw [same.sock]
      exact backed.unset (same.thread.symm.trans creating)
    · exact absurd creating later

theorem Marred.step (marred : Marred server)
    (moved : server.step input = some next) : Marred next := by
  have counted := step_releases marred.backed.unset moved
  refine ⟨marred.backed.step moved, ?_⟩
  rcases marred.marred with more | ⟨failed, zero, stage⟩
  · exact .inl (by omega)
  · rcases step_setup moved with same | ⟨-, running, last⟩
    · rw [same.setupFailed, same.err, same.thread]
      exact .inr ⟨failed, zero, stage⟩
    · rcases stage with releasing | returned
      · obtain ⟨returned, err, setupFailed⟩ := last releasing
        rw [setupFailed, err, returned, zero]
        exact .inr ⟨failed, rfl, .inr rfl⟩
      · exact absurd returned (running 0)

theorem Backed.marred (backed : server.Backed)
    (disturbed : ¬Undisturbed server input)
    (moved : server.step input = some next) : Marred next := by
  refine ⟨backed.step moved, ?_⟩
  unfold Undisturbed at disturbed
  by_cases stopped : input = .stopServer
  · subst stopped
    simp only [UdpServer.step] at moved
    split at moved
    · next stop =>
      cases moved
      have releases := backed.releases
      unfold UdpServer.releases at releases
      rw [stop] at releases
      exact .inl (Nat.lt_succ_of_le releases)
    · cases moved
  · rw [not_and, Classical.not_imp, not_not] at disturbed
    obtain ⟨rfl, zero⟩ := disturbed stopped
    simp only [UdpServer.step] at moved
    split at moved
    · cases moved
      exact .inr ⟨rfl, zero, .inl rfl⟩
    · cases moved

theorem undisturbed_of_clean {start last : UdpServer}
    {inputs : List UdpServerInput}
    (run : udpServerMachine.Run Machine.anyInput start inputs last)
    (backed : start.Backed) (ended : last.Ended) (clean : last.Clean) :
    udpServerMachine.Run Undisturbed start inputs last := by
  induction run with
  | nil => exact .nil _
  | @cons state next last input inputs _ moved rest induction =>
      have undisturbed : Undisturbed state input := by
        by_contra disturbed
        have marred := rest.preserves Marred
          (fun _ _ _ marred _ moved => marred.step moved)
          (backed.marred disturbed moved)
        exact marred.not_clean ended clean
      exact .cons undisturbed moved
        (induction (backed.step moved) ended clean)

end UdpServer

open UdpServer

/-- The server releases what it has created exactly once if nobody stops it
and its buffer is allocated, and in no other run that ends. -/
theorem server_releases_iff {start last : UdpServer}
    {inputs : List UdpServerInput}
    (initial : udpServerMachine.Initial start)
    (run : udpServerMachine.Run Machine.anyInput start inputs last) :
    (udpServerMachine.Run Undisturbed start inputs last → last.Clean) ∧
      (last.Ended → (last.Clean ↔
        udpServerMachine.Run Undisturbed start inputs last)) := by
  have safe (undisturbed : udpServerMachine.Run Undisturbed start inputs
      last) : last.Clean := by
    have undamaged : Undamaged start := by
      rw [initial]
      exact .creating
    exact (undisturbed.preserves Undamaged
      (fun _ _ _ undamaged undisturbed moved =>
        undamaged.step undisturbed moved) undamaged).clean
  refine ⟨safe, ?_⟩
  intro ended
  have backed : start.Backed := by
    rw [initial]
    exact ⟨Nat.le_refl _, fun _ => rfl⟩
  exact ⟨undisturbed_of_clean run backed ended, safe⟩

/-- A server that receives one message and then an error. -/
private def oneMessage : List UdpServerInput :=
  [.sockCreate 0, .bind 0, .kmalloc true, .shouldStop false, .recvmsg 5,
    .shouldStop false, .processMessage, .shouldStop false, .recvmsg (-4),
    .shouldStop false, .kfree, .sockRelease]

private def beforeSocket : UdpServer :=
  ⟨.creating, .absent, false, false, 0, 0, 0, 0, false, false⟩

private def afterOneMessage : UdpServer :=
  ⟨.returned 0, .absent, true, true, 0, 1, 0, 1, false, false⟩

theorem server_releases_one_message :
    afterOneMessage.Clean ∧
      udpServerMachine.Run Undisturbed beforeSocket oneMessage
        afterOneMessage := by
  have run : udpServerMachine.Run Machine.anyInput beforeSocket oneMessage
      afterOneMessage := Machine.run_of_exec rfl
  have undisturbed : udpServerMachine.Run Undisturbed beforeSocket oneMessage
      afterOneMessage := by
    have sound : ∀ server input,
        (fun server input => decide (Undisturbed server input)) server
          input = true → Undisturbed server input :=
      fun _ _ admitted => of_decide_eq_true admitted
    exact Machine.run_of_execIf sound rfl
  exact ⟨(server_releases_iff rfl run).1 undisturbed, undisturbed⟩

/-- The server is stopped while it waits for a message. -/
theorem server_released_twice :
    ¬∀ start inputs last, udpServerMachine.Initial start →
      udpServerMachine.Run Machine.anyInput start inputs last →
        last.Clean := by
  intro claim
  have clean := claim beforeSocket
    [.sockCreate 0, .bind 0, .kmalloc true, .shouldStop false, .stopServer,
      .stopKfree, .stopSockRelease, .recvmsg (-4), .shouldStop false, .kfree,
      .sockRelease] _ rfl (Machine.run_of_exec rfl)
  exact absurd clean.sockAtMostOnce (by decide)

end Rshm.Mm
