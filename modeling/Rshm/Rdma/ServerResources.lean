import Rshm.Lib.Ledger
import Rshm.Lib.Machine

/-!
# What the server acquires and releases

`nmsg_start_server` and `nmsg_stop_server` run in one thread, `nmsg_start` in
the kernel thread that the first of them creates, and both clean up through
one global handler.  Every verb that can fail and every call of a cleanup path
is a step of its own; the messages of a round use no resource of their own.
A thread that outlives `kfree(cb)` is taken to find the handler as it was.
-/

namespace Rshm.Rdma

/-- What a cleanup path can tell about a pointer field.  A handler that comes
from `kmalloc` holds any of them. -/
inductive Pointer where
  | null
  | error
  | address
  deriving DecidableEq, Repr

inductive ServerResource where
  | cb
  | cmId
  | childCmId
  | pd
  | cq
  | qp
  | regMr
  | recvDma
  | sendDma
  | rdmaBuf
  deriving DecidableEq, Repr

/-- The calls of the cleanup paths.  `ib_dereg_mr` always stands under
`if (cb->reg_mr)`; `checked` adds the test that only `nmsg_setup_buffers`
makes. -/
inductive ReleaseCall where
  | deregMr (checked : Bool)
  | unmapRecv
  | unmapSend
  | freeCoherent (checked : Bool)
  | destroyQp
  | destroyCq
  | deallocPd
  | destroyChild
  | destroyId
  | kfree
  deriving DecidableEq, Repr

/-- The `bail` label of `nmsg_setup_buffers`. -/
def nmsgSetupBuffersBail : List ReleaseCall :=
  [.deregMr true, .freeCoherent true]

def nmsgFreeBuffers : List ReleaseCall :=
  [.deregMr false, .unmapRecv, .unmapSend, .freeCoherent false]

def nmsgFreeQp : List ReleaseCall :=
  [.destroyQp, .destroyCq, .deallocPd]

/-- The labels of `nmsg_setup_qp`. -/
def nmsgSetupQpErr1 : List ReleaseCall := [.deallocPd]

def nmsgSetupQpErr2 : List ReleaseCall := .destroyCq :: nmsgSetupQpErr1

/-- The labels of `nmsg_server_setup`. -/
def nmsgServerSetupErr0 : List ReleaseCall := [.destroyChild]

def nmsgServerSetupErr1 : List ReleaseCall :=
  nmsgFreeQp ++ nmsgServerSetupErr0

def nmsgServerSetupErr2 : List ReleaseCall :=
  nmsgFreeBuffers ++ nmsgServerSetupErr1

/-- The exit path of `nmsg_start`. -/
def nmsgStartErr : List ReleaseCall :=
  nmsgFreeBuffers ++ nmsgFreeQp ++ [.destroyChild]

def nmsgFree : List ReleaseCall :=
  .destroyId :: nmsgFreeBuffers ++ nmsgFreeQp ++ [.kfree]

/-- Where `nmsg_start_server` and then `nmsg_stop_server` stand.  `oops` is
the access through a null pointer after a failed `kmalloc`. -/
inductive MainStage where
  | preSetup
  | creatingId
  | binding
  | listening
  | creatingThread
  | started (ret : Int)
  | freeing (calls : List ReleaseCall)
  | oops
  deriving DecidableEq, Repr

/-- Where `nmsg_start` stands. -/
inductive ThreadStage where
  | absent
  | connecting
  | allocPd
  | createCq
  | notifyCq
  | createQp
  | mapping
  | allocBuf
  | allocMr
  | postRecv
  | accepting
  | rounds
  | cleaning (calls : List ReleaseCall)
  deriving DecidableEq, Repr

structure ServerRun where
  ledger : Ledger ServerResource
  regMr : Pointer
  rdmaBuf : Pointer
  listening : Bool
  main : MainStage
  thread : ThreadStage
  deriving DecidableEq, Repr

/-- What the verbs return, and who moves next.  A pointer that a verb returns
is an error when `ret` is not 0. -/
inductive ServerRunInput where
  | kmalloc (cb : Option (Pointer × Pointer)) (addrStr : Bool)
  | createId (ret : Int)
  | bindAddr (ret : Int)
  | listen (ret : Int)
  | kthreadCreate (ret : Int)
  | connectRequest
  | connectClient (ret : Int)
  | allocPd (ret : Int)
  | createCq (ret : Int)
  | reqNotifyCq (ret : Int)
  | createQp (ret : Int)
  | mapSingle (recv send : Bool)
  | allocCoherent (allocated : Bool)
  | allocMr (ret : Int)
  | postRecv (ret : Int)
  | accept (ret : Int)
  | runServer (ret : Int)
  | threadRelease
  | stopServer
  | stopRelease

namespace ServerRun

def acquire (run : ServerRun) (resource : ServerResource) : ServerRun :=
  { run with ledger := run.ledger.acquire resource }

def acquireIf (run : ServerRun) (acquired : Bool)
    (resource : ServerResource) : ServerRun :=
  if acquired then run.acquire resource else run

def goMain (run : ServerRun) (main : MainStage) : ServerRun :=
  { run with main := main }

def goThread (run : ServerRun) (thread : ThreadStage) : ServerRun :=
  { run with thread := thread }

/-- The resource that a call of a cleanup path releases. -/
def released (run : ServerRun) : ReleaseCall → Option ServerResource
  | .deregMr checked =>
      if run.regMr = .null ∨ checked ∧ run.regMr = .error then none
      else some .regMr
  | .unmapRecv => some .recvDma
  | .unmapSend => some .sendDma
  | .freeCoherent checked =>
      if checked ∧ run.rdmaBuf = .null then none else some .rdmaBuf
  | .destroyQp => some .qp
  | .destroyCq => some .cq
  | .deallocPd => some .pd
  | .destroyChild => some .childCmId
  | .destroyId => some .cmId
  | .kfree => some .cb

def release (run : ServerRun) (call : ReleaseCall) : ServerRun :=
  { run with
    ledger := run.ledger.releaseAll (run.released call).toList
    listening := run.listening && call ≠ .destroyId }

/-- A setup call in the server thread: the stage after it, or the cleanup when
it fails. -/
def setup (run : ServerRun) (ret : Int) (resource : Option ServerResource)
    (next : ThreadStage) (cleanup : List ReleaseCall) : ServerRun :=
  if ret ≠ 0 then run.goThread (.cleaning cleanup)
  else
    match resource with
    | none => run.goThread next
    | some resource => (run.acquire resource).goThread next

def step (run : ServerRun) : ServerRunInput → Option ServerRun
  | .kmalloc cb addrStr =>
      if run.main = .preSetup then
        match cb with
        | none => some (run.goMain .oops)
        | some (regMr, rdmaBuf) =>
            let run := run.acquire .cb
            some
              { run with
                regMr := regMr
                rdmaBuf := rdmaBuf
                main := if addrStr then .creatingId else .oops }
      else none
  | .createId ret =>
      if run.main = .creatingId then
        if ret ≠ 0 then some (run.goMain (.started ret))
        else some ((run.acquire .cmId).goMain .binding)
      else none
  | .bindAddr ret =>
      if run.main = .binding then
        if ret ≠ 0 then some (run.goMain (.started ret))
        else some (run.goMain .listening)
      else none
  | .listen ret =>
      if run.main = .listening then
        if ret ≠ 0 then some (run.goMain (.started ret))
        else some { run with listening := true, main := .creatingThread }
      else none
  | .kthreadCreate ret =>
      if run.main = .creatingThread then
        if ret ≠ 0 then some (run.goMain (.started ret))
        else some ((run.goMain (.started 0)).goThread .connecting)
      else none
  | .connectRequest =>
      if run.listening then some (run.acquire .childCmId) else none
  | .connectClient ret =>
      if run.thread = .connecting ∧
          (ret = 0 → .childCmId ∈ run.ledger.acquired) then
        -- a failure makes `nmsg_server_setup` return 0
        if ret ≠ 0 then some (run.goThread .accepting)
        else some (run.goThread .allocPd)
      else none
  | .allocPd ret =>
      if run.thread = .allocPd then
        some (run.setup ret (some .pd) .createCq nmsgServerSetupErr0)
      else none
  | .createCq ret =>
      if run.thread = .createCq then
        some (run.setup ret (some .cq) .notifyCq
          (nmsgSetupQpErr1 ++ nmsgServerSetupErr0))
      else none
  | .reqNotifyCq ret =>
      if run.thread = .notifyCq then
        some (run.setup ret none .createQp
          (nmsgSetupQpErr2 ++ nmsgServerSetupErr0))
      else none
  | .createQp ret =>
      if run.thread = .createQp then
        some (run.setup ret (some .qp) .mapping
          (nmsgSetupQpErr2 ++ nmsgServerSetupErr0))
      else none
  | .mapSingle recv send =>
      if run.thread = .mapping then
        -- neither address is checked
        some (((run.acquireIf recv .recvDma).acquireIf send .sendDma).goThread
          .allocBuf)
      else none
  | .allocCoherent allocated =>
      if run.thread = .allocBuf then
        let run :=
          { run with rdmaBuf := if allocated then .address else .null }
        some (run.setup (if allocated then 0 else -12) (some .rdmaBuf)
          .allocMr (nmsgSetupBuffersBail ++ nmsgServerSetupErr1))
      else none
  | .allocMr ret =>
      if run.thread = .allocMr then
        let run :=
          { run with regMr := if ret ≠ 0 then .error else .address }
        some (run.setup ret (some .regMr) .postRecv
          (nmsgSetupBuffersBail ++ nmsgServerSetupErr1))
      else none
  | .postRecv ret =>
      if run.thread = .postRecv then
        some (run.setup ret none .accepting nmsgServerSetupErr2)
      else none
  | .accept ret =>
      if run.thread = .accepting then
        some (run.setup ret none .rounds nmsgStartErr)
      else none
  | .runServer ret =>
      if run.thread = .rounds then
        some (run.setup ret none .rounds nmsgStartErr)
      else none
  | .threadRelease =>
      match run.thread with
      | .cleaning (call :: calls) =>
          some ((run.release call).goThread (.cleaning calls))
      | _ => none
  | .stopServer =>
      match run.main with
      | .started _ => some (run.goMain (.freeing nmsgFree))
      | _ => none
  | .stopRelease =>
      match run.main with
      | .freeing (call :: calls) =>
          some ((run.release call).goMain (.freeing calls))
      | _ => none

/-- The run has ended: the server has been stopped, or its start has failed
and it is not stopped, and no thread is left. -/
def Ended (run : ServerRun) : Prop :=
  (run.thread = .absent ∨ run.thread = .cleaning []) ∧
    (run.main = .freeing [] ∨ ∃ ret, ret ≠ 0 ∧ run.main = .started ret)

end ServerRun

def serverRunMachine : Machine ServerRun ServerRunInput where
  Initial := fun run =>
    run = ⟨.empty, .null, .null, false, .preSetup, .absent⟩
  step := ServerRun.step

/-- The queue pairs that the server thread is still to destroy. -/
def ThreadStage.owing : ThreadStage → Nat
  | .mapping => 1
  | .allocBuf => 1
  | .allocMr => 1
  | .postRecv => 1
  | .accepting => 1
  | .rounds => 1
  | .cleaning calls => calls.count .destroyQp
  | _ => 0

def ThreadStage.calls : ThreadStage → List ReleaseCall
  | .cleaning calls => calls
  | _ => []

/-- The queue pairs that `nmsg_free` is still to destroy. -/
def MainStage.owing : MainStage → Nat
  | .freeing calls => calls.count .destroyQp
  | _ => 0

/-- The queue pair that is destroyed because the server has been stopped. -/
def MainStage.stopping : MainStage → Nat
  | .freeing _ => 1
  | _ => 0

/-- No thread has been created yet. -/
def MainStage.starting : MainStage → Bool
  | .started _ => false
  | .freeing _ => false
  | _ => true

namespace ServerRun

/-- Every queue pair is destroyed once, and one more time when the server is
stopped; the handler is freed by `nmsg_free` alone. -/
structure Standing (run : ServerRun) : Prop where
  qp : run.ledger.acquired.count .qp + run.main.stopping ≤
    run.ledger.released.count .qp + run.thread.owing + run.main.owing
  allocated : run.main = .preSetup ∨ run.main = .oops ∨
    .cb ∈ run.ledger.acquired
  kept : run.main.stopping = 0 → .cb ∉ run.ledger.released
  thread : .kfree ∉ run.thread.calls
  unborn : run.main.starting = true → run.thread = .absent

@[simp] theorem release_acquired (run : ServerRun) (call : ReleaseCall) :
    (run.release call).ledger.acquired = run.ledger.acquired := by
  simp [release]

@[simp] theorem release_main (run : ServerRun) (call : ReleaseCall) :
    (run.release call).main = run.main := rfl

@[simp] theorem release_thread (run : ServerRun) (call : ReleaseCall) :
    (run.release call).thread = run.thread := rfl

/-- Only `ib_destroy_qp` releases the queue pair. -/
theorem count_released_qp (run : ServerRun) (call : ReleaseCall) :
    (run.released call).toList.count .qp = [call].count .destroyQp := by
  cases call with
  | deregMr checked =>
      unfold released
      dsimp only
      split <;> rfl
  | freeCoherent checked =>
      unfold released
      dsimp only
      split <;> rfl
  | _ => rfl

/-- Only `kfree` releases the handler. -/
theorem cb_mem_released {run : ServerRun} {call : ReleaseCall}
    (freed : .cb ∈ (run.released call).toList) : call = .kfree := by
  cases call with
  | kfree => rfl
  | deregMr checked =>
      unfold released at freed
      dsimp only at freed
      split at freed <;> simp at freed
  | freeCoherent checked =>
      unfold released at freed
      dsimp only at freed
      split at freed <;> simp at freed
  | _ => simp [released] at freed

theorem count_release_qp (run : ServerRun) (call : ReleaseCall) :
    (run.release call).ledger.released.count .qp =
      [call].count .destroyQp + run.ledger.released.count .qp := by
  rw [← count_released_qp run call]
  exact Ledger.count_releaseAll_released _ _ _

theorem cb_release {run : ServerRun} {call : ReleaseCall}
    (other : call ≠ .kfree) (kept : .cb ∉ run.ledger.released) :
    .cb ∉ (run.release call).ledger.released := by
  intro freed
  rcases Ledger.mem_releaseAll_released.mp freed with now | before
  · exact other (cb_mem_released now)
  · exact kept before

theorem Standing.acquire {run : ServerRun} (standing : run.Standing)
    {resource : ServerResource} (other : resource ≠ .qp) :
    (run.acquire resource).Standing := by
  refine ⟨?_, ?_, standing.kept, standing.thread, standing.unborn⟩
  · have same : (resource :: run.ledger.acquired).count .qp =
        run.ledger.acquired.count .qp := List.count_cons_of_ne other
    have before := standing.qp
    unfold ServerRun.acquire
    simp only [Ledger.acquire_acquired, Ledger.acquire_released, same]
    exact before
  · have before := standing.allocated
    unfold ServerRun.acquire
    simp only [Ledger.acquire_acquired, List.mem_cons]
    tauto

theorem Standing.acquireIf {run : ServerRun} (standing : run.Standing)
    {resource : ServerResource} (other : resource ≠ .qp) (acquired : Bool) :
    (run.acquireIf acquired resource).Standing := by
  unfold ServerRun.acquireIf
  split
  · exact standing.acquire other
  · exact standing

@[simp] theorem acquireIf_thread (run : ServerRun) (acquired : Bool)
    (resource : ServerResource) :
    (run.acquireIf acquired resource).thread = run.thread := by
  unfold ServerRun.acquireIf
  split <;> rfl

theorem Standing.goMain {run : ServerRun} (standing : run.Standing)
    {main : MainStage} (before : run.main.stopping = 0)
    (after : main.stopping = 0) (unborn : run.thread = .absent)
    (allocated : .cb ∈ run.ledger.acquired) :
    (run.goMain main).Standing := by
  have kept := standing.kept before
  refine ⟨?_, .inr (.inr allocated), fun _ => kept, standing.thread,
    fun _ => unborn⟩
  have bound := standing.qp
  have nothing : run.main.owing = 0 := by
    cases stage : run.main with
    | freeing calls =>
        rw [stage] at before
        cases before
    | _ => rfl
  unfold ServerRun.goMain
  dsimp only
  omega

theorem Standing.goThread {run : ServerRun} (standing : run.Standing)
    {now next : ThreadStage} (stage : run.thread = now)
    (born : now ≠ .absent) (owing : now.owing ≤ next.owing)
    (calls : .kfree ∉ next.calls) : (run.goThread next).Standing := by
  subst stage
  refine ⟨?_, standing.allocated, standing.kept, calls,
    fun starting => absurd (standing.unborn starting) born⟩
  have bound := standing.qp
  unfold ServerRun.goThread
  dsimp only
  omega

/-- A setup call that leaves the queue pair alone and whose cleanup destroys
the one that is there. -/
theorem Standing.setup {run : ServerRun} (standing : run.Standing)
    {now next : ThreadStage} (stage : run.thread = now) (born : now ≠ .absent)
    {ret : Int} {resource : Option ServerResource}
    {cleanup : List ReleaseCall} (other : resource ≠ some .qp)
    (ahead : now.owing ≤ next.owing) (calls : .kfree ∉ next.calls)
    (failing : now.owing ≤ cleanup.count .destroyQp)
    (spared : .kfree ∉ cleanup) :
    (run.setup ret resource next cleanup).Standing := by
  unfold ServerRun.setup
  split
  · exact standing.goThread stage born failing spared
  · cases resource with
    | none => exact standing.goThread stage born ahead calls
    | some resource =>
        have acquired : (run.acquire resource).Standing := by
          apply standing.acquire
          intro same
          exact other (congrArg some same)
        exact acquired.goThread stage born ahead calls

/-- `rdma_create_qp`. -/
theorem Standing.createQp {run : ServerRun} (standing : run.Standing)
    (stage : run.thread = .createQp) (ret : Int) :
    (run.setup ret (some .qp) .mapping
      (nmsgSetupQpErr2 ++ nmsgServerSetupErr0)).Standing := by
  have nothing : run.thread.owing = 0 := by
    rw [stage]
    rfl
  have born : run.thread ≠ .absent := by
    rw [stage]
    decide
  unfold ServerRun.setup
  split
  · apply standing.goThread stage <;> decide
  · refine ⟨?_, ?_, standing.kept, ?_,
      fun starting => absurd (standing.unborn starting) born⟩
    · have bound := standing.qp
      have one : ThreadStage.mapping.owing = 1 := rfl
      unfold ServerRun.acquire ServerRun.goThread
      simp only [Ledger.acquire_acquired, Ledger.acquire_released,
        List.count_cons_self, one]
      omega
    · have before := standing.allocated
      unfold ServerRun.acquire ServerRun.goThread
      simp only [Ledger.acquire_acquired, List.mem_cons]
      tauto
    · exact List.not_mem_nil

theorem Standing.threadRelease {run : ServerRun} (standing : run.Standing)
    {call : ReleaseCall} {calls : List ReleaseCall}
    (stage : run.thread = .cleaning (call :: calls)) :
    ((run.release call).goThread (.cleaning calls)).Standing := by
  have spared := standing.thread
  rw [stage] at spared
  obtain ⟨other, rest⟩ := List.ne_and_not_mem_of_not_mem_cons spared
  refine ⟨?_, ?_, ?_, rest, ?_⟩
  · have bound := standing.qp
    have counted := count_release_qp run call
    have split : (call :: calls).count .destroyQp =
        calls.count .destroyQp + [call].count .destroyQp := by
      simp [List.count_cons]
    rw [stage] at bound
    unfold ServerRun.goThread
    simp only [release_acquired, release_main, ThreadStage.owing]
      at bound ⊢
    omega
  · simpa [ServerRun.goThread] using standing.allocated
  · intro running
    exact cb_release (Ne.symm other) (standing.kept running)
  · intro starting
    have unborn := standing.unborn starting
    rw [stage] at unborn
    cases unborn

theorem Standing.stopServer {run : ServerRun} (standing : run.Standing)
    {ret : Int} (stage : run.main = .started ret) :
    (run.goMain (.freeing nmsgFree)).Standing := by
  refine ⟨?_, ?_, nofun, standing.thread, nofun⟩
  · have bound := standing.qp
    have one : (MainStage.freeing nmsgFree).owing = 1 := by decide
    have stopped : (MainStage.freeing nmsgFree).stopping = 1 := rfl
    have running : run.main.stopping = 0 := by
      rw [stage]
      rfl
    have nothing : run.main.owing = 0 := by
      rw [stage]
      rfl
    unfold ServerRun.goMain
    simp only [one, stopped]
    omega
  · rcases standing.allocated with early | failed | allocated
    · rw [stage] at early
      cases early
    · rw [stage] at failed
      cases failed
    · exact .inr (.inr allocated)

theorem Standing.stopRelease {run : ServerRun} (standing : run.Standing)
    {call : ReleaseCall} {calls : List ReleaseCall}
    (stage : run.main = .freeing (call :: calls)) :
    ((run.release call).goMain (.freeing calls)).Standing := by
  refine ⟨?_, ?_, nofun, standing.thread, nofun⟩
  · have bound := standing.qp
    have counted := count_release_qp run call
    have split : (call :: calls).count .destroyQp =
        calls.count .destroyQp + [call].count .destroyQp := by
      simp [List.count_cons]
    rw [stage] at bound
    unfold ServerRun.goMain
    simp only [release_acquired, release_thread, MainStage.owing,
      MainStage.stopping] at bound ⊢
    omega
  · rcases standing.allocated with early | failed | allocated
    · rw [stage] at early
      cases early
    · rw [stage] at failed
      cases failed
    · exact .inr (.inr (by simpa [ServerRun.goMain] using allocated))

theorem Standing.kmalloc {run next : ServerRun} (standing : run.Standing)
    {cb : Option (Pointer × Pointer)} {addrStr : Bool}
    (moved : run.step (.kmalloc cb addrStr) = some next) : next.Standing := by
  obtain ⟨stage, moved⟩ := Option.ite_none_right_eq_some.mp moved
  have running : run.main.stopping = 0 := by
    rw [stage]
    rfl
  have nothing : run.main.owing = 0 := by
    rw [stage]
    rfl
  have unborn : run.thread = .absent := by
    apply standing.unborn
    rw [stage]
    rfl
  have kept := standing.kept running
  have bound := standing.qp
  rw [running, nothing] at bound
  cases cb with
  | none =>
      obtain rfl := Option.some.inj moved
      exact ⟨bound, .inr (.inl rfl), fun _ => kept, standing.thread,
        fun _ => unborn⟩
  | some garbage =>
      obtain rfl := Option.some.inj moved
      refine ⟨?_, .inr (.inr List.mem_cons_self), fun _ => kept,
        standing.thread, fun _ => unborn⟩
      have other : ServerResource.cb ≠ .qp := by decide
      have same : (ServerResource.cb :: run.ledger.acquired).count .qp =
          run.ledger.acquired.count .qp := List.count_cons_of_ne other
      unfold ServerRun.acquire
      simp only [Ledger.acquire_acquired, Ledger.acquire_released, same]
      cases addrStr <;> exact bound

theorem Standing.allocated_of {run : ServerRun} (standing : run.Standing)
    (started : run.main ≠ .preSetup) (fine : run.main ≠ .oops) :
    .cb ∈ run.ledger.acquired := by
  rcases standing.allocated with early | failed | allocated
  · exact absurd early started
  · exact absurd failed fine
  · exact allocated

/-- One verb of `nmsg_start_server`. -/
theorem Standing.start {run : ServerRun} (standing : run.Standing)
    {main : MainStage} (stage : run.main = main)
    (started : main ≠ .preSetup) (fine : main ≠ .oops)
    (starting : main.starting = true) (running : main.stopping = 0)
    {after : MainStage} (still : after.stopping = 0) :
    (run.goMain after).Standing := by
  apply standing.goMain
  · rw [stage]
    exact running
  · exact still
  · apply standing.unborn
    rw [stage]
    exact starting
  · apply standing.allocated_of
    · rw [stage]
      exact started
    · rw [stage]
      exact fine

theorem step_standing {run next : ServerRun} {input : ServerRunInput}
    (standing : run.Standing) (moved : run.step input = some next) :
    next.Standing := by
  cases input with
  | kmalloc cb addrStr => exact standing.kmalloc moved
  | createId ret =>
      obtain ⟨stage, moved⟩ := Option.ite_none_right_eq_some.mp moved
      split at moved <;> obtain rfl := Option.some.inj moved
      · exact standing.start stage nofun nofun rfl rfl rfl
      · have acquired : (run.acquire .cmId).Standing :=
          standing.acquire (by decide)
        exact acquired.start stage nofun nofun rfl rfl rfl
  | bindAddr ret =>
      obtain ⟨stage, moved⟩ := Option.ite_none_right_eq_some.mp moved
      split at moved <;> obtain rfl := Option.some.inj moved
      · exact standing.start stage nofun nofun rfl rfl rfl
      · exact standing.start stage nofun nofun rfl rfl rfl
  | listen ret =>
      obtain ⟨stage, moved⟩ := Option.ite_none_right_eq_some.mp moved
      split at moved <;> obtain rfl := Option.some.inj moved
      · exact standing.start stage nofun nofun rfl rfl rfl
      · have up : (run.goMain .creatingThread).Standing :=
          standing.start stage nofun nofun rfl rfl rfl
        exact ⟨up.qp, up.allocated, up.kept, up.thread, up.unborn⟩
  | kthreadCreate ret =>
      obtain ⟨stage, moved⟩ := Option.ite_none_right_eq_some.mp moved
      split at moved <;> obtain rfl := Option.some.inj moved
      · exact standing.start stage nofun nofun rfl rfl rfl
      · have up : (run.goMain (.started 0)).Standing :=
          standing.start stage nofun nofun rfl rfl rfl
        have unborn : run.thread = .absent := by
          apply standing.unborn
          rw [stage]
          rfl
        have bound := up.qp
        refine ⟨?_, up.allocated, up.kept, List.not_mem_nil, nofun⟩
        unfold ServerRun.goMain ServerRun.goThread at *
        dsimp only at bound ⊢
        rw [unborn] at bound
        exact bound
  | connectRequest =>
      obtain ⟨-, moved⟩ := Option.ite_none_right_eq_some.mp moved
      obtain rfl := Option.some.inj moved
      exact standing.acquire (by decide)
  | connectClient ret =>
      obtain ⟨⟨stage, -⟩, moved⟩ := Option.ite_none_right_eq_some.mp moved
      split at moved <;> obtain rfl := Option.some.inj moved
      · apply standing.goThread stage <;> decide
      · apply standing.goThread stage <;> decide
  | allocPd ret =>
      obtain ⟨stage, moved⟩ := Option.ite_none_right_eq_some.mp moved
      obtain rfl := Option.some.inj moved
      apply standing.setup stage <;> decide
  | createCq ret =>
      obtain ⟨stage, moved⟩ := Option.ite_none_right_eq_some.mp moved
      obtain rfl := Option.some.inj moved
      apply standing.setup stage <;> decide
  | reqNotifyCq ret =>
      obtain ⟨stage, moved⟩ := Option.ite_none_right_eq_some.mp moved
      obtain rfl := Option.some.inj moved
      apply standing.setup stage <;> decide
  | createQp ret =>
      obtain ⟨stage, moved⟩ := Option.ite_none_right_eq_some.mp moved
      obtain rfl := Option.some.inj moved
      exact standing.createQp stage ret
  | mapSingle recv send =>
      obtain ⟨stage, moved⟩ := Option.ite_none_right_eq_some.mp moved
      obtain rfl := Option.some.inj moved
      have received : (run.acquireIf recv .recvDma).Standing :=
        standing.acquireIf (by decide) recv
      have sent :
          ((run.acquireIf recv .recvDma).acquireIf send .sendDma).Standing :=
        received.acquireIf (by decide) send
      have same : ((run.acquireIf recv .recvDma).acquireIf send
          .sendDma).thread = .mapping := by
        rw [acquireIf_thread, acquireIf_thread]
        exact stage
      apply sent.goThread same <;> decide
  | allocCoherent allocated =>
      obtain ⟨stage, moved⟩ := Option.ite_none_right_eq_some.mp moved
      obtain rfl := Option.some.inj moved
      have same : ServerRun.Standing
          { run with rdmaBuf := if allocated then .address else .null } :=
        ⟨standing.qp, standing.allocated, standing.kept, standing.thread,
          standing.unborn⟩
      apply same.setup stage <;> decide
  | allocMr ret =>
      obtain ⟨stage, moved⟩ := Option.ite_none_right_eq_some.mp moved
      obtain rfl := Option.some.inj moved
      have same : ServerRun.Standing
          { run with regMr := if ret ≠ 0 then .error else .address } :=
        ⟨standing.qp, standing.allocated, standing.kept, standing.thread,
          standing.unborn⟩
      apply same.setup stage <;> decide
  | postRecv ret =>
      obtain ⟨stage, moved⟩ := Option.ite_none_right_eq_some.mp moved
      obtain rfl := Option.some.inj moved
      apply standing.setup stage <;> decide
  | accept ret =>
      obtain ⟨stage, moved⟩ := Option.ite_none_right_eq_some.mp moved
      obtain rfl := Option.some.inj moved
      apply standing.setup stage <;> decide
  | runServer ret =>
      obtain ⟨stage, moved⟩ := Option.ite_none_right_eq_some.mp moved
      obtain rfl := Option.some.inj moved
      apply standing.setup stage <;> decide
  | threadRelease =>
      unfold ServerRun.step at moved
      dsimp only at moved
      split at moved
      · next call calls stage =>
        obtain rfl := Option.some.inj moved
        exact standing.threadRelease stage
      · cases moved
  | stopServer =>
      unfold ServerRun.step at moved
      dsimp only at moved
      split at moved
      · next ret stage =>
        obtain rfl := Option.some.inj moved
        exact standing.stopServer stage
      · cases moved
  | stopRelease =>
      unfold ServerRun.step at moved
      dsimp only at moved
      split at moved
      · next call calls stage =>
        obtain rfl := Option.some.inj moved
        exact standing.stopRelease stage
      · cases moved

theorem standing_invariant :
    serverRunMachine.Invariant Machine.anyInput Standing := by
  constructor
  · rintro run rfl
    exact ⟨Nat.zero_le _, .inl rfl, fun _ => List.not_mem_nil,
      List.not_mem_nil, fun _ => rfl⟩
  · intro run input next standing _ moved
    exact step_standing standing moved

/-- A stopped server whose thread is gone has destroyed more queue pairs than
it has created. -/
theorem Standing.excess {run : ServerRun} (standing : run.Standing)
    (gone : run.thread = .absent ∨ run.thread = .cleaning [])
    (stopped : run.main = .freeing []) :
    run.ledger.acquired.count .qp < run.ledger.released.count .qp := by
  have bound := standing.qp
  have nothing : run.thread.owing = 0 := by
    rcases gone with absent | cleaned
    · rw [absent]
      rfl
    · rw [cleaned]
      rfl
  rw [nothing, stopped] at bound
  exact bound

theorem Standing.leak {run : ServerRun} (standing : run.Standing) {ret : Int}
    (started : run.main = .started ret) :
    .cb ∈ run.ledger.acquired ∧ .cb ∉ run.ledger.released := by
  constructor
  · apply standing.allocated_of
    · rw [started]
      nofun
    · rw [started]
      nofun
  · apply standing.kept
    rw [started]
    rfl

end ServerRun

/-- What the server has acquired when a run of it ends has been released
exactly once, and nothing else has been. -/
def ServerReleases : Prop :=
  ∀ run, serverRunMachine.Reachable run → run.Ended → run.ledger.Balanced

/-- No run of the server releases its resources exactly once. -/
theorem server_never_releases (run : ServerRun)
    (reached : serverRunMachine.Reachable run) (ended : run.Ended) :
    ¬run.ledger.Balanced := by
  have standing := ServerRun.standing_invariant.reaches reached
  obtain ⟨gone, stopped | ⟨ret, -, failed⟩⟩ := ended
  · exact Ledger.not_balanced_of_excess (standing.excess gone stopped)
  · obtain ⟨acquired, kept⟩ := standing.leak failed
    exact Ledger.not_balanced_of_leak acquired kept

/-- A session of one message whose thread leaves the loop before the stop. -/
private def oneMessage : List ServerRunInput :=
  [.kmalloc (some (.address, .address)) true, .createId 0, .bindAddr 0,
    .listen 0, .kthreadCreate 0, .connectRequest, .connectClient 0,
    .allocPd 0, .createCq 0, .reqNotifyCq 0, .createQp 0,
    .mapSingle true true, .allocCoherent true, .allocMr 0, .postRecv 0,
    .accept 0, .runServer 0, .runServer (-1)] ++
  List.replicate 8 .threadRelease ++ .stopServer ::
    List.replicate 9 .stopRelease

private theorem oneMessage_ended :
    ∃ run, serverRunMachine.Reachable run ∧
      (run.thread = .cleaning [] ∧ run.main = .freeing []) ∧
      run.ledger.acquired.count .qp = 1 ∧
      run.ledger.released.count .qp = 2 :=
  ⟨_, Machine.reachable_of_exec oneMessage rfl rfl, ⟨rfl, rfl⟩, rfl, rfl⟩

theorem server_never_releases_after_message :
    ∃ run, serverRunMachine.Reachable run ∧ run.Ended ∧
      run.ledger.acquired.count .qp = 1 ∧ ¬run.ledger.Balanced := by
  obtain ⟨run, reached, ⟨gone, stopped⟩, created, -⟩ := oneMessage_ended
  have ended : run.Ended := ⟨.inr gone, .inl stopped⟩
  exact ⟨run, reached, ended, created,
    server_never_releases run reached ended⟩

/-- The thread and `nmsg_free` both destroy the queue pair. -/
theorem server_releases_twice : ¬ServerReleases := by
  intro releases
  obtain ⟨run, reached, ⟨gone, stopped⟩, created, destroyed⟩ :=
    oneMessage_ended
  have balanced := releases run reached ⟨.inr gone, .inl stopped⟩
  have even := Ledger.balanced_iff_count.mp balanced .qp
  rw [created, destroyed] at even
  cases even

end Rshm.Rdma
