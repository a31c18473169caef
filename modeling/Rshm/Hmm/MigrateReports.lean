import Rshm.Hmm.MigrateWindow
import Rshm.Hmm.SweepExact
import Rshm.Hmm.TransferEnds

/-!
# What the migrations report

MIGRATE_TO_DEV takes a mirror entry for each page as the sign that the
migration went well, and MIGRATE_TO_SYS counts the pages that moved.  A page
that was not migrated can have an entry from an earlier fault.
-/

namespace Rshm.Hmm

open RangeLoop AddressLoop

variable {Contents : Type}

theorem migrateOne_ok
    {work : Bool → MigrateAnswer → Window → MigrateState Contents →
      MigrateState Contents}
    {answers : Nat → MigrateAnswer} {stop addr next : UInt64}
    {state after : MigrateState Contents}
    (pass : migrateOne work answers stop addr state = (after, .ok next)) :
    ∃ vma : VmArea addr,
      (answers state.handed.length).vma addr = some vma ∧
      migrateNext vma stop = next ∧
      work vma.vmWrite (answers state.handed.length) ⟨addr, next⟩
        { state with handed := state.handed ++ [⟨addr, next⟩] } = after := by
  unfold migrateOne at pass
  dsimp only at pass
  cases found : (answers state.handed.length).vma addr with
  | none =>
      rw [found] at pass
      cases (Prod.mk.inj pass).2
  | some vma =>
      rw [found] at pass
      dsimp only at pass
      split at pass
      · cases (Prod.mk.inj pass).2
      · split at pass
        · cases (Prod.mk.inj pass).2
        · obtain ⟨worked, chosen⟩ := Prod.mk.inj pass
          obtain rfl := Except.ok.inj chosen
          exact ⟨vma, rfl, rfl, worked⟩

theorem pfnOf_le {addr stop : UInt64} (order : addr.toNat ≤ stop.toNat) :
    pfnOf addr ≤ pfnOf stop := by
  rw [pfnOf_eq, pfnOf_eq]
  omega

/-- Where a window of a request can begin. -/
structure InRequest (cmd : HmmDmirrorCmd) (addr : UInt64) : Prop where
  aligned : addr.toNat % 4096 = 0
  lower : cmd.addr.toNat ≤ addr.toNat
  upper : addr.toNat ≤ cmd.stop.toNat

section Request

variable {cmd : HmmDmirrorCmd}

theorem InRequest.start (admitted : cmd.Admitted) :
    InRequest cmd cmd.addr := by
  obtain ⟨aligned, -, order⟩ := admitted.range
  exact ⟨aligned, Nat.le_refl _, Nat.le_of_lt order⟩

theorem InRequest.next (admitted : cmd.Admitted) {addr : UInt64}
    (place : InRequest cmd addr) (inside : addr < cmd.stop)
    (vma : VmArea addr) :
    InRequest cmd (migrateNext vma cmd.stop) ∧
      pfnOf addr < pfnOf (migrateNext vma cmd.stop) := by
  obtain ⟨-, last, -⟩ := admitted.range
  obtain ⟨rises, value⟩ := toNat_migrateNext vma cmd.stop
  have aligned := vma.aligned
  have start := place.aligned
  have lower := place.lower
  rw [UInt64.lt_iff_toNat_lt] at inside
  have past : (migrateNext vma cmd.stop).toNat % 4096 = 0 := by omega
  refine ⟨⟨past, by omega, by omega⟩, ?_⟩
  rw [pfnOf_eq, pfnOf_eq]
  omega

end Request

/-- Nothing but the migration changes the mirror. -/
def Alone (env : SweepEnv MigrateAnswer) : Prop :=
  ∀ k, (env.answers k).others = id

/-- The body of the loop of `dmirror_migrate_to_device`. -/
abbrev toDeviceOne [Zero Contents] (mdevice dmirror : Nat)
    (cmd : HmmDmirrorCmd) (env : SweepEnv MigrateAnswer) :
    UInt64 → MigrateState Contents →
      MigrateState Contents × Except Errno UInt64 :=
  migrateOne (migrateWindowToDevice mdevice dmirror) env.answers cmd.stop

/-- How a pass of the loop finds the process. -/
structure Standing (cmd : HmmDmirrorCmd) (addr : UInt64)
    (state : MigrateState Contents) : Prop where
  place : InRequest cmd addr
  settled : state.Settled

/-- An address that later windows leave alone. -/
structure Keeps (state later : MigrateState Contents) (pfn : Nat) :
    Prop where
  cpu : later.cpu pfn = state.cpu pfn
  pt : later.pt pfn = state.pt pfn
  links : ∀ page, (state.cpu pfn).page = some page → page ≠ .zero →
    later.mem.zoneDeviceData page = state.mem.zoneDeviceData page

theorem Keeps.refl (state : MigrateState Contents) (pfn : Nat) :
    Keeps state state pfn :=
  ⟨rfl, rfl, fun _ _ _ => rfl⟩

theorem Keeps.trans {state between later : MigrateState Contents}
    {pfn : Nat} (first : Keeps state between pfn)
    (second : Keeps between later pfn) : Keeps state later pfn := by
  refine ⟨second.cpu.trans first.cpu, second.pt.trans first.pt, ?_⟩
  intro page mapped nonzero
  rw [second.links page (by rw [first.cpu]; exact mapped) nonzero,
    first.links page mapped nonzero]

section ToDevice

variable [Zero Contents] {mdevice dmirror : Nat} {cmd : HmmDmirrorCmd}
  {env : SweepEnv MigrateAnswer}

theorem Keeps.window {vmWrite : Bool} {answer : MigrateAnswer}
    {window : Window} {state : MigrateState Contents}
    (settled : state.Settled) (alone : answer.others = id) {pfn : Nat}
    (outside : ¬window.Holds pfn) :
    Keeps state (migrateWindowToDevice mdevice dmirror vmWrite answer window
      state) pfn := by
  obtain ⟨cpu, pt⟩ := migrateWindowToDevice_outside mdevice dmirror vmWrite
    answer window state alone outside
  refine ⟨cpu, pt, ?_⟩
  intro page mapped nonzero
  have used := (settled.mapped mapped).resolve_right nonzero
  exact migrateWindowToDevice_links _ _ _ _ _ _ used

theorem Standing.next (admitted : cmd.Admitted) (alone : Alone env)
    {addr next : UInt64} {state after : MigrateState Contents}
    (standing : Standing cmd addr state) (inside : addr < cmd.stop)
    (pass : toDeviceOne mdevice dmirror cmd env addr state =
      (after, .ok next)) :
    Standing cmd next after ∧ pfnOf addr < pfnOf next ∧
      ∀ pfn, pfn < pfnOf addr → Keeps state after pfn := by
  obtain ⟨vma, -, rfl, rfl⟩ := migrateOne_ok pass
  obtain ⟨place, rises⟩ := standing.place.next admitted inside vma
  let window : Window := ⟨addr, migrateNext vma cmd.stop⟩
  let handed : MigrateState Contents :=
    { state with handed := state.handed ++ [window] }
  have settled : handed.Settled := standing.settled
  have settledAfter : MigrateState.Settled (migrateWindowToDevice mdevice
      dmirror vma.vmWrite (env.answers state.handed.length) window handed) :=
    settled.windowToDevice mdevice dmirror vma.vmWrite _ window
  refine ⟨⟨place, settledAfter⟩, rises, ?_⟩
  intro pfn below
  have outside : ¬window.Holds pfn := by
    intro holds
    have lower : pfnOf addr ≤ pfn := holds.1
    omega
  have kept := @Keeps.window _ _ mdevice dmirror vma.vmWrite _ window handed
    settled (alone state.handed.length) pfn outside
  exact ⟨kept.cpu, kept.pt, kept.links⟩

theorem Standing.rest (admitted : cmd.Admitted) (alone : Alone env)
    {addr : UInt64} {state final : MigrateState Contents}
    (standing : Standing cmd addr state) {passes pfn : Nat}
    (below : pfn < pfnOf addr)
    (ended : forAddress (toDeviceOne mdevice dmirror cmd env) cmd.stop passes
      addr state = (final, .ended)) :
    Keeps state final pfn := by
  obtain ⟨last, -, visits⟩ := visits_of_ended ended
  have kept := visits.keeps
    (fun place between => Standing cmd place between ∧ pfn < pfnOf place ∧
      Keeps state between pfn)
    (by
      intro place between after next inside held pass
      obtain ⟨standing, below, kept⟩ := held
      obtain ⟨stands, rises, keeps⟩ := standing.next admitted alone inside pass
      exact ⟨stands, by omega, kept.trans (keeps pfn below)⟩)
    ⟨standing, below, .refl state pfn⟩
  exact kept.2.2

theorem Standing.visited (admitted : cmd.Admitted) (alone : Alone env)
    {addr last : UInt64} {state between : MigrateState Contents}
    (standing : Standing cmd addr state)
    (visits : Visits (toDeviceOne mdevice dmirror cmd env) cmd.stop addr state
      last between) : Standing cmd last between := by
  apply visits.keeps (Standing cmd) _ standing
  intro place between after next inside standing pass
  exact (standing.next admitted alone inside pass).1

theorem Standing.delivered_iff (admitted : cmd.Admitted) (alone : Alone env)
    {addr : UInt64} {state final : MigrateState Contents}
    (standing : Standing cmd addr state) (inside : addr < cmd.stop)
    {passes : Nat}
    (ended : forAddress (toDeviceOne mdevice dmirror cmd env) cmd.stop passes
      addr state = (final, .ended))
    {later : Memory Contents}
    (links : later.zoneDeviceData = final.mem.zoneDeviceData)
    {vma : VmArea addr}
    (found : (env.answers state.handed.length).vma addr = some vma)
    {pfn : Nat}
    (holds : Window.Holds ⟨addr, migrateNext vma cmd.stop⟩ pfn) :
    Delivered mdevice later (final.cpu pfn) (final.pt pfn) ↔
      Lands mdevice dmirror vma.vmWrite (env.answers state.handed.length)
        ⟨addr, migrateNext vma cmd.stop⟩ state later pfn := by
  obtain ⟨after, next, left, pass, -, ended⟩ := pass_of_ended ended inside
  obtain ⟨stands, -, -⟩ := standing.next admitted alone inside pass
  obtain ⟨vma', found', chosen, worked⟩ := migrateOne_ok pass
  obtain rfl := Option.some.inj (found'.symm.trans found)
  rw [chosen] at holds ⊢
  have past := (Window.holds_range.mp holds).2
  have kept := stands.rest admitted alone past ended
  rw [kept.cpu, kept.pt]
  let handed : MigrateState Contents :=
    { state with handed := state.handed ++ [⟨addr, next⟩] }
  have settled : handed.Settled := standing.settled
  have landed := @delivered_iff_lands _ _ mdevice dmirror vma'.vmWrite
    (env.answers state.handed.length) ⟨addr, next⟩ handed settled (alone _)
    later pfn holds
  dsimp only at landed
  rw [show migrateWindowToDevice mdevice dmirror vma'.vmWrite
    (env.answers state.handed.length) ⟨addr, next⟩ handed = after
    from worked] at landed
  apply landed
  intro page mapped nonzero
  rw [links]
  exact kept.links page mapped nonzero

/-- Every page is handled by the window it is in. -/
def AllLand (mdevice dmirror : Nat) (cmd : HmmDmirrorCmd)
    (env : SweepEnv MigrateAnswer) (state : MigrateState Contents)
    (later : Memory Contents) : Prop :=
  ∀ addr between (vma : VmArea addr),
    Visits (toDeviceOne mdevice dmirror cmd env) cmd.stop cmd.addr state addr
      between →
    addr < cmd.stop →
    (env.answers between.handed.length).vma addr = some vma →
    ∀ pfn, Window.Holds ⟨addr, migrateNext vma cmd.stop⟩ pfn →
      Lands mdevice dmirror vma.vmWrite (env.answers between.handed.length)
        ⟨addr, migrateNext vma cmd.stop⟩ between later pfn

theorem allDelivered_iff (admitted : cmd.Admitted) (alone : Alone env)
    {state final : MigrateState Contents} (settled : state.Settled)
    {passes : Nat}
    (ended : forAddress (toDeviceOne mdevice dmirror cmd env) cmd.stop passes
      cmd.addr state = (final, .ended))
    {later : Memory Contents}
    (links : later.zoneDeviceData = final.mem.zoneDeviceData) :
    (∀ pfn, pfnOf cmd.addr ≤ pfn → pfn < pfnOf cmd.stop →
        Delivered mdevice later (final.cpu pfn) (final.pt pfn)) ↔
      AllLand mdevice dmirror cmd env state later := by
  have start : Standing cmd cmd.addr state := ⟨.start admitted, settled⟩
  constructor
  · intro delivered addr between vma visits inside found pfn holds
    have standing := start.visited admitted alone visits
    obtain ⟨left, rest⟩ := visits.rest ended
    rw [← standing.delivered_iff admitted alone inside rest links found holds]
    obtain ⟨place, -⟩ := standing.place.next admitted inside vma
    obtain ⟨from_, before⟩ := Window.holds_range.mp holds
    apply delivered
    · exact Nat.le_trans (pfnOf_le standing.place.lower) from_
    · exact Nat.lt_of_lt_of_le before (pfnOf_le place.upper)
  · intro lands pfn lower upper
    obtain ⟨last, outside, visits⟩ := visits_of_ended ended
    have stop : ¬pfnOf last ≤ pfn := by
      have reached : cmd.stop.toNat ≤ last.toNat := by
        rw [UInt64.lt_iff_toNat_lt] at outside
        omega
      have order := pfnOf_le reached
      omega
    obtain ⟨addr, between, after, next, visits, inside, pass, from_, past⟩ :=
      visits.crosses (fun addr => pfnOf addr ≤ pfn) lower stop
    have standing := start.visited admitted alone visits
    obtain ⟨left, rest⟩ := visits.rest ended
    obtain ⟨vma, found, chosen, -⟩ := migrateOne_ok pass
    have holds : Window.Holds ⟨addr, migrateNext vma cmd.stop⟩ pfn := by
      rw [chosen]
      exact Window.holds_range.mpr ⟨from_, Nat.lt_of_not_le past⟩
    rw [standing.delivered_iff admitted alone inside rest links found holds]
    exact lands addr between vma visits inside found pfn holds

end ToDevice

def HmmDmirrorCmd.pages (cmd : HmmDmirrorCmd) : Nat :=
  pfnOf cmd.stop - pfnOf cmd.addr

theorem HmmDmirrorCmd.Admitted.pages {cmd : HmmDmirrorCmd}
    (admitted : cmd.Admitted) :
    cmd.pages = cmd.exactly.npages.toNat ∧
      pfnOf cmd.stop = pfnOf cmd.addr + cmd.pages ∧
      cmd.pages * 4096 < 2 ^ 64 ∧ cmd.size.toNat = cmd.pages * 4096 := by
  have range := admitted.exactly
  have stop := range.toNat_stop
  have size := range.toNat_size
  have below : cmd.addr.toNat + cmd.exactly.npages.toNat * 4096 < 2 ^ 64 :=
    range
  have first := (pageAligned_iff cmd.addr).mp admitted.1
  rw [cmd.exactly_stop, cmd.exactly_addr] at stop
  rw [cmd.exactly_size] at size
  unfold HmmDmirrorCmd.pages
  rw [pfnOf_eq, pfnOf_eq]
  omega

/-- The critical section of the read-back. -/
def readBackSection (cmd : HmmDmirrorCmd) (back : ReadBackEnv Contents)
    (ptr : UInt64 → Contents) (pt : XArray) :
    Section Contents × Option Errno :=
  doTransfer .read (back.others pt) cmd.addr cmd.stop
    (dmirrorBounceInit cmd.addr cmd.size ptr) back.mem []

theorem readBackSection_whole {cmd : HmmDmirrorCmd}
    (admitted : cmd.Admitted) {back : ReadBackEnv Contents}
    {ptr : UInt64 → Contents} {pt : XArray}
    (done : (readBackSection cmd back ptr pt).2 = none) :
    let bounce := (readBackSection cmd back ptr pt).1.bounce
    bounce.cpages.toNat = cmd.pages ∧ bounce.size = cmd.size ∧
      ∀ k, k < cmd.pages → ∃ entry,
        back.others pt (pfnOf cmd.addr + k) = some entry ∧
        bounce.ptr (UInt64.ofNat (4096 * k)) =
          back.mem.contents entry.page := by
  intro bounce
  obtain ⟨pages, -, below, -⟩ := admitted.pages
  have entered : InOrder .read cmd.exactly ([] : List (Copy Contents))
      (dmirrorBounceInit cmd.addr cmd.size ptr) := by
    rw [← cmd.exactly_size]
    exact (Progress.enter_exact admitted.exactly ptr pt back.mem).inOrder
  have position : cmd.addr.toNat =
      cmd.exactly.addr.toNat + ([] : List (Copy Contents)).length * 4096 := by
    rw [List.length_nil, Nat.zero_mul, Nat.add_zero, cmd.exactly_addr]
  have aligned : PageAligned cmd.exactly.addr := by
    rw [cmd.exactly_addr]
    exact admitted.1
  obtain ⟨inOrder, ⟨new, list, loaded, -⟩, complete, -⟩ := doTransfer_inOrder
    aligned admitted.exactly (back.others pt) back.mem entered position
  rw [cmd.exactly_stop] at inOrder list complete
  change InOrder .read cmd.exactly
    (readBackSection cmd back ptr pt).1.copies bounce at inOrder
  change (readBackSection cmd back ptr pt).1.copies = [] ++ new at list
  have whole : (readBackSection cmd back ptr pt).1.copies.length =
      cmd.exactly.npages.toNat := complete done
  generalize (readBackSection cmd back ptr pt).1.copies = copies
    at inOrder list whole
  rw [List.nil_append] at list
  subst list
  refine ⟨?_, ?_, ?_⟩
  · rw [← inOrder.count, whole, pages]
  · rw [inOrder.size, cmd.exactly_size]
  · intro k inside
    have found : copies[k]? = some copies[k] :=
      List.getElem?_eq_getElem (by omega)
    obtain ⟨pfn, offset, -⟩ := inOrder.place k _ found
    have member : copies[k] ∈ copies := List.getElem_mem ..
    obtain ⟨entry, bytes⟩ := loaded copies[k] member
    refine ⟨copies[k].entry, ?_, ?_⟩
    · rw [← entry, pfn]
      rfl
    · have place : UInt64.ofNat (4096 * k) = copies[k].offset := by
        apply UInt64.toNat_inj.mp
        rw [UInt64.toNat_ofNat', offset]
        omega
      rw [place, inOrder.bytes _ member, bytes rfl]

theorem readBack_success {cmd : HmmDmirrorCmd} {back : ReadBackEnv Contents}
    {pt : XArray} {windows : List Window}
    (zero : (readBack cmd back pt windows).ret = none) :
    ∃ ptr, back.vmalloc = some ptr ∧
      (readBackSection cmd back ptr pt).2 = none ∧
      (readBack cmd back pt windows).cmd.cpages =
        (readBackSection cmd back ptr pt).1.bounce.cpages ∧
      (readBack cmd back pt windows).bytes =
        (readBackSection cmd back ptr pt).1.bounce.size.toNat := by
  unfold readBack at zero ⊢
  unfold readBackSection
  cases buffer : back.vmalloc with
  | none =>
      rw [buffer] at zero
      cases zero
  | some ptr =>
      rw [buffer] at zero
      refine ⟨ptr, rfl, ?_⟩
      dsimp only at zero ⊢
      generalize doTransfer .read (back.others pt) cmd.addr cmd.stop
        (dmirrorBounceInit cmd.addr cmd.size ptr) back.mem [] = after
        at zero ⊢
      obtain ⟨section_, ret⟩ := after
      cases ret with
      | some errno => cases zero
      | none =>
          dsimp only at zero ⊢
          split at zero
          · next copied =>
            rw [if_pos copied]
            exact ⟨rfl, rfl, rfl⟩
          · cases zero

def HmmDmirrorCmd.pfns (cmd : HmmDmirrorCmd) : List Nat :=
  List.range' (pfnOf cmd.addr) cmd.pages

theorem Pte.onDevice_iff {mdevice : Nat} {pte : Pte} :
    pte.onDevice mdevice = true ↔
      ∃ dpfn writable, pte = .present (.devicePrivate mdevice dpfn)
        writable := by
  cases pte with
  | present page writable => cases page <;> simp [Pte.onDevice, eq_comm]
  | _ => simp [Pte.onDevice]

/-- What MIGRATE_TO_DEV says by returning 0: each page is on the device,
`cpages` counts them, and the user gets what they hold, in order. -/
structure ReportsDevice (mdevice : Nat) (cmd : HmmDmirrorCmd)
    (back : ReadBackEnv Contents) (state : MigrateState Contents)
    (served : Served) : Prop where
  resident : ∀ pfn ∈ cmd.pfns, (state.cpu pfn).onDevice mdevice = true
  counted : served.cmd.cpages.toNat =
    cmd.pfns.countP fun pfn => (state.cpu pfn).onDevice mdevice
  size : served.bytes = cmd.pages * 4096
  bytes : ∀ ptr, back.vmalloc = some ptr → ∀ k, k < cmd.pages →
    ∃ dpfn writable rpage,
      state.cpu (pfnOf cmd.addr + k) =
        .present (.devicePrivate mdevice dpfn) writable ∧
      back.mem.backingPage (.devicePrivate mdevice dpfn) = some rpage ∧
      (readBackSection cmd back ptr state.pt).1.bounce.ptr
        (UInt64.ofNat (4096 * k)) = back.mem.contents rpage

theorem HmmDmirrorCmd.mem_pfns {cmd : HmmDmirrorCmd} {pfn : Nat} :
    pfn ∈ cmd.pfns ↔ pfnOf cmd.addr ≤ pfn ∧ pfn < pfnOf cmd.stop := by
  unfold HmmDmirrorCmd.pfns HmmDmirrorCmd.pages
  rw [List.mem_range'_1]
  omega

theorem reportsDevice_iff {mdevice : Nat} {cmd : HmmDmirrorCmd}
    (admitted : cmd.Admitted) {back : ReadBackEnv Contents}
    (quiet : back.others = id) {state : MigrateState Contents}
    {windows : List Window}
    (zero : (readBack cmd back state.pt windows).ret = none) :
    ReportsDevice mdevice cmd back state
        (readBack cmd back state.pt windows) ↔
      ∀ pfn, pfnOf cmd.addr ≤ pfn → pfn < pfnOf cmd.stop →
        Delivered mdevice back.mem (state.cpu pfn) (state.pt pfn) := by
  obtain ⟨ptr, buffer, done, cpages, size⟩ := readBack_success zero
  obtain ⟨count, whole, reads⟩ := readBackSection_whole admitted done
  obtain ⟨-, stop, -, bytes⟩ := admitted.pages
  rw [quiet] at reads
  constructor
  · intro reports pfn lower upper
    obtain ⟨k, rfl⟩ : ∃ k, pfn = pfnOf cmd.addr + k :=
      ⟨pfn - pfnOf cmd.addr, by omega⟩
    obtain ⟨dpfn, writable, rpage, mapped, backing, read⟩ :=
      reports.bytes ptr buffer k (by omega)
    obtain ⟨entry, found, same⟩ := reads k (by omega)
    exact ⟨dpfn, writable, mapped, entry, rpage, found, backing,
      same.symm.trans read⟩
  · intro delivered
    have resident : ∀ pfn ∈ cmd.pfns,
        (state.cpu pfn).onDevice mdevice = true := by
      intro pfn member
      obtain ⟨lower, upper⟩ := HmmDmirrorCmd.mem_pfns.mp member
      obtain ⟨dpfn, writable, mapped, -⟩ := delivered pfn lower upper
      exact Pte.onDevice_iff.mpr ⟨dpfn, writable, mapped⟩
    refine ⟨resident, ?_, ?_, ?_⟩
    · rw [List.countP_eq_length.mpr resident, cpages, count,
        HmmDmirrorCmd.pfns, List.length_range']
    · rw [size, whole, bytes]
    · intro ptr' buffer' k inside
      obtain rfl := Option.some.inj (buffer.symm.trans buffer')
      obtain ⟨dpfn, writable, mapped, found, rpage, entry, backing, same⟩ :=
        delivered (pfnOf cmd.addr + k) (by omega) (by omega)
      obtain ⟨entry', found', read⟩ := reads k inside
      obtain rfl := Option.some.inj (entry.symm.trans found')
      exact ⟨dpfn, writable, rpage, mapped, backing, read.trans same⟩

/-- The page has moved from the device to system memory. -/
def broughtBack (mdevice : Nat) (before after : Nat → Pte) (pfn : Nat) :
    Bool :=
  (before pfn).onDevice mdevice && (after pfn).inSystem

section ToSystem

variable {mdevice : Nat} {cmd : HmmDmirrorCmd}
  {env : SweepEnv MigrateAnswer}

/-- The count of a window is that of the pages it brings back. -/
theorem successfulMigratedPages_eq (vmWrite : Bool) (answer : MigrateAnswer)
    (window : Window) (state : MigrateState Contents) :
    let after := migrateWindowToSystem mdevice vmWrite answer window state
    dmirrorSuccessfulMigratedPages
        (movedToSystem mdevice vmWrite answer window state).2 window.npages
        (pfnOf window.start) =
      (List.range' (pfnOf window.start) window.npages).countP
        (broughtBack mdevice state.cpu after.cpu) := by
  intro after
  rw [List.range'_eq_map_range, List.countP_map,
    dmirrorSuccessfulMigratedPages]
  apply List.countP_congr
  intro i member
  have inside : window.Holds (pfnOf window.start + i) := by
    rw [← window.holds_iff]
    have bound := List.mem_range.mp member
    omega
  have counted := migrateWindowToSystem_counted mdevice vmWrite answer window
    state inside
  exact iff_of_eq (congrArg (· = true) counted)

/-- A count over a range is the sum of the counts over its parts. -/
theorem countP_range'_split {base middle last : Nat} (lower : base ≤ middle)
    (upper : middle ≤ last) {whole first second : Nat → Bool}
    (below : ∀ n, n < middle → whole n = first n)
    (beyond : ∀ n, middle ≤ n → whole n = second n) :
    (List.range' base (last - base)).countP whole =
      (List.range' base (middle - base)).countP first +
        (List.range' middle (last - middle)).countP second := by
  have split : List.range' base (last - base) =
      List.range' base (middle - base) ++
        List.range' middle (last - middle) := by
    have width : last - base = (middle - base) + (last - middle) := by omega
    have start : middle = base + (middle - base) := by omega
    rw [width, ← List.range'_append_1, ← start]
  rw [split, List.countP_append]
  congr 1
  · apply List.countP_congr
    intro n member
    have inside := List.mem_range'_1.mp member
    rw [below n (by omega)]
  · apply List.countP_congr
    intro n member
    have inside := List.mem_range'_1.mp member
    rw [beyond n inside.1]

/-- What the loop has counted when it comes to an address. -/
structure Counting (mdevice : Nat) (cmd : HmmDmirrorCmd) (cpu : Nat → Pte)
    (addr : UInt64) (state : MigrateState Contents) : Prop where
  place : InRequest cmd addr
  counted : state.cpages.toNat =
    (List.range' (pfnOf cmd.addr) (pfnOf addr - pfnOf cmd.addr)).countP
      (broughtBack mdevice cpu state.cpu)
  ahead : ∀ pfn, pfnOf addr ≤ pfn → state.cpu pfn = cpu pfn

theorem Counting.next (admitted : cmd.Admitted) {cpu : Nat → Pte}
    {addr next : UInt64} {state after : MigrateState Contents}
    (counting : Counting mdevice cmd cpu addr state)
    (inside : addr < cmd.stop)
    (pass : migrateOne (migrateWindowToSystem mdevice) env.answers cmd.stop
      addr state = (after, .ok next)) :
    Counting mdevice cmd cpu next after := by
  obtain ⟨vma, -, chosen, worked⟩ := migrateOne_ok pass
  obtain ⟨place, rises⟩ := counting.place.next admitted inside vma
  rw [chosen] at place rises
  let window : Window := ⟨addr, next⟩
  let handed : MigrateState Contents :=
    { state with handed := state.handed ++ [window] }
  let answer := env.answers state.handed.length
  have done : migrateWindowToSystem mdevice vma.vmWrite answer window handed =
      after := worked
  have count := @successfulMigratedPages_eq _ mdevice vma.vmWrite answer
    window handed
  have outside : ∀ pfn, ¬window.Holds pfn → after.cpu pfn = state.cpu pfn := by
    intro pfn apart
    rw [← done, migrateWindowToSystem_eq]
    exact windowFinal_outside _ _ _ _ _ _ _ _ apart
  have total : after.cpages = state.cpages + UInt64.ofNat
      (dmirrorSuccessfulMigratedPages
        (movedToSystem mdevice vma.vmWrite answer window handed).2
        window.npages (pfnOf window.start)) := by
    rw [← done, migrateWindowToSystem_eq]
  dsimp only at count
  rw [done] at count
  have lower := pfnOf_le counting.place.lower
  have upper := pfnOf_le place.upper
  have fresh : ∀ pfn, pfnOf addr ≤ pfn →
      broughtBack mdevice cpu after.cpu pfn =
        broughtBack mdevice handed.cpu after.cpu pfn := by
    intro pfn beyond
    unfold broughtBack
    rw [show handed.cpu pfn = _ from counting.ahead pfn beyond]
  have old : ∀ pfn, pfn < pfnOf addr →
      broughtBack mdevice cpu after.cpu pfn =
        broughtBack mdevice cpu state.cpu pfn := by
    intro pfn below
    unfold broughtBack
    rw [outside pfn]
    intro holds
    have from_ := (Window.holds_range.mp holds).1
    omega
  have sum := countP_range'_split lower (Nat.le_of_lt rises) old fresh
  refine ⟨place, ?_, ?_⟩
  · have bound : (List.range' (pfnOf cmd.addr)
        (pfnOf next - pfnOf cmd.addr)).countP
          (broughtBack mdevice cpu after.cpu) ≤
        (List.range' (pfnOf cmd.addr)
          (pfnOf next - pfnOf cmd.addr)).length := List.countP_le_length
    rw [List.length_range', sum] at bound
    have width : window.npages = pfnOf next - pfnOf addr := rfl
    have here : pfnOf window.start = pfnOf addr := rfl
    rw [width, here] at count
    rw [total, UInt64.toNat_add, UInt64.toNat_ofNat', counting.counted, sum,
      width, here, count]
    have limit : pfnOf next < 2 ^ 52 := by
      have small := next.toNat_lt
      rw [pfnOf_eq]
      omega
    omega
  · intro pfn beyond
    rw [outside pfn, counting.ahead pfn (by omega)]
    intro holds
    have before := (Window.holds_range.mp holds).2
    omega

/-- MIGRATE_TO_SYS counts just the pages that have moved. -/
def ReportsSystem (mdevice : Nat) (cmd : HmmDmirrorCmd)
    (env : SweepEnv MigrateAnswer) (cpu : Nat → Pte) (mem : Memory Contents)
    (pt : XArray) : Prop :=
  ∀ served, dmirrorMigrateToSystem mdevice cmd env cpu mem pt = some served →
    served.ret = none →
    served.cmd.cpages.toNat = cmd.pfns.countP (broughtBack mdevice cpu
      (migrateLoop (migrateWindowToSystem mdevice) cmd env
        ⟨cpu, mem, pt, 0, []⟩).1.cpu)

theorem reportsSystem (admitted : cmd.Admitted) (cpu : Nat → Pte)
    (mem : Memory Contents) (pt : XArray) :
    ReportsSystem mdevice cmd env cpu mem pt := by
  intro served returned zero
  unfold dmirrorMigrateToSystem at returned
  dsimp only at returned
  split at returned
  · obtain rfl := Option.some.inj returned
    cases zero
  · split at returned
    · obtain rfl := Option.some.inj returned
      cases zero
    · cases loop : migrateLoop (migrateWindowToSystem mdevice) cmd env
          ⟨cpu, mem, pt, 0, []⟩ with
      | mk final outcome =>
          rw [loop] at returned
          cases outcome with
          | running => cases returned
          | left errno =>
              obtain rfl := Option.some.inj returned
              cases zero
          | ended =>
              obtain rfl := Option.some.inj returned
              obtain ⟨last, outside, visits⟩ := visits_of_ended loop
              have start : Counting mdevice cmd cpu cmd.addr
                  (⟨cpu, mem, pt, 0, []⟩ : MigrateState Contents) := by
                refine ⟨.start admitted, ?_, fun _ _ => rfl⟩
                rw [Nat.sub_self]
                rfl
              have counting := visits.keeps (Counting mdevice cmd cpu)
                (fun _ _ _ _ inside counting pass =>
                  counting.next admitted inside pass) start
              have whole : last.toNat = cmd.stop.toNat := by
                rw [UInt64.lt_iff_toNat_lt] at outside
                have upper := counting.place.upper
                omega
              dsimp only
              rw [counting.counted, UInt64.toNat_inj.mp whole]
              rfl

end ToSystem

section Migrations

variable [Zero Contents] {mdevice dmirror : Nat} {cmd : HmmDmirrorCmd}
  {env : SweepEnv MigrateAnswer}

theorem migrateToDevice_success {back : ReadBackEnv Contents}
    {cpu : Nat → Pte} {mem : Memory Contents} {pt : XArray} {served : Served}
    (returned : dmirrorMigrateToDevice mdevice dmirror cmd env back cpu mem
      pt = some served)
    (zero : served.ret = none) :
    ∃ final, migrateLoop (migrateWindowToDevice mdevice dmirror) cmd env
        ⟨cpu, mem, pt, cmd.cpages, []⟩ = (final, .ended) ∧
      readBack cmd back final.pt final.handed = served := by
  unfold dmirrorMigrateToDevice at returned
  split at returned
  · obtain rfl := Option.some.inj returned
    cases zero
  · split at returned
    · obtain rfl := Option.some.inj returned
      cases zero
    · cases loop : migrateLoop (migrateWindowToDevice mdevice dmirror) cmd env
          ⟨cpu, mem, pt, cmd.cpages, []⟩ with
      | mk final outcome =>
          rw [loop] at returned
          cases outcome with
          | running => cases returned
          | left errno =>
              obtain rfl := Option.some.inj returned
              cases zero
          | ended => exact ⟨final, rfl, Option.some.inj returned⟩

end Migrations

/-- Both migrations are as they report. -/
structure MigrationsReport (mdevice : Nat) (cmd : HmmDmirrorCmd)
    (back : ReadBackEnv Contents) (final : MigrateState Contents)
    (served : Served) : Prop where
  toDevice : ReportsDevice mdevice cmd back final served
  toSystem : ∀ env cpu (mem : Memory Contents) pt,
    ReportsSystem mdevice cmd env cpu mem pt

/-- A migration to the device that returns 0 is as it reports just when every
window lands its pages; a migration to the system always is. -/
theorem migrations_report_iff [Zero Contents] (mdevice dmirror : Nat)
    (cmd : HmmDmirrorCmd) (admitted : cmd.Admitted)
    (env : SweepEnv MigrateAnswer) (alone : Alone env)
    (back : ReadBackEnv Contents) (quiet : back.others = id)
    (cpu : Nat → Pte) (mem : Memory Contents) (pt : XArray)
    (settled : MigrateState.Settled ⟨cpu, mem, pt, cmd.cpages, []⟩) :
    let start : MigrateState Contents := ⟨cpu, mem, pt, cmd.cpages, []⟩
    let final := (migrateLoop (migrateWindowToDevice mdevice dmirror) cmd env
      start).1
    back.mem.zoneDeviceData = final.mem.zoneDeviceData →
    ∀ served,
      dmirrorMigrateToDevice mdevice dmirror cmd env back cpu mem pt =
        some served →
      served.ret = none →
      (MigrationsReport mdevice cmd back final served ↔
        AllLand mdevice dmirror cmd env start back.mem) := by
  intro start final links served returned zero
  obtain ⟨last, ended, rfl⟩ := migrateToDevice_success returned zero
  have same : final = last := congrArg Prod.fst ended
  rw [same] at links ⊢
  rw [← allDelivered_iff admitted alone settled ended links,
    ← reportsDevice_iff admitted quiet zero]
  constructor
  · intro reports
    exact reports.toDevice
  · intro reports
    exact ⟨reports, fun _ _ _ _ => reportsSystem admitted _ _ _⟩

/-- The area of one page at 4096. -/
def pageArea (addr : UInt64) : Option (VmArea addr) :=
  if inside : 4096 ≤ addr ∧ addr < 8192 then
    some ⟨4096, 8192, true, true, inside, by decide, by decide⟩
  else none

def pageCmd : HmmDmirrorCmd := ⟨4096, 0, 1, 0, 0⟩

/-- Calls for a page that goes to frame 9 of the device, backed by frame 20,
if it can be collected. -/
def pageEnv (collected : Bool) : SweepEnv MigrateAnswer where
  alive := true
  answers := fun _ =>
    { others := id
      vma := pageArea
      setup := none
      collected := fun _ => collected
      alloc := fun _ => some (9, 20)
      allocPage := fun _ => none
      migrated := fun _ => true
      xaFails := fun _ => false }
  passes := 2

/-- The process maps page 1 to frame 5, and an earlier device fault has left
an entry for it. -/
def pageState : MigrateState Nat where
  cpu := Function.update (fun _ => .none) 1 (.present (.normal 5) true)
  mem := oneSystemPage
  pt := fun pfn => if pfn = 1 then some ⟨.normal 5, .write⟩ else none
  cpages := 0
  handed := []

def pageFinal (collected : Bool) : MigrateState Nat :=
  (migrateLoop (migrateWindowToDevice 0 1) pageCmd (pageEnv collected)
    pageState).1

def pageBack (collected : Bool) : ReadBackEnv Nat where
  vmalloc := some fun _ => 0
  others := id
  mem := (pageFinal collected).mem
  userCopy := true

def pageServed : Served :=
  ⟨none, ⟨4096, 0, 1, 1, 0⟩, [1], 4096, [⟨4096, 8192⟩]⟩

theorem pageState_settled : pageState.Settled := by
  have empty : Owned (∅ : Finset Page) (fun _ => .null) (fun _ _ => .none)
      fun _ => none := @World.boot_owned Nat _
  exact empty.populate rfl (Finset.notMem_empty (Page.normal 5)) true

theorem pageEnv_returns (collected : Bool) :
    dmirrorMigrateToDevice 0 1 pageCmd (pageEnv collected)
        (pageBack collected) pageState.cpu pageState.mem pageState.pt =
      some pageServed := by
  cases collected <;> decide +kernel

/-- A page that migrates. -/
theorem allLand_migrated :
    AllLand 0 1 pageCmd (pageEnv true) pageState (pageBack true).mem := by
  have admitted : pageCmd.Admitted := by decide
  apply (migrations_report_iff 0 1 pageCmd admitted (pageEnv true)
    (fun _ => rfl) (pageBack true) rfl pageState.cpu pageState.mem
    pageState.pt pageState_settled rfl pageServed (pageEnv_returns true)
    rfl).mp
  refine ⟨⟨?_, ?_, ?_, ?_⟩, fun _ _ _ _ => reportsSystem admitted _ _ _⟩
  · decide +kernel
  · decide +kernel
  · decide +kernel
  · intro ptr buffer k inside
    have first : k = 0 := by
      have pages : pageCmd.pages = 1 := by decide
      omega
    obtain rfl := Option.some.inj buffer
    subst first
    exact ⟨9, true, .normal 20, by decide +kernel, by decide +kernel,
      by decide +kernel⟩

/-- A page that cannot be collected stays in system memory, and its old entry
makes MIGRATE_TO_DEV return 0 and count it. -/
theorem pinned_page_reported :
    ¬∀ (cmd : HmmDmirrorCmd) (env : SweepEnv MigrateAnswer)
      (back : ReadBackEnv Nat) (cpu : Nat → Pte) (mem : Memory Nat)
      (pt : XArray) (served : Served),
      let start : MigrateState Nat := ⟨cpu, mem, pt, cmd.cpages, []⟩
      let final := (migrateLoop (migrateWindowToDevice 0 1) cmd env start).1
      cmd.Admitted → Alone env → back.others = id → start.Settled →
      back.mem.zoneDeviceData = final.mem.zoneDeviceData →
      dmirrorMigrateToDevice 0 1 cmd env back cpu mem pt = some served →
      served.ret = none → MigrationsReport 0 cmd back final served := by
  intro always
  have reports := always pageCmd (pageEnv false) (pageBack false)
    pageState.cpu pageState.mem pageState.pt pageServed (by decide)
    (fun _ => rfl) rfl pageState_settled rfl (pageEnv_returns false) rfl
  have resident := reports.toDevice.resident 1 (by decide)
  have system : ((pageFinal false).cpu 1).onDevice 0 = false := by
    decide +kernel
  have device : ((pageFinal false).cpu 1).onDevice 0 = true := resident
  rw [system] at device
  cases device

end Rshm.Hmm
