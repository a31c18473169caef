import Rshm.Mm.Nmsg

/-!
# The page-migration step

`__migrate_device_pages` with `retrieve_page` in front of every slot, as
`migrate_device.c` has it, and the source page that `migrate_device_finalize`
takes for a slot.  Page tables, folio migration and the network answer as
their environment decides, slot by slot.
-/

namespace Rshm.Mm

def migratePfnValid : UInt64 := 1

def migratePfnMigrate : UInt64 := 2

def migratePfnShift : UInt64 := 6

/-- The value of a `struct page *`: no page, the page of a frame, or an
address at which there is no page. -/
inductive PagePtr where
  | null
  | page (pfn : Nat)
  | wild (address : Int)
  deriving DecidableEq, Repr

def migratePfnToPage (mpfn : UInt64) : PagePtr :=
  if mpfn &&& migratePfnValid = 0 then .null
  else .page (mpfn >>> migratePfnShift).toNat

/-- `mpfn & MIGRATE_PFN_MIGRATE`. -/
def migrating (mpfn : UInt64) : Bool :=
  mpfn &&& migratePfnMigrate ≠ 0

/-- `mpfn &= ~MIGRATE_PFN_MIGRATE`. -/
def clearMigrate (mpfn : UInt64) : UInt64 :=
  mpfn &&& ~~~migratePfnMigrate

@[simp] theorem migrating_clearMigrate (mpfn : UInt64) :
    migrating (clearMigrate mpfn) = false := by
  have cleared : mpfn &&& ~~~migratePfnMigrate &&& migratePfnMigrate = 0 := by
    rw [UInt64.and_assoc]
    exact UInt64.and_zero
  simp [migrating, clearMigrate, cleared]

/-- What the network calls of one `retrieve_page` answer. -/
structure Retrieval (Contents : Type) where
  init : Int
  send : Int
  request : Int
  replies : Nat → Reply Contents

/-- An `int` that is taken for a pointer. -/
def PagePtr.ofInt (value : Int) : PagePtr :=
  if value = 0 then .null else .wild value

variable {Contents : Type}

/-- `retrieve_page`.  The `int` of `nmsg_retrieve_pages` is assigned to a
page pointer. -/
def retrievePage (outcome : Retrieval Contents) (pageNumber : Int32)
    (client : Client Contents) : PagePtr × Client Contents :=
  let started := nmsgInitClient outcome.init client
  if started.1 < 0 then (.wild (-1), started.2)
  else if nmsgSendMessage outcome.send < 0 then
    (.wild (-1), nmsgDestroyClient started.2)
  else
    let retrieved := nmsgRetrievePages outcome.request outcome.replies
      pageNumber.toInt started.2.memory
    let client := { started.2 with memory := retrieved.2 }
    match PagePtr.ofInt retrieved.1 with
    | .null => (.wild (-1), nmsgDestroyClient client)
    | page => (page, nmsgDestroyClient client)

/-- Whether every network call succeeds for a request of `pages` pages. -/
def Retrieval.succeeds (outcome : Retrieval Contents) (pages : Int32) : Prop :=
  0 ≤ outcome.init ∧ 0 ≤ outcome.send ∧ 0 ≤ outcome.request ∧
    ∀ i, i < pages.toInt.toNat →
      0 ≤ (outcome.replies i).len ∧ (outcome.replies i).newPage ≠ none

theorem retrievePage_wild (outcome : Retrieval Contents) (pageNumber : Int32)
    (client : Client Contents) :
    (retrievePage outcome pageNumber client).1 = .wild (-1) := by
  unfold retrievePage
  dsimp only
  split
  · rfl
  · split
    · rfl
    · obtain zero | failed := nmsgRetrievePages_result outcome.request
        outcome.replies pageNumber.toInt
        (nmsgInitClient outcome.init client).2.memory
      · rw [zero]
        rfl
      · rw [failed]
        rfl

/-- A page that the retrieval has filled for one of the replies. -/
def Retrieval.Filled (outcome : Retrieval Contents) (pages : Int32)
    (pfn : Nat) : Prop :=
  ∃ i, i < pages.toInt.toNat ∧ (outcome.replies i).newPage = some pfn

/-- The result says whether the retrieval has succeeded, and the client is
destroyed if it has been initialised. -/
structure RetrievesTruthfully (outcome : Retrieval Contents)
    (pageNumber : Int32) (client : Client Contents) : Prop where
  success : (∃ pfn, (retrievePage outcome pageNumber client).1 = .page pfn ∧
      outcome.Filled pageNumber pfn) ↔ outcome.succeeds pageNumber
  failure : ¬outcome.succeeds pageNumber →
    (retrievePage outcome pageNumber client).1 = .null
  created : (retrievePage outcome pageNumber client).2.created =
    client.created + if outcome.init < 0 then 0 else 1
  released : (retrievePage outcome pageNumber client).2.released =
    client.released + if outcome.init < 0 then 0 else 1

theorem retrievePage_destroys (outcome : Retrieval Contents)
    (pageNumber : Int32) (client : Client Contents) :
    (retrievePage outcome pageNumber client).2.created =
        client.created + (if outcome.init < 0 then 0 else 1) ∧
      (retrievePage outcome pageNumber client).2.released =
        client.released + if outcome.init < 0 then 0 else 1 := by
  unfold retrievePage nmsgInitClient
  dsimp only
  by_cases refused : outcome.init < 0
  · rw [if_pos refused, if_pos refused, if_pos refused]
    exact ⟨rfl, rfl⟩
  · rw [if_neg refused, if_neg refused, if_neg (Int.lt_irrefl 0)]
    split
    · exact ⟨rfl, rfl⟩
    · split
      · exact ⟨rfl, rfl⟩
      · exact ⟨rfl, rfl⟩

/-- The result never says whether the retrieval has succeeded: it is no page
after a success, and not `NULL` after a failure. -/
theorem retrievePage_never_truthful (outcome : Retrieval Contents)
    (pageNumber : Int32) (client : Client Contents) :
    ¬RetrievesTruthfully outcome pageNumber client ∧
      (retrievePage outcome pageNumber client).1 ≠ .null ∧
      ∀ pfn, (retrievePage outcome pageNumber client).1 ≠ .page pfn := by
  have wild := retrievePage_wild outcome pageNumber client
  refine ⟨?_, by rw [wild]; exact PagePtr.noConfusion, ?_⟩
  · intro truthful
    by_cases succeeds : outcome.succeeds pageNumber
    · obtain ⟨pfn, page, -⟩ := truthful.success.mpr succeeds
      rw [wild] at page
      cases page
    · have null := truthful.failure succeeds
      rw [wild] at null
      cases null
  · intro pfn page
    rw [wild] at page
    cases page

private def oneReply : Retrieval Unit :=
  ⟨0, 14, 14, fun i => ⟨4096, (), some i⟩⟩

private def unusedClient : Client Unit :=
  ⟨⟨fun i => ⟨.invalid, i⟩, 250, fun _ => (), ∅, false⟩, 0, 0⟩

/-- The retrieval of one page, of which nothing fails. -/
theorem retrievePage_reports_failure :
    ¬∀ (outcome : Retrieval Unit) (pageNumber : Int32)
      (client : Client Unit),
        RetrievesTruthfully outcome pageNumber client := by
  intro claim
  have truthful := claim oneReply 1 unusedClient
  have succeeds : oneReply.succeeds 1 := by
    refine ⟨by decide, by decide, by decide, ?_⟩
    intro i _
    exact ⟨Int.natCast_nonneg 4096, Option.some_ne_none i⟩
  obtain ⟨pfn, page, -⟩ := truthful.success.mpr succeeds
  have wild : (retrievePage oneReply 1 unusedClient).1 = .wild (-1) := rfl
  rw [wild] at page
  cases page

inductive ZoneKind where
  | normal
  | devicePrivate
  | deviceCoherent
  | otherZoneDevice
  deriving DecidableEq, Repr

/-- The part of `struct migrate_vma` that the step reads. -/
structure MigrateVma where
  start : UInt64
  faultPage : PagePtr

/-- The caller's arguments and what the kernel answers for each slot:
the result of `migrate_folio` or `migrate_folio_extra`, and whether
`migrate_vma_insert_page` inserts the page. -/
structure MigrateEnv (Contents : Type) where
  dst : Nat → UInt64
  migrate : Option MigrateVma
  retrieval : Nat → Retrieval Contents
  mapped : Nat → Bool
  zone : Nat → ZoneKind
  folio : Nat → Int
  inserts : Nat → Bool

inductive Action where
  | migrateFolio (slot page newpage : Nat) (noRefs : Bool)
  | insertPage (slot : Nat) (addr : UInt64) (newpage : Nat)
  deriving DecidableEq, Repr

def Action.slot : Action → Nat
  | migrateFolio slot _ _ _ => slot
  | insertPage slot _ _ => slot

structure MigrateState (Contents : Type) where
  src : Nat → UInt64
  notified : Bool
  client : Client Contents
  actions : List Action

inductive Oops where
  | bugOn
  | badPointer
  deriving DecidableEq, Repr

namespace MigrateState

def setSrc (state : MigrateState Contents) (slot : Nat) (mpfn : UInt64) :
    MigrateState Contents :=
  { state with src := Function.update state.src slot mpfn }

def clear (state : MigrateState Contents) (slot : Nat) :
    MigrateState Contents :=
  state.setSrc slot (clearMigrate (state.src slot))

def perform (state : MigrateState Contents) (action : Action) :
    MigrateState Contents :=
  { state with actions := state.actions ++ [action] }

end MigrateState

def pageSize : UInt64 := 4096

/-- `migrate_vma_insert_page`: the source word becomes
`MIGRATE_PFN_MIGRATE`, or loses that flag. -/
def migrateVmaInsertPage (inserted : Bool) (slot : Nat)
    (state : MigrateState Contents) : MigrateState Contents :=
  if inserted then state.setSrc slot migratePfnMigrate else state.clear slot

/-- The branch for a slot without a source page. -/
def migrateHole (env : MigrateEnv Contents) (slot newpage : Nat)
    (state : MigrateState Contents) : MigrateState Contents × Option Oops :=
  if migrating (state.src slot) = false then (state, none)
  else
    match env.migrate with
    | none => (state, some .bugOn)
    | some migrate =>
        let addr := migrate.start + slot.toUInt64 * pageSize
        let notified := { state with notified := true }
        (migrateVmaInsertPage (env.inserts slot) slot
          (notified.perform (.insertPage slot addr newpage)), none)

/-- The branch for a slot with a source page. -/
def migrateFolioSlot (env : MigrateEnv Contents) (slot page newpage : Nat)
    (state : MigrateState Contents) : MigrateState Contents :=
  let zone := env.zone newpage
  if (zone = .devicePrivate ∨ zone = .deviceCoherent) ∧
      env.mapped page = true then state.clear slot
  else if zone = .otherZoneDevice then state.clear slot
  else
    let extra := env.migrate.any fun migrate =>
      migrate.faultPage = .page page
    let migrated := state.perform (.migrateFolio slot page newpage extra)
    if env.folio slot ≠ 0 then migrated.clear slot else migrated

/-- One pass of the loop of `__migrate_device_pages`.  `page_mapping` reads
the struct page it is given. -/
def migrateDevicePagesOne (env : MigrateEnv Contents) (slot : Nat)
    (state : MigrateState Contents) : MigrateState Contents × Option Oops :=
  let retrieved := retrievePage (env.retrieval slot)
    (state.src slot).toUInt32.toInt32 state.client
  let state := { state with client := retrieved.2 }
  match migratePfnToPage (env.dst slot), retrieved.1 with
  | .page newpage, .null => migrateHole env slot newpage state
  | .page newpage, .page page =>
      (migrateFolioSlot env slot page newpage state, none)
  | .page _, .wild _ => (state, some .badPointer)
  | _, _ => (state.clear slot, none)

def migrateDevicePages (env : MigrateEnv Contents) (npages : Nat)
    (state : MigrateState Contents) : MigrateState Contents × Option Oops :=
  RangeLoop.forRange (migrateDevicePagesOne env) npages 0 state

/-- The source page of a slot in `migrate_device_finalize`. -/
def migrateDeviceFinalizePage (src : UInt64) : PagePtr :=
  migratePfnToPage src

/-- What the migration step has to have done with a slot: `src` is its
source word before and `src'` after it. -/
structure SlotMigrated (env : MigrateEnv Contents) (slot : Nat)
    (src src' : UInt64) (retrieved : Prop) (actions : List Action) : Prop where
  source : ∀ page newpage noRefs,
    .migrateFolio slot page newpage noRefs ∈ actions →
      migrateDeviceFinalizePage src' = .page page ∧
        migratePfnToPage (env.dst slot) = .page newpage
  inserted : (∃ addr newpage, .insertPage slot addr newpage ∈ actions) ↔
    migratePfnToPage (env.dst slot) ≠ .null ∧
      migratePfnToPage src = .null ∧ migrating src = true
  succeeded : migratePfnToPage (env.dst slot) ≠ .null →
    (migrating src' = true ↔
      (∃ page newpage noRefs,
        .migrateFolio slot page newpage noRefs ∈ actions ∧
          env.folio slot = 0) ∨
      (∃ addr newpage,
        .insertPage slot addr newpage ∈ actions ∧ env.inserts slot = true))
  refused : (migratePfnToPage (env.dst slot) = .null ∨
      (migratePfnToPage src ≠ .null ∧ ¬ retrieved)) →
    migrating src' = false ∧ ∀ action ∈ actions, action.slot ≠ slot

/-- The arrays as the step finds them. -/
def MigrateState.start (src : Nat → UInt64) (client : Client Contents) :
    MigrateState Contents :=
  { src := src, notified := false, client := client, actions := [] }

/-- The step returns and has treated every slot as its words say. -/
def NamedPagesMigrated (env : MigrateEnv Contents) (npages : Nat)
    (src : Nat → UInt64) (client : Client Contents) : Prop :=
  ∃ final,
    migrateDevicePages env npages (.start src client) = (final, none) ∧
      ∀ slot, slot < npages →
        SlotMigrated env slot (src slot) (final.src slot)
          ((env.retrieval slot).succeeds (src slot).toUInt32.toInt32)
          final.actions

variable (env : MigrateEnv Contents)

theorem migrateDevicePagesOne_destination (slot : Nat)
    (state : MigrateState Contents)
    (continues : (migrateDevicePagesOne env slot state).2 = none) :
    migratePfnToPage (env.dst slot) = .null := by
  cases destination : migratePfnToPage (env.dst slot) with
  | null => rfl
  | page newpage =>
      have wild := retrievePage_wild (env.retrieval slot)
        (state.src slot).toUInt32.toInt32 state.client
      simp [migrateDevicePagesOne, destination, wild] at continues
  | wild address =>
      unfold migratePfnToPage at destination
      split at destination <;> cases destination

theorem migrateDevicePagesOne_null (slot : Nat) (state : MigrateState Contents)
    (nowhere : migratePfnToPage (env.dst slot) = .null) :
    (migrateDevicePagesOne env slot state).2 = none ∧
      (migrateDevicePagesOne env slot state).1.src =
        Function.update state.src slot (clearMigrate (state.src slot)) ∧
      (migrateDevicePagesOne env slot state).1.actions = state.actions := by
  have outcome : migrateDevicePagesOne env slot state =
      (({ state with
          client := (retrievePage (env.retrieval slot)
            (state.src slot).toUInt32.toInt32 state.client).2 } :
          MigrateState Contents).clear slot, none) := by
    simp [migrateDevicePagesOne, nowhere]
  rw [outcome]
  exact ⟨rfl, rfl, rfl⟩

theorem migrateDevicePages_null (npages : Nat) (src : Nat → UInt64)
    (client : Client Contents)
    (nowhere : ∀ slot, slot < npages →
      migratePfnToPage (env.dst slot) = .null) :
    (migrateDevicePages env npages (.start src client)).2 = none ∧
      (∀ slot, slot < npages →
        (migrateDevicePages env npages (.start src client)).1.src slot =
          clearMigrate (src slot)) ∧
      (migrateDevicePages env npages (.start src client)).1.actions = [] := by
  have loop := RangeLoop.forRange_complete
    (fun passed state =>
      (∀ slot, slot < passed → state.src slot = clearMigrate (src slot)) ∧
        (∀ slot, passed ≤ slot → state.src slot = src slot) ∧
        state.actions = [])
    (migrateDevicePagesOne env) npages 0 (.start src client)
  have run := loop ⟨fun slot before => absurd before (Nat.not_lt_zero slot),
    fun slot _ => rfl, rfl⟩ (by
      intro slot state _ within held
      obtain ⟨passed, ahead, untouched⟩ := held
      obtain ⟨continues, written, actions⟩ :=
        migrateDevicePagesOne_null env slot state (nowhere slot (by omega))
      refine ⟨continues, ?_, ?_, actions.trans untouched⟩
      · intro earlier before
        rw [written]
        by_cases here : earlier = slot
        · rw [here, Function.update_self, ahead slot (Nat.le_refl slot)]
        · rw [Function.update_of_ne here]
          exact passed earlier (by omega)
      · intro later after
        rw [written, Function.update_of_ne (by omega)]
        exact ahead later (by omega))
  obtain ⟨continues, passed, _, untouched⟩ := run
  exact ⟨continues, fun slot within => passed slot (by omega), untouched⟩

/-- The migration step does its work exactly when no slot has a destination:
the pointer that `retrieve_page` returns is never a page. -/
theorem migrateDevicePages_named_iff (npages : Nat) (src : Nat → UInt64)
    (client : Client Contents) :
    NamedPagesMigrated env npages src client ↔
      ∀ slot, slot < npages → migratePfnToPage (env.dst slot) = .null := by
  constructor
  · intro migrated slot within
    obtain ⟨final, returned, _⟩ := migrated
    have ended : (migrateDevicePages env npages (.start src client)).2 =
        none := by rw [returned]
    obtain ⟨state, continues⟩ :=
      RangeLoop.forRange_passes ended slot (Nat.zero_le slot) (by omega)
    exact migrateDevicePagesOne_destination env slot state continues
  · intro nowhere
    obtain ⟨ended, cleared, actions⟩ :=
      migrateDevicePages_null env npages src client nowhere
    refine ⟨(migrateDevicePages env npages (.start src client)).1, ?_, ?_⟩
    · rw [← ended]
    · intro slot within
      have destination := nowhere slot within
      rw [cleared slot within, actions]
      constructor
      · intro page newpage noRefs performed
        cases performed
      · simp [destination]
      · intro valid
        exact absurd destination valid
      · intro _
        exact ⟨migrating_clearMigrate _, fun action performed =>
          nomatch performed⟩

/-- The page of frame 5, which is to migrate to frame 9 and is retrieved
without any failure. -/
theorem migrateDevicePages_not_named :
    ¬ NamedPagesMigrated
      ({ dst := fun _ => 577
         migrate := some ⟨0, .null⟩
         retrieval := fun _ => ⟨0, 0, 0, fun i => ⟨4096, (), some i⟩⟩
         mapped := fun _ => false
         zone := fun _ => .devicePrivate
         folio := fun _ => 0
         inserts := fun _ => true } : MigrateEnv Unit)
      1 (fun _ => 323)
      ⟨⟨fun i => ⟨.invalid, i⟩, 250, fun _ => (), ∅, false⟩, 0, 0⟩ := by
  intro migrated
  obtain ⟨final, returned, _⟩ := migrated
  have ended := congrArg Prod.snd returned
  unfold migrateDevicePages at ended
  obtain ⟨state, continues⟩ :=
    RangeLoop.forRange_passes ended 0 (Nat.le_refl 0) Nat.one_pos
  have nowhere := migrateDevicePagesOne_destination _ 0 state continues
  exact absurd nowhere (by decide)

end Rshm.Mm
