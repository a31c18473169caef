import Rshm.Hmm.ModuleLoad

/-!
# What a load leaves behind

The devices in front of the one that fails are removed, and that one only if
it has not been added: the undo loop starts below it, and
`dmirror_device_init` does not take back the registration of the device when
`dmirror_allocate_chunk` fails.
-/

namespace Rshm.Hmm.Load

namespace Driver

variable {driver next : Driver} {id : Nat} {rest : List Held}

theorem growChunks_fresh (driver : Driver)
    (sane : (driver.devices id).Sane)
    (array : (driver.devices id).devmemChunks = none) (krealloc : Bool) :
    driver.growChunks id krealloc = none ↔ krealloc = false := by
  have full : (driver.devices id).devmemCount =
      (driver.devices id).devmemCapacity := by
    rw [sane array]
    unfold DmirrorDevice.devmemCount
    rw [array]
    rfl
  unfold growChunks
  dsimp only
  rw [if_pos full]
  cases krealloc with
  | false => simp
  | true => simp

theorem dmirrorAllocateChunk_ret (driver : Driver)
    (sane : (driver.devices id).Sane)
    (array : (driver.devices id).devmemChunks = none) (verbs : ChunkVerbs) :
    (dmirrorAllocateChunk verbs id driver).1 = 0 ↔ ¬verbs.Fails := by
  have first (krealloc : Bool) :=
    growChunks_fresh driver.withRegion sane array krealloc
  have allocated := dmirrorAllocateChunk_allocated verbs id driver
  generalize dmirrorAllocateChunk verbs id driver = result at allocated
  unfold ChunkVerbs.Fails
  cases allocated with
  | kzalloc => simp
  | request failed => simp [failed]
  | krealloc failed => simp [(first _).mp failed]
  | memremap grew failed error => simp [failed, error]
  | @done krealloc grown grew =>
      have grows : krealloc = true := by
        cases krealloc with
        | false =>
            rw [(first false).mpr rfl] at grew
            cases grew
        | true => rfl
      simp [grows]

/-- `dmirror_device_init` of a device without an array. -/
inductive Initialised (verbs : DeviceVerbs) (id : Nat) (driver : Driver)
    (rest : List Held) : Int × Driver → Prop where
  | refused {ret : Int} (refused : verbs.Refused) (error : ret ≠ 0) :
      Initialised verbs id driver rest (ret, driver)
  | half {ret : Int} {next : Driver} (half : verbs.Half) (error : ret ≠ 0)
      (holding : next.ledger.Holding
        ((next.devices id).held id ++ (.cdev id :: rest)))
      (sane : next.AllSane) (elsewhere : Elsewhere id driver next) :
      Initialised verbs id driver rest (ret, next)
  | works {next : Driver} (works : verbs.Works)
      (holding : next.ledger.Holding
        ((next.devices id).held id ++ (.cdev id :: rest)))
      (sane : next.AllSane) (elsewhere : Elsewhere id driver next) :
      Initialised verbs id driver rest (0, next)

theorem dmirrorDeviceInit_initialised (verbs : DeviceVerbs)
    (holding : driver.ledger.Holding rest) (sane : driver.AllSane)
    (array : (driver.devices id).devmemChunks = none) :
    Initialised verbs id driver rest (dmirrorDeviceInit verbs id driver) := by
  unfold dmirrorDeviceInit
  by_cases named : verbs.devSetName = 0
  · by_cases added : verbs.cdevDeviceAdd = 0
    · rw [if_neg (not_not.mpr named), if_neg (not_not.mpr added)]
      have accepted : ¬verbs.Refused := by
        unfold DeviceVerbs.Refused
        rw [not_or]
        exact ⟨not_not.mpr named, not_not.mpr added⟩
      have start : (driver.acquire (.cdev id)).ledger.Holding
          (((driver.acquire (.cdev id)).devices id).held id ++
            (.cdev id :: rest)) := by
        rw [acquire_devices, DmirrorDevice.held_none array]
        exact holding.acquire
      have ret := dmirrorAllocateChunk_ret (driver.acquire (.cdev id))
        (sane id) array verbs.allocateChunk
      have after := dmirrorAllocateChunk_holding verbs.allocateChunk start
        sane
      generalize dmirrorAllocateChunk verbs.allocateChunk id
        (driver.acquire (.cdev id)) = result at ret after
      obtain ⟨ret_, next⟩ := result
      obtain ⟨next_holding, next_sane, elsewhere⟩ := after
      have whole := (Elsewhere.refl.acquire (.cdev id)).trans elsewhere
      by_cases fails : verbs.allocateChunk.Fails
      · apply Initialised.half ⟨accepted, fails⟩ _ next_holding next_sane
          whole
        intro zero
        exact ret.mp zero fails
      · obtain rfl : ret_ = 0 := ret.mpr fails
        exact .works ⟨accepted, fails⟩ next_holding next_sane whole
    · rw [if_neg (not_not.mpr named), if_pos added]
      exact .refused (.inr added) added
  · rw [if_pos named]
    exact .refused (.inl named) named

theorem heldBy_succ (driver : Driver) (id : Nat) :
    (driver.heldBy (List.range (id + 1))).Perm
      ((driver.devices id).held id ++
        (.cdev id :: driver.heldBy (List.range id))) := by
  rw [← heldBy_cons]
  apply heldBy_perm
  rw [List.range_succ]
  exact List.perm_append_singleton id _

/-- Where the loop of `rshm_init` stops. -/
inductive Looped (verbs : Nat → DeviceVerbs) (first stop : Nat)
    (driver : Driver) (rest : List Held) : Int × Nat × Driver → Prop where
  | refused {ret : Int} {id : Nat} {next : Driver} (inside : id < stop)
      (before : ∀ other, first ≤ other → other < id → (verbs other).Works)
      (refused : (verbs id).Refused) (error : ret ≠ 0)
      (holding : next.ledger.Holding (next.heldBy (List.range id) ++ rest))
      (sane : next.AllSane) :
      Looped verbs first stop driver rest (ret, id, next)
  | half {ret : Int} {id : Nat} {next : Driver} (inside : id < stop)
      (before : ∀ other, first ≤ other → other < id → (verbs other).Works)
      (half : (verbs id).Half) (error : ret ≠ 0)
      (holding : next.ledger.Holding
        (next.heldBy (List.range (id + 1)) ++ rest))
      (sane : next.AllSane) :
      Looped verbs first stop driver rest (ret, id, next)
  | finished {next : Driver}
      (works : ∀ other, first ≤ other → other < stop → (verbs other).Works)
      (holding : next.ledger.Holding (next.heldBy (List.range stop) ++ rest))
      (sane : next.AllSane)
      (types : ∀ other, (next.devices other).zoneDeviceType =
        (driver.devices other).zoneDeviceType) :
      Looped verbs first stop driver rest (0, stop, next)

theorem initDevices_looped (verbs : Nat → DeviceVerbs) (left id : Nat)
    (holding : driver.ledger.Holding
      (driver.heldBy (List.range id) ++ rest))
    (sane : driver.AllSane)
    (arrays : ∀ other, id ≤ other →
      (driver.devices other).devmemChunks = none) :
    Looped verbs id (id + left) driver rest
      (initDevices verbs left id driver) := by
  induction left generalizing driver id with
  | zero =>
      apply Looped.finished
      · intro other lower upper
        omega
      · exact holding
      · exact sane
      · intro other
        rfl
  | succ left induction =>
      have initialised := dmirrorDeviceInit_initialised (verbs id) holding
        sane (arrays id (Nat.le_refl _))
      rw [initDevices]
      generalize dmirrorDeviceInit (verbs id) id driver = result at initialised
      have last (next : Driver) (elsewhere : Elsewhere id driver next)
          (held : next.ledger.Holding ((next.devices id).held id ++
            (.cdev id :: (driver.heldBy (List.range id) ++ rest)))) :
          next.ledger.Holding
            (next.heldBy (List.range (id + 1)) ++ rest) := by
        apply held.perm
        have same : next.heldBy (List.range id) =
            driver.heldBy (List.range id) :=
          heldBy_elsewhere elsewhere (by simp)
        have appended := (heldBy_succ next id).symm.append_right rest
        rw [same, List.append_assoc] at appended
        exact appended
      cases initialised with
      | refused refused error =>
          dsimp only
          rw [if_pos error]
          apply Looped.refused
          · omega
          · intro other lower upper
            omega
          · exact refused
          · exact error
          · exact holding
          · exact sane
      | half half error holding' sane' elsewhere =>
          dsimp only
          rw [if_pos error]
          apply Looped.half
          · omega
          · intro other lower upper
            omega
          · exact half
          · exact error
          · exact last _ elsewhere holding'
          · exact sane'
      | @works next works holding' sane' elsewhere =>
          have arrays' (other : Nat) (later : id + 1 ≤ other) :
              (next.devices other).devmemChunks = none := by
            rw [elsewhere.same other (by omega)]
            exact arrays other (by omega)
          have looped := induction (id + 1) (last _ elsewhere holding') sane'
            arrays'
          have stop : id + 1 + left = id + (left + 1) := by omega
          rw [stop] at looped
          have start (other : Nat) (lower : id ≤ other)
              (rest : id + 1 ≤ other → (verbs other).Works) :
              (verbs other).Works := by
            rcases Nat.eq_or_lt_of_le lower with rfl | later
            · exact works
            · exact rest later
          dsimp only
          rw [if_neg (not_not.mpr rfl)]
          generalize initDevices verbs left (id + 1) next = result at looped
          cases looped with
          | refused inside before refused error holding' sane' =>
              apply Looped.refused inside _ refused error holding' sane'
              intro other lower upper
              exact start other lower fun later => before other later upper
          | half inside before half error holding' sane' =>
              apply Looped.half inside _ half error holding' sane'
              intro other lower upper
              exact start other lower fun later => before other later upper
          | finished before holding' sane' types =>
              apply Looped.finished _ holding' sane'
              · intro other
                exact (types other).trans (elsewhere.types other)
              · intro other lower upper
                exact start other lower fun later => before other later upper

theorem dmirrorDeviceRemove_holding
    (holding : driver.ledger.Holding
      ((driver.devices id).held id ++ (.cdev id :: rest)))
    (sane : driver.AllSane) :
    let next := dmirrorDeviceRemove id driver
    next.ledger.Holding rest ∧ next.AllSane ∧ Elsewhere id driver next := by
  obtain ⟨removed, -, removed_sane, elsewhere⟩ :=
    dmirrorDeviceRemoveChunks_holding holding sane
  exact ⟨removed.release, removed_sane, elsewhere.releaseAll _⟩

theorem removeDevices_holding (id : Nat)
    (holding : driver.ledger.Holding
      (driver.heldBy (List.range id) ++ rest)) (sane : driver.AllSane) :
    (removeDevices id driver).ledger.Holding rest := by
  induction id generalizing driver with
  | zero => exact holding
  | succ id induction =>
      have last := holding.perm ((heldBy_succ driver id).append_right rest)
      rw [List.append_assoc] at last
      obtain ⟨removed, removed_sane, elsewhere⟩ :=
        dmirrorDeviceRemove_holding last sane
      have same := heldBy_elsewhere elsewhere
        (show id ∉ List.range id by simp)
      rw [removeDevices]
      apply induction _ removed_sane
      rw [same]
      exact removed

/-- The loop of `rshm_exit` removes the devices that have a type. -/
theorem exitDevices_holding (ids : List Nat) (ndevices : Nat)
    (distinct : ids.Nodup)
    (types : ∀ id, (driver.devices id).zoneDeviceType ≠ 0 ↔ id < ndevices)
    (holding : driver.ledger.Holding
      (driver.heldBy (ids.filter (· < ndevices)) ++ rest))
    (sane : driver.AllSane) :
    (ids.foldl exitDevice driver).ledger.Holding rest := by
  induction ids generalizing driver with
  | nil => exact holding
  | cons id ids induction =>
      rw [List.nodup_cons] at distinct
      rw [List.foldl_cons]
      unfold exitDevice
      by_cases typed : id < ndevices
      · rw [if_pos ((types id).mpr typed)]
        rw [List.filter_cons_of_pos (by simpa using typed), heldBy_cons,
          List.append_assoc, List.cons_append] at holding
        obtain ⟨removed, removed_sane, elsewhere⟩ :=
          dmirrorDeviceRemove_holding holding sane
        have outside : id ∉ ids.filter (· < ndevices) := by
          intro member
          exact distinct.1 (List.mem_of_mem_filter member)
        apply induction distinct.2 _ _ removed_sane
        · intro other
          rw [elsewhere.types]
          exact types other
        · rw [heldBy_elsewhere elsewhere outside]
          exact removed
      · rw [if_neg (mt (types id).mp typed)]
        rw [List.filter_cons_of_neg (by simpa using typed)] at holding
        exact induction distinct.2 types holding sane

end Driver

/-- What the users of a device do that the devices' chunks depend on: migrate
to a device without a free page, or issue `HMM_DMIRROR_RELEASE`. -/
inductive Use where
  | allocateChunk (id : Nat) (verbs : ChunkVerbs)
  | removeChunks (id : Nat)
  deriving DecidableEq, Repr

def Use.id : Use → Nat
  | allocateChunk id _ => id
  | removeChunks id => id

namespace Driver

variable {driver next : Driver} {id : Nat} {rest : List Held}

def use (driver : Driver) : Use → Driver
  | .allocateChunk id verbs => (dmirrorAllocateChunk verbs id driver).2
  | .removeChunks id => dmirrorDeviceRemoveChunks id driver

/-- The devices of the loaded module hold what they have taken. -/
structure LoadedWith (ndevices : Nat) (rest : List Held) (driver : Driver) :
    Prop where
  holding : driver.ledger.Holding
    (driver.heldBy (List.range ndevices) ++ rest)
  sane : driver.AllSane
  types : ∀ id, (driver.devices id).zoneDeviceType ≠ 0 ↔ id < ndevices

theorem heldBy_split (driver : Driver) {ids : List Nat} (member : id ∈ ids) :
    (driver.heldBy ids).Perm ((driver.devices id).held id ++
      (.cdev id :: driver.heldBy (ids.erase id))) := by
  rw [← heldBy_cons]
  exact heldBy_perm (List.perm_cons_erase member)

theorem LoadedWith.use {ndevices : Nat}
    (loaded : driver.LoadedWith ndevices rest) (use : Use)
    (registered : use.id < ndevices) :
    (driver.use use).LoadedWith ndevices rest := by
  have member : use.id ∈ List.range ndevices := List.mem_range.mpr registered
  have outside : use.id ∉ (List.range ndevices).erase use.id :=
    List.nodup_range.not_mem_erase
  have split := loaded.holding.perm
    ((heldBy_split driver member).append_right rest)
  rw [List.append_assoc, List.cons_append] at split
  have joined (next : Driver) (elsewhere : Elsewhere use.id driver next)
      (held : next.ledger.Holding ((next.devices use.id).held use.id ++
        (.cdev use.id :: (driver.heldBy ((List.range ndevices).erase use.id) ++
          rest)))) (sane : next.AllSane) :
      next.LoadedWith ndevices rest := by
    refine ⟨?_, sane, ?_⟩
    · apply held.perm
      have whole := (heldBy_split next member).symm.append_right
        rest
      rw [heldBy_elsewhere elsewhere outside, List.append_assoc] at whole
      exact whole
    · intro id
      rw [elsewhere.types]
      exact loaded.types id
  cases use with
  | allocateChunk id verbs =>
      obtain ⟨held, sane, elsewhere⟩ :=
        dmirrorAllocateChunk_holding verbs split loaded.sane
      exact joined _ elsewhere held sane
  | removeChunks id =>
      obtain ⟨held, array, sane, elsewhere⟩ :=
        dmirrorDeviceRemoveChunks_holding split loaded.sane
      apply joined _ elsewhere _ sane
      have none_ : ((driver.use (.removeChunks id)).devices id).held id = [] :=
        DmirrorDevice.held_none array
      show Ledger.Holding _ (((driver.use (.removeChunks id)).devices id).held
        id ++ _)
      rw [none_]
      exact held

theorem LoadedWith.uses {ndevices : Nat}
    (loaded : driver.LoadedWith ndevices rest) (uses : List Use)
    (registered : ∀ use ∈ uses, use.id < ndevices) :
    (uses.foldl Driver.use driver).LoadedWith ndevices rest := by
  induction uses generalizing driver with
  | nil => exact loaded
  | cons use uses induction =>
      rw [List.forall_mem_cons] at registered
      exact induction (loaded.use use registered.1) registered.2

/-- `rshm_exit` releases everything. -/
theorem LoadedWith.rshmExit {config : Config}
    (loaded : driver.LoadedWith config.ndevices [.chrdevRegion]) :
    (driver.rshmExit config).ledger.Balanced := by
  have typed : ((List.range config.slots).filter
      (· < config.ndevices)).Perm (List.range config.ndevices) := by
    apply (List.perm_ext_iff_of_nodup _ List.nodup_range).mpr
    · intro id
      have within := config.within
      simp only [List.mem_filter, List.mem_range, decide_eq_true_eq]
      omega
    · exact List.nodup_range.filter _
  have holding := loaded.holding.perm
    ((heldBy_perm typed).symm.append_right _)
  have exited := exitDevices_holding _ _ List.nodup_range loaded.types
    holding loaded.sane
  have released : (driver.rshmExit config).ledger.Holding [] :=
    exited.release
  exact released.balanced_iff.mpr rfl

end Driver

open Driver

/-- A load that fails leaves nothing, and what a load leaves that does not
fail is released by `rshm_exit`, whatever the devices are used for. -/
structure LoadClean (config : Config) (verbs : LoadVerbs) : Prop where
  undone : (rshmInit config verbs fresh).1 ≠ 0 →
    (rshmInit config verbs fresh).2.ledger.Balanced
  unloaded : (rshmInit config verbs fresh).1 = 0 →
    ∀ uses : List Use, (∀ use ∈ uses, use.id < config.ndevices) →
      ((uses.foldl Driver.use (rshmInit config verbs fresh).2).rshmExit
        config).ledger.Balanced

/-- The loop stops at a device that has been added. -/
def Interrupted (config : Config) (verbs : LoadVerbs) : Prop :=
  verbs.allocChrdevRegion = 0 ∧
    ∃ id, id < config.ndevices ∧
      (∀ other, other < id → (verbs.devices other).Works) ∧
      (verbs.devices id).Half

/-- The state in which the loop of `rshm_init` starts. -/
def looping (config : Config) : Driver :=
  (fresh.acquire .chrdevRegion).clearDevices config

theorem rshmInit_looped (config : Config) (verbs : LoadVerbs)
    (registered : verbs.allocChrdevRegion = 0) :
    ∃ result, Looped verbs.devices 0 config.ndevices (looping config)
        [.chrdevRegion] result ∧
      rshmInit config verbs fresh =
        if result.1 ≠ 0 then
          (result.1, (removeDevices result.2.1 result.2.2).releaseAll
            [.chrdevRegion])
        else (0, result.2.2) := by
  have holding : (looping config).ledger.Holding
      ((looping config).heldBy (List.range 0) ++ [.chrdevRegion]) :=
    Ledger.holding_empty.acquire
  have looped := initDevices_looped verbs.devices config.ndevices 0 holding
    (fun _ _ => rfl) (fun _ _ => rfl)
  rw [Nat.zero_add] at looped
  refine ⟨_, looped, ?_⟩
  unfold rshmInit
  rw [if_neg (not_not.mpr registered)]
  rfl

theorem looping_types (config : Config) (id : Nat) :
    ((looping config).devices id).zoneDeviceType ≠ 0 ↔
      id < config.ndevices := by
  show (if id < config.ndevices then 1 else 0) ≠ 0 ↔ _
  by_cases inside : id < config.ndevices
  · simp [inside]
  · simp [inside]

/-- A device that has been added without getting a chunk is left behind, and
nothing else is. -/
theorem load_clean_iff (config : Config) (verbs : LoadVerbs) :
    LoadClean config verbs ↔ ¬Interrupted config verbs := by
  by_cases registered : verbs.allocChrdevRegion = 0
  · obtain ⟨result, looped, eq⟩ := rshmInit_looped config verbs registered
    have undo {stop : Nat} {next : Driver} {rest : List Held}
        (holding : next.ledger.Holding (next.heldBy (List.range stop) ++
          (.chrdevRegion :: rest))) (sane : next.AllSane) :
        ((removeDevices stop next).releaseAll
          [.chrdevRegion]).ledger.Holding rest := by
      have removed := removeDevices_holding stop holding sane
      exact removed.release
    cases looped with
    | @refused ret id next inside before refused error holding sane =>
        rw [if_pos error] at eq
        have whole : ¬Interrupted config verbs := by
          rintro ⟨-, other, -, works, half⟩
          rcases Nat.lt_trichotomy id other with less | rfl | greater
          · exact (works id less).1 refused
          · exact half.1 refused
          · exact (before other (Nat.zero_le _) greater).2 half.2
        refine ⟨fun _ => whole, fun _ => ⟨?_, ?_⟩⟩
        · intro _
          rw [eq]
          exact (Ledger.Holding.balanced_iff (undo holding sane)).mpr rfl
        · intro success
          rw [eq] at success
          exact absurd success error
    | @half ret id next inside before half error holding sane =>
        rw [if_pos error] at eq
        have interrupted : Interrupted config verbs :=
          ⟨registered, id, inside,
            fun other less => before other (Nat.zero_le _) less, half⟩
        refine ⟨?_, fun whole => absurd interrupted whole⟩
        intro clean
        have balanced := clean.undone (by rw [eq]; exact error)
        rw [eq] at balanced
        -- The device and what it holds are not among those removed.
        have split : (next.heldBy (List.range (id + 1)) ++
            [Held.chrdevRegion]).Perm (next.heldBy (List.range id) ++
              (Held.chrdevRegion :: ((next.devices id).held id ++
                [Held.cdev id]))) := by
          have moved := heldBy_succ next id
          rw [List.append_cons] at moved
          have whole := (moved.trans List.perm_append_comm).append_right
            [Held.chrdevRegion]
          rw [List.append_assoc (next.heldBy _)] at whole
          exact whole.trans
            ((List.perm_append_singleton _ _).append_left _)
        have left := (Ledger.Holding.balanced_iff
          (undo (holding.perm split) sane)).mp balanced
        exact absurd left
          (List.append_ne_nil_of_right_ne_nil _ (List.cons_ne_nil _ _))
    | finished works holding sane types =>
        rw [if_neg (not_not.mpr rfl)] at eq
        have whole : ¬Interrupted config verbs := by
          rintro ⟨-, other, inside, -, half⟩
          exact (works other (Nat.zero_le _) inside).2 half.2
        refine ⟨fun _ => whole, fun _ => ⟨?_, ?_⟩⟩
        · intro failure
          rw [eq] at failure
          exact absurd rfl failure
        · intro _ uses used
          rw [eq]
          apply LoadedWith.rshmExit
          apply LoadedWith.uses _ uses used
          refine ⟨holding, sane, ?_⟩
          intro id
          rw [types]
          exact looping_types config id
  · have eq : rshmInit config verbs fresh =
        (verbs.allocChrdevRegion, fresh) := by
      unfold rshmInit
      exact if_pos registered
    refine ⟨fun _ interrupted => registered interrupted.1, fun _ => ⟨?_, ?_⟩⟩
    · intro _
      rw [eq]
      exact (Ledger.Holding.balanced_iff Ledger.holding_empty).mpr rfl
    · intro success
      rw [eq] at success
      exact absurd success registered

/-- Two devices; the memory of the first one cannot be mapped. -/
private def unmapped : LoadVerbs :=
  ⟨0, fun _ => ⟨0, 0, ⟨true, .address, true, .error 11⟩⟩⟩

private def twoOfFour : Config where
  slots := 4
  ndevices := 2
  within := Nat.le_of_ble_eq_true rfl

theorem load_leaves_cdev : ¬∀ config verbs, LoadClean config verbs := by
  intro claim
  have balanced := (claim twoOfFour unmapped).undone (by decide)
  have even := Ledger.balanced_iff_count.mp balanced (.cdev 0)
  revert even
  decide

end Rshm.Hmm.Load
