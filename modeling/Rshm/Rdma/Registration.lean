import Mathlib.Algebra.Order.Group.Nat
import Mathlib.Data.Finset.Card
import Mathlib.Order.Interval.Finset.Nat

/-!
# The page list of the memory region

`nmsg_setup_buffers` has a memory region allocated whose page list is as long
as a message has pages, and `nmsg_rdma_rkey` has the buffer of the message
mapped into it.  The length is computed from the size alone, the pages are
those of the addresses.
-/

namespace Rshm.Rdma

/-- The pages that hold the bytes of `[addr, addr + len)`. -/
def pagesSpanned (page addr len : Nat) : Finset Nat :=
  (Finset.Ico addr (addr + len)).image (· / page)

theorem mem_pagesSpanned {page addr len q : Nat} :
    q ∈ pagesSpanned page addr len ↔
      ∃ a, (addr ≤ a ∧ a < addr + len) ∧ a / page = q := by
  unfold pagesSpanned
  rw [Finset.mem_image]
  simp only [Finset.mem_Ico]

theorem pagesSpanned_aligned {page addr len : Nat} (positive : 0 < page)
    (aligned : addr % page = 0) (nonempty : 0 < len) :
    pagesSpanned page addr len =
      Finset.Ico (addr / page) (addr / page + ((len - 1) / page + 1)) := by
  have start : addr = page * (addr / page) := by
    have split := Nat.div_add_mod addr page
    rw [aligned, Nat.add_zero] at split
    exact split.symm
  generalize addr / page = first at start
  subst start
  ext q
  rw [mem_pagesSpanned, Finset.mem_Ico]
  constructor
  · rintro ⟨a, ⟨lower, upper⟩, rfl⟩
    obtain ⟨offset, rfl⟩ := Nat.exists_eq_add_of_le lower
    have last : offset / page ≤ (len - 1) / page :=
      Nat.div_le_div_right (by omega)
    rw [Nat.mul_add_div positive]
    exact ⟨Nat.le_add_right _ _,
      Nat.add_lt_add_left (Nat.lt_succ_of_le last) first⟩
  · rintro ⟨lower, upper⟩
    obtain ⟨index, rfl⟩ := Nat.exists_eq_add_of_le lower
    have inside : page * index ≤ len - 1 := by
      rw [Nat.mul_comm]
      apply (Nat.le_div_iff_mul_le positive).mp
      omega
    refine ⟨page * (first + index), ⟨?_, ?_⟩, Nat.mul_div_cancel_left _
      positive⟩
    · exact Nat.mul_le_mul_left page lower
    · rw [Nat.mul_add]
      omega

theorem card_pagesSpanned {page addr len : Nat} (positive : 0 < page)
    (aligned : addr % page = 0) (nonempty : 0 < len) :
    (pagesSpanned page addr len).card = (len - 1) / page + 1 := by
  rw [pagesSpanned_aligned positive aligned nonempty, Nat.card_Ico]
  exact Nat.add_sub_cancel_left ..

/-- What the code takes from the architecture: the width of `unsigned long`
and `PAGE_SHIFT`. -/
structure Arch where
  longBits : Nat
  pageShift : Nat
  wide : 32 ≤ longBits
  small : pageShift ≤ 16

namespace Arch

variable (arch : Arch)

/-- `PAGE_SIZE`. -/
def pageSize : BitVec arch.longBits :=
  BitVec.ofNat arch.longBits 1 <<< arch.pageShift

/-- `PAGE_MASK`. -/
def pageMask : BitVec arch.longBits :=
  ~~~(arch.pageSize - BitVec.ofNat arch.longBits 1)

/-- An `int` that is an operand of `unsigned long` arithmetic. -/
def promote (value : Int32) : BitVec arch.longBits :=
  .ofInt arch.longBits value.toInt

/-- `(((message_size - 1) & PAGE_MASK) + PAGE_SIZE) >> PAGE_SHIFT`, stored in
an `int`. -/
def pageListLen (messageSize : Int32) : Int32 :=
  .ofBitVec ((((arch.promote (messageSize - 1) &&& arch.pageMask) +
    arch.pageSize) >>> arch.pageShift).setWidth 32)

theorem pow_le : 2 ^ 32 ≤ 2 ^ arch.longBits :=
  Nat.pow_le_pow_right (by decide) arch.wide

theorem pageSize_toNat : arch.pageSize.toNat = 2 ^ arch.pageShift := by
  have bound : 2 ^ arch.pageShift < 2 ^ arch.longBits := by
    apply Nat.pow_lt_pow_right (by decide)
    have wide := arch.wide
    have small := arch.small
    omega
  have one : 1 < 2 ^ arch.longBits := by
    have wide := arch.pow_le
    omega
  unfold pageSize
  rw [BitVec.toNat_shiftLeft, BitVec.toNat_ofNat, Nat.mod_eq_of_lt one,
    Nat.shiftLeft_eq, Nat.one_mul, Nat.mod_eq_of_lt bound]

theorem toNat_and_pageMask (word : BitVec arch.longBits) :
    (word &&& arch.pageMask).toNat =
      2 ^ arch.pageShift * (word.toNat / 2 ^ arch.pageShift) := by
  have wide := arch.pow_le
  have low : (arch.pageSize - BitVec.ofNat arch.longBits 1).toNat =
      2 ^ arch.pageShift - 1 := by
    have positive := Nat.two_pow_pos arch.pageShift
    have one : (BitVec.ofNat arch.longBits 1).toNat = 1 := by
      rw [BitVec.toNat_ofNat]
      exact Nat.mod_eq_of_lt (by omega)
    have order : BitVec.ofNat arch.longBits 1 ≤ arch.pageSize := by
      rw [BitVec.le_def, one, pageSize_toNat]
      exact positive
    rw [BitVec.toNat_sub_of_le order, one, pageSize_toNat]
  apply Nat.eq_of_testBit_eq
  intro i
  rw [Nat.testBit_two_pow_mul, Nat.testBit_div_two_pow, BitVec.toNat_and,
    Nat.testBit_and]
  by_cases inside : i < arch.longBits
  · have mask : arch.pageMask.toNat.testBit i = !decide (i < arch.pageShift) := by
      unfold pageMask
      rw [BitVec.testBit_toNat, BitVec.getLsbD_not, ← BitVec.testBit_toNat,
        low, Nat.testBit_two_pow_sub_one]
      simp [inside]
    rw [mask]
    by_cases offset : i < arch.pageShift
    · simp [offset]
    · have place : i - arch.pageShift + arch.pageShift = i :=
        Nat.sub_add_cancel (Nat.le_of_not_lt offset)
      simp [offset, Nat.le_of_not_lt offset, place]
  · have bound : word.toNat < 2 ^ i :=
      Nat.lt_of_lt_of_le word.isLt
        (Nat.pow_le_pow_right (by decide) (Nat.le_of_not_lt inside))
    have zero : word.toNat.testBit i = false := Nat.testBit_lt_two_pow bound
    by_cases offset : i < arch.pageShift
    · simp [zero, Nat.not_le.mpr offset]
    · have place : i - arch.pageShift + arch.pageShift = i :=
        Nat.sub_add_cancel (Nat.le_of_not_lt offset)
      simp [zero, place]

/-- The promotion of an `int` that is not negative. -/
theorem toNat_promote {value : Int32} (nonneg : 0 ≤ value) :
    (arch.promote value).toNat = value.toNatClampNeg := by
  have wide := arch.pow_le
  have bound := value.toNatClampNeg_lt
  unfold promote
  rw [Int32.toInt_eq_toNatClampNeg nonneg, BitVec.ofInt_natCast,
    BitVec.toNat_ofNat]
  exact Nat.mod_eq_of_lt (by omega)

theorem pageListLen_toInt {messageSize : Int32} (positive : 0 < messageSize) :
    (arch.pageListLen messageSize).toInt =
      ((messageSize.toNatClampNeg - 1) / 2 ^ arch.pageShift + 1 : Nat) := by
  have wide := arch.pow_le
  have small : 2 ^ arch.pageShift ≤ 2 ^ 16 :=
    Nat.pow_le_pow_right (by decide) arch.small
  have page := Nat.two_pow_pos arch.pageShift
  have before : (messageSize - 1).toInt = messageSize.toInt - 1 := by
    apply Int32.toInt_sub_of_le
    · decide
    · rw [Int32.lt_iff_toInt_lt] at positive
      rw [Int32.le_iff_toInt_le]
      exact positive
  have nonneg : 0 ≤ messageSize - 1 := by
    rw [Int32.lt_iff_toInt_lt] at positive
    rw [Int32.le_iff_toInt_le, before]
    exact Int.sub_nonneg_of_le positive
  have offset : (messageSize - 1).toNatClampNeg =
      messageSize.toNatClampNeg - 1 := by
    have value := Int32.toInt_eq_toNatClampNeg nonneg
    rw [before, Int32.toInt_eq_toNatClampNeg (Int32.le_of_lt positive)] at value
    omega
  have bound := messageSize.toNatClampNeg_lt
  have last_lt : messageSize.toNatClampNeg - 1 + 1 < 2 ^ 31 := by omega
  generalize messageSize.toNatClampNeg - 1 = last at offset last_lt
  have quotient : last / 2 ^ arch.pageShift ≤ last := Nat.div_le_self ..
  have product : 2 ^ arch.pageShift * (last / 2 ^ arch.pageShift) ≤ last :=
    Nat.mul_div_le ..
  have sum : ((arch.promote (messageSize - 1) &&& arch.pageMask) +
      arch.pageSize).toNat =
        2 ^ arch.pageShift * (last / 2 ^ arch.pageShift + 1) := by
    rw [BitVec.toNat_add, toNat_and_pageMask, toNat_promote arch nonneg,
      offset, pageSize_toNat, Nat.mul_add, Nat.mul_one]
    exact Nat.mod_eq_of_lt (by omega)
  have shifted : (((arch.promote (messageSize - 1) &&& arch.pageMask) +
      arch.pageSize) >>> arch.pageShift).toNat =
        last / 2 ^ arch.pageShift + 1 := by
    rw [BitVec.toNat_ushiftRight, sum, Nat.shiftRight_eq_div_pow,
      Nat.mul_div_cancel_left _ page]
  have stored : ((((arch.promote (messageSize - 1) &&& arch.pageMask) +
      arch.pageSize) >>> arch.pageShift).setWidth 32).toNat =
        last / 2 ^ arch.pageShift + 1 := by
    rw [BitVec.toNat_setWidth, shifted]
    exact Nat.mod_eq_of_lt (by omega)
  unfold pageListLen
  rw [Int32.toInt_ofBitVec, BitVec.toInt_eq_toNat_of_lt, stored]
  rw [stored]
  omega

end Arch

/-- What `ib_alloc_mr` returns a region for: the length of its page list. -/
structure RegMr where
  maxNumSg : UInt32
  deriving DecidableEq, Repr

/-- The fields of the handler that the registration works with; `dmaAddr` is
that of the buffer of the message. -/
structure Registration where
  messageSize : Int32
  pageListLen : Int32
  regMr : RegMr
  dmaAddr : UInt64
  deriving DecidableEq, Repr

/-- The outcomes of the calls of `nmsg_setup_buffers`. -/
structure BufferVerbs where
  ibAllocMr : Bool
  dmaAllocCoherent : Option UInt64
  deriving DecidableEq, Repr

namespace Client

/-- `nmsg_setup_buffers`, with `start_buf` allocated last. -/
def setupBuffers (arch : Arch) (messageSize : Int32) (verbs : BufferVerbs) :
    Option Registration :=
  let pageListLen := arch.pageListLen messageSize
  if verbs.ibAllocMr then
    let regMr : RegMr := ⟨pageListLen.toUInt32⟩
    verbs.dmaAllocCoherent.map fun startDmaAddr =>
      ⟨messageSize, pageListLen, regMr, startDmaAddr⟩
  else none

end Client

namespace Server

/-- `nmsg_setup_buffers`, with `rdma_buf` allocated first. -/
def setupBuffers (arch : Arch) (messageSize : Int32) (verbs : BufferVerbs) :
    Option Registration :=
  verbs.dmaAllocCoherent.bind fun rdmaDmaAddr =>
    let pageListLen := arch.pageListLen messageSize
    if verbs.ibAllocMr then
      let regMr : RegMr := ⟨pageListLen.toUInt32⟩
      some ⟨messageSize, pageListLen, regMr, rdmaDmaAddr⟩
    else none

end Server

section Mapping

/-- `ib_map_mr_sg` on one entry of a scatterlist: the region, the address and
the length of the entry, and the size of a page. -/
abbrev MapMrSg := RegMr → UInt64 → UInt32 → UInt32 → Int32

/-- The whole entry is mapped, one element of the list for a page, if the
list is long enough. -/
def MapMrSg.MapsWhole (ibMapMrSg : MapMrSg) : Prop :=
  ∀ regMr addr len page,
    (pagesSpanned page.toNat addr.toNat len.toNat).card ≤
      regMr.maxNumSg.toNat →
    (pagesSpanned page.toNat addr.toNat len.toNat).card < 2 ^ 31 →
      (ibMapMrSg regMr addr len page).toInt =
        (pagesSpanned page.toNat addr.toNat len.toNat).card

/-- What `nmsg_rdma_rkey` gets for the buffer of the message; `none` is the
`BUG_ON`. -/
def Registration.nmsgRdmaRkey (arch : Arch) (ibMapMrSg : MapMrSg)
    (registration : Registration) : Option Int32 :=
  let ret := ibMapMrSg registration.regMr registration.dmaAddr
    registration.messageSize.toUInt32 (.ofNat arch.pageSize.toNat)
  if ret ≤ 0 ∨ registration.pageListLen < ret then none else some ret

variable {arch : Arch} {messageSize : Int32} {verbs : BufferVerbs}
variable {registration : Registration} {addr : UInt64}

def registered (arch : Arch) (messageSize : Int32) (addr : UInt64) :
    Registration :=
  ⟨messageSize, arch.pageListLen messageSize,
    ⟨(arch.pageListLen messageSize).toUInt32⟩, addr⟩

theorem client_setupBuffers_eq
    (set : Client.setupBuffers arch messageSize verbs = some registration) :
    ∃ addr, verbs.dmaAllocCoherent = some addr ∧
      registration = registered arch messageSize addr := by
  unfold Client.setupBuffers at set
  by_cases allocated : verbs.ibAllocMr
  · rw [if_pos allocated, Option.map_eq_some_iff] at set
    obtain ⟨addr, coherent, rfl⟩ := set
    exact ⟨addr, coherent, rfl⟩
  · rw [if_neg allocated] at set
    cases set

theorem server_setupBuffers_eq
    (set : Server.setupBuffers arch messageSize verbs = some registration) :
    ∃ addr, verbs.dmaAllocCoherent = some addr ∧
      registration = registered arch messageSize addr := by
  unfold Server.setupBuffers at set
  rw [Option.bind_eq_some_iff] at set
  obtain ⟨addr, coherent, set⟩ := set
  by_cases allocated : verbs.ibAllocMr
  · rw [if_pos allocated] at set
    exact ⟨addr, coherent, (Option.some.inj set).symm⟩
  · rw [if_neg allocated] at set
    cases set

theorem pageListLen_eq_card (positive : 0 < messageSize)
    (aligned : addr.toNat % 2 ^ arch.pageShift = 0) :
    (arch.pageListLen messageSize).toInt =
      (pagesSpanned (2 ^ arch.pageShift) addr.toNat
        messageSize.toNatClampNeg).card := by
  have nonempty : 0 < messageSize.toNatClampNeg := by
    have value := Int32.toInt_eq_toNatClampNeg (Int32.le_of_lt positive)
    rw [Int32.lt_iff_toInt_lt, value] at positive
    exact Int.natCast_pos.mp positive
  rw [arch.pageListLen_toInt positive,
    card_pagesSpanned (Nat.two_pow_pos _) aligned nonempty]

theorem nmsgRdmaRkey_registered {ibMapMrSg : MapMrSg}
    (mapsWhole : ibMapMrSg.MapsWhole) (positive : 0 < messageSize)
    (aligned : addr.toNat % 2 ^ arch.pageShift = 0) :
    (registered arch messageSize addr).nmsgRdmaRkey arch ibMapMrSg =
        some (arch.pageListLen messageSize) ∧
      0 < arch.pageListLen messageSize := by
  have nonneg := Int32.le_of_lt positive
  have listed := arch.pageListLen_toInt positive
  have spanned := pageListLen_eq_card positive aligned
  have listPositive : 0 < arch.pageListLen messageSize := by
    rw [Int32.lt_iff_toInt_lt, listed]
    exact Int.natCast_pos.mpr (Nat.succ_pos _)
  have listNonneg := Int32.le_of_lt listPositive
  have bound := (arch.pageListLen messageSize).toNatClampNeg_lt
  -- The arguments of the call are the values that the list was computed from.
  have len : messageSize.toUInt32.toNat = messageSize.toNatClampNeg :=
    Int32.toNat_toUInt32_of_le nonneg
  have page : (UInt32.ofNat arch.pageSize.toNat).toNat =
      2 ^ arch.pageShift := by
    have small : 2 ^ arch.pageShift ≤ 2 ^ 16 :=
      Nat.pow_le_pow_right (by decide) arch.small
    rw [UInt32.toNat_ofNat', Arch.pageSize_toNat]
    exact Nat.mod_eq_of_lt (by omega)
  have card : (pagesSpanned (2 ^ arch.pageShift) addr.toNat
      messageSize.toNatClampNeg).card =
        (arch.pageListLen messageSize).toNatClampNeg := by
    rw [Int32.toInt_eq_toNatClampNeg listNonneg] at spanned
    exact (Int.ofNat_inj.mp spanned).symm
  have mapped := mapsWhole ⟨(arch.pageListLen messageSize).toUInt32⟩ addr
    messageSize.toUInt32 (.ofNat arch.pageSize.toNat)
  rw [len, page, card, Int32.toNat_toUInt32_of_le listNonneg,
    ← Int32.toInt_eq_toNatClampNeg listNonneg] at mapped
  have ret := Int32.toInt.inj (mapped (Nat.le_refl _) bound)
  refine ⟨?_, listPositive⟩
  unfold Registration.nmsgRdmaRkey registered
  dsimp only
  rw [ret]
  apply if_neg
  rw [not_or]
  exact ⟨Int32.not_le.mpr listPositive, Int32.lt_irrefl⟩

/-- The page list has the length of the buffer, and the `BUG_ON` of neither
side fires. -/
theorem registration_never_panics (arch : Arch) (ibMapMrSg : MapMrSg)
    (mapsWhole : ibMapMrSg.MapsWhole) (messageSize : Int32)
    (positive : 0 < messageSize) (addr : UInt64)
    (aligned : addr.toNat % 2 ^ arch.pageShift = 0) :
    (arch.pageListLen messageSize).toInt =
        (pagesSpanned (2 ^ arch.pageShift) addr.toNat
          messageSize.toNatClampNeg).card ∧
      ∀ verbs : BufferVerbs, verbs.dmaAllocCoherent = some addr →
        ∀ registration,
          Client.setupBuffers arch messageSize verbs = some registration ∨
            Server.setupBuffers arch messageSize verbs = some registration →
          ∃ ret, registration.nmsgRdmaRkey arch ibMapMrSg = some ret ∧
            0 < ret ∧ ret ≤ registration.pageListLen := by
  refine ⟨pageListLen_eq_card positive aligned, ?_⟩
  intro verbs coherent registration set
  have eq : registration = registered arch messageSize addr := by
    rcases set with client | server
    · obtain ⟨other, coherent', eq⟩ := client_setupBuffers_eq client
      obtain rfl := Option.some.inj (coherent.symm.trans coherent')
      exact eq
    · obtain ⟨other, coherent', eq⟩ := server_setupBuffers_eq server
      obtain rfl := Option.some.inj (coherent.symm.trans coherent')
      exact eq
  obtain ⟨ret, retPositive⟩ :=
    nmsgRdmaRkey_registered mapsWhole positive aligned
  rw [eq]
  exact ⟨_, ret, retPositive, Int32.le_refl _⟩

/-- A mapping that takes as many pages as the list has elements. -/
def mapPages : MapMrSg := fun regMr addr len page =>
  .ofNat (min (pagesSpanned page.toNat addr.toNat len.toNat).card
    regMr.maxNumSg.toNat)

theorem mapPages_mapsWhole : mapPages.MapsWhole := by
  intro regMr addr len page enough small
  unfold mapPages
  rw [Nat.min_eq_left enough, Int32.toInt_ofNat_of_lt small]

/-- A message of 1024 bytes in a page of 4096. -/
theorem registration_never_panics_nmsg :
    let arch : Arch := ⟨64, 12, by decide, by decide⟩
    ∃ ret, (registered arch 1024 0x1000).nmsgRdmaRkey arch mapPages =
      some ret ∧ 0 < ret ∧ ret ≤ arch.pageListLen 1024 := by
  intro arch
  have never := registration_never_panics arch mapPages mapPages_mapsWhole
    1024 (by decide) 0x1000 (by decide)
  exact never.2 ⟨true, some 0x1000⟩ rfl _ (.inl rfl)

end Mapping

end Rshm.Rdma
