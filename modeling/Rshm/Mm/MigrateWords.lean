import Rshm.Lib.TaggedWord
import Rshm.Mm.MigrateDevice

/-!
# The words of a migration

A `src` or `dst` word holds a page frame number above six flag bits.
-/

namespace Rshm.Mm

/-- A page frame number, of the bits a migration word has for it. -/
abbrev Pfn := Fin (2 ^ 58)

instance neZero_pfn : NeZero (2 ^ 58) := ⟨by decide⟩

def migratePfnWrite : UInt64 := 8

def migratePfn (pfn : Pfn) : UInt64 :=
  UInt64.ofNat pfn <<< migratePfnShift ||| migratePfnValid

/-- The page of `migrate_pfn_to_page`. -/
def pageOf (mpfn : UInt64) : Option Pfn :=
  if mpfn &&& migratePfnValid = 0 then none
  else
    some ⟨(mpfn >>> migratePfnShift).toNat,
      TaggedWord.number_lt 6 mpfn.toBitVec⟩

/-- `mpfn & MIGRATE_PFN_WRITE`. -/
def writing (mpfn : UInt64) : Bool := mpfn &&& migratePfnWrite ≠ 0

theorem migratePfnToPage_eq (mpfn : UInt64) :
    migratePfnToPage mpfn =
      match pageOf mpfn with
      | none => .null
      | some pfn => .page pfn := by
  unfold migratePfnToPage pageOf
  split
  · rfl
  · rfl

/-- The source word of a page that is to migrate, as
`migrate_vma_collect_pmd` builds it. -/
def sourceWord (pfn : Pfn) (write : Bool) : UInt64 :=
  migratePfn pfn ||| migratePfnMigrate |||
    (if write then migratePfnWrite else 0)

theorem has_iff (flag mpfn : UInt64) :
    TaggedWord.has flag.toBitVec mpfn.toBitVec = true ↔
      mpfn &&& flag ≠ 0 := by
  rw [TaggedWord.has, decide_eq_true_iff, not_iff_not,
    ← UInt64.toBitVec_and]
  exact UInt64.toBitVec_inj

theorem migrating_has (mpfn : UInt64) :
    migrating mpfn =
      TaggedWord.has migratePfnMigrate.toBitVec mpfn.toBitVec := by
  rw [Bool.eq_iff_iff, has_iff, migrating, decide_eq_true_iff]

theorem writing_has (mpfn : UInt64) :
    writing mpfn =
      TaggedWord.has migratePfnWrite.toBitVec mpfn.toBitVec := by
  rw [Bool.eq_iff_iff, has_iff, writing, decide_eq_true_iff]

theorem pageOf_eq (mpfn : UInt64) :
    pageOf mpfn =
      if TaggedWord.has migratePfnValid.toBitVec mpfn.toBitVec then
        some ⟨TaggedWord.number 6 mpfn.toBitVec,
          TaggedWord.number_lt 6 mpfn.toBitVec⟩
      else none := by
  rw [pageOf]
  by_cases invalid : mpfn &&& migratePfnValid = 0
  · have without : ¬TaggedWord.has migratePfnValid.toBitVec
        mpfn.toBitVec = true := by
      rw [has_iff]
      exact not_not.mpr invalid
    rw [if_pos invalid, if_neg without]
  · rw [if_neg invalid, if_pos ((has_iff ..).mpr invalid)]
    rfl

theorem clearMigrate_toBitVec (mpfn : UInt64) :
    (clearMigrate mpfn).toBitVec =
      mpfn.toBitVec &&& ~~~migratePfnMigrate.toBitVec := by
  rw [clearMigrate, UInt64.toBitVec_and, UInt64.toBitVec_not]

@[simp] theorem pageOf_clearMigrate (mpfn : UInt64) :
    pageOf (clearMigrate mpfn) = pageOf mpfn := by
  have number : TaggedWord.number 6 (clearMigrate mpfn).toBitVec =
      TaggedWord.number 6 mpfn.toBitVec := by
    rw [clearMigrate_toBitVec]
    exact TaggedWord.number_clear (by decide) mpfn.toBitVec
  have valid : TaggedWord.has migratePfnValid.toBitVec
        (clearMigrate mpfn).toBitVec =
      TaggedWord.has migratePfnValid.toBitVec mpfn.toBitVec := by
    rw [clearMigrate_toBitVec]
    exact TaggedWord.has_clear (by decide) mpfn.toBitVec
  rw [pageOf_eq, pageOf_eq, valid]
  simp only [number]

/-- The flags of a source word. -/
def sourceFlags (write : Bool) : BitVec 64 :=
  if write then 11 else 3

theorem sourceWord_pack (pfn : Pfn) (write : Bool) :
    (sourceWord pfn write).toBitVec =
      TaggedWord.pack 6 pfn (sourceFlags write) := by
  have shifted : (UInt64.ofNat pfn <<< migratePfnShift).toBitVec =
      BitVec.ofNat 64 pfn <<< 6 := rfl
  rw [sourceWord, migratePfn, UInt64.toBitVec_or, UInt64.toBitVec_or,
    UInt64.toBitVec_or, shifted, TaggedWord.pack, BitVec.or_assoc,
    BitVec.or_assoc]
  cases write
  · rfl
  · rfl

theorem sourceFlags_below (write : Bool) :
    TaggedWord.Below 6 (sourceFlags write) := by
  cases write <;> decide

@[simp] theorem pageOf_sourceWord (pfn : Pfn) (write : Bool) :
    pageOf (sourceWord pfn write) = some pfn := by
  have number : TaggedWord.number 6 (sourceWord pfn write).toBitVec = pfn := by
    rw [sourceWord_pack]
    exact TaggedWord.number_pack (sourceFlags_below write) pfn.isLt
  have valid : TaggedWord.has migratePfnValid.toBitVec
      (sourceWord pfn write).toBitVec = true := by
    rw [sourceWord_pack, TaggedWord.has_pack (by decide)]
    cases write <;> decide
  rw [pageOf_eq, if_pos valid]
  simp only [number]

@[simp] theorem migrating_sourceWord (pfn : Pfn) (write : Bool) :
    migrating (sourceWord pfn write) = true := by
  rw [migrating_has, sourceWord_pack, TaggedWord.has_pack (by decide)]
  cases write <;> decide

@[simp] theorem writing_sourceWord (pfn : Pfn) (write : Bool) :
    writing (sourceWord pfn write) = write := by
  rw [writing_has, sourceWord_pack, TaggedWord.has_pack (by decide)]
  cases write <;> decide

@[simp] theorem pageOf_migratePfnMigrate :
    pageOf migratePfnMigrate = none := rfl

@[simp] theorem migrating_migratePfnMigrate :
    migrating migratePfnMigrate = true := by decide

@[simp] theorem pageOf_zero : pageOf 0 = none := rfl

@[simp] theorem migrating_zero : migrating 0 = false := by decide

@[simp] theorem pageOf_migratePfn (pfn : Pfn) :
    pageOf (migratePfn pfn) = some pfn := by
  have packed : (migratePfn pfn).toBitVec = TaggedWord.pack 6 pfn 1 := rfl
  have number : TaggedWord.number 6 (migratePfn pfn).toBitVec = pfn := by
    rw [packed]
    exact TaggedWord.number_pack (by decide) pfn.isLt
  have valid : TaggedWord.has migratePfnValid.toBitVec
      (migratePfn pfn).toBitVec = true := by
    rw [packed, TaggedWord.has_pack (by decide)]
    decide
  rw [pageOf_eq, if_pos valid]
  simp only [number]

end Rshm.Mm
