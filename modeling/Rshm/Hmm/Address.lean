import Mathlib.Data.Nat.Bitwise

/-!
# Addresses and windows

The ioctls of `hmm.c` take 64-bit addresses and sizes and work through them
in windows of at most 64 pages.  Arithmetic on `unsigned long` is `UInt64`
arithmetic; the lemmas read it as arithmetic of naturals.
-/

namespace Rshm.Hmm

def pageShift : UInt64 := 12

def pageSize : UInt64 := 1 <<< pageShift

def pageMask : UInt64 := ~~~(pageSize - 1)

/-- `addr >> PAGE_SHIFT`. -/
def pfnOf (addr : UInt64) : Nat := (addr >>> pageShift).toNat

/-- `!(addr & ~PAGE_MASK)`. -/
def PageAligned (addr : UInt64) : Prop := addr &&& ~~~pageMask = 0

instance (addr : UInt64) : Decidable (PageAligned addr) :=
  inferInstanceAs (Decidable (_ = _))

@[simp] theorem toNat_pageSize : pageSize.toNat = 4096 := by decide

theorem toNat_shiftPage (pages : UInt64) :
    (pages <<< pageShift).toNat = pages.toNat * 4096 % 2 ^ 64 := by
  simp [pageShift, UInt64.toNat_shiftLeft, Nat.shiftLeft_eq]

theorem pfnOf_eq (addr : UInt64) : pfnOf addr = addr.toNat / 4096 := by
  simp [pfnOf, pageShift, UInt64.toNat_shiftRight, Nat.shiftRight_eq_div_pow]

theorem pageAligned_iff (addr : UInt64) :
    PageAligned addr ↔ addr.toNat % 4096 = 0 := by
  have mask : ~~~pageMask = 4095 := by decide
  have low : (addr &&& 4095).toNat = addr.toNat % 4096 := by
    rw [UInt64.toNat_and]
    exact Nat.and_two_pow_sub_one_eq_mod addr.toNat 12
  rw [PageAligned, mask, ← low, ← UInt64.toNat_inj]
  rfl

/-- `x & PAGE_MASK`. -/
theorem toNat_pageMask (offset : UInt64) :
    (offset &&& pageMask).toNat = offset.toNat / 4096 * 4096 := by
  have below : offset.toNat < 2 ^ 64 := offset.toNat_lt
  have mask : pageMask.toNat = 2 ^ 64 - (2 ^ 12 - 1 + 1) := by decide
  have high : offset.toNat / 4096 * 4096 = (offset.toNat >>> 12) <<< 12 := by
    simp [Nat.shiftRight_eq_div_pow, Nat.shiftLeft_eq]
  rw [UInt64.toNat_and, mask, high]
  apply Nat.eq_of_testBit_eq
  intro i
  rw [Nat.testBit_and, Nat.testBit_shiftLeft, Nat.testBit_shiftRight,
    Nat.testBit_two_pow_sub_succ (by decide), Nat.testBit_two_pow_sub_one]
  by_cases low : i < 12
  · simp [low]
  · by_cases inside : i < 64
    · simp [low, inside, Nat.le_of_not_lt low]
    · have zero : offset.toNat.testBit i = false := by
        apply Nat.testBit_lt_two_pow
        apply Nat.lt_of_lt_of_le below
        apply Nat.pow_le_pow_right <;> omega
      have place : 12 + (i - 12) = i := by omega
      simp [low, inside, zero, place]

/-- A window `[start, stop)` that is handed to the memory management. -/
structure Window where
  start : UInt64
  stop : UInt64
  deriving DecidableEq, Repr

/-- How many passes `for (pfn = start >> PAGE_SHIFT; pfn < (stop >>
PAGE_SHIFT); pfn++)` makes. -/
def Window.npages (window : Window) : Nat :=
  pfnOf window.stop - pfnOf window.start

/-- `ARRAY_SIZE(pfns) << PAGE_SHIFT`. -/
def windowSize : UInt64 := 64 <<< pageShift

@[simp] theorem toNat_windowSize : windowSize.toNat = 262144 := by decide

/-- `min(addr + (ARRAY_SIZE(pfns) << PAGE_SHIFT), end)`. -/
def windowEnd (addr stop : UInt64) : UInt64 := min (addr + windowSize) stop

theorem toNat_windowEnd (addr stop : UInt64) :
    (windowEnd addr stop).toNat =
      min ((addr.toNat + 262144) % 2 ^ 64) stop.toNat := by
  have sum : (addr + windowSize).toNat = (addr.toNat + 262144) % 2 ^ 64 := by
    rw [UInt64.toNat_add, toNat_windowSize]
  have choice : windowEnd addr stop =
      if addr + windowSize ≤ stop then addr + windowSize else stop := rfl
  rw [choice]
  split
  · next inside =>
    have order := UInt64.le_iff_toNat_le.mp inside
    omega
  · next outside =>
    have order := UInt64.lt_iff_toNat_lt.mp (UInt64.not_le.mp outside)
    omega

/-- The last window, before it is cut off at `stop`, ends within the address
space. -/
def Fits (start stop : UInt64) : Prop :=
  stop.toNat + 262144 ≤ 2 ^ 64 + start.toNat % 262144

instance (start stop : UInt64) : Decidable (Fits start stop) :=
  inferInstanceAs (Decidable (_ ≤ _))

/-- The windows follow one another from `start` on, none is empty, longer
than 64 pages or outside `[start, stop)`, and the last one ends at the given
address. -/
inductive Tiling (start stop : UInt64) : List Window → UInt64 → Prop where
  | none : Tiling start stop [] start
  | next {windows : List Window} {addr after : UInt64} :
      Tiling start stop windows addr →
      addr.toNat < after.toNat →
      after.toNat ≤ addr.toNat + 262144 →
      after.toNat ≤ stop.toNat →
      after.toNat % 4096 = 0 →
      Tiling start stop (windows ++ [⟨addr, after⟩]) after

namespace Tiling

variable {start stop addr : UInt64} {windows : List Window}

theorem lower (tiling : Tiling start stop windows addr) :
    start.toNat ≤ addr.toNat := by
  induction tiling with
  | none => exact Nat.le_refl _
  | next _ rises _ _ _ induction => omega

theorem upper (tiling : Tiling start stop windows addr)
    (range : start.toNat ≤ stop.toNat) : addr.toNat ≤ stop.toNat := by
  cases tiling with
  | none => exact range
  | next _ _ _ inside _ => exact inside

theorem aligned (tiling : Tiling start stop windows addr)
    (first : start.toNat % 4096 = 0) : addr.toNat % 4096 = 0 := by
  cases tiling with
  | none => exact first
  | next _ _ _ _ last => exact last

theorem inside (tiling : Tiling start stop windows addr) {window : Window}
    (handed : window ∈ windows) :
    start.toNat ≤ window.start.toNat ∧
      window.start.toNat < window.stop.toNat ∧
      window.stop.toNat ≤ stop.toNat := by
  induction tiling with
  | none => cases handed
  | next before rises _ inside _ induction =>
      rcases List.mem_append.mp handed with earlier | last
      · exact induction earlier
      · cases List.mem_singleton.mp last
        exact ⟨before.lower, rises, inside⟩

/-- Each page up to the end of the last window was handed in some window. -/
theorem covers (tiling : Tiling start stop windows addr) (place : Nat)
    (lower : start.toNat ≤ place) (upper : place < addr.toNat) :
    ∃ window ∈ windows, window.start.toNat ≤ place ∧
      place < window.stop.toNat := by
  induction tiling with
  | none => omega
  | @next windows addr after before _ _ _ _ induction =>
      by_cases earlier : place < addr.toNat
      · obtain ⟨window, handed, bounds⟩ := induction earlier
        exact ⟨window, List.mem_append.mpr (.inl handed), bounds⟩
      · exact ⟨⟨addr, after⟩, by simp, by simpa using earlier, upper⟩

end Tiling

/-- Where a loop that moves on by whole windows stands: at the end of its
range, or a number of whole windows behind its start. -/
def InStep (start stop addr : UInt64) : Prop :=
  addr.toNat = stop.toNat ∨
    addr.toNat % 262144 = start.toNat % 262144

section Steps

variable {start stop addr : UInt64}

theorem windowEnd_of_fits (fits : Fits start stop)
    (inStep : InStep start stop addr) (inside : addr.toNat < stop.toNat) :
    (windowEnd addr stop).toNat = min (addr.toNat + 262144) stop.toNat ∧
      InStep start stop (windowEnd addr stop) := by
  have below : stop.toNat < 2 ^ 64 := stop.toNat_lt
  have value := toNat_windowEnd addr stop
  unfold Fits at fits
  unfold InStep at inStep ⊢
  have small : addr.toNat + 262144 < 2 ^ 64 := by omega
  rw [Nat.mod_eq_of_lt small] at value
  refine ⟨value, ?_⟩
  rw [value]
  omega

/-- In a range that does not fit, the loop never gets to the end of it. -/
theorem windowEnd_of_not_fits (wraps : ¬Fits start stop)
    (inStep : addr.toNat % 262144 = start.toNat % 262144) :
    (windowEnd addr stop).toNat % 262144 = start.toNat % 262144 ∧
      (windowEnd addr stop).toNat < stop.toNat := by
  have below : stop.toNat < 2 ^ 64 := stop.toNat_lt
  have value := toNat_windowEnd addr stop
  unfold Fits at wraps
  omega

theorem Tiling.window {windows : List Window}
    (tiling : Tiling start stop windows addr) (fits : Fits start stop)
    (inStep : InStep start stop addr) (aligned : stop.toNat % 4096 = 0)
    (first : start.toNat % 4096 = 0) (inside : addr.toNat < stop.toNat) :
    Tiling start stop (windows ++ [⟨addr, windowEnd addr stop⟩])
      (windowEnd addr stop) := by
  obtain ⟨value, -⟩ := windowEnd_of_fits fits inStep inside
  have here := tiling.aligned first
  apply tiling.next
  · omega
  · omega
  · omega
  · omega

end Steps

end Rshm.Hmm
