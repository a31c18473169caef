import Mathlib.Data.List.Basic

/-!
# Terminated strings in buffers

A string in a buffer is what stands in front of the first terminator.  A
buffer is a function of the place and has a limit; `copy` refuses a source
whose string does not end below the limit, where the copy would go on behind
the buffer.
-/

universe u

namespace Terminated

variable {Byte : Type u} [Zero Byte]

/-- The buffer begins with the string and a terminator behind it. -/
structure Begins (buffer : Nat → Byte) (text : List Byte) : Prop where
  bytes : ∀ i, i < text.length → text[i]? = some (buffer i)
  clean : (0 : Byte) ∉ text
  stop : buffer text.length = 0

/-- The buffer with the bytes written over its start. -/
def store (bytes : List Byte) (buffer : Nat → Byte) : Nat → Byte := fun i =>
  bytes[i]?.getD (buffer i)

omit [Zero Byte] in
theorem store_inside {bytes : List Byte} {buffer : Nat → Byte} {i : Nat}
    (inside : i < bytes.length) :
    bytes[i]? = some (store bytes buffer i) := by
  unfold store
  rw [List.getElem?_eq_getElem inside, Option.getD_some]

omit [Zero Byte] in
theorem store_outside {bytes : List Byte} {buffer : Nat → Byte} {i : Nat}
    (outside : bytes.length ≤ i) : store bytes buffer i = buffer i := by
  unfold store
  rw [List.getElem?_eq_none outside, Option.getD_none]

omit [Zero Byte] in
/-- Writing what is already there changes nothing. -/
theorem store_same {bytes : List Byte} {buffer : Nat → Byte}
    (same : ∀ i, i < bytes.length → bytes[i]? = some (buffer i)) :
    store bytes buffer = buffer := by
  funext i
  unfold store
  by_cases inside : i < bytes.length
  · rw [same i inside, Option.getD_some]
  · rw [List.getElem?_eq_none (Nat.le_of_not_lt inside), Option.getD_none]

section Begins

variable {buffer : Nat → Byte} {text : List Byte}

theorem begins_nil : Begins buffer [] ↔ buffer 0 = 0 := by
  constructor
  · intro begins
    exact begins.stop
  · intro stop
    refine ⟨?_, List.not_mem_nil, stop⟩
    intro i inside
    cases inside

theorem begins_cons {byte : Byte} :
    Begins buffer (byte :: text) ↔
      byte ≠ 0 ∧ buffer 0 = byte ∧ Begins (fun i => buffer (i + 1)) text := by
  constructor
  · intro begins
    have clean := begins.clean
    rw [List.mem_cons, not_or] at clean
    have head := begins.bytes 0 (Nat.succ_pos _)
    refine ⟨Ne.symm clean.1, (Option.some.inj head).symm, ?_, clean.2,
      begins.stop⟩
    intro i inside
    exact begins.bytes (i + 1) (Nat.succ_lt_succ inside)
  · rintro ⟨nonzero, head, begins⟩
    refine ⟨?_, ?_, begins.stop⟩
    · intro i inside
      cases i with
      | zero => exact congrArg some head.symm
      | succ i => exact begins.bytes i (Nat.lt_of_succ_lt_succ inside)
    · rw [List.mem_cons, not_or]
      exact ⟨Ne.symm nonzero, begins.clean⟩

/-- A place that holds no terminator, and none before it, is in the
string. -/
theorem Begins.inside (begins : Begins buffer text) {count : Nat}
    (nonzero : ∀ i, i < count → buffer i ≠ 0) : count ≤ text.length := by
  by_contra short
  exact nonzero text.length (by omega) begins.stop

theorem Begins.nonzero (begins : Begins buffer text) {i : Nat}
    (inside : i < text.length) : buffer i ≠ 0 := by
  intro zero
  have byte := begins.bytes i inside
  rw [zero] at byte
  exact begins.clean (List.mem_of_getElem? byte)

/-- A buffer begins with one string at most. -/
theorem Begins.unique {other : List Byte} (begins : Begins buffer text)
    (begins' : Begins buffer other) : text = other := by
  have same : text.length = other.length := by
    apply Nat.le_antisymm
    · exact begins'.inside fun i inside => begins.nonzero inside
    · exact begins.inside fun i inside => begins'.nonzero inside
  apply List.ext_getElem?
  intro i
  by_cases inside : i < text.length
  · rw [begins.bytes i inside, begins'.bytes i (same ▸ inside)]
  · rw [List.getElem?_eq_none (Nat.le_of_not_lt inside),
      List.getElem?_eq_none (by omega)]

/-- The string only depends on the bytes up to its terminator. -/
theorem Begins.congr {other : Nat → Byte} (begins : Begins buffer text)
    (same : ∀ i, i ≤ text.length → other i = buffer i) :
    Begins other text := by
  refine ⟨?_, begins.clean, ?_⟩
  · intro i inside
    rw [same i (Nat.le_of_lt inside)]
    exact begins.bytes i inside
  · rw [same _ (Nat.le_refl _)]
    exact begins.stop

/-- Bytes written over the start of a buffer are its string when a terminator
stands behind them already. -/
theorem begins_store_iff :
    Begins (store text buffer) text ↔
      (0 : Byte) ∉ text ∧ buffer text.length = 0 := by
  constructor
  · intro begins
    have stop := begins.stop
    rw [store_outside (Nat.le_refl _)] at stop
    exact ⟨begins.clean, stop⟩
  · rintro ⟨clean, stop⟩
    refine ⟨fun i inside => store_inside inside, clean, ?_⟩
    rw [store_outside (Nat.le_refl _)]
    exact stop

end Begins

variable [DecidableEq Byte]

/-- The string at the start of a buffer, if it ends below the limit. -/
def read (buffer : Nat → Byte) : Nat → Option (List Byte)
  | 0 => none
  | limit + 1 =>
      if buffer 0 = 0 then some []
      else (read (fun i => buffer (i + 1)) limit).map (buffer 0 :: ·)

theorem read_eq_some_iff {buffer : Nat → Byte} {limit : Nat}
    {text : List Byte} :
    read buffer limit = some text ↔
      text.length < limit ∧ Begins buffer text := by
  induction limit generalizing buffer text with
  | zero => simp [read]
  | succ limit induction =>
      rw [read]
      by_cases stop : buffer 0 = 0
      · rw [if_pos stop]
        cases text with
        | nil => simp [begins_nil, stop]
        | cons byte text =>
            constructor
            · intro found
              cases found
            · rintro ⟨-, begins⟩
              obtain ⟨nonzero, head, -⟩ := begins_cons.mp begins
              rw [stop] at head
              exact absurd head.symm nonzero
      · rw [if_neg stop]
        cases text with
        | nil =>
            constructor
            · intro found
              obtain ⟨rest, -, same⟩ := Option.map_eq_some_iff.mp found
              cases same
            · rintro ⟨-, begins⟩
              exact absurd (begins_nil.mp begins) stop
        | cons byte text =>
            rw [Option.map_eq_some_iff, begins_cons, List.length_cons,
              Nat.succ_lt_succ_iff]
            constructor
            · rintro ⟨rest, found, same⟩
              obtain ⟨rfl, rfl⟩ := List.cons.inj same
              obtain ⟨bound, begins⟩ := induction.mp found
              exact ⟨bound, stop, rfl, begins⟩
            · rintro ⟨bound, -, head, begins⟩
              refine ⟨text, induction.mpr ⟨bound, begins⟩, ?_⟩
              rw [head]

/-- `strcpy` between two buffers of `limit` bytes; `none` when the source
does not end below the limit. -/
def copy (limit : Nat) (source target : Nat → Byte) : Option (Nat → Byte) :=
  (read source limit).map fun text i =>
    if i ≤ text.length then source i else target i

/-- A copy succeeds on a source whose string ends below the limit, and takes
over the string with its terminator and nothing else. -/
theorem copy_eq_some_iff {limit : Nat} {source target after : Nat → Byte} :
    copy limit source target = some after ↔
      ∃ text, text.length < limit ∧ Begins source text ∧
        after = fun i => if i ≤ text.length then source i else target i := by
  unfold copy
  rw [Option.map_eq_some_iff]
  constructor
  · rintro ⟨text, found, rfl⟩
    obtain ⟨bound, begins⟩ := read_eq_some_iff.mp found
    exact ⟨text, bound, begins, rfl⟩
  · rintro ⟨text, bound, begins, rfl⟩
    exact ⟨text, read_eq_some_iff.mpr ⟨bound, begins⟩, rfl⟩

theorem copy_of_begins {limit : Nat} {source : Nat → Byte}
    {text : List Byte} (short : text.length < limit)
    (begins : Begins source text) (target : Nat → Byte) :
    copy limit source target =
      some fun i => if i ≤ text.length then source i else target i :=
  copy_eq_some_iff.mpr ⟨text, short, begins, rfl⟩

end Terminated
