import Rshm.Lib.Wire
import Rshm.Lib.WordMix

/-!
# The hash function

`XXH3_64bit` of `hash.c`.  It works through the string in blocks of 32 and of
16 bytes and loads one more word for what is left.  Every step mixes words of
the string into the accumulator, and each of them is a bijection of it.
-/

namespace Rshm.Hash

open Wire WordMix

abbrev U64 := BitVec 64

/-- Memory from `input` on. -/
abbrev Bytes := Nat → UInt8

/-- `XXH3_64BIT_DEFAULT_SEED`. -/
def xxh3DefaultSeed : U64 := 0

def xxh3Rotl64 (x : U64) (r : Nat) : U64 :=
  x <<< r ||| x >>> (64 - r)

def xxh3Avalanche (h64 : U64) : U64 :=
  let h64 := h64 ^^^ h64 >>> 37
  let h64 := h64 * 0x165667919E3779F9
  h64 ^^^ h64 >>> 32

/-- `*(const u64*)p`, on a host of either byte order. -/
def loadU64 (order : ByteOrder) (memory : Bytes) (p : Nat) : U64 :=
  BitVec.ofNat 64 (order.load (Wire.get p 8 memory))

/-- The statements of one pass of the first loop. -/
def mixLong (acc k1 k2 k3 k4 : U64) : U64 :=
  let acc := xxh3Rotl64 (acc ^^^ k1 * 0x51B051B051B051B) 29 +
    k2 * 0x7CB07CB07CB07CB1
  let acc := xxh3Rotl64 acc 21
  let acc := acc * 0xC6A4A7935BD1E995 + k3
  xxh3Rotl64 acc 19 ^^^ k4 * 0x51B051B051B051B

/-- The statement of one pass of the second loop. -/
def mixShort (acc k1 k2 : U64) : U64 :=
  xxh3Rotl64 (acc ^^^ k1 * 0x9FB21C651E98DF25) 31 * 0x9FB21C651E98DF25 +
    k2 * 0x9FB21C651E98DF25

def mixTail (acc k1 : U64) : U64 :=
  xxh3Rotl64 (acc ^^^ k1 * 0xA0761D6478BD642F) 27 * 0xA0761D6478BD642F

/-- The variables of `XXH3_64bit`; `p` is counted from `input`.  `loads` is a
history variable: the places from which a word has been loaded. -/
structure Scan where
  acc : U64
  p : Nat
  loads : List Nat

section Function

variable (order : ByteOrder) (memory : Bytes)

def scanLong (scan : Scan) : Scan :=
  let k1 := loadU64 order memory scan.p
  let k2 := loadU64 order memory (scan.p + 8)
  let k3 := loadU64 order memory (scan.p + 16)
  let k4 := loadU64 order memory (scan.p + 24)
  { acc := mixLong scan.acc k1 k2 k3 k4
    p := scan.p + 32
    loads := scan.loads ++
      [scan.p, scan.p + 8, scan.p + 16, scan.p + 24] }

def scanShort (scan : Scan) : Scan :=
  let k1 := loadU64 order memory scan.p
  let k2 := loadU64 order memory (scan.p + 8)
  { acc := mixShort scan.acc k1 k2
    p := scan.p + 16
    loads := scan.loads ++ [scan.p, scan.p + 8] }

/-- The last load does not move `p`. -/
def scanTail (scan : Scan) : Scan :=
  let k1 := loadU64 order memory scan.p
  { scan with
    acc := mixTail scan.acc k1
    loads := scan.loads ++ [scan.p] }

/-- `while (p <= bEnd - stride)`.  No pass leaves `p` where it was, so `bEnd`
passes are enough. -/
def scanWhile (stride bEnd : Nat) (pass : Scan → Scan) : Nat → Scan → Scan
  | 0, scan => scan
  | fuel + 1, scan =>
      if scan.p + stride ≤ bEnd then
        scanWhile stride bEnd pass fuel (pass scan)
      else scan

/-- The loops and the last load, on a string that ends at `bEnd`. -/
def scanString (bEnd : Nat) : Scan :=
  let scan : Scan := ⟨xxh3DefaultSeed, 0, []⟩
  let scan :=
    if 32 ≤ bEnd then
      scanWhile 32 bEnd (scanLong order memory) bEnd
        (scanLong order memory scan)
    else scan
  let scan := scanWhile 16 bEnd (scanShort order memory) bEnd scan
  if scan.p < bEnd then scanTail order memory scan else scan

/-- `XXH3_64bit`; `length` is `strlen(input)`. -/
def xxh3_64bit (length : Nat) : U64 :=
  let acc := (scanString order memory length).acc
  xxh3Avalanche (acc ^^^ BitVec.ofNat 64 length)

end Function

/-- One step with the words that it mixes in. -/
inductive Step where
  | long (k1 k2 k3 k4 : U64)
  | short (k1 k2 : U64)
  | tail (k1 : U64)
  deriving DecidableEq, Repr

def Step.apply (acc : U64) : Step → U64
  | long k1 k2 k3 k4 => mixLong acc k1 k2 k3 k4
  | short k1 k2 => mixShort acc k1 k2
  | tail k1 => mixTail acc k1

def run (acc : U64) (steps : List Step) : U64 := steps.foldl Step.apply acc

theorem run_append (acc : U64) (before after : List Step) :
    run acc (before ++ after) = run (run acc before) after :=
  List.foldl_append

def finish (length : Nat) (acc : U64) : U64 :=
  xxh3Avalanche (acc ^^^ BitVec.ofNat 64 length)

/-- One step with the place of its first word. -/
inductive Place where
  | long (p : Nat)
  | short (p : Nat)
  | tail (p : Nat)
  deriving DecidableEq, Repr

namespace Place

def start : Place → Nat
  | long p => p
  | short p => p
  | tail p => p

/-- The end of the bytes that the step loads. -/
def stop : Place → Nat
  | long p => p + 32
  | short p => p + 16
  | tail p => p + 8

def loads : Place → List Nat
  | long p => [p, p + 8, p + 16, p + 24]
  | short p => [p, p + 8]
  | tail p => [p]

def step (order : ByteOrder) (memory : Bytes) : Place → Step
  | long p =>
      .long (loadU64 order memory p) (loadU64 order memory (p + 8))
        (loadU64 order memory (p + 16)) (loadU64 order memory (p + 24))
  | short p =>
      .short (loadU64 order memory p) (loadU64 order memory (p + 8))
  | tail p => .tail (loadU64 order memory p)

end Place

/-- The blocks of a loop that starts at `first`. -/
def blocks (place : Nat → Place) (stride first count : Nat) : List Place :=
  (List.range count).map fun i => place (first + stride * i)

/-- The steps that a string of a length takes. -/
def layout (length : Nat) : List Place :=
  blocks .long 32 0 (length / 32) ++
    blocks .short 16 (32 * (length / 32)) (length % 32 / 16) ++
    if length % 16 = 0 then [] else [.tail (16 * (length / 16))]

def steps (order : ByteOrder) (memory : Bytes) (length : Nat) : List Step :=
  (layout length).map (Place.step order memory)

section Layout

variable (order : ByteOrder) (memory : Bytes)

def Scan.visit (scan : Scan) (place : Place) : Scan :=
  ⟨(place.step order memory).apply scan.acc, place.stop,
    scan.loads ++ place.loads⟩

theorem blocks_succ (place : Nat → Place) (stride first count : Nat) :
    blocks place stride first (count + 1) =
      place first :: blocks place stride (first + stride) count := by
  unfold blocks
  rw [List.range_succ_eq_map, List.map_cons, List.map_map, Nat.mul_zero,
    Nat.add_zero]
  congr 1
  apply List.map_congr_left
  intro i _
  have shift : first + stride * (i + 1) = first + stride + stride * i := by
    rw [Nat.mul_add, Nat.mul_one]
    omega
  exact congrArg place shift

theorem scanWhile_eq {stride bEnd : Nat} (positive : 0 < stride)
    {place : Nat → Place} (stops : ∀ p, (place p).stop = p + stride)
    {pass : Scan → Scan}
    (visits : ∀ scan, pass scan = scan.visit order memory (place scan.p))
    (fuel : Nat) (scan : Scan) (enough : bEnd - scan.p ≤ fuel) :
    scanWhile stride bEnd pass fuel scan =
      (blocks place stride scan.p ((bEnd - scan.p) / stride)).foldl
        (Scan.visit order memory) scan := by
  induction fuel generalizing scan with
  | zero =>
      have none_ : (bEnd - scan.p) / stride = 0 := by
        rw [Nat.le_zero.mp enough, Nat.zero_div]
      rw [none_]
      rfl
  | succ fuel induction =>
      rw [scanWhile]
      by_cases more : scan.p + stride ≤ bEnd
      · have moved : (pass scan).p = scan.p + stride := by
          rw [visits]
          exact stops scan.p
        have count : (bEnd - scan.p) / stride =
            (bEnd - (scan.p + stride)) / stride + 1 := by
          rw [← Nat.add_div_right _ positive]
          congr 1
          omega
        rw [if_pos more, induction (pass scan) (by omega), moved, count,
          blocks_succ, List.foldl_cons, visits]
      · have none_ : (bEnd - scan.p) / stride = 0 :=
          Nat.div_eq_of_lt (by omega)
        rw [if_neg more, none_]
        rfl

theorem scanWhile_long (bEnd fuel : Nat) (scan : Scan)
    (enough : bEnd - scan.p ≤ fuel) :
    scanWhile 32 bEnd (scanLong order memory) fuel scan =
      (blocks .long 32 scan.p ((bEnd - scan.p) / 32)).foldl
        (Scan.visit order memory) scan := by
  apply scanWhile_eq order memory
  · decide
  · intro p
    rfl
  · intro scan
    rfl
  · exact enough

theorem scanWhile_short (bEnd fuel : Nat) (scan : Scan)
    (enough : bEnd - scan.p ≤ fuel) :
    scanWhile 16 bEnd (scanShort order memory) fuel scan =
      (blocks .short 16 scan.p ((bEnd - scan.p) / 16)).foldl
        (Scan.visit order memory) scan := by
  apply scanWhile_eq order memory
  · decide
  · intro p
    rfl
  · intro scan
    rfl
  · exact enough

theorem visit_acc (places : List Place) (scan : Scan) :
    (places.foldl (Scan.visit order memory) scan).acc =
      run scan.acc (places.map (Place.step order memory)) := by
  induction places generalizing scan with
  | nil => rfl
  | cons place places induction => exact induction _

theorem visit_loads (places : List Place) (scan : Scan) :
    (places.foldl (Scan.visit order memory) scan).loads =
      scan.loads ++ places.flatMap Place.loads := by
  induction places generalizing scan with
  | nil => exact (List.append_nil _).symm
  | cons place places induction =>
      rw [List.foldl_cons, induction, List.flatMap_cons]
      exact List.append_assoc ..

theorem visit_p {stride : Nat} {place : Nat → Place}
    (stops : ∀ p, (place p).stop = p + stride) (count : Nat) (scan : Scan) :
    ((blocks place stride scan.p count).foldl
      (Scan.visit order memory) scan).p = scan.p + stride * count := by
  induction count generalizing scan with
  | zero => rfl
  | succ count induction =>
      have moved : (scan.visit order memory (place scan.p)).p =
          scan.p + stride := stops scan.p
      rw [blocks_succ, List.foldl_cons, ← moved, induction, moved,
        Nat.mul_add, Nat.mul_one]
      omega

theorem scanString_eq (bEnd : Nat) :
    (scanString order memory bEnd).acc =
        run xxh3DefaultSeed (steps order memory bEnd) ∧
      (scanString order memory bEnd).loads =
        (layout bEnd).flatMap Place.loads := by
  let start : Scan := ⟨xxh3DefaultSeed, 0, []⟩
  -- The loop with its test at the end runs like one with the test before.
  have first : (if 32 ≤ bEnd then
        scanWhile 32 bEnd (scanLong order memory) bEnd
          (scanLong order memory start)
      else start) =
        (blocks .long 32 0 (bEnd / 32)).foldl (Scan.visit order memory)
          start := by
    have whole := scanWhile_long order memory bEnd (bEnd + 1) start
      (by omega)
    rw [scanWhile] at whole
    have test : start.p + 32 ≤ bEnd ↔ 32 ≤ bEnd := by
      rw [Nat.zero_add]
    rw [if_congr test rfl rfl] at whole
    exact whole
  generalize long : (blocks .long 32 0 (bEnd / 32)).foldl
    (Scan.visit order memory) start = middle at first
  have middle_p : middle.p = 32 * (bEnd / 32) := by
    rw [← long]
    exact (visit_p order memory (fun _ => rfl) (bEnd / 32) start).trans
      (Nat.zero_add _)
  have second : scanWhile 16 bEnd (scanShort order memory) bEnd middle =
      (blocks .short 16 (32 * (bEnd / 32)) (bEnd % 32 / 16)).foldl
        (Scan.visit order memory) middle := by
    have count : (bEnd - 32 * (bEnd / 32)) / 16 = bEnd % 32 / 16 := by
      omega
    rw [scanWhile_short order memory bEnd bEnd middle (by omega), middle_p,
      count]
  generalize short : (blocks .short 16 (32 * (bEnd / 32))
    (bEnd % 32 / 16)).foldl (Scan.visit order memory) middle = last at second
  have last_p : last.p = 16 * (bEnd / 16) := by
    rw [← short, ← middle_p, visit_p order memory (fun _ => rfl), middle_p]
    omega
  have visited : (blocks .long 32 0 (bEnd / 32) ++
      blocks .short 16 (32 * (bEnd / 32)) (bEnd % 32 / 16)).foldl
        (Scan.visit order memory) start = last := by
    rw [List.foldl_append, long, short]
  have acc := visit_acc order memory _ start ▸ congrArg Scan.acc visited
  have loads := visit_loads order memory _ start ▸
    congrArg Scan.loads visited
  have whole : scanString order memory bEnd =
      if last.p < bEnd then scanTail order memory last else last := by
    unfold scanString
    dsimp only
    rw [first, second]
  rw [whole]
  unfold steps layout
  by_cases even : bEnd % 16 = 0
  · rw [if_neg (by omega), if_pos even, List.append_nil]
    exact ⟨acc.symm, loads.symm⟩
  · rw [if_pos (by omega), if_neg even]
    constructor
    · have before : run xxh3DefaultSeed (List.map (Place.step order memory)
          (blocks .long 32 0 (bEnd / 32) ++ blocks .short 16
            (32 * (bEnd / 32)) (bEnd % 32 / 16))) = last.acc := acc
      rw [List.map_append, run_append, before, ← last_p]
      rfl
    · rw [List.flatMap_append, ← last_p]
      exact congrArg (· ++ [last.p]) loads.symm

theorem xxh3_64bit_eq (length : Nat) :
    xxh3_64bit order memory length =
      finish length (run xxh3DefaultSeed (steps order memory length)) := by
  unfold xxh3_64bit
  rw [(scanString_eq order memory length).1]
  rfl

end Layout

end Rshm.Hash
