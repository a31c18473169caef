import Mathlib.Data.List.Induction
import Mathlib.Tactic.Ring

/-!
# Words on the wire

A word is stored in a buffer in the byte order of its host.  Network order is
the order with the most significant byte first: a word that is turned into
network order before it is stored, and back after it is loaded, arrives as it
was, whatever the orders of the two hosts.
-/

namespace Wire

/-- The bytes of a word, the most significant first. -/
def digits : Nat → Nat → List UInt8
  | 0, _ => []
  | count + 1, word => digits count (word / 256) ++ [UInt8.ofNat word]

/-- The word of some bytes, the most significant first. -/
def value (bytes : List UInt8) : Nat :=
  bytes.foldl (fun word byte => word * 256 + byte.toNat) 0

@[simp] theorem length_digits (count word : Nat) :
    (digits count word).length = count := by
  induction count generalizing word with
  | zero => rfl
  | succ count induction => simp [digits, induction]

@[simp] theorem value_concat (bytes : List UInt8) (byte : UInt8) :
    value (bytes ++ [byte]) = value bytes * 256 + byte.toNat := by
  simp [value, List.foldl_append]

theorem value_digits {count word : Nat} (fits : word < 256 ^ count) :
    value (digits count word) = word := by
  induction count generalizing word with
  | zero =>
      have zero : word = 0 := by simpa using fits
      rw [zero]
      rfl
  | succ count induction =>
      have upper : word / 256 < 256 ^ count := by
        apply Nat.div_lt_of_lt_mul
        rw [pow_succ'] at fits
        exact fits
      rw [digits, value_concat, induction upper, UInt8.toNat_ofNat']
      omega

theorem digits_value (bytes : List UInt8) :
    digits bytes.length (value bytes) = bytes := by
  induction bytes using List.reverseRecOn with
  | nil => rfl
  | append_singleton bytes byte induction =>
      have bound := byte.toNat_lt
      have high : (value bytes * 256 + byte.toNat) / 256 = value bytes := by
        omega
      have low : UInt8.ofNat (value bytes * 256 + byte.toNat) = byte := by
        apply UInt8.toNat_inj.mp
        rw [UInt8.toNat_ofNat']
        omega
      rw [List.length_append, List.length_singleton, digits, value_concat,
        high, low, induction]

theorem value_lt (bytes : List UInt8) : value bytes < 256 ^ bytes.length := by
  induction bytes using List.reverseRecOn with
  | nil => decide
  | append_singleton bytes byte induction =>
      have bound := byte.toNat_lt
      rw [value_concat, List.length_append, List.length_singleton, pow_succ]
      omega

inductive ByteOrder where
  | little
  | big
  deriving DecidableEq, Repr

namespace ByteOrder

variable (order : ByteOrder)

/-- Bytes in network order as the host keeps them, and back. -/
def arrange (bytes : List UInt8) : List UInt8 :=
  match order with
  | little => bytes.reverse
  | big => bytes

@[simp] theorem arrange_arrange (bytes : List UInt8) :
    order.arrange (order.arrange bytes) = bytes := by
  cases order with
  | little => exact List.reverse_reverse bytes
  | big => rfl

@[simp] theorem length_arrange (bytes : List UInt8) :
    (order.arrange bytes).length = bytes.length := by
  cases order with
  | little => exact List.length_reverse
  | big => rfl

/-- The bytes of a word in the memory of the host. -/
def store (count word : Nat) : List UInt8 := order.arrange (digits count word)

def load (bytes : List UInt8) : Nat := value (order.arrange bytes)

/-- Turns the bytes of a word around if the host is little-endian.  The same
function leads to network order and back. -/
def swap (count word : Nat) : Nat := value (order.arrange (digits count word))

@[simp] theorem length_store (count word : Nat) :
    (order.store count word).length = count := by
  simp [store]

theorem swap_lt (count word : Nat) : order.swap count word < 256 ^ count := by
  have bound := value_lt (order.arrange (digits count word))
  rw [length_arrange, length_digits] at bound
  exact bound

/-- A word in network order has the same bytes on every host. -/
theorem store_swap (count word : Nat) :
    order.store count (order.swap count word) = digits count word := by
  have same := digits_value (order.arrange (digits count word))
  rw [length_arrange, length_digits] at same
  rw [store, swap, same, arrange_arrange]

/-- What one host sends in network order another reads as it was. -/
theorem swap_load (sender : ByteOrder) {count word : Nat}
    (fits : word < 256 ^ count) :
    order.swap count
        (order.load (sender.store count (sender.swap count word))) = word := by
  rw [store_swap, load]
  have same := digits_value (order.arrange (digits count word))
  rw [length_arrange, length_digits] at same
  rw [swap, same, arrange_arrange, value_digits fits]

end ByteOrder

section Fields

variable {Byte : Type}

/-- The bytes of a field, written at its offset. -/
def put (offset : Nat) (bytes : List Byte) (buffer : Nat → Byte) :
    Nat → Byte := fun i =>
  if offset ≤ i then bytes[i - offset]?.getD (buffer i) else buffer i

/-- The field of a length at an offset. -/
def get (offset count : Nat) (buffer : Nat → Byte) : List Byte :=
  (List.range count).map fun i => buffer (offset + i)

@[simp] theorem length_get (offset count : Nat) (buffer : Nat → Byte) :
    (get offset count buffer).length = count := by
  simp [get]

theorem get_put {count : Nat} {bytes : List Byte} (offset : Nat)
    (buffer : Nat → Byte) (length : bytes.length = count) :
    get offset count (put offset bytes buffer) = bytes := by
  subst length
  apply List.ext_getElem
  · exact length_get ..
  · intro i _ inside
    simp [get, put, List.getElem?_eq_getElem inside]

/-- A field that a write does not reach. -/
theorem get_put_apart {offset count place : Nat} {bytes : List Byte}
    (buffer : Nat → Byte)
    (apart : place + count ≤ offset ∨ offset + bytes.length ≤ place) :
    get place count (put offset bytes buffer) = get place count buffer := by
  apply List.map_congr_left
  intro i member
  have inside := List.mem_range.mp member
  rw [put]
  rcases apart with below | above
  · rw [if_neg (by omega)]
  · rw [if_pos (by omega), List.getElem?_eq_none (by omega), Option.getD_none]

/-- A field only depends on its own bytes. -/
theorem get_congr {offset count : Nat} {buffer other : Nat → Byte}
    (same : ∀ i, i < offset + count → other i = buffer i) :
    get offset count other = get offset count buffer := by
  apply List.map_congr_left
  intro i member
  have inside := List.mem_range.mp member
  exact same (offset + i) (by omega)

end Fields

end Wire
