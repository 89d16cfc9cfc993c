import Mathlib.Data.BitVec
import Mathlib.Tactic.Ring

/-!
# Numbers as bytes, the lowest first

`encode n x` is `x` in `n` bytes. Decoding gives back what fits (`decode_encode`),
fewer bytes are the first of more (`take_encode`), and two numbers have the same bytes
exactly if they agree modulo `256 ^ n` (`encode_eq_iff`). A file of such numbers is
read back `n` bytes at a time (`decodeAll_flatMap`), so two files agree exactly if
their numbers do (`flatMap_encode_eq_iff`).
-/

namespace LittleEndian

/-- `x` in `n` bytes; what they cannot hold is dropped. -/
def encode : Nat → Nat → List (BitVec 8)
  | 0, _ => []
  | n + 1, x => BitVec.ofNat 8 x :: encode n (x / 256)

/-- The number that some bytes stand for. -/
def decode : List (BitVec 8) → Nat
  | [] => 0
  | b :: bs => b.toNat + 256 * decode bs

/-- The numbers that a file holds, `n` bytes each. -/
def decodeAll (n : Nat) (bs : List (BitVec 8)) : List Nat :=
  (List.range (bs.length / n)).map fun k => decode ((bs.drop (n * k)).take n)

/-! ## One number -/

@[simp] theorem length_encode (n x : Nat) : (encode n x).length = n := by
  induction n generalizing x with
  | zero => rfl
  | succ n ih => rw [encode, List.length_cons, ih]

theorem take_encode {k n : Nat} (h : k ≤ n) (x : Nat) :
    (encode n x).take k = encode k x := by
  induction k generalizing n x with
  | zero => rfl
  | succ k ih =>
    cases n with
    | zero => exact absurd h (Nat.not_succ_le_zero k)
    | succ n => rw [encode, List.take_succ_cons, ih (Nat.le_of_succ_le_succ h), encode]

theorem decode_encode (n x : Nat) : decode (encode n x) = x % 256 ^ n := by
  induction n generalizing x with
  | zero => rw [Nat.pow_zero, Nat.mod_one]; rfl
  | succ n ih =>
    have hlow : (BitVec.ofNat 8 x).toNat = x % 256 := BitVec.toNat_ofNat ..
    rw [encode, decode, hlow, ih, Nat.pow_succ', Nat.mod_mul]

/-- The bytes see a number modulo `256 ^ n`. -/
theorem encode_mod (n x : Nat) : encode n (x % 256 ^ n) = encode n x := by
  induction n generalizing x with
  | zero => rfl
  | succ n ih =>
    have hlow : BitVec.ofNat 8 (x % 256 ^ (n + 1)) = BitVec.ofNat 8 x := by
      refine BitVec.eq_of_toNat_eq ?_
      rw [BitVec.toNat_ofNat, BitVec.toNat_ofNat]
      exact Nat.mod_mod_of_dvd x (Dvd.intro_left _ (Nat.pow_succ ..).symm)
    have hhigh : x % 256 ^ (n + 1) / 256 = x / 256 % 256 ^ n := by
      rw [Nat.pow_succ']
      exact Nat.mod_mul_right_div_self ..
    rw [encode, hlow, hhigh, ih, encode]

theorem encode_eq_iff (n x y : Nat) :
    encode n x = encode n y ↔ x % 256 ^ n = y % 256 ^ n := by
  refine ⟨fun h => ?_, fun h => ?_⟩
  · rw [← decode_encode, h, decode_encode]
  · rw [← encode_mod, h, encode_mod]

/-! ## A file of numbers -/

section File

variable {α : Type} {n : Nat}

theorem length_flatMap_encode (f : α → Nat) (xs : List α) :
    (xs.flatMap fun x => encode n (f x)).length = n * xs.length := by
  induction xs with
  | nil => rfl
  | cons x xs ih =>
    rw [List.flatMap_cons, List.length_append, length_encode, ih, List.length_cons]
    ring

/-- Reading a file back. -/
theorem decodeAll_flatMap (hn : 0 < n) (f : α → Nat) (xs : List α) :
    decodeAll n (xs.flatMap fun x => encode n (f x)) = xs.map fun x => f x % 256 ^ n := by
  rw [decodeAll, length_flatMap_encode, Nat.mul_div_cancel_left _ hn]
  induction xs with
  | nil => rfl
  | cons x xs ih =>
    rw [List.length_cons, List.range_succ_eq_map, List.map_cons, List.map_map, List.map_cons,
      List.flatMap_cons]
    refine congrArg₂ List.cons ?_ ?_
    · rw [Nat.mul_zero, List.drop_zero, List.take_left' (length_encode ..), decode_encode]
    · rw [← ih]
      refine List.map_congr_left fun k _ => ?_
      have hskip : n * (k + 1) = (encode n (f x)).length + n * k := by
        rw [length_encode]
        ring
      rw [Function.comp_apply, Nat.succ_eq_add_one, hskip, List.drop_length_add_append]

/-- Two files are the same exactly if number by number they are. -/
theorem flatMap_encode_eq_iff (f g : α → Nat) (xs : List α) :
    (xs.flatMap fun x => encode n (f x)) = (xs.flatMap fun x => encode n (g x))
      ↔ ∀ x ∈ xs, f x % 256 ^ n = g x % 256 ^ n := by
  induction xs with
  | nil => simp
  | cons x xs ih =>
    rw [List.flatMap_cons, List.flatMap_cons, List.forall_mem_cons, ← ih, ← encode_eq_iff]
    exact List.append_eq_append_iff_of_size_eq_left
      ((length_encode ..).trans (length_encode ..).symm)

end File

end LittleEndian
