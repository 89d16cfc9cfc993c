import Mathlib.Data.BitVec
import Mathlib.Data.List.GetD
import Mathlib.Data.List.Induction

/-!
# Shift registers

A `w`-bit register that takes in a bit at the low end shows the bit at the top. While
it takes in `w` bits it shows its own, the top bit first (`getLsbD_top`), and then it
holds what it has taken in, the first bit on top (`shiftAll_eq_ofBits`): two such
registers in a ring exchange their words. `bits` and `ofBits` go from a word to the
bits on the line and back, `words` from a stream of bits (`words_flatMap`).
-/

namespace ShiftRegister

variable {w : Nat}

/-- The bits of a word, the top bit first. -/
def bits (x : BitVec w) : List Bool := (List.range w).map fun k => x.getLsbD (w - 1 - k)

/-- Bits taken in at the low end, one after the other. -/
def shiftAll (x : BitVec w) (got : List Bool) : BitVec w := got.foldl BitVec.shiftConcat x

/-- The word that some bits make, the last at the low end. -/
def ofBits (got : List Bool) : BitVec w := shiftAll 0#w got

@[simp] theorem length_bits (x : BitVec w) : (bits x).length = w := by
  rw [bits, List.length_map, List.length_range]

theorem getElem_bits (x : BitVec w) {k : Nat} (h : k < (bits x).length) :
    (bits x)[k] = x.getLsbD (w - 1 - k) := by
  simp only [bits, List.getElem_map, List.getElem_range]

@[simp] theorem shiftAll_nil (x : BitVec w) : shiftAll x [] = x := rfl

theorem shiftAll_concat (x : BitVec w) (got : List Bool) (b : Bool) :
    shiftAll x (got ++ [b]) = (shiftAll x got).shiftConcat b :=
  List.foldl_concat ..

/-- What each bit of the register is: a bit taken in, or one of its own on the way up. -/
theorem getLsbD_shiftAll (x : BitVec w) (got : List Bool) {i : Nat} (hi : i < w) :
    (shiftAll x got).getLsbD i
      = if i < got.length then got.getD (got.length - 1 - i) false
        else x.getLsbD (i - got.length) := by
  induction got using List.reverseRecOn generalizing i with
  | nil => rfl
  | append_singleton got b ih =>
    rw [shiftAll_concat, BitVec.getLsbD_shiftConcat, decide_eq_true hi, Bool.true_and,
      List.length_append, List.length_singleton]
    cases i with
    | zero =>
      rw [if_pos rfl, if_pos (Nat.succ_pos _), Nat.sub_zero, Nat.add_sub_cancel,
        List.getD_append_right _ _ _ _ (Nat.le_refl _), Nat.sub_self]
      rfl
    | succ i =>
      rw [if_neg (Nat.succ_ne_zero i), Nat.add_sub_cancel, ih (Nat.lt_of_succ_lt hi)]
      by_cases hin : i < got.length
      · rw [if_pos hin, if_pos (Nat.succ_lt_succ hin), List.getD_append _ _ _ _ (by omega),
          show got.length + 1 - 1 - (i + 1) = got.length - 1 - i by omega]
      · rw [if_neg hin, if_neg (by omega), Nat.add_sub_add_right]

/-- What the register shows while it takes in its first `w` bits. -/
theorem getLsbD_top (x : BitVec w) {got : List Bool} (h : got.length < w) :
    (shiftAll x got).getLsbD (w - 1) = x.getLsbD (w - 1 - got.length) := by
  rw [getLsbD_shiftAll x got (by omega), if_neg (by omega)]

/-- After `w` bits none of its own is left. -/
theorem shiftAll_eq_ofBits (x : BitVec w) {got : List Bool} (h : got.length = w) :
    shiftAll x got = ofBits got := by
  refine BitVec.eq_of_getLsbD_eq fun i hi => ?_
  rw [ofBits, getLsbD_shiftAll x got hi, getLsbD_shiftAll 0#w got hi, if_pos (h ▸ hi),
    if_pos (h ▸ hi)]

/-- Bits sent are the bits received. -/
theorem bits_ofBits {got : List Bool} (h : got.length = w) :
    bits (ofBits got : BitVec w) = got := by
  refine List.ext_getElem ((length_bits _).trans h.symm) fun k hk hk' => ?_
  rw [getElem_bits, ofBits, getLsbD_shiftAll _ _ (by omega), if_pos (by omega),
    List.getD_eq_getElem _ _ (by omega)]
  congr 1
  omega

/-- A word sent is the word received. -/
theorem ofBits_bits (x : BitVec w) : ofBits (bits x) = x := by
  refine BitVec.eq_of_getLsbD_eq fun i hi => ?_
  rw [ofBits, getLsbD_shiftAll _ _ hi, length_bits, if_pos hi,
    List.getD_eq_getElem _ _ (by rw [length_bits]; omega), getElem_bits]
  congr 1
  omega

/-- The words in a stream of bits. -/
def words (w : Nat) (stream : List Bool) : List (BitVec w) :=
  (List.range (stream.length / w)).map fun k => ofBits ((stream.drop (w * k)).take w)

theorem length_flatMap_bits (xs : List (BitVec w)) :
    (xs.flatMap bits).length = w * xs.length := by
  induction xs with
  | nil => rfl
  | cons x xs ih =>
    rw [List.flatMap_cons, List.length_append, length_bits, ih, List.length_cons, Nat.mul_succ,
      Nat.add_comm]

/-- Words sent are the words read off the stream. -/
theorem words_flatMap (hw : 0 < w) (xs : List (BitVec w)) :
    words w (xs.flatMap bits) = xs := by
  rw [words, length_flatMap_bits, Nat.mul_div_cancel_left _ hw]
  induction xs with
  | nil => rfl
  | cons x xs ih =>
    rw [List.length_cons, List.range_succ_eq_map, List.map_cons, List.map_map]
    refine congrArg₂ List.cons ?_ (Eq.trans ?_ ih)
    · rw [Nat.mul_zero, List.drop_zero, List.flatMap_cons, List.take_left' (length_bits x),
        ofBits_bits]
    · refine List.map_congr_left fun k _ => ?_
      have hskip : w * (k + 1) = (bits x).length + w * k := by
        rw [length_bits, Nat.mul_succ, Nat.add_comm]
      rw [Function.comp_apply, Nat.succ_eq_add_one, hskip, List.flatMap_cons,
        List.drop_length_add_append]

end ShiftRegister
