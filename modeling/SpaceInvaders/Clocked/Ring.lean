import Mathlib.Data.Bool.Basic
import Mathlib.Order.Nat

/-!
# Rings with one front

A row of bits `b 0, …, b (n - 1)` in which the first `k` agree and the others are their
opposite: `k` is where the front stands. If every bit but the first keeps its value or copies
its left neighbour's, in whatever mixture, the front stays or moves on by one
(`Front.advance`); where it has come to the end the first bit may change, which sets off the
next front (`Front.launch`). So a bit that is handed on through registers of several clocks,
each of which may see a change at once or one clock late, is handed on as one front.
-/

namespace Clocked

/-- The front stands behind the first `k` of the `n` bits. -/
structure Front (n k : Nat) (b : Nat → Bool) : Prop where
  pos : 0 < k
  le : k ≤ n
  bits : ∀ i, i < n → b i = (b 0 ^^ decide (k ≤ i))

/-- What a step leaves of the bits but the first. -/
def Follows (n : Nat) (b b' : Nat → Bool) : Prop :=
  ∀ i, i + 1 < n → b' (i + 1) = b (i + 1) ∨ b' (i + 1) = b i

namespace Front

variable {n k : Nat} {b b' : Nat → Bool}

theorem before (h : Front n k b) {i : Nat} (hi : i < k) : b i = b 0 := by
  rw [h.bits i (hi.trans_le h.le), decide_eq_false (Nat.not_le_of_lt hi), Bool.xor_false]

theorem behind (h : Front n k b) {i : Nat} (hk : k ≤ i) (hi : i < n) : b i = !b 0 := by
  rw [h.bits i hi, decide_eq_true hk, Bool.xor_true]

/-- Two bits differ just where the front is between them. -/
theorem ne_iff (h : Front n k b) {i j : Nat} (hij : i < j) (hj : j < n) :
    b i ≠ b j ↔ i < k ∧ k ≤ j := by
  rw [h.bits i (hij.trans hj), h.bits j hj]
  by_cases hik : k ≤ i
  · have hjk : k ≤ j := hik.trans hij.le
    simp [hik, hjk]
  · by_cases hjk : k ≤ j
    · simp [hik, hjk, Nat.lt_of_not_le hik]
    · simp [hik, hjk]

/-- The front stays or moves on. -/
theorem advance (h : Front n k b) (h0 : b' 0 = b 0) (hstep : Follows n b b') :
    (Front n k b' ∧ (k < n → b' k = b k)) ∨ (k < n ∧ Front n (k + 1) b' ∧ b' k = b (k - 1)) := by
  -- a bit that is not at the front agrees with the one before it
  have hrest (i : Nat) (hi : i < n) (hk : i ≠ k) : b' i = b i := by
    cases i with
    | zero => exact h0
    | succ i =>
      rcases hstep i hi with hkeep | hcopy
      · exact hkeep
      · rw [hcopy]
        by_contra hne
        have hfront := (h.ne_iff (Nat.lt_succ_self i) hi).mp hne
        omega
  by_cases hk : k < n ∧ b' k ≠ b k
  · obtain ⟨hkn, hne⟩ := hk
    refine Or.inr ⟨hkn, ⟨Nat.succ_pos k, hkn, fun i hi => ?_⟩, ?_⟩
    · by_cases hik : i = k
      · subst hik
        rw [decide_eq_false (by omega), Bool.xor_false, h0]
        rw [h.behind (Nat.le_refl i) hi] at hne
        exact Bool.ne_not.mp hne
      · rw [hrest i hi hik, h0, h.bits i hi]
        congr 2
        rw [eq_iff_iff]
        omega
    · obtain ⟨j, rfl⟩ := Nat.exists_eq_succ_of_ne_zero h.pos.ne'
      exact (hstep j hkn).resolve_left hne
  · have hsame (hkn : k < n) : b' k = b k := by
      by_contra hne
      exact hk ⟨hkn, hne⟩
    refine Or.inl ⟨⟨h.pos, h.le, fun i hi => ?_⟩, hsame⟩
    by_cases hik : i = k
    · subst hik
      rw [hsame hi, h0]
      exact h.bits i hi
    · rw [hrest i hi hik, h0]
      exact h.bits i hi

/-- A front that stands where a bit copies has moved on. -/
theorem passes (h : Front n k b) (h0 : b' 0 = b 0) (hstep : Follows n b b') {d : Nat}
    (hd : 0 < d) (hdn : d < n) (hdk : d ≤ k) (hcopy : b' d = b (d - 1)) :
    ∃ k', Front n k' b' ∧ d < k' := by
  rcases h.advance h0 hstep with ⟨hfront, hkeep⟩ | ⟨_, hfront, _⟩
  · refine ⟨k, hfront, Nat.lt_of_le_of_ne hdk fun hkd => ?_⟩
    subst hkd
    have hne := (h.ne_iff (Nat.sub_lt hd Nat.one_pos) hdn).mpr ⟨by omega, Nat.le_refl d⟩
    exact hne (hcopy.symm.trans (hkeep hdn))
  · exact ⟨k + 1, hfront, Nat.lt_succ_of_le hdk⟩

/-- The first bit changes when the front has come to the end. -/
theorem launch (h : Front n n b) (h0 : b' 0 = !b 0) (hstep : Follows n b b') : Front n 1 b' := by
  refine ⟨Nat.one_pos, h.pos, fun i hi => ?_⟩
  cases i with
  | zero => simp
  | succ i =>
    have hall : b' (i + 1) = b 0 := by
      rcases hstep i hi with hkeep | hcopy
      · exact hkeep.trans (h.before hi)
      · exact hcopy.trans (h.before (Nat.lt_of_succ_lt hi))
    rw [hall, h0, decide_eq_true (Nat.le_add_left 1 i)]
    simp

end Front

end Clocked
