import Mathlib.Data.List.Infix
import Mathlib.Data.List.Range

/-!
# Conveyors

A block takes items in and gives items out, some at each step, and holds a few of them
meanwhile. If at every step what it holds and takes is what it gives and goes on holding,
in this order, then what has come out is always a first part of what has gone in
(`log_conserved`); and if a rank falls at each step that gives nothing,
everything is out after a bounded time (`log_within`). `log` is all that has passed a
point so far.
-/

namespace Clocked

variable {α : Type}

/-- What has passed in the first `t` steps. -/
def log (f : Nat → List α) (t : Nat) : List α := (List.range t).flatMap f

@[simp] theorem log_zero (f : Nat → List α) : log f 0 = [] := rfl

theorem log_succ (f : Nat → List α) (t : Nat) : log f (t + 1) = log f t ++ f t := by
  rw [log, List.range_succ, List.flatMap_append, List.flatMap_singleton, log]

theorem log_mono (f : Nat → List α) {t u : Nat} (h : t ≤ u) : log f t <+: log f u := by
  induction h with
  | refl => exact List.prefix_rfl
  | @step u _ ih =>
    rw [log_succ]
    exact ih.trans (List.prefix_append ..)

theorem length_log_lt {f : Nat → List α} {t u v : Nat} (htv : t ≤ v) (hvu : v < u)
    (hne : f v ≠ []) : (log f t).length < (log f u).length := by
  have hbefore := (log_mono f htv).length_le
  have hafter := (log_mono f (Nat.succ_le_of_lt hvu)).length_le
  rw [log_succ, List.length_append] at hafter
  have hpos := List.length_pos_iff.mpr hne
  omega

/-- What passes a second point `d` steps after it passes the first, and nothing before. -/
theorem log_delay {f g : Nat → List α} {d : Nat} (hsoon : ∀ t < d, g t = [])
    (h : ∀ t, g (t + d) = f t) (t : Nat) : log g (t + d) = log f t := by
  induction t with
  | zero =>
    rw [Nat.zero_add, log_zero, log, List.flatMap_eq_nil_iff]
    exact fun u hu => hsoon u (List.mem_range.mp hu)
  | succ t ih => rw [Nat.succ_add, log_succ, ih, h, log_succ]

/-- Nothing appears, gets lost or overtakes. -/
theorem log_conserved {held inp out : Nat → List α} (h0 : held 0 = [])
    (hstep : ∀ t, held t ++ inp t = out t ++ held (t + 1)) (t : Nat) :
    log inp t = log out t ++ held t := by
  induction t with
  | zero => rw [log_zero, log_zero, h0, List.nil_append]
  | succ t ih => rw [log_succ, ih, List.append_assoc, hstep, ← List.append_assoc, log_succ]

/-- All that had gone in is out as soon as as many have come out as were held. -/
theorem log_prefix_of_length {held inp out : Nat → List α} (h0 : held 0 = [])
    (hstep : ∀ t, held t ++ inp t = out t ++ held (t + 1)) {t u : Nat} (htu : t ≤ u)
    (hlen : (log out t).length + (held t).length ≤ (log out u).length) :
    log inp t <+: log out u := by
  have hin : log inp t <+: log inp u := log_mono inp htu
  have hout : log out u <+: log inp u := by
    rw [log_conserved h0 hstep]
    exact List.prefix_append ..
  refine List.prefix_of_prefix_length_le hin hout ?_
  rw [log_conserved h0 hstep t, List.length_append]
  exact hlen

section Within

variable {held inp out : Nat → List α} (rank : Nat → Nat) {B a t n : Nat}

/-- A block that holds something gives something before its rank has run down. -/
theorem exists_out (hstep : ∀ t, held t ++ inp t = out t ++ held (t + 1))
    (hrank : ∀ t, a ≤ t → held t ≠ [] → out t ≠ [] ∨ rank (t + 1) < rank t)
    (hat : a ≤ t) (hheld : held t ≠ []) : ∃ u, t ≤ u ∧ u ≤ t + rank t ∧ out u ≠ [] := by
  induction hr : rank t using Nat.strong_induction_on generalizing t with
  | _ r ih =>
    by_cases hout : out t = []
    · have hlt : rank (t + 1) < rank t :=
        (hrank t hat hheld).resolve_left (not_not_intro hout)
      have hheld' : held (t + 1) ≠ [] := by
        have hkept := hstep t
        rw [hout, List.nil_append] at hkept
        rw [← hkept]
        exact List.append_ne_nil_of_left_ne_nil hheld _
      obtain ⟨u, htu, hu, hne⟩ := ih _ (hr ▸ hlt) (show a ≤ t + 1 by omega) hheld' rfl
      exact ⟨u, by omega, by omega, hne⟩
    · exact ⟨t, Nat.le_refl t, Nat.le_add_right t _, hout⟩

/-- Of the items held at `t`, `n` are out after `n` times the bound. -/
theorem length_log_within (h0 : held 0 = [])
    (hstep : ∀ t, held t ++ inp t = out t ++ held (t + 1))
    (hrank : ∀ t, a ≤ t → held t ≠ [] → out t ≠ [] ∨ rank (t + 1) < rank t)
    (hB : ∀ t, a ≤ t → rank t < B) (hat : a ≤ t) (hn : n ≤ (held t).length) :
    (log out t).length + n ≤ (log out (t + B * n)).length := by
  induction n with
  | zero => exact Nat.le_refl _
  | succ n ih =>
    have hout := ih (Nat.le_of_succ_le hn)
    by_cases hmore : (log out t).length + (n + 1) ≤ (log out (t + B * n)).length
    · exact hmore.trans (log_mono out (by rw [Nat.mul_succ]; omega)).length_le
    · -- of the items held at `t` at least one has not come out
      have hheld : held (t + B * n) ≠ [] := by
        intro hnil
        have hall := log_conserved h0 hstep (t + B * n)
        have hgrow := (log_mono inp (Nat.le_add_right t (B * n))).length_le
        rw [hall, hnil, log_conserved h0 hstep t, List.append_nil, List.length_append] at hgrow
        omega
      have hat' : a ≤ t + B * n := by omega
      obtain ⟨u, htu, hu, hne⟩ := exists_out rank hstep hrank hat' hheld
      have hrankB := hB (t + B * n) hat'
      have hout' := length_log_lt htu (show u < t + B * (n + 1) by rw [Nat.mul_succ]; omega) hne
      omega

/-- **All that has gone in is out** after the bound for each item held. -/
theorem log_within (h0 : held 0 = [])
    (hstep : ∀ t, held t ++ inp t = out t ++ held (t + 1))
    (hrank : ∀ t, a ≤ t → held t ≠ [] → out t ≠ [] ∨ rank (t + 1) < rank t)
    (hB : ∀ t, a ≤ t → rank t < B) (hat : a ≤ t) (hn : (held t).length ≤ n) :
    log inp t <+: log out (t + B * n) := by
  have hlen := length_log_within rank h0 hstep hrank hB hat (Nat.le_refl (held t).length)
  have hmono := (log_mono out (Nat.add_le_add_left (Nat.mul_le_mul_left B hn) t)).length_le
  exact log_prefix_of_length h0 hstep (Nat.le_add_right t _) (hlen.trans hmono)

end Within

end Clocked
