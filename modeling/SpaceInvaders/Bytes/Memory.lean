import Mathlib.Logic.Function.Basic

/-!
# Memory, cell by cell

A memory holds at each address what was last stored there, if anything was. Blocks
are stored and loaded cell by cell, left to right. Three facts carry the rest: what
a cell holds after a block is stored (`store_apply`), that two blocks stored one
after the other are one block (`store_append`), and that a load sees exactly the
cells it covers (`load_of_holds`): it fails on a cell that holds nothing, and what
it does not cover may hold anything.
-/

namespace Memory

variable {α : Type}

/-- What each cell holds. -/
abbrev Cells (α : Type) := Nat → Option α

/-- Nothing has been stored. -/
def blank : Cells α := fun _ => none

/-- The block `bs` stored from address `p` on. -/
def store (m : Cells α) (p : Nat) : List α → Cells α
  | [] => m
  | b :: bs => store (Function.update m p (some b)) (p + 1) bs

/-- The block of `n` cells from address `p` on, if all of them hold something. -/
def load (m : Cells α) (p : Nat) : Nat → Option (List α)
  | 0 => some []
  | n + 1 => do
    let b ← m p
    let bs ← load m (p + 1) n
    return b :: bs

/-- From address `p` on, `m` holds the block `bs`. -/
def Holds (m : Cells α) (p : Nat) (bs : List α) : Prop :=
  ∀ k, k < bs.length → m (p + k) = bs[k]?

/-! ## Stores -/

/-- What a cell holds after a block is stored. -/
theorem store_apply (m : Cells α) (p : Nat) (bs : List α) (a : Nat) :
    store m p bs a = if p ≤ a ∧ a < p + bs.length then bs[a - p]? else m a := by
  induction bs generalizing m p with
  | nil =>
    rw [if_neg]
    · rfl
    · rw [List.length_nil]
      omega
  | cons b bs ih =>
    rw [store, ih, List.length_cons]
    by_cases hfirst : a = p
    · rw [if_neg (by omega), if_pos (by omega), hfirst, Function.update_self, Nat.sub_self]
      rfl
    · rw [Function.update_of_ne hfirst]
      by_cases hin : p + 1 ≤ a ∧ a < p + 1 + bs.length
      · rw [if_pos hin, if_pos (by omega), show a - p = (a - (p + 1)) + 1 by omega,
          List.getElem?_cons_succ]
      · rw [if_neg hin, if_neg (by omega)]

/-- Two blocks, one after the other. -/
theorem store_append (m : Cells α) (p : Nat) (bs cs : List α) :
    store m p (bs ++ cs) = store (store m p bs) (p + bs.length) cs := by
  induction bs generalizing m p with
  | nil => rfl
  | cons b bs ih =>
    rw [List.cons_append, store, store, ih, List.length_cons,
      show p + (bs.length + 1) = p + 1 + bs.length by omega]

/-- A stored block is held. -/
theorem holds_store (m : Cells α) (p : Nat) (bs : List α) : Holds (store m p bs) p bs := by
  intro k hk
  rw [store_apply, if_pos (by omega), Nat.add_sub_cancel_left]

/-! ## Loads -/

theorem holds_cons {m : Cells α} {p : Nat} {b : α} {bs : List α} :
    Holds m p (b :: bs) ↔ m p = some b ∧ Holds m (p + 1) bs := by
  refine ⟨fun h => ⟨h 0 (Nat.succ_pos _), fun k hk => ?_⟩, fun h k hk => ?_⟩
  · have hcell := h (k + 1) (Nat.succ_lt_succ hk)
    rwa [show p + (k + 1) = p + 1 + k by omega] at hcell
  · cases k with
    | zero => exact h.1
    | succ k =>
      rw [show p + (k + 1) = p + 1 + k by omega]
      exact h.2 k (Nat.lt_of_succ_lt_succ hk)

/-- A load sees the cells it covers, and no others. -/
theorem load_of_holds {m : Cells α} {p : Nat} {bs : List α} (h : Holds m p bs) :
    load m p bs.length = some bs := by
  induction bs generalizing p with
  | nil => rfl
  | cons b bs ih =>
    obtain ⟨hb, hbs⟩ := holds_cons.mp h
    rw [List.length_cons, load, hb, ih hbs]
    rfl

end Memory
