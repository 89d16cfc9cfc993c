import Mathlib.Algebra.BigOperators.Ring.Finset
import Mathlib.Algebra.Ring.Parity
import SpaceInvaders.Enemy.Array

/-!
# What the sums over the drawers merge

`enemy_array` merges twenty-one flags and colours with `+` at the width of the
result. On one bit that is parity, so two drawers that are on at once cancel,
and `ee2` does not reach the sum by its own net at all. The colours are harmless
for a reason of their own: `read_addr` has no driver, and the word both sprite
memories hold at address 0 is black.

`mergedWithoutLoss_iff` is exact: the layer is merged without loss in a state
precisely when no flag is up or an odd number of the driven flag nets is high.
-/

namespace SpaceInvaders

open Clocked (Edge run run_inv)

/-- A sum of one-bit nets, one bit wide, is their parity. -/
theorem sum_ofBool_eq_one_iff {α : Type} [Fintype α] (b : α → Bool) :
    (∑ k, BitVec.ofBool (b k)) = 1#1 ↔
      Odd (Finset.univ.filter fun k => b k = true).card := by
  have hbit : ∀ k, BitVec.ofBool (b k) = if b k = true then (1 : BitVec 1) else 0 := by
    intro k
    cases b k <;> rfl
  rw [Finset.sum_congr rfl (fun k _ => hbit k), ← Finset.natCast_card_filter,
    Nat.odd_iff, BitVec.natCast_eq_ofNat, ← BitVec.toNat_inj]
  simp only [BitVec.toNat_ofNat]

namespace EnemyArray

/-- Drawer `k` has its flag up. -/
def FlagOn (s : EnemyArray) (k : Inst) : Prop := (s.drawers k).enemyOn = true

instance (s : EnemyArray) (k : Inst) : Decidable (s.FlagOn k) :=
  inferInstanceAs (Decidable (_ = _))

/-- The colour outputs of one drawer. -/
def rgbOf (s : EnemyArray) (k : Inst) : BitVec 8 × BitVec 8 × BitVec 8 :=
  ((s.drawers k).enemyR, (s.drawers k).enemyG, (s.drawers k).enemyB)

/-- `enemy_on` is up when some drawer's flag is, and the merged colour of the drawers
that are on is the colour of one of them. -/
def MergedWithoutLoss (resolve : Bool → Bool → Bool) (s : EnemyArray) : Prop :=
  (s.enemyOn resolve = true ↔ ∃ k, s.FlagOn k) ∧
    ∀ S : Set Inst, (∀ k, k ∈ S ↔ s.FlagOn k) → S.Nonempty →
      ∃ k ∈ S, (s.enemyR, s.enemyG, s.enemyB) = s.rgbOf k

/-- No flag is up, or an odd number of the driven flag nets is high. -/
def OddOrDark (resolve : Bool → Bool → Bool) (s : EnemyArray) : Prop :=
  (∀ k, ¬ s.FlagOn k) ∨
    Odd (Finset.univ.filter fun k => s.onNet resolve k = true).card

/-! ## The flags -/

theorem enemyOn_iff_odd (resolve : Bool → Bool → Bool) (s : EnemyArray) :
    s.enemyOn resolve = true ↔
      Odd (Finset.univ.filter fun k => s.onNet resolve k = true).card := by
  rw [enemyOn, decide_eq_true_iff]
  exact sum_ofBool_eq_one_iff _

/-- With every flag low every net is low, the doubly driven one because its
drivers agree. -/
theorem onNet_dark {resolve : Bool → Bool → Bool} (hres : ∀ b, resolve b b = b)
    {s : EnemyArray} (h : ∀ k, ¬ s.FlagOn k) (k : Inst) : s.onNet resolve k = false := by
  have hlow : ∀ j, (s.drawers j).enemyOn = false := fun j => by simpa [FlagOn] using h j
  unfold onNet
  split
  · rw [hlow, hlow, hres]
  · rfl
  · exact hlow k

theorem enemyOn_merged_iff {resolve : Bool → Bool → Bool}
    (hres : ∀ b, resolve b b = b) (s : EnemyArray) :
    (s.enemyOn resolve = true ↔ ∃ k, s.FlagOn k) ↔ s.OddOrDark resolve := by
  rw [enemyOn_iff_odd, OddOrDark]
  by_cases hdark : ∀ k, ¬ s.FlagOn k
  · have hnone : (Finset.univ.filter fun k => s.onNet resolve k = true) = ∅ := by
      refine Finset.filter_eq_empty_iff.mpr (fun k _ => ?_)
      rw [onNet_dark hres hdark k]
      decide
    rw [hnone]
    simp [hdark]
  · have hex : ∃ k, s.FlagOn k := by simpa using hdark
    rw [iff_true_right hex, or_iff_right hdark]

/-! ## The colours -/

/-- The memories deliver black, and have done so since power-up. -/
def DataBlack (s : EnemyArray) : Prop := ∀ k, (s.drawers k).dataOut = 0#24

theorem dataBlack_step (s : EnemyArray) (e : Edge ArrayIn) (h : s.DataBlack) :
    (step s e).DataBlack := by
  intro k
  cases e with
  | slow => exact h k
  | fast i =>
    have hmem : ∀ j : Inst, j.drawerModule.mem0 = 0#24 := by decide
    exact (Drawer.clk_dataOut ..).trans (hmem k)

theorem colour_black {s : EnemyArray} (h : s.DataBlack) (k : Inst) (bit : Nat) :
    (s.drawers k).colour bit = 0#8 := by
  simp [Drawer.colour, h k]

/-- Black merges into black. -/
theorem rgb_eq_rgbOf {s : EnemyArray} (h : s.DataBlack) (k : Inst) :
    (s.enemyR, s.enemyG, s.enemyB) = s.rgbOf k := by
  simp [enemyR, enemyG, enemyB, rgbOf, Drawer.enemyR, Drawer.enemyG, Drawer.enemyB,
    colour_black h]

/-! ## The merged layer -/

/-- **When the invader layer is merged without loss**, in every reachable state. -/
theorem mergedWithoutLoss_iff {resolve : Bool → Bool → Bool}
    (hres : ∀ b, resolve b b = b) {s₀ : EnemyArray} (hp : s₀.PowerUp)
    (ev : Nat → Edge ArrayIn) (t : Nat) :
    (run step s₀ ev t).MergedWithoutLoss resolve ↔
      (run step s₀ ev t).OddOrDark resolve := by
  have hblack : (run step s₀ ev t).DataBlack :=
    run_inv DataBlack hp.dataOut dataBlack_step t
  rw [← enemyOn_merged_iff hres]
  refine ⟨fun h => h.1, fun h => ⟨h, fun S _ hne => ?_⟩⟩
  obtain ⟨k, hk⟩ := hne
  exact ⟨k, hk, rgb_eq_rgbOf hblack k⟩

/-- `ee3` found by the scan. -/
def oneOn : Nat → Edge ArrayIn :=
  Clocked.script
    [.fast { ArrayIn.low with start := true }, .fast { ArrayIn.low with drawX := 146#10 }]
    (.fast .low)

/-- One drawer on: the layer is what that drawer draws. -/
theorem oneOn_merged : (run step powerUp oneOn 3).MergedWithoutLoss (· || ·) := by
  refine (mergedWithoutLoss_iff (by decide) powerUp_powerUp oneOn 3).mpr (Or.inr ?_)
  decide +kernel

/-- `ee3` found by the scan, then `ee4` while `ee3` still streams its row. -/
def twoOn : Nat → Edge ArrayIn :=
  Clocked.script
    [.fast { ArrayIn.low with start := true }, .fast { ArrayIn.low with drawX := 146#10 },
      .fast { ArrayIn.low with drawX := 218#10 }]
    (.fast .low)

/-- Two drawers on, and no invader on the screen. -/
theorem twoOn_cancel : ¬ (run step powerUp twoOn 4).MergedWithoutLoss (· || ·) := by
  intro h
  have hon : (run step powerUp twoOn 4).enemyOn (· || ·) = true :=
    h.1.mpr ⟨(.ee, 2), by decide⟩
  exact absurd hon (by decide +kernel)

end EnemyArray

end SpaceInvaders
