import Mathlib.Data.Finset.Prod
import Mathlib.Order.Interval.Finset.Nat
import SpaceInvaders.Clocked.Run
import SpaceInvaders.Player.Sprite

/-!
# The ship never leaves the screen

The guards of the two steps are `> 0` and `< 563` while the step is 5, so the
borders are not invariant by themselves: from 3 the left step would wrap. What is
invariant is the grid. The ship starts at 320, every step and the reset keep it at
a multiple of 5 (`onGrid_frame`), and on the grid `> 0` is `≥ 5` and `< 563` is
`≤ 560`.
-/

namespace SpaceInvaders

open Clocked (run)

namespace PlayerMotion

/-- On the grid of the steps, and in the row of the start. -/
structure OnGrid (p : PlayerMotion) : Prop where
  multiple : p.playerStartX.toNat % 5 = 0
  le : p.playerStartX.toNat ≤ 565
  startY : p.playerStartY = 420#10

/-- The pixels of the ship's box, with no wrap-around. -/
def pixels (p : PlayerMotion) : Finset (Nat × Nat) :=
  Finset.Ico p.playerStartX.toNat (p.playerStartX.toNat + playerWidth) ×ˢ
    Finset.Ico p.playerStartY.toNat (p.playerStartY.toNat + playerHeight)

/-- `start_draw`, for the ship at `p`. -/
def selects (p : PlayerMotion) (drawX drawY : BitVec 10) : Bool :=
  PlayerSprite.startDraw
    { reset := false, drawX, drawY, playerStartX := p.playerStartX,
      playerStartY := p.playerStartY }

/-- The ship is on the grid and on the screen, its left step does not wrap, and
`start_draw` selects its box. -/
structure OnScreen (p : PlayerMotion) : Prop where
  grid : p.OnGrid
  right : p.playerStartX.toNat + playerWidth ≤ 640
  bottom : p.playerStartY.toNat + playerHeight ≤ 480
  leftStep : ∀ i : MotionIn, p.StepsLeft i.keycode →
    5 ≤ p.playerStartX.toNat ∧
      (p.frame i).playerStartX.toNat = p.playerStartX.toNat - 5
  box : ∀ drawX drawY, p.selects drawX drawY = true ↔
    (drawX.toNat, drawY.toNat) ∈ p.pixels
  size : p.pixels.card = 36 * 40
  visible : p.pixels ⊆ Finset.range 640 ×ˢ Finset.range 480

section Step

variable {p : PlayerMotion}

/-- On the grid the left step has five pixels to go. -/
theorem stepLeft_toNat (h : p.OnGrid) {keycode : BitVec 8} (hleft : p.StepsLeft keycode) :
    5 ≤ p.playerStartX.toNat ∧
      (p.playerStartX - 5#10).toNat = p.playerStartX.toNat - 5 := by
  have hpos : 0 < p.playerStartX.toNat := BitVec.lt_def.mp hleft.2
  have hmultiple := h.multiple
  have hfive : 5 ≤ p.playerStartX.toNat := by omega
  exact ⟨hfive, BitVec.toNat_sub_of_le (BitVec.le_def.mpr hfive)⟩

/-- On the grid the right step ends at 565 at most. -/
theorem stepRight_toNat (h : p.OnGrid) {keycode : BitVec 8} (hright : p.StepsRight keycode) :
    p.playerStartX.toNat ≤ 560 ∧
      (p.playerStartX + 5#10).toNat = p.playerStartX.toNat + 5 := by
  have hlt : p.playerStartX.toNat < 563 := BitVec.lt_def.mp hright.2
  have hmultiple := h.multiple
  refine ⟨by omega, BitVec.toNat_add_of_lt (y := 5#10) ?_⟩
  show p.playerStartX.toNat + 5 < 1024
  omega

/-- **Every edge keeps the ship on the grid.** -/
theorem onGrid_frame (h : p.OnGrid) (i : MotionIn) : (p.frame i).OnGrid := by
  have hmultiple := h.multiple
  have hle := h.le
  have hy := frame_playerStartY h.startY i
  unfold frame at hy ⊢
  split_ifs at hy ⊢ with hleft hright hreset
  · obtain ⟨hfive, hx⟩ := stepLeft_toNat h hleft
    refine ⟨?_, ?_, hy⟩
    · rw [hx]
      omega
    · rw [hx]
      omega
  · obtain ⟨hlt, hx⟩ := stepRight_toNat h hright
    refine ⟨?_, ?_, hy⟩
    · rw [hx]
      omega
    · rw [hx]
      omega
  · exact ⟨by decide, by decide, hy⟩
  · exact h

/-- A ship on the grid is on the screen. -/
theorem onScreen_of_onGrid (h : p.OnGrid) : p.OnScreen := by
  have hle := h.le
  have hy : p.playerStartY.toNat = 420 := by rw [h.startY]; rfl
  refine ⟨h, ?_, ?_, ?_, ?_, ?_, ?_⟩
  · unfold playerWidth
    omega
  · unfold playerHeight
    omega
  · intro i hleft
    have hstep := stepLeft_toNat h hleft
    refine ⟨hstep.1, ?_⟩
    unfold frame
    rw [if_pos hleft]
    exact hstep.2
  · intro drawX drawY
    simp only [selects, PlayerSprite.startDraw, pixels, Bool.and_eq_true, decide_eq_true_eq,
      Finset.mem_product, Finset.mem_Ico, and_assoc]
  · rw [pixels, Finset.card_product, Nat.card_Ico, Nat.card_Ico, Nat.add_sub_cancel_left,
      Nat.add_sub_cancel_left]
    rfl
  · intro pixel hpixel
    rw [pixels, Finset.mem_product, Finset.mem_Ico, Finset.mem_Ico, hy] at hpixel
    unfold playerWidth playerHeight at hpixel
    rw [Finset.mem_product, Finset.mem_range, Finset.mem_range]
    omega

end Step

/-- **The ship never leaves the screen**, whatever the keys and resets. -/
theorem staysOnScreen (inp : Nat → MotionIn) (t : Nat) :
    (run frame center inp t).OnScreen := by
  refine onScreen_of_onGrid (Clocked.run_inv OnGrid ?_ (fun p i h => onGrid_frame h i) t)
  exact ⟨by decide, by decide, rfl⟩

end PlayerMotion

end SpaceInvaders
