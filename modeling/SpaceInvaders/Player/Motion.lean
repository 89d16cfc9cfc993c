import Mathlib.Data.BitVec

/-!
# `player`: the position of the ship

The `posedge frame_clk` process of `player.sv` owns the two position registers
and nothing else writes them, so it is a machine of its own. The keys come before
`Reset` in its `if` chain.
-/

namespace SpaceInvaders

/-- What one `posedge frame_clk` of `player` samples. -/
structure MotionIn where
  reset : Bool
  keycode : BitVec 8

/-- The position registers of `player`. -/
structure PlayerMotion where
  playerStartX : BitVec 10
  playerStartY : BitVec 10
  deriving DecidableEq

namespace PlayerMotion

/-- `player_X_Center` and `player_Y_Center`, which are also the power-up values. -/
def center : PlayerMotion := { playerStartX := 320#10, playerStartY := 420#10 }

/-- The left step is taken: `A`, off the left border. -/
def StepsLeft (p : PlayerMotion) (keycode : BitVec 8) : Prop :=
  keycode = 0x04#8 ∧ 0#10 < p.playerStartX

/-- The right step is taken: `D`, off the right border. -/
def StepsRight (p : PlayerMotion) (keycode : BitVec 8) : Prop :=
  keycode = 0x07#8 ∧ p.playerStartX < 563#10

instance (p : PlayerMotion) (keycode : BitVec 8) : Decidable (p.StepsLeft keycode) :=
  inferInstanceAs (Decidable (_ ∧ _))

instance (p : PlayerMotion) (keycode : BitVec 8) : Decidable (p.StepsRight keycode) :=
  inferInstanceAs (Decidable (_ ∧ _))

/-- One `posedge frame_clk`. -/
def frame (p : PlayerMotion) (i : MotionIn) : PlayerMotion :=
  if p.StepsLeft i.keycode then { p with playerStartX := p.playerStartX - 5#10 }
  else if p.StepsRight i.keycode then { p with playerStartX := p.playerStartX + 5#10 }
  else if i.reset then center
  else p

/-- No edge moves the ship vertically. -/
theorem frame_playerStartY {p : PlayerMotion} (h : p.playerStartY = 420#10)
    (i : MotionIn) : (p.frame i).playerStartY = 420#10 := by
  unfold frame
  split_ifs
  · exact h
  · exact h
  · rfl
  · exact h

end PlayerMotion

end SpaceInvaders
