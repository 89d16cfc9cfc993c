import Mathlib.Data.BitVec
import Mathlib.Tactic.SplitIfs
import SpaceInvaders.Clocked.Run

/-!
# `bullet`: a shot that is never fired

The one process of `bullet.sv` assigns its registers several times over, and of
the non-blocking assignments to a register in one activation the last one wins.
Two of the last ones undo the module: the `else` branch retains `exists` and
`bullet_Y_motion` after the fire key has set them, and the assignment after the
branches moves `bullet_Y_pos` by the old motion, over every reload with 136. So no
activation raises `exists` (`tick_bulletExists`), a module that powers up with its
registers low stays where it is (`grounded_tick`), and the flight the module is
for takes place in no run that contains a shot (`fliesAsMeant_iff`).

Mirroring notes:
- The process runs at `posedge frame_clk` and at `posedge Reset`; either is an
  activation that samples the inputs.
- The ceiling test adds two 10-bit registers in a 32-bit unsigned comparison, so
  the sum does not wrap; `bullet_Y_step`, -1, is 1023 in the register.
- `bullet_Y` and `bullet_size` have no driver, and nothing reads `bullet_size`.
-/

namespace SpaceInvaders

open Clocked (run run_succ run_inv script)

/-- What one activation of `bullet_move` samples. -/
structure BulletIn where
  reset : Bool
  keycode : BitVec 8
  playerXPosition : BitVec 10
  readyGame : Bool
  hit : Bool

/-- The registers of `bullet`; `bulletExists` is `exists`. -/
structure Bullet where
  bulletXPos : BitVec 10
  bulletYPos : BitVec 10
  bulletYMotion : BitVec 10
  bulletExists : Bool
  travel : Bool

namespace Bullet

def bulletYStep : BitVec 10 := BitVec.ofInt 10 (-1)

def bulletYMax : Nat := 0

def bulletYStart : BitVec 10 := 136#10

/-- All registers low. -/
def powerUp : Bullet :=
  { bulletXPos := 0, bulletYPos := 0, bulletYMotion := 0, bulletExists := false,
    travel := false }

/-- `bullet_Y_max >= bullet_Y_pos + bullet_Y_motion` -/
def reachesCeiling (b : Bullet) : Bool :=
  decide (b.bulletYPos.toNat + b.bulletYMotion.toNat ≤ bulletYMax)

/-- The branches of the process, assignment by assignment: `n` is what the
registers are to become, `b` what they are. -/
def branches (b : Bullet) (i : BulletIn) : Bullet :=
  if i.reset then
    { b with bulletExists := false, bulletYMotion := 0, bulletYPos := bulletYStart }
  else
    let n :=
      if i.keycode = 0x44#8 then
        { b with
          bulletExists := true, bulletYMotion := bulletYStep, bulletYPos := bulletYStart }
      else b
    if b.reachesCeiling || i.hit then
      { n with bulletExists := false, bulletYPos := bulletYStart, bulletYMotion := 0 }
    else { n with bulletExists := b.bulletExists, bulletYMotion := b.bulletYMotion }

/-- One activation of the process. -/
def tick (b : Bullet) (i : BulletIn) : Bullet :=
  if i.readyGame then
    { b.branches i with
      travel := b.bulletExists
      bulletYPos := b.bulletYPos + b.bulletYMotion
      bulletXPos := i.playerXPosition }
  else b

/-- `assign bullet_on_screen = travel` -/
def bulletOnScreen (b : Bullet) : Bool := b.travel

/-! ## What one activation does -/

section Tick

variable {b : Bullet} {i : BulletIn}

/-- The position moves by the motion, whatever else was assigned to it. -/
theorem tick_bulletYPos (hready : i.readyGame = true) :
    (b.tick i).bulletYPos = b.bulletYPos + b.bulletYMotion := by
  rw [tick, if_pos hready]

theorem tick_travel (hready : i.readyGame = true) :
    (b.tick i).travel = b.bulletExists := by
  rw [tick, if_pos hready]

/-- **No activation raises `exists`.** -/
theorem tick_bulletExists (h : (b.tick i).bulletExists = true) : b.bulletExists = true := by
  unfold tick branches at h
  split_ifs at h
  · exact h
  · exact h
  · exact h

/-- An activation keeps the motion or ends it. -/
theorem tick_bulletYMotion :
    (b.tick i).bulletYMotion = b.bulletYMotion ∨ (b.tick i).bulletYMotion = 0#10 := by
  unfold tick branches
  split_ifs
  · exact Or.inr rfl
  · exact Or.inr rfl
  · exact Or.inl rfl
  · exact Or.inr rfl
  · exact Or.inl rfl
  · exact Or.inl rfl

end Tick

/-! ## The flight -/

/-- No bullet in flight, and none on the move. -/
structure Grounded (b : Bullet) : Prop where
  bulletExists : b.bulletExists = false
  bulletYMotion : b.bulletYMotion = 0#10
  bulletYPos : b.bulletYPos.toNat ≤ 136

theorem powerUp_grounded : powerUp.Grounded := ⟨rfl, rfl, by decide⟩

/-- **What is grounded stays grounded.** -/
theorem grounded_tick {b : Bullet} {i : BulletIn} (h : b.Grounded) : (b.tick i).Grounded := by
  refine ⟨?_, ?_, ?_⟩
  · refine Bool.eq_false_iff.mpr fun hup => ?_
    exact absurd (h.bulletExists.symm.trans (tick_bulletExists hup)) (by simp)
  · rcases tick_bulletYMotion (b := b) (i := i) with hkeep | hend
    · rw [hkeep, h.bulletYMotion]
    · exact hend
  · cases hready : i.readyGame with
    | true =>
      rw [tick_bulletYPos hready, h.bulletYMotion, BitVec.add_zero]
      exact h.bulletYPos
    | false =>
      rw [tick, hready]
      exact h.bulletYPos

/-- The fire key is down, and nothing speaks against a shot. -/
def Fires (i : BulletIn) : Prop := i.keycode = 0x44#8 ∧ i.reset = false ∧ i.hit = false

/-- The next position of the bullet is the ceiling. -/
def AtCeiling (b : Bullet) : Prop := b.bulletYPos + b.bulletYMotion = 0#10

/-- The flight the module is for. -/
structure FliesAsMeant (s₀ : Bullet) (inp : Nat → BulletIn) : Prop where
  fire : ∀ t, Fires (inp t) → (run tick s₀ inp t).bulletExists = false →
    (run tick s₀ inp (t + 1)).bulletExists = true ∧
      (run tick s₀ inp (t + 1)).bulletYPos = 136#10
  climb : ∀ t, (run tick s₀ inp t).bulletExists = true → (inp t).hit = false →
    (inp t).reset = false → (inp t).keycode ≠ 0x44#8 → ¬ (run tick s₀ inp t).AtCeiling →
    (run tick s₀ inp (t + 1)).bulletYPos.toNat + 1 = (run tick s₀ inp t).bulletYPos.toNat
  ends : ∀ t, (run tick s₀ inp t).bulletExists = true →
    (((run tick s₀ inp (t + 1)).bulletExists = false ∧
        (run tick s₀ inp (t + 1)).bulletYPos = 136#10 ∧
        (run tick s₀ inp (t + 1)).bulletYMotion = 0#10) ↔
      (inp t).hit = true ∨ (inp t).reset = true ∨ (run tick s₀ inp t).AtCeiling)
  bounded : ∀ t, (run tick s₀ inp t).bulletYPos.toNat ≤ 136
  follows : ∀ t, (run tick s₀ inp (t + 1)).bulletOnScreen
    = (run tick s₀ inp t).bulletExists

/-- **When the bullet flies as meant**: when nobody fires. -/
theorem fliesAsMeant_iff {s₀ : Bullet} (h0 : s₀.Grounded) {inp : Nat → BulletIn}
    (hready : ∀ t, (inp t).readyGame = true) :
    FliesAsMeant s₀ inp ↔ ∀ t, ¬ Fires (inp t) := by
  have hgrounded : ∀ t, (run tick s₀ inp t).Grounded :=
    run_inv Grounded h0 fun _ _ h => grounded_tick h
  refine ⟨?_, ?_⟩
  · intro hflies t hfires
    have hup := (hflies.fire t hfires (hgrounded t).bulletExists).1
    exact absurd ((hgrounded (t + 1)).bulletExists.symm.trans hup) (by simp)
  · intro hnone
    refine ⟨?_, ?_, ?_, ?_, ?_⟩
    · intro t hfires
      exact absurd hfires (hnone t)
    · intro t hup
      exact absurd ((hgrounded t).bulletExists.symm.trans hup) (by simp)
    · intro t hup
      exact absurd ((hgrounded t).bulletExists.symm.trans hup) (by simp)
    · intro t
      exact (hgrounded t).bulletYPos
    · intro t
      rw [run_succ]
      exact tick_travel (hready t)

/-- The fire key at the first tick. -/
def fired : Nat → BulletIn :=
  let idle : BulletIn :=
    { reset := false, keycode := 0, playerXPosition := 320, readyGame := true, hit := false }
  script [{ idle with keycode := 0x44 }] idle

/-- A game without a shot. -/
def unfired : Nat → BulletIn := fun _ =>
  { reset := false, keycode := 0, playerXPosition := 320, readyGame := true, hit := false }

theorem unfired_flies_iff : FliesAsMeant powerUp unfired ↔ ∀ t, ¬ Fires (unfired t) :=
  fliesAsMeant_iff powerUp_grounded fun _ => rfl

/-- The key is pressed, and there is no bullet. -/
theorem fired_no_bullet : ¬ FliesAsMeant powerUp fired := by
  intro h
  exact absurd (h.fire 0 ⟨rfl, rfl, rfl⟩ rfl).1 (by decide)

end Bullet

end SpaceInvaders
