import SpaceInvaders.Lab8.Board

/-!
# Where the board paints the ship

On the board the beam, the ship and its drawer are one machine. The ship is on its grid
whatever is pressed, the beam in its frame, and the drawer where the beam has it
(`Steady`); every edge without a reset keeps that (`steady_clk`), and a reset starts it
over (`run_steady`). What follows is that the place of a word on the screen does not
depend on the place of the ship: the picture is painted at the left border
(`run_painted`).

The reset button does not move the ship either. `player` has a branch for it, but
samples it on the clock that the button stops (`run_motion`).
-/

namespace SpaceInvaders

open Clocked (run run_succ emitted emitted_succ)

namespace Lab8

/-- Beam, ship and drawer are in step. -/
structure Steady (b : Lab8) : Prop where
  beam : b.vga.InFrame
  ship : b.player.motion.OnGrid
  drawer : b.player.sprite.Phase b.vga.half

/-- The word that is being drawn, number `player_X_Pos` of row `player_Y_Pos`, is one of the
picture and stands in the columns 0 to 18 of its line, two words to a column; a first row may
be in column 36 and after. -/
def Painted (b : Lab8) : Prop :=
  b.player.sprite.playerXPos.toNat < playerWidth ∧
    b.player.sprite.playerYPos.toNat < playerHeight ∧
    (b.vga.drawX.toNat = (b.player.sprite.playerXPos.toNat + 1) / 2 ∧
        420 + b.player.sprite.playerYPos.toNat ≤ b.vga.drawY.toNat ∧
        b.vga.drawY.toNat ≤ 460 + b.player.sprite.playerYPos.toNat ∨
      b.player.sprite.playerYPos.toNat = 0 ∧
        36 ≤ b.vga.drawX.toNat ∧ b.vga.drawX.toNat ≤ 54 ∧
        420 ≤ b.vga.drawY.toNat ∧ b.vga.drawY.toNat < 460)

section Step

variable (resolve : Bool → Bool → Bool) (mem : BitVec 19 → BitVec 24) {b : Lab8}

/-- What the drawer samples. -/
theorem sampledAt (hbeam : b.vga.InFrame) (hship : b.player.motion.OnGrid) :
    PlayerSprite.SampledAt b.vga.half
      (b.player.spriteIn false b.vga.drawX b.vga.drawY) where
  reset := rfl
  drawX := by
    show b.vga.drawX.toNat = _
    rw [VgaController.drawX_toNat hbeam]
    unfold PlayerSprite.lineHalves
    omega
  drawY := VgaController.drawY_toNat hbeam
  startX := hship.le
  startY := hship.startY

theorem onGrid_step (hship : b.player.motion.OnGrid) (resetH : Bool) (keycode : BitVec 8) :
    (b.step resolve mem (.clk resetH keycode)).player.motion.OnGrid := by
  rw [step_motion]
  split_ifs
  · exact PlayerMotion.onGrid_frame hship _
  · exact hship

/-- **Every edge without a reset keeps the board steady.** -/
theorem steady_clk (h : b.Steady) (keycode : BitVec 8) :
    (b.step resolve mem (.clk false keycode)).Steady where
  beam := VgaController.inFrame_clk h.beam
  ship := onGrid_step resolve mem h.ship false keycode
  drawer := by
    rw [step_sprite, step_vga, VgaController.half_clk h.beam]
    exact PlayerSprite.phase_clk (sampledAt h.beam h.ship) h.drawer

/-- A `Clk` edge with `Reset_h` high puts the drawer to rest. -/
theorem idle_of_reset (keycode : BitVec 8) :
    (b.step resolve mem (.clk true keycode)).player.sprite.state = .idle ∧
      (b.step resolve mem (.clk true keycode)).player.sprite.playerXPos.toNat = 0 := by
  rw [step_sprite]
  exact ⟨rfl, rfl⟩

theorem painted_of_draw (h : b.Steady) (hs : b.player.sprite.state = .draw) :
    b.Painted := by
  have hx := VgaController.drawX_toNat h.beam
  have hy := VgaController.drawY_toNat h.beam
  rcases h.drawer with ⟨hidle, _⟩ | hb | ⟨he, _, _⟩ | ⟨line, entry, hplaced, hrow, hrest⟩
  · rw [hs] at hidle; cases hidle
  · exact absurd (hs.symm.trans hb.state) (by simp)
  · exact absurd (hs.symm.trans he.1) (by simp)
  · simp only [hs] at hrest
    refine ⟨hrest.1, hrow, ?_⟩
    rw [hx, hy]
    unfold PlayerSprite.Placed at hplaced
    unfold PlayerSprite.rowStart PlayerSprite.lineHalves playerWidth at hrest
    unfold playerHeight at hrow
    split_ifs at hrest with hfirst
    · omega
    · omega

end Step

section Run

variable (resolve : Bool → Bool → Bool) (mem : BitVec 19 → BitVec 24) (b₀ : Lab8)
  (ev : Nat → BoardEdge)

theorem steady_powerUp {b : Lab8} (hp : b.PowerUp) : b.Steady where
  beam := by rw [hp.vga]; decide
  ship := by rw [hp.motion]; exact ⟨by decide, by decide, rfl⟩
  drawer := by rw [hp.sprite]; exact Or.inl ⟨rfl, Or.inl rfl⟩

/-- **The board stays steady** through any keys and resets; between the press of the
button and the next `Clk` edge the drawer alone lags behind. -/
theorem run_steady (hp : b₀.PowerUp) (hheld : ResetHeld ev) (t : Nat) :
    (run (step resolve mem) b₀ ev t).Steady ∨
      (∃ keycode, ev t = .clk true keycode) ∧
        (run (step resolve mem) b₀ ev t).vga.InFrame ∧
        (run (step resolve mem) b₀ ev t).player.motion.OnGrid := by
  induction t with
  | zero => exact Or.inl (steady_powerUp hp)
  | succ t ih =>
    rw [run_succ]
    cases hev : ev t with
    | resetH =>
      refine Or.inr ⟨hheld t hev, ?_, ?_⟩
      · show VgaController.cleared.InFrame
        decide
      · rcases ih with hsteady | ⟨_, _, hship⟩
        · exact hsteady.ship
        · exact hship
    | clk resetH keycode =>
      cases resetH with
      | false =>
        rcases ih with hsteady | ⟨⟨_, hreset⟩, _, _⟩
        · exact Or.inl (steady_clk resolve mem hsteady keycode)
        · rw [hev] at hreset
          cases hreset
      | true =>
        obtain ⟨hidle, hx⟩ := idle_of_reset resolve mem keycode
          (b := run (step resolve mem) b₀ ev t)
        have hboth : (run (step resolve mem) b₀ ev t).vga.InFrame ∧
            (run (step resolve mem) b₀ ev t).player.motion.OnGrid := by
          rcases ih with hsteady | ⟨_, hboth⟩
          · exact ⟨hsteady.beam, hsteady.ship⟩
          · exact hboth
        exact Or.inl ⟨hboth.1, onGrid_step resolve mem hboth.2 true keycode,
          Or.inl ⟨hidle, Or.inl hx⟩⟩

/-- **The ship is painted at the left border**, wherever it is and whatever is
pressed. -/
theorem run_painted (hp : b₀.PowerUp) (hheld : ResetHeld ev) (t : Nat) (keycode : BitVec 8)
    (hev : ev t = .clk false keycode)
    (hs : (run (step resolve mem) b₀ ev t).player.sprite.state = .draw) :
    (run (step resolve mem) b₀ ev t).Painted := by
  rcases run_steady resolve mem b₀ ev hp hheld t with hsteady | ⟨⟨_, hreset⟩, _, _⟩
  · exact painted_of_draw hsteady hs
  · rw [hev] at hreset
    cases hreset

/-! ## The reset button and the ship -/

/-- The key an edge samples. -/
def keyOf : BoardEdge → BitVec 8
  | .clk _ keycode => keycode
  | .resetH => 0

def resetOf : BoardEdge → Bool
  | .clk resetH _ => resetH
  | .resetH => true

/-- The keys the ship has sampled before edge `t`: those of the edges with `Reset_h`
low at which the divided clock was low. -/
def shipKeys (t : Nat) : List (BitVec 8) :=
  emitted (fun u => !resetOf (ev u) && !(run (step resolve mem) b₀ ev u).vga.clkdiv)
    (fun u => keyOf (ev u)) 0 t

/-- **The reset button does not move the ship**: its place is the one that the sampled
keys give from the start, in a run with any number of resets. -/
theorem run_motion (t : Nat) : (run (step resolve mem) b₀ ev t).player.motion
    = (shipKeys resolve mem b₀ ev t).foldl (fun p key => p.frame { reset := false, keycode := key })
        b₀.player.motion := by
  induction t with
  | zero => rfl
  | succ t ih =>
    unfold shipKeys at ih ⊢
    rw [run_succ, emitted_succ _ _ (Nat.zero_le t), List.foldl_append, ← ih]
    cases hev : ev t with
    | resetH => rfl
    | clk resetH keycode =>
      rw [step_motion, risesPixelClk_eq]
      show _ = List.foldl _ _ (if (!resetH && !(run (step resolve mem) b₀ ev t).vga.clkdiv) = true
        then [keycode] else [])
      split_ifs
      · rfl
      · rfl

end Run

end Lab8

end SpaceInvaders
