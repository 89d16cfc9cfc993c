import SpaceInvaders.ColorMapper
import SpaceInvaders.Enemy.Array
import SpaceInvaders.Game.Fsm
import SpaceInvaders.Player.Beam
import SpaceInvaders.Player.Screen
import SpaceInvaders.Vga.Frame

/-!
# `lab8`: the board

The top level connects `vga_controller`, `gameFSM`, `enemy_array`, `player` and
`color_mapper`, here on the one clock they really share: all of them sample `Clk`, and
what else looks like a clock is derived from it or is none.

- `player` moves on `VGA_Clk`, the divided clock of the controller, so the ship's edge
  is part of the `Clk` edge that raises it (`risesPixelClk`). The controller holds that
  clock low as long as `Reset_h` is high.
- `enemy_array` is connected to `Vga_Clk`, which is no declared name and so a net of its
  own, without a driver: its `frame_clk` processes see no edge.
- `bulletsig` is such a net too, and reads low; the bullet's coordinates come from
  declared nets without a driver, and the port `enemy_G` of `color_mapper` is left open.

Mirroring notes:
- `Reset_h` is `~KEY[0]`. Its level is sampled by the `Clk` edges; its rising edge
  resets the controller and is an edge of its own.
- `keycode` is written by the processor: any byte, at every edge.
- Every process samples the nets of before the edge. The ship's process is triggered by
  a register of the controller and comes after the `Clk` processes; it writes nothing
  that they read in that edge.
-/

namespace SpaceInvaders

open Clocked (run run_succ)

/-- The registers behind the top level. -/
structure Lab8 where
  vga : VgaController
  fsm : GameFSM
  array : EnemyArray
  player : Player

/-- `posedge Clk`, with what it samples from outside, and `posedge Reset_h`. -/
inductive BoardEdge where
  | clk (resetH : Bool) (keycode : BitVec 8)
  | resetH
  deriving DecidableEq

namespace Lab8

/-! ## Nets -/

/-- The net `bulletsig`, which nothing drives. -/
def bulletsig : Bool := false

/-- The nets `bullet_Xsig` and `bullet_Ysig`, which nothing drives. -/
def bulletXsig : BitVec 1 := 0

def bulletYsig : BitVec 1 := 0

section Nets

variable (resolve : Bool → Bool → Bool) (b : Lab8)

/-- The inputs of `color_mapper`. -/
def colorIn : ColorIn :=
  { drawX := b.vga.drawX
    drawY := b.vga.drawY
    bulletIn := bulletsig
    bulletX := bulletXsig.setWidth 10
    bulletY := bulletYsig.setWidth 10
    playerColor := b.player.sprite.playerColor
    enemyR := b.array.enemyR
    enemyG := 0
    enemyB := b.array.enemyB
    playerOn := b.player.sprite.playerOn
    enemyOn := b.array.enemyOn resolve }

/-- The net `hit`. -/
def hit : Bool := ColorMapper.hit (b.colorIn resolve).enemyOn (b.colorIn resolve).bulletIn

def fsmIn (resetH : Bool) (keycode : BitVec 8) : FsmIn :=
  { reset := resetH, keycode, finished := b.array.finished }

def arrayIn (resetH : Bool) : ArrayIn :=
  { reset := resetH
    start := b.fsm.start
    hit := b.hit resolve
    isPlaying := b.fsm.isPlaying
    drawX := b.vga.drawX
    drawY := b.vga.drawY }

/-- The `Clk` edge raises `VGA_Clk`. -/
def risesPixelClk (resetH : Bool) : Bool :=
  !b.vga.pixelClk && (b.vga.clk resetH).pixelClk

end Nets

/-! ## Edges -/

variable (resolve : Bool → Bool → Bool) (mem : BitVec 19 → BitVec 24)

def step (b : Lab8) : BoardEdge → Lab8
  | .clk resetH keycode =>
    { vga := b.vga.step (.clk resetH)
      fsm := b.fsm.clk (b.fsmIn resetH keycode)
      array := b.array.clk (b.arrayIn resolve resetH)
      player :=
        let player := b.player.step mem (.clk resetH b.vga.drawX b.vga.drawY)
        if b.risesPixelClk resetH then player.step mem (.frame { reset := resetH, keycode })
        else player }
  | .resetH => { b with vga := b.vga.step .reset }

/-- What is fixed at power-up. -/
structure PowerUp (b : Lab8) : Prop where
  vga : b.vga = VgaController.cleared
  fsm : b.fsm = GameFSM.powerUp
  array : b.array.PowerUp
  motion : b.player.motion = PlayerMotion.center
  sprite : b.player.sprite = PlayerSprite.powerUp

def powerUp : Lab8 :=
  { vga := VgaController.cleared
    fsm := GameFSM.powerUp
    array := EnemyArray.powerUp
    player := { motion := PlayerMotion.center, sprite := PlayerSprite.powerUp } }

theorem powerUp_powerUp : powerUp.PowerUp :=
  ⟨rfl, rfl, EnemyArray.powerUp_powerUp, rfl, rfl⟩

/-- From edge `a` up to edge `t` the reset button is not touched. -/
def NoReset (ev : Nat → BoardEdge) (a t : Nat) : Prop :=
  ∀ u, a ≤ u → u < t → ∃ keycode, ev u = .clk false keycode

/-- A press of the reset button lasts until the next `Clk` edge. -/
def ResetHeld (ev : Nat → BoardEdge) : Prop :=
  ∀ t, ev t = .resetH → ∃ keycode, ev (t + 1) = .clk true keycode

theorem NoReset.mono {ev : Nat → BoardEdge} {a t b c : Nat} (h : NoReset ev a t)
    (hab : a ≤ b) (hct : c ≤ t) : NoReset ev b c :=
  fun u hbu huc => h u (hab.trans hbu) (huc.trans_le hct)

/-! ## What one edge does to each module -/

section Step

variable (b : Lab8)

@[simp] theorem step_vga (resetH : Bool) (keycode : BitVec 8) :
    (b.step resolve mem (.clk resetH keycode)).vga = b.vga.clk resetH := rfl

@[simp] theorem step_fsm (resetH : Bool) (keycode : BitVec 8) :
    (b.step resolve mem (.clk resetH keycode)).fsm = b.fsm.clk (b.fsmIn resetH keycode) := rfl

@[simp] theorem step_array (resetH : Bool) (keycode : BitVec 8) :
    (b.step resolve mem (.clk resetH keycode)).array
      = b.array.clk (b.arrayIn resolve resetH) := rfl

/-- The drawer of the ship samples the beam and the ship of before the edge. -/
@[simp] theorem step_sprite (resetH : Bool) (keycode : BitVec 8) :
    (b.step resolve mem (.clk resetH keycode)).player.sprite
      = b.player.sprite.clk mem (b.player.spriteIn resetH b.vga.drawX b.vga.drawY) := by
  simp only [step]
  split_ifs
  · rfl
  · rfl

/-- The clock that moves the ship stands still while `Reset_h` is high. -/
theorem risesPixelClk_eq (resetH : Bool) :
    b.risesPixelClk resetH = (!resetH && !b.vga.clkdiv) := by
  unfold risesPixelClk VgaController.pixelClk
  rw [VgaController.clk_clkdiv]
  cases resetH <;> cases b.vga.clkdiv <;> rfl

/-- The ship moves at every other edge, and never on a reset. -/
theorem step_motion (resetH : Bool) (keycode : BitVec 8) :
    (b.step resolve mem (.clk resetH keycode)).player.motion
      = if b.risesPixelClk resetH then b.player.motion.frame { reset := false, keycode }
        else b.player.motion := by
  have hreset : b.risesPixelClk resetH = true → resetH = false := by
    rw [risesPixelClk_eq]
    cases resetH <;> simp
  simp only [step]
  split_ifs with hrise
  · rw [hreset hrise]
    rfl
  · rfl

/-- An edge of `Reset_h` leaves all but the controller alone. -/
@[simp] theorem step_resetH_vga :
    (b.step resolve mem .resetH).vga = VgaController.cleared := rfl

end Step

end Lab8

end SpaceInvaders
