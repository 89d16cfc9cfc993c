import Mathlib.Data.BitVec
import Mathlib.Tactic.SplitIfs
import SpaceInvaders.Clocked.Run
import SpaceInvaders.Player.Motion

/-!
# `player`: the sprite of the ship

The `posedge Clk` side of `player.sv`: the draw FSM, its counters and flag, and
the sprite memory `player_spriteRAM`, whose read port is registered on the same
clock and which nobody writes. The position registers belong to the `frame_clk`
process (`Motion.lean`); an edge of the sprite samples them like an input, so that
what is proved for every sequence of positions holds for every motion. `Player` is
both processes together, and `sprite_run` says that its sprite is this machine.

Mirroring notes:
- `always_comb` blocks are taken at their settled values.
- `start_draw` adds the image size at 32 bits, so the sum does not wrap.
- The `if (Reset)` at the end of the process overrides the `if`s before it; the
  memory has no reset.
- The memory's contents, and what a read past its end delivers, are a parameter.
-/

namespace SpaceInvaders

open Clocked (run)

/-- The `enum` of `player`, first literal `IDLE`. -/
inductive SpriteState where
  | idle
  | start
  | awaitPos
  | draw
  | nextLine
  deriving DecidableEq

/-- What one `posedge Clk` of `player` samples. -/
structure SpriteIn where
  reset : Bool
  drawX : BitVec 10
  drawY : BitVec 10
  playerStartX : BitVec 10
  playerStartY : BitVec 10

/-- The registers of the draw FSM, with the output register of the memory. -/
structure PlayerSprite where
  state : SpriteState
  playerXPos : BitVec 10
  playerYPos : BitVec 10
  readAddress : BitVec 19
  playerOn : Bool
  playerColor : BitVec 24

/-- `IMAGE_WIDTH` of `player`. -/
def playerWidth : Nat := 36

/-- `IMAGE_HEIGHT` of `player`. -/
def playerHeight : Nat := 40

namespace PlayerSprite

/-- All registers low; the state at the first literal. -/
def powerUp : PlayerSprite :=
  { state := .idle, playerXPos := 0, playerYPos := 0, readAddress := 0,
    playerOn := false, playerColor := 0 }

/-! ## Combinational nets -/

def startDraw (i : SpriteIn) : Bool :=
  decide (i.playerStartX.toNat ≤ i.drawX.toNat) &&
    decide (i.drawX.toNat < i.playerStartX.toNat + playerWidth) &&
    decide (i.playerStartY.toNat ≤ i.drawY.toNat) &&
    decide (i.drawY.toNat < i.playerStartY.toNat + playerHeight)

def lastPixel (s : PlayerSprite) : Bool := s.playerXPos.toNat == playerWidth - 1

def lastLine (s : PlayerSprite) : Bool := s.playerYPos.toNat == playerHeight - 1

def nextState (s : PlayerSprite) (i : SpriteIn) : SpriteState :=
  match s.state with
  | .idle => if startDraw i then .start else .idle
  | .start => .awaitPos
  | .awaitPos => if i.drawX = s.playerXPos then .draw else .awaitPos
  | .draw => if !s.lastPixel then .draw else if !s.lastLine then .nextLine else .idle
  | .nextLine => .awaitPos

/-! ## The clock edge -/

/-- One `posedge Clk`. -/
def clk (mem : BitVec 19 → BitVec 24) (s : PlayerSprite) (i : SpriteIn) : PlayerSprite :=
  let s' := { s with state := s.nextState i, playerColor := mem s.readAddress }
  let s' := match s.state with
    | .start => { s' with playerYPos := 0, readAddress := 0, playerOn := false }
    | .awaitPos => { s' with playerXPos := 0, playerOn := false }
    | .draw =>
      { s' with
        playerXPos := s.playerXPos + 1#10, readAddress := s.readAddress + 1#19,
        playerOn := true }
    | .nextLine => { s' with playerYPos := s.playerYPos + 1#10, playerOn := false }
    | .idle => s'
  if i.reset then
    { s' with
      state := .idle, playerXPos := 0, playerYPos := 0, readAddress := 0,
      playerOn := false }
  else s'

/-! ## What one edge does to each register -/

section Registers

variable (mem : BitVec 19 → BitVec 24) (s : PlayerSprite) (i : SpriteIn)

theorem clk_state : (s.clk mem i).state = if i.reset then .idle else s.nextState i := by
  unfold clk
  cases s.state <;> cases i.reset <;> rfl

@[simp] theorem clk_playerColor : (s.clk mem i).playerColor = mem s.readAddress := by
  unfold clk
  cases s.state <;> cases i.reset <;> rfl

/-- The flag follows the state with one edge of delay, except that `Reset` clears
it and `IDLE` leaves it as it is. -/
theorem clk_playerOn : (s.clk mem i).playerOn =
    if i.reset then false
    else match s.state with
      | .draw => true
      | .idle => s.playerOn
      | _ => false := by
  cases hs : s.state <;> cases hr : i.reset <;> simp [clk, hs, hr]

theorem clk_playerXPos (hr : i.reset = false) : (s.clk mem i).playerXPos =
    match s.state with
    | .draw => s.playerXPos + 1#10
    | .awaitPos => 0#10
    | _ => s.playerXPos := by
  cases hs : s.state <;> simp [clk, hs, hr]

theorem clk_playerYPos (hr : i.reset = false) : (s.clk mem i).playerYPos =
    match s.state with
    | .start => 0#10
    | .nextLine => s.playerYPos + 1#10
    | _ => s.playerYPos := by
  cases hs : s.state <;> simp [clk, hs, hr]

theorem clk_readAddress (hr : i.reset = false) : (s.clk mem i).readAddress =
    match s.state with
    | .start => 0#19
    | .draw => s.readAddress + 1#19
    | _ => s.readAddress := by
  cases hs : s.state <;> simp [clk, hs, hr]

end Registers

end PlayerSprite

/-! ## The two processes together -/

/-- An edge of one of the clocks of `player`. -/
inductive PlayerEdge where
  | clk (reset : Bool) (drawX drawY : BitVec 10)
  | frame (i : MotionIn)

/-- All registers of `player`. -/
structure Player where
  motion : PlayerMotion
  sprite : PlayerSprite

namespace Player

/-- What the sprite samples at a `Clk` edge. -/
def spriteIn (p : Player) (reset : Bool) (drawX drawY : BitVec 10) : SpriteIn :=
  { reset, drawX, drawY, playerStartX := p.motion.playerStartX,
    playerStartY := p.motion.playerStartY }

def step (mem : BitVec 19 → BitVec 24) (p : Player) : PlayerEdge → Player
  | .clk reset drawX drawY =>
    { p with sprite := p.sprite.clk mem (p.spriteIn reset drawX drawY) }
  | .frame i => { p with motion := p.motion.frame i }

def isClk : PlayerEdge → Bool
  | .clk _ _ _ => true
  | .frame _ => false

/-- What the sprite samples at an edge, and anything at a `frame_clk` edge. -/
def sampled (p : Player) : PlayerEdge → SpriteIn
  | .clk reset drawX drawY => p.spriteIn reset drawX drawY
  | .frame i => p.spriteIn i.reset 0 0

/-- **The sprite of `player` is the sprite machine**, run by the `Clk` edges on the
positions it finds. -/
theorem sprite_run (mem : BitVec 19 → BitVec 24) (p₀ : Player) (ev : Nat → PlayerEdge)
    (t : Nat) :
    (run (step mem) p₀ ev t).sprite
      = run (PlayerSprite.clk mem) p₀.sprite
          (fun n =>
            let u := Nat.nth (fun v => isClk (ev v) = true) n
            (run (step mem) p₀ ev u).sampled (ev u))
          (Nat.count (fun v => isClk (ev v) = true) t) := by
  refine Clocked.run_subclock Player.sprite
    (fun v => isClk (ev v)) (fun u => (run (step mem) p₀ ev u).sampled (ev u)) ?_ ?_ t
  · intro u hu
    cases hev : ev u with
    | clk reset drawX drawY => rfl
    | frame i => simp [hev, isClk] at hu
  · intro u hu
    cases hev : ev u with
    | clk reset drawX drawY => simp [hev, isClk] at hu
    | frame i => rfl

end Player

end SpaceInvaders
