import SpaceInvaders.Enemy.Array
import SpaceInvaders.Game.Fsm
import SpaceInvaders.Player.Motion

/-!
# `lab8`: the game's three modules on their three clocks

`gameFSM` and the drawers run on `Clk`, the formation on its `frame_clk`, the
ship on its own. A run is a sequence of their edges in any order; that `lab8`
connects the formation's `frame_clk` to `Vga_Clk`, a net of its own beside
`VGA_Clk`, is left aside. `start` and `is_playing` are wired from `gameFSM` to
`enemy_array`; `finished` comes from a net nobody drives, so the wire is left open
here and `gameFSM` may see anything on it.

What ties the two clocks of the start together is `startAtClk`, the value of
`start` at the latest `Clk` edge: in `INIT` the next-state register holds it,
decoded (`Formation.Follows`), and outside `INIT` the formation never returns.
So the formation has left `INIT` exactly when some `frame_clk` edge found
`start` high at the `Clk` edge before it (`left_init_iff`).
-/

namespace SpaceInvaders

open Clocked (run run_succ run_inv held held_some held_none sticky_iff)

/-! ## `INIT` and the latest sample of `Start` -/

namespace Formation

/-- In `INIT` the next-state register holds the latest `Start`, decoded; outside
it never holds `INIT`. -/
def Follows (f : Formation) (start : Bool) : Prop :=
  if f.state = .init then f.stateNext = if start then .moveRight else .init
  else f.stateNext ≠ .init

theorem follows_clk {f : Formation} {old : Bool} (h : f.Follows old) (start : Bool) :
    (f.clk start).Follows start := by
  unfold Follows at h ⊢
  rw [clk_state]
  by_cases hs : f.state = .init
  · rw [if_pos hs]
    exact clk_stateNext_init hs start
  · rw [if_neg hs] at h ⊢
    exact clk_stateNext_ne_init hs h start

/-- A frame leaves `INIT` exactly on a high `Start`, and never returns to it. -/
theorem frame_ne_init_iff {f : Formation} {start : Bool} (h : f.Follows start) :
    f.frame.state ≠ .init ↔ f.state ≠ .init ∨ start = true := by
  rw [frame_state]
  unfold Follows at h
  by_cases hs : f.state = .init
  · rw [if_pos hs] at h
    rw [h]
    cases start <;> simp [hs]
  · rw [if_neg hs] at h
    simp [h, hs]

theorem follows_frame {f : Formation} {start : Bool} (h : f.Follows start) :
    f.frame.Follows start := by
  have hleft := frame_ne_init_iff h
  unfold Follows
  rw [frame_stateNext]
  by_cases hs : f.frame.state = .init
  · have hlow : start = false := by
      cases start with
      | false => rfl
      | true => exact absurd hs (hleft.mpr (Or.inr rfl))
    rw [if_pos hs, hlow]
    rwa [frame_state] at hs
  · rw [if_neg hs]
    rwa [frame_state] at hs

end Formation

/-! ## The console -/

/-- What one `posedge Clk` samples from outside. -/
structure ConsoleIn where
  reset : Bool
  keycode : BitVec 8
  finished : Bool
  hit : Bool
  drawX : BitVec 10
  drawY : BitVec 10

/-- Every input low. -/
def ConsoleIn.low : ConsoleIn :=
  { reset := false, keycode := 0, finished := false, hit := false,
    drawX := 0, drawY := 0 }

/-- One edge of one of the three clocks. -/
inductive Tick where
  | clk (i : ConsoleIn)
  | frame
  | playerFrame (i : MotionIn)

namespace Tick

def isClk : Tick → Bool
  | .clk _ => true
  | _ => false

def isFrame : Tick → Bool
  | .frame => true
  | _ => false

def isPlayerFrame : Tick → Bool
  | .playerFrame _ => true
  | _ => false

/-- `Reset` is high, if the edge samples it. -/
def resetHigh : Tick → Bool
  | .clk i => i.reset
  | .frame => true
  | .playerFrame i => i.reset

end Tick

/-- The registers of `gameFSM`, `enemy_array` and `player`. -/
structure Console where
  fsm : GameFSM
  array : EnemyArray
  player : PlayerMotion

namespace Console

def fsmIn (i : ConsoleIn) : FsmIn :=
  { reset := i.reset, keycode := i.keycode, finished := i.finished }

def arrayIn (c : Console) (i : ConsoleIn) : ArrayIn :=
  { reset := i.reset
    start := c.fsm.start
    hit := i.hit
    isPlaying := c.fsm.isPlaying
    drawX := i.drawX
    drawY := i.drawY }

def step (c : Console) : Tick → Console
  | .clk i => { c with fsm := c.fsm.clk (fsmIn i), array := c.array.clk (c.arrayIn i) }
  | .frame => { c with array := c.array.frame }
  | .playerFrame i => { c with player := c.player.frame i }

/-- What is fixed at power-up. -/
structure PowerUp (c : Console) : Prop where
  fsm : c.fsm = GameFSM.powerUp
  array : c.array.PowerUp
  player : c.player = PlayerMotion.center

def powerUp : Console :=
  { fsm := GameFSM.powerUp, array := EnemyArray.powerUp, player := PlayerMotion.center }

theorem powerUp_powerUp : powerUp.PowerUp := ⟨rfl, EnemyArray.powerUp_powerUp, rfl⟩

section Run

variable (c₀ : Console) (ev : Nat → Tick)

/-- `start` at the latest `Clk` edge before edge `t`. -/
def startAtClk : Nat → Bool :=
  held false fun t =>
    match ev t with
    | .clk _ => some (run step c₀ ev t).fsm.start
    | _ => none

variable {c₀ ev}

theorem startAtClk_clk {t : Nat} {i : ConsoleIn} (hev : ev t = .clk i) :
    startAtClk c₀ ev (t + 1) = (run step c₀ ev t).fsm.start :=
  held_some (by simp only [hev])

theorem startAtClk_keep {t : Nat} (hev : (ev t).isClk = false) :
    startAtClk c₀ ev (t + 1) = startAtClk c₀ ev t := by
  refine held_none ?_
  cases he : ev t with
  | clk i => simp [he, Tick.isClk] at hev
  | frame => rfl
  | playerFrame i => rfl

variable (ev) in
/-- The invariant of the start, over whole runs. -/
theorem follows_startAtClk (hp : c₀.PowerUp) (t : Nat) :
    (run step c₀ ev t).array.formation.Follows (startAtClk c₀ ev t) := by
  induction t with
  | zero =>
    show c₀.array.formation.Follows false
    simp [Formation.Follows, hp.array.state, hp.array.stateNext]
  | succ t ih =>
    rw [run_succ]
    cases hev : ev t with
    | clk i =>
      rw [startAtClk_clk hev]
      exact Formation.follows_clk ih _
    | frame =>
      rw [startAtClk_keep (by simp [hev, Tick.isClk])]
      exact Formation.follows_frame ih
    | playerFrame i =>
      rw [startAtClk_keep (by simp [hev, Tick.isClk])]
      exact ih

end Run

end Console

end SpaceInvaders
