import Mathlib.Data.BitVec
import Mathlib.Tactic.SplitIfs

/-!
# `background`: the drawer of the starry sky

A drawer like the others, started by `is_playing` and meant for the whole picture.

Mirroring notes:
- `IMAGE_WIDTH` is initialised with `9'd640`. A sized literal is truncated to its
  size, and 640 does not fit nine bits: the variable holds 128. `9'd480` fits.
- `always_comb` blocks are taken at their settled values. `start_background` is
  never read.
- `read_addr` has no driver and `pos` is never read, so the memory and with it the
  colours are left out; `pos` is the address the drawer counts.
- `DrawY`, `frame_clk` and the step parameters are never read.
-/

namespace SpaceInvaders

/-- The `enum` of `background`, first literal `IDLE`. -/
inductive BackgroundState where
  | idle
  | start
  | awaitPos
  | draw
  | nextLine
  | beforeGameStart
  | finished
  deriving DecidableEq

/-- What one `posedge Clk` of `background` samples. -/
structure BackgroundIn where
  reset : Bool
  isPlaying : Bool
  drawX : BitVec 10
  start : Bool

/-- The registers of `background`. -/
structure Background where
  state : BackgroundState
  enemyX : BitVec 10
  enemyY : BitVec 10
  pos : BitVec 19
  enemyOn : Bool

namespace Background

/-- `int IMAGE_WIDTH = 9'd640` -/
def imageWidth : Nat := (BitVec.ofNat 9 640).toNat

/-- `int IMAGE_HEIGHT = 9'd480` -/
def imageHeight : Nat := (BitVec.ofNat 9 480).toNat

theorem imageWidth_eq : imageWidth = 128 := rfl

theorem imageHeight_eq : imageHeight = 480 := rfl

/-- All registers low; the state at the first literal. -/
def powerUp : Background :=
  { state := .idle, enemyX := 0, enemyY := 0, pos := 0, enemyOn := false }

/-! ## Combinational nets -/

def finalPixel (s : Background) : Bool := s.enemyX.toNat == imageWidth - 1

def finalLine (s : Background) : Bool := s.enemyY.toNat == imageHeight - 1

def stateNext (s : Background) (i : BackgroundIn) : BackgroundState :=
  match s.state with
  | .beforeGameStart => if i.start then .idle else .beforeGameStart
  | .idle => if i.isPlaying then .start else .idle
  | .start => .awaitPos
  | .awaitPos => if s.enemyX = i.drawX then .draw else .awaitPos
  | .draw => if !s.finalPixel then .draw else if !s.finalLine then .nextLine else .idle
  | .nextLine => .awaitPos
  | .finished => if i.isPlaying then .idle else .finished

/-! ## The clock edge -/

/-- One `posedge Clk`. -/
def clk (s : Background) (i : BackgroundIn) : Background :=
  let s' := { s with state := s.stateNext i }
  let s' := match s.state with
    | .start => { s' with enemyY := 0, pos := 0, enemyOn := false }
    | .awaitPos => { s' with enemyX := 0, enemyOn := false }
    | .draw =>
      { s' with enemyX := s.enemyX + 1#10, pos := s.pos + 1#19, enemyOn := true }
    | .nextLine => { s' with enemyY := s.enemyY + 1#10, enemyOn := false }
    | .beforeGameStart => { s' with enemyOn := false }
    | .finished => { s' with enemyOn := false }
    | .idle => s'
  if i.reset then
    { s' with state := .idle, enemyX := 0, enemyY := 0, pos := 0, enemyOn := false }
  else s'

/-! ## What one edge does to each register -/

section Registers

variable (s : Background) (i : BackgroundIn)

theorem clk_reset (hr : i.reset = true) : (s.clk i).state = .idle := by
  unfold clk
  rw [if_pos hr]

theorem clk_state (hr : i.reset = false) : (s.clk i).state = s.stateNext i := by
  cases hs : s.state <;> simp [clk, hs, hr]

theorem clk_enemyX (hr : i.reset = false) : (s.clk i).enemyX =
    match s.state with
    | .draw => s.enemyX + 1#10
    | .awaitPos => 0#10
    | _ => s.enemyX := by
  cases hs : s.state <;> simp [clk, hs, hr]

theorem clk_enemyY (hr : i.reset = false) : (s.clk i).enemyY =
    match s.state with
    | .start => 0#10
    | .nextLine => s.enemyY + 1#10
    | _ => s.enemyY := by
  cases hs : s.state <;> simp [clk, hs, hr]

/-- The address is cleared with the row, and counts in `DRAW`. -/
theorem clk_pos (hr : i.reset = false) : (s.clk i).pos =
    match s.state with
    | .start => 0#19
    | .draw => s.pos + 1#19
    | _ => s.pos := by
  cases hs : s.state <;> simp [clk, hs, hr]

end Registers

/-- Where `DRAW` goes, in terms of the counters. -/
theorem stateNext_draw {s : Background} (hs : s.state = .draw) (i : BackgroundIn) :
    s.stateNext i =
      if s.enemyX.toNat + 1 ≠ imageWidth then .draw
      else if s.enemyY.toNat + 1 ≠ imageHeight then .nextLine
      else .idle := by
  have hpixel : s.finalPixel = true ↔ s.enemyX.toNat + 1 = imageWidth := by
    unfold finalPixel
    rw [beq_iff_eq, imageWidth_eq]
    omega
  have hline : s.finalLine = true ↔ s.enemyY.toNat + 1 = imageHeight := by
    unfold finalLine
    rw [beq_iff_eq, imageHeight_eq]
    omega
  simp only [stateNext, hs, Bool.not_eq_true', ← Bool.not_eq_true, hpixel, hline]

end Background

end SpaceInvaders
