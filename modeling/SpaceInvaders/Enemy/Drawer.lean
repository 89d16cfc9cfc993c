import Mathlib.Data.BitVec
import Mathlib.Tactic.SplitIfs

/-!
# `enemy_easy` and `enemy_medium`: one invader's sprite drawer

The two modules differ in the sprite's height and in the sprite memory only, so
the drawer is written once, over a `DrawerModule`, and `enemyEasy` and
`enemyMedium` instantiate it.

Mirroring notes:
- `always_comb` blocks are taken at their settled values: a non-blocking
  assignment after the `case` overrides it, a later one the earlier, so `Reset`
  beats the hit, the hit beats `delete_enemies`.
- Arithmetic is done at 32 bits and truncated on assignment, which is
  arithmetic on the 10-bit (19-bit) register itself.
- `read_addr` has no driver. It reads as 0, so the memory only ever delivers the
  word at address 0, and the connection to three one-bit nets keeps its three
  low bits.
- `frame_clk`, `enemy_enable`, `next_enemy_y` and the step parameters are never
  read.
-/

namespace SpaceInvaders

/-- The drawer's `enum`. -/
inductive DrawerState where
  | idle
  | start
  | awaitPos
  | draw
  | nextLine
  | finished
  | firstIdle
  | beforeGame
  deriving DecidableEq

/-- What distinguishes one drawer module from the other: `IMAGE_HEIGHT` and the
word at address 0 of its sprite memory. -/
structure DrawerModule where
  imageHeight : Nat
  mem0 : BitVec 24

/-- `IMAGE_WIDTH`, the same in both modules. -/
def imageWidth : Nat := 50

/-- `alienRAM`, loaded from `sprite_bytes/alien.txt`. -/
def enemyEasy : DrawerModule := { imageHeight := 50, mem0 := 0x000#24 }

/-- `alien_shipRAM`, loaded from `sprite_bytes/alien_ship.txt`. -/
def enemyMedium : DrawerModule := { imageHeight := 44, mem0 := 0x000#24 }

/-- What one `posedge Clk` of a drawer samples. `enemyDirectionY` is a port the
modules never read. -/
structure DrawerIn where
  reset : Bool
  deleteEnemies : Bool
  hit : Bool
  isPlaying : Bool
  enemyDirectionX : Bool
  enemyDirectionY : Bool
  start : Bool
  drawX : BitVec 10
  drawY : BitVec 10

/-- Every input low. -/
def DrawerIn.low : DrawerIn :=
  { reset := false, deleteEnemies := false, hit := false, isPlaying := false,
    enemyDirectionX := false, enemyDirectionY := false, start := false,
    drawX := 0, drawY := 0 }

/-- The registers of a drawer. -/
structure Drawer where
  state : DrawerState
  enemyStartX : BitVec 10
  enemyStartY : BitVec 10
  enemyX : BitVec 10
  enemyY : BitVec 10
  pos : BitVec 19
  enemyOn : Bool
  dataOut : BitVec 24

/-- All registers low but the state, which the `initial` block sets. -/
def Drawer.powerUp : Drawer :=
  { state := .beforeGame, enemyStartX := 0, enemyStartY := 0, enemyX := 0,
    enemyY := 0, pos := 0, enemyOn := false, dataOut := 0 }

namespace Drawer

/-! ## Combinational nets -/

def finalPixel (d : Drawer) : Bool := d.enemyX.toNat == imageWidth - 1

def finalLine (m : DrawerModule) (d : Drawer) : Bool :=
  d.enemyY.toNat == m.imageHeight - 1

def tempDrawX (d : Drawer) (i : DrawerIn) : BitVec 10 := i.drawX - d.enemyStartX

def tempDrawY (d : Drawer) (i : DrawerIn) : BitVec 10 := i.drawY - d.enemyStartY

def ready (d : Drawer) (i : DrawerIn) : Bool :=
  d.tempDrawY i == d.enemyY && d.tempDrawX i == d.enemyX

/-- The `case (state)` of the next-state block. -/
def caseNext (m : DrawerModule) (d : Drawer) (i : DrawerIn) : DrawerState :=
  match d.state with
  | .beforeGame => if i.start then .firstIdle else .beforeGame
  | .firstIdle => if d.ready i then .draw else .firstIdle
  | .idle => if i.isPlaying then .start else .idle
  | .start => .awaitPos
  | .awaitPos => if d.enemyX = d.tempDrawX i then .draw else .awaitPos
  | .draw =>
    if !d.finalPixel then .draw
    else if !d.finalLine m then .nextLine else .firstIdle
  | .nextLine => .awaitPos
  | .finished => if i.start then .firstIdle else .finished

/-- `state_next` with its three overrides, the last one first. -/
def stateNext (m : DrawerModule) (d : Drawer) (i : DrawerIn) : DrawerState :=
  if i.reset then .beforeGame
  else if d.enemyOn && i.hit then .finished
  else if i.deleteEnemies then .finished
  else d.caseNext m i

/-- A colour output: one bit of the memory word, zero-extended, while the flag
is up. -/
def colour (d : Drawer) (bit : Nat) : BitVec 8 :=
  if d.enemyOn then (BitVec.ofBool (d.dataOut.getLsbD bit)).setWidth 8 else 0#8

def enemyR (d : Drawer) : BitVec 8 := d.colour 2

def enemyG (d : Drawer) : BitVec 8 := d.colour 1

def enemyB (d : Drawer) : BitVec 8 := d.colour 0

/-! ## The clock edge -/

/-- `if (state != BEFORE_GAME)`: the sprite moves one pixel. -/
def move (d : Drawer) (i : DrawerIn) : Drawer :=
  if d.state ≠ .beforeGame then
    { d with
      enemyStartX :=
        if i.enemyDirectionX = false then d.enemyStartX - 1#10
        else d.enemyStartX + 1#10
      enemyStartY :=
        if i.enemyDirectionX = true then d.enemyStartY - 1#10 else d.enemyStartY }
  else d

/-- One `posedge Clk`, with the ports `enemy_initial_x` and `enemy_initial_y`
tied to constants. -/
def clk (m : DrawerModule) (initialX initialY : BitVec 10) (d : Drawer)
    (i : DrawerIn) : Drawer :=
  let d' := { d.move i with state := d.stateNext m i, dataOut := m.mem0 }
  match d.state with
  | .start => { d' with enemyY := 0, pos := 0, enemyOn := false }
  | .awaitPos => { d' with enemyX := 0, enemyOn := false }
  | .draw =>
    { d' with enemyX := d.enemyX + 1#10, pos := d.pos + 1#19, enemyOn := true }
  | .firstIdle => { d' with enemyY := 0, enemyX := 0 }
  | .nextLine => { d' with enemyY := d.enemyY + 1#10, enemyOn := false }
  | .finished => { d' with enemyOn := false }
  | .beforeGame =>
    { d' with
      enemyStartX := initialX, enemyStartY := initialY,
      enemyX := 0, enemyY := 0, pos := 0, enemyOn := false }
  | .idle => d'

/-! ## What one edge does to each register -/

section Registers

variable (m : DrawerModule) (ix iy : BitVec 10) (d : Drawer) (i : DrawerIn)

@[simp] theorem clk_state : (d.clk m ix iy i).state = d.stateNext m i := by
  unfold clk
  cases d.state <;> rfl

@[simp] theorem clk_dataOut : (d.clk m ix iy i).dataOut = m.mem0 := by
  unfold clk
  cases d.state <;> rfl

/-- The flag follows the state with one edge of delay, except that `IDLE` and
`FIRST_IDLE` leave it as it is. -/
theorem clk_enemyOn : (d.clk m ix iy i).enemyOn =
    match d.state with
    | .draw => true
    | .idle => d.enemyOn
    | .firstIdle => d.enemyOn
    | _ => false := by
  cases h : d.state <;> simp [clk, move, h]

/-- The column counter counts in `DRAW` and is cleared in the waiting states. -/
theorem clk_enemyX : (d.clk m ix iy i).enemyX =
    match d.state with
    | .draw => d.enemyX + 1#10
    | .awaitPos => 0#10
    | .firstIdle => 0#10
    | .beforeGame => 0#10
    | _ => d.enemyX := by
  cases h : d.state <;> simp [clk, move, h]

theorem clk_enemyY : (d.clk m ix iy i).enemyY =
    match d.state with
    | .nextLine => d.enemyY + 1#10
    | .start => 0#10
    | .firstIdle => 0#10
    | .beforeGame => 0#10
    | _ => d.enemyY := by
  cases h : d.state <;> simp [clk, move, h]

/-- The sprite address counts in `DRAW`. `FIRST_IDLE` does not clear it. -/
theorem clk_pos : (d.clk m ix iy i).pos =
    match d.state with
    | .draw => d.pos + 1#19
    | .start => 0#19
    | .beforeGame => 0#19
    | _ => d.pos := by
  cases h : d.state <;> simp [clk, move, h]

/-- The origin is reloaded in `BEFORE_GAME` and moves everywhere else. -/
theorem clk_enemyStartX : (d.clk m ix iy i).enemyStartX =
    if d.state = .beforeGame then ix
    else if i.enemyDirectionX then d.enemyStartX + 1#10
    else d.enemyStartX - 1#10 := by
  cases h : d.state <;> cases hx : i.enemyDirectionX <;> simp [clk, move, h, hx]

theorem clk_enemyStartY : (d.clk m ix iy i).enemyStartY =
    if d.state = .beforeGame then iy
    else if i.enemyDirectionX then d.enemyStartY - 1#10
    else d.enemyStartY := by
  cases h : d.state <;> cases hx : i.enemyDirectionX <;> simp [clk, move, h, hx]

end Registers

/-! ## The next state -/

section NextState

variable {m : DrawerModule} {d : Drawer} {i : DrawerIn}

theorem stateNext_reset (h : i.reset = true) : d.stateNext m i = .beforeGame := by
  simp only [stateNext, h, if_true]

theorem stateNext_hit (hr : i.reset = false) (hon : d.enemyOn = true)
    (hh : i.hit = true) : d.stateNext m i = .finished := by
  simp [stateNext, hr, hon, hh]

theorem stateNext_case (hr : i.reset = false) (hd : i.deleteEnemies = false)
    (hh : (d.enemyOn && i.hit) = false) : d.stateNext m i = d.caseNext m i := by
  simp [stateNext, hr, hd, hh]

/-- What is neither `BEFORE_GAME` nor `FINISHED` is not an override. -/
theorem stateNext_eq_case {s : DrawerState} (h : d.stateNext m i = s)
    (hb : s ≠ .beforeGame) (hf : s ≠ .finished) : d.caseNext m i = s := by
  unfold stateNext at h
  split_ifs at h
  · exact absurd h.symm hb
  · exact absurd h.symm hf
  · exact absurd h.symm hf
  · exact h

/-- Only `FINISHED` itself stays `FINISHED` by the `case`. -/
theorem caseNext_finished (h : d.caseNext m i = .finished) : d.state = .finished := by
  cases hs : d.state <;> simp only [caseNext, hs] at h <;>
    (try split_ifs at h) <;> simp_all

/-- Only `BEFORE_GAME` without a start stays there by the `case`. -/
theorem caseNext_beforeGame :
    d.caseNext m i = .beforeGame ↔ d.state = .beforeGame ∧ i.start = false := by
  cases hs : d.state <;> simp only [caseNext, hs] <;> (try split_ifs) <;> simp_all

/-- Without `Reset` and `delete_enemies`, an edge newly enters `FINISHED` exactly
when the drawer's own flag meets the hit. -/
theorem stateNext_finished (hs : d.state ≠ .finished) (hr : i.reset = false)
    (hd : i.deleteEnemies = false) :
    d.stateNext m i = .finished ↔ d.enemyOn = true ∧ i.hit = true := by
  refine ⟨fun h => ?_, fun h => stateNext_hit hr h.1 h.2⟩
  cases hh : (d.enemyOn && i.hit) with
  | true => simpa using hh
  | false =>
    rw [stateNext_case hr hd hh] at h
    exact absurd (caseNext_finished h) hs

/-- A drawer is in `BEFORE_GAME` after an edge by a reset, or because nothing
moved it out. -/
theorem stateNext_beforeGame :
    d.stateNext m i = .beforeGame ↔
      i.reset = true ∨
        (d.state = .beforeGame ∧ i.start = false ∧ i.deleteEnemies = false ∧
          (d.enemyOn && i.hit) = false) := by
  cases hr : i.reset <;> cases hd : i.deleteEnemies <;>
    cases hh : (d.enemyOn && i.hit) <;>
    simp [stateNext, hr, hd, hh, caseNext_beforeGame]

end NextState

end Drawer

end SpaceInvaders
