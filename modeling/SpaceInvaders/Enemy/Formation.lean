import Mathlib.Data.BitVec
import SpaceInvaders.Clocked.TwoDomain

/-!
# The formation FSM of `enemy_array`

`enemy_array.sv` tracks the box around the invaders in two processes. The
`posedge Clk` process recomputes `state_next` from `state`, the edges and
`Start`; the `posedge frame_clk` process copies `state_next` into `state` and
moves the box, and the direction bits, by the *old* state. The `case` of the
`Clk` process has no branch for `LOST`, so `state_next` keeps its value there.

`enemy_counter`, which both processes write, is in `Array.lean`.
-/

namespace SpaceInvaders

/-- The `enum` of `enemy_array`, first literal `INIT`. -/
inductive FormationState where
  | init
  | moveLeft
  | moveRight
  | moveDownRight
  | moveDownLeft
  | lost
  deriving DecidableEq

/-- The registers of the formation FSM. -/
structure Formation where
  state : FormationState
  stateNext : FormationState
  lEdge : BitVec 10
  rEdge : BitVec 10
  uEdge : BitVec 10
  dEdge : BitVec 10
  enemyDirectionX : Bool
  enemyDirectionY : Bool
  deleteEnemiesTemp2 : Bool
  deriving DecidableEq

namespace Formation

open Clocked (Edge edgeStep)

/-- All registers low; both state registers at the first literal. -/
def powerUp : Formation :=
  { state := .init, stateNext := .init, lEdge := 0, rEdge := 0, uEdge := 0,
    dEdge := 0, enemyDirectionX := false, enemyDirectionY := false,
    deleteEnemiesTemp2 := false }

def reachedEdge (f : Formation) : Bool :=
  if f.rEdge = 639#10 then true
  else if f.lEdge = 0#10 then true
  else false

def reachedMax (f : Formation) : Bool :=
  if f.dEdge = 355#10 then true else false

/-- `posedge Clk`: the next-state handler. -/
def clk (f : Formation) (start : Bool) : Formation :=
  { f with
    stateNext :=
      match f.state with
      | .init => if start then .moveRight else .init
      | .moveLeft => if !f.reachedEdge then .moveLeft else .moveDownRight
      | .moveRight => if !f.reachedEdge then .moveRight else .moveDownLeft
      | .moveDownRight => if !f.reachedMax then .moveRight else .lost
      | .moveDownLeft => if !f.reachedMax then .moveLeft else .lost
      | .lost => f.stateNext }

/-- `posedge frame_clk`: the state register and the box. -/
def frame (f : Formation) : Formation :=
  let f' := { f with state := f.stateNext }
  match f.state with
  | .init =>
    { f' with
      lEdge := 0#10, rEdge := 487#10, uEdge := 0#10, dEdge := 143#10,
      deleteEnemiesTemp2 := false }
  | .moveLeft =>
    { f' with
      lEdge := f.lEdge - 1#10, rEdge := f.rEdge - 1#10,
      enemyDirectionX := false, enemyDirectionY := false }
  | .moveRight =>
    { f' with
      lEdge := f.lEdge + 1#10, rEdge := f.rEdge + 1#10,
      enemyDirectionX := true, enemyDirectionY := false }
  | .moveDownRight =>
    { f' with
      uEdge := f.uEdge + 1#10, dEdge := f.dEdge + 1#10,
      lEdge := f.lEdge + 1#10, rEdge := f.rEdge + 1#10,
      enemyDirectionX := true, enemyDirectionY := true }
  | .moveDownLeft =>
    { f' with
      uEdge := f.uEdge + 1#10, dEdge := f.dEdge + 1#10,
      lEdge := f.lEdge - 1#10, rEdge := f.rEdge - 1#10,
      enemyDirectionX := false, enemyDirectionY := true }
  | .lost => { f' with deleteEnemiesTemp2 := true }

/-- The formation FSM stepped by the edges of its two clocks. -/
def step : Formation → Edge Bool → Formation := edgeStep clk frame

/-! ## What one edge of either clock does -/

@[simp] theorem clk_state (f : Formation) (start : Bool) :
    (f.clk start).state = f.state := rfl

@[simp] theorem frame_state (f : Formation) : f.frame.state = f.stateNext := by
  unfold frame
  cases f.state <;> rfl

@[simp] theorem frame_stateNext (f : Formation) : f.frame.stateNext = f.stateNext := by
  unfold frame
  cases f.state <;> rfl

/-- In `INIT` the next-state register holds `Start`, decoded. -/
theorem clk_stateNext_init {f : Formation} (h : f.state = .init) (start : Bool) :
    (f.clk start).stateNext = if start then .moveRight else .init := by
  simp only [clk, h]

/-- No `Clk` edge outside `INIT` selects `INIT`, unless `state_next` held it. -/
theorem clk_stateNext_ne_init {f : Formation} (h : f.state ≠ .init)
    (hn : f.stateNext ≠ .init) (start : Bool) : (f.clk start).stateNext ≠ .init := by
  cases hs : f.state with
  | init => exact absurd hs h
  | lost => simpa only [clk, hs] using hn
  | moveLeft => simp only [clk, hs]; split <;> simp
  | moveRight => simp only [clk, hs]; split <;> simp
  | moveDownRight => simp only [clk, hs]; split <;> simp
  | moveDownLeft => simp only [clk, hs]; split <;> simp

end Formation

end SpaceInvaders
