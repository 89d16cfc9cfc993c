import SpaceInvaders.Clocked.Run

/-!
# `gameFSM`: the phases of the game

`gameFSM.sv` holds two registers, `state` and `next_state`, both written on
`posedge clk`: the first block copies `next_state` into `state` and sets the
outputs from the old `state`, the second computes `next_state` from the old
`state` and the inputs. A decision therefore reaches `state` two edges after
the state it was taken in, and the state sequence is two interleaved walks of
the `case` table rather than one.

The enumeration has the default base type, so both state registers start at its
first literal. `start`, `is_playing` and `is_finished` power up low.
-/

namespace SpaceInvaders

/-- `enum { BEGINNING, GAME_START, GAME_OVER, CONT }`. -/
inductive GameState where
  | beginning
  | gameStart
  | gameOver
  | cont
  deriving DecidableEq

/-- What one `posedge clk` of `gameFSM` samples. -/
structure FsmIn where
  reset : Bool
  keycode : BitVec 8
  finished : Bool

/-- The registers of `gameFSM`. -/
structure GameFSM where
  state : GameState
  nextState : GameState
  start : Bool
  isPlaying : Bool
  isFinished : Bool
  deriving DecidableEq

namespace GameFSM

def powerUp : GameFSM :=
  { state := .beginning, nextState := .beginning,
    start := false, isPlaying := false, isFinished := false }

/-- The value written to `next_state`: the `case` on `state`, then the
overriding `if (reset)`. -/
def decideNext (s : GameState) (i : FsmIn) : GameState :=
  if i.reset then .beginning
  else
    match s with
    | .beginning => if i.keycode ≠ 0#8 then .gameStart else .beginning
    | .gameStart => .cont
    | .gameOver => if i.keycode = 44#8 then .gameStart else .gameOver
    | .cont => if i.finished then .gameOver else .cont

/-- `start <= ...`, assigned in every state. -/
def startOut : GameState → Bool
  | .beginning => false
  | .gameStart => true
  | .gameOver => false
  | .cont => false

/-- One `posedge clk`. `is_playing` and `is_finished` are only ever set. -/
def clk (g : GameFSM) (i : FsmIn) : GameFSM :=
  { state := g.nextState
    nextState := decideNext g.state i
    start := startOut g.state
    isPlaying := if g.state = .cont then true else g.isPlaying
    isFinished := if g.state = .gameOver then true else g.isFinished }

@[simp] theorem clk_state (g : GameFSM) (i : FsmIn) :
    (g.clk i).state = g.nextState := rfl

@[simp] theorem clk_nextState (g : GameFSM) (i : FsmIn) :
    (g.clk i).nextState = decideNext g.state i := rfl

theorem clk_isPlaying (g : GameFSM) (i : FsmIn) :
    (g.clk i).isPlaying = true ↔ g.isPlaying = true ∨ g.state = .cont := by
  by_cases hc : g.state = .cont <;> simp [clk, hc]

theorem clk_isFinished (g : GameFSM) (i : FsmIn) :
    (g.clk i).isFinished = true ↔ g.isFinished = true ∨ g.state = .gameOver := by
  by_cases hc : g.state = .gameOver <;> simp [clk, hc]

@[simp] theorem decideNext_reset {s : GameState} {i : FsmIn} (h : i.reset = true) :
    decideNext s i = .beginning := by
  simp only [decideNext, h, if_true]

/-- `GAME_OVER` is decided in `GAME_OVER`, or in `CONT` on `finished`. -/
theorem decideNext_gameOver {s : GameState} {i : FsmIn}
    (h : decideNext s i = .gameOver) :
    s = .gameOver ∨ s = .cont ∧ i.finished = true := by
  unfold decideNext at h
  split at h
  · cases h
  · cases s with
    | gameOver => exact Or.inl rfl
    | cont => exact Or.inr ⟨rfl, by simpa using h⟩
    | gameStart => cases h
    | beginning =>
      simp only at h
      split at h <;> cases h

end GameFSM

end SpaceInvaders
