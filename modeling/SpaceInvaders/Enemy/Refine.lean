import SpaceInvaders.Enemy.Formation

/-!
# The two-clock formation refines a one-clock machine

`Reference` is the machine `enemy_array` is meant to be: it steps at `frame_clk`
only, decides by the `case` table from its own registers and the `Start` sampled
at the latest `Clk` edge, and stays in `LOST` once there.

The source splits the decision off into a register of the other clock domain.
What makes the two agree: after any `Clk` edge `state_next` is the reference
decision for the registers as they stand (`Prepared`), and in `LOST`, where the
`Clk` process writes nothing, it is `LOST` because `state` was copied from it
(`LostHeld`). Both are packed into `simulation`.
-/

namespace SpaceInvaders

open Clocked (WellTimed run samples observed trace)

/-- The registers a one-clock formation needs. -/
structure Reference where
  state : FormationState
  lEdge : BitVec 10
  rEdge : BitVec 10
  uEdge : BitVec 10
  dEdge : BitVec 10
  deriving DecidableEq

namespace Reference

/-- The `case` table, extended by `LOST`. -/
def next (s : FormationState) (reachedEdge reachedMax start : Bool) :
    FormationState :=
  match s with
  | .init => if start then .moveRight else .init
  | .moveLeft => if reachedEdge then .moveDownRight else .moveLeft
  | .moveRight => if reachedEdge then .moveDownLeft else .moveRight
  | .moveDownRight => if reachedMax then .lost else .moveRight
  | .moveDownLeft => if reachedMax then .lost else .moveLeft
  | .lost => .lost

/-- `1` to the right, `-1` to the left. -/
def stepX : FormationState → BitVec 10
  | .moveRight | .moveDownRight => 1
  | .moveLeft | .moveDownLeft => -1
  | .init | .lost => 0

/-- `1` in the two states that sink by a row step. -/
def stepY : FormationState → BitVec 10
  | .moveDownRight | .moveDownLeft => 1
  | .moveLeft | .moveRight | .init | .lost => 0

/-- One frame: decide, and move the box by the old state. -/
def step (r : Reference) (start : Bool) : Reference :=
  let s' := next r.state (r.rEdge == 639#10 || r.lEdge == 0#10) (r.dEdge == 355#10)
    start
  if r.state = .init then
    { state := s', lEdge := 0#10, rEdge := 487#10, uEdge := 0#10, dEdge := 143#10 }
  else
    { state := s'
      lEdge := r.lEdge + stepX r.state
      rEdge := r.rEdge + stepX r.state
      uEdge := r.uEdge + stepY r.state
      dEdge := r.dEdge + stepY r.state }

end Reference

namespace Formation

/-- The part of the formation the rest of the design sees. -/
def observe (f : Formation) : Reference :=
  { state := f.state, lEdge := f.lEdge, rEdge := f.rEdge, uEdge := f.uEdge,
    dEdge := f.dEdge }

/-- `LOST` was copied from `state_next`, which nothing has written since. -/
def LostHeld (f : Formation) : Prop := f.state = .lost → f.stateNext = .lost

/-- `state_next` is the reference decision for the sampled `start`. -/
def Prepared (f : Formation) (start : Bool) : Prop :=
  f.stateNext = Reference.next f.state (f.rEdge == 639#10 || f.lEdge == 0#10)
    (f.dEdge == 355#10) start

theorem reachedEdge_eq (f : Formation) :
    f.reachedEdge = (f.rEdge == 639#10 || f.lEdge == 0#10) := by
  unfold reachedEdge
  by_cases hr : f.rEdge = 639#10 <;> by_cases hl : f.lEdge = 0#10 <;> simp [hr, hl]

theorem reachedMax_eq (f : Formation) : f.reachedMax = (f.dEdge == 355#10) := by
  unfold reachedMax
  by_cases hd : f.dEdge = 355#10 <;> simp [hd]

theorem lostHeld_frame {f : Formation} : f.frame.LostHeld := by
  intro h
  rw [frame_state] at h
  rw [frame_stateNext]
  exact h

theorem lostHeld_clk {f : Formation} (h : f.LostHeld) (start : Bool) :
    (f.clk start).LostHeld := by
  intro hs
  rw [clk_state] at hs
  simp only [clk, hs]
  exact h hs

/-- After a `Clk` edge the decision is prepared, in every state. -/
theorem prepared_clk {f : Formation} (h : f.LostHeld) (start : Bool) :
    (f.clk start).Prepared start := by
  cases hs : f.state with
  | init => simp only [Prepared, clk, hs, Reference.next]
  | moveLeft =>
    simp only [Prepared, clk, hs, Reference.next, reachedEdge_eq, Bool.not_eq_true']
    split <;> simp_all
  | moveRight =>
    simp only [Prepared, clk, hs, Reference.next, reachedEdge_eq, Bool.not_eq_true']
    split <;> simp_all
  | moveDownRight =>
    simp only [Prepared, clk, hs, Reference.next, reachedMax_eq, Bool.not_eq_true']
    split <;> simp_all
  | moveDownLeft =>
    simp only [Prepared, clk, hs, Reference.next, reachedMax_eq, Bool.not_eq_true']
    split <;> simp_all
  | lost =>
    simp only [Prepared, clk, hs, Reference.next]
    exact h hs

theorem lostHeld_step (f : Formation) (e : Clocked.Edge Bool) (h : f.LostHeld) :
    (step f e).LostHeld := by
  cases e with
  | fast start => exact lostHeld_clk h start
  | slow => exact lostHeld_frame

/-- `LOST`, with `LOST` in the next-state register, is left by neither clock. -/
theorem lost_step (f : Formation) (e : Clocked.Edge Bool)
    (h : f.state = .lost ∧ f.LostHeld) :
    (step f e).state = .lost ∧ (step f e).LostHeld := by
  refine ⟨?_, lostHeld_step f e h.2⟩
  cases e with
  | fast start => exact h.1
  | slow => exact (frame_state f).trans (h.2 h.1)

/-- A formation once in `LOST` stays there. -/
theorem lost_of_le {f₀ : Formation} (h0 : f₀.LostHeld) {ev : Nat → Clocked.Edge Bool}
    {a t : Nat} (hat : a ≤ t) (h : (run step f₀ ev a).state = .lost) :
    (run step f₀ ev t).state = .lost := by
  have hheld : (run step f₀ ev a).LostHeld := Clocked.run_inv LostHeld h0 lostHeld_step a
  exact (Clocked.run_absorb (fun f : Formation => f.state = .lost ∧ f.LostHeld) lost_step
    hat ⟨h, hheld⟩).1

/-- A `frame_clk` edge takes the prepared decision and moves the box by the old
state, as the reference does. -/
theorem observe_frame {f : Formation} {start : Bool} (h : f.Prepared start) :
    f.frame.observe = f.observe.step start := by
  have hstate : f.stateNext = Reference.next f.state
      (f.rEdge == 639#10 || f.lEdge == 0#10) (f.dEdge == 355#10) start := h
  cases hs : f.state <;>
    simp [frame, observe, Reference.step, Reference.stepX, Reference.stepY, hs,
      hstate, BitVec.sub_eq_add_neg]

def simulation :
    Clocked.Simulation Formation.clk Formation.frame Reference.step observe where
  Inv := LostHeld
  Fresh := Prepared
  inv_fast := fun _ start h => lostHeld_clk h start
  inv_slow := fun _ _ => lostHeld_frame
  obs_fast := fun _ _ => rfl
  fresh_fast := fun _ start h => prepared_clk h start
  obs_slow := fun _ _ _ h => observe_frame h

/-- **The two-clock formation is the one-clock machine.** From power-up in
`INIT`, whatever the other registers hold, and however the clocks interleave. -/
theorem formation_refines_reference {f₀ : Formation} (h0 : f₀.state = .init)
    {ev : Nat → Clocked.Edge Bool} (hwt : WellTimed ev) (t : Nat) :
    observed observe (run step f₀ ev) ev t
      = trace Reference.step f₀.observe (samples false ev t) := by
  have hinv : simulation.Inv f₀ := fun h => absurd (h0.symm.trans h) (by decide)
  exact simulation.observed_eq_trace false hinv hwt t

/-- `Start` held high, one `Clk` edge per frame. -/
theorem started_refines_reference :
    observed observe (run step powerUp (Clocked.alternating true))
        (Clocked.alternating true) 4
      = trace Reference.step powerUp.observe (samples false (Clocked.alternating true) 4) :=
  formation_refines_reference rfl (Clocked.alternating_wellTimed true) 4

end Formation

end SpaceInvaders
