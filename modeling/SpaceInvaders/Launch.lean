import SpaceInvaders.Console

/-!
# The start pulse across the two clocks

`gameFSM` raises `start` for as many `Clk` edges as its state stays in
`GAME_START`, which is one or two. The drawers run on `Clk` and take the pulse
when it comes; the formation recomputes `state_next` at every `Clk` edge and looks
at it at the next frame only. A frame that comes after the pulse is over finds
`INIT` there again, with the sprites already running (`keyPress_loses_start`).

`startKept_iff` is exact: no launch loses its start precisely when at every frame
that follows a launch `start` was still high at the latest `Clk` edge.
-/

namespace SpaceInvaders

open Clocked (run run_succ run_keep)

namespace Console

variable (c₀ : Console) (ev : Nat → Tick)

/-- At edge `k` a drawer leaves `BEFORE_GAME` on a high `start`, the formation
still being in `INIT`. -/
def Launch (k : Nat) : Prop :=
  (ev k).isClk = true ∧ (run step c₀ ev k).fsm.start = true ∧
    (run step c₀ ev k).array.formation.state = .init ∧
    ∃ d, ((run step c₀ ev k).array.drawers d).state = .beforeGame ∧
      ((run step c₀ ev (k + 1)).array.drawers d).state = .firstIdle

/-- Edge `m` is the first `frame_clk` edge after edge `k`. -/
def NextFrame (k m : Nat) : Prop :=
  k < m ∧ ev m = .frame ∧ ∀ v, k < v → v < m → ev v ≠ .frame

/-- After every launch the formation leaves `INIT` at the next frame. -/
def StartKept : Prop :=
  ∀ k m, Launch c₀ ev k → NextFrame ev k m →
    (run step c₀ ev (m + 1)).array.formation.state ≠ .init

/-- At the frame after a launch `start` was high at the latest `Clk` edge. -/
def StartStillHigh : Prop :=
  ∀ k m, Launch c₀ ev k → NextFrame ev k m → startAtClk c₀ ev m = true

/-- Each frame has a `Clk` edge between itself and the frame before it. -/
def ClkBetweenFrames : Prop :=
  ∀ m, ev m = .frame → ∃ u, u < m ∧ (ev u).isClk = true ∧
    ∀ v, u < v → v < m → ev v ≠ .frame

variable {c₀ ev}

/-- Only a frame moves the formation's state register. -/
theorem step_formation_state {c : Console} {e : Tick} (h : e ≠ .frame) :
    (c.step e).array.formation.state = c.array.formation.state := by
  cases e with
  | clk i => rfl
  | frame => exact absurd rfl h
  | playerFrame i => rfl

/-- Between a launch and the next frame the formation waits in `INIT`. -/
theorem init_at_nextFrame {k m : Nat} (hl : Launch c₀ ev k) (hm : NextFrame ev k m) :
    (run step c₀ ev m).array.formation.state = .init := by
  obtain ⟨hclk, _, hinit, _⟩ := hl
  obtain ⟨hkm, _, hno⟩ := hm
  rw [← hinit]
  refine run_keep (fun c : Console => c.array.formation.state) (Nat.le_of_lt hkm) ?_
  intro v hkv hvm
  refine step_formation_state ?_
  rcases Nat.eq_or_lt_of_le hkv with rfl | hlt
  · intro hframe
    simp [hframe, Tick.isClk] at hclk
  · exact hno v hlt hvm

/-- The step fact: the frame after a launch leaves `INIT` exactly when it still
finds the start. -/
theorem leaves_init_iff (hp : c₀.PowerUp) {k m : Nat} (hl : Launch c₀ ev k)
    (hm : NextFrame ev k m) :
    (run step c₀ ev (m + 1)).array.formation.state ≠ .init ↔
      startAtClk c₀ ev m = true := by
  have hframe := Formation.frame_ne_init_iff (follows_startAtClk ev hp m)
  rw [run_succ, hm.2.1]
  refine hframe.trans (or_iff_right ?_)
  exact not_not.mpr (init_at_nextFrame hl hm)

/-- **When the start pulse is not lost.** -/
theorem startKept_iff (hp : c₀.PowerUp) :
    StartKept c₀ ev ↔ StartStillHigh c₀ ev := by
  refine ⟨?_, ?_⟩
  · intro h k m hl hm
    exact (leaves_init_iff hp hl hm).mp (h k m hl hm)
  · intro h k m hl hm
    exact (leaves_init_iff hp hl hm).mpr (h k m hl hm)

/-- A key held for two clocks. -/
def press : ConsoleIn := { ConsoleIn.low with keycode := 44#8 }

/-- The pulse reaches the drawers at edge 3 and is over at edge 5. -/
def keyPress (frames : List Tick) : Nat → Tick :=
  Clocked.script ([.clk press, .clk press, .clk .low, .clk .low] ++ frames) (.clk .low)

/-- A frame right after the launch keeps the start. -/
theorem keyPress_keeps_start : StartKept powerUp (keyPress [.frame]) := by
  refine (startKept_iff powerUp_powerUp).mpr ?_
  intro k m hl hm
  have hframe : ∀ v, keyPress [.frame] v = .frame → v = 4 := by
    intro v hv
    match v with
    | 4 => rfl
    | 0 | 1 | 2 | 3 | _ + 5 => simp [keyPress, Clocked.script] at hv
  rw [hframe m hm.2.1]
  decide

/-- A frame three clocks after the launch finds nothing of it. -/
theorem keyPress_loses_start :
    ClkBetweenFrames (keyPress [.clk .low, .clk .low, .frame]) ∧
      ¬ StartKept powerUp (keyPress [.clk .low, .clk .low, .frame]) := by
  refine ⟨?_, ?_⟩
  · intro m hm
    match m with
    | 6 => exact ⟨5, by omega, rfl, fun v _ _ => by omega⟩
    | 0 | 1 | 2 | 3 | 4 | 5 | _ + 7 => simp [keyPress, Clocked.script] at hm
  · intro h
    have hlaunch : Launch powerUp (keyPress [.clk .low, .clk .low, .frame]) 3 :=
      ⟨by decide, by decide, by decide, (.ee, 0), by decide, by decide⟩
    have hnext : NextFrame (keyPress [.clk .low, .clk .low, .frame]) 3 6 := by
      refine ⟨by omega, rfl, fun v hv hv6 => ?_⟩
      match v with
      | 4 | 5 => simp [keyPress, Clocked.script]
    exact h 3 6 hlaunch hnext (by decide)

end Console

end SpaceInvaders
