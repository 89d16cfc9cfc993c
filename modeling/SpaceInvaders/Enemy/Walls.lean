import SpaceInvaders.Enemy.Bounce

/-!
# The formation at the walls of the screen

Two readings of "the invaders march from wall to wall". One is about the box:
after the first frame it lies on the screen (`OnScreen`). The other is about the
turns: to the left at the right wall, to the right at the left wall, and a whole
crossing and one row from each turn to the next (`TurnsAtWalls`).

Neither survives the first few frames of a game, because one flag,
`reached_edge`, reports both walls and is asked in both directions: the box is
launched with `L_Edge = 0`, so the first rightward frame is a turn already. The
orbit then gives exactly where each reading breaks: the turn out of `MOVE_LEFT`
steps `L_Edge` below 0 (`onScreen_iff`), the turn out of `MOVE_RIGHT` is taken
152 pixels from the wall (`turnsAtWalls_iff`).
-/

namespace SpaceInvaders

open Clocked (Edge Separated run alternating)

namespace Reference

/-! ## The turns of the orbit -/

theorem moveLeft_succ {n : Nat} (h : orbitState n = .moveLeft) :
    orbitState (n + 1) = .moveDownRight := by
  have hnext := orbit_cases (n + 1)
  have hcase := orbit_cases n
  grind

theorem moveDownRight_pred {n : Nat} (h : orbitState n = .moveDownRight) :
    ∃ k, n = k + 1 ∧ orbitState k = .moveLeft := by
  have hcase := orbit_cases n
  have hphase : n % 4 = 3 ∧ n < 426 := by grind
  refine ⟨n - 1, by omega, ?_⟩
  have hprev := orbit_cases (n - 1)
  grind

theorem moveLeft_pred {n : Nat} (h : orbitState n = .moveLeft) :
    ∃ k, n = k + 1 ∧ orbitState k = .moveDownLeft ∧ orbitLeft n = 0 := by
  have hcase := orbit_cases n
  have hphase : n % 4 = 2 ∧ n < 426 ∧ orbitLeft n = 0 := by grind
  refine ⟨n - 1, by omega, ?_, hphase.2.2⟩
  have hprev := orbit_cases (n - 1)
  grind

theorem moveRight_succ {n : Nat} (h : orbitState n = .moveRight) :
    orbitState (n + 1) = .moveDownLeft := by
  have hnext := orbit_cases (n + 1)
  have hcase := orbit_cases n
  grind

end Reference

namespace Formation

open Reference (orbit orbitState orbitLeft)

variable (f₀ : Formation) (ev : Nat → Edge Bool)

/-! ## The box on the screen -/

/-- `0 ≤ L_Edge ≤ R_Edge ≤ 639`, the registers read as the numbers they hold. -/
def OnScreen (f : Formation) : Prop :=
  f.lEdge.toNat ≤ f.rEdge.toNat ∧ f.rEdge.toNat ≤ 639

instance (f : Formation) : Decidable f.OnScreen := inferInstanceAs (Decidable (_ ∧ _))

/-- The box is on the screen from the first frame on. -/
def StaysOnScreen : Prop := ∀ t, Framed ev t → (run step f₀ ev t).OnScreen

/-- No frame finds the formation in state `s`. -/
def NeverFound (s : FormationState) : Prop :=
  ∀ t, ev t = .slow → (run step f₀ ev t).state ≠ s

variable {f₀ ev}

/-- On the orbit the box is on the screen in every state but `MOVE_DOWN_RIGHT`. -/
theorem onScreen_orbit {f : Formation} {n : Nat} (h : f.observe = orbit n) :
    f.OnScreen ↔ orbitState n ≠ .moveDownRight := by
  have hl : f.lEdge = orbitLeft n := congrArg Reference.lEdge h
  have hr : f.rEdge = 487#10 + orbitLeft n := congrArg Reference.rEdge h
  unfold OnScreen
  rw [hl, hr]
  rcases Reference.orbit_cases n with ⟨-, -, hs, hl⟩ | ⟨-, -, hs, hl⟩ | ⟨-, -, hs, hl⟩ |
    ⟨-, -, hs, hl⟩ | ⟨-, hs, hl⟩ <;> simp [hs, hl]

/-- **Exactly when the box stays on the screen**: as long as no frame finds the
formation in `MOVE_LEFT`. -/
theorem staysOnScreen_iff (h0 : f₀.PowerUp) (hsep : Separated ev) :
    StaysOnScreen f₀ ev ↔ NeverFound f₀ ev .moveLeft := by
  refine ⟨?_, ?_⟩
  · intro hscreen t ht hleft
    have horbit := orbit_of_moving h0 hsep (t := t) (by rw [hleft]; simp)
    have hstate : orbitState (frames f₀ ev t) = .moveLeft :=
      (congrArg Reference.state horbit).symm.trans hleft
    have hnext := hscreen (t + 1) ⟨t, by omega, ht⟩
    rw [onScreen_orbit (orbit_frame h0 hsep ht horbit)] at hnext
    exact hnext (Reference.moveLeft_succ hstate)
  · intro hnever t hframed
    rcases onOrbit h0 hsep t with ⟨_, _, hloaded⟩ | ⟨_, horbit⟩
    · have hl : (run step f₀ ev t).lEdge = 0#10 := congrArg Reference.lEdge (hloaded hframed)
      have hr : (run step f₀ ev t).rEdge = 487#10 :=
        congrArg Reference.rEdge (hloaded hframed)
      unfold OnScreen
      rw [hl, hr]
      decide
    · rw [onScreen_orbit horbit]
      intro hturn
      obtain ⟨k, hk, hleft⟩ := Reference.moveDownRight_pred hturn
      obtain ⟨u, _, hslow, _, hbefore, _⟩ := came_from h0 hsep hk
      exact hnever u hslow ((congrArg Reference.state hbefore).trans hleft)

/-- A started formation: the condition and the property at once. -/
theorem alternating_staysOnScreen_iff :
    StaysOnScreen powerUp (alternating true) ↔
      NeverFound powerUp (alternating true) .moveLeft :=
  staysOnScreen_iff ⟨rfl, rfl⟩ (Clocked.alternating_wellTimed true).separated

/-- Four frames into the game `L_Edge` is 1023. -/
theorem alternating_off_screen :
    Separated (alternating true) ∧ ¬ StaysOnScreen powerUp (alternating true) := by
  refine ⟨(Clocked.alternating_wellTimed true).separated, ?_⟩
  intro h
  exact absurd (h 8 ⟨1, by omega, rfl⟩) (by decide)

/-! ## The turns -/

variable (f₀ ev)

/-- Frame `t` turns the formation from the right to the left. -/
def TurnsLeft (t : Nat) : Prop :=
  ev t = .slow ∧ (run step f₀ ev t).state = .moveRight ∧
    (run step f₀ ev (t + 1)).state = .moveDownLeft

/-- Frame `t` turns the formation from the left to the right. -/
def TurnsRight (t : Nat) : Prop :=
  ev t = .slow ∧ (run step f₀ ev t).state = .moveLeft ∧
    (run step f₀ ev (t + 1)).state = .moveDownRight

/-- The latest frame before `t` moved the box to the left. -/
def CameLeftward (t : Nat) : Prop :=
  ∃ u, u < t ∧ ev u = .slow ∧
    ((run step f₀ ev u).state = .moveLeft ∨ (run step f₀ ev u).state = .moveDownLeft) ∧
    ∀ v, u < v → v < t → ev v ≠ .slow

/-- `t` and `u` are turns, and there is none between them. -/
def ConsecutiveTurns (t u : Nat) : Prop :=
  t < u ∧ (TurnsLeft f₀ ev t ∨ TurnsRight f₀ ev t) ∧
    (TurnsLeft f₀ ev u ∨ TurnsRight f₀ ev u) ∧
    ∀ v, t < v → v < u → ¬ TurnsLeft f₀ ev v ∧ ¬ TurnsRight f₀ ev v

/-- From `t` to `u` the box goes from one wall to the other and sinks by a row. -/
def Crosses (t u : Nat) : Prop :=
  (((run step f₀ ev t).rEdge = 639#10 ∧ (run step f₀ ev u).lEdge = 0#10) ∨
      ((run step f₀ ev t).lEdge = 0#10 ∧ (run step f₀ ev u).rEdge = 639#10)) ∧
    (run step f₀ ev u).dEdge = (run step f₀ ev t).dEdge + 1#10

/-- The formation turns only at the wall it is heading for. -/
structure TurnsAtWalls : Prop where
  left : ∀ t, TurnsLeft f₀ ev t → (run step f₀ ev t).rEdge = 639#10
  right : ∀ t, TurnsRight f₀ ev t →
    (run step f₀ ev t).lEdge = 0#10 ∧ CameLeftward f₀ ev t
  crosses : ∀ t u, ConsecutiveTurns f₀ ev t u → Crosses f₀ ev t u

variable {f₀ ev}

/-- Every frame that finds `MOVE_RIGHT` is a turn, 152 pixels from the wall. -/
theorem turnsLeft_of_moveRight (h0 : f₀.PowerUp) (hsep : Separated ev) {t : Nat}
    (ht : ev t = .slow) (hright : (run step f₀ ev t).state = .moveRight) :
    TurnsLeft f₀ ev t ∧ (run step f₀ ev t).rEdge = 487#10 := by
  have horbit := orbit_of_moving h0 hsep (t := t) (by rw [hright]; simp)
  have hstate : orbitState (frames f₀ ev t) = .moveRight :=
    (congrArg Reference.state horbit).symm.trans hright
  have hnext := congrArg Reference.state (orbit_frame h0 hsep ht horbit)
  refine ⟨⟨ht, hright, hnext.trans (Reference.moveRight_succ hstate)⟩, ?_⟩
  have hr : (run step f₀ ev t).rEdge = 487#10 + orbitLeft (frames f₀ ev t) :=
    congrArg Reference.rEdge horbit
  have hcase := Reference.orbit_cases (frames f₀ ev t)
  have hl : orbitLeft (frames f₀ ev t) = 0 := by grind
  rw [hr, hl]
  rfl

/-- The turns to the right are where they should be. -/
theorem turnsRight_at_wall (h0 : f₀.PowerUp) (hsep : Separated ev) {t : Nat}
    (ht : TurnsRight f₀ ev t) :
    (run step f₀ ev t).lEdge = 0#10 ∧ CameLeftward f₀ ev t := by
  obtain ⟨_, hleft, _⟩ := ht
  have horbit := orbit_of_moving h0 hsep (t := t) (by rw [hleft]; simp)
  have hstate : orbitState (frames f₀ ev t) = .moveLeft :=
    (congrArg Reference.state horbit).symm.trans hleft
  obtain ⟨k, hk, hbefore, hl⟩ := Reference.moveLeft_pred hstate
  obtain ⟨u, hut, hslow, _, hfound, hlast⟩ := came_from h0 hsep hk
  refine ⟨(congrArg Reference.lEdge horbit).trans hl, u, hut, hslow, Or.inr ?_, hlast⟩
  exact (congrArg Reference.state hfound).trans hbefore

/-- **Exactly when the formation turns at the walls only**: as long as no frame
finds it in `MOVE_RIGHT`, that is, until its first frame after the launch. -/
theorem turnsAtWalls_iff (h0 : f₀.PowerUp) (hsep : Separated ev) :
    TurnsAtWalls f₀ ev ↔ NeverFound f₀ ev .moveRight := by
  refine ⟨?_, ?_⟩
  · intro hturns t ht hright
    obtain ⟨hturn, hr⟩ := turnsLeft_of_moveRight h0 hsep ht hright
    exact absurd (hr.symm.trans (hturns.left t hturn)) (by decide)
  · intro hnever
    -- a formation that turns has been at the start of its orbit
    have hstill : ∀ t, ev t = .slow → (run step f₀ ev t).state = .init := by
      intro t ht
      by_contra hmoving
      obtain ⟨u, _, hslow, hstart⟩ := started_at h0 hsep (frames_slow ht hmoving)
      exact hnever u hslow (congrArg Reference.state hstart)
    have hleft : ∀ t, ¬ TurnsLeft f₀ ev t := by
      intro t h
      exact absurd ((hstill t h.1).symm.trans h.2.1) (by decide)
    have hright : ∀ t, ¬ TurnsRight f₀ ev t := by
      intro t h
      exact absurd ((hstill t h.1).symm.trans h.2.1) (by decide)
    refine ⟨fun t h => absurd h (hleft t), fun t h => absurd h (hright t), ?_⟩
    intro t u h
    exact absurd h.2.1 (not_or.mpr ⟨hleft t, hright t⟩)

/-- A started formation: the condition and the property at once. -/
theorem alternating_turnsAtWalls_iff :
    TurnsAtWalls powerUp (alternating true) ↔
      NeverFound powerUp (alternating true) .moveRight :=
  turnsAtWalls_iff ⟨rfl, rfl⟩ (Clocked.alternating_wellTimed true).separated

/-- The second frame of the game turns the formation in mid-field. -/
theorem alternating_turns_in_midfield :
    Separated (alternating true) ∧ ¬ TurnsAtWalls powerUp (alternating true) := by
  refine ⟨(Clocked.alternating_wellTimed true).separated, ?_⟩
  intro h
  exact absurd (h.left 3 ⟨rfl, by decide, by decide⟩) (by decide)

end Formation

end SpaceInvaders
