import SpaceInvaders.Enemy.Counters

/-!
# How an invader dies, and that it stays dead

`state_next` is a `case` with three overrides after it, from eight states.
`FINISHED` is entered by an override only (`caseNext_finished`), and the two
overrides that lead there name their cause; out of `FINISHED` there is the `case`
on `start`, which `delete_enemies` overrides back, and `Reset`. The flag is down
from the second cycle on: in the first one it still shows the pixel that was hit.
-/

namespace SpaceInvaders

open Clocked (run run_succ)

namespace Drawer

section Step

variable {m : DrawerModule} {d : Drawer} {p : DrawerPorts}

/-- The cause of a death: deleted, or hit while its own flag is up. -/
def Killed (d : Drawer) (p : DrawerPorts) : Prop :=
  p.reset = false ∧ (p.deleteEnemies = true ∨ d.enemyOn = true ∧ p.hit = true)

/-- What may let a drawer out of `FINISHED`. -/
def Released (p : DrawerPorts) : Prop :=
  p.reset = true ∨ p.start = true ∧ p.deleteEnemies = false

/-- The outputs of a drawer with nothing to show. -/
structure Dark (d : Drawer) : Prop where
  enemyOn : d.enemyOn = false
  enemyR : d.enemyR = 0#8
  enemyG : d.enemyG = 0#8
  enemyB : d.enemyB = 0#8

theorem dark_of_enemyOn (h : d.enemyOn = false) : d.Dark := by
  have hcolour : ∀ bit, d.colour bit = 0#8 := by
    intro bit
    rw [colour, h]
    rfl
  exact ⟨h, hcolour 2, hcolour 1, hcolour 0⟩

/-- An edge into `FINISHED` from elsewhere has a cause. -/
theorem killed_of_finished (hs : d.state ≠ .finished)
    (hs' : (d.edge m p).state = .finished) : d.Killed p := by
  rw [edge, clk_state] at hs'
  have hr : p.reset = false := by
    cases hr : p.reset with
    | false => rfl
    | true =>
      rw [stateNext_reset hr] at hs'
      cases hs'
  refine ⟨hr, ?_⟩
  cases hd : p.deleteEnemies with
  | true => exact Or.inl rfl
  | false => exact Or.inr ((stateNext_finished hs hr hd).mp hs')

/-- Neither a hit nor the scan moves a dead invader, and `start` alone does not
while the invaders are being deleted. -/
theorem edge_finished (hs : d.state = .finished) (hkeep : ¬ Released p) :
    (d.edge m p).state = .finished := by
  have hr : p.reset = false := by
    cases hr : p.reset with
    | false => rfl
    | true => exact absurd (Or.inl hr) hkeep
  rw [edge, clk_state]
  cases hh : d.enemyOn && p.hit with
  | true => simp [stateNext, hr, hh]
  | false =>
    cases hd : p.deleteEnemies with
    | true => simp [stateNext, hr, hd]
    | false =>
      -- only the `case` is left, and it waits for `start`
      have hstart : p.start = false := by
        cases hstart : p.start with
        | false => rfl
        | true => exact absurd (Or.inr ⟨hstart, hd⟩) hkeep
      rw [stateNext_case hr hd hh]
      simp only [caseNext, hs, hstart]
      rfl

theorem dark_edge (hs : d.state = .finished) : (d.edge m p).Dark := by
  refine dark_of_enemyOn ?_
  rw [edge, clk_enemyOn, hs]

end Step

/-! ## Runs -/

variable (m : DrawerModule) (d₀ : Drawer) (inp : Nat → DrawerPorts)

/-- Invaders die by their own hit, or deleted, and stay dead. -/
structure DiesByOwnHit : Prop where
  killed : ∀ t, (run (edge m) d₀ inp t).state ≠ .finished →
    (run (edge m) d₀ inp (t + 1)).state = .finished →
    (run (edge m) d₀ inp t).Killed (inp t)
  reset : ∀ t, (inp t).reset = true →
    (run (edge m) d₀ inp (t + 1)).state = .beforeGame
  staysDead : ∀ a t, a ≤ t → (run (edge m) d₀ inp a).state = .finished →
    (∀ v, a ≤ v → v < t → ¬ Released (inp v)) →
    (run (edge m) d₀ inp t).state = .finished ∧
      (a < t → (run (edge m) d₀ inp t).Dark)

variable {m d₀ inp}

/-- Until it is let out, a drawer stays in `FINISHED`. -/
theorem finished_run {a t : Nat} (hat : a ≤ t)
    (hs : (run (edge m) d₀ inp a).state = .finished)
    (hkeep : ∀ v, a ≤ v → v < t → ¬ Released (inp v)) :
    (run (edge m) d₀ inp t).state = .finished := by
  induction hat with
  | refl => exact hs
  | @step t hle ih =>
    rw [run_succ]
    exact edge_finished (ih fun v hav hvt => hkeep v hav (by omega))
      (hkeep t hle (Nat.lt_succ_self t))

/-- **Invaders die only by their own hit and stay dead.** -/
theorem diesByOwnHit : DiesByOwnHit m d₀ inp where
  killed := by
    intro t hs hs'
    exact killed_of_finished hs hs'
  reset := by
    intro t hr
    rw [run_succ, edge, clk_state]
    exact stateNext_reset hr
  staysDead := by
    intro a t hat hs hkeep
    refine ⟨finished_run hat hs hkeep, fun hlt => ?_⟩
    -- the edge before found `FINISHED` and put the flag out
    obtain ⟨u, rfl⟩ := Nat.exists_eq_add_of_lt hlt
    have hprev : (run (edge m) d₀ inp (a + u)).state = .finished :=
      finished_run (Nat.le_add_right a u) hs fun v hav hvu => hkeep v hav (by omega)
    exact dark_edge hprev

end Drawer

end SpaceInvaders
