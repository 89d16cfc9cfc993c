import SpaceInvaders.Enemy.Pass
import SpaceInvaders.Player.Stream

/-!
# The flag of a sprite and its `DRAW` state

Each drawer raises its flag by an edge that finds `DRAW`, and is to have it down
after every other edge. Of the states a pass leaves `DRAW` for, `NEXT_LINE`,
`FINISHED` and `BEFORE_GAME` put the flag out; the one at the end of a completed
pass, `FIRST_IDLE` of an invader and `IDLE` of the ship, leaves it as it is. So an
invader's flag follows `DRAW` as long as no pass is completed
(`Drawer.shownOnlyDrawing_iff`). The ship's has `Reset` besides, which puts it out
in `DRAW` as well (`PlayerSprite.shownOnlyDrawing_iff`).
-/

namespace SpaceInvaders

open Clocked (run run_succ Scanner)

/-! ## The invaders -/

namespace Drawer

variable (m : DrawerModule) (d₀ : Drawer) (inp : Nat → DrawerPorts)

/-- After each edge the flag is up if and only if the edge found `DRAW`. -/
def ShownOnlyDrawing : Prop :=
  ∀ t, (run (edge m) d₀ inp (t + 1)).enemyOn = true ↔ (run (edge m) d₀ inp t).state = .draw

/-- Edge `t` completes a pass. -/
def CompletesAt (t : Nat) : Prop :=
  (run (edge m) d₀ inp t).state = .draw ∧ (run (edge m) d₀ inp (t + 1)).state = .firstIdle

/-- No edge does. -/
def NeverCompletes : Prop := ∀ t, ¬ CompletesAt m d₀ inp t

variable {m d₀ inp}

/-- A completed pass leaves the flag up in `FIRST_IDLE`. -/
theorem not_shown_of_completesAt {t : Nat} (h : CompletesAt m d₀ inp t) :
    ¬ ShownOnlyDrawing m d₀ inp := by
  intro hshown
  have hup : (run (edge m) d₀ inp (t + 1)).enemyOn = true := (hshown t).mpr h.1
  have hkept : (run (edge m) d₀ inp (t + 2)).enemyOn = true := by
    rw [run_succ, edge, clk_enemyOn, h.2]
    exact hup
  exact absurd (h.2.symm.trans ((hshown (t + 1)).mp hkept)) (by simp)

/-- `FIRST_IDLE` is entered with the flag down, but from a completed pass. -/
theorem dark_in_firstIdle (h0 : d₀.state = .beforeGame)
    (hnone : NeverCompletes m d₀ inp) (t : Nat) :
    (run (edge m) d₀ inp t).state ≠ .idle ∧ ((run (edge m) d₀ inp t).state = .firstIdle →
      (run (edge m) d₀ inp t).enemyOn = false) := by
  induction t with
  | zero =>
    rw [run, h0]
    simp
  | succ t ih =>
    refine ⟨(edge_notIdle ih.1).1, fun hs' => ?_⟩
    have hcase := edge_case (p := inp t) hs' (by simp) (by simp)
    rw [run_succ, edge, clk_enemyOn]
    cases hs : (run (edge m) d₀ inp t).state with
    | draw => exact absurd ⟨hs, hs'⟩ (hnone t)
    | idle => exact absurd hs ih.1
    | firstIdle => exact ih.2 hs
    | _ => rfl

theorem shownOnlyDrawing_iff (h0 : d₀.state = .beforeGame) :
    ShownOnlyDrawing m d₀ inp ↔ NeverCompletes m d₀ inp := by
  refine ⟨fun hshown t h => not_shown_of_completesAt h hshown, fun hnone t => ?_⟩
  obtain ⟨hidle, hdark⟩ := dark_in_firstIdle h0 hnone t
  rw [run_succ, edge, clk_enemyOn]
  cases hs : (run (edge m) d₀ inp t).state with
  | idle => exact absurd hs hidle
  | firstIdle => simp [hdark hs]
  | _ => simp

end Drawer

/-! ## The ship -/

namespace PlayerSprite

variable (mem : BitVec 19 → BitVec 24) (s₀ : PlayerSprite) (inp : Nat → SpriteIn)

/-- An edge up to `t` had `Reset` high or found `START`. -/
def Live (t : Nat) : Prop :=
  ∃ u, u ≤ t ∧ ((inp u).reset = true ∨ (run (clk mem) s₀ inp u).state = .start)

/-- After each edge from the first reset or `START` on, the flag is up if and only
if the edge found `DRAW`. -/
def ShownOnlyDrawing : Prop :=
  ∀ t, Live mem s₀ inp t →
    ((run (clk mem) s₀ inp (t + 1)).playerOn = true ↔
      (run (clk mem) s₀ inp t).state = .draw)

/-- An edge that finds `DRAW` has `Reset` low, and if it completes a pass, the next
edge has `Reset` high. -/
def KeepsFlag : Prop :=
  ∀ t, (run (clk mem) s₀ inp t).state = .draw →
    (inp t).reset = false ∧
      ((run (clk mem) s₀ inp (t + 1)).state = .idle → (inp (t + 1)).reset = true)

variable {mem s₀ inp}

/-- The sprite leaves `IDLE` through `START`. -/
theorem live_of_notIdle (h0 : s₀.state = .idle) {t : Nat}
    (h : (run (clk mem) s₀ inp t).state ≠ .idle) : Live mem s₀ inp t := by
  induction t with
  | zero => exact absurd h0 h
  | succ t ih =>
    by_cases hs : (run (clk mem) s₀ inp t).state = .idle
    · refine ⟨t + 1, Nat.le_refl _, Or.inr ?_⟩
      rw [run_succ, clk_state] at h ⊢
      simp only [nextState, hs] at h ⊢
      split_ifs at h ⊢ <;> simp at h ⊢
    · obtain ⟨u, hu, hlive⟩ := ih hs
      exact ⟨u, by omega, hlive⟩

/-- `IDLE` is entered with the flag down, but from a completed pass. -/
theorem dark_in_idle (hkeeps : KeepsFlag mem s₀ inp) (t : Nat) :
    Live mem s₀ inp t → (run (clk mem) s₀ inp t).state = .idle → (inp t).reset = false →
      (run (clk mem) s₀ inp t).playerOn = false := by
  induction t with
  | zero =>
    intro hlive hs hr
    obtain ⟨u, hu, hreset | hstart⟩ := hlive
    · obtain rfl : u = 0 := by omega
      exact absurd (hr.symm.trans hreset) (by simp)
    · obtain rfl : u = 0 := by omega
      exact absurd (hs.symm.trans hstart) (by simp)
  | succ t ih =>
    intro hlive hs' hr'
    rw [run_succ, clk_playerOn]
    cases hr : (inp t).reset with
    | true => rfl
    | false =>
      -- an edge in `IDLE` with `Reset` low is not itself what made the sprite live
      have hbefore : Live mem s₀ inp t := by
        obtain ⟨u, hu, hcause⟩ := hlive
        rcases Nat.eq_or_lt_of_le hu with rfl | hlt
        · rcases hcause with hreset | hstart
          · exact absurd (hr'.symm.trans hreset) (by simp)
          · exact absurd (hs'.symm.trans hstart) (by simp)
        · exact ⟨u, by omega, hcause⟩
      cases hs : (run (clk mem) s₀ inp t).state with
      | draw =>
        -- a completed pass, which the next edge would have to reset
        exact absurd (hr'.symm.trans ((hkeeps t hs).2 hs')) (by simp)
      | idle => exact ih hbefore hs hr
      | _ => rfl

theorem shownOnlyDrawing_iff (h0 : s₀.state = .idle) :
    ShownOnlyDrawing mem s₀ inp ↔ KeepsFlag mem s₀ inp := by
  refine ⟨?_, ?_⟩
  · intro hshown t hs
    have hlive : Live mem s₀ inp t := live_of_notIdle h0 (by rw [hs]; simp)
    have hup : (run (clk mem) s₀ inp (t + 1)).playerOn = true := (hshown t hlive).mpr hs
    have hr : (inp t).reset = false := by
      cases hr : (inp t).reset with
      | false => rfl
      | true => simp [run_succ, clk_playerOn, hr] at hup
    refine ⟨hr, fun hs' => ?_⟩
    by_contra hr'
    have hkept : (run (clk mem) s₀ inp (t + 2)).playerOn = true := by
      rw [run_succ, clk_playerOn, Bool.eq_false_iff.mpr hr', hs']
      exact hup
    have hlive' : Live mem s₀ inp (t + 1) := by
      obtain ⟨u, hu, hcause⟩ := hlive
      exact ⟨u, by omega, hcause⟩
    exact absurd (hs'.symm.trans ((hshown (t + 1) hlive').mp hkept)) (by simp)
  · intro hkeeps t hlive
    rw [run_succ, clk_playerOn]
    cases hr : (inp t).reset with
    | true =>
      have hs : (run (clk mem) s₀ inp t).state ≠ .draw := by
        intro hs
        exact absurd (hr.symm.trans (hkeeps t hs).1) (by simp)
      simp [hs]
    | false =>
      cases hs : (run (clk mem) s₀ inp t).state with
      | idle => simp [dark_in_idle hkeeps t hlive hs hr]
      | _ => simp

end PlayerSprite

/-! ## All drawers -/

/-- **When the sprites show only while they are drawn.** -/
theorem spritesShownOnlyDrawing_iff {m : DrawerModule} {d₀ : Drawer}
    {inp : Nat → DrawerPorts} (hd : d₀.state = .beforeGame) {mem : BitVec 19 → BitVec 24}
    {s₀ : PlayerSprite} {shipInp : Nat → SpriteIn} (hs : s₀.state = .idle) :
    (Drawer.ShownOnlyDrawing m d₀ inp ↔ Drawer.NeverCompletes m d₀ inp) ∧
      (PlayerSprite.ShownOnlyDrawing mem s₀ shipInp ↔
        PlayerSprite.KeepsFlag mem s₀ shipInp) :=
  ⟨Drawer.shownOnlyDrawing_iff hd, PlayerSprite.shownOnlyDrawing_iff hs⟩

/-! ## A pass that is completed -/

namespace Drawer

/-- A scan that is always where the drawer waits for it. -/
def chased (d : Drawer) : DrawerPorts :=
  { DrawerIn.low with
    start := true, drawX := d.enemyStartX + d.enemyX, drawY := d.enemyStartY + d.enemyY,
    enemyInitialX := 0, enemyInitialY := 0 }

def chasedEdge (d : Drawer) : Drawer := d.edge enemyEasy (chased d)

/-- The inputs of a run in which the scan follows the drawer. -/
def chase : Nat → DrawerPorts := fun t => chased (Nat.iterate chasedEdge t powerUp)

theorem run_chase (t : Nat) :
    run (edge enemyEasy) powerUp chase t = Nat.iterate chasedEdge t powerUp :=
  Clocked.run_closedLoop (edge enemyEasy) chased powerUp t

/-- Chased, a drawer takes the transition of the `case`. -/
theorem chasedEdge_state (d : Drawer) :
    (chasedEdge d).state = d.caseNext enemyEasy (chased d).toDrawerIn := by
  rw [chasedEdge, edge, clk_state]
  exact stateNext_case rfl rfl (Bool.and_false _)

/-- Chased, a drawer in a pass is never kept waiting, and stays in the pass until
the last word. -/
theorem chased_step {d : Drawer} (h : d.InPass ∧ d.Counters enemyEasy)
    (hfinal : ¬ d.scanner.Final imageWidth enemyEasy.imageHeight) :
    ((chasedEdge d).InPass ∧ (chasedEdge d).Counters enemyEasy) ∧
      Scanner.Step imageWidth enemyEasy.imageHeight d.scanner (chasedEdge d).scanner ∧
      (d.scanner.phase = .await → (chasedEdge d).scanner.phase = .draw) := by
  obtain ⟨hin, hc⟩ := h
  have hstate := chasedEdge_state d
  have hin' : (chasedEdge d).InPass := by
    unfold InPass
    rw [hstate]
    rcases hin with hs | hs | hs
    · rw [caseNext_draw hs hc.y_lt]
      split_ifs with hword hrow
      · simp
      · simp
      · exact absurd ⟨phase_draw_iff.mpr hs, not_not.mp hword, not_not.mp hrow⟩ hfinal
    · simp [caseNext, hs]
    · simp [caseNext, hs, chased, tempDrawX]
  refine ⟨⟨hin', counters_edge (fits_of_source (Or.inl rfl)) hc⟩,
    scanner_step (fits_of_source (Or.inl rfl)) hc hin hin', fun hawait => phase_draw_iff.mpr ?_⟩
  rw [hstate]
  rcases hin with hs | hs | hs
  · simp [scanner, phase, hs] at hawait
  · simp [scanner, phase, hs] at hawait
  · simp [caseNext, hs, chased, tempDrawX]

/-- The chased drawer gets through a pass, from the second edge on. -/
theorem chase_passes : ∃ n, (∀ k ≤ n, (run (edge enemyEasy) powerUp chase (k + 2)).InPass) ∧
    CompletesAt enemyEasy powerUp chase (n + 2) := by
  -- the second edge finds the first word
  have hstart : (run (edge enemyEasy) powerUp chase 2).InPass := Or.inl (by decide)
  have hc : (run (edge enemyEasy) powerUp chase 2).Counters enemyEasy :=
    counters_run (fits_of_source (Or.inl rfl)) rfl 1
  rw [run_chase] at hstart hc
  obtain ⟨n, hkept, hfinal⟩ := Scanner.exists_final (by decide) scanner
    (fun d : Drawer => d.InPass ∧ d.Counters enemyEasy)
    (fun d h _ hfinal => chased_step h hfinal) ⟨hstart, hc⟩ (hc.inBox hstart)
  have hs := phase_draw_iff.mp hfinal.1
  have hcn := (hkept n (Nat.le_refl n)).2
  refine ⟨n, fun k hk => ?_, ?_, ?_⟩
  · rw [run_chase, Function.iterate_add_apply]
    exact (hkept k hk).1
  · rw [run_chase, Function.iterate_add_apply]
    exact hs
  · rw [run_chase, show n + 2 + 1 = (n + 2).succ from rfl, Function.iterate_succ_apply',
      Function.iterate_add_apply, chasedEdge_state]
    exact caseNext_final hs hcn.y_lt hfinal _

/-- The flag of the first invader stays up after its first pass. -/
theorem chase_shown_after_pass : ¬ ShownOnlyDrawing enemyEasy powerUp chase := by
  obtain ⟨n, -, hend⟩ := chase_passes
  exact not_shown_of_completesAt hend

/-- It is a pass of the whole sprite. -/
theorem chase_drawsWholePass : ∃ a b, CompletePass enemyEasy powerUp chase a b ∧
    SpriteShaped enemyEasy powerUp chase a b := by
  obtain ⟨n, hin, hend⟩ := chase_passes
  have hpass : CompletePass enemyEasy powerUp chase 1 (n + 2 + 1) := by
    refine ⟨by decide, by decide, by omega, fun v hv hvb => ?_, hend.2⟩
    obtain ⟨k, rfl⟩ := Nat.exists_eq_add_of_le' hv
    rcases hin k (by omega) with hs | hs | hs
    · rw [hs]; simp
    · rw [hs]; simp
    · rw [hs]; simp
  exact ⟨1, n + 2 + 1, hpass, (drawsWholePasses (Or.inl rfl) rfl).shape _ _ hpass⟩

end Drawer

/-- A drawer and a ship from power-up. -/
theorem powerUp_spritesShownOnlyDrawing_iff :
    (Drawer.ShownOnlyDrawing enemyMedium Drawer.powerUp Drawer.chase ↔
        Drawer.NeverCompletes enemyMedium Drawer.powerUp Drawer.chase) ∧
      (PlayerSprite.ShownOnlyDrawing (fun _ => 0) PlayerSprite.powerUp
          PlayerSprite.resetInRow ↔
        PlayerSprite.KeepsFlag (fun _ => 0) PlayerSprite.powerUp
          PlayerSprite.resetInRow) :=
  spritesShownOnlyDrawing_iff rfl rfl

end SpaceInvaders
