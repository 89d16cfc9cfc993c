import SpaceInvaders.Clocked.RowScan
import SpaceInvaders.Enemy.Drawer

/-!
# The counters of a drawer

A drawer in the three states of a pass (`DRAW`, `NEXT_LINE`, `AWAIT_POS`) is a row
scanner over a picture of 50 by `IMAGE_HEIGHT` words (`scanner_step`). Outside
them its counters are stale, but a pass is only ever entered through `FIRST_IDLE`,
which clears them; so whatever a hit, a deletion or a reset interrupts, the
counters are inside the picture wherever they are used (`Counters`).

`START` and `IDLE` are never reached. What a pass puts out, and where `pos` stands
in it, is in `Pass.lean`.
-/

namespace SpaceInvaders

open Clocked (run run_succ Scanner ScanPhase)

/-- What an edge of a drawer samples, the two position ports among it. -/
structure DrawerPorts extends DrawerIn where
  enemyInitialX : BitVec 10
  enemyInitialY : BitVec 10

/-- The sprite is not empty, and its rows fit the counter. -/
def DrawerModule.Fits (m : DrawerModule) : Prop := 0 < m.imageHeight ∧ m.imageHeight ≤ 50

theorem fits_of_source {m : DrawerModule} (hm : m = enemyEasy ∨ m = enemyMedium) : m.Fits := by
  rcases hm with rfl | rfl
  · exact ⟨by decide, by decide⟩
  · exact ⟨by decide, by decide⟩

namespace Drawer

/-- One `posedge Clk`. -/
def edge (m : DrawerModule) (d : Drawer) (p : DrawerPorts) : Drawer :=
  d.clk m p.enemyInitialX p.enemyInitialY p.toDrawerIn

/-- The three states of a pass. -/
def InPass (d : Drawer) : Prop :=
  d.state = .draw ∨ d.state = .nextLine ∨ d.state = .awaitPos

instance (d : Drawer) : Decidable d.InPass := inferInstanceAs (Decidable (_ ∨ _))

/-- The phase of the state, where it is one of a pass. -/
def phase (s : DrawerState) : ScanPhase :=
  match s with
  | .draw => .draw
  | .nextLine => .next
  | _ => .await

/-- A drawer as a row scanner. -/
def scanner (d : Drawer) : Scanner :=
  { phase := phase d.state, x := d.enemyX.toNat, y := d.enemyY.toNat }

/-- What holds of the counters from the first edge on. -/
structure Counters (m : DrawerModule) (d : Drawer) : Prop where
  notIdle : d.state ≠ .idle
  notStart : d.state ≠ .start
  x_le : d.enemyX.toNat ≤ imageWidth
  y_lt : d.enemyY.toNat < m.imageHeight
  inBox : d.InPass → d.scanner.InBox imageWidth m.imageHeight

section Step

variable {m : DrawerModule} {d : Drawer} {p : DrawerPorts}

theorem edge_case {s : DrawerState} (h : (d.edge m p).state = s) (hb : s ≠ .beforeGame)
    (hf : s ≠ .finished) : d.caseNext m p.toDrawerIn = s := by
  rw [edge, clk_state] at h
  exact stateNext_eq_case h hb hf

/-- The states of a pass are entered by the `case`. -/
theorem state_of_inPass (hin' : (d.edge m p).InPass) :
    (d.edge m p).state = d.caseNext m p.toDrawerIn := by
  refine (edge_case rfl ?_ ?_).symm
  · rcases hin' with hs' | hs' | hs' <;> rw [hs'] <;> simp
  · rcases hin' with hs' | hs' | hs' <;> rw [hs'] <;> simp

theorem finalPixel_iff : d.finalPixel = true ↔ d.enemyX.toNat + 1 = imageWidth := by
  unfold finalPixel imageWidth
  rw [beq_iff_eq]
  omega

theorem finalLine_iff (hy : d.enemyY.toNat < m.imageHeight) :
    d.finalLine m = true ↔ d.enemyY.toNat + 1 = m.imageHeight := by
  unfold finalLine
  rw [beq_iff_eq]
  omega

/-- Where `DRAW` goes by the `case`, in terms of the counters. -/
theorem caseNext_draw (hs : d.state = .draw) (hy : d.enemyY.toNat < m.imageHeight)
    (i : DrawerIn) : d.caseNext m i =
      if d.enemyX.toNat + 1 ≠ imageWidth then .draw
      else if d.enemyY.toNat + 1 ≠ m.imageHeight then .nextLine
      else .firstIdle := by
  simp only [caseNext, hs, Bool.not_eq_true', ← Bool.not_eq_true, finalPixel_iff,
    finalLine_iff hy]

/-- After its last word a pass goes back to `FIRST_IDLE`. -/
theorem caseNext_final (hs : d.state = .draw) (hy : d.enemyY.toNat < m.imageHeight)
    (hfinal : d.scanner.Final imageWidth m.imageHeight) (i : DrawerIn) :
    d.caseNext m i = .firstIdle := by
  have hword : d.enemyX.toNat + 1 = imageWidth := hfinal.2.1
  have hrow : d.enemyY.toNat + 1 = m.imageHeight := hfinal.2.2
  rw [caseNext_draw hs hy, if_neg (not_not.mpr hword), if_neg (not_not.mpr hrow)]

/-- **Inside a pass a drawer is a row scanner.** -/
theorem scanner_step (hfit : m.Fits) (hc : d.Counters m) (hin : d.InPass)
    (hin' : (d.edge m p).InPass) :
    Scanner.Step imageWidth m.imageHeight d.scanner (d.edge m p).scanner := by
  have hstate := state_of_inPass hin'
  have hbox := hc.inBox hin
  have hx : (d.edge m p).enemyX = _ := clk_enemyX ..
  have hy : (d.edge m p).enemyY = _ := clk_enemyY ..
  rcases hin with hs | hs | hs
  · simp only [hs] at hx hy
    rw [caseNext_draw hs hc.y_lt] at hstate
    have hphase : d.scanner.phase = .draw := congrArg phase hs
    have hcolumn := (congrArg BitVec.toNat hx).trans (BitVec.toNat_add ..)
    have hroom : imageWidth < 2 ^ 10 := by decide
    split_ifs at hstate with hend hlast
    · refine Scanner.step_of_draw hbox hphase hroom (fun h => absurd h hend) ?_ hcolumn
        (congrArg BitVec.toNat hy)
      exact (congrArg phase hstate).trans (if_neg hend).symm
    · refine Scanner.step_of_draw hbox hphase hroom (fun _ => hlast) ?_ hcolumn
        (congrArg BitVec.toNat hy)
      exact (congrArg phase hstate).trans (if_pos (not_not.mp hend)).symm
    · exact absurd hin' (by simp [InPass, hstate])
  · simp only [hs] at hx hy
    have hnext : (d.edge m p).state = .awaitPos := by
      rw [hstate]
      simp only [caseNext, hs]
    have hroom : m.imageHeight ≤ 2 ^ 10 := Nat.le_trans hfit.2 (by decide)
    exact Scanner.step_of_next hbox (congrArg phase hs) hroom (congrArg phase hnext)
      (congrArg BitVec.toNat hx) ((congrArg BitVec.toNat hy).trans (BitVec.toNat_add ..))
  · simp only [hs] at hx hy
    simp only [caseNext, hs] at hstate
    refine Scanner.step_of_await (congrArg phase hs) ?_ (congrArg BitVec.toNat hx)
      (congrArg BitVec.toNat hy)
    split_ifs at hstate
    · exact Or.inr (congrArg phase hstate)
    · exact Or.inl (congrArg phase hstate)

/-- A pass is entered through `FIRST_IDLE` only. -/
theorem entered_from (hi : d.state ≠ .idle) (hst : d.state ≠ .start) (hin : ¬ d.InPass)
    (hin' : (d.edge m p).InPass) : d.state = .firstIdle ∧ (d.edge m p).state = .draw := by
  have hstate := state_of_inPass hin'
  unfold InPass at hin hin'
  rw [hstate] at hin' ⊢
  cases hs : d.state <;> simp only [caseNext, hs] at hin hin' hi hst ⊢ <;> grind

/-- `IDLE` and `START` are reached from themselves only. -/
theorem edge_notIdle (h : d.state ≠ .idle) :
    (d.edge m p).state ≠ .idle ∧ (d.edge m p).state ≠ .start := by
  refine ⟨?_, ?_⟩
  · intro hs'
    have hcase := edge_case hs' (by simp) (by simp)
    cases hs : d.state <;> simp only [caseNext, hs] at hcase h <;> grind
  · intro hs'
    have hcase := edge_case hs' (by simp) (by simp)
    cases hs : d.state <;> simp only [caseNext, hs] at hcase h <;> grind

/-- The first edge after power-up or a reset clears the counters. -/
theorem counters_of_beforeGame (hfit : m.Fits) (hs : d.state = .beforeGame) :
    (d.edge m p).Counters m := by
  have hidle : d.state ≠ .idle := by rw [hs]; simp
  refine ⟨(edge_notIdle hidle).1, (edge_notIdle hidle).2, ?_, ?_, ?_⟩
  · rw [edge, clk_enemyX, hs]
    exact Nat.zero_le _
  · rw [edge, clk_enemyY, hs]
    exact hfit.1
  · intro hin'
    have hfrom := entered_from hidle (by rw [hs]; simp) (by simp [InPass, hs]) hin'
    exact absurd (hs.symm.trans hfrom.1) (by simp)

/-- **Every edge keeps the counters inside the picture.** -/
theorem counters_edge (hfit : m.Fits) (hc : d.Counters m) : (d.edge m p).Counters m := by
  refine ⟨(edge_notIdle hc.notIdle).1, (edge_notIdle hc.notIdle).2, ?_, ?_, ?_⟩
  · have hx := hc.x_le
    rw [edge, clk_enemyX]
    cases hs : d.state with
    | draw =>
      have hbox := (hc.inBox (Or.inl hs)).2
      simp only [scanner, phase, hs] at hbox
      show (d.enemyX + 1#10).toNat ≤ imageWidth
      rw [BitVec.toNat_add_of_lt (y := 1#10)
        (Nat.lt_trans (Nat.succ_lt_succ hbox) (by decide))]
      exact hbox
    | _ => first | exact hx | exact Nat.zero_le _
  · have hy := hc.y_lt
    rw [edge, clk_enemyY]
    cases hs : d.state with
    | nextLine =>
      have hbox := (hc.inBox (Or.inr (Or.inl hs))).2
      simp only [scanner, phase, hs] at hbox
      show (d.enemyY + 1#10).toNat < m.imageHeight
      rw [BitVec.toNat_add_of_lt (y := 1#10)
        (Nat.lt_of_lt_of_le hbox.2 (Nat.le_trans hfit.2 (by decide)))]
      exact hbox.2
    | _ => first | exact hy | exact hfit.1
  · intro hin'
    by_cases hin : d.InPass
    · exact Scanner.inBox_step (by decide) (scanner_step hfit hc hin hin') (hc.inBox hin)
    · -- stale counters are cleared by the edge that uses them first
      obtain ⟨hs, hs'⟩ := entered_from hc.notIdle hc.notStart hin hin'
      have hx' : (d.edge m p).enemyX = 0#10 := by rw [edge, clk_enemyX, hs]
      have hy' : (d.edge m p).enemyY = 0#10 := by rw [edge, clk_enemyY, hs]
      unfold scanner
      rw [hs', hx', hy']
      exact ⟨hfit.1, show 0 < 50 by decide⟩

end Step

/-! ## Runs -/

variable {m : DrawerModule} {d₀ : Drawer} {inp : Nat → DrawerPorts}

/-- The counters along a run from power-up, whatever the other registers hold. -/
theorem counters_run (hfit : m.Fits) (h0 : d₀.state = .beforeGame) (t : Nat) :
    (run (edge m) d₀ inp (t + 1)).Counters m := by
  induction t with
  | zero => exact counters_of_beforeGame hfit h0
  | succ t ih => exact counters_edge hfit ih

end Drawer

end SpaceInvaders
