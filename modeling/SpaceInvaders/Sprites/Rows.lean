import Mathlib.Tactic.Ring
import SpaceInvaders.Clocked.RowStarts
import SpaceInvaders.Enemy.Pass
import SpaceInvaders.Player.Screen
import SpaceInvaders.Player.Stream

/-!
# Where the rows of a sprite begin

A row of a sprite is in its place if the edge that enters `DRAW` samples the scan
at the left end of that row: the origin, shifted down by the row counter the row is
drawn with.

The waiting states look for less. `FIRST_IDLE` compares both coordinates with the
counters, but it clears the counters in the same cycle, so what it compares with
may be left over. `AWAIT_POS` does not look at the line at all, and begins by comparing
the column with the counter that the row before has left. So where the first row of a pass
is in its place, the next is only if the scan has gone down by one line since, counted
from an origin that moves on its own (`Drawer.rowsInPlace_iff`). The ship's `AWAIT_POS`
compares the column of the screen with that of the sprite, which is right at the left border
only (`Player.rowsInPlace_iff`).
-/

namespace SpaceInvaders

open Clocked (run run_succ script countIn Enters LatestBefore RowStates)

/-! ## The invaders -/

namespace Drawer

variable (m : DrawerModule) (d₀ : Drawer) (inp : Nat → DrawerPorts)

/-- Edge `t` enters `DRAW`. -/
def EntersDraw (t : Nat) : Prop := Enters (fun v => (run (edge m) d₀ inp v).state) .draw t

/-- The scan is at the left end of the row that edge `t` begins. -/
def AtRowStart (t : Nat) : Prop :=
  (inp t).drawX = (run (edge m) d₀ inp t).enemyStartX ∧
    (inp t).drawY = (run (edge m) d₀ inp t).enemyStartY
      + (run (edge m) d₀ inp (t + 1)).enemyY

/-- Each row is begun at its left end. -/
def RowsInPlace : Prop := ∀ t, EntersDraw m d₀ inp t → AtRowStart m d₀ inp t

/-- The number of lines that the edges from `u` up to `t` lift the sprite. -/
def lifted (u t : Nat) : BitVec 10 :=
  BitVec.ofNat 10 (countIn (fun v => (inp v).enemyDirectionX) u t)

/-- What edge `t` meets: the column counter cleared, and in `FIRST_IDLE` the row counter as
well; in `AWAIT_POS` the scan one line below where the row before was begun, less the lines
that the sprite has been lifted since. -/
def MeetsRow (t : Nat) : Prop :=
  (run (edge m) d₀ inp t).enemyX = 0#10 ∧
    match (run (edge m) d₀ inp t).state with
    | .firstIdle => (run (edge m) d₀ inp t).enemyY = 0#10
    | _ => ∀ u, LatestBefore (EntersDraw m d₀ inp) u t →
        (inp t).drawY + lifted inp u t = (inp u).drawY + 1#10

/-- Every edge that begins a row meets these. -/
def MeetsRows : Prop := ∀ t, EntersDraw m d₀ inp t → MeetsRow m d₀ inp t

/-- The states of a pass. -/
def rowStates : RowStates DrawerState where
  draw := .draw
  next := .nextLine
  await := .awaitPos
  next_ne_draw := by simp
  await_ne_draw := by simp
  next_ne_await := by simp

section Step

variable {m} {d : Drawer} {p : DrawerPorts}

/-- A row is begun by one of the two waiting states, which finds the scan in the
column of its counter. -/
theorem waiting_of_entersDraw (hs : d.state ≠ .draw) (hs' : (d.edge m p).state = .draw) :
    d.tempDrawX p.toDrawerIn = d.enemyX ∧
      ((d.state = .firstIdle ∧ d.tempDrawY p.toDrawerIn = d.enemyY) ∨
        d.state = .awaitPos) := by
  have hcase := edge_case hs' (by simp) (by simp)
  cases hd : d.state with
  | draw => exact absurd hd hs
  | firstIdle =>
    simp only [caseNext, hd] at hcase
    split_ifs at hcase with hready
    simp only [ready, Bool.and_eq_true, beq_iff_eq] at hready
    exact ⟨hready.2, Or.inl ⟨rfl, hready.1⟩⟩
  | awaitPos =>
    simp only [caseNext, hd] at hcase
    split_ifs at hcase with hcolumn
    exact ⟨hcolumn.symm, Or.inr rfl⟩
  | beforeGame => simp only [caseNext, hd] at hcase; split_ifs at hcase
  | idle => simp only [caseNext, hd] at hcase; split_ifs at hcase
  | start => simp only [caseNext, hd] at hcase; cases hcase
  | nextLine => simp only [caseNext, hd] at hcase; cases hcase
  | finished => simp only [caseNext, hd] at hcase; split_ifs at hcase

/-- A scan at column `x` of the sprite is at its left end if `x` is 0. -/
theorem drawX_eq_iff {i : DrawerIn} (h : d.tempDrawX i = d.enemyX) :
    i.drawX = d.enemyStartX ↔ d.enemyX = 0#10 := by
  rw [← h, tempDrawX]
  exact sub_eq_zero.symm

theorem drawY_eq_iff {i : DrawerIn} {y : BitVec 10} :
    i.drawY = d.enemyStartY + y ↔ d.tempDrawY i = y := by
  rw [tempDrawY, sub_eq_iff_eq_add, add_comm y]

end Step

section Run

variable {m d₀ inp} {t u : Nat}

/-- What an edge inside a pass does to the row. -/
theorem rowStep_run (hin : (run (edge m) d₀ inp t).InPass)
    (hin' : (run (edge m) d₀ inp (t + 1)).InPass) :
    rowStates.Step (fun v => (run (edge m) d₀ inp v).state)
      (fun v => (run (edge m) d₀ inp v).enemyY) t := by
  have hnext : (run (edge m) d₀ inp (t + 1)).state = _ := state_of_inPass hin'
  have hrow : (run (edge m) d₀ inp (t + 1)).enemyY = _ := clk_enemyY ..
  unfold RowStates.Step
  rcases hin with hs | hs | hs
  · simp only [hs] at hrow
    simp only [caseNext, hs] at hnext
    -- within a row, at its end, and at the end of the last, which is not in the pass
    split_ifs at hnext
    · exact Or.inl ⟨hnext.trans hs.symm, hrow⟩
    · exact Or.inr (Or.inl ⟨hs, hnext, hrow⟩)
    · exact absurd hin' (by simp [InPass, hnext])
  · simp only [hs] at hrow
    simp only [caseNext, hs] at hnext
    exact Or.inr (Or.inr (Or.inl ⟨hs, hnext, hrow⟩))
  · simp only [hs] at hrow
    simp only [caseNext, hs] at hnext
    split_ifs at hnext
    · refine Or.inr (Or.inr (Or.inr ⟨?_, hnext⟩))
      show (run (edge m) d₀ inp t).state ≠ .draw
      rw [hs]
      simp
    · exact Or.inl ⟨hnext.trans hs.symm, hrow⟩

variable (m inp) in
/-- `IDLE` and `START` are not reached. -/
theorem notIdle_run (h0 : d₀.state = .beforeGame) (t : Nat) :
    (run (edge m) d₀ inp t).state ≠ .idle ∧ (run (edge m) d₀ inp t).state ≠ .start := by
  refine Clocked.run_inv (fun d : Drawer => d.state ≠ .idle ∧ d.state ≠ .start) ?_
    (fun d p h => edge_notIdle h.1) t
  rw [h0]
  simp

/-- Every state of a pass has a row behind it. -/
theorem exists_rowFrom (h0 : d₀.state = .beforeGame)
    (hin : (run (edge m) d₀ inp t).InPass) :
    ∃ u, rowStates.RowFrom (fun v => (run (edge m) d₀ inp v).state)
      (fun v => (run (edge m) d₀ inp v).enemyY) u t := by
  refine (rowStates.rowFrom_of_inPass (fun v => (run (edge m) d₀ inp v).state)
    (fun v => (run (edge m) d₀ inp v).enemyY) (fun _ => False) ?_ ?_ t hin).resolve_left id
  · simp [RowStates.InPass, rowStates, h0]
  · intro v hin'
    by_cases hnow : (run (edge m) d₀ inp v).InPass
    · exact Or.inr (Or.inr ⟨hnow, id, rowStep_run hnow hin'⟩)
    · obtain ⟨hidle, hstart⟩ := notIdle_run m inp h0 v
      obtain ⟨hfirst, hdraw⟩ := entered_from hidle hstart hnow hin'
      refine Or.inl ⟨?_, hdraw⟩
      show (run (edge m) d₀ inp v).state ≠ .draw
      rw [hfirst]
      simp

/-- The sprite goes up by the lines it is lifted. -/
theorem startY_lifted (hut : u ≤ t)
    (hmoves : ∀ v, u ≤ v → v < t → (run (edge m) d₀ inp v).state ≠ .beforeGame) :
    (run (edge m) d₀ inp t).enemyStartY + lifted inp u t
      = (run (edge m) d₀ inp u).enemyStartY := by
  induction t, hut using Nat.le_induction with
  | base =>
    rw [lifted, Clocked.countIn_self]
    exact BitVec.add_zero _
  | succ t hut ih =>
    have hstep : (run (edge m) d₀ inp (t + 1)).enemyStartY = _ := clk_enemyStartY ..
    rw [if_neg (hmoves t hut (Nat.lt_succ_self t))] at hstep
    rw [← ih fun v huv hvt => hmoves v huv (Nat.lt_succ_of_lt hvt), hstep]
    unfold lifted
    cases hx : (inp t).enemyDirectionX with
    | false => rw [Clocked.countIn_succ_of_false hx, if_neg (by simp)]
    | true =>
      rw [Clocked.countIn_succ_of_true hut hx, if_pos rfl, BitVec.ofNat_add, add_comm (_ - _),
        add_assoc, add_sub_cancel, add_comm]

/-- Below a row in its place, the next one is in its place if the scan has gone down by one
line of the sprite. -/
theorem nextRow_iff {y startY startY' drawY drawY' lifted : BitVec 10}
    (hlift : startY' + lifted = startY) (hrow : drawY = startY + y) :
    drawY' = startY' + (y + 1#10) ↔ drawY' + lifted = drawY + 1#10 := by
  rw [hrow, ← hlift]
  refine ⟨fun h => ?_, fun h => ?_⟩
  · rw [h]
    ring
  · refine add_right_cancel (b := lifted) (h.trans ?_)
    ring

/-- One row, where those before are in their places. -/
theorem atRowStart_iff (h0 : d₀.state = .beforeGame)
    (hbefore : ∀ u < t, EntersDraw m d₀ inp u → AtRowStart m d₀ inp u)
    (h : EntersDraw m d₀ inp t) : AtRowStart m d₀ inp t ↔ MeetsRow m d₀ inp t := by
  obtain ⟨hcolumn, hwait⟩ := waiting_of_entersDraw (p := inp t) h.1 h.2
  have hrow : (run (edge m) d₀ inp (t + 1)).enemyY = _ := clk_enemyY ..
  unfold AtRowStart MeetsRow
  rw [drawX_eq_iff hcolumn, hrow]
  refine and_congr_right fun _ => ?_
  rcases hwait with ⟨hs, hheight⟩ | hs
  · -- `FIRST_IDLE` has looked at the line, and clears the row counter it looked at
    rw [hs, drawY_eq_iff, hheight]
  · rw [hs]
    obtain ⟨u, hu⟩ := exists_rowFrom h0 (Or.inr (Or.inr hs))
    have hlast : LatestBefore (EntersDraw m d₀ inp) u t := hu.latest
    -- the sprite is put back to its place between games only
    have hmoves (v : Nat) (huv : u ≤ v) (hvt : v < t) :
        (run (edge m) d₀ inp v).state ≠ .beforeGame := by
      rcases Nat.eq_or_lt_of_le huv with rfl | hlt
      · rcases (waiting_of_entersDraw hu.latest.isOne.1 hu.latest.isOne.2).2 with ⟨hv, _⟩ | hv
        · rw [hv]; simp
        · rw [hv]; simp
      · rcases hu.inside v hlt (Nat.le_of_lt hvt) with hv | hv | hv
        · rw [hv]; simp [rowStates]
        · rw [hv]; simp [rowStates]
        · rw [hv]; simp [rowStates]
    have hcounted : (run (edge m) d₀ inp t).enemyY
        = (run (edge m) d₀ inp (u + 1)).enemyY + 1#10 := hu.counted hs
    show (inp t).drawY = _ + (run (edge m) d₀ inp t).enemyY ↔ _
    rw [hcounted, nextRow_iff (startY_lifted (Nat.le_of_lt hlast.lt) hmoves)
      (hbefore u hlast.lt hlast.isOne).2]
    refine ⟨fun hline v hv => ?_, fun hline => hline u hlast⟩
    rw [hv.unique hlast]
    exact hline

/-- **When the rows of an invader are in their places**: when every edge that begins one
meets them. -/
theorem rowsInPlace_iff (h0 : d₀.state = .beforeGame) :
    RowsInPlace m d₀ inp ↔ MeetsRows m d₀ inp :=
  Clocked.forall_iff_of_before fun _ hbefore =>
    imp_congr_right fun h => atRowStart_iff h0 hbefore h

end Run

end Drawer

/-! ## The ship -/

/-- The scan at an edge of `Clk`. -/
def PlayerEdge.drawX : PlayerEdge → BitVec 10
  | .clk _ drawX _ => drawX
  | .frame _ => 0

def PlayerEdge.drawY : PlayerEdge → BitVec 10
  | .clk _ _ drawY => drawY
  | .frame _ => 0

namespace PlayerSprite

/-- The states of a pass. -/
def rowStates : RowStates SpriteState where
  draw := .draw
  next := .nextLine
  await := .awaitPos
  next_ne_draw := by simp
  await_ne_draw := by simp
  next_ne_await := by simp

/-- Where the column counter can be; outside a row it is cleared, or where a row has left
it. -/
def Columns (s : PlayerSprite) : Prop :=
  match s.state with
  | .draw => s.playerXPos.toNat < playerWidth
  | .nextLine => s.playerXPos.toNat = playerWidth
  | _ => s.playerXPos.toNat = 0 ∨ s.playerXPos.toNat = playerWidth

section Step

variable {mem : BitVec 19 → BitVec 24} {s : PlayerSprite} {i : SpriteIn}

/-- A row is begun by `AWAIT_POS`, in the screen column of the sprite counter. -/
theorem waiting_of_entersDraw (hs : s.state ≠ .draw) (hs' : (s.clk mem i).state = .draw) :
    s.state = .awaitPos ∧ i.drawX = s.playerXPos := by
  have hr := reset_of_inPass (Or.inl hs')
  have hnext : s.nextState i = .draw := by
    rw [clk_state, hr] at hs'
    exact hs'
  cases hd : s.state with
  | draw => exact absurd hd hs
  | awaitPos =>
    simp only [nextState, hd] at hnext
    split_ifs at hnext with hcolumn
    exact ⟨rfl, hcolumn⟩
  | idle => simp only [nextState, hd] at hnext; split_ifs at hnext
  | start => simp only [nextState, hd] at hnext; cases hnext
  | nextLine => simp only [nextState, hd] at hnext; cases hnext

theorem columns_clk (h : s.Columns) : (s.clk mem i).Columns := by
  have hstate := clk_state mem s i
  cases hr : i.reset with
  | true =>
    rw [hr, if_pos rfl] at hstate
    unfold Columns
    rw [hstate]
    exact Or.inl (by simp [clk, hr])
  | false =>
    have hx := clk_playerXPos mem s i hr
    rw [hr, if_neg (by simp)] at hstate
    cases hs : s.state with
    | idle =>
      simp only [Columns, hs] at h hx
      simp only [nextState, hs] at hstate
      unfold Columns
      split_ifs at hstate
      · rw [hstate, hx]; exact h
      · rw [hstate, hx]; exact h
    | start =>
      simp only [Columns, hs] at h hx
      simp only [nextState, hs] at hstate
      unfold Columns
      rw [hstate, hx]; exact h
    | awaitPos =>
      simp only [hs] at hx
      simp only [nextState, hs] at hstate
      unfold Columns
      split_ifs at hstate
      · rw [hstate, hx]; show 0 < 36; decide
      · rw [hstate, hx]; exact Or.inl rfl
    | draw =>
      simp only [Columns, hs] at h hx
      rw [nextState_draw hs] at hstate
      -- the counter is below the width, so it does not wrap
      have hadd : (s.playerXPos + 1#10).toNat = s.playerXPos.toNat + 1 :=
        BitVec.toNat_add_of_lt (y := 1#10)
          (Nat.lt_of_le_of_lt (Nat.succ_le_of_lt h) (by decide))
      unfold Columns
      split_ifs at hstate with hrow hlast
      · rw [hstate, hx]
        show (s.playerXPos + 1#10).toNat < playerWidth
        omega
      · rw [hstate, hx]
        exact hadd.trans (not_not.mp hrow)
      · rw [hstate, hx]
        exact Or.inr (hadd.trans (not_not.mp hrow))
    | nextLine =>
      simp only [Columns, hs] at h hx
      simp only [nextState, hs] at hstate
      unfold Columns
      rw [hstate, hx]
      exact Or.inr h

end Step

end PlayerSprite

namespace Player

variable (mem : BitVec 19 → BitVec 24) (p₀ : Player) (ev : Nat → PlayerEdge)

/-- Edge `t` enters `DRAW`. -/
def EntersDraw (t : Nat) : Prop :=
  Enters (fun v => (run (step mem) p₀ ev v).sprite.state) .draw t

/-- The scan is at the left end of the row that edge `t` begins. -/
def AtRowStart (t : Nat) : Prop :=
  (ev t).drawX = (run (step mem) p₀ ev t).motion.playerStartX ∧
    (ev t).drawY = (run (step mem) p₀ ev t).motion.playerStartY
      + (run (step mem) p₀ ev (t + 1)).sprite.playerYPos

/-- Each row is begun at its left end. -/
def RowsInPlace : Prop := ∀ t, EntersDraw mem p₀ ev t → AtRowStart mem p₀ ev t

/-- What edge `t` meets: the ship at the left border, the column counter cleared, and the
scan in the ship's first line, or one line below where the row before was begun. -/
def MeetsRow (t : Nat) : Prop :=
  (run (step mem) p₀ ev t).motion.playerStartX = 0#10 ∧
    (run (step mem) p₀ ev t).sprite.playerXPos = 0#10 ∧
    if (run (step mem) p₀ ev t).sprite.playerYPos = 0#10 then (ev t).drawY = 420#10
    else ∀ u, LatestBefore (EntersDraw mem p₀ ev) u t → (ev t).drawY = (ev u).drawY + 1#10

/-- Every edge that begins a row meets these. -/
def MeetsRows : Prop := ∀ t, EntersDraw mem p₀ ev t → MeetsRow mem p₀ ev t

/-- A row is about to be begun that is the first of its pass. -/
def FirstRow (t : Nat) : Prop :=
  (run (step mem) p₀ ev t).sprite.state = .awaitPos ∧
    (run (step mem) p₀ ev t).sprite.playerYPos = 0#10

variable {mem p₀ ev} {t u : Nat}

variable (mem p₀) in
/-- An edge of `frame_clk` leaves the sprite alone. -/
theorem sprite_frame {i : MotionIn} (h : ev t = .frame i) :
    (run (step mem) p₀ ev (t + 1)).sprite = (run (step mem) p₀ ev t).sprite := by
  rw [run_succ, h]
  rfl

variable (mem p₀) in
theorem sprite_clk {reset : Bool} {drawX drawY : BitVec 10} (h : ev t = .clk reset drawX drawY) :
    (run (step mem) p₀ ev (t + 1)).sprite = (run (step mem) p₀ ev t).sprite.clk mem
      ((run (step mem) p₀ ev t).spriteIn reset drawX drawY) := by
  rw [run_succ, h]
  rfl

/-- A row is begun by an edge of `Clk` that finds `AWAIT_POS`, and the scan in the screen
column of the sprite counter. -/
theorem waiting_of_entersDraw (h : EntersDraw mem p₀ ev t) :
    (run (step mem) p₀ ev t).sprite.state = .awaitPos ∧
      (ev t).drawX = (run (step mem) p₀ ev t).sprite.playerXPos ∧
      (run (step mem) p₀ ev (t + 1)).sprite.playerYPos
        = (run (step mem) p₀ ev t).sprite.playerYPos := by
  obtain ⟨hs, hs'⟩ := h
  cases hev : ev t with
  | frame i =>
    refine absurd ?_ hs
    show (run (step mem) p₀ ev t).sprite.state = .draw
    rw [← sprite_frame mem p₀ hev]
    exact hs'
  | clk reset drawX drawY =>
    have hdraw : (run (step mem) p₀ ev (t + 1)).sprite.state = .draw := hs'
    rw [sprite_clk mem p₀ hev] at hdraw
    have hr := PlayerSprite.reset_of_inPass (Or.inl hdraw)
    obtain ⟨hwait, hcolumn⟩ := PlayerSprite.waiting_of_entersDraw hs hdraw
    refine ⟨hwait, hcolumn, ?_⟩
    rw [sprite_clk mem p₀ hev, PlayerSprite.clk_playerYPos mem _ _ hr, hwait]

theorem onGrid_run (hmotion : p₀.motion = .center) (t : Nat) :
    (run (step mem) p₀ ev t).motion.OnGrid := by
  refine Clocked.run_inv (fun p : Player => p.motion.OnGrid) ?_ (fun p e h => ?_) t
  · rw [hmotion]
    exact ⟨by decide, by decide, rfl⟩
  · cases e with
    | clk reset drawX drawY => exact h
    | frame i => exact PlayerMotion.onGrid_frame h i

theorem columns_run (hsprite : p₀.sprite = .powerUp) (t : Nat) :
    (run (step mem) p₀ ev t).sprite.Columns := by
  refine Clocked.run_inv (fun p : Player => p.sprite.Columns) ?_ (fun p e h => ?_) t
  · rw [hsprite]
    exact Or.inl rfl
  · cases e with
    | clk reset drawX drawY => exact PlayerSprite.columns_clk h
    | frame i => exact h

/-- What an edge into a state of a pass does to the row. -/
theorem rowStep_run (hin' : (run (step mem) p₀ ev (t + 1)).sprite.InPass) :
    EntersDraw mem p₀ ev t ∨ FirstRow mem p₀ ev (t + 1) ∨
      (run (step mem) p₀ ev t).sprite.InPass ∧ ¬ FirstRow mem p₀ ev t ∧
        PlayerSprite.rowStates.Step (fun v => (run (step mem) p₀ ev v).sprite.state)
          (fun v => (run (step mem) p₀ ev v).sprite.playerYPos) t := by
  -- the edges that leave the state and the row counter alone
  have hstays (hs : (run (step mem) p₀ ev (t + 1)).sprite.state
      = (run (step mem) p₀ ev t).sprite.state)
      (hrow : (run (step mem) p₀ ev (t + 1)).sprite.playerYPos
        = (run (step mem) p₀ ev t).sprite.playerYPos) :
      FirstRow mem p₀ ev (t + 1) ∨
        (run (step mem) p₀ ev t).sprite.InPass ∧ ¬ FirstRow mem p₀ ev t ∧
          PlayerSprite.rowStates.Step (fun v => (run (step mem) p₀ ev v).sprite.state)
            (fun v => (run (step mem) p₀ ev v).sprite.playerYPos) t := by
    by_cases hfirst : FirstRow mem p₀ ev t
    · exact Or.inl ⟨hs.trans hfirst.1, hrow.trans hfirst.2⟩
    · refine Or.inr ⟨?_, hfirst, Or.inl ⟨hs, hrow⟩⟩
      unfold PlayerSprite.InPass at hin' ⊢
      rwa [hs] at hin'
  cases hev : ev t with
  | frame i =>
    have hsame := sprite_frame mem p₀ hev
    exact Or.inr (hstays (congrArg PlayerSprite.state hsame)
      (congrArg PlayerSprite.playerYPos hsame))
  | clk reset drawX drawY =>
    have hsprite := sprite_clk mem p₀ hev
    have hr := PlayerSprite.reset_of_inPass (hsprite ▸ hin')
    have hnext : (run (step mem) p₀ ev (t + 1)).sprite.state = _ :=
      (congrArg PlayerSprite.state hsprite).trans (PlayerSprite.clk_state ..)
    have hrow : (run (step mem) p₀ ev (t + 1)).sprite.playerYPos = _ :=
      (congrArg PlayerSprite.playerYPos hsprite).trans (PlayerSprite.clk_playerYPos _ _ _ hr)
    rw [hr, if_neg (by simp)] at hnext
    cases hs : (run (step mem) p₀ ev t).sprite.state with
    | idle =>
      simp only [PlayerSprite.nextState, hs] at hnext
      split_ifs at hnext
      · exact absurd hin' (by simp [PlayerSprite.InPass, hnext])
      · exact absurd hin' (by simp [PlayerSprite.InPass, hnext])
    | start =>
      simp only [PlayerSprite.nextState, hs] at hnext hrow
      exact Or.inr (Or.inl ⟨hnext, hrow⟩)
    | awaitPos =>
      simp only [PlayerSprite.nextState, hs] at hnext hrow
      split_ifs at hnext
      · refine Or.inl ⟨?_, hnext⟩
        show (run (step mem) p₀ ev t).sprite.state ≠ .draw
        rw [hs]
        simp
      · exact Or.inr (hstays (hnext.trans hs.symm) hrow)
    | draw =>
      have hold : ¬ FirstRow mem p₀ ev t := fun h => absurd (hs.symm.trans h.1) (by simp)
      simp only [PlayerSprite.nextState, hs] at hnext hrow
      refine Or.inr (Or.inr ⟨Or.inl hs, hold, ?_⟩)
      split_ifs at hnext
      · exact Or.inl ⟨hnext.trans hs.symm, hrow⟩
      · exact Or.inr (Or.inl ⟨hs, hnext, hrow⟩)
      · exact absurd hin' (by simp [PlayerSprite.InPass, hnext])
    | nextLine =>
      have hold : ¬ FirstRow mem p₀ ev t := fun h => absurd (hs.symm.trans h.1) (by simp)
      simp only [PlayerSprite.nextState, hs] at hnext hrow
      refine Or.inr (Or.inr ⟨Or.inr (Or.inl hs), hold, ?_⟩)
      exact Or.inr (Or.inr (Or.inl ⟨hs, hnext, hrow⟩))

/-- Every state of a pass has a row behind it, or is about to begin the first. -/
theorem exists_rowFrom (hsprite : p₀.sprite = .powerUp)
    (hin : (run (step mem) p₀ ev t).sprite.InPass) : FirstRow mem p₀ ev t ∨
      ∃ u, PlayerSprite.rowStates.RowFrom (fun v => (run (step mem) p₀ ev v).sprite.state)
        (fun v => (run (step mem) p₀ ev v).sprite.playerYPos) u t := by
  refine PlayerSprite.rowStates.rowFrom_of_inPass
    (fun v => (run (step mem) p₀ ev v).sprite.state)
    (fun v => (run (step mem) p₀ ev v).sprite.playerYPos) (FirstRow mem p₀ ev) ?_
    (fun v => rowStep_run) t hin
  simp [RowStates.InPass, PlayerSprite.rowStates, hsprite, PlayerSprite.powerUp]

/-- The ship's column is one of the sprite counter only at the left border. -/
theorem startX_eq_iff (hgrid : (run (step mem) p₀ ev t).motion.OnGrid)
    (hcolumns : (run (step mem) p₀ ev t).sprite.Columns)
    (hs : (run (step mem) p₀ ev t).sprite.state = .awaitPos) :
    (run (step mem) p₀ ev t).sprite.playerXPos
        = (run (step mem) p₀ ev t).motion.playerStartX ↔
      (run (step mem) p₀ ev t).motion.playerStartX = 0#10 ∧
        (run (step mem) p₀ ev t).sprite.playerXPos = 0#10 := by
  -- a multiple of 5 against a counter that is 0 or 36
  have hmultiple := hgrid.multiple
  simp only [PlayerSprite.Columns, hs, playerWidth] at hcolumns
  simp only [← BitVec.toNat_inj, BitVec.toNat_ofNat]
  omega

/-- One row, where those before are in their places. -/
theorem atRowStart_iff (hmotion : p₀.motion = .center) (hsprite : p₀.sprite = .powerUp)
    (hbefore : ∀ u < t, EntersDraw mem p₀ ev u → AtRowStart mem p₀ ev u)
    (h : EntersDraw mem p₀ ev t) : AtRowStart mem p₀ ev t ↔ MeetsRow mem p₀ ev t := by
  obtain ⟨hs, hcolumn, hrow⟩ := waiting_of_entersDraw h
  unfold AtRowStart MeetsRow
  rw [hcolumn, startX_eq_iff (onGrid_run hmotion t) (columns_run hsprite t) hs, and_assoc,
    hrow, (onGrid_run hmotion t).startY]
  refine and_congr_right fun _ => and_congr_right fun _ => ?_
  split_ifs with hfirst
  · -- line 420 is the ship's own
    rw [hfirst]
    rfl
  · obtain ⟨u, hu⟩ := (exists_rowFrom hsprite (Or.inr (Or.inr hs))).resolve_left
      fun hnew => hfirst hnew.2
    have hlast : LatestBefore (EntersDraw mem p₀ ev) u t := hu.latest
    have hcounted : (run (step mem) p₀ ev t).sprite.playerYPos
        = (run (step mem) p₀ ev (u + 1)).sprite.playerYPos + 1#10 := hu.counted hs
    have hbegun := (hbefore u hlast.lt hlast.isOne).2
    rw [(onGrid_run hmotion u).startY] at hbegun
    rw [hcounted, ← add_assoc, ← hbegun]
    refine ⟨fun hline v hv => ?_, fun hline => hline u hlast⟩
    rw [hv.unique hlast]
    exact hline

/-- **When the rows of the ship are in their places**: when every edge that begins one
meets them. -/
theorem rowsInPlace_iff (hmotion : p₀.motion = .center) (hsprite : p₀.sprite = .powerUp) :
    RowsInPlace mem p₀ ev ↔ MeetsRows mem p₀ ev :=
  Clocked.forall_iff_of_before fun _ hbefore =>
    imp_congr_right fun h => atRowStart_iff hmotion hsprite hbefore h

end Player

/-! ## All drawers -/

/-- **When the rows of the sprites are drawn in their places**, from power-up on. -/
theorem spriteRowsInPlace_iff {m : DrawerModule} {d₀ : Drawer} (h0 : d₀.state = .beforeGame)
    {inp : Nat → DrawerPorts} {mem : BitVec 19 → BitVec 24} {p₀ : Player}
    (hmotion : p₀.motion = .center) (hsprite : p₀.sprite = .powerUp)
    {ev : Nat → PlayerEdge} :
    (Drawer.RowsInPlace m d₀ inp ↔ Drawer.MeetsRows m d₀ inp) ∧
      (Player.RowsInPlace mem p₀ ev ↔ Player.MeetsRows mem p₀ ev) :=
  ⟨Drawer.rowsInPlace_iff h0, Player.rowsInPlace_iff hmotion hsprite⟩

theorem Drawer.inStep_enters {t : Nat} (h : EntersDraw enemyEasy powerUp inStep t) :
    t = 1 ∨ t = 54 := by
  rcases Nat.lt_or_ge t 57 with hlt | hge
  · have hall : ∀ t < 57, (run (edge enemyEasy) powerUp inStep t).state ≠ .draw →
        (run (edge enemyEasy) powerUp inStep (t + 1)).state = .draw → t = 1 ∨ t = 54 := by
      decide +kernel
    exact hall t hlt h.1 h.2
  · exact absurd ((inStep_reset hge).symm.trans h.2) (by simp)

theorem Drawer.inStep_meets : MeetsRows enemyEasy powerUp inStep := by
  intro t h
  rcases inStep_enters h with rfl | rfl
  · have hs : (run (edge enemyEasy) powerUp inStep 1).state = .firstIdle := by decide
    refine ⟨by decide, ?_⟩
    rw [hs]
    decide
  · refine ⟨by decide +kernel, ?_⟩
    have hs : (run (edge enemyEasy) powerUp inStep 54).state = .awaitPos := by decide +kernel
    rw [hs]
    intro u hu
    rcases inStep_enters hu.isOne with rfl | rfl
    · decide +kernel
    · exact absurd hu.lt (Nat.lt_irrefl 54)

namespace Player

/-- All registers low, but the ship in the centre. -/
def powerUp : Player := { motion := .center, sprite := .powerUp }

/-- The ship goes to the left border, and the scan comes there for two rows. -/
def atBorder (t : Nat) : PlayerEdge :=
  if t < 64 then .frame { reset := false, keycode := 0x04 }
  else .clk (106 < t) 0 (if t < 67 then 420 else 421)

theorem atBorder_enters {t : Nat} (h : EntersDraw (fun _ => 0) powerUp atBorder t) :
    t = 66 ∨ t = 105 := by
  rcases Nat.lt_or_ge t 107 with hlt | hge
  · have hall : ∀ t < 107,
        (run (step fun _ => 0) powerUp atBorder t).sprite.state ≠ .draw →
        (run (step fun _ => 0) powerUp atBorder (t + 1)).sprite.state = .draw →
        t = 66 ∨ t = 105 := by
      decide +kernel
    exact hall t hlt h.1 h.2
  · have hev : atBorder t = .clk true 0 421 := by
      unfold atBorder
      rw [if_neg (by omega), if_neg (by omega), decide_eq_true (show 106 < t from hge)]
    have hs : (run (step fun _ => 0) powerUp atBorder (t + 1)).sprite.state = .idle := by
      rw [sprite_clk _ _ hev]
      rfl
    exact absurd (hs.symm.trans h.2) (by simp)

theorem atBorder_meets : MeetsRows (fun _ => 0) powerUp atBorder := by
  intro t h
  rcases atBorder_enters h with rfl | rfl
  · unfold MeetsRow
    refine ⟨by decide +kernel, by decide +kernel, ?_⟩
    rw [if_pos (by decide +kernel)]
    rfl
  · refine ⟨by decide +kernel, by decide +kernel, ?_⟩
    rw [if_neg (by decide +kernel)]
    intro u hu
    rcases atBorder_enters hu.isOne with rfl | rfl
    · rfl
    · exact absurd hu.lt (Nat.lt_irrefl 105)

/-- The scan meets the ship in its place at power-up, and reaches the left border
of the screen in the line below. -/
def scanBeside : Nat → PlayerEdge :=
  script [.clk false 320 420, .clk false 321 420] (.clk false 0 421)

end Player

/-- Two rows of an invader and two of the ship, all in their places. -/
theorem twoRows_inPlace :
    (Drawer.EntersDraw enemyEasy .powerUp Drawer.inStep 54 ∧
        Drawer.RowsInPlace enemyEasy .powerUp Drawer.inStep) ∧
      Player.EntersDraw (fun _ => 0) .powerUp Player.atBorder 105 ∧
        Player.RowsInPlace (fun _ => 0) .powerUp Player.atBorder := by
  have hiff : (Drawer.RowsInPlace enemyEasy .powerUp Drawer.inStep ↔
        Drawer.MeetsRows enemyEasy .powerUp Drawer.inStep) ∧
      (Player.RowsInPlace (fun _ => 0) .powerUp Player.atBorder ↔
        Player.MeetsRows (fun _ => 0) .powerUp Player.atBorder) :=
    spriteRowsInPlace_iff rfl rfl rfl
  obtain ⟨hinvader, hship⟩ := hiff
  refine ⟨⟨⟨?_, ?_⟩, hinvader.mpr Drawer.inStep_meets⟩, ⟨?_, ?_⟩,
    hship.mpr Player.atBorder_meets⟩
  all_goals decide +kernel

/-- The invader that is started again begins at its third column, and the ship at
the left border of the screen. -/
theorem sprites_out_of_place :
    ¬ Drawer.RowsInPlace enemyEasy .powerUp Drawer.restarted ∧
      ¬ Player.RowsInPlace (fun _ => 0) .powerUp Player.scanBeside := by
  refine ⟨?_, ?_⟩
  · intro h
    exact absurd (h 5 ⟨by decide, by decide⟩).1 (by decide)
  · intro h
    exact absurd (h 2 ⟨by decide, by decide⟩).1 (by decide)

end SpaceInvaders
