import SpaceInvaders.Player.Stream

/-!
# The ship's drawer under the beam

The drawer compares `DrawX` with `player_X_Pos`, its column in the sprite, and not
with a place on the screen: after `START` it waits for the beam at the left border.
With the beam counted in half pixels, a `Clk` cycle each, this fixes when each word is
drawn. `Rows line entry n s` says so: row `r` is drawn in line `line + r`, its word `j`
in half pixel `j + 1` of that line, wherever the ship is.

The first row has a second way in. A pass leaves 36 in `player_X_Pos`, and `AWAIT_POS`
clears it one edge after the comparison; so with the beam in column 36 at that moment
the row begins there, `entry` half pixels late. Every edge keeps `Rows`, up to the
last word (`rows_clk`).
-/

namespace SpaceInvaders

namespace PlayerSprite

/-- Half pixels of a line. -/
def lineHalves : Nat := 1600

/-- The half pixel in which row `r` begins, with the first row `entry` late. -/
def rowStart (line entry r : Nat) : Nat :=
  lineHalves * (line + r) + if r = 0 then entry else 0

/-- The half pixel after the last word. -/
def passEnd (line : Nat) : Nat := lineHalves * (line + 39) + 37

/-- In half pixel `n` of the frame the drawer is where the beam has it, drawing its rows
from line `line` on. -/
def Rows (line entry n : Nat) (s : PlayerSprite) : Prop :=
  s.playerYPos.toNat < playerHeight ∧
    match s.state with
    | .awaitPos =>
      (s.playerYPos.toNat = 0 → entry = 0) ∧
        (n = lineHalves * (line + s.playerYPos.toNat) ∧ s.playerXPos.toNat = 0 ∨
          n < lineHalves * (line + s.playerYPos.toNat) ∧
            lineHalves * (line + s.playerYPos.toNat) ≤ n + 1598 ∧
            (s.playerXPos.toNat = 0 ∨
              s.playerXPos.toNat = playerWidth ∧ n % lineHalves / 2 ≠ playerWidth))
    | .draw =>
      s.playerXPos.toNat < playerWidth ∧
        n = rowStart line entry s.playerYPos.toNat + 1 + s.playerXPos.toNat
    | .nextLine =>
      s.playerXPos.toNat = playerWidth ∧ s.playerYPos.toNat + 1 < playerHeight ∧
        n = rowStart line entry s.playerYPos.toNat + 37
    | _ => False

/-- The drawer has begun: its row counter is cleared, and the beam is inside the lines
the ship may be in, right of the first column. -/
structure Begun (n : Nat) (s : PlayerSprite) : Prop where
  state : s.state = .start
  xPos : s.playerXPos.toNat = 0 ∨ s.playerXPos.toNat = playerWidth
  top : lineHalves * 420 ≤ n
  bottom : n < lineHalves * 460
  left : 1 ≤ n % lineHalves
  right : n % lineHalves ≤ 1202

/-- The drawer has just begun to wait, and the beam is where the last pass left the
column counter. -/
def EntersAt (n : Nat) (s : PlayerSprite) : Prop :=
  s.state = .awaitPos ∧ s.playerYPos.toNat = 0 ∧ s.playerXPos.toNat = playerWidth ∧
    n % lineHalves / 2 = playerWidth

/-- The line of the first row: one of the ship's for a late row, else the one below
it. -/
def Placed (line entry : Nat) : Prop :=
  entry = 0 ∧ 421 ≤ line ∧ line ≤ 460 ∨ (entry = 72 ∨ entry = 73) ∧ 420 ≤ line ∧ line < 460

/-- Where the drawer can be with the beam in half pixel `n`. -/
def Phase (n : Nat) (s : PlayerSprite) : Prop :=
  s.state = .idle ∧ (s.playerXPos.toNat = 0 ∨ s.playerXPos.toNat = playerWidth) ∨
    s.Begun n ∨
    s.EntersAt n ∧ lineHalves * 420 ≤ n ∧ n < lineHalves * 460 ∨
    ∃ line entry, Placed line entry ∧ s.Rows line entry n

/-- What an edge samples in half pixel `n`, with the ship on its grid. -/
structure SampledAt (n : Nat) (i : SpriteIn) : Prop where
  reset : i.reset = false
  drawX : i.drawX.toNat = n % lineHalves / 2
  drawY : i.drawY.toNat = n / lineHalves
  startX : i.playerStartX.toNat ≤ 565
  startY : i.playerStartY = 420#10

section Step

variable {mem : BitVec 19 → BitVec 24} {s : PlayerSprite} {i : SpriteIn} {line entry n : Nat}

theorem startDraw_iff (h : SampledAt n i) : startDraw i = true ↔
    i.playerStartX.toNat ≤ n % lineHalves / 2 ∧
      n % lineHalves / 2 < i.playerStartX.toNat + 36 ∧
      420 ≤ n / lineHalves ∧ n / lineHalves < 460 := by
  have hy : i.playerStartY.toNat = 420 := by rw [h.startY]; rfl
  simp only [startDraw, Bool.and_eq_true, decide_eq_true_eq, h.drawX, h.drawY, hy,
    playerWidth, playerHeight]
  omega

variable (mem) in
/-- The drawer begins where the beam meets the ship. -/
theorem begun_clk (h : SampledAt n i) (hs : s.state = .idle)
    (hx : s.playerXPos.toNat = 0 ∨ s.playerXPos.toNat = playerWidth)
    (hmeet : startDraw i = true) : (s.clk mem i).Begun (n + 1) := by
  have hin := (startDraw_iff h).mp hmeet
  have hxkeep := clk_playerXPos mem s i h.reset
  have hstate := clk_state mem s i
  rw [h.reset] at hstate
  simp only [nextState, hs, hmeet] at hstate hxkeep
  have hleft := h.startX
  unfold lineHalves at hin
  refine ⟨hstate, ?_, ?_, ?_, ?_, ?_⟩
  · rw [hxkeep]
    exact hx
  all_goals
    unfold lineHalves
    omega

/-- The three places of a pass, as the state they are the places of. -/
theorem rows_awaitPos (hs : s.state = .awaitPos) (hrow : s.playerYPos.toNat < playerHeight)
    (hentry : s.playerYPos.toNat = 0 → entry = 0)
    (h : n = lineHalves * (line + s.playerYPos.toNat) ∧ s.playerXPos.toNat = 0 ∨
      n < lineHalves * (line + s.playerYPos.toNat) ∧
        lineHalves * (line + s.playerYPos.toNat) ≤ n + 1598 ∧
        (s.playerXPos.toNat = 0 ∨
          s.playerXPos.toNat = playerWidth ∧ n % lineHalves / 2 ≠ playerWidth)) :
    s.Rows line entry n := by
  refine ⟨hrow, ?_⟩
  rw [hs]
  exact ⟨hentry, h⟩

theorem rows_draw (hs : s.state = .draw) (hrow : s.playerYPos.toNat < playerHeight)
    (hcol : s.playerXPos.toNat < playerWidth)
    (h : n = rowStart line entry s.playerYPos.toNat + 1 + s.playerXPos.toNat) :
    s.Rows line entry n := by
  refine ⟨hrow, ?_⟩
  rw [hs]
  exact ⟨hcol, h⟩

theorem rows_nextLine (hs : s.state = .nextLine)
    (hrow : s.playerYPos.toNat + 1 < playerHeight) (hcol : s.playerXPos.toNat = playerWidth)
    (h : n = rowStart line entry s.playerYPos.toNat + 37) : s.Rows line entry n := by
  refine ⟨by omega, ?_⟩
  rw [hs]
  exact ⟨hcol, hrow, h⟩

/-- The wait for the left border: the row begins there. -/
theorem rows_clk_awaitPos (h : SampledAt n i) (hs : s.state = .awaitPos)
    (hrows : s.Rows line entry n) : (s.clk mem i).Rows line entry (n + 1) := by
  have hx := clk_playerXPos mem s i h.reset
  have hy := clk_playerYPos mem s i h.reset
  have hstate := clk_state mem s i
  rw [h.reset, if_neg (by simp)] at hstate
  obtain ⟨hrow, hrest⟩ := hrows
  simp only [hs] at hrest
  simp only [hs, nextState] at hx hy hstate
  have hx0 : (s.clk mem i).playerXPos.toNat = 0 := congrArg BitVec.toNat hx
  have hy' : (s.clk mem i).playerYPos.toNat = s.playerYPos.toNat := congrArg BitVec.toNat hy
  have hmatch : i.drawX = s.playerXPos ↔ n % lineHalves / 2 = s.playerXPos.toNat := by
    rw [← BitVec.toNat_inj, h.drawX]
  obtain ⟨hentry, ⟨hn, hzero⟩ | ⟨hlt, hge, hcol⟩⟩ := hrest
  · -- the beam is at the left border
    have hmod : n % lineHalves = 0 := by rw [hn, Nat.mul_mod_right]
    rw [if_pos (hmatch.mpr (by rw [hmod, hzero]))] at hstate
    refine rows_draw hstate (hy' ▸ hrow) (by rw [hx0]; decide) ?_
    rw [hx0, hy', hn]
    unfold rowStart
    by_cases hfirst : s.playerYPos.toNat = 0
    · rw [if_pos hfirst, hentry hfirst]
    · rw [if_neg hfirst]
  · -- it is to the right of it, in the line before the row's
    have hdiff : n % lineHalves / 2 ≠ s.playerXPos.toNat := by
      unfold lineHalves playerWidth at *
      omega
    rw [if_neg (fun heq => hdiff (hmatch.mp heq))] at hstate
    refine rows_awaitPos hstate (hy' ▸ hrow) (hy' ▸ hentry) ?_
    rw [hx0, hy']
    by_cases hlast : n + 1 = lineHalves * (line + s.playerYPos.toNat)
    · exact Or.inl ⟨hlast, rfl⟩
    · exact Or.inr ⟨by omega, by omega, Or.inl rfl⟩

/-- A word is followed by the next one of its row, by the next row, or by the end. -/
theorem rows_clk_draw (h : SampledAt n i) (hs : s.state = .draw)
    (hrows : s.Rows line entry n) :
    (s.clk mem i).Rows line entry (n + 1) ∨
      (s.clk mem i).state = .idle ∧ (s.clk mem i).playerXPos.toNat = playerWidth ∧
        n + 1 = passEnd line := by
  have hx := clk_playerXPos mem s i h.reset
  have hy := clk_playerYPos mem s i h.reset
  have hstate := clk_state mem s i
  rw [h.reset, if_neg (by simp), nextState_draw hs] at hstate
  obtain ⟨hrow, hrest⟩ := hrows
  simp only [hs] at hrest hx hy
  obtain ⟨hcol, hn⟩ := hrest
  have hx' : (s.clk mem i).playerXPos.toNat = s.playerXPos.toNat + 1 := by
    rw [hx, BitVec.toNat_add_of_lt (y := 1#10) (by
      show s.playerXPos.toNat + 1 < 1024
      unfold playerWidth at hcol
      omega)]
    rfl
  have hy' : (s.clk mem i).playerYPos.toNat = s.playerYPos.toNat := congrArg BitVec.toNat hy
  split_ifs at hstate with hmore hline
  · left
    refine rows_draw hstate (hy' ▸ hrow) (by omega) ?_
    rw [hx', hy', hn]
    rfl
  · left
    refine rows_nextLine hstate (by omega) (by omega) ?_
    rw [hy', hn]
    unfold playerWidth at hmore
    omega
  · -- the last word of the last row
    right
    refine ⟨hstate, by omega, ?_⟩
    unfold playerWidth at hmore
    unfold playerHeight at hline
    rw [hn]
    unfold rowStart passEnd
    rw [if_neg (by omega)]
    unfold lineHalves
    omega

theorem rows_clk_nextLine (h : SampledAt n i) (hs : s.state = .nextLine)
    (hentry : entry = 0 ∨ entry = 72 ∨ entry = 73) (hrows : s.Rows line entry n) :
    (s.clk mem i).Rows line entry (n + 1) := by
  have hx := clk_playerXPos mem s i h.reset
  have hy := clk_playerYPos mem s i h.reset
  have hstate := clk_state mem s i
  rw [h.reset, if_neg (by simp)] at hstate
  obtain ⟨hrow, hrest⟩ := hrows
  simp only [hs, nextState] at hrest hx hy hstate
  obtain ⟨hcol, hline, hn⟩ := hrest
  have hx' : (s.clk mem i).playerXPos.toNat = playerWidth := by rw [hx, hcol]
  have hy' : (s.clk mem i).playerYPos.toNat = s.playerYPos.toNat + 1 := by
    rw [hy, BitVec.toNat_add_of_lt (y := 1#10) (by
      show s.playerYPos.toNat + 1 < 1024
      unfold playerHeight at hline
      omega)]
    rfl
  refine rows_awaitPos hstate (by omega) (by omega) (Or.inr ?_)
  rw [hx', hy', hn]
  unfold rowStart lineHalves playerWidth
  split_ifs
  · omega
  · omega

variable (mem) in
/-- **Every edge keeps the rows**, up to the last word. -/
theorem rows_clk (h : SampledAt n i) (hentry : entry = 0 ∨ entry = 72 ∨ entry = 73)
    (hrows : s.Rows line entry n) :
    (s.clk mem i).Rows line entry (n + 1) ∨
      (s.clk mem i).state = .idle ∧ (s.clk mem i).playerXPos.toNat = playerWidth ∧
        n + 1 = passEnd line := by
  cases hs : s.state with
  | idle => exact absurd hrows.2 (by simp [hs])
  | start => exact absurd hrows.2 (by simp [hs])
  | awaitPos => exact Or.inl (rows_clk_awaitPos h hs hrows)
  | draw => exact rows_clk_draw h hs hrows
  | nextLine => exact Or.inl (rows_clk_nextLine h hs hentry hrows)

/-- The rows are over by the half pixel after the last word. -/
theorem rows_lt (hentry : entry = 0 ∨ entry = 72 ∨ entry = 73)
    (hrows : s.Rows line entry n) : n < passEnd line := by
  obtain ⟨hrow, hrest⟩ := hrows
  unfold passEnd
  cases hs : s.state with
  | idle => simp [hs] at hrest
  | start => simp [hs] at hrest
  | awaitPos =>
    simp only [hs] at hrest
    unfold lineHalves playerHeight at *
    omega
  | draw =>
    simp only [hs] at hrest
    unfold rowStart lineHalves playerHeight playerWidth at *
    split_ifs at hrest
    · omega
    · omega
  | nextLine =>
    simp only [hs] at hrest
    unfold rowStart lineHalves playerHeight playerWidth at *
    split_ifs at hrest
    · omega
    · omega

/-! ### From the beginning -/

variable (mem) in
/-- After `START` the drawer waits, with the column of the pass before in its counter. -/
theorem begun_next (h : SampledAt n i) (hb : s.Begun n) :
    (s.clk mem i).state = .awaitPos ∧ (s.clk mem i).playerYPos.toNat = 0 ∧
      (s.clk mem i).playerXPos = s.playerXPos := by
  have hx := clk_playerXPos mem s i h.reset
  have hy := clk_playerYPos mem s i h.reset
  have hstate := clk_state mem s i
  rw [h.reset] at hstate
  simp only [nextState, hb.state] at hstate hx hy
  exact ⟨hstate, congrArg BitVec.toNat hy, hx⟩

/-- The rows begin in the line after the one the ship was met in, unless the beam is in
column 36. -/
theorem rows_of_begun (h : SampledAt n i) (hb : s.Begun n)
    (hnot : ¬ (s.clk mem i).EntersAt (n + 1)) :
    (s.clk mem i).Rows (n / lineHalves + 1) 0 (n + 1) := by
  obtain ⟨hstate, hy, hx⟩ := begun_next mem h hb
  have hpos := hb.xPos
  have hleft := hb.left
  have hright := hb.right
  rw [← hx] at hpos
  unfold EntersAt at hnot
  refine rows_awaitPos hstate (by rw [hy]; decide) (fun _ => rfl) (Or.inr ?_)
  rw [hy]
  unfold lineHalves at *
  refine ⟨by omega, by omega, ?_⟩
  rcases hpos with hpos | hpos
  · exact Or.inl hpos
  · exact Or.inr ⟨hpos, fun hcol => hnot ⟨hstate, hy, hpos, hcol⟩⟩

variable (mem) in
/-- In column 36 the first row begins at once. -/
theorem rows_of_enters (h : SampledAt n i) (he : s.EntersAt n) :
    ∃ entry, (entry = 72 ∨ entry = 73) ∧ n + 1 = lineHalves * (n / lineHalves) + entry + 1 ∧
      (s.clk mem i).Rows (n / lineHalves) entry (n + 1) := by
  obtain ⟨hs, hrow, hcol, hbeam⟩ := he
  have hx := clk_playerXPos mem s i h.reset
  have hy := clk_playerYPos mem s i h.reset
  have hstate := clk_state mem s i
  rw [h.reset, if_neg (by simp)] at hstate
  simp only [hs, nextState] at hx hy hstate
  have hx' : (s.clk mem i).playerXPos.toNat = 0 := congrArg BitVec.toNat hx
  have hy' : (s.clk mem i).playerYPos.toNat = 0 := (congrArg BitVec.toNat hy).trans hrow
  have hmatch : i.drawX = s.playerXPos := by
    rw [← BitVec.toNat_inj, h.drawX, hbeam, hcol]
  rw [if_pos hmatch] at hstate
  unfold lineHalves playerWidth at hbeam
  refine ⟨n % lineHalves, ?_, ?_, ?_⟩
  · unfold lineHalves
    omega
  · unfold lineHalves
    omega
  · refine rows_draw hstate (by rw [hy']; decide) (by rw [hx']; decide) ?_
    rw [hx', hy']
    unfold rowStart lineHalves
    rw [if_pos rfl]
    omega

/-! ### The drawer in the frame -/

theorem Phase.inPass {line entry : Nat} (h : Placed line entry) (hrows : s.Rows line entry n) :
    s.Phase n :=
  Or.inr (Or.inr (Or.inr ⟨line, entry, h, hrows⟩))

/-- The drawer rests outside the lines of the ship and the forty below them. -/
theorem Phase.idle_of_line (h : s.Phase n) (hout : n < lineHalves * 420 ∨ lineHalves * 500 ≤ n) :
    s.state = .idle := by
  unfold lineHalves at hout
  rcases h with ⟨hidle, _⟩ | hb | ⟨_, htop, hbottom⟩ | ⟨line, entry, hplaced, hrow, hrest⟩
  · exact hidle
  · have htop := hb.top
    have hbottom := hb.bottom
    unfold lineHalves at htop hbottom
    omega
  · unfold lineHalves at htop hbottom
    omega
  · exfalso
    unfold Placed at hplaced
    cases hs : s.state with
    | idle => simp [hs] at hrest
    | start => simp [hs] at hrest
    | awaitPos =>
      simp only [hs] at hrest
      unfold lineHalves playerHeight at *
      omega
    | draw =>
      simp only [hs] at hrest
      unfold rowStart lineHalves playerHeight playerWidth at *
      split_ifs at hrest
      · omega
      · omega
    | nextLine =>
      simp only [hs] at hrest
      unfold rowStart lineHalves playerHeight playerWidth at *
      split_ifs at hrest
      · omega
      · omega

/-- At rest the column counter is as a reset or a pass left it. -/
theorem Phase.xPos_of_idle (h : s.Phase n) (hs : s.state = .idle) :
    s.playerXPos.toNat = 0 ∨ s.playerXPos.toNat = playerWidth := by
  rcases h with ⟨_, hx⟩ | hb | ⟨he, _, _⟩ | ⟨line, entry, _, _, hrest⟩
  · exact hx
  · exact absurd (hs.symm.trans hb.state) (by simp)
  · exact absurd (hs.symm.trans he.1) (by simp)
  · simp [hs] at hrest

/-- **Every edge without a reset keeps the phase.** -/
theorem phase_clk (h : SampledAt n i) (hp : s.Phase n) :
    (s.clk mem i).Phase ((n + 1) % (lineHalves * 525)) := by
  -- only the idle drawer sees the end of the frame
  have hframe : s.state ≠ .idle → (n + 1) % (lineHalves * 525) = n + 1 := by
    intro hbusy
    refine Nat.mod_eq_of_lt ?_
    by_contra hend
    refine hbusy (hp.idle_of_line (Or.inr ?_))
    unfold lineHalves at *
    omega
  rcases hp with ⟨hidle, hx⟩ | hb | ⟨he, htop, hbottom⟩ | ⟨line, entry, hplaced, hrows⟩
  · by_cases hmeet : startDraw i = true
    · have hb := begun_clk mem h hidle hx hmeet
      rw [Nat.mod_eq_of_lt]
      · exact Or.inr (Or.inl hb)
      · have hbottom := hb.bottom
        unfold lineHalves at *
        omega
    · have hxkeep := clk_playerXPos mem s i h.reset
      have hstate := clk_state mem s i
      rw [h.reset, if_neg (by simp)] at hstate
      simp only [nextState, hidle, hmeet] at hstate hxkeep
      exact Or.inl ⟨hstate, hxkeep ▸ hx⟩
  · rw [hframe (by rw [hb.state]; simp)]
    obtain ⟨hstate, _, _⟩ := begun_next mem h hb
    have htop := hb.top
    have hbottom := hb.bottom
    by_cases he : (s.clk mem i).EntersAt (n + 1)
    · have hleft := hb.left
      have hright := hb.right
      refine Or.inr (Or.inr (Or.inl ⟨he, ?_, ?_⟩))
      · exact htop.trans (Nat.le_succ n)
      · unfold lineHalves at *
        omega
    · refine Phase.inPass ?_ (rows_of_begun h hb he)
      unfold Placed lineHalves at *
      omega
  · rw [hframe (by rw [he.1]; simp)]
    obtain ⟨entry, hentry, hn, hrows⟩ := rows_of_enters mem h he
    refine Phase.inPass ?_ hrows
    unfold Placed lineHalves at *
    omega
  · have hentry : entry = 0 ∨ entry = 72 ∨ entry = 73 := by
      unfold Placed at hplaced
      omega
    have hbusy : s.state ≠ .idle := by
      intro hidle
      exact absurd hrows.2 (by simp [hidle])
    rw [hframe hbusy]
    rcases rows_clk mem h hentry hrows with hrows' | ⟨hidle, hx, _⟩
    · exact Phase.inPass hplaced hrows'
    · exact Or.inl ⟨hidle, Or.inr hx⟩

/-! ### The flag -/

/-- The drawer rests with the flag of its last word up, and one address past it. -/
structure Lit (s : PlayerSprite) : Prop where
  aligned : s.view.Aligned playerWidth playerHeight
  flag : s.state = .idle → s.playerOn = true ∧ s.readAddress.toNat = 1440

/-- **Nothing lowers the flag of a drawer at rest**, but a reset. -/
theorem lit_clk (hr : i.reset = false) (h : s.Lit) : (s.clk mem i).Lit := by
  have hon := clk_playerOn mem s i
  have hra := clk_readAddress mem s i hr
  have hstate := clk_state mem s i
  rw [hr, if_neg (by simp)] at hstate hon
  refine ⟨Clocked.Streamer.aligned_step (by decide) (by decide) (view_step hr h.aligned)
    h.aligned, ?_⟩
  intro hidle
  rw [hstate] at hidle
  rw [hon, hra]
  cases hs : s.state with
  | idle => exact h.flag hs
  | draw =>
    -- the last word is at the last address
    obtain ⟨hbox, haddr⟩ := h.aligned .draw (by simp [view, streamPhase, hs])
    rw [nextState_draw hs] at hidle
    split_ifs at hidle with hcol hrow
    have hword : s.readAddress.toNat = 36 * s.playerYPos.toNat + s.playerXPos.toNat := by
      simpa [view, streamPhase, hs, Clocked.Streamer.scanner, Clocked.Scanner.address,
        playerWidth] using haddr
    unfold playerWidth at hcol
    unfold playerHeight at hrow
    refine ⟨rfl, (BitVec.toNat_add_of_lt (y := 1#19) ?_).trans ?_⟩
    · show s.readAddress.toNat + 1 < 2 ^ 19
      omega
    · show s.readAddress.toNat + 1 = 1440
      omega
  | start => simp [nextState, hs] at hidle
  | awaitPos =>
    simp only [nextState, hs] at hidle
    split_ifs at hidle
  | nextLine => simp [nextState, hs] at hidle

end Step

end PlayerSprite

end SpaceInvaders
