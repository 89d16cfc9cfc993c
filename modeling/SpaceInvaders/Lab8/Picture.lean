import SpaceInvaders.Lab8.Frames

/-!
# What the monitor is sent of the ship

In every frame the drawer makes a whole pass from line 420 on (`frame`), and within it the
memory is read once, word by word. Two words are drawn in the time of a pixel, and
`pixel_clk` rises on the second: of the pass goes out every other word of each row, from
column 1 to column 18, whatever the keys (`run_passes`). A ship the beam meets in column 35
has its first row in columns 37 to 54 instead, and time for a second pass in the frame.

After a pass the flag stays up: `IDLE` leaves it as the last word set it, and only a reset or the
next pass clears it. In every frame but the first it is up over all lines above the ship
and below its picture, with the word past the end of the memory's picture
(`flag_stays`).
-/

namespace SpaceInvaders

open Clocked (run run_succ emitted)

namespace Lab8

open PlayerSprite (lineHalves rowStart passEnd Rows Placed word)

variable (resolve : Bool → Bool → Bool) (mem : BitVec 19 → BitVec 24) (b₀ : Lab8)
  (ev : Nat → BoardEdge)

/-- The pixels from edge `a` up to edge `t` that go out with the ship's flag up: line,
column and word. -/
def shipPixels (a t : Nat) : List (Nat × Nat × BitVec 24) :=
  emitted
    (fun v => !(run (step resolve mem) b₀ ev v).vga.clkdiv &&
      (run (step resolve mem) b₀ ev v).player.sprite.playerOn)
    (fun v => ((run (step resolve mem) b₀ ev v).vga.drawY.toNat,
      (run (step resolve mem) b₀ ev v).vga.drawX.toNat,
      (run (step resolve mem) b₀ ev v).player.sprite.playerColor)) a t

/-- What becomes of the picture: pixel `k` of eighteen in a row, from line `line` on,
the first row `late` columns to the right. -/
def shipPixel (line late k : Nat) : Nat × Nat × BitVec 24 :=
  (line + k / 18, (if k < 18 then late else 0) + k % 18 + 1, word mem (2 * k + 1))

/-- From edge `a` to edge `t` the drawer makes one pass over the picture. The first row
is late if the beam met the ship in column 35. -/
structure PaintsShip (a t line late : Nat) : Prop where
  starts : (run (step resolve mem) b₀ ev a).player.sprite.state = .start
  lt : a < t
  busy : ∀ v, a ≤ v → v < t → (run (step resolve mem) b₀ ev v).player.sprite.state ≠ .idle
  ends : (run (step resolve mem) b₀ ev t).player.sprite.state = .idle
  place : late = 0 ∧ line = 421 ∨
    late = 36 ∧ line = 420 ∧ (run (step resolve mem) b₀ ev a).vga.drawX.toNat = 35
  pixels : shipPixels resolve mem b₀ ev (a + 1) (t + 1)
    = (List.range 720).map (shipPixel mem line late)

variable {b₀} {ev} {t₀ a u t line entry n : Nat}

/-! ## One pass -/

/-- Without a reset the ship's drawer is a machine of its own. -/
theorem machine_run (h : NoReset ev t₀ (t₀ + n)) :
    (run (step resolve mem) b₀ ev (t₀ + n)).player.sprite
      = run (PlayerSprite.clk mem) (run (step resolve mem) b₀ ev t₀).player.sprite
          (fun k => sampled resolve mem b₀ ev (t₀ + k)) n := by
  induction n with
  | zero => rfl
  | succ n ih =>
    rw [sprite_run resolve mem b₀ h, run_succ, ih (h.mono (Nat.le_refl t₀) (by omega))]

variable {resolve mem} in
theorem Begins.placed (hb : Begins resolve mem b₀ ev t₀ a u line entry) : Placed line entry := by
  have hplace := hb.place
  unfold Placed
  omega

/-- The edge at which the pass is over. -/
def lastEdge (t₀ line : Nat) : Nat := t₀ + (passEnd line - 1)

section Pass

variable {resolve mem} (hrest : (run (step resolve mem) b₀ ev t₀).AtRest)
  (hquiet : NoReset ev t₀ (t₀ + 840000))
include hrest hquiet

/-- The beam in the frame, and the board steady. -/
theorem steady_at {v : Nat} (hv : t₀ ≤ v) (hlt : v < t₀ + 839999) :
    (run (step resolve mem) b₀ ev v).Steady ∧
      (run (step resolve mem) b₀ ev v).vga.half = 1 + (v - t₀) := by
  obtain ⟨k, rfl⟩ := Nat.exists_eq_add_of_le hv
  obtain ⟨hsteady, hhalf⟩ := steady_run resolve mem
    (hquiet.mono (Nat.le_refl t₀) (show t₀ + k ≤ t₀ + 840000 by omega)) hrest.steady
  rw [hrest.corner, Nat.mod_eq_of_lt (by omega)] at hhalf
  exact ⟨hsteady, by omega⟩

variable (hb : Begins resolve mem b₀ ev t₀ a u line entry)
include hb

theorem lastEdge_bounds : u < lastEdge t₀ line ∧ lastEdge t₀ line < t₀ + 801000 := by
  have hplaced := hb.placed
  have hafter := hb.after
  have hearly := hb.early
  have hbefore := hb.before
  have hsoon := hb.soon
  have hentry : entry = 0 ∨ entry = 72 ∨ entry = 73 := by
    unfold Placed at hplaced
    omega
  have hlt := PlayerSprite.rows_lt hentry hb.rows
  rw [(steady_at hrest hquiet (show t₀ ≤ u by omega) (by omega)).2] at hlt
  unfold Placed at hplaced
  unfold lastEdge passEnd lineHalves at *
  omega

theorem rows_at {v : Nat} (huv : u ≤ v) (hv : v < lastEdge t₀ line) :
    Rows line entry (1 + (v - t₀)) (run (step resolve mem) b₀ ev v).player.sprite := by
  have hafter := hb.after
  have hbefore := hb.before
  have hbounds := lastEdge_bounds hrest hquiet hb
  obtain ⟨hsteady, hhalf⟩ := steady_at hrest hquiet (show t₀ ≤ u by omega) (by omega)
  obtain ⟨k, rfl⟩ := Nat.exists_eq_add_of_le huv
  have hword := (rows_run resolve mem hsteady hb.placed hb.rows
    (hquiet.mono (show t₀ ≤ u by omega) (show u + k ≤ t₀ + 840000 by omega)) (by
      unfold lastEdge at hv
      omega)).1
  rw [hhalf, show 1 + (u - t₀) + k = 1 + (u + k - t₀) by omega] at hword
  exact hword

theorem busy_at {v : Nat} (hav : a ≤ v) (hv : v < lastEdge t₀ line) :
    (run (step resolve mem) b₀ ev v).player.sprite.state ≠ .idle := by
  have hsoon := hb.soon
  by_cases huv : u ≤ v
  · intro hidle
    exact absurd (rows_at hrest hquiet hb huv hv).2 (by simp [hidle])
  · obtain rfl | rfl : v = a ∨ v = a + 1 := by omega
    · rw [hb.starts]
      simp
    · rw [hb.waits]
      simp

theorem idle_lastEdge :
    (run (step resolve mem) b₀ ev (lastEdge t₀ line)).player.sprite.state = .idle := by
  have hafter := hb.after
  have hbefore := hb.before
  have hbounds := lastEdge_bounds hrest hquiet hb
  obtain ⟨hsteady, hhalf⟩ := steady_at hrest hquiet (show t₀ ≤ u by omega) (by omega)
  obtain ⟨k, hk⟩ := Nat.exists_eq_add_of_lt hbounds.1
  have hidle := idle_of_passEnd (n := k) resolve mem hsteady hb.placed hb.rows
    (hquiet.mono (show t₀ ≤ u by omega) (by omega)) (by
      rw [hhalf]
      unfold lastEdge at hk hbounds
      omega)
  rw [hk]
  exact hidle

/-! ### The words -/

/-- **The pass reads the memory once, in order.** -/
theorem addresses : emitted
    (fun v => (run (step resolve mem) b₀ ev v).player.sprite.state == .draw)
    (fun v => (run (step resolve mem) b₀ ev v).player.sprite.scanner.address playerWidth)
    a (lastEdge t₀ line) = List.range 1440 := by
  have hafter := hb.after
  have hbefore := hb.before
  have hbounds := lastEdge_bounds hrest hquiet hb
  have hmachine : ∀ n, n ≤ lastEdge t₀ line - t₀ →
      (run (step resolve mem) b₀ ev (t₀ + n)).player.sprite
        = run (PlayerSprite.clk mem) (run (step resolve mem) b₀ ev t₀).player.sprite
          (fun k => sampled resolve mem b₀ ev (t₀ + k)) n :=
    fun n hn => machine_run resolve mem (hquiet.mono (Nat.le_refl t₀) (by omega))
  obtain ⟨k, hk⟩ := Nat.exists_eq_add_of_le (show t₀ ≤ a by omega)
  obtain ⟨l, hl⟩ := Nat.exists_eq_add_of_le (show t₀ ≤ lastEdge t₀ line by omega)
  have hpass : PlayerSprite.SpritePass mem (run (step resolve mem) b₀ ev t₀).player.sprite
      (fun k => sampled resolve mem b₀ ev (t₀ + k)) k l := by
    refine ⟨?_, by omega, ?_, ?_⟩
    · rw [← hmachine k (by omega), ← hk]
      exact hb.starts
    · intro v hkv hvl
      rw [← hmachine v (by omega)]
      exact ⟨rfl, busy_at hrest hquiet hb (by omega) (by omega)⟩
    · rw [← hmachine l (by omega), ← hl]
      exact idle_lastEdge hrest hquiet hb
  have hwords := (hpass.scannerPass hrest.idle).addresses (by decide)
  have hskip : ((run (PlayerSprite.clk mem) (run (step resolve mem) b₀ ev t₀).player.sprite
      (fun k => sampled resolve mem b₀ ev (t₀ + k)) k).state == .draw) = false := by
    rw [hpass.starts]
    rfl
  rw [PlayerSprite.drawsAt_eq, ← Clocked.emitted_skip _ _ hpass.lt hskip] at hwords
  rw [hk, hl]
  refine (Clocked.emitted_shift t₀ ?_ ?_).trans hwords
  · intro v _ hv
    simp only [hmachine v (by omega)]
  · intro v _ hv _
    simp only [hmachine v (by omega)]

/-- A word as it is drawn: the beam has it in the second half of a pixel if its number
is odd, and then it goes out with the pixel. -/
theorem word_at {v : Nat} (hav : a ≤ v) (hv : v < lastEdge t₀ line)
    (hs : (run (step resolve mem) b₀ ev v).player.sprite.state = .draw) :
    let w := (run (step resolve mem) b₀ ev v).player.sprite.scanner.address playerWidth
    ((run (step resolve mem) b₀ ev v).vga.clkdiv = true ↔ w % 2 = 1) ∧
      (w % 2 = 1 → ((run (step resolve mem) b₀ ev (1 + v)).vga.drawY.toNat,
        (run (step resolve mem) b₀ ev (1 + v)).vga.drawX.toNat,
        (run (step resolve mem) b₀ ev (1 + v)).player.sprite.playerColor)
          = shipPixel mem line (entry / 2) (w / 2)) := by
  intro w
  have hafter := hb.after
  have hsoon := hb.soon
  have hbounds := lastEdge_bounds hrest hquiet hb
  have huv : u ≤ v := by
    by_contra hlt
    obtain rfl | rfl : v = a ∨ v = a + 1 := by omega
    · exact absurd (hs.symm.trans hb.starts) (by simp)
    · exact absurd (hs.symm.trans hb.waits) (by simp)
  obtain ⟨hrow, hrest'⟩ := rows_at hrest hquiet hb huv hv
  simp only [hs] at hrest'
  obtain ⟨hcol, hn⟩ := hrest'
  obtain ⟨_, hhalf⟩ := steady_at hrest hquiet (show t₀ ≤ v by omega) (by omega)
  obtain ⟨hsteady', hhalf'⟩ := steady_at hrest hquiet (show t₀ ≤ 1 + v by omega) (by omega)
  have hw : w = 36 * (run (step resolve mem) b₀ ev v).player.sprite.playerYPos.toNat
      + (run (step resolve mem) b₀ ev v).player.sprite.playerXPos.toNat := by
    show Clocked.Scanner.address playerWidth _ = _
    simp only [PlayerSprite.scanner, PlayerSprite.phase, hs, Clocked.Scanner.address]
    rfl
  have hplaced := hb.place
  have hhigh : (run (step resolve mem) b₀ ev v).vga.clkdiv = true
      ↔ ¬ (run (step resolve mem) b₀ ev v).vga.half % 2 = 1 := by
    rw [← VgaController.clkdiv_eq_false_iff, Bool.not_eq_false]
  unfold rowStart lineHalves at hn
  unfold playerWidth at hcol
  unfold playerHeight at hrow
  refine ⟨?_, fun hodd => ?_⟩
  · rw [hhigh, hhalf, hw, hn]
    split_ifs
    · omega
    · omega
  · have hcolour : (run (step resolve mem) b₀ ev (1 + v)).player.sprite.playerColor
        = word mem w := by
      obtain ⟨k, rfl⟩ := Nat.exists_eq_add_of_le (show t₀ ≤ v by omega)
      have hquiet' : NoReset ev t₀ (t₀ + k) := hquiet.mono (Nat.le_refl t₀) (by omega)
      have haligned : (run (PlayerSprite.clk mem)
          (run (step resolve mem) b₀ ev t₀).player.sprite
          (fun k => sampled resolve mem b₀ ev (t₀ + k)) k).Aligned :=
        PlayerSprite.aligned_run hrest.idle k
      rw [← machine_run resolve mem hquiet'] at haligned
      have haddr := (haligned (Or.inl hs)).2
      rw [show 1 + (t₀ + k) = t₀ + (k + 1) by omega,
        sprite_run resolve mem b₀ (hquiet.mono (Nat.le_refl t₀) (by omega)),
        PlayerSprite.clk_playerColor]
      unfold word
      rw [show w = _ from haddr.symm, BitVec.ofNat_toNat, BitVec.setWidth_eq]
    rw [hcolour, VgaController.drawY_toNat hsteady'.beam, VgaController.drawX_toNat hsteady'.beam,
      hhalf']
    unfold shipPixel
    rw [show 2 * (w / 2) + 1 = w by omega]
    refine Prod.ext ?_ (Prod.ext ?_ rfl)
    · show (1 + (1 + v - t₀)) / 1600 = line + w / 2 / 18
      split_ifs at hn
      · omega
      · omega
    · show (1 + (1 + v - t₀)) / 2 % 800 = (if w / 2 < 18 then entry / 2 else 0) + w / 2 % 18 + 1
      split_ifs at hn ⊢
      · omega
      · omega
      · omega
      · omega

/-- The flag is up, and `pixel_clk` about to rise, in the cycle after a word that is drawn
in the first half of a pixel. -/
theorem shown_at {v : Nat} (hav : a ≤ v) (hv : v < lastEdge t₀ line) :
    ((run (step resolve mem) b₀ ev v).player.sprite.state == .draw &&
        (run (step resolve mem) b₀ ev v).vga.clkdiv)
      = (!(run (step resolve mem) b₀ ev (1 + v)).vga.clkdiv &&
          (run (step resolve mem) b₀ ev (1 + v)).player.sprite.playerOn) := by
  have hafter := hb.after
  have hbounds := lastEdge_bounds hrest hquiet hb
  have hbusy := busy_at hrest hquiet hb hav hv
  obtain ⟨keycode, hrun⟩ := run_noReset resolve mem b₀
    (hquiet.mono (show t₀ ≤ v by omega) (show v + (0 + 1) ≤ t₀ + 840000 by omega))
  rw [Nat.add_comm 1 v, show v + 1 = v + (0 + 1) from rfl, hrun, step_vga, step_sprite,
    PlayerSprite.clk_playerOn, VgaController.clk_clkdiv]
  simp only [Player.spriteIn, Bool.false_eq_true, if_false, Nat.add_zero]
  cases hs : (run (step resolve mem) b₀ ev v).player.sprite.state with
  | idle => exact absurd hs hbusy
  | draw => simp
  | start => simp
  | awaitPos => simp
  | nextLine => simp

/-- **What goes out of a pass**: every other word of each row. -/
theorem pixels : shipPixels resolve mem b₀ ev (a + 1) (lastEdge t₀ line + 1)
    = (List.range 720).map (shipPixel mem line (entry / 2)) := by
  have hwords := addresses hrest hquiet hb
  -- the words with an odd number, by their numbers
  have hodd : emitted
      (fun v => (run (step resolve mem) b₀ ev v).player.sprite.state == .draw &&
        (run (step resolve mem) b₀ ev v).vga.clkdiv)
      (fun v => (run (step resolve mem) b₀ ev v).player.sprite.scanner.address playerWidth)
      a (lastEdge t₀ line) = (List.range 720).map fun k => 2 * k + 1 := by
    rw [Clocked.emitted_and (fun w => decide (w % 2 = 1)), hwords, ← Clocked.range_odd]
    intro v hav hv hdraw
    rw [Bool.eq_iff_iff, decide_eq_true_iff]
    exact (word_at hrest hquiet hb hav hv (by simpa using hdraw)).1
  unfold shipPixels
  rw [Nat.add_comm a, Nat.add_comm (lastEdge t₀ line)]
  refine (Clocked.emitted_shift 1 (fun v hav hv => shown_at hrest hquiet hb hav hv)
    fun _ _ _ _ => rfl).trans ?_
  refine (Clocked.emitted_eq_map (fun w => shipPixel mem line (entry / 2) (w / 2)) ?_).trans
    ((congrArg (List.map _) hodd).trans ?_)
  · intro v hav hv hshown
    obtain ⟨hdraw, hhigh⟩ := Bool.and_eq_true_iff.mp hshown
    have hword := word_at hrest hquiet hb hav hv (by simpa using hdraw)
    exact hword.2 (hword.1.mp hhigh)
  · rw [List.map_map]
    refine List.map_congr_left fun k _ => ?_
    show shipPixel mem line (entry / 2) ((2 * k + 1) / 2) = _
    rw [show (2 * k + 1) / 2 = k by omega]

end Pass

/-! ## Frames -/

/-- **A frame of the ship**: a whole pass, and the board is at rest again in the corner. -/
theorem frame (hrest : (run (step resolve mem) b₀ ev t₀).AtRest)
    (hquiet : NoReset ev t₀ (t₀ + 840000)) :
    (∃ a t line late, t₀ < a ∧ t < t₀ + 840000 ∧
      PaintsShip resolve mem b₀ ev a t line late) ∧
      (run (step resolve mem) b₀ ev (t₀ + 840000)).AtRest := by
  obtain ⟨hsteady, hhalf⟩ := steady_run resolve mem hquiet hrest.steady
  rw [hrest.corner] at hhalf
  refine ⟨?_, hsteady, hhalf, hsteady.drawer.idle_of_line (Or.inl ?_)⟩
  · obtain ⟨a, u, line, entry, hb⟩ := exists_begins resolve mem hrest hquiet
    have hbefore := hb.before
    have hbounds := lastEdge_bounds hrest hquiet hb
    have hplace := hb.place
    refine ⟨a, lastEdge t₀ line, line, entry / 2, hb.after, by omega, hb.starts, by omega,
      fun v hav hv => busy_at hrest hquiet hb hav hv, idle_lastEdge hrest hquiet hb, ?_,
      pixels hrest hquiet hb⟩
    omega
  · rw [hhalf]
    decide

/-- The board starts over before edge `t₀`: by power-up, or by a press of the button that
has lasted for one `Clk` edge or more. -/
def Restarts (ev : Nat → BoardEdge) (t₀ : Nat) : Prop :=
  t₀ = 0 ∨ ∃ u, u + 1 < t₀ ∧ ev u = .resetH ∧
    ∀ v, u < v → v < t₀ → ∃ keycode, ev v = .clk true keycode

/-- While the button is held the controller stays cleared. -/
theorem vga_held (hpress : ev u = .resetH)
    (hclk : ∀ v, u < v → v < u + 1 + n → ∃ keycode, ev v = .clk true keycode) :
    (run (step resolve mem) b₀ ev (u + 1 + n)).vga = VgaController.cleared := by
  induction n with
  | zero =>
    rw [Nat.add_zero, run_succ, hpress]
    rfl
  | succ n ih =>
    obtain ⟨keycode, hev⟩ := hclk (u + 1 + n) (by omega) (by omega)
    rw [← Nat.add_assoc, run_succ, hev, step_vga,
      ih fun v huv hv => hclk v huv (Nat.lt_succ_of_lt hv)]
    rfl

section Restarted

variable {resolve mem} (hp : b₀.PowerUp) (hheld : ResetHeld ev) (hre : Restarts ev t₀)
include hp hheld hre

theorem atRest_of_restarts {keycode : BitVec 8} (hev : ev t₀ = .clk false keycode) :
    (run (step resolve mem) b₀ ev t₀).AtRest := by
  have hsteady : (run (step resolve mem) b₀ ev t₀).Steady := by
    rcases run_steady resolve mem b₀ ev hp hheld t₀ with hsteady | ⟨⟨_, hreset⟩, _, _⟩
    · exact hsteady
    · rw [hev] at hreset
      cases hreset
  refine ⟨hsteady, ?_, ?_⟩
  · rcases hre with rfl | ⟨u, hu, hpress, hclk⟩
    · rw [Clocked.run_zero, hp.vga]
      decide
    · obtain ⟨n, rfl⟩ := Nat.exists_eq_add_of_le (show u + 1 ≤ t₀ by omega)
      rw [vga_held resolve mem hpress hclk]
      decide
  · rcases hre with rfl | ⟨u, hu, _, hclk⟩
    · rw [Clocked.run_zero, hp.sprite]
      rfl
    · obtain ⟨v, rfl⟩ := Nat.exists_eq_add_of_lt hu
      obtain ⟨key, hlast⟩ := hclk (u + 1 + v) (by omega) (by omega)
      rw [run_succ, hlast]
      exact (idle_of_reset resolve mem key).1

variable (resolve mem) in
/-- From the first pass on the drawer is lit. -/
theorem lit_run (h : NoReset ev t₀ t) (ht : t₀ + 840000 ≤ t) :
    (run (step resolve mem) b₀ ev t).player.sprite.Lit := by
  have hfirst : NoReset ev t₀ (t₀ + 840000) := h.mono (Nat.le_refl t₀) ht
  obtain ⟨keycode, hev⟩ := hfirst t₀ (Nat.le_refl t₀) (by omega)
  have hrest : (run (step resolve mem) b₀ ev t₀).AtRest := atRest_of_restarts hp hheld hre hev
  obtain ⟨a, u, line, entry, hb⟩ := exists_begins resolve mem hrest hfirst
  have hafter := hb.after
  have hearly := hb.early
  obtain ⟨n, rfl⟩ := Nat.exists_eq_add_of_le (show a ≤ t by omega)
  clear ht
  induction n with
  | zero =>
    refine ⟨?_, fun hidle => absurd (hidle.symm.trans hb.starts) (by simp)⟩
    -- the address is that of the machine, which was at rest
    obtain ⟨k, rfl⟩ := Nat.exists_eq_add_of_le (show t₀ ≤ a by omega)
    rw [Nat.add_zero, machine_run resolve mem (h.mono (Nat.le_refl t₀) (by omega))]
    exact (PlayerSprite.view_streams hrest.idle).aligned k
  | succ n ih =>
    rw [sprite_run resolve mem b₀ (h.mono (by omega) (by omega))]
    exact PlayerSprite.lit_clk rfl (ih (h.mono (Nat.le_refl t₀) (by omega)))

/-- **The flag stays up**: in every frame but the first, over the lines above the ship
and below its picture, with the word past the end of the picture. -/
theorem flag_stays (h : NoReset ev t₀ t) (ht : t₀ + 840000 < t)
    (hline : (run (step resolve mem) b₀ ev t).vga.drawY.toNat < 420 ∨
      500 < (run (step resolve mem) b₀ ev t).vga.drawY.toNat) :
    (run (step resolve mem) b₀ ev t).player.sprite.playerOn = true ∧
      (run (step resolve mem) b₀ ev t).player.sprite.playerColor = word mem 1440 := by
  obtain ⟨keycode, hev⟩ := h t₀ (Nat.le_refl t₀) (by omega)
  have hrest : (run (step resolve mem) b₀ ev t₀).AtRest := atRest_of_restarts hp hheld hre hev
  obtain ⟨n, rfl⟩ := Nat.exists_eq_add_of_le (show t₀ + 1 ≤ t by omega)
  rw [show t₀ + 1 + n = t₀ + (n + 1) by omega] at *
  have hquiet : NoReset ev t₀ (t₀ + n) := h.mono (Nat.le_refl t₀) (by omega)
  obtain ⟨hsteady, hhalf⟩ := steady_run resolve mem hquiet hrest.steady
  obtain ⟨hsteady', hhalf'⟩ := steady_run resolve mem h hrest.steady
  have hbound := VgaController.half_lt hsteady.beam
  rw [VgaController.drawY_toNat hsteady'.beam] at hline
  -- the drawer is at rest there, and was at the edge before
  have hidle : (run (step resolve mem) b₀ ev (t₀ + n)).player.sprite.state = .idle := by
    refine hsteady.drawer.idle_of_line ?_
    unfold lineHalves
    omega
  have hidle' : (run (step resolve mem) b₀ ev (t₀ + (n + 1))).player.sprite.state = .idle := by
    refine hsteady'.drawer.idle_of_line ?_
    unfold lineHalves
    omega
  have hlit := lit_run resolve mem hp hheld hre hquiet (by omega)
  have hlit' := lit_run resolve mem hp hheld hre h (by omega)
  refine ⟨(hlit'.flag hidle').1, ?_⟩
  rw [sprite_run resolve mem b₀ h, PlayerSprite.clk_playerColor]
  unfold word
  rw [← (hlit.flag hidle).2, BitVec.ofNat_toNat, BitVec.setWidth_eq]

end Restarted

/-! ## A key held down -/

/-- `D`, held down for ever. -/
def holdsD : Nat → BoardEdge := fun _ => .clk false 0x07#8

theorem holdsD_noReset (a t : Nat) : NoReset holdsD a t := fun _ _ _ => ⟨_, rfl⟩

theorem holdsD_held : ResetHeld holdsD := fun _ h => by cases h

/-- In the second frame the beam is at the top again. -/
theorem holdsD_drawY :
    (run (step (· || ·) fun _ => 0) powerUp holdsD (0 + 840001)).vga.drawY.toNat = 0 := by
  have hstart : (run (step (· || ·) fun _ => 0) powerUp holdsD 0).Steady :=
    steady_powerUp powerUp_powerUp
  obtain ⟨hsteady, hhalf⟩ := steady_run (· || ·) (fun _ => 0) (holdsD_noReset 0 (0 + 840001))
    hstart
  rw [VgaController.drawY_toNat hsteady.beam, hhalf]
  rfl

theorem holdsD_flag :
    (run (step (· || ·) fun _ => 0) powerUp holdsD (0 + 840001)).player.sprite.playerOn = true ∧
      (run (step (· || ·) fun _ => 0) powerUp holdsD (0 + 840001)).player.sprite.playerColor
        = word (fun _ => 0) 1440 :=
  flag_stays powerUp_powerUp holdsD_held (Or.inl rfl) (holdsD_noReset _ _) (by decide)
    (Or.inl (by rw [holdsD_drawY]; decide))

/-- A word of the first frame. -/
theorem holdsD_draw : ∃ t, (run (step (· || ·) fun _ => 0) powerUp holdsD t).player.sprite.state
    = .draw := by
  have hrest : (run (step (· || ·) fun _ => 0) powerUp holdsD 0).AtRest :=
    atRest_of_restarts powerUp_powerUp holdsD_held (Or.inl rfl) rfl
  obtain ⟨a, u, line, entry, hb⟩ := exists_begins (· || ·) (fun _ => 0) hrest
    (holdsD_noReset _ _)
  have hwords := addresses hrest (holdsD_noReset _ _) hb
  by_contra hnone
  rw [emitted, List.filter_eq_nil_iff.mpr] at hwords
  · simp at hwords
  · intro v _ hdraw
    exact hnone ⟨v, by simpa using hdraw⟩

theorem holdsD_painted : ∃ t,
    (run (step (· || ·) fun _ => 0) powerUp holdsD t).player.sprite.state = .draw ∧
      (run (step (· || ·) fun _ => 0) powerUp holdsD t).Painted := by
  obtain ⟨t, ht⟩ := holdsD_draw
  exact ⟨t, ht, run_painted (· || ·) (fun _ => 0) powerUp holdsD powerUp_powerUp holdsD_held t
    0x07#8 rfl ht⟩

end Lab8

end SpaceInvaders
