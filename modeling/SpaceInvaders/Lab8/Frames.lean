import SpaceInvaders.Lab8.Ship

/-!
# The beam meets the ship

Without a reset the board stays steady and the beam goes round (`steady_run`), and a
drawer that is in its rows goes through them and rests at the half pixel the beam fixes
(`rows_run`, `idle_of_passEnd`).

From a board at rest with the beam in the corner, as it is at power-up and after a reset,
the beam meets the ship in line 420, whatever the keys: the ship moves five pixels at most
in the time of one pixel and is thirty-six wide, so it cannot dodge (`exists_meeting`).
The first meeting is in the first half of a pixel, since beam and ship move together
(`first_meeting`); there the drawer begins, with its first row in line 421 or, from column
35, in line 420 itself (`rows_begin`).
-/

namespace SpaceInvaders

open Clocked (run run_succ emitted)

namespace Lab8

open PlayerSprite (lineHalves passEnd Rows Placed startDraw word)

variable (resolve : Bool → Bool → Bool) (mem : BitVec 19 → BitVec 24) (b₀ : Lab8)
  (ev : Nat → BoardEdge)

/-- The board at rest with the beam in the corner. -/
structure AtRest (b : Lab8) : Prop where
  steady : b.Steady
  corner : b.vga.half = 1
  idle : b.player.sprite.state = .idle

/-- What the drawer samples at edge `v`. -/
def sampled (v : Nat) : SpriteIn :=
  (run (step resolve mem) b₀ ev v).player.spriteIn false
    (run (step resolve mem) b₀ ev v).vga.drawX (run (step resolve mem) b₀ ev v).vga.drawY

/-- The beam meets the ship. -/
def meets (v : Nat) : Bool := startDraw (sampled resolve mem b₀ ev v)

/-- At edge `a` the drawer begins, after a rest since edge `t₀`; from edge `u` on it is
in its rows. The first row is late where the beam met the ship in column 35. -/
structure Begins (t₀ a u line entry : Nat) : Prop where
  after : t₀ < a
  early : a < t₀ + 673600
  rested : ∀ v, t₀ ≤ v → v < a → (run (step resolve mem) b₀ ev v).player.sprite.state = .idle
  starts : (run (step resolve mem) b₀ ev a).player.sprite.state = .start
  before : a < u
  soon : u ≤ a + 2
  waits : (run (step resolve mem) b₀ ev (a + 1)).player.sprite.state = .awaitPos
  place : entry = 0 ∧ line = 421 ∨
    entry = 72 ∧ line = 420 ∧ (run (step resolve mem) b₀ ev a).vga.drawX.toNat = 35
  rows : Rows line entry (run (step resolve mem) b₀ ev u).vga.half
    (run (step resolve mem) b₀ ev u).player.sprite

section Quiet

variable {ev} {a t n : Nat}

/-- An edge without a reset, as a step. -/
theorem run_noReset (h : NoReset ev a (a + (n + 1))) : ∃ keycode,
    run (step resolve mem) b₀ ev (a + (n + 1))
      = (run (step resolve mem) b₀ ev (a + n)).step resolve mem (.clk false keycode) := by
  obtain ⟨keycode, hev⟩ := h (a + n) (by omega) (by omega)
  exact ⟨keycode, by rw [← Nat.add_assoc, run_succ, hev]⟩

theorem sprite_run (h : NoReset ev a (a + (n + 1))) :
    (run (step resolve mem) b₀ ev (a + (n + 1))).player.sprite
      = (run (step resolve mem) b₀ ev (a + n)).player.sprite.clk mem
          (sampled resolve mem b₀ ev (a + n)) := by
  obtain ⟨keycode, hrun⟩ := run_noReset resolve mem b₀ h
  rw [hrun, step_sprite]
  rfl

variable {b₀}

/-- Without a reset the board stays steady, and the beam goes round. -/
theorem steady_run (h : NoReset ev a (a + n)) (hs : (run (step resolve mem) b₀ ev a).Steady) :
    (run (step resolve mem) b₀ ev (a + n)).Steady ∧
      (run (step resolve mem) b₀ ev (a + n)).vga.half
        = ((run (step resolve mem) b₀ ev a).vga.half + n) % 840000 := by
  induction n with
  | zero => exact ⟨hs, (Nat.mod_eq_of_lt (VgaController.half_lt hs.beam)).symm⟩
  | succ n ih =>
    obtain ⟨hsteady, hhalf⟩ := ih (h.mono (Nat.le_refl a) (by omega))
    obtain ⟨keycode, hrun⟩ := run_noReset resolve mem b₀ h
    rw [hrun]
    refine ⟨steady_clk resolve mem hsteady keycode, ?_⟩
    rw [step_vga, VgaController.half_clk hsteady.beam, hhalf]
    omega

/-- Up to the last word the drawer is in its rows, in the half pixel it is told. -/
theorem rows_run {line entry : Nat} (hs : (run (step resolve mem) b₀ ev a).Steady)
    (hplaced : Placed line entry)
    (hrows : Rows line entry (run (step resolve mem) b₀ ev a).vga.half
      (run (step resolve mem) b₀ ev a).player.sprite)
    (h : NoReset ev a (a + n))
    (hlt : (run (step resolve mem) b₀ ev a).vga.half + n < passEnd line) :
    Rows line entry ((run (step resolve mem) b₀ ev a).vga.half + n)
        (run (step resolve mem) b₀ ev (a + n)).player.sprite ∧
      (run (step resolve mem) b₀ ev (a + n)).vga.half
        = (run (step resolve mem) b₀ ev a).vga.half + n := by
  have hlast : passEnd line < 840000 := by
    unfold Placed at hplaced
    unfold passEnd lineHalves
    omega
  obtain ⟨hsteady, hhalf⟩ := steady_run resolve mem h hs
  rw [Nat.mod_eq_of_lt (hlt.trans hlast)] at hhalf
  refine ⟨?_, hhalf⟩
  clear hhalf hsteady
  induction n with
  | zero => exact hrows
  | succ n ih =>
    have hquiet : NoReset ev a (a + n) := h.mono (Nat.le_refl a) (by omega)
    obtain ⟨hsteady, hhalf⟩ := steady_run resolve mem hquiet hs
    rw [Nat.mod_eq_of_lt (by omega)] at hhalf
    have hsampled := sampledAt hsteady.beam hsteady.ship
    rw [hhalf] at hsampled
    have hentry : entry = 0 ∨ entry = 72 ∨ entry = 73 := by
      unfold Placed at hplaced
      omega
    have hword := ih hquiet (by omega)
    rw [sprite_run resolve mem b₀ h, ← Nat.add_assoc]
    rcases PlayerSprite.rows_clk mem hsampled hentry hword with hrows' | ⟨_, _, hend⟩
    · exact hrows'
    · omega

/-- At the half pixel after the last word the drawer rests. -/
theorem idle_of_passEnd {line entry : Nat} (hs : (run (step resolve mem) b₀ ev a).Steady)
    (hplaced : Placed line entry)
    (hrows : Rows line entry (run (step resolve mem) b₀ ev a).vga.half
      (run (step resolve mem) b₀ ev a).player.sprite)
    (h : NoReset ev a (a + (n + 1)))
    (hend : (run (step resolve mem) b₀ ev a).vga.half + n + 1 = passEnd line) :
    (run (step resolve mem) b₀ ev (a + (n + 1))).player.sprite.state = .idle := by
  have hquiet : NoReset ev a (a + n) := h.mono (Nat.le_refl a) (by omega)
  obtain ⟨hword, hhalf⟩ := rows_run resolve mem hs hplaced hrows hquiet (by omega)
  obtain ⟨hsteady, _⟩ := steady_run resolve mem hquiet hs
  have hsampled := sampledAt hsteady.beam hsteady.ship
  rw [hhalf] at hsampled
  have hentry : entry = 0 ∨ entry = 72 ∨ entry = 73 := by
    unfold Placed at hplaced
    omega
  rw [sprite_run resolve mem b₀ h]
  rcases PlayerSprite.rows_clk mem hsampled hentry hword with hrows' | ⟨hidle, _, _⟩
  · -- one half pixel too many
    exact absurd (PlayerSprite.rows_lt hentry hrows') (by omega)
  · exact hidle

end Quiet

/-! ## The meeting -/

section Meeting

variable {b₀} {ev} {t₀ : Nat}

/-- The ship moves left by five pixels at most. -/
theorem startX_step {b : Lab8} (h : b.player.motion.OnGrid) (keycode : BitVec 8) :
    b.player.motion.playerStartX.toNat
      ≤ (b.step resolve mem (.clk false keycode)).player.motion.playerStartX.toNat + 5 := by
  rw [step_motion]
  split_ifs
  · unfold PlayerMotion.frame
    split_ifs with hleft hright hreset
    · have hstep := (PlayerMotion.stepLeft_toNat h hleft).2
      show _ ≤ (b.player.motion.playerStartX - 5#10).toNat + 5
      omega
    · have hstep := (PlayerMotion.stepRight_toNat h hright).2
      show _ ≤ (b.player.motion.playerStartX + 5#10).toNat + 5
      omega
    · cases hreset
    · exact Nat.le_add_right _ _
  · exact Nat.le_add_right _ _

/-- **The ship cannot dodge the beam**: it is met in the first of its lines. -/
theorem exists_meeting (hrest : (run (step resolve mem) b₀ ev t₀).AtRest)
    (h : NoReset ev t₀ (t₀ + 840000)) :
    ∃ m, m < 1600 ∧ meets resolve mem b₀ ev (t₀ + (671999 + m)) = true := by
  by_contra hnone
  have hdodge : ∀ m, m < 1600 → meets resolve mem b₀ ev (t₀ + (671999 + m)) ≠ true :=
    fun m hm hmeet => hnone ⟨m, hm, hmeet⟩
  -- as long as it is not met, the ship is to the right of the beam
  have hright : ∀ m, m < 1600 → m / 2
      < (run (step resolve mem) b₀ ev (t₀ + (671999 + m))).player.motion.playerStartX.toNat := by
    intro m
    have hsampled : ∀ k, k < 1600 → PlayerSprite.SampledAt (672000 + k)
        (sampled resolve mem b₀ ev (t₀ + (671999 + k))) := by
      intro k hk
      obtain ⟨hsteady, hhalf⟩ := steady_run resolve mem
        (h.mono (Nat.le_refl t₀) (show t₀ + (671999 + k) ≤ t₀ + 840000 by omega)) hrest.steady
      rw [hrest.corner, Nat.mod_eq_of_lt (by omega)] at hhalf
      have hat := sampledAt hsteady.beam hsteady.ship
      rw [hhalf, show 1 + (671999 + k) = 672000 + k by omega] at hat
      exact hat
    have hside : ∀ k, k < 1600 → k / 2
          < (run (step resolve mem) b₀ ev (t₀ + (671999 + k))).player.motion.playerStartX.toNat ∨
        (run (step resolve mem) b₀ ev (t₀ + (671999 + k))).player.motion.playerStartX.toNat + 36
          ≤ k / 2 := by
      intro k hk
      have hnot := hdodge k hk
      unfold meets at hnot
      rw [Ne, PlayerSprite.startDraw_iff (hsampled k hk)] at hnot
      change ¬ ((run (step resolve mem) b₀ ev
          (t₀ + (671999 + k))).player.motion.playerStartX.toNat ≤ _ ∧ _
        < (run (step resolve mem) b₀ ev
          (t₀ + (671999 + k))).player.motion.playerStartX.toNat + 36 ∧ _) at hnot
      unfold lineHalves at hnot
      omega
    induction m with
    | zero =>
      intro hm
      rcases hside 0 hm with hlt | hge
      · exact hlt
      · omega
    | succ m ih =>
      intro hm
      have hbefore := ih (by omega)
      obtain ⟨hsteady, _⟩ := steady_run resolve mem
        (h.mono (Nat.le_refl t₀) (show t₀ + (671999 + m) ≤ t₀ + 840000 by omega)) hrest.steady
      obtain ⟨keycode, hrun⟩ := run_noReset resolve mem b₀
        (h.mono (Nat.le_refl t₀) (show t₀ + (671999 + m + 1) ≤ t₀ + 840000 by omega))
      have hship := startX_step resolve mem hsteady.ship keycode
      rw [← hrun] at hship
      rcases hside (m + 1) hm with hlt | hge
      · exact hlt
      · change _ ≤ (run (step resolve mem) b₀ ev
          (t₀ + (671999 + (m + 1)))).player.motion.playerStartX.toNat + 5 at hship
        omega
  obtain ⟨hsteady, _⟩ := steady_run resolve mem
    (h.mono (Nat.le_refl t₀) (show t₀ + (671999 + 1599) ≤ t₀ + 840000 by omega)) hrest.steady
  have hborder := hsteady.ship.le
  have hlast := hright 1599 (by omega)
  omega

/-- The first meeting of the frame, with the drawer at rest up to it. -/
theorem first_meeting (hrest : (run (step resolve mem) b₀ ev t₀).AtRest)
    (h : NoReset ev t₀ (t₀ + 840000)) :
    ∃ m, m < 1600 ∧ m % 2 = 0 ∧ meets resolve mem b₀ ev (t₀ + (671999 + m)) = true ∧
      ∀ k, k ≤ 671999 + m →
        (run (step resolve mem) b₀ ev (t₀ + k)).player.sprite.state = .idle := by
  obtain ⟨m₁, hm₁, hmeet₁⟩ := exists_meeting resolve mem hrest h
  have hex : ∃ k, meets resolve mem b₀ ev (t₀ + k) = true := ⟨671999 + m₁, hmeet₁⟩
  have hfirst := Nat.find_spec hex
  have hleast : ∀ k, k < Nat.find hex → meets resolve mem b₀ ev (t₀ + k) ≠ true :=
    fun k hk => Nat.find_min hex hk
  have hle : Nat.find hex ≤ 671999 + m₁ := Nat.find_min' hex hmeet₁
  generalize Nat.find hex = k₁ at hfirst hleast hle
  have hsampled : ∀ k, k ≤ 671999 + m₁ → PlayerSprite.SampledAt (1 + k)
      (sampled resolve mem b₀ ev (t₀ + k)) := by
    intro k hk
    obtain ⟨hsteady, hhalf⟩ := steady_run resolve mem
      (h.mono (Nat.le_refl t₀) (show t₀ + k ≤ t₀ + 840000 by omega)) hrest.steady
    rw [hrest.corner, Nat.mod_eq_of_lt (by omega)] at hhalf
    have hat := sampledAt hsteady.beam hsteady.ship
    rw [hhalf] at hat
    exact hat
  have htop := ((PlayerSprite.startDraw_iff (hsampled k₁ hle)).mp hfirst).2.2.1
  unfold lineHalves at htop
  obtain ⟨m, rfl⟩ := Nat.exists_eq_add_of_le (show 671999 ≤ k₁ by omega)
  refine ⟨m, by omega, ?_, hfirst, ?_⟩
  · -- in the second half of a pixel the beam and the ship are where they were
    by_contra hodd
    obtain ⟨l, rfl⟩ := Nat.exists_eq_add_of_le (show 1 ≤ m by omega)
    obtain ⟨hsteady, hhalf⟩ := steady_run resolve mem
      (h.mono (Nat.le_refl t₀) (show t₀ + (671999 + l) ≤ t₀ + 840000 by omega)) hrest.steady
    rw [hrest.corner, Nat.mod_eq_of_lt (by omega)] at hhalf
    obtain ⟨keycode, hrun⟩ := run_noReset resolve mem b₀
      (h.mono (Nat.le_refl t₀) (show t₀ + (671999 + l + 1) ≤ t₀ + 840000 by omega))
    have hhigh : (run (step resolve mem) b₀ ev (t₀ + (671999 + l))).vga.clkdiv ≠ false := by
      rw [Ne, VgaController.clkdiv_eq_false_iff]
      omega
    have hship : (run (step resolve mem) b₀ ev (t₀ + (671999 + l + 1))).player.motion
        = (run (step resolve mem) b₀ ev (t₀ + (671999 + l))).player.motion := by
      rw [hrun, step_motion, risesPixelClk_eq]
      simp [hhigh]
    refine hleast (671999 + l) (by omega) ?_
    have hbefore := hsampled (671999 + l) (by omega)
    have hafter := (PlayerSprite.startDraw_iff (hsampled (671999 + (1 + l)) hle)).mp hfirst
    refine (PlayerSprite.startDraw_iff hbefore).mpr ?_
    have hx : (sampled resolve mem b₀ ev (t₀ + (671999 + (1 + l)))).playerStartX
        = (sampled resolve mem b₀ ev (t₀ + (671999 + l))).playerStartX := by
      rw [show 671999 + (1 + l) = 671999 + l + 1 by omega]
      exact congrArg PlayerMotion.playerStartX hship
    rw [hx] at hafter
    unfold lineHalves at hafter ⊢
    omega
  · intro k
    induction k with
    | zero => exact fun _ => hrest.idle
    | succ k ih =>
      intro hk
      have hnot := hleast k (by omega)
      have hidle := ih (by omega)
      rw [sprite_run resolve mem b₀
        (h.mono (Nat.le_refl t₀) (show t₀ + (k + 1) ≤ t₀ + 840000 by omega)),
        PlayerSprite.clk_state]
      unfold meets at hnot
      simp only [PlayerSprite.nextState, hidle, hnot]
      rfl

/-- **The drawer begins** in line 420 of the frame, and its rows two edges later at
most. -/
theorem exists_begins (hrest : (run (step resolve mem) b₀ ev t₀).AtRest)
    (h : NoReset ev t₀ (t₀ + 840000)) :
    ∃ a u line entry, Begins resolve mem b₀ ev t₀ a u line entry := by
  obtain ⟨m, hm, heven, hmeet, hidle⟩ := first_meeting resolve mem hrest h
  have hat : ∀ k, k < 839999 → (run (step resolve mem) b₀ ev (t₀ + k)).Steady ∧
      (run (step resolve mem) b₀ ev (t₀ + k)).vga.half = 1 + k ∧
      PlayerSprite.SampledAt (1 + k) (sampled resolve mem b₀ ev (t₀ + k)) := by
    intro k hk
    obtain ⟨hsteady, hhalf⟩ := steady_run resolve mem
      (h.mono (Nat.le_refl t₀) (show t₀ + k ≤ t₀ + 840000 by omega)) hrest.steady
    rw [hrest.corner, Nat.mod_eq_of_lt (by omega)] at hhalf
    have hs := sampledAt hsteady.beam hsteady.ship
    rw [hhalf] at hs
    exact ⟨hsteady, hhalf, hs⟩
  have hnext : ∀ k, k < 839999 →
      (run (step resolve mem) b₀ ev (t₀ + (k + 1))).player.sprite
        = (run (step resolve mem) b₀ ev (t₀ + k)).player.sprite.clk mem
            (sampled resolve mem b₀ ev (t₀ + k)) :=
    fun k hk => sprite_run resolve mem b₀ (h.mono (Nat.le_refl t₀) (by omega))
  -- the meeting
  obtain ⟨hsteady, _, hsampled⟩ := hat (671999 + m) (by omega)
  have hrested := hidle (671999 + m) (Nat.le_refl _)
  have hx := hsteady.drawer.xPos_of_idle hrested
  have hb := PlayerSprite.begun_clk mem hsampled hrested hx hmeet
  rw [← hnext (671999 + m) (by omega)] at hb
  -- the edge after it
  obtain ⟨_, hhalf₁, hsampled₁⟩ := hat (671999 + m + 1) (by omega)
  rw [show 1 + (671999 + m) + 1 = 1 + (671999 + m + 1) by omega] at hb
  obtain ⟨hwaits, _, _⟩ := PlayerSprite.begun_next mem hsampled₁ hb
  have hline : (1 + (671999 + m + 1)) / lineHalves = 420 := by
    unfold lineHalves
    omega
  obtain ⟨_, hhalf₂, hsampled₂⟩ := hat (671999 + m + 1 + 1) (by omega)
  obtain ⟨_, hhalf₃, _⟩ := hat (671999 + m + 1 + 1 + 1) (by omega)
  have hrest' : ∀ v, t₀ ≤ v → v < t₀ + (671999 + m + 1) →
      (run (step resolve mem) b₀ ev v).player.sprite.state = .idle := by
    intro v hv hva
    obtain ⟨k, rfl⟩ := Nat.exists_eq_add_of_le hv
    exact hidle k (by omega)
  have hwaits' : (run (step resolve mem) b₀ ev (t₀ + (671999 + m + 1) + 1)).player.sprite.state
      = .awaitPos := by
    rw [Nat.add_assoc, hnext _ (by omega)]
    exact hwaits
  by_cases he : PlayerSprite.EntersAt (1 + (671999 + m + 1) + 1)
      ((run (step resolve mem) b₀ ev (t₀ + (671999 + m + 1))).player.sprite.clk mem
        (sampled resolve mem b₀ ev (t₀ + (671999 + m + 1))))
  · -- the beam is in column 36 when the wait begins
    rw [← hnext _ (by omega)] at he
    obtain ⟨entry, hentry, hn, hrows⟩ := PlayerSprite.rows_of_enters mem hsampled₂ he
    have hcol := he.2.2.2
    have hline₂ : (1 + (671999 + m + 1) + 1) / lineHalves = 420 := by
      unfold lineHalves playerWidth at *
      omega
    rw [← hnext _ (by omega), show 1 + (671999 + m + 1 + 1) + 1 = 1 + (671999 + m + 1 + 1 + 1) by
      omega, ← hhalf₃, show (1 + (671999 + m + 1 + 1)) / lineHalves = 420 from hline₂] at hrows
    refine ⟨t₀ + (671999 + m + 1), t₀ + (671999 + m + 1 + 1 + 1), 420, entry, ?_⟩
    have hcorner : entry = 72 := by
      rw [show (1 + (671999 + m + 1 + 1)) / lineHalves = 420 from hline₂] at hn
      unfold lineHalves playerWidth at *
      omega
    refine ⟨by omega, by omega, hrest', hb.state, by omega, by omega, hwaits', ?_, hrows⟩
    refine Or.inr ⟨hcorner, rfl, ?_⟩
    rw [VgaController.drawX_toNat (hat (671999 + m + 1) (by omega)).1.beam, hhalf₁]
    unfold lineHalves playerWidth at hcol
    omega
  · have hrows := PlayerSprite.rows_of_begun hsampled₁ hb he
    rw [hline, ← hnext _ (by omega),
      show 1 + (671999 + m + 1) + 1 = 1 + (671999 + m + 1 + 1) by omega, ← hhalf₂] at hrows
    exact ⟨t₀ + (671999 + m + 1), t₀ + (671999 + m + 1 + 1), 421, 0, by omega, by omega, hrest',
      hb.state, by omega, by omega, hwaits', Or.inl ⟨rfl, rfl⟩, hrows⟩

end Meeting

end Lab8

end SpaceInvaders
