import SpaceInvaders.Background.Drawer
import SpaceInvaders.Clocked.Streamer

/-!
# What the background covers

The drawer is a streamer over a picture of 128 by 480 words (`view_step`), so every
pass without a reset goes through the addresses 0 to 61439, a fifth of the memory
(`BackgroundPass.visited_eq`). Where the picture of 640 by 480 is wanted instead,
the address is right in the first row, which starts at 0 whatever the width, and
wrong from the second row on: `coversPicture_iff`.
-/

namespace SpaceInvaders

open Clocked (run run_succ Scanner Streamer StreamPhase Streams StreamPass emitted)

namespace Background

def phase : BackgroundState → StreamPhase
  | .start => .clear
  | .awaitPos => .scan .await
  | .draw => .scan .draw
  | .nextLine => .scan .next
  | _ => .rest

/-- The drawer as a streamer. -/
def view (s : Background) : Streamer :=
  { phase := phase s.state, x := s.enemyX.toNat, y := s.enemyY.toNat,
    address := s.pos.toNat }

section Step

variable {s : Background} {i : BackgroundIn}

theorem phase_draw_iff : s.view.phase = .scan .draw ↔ s.state = .draw := by
  cases hs : s.state <;> simp [view, phase, hs]

/-- **Without a reset every edge is a step of the streamer.** -/
theorem view_step (hr : i.reset = false) (ha : s.view.Aligned imageWidth imageHeight) :
    Streamer.Step imageWidth imageHeight s.view (s.clk i).view := by
  have hx := clk_enemyX s i hr
  have hy := clk_enemyY s i hr
  have hp := clk_pos s i hr
  -- the registers are wide enough
  have hcolumns : imageWidth < 2 ^ 10 := by decide
  have hrows : imageHeight ≤ 2 ^ 10 := by decide
  have hwords : imageWidth * imageHeight < 2 ^ 19 := by decide
  have hphase : s.view.phase = phase s.state := rfl
  have hphase' : (s.clk i).view.phase = phase (s.stateNext i) :=
    congrArg phase (clk_state s i hr)
  cases hs : s.state with
  | idle =>
    simp only [stateNext, hs] at hphase hphase'
    split_ifs at hphase'
    · exact .start hphase hphase'
    · exact .stay hphase hphase'
  | start =>
    simp only [stateNext, hs] at hy hp hphase hphase'
    exact .clear hphase hphase' (congrArg BitVec.toNat hy) (congrArg BitVec.toNat hp)
  | awaitPos =>
    simp only [stateNext, hs] at hx hy hp hphase hphase'
    refine Streamer.step_await hphase ?_ (congrArg BitVec.toNat hx)
      (congrArg BitVec.toNat hy) (congrArg BitVec.toNat hp)
    split_ifs at hphase'
    · exact Or.inr hphase'
    · exact Or.inl hphase'
  | draw =>
    rw [stateNext_draw hs, apply_ite phase, apply_ite phase] at hphase'
    simp only [hs] at hx hy hp hphase
    refine Streamer.step_draw hphase ha hcolumns hwords hphase' ?_ (congrArg BitVec.toNat hy)
      ?_
    · exact (congrArg BitVec.toNat hx).trans (BitVec.toNat_add ..)
    · exact (congrArg BitVec.toNat hp).trans (BitVec.toNat_add ..)
  | nextLine =>
    simp only [stateNext, hs] at hx hy hp hphase hphase'
    refine Streamer.step_next hphase ha hrows hphase' (congrArg BitVec.toNat hx) ?_
      (congrArg BitVec.toNat hp)
    exact (congrArg BitVec.toNat hy).trans (BitVec.toNat_add ..)
  | beforeGameStart =>
    simp only [stateNext, hs] at hphase hphase'
    refine .stay hphase ?_
    split_ifs at hphase'
    · exact hphase'
    · exact hphase'
  | finished =>
    simp only [stateNext, hs] at hphase hphase'
    refine .stay hphase ?_
    split_ifs at hphase'
    · exact hphase'
    · exact hphase'

end Step

/-! ## Runs -/

variable (s₀ : Background) (inp : Nat → BackgroundIn)

/-- The segment from edge `a` to edge `b` goes from `START` back to `IDLE` without a
reset. -/
structure BackgroundPass (a b : Nat) : Prop where
  starts : (run clk s₀ inp a).state = .start
  lt : a < b
  inside : ∀ v, a ≤ v → v < b →
    (inp v).reset = false ∧ (run clk s₀ inp v).state ≠ .idle
  ends : (run clk s₀ inp b).state = .idle

/-- The addresses of the `DRAW` cycles from `a` to `b`, in order. -/
def visited (a b : Nat) : List Nat :=
  emitted (fun v => (run clk s₀ inp v).state == .draw)
    (fun v => (run clk s₀ inp v).pos.toNat) a b

/-- The counters of the `DRAW` cycles from `a` to `b`, in order. -/
def drawn (a b : Nat) : List (Nat × Nat) :=
  emitted (fun v => (run clk s₀ inp v).state == .draw)
    (fun v => ((run clk s₀ inp v).enemyY.toNat, (run clk s₀ inp v).enemyX.toNat)) a b

/-- The drawer covers the picture of 640 by 480. -/
structure CoversPicture : Prop where
  addressed : ∀ t, (run clk s₀ inp t).state = .draw →
    (run clk s₀ inp t).pos.toNat
      = 640 * (run clk s₀ inp t).enemyY.toNat + (run clk s₀ inp t).enemyX.toNat
  passes : ∀ a b, BackgroundPass s₀ inp a b → visited s₀ inp a b = List.range 307200
  rows : ∀ a b, BackgroundPass s₀ inp a b → drawn s₀ inp a b = Scanner.rowMajor 640 480
  consecutive : ∀ a b, BackgroundPass s₀ inp a b → ∀ v, a ≤ v → v < b →
    (run clk s₀ inp v).state = .draw →
    ((run clk s₀ inp (v + 1)).state = .draw ↔ (run clk s₀ inp v).enemyX.toNat + 1 ≠ 640)

/-- Edge `t` enters a row below the first. -/
def EntersLowerRow (t : Nat) : Prop :=
  (run clk s₀ inp t).state = .awaitPos ∧ (run clk s₀ inp t).enemyY ≠ 0#10 ∧
    (inp t).drawX = (run clk s₀ inp t).enemyX ∧ (inp t).reset = false

variable {s₀ inp}

theorem view_streams (h0 : s₀.state = .idle) :
    Streams imageWidth imageHeight (fun t => (run clk s₀ inp t).view)
      (fun t => (inp t).reset = true) where
  width := by decide
  height := by decide
  init := congrArg phase h0
  step := by
    intro t hr ha
    rw [run_succ]
    exact view_step (Bool.eq_false_iff.mpr hr) ha
  toRest := by
    intro t hr
    rw [run_succ]
    exact congrArg phase (clk_reset _ _ hr)

/-- In `DRAW` the address is that of a picture 128 wide. -/
theorem pos_of_draw (h0 : s₀.state = .idle) {t : Nat}
    (hs : (run clk s₀ inp t).state = .draw) :
    (run clk s₀ inp t).pos.toNat
        = 128 * (run clk s₀ inp t).enemyY.toNat + (run clk s₀ inp t).enemyX.toNat ∧
      (run clk s₀ inp t).enemyX.toNat < 128 := by
  have ha : (run clk s₀ inp t).view.Aligned imageWidth imageHeight := (view_streams h0).aligned t
  obtain ⟨hbox, haddr⟩ := ha _ (phase_draw_iff.mpr hs)
  simp only [Streamer.scanner, view, phase, hs, Scanner.InBox, Scanner.address,
    imageWidth_eq] at hbox haddr
  exact ⟨haddr, hbox.2⟩

variable (inp) in
/-- `BEFORE_GAME_START` and `FINISHED` are never reached from `IDLE`. -/
theorem state_run (h0 : s₀.state = .idle) (t : Nat) :
    (run clk s₀ inp t).state ≠ .beforeGameStart ∧ (run clk s₀ inp t).state ≠ .finished := by
  refine Clocked.run_inv (fun s : Background => s.state ≠ .beforeGameStart ∧
    s.state ≠ .finished) ?_ ?_ t
  · rw [h0]
    simp
  · intro s i h
    cases hr : i.reset with
    | true =>
      rw [clk_reset s i hr]
      simp
    | false =>
      rw [clk_state s i hr]
      cases hs : s.state with
      | beforeGameStart => exact absurd hs h.1
      | finished => exact absurd hs h.2
      | draw =>
        rw [stateNext_draw hs]
        split_ifs <;> simp
      | _ =>
        simp only [stateNext, hs]
        first
          | split_ifs <;> simp
          | simp

section Pass

variable {a b : Nat}

/-- A pass of the drawer is one of the streamer. -/
theorem BackgroundPass.streamPass (h0 : s₀.state = .idle) (h : BackgroundPass s₀ inp a b) :
    StreamPass (fun t => (run clk s₀ inp t).view) (fun t => (inp t).reset = true) a b where
  starts := congrArg phase h.starts
  lt := h.lt
  inside := by
    intro v hav hvb
    obtain ⟨hr, hidle⟩ := h.inside v hav hvb
    obtain ⟨hbefore, hfinished⟩ := state_run inp h0 v
    refine ⟨by simp [hr], fun hrest => ?_⟩
    simp only [view] at hrest
    cases hs : (run clk s₀ inp v).state with
    | idle => exact hidle hs
    | beforeGameStart => exact hbefore hs
    | finished => exact hfinished hs
    | start => simp [phase, hs] at hrest
    | awaitPos => simp [phase, hs] at hrest
    | draw => simp [phase, hs] at hrest
    | nextLine => simp [phase, hs] at hrest
  ends := congrArg phase h.ends

variable (s₀ inp) in
theorem drawsAt_eq :
    Scanner.drawsAt (fun v => (run clk s₀ inp v).view.scanner)
      = fun v => (run clk s₀ inp v).state == .draw :=
  Scanner.drawsAt_eq_of fun _ => Streamer.scanner_draw_iff.trans phase_draw_iff

/-- **What a pass visits**: 128 by 480 words, each once and in order. -/
theorem BackgroundPass.visited_eq (h0 : s₀.state = .idle) (h : BackgroundPass s₀ inp a b) :
    visited s₀ inp a b = List.range 61440 := by
  have hpass := (h.streamPass h0).scannerPass (view_streams h0)
  have hskip : ((run clk s₀ inp a).state == .draw) = false := by rw [h.starts]; rfl
  unfold visited
  -- the `START` cycle itself draws nothing
  rw [Clocked.emitted_skip _ _ h.lt hskip, ← drawsAt_eq,
    show 61440 = imageWidth * imageHeight from rfl, ← hpass.addresses (by decide)]
  refine (Clocked.emitted_eq_map id fun v hav hvb hdraw => ?_).trans (List.map_id _)
  rw [drawsAt_eq] at hdraw
  have hs : (run clk s₀ inp v).state = .draw := by simpa using hdraw
  exact ((view_streams h0).aligned v _ (phase_draw_iff.mpr hs)).2

/-- A pass ends in row 479. -/
theorem BackgroundPass.lastRow (h0 : s₀.state = .idle) (h : BackgroundPass s₀ inp a b) :
    (run clk s₀ inp (b - 1)).state = .draw ∧
      (run clk s₀ inp (b - 1)).enemyY.toNat = 479 := by
  have hlast := ((h.streamPass h0).scannerPass (view_streams h0)).last
  have hdraw := congrFun (drawsAt_eq s₀ inp) (b - 1)
  rw [Scanner.drawsAt, hlast.1] at hdraw
  have hrow : (run clk s₀ inp (b - 1)).enemyY.toNat + 1 = 480 := hlast.2.2
  exact ⟨by simpa using hdraw.symm, by omega⟩

end Pass

/-- Until a lower row is entered, `DRAW` is in the first. -/
theorem firstRow (h0 : s₀.state = .idle) (h : ∀ t, ¬ EntersLowerRow s₀ inp t) (t : Nat) :
    (run clk s₀ inp t).state = .draw → (run clk s₀ inp t).enemyY = 0#10 := by
  induction t with
  | zero =>
    intro hs
    exact absurd (h0.symm.trans hs) (by simp)
  | succ t ih =>
    rw [run_succ]
    intro hs'
    have hr : (inp t).reset = false := by
      cases hr : (inp t).reset with
      | false => rfl
      | true =>
        rw [clk_reset _ _ hr] at hs'
        cases hs'
    rw [clk_state _ _ hr] at hs'
    rw [clk_enemyY _ _ hr]
    cases hs : (run clk s₀ inp t).state with
    | draw => exact ih hs
    | awaitPos =>
      simp only [stateNext, hs] at hs'
      split_ifs at hs' with hx
      by_contra hy
      exact h t ⟨hs, hy, hx.symm, hr⟩
    | idle => simp only [stateNext, hs] at hs'; split_ifs at hs'
    | start => simp only [stateNext, hs] at hs'; cases hs'
    | nextLine => simp only [stateNext, hs] at hs'; cases hs'
    | beforeGameStart => simp only [stateNext, hs] at hs'; split_ifs at hs'
    | finished => simp only [stateNext, hs] at hs'; split_ifs at hs'

/-- **When the drawer covers the picture**: when it never gets to the second row. -/
theorem coversPicture_iff (h0 : s₀.state = .idle) :
    CoversPicture s₀ inp ↔ ∀ t, ¬ EntersLowerRow s₀ inp t := by
  refine ⟨?_, ?_⟩
  · intro hcovers t henters
    obtain ⟨hs, hy, hx, hr⟩ := henters
    have hs' : (run clk s₀ inp (t + 1)).state = .draw := by
      rw [run_succ, clk_state _ _ hr]
      simp only [stateNext, hs, hx, if_true]
    have hy' : (run clk s₀ inp (t + 1)).enemyY = (run clk s₀ inp t).enemyY := by
      rw [run_succ, clk_enemyY _ _ hr, hs]
    -- two widths agree on the address in the first row only
    have h640 := hcovers.addressed (t + 1) hs'
    obtain ⟨h128, -⟩ := pos_of_draw h0 hs'
    rw [hy'] at h640 h128
    have hzero : (run clk s₀ inp t).enemyY.toNat = 0 := by omega
    exact hy (BitVec.eq_of_toNat_eq hzero)
  · intro hnever
    have hnone : ∀ a b, ¬ BackgroundPass s₀ inp a b := by
      intro a b h
      obtain ⟨hs, hy⟩ := h.lastRow h0
      rw [firstRow h0 hnever _ hs] at hy
      exact absurd hy (by decide)
    refine ⟨?_, ?_, ?_, ?_⟩
    · intro t hs
      obtain ⟨h128, -⟩ := pos_of_draw h0 hs
      rw [firstRow h0 hnever t hs] at h128 ⊢
      exact h128
    · intro a b h
      exact absurd h (hnone a b)
    · intro a b h
      exact absurd h (hnone a b)
    · intro a b h
      exact absurd h (hnone a b)

/-- A game on, and the scan at the left border. -/
def leftBorder : Nat → BackgroundIn := fun _ =>
  { reset := false, isPlaying := true, drawX := 0, start := false }

theorem leftBorder_coversPicture_iff :
    CoversPicture powerUp leftBorder ↔ ∀ t, ¬ EntersLowerRow powerUp leftBorder t :=
  coversPicture_iff rfl

/-- The second row begins at address 128. -/
theorem leftBorder_not_covered : ¬ CoversPicture powerUp leftBorder := by
  intro h
  exact absurd (h.addressed 134 (by decide +kernel)) (by decide +kernel)

end Background

end SpaceInvaders
