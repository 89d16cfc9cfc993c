import SpaceInvaders.Enemy.Counters

/-!
# What a pass of a drawer puts out

Two questions about the pass of an invader over its sprite. Its shape: between a
`FIRST_IDLE` and the next, if nothing interrupts it, the drawer is a row scanner
from the first word to the last, so it draws `IMAGE_HEIGHT` rows of 50 words each,
in order, however long it waits between them (`drawsWholePasses`).

And its address: `pos`, which is to be the scanner's address. Edge by edge it is,
from wherever it stood when the pass was entered; but no state on the way into a
pass clears it, `START` being out of reach, so it is the address only in passes
entered with `pos` at 0 (`addressFollows_iff`): the first after a reset, and none
after a hit or after a pass that was completed.
-/

namespace SpaceInvaders

open Clocked (run run_succ Scanner emitted script)

namespace Drawer

section Step

variable {m : DrawerModule} {d : Drawer} {p : DrawerPorts}

/-- Inside a pass `pos` moves as the address does. -/
theorem pos_of_inPass (hin : d.InPass) :
    (d.edge m p).pos = d.pos + if d.scanner.phase = .draw then 1#19 else 0#19 := by
  rw [edge, clk_pos]
  rcases hin with hs | hs | hs <;> simp [scanner, phase, hs]

/-- How far `pos` is ahead of the address. -/
def lead (d : Drawer) : BitVec 19 := d.pos - BitVec.ofNat 19 (d.scanner.address imageWidth)

/-- **Inside a pass `pos` keeps its lead.** -/
theorem lead_step (hfit : m.Fits) (hc : d.Counters m) (hin : d.InPass)
    (hin' : (d.edge m p).InPass) : (d.edge m p).lead = d.lead := by
  have haddr := Scanner.address_step (scanner_step hfit hc hin hin') (hc.inBox hin)
  unfold lead
  rw [haddr, pos_of_inPass hin, BitVec.ofNat_add]
  split_ifs
  · exact add_sub_add_right_eq_sub _ _ _
  · exact add_sub_add_right_eq_sub _ _ _

/-- A pass begins with the first word, and leaves `pos` as it finds it. -/
theorem entered_at (hs : d.state = .firstIdle) (hs' : (d.edge m p).state = .draw) :
    (d.edge m p).scanner = ⟨.draw, 0, 0⟩ ∧ (d.edge m p).pos = d.pos := by
  have hx' : (d.edge m p).enemyX = 0#10 := by rw [edge, clk_enemyX, hs]
  have hy' : (d.edge m p).enemyY = 0#10 := by rw [edge, clk_enemyY, hs]
  refine ⟨?_, by rw [edge, clk_pos, hs]⟩
  unfold scanner
  rw [hs', hx', hy']
  rfl

theorem lead_entered (hs : d.state = .firstIdle) (hs' : (d.edge m p).state = .draw) :
    (d.edge m p).lead = d.pos := by
  obtain ⟨hscan, hpos⟩ := entered_at hs hs'
  unfold lead
  rw [hscan, hpos]
  exact sub_zero _

theorem phase_draw_iff : d.scanner.phase = .draw ↔ d.state = .draw := by
  cases hs : d.state <;> simp [scanner, phase, hs]

/-- The address of a word is inside the sprite memory. -/
theorem address_of_draw (hc : d.Counters m) (hs : d.state = .draw) :
    d.scanner.address imageWidth = imageWidth * d.enemyY.toNat + d.enemyX.toNat ∧
      d.scanner.address imageWidth < imageWidth * m.imageHeight := by
  refine ⟨?_, Scanner.address_lt (hc.inBox (Or.inl hs)) (phase_draw_iff.mpr hs)⟩
  simp only [scanner, phase, hs, Scanner.address]

end Step

variable (m : DrawerModule) (d₀ : Drawer) (inp : Nat → DrawerPorts)

/-! ## The address -/

/-- In `DRAW`, `pos` is the address of the word the counters stand at. -/
def AddressFollows : Prop :=
  ∀ t, (run (edge m) d₀ inp t).state = .draw →
    (run (edge m) d₀ inp t).pos.toNat
        = imageWidth * (run (edge m) d₀ inp t).enemyY.toNat
          + (run (edge m) d₀ inp t).enemyX.toNat ∧
      (run (edge m) d₀ inp t).pos.toNat < imageWidth * m.imageHeight

/-- Every edge from `FIRST_IDLE` to `DRAW` finds `pos` cleared. -/
def EnteredCleared : Prop :=
  ∀ t, (run (edge m) d₀ inp t).state = .firstIdle →
    (run (edge m) d₀ inp (t + 1)).state = .draw → (run (edge m) d₀ inp t).pos = 0#19

variable {m d₀ inp}

/-- With `pos` cleared on the way in, it is ahead by nothing throughout a pass. -/
theorem lead_eq_zero (hfit : m.Fits) (h0 : d₀.state = .beforeGame)
    (hclear : EnteredCleared m d₀ inp) (t : Nat) :
    (run (edge m) d₀ inp (t + 1)).InPass → (run (edge m) d₀ inp (t + 1)).lead = 0#19 := by
  induction t with
  | zero =>
    intro hin'
    have hfrom := entered_from (d := d₀) (by rw [h0]; simp) (by rw [h0]; simp)
      (by simp [InPass, h0]) hin'
    exact absurd (h0.symm.trans hfrom.1) (by simp)
  | succ t ih =>
    intro hin'
    have hc : (run (edge m) d₀ inp (t + 1)).Counters m := counters_run hfit h0 t
    by_cases hin : (run (edge m) d₀ inp (t + 1)).InPass
    · rw [run_succ, lead_step hfit hc hin hin']
      exact ih hin
    · obtain ⟨hs, hs'⟩ := entered_from hc.notIdle hc.notStart hin hin'
      rw [run_succ, lead_entered hs hs']
      exact hclear (t + 1) hs hs'

/-- **When the address follows the counters**: when every pass is entered with
`pos` at 0. -/
theorem addressFollows_iff (hm : m = enemyEasy ∨ m = enemyMedium)
    (h0 : d₀.state = .beforeGame) :
    AddressFollows m d₀ inp ↔ EnteredCleared m d₀ inp := by
  have hfit := fits_of_source hm
  refine ⟨?_, ?_⟩
  · intro hfollows t hs hs'
    obtain ⟨hscan, hpos⟩ := entered_at (p := inp t) hs hs'
    have hpos' := (hfollows (t + 1) hs').1
    have hx' : (run (edge m) d₀ inp (t + 1)).enemyX.toNat = 0 := congrArg Scanner.x hscan
    have hy' : (run (edge m) d₀ inp (t + 1)).enemyY.toNat = 0 := congrArg Scanner.y hscan
    rw [hx', hy', run_succ, hpos] at hpos'
    exact BitVec.eq_of_toNat_eq hpos'
  · intro hclear t hs
    cases t with
    | zero => exact absurd (h0.symm.trans hs) (by simp)
    | succ t =>
      obtain ⟨haddr, hlt⟩ := address_of_draw (counters_run hfit h0 t) hs
      have hlead := lead_eq_zero hfit h0 hclear t (Or.inl hs)
      have hsize : imageWidth * m.imageHeight ≤ 50 * 50 := Nat.mul_le_mul_left 50 hfit.2
      have hpos : (run (edge m) d₀ inp (t + 1)).pos.toNat
          = (run (edge m) d₀ inp (t + 1)).scanner.address imageWidth := by
        rw [sub_eq_zero.mp hlead, BitVec.toNat_ofNat]
        omega
      rw [hpos]
      exact ⟨haddr, hlt⟩

/-- The scan goes along with an invader for two rows, until a reset. -/
def inStep (t : Nat) : DrawerPorts :=
  { DrawerIn.low with
    start := t = 0, reset := 56 < t
    drawX := 147#10 - BitVec.ofNat 10 t, drawY := if t < 54 then 0 else 1
    enemyInitialX := 146, enemyInitialY := 0 }

theorem inStep_reset {t : Nat} (h : 57 ≤ t) :
    (run (edge enemyEasy) powerUp inStep (t + 1)).state = .beforeGame :=
  (clk_state ..).trans (stateNext_reset (decide_eq_true h))

theorem inStep_addressFollows : AddressFollows enemyEasy powerUp inStep := by
  refine (addressFollows_iff (Or.inl rfl) rfl).mpr fun t hs hs' => ?_
  rcases Nat.lt_or_ge t 57 with hlt | hge
  · have hall : ∀ t < 57, (run (edge enemyEasy) powerUp inStep t).state = .firstIdle →
        (run (edge enemyEasy) powerUp inStep t).pos = 0#19 := by
      decide +kernel
    exact hall t hlt hs
  · exact absurd ((inStep_reset hge).symm.trans hs') (by simp)

/-- The third invader of the first row: started, found, hit at its second word,
started again and found again. -/
def restarted : Nat → DrawerPorts :=
  let at146 (i : DrawerIn) : DrawerPorts :=
    { i with enemyInitialX := 146#10, enemyInitialY := 0#10 }
  script
    [at146 { DrawerIn.low with start := true }, at146 { DrawerIn.low with drawX := 146#10 },
      at146 .low, at146 { DrawerIn.low with hit := true },
      at146 { DrawerIn.low with start := true }, at146 { DrawerIn.low with drawX := 144#10 }]
    (at146 .low)

/-- The second pass begins at address 2. -/
theorem restarted_address_off : ¬ AddressFollows enemyEasy powerUp restarted := by
  intro h
  exact absurd (h 6 (by decide)).1 (by decide)

/-! ## The shape of a pass -/

variable (m d₀ inp)

/-- The segment from edge `a` to edge `b` enters `DRAW` from `FIRST_IDLE` and ends
back in `FIRST_IDLE`, with no `FINISHED` or `BEFORE_GAME` in between. -/
structure CompletePass (a b : Nat) : Prop where
  leaves : (run (edge m) d₀ inp a).state = .firstIdle
  enters : (run (edge m) d₀ inp (a + 1)).state = .draw
  lt : a + 1 < b
  inside : ∀ v, a < v → v < b → (run (edge m) d₀ inp v).state ≠ .firstIdle ∧
    (run (edge m) d₀ inp v).state ≠ .finished ∧
    (run (edge m) d₀ inp v).state ≠ .beforeGame
  returns : (run (edge m) d₀ inp b).state = .firstIdle

/-- The counters of the `DRAW` cycles from `a` to `b`, in order, as pairs of
`enemy_y` and `enemy_x`. -/
def drawn (a b : Nat) : List (Nat × Nat) :=
  emitted (fun v => (run (edge m) d₀ inp v).state == .draw)
    (fun v => ((run (edge m) d₀ inp v).enemyY.toNat, (run (edge m) d₀ inp v).enemyX.toNat))
    a b

/-- The pass draws the rows of the sprite, each in consecutive cycles. -/
structure SpriteShaped (a b : Nat) : Prop where
  rows : drawn m d₀ inp (a + 1) b = Scanner.rowMajor imageWidth m.imageHeight
  consecutive : ∀ v, a < v → v < b → (run (edge m) d₀ inp v).state = .draw →
    ((run (edge m) d₀ inp (v + 1)).state = .draw ↔
      (run (edge m) d₀ inp v).enemyX.toNat + 1 ≠ imageWidth)
  advance : (run (edge m) d₀ inp b).pos
    = (run (edge m) d₀ inp a).pos + BitVec.ofNat 19 (imageWidth * m.imageHeight)

/-- The counters stay inside the sprite, and every completed pass has its shape. -/
structure DrawsWholePasses : Prop where
  bounds : ∀ t, (run (edge m) d₀ inp (t + 1)).enemyX.toNat ≤ imageWidth ∧
    (run (edge m) d₀ inp (t + 1)).enemyY.toNat ≤ m.imageHeight - 1 ∧
    ((run (edge m) d₀ inp (t + 1)).state = .draw →
      (run (edge m) d₀ inp (t + 1)).enemyX.toNat ≤ imageWidth - 1)
  shape : ∀ a b, CompletePass m d₀ inp a b → SpriteShaped m d₀ inp a b

variable {m d₀ inp}

section Pass

variable {a b : Nat}

theorem counters_of_lt (hfit : m.Fits) (h0 : d₀.state = .beforeGame)
    {v : Nat} (hav : a < v) :
    (run (edge m) d₀ inp v).Counters m := by
  cases v with
  | zero => omega
  | succ v => exact counters_run hfit h0 v

theorem CompletePass.inPass (hfit : m.Fits) (h0 : d₀.state = .beforeGame)
    (h : CompletePass m d₀ inp a b) {v : Nat} (hav : a < v)
    (hvb : v < b) : (run (edge m) d₀ inp v).InPass := by
  have hc : (run (edge m) d₀ inp v).Counters m := counters_of_lt hfit h0 hav
  obtain ⟨hfirst, hfinished, hbefore⟩ := h.inside v hav hvb
  unfold InPass
  cases hs : (run (edge m) d₀ inp v).state with
  | idle => exact absurd hs hc.notIdle
  | start => exact absurd hs hc.notStart
  | firstIdle => exact absurd hs hfirst
  | finished => exact absurd hs hfinished
  | beforeGame => exact absurd hs hbefore
  | draw => simp
  | nextLine => simp
  | awaitPos => simp

/-- What leaves a pass for `FIRST_IDLE` is the last word of it. -/
theorem final_of_firstIdle {d : Drawer} {p : DrawerPorts} (hc : d.Counters m)
    (hin : d.InPass) (hs' : (d.edge m p).state = .firstIdle) :
    d.state = .draw ∧ d.scanner.Final imageWidth m.imageHeight := by
  have hcase := edge_case hs' (by simp) (by simp)
  rcases hin with hs | hs | hs
  · rw [caseNext_draw hs hc.y_lt] at hcase
    split_ifs at hcase with hword hrow
    exact ⟨hs, phase_draw_iff.mpr hs, not_not.mp hword, not_not.mp hrow⟩
  · simp only [caseNext, hs] at hcase
    cases hcase
  · simp only [caseNext, hs] at hcase
    split_ifs at hcase

/-- **A completed pass is a pass of the row scanner.** -/
theorem CompletePass.scannerPass (hfit : m.Fits) (h0 : d₀.state = .beforeGame)
    (h : CompletePass m d₀ inp a b) :
    Scanner.Pass imageWidth m.imageHeight (fun v => (run (edge m) d₀ inp v).scanner)
      (a + 1) b where
  lt := h.lt
  inBox := (counters_of_lt hfit h0 (Nat.lt_succ_self a)).inBox (Or.inl h.enters)
  first := by
    obtain ⟨hscan, _⟩ := entered_at (p := inp a) h.leaves h.enters
    show (((run (edge m) d₀ inp a).edge m (inp a)).scanner).address imageWidth = 0
    rw [hscan]
    rfl
  step := by
    intro v hav hvb
    exact scanner_step hfit (counters_of_lt hfit h0 hav)
      (h.inPass hfit h0 hav (by omega)) (h.inPass hfit h0 (v := v + 1) (by omega) hvb)
  last := by
    have hlt := h.lt
    have hreturns := h.returns
    rw [show b = (b - 1) + 1 by omega, run_succ] at hreturns
    have hprev : a < b - 1 := by omega
    exact (final_of_firstIdle (counters_of_lt hfit h0 hprev)
      (h.inPass hfit h0 hprev (by omega)) hreturns).2

/-- The lead of `pos` is what it was at the way in. -/
theorem CompletePass.lead_eq (hfit : m.Fits) (h0 : d₀.state = .beforeGame)
    (h : CompletePass m d₀ inp a b) {v : Nat}
    (hav : a + 1 ≤ v) (hvb : v < b) :
    (run (edge m) d₀ inp v).lead = (run (edge m) d₀ inp a).pos := by
  induction hav with
  | refl => exact lead_entered (p := inp a) h.leaves h.enters
  | @step v hle ih =>
    have hav : a < v := hle
    have hvb' : v < b := by omega
    rw [← ih hvb']
    exact lead_step hfit (counters_of_lt hfit h0 hav)
      (h.inPass hfit h0 hav hvb') (h.inPass hfit h0 (v := v + 1) (by omega) hvb)

theorem drawsAt_eq :
    Scanner.drawsAt (fun v => (run (edge m) d₀ inp v).scanner)
      = fun v => (run (edge m) d₀ inp v).state == .draw :=
  Scanner.drawsAt_eq_of fun _ => phase_draw_iff

/-- The pass draws the sprite row by row. -/
theorem CompletePass.rows (hfit : m.Fits) (h0 : d₀.state = .beforeGame)
    (h : CompletePass m d₀ inp a b) :
    drawn m d₀ inp (a + 1) b = Scanner.rowMajor imageWidth m.imageHeight := by
  unfold drawn
  rw [← drawsAt_eq]
  exact (h.scannerPass hfit h0).pixels (by decide)

/-- A row is drawn without a break, and ends with its fiftieth word. -/
theorem CompletePass.consecutive (hfit : m.Fits) (h0 : d₀.state = .beforeGame)
    (h : CompletePass m d₀ inp a b) {v : Nat} (hav : a < v) (hvb : v < b)
    (hs : (run (edge m) d₀ inp v).state = .draw) :
    (run (edge m) d₀ inp (v + 1)).state = .draw ↔
      (run (edge m) d₀ inp v).enemyX.toNat + 1 ≠ imageWidth := by
  refine ⟨?_, ?_⟩
  · intro hs' hx
    have hcase := edge_case (p := inp v) hs' (by simp) (by simp)
    rw [caseNext_draw hs (counters_of_lt hfit h0 hav).y_lt] at hcase
    split_ifs at hcase with hword
    exact absurd hx hword
  · intro hx
    have hword := (h.scannerPass hfit h0).consecutive (v := v) hav hvb
      (phase_draw_iff.mpr hs) hx
    exact phase_draw_iff.mp hword.2

/-- Over the pass `pos` advances by the size of the sprite. -/
theorem CompletePass.advance (hfit : m.Fits) (h0 : d₀.state = .beforeGame)
    (h : CompletePass m d₀ inp a b) :
    (run (edge m) d₀ inp b).pos
      = (run (edge m) d₀ inp a).pos + BitVec.ofNat 19 (imageWidth * m.imageHeight) := by
  have hlt := h.lt
  have hpass := h.scannerPass hfit h0
  have hlead := h.lead_eq hfit h0 (v := b - 1) (by omega) (by omega)
  have hfinal := Scanner.address_final hpass.last
  have hpos := pos_of_inPass (m := m) (p := inp (b - 1))
    (h.inPass hfit h0 (v := b - 1) (by omega) (by omega))
  rw [if_pos hpass.last.1] at hpos
  calc (run (edge m) d₀ inp b).pos
      = (run (edge m) d₀ inp (b - 1 + 1)).pos := by rw [show b - 1 + 1 = b by omega]
    _ = (run (edge m) d₀ inp (b - 1)).pos + 1#19 := hpos
    _ = (run (edge m) d₀ inp a).pos + BitVec.ofNat 19
          ((run (edge m) d₀ inp (b - 1)).scanner.address imageWidth) + 1#19 := by
        rw [← hlead, lead, sub_add_cancel]
    _ = _ := by rw [add_assoc, ← BitVec.ofNat_add, hfinal]

end Pass

/-- The counters in every state after the first edge. -/
theorem bounds_run (hfit : m.Fits) (h0 : d₀.state = .beforeGame) (t : Nat) :
    (run (edge m) d₀ inp (t + 1)).enemyX.toNat ≤ imageWidth ∧
      (run (edge m) d₀ inp (t + 1)).enemyY.toNat ≤ m.imageHeight - 1 ∧
      ((run (edge m) d₀ inp (t + 1)).state = .draw →
        (run (edge m) d₀ inp (t + 1)).enemyX.toNat ≤ imageWidth - 1) := by
  have hc : (run (edge m) d₀ inp (t + 1)).Counters m := counters_run hfit h0 t
  refine ⟨hc.x_le, Nat.le_sub_one_of_lt hc.y_lt, fun hs => ?_⟩
  have hbox := (hc.inBox (Or.inl hs)).2
  rw [phase_draw_iff.mpr hs] at hbox
  exact Nat.le_sub_one_of_lt hbox

/-- **Every completed pass has exactly the sprite's shape.** -/
theorem drawsWholePasses (hm : m = enemyEasy ∨ m = enemyMedium)
    (h0 : d₀.state = .beforeGame) : DrawsWholePasses m d₀ inp := by
  have hfit := fits_of_source hm
  refine ⟨fun t => bounds_run hfit h0 t, fun a b h => ?_⟩
  refine ⟨h.rows hfit h0, fun v hav hvb hs => ?_, h.advance hfit h0⟩
  exact h.consecutive hfit h0 hav hvb hs

end Drawer

end SpaceInvaders
