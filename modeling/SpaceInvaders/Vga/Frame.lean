import SpaceInvaders.Vga.Controller

/-!
# The controller finds its frame

Without a reset the controller needs no reset: whatever its registers hold, after
399424 pixel clocks the beam is inside the frame, and one pixel clock later the sync
outputs are those of the frame (`run_timing`). From then on frame follows frame, and
each delivers the 640 by 480 visible pixels once, row by row (`run_frames`).

The vertical pulse is two lines long, but it belongs to lines 489 and 490, not to
lines 490 and 491 as the source's comment has it: the process compares `vc + 1`, like
the horizontal one, where the register's delay is a pixel and not a line.
-/

namespace SpaceInvaders

open Clocked (run run_succ emitted)

namespace VgaController

/-- The sync outputs are those of the beam's place. -/
structure Timing (v : VgaController) : Prop where
  inFrame : v.InFrame
  hsync : v.hs = false ↔ 656 ≤ v.hc.toNat ∧ v.hc.toNat < 752
  vsync : v.vs = false ↔
    800 * 489 + 1 ≤ v.cascade.place 800 ∧ v.cascade.place 800 < 800 * 491 + 1

/-- The next edge raises `pixel_clk` on a visible pixel. -/
def delivers (v : VgaController) : Bool := !v.clkdiv && v.blank

/-- The beam is in the upper left corner, and `pixel_clk` about to rise. -/
def AtCorner (v : VgaController) : Prop := v.clkdiv = false ∧ v.hc = 0#10 ∧ v.vc = 0#10

/-! ## One edge -/

section Step

variable {v : VgaController}

/-- The first pixel clock inside the frame sets the sync outputs. -/
theorem timing_pixel (h : v.InFrame) : v.pixel.Timing := by
  have hplace := Clocked.Cascade.place_next (X := 2 ^ 10) (Y := 2 ^ 10) (by decide)
    (by decide) h
  have hlt := Clocked.Cascade.place_lt h
  have hcol : v.pixel.hc.toNat = Clocked.count 800 (2 ^ 10) v.hc.toNat :=
    congrArg Clocked.Cascade.col (cascade_pixel v)
  rw [Clocked.count_of_lt (by decide) (show v.hc.toNat < 800 from h.1)] at hcol
  refine ⟨?_, ?_, ?_⟩
  · show v.pixel.cascade.Settled 800 525
    rw [cascade_pixel]
    exact Clocked.Cascade.settled_next (by decide) (by decide) h
  · have hin : v.hc.toNat < 800 := h.1
    rw [hcol]
    simp only [pixel, ite_eq_left_iff, Bool.true_eq_false, imp_false, not_not]
    omega
  · rw [cascade_pixel, hplace]
    have hcol : v.hc.toNat < 800 := h.1
    have hrow : v.vc.toNat < 525 := h.2
    have hdef : v.cascade.place 800 = 800 * v.vc.toNat + v.hc.toNat := rfl
    simp only [pixel, ite_eq_left_iff, Bool.true_eq_false, imp_false, not_not]
    omega

theorem timing_clk (h : v.Timing) : (v.clk false).Timing := by
  cases hdiv : v.clkdiv with
  | true =>
    rw [show v.clk false = { v with clkdiv := false } by simp [clk, hdiv]]
    exact ⟨h.inFrame, h.hsync, h.vsync⟩
  | false =>
    rw [show v.clk false = { v.pixel with clkdiv := true } by simp [clk, hdiv]]
    obtain ⟨hin, hhs, hvs⟩ := timing_pixel h.inFrame
    exact ⟨hin, hhs, hvs⟩

/-- The pixels between the blanking intervals. -/
theorem blank_iff : v.blank = true ↔ v.hc.toNat < 640 ∧ v.vc.toNat < 480 := by
  simp only [blank, display, ite_eq_right_iff, Bool.false_eq_true, imp_false]
  omega

theorem atCorner_iff (h : v.InFrame) : v.AtCorner ↔ v.half = 1 := by
  have hplace : v.cascade.place 800 = 800 * v.vc.toNat + v.hc.toNat := rfl
  have hdiv : v.clkdiv = false ↔ v.half % 2 = 1 := clkdiv_eq_false_iff
  have hhalf := half_lt h
  have hdef : v.half = 2 * v.cascade.place 800 + if v.clkdiv then 0 else 1 := rfl
  unfold AtCorner
  rw [hdiv, ← BitVec.toNat_inj, ← BitVec.toNat_inj]
  show _ ∧ v.hc.toNat = 0 ∧ v.vc.toNat = 0 ↔ _
  split_ifs at hdef
  · omega
  · omega

end Step

/-! ## Runs without a reset -/

/-- From edge `a` up to edge `t` there is no reset. -/
def Quiet (ev : Nat → VgaEdge) (a t : Nat) : Prop :=
  ∀ u, a ≤ u → u < t → ev u = .clk false

section Run

variable {v₀ : VgaController} {ev : Nat → VgaEdge} {a t n : Nat}

theorem Quiet.mono {b c : Nat} (h : Quiet ev a t) (hab : a ≤ b) (hct : c ≤ t) :
    Quiet ev b c :=
  fun u hbu huc => h u (hab.trans hbu) (huc.trans_le hct)

theorem run_quiet (h : Quiet ev a (a + n + 1)) :
    run step v₀ ev (a + n + 1) = (run step v₀ ev (a + n)).clk false := by
  rw [run_succ, h (a + n) (by omega) (by omega)]
  rfl

/-- Every second edge is a pixel clock. -/
theorem cascade_run (h : Quiet ev a (a + n)) :
    (run step v₀ ev (a + n)).cascade
        = Nat.iterate (Clocked.Cascade.next 800 525 (2 ^ 10) (2 ^ 10))
            ((n + if (run step v₀ ev a).clkdiv then 0 else 1) / 2)
            (run step v₀ ev a).cascade ∧
      ((run step v₀ ev (a + n)).clkdiv = false ↔
        (n + if (run step v₀ ev a).clkdiv then 0 else 1) % 2 = 1) := by
  generalize hb : (if (run step v₀ ev a).clkdiv then 0 else 1) = b
  induction n with
  | zero =>
    rw [← hb]
    cases (run step v₀ ev a).clkdiv <;> simp
  | succ n ih =>
    obtain ⟨hcascade, hdiv⟩ := ih (h.mono (Nat.le_refl a) (by omega))
    rw [← Nat.add_assoc, run_quiet h, cascade_clk, clk_clkdiv, hcascade]
    cases hd : (run step v₀ ev (a + n)).clkdiv with
    | true =>
      have heven : (n + b) % 2 ≠ 1 := fun hodd => by simp [hd] at hdiv; omega
      rw [if_pos rfl, show (n + 1 + b) / 2 = (n + b) / 2 by omega]
      simp only [Bool.not_true, Bool.and_false, true_iff]
      exact ⟨trivial, by omega⟩
    | false =>
      have hodd : (n + b) % 2 = 1 := hdiv.mp hd
      rw [if_neg (by simp), show (n + 1 + b) / 2 = (n + b) / 2 + 1 by omega,
        Function.iterate_succ_apply']
      simp only [Bool.not_false, Bool.and_self, Bool.true_eq_false, false_iff]
      exact ⟨trivial, by omega⟩

/-- Where the registers end up, whatever they held. -/
theorem inFrame_run (h : Quiet ev a (a + n)) (hn : 798848 ≤ n) :
    (run step v₀ ev (a + n)).InFrame := by
  unfold InFrame
  rw [(cascade_run h).1]
  exact Clocked.Cascade.settled_iterate (BitVec.isLt _) (BitVec.isLt _) (by decide)
    (by decide) (by decide) (by decide) (by omega)

theorem inFrame_keep (h : Quiet ev a (a + n)) (hin : (run step v₀ ev a).InFrame) :
    (run step v₀ ev (a + n)).InFrame := by
  induction n with
  | zero => exact hin
  | succ n ih =>
    rw [← Nat.add_assoc, run_quiet h]
    exact inFrame_clk (ih (h.mono (Nat.le_refl a) (by omega)))

/-- The beam goes round the frame. -/
theorem half_run (h : Quiet ev a (a + n)) (hin : (run step v₀ ev a).InFrame) :
    (run step v₀ ev (a + n)).half = ((run step v₀ ev a).half + n) % 840000 := by
  induction n with
  | zero => exact (Nat.mod_eq_of_lt (half_lt hin)).symm
  | succ n ih =>
    have hquiet : Quiet ev a (a + n) := h.mono (Nat.le_refl a) (by omega)
    rw [← Nat.add_assoc, run_quiet h, half_clk (inFrame_keep hquiet hin), ih hquiet]
    omega

theorem timing_keep (h : Quiet ev a (a + n)) (ht : (run step v₀ ev a).Timing) :
    (run step v₀ ev (a + n)).Timing := by
  induction n with
  | zero => exact ht
  | succ n ih =>
    rw [← Nat.add_assoc, run_quiet h]
    exact timing_clk (ih (h.mono (Nat.le_refl a) (by omega)))

/-- Inside the frame, two edges are a pixel clock at least. -/
theorem timing_of_inFrame (h : Quiet ev a (a + 2)) (hin : (run step v₀ ev a).InFrame) :
    (run step v₀ ev (a + 2)).Timing := by
  have hfirst : run step v₀ ev (a + 1) = (run step v₀ ev a).clk false :=
    run_quiet (n := 0) (h.mono (Nat.le_refl a) (by omega))
  rw [run_quiet (n := 1) h, hfirst]
  cases hdiv : (run step v₀ ev a).clkdiv with
  | true =>
    rw [show (run step v₀ ev a).clk false = { run step v₀ ev a with clkdiv := false } by
      simp [clk, hdiv]]
    obtain ⟨hin', hhs, hvs⟩ := timing_pixel hin
    exact ⟨hin', hhs, hvs⟩
  | false =>
    rw [show (run step v₀ ev a).clk false = { (run step v₀ ev a).pixel with clkdiv := true }
      by simp [clk, hdiv]]
    refine timing_clk ?_
    obtain ⟨hin', hhs, hvs⟩ := timing_pixel hin
    exact ⟨hin', hhs, hvs⟩

variable (v₀) in
/-- **The controller finds its frame from any contents of its registers**, in 798850
`Clk` edges without a reset, and keeps it. -/
theorem run_timing (h : Quiet ev a t) (ht : a + 798850 ≤ t) : (run step v₀ ev t).Timing := by
  have hin : (run step v₀ ev (a + 798848)).InFrame :=
    inFrame_run (h.mono (Nat.le_refl a) (by omega)) (Nat.le_refl _)
  have htiming : (run step v₀ ev (a + 798848 + 2)).Timing :=
    timing_of_inFrame (h.mono (by omega) (by omega)) hin
  obtain ⟨n, rfl⟩ := Nat.exists_eq_add_of_le ht
  exact timing_keep (h.mono (by omega) (Nat.le_refl _)) htiming

end Run

/-- Registers outside the frame. -/
def astray : VgaController :=
  { clkdiv := true, hc := 1023#10, vc := 600#10, hs := true, vs := true }

theorem astray_timing : (run step astray (fun _ => .clk false) 798850).Timing :=
  run_timing astray (a := 0) (fun _ _ _ => rfl) (by decide)

/-! ## Frames -/

section Frames

variable {v₀ : VgaController} {ev : Nat → VgaEdge} {a t : Nat}

/-- The pixels delivered from edge `a` up to edge `t`, line first. -/
def pixels (v₀ : VgaController) (ev : Nat → VgaEdge) (a t : Nat) : List (Nat × Nat) :=
  emitted (fun u => (run step v₀ ev u).delivers)
    (fun u => ((run step v₀ ev u).drawY.toNat, (run step v₀ ev u).drawX.toNat)) a t

/-- A frame, from corner to corner. -/
theorem frame (h : Quiet ev a (a + 840000)) (hin : (run step v₀ ev a).InFrame)
    (hcorner : (run step v₀ ev a).AtCorner) :
    pixels v₀ ev a (a + 840000) = Clocked.Scanner.rowMajor 640 480 ∧
      (run step v₀ ev (a + 840000)).AtCorner := by
  have hstart : (run step v₀ ev a).half = 1 := (atCorner_iff hin).mp hcorner
  have hhalf : ∀ k, k ≤ 840000 →
      (run step v₀ ev (a + k)).half = (1 + k) % 840000 ∧
        (run step v₀ ev (a + k)).InFrame := by
    intro k hk
    have hquiet : Quiet ev a (a + k) := h.mono (Nat.le_refl a) (by omega)
    exact ⟨hstart ▸ half_run hquiet hin, inFrame_keep hquiet hin⟩
  refine ⟨?_, (atCorner_iff (hhalf 840000 (Nat.le_refl _)).2).mpr
    (hhalf 840000 (Nat.le_refl _)).1⟩
  have hcol : ∀ k, k < 420000 → (run step v₀ ev (a + 2 * k)).drawX.toNat = k % 800 := by
    intro k hk
    obtain ⟨hh, hf⟩ := hhalf (2 * k) (by omega)
    rw [drawX_toNat hf, hh]
    omega
  have hrow : ∀ k, k < 420000 → (run step v₀ ev (a + 2 * k)).drawY.toNat = k / 800 := by
    intro k hk
    obtain ⟨hh, hf⟩ := hhalf (2 * k) (by omega)
    rw [drawY_toNat hf, hh]
    omega
  have hpixels : pixels v₀ ev a (a + 2 * 420000)
      = ((List.range 420000).filter fun k => decide (k % 800 < 640 ∧ k / 800 < 480)).map
          fun k => (k / 800, k % 800) := by
    refine Clocked.emitted_divided ?_ ?_ ?_
    · intro k hk
      have hdiv : (run step v₀ ev (a + 2 * k)).clkdiv = false := by
        rw [clkdiv_eq_false_iff, (hhalf (2 * k) (by omega)).1]
        omega
      have hblank := blank_iff (v := run step v₀ ev (a + 2 * k))
      change _ ↔ (run step v₀ ev (a + 2 * k)).drawX.toNat < 640
        ∧ (run step v₀ ev (a + 2 * k)).drawY.toNat < 480 at hblank
      rw [hcol k hk, hrow k hk] at hblank
      rw [delivers, hdiv, Bool.not_false, Bool.true_and, Bool.eq_iff_iff, hblank,
        decide_eq_true_iff]
    · intro k hk
      rw [hcol k hk, hrow k hk]
    · intro k hk
      have hdiv : (run step v₀ ev (a + 2 * k + 1)).clkdiv ≠ false := by
        rw [Ne, clkdiv_eq_false_iff, Nat.add_assoc, (hhalf (2 * k + 1) (by omega)).1]
        omega
      rw [delivers, Bool.not_eq_false _ |>.mp hdiv]
      rfl
  -- the places of the frame in the corner that is visible
  rw [show a + 840000 = a + 2 * 420000 from rfl, hpixels,
    ← Clocked.rowMajor_corner (show 640 ≤ 800 by decide) (show 480 ≤ 525 by decide),
    Clocked.Scanner.rowMajor_eq (by decide), List.filter_map]
  rfl

variable (v₀) in
/-- **Frame follows frame**, from any contents of the registers: each is 840000 edges
long and delivers the visible pixels once, row by row. -/
theorem run_frames (h : Quiet ev a t) : ∃ b, b ≤ a + 1638848 ∧ ∀ k,
    b + 840000 * (k + 1) ≤ t →
      (run step v₀ ev (b + 840000 * k)).AtCorner ∧
        pixels v₀ ev (b + 840000 * k) (b + 840000 * (k + 1))
          = Clocked.Scanner.rowMajor 640 480 := by
  by_cases hshort : t < a + 1638848
  · exact ⟨a + 1638848, Nat.le_refl _, fun k hk => by omega⟩
  · have hin : (run step v₀ ev (a + 798848)).InFrame :=
      inFrame_run (h.mono (Nat.le_refl a) (by omega)) (Nat.le_refl _)
    have hlt := half_lt hin
    -- the edges that are left to the next corner
    obtain ⟨d, hd, hcorner⟩ : ∃ d, d ≤ 840000 ∧
        ((run step v₀ ev (a + 798848)).half + d) % 840000 = 1 :=
      ⟨(840001 - (run step v₀ ev (a + 798848)).half) % 840000, by omega, by omega⟩
    have hquiet : Quiet ev (a + 798848) (a + 798848 + d) := h.mono (by omega) (by omega)
    have hinb := inFrame_keep hquiet hin
    refine ⟨a + 798848 + d, by omega, ?_⟩
    have hframes : ∀ k, a + 798848 + d + 840000 * k ≤ t →
        (run step v₀ ev (a + 798848 + d + 840000 * k)).InFrame ∧
          (run step v₀ ev (a + 798848 + d + 840000 * k)).AtCorner := by
      intro k
      induction k with
      | zero =>
        intro _
        exact ⟨hinb, (atCorner_iff hinb).mpr ((half_run hquiet hin).trans hcorner)⟩
      | succ k ih =>
        intro hk
        obtain ⟨hin', hcorner'⟩ := ih (by omega)
        rw [Nat.mul_succ, ← Nat.add_assoc] at hk ⊢
        have hquiet' : Quiet ev (a + 798848 + d + 840000 * k)
            (a + 798848 + d + 840000 * k + 840000) := h.mono (by omega) hk
        exact ⟨inFrame_keep hquiet' hin', (frame hquiet' hin' hcorner').2⟩
    intro k hk
    obtain ⟨hin', hcorner'⟩ := hframes k (by omega)
    rw [Nat.mul_succ, ← Nat.add_assoc] at hk ⊢
    exact ⟨hcorner', (frame (h.mono (by omega) hk) hin' hcorner').1⟩

end Frames

theorem astray_frames : ∃ b, b ≤ 0 + 1638848 ∧ ∀ k, b + 840000 * (k + 1) ≤ 10000000 →
    (run step astray (fun _ => .clk false) (b + 840000 * k)).AtCorner ∧
      pixels astray (fun _ => .clk false) (b + 840000 * k) (b + 840000 * (k + 1))
        = Clocked.Scanner.rowMajor 640 480 :=
  run_frames astray fun _ _ _ => rfl

end VgaController

end SpaceInvaders
