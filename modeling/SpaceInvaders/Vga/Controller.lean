import Mathlib.Data.BitVec
import SpaceInvaders.Clocked.Cascade

/-!
# `vga_controller`: the beam

Two counters in cascade on a clock of half the rate, and two sync pulses registered
on that clock. The column and row counters are `Clocked.Cascade` in registers of ten
bits (`cascade_pixel`), so all of it is known from `half`, the number of `Clk` cycles
since the beam left the upper left corner (`half_clk`).

Mirroring notes:
- `clkdiv` rises at a `Clk` edge only; the processes on `posedge clkdiv` are part of
  that edge, and read the counters of before it.
- `Reset` is asynchronous: its own edge clears every register. While it is high, a
  `Clk` edge holds `clkdiv` low, so the other processes see no edge at all.
- `hc + 1` and `vc + 1` in the sync processes are taken at 32 bits.
- The registers start cleared.
-/

namespace SpaceInvaders

/-- The registers of `vga_controller`. -/
structure VgaController where
  clkdiv : Bool
  hc : BitVec 10
  vc : BitVec 10
  hs : Bool
  vs : Bool
  deriving DecidableEq

/-- The edges the processes are sensitive to, `posedge clkdiv` apart: `posedge Clk`
with the level of `Reset`, and `posedge Reset`. -/
inductive VgaEdge where
  | clk (reset : Bool)
  | reset
  deriving DecidableEq

namespace VgaController

/-- The last column. -/
def hpixels : BitVec 10 := 0b1100011111#10

/-- The last line. -/
def vlines : BitVec 10 := 0b1000001100#10

/-- All registers low: at power-up, and after `posedge Reset`. -/
def cleared : VgaController := { clkdiv := false, hc := 0, vc := 0, hs := false, vs := false }

/-! ## Outputs -/

def display (v : VgaController) : Bool :=
  if 0b1010000000 ≤ v.hc.toNat ∨ 0b0111100000 ≤ v.vc.toNat then false else true

def blank (v : VgaController) : Bool := v.display

def pixelClk (v : VgaController) : Bool := v.clkdiv

def drawX (v : VgaController) : BitVec 10 := v.hc

def drawY (v : VgaController) : BitVec 10 := v.vc

/-! ## Edges -/

/-- `posedge clkdiv`: `counter_proc`, `hsync_proc` and `vsync_proc`. -/
def pixel (v : VgaController) : VgaController :=
  { v with
    hc := if v.hc = hpixels then 0#10 else v.hc + 1#10
    vc :=
      if v.hc = hpixels then (if v.vc = vlines then 0#10 else v.vc + 1#10) else v.vc
    hs :=
      if 0b1010010000 ≤ v.hc.toNat + 1 ∧ v.hc.toNat + 1 < 0b1011110000 then false else true
    vs :=
      if v.vc.toNat + 1 = 0b111101010 ∨ v.vc.toNat + 1 = 0b111101011 then false else true }

/-- `posedge Clk`. -/
def clk (v : VgaController) (reset : Bool) : VgaController :=
  if reset then { v with clkdiv := false }
  else if v.clkdiv then { v with clkdiv := false }
  else { v.pixel with clkdiv := true }

def step (v : VgaController) : VgaEdge → VgaController
  | .clk reset => v.clk reset
  | .reset => cleared

/-! ## The two counters -/

/-- The beam as two counters in cascade. -/
def cascade (v : VgaController) : Clocked.Cascade := { col := v.hc.toNat, row := v.vc.toNat }

/-- The beam is inside the frame of 800 by 525. -/
def InFrame (v : VgaController) : Prop := v.cascade.Settled 800 525

instance (v : VgaController) : Decidable v.InFrame := inferInstanceAs (Decidable (_ ∧ _))

/-- A ten bit counter that goes back to 0 after `last`. -/
theorem counter_toNat (c last : BitVec 10) :
    (if c = last then 0#10 else c + 1#10).toNat
      = Clocked.count (last.toNat + 1) (2 ^ 10) c.toNat := by
  unfold Clocked.count
  by_cases h : c = last
  · rw [if_pos h, if_pos (by rw [h])]
    rfl
  · have hne : ¬ c.toNat + 1 = last.toNat + 1 :=
      fun heq => h (BitVec.eq_of_toNat_eq (Nat.succ.inj heq))
    rw [if_neg h, if_neg hne]
    exact BitVec.toNat_add ..

/-- **A pixel clock counts the cascade.** -/
theorem cascade_pixel (v : VgaController) :
    v.pixel.cascade = v.cascade.next 800 525 (2 ^ 10) (2 ^ 10) := by
  have hcol : v.pixel.hc.toNat = Clocked.count 800 (2 ^ 10) v.hc.toNat :=
    counter_toNat v.hc hpixels
  have hrow : v.pixel.vc.toNat
      = if v.hc.toNat + 1 = 800 then Clocked.count 525 (2 ^ 10) v.vc.toNat
        else v.vc.toNat := by
    have hend : v.hc = hpixels ↔ v.hc.toNat + 1 = 800 := by
      rw [BitVec.toNat_inj.symm, show hpixels.toNat = 799 from rfl]
      omega
    show (if v.hc = hpixels then (if v.vc = vlines then 0#10 else v.vc + 1#10)
      else v.vc).toNat = _
    by_cases hcol : v.hc.toNat + 1 = 800
    · rw [if_pos (hend.mpr hcol), if_pos hcol]
      exact counter_toNat v.vc vlines
    · rw [if_neg (fun h => hcol (hend.mp h)), if_neg hcol]
  unfold cascade Clocked.Cascade.next
  rw [hcol, hrow]

@[simp] theorem cascade_clkdiv (v : VgaController) (b : Bool) :
    { v with clkdiv := b }.cascade = v.cascade := rfl

/-- What a `Clk` edge does to the beam. -/
theorem cascade_clk (v : VgaController) : (v.clk false).cascade =
    if v.clkdiv then v.cascade else v.cascade.next 800 525 (2 ^ 10) (2 ^ 10) := by
  cases hdiv : v.clkdiv with
  | true =>
    simp only [clk, hdiv, Bool.false_eq_true, if_false, if_true]
    rfl
  | false =>
    simp only [clk, hdiv, Bool.false_eq_true, if_false]
    exact cascade_pixel v

@[simp] theorem clk_clkdiv (v : VgaController) (reset : Bool) :
    (v.clk reset).clkdiv = (!reset && !v.clkdiv) := by
  cases reset <;> cases hdiv : v.clkdiv <;> simp [clk, hdiv]

/-! ## The frame, in half pixels -/

/-- The `Clk` cycle of the frame, two to a pixel: the first is the one with
`pixel_clk` high. -/
def half (v : VgaController) : Nat := 2 * v.cascade.place 800 + if v.clkdiv then 0 else 1

section Half

variable {v : VgaController}

theorem half_lt (h : v.InFrame) : v.half < 840000 := by
  have hlt := Clocked.Cascade.place_lt h
  unfold half
  split_ifs
  · omega
  · omega

theorem inFrame_clk (h : v.InFrame) : (v.clk false).InFrame := by
  unfold InFrame
  rw [cascade_clk]
  split_ifs
  · exact h
  · exact Clocked.Cascade.settled_next (by decide) (by decide) h

/-- **A `Clk` edge moves the beam by half a pixel.** -/
theorem half_clk (h : v.InFrame) : (v.clk false).half = (v.half + 1) % 840000 := by
  have hlt := Clocked.Cascade.place_lt h
  unfold half
  rw [cascade_clk, clk_clkdiv]
  cases v.clkdiv with
  | true =>
    rw [if_pos rfl, if_pos rfl]
    simp only [Bool.not_true, Bool.and_false, Bool.false_eq_true, if_false]
    omega
  | false =>
    rw [if_neg (by simp), Clocked.Cascade.place_next (by decide) (by decide) h]
    simp only [Bool.not_false, Bool.and_self, if_true, Bool.false_eq_true, if_false]
    omega

/-- What the drawers see of the beam. -/
theorem drawX_toNat (h : v.InFrame) : v.drawX.toNat = v.half / 2 % 800 := by
  have hcol : v.cascade.place 800 % 800 = v.hc.toNat := Clocked.Cascade.place_mod h
  unfold half drawX
  split_ifs
  · omega
  · omega

theorem drawY_toNat (h : v.InFrame) : v.drawY.toNat = v.half / 1600 := by
  have hrow : v.cascade.place 800 / 800 = v.vc.toNat := Clocked.Cascade.place_div h
  unfold half drawY
  split_ifs
  · omega
  · omega

theorem clkdiv_eq_false_iff : v.clkdiv = false ↔ v.half % 2 = 1 := by
  unfold half
  cases v.clkdiv <;> simp

end Half

end VgaController

end SpaceInvaders
