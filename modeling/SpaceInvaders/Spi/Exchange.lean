import SpaceInvaders.Clocked.Run
import SpaceInvaders.Clocked.ShiftRegister
import SpaceInvaders.Spi.Core

/-!
# One word over the SPI line

The shift engine is busy for 180 clocks a word, ten for each of its 18 states, and
nothing the processor does moves it meanwhile: `Sending` says where it is after `p`
of them, whatever the port has seen. In the odd states `SCLK` is low and `MISO` is
sampled at their end; in the even ones from 2 on it is high and the register shifts.
-/

namespace SpaceInvaders

namespace SpiCore

open ShiftRegister

/-- The shift engine between two words. -/
structure Resting (s : SpiCore) : Prop where
  transmitting : s.transmitting = false
  state : s.state = 0
  stateZero : s.stateZero = true
  slowcount : s.slowcount = 0
  SCLK : s.SCLK = false

/-- The shift engine `p` clocks into sending `word`; `got` has been sampled. -/
structure Sending (word : BitVec 8) (got : List Bool) (p : Nat) (s : SpiCore) : Prop where
  lt : p < 180
  transmitting : s.transmitting = true
  state : s.state.toNat = p / 10
  stateZero : s.stateZero = decide (p < 10)
  slowcount : s.slowcount.toNat = p % 10
  SCLK : s.SCLK = decide (20 ≤ p ∧ p / 10 % 2 = 0)
  length : got.length = p / 20
  shift : s.shift = shiftAll word (got.take ((p - 10) / 20))
  MISOreg : s.SCLK = true → got = got.take ((p - 10) / 20) ++ [s.MISOreg]

variable {s : SpiCore} {bus : SpiBus} {miso : Bool} {word : BitVec 8} {got : List Bool} {p : Nat}

/-! ## Between words -/

theorem Resting.slowclock (h : s.Resting) : s.slowclock = false := by
  rw [SpiCore.slowclock, h.slowcount]
  rfl

theorem Resting.lastTick (h : s.Resting) : s.lastTick = false := by
  rw [SpiCore.lastTick, h.slowclock, Bool.false_and]

theorem Resting.step_idle (h : s.Resting) (hempty : s.txHoldingPrimed = false) :
    (s.step bus miso).Resting := by
  have hload : s.writeShiftReg = false := by rw [writeShiftReg, hempty, Bool.false_and]
  refine ⟨?_, ?_, ?_, ?_, ?_⟩
  · show s.transmittingNext = false
    rw [transmittingNext, h.lastTick, hload]
    exact h.transmitting
  · show s.stateNext = 0
    rw [stateNext, h.transmitting, Bool.false_and]
    exact h.state
  · show (if s.transmitting && s.slowclock then s.state == 17 else s.stateZero) = true
    rw [h.transmitting, Bool.false_and]
    exact h.stateZero
  · show s.p1Slowcount = 0
    rw [p1Slowcount, h.transmitting, Bool.false_and]
    rfl
  · show s.SCLKNext = false
    rw [SCLKNext, h.slowclock]
    exact h.SCLK

/-- A word waiting is loaded. -/
theorem Resting.step_load (h : s.Resting) (hprimed : s.txHoldingPrimed = true) :
    (s.step bus miso).Sending s.txHolding [] 0 := by
  have hload : s.writeShiftReg = true := by rw [writeShiftReg, hprimed, h.transmitting]; rfl
  have hclock : (s.step bus miso).SCLK = false := by
    show s.SCLKNext = false
    rw [SCLKNext, h.slowclock]
    exact h.SCLK
  refine ⟨by decide, ?_, ?_, ?_, ?_, hclock, rfl, ?_, ?_⟩
  · show s.transmittingNext = true
    rw [transmittingNext, h.lastTick, hload]
    rfl
  · show s.stateNext.toNat = 0
    rw [stateNext, h.transmitting, Bool.false_and, h.state]
    rfl
  · show (if s.transmitting && s.slowclock then s.state == 17 else s.stateZero) = true
    rw [h.transmitting, Bool.false_and]
    exact h.stateZero
  · show s.p1Slowcount.toNat = 0
    rw [p1Slowcount, h.transmitting, Bool.false_and]
    rfl
  · show s.shiftNext = s.txHolding
    rw [shiftNext, h.slowclock, Bool.false_and, hload]
    rfl
  · intro hhigh
    rw [hclock] at hhigh
    cases hhigh

/-! ## Within a word -/

theorem Sending.slowclock (h : s.Sending word got p) :
    s.slowclock = decide (p % 10 = 9) := by
  rw [SpiCore.slowclock, Bool.eq_iff_iff, beq_iff_eq, decide_eq_true_iff, ← BitVec.toNat_inj,
    h.slowcount]
  rfl

theorem Sending.state_last (h : s.Sending word got p) : s.state = 17 ↔ 170 ≤ p := by
  have hlt := h.lt
  rw [← BitVec.toNat_inj, h.state]
  show p / 10 = 17 ↔ _
  omega

theorem Sending.state_first (h : s.Sending word got p) : s.state = 0 ↔ p < 10 := by
  rw [← BitVec.toNat_inj, h.state]
  show p / 10 = 0 ↔ _
  omega

theorem Sending.lastTick (h : s.Sending word got p) : s.lastTick = decide (p = 179) := by
  have hlt := h.lt
  rw [SpiCore.lastTick, h.slowclock, Bool.eq_iff_iff, Bool.and_eq_true, decide_eq_true_iff,
    decide_eq_true_iff, beq_iff_eq, h.state_last]
  omega

theorem Sending.writeShiftReg (h : s.Sending word got p) : s.writeShiftReg = false := by
  rw [SpiCore.writeShiftReg, h.transmitting, Bool.not_true, Bool.and_false]

theorem Sending.slowcount_step (h : s.Sending word got p) :
    (s.step bus miso).slowcount.toNat = (p + 1) % 10 := by
  show s.p1Slowcount.toNat = _
  rw [p1Slowcount, h.transmitting, h.slowclock, Bool.true_and]
  by_cases htick : p % 10 = 9
  · rw [decide_eq_true htick, if_neg (by decide)]
    show 0 = _
    omega
  · have hlt : p % 10 < 10 := Nat.mod_lt _ (by decide)
    rw [decide_eq_false htick, if_pos (by decide), BitVec.toNat_add, h.slowcount]
    show (p % 10 + 1) % 16 = _
    omega

theorem Sending.state_step (h : s.Sending word got p) (hp : p ≠ 179) :
    (s.step bus miso).state.toNat = (p + 1) / 10 := by
  have hlt := h.lt
  show s.stateNext.toNat = _
  rw [stateNext, h.transmitting, h.slowclock, Bool.true_and]
  by_cases htick : p % 10 = 9
  · rw [decide_eq_true htick, if_pos rfl, if_neg (mt h.state_last.mp (by omega)),
      BitVec.toNat_add, h.state]
    show (p / 10 + 1) % 32 = _
    omega
  · rw [decide_eq_false htick, if_neg (by decide), h.state]
    omega

theorem Sending.stateZero_step (h : s.Sending word got p) (hp : p ≠ 179) :
    (s.step bus miso).stateZero = decide (p + 1 < 10) := by
  have hlt := h.lt
  show (if s.transmitting && s.slowclock then s.state == 17 else s.stateZero) = _
  rw [h.transmitting, h.slowclock, Bool.true_and]
  by_cases htick : p % 10 = 9
  · have hlast : s.state ≠ 17 := mt h.state_last.mp (by omega)
    rw [decide_eq_true htick, if_pos rfl, beq_eq_false_iff_ne.mpr hlast,
      decide_eq_false (by omega)]
  · rw [decide_eq_false htick, if_neg (by decide), h.stateZero]
    exact decide_eq_decide.mpr (by omega)

theorem Sending.SCLK_step (h : s.Sending word got p) (hp : p ≠ 179) :
    (s.step bus miso).SCLK = decide (20 ≤ p + 1 ∧ (p + 1) / 10 % 2 = 0) := by
  have hlt := h.lt
  show s.SCLKNext = _
  rw [SCLKNext, h.slowclock]
  by_cases htick : p % 10 = 9
  · rw [decide_eq_true htick, if_pos rfl, if_neg (mt h.state_last.mp (by omega)),
      h.transmitting, if_pos rfl, h.SCLK, ← decide_not]
    by_cases hfirst : p < 10
    · rw [if_neg (not_not.mpr (h.state_first.mpr hfirst))]
      exact decide_eq_decide.mpr (by omega)
    · rw [if_pos (mt h.state_first.mp hfirst)]
      exact decide_eq_decide.mpr (by omega)
  · rw [decide_eq_false htick, if_neg (by decide), h.SCLK]
    exact decide_eq_decide.mpr (by omega)

/-- What has been sampled one clock later. -/
def sampled (p : Nat) (got : List Bool) (miso : Bool) : List Bool :=
  if p % 20 = 19 then got ++ [miso] else got

theorem Sending.length_step (h : s.Sending word got p) :
    (sampled p got miso).length = (p + 1) / 20 := by
  have hlength := h.length
  unfold sampled
  split_ifs
  · rw [List.length_append, List.length_singleton]
    omega
  · omega

/-- The register shifts at the end of a state in which `SCLK` is high. -/
theorem Sending.shift_step (h : s.Sending word got p) :
    (s.step bus miso).shift
      = shiftAll word ((sampled p got miso).take ((p + 1 - 10) / 20)) := by
  have hlength := h.length
  have hkeep : (sampled p got miso).take ((p + 1 - 10) / 20) = got.take ((p + 1 - 10) / 20) := by
    unfold sampled
    split_ifs
    · exact List.take_append_of_le_length (by omega)
    · rfl
  show s.shiftNext = _
  rw [shiftNext, h.writeShiftReg, if_neg (show ¬ false = true by decide), hkeep, h.slowclock]
  by_cases hfall : p % 10 = 9 ∧ s.SCLK = true
  · obtain ⟨htick, hhigh⟩ := hfall
    have hphase := of_decide_eq_true (h.SCLK.symm.trans hhigh)
    rw [decide_eq_true htick, hhigh, Bool.and_self, if_pos rfl, h.shift, ← shiftAll_concat,
      ← h.MISOreg hhigh, List.take_of_length_le (by omega)]
  · have hidle : ¬ (decide (p % 10 = 9) && s.SCLK) = true := by
      rw [Bool.and_eq_true, decide_eq_true_iff]
      exact hfall
    rw [if_neg hidle, h.shift]
    have hlow : p % 10 = 9 → ¬ (20 ≤ p ∧ p / 10 % 2 = 0) := fun htick hphase =>
      hfall ⟨htick, h.SCLK.trans (decide_eq_true hphase)⟩
    have hsame : (p + 1 - 10) / 20 = (p - 10) / 20 := by omega
    rw [hsame]

theorem Sending.MISOreg_step (h : s.Sending word got p) (hp : p ≠ 179)
    (hhigh : (s.step bus miso).SCLK = true) :
    sampled p got miso
      = (sampled p got miso).take ((p + 1 - 10) / 20) ++ [(s.step bus miso).MISOreg] := by
  have hlength := h.length
  have hphase := of_decide_eq_true ((h.SCLK_step hp).symm.trans hhigh)
  show _ = _ ++ [if s.slowclock && !s.SCLK then miso else s.MISOreg]
  rw [h.slowclock]
  by_cases hrise : p % 20 = 19
  · have hlow : s.SCLK = false := by
      rw [h.SCLK]
      exact decide_eq_false (by omega)
    rw [sampled, if_pos hrise, hlow, decide_eq_true (by omega : p % 10 = 9), if_pos (by decide),
      List.take_left' (by omega)]
  · have hwas : s.SCLK = true := by
      rw [h.SCLK]
      exact decide_eq_true (by omega)
    have hsame : (p + 1 - 10) / 20 = (p - 10) / 20 := by omega
    rw [sampled, if_neg hrise, hwas, Bool.not_true, Bool.and_false, if_neg (by decide), hsame]
    exact h.MISOreg hwas

/-- **One clock into the word**, whatever the port sees. -/
theorem Sending.step (h : s.Sending word got p) (hp : p ≠ 179) :
    (s.step bus miso).Sending word (sampled p got miso) (p + 1) where
  lt := by
    have hlt := h.lt
    omega
  transmitting := by
    show s.transmittingNext = true
    rw [transmittingNext, h.lastTick, decide_eq_false hp, h.writeShiftReg]
    exact h.transmitting
  state := h.state_step hp
  stateZero := h.stateZero_step hp
  slowcount := h.slowcount_step
  SCLK := h.SCLK_step hp
  length := h.length_step
  shift := h.shift_step
  MISOreg := h.MISOreg_step hp

/-- The last clock of a word: the word received is handed over. -/
theorem Sending.step_last (h : s.Sending word got 179) :
    (s.step bus miso).Resting ∧ (s.step bus miso).RRDY = true ∧
      (s.step bus miso).rxHolding = ofBits got := by
  have hlast : s.lastTick = true := h.lastTick.trans (decide_eq_true rfl)
  have hstate : s.state = 17 := h.state_last.mpr (by decide)
  have hclock : s.slowclock = true := h.slowclock.trans (decide_eq_true rfl)
  refine ⟨⟨?_, ?_, ?_, ?_, ?_⟩, ?_, ?_⟩
  · show s.transmittingNext = false
    rw [transmittingNext, hlast, if_pos rfl]
  · show s.stateNext = 0
    rw [stateNext, h.transmitting, hclock, Bool.and_self, if_pos rfl, if_pos hstate]
  · show (if s.transmitting && s.slowclock then s.state == 17 else s.stateZero) = true
    rw [h.transmitting, hclock, Bool.and_self, if_pos rfl, hstate]
    rfl
  · show s.p1Slowcount = 0
    rw [p1Slowcount, hclock, Bool.not_true, Bool.and_false]
    rfl
  · show s.SCLKNext = false
    rw [SCLKNext, hclock, if_pos rfl, if_pos hstate]
  · show s.RRDYNext bus = true
    rw [RRDYNext, hlast, if_pos rfl]
  · show (if s.lastTick then s.shift else s.rxHolding) = _
    have hall : got.take ((179 - 10) / 20) = got := List.take_of_length_le (by rw [h.length])
    rw [hlast, if_pos rfl, h.shift, hall, shiftAll_eq_ofBits _ h.length]

end SpiCore

end SpaceInvaders
