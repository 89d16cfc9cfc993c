import SpaceInvaders.Spi.Driver
import SpaceInvaders.Spi.Exchange

/-!
# A byte on its way

With one byte at a time in the core nothing the processor does can disturb it, as long as
it neither reads data nor writes: `Stage` says how far the byte is, and moves by one with
every clock (`Stage.step`). The same step says what the line has shown of it.
-/

namespace SpaceInvaders

namespace SpiCore

open ShiftRegister

variable {s : SpiCore} {bus : SpiBus} {miso : Bool}

/-! ## What the port leaves alone -/

/-- The edge carries out no read of data and no write. -/
structure Calm (s : SpiCore) : Prop where
  dataRdStrobe : s.dataRdStrobe = false
  wrStrobe : s.wrStrobe = false
  dataWrStrobe : s.dataWrStrobe = false

/-- Between two accesses. -/
structure Quiet (s : SpiCore) : Prop extends Calm s where
  rdStrobe : s.rdStrobe = false

/-- The chip is selected, whatever is being sent. -/
structure Chosen (s : SpiCore) : Prop where
  SSO : s.SSO = true
  slaveSelect : s.slaveSelect.getLsbD 0 = true
  slaveSelectHolding : s.slaveSelectHolding.getLsbD 0 = true

/-- No byte has been lost. -/
structure Sound (s : SpiCore) : Prop where
  ROE : s.ROE = false
  TOE : s.TOE = false

theorem Chosen.SSn (h : s.Chosen) : s.SSn = false := by
  rw [SpiCore.SSn, h.SSO, Bool.or_true, if_pos rfl, h.slaveSelect]
  rfl

theorem Chosen.step (h : s.Chosen) (hcontrol : s.controlWrStrobe bus = false)
    (hselect : s.slaveselectWrStrobe bus = false) : (s.step bus miso).Chosen := by
  refine ⟨?_, ?_, ?_⟩
  · show (if s.controlWrStrobe bus then _ else s.SSO) = true
    rw [hcontrol]
    exact h.SSO
  · show (s.slaveSelectNext bus).getLsbD 0 = true
    unfold slaveSelectNext
    split_ifs
    · exact h.slaveSelectHolding
    · exact h.slaveSelect
  · show (if s.slaveselectWrStrobe bus then _ else s.slaveSelectHolding).getLsbD 0 = true
    rw [hselect]
    exact h.slaveSelectHolding

/-- Nothing is lost at an edge at which no word ends unread and none is written over. -/
theorem Sound.step (h : s.Sound) (hlast : s.lastTick = true → s.RRDY = false)
    (hwrite : s.dataWrStrobe = true → s.TRDY = true) : (s.step bus miso).Sound := by
  refine ⟨?_, ?_⟩
  · show s.ROENext bus = false
    have hover : ¬ (s.lastTick && s.RRDY) = true := by
      rw [Bool.and_eq_true]
      rintro ⟨hend, hfull⟩
      rw [hlast hend] at hfull
      cases hfull
    rw [ROENext, if_neg hover, h.ROE]
    split_ifs <;> rfl
  · show s.TOENext bus = false
    have hover : ¬ (s.dataWrStrobe && !s.TRDY) = true := by
      rw [Bool.and_eq_true]
      rintro ⟨hdata, hfull⟩
      rw [hwrite hdata] at hfull
      cases hfull
    rw [TOENext, if_neg hover, h.TOE]
    split_ifs <;> rfl

/-- Nor between two words. -/
theorem Sound.step_resting (h : s.Sound) (hrest : s.Resting) : (s.step bus miso).Sound := by
  refine h.step (fun hlast => ?_) (fun _ => ?_)
  · rw [hrest.lastTick] at hlast
    cases hlast
  · rw [TRDY, hrest.transmitting]
    rfl

theorem step_idle_quiet (hsel : bus.spiSelect = false) : (s.step bus miso).Quiet := by
  have hrd : s.p1RdStrobe bus = false := by simp [p1RdStrobe, hsel]
  have hwr : s.p1WrStrobe bus = false := by simp [p1WrStrobe, hsel]
  refine ⟨⟨?_, hwr, ?_⟩, hrd⟩
  · show (s.p1RdStrobe bus && _) = false
    rw [hrd, Bool.false_and]
  · show (s.p1WrStrobe bus && _) = false
    rw [hwr, Bool.false_and]

/-- The second clock of an access ends it. -/
theorem step_second (hrd : bus.readN = true ∨ s.rdStrobe = true)
    (hwr : bus.writeN = true ∨ s.wrStrobe = true) : (s.step bus miso).Quiet := by
  have hrd' : s.p1RdStrobe bus = false := by
    rcases hrd with h | h <;> simp [p1RdStrobe, h]
  have hwr' : s.p1WrStrobe bus = false := by
    rcases hwr with h | h <;> simp [p1WrStrobe, h]
  refine ⟨⟨?_, hwr', ?_⟩, hrd'⟩
  · show (s.p1RdStrobe bus && _) = false
    rw [hrd', Bool.false_and]
  · show (s.p1WrStrobe bus && _) = false
    rw [hwr', Bool.false_and]

theorem Calm.controlWrStrobe (h : s.Calm) : s.controlWrStrobe bus = false := by
  rw [SpiCore.controlWrStrobe, h.wrStrobe, Bool.false_and]

theorem Calm.statusWrStrobe (h : s.Calm) : s.statusWrStrobe bus = false := by
  rw [SpiCore.statusWrStrobe, h.wrStrobe, Bool.false_and]

theorem Calm.slaveselectWrStrobe (h : s.Calm) : s.slaveselectWrStrobe bus = false := by
  rw [SpiCore.slaveselectWrStrobe, h.wrStrobe, Bool.false_and]

theorem Calm.writeTxHolding (h : s.Calm) : s.writeTxHolding = false := by
  rw [SpiCore.writeTxHolding, h.dataWrStrobe, Bool.false_and]

theorem Calm.RRDY_step (h : s.Calm) : (s.step bus miso).RRDY = (s.lastTick || s.RRDY) := by
  show s.RRDYNext bus = _
  rw [RRDYNext, h.statusWrStrobe, h.dataRdStrobe]
  cases s.lastTick <;> rfl

theorem step_unprimed (hempty : s.txHoldingPrimed = false) (hdata : s.dataWrStrobe = false) :
    (s.step bus miso).txHoldingPrimed = false := by
  show s.txHoldingPrimedNext = false
  rw [txHoldingPrimedNext, writeTxHolding, hdata, Bool.false_and, hempty]
  cases s.writeShiftReg <;> rfl

theorem Calm.txHoldingPrimed_step (h : s.Calm) :
    (s.step bus miso).txHoldingPrimed = (!s.writeShiftReg && s.txHoldingPrimed) := by
  show s.txHoldingPrimedNext = _
  rw [txHoldingPrimedNext, h.writeTxHolding]
  cases s.writeShiftReg <;> rfl

theorem Calm.rxHolding_step (hlast : s.lastTick = false) :
    (s.step bus miso).rxHolding = s.rxHolding := by
  show (if s.lastTick then s.shift else s.rxHolding) = _
  rw [hlast]
  rfl

/-! ## A byte on its way -/

/-- What the bits of a word do on the line, as far as they have been received. -/
def wordEvents (word : BitVec 8) (got : List Bool) : List LineEvent :=
  List.zipWith LineEvent.bit (bits word) got

/-- How far a byte has come, `k` clocks after it has been written. -/
inductive Stage (word : BitVec 8) : List Bool → Nat → SpiCore → Prop
  | waiting {s : SpiCore} (resting : s.Resting) (primed : s.txHoldingPrimed = true)
      (txHolding : s.txHolding = word) (RRDY : s.RRDY = false) : Stage word [] 0 s
  | sending {got : List Bool} {p : Nat} {s : SpiCore} (sending : s.Sending word got p)
      (primed : s.txHoldingPrimed = false) (RRDY : s.RRDY = false) : Stage word got (p + 1) s
  | arrived {got : List Bool} {k : Nat} {s : SpiCore} (resting : s.Resting)
      (primed : s.txHoldingPrimed = false) (RRDY : s.RRDY = true) (length : got.length = 8)
      (rxHolding : s.rxHolding = ofBits got) (late : 181 ≤ k) : Stage word got k s

variable {word : BitVec 8} {got : List Bool} {k p : Nat}

theorem zipWith_concat {α β γ : Type} (f : α → β → γ) (l : List α) (l' : List β) (b : β)
    (h : l'.length < l.length) :
    List.zipWith f l (l' ++ [b]) = List.zipWith f l l' ++ [f (l[l'.length]) b] := by
  induction l generalizing l' with
  | nil => exact absurd h (Nat.not_lt_zero _)
  | cons a l ih =>
    cases l' with
    | nil => simp
    | cons c l' =>
      have hlt : l'.length < l.length := Nat.lt_of_succ_lt_succ h
      simp [ih l' hlt]

/-- While the chip is selected, the line moves at the rising edges only. -/
theorem Chosen.lineEvents (h : s.Chosen) {s' : SpiCore} (h' : s'.Chosen) :
    lineEvents s s' miso = if !s.SCLK && s'.SCLK then [.bit s.MOSI miso] else [] := by
  unfold SpaceInvaders.lineEvents
  rw [h.SSn, h'.SSn]
  simp

theorem Sending.MOSI (h : s.Sending word got p) (hp : p ≠ 179) (hrise : p % 20 = 19) :
    s.MOSI = word.getLsbD (7 - got.length) := by
  have hlt := h.lt
  have hlength := h.length
  have hall : got.take ((p - 10) / 20) = got := List.take_of_length_le (by omega)
  have hroom : got.length < 8 := by omega
  rw [SpiCore.MOSI, h.shift, hall]
  exact getLsbD_top word hroom

/-- **One clock for a byte on its way**, if it is not interfered with. -/
theorem Stage.step (h : Stage word got k s) (hcalm : s.Calm) (hchosen : s.Chosen) :
    ∃ got', Stage word got' (k + 1) (s.step bus miso) ∧
      wordEvents word got' = wordEvents word got ++ lineEvents s (s.step bus miso) miso := by
  have hchosen' : (s.step bus miso).Chosen :=
    hchosen.step hcalm.controlWrStrobe hcalm.slaveselectWrStrobe
  rw [hchosen.lineEvents hchosen']
  cases h with
  | waiting hrest hprimed hword hempty =>
    have hload : s.writeShiftReg = true := by
      rw [writeShiftReg, hprimed, hrest.transmitting]
      rfl
    have hsend : (s.step bus miso).Sending s.txHolding [] 0 := hrest.step_load hprimed
    rw [hword] at hsend
    refine ⟨[], .sending hsend ?_ ?_, ?_⟩
    · rw [hcalm.txHoldingPrimed_step, hload]
      rfl
    · rw [hcalm.RRDY_step, hrest.lastTick, hempty]
      rfl
    · rw [hsend.SCLK]
      simp
  | arrived hrest hprimed hfull hlen hrx hlate =>
    have hrest' : (s.step bus miso).Resting := hrest.step_idle hprimed
    refine ⟨got, .arrived hrest' ?_ ?_ hlen ?_ (Nat.le_succ_of_le hlate), ?_⟩
    · rw [hcalm.txHoldingPrimed_step, hprimed, Bool.and_false]
    · rw [hcalm.RRDY_step, hfull, Bool.or_true]
    · rw [Calm.rxHolding_step hrest.lastTick, hrx]
    · rw [hrest'.SCLK]
      simp
  | @sending _ p _ hsend hprimed hempty =>
    have hprimed' : (s.step bus miso).txHoldingPrimed = false := by
      rw [hcalm.txHoldingPrimed_step, hprimed, Bool.and_false]
    by_cases hend : p = 179
    · subst hend
      have hlast : (s.step bus miso).Resting ∧ (s.step bus miso).RRDY = true ∧
          (s.step bus miso).rxHolding = ofBits got := hsend.step_last
      obtain ⟨hrest', hfull, hrx⟩ := hlast
      refine ⟨got, .arrived hrest' hprimed' hfull hsend.length hrx (Nat.le_refl _), ?_⟩
      rw [hrest'.SCLK]
      simp
    · have hsend' : (s.step bus miso).Sending word (sampled p got miso) (p + 1) := hsend.step hend
      have hempty' : (s.step bus miso).RRDY = false := by
        rw [hcalm.RRDY_step, hempty, hsend.lastTick, decide_eq_false hend]
        rfl
      refine ⟨sampled p got miso, .sending hsend' hprimed' hempty', ?_⟩
      have hlt := hsend.lt
      have hlength := hsend.length
      rw [hsend.SCLK, hsend'.SCLK, sampled]
      by_cases hrise : p % 20 = 19
      · have hroom : got.length < (bits word).length := by
          rw [length_bits]
          omega
        have hlow : decide (20 ≤ p ∧ p / 10 % 2 = 0) = false := decide_eq_false (by omega)
        have hhigh : decide (20 ≤ p + 1 ∧ (p + 1) / 10 % 2 = 0) = true :=
          decide_eq_true (by omega)
        rw [if_pos hrise, hlow, hhigh, hsend.MOSI hend hrise, wordEvents,
          zipWith_concat _ _ _ _ hroom, getElem_bits]
        rfl
      · have hnone : ¬ (!decide (20 ≤ p ∧ p / 10 % 2 = 0)
            && decide (20 ≤ p + 1 ∧ (p + 1) / 10 % 2 = 0)) = true := by
          simp only [Bool.and_eq_true, Bool.not_eq_true', decide_eq_false_iff_not,
            decide_eq_true_iff]
          omega
        rw [if_neg hrise, if_neg hnone, List.append_nil]

theorem Stage.RRDY (h : Stage word got k s) (hk : 181 ≤ k) : s.RRDY = true := by
  cases h with
  | waiting => exact absurd hk (by decide)
  | sending hsend =>
    have hlt := hsend.lt
    omega
  | arrived _ _ hfull => exact hfull

/-- No word ends while another is there to be read. -/
theorem Stage.lastTick (h : Stage word got k s) (hend : s.lastTick = true) : s.RRDY = false := by
  cases h with
  | waiting _ _ _ hempty => exact hempty
  | sending _ _ hempty => exact hempty
  | arrived hrest =>
    rw [hrest.lastTick] at hend
    cases hend

end SpiCore

end SpaceInvaders
