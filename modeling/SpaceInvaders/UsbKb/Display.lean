import SpaceInvaders.Clocked.Run
import SpaceInvaders.UsbKb.MainLoop

/-!
# What the board displays of a keyboard report

The ten upper LEDs and the four digits are to show the first two bytes of the
report as signed numbers, and LED 9 that the keyboard is running, while the
`WASD` indication keeps to the lower four LEDs (`DisplayTrue`).

The digits are right for every byte but `-128`, which the negation leaves
negative (`digits_iff`). The LEDs are not: the indication is a store to the whole
port, so whatever the two print functions and `setLED(9)` have put there is gone
by the end of the turn (`handleKbd_leds`), and no turn that handles a report
leaves the display true (`tellsTheTruth_iff`).
-/

namespace SpaceInvaders

open Clocked (run)

namespace Board

/-- Hexadecimal digit `k`, the rightmost being digit 0. -/
def digit (b : Board) (k : Nat) : BitVec 4 := b.hexDigits.extractLsb' (4 * k) 4

/-- The digits show the two numbers: tens and units of each magnitude. -/
structure DigitsTrue (b : Board) (v0 v1 : Int) : Prop where
  tens0 : (b.digit 3).toNat = v0.natAbs / 10 % 10
  units0 : (b.digit 2).toNat = v0.natAbs % 10
  tens1 : (b.digit 1).toNat = v1.natAbs / 10 % 10
  units1 : (b.digit 0).toNat = v1.natAbs % 10

/-- The LEDs 13 to 10 show the signs and the hundreds of the two numbers. -/
structure SignsTrue (b : Board) (v0 v1 : Int) : Prop where
  sign0 : b.leds.getLsbD 11 = decide (v0 < 0)
  sign1 : b.leds.getLsbD 10 = decide (v1 < 0)
  hundreds0 : b.leds.getLsbD 13 = decide (100 ≤ v0.natAbs)
  hundreds1 : b.leds.getLsbD 12 = decide (100 ≤ v1.natAbs)

/-- What a turn that finds `before` and handles `kbdbuf` should leave. -/
structure DisplayTrue (before after : Board) (kbdbuf : KbdReport) : Prop where
  signs : after.SignsTrue kbdbuf.keycode0.toInt kbdbuf.keycode1.toInt
  digits : after.DigitsTrue kbdbuf.keycode0.toInt kbdbuf.keycode1.toInt
  running : after.leds.getLsbD 9 = true
  indication : ∀ k, 4 ≤ k →
    after.leds.getLsbD k = (before.printReport kbdbuf).leds.getLsbD k

/-! ## The digits -/

/-- The upper two digits for `value`. -/
def upper (value : BitVec 8) : BitVec 16 :=
  ((tens value).setWidth 32 <<< 12 ||| (ones value).setWidth 32 <<< 8).setWidth 16
    &&& 0xFF00#16

/-- The lower two digits for `value`. -/
def lower (value : BitVec 8) : BitVec 16 :=
  ((tens value).setWidth 32 <<< 4 ||| (ones value).setWidth 32 <<< 0).setWidth 16

/-- Each print function keeps the other's half of the port, and what was there
before the two is gone. -/
theorem overwrite (h : BitVec 16) (x y : BitVec 32) :
    ((((h.setWidth 32 &&& 0x00FF#32) ||| x).setWidth 16).setWidth 32
        &&& 0xFF00#32 ||| y).setWidth 16
      = (x.setWidth 16 &&& 0xFF00#16) ||| y.setWidth 16 := by
  rw [BitVec.setWidth_or, BitVec.setWidth_and,
    BitVec.setWidth_setWidth_of_le _ (by decide), BitVec.setWidth_eq,
    BitVec.setWidth_or, BitVec.setWidth_and,
    BitVec.setWidth_setWidth_of_le _ (by decide), BitVec.setWidth_eq]
  have hkeep : ((h &&& 0x00FF#16) ||| x.setWidth 16) &&& 0xFF00#16
      = x.setWidth 16 &&& 0xFF00#16 := by
    rw [BitVec.and_comm, BitVec.and_or_distrib_left, BitVec.and_comm h, ← BitVec.and_assoc]
    simp [BitVec.and_comm]
  exact congrArg (· ||| y.setWidth 16) hkeep

theorem printReport_hexDigits (b : Board) (kbdbuf : KbdReport) :
    (b.printReport kbdbuf).hexDigits
      = upper kbdbuf.keycode0 ||| lower kbdbuf.keycode1 := by
  unfold printReport printSignedHex0 printSignedHex1
  rw [printSigned_hexDigits, printSigned_hexDigits, setKeycode_hexDigits,
    BitVec.or_assoc, BitVec.or_assoc]
  exact overwrite _ _ _

/-- Where the numbers are, each in its half. -/
theorem upper_digits : ∀ v : BitVec 8, (upper v).extractLsb' 4 4 = 0#4 ∧
    (upper v).extractLsb' 0 4 = 0#4 ∧
    (v ≠ 0x80#8 → ((upper v).extractLsb' 12 4).toNat = v.toInt.natAbs / 10 % 10 ∧
      ((upper v).extractLsb' 8 4).toNat = v.toInt.natAbs % 10) := by
  decide

theorem lower_digits : ∀ v : BitVec 8, v ≠ 0x80#8 →
    (lower v).extractLsb' 12 4 = 0#4 ∧ (lower v).extractLsb' 8 4 = 0#4 ∧
      ((lower v).extractLsb' 4 4).toNat = v.toInt.natAbs / 10 % 10 ∧
      ((lower v).extractLsb' 0 4).toNat = v.toInt.natAbs % 10 := by
  decide

/-- **When the digits are right**: for every byte but `-128`. -/
theorem digits_iff (b : Board) (kbdbuf : KbdReport) :
    (b.handleKbd kbdbuf).DigitsTrue kbdbuf.keycode0.toInt kbdbuf.keycode1.toInt ↔
      kbdbuf.keycode0 ≠ 0x80#8 ∧ kbdbuf.keycode1 ≠ 0x80#8 := by
  have hdigit : ∀ k, (b.handleKbd kbdbuf).digit k
      = (upper kbdbuf.keycode0).extractLsb' (4 * k) 4
        ||| (lower kbdbuf.keycode1).extractLsb' (4 * k) 4 := by
    intro k
    unfold digit handleKbd
    rw [storeLEDs_hexDigits, printReport_hexDigits, BitVec.extractLsb'_or]
  obtain ⟨hu1, hu0, hupper⟩ := upper_digits kbdbuf.keycode0
  refine ⟨?_, ?_⟩
  · -- of `-128` each digit shows as `F` or `8`
    intro h
    refine ⟨?_, ?_⟩
    · intro h0
      have htens := h.tens0
      rw [hdigit, h0, show (upper 0x80#8).extractLsb' (4 * 3) 4 = BitVec.allOnes 4 by decide,
        BitVec.allOnes_or] at htens
      exact absurd htens (by decide)
    · intro h1
      have htens := h.tens1
      rw [hdigit, h1, show (lower 0x80#8).extractLsb' (4 * 1) 4 = BitVec.allOnes 4 by decide,
        BitVec.or_allOnes] at htens
      exact absurd htens (by decide)
  · intro h
    obtain ⟨h0, h1⟩ := h
    obtain ⟨ht0, ho0⟩ := hupper h0
    obtain ⟨hl3, hl2, ht1, ho1⟩ := lower_digits _ h1
    refine ⟨?_, ?_, ?_, ?_⟩
    · rw [hdigit, hl3, BitVec.or_zero]; exact ht0
    · rw [hdigit, hl2, BitVec.or_zero]; exact ho0
    · rw [hdigit, hu1, BitVec.zero_or]; exact ht1
    · rw [hdigit, hu0, BitVec.zero_or]; exact ho1

/-! ## The LEDs -/

theorem hundreds_eq : ∀ v : BitVec 8,
    ((magnitude v).sdiv 100#8 != 0#8) = decide (100 ≤ v.toInt.natAbs) := by
  decide

/-- After the print functions the LEDs do show the two numbers, and LED 9 is as
it was. -/
theorem printReport_leds (b : Board) (kbdbuf : KbdReport) :
    (b.printReport kbdbuf).SignsTrue kbdbuf.keycode0.toInt kbdbuf.keycode1.toInt ∧
      (b.printReport kbdbuf).leds.getLsbD 9 = b.leds.getLsbD 9 := by
  have hled : ∀ k, (b.printReport kbdbuf).leds.getLsbD k
      = if k = 12 then decide (100 ≤ kbdbuf.keycode1.toInt.natAbs)
        else if k = 10 then kbdbuf.keycode1.slt 0#8
        else if k = 13 then decide (100 ≤ kbdbuf.keycode0.toInt.natAbs)
        else if k = 11 then kbdbuf.keycode0.slt 0#8
        else b.leds.getLsbD k := by
    intro k
    unfold printReport printSignedHex0 printSignedHex1
    rw [printSigned_leds _ _ _ _ _ (by decide) (by decide),
      printSigned_leds _ _ _ _ _ (by decide) (by decide), hundreds_eq, hundreds_eq]
    rfl
  exact ⟨⟨hled 11, hled 10, hled 13, hled 12⟩, hled 9⟩

theorem wasd_getLsbD : ∀ k0 : BitVec 8, (wasd k0).setWidth 14 &&& 0x3FF0#14 = 0#14 := by
  decide

/-- The indication is all the LEDs show at the end of the turn. -/
theorem handleKbd_leds (b : Board) (kbdbuf : KbdReport) {k : Nat} (hk : 4 ≤ k) :
    (b.handleKbd kbdbuf).leds.getLsbD k = false := by
  by_cases hlt : k < 14
  · have hzero := congrArg (fun v => v.getLsbD k) (wasd_getLsbD kbdbuf.keycode0)
    have hmask : ∀ j : Fin 14, 4 ≤ j.val → (0x3FF0#14).getLsbD j = true := by decide
    simp only [BitVec.getLsbD_and, hmask ⟨k, hlt⟩ hk, Bool.and_true] at hzero
    exact hzero.trans BitVec.getLsbD_zero
  · exact BitVec.getLsbD_of_ge _ _ (Nat.le_of_not_lt hlt)

/-- When the signs and hundreds are right: when there is nothing to show. -/
theorem signs_iff (b : Board) (kbdbuf : KbdReport) :
    (b.handleKbd kbdbuf).SignsTrue kbdbuf.keycode0.toInt kbdbuf.keycode1.toInt ↔
      (0 ≤ kbdbuf.keycode0.toInt ∧ kbdbuf.keycode0.toInt < 100) ∧
        (0 ≤ kbdbuf.keycode1.toInt ∧ kbdbuf.keycode1.toInt < 100) := by
  have hdark : ∀ k, 4 ≤ k → (b.handleKbd kbdbuf).leds.getLsbD k = false :=
    fun k hk => handleKbd_leds b kbdbuf hk
  refine ⟨?_, ?_⟩
  · intro h
    have hsign0 := h.sign0
    have hsign1 := h.sign1
    have hhundreds0 := h.hundreds0
    have hhundreds1 := h.hundreds1
    rw [hdark _ (by decide)] at hsign0 hsign1 hhundreds0 hhundreds1
    have h0 := of_decide_eq_false hsign0.symm
    have h1 := of_decide_eq_false hsign1.symm
    have h2 := of_decide_eq_false hhundreds0.symm
    have h3 := of_decide_eq_false hhundreds1.symm
    omega
  · intro h
    refine ⟨?_, ?_, ?_, ?_⟩ <;> rw [hdark _ (by decide)] <;>
      exact (decide_eq_false (by omega)).symm

/-- Handling a report puts the running light out. -/
theorem not_displayTrue (b : Board) (kbdbuf : KbdReport) :
    ¬ DisplayTrue b (b.handleKbd kbdbuf) kbdbuf := by
  intro h
  have hout := handleKbd_leds b kbdbuf (k := 9) (by decide)
  rw [h.running] at hout
  cases hout

end Board

namespace MainState

variable (s₀ : MainState) (inp : Nat → LoopIn)

/-- Turn `t` handles a keyboard report. -/
def HandledAt (t : Nat) : Prop := (run iterate s₀ inp t).Handles (inp t)

/-- After each handled report the display is true of it. -/
def TellsTheTruth : Prop :=
  ∀ t, HandledAt s₀ inp t →
    Board.DisplayTrue (run iterate s₀ inp t).board (run iterate s₀ inp (t + 1)).board
      (inp t).kbdbuf

variable {s₀ inp}

/-- **When the display tells the truth**: never, once there is a report to tell
it of. -/
theorem tellsTheTruth_iff : TellsTheTruth s₀ inp ↔ ∀ t, ¬ HandledAt s₀ inp t := by
  refine ⟨?_, fun h t ht => absurd ht (h t)⟩
  intro h t ht
  have htrue := h t ht
  rw [Clocked.run_succ, iterate_handles ht] at htrue
  exact Board.not_displayTrue _ _ htrue

/-- No key down: a keyboard is found at the first turn, and reports at each
later one. -/
def idleKeyboard : Nat → LoopIn := fun _ =>
  { taskState := usbStateRunning, driver := 1, rcode := 0,
    kbdbuf := { keycode := #v[0, 0, 0, 0, 0, 0] }
    buf := { button := 0, xdispl := 0, ydispl := 0 } }

/-- The first report, of no key at all, puts the running light out. -/
theorem idleKeyboard_lies : ¬ TellsTheTruth (powerUp 0) idleKeyboard := by
  intro h
  exact absurd (h 1 ⟨rfl, rfl, rfl, rfl⟩).running (by decide)

end MainState

end SpaceInvaders
