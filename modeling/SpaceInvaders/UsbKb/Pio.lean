import Mathlib.Data.BitVec

/-!
# `usb_kb`: the output ports and the functions that write them

The program drives three output ports: `LEDS_PIO` (14 bits), `HEX_DIGITS_PIO`
(16 bits) and `KEYCODE` (8 bits). A read returns what was last written, a write
keeps as many low bits as the port has.

Mirroring notes:
- `LED_PIO`, the pointer of `main` to address `0x160`, is `LEDS_PIO_BASE`.
- A `signed char` is a `BitVec 8`; negation wraps, `/` and `%` truncate towards
  zero, which C does at `int` and which is the same at 8 bits, the divisors
  being 10 and 100.
- `tens` and `ones` are `BYTE`, so a negative quotient is taken modulo 256.
- `pio_val` is a `WORD` in one of the two print functions and a `DWORD` in the
  other. Only its low 16 bits are ever written, so 32 bits do for both.
-/

namespace SpaceInvaders

/-- The output ports of the program. -/
structure Board where
  leds : BitVec 14
  hexDigits : BitVec 16
  keycode : BitVec 8
  deriving DecidableEq

namespace Board

/-- The reset values. -/
def powerUp : Board := { leds := 0, hexDigits := 0, keycode := 0 }

/-! ## The functions -/

def setLED (b : Board) (led : Nat) : Board := { b with leds := b.leds ||| (1#14 <<< led) }

def clearLED (b : Board) (led : Nat) : Board :=
  { b with leds := b.leds &&& ~~~(1#14 <<< led) }

/-- What `printSignedHex0` and `printSignedHex1` share: the LED of the sign, the
LED of the hundreds, the digits that stay, and where the two digits go. -/
def printSigned (signLED hundredsLED : Nat) (keep : BitVec 32) (tensAt onesAt : Nat)
    (b : Board) (value : BitVec 8) : Board :=
  let pioVal := b.hexDigits.setWidth 32
  let b := if value.slt 0#8 then b.setLED signLED else b.clearLED signLED
  let value := if value.slt 0#8 then -value else value
  let b := if value.sdiv 100#8 ≠ 0#8 then b.setLED hundredsLED else b.clearLED hundredsLED
  let value := value.srem 100#8
  let tens := value.sdiv 10#8
  let ones := value.srem 10#8
  let pioVal := pioVal &&& keep
  let pioVal := pioVal ||| (tens.setWidth 32 <<< tensAt)
  let pioVal := pioVal ||| (ones.setWidth 32 <<< onesAt)
  { b with hexDigits := pioVal.setWidth 16 }

def printSignedHex0 : Board → BitVec 8 → Board := printSigned 11 13 0x00FF#32 12 8

def printSignedHex1 : Board → BitVec 8 → Board := printSigned 10 12 0xFF00#32 4 0

def setKeycode (b : Board) (keycode : BitVec 16) : Board :=
  { b with keycode := keycode.setWidth 8 }

/-- `*LED_PIO = value` -/
def storeLEDs (b : Board) (value : BitVec 32) : Board :=
  { b with leds := value.setWidth 14 }

/-! ## What each leaves alone -/

@[simp] theorem setLED_keycode (b : Board) (led : Nat) :
    (b.setLED led).keycode = b.keycode := rfl

@[simp] theorem clearLED_keycode (b : Board) (led : Nat) :
    (b.clearLED led).keycode = b.keycode := rfl

@[simp] theorem storeLEDs_hexDigits (b : Board) (value : BitVec 32) :
    (b.storeLEDs value).hexDigits = b.hexDigits := rfl

@[simp] theorem storeLEDs_keycode (b : Board) (value : BitVec 32) :
    (b.storeLEDs value).keycode = b.keycode := rfl

@[simp] theorem setKeycode_hexDigits (b : Board) (keycode : BitVec 16) :
    (b.setKeycode keycode).hexDigits = b.hexDigits := rfl

/-! ## One LED -/

theorem setLED_getLsbD (b : Board) {led : Nat} (hled : led < 14) (k : Nat) :
    (b.setLED led).leds.getLsbD k = if k = led then true else b.leds.getLsbD k := by
  unfold setLED
  rw [BitVec.getLsbD_or, ← BitVec.twoPow_eq, BitVec.getLsbD_twoPow]
  by_cases hk : k = led
  · simp [hk, hled]
  · simp [hk, Ne.symm hk]

theorem clearLED_getLsbD (b : Board) (led k : Nat) :
    (b.clearLED led).leds.getLsbD k = if k = led then false else b.leds.getLsbD k := by
  unfold clearLED
  rw [BitVec.getLsbD_and, BitVec.getLsbD_not, ← BitVec.twoPow_eq, BitVec.getLsbD_twoPow]
  by_cases hk : k = led
  · simp only [hk, decide_true, Bool.and_true, if_true]
    by_cases hled : led < 14 <;> simp [hled]
  · rw [if_neg hk]
    by_cases hlt : k < 14
    · simp [hlt, Ne.symm hk]
    · simp [BitVec.getLsbD_of_ge _ _ (Nat.le_of_not_lt hlt)]

/-! ## The print functions -/

/-- `value` after `value = -value`: the magnitude, except that `-128` stays. -/
def magnitude (value : BitVec 8) : BitVec 8 := if value.slt 0#8 then -value else value

def tens (value : BitVec 8) : BitVec 8 := ((magnitude value).srem 100#8).sdiv 10#8

def ones (value : BitVec 8) : BitVec 8 := ((magnitude value).srem 100#8).srem 10#8

section PrintSigned

variable {signLED hundredsLED : Nat} (keep : BitVec 32) (tensAt onesAt : Nat) (b : Board)
  (value : BitVec 8)

@[simp] theorem printSigned_keycode :
    (printSigned signLED hundredsLED keep tensAt onesAt b value).keycode = b.keycode := by
  unfold printSigned
  dsimp only
  split <;> split <;> rfl

theorem printSigned_hexDigits :
    (printSigned signLED hundredsLED keep tensAt onesAt b value).hexDigits
      = (b.hexDigits.setWidth 32 &&& keep ||| (tens value).setWidth 32 <<< tensAt
          ||| (ones value).setWidth 32 <<< onesAt).setWidth 16 := rfl

/-- The sign and the hundreds are shown, and no other LED changes. -/
theorem printSigned_leds (hs : signLED < 14) (hh : hundredsLED < 14) (k : Nat) :
    (printSigned signLED hundredsLED keep tensAt onesAt b value).leds.getLsbD k
      = if k = hundredsLED then (magnitude value).sdiv 100#8 != 0#8
        else if k = signLED then value.slt 0#8
        else b.leds.getLsbD k := by
  have hsign : (if value.slt 0#8 then b.setLED signLED else b.clearLED signLED).leds.getLsbD k
      = if k = signLED then value.slt 0#8 else b.leds.getLsbD k := by
    cases hneg : value.slt 0#8
    · exact clearLED_getLsbD b signLED k
    · exact setLED_getLsbD b hs k
  rw [← hsign]
  show (if (magnitude value).sdiv 100#8 ≠ 0#8
      then setLED (if value.slt 0#8 then b.setLED signLED else b.clearLED signLED) hundredsLED
      else clearLED (if value.slt 0#8 then b.setLED signLED else b.clearLED signLED)
        hundredsLED).leds.getLsbD k = _
  by_cases hhundreds : (magnitude value).sdiv 100#8 = 0#8
  · rw [if_neg (not_not.mpr hhundreds), clearLED_getLsbD, hhundreds]
    rfl
  · rw [if_pos hhundreds, setLED_getLsbD _ hh, bne_iff_ne.mpr hhundreds]

end PrintSigned

end Board

end SpaceInvaders
