import SpaceInvaders.Clocked.Run
import SpaceInvaders.UsbKb.MainLoop

/-!
# The key code and the end of a keyboard

The game reads the keys from the `KEYCODE` port. The port is written in one place,
by the turn that handles a report, so it holds the first key of the latest report
for good (`keycode_eq`). The branches that leave the running state put LED 9 out
and take the flags back, and leave the port as it is: a key that was down when
the keyboard went stays down (`releasesKeys_iff`).
-/

namespace SpaceInvaders

open Clocked (run run_succ held)

namespace MainState

variable (s₀ : MainState) (inp : Nat → LoopIn)

/-- The first key of the report the turn handles, if it handles one. -/
def reported (t : Nat) : Option (BitVec 8) :=
  if (run iterate s₀ inp t).Handles (inp t) then some (inp t).kbdbuf.keycode0 else none

/-- The first key of the latest report handled before turn `t`, or what the port
held at the start. -/
def lastKey : Nat → BitVec 8 := held s₀.board.keycode (reported s₀ inp)

/-- No key is down at the end of a turn that does not find the running state. -/
def ReleasesKeys : Prop :=
  ∀ t, (inp t).taskState ≠ usbStateRunning →
    (run iterate s₀ inp (t + 1)).board.keycode = 0#8

variable {s₀ inp}

/-- **The port holds the latest key.** -/
theorem keycode_eq (t : Nat) :
    (run iterate s₀ inp t).board.keycode = lastKey s₀ inp t := by
  induction t with
  | zero => rfl
  | succ t ih =>
    rw [run_succ, iterate_keycode]
    by_cases h : (run iterate s₀ inp t).Handles (inp t)
    · rw [if_pos h]
      exact (Clocked.held_some (if_pos h)).symm
    · rw [if_neg h, ih]
      exact (Clocked.held_none (if_neg h)).symm

/-- A turn outside the running state handles nothing. -/
theorem lastKey_succ {t : Nat} (h : (inp t).taskState ≠ usbStateRunning) :
    lastKey s₀ inp (t + 1) = lastKey s₀ inp t :=
  Clocked.held_none (if_neg fun hhandles => h hhandles.1)

/-- **When no key outlives its keyboard**: when at each turn outside the running
state the latest report, if there was one, was of no key. -/
theorem releasesKeys_iff :
    ReleasesKeys s₀ inp ↔
      ∀ t, (inp t).taskState ≠ usbStateRunning → lastKey s₀ inp t = 0#8 := by
  unfold ReleasesKeys
  refine forall_congr' fun t => ?_
  refine imp_congr_right fun h => ?_
  rw [keycode_eq, lastKey_succ h]

/-- A keyboard is found, reports `A` down, and is unplugged. -/
def unplugged : Nat → LoopIn := fun t =>
  { taskState := if t < 2 then usbStateRunning else 0x10#8
    driver := 1, rcode := 0, kbdbuf := { keycode := #v[0x04, 0, 0, 0, 0, 0] }
    buf := { button := 0, xdispl := 0, ydispl := 0 } }

/-- The ship goes on to the left. -/
theorem unplugged_holds_key : ¬ ReleasesKeys (powerUp 0) unplugged := by
  intro h
  exact absurd (h 2 (by decide)) (by decide)

end MainState

end SpaceInvaders
