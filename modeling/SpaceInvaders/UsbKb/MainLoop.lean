import SpaceInvaders.UsbKb.Pio

/-!
# `usb_kb`: the loop of `main`

One turn of `while (1)`, as a step on the ports and the three variables that
live across turns. What a turn learns from the USB stack is its input: the task
state (nothing between the calls of `GetUsbTaskState` in one turn changes it), the
device class `GetDriverandReport` would find, and the return code and buffer of a
poll. `continue` ends the turn.

Left out is what the turn tells the outside only: `printf`, and the calls that
drive the MAX3421E. The `mod` and `reserved` bytes of a report are never read.
-/

namespace SpaceInvaders

/-- `BOOT_KBD_REPORT` -/
structure KbdReport where
  keycode : Vector (BitVec 8) 6

/-- `keycode[0]` -/
def KbdReport.keycode0 (r : KbdReport) : BitVec 8 := r.keycode[0]

/-- `keycode[1]` -/
def KbdReport.keycode1 (r : KbdReport) : BitVec 8 := r.keycode[1]

/-- `BOOT_MOUSE_REPORT` -/
structure MouseReport where
  button : BitVec 8
  xdispl : BitVec 8
  ydispl : BitVec 8

/-- `USB_STATE_RUNNING` -/
def usbStateRunning : BitVec 8 := 0x40#8

/-- `USB_STATE_ERROR` -/
def usbStateError : BitVec 8 := 0xff#8

/-- The return code of a poll that found no new data. -/
def hrNAK : BitVec 8 := 0x04#8

/-- What a turn of the loop learns. -/
structure LoopIn where
  taskState : BitVec 8
  driver : BitVec 8
  rcode : BitVec 8
  kbdbuf : KbdReport
  buf : MouseReport

/-- The ports and the variables of `main`. `device` has no initial value. -/
structure MainState where
  board : Board
  runningdebugflag : Bool
  errorflag : Bool
  device : BitVec 8

namespace Board

/-- What `*LED_PIO` is set to for the first key code: `A`, `W`, `S`, `D`. -/
def wasd (k0 : BitVec 8) : BitVec 32 :=
  if k0 = 4#8 then 1
  else if k0 = 26#8 then 2
  else if k0 = 22#8 then 4
  else if k0 = 7#8 then 8
  else 0

/-- The ports after the numbers of a report have been printed. -/
def printReport (b : Board) (kbdbuf : KbdReport) : Board :=
  let b := b.setKeycode (kbdbuf.keycode0.setWidth 16)
  let b := b.printSignedHex0 kbdbuf.keycode0
  b.printSignedHex1 kbdbuf.keycode1

/-- The keyboard branch, after a poll that brought a report. -/
def handleKbd (b : Board) (kbdbuf : KbdReport) : Board :=
  (b.printReport kbdbuf).storeLEDs (wasd kbdbuf.keycode0)

/-- The mouse branch, after a poll that brought a report. -/
def handleMouse (b : Board) (buf : MouseReport) : Board :=
  let b := b.printSignedHex0 buf.xdispl
  let b := b.printSignedHex1 buf.ydispl
  let b := if buf.button &&& 0x04#8 ≠ 0#8 then b.setLED 2 else b.clearLED 2
  let b := if buf.button &&& 0x02#8 ≠ 0#8 then b.setLED 1 else b.clearLED 1
  if buf.button &&& 0x01#8 ≠ 0#8 then b.setLED 0 else b.clearLED 0

@[simp] theorem handleKbd_keycode (b : Board) (kbdbuf : KbdReport) :
    (b.handleKbd kbdbuf).keycode = kbdbuf.keycode0 := by
  unfold handleKbd printReport printSignedHex0 printSignedHex1
  rw [storeLEDs_keycode, printSigned_keycode, printSigned_keycode]
  show (kbdbuf.keycode0.setWidth 16).setWidth 8 = _
  rw [BitVec.setWidth_setWidth_of_le _ (by decide), BitVec.setWidth_eq]

@[simp] theorem handleMouse_keycode (b : Board) (buf : MouseReport) :
    (b.handleMouse buf).keycode = b.keycode := by
  unfold handleMouse printSignedHex0 printSignedHex1
  dsimp only
  split <;> split <;> split <;> simp

end Board

namespace MainState

/-- Both flags down, the ports at reset. -/
def powerUp (device : BitVec 8) : MainState :=
  { board := .powerUp, runningdebugflag := false, errorflag := false, device := device }

/-- One turn of the loop. -/
def iterate (s : MainState) (i : LoopIn) : MainState :=
  if i.taskState = usbStateRunning then
    if !s.runningdebugflag then
      -- the turn that finds the keyboard polls nothing
      { s with runningdebugflag := true, board := s.board.setLED 9, device := i.driver }
    else if s.device = 1#8 then
      -- both `continue`s leave the ports as the last report left them
      if i.rcode = hrNAK then s
      else if i.rcode ≠ 0#8 then s
      else { s with board := s.board.handleKbd i.kbdbuf }
    else if s.device = 2#8 then
      if i.rcode = hrNAK then s
      else if i.rcode ≠ 0#8 then s
      else { s with board := s.board.handleMouse i.buf }
    else s
  else if i.taskState = usbStateError then
    if !s.errorflag then { s with errorflag := true, board := s.board.clearLED 9 }
    else s
  else
    -- the USB hardware is initialised again, the key code is not
    let s := if s.runningdebugflag then { s with runningdebugflag := false } else s
    { s with errorflag := false, board := s.board.clearLED 9 }

/-- The turn handles a keyboard report. -/
def Handles (s : MainState) (i : LoopIn) : Prop :=
  i.taskState = usbStateRunning ∧ s.runningdebugflag = true ∧ s.device = 1#8 ∧
    i.rcode = 0#8

instance (s : MainState) (i : LoopIn) : Decidable (s.Handles i) :=
  inferInstanceAs (Decidable (_ ∧ _))

theorem iterate_handles {s : MainState} {i : LoopIn} (h : s.Handles i) :
    s.iterate i = { s with board := s.board.handleKbd i.kbdbuf } := by
  obtain ⟨hstate, hflag, hdevice, hrcode⟩ := h
  unfold iterate
  rw [if_pos hstate, hflag, if_neg (by decide), if_pos hdevice, hrcode,
    if_neg (by decide), if_neg (by decide)]

/-- Only a keyboard report moves the key code. -/
theorem iterate_keycode (s : MainState) (i : LoopIn) :
    (s.iterate i).board.keycode
      = if s.Handles i then i.kbdbuf.keycode0 else s.board.keycode := by
  by_cases h : s.Handles i
  · rw [if_pos h, iterate_handles h, Board.handleKbd_keycode]
  · rw [if_neg h]
    unfold iterate
    split_ifs with hstate hflag hdevice hnak hrcode
    all_goals try rfl
    · exact absurd ⟨hstate, by simpa using hflag, hdevice, by simpa using hrcode⟩ h
    · exact Board.handleMouse_keycode _ _

end MainState

end SpaceInvaders
