import SpaceInvaders.UsbKb.Keycode
import SpaceInvaders.UsbKb.Safety

/-!
# `usb_kb`: from the chip to the port

What the chip hands over in its FIFO during a transfer is what the transfer stores, byte
for byte (`xferInTransfer_receives`). `main` reads the first key of a report at its third
byte, after a poll that returned zero, and nowhere else. So the key code is followed from
end to end: as long as no report is shorter than three bytes, the port holds the third byte
of the latest one (`run_keycode`). Of a shorter report it would show what stood in the
buffer.
-/

namespace SpaceInvaders

open Clocked (held)
open Memory (store)

/-! ## What comes out of the FIFO -/

namespace Host

/-- The bytes that have been read from the FIFO, in order. -/
def fifo (c : Controller) : List BusEvent → List (BitVec 8)
  | [] => []
  | .spi [reg] n :: log =>
    if reg = MaxReg.rRCVFIFO.byte then
      fifo c log ++ (List.range n).map (c.reply (.spi [reg] n :: log))
    else fifo c log
  | _ :: log => fifo c log

/-- Only a read of the FIFO takes something out. -/
theorem unmoved_fifo (c : Controller) : Unmoved c fun w => fifo c w.log where
  clock := fun _ => rfl
  write := fun _ _ _ => rfl
  read := by
    intro w r hr
    have hbyte : r.byte ≠ MaxReg.rRCVFIFO.byte := by
      cases r with
      | rRCVFIFO => exact absurd rfl hr
      | _ => decide
    exact if_neg hbyte

end Host

namespace InTransfer

/-- What is stored from `start` on is what has come out of the FIFO since the transfer began
at `w`. -/
def Receives (c : Controller) (start : Nat) (w : Host) (s : InTransfer) : Prop :=
  ∃ bytes : List (BitVec 8), s.data = start + bytes.length ∧
    s.host.mem = store w.mem start bytes ∧
    Host.fifo c s.host.log = Host.fifo c w.log ++ bytes

variable {c : Controller} {turns : Nat} {ep : BitVec 8} {nbytes : BitVec 16}
  {maxpktsize : BitVec 8} {start : Nat} {w : Host} {s : InTransfer}

theorem Receives.of_same {s' : InTransfer} (h : Receives c start w s) (hdata : s'.data = s.data)
    (hmem : s'.host.mem = s.host.mem)
    (hfifo : Host.fifo c s'.host.log = Host.fifo c s.host.log) : Receives c start w s' := by
  unfold Receives
  rw [hdata, hmem, hfifo]
  exact h

/-- A packet is taken out and stored behind the others. -/
theorem Receives.take (h : Receives c start w s) {pktsize : BitVec 8} {v : Host}
    (hmem : v.mem = s.host.mem) (hfifo : Host.fifo c v.log = Host.fifo c s.host.log) :
    Receives c start w (s.take c nbytes maxpktsize pktsize v) := by
  obtain ⟨bytes, hdata, hstored, hout⟩ := h
  -- the state once the packet is out, before the interrupt is acknowledged
  have hpacket : Receives c start w { s with
      host := (v.maxBytesRd c MaxReg.rRCVFIFO.byte pktsize s.data).2,
      data := s.data + pktsize.toNat } := by
    refine ⟨bytes ++ (v.spiCommand [MaxReg.rRCVFIFO.byte] pktsize.toNat).received c
      pktsize.toNat, ?_, ?_, ?_⟩
    · rw [List.length_append, Host.length_received, ← Nat.add_assoc, ← hdata]
    · rw [Host.maxBytesRd_mem, hmem, hstored, hdata, Memory.store_append]
    · rw [← List.append_assoc, ← hout, ← hfifo]
      exact if_pos rfl
  have hread := (Host.unmoved_fifo c).read
    ((v.maxBytesRd c MaxReg.rRCVFIFO.byte pktsize s.data).2.maxRegWr MaxReg.rHIRQ.byte
      bmRCVDAVIRQ) .rHRSL (by simp)
  unfold InTransfer.take
  dsimp only
  split_ifs
  · exact hpacket.of_same rfl rfl hread
  · exact hpacket.of_same rfl rfl hread
  · exact hpacket.of_same rfl rfl rfl

theorem Receives.turn (h : Receives c start w s) :
    Receives c start w (s.turn c turns ep nbytes maxpktsize) := by
  unfold InTransfer.turn
  cases s.rcode with
  | some rcode => exact h
  | none =>
    cases hfetch : s.host.fetch c turns ep with
    | waiting => exact h
    | returns rcode v =>
      exact h.of_same rfl ((Host.fetch_unmoved (Host.unmoved_mem c)).1 rcode hfetch)
        ((Host.fetch_unmoved (Host.unmoved_fifo c)).1 rcode hfetch)
    | packet pktsize v =>
      exact h.take ((Host.fetch_unmoved (Host.unmoved_mem c)).2 pktsize hfetch)
        ((Host.fetch_unmoved (Host.unmoved_fifo c)).2 pktsize hfetch)

end InTransfer

/-- **What the chip hands over is stored**, byte for byte. -/
theorem Host.xferInTransfer_receives (c : Controller) (turns : Nat) (epinfo : EpRecord)
    (ep : BitVec 8) (nbytes : BitVec 16) (data : Nat) (maxpktsize : BitVec 8) (w : Host)
    (k : Nat) :
    InTransfer.Receives c data w
      (w.xferInTransfer c turns epinfo ep nbytes data maxpktsize k) := by
  induction k with
  | zero => exact ⟨[], rfl, rfl, (List.append_nil _).symm⟩
  | succ k ih =>
    unfold Host.xferInTransfer
    rw [Function.iterate_succ_apply']
    exact ih.turn

/-- The bytes a poll gets are in the buffer. -/
theorem Usb.poll_receives {env : UsbEnv} {u v : Usb} {buf : Buffer} {rcode : BitVec 8}
    (h : u.poll env buf = .ret (rcode, v)) :
    ∃ bytes : List (BitVec 8), v.host.mem = store u.host.mem buf.start bytes ∧
      Host.fifo env.ctl v.host.log = Host.fifo env.ctl u.host.log ++ bytes := by
  obtain ⟨slot, -, h⟩ := Call.bind_eq_ret h
  obtain ⟨slot', -, h⟩ := Call.bind_eq_ret h
  dsimp only at h
  split_ifs at h
  obtain ⟨code, -, hret⟩ := Call.bind_eq_ret h
  cases hret
  obtain ⟨bytes, -, hmem, hfifo⟩ := Host.xferInTransfer_receives env.ctl env.turns _ 1#8 8#16
    buf.start _ (u.maxRegWr MaxReg.rPERADDR.byte u.vars.hidAddr).host env.turns
  exact ⟨bytes, hmem, hfifo⟩

/-! ## The key code -/

namespace UsbMain

variable (env : UsbEnv) (device : BitVec 8) (pins : Nat → UsbPins)

/-- What a turn learns. -/
def learns (m : UsbMain) (pin : UsbPins) : Call UsbFault (LoopIn × Usb) := do
  let u ← (m.usb.max3421eTask env pin).usbTask env
  u.ask env m.main

/-- The report that turn `t` gets from a keyboard, if it gets one: what the chip hands over
during a poll that returns zero. -/
def report (t : Nat) : Option (List (BitVec 8)) := do
  let m ← (run env device pins t).ret?
  let u ← ((m.usb.max3421eTask env (pins t)).usbTask env).ret?
  if u.vars.usbTaskState = usbStateRunning ∧ m.main.runningdebugflag = true ∧
      m.main.device = 1#8 then
    let (rcode, v) ← (u.kbdPoll env).ret?
    if rcode = 0#8 then
      some ((Host.fifo env.ctl v.host.log).drop (Host.fifo env.ctl u.host.log).length)
    else none
  else none

/-- The first key of a report. -/
def firstKey (bytes : List (BitVec 8)) : BitVec 8 := bytes.getD 2 0

variable {env device pins} {m : UsbMain} {n : Nat}

theorem turn_eq_ret {pin : UsbPins} {m' : UsbMain} (h : m.turn env pin = .ret m') :
    ∃ i, m.learns env pin = .ret (i, m'.usb) ∧ m'.main = m.main.iterate i := by
  obtain ⟨u, hu, h⟩ := Call.bind_eq_ret h
  obtain ⟨⟨i, v⟩, hask, h⟩ := Call.bind_eq_ret h
  cases h
  refine ⟨i, ?_, rfl⟩
  unfold learns
  rw [hu]
  exact hask

theorem run_succ_eq_ret {m' : UsbMain} (h : run env device pins (n + 1) = .ret m') :
    ∃ m, run env device pins n = .ret m ∧ m.turn env (pins n) = .ret m' := by
  obtain ⟨m₀, hboot, h⟩ := Call.bind_eq_ret h
  obtain ⟨m, hrun, h⟩ := Call.bind_eq_ret h
  refine ⟨m, ?_, h⟩
  unfold run
  rw [hboot]
  exact hrun

theorem run_zero_eq_ret (h : run env device pins 0 = .ret m) : m.main = .powerUp device := by
  obtain ⟨m₀, hboot, h⟩ := Call.bind_eq_ret h
  obtain ⟨u, -, hboot⟩ := Call.bind_eq_ret hboot
  cases h
  cases hboot
  rfl

/-- The input says what state the stack is in. -/
theorem ask_taskState {u v : Usb} {s : MainState} {i : LoopIn} (h : u.ask env s = .ret (i, v)) :
    i.taskState = u.vars.usbTaskState := by
  simp only [Usb.ask] at h
  split_ifs at h
  · obtain ⟨⟨code, w⟩, -, h⟩ := Call.bind_eq_ret h
    cases h
    rfl
  · obtain ⟨⟨code, w⟩, -, h⟩ := Call.bind_eq_ret h
    cases h
    rfl
  · obtain ⟨⟨code, w⟩, -, h⟩ := Call.bind_eq_ret h
    cases h
    rfl
  · cases h
    rfl
  · cases h
    rfl
  · obtain ⟨w, -, h⟩ := Call.bind_eq_ret h
    cases h
    rfl
  · cases h
    rfl

/-- Of a keyboard it says how the poll went, and what the buffer holds. -/
theorem ask_keyboard {u v : Usb} {s : MainState} {i : LoopIn} (h : u.ask env s = .ret (i, v))
    (hrun : u.vars.usbTaskState = usbStateRunning) (hup : s.runningdebugflag = true)
    (hdevice : s.device = 1#8) :
    u.kbdPoll env = .ret (i.rcode, v) ∧
      i.kbdbuf.keycode0 = v.byte env (kbdbuf.start + 2) := by
  simp only [Usb.ask, if_pos hrun, hup, hdevice, Bool.not_true, Bool.false_eq_true, if_false,
    if_true] at h
  obtain ⟨⟨code, w⟩, hpoll, h⟩ := Call.bind_eq_ret h
  cases h
  refine ⟨hpoll, ?_⟩
  show (Vector.ofFn _)[0] = _
  rw [Vector.getElem_ofFn]
  rfl

/-- The third byte of a report is the key that stands in the buffer. -/
theorem byte_of_report {u v : Usb} {rcode : BitVec 8} {bytes : List (BitVec 8)}
    (h : u.kbdPoll env = .ret (rcode, v))
    (hbytes : (Host.fifo env.ctl v.host.log).drop (Host.fifo env.ctl u.host.log).length = bytes)
    (hlong : 3 ≤ bytes.length) : v.byte env (kbdbuf.start + 2) = firstKey bytes := by
  obtain ⟨got, hmem, hfifo⟩ := Usb.poll_receives h
  rw [hfifo, List.drop_left] at hbytes
  subst hbytes
  unfold Usb.byte firstKey
  rw [hmem, Memory.store_apply, if_pos ⟨Nat.le_add_right .., by omega⟩, Nat.add_sub_cancel_left,
    List.getD_eq_getElem?_getD, List.getElem?_eq_getElem (by omega)]
  rfl

theorem report_eq {u : Usb} (hrun : run env device pins n = .ret m)
    (hu : (m.usb.max3421eTask env (pins n)).usbTask env = .ret u) :
    report env device pins n
      = if u.vars.usbTaskState = usbStateRunning ∧ m.main.runningdebugflag = true ∧
          m.main.device = 1#8 then
          (u.kbdPoll env).ret? >>= fun r =>
            if r.1 = 0#8 then
              some ((Host.fifo env.ctl r.2.host.log).drop
                (Host.fifo env.ctl u.host.log).length)
            else none
        else none := by
  unfold report
  rw [hrun]
  show ((Usb.usbTask env _).ret? >>= _) = _
  rw [hu]
  rfl

/-- A turn moves the key code if it gets a report from a keyboard, and not otherwise. -/
theorem turn_keycode {m' : UsbMain} (hrun : run env device pins n = .ret m)
    (hturn : m.turn env (pins n) = .ret m')
    (hlong : ∀ bytes ∈ report env device pins n, 3 ≤ bytes.length) :
    m'.main.board.keycode
      = ((report env device pins n).map firstKey).getD m.main.board.keycode := by
  obtain ⟨i, hlearns, hmain⟩ := turn_eq_ret hturn
  obtain ⟨u, hu, hask⟩ := Call.bind_eq_ret hlearns
  have hstate := ask_taskState hask
  rw [report_eq hrun hu] at hlong ⊢
  rw [hmain, MainState.iterate_keycode]
  by_cases hkbd : u.vars.usbTaskState = usbStateRunning ∧ m.main.runningdebugflag = true ∧
      m.main.device = 1#8
  · obtain ⟨hpoll, hkey⟩ := ask_keyboard hask hkbd.1 hkbd.2.1 hkbd.2.2
    rw [if_pos hkbd, hpoll] at hlong ⊢
    simp only [Call.ret?, Option.bind_eq_bind, Option.bind_some] at hlong ⊢
    by_cases hrcode : i.rcode = 0#8
    · rw [if_pos hrcode] at hlong ⊢
      rw [if_pos ⟨hstate.trans hkbd.1, hkbd.2.1, hkbd.2.2, hrcode⟩, hkey]
      exact byte_of_report hpoll rfl (hlong _ rfl)
    · -- a poll that failed moves nothing, whatever it has stored
      rw [if_neg fun h => hrcode h.2.2.2, if_neg hrcode]
      rfl
  · rw [if_neg hkbd, if_neg fun h => hkbd ⟨hstate ▸ h.1, h.2.1, h.2.2.1⟩]
    rfl

/-- **From the keyboard to the port**: it holds the first key of the latest report. -/
theorem run_keycode (h : run env device pins n = .ret m)
    (hlong : ∀ t < n, ∀ bytes ∈ report env device pins t, 3 ≤ bytes.length) :
    m.main.board.keycode
      = held 0#8 (fun t => (report env device pins t).map firstKey) n := by
  induction n generalizing m with
  | zero =>
    rw [run_zero_eq_ret h]
    rfl
  | succ n ih =>
    obtain ⟨m₀, hrun, hturn⟩ := run_succ_eq_ret h
    rw [turn_keycode hrun hturn (hlong n (Nat.lt_succ_self n)),
      ih hrun fun t ht => hlong t (Nat.lt_succ_of_lt ht)]
    rfl

/-- The key that is down gets through. -/
theorem keyboard_keycode :
    held 0#8 (fun t => (report keyboardEnv 0 (fun _ => ⟨true, false⟩) t).map
      firstKey) 9 = 0x04#8 := by
  obtain ⟨m, hm, -, -, hkey⟩ := keyboard_found
  exact (run_keycode hm (by decide +kernel)).symm.trans hkey

end UsbMain

end SpaceInvaders
