import SpaceInvaders.UsbKb.Safety

/-!
# `usb_kb`: what a control transfer tells the chip

What the driver writes to the chip is what it makes it do: `PERADDR` says to whom, `SUDFIFO`
holds a request, a write to `HXFR` launches a packet, and `HCTL` sets the data toggle, or
resets the bus. `wire` is all that a log writes, in order, but for the interrupts it
acknowledges. A packet is launched again while the device is not ready or does not answer,
but never more than 202 times (`xferDispatchPkt_wire`), and a control transfer is its stages
one after the other: the request goes to its address, its bytes as the request says, then
setup packets, then the toggle and IN packets only if there is a buffer, then status packets
of the other direction; none follows a stage that failed, and nothing else is written
(`xferCtrlReq_wire`).
-/

namespace SpaceInvaders

/-- A write: the command byte and the data. -/
structure UsbOut where
  cmd : BitVec 8
  bytes : List (BitVec 8)
  deriving DecidableEq

namespace UsbOut

/-- `PERADDR` is written. -/
def address (addr : BitVec 8) : UsbOut := ⟨MaxReg.rPERADDR.byte + 2#8, [addr]⟩

/-- `SUDFIFO` is written. -/
def request (bytes : List (BitVec 8)) : UsbOut := ⟨MaxReg.rSUDFIFO.byte + 2#8, bytes⟩

/-- `HXFR` is written. -/
def packet (hxfr : BitVec 8) : UsbOut := ⟨MaxReg.rHXFR.byte + 2#8, [hxfr]⟩

/-- `HCTL` is written. -/
def control (hctl : BitVec 8) : UsbOut := ⟨MaxReg.rHCTL.byte + 2#8, [hctl]⟩

end UsbOut

/-- What a transaction writes, if it is not a read; to write `HIRQ` is to acknowledge an
interrupt. -/
def BusEvent.usbOut : BusEvent → Option UsbOut
  | .spi (cmd :: bytes) _ =>
    if cmd &&& 0x02#8 = 0#8 ∨ cmd = MaxReg.rHIRQ.byte + 2#8 then none else some ⟨cmd, bytes⟩
  | _ => none

/-- What a log writes, in order. -/
def wire (log : List BusEvent) : List UsbOut := (log.filterMap BusEvent.usbOut).reverse

theorem wire_cons (e : BusEvent) (log : List BusEvent) :
    wire (e :: log) = wire log ++ e.usbOut.toList := by
  unfold wire
  cases h : e.usbOut with
  | none => rw [List.filterMap_cons_none h, Option.toList_none, List.append_nil]
  | some out => rw [List.filterMap_cons_some h, List.reverse_cons, Option.toList_some]

theorem wire_quiet {e : BusEvent} (h : e.usbOut = none) (log : List BusEvent) :
    wire (e :: log) = wire log := by
  rw [wire_cons, h, Option.toList_none, List.append_nil]

/-- A read writes nothing. -/
theorem usbOut_read (r : MaxReg) (n : Nat) : (BusEvent.spi [r.byte] n).usbOut = none :=
  if_pos (Or.inl (Host.command_bit r).1)

namespace Host

variable {c : Controller} {turns : Nat} {w w' : Host} {token ep rcode : BitVec 8}

theorem awaitTransfer_wire {timeout : BitVec 32}
    (h : w.awaitTransfer c timeout turns = some (rcode, w')) : wire w'.log = wire w.log := by
  induction turns generalizing w with
  | zero => cases h
  | succ turns ih =>
    simp only [awaitTransfer] at h
    split_ifs at h
    · cases h
      rfl
    · exact (ih h).trans rfl
    · cases h
      rfl

/-- Each refusal and each loss is counted, and the counts have limits. -/
theorem launchLoop_wire {timeout : BitVec 32} {launches : Nat} {retryCount nakCount : BitVec 8}
    (hretry : retryCount < usbRetryLimit) (hnak : nakCount < usbNakLimit)
    (h : launchLoop c turns timeout token ep launches retryCount nakCount w
      = some (rcode, w')) :
    ∃ k, 1 ≤ k ∧ k + retryCount.toNat + nakCount.toNat ≤ 202 ∧
      wire w'.log = wire w.log ++ List.replicate k (.packet (token ||| ep)) := by
  induction launches generalizing w retryCount nakCount with
  | zero => cases h
  | succ launches ih =>
    have hretry3 : retryCount.toNat < 3 := hretry
    have hnak200 : nakCount.toNat < 200 := hnak
    rw [launchLoop] at h
    split at h
    next => cases h
    next code v hawait =>
      have hv : wire v.log = wire w.log ++ [.packet (token ||| ep)] :=
        (awaitTransfer_wire hawait).trans (wire_cons ..)
      have hend : ∀ log, wire log = wire v.log →
          ∃ k, 1 ≤ k ∧ k + retryCount.toNat + nakCount.toNat ≤ 202 ∧
            wire log = wire w.log ++ List.replicate k (.packet (token ||| ep)) :=
        fun log hlog => ⟨1, Nat.le_refl 1, by omega, hlog.trans hv⟩
      have hagain : ∀ k, wire w'.log = wire v.log ++ List.replicate k (.packet (token ||| ep)) →
          wire w'.log = wire w.log ++ List.replicate (k + 1) (.packet (token ||| ep)) := by
        intro k hk
        rw [hk, hv, List.append_assoc, List.singleton_append, List.replicate_succ]
      have hone : (1#8).toNat = 1 := rfl
      have hadd : ∀ count : BitVec 8, count.toNat < 200 → (count + 1#8).toNat = count.toNat + 1 := by
        intro count hcount
        rw [BitVec.toNat_add]
        omega
      simp only at h
      split_ifs at h with hcode hnakd hlimit hlost hlimit
      · cases h
        exact hend _ rfl
      · cases h
        exact hend _ rfl
      · -- refused
        have hnext := hadd nakCount hnak200
        have hlt : nakCount + 1#8 < usbNakLimit := by
          refine BitVec.lt_def.mpr (Nat.lt_of_le_of_ne ?_ fun heq =>
            hlimit (BitVec.eq_of_toNat_eq heq))
          rw [hnext]
          exact hnak200
        obtain ⟨k, -, hle, hk⟩ := ih hretry hlt h
        rw [hnext] at hle
        exact ⟨k + 1, by omega, by omega, hagain k hk⟩
      · cases h
        exact hend _ rfl
      · -- lost
        have hnext := hadd retryCount (by omega)
        have hlt : retryCount + 1#8 < usbRetryLimit := by
          refine BitVec.lt_def.mpr (Nat.lt_of_le_of_ne ?_ fun heq =>
            hlimit (BitVec.eq_of_toNat_eq heq))
          rw [hnext]
          exact hretry3
        obtain ⟨k, -, hle, hk⟩ := ih hlt hnak h
        rw [hnext] at hle
        exact ⟨k + 1, by omega, by omega, hagain k hk⟩
      · cases h
        exact hend _ rfl

/-- **A packet** is launched at least once, and at most 202 times. -/
theorem xferDispatchPkt_wire (h : w.xferDispatchPkt c turns token ep = some (rcode, w')) :
    ∃ k, 1 ≤ k ∧ k ≤ 202 ∧
      wire w'.log = wire w.log ++ List.replicate k (.packet (token ||| ep)) := by
  obtain ⟨k, hpos, hle, hk⟩ := launchLoop_wire (by decide) (by decide) h
  exact ⟨k, hpos, hle, hk⟩

/-- What has been launched when an IN packet has been fetched, or has failed. -/
theorem fetch_wire :
    (∀ rcode, w.fetch c turns ep = .returns rcode w' → rcode ≠ 0#8 ∧
        ∃ k, wire w'.log = wire w.log ++ List.replicate k (.packet (tokIN ||| ep))) ∧
      ∀ pktsize, w.fetch c turns ep = .packet pktsize w' →
        ∃ k, 1 ≤ k ∧ wire w'.log = wire w.log ++ List.replicate k (.packet (tokIN ||| ep)) := by
  unfold fetch
  split
  next => exact ⟨nofun, nofun⟩
  next code v hdispatch =>
    obtain ⟨k, hpos, -, hk⟩ := xferDispatchPkt_wire hdispatch
    simp only
    split_ifs with hcode
    · refine ⟨fun _ h => ?_, nofun⟩
      cases h
      exact ⟨hcode, k, hk⟩
    · refine ⟨fun _ h => ?_, nofun⟩
      cases h
      exact ⟨by decide, k, hk⟩
    · refine ⟨nofun, fun _ h => ?_⟩
      cases h
      exact ⟨k, hpos, hk⟩

end Host

namespace InTransfer

variable {c : Controller} {turns : Nat} {ep : BitVec 8} {nbytes : BitVec 16}
  {maxpktsize : BitVec 8} {s : InTransfer}

/-- Behind `front` only IN packets have been launched, and some if the transfer has
succeeded. -/
def Launched (front : List UsbOut) (ep : BitVec 8) (s : InTransfer) : Prop :=
  ∃ k, wire s.host.log = front ++ List.replicate k (.packet (tokIN ||| ep)) ∧
    (s.rcode = some 0#8 → 1 ≤ k)

/-- To store a packet writes nothing. -/
theorem take_wire (pktsize : BitVec 8) (w : Host) :
    wire (s.take c nbytes maxpktsize pktsize w).host.log = wire w.log := by
  have hread : wire (.spi [MaxReg.rHIRQ.byte + 2#8, bmRCVDAVIRQ] 0
      :: .spi [MaxReg.rRCVFIFO.byte] pktsize.toNat :: w.log) = wire w.log :=
    (wire_quiet rfl _).trans (wire_quiet (usbOut_read .rRCVFIFO _) _)
  unfold take
  dsimp only
  split_ifs
  · exact (wire_quiet (usbOut_read .rHRSL 1) _).trans hread
  · exact (wire_quiet (usbOut_read .rHRSL 1) _).trans hread
  · exact hread

theorem Launched.turn {front : List UsbOut} (h : Launched front ep s) :
    Launched front ep (s.turn c turns ep nbytes maxpktsize) := by
  have hsame := h
  obtain ⟨k, hk, -⟩ := h
  have hmore : ∀ {log : List BusEvent} {j : Nat},
      wire log = wire s.host.log ++ List.replicate j (.packet (tokIN ||| ep)) →
      wire log = front ++ List.replicate (k + j) (.packet (tokIN ||| ep)) := by
    intro log j hj
    rw [hj, hk, List.append_assoc, List.replicate_append_replicate]
  unfold InTransfer.turn
  cases hcode : s.rcode with
  | some rcode => exact hsame
  | none =>
    cases hfetch : s.host.fetch c turns ep with
    | waiting => exact hsame
    | returns rcode w =>
      obtain ⟨hne, j, hj⟩ := Host.fetch_wire.1 rcode hfetch
      exact ⟨k + j, hmore hj, fun hzero => absurd (Option.some.inj hzero) hne⟩
    | packet pktsize w =>
      obtain ⟨j, hpos, hj⟩ := Host.fetch_wire.2 pktsize hfetch
      exact ⟨k + j, (take_wire pktsize w).trans (hmore hj), fun _ => by omega⟩

end InTransfer

/-- A transfer sets the toggle, and then launches IN packets only. -/
theorem Host.xferInTransfer_wire (c : Controller) (turns : Nat) (epinfo : EpRecord)
    (ep : BitVec 8) (nbytes : BitVec 16) (data : Nat) (maxpktsize : BitVec 8) (w : Host)
    (k : Nat) :
    InTransfer.Launched (wire w.log ++ [.control epinfo.rcvToggle]) ep
      (w.xferInTransfer c turns epinfo ep nbytes data maxpktsize k) := by
  induction k with
  | zero => exact ⟨0, (wire_cons ..).trans (List.append_nil _).symm, nofun⟩
  | succ k ih =>
    have hstep : w.xferInTransfer c turns epinfo ep nbytes data maxpktsize (k + 1)
        = (w.xferInTransfer c turns epinfo ep nbytes data maxpktsize k).turn c turns ep nbytes
            maxpktsize :=
      Function.iterate_succ_apply' ..
    rw [hstep]
    exact ih.turn

namespace Usb

variable {env : UsbEnv} {u v : Usb} {addr ep rcode token : BitVec 8}

theorem xferDispatchPkt_wire (h : u.xferDispatchPkt env token ep = .ret (rcode, v)) :
    ∃ k, 1 ≤ k ∧ k ≤ 202 ∧
      wire v.host.log = wire u.host.log ++ List.replicate k (.packet (token ||| ep)) := by
  obtain ⟨⟨code, w⟩, hdispatch, hret⟩ := Call.bind_eq_ret h
  cases hret
  exact Host.xferDispatchPkt_wire (Call.ofTurns_eq_ret hdispatch)

theorem xferInTransfer_wire {nbytes : BitVec 16} {data : Buffer} {maxpktsize : BitVec 8}
    {slot : EpSlot} (hslot : u.epinfo addr ep = .ret slot)
    (h : u.xferInTransfer env addr ep nbytes data maxpktsize = .ret (rcode, v)) :
    ∃ k, (rcode = 0#8 → 1 ≤ k) ∧
      wire v.host.log = wire u.host.log ++ [.control (u.ep slot).rcvToggle]
        ++ List.replicate k (.packet (tokIN ||| ep)) := by
  unfold xferInTransfer at h
  rw [hslot, Call.bind_ret] at h
  dsimp only at h
  split_ifs at h
  obtain ⟨code, hcode, hret⟩ := Call.bind_eq_ret h
  cases hret
  obtain ⟨k, hk, hpos⟩ := Host.xferInTransfer_wire env.ctl env.turns (u.ep slot).toEpRecord ep
    nbytes data.start maxpktsize u.host env.turns
  refine ⟨k, fun hzero => hpos ?_, hk⟩
  rw [Call.ofTurns_eq_ret hcode, hzero]

/-- The stages of a transfer: setup packets, the toggle and IN packets if there is a buffer,
and status packets of the token `status`. With the code of success each has been launched. -/
def Stages (ep status : BitVec 8) (data : Bool) (rcode : BitVec 8) (sent : List UsbOut) :
    Prop :=
  ∃ a toggles b c, sent = List.replicate a (.packet (tokSETUP ||| ep))
        ++ (List.replicate toggles (.control bmRCVTOG1)
          ++ List.replicate b (.packet (tokIN ||| ep)))
        ++ List.replicate c (.packet (status ||| ep)) ∧
      (1 ≤ a ∧ a ≤ 202) ∧ toggles ≤ 1 ∧ c ≤ 202 ∧ (data = false → toggles = 0) ∧
      (toggles = 0 → b = 0) ∧ (rcode = 0#8 → 1 ≤ c ∧ (data = true → 1 ≤ b))

/-- The token that ends a transfer: OUT after an IN transfer, and IN after one without. -/
def statusToken (p : SetupPkt) : BitVec 8 :=
  if p.bmRequestType &&& 0x80#8 ≠ 0#8 then tokOUTHS else tokINHS

theorem xferCtrlData_wire {nbytes : BitVec 16} {data : Buffer} {direction : Bool}
    (h : u.xferCtrlData env addr ep nbytes data direction = .ret (rcode, v)) :
    ∃ toggles b c, wire v.host.log = wire u.host.log
        ++ ((List.replicate toggles (.control bmRCVTOG1)
            ++ List.replicate b (.packet (tokIN ||| ep)))
          ++ List.replicate c (.packet (tokOUTHS ||| ep))) ∧
      toggles ≤ 1 ∧ c ≤ 202 ∧ (toggles = 0 → b = 0) ∧ (direction = false → c = 0) ∧
      (rcode = 0#8 → 1 ≤ c ∧ 1 ≤ b) := by
  unfold xferCtrlData at h
  split_ifs at h with hdirection
  · obtain ⟨slot, hslot, h⟩ := Call.bind_eq_ret h
    obtain ⟨⟨code, w⟩, hin, h⟩ := Call.bind_eq_ret h
    have hslot' : (u.setEp slot { u.ep slot with rcvToggle := bmRCVTOG1 }).epinfo addr ep
        = .ret slot := hslot
    obtain ⟨b, hpos, hb⟩ := xferInTransfer_wire hslot' hin
    -- the record of the endpoint has just been given this toggle
    have hfront : wire w.host.log = wire u.host.log ++ (List.replicate 1 (.control bmRCVTOG1)
        ++ List.replicate b (.packet (tokIN ||| ep))) := by
      rw [hb, List.append_assoc]
      simp only [setEp, Function.update_self]
      rfl
    dsimp only at h
    split_ifs at h with hcode
    · cases h
      refine ⟨1, b, 0, ?_, by omega, by omega, fun hnone => absurd hnone Nat.one_ne_zero,
        fun _ => rfl, fun hzero => absurd hzero hcode⟩
      rw [List.replicate_zero, List.append_nil]
      exact hfront
    · obtain ⟨c, hc, hle, hstatus⟩ := xferDispatchPkt_wire h
      refine ⟨1, b, c, ?_, by omega, hle, fun hnone => absurd hnone Nat.one_ne_zero,
        fun hout => absurd (hout.symm.trans hdirection) (by decide),
        fun _ => ⟨hc, hpos (not_not.mp hcode)⟩⟩
      rw [hstatus, ← List.append_assoc]
      exact congrArg (· ++ _) hfront
  · cases h
    refine ⟨0, 0, 0, by simp, by omega, by omega, fun _ => rfl, fun _ => rfl, fun hzero => ?_⟩
    exact absurd hzero (by decide)

/-- **A control transfer is its stages**, in order, behind its address and its request. -/
theorem xferCtrlReq_wire {p : SetupPkt} {dataptr : Option Buffer}
    (h : u.xferCtrlReq env addr ep p dataptr = .ret (rcode, v)) :
    ∃ sent, wire v.host.log = wire u.host.log ++ [.address addr, .request p.bytes] ++ sent ∧
      Stages ep (statusToken p) dataptr.isSome rcode sent := by
  unfold xferCtrlReq at h
  dsimp only at h
  rw [maxBytesWr_setup, Call.bind_ret] at h
  obtain ⟨⟨code, w⟩, hsetup, h⟩ := Call.bind_eq_ret h
  obtain ⟨a, ha, hale, hw⟩ := xferDispatchPkt_wire hsetup
  have hfront : wire w.host.log = wire u.host.log ++ [.address addr, .request p.bytes]
      ++ List.replicate a (.packet (tokSETUP ||| ep)) := by
    rw [hw]
    refine congrArg (· ++ _) ?_
    have hlog : ((u.maxRegWr MaxReg.rPERADDR.byte addr).assign setupPkt p.bytes).host.log
        = .spi [MaxReg.rPERADDR.byte + 2#8, addr] 0 :: u.host.log := rfl
    refine (wire_cons ..).trans ?_
    rw [hlog, wire_cons, List.append_assoc]
    rfl
  dsimp only at h
  split_ifs at h with hcode
  · cases h
    refine ⟨_, hfront, a, 0, 0, 0, by simp, ⟨ha, hale⟩, by omega, by omega, fun _ => rfl,
      fun _ => rfl, fun hzero => absurd hzero hcode⟩
  · cases dataptr with
    | none =>
      obtain ⟨c, hc, hcle, hv⟩ := xferDispatchPkt_wire h
      have htoken : (if decide (p.bmRequestType &&& 0x80#8 ≠ 0#8) = true then tokOUTHS
          else tokINHS) = statusToken p := by
        simp only [decide_eq_true_eq]
        rfl
      rw [htoken] at hv
      refine ⟨_, hv.trans ?_, a, 0, 0, c, rfl, ⟨ha, hale⟩, by omega, hcle, fun _ => rfl,
        fun _ => rfl, fun _ => ⟨hc, nofun⟩⟩
      rw [hfront, List.replicate_zero, List.replicate_zero, List.append_nil, List.append_nil,
        List.append_assoc]
    | some data =>
      obtain ⟨toggles, b, c, hv, hone, hcle, hnone, hout, hall⟩ := xferCtrlData_wire h
      have hstatus : List.replicate c (UsbOut.packet (tokOUTHS ||| ep))
          = List.replicate c (.packet (statusToken p ||| ep)) := by
        unfold statusToken
        split_ifs with hin
        · rfl
        · rw [hout (decide_eq_false hin)]
          rfl
      refine ⟨_, hv.trans ?_, a, toggles, b, c, rfl, ⟨ha, hale⟩, hone, hcle, nofun, hnone,
        fun hzero => ⟨(hall hzero).1, fun _ => (hall hzero).2⟩⟩
      rw [hfront, hstatus]
      simp only [List.append_assoc]

/-- The stack with a device at address 0, as it is after a bus reset. -/
def addressless : Usb := powerUp.setDevRecord 0#8 { epinfo := .dev0ep, devclass := 0 }

/-- A boot keyboard is asked for its device descriptor. -/
theorem keyboard_wire : ∃ v sent,
    addressless.xferCtrlReq UsbMain.keyboardEnv 0#8 0#8
        ⟨0x80, 6, 0x00, 0x01, 0x0000, 8⟩ (some bigbuf) = .ret (0#8, v) ∧
      wire v.host.log = wire addressless.host.log
        ++ [.address 0#8, .request (SetupPkt.bytes ⟨0x80, 6, 0x00, 0x01, 0x0000, 8⟩)] ++ sent ∧
      Stages 0#8 (statusToken ⟨0x80, 6, 0x00, 0x01, 0x0000, 8⟩) true 0#8 sent := by
  have hcode : (addressless.xferCtrlReq UsbMain.keyboardEnv 0#8 0#8
      ⟨0x80, 6, 0x00, 0x01, 0x0000, 8⟩ (some bigbuf)).ret?.map Prod.fst = some 0#8 := by
    decide +kernel
  obtain ⟨⟨code, v⟩, hret, rfl⟩ := Option.map_eq_some_iff.mp hcode
  have hcall := Call.ret?_eq_some.mp hret
  obtain ⟨sent, hwire, hstages⟩ := xferCtrlReq_wire hcall
  exact ⟨v, sent, hcall, hwire, hstages⟩

end Usb

end SpaceInvaders
