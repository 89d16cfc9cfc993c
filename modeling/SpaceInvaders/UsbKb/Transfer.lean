import SpaceInvaders.UsbKb.MainLoop
import SpaceInvaders.UsbKb.Max3421e

/-!
# `usb_kb`: IN transfers

`XferDispatchPkt` launches one packet and waits for its result; `XferInTransfer`
fetches packet after packet and stores each behind the one before. Which packets
come, and how long they are, is up to the controller.

Mirroring notes:
- The waiting loops need not end, so each runs for a given number of turns; `none`
  is a call that is still inside one of them.
- The loop of `XferInTransfer` is one step, `turn`, on its variables. A return
  leaves the code behind and nothing moves any more.
- Of an endpoint record only the fields that are read here are kept. `maxpktsize`
  is a `BYTE`, the record's `MaxPktSize` a `WORD`.
- `retry_count` and `nak_count` never come near the ends of their types.
-/

namespace SpaceInvaders

open Memory (Cells blank store)

/-- `USB_XFER_TIMEOUT` -/
def usbXferTimeout : BitVec 32 := 5000

/-- `USB_NAK_LIMIT` -/
def usbNakLimit : BitVec 8 := 200

/-- `USB_RETRY_LIMIT` -/
def usbRetryLimit : BitVec 8 := 3

def hrTIMEOUT : BitVec 8 := 0x0e

def bmHXFRDNIRQ : BitVec 8 := 0x80

def bmRCVDAVIRQ : BitVec 8 := 0x04

def bmRCVTOGRD : BitVec 8 := 0x10

def bmRCVTOG0 : BitVec 8 := 0x10

def bmRCVTOG1 : BitVec 8 := 0x20

def tokIN : BitVec 8 := 0x00

/-- `EP_RECORD` -/
structure EpRecord where
  maxPktSize : BitVec 16
  rcvToggle : BitVec 8

namespace Host

variable (c : Controller)

/-- `(alt_nticks()*1000)/alt_ticks_per_second()` -/
def millis (w : Host) : BitVec 32 × Host :=
  let w := { w with log := .nticks :: w.log }
  (c.nticks w.log * 1000#32 / c.ticksPerSecond, w)

/-- The loop that waits for a launched packet. -/
def awaitTransfer (timeout : BitVec 32) : Nat → Host → Option (BitVec 8 × Host)
  | 0, _ => none
  | turns + 1, w =>
    let (now, w) := w.millis c
    if now < timeout then
      let (tmpdata, w) := w.maxRegRd c MaxReg.rHIRQ.byte
      if tmpdata &&& bmHXFRDNIRQ ≠ 0#8 then
        some (0x00#8, w.maxRegWr MaxReg.rHIRQ.byte bmHXFRDNIRQ)
      else awaitTransfer timeout turns w
    else some (0xff#8, w)

/-- The loop that launches a packet, again where it is refused or lost. -/
def launchLoop (turns : Nat) (timeout : BitVec 32) (token ep : BitVec 8) :
    Nat → BitVec 8 → BitVec 8 → Host → Option (BitVec 8 × Host)
  | 0, _, _, _ => none
  | launches + 1, retryCount, nakCount, w =>
    match (w.maxRegWr MaxReg.rHXFR.byte (token ||| ep)).awaitTransfer c timeout turns with
    | none => none
    | some (rcode, w) =>
      if rcode ≠ 0x00#8 then some (rcode, w)
      else
        let (hrsl, w) := w.maxRegRd c MaxReg.rHRSL.byte
        let rcode := hrsl &&& 0x0f#8
        if rcode = hrNAK then
          if nakCount + 1 = usbNakLimit then some (rcode, w)
          else launchLoop turns timeout token ep launches retryCount (nakCount + 1) w
        else if rcode = hrTIMEOUT then
          if retryCount + 1 = usbRetryLimit then some (rcode, w)
          else launchLoop turns timeout token ep launches (retryCount + 1) nakCount w
        else some (rcode, w)

/-- `XferDispatchPkt` -/
def xferDispatchPkt (turns : Nat) (token ep : BitVec 8) (w : Host) :
    Option (BitVec 8 × Host) :=
  let (now, w) := w.millis c
  launchLoop c turns (now + usbXferTimeout) token ep turns 0 0 w

/-- What a turn of the loop of `XferInTransfer` comes to before it stores anything. -/
inductive Fetch where
  | waiting
  | returns (rcode : BitVec 8) (w : Host)
  | packet (pktsize : BitVec 8) (w : Host)

/-- One IN packet, up to its byte count. -/
def fetch (turns : Nat) (ep : BitVec 8) (w : Host) : Fetch :=
  match w.xferDispatchPkt c turns tokIN ep with
  | none => .waiting
  | some (rcode, w) =>
    if rcode ≠ 0#8 then .returns rcode w
    else
      let (irq, w) := w.maxRegRd c MaxReg.rHIRQ.byte
      if irq &&& bmRCVDAVIRQ = 0#8 then .returns 0xf0#8 w
      else
        let (pktsize, w) := w.maxRegRd c MaxReg.rRCVBC.byte
        .packet pktsize w

end Host

/-- The loop of `XferInTransfer`: its variables, the record it updates, and the code
it has returned. -/
structure InTransfer where
  host : Host
  epinfo : EpRecord
  data : Nat
  xfrlen : BitVec 16
  rcode : Option (BitVec 8)

namespace InTransfer

open Host (Fetch)

variable (c : Controller) (turns : Nat) (ep : BitVec 8) (nbytes : BitVec 16)
  (maxpktsize : BitVec 8)

/-- A packet is stored, and the transfer ends or goes on. -/
def take (s : InTransfer) (pktsize : BitVec 8) (w : Host) : InTransfer :=
  let (data, w) := w.maxBytesRd c MaxReg.rRCVFIFO.byte pktsize s.data
  let w := w.maxRegWr MaxReg.rHIRQ.byte bmRCVDAVIRQ
  let xfrlen := s.xfrlen + pktsize.setWidth 16
  if pktsize < maxpktsize ∨ nbytes ≤ xfrlen then
    let (hrsl, w) := w.maxRegRd c MaxReg.rHRSL.byte
    let rcvToggle := if hrsl &&& bmRCVTOGRD ≠ 0#8 then bmRCVTOG1 else bmRCVTOG0
    { host := w, epinfo := { s.epinfo with rcvToggle := rcvToggle }, data := data,
      xfrlen := xfrlen, rcode := some 0#8 }
  else { s with host := w, data := data, xfrlen := xfrlen }

/-- One turn of the loop. -/
def turn (s : InTransfer) : InTransfer :=
  match s.rcode with
  | some _ => s
  | none =>
    match s.host.fetch c turns ep with
    | .waiting => s
    | .returns rcode w => { s with host := w, rcode := some rcode }
    | .packet pktsize w => s.take c nbytes maxpktsize pktsize w

end InTransfer

namespace Host

variable (c : Controller) (turns : Nat)

/-- The variables of `XferInTransfer` where its loop begins. -/
def beginIn (epinfo : EpRecord) (data : Nat) (w : Host) : InTransfer :=
  { host := w.maxRegWr MaxReg.rHCTL.byte epinfo.rcvToggle, epinfo := epinfo, data := data,
    xfrlen := 0, rcode := none }

/-- `XferInTransfer`, after `k` turns of its loop. -/
def xferInTransfer (epinfo : EpRecord) (ep : BitVec 8) (nbytes : BitVec 16) (data : Nat)
    (maxpktsize : BitVec 8) (w : Host) (k : Nat) : InTransfer :=
  Nat.iterate (InTransfer.turn c turns ep nbytes maxpktsize) k (w.beginIn epinfo data)

/-- `kbdPoll`, after `k` turns: the device has address `addr` and its endpoint 1 the
record `epinfo`. -/
def kbdPoll (addr : BitVec 8) (epinfo : EpRecord) (buf : Nat) (w : Host) (k : Nat) :
    InTransfer :=
  (w.maxRegWr MaxReg.rPERADDR.byte addr).xferInTransfer c turns epinfo 1 8 buf
    (epinfo.maxPktSize.setWidth 8) k

/-! ## What none of it moves -/

/-- What a look at the clock, a read of a register other than the FIFO, and a write leave as
it is. -/
structure Unmoved {β : Type} (c : Controller) (f : Host → β) : Prop where
  clock : ∀ w, f (w.millis c).2 = f w
  read : ∀ (w : Host) (r : MaxReg), r ≠ .rRCVFIFO → f (w.maxRegRd c r.byte).2 = f w
  write : ∀ (w : Host) (reg val : BitVec 8), f (w.maxRegWr reg val) = f w

/-- No byte is stored. -/
theorem unmoved_mem (c : Controller) : Unmoved c mem :=
  ⟨fun _ => rfl, fun _ _ _ => rfl, fun _ _ _ => rfl⟩

variable {c turns} {w w' : Host} {β : Type} {f : Host → β}

theorem awaitTransfer_unmoved (hf : Unmoved c f) {timeout : BitVec 32} {rcode : BitVec 8}
    (h : w.awaitTransfer c timeout turns = some (rcode, w')) : f w' = f w := by
  induction turns generalizing w with
  | zero => cases h
  | succ turns ih =>
    have hclock := hf.clock w
    have hread := (hf.read (w.millis c).2 .rHIRQ (by simp)).trans hclock
    simp only [awaitTransfer] at h
    split_ifs at h with htime hdone
    · cases h
      exact (hf.write ..).trans hread
    · exact (ih h).trans hread
    · cases h
      exact hclock

theorem launchLoop_unmoved (hf : Unmoved c f) {timeout : BitVec 32}
    {token ep rcode : BitVec 8} {launches : Nat} {retryCount nakCount : BitVec 8}
    (h : launchLoop c turns timeout token ep launches retryCount nakCount w
      = some (rcode, w')) : f w' = f w := by
  induction launches generalizing w retryCount nakCount with
  | zero => cases h
  | succ launches ih =>
    rw [launchLoop] at h
    split at h
    next => cases h
    next code v hawait =>
      have hv : f v = f w := (awaitTransfer_unmoved hf hawait).trans (hf.write ..)
      have hread : f (v.maxRegRd c MaxReg.rHRSL.byte).2 = f w :=
        (hf.read v .rHRSL (by simp)).trans hv
      -- a packet that is launched again starts from `v`
      have hagain : ∀ {retryCount nakCount : BitVec 8},
          launchLoop c turns timeout token ep launches retryCount nakCount
            (v.maxRegRd c MaxReg.rHRSL.byte).2 = some (rcode, w') → f w' = f w :=
        fun h => (ih h).trans hread
      simp only at h
      split_ifs at h
      · cases h
        exact hv
      · cases h
        exact hread
      · exact hagain h
      · cases h
        exact hread
      · exact hagain h
      · cases h
        exact hread

theorem xferDispatchPkt_unmoved (hf : Unmoved c f) {token ep rcode : BitVec 8}
    (h : w.xferDispatchPkt c turns token ep = some (rcode, w')) : f w' = f w :=
  (launchLoop_unmoved hf (w := (w.millis c).2) h).trans (hf.clock w)

/-- A packet is fetched without a byte stored. -/
theorem fetch_unmoved (hf : Unmoved c f) {ep : BitVec 8} :
    (∀ rcode, w.fetch c turns ep = .returns rcode w' → f w' = f w) ∧
      ∀ pktsize, w.fetch c turns ep = .packet pktsize w' → f w' = f w := by
  unfold fetch
  split
  next => exact ⟨nofun, nofun⟩
  next rcode v hdispatch =>
    have hv : f v = f w := xferDispatchPkt_unmoved hf hdispatch
    have hirq : f (v.maxRegRd c MaxReg.rHIRQ.byte).2 = f w :=
      (hf.read v .rHIRQ (by simp)).trans hv
    simp only
    split_ifs
    · refine ⟨fun _ h => ?_, nofun⟩
      cases h
      exact hv
    · refine ⟨fun _ h => ?_, nofun⟩
      cases h
      exact hirq
    · refine ⟨nofun, fun _ h => ?_⟩
      cases h
      exact (hf.read _ .rRCVBC (by simp)).trans hirq

end Host

namespace InTransfer

variable (c : Controller) (turns : Nat) (ep : BitVec 8)

/-- The byte count of the packet that the next turn stores, if it stores one. -/
def announced (s : InTransfer) : Option (BitVec 8) :=
  match s.rcode, s.host.fetch c turns ep with
  | none, .packet pktsize _ => some pktsize
  | _, _ => none

/-- A turn that stores nothing. -/
structure Quiet (s s' : InTransfer) : Prop where
  data : s'.data = s.data
  xfrlen : s'.xfrlen = s.xfrlen
  mem : s'.host.mem = s.host.mem
  running : s'.rcode = none → s.rcode = none

/-- A turn that stores a packet of `n` bytes; the loop goes on after a full packet
only, and while it has less than it was asked for. -/
structure Stores (nbytes : BitVec 16) (maxpktsize n : BitVec 8) (s s' : InTransfer) :
    Prop where
  data : s'.data = s.data + n.toNat
  xfrlen : s'.xfrlen = s.xfrlen + n.setWidth 16
  mem : ∃ packet : List (BitVec 8), packet.length = n.toNat ∧
    s'.host.mem = store s.host.mem s.data packet
  goesOn : s'.rcode = none → maxpktsize ≤ n ∧ s'.xfrlen < nbytes

variable {c turns ep} {nbytes : BitVec 16} {maxpktsize : BitVec 8} {s : InTransfer}

theorem take_stores {pktsize : BitVec 8} {w : Host} (h : w.mem = s.host.mem) :
    Stores nbytes maxpktsize pktsize s (s.take c nbytes maxpktsize pktsize w) := by
  have hpacket : ∃ packet : List (BitVec 8), packet.length = pktsize.toNat ∧
      (w.maxBytesRd c MaxReg.rRCVFIFO.byte pktsize s.data).2.mem
        = store s.host.mem s.data packet :=
    ⟨_, Host.length_received .., h ▸ Host.maxBytesRd_mem ..⟩
  unfold take
  dsimp only
  split
  next => exact ⟨rfl, rfl, hpacket, nofun⟩
  next hmore =>
    rw [not_or, BitVec.not_lt, BitVec.not_le] at hmore
    exact ⟨rfl, rfl, hpacket, fun _ => hmore⟩

theorem announced_running {n : BitVec 8} (h : s.announced c turns ep = some n) :
    s.rcode = none := by
  unfold announced at h
  cases hrun : s.rcode with
  | none => rfl
  | some rcode =>
    rw [hrun] at h
    cases h

/-- What a turn can do. -/
theorem turn_cases :
    s.announced c turns ep = none ∧ Quiet s (s.turn c turns ep nbytes maxpktsize) ∨
      ∃ n, s.announced c turns ep = some n ∧
        Stores nbytes maxpktsize n s (s.turn c turns ep nbytes maxpktsize) := by
  unfold announced turn
  cases s.rcode with
  | some rcode => exact .inl ⟨rfl, rfl, rfl, rfl, id⟩
  | none =>
    cases hfetch : s.host.fetch c turns ep with
    | waiting => exact .inl ⟨rfl, rfl, rfl, rfl, id⟩
    | returns rcode w =>
      exact .inl ⟨rfl, rfl, rfl, (Host.fetch_unmoved (Host.unmoved_mem c)).1 rcode hfetch, nofun⟩
    | packet pktsize w =>
      exact .inr ⟨pktsize, rfl, take_stores ((Host.fetch_unmoved (Host.unmoved_mem c)).2 pktsize hfetch)⟩

end InTransfer

end SpaceInvaders
