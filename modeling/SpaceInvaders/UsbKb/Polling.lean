import SpaceInvaders.Clocked.Run
import SpaceInvaders.UsbKb.Transfer

/-!
# Polling and the report buffer

`XferInTransfer` asks for a number of bytes and stops once it has them, but it looks
only after a packet has been stored: a packet is stored whole, however long the
controller says it is. What the loop has stored is always the block from `data` to
the pointer (`xferInTransfer_threaded`), so it stays in a buffer of `nbytes` exactly
if every packet fits in what is left when it comes (`xferInTransfer_within_iff`).
A device that sends at most `MaxPktSize` bytes at a time, with `nbytes` a multiple
of that, is safe: `packetsFit_of_dvd`.
-/

namespace SpaceInvaders

open Memory (blank store_apply)

namespace InTransfer

/-- What has been stored since the loop began at `start`: all from `start` up to the
pointer, and nothing else. -/
structure Threaded (start : Nat) (s : InTransfer) : Prop where
  le : start ≤ s.data
  xfrlen : s.xfrlen = BitVec.ofNat 16 (s.data - start)
  stored : ∀ a, s.host.mem a ≠ none ↔ start ≤ a ∧ a < s.data

/-- Pointer and stores are inside the `size` bytes from `start` on. -/
def Within (start size : Nat) (s : InTransfer) : Prop :=
  s.data ≤ start + size ∧ ∀ a, s.host.mem a ≠ none → start ≤ a ∧ a < start + size

variable {c : Controller} {turns : Nat} {ep : BitVec 8} {nbytes : BitVec 16}
  {maxpktsize : BitVec 8} {start : Nat} {s : InTransfer}

theorem Threaded.within_iff (h : Threaded start s) (size : Nat) :
    Within start size s ↔ s.data ≤ start + size := by
  refine ⟨fun hin => hin.1, fun hle => ⟨hle, fun a ha => ?_⟩⟩
  have hin := (h.stored a).mp ha
  omega

theorem Threaded.xfrlen_toNat (h : Threaded start s)
    (hle : s.data ≤ start + nbytes.toNat) : s.xfrlen.toNat = s.data - start := by
  have hsize := nbytes.isLt
  rw [h.xfrlen, BitVec.toNat_ofNat]
  omega

/-- One turn. -/
theorem Threaded.turn (h : Threaded start s) :
    Threaded start (s.turn c turns ep nbytes maxpktsize) := by
  obtain ⟨-, hquiet⟩ | ⟨n, -, hstores⟩ := turn_cases
  · refine ⟨?_, ?_, ?_⟩
    · rw [hquiet.data]
      exact h.le
    · rw [hquiet.data, hquiet.xfrlen]
      exact h.xfrlen
    · rw [hquiet.data, hquiet.mem]
      exact h.stored
  · have hle := h.le
    obtain ⟨packet, hlen, hmem⟩ := hstores.mem
    refine ⟨?_, ?_, ?_⟩
    · rw [hstores.data]
      omega
    · have hnext : s.data + n.toNat - start = s.data - start + n.toNat := by omega
      rw [hstores.data, hstores.xfrlen, h.xfrlen, hnext, BitVec.ofNat_add, BitVec.ofNat_toNat]
    · intro a
      rw [hstores.data, hmem, store_apply, hlen]
      by_cases hin : s.data ≤ a ∧ a < s.data + n.toNat
      · have hcell : packet[a - s.data]? ≠ none := by
          rw [Ne, List.getElem?_eq_none_iff]
          omega
        rw [if_pos hin]
        simp only [hcell, ne_eq, not_false_eq_true, true_iff]
        omega
      · rw [if_neg hin, h.stored a]
        omega

/-- **One turn stays within exactly if its packet fits.** -/
theorem Threaded.turn_le_iff (h : Threaded start s) (hle : s.data ≤ start + nbytes.toNat) :
    (s.turn c turns ep nbytes maxpktsize).data ≤ start + nbytes.toNat
      ↔ ∀ n, s.announced c turns ep = some n → s.xfrlen.toNat + n.toNat ≤ nbytes.toNat := by
  have hstart := h.le
  rw [h.xfrlen_toNat hle]
  obtain ⟨hnone, hquiet⟩ | ⟨n, hsome, hstores⟩ := turn_cases
  · rw [hquiet.data, hnone]
    exact ⟨fun _ => nofun, fun _ => hle⟩
  · rw [hstores.data, hsome]
    refine ⟨?_, ?_⟩
    · rintro hnext n' ⟨⟩
      omega
    · intro hfits
      have hn := hfits n rfl
      omega

/-- What a loop that has only had full packets, and wants more, has transferred. -/
def InStep (nbytes : BitVec 16) (maxpktsize : BitVec 8) (s : InTransfer) : Prop :=
  s.rcode = none → maxpktsize.toNat ∣ s.xfrlen.toNat ∧ s.xfrlen.toNat < nbytes.toNat

/-- Where `nbytes` is a number of full packets, the next one fits. -/
theorem InStep.fits (h : InStep nbytes maxpktsize s)
    (hdvd : maxpktsize.toNat ∣ nbytes.toNat) (hrun : s.rcode = none) :
    s.xfrlen.toNat + maxpktsize.toNat ≤ nbytes.toNat := by
  obtain ⟨hsofar, hlt⟩ := h hrun
  have hleft := Nat.le_of_dvd (Nat.sub_pos_of_lt hlt) (Nat.dvd_sub hdvd hsofar)
  omega

theorem InStep.turn (h : InStep nbytes maxpktsize s)
    (hdvd : maxpktsize.toNat ∣ nbytes.toNat)
    (hmax : ∀ n, s.announced c turns ep = some n → n ≤ maxpktsize) :
    InStep nbytes maxpktsize (s.turn c turns ep nbytes maxpktsize) := by
  intro hrun'
  obtain ⟨-, hquiet⟩ | ⟨n, hsome, hstores⟩ := turn_cases
  · rw [hquiet.xfrlen]
    exact h (hquiet.running hrun')
  · obtain ⟨hfull, hmore⟩ := hstores.goesOn hrun'
    have hn : n = maxpktsize := BitVec.le_antisymm (hmax n hsome) hfull
    have hfits := h.fits hdvd (announced_running hsome)
    have hsize := nbytes.isLt
    have hsum : (s.xfrlen + n.setWidth 16).toNat = s.xfrlen.toNat + maxpktsize.toNat := by
      rw [BitVec.toNat_add, BitVec.toNat_setWidth, hn]
      omega
    refine ⟨?_, hmore⟩
    rw [hstores.xfrlen, hsum]
    exact Nat.dvd_add (h (announced_running hsome)).1 (Nat.dvd_refl _)

end InTransfer

namespace Host

open InTransfer (Threaded Within)

variable (c : Controller) (turns : Nat)

/-- Every packet fits in what is left of `nbytes` when it comes. -/
def PacketsFit (epinfo : EpRecord) (ep : BitVec 8) (nbytes : BitVec 16) (data : Nat)
    (maxpktsize : BitVec 8) (w : Host) : Prop :=
  ∀ k n, (w.xferInTransfer c turns epinfo ep nbytes data maxpktsize k).announced c turns ep
      = some n →
    (w.xferInTransfer c turns epinfo ep nbytes data maxpktsize k).xfrlen.toNat + n.toNat
      ≤ nbytes.toNat

variable {c turns} {epinfo : EpRecord} {ep : BitVec 8} {nbytes : BitVec 16} {data : Nat}
  {maxpktsize : BitVec 8} {w : Host}

theorem xferInTransfer_succ (k : Nat) :
    w.xferInTransfer c turns epinfo ep nbytes data maxpktsize (k + 1)
      = (w.xferInTransfer c turns epinfo ep nbytes data maxpktsize k).turn c turns ep nbytes
          maxpktsize :=
  Function.iterate_succ_apply' ..

theorem xferInTransfer_threaded (hmem : w.mem = blank) (k : Nat) :
    Threaded data (w.xferInTransfer c turns epinfo ep nbytes data maxpktsize k) := by
  induction k with
  | zero =>
    refine ⟨Nat.le_refl data, ?_, fun a => ?_⟩
    · show 0#16 = BitVec.ofNat 16 (data - data)
      rw [Nat.sub_self]
    · show w.mem a ≠ none ↔ data ≤ a ∧ a < data
      rw [hmem]
      simp only [blank, ne_eq, not_true_eq_false, false_iff]
      omega
  | succ k ih =>
    rw [xferInTransfer_succ]
    exact ih.turn

variable (nbytes) in
/-- **When a transfer stays in its buffer.** -/
theorem xferInTransfer_within_iff (hmem : w.mem = blank) :
    (∀ k, Within data nbytes.toNat
      (w.xferInTransfer c turns epinfo ep nbytes data maxpktsize k))
      ↔ PacketsFit c turns epinfo ep nbytes data maxpktsize w := by
  rw [forall_congr' fun k => (xferInTransfer_threaded hmem k).within_iff nbytes.toNat]
  refine Clocked.forall_iff_of_step (Nat.le_add_right data _) fun k hle => ?_
  rw [xferInTransfer_succ]
  exact (xferInTransfer_threaded hmem k).turn_le_iff hle

/-- Packets of at most `maxpktsize` bytes fit where `nbytes` is a multiple of that. -/
theorem packetsFit_of_dvd (hpos : 0 < nbytes.toNat)
    (hdvd : maxpktsize.toNat ∣ nbytes.toNat)
    (hmax : ∀ k n, (w.xferInTransfer c turns epinfo ep nbytes data maxpktsize k).announced c
      turns ep = some n → n ≤ maxpktsize) :
    PacketsFit c turns epinfo ep nbytes data maxpktsize w := by
  have hinv : ∀ k, InTransfer.InStep nbytes maxpktsize
      (w.xferInTransfer c turns epinfo ep nbytes data maxpktsize k) := by
    intro k
    induction k with
    | zero => exact fun _ => ⟨Nat.dvd_zero _, hpos⟩
    | succ k ih =>
      rw [xferInTransfer_succ]
      exact ih.turn hdvd (hmax k)
  intro k n hn
  have hle : n.toNat ≤ maxpktsize.toNat := hmax k n hn
  have hfits := (hinv k).fits hdvd (InTransfer.announced_running hn)
  omega

/-! ## The keyboard report -/

section Report

variable (c : Controller) (log : List BusEvent) (addr : BitVec 8) (epinfo : EpRecord)
  (buf : Nat)

/-- A poll stores inside the eight bytes of the report only. -/
def PollsInside : Prop :=
  ∀ turns k, Within buf 8 (kbdPoll c turns addr epinfo buf ⟨log, blank⟩ k)

/-- No byte count the controller gives is more than what is left of the eight bytes. -/
def CountsFit : Prop :=
  ∀ turns k n, (kbdPoll c turns addr epinfo buf ⟨log, blank⟩ k).announced c turns 1 = some n →
    (kbdPoll c turns addr epinfo buf ⟨log, blank⟩ k).xfrlen.toNat + n.toNat ≤ 8

variable {c log addr epinfo buf}

/-- **When polling leaves the rest of memory alone.** -/
theorem pollsInside_iff :
    PollsInside c log addr epinfo buf ↔ CountsFit c log addr epinfo buf :=
  forall_congr' fun _ => xferInTransfer_within_iff 8 rfl

/-- A controller that reads the same from each register every time, its clock
standing. -/
def steady (value : BitVec 8 → BitVec 8) : Controller where
  reply
    | .spi (reg :: _) _ :: _, _ => value reg
    | _, _ => 0#8
  nticks := fun _ => 0#32
  ticksPerSecond := 1000#32

/-- A full packet of 64 bytes has come. -/
def fullPacket : Controller :=
  steady fun reg =>
    if reg = MaxReg.rHIRQ.byte then bmHXFRDNIRQ ||| bmRCVDAVIRQ
    else if reg = MaxReg.rRCVBC.byte then 64#8
    else 0#8

/-- It is stored whole. -/
theorem fullPacket_overruns :
    ¬ PollsInside fullPacket [] 1#8 ⟨64#16, bmRCVTOG0⟩ 0 := by
  intro h
  exact absurd (h 1 1).1 (by decide +kernel)

/-- A keyboard whose packets are no longer than it said, of a size that divides the
report, is polled safely. -/
theorem pollsInside_of_dvd (hdvd : epinfo.maxPktSize.toNat % 256 ∣ 8)
    (hmax : ∀ turns k n, (kbdPoll c turns addr epinfo buf ⟨log, blank⟩ k).announced c turns 1
      = some n → n ≤ epinfo.maxPktSize.setWidth 8) :
    PollsInside c log addr epinfo buf := by
  intro turns
  refine (xferInTransfer_within_iff 8 rfl).mpr ?_
  refine packetsFit_of_dvd (by decide) ?_ (hmax turns)
  rw [BitVec.toNat_setWidth]
  exact hdvd

end Report

end Host

end SpaceInvaders
