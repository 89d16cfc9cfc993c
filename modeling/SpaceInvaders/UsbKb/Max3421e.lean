import Mathlib.Data.BitVec
import SpaceInvaders.Bytes.Memory

/-!
# `usb_kb`: register access to the MAX3421E

Every access is one SPI transaction: a command byte, with the write bit added for a
write, and the data behind it. `framesAccesses` says what a transaction carries for
each of the access functions, and that a pointer threaded through successive reads
lays the packets out one after the other.

Mirroring notes:
- The program's side of the wire is a `Host`: its memory, and the log of what it
  has exchanged with the outside, latest first. The outside is a `Controller`: what
  it answers may depend on all that went before.
- `alt_avalon_spi_command` transmits its write bytes, then stores as many bytes as
  it is asked for. Its return value goes to `printf` only.
- An address is a `Nat`. A read of a cell that holds nothing fails, and so does an
  access past the end of `buf`; the local arrays are memories of their own.
- `BYTE` arithmetic is done at `int` and truncated.
-/

namespace SpaceInvaders

open Memory (Cells blank store load Holds)

/-- The register constants of `MAX3421E.h`. -/
inductive MaxReg where
  | rRCVFIFO
  | rSNDFIFO
  | rSUDFIFO
  | rRCVBC
  | rSNDBC
  | rUSBIRQ
  | rUSBIEN
  | rUSBCTL
  | rCPUCTL
  | rPINCTL
  | rREVISION
  | rIOPINS1
  | rIOPINS2
  | rGPINIRQ
  | rGPINIEN
  | rGPINPOL
  | rHIRQ
  | rHIEN
  | rMODE
  | rPERADDR
  | rHCTL
  | rHXFR
  | rHRSL

namespace MaxReg

def byte : MaxReg → BitVec 8
  | rRCVFIFO => 0x08
  | rSNDFIFO => 0x10
  | rSUDFIFO => 0x20
  | rRCVBC => 0x30
  | rSNDBC => 0x38
  | rUSBIRQ => 0x68
  | rUSBIEN => 0x70
  | rUSBCTL => 0x78
  | rCPUCTL => 0x80
  | rPINCTL => 0x88
  | rREVISION => 0x90
  | rIOPINS1 => 0xa0
  | rIOPINS2 => 0xa8
  | rGPINIRQ => 0xb0
  | rGPINIEN => 0xb8
  | rGPINPOL => 0xc0
  | rHIRQ => 0xc8
  | rHIEN => 0xd0
  | rMODE => 0xd8
  | rPERADDR => 0xe0
  | rHCTL => 0xe8
  | rHXFR => 0xf0
  | rHRSL => 0xf8

end MaxReg

/-- An exchange with the outside: a transaction that writes some bytes and reads a
number of them, or a look at the clock. -/
inductive BusEvent where
  | spi (write : List (BitVec 8)) (readLength : Nat)
  | nticks
  deriving DecidableEq

/-- The outside: the `k`-th byte read in the transaction that is latest in the log,
and the time at a look at the clock. -/
structure Controller where
  reply : List BusEvent → Nat → BitVec 8
  nticks : List BusEvent → BitVec 32
  ticksPerSecond : BitVec 32

/-- The program's side. -/
structure Host where
  log : List BusEvent
  mem : Cells (BitVec 8)

namespace Host

/-- `alt_avalon_spi_command`: the transaction takes place. -/
def spiCommand (w : Host) (write : List (BitVec 8)) (readLength : Nat) : Host :=
  { w with log := .spi write readLength :: w.log }

/-- The bytes read by the latest transaction. -/
def received (c : Controller) (w : Host) (n : Nat) : List (BitVec 8) :=
  (List.range n).map (c.reply w.log)

/-! ## The functions -/

/-- `MAXreg_wr` -/
def maxRegWr (w : Host) (reg val : BitVec 8) : Host := w.spiCommand [reg + 2#8, val] 0

/-- An element of a local array of `size` elements is assigned. -/
def assign (size : Nat) (buf : Cells (BitVec 8)) (k : Nat) (b : BitVec 8) :
    Option (Cells (BitVec 8)) :=
  if k < size then some (Function.update buf k (some b)) else none

/-- The loop of `MAXbytes_wr`, from index `n` on with so many bytes to go. -/
def copyLoop (m : Cells (BitVec 8)) (data size : Nat) :
    Nat → Nat → Cells (BitVec 8) → Option (Cells (BitVec 8))
  | 0, _, buf => some buf
  | togo + 1, n, buf => do
    let b ← m (data + n)
    let buf ← assign size buf (n + 1) b
    copyLoop m data size togo (n + 1) buf

/-- `MAXbytes_wr` -/
def maxBytesWr (w : Host) (reg nbytes : BitVec 8) (data : Nat) : Option (Nat × Host) := do
  let size := nbytes.toNat + 1
  let buf ← assign size blank 0 (reg + 2#8)
  let buf ← copyLoop w.mem data size nbytes.toNat 0 buf
  let write ← load buf 0 size
  return (data + nbytes.toNat, w.spiCommand write 0)

/-- `MAXreg_rd` -/
def maxRegRd (c : Controller) (w : Host) (reg : BitVec 8) : BitVec 8 × Host :=
  let w := w.spiCommand [reg] 1
  (c.reply w.log 0, w)

/-- `MAXbytes_rd` -/
def maxBytesRd (c : Controller) (w : Host) (reg nbytes : BitVec 8) (data : Nat) :
    Nat × Host :=
  let w := w.spiCommand [reg] nbytes.toNat
  (data + nbytes.toNat, { w with mem := store w.mem data (w.received c nbytes.toNat) })

/-- Successive calls of `MAXbytes_rd`, each handed the pointer the one before
returned. -/
def readPackets (c : Controller) (reg : BitVec 8) :
    List (BitVec 8) → Nat → Host → Nat × Host
  | [], data, w => (data, w)
  | n :: ns, data, w =>
    let (data, w) := w.maxBytesRd c reg n data
    readPackets c reg ns data w

/-! ## What each does -/

section Access

variable (c : Controller) (w : Host)

@[simp] theorem length_received (n : Nat) : (w.received c n).length = n := by
  rw [received, List.length_map, List.length_range]

/-- Exactly the bytes from `data` to the pointer returned are stored. -/
theorem maxBytesRd_mem (reg nbytes : BitVec 8) (data : Nat) :
    (w.maxBytesRd c reg nbytes data).2.mem
      = store w.mem data ((w.spiCommand [reg] nbytes.toNat).received c nbytes.toNat) := rfl

variable {c w}

theorem copyLoop_eq {m : Cells (BitVec 8)} {data size n : Nat} {bytes : List (BitVec 8)}
    (h : Holds m (data + n) bytes) (hsize : n + 1 + bytes.length ≤ size)
    (buf : Cells (BitVec 8)) :
    copyLoop m data size bytes.length n buf = some (store buf (n + 1) bytes) := by
  induction bytes generalizing n buf with
  | nil => rfl
  | cons b bytes ih =>
    obtain ⟨hb, hrest⟩ := Memory.holds_cons.mp h
    rw [List.length_cons] at hsize ⊢
    have hin : n + 1 < size := by omega
    rw [copyLoop, hb]
    simp only [Option.bind_eq_bind, Option.bind_some, assign, if_pos hin]
    exact ih hrest (by omega) _

/-- A write sends the command byte and the data, and reads nothing but the data. -/
theorem maxBytesWr_eq {bytes : List (BitVec 8)} (hlen : bytes.length ≤ 255)
    (reg : BitVec 8) {data : Nat} (h : Holds w.mem data bytes) :
    w.maxBytesWr reg (BitVec.ofNat 8 bytes.length) data
      = some (data + bytes.length, w.spiCommand ((reg + 2#8) :: bytes) 0) := by
  have hn : (BitVec.ofNat 8 bytes.length).toNat = bytes.length := by
    rw [BitVec.toNat_ofNat]
    omega
  have hroom : 0 + 1 + bytes.length ≤ bytes.length + 1 := by omega
  have hcopy : copyLoop w.mem data (bytes.length + 1) bytes.length 0
      (Function.update blank 0 (some (reg + 2#8)))
        = some (store (Function.update blank 0 (some (reg + 2#8))) 1 bytes) :=
    copyLoop_eq h hroom _
  have hload : load (store (Function.update blank 0 (some (reg + 2#8))) 1 bytes) 0
      (bytes.length + 1) = some ((reg + 2#8) :: bytes) :=
    Memory.load_of_holds (Memory.holds_store blank 0 ((reg + 2#8) :: bytes))
  simp only [maxBytesWr, hn, assign, Nat.succ_pos, if_true, Option.bind_eq_bind,
    Option.bind_some, hcopy, hload, Option.pure_def]

end Access

/-! ## The framing -/

/-- Packet by packet, the controller answers the reads of `reg` with `packets`. -/
def Delivers (c : Controller) (reg : BitVec 8) : Host → List (List (BitVec 8)) → Prop
  | _, [] => True
  | w, packet :: packets =>
    (w.spiCommand [reg] packet.length).received c packet.length = packet ∧
      Delivers c reg (w.spiCommand [reg] packet.length) packets

/-- The lengths of packets, as `BYTE`s. -/
def lengths (packets : List (List (BitVec 8))) : List (BitVec 8) :=
  packets.map fun packet => BitVec.ofNat 8 packet.length

/-- How the accesses are framed. -/
structure FramesAccesses : Prop where
  command : ∀ r : MaxReg, r.byte &&& 0x02#8 = 0#8
  write : ∀ (r : MaxReg) (bytes : List (BitVec 8)), bytes.length ≤ 255 →
    ∀ (w : Host) (data : Nat), Holds w.mem data bytes →
      w.maxBytesWr r.byte (BitVec.ofNat 8 bytes.length) data
        = some (data + bytes.length, w.spiCommand ((r.byte ||| 0x02#8) :: bytes) 0)
  writeOne : ∀ (r : MaxReg) (v : BitVec 8) (w : Host) (data : Nat), Holds w.mem data [v] →
    w.maxBytesWr r.byte 1#8 data = some (data + 1, w.maxRegWr r.byte v)
  readOne : ∀ (c : Controller) (r : MaxReg) (w : Host) (data : Nat),
    (w.maxBytesRd c r.byte 1#8 data).2.log = (w.maxRegRd c r.byte).2.log ∧
      (w.maxBytesRd c r.byte 1#8 data).2.mem data = some (w.maxRegRd c r.byte).1
  packets : ∀ (c : Controller) (r : MaxReg) (packets : List (List (BitVec 8))),
    (∀ packet ∈ packets, packet.length ≤ 255) →
    ∀ (w : Host) (data : Nat), Delivers c r.byte w packets →
      (readPackets c r.byte (lengths packets) data w).1 = data + packets.flatten.length ∧
        ∀ a, (readPackets c r.byte (lengths packets) data w).2.mem a
          = if data ≤ a ∧ a < data + packets.flatten.length then packets.flatten[a - data]?
            else w.mem a

theorem command_bit (r : MaxReg) :
    r.byte &&& 0x02#8 = 0#8 ∧ r.byte + 2#8 = r.byte ||| 0x02#8 := by
  cases r <;> exact ⟨by decide, by decide⟩

/-- **Threaded reads store one block**: the packets, one after the other. -/
theorem readPackets_eq {c : Controller} {reg : BitVec 8} {packets : List (List (BitVec 8))}
    (hlen : ∀ packet ∈ packets, packet.length ≤ 255) {w : Host}
    (h : Delivers c reg w packets) (data : Nat) (m : Cells (BitVec 8)) :
    (readPackets c reg (lengths packets) data { w with mem := m }).1
        = data + packets.flatten.length ∧
      (readPackets c reg (lengths packets) data { w with mem := m }).2.mem
        = store m data packets.flatten := by
  induction packets generalizing w data m with
  | nil => exact ⟨rfl, rfl⟩
  | cons packet packets ih =>
    obtain ⟨hfirst, hrest⟩ := h
    have hn : (BitVec.ofNat 8 packet.length).toNat = packet.length := by
      have hle := hlen packet (List.mem_cons_self ..)
      rw [BitVec.toNat_ofNat]
      omega
    have hstep : maxBytesRd c { w with mem := m } reg (BitVec.ofNat 8 packet.length) data
        = (data + packet.length,
            { w.spiCommand [reg] packet.length with mem := store m data packet }) := by
      simp only [maxBytesRd, hn]
      exact congrArg (fun bs => (data + packet.length,
        { w.spiCommand [reg] packet.length with mem := store m data bs })) hfirst
    rw [show lengths (packet :: packets)
        = BitVec.ofNat 8 packet.length :: lengths packets from rfl, readPackets, hstep,
      List.flatten_cons, List.length_append, Memory.store_append, ← Nat.add_assoc]
    exact ih (fun p hp => hlen p (List.mem_cons_of_mem _ hp)) hrest _ _

/-- **Every access is framed as the chip expects it.** -/
theorem framesAccesses : FramesAccesses where
  command := fun r => (command_bit r).1
  write := by
    intro r bytes hlen w data h
    rw [maxBytesWr_eq hlen r.byte h, (command_bit r).2]
  writeOne := by
    intro r v w data h
    have hone : [v].length ≤ 255 := by simp
    exact maxBytesWr_eq hone r.byte h
  readOne := by
    intro c r w data
    refine ⟨rfl, ?_⟩
    rw [maxBytesRd_mem, Memory.store_apply, if_pos, Nat.sub_self]
    · rfl
    · rw [length_received]
      exact ⟨Nat.le_refl data, Nat.lt_succ_self data⟩
  packets := by
    intro c r packets hlen w data h
    obtain ⟨hptr, hmem⟩ := readPackets_eq hlen h data w.mem
    refine ⟨hptr, fun a => ?_⟩
    rw [hmem, Memory.store_apply]

end Host

end SpaceInvaders
