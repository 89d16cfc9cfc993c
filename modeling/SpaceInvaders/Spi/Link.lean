import SpaceInvaders.Spi.Transaction
import SpaceInvaders.UsbKb.Max3421e

/-!
# The SPI link under `usb_kb`

The functions of `usb_kb` are modelled over transactions that simply take place. Here
the same transactions go through `alt_avalon_spi_command` and the core, from reset on.
For any timing of the accesses and anything `MISO` does there is a `Controller` that
gives the program byte for byte what the driver stores, and the chip sees the bytes of
the transactions and nothing else (`link_refines`).
-/

namespace SpaceInvaders

open ShiftRegister

/-- What a program's exchanges with the outside read. -/
def Host.perform (c : Controller) : List BusEvent → Host → List (List (BitVec 8))
  | [], _ => []
  | .nticks :: script, w => perform c script { w with log := .nticks :: w.log }
  | .spi write readLength :: script, w =>
    let w := w.spiCommand write readLength
    w.received c readLength :: perform c script w

namespace SpiBench

variable (env : SpiEnv) (turns : Nat)

/-- The same exchanges, through the driver and the core. -/
def perform : List BusEvent → SpiBench → Option (List (List (BitVec 8)) × SpiBench)
  | [], b => some ([], b)
  | .nticks :: script, b => perform script b
  | .spi write readLength :: script, b => do
    let (read, b) ← altAvalonSpiCommand env turns 0 write readLength 0 b
    let (reads, b) ← perform script b
    return (read :: reads, b)

/-- The core out of reset. -/
def start : SpiBench := ⟨.reset, 0, 0, []⟩

end SpiBench

/-! ## What the line shows -/

/-- The bytes of a transaction, out and in. -/
structure Frame where
  sent : List (BitVec 8)
  received : List (BitVec 8)

/-- The transactions so far, and the bits of the one that is going on. -/
structure LineView where
  frames : List Frame
  mosi : List Bool
  miso : List Bool

namespace LineView

def sees (v : LineView) : LineEvent → LineView
  | .select => { v with mosi := [], miso := [] }
  | .bit mosi miso => { v with mosi := v.mosi ++ [mosi], miso := v.miso ++ [miso] }
  | .deselect => { v with frames := v.frames ++ [⟨words 8 v.mosi, words 8 v.miso⟩] }

/-- The transactions on a line. -/
def framesOn (line : List LineEvent) : List Frame := (line.foldl sees ⟨[], [], []⟩).frames

theorem foldl_bits {mosi miso : List Bool} (h : mosi.length = miso.length) (v : LineView) :
    (List.zipWith LineEvent.bit mosi miso).foldl sees v
      = { v with mosi := v.mosi ++ mosi, miso := v.miso ++ miso } := by
  induction mosi generalizing miso v with
  | nil =>
    cases miso with
    | nil => simp
    | cons => cases h
  | cons a mosi ih =>
    cases miso with
    | nil => cases h
    | cons a' miso =>
      rw [List.zipWith_cons_cons, List.foldl_cons, ih (Nat.succ.inj h)]
      simp [sees]

theorem foldl_exchange {sent received : List (BitVec 8)} (h : sent.length = received.length)
    (v : LineView) :
    (exchange sent received).foldl sees v
      = { v with mosi := v.mosi ++ sent.flatMap bits, miso := v.miso ++ received.flatMap bits } := by
  induction sent generalizing received v with
  | nil =>
    cases received with
    | nil => simp [exchange]
    | cons => cases h
  | cons x sent ih =>
    cases received with
    | nil => cases h
    | cons y received =>
      have hrest := ih (Nat.succ.inj h)
        { v with mosi := v.mosi ++ bits x, miso := v.miso ++ bits y }
      have hword : (SpiCore.wordEvents x (bits y)).foldl sees v
          = { v with mosi := v.mosi ++ bits x, miso := v.miso ++ bits y } :=
        foldl_bits ((length_bits x).trans (length_bits y).symm) v
      rw [exchange, List.zipWith_cons_cons, List.flatten_cons, List.foldl_append, hword]
      rw [exchange] at hrest
      rw [hrest, List.flatMap_cons, List.flatMap_cons, List.append_assoc, List.append_assoc]

/-- A frame on the line is one more transaction. -/
theorem framesOn_append {sent received : List (BitVec 8)} (h : sent.length = received.length)
    (line : List LineEvent) :
    framesOn (line ++ frame sent received) = framesOn line ++ [⟨sent, received⟩] := by
  rw [framesOn, List.foldl_append, frame, List.cons_append, List.foldl_cons, List.foldl_append,
    foldl_exchange h]
  show _ ++ [Frame.mk (words 8 ([] ++ sent.flatMap bits)) (words 8 ([] ++ received.flatMap bits))]
    = _
  rw [List.nil_append, List.nil_append, words_flatMap (by decide), words_flatMap (by decide)]
  rfl

end LineView

/-! ## The link -/

/-- Transaction by transaction, the frames carry a script and the reads are what came in
after the bytes that went out. -/
inductive Served : List BusEvent → List Frame → List (List (BitVec 8)) → Prop
  | nil : Served [] [] []
  | nticks {script : List BusEvent} {frames : List Frame} {reads : List (List (BitVec 8))}
      (rest : Served script frames reads) : Served (.nticks :: script) frames reads
  | spi {write received : List (BitVec 8)} {readLength : Nat} {script : List BusEvent}
      {frames : List Frame} {reads : List (List (BitVec 8))}
      (length : received.length = write.length + readLength)
      (rest : Served script frames reads) :
      Served (.spi write readLength :: script)
        (⟨write ++ List.replicate readLength 0, received⟩ :: frames)
        (received.drop write.length :: reads)

/-- A transaction of at least one byte and at most `n`. -/
def BusEvent.Carries (n : Nat) : BusEvent → Prop
  | .spi write readLength =>
    0 < write.length + readLength ∧ write.length + readLength ≤ n
  | .nticks => True

/-- Every transaction of a script is of at least one byte and at most `n`. -/
def Carried (n : Nat) (script : List BusEvent) : Prop := ∀ e ∈ script, e.Carries n

namespace SpiBench

variable (env : SpiEnv) (turns : Nat)

/-- The controller that the far end of the line amounts to: it replies what the driver
stores, having performed the same. -/
def controller (ticks : List BusEvent → BitVec 32) (ticksPerSecond : BitVec 32) : Controller where
  reply := fun log k =>
    match perform env turns log.reverse start with
    | some (reads, _) => (reads.getLastD []).getD k 0
    | none => 0
  nticks := ticks
  ticksPerSecond := ticksPerSecond

variable {env turns} {n : Nat} {b : SpiBench} {line : List LineEvent}

theorem perform_append {script₁ script₂ : List BusEvent} {reads₁ : List (List (BitVec 8))}
    {b₁ : SpiBench} (h : perform env turns script₁ b = some (reads₁, b₁)) :
    perform env turns (script₁ ++ script₂) b
      = (perform env turns script₂ b₁).map fun r => (reads₁ ++ r.1, r.2) := by
  induction script₁ generalizing b reads₁ with
  | nil =>
    cases h
    simp
  | cons e script₁ ih =>
    cases e with
    | nticks => exact ih h
    | spi write readLength =>
      rw [perform] at h
      obtain ⟨⟨read, b'⟩, hcall, h⟩ := Option.bind_eq_some_iff.mp h
      obtain ⟨⟨reads, b''⟩, hperform, h⟩ := Option.bind_eq_some_iff.mp h
      cases h
      rw [List.cons_append, perform, hcall]
      simp only [Option.bind_eq_bind, Option.bind_some, ih hperform]
      cases perform env turns script₂ b₁ <;> rfl

/-- A script runs to its end and leaves its frames on the line, and what it reads is what
the program of the model reads. -/
theorem perform_eq (hturns : 92 + 2 * n ≤ turns) (ticks : List BusEvent → BitVec 32)
    (ticksPerSecond : BitVec 32) {script : List BusEvent} (hscript : Carried n script)
    (h : Between line b) {done : List BusEvent} {reads₀ : List (List (BitVec 8))}
    (hdone : perform env turns done start = some (reads₀, b)) {w : Host}
    (hlog : w.log = done.reverse) :
    ∃ b' line' frames reads, perform env turns script b = some (reads, b') ∧
      w.perform (controller env turns ticks ticksPerSecond) script = reads ∧
      Between line' b' ∧ LineView.framesOn line' = LineView.framesOn line ++ frames ∧
      Served script frames reads := by
  induction script generalizing b line done reads₀ w with
  | nil => exact ⟨b, line, [], [], rfl, rfl, h, (List.append_nil _).symm, .nil⟩
  | cons e script ih =>
    have hrest : Carried n script := fun e he => hscript e (List.mem_cons_of_mem _ he)
    cases e with
    | nticks =>
      have hnext : perform env turns (done ++ [.nticks]) start = some (reads₀, b) := by
        rw [perform_append hdone, perform, perform]
        simp
      have hlog' : BusEvent.nticks :: w.log = (done ++ [BusEvent.nticks]).reverse := by
        rw [List.reverse_concat, hlog]
      obtain ⟨b₂, line₂, frames, reads, hperform, hreads, h₂, hframes, hserved⟩ :=
        ih hrest h hnext (w := { w with log := .nticks :: w.log }) hlog'
      exact ⟨b₂, line₂, frames, reads, hperform, hreads, h₂, hframes, .nticks hserved⟩
    | spi write readLength =>
      obtain ⟨hpos, hle⟩ := hscript _ (List.mem_cons_self ..)
      obtain ⟨received, b₁, hlen, hcall, h₁⟩ :=
        altAvalonSpiCommand_eq env h hpos (by omega : _ ≤ turns)
      have hsent : (write ++ List.replicate readLength 0).length = received.length := by
        rw [List.length_append, List.length_replicate, hlen]
      have hnext : perform env turns (done ++ [.spi write readLength]) start
          = some (reads₀ ++ [received.drop write.length], b₁) := by
        rw [perform_append hdone, perform, hcall]
        rfl
      have hlog' : BusEvent.spi write readLength :: w.log
          = (done ++ [BusEvent.spi write readLength]).reverse := by
        rw [List.reverse_concat, hlog]
      -- the controller has just performed the same script
      have hreply : ∀ k, (controller env turns ticks ticksPerSecond).reply
          (.spi write readLength :: w.log) k = (received.drop write.length).getD k 0 := by
        intro k
        show (match perform env turns (BusEvent.spi write readLength :: w.log).reverse start with
          | some (reads, _) => (reads.getLastD []).getD k 0
          | none => 0) = _
        rw [hlog', List.reverse_reverse, hnext]
        dsimp only
        rw [List.getLastD_concat]
      have hread : (w.spiCommand write readLength).received
          (controller env turns ticks ticksPerSecond) readLength = received.drop write.length := by
        refine List.ext_getElem ?_ fun k hk hk' => ?_
        · rw [Host.length_received, List.length_drop, hlen]
          omega
        · simp only [Host.received, List.getElem_map, List.getElem_range]
          exact (hreply k).trans (List.getD_eq_getElem _ _ hk')
      obtain ⟨b₂, line₂, frames, reads, hperform, hreads, h₂, hframes, hserved⟩ :=
        ih hrest h₁ hnext (w := w.spiCommand write readLength) hlog'
      refine ⟨b₂, line₂, _, _, ?_, ?_, h₂, ?_, .spi hlen hserved⟩
      · rw [perform, hcall]
        simp only [Option.bind_eq_bind, Option.bind_some, hperform]
        rfl
      · rw [Host.perform, hread, hreads]
      · rw [hframes, LineView.framesOn_append hsent, List.append_assoc]
        rfl

/-- **The link carries `usb_kb`'s transactions**, whatever the timing and whatever comes in:
the program reads what some controller replies, which is what the line carried in, the line
shows its transactions and nothing else, and no byte is lost. -/
theorem link_refines (env : SpiEnv) {turns n : Nat} (hturns : 92 + 2 * n ≤ turns)
    (ticks : List BusEvent → BitVec 32) (ticksPerSecond : BitVec 32) :
    ∃ c : Controller, c.nticks = ticks ∧ c.ticksPerSecond = ticksPerSecond ∧
      ∀ (script : List BusEvent) (m : Memory.Cells (BitVec 8)), Carried n script →
        ∃ b, perform env turns script start = some (Host.perform c script ⟨[], m⟩, b) ∧
          Served script (LineView.framesOn b.line) (Host.perform c script ⟨[], m⟩) ∧
          b.core.SSn = true ∧ b.core.ROE = false ∧ b.core.TOE = false := by
  refine ⟨controller env turns ticks ticksPerSecond, rfl, rfl, fun script m hscript => ?_⟩
  obtain ⟨b, line, frames, reads, hperform, hreads, h, hframes, hserved⟩ :=
    perform_eq hturns ticks ticksPerSecond hscript between_reset
      (show perform env turns [] start = some ([], _) from rfl) (w := ⟨[], m⟩) rfl
  have hline : LineView.framesOn b.line = frames := by
    rw [h.released.line, hframes]
    rfl
  rw [hreads]
  exact ⟨b, hperform, hline.symm ▸ hserved, h.released.SSn, h.released.sound.ROE, h.released.sound.TOE⟩

/-- A driver that is late by three clocks at every access, and a line that is high. -/
def lateHigh : SpiEnv where
  gap := fun _ => 3
  miso := fun _ => true
  stray := fun _ => ⟨false, true, true, 0, 0⟩

/-- A register of the chip is read. -/
theorem lateHigh_reads : ∃ c : Controller, ∃ b,
    perform lateHigh 96 [.spi [0x9a] 1] start = some (Host.perform c [.spi [0x9a] 1] ⟨[], Memory.blank⟩, b) ∧
      Served [.spi [0x9a] 1] (LineView.framesOn b.line) (Host.perform c [.spi [0x9a] 1] ⟨[], Memory.blank⟩) ∧
      b.core.SSn = true ∧ b.core.ROE = false ∧ b.core.TOE = false := by
  obtain ⟨c, -, -, hlink⟩ := link_refines lateHigh (show 92 + 2 * 2 ≤ 96 by decide)
    (fun _ => 0) 1
  refine ⟨c, hlink [.spi [0x9a] 1] Memory.blank ?_⟩
  intro e he
  obtain rfl := List.mem_singleton.mp he
  exact ⟨by decide, by decide⟩

end SpiBench

end SpaceInvaders
