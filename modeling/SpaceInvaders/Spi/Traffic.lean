import SpaceInvaders.Spi.Exchange
import SpaceInvaders.Spi.Stage

/-!
# The core under any traffic

Nothing is assumed of the processor here: the port may be written and read at any time.
The core takes up to two bytes, one in the shift register and one behind it. What it
takes goes out in order and whole (`Flow`, `flow_step`), and every word it hands over is
eight bits of `MISO`, in order too.
-/

namespace SpaceInvaders

open ShiftRegister

/-- What the core has taken, what has been on the line at the rising edges of `SCLK`, and
the words it has handed over. -/
structure SpiLedger where
  core : SpiCore
  taken : List (BitVec 8)
  mosi : List Bool
  miso : List Bool
  handed : List (BitVec 8)

namespace SpiLedger

/-- One edge, with the port and `MISO` as they are. -/
def step (l : SpiLedger) (i : SpiBus × Bool) : SpiLedger :=
  let core := l.core.step i.1 i.2
  let rises := !l.core.SCLK && core.SCLK
  { core := core
    taken := l.taken ++ if l.core.writeTxHolding then [i.1.dataFromCpu.setWidth 8] else []
    mosi := l.mosi ++ if rises then [l.core.MOSI] else []
    miso := l.miso ++ if rises then [i.2] else []
    handed := l.handed ++ if l.core.lastTick then [l.core.shift] else [] }

def start : SpiLedger := ⟨.reset, [], [], [], []⟩

/-- The byte that waits behind the shift register. -/
def waiting (s : SpiCore) : List (BitVec 8) := if s.txHoldingPrimed then [s.txHolding] else []

/-- The bytes taken are those that are out, the one on its way and the one that waits; the
bits received are those handed over and those of the one on its way. -/
inductive Flow : SpiLedger → Prop
  | resting {l : SpiLedger} (out : List (BitVec 8)) (resting : l.core.Resting)
      (taken : l.taken = out ++ waiting l.core) (mosi : l.mosi = out.flatMap bits)
      (miso : l.miso = l.handed.flatMap bits) (length : l.handed.length = out.length) : Flow l
  | sending {l : SpiLedger} (out : List (BitVec 8)) {word : BitVec 8} {got : List Bool} {p : Nat}
      (sending : l.core.Sending word got p)
      (taken : l.taken = out ++ word :: waiting l.core)
      (mosi : l.mosi = out.flatMap bits ++ (bits word).take got.length)
      (miso : l.miso = l.handed.flatMap bits ++ got)
      (length : l.handed.length = out.length) : Flow l

variable {l : SpiLedger} {i : SpiBus × Bool}

theorem flow_start : Flow start :=
  .resting [] ⟨rfl, rfl, rfl, rfl, rfl⟩ rfl rfl rfl rfl

/-- A byte is never written over another. -/
theorem waiting_step (s : SpiCore) (bus : SpiBus) (miso : Bool) :
    waiting (s.step bus miso)
      = (if s.writeShiftReg then [] else waiting s)
        ++ if s.writeTxHolding then [bus.dataFromCpu.setWidth 8] else [] := by
  show (if s.txHoldingPrimedNext then
    [if s.writeTxHolding then bus.dataFromCpu.setWidth 8 else s.txHolding] else []) = _
  unfold waiting SpiCore.txHoldingPrimedNext SpiCore.writeTxHolding SpiCore.writeShiftReg
    SpiCore.TRDY
  cases s.txHoldingPrimed <;> cases s.transmitting <;> cases s.dataWrStrobe <;> rfl

/-- The edges between two words. -/
theorem Flow.step_resting {out : List (BitVec 8)} (h : l.core.Resting)
    (htaken : l.taken = out ++ waiting l.core) (hmosi : l.mosi = out.flatMap bits)
    (hmiso : l.miso = l.handed.flatMap bits) (hlength : l.handed.length = out.length) :
    Flow (l.step i) := by
  have hhanded : (l.step i).handed = l.handed := by
    show l.handed ++ (if l.core.lastTick then _ else []) = _
    rw [h.lastTick]
    exact List.append_nil _
  have htaken' : (l.step i).taken = out ++ waiting l.core
      ++ if l.core.writeTxHolding then [i.1.dataFromCpu.setWidth 8] else [] := by
    rw [← htaken]
    rfl
  -- `SCLK` stays down at either edge
  have hquiet : (l.core.step i.1 i.2).SCLK = false →
      (l.step i).mosi = l.mosi ∧ (l.step i).miso = l.miso := by
    intro hlow
    show l.mosi ++ (if !l.core.SCLK && (l.core.step i.1 i.2).SCLK then _ else []) = _ ∧
      l.miso ++ (if !l.core.SCLK && (l.core.step i.1 i.2).SCLK then _ else []) = _
    rw [hlow, Bool.and_false]
    exact ⟨List.append_nil _, List.append_nil _⟩
  cases hprimed : l.core.txHoldingPrimed with
  | false =>
    have hrest' : (l.step i).core.Resting := h.step_idle hprimed
    obtain ⟨hmosi', hmiso'⟩ := hquiet hrest'.SCLK
    refine .resting out hrest' ?_ (hmosi'.trans hmosi) ?_ ?_
    · have hload : l.core.writeShiftReg = false := by
        rw [SpiCore.writeShiftReg, hprimed, Bool.false_and]
      rw [htaken', List.append_assoc]
      show _ = out ++ waiting (l.core.step i.1 i.2)
      rw [waiting_step, hload]
      rfl
    · rw [hmiso', hhanded, hmiso]
    · rw [hhanded, hlength]
  | true =>
    have hsend : (l.step i).core.Sending l.core.txHolding [] 0 := h.step_load hprimed
    obtain ⟨hmosi', hmiso'⟩ := hquiet hsend.SCLK
    refine .sending out hsend ?_ ?_ ?_ ?_
    · have hload : l.core.writeShiftReg = true := by
        rw [SpiCore.writeShiftReg, hprimed, h.transmitting]
        rfl
      have hwas : waiting l.core = [l.core.txHolding] := if_pos hprimed
      rw [htaken', hwas, List.append_assoc]
      show _ = out ++ l.core.txHolding :: waiting (l.core.step i.1 i.2)
      rw [waiting_step, hload]
      rfl
    · rw [hmosi', hmosi]
      exact (List.append_nil _).symm
    · rw [hmiso', hhanded, hmiso, List.append_nil]
    · rw [hhanded, hlength]

/-- The edges within a word. -/
theorem Flow.step_sending {out : List (BitVec 8)} {word : BitVec 8} {got : List Bool} {p : Nat}
    (h : l.core.Sending word got p) (htaken : l.taken = out ++ word :: waiting l.core)
    (hmosi : l.mosi = out.flatMap bits ++ (bits word).take got.length)
    (hmiso : l.miso = l.handed.flatMap bits ++ got) (hlength : l.handed.length = out.length) :
    Flow (l.step i) := by
  have htaken' : (l.step i).taken = out ++ word :: waiting (l.step i).core := by
    show l.taken ++ (if l.core.writeTxHolding then _ else [])
      = out ++ word :: waiting (l.core.step i.1 i.2)
    rw [waiting_step, h.writeShiftReg, htaken, List.append_assoc]
    rfl
  by_cases hend : p = 179
  · subst hend
    obtain ⟨hrest', -, hrx⟩ : (l.step i).core.Resting ∧ (l.step i).core.RRDY = true ∧
        (l.step i).core.rxHolding = ofBits got := h.step_last
    have hgot : got.length = 8 := h.length
    have hword : (bits word).take got.length = bits word :=
      List.take_of_length_le (by rw [length_bits, hgot])
    have hshift : l.core.shift = ofBits got := by
      have hall : got.take ((179 - 10) / 20) = got := List.take_of_length_le (by rw [hgot])
      rw [h.shift, hall, shiftAll_eq_ofBits _ hgot]
    have hhanded : (l.step i).handed = l.handed ++ [ofBits got] := by
      show l.handed ++ (if l.core.lastTick then [l.core.shift] else []) = _
      rw [h.lastTick, hshift]
      rfl
    refine .resting (out ++ [word]) hrest' ?_ ?_ ?_ ?_
    · rw [htaken', List.append_assoc]
      rfl
    · show l.mosi ++ (if !l.core.SCLK && (l.step i).core.SCLK then _ else []) = _
      rw [hrest'.SCLK, Bool.and_false, hmosi, hword, List.flatMap_append]
      simp
    · show l.miso ++ (if !l.core.SCLK && (l.step i).core.SCLK then _ else []) = _
      rw [hrest'.SCLK, Bool.and_false, hmiso, hhanded, List.flatMap_append]
      simp [bits_ofBits hgot]
    · rw [hhanded, List.length_append, List.length_append, hlength]
      rfl
  · have hsend' : (l.step i).core.Sending word (SpiCore.sampled p got i.2) (p + 1) := h.step hend
    have hhanded : (l.step i).handed = l.handed := by
      show l.handed ++ (if l.core.lastTick then _ else []) = _
      rw [h.lastTick, decide_eq_false hend]
      exact List.append_nil _
    have hlt := h.lt
    have hgot := h.length
    have hrises : (!l.core.SCLK && (l.step i).core.SCLK) = decide (p % 20 = 19) := by
      rw [h.SCLK, hsend'.SCLK, Bool.eq_iff_iff]
      simp only [Bool.and_eq_true, Bool.not_eq_true', decide_eq_false_iff_not, decide_eq_true_iff]
      omega
    refine .sending out hsend' htaken' ?_ ?_ (by rw [hhanded, hlength])
    · show l.mosi ++ (if !l.core.SCLK && (l.step i).core.SCLK then [l.core.MOSI] else []) = _
      rw [hrises, hmosi, SpiCore.sampled, List.append_assoc]
      by_cases hrise : p % 20 = 19
      · have hroom : got.length < (bits word).length := by
          rw [length_bits]
          omega
        rw [decide_eq_true hrise, if_pos rfl, if_pos hrise, List.length_append,
          List.length_singleton, List.take_add_one, List.getElem?_eq_getElem hroom, getElem_bits,
          h.MOSI hend hrise]
        rfl
      · rw [decide_eq_false hrise, if_neg Bool.false_ne_true, if_neg hrise, List.append_nil]
    · show l.miso ++ (if !l.core.SCLK && (l.step i).core.SCLK then [i.2] else []) = _
      rw [hrises, hmiso, hhanded, SpiCore.sampled, List.append_assoc]
      by_cases hrise : p % 20 = 19
      · rw [decide_eq_true hrise, if_pos rfl, if_pos hrise]
      · rw [decide_eq_false hrise, if_neg Bool.false_ne_true, if_neg hrise, List.append_nil]

/-- **Every edge keeps the books**, whatever is on the port. -/
theorem flow_step (h : Flow l) : Flow (l.step i) := by
  cases h with
  | resting out hrest htaken hmosi hmiso hlength =>
    exact Flow.step_resting hrest htaken hmosi hmiso hlength
  | sending out hsend htaken hmosi hmiso hlength =>
    exact Flow.step_sending hsend htaken hmosi hmiso hlength

/-- In order and whole: the line shows the bytes taken, less at most two that have not gone
out; the words handed over are the bits received, less at most the one on its way. -/
structure InOrder (l : SpiLedger) : Prop where
  sent : l.mosi <+: l.taken.flatMap bits
  behind : (l.taken.flatMap bits).length ≤ l.mosi.length + 16
  handed : l.handed.flatMap bits <+: l.miso
  ahead : l.miso.length ≤ (l.handed.flatMap bits).length + 8
  duplex : l.mosi.length = l.miso.length

theorem length_waiting (s : SpiCore) : (waiting s).length ≤ 1 := by
  unfold waiting
  split_ifs <;> simp

theorem Flow.inOrder (h : Flow l) : InOrder l := by
  have hwait := length_waiting l.core
  cases h with
  | @resting out _ htaken hmosi hmiso hlength =>
    refine ⟨?_, ?_, ?_, ?_, ?_⟩
    · rw [htaken, List.flatMap_append, hmosi]
      exact List.prefix_append ..
    · rw [htaken, List.flatMap_append, List.length_append, hmosi, length_flatMap_bits (waiting _)]
      omega
    · rw [hmiso]
    · rw [hmiso]
      omega
    · rw [hmosi, hmiso, length_flatMap_bits, length_flatMap_bits, hlength]
  | @sending out word got p hsend htaken hmosi hmiso hlength =>
    have hgot : got.length ≤ 8 := by
      have hlt := hsend.lt
      have hlen := hsend.length
      omega
    have htake : ((bits word).take got.length).length = got.length := by
      rw [List.length_take, length_bits]
      omega
    refine ⟨?_, ?_, ?_, ?_, ?_⟩
    · rw [htaken, List.flatMap_append, hmosi, List.flatMap_cons]
      exact (List.prefix_append_right_inj _).mpr
        ((List.take_prefix _ _).trans (List.prefix_append ..))
    · rw [htaken, List.flatMap_append, List.length_append, hmosi, List.length_append, htake,
        length_flatMap_bits (_ :: _), List.length_cons]
      omega
    · rw [hmiso]
      exact List.prefix_append ..
    · rw [hmiso, List.length_append]
      omega
    · rw [hmosi, hmiso, List.length_append, List.length_append, htake, length_flatMap_bits,
        length_flatMap_bits, hlength]

/-- **Nothing is lost, doubled or out of order inside the core**, whatever the processor and
the far end do. -/
theorem inOrder_run (inp : Nat → SpiBus × Bool) (t : Nat) :
    InOrder (Clocked.run step start inp t) :=
  Flow.inOrder (Clocked.run_inv Flow flow_start (fun _ _ h => flow_step h) t)

/-! ## Delivery -/

/-- The clocks it takes until all is out, if nothing more is taken. -/
def owed (s : SpiCore) : Nat :=
  (if s.transmitting then 180 - (10 * s.state.toNat + s.slowcount.toNat) else 0)
    + if s.txHoldingPrimed then 181 else 0

theorem owed_sending {s : SpiCore} {word : BitVec 8} {got : List Bool} {p : Nat}
    (h : s.Sending word got p) :
    owed s = 180 - p + if s.txHoldingPrimed then 181 else 0 := by
  have hphase : 10 * s.state.toNat + s.slowcount.toNat = p := by
    rw [h.state, h.slowcount]
    omega
  rw [owed, if_pos h.transmitting, hphase]

theorem owed_resting {s : SpiCore} (h : s.Resting) :
    owed s = if s.txHoldingPrimed then 181 else 0 := by
  rw [owed, h.transmitting, if_neg Bool.false_ne_true, Nat.zero_add]

theorem Flow.owed_le (h : Flow l) : owed l.core ≤ 361 := by
  cases h with
  | resting out hrest =>
    rw [owed_resting hrest]
    split_ifs <;> omega
  | sending out hsend =>
    rw [owed_sending hsend]
    split_ifs <;> omega

/-- A clock that takes nothing brings the end one nearer. -/
theorem Flow.owed_step (h : Flow l) (hnone : l.core.writeTxHolding = false) :
    owed (l.step i).core = owed l.core - 1 := by
  have hprimed' : (l.step i).core.txHoldingPrimed
      = (!l.core.writeShiftReg && l.core.txHoldingPrimed) := by
    show l.core.txHoldingPrimedNext = _
    rw [SpiCore.txHoldingPrimedNext, hnone]
    cases l.core.writeShiftReg <;> rfl
  cases h with
  | resting out hrest =>
    cases hprimed : l.core.txHoldingPrimed with
    | false =>
      have hrest' : (l.step i).core.Resting := hrest.step_idle hprimed
      rw [owed_resting hrest, owed_resting hrest', hprimed', hprimed, Bool.and_false]
      rfl
    | true =>
      have hsend : (l.step i).core.Sending l.core.txHolding [] 0 := hrest.step_load hprimed
      have hload : l.core.writeShiftReg = true := by
        rw [SpiCore.writeShiftReg, hprimed, hrest.transmitting]
        rfl
      rw [owed_resting hrest, owed_sending hsend, hprimed', hload, hprimed]
      rfl
  | @sending out word got p hsend =>
    have hlt := hsend.lt
    rw [hsend.writeShiftReg, Bool.not_false, Bool.true_and] at hprimed'
    by_cases hend : p = 179
    · subst hend
      obtain ⟨hrest', -, -⟩ : (l.step i).core.Resting ∧ (l.step i).core.RRDY = true ∧
          (l.step i).core.rxHolding = ofBits got := hsend.step_last
      rw [owed_sending hsend, owed_resting hrest', hprimed']
      omega
    · have hsend' : (l.step i).core.Sending word (SpiCore.sampled p got i.2) (p + 1) :=
        hsend.step hend
      rw [owed_sending hsend, owed_sending hsend', hprimed']
      omega

theorem Flow.delivered (h : Flow l) (hnone : owed l.core = 0) :
    l.mosi = l.taken.flatMap bits ∧ l.miso = l.handed.flatMap bits := by
  cases h with
  | resting out hrest htaken hmosi hmiso =>
    have hempty : waiting l.core = [] := by
      refine if_neg fun hprimed => ?_
      rw [owed_resting hrest, if_pos hprimed] at hnone
      cases hnone
    rw [hempty, List.append_nil] at htaken
    exact ⟨htaken ▸ hmosi, hmiso⟩
  | sending out hsend =>
    have hlt := hsend.lt
    rw [owed_sending hsend] at hnone
    omega

/-- **All that is taken is out within 361 clocks**, if nothing more is taken meanwhile. -/
theorem delivered_run (inp : Nat → SpiBus × Bool) (t n : Nat) (hn : 361 ≤ n)
    (hnone : ∀ k < n, (Clocked.run step start inp (t + k)).core.writeTxHolding = false) :
    (Clocked.run step start inp (t + n)).taken = (Clocked.run step start inp t).taken ∧
      (Clocked.run step start inp (t + n)).mosi
        = (Clocked.run step start inp t).taken.flatMap bits ∧
      (Clocked.run step start inp (t + n)).miso
        = (Clocked.run step start inp (t + n)).handed.flatMap bits := by
  have hflow : ∀ t, Flow (Clocked.run step start inp t) :=
    Clocked.run_inv Flow flow_start (fun _ _ h => flow_step h)
  have hrun : ∀ k ≤ n, (Clocked.run step start inp (t + k)).taken
        = (Clocked.run step start inp t).taken ∧
      owed (Clocked.run step start inp (t + k)).core
        = owed (Clocked.run step start inp t).core - k := by
    intro k
    induction k with
    | zero => exact fun _ => ⟨rfl, rfl⟩
    | succ k ih =>
      intro hk
      obtain ⟨htaken, howed⟩ := ih (Nat.le_of_succ_le hk)
      have hquiet := hnone k hk
      refine ⟨?_, ?_⟩
      · rw [← htaken, ← Nat.add_assoc, Clocked.run_succ]
        show _ ++ (if (Clocked.run step start inp (t + k)).core.writeTxHolding then _ else []) = _
        rw [hquiet]
        exact List.append_nil _
      · rw [← Nat.add_assoc, Clocked.run_succ, (hflow (t + k)).owed_step hquiet, howed]
        omega
  obtain ⟨htaken, howed⟩ := hrun n (Nat.le_refl n)
  have hle := (hflow t).owed_le
  obtain ⟨hmosi, hmiso⟩ := (hflow (t + n)).delivered (by omega)
  exact ⟨htaken, htaken ▸ hmosi, hmiso⟩

/-- Two bytes are written, the second while the first is on its way, and then the port is
left alone. -/
def twoBytes (t : Nat) : SpiBus × Bool :=
  if t < 2 then (⟨true, true, false, 1, 0x9a⟩, true)
  else if t < 4 then (⟨true, true, false, 1, 0x31⟩, false)
  else (⟨false, true, true, 0, 0⟩, true)

theorem twoBytes_quiet (t : Nat) :
    (Clocked.run step start twoBytes (t + 5)).core.writeTxHolding = false := by
  rw [Clocked.run_succ]
  have hbus : twoBytes (t + 4) = (⟨false, true, true, 0, 0⟩, true) :=
    (if_neg (by omega)).trans (if_neg (by omega))
  have hstrobe : (step (Clocked.run step start twoBytes (t + 4)) (twoBytes (t + 4))).core.dataWrStrobe
      = (Clocked.run step start twoBytes (t + 4)).core.p1DataWrStrobe (twoBytes (t + 4)).1 := rfl
  rw [SpiCore.writeTxHolding, hstrobe, hbus, SpiCore.p1DataWrStrobe, SpiCore.p1WrStrobe,
    Bool.and_false]
  rfl

theorem twoBytes_taken : (Clocked.run step start twoBytes 5).taken = [0x9a#8, 0x31#8] := by
  decide

theorem twoBytes_delivered :
    (Clocked.run step start twoBytes (5 + 361)).taken = [0x9a#8, 0x31#8] ∧
      (Clocked.run step start twoBytes (5 + 361)).mosi = bits 0x9a#8 ++ bits 0x31#8 ∧
      (Clocked.run step start twoBytes (5 + 361)).miso
        = (Clocked.run step start twoBytes (5 + 361)).handed.flatMap bits := by
  obtain ⟨htaken, hmosi, hmiso⟩ := delivered_run twoBytes 5 361 (Nat.le_refl 361) fun k _ => by
    rw [Nat.add_comm]
    exact twoBytes_quiet k
  rw [twoBytes_taken] at htaken hmosi
  exact ⟨htaken, hmosi, hmiso⟩

end SpiLedger

end SpaceInvaders
