import SpaceInvaders.Spi.Access

/-!
# One transaction of the driver

Whatever the gaps between its accesses, `alt_avalon_spi_command` has its bytes and then
its zeros sent, one after the other under one select, and stores the last bytes it
receives (`altAvalonSpiCommand_eq`). With one credit there is never more than one byte on
its way: a turn of the loop that sends a byte is followed by one that waits for its answer.
-/

namespace SpaceInvaders

open ShiftRegister

/-- The line while some bytes go out and as many come in. -/
def exchange (sent received : List (BitVec 8)) : List LineEvent :=
  (List.zipWith (fun x y => SpiCore.wordEvents x (bits y)) sent received).flatten

/-- The line from select to release. -/
def frame (sent received : List (BitVec 8)) : List LineEvent :=
  .select :: exchange sent received ++ [.deselect]

namespace SpiBench

open SpiCore

variable {env : SpiEnv} {b : SpiBench} {line : List LineEvent} {rx word : BitVec 8} {k : Nat}

/-! ## Polling -/

theorem Carrying.late (h : Carrying line word k b) (hfull : b.core.RRDY = true) : 181 ≤ k := by
  obtain ⟨got, hstage, -⟩ := h.stage
  cases hstage with
  | waiting _ _ _ hempty => rw [hempty] at hfull; cases hfull
  | sending _ _ hempty => rw [hempty] at hfull; cases hfull
  | arrived _ _ _ _ _ hlate => exact hlate

/-- After 180 clocks the byte has arrived. -/
theorem Carrying.arrived (h : Carrying line word k b) (hk : 181 ≤ k) :
    ∃ y, Held (line ++ wordEvents word (bits y)) y true b := by
  obtain ⟨got, hstage, hline⟩ := h.stage
  cases hstage with
  | waiting => exact absurd hk (by decide)
  | sending hsend =>
    have hlt := hsend.lt
    omega
  | arrived hrest hprimed hfull hlen hrx =>
    refine ⟨ofBits got, hrest, hprimed, h.chosen, h.sound, hrx, hfull, ?_⟩
    rw [hline, bits_ofBits hlen]

variable (env)

/-- Nothing on its way: the first look finds the core ready for a byte. -/
theorem Held.awaitReady (h : Held line rx false b) (hquiet : b.core.Quiet) {polls : Nat}
    (hpolls : 0 < polls) :
    ∃ status b', SpiCommand.awaitReady env 1 polls b = some (status, b') ∧
      status &&& spiStatusTrdyMsk ≠ 0 ∧ status &&& spiStatusRrdyMsk = 0 ∧ b'.core.Quiet ∧
      Held line rx false b' := by
  obtain ⟨polls, rfl⟩ := Nat.exists_eq_succ_of_ne_zero hpolls.ne'
  obtain ⟨-, c, -, hc, hstatus, hquiet', h'⟩ := iord_inv (k := 0) env kept_held
    (fun _ _ _ h => ⟨h.1, h.2, h.3, h.4, h.5, h.6, h.7⟩)
    (show spiStatusReg ≠ 0 by decide) hquiet h
  have hstatus : (b.iord env spiStatusReg).1 = c.core.spiStatus.setWidth 16 := hstatus
  have htrdy : (b.iord env spiStatusReg).1 &&& spiStatusTrdyMsk ≠ 0 := by
    rw [hstatus, Ne, status_trdy, TRDY, hc.resting.transmitting, Bool.false_and]
    decide
  refine ⟨_, _, ?_, htrdy, ?_, hquiet', h'⟩
  · rw [SpiCommand.awaitReady]
    dsimp only
    rw [if_neg]
    rintro ⟨h0 | h0, -⟩
    · exact htrdy h0
    · cases h0
  · rw [hstatus, status_rrdy]
    exact hc.RRDY

/-- A byte on its way: polling ends when its answer is there. -/
theorem Carrying.awaitReady {polls : Nat} (h : Carrying line word k b) (hquiet : b.core.Quiet)
    (hpos : 0 < polls) (hpolls : 183 ≤ k + 2 * polls) :
    ∃ status b' y, SpiCommand.awaitReady env 0 polls b = some (status, b') ∧
      status &&& spiStatusRrdyMsk ≠ 0 ∧ b'.core.Quiet ∧
      Held (line ++ wordEvents word (bits y)) y true b' := by
  induction polls generalizing b k with
  | zero => exact absurd hpos (Nat.lt_irrefl 0)
  | succ polls ih =>
    obtain ⟨k', c, hle, hc, hstatus, hquiet', h'⟩ := iord_inv env kept_carrying
      (fun _ _ _ h => ⟨h.1, h.2, h.3⟩) (show spiStatusReg ≠ 0 by decide) hquiet h
    have hstatus : (b.iord env spiStatusReg).1 = c.core.spiStatus.setWidth 16 := hstatus
    rw [SpiCommand.awaitReady]
    dsimp only
    cases hfull : c.core.RRDY with
    | true =>
      have hrrdy : (b.iord env spiStatusReg).1 &&& spiStatusRrdyMsk ≠ 0 := by
        rw [hstatus, Ne, status_rrdy, hfull]
        decide
      obtain ⟨y, hy⟩ := h'.arrived (Nat.le_add_right_of_le (hc.late hfull))
      exact ⟨_, _, y, by rw [if_neg (fun h0 => hrrdy h0.2)], hrrdy, hquiet', hy⟩
    | false =>
      have hrrdy : (b.iord env spiStatusReg).1 &&& spiStatusRrdyMsk = 0 := by
        rw [hstatus, status_rrdy, hfull]
      have hearly : k' < 181 := by
        obtain ⟨got, hstage, -⟩ := hc.stage
        by_contra hlate
        rw [hstage.RRDY (by omega)] at hfull
        cases hfull
      rw [if_pos ⟨.inr rfl, hrrdy⟩]
      exact ih h' hquiet' (by omega) (by omega)

theorem Held.awaitEmpty {full : Bool} (h : Held line rx full b) (hquiet : b.core.Quiet)
    {polls : Nat} (hpolls : 0 < polls) :
    ∃ b', SpiCommand.awaitEmpty env polls b = some b' ∧ b'.core.Quiet ∧
      Held line rx full b' := by
  obtain ⟨polls, rfl⟩ := Nat.exists_eq_succ_of_ne_zero hpolls.ne'
  obtain ⟨-, c, -, hc, hstatus, hquiet', h'⟩ := iord_inv (k := 0) env kept_held
    (fun _ _ _ h => ⟨h.1, h.2, h.3, h.4, h.5, h.6, h.7⟩)
    (show spiStatusReg ≠ 0 by decide) hquiet h
  have hstatus : (b.iord env spiStatusReg).1 = c.core.spiStatus.setWidth 16 := hstatus
  refine ⟨_, ?_, hquiet', h'⟩
  rw [SpiCommand.awaitEmpty]
  dsimp only
  rw [if_neg]
  rw [hstatus, status_tmt, TMT, hc.resting.transmitting, hc.primed]
  decide

end SpiBench

namespace SpiCommand

open SpiBench SpiCore

variable {env : SpiEnv} {b : SpiBench} {line : List LineEvent} {rx word : BitVec 8}
  {polls readLength : Nat} {c : SpiCommand} {rest : List (BitVec 8)}

/-- The bytes still to be sent. -/
def todo (c : SpiCommand) : List (BitVec 8) := c.write ++ List.replicate c.writeZeros 0

/-- The next byte is sent, and nothing else changes. -/
theorem send_eq (hcredits : c.credits = 1) (htodo : c.todo = word :: rest) :
    ∃ c', (∀ b, c.send env b = (c', b.iowr env spiTxdataReg (word.setWidth 16))) ∧
      c'.todo = rest ∧ c'.credits = 0 ∧ c'.readIgnore = c.readIgnore ∧ c'.read = c.read := by
  obtain ⟨write, writeZeros, readIgnore, read, credits⟩ := c
  obtain rfl : credits = 1 := hcredits
  cases write with
  | cons x write =>
    obtain ⟨rfl, rfl⟩ : x = word ∧ write ++ List.replicate writeZeros 0 = rest := by
      simpa [SpiCommand.todo] using htodo
    exact ⟨_, fun b => rfl, rfl, rfl, rfl, rfl⟩
  | nil =>
    cases writeZeros with
    | zero => simp [SpiCommand.todo] at htodo
    | succ writeZeros =>
      obtain ⟨rfl, rfl⟩ : 0 = word ∧ List.replicate writeZeros 0 = rest := by
        simpa [SpiCommand.todo, List.replicate_succ] using htodo
      exact ⟨⟨[], writeZeros, readIgnore, read, 1 - 1⟩, fun b => rfl, rfl, rfl, rfl, rfl⟩

/-- How much is still to be received. -/
def Awaits (readLength n : Nat) (c : SpiCommand) : Prop :=
  c.read.length ≤ readLength ∧ c.readIgnore + (readLength - c.read.length) = n

theorem Awaits.receive {n : Nat} (h : c.Awaits readLength (n + 1)) (rxdata : BitVec 16) :
    (c.receive rxdata).Awaits readLength n := by
  obtain ⟨hle, hsum⟩ := h
  unfold SpiCommand.receive Awaits
  split_ifs with hignore
  · dsimp only
    omega
  · dsimp only
    rw [List.length_append, List.length_singleton]
    omega

theorem Awaits.done_iff {n : Nat} (h : c.Awaits readLength n) :
    c.readIgnore = 0 ∧ c.read.length = readLength ↔ n = 0 := by
  obtain ⟨hle, hsum⟩ := h
  omega

theorem receive_todo (c : SpiCommand) (rxdata : BitVec 16) :
    (c.receive rxdata).todo = c.todo := by
  unfold SpiCommand.receive
  split_ifs <;> rfl

theorem receive_credits (c : SpiCommand) (rxdata : BitVec 16) :
    (c.receive rxdata).credits = c.credits + 1 := by
  unfold SpiCommand.receive
  split_ifs <;> rfl

/-- What is stored of the next bytes. -/
theorem receive_read (c : SpiCommand) (y : BitVec 8) (ys : List (BitVec 8)) :
    (c.receive (y.setWidth 16)).read ++ ys.drop (c.receive (y.setWidth 16)).readIgnore
      = c.read ++ (y :: ys).drop c.readIgnore := by
  unfold SpiCommand.receive
  split_ifs with hignore
  · obtain ⟨n, hn⟩ := Nat.exists_eq_succ_of_ne_zero hignore.ne'
    simp [hn]
  · have hzero : c.readIgnore = 0 := by omega
    simp [hzero, BitVec.setWidth_setWidth_of_le]

variable (env)

/-- A turn that sends a byte. -/
theorem turn_send (readLength : Nat) (hcredits : c.credits = 1) (htodo : c.todo = word :: rest)
    (h : Held line rx false b) (hquiet : b.core.Quiet) (hpolls : 0 < polls) :
    ∃ c' b', c.turn env polls readLength b = some (false, c', b') ∧ b'.core.Quiet ∧
      Carrying line word 0 b' ∧ c'.todo = rest ∧ c'.credits = 0 ∧
      c'.readIgnore = c.readIgnore ∧ c'.read = c.read := by
  obtain ⟨status, b', hawait, htrdy, hrrdy, hquiet', h'⟩ := h.awaitReady env hquiet hpolls
  obtain ⟨c', hsend, hc'⟩ := send_eq hcredits htodo
  obtain ⟨hquiet'', hcarry⟩ := h'.iowr_txdata env hquiet' word
  refine ⟨c', _, ?_, hquiet'', hcarry, hc'⟩
  have hgo : status &&& spiStatusTrdyMsk ≠ 0 ∧ (0 : Int) < 1 := ⟨htrdy, by decide⟩
  rw [turn, hcredits, hawait]
  dsimp only
  rw [if_neg (not_not.mpr hrrdy), if_pos hgo, hsend]

/-- A turn that waits for the answer. -/
theorem turn_receive (readLength : Nat) (hcredits : c.credits = 0) (h : Carrying line word 0 b)
    (hquiet : b.core.Quiet) (hpolls : 92 ≤ polls) :
    ∃ y b', c.turn env polls readLength b
        = some (decide ((c.receive (y.setWidth 16)).readIgnore = 0
            ∧ (c.receive (y.setWidth 16)).read.length = readLength),
          c.receive (y.setWidth 16), b') ∧
      b'.core.Quiet ∧ Held (line ++ wordEvents word (bits y)) y false b' := by
  have hpos : 0 < polls := by omega
  obtain ⟨status, b', y, hawait, hrrdy, hquiet', h'⟩ :=
    h.awaitReady env hquiet hpos (by omega)
  obtain ⟨hdata, hquiet'', h''⟩ := h'.iord_rxdata env hquiet'
  refine ⟨y, _, ?_, hquiet'', h''⟩
  have hstay : ¬ (status &&& spiStatusTrdyMsk ≠ 0 ∧ (0 : Int) < 0) :=
    fun hgo => absurd hgo.2 (by decide)
  rw [turn, hcredits, hawait]
  dsimp only
  rw [if_neg hstay]
  dsimp only
  rw [if_pos hrrdy, hdata]

/-- **The main loop**: every byte is sent, and every answer ignored or stored. -/
theorem loop_eq (hpolls : 92 ≤ polls) :
    ∀ {todo : List (BitVec 8)} {turns : Nat} {c : SpiCommand} {b : SpiBench}
      {line : List LineEvent} {rx : BitVec 8}, todo ≠ [] → c.todo = todo → c.credits = 1 →
      c.Awaits readLength todo.length → Held line rx false b → b.core.Quiet →
      2 * todo.length ≤ turns →
      ∃ ys c' b', loop env polls readLength turns c b = some (c', b') ∧
        ys.length = todo.length ∧ c'.read = c.read ++ ys.drop c.readIgnore ∧ b'.core.Quiet ∧
        ∃ rx', Held (line ++ exchange todo ys) rx' false b' := by
  intro todo
  induction todo with
  | nil => exact fun h => absurd rfl h
  | cons x todo ih =>
    intro turns c b line rx _ htodo hcredits hawaits h hquiet hturns
    rw [List.length_cons] at hturns hawaits
    obtain ⟨turns, rfl⟩ : ∃ n, turns = n + 2 := ⟨turns - 2, by omega⟩
    obtain ⟨c₁, b₁, hsend, hquiet₁, hcarry, htodo₁, hcredits₁, hignore₁, hread₁⟩ :=
      turn_send env readLength hcredits htodo h hquiet (by omega : 0 < polls)
    obtain ⟨y, b₂, hreceive, hquiet₂, h₂⟩ :=
      turn_receive env readLength hcredits₁ hcarry hquiet₁ hpolls
    have hawaits₁ : c₁.Awaits readLength (todo.length + 1) := by
      unfold Awaits
      rw [hignore₁, hread₁]
      exact hawaits
    have hawaits₂ := hawaits₁.receive (y.setWidth 16)
    have hstore := receive_read c₁ y
    rw [hignore₁, hread₁] at hstore
    have hline : ∀ ys, line ++ wordEvents x (bits y) ++ exchange todo ys
        = line ++ exchange (x :: todo) (y :: ys) := fun ys => by
      rw [exchange, exchange, List.zipWith_cons_cons, List.flatten_cons, List.append_assoc]
    rw [loop, hsend]
    dsimp only
    rw [loop, hreceive]
    by_cases hlast : todo = []
    · rw [decide_eq_true (hawaits₂.done_iff.mpr (List.length_eq_zero_iff.mpr hlast))]
      refine ⟨[y], _, _, rfl, by rw [hlast]; rfl, ?_, hquiet₂, y, ?_⟩
      · have hread := hstore []
        rwa [List.drop_nil, List.append_nil] at hread
      · have hheld := hline []
        rw [hlast] at hheld ⊢
        rw [← hheld]
        exact (List.append_nil _).symm ▸ h₂
    · rw [decide_eq_false (mt hawaits₂.done_iff.mp (mt List.length_eq_zero_iff.mp hlast))]
      dsimp only
      have htodo₂ : (c₁.receive (y.setWidth 16)).todo = todo := (receive_todo ..).trans htodo₁
      have hcredits₂ : (c₁.receive (y.setWidth 16)).credits = 1 := by
        rw [receive_credits, hcredits₁]
        rfl
      obtain ⟨ys, c', b', hloop, hlen, hread, hquiet', rx', h'⟩ :=
        ih hlast htodo₂ hcredits₂ hawaits₂ h₂ hquiet₂ (by omega : 2 * todo.length ≤ turns)
      refine ⟨y :: ys, c', b', hloop, by rw [List.length_cons, hlen, List.length_cons], ?_, hquiet',
        rx', ?_⟩
      · rw [hread, hstore]
      · rw [← hline]
        exact h'

end SpiCommand

namespace SpiBench

/-- Between two transactions: the core at rest, no byte lost, the chip not selected. -/
structure Between (line : List LineEvent) (b : SpiBench) : Prop where
  quiet : b.core.Quiet
  released : Released line none b

theorem between_reset : Between [] ⟨.reset, 0, 0, []⟩ where
  quiet := ⟨⟨rfl, rfl, rfl⟩, rfl⟩
  released := ⟨⟨rfl, rfl, rfl, rfl, rfl⟩, rfl, rfl, ⟨rfl, rfl⟩, nofun, rfl⟩

variable {env : SpiEnv} {b : SpiBench} {line : List LineEvent} {write : List (BitVec 8)}
  {readLength turns : Nat}

variable (env) in
/-- **One call is one transaction**: the bytes and then the zeros go out under one select,
and what comes in after the bytes is stored. -/
theorem altAvalonSpiCommand_eq (h : Between line b) (hpos : 0 < write.length + readLength)
    (hturns : 92 + 2 * (write.length + readLength) ≤ turns) :
    ∃ received b', received.length = write.length + readLength ∧
      altAvalonSpiCommand env turns 0 write readLength 0 b
        = some (received.drop write.length, b') ∧
      Between (line ++ frame (write ++ List.replicate readLength 0) received) b' := by
  obtain ⟨hquiet₁, h₁⟩ := h.released.iowr_slaveSel env h.quiet (1#16 <<< 0)
  obtain ⟨hquiet₂, rx₂, full₂, h₂⟩ := h₁.iowr_sso env (by decide) hquiet₁
  obtain ⟨-, hquiet₃, h₃⟩ := h₂.iord_rxdata env hquiet₂
  have hlength : (write ++ List.replicate readLength 0).length = write.length + readLength := by
    rw [List.length_append, List.length_replicate]
  have hawaits : SpiCommand.Awaits readLength (write ++ List.replicate readLength 0).length
      { write := write, writeZeros := readLength, readIgnore := write.length, read := [],
        credits := 1 } := ⟨Nat.zero_le _, hlength.symm⟩
  obtain ⟨received, c, b₄, hloop, hlen, hread, hquiet₄, rx₄, h₄⟩ :=
    SpiCommand.loop_eq env (by omega : 92 ≤ turns)
      (List.ne_nil_of_length_pos (hlength ▸ hpos)) rfl rfl hawaits h₃ hquiet₃
      (by omega : 2 * (write ++ List.replicate readLength 0).length ≤ turns)
  obtain ⟨b₅, hempty, hquiet₅, h₅⟩ := h₄.awaitEmpty env hquiet₄ (by omega : 0 < turns)
  obtain ⟨hquiet₆, h₆⟩ := h₅.iowr_release env hquiet₅
  refine ⟨received, _, hlen.trans hlength, ?_, hquiet₆, ?_⟩
  · unfold altAvalonSpiCommand
    dsimp only
    rw [if_pos (by decide), hloop]
    dsimp only
    rw [hempty]
    dsimp only
    rw [if_pos (by decide), hread]
    rfl
  · have hline : line ++ [.select] ++ exchange (write ++ List.replicate readLength 0) received
        ++ [.deselect] = line ++ frame (write ++ List.replicate readLength 0) received := by
      simp [frame]
    exact hline ▸ h₆

end SpiBench

end SpaceInvaders
