import SpaceInvaders.Spi.Stage

/-!
# What an access does to the core

Between the accesses that matter the bench is in one of three conditions: `Released`,
`Held` (selected, nothing on its way) and `Carrying` a byte. Each is kept by every clock
that carries out no access, so waiting and reading the status keep it too (`idle_inv`,
`iord_inv`), and a write does what its second clock does (`iowr_rule`).
-/

namespace SpaceInvaders

open ShiftRegister

namespace SpiCore

/-! ## The status word -/

variable (s : SpiCore)

theorem spiStatus_mask : ∀ EOP E RRDY TRDY TMT TOE ROE : Bool,
    let status : BitVec 16 := ((BitVec.ofBool EOP ++ BitVec.ofBool E ++ BitVec.ofBool RRDY ++
      BitVec.ofBool TRDY ++ BitVec.ofBool TMT ++ BitVec.ofBool TOE ++ BitVec.ofBool ROE ++
      0#3).setWidth 11).setWidth 16
    (status &&& spiStatusRrdyMsk = 0 ↔ RRDY = false) ∧
      (status &&& spiStatusTrdyMsk = 0 ↔ TRDY = false) ∧
      (status &&& spiStatusTmtMsk = 0 ↔ TMT = false) := by
  decide

theorem status_rrdy : s.spiStatus.setWidth 16 &&& spiStatusRrdyMsk = 0 ↔ s.RRDY = false :=
  (spiStatus_mask s.EOP s.E s.RRDY s.TRDY s.TMT s.TOE s.ROE).1

theorem status_trdy : s.spiStatus.setWidth 16 &&& spiStatusTrdyMsk = 0 ↔ s.TRDY = false :=
  (spiStatus_mask s.EOP s.E s.RRDY s.TRDY s.TMT s.TOE s.ROE).2.1

theorem status_tmt : s.spiStatus.setWidth 16 &&& spiStatusTmtMsk = 0 ↔ s.TMT = false :=
  (spiStatus_mask s.EOP s.E s.RRDY s.TRDY s.TMT s.TOE s.ROE).2.2

end SpiCore

namespace SpiBench

open SpiCore

variable {env : SpiEnv} {b : SpiBench}

/-! ## What every clock keeps -/

/-- A condition that may count clocks, kept by every clock that carries out no access. -/
def Kept (env : SpiEnv) (P : Nat → SpiBench → Prop) : Prop :=
  ∀ k b bus, b.core.Calm → P k b → P (k + 1) (b.tick env bus)

variable {P : Nat → SpiBench → Prop} {k : Nat}

theorem idle_inv (hkept : Kept env P) {n : Nat} (hquiet : b.core.Quiet) (h : P k b) :
    (b.idle env n).core.Quiet ∧ P (k + n) (b.idle env n) := by
  induction n generalizing b k with
  | zero => exact ⟨hquiet, h⟩
  | succ n ih =>
    have hquiet' : (b.tick env (b.idleBus env)).core.Quiet := step_idle_quiet rfl
    have hrest := ih hquiet' (hkept _ _ _ hquiet.toCalm h)
    rwa [Nat.add_assoc, Nat.add_comm 1 n] at hrest

/-- The clock in which a read starts. -/
theorem read_calm {reg : BitVec 3} (hreg : reg ≠ 0) :
    (b.tick env (b.readBus env reg)).core.Calm := by
  refine ⟨?_, ?_, ?_⟩
  · show (b.core.p1RdStrobe _ && (reg == 0)) = false
    rw [beq_eq_false_iff_ne.mpr hreg, Bool.and_false]
  · show (_ && _ && !true) = false
    rw [Bool.not_true, Bool.and_false]
  · show (_ && _ && !true && _) = false
    rw [Bool.not_true, Bool.and_false, Bool.false_and]

variable (env) in
/-- What a read of a register other than the data returns is seen at one of the clocks,
two before it is over. -/
theorem iord_inv (hkept : Kept env P) (haccess : ∀ k b n, P k b → P k { b with accesses := n })
    {reg : BitVec 3} (hreg : reg ≠ 0) (hquiet : b.core.Quiet) (h : P k b) :
    ∃ k' b', k ≤ k' ∧ P k' b' ∧ (b.iord env reg).1 = b'.core.p1DataToCpu (b'.readBus env reg) ∧
      (b.iord env reg).2.core.Quiet ∧ P (k' + 2) (b.iord env reg).2 := by
  obtain ⟨hquiet', h'⟩ := idle_inv (n := env.gap b.accesses) hkept hquiet h
  refine ⟨_, _, Nat.le_add_right _ _, h', rfl, ?_, ?_⟩
  · refine step_second (.inr ?_) (.inl rfl)
    show (!(b.idle env _).core.rdStrobe && true && !false) = true
    rw [hquiet'.rdStrobe]
    rfl
  · exact haccess _ _ _ (hkept _ _ _ (read_calm hreg) (hkept _ _ _ hquiet'.toCalm h'))

/-! ## Three conditions -/

/-- The chip is not selected; the core will select `choice` at the next word. -/
structure Released (line : List LineEvent) (choice : Option (BitVec 16)) (b : SpiBench) :
    Prop where
  resting : b.core.Resting
  primed : b.core.txHoldingPrimed = false
  SSO : b.core.SSO = false
  sound : b.core.Sound
  choice : ∀ c, choice = some c → b.core.slaveSelectHolding = c
  line : b.line = line

/-- The chip is selected and nothing on its way; `rx` has been read if not `full`. -/
structure Held (line : List LineEvent) (rx : BitVec 8) (full : Bool) (b : SpiBench) :
    Prop where
  resting : b.core.Resting
  primed : b.core.txHoldingPrimed = false
  chosen : b.core.Chosen
  sound : b.core.Sound
  rxHolding : b.core.rxHolding = rx
  RRDY : b.core.RRDY = full
  line : b.line = line

/-- The chip is selected and `word` on its way for `k` clocks. -/
structure Carrying (line : List LineEvent) (word : BitVec 8) (k : Nat) (b : SpiBench) :
    Prop where
  chosen : b.core.Chosen
  sound : b.core.Sound
  stage : ∃ got, Stage word got k b.core ∧ b.line = line ++ wordEvents word got

variable {line : List LineEvent} {choice : Option (BitVec 16)} {rx : BitVec 8} {full : Bool}
  {word : BitVec 8} {bus : SpiBus}

theorem Released.SSn (h : Released line choice b) : b.core.SSn = true := by
  rw [SpiCore.SSn, SpiCore.enableSS, h.resting.transmitting, h.SSO]
  rfl

theorem Released.tick (h : Released line choice b) (hcalm : b.core.Calm) :
    Released line choice (b.tick env bus) := by
  have hrest' : (b.tick env bus).core.Resting := h.resting.step_idle h.primed
  have hSSO' : (b.tick env bus).core.SSO = false := by
    show (if b.core.controlWrStrobe bus then _ else b.core.SSO) = false
    rw [hcalm.controlWrStrobe]
    exact h.SSO
  have hSSn' : (b.tick env bus).core.SSn = true := by
    rw [SpiCore.SSn, SpiCore.enableSS, hrest'.transmitting, hSSO']
    rfl
  refine ⟨hrest', step_unprimed h.primed hcalm.dataWrStrobe, hSSO',
    h.sound.step_resting h.resting, ?_, ?_⟩
  · intro c hc
    show (if b.core.slaveselectWrStrobe bus then _ else b.core.slaveSelectHolding) = c
    rw [hcalm.slaveselectWrStrobe]
    exact h.choice c hc
  · show b.line ++ lineEvents b.core (b.tick env bus).core _ = line
    rw [lineEvents, h.SSn, hSSn', h.line]
    exact List.append_nil _

/-- Reading data only clears the flag. -/
theorem Held.edge (h : Held line rx full b) (hwr : b.core.wrStrobe = false)
    (hdata : b.core.dataWrStrobe = false) :
    Held line rx (!b.core.dataRdStrobe && full) (b.tick env bus) := by
  have hrest' : (b.tick env bus).core.Resting := h.resting.step_idle h.primed
  have hchosen' : (b.tick env bus).core.Chosen := by
    refine h.chosen.step ?_ ?_
    · rw [controlWrStrobe, hwr, Bool.false_and]
    · rw [slaveselectWrStrobe, hwr, Bool.false_and]
  refine ⟨hrest', step_unprimed h.primed hdata, hchosen', h.sound.step_resting h.resting,
    ?_, ?_, ?_⟩
  · exact (Calm.rxHolding_step h.resting.lastTick).trans h.rxHolding
  · show b.core.RRDYNext bus = _
    rw [RRDYNext, h.resting.lastTick, statusWrStrobe, hwr, Bool.false_and, h.RRDY]
    cases b.core.dataRdStrobe <;> rfl
  · show b.line ++ lineEvents b.core (b.tick env bus).core _ = line
    rw [h.chosen.lineEvents hchosen', hrest'.SCLK, Bool.and_false, h.line]
    exact List.append_nil _

theorem Held.tick (h : Held line rx full b) (hcalm : b.core.Calm) :
    Held line rx full (b.tick env bus) := by
  have hedge : Held line rx (!b.core.dataRdStrobe && full) (b.tick env bus) :=
    h.edge hcalm.wrStrobe hcalm.dataWrStrobe
  rwa [hcalm.dataRdStrobe] at hedge

theorem Carrying.tick (h : Carrying line word k b) (hcalm : b.core.Calm) :
    Carrying line word (k + 1) (b.tick env bus) := by
  obtain ⟨got, hstage, hline⟩ := h.stage
  have hchosen' : (b.tick env bus).core.Chosen :=
    h.chosen.step hcalm.controlWrStrobe hcalm.slaveselectWrStrobe
  refine ⟨hchosen', h.sound.step hstage.lastTick (fun hdata => ?_), ?_⟩
  · rw [hcalm.dataWrStrobe] at hdata
    cases hdata
  · obtain ⟨got', hstage', hevents⟩ : ∃ got', Stage word got' (k + 1) (b.tick env bus).core ∧
        wordEvents word got' = wordEvents word got
          ++ lineEvents b.core (b.tick env bus).core (env.miso b.clock) :=
      hstage.step hcalm h.chosen
    refine ⟨got', hstage', ?_⟩
    show b.line ++ lineEvents b.core (b.tick env bus).core _ = line ++ wordEvents word got'
    rw [hline, hevents, List.append_assoc]

theorem kept_released : Kept env fun _ => Released line choice :=
  fun _ _ _ hcalm h => h.tick hcalm

theorem kept_held : Kept env fun _ => Held line rx full :=
  fun _ _ _ hcalm h => h.tick hcalm

theorem kept_carrying : Kept env (Carrying line word) :=
  fun _ _ _ hcalm h => h.tick hcalm

/-! ## The accesses -/

/-- In the second clock of a write its strobes are up. -/
structure Strobed (reg : BitVec 3) (s : SpiCore) : Prop where
  wrStrobe : s.wrStrobe = true
  dataWrStrobe : s.dataWrStrobe = (reg == 1)
  dataRdStrobe : s.dataRdStrobe = false

/-- A write does what its second clock does. -/
theorem iowr_rule (hkept : Kept env P) {Q : SpiBench → Prop}
    (haccess : ∀ b n, Q b → Q { b with accesses := n }) {reg : BitVec 3} {data : BitVec 16}
    (hsecond : ∀ k c, P k c → Strobed reg c.core → Q (c.tick env (writeBus reg data)))
    (hquiet : b.core.Quiet) (h : P k b) :
    (b.iowr env reg data).core.Quiet ∧ Q (b.iowr env reg data) := by
  obtain ⟨hquiet', h'⟩ := idle_inv (n := env.gap b.accesses) hkept hquiet h
  have hstrobed : Strobed reg
      ((b.idle env (env.gap b.accesses)).tick env (writeBus reg data)).core := by
    refine ⟨?_, ?_, ?_⟩
    · show (!(b.idle env _).core.wrStrobe && true && !false) = true
      rw [hquiet'.wrStrobe]
      rfl
    · show (!(b.idle env _).core.wrStrobe && true && !false && (reg == 1)) = (reg == 1)
      rw [hquiet'.wrStrobe]
      rfl
    · show (!(b.idle env _).core.rdStrobe && true && !true && (reg == 0)) = false
      rw [hquiet'.rdStrobe]
      rfl
  refine ⟨step_second (.inl rfl) (.inr hstrobed.wrStrobe), haccess _ _ ?_⟩
  exact hsecond _ _ (hkept _ _ _ hquiet'.toCalm h') hstrobed

variable (env) in
/-- The data is read, and is no longer there to be read. -/
theorem Held.iord_rxdata (h : Held line rx full b) (hquiet : b.core.Quiet) :
    (b.iord env spiRxdataReg).1 = rx.setWidth 16 ∧ (b.iord env spiRxdataReg).2.core.Quiet ∧
      Held line rx false (b.iord env spiRxdataReg).2 := by
  obtain ⟨hquiet', h'⟩ : (b.idle env (env.gap b.accesses)).core.Quiet ∧
      Held line rx full (b.idle env (env.gap b.accesses)) :=
    idle_inv (k := 0) kept_held hquiet h
  generalize hidle : b.idle env (env.gap b.accesses) = b' at hquiet' h'
  have hfirst : Held line rx full (b'.tick env (b'.readBus env spiRxdataReg)) :=
    h'.tick hquiet'.toCalm
  generalize hbus : b'.readBus env spiRxdataReg = bus at hfirst
  have hread : bus.spiSelect = true ∧ bus.readN = false ∧ bus.writeN = true ∧ bus.memAddr = 0 := by
    rw [← hbus]
    exact ⟨rfl, rfl, rfl, rfl⟩
  obtain ⟨hsel, hrd, hwr, haddr⟩ := hread
  have hstart : b'.core.p1RdStrobe bus = true := by
    rw [p1RdStrobe, hquiet'.rdStrobe, hsel, hrd]
    rfl
  have hnone : b'.core.p1WrStrobe bus = false := by
    rw [p1WrStrobe, hwr, Bool.not_true, Bool.and_false]
  have hdata : b'.core.p1DataToCpu bus = rx.setWidth 16 := by
    simp [p1DataToCpu, haddr, h'.rxHolding]
  have hsecond : Held line rx (!(b'.tick env bus).core.dataRdStrobe && full)
      ((b'.tick env bus).tick env ((b'.tick env bus).readBus env spiRxdataReg)) := by
    refine hfirst.edge hnone ?_
    show (b'.core.p1WrStrobe bus && _) = false
    rw [hnone, Bool.false_and]
  have hcleared : (b'.tick env bus).core.dataRdStrobe = true := by
    show (b'.core.p1RdStrobe bus && (bus.memAddr == 0)) = true
    rw [hstart, haddr]
    rfl
  rw [hcleared] at hsecond
  have hquiet'' : ((b'.tick env bus).tick env
      ((b'.tick env bus).readBus env spiRxdataReg)).core.Quiet :=
    step_second (.inr hstart) (.inl rfl)
  rw [iord, hidle]
  dsimp only
  rw [hbus]
  exact ⟨hdata, hquiet'', hsecond.1, hsecond.2, hsecond.3, hsecond.4, hsecond.5, hsecond.6,
    hsecond.7⟩

variable (env) in
/-- Another chip may be chosen while none is selected. -/
theorem Released.iowr_slaveSel (h : Released line choice b) (hquiet : b.core.Quiet)
    (data : BitVec 16) :
    (b.iowr env spiSlaveSelReg data).core.Quiet ∧
      Released line (some data) (b.iowr env spiSlaveSelReg data) := by
  refine iowr_rule (k := 0) kept_released (fun _ _ h => ⟨h.1, h.2, h.3, h.4, h.5, h.6⟩)
    (fun _ c h hstrobed => ?_) hquiet h
  have hrest' : (c.tick env (writeBus spiSlaveSelReg data)).core.Resting :=
    h.resting.step_idle h.primed
  have hSSO' : (c.tick env (writeBus spiSlaveSelReg data)).core.SSO = false := by
    show (if c.core.wrStrobe && false then _ else c.core.SSO) = false
    rw [Bool.and_false]
    exact h.SSO
  have hSSn' : (c.tick env (writeBus spiSlaveSelReg data)).core.SSn = true := by
    rw [SpiCore.SSn, SpiCore.enableSS, hrest'.transmitting, hSSO']
    rfl
  refine ⟨hrest', step_unprimed h.primed hstrobed.dataWrStrobe, hSSO',
    h.sound.step_resting h.resting, ?_, ?_⟩
  · rintro _ ⟨⟩
    show (if c.core.wrStrobe && true then data else c.core.slaveSelectHolding) = data
    rw [hstrobed.wrStrobe]
    rfl
  · show c.line ++ lineEvents c.core (c.tick env _).core _ = line
    rw [lineEvents, h.SSn, hSSn', h.line]
    exact List.append_nil _

variable (env) in
/-- Forced select. -/
theorem Released.iowr_sso {data : BitVec 16} (h : Released line (some data) b)
    (hdata : data.getLsbD 0 = true) (hquiet : b.core.Quiet) :
    (b.iowr env spiControlReg spiControlSsoMsk).core.Quiet ∧
      ∃ rx full, Held (line ++ [.select]) rx full (b.iowr env spiControlReg spiControlSsoMsk) := by
  refine iowr_rule (k := 0) (Q := fun b => ∃ rx full, Held (line ++ [.select]) rx full b)
    kept_released (fun _ _ ⟨rx, full, h⟩ => ⟨rx, full, h.1, h.2, h.3, h.4, h.5, h.6, h.7⟩)
    (fun _ c h hstrobed => ?_) hquiet h
  have hrest' : (c.tick env (writeBus spiControlReg spiControlSsoMsk)).core.Resting :=
    h.resting.step_idle h.primed
  have hchosen' : (c.tick env (writeBus spiControlReg spiControlSsoMsk)).core.Chosen := by
    have hholding : c.core.slaveSelectHolding.getLsbD 0 = true := by
      rw [h.choice data rfl]
      exact hdata
    refine ⟨?_, ?_, ?_⟩
    · show (if c.core.wrStrobe && true then true else c.core.SSO) = true
      rw [hstrobed.wrStrobe]
      rfl
    · show (if c.core.writeShiftReg || c.core.wrStrobe && true && true && !c.core.SSO then
        c.core.slaveSelectHolding else c.core.slaveSelect).getLsbD 0 = true
      rw [hstrobed.wrStrobe, h.SSO, if_pos (by simp)]
      exact hholding
    · show (if c.core.wrStrobe && false then _ else c.core.slaveSelectHolding).getLsbD 0 = true
      rw [Bool.and_false]
      exact hholding
  refine ⟨_, _, hrest', step_unprimed h.primed hstrobed.dataWrStrobe, hchosen',
    h.sound.step_resting h.resting, rfl, rfl, ?_⟩
  show c.line ++ lineEvents c.core (c.tick env _).core _ = line ++ [.select]
  rw [lineEvents, h.SSn, hchosen'.SSn, hrest'.SCLK, h.line]
  simp

variable (env) in
/-- The end of the forced select. -/
theorem Held.iowr_release (h : Held line rx full b) (hquiet : b.core.Quiet) :
    (b.iowr env spiControlReg 0).core.Quiet ∧
      Released (line ++ [.deselect]) none (b.iowr env spiControlReg 0) := by
  refine iowr_rule (k := 0) kept_held (fun _ _ h => ⟨h.1, h.2, h.3, h.4, h.5, h.6⟩)
    (fun _ c h hstrobed => ?_) hquiet h
  have hrest' : (c.tick env (writeBus spiControlReg 0)).core.Resting :=
    h.resting.step_idle h.primed
  have hSSO' : (c.tick env (writeBus spiControlReg 0)).core.SSO = false := by
    show (if c.core.wrStrobe && true then false else c.core.SSO) = false
    rw [hstrobed.wrStrobe]
    rfl
  have hSSn' : (c.tick env (writeBus spiControlReg 0)).core.SSn = true := by
    rw [SpiCore.SSn, SpiCore.enableSS, hrest'.transmitting, hSSO']
    rfl
  refine ⟨hrest', step_unprimed h.primed hstrobed.dataWrStrobe, hSSO',
    h.sound.step_resting h.resting, by simp, ?_⟩
  show c.line ++ lineEvents c.core (c.tick env _).core _ = line ++ [.deselect]
  rw [lineEvents, h.chosen.SSn, hSSn', h.line]
  simp

variable (env) in
/-- A byte is written. -/
theorem Held.iowr_txdata (h : Held line rx false b) (hquiet : b.core.Quiet) (word : BitVec 8) :
    (b.iowr env spiTxdataReg (word.setWidth 16)).core.Quiet ∧
      Carrying line word 0 (b.iowr env spiTxdataReg (word.setWidth 16)) := by
  refine iowr_rule (k := 0) kept_held (fun _ _ h => ⟨h.1, h.2, h.3⟩)
    (fun _ c h hstrobed => ?_) hquiet h
  have hchosen' : (c.tick env (writeBus spiTxdataReg (word.setWidth 16))).core.Chosen := by
    refine h.chosen.step ?_ ?_
    · show (c.core.wrStrobe && false) = false
      exact Bool.and_false _
    · show (c.core.wrStrobe && false) = false
      exact Bool.and_false _
  have hwrite : c.core.writeTxHolding = true := by
    rw [writeTxHolding, hstrobed.dataWrStrobe, TRDY, h.resting.transmitting]
    rfl
  have hrest' : (c.tick env (writeBus spiTxdataReg (word.setWidth 16))).core.Resting :=
    h.resting.step_idle h.primed
  refine ⟨hchosen', h.sound.step_resting h.resting, [], .waiting hrest' ?_ ?_ ?_, ?_⟩
  · show c.core.txHoldingPrimedNext = true
    rw [txHoldingPrimedNext, hwrite, Bool.not_true, Bool.and_false]
    rfl
  · show (if c.core.writeTxHolding then (word.setWidth 16).setWidth 8 else c.core.txHolding)
      = word
    rw [hwrite, if_pos rfl, BitVec.setWidth_setWidth_of_le _ (by decide), BitVec.setWidth_eq]
  · show c.core.RRDYNext _ = false
    rw [RRDYNext, h.resting.lastTick, hstrobed.dataRdStrobe, h.RRDY]
    cases c.core.statusWrStrobe _ <;> rfl
  · show c.line ++ lineEvents c.core (c.tick env _).core _ = line ++ wordEvents word []
    rw [h.chosen.lineEvents hchosen', hrest'.SCLK, Bool.and_false, h.line, wordEvents,
      List.zipWith_nil_right]
    rfl

end SpiBench

end SpaceInvaders
