import SpaceInvaders.Sdram.Phases

/-!
# One edge from each phase

For each phase of the main FSM what one edge does (`Goes`), and together `phase_goes`.
-/

namespace SpaceInvaders

namespace Sdram

variable {s : Sdram} {bus : SdramBus} {c : SdramChip}

/-- An edge whose command is a NOP, whether the chip is selected or not. -/
theorem Goes.of_nop {n : Bool} (hcmd : s.mainStep.cmd = sdramCmd n 7)
    (hissue : s.issuing = none)
    (hphase : (s.step bus).rdStrobe = false → Phase (s.step bus) (tell c .idle)) :
    Goes s bus c := by
  have hquiet : (s.step bus).rdStrobe = false := (rdStrobe_of_cmd hcmd).trans rfl
  exact .of_idle (SdramMain.pins_nop hcmd) hquiet hissue (hphase hquiet)

/-- The row stays open, whatever the next request to it is. -/
theorem Opened.next {c' : SdramChip} (h : Opened s c)
    (hack : s.mainStep.ackRefreshRequest = s.main.ackRefreshRequest)
    (hcs : s.mainStep.activeCsN = false) (hbank : s.mainStep.active.bank = s.main.active.bank)
    (hrow : s.mainStep.active.row = s.main.active.row) (hclear : s.mainStep.active.Clear)
    (hrows : c'.row = c.row) : Opened (s.step bus) c' where
  ack := hack.trans h.ack
  csN := hcs
  row := by
    rw [Dram.Chip.Open, step_main, hbank, hrow, hrows]
    exact h.row
  clear := hclear

/-- The row stays open for the same request. -/
theorem Opened.stay {c' : SdramChip} (h : Opened s c)
    (hack : s.mainStep.ackRefreshRequest = s.main.ackRefreshRequest)
    (hcs : s.mainStep.activeCsN = s.main.activeCsN) (hactive : s.mainStep.active = s.main.active)
    (hrows : c'.row = c.row) : Opened (s.step bus) c' :=
  h.next hack (hcs.trans h.csN) (by rw [hactive]) (by rw [hactive]) (hactive ▸ h.clear) hrows

/-! ## Between the requests -/

/-- From a state in which a refresh is called for, all rows are closed first. -/
theorem mainIdle_called (hdone : s.initDone = true) (hrr : s.refreshRequest = true) :
    s.mainIdle = { s.base with
      cmd := sdramCmd false 7
      ackRefreshRequest := false
      state := .precharge
      next := .refresh
      count := 0
      activeCsN := true } := by
  rw [mainIdle, hdone, hrr]
  rfl

theorem Idle.goes (h : Idle s c) (hdone : s.initDone = true) (hk : s.fifo.Kept)
    (hq : ∀ r ∈ s.fifo.queue, r.Clear) : Goes s bus c := by
  have hmain : s.mainStep = s.mainIdle := by rw [mainStep, h.state]
  have hissue : s.issuing = none :=
    issuing_none (by simp [h.state]) (by simp [h.state])
  cases hrr : s.refreshRequest with
  | true =>
    have hm := hmain.trans (mainIdle_called hdone hrr)
    have hack : s.main.ackRefreshRequest = false := by
      cases hack : s.main.ackRefreshRequest with
      | false => rfl
      | true => rw [h.acked hack] at hrr; cases hrr
    have hcalled : Called s := ⟨hrr, hack⟩
    refine .of_nop (congrArg (·.cmd) hm) hissue fun hquiet => .clearing ?_
    exact ⟨congrArg (·.state) hm, congrArg (·.next) hm, congrArg (·.count) hm,
      congrArg (·.fPop) hm, hcalled.step hdone (congrArg (·.ackRefreshRequest) hm),
      congrArg (· - 1) h.rest, congrArg (· - 1) h.recovery, (h.calm.step hquiet).mono (by omega)⟩
  | false =>
    cases hempty : s.fEmpty with
    | true =>
      have hm : s.mainStep = { s.base with cmd := 0xF, ackRefreshRequest := false } := by
        rw [hmain, mainIdle, hdone, hrr, hempty]
        rfl
      refine .of_nop (n := true) (congrArg (·.cmd) hm) hissue fun hquiet => .idle ?_
      refine ⟨(congrArg (·.state) hm).trans h.state, congrArg (·.fPop) hm, h.shut,
        congrArg (· - 1) h.rest, congrArg (· - 1) h.recovery,
        (h.calm.step hquiet).mono (by omega), fun hack => ?_⟩
      cases (congrArg (·.ackRefreshRequest) hm).symm.trans hack
    | false =>
      have hm : s.mainStep = { s.take { s.base with cmd := 0xF, ackRefreshRequest := false } with
          state := .activate } := by
        rw [hmain, mainIdle, hdone, hrr, hempty]
        rfl
      have hactive : s.mainStep.active = s.front := congrArg (·.active) hm
      refine .of_nop (n := true) (congrArg (·.cmd) hm) hissue fun hquiet => .activating ?_
      refine ⟨congrArg (·.state) hm, congrArg (·.fPop) hm,
        hactive.trans (front_step hk bus (fSelect_of_fPop h.pop) hempty).1.symm,
        pending_of_taken hk (fSelect_of_fPop h.pop) hempty (congrArg (·.activeCsN) hm) hactive,
        congrArg (·.ackRefreshRequest) hm, ?_, h.shut, congrArg (· - 1) h.rest,
        congrArg (· - 1) h.recovery, h.calm.step hquiet⟩
      obtain ⟨l, hl⟩ := InputEfifo.queue_of_not_empty hempty
      rw [step_main, hactive]
      exact hq _ (hl ▸ List.mem_cons_self)

theorem Recalled.goes (h : Recalled s c) (hdone : s.initDone = true) : Goes s bus c := by
  have hmain : s.mainStep = s.mainIdle := by rw [mainStep, h.state]
  have hissue : s.issuing = none :=
    issuing_none (by simp [h.state]) (by simp [h.state])
  have hm := hmain.trans (mainIdle_called hdone h.called.request)
  refine .of_nop (congrArg (·.cmd) hm) hissue fun hquiet => .clearing ?_
  exact ⟨congrArg (·.state) hm, congrArg (·.next) hm, congrArg (·.count) hm,
    congrArg (·.fPop) hm, h.called.step hdone (congrArg (·.ackRefreshRequest) hm),
    congrArg (· - 1) h.rest, Nat.sub_eq_zero_of_le h.recovery,
    (h.calm.step hquiet).mono (by omega)⟩

/-! ## Closing rows -/

theorem Recovering.goes (h : Recovering s c) : Goes s bus c := by
  have hm : s.mainStep =
      { s.base with cmd := sdramCmd s.csN 7, state := .precharge, count := 0 } := by
    rw [mainStep, h.state]
    show s.mainRecover = _
    rw [mainRecover, h.count]
    rfl
  have hissue : s.issuing = none :=
    issuing_none (by simp [h.state]) (by simp [h.state])
  refine .of_nop (congrArg (·.cmd) hm) hissue fun hquiet => .closing ?_
  exact ⟨congrArg (·.state) hm, (congrArg (·.next) hm).trans h.next, congrArg (·.count) hm,
    congrArg (·.fPop) hm, (congrArg (·.ackRefreshRequest) hm).trans h.ack,
    (congrArg (·.activeCsN) hm).trans h.csN, congrArg (· - 1) h.rest,
    Nat.sub_eq_zero_of_le h.recovery, h.calm.step hquiet⟩

/-- A precharge of all banks. -/
theorem Goes.of_precharge (hstate : s.main.state = .precharge)
    (hcs : s.refreshRequest = true ∨ s.csN = false) (hrest : c.rest = 0)
    (hrecovery : c.recovery = 0)
    (hphase : s.mainStep = { s.base with
        state := .wait, addr := BitVec.allOnes 13, cmd := sdramCmd false 2 } →
      (s.step bus).rdStrobe = false → Phase (s.step bus) (tell c .precharge)) :
    Goes s bus c := by
  have hm : s.mainStep = { s.base with
      state := .wait, addr := BitVec.allOnes 13, cmd := sdramCmd false 2 } := by
    rw [mainStep, hstate]
    show s.mainPrecharge = _
    rw [mainPrecharge]
    rcases hcs with hrr | hcs
    · rw [hrr]
      rfl
    · rw [hcs, ite_self]
  have hissue : s.issuing = none :=
    issuing_none (by simp [hstate]) (by simp [hstate])
  have hpins : (s.step bus).pins = .precharge :=
    SdramMain.pins_precharge (congrArg (·.cmd) hm) (congrArg (·.addr) hm)
  have hquiet : (s.step bus).rdStrobe = false := (rdStrobe_of_cmd (congrArg (·.cmd) hm)).trans rfl
  refine ⟨?_, ?_, ?_, ?_⟩
  · rw [hpins]
    exact ⟨hrest, hrecovery⟩
  · rw [hpins, hissue]
    rfl
  · rw [hquiet, hissue]
    rfl
  · rw [hpins]
    exact hphase hm hquiet

theorem Closing.goes (h : Closing s c) : Goes s bus c := by
  refine .of_precharge h.state (Or.inr (csN_of_active h.csN)) h.rest h.recovery fun hm hquiet =>
    .closed ?_
  refine ⟨congrArg (·.state) hm, (congrArg (·.next) hm).trans h.next, congrArg (·.fPop) hm,
    fun b => rfl, Nat.le_max_left .., congrArg (· - 1) h.recovery,
    (h.calm.step hquiet).mono (by omega), fun hack => ?_⟩
  cases ((congrArg (·.ackRefreshRequest) hm).trans h.ack).symm.trans hack

theorem Clearing.goes (h : Clearing s c) (hdone : s.initDone = true) : Goes s bus c := by
  refine .of_precharge h.state (Or.inl h.called.request) h.rest h.recovery fun hm hquiet =>
    .cleared ?_
  exact ⟨congrArg (·.state) hm, (congrArg (·.next) hm).trans h.next,
    (congrArg (·.count) hm).trans h.count, congrArg (·.fPop) hm,
    h.called.step hdone ((congrArg (·.ackRefreshRequest) hm).trans h.called.ack), fun b => rfl,
    Nat.le_refl 1, congrArg (· - 1) h.recovery, (h.calm.step hquiet).mono (by omega)⟩

/-! ## Waiting -/

/-- The last clock of a wait. -/
theorem mainWait_last (hcount : ¬ s.main.count > 1) : ∃ csN,
    s.mainWait = { s.base with cmd := sdramCmd csN 7, state := s.main.next } := by
  rw [mainWait, if_neg hcount]
  split_ifs
  · exact ⟨false, rfl⟩
  · exact ⟨s.csN, rfl⟩

/-- Any other clock of a wait. -/
theorem mainWait_more (hcount : s.main.count > 1) : ∃ csN,
    s.mainWait = { s.base with cmd := sdramCmd csN 7, count := s.main.count - 1 } := by
  rw [mainWait, if_pos hcount]
  split_ifs
  · exact ⟨false, rfl⟩
  · exact ⟨s.csN, rfl⟩

theorem issuing_wait (hstate : s.main.state = .wait) : s.issuing = none :=
  issuing_none (by simp [hstate]) (by simp [hstate])

theorem mainStep_wait (hstate : s.main.state = .wait) : s.mainStep = s.mainWait := by
  rw [mainStep, hstate]

theorem Cleared.goes (h : Cleared s c) (hdone : s.initDone = true) : Goes s bus c := by
  obtain ⟨csN, hwait⟩ := mainWait_last (s := s) (by rw [h.count]; decide)
  have hm := (mainStep_wait h.state).trans hwait
  refine .of_nop (congrArg (·.cmd) hm) (issuing_wait h.state) fun hquiet => .refreshing ?_
  exact ⟨(congrArg (·.state) hm).trans h.next, congrArg (·.fPop) hm,
    h.called.step hdone ((congrArg (·.ackRefreshRequest) hm).trans h.called.ack), h.shut,
    Nat.sub_eq_zero_of_le h.rest, congrArg (· - 1) h.recovery,
    (h.calm.step hquiet).mono (by omega)⟩

/-- Once a refresh is acknowledged nothing calls for one until the acknowledgement is gone. -/
theorem request_of_acked (hack : s.main.ackRefreshRequest = true) :
    (s.step bus).refreshRequest = false := by
  show ((_ || _) && !s.main.ackRefreshRequest && _) = false
  rw [hack, Bool.not_true, Bool.and_false, Bool.false_and]

theorem Closed.goes (h : Closed s c) : Goes s bus c := by
  by_cases hcount : s.main.count > 1
  · obtain ⟨csN, hwait⟩ := mainWait_more hcount
    have hm := (mainStep_wait h.state).trans hwait
    have hcount' : (s.step bus).main.count = s.main.count - 1 := congrArg (·.count) hm
    refine .of_nop (congrArg (·.cmd) hm) (issuing_wait h.state) fun hquiet => .closed ?_
    refine ⟨(congrArg (·.state) hm).trans h.state, (congrArg (·.next) hm).trans h.next,
      congrArg (·.fPop) hm, h.shut, ?_, congrArg (· - 1) h.recovery,
      (h.calm.step hquiet).mono (by omega), fun hack => Or.inl ?_⟩
    · have hrest : (tell c .idle).rest = c.rest - 1 := rfl
      have hle := h.rest
      rw [hrest, hcount', BitVec.toNat_sub_of_le (by bv_omega)]
      have hone : 1 < s.main.count.toNat := hcount
      show c.rest - 1 ≤ max 1 (s.main.count.toNat - 1)
      omega
    · exact request_of_acked ((congrArg (·.ackRefreshRequest) hm).symm.trans hack)
  · obtain ⟨csN, hwait⟩ := mainWait_last hcount
    have hm := (mainStep_wait h.state).trans hwait
    refine .of_nop (congrArg (·.cmd) hm) (issuing_wait h.state) fun hquiet => .idle ?_
    refine ⟨(congrArg (·.state) hm).trans h.next, congrArg (·.fPop) hm, h.shut, ?_,
      congrArg (· - 1) h.recovery, h.calm.step hquiet, fun hack => ?_⟩
    · have hle := h.rest
      have hone : ¬ 1 < s.main.count.toNat := hcount
      show c.rest - 1 = 0
      omega
    · exact request_of_acked ((congrArg (·.ackRefreshRequest) hm).symm.trans hack)

theorem Bailing.goes (h : Bailing s c) (hdone : s.initDone = true) : Goes s bus c := by
  rcases h.count with hcount | ⟨hcount, hcalm⟩
  · obtain ⟨csN, hwait⟩ := mainWait_more (s := s) (by rw [hcount]; decide)
    have hm := (mainStep_wait h.state).trans hwait
    refine .of_nop (congrArg (·.cmd) hm) (issuing_wait h.state) fun hquiet => .bailing ?_
    refine ⟨(congrArg (·.state) hm).trans h.state, (congrArg (·.next) hm).trans h.next,
      Or.inr ⟨(congrArg (·.count) hm).trans (by rw [hcount]; rfl), (calm_zero s).step hquiet⟩,
      congrArg (·.fPop) hm,
      h.called.step hdone ((congrArg (·.ackRefreshRequest) hm).trans h.called.ack),
      congrArg (· - 1) h.rest, (Nat.sub_le ..).trans h.recovery, fun hstrobe => ?_⟩
    rw [hquiet] at hstrobe
    cases hstrobe
  · obtain ⟨csN, hwait⟩ := mainWait_last (s := s) (by rw [hcount]; decide)
    have hm := (mainStep_wait h.state).trans hwait
    refine .of_nop (congrArg (·.cmd) hm) (issuing_wait h.state) fun hquiet => .recalled ?_
    exact ⟨(congrArg (·.state) hm).trans h.next, congrArg (·.fPop) hm,
      h.called.step hdone ((congrArg (·.ackRefreshRequest) hm).trans h.called.ack),
      congrArg (· - 1) h.rest, Nat.sub_le_of_le_add h.recovery, hcalm.step hquiet⟩

theorem Opening.goes (h : Opening s c) : Goes s bus c := by
  obtain ⟨csN, hwait⟩ := mainWait_last (s := s) (by rw [h.count]; decide)
  have hm := (mainStep_wait h.state).trans hwait
  have hactive : s.mainStep.active = s.main.active := congrArg (·.active) hm
  refine .of_nop (congrArg (·.cmd) hm) (issuing_wait h.state) fun hquiet => .serving ?_
  refine ⟨⟨h.opened.stay (congrArg (·.ackRefreshRequest) hm) (congrArg (·.activeCsN) hm) hactive
    rfl, Nat.sub_eq_zero_of_le h.rest, ?_, fun _ => (h.calm.step hquiet).mono (by omega),
    fun hstrobe => ?_⟩, ?_⟩
  · show c.recovery - 1 ≤ 2
    rw [h.recovery]
    omega
  · rw [hquiet] at hstrobe
    cases hstrobe
  · rw [step_main, hactive, ← h.next]
    exact congrArg (·.state) hm

/-! ## The chip is refreshed -/

theorem Refreshing.goes (h : Refreshing s c) : Goes s bus c := by
  have hm : s.mainStep = { s.base with
      ackRefreshRequest := true
      state := .wait
      cmd := sdramCmd false 1
      count := 3
      next := .idle } := by
    rw [mainStep, h.state]
    rfl
  have hissue : s.issuing = none :=
    issuing_none (by simp [h.state]) (by simp [h.state])
  have hpins : (s.step bus).pins = .refresh := SdramMain.pins_refresh (congrArg (·.cmd) hm)
  have hquiet : (s.step bus).rdStrobe = false := (rdStrobe_of_cmd (congrArg (·.cmd) hm)).trans rfl
  have hcount : (s.step bus).main.count = 3 := congrArg (·.count) hm
  refine ⟨?_, ?_, ?_, ?_⟩
  · rw [hpins]
    exact ⟨h.rest, h.shut⟩
  · rw [hpins, hissue]
    rfl
  · rw [hquiet, hissue]
    rfl
  · rw [hpins]
    refine .closed ⟨congrArg (·.state) hm, congrArg (·.next) hm, congrArg (·.fPop) hm, h.shut, ?_,
      congrArg (· - 1) h.recovery, (h.calm.step hquiet).mono (by omega), fun _ => Or.inr hcount⟩
    rw [hcount]
    exact Nat.le_refl 3

end Sdram

end SpaceInvaders
