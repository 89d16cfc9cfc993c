import SpaceInvaders.Sdram.Edges

/-!
# Serving requests

The phases in which a row is open. While requests of the active one's row and kind come
along they go to the chip one each clock, straight from the queue (`Serving.goes_read`,
`Serving.goes_write`); the register `f_pop` says that the active one has already gone. With
the phases between the requests this gives every edge (`phase_goes`).
-/

namespace SpaceInvaders

namespace Sdram

variable {s : Sdram} {bus : SdramBus} {c : SdramChip}

theorem Activating.goes (h : Activating s c) (hready : c.ready = true) : Goes s bus c := by
  have hsel : s.fSelect = true := by rw [fSelect, h.pop, h.pending]; rfl
  have hcs : s.csN = false := if_pos hsel
  have hm : s.mainStep = { s.base with
      state := .wait
      cmd := sdramCmd false 3
      bank := s.main.active.bank
      addr := s.main.active.row
      data := s.main.active.data
      dqm := s.main.active.dqm
      count := 1
      next := if s.main.active.rnw then .read else .write } := by
    rw [mainStep, h.state, ← hcs]
    rfl
  have hissue : s.issuing = none :=
    issuing_none (by simp [h.state]) (by simp [h.state])
  have hpins : (s.step bus).pins = .activate s.main.active.bank s.main.active.row := by
    refine (SdramMain.pins_activate (congrArg (·.cmd) hm)).trans ?_
    rw [step_main, hm]
  have hquiet : (s.step bus).rdStrobe = false := (rdStrobe_of_cmd (congrArg (·.cmd) hm)).trans rfl
  have hactive : s.mainStep.active = s.main.active := congrArg (·.active) hm
  have hmatch : s.matching = true := by
    have hpending := h.pending
    rw [Sdram.pending, Bool.and_eq_true] at hpending
    exact hpending.1
  refine ⟨?_, ?_, ?_, ?_⟩
  · rw [hpins]
    exact ⟨h.rest, hready, h.shut _⟩
  · rw [hpins, hissue]
    rfl
  · rw [hquiet, hissue]
    rfl
  · rw [hpins]
    refine .opening ⟨congrArg (·.state) hm, ?_, congrArg (·.count) hm, congrArg (·.fPop) hm,
      ⟨(congrArg (·.ackRefreshRequest) hm).trans h.ack,
        (congrArg (·.activeCsN) hm).trans (matching_iff.mp hmatch).1, ?_, ?_⟩,
      Nat.le_refl 1, congrArg (· - 1) h.recovery, (h.calm.step hquiet).mono (by omega)⟩
    · rw [step_main, hactive]
      exact congrArg (·.next) hm
    · rw [step_main, hactive]
      exact h.shut.open_activate ..
    · rw [step_main, hactive]
      exact h.clear

theorem Holding.goes (h : Holding s c) (hdone : s.initDone = true)
    (hq : ∀ r ∈ s.fifo.queue, r.Clear) : Goes s bus c := by
  have hmain : s.mainStep = s.mainHold := by rw [mainStep, h.state]
  have hissue : s.issuing = none :=
    issuing_none (by simp [h.state]) (by simp [h.state])
  have hrecovery : (tell c .idle).recovery ≤ 2 := (Nat.sub_le ..).trans h.recovery
  cases hrr : s.refreshRequest with
  | true =>
    have hm : s.mainStep = { s.base with
        cmd := sdramCmd s.csN 7, state := .wait, next := .idle, count := 1 } := by
      rw [hmain, mainHold, hrr]
      rfl
    refine .of_nop (congrArg (·.cmd) hm) hissue fun hquiet => .bailing ?_
    have hack := (congrArg (·.ackRefreshRequest) hm).trans h.opened.ack
    refine ⟨congrArg (·.state) hm, congrArg (·.next) hm,
      Or.inr ⟨congrArg (·.count) hm, (calm_zero s).step hquiet⟩, congrArg (·.fPop) hm,
      Called.step ⟨hrr, h.opened.ack⟩ hdone hack,
      congrArg (· - 1) h.rest, hrecovery, fun hstrobe => ?_⟩
    rw [hquiet] at hstrobe
    cases hstrobe
  | false =>
    cases hempty : s.fEmpty with
    | true =>
      have hm : s.mainStep = { s.base with cmd := sdramCmd s.csN 7 } := by
        rw [hmain, mainHold, hrr, hempty]
        rfl
      have hactive : s.mainStep.active = s.main.active := congrArg (·.active) hm
      refine .of_nop (congrArg (·.cmd) hm) hissue fun hquiet => .holding ?_
      refine ⟨⟨h.opened.stay (congrArg (·.ackRefreshRequest) hm) (congrArg (·.activeCsN) hm)
        hactive rfl, congrArg (· - 1) h.rest, hrecovery, fun hrnw => ?_, fun hstrobe => ?_⟩,
        (congrArg (·.state) hm).trans h.state, congrArg (·.fPop) hm⟩
      · rw [step_main, hactive] at hrnw
        exact ((h.calm hrnw).step hquiet).mono (by omega)
      · rw [hquiet] at hstrobe
        cases hstrobe
    | false =>
      cases hmatch : s.matching with
      | true =>
        obtain ⟨-, hrnw, hbank, hrow⟩ := matching_iff.mp hmatch
        have hm : s.mainStep = { s.take { s.base with cmd := sdramCmd s.csN 7 } with
            state := accessState s.front } := by
          rw [hmain, mainHold, hrr, hempty, hmatch]
          rfl
        have hactive : s.mainStep.active = s.front := congrArg (·.active) hm
        obtain ⟨l, hl⟩ := InputEfifo.queue_of_not_empty hempty
        refine .of_nop (congrArg (·.cmd) hm) hissue fun hquiet => .serving ?_
        refine ⟨⟨h.opened.next (congrArg (·.ackRefreshRequest) hm) (congrArg (·.activeCsN) hm)
          (by rw [hactive, hbank]) (by rw [hactive, hrow])
          (hactive ▸ hq _ (hl ▸ List.mem_cons_self)) rfl,
          congrArg (· - 1) h.rest, hrecovery, fun hwrite => ?_, fun hstrobe => ?_⟩, ?_⟩
        · rw [step_main, hactive, ← hrnw] at hwrite
          exact ((h.calm hwrite).step hquiet).mono (by omega)
        · rw [hquiet] at hstrobe
          cases hstrobe
        · rw [step_main, hactive]
          exact congrArg (·.state) hm
      | false =>
        have hm : s.mainStep = { s.base with
            cmd := sdramCmd s.csN 7, state := .recover, next := .idle, count := 1 } := by
          rw [hmain, mainHold, hrr, hempty, hmatch]
          rfl
        refine .of_nop (congrArg (·.cmd) hm) hissue fun hquiet => .recovering ?_
        exact ⟨congrArg (·.state) hm, congrArg (·.next) hm, congrArg (·.count) hm,
          congrArg (·.fPop) hm, (congrArg (·.ackRefreshRequest) hm).trans h.opened.ack,
          (congrArg (·.activeCsN) hm).trans h.opened.csN, congrArg (· - 1) h.rest,
          Nat.sub_le_of_le_add h.recovery, (calm_zero s).step hquiet⟩

/-! ## Reads and writes -/

/-- Whether it comes from the queue or is the active one, the request served is one of the
open row. -/
structure Fits (s : Sdram) (r : SdramRequest) : Prop where
  rnw : r.rnw = s.main.active.rnw
  bank : r.bank = s.main.active.bank
  row : r.row = s.main.active.row
  clear : r.Clear

theorem Used.fits_front (hq : ∀ r ∈ s.fifo.queue, r.Clear) (hpending : s.pending = true) :
    Fits s s.front := by
  rw [pending, Bool.and_eq_true, Bool.not_eq_true'] at hpending
  obtain ⟨-, hrnw, hbank, hrow⟩ := matching_iff.mp hpending.1
  obtain ⟨l, hl⟩ := InputEfifo.queue_of_not_empty hpending.2
  exact ⟨hrnw.symm, hbank.symm, hrow.symm, hq _ (hl ▸ List.mem_cons_self)⟩

theorem Used.fits_chosen (h : Used s c) (hq : ∀ r ∈ s.fifo.queue, r.Clear) :
    Fits s s.chosen := by
  rw [chosen]
  split_ifs with hsel
  · rw [fSelect, Bool.and_eq_true] at hsel
    exact fits_front hq hsel.2
  · exact ⟨rfl, rfl, rfl, h.opened.clear⟩

/-- A request is served unless the active one has gone and there is none to follow it. -/
theorem Serving.issuing (h : Serving s c) : s.issuing =
    if s.main.fPop = true ∧ s.pending = false then none else some s.chosen := by
  have hstate : s.main.state = .read ∨ s.main.state = .write := by
    rw [h.state]
    exact accessState_cases _
  rw [Sdram.issuing, if_pos hstate, chosen, fSelect]
  cases s.main.fPop <;> cases s.pending <;> rfl

theorem Serving.csN (h : Serving s c) : s.csN = false := csN_of_active h.opened.csN

/-- An edge that puts a read on the pins. -/
theorem Used.puts_read (h : Used s c) (hready : c.ready = true) {r : SdramRequest}
    (hfits : Fits s r) (hrnw : r.rnw = true) (hissue : s.issuing = some r)
    (hcmd : s.mainStep.cmd = sdramCmd false 5) (hbank : s.mainStep.bank = r.bank)
    (haddr : s.mainStep.addr = r.casAddr)
    (hphase : Phase (s.step bus) (tell c (.read r.bank (r.addr.extractLsb' 0 10)))) :
    Goes s bus c := by
  have hpins : (s.step bus).pins = .read r.bank (r.addr.extractLsb' 0 10) := by
    rw [← hbank]
    exact SdramMain.pins_read hcmd haddr
  have hrow : c.row r.bank = some r.row := by
    rw [hfits.bank, hfits.row]
    exact h.opened.row.1
  refine ⟨?_, ?_, ?_, ?_⟩
  · rw [hpins]
    exact ⟨h.rest, hready, by simp [hrow]⟩
  · rw [hpins, hissue, Dram.Chip.access, hrow, Option.map_some, Option.map_some,
      SdramRequest.chipAccess, SdramRequest.access, hrnw]
    rfl
  · rw [hissue]
    exact (rdStrobe_of_cmd hcmd).trans hrnw.symm
  · rw [hpins]
    exact hphase

/-- An edge that puts a write on the pins. -/
theorem Used.puts_write (h : Used s c) (hready : c.ready = true) {r : SdramRequest}
    (hfits : Fits s r) (hrnw : r.rnw = false) (hissue : s.issuing = some r)
    (hcmd : s.mainStep.cmd = sdramCmd false 4) (hbank : s.mainStep.bank = r.bank)
    (haddr : s.mainStep.addr = r.casAddr) (hdqm : s.mainStep.dqm = r.dqm)
    (hdata : s.mainStep.data = r.data) (hoe : s.mainStep.oe = true)
    (hphase : (s.step bus).rdStrobe = false → Phase (s.step bus)
      (tell c (.write r.bank (r.addr.extractLsb' 0 10) (masked r.dqm r.data)))) :
    Goes s bus c := by
  have hpins : (s.step bus).pins
      = .write r.bank (r.addr.extractLsb' 0 10) (masked r.dqm r.data) := by
    rw [← hbank, ← hdqm, ← hdata]
    exact SdramMain.pins_write hcmd haddr hoe
  have hrow : c.row r.bank = some r.row := by
    rw [hfits.bank, hfits.row]
    exact h.opened.row.1
  have hquiet : (s.step bus).rdStrobe = false := (rdStrobe_of_cmd hcmd).trans rfl
  refine ⟨?_, ?_, ?_, ?_⟩
  · rw [hpins]
    exact ⟨h.rest, hready, by simp [hrow]⟩
  · rw [hpins, hissue, Dram.Chip.access, hrow, Option.map_some, Option.map_some,
      SdramRequest.chipAccess, SdramRequest.access, hrnw]
    rfl
  · rw [hissue, hquiet]
    exact hrnw.symm
  · rw [hpins]
    exact hphase hquiet

theorem Serving.goes_read (h : Serving s c) (hrnw : s.main.active.rnw = true)
    (hready : c.ready = true) (hdone : s.initDone = true)
    (hq : ∀ r ∈ s.fifo.queue, r.Clear) : Goes s bus c := by
  have hmain : s.mainStep = s.mainRead := by rw [mainStep, h.state, accessState, hrnw]; rfl
  have hissue := h.issuing
  have hfits := h.fits_chosen hq
  have hread : s.chosen.rnw = true := hfits.rnw.trans hrnw
  have hrest (b : BitVec 2) (col : BitVec 10) : (tell c (.read b col)).rest = 0 :=
    congrArg (· - 1) h.rest
  have hrecovery (b : BitVec 2) (col : BitVec 10) : (tell c (.read b col)).recovery ≤ 2 :=
    (Nat.sub_le ..).trans h.recovery
  cases hpending : s.pending with
  | true =>
    rw [if_neg (by rw [hpending]; simp)] at hissue
    cases hrr : s.refreshRequest with
    | true =>
      have hm : s.mainStep = { s.base with
          cmd := sdramCmd false 5
          bank := s.chosen.bank
          dqm := s.chosen.dqm
          addr := s.chosen.casAddr
          state := .wait
          next := .idle
          count := 2 } := by
        rw [hmain, mainRead, hpending, hrr, h.csN]
        rfl
      refine h.puts_read hready hfits hread hissue (congrArg (·.cmd) hm) (congrArg (·.bank) hm)
        (congrArg (·.addr) hm) (.bailing ?_)
      exact ⟨congrArg (·.state) hm, congrArg (·.next) hm, Or.inl (congrArg (·.count) hm),
        congrArg (·.fPop) hm, Called.step ⟨hrr, h.opened.ack⟩ hdone
          ((congrArg (·.ackRefreshRequest) hm).trans h.opened.ack),
        hrest .., hrecovery .., fun _ => (congrArg (·.dqm) hm).trans (hfits.clear hread)⟩
    | false =>
      have hm : s.mainStep = s.take { s.base with
          cmd := sdramCmd false 5
          bank := s.chosen.bank
          dqm := s.chosen.dqm
          addr := s.chosen.casAddr } := by
        rw [hmain, mainRead, hpending, hrr, h.csN]
        rfl
      have hfront := Used.fits_front hq hpending
      have hactive : s.mainStep.active = s.front := congrArg (·.active) hm
      refine h.puts_read hready hfits hread hissue (congrArg (·.cmd) hm) (congrArg (·.bank) hm)
        (congrArg (·.addr) hm) (.serving ?_)
      refine ⟨⟨h.opened.next (congrArg (·.ackRefreshRequest) hm) (congrArg (·.activeCsN) hm)
        (by rw [hactive, hfront.bank]) (by rw [hactive, hfront.row]) (hactive ▸ hfront.clear) rfl,
        hrest .., hrecovery .., fun hwrite => ?_,
        fun _ => (congrArg (·.dqm) hm).trans (hfits.clear hread)⟩, ?_⟩
      · rw [step_main, hactive, hfront.rnw, hrnw] at hwrite
        cases hwrite
      · rw [step_main, hactive, accessState, hfront.rnw, ← accessState, ← h.state]
        exact congrArg (·.state) hm
  | false =>
    cases hpop : s.main.fPop with
    | true =>
      rw [if_pos ⟨hpop, hpending⟩] at hissue
      have hm : s.mainStep = { s.base with
          cmd := sdramCmd false 7
          bank := s.chosen.bank
          dqm := s.chosen.dqm
          addr := s.chosen.casAddr
          state := .hold } := by
        rw [hmain, mainRead, hpending, hpop, h.csN]
        rfl
      have hactive : s.mainStep.active = s.main.active := congrArg (·.active) hm
      refine .of_nop (congrArg (·.cmd) hm) hissue fun hquiet => .holding ?_
      refine ⟨⟨h.opened.stay (congrArg (·.ackRefreshRequest) hm) (congrArg (·.activeCsN) hm)
        hactive rfl, congrArg (· - 1) h.rest, (Nat.sub_le ..).trans h.recovery,
        fun hwrite => ?_, fun _ => (congrArg (·.dqm) hm).trans (hfits.clear hread)⟩,
        congrArg (·.state) hm, congrArg (·.fPop) hm⟩
      rw [step_main, hactive, hrnw] at hwrite
      cases hwrite
    | false =>
      rw [if_neg (by simp [hpop])] at hissue
      have hm : s.mainStep = { s.base with
          cmd := sdramCmd false 5
          bank := s.chosen.bank
          dqm := s.chosen.dqm
          addr := s.chosen.casAddr
          state := .hold } := by
        rw [hmain, mainRead, hpending, hpop, h.csN]
        rfl
      have hactive : s.mainStep.active = s.main.active := congrArg (·.active) hm
      refine h.puts_read hready hfits hread hissue (congrArg (·.cmd) hm) (congrArg (·.bank) hm)
        (congrArg (·.addr) hm) (.holding ?_)
      refine ⟨⟨h.opened.stay (congrArg (·.ackRefreshRequest) hm) (congrArg (·.activeCsN) hm)
        hactive rfl, hrest .., hrecovery .., fun hwrite => ?_,
        fun _ => (congrArg (·.dqm) hm).trans (hfits.clear hread)⟩,
        congrArg (·.state) hm, congrArg (·.fPop) hm⟩
      rw [step_main, hactive, hrnw] at hwrite
      cases hwrite

theorem Serving.goes_write (h : Serving s c) (hrnw : s.main.active.rnw = false)
    (hready : c.ready = true) (hdone : s.initDone = true)
    (hq : ∀ r ∈ s.fifo.queue, r.Clear) : Goes s bus c := by
  have hmain : s.mainStep = s.mainWrite := by rw [mainStep, h.state, accessState, hrnw]; rfl
  have hissue := h.issuing
  have hfits := h.fits_chosen hq
  have hwrite : s.chosen.rnw = false := hfits.rnw.trans hrnw
  have hcalm (hquiet : (s.step bus).rdStrobe = false) : Calm 3 (s.step bus) :=
    ((h.calm hrnw).step hquiet).mono (by omega)
  have hmask (hquiet : (s.step bus).rdStrobe = false)
      (hstrobe : (s.step bus).rdStrobe = true) : (s.step bus).main.dqm = 0 := by
    rw [hquiet] at hstrobe
    cases hstrobe
  have hrest (b : BitVec 2) (col : BitVec 10) (put : BitVec 16 → BitVec 16) :
      (tell c (.write b col put)).rest = 0 := congrArg (· - 1) h.rest
  cases hpending : s.pending with
  | true =>
    rw [if_neg (by rw [hpending]; simp)] at hissue
    cases hrr : s.refreshRequest with
    | true =>
      have hm : s.mainStep = { s.base with
          cmd := sdramCmd false 4
          oe := true
          data := s.chosen.data
          dqm := s.chosen.dqm
          bank := s.chosen.bank
          addr := s.chosen.casAddr
          state := .wait
          next := .idle
          count := 1 } := by
        rw [hmain, mainWrite, hpending, hrr, h.csN]
        rfl
      refine h.puts_write hready hfits hwrite hissue (congrArg (·.cmd) hm) (congrArg (·.bank) hm)
        (congrArg (·.addr) hm) (congrArg (·.dqm) hm) (congrArg (·.data) hm) (congrArg (·.oe) hm)
        fun hquiet => .bailing ?_
      exact ⟨congrArg (·.state) hm, congrArg (·.next) hm,
        Or.inr ⟨congrArg (·.count) hm, (calm_zero s).step hquiet⟩, congrArg (·.fPop) hm,
        Called.step ⟨hrr, h.opened.ack⟩ hdone
          ((congrArg (·.ackRefreshRequest) hm).trans h.opened.ack),
        hrest .., Nat.le_refl 2, hmask hquiet⟩
    | false =>
      have hm : s.mainStep = s.take { s.base with
          cmd := sdramCmd false 4
          oe := true
          data := s.chosen.data
          dqm := s.chosen.dqm
          bank := s.chosen.bank
          addr := s.chosen.casAddr } := by
        rw [hmain, mainWrite, hpending, hrr, h.csN]
        rfl
      have hfront := Used.fits_front hq hpending
      have hactive : s.mainStep.active = s.front := congrArg (·.active) hm
      refine h.puts_write hready hfits hwrite hissue (congrArg (·.cmd) hm) (congrArg (·.bank) hm)
        (congrArg (·.addr) hm) (congrArg (·.dqm) hm) (congrArg (·.data) hm) (congrArg (·.oe) hm)
        fun hquiet => .serving ?_
      refine ⟨⟨h.opened.next (congrArg (·.ackRefreshRequest) hm) (congrArg (·.activeCsN) hm)
        (by rw [hactive, hfront.bank]) (by rw [hactive, hfront.row]) (hactive ▸ hfront.clear) rfl,
        hrest .., Nat.le_refl 2, fun _ => hcalm hquiet, hmask hquiet⟩, ?_⟩
      rw [step_main, hactive, accessState, hfront.rnw, ← accessState, ← h.state]
      exact congrArg (·.state) hm
  | false =>
    cases hpop : s.main.fPop with
    | true =>
      rw [if_pos ⟨hpop, hpending⟩] at hissue
      have hm : s.mainStep = { s.base with
          cmd := sdramCmd false 7
          data := s.chosen.data
          dqm := s.chosen.dqm
          bank := s.chosen.bank
          addr := s.chosen.casAddr
          state := .hold } := by
        rw [hmain, mainWrite, hpending, hpop, h.csN]
        rfl
      have hactive : s.mainStep.active = s.main.active := congrArg (·.active) hm
      refine .of_nop (congrArg (·.cmd) hm) hissue fun hquiet => .holding ?_
      exact ⟨⟨h.opened.stay (congrArg (·.ackRefreshRequest) hm) (congrArg (·.activeCsN) hm)
        hactive rfl, congrArg (· - 1) h.rest, (Nat.sub_le ..).trans h.recovery,
        fun _ => hcalm hquiet, hmask hquiet⟩, congrArg (·.state) hm, congrArg (·.fPop) hm⟩
    | false =>
      rw [if_neg (by simp [hpop])] at hissue
      have hm : s.mainStep = { s.base with
          cmd := sdramCmd false 4
          oe := true
          data := s.chosen.data
          dqm := s.chosen.dqm
          bank := s.chosen.bank
          addr := s.chosen.casAddr
          state := .hold } := by
        rw [hmain, mainWrite, hpending, hpop, h.csN]
        rfl
      have hactive : s.mainStep.active = s.main.active := congrArg (·.active) hm
      refine h.puts_write hready hfits hwrite hissue (congrArg (·.cmd) hm) (congrArg (·.bank) hm)
        (congrArg (·.addr) hm) (congrArg (·.dqm) hm) (congrArg (·.data) hm) (congrArg (·.oe) hm)
        fun hquiet => .holding ?_
      exact ⟨⟨h.opened.stay (congrArg (·.ackRefreshRequest) hm) (congrArg (·.activeCsN) hm)
        hactive rfl, hrest .., Nat.le_refl 2, fun _ => hcalm hquiet, hmask hquiet⟩,
        congrArg (·.state) hm, congrArg (·.fPop) hm⟩

/-- **Every edge is in order**: the command is one the chip may be told, it gets at what the
request asks for, and the FSM is in one of its phases again. -/
theorem phase_goes (h : Phase s c) (hdone : s.initDone = true) (hready : c.ready = true)
    (hk : s.fifo.Kept) (hq : ∀ r ∈ s.fifo.queue, r.Clear) : Goes s bus c := by
  cases h with
  | idle h => exact h.goes hdone hk hq
  | recalled h => exact h.goes hdone
  | activating h => exact h.goes hready
  | opening h => exact h.goes
  | serving h =>
    cases hrnw : s.main.active.rnw with
    | true => exact h.goes_read hrnw hready hdone hq
    | false => exact h.goes_write hrnw hready hdone hq
  | holding h => exact h.goes hdone hq
  | recovering h => exact h.goes
  | closing h => exact h.goes
  | closed h => exact h.goes
  | bailing h => exact h.goes hdone
  | clearing h => exact h.goes hdone
  | cleared h => exact h.goes hdone
  | refreshing h => exact h.goes

end Sdram

end SpaceInvaders
