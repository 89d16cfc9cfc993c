import SpaceInvaders.Sdram.Waking

/-!
# The controller and the chip are a memory

What the bus puts in goes to the chip once and in order (`pend_step`, by which the queue and
the active request are a conveyor), and what the chip answers comes out five clocks later,
when nobody else drives the line (`delivered_late`). So the words handed to the bus are the
answers of one flat memory of `2^25` words to the requests taken, in order
(`run_memory`).
-/

namespace SpaceInvaders

open Clocked (log log_succ log_zero log_mono log_delay log_conserved)

namespace Sdram

variable {s : Sdram} {bus : SdramBus} {c : SdramChip}

/-! ## Requests in order -/

theorem held_nil {m : SdramMain} (hstate : m.fPop = true ∨ m.state ≠ .read ∧ m.state ≠ .write)
    (hnext : m.fPop = true ∨ (m.state = .wait → m.next = .idle ∨ m.next = .refresh)) :
    m.held = [] := by
  rw [SdramMain.held, if_neg]
  rintro ⟨hpop, hread | hwrite | ⟨hwait, hnext'⟩⟩
  · exact (hstate.resolve_left (by simp [hpop])).1 hread
  · exact (hstate.resolve_left (by simp [hpop])).2 hwrite
  · obtain h | h := hnext.resolve_left (by simp [hpop]) hwait <;>
      rw [h] at hnext' <;> cases hnext' <;> contradiction

section Between

variable (hpop : s.main.fPop = false)
  (hstate : s.main.state ≠ .read ∧ s.main.state ≠ .write ∧ s.main.state ≠ .activate)
  (hnext : s.main.state = .wait ∨ s.main.state = .precharge →
    s.main.next = .idle ∨ s.main.next = .refresh)
include hstate hnext

/-- Away from the states that open and use a row nothing comes to be held. -/
theorem mainStep_held : s.mainStep.held = [] := by
  obtain ⟨hread, hwrite, hactivate⟩ := hstate
  cases hs : s.main.state with
  | idle =>
    rw [mainStep, hs]
    show s.mainIdle.held = []
    unfold mainIdle
    split_ifs
    · exact held_nil (Or.inr (by simp)) (Or.inr (by simp))
    · exact held_nil (Or.inl rfl) (Or.inl rfl)
    · exact held_nil (Or.inr ⟨hread, hwrite⟩) (Or.inr fun h => hnext (Or.inl h))
    · exact held_nil (Or.inr (by simp)) (Or.inr (by simp))
  | activate => exact absurd hs hactivate
  | wait =>
    rw [mainStep, hs]
    show s.mainWait.held = []
    have hidle := hnext (Or.inl hs)
    unfold mainWait
    split_ifs
    all_goals first
      | exact held_nil (Or.inr ⟨hread, hwrite⟩) (Or.inr fun _ => hidle)
      | exact held_nil (Or.inr (by obtain h | h := hidle <;> rw [h] <;> simp))
          (Or.inr fun _ => hidle)
  | read => exact absurd hs hread
  | write => exact absurd hs hwrite
  | recover =>
    rw [mainStep, hs]
    show s.mainRecover.held = []
    unfold mainRecover
    split_ifs
    · exact held_nil (Or.inr ⟨hread, hwrite⟩) (Or.inr fun h => hnext (Or.inl h))
    · exact held_nil (Or.inr (by simp)) (Or.inr (by simp))
  | precharge =>
    rw [mainStep, hs]
    exact held_nil (Or.inr (by simp [mainPrecharge])) (Or.inr fun _ => hnext (Or.inr hs))
  | refresh =>
    rw [mainStep, hs]
    exact held_nil (Or.inr (by simp [mainRefresh])) (Or.inr fun _ => Or.inl rfl)
  | hold =>
    rw [mainStep, hs]
    show s.mainHold.held = []
    unfold mainHold
    split_ifs
    all_goals first
      | exact held_nil (Or.inl rfl) (Or.inl rfl)
      | exact held_nil (Or.inr ⟨hread, hwrite⟩) (Or.inr fun h => hnext (Or.inl h))
      | exact held_nil (Or.inr (by simp)) (Or.inr fun _ => Or.inl rfl)

include hpop

/-- Away from the states that open and use a row nothing is held or given. -/
theorem held_between :
    s.main.held ++ (if s.fSelect then [s.front] else [])
      = s.issuing.toList ++ s.mainStep.held := by
  have hheld : s.main.held = [] :=
    held_nil (Or.inr ⟨hstate.1, hstate.2.1⟩) (Or.inr fun h => hnext (Or.inl h))
  rw [hheld, mainStep_held hstate hnext, fSelect_of_fPop hpop,
    issuing_none hstate.1 hstate.2.1]
  rfl

end Between

theorem Serving.held (h : Serving s c) :
    s.main.held ++ (if s.fSelect then [s.front] else [])
      = s.issuing.toList ++ s.mainStep.held := by
  have hheld' : s.mainStep.held = [] := by
    rw [mainStep, h.state, accessState]
    cases s.main.active.rnw
    · show s.mainWrite.held = []
      unfold mainWrite
      split_ifs
      all_goals first
        | exact held_nil (Or.inl rfl) (Or.inl rfl)
        | exact held_nil (Or.inr (by simp)) (Or.inr fun _ => Or.inl rfl)
        | exact held_nil (Or.inr (by simp)) (Or.inr (by simp))
    · show s.mainRead.held = []
      unfold mainRead
      split_ifs
      all_goals first
        | exact held_nil (Or.inl rfl) (Or.inl rfl)
        | exact held_nil (Or.inr (by simp)) (Or.inr fun _ => Or.inl rfl)
        | exact held_nil (Or.inr (by simp)) (Or.inr (by simp))
  have hstate : s.main.state = .read ∨ s.main.state = .write := by
    rw [h.state]
    exact accessState_cases _
  rw [hheld', h.issuing, chosen, fSelect, SdramMain.held]
  cases hpop : s.main.fPop with
  | false =>
    rw [if_pos ⟨rfl, hstate.elim Or.inl fun h => Or.inr (Or.inl h)⟩]
    rfl
  | true =>
    rw [if_neg (by rintro ⟨h, -⟩; cases h)]
    cases s.pending <;> rfl

/-- What is held and what leaves the queue goes to the chip or is held. -/
theorem held_step (h : Phase s c) :
    s.main.held ++ (if s.fSelect then [s.front] else [])
      = s.issuing.toList ++ s.mainStep.held := by
  cases h with
  | idle h =>
    exact held_between h.pop (by simp [h.state]) (by simp [h.state])
  | recalled h =>
    exact held_between h.pop (by simp [h.state]) (by simp [h.state])
  | activating h =>
    have hsel : s.fSelect = true := by rw [fSelect, h.pop, h.pending]; rfl
    have hheld : s.main.held = [] := held_nil (Or.inl h.pop) (Or.inl h.pop)
    have hissue : s.issuing = none :=
      issuing_none (by simp [h.state]) (by simp [h.state])
    have hheld' : s.mainStep.held = [s.main.active] := by
      rw [mainStep, h.state]
      exact if_pos ⟨rfl, Or.inr (Or.inr ⟨rfl, accessState_cases s.main.active⟩)⟩
    rw [hheld, hsel, hissue, hheld', h.picked]
    rfl
  | opening h =>
    have hnext : s.main.next = .read ∨ s.main.next = .write := by
      rw [h.next]
      exact accessState_cases _
    have hheld : s.main.held = [s.main.active] :=
      if_pos ⟨h.pop, Or.inr (Or.inr ⟨h.state, hnext⟩)⟩
    obtain ⟨csN, hwait⟩ := mainWait_last (s := s) (by rw [h.count]; decide)
    have hheld' : s.mainStep.held = [s.main.active] := by
      rw [mainStep_wait h.state, hwait]
      exact if_pos ⟨rfl, hnext.elim Or.inl fun h => Or.inr (Or.inl h)⟩
    rw [hheld, hheld', issuing_wait h.state, fSelect_of_fPop h.pop]
    rfl
  | serving h => exact h.held
  | holding h =>
    exact held_between h.pop (by simp [h.state]) (by simp [h.state])
  | recovering h =>
    exact held_between h.pop (by simp [h.state]) (by simp [h.state])
  | closing h =>
    exact held_between h.pop (by simp [h.state]) fun _ => Or.inl h.next
  | closed h =>
    exact held_between h.pop (by simp [h.state]) fun _ => Or.inl h.next
  | bailing h =>
    exact held_between h.pop (by simp [h.state]) fun _ => Or.inl h.next
  | clearing h =>
    exact held_between h.pop (by simp [h.state]) fun _ => Or.inr h.next
  | cleared h =>
    exact held_between h.pop (by simp [h.state]) fun _ => Or.inr h.next
  | refreshing h =>
    exact held_between h.pop (by simp [h.state]) (by simp [h.state])

theorem Asleep.held (h : Asleep s) : s.main.held ++ (if s.fSelect then [s.front] else [])
    = s.issuing.toList ++ s.mainStep.held :=
  held_between h.pop (by simp [h.state]) (by simp [h.state])

/-- **No request is lost, doubled or overtaken**: what waits and what comes in is what goes to
the chip and what waits then, in this order. -/
theorem pend_step (h : Sound s c) (bus : SdramBus) :
    s.pend ++ s.taking bus = s.issuing.toList ++ (s.step bus).pend := by
  have hheld : s.main.held ++ (if s.fSelect then [s.front] else [])
      = s.issuing.toList ++ s.mainStep.held := by
    cases h.stage with
    | counting h => exact h.toAsleep.held
    | waking k h => exact h.toAsleep.held
    | awake _ _ hphase => exact held_step hphase
  rw [pend, pend, List.append_assoc, queue_fifo h.kept bus, ← List.append_assoc, hheld,
    List.append_assoc]
  rfl

/-! ## The line to the chip -/

/-- The controller drives the line only for what it writes. -/
theorem state_of_oe (h : s.mainStep.oe = true) : s.main.state = .write := by
  by_contra hne
  have hfalse : s.mainStep.oe = false := by
    rw [mainStep]
    cases hs : s.main.state with
    | idle =>
      show s.mainIdle.oe = false
      unfold mainIdle
      split_ifs <;> rfl
    | activate => rfl
    | wait =>
      show s.mainWait.oe = false
      unfold mainWait
      split_ifs <;> rfl
    | read =>
      show s.mainRead.oe = false
      unfold mainRead
      split_ifs <;> rfl
    | write => exact absurd hs hne
    | recover =>
      show s.mainRecover.oe = false
      unfold mainRecover
      split_ifs <;> rfl
    | precharge => rfl
    | refresh => rfl
    | hold =>
      show s.mainHold.oe = false
      unfold mainHold
      split_ifs <;> rfl
  rw [hfalse] at h
  cases h

/-- An answer that is due has the line to itself. -/
theorem Sound.line (h : Sound s c) (hoe : s.mainStep.oe = true) :
    s.rdValid.getLsbD 1 = false := by
  have hwrite := state_of_oe hoe
  have hidle (hs : s.main.state = .idle) : s.rdValid.getLsbD 1 = false := by
    rw [hs] at hwrite
    cases hwrite
  cases h.stage with
  | counting h => exact hidle h.state
  | waking k h => exact hidle h.state
  | awake _ _ hphase =>
    cases hphase with
    | serving h =>
      refine (h.calm ?_).two (Nat.le_refl 3)
      have hstate := h.state.symm.trans hwrite
      rw [accessState] at hstate
      cases hrnw : s.main.active.rnw with
      | false => rfl
      | true => rw [hrnw] at hstate; cases hstate
    | _ h => rw [h.state] at hwrite; cases hwrite

/-- An answer is not masked. -/
theorem Sound.unmasked (h : Sound s c) (hstrobe : s.rdStrobe = true) : s.mainStep.dqm = 0 := by
  have hcalm {k : Nat} (hk : 1 ≤ k) (h : Calm k s) : s.mainStep.dqm = 0 := by
    rw [h.strobe hk] at hstrobe
    cases hstrobe
  have hsound := h
  cases h.stage with
  | counting h => exact hcalm (by decide) h.calm
  | waking k h => exact hcalm (by decide) h.calm
  | awake _ _ hphase =>
    cases hphase with
    | serving h =>
      cases hrnw : s.main.active.rnw with
      | false => exact hcalm (by decide) (h.calm hrnw)
      | true =>
        have hfits := h.fits_chosen hsound.clear
        rw [← hfits.clear (hfits.rnw.trans hrnw), mainStep, h.state, accessState, hrnw]
        show s.mainRead.dqm = _
        unfold mainRead
        split_ifs <;> rfl
    | holding h =>
      rw [← h.mask hstrobe, mainStep, h.state]
      show s.mainHold.dqm = _
      unfold mainHold
      split_ifs <;> rfl
    | bailing h =>
      rw [← h.mask hstrobe, mainStep_wait h.state]
      unfold mainWait
      split_ifs <;> rfl
    | idle h => exact hcalm (by decide) h.calm
    | recalled h => exact hcalm (by decide) h.calm
    | activating h => exact hcalm (by decide) h.calm
    | opening h => exact hcalm (by decide) h.calm
    | recovering h => exact hcalm (by decide) h.calm
    | closing h => exact hcalm (by decide) h.calm
    | closed h => exact hcalm (by decide) h.calm
    | clearing h => exact hcalm (by decide) h.calm
    | cleared h => exact hcalm (by decide) h.calm
    | refreshing h => exact hcalm (by decide) h.calm

/-! ## Runs -/

section Runs

variable {bus : Nat → SdramBus} {c₀ : SdramChip}

/-- The requests taken from the bus. -/
def accepted (s : Sdram) (bus : Nat → SdramBus) (t : Nat) : List SdramRequest :=
  (s.fromReset bus t).taking (bus t)

/-- The words handed to the bus. -/
def delivered (s : Sdram) (bus : Nat → SdramBus) (t : Nat) : List (BitVec 16) :=
  if (s.fromReset bus t).zaValid then [(s.fromReset bus t).zaData] else []

/-- The mask that hides an answer is looked at one clock after the read. -/
def shown (s : Sdram) (bus : Nat → SdramBus) (t : Nat) : Prop :=
  (s.fromReset bus (t + 1)).main.dqm = 0

theorem zaValid_late (s : Sdram) (bus : Nat → SdramBus) (t : Nat) :
    (s.fromReset bus (t + 4)).zaValid = (s.fromReset bus t).rdStrobe :=
  calc (s.fromReset bus (t + 4)).zaValid
      = (s.fromReset bus (t + 3)).rdValid.getLsbD 2 := rfl
    _ = (s.fromReset bus (t + 2)).rdValid.getLsbD 1 := step_rdValid_succ (by decide)
    _ = (s.fromReset bus (t + 1)).rdValid.getLsbD 0 := step_rdValid_succ (by decide)
    _ = (s.fromReset bus t).rdStrobe := step_rdValid_zero

theorem zaValid_soon (s : Sdram) (bus : Nat → SdramBus) {t : Nat} (ht : t < 4) :
    (s.fromReset bus t).zaValid = false := by
  have h0 (k : Nat) : (s.fromReset bus 0).rdValid.getLsbD k = false := BitVec.getLsbD_zero
  match t, ht with
  | 0, _ => rfl
  | 1, _ => exact h0 2
  | 2, _ => exact (step_rdValid_succ (by decide)).trans (h0 1)
  | 3, _ =>
    exact (step_rdValid_succ (by decide)).trans
      ((step_rdValid_succ (by decide)).trans (h0 0))

/-- Nobody else is on the line when an answer is due. -/
theorem line_free (s : Sdram) (bus : Nat → SdramBus) (hrest : c₀.rest ≤ 10000)
    (hrecovery : c₀.recovery ≤ 10000) {t : Nat} (h : (s.fromReset bus t).rdStrobe = true) :
    (s.fromReset bus (t + 3)).main.oe = false := by
  by_contra hoe
  have hline := (sound_run s bus hrest hrecovery (t + 2)).line (Bool.not_eq_false _ ▸ hoe)
  have hbit : (s.fromReset bus (t + 2)).rdValid.getLsbD 1 = true :=
    (step_rdValid_succ (by decide)).trans (step_rdValid_zero.trans h)
  rw [hbit] at hline
  cases hline

theorem zaData_late (s : Sdram) (bus : Nat → SdramBus) (hrest : c₀.rest ≤ 10000)
    (hrecovery : c₀.recovery ≤ 10000) {t : Nat} (h : (s.fromReset bus t).rdStrobe = true) :
    (s.fromReset bus (t + 4)).zaData = (bus (t + 3)).zsDq :=
  if_neg (Bool.eq_false_iff.mp (line_free s bus hrest hrecovery h))

/-- What a command gets at is what the request that went out asks for. -/
theorem accessAt_succ (s : Sdram) (bus : Nat → SdramBus) (hrest : c₀.rest ≤ 10000)
    (hrecovery : c₀.recovery ≤ 10000) (t : Nat) :
    Dram.accessAt setup c₀ (s.told bus) (t + 1)
      = (s.fromReset bus t).issuing.toList.map SdramRequest.chipAccess := by
  have hturn : Turn _ (bus t) _ := sound_turn (sound_run s bus hrest hrecovery t)
  refine (congrArg Option.toList hturn.access).trans ?_
  cases (s.fromReset bus t).issuing <;> rfl

theorem accessAt_zero (s : Sdram) (bus : Nat → SdramBus) (c₀ : SdramChip) :
    Dram.accessAt setup c₀ (s.told bus) 0 = [] := by
  have hidle : s.told bus 0 = .idle := SdramMain.pins_nop (m := s.reset.main) (n := true) rfl
  rw [Dram.accessAt, hidle]
  rfl

theorem rdStrobe_zero (s : Sdram) (bus : Nat → SdramBus) :
    (s.fromReset bus 0).rdStrobe = false :=
  show ((0xF#4).extractLsb' 0 3 == 5#3) = false by decide

/-- **What the chip answers is handed over four clocks after the command.** -/
theorem delivered_late (s : Sdram) (bus : Nat → SdramBus) (hrest : c₀.rest ≤ 10000)
    (hrecovery : c₀.recovery ≤ 10000) (t : Nat) :
    s.delivered bus (t + 4)
      = Dram.heardAt setup c₀ (s.told bus) (fun u => (bus u).zsDq) t := by
  rw [delivered, zaValid_late]
  cases t with
  | zero =>
    rw [rdStrobe_zero, Dram.heardAt, accessAt_zero]
    rfl
  | succ t =>
    have hturn : Turn _ (bus t) _ := sound_turn (sound_run s bus hrest hrecovery t)
    have hstrobe := hturn.strobe
    have hdata := zaData_late s bus hrest hrecovery (t := t + 1)
    have hrun : (s.fromReset bus (t + 1)).rdStrobe = (s.fromReset bus t).issuing.any (·.rnw) :=
      hstrobe
    rw [Dram.heardAt, accessAt_succ s bus hrest hrecovery]
    cases hissue : (s.fromReset bus t).issuing with
    | none =>
      rw [hrun, hissue]
      rfl
    | some r =>
      rw [hissue] at hrun
      have hrun' : (s.fromReset bus (t + 1)).rdStrobe = r.rnw := hrun
      show _ = r.chipAccess.sense _ ++ []
      rw [hrun', SdramRequest.chipAccess, SdramRequest.access]
      cases hrnw : r.rnw with
      | false => rfl
      | true =>
        rw [hdata (hrun'.trans hrnw)]
        rfl

theorem shown_of_read (s : Sdram) (bus : Nat → SdramBus) (hrest : c₀.rest ≤ 10000)
    (hrecovery : c₀.recovery ≤ 10000) {t : Nat} {a : BitVec 2 × BitVec 13 × BitVec 10}
    (h : Dram.accessAt setup c₀ (s.told bus) t = [.read a]) : s.shown bus t := by
  cases t with
  | zero =>
    rw [accessAt_zero] at h
    cases h
  | succ t =>
    refine (sound_run s bus hrest hrecovery (t + 1)).unmasked ?_
    have hturn : Turn _ (bus t) _ := sound_turn (sound_run s bus hrest hrecovery t)
    have hstrobe := hturn.strobe
    rw [accessAt_succ s bus hrest hrecovery] at h
    refine hstrobe.trans ?_
    cases hissue : (s.fromReset bus t).issuing with
    | none =>
      rw [hissue] at h
      cases h
    | some r =>
      rw [hissue] at h
      injection h with hread
      cases hrnw : r.rnw with
      | true => exact hrnw
      | false =>
        rw [SdramRequest.chipAccess, SdramRequest.access, hrnw] at hread
        cases hread

/-- The requests taken are those given to the chip and those that wait. -/
theorem log_accepted (s : Sdram) (bus : Nat → SdramBus) (hrest : c₀.rest ≤ 10000)
    (hrecovery : c₀.recovery ≤ 10000) (t : Nat) :
    log (s.accepted bus) t
      = log (fun u => (s.fromReset bus u).issuing.toList) t ++ (s.fromReset bus t).pend :=
  log_conserved rfl (fun u => pend_step (sound_run s bus hrest hrecovery u) (bus u)) t

theorem log_access (s : Sdram) (bus : Nat → SdramBus) (hrest : c₀.rest ≤ 10000)
    (hrecovery : c₀.recovery ≤ 10000) (t : Nat) :
    log (Dram.accessAt setup c₀ (s.told bus)) (t + 1)
      = (log (fun u => (s.fromReset bus u).issuing.toList) t).map SdramRequest.chipAccess := by
  induction t with
  | zero => exact (log_succ ..).trans (accessAt_zero s bus c₀)
  | succ t ih => rw [log_succ, ih, accessAt_succ s bus hrest hrecovery, log_succ, List.map_append]

/-- **The chip is well treated in every run**, whatever is asked of the controller: it is woken
in the order it needs, rows are opened only in banks that have none open and read and written
only while they are open, it is refreshed with all rows closed and left alone for the clocks
it needs after each command; and when it has an answer due the line is its own. -/
theorem run_legal (s : Sdram) (bus : Nat → SdramBus) (hrest : c₀.rest ≤ 10000)
    (hrecovery : c₀.recovery ≤ 10000) (t : Nat) :
    (Dram.chipAt setup c₀ (s.told bus) t).Legal setup (s.told bus t) ∧
      ((s.fromReset bus t).rdStrobe = true →
        (s.fromReset bus (t + 3)).main.oe = false ∧ s.shown bus t) :=
  ⟨legal_run s bus hrest hrecovery t, fun h => ⟨line_free s bus hrest hrecovery h,
    (sound_run s bus hrest hrecovery t).unmasked h⟩⟩

/-- A controller with all its registers down. -/
def switchedOn : Sdram where
  fifo := ⟨0, false, false, ⟨false, 0, 0, 0⟩, ⟨false, 0, 0, 0⟩⟩
  refreshCounter := 0
  refreshRequest := false
  zaCannotrefresh := false
  initDone := false
  init := ⟨.countdown, .countdown, 0, 0, 0, 0⟩
  main :=
    ⟨.idle, .idle, 0, 0, 0, 0, 0, 0, false, false, false, false, ⟨false, 0, 0, 0⟩⟩
  rdValid := 0
  zaData := 0
  zaValid := false

/-- The line of the chip gets no further than `za_data`. -/
theorem fromReset_congr (s : Sdram) {bus bus' : Nat → SdramBus}
    (hbus : ∀ t, ∃ dq, bus' t = { bus t with zsDq := dq }) (t : Nat) :
    ∃ d, s.fromReset bus' t = { s.fromReset bus t with zaData := d } := by
  induction t with
  | zero => exact ⟨_, rfl⟩
  | succ t ih =>
    obtain ⟨d, hd⟩ := ih
    obtain ⟨dq, hdq⟩ := hbus t
    refine ⟨(s.fromReset bus' t).zsDq (bus' t), ?_⟩
    rw [fromReset_succ, fromReset_succ, hd, hdq]
    rfl

/-- The bus with a chip at the controller that holds `mem` at the start. -/
def withChip (s : Sdram) (mem : BitVec 2 × BitVec 13 × BitVec 10 → BitVec 16)
    (bus : Nat → SdramBus) (t : Nat) : SdramBus :=
  { bus t with zsDq := Dram.line setup freshChip (s.told bus) mem 0 t }

theorem told_withChip (s : Sdram) (mem : BitVec 2 × BitVec 13 × BitVec 10 → BitVec 16)
    (bus : Nat → SdramBus) : s.told (s.withChip mem bus) = s.told bus := by
  funext t
  have hbus (u : Nat) : ∃ dq, s.withChip mem bus u = { bus u with zsDq := dq } := ⟨_, rfl⟩
  obtain ⟨d, hd⟩ := s.fromReset_congr hbus t
  rw [told, told, hd]
  rfl

/-- There is a chip for every bus. -/
theorem drives_withChip (s : Sdram) (mem : BitVec 2 × BitVec 13 × BitVec 10 → BitVec 16)
    (bus : Nat → SdramBus) :
    Dram.Drives setup freshChip (s.told (s.withChip mem bus)) (s.shown (s.withChip mem bus)) mem
      fun u => (s.withChip mem bus u).zsDq := by
  rw [told_withChip]
  exact Dram.drives_line setup freshChip (s.told bus) _ mem 0

/-- The low byte of a word is written, with the high byte's enable off, and the word is read
back from a chip that was full of `0xBEEF`. -/
def readBack : Nat → SdramBus :=
  switchedOn.withChip (fun _ => 0xBEEF) (Clocked.script
    [⟨0x12345, 2, 0x1234, true, false, 0⟩, ⟨0x12345, 0, 0, false, true, 0⟩]
    ⟨0, 0, 0, true, true, 0⟩)

theorem readBack_drives : Dram.Drives setup freshChip (switchedOn.told readBack)
    (switchedOn.shown readBack) (fun _ => 0xBEEF) fun u => (readBack u).zsDq :=
  drives_withChip switchedOn _ _

theorem readBack_accepted {t : Nat} (ht : 2 ≤ t) : log (switchedOn.accepted readBack) t
    = [⟨false, 0x12345, 2, 0x1234⟩, ⟨true, 0x12345, 0, 0⟩] := by
  induction ht with
  | refl => rfl
  | step ht ih =>
    rename_i t
    have hidle : switchedOn.accepted readBack t = [] := by
      obtain ⟨u, rfl⟩ := Nat.exists_eq_add_of_le' ht
      rfl
    rw [log_succ, ih, hidle, List.append_nil]

/-- The word read back is old above and new below. -/
theorem readBack_answers {t : Nat} (ht : 2 ≤ t) :
    Dram.answers ((fun _ => 0xBEEF) ∘ SdramRequest.cell)
      ((log (switchedOn.accepted readBack) t).map SdramRequest.access) = [0xBE34#16] := by
  rw [readBack_accepted ht]
  rfl

theorem readBack_legal :
    (Dram.chipAt setup freshChip (switchedOn.told readBack) 20000).Legal setup
        (switchedOn.told readBack 20000) ∧
      ((switchedOn.fromReset readBack 20000).rdStrobe = true →
        (switchedOn.fromReset readBack 20003).main.oe = false ∧
          switchedOn.shown readBack 20000) :=
  run_legal switchedOn readBack (Nat.le_refl 10000) (Nat.zero_le _) 20000

variable {mem : BitVec 2 × BitVec 13 × BitVec 10 → BitVec 16}

/-- The words handed over five clocks later are the answers to what has gone to the chip. -/
theorem log_delivered (s : Sdram) (hrest : c₀.rest ≤ 10000) (hrecovery : c₀.recovery ≤ 10000)
    (hdrives : Dram.Drives setup c₀ (s.told bus) (s.shown bus) mem fun u => (bus u).zsDq)
    (t : Nat) :
    log (s.delivered bus) (t + 5) = Dram.answers (mem ∘ SdramRequest.cell)
      ((log (fun u => (s.fromReset bus u).issuing.toList) t).map SdramRequest.access) := by
  have hsoon (u : Nat) (hu : u < 4) : s.delivered bus u = [] := by
    rw [delivered, zaValid_soon s bus hu]
    rfl
  have hmap : (SdramRequest.chipAccess : SdramRequest → SdramAccess)
      = Dram.Access.map SdramRequest.cell ∘ SdramRequest.access := rfl
  rw [show t + 5 = (t + 1) + 4 from rfl,
    log_delay hsoon (delivered_late s bus hrest hrecovery) (t + 1),
    Dram.heard_eq (legal_run s bus hrest hrecovery)
      (fun u a => shown_of_read s bus hrest hrecovery) hdrives,
    log_access s bus hrest hrecovery, hmap, ← List.map_map,
    Dram.answers_map SdramRequest.cell_injective]

/-- **The controller and a chip are one flat memory**: whatever comes from the bus and however
it is spread over banks and rows, and with refreshes in between, the words handed over are the
answers of a memory to the requests taken, in their order. -/
theorem run_memory (s : Sdram) (hrest : c₀.rest ≤ 10000) (hrecovery : c₀.recovery ≤ 10000)
    (hdrives : Dram.Drives setup c₀ (s.told bus) (s.shown bus) mem fun u => (bus u).zsDq)
    (t : Nat) :
    log (s.delivered bus) t <+: Dram.answers (mem ∘ SdramRequest.cell)
      ((log (s.accepted bus) t).map SdramRequest.access) := by
  refine (log_mono _ (Nat.le_add_right t 5)).trans ?_
  rw [log_delivered s hrest hrecovery hdrives, log_accepted s bus hrest hrecovery t,
    List.map_append]
  exact Dram.answers_prefix _ (List.prefix_append ..)

theorem readBack_memory : log (switchedOn.delivered readBack) 20000 <+: [0xBE34#16] := by
  have hprefix := run_memory switchedOn (Nat.le_refl 10000) (Nat.zero_le _) readBack_drives 20000
  rwa [readBack_answers (by decide)] at hprefix

end Runs

end Sdram

end SpaceInvaders
