import SpaceInvaders.Sdram.Waking

/-!
# Refreshes are given in time

The counter calls for a refresh every 782 clocks. From the call to the end of the refresh
`due` falls at every clock, whatever is asked of the controller (`due_step`, `acked_step`); so
the call is answered long before the next one (`timely_step`), and in every run no call is
lost and the refreshes never stop (`run_refreshes`).
-/

namespace SpaceInvaders

/-- The clocks until a refresh that is called for is over. -/
def SdramMain.due (m : SdramMain) : Nat :=
  match m.state with
  | .idle => if m.ackRefreshRequest then 1 else 8
  | .activate => 13
  | .wait =>
    if m.next = .idle then (if m.ackRefreshRequest then 1 else 8) + max 1 m.count.toNat
    else if m.next = .refresh then 6 else 12
  | .read => 11
  | .write => 11
  | .recover => 11
  | .precharge => if m.next = .refresh then 7 else 10
  | .refresh => 5
  | .hold => 10

namespace SdramMain

variable {m : SdramMain}

theorem due_idle (hs : m.state = .idle) (hack : m.ackRefreshRequest = false) : m.due = 8 := by
  rw [due, hs, hack]
  rfl

theorem due_closed (hs : m.state = .wait) (hn : m.next = .idle)
    (hack : m.ackRefreshRequest = false) : m.due = 8 + max 1 m.count.toNat := by
  rw [due, hs, hack]
  exact if_pos hn

theorem due_acked (hs : m.state = .wait) (hn : m.next = .idle)
    (hack : m.ackRefreshRequest = true) : m.due = 1 + max 1 m.count.toNat := by
  rw [due, hs, hack]
  exact if_pos hn

theorem due_cleared (hs : m.state = .wait) (hn : m.next = .refresh) : m.due = 6 := by
  rw [due, hs, hn]
  rfl

theorem due_opening {r : SdramRequest} (hs : m.state = .wait)
    (hn : m.next = Sdram.accessState r) : m.due = 12 := by
  rw [due, hs, hn]
  obtain h | h := Sdram.accessState_cases r <;> rw [h] <;> rfl

theorem due_serving {r : SdramRequest} (hs : m.state = Sdram.accessState r) : m.due = 11 := by
  rw [due, hs]
  obtain h | h := Sdram.accessState_cases r <;> rw [h]

theorem due_clearing (hs : m.state = .precharge) (hn : m.next = .refresh) : m.due = 7 := by
  rw [due, hs, hn]
  rfl

theorem due_closing (hs : m.state = .precharge) (hn : m.next = .idle) : m.due = 10 := by
  rw [due, hs, hn]
  rfl

theorem due_holding (hs : m.state = .hold) : m.due = 10 := by
  rw [due, hs]

theorem due_refreshing (hs : m.state = .refresh) : m.due = 5 := by
  rw [due, hs]

/-- However it stands, a refresh is over in 15 clocks. -/
theorem due_le (m : SdramMain) : m.due ≤ 15 := by
  have hcount : m.count.toNat < 8 := m.count.isLt
  unfold due
  split
  case h_3 => split_ifs <;> omega
  all_goals first | omega | split_ifs <;> omega

end SdramMain

namespace Sdram

variable {s : Sdram} {bus : SdramBus} {c : SdramChip}

open SdramMain

/-! ## What the requests make of it -/

/-- From an open row it goes back to give a refresh, or first holds the row. -/
theorem Serving.called (h : Serving s c) (hrr : s.refreshRequest = true) :
    s.mainStep.state = .hold ∨ s.mainStep.state = .wait ∧ s.mainStep.next = .idle ∧
      (s.mainStep.count = 2 ∨ s.mainStep.count = 1) ∧
        s.mainStep.ackRefreshRequest = s.main.ackRefreshRequest := by
  rw [mainStep, h.state, accessState]
  cases s.main.active.rnw
  · show s.mainWrite.state = _ ∨ _
    cases hpending : s.pending <;> cases hpop : s.main.fPop <;>
      rw [mainWrite, hpending, hrr]
    · exact Or.inl rfl
    · exact Or.inl rfl
    · exact Or.inr ⟨rfl, rfl, Or.inr rfl, rfl⟩
    · exact Or.inr ⟨rfl, rfl, Or.inr rfl, rfl⟩
  · show s.mainRead.state = _ ∨ _
    cases hpending : s.pending <;> cases hpop : s.main.fPop <;>
      rw [mainRead, hpending, hrr]
    · exact Or.inl rfl
    · exact Or.inl rfl
    · exact Or.inr ⟨rfl, rfl, Or.inl rfl, rfl⟩
    · exact Or.inr ⟨rfl, rfl, Or.inl rfl, rfl⟩

theorem Activating.next (h : Activating s c) :
    s.mainStep.state = .wait ∧ s.mainStep.next = accessState s.main.active := by
  rw [mainStep, h.state]
  exact ⟨rfl, rfl⟩

theorem Opening.next' (h : Opening s c) : s.mainStep.state = accessState s.main.active ∧
    s.mainStep.fPop = false := by
  obtain ⟨csN, hwait⟩ := mainWait_last (s := s) (by rw [h.count]; decide)
  rw [mainStep_wait h.state, hwait, ← h.next]
  exact ⟨rfl, rfl⟩

theorem Recovering.next' (h : Recovering s c) :
    s.mainStep.state = .precharge ∧ s.mainStep.next = .idle := by
  rw [mainStep, h.state, ← h.next]
  show s.mainRecover.state = _ ∧ s.mainRecover.next = _
  rw [mainRecover, h.count]
  exact ⟨rfl, rfl⟩

theorem Closing.next' (h : Closing s c) : s.mainStep.state = .wait ∧ s.mainStep.next = .idle ∧
    s.mainStep.count = 0 ∧ s.mainStep.ackRefreshRequest = s.main.ackRefreshRequest := by
  rw [mainStep, h.state, ← h.next, ← h.count]
  exact ⟨rfl, rfl, rfl, rfl⟩

theorem Clearing.next' (h : Clearing s c) :
    s.mainStep.state = .wait ∧ s.mainStep.next = .refresh := by
  rw [mainStep, h.state, ← h.next]
  exact ⟨rfl, rfl⟩

theorem Cleared.next' (h : Cleared s c) : s.mainStep.state = .refresh := by
  obtain ⟨csN, hwait⟩ := mainWait_last (s := s) (by rw [h.count]; decide)
  rw [mainStep_wait h.state, hwait, ← h.next]

/-- A wait on the way back ends, or has one clock less to go. -/
theorem wait_next (hstate : s.main.state = .wait) :
    s.mainStep.ackRefreshRequest = s.main.ackRefreshRequest ∧
      (s.mainStep.state = s.main.next ∨ s.mainStep.state = .wait ∧
        s.mainStep.next = s.main.next ∧
        max 1 s.mainStep.count.toNat < max 1 s.main.count.toNat) := by
  rw [mainStep_wait hstate]
  by_cases hcount : s.main.count > 1
  · obtain ⟨csN, hwait⟩ := mainWait_more hcount
    have hlt : 1 < s.main.count.toNat := hcount
    have hsub : (s.main.count - 1).toNat = s.main.count.toNat - 1 :=
      BitVec.toNat_sub_of_le (Nat.le_of_lt hlt)
    rw [hwait]
    refine ⟨rfl, Or.inr ⟨hstate, rfl, ?_⟩⟩
    show max 1 (s.main.count - 1).toNat < _
    rw [hsub]
    omega
  · obtain ⟨csN, hwait⟩ := mainWait_last hcount
    rw [hwait]
    exact ⟨rfl, Or.inl rfl⟩

theorem mainHold_called (hstate : s.main.state = .hold) (hrr : s.refreshRequest = true) :
    s.mainStep.state = .wait ∧ s.mainStep.next = .idle ∧ s.mainStep.count = 1 ∧
      s.mainStep.ackRefreshRequest = s.main.ackRefreshRequest := by
  rw [mainStep, hstate]
  show s.mainHold.state = _ ∧ s.mainHold.next = _ ∧ s.mainHold.count = _ ∧
    s.mainHold.ackRefreshRequest = _
  rw [mainHold, hrr]
  exact ⟨rfl, rfl, rfl, rfl⟩

theorem mainIdle_next (hstate : s.main.state = .idle) (hdone : s.initDone = true)
    (hrr : s.refreshRequest = true) :
    s.mainStep.state = .precharge ∧ s.mainStep.next = .refresh := by
  have hm : s.mainStep = s.mainIdle := by rw [mainStep, hstate]
  rw [hm, mainIdle_called hdone hrr]
  exact ⟨rfl, rfl⟩

/-! ## Refreshes -/

/-- A refresh that is called for comes nearer with every clock. -/
theorem due_step (h : Phase s c) (hdone : s.initDone = true) (hcalled : Called s)
    (hstate : s.main.state ≠ .refresh) : s.mainStep.due < s.main.due := by
  have hrr := hcalled.request
  have hack := hcalled.ack
  cases h with
  | idle h =>
    obtain ⟨hs, hn⟩ := mainIdle_next h.state hdone hrr
    rw [due_clearing hs hn, due_idle h.state hack]
    decide
  | recalled h =>
    obtain ⟨hs, hn⟩ := mainIdle_next h.state hdone hrr
    rw [due_clearing hs hn, due_idle h.state hack]
    decide
  | activating h =>
    have hdue : s.main.due = 13 := by rw [due, h.state]
    rw [due_opening h.next.1 h.next.2, hdue]
    decide
  | opening h =>
    rw [due_serving h.next'.1, due_opening h.state h.next]
    decide
  | serving h =>
    rw [due_serving h.state]
    rcases h.called hrr with hs | ⟨hs, hn, hcount, hack'⟩
    · rw [due_holding hs]
      decide
    · rw [due_closed hs hn (hack'.trans hack)]
      obtain hcount | hcount := hcount <;> rw [hcount] <;> decide
  | holding h =>
    obtain ⟨hs, hn, hcount, hack'⟩ := mainHold_called h.state hrr
    rw [due_closed hs hn (hack'.trans hack), hcount, due_holding h.state]
    decide
  | recovering h =>
    have hdue : s.main.due = 11 := by rw [due, h.state]
    rw [due_closing h.next'.1 h.next'.2, hdue]
    decide
  | closing h =>
    obtain ⟨hs, hn, hcount, hack'⟩ := h.next'
    rw [due_closed hs hn (hack'.trans hack), hcount, due_closing h.state h.next]
    decide
  | closed h =>
    rw [due_closed h.state h.next hack]
    rcases wait_next h.state with ⟨hack', hs | ⟨hs, hn, hlt⟩⟩
    · rw [due_idle (hs.trans h.next) (hack'.trans hack)]
      omega
    · rw [due_closed hs (hn.trans h.next) (hack'.trans hack)]
      omega
  | bailing h =>
    rw [due_closed h.state h.next hack]
    rcases wait_next h.state with ⟨hack', hs | ⟨hs, hn, hlt⟩⟩
    · rw [due_idle (hs.trans h.next) (hack'.trans hack)]
      omega
    · rw [due_closed hs (hn.trans h.next) (hack'.trans hack)]
      omega
  | clearing h =>
    rw [due_cleared h.next'.1 h.next'.2, due_clearing h.state h.next]
    decide
  | cleared h =>
    rw [due_refreshing h.next', due_cleared h.state h.next]
    decide
  | refreshing h => exact absurd h.state hstate

/-- It is acknowledged only when it is given. -/
theorem ack_step (hack : s.main.ackRefreshRequest = false) (hstate : s.main.state ≠ .refresh) :
    s.mainStep.ackRefreshRequest = false := by
  rw [mainStep, ← hack]
  cases hs : s.main.state with
  | idle =>
    show s.mainIdle.ackRefreshRequest = _
    unfold mainIdle
    split_ifs <;> first | rfl | exact hack.symm
  | activate => rfl
  | wait =>
    show s.mainWait.ackRefreshRequest = _
    unfold mainWait
    split_ifs <;> rfl
  | read =>
    show s.mainRead.ackRefreshRequest = _
    unfold mainRead
    split_ifs <;> rfl
  | write =>
    show s.mainWrite.ackRefreshRequest = _
    unfold mainWrite
    split_ifs <;> rfl
  | recover =>
    show s.mainRecover.ackRefreshRequest = _
    unfold mainRecover
    split_ifs <;> rfl
  | precharge => rfl
  | refresh => exact absurd hs hstate
  | hold =>
    show s.mainHold.ackRefreshRequest = _
    unfold mainHold
    split_ifs <;> rfl

/-- From the call for a refresh to its end the counter has not run far. -/
def Timely (s : Sdram) : Prop :=
  s.refreshRequest = true ∨ s.main.ackRefreshRequest = true →
    s.main.due + 766 ≤ s.refreshCounter.toNat

theorem counter_step (hpos : 0 < s.refreshCounter.toNat) :
    (s.step bus).refreshCounter.toNat = s.refreshCounter.toNat - 1 := by
  have hne : s.refreshCounter ≠ 0 := by
    rintro h
    rw [h] at hpos
    exact absurd hpos (Nat.lt_irrefl 0)
  have hstep : (s.step bus).refreshCounter = s.refreshCounter - 1 := if_neg hne
  rw [hstep, BitVec.toNat_sub_of_le hpos]
  rfl

theorem counter_reload (hzero : s.refreshCounter.toNat = 0) :
    (s.step bus).refreshCounter.toNat = 781 := by
  have hstep : (s.step bus).refreshCounter = 781 := if_pos (BitVec.eq_of_toNat_eq hzero)
  rw [hstep]
  rfl

/-- While an acknowledgement is up its end comes nearer with every clock. -/
theorem acked_step (h : Phase s c) (hdone : s.initDone = true)
    (hack : s.main.ackRefreshRequest = true) :
    s.mainStep.ackRefreshRequest = false ∨ s.mainStep.due < s.main.due := by
  have hno {p : Prop} (hack' : s.main.ackRefreshRequest = false) : p := by
    rw [hack'] at hack
    cases hack
  cases h with
  | idle h =>
    refine Or.inl ?_
    rw [mainStep, h.state]
    show s.mainIdle.ackRefreshRequest = false
    rw [mainIdle, if_pos hdone]
    split_ifs <;> rfl
  | closed h =>
    refine Or.inr ?_
    rw [due_acked h.state h.next hack]
    rcases wait_next h.state with ⟨hack', hs | ⟨hs, hn, hlt⟩⟩
    · have hdue : s.mainStep.due = 1 := by
        rw [due, hs, h.next, hack', hack]
        rfl
      rw [hdue]
      omega
    · rw [due_acked hs (hn.trans h.next) (hack'.trans hack)]
      omega
  | recalled h => exact hno h.called.ack
  | activating h => exact hno h.ack
  | opening h => exact hno h.opened.ack
  | serving h => exact hno h.opened.ack
  | holding h => exact hno h.opened.ack
  | recovering h => exact hno h.ack
  | closing h => exact hno h.ack
  | bailing h => exact hno h.called.ack
  | clearing h => exact hno h.called.ack
  | cleared h => exact hno h.called.ack
  | refreshing h => exact hno h.called.ack

theorem timely_step (h : Sound s c) (ht : Timely s) : Timely (s.step bus) := by
  have hasleep (h : Asleep s) : Timely (s.step bus) := by
    rintro (hrr | hack)
    · rw [h.step_request] at hrr
      cases hrr
    · rw [h.step_ack] at hack
      cases hack
  cases h.stage with
  | counting h => exact hasleep h.toAsleep
  | waking k h => exact hasleep h.toAsleep
  | awake hdone _ hphase =>
    intro hcall
    -- a refresh that goes on, and its clocks
    have hgoes (hlt : s.mainStep.due < s.main.due)
        (hwas : s.refreshRequest = true ∨ s.main.ackRefreshRequest = true) :
        s.mainStep.due + 766 ≤ (s.step bus).refreshCounter.toNat := by
      have hle := ht hwas
      rw [counter_step (by omega)]
      omega
    cases hack : s.main.ackRefreshRequest with
    | true =>
      rcases acked_step hphase hdone hack with hack' | hlt
      · rcases hcall with hrr | hacked
        · rw [request_of_acked hack] at hrr
          cases hrr
        · rw [step_main, hack'] at hacked
          cases hacked
      · exact hgoes hlt (Or.inr hack)
    | false =>
      cases hrr : s.refreshRequest with
      | true =>
        by_cases hstate : s.main.state = .refresh
        · refine hgoes ?_ (Or.inl hrr)
          have hdue : s.mainStep.due = 4 := by
            rw [mainStep, hstate]
            rfl
          rw [hdue, due_refreshing hstate]
          decide
        · exact hgoes (due_step hphase hdone ⟨hrr, hack⟩ hstate) (Or.inl hrr)
      | false =>
        -- the counter has run out at this clock
        have hstate : s.main.state ≠ .refresh := by
          intro hs
          cases hphase with
          | refreshing h => rw [h.called.request] at hrr; cases hrr
          | serving h =>
            rw [h.state] at hs
            obtain h | h := accessState_cases s.main.active <;> rw [h] at hs <;> cases hs
          | _ h => rw [h.state] at hs; cases hs
        rcases hcall with hrr' | hacked
        · have hzero : s.refreshCounter.toNat = 0 := by
            have hset : ((s.refreshCounter == 0 || s.refreshRequest)
                && !s.main.ackRefreshRequest && s.initDone) = true := hrr'
            rw [hrr, Bool.or_false, Bool.and_eq_true, Bool.and_eq_true] at hset
            rw [eq_of_beq hset.1.1]
            rfl
          rw [counter_reload hzero, step_main]
          have hle := s.mainStep.due_le
          omega
        · rw [step_main, ack_step hack hstate] at hacked
          cases hacked

/-! ## Runs -/

/-- After the countdown it goes on to the chip's sixteen clocks. -/
theorem countdown_run (s : Sdram) (bus : Nat → SdramBus) {t : Nat} (ht : t ≤ 10000) :
    (s.fromReset bus t).refreshCounter.toNat = 10000 - t ∧
      (s.fromReset bus t).init.state = .countdown ∧
      (s.fromReset bus t).init.next = .countdown ∧ (s.fromReset bus t).init.count = 0 := by
  induction t with
  | zero => exact ⟨rfl, rfl, rfl, rfl⟩
  | succ t ih =>
    obtain ⟨hcounter, hstate, hnext, hcount⟩ := ih (Nat.le_of_succ_le ht)
    have hne : ((s.fromReset bus t).refreshCounter == 0) = false := by
      refine beq_eq_false_iff_ne.mpr fun h => ?_
      rw [h] at hcounter
      have hzero : 0 = 10000 - t := hcounter
      omega
    have hinit : ((s.fromReset bus t).step (bus t)).init
        = (s.fromReset bus t).init.step ((s.fromReset bus t).refreshCounter == 0) := rfl
    rw [fromReset_succ, counter_step (by omega), hinit, hne, SdramInit.step, hstate]
    exact ⟨by omega, rfl, hnext, hcount⟩

theorem sequence_run (s : Sdram) (bus : Nat → SdramBus) {T k : Nat} (hT : T = 10000)
    (hk : k ≤ 16) : (s.fromReset bus (T + 1 + k)).init = sequence k := by
  induction k with
  | zero =>
    obtain ⟨hcounter, hstate, hnext, hcount⟩ := countdown_run s bus hT.le
    rw [hT, Nat.sub_self, ← hT] at hcounter
    have hzero : ((s.fromReset bus T).refreshCounter == 0) = true :=
      beq_iff_eq.mpr (BitVec.eq_of_toNat_eq hcounter)
    have hinit : (s.fromReset bus (T + 1)).init
        = (s.fromReset bus T).init.step ((s.fromReset bus T).refreshCounter == 0) := rfl
    rw [Nat.add_zero, hinit, hzero, SdramInit.step, hstate]
    show (⟨.precharge, (s.fromReset bus T).init.next, 0xF, BitVec.allOnes 13,
      (s.fromReset bus T).init.count, 0⟩ : SdramInit) = _
    rw [hnext, hcount]
    rfl
  | succ k ih =>
    have hinit : (s.fromReset bus (T + 1 + (k + 1))).init = (s.fromReset bus (T + 1 + k)).init.step
        ((s.fromReset bus (T + 1 + k)).refreshCounter == 0) := rfl
    rw [hinit, ih (by omega)]
    exact sequence_step (by omega) _

theorem initDone_step (hdone : s.initDone = true) : (s.step bus).initDone = true := by
  show (s.initDone || _) = true
  rw [hdone, Bool.true_or]

theorem initDone_run (s : Sdram) (bus : Nat → SdramBus) {t : Nat} (ht : 10017 ≤ t) :
    (s.fromReset bus t).initDone = true := by
  induction ht with
  | refl =>
    obtain ⟨T, hT⟩ : ∃ T, T = 10000 := ⟨_, rfl⟩
    rw [show 10017 = T + 1 + 15 + 1 by omega, fromReset_succ]
    have hinit := sequence_run s bus (k := 15) hT (by decide)
    show ((s.fromReset bus (T + 1 + 15)).initDone
      || (s.fromReset bus (T + 1 + 15)).init.state == .done) = true
    rw [hinit, Bool.or_eq_true]
    exact Or.inr rfl
  | step _ ih => exact initDone_step ih

theorem Sound.awake (h : Sound s c) (hdone : s.initDone = true) : Phase s c := by
  cases h.stage with
  | counting h => rw [h.done] at hdone; cases hdone
  | waking k h => rw [h.done] at hdone; cases hdone
  | awake _ _ hphase => exact hphase

theorem timely_run (s : Sdram) (bus : Nat → SdramBus) (t : Nat) : Timely (s.fromReset bus t) := by
  induction t with
  | zero => rintro (h | h) <;> cases h
  | succ t ih => exact timely_step (fresh_run s bus t) ih

/-- A refresh that is called for is given. -/
theorem given_run (s : Sdram) (bus : Nat → SdramBus) {t : Nat}
    (hdone : (s.fromReset bus t).initDone = true) (hcalled : Called (s.fromReset bus t)) :
    ∃ u, t < u ∧ u ≤ t + (s.fromReset bus t).main.due ∧ s.told bus u = .refresh := by
  induction hn : (s.fromReset bus t).main.due using Nat.strong_induction_on generalizing t with
  | _ n ih =>
    have hphase := (fresh_run s bus t).awake hdone
    by_cases hstate : (s.fromReset bus t).main.state = .refresh
    · have hdue := due_refreshing hstate
      refine ⟨t + 1, Nat.lt_succ_self t, by omega, SdramMain.pins_refresh ?_⟩
      show (s.fromReset bus t).mainStep.cmd = _
      rw [mainStep, hstate]
      rfl
    · have hlt : (s.fromReset bus (t + 1)).main.due < (s.fromReset bus t).main.due :=
        due_step hphase hdone hcalled hstate
      have hdone' : (s.fromReset bus (t + 1)).initDone = true := initDone_step hdone
      have hcalled' : Called (s.fromReset bus (t + 1)) :=
        hcalled.step hdone (ack_step hcalled.ack hstate)
      obtain ⟨u, htu, hu, htold⟩ := ih _ (hn ▸ hlt) hdone' hcalled' rfl
      exact ⟨u, by omega, by omega, htold⟩

/-- The counter runs out. -/
theorem zero_run (s : Sdram) (bus : Nat → SdramBus) (t : Nat) :
    ∃ u, t ≤ u ∧ u = t + (s.fromReset bus t).refreshCounter.toNat ∧
      (s.fromReset bus u).refreshCounter.toNat = 0 := by
  induction hn : (s.fromReset bus t).refreshCounter.toNat generalizing t with
  | zero => exact ⟨t, Nat.le_refl t, rfl, hn⟩
  | succ n ih =>
    have hstep : (s.fromReset bus (t + 1)).refreshCounter.toNat = n := by
      rw [fromReset_succ, counter_step (by omega), hn, Nat.add_sub_cancel]
    obtain ⟨u, htu, hu, hzero⟩ := ih (t + 1) hstep
    exact ⟨u, by omega, by omega, hzero⟩

theorem counter_le (s : Sdram) (bus : Nat → SdramBus) {t : Nat} (ht : 10001 ≤ t) :
    (s.fromReset bus t).refreshCounter.toNat ≤ 781 := by
  induction ht with
  | refl =>
    obtain ⟨T, hT⟩ : ∃ T, T = 10000 := ⟨_, rfl⟩
    have hcounter := (countdown_run s bus hT.le).1
    rw [hT, Nat.sub_self, ← hT] at hcounter
    rw [show 10001 = T + 1 by omega, fromReset_succ, counter_reload hcounter]
  | @step t _ ih =>
    show (s.fromReset bus (t + 1)).refreshCounter.toNat ≤ 781
    rw [fromReset_succ]
    by_cases hzero : (s.fromReset bus t).refreshCounter.toNat = 0
    · rw [counter_reload hzero]
    · rw [counter_step (Nat.pos_of_ne_zero hzero)]
      omega

/-- **No refresh is ever missed**, whatever is asked of the controller: none is called for
before the last is over, and once the chip is awake there is one in any 797 clocks. -/
theorem run_refreshes (s : Sdram) (bus : Nat → SdramBus) (t : Nat) :
    (s.fromReset bus t).zaCannotrefresh = false ∧
      ∃ u, t + 10017 < u ∧ u ≤ t + 10017 + 797 ∧ s.told bus u = .refresh := by
  refine ⟨?_, ?_⟩
  · cases t with
    | zero => rfl
    | succ t =>
      show ((s.fromReset bus t).refreshCounter == 0 && (s.fromReset bus t).refreshRequest) = false
      cases hrr : (s.fromReset bus t).refreshRequest with
      | false => exact Bool.and_false _
      | true =>
        have hle := timely_run s bus t (Or.inl hrr)
        rw [Bool.and_true]
        refine beq_eq_false_iff_ne.mpr fun h => ?_
        rw [h] at hle
        have hzero : (0 : BitVec 14).toNat = 0 := rfl
        omega
  · obtain ⟨v, htv, hv, hzero⟩ := zero_run s bus (t + 10017)
    have hle := counter_le s bus (show 10001 ≤ t + 10017 by omega)
    have hdone := initDone_run s bus (show 10017 ≤ v by omega)
    -- at this clock neither a call nor an acknowledgement is up
    have hquiet : (s.fromReset bus v).main.ackRefreshRequest = false ∧
        (s.fromReset bus v).main.state ≠ .refresh := by
      have htimely := timely_run s bus v
      refine ⟨?_, fun hs => ?_⟩
      · by_contra hack
        have hle' := htimely (Or.inr (Bool.not_eq_false _ ▸ hack))
        omega
      · cases (fresh_run s bus v).awake hdone with
        | refreshing h =>
          have hle' := htimely (Or.inl h.called.request)
          omega
        | serving h =>
          rw [h.state] at hs
          obtain h | h := accessState_cases (s.fromReset bus v).main.active <;>
            rw [h] at hs <;> cases hs
        | _ h => rw [h.state] at hs; cases hs
    have hcalled : Called (s.fromReset bus (v + 1)) := by
      refine ⟨?_, ack_step hquiet.1 hquiet.2⟩
      have hbeq : ((s.fromReset bus v).refreshCounter == 0) = true :=
        beq_iff_eq.mpr (BitVec.eq_of_toNat_eq hzero)
      show (((s.fromReset bus v).refreshCounter == 0 || _)
        && !(s.fromReset bus v).main.ackRefreshRequest && (s.fromReset bus v).initDone) = true
      rw [hquiet.1, hdone, hbeq, Bool.true_or]
      rfl
    have hdone' : (s.fromReset bus (v + 1)).initDone = true := initDone_step hdone
    obtain ⟨u, hvu, hu, htold⟩ := given_run s bus hdone' hcalled
    have hdue := (s.fromReset bus (v + 1)).main.due_le
    exact ⟨u, by omega, by omega, htold⟩

end Sdram

end SpaceInvaders
