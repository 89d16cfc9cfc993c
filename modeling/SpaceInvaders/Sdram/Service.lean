import SpaceInvaders.Sdram.Memory
import SpaceInvaders.Sdram.Refresh

/-!
# Requests are served in time

`rank` falls at every clock at which something waits and nothing goes to the chip, with
refreshes in between or not (`rank_step`): after a refresh the main FSM turns to a request
before it looks for the next one. So once the chip is awake every read taken is answered
within 62 clocks (`run_served`).
-/

namespace SpaceInvaders

open Clocked (log log_mono log_within)

namespace Sdram

variable {s : Sdram} {bus : SdramBus} {c : SdramChip}

/-- The clocks until a request goes to the chip. -/
def rank (s : Sdram) : Nat :=
  match s.main.state with
  | .idle => if s.refreshRequest then 11 else 4
  | .activate => 3
  | .wait =>
    if s.main.next = .idle then
      (if s.main.ackRefreshRequest then 4 else 11) + max 1 s.main.count.toNat
    else if s.main.next = .refresh then 9 else 2
  | .read => if s.issuing.isNone then 16 else 1
  | .write => if s.issuing.isNone then 16 else 1
  | .recover => 14
  | .precharge => if s.main.next = .refresh then 10 else 13
  | .refresh => 8
  | .hold => if s.refreshRequest then 13 else if s.matching then 2 else 15

theorem rank_lt (s : Sdram) : s.rank < 19 := by
  have hcount : s.main.count.toNat < 8 := s.main.count.isLt
  unfold rank
  split
  case h_3 => split_ifs <;> omega
  all_goals first | omega | split_ifs <;> omega

theorem rank_idle (hs : s.main.state = .idle) :
    s.rank = if s.refreshRequest then 11 else 4 := by
  rw [rank, hs]

theorem rank_activating (hs : s.main.state = .activate) : s.rank = 3 := by
  rw [rank, hs]

theorem rank_closed (hs : s.main.state = .wait) (hn : s.main.next = .idle) :
    s.rank = (if s.main.ackRefreshRequest then 4 else 11) + max 1 s.main.count.toNat := by
  rw [rank, hs]
  exact if_pos hn

theorem rank_cleared (hs : s.main.state = .wait) (hn : s.main.next = .refresh) : s.rank = 9 := by
  rw [rank, hs, hn]
  rfl

theorem rank_opening {r : SdramRequest} (hs : s.main.state = .wait)
    (hn : s.main.next = accessState r) : s.rank = 2 := by
  rw [rank, hs, hn]
  obtain h | h := accessState_cases r <;> rw [h] <;> rfl

theorem rank_serving {r : SdramRequest} (hs : s.main.state = accessState r) :
    s.rank = if s.issuing.isNone then 16 else 1 := by
  rw [rank, hs]
  obtain h | h := accessState_cases r <;> rw [h]

theorem rank_recovering (hs : s.main.state = .recover) : s.rank = 14 := by
  rw [rank, hs]

theorem rank_clearing (hs : s.main.state = .precharge) (hn : s.main.next = .refresh) :
    s.rank = 10 := by
  rw [rank, hs, hn]
  rfl

theorem rank_closing (hs : s.main.state = .precharge) (hn : s.main.next = .idle) :
    s.rank = 13 := by
  rw [rank, hs, hn]
  rfl

theorem rank_refreshing (hs : s.main.state = .refresh) : s.rank = 8 := by
  rw [rank, hs]

theorem rank_holding (hs : s.main.state = .hold) :
    s.rank = if s.refreshRequest then 13 else if s.matching then 2 else 15 := by
  rw [rank, hs]

/-- What waits while nothing is held waits in the queue. -/
theorem fEmpty_of_pend (hpend : s.pend ≠ []) (hheld : s.main.held = []) : s.fEmpty = false := by
  by_contra hempty
  refine hpend ?_
  rw [pend, hheld, InputEfifo.queue_of_empty (Bool.not_eq_false _ ▸ hempty)]
  rfl

/-- A request that waits comes nearer with every clock. -/
theorem rank_step (h : Phase s c) (hdone : s.initDone = true) (hk : s.fifo.Kept)
    (hpend : s.pend ≠ []) (hissue : s.issuing = none) : (s.step bus).rank < s.rank := by
  cases h with
  | idle h =>
    cases hrr : s.refreshRequest with
    | true =>
      obtain ⟨hs, hn⟩ := mainIdle_next h.state hdone hrr
      rw [rank_clearing hs hn, rank_idle h.state, hrr]
      decide
    | false =>
      have hempty := fEmpty_of_pend hpend (held_nil (Or.inr ⟨by simp [h.state],
        by simp [h.state]⟩) (Or.inr (by simp [h.state])))
      have hs : s.mainStep.state = .activate := by
        rw [mainStep, h.state]
        show s.mainIdle.state = _
        rw [mainIdle, hdone, hrr, hempty]
        rfl
      rw [rank_activating hs, rank_idle h.state, hrr]
      decide
  | recalled h =>
    obtain ⟨hs, hn⟩ := mainIdle_next h.state hdone h.called.request
    rw [rank_clearing hs hn, rank_idle h.state, h.called.request]
    decide
  | activating h =>
    rw [rank_opening h.next.1 h.next.2, rank_activating h.state]
    decide
  | opening h =>
    obtain ⟨hs, hpop⟩ := h.next'
    have hissue' : (s.step bus).issuing.isNone = false := by
      have hstate : (s.step bus).main.state = .read ∨ (s.step bus).main.state = .write := by
        rw [step_main, hs]
        exact accessState_cases _
      rw [issuing, if_pos hstate, fSelect_of_fPop hpop, step_main, hpop]
      rfl
    rw [rank_serving hs, hissue', rank_opening h.state h.next]
    decide
  | serving h =>
    rw [rank_serving h.state, hissue]
    have hnone := h.issuing.symm.trans hissue
    have hgone : s.main.fPop = true ∧ s.pending = false := by
      by_contra hne
      rw [if_neg hne] at hnone
      cases hnone
    have hs : s.mainStep.state = .hold := by
      rw [mainStep, h.state, accessState]
      cases s.main.active.rnw
      · show s.mainWrite.state = _
        rw [mainWrite, hgone.2]
        rfl
      · show s.mainRead.state = _
        rw [mainRead, hgone.2]
        rfl
    rw [rank_holding hs]
    show _ < 16
    split_ifs <;> decide
  | holding h =>
    have hempty := fEmpty_of_pend hpend (held_nil (Or.inr ⟨by simp [h.state],
      by simp [h.state]⟩) (Or.inr (by simp [h.state])))
    rw [rank_holding h.state]
    cases hrr : s.refreshRequest with
    | true =>
      obtain ⟨hs, hn, hcount, hack'⟩ := mainHold_called h.state hrr
      have hack : (s.step bus).main.ackRefreshRequest = false := hack'.trans h.opened.ack
      rw [rank_closed hs hn, hack, step_main, hcount]
      show 11 + max 1 1 < 13
      decide
    | false =>
      have hm : s.mainStep = s.mainHold := by rw [mainStep, h.state]
      cases hmatch : s.matching with
      | true =>
        have hhold : s.mainHold = { s.take { s.base with cmd := sdramCmd s.csN 7 } with
            state := accessState s.front } := by
          rw [mainHold, hrr, hempty, hmatch]
          rfl
        have htook := hm.trans hhold
        have hs : s.mainStep.state = accessState s.front := congrArg (·.state) htook
        -- what has been taken is still at the front, and goes out next
        have hpending : (s.step bus).pending = true :=
          pending_of_taken hk (fSelect_of_fPop h.pop) hempty (congrArg (·.activeCsN) htook)
            (congrArg (·.active) htook)
        have hpop : (s.step bus).main.fPop = true := congrArg (·.fPop) htook
        have hissue' : (s.step bus).issuing.isNone = false := by
          have hstate : (s.step bus).main.state = .read ∨ (s.step bus).main.state = .write := by
            rw [step_main, hs]
            exact accessState_cases _
          rw [issuing, if_pos hstate, fSelect, hpop, hpending]
          rfl
        rw [rank_serving hs, hissue']
        decide
      | false =>
        have hs : s.mainStep.state = .recover := by
          rw [hm, mainHold, hrr, hempty, hmatch]
          rfl
        rw [rank_recovering hs]
        decide
  | recovering h =>
    rw [rank_closing h.next'.1 h.next'.2, rank_recovering h.state]
    decide
  | closing h =>
    obtain ⟨hs, hn, hcount, hack'⟩ := h.next'
    have hack : (s.step bus).main.ackRefreshRequest = false := hack'.trans h.ack
    rw [rank_closed hs hn, hack, step_main, hcount, rank_closing h.state h.next]
    decide
  | closed h =>
    rw [rank_closed h.state h.next]
    rcases wait_next h.state with ⟨hack', hs | ⟨hs, hn, hlt⟩⟩
    · rw [rank_idle (hs.trans h.next)]
      cases hack : s.main.ackRefreshRequest with
      | true =>
        rw [request_of_acked hack]
        show 4 < 4 + _
        omega
      | false =>
        show _ < 11 + _
        split_ifs <;> omega
    · rw [rank_closed hs (hn.trans h.next), step_main, hack']
      omega
  | bailing h =>
    rw [rank_closed h.state h.next]
    rcases wait_next h.state with ⟨hack', hs | ⟨hs, hn, hlt⟩⟩
    · rw [rank_idle (hs.trans h.next), h.called.ack]
      show _ < 11 + _
      split_ifs <;> omega
    · rw [rank_closed hs (hn.trans h.next), step_main, hack']
      omega
  | clearing h =>
    rw [rank_cleared h.next'.1 h.next'.2, rank_clearing h.state h.next]
    decide
  | cleared h =>
    rw [rank_refreshing h.next', rank_cleared h.state h.next]
    decide
  | refreshing h =>
    have hm : s.mainStep = s.mainRefresh := by rw [mainStep, h.state]
    have hs : s.mainStep.state = .wait := congrArg (·.state) hm
    have hack : (s.step bus).main.ackRefreshRequest = true := congrArg (·.ackRefreshRequest) hm
    have hcount : (s.step bus).main.count = 3 := congrArg (·.count) hm
    rw [rank_closed hs (congrArg (·.next) hm), hack, hcount, rank_refreshing h.state]
    decide

/-! ## Runs -/

section Runs

variable {bus : Nat → SdramBus} {c₀ : SdramChip}
  {mem : BitVec 2 × BitVec 13 × BitVec 10 → BitVec 16}

theorem length_pend (s : Sdram) : s.pend.length ≤ 3 := by
  have hheld : s.main.held.length ≤ 1 := by
    rw [SdramMain.held]
    split_ifs <;> simp
  have hqueue := InputEfifo.length_queue s.fifo
  rw [pend, List.length_append]
  omega

/-- Once the chip is awake, what is taken is with it in time. -/
theorem issued_within (s : Sdram) (bus : Nat → SdramBus) (t : Nat) :
    log (s.accepted bus) (t + 10017)
      <+: log (fun u => (s.fromReset bus u).issuing.toList) (t + 10017 + 19 * 3) := by
  refine log_within (fun u => (s.fromReset bus u).rank) (a := 10017) rfl
    (fun u => pend_step (fresh_run s bus u) (bus u)) (fun u hu hpend => ?_)
    (fun u _ => rank_lt _) (Nat.le_add_left ..) (length_pend _)
  have hdone := initDone_run s bus hu
  have hsound := fresh_run s bus u
  cases hissue : (s.fromReset bus u).issuing with
  | none => exact Or.inr (rank_step (hsound.awake hdone) hdone hsound.kept hpend hissue)
  | some r => exact Or.inl (List.cons_ne_nil _ _)

/-- **Every read is answered in time**: 62 clocks after it is taken, at the most, its answer
has been handed over, whatever else is asked and however the refreshes fall. -/
theorem run_served (s : Sdram) (hrest : c₀.rest ≤ 10000) (hrecovery : c₀.recovery ≤ 10000)
    (hdrives : Dram.Drives setup c₀ (s.told bus) (s.shown bus) mem fun u => (bus u).zsDq)
    (t : Nat) :
    Dram.answers (mem ∘ SdramRequest.cell)
        ((log (s.accepted bus) (t + 10017)).map SdramRequest.access)
      <+: log (s.delivered bus) (t + 10017 + 62) := by
  rw [show t + 10017 + 62 = t + 10017 + 19 * 3 + 5 by omega,
    log_delivered s hrest hrecovery hdrives]
  exact Dram.answers_prefix _ ((issued_within s bus t).map _)

theorem readBack_served : [0xBE34#16] <+: log (switchedOn.delivered readBack) (3 + 10017 + 62) := by
  have hserved := run_served switchedOn (Nat.le_refl 10000) (Nat.zero_le _) readBack_drives 3
  rwa [readBack_answers (by decide)] at hserved

end Runs

end Sdram

end SpaceInvaders
