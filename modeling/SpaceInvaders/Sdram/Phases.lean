import SpaceInvaders.Sdram.Pins

/-!
# The controller and the chip, edge by edge

`Phase` says where the main FSM is once the chip is awake, and what is then true of the
chip: which row is open, how long it must still be left alone. A row is open from the
activation to the next precharge, which is always of all banks, so it is the only one; and
a request is served only while its row is the open one. What one edge does from each phase
is `Goes`: the command it puts out is one the chip may be told, it gets at what the request
asks for, and the next phase holds (`phase_step`).
-/

namespace SpaceInvaders

namespace Sdram

variable {s : Sdram} {bus : SdramBus} {c : SdramChip}

/-! ## What an edge leaves -/

@[simp] theorem step_main : (s.step bus).main = s.mainStep := rfl

theorem step_rdValid_zero : (s.step bus).rdValid.getLsbD 0 = s.rdStrobe := by
  show (s.rdValid <<< 1 ||| (0#2 ++ BitVec.ofBool s.rdStrobe)).getLsbD 0 = _
  rw [BitVec.getLsbD_or, BitVec.getLsbD_shiftLeft, BitVec.getLsbD_append]
  simp

theorem step_rdValid_succ {k : Nat} (hk : k + 1 < 3) :
    (s.step bus).rdValid.getLsbD (k + 1) = s.rdValid.getLsbD k := by
  show (s.rdValid <<< 1 ||| (0#2 ++ BitVec.ofBool s.rdStrobe)).getLsbD (k + 1) = _
  rw [BitVec.getLsbD_or, BitVec.getLsbD_shiftLeft, BitVec.getLsbD_append]
  simp [hk]

/-- No read has gone out at the last `k` edges. -/
structure Calm (k : Nat) (s : Sdram) : Prop where
  strobe : 1 ≤ k → s.rdStrobe = false
  one : 2 ≤ k → s.rdValid.getLsbD 0 = false
  two : 3 ≤ k → s.rdValid.getLsbD 1 = false

theorem Calm.mono {j k : Nat} (h : Calm k s) (hjk : j ≤ k) : Calm j s :=
  ⟨fun hj => h.strobe (hj.trans hjk), fun hj => h.one (hj.trans hjk),
    fun hj => h.two (hj.trans hjk)⟩

theorem Calm.step {k : Nat} (h : Calm k s) (hquiet : (s.step bus).rdStrobe = false) :
    Calm (k + 1) (s.step bus) where
  strobe _ := hquiet
  one hk := step_rdValid_zero.trans (h.strobe (by omega))
  two hk := (step_rdValid_succ (by omega)).trans (h.one (by omega))

theorem calm_zero (s : Sdram) : Calm 0 s := ⟨by omega, by omega, by omega⟩

/-- A refresh is called for and will be until it is given. -/
structure Called (s : Sdram) : Prop where
  request : s.refreshRequest = true
  ack : s.main.ackRefreshRequest = false

theorem Called.step (h : Called s) (hdone : s.initDone = true)
    (hack : s.mainStep.ackRefreshRequest = false) : Called (s.step bus) := by
  refine ⟨?_, hack⟩
  show ((_ || s.refreshRequest) && !s.main.ackRefreshRequest && s.initDone) = true
  rw [h.request, h.ack, hdone, Bool.or_true]
  rfl

theorem fEmpty_of_fSelect (h : s.fSelect = true) : s.fifo.empty = false := by
  rw [fSelect, pending, fEmpty, Bool.and_eq_true, Bool.and_eq_true, Bool.not_eq_true'] at h
  exact h.2.2

theorem full_of_accepts (h : s.accepts bus = true) : s.fifo.full = false := by
  rw [accepts, zaWaitrequest, Bool.and_eq_true, Bool.not_eq_true'] at h
  exact h.2

theorem fSelect_of_fPop (h : s.main.fPop = false) : s.fSelect = false := by
  rw [fSelect, h, Bool.false_and]

theorem csN_of_active (h : s.main.activeCsN = false) : s.csN = false := by
  rw [csN, h, ite_self]

theorem kept_fifo (h : s.fifo.Kept) : (s.step bus).fifo.Kept :=
  InputEfifo.kept_step h fEmpty_of_fSelect full_of_accepts _

theorem queue_fifo (h : s.fifo.Kept) (bus : SdramBus) : s.fifo.queue ++ s.taking bus
    = (if s.fSelect then [s.front] else []) ++ (s.step bus).fifo.queue :=
  InputEfifo.queue_step h fEmpty_of_fSelect full_of_accepts _

/-- The request at the front stays there until it is popped. -/
theorem front_step (h : s.fifo.Kept) (bus : SdramBus) (hsel : s.fSelect = false)
    (hne : s.fEmpty = false) :
    (s.step bus).front = s.front ∧ (s.step bus).fEmpty = false := by
  have hqueue := queue_fifo h bus
  obtain ⟨l, hl⟩ := InputEfifo.queue_of_not_empty hne
  rw [hl, hsel, if_neg Bool.false_ne_true, List.nil_append, List.cons_append] at hqueue
  cases he : (s.step bus).fifo.empty with
  | true =>
    rw [InputEfifo.queue_of_empty he] at hqueue
    cases hqueue
  | false =>
    obtain ⟨l', hl'⟩ := InputEfifo.queue_of_not_empty he
    rw [hl'] at hqueue
    injection hqueue with hfront
    exact ⟨hfront.symm, he⟩

theorem matching_iff : s.matching = true ↔ s.main.activeCsN = false ∧
    s.main.active.rnw = s.front.rnw ∧ s.main.active.bank = s.front.bank ∧
      s.main.active.row = s.front.row := by
  simp only [matching, Bool.and_eq_true, beq_iff_eq, and_assoc]

/-- What has just been taken from the front is pending. -/
theorem pending_of_taken (h : s.fifo.Kept) (hsel : s.fSelect = false)
    (hne : s.fEmpty = false) (hcs : s.mainStep.activeCsN = false)
    (htaken : s.mainStep.active = s.front) : (s.step bus).pending = true := by
  obtain ⟨hfront, hne'⟩ := front_step h bus hsel hne
  have hmatch : (s.step bus).matching = true := by
    rw [matching_iff, step_main, hfront, htaken]
    exact ⟨hcs, rfl, rfl, rfl⟩
  rw [pending, hmatch, hne']
  rfl

theorem rdStrobe_of_cmd {csN : Bool} {code : BitVec 3} (h : s.mainStep.cmd = sdramCmd csN code) :
    (s.step bus).rdStrobe = (code == 5) := by
  rw [rdStrobe, step_main, h, sdramCmd]
  congr 1
  exact BitVec.extractLsb'_append_eq_right

/-! ## Phases -/

/-- The chip has the active request's row open, and only that. -/
structure Opened (s : Sdram) (c : SdramChip) : Prop where
  ack : s.main.ackRefreshRequest = false
  csN : s.main.activeCsN = false
  row : c.Open s.main.active.bank s.main.active.row
  clear : s.main.active.Clear

/-- Nothing to do: all rows are closed. -/
structure Idle (s : Sdram) (c : SdramChip) : Prop where
  state : s.main.state = .idle
  pop : s.main.fPop = false
  shut : c.Shut
  rest : c.rest = 0
  recovery : c.recovery = 0
  calm : Calm 2 s
  acked : s.main.ackRefreshRequest = true → s.refreshRequest = false

/-- Called back to give a refresh; a row may still be open. -/
structure Recalled (s : Sdram) (c : SdramChip) : Prop where
  state : s.main.state = .idle
  pop : s.main.fPop = false
  called : Called s
  rest : c.rest = 0
  recovery : c.recovery ≤ 1
  calm : Calm 2 s

/-- A request has been picked, which is still at the front. -/
structure Activating (s : Sdram) (c : SdramChip) : Prop where
  state : s.main.state = .activate
  pop : s.main.fPop = true
  picked : s.main.active = s.front
  pending : s.pending = true
  ack : s.main.ackRefreshRequest = false
  clear : s.main.active.Clear
  shut : c.Shut
  rest : c.rest = 0
  recovery : c.recovery = 0
  calm : Calm 3 s

/-- Its row is being opened. -/
structure Opening (s : Sdram) (c : SdramChip) : Prop where
  state : s.main.state = .wait
  next : s.main.next = accessState s.main.active
  count : s.main.count = 1
  pop : s.main.fPop = false
  opened : Opened s c
  rest : c.rest ≤ 1
  recovery : c.recovery = 0
  calm : Calm 3 s

/-- What the open row has been used for. -/
structure Used (s : Sdram) (c : SdramChip) : Prop where
  opened : Opened s c
  rest : c.rest = 0
  recovery : c.recovery ≤ 2
  calm : s.main.active.rnw = false → Calm 3 s
  mask : s.rdStrobe = true → s.main.dqm = 0

/-- Requests of one row and one kind are being served. -/
structure Serving (s : Sdram) (c : SdramChip) : Prop extends Used s c where
  state : s.main.state = accessState s.main.active

/-- The row stays open for more of the kind. -/
structure Holding (s : Sdram) (c : SdramChip) : Prop extends Used s c where
  state : s.main.state = .hold
  pop : s.main.fPop = false

/-- The row is to be closed for a request that it does not fit. -/
structure Recovering (s : Sdram) (c : SdramChip) : Prop where
  state : s.main.state = .recover
  next : s.main.next = .idle
  count : s.main.count = 1
  pop : s.main.fPop = false
  ack : s.main.ackRefreshRequest = false
  csN : s.main.activeCsN = false
  rest : c.rest = 0
  recovery : c.recovery ≤ 1
  calm : Calm 1 s

structure Closing (s : Sdram) (c : SdramChip) : Prop where
  state : s.main.state = .precharge
  next : s.main.next = .idle
  count : s.main.count = 0
  pop : s.main.fPop = false
  ack : s.main.ackRefreshRequest = false
  csN : s.main.activeCsN = false
  rest : c.rest = 0
  recovery : c.recovery = 0
  calm : Calm 2 s

/-- All rows are closed, or the chip is refreshed. -/
structure Closed (s : Sdram) (c : SdramChip) : Prop where
  state : s.main.state = .wait
  next : s.main.next = .idle
  pop : s.main.fPop = false
  shut : c.Shut
  rest : c.rest ≤ max 1 s.main.count.toNat
  recovery : c.recovery = 0
  calm : Calm 1 s
  acked : s.main.ackRefreshRequest = true → s.refreshRequest = false ∨ s.main.count = 3

/-- On the way back to give a refresh, with the row open. -/
structure Bailing (s : Sdram) (c : SdramChip) : Prop where
  state : s.main.state = .wait
  next : s.main.next = .idle
  count : s.main.count = 2 ∨ s.main.count = 1 ∧ Calm 1 s
  pop : s.main.fPop = false
  called : Called s
  rest : c.rest = 0
  recovery : c.recovery ≤ 2
  mask : s.rdStrobe = true → s.main.dqm = 0

/-- All rows are to be closed for a refresh. -/
structure Clearing (s : Sdram) (c : SdramChip) : Prop where
  state : s.main.state = .precharge
  next : s.main.next = .refresh
  count : s.main.count = 0
  pop : s.main.fPop = false
  called : Called s
  rest : c.rest = 0
  recovery : c.recovery = 0
  calm : Calm 2 s

structure Cleared (s : Sdram) (c : SdramChip) : Prop where
  state : s.main.state = .wait
  next : s.main.next = .refresh
  count : s.main.count = 0
  pop : s.main.fPop = false
  called : Called s
  shut : c.Shut
  rest : c.rest ≤ 1
  recovery : c.recovery = 0
  calm : Calm 2 s

structure Refreshing (s : Sdram) (c : SdramChip) : Prop where
  state : s.main.state = .refresh
  pop : s.main.fPop = false
  called : Called s
  shut : c.Shut
  rest : c.rest = 0
  recovery : c.recovery = 0
  calm : Calm 2 s

/-- Where the main FSM is, and the chip with it. -/
inductive Phase (s : Sdram) (c : SdramChip) : Prop where
  | idle (h : Idle s c)
  | recalled (h : Recalled s c)
  | activating (h : Activating s c)
  | opening (h : Opening s c)
  | serving (h : Serving s c)
  | holding (h : Holding s c)
  | recovering (h : Recovering s c)
  | closing (h : Closing s c)
  | closed (h : Closed s c)
  | bailing (h : Bailing s c)
  | clearing (h : Clearing s c)
  | cleared (h : Cleared s c)
  | refreshing (h : Refreshing s c)

/-- The chip after a command. -/
abbrev tell (c : SdramChip) (cmd : SdramCommand) : SdramChip := c.step setup cmd

/-- What an edge does to the chip: a command it may be told, the access that is due, and
the next phase. -/
structure Goes (s : Sdram) (bus : SdramBus) (c : SdramChip) : Prop where
  legal : c.Legal setup (s.step bus).pins
  access : c.access (s.step bus).pins = s.issuing.map SdramRequest.chipAccess
  strobe : (s.step bus).rdStrobe = s.issuing.any (·.rnw)
  phase : Phase (s.step bus) (tell c (s.step bus).pins)

theorem issuing_none (hread : s.main.state ≠ .read) (hwrite : s.main.state ≠ .write) :
    s.issuing = none := if_neg (not_or_intro hread hwrite)

/-- An edge that tells the chip nothing. -/
theorem Goes.of_idle (hpins : (s.step bus).pins = .idle)
    (hstrobe : (s.step bus).rdStrobe = false) (hissue : s.issuing = none)
    (hphase : Phase (s.step bus) (tell c .idle)) : Goes s bus c := by
  refine ⟨?_, ?_, ?_, ?_⟩
  · rw [hpins]
    trivial
  · rw [hpins, hissue]
    rfl
  · rw [hstrobe, hissue]
    rfl
  · rw [hpins]
    exact hphase

end Sdram

end SpaceInvaders
