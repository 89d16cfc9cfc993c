import Mathlib.Tactic.IntervalCases
import SpaceInvaders.Sdram.Serving

/-!
# Every run from a reset

After a reset the main FSM hands the commands of the other one through: nothing for 10000
clocks, then in sixteen clocks a precharge, two refreshes and the mode (`Waking`). From then
on it is in one of its phases. Together with what holds of the queue this is `Sound`, which
every edge keeps (`sound_turn`); so in every run from a reset the chip is only ever told what
it may be told (`legal_run`).
-/

namespace SpaceInvaders

namespace Sdram

variable {s : Sdram} {bus : SdramBus} {c : SdramChip} {k : Nat}

/-! ## Asleep -/

/-- The FSM that wakes the chip, `k` clocks after its countdown. -/
def sequence : Nat → SdramInit
  | 0 => ⟨.precharge, .countdown, 0xF, BitVec.allOnes 13, 0, 0⟩
  | k + 1 => (sequence k).step false

/-- The command that it has ready at clock `k`. -/
def wakeCommand : Nat → SdramCommand
  | 1 => .precharge
  | 3 => .refresh
  | 7 => .refresh
  | 11 => .mode
  | _ => .idle

/-- The clocks the chip must still be left alone at clock `k`. -/
def restAt (k : Nat) : Nat := [0, 0, 1, 0, 3, 2, 1, 0, 3, 2, 1, 0, 4, 3, 2, 1, 0].getD k 0

/-- The main FSM as long as the chip is not awake. -/
structure Asleep (s : Sdram) : Prop where
  done : s.initDone = false
  state : s.main.state = .idle
  pop : s.main.fPop = false
  ack : s.main.ackRefreshRequest = false
  request : s.refreshRequest = false
  calm : Calm 2 s

/-- During the countdown. -/
structure Counting (s : Sdram) (c : SdramChip) : Prop extends Asleep s where
  init : s.init.state = .countdown
  next : s.init.next = .countdown
  count : s.init.count = 0
  cmd : s.init.cmd = 0xF
  rest : c.rest ≤ s.refreshCounter.toNat
  recovery : c.recovery ≤ s.refreshCounter.toNat

/-- After the countdown. -/
structure Waking (k : Nat) (s : Sdram) (c : SdramChip) : Prop extends Asleep s where
  le : k ≤ 15
  init : s.init = sequence k
  rest : c.rest ≤ restAt k
  recovery : c.recovery = 0
  shut : 2 ≤ k → c.Shut
  once : 4 ≤ k → 1 ≤ c.refreshes
  twice : 8 ≤ k → 2 ≤ c.refreshes
  ready : 12 ≤ k → c.ready = true

/-- What the main FSM hands through. -/
def through (s : Sdram) : SdramMain :=
  { s.base with addr := s.init.addr, state := .idle, next := .idle, cmd := s.init.cmd }

theorem Asleep.mainStep (h : Asleep s) : s.mainStep = s.through := by
  rw [Sdram.mainStep, h.state]
  show s.mainIdle = _
  rw [mainIdle, h.done]
  rfl

theorem Asleep.issuing (h : Asleep s) : s.issuing = none :=
  issuing_none (by simp [h.state]) (by simp [h.state])

theorem Asleep.fSelect (h : Asleep s) : s.fSelect = false := fSelect_of_fPop h.pop

/-- No refresh is called for while the chip is asleep. -/
theorem Asleep.step_request (h : Asleep s) : (s.step bus).refreshRequest = false := by
  show (_ && s.initDone) = false
  rw [h.done, Bool.and_false]

theorem Asleep.step_ack (h : Asleep s) : (s.step bus).main.ackRefreshRequest = false := by
  rw [step_main, h.mainStep]
  exact h.ack

theorem Asleep.step (h : Asleep s) (hdone : s.init.state ≠ .done)
    (hquiet : (s.step bus).rdStrobe = false) : Asleep (s.step bus) where
  done := by
    show (s.initDone || s.init.state == .done) = false
    rw [h.done, Bool.false_or]
    exact beq_eq_false_iff_ne.mpr hdone
  state := by
    rw [step_main, h.mainStep]
    rfl
  pop := by
    rw [step_main, h.mainStep]
    rfl
  ack := h.step_ack
  request := h.step_request
  calm := (h.calm.step hquiet).mono (by omega)

/-! ## Soundness -/

/-- Where the controller is. -/
inductive Stage (s : Sdram) (c : SdramChip) : Prop where
  | counting (h : Counting s c)
  | waking (k : Nat) (h : Waking k s c)
  | awake (done : s.initDone = true) (ready : c.ready = true) (phase : Phase s c)

/-- What every edge keeps. -/
structure Sound (s : Sdram) (c : SdramChip) : Prop where
  kept : s.fifo.Kept
  clear : ∀ r ∈ s.fifo.queue, r.Clear
  stage : Stage s c

/-- What an edge does to the chip, at any stage. -/
structure Turn (s : Sdram) (bus : SdramBus) (c : SdramChip) : Prop where
  legal : c.Legal setup (s.step bus).pins
  access : c.access (s.step bus).pins = s.issuing.map SdramRequest.chipAccess
  strobe : (s.step bus).rdStrobe = s.issuing.any (·.rnw)
  stage : Stage (s.step bus) (tell c (s.step bus).pins)

/-- An edge with nothing on its way to the chip. -/
theorem Turn.of_quiet {cmd : SdramCommand} (hpins : (s.step bus).pins = cmd)
    (hlegal : c.Legal setup cmd) (haccess : c.access cmd = none) (hissue : s.issuing = none)
    (hquiet : (s.step bus).rdStrobe = false) (hstage : Stage (s.step bus) (tell c cmd)) :
    Turn s bus c := by
  subst hpins
  exact ⟨hlegal, by rw [haccess, hissue]; rfl, by rw [hquiet, hissue]; rfl, hstage⟩

theorem Counting.turn (h : Counting s c) : Turn s bus c := by
  have hcmd : s.mainStep.cmd = sdramCmd true 7 := by
    rw [h.mainStep]
    exact h.cmd
  have hquiet : (s.step bus).rdStrobe = false := (rdStrobe_of_cmd hcmd).trans rfl
  have hinit : (s.step bus).init = { s.init with
      addr := BitVec.allOnes 13
      cmd := 0xF
      refs := 0
      state := if (s.refreshCounter == 0) = true then .precharge else .countdown } := by
    show s.init.step _ = _
    rw [SdramInit.step, h.init]
  have hasleep : Asleep (s.step bus) := h.toAsleep.step (by simp [h.init]) hquiet
  have hcounter : (s.step bus).refreshCounter
      = if s.refreshCounter = 0 then 781 else s.refreshCounter - 1 := rfl
  have hrest := h.rest
  have hrecovery := h.recovery
  refine .of_quiet (SdramMain.pins_nop hcmd) trivial rfl h.issuing hquiet ?_
  by_cases hzero : s.refreshCounter = 0
  · have hnil : s.refreshCounter.toNat = 0 := by rw [hzero]; rfl
    have hbeq : (s.refreshCounter == 0) = true := beq_iff_eq.mpr hzero
    refine .waking 0 ⟨hasleep, Nat.zero_le _, ?_, ?_, ?_, fun h => ?_, fun h => ?_, fun h => ?_,
      fun h => ?_⟩
    · rw [hinit, hbeq]
      show (⟨.precharge, s.init.next, 0xF, BitVec.allOnes 13, s.init.count, 0⟩ : SdramInit) = _
      rw [h.next, h.count]
      rfl
    · show c.rest - 1 ≤ 0
      omega
    · show c.recovery - 1 = 0
      omega
    all_goals exact absurd h (by decide)
  · have hbeq : (s.refreshCounter == 0) = false := beq_eq_false_iff_ne.mpr hzero
    have hpred : (s.step bus).refreshCounter.toNat = s.refreshCounter.toNat - 1 := by
      rw [hcounter, if_neg hzero]
      bv_omega
    refine .counting ⟨hasleep, ?_, ?_, ?_, ?_, ?_, ?_⟩
    · rw [hinit, hbeq]
      rfl
    · rw [hinit]
      exact h.next
    · rw [hinit]
      exact h.count
    · rw [hinit]
    · rw [hpred]
      exact Nat.sub_le_sub_right hrest 1
    · rw [hpred]
      exact Nat.sub_le_sub_right hrecovery 1

/-- At the clocks but these four the command is a NOP. -/
theorem sequence_nop (hk : k ≤ 15) (h1 : k ≠ 1) (h3 : k ≠ 3) (h7 : k ≠ 7) (h11 : k ≠ 11) :
    wakeCommand k = .idle ∧ ∃ csN, (sequence k).cmd = sdramCmd csN 7 := by
  interval_cases k <;> first
    | contradiction
    | exact ⟨rfl, false, rfl⟩
    | exact ⟨rfl, true, rfl⟩

/-- The commands of the sixteen clocks, as they go out. -/
theorem through_pins (hk : k ≤ 15) (hinit : s.init = sequence k) :
    s.through.pins = wakeCommand k := by
  have hcmd : s.through.cmd = (sequence k).cmd := congrArg (·.cmd) hinit
  have haddr : s.through.addr = (sequence k).addr := congrArg (·.addr) hinit
  by_cases h1 : k = 1
  · subst h1
    exact SdramMain.pins_precharge hcmd haddr
  by_cases h3 : k = 3
  · subst h3
    exact SdramMain.pins_refresh hcmd
  by_cases h7 : k = 7
  · subst h7
    exact SdramMain.pins_refresh hcmd
  by_cases h11 : k = 11
  · subst h11
    exact SdramMain.pins_mode hcmd haddr
  obtain ⟨hidle, csN, hnop⟩ := sequence_nop hk h1 h3 h7 h11
  rw [hidle]
  exact SdramMain.pins_nop (hcmd.trans hnop)

theorem through_quiet (hk : k ≤ 15) (hinit : s.init = sequence k) :
    (s.through.cmd.extractLsb' 0 3 == 5) = false := by
  have hcmd : s.through.cmd = (sequence k).cmd := congrArg (·.cmd) hinit
  rw [hcmd]
  interval_cases k <;> rfl

theorem sequence_state (hk : k < 15) :
    (sequence k).state ≠ .countdown ∧ (sequence k).state ≠ .done := by
  interval_cases k <;> decide

theorem sequence_step (hk : k ≤ 15) (zero : Bool) : (sequence k).step zero = sequence (k + 1) := by
  interval_cases k <;> cases zero <;> rfl

/-- What the chip may be told at these clocks, and what it is then. -/
theorem Waking.tell (h : Waking k s c) : c.Legal setup (wakeCommand k) ∧
    (tell c (wakeCommand k)).rest ≤ restAt (k + 1) ∧ (tell c (wakeCommand k)).recovery = 0 ∧
    (1 ≤ k → (tell c (wakeCommand k)).Shut) ∧
    (3 ≤ k → 1 ≤ (tell c (wakeCommand k)).refreshes) ∧
    (7 ≤ k → 2 ≤ (tell c (wakeCommand k)).refreshes) ∧
    (11 ≤ k → (tell c (wakeCommand k)).ready = true) := by
  have hle := h.le
  have hrest := h.rest
  have hrecovery : c.recovery - 1 = 0 := congrArg (· - 1) h.recovery
  by_cases h1 : k = 1
  · subst h1
    exact ⟨⟨Nat.le_zero.mp hrest, h.recovery⟩, Nat.le_refl 1, hrecovery, fun _ _ => rfl,
      fun hk => absurd hk (by decide), fun hk => absurd hk (by decide),
      fun hk => absurd hk (by decide)⟩
  by_cases h3 : k = 3
  · subst h3
    exact ⟨⟨Nat.le_zero.mp hrest, h.shut (by decide)⟩, Nat.le_refl 3, hrecovery,
      fun _ => h.shut (by decide), fun _ => Nat.le_add_left 1 _, fun hk => absurd hk (by decide),
      fun hk => absurd hk (by decide)⟩
  by_cases h7 : k = 7
  · subst h7
    exact ⟨⟨Nat.le_zero.mp hrest, h.shut (by decide)⟩, Nat.le_refl 3, hrecovery,
      fun _ => h.shut (by decide), fun _ => Nat.le_add_left 1 _,
      fun _ => Nat.succ_le_succ (h.once (by decide)), fun hk => absurd hk (by decide)⟩
  by_cases h11 : k = 11
  · subst h11
    exact ⟨⟨Nat.le_zero.mp hrest, h.shut (by decide), h.twice (by decide)⟩, Nat.le_refl 4,
      hrecovery, fun _ => h.shut (by decide), fun _ => h.once (by decide),
      fun _ => h.twice (by decide), fun _ => rfl⟩
  rw [(sequence_nop hle h1 h3 h7 h11).1]
  refine ⟨trivial, ?_, hrecovery, fun hk => h.shut (by omega), fun hk => h.once (by omega),
    fun hk => h.twice (by omega), fun hk => h.ready (by omega)⟩
  show c.rest - 1 ≤ restAt (k + 1)
  refine (Nat.sub_le_sub_right hrest 1).trans ?_
  clear h hrest
  interval_cases k <;> first | contradiction | decide

theorem Waking.turn (h : Waking k s c) : Turn s bus c := by
  have hle := h.le
  have hpins : (s.step bus).pins = wakeCommand k :=
    (congrArg SdramMain.pins h.mainStep).trans (through_pins hle h.init)
  have hquiet : (s.step bus).rdStrobe = false := by
    rw [rdStrobe, step_main, h.mainStep]
    exact through_quiet hle h.init
  have hinit : (s.step bus).init = sequence (k + 1) := by
    show s.init.step _ = _
    rw [h.init]
    exact sequence_step hle _
  obtain ⟨hlegal, hrest, hrecovery, hshut, honce, htwice, hready⟩ := h.tell
  have haccess : c.access (wakeCommand k) = none := by
    unfold wakeCommand
    split <;> rfl
  refine .of_quiet hpins hlegal haccess h.issuing hquiet ?_
  by_cases hlast : k = 15
  · have hdone : (s.step bus).initDone = true := by
      show (s.initDone || s.init.state == .done) = true
      rw [h.init, hlast, Bool.or_eq_true]
      exact Or.inr rfl
    refine .awake hdone (hready (by omega)) (.idle ⟨?_, ?_, hshut (by omega), ?_, hrecovery,
      (h.calm.step hquiet).mono (by omega), fun hack => ?_⟩)
    · rw [step_main, h.mainStep]
      rfl
    · rw [step_main, h.mainStep]
      rfl
    · subst hlast
      exact Nat.le_zero.mp hrest
    · rw [h.step_ack] at hack
      cases hack
  · have hstate := (sequence_state (show k < 15 by omega)).2
    exact .waking (k + 1) ⟨h.toAsleep.step (h.init ▸ hstate) hquiet, by omega, hinit, hrest,
      hrecovery, fun hk => hshut (by omega), fun hk => honce (by omega),
      fun hk => htwice (by omega), fun hk => hready (by omega)⟩

/-- **Every edge of a sound controller** is in order, and leaves it sound. -/
theorem sound_turn (h : Sound s c) : Turn s bus c := by
  cases h.stage with
  | counting h => exact h.turn
  | waking k h => exact h.turn
  | awake hdone hready hphase =>
    have hgoes : Goes s bus c := phase_goes hphase hdone hready h.kept h.clear
    refine ⟨hgoes.legal, hgoes.access, hgoes.strobe, .awake ?_ ?_ hgoes.phase⟩
    · show (s.initDone || _) = true
      rw [hdone, Bool.true_or]
    · exact Dram.Chip.ready_step setup hready _

theorem sound_step (h : Sound s c) : Sound (s.step bus) (tell c (s.step bus).pins) where
  kept := kept_fifo h.kept
  clear r hr := by
    have hmem : r ∈ s.fifo.queue ++ s.taking bus := by
      rw [queue_fifo h.kept bus]
      exact List.mem_append_right _ hr
    rcases List.mem_append.mp hmem with hold | hnew
    · exact h.clear r hold
    · rw [taking] at hnew
      split_ifs at hnew
      · rw [List.mem_singleton.mp hnew]
        exact SdramRequest.clear_request bus
      · cases hnew
  stage := (sound_turn h).stage

/-- A reset, and a chip that can be left alone for the countdown. -/
theorem sound_reset (s : Sdram) (hrest : c.rest ≤ 10000) (hrecovery : c.recovery ≤ 10000) :
    Sound s.reset (tell c s.reset.pins) where
  kept := InputEfifo.kept_reset _
  clear r hr := by cases hr
  stage := by
    have hpins : s.reset.pins = .idle := SdramMain.pins_nop (n := true) rfl
    have hquiet : s.reset.rdStrobe = false :=
      show ((0xF#4).extractLsb' 0 3 == 5#3) = false by decide
    rw [hpins]
    have hcalm : Calm 2 s.reset :=
      ⟨fun _ => hquiet, fun _ => BitVec.getLsbD_zero, fun _ => BitVec.getLsbD_zero⟩
    exact .counting ⟨⟨rfl, rfl, rfl, rfl, rfl, hcalm⟩, rfl, rfl, rfl, rfl,
      (Nat.sub_le ..).trans hrest, (Nat.sub_le ..).trans hrecovery⟩

/-! ## Runs -/

section Runs

variable {bus : Nat → SdramBus} {c₀ : SdramChip}

/-- The controller from a reset on. -/
def fromReset (s : Sdram) (bus : Nat → SdramBus) (t : Nat) : Sdram :=
  Clocked.run step s.reset bus t

theorem fromReset_succ (s : Sdram) (bus : Nat → SdramBus) (t : Nat) :
    s.fromReset bus (t + 1) = (s.fromReset bus t).step (bus t) := rfl

/-- The commands it puts out. -/
def told (s : Sdram) (bus : Nat → SdramBus) (t : Nat) : SdramCommand := (s.fromReset bus t).pins

/-- The controller is sound throughout, with the chip as it is after the command of the
clock. -/
theorem sound_run (s : Sdram) (bus : Nat → SdramBus) (hrest : c₀.rest ≤ 10000)
    (hrecovery : c₀.recovery ≤ 10000) (t : Nat) :
    Sound (s.fromReset bus t) (Dram.chipAt setup c₀ (s.told bus) (t + 1)) := by
  induction t with
  | zero => exact sound_reset s hrest hrecovery
  | succ t ih => exact sound_step ih

/-- A chip just switched on, as far as the controller can know. -/
def freshChip : SdramChip := ⟨fun _ => none, false, 0, 10000, 0⟩

theorem fresh_run (s : Sdram) (bus : Nat → SdramBus) (t : Nat) :
    Sound (s.fromReset bus t) (Dram.chipAt setup freshChip (s.told bus) (t + 1)) :=
  sound_run s bus (Nat.le_refl _) (Nat.zero_le _) t

theorem legal_run (s : Sdram) (bus : Nat → SdramBus) (hrest : c₀.rest ≤ 10000)
    (hrecovery : c₀.recovery ≤ 10000) (t : Nat) :
    (Dram.chipAt setup c₀ (s.told bus) t).Legal setup (s.told bus t) := by
  cases t with
  | zero =>
    have hidle : s.told bus 0 = .idle := SdramMain.pins_nop (m := s.reset.main) (n := true) rfl
    rw [hidle]
    trivial
  | succ t => exact (sound_turn (sound_run s bus hrest hrecovery t)).legal

end Runs

end Sdram

end SpaceInvaders
