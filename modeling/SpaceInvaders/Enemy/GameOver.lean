import SpaceInvaders.Enemy.Kills
import SpaceInvaders.Enemy.Refine
import SpaceInvaders.Game.Fsm

/-!
# Whether the end of the game is signalled

A game is decided when the formation has entered `LOST`, or when every drawer
has been taken to `FINISHED` by a hit since the last `INIT` frame. The source
keeps three notes of it (`delete_enemies_temp`, `delete_enemies_temp2`, the
counter), and reports none of them: `finished` is `delete_enemies`, and no process
drives that net.

So `finished` is low throughout, and `signalsGameOver_iff` says what is left of
the report: it is right precisely in the states in which there is nothing to
report, or not for long enough. `lost_not_signalled` is the case of a lost game,
`never_gameOver` what `gameFSM` makes of it.
-/

namespace SpaceInvaders

open Clocked (Edge run run_succ countIn)

namespace EnemyArray

variable (s₀ : EnemyArray) (ev : Nat → Edge ArrayIn)

/-- Edge `u` takes drawer `k` to `FINISHED` by a hit. -/
def KilledAt (k : Inst) (u : Nat) : Prop :=
  ∃ i, ev u = .fast i ∧ (run step s₀ ev u).Kills i k

/-- Edge `u` is a `frame_clk` edge that finds the formation in `INIT`. -/
def InitFrame (u : Nat) : Prop :=
  ev u = .slow ∧ (run step s₀ ev u).formation.state = .init

/-- Drawer `k` has been killed since the last `INIT` frame. -/
def KilledSince (k : Inst) (t : Nat) : Prop :=
  ∃ u, u < t ∧ KilledAt s₀ ev k u ∧ ∀ v, u < v → v < t → ¬ InitFrame s₀ ev v

/-- The game is lost or won. -/
def DecidedAt (t : Nat) : Prop :=
  (run step s₀ ev t).formation.state = .lost ∨ ∀ k, KilledSince s₀ ev k t

/-- The game has been decided for more than two edges of each clock. -/
def LongDecided (t : Nat) : Prop :=
  ∃ u, u ≤ t ∧ (∀ v, u ≤ v → v ≤ t → DecidedAt s₀ ev v) ∧
    2 < countIn (fun v => (ev v).isFast) u t ∧
    2 < countIn (fun v => (ev v).isSlow) u t

/-- A game decided for long is signalled, an undecided one is not. -/
def SignalsGameOver (t : Nat) : Prop :=
  (LongDecided s₀ ev t → (run step s₀ ev t).finished = true) ∧
    ((run step s₀ ev t).finished = true → DecidedAt s₀ ev t)

variable {s₀ ev}

/-- The undriven net reads low. -/
theorem finished_low (s : EnemyArray) : s.finished = false := rfl

theorem not_signals_of_longDecided {t : Nat} (h : LongDecided s₀ ev t) :
    ¬ SignalsGameOver s₀ ev t := by
  intro hs
  have hfin := hs.1 h
  rw [finished_low] at hfin
  cases hfin

/-- **When the end of the game is signalled.** -/
theorem signalsGameOver_iff (t : Nat) :
    SignalsGameOver s₀ ev t ↔ ¬ LongDecided s₀ ev t := by
  refine ⟨fun hs hlong => not_signals_of_longDecided hlong hs, ?_⟩
  intro h
  refine ⟨fun hlong => absurd hlong h, ?_⟩
  intro hfin
  rw [finished_low] at hfin
  cases hfin

/-! ## A lost game -/

/-- A game once lost stays lost. -/
theorem lost_of_le (hp : s₀.PowerUp) {a t : Nat} (hat : a ≤ t)
    (h : (run step s₀ ev a).formation.state = .lost) :
    (run step s₀ ev t).formation.state = .lost := by
  rw [formation_run] at h ⊢
  refine Formation.lost_of_le (fun hlost => ?_) hat h
  exact absurd (hp.state.symm.trans hlost) (by simp)

/-- A game lost more than two edges of each clock ago is never signalled. -/
theorem lost_not_signalled (hp : s₀.PowerUp) {a t : Nat} (hat : a ≤ t)
    (h : (run step s₀ ev a).formation.state = .lost)
    (hfast : 2 < countIn (fun v => (ev v).isFast) a t)
    (hslow : 2 < countIn (fun v => (ev v).isSlow) a t) :
    ¬ SignalsGameOver s₀ ev t := by
  apply not_signals_of_longDecided
  exact ⟨a, hat, fun v hav _ => Or.inl (lost_of_le hp hav h), hfast, hslow⟩

/-- Wired to `enemy_array`, `gameFSM` never leaves for `GAME_OVER`. -/
theorem never_gameOver (s : Nat → EnemyArray) {inp : Nat → FsmIn}
    (hwired : ∀ t, (inp t).finished = (s t).finished) (t : Nat) :
    (run GameFSM.clk GameFSM.powerUp inp t).state ≠ .gameOver := by
  have hboth : (run GameFSM.clk GameFSM.powerUp inp t).state ≠ .gameOver ∧
      (run GameFSM.clk GameFSM.powerUp inp t).nextState ≠ .gameOver := by
    induction t with
    | zero => simp [GameFSM.powerUp]
    | succ t ih =>
      obtain ⟨hstate, hnext⟩ := ih
      rw [run_succ]
      refine ⟨hnext, ?_⟩
      intro hdecided
      rcases GameFSM.decideNext_gameOver hdecided with hs | ⟨_, hfin⟩
      · exact hstate hs
      · rw [hwired t, finished_low] at hfin
        cases hfin
  exact hboth.1

/-! ## A won game -/

/-- The instances in the order of the source. -/
def insts : List Inst :=
  [Row.ee, Row.em, Row.eh].flatMap fun r => (List.finRange 7).map fun c => (r, c)

/-- A start, a scan that finds one invader per clock while the formation moves
left under it, one hit, and three edges of each clock. -/
def sweep : Nat → Edge ArrayIn :=
  Clocked.script
    ([.fast { ArrayIn.low with start := true }, .slow] ++
      (insts.zipIdx.map fun (k, n) =>
        .fast { ArrayIn.low with
          drawX := k.initialX - BitVec.ofNat 10 n
          drawY := k.initialY }) ++
      [.fast .low, .fast { ArrayIn.low with hit := true },
        .fast .low, .slow, .fast .low, .slow, .fast .low, .slow])
    (.fast .low)

/-- All twenty-one are killed by the hit at edge 24. -/
theorem sweep_killedAt : ∀ k, KilledAt powerUp sweep k 24 := by
  have hkills : ∀ k, (run step powerUp sweep 24).Kills
      { ArrayIn.low with hit := true } k := by decide +kernel
  exact fun k => ⟨_, rfl, hkills k⟩

/-- All invaders dead, and no word of it. -/
theorem sweep_not_signalled : ¬ SignalsGameOver powerUp sweep 31 := by
  intro h
  have hplaying : ∀ v, v < 31 → 24 < v →
      (run step powerUp sweep v).formation.state ≠ .init := by decide +kernel
  have hlong : LongDecided powerUp sweep 31 := by
    refine ⟨25, by omega, fun v hv hvt => Or.inr fun k => ?_, by decide, by decide⟩
    exact ⟨24, by omega, sweep_killedAt k,
      fun w hw hwv hinit => hplaying w (by omega) hw hinit.2⟩
  exact absurd (h.1 hlong) (by decide)

end EnemyArray

end SpaceInvaders
