import SpaceInvaders.Game.Fsm

/-!
# The phase flags are never withdrawn

`start` is assigned in every state, `is_playing` and `is_finished` only where they
are set. Either flag is therefore up exactly when an earlier clock found its state
(`isPlaying_iff`, `isFinished_iff`), and a phase that is left keeps its flag: for
good, over a game lost, over a reset, over the game after.

`flagsExclusive_iff` says when a run does not show it. No game may be lost, since
both flags are up from then on; and after the first clock in `CONT` no three in a
row may be outside it, which the two interleaved walks of the `case` table leave
some room for.
-/

namespace SpaceInvaders

namespace GameFSM

open Clocked (run run_zero run_succ run_inv sticky_iff)

variable (inp : Nat → FsmIn)

/-- Both flags are up after `t` clocks. -/
def BothUp (t : Nat) : Prop :=
  (run clk powerUp inp t).isPlaying = true ∧ (run clk powerUp inp t).isFinished = true

/-- `state` has been outside `s` for three clocks, the last of which is `t + 2`. -/
def Outside (s : GameState) (t : Nat) : Prop :=
  (run clk powerUp inp t).state ≠ s ∧ (run clk powerUp inp (t + 1)).state ≠ s ∧
    (run clk powerUp inp (t + 2)).state ≠ s

/-- The flags name one phase, but for the lag of a register. -/
structure FlagsExclusive : Prop where
  together : ∀ t, ¬ (BothUp inp t ∧ BothUp inp (t + 1) ∧ BothUp inp (t + 2))
  playing : ∀ t, Outside inp .cont t → (run clk powerUp inp (t + 2)).isPlaying = false
  finished : ∀ t, Outside inp .gameOver t → (run clk powerUp inp (t + 2)).isFinished = false

/-- The clock loses a game. -/
def Loses (t : Nat) : Prop :=
  (run clk powerUp inp t).state = .cont ∧ (inp t).finished = true ∧ (inp t).reset = false

/-- The game has been in `CONT` at an earlier clock. -/
def Played (t : Nat) : Prop := ∃ u, u < t ∧ (run clk powerUp inp u).state = .cont

/-- Both walks are outside `CONT`, and the clock does not lead back to it. -/
def StaysOut (t : Nat) : Prop :=
  (run clk powerUp inp t).state ≠ .cont ∧ (run clk powerUp inp t).nextState ≠ .cont ∧
    ¬ ((run clk powerUp inp t).state = .gameStart ∧ (inp t).reset = false)

variable {inp}

/-- Outside `CONT`, the way into it is from `GAME_START`. -/
theorem decideNext_cont_iff {s : GameState} (hs : s ≠ .cont) (i : FsmIn) :
    decideNext s i = .cont ↔ s = .gameStart ∧ i.reset = false := by
  unfold decideNext
  cases hr : i.reset with
  | true => simp
  | false =>
    cases s with
    | beginning => by_cases hk : i.keycode = 0#8 <;> simp [hk]
    | gameStart => simp
    | gameOver => by_cases hk : i.keycode = 44#8 <;> simp [hk]
    | cont => exact absurd rfl hs

theorem isPlaying_iff (t : Nat) :
    (run clk powerUp inp t).isPlaying = true ↔ Played inp t := by
  refine sticky_iff (fun u => (run clk powerUp inp u).isPlaying = true)
    (fun u => (run clk powerUp inp u).state = .cont) ?_ (fun u => ?_) t
  · rw [run_zero]
    decide
  · rw [run_succ]
    exact clk_isPlaying _ _

theorem isFinished_iff (t : Nat) :
    (run clk powerUp inp t).isFinished = true ↔
      ∃ u, u < t ∧ (run clk powerUp inp u).state = .gameOver := by
  refine sticky_iff (fun u => (run clk powerUp inp u).isFinished = true)
    (fun u => (run clk powerUp inp u).state = .gameOver) ?_ (fun u => ?_) t
  · rw [run_zero]
    decide
  · rw [run_succ]
    exact clk_isFinished _ _

/-- A decision reaches `state` two clocks later. -/
theorem state_add_two (t : Nat) : (run clk powerUp inp (t + 2)).state
    = decideNext (run clk powerUp inp t).state (inp t) := by
  rw [run_succ, clk_state, run_succ, clk_nextState]

/-- Once in `CONT`, the game has been played. -/
theorem played_mono {t u : Nat} (htu : t ≤ u) (h : Played inp t) : Played inp u := by
  obtain ⟨v, hv, hs⟩ := h
  exact ⟨v, by omega, hs⟩

/-- **A game lost leaves both flags up.** -/
theorem bothUp_of_loses {t u : Nat} (h : Loses inp t) (htu : t + 3 ≤ u) : BothUp inp u := by
  obtain ⟨hs, hf, hr⟩ := h
  have hover : (run clk powerUp inp (t + 2)).state = .gameOver := by
    rw [state_add_two, hs]
    simp [decideNext, hf, hr]
  exact ⟨(isPlaying_iff u).mpr ⟨t, by omega, hs⟩, (isFinished_iff u).mpr ⟨t + 2, by omega, hover⟩⟩

/-- Where no game is lost, `GAME_OVER` is out of reach. -/
theorem never_gameOver (h : ∀ t, ¬ Loses inp t) (t : Nat) :
    (run clk powerUp inp t).state ≠ .gameOver ∧
      (run clk powerUp inp t).nextState ≠ .gameOver := by
  induction t with
  | zero => exact ⟨by simp [powerUp], by simp [powerUp]⟩
  | succ t ih =>
    rw [run_succ, clk_state, clk_nextState]
    refine ⟨ih.2, fun hover => ?_⟩
    have hr : (inp t).reset = false := by
      cases hr : (inp t).reset with
      | false => rfl
      | true =>
        rw [decideNext_reset hr] at hover
        cases hover
    rcases decideNext_gameOver hover with hs | ⟨hs, hf⟩
    · exact ih.1 hs
    · exact h t ⟨hs, hf, hr⟩

theorem isFinished_low (h : ∀ t, ¬ Loses inp t) (t : Nat) :
    (run clk powerUp inp t).isFinished = false := by
  refine Bool.eq_false_iff.mpr fun hup => ?_
  obtain ⟨u, _, hs⟩ := (isFinished_iff t).mp hup
  exact (never_gameOver h u).1 hs

/-- Three clocks outside `CONT` are one clock that finds both walks outside it and
leaves it so. -/
theorem outside_cont_iff (t : Nat) : Outside inp .cont t ↔ StaysOut inp t := by
  unfold Outside StaysOut
  rw [state_add_two, run_succ, clk_state]
  refine and_congr_right fun hs => and_congr_right fun _ => ?_
  rw [Ne, decideNext_cont_iff hs]

/-- Over three clocks outside `CONT`, `is_playing` says whether it was ever found. -/
theorem isPlaying_of_outside {t : Nat} (h : Outside inp .cont t) :
    (run clk powerUp inp (t + 2)).isPlaying = true ↔ Played inp t := by
  rw [isPlaying_iff]
  refine ⟨fun hplayed => ?_, played_mono (by omega)⟩
  obtain ⟨u, hu, hs⟩ := hplayed
  refine ⟨u, ?_, hs⟩
  have h0 : u ≠ t := fun heq => h.1 (heq ▸ hs)
  have h1 : u ≠ t + 1 := fun heq => h.2.1 (heq ▸ hs)
  omega

/-- **When the flags name one phase**: when no game is lost, and `CONT` is never left
for three clocks. -/
theorem flagsExclusive_iff (inp : Nat → FsmIn) :
    FlagsExclusive inp ↔ ∀ t, ¬ Loses inp t ∧ ¬ (Played inp t ∧ StaysOut inp t) := by
  refine ⟨?_, ?_⟩
  · intro h t
    refine ⟨fun hloses => h.together (t + 3) ⟨?_, ?_, ?_⟩, fun hout => ?_⟩
    · exact bothUp_of_loses hloses (by omega)
    · exact bothUp_of_loses hloses (by omega)
    · exact bothUp_of_loses hloses (by omega)
    · have houtside := (outside_cont_iff t).mpr hout.2
      have hup := (isPlaying_of_outside houtside).mpr hout.1
      exact absurd ((h.playing t houtside).symm.trans hup) (by simp)
  · intro h
    have hlow := isFinished_low fun t => (h t).1
    refine ⟨?_, ?_, fun t _ => hlow (t + 2)⟩
    · intro t hboth
      exact absurd ((hlow t).symm.trans hboth.1.2) (by simp)
    · intro t houtside
      refine Bool.eq_false_iff.mpr fun hup => ?_
      have hplayed := (isPlaying_of_outside houtside).mp hup
      exact (h t).2 ⟨hplayed, (outside_cont_iff t).mp houtside⟩

/-- A game that is started and lost at once. -/
def lostAtOnce : Nat → FsmIn := fun _ => { reset := false, keycode := 4, finished := true }

/-- `is_playing` stays up after the game is over. -/
theorem lostAtOnce_both_up : ¬ FlagsExclusive lostAtOnce := by
  intro h
  exact h.together 7 ⟨by constructor <;> decide, by constructor <;> decide,
    by constructor <;> decide⟩

end GameFSM

end SpaceInvaders
