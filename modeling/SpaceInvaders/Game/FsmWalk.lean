import SpaceInvaders.Game.Fsm

/-!
# Which inputs keep `gameFSM` on its graph

The `case` table declares four transitions, and the transition into `BEGINNING`
by `reset`. Because `next_state` is a register of its own, the edge after a
decision takes a second one from the *old* state, and `state` follows both: a
key tapped for one clock takes `state` to `GAME_START` and back to `BEGINNING`
with no reset in sight (`tap_leaves_graph`).

`walksGraph_iff_held` is exact: `state` walks the declared graph throughout a
run precisely when every input that starts a transition is still there at the
next edge, the one at which the old state decides again (`Held`).
-/

namespace SpaceInvaders

namespace GameFSM

open Clocked (run run_succ forall_iff_of_step)

/-- The transitions of the `case` table. -/
def declared : GameState → GameState → Bool
  | .beginning, .gameStart => true
  | .gameStart, .cont => true
  | .cont, .gameOver => true
  | .gameOver, .gameStart => true
  | _, _ => false

/-- `s'` may follow `s`; `recent` says that reset was sampled high recently. -/
def MayFollow (s s' : GameState) (recent : Prop) : Prop :=
  s' = s ∨ declared s s' = true ∨ (s' = .beginning ∧ recent)

/-- Reset was sampled at edge `t` or at the edge before it. -/
def RecentReset (inp : Nat → FsmIn) (t : Nat) : Prop :=
  ∃ u, u ≤ t ∧ t ≤ u + 1 ∧ (inp u).reset = true

/-- The value of `state` after edge `t` may follow the one before it. -/
def Walks (inp : Nat → FsmIn) (t : Nat) : Prop :=
  MayFollow (run clk powerUp inp t).state (run clk powerUp inp (t + 1)).state
    (RecentReset inp t)

/-- `state` walks the declared graph for the whole run. -/
def WalksGraph (inp : Nat → FsmIn) : Prop := ∀ t, Walks inp t

/-- With `next_state = n` in flight, the input `i` makes the old state `s`
decide the same again, or something that may follow `n`; `resetNext` is the
reset of the edge after. -/
def HeldAt (s n : GameState) (i : FsmIn) (resetNext : Bool) : Prop :=
  match s, n with
  | .beginning, .gameStart =>
    i.keycode ≠ 0#8 ∨ i.reset = true ∨ resetNext = true
  | .cont, .gameOver => i.finished = true ∨ i.reset = true
  | .gameOver, .gameStart => i.keycode = 44#8 ∨ i.reset = true
  | .beginning, .beginning => True
  | .gameOver, .beginning => i.reset = true ∨ i.keycode = 44#8
  | .gameStart, .beginning => i.reset = true
  | .cont, .beginning => i.reset = true
  | _, _ => True

/-- The input at edge `t` holds the decision in flight there. -/
def Held (inp : Nat → FsmIn) (t : Nat) : Prop :=
  HeldAt (run clk powerUp inp t).state (run clk powerUp inp t).nextState (inp t)
    (inp (t + 1)).reset

/-- A reset at the next edge counts as recent there, and so does one at this
edge; nothing earlier does. -/
theorem recentReset_succ (inp : Nat → FsmIn) (t : Nat) :
    RecentReset inp (t + 1) ↔ (inp t).reset = true ∨ (inp (t + 1)).reset = true := by
  refine ⟨?_, ?_⟩
  · intro hrecent
    obtain ⟨u, hu, hut, hr⟩ := hrecent
    rcases Nat.lt_or_ge u (t + 1) with hlt | hge
    · exact Or.inl (by rwa [show u = t by omega] at hr)
    · exact Or.inr (by rwa [show u = t + 1 by omega] at hr)
  · intro hreset
    rcases hreset with hr | hr
    · exact ⟨t, by omega, by omega, hr⟩
    · exact ⟨t + 1, by omega, by omega, hr⟩

/-- The step fact: from a legal pair `(s, n)`, the pair `(n, decision of s)` is
legal exactly when the input holds the decision in flight. -/
theorem mayFollow_decideNext_iff {s n : GameState} {recent : Prop} (i : FsmIn)
    (resetNext : Bool) (h : MayFollow s n recent) :
    MayFollow n (decideNext s i) (i.reset = true ∨ resetNext = true)
      ↔ HeldAt s n i resetNext := by
  cases hr : i.reset with
  | true =>
    -- a reset decides BEGINNING, which may follow anything recently reset
    rw [decideNext_reset hr]
    cases s <;> cases n <;> simp [MayFollow, HeldAt, hr]
  | false =>
    -- no reset: the old state decides by the one input its branch reads
    cases s with
    | beginning =>
      by_cases hk : i.keycode = 0#8 <;> cases n <;>
        simp_all [MayFollow, HeldAt, declared, decideNext]
    | gameStart =>
      cases n <;> simp_all [MayFollow, HeldAt, declared, decideNext]
    | gameOver =>
      by_cases hk : i.keycode = 44#8 <;> cases n <;>
        simp_all [MayFollow, HeldAt, declared, decideNext]
    | cont =>
      cases hf : i.finished <;> cases n <;>
        simp_all [MayFollow, HeldAt, declared, decideNext]

/-- **When `gameFSM` walks its declared graph.** -/
theorem walksGraph_iff_held (inp : Nat → FsmIn) :
    WalksGraph inp ↔ ∀ t, Held inp t := by
  refine forall_iff_of_step (Or.inl rfl) ?_
  intro t hw
  have hstep := mayFollow_decideNext_iff (inp t) (inp (t + 1)).reset hw
  rw [← recentReset_succ] at hstep
  exact hstep

/-- One key, down for a single clock. -/
def tap (t : Nat) : FsmIn :=
  { reset := false, keycode := if t = 0 then 4#8 else 0#8, finished := false }

/-- After the tap `state` goes `GAME_START`, `BEGINNING` without a reset. -/
theorem tap_leaves_graph : ¬ WalksGraph tap := by
  intro h
  rcases h 2 with h | h | ⟨_, u, _, _, h⟩
  · exact absurd h (by decide)
  · exact absurd h (by decide)
  · exact absurd h (by simp [tap])

end GameFSM

end SpaceInvaders
