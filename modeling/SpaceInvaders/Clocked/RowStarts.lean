import SpaceInvaders.Clocked.Run

/-!
# Where the rows of a picture are begun

A machine that draws a picture row by row is in one of three states while it does: it
draws, it has come to the end of a row, or it waits for the place of the next one. The step
that begins a row is behind it then, and the row counter still says which row that was:
`RowFrom u t` keeps both of a run, and from the first row of a pass on there is always such
a step (`rowFrom_of_inPass`).
-/

namespace Clocked

variable {σ α : Type}

/-- Step `t` takes the machine into state `a`. -/
def Enters (state : Nat → σ) (a : σ) (t : Nat) : Prop := state t ≠ a ∧ state (t + 1) = a

/-- The states of a pass over a picture. -/
structure RowStates (σ : Type) where
  draw : σ
  next : σ
  await : σ
  next_ne_draw : next ≠ draw
  await_ne_draw : await ≠ draw
  next_ne_await : next ≠ await

namespace RowStates

variable [Add α] [One α] (r : RowStates σ) (state : Nat → σ) (row : Nat → α)

def InPass (s : σ) : Prop := s = r.draw ∨ s = r.next ∨ s = r.await

/-- What a step inside a pass may do: leave state and counter alone, end a row, count it,
or begin the next one. -/
def Step (t : Nat) : Prop :=
  state (t + 1) = state t ∧ row (t + 1) = row t ∨
    state t = r.draw ∧ state (t + 1) = r.next ∧ row (t + 1) = row t ∨
    state t = r.next ∧ state (t + 1) = r.await ∧ row (t + 1) = row t + 1 ∨
    Enters state r.draw t

/-- Step `u` has begun the latest row, number `row (u + 1)`; where the machine waits it has
been counted. -/
structure RowFrom (u t : Nat) : Prop where
  latest : LatestBefore (Enters state r.draw) u t
  inside : ∀ v, u < v → v ≤ t → r.InPass (state v)
  counted : state t = r.await → row t = row (u + 1) + 1
  drawn : state t ≠ r.await → row t = row (u + 1)

variable {r state row} {t u : Nat}

theorem rowFrom_of_enters (h : Enters state r.draw t) : r.RowFrom state row t (t + 1) := by
  refine ⟨latestBefore_succ h, fun v htv hv => ?_, fun hawait => ?_, fun _ => rfl⟩
  · rw [show v = t + 1 by omega]
    exact Or.inl h.2
  · exact absurd (hawait.symm.trans h.2) r.await_ne_draw

/-- A step inside a pass. -/
theorem RowFrom.step (h : r.RowFrom state row u t) (hstep : r.Step state row t) :
    ∃ v, r.RowFrom state row v (t + 1) := by
  have hinside (hin : r.InPass (state (t + 1))) :
      ∀ v, u < v → v ≤ t + 1 → r.InPass (state v) := by
    intro v huv hv
    rcases Nat.le_succ_iff.mp hv with hle | rfl
    · exact h.inside v huv hle
    · exact hin
  have hnow := h.inside t h.latest.lt (Nat.le_refl t)
  rcases hstep with ⟨hs, hrow⟩ | ⟨hs, hs', hrow⟩ | ⟨hs, hs', hrow⟩ | hnew
  · -- nothing has changed, so nothing has begun
    have hold : ¬ Enters state r.draw t := fun hnew => hnew.1 (hs.symm.trans hnew.2)
    refine ⟨u, h.latest.succ hold, hinside (hs ▸ hnow), ?_, ?_⟩
    · rw [hs, hrow]
      exact h.counted
    · rw [hs, hrow]
      exact h.drawn
  · -- the row is at its end, and not counted yet
    have hold : ¬ Enters state r.draw t := fun hnew => hnew.1 hs
    refine ⟨u, h.latest.succ hold, hinside (Or.inr (Or.inl hs')), ?_, fun _ => ?_⟩
    · intro hawait
      exact absurd (hs'.symm.trans hawait) r.next_ne_await
    · rw [hrow]
      exact h.drawn fun hawait => r.await_ne_draw (hawait.symm.trans hs)
  · -- it is counted
    have hold : ¬ Enters state r.draw t :=
      fun hnew => r.await_ne_draw (hs'.symm.trans hnew.2)
    refine ⟨u, h.latest.succ hold, hinside (Or.inr (Or.inr hs')), fun _ => ?_, ?_⟩
    · rw [hrow, h.drawn fun hawait => r.next_ne_await (hs.symm.trans hawait)]
    · intro hmore
      exact absurd hs' hmore
  · -- the next one is begun, by this step
    exact ⟨t, rowFrom_of_enters hnew⟩

variable (r state row) in
/-- **Behind every state of a pass** is the step that began its row, unless the pass is
still `fresh`. -/
theorem rowFrom_of_inPass (fresh : Nat → Prop) (h0 : ¬ r.InPass (state 0))
    (hstep : ∀ t, r.InPass (state (t + 1)) → Enters state r.draw t ∨ fresh (t + 1) ∨
      r.InPass (state t) ∧ ¬ fresh t ∧ r.Step state row t) (t : Nat)
    (hin : r.InPass (state t)) : fresh t ∨ ∃ u, r.RowFrom state row u t := by
  induction t with
  | zero => exact absurd hin h0
  | succ t ih =>
    rcases hstep t hin with hnew | hfresh | ⟨hnow, hold, hgoes⟩
    · exact Or.inr ⟨t, rowFrom_of_enters hnew⟩
    · exact Or.inl hfresh
    · obtain ⟨u, hu⟩ := (ih hnow).resolve_left hold
      exact Or.inr (hu.step hgoes)

end RowStates

end Clocked
