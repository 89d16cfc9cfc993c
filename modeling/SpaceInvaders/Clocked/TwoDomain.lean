import SpaceInvaders.Clocked.Run

/-!
# Two clock domains in one order of edges

Two clocks without a phase relation give one sequence of edges: a *fast* edge
samples an input, a *slow* edge samples nothing but the registers the fast
domain left behind. Coincident edges are two neighbours of the sequence, the
fast one first. `WellTimed` says that each slow edge has a fast edge between
itself and the slow edge before it, so what the slow domain consumes is fresh.

`Simulation` packages what relates such a machine to a one-clock one: fast edges
leave the observable part alone and prepare the slow edge's decision, the slow
edge takes that decision. Then the values observed at the slow edges are those
of the one-clock machine fed with the inputs sampled at the latest fast edges
(`Simulation.observed_eq_trace`).
-/

namespace Clocked

/-- One edge of the merged order of two clocks. -/
inductive Edge (ι : Type) where
  | fast (i : ι)
  | slow

def Edge.isFast {ι : Type} : Edge ι → Bool
  | .fast _ => true
  | .slow => false

def Edge.isSlow {ι : Type} : Edge ι → Bool
  | .fast _ => false
  | .slow => true

variable {σ ρ ι κ ο : Type}

/-- The same edge with its input read through `f`. -/
def Edge.map (f : ι → κ) : Edge ι → Edge κ
  | .fast i => .fast (f i)
  | .slow => .slow

/-- A two-clock machine as a machine stepped by the merged edges. -/
def edgeStep (fast : σ → ι → σ) (slow : σ → σ) (s : σ) : Edge ι → σ
  | .fast i => fast s i
  | .slow => slow s

/-- Each slow edge follows a fast edge directly, in the merged order: there is a
fast edge before the first slow edge and between any two slow edges. -/
def WellTimed (ev : Nat → Edge ι) : Prop :=
  ∀ t, ev t = .slow → ∃ u i, t = u + 1 ∧ ev u = .fast i

/-- Fast and slow edges by turns, the fast ones on `i`. -/
def alternating (i : ι) (t : Nat) : Edge ι := if t % 2 = 0 then .fast i else .slow

theorem alternating_wellTimed (i : ι) : WellTimed (alternating i) := by
  intro t ht
  cases t with
  | zero => exact absurd ht (by simp [alternating])
  | succ u =>
    refine ⟨u, i, rfl, if_pos ?_⟩
    by_contra hu
    rw [alternating, if_pos (by omega)] at ht
    cases ht

/-- No two slow edges follow one another directly: between any two of them there
is a fast one. The first edge may be of either kind. -/
def Separated (ev : Nat → Edge ι) : Prop := ∀ t, ev t = .slow → ev (t + 1) ≠ .slow

theorem Separated.fast_before {ev : Nat → Edge ι} (hsep : Separated ev) {t : Nat}
    (ht : ev (t + 1) = .slow) : ∃ i, ev t = .fast i := by
  cases hev : ev t with
  | fast i => exact ⟨i, rfl⟩
  | slow => exact absurd ht (hsep t hev)

theorem WellTimed.separated {ev : Nat → Edge ι} (hwt : WellTimed ev) :
    Separated ev := by
  intro t ht hnext
  obtain ⟨u, i, hu, hfast⟩ := hwt (t + 1) hnext
  obtain rfl : u = t := by omega
  cases ht.symm.trans hfast

/-- What the edge samples. -/
def Edge.input? : Edge ι → Option ι
  | .fast i => some i
  | .slow => none

/-- The input sampled by the latest fast edge before edge `t`. -/
def latest (d : ι) (ev : Nat → Edge ι) : Nat → ι := held d fun t => (ev t).input?

/-- The inputs the slow edges before `t` consume, in order. -/
def samples (d : ι) (ev : Nat → Edge ι) : Nat → List ι
  | 0 => []
  | t + 1 =>
    match ev t with
    | .fast _ => samples d ev t
    | .slow => samples d ev t ++ [latest d ev t]

/-- The values of `obs` right after each slow edge before `t`, in order. -/
def observed (obs : σ → ο) (states : Nat → σ) (ev : Nat → Edge ι) : Nat → List ο
  | 0 => []
  | t + 1 =>
    match ev t with
    | .fast _ => observed obs states ev t
    | .slow => observed obs states ev t ++ [obs (states (t + 1))]

section Edges

variable {d : ι} {ev : Nat → Edge ι} {t : Nat} {i : ι}

theorem latest_fast (h : ev t = .fast i) : latest d ev (t + 1) = i :=
  held_some (by rw [h]; rfl)

theorem samples_fast (h : ev t = .fast i) :
    samples d ev (t + 1) = samples d ev t := by
  simp only [samples, h]

theorem samples_slow (h : ev t = .slow) :
    samples d ev (t + 1) = samples d ev t ++ [latest d ev t] := by
  simp only [samples, h]

theorem observed_fast {obs : σ → ο} {states : Nat → σ} (h : ev t = .fast i) :
    observed obs states ev (t + 1) = observed obs states ev t := by
  simp only [observed, h]

theorem observed_slow {obs : σ → ο} {states : Nat → σ} (h : ev t = .slow) :
    observed obs states ev (t + 1)
      = observed obs states ev t ++ [obs (states (t + 1))] := by
  simp only [observed, h]

end Edges

/-- The states a one-clock machine goes through on a list of inputs. -/
def trace (step : ρ → ι → ρ) (r : ρ) : List ι → List ρ
  | [] => []
  | i :: is => step r i :: trace step (step r i) is

theorem trace_append (step : ρ → ι → ρ) (r : ρ) (is : List ι) (i : ι) :
    trace step r (is ++ [i])
      = trace step r is ++ [step (is.foldl step r) i] := by
  induction is generalizing r with
  | nil => rfl
  | cons j js ih => simp only [List.cons_append, trace, ih, List.foldl_cons]

/-! ## Simulation by a one-clock machine -/

/-- What it takes to see the `obs` part of a two-clock machine as a one-clock
machine `ref`. `Fresh s i` says that the slow edge's decision in `s` is the one
for input `i`. -/
structure Simulation (fast : σ → ι → σ) (slow : σ → σ) (ref : ρ → ι → ρ)
    (obs : σ → ρ) where
  Inv : σ → Prop
  Fresh : σ → ι → Prop
  inv_fast : ∀ s i, Inv s → Inv (fast s i)
  inv_slow : ∀ s, Inv s → Inv (slow s)
  obs_fast : ∀ s i, obs (fast s i) = obs s
  fresh_fast : ∀ s i, Inv s → Fresh (fast s i) i
  obs_slow : ∀ s i, Inv s → Fresh s i → obs (slow s) = ref (obs s) i

namespace Simulation

variable {fast : σ → ι → σ} {slow : σ → σ} {ref : ρ → ι → ρ} {obs : σ → ρ}

theorem run_inv (sim : Simulation fast slow ref obs) {s₀ : σ} (h0 : sim.Inv s₀)
    (ev : Nat → Edge ι) (t : Nat) : sim.Inv (run (edgeStep fast slow) s₀ ev t) := by
  refine Clocked.run_inv sim.Inv h0 ?_ t
  intro s e hs
  cases e with
  | fast i => exact sim.inv_fast s i hs
  | slow => exact sim.inv_slow s hs

/-- At every edge the observable part is the one-clock machine's state after the
inputs consumed so far. -/
theorem obs_eq_foldl (sim : Simulation fast slow ref obs) (d : ι) {s₀ : σ}
    (h0 : sim.Inv s₀) {ev : Nat → Edge ι} (hwt : WellTimed ev) :
    ∀ t, obs (run (edgeStep fast slow) s₀ ev t)
      = (samples d ev t).foldl ref (obs s₀) := by
  intro t
  induction t with
  | zero => rfl
  | succ t ih =>
    rw [run_succ]
    cases hev : ev t with
    | fast i =>
      rw [samples_fast hev, ← ih]
      exact sim.obs_fast _ i
    | slow =>
      -- the edge before `t` is a fast one, so its input is still the fresh one
      obtain ⟨u, i, rfl, hu⟩ := hwt t hev
      have hf : sim.Fresh (run (edgeStep fast slow) s₀ ev (u + 1)) i := by
        rw [run_succ, hu]
        exact sim.fresh_fast _ i (sim.run_inv h0 ev u)
      rw [samples_slow hev, latest_fast hu, List.foldl_append, ← ih]
      exact sim.obs_slow _ i (sim.run_inv h0 ev (u + 1)) hf

/-- The values observed at the slow edges are the one-clock machine's trace. -/
theorem observed_eq_trace (sim : Simulation fast slow ref obs) (d : ι) {s₀ : σ}
    (h0 : sim.Inv s₀) {ev : Nat → Edge ι} (hwt : WellTimed ev) :
    ∀ t, observed obs (run (edgeStep fast slow) s₀ ev) ev t
      = trace ref (obs s₀) (samples d ev t) := by
  intro t
  induction t with
  | zero => rfl
  | succ t ih =>
    have hstate := sim.obs_eq_foldl d h0 hwt (t + 1)
    cases hev : ev t with
    | fast i => rw [observed_fast hev, samples_fast hev, ih]
    | slow =>
      rw [samples_slow hev, List.foldl_append] at hstate
      rw [observed_slow hev, samples_slow hev, trace_append, ih, hstate]
      rfl

end Simulation

end Clocked
