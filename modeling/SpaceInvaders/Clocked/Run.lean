import Mathlib.Algebra.Group.Hom.Defs
import Mathlib.Data.Nat.Nth
import Mathlib.Logic.Function.Iterate

/-!
# Runs of a clocked machine

A clocked block is a step function on its registers; a run feeds it one input
per clock edge. This file is the part of the development that knows nothing of
any particular circuit: `run` itself, the invariant rule (`run_inv`), the rule
by which a component of a larger machine is seen to run as a machine of its own
(`run_project`), the rules that turn a one-step equivalence into an exact
condition on whole runs (`forall_iff_of_step`, `forall_iff_of_before`), and what
registers remember of a run: a flag nobody clears (`sticky_iff`), the latest sample (`held`), the amount
accumulated since the last reload (`tally`), the number of edges of a kind in a
window (`countIn`).
-/

namespace Clocked

variable {σ τ ι κ : Type}

/-- The state after `t` edges, the edge from `t` to `t + 1` sampling `inp t`. -/
def run (step : σ → ι → σ) (s₀ : σ) (inp : Nat → ι) : Nat → σ
  | 0 => s₀
  | t + 1 => step (run step s₀ inp t) (inp t)

@[simp] theorem run_zero (step : σ → ι → σ) (s₀ : σ) (inp : Nat → ι) :
    run step s₀ inp 0 = s₀ := rfl

theorem run_succ (step : σ → ι → σ) (s₀ : σ) (inp : Nat → ι) (t : Nat) :
    run step s₀ inp (t + 1) = step (run step s₀ inp t) (inp t) := rfl

/-- A finite list of inputs, then `rest` for ever. -/
def script (l : List ι) (rest : ι) (t : Nat) : ι := l.getD t rest

/-- What holds at the start and survives every edge holds throughout the run. -/
theorem run_inv {step : σ → ι → σ} {s₀ : σ} {inp : Nat → ι} (Inv : σ → Prop)
    (h0 : Inv s₀) (hstep : ∀ s i, Inv s → Inv (step s i)) :
    ∀ t, Inv (run step s₀ inp t) := by
  intro t
  induction t with
  | zero => exact h0
  | succ t ih => exact hstep _ _ ih

/-- A component `f` of a machine, whose next value depends only on its own value
and on the input `inp' t` it is handed, runs as a machine of its own. -/
theorem run_project {step : σ → ι → σ} {step' : τ → κ → τ} {s₀ : σ}
    {inp : Nat → ι} (f : σ → τ) (inp' : Nat → κ)
    (h : ∀ t, f (step (run step s₀ inp t) (inp t))
      = step' (f (run step s₀ inp t)) (inp' t)) :
    ∀ t, f (run step s₀ inp t) = run step' (f s₀) inp' t := by
  intro t
  induction t with
  | zero => rfl
  | succ t ih => rw [run_succ, run_succ, h t, ih]

/-- A component that steps only at the active edges runs, on those, as a machine
of its own: after edge `t` it has taken as many steps as there were active edges,
the `n`-th with the input handed to it at the `n`-th active edge. -/
theorem run_subclock {step : σ → ι → σ} {step' : τ → κ → τ} {s₀ : σ} {inp : Nat → ι}
    (f : σ → τ) (active : Nat → Bool) (inp' : Nat → κ)
    (hactive : ∀ t, active t = true → f (step (run step s₀ inp t) (inp t))
      = step' (f (run step s₀ inp t)) (inp' t))
    (hidle : ∀ t, active t = false → f (step (run step s₀ inp t) (inp t))
      = f (run step s₀ inp t)) (t : Nat) :
    f (run step s₀ inp t)
      = run step' (f s₀) (fun n => inp' (Nat.nth (fun v => active v = true) n))
          (Nat.count (fun v => active v = true) t) := by
  induction t with
  | zero => rw [Nat.count_zero]; rfl
  | succ t ih =>
    rw [run_succ, Nat.count_succ]
    by_cases h : active t = true
    · rw [if_pos h, run_succ, ← ih, Nat.nth_count h]
      exact hactive t h
    · rw [if_neg h, hidle t (Bool.eq_false_iff.mpr h), ih]
      rfl

/-- A state predicate that, once true, survives every further edge. -/
theorem run_absorb {step : σ → ι → σ} {s₀ : σ} {inp : Nat → ι} (Q : σ → Prop)
    (hstep : ∀ s i, Q s → Q (step s i)) {a t : Nat} (hat : a ≤ t)
    (ha : Q (run step s₀ inp a)) : Q (run step s₀ inp t) := by
  induction hat with
  | refl => exact ha
  | step _ ih => exact hstep _ _ ih

/-- What the edges of a window leave alone is at its end what it was at its
start. -/
theorem run_keep {step : σ → ι → σ} {s₀ : σ} {inp : Nat → ι} (f : σ → τ) {a t : Nat}
    (hat : a ≤ t)
    (h : ∀ v, a ≤ v → v < t →
      f (step (run step s₀ inp v) (inp v)) = f (run step s₀ inp v)) :
    f (run step s₀ inp t) = f (run step s₀ inp a) := by
  induction t with
  | zero => rw [Nat.le_zero.mp hat]
  | succ t ih =>
    rcases Nat.eq_or_lt_of_le hat with heq | hlt
    · rw [heq]
    · rw [run_succ, h t (by omega) (by omega)]
      exact ih (by omega) (fun v hav hvt => h v hav (by omega))

/-- A machine whose input is read off its own state runs as the iterates of one
step. -/
theorem run_closedLoop (step : σ → ι → σ) (ctl : σ → ι) (s₀ : σ) (t : Nat) :
    run step s₀ (fun u => ctl (Nat.iterate (fun s => step s (ctl s)) u s₀)) t
      = Nat.iterate (fun s => step s (ctl s)) t s₀ := by
  induction t with
  | zero => rfl
  | succ t ih =>
    rw [run_succ, ih, Function.iterate_succ_apply']

/-- A flag that is low at the start and never cleared is up exactly when some
earlier step set it. -/
theorem sticky_iff (flag set : Nat → Prop) (h0 : ¬ flag 0)
    (hstep : ∀ t, flag (t + 1) ↔ flag t ∨ set t) :
    ∀ t, flag t ↔ ∃ u, u < t ∧ set u := by
  intro t
  induction t with
  | zero => simp [h0]
  | succ t ih =>
    rw [hstep, ih, Nat.exists_lt_succ_right]

/-- The exactness rule: where `P` starts true and each step keeps it exactly
when the guard `G` holds, a whole run keeps `P` exactly when every step meets
the guard. -/
theorem forall_iff_of_step {P G : Nat → Prop} (h0 : P 0)
    (hstep : ∀ t, P t → (P (t + 1) ↔ G t)) : (∀ t, P t) ↔ ∀ t, G t := by
  refine ⟨fun hP t => (hstep t (hP t)).mp (hP (t + 1)), fun hG t => ?_⟩
  induction t with
  | zero => exact h0
  | succ t ih => exact (hstep t ih).mpr (hG t)

/-- The same where what makes `P` hold at a step may rest on its holding before. -/
theorem forall_iff_of_before {P G : Nat → Prop} (h : ∀ t, (∀ u < t, P u) → (P t ↔ G t)) :
    (∀ t, P t) ↔ ∀ t, G t := by
  refine ⟨fun hP t => (h t fun u _ => hP u).mp (hP t), fun hG t => ?_⟩
  induction t using Nat.strong_induction_on with
  | _ t ih => exact (h t ih).mpr (hG t)

/-! ## The latest step of a kind -/

section Latest

/-- Step `u` is the latest before `t` of those that `E` is true of. -/
structure LatestBefore (E : Nat → Prop) (u t : Nat) : Prop where
  lt : u < t
  isOne : E u
  none : ∀ v, u < v → v < t → ¬ E v

variable {E : Nat → Prop} {u v t : Nat}

theorem LatestBefore.unique (hu : LatestBefore E u t) (hv : LatestBefore E v t) : u = v := by
  rcases Nat.lt_trichotomy u v with hlt | heq | hlt
  · exact absurd hv.isOne (hu.none v hlt hv.lt)
  · exact heq
  · exact absurd hu.isOne (hv.none u hlt hu.lt)

theorem latestBefore_succ (h : E t) : LatestBefore E t (t + 1) :=
  ⟨Nat.lt_succ_self t, h, fun _ htv hvt => by omega⟩

theorem LatestBefore.succ (hu : LatestBefore E u t) (h : ¬ E t) : LatestBefore E u (t + 1) := by
  refine ⟨Nat.lt_succ_of_lt hu.lt, hu.isOne, fun v huv hvt => ?_⟩
  rcases Nat.lt_succ_iff_lt_or_eq.mp hvt with hlt | rfl
  · exact hu.none v huv hlt
  · exact h

end Latest

/-! ## The latest sample -/

section Held

variable {α : Type}

/-- The latest sample taken before step `t`; `d` stands in while there has been
none. -/
def held (d : α) (sample : Nat → Option α) : Nat → α
  | 0 => d
  | t + 1 => (sample t).getD (held d sample t)

theorem held_some {d : α} {sample : Nat → Option α} {t : Nat} {x : α}
    (h : sample t = some x) : held d sample (t + 1) = x := by
  rw [held, h, Option.getD_some]

theorem held_none {d : α} {sample : Nat → Option α} {t : Nat}
    (h : sample t = none) : held d sample (t + 1) = held d sample t := by
  rw [held, h, Option.getD_none]

end Held

/-! ## What a register has accumulated since it was last reloaded -/

section Tally

variable {M : Type} [AddMonoid M]

/-- The sum of `amount u` over the steps `u < t` after the latest step at which
`reload` held. -/
def tally (reload : Nat → Bool) (amount : Nat → M) : Nat → M
  | 0 => 0
  | t + 1 => if reload t then 0 else tally reload amount t + amount t

theorem tally_reload {reload : Nat → Bool} {amount : Nat → M} {t : Nat}
    (h : reload t = true) : tally reload amount (t + 1) = 0 := by
  rw [tally, if_pos h]

theorem tally_keep {reload : Nat → Bool} {amount : Nat → M} {t : Nat}
    (h : reload t = false) :
    tally reload amount (t + 1) = tally reload amount t + amount t := by
  rw [tally, h]
  rfl

/-- A register that is reloaded with `base` or moved by `f (amount t)` is, from
its first reload on, `base` and the image of the tally; `live` holds only from
then on. -/
theorem tally_tracks {R : Type} [AddMonoid R] {f : M →+ R} (reg : Nat → R) {base : R}
    {reload : Nat → Bool} {amount : Nat → M} (live : Nat → Prop) (hstart : ¬ live 0)
    (hreload : ∀ t, reload t = true → reg (t + 1) = base)
    (hkeep : ∀ t, reload t = false → reg (t + 1) = reg t + f (amount t))
    (hlive : ∀ t, reload t = false → live (t + 1) → live t) :
    ∀ t, live t → reg t = base + f (tally reload amount t) := by
  intro t
  induction t with
  | zero => exact fun h => absurd h hstart
  | succ t ih =>
    intro h
    cases hr : reload t with
    | true => rw [hreload t hr, tally_reload hr, map_zero, add_zero]
    | false =>
      rw [hkeep t hr, tally_keep hr, ih (hlive t hr h), map_add, add_assoc]

end Tally

/-! ## How many steps of a window satisfy a predicate -/

/-- The number of steps `v` with `a ≤ v < t` at which `p` holds. -/
def countIn (p : Nat → Bool) (a t : Nat) : Nat :=
  Nat.count (fun v => a ≤ v ∧ p v = true) t

theorem countIn_self (p : Nat → Bool) (a : Nat) : countIn p a a = 0 := by
  rw [countIn, Nat.count_iff_forall_not]
  intro m hm h
  omega

theorem countIn_succ_of_true {p : Nat → Bool} {a t : Nat} (hat : a ≤ t)
    (h : p t = true) : countIn p a (t + 1) = countIn p a t + 1 := by
  rw [countIn, Nat.count_succ, if_pos ⟨hat, h⟩]
  rfl

theorem countIn_succ_of_false {p : Nat → Bool} {a t : Nat} (h : p t = false) :
    countIn p a (t + 1) = countIn p a t := by
  rw [countIn, Nat.count_succ, if_neg (by simp [h])]
  rfl

theorem countIn_mono (p : Nat → Bool) (a : Nat) {t u : Nat} (h : t ≤ u) :
    countIn p a t ≤ countIn p a u := Nat.count_monotone _ h

/-- What each such step of a window brings on by one, up to `D`, and no other step sets back. -/
theorem of_countIn {P : Nat → Nat → Prop} {p : Nat → Bool} {a u D : Nat} (h0 : P 0 a)
    (hkeep : ∀ d v, a ≤ v → v < u → P d v → P d (v + 1))
    (hnext : ∀ d v, a ≤ v → v < u → p v = true → d < D → P d v → P (d + 1) (v + 1))
    (hau : a ≤ u) {d : Nat} (hd : d ≤ D) (hcount : d ≤ countIn p a u) : P d u := by
  induction u, hau using Nat.le_induction generalizing d with
  | base =>
    rw [countIn_self] at hcount
    rwa [Nat.le_zero.mp hcount]
  | succ u hau ih =>
    have hbefore {c : Nat} (hc : c ≤ D) (hcu : c ≤ countIn p a u) : P c u :=
      ih (fun e v hav hvu => hkeep e v hav (Nat.lt_succ_of_lt hvu))
        (fun e v hav hvu => hnext e v hav (Nat.lt_succ_of_lt hvu)) hc hcu
    by_cases hdu : d ≤ countIn p a u
    · exact hkeep d u hau (Nat.lt_succ_self u) (hbefore hd hdu)
    · cases hp : p u with
      | false => exact absurd (countIn_succ_of_false hp ▸ hcount) hdu
      | true =>
        rw [countIn_succ_of_true hau hp] at hcount
        obtain ⟨c, rfl⟩ := Nat.exists_eq_succ_of_ne_zero (show d ≠ 0 by omega)
        exact hnext c u hau (Nat.lt_succ_self u) hp hd
          (hbefore (Nat.le_of_succ_le hd) (Nat.le_of_succ_le_succ hcount))

/-- A window with `n + 1` such steps has a last one, with `n` of them before it. -/
theorem exists_of_countIn_succ {p : Nat → Bool} {a t n : Nat}
    (h : countIn p a t = n + 1) :
    ∃ u, a ≤ u ∧ u < t ∧ p u = true ∧ countIn p a u = n ∧
      ∀ v, u < v → v < t → p v = false := by
  induction t with
  | zero => simp [countIn] at h
  | succ t ih =>
    by_cases hp : a ≤ t ∧ p t = true
    · rw [countIn_succ_of_true hp.1 hp.2] at h
      exact ⟨t, hp.1, by omega, hp.2, by omega, fun v _ _ => by omega⟩
    · rw [countIn, Nat.count_succ, if_neg hp] at h
      obtain ⟨u, hau, hut, hu, hn, hlast⟩ := ih h
      refine ⟨u, hau, by omega, hu, hn, fun v huv hvt => ?_⟩
      rcases Nat.eq_or_lt_of_le (Nat.le_of_lt_succ hvt) with rfl | hlt
      · exact Bool.eq_false_iff.mpr (fun hv => hp ⟨by omega, hv⟩)
      · exact hlast v huv hlt

/-- A window that contains such a step contains a last one. -/
theorem exists_last {p : Nat → Bool} {a t : Nat} (h : 0 < countIn p a t) :
    ∃ u, a ≤ u ∧ u < t ∧ p u = true ∧ ∀ v, u < v → v < t → p v = false := by
  obtain ⟨n, hn⟩ := Nat.exists_eq_succ_of_ne_zero (Nat.pos_iff_ne_zero.mp h)
  obtain ⟨u, hau, hut, hu, _, hlast⟩ := exists_of_countIn_succ hn
  exact ⟨u, hau, hut, hu, hlast⟩

end Clocked
