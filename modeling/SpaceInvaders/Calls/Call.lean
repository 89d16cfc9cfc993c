import Mathlib.Order.Basic

/-!
# Calls that may hang or go wrong

A call of a program with loops and pointers is still inside a loop, has done something
that has no meaning, or has returned. `Sat E P` is the judgement that carries the proofs:
only what `E` allows goes wrong, and what is returned satisfies `P`. Its rules follow the
program text: `Sat.bind` for a statement after another, `Sat.ite` for a branch, `Sat.run`
for a loop that keeps an invariant.
-/

/-- A call; `ε` are the ways to go wrong. -/
inductive Call (ε α : Type) where
  | waiting
  | fault (e : ε)
  | ret (a : α)

namespace Call

variable {ε α β σ : Type}

/-- One statement after another. -/
def bind (x : Call ε α) (f : α → Call ε β) : Call ε β :=
  match x with
  | waiting => waiting
  | fault e => fault e
  | ret a => f a

instance : Monad (Call ε) where
  pure := ret
  bind := bind

/-- A loop that has been given so many turns. -/
def ofTurns : Option α → Call ε α
  | some a => ret a
  | none => waiting

/-- An access that need not have a meaning. -/
def ofAccess (e : ε) : Option α → Call ε α
  | some a => ret a
  | none => fault e

/-- So many turns of `step`, the `n`-th with the input `inp n`. -/
def run {ι : Type} (step : σ → ι → Call ε σ) (inp : Nat → ι) : Nat → σ → Call ε σ
  | 0, s => ret s
  | n + 1, s => run step inp n s >>= fun s => step s (inp n)

/-- What is returned, if anything is. -/
def ret? : Call ε α → Option α
  | ret a => some a
  | _ => none

theorem ret?_eq_some {x : Call ε α} {a : α} : x.ret? = some a ↔ x = ret a := by
  cases x with
  | waiting => exact ⟨nofun, nofun⟩
  | fault e => exact ⟨nofun, nofun⟩
  | ret b => simp [ret?]

@[simp] theorem bind_waiting (f : α → Call ε β) : (waiting : Call ε α) >>= f = waiting := rfl

@[simp] theorem bind_fault (e : ε) (f : α → Call ε β) :
    (fault e : Call ε α) >>= f = fault e := rfl

@[simp] theorem bind_ret (a : α) (f : α → Call ε β) : (ret a) >>= f = f a := rfl

@[simp] theorem pure_eq (a : α) : (pure a : Call ε α) = ret a := rfl

theorem bind_eq_ret {x : Call ε α} {f : α → Call ε β} {b : β} (h : x >>= f = ret b) :
    ∃ a, x = ret a ∧ f a = ret b := by
  cases x with
  | waiting => cases h
  | fault e => cases h
  | ret a => exact ⟨a, rfl, h⟩

theorem ofTurns_eq_ret {o : Option α} {a : α} (h : (ofTurns o : Call ε α) = ret a) :
    o = some a := by
  cases o with
  | none => cases h
  | some b =>
    cases h
    rfl

/-! ## The judgement -/

/-- What `E` allows is all that goes wrong, and what is returned satisfies `P`. -/
def Sat (E : ε → Prop) (P : α → Prop) : Call ε α → Prop
  | waiting => True
  | fault e => E e
  | ret a => P a

variable {E E' : ε → Prop} {P Q : α → Prop} {R : β → Prop} {x : Call ε α}

@[simp] theorem sat_ret {a : α} : Sat E P (ret a : Call ε α) ↔ P a := Iff.rfl

@[simp] theorem sat_waiting : Sat E P (waiting : Call ε α) := trivial

@[simp] theorem sat_fault {e : ε} : Sat E P (fault e : Call ε α) ↔ E e := Iff.rfl

theorem Sat.bind {f : α → Call ε β} (h : Sat E P x) (hf : ∀ a, P a → Sat E R (f a)) :
    Sat E R (x >>= f) := by
  cases x with
  | waiting => trivial
  | fault e => exact h
  | ret a => exact hf a h

theorem Sat.mono (h : Sat E P x) (hPQ : ∀ a, P a → Q a) : Sat E Q x := by
  cases x with
  | waiting => trivial
  | fault e => exact h
  | ret a => exact hPQ a h

theorem Sat.ite {c : Prop} [Decidable c] {y : Call ε α} (h : c → Sat E P x)
    (h' : ¬ c → Sat E P y) : Sat E P (if c then x else y) := by
  split_ifs with hc
  · exact h hc
  · exact h' hc

theorem Sat.ofTurns {o : Option α} (h : ∀ a, o = some a → P a) :
    Sat E P (Call.ofTurns o : Call ε α) := by
  cases o with
  | none => trivial
  | some a => exact h a rfl

/-- What every turn keeps, the loop keeps. -/
theorem Sat.run {ι : Type} {step : σ → ι → Call ε σ} {inp : Nat → ι} {Inv : σ → Prop}
    (hstep : ∀ s i, Inv s → Sat E Inv (step s i)) {s : σ} (h : Inv s) (n : Nat) :
    Sat E Inv (Call.run step inp n s) := by
  induction n with
  | zero => exact h
  | succ n ih => exact ih.bind fun s hs => hstep s (inp n) hs

theorem Sat.of_ret {a : α} (h : Sat E P x) (hx : x = ret a) : P a := by
  rw [hx] at h
  exact h

theorem Sat.of_fault {e : ε} (h : Sat E P x) (hx : x = fault e) : E e := by
  rw [hx] at h
  exact h

end Call
