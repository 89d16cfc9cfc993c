import Mathlib.Logic.Function.Basic
import SpaceInvaders.Clocked.Conveyor
import SpaceInvaders.Clocked.Run

/-!
# A dynamic memory and its commands

A chip of banks, each with at most one open row. `Chip` is what a command changes of it
and what decides which commands it may be given (`Chip.Legal`): a row is opened in a bank
that has none open, columns are read and written in an open row, the chip is refreshed
with all rows closed, and after each command it needs some clocks of rest.

What the chip stores is a matter of the accesses alone (`contents`). A chip that is only
ever given what it may be given (`Drives`) answers its reads as a plain memory answers
them in this order (`heard_eq`).
-/

namespace Dram

open Clocked (log log_succ)

/-! ## Memories -/

/-- A read, or a write that changes what is stored by `put`. -/
inductive Access (A W : Type) where
  | read (a : A)
  | write (a : A) (put : W → W)

namespace Access

variable {A A' W : Type}

/-- The same access at another address. -/
def map (f : A → A') : Access A W → Access A' W
  | read a => read (f a)
  | write a put => write (f a) put

/-- What is stored afterwards. -/
def apply [DecidableEq A] (mem : A → W) : Access A W → A → W
  | read _ => mem
  | write a put => Function.update mem a (put (mem a))

/-- What comes back. -/
def answer (mem : A → W) : Access A W → List W
  | read a => [mem a]
  | write _ _ => []

/-- What is taken for the answer where `w` is on the line. -/
def sense (w : W) : Access A W → List W
  | read _ => [w]
  | write _ _ => []

theorem apply_map [DecidableEq A] [DecidableEq A'] {f : A → A'} (hf : Function.Injective f)
    (mem : A' → W) (x : Access A W) : (x.map f).apply mem ∘ f = x.apply (mem ∘ f) := by
  cases x with
  | read a => rfl
  | write a put => exact Function.update_comp_eq_of_injective mem hf a (put (mem (f a)))

theorem answer_map (f : A → A') (mem : A' → W) (x : Access A W) :
    (x.map f).answer mem = x.answer (mem ∘ f) := by
  cases x <;> rfl

end Access

section Memory

variable {A A' W : Type} [DecidableEq A] [DecidableEq A']

/-- What a memory holds after some accesses. -/
def contents (mem : A → W) (l : List (Access A W)) : A → W := l.foldl Access.apply mem

/-- What a memory answers to some accesses, one after the other. -/
def answers (mem : A → W) : List (Access A W) → List W
  | [] => []
  | x :: l => x.answer mem ++ answers (x.apply mem) l

theorem answers_append (mem : A → W) (l l' : List (Access A W)) :
    answers mem (l ++ l') = answers mem l ++ answers (contents mem l) l' := by
  induction l generalizing mem with
  | nil => rfl
  | cons x l ih =>
    rw [List.cons_append, answers, ih, ← List.append_assoc]
    rfl

theorem answers_prefix (mem : A → W) {l l' : List (Access A W)} (h : l <+: l') :
    answers mem l <+: answers mem l' := by
  obtain ⟨r, rfl⟩ := h
  rw [answers_append]
  exact List.prefix_append ..

/-- Where the addresses are kept apart, only what they are called changes. -/
theorem answers_map {f : A → A'} (hf : Function.Injective f) (mem : A' → W)
    (l : List (Access A W)) : answers mem (l.map (Access.map f)) = answers (mem ∘ f) l := by
  induction l generalizing mem with
  | nil => rfl
  | cons x l ih =>
    rw [List.map_cons, answers, answers, Access.answer_map, ih, Access.apply_map hf]

end Memory

/-! ## Chips -/

/-- What a chip asks for: the clocks of rest after a command of each kind, those between a
write and the closing of its row, the refreshes before its mode is set, and the clocks from
a read to its answer. -/
structure Setup where
  activate : Nat
  precharge : Nat
  refresh : Nat
  mode : Nat
  recovery : Nat
  refreshes : Nat
  latency : Nat

/-- What a chip may be told at one clock. -/
inductive Command (B R C W : Type) where
  | idle
  | activate (b : B) (r : R)
  | read (b : B) (c : C)
  | write (b : B) (c : C) (put : W → W)
  | precharge
  | refresh
  | mode
  | other

/-- The open rows, whether the mode is set, the refreshes so far, and the clocks the chip
is still to be left alone. -/
structure Chip (B R : Type) where
  row : B → Option R
  ready : Bool
  refreshes : Nat
  rest : Nat
  recovery : Nat

namespace Chip

variable {B R C W : Type} [DecidableEq B] (T : Setup)

/-- All rows are closed. -/
def Shut (c : Chip B R) : Prop := ∀ b, c.row b = none

/-- Of all rows only this one is open. -/
def Open (c : Chip B R) (b : B) (r : R) : Prop :=
  c.row b = some r ∧ ∀ b', b' ≠ b → c.row b' = none

/-- What the chip may be told. -/
def Legal (c : Chip B R) : Command B R C W → Prop
  | .idle => True
  | .activate b _ => c.rest = 0 ∧ c.ready = true ∧ c.row b = none
  | .read b _ => c.rest = 0 ∧ c.ready = true ∧ c.row b ≠ none
  | .write b _ _ => c.rest = 0 ∧ c.ready = true ∧ c.row b ≠ none
  | .precharge => c.rest = 0 ∧ c.recovery = 0
  | .refresh => c.rest = 0 ∧ c.Shut
  | .mode => c.rest = 0 ∧ c.Shut ∧ T.refreshes ≤ c.refreshes
  | .other => False

/-- What a command changes. -/
def step (c : Chip B R) : Command B R C W → Chip B R
  | .activate b r =>
    { c with
      row := Function.update c.row b (some r), rest := T.activate, recovery := c.recovery - 1 }
  | .write _ _ _ => { c with rest := c.rest - 1, recovery := T.recovery }
  | .precharge =>
    { c with row := fun _ => none, rest := T.precharge, recovery := c.recovery - 1 }
  | .refresh =>
    { c with refreshes := c.refreshes + 1, rest := T.refresh, recovery := c.recovery - 1 }
  | .mode => { c with ready := true, rest := T.mode, recovery := c.recovery - 1 }
  | _ => { c with rest := c.rest - 1, recovery := c.recovery - 1 }

/-- The cell a command gets at. -/
def access (c : Chip B R) : Command B R C W → Option (Access (B × R × C) W)
  | .read b col => (c.row b).map fun r => .read (b, r, col)
  | .write b col put => (c.row b).map fun r => .write (b, r, col) put
  | _ => none

/-- The mode, once set, stays. -/
theorem ready_step {c : Chip B R} (h : c.ready = true) (cmd : Command B R C W) :
    (c.step T cmd).ready = true := by
  cases cmd <;> first | exact h | rfl

theorem Shut.open_activate {c : Chip B R} (h : c.Shut) (b : B) (r : R) :
    (c.step T (.activate b r : Command B R C W)).Open b r :=
  ⟨Function.update_self .., fun b' hb' => (Function.update_of_ne hb' ..).trans (h b')⟩

end Chip

section Runs

variable {B R C W : Type} [DecidableEq B] [DecidableEq R] [DecidableEq C]
variable (T : Setup) (c₀ : Chip B R) (cmd : Nat → Command B R C W)

/-- The chip before command `t`. -/
def chipAt (t : Nat) : Chip B R := Clocked.run (Chip.step T) c₀ cmd t

/-- What command `t` gets at. -/
def accessAt (t : Nat) : List (Access (B × R × C) W) :=
  ((chipAt T c₀ cmd t).access (cmd t)).toList

/-- `dq` is what a chip puts out that holds `mem` at the start: as long as it is told only
what it may be told, it answers each read, in the chip's time and unless its answer is
hidden, with what it then holds. -/
def Drives (shown : Nat → Prop) (mem : B × R × C → W) (dq : Nat → W) : Prop :=
  ∀ t a, (∀ u ≤ t, (chipAt T c₀ cmd u).Legal T (cmd u)) → shown t →
    accessAt T c₀ cmd t = [.read a] →
      dq (t + T.latency) = contents mem (log (accessAt T c₀ cmd) t) a

/-- The output of a chip that holds `mem` at the start; `rest` is on the line where no answer
is due. -/
def line (mem : B × R × C → W) (rest : W) (t : Nat) : W :=
  match accessAt T c₀ cmd (t - T.latency) with
  | [.read a] => contents mem (log (accessAt T c₀ cmd) (t - T.latency)) a
  | _ => rest

theorem drives_line (shown : Nat → Prop) (mem : B × R × C → W) (rest : W) :
    Drives T c₀ cmd shown mem (line T c₀ cmd mem rest) := by
  intro t a _ _ hread
  rw [line, Nat.add_sub_cancel, hread]

/-- What is on the line when an answer to command `t` is due. -/
def heardAt (dq : Nat → W) (t : Nat) : List W :=
  (accessAt T c₀ cmd t).flatMap fun x => x.sense (dq (t + T.latency))

variable {T c₀ cmd} {shown : Nat → Prop} {mem : B × R × C → W} {dq : Nat → W}

/-- **A chip that is well treated is a memory**: its answers are those of a memory given
the same accesses in the same order. -/
theorem heard_eq (hlegal : ∀ t, (chipAt T c₀ cmd t).Legal T (cmd t))
    (hshown : ∀ t a, accessAt T c₀ cmd t = [.read a] → shown t)
    (hdrives : Drives T c₀ cmd shown mem dq) (t : Nat) :
    log (heardAt T c₀ cmd dq) t = answers mem (log (accessAt T c₀ cmd) t) := by
  induction t with
  | zero => rfl
  | succ t ih =>
    have hhere : heardAt T c₀ cmd dq t
        = answers (contents mem (log (accessAt T c₀ cmd) t)) (accessAt T c₀ cmd t) := by
      cases hx : (chipAt T c₀ cmd t).access (cmd t) with
      | none =>
        have hnone : accessAt T c₀ cmd t = [] := congrArg Option.toList hx
        rw [heardAt, hnone]
        rfl
      | some x =>
        have hsome : accessAt T c₀ cmd t = [x] := congrArg Option.toList hx
        rw [heardAt, hsome]
        cases x with
        | read a =>
          have hdq := hdrives t a (fun u _ => hlegal u) (hshown t a hsome) hsome
          exact congrArg ([·]) hdq
        | write a put => rfl
    rw [log_succ, log_succ, answers_append, ih, hhere]

end Runs

end Dram
