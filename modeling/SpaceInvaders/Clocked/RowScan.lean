import Mathlib.Data.List.Range
import SpaceInvaders.Clocked.Run

/-!
# Row scanners

A circuit that streams a picture of `W` by `H` words row by row: it waits for the
place of a row, puts out the row's words in consecutive steps, and moves on to the
next row. `Scanner` is its phase and its two counters, `Scanner.Step` what it may
do between the first word and the last, whatever it waits for.

The two counters are one number, `address`, which counts the words put out
(`address_step`); so a pass puts out each word once, in order, however long its
waits (`Pass.addresses`, `Pass.pixels`), and a scanner that is never kept waiting
gets to the last word (`exists_final`). What a circuit puts out in a window of its
run is `emitted`.
-/

namespace Clocked

/-! ## What is put out in a window -/

section Emitted

variable {α β : Type}

/-- The values of `out` at the steps `v` with `a ≤ v < t` at which `p` holds, in
order. -/
def emitted (p : Nat → Bool) (out : Nat → α) (a t : Nat) : List α :=
  ((List.range' a (t - a)).filter p).map out

@[simp] theorem emitted_self (p : Nat → Bool) (out : Nat → α) (a : Nat) :
    emitted p out a a = [] := by
  simp [emitted]

theorem emitted_succ (p : Nat → Bool) (out : Nat → α) {a t : Nat} (hat : a ≤ t) :
    emitted p out a (t + 1) = emitted p out a t ++ if p t then [out t] else [] := by
  unfold emitted
  rw [show t + 1 - a = (t - a) + 1 by omega, List.range'_1_concat, List.filter_append,
    List.map_append, show a + (t - a) = t by omega]
  cases hp : p t <;> simp [hp]

/-- The first step of a window, apart. -/
theorem emitted_skip (p : Nat → Bool) (out : Nat → α) {a t : Nat} (hat : a < t)
    (h : p a = false) : emitted p out a t = emitted p out (a + 1) t := by
  unfold emitted
  rw [show t - a = (t - (a + 1)) + 1 by omega, List.range'_succ, List.filter_cons_of_neg]
  simp [h]

/-- What is put out is what it is a function of, mapped. -/
theorem emitted_eq_map {p : Nat → Bool} {out : Nat → β} {key : Nat → α} (g : α → β)
    {a t : Nat} (h : ∀ v, a ≤ v → v < t → p v = true → out v = g (key v)) :
    emitted p out a t = (emitted p key a t).map g := by
  unfold emitted
  rw [List.map_map]
  refine List.map_congr_left fun v hv => ?_
  obtain ⟨hmem, hp⟩ := List.mem_filter.mp hv
  rw [List.mem_range'_1] at hmem
  exact h v hmem.1 (by omega) hp

/-- A window seen from a later start, and only as it is seen there. -/
theorem emitted_shift {p p' : Nat → Bool} {out out' : Nat → α} (c : Nat) {a t : Nat}
    (hp : ∀ v, a ≤ v → v < t → p' v = p (c + v))
    (hout : ∀ v, a ≤ v → v < t → p' v = true → out' v = out (c + v)) :
    emitted p out (c + a) (c + t) = emitted p' out' a t := by
  unfold emitted
  rw [show c + t - (c + a) = t - a by omega, ← List.map_add_range', List.filter_map,
    List.map_map]
  have hfilter : (List.range' a (t - a)).filter (p ∘ (c + ·))
      = (List.range' a (t - a)).filter p' := by
    refine List.filter_congr fun v hv => ?_
    rw [List.mem_range'_1] at hv
    exact (hp v hv.1 (by omega)).symm
  rw [hfilter]
  refine List.map_congr_left fun v hv => ?_
  obtain ⟨hmem, hv⟩ := List.mem_filter.mp hv
  rw [List.mem_range'_1] at hmem
  exact (hout v hmem.1 (by omega) hv).symm

/-- What is put out under a condition that can be read off it. -/
theorem emitted_and {p q : Nat → Bool} {key : Nat → α} (f : α → Bool) {a t : Nat}
    (h : ∀ v, a ≤ v → v < t → p v = true → q v = f (key v)) :
    emitted (fun v => p v && q v) key a t = (emitted p key a t).filter f := by
  unfold emitted
  rw [List.filter_map]
  congr 1
  rw [List.filter_filter]
  refine List.filter_congr fun v hv => ?_
  rw [List.mem_range'_1] at hv
  cases hp : p v with
  | false => simp
  | true => simp [h v hv.1 (by omega) hp]

end Emitted

/-! ## The scanner -/

inductive ScanPhase where
  | await
  | draw
  | next
  deriving DecidableEq

structure Scanner where
  phase : ScanPhase
  x : Nat
  y : Nat

namespace Scanner

variable (W H : Nat)

/-- The steps between the first word and the last. The column counter is cleared
while the scanner waits, and counts the words of a row. -/
inductive Step : Scanner → Scanner → Prop
  | wait (x y : Nat) : Step ⟨.await, x, y⟩ ⟨.await, 0, y⟩
  | enter (x y : Nat) : Step ⟨.await, x, y⟩ ⟨.draw, 0, y⟩
  | word (x y : Nat) : x + 1 ≠ W → Step ⟨.draw, x, y⟩ ⟨.draw, x + 1, y⟩
  | rowEnd (x y : Nat) : x + 1 = W → y + 1 ≠ H → Step ⟨.draw, x, y⟩ ⟨.next, x + 1, y⟩
  | row (x y : Nat) : Step ⟨.next, x, y⟩ ⟨.await, x, y + 1⟩

/-- The last word of the picture. -/
def Final (s : Scanner) : Prop := s.phase = .draw ∧ s.x + 1 = W ∧ s.y + 1 = H

/-- The counters are inside the picture. -/
def InBox (s : Scanner) : Prop :=
  s.y < H ∧ match s.phase with
    | .await => True
    | .draw => s.x < W
    | .next => s.x = W ∧ s.y + 1 < H

/-- The number of words before the one the scanner is at. -/
def address (s : Scanner) : Nat :=
  match s.phase with
  | .await => W * s.y
  | .draw => W * s.y + s.x
  | .next => W * s.y + s.x

variable {W H}

theorem inBox_step (hW : 0 < W) {s s' : Scanner} (h : Step W H s s') (hin : s.InBox W H) :
    s'.InBox W H := by
  cases h with
  | wait x y => exact ⟨hin.1, trivial⟩
  | enter x y => exact ⟨hin.1, hW⟩
  | word x y hx => exact ⟨hin.1, Nat.lt_of_le_of_ne hin.2 hx⟩
  | rowEnd x y hx hy => exact ⟨hin.1, hx, Nat.lt_of_le_of_ne hin.1 hy⟩
  | row x y => exact ⟨hin.2.2, trivial⟩

/-- **The address counts the words.** -/
theorem address_step {s s' : Scanner} (h : Step W H s s') (hin : s.InBox W H) :
    s'.address W = s.address W + if s.phase = .draw then 1 else 0 := by
  cases h with
  | wait x y => rfl
  | enter x y => rfl
  | word x y hx => rfl
  | rowEnd x y hx hy => rfl
  | row x y =>
    have hx : x = W := hin.2.1
    show W * (y + 1) = W * y + x + 0
    rw [hx, Nat.mul_succ]
    rfl

/-- Within a row a word follows a word. -/
theorem phase_of_word {s s' : Scanner} (h : Step W H s s') (hdraw : s.phase = .draw)
    (hx : s.x + 1 ≠ W) : s'.phase = .draw := by
  cases h with
  | wait x y => cases hdraw
  | enter x y => rfl
  | word x y _ => rfl
  | rowEnd x y hend _ => exact absurd hend hx
  | row x y => cases hdraw

theorem address_lt {s : Scanner} (hin : s.InBox W H) (hdraw : s.phase = .draw) :
    s.address W < W * H := by
  obtain ⟨hy, hrest⟩ := hin
  rw [hdraw] at hrest
  have hrow : W * (s.y + 1) ≤ W * H := Nat.mul_le_mul_left W hy
  rw [Nat.mul_succ] at hrow
  simp only [address, hdraw]
  omega

theorem address_final {s : Scanner} (h : s.Final W H) : s.address W + 1 = W * H := by
  obtain ⟨hdraw, hx, hy⟩ := h
  simp only [address, hdraw]
  rw [← hy, Nat.mul_succ]
  omega

/-- The counters from the address. -/
theorem counters_of_address {s : Scanner} (hin : s.InBox W H) (hdraw : s.phase = .draw) :
    (s.y, s.x) = (s.address W / W, s.address W % W) := by
  have hx : s.x < W := by
    have hrest := hin.2
    rwa [hdraw] at hrest
  simp only [address, hdraw]
  rw [Nat.mul_add_div (by omega), Nat.mul_add_mod, Nat.div_eq_of_lt hx, Nat.mod_eq_of_lt hx]
  rfl

/-! ## Counters of fixed width -/

section Counters

variable {X Y : Nat} {s s' : Scanner}

/-- Waiting for a row, with a column counter that is cleared meanwhile. -/
theorem step_of_await (hs : s.phase = .await) (hnext : s'.phase = .await ∨ s'.phase = .draw)
    (hx : s'.x = 0) (hy : s'.y = s.y) : Step W H s s' := by
  obtain ⟨_, x, y⟩ := s
  obtain ⟨_, x', y'⟩ := s'
  obtain rfl : _ = _ := hs
  obtain rfl : x' = 0 := hx
  obtain rfl : y' = y := hy
  rcases hnext with hnext | hnext
  · obtain rfl : _ = _ := hnext
    exact .wait x y'
  · obtain rfl : _ = _ := hnext
    exact .enter x y'

/-- A word that is not the last, with a column counter wide enough for a row. -/
theorem step_of_draw (hin : s.InBox W H) (hs : s.phase = .draw) (hX : W < X)
    (hmore : s.x + 1 = W → s.y + 1 ≠ H)
    (hnext : s'.phase = if s.x + 1 = W then .next else .draw)
    (hx : s'.x = (s.x + 1) % X) (hy : s'.y = s.y) : Step W H s s' := by
  obtain ⟨_, x, y⟩ := s
  obtain ⟨_, x', y'⟩ := s'
  obtain rfl : _ = _ := hs
  have hcolumn : x < W := hin.2
  -- the counter does not wrap inside the row
  rw [Nat.mod_eq_of_lt (show x + 1 < X by omega)] at hx
  obtain rfl : x' = x + 1 := hx
  obtain rfl : y' = y := hy
  obtain rfl : _ = _ := hnext
  by_cases hend : x + 1 = W
  · rw [if_pos hend]
    exact .rowEnd x y' hend (hmore hend)
  · rw [if_neg hend]
    exact .word x y' hend

/-- On to the next row, with a row counter wide enough for the picture. -/
theorem step_of_next (hin : s.InBox W H) (hs : s.phase = .next) (hY : H ≤ Y)
    (hnext : s'.phase = .await) (hx : s'.x = s.x) (hy : s'.y = (s.y + 1) % Y) :
    Step W H s s' := by
  obtain ⟨_, x, y⟩ := s
  obtain ⟨_, x', y'⟩ := s'
  obtain rfl : _ = _ := hs
  have hrow : y + 1 < H := hin.2.2
  rw [Nat.mod_eq_of_lt (show y + 1 < Y by omega)] at hy
  obtain rfl : x' = x := hx
  obtain rfl : y' = y + 1 := hy
  obtain rfl : _ = _ := hnext
  exact .row x' y

end Counters

/-! ## A pass over the picture -/

/-- The rows of a picture of `W` by `H`, top to bottom, each left to right. -/
def rowMajor (W H : Nat) : List (Nat × Nat) :=
  (List.range H).flatMap fun y => (List.range W).map fun x => (y, x)

theorem rowMajor_eq {W : Nat} (hW : 0 < W) (H : Nat) :
    rowMajor W H = (List.range (W * H)).map fun k => (k / W, k % W) := by
  unfold rowMajor
  induction H with
  | zero => rfl
  | succ H ih =>
    rw [List.range_succ, List.flatMap_append, ih, Nat.mul_succ, List.range_add,
      List.map_append, List.map_map, List.flatMap_singleton]
    congr 1
    refine List.map_congr_left fun x hx => ?_
    have hlt : x < W := List.mem_range.mp hx
    show (H, x) = ((W * H + x) / W, (W * H + x) % W)
    rw [Nat.mul_add_div hW, Nat.mul_add_mod, Nat.div_eq_of_lt hlt, Nat.mod_eq_of_lt hlt,
      Nat.add_zero]

/-- From step `a` to step `b` the scanner `s` goes from before the first word
through the last one. -/
structure Pass (W H : Nat) (s : Nat → Scanner) (a b : Nat) : Prop where
  lt : a < b
  inBox : (s a).InBox W H
  first : (s a).address W = 0
  step : ∀ v, a ≤ v → v + 1 < b → Step W H (s v) (s (v + 1))
  last : (s (b - 1)).Final W H

/-- The scanner puts out a word at step `v`. -/
def drawsAt (s : Nat → Scanner) (v : Nat) : Bool := (s v).phase == .draw

/-- The words of a circuit whose states are phases of the scanner. -/
theorem drawsAt_eq_of {α : Type} [DecidableEq α] {s : Nat → Scanner} {state : Nat → α}
    {draw : α} (h : ∀ v, (s v).phase = .draw ↔ state v = draw) :
    drawsAt s = fun v => state v == draw := by
  funext v
  rw [Bool.eq_iff_iff, drawsAt, beq_iff_eq, beq_iff_eq]
  exact h v

namespace Pass

variable {s : Nat → Scanner} {a b : Nat}

theorem inBox_of_lt (hW : 0 < W) (h : Pass W H s a b) {v : Nat} (hav : a ≤ v)
    (hvb : v < b) : (s v).InBox W H := by
  induction hav with
  | refl => exact h.inBox
  | step hle ih => exact inBox_step hW (h.step _ hle hvb) (ih (by omega))

/-- What has been put out before a step of the pass. -/
theorem addresses_before (hW : 0 < W) (h : Pass W H s a b) {v : Nat} (hav : a ≤ v)
    (hvb : v < b) :
    emitted (drawsAt s) (fun u => (s u).address W) a v = List.range ((s v).address W) := by
  -- by induction along the pass: each word put out is the next address
  induction hav with
  | refl => rw [emitted_self, h.first, List.range_zero]
  | @step v hle ih =>
    rw [emitted_succ _ _ hle, ih (by omega),
      address_step (h.step v hle hvb) (h.inBox_of_lt hW hle (by omega))]
    by_cases hdraw : (s v).phase = .draw
    · simp [drawsAt, hdraw, List.range_succ]
    · simp [drawsAt, hdraw]

/-- **A pass puts out every word once, in order.** -/
theorem addresses (hW : 0 < W) (h : Pass W H s a b) :
    emitted (drawsAt s) (fun u => (s u).address W) a b = List.range (W * H) := by
  have hlt := h.lt
  have hlast := h.last
  rw [show b = (b - 1) + 1 by omega, emitted_succ _ _ (by omega),
    h.addresses_before hW (by omega) (by omega), ← address_final hlast, List.range_succ]
  simp [drawsAt, hlast.1]

/-- **A pass is the picture, row by row.** -/
theorem pixels (hW : 0 < W) (h : Pass W H s a b) :
    emitted (drawsAt s) (fun u => ((s u).y, (s u).x)) a b = rowMajor W H := by
  rw [rowMajor_eq hW, ← h.addresses hW]
  refine emitted_eq_map _ fun v hav hvb hdraw => ?_
  exact counters_of_address (h.inBox_of_lt hW hav hvb) (by simpa [drawsAt] using hdraw)

/-- The words of a row are put out without a break. -/
theorem consecutive (h : Pass W H s a b) {v : Nat} (hav : a ≤ v) (hvb : v < b)
    (hdraw : (s v).phase = .draw) (hx : (s v).x + 1 ≠ W) :
    v + 1 < b ∧ (s (v + 1)).phase = .draw := by
  have hnext : v + 1 < b := by
    refine Nat.lt_of_le_of_ne hvb fun heq => hx ?_
    have hlast := h.last
    rw [← heq] at hlast
    exact hlast.2.1
  exact ⟨hnext, phase_of_word (h.step v hav hnext) hdraw hx⟩

end Pass

/-! ## A scanner that is not kept waiting -/

/-- What is left to do: three for each word, and the two steps between rows. -/
def remaining (W H : Nat) (s : Scanner) : Nat :=
  3 * (W * H - s.address W) +
    match s.phase with
    | .await => 1
    | .draw => 0
    | .next => 2

theorem remaining_step {W H : Nat} {s s' : Scanner} (h : Step W H s s') (hin : s.InBox W H)
    (hdraw : s.phase = .await → s'.phase = .draw) :
    s'.remaining W H < s.remaining W H := by
  have haddr := address_step h hin
  have hlt : s.phase = .draw → s.address W < W * H := address_lt hin
  unfold remaining
  cases h with
  | wait x y => cases hdraw rfl
  | enter x y =>
    rw [haddr]
    simp
  | word x y hx =>
    have hword := hlt rfl
    rw [haddr]
    simp only [if_true]
    omega
  | rowEnd x y hx hy =>
    have hword := hlt rfl
    rw [haddr]
    simp only [if_true]
    omega
  | row x y =>
    rw [haddr]
    simp

/-- A machine that runs as a scanner until the last word, and never waits twice,
gets to the last word. -/
theorem exists_final {σ : Type} {W H : Nat} (hW : 0 < W) {f : σ → σ} (scan : σ → Scanner)
    (Inv : σ → Prop)
    (hstep : ∀ c, Inv c → (scan c).InBox W H → ¬ (scan c).Final W H →
      Inv (f c) ∧ Step W H (scan c) (scan (f c)) ∧
        ((scan c).phase = .await → (scan (f c)).phase = .draw))
    {c : σ} (hinv : Inv c) (hin : (scan c).InBox W H) :
    ∃ n, (∀ k ≤ n, Inv (Nat.iterate f k c)) ∧ (scan (Nat.iterate f n c)).Final W H := by
  generalize hr : (scan c).remaining W H = r
  induction r using Nat.strongRecOn generalizing c with
  | ind r ih =>
    -- each step before the last word leaves less to do
    by_cases hfinal : (scan c).Final W H
    · refine ⟨0, fun k hk => ?_, hfinal⟩
      rw [Nat.le_zero.mp hk]
      exact hinv
    · obtain ⟨hinv', hs, hdraw⟩ := hstep c hinv hin hfinal
      have hless := remaining_step hs hin hdraw
      rw [hr] at hless
      obtain ⟨n, hkept, hn⟩ := ih _ hless hinv' (inBox_step hW hs hin) rfl
      refine ⟨n + 1, fun k hk => ?_, hn⟩
      cases k with
      | zero => exact hinv
      | succ k => exact hkept k (Nat.le_of_succ_le_succ hk)

end Scanner

end Clocked
