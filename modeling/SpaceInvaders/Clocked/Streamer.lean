import SpaceInvaders.Clocked.RowScan

/-!
# Streamers

A row scanner with a beginning and an end: it rests, on a signal it clears its row
and its address, streams the picture, and rests again; a reset puts it to rest from
anywhere. The address is a counter of its own here, and the point is that it
follows the two others.

A circuit is a streamer if each of its steps, seen through `Streamer`, is one of
`Streamer.Step` or a reset (`Streams`). Then the address is the scanner's in every
state of every run (`Streams.aligned`), and a pass that no reset interrupts is a
pass of the row scanner (`StreamPass.scannerPass`). For registers that are wide
enough for the picture, `step_await`, `step_draw` and `step_next` give the steps.
-/

namespace Clocked

inductive StreamPhase where
  | rest
  | clear
  | scan (p : ScanPhase)
  deriving DecidableEq

/-- What is seen of a streaming circuit. -/
structure Streamer where
  phase : StreamPhase
  x : Nat
  y : Nat
  address : Nat

namespace Streamer

/-- The scanner inside. -/
def scanner (s : Streamer) : Scanner :=
  { phase := match s.phase with
      | .scan p => p
      | _ => .await
    x := s.x, y := s.y }

variable (W H : Nat)

/-- What a step without a reset does. -/
inductive Step : Streamer → Streamer → Prop
  | stay {s s' : Streamer} : s.phase = .rest → s'.phase = .rest → Step s s'
  | start {s s' : Streamer} : s.phase = .rest → s'.phase = .clear → Step s s'
  | clear {s s' : Streamer} : s.phase = .clear → s'.phase = .scan .await →
      s'.y = 0 → s'.address = 0 → Step s s'
  | scan {s s' : Streamer} {p q : ScanPhase} : s.phase = .scan p → s'.phase = .scan q →
      Scanner.Step W H s.scanner s'.scanner →
      s'.address = s.address + (if p = .draw then 1 else 0) → Step s s'
  | finish {s s' : Streamer} : s.phase = .scan .draw → s.scanner.Final W H →
      s'.phase = .rest → Step s s'

/-- In a pass the counters are inside the picture, and the address is theirs. -/
def Aligned (s : Streamer) : Prop :=
  ∀ p, s.phase = .scan p → s.scanner.InBox W H ∧ s.address = s.scanner.address W

variable {W H} {s s' : Streamer}

theorem scanner_phase {p : ScanPhase} (h : s.phase = .scan p) : s.scanner.phase = p := by
  simp only [scanner, h]

theorem scanner_draw_iff : s.scanner.phase = .draw ↔ s.phase = .scan .draw := by
  unfold scanner
  split
  next p hp => rw [hp, StreamPhase.scan.injEq]
  next hp => exact ⟨fun h => (nomatch h), fun h => absurd h (hp .draw)⟩

/-! ### Counters of fixed width -/

section Counters

variable {X Y A : Nat}

/-- A step that waits for a row. -/
theorem step_await (hs : s.phase = .scan .await)
    (hnext : s'.phase = .scan .await ∨ s'.phase = .scan .draw) (hx : s'.x = 0)
    (hy : s'.y = s.y) (haddr : s'.address = s.address) : Step W H s s' := by
  rcases hnext with hnext | hnext
  · exact .scan hs hnext
      (Scanner.step_of_await (scanner_phase hs) (Or.inl (scanner_phase hnext)) hx hy) haddr
  · exact .scan hs hnext
      (Scanner.step_of_await (scanner_phase hs) (Or.inr (scanner_phase hnext)) hx hy) haddr

/-- A word, with counters wide enough for the picture. -/
theorem step_draw (hs : s.phase = .scan .draw) (ha : s.Aligned W H) (hX : W < X)
    (hA : W * H < A)
    (hnext : s'.phase = if s.x + 1 ≠ W then .scan .draw
      else if s.y + 1 ≠ H then .scan .next else .rest)
    (hx : s'.x = (s.x + 1) % X) (hy : s'.y = s.y)
    (haddr : s'.address = (s.address + 1) % A) : Step W H s s' := by
  obtain ⟨hbox, hold⟩ := ha _ hs
  have hword := Scanner.address_lt hbox (scanner_phase hs)
  rw [← hold] at hword
  -- the address does not wrap inside the picture
  rw [Nat.mod_eq_of_lt (by omega)] at haddr
  split_ifs at hnext with hend hlast
  · refine .scan hs hnext (Scanner.step_of_draw hbox (scanner_phase hs) hX ?_ ?_ hx hy) haddr
    · exact fun h => absurd h hend
    · rw [scanner_phase hnext]
      exact (if_neg hend).symm
  · refine .scan hs hnext (Scanner.step_of_draw hbox (scanner_phase hs) hX ?_ ?_ hx hy) haddr
    · exact fun _ => hlast
    · rw [scanner_phase hnext]
      exact (if_pos (not_not.mp hend)).symm
  · exact .finish hs ⟨scanner_phase hs, not_not.mp hend, not_not.mp hlast⟩ hnext

/-- The step to the next row. -/
theorem step_next (hs : s.phase = .scan .next) (ha : s.Aligned W H) (hY : H ≤ Y)
    (hnext : s'.phase = .scan .await) (hx : s'.x = s.x) (hy : s'.y = (s.y + 1) % Y)
    (haddr : s'.address = s.address) : Step W H s s' :=
  .scan hs hnext
    (Scanner.step_of_next (ha _ hs).1 (scanner_phase hs) hY (scanner_phase hnext) hx hy) haddr

end Counters

/-! ### The address -/

theorem aligned_of_rest (h : s.phase = .rest) : s.Aligned W H := by
  intro p hp
  rw [h] at hp
  cases hp

/-- The first word is at address 0. -/
theorem inBox_of_clear (hH : 0 < H) (hp : s'.phase = .scan .await) (hy : s'.y = 0) :
    s'.scanner.InBox W H ∧ s'.scanner.address W = 0 := by
  have hphase := scanner_phase hp
  have hy' : s'.scanner.y = 0 := hy
  unfold Scanner.InBox Scanner.address
  rw [hphase, hy']
  exact ⟨⟨hH, trivial⟩, rfl⟩

/-- **Every step keeps the address aligned.** -/
theorem aligned_step (hW : 0 < W) (hH : 0 < H) (h : Step W H s s') (hs : s.Aligned W H) :
    s'.Aligned W H := by
  cases h with
  | stay hrest hrest' => exact aligned_of_rest hrest'
  | start hrest hclear' =>
    intro p hp
    rw [hclear'] at hp
    cases hp
  | clear hclear hawait hy haddr =>
    intro p hp
    obtain ⟨hbox, hzero⟩ := inBox_of_clear (W := W) hH hawait hy
    exact ⟨hbox, haddr.trans hzero.symm⟩
  | @scan p q hp hq hstep haddr =>
    intro _ _
    obtain ⟨hbox, hold⟩ := hs p hp
    refine ⟨Scanner.inBox_step hW hstep hbox, ?_⟩
    rw [haddr, Scanner.address_step hstep hbox, hold, scanner_phase hp]
  | finish hdraw hfinal hrest => exact aligned_of_rest hrest

end Streamer

open Streamer

/-- The sequence `v` of states is one of a streamer, reset where `reset` says. What a
step does may rest on the counters being inside the picture. -/
structure Streams (W H : Nat) (v : Nat → Streamer) (reset : Nat → Prop) : Prop where
  width : 0 < W
  height : 0 < H
  init : (v 0).phase = .rest
  step : ∀ t, ¬ reset t → (v t).Aligned W H → Step W H (v t) (v (t + 1))
  toRest : ∀ t, reset t → (v (t + 1)).phase = .rest

/-- From step `a` to step `b` the streamer goes from `clear` to rest, with no reset and
no rest in between. -/
structure StreamPass (v : Nat → Streamer) (reset : Nat → Prop) (a b : Nat) : Prop where
  starts : (v a).phase = .clear
  lt : a < b
  inside : ∀ u, a ≤ u → u < b → ¬ reset u ∧ (v u).phase ≠ .rest
  ends : (v b).phase = .rest

section Runs

variable {W H : Nat} {v : Nat → Streamer} {reset : Nat → Prop}

/-- **The address follows the counters** throughout a run. -/
theorem Streams.aligned (h : Streams W H v reset) (t : Nat) : (v t).Aligned W H := by
  induction t with
  | zero => exact aligned_of_rest h.init
  | succ t ih =>
    by_cases hr : reset t
    · exact aligned_of_rest (h.toRest t hr)
    · exact aligned_step h.width h.height (h.step t hr ih) ih

/-- The step out of `clear`. -/
theorem Streams.cleared (h : Streams W H v reset) {t : Nat} (hr : ¬ reset t)
    (hs : (v t).phase = .clear) :
    (v (t + 1)).phase = .scan .await ∧ (v (t + 1)).y = 0 := by
  cases h.step t hr (h.aligned t) with
  | stay hrest _ => rw [hs] at hrest; cases hrest
  | start hrest _ => rw [hs] at hrest; cases hrest
  | clear _ hawait hy _ => exact ⟨hawait, hy⟩
  | scan hp _ _ _ => rw [hs] at hp; cases hp
  | finish hdraw _ _ => rw [hs] at hdraw; cases hdraw

/-- A step inside a pass is one of the scanner, or the last. -/
theorem Streams.scanning (h : Streams W H v reset) {t : Nat} (hr : ¬ reset t)
    {p : ScanPhase} (hs : (v t).phase = .scan p) :
    ((∃ p', (v (t + 1)).phase = .scan p') ∧
        Scanner.Step W H (v t).scanner (v (t + 1)).scanner) ∨
      ((v (t + 1)).phase = .rest ∧ (v t).scanner.Final W H) := by
  cases h.step t hr (h.aligned t) with
  | stay hrest _ => rw [hs] at hrest; cases hrest
  | start hrest _ => rw [hs] at hrest; cases hrest
  | clear hclear _ _ _ => rw [hs] at hclear; cases hclear
  | scan _ hp' hstep _ => exact Or.inl ⟨⟨_, hp'⟩, hstep⟩
  | finish _ hfinal hrest => exact Or.inr ⟨hrest, hfinal⟩

namespace StreamPass

variable {a b : Nat}

/-- After `clear` every state before the end is one of the scanner. -/
theorem scanning (hs : Streams W H v reset) (h : StreamPass v reset a b) {u : Nat}
    (hau : a + 1 ≤ u) (hub : u < b) : ∃ p, (v u).phase = .scan p := by
  induction hau with
  | refl => exact ⟨_, (hs.cleared (h.inside a (Nat.le_refl a) h.lt).1 h.starts).1⟩
  | @step u hle ih =>
    have hau : a < u := hle
    obtain ⟨p, hp⟩ := ih (by omega)
    rcases hs.scanning (h.inside u (by omega) (by omega)).1 hp with ⟨hp', _⟩ | ⟨hrest, _⟩
    · exact hp'
    · exact absurd hrest (h.inside (u + 1) (by omega) hub).2

theorem succ_lt (hs : Streams W H v reset) (h : StreamPass v reset a b) : a + 1 < b := by
  refine Nat.lt_of_le_of_ne h.lt fun heq => ?_
  have hawait := (hs.cleared (h.inside a (Nat.le_refl a) h.lt).1 h.starts).1
  have hends := h.ends
  rw [← heq, hawait] at hends
  cases hends

/-- **A pass without a reset is a pass of the row scanner.** -/
theorem scannerPass (hs : Streams W H v reset) (h : StreamPass v reset a b) :
    Scanner.Pass W H (fun t => (v t).scanner) (a + 1) b where
  lt := h.succ_lt hs
  inBox := by
    obtain ⟨hawait, hy⟩ := hs.cleared (h.inside a (Nat.le_refl a) h.lt).1 h.starts
    exact (inBox_of_clear hs.height hawait hy).1
  first := by
    obtain ⟨hawait, hy⟩ := hs.cleared (h.inside a (Nat.le_refl a) h.lt).1 h.starts
    exact (inBox_of_clear hs.height hawait hy).2
  step := by
    intro u hau hub
    obtain ⟨p, hp⟩ := h.scanning hs hau (by omega)
    rcases hs.scanning (h.inside u (by omega) (by omega)).1 hp with ⟨_, hstep⟩ | ⟨hrest, _⟩
    · exact hstep
    · exact absurd hrest (h.inside (u + 1) (by omega) hub).2
  last := by
    have hlt := h.succ_lt hs
    obtain ⟨p, hp⟩ := h.scanning hs (u := b - 1) (by omega) (by omega)
    have hends := h.ends
    rw [show b = (b - 1) + 1 by omega] at hends
    rcases hs.scanning (h.inside (b - 1) (by omega) (by omega)).1 hp with
      ⟨⟨p', hp'⟩, _⟩ | ⟨_, hfinal⟩
    · rw [hends] at hp'
      cases hp'
    · exact hfinal

end StreamPass

end Runs

end Clocked
