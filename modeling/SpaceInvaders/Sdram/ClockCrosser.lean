import Mathlib.Data.Bool.Basic
import SpaceInvaders.Clocked.Conveyor
import SpaceInvaders.Clocked.Ring
import SpaceInvaders.Clocked.Run

/-!
# The clock crosser in front of the SDRAM

The processor runs on one clock, the SDRAM controller on another; requests and answers go
from one to the other through an `altera_avalon_st_clock_crosser`. The sender puts a word in a
buffer and flips a toggle, which goes through a synchronizer to the other clock; the receiver
hands the word over and copies the toggle, and the copy goes through a synchronizer back. A
synchronizer's first register may see a change at once or one clock late, as in the source's
own simulation of it (`random`).

The toggle, the registers it goes through, its copy and the registers that goes through are a
ring with one front (`Sound`). So whatever the order of the two clocks' edges and whatever the
first registers make of a change, every word crosses once and in order (`run_crosses`).
-/

namespace SpaceInvaders

open Clocked (Front Follows log log_conserved)

/-! ## The synchronizer -/

/-- The registers of an `altera_std_synchronizer_nocut` of depth `m + 2`. -/
structure Synchronizer (m : Nat) where
  dinLast : Bool
  dinS1 : Bool
  dreg : BitVec (m + 1)
deriving DecidableEq, Repr

namespace Synchronizer

variable {m : Nat} (s : Synchronizer m) (din random : Bool)

def reset : Synchronizer m := ⟨false, false, 0⟩

def nextDinS1 : Bool := if s.dinLast ^^ din then random else din

def step : Synchronizer m where
  dinLast := din
  dinS1 := s.nextDinS1 din random
  dreg := s.dreg.shiftConcat s.dinS1

def dout : Bool := s.dreg.getLsbD m

/-- The registers from the input to the output. -/
def bit (i : Nat) : Bool := if i = 0 then s.dinS1 else s.dreg.getLsbD (i - 1)

@[simp] theorem bit_zero : s.bit 0 = s.dinS1 := rfl

theorem bit_last : s.bit (m + 1) = s.dout := rfl

theorem bit_reset (i : Nat) : (reset : Synchronizer m).bit i = false := by
  rw [bit]
  split
  · rfl
  · exact BitVec.getLsbD_zero

theorem bit_step_succ {i : Nat} (hi : i ≤ m) :
    (s.step din random).bit (i + 1) = s.bit i := by
  show (s.dreg.shiftConcat s.dinS1).getLsbD i = s.bit i
  rw [BitVec.getLsbD_shiftConcat, decide_eq_true (Nat.lt_succ_of_le hi), Bool.true_and, bit]

/-- The first register has not seen a change that the input's last value does not show. -/
def Settled (s : Synchronizer m) (din : Bool) : Prop := s.dinLast ≠ din → s.dinS1 ≠ din

variable {s din}

theorem Settled.last_eq (h : s.Settled din) (hs : s.dinS1 = din) : s.dinLast = din := by
  by_contra hne
  exact h hne hs

theorem nextDinS1_of_last (h : s.dinLast = din) (random : Bool) :
    s.nextDinS1 din random = din := by
  rw [nextDinS1, h, Bool.xor_self]
  rfl

/-- A change is seen at once or one clock late. -/
theorem Settled.next (h : s.Settled din) (random : Bool) :
    s.nextDinS1 din random = s.dinS1 ∨ s.nextDinS1 din random = din := by
  by_cases hlast : s.dinLast = din
  · exact Or.inr (nextDinS1_of_last hlast random)
  · rw [Bool.eq_not.mpr (h hlast)]
    cases s.nextDinS1 din random <;> cases din <;> simp

/-- What the first register holds behind an input that has just changed. -/
theorem Settled.next_of_dinS1 (h : s.Settled din) (hs : s.dinS1 = din) (random : Bool) :
    s.nextDinS1 din random = din :=
  nextDinS1_of_last (h.last_eq hs) random

/-- The bits of a synchronizer that may have had an edge. -/
theorem Settled.bit_elim {α : Type} {f : α → Bool} (h : s.Settled din) (o : Option α) {i : Nat}
    (hi : i ≤ m + 1) :
    (o.elim s fun a => s.step din (f a)).bit i = s.bit i ∨
      (o.elim s fun a => s.step din (f a)).bit i
        = if i = 0 then din else s.bit (i - 1) := by
  cases o with
  | none => exact Or.inl rfl
  | some a =>
    cases i with
    | zero => exact h.next (f a)
    | succ i => exact Or.inr (s.bit_step_succ din (f a) (Nat.le_of_succ_le_succ hi))

theorem Settled.dinS1_elim {α : Type} {f : α → Bool} (h : s.Settled din) (hs : s.dinS1 = din)
    (o : Option α) : (o.elim s fun a => s.step din (f a)).dinS1 = din := by
  cases o with
  | none => exact hs
  | some a => exact h.next_of_dinS1 hs (f a)

/-- An input may change as soon as the first register shows it. -/
theorem Settled.elim {α : Type} {f : α → Bool} {din' : Bool} (h : s.Settled din)
    (o : Option α) (hdin : din' = din ∨ s.dinS1 = din ∧ din' = !din) :
    (o.elim s fun a => s.step din (f a)).Settled din' := by
  intro hne
  rcases hdin with rfl | ⟨hs, rfl⟩
  · cases o with
    | none => exact h hne
    | some a => exact absurd rfl hne
  · rw [h.dinS1_elim hs o]
    exact Bool.not_ne_self din |>.symm

end Synchronizer

/-! ## The crosser -/

/-- The registers of `in_clk`; the way back has depth `p + 2`. -/
structure CrosserIn (w p : Nat) where
  inDataBuffer : BitVec w
  inDataToggle : Bool
  outToIn : Synchronizer p
deriving DecidableEq, Repr

/-- The registers of `out_clk`; the way there has depth `m + 2`. -/
structure CrosserOut (w m : Nat) where
  outDataBuffer : BitVec w
  outDataToggleFlopped : Bool
  inToOut : Synchronizer m
deriving DecidableEq, Repr

/-- `altera_avalon_st_clock_crosser` without its output pipeline. -/
structure ClockCrosser (w m p : Nat) where
  inp : CrosserIn w p
  out : CrosserOut w m
deriving DecidableEq, Repr

/-- What an edge of `in_clk` samples. -/
structure CrosserOffer (w : Nat) where
  inValid : Bool
  inData : BitVec w
  random : Bool
deriving DecidableEq, Repr

/-- What an edge of `out_clk` samples. -/
structure CrosserPull where
  outReady : Bool
  random : Bool
deriving DecidableEq, Repr

/-- One moment: an edge of the one clock, of the other, or of both at once. -/
structure CrosserEdge (w : Nat) where
  inClk : Option (CrosserOffer w)
  outClk : Option CrosserPull
deriving DecidableEq, Repr

namespace ClockCrosser

variable {w m p : Nat} (s : ClockCrosser w m p)

def reset : ClockCrosser w m p where
  inp := ⟨0, false, Synchronizer.reset⟩
  out := ⟨0, false, Synchronizer.reset⟩

def inReady : Bool := !(s.inp.outToIn.dout ^^ s.inp.inDataToggle)

def takeInData (i : CrosserOffer w) : Bool := i.inValid && s.inReady

def outValid : Bool := s.out.inToOut.dout ^^ s.out.outDataToggleFlopped

def outDataTaken (o : CrosserPull) : Bool := o.outReady && s.outValid

def inEdge (i : CrosserOffer w) : CrosserIn w p where
  inDataBuffer := if s.takeInData i then i.inData else s.inp.inDataBuffer
  inDataToggle := if s.takeInData i then !s.inp.inDataToggle else s.inp.inDataToggle
  outToIn := s.inp.outToIn.step s.out.outDataToggleFlopped i.random

def outEdge (o : CrosserPull) : CrosserOut w m where
  outDataBuffer := s.inp.inDataBuffer
  outDataToggleFlopped :=
    if s.outDataTaken o then s.out.inToOut.dout else s.out.outDataToggleFlopped
  inToOut := s.out.inToOut.step s.inp.inDataToggle o.random

def step (e : CrosserEdge w) : ClockCrosser w m p where
  inp := e.inClk.elim s.inp s.inEdge
  out := e.outClk.elim s.out s.outEdge

/-- The word that an edge takes in. -/
def taken (e : CrosserEdge w) : List (BitVec w) :=
  e.inClk.elim [] fun i => if s.takeInData i then [i.inData] else []

/-- The word that an edge gives out. -/
def given (e : CrosserEdge w) : List (BitVec w) :=
  e.outClk.elim [] fun o => if s.outDataTaken o then [s.out.outDataBuffer] else []

/-- The word on its way. -/
def held : List (BitVec w) :=
  if s.inp.inDataToggle = s.out.outDataToggleFlopped then [] else [s.inp.inDataBuffer]

/-- The registers the toggle goes round. -/
def ring (i : Nat) : Bool :=
  if i = 0 then s.inp.inDataToggle
  else if i < m + 3 then s.out.inToOut.bit (i - 1)
  else if i = m + 3 then s.out.outDataToggleFlopped
  else s.inp.outToIn.bit (i - (m + 4))

@[simp] theorem ring_zero : s.ring 0 = s.inp.inDataToggle := rfl

theorem ring_there {i : Nat} (hi : i ≤ m + 1) : s.ring (i + 1) = s.out.inToOut.bit i := by
  rw [ring, if_neg (Nat.succ_ne_zero i), if_pos (by omega), Nat.add_sub_cancel]

theorem ring_shown : s.ring (m + 2) = s.out.inToOut.dout := by
  rw [s.ring_there (Nat.le_refl (m + 1)), Synchronizer.bit_last]

theorem ring_copy : s.ring (m + 3) = s.out.outDataToggleFlopped := by
  rw [ring, if_neg (Nat.succ_ne_zero _), if_neg (Nat.lt_irrefl _), if_pos rfl]

theorem ring_back (i : Nat) : s.ring (m + 4 + i) = s.inp.outToIn.bit i := by
  rw [ring, if_neg (by omega), if_neg (by omega), if_neg (by omega), Nat.add_sub_cancel_left]

theorem ring_returned : s.ring (m + p + 5) = s.inp.outToIn.dout := by
  rw [show m + p + 5 = m + 4 + (p + 1) by omega, ring_back, Synchronizer.bit_last]

/-! ## What holds in every run -/

/-- One front goes round, no first register is ahead of its input's last value, and where the
first register on the way there shows the toggle the word is copied. -/
structure Sound (s : ClockCrosser w m p) : Prop where
  front : ∃ k, Front (m + p + 6) k s.ring
  there : s.out.inToOut.Settled s.inp.inDataToggle
  back : s.inp.outToIn.Settled s.out.outDataToggleFlopped
  copied : s.out.inToOut.dinS1 = s.inp.inDataToggle →
    s.out.outDataBuffer = s.inp.inDataBuffer

variable {s} {e : CrosserEdge w}

theorem sound_reset : (reset : ClockCrosser w m p).Sound where
  front := by
    refine ⟨m + p + 6, by omega, Nat.le_refl _, fun i hi => ?_⟩
    rw [decide_eq_false (Nat.not_le_of_lt hi), Bool.xor_false]
    show (if i = 0 then false else if i < m + 3 then Synchronizer.reset.bit (i - 1)
      else if i = m + 3 then false else Synchronizer.reset.bit (i - (m + 4))) = false
    simp [Synchronizer.bit_reset]
  there := fun h => h
  back := fun h => h
  copied := fun _ => rfl

/-- A crosser that is ready has the front at the end of its ring. -/
theorem Sound.front_ready (h : s.Sound) (hr : s.inReady = true) :
    Front (m + p + 6) (m + p + 6) s.ring := by
  obtain ⟨k, hk⟩ := h.front
  have heq : s.ring 0 = s.ring (m + p + 5) := by
    rw [ring_returned]
    rw [inReady, Bool.not_eq_true', bne_eq_false_iff_eq] at hr
    exact hr.symm
  have hlast : ¬ k ≤ m + p + 5 := fun hle =>
    (hk.ne_iff (Nat.succ_pos _) (Nat.lt_succ_self _)).mpr ⟨hk.pos, hle⟩ heq
  rwa [show k = m + p + 6 from Nat.le_antisymm hk.le (Nat.lt_of_not_le hlast)] at hk

theorem outValid_iff (s : ClockCrosser w m p) :
    s.outValid = true ↔ s.ring (m + 2) ≠ s.ring (m + 3) := by
  rw [ring_shown, ring_copy]
  exact bne_iff_ne

/-- A crosser that shows a word has the front between the toggle and its copy. -/
theorem Sound.front_valid (h : s.Sound) (hv : s.outValid = true) :
    Front (m + p + 6) (m + 3) s.ring := by
  obtain ⟨k, hk⟩ := h.front
  have hat := (hk.ne_iff (Nat.lt_succ_self _) (by omega)).mp (s.outValid_iff.mp hv)
  rwa [show k = m + 3 by omega] at hk

/-- A crosser with a word on its way has the front on the way there. -/
theorem front_held (hh : s.held ≠ []) {k : Nat}
    (hk : Front (m + p + 6) k s.ring) : k ≤ m + 3 := by
  have hne : s.ring 0 ≠ s.ring (m + 3) := by
    rw [ring_copy, ring_zero]
    intro heq
    exact hh (if_pos heq)
  exact ((hk.ne_iff (by omega) (by omega)).mp hne).2

/-! ## One moment -/

/-- A word is taken in and the toggle flipped, or neither. -/
theorem taken_cases (s : ClockCrosser w m p) (e : CrosserEdge w) :
    (s.taken e = [] ∧ (s.step e).inp.inDataToggle = s.inp.inDataToggle ∧
      (s.step e).inp.inDataBuffer = s.inp.inDataBuffer) ∨
    (s.inReady = true ∧ (s.step e).inp.inDataToggle = !s.inp.inDataToggle ∧
      s.taken e = [(s.step e).inp.inDataBuffer]) := by
  cases hi : e.inClk with
  | none =>
    refine Or.inl ⟨?_, ?_, ?_⟩
    · rw [taken, hi]
      rfl
    · rw [step, hi]
      rfl
    · rw [step, hi]
      rfl
  | some i =>
    rw [step, taken, hi]
    show (ite _ _ _ = _ ∧ ite _ _ _ = _ ∧ ite _ _ _ = _) ∨
      (_ ∧ ite _ _ _ = _ ∧ ite _ _ _ = [ite _ _ _])
    cases htake : s.takeInData i with
    | false => exact Or.inl ⟨rfl, rfl, rfl⟩
    | true => exact Or.inr ⟨(Bool.and_eq_true_iff.mp htake).2, rfl, rfl⟩

/-- A word is given out and the toggle copied, or neither. -/
theorem given_cases (s : ClockCrosser w m p) (e : CrosserEdge w) :
    (s.given e = [] ∧ (s.step e).out.outDataToggleFlopped = s.out.outDataToggleFlopped) ∨
    (s.outValid = true ∧ s.given e = [s.out.outDataBuffer] ∧
      (s.step e).out.outDataToggleFlopped = s.out.inToOut.dout) := by
  cases ho : e.outClk with
  | none =>
    refine Or.inl ⟨?_, ?_⟩
    · rw [given, ho]
      rfl
    · rw [step, ho]
      rfl
  | some o =>
    rw [step, given, ho]
    show (ite _ _ _ = _ ∧ ite _ _ _ = _) ∨ (_ ∧ ite _ _ _ = _ ∧ ite _ _ _ = _)
    cases htake : s.outDataTaken o with
    | false => exact Or.inl ⟨rfl, rfl⟩
    | true => exact Or.inr ⟨(Bool.and_eq_true_iff.mp htake).2, rfl, rfl⟩

theorem out_inToOut (s : ClockCrosser w m p) (e : CrosserEdge w) :
    (s.step e).out.inToOut
      = e.outClk.elim s.out.inToOut fun o => s.out.inToOut.step s.inp.inDataToggle o.random := by
  rw [step]
  cases e.outClk <;> rfl

theorem inp_outToIn (s : ClockCrosser w m p) (e : CrosserEdge w) :
    (s.step e).inp.outToIn = e.inClk.elim s.inp.outToIn
      fun i => s.inp.outToIn.step s.out.outDataToggleFlopped i.random := by
  rw [step]
  cases e.inClk <;> rfl

/-- Every register of the ring keeps its value or takes its neighbour's. -/
theorem Sound.follows (h : s.Sound) (e : CrosserEdge w) :
    Follows (m + p + 6) s.ring (s.step e).ring := by
  intro i hi
  -- a register on the way there, the copy, or a register on the way back
  obtain hthere | rfl | ⟨j, rfl⟩ :
      i ≤ m + 1 ∨ i = m + 2 ∨ ∃ j, i = m + 3 + j := by
    by_cases hle : i ≤ m + 2
    · omega
    · exact Or.inr (Or.inr ⟨i - (m + 3), by omega⟩)
  · rw [ring_there _ hthere, ring_there _ hthere, out_inToOut]
    rcases h.there.bit_elim e.outClk hthere with hkeep | hcopy
    · exact Or.inl hkeep
    · refine Or.inr (hcopy.trans ?_)
      cases i with
      | zero => rfl
      | succ i => exact (ring_there s (Nat.le_of_succ_le hthere)).symm
  · rw [ring_copy, ring_copy, ring_shown]
    rcases given_cases s e with ⟨_, hkeep⟩ | ⟨_, _, hcopy⟩
    · exact Or.inl hkeep
    · exact Or.inr hcopy
  · rw [show m + 3 + j + 1 = m + 4 + j by omega, ring_back, ring_back, inp_outToIn]
    rcases h.back.bit_elim e.inClk (show j ≤ p + 1 by omega) with hkeep | hcopy
    · exact Or.inl hkeep
    · refine Or.inr (hcopy.trans ?_)
      cases j with
      | zero => exact (ring_copy s).symm
      | succ j => exact (show m + 3 + (j + 1) = m + 4 + j by omega) ▸ (ring_back s j).symm

/-- A word that is shown is the one on its way. -/
theorem Sound.shown (h : s.Sound) (hv : s.outValid = true) :
    s.out.outDataBuffer = s.inp.inDataBuffer := by
  have hfront := h.front_valid hv
  exact h.copied ((ring_there s (Nat.zero_le _)).symm.trans (hfront.before (by omega)))

/-- A crosser that is ready gives nothing out. -/
theorem Sound.given_ready (h : s.Sound) (hr : s.inReady = true) (e : CrosserEdge w) :
    s.given e = [] ∧ (s.step e).out.outDataToggleFlopped = s.out.outDataToggleFlopped := by
  rcases given_cases s e with hnone | ⟨hvalid, _⟩
  · exact hnone
  · have hfront := h.front_ready hr
    exact absurd ((hfront.before (by omega)).trans (hfront.before (by omega)).symm)
      (s.outValid_iff.mp hvalid)

/-- At rest the first register on the way there shows the toggle. -/
theorem Sound.rest_there (h : s.Sound) (hr : s.inReady = true) :
    s.out.inToOut.dinS1 = s.inp.inDataToggle :=
  (ring_there s (Nat.zero_le _)).symm.trans ((h.front_ready hr).before (by omega))

/-- At rest the copy is the toggle. -/
theorem Sound.rest_copy (h : s.Sound) (hr : s.inReady = true) :
    s.out.outDataToggleFlopped = s.inp.inDataToggle :=
  (ring_copy s).symm.trans ((h.front_ready hr).before (by omega))

/-- The copy changes only when the first register on the way back shows it. -/
theorem Sound.copy_step (h : s.Sound) (e : CrosserEdge w) :
    (s.step e).out.outDataToggleFlopped = s.out.outDataToggleFlopped ∨
      s.inp.outToIn.dinS1 = s.out.outDataToggleFlopped ∧
        (s.step e).out.outDataToggleFlopped = !s.out.outDataToggleFlopped := by
  rcases given_cases s e with ⟨_, hkeep⟩ | ⟨hvalid, _, hcopy⟩
  · exact Or.inl hkeep
  · -- the front is between the toggle and its copy, so all behind it is as the copy
    have hfront := h.front_valid hvalid
    refine Or.inr ⟨?_, ?_⟩
    · rw [← Synchronizer.bit_zero, ← ring_back, ← ring_copy]
      exact (hfront.behind (Nat.le_succ _) (by omega)).trans
        (hfront.behind (Nat.le_refl _) (by omega)).symm
    · rw [hcopy, ← ring_shown, ← ring_copy, hfront.before (Nat.lt_succ_self _),
        hfront.behind (Nat.le_refl _) (by omega), Bool.not_not]

theorem sound_step (h : s.Sound) (e : CrosserEdge w) : (s.step e).Sound := by
  rcases taken_cases s e with ⟨_, htoggle, hbuffer⟩ | ⟨hready, htoggle, _⟩
  · -- nothing is taken, and the front that there is goes on
    refine ⟨?_, ?_, ?_, fun hs => ?_⟩
    · obtain ⟨k, hk⟩ := h.front
      rcases hk.advance htoggle (h.follows e) with ⟨hk', _⟩ | ⟨_, hk', _⟩
      · exact ⟨k, hk'⟩
      · exact ⟨k + 1, hk'⟩
    · rw [out_inToOut, htoggle]
      exact h.there.elim _ (Or.inl rfl)
    · rw [inp_outToIn]
      exact h.back.elim _ (h.copy_step e)
    · rw [hbuffer]
      cases ho : e.outClk with
      | none =>
        rw [out_inToOut, ho, htoggle] at hs
        rw [step, ho]
        exact h.copied hs
      | some o =>
        -- the buffer is copied at every edge of `out_clk`
        rw [step, ho]
        rfl
  · -- the ring is at rest, and a new front sets out; the word is not copied yet
    have hs1 := h.rest_there hready
    refine ⟨⟨1, (h.front_ready hready).launch htoggle (h.follows e)⟩, ?_, ?_, fun hs => ?_⟩
    · rw [out_inToOut]
      exact h.there.elim _ (Or.inr ⟨hs1, htoggle⟩)
    · rw [inp_outToIn]
      exact h.back.elim _ (Or.inl (h.given_ready hready e).2)
    · rw [out_inToOut, h.there.dinS1_elim hs1, htoggle] at hs
      exact absurd hs.symm (Bool.not_ne_self _)

/-- What a moment takes and gives, and what is on its way. -/
theorem Sound.held_step (h : s.Sound) (e : CrosserEdge w) :
    s.held ++ s.taken e = s.given e ++ (s.step e).held := by
  rcases taken_cases s e with ⟨htaken, htoggle, hbuffer⟩ | ⟨hready, htoggle, htaken⟩
  · rw [htaken, List.append_nil]
    rcases given_cases s e with ⟨hgiven, hflopped⟩ | ⟨hvalid, hgiven, hflopped⟩
    · rw [hgiven, List.nil_append, held, held, htoggle, hbuffer, hflopped]
    · -- the word that leaves is the one on its way
      have hfront := h.front_valid hvalid
      have hne : s.inp.inDataToggle ≠ s.out.outDataToggleFlopped := by
        rw [← ring_zero, ← ring_copy]
        exact (hfront.ne_iff (by omega) (by omega)).mpr ⟨by omega, Nat.le_refl _⟩
      have heq : (s.step e).inp.inDataToggle = (s.step e).out.outDataToggleFlopped := by
        rw [htoggle, hflopped, ← ring_shown]
        exact (hfront.before (Nat.lt_succ_self _)).symm
      rw [hgiven, held, held, if_neg hne, if_pos heq, h.shown hvalid]
      rfl
  · -- at rest nothing is on its way, and nothing leaves
    have hat := h.rest_copy hready
    obtain ⟨hgiven, hflopped⟩ := h.given_ready hready e
    have hne : (s.step e).inp.inDataToggle ≠ (s.step e).out.outDataToggleFlopped := by
      rw [htoggle, hflopped, hat]
      exact Bool.not_ne_self _
    rw [hgiven, htaken, held, held, if_pos hat.symm, if_neg hne]

theorem length_held (s : ClockCrosser w m p) : s.held.length ≤ 1 := by
  rw [held]
  split
  · exact Nat.zero_le 1
  · exact Nat.le_refl 1

/-! ## Runs -/

section Runs

variable (m p) (ev : Nat → CrosserEdge w)

/-- The crosser after `t` moments, both of its halves reset at the start. -/
def fromReset (t : Nat) : ClockCrosser w m p := Clocked.run step reset ev t

def accepted (t : Nat) : List (BitVec w) := (fromReset m p ev t).taken (ev t)

def delivered (t : Nat) : List (BitVec w) := (fromReset m p ev t).given (ev t)

theorem sound_run (t : Nat) : (fromReset m p ev t).Sound :=
  Clocked.run_inv Sound sound_reset (fun _ e h => sound_step h e) t

theorem held_run (t : Nat) : (fromReset m p ev t).held ++ accepted m p ev t
    = delivered m p ev t ++ (fromReset m p ev (t + 1)).held :=
  (sound_run m p ev t).held_step (ev t)

/-- **Every word crosses once and in order**, however the edges of the two clocks fall and
whatever the first registers make of a change; at most one is on its way. -/
theorem run_crosses (t : Nat) :
    log (accepted m p ev) t = log (delivered m p ev) t ++ (fromReset m p ev t).held ∧
      (fromReset m p ev t).held.length ≤ 1 :=
  ⟨log_conserved rfl (held_run m p ev) t, length_held _⟩

end Runs

end ClockCrosser

end SpaceInvaders
