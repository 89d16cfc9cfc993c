import SpaceInvaders.Sdram.ClockCrosser

/-!
# Words cross in time

The front passes one register of a synchronizer at each edge of its clock, the first one at
the second edge at the latest (`Reached.advance`). So a word is shown after `m + 3` edges of
`out_clk` and leaves at the next one that finds `out_ready` (`run_delivers`); and when it has
left, `in_ready` is back after `p + 3` edges of `in_clk` and the next word is taken as soon as
it is offered (`run_accepts`). Nothing is said of the order of the edges: neither clock ever
waits for the other for good.
-/

namespace SpaceInvaders

open Clocked (Front countIn of_countIn log log_mono length_log_lt log_prefix_of_length)

namespace Synchronizer

variable {m : Nat} {s : Synchronizer m} {din : Bool}

/-- An edge moves every bit on, the input too if it is not a new one. -/
theorem bit_step (h : s.dinLast = din) (random : Bool) {i : Nat} (hi : i ≤ m + 1) :
    (s.step din random).bit i = if i = 0 then din else s.bit (i - 1) := by
  cases i with
  | zero => exact nextDinS1_of_last h random
  | succ i => exact s.bit_step_succ din random (Nat.le_of_succ_le_succ hi)

end Synchronizer

namespace ClockCrosser

variable {w m p : Nat} {s : ClockCrosser w m p} {e : CrosserEdge w}

/-! ## The way of the front -/

/-- The front is `d` registers behind bit `a`, and once it has left the bit the synchronizer
there knows the bit's value as its input's last. -/
structure Reached (s : ClockCrosser w m p) (a d : Nat) (last : Bool) : Prop where
  front : ∃ k, Front (m + p + 6) k s.ring ∧ a < k ∧ a + d ≤ k
  last : 0 < d → last = s.ring a

variable {a d : Nat} {last last' : Bool}

/-- The front does not go back. -/
theorem Reached.step (h : s.Reached a d last) (hs : s.Sound)
    (htoggle : (s.step e).inp.inDataToggle = s.inp.inDataToggle)
    (hat : (s.step e).ring a = s.ring a) (hlast : last' = last ∨ last' = s.ring a) :
    (s.step e).Reached a d last' := by
  obtain ⟨k, hk, hak, hdk⟩ := h.front
  refine ⟨?_, fun hd => ?_⟩
  · rcases hk.advance htoggle (hs.follows e) with ⟨hk', _⟩ | ⟨_, hk', _⟩
    · exact ⟨k, hk', hak, hdk⟩
    · exact ⟨k + 1, hk', Nat.lt_succ_of_lt hak, Nat.le_succ_of_le hdk⟩
  · rw [hat]
    rcases hlast with rfl | rfl
    · exact h.last hd
    · rfl

/-- Where the next bit copies, the front moves on. -/
theorem Reached.advance (h : s.Reached a d last) (hs : s.Sound)
    (htoggle : (s.step e).inp.inDataToggle = s.inp.inDataToggle)
    (hat : (s.step e).ring a = s.ring a) (hlast : last' = s.ring a) (hd : a + d < m + p + 6)
    (hcopy : 0 < d → last = s.ring a → (s.step e).ring (a + d) = s.ring (a + d - 1)) :
    (s.step e).Reached a (d + 1) last' := by
  refine ⟨?_, fun _ => hlast.trans hat.symm⟩
  obtain ⟨k, hk, hak, hdk⟩ := h.front
  rcases Nat.eq_zero_or_pos d with rfl | hpos
  · -- the first edge need not move it: the first register may see the change one edge late
    obtain ⟨k', hk', hak', _⟩ := (h.step hs htoggle hat (Or.inl rfl)).front
    exact ⟨k', hk', hak', hak'⟩
  · obtain ⟨k', hk', hdk'⟩ := hk.passes htoggle (hs.follows e) (by omega) hd hdk
      (hcopy hpos (h.last hpos))
    exact ⟨k', hk', by omega, hdk'⟩

/-- A word on its way keeps the toggle as it is. -/
theorem toggle_of_held (hs : s.Sound) (hheld : s.held ≠ []) (e : CrosserEdge w) :
    s.taken e = [] ∧ (s.step e).inp.inDataToggle = s.inp.inDataToggle := by
  rcases taken_cases s e with ⟨htaken, htoggle, _⟩ | ⟨hready, _, _⟩
  · exact ⟨htaken, htoggle⟩
  · have hle := front_held hheld (hs.front_ready hready)
    omega

/-- The way there, at an edge of `out_clk`. -/
theorem Reached.there (h : s.Reached 0 d s.out.inToOut.dinLast) (hs : s.Sound)
    (hheld : s.held ≠ []) (hd : d < m + 3) (ho : e.outClk.isSome) :
    (s.step e).Reached 0 (d + 1) (s.step e).out.inToOut.dinLast := by
  obtain ⟨o, ho⟩ := Option.isSome_iff_exists.mp ho
  have hstep : (s.step e).out.inToOut = s.out.inToOut.step s.inp.inDataToggle o.random := by
    rw [out_inToOut, ho]
    rfl
  have htoggle := (toggle_of_held hs hheld e).2
  refine h.advance hs htoggle htoggle (by rw [hstep]; rfl) (by omega) fun hpos hlast => ?_
  -- the synchronizer knows the toggle, so its first register takes it now
  obtain ⟨i, rfl⟩ := Nat.exists_eq_succ_of_ne_zero (Nat.pos_iff_ne_zero.mp hpos)
  have hi : i ≤ m + 1 := by omega
  rw [Nat.zero_add, Nat.succ_sub_one, Nat.succ_eq_add_one, ring_there _ hi, hstep,
    Synchronizer.bit_step (hlast.trans (ring_zero s)) _ hi]
  cases i with
  | zero => rfl
  | succ i => exact (ring_there s (Nat.le_of_succ_le hi)).symm

/-- The way there, at any other edge. -/
theorem Reached.there_keep (h : s.Reached 0 d s.out.inToOut.dinLast) (hs : s.Sound)
    (hheld : s.held ≠ []) : (s.step e).Reached 0 d (s.step e).out.inToOut.dinLast := by
  have htoggle := (toggle_of_held hs hheld e).2
  refine h.step hs htoggle htoggle ?_
  rw [out_inToOut]
  cases e.outClk with
  | none => exact Or.inl rfl
  | some o => exact Or.inr rfl

/-- The copy of the toggle stays as long as the front is behind it. -/
theorem Reached.copy (h : s.Reached (m + 3) d last) (e : CrosserEdge w) :
    s.given e = [] ∧ (s.step e).out.outDataToggleFlopped = s.out.outDataToggleFlopped := by
  rcases given_cases s e with hnone | ⟨hvalid, _⟩
  · exact hnone
  · obtain ⟨k, hk, hak, _⟩ := h.front
    exact absurd ((hk.before (Nat.lt_of_succ_lt hak)).trans (hk.before hak).symm)
      (s.outValid_iff.mp hvalid)

theorem Reached.copy_ring (h : s.Reached (m + 3) d last) (e : CrosserEdge w) :
    (s.step e).ring (m + 3) = s.ring (m + 3) := by
  rw [ring_copy, ring_copy]
  exact (h.copy e).2

/-- With nothing taken the toggle stays. -/
theorem toggle_of_taken (htaken : s.taken e = []) :
    (s.step e).inp.inDataToggle = s.inp.inDataToggle := by
  rcases taken_cases s e with ⟨_, htoggle, _⟩ | ⟨_, _, hsome⟩
  · exact htoggle
  · rw [htaken] at hsome
    cases hsome

/-- The way back, at an edge of `in_clk`. -/
theorem Reached.back (h : s.Reached (m + 3) d s.inp.outToIn.dinLast) (hs : s.Sound)
    (htaken : s.taken e = []) (hd : d < p + 3) (hi : e.inClk.isSome) :
    (s.step e).Reached (m + 3) (d + 1) (s.step e).inp.outToIn.dinLast := by
  obtain ⟨i, hi⟩ := Option.isSome_iff_exists.mp hi
  have hstep : (s.step e).inp.outToIn
      = s.inp.outToIn.step s.out.outDataToggleFlopped i.random := by
    rw [inp_outToIn, hi]
    rfl
  refine h.advance hs (toggle_of_taken htaken) (h.copy_ring e)
    (by rw [hstep, ring_copy]; rfl) (by omega) fun hpos hlast => ?_
  obtain ⟨j, rfl⟩ := Nat.exists_eq_succ_of_ne_zero (Nat.pos_iff_ne_zero.mp hpos)
  rw [show m + 3 + (j + 1) = m + 4 + j by omega, ring_back, hstep,
    Synchronizer.bit_step (hlast.trans (ring_copy s)) _ (show j ≤ p + 1 by omega)]
  cases j with
  | zero => exact (ring_copy s).symm
  | succ j => exact (show m + 4 + (j + 1) - 1 = m + 4 + j by omega) ▸ (ring_back s j).symm

/-- The way back, at any other edge. -/
theorem Reached.back_keep (h : s.Reached (m + 3) d s.inp.outToIn.dinLast) (hs : s.Sound)
    (htaken : s.taken e = []) :
    (s.step e).Reached (m + 3) d (s.step e).inp.outToIn.dinLast := by
  refine h.step hs (toggle_of_taken htaken) (h.copy_ring e) ?_
  rw [inp_outToIn, ring_copy]
  cases e.inClk with
  | none => exact Or.inl rfl
  | some i => exact Or.inr rfl

/-! ## Where the front has come to -/

/-- The front has left the toggle. -/
theorem Sound.reached_there (hs : s.Sound) : s.Reached 0 0 last := by
  obtain ⟨k, hk⟩ := hs.front
  exact ⟨⟨k, hk, hk.pos, Nat.zero_le k⟩, fun h => absurd h (Nat.lt_irrefl 0)⟩

/-- With nothing on its way the front has left the copy. -/
theorem Sound.reached_back (hs : s.Sound) (hheld : s.held = []) : s.Reached (m + 3) 0 last := by
  obtain ⟨k, hk⟩ := hs.front
  have hlt : m + 3 < k := by
    by_contra hle
    have hne := (hk.ne_iff (i := 0) (j := m + 3) (by omega) (by omega)).mpr ⟨hk.pos, by omega⟩
    rw [ring_copy, ring_zero] at hne
    rw [held, if_neg hne] at hheld
    cases hheld
  exact ⟨⟨k, hk, hlt, Nat.le_of_lt hlt⟩, fun h => absurd h (Nat.lt_irrefl 0)⟩

/-- After all the way there the word is shown. -/
theorem Reached.outValid (h : s.Reached 0 (m + 3) last) (hheld : s.held ≠ []) :
    s.outValid = true := by
  obtain ⟨k, hk, _, hdk⟩ := h.front
  have hle := front_held hheld hk
  exact s.outValid_iff.mpr
    ((hk.ne_iff (Nat.lt_succ_self _) (by omega)).mpr ⟨by omega, by omega⟩)

/-- After all the way back the next word may come. -/
theorem Reached.inReady (h : s.Reached (m + 3) (p + 3) last) : s.inReady = true := by
  obtain ⟨k, hk, _, hdk⟩ := h.front
  have heq : s.ring 0 = s.ring (m + p + 5) :=
    (hk.before (by omega)).trans (hk.before (by omega)).symm
  rw [ring_returned, ring_zero] at heq
  rw [ClockCrosser.inReady, heq, Bool.xor_self]
  rfl

/-! ## Runs -/

section Runs

/-- The moments with an edge of `in_clk`. -/
def inEdges (ev : Nat → CrosserEdge w) (t : Nat) : Bool := (ev t).inClk.isSome

/-- The moments with an edge of `out_clk`. -/
def outEdges (ev : Nat → CrosserEdge w) (t : Nat) : Bool := (ev t).outClk.isSome

/-- Both clocks tick at every moment, the sender always offers and the receiver always takes. -/
def bothBusy (t : Nat) : CrosserEdge 123 :=
  ⟨some ⟨true, BitVec.ofNat 123 t, false⟩, some ⟨true, false⟩⟩

variable {ev : Nat → CrosserEdge w} {t u : Nat}

/-- What is on its way and does not leave is shown. -/
theorem shown_run (htu : t ≤ u) (hheld : (fromReset m p ev t).held ≠ [])
    (hcount : m + 3 ≤ countIn (outEdges ev) t u)
    (hnone : ∀ v, t ≤ v → v < u → delivered m p ev v = []) :
    (fromReset m p ev u).outValid = true := by
  let P (d v : Nat) : Prop := (fromReset m p ev v).held ≠ [] ∧
    (fromReset m p ev v).Reached 0 d (fromReset m p ev v).out.inToOut.dinLast
  have hkept (v : Nat) (htv : t ≤ v) (hvu : v < u) (hv : (fromReset m p ev v).held ≠ []) :
      (fromReset m p ev (v + 1)).held ≠ [] := by
    have hstep := held_run m p ev v
    rw [hnone v htv hvu, List.nil_append] at hstep
    rw [← hstep]
    exact List.append_ne_nil_of_left_ne_nil hv _
  have hP : P (m + 3) u := by
    refine of_countIn (P := P) ⟨hheld, (sound_run m p ev t).reached_there⟩ ?_ ?_ htu
      (Nat.le_refl _) hcount
    · intro d v htv hvu h
      exact ⟨hkept v htv hvu h.1, h.2.there_keep (sound_run m p ev v) h.1⟩
    · intro d v htv hvu hout hd h
      exact ⟨hkept v htv hvu h.1, h.2.there (sound_run m p ev v) h.1 hd hout⟩
  exact hP.2.outValid hP.1

/-- **What has been taken is given out** by the first edge of `out_clk` with `out_ready` after
`m + 3` others, whatever the edges of `in_clk` do. -/
theorem run_delivers (htu : t ≤ u) (hcount : m + 3 ≤ countIn (outEdges ev) t u)
    {o : CrosserPull} (ho : (ev u).outClk = some o) (hready : o.outReady = true) :
    log (accepted m p ev) t <+: log (delivered m p ev) (u + 1) := by
  -- the word on its way leaves by `u`, and it is all that had not left
  have hlater : t ≤ u + 1 := Nat.le_succ_of_le htu
  refine log_prefix_of_length rfl (held_run m p ev) hlater ?_
  by_cases hheld : (fromReset m p ev t).held = []
  · rw [hheld]
    exact (log_mono _ hlater).length_le
  · have hgiven : ∃ v, t ≤ v ∧ v < u + 1 ∧ delivered m p ev v ≠ [] := by
      by_contra hnever
      have hnone (v : Nat) (htv : t ≤ v) (hvu : v < u + 1) : delivered m p ev v = [] := by
        by_contra hne
        exact hnever ⟨v, htv, hvu, hne⟩
      have hvalid := shown_run htu hheld hcount fun v htv hvu =>
        hnone v htv (Nat.lt_succ_of_lt hvu)
      have hnil := hnone u htu (Nat.lt_succ_self u)
      rw [delivered, given, ho, Option.elim_some, outDataTaken, hready, hvalid] at hnil
      cases hnil
    obtain ⟨v, htv, hvu, hne⟩ := hgiven
    have hlen := length_log_lt htv hvu hne
    have hone := length_held (fromReset m p ev t)
    omega

theorem bothBusy_delivers :
    log (accepted 0 0 bothBusy) 1 <+: log (delivered 0 0 bothBusy) (4 + 1) :=
  run_delivers (by decide) (by decide) (o := ⟨true, false⟩) rfl rfl

/-- Where everything has come out and nothing new is taken, the crosser gets ready. -/
theorem ready_run (htu : t ≤ u) (hheld : (fromReset m p ev t).held = [])
    (hcount : p + 3 ≤ countIn (inEdges ev) t u)
    (hnone : ∀ v, t ≤ v → v < u → accepted m p ev v = []) :
    (fromReset m p ev u).inReady = true := by
  let P (d v : Nat) : Prop :=
    (fromReset m p ev v).Reached (m + 3) d (fromReset m p ev v).inp.outToIn.dinLast
  have hP : P (p + 3) u := by
    refine of_countIn (P := P) ((sound_run m p ev t).reached_back hheld) ?_ ?_ htu
      (Nat.le_refl _) hcount
    · intro d v htv hvu h
      exact h.back_keep (sound_run m p ev v) (hnone v htv hvu)
    · intro d v htv hvu hin hd h
      exact h.back (sound_run m p ev v) (hnone v htv hvu) hd hin
  exact hP.inReady

/-- **The next word is taken**: once all has been given out and `p + 3` edges of `in_clk` have
passed, a word that is offered goes in, or one has gone in before. -/
theorem run_accepts (htu : t ≤ u) (hall : log (accepted m p ev) t = log (delivered m p ev) t)
    (hcount : p + 3 ≤ countIn (inEdges ev) t u) {i : CrosserOffer w}
    (hi : (ev u).inClk = some i) (hvalid : i.inValid = true) :
    (log (accepted m p ev) t).length < (log (accepted m p ev) (u + 1)).length := by
  have hheld : (fromReset m p ev t).held = [] := by
    have hcross := (run_crosses m p ev t).1
    rw [hall] at hcross
    exact List.append_right_eq_self.mp hcross.symm
  by_contra hfew
  have hnone (v : Nat) (htv : t ≤ v) (hvu : v < u + 1) : accepted m p ev v = [] := by
    by_contra hne
    exact hfew (length_log_lt htv hvu hne)
  have hready := ready_run htu hheld hcount fun v htv hvu => hnone v htv (Nat.lt_succ_of_lt hvu)
  have hnil := hnone u htu (Nat.lt_succ_self u)
  rw [accepted, taken, hi, Option.elim_some, takeInData, hvalid, hready] at hnil
  cases hnil

/-- The second word, after the first has been given out. -/
theorem bothBusy_accepts :
    (log (accepted 0 0 bothBusy) 5).length < (log (accepted 0 0 bothBusy) (8 + 1)).length :=
  run_accepts (by decide) (by decide) (by decide) (i := ⟨true, 8, false⟩) rfl rfl

end Runs

end ClockCrosser

end SpaceInvaders
