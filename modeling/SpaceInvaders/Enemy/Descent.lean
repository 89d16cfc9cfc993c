import SpaceInvaders.Enemy.Bounce

/-!
# The descent of the formation

The vertical side of the orbit. The rows sunk are counted by `rowsSunk` of the
frames since the launch, and the box, `D_Edge`, `U_Edge` and `LOST` are all
functions of that one number (`box_of_framed`): so the equality test on 355
cannot be stepped over, the counters stop at 213 and 356, and every launched
formation is lost at frame 426.
-/

namespace SpaceInvaders

open Clocked (Edge Separated run countIn alternating)

namespace Reference

/-- The turning states sink by a row each. -/
theorem rowsSunk_frame (n : Nat) :
    rowsSunk (n + 1) = rowsSunk n +
      if orbitState n = .moveDownLeft ∨ orbitState n = .moveDownRight then 1 else 0 := by
  unfold rowsSunk
  rcases orbit_cases n with ⟨hn, hr, hs, _⟩ | ⟨hn, hr, hs, _⟩ | ⟨hn, hr, hs, _⟩ |
    ⟨hn, hr, hs, _⟩ | ⟨hn, hs, _⟩ <;> simp [hs] <;> omega

theorem orbitState_lost_iff (n : Nat) : orbitState n = .lost ↔ rowsSunk n = 213 := by
  unfold rowsSunk
  rcases orbit_cases n with ⟨hn, hr, hs, _⟩ | ⟨hn, hr, hs, _⟩ | ⟨hn, hr, hs, _⟩ |
    ⟨hn, hr, hs, _⟩ | ⟨hn, hs, _⟩ <;> simp [hs] <;> omega

/-- From `LOST` on the orbit stands still. -/
theorem orbit_lost {n k : Nat} (h : orbitState n = .lost) (hnk : n ≤ k) :
    orbit k = orbit n := by
  have hn : 426 ≤ n := by
    have hcase := orbit_cases n
    grind
  have hk : 426 ≤ k := by omega
  have hrows : rowsSunk k = rowsSunk n := by
    unfold rowsSunk
    omega
  unfold orbit orbitState orbitLeft lostFrame
  rw [if_pos hn, if_pos hk, if_pos hn, if_pos hk, hrows]

end Reference

namespace Formation

open Reference (orbit orbitState orbitLeft rowsSunk)

/-! ## What the descent promises -/

/-- The box has its size, and is at the bottom exactly when the game is lost. -/
structure BoxSound (f : Formation) : Prop where
  height : f.dEdge - f.uEdge = 143#10
  width : f.rEdge - f.lEdge = 487#10
  top : 143 ≤ f.dEdge.toNat
  bottom : f.dEdge.toNat ≤ 356
  lost_iff : f.dEdge = 356#10 ↔ f.state = .lost

variable (f₀ : Formation) (ev : Nat → Edge Bool)

/-- Edge `t` is a frame that finds a `MOVE_DOWN` state. -/
def sinksAt (t : Nat) : Bool :=
  (ev t).isSlow && ((run step f₀ ev t).state == .moveDownLeft ||
    (run step f₀ ev t).state == .moveDownRight)

/-- The descent ends in `LOST` and never runs past it. -/
structure DescentSound : Prop where
  box : ∀ t, Framed ev t → (run step f₀ ev t).BoxSound
  monotone : ∀ t u, Framed ev t → t ≤ u →
    (run step f₀ ev t).uEdge.toNat ≤ (run step f₀ ev u).uEdge.toNat ∧
      (run step f₀ ev t).dEdge.toNat ≤ (run step f₀ ev u).dEdge.toNat
  absorbed : ∀ t u, (run step f₀ ev t).state = .lost → t ≤ u →
    (run step f₀ ev u).observe = (run step f₀ ev t).observe
  noWrap : ∀ t, sinksAt f₀ ev t = true →
    (run step f₀ ev (t + 1)).uEdge.toNat = (run step f₀ ev t).uEdge.toNat + 1 ∧
      (run step f₀ ev (t + 1)).dEdge.toNat = (run step f₀ ev t).dEdge.toNat + 1
  rows : ∀ t, countIn (sinksAt f₀ ev) 0 t ≤ 213
  ends : ∀ t, 426 ≤ frames f₀ ev t → (run step f₀ ev t).state = .lost

variable {f₀ ev}

/-! ## Everything vertical is the number of rows sunk -/

/-- The box from the rows sunk, in `INIT` and on the orbit alike. -/
theorem box_of_framed (h0 : f₀.PowerUp) (hsep : Separated ev) {t : Nat}
    (ht : Framed ev t) :
    (run step f₀ ev t).uEdge = BitVec.ofNat 10 (rowsSunk (frames f₀ ev t)) ∧
    (run step f₀ ev t).dEdge = 143#10 + BitVec.ofNat 10 (rowsSunk (frames f₀ ev t)) ∧
    (run step f₀ ev t).rEdge = 487#10 + (run step f₀ ev t).lEdge ∧
    ((run step f₀ ev t).state = .lost ↔ rowsSunk (frames f₀ ev t) = 213) := by
  rcases onOrbit h0 hsep t with ⟨hinit, hn, hloaded⟩ | ⟨_, horbit⟩
  · have hbox := hloaded ht
    have hl : (run step f₀ ev t).lEdge = 0#10 := congrArg Reference.lEdge hbox
    refine ⟨?_, ?_, ?_, ?_⟩
    · rw [hn]; exact congrArg Reference.uEdge hbox
    · rw [hn]; exact congrArg Reference.dEdge hbox
    · rw [hl]; exact congrArg Reference.rEdge hbox
    · rw [hn, hinit]; simp [rowsSunk]
  · have hl : (run step f₀ ev t).lEdge = orbitLeft _ := congrArg Reference.lEdge horbit
    have hs : (run step f₀ ev t).state = orbitState _ := congrArg Reference.state horbit
    refine ⟨congrArg Reference.uEdge horbit, congrArg Reference.dEdge horbit, ?_, ?_⟩
    · rw [hl]; exact congrArg Reference.rEdge horbit
    · rw [hs]; exact Reference.orbitState_lost_iff _

theorem uEdge_of_framed (h0 : f₀.PowerUp) (hsep : Separated ev) {t : Nat}
    (ht : Framed ev t) :
    (run step f₀ ev t).uEdge.toNat = rowsSunk (frames f₀ ev t) := by
  have hle := Reference.rowsSunk_le (frames f₀ ev t)
  rw [(box_of_framed h0 hsep ht).1, BitVec.toNat_ofNat]
  omega

theorem dEdge_of_framed (h0 : f₀.PowerUp) (hsep : Separated ev) {t : Nat}
    (ht : Framed ev t) :
    (run step f₀ ev t).dEdge.toNat = 143 + rowsSunk (frames f₀ ev t) := by
  have hle := Reference.rowsSunk_le (frames f₀ ev t)
  rw [(box_of_framed h0 hsep ht).2.1, BitVec.toNat_add, BitVec.toNat_ofNat,
    BitVec.toNat_ofNat]
  omega

theorem boxSound (h0 : f₀.PowerUp) (hsep : Separated ev) {t : Nat}
    (ht : Framed ev t) : (run step f₀ ev t).BoxSound := by
  obtain ⟨hu, hd, hr, hlost⟩ := box_of_framed h0 hsep ht
  have hdown := dEdge_of_framed h0 hsep ht
  have hle := Reference.rowsSunk_le (frames f₀ ev t)
  refine ⟨?_, ?_, by omega, by omega, ?_⟩
  · rw [hu, hd]
    exact add_sub_cancel_right _ _
  · rw [hr]
    exact add_sub_cancel_right _ _
  · rw [hlost, ← BitVec.toNat_inj, hdown, BitVec.toNat_ofNat]
    omega

theorem framed_of_le {t u : Nat} (ht : Framed ev t) (htu : t ≤ u) : Framed ev u := by
  obtain ⟨v, hv, hslow⟩ := ht
  exact ⟨v, by omega, hslow⟩

theorem framed_of_moving (h0 : f₀.PowerUp) (hsep : Separated ev) {t : Nat}
    (h : (run step f₀ ev t).state ≠ .init) : Framed ev t := by
  rcases onOrbit h0 hsep t with ⟨hinit, _⟩ | ⟨hframed, _⟩
  · exact absurd hinit h
  · exact hframed

/-- A sinking frame, on the orbit. -/
theorem sinksAt_iff {t : Nat} : sinksAt f₀ ev t = true ↔ ev t = .slow ∧
    ((run step f₀ ev t).state = .moveDownLeft ∨
      (run step f₀ ev t).state = .moveDownRight) := by
  unfold sinksAt
  cases hev : ev t <;> simp [Edge.isSlow]

/-- The rows sunk are the sinking frames. -/
theorem countIn_sinksAt (h0 : f₀.PowerUp) (hsep : Separated ev) (t : Nat) :
    countIn (sinksAt f₀ ev) 0 t = rowsSunk (frames f₀ ev t) := by
  induction t with
  | zero =>
    rw [show frames f₀ ev 0 = 0 from Clocked.countIn_self _ _]
    exact Clocked.countIn_self _ _
  | succ t ih =>
    cases hev : ev t with
    | fast i =>
      have hno : sinksAt f₀ ev t = false := by rw [sinksAt, hev]; rfl
      rw [Clocked.countIn_succ_of_false hno, frames_fast hev, ih]
    | slow =>
      -- in `INIT` neither side counts, on the orbit both count the same frames
      by_cases hinit : (run step f₀ ev t).state = .init
      · have hno : sinksAt f₀ ev t = false := by simp [sinksAt, hinit]
        rw [Clocked.countIn_succ_of_false hno, frames_init hinit, ih]
      · have hs : (run step f₀ ev t).state = orbitState (frames f₀ ev t) :=
          congrArg Reference.state (orbit_of_moving h0 hsep hinit)
        rw [frames_slow hev hinit, Reference.rowsSunk_frame, ← hs, ← ih]
        split_ifs with hsinks
        · exact Clocked.countIn_succ_of_true (Nat.zero_le t) (sinksAt_iff.mpr ⟨hev, hsinks⟩)
        · refine Clocked.countIn_succ_of_false (Bool.eq_false_iff.mpr ?_)
          exact fun h => hsinks (sinksAt_iff.mp h).2

theorem frames_mono {t u : Nat} (htu : t ≤ u) : frames f₀ ev t ≤ frames f₀ ev u :=
  Clocked.countIn_mono _ 0 htu

/-- A lost formation stands still. -/
theorem observe_of_lost (h0 : f₀.PowerUp) (hsep : Separated ev) {t u : Nat}
    (hlost : (run step f₀ ev t).state = .lost) (htu : t ≤ u) :
    (run step f₀ ev u).observe = (run step f₀ ev t).observe := by
  have ht : (run step f₀ ev t).state ≠ .init := by rw [hlost]; simp
  have hheld : f₀.LostHeld := fun h => absurd (h0.state.symm.trans h) (by decide)
  have hu : (run step f₀ ev u).state ≠ .init := by
    rw [lost_of_le hheld htu hlost]
    simp
  have horbit := orbit_of_moving h0 hsep ht
  have hs : orbitState (frames f₀ ev t) = .lost :=
    (congrArg Reference.state horbit).symm.trans hlost
  rw [orbit_of_moving h0 hsep hu, horbit]
  exact Reference.orbit_lost hs (frames_mono htu)

/-- A launched formation is lost at frame 426. -/
theorem lost_of_frames (h0 : f₀.PowerUp) (hsep : Separated ev) {t : Nat}
    (h : 426 ≤ frames f₀ ev t) : (run step f₀ ev t).state = .lost := by
  have hmoving := moving_of_frames h0 hsep (t := t) (by omega)
  refine (congrArg Reference.state (orbit_of_moving h0 hsep hmoving)).trans ?_
  show orbitState (frames f₀ ev t) = .lost
  unfold orbitState
  exact if_pos h

/-- A sinking frame counts both edges up by one. -/
theorem edges_of_sinksAt (h0 : f₀.PowerUp) (hsep : Separated ev) {t : Nat}
    (h : sinksAt f₀ ev t = true) :
    (run step f₀ ev (t + 1)).uEdge.toNat = (run step f₀ ev t).uEdge.toNat + 1 ∧
      (run step f₀ ev (t + 1)).dEdge.toNat = (run step f₀ ev t).dEdge.toNat + 1 := by
  have hcount := countIn_sinksAt h0 hsep (t + 1)
  rw [Clocked.countIn_succ_of_true (Nat.zero_le t) h, countIn_sinksAt h0 hsep t] at hcount
  have hmoving : (run step f₀ ev t).state ≠ .init := by
    rcases (sinksAt_iff.mp h).2 with hs | hs <;> simp [hs]
  have ht := framed_of_moving h0 hsep hmoving
  have hnext : Framed ev (t + 1) := framed_of_le ht (Nat.le_succ t)
  rw [uEdge_of_framed h0 hsep ht, uEdge_of_framed h0 hsep hnext,
    dEdge_of_framed h0 hsep ht, dEdge_of_framed h0 hsep hnext]
  omega

/-- **The descent ends in `LOST` and never runs past it**, for every `Start`
sequence and every order of the two clocks in which they are separated. -/
theorem descentSound (h0 : f₀.PowerUp) (hsep : Separated ev) : DescentSound f₀ ev where
  box := fun _ ht => boxSound h0 hsep ht
  monotone := by
    intro t u ht htu
    have hu := framed_of_le ht htu
    have hrows : rowsSunk (frames f₀ ev t) ≤ rowsSunk (frames f₀ ev u) :=
      Reference.rowsSunk_mono (frames_mono htu)
    rw [uEdge_of_framed h0 hsep ht, uEdge_of_framed h0 hsep hu,
      dEdge_of_framed h0 hsep ht, dEdge_of_framed h0 hsep hu]
    exact ⟨hrows, by omega⟩
  absorbed := fun _ _ hlost htu => observe_of_lost h0 hsep hlost htu
  noWrap := fun _ h => edges_of_sinksAt h0 hsep h
  rows := by
    intro t
    rw [countIn_sinksAt h0 hsep t]
    exact Reference.rowsSunk_le _
  ends := fun _ h => lost_of_frames h0 hsep h

/-- `Start` held high, one `Clk` edge per frame. -/
theorem alternating_descentSound : DescentSound powerUp (alternating true) :=
  descentSound ⟨rfl, rfl⟩ (Clocked.alternating_wellTimed true).separated

end Formation

end SpaceInvaders
