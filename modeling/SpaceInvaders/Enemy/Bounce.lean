import Mathlib.Tactic.IntervalCases
import SpaceInvaders.Enemy.Refine

/-!
# The orbit of the formation

The one-clock formation takes no decision but the launch: once out of `INIT` its
registers are a function of the number `n` of frames since (`orbit`). It is
launched against the left wall, so `reached_edge` is up at once and every second
frame is a turn: right, down-left, left, down-right, a period of four frames in
which the box wanders between `L_Edge = 1` and `L_Edge = -1` and sinks by two
rows, until `D_Edge` passes 355 at frame 426.

`orbit_step` is the step lemma, `observe_eq` carries it along a run of the
two-clock machine. What is to be known about the motion is then read off the
orbit.
-/

namespace SpaceInvaders

open Clocked (Edge Separated run run_succ countIn)

namespace Reference

/-- What an `INIT` frame loads. -/
def loaded : Reference :=
  { state := .init, lEdge := 0#10, rEdge := 487#10, uEdge := 0#10, dEdge := 143#10 }

/-- The frame at which the orbit reaches `LOST`. -/
def lostFrame : Nat := 426

/-- The rows sunk after `n` frames. -/
def rowsSunk (n : Nat) : Nat := min (n / 2) 213

/-- The state `n` frames after the launch. -/
def orbitState (n : Nat) : FormationState :=
  if lostFrame ≤ n then .lost
  else match n % 4 with
    | 0 => .moveRight
    | 1 => .moveDownLeft
    | 2 => .moveLeft
    | _ => .moveDownRight

/-- `L_Edge`, `n` frames after the launch. -/
def orbitLeft (n : Nat) : BitVec 10 :=
  if lostFrame ≤ n then 0
  else match n % 4 with
    | 1 => 1
    | 3 => -1
    | _ => 0

/-- The registers `n` frames after the launch. -/
def orbit (n : Nat) : Reference :=
  { state := orbitState n
    lEdge := orbitLeft n
    rEdge := 487#10 + orbitLeft n
    uEdge := BitVec.ofNat 10 (rowsSunk n)
    dEdge := 143#10 + BitVec.ofNat 10 (rowsSunk n) }

theorem rowsSunk_le (n : Nat) : rowsSunk n ≤ 213 := Nat.min_le_right _ _

theorem rowsSunk_mono {n k : Nat} (h : n ≤ k) : rowsSunk n ≤ rowsSunk k := by
  unfold rowsSunk
  omega

/-- The five parts of the orbit: a period of four frames, and `LOST`. -/
theorem orbit_cases (n : Nat) :
    (n < 426 ∧ n % 4 = 0 ∧ orbitState n = .moveRight ∧ orbitLeft n = 0) ∨
    (n < 426 ∧ n % 4 = 1 ∧ orbitState n = .moveDownLeft ∧ orbitLeft n = 1) ∨
    (n < 426 ∧ n % 4 = 2 ∧ orbitState n = .moveLeft ∧ orbitLeft n = 0) ∨
    (n < 426 ∧ n % 4 = 3 ∧ orbitState n = .moveDownRight ∧ orbitLeft n = -1) ∨
    (426 ≤ n ∧ orbitState n = .lost ∧ orbitLeft n = 0) := by
  unfold orbitState orbitLeft lostFrame
  by_cases hlost : 426 ≤ n
  · simp [hlost]
  · have hphase : n % 4 < 4 := Nat.mod_lt _ (by decide)
    have hlt : n < 426 := by omega
    interval_cases hr : n % 4 <;> simp [hlost, hlt]

/-- The box is at its column again two frames later. -/
theorem orbitLeft_succ (n : Nat) :
    orbitLeft n + stepX (orbitState n) = orbitLeft (n + 1) := by
  have hnext := orbit_cases (n + 1)
  rcases orbit_cases n with ⟨hn, hr, hs, hl⟩ | ⟨hn, hr, hs, hl⟩ | ⟨hn, hr, hs, hl⟩ |
    ⟨hn, hr, hs, hl⟩ | ⟨hn, hs, hl⟩
  · have hl' : orbitLeft (n + 1) = 1 := by grind
    rw [hs, hl, hl']; rfl
  · have hl' : orbitLeft (n + 1) = 0 := by grind
    rw [hs, hl, hl']; rfl
  · have hl' : orbitLeft (n + 1) = -1 := by grind
    rw [hs, hl, hl']; rfl
  · have hl' : orbitLeft (n + 1) = 0 := by grind
    rw [hs, hl, hl']; rfl
  · have hl' : orbitLeft (n + 1) = 0 := by grind
    rw [hs, hl, hl']; rfl

/-- A row is sunk in the two turning states only. -/
theorem rowsSunk_succ (n : Nat) :
    BitVec.ofNat 10 (rowsSunk n) + stepY (orbitState n)
      = BitVec.ofNat 10 (rowsSunk (n + 1)) := by
  have hrow : rowsSunk (n + 1) = rowsSunk n + if n < 426 then n % 2 else 0 := by
    unfold rowsSunk
    split_ifs <;> omega
  have hsunk : stepY (orbitState n) = BitVec.ofNat 10 (if n < 426 then n % 2 else 0) := by
    rcases orbit_cases n with ⟨hn, hr, hs, _⟩ | ⟨hn, hr, hs, _⟩ | ⟨hn, hr, hs, _⟩ |
      ⟨hn, hr, hs, _⟩ | ⟨hn, hs, _⟩
    · rw [hs, if_pos hn, show n % 2 = 0 by omega]; rfl
    · rw [hs, if_pos hn, show n % 2 = 1 by omega]; rfl
    · rw [hs, if_pos hn, show n % 2 = 0 by omega]; rfl
    · rw [hs, if_pos hn, show n % 2 = 1 by omega]; rfl
    · rw [hs, if_neg (by omega)]; rfl
  rw [hsunk, hrow, BitVec.ofNat_add]

/-- `reached_max` is up in the two frames before `LOST`. -/
theorem reachedMax_orbit (n : Nat) :
    ((orbit n).dEdge == 355#10) = (rowsSunk n == 212) := by
  have hle := rowsSunk_le n
  show (143#10 + BitVec.ofNat 10 (rowsSunk n) == 355#10) = (rowsSunk n == 212)
  rw [Bool.eq_iff_iff, beq_iff_eq, beq_iff_eq, ← BitVec.toNat_inj, BitVec.toNat_add,
    BitVec.toNat_ofNat]
  simp only [BitVec.toNat_ofNat]
  omega

/-- The `case` table along the orbit: `reached_edge` is up whenever it is asked. -/
theorem next_orbit (n : Nat) (start : Bool) :
    next (orbitState n) ((orbit n).rEdge == 639#10 || (orbit n).lEdge == 0#10)
      ((orbit n).dEdge == 355#10) start = orbitState (n + 1) := by
  rw [reachedMax_orbit]
  show next (orbitState n) (487#10 + orbitLeft n == 639#10 || orbitLeft n == 0#10) _ _ = _
  have hnext := orbit_cases (n + 1)
  rcases orbit_cases n with ⟨hn, hr, hs, hl⟩ | ⟨hn, hr, hs, hl⟩ | ⟨hn, hr, hs, hl⟩ |
    ⟨hn, hr, hs, hl⟩ | ⟨hn, hs, hl⟩
  · have hs' : orbitState (n + 1) = .moveDownLeft := by grind
    rw [hs, hl, hs']; rfl
  · -- the last frame before `LOST` is one of these
    rcases Nat.eq_or_lt_of_le (show n ≤ 425 by omega) with rfl | hlt
    · rfl
    · have hs' : orbitState (n + 1) = .moveLeft := by grind
      have hmax : (rowsSunk n == 212) = false := by
        rw [beq_eq_false_iff_ne]
        unfold rowsSunk
        omega
      rw [hs, hmax, hs']; rfl
  · have hs' : orbitState (n + 1) = .moveDownRight := by grind
    rw [hs, hl, hs']; rfl
  · have hs' : orbitState (n + 1) = .moveRight := by grind
    have hmax : (rowsSunk n == 212) = false := by
      rw [beq_eq_false_iff_ne]
      unfold rowsSunk
      omega
    rw [hs, hmax, hs']; rfl
  · have hs' : orbitState (n + 1) = .lost := by grind
    rw [hs, hs']; rfl

theorem orbitState_ne_init (n : Nat) : orbitState n ≠ .init := by
  rcases orbit_cases n with ⟨-, -, hs, -⟩ | ⟨-, -, hs, -⟩ | ⟨-, -, hs, -⟩ |
    ⟨-, -, hs, -⟩ | ⟨-, hs, -⟩ <;> simp [hs]

/-- **The orbit is one**: a frame leads from each of its points to the next,
whatever `Start` is. -/
theorem orbit_step (n : Nat) (start : Bool) :
    (orbit n).step start = orbit (n + 1) := by
  have hinit : (orbit n).state ≠ .init := orbitState_ne_init n
  have hnext := next_orbit n start
  have hleft := orbitLeft_succ n
  have hrows := rowsSunk_succ n
  unfold step
  rw [if_neg hinit]
  show Reference.mk (next (orbitState n) _ _ _) (orbitLeft n + stepX (orbitState n))
    (487#10 + orbitLeft n + stepX (orbitState n))
    (BitVec.ofNat 10 (rowsSunk n) + stepY (orbitState n))
    (143#10 + BitVec.ofNat 10 (rowsSunk n) + stepY (orbitState n)) = _
  rw [hnext, add_assoc, add_assoc, hleft, hrows]
  rfl

/-- The launch: an `INIT` frame loads the box, and a sampled `Start` enters the
orbit. -/
theorem init_step {r : Reference} (h : r.state = .init) (start : Bool) :
    r.step start = if start then orbit 0 else loaded := by
  unfold step
  rw [if_pos h, h]
  cases start <;> rfl

end Reference

/-! ## The two-clock formation on its orbit -/

namespace Formation

open Reference (orbit loaded)

/-- Both enumerated registers at their first literal; the others hold anything. -/
structure PowerUp (f : Formation) : Prop where
  state : f.state = .init
  stateNext : f.stateNext = .init

variable (f₀ : Formation) (ev : Nat → Edge Bool)

/-- Some edge before `t` is a frame. -/
def Framed (t : Nat) : Prop := ∃ u, u < t ∧ ev u = .slow

/-- Edge `t` is a frame that finds the formation launched. -/
def movesAt (t : Nat) : Bool :=
  (ev t).isSlow && (run step f₀ ev t).state != .init

/-- The frames since the launch. -/
def frames (t : Nat) : Nat := countIn (movesAt f₀ ev) 0 t

variable {f₀ ev}

/-- A frame always finds a decision made for the registers as they are: by the
`Clk` edge before it, or, at the very first edge, by the power-up values. -/
theorem prepared_at (h0 : f₀.PowerUp) (hsep : Separated ev) {t : Nat}
    (ht : ev t = .slow) : ∃ start, (run step f₀ ev t).Prepared start := by
  cases t with
  | zero =>
    refine ⟨false, ?_⟩
    show f₀.stateNext = Reference.next f₀.state _ _ _
    rw [h0.stateNext, h0.state]
    rfl
  | succ u =>
    obtain ⟨start, hu⟩ := hsep.fast_before ht
    refine ⟨start, ?_⟩
    have hheld : (run step f₀ ev u).LostHeld :=
      Clocked.run_inv LostHeld (fun h => absurd (h0.state.symm.trans h) (by decide))
        lostHeld_step u
    rw [run_succ, hu]
    exact prepared_clk hheld start

/-- A frame takes the one-clock machine one step on. -/
theorem observe_frame_at (h0 : f₀.PowerUp) (hsep : Separated ev) {t : Nat}
    (ht : ev t = .slow) : ∃ start, (run step f₀ ev (t + 1)).observe
      = (run step f₀ ev t).observe.step start := by
  obtain ⟨start, hprep⟩ := prepared_at h0 hsep ht
  refine ⟨start, ?_⟩
  rw [run_succ, ht]
  exact observe_frame hprep

theorem frames_fast {t : Nat} {i : Bool} (ht : ev t = .fast i) :
    frames f₀ ev (t + 1) = frames f₀ ev t :=
  Clocked.countIn_succ_of_false (by rw [movesAt, ht]; rfl)

theorem frames_init {t : Nat} (h : (run step f₀ ev t).state = .init) :
    frames f₀ ev (t + 1) = frames f₀ ev t :=
  Clocked.countIn_succ_of_false (by simp [movesAt, h])

theorem frames_slow {t : Nat} (ht : ev t = .slow)
    (h : (run step f₀ ev t).state ≠ .init) :
    frames f₀ ev (t + 1) = frames f₀ ev t + 1 := by
  refine Clocked.countIn_succ_of_true (Nat.zero_le t) ?_
  rw [movesAt, ht]
  simpa [Edge.isSlow] using h

/-- Where the formation is: still in `INIT`, with the box loaded once a frame has
passed, or on the orbit, as many frames in as have passed since the launch. -/
def OnOrbit (f : Formation) (framed : Prop) (n : Nat) : Prop :=
  (f.state = .init ∧ n = 0 ∧ (framed → f.observe = loaded)) ∨
    (framed ∧ f.observe = orbit n)

/-- **The formation follows the orbit**, in every run. -/
theorem onOrbit (h0 : f₀.PowerUp) (hsep : Separated ev) (t : Nat) :
    (run step f₀ ev t).OnOrbit (Framed ev t) (frames f₀ ev t) := by
  induction t with
  | zero =>
    refine Or.inl ⟨h0.state, Clocked.countIn_self _ _, ?_⟩
    intro h
    obtain ⟨u, hu, _⟩ := h
    omega
  | succ t ih =>
    cases hev : ev t with
    | fast i =>
      -- a `Clk` edge prepares a decision and moves nothing
      have hobs : (run step f₀ ev (t + 1)).observe = (run step f₀ ev t).observe := by
        rw [run_succ, hev]
        rfl
      have hframed : Framed ev (t + 1) ↔ Framed ev t := by
        unfold Framed
        rw [Nat.exists_lt_succ_right, hev]
        simp
      have hstate : (run step f₀ ev (t + 1)).state = (run step f₀ ev t).state :=
        congrArg Reference.state hobs
      unfold OnOrbit
      rw [hobs, hstate, hframed, frames_fast hev]
      exact ih
    | slow =>
      -- a frame loads the box, launches it, or takes it one point on
      have hframed : Framed ev (t + 1) := ⟨t, by omega, hev⟩
      obtain ⟨start, hstep⟩ := observe_frame_at h0 hsep hev
      rcases ih with ⟨hinit, hn, _⟩ | ⟨_, horbit⟩
      · rw [Reference.init_step hinit] at hstep
        rw [frames_init hinit, hn]
        cases start with
        | true => exact Or.inr ⟨hframed, hstep⟩
        | false => exact Or.inl ⟨congrArg Reference.state hstep, rfl, fun _ => hstep⟩
      · have hmoving : (run step f₀ ev t).state ≠ .init := by
          have hs := congrArg Reference.state horbit
          exact fun h => Reference.orbitState_ne_init _ (hs.symm.trans h)
        rw [horbit, Reference.orbit_step] at hstep
        rw [frames_slow hev hmoving]
        exact Or.inr ⟨hframed, hstep⟩

/-- Once launched, the formation is on the orbit. -/
theorem orbit_of_moving (h0 : f₀.PowerUp) (hsep : Separated ev) {t : Nat}
    (h : (run step f₀ ev t).state ≠ .init) :
    (run step f₀ ev t).observe = orbit (frames f₀ ev t) := by
  rcases onOrbit h0 hsep t with ⟨hinit, _⟩ | ⟨_, horbit⟩
  · exact absurd hinit h
  · exact horbit

/-- A frame takes a formation on the orbit one point on. -/
theorem orbit_frame (h0 : f₀.PowerUp) (hsep : Separated ev) {t : Nat}
    (ht : ev t = .slow) {n : Nat} (h : (run step f₀ ev t).observe = orbit n) :
    (run step f₀ ev (t + 1)).observe = orbit (n + 1) := by
  obtain ⟨start, hstep⟩ := observe_frame_at h0 hsep ht
  rw [hstep, h, Reference.orbit_step]

/-- A formation with frames behind it has been launched. -/
theorem moving_of_frames (h0 : f₀.PowerUp) (hsep : Separated ev) {t : Nat}
    (h : 0 < frames f₀ ev t) : (run step f₀ ev t).state ≠ .init := by
  rcases onOrbit h0 hsep t with ⟨_, hn, _⟩ | ⟨_, horbit⟩
  · omega
  · have hs := congrArg Reference.state horbit
    exact fun hinit => Reference.orbitState_ne_init _ (hs.symm.trans hinit)

/-- The formation came to each later point of the orbit from the one before, by
the latest frame. -/
theorem came_from (h0 : f₀.PowerUp) (hsep : Separated ev) {t n : Nat}
    (h : frames f₀ ev t = n + 1) :
    ∃ u, u < t ∧ ev u = .slow ∧ frames f₀ ev u = n ∧
      (run step f₀ ev u).observe = orbit n ∧ ∀ v, u < v → v < t → ev v ≠ .slow := by
  obtain ⟨u, -, hut, hu, hn, hlast⟩ := Clocked.exists_of_countIn_succ h
  have hmoves : (ev u).isSlow = true ∧ (run step f₀ ev u).state ≠ .init := by
    simpa [movesAt] using hu
  have hslow : ev u = .slow := by
    cases hev : ev u with
    | fast i => simp [hev, Edge.isSlow] at hmoves
    | slow => rfl
  refine ⟨u, hut, hslow, hn, ?_, ?_⟩
  · have horbit := orbit_of_moving h0 hsep hmoves.2
    rw [show frames f₀ ev u = n from hn] at horbit
    exact horbit
  · intro v huv hvt hv
    have hmoving : (run step f₀ ev v).state ≠ .init := by
      have hframes := frames_slow hslow hmoves.2
      have hmono : frames f₀ ev (u + 1) ≤ frames f₀ ev v :=
        Clocked.countIn_mono _ 0 huv
      exact moving_of_frames h0 hsep (by omega)
    have hvfalse := hlast v huv hvt
    rw [movesAt, hv] at hvfalse
    exact hmoving (by simpa [Edge.isSlow] using hvfalse)

/-- Every formation that has moved was found at the start of the orbit first. -/
theorem started_at (h0 : f₀.PowerUp) (hsep : Separated ev) {n : Nat} :
    ∀ {t : Nat}, frames f₀ ev t = n + 1 →
      ∃ u, u < t ∧ ev u = .slow ∧ (run step f₀ ev u).observe = orbit 0 := by
  induction n with
  | zero =>
    intro t h
    obtain ⟨u, hut, hslow, _, horbit, _⟩ := came_from h0 hsep h
    exact ⟨u, hut, hslow, horbit⟩
  | succ n ih =>
    intro t h
    obtain ⟨u, hut, _, hframes, _⟩ := came_from h0 hsep h
    obtain ⟨v, hvu, hslow, horbit⟩ := ih hframes
    exact ⟨v, by omega, hslow, horbit⟩

end Formation

end SpaceInvaders
