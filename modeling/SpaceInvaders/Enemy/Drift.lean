import SpaceInvaders.Enemy.Array

/-!
# The tracked box against the drawn sprites

`enemy_array` decides bouncing and losing by a box it moves at `frame_clk`, while
each drawer moves its own origin at `Clk`, by the direction bits the formation
last set. Both are integrators of what should be one motion, and they drift
apart: the drawer takes a step per `Clk` edge, and its vertical step tests
`enemy_direction_X` and goes up where the box goes down
(`drifting_disagrees`).

The exact law counts. `netX` and `netY` are what a drawer has moved since its
release from `BEFORE_GAME`, `boxX` and `boxY` what the box has since its last
`INIT` frame, all as integers; `agrees_iff` says that sprite and box are within
two pixels precisely when these differ by at most two, up to whole turns of the
10-bit circle.
-/

namespace SpaceInvaders

open Clocked (Edge WellTimed run run_succ tally tally_tracks)
open Raster (Within CloseMod displacement within_iff_closeMod)

/-- The horizontal step of the box. -/
def FormationState.dx : FormationState → Int
  | .moveRight | .moveDownRight => 1
  | .moveLeft | .moveDownLeft => -1
  | .init | .lost => 0

/-- The vertical step of the box. -/
def FormationState.dy : FormationState → Int
  | .moveDownRight | .moveDownLeft => 1
  | .init | .moveLeft | .moveRight | .lost => 0

namespace Formation

theorem frame_lEdge {f : Formation} (h : f.state ≠ .init) :
    f.frame.lEdge = f.lEdge + displacement f.state.dx := by
  cases hs : f.state with
  | init => exact absurd hs h
  | moveLeft => simp only [frame, hs]; exact BitVec.sub_eq_add_neg ..
  | moveDownLeft => simp only [frame, hs]; exact BitVec.sub_eq_add_neg ..
  | moveRight => simp only [frame, hs]; rfl
  | moveDownRight => simp only [frame, hs]; rfl
  | lost => simp [frame, hs, FormationState.dx]

theorem frame_uEdge {f : Formation} (h : f.state ≠ .init) :
    f.frame.uEdge = f.uEdge + displacement f.state.dy := by
  cases hs : f.state with
  | init => exact absurd hs h
  | moveDownLeft => simp only [frame, hs]; rfl
  | moveDownRight => simp only [frame, hs]; rfl
  | moveLeft => simp [frame, hs, FormationState.dy]
  | moveRight => simp [frame, hs, FormationState.dy]
  | lost => simp [frame, hs, FormationState.dy]

end Formation

namespace Fleet

/-- The horizontal step of a released drawer, given `enemy_direction_X`. -/
def dx (enemyDirectionX : Bool) : Int := if enemyDirectionX then 1 else -1

/-- Its vertical step, which tests the same bit. -/
def dy (enemyDirectionX : Bool) : Int := if enemyDirectionX then -1 else 0

theorem clk_enemyStartX_eq (f : Fleet) (i : DrawerIn) (k : Inst) :
    (f.clk i k).enemyStartX =
      if (f k).state = .beforeGame then k.initialX
      else (f k).enemyStartX + displacement (dx i.enemyDirectionX) := by
  rw [clk_enemyStartX]
  cases i.enemyDirectionX with
  | true => rfl
  | false => exact congrArg (ite _ _) (BitVec.sub_eq_add_neg ..)

theorem clk_enemyStartY_eq (f : Fleet) (i : DrawerIn) (k : Inst) :
    (f.clk i k).enemyStartY =
      if (f k).state = .beforeGame then k.initialY
      else (f k).enemyStartY + displacement (dy i.enemyDirectionX) := by
  rw [clk_enemyStartY]
  cases i.enemyDirectionX with
  | true => exact congrArg (ite _ _) (BitVec.sub_eq_add_neg ..)
  | false => exact congrArg (ite _ _) (BitVec.add_zero _).symm

end Fleet

namespace EnemyArray

variable (s₀ : EnemyArray) (ev : Nat → Edge ArrayIn)

/-! ## What has been moved -/

/-- Edge `t` reloads the origin of drawer `k`. -/
def originReload (k : Inst) (t : Nat) : Bool :=
  (ev t).isFast && decide (((run step s₀ ev t).drawers k).state = .beforeGame)

/-- What drawer `k` has moved since its release, a `Clk` edge moving it by `d` of
the direction bit. -/
def net (d : Bool → Int) (k : Inst) : Nat → Int :=
  tally (originReload s₀ ev k) fun t =>
    match ev t with
    | .fast _ => d (run step s₀ ev t).formation.enemyDirectionX
    | .slow => 0

def netX : Inst → Nat → Int := net s₀ ev Fleet.dx

def netY : Inst → Nat → Int := net s₀ ev Fleet.dy

/-- Edge `t` reloads the box. -/
def boxReload (t : Nat) : Bool :=
  (ev t).isSlow && decide ((run step s₀ ev t).formation.state = .init)

/-- What the box has moved since its last `INIT` frame, a frame moving it by `d`
of the state. -/
def box (d : FormationState → Int) : Nat → Int :=
  tally (boxReload s₀ ev) fun t =>
    match ev t with
    | .fast _ => 0
    | .slow => d (run step s₀ ev t).formation.state

def boxX : Nat → Int := box s₀ ev FormationState.dx

def boxY : Nat → Int := box s₀ ev FormationState.dy

/-- The formation has left `INIT` and drawer `k` is not in `BEFORE_GAME`. -/
def Playing (t : Nat) (k : Inst) : Prop :=
  (run step s₀ ev t).formation.state ≠ .init ∧
    ((run step s₀ ev t).drawers k).state ≠ .beforeGame

/-- In play, the sprite of drawer `k` is within two pixels of its place in the box. -/
def Agrees (t : Nat) (k : Inst) : Prop :=
  Playing s₀ ev t k →
    Within 2 ((run step s₀ ev t).drawers k).enemyStartX
      ((run step s₀ ev t).formation.lEdge + k.initialX) ∧
    Within 2 ((run step s₀ ev t).drawers k).enemyStartY
      ((run step s₀ ev t).formation.uEdge + k.initialY)

/-- Drawer and box have moved by the same number of pixels, give or take two. -/
def DriftSmall (t : Nat) (k : Inst) : Prop :=
  Playing s₀ ev t k →
    CloseMod (2 ^ 10) 2 (netX s₀ ev k t - boxX s₀ ev t) ∧
    CloseMod (2 ^ 10) 2 (netY s₀ ev k t - boxY s₀ ev t)

variable {s₀ ev}

/-! ## The registers follow the tallies -/

/-- An edge that does not reload the origin does not release the drawer. -/
theorem released_of_succ {k : Inst} {t : Nat} (hr : originReload s₀ ev k t = false)
    (h : ((run step s₀ ev (t + 1)).drawers k).state ≠ .beforeGame) :
    ((run step s₀ ev t).drawers k).state ≠ .beforeGame := by
  cases hev : ev t with
  | fast i => simpa [originReload, hev, Edge.isFast] using hr
  | slow => rwa [run_succ, hev] at h

/-- A drawer register that is reloaded with `base` in `BEFORE_GAME` and moved by
`d` elsewhere. -/
theorem origin_tracks (hp : s₀.PowerUp) {k : Inst} (reg : Drawer → BitVec 10)
    {base : BitVec 10} {d : Bool → Int}
    (hreg : ∀ (f : Fleet) (i : DrawerIn), reg (f.clk i k) =
      if (f k).state = .beforeGame then base
      else reg (f k) + displacement (d i.enemyDirectionX))
    {t : Nat} (h : ((run step s₀ ev t).drawers k).state ≠ .beforeGame) :
    reg ((run step s₀ ev t).drawers k) = base + displacement (net s₀ ev d k t) := by
  refine tally_tracks (fun u => reg ((run step s₀ ev u).drawers k))
    (fun u => ((run step s₀ ev u).drawers k).state ≠ .beforeGame)
    (fun h0 => h0 (hp.drawers k)) ?_ ?_ (fun u => released_of_succ) t h
  · intro u hr
    cases hev : ev u with
    | slow => simp [originReload, hev, Edge.isFast] at hr
    | fast i =>
      have hbg : ((run step s₀ ev u).drawers k).state = .beforeGame := by
        simpa [originReload, hev, Edge.isFast] using hr
      rw [run_succ, hev]
      exact (hreg _ _).trans (if_pos hbg)
  · intro u hr
    cases hev : ev u with
    | slow =>
      rw [run_succ, hev, map_zero, add_zero]
      rfl
    | fast i =>
      have hbg : ((run step s₀ ev u).drawers k).state ≠ .beforeGame := by
        simpa [originReload, hev, Edge.isFast] using hr
      rw [run_succ, hev]
      exact (hreg _ _).trans (if_neg hbg)

/-- A box register that is reloaded with 0 in `INIT` and moved by `d` elsewhere. -/
theorem box_tracks (hp : s₀.PowerUp) (reg : Formation → BitVec 10)
    {d : FormationState → Int} (hclk : ∀ f start, reg (Formation.clk f start) = reg f)
    (hinit : ∀ f : Formation, f.state = .init → reg f.frame = 0#10)
    (hmove : ∀ f : Formation, f.state ≠ .init →
      reg f.frame = reg f + displacement (d f.state))
    {t : Nat} (h : (run step s₀ ev t).formation.state ≠ .init) :
    reg (run step s₀ ev t).formation = 0#10 + displacement (box s₀ ev d t) := by
  refine tally_tracks (fun u => reg (run step s₀ ev u).formation)
    (fun u => (run step s₀ ev u).formation.state ≠ .init)
    (fun h0 => h0 hp.state) ?_ ?_ ?_ t h
  · intro u hr
    cases hev : ev u with
    | fast i => simp [boxReload, hev, Edge.isSlow] at hr
    | slow =>
      rw [run_succ, hev]
      exact hinit _ (by simpa [boxReload, hev, Edge.isSlow] using hr)
  · intro u hr
    cases hev : ev u with
    | fast i =>
      rw [run_succ, hev, map_zero, add_zero]
      exact hclk _ _
    | slow =>
      rw [run_succ, hev]
      exact hmove _ (by simpa [boxReload, hev, Edge.isSlow] using hr)
  · intro u hr hlive
    cases hev : ev u with
    | fast i => rwa [run_succ, hev] at hlive
    | slow => simpa [boxReload, hev, Edge.isSlow] using hr

/-! ## The law -/

/-- Origin and box are apart by the difference of their tallies. -/
theorem apart_eq {x l ix : BitVec 10} {m n : Int} (hx : x = ix + displacement m)
    (hl : l = 0#10 + displacement n) : x - (l + ix) = BitVec.ofInt 10 (m - n) := by
  have hsub : displacement (m - n) = displacement m - (displacement n : BitVec 10) :=
    map_sub displacement m n
  rw [hx, hl]
  refine Eq.trans ?_ hsub.symm
  rw [BitVec.zero_add]
  abel

/-- **When formation and sprites agree.** -/
theorem agrees_iff (hp : s₀.PowerUp) (t : Nat) (k : Inst) :
    Agrees s₀ ev t k ↔ DriftSmall s₀ ev t k := by
  refine forall_congr' fun hplay => ?_
  obtain ⟨hformation, hdrawer⟩ := hplay
  have hx := origin_tracks hp Drawer.enemyStartX
    (fun f i => f.clk_enemyStartX_eq i k) hdrawer
  have hy := origin_tracks hp Drawer.enemyStartY
    (fun f i => f.clk_enemyStartY_eq i k) hdrawer
  have hl := box_tracks hp Formation.lEdge (fun _ _ => rfl)
    (fun _ h => by simp only [Formation.frame, h]) (fun _ => Formation.frame_lEdge)
    hformation
  have hu := box_tracks hp Formation.uEdge (fun _ _ => rfl)
    (fun _ h => by simp only [Formation.frame, h]) (fun _ => Formation.frame_uEdge)
    hformation
  exact and_congr (within_iff_closeMod 2 (apart_eq hx hl))
    (within_iff_closeMod 2 (apart_eq hy hu))

/-- A start, then frames and `Clk` edges in turn. -/
def pacing : Nat → Edge ArrayIn :=
  Clocked.script
    [.fast { ArrayIn.low with start := true }, .slow, .fast .low, .slow, .fast .low, .slow,
      .fast .low, .slow, .fast .low]
    (.fast .low)

/-- After four frames the sprites have moved two pixels to the left and one up, the box one to
the left and one down. -/
theorem pacing_agrees : Playing powerUp pacing 9 (.ee, 0) ∧ Agrees powerUp pacing 9 (.ee, 0) :=
  ⟨⟨by decide, by decide⟩, (agrees_iff powerUp_powerUp 9 (.ee, 0)).mpr fun _ => by decide⟩

/-- A start, one frame, and three more `Clk` edges before the next one. -/
def drifting : Nat → Edge ArrayIn :=
  Clocked.script
    [.fast { ArrayIn.low with start := true }, .slow, .fast .low, .fast .low, .fast .low]
    (.fast .low)


/-- Three `Clk` edges later the sprites have moved three pixels and the box has
not moved. -/
theorem drifting_disagrees :
    WellTimed drifting ∧ ¬ ∀ t k, Agrees powerUp drifting t k := by
  refine ⟨?_, ?_⟩
  · intro t ht
    match t with
    | 1 => exact ⟨0, _, rfl, rfl⟩
    | 0 | 2 | 3 | 4 | _ + 5 => exact absurd ht (by simp [drifting, Clocked.script])
  · intro h
    have hplaying : Playing powerUp drifting 5 (.ee, 0) := by
      constructor <;> decide
    exact absurd (h 5 (.ee, 0) hplaying).1 (by decide)

end EnemyArray

end SpaceInvaders
