import Mathlib.Data.Fintype.Prod
import SpaceInvaders.Clocked.Run
import SpaceInvaders.Enemy.Drawer
import SpaceInvaders.Raster

/-!
# The twenty-one drawers of `enemy_array`

`enemy_array` instantiates three rows of seven drawers, `ee1`–`ee7` of
`enemy_easy`, `em1`–`em7` and `eh1`–`eh7` of `enemy_medium`. All of them see the
same inputs, so the fleet is a family of drawers stepped by one `DrawerIn`.

Sprite origins are reloaded in `BEFORE_GAME` and move everywhere else, so the
rows keep their spacing exactly as long as the drawers enter and leave
`BEFORE_GAME` together, and `staysRigid_iff` is exact about when they do. What
breaks it is the flag's one-edge delay: in the first clock after a reset a drawer
that was drawing still holds `enemy_on`, and a hit in that clock takes it, alone,
out of `BEFORE_GAME` (`lateHit_not_rigid`).
-/

namespace SpaceInvaders

open Clocked (run)
open Raster (InBox)

/-- The instance name's prefix. -/
inductive Row where
  | ee
  | em
  | eh
  deriving DecidableEq

instance : Fintype Row where
  elems := {.ee, .em, .eh}
  complete := by
    intro r
    cases r <;> decide

/-- An instance: `ee1` is `(.ee, 0)`. -/
abbrev Inst := Row × Fin 7

namespace Inst

def drawerModule : Inst → DrawerModule
  | (.ee, _) => enemyEasy
  | (.em, _) => enemyMedium
  | (.eh, _) => enemyMedium

/-- The constant at port `enemy_initial_x`. -/
def initialX (k : Inst) : BitVec 10 :=
  match k.2 with
  | 0 => 0#10
  | 1 => 73#10
  | 2 => 146#10
  | 3 => 219#10
  | 4 => 292#10
  | 5 => 365#10
  | 6 => 438#10

/-- The constant at port `enemy_initial_y`. -/
def initialY : Inst → BitVec 10
  | (.ee, _) => 0#10
  | (.em, _) => 50#10
  | (.eh, _) => 100#10

theorem initialX_toNat : ∀ k : Inst, k.initialX.toNat = 73 * k.2.val := by decide

/-- Two initial boxes share no pixel: columns are 73 apart and 50 wide, rows 50
apart and at most 50 high. -/
theorem initialBox_injective {i j : Inst} {px py : BitVec 10}
    (hi : InBox i.initialX i.initialY imageWidth i.drawerModule.imageHeight px py)
    (hj : InBox j.initialX j.initialY imageWidth j.drawerModule.imageHeight px py) :
    i = j := by
  obtain ⟨ri, ci⟩ := i
  obtain ⟨rj, cj⟩ := j
  have hci : (initialX (ri, ci)).toNat = 73 * ci.val := initialX_toNat (ri, ci)
  have hcj : (initialX (rj, cj)).toNat = 73 * cj.val := initialX_toNat (rj, cj)
  have hc : ci = cj := by
    have hxi := (Raster.sub_lt_iff_of_le (by rw [hci, imageWidth]; omega)).mp hi.1
    have hxj := (Raster.sub_lt_iff_of_le (by rw [hcj, imageWidth]; omega)).mp hj.1
    rw [imageWidth] at hxi hxj
    omega
  have hr : ri = rj := by
    have hyi := hi.2
    have hyj := hj.2
    cases ri <;> cases rj <;>
      first
      | rfl
      | simp only [initialY, drawerModule, enemyEasy, enemyMedium] at hyi hyj
        rw [Raster.sub_lt_iff_of_le (by decide)] at hyi hyj
        simp only [BitVec.toNat_ofNat] at hyi hyj
        omega
  rw [hr, hc]

end Inst

/-- The registers of the twenty-one drawers. -/
abbrev Fleet := Inst → Drawer

namespace Fleet

def powerUp : Fleet := fun _ => Drawer.powerUp

/-- One `posedge Clk` of every drawer. -/
def clk (f : Fleet) (i : DrawerIn) : Fleet :=
  fun k => (f k).clk k.drawerModule k.initialX k.initialY i

/-- The pixel `(px, py)` lies in the drawer's sprite box. -/
def InSprite (f : Fleet) (k : Inst) (px py : BitVec 10) : Prop :=
  InBox (f k).enemyStartX (f k).enemyStartY imageWidth k.drawerModule.imageHeight
    px py

instance (f : Fleet) (k : Inst) (px py : BitVec 10) :
    Decidable (f.InSprite k px py) :=
  inferInstanceAs (Decidable (InBox _ _ _ _ _ _))

/-- Drawers `i` and `j` keep their initial spacing. -/
def Spaced (f : Fleet) (i j : Inst) : Prop :=
  (f i).enemyStartX - (f j).enemyStartX = i.initialX - j.initialX ∧
    (f i).enemyStartY - (f j).enemyStartY = i.initialY - j.initialY

theorem Spaced.refl (f : Fleet) (i : Inst) : f.Spaced i i := by
  simp [Spaced]

/-- Sprite origins keep their initial spacing. -/
def Rigid (f : Fleet) : Prop := ∀ i j, f.Spaced i j

/-- No pixel lies in two sprite boxes. -/
def Disjoint (f : Fleet) : Prop :=
  ∀ i j px py, f.InSprite i px py → f.InSprite j px py → i = j

/-- Two boxes that keep their spacing share no pixel. -/
theorem Spaced.eq_of_inSprite {f : Fleet} {i j : Inst} (h : f.Spaced i j)
    {px py : BitVec 10} (hi : f.InSprite i px py) (hj : f.InSprite j px py) : i = j := by
  -- both drawers are where they started, moved by what `j` has moved
  have hjx : (f j).enemyStartX = j.initialX + ((f j).enemyStartX - j.initialX) := by abel
  have hjy : (f j).enemyStartY = j.initialY + ((f j).enemyStartY - j.initialY) := by abel
  have hix : (f i).enemyStartX = i.initialX + ((f j).enemyStartX - j.initialX) := by
    rw [sub_eq_iff_eq_add.mp h.1]
    abel
  have hiy : (f i).enemyStartY = i.initialY + ((f j).enemyStartY - j.initialY) := by
    rw [sub_eq_iff_eq_add.mp h.2]
    abel
  rw [InSprite, hix, hiy, Raster.inBox_add] at hi
  rw [InSprite, hjx, hjy, Raster.inBox_add] at hj
  exact Inst.initialBox_injective hi hj

theorem Rigid.disjoint {f : Fleet} (h : f.Rigid) : f.Disjoint :=
  fun i j _ _ hi hj => (h i j).eq_of_inSprite hi hj

/-! ## What one edge does to each drawer -/

@[simp] theorem clk_state (f : Fleet) (i : DrawerIn) (k : Inst) :
    (f.clk i k).state = (f k).stateNext k.drawerModule i :=
  Drawer.clk_state ..

theorem clk_enemyOn (f : Fleet) (i : DrawerIn) (k : Inst) :
    (f.clk i k).enemyOn =
      match (f k).state with
      | .draw => true
      | .idle => (f k).enemyOn
      | .firstIdle => (f k).enemyOn
      | _ => false :=
  Drawer.clk_enemyOn ..

theorem clk_enemyStartX (f : Fleet) (i : DrawerIn) (k : Inst) :
    (f.clk i k).enemyStartX =
      if (f k).state = .beforeGame then k.initialX
      else if i.enemyDirectionX then (f k).enemyStartX + 1#10
      else (f k).enemyStartX - 1#10 :=
  Drawer.clk_enemyStartX ..

theorem clk_enemyStartY (f : Fleet) (i : DrawerIn) (k : Inst) :
    (f.clk i k).enemyStartY =
      if (f k).state = .beforeGame then k.initialY
      else if i.enemyDirectionX then (f k).enemyStartY - 1#10
      else (f k).enemyStartY :=
  Drawer.clk_enemyStartY ..

/-- The edge on `i` takes drawer `k` to `FINISHED` from elsewhere. -/
def NewlyFinished (f : Fleet) (i : DrawerIn) (k : Inst) : Prop :=
  (f k).state ≠ .finished ∧ (f.clk i k).state = .finished

instance (f : Fleet) (i : DrawerIn) (k : Inst) : Decidable (f.NewlyFinished i k) :=
  inferInstanceAs (Decidable (_ ∧ _))

/-- Drawer `k` is not `FINISHED` and has its flag up. -/
def LiveFlag (f : Fleet) (k : Inst) : Prop :=
  (f k).enemyOn = true ∧ (f k).state ≠ .finished

instance (f : Fleet) (k : Inst) : Decidable (f.LiveFlag k) :=
  inferInstanceAs (Decidable (_ ∧ _))

/-- What a hit newly finishes are the live flags it finds. -/
theorem newlyFinished_iff {f : Fleet} {i : DrawerIn} (hd : i.deleteEnemies = false)
    (hr : i.reset = false) (hh : i.hit = true) (k : Inst) :
    f.NewlyFinished i k ↔ f.LiveFlag k := by
  refine ⟨?_, ?_⟩
  · intro h
    obtain ⟨hlive, hfin⟩ := h
    rw [clk_state, Drawer.stateNext_finished hlive hr hd] at hfin
    exact ⟨hfin.1, hlive⟩
  · intro h
    obtain ⟨hon, hlive⟩ := h
    exact ⟨hlive, by rw [clk_state, Drawer.stateNext_hit hr hon hh]⟩

/-! ## Entering and leaving `BEFORE_GAME` together -/

/-- All drawers are in `BEFORE_GAME`, or none is. -/
def InStep (f : Fleet) : Prop :=
  ∀ j k, (f j).state = .beforeGame → (f k).state = .beforeGame

/-- No hit takes some of the drawers waiting in `BEFORE_GAME` and leaves others:
with the other ways out low, their flags agree when `hit` is high. -/
def NoLoneHit (f : Fleet) (i : DrawerIn) : Prop :=
  i.reset = false → i.deleteEnemies = false → i.start = false → i.hit = true →
    ∀ j k, (f j).state = .beforeGame → (f k).state = .beforeGame →
      (f j).enemyOn = (f k).enemyOn

/-- The step fact: drawers in step stay so exactly when there is no lone hit. -/
theorem inStep_clk_iff {f : Fleet} (h : f.InStep) (i : DrawerIn) :
    (f.clk i).InStep ↔ f.NoLoneHit i := by
  simp only [InStep, clk_state, Drawer.stateNext_beforeGame]
  refine ⟨?_, ?_⟩
  · intro hs hr hd hst hh j k hj hk
    have hjk := hs j k
    have hkj := hs k j
    cases hoj : (f j).enemyOn <;> cases hok : (f k).enemyOn <;> simp_all
  · intro hn j k hbg
    rcases hbg with hr | ⟨hj, hst, hd, hon⟩
    · exact Or.inl hr
    · cases hr : i.reset with
      | true => exact Or.inl rfl
      | false =>
        refine Or.inr ⟨h j k hj, hst, hd, ?_⟩
        cases hh : i.hit with
        | false => rw [Bool.and_false]
        | true =>
          rw [← hn hr hd hst hh j k hj (h j k hj)]
          rwa [hh] at hon

/-- All drawers wait in `BEFORE_GAME`, or none does and they keep their spacing. -/
def Aligned (f : Fleet) : Prop :=
  (∀ k, (f k).state = .beforeGame) ∨ ((∀ k, (f k).state ≠ .beforeGame) ∧ f.Rigid)

theorem Aligned.inStep {f : Fleet} (h : f.Aligned) : f.InStep := by
  intro j k hj
  rcases h with hall | ⟨hnone, _⟩
  · exact hall k
  · exact absurd hj (hnone j)

/-- Aligned drawers are rigid after any edge: it reloads all of them, or moves
all of them by the same step. -/
theorem Aligned.rigid_clk {f : Fleet} (h : f.Aligned) (i : DrawerIn) :
    (f.clk i).Rigid := by
  intro j k
  rw [Spaced, clk_enemyStartX, clk_enemyStartX, clk_enemyStartY, clk_enemyStartY]
  rcases h with hall | ⟨hnone, hrigid⟩
  · simp only [if_pos (hall j), if_pos (hall k), and_self]
  · obtain ⟨hx, hy⟩ := hrigid j k
    simp only [if_neg (hnone j), if_neg (hnone k)]
    cases i.enemyDirectionX with
    | true =>
      exact ⟨(add_sub_add_right_eq_sub ..).trans hx, (sub_sub_sub_cancel_right ..).trans hy⟩
    | false => exact ⟨(sub_sub_sub_cancel_right ..).trans hx, hy⟩

/-- The step fact: aligned drawers stay so exactly when there is no lone hit. -/
theorem Aligned.clk_iff {f : Fleet} (h : f.Aligned) (i : DrawerIn) :
    (f.clk i).Aligned ↔ f.NoLoneHit i := by
  rw [← inStep_clk_iff h.inStep]
  refine ⟨Aligned.inStep, fun hin => ?_⟩
  by_cases hbg : ∃ k, (f.clk i k).state = .beforeGame
  · obtain ⟨k, hk⟩ := hbg
    exact Or.inl fun j => hin k j hk
  · exact Or.inr ⟨not_exists.mp hbg, h.rigid_clk i⟩

variable {f₀ : Fleet} {inp : Nat → DrawerIn}

/-- Drawers that start in `BEFORE_GAME` stay aligned while there is no lone hit. -/
theorem aligned_of_noLoneHit (h0 : ∀ k, (f₀ k).state = .beforeGame) {t : Nat}
    (hlone : ∀ u, u < t → (run clk f₀ inp u).NoLoneHit (inp u)) :
    (run clk f₀ inp t).Aligned := by
  induction t with
  | zero => exact Or.inl h0
  | succ t ih =>
    have haligned := ih fun u hu => hlone u (by omega)
    exact (haligned.clk_iff (inp t)).mpr (hlone t (by omega))

/-- A lone hit shows one edge later: the drawer it took has moved, the others
have been reloaded. -/
theorem not_rigid_of_loneHit {f : Fleet} {i : DrawerIn} (h : ¬ f.NoLoneHit i)
    (i' : DrawerIn) : ¬ ((f.clk i).clk i').Rigid := by
  intro hrigid
  simp only [NoLoneHit, not_forall] at h
  obtain ⟨hr, hd, hst, hh, j, k, hj, hk, hne⟩ := h
  -- one of the two flags is up; call its drawer `a`, the other one `b`
  obtain ⟨a, b, ha, hb, hoa, hob⟩ : ∃ a b, (f a).state = .beforeGame ∧
      (f b).state = .beforeGame ∧ (f a).enemyOn = true ∧ (f b).enemyOn = false := by
    cases hoj : (f j).enemyOn with
    | true =>
      rw [hoj] at hne
      exact ⟨j, k, hj, hk, hoj, by simpa using Ne.symm hne⟩
    | false =>
      rw [hoj] at hne
      exact ⟨k, j, hk, hj, by simpa using Ne.symm hne, hoj⟩
  have hsa : (f.clk i a).state ≠ .beforeGame := by
    rw [clk_state, Drawer.stateNext_hit hr hoa hh]
    decide
  have hsb : (f.clk i b).state = .beforeGame := by
    rw [clk_state, Drawer.stateNext_beforeGame]
    exact Or.inr ⟨hb, hst, hd, by rw [hob]; rfl⟩
  have hxa : (f.clk i a).enemyStartX = a.initialX := by
    rw [clk_enemyStartX, if_pos ha]
  have hx := (hrigid a b).1
  rw [clk_enemyStartX, clk_enemyStartX _ _ b, if_neg hsa, if_pos hsb, hxa,
    sub_left_inj] at hx
  cases hdir : i'.enemyDirectionX <;> simp [hdir] at hx

/-- From the first edge on, the spacing is kept and no two boxes overlap. -/
def StaysRigid (f₀ : Fleet) (inp : Nat → DrawerIn) : Prop :=
  ∀ t, (run clk f₀ inp (t + 1)).Rigid ∧ (run clk f₀ inp (t + 1)).Disjoint

/-- **When the formation is rigid.** -/
theorem staysRigid_iff (h0 : ∀ k, (f₀ k).state = .beforeGame) :
    StaysRigid f₀ inp ↔ ∀ t, (run clk f₀ inp t).NoLoneHit (inp t) := by
  refine ⟨?_, ?_⟩
  · intro hrigid t
    by_contra hlone
    exact not_rigid_of_loneHit hlone (inp (t + 1)) (hrigid (t + 1)).1
  · intro hlone t
    have haligned := aligned_of_noLoneHit h0 (t := t) fun u _ => hlone u
    have hrigid := haligned.rigid_clk (inp t)
    exact ⟨hrigid, hrigid.disjoint⟩

/-- A start, `ee1` found by the scan, a reset for one clock, a hit in the next. -/
def lateHit : Nat → DrawerIn :=
  Clocked.script
    [{ DrawerIn.low with start := true }, DrawerIn.low,
      { DrawerIn.low with reset := true }, { DrawerIn.low with hit := true }]
    DrawerIn.low

/-- The hit takes `ee1` to `FINISHED`, where it moves; `ee2` stays. -/
theorem lateHit_not_rigid : ¬ StaysRigid powerUp lateHit := by
  intro h
  exact absurd ((h 4).1 (.ee, 0) (.ee, 1)).1 (by decide)

/-- A game nobody shoots in is rigid: the condition asks about hits only. -/
theorem unshot_staysRigid :
    StaysRigid powerUp (fun _ => { DrawerIn.low with start := true }) :=
  (staysRigid_iff (fun _ => rfl)).mpr
    (fun _ _ _ _ hh => absurd hh (by decide))

end Fleet

end SpaceInvaders
