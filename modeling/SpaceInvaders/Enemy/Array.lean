import Mathlib.Algebra.BigOperators.Group.Finset.Basic
import SpaceInvaders.Enemy.Fleet
import SpaceInvaders.Enemy.Formation

/-!
# `enemy_array`: formation, counter and drawers on two clocks

The module puts the formation FSM, the kill counter and the twenty-one drawers
together. Its `Clk` edges step the next-state register, the counter and the
drawers; its `frame_clk` edges step the formation and, in `INIT`, reload the
counter, which is written by both processes.

Mirroring notes:
- `delete_enemies` is declared and read but never driven, so it reads low and
  `finished` is low with it; `delete_enemies_temp` and `delete_enemies_temp2`
  are written and never read.
- `enemy_on` and the colours are sums at the width of the result: modulo 2 and
  modulo 256.
- `ee2` is connected to the net `ee1_on`, which therefore has two drivers, and
  `ee2_on` has none. What two drivers make of a net they disagree on is left
  open: `resolve` stands for it.
-/

namespace SpaceInvaders

open Clocked (Edge edgeStep run run_succ run_project)

/-- What one `posedge Clk` of `enemy_array` samples. -/
structure ArrayIn where
  reset : Bool
  start : Bool
  hit : Bool
  isPlaying : Bool
  drawX : BitVec 10
  drawY : BitVec 10

/-- Every input low. -/
def ArrayIn.low : ArrayIn :=
  { reset := false, start := false, hit := false, isPlaying := false,
    drawX := 0, drawY := 0 }

/-- The registers of `enemy_array` and of its instances. -/
structure EnemyArray where
  formation : Formation
  enemyCounter : BitVec 5
  deleteEnemiesTemp : Bool
  drawers : Fleet

namespace EnemyArray

/-- The net `delete_enemies`, which nothing drives. -/
def deleteEnemies (_ : EnemyArray) : Bool := false

def finished (s : EnemyArray) : Bool := s.deleteEnemies

/-- The inputs the instances are connected to. -/
def drawerIn (s : EnemyArray) (i : ArrayIn) : DrawerIn :=
  { reset := i.reset
    deleteEnemies := s.deleteEnemies
    hit := i.hit
    isPlaying := i.isPlaying
    enemyDirectionX := s.formation.enemyDirectionX
    enemyDirectionY := s.formation.enemyDirectionY
    start := i.start
    drawX := i.drawX
    drawY := i.drawY }

/-- One `posedge Clk`. -/
def clk (s : EnemyArray) (i : ArrayIn) : EnemyArray :=
  { formation := s.formation.clk i.start
    enemyCounter := if i.hit then s.enemyCounter - 1#5 else s.enemyCounter
    deleteEnemiesTemp :=
      if i.hit then s.deleteEnemiesTemp
      else if s.enemyCounter = 0#5 then true
      else s.deleteEnemiesTemp
    drawers := s.drawers.clk (s.drawerIn i) }

/-- One `posedge frame_clk`. -/
def frame (s : EnemyArray) : EnemyArray :=
  { s with
    formation := s.formation.frame
    enemyCounter := if s.formation.state = .init then 16#5 else s.enemyCounter }

def step : EnemyArray → Edge ArrayIn → EnemyArray := edgeStep clk frame

/-- What `initial` blocks, two-state enumerations and the memory's output
register fix at power-up; the other registers may hold anything. -/
structure PowerUp (s : EnemyArray) : Prop where
  state : s.formation.state = .init
  stateNext : s.formation.stateNext = .init
  enemyCounter : s.enemyCounter = 16#5
  drawers : ∀ k, (s.drawers k).state = .beforeGame
  dataOut : ∀ k, (s.drawers k).dataOut = 0#24

/-- Power-up with every other register low. -/
def powerUp : EnemyArray :=
  { formation := Formation.powerUp, enemyCounter := 16#5, deleteEnemiesTemp := false,
    drawers := Fleet.powerUp }

theorem powerUp_powerUp : powerUp.PowerUp :=
  ⟨rfl, rfl, rfl, fun _ => rfl, fun _ => rfl⟩

/-! ## The merged outputs -/

section Outputs

variable (resolve : Bool → Bool → Bool) (s : EnemyArray)

/-- The nets `ee1_on` … `eh7_on`. -/
def onNet : Inst → Bool
  | (.ee, 0) => resolve (s.drawers (.ee, 0)).enemyOn (s.drawers (.ee, 1)).enemyOn
  | (.ee, 1) => false
  | k => (s.drawers k).enemyOn

/-- `enemy_on <= ee1_on + ... + eh7_on`, one bit wide. -/
def enemyOn : Bool := (∑ k, BitVec.ofBool (s.onNet resolve k)) = 1#1

def enemyR : BitVec 8 := ∑ k, (s.drawers k).enemyR

def enemyG : BitVec 8 := ∑ k, (s.drawers k).enemyG

def enemyB : BitVec 8 := ∑ k, (s.drawers k).enemyB

end Outputs

/-! ## What one edge does -/

@[simp] theorem clk_formation (s : EnemyArray) (i : ArrayIn) :
    (s.clk i).formation = s.formation.clk i.start := rfl

@[simp] theorem clk_drawers (s : EnemyArray) (i : ArrayIn) :
    (s.clk i).drawers = s.drawers.clk (s.drawerIn i) := rfl

@[simp] theorem frame_formation (s : EnemyArray) :
    s.frame.formation = s.formation.frame := rfl

theorem frame_enemyCounter (s : EnemyArray) : s.frame.enemyCounter =
    if s.formation.state = .init then 16#5 else s.enemyCounter := rfl

/-- In `enemy_array` the formation runs as the machine of its own that it is. -/
theorem formation_run (s₀ : EnemyArray) (ev : Nat → Edge ArrayIn) (t : Nat) :
    (run step s₀ ev t).formation
      = run Formation.step s₀.formation (fun u => (ev u).map ArrayIn.start) t := by
  refine run_project EnemyArray.formation (fun u => (ev u).map ArrayIn.start)
    (fun u => ?_) t
  cases ev u with
  | fast i => rfl
  | slow => rfl

@[simp] theorem frame_drawers (s : EnemyArray) : s.frame.drawers = s.drawers := rfl

/-- In `enemy_array` the drawers stay aligned while there is no lone hit. -/
theorem aligned_of_noLoneHit {s₀ : EnemyArray} (hp : s₀.PowerUp)
    {ev : Nat → Edge ArrayIn} {t : Nat}
    (hlone : ∀ u i, u < t → ev u = .fast i →
      (run step s₀ ev u).drawers.NoLoneHit ((run step s₀ ev u).drawerIn i)) :
    (run step s₀ ev t).drawers.Aligned := by
  induction t with
  | zero => exact Or.inl hp.drawers
  | succ t ih =>
    have haligned := ih fun u i hu => hlone u i (by omega)
    rw [run_succ]
    cases hev : ev t with
    | fast i => exact (haligned.clk_iff _).mpr (hlone t i (by omega) hev)
    | slow => exact haligned

end EnemyArray

end SpaceInvaders
