import SpaceInvaders.Enemy.Drift
import SpaceInvaders.Lab8.Board

/-!
# The invaders on the board

On the board as it is wired there is no battle. `frame_clk` of `enemy_array` is a net
without a driver, so the formation never leaves `INIT` and the direction bits stay as
power-up left them; `bulletsig` is another one, so nothing is ever hit; and `finished`
is low, so `gameFSM` does not get to `GAME_OVER`. `Idle` is what the board keeps through
any keys and resets (`run_idle`).

What does move are the origins of the sprites, a pixel in every `Clk` cycle: the
twenty-one slide as one block, round the circle of the 10-bit registers, and with the
direction bit low never down or up (`run_slides`).
-/

namespace SpaceInvaders

open Clocked (run run_succ tally tally_tracks)
open Raster (displacement)

namespace EnemyArray

/-- Nobody has been hit: the counter is full, no drawer in `FINISHED`, and the drawers
left `BEFORE_GAME` together. -/
structure Unshot (s : EnemyArray) : Prop where
  counter : s.enemyCounter = 16#5
  alive : ∀ k, (s.drawers k).state ≠ .finished
  aligned : s.drawers.Aligned

/-- Without a hit it stays so. -/
theorem unshot_clk {s : EnemyArray} {i : ArrayIn} (h : s.Unshot) (hhit : i.hit = false) :
    (s.clk i).Unshot := by
  have hhit' : (s.drawerIn i).hit = false := hhit
  refine ⟨?_, fun k => ?_, ?_⟩
  · simp only [clk, hhit, Bool.false_eq_true, if_false]
    exact h.counter
  · rw [clk_drawers, Fleet.clk_state]
    intro hfin
    cases hr : i.reset with
    | true =>
      rw [Drawer.stateNext_reset hr] at hfin
      cases hfin
    | false =>
      have hshot := ((Drawer.stateNext_finished (h.alive k) hr rfl).mp hfin).2
      rw [hhit'] at hshot
      cases hshot
  · -- no hit, so no lone one
    rw [clk_drawers]
    refine (h.aligned.clk_iff _).mpr ?_
    intro _ _ _ hshot
    rw [hhit'] at hshot
    cases hshot

end EnemyArray

namespace Lab8

variable (resolve : Bool → Bool → Bool) (mem : BitVec 19 → BitVec 24)

/-- No bullet, no hit. -/
theorem hit_low (b : Lab8) : b.hit resolve = false := by
  unfold hit ColorMapper.hit colorIn bulletsig
  rw [Bool.and_false]
  rfl

theorem arrayIn_hit (b : Lab8) (resetH : Bool) : (b.arrayIn resolve resetH).hit = false := by
  simp only [arrayIn, hit_low]

/-- The game as it stays: the formation in `INIT` with its direction bit, nobody hit, no
end of the game. -/
structure Idle (direction : Bool) (b : Lab8) : Prop where
  state : b.array.formation.state = .init
  direction : b.array.formation.enemyDirectionX = direction
  unshot : b.array.Unshot
  playing : b.fsm.state ≠ .gameOver
  deciding : b.fsm.nextState ≠ .gameOver
  unfinished : b.fsm.isFinished = false

section Step

variable {direction : Bool} {b : Lab8}

/-- **No edge disturbs the board.** -/
theorem idle_step (h : b.Idle direction) (e : BoardEdge) :
    (b.step resolve mem e).Idle direction := by
  cases e with
  | resetH => exact ⟨h.state, h.direction, h.unshot, h.playing, h.deciding, h.unfinished⟩
  | clk resetH keycode =>
    refine ⟨h.state, h.direction, ?_, h.deciding, ?_, ?_⟩
    · rw [step_array]
      exact EnemyArray.unshot_clk h.unshot (arrayIn_hit resolve b resetH)
    · rw [step_fsm, GameFSM.clk_nextState]
      intro hover
      rcases GameFSM.decideNext_gameOver hover with hs | ⟨_, hfinished⟩
      · exact h.playing hs
      · cases hfinished
    · rw [step_fsm]
      simp only [GameFSM.clk, if_neg h.playing]
      exact h.unfinished

/-- An origin register is reloaded in `BEFORE_GAME` and moved elsewhere. -/
theorem origin_step (h : b.Idle direction) {k : Inst} (reg : Drawer → BitVec 10)
    {base : BitVec 10} {d : Bool → Int}
    (hreg : ∀ (f : Fleet) (i : DrawerIn), reg (f.clk i k) =
      if (f k).state = .beforeGame then base
      else reg (f k) + displacement (d i.enemyDirectionX)) (resetH : Bool)
    (keycode : BitVec 8) :
    reg ((b.step resolve mem (.clk resetH keycode)).array.drawers k) =
      if (b.array.drawers k).state = .beforeGame then base
      else reg (b.array.drawers k) + displacement (d direction) := by
  rw [step_array, EnemyArray.clk_drawers, hreg, ← h.direction]
  rfl

end Step

section Run

variable (b₀ : Lab8) (ev : Nat → BoardEdge)

/-- **There is no battle**, whatever is pressed. -/
theorem run_idle (hp : b₀.PowerUp) (t : Nat) :
    (run (step resolve mem) b₀ ev t).Idle b₀.array.formation.enemyDirectionX := by
  refine Clocked.run_inv (Idle b₀.array.formation.enemyDirectionX) ?_
    (fun b e h => idle_step resolve mem h e) t
  have hready : ∀ k, (b₀.array.drawers k).state = .beforeGame := hp.array.drawers
  refine ⟨hp.array.state, rfl, ⟨hp.array.enemyCounter, fun k => ?_, Or.inl hready⟩, ?_, ?_, ?_⟩
  · rw [hready k]
    simp
  · rw [hp.fsm]
    simp [GameFSM.powerUp]
  · rw [hp.fsm]
    simp [GameFSM.powerUp]
  · rw [hp.fsm]
    rfl

def isClk : BoardEdge → Bool
  | .clk _ _ => true
  | .resetH => false

/-- The `Clk` edges since the invaders last were in `BEFORE_GAME`. -/
def released (k : Inst) : Nat → Int :=
  tally
    (fun u => isClk (ev u) &&
      decide (((run (step resolve mem) b₀ ev u).array.drawers k).state = .beforeGame))
    (fun u => if isClk (ev u) then 1 else 0)

variable {b₀ ev}

/-- A key is pressed, and never let go. -/
def holdsKey : Nat → BoardEdge := fun _ => .clk false 0x2c#8

theorem holdsKey_idle : (run (step (· || ·) fun _ => 0) powerUp holdsKey 1000).Idle false :=
  run_idle (· || ·) (fun _ => 0) powerUp holdsKey powerUp_powerUp 1000

/-- An origin register follows the count. -/
theorem origin_run (hp : b₀.PowerUp) {k : Inst} (reg : Drawer → BitVec 10) {base : BitVec 10}
    {d : Bool → Int}
    (hreg : ∀ (f : Fleet) (i : DrawerIn), reg (f.clk i k) =
      if (f k).state = .beforeGame then base
      else reg (f k) + displacement (d i.enemyDirectionX)) {t : Nat}
    (hout : ((run (step resolve mem) b₀ ev t).array.drawers k).state ≠ .beforeGame) :
    reg ((run (step resolve mem) b₀ ev t).array.drawers k)
      = base + displacement
          (d b₀.array.formation.enemyDirectionX * released resolve mem b₀ ev k t) := by
  refine tally_tracks (f := displacement.comp
      (AddMonoidHom.mulLeft (d b₀.array.formation.enemyDirectionX)))
    (fun u => reg ((run (step resolve mem) b₀ ev u).array.drawers k))
    (fun u => ((run (step resolve mem) b₀ ev u).array.drawers k).state ≠ .beforeGame)
    (fun h0 => h0 (hp.array.drawers k)) ?_ ?_ ?_ t hout
  · intro u hr
    have hidle := run_idle resolve mem b₀ ev hp u
    cases hev : ev u with
    | resetH => simp [hev, isClk] at hr
    | clk resetH keycode =>
      have hbg : ((run (step resolve mem) b₀ ev u).array.drawers k).state = .beforeGame := by
        simpa [hev, isClk] using hr
      rw [run_succ, hev, origin_step resolve mem hidle reg hreg, if_pos hbg]
  · intro u hr
    have hidle := run_idle resolve mem b₀ ev hp u
    cases hev : ev u with
    | resetH =>
      rw [run_succ, hev]
      simp [isClk, step]
    | clk resetH keycode =>
      have hbg : ((run (step resolve mem) b₀ ev u).array.drawers k).state ≠ .beforeGame := by
        simpa [hev, isClk] using hr
      rw [run_succ, hev, origin_step resolve mem hidle reg hreg, if_neg hbg]
      simp [isClk]
  · -- an edge that does not reload the origin does not release the invader
    intro u hr hnext
    cases hev : ev u with
    | resetH =>
      rw [run_succ, hev] at hnext
      exact hnext
    | clk resetH keycode => simpa [hev, isClk] using hr

/-- **The invaders slide**: an invader that is out of `BEFORE_GAME` is where its place in
the formation and the count of edges put it, a pixel to an edge; the height changes only
with the direction bit high. -/
theorem run_slides (hp : b₀.PowerUp) {k : Inst} {t : Nat}
    (hout : ((run (step resolve mem) b₀ ev t).array.drawers k).state ≠ .beforeGame) :
    ((run (step resolve mem) b₀ ev t).array.drawers k).enemyStartX
        = k.initialX + displacement
            (Fleet.dx b₀.array.formation.enemyDirectionX * released resolve mem b₀ ev k t) ∧
      ((run (step resolve mem) b₀ ev t).array.drawers k).enemyStartY
        = k.initialY + displacement
            (Fleet.dy b₀.array.formation.enemyDirectionX * released resolve mem b₀ ev k t) :=
  ⟨origin_run resolve mem hp Drawer.enemyStartX (fun f i => Fleet.clk_enemyStartX_eq f i k) hout,
    origin_run resolve mem hp Drawer.enemyStartY (fun f i => Fleet.clk_enemyStartY_eq f i k) hout⟩

end Run

theorem holdsKey_slides :
    ((run (step (· || ·) fun _ => 0) powerUp holdsKey 9).array.drawers (.eh, 6)).enemyStartX
        = Inst.initialX (.eh, 6) + displacement
            (Fleet.dx false * released (· || ·) (fun _ => 0) powerUp holdsKey (.eh, 6) 9) ∧
      ((run (step (· || ·) fun _ => 0) powerUp holdsKey 9).array.drawers (.eh, 6)).enemyStartY
        = Inst.initialY (.eh, 6) + displacement
            (Fleet.dy false * released (· || ·) (fun _ => 0) powerUp holdsKey (.eh, 6) 9) :=
  run_slides (· || ·) (fun _ => 0) powerUp_powerUp (by decide +kernel)

end Lab8

end SpaceInvaders
