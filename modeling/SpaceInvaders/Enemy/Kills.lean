import Mathlib.Data.Finset.Card
import SpaceInvaders.ColorMapper
import SpaceInvaders.Enemy.Array

/-!
# Kill accounting

`enemy_counter` is decremented on every `Clk` edge at which `hit` is high, while
a kill is an event of one drawer: its state enters `FINISHED`, and its flag
stays up for one edge more. `color_mapper` drives `hit` from the merged flag, so
a bullet that stays on the invader it has just killed counts it twice
(`heldBullet_miscounts`).

`counterExact_iff` compares the counter with a ghost count of the kills since
the last `INIT` frame. One edge keeps the two in balance exactly when a hit
finds the counter above zero and exactly one live flag, with `Reset` low.
-/

namespace SpaceInvaders

open Clocked (Edge edgeStep run run_succ tally tally_reload tally_keep
  forall_iff_of_step)

/-- What one `posedge Clk` samples when `hit` is wired to `color_mapper`. -/
structure ShotIn where
  reset : Bool
  start : Bool
  isPlaying : Bool
  bulletIn : Bool
  drawX : BitVec 10
  drawY : BitVec 10

def ShotIn.low : ShotIn :=
  { reset := false, start := false, isPlaying := false, bulletIn := false,
    drawX := 0, drawY := 0 }

namespace EnemyArray

variable (resolve : Bool → Bool → Bool)

/-- The inputs of `enemy_array`, `hit` coming back from `color_mapper`. -/
def withHit (s : EnemyArray) (i : ShotIn) : ArrayIn :=
  { reset := i.reset
    start := i.start
    hit := ColorMapper.hit (s.enemyOn resolve) i.bulletIn
    isPlaying := i.isPlaying
    drawX := i.drawX
    drawY := i.drawY }

/-- `enemy_array` and the hit rule of `color_mapper`. -/
def shotStep : EnemyArray → Edge ShotIn → EnemyArray :=
  edgeStep (fun s i => s.clk (s.withHit resolve i)) frame

/-- The edge takes drawer `k` to `FINISHED` by a hit. -/
def Kills (s : EnemyArray) (i : ArrayIn) (k : Inst) : Prop :=
  i.hit = true ∧ s.drawers.NewlyFinished (s.drawerIn i) k

instance (s : EnemyArray) (i : ArrayIn) (k : Inst) : Decidable (s.Kills i k) :=
  inferInstanceAs (Decidable (_ ∧ _))

def killsBy (s : EnemyArray) (i : ArrayIn) : Nat :=
  (Finset.univ.filter fun k => s.Kills i k).card

/-- A hit kills the drawers whose live flag it finds, unless `Reset` is high. -/
theorem kills_iff (s : EnemyArray) {i : ArrayIn} (hh : i.hit = true) (k : Inst) :
    s.Kills i k ↔ i.reset = false ∧ s.drawers.LiveFlag k := by
  cases hr : i.reset with
  | true =>
    have hbg : (s.drawers k).stateNext k.drawerModule (s.drawerIn i) = .beforeGame :=
      Drawer.stateNext_reset hr
    simp [Kills, Fleet.NewlyFinished, hbg]
  | false =>
    have hnew : s.drawers.NewlyFinished (s.drawerIn i) k ↔ s.drawers.LiveFlag k :=
      Fleet.newlyFinished_iff rfl hr hh k
    rw [Kills, hnew]
    simp [hh]

/-- A hit kills exactly one invader when it finds exactly one live flag. -/
theorem killsBy_eq_one_iff (s : EnemyArray) {i : ArrayIn} (hh : i.hit = true) :
    s.killsBy i = 1 ↔ i.reset = false ∧ ∃! k, s.drawers.LiveFlag k := by
  rw [killsBy, Finset.card_eq_one_iff_existsUnique]
  simp only [Finset.mem_filter, Finset.mem_univ, true_and, s.kills_iff hh]
  cases hr : i.reset with
  | true => simp [ExistsUnique]
  | false => simp

theorem killsBy_eq_zero (s : EnemyArray) {i : ArrayIn} (hh : i.hit = false) :
    s.killsBy i = 0 := by
  simp [killsBy, Kills, hh]

section Run

variable (s₀ : EnemyArray) (ev : Nat → Edge ShotIn)

/-- The kills since the last `frame_clk` edge in `INIT`. -/
def killCount : Nat → Nat :=
  tally
    (fun t => (ev t).isSlow && decide ((run (shotStep resolve) s₀ ev t).formation.state = .init))
    (fun t =>
      match ev t with
      | .fast i =>
        (run (shotStep resolve) s₀ ev t).killsBy
          ((run (shotStep resolve) s₀ ev t).withHit resolve i)
      | .slow => 0)

/-- The counter is its initial value less the kills. -/
def CounterExact (t : Nat) : Prop :=
  (run (shotStep resolve) s₀ ev t).enemyCounter.toNat + killCount resolve s₀ ev t = 16

instance (t : Nat) : Decidable (CounterExact resolve s₀ ev t) :=
  inferInstanceAs (Decidable (_ = _))

/-- The counter counts the kills throughout the run. -/
def CountsKills : Prop := ∀ t, CounterExact resolve s₀ ev t

/-- If edge `t` is a `Clk` edge with `hit` high, the counter is above zero,
`Reset` is low and there is exactly one live flag. -/
def HitsOneLive (t : Nat) : Prop :=
  ∀ i, ev t = .fast i →
    ((run (shotStep resolve) s₀ ev t).withHit resolve i).hit = true →
    (run (shotStep resolve) s₀ ev t).enemyCounter ≠ 0#5 ∧ i.reset = false ∧
      ∃! k, (run (shotStep resolve) s₀ ev t).drawers.LiveFlag k

variable {s₀ ev}

theorem killCount_fast {t : Nat} {i : ShotIn} (hev : ev t = .fast i) :
    killCount resolve s₀ ev (t + 1) = killCount resolve s₀ ev t +
      (run (shotStep resolve) s₀ ev t).killsBy
        ((run (shotStep resolve) s₀ ev t).withHit resolve i) := by
  rw [killCount, tally_keep (by simp [hev, Edge.isSlow]), hev]

theorem killCount_init {t : Nat} (hev : ev t = .slow)
    (hinit : (run (shotStep resolve) s₀ ev t).formation.state = .init) :
    killCount resolve s₀ ev (t + 1) = 0 := by
  rw [killCount, tally_reload (by simp [hev, Edge.isSlow, hinit])]

theorem killCount_frame {t : Nat} (hev : ev t = .slow)
    (hinit : (run (shotStep resolve) s₀ ev t).formation.state ≠ .init) :
    killCount resolve s₀ ev (t + 1) = killCount resolve s₀ ev t := by
  rw [killCount, tally_keep (by simp [hev, Edge.isSlow, hinit]), hev]
  rfl

/-- The balance at a `Clk` edge with `hit` high: one off the counter, which wraps
from zero, against the kills. -/
theorem balance_iff (c : BitVec 5) (n k : Nat) (h : c.toNat + n = 16) :
    (c - 1#5).toNat + (n + k) = 16 ↔ c ≠ 0#5 ∧ k = 1 := by
  by_cases hc : c = 0#5
  · subst hc
    have hwrap : (0#5 - 1#5).toNat = 31 := by decide
    simp only [hwrap, ne_eq, not_true, false_and, iff_false]
    omega
  · have hpos : c.toNat ≠ 0 := fun h0 => hc (BitVec.eq_of_toNat_eq h0)
    have hle : (1#5).toNat ≤ c.toNat := by
      rw [show (1#5).toNat = 1 from rfl]
      omega
    have hsub : (c - 1#5).toNat = c.toNat - 1 :=
      BitVec.toNat_sub_of_le (BitVec.le_def.mpr hle)
    rw [hsub, and_iff_right hc]
    omega

/-- The step fact: from a balanced state, the next one is balanced exactly when
the hit, if there is one, finds one live flag. -/
theorem counterExact_succ_iff {t : Nat} (h : CounterExact resolve s₀ ev t) :
    CounterExact resolve s₀ ev (t + 1) ↔ HitsOneLive resolve s₀ ev t := by
  rw [CounterExact] at h ⊢
  rw [run_succ]
  cases hev : ev t with
  | slow =>
    have hvacuous : HitsOneLive resolve s₀ ev t := by
      intro i hi
      rw [hev] at hi
      cases hi
    refine iff_of_true ?_ hvacuous
    show (EnemyArray.frame _).enemyCounter.toNat + _ = 16
    by_cases hinit : (run (shotStep resolve) s₀ ev t).formation.state = .init
    · rw [killCount_init resolve hev hinit, frame_enemyCounter, if_pos hinit]
      rfl
    · rwa [killCount_frame resolve hev hinit, frame_enemyCounter, if_neg hinit]
  | fast i =>
    rw [killCount_fast resolve hev]
    show (EnemyArray.clk _ _).enemyCounter.toNat + _ = 16 ↔ _
    simp only [HitsOneLive, hev, Edge.fast.injEq, forall_eq']
    cases hh : ((run (shotStep resolve) s₀ ev t).withHit resolve i).hit with
    | false =>
      rw [killsBy_eq_zero _ hh]
      simpa [clk, hh] using h
    | true =>
      simp only [clk, hh, if_true, forall_const]
      rw [balance_iff _ _ _ h, killsBy_eq_one_iff _ hh]
      rfl

/-- **When the counter counts kills**, over whole runs. -/
theorem counterExact_iff (hp : s₀.PowerUp) :
    CountsKills resolve s₀ ev ↔ ∀ t, HitsOneLive resolve s₀ ev t := by
  have h0 : CounterExact resolve s₀ ev 0 := by
    rw [CounterExact, run, hp.enemyCounter]
    rfl
  exact forall_iff_of_step h0 (fun t ht => counterExact_succ_iff resolve ht)

end Run

/-- A game without a bullet. -/
theorem noBullet_counterExact :
    CountsKills (· || ·) powerUp (fun _ => .fast ShotIn.low) := by
  refine (counterExact_iff (· || ·) powerUp_powerUp).mpr ?_
  intro t i hi hh
  obtain rfl : ShotIn.low = i := Edge.fast.inj hi
  simp [withHit, ColorMapper.hit, ShotIn.low] at hh

/-- `ee3` found by the scan and shot by a bullet that stays for one edge more. -/
def heldBullet : Nat → Edge ShotIn :=
  Clocked.script
    [.fast { ShotIn.low with start := true }, .fast { ShotIn.low with drawX := 146#10 },
      .fast ShotIn.low, .fast { ShotIn.low with bulletIn := true },
      .fast { ShotIn.low with bulletIn := true }]
    (.fast ShotIn.low)

/-- One kill, two off the counter. -/
theorem heldBullet_miscounts :
    ¬ CountsKills (· || ·) powerUp heldBullet := by
  intro h
  exact absurd (h 5) (by decide +kernel)

end EnemyArray

end SpaceInvaders
