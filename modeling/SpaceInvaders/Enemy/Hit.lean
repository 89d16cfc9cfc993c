import SpaceInvaders.Enemy.Fleet

/-!
# Which invader a hit destroys

`hit` is broadcast to all drawers, and each takes it personally when its own
`enemy_on` is up. Two things keep the flag up when the scan is not on the
sprite: `DRAW` streams fifty pixels without looking at `DrawX` again, and
`FIRST_IDLE`, alone among the states after `DRAW`, does not clear it.

`hitOne_iff_oneSource` is the law that remains: a hit destroys at most one
invader, the one under the scan, exactly when the live flags it finds were all
raised at one and the same edge, by a pixel inside their own sprites, and by
drawers that kept their spacing. One pixel lies in one of the spaced boxes, so
these flags are one.
-/

namespace SpaceInvaders

namespace Fleet

open Clocked (run run_succ)

variable {f₀ : Fleet} {inp : Nat → DrawerIn}

/-- The edge `u` is the one that last raised the flag drawer `k` holds at `t`. -/
def RaisedAt (f₀ : Fleet) (inp : Nat → DrawerIn) (k : Inst) (u t : Nat) : Prop :=
  u < t ∧ (run clk f₀ inp u k).state = .draw ∧
    ∀ v, u < v → v < t → (run clk f₀ inp v k).state ≠ .draw

/-- A hit at edge `t` destroys at most one invader, and one whose box contains the
pixel that raised its flag. -/
def HitOne (f₀ : Fleet) (inp : Nat → DrawerIn) (t : Nat) : Prop :=
  (inp t).deleteEnemies = false → (inp t).reset = false → (inp t).hit = true →
    (∀ j k, (run clk f₀ inp t).NewlyFinished (inp t) j →
      (run clk f₀ inp t).NewlyFinished (inp t) k → j = k) ∧
    ∀ k, (run clk f₀ inp t).NewlyFinished (inp t) k →
      ∃ u, RaisedAt f₀ inp k u t ∧
        (run clk f₀ inp u).InSprite k (inp u).drawX (inp u).drawY

/-- The live flags the hit at edge `t` finds were all raised at one edge, each by
a pixel inside its own sprite, and by drawers that kept their spacing. -/
def OneSource (f₀ : Fleet) (inp : Nat → DrawerIn) (t : Nat) : Prop :=
  (inp t).deleteEnemies = false → (inp t).reset = false → (inp t).hit = true →
    ∃ u, ∀ k, (run clk f₀ inp t).LiveFlag k →
      RaisedAt f₀ inp k u t ∧
        (run clk f₀ inp u).InSprite k (inp u).drawX (inp u).drawY ∧
        ∀ j, (run clk f₀ inp t).LiveFlag j → (run clk f₀ inp u).Spaced j k

/-- Live flags with one source are one flag, since their boxes share its pixel. -/
theorem hitOne_of_oneSource {t : Nat} (h : OneSource f₀ inp t) : HitOne f₀ inp t := by
  intro hd hr hh
  obtain ⟨u, hu⟩ := h hd hr hh
  simp only [newlyFinished_iff hd hr hh]
  refine ⟨fun j k hj hk => ?_, fun k hk => ⟨u, (hu k hk).1, (hu k hk).2.1⟩⟩
  obtain ⟨_, hin, hspaced⟩ := hu k hk
  exact (hspaced j hj).eq_of_inSprite (hu j hj).2.1 hin

/-- Without lone hits the drawers keep their spacing wherever one of them is
drawn, so that part of `OneSource` comes for free. -/
theorem rigid_of_noLoneHit (h0 : ∀ k, (f₀ k).state = .beforeGame) {t : Nat}
    (hlone : ∀ u, u < t → (run clk f₀ inp u).NoLoneHit (inp u)) {k : Inst}
    (hdraw : (run clk f₀ inp t k).state = .draw) : (run clk f₀ inp t).Rigid := by
  rcases aligned_of_noLoneHit h0 hlone with hall | ⟨_, hrigid⟩
  · exact absurd ((hall k).symm.trans hdraw) (by simp)
  · exact hrigid

/-- A run without lone hits obeys the law as soon as its live flags come from one
edge and from pixels inside their sprites. -/
theorem hitOne_of_noLoneHit (h0 : ∀ k, (f₀ k).state = .beforeGame) {u t : Nat}
    (hlone : ∀ v, v < t → (run clk f₀ inp v).NoLoneHit (inp v))
    (hu : ∀ k, (run clk f₀ inp t).LiveFlag k →
      RaisedAt f₀ inp k u t ∧
        (run clk f₀ inp u).InSprite k (inp u).drawX (inp u).drawY) :
    HitOne f₀ inp t := by
  apply hitOne_of_oneSource
  intro _ _ _
  refine ⟨u, fun k hk => ⟨(hu k hk).1, (hu k hk).2, fun j _ => ?_⟩⟩
  obtain ⟨hut, hdraw, _⟩ := (hu k hk).1
  exact rigid_of_noLoneHit h0 (fun v hv => hlone v (by omega)) hdraw j k

end Fleet

end SpaceInvaders
