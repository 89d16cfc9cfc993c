import SpaceInvaders.ColorMapper

/-!
# What the layers show

`color_mapper` is to show the colour of the layer on top, and white for the
bullet where there is none. Two things stand in the way. The nets on which the
colour travels are one bit wide, so a byte arrives as its lowest bit
(`throughNet_iff`), and the bullet is drawn by an `if` of its own before the chain
that paints everything. `showsTopLayer_iff` is exact, input by input.
-/

namespace SpaceInvaders

namespace ColorMapper

/-- A colour, channel by channel. -/
abbrev Colour := Channel → BitVec 8

/-- The colour to be seen, with the layers as the module ranks them. With both
sprites on nothing is asked. -/
def topLayer (i : ColorIn) : Option Colour :=
  match i.playerOn, i.enemyOn with
  | true, true => none
  | true, false => some (playerByte i)
  | false, true => some (enemyByte i)
  | false, false => some fun _ => if bulletPixel i then 0xFF#8 else 0x00#8

/-- The layer on top is shown in full colour, and its upper nibbles are on the
pins. -/
structure ShowsTopLayer (i : ColorIn) : Prop where
  player : i.playerOn = true → i.enemyOn = false → ∀ c, port i c = playerByte i c
  enemy : i.enemyOn = true → i.playerOn = false → ∀ c, port i c = enemyByte i c
  bullet : i.playerOn = false → i.enemyOn = false → bulletPixel i = true →
    ∀ c, port i c = 0xFF#8
  dark : i.playerOn = false → i.enemyOn = false → bulletPixel i = false →
    ∀ c, port i c = 0x00#8
  pins : ∀ colour, topLayer i = some colour →
    ∀ c, pins i c = (colour c).extractLsb' 4 4

/-- The colours are such that one bit carries them, and no bullet is due. -/
structure FitsNets (i : ColorIn) : Prop where
  player : i.playerOn = true → i.enemyOn = false →
    ∀ c, (playerByte i c).toNat ≤ 1 ∧
      ((enemyByte i c).getLsbD 0 = true → playerByte i c = 1#8)
  enemy : i.enemyOn = true → i.playerOn = false → ∀ c, (enemyByte i c).toNat ≤ 1
  bullet : i.playerOn = false → i.enemyOn = false → bulletPixel i = false

/-! ## Through a net of one bit -/

theorem throughNet_toNat (b : BitVec 8) :
    ((b.setWidth 1).setWidth 8).toNat = b.toNat % 2 := by
  rw [BitVec.toNat_setWidth, BitVec.toNat_setWidth]
  omega

/-- A byte comes through whole if it is 0 or 1. -/
theorem throughNet_iff (b : BitVec 8) : (b.setWidth 1).setWidth 8 = b ↔ b.toNat ≤ 1 := by
  rw [← BitVec.toNat_inj, throughNet_toNat]
  omega

/-- A byte comes through under another if it comes through whole and the other does
not set its bit. -/
theorem throughNet_or_iff (e p : BitVec 8) :
    ((e ||| p).setWidth 1).setWidth 8 = p
      ↔ p.toNat ≤ 1 ∧ (e.getLsbD 0 = true → p = 1#8) := by
  have hone : p = 1#8 ↔ p.toNat = 1 := by
    rw [← BitVec.toNat_inj]
    rfl
  have hbit : ∀ b : BitVec 8, b.getLsbD 0 = decide (b.toNat % 2 = 1) := fun b => by
    rw [BitVec.getLsbD, Nat.testBit_zero]
  have hor : (e ||| p).toNat % 2 = 1 ↔ e.toNat % 2 = 1 ∨ p.toNat % 2 = 1 := by
    rw [BitVec.toNat_or]
    exact Nat.or_mod_two_eq_one
  rw [← BitVec.toNat_inj, throughNet_toNat, hone, hbit, decide_eq_true_eq]
  omega

/-! ## The ports -/

section Port

variable {i : ColorIn}

theorem port_player (hp : i.playerOn = true) (c : Channel) :
    port i c = ((enemyByte i c ||| playerByte i c).setWidth 1).setWidth 8 := by
  rw [port, vga_eq, if_pos hp]
  rfl

theorem port_enemy (hp : i.playerOn = false) (he : i.enemyOn = true) (c : Channel) :
    port i c = ((enemyByte i c).setWidth 1).setWidth 8 := by
  rw [port, vga_eq, hp, if_neg (by decide), if_pos he]

/-- With no sprite on the screen is dark, bullet or not. -/
theorem port_dark (hp : i.playerOn = false) (he : i.enemyOn = false) (c : Channel) :
    port i c = 0#8 := by
  rw [port, vga_eq, hp, he]
  rfl

end Port

/-- **When the top layer is shown**: when its colour fits the nets, and the bullet is
not on top. -/
theorem showsTopLayer_iff (i : ColorIn) : ShowsTopLayer i ↔ FitsNets i := by
  refine ⟨?_, ?_⟩
  · intro h
    refine ⟨?_, ?_, ?_⟩
    · intro hp he c
      have hport := h.player hp he c
      rw [port_player hp] at hport
      exact (throughNet_or_iff _ _).mp hport
    · intro he hp c
      have hport := h.enemy he hp c
      rw [port_enemy hp he] at hport
      exact (throughNet_iff _).mp hport
    · intro hp he
      refine Bool.eq_false_iff.mpr fun hbullet => ?_
      have hport := h.bullet hp he hbullet .red
      rw [port_dark hp he] at hport
      exact absurd hport (by decide)
  · intro h
    have hplayer : i.playerOn = true → i.enemyOn = false →
        ∀ c, port i c = playerByte i c := by
      intro hp he c
      rw [port_player hp]
      exact (throughNet_or_iff _ _).mpr (h.player hp he c)
    have henemy : i.enemyOn = true → i.playerOn = false →
        ∀ c, port i c = enemyByte i c := by
      intro he hp c
      rw [port_enemy hp he]
      exact (throughNet_iff _).mpr (h.enemy he hp c)
    refine ⟨hplayer, henemy, ?_, fun hp he _ => port_dark hp he, ?_⟩
    · intro hp he hbullet
      exact absurd (hbullet.symm.trans (h.bullet hp he)) (by simp)
    · intro colour htop c
      unfold pins
      unfold topLayer at htop
      cases hp : i.playerOn with
      | true =>
        cases he : i.enemyOn with
        | true => simp [hp, he] at htop
        | false =>
          simp only [hp, he, Option.some.injEq] at htop
          rw [hplayer hp he, ← htop]
      | false =>
        cases he : i.enemyOn with
        | true =>
          simp only [hp, he, Option.some.injEq] at htop
          rw [henemy he hp, ← htop]
        | false =>
          simp only [hp, he, h.bullet hp he, Option.some.injEq] at htop
          rw [port_dark hp he, ← htop]
          rfl

/-- The ship in pure red, alone. -/
def redShip : ColorIn :=
  { drawX := 0, drawY := 0, bulletIn := false, bulletX := 0, bulletY := 0,
    playerColor := 0xFF0000, enemyR := 0, enemyG := 0, enemyB := 0,
    playerOn := true, enemyOn := false }

/-- It is shown nearly black. -/
theorem redShip_not_shown : ¬ ShowsTopLayer redShip := by
  intro h
  exact absurd (h.player rfl rfl .red) (by decide)

end ColorMapper

end SpaceInvaders
