import Mathlib.Data.BitVec

/-!
# `color_mapper`

The module lays the layers over each other and, on the way, decides what counts
as a hit.

Mirroring notes:
- `always_comb` blocks are taken at their settled values. The one non-blocking
  branch of the layer block is also the last assignment on its path, so the block
  is a list of guarded assignments of which the last one to apply wins (`settle`).
- `VGA_R`, `VGA_G` and `VGA_B` are declared `logic`, one bit each: an assignment to
  one keeps the lowest bit, and the port it drives is that bit, zero-extended.
- `player` in the `entity_data` lines is read as the port `player_color`.
- `bulletY + 4` is a 32-bit sum, so it does not wrap.
- `entity_on` is never read.
-/

namespace SpaceInvaders

/-- The inputs of `color_mapper`. -/
structure ColorIn where
  drawX : BitVec 10
  drawY : BitVec 10
  bulletIn : Bool
  bulletX : BitVec 10
  bulletY : BitVec 10
  playerColor : BitVec 24
  enemyR : BitVec 8
  enemyG : BitVec 8
  enemyB : BitVec 8
  playerOn : Bool
  enemyOn : Bool

/-- The three colours, which the module treats alike. -/
inductive Channel where
  | red
  | green
  | blue

namespace ColorMapper

/-- The block that drives `hit`. -/
def hit (enemyOn bulletIn : Bool) : Bool :=
  if enemyOn && bulletIn then true else false

/-! ## The layers -/

/-- `player_color[23:16]`, `player_color[15:8]`, `player_color[7:0]` -/
def playerByte (i : ColorIn) : Channel → BitVec 8
  | .red => i.playerColor.extractLsb' 16 8
  | .green => i.playerColor.extractLsb' 8 8
  | .blue => i.playerColor.extractLsb' 0 8

def enemyByte (i : ColorIn) : Channel → BitVec 8
  | .red => i.enemyR
  | .green => i.enemyG
  | .blue => i.enemyB

/-- `entity_data_R`, `entity_data_G`, `entity_data_B` -/
def entityData (i : ColorIn) (c : Channel) : BitVec 8 := enemyByte i c ||| playerByte i c

/-- The bullet is drawn at this pixel. -/
def bulletPixel (i : ColorIn) : Bool :=
  i.bulletIn && i.drawX == i.bulletX && decide (i.drawY.toNat < i.bulletY.toNat + 4)

/-- What a block leaves on a net: its assignments in order, each where its guard
holds. -/
def settle {α : Type} (held : α) (assignments : List (Bool × α)) : α :=
  assignments.foldl (fun v a => if a.1 then a.2 else v) held

/-- `VGA_R`, `VGA_G`, `VGA_B` -/
def vga (i : ColorIn) (c : Channel) : BitVec 1 :=
  settle 0
    [(bulletPixel i, (0xFF#8).setWidth 1),
      (i.playerOn, (entityData i c).setWidth 1),
      (!i.playerOn && i.enemyOn, (enemyByte i c).setWidth 1),
      (!i.playerOn && !i.enemyOn, (0x00#8).setWidth 1)]

/-- `Red`, `Green`, `Blue` -/
def port (i : ColorIn) (c : Channel) : BitVec 8 := (vga i c).setWidth 8

/-- `VGA_R`, `VGA_G`, `VGA_B` of `lab8`: `Red[7:4]`, `Green[7:4]`, `Blue[7:4]`. -/
def pins (i : ColorIn) (c : Channel) : BitVec 4 := (port i c).extractLsb' 4 4

/-- **The bullet is painted over**: the `if` chain after it leaves no case out. -/
theorem vga_eq (i : ColorIn) (c : Channel) : vga i c =
    if i.playerOn then (entityData i c).setWidth 1
    else if i.enemyOn then (enemyByte i c).setWidth 1
    else 0#1 := by
  cases hp : i.playerOn <;> cases he : i.enemyOn <;> simp [vga, settle, hp, he]

end ColorMapper

end SpaceInvaders
