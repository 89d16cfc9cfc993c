import Mathlib.Data.BitVec
import Mathlib.Tactic.Abel

/-!
# Positions on a wrap-around raster

Screen positions are `w`-bit registers, so arithmetic on them is arithmetic on a
circle of `2 ^ w` pixels. `Within k a b` is circular distance at most `k`, and
`within_iff_closeMod` reads it off an integer displacement; `InBox` is the test
a sprite drawer makes, `DrawX - start_x < width` with wrap-around subtraction,
and `inBox_add` says that moving the box is moving the pixel the other way.
-/

namespace Raster

variable {w : Nat}

/-- `a` and `b` are at most `k` pixels apart on the circle. -/
def Within (k : Nat) (a b : BitVec w) : Prop :=
  (a - b).toNat ≤ k ∨ (b - a).toNat ≤ k

instance (k : Nat) (a b : BitVec w) : Decidable (Within k a b) :=
  inferInstanceAs (Decidable (_ ∨ _))

/-- The displacement `z` is at most `k` away from a multiple of `m`. -/
def CloseMod (m k : Nat) (z : Int) : Prop := z % m ≤ k ∨ -z % m ≤ k

instance (m k : Nat) (z : Int) : Decidable (CloseMod m k z) :=
  inferInstanceAs (Decidable (_ ∨ _))

/-- An integer displacement, read through a `w`-bit register. -/
def displacement : Int →+ BitVec w where
  toFun := BitVec.ofInt w
  map_zero' := rfl
  map_add' := BitVec.ofInt_add

/-- Reading an integer through a `w`-bit register keeps its residue. -/
theorem toNat_ofInt_le_iff (z : Int) (k : Nat) :
    (BitVec.ofInt w z).toNat ≤ k ↔ z % (2 ^ w : Nat) ≤ k := by
  have hpos : (0 : Int) ≤ z % (2 ^ w : Nat) :=
    Int.emod_nonneg _ (by exact_mod_cast (Nat.two_pow_pos w).ne')
  rw [BitVec.toNat_ofInt]
  omega

/-- Circular distance is the residue of the displacement, either way round. -/
theorem within_iff_closeMod {a b : BitVec w} {z : Int} (k : Nat)
    (h : a - b = BitVec.ofInt w z) : Within k a b ↔ CloseMod (2 ^ w) k z := by
  have hba : b - a = BitVec.ofInt w (-z) := by
    rw [BitVec.ofInt_neg, ← h]
    abel
  rw [Within, CloseMod, h, hba, toNat_ofInt_le_iff, toNat_ofInt_le_iff]

/-- The pixel `(px, py)` lies in the `bw × bh` box with top left `(ox, oy)`. -/
def InBox (ox oy : BitVec w) (bw bh : Nat) (px py : BitVec w) : Prop :=
  (px - ox).toNat < bw ∧ (py - oy).toNat < bh

instance (ox oy : BitVec w) (bw bh : Nat) (px py : BitVec w) :
    Decidable (InBox ox oy bw bh px py) :=
  inferInstanceAs (Decidable (_ ∧ _))

/-- Moving the box is moving the pixel the other way. -/
theorem inBox_add {ox oy dx dy px py : BitVec w} {bw bh : Nat} :
    InBox (ox + dx) (oy + dy) bw bh px py ↔ InBox ox oy bw bh (px - dx) (py - dy) := by
  rw [InBox, InBox, show px - (ox + dx) = px - dx - ox by abel,
    show py - (oy + dy) = py - dy - oy by abel]

/-- A span that does not cross the seam is an interval. -/
theorem sub_lt_iff_of_le {o p : BitVec w} {n : Nat} (h : o.toNat + n ≤ 2 ^ w) :
    (p - o).toNat < n ↔ o.toNat ≤ p.toNat ∧ p.toNat < o.toNat + n := by
  have hp := p.isLt
  rcases Nat.lt_or_ge p.toNat o.toNat with hlt | hge
  · rw [BitVec.toNat_sub_of_lt (BitVec.lt_def.mpr hlt)]
    omega
  · rw [BitVec.toNat_sub_of_le (BitVec.le_def.mpr hge)]
    omega

end Raster
