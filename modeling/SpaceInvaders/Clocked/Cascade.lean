import SpaceInvaders.Clocked.RowScan

/-!
# Two counters in cascade

A column counter goes back to 0 after `W` columns and then moves a row counter on,
which goes back to 0 after `H` rows; the registers hold `X` and `Y` values, and the
end of a row is recognised by equality. So the counters are one number, `place`,
that counts modulo `W * H` (`place_iterate`), as long as they are inside the
picture. Outside, a counter runs up to the end of its register and starts over:
`lag` is what is left of that, and a cascade with any contents is inside the picture
for good after at most `(X - W) + W * (Y - H)` counts (`settled_iterate`).

A circuit that moves such a cascade on every other edge puts out each place once in
`2 * (W * H)` edges (`emitted_divided`), and the places in a corner of the picture
are the rows of the corner (`rowMajor_corner`).
-/

namespace Clocked

/-- One count of a register of `X` values: 0 comes after `N - 1`, and after the
register's last value. -/
def count (N X c : Nat) : Nat := if c + 1 = N then 0 else (c + 1) % X

theorem count_lt {N X c : Nat} (hX : 0 < X) : count N X c < X := by
  unfold count
  split_ifs
  · exact hX
  · exact Nat.mod_lt _ hX

theorem count_of_lt {N X c : Nat} (hNX : N ≤ X) (hc : c < N) :
    count N X c = (c + 1) % N := by
  unfold count
  split_ifs with hend
  · rw [hend, Nat.mod_self]
  · rw [Nat.mod_eq_of_lt (show c + 1 < X by omega),
      Nat.mod_eq_of_lt (show c + 1 < N by omega)]

/-- Past its last value a counter counts on, up to the end of the register. -/
theorem count_of_ge {N X c : Nat} (hN : N ≤ c) : count N X c = (c + 1) % X := by
  rw [count, if_neg (by omega)]

structure Cascade where
  col : Nat
  row : Nat

namespace Cascade

variable {W H X Y : Nat}

/-- One count of the cascade. -/
def next (W H X Y : Nat) (c : Cascade) : Cascade :=
  { col := count W X c.col
    row := if c.col + 1 = W then count H Y c.row else c.row }

/-- Both counters are inside the picture. -/
def Settled (W H : Nat) (c : Cascade) : Prop := c.col < W ∧ c.row < H

/-- The number of the place in the picture, row by row. -/
def place (W : Nat) (c : Cascade) : Nat := W * c.row + c.col

theorem place_lt {c : Cascade} (h : c.Settled W H) : c.place W < W * H := by
  obtain ⟨hcol, hrow⟩ := h
  have hle : W * (c.row + 1) ≤ W * H := Nat.mul_le_mul_left W hrow
  rw [Nat.mul_succ] at hle
  unfold place
  omega

theorem place_mod {c : Cascade} (h : c.Settled W H) : c.place W % W = c.col := by
  rw [place, Nat.mul_add_mod, Nat.mod_eq_of_lt h.1]

theorem place_div {c : Cascade} (h : c.Settled W H) : c.place W / W = c.row := by
  have hW : 0 < W := Nat.zero_lt_of_lt h.1
  rw [place, Nat.mul_add_div hW, Nat.div_eq_of_lt h.1, Nat.add_zero]

section Inside

variable (hWX : W ≤ X) (hHY : H ≤ Y)
include hWX hHY

/-- Inside the picture both counters stay inside. -/
theorem settled_next {c : Cascade} (h : c.Settled W H) : (c.next W H X Y).Settled W H := by
  obtain ⟨hcol, hrow⟩ := h
  refine ⟨?_, ?_⟩
  · show count W X c.col < W
    rw [count_of_lt hWX hcol]
    exact Nat.mod_lt _ (by omega)
  · show (if c.col + 1 = W then count H Y c.row else c.row) < H
    split_ifs
    · rw [count_of_lt hHY hrow]
      exact Nat.mod_lt _ (by omega)
    · exact hrow

/-- **The two counters are one number.** -/
theorem place_next {c : Cascade} (h : c.Settled W H) :
    (c.next W H X Y).place W = (c.place W + 1) % (W * H) := by
  have hlt := place_lt h
  obtain ⟨hcol, hrow⟩ := h
  show W * (if c.col + 1 = W then count H Y c.row else c.row) + count W X c.col
    = (W * c.row + c.col + 1) % (W * H)
  rw [count_of_lt hWX hcol, count_of_lt hHY hrow]
  split_ifs with hend
  · -- the end of a row, and perhaps of the picture
    rw [hend, Nat.mod_self, Nat.add_zero, Nat.add_assoc, hend, ← Nat.mul_succ,
      Nat.mul_mod_mul_left]
  · unfold place at hlt
    have hword : W * c.row + c.col + 1 < W * H := by
      refine Nat.lt_of_le_of_ne hlt fun hfull => ?_
      -- the last place of the picture is the end of a row
      have hmod : (W * c.row + c.col + 1) % W = 0 := by rw [hfull, Nat.mul_mod_right]
      rw [Nat.add_assoc, Nat.mul_add_mod, Nat.mod_eq_of_lt (by omega)] at hmod
      omega
    rw [Nat.mod_eq_of_lt hword, Nat.mod_eq_of_lt (show c.col + 1 < W by omega),
      Nat.add_assoc]

theorem settled_place_iterate {c : Cascade} (h : c.Settled W H) (n : Nat) :
    (Nat.iterate (next W H X Y) n c).Settled W H ∧
      (Nat.iterate (next W H X Y) n c).place W = (c.place W + n) % (W * H) := by
  induction n with
  | zero => exact ⟨h, (Nat.mod_eq_of_lt (place_lt h)).symm⟩
  | succ n ih =>
    rw [Function.iterate_succ_apply']
    refine ⟨settled_next hWX hHY ih.1, ?_⟩
    rw [place_next hWX hHY ih.1, ih.2, Nat.mod_add_mod, Nat.add_assoc]

end Inside

/-! ### From anywhere -/

/-- The counts until the cascade is inside the picture: until the row counter moves
on, and then a row for each row left in its register. -/
def lag (W H X Y : Nat) (c : Cascade) : Nat :=
  if c.row < H then (if c.col < W then 0 else X - c.col)
  else (if c.col < W then W - c.col else X - c.col + W) + W * (Y - c.row - 1)

variable {c : Cascade}

theorem settled_of_lag (hX : c.col < X) (h : c.lag W H X Y = 0) : c.Settled W H := by
  unfold lag at h
  split_ifs at h with hrow hcol hcol
  · exact ⟨hcol, hrow⟩
  · omega
  · omega
  · omega

theorem lag_le (hrow : c.row < Y) (hWX : W ≤ X) :
    c.lag W H X Y ≤ (X - W) + W * (Y - H) := by
  unfold lag
  by_cases hin : c.row < H
  · rw [if_pos hin]
    split_ifs
    · exact Nat.zero_le _
    · omega
  · rw [if_neg hin]
    have hrows : W * (Y - c.row - 1) + W ≤ W * (Y - H) := by
      rw [← Nat.mul_succ]
      exact Nat.mul_le_mul_left W (by omega)
    split_ifs
    · omega
    · omega

/-- Outside the picture every count leaves one less. -/
theorem lag_next (hX : c.col < X) (hY : c.row < Y) (hWX : W ≤ X) (hW : 0 < W)
    (hH : 0 < H) (h : ¬ c.Settled W H) :
    (c.next W H X Y).lag W H X Y + 1 = c.lag W H X Y := by
  by_cases hcol : c.col < W
  · have hrow : H ≤ c.row := Nat.le_of_not_lt fun hrow => h ⟨hcol, hrow⟩
    by_cases hend : c.col + 1 = W
    · -- the row counter moves on
      have hnext : c.next W H X Y = ⟨0, (c.row + 1) % Y⟩ := by
        rw [next, count, if_pos hend, if_pos hend, count_of_ge hrow]
      rw [hnext]
      simp only [lag]
      rw [if_neg (Nat.not_lt.mpr hrow), if_pos hcol, show W - c.col = 1 by omega]
      by_cases hlast : c.row + 1 = Y
      · rw [hlast, Nat.mod_self, if_pos hH, if_pos hW, ← hlast]
        simp
      · rw [Nat.mod_eq_of_lt (show c.row + 1 < Y by omega), if_neg (by omega), if_pos hW,
          show Y - c.row - 1 = (Y - (c.row + 1) - 1) + 1 by omega, Nat.mul_succ]
        omega
    · have hnext : c.next W H X Y = ⟨c.col + 1, c.row⟩ := by
        rw [next, count, if_neg hend, if_neg hend,
          Nat.mod_eq_of_lt (show c.col + 1 < X by omega)]
      rw [hnext]
      simp only [lag]
      rw [if_neg (Nat.not_lt.mpr hrow), if_neg (Nat.not_lt.mpr hrow), if_pos hcol,
        if_pos (show c.col + 1 < W by omega)]
      omega
  · have hnext : c.next W H X Y = ⟨(c.col + 1) % X, c.row⟩ := by
      rw [next, count_of_ge (Nat.le_of_not_lt hcol), if_neg (by omega)]
    rw [hnext]
    simp only [lag]
    rw [if_neg hcol, if_neg hcol]
    by_cases hlast : c.col + 1 = X
    · rw [hlast, Nat.mod_self, if_pos hW, if_pos hW]
      split_ifs
      · omega
      · omega
    · have hout : ¬ c.col + 1 < W := by omega
      rw [Nat.mod_eq_of_lt (show c.col + 1 < X by omega), if_neg hout, if_neg hout]
      split_ifs
      · omega
      · omega

/-- **Whatever the registers hold**, the counters get inside the picture and stay
there. -/
theorem settled_iterate (hX : c.col < X) (hY : c.row < Y) (hWX : W ≤ X) (hHY : H ≤ Y)
    (hW : 0 < W) (hH : 0 < H) {n : Nat} (hn : (X - W) + W * (Y - H) ≤ n) :
    (Nat.iterate (next W H X Y) n c).Settled W H := by
  have hlag := (lag_le (H := H) hY hWX).trans hn
  clear hn
  induction n generalizing c with
  | zero => exact settled_of_lag hX (Nat.le_zero.mp hlag)
  | succ n ih =>
    have hX' : (c.next W H X Y).col < X := count_lt (by omega)
    have hY' : (c.next W H X Y).row < Y := by
      show (if c.col + 1 = W then count H Y c.row else c.row) < Y
      split_ifs
      · exact count_lt (by omega)
      · exact hY
    by_cases h : c.Settled W H
    · exact (settled_place_iterate hWX hHY h (n + 1)).1
    · have hless := lag_next hX hY hWX hW hH h
      exact ih hX' hY' (by omega)

end Cascade

/-! ## What a divided clock puts out -/

section Divided

open Scanner (rowMajor)

variable {α : Type}

/-- In a window in which only every other edge, the first one of two, puts anything
out. -/
theorem emitted_divided {p : Nat → Bool} {out : Nat → α} {q : Nat → Bool} {f : Nat → α}
    {a n : Nat} (hq : ∀ k, k < n → p (a + 2 * k) = q k)
    (hf : ∀ k, k < n → out (a + 2 * k) = f k)
    (hodd : ∀ k, k < n → p (a + 2 * k + 1) = false) :
    emitted p out a (a + 2 * n) = ((List.range n).filter q).map f := by
  induction n with
  | zero => simp
  | succ n ih =>
    have hn : n < n + 1 := Nat.lt_succ_self n
    rw [show a + 2 * (n + 1) = a + 2 * n + 1 + 1 by omega, emitted_succ _ _ (by omega),
      emitted_succ _ _ (by omega), hodd n hn, hq n hn, hf n hn,
      ih (fun k hk => hq k (by omega)) (fun k hk => hf k (by omega))
        (fun k hk => hodd k (by omega)), List.range_succ, List.filter_append,
      List.map_append]
    cases hqn : q n <;> simp [hqn]

/-- Every other one. -/
theorem range_odd (n : Nat) : (List.range (2 * n)).filter (fun k => decide (k % 2 = 1))
    = (List.range n).map fun k => 2 * k + 1 := by
  induction n with
  | zero => rfl
  | succ n ih =>
    rw [show 2 * (n + 1) = 2 * n + 1 + 1 by omega, List.range_succ, List.range_succ,
      List.filter_append, List.filter_append, ih, List.range_succ, List.map_append]
    have hodd : (2 * n + 1) % 2 = 1 := by omega
    simp [hodd]

/-- The places of a picture that lie in its upper left corner, row by row. -/
theorem rowMajor_corner {W H w h : Nat} (hw : w ≤ W) (hh : h ≤ H) :
    (rowMajor W H).filter (fun p => decide (p.2 < w ∧ p.1 < h)) = rowMajor w h := by
  have hcols : ∀ y, ((List.range W).map fun x => (y, x)).filter
      (fun p => decide (p.2 < w ∧ p.1 < h))
        = if y < h then (List.range w).map fun x => (y, x) else [] := by
    intro y
    obtain ⟨k, rfl⟩ := Nat.exists_eq_add_of_le hw
    rw [List.range_add, List.map_append, List.filter_append]
    have hright : (((List.range k).map (w + ·)).map fun x => (y, x)).filter
        (fun p => decide (p.2 < w ∧ p.1 < h)) = [] := by
      rw [List.filter_eq_nil_iff]
      intro p hp
      obtain ⟨x, hx, rfl⟩ := List.mem_map.mp hp
      obtain ⟨j, _, rfl⟩ := List.mem_map.mp hx
      simp
    rw [hright, List.append_nil]
    split_ifs with hy
    · rw [List.filter_eq_self]
      intro p hp
      obtain ⟨x, hx, rfl⟩ := List.mem_map.mp hp
      exact decide_eq_true ⟨List.mem_range.mp hx, hy⟩
    · rw [List.filter_eq_nil_iff]
      intro p hp
      obtain ⟨x, _, rfl⟩ := List.mem_map.mp hp
      simp [hy]
  unfold rowMajor
  rw [List.filter_flatMap]
  simp only [hcols]
  obtain ⟨k, rfl⟩ := Nat.exists_eq_add_of_le hh
  rw [List.range_add, List.flatMap_append, List.flatMap_map]
  have hin : ∀ y ∈ List.range h, (if y < h then (List.range w).map fun x => (y, x) else [])
      = (List.range w).map fun x => (y, x) :=
    fun y hy => if_pos (List.mem_range.mp hy)
  have hout : ∀ y ∈ List.range k, (if h + y < h then (List.range w).map fun x => (h + y, x)
      else []) = ([] : List (Nat × Nat)) := fun y _ => if_neg (by omega)
  rw [List.flatMap_congr hin, List.flatMap_congr hout]
  simp

end Divided

end Clocked
