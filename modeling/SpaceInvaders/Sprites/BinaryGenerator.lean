import Mathlib.Algebra.Order.Ring.Int
import SpaceInvaders.Bytes.LittleEndian

/-!
# `SpriteBinaryGenerator.c`

Line by line, a text of decimal numbers is turned into a file of two bytes a number.
The number passes through a `char` on its way, so what is written is not its two low
bytes but the low one and what a `char` extends it by. The output file is opened in text mode, and a host
that ends its lines by two characters puts one more in front of every byte that looks like
the end of a line. `keepsValues_iff` says which numbers come through that unharmed.

Mirroring notes:
- A text is the list of characters that the input stream delivers, and a file the list of
  its bytes; the output file can be opened.
- The host is little-endian. Whether its `char` is signed, how long its `long` is and how it
  ends a line stay open: `Target`.
- A `long` is an `Int` in the range that `strtol` clamps to; its bytes are those of
  its two's complement.
-/

namespace SpaceInvaders

open LittleEndian (encode decodeAll)

namespace SpriteBinaryGenerator

/-- What C leaves to the host. -/
structure Target where
  charSigned : Bool
  longBytes : Nat
  /-- A line ends by carriage return and line feed in a file. -/
  crlf : Bool
  atLeast : 4 ≤ longBytes

namespace Target

/-- `LONG_MAX` -/
def longMax (t : Target) : Int := 2 ^ (8 * t.longBytes - 1) - 1

/-- `LONG_MIN` -/
def longMin (t : Target) : Int := -2 ^ (8 * t.longBytes - 1)

end Target

/-! ## The C library -/

/-- At most `room` characters, up to the end of the line. -/
def readLine : Nat → List Char → List Char × List Char
  | 0, text => ([], text)
  | _ + 1, [] => ([], [])
  | room + 1, c :: text =>
    if c = '\n' then ([c], text)
    else
      let (line, rest) := readLine room text
      (c :: line, rest)

/-- `fgets`: one place of the buffer is for the terminator. -/
def fgets (numChars : Nat) : List Char → Option (List Char × List Char)
  | [] => none
  | c :: text => some (readLine (numChars - 1) (c :: text))

def isSpace (c : Char) : Bool :=
  c = ' ' || c = '\t' || c = '\n' || c = '\r' || c = '\x0b' || c = '\x0c'

/-- The sign before a number, if there is one: whether it is a minus, and what follows. -/
def sign : List Char → Bool × List Char
  | '-' :: text => (true, text)
  | '+' :: text => (false, text)
  | text => (false, text)

/-- `strtol`, base 10 -/
def strtol (t : Target) (line : List Char) : Int :=
  let (negative, digits) := sign (line.dropWhile isSpace)
  let n := Nat.ofDigitChars 10 (digits.takeWhile Char.isDigit) 0
  if negative then max (-n) t.longMin else min n t.longMax

/-- The cast to `char`. -/
def toChar (t : Target) (x : Int) : Int :=
  if t.charSigned then x.bmod 256 else x % 256

/-- `fwrite(&value, 2, 1, out)`: the first two of the bytes that hold `value`. -/
def written (t : Target) (value : Int) : List (BitVec 8) :=
  (encode t.longBytes (value % 2 ^ (8 * t.longBytes)).toNat).take 2

/-- What is in the file of the bytes that a stream in text mode is given. -/
def textStream (t : Target) (bs : List (BitVec 8)) : List (BitVec 8) :=
  bs.flatMap fun b => if t.crlf ∧ b = 0x0a#8 then [0x0d#8, 0x0a#8] else [b]

/-! ## The program -/

theorem readLine_length (room : Nat) (text : List Char) :
    (readLine room text).2.length ≤ text.length := by
  induction room generalizing text with
  | zero => exact Nat.le_refl _
  | succ room ih =>
    cases text with
    | nil => exact Nat.le_refl _
    | cons c text =>
      rw [readLine]
      split
      · exact Nat.le_succ _
      · exact Nat.le_succ_of_le (ih text)

/-- A line read is a text shortened. -/
theorem fgets_length {numChars : Nat} (hn : 1 < numChars) {text line rest : List Char}
    (h : fgets numChars text = some (line, rest)) : rest.length < text.length := by
  obtain ⟨room, rfl⟩ := Nat.exists_eq_add_of_le hn
  cases text with
  | nil => cases h
  | cons c text =>
    rw [fgets, show 1 + 1 + room - 1 = room + 1 by omega, readLine] at h
    split at h
    · cases h
      exact Nat.lt_succ_self _
    · cases h
      exact Nat.lt_succ_of_le (readLine_length room text)

/-- The loop: what is written for the lines of a text. -/
def convert (t : Target) (text : List Char) : List (BitVec 8) :=
  match h : fgets 20 text with
  | none => []
  | some (line, rest) =>
    have hshorter : rest.length < text.length := fgets_length (by decide) h
    textStream t (written t (toChar t (strtol t line))) ++ convert t rest
termination_by text.length

/-- `main`: what it returns and the output file, for an input file that may not be
there. -/
def main (t : Target) : Option (List Char) → Int × List (BitVec 8)
  | none => (-1, [])
  | some text => (0, convert t text)

/-! ## Numbers, one per line -/

/-- The numbers in decimal, one per line. -/
def listing (vs : List (BitVec 16)) : List Char :=
  vs.flatMap fun v => Nat.toDigits 10 v.toNat ++ ['\n']

variable {t : Target}

theorem readLine_append {room : Nat} {line : List Char} (hroom : line.length < room)
    (hline : ∀ c ∈ line, c ≠ '\n') (rest : List Char) :
    readLine room (line ++ '\n' :: rest) = (line ++ ['\n'], rest) := by
  induction line generalizing room with
  | nil =>
    cases room with
    | zero => exact absurd hroom (Nat.lt_irrefl 0)
    | succ room => rw [List.nil_append, readLine, if_pos rfl, List.nil_append]
  | cons c line ih =>
    obtain ⟨hc, hline⟩ := List.forall_mem_cons.mp hline
    cases room with
    | zero => exact absurd hroom (Nat.not_lt_zero _)
    | succ room =>
      rw [List.cons_append, readLine, if_neg hc, ih (Nat.lt_of_succ_lt_succ hroom) hline,
        List.cons_append]

/-! ### One number -/

section Digit

variable {c : Char}

theorem ne_of_isDigit (h : c.isDigit = true) {d : Char} (hd : d.isDigit = false) : c ≠ d := by
  rintro rfl
  rw [h] at hd
  cases hd

theorem isSpace_of_isDigit (h : c.isDigit = true) : isSpace c = false := by
  simp only [isSpace, Bool.or_eq_false_iff, decide_eq_false_iff_not]
  refine ⟨⟨⟨⟨⟨?_, ?_⟩, ?_⟩, ?_⟩, ?_⟩, ?_⟩ <;> exact ne_of_isDigit h (by decide)

theorem sign_of_isDigit (h : c.isDigit = true) (text : List Char) :
    sign (c :: text) = (false, c :: text) := by
  unfold sign
  split
  next heq =>
    cases heq
    exact absurd h (by decide)
  next heq =>
    cases heq
    exact absurd h (by decide)
  next => rfl

end Digit

theorem isDigit_of_mem {n : Nat} : ∀ c ∈ Nat.toDigits 10 n, c.isDigit = true := fun _ hc =>
  Nat.isDigit_of_mem_toDigits (by decide) (by decide) hc

theorem le_longMax (v : BitVec 16) : (v.toNat : Int) ≤ t.longMax := by
  have hlong : (2 : Int) ^ 31 ≤ 2 ^ (8 * t.longBytes - 1) := by
    have hbytes := t.atLeast
    exact pow_le_pow_right₀ (by decide) (by omega)
  have hv := v.isLt
  unfold Target.longMax
  omega

/-- Reading a number back. -/
theorem strtol_line (v : BitVec 16) :
    strtol t (Nat.toDigits 10 v.toNat ++ ['\n']) = v.toNat := by
  have hread : Nat.ofDigitChars 10 (List.takeWhile Char.isDigit
      (Nat.toDigits 10 v.toNat ++ ['\n'])) 0 = v.toNat := by
    rw [List.takeWhile_append_of_pos isDigit_of_mem,
      List.takeWhile_cons_of_neg (by decide), List.append_nil, Nat.ofDigitChars_ten_toDigits]
  obtain ⟨c, digits, hdigits⟩ := List.exists_cons_of_ne_nil
    (Nat.toDigits_ne_nil : Nat.toDigits 10 v.toNat ≠ [])
  have hc : c.isDigit = true := isDigit_of_mem c (hdigits ▸ List.mem_cons_self ..)
  rw [hdigits, List.cons_append] at hread ⊢
  -- a digit comes first: no blank to skip, and no sign
  rw [strtol, List.dropWhile_cons_of_neg (by rw [isSpace_of_isDigit hc]; decide),
    sign_of_isDigit hc]
  simp only [hread, Bool.false_eq_true, if_false]
  exact min_eq_left (le_longMax v)

/-- Of a value only its residue modulo `2 ^ 16` is written. -/
theorem written_eq (x : Int) : written t x = encode 2 (x % 65536).toNat := by
  have htwo : 2 ≤ t.longBytes := Nat.le_trans (by decide) t.atLeast
  have hdvd : (65536 : Int) ∣ 2 ^ (8 * t.longBytes) := pow_dvd_pow 2 (by omega : 16 ≤ _)
  have hlow := Int.emod_emod_of_dvd x hdvd
  have hpos : 0 ≤ x % 2 ^ (8 * t.longBytes) := Int.emod_nonneg x (pow_ne_zero _ (by decide))
  rw [written, LittleEndian.take_encode htwo, LittleEndian.encode_eq_iff]
  generalize x % 2 ^ (8 * t.longBytes) = y at hlow hpos
  omega

/-- The values that the cast leaves alone, seen in two bytes. -/
def FitsChar (t : Target) (v : BitVec 16) : Prop :=
  if t.charSigned then v.toNat < 128 ∨ 65408 ≤ v.toNat else v.toNat < 256

/-- The values that the cast leaves alone and that do not look like the end of a line. -/
def Kept (t : Target) (v : BitVec 16) : Prop := FitsChar t v ∧ (t.crlf = true → v.toNat ≠ 10)

theorem fitsChar_iff (v : BitVec 16) :
    (toChar t v.toNat % 65536).toNat % 256 ^ 2 = v.toNat % 256 ^ 2 ↔ FitsChar t v := by
  have hv := v.isLt
  unfold toChar FitsChar
  split
  · unfold Int.bmod
    dsimp only
    split_ifs <;> omega
  · omega

/-- Of these 10 alone is written with a byte 10. -/
theorem FitsChar.newline_iff {v : BitVec 16} (h : FitsChar t v) :
    0x0a#8 ∈ encode 2 v.toNat ↔ v.toNat = 10 := by
  have hbyte (n : Nat) : 0x0a#8 = BitVec.ofNat 8 n ↔ n % 256 = 10 := by
    rw [← BitVec.toNat_inj, BitVec.toNat_ofNat, eq_comm]
    rfl
  have hv := v.isLt
  simp only [encode, List.mem_cons, List.not_mem_nil, or_false, hbyte]
  unfold FitsChar at h
  split_ifs at h
  · omega
  · omega

/-! ### The stream -/

theorem textStream_append (bs cs : List (BitVec 8)) :
    textStream t (bs ++ cs) = textStream t bs ++ textStream t cs :=
  List.flatMap_append

theorem textStream_of_not_mem {bs : List (BitVec 8)} (h : t.crlf = true → 0x0a#8 ∉ bs) :
    textStream t bs = bs := by
  induction bs with
  | nil => rfl
  | cons b bs ih =>
    have hb : ¬ (t.crlf ∧ b = 0x0a#8) := by
      rintro ⟨hcrlf, rfl⟩
      exact h hcrlf (List.mem_cons_self ..)
    have hrest := ih fun hcrlf hmem => h hcrlf (List.mem_cons_of_mem _ hmem)
    show (if _ then _ else _) ++ textStream t bs = b :: bs
    rw [if_neg hb, hrest, List.singleton_append]

/-- Every byte that looks like the end of a line makes the file longer. -/
theorem length_textStream {bs : List (BitVec 8)} (hcrlf : t.crlf = true) :
    (textStream t bs).length = bs.length + bs.count 0x0a#8 := by
  induction bs with
  | nil => rfl
  | cons b bs ih =>
    have hcons : textStream t (b :: bs)
        = (if t.crlf ∧ b = 0x0a#8 then [0x0d#8, 0x0a#8] else [b]) ++ textStream t bs := rfl
    rw [hcons, List.length_append, ih, List.count_cons, List.length_cons]
    by_cases hb : b = 0x0a#8
    · rw [if_pos ⟨hcrlf, hb⟩, if_pos (beq_iff_eq.mpr hb), List.length_cons, List.length_singleton]
      omega
    · rw [if_neg fun h => hb h.2, if_neg fun h => hb (beq_iff_eq.mp h), List.length_singleton]
      omega

/-- When a file of the right length has the right bytes. -/
theorem textStream_eq_iff {bs cs : List (BitVec 8)} (hlen : bs.length = cs.length) :
    textStream t bs = cs ↔ bs = cs ∧ (t.crlf = true → 0x0a#8 ∉ cs) := by
  refine ⟨fun h => ?_, fun ⟨heq, hnone⟩ => ?_⟩
  · have hnone : t.crlf = true → 0x0a#8 ∉ bs := by
      intro hcrlf
      have hlonger : (textStream t bs).length = _ := length_textStream hcrlf
      rw [h, hlen] at hlonger
      exact List.count_eq_zero.mp (Nat.left_eq_add.mp hlonger)
    rw [textStream_of_not_mem hnone] at h
    exact ⟨h, h ▸ hnone⟩
  · rw [heq]
    exact textStream_of_not_mem hnone

/-! ### The whole text -/

theorem fgets_line (v : BitVec 16) (rest : List Char) :
    fgets 20 (Nat.toDigits 10 v.toNat ++ '\n' :: rest)
      = some (Nat.toDigits 10 v.toNat ++ ['\n'], rest) := by
  have hlen : (Nat.toDigits 10 v.toNat).length ≤ 5 := by
    have hv := v.isLt
    rw [Nat.length_toDigits_le_iff (by decide) (by decide)]
    omega
  have hroom : (Nat.toDigits 10 v.toNat).length < 19 := by omega
  have hline := readLine_append hroom
    (fun c hc => ne_of_isDigit (isDigit_of_mem c hc) (by decide)) rest
  obtain ⟨c, digits, hdigits⟩ := List.exists_cons_of_ne_nil
    (Nat.toDigits_ne_nil : Nat.toDigits 10 v.toNat ≠ [])
  rw [hdigits] at hline ⊢
  exact congrArg some hline

theorem convert_line (v : BitVec 16) (rest : List Char) :
    convert t (Nat.toDigits 10 v.toNat ++ '\n' :: rest)
      = textStream t (encode 2 (toChar t v.toNat % 65536).toNat) ++ convert t rest := by
  have hline := fgets_line v rest
  rw [convert]
  split
  next hnone =>
    rw [hline] at hnone
    cases hnone
  next line rest' hsome =>
    rw [hline] at hsome
    cases hsome
    rw [strtol_line, written_eq]

/-- What is written for a list of numbers. -/
theorem convert_listing (vs : List (BitVec 16)) :
    convert t (listing vs)
      = textStream t (vs.flatMap fun v => encode 2 (toChar t v.toNat % 65536).toNat) := by
  induction vs with
  | nil =>
    rw [listing, List.flatMap_nil, convert]
    rfl
  | cons v vs ih =>
    rw [listing, List.flatMap_cons, List.append_assoc, List.singleton_append, convert_line,
      List.flatMap_cons, textStream_append, ← ih]
    rfl

/-- Every number is in the output file, in two bytes. -/
structure KeepsValues (t : Target) (vs : List (BitVec 16)) : Prop where
  output : main t (some (listing vs)) = (0, vs.flatMap fun v => encode 2 v.toNat)
  decoded : decodeAll 2 (main t (some (listing vs))).2 = vs.map BitVec.toNat

/-- **Which numbers come through.** -/
theorem keepsValues_iff (t : Target) (vs : List (BitVec 16)) :
    KeepsValues t vs ↔ ∀ v ∈ vs, Kept t v := by
  have houtput : main t (some (listing vs)) = (0, vs.flatMap fun v => encode 2 v.toNat)
      ↔ ∀ v ∈ vs, Kept t v := by
    rw [main, convert_listing, Prod.mk.injEq, eq_self_iff_true, true_and, textStream_eq_iff,
      LittleEndian.flatMap_encode_eq_iff]
    · simp only [fitsChar_iff, List.mem_flatMap, not_exists, not_and]
      refine ⟨fun ⟨hfits, hnone⟩ v hv => ⟨hfits v hv, fun hcrlf heq => ?_⟩,
        fun h => ⟨fun v hv => (h v hv).1, fun hcrlf v hv hmem => ?_⟩⟩
      · exact hnone hcrlf v hv ((hfits v hv).newline_iff.mpr heq)
      · exact (h v hv).2 hcrlf ((h v hv).1.newline_iff.mp hmem)
    · rw [LittleEndian.length_flatMap_encode, LittleEndian.length_flatMap_encode]
  refine ⟨fun h => houtput.mp h.output, fun h => ⟨houtput.mpr h, ?_⟩⟩
  rw [houtput.mpr h, LittleEndian.decodeAll_flatMap (by decide)]
  exact List.map_congr_left fun v _ => Nat.mod_eq_of_lt v.isLt

/-- A host with a signed `char` writes `80 ff` for 128. -/
theorem value128_lost : ¬ KeepsValues ⟨true, 8, false, by decide⟩ [128#16] := by
  intro h
  have houtput := congrArg Prod.snd h.output
  rw [main, convert_listing] at houtput
  exact absurd houtput (by decide)

end SpriteBinaryGenerator

end SpaceInvaders
