import SpaceInvaders.UsbKb.Safety

/-!
# `usb_kb`: string descriptors

`ConvUTF8ToStr` keeps every other byte of a string descriptor, in the place where the
descriptor is. The byte it reads is never behind the one it writes, so nothing is written
over before it is read (`convUTF8ToStr_eq`), and text of one byte a character comes out
as it was sent (`convString_text`). Its length is half of the byte that stands in the
descriptor's length field, less one: where that byte is zero or one this is 255, and the end
of the string is written behind the buffer (`convString_overruns_iff`).
-/

namespace SpaceInvaders

open Memory (Holds)

namespace Usb

variable {env : UsbEnv} {u : Usb} {utf8 : Buffer}

/-- From `u` to `v` nothing has changed but the bytes from `start` up to `stop`. -/
structure ChangedIn (u v : Usb) (start stop : Nat) : Prop where
  log : v.host.log = u.host.log
  vars : v.vars = u.vars
  ep : v.ep = u.ep
  mem : ∀ a, a < start ∨ stop ≤ a → v.host.mem a = u.host.mem a

/-- What the memory holds once the indices from `i` on, so many of them, have been
written. -/
structure Compacted (env : UsbEnv) (u : Usb) (start i togo : Nat) (v : Usb) : Prop where
  log : v.host.log = u.host.log
  vars : v.vars = u.vars
  ep : v.ep = u.ep
  mem : ∀ a, v.host.mem a
    = if start + i ≤ a ∧ a < start + i + togo then some (u.byte env (start + 2 * (a - start)))
      else u.host.mem a

theorem poke_eq {i : Nat} (hi : i < utf8.size) (val : BitVec 8) :
    ∃ v, u.poke utf8 i val = .ret v ∧ v.host.log = u.host.log ∧ v.vars = u.vars ∧
      v.ep = u.ep ∧ v.host.mem = Function.update u.host.mem (utf8.start + i) (some val) :=
  ⟨_, if_pos hi, rfl, rfl, rfl, rfl⟩

variable (env u utf8)

/-- The loop, from index `i` on. -/
theorem convLoop_eq (togo i : Nat) (h : i + togo ≤ utf8.size) :
    ∃ v, convLoop env utf8 togo i u = .ret v ∧ Compacted env u utf8.start i togo v := by
  induction togo generalizing i u with
  | zero =>
    refine ⟨u, rfl, rfl, rfl, rfl, fun a => ?_⟩
    rw [if_neg (by omega)]
  | succ togo ih =>
    obtain ⟨w, hw, hlog, hvars, hep, hmem⟩ :=
      poke_eq (u := u) (show i < utf8.size by omega) (u.byte env (utf8.start + 2 * i))
    obtain ⟨v, hv, hvlog, hvvars, hvep, hvmem⟩ := ih w (i + 1) (by omega)
    refine ⟨v, ?_, hvlog.trans hlog, hvvars.trans hvars, hvep.trans hep, fun a => ?_⟩
    · rw [convLoop, hw, Call.bind_ret]
      exact hv
    · have hcell : ∀ b, b ≠ utf8.start + i → w.host.mem b = u.host.mem b := by
        intro b hb
        rw [hmem, Function.update_of_ne hb]
      rw [hvmem]
      by_cases hfirst : a = utf8.start + i
      · rw [if_neg (by omega), if_pos (by omega), hmem, hfirst, Function.update_self,
          Nat.add_sub_cancel_left]
      · by_cases hin : utf8.start + (i + 1) ≤ a ∧ a < utf8.start + (i + 1) + togo
        · -- what is read is still as it was
          rw [if_pos hin, if_pos (by omega)]
          unfold byte
          rw [hcell _ (by omega), hlog]
        · rw [if_neg hin, if_neg (by omega), hcell a hfirst]

theorem convLoop_overruns (togo i : Nat) (hi : i ≤ utf8.size) (h : utf8.size < i + togo) :
    convLoop env utf8 togo i u = .fault .overrun := by
  induction togo generalizing i u with
  | zero => omega
  | succ togo ih =>
    rw [convLoop]
    by_cases hlast : i < utf8.size
    · obtain ⟨w, hw, -⟩ := poke_eq (u := u) hlast (u.byte env (utf8.start + 2 * i))
      rw [hw, Call.bind_ret]
      exact ih w (i + 1) hlast (by omega)
    · rw [poke, if_neg hlast]
      rfl

/-- **Every other byte is kept**, and the string is ended. -/
theorem convUTF8ToStr_eq (length : BitVec 8) (h : length.toNat < utf8.size) :
    ∃ v, u.convUTF8ToStr env utf8 length = .ret v ∧
      u.ChangedIn v utf8.start (utf8.start + length.toNat + 1) ∧
      (∀ i < length.toNat,
        v.host.mem (utf8.start + i) = some (u.byte env (utf8.start + 2 * i))) ∧
      v.host.mem (utf8.start + length.toNat) = some 0x00#8 := by
  obtain ⟨w, hw, hlog, hvars, hep, hmem⟩ := convLoop_eq env u utf8 length.toNat 0 (by omega)
  obtain ⟨v, hv, hvlog, hvvars, hvep, hvmem⟩ := poke_eq (u := w) h 0x00#8
  refine ⟨v, ?_, ⟨hvlog.trans hlog, hvvars.trans hvars, hvep.trans hep, fun a ha => ?_⟩,
    fun i hi => ?_, ?_⟩
  · unfold convUTF8ToStr
    rw [hw, Call.bind_ret]
    exact hv
  · rw [hvmem, Function.update_of_ne (by omega), hmem, if_neg (by omega)]
  · rw [hvmem, Function.update_of_ne (by omega), hmem, if_pos (by omega),
      Nat.add_sub_cancel_left]
  · rw [hvmem, Function.update_self]

theorem convUTF8ToStr_overruns (length : BitVec 8) (h : utf8.size ≤ length.toNat) :
    u.convUTF8ToStr env utf8 length = .fault .overrun := by
  unfold convUTF8ToStr
  rcases Nat.lt_or_eq_of_le h with hlt | heq
  · rw [convLoop_overruns env u utf8 length.toNat 0 (Nat.zero_le _) (by omega)]
    rfl
  · obtain ⟨w, hw, -⟩ := convLoop_eq env u utf8 length.toNat 0 (by omega)
    rw [hw, Call.bind_ret, poke, if_neg (by omega)]

/-- What stands in the length field and what the loop is handed. -/
theorem length_iff : ∀ bLength : BitVec 8,
    (254 ≤ (bLength >>> 1 - 1#8).toNat ↔ bLength.toNat < 2) ∧
      (2 ≤ bLength.toNat → (bLength >>> 1 - 1#8).toNat = bLength.toNat / 2 - 1) := by
  decide

/-- **When a string descriptor is written past**: when its length field is zero, or has no
room for the field itself. -/
theorem convString_overruns_iff :
    u.convString env = .fault .overrun ↔ (u.byte env strDesc.start).toNat < 2 := by
  rw [← (length_iff _).1]
  refine ⟨fun h => ?_, fun h => convUTF8ToStr_overruns env u _ _ h⟩
  by_contra hroom
  obtain ⟨v, hv, -⟩ := convUTF8ToStr_eq env u { start := strDesc.start + 2, size := 254 } _
    (Nat.lt_of_not_le hroom)
  rw [convString, hv] at h
  cases h

/-- **Text comes out as it was sent**, one byte a character, and nothing else changes. -/
theorem convString_text (s : List (BitVec 8)) (hs : s.length ≤ 126)
    (hlength : u.byte env strDesc.start = BitVec.ofNat 8 (2 * s.length + 2))
    (hchars : ∀ i < s.length, u.byte env (strDesc.start + 2 + 2 * i) = s.getD i 0) :
    ∃ v, u.convString env = .ret v ∧
      u.ChangedIn v (strDesc.start + 2) (strDesc.start + 2 + s.length + 1) ∧
      Holds v.host.mem (strDesc.start + 2) (s ++ [0x00#8]) := by
  have hnat : (u.byte env strDesc.start).toNat = 2 * s.length + 2 := by
    rw [hlength, BitVec.toNat_ofNat]
    omega
  have hcount : (u.byte env strDesc.start >>> 1 - 1#8).toNat = s.length := by
    rw [(length_iff _).2 (by omega), hnat]
    omega
  have hroom : (u.byte env strDesc.start >>> 1 - 1#8).toNat < 254 := by omega
  obtain ⟨v, hv, hframe, hkept, hend⟩ :=
    convUTF8ToStr_eq env u { start := strDesc.start + 2, size := 254 } _ hroom
  rw [hcount] at hframe hkept hend
  refine ⟨v, hv, hframe, fun k hk => ?_⟩
  rw [List.length_append, List.length_singleton] at hk
  by_cases hin : k < s.length
  · rw [List.getElem?_append_left hin, hkept k hin, hchars k hin, List.getD_eq_getElem?_getD,
      List.getElem?_eq_getElem hin, Option.getD_some]
  · obtain rfl : k = s.length := by omega
    rw [hend, List.getElem?_append_right (Nat.le_refl _), Nat.sub_self]
    rfl

/-- A device that calls itself `Hi`. -/
theorem convString_hi :
    ∃ v, (powerUp.assign strDesc [6, 3, 0x48, 0, 0x69, 0]).convString
        UsbMain.keyboardEnv = .ret v ∧
      (powerUp.assign strDesc [6, 3, 0x48, 0, 0x69, 0]).ChangedIn v (strDesc.start + 2)
        (strDesc.start + 2 + 2 + 1) ∧
      Holds v.host.mem (strDesc.start + 2) [0x48, 0x69, 0x00] :=
  convString_text UsbMain.keyboardEnv _ [0x48, 0x69] (by decide) (by decide)
    (by decide)

end Usb

end SpaceInvaders
