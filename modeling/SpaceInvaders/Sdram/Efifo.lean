import Mathlib.Data.BitVec

/-!
# `lab8_soc_sdram_input_efifo_module`

The two places in front of the memory controller in which requests wait. `queue` is what
waits, the next one first; what the two address bits and the count do to it is `queue_step`.

Mirroring notes:
- The word is any type; the controller's is the 44 bits `{rnw, addr, dqm, data}`.
- The memory of the two entries is not reset.
- `almost_empty` and `almost_full` go nowhere.
-/

namespace SpaceInvaders

/-- The registers of the queue. -/
structure InputEfifo (α : Type) where
  entries : BitVec 2
  rdAddress : Bool
  wrAddress : Bool
  entry0 : α
  entry1 : α

namespace InputEfifo

variable {α : Type}

def full (f : InputEfifo α) : Bool := f.entries == 2

def empty (f : InputEfifo α) : Bool := f.entries == 0

def rdData (f : InputEfifo α) : α := if f.rdAddress then f.entry1 else f.entry0

/-- What `reset_n` leaves. -/
def reset (f : InputEfifo α) : InputEfifo α :=
  { f with entries := 0, rdAddress := false, wrAddress := false }

/-- The count and the addresses. -/
def advance (f : InputEfifo α) (rd wr : Bool) : InputEfifo α :=
  match rd, wr with
  | false, true =>
    if !f.full then { f with entries := f.entries + 1, wrAddress := !f.wrAddress } else f
  | true, false =>
    if !f.empty then { f with entries := f.entries - 1, rdAddress := !f.rdAddress } else f
  | true, true => { f with wrAddress := !f.wrAddress, rdAddress := !f.rdAddress }
  | false, false => f

/-- One edge of `clk`. -/
def step (f : InputEfifo α) (rd wr : Bool) (wrData : α) : InputEfifo α :=
  { f.advance rd wr with
    entry0 := if wr && !f.full && !f.wrAddress then wrData else f.entry0
    entry1 := if wr && !f.full && f.wrAddress then wrData else f.entry1 }

/-- What waits, the next one first. -/
def queue (f : InputEfifo α) : List α :=
  if f.entries = 0 then []
  else if f.entries = 1 then [f.rdData]
  else [f.rdData, if f.rdAddress then f.entry0 else f.entry1]

/-- The write address is as far ahead of the read address as there are entries. -/
structure Kept (f : InputEfifo α) : Prop where
  le : f.entries ≤ 2
  ahead : f.wrAddress = (f.rdAddress ^^ f.entries == 1)

variable {f : InputEfifo α}

theorem kept_reset (f : InputEfifo α) : f.reset.Kept := ⟨by simp [reset], rfl⟩

@[simp] theorem queue_reset (f : InputEfifo α) : f.reset.queue = [] := rfl

theorem Kept.cases (h : f.Kept) : f.entries = 0 ∨ f.entries = 1 ∨ f.entries = 2 := by
  have hle := h.le
  bv_omega

theorem length_queue (f : InputEfifo α) : f.queue.length ≤ 2 := by
  unfold queue
  split_ifs <;> simp

theorem queue_of_empty (h : f.empty = true) : f.queue = [] := if_pos (eq_of_beq h)

theorem queue_of_not_empty (h : f.empty = false) : ∃ l, f.queue = f.rdData :: l := by
  have hne : f.entries ≠ 0 := fun h0 => by simp [empty, h0] at h
  unfold queue
  rw [if_neg hne]
  by_cases h1 : f.entries = 1
  · exact ⟨[], if_pos h1⟩
  · exact ⟨_, if_neg h1⟩

theorem kept_iff : f.Kept ↔ f.entries ≤ 2 ∧ f.wrAddress = (f.rdAddress ^^ f.entries == 1) :=
  ⟨fun h => ⟨h.le, h.ahead⟩, fun h => ⟨h.1, h.2⟩⟩

/-- Where it is only read when it holds something and only written when it has room, the
queue loses its first and gets a last. -/
theorem queue_step {rd wr : Bool} (hf : f.Kept) (hrd : rd = true → f.empty = false)
    (hwr : wr = true → f.full = false) (x : α) :
    f.queue ++ (if wr then [x] else [])
      = (if rd then [f.rdData] else []) ++ (f.step rd wr x).queue := by
  obtain ⟨entries, rdAddress, wrAddress, entry0, entry1⟩ := f
  obtain rfl : wrAddress = (rdAddress ^^ entries == 1) := hf.ahead
  obtain h | h | h : entries = 0 ∨ entries = 1 ∨ entries = 2 := hf.cases
  all_goals
    subst h
    cases rd <;> cases wr <;> cases rdAddress <;>
      simp_all [queue, step, advance, full, empty, rdData]

theorem kept_step {rd wr : Bool} (hf : f.Kept) (hrd : rd = true → f.empty = false)
    (hwr : wr = true → f.full = false) (x : α) : (f.step rd wr x).Kept := by
  obtain ⟨entries, rdAddress, wrAddress, entry0, entry1⟩ := f
  obtain rfl : wrAddress = (rdAddress ^^ entries == 1) := hf.ahead
  obtain h | h | h : entries = 0 ∨ entries = 1 ∨ entries = 2 := hf.cases
  all_goals
    subst h
    cases rd <;> cases wr <;> cases rdAddress <;>
      simp_all [step, advance, full, empty, kept_iff]

end InputEfifo

end SpaceInvaders
