import SpaceInvaders.Sdram.Controller

/-!
# What the chip sees of the controller

The commands on the pins, as an SDRAM chip takes them (`SdramMain.pins`), what the chip
asks for (`setup`), and the cell of the chip that belongs to an address. At each edge the
controller gives one request to the chip or none (`issuing`), and still has the others
(`pend`).
-/

namespace SpaceInvaders

abbrev SdramChip := Dram.Chip (BitVec 2) (BitVec 13)

abbrev SdramCommand := Dram.Command (BitVec 2) (BitVec 13) (BitVec 10) (BitVec 16)

abbrev SdramAccess := Dram.Access (BitVec 2 × BitVec 13 × BitVec 10) (BitVec 16)

/-- A write of `data`; a byte whose bit of `dqm` is up stays as it is. -/
def masked (dqm : BitVec 2) (data old : BitVec 16) : BitVec 16 :=
  (if dqm.getLsbD 1 then old else data).extractLsb' 8 8
    ++ (if dqm.getLsbD 0 then old else data).extractLsb' 0 8

/-- What the chip takes the pins for: `zs_cs_n`, `zs_ras_n`, `zs_cas_n` and `zs_we_n` are the
command, `zs_addr[10]` says whether a precharge is of all banks and an access to close its
row. A mode other than CAS latency 3 and single words is none that is reckoned with. -/
def SdramMain.pins (m : SdramMain) : SdramCommand :=
  match m.cmd with
  | 0x0#4 => if m.addr = 0x030#13 then .mode else .other
  | 0x1#4 => .refresh
  | 0x2#4 => if m.addr.getLsbD 10 then .precharge else .other
  | 0x3#4 => .activate m.bank m.addr
  | 0x4#4 =>
    if m.addr.getLsbD 10 || !m.oe then .other
    else .write m.bank (m.addr.extractLsb' 0 10) (masked m.dqm m.data)
  | 0x5#4 => if m.addr.getLsbD 10 then .other else .read m.bank (m.addr.extractLsb' 0 10)
  | 0x6#4 => .other
  | _ => .idle

namespace SdramMain

variable {m : SdramMain} {r : SdramRequest}

theorem pins_nop {n : Bool} (h : m.cmd = sdramCmd n 7) : m.pins = .idle := by
  cases n <;> rw [pins, h] <;> rfl

theorem pins_mode (h : m.cmd = sdramCmd false 0) (ha : m.addr = 0x030) : m.pins = .mode := by
  rw [pins, h, ha]
  rfl

theorem pins_precharge (h : m.cmd = sdramCmd false 2) (ha : m.addr = BitVec.allOnes 13) :
    m.pins = .precharge := by
  rw [pins, h, ha]
  rfl

theorem pins_refresh (h : m.cmd = sdramCmd false 1) : m.pins = .refresh := by
  rw [pins, h]
  rfl

theorem pins_activate (h : m.cmd = sdramCmd false 3) : m.pins = .activate m.bank m.addr := by
  rw [pins, h]
  rfl

theorem casAddr_ten (r : SdramRequest) : r.casAddr.getLsbD 10 = false := by
  rw [SdramRequest.casAddr, BitVec.getLsbD_append]
  rfl

theorem casAddr_low (r : SdramRequest) :
    r.casAddr.extractLsb' 0 10 = r.addr.extractLsb' 0 10 := by
  rw [SdramRequest.casAddr]
  exact BitVec.extractLsb'_append_eq_right

theorem pins_read (h : m.cmd = sdramCmd false 5) (ha : m.addr = r.casAddr) :
    m.pins = .read m.bank (r.addr.extractLsb' 0 10) := by
  rw [pins, h, ha, casAddr_ten, casAddr_low]
  rfl

theorem pins_write (h : m.cmd = sdramCmd false 4) (ha : m.addr = r.casAddr)
    (hoe : m.oe = true) :
    m.pins = .write m.bank (r.addr.extractLsb' 0 10) (masked m.dqm m.data) := by
  rw [pins, h, ha, hoe, casAddr_ten, casAddr_low]
  rfl

end SdramMain

/-! ## Requests and cells -/

/-- The active request while it is out of the queue and not yet with the chip. -/
def SdramMain.held (m : SdramMain) : List SdramRequest :=
  if m.fPop = false ∧ (m.state = .read ∨ m.state = .write ∨
      m.state = .wait ∧ (m.next = .read ∨ m.next = .write))
  then [m.active] else []

namespace SdramRequest

/-- The request on the memory the processor knows. -/
def access (r : SdramRequest) : Dram.Access (BitVec 25) (BitVec 16) :=
  if r.rnw then .read r.addr else .write r.addr (masked r.dqm r.data)

/-- Where an address is in the chip: bank, row and column. -/
def cell (a : BitVec 25) : BitVec 2 × BitVec 13 × BitVec 10 :=
  (BitVec.ofBool (a.getLsbD 24) ++ BitVec.ofBool (a.getLsbD 10), a.extractLsb' 11 13,
    a.extractLsb' 0 10)

/-- No two addresses share a cell. -/
theorem cell_injective : Function.Injective cell := by
  intro a b h
  obtain ⟨hbank, hrow, hcol⟩ : _ ∧ _ ∧ _ :=
    ⟨congrArg Prod.fst h, congrArg (·.2.1) h, congrArg (·.2.2) h⟩
  simp only [cell] at hbank hrow hcol
  refine BitVec.eq_of_getLsbD_eq fun i hi => ?_
  by_cases h10 : i < 10
  · have hbit := congrArg (·.getLsbD i) hcol
    simpa [h10] using hbit
  · by_cases h10' : i = 10
    · subst h10'
      have hbit := congrArg (·.getLsbD 0) hbank
      simp only [BitVec.getLsbD_append, BitVec.getLsbD_ofBool] at hbit
      exact hbit
    · by_cases h24 : i < 24
      · have hbit := congrArg (·.getLsbD (i - 11)) hrow
        have hlt : i - 11 < 13 := by omega
        have hadd : 11 + (i - 11) = i := by omega
        simpa [hlt, hadd] using hbit
      · obtain rfl : i = 24 := by omega
        have hbit := congrArg (·.getLsbD 1) hbank
        simp only [BitVec.getLsbD_append, BitVec.getLsbD_ofBool] at hbit
        exact hbit

/-- The request as the chip gets it. -/
def chipAccess (r : SdramRequest) : SdramAccess := r.access.map cell

/-- A read masks nothing. -/
def Clear (r : SdramRequest) : Prop := r.rnw = true → r.dqm = 0

theorem clear_request (bus : SdramBus) : bus.request.Clear := fun h => if_pos h

end SdramRequest

namespace Sdram

/-- What the chip asks for, in clocks: one of rest after an activation and a precharge,
three after a refresh, four after its mode is set, two between a write and a precharge;
two refreshes before the mode; and three from a read to its answer. `system.h` names times
that come to no more of these. -/
def setup : Dram.Setup where
  activate := 1
  precharge := 1
  refresh := 3
  mode := 4
  recovery := 2
  refreshes := 2
  latency := 3

def pins (s : Sdram) : SdramCommand := s.main.pins

/-- The state that serves a request. -/
def accessState (r : SdramRequest) : SdramState := if r.rnw then .read else .write

theorem accessState_cases (r : SdramRequest) : accessState r = .read ∨ accessState r = .write := by
  rw [accessState]
  cases r.rnw
  · exact Or.inr rfl
  · exact Or.inl rfl

/-- The request that goes to the chip with this edge. -/
def issuing (s : Sdram) : Option SdramRequest :=
  if s.main.state = .read ∨ s.main.state = .write then
    if s.fSelect then some s.front else if s.main.fPop then none else some s.main.active
  else none

/-- The requests taken and not yet with the chip, in order. -/
def pend (s : Sdram) : List SdramRequest := s.main.held ++ s.fifo.queue

/-- What the bus puts in with this edge. -/
def taking (s : Sdram) (bus : SdramBus) : List SdramRequest :=
  if s.accepts bus then [bus.request] else []

end Sdram

end SpaceInvaders
