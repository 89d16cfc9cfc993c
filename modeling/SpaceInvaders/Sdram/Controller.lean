import SpaceInvaders.Dram.Chip
import SpaceInvaders.Sdram.Efifo

/-!
# `lab8_soc_sdram`

The controller between the processor's bus and the SDRAM chip, one step for each edge of
its clock (50 MHz): a queue of requests, a counter that calls for a refresh every 782
clocks, the FSM that wakes the chip, and the main FSM, whose registers are the chip's pins.

Mirroring notes:
- One field for each register under the module's names; `active_rnw`, `active_addr`,
  `active_dqm` and `active_data` are always loaded together and are one `active`.
- Each state of the two FSMs is a constructor. The one-hot codes and the `default`
  branches, which no reset controller gets to, are left out.
- What a reset does not touch (`active_*`, `i_refs`, the entries of the queue) stays.
- `az_cs` is not looked at, `zs_cke` is always high.
-/

namespace SpaceInvaders

/-- The word in the queue, `{rnw, addr, dqm, data}`. -/
structure SdramRequest where
  rnw : Bool
  addr : BitVec 25
  dqm : BitVec 2
  data : BitVec 16

namespace SdramRequest

/-- `{addr[24], addr[10]}` -/
def bank (r : SdramRequest) : BitVec 2 :=
  BitVec.ofBool (r.addr.getLsbD 24) ++ BitVec.ofBool (r.addr.getLsbD 10)

/-- `addr[23 : 11]` -/
def row (r : SdramRequest) : BitVec 13 := r.addr.extractLsb' 11 13

/-- `{{3{1'b0}}, addr[9 : 0]}` -/
def casAddr (r : SdramRequest) : BitVec 13 := 0#3 ++ r.addr.extractLsb' 0 10

end SdramRequest

/-- The bus in one clock, and what the chip puts on `zs_dq`. -/
structure SdramBus where
  azAddr : BitVec 25
  azBeN : BitVec 2
  azData : BitVec 16
  azRdN : Bool
  azWrN : Bool
  zsDq : BitVec 16

/-- `{az_wr_n, az_addr, az_wr_n ? 2'b0 : az_be_n, az_data}` -/
def SdramBus.request (bus : SdramBus) : SdramRequest :=
  ⟨bus.azWrN, bus.azAddr, if bus.azWrN then 0 else bus.azBeN, bus.azData⟩

/-- `{csn, code}` -/
def sdramCmd (csN : Bool) (code : BitVec 3) : BitVec 4 := BitVec.ofBool csN ++ code

/-! ## Waking the chip -/

/-- `3'b000`, `3'b001`, `3'b010`, `3'b011`, `3'b101` and `3'b111`. -/
inductive SdramInitState where
  | countdown | precharge | refresh | wait | done | mode
deriving DecidableEq

/-- The registers of the FSM that wakes the chip. -/
structure SdramInit where
  state : SdramInitState
  next : SdramInitState
  cmd : BitVec 4
  addr : BitVec 13
  count : BitVec 3
  refs : BitVec 3
deriving DecidableEq

/-- One edge; `zero` is `refresh_counter == 0`. -/
def SdramInit.step (i : SdramInit) (zero : Bool) : SdramInit :=
  let i' : SdramInit := { i with addr := BitVec.allOnes 13 }
  match i.state with
  | .countdown =>
    { i' with cmd := 0xF, refs := 0, state := if zero then .precharge else .countdown }
  | .precharge =>
    { i' with state := .wait, cmd := sdramCmd false 2, count := 0, next := .refresh }
  | .refresh =>
    { i' with
      cmd := sdramCmd false 1
      refs := i.refs + 1
      state := .wait
      count := 3
      next := if i.refs = 1 then .mode else .refresh }
  | .wait =>
    if i.count > 1 then { i' with cmd := sdramCmd false 7, count := i.count - 1 }
    else { i' with cmd := sdramCmd false 7, state := i.next }
  | .done => { i' with state := .done }
  | .mode =>
    { i' with
      state := .wait
      cmd := sdramCmd false 0
      addr := 0#3 ++ 0#1 ++ 0#2 ++ 3#3 ++ 0#4
      count := 4
      next := .done }

/-! ## The registers -/

/-- `9'b000000001`, `9'b000000010`, and so on in this order. -/
inductive SdramState where
  | idle | activate | wait | read | write | recover | precharge | refresh | hold
deriving DecidableEq

/-- The registers of the main FSM. -/
structure SdramMain where
  state : SdramState
  next : SdramState
  cmd : BitVec 4
  bank : BitVec 2
  addr : BitVec 13
  data : BitVec 16
  dqm : BitVec 2
  count : BitVec 3
  ackRefreshRequest : Bool
  fPop : Bool
  oe : Bool
  activeCsN : Bool
  active : SdramRequest

/-- The registers of `lab8_soc_sdram`. -/
structure Sdram where
  fifo : InputEfifo SdramRequest
  refreshCounter : BitVec 14
  refreshRequest : Bool
  zaCannotrefresh : Bool
  initDone : Bool
  init : SdramInit
  main : SdramMain
  rdValid : BitVec 3
  zaData : BitVec 16
  zaValid : Bool

namespace Sdram

/-- What `reset_n` leaves. -/
def reset (s : Sdram) : Sdram where
  fifo := s.fifo.reset
  refreshCounter := 10000
  refreshRequest := false
  zaCannotrefresh := false
  initDone := false
  init :=
    { s.init with
      state := .countdown, next := .countdown, cmd := 0xF, addr := BitVec.allOnes 13, count := 0 }
  main :=
    { s.main with
      state := .idle
      next := .idle
      cmd := 0xF
      bank := 0
      addr := 0
      data := 0
      dqm := 0
      count := 0
      ackRefreshRequest := false
      fPop := false
      oe := false }
  rdValid := 0
  zaData := 0
  zaValid := false

/-! ## Wires -/

def zaWaitrequest (s : Sdram) : Bool := s.fifo.full

/-- The write strobe of the queue. -/
def accepts (s : Sdram) (bus : SdramBus) : Bool :=
  (!bus.azWrN || !bus.azRdN) && !s.zaWaitrequest

/-- `{f_rnw, f_addr, f_dqm, f_data}` -/
def front (s : Sdram) : SdramRequest := s.fifo.rdData

def fEmpty (s : Sdram) : Bool := s.fifo.empty

/-- `csn_match && rnw_match && bank_match && row_match`; `f_cs_n` is low. -/
def matching (s : Sdram) : Bool :=
  s.main.activeCsN == false && s.main.active.rnw == s.front.rnw
    && s.main.active.bank == s.front.bank && s.main.active.row == s.front.row

def pending (s : Sdram) : Bool := s.matching && !s.fEmpty

def fSelect (s : Sdram) : Bool := s.main.fPop && s.pending

def csN (s : Sdram) : Bool := if s.fSelect then false else s.main.activeCsN

/-- The request whose column is put out. -/
def chosen (s : Sdram) : SdramRequest := if s.fSelect then s.front else s.main.active

def rdStrobe (s : Sdram) : Bool := s.main.cmd.extractLsb' 0 3 == 5

/-- `zs_dq`, with what the chip puts there. -/
def zsDq (s : Sdram) (bus : SdramBus) : BitVec 16 := if s.main.oe then s.main.data else bus.zsDq

/-! ## The main FSM -/

/-- The request at the front becomes the active one. -/
def take (s : Sdram) (m : SdramMain) : SdramMain :=
  { m with fPop := true, activeCsN := false, active := s.front }

/-- What every edge starts from. -/
def base (s : Sdram) : SdramMain := { s.main with fPop := false, oe := false }

def mainIdle (s : Sdram) : SdramMain :=
  if s.initDone then
    let m : SdramMain := { s.base with
      cmd := if s.refreshRequest then sdramCmd false 7 else 0xF, ackRefreshRequest := false }
    if s.refreshRequest then
      { m with state := .precharge, next := .refresh, count := 0, activeCsN := true }
    else if !s.fEmpty then { s.take m with state := .activate }
    else m
  else { s.base with addr := s.init.addr, state := .idle, next := .idle, cmd := s.init.cmd }

def mainActivate (s : Sdram) : SdramMain :=
  { s.base with
    state := .wait
    cmd := sdramCmd s.csN 3
    bank := s.main.active.bank
    addr := s.main.active.row
    data := s.main.active.data
    dqm := s.main.active.dqm
    count := 1
    next := if s.main.active.rnw then .read else .write }

def mainWait (s : Sdram) : SdramMain :=
  let m : SdramMain := { s.base with
    cmd := if s.main.next = .refresh then sdramCmd false 7 else sdramCmd s.csN 7 }
  if s.main.count > 1 then { m with count := s.main.count - 1 }
  else { m with state := s.main.next }

def mainRead (s : Sdram) : SdramMain :=
  let m : SdramMain := { s.base with
    cmd := sdramCmd s.csN 5
    bank := s.chosen.bank
    dqm := s.chosen.dqm
    addr := s.chosen.casAddr }
  if s.pending then
    if s.refreshRequest then { m with state := .wait, next := .idle, count := 2 }
    else s.take m
  else { m with cmd := if s.main.fPop then sdramCmd s.csN 7 else m.cmd, state := .hold }

def mainWrite (s : Sdram) : SdramMain :=
  let m : SdramMain := { s.base with
    cmd := sdramCmd s.csN 4
    oe := true
    data := s.chosen.data
    dqm := s.chosen.dqm
    bank := s.chosen.bank
    addr := s.chosen.casAddr }
  if s.pending then
    if s.refreshRequest then { m with state := .wait, next := .idle, count := 1 }
    else s.take m
  else
    { m with
      cmd := if s.main.fPop then sdramCmd s.csN 7 else m.cmd
      oe := !s.main.fPop
      state := .hold }

def mainRecover (s : Sdram) : SdramMain :=
  let m : SdramMain := { s.base with cmd := sdramCmd s.csN 7 }
  if s.main.count > 1 then { m with count := s.main.count - 1 }
  else { m with state := .precharge, count := 0 }

def mainPrecharge (s : Sdram) : SdramMain :=
  { s.base with
    state := .wait
    addr := BitVec.allOnes 13
    cmd := if s.refreshRequest then sdramCmd false 2 else sdramCmd s.csN 2 }

def mainRefresh (s : Sdram) : SdramMain :=
  { s.base with
    ackRefreshRequest := true
    state := .wait
    cmd := sdramCmd false 1
    count := 3
    next := .idle }

def mainHold (s : Sdram) : SdramMain :=
  let m : SdramMain := { s.base with cmd := sdramCmd s.csN 7 }
  if s.refreshRequest then { m with state := .wait, next := .idle, count := 1 }
  else if !s.fEmpty then
    if s.matching then
      { s.take m with state := if s.front.rnw then .read else .write }
    else { m with state := .recover, next := .idle, count := 1 }
  else m

def mainStep (s : Sdram) : SdramMain :=
  match s.main.state with
  | .idle => s.mainIdle
  | .activate => s.mainActivate
  | .wait => s.mainWait
  | .read => s.mainRead
  | .write => s.mainWrite
  | .recover => s.mainRecover
  | .precharge => s.mainPrecharge
  | .refresh => s.mainRefresh
  | .hold => s.mainHold

/-- One edge of `clk`. -/
def step (s : Sdram) (bus : SdramBus) : Sdram where
  fifo := s.fifo.step s.fSelect (s.accepts bus) bus.request
  refreshCounter := if s.refreshCounter = 0 then 781 else s.refreshCounter - 1
  refreshRequest :=
    (s.refreshCounter == 0 || s.refreshRequest) && !s.main.ackRefreshRequest && s.initDone
  zaCannotrefresh := s.refreshCounter == 0 && s.refreshRequest
  initDone := s.initDone || s.init.state == .done
  init := s.init.step (s.refreshCounter == 0)
  main := s.mainStep
  rdValid := s.rdValid <<< 1 ||| (0#2 ++ BitVec.ofBool s.rdStrobe)
  zaData := s.zsDq bus
  zaValid := s.rdValid.getLsbD 2

end Sdram

end SpaceInvaders
