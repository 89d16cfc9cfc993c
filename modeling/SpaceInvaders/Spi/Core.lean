import Mathlib.Data.BitVec

/-!
# `lab8_soc_spi_0`

The SPI master between the processor and the MAX3421E, one step for each edge of its
clock. An access of the processor lasts two clocks: the read or write strobe is a
register, set by the first and effective in the second.

Mirroring notes:
- One field for each register, one definition for each wire, under the module's own
  names; `SSO_reg` and the interrupt enables keep theirs.
- Of two assignments to a register in one block the later one wins.
- `reset_n` is the state the module starts in.
- `dataavailable`, `readyfordata` and `endofpacket` only repeat registers.
-/

namespace SpaceInvaders

/-- The processor's side of the port in one clock. -/
structure SpiBus where
  spiSelect : Bool
  readN : Bool
  writeN : Bool
  memAddr : BitVec 3
  dataFromCpu : BitVec 16

/-- The registers of `lab8_soc_spi_0`. -/
structure SpiCore where
  rdStrobe : Bool
  dataRdStrobe : Bool
  wrStrobe : Bool
  dataWrStrobe : Bool
  iEOP : Bool
  iE : Bool
  iRRDY : Bool
  iTRDY : Bool
  iTMT : Bool
  iTOE : Bool
  iROE : Bool
  SSO : Bool
  irq : Bool
  slaveSelect : BitVec 16
  slaveSelectHolding : BitVec 16
  slowcount : BitVec 4
  endofpacketvalue : BitVec 16
  dataToCpu : BitVec 16
  state : BitVec 5
  stateZero : Bool
  shift : BitVec 8
  rxHolding : BitVec 8
  EOP : Bool
  RRDY : Bool
  ROE : Bool
  TOE : Bool
  txHolding : BitVec 8
  txHoldingPrimed : Bool
  transmitting : Bool
  SCLK : Bool
  MISOreg : Bool

namespace SpiCore

/-- What `reset_n` leaves. -/
def reset : SpiCore where
  rdStrobe := false
  dataRdStrobe := false
  wrStrobe := false
  dataWrStrobe := false
  iEOP := false
  iE := false
  iRRDY := false
  iTRDY := false
  iTMT := false
  iTOE := false
  iROE := false
  SSO := false
  irq := false
  slaveSelect := 1
  slaveSelectHolding := 1
  slowcount := 0
  endofpacketvalue := 0
  dataToCpu := 0
  state := 0
  stateZero := true
  shift := 0
  rxHolding := 0
  EOP := false
  RRDY := false
  ROE := false
  TOE := false
  txHolding := 0
  txHoldingPrimed := false
  transmitting := false
  SCLK := false
  MISOreg := false

/-! ## Wires -/

section Wires

variable (s : SpiCore) (bus : SpiBus)

def p1RdStrobe : Bool := !s.rdStrobe && bus.spiSelect && !bus.readN

def p1DataRdStrobe : Bool := s.p1RdStrobe bus && bus.memAddr == 0

def p1WrStrobe : Bool := !s.wrStrobe && bus.spiSelect && !bus.writeN

def p1DataWrStrobe : Bool := s.p1WrStrobe bus && bus.memAddr == 1

def controlWrStrobe : Bool := s.wrStrobe && bus.memAddr == 3

def statusWrStrobe : Bool := s.wrStrobe && bus.memAddr == 2

def slaveselectWrStrobe : Bool := s.wrStrobe && bus.memAddr == 5

def endofpacketvalueWrStrobe : Bool := s.wrStrobe && bus.memAddr == 6

def TMT : Bool := !s.transmitting && !s.txHoldingPrimed

def E : Bool := s.ROE || s.TOE

def TRDY : Bool := !(s.transmitting && s.txHoldingPrimed)

def spiStatus : BitVec 11 :=
  (BitVec.ofBool s.EOP ++ BitVec.ofBool s.E ++ BitVec.ofBool s.RRDY ++ BitVec.ofBool s.TRDY ++
    BitVec.ofBool s.TMT ++ BitVec.ofBool s.TOE ++ BitVec.ofBool s.ROE ++ 0#3).setWidth 11

def spiControl : BitVec 11 :=
  BitVec.ofBool s.SSO ++ BitVec.ofBool s.iEOP ++ BitVec.ofBool s.iE ++ BitVec.ofBool s.iRRDY ++
    BitVec.ofBool s.iTRDY ++ 0#1 ++ BitVec.ofBool s.iTOE ++ BitVec.ofBool s.iROE ++ 0#3

def slowclock : Bool := s.slowcount == 9

def p1Slowcount : BitVec 4 := if s.transmitting && !s.slowclock then s.slowcount + 1 else 0

def p1DataToCpu : BitVec 16 :=
  if bus.memAddr = 2 then s.spiStatus.setWidth 16
  else if bus.memAddr = 3 then s.spiControl.setWidth 16
  else if bus.memAddr = 6 then s.endofpacketvalue
  else if bus.memAddr = 5 then s.slaveSelect
  else s.rxHolding.setWidth 16

def enableSS : Bool := s.transmitting && !s.stateZero

def MOSI : Bool := s.shift.getLsbD 7

def SSn : Bool := if s.enableSS || s.SSO then !s.slaveSelect.getLsbD 0 else true

def writeTxHolding : Bool := s.dataWrStrobe && s.TRDY

def writeShiftReg : Bool := s.txHoldingPrimed && !s.transmitting

/-- The last of the 18 states ends. -/
def lastTick : Bool := s.slowclock && s.state == 17

/-- A packet's end goes by, either way. -/
def endofpacketSeen : Bool :=
  s.p1DataRdStrobe bus && s.rxHolding.setWidth 16 == s.endofpacketvalue ||
    s.p1DataWrStrobe bus && (bus.dataFromCpu.setWidth 8).setWidth 16 == s.endofpacketvalue

def irqNext : Bool :=
  s.EOP && s.iEOP || (s.TOE || s.ROE) && s.iE || s.RRDY && s.iRRDY || s.TRDY && s.iTRDY ||
    s.TOE && s.iTOE || s.ROE && s.iROE

end Wires

/-! ## The edge -/

section Edge

variable (s : SpiCore) (bus : SpiBus) (miso : Bool)

def slaveSelectNext : BitVec 16 :=
  if s.writeShiftReg || s.controlWrStrobe bus && bus.dataFromCpu.getLsbD 10 && !s.SSO then
    s.slaveSelectHolding
  else s.slaveSelect

def stateNext : BitVec 5 :=
  if s.transmitting && s.slowclock then (if s.state = 17 then 0 else s.state + 1)
  else s.state

def shiftNext : BitVec 8 :=
  if s.slowclock && s.SCLK then s.shift.shiftConcat s.MISOreg
  else if s.writeShiftReg then s.txHolding
  else s.shift

def RRDYNext : Bool :=
  if s.lastTick then true
  else if s.statusWrStrobe bus then false
  else if s.dataRdStrobe then false
  else s.RRDY

def ROENext : Bool :=
  if s.lastTick && s.RRDY then true else if s.statusWrStrobe bus then false else s.ROE

def TOENext : Bool :=
  if s.statusWrStrobe bus then false else if s.dataWrStrobe && !s.TRDY then true else s.TOE

def EOPNext : Bool :=
  if s.statusWrStrobe bus then false else if s.endofpacketSeen bus then true else s.EOP

def txHoldingPrimedNext : Bool :=
  if s.writeShiftReg && !s.writeTxHolding then false
  else if s.writeTxHolding then true
  else s.txHoldingPrimed

def transmittingNext : Bool :=
  if s.lastTick then false else if s.writeShiftReg then true else s.transmitting

def SCLKNext : Bool :=
  if s.slowclock then
    if s.state = 17 then false
    else if s.state ≠ 0 then (if s.transmitting then !s.SCLK else s.SCLK)
    else s.SCLK
  else s.SCLK

/-- One edge of `clk`. -/
def step : SpiCore where
  rdStrobe := s.p1RdStrobe bus
  dataRdStrobe := s.p1DataRdStrobe bus
  wrStrobe := s.p1WrStrobe bus
  dataWrStrobe := s.p1DataWrStrobe bus
  iEOP := if s.controlWrStrobe bus then bus.dataFromCpu.getLsbD 9 else s.iEOP
  iE := if s.controlWrStrobe bus then bus.dataFromCpu.getLsbD 8 else s.iE
  iRRDY := if s.controlWrStrobe bus then bus.dataFromCpu.getLsbD 7 else s.iRRDY
  iTRDY := if s.controlWrStrobe bus then bus.dataFromCpu.getLsbD 6 else s.iTRDY
  iTMT := if s.controlWrStrobe bus then bus.dataFromCpu.getLsbD 5 else s.iTMT
  iTOE := if s.controlWrStrobe bus then bus.dataFromCpu.getLsbD 4 else s.iTOE
  iROE := if s.controlWrStrobe bus then bus.dataFromCpu.getLsbD 3 else s.iROE
  SSO := if s.controlWrStrobe bus then bus.dataFromCpu.getLsbD 10 else s.SSO
  irq := s.irqNext
  slaveSelect := s.slaveSelectNext bus
  slaveSelectHolding := if s.slaveselectWrStrobe bus then bus.dataFromCpu else s.slaveSelectHolding
  slowcount := s.p1Slowcount
  endofpacketvalue :=
    if s.endofpacketvalueWrStrobe bus then bus.dataFromCpu else s.endofpacketvalue
  dataToCpu := s.p1DataToCpu bus
  state := s.stateNext
  stateZero := if s.transmitting && s.slowclock then s.state == 17 else s.stateZero
  shift := s.shiftNext
  rxHolding := if s.lastTick then s.shift else s.rxHolding
  EOP := s.EOPNext bus
  RRDY := s.RRDYNext bus
  ROE := s.ROENext bus
  TOE := s.TOENext bus
  txHolding := if s.writeTxHolding then bus.dataFromCpu.setWidth 8 else s.txHolding
  txHoldingPrimed := s.txHoldingPrimedNext
  transmitting := s.transmittingNext
  SCLK := s.SCLKNext
  MISOreg := if s.slowclock && !s.SCLK then miso else s.MISOreg

end Edge

end SpiCore

end SpaceInvaders
