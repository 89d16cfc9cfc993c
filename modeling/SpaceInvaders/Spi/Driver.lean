import SpaceInvaders.Spi.Core

/-!
# `alt_avalon_spi_command`

The driver, running against the core clock by clock. Between two of its accesses any
number of clocks may pass, and `MISO` may do anything.

Mirroring notes:
- An access lasts two clocks, with the address held; what a read returns is on
  `data_to_cpu` in the second. While the port is not selected its other lines carry
  anything.
- `line` is what the chip at the other end could have seen: its select line going down
  or up, and the bits at the rising edges of `SCLK` while it is selected.
- The bytes behind `write_data` are a list, those stored behind `read_data` another.
- The loops need not end, so each runs for a given number of turns; `none` is a call
  that is still inside one of them.
-/

namespace SpaceInvaders

/-- What the far end of the line notices, with the bit the core samples. -/
inductive LineEvent where
  | select
  | bit (mosi miso : Bool)
  | deselect
  deriving DecidableEq

/-- What happens on the line at an edge from `s` to `s'`. -/
def lineEvents (s s' : SpiCore) (miso : Bool) : List LineEvent :=
  (if s.SSn && !s'.SSn then [.select] else []) ++
    (if !s'.SSn && !s.SCLK && s'.SCLK then [.bit s.MOSI miso] else []) ++
    (if !s.SSn && s'.SSn then [.deselect] else [])

/-- The clocks before the `n`-th access; `MISO`, and what an idle port carries, clock by
clock. -/
structure SpiEnv where
  gap : Nat → Nat
  miso : Nat → Bool
  stray : Nat → SpiBus

/-- The core, the clocks and accesses so far, and what has been on the line. -/
structure SpiBench where
  core : SpiCore
  clock : Nat
  accesses : Nat
  line : List LineEvent

namespace SpiBench

variable (env : SpiEnv)

/-- One clock. -/
def tick (b : SpiBench) (bus : SpiBus) : SpiBench where
  core := b.core.step bus (env.miso b.clock)
  clock := b.clock + 1
  accesses := b.accesses
  line := b.line ++ lineEvents b.core (b.core.step bus (env.miso b.clock)) (env.miso b.clock)

/-- A clock in which the port is not selected. -/
def idleBus (b : SpiBench) : SpiBus := { env.stray b.clock with spiSelect := false }

/-- Clocks in which the port is not selected. -/
def idle : Nat → SpiBench → SpiBench
  | 0, b => b
  | n + 1, b => idle n (b.tick env (b.idleBus env))

/-- A clock of a read. -/
def readBus (b : SpiBench) (reg : BitVec 3) : SpiBus :=
  { env.stray b.clock with spiSelect := true, readN := false, writeN := true, memAddr := reg }

/-- A clock of a write. -/
def writeBus (reg : BitVec 3) (data : BitVec 16) : SpiBus where
  spiSelect := true
  readN := true
  writeN := false
  memAddr := reg
  dataFromCpu := data

/-- `IORD` -/
def iord (b : SpiBench) (reg : BitVec 3) : BitVec 16 × SpiBench :=
  let b := b.idle env (env.gap b.accesses)
  let b := b.tick env (b.readBus env reg)
  let readdata := b.core.dataToCpu
  let b := b.tick env (b.readBus env reg)
  (readdata, { b with accesses := b.accesses + 1 })

/-- `IOWR` -/
def iowr (b : SpiBench) (reg : BitVec 3) (data : BitVec 16) : SpiBench :=
  let b := b.idle env (env.gap b.accesses)
  let b := b.tick env (writeBus reg data)
  let b := b.tick env (writeBus reg data)
  { b with accesses := b.accesses + 1 }

end SpiBench

/-- `ALTERA_AVALON_SPI_RXDATA_REG` -/
def spiRxdataReg : BitVec 3 := 0

/-- `ALTERA_AVALON_SPI_TXDATA_REG` -/
def spiTxdataReg : BitVec 3 := 1

/-- `ALTERA_AVALON_SPI_STATUS_REG` -/
def spiStatusReg : BitVec 3 := 2

/-- `ALTERA_AVALON_SPI_CONTROL_REG` -/
def spiControlReg : BitVec 3 := 3

/-- `ALTERA_AVALON_SPI_SLAVE_SEL_REG` -/
def spiSlaveSelReg : BitVec 3 := 5

/-- `ALTERA_AVALON_SPI_STATUS_TMT_MSK` -/
def spiStatusTmtMsk : BitVec 16 := 0x20

/-- `ALTERA_AVALON_SPI_STATUS_TRDY_MSK` -/
def spiStatusTrdyMsk : BitVec 16 := 0x40

/-- `ALTERA_AVALON_SPI_STATUS_RRDY_MSK` -/
def spiStatusRrdyMsk : BitVec 16 := 0x80

/-- `ALTERA_AVALON_SPI_CONTROL_SSO_MSK` -/
def spiControlSsoMsk : BitVec 16 := 0x400

/-- `ALT_AVALON_SPI_COMMAND_MERGE` -/
def spiCommandMerge : BitVec 32 := 0x01

/-- `ALT_AVALON_SPI_COMMAND_TOGGLE_SS_N` -/
def spiCommandToggleSSn : BitVec 32 := 0x02

/-- The variables of the driver's main loop: the bytes still to be written, what has been
stored, and the counts. -/
structure SpiCommand where
  write : List (BitVec 8)
  writeZeros : Nat
  readIgnore : Nat
  read : List (BitVec 8)
  credits : Int

namespace SpiCommand

variable (env : SpiEnv)

/-- The loop that polls the status register. -/
def awaitReady (credits : Int) : Nat → SpiBench → Option (BitVec 16 × SpiBench)
  | 0, _ => none
  | polls + 1, b =>
    let (status, b) := b.iord env spiStatusReg
    if (status &&& spiStatusTrdyMsk = 0 ∨ credits = 0) ∧ status &&& spiStatusRrdyMsk = 0 then
      awaitReady credits polls b
    else some (status, b)

/-- A byte is written: one of the caller's, or a zero. -/
def send (c : SpiCommand) (b : SpiBench) : SpiCommand × SpiBench :=
  let c := { c with credits := c.credits - 1 }
  match c.write with
  | x :: write => ({ c with write := write }, b.iowr env spiTxdataReg (x.setWidth 16))
  | [] =>
    if 0 < c.writeZeros then
      ({ c with writeZeros := c.writeZeros - 1 }, b.iowr env spiTxdataReg 0)
    else ({ c with credits := -1024 }, b)

/-- A byte has been read: it is ignored, or stored. -/
def receive (c : SpiCommand) (rxdata : BitVec 16) : SpiCommand :=
  let c := if 0 < c.readIgnore then { c with readIgnore := c.readIgnore - 1 }
    else { c with read := c.read ++ [rxdata.setWidth 8] }
  { c with credits := c.credits + 1 }

/-- One turn of the main loop, and whether it is the last. -/
def turn (polls readLength : Nat) (c : SpiCommand) (b : SpiBench) :
    Option (Bool × SpiCommand × SpiBench) :=
  match awaitReady env c.credits polls b with
  | none => none
  | some (status, b) =>
    let (c, b) := if status &&& spiStatusTrdyMsk ≠ 0 ∧ 0 < c.credits then c.send env b else (c, b)
    if status &&& spiStatusRrdyMsk ≠ 0 then
      let (rxdata, b) := b.iord env spiRxdataReg
      let c := c.receive rxdata
      some (decide (c.readIgnore = 0 ∧ c.read.length = readLength), c, b)
    else some (false, c, b)

/-- The main loop. -/
def loop (polls readLength : Nat) :
    Nat → SpiCommand → SpiBench → Option (SpiCommand × SpiBench)
  | 0, _, _ => none
  | turns + 1, c, b =>
    match c.turn env polls readLength b with
    | none => none
    | some (true, c, b) => some (c, b)
    | some (false, c, b) => loop polls readLength turns c b

/-- The loop that waits for the end of transmission. -/
def awaitEmpty : Nat → SpiBench → Option SpiBench
  | 0, _ => none
  | polls + 1, b =>
    let (status, b) := b.iord env spiStatusReg
    if status &&& spiStatusTmtMsk = 0 then awaitEmpty polls b else some b

end SpiCommand

/-- `alt_avalon_spi_command`: the bytes stored behind `read_data`. -/
def altAvalonSpiCommand (env : SpiEnv) (turns slave : Nat) (write : List (BitVec 8))
    (readLength : Nat) (flags : BitVec 32) (b : SpiBench) :
    Option (List (BitVec 8) × SpiBench) :=
  let b := b.iowr env spiSlaveSelReg (1#16 <<< slave)
  let b := if flags &&& spiCommandToggleSSn = 0 then b.iowr env spiControlReg spiControlSsoMsk
    else b
  -- stale data, if there is any
  let (_, b) := b.iord env spiRxdataReg
  match SpiCommand.loop env turns readLength turns
    { write := write, writeZeros := readLength, readIgnore := write.length, read := [],
      credits := 1 } b with
  | none => none
  | some (c, b) =>
    match SpiCommand.awaitEmpty env turns b with
    | none => none
    | some b =>
      let b := if flags &&& spiCommandMerge = 0 then b.iowr env spiControlReg 0 else b
      some (c.read, b)

end SpaceInvaders
