import SpaceInvaders.UsbKb.MainLoop
import SpaceInvaders.UsbKb.Task

/-!
# `usb_kb`: the program

`main` starts the chip and the stack, and then each turn runs both tasks, asks the stack
for what its state calls for, and moves the ports. The last is `MainState.iterate`, whose
input is here what the stack has answered: the state after `USB_Task`, the class that
`GetDriverandReport` finds, and the result and the buffer of a poll.
-/

namespace SpaceInvaders

namespace Usb

variable (env : UsbEnv) (u : Usb)

/-- The variables before `main` begins. -/
def powerUp : Usb :=
  let e : EpInfo :=
    { maxPktSize := 0, rcvToggle := 0, epAddr := 0, attr := 0, interval := 0, sndToggle := 0 }
  { host := { log := [], mem := fun a => if a < bigbuf.size then some 0#8 else none }
    ep := fun _ => e
    vars :=
      { usbTaskState := usbDetachedInitialize, usbError := 0, lastUsbTaskState := 0,
        usbDelay := 0, tmpAddr := 0, devtable := fun _ => { epinfo := .null, devclass := 0 },
        hidAddr := 0, hidInterface := 0 } }

/-- The loop of `GetDriverandReport`; `devclasses` has four elements. -/
def driverLoop : List Nat → BitVec 8 → Call UsbFault (BitVec 8)
  | [], device => return device
  | i :: is, device =>
    let r := u.vars.devtable i
    if r.epinfo ≠ .null then
      if r.devclass.toNat < 4 then driverLoop is r.devclass else .fault .range
    else driverLoop is device

/-- `GetDriverandReport` -/
def getDriverandReport : Call UsbFault (BitVec 8 × Usb) := do
  let device ← u.driverLoop (List.range' 1 (usbNumDevices - 1)) 0xff#8
  let (_, u) ← u.xferGetIdle env 1#8 0#8 u.vars.hidInterface 0#8 tmpbyte
  let (_, u) ← u.xferGetProto env 1#8 0#8 u.vars.hidInterface tmpbyte
  return (device, u)

/-- What the turn has learnt, with the two buffers as they are. -/
def learnt (taskState driver rcode : BitVec 8) : LoopIn :=
  { taskState := taskState, driver := driver, rcode := rcode
    kbdbuf :=
      { keycode := Vector.ofFn fun k => u.byte env (kbdbuf.start + 2 + k.val) }
    buf :=
      { button := u.byte env mousebuf.start, xdispl := u.byte env (mousebuf.start + 1)
        ydispl := u.byte env (mousebuf.start + 2) } }

/-- What the turn asks the stack, and what it learns. -/
def ask (s : MainState) : Call UsbFault (LoopIn × Usb) :=
  let state := u.vars.usbTaskState
  if state = usbStateRunning then
    if !s.runningdebugflag then do
      let (device, u) ← u.getDriverandReport env
      return (u.learnt env state device 0#8, u)
    else if s.device = 1#8 then do
      let (rcode, u) ← u.kbdPoll env
      return (u.learnt env state 0#8 rcode, u)
    else if s.device = 2#8 then do
      let (rcode, u) ← u.mousePoll env
      return (u.learnt env state 0#8 rcode, u)
    else return (u.learnt env state 0#8 0#8, u)
  else if state = usbStateError then return (u.learnt env state 0#8 0#8, u)
  else if s.runningdebugflag then do
    let u ← u.max3421eInit env
    let u := u.usbInit
    return (u.learnt env state 0#8 0#8, u)
  else return (u.learnt env state 0#8 0#8, u)

end Usb

/-- The program between two turns. -/
structure UsbMain where
  usb : Usb
  main : MainState

namespace UsbMain

variable (env : UsbEnv)

/-- `main`, up to its loop. -/
def boot (device : BitVec 8) : Call UsbFault UsbMain := do
  let u ← Usb.powerUp.max3421eInit env
  return { usb := u.usbInit, main := .powerUp device }

/-- A turn of the loop. -/
def turn (m : UsbMain) (pins : UsbPins) : Call UsbFault UsbMain := do
  let u := m.usb.max3421eTask env pins
  let u ← u.usbTask env
  let (i, u) ← u.ask env m.main
  return { usb := u, main := m.main.iterate i }

/-- `main`, up to its turn `n`. -/
def run (device : BitVec 8) (pins : Nat → UsbPins) (n : Nat) : Call UsbFault UsbMain := do
  let m ← boot env device
  Call.run (turn env) pins n m

end UsbMain

end SpaceInvaders
