import SpaceInvaders.UsbKb.Hid

/-!
# `usb_kb`: the tasks of the stack

`USB_Task` brings a device from attachment to running, a state at a time;
`MAX3421E_Task` answers the chip's interrupts, which attach and detach devices under it.
Neither waits for the other: each is called once a turn.

Mirroring notes:
- The two pins are inputs of a turn; what the chip answers is the controller's.
- Left out is what only the outside sees: `printf`, the reset pin and `usleep`,
  `Vbus_power`, which does nothing, and the return values no caller reads.
- The loop over the device table is a search for the first free entry.
-/

namespace SpaceInvaders

/-- `USB_STATE_MASK` -/
def usbStateMask : BitVec 8 := 0xf0

/-- `USB_STATE_DETACHED` -/
def usbStateDetached : BitVec 8 := 0x00

/-- `USB_DETACHED_SUBSTATE_INITIALIZE` -/
def usbDetachedInitialize : BitVec 8 := 0x01

/-- `USB_DETACHED_SUBSTATE_WAIT_FOR_DEVICE` -/
def usbDetachedWaitForDevice : BitVec 8 := 0x03

/-- `USB_DETACHED_SUBSTATE_ILLEGAL` -/
def usbDetachedIllegal : BitVec 8 := 0x04

/-- `USB_STATE_ATTACHED` -/
def usbStateAttached : BitVec 8 := 0x10

/-- `USB_ATTACHED_SUBSTATE_SETTLE` -/
def usbAttachedSettle : BitVec 8 := 0x11

/-- `USB_ATTACHED_SUBSTATE_RESET_DEVICE` -/
def usbAttachedResetDevice : BitVec 8 := 0x12

/-- `USB_ATTACHED_SUBSTATE_WAIT_RESET_COMPLETE` -/
def usbAttachedWaitResetComplete : BitVec 8 := 0x13

/-- `USB_ATTACHED_SUBSTATE_WAIT_SOF` -/
def usbAttachedWaitSof : BitVec 8 := 0x14

/-- `USB_ATTACHED_SUBSTATE_GET_DEVICE_DESCRIPTOR_SIZE` -/
def usbAttachedGetDeviceDescriptorSize : BitVec 8 := 0x15

/-- `USB_STATE_ADDRESSING` -/
def usbStateAddressing : BitVec 8 := 0x20

/-- `USB_STATE_CONFIGURING` -/
def usbStateConfiguring : BitVec 8 := 0x30

/-- `LANG_EN_US` -/
def langEnUs : BitVec 16 := 0x0409

def bmBUSRST : BitVec 8 := 0x01

def bmSAMPLEBUS : BitVec 8 := 0x04

def bmBUSEVENTIRQ : BitVec 8 := 0x01

def bmSNDBAVIRQ : BitVec 8 := 0x08

def bmCONDETIRQ : BitVec 8 := 0x20

def bmFRAMEIRQ : BitVec 8 := 0x40

def bmSOFKAENAB : BitVec 8 := 0x08

def bmLOWSPEED : BitVec 8 := 0x02

def bmJSTATUS : BitVec 8 := 0x80

def bmKSTATUS : BitVec 8 := 0x40

def bmSE0 : BitVec 8 := 0x00

def bmSE1 : BitVec 8 := 0xc0

def bmOSCOKIRQ : BitVec 8 := 0x01

def bmCHIPRES : BitVec 8 := 0x20

/-- `MODE_FS_HOST` -/
def modeFsHost : BitVec 8 := 0xc9

/-- `MODE_LS_HOST` -/
def modeLsHost : BitVec 8 := 0xcb

/-- `CLASS_CALLBACK_TABLE`, by what `Initialize` is. -/
inductive ClientDriver where
  | msd
  | hidm
  | hidk
  | dummy

/-- `ClientDriverTable` -/
def clientDriverTable : List ClientDriver := [.msd, .hidm, .hidk, .dummy]

/-- What a turn finds at the two pins. -/
structure UsbPins where
  irq : Bool
  gpx : Bool

namespace Usb

variable (env : UsbEnv) (u : Usb)

/-- `usb_task_state = state` -/
def setState (state : BitVec 8) : Usb := { u with vars := { u.vars with usbTaskState := state } }

/-- The state is left for the error state. -/
def fail (rcode : BitVec 8) : Usb :=
  { u with
    vars := { u.vars with
      usbError := rcode, lastUsbTaskState := u.vars.usbTaskState,
      usbTaskState := usbStateError } }

/-- `USB_init` -/
def usbInit : Usb :=
  let u := { u with
    vars := { u.vars with
      devtable := fun i =>
        if i < usbNumDevices + 1 then { epinfo := .null, devclass := 0 }
        else u.vars.devtable i } }
  let u := u.setDevRecord 0#8 { epinfo := .dev0ep, devclass := 0 }
  u.setEp .dev0 { u.ep .dev0 with
    maxPktSize := 0, sndToggle := bmSNDTOG0, rcvToggle := bmRCVTOG0 }

/-! ## `USB_Task` -/

/-- `b[i] = val` -/
def poke (b : Buffer) (i : Nat) (val : BitVec 8) : Call UsbFault Usb :=
  if i < b.size then .ret (u.assign { start := b.start + i, size := 1 } [val])
  else .fault .overrun

/-- The loop of `ConvUTF8ToStr`, from index `i` on with so many bytes to go. -/
def convLoop (utf8 : Buffer) : Nat → Nat → Usb → Call UsbFault Usb
  | 0, _, u => return u
  | togo + 1, i, u => do
    let u ← u.poke utf8 i (u.byte env (utf8.start + 2 * i))
    convLoop utf8 togo (i + 1) u

/-- `ConvUTF8ToStr` -/
def convUTF8ToStr (utf8 : Buffer) (length : BitVec 8) : Call UsbFault Usb := do
  let u ← convLoop env utf8 length.toNat 0 u
  u.poke utf8 length.toNat 0x00#8

/-- `ConvUTF8ToStr(strDesc.bString, (strDesc.bLength>>1)-1)` -/
def convString : Call UsbFault Usb :=
  u.convUTF8ToStr env { start := strDesc.start + 2, size := 254 }
    (u.byte env strDesc.start >>> 1 - 1#8)

/-- A string descriptor is fetched, and made a string. -/
def readString (index : BitVec 8) : Call UsbFault Usb := do
  let u := u.declare strDesc
  let (_, u) ← u.xferGetStrDescr env 0#8 0#8 2#16 index langEnUs strDesc
  let bLength := u.byte env strDesc.start
  let (_, u) ← u.xferGetStrDescr env 0#8 0#8 (bLength.setWidth 16) index langEnUs strDesc
  u.convString env

/-- Index zero is no string. -/
def readStringIf (index : BitVec 8) : Call UsbFault Usb :=
  if index ≠ 0#8 then u.readString env index else .ret u

/-- The state `USB_ATTACHED_SUBSTATE_GET_DEVICE_DESCRIPTOR_SIZE` -/
def getDeviceDescriptor : Call UsbFault Usb := do
  let slot ← u.epinfo 0#8 0#8
  let u := u.setEp slot { u.ep slot with maxPktSize := 0x0008#16 }
  let (rcode, u) ← u.xferGetDevDescr env 0#8 0#8 8#16 devDescr
  if rcode = 0#8 then
    let slot ← u.epinfo 0#8 0#8
    let u := u.setEp slot { u.ep slot with
      maxPktSize := (u.byte env (devDescr.start + 7)).setWidth 16 }
    -- the result code of the second transfer is not looked at
    let (_, u) ← u.xferGetDevDescr env 0#8 0#8 ((u.byte env devDescr.start).setWidth 16) devDescr
    let iManufacturer := u.byte env (devDescr.start + 14)
    let u ← u.readStringIf env iManufacturer
    let iProduct := u.byte env (devDescr.start + 15)
    let u ← u.readStringIf env iProduct
    return u.setState usbStateAddressing
  else return u.fail rcode

/-- The states `USB_STATE_DETACHED` -/
def detachedTask : Usb :=
  if u.vars.usbTaskState = usbDetachedInitialize then
    u.usbInit.setState usbDetachedWaitForDevice
  else if u.vars.usbTaskState = usbDetachedWaitForDevice then
    u.maxRegWr MaxReg.rHCTL.byte bmSAMPLEBUS
  else u

/-- The states `USB_STATE_ATTACHED` -/
def attachedTask : Call UsbFault Usb :=
  if u.vars.usbTaskState = usbStateAttached then
    let (now, u) := u.millis env
    let u := { u with vars := { u.vars with usbDelay := now + 200#32 } }
    .ret (u.setState usbAttachedSettle)
  else if u.vars.usbTaskState = usbAttachedSettle then
    let (now, u) := u.millis env
    .ret (if u.vars.usbDelay < now then u.setState usbAttachedResetDevice else u)
  else if u.vars.usbTaskState = usbAttachedResetDevice then
    let u := u.maxRegWr MaxReg.rHIRQ.byte bmBUSEVENTIRQ
    let u := u.maxRegWr MaxReg.rHCTL.byte bmBUSRST
    .ret (u.setState usbAttachedWaitResetComplete)
  else if u.vars.usbTaskState = usbAttachedWaitResetComplete then
    let (hctl, u) := u.maxRegRd env MaxReg.rHCTL.byte
    if hctl &&& bmBUSRST = 0#8 then
      let (mode, u) := u.maxRegRd env MaxReg.rMODE.byte
      let u := u.maxRegWr MaxReg.rMODE.byte (mode ||| bmSOFKAENAB)
      .ret (u.setState usbAttachedWaitSof)
    else .ret u
  else if u.vars.usbTaskState = usbAttachedWaitSof then
    let (hirq, u) := u.maxRegRd env MaxReg.rHIRQ.byte
    .ret (if hirq ||| bmFRAMEIRQ ≠ 0#8 then u.setState usbAttachedGetDeviceDescriptorSize
      else u)
  else if u.vars.usbTaskState = usbAttachedGetDeviceDescriptorSize then
    u.getDeviceDescriptor env
  else .ret u

/-- The first address from 1 on whose entry has no record. -/
def freeAddr : Option (BitVec 8) :=
  ((List.range' 1 (usbNumDevices - 1)).find? fun i => (u.vars.devtable i).epinfo = .null).map
    (BitVec.ofNat 8)

/-- The device is given the address `i`. -/
def assignAddr (i : BitVec 8) : Call UsbFault Usb := do
  let r ← u.devRecord i
  let r0 ← u.devRecord 0#8
  let u := u.setDevRecord i { r with epinfo := r0.epinfo }
  let (rcode, u) ← u.xferSetAddr env 0#8 0#8 i
  if rcode = 0#8 then
    return ({ u with vars := { u.vars with tmpAddr := i } }).setState usbStateConfiguring
  else return u.fail rcode

/-- The states `USB_STATE_ADDRESSING` -/
def addressingTask : Call UsbFault Usb := do
  let u ←
    match u.freeAddr with
    | some i => u.assignAddr env i
    | none => .ret u
  return if u.vars.usbTaskState = usbStateAddressing then u.fail 0xfe#8 else u

/-- `ClientDriverTable[ i ].Initialize` -/
def initClass (i : ClientDriver) (addr : BitVec 8) : Call UsbFault (Bool × Usb) :=
  match i with
  | .msd => .ret (false, u)
  | .hidm => u.hidmProbe env addr
  | .hidk => u.hidkProbe env addr
  | .dummy => .ret (false, u)

/-- The probes, until one succeeds. -/
def probeLoop : List ClientDriver → Usb → Call UsbFault Usb
  | [], u => return u
  | i :: is, u => do
    let (found, u) ← u.initClass env i u.vars.tmpAddr
    if found then return u.setState usbStateRunning
    else probeLoop is u

/-- The states `USB_STATE_CONFIGURING` -/
def configuringTask : Call UsbFault Usb := do
  let u ← probeLoop env clientDriverTable u
  return if u.vars.usbTaskState = usbStateConfiguring then u.fail 0xfd#8 else u

/-- `USB_Task` -/
def usbTask : Call UsbFault Usb :=
  let u := u.declare devDescr
  let state := u.vars.usbTaskState &&& usbStateMask
  if state = usbStateDetached then .ret u.detachedTask
  else if state = usbStateAttached then u.attachedTask env
  else if state = usbStateAddressing then u.addressingTask env
  else if state = usbStateConfiguring then u.configuringTask env
  else .ret u

/-! ## `MAX3421E_Task` -/

/-- The host is started at one speed, or at the other where `rMODE` says so. -/
def startHost (mode mode' : BitVec 8) : Usb :=
  if u.vars.usbTaskState ≠ usbAttachedWaitResetComplete then
    let (rmode, u) := u.maxRegRd env MaxReg.rMODE.byte
    let u := u.maxRegWr MaxReg.rMODE.byte (if rmode &&& bmLOWSPEED = 0#8 then mode else mode')
    u.setState usbStateAttached
  else u

/-- `MAX_busprobe` -/
def maxBusprobe : Usb :=
  let (hrsl, u) := u.maxRegRd env MaxReg.rHRSL.byte
  let busSample := hrsl &&& (bmJSTATUS ||| bmKSTATUS)
  if busSample = bmJSTATUS then u.startHost env modeFsHost modeLsHost
  else if busSample = bmKSTATUS then u.startHost env modeLsHost modeFsHost
  else if busSample = bmSE1 then u.setState usbDetachedIllegal
  else if busSample = bmSE0 then
    if u.vars.usbTaskState &&& usbStateMask ≠ usbStateDetached then
      u.setState usbDetachedInitialize
    else (u.maxRegWr MaxReg.rMODE.byte modeFsHost).setState usbDetachedWaitForDevice
  else u

/-- `MaxIntHandler` -/
def maxIntHandler : Usb :=
  let (hirq, u) := u.maxRegRd env MaxReg.rHIRQ.byte
  let sendback : BitVec 8 := if hirq &&& bmFRAMEIRQ ≠ 0#8 then bmFRAMEIRQ else 0x00#8
  let (sendback, u) :=
    if hirq &&& bmCONDETIRQ ≠ 0#8 then (sendback ||| bmCONDETIRQ, u.maxBusprobe env)
    else (sendback, u)
  let u := if hirq &&& bmSNDBAVIRQ ≠ 0#8 then u.maxRegWr MaxReg.rSNDBC.byte 0x00#8 else u
  let (sendback, u) :=
    if hirq &&& bmBUSEVENTIRQ ≠ 0#8 then
      (sendback ||| bmBUSEVENTIRQ, u.setState (u.vars.usbTaskState + 1#8))
    else (sendback, u)
  u.maxRegWr MaxReg.rHIRQ.byte sendback

/-- `MaxGpxHandler` -/
def maxGpxHandler : Usb := (u.maxRegRd env MaxReg.rGPINIRQ.byte).2

/-- `MAX3421E_Task` -/
def max3421eTask (pins : UsbPins) : Usb :=
  let u := if pins.irq = false then u.maxIntHandler env else u
  if pins.gpx = true then u.maxGpxHandler env else u

/-- The loop of `MAX3421E_reset` -/
def awaitOscillator : Nat → Usb → Option Usb
  | 0, _ => none
  | turns + 1, u =>
    let (irq, u) := u.maxRegRd env MaxReg.rUSBIRQ.byte
    if irq &&& bmOSCOKIRQ = 0#8 then awaitOscillator turns u else some u

/-- `MAX3421E_reset` -/
def max3421eReset : Call UsbFault Usb :=
  let u := u.maxRegWr MaxReg.rUSBCTL.byte bmCHIPRES
  let u := u.maxRegWr MaxReg.rUSBCTL.byte 0x00#8
  Call.ofTurns (awaitOscillator env env.turns u)

/-- `MAX3421E_init` -/
def max3421eInit : Call UsbFault Usb := do
  let u := u.maxRegWr MaxReg.rPINCTL.byte 0x1a#8
  let u ← u.max3421eReset env
  let u := u.maxRegWr MaxReg.rGPINIEN.byte 0x80#8
  let u := u.maxRegWr MaxReg.rMODE.byte 0xd1#8
  let u := u.maxRegWr MaxReg.rHIEN.byte 0x20#8
  let u := u.maxRegWr MaxReg.rHCTL.byte bmSAMPLEBUS
  let u := u.maxBusprobe env
  let u := u.maxRegWr MaxReg.rHIRQ.byte bmCONDETIRQ
  return u.maxRegWr MaxReg.rCPUCTL.byte 0x01#8

end Usb

end SpaceInvaders
