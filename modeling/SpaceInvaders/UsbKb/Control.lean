import SpaceInvaders.Calls.Call
import SpaceInvaders.Bytes.LittleEndian
import SpaceInvaders.UsbKb.Transfer

/-!
# `usb_kb`: control transfers

`XferCtrlReq` sends the eight bytes of a request, then runs the data stage if it was
handed a buffer, and the status stage. The device table says where the endpoint records
are that a transfer reads and updates.

Mirroring notes:
- `epinfo` points to no record, to the one record `dev0ep`, or to the two of `hid_ep`.
  What follows a null pointer, or goes past a table, is a fault.
- Each object in memory has a place of its own, away from the others. A transfer does
  not look where its buffer ends; one that stores past the end is a fault.
- A byte that has never been stored is read as whatever is there: the environment says. It
  also says what the processor makes of a half-word at an odd address. A read has a value
  wherever it is made: what is checked of a buffer are the stores.
- Of the variables of the stack those that a transfer leaves alone are kept together.
- `ClientDriverTable` and `ctrl_xfers` are tables of functions: an index is a name.
-/

namespace SpaceInvaders

open Memory (Cells blank store)

def tokSETUP : BitVec 8 := 0x10

def tokINHS : BitVec 8 := 0x80

def tokOUTHS : BitVec 8 := 0xa0

def bmSNDTOG0 : BitVec 8 := 0x40

/-! ## The variables -/

/-- `EP_RECORD`, with the fields no transfer reads. -/
structure EpInfo extends EpRecord where
  epAddr : BitVec 8
  attr : BitVec 8
  interval : BitVec 8
  sndToggle : BitVec 8

/-- The endpoint records there are: `dev0ep`, `hid_ep[0]` and `hid_ep[1]`. -/
inductive EpSlot where
  | dev0
  | hid0
  | hid1
  deriving DecidableEq

/-- What `epinfo` can be: `NULL`, `&dev0ep` or `hid_ep`. -/
inductive EpPtr where
  | null
  | dev0ep
  | hidEp
  deriving DecidableEq

/-- What goes wrong: a null pointer is followed, an index is past its table, a store is
past its buffer. -/
inductive UsbFault where
  | null
  | range
  | overrun
  deriving DecidableEq

/-- `DEV_RECORD` -/
structure DevRecord where
  epinfo : EpPtr
  devclass : BitVec 8
  deriving DecidableEq

/-- An object in memory. -/
structure Buffer where
  start : Nat
  size : Nat

/-- `BYTE bigbuf[256]` -/
def bigbuf : Buffer := { start := 0, size := 256 }

/-- `setup_pkt`, of `XferCtrlReq` -/
def setupPkt : Buffer := { start := 0x1000, size := 8 }

/-- `buf`, of `USB_Task` -/
def devDescr : Buffer := { start := 0x2000, size := 18 }

/-- `strDesc`, of `USB_Task` -/
def strDesc : Buffer := { start := 0x3000, size := 256 }

/-- `tmpbyte`, of `GetDriverandReport` -/
def tmpbyte : Buffer := { start := 0x4000, size := 1 }

/-- `kbdbuf`, of `main` -/
def kbdbuf : Buffer := { start := 0x5000, size := 8 }

/-- `buf`, of `main` -/
def mousebuf : Buffer := { start := 0x6000, size := 8 }

/-- The variables that no transfer touches. -/
structure UsbVars where
  usbTaskState : BitVec 8
  usbError : BitVec 8
  lastUsbTaskState : BitVec 8
  usbDelay : BitVec 32
  tmpAddr : BitVec 8
  devtable : Nat → DevRecord
  hidAddr : BitVec 8
  hidInterface : BitVec 8

/-- The USB stack, with the log of what it has done. -/
structure Usb where
  host : Host
  ep : EpSlot → EpInfo
  vars : UsbVars

/-- What the stack meets: the controller, how many turns a waiting loop is given, and
what a byte that has never been stored, and a half-word at an odd address, is read as. -/
structure UsbEnv where
  ctl : Controller
  turns : Nat
  junk : List BusEvent → Nat → BitVec 8
  oddWord : List BusEvent → Nat → BitVec 16

/-- `USB_NUMDEVICES` -/
def usbNumDevices : Nat := 8

/-- `&epinfo[ ep ]` -/
def EpPtr.at : EpPtr → BitVec 8 → Call UsbFault EpSlot
  | null, _ => .fault .null
  | dev0ep, ep => if ep = 0#8 then .ret .dev0 else .fault .range
  | hidEp, ep =>
    if ep = 0#8 then .ret .hid0 else if ep = 1#8 then .ret .hid1 else .fault .range

namespace Usb

variable (env : UsbEnv) (u : Usb)

/-! ## Registers, the clock and memory -/

/-- `MAXreg_wr` -/
def maxRegWr (reg val : BitVec 8) : Usb := { u with host := u.host.maxRegWr reg val }

/-- `MAXreg_rd` -/
def maxRegRd (reg : BitVec 8) : BitVec 8 × Usb :=
  let (val, w) := u.host.maxRegRd env.ctl reg
  (val, { u with host := w })

/-- `(alt_nticks()*1000)/alt_ticks_per_second()` -/
def millis : BitVec 32 × Usb :=
  let (now, w) := u.host.millis env.ctl
  (now, { u with host := w })

/-- The byte at `a`, whatever object it belongs to. -/
def byte (a : Nat) : BitVec 8 := (u.host.mem a).getD (env.junk u.host.log a)

/-- The `WORD` at `a`. -/
def word (a : Nat) : BitVec 16 :=
  if a % 2 = 0 then u.byte env (a + 1) ++ u.byte env a else env.oddWord u.host.log a

/-- An assignment to an object. -/
def assign (b : Buffer) (bytes : List (BitVec 8)) : Usb :=
  { u with host := { u.host with mem := store u.host.mem b.start bytes } }

/-- A local object comes into being, with nothing stored. -/
def declare (b : Buffer) : Usb :=
  { u with
    host :=
      { u.host with
        mem := fun a => if b.start ≤ a ∧ a < b.start + b.size then none else u.host.mem a } }

/-! ## The device table -/

/-- `devtable[ addr ]` -/
def devRecord (addr : BitVec 8) : Call UsbFault DevRecord :=
  if addr.toNat < usbNumDevices + 1 then .ret (u.vars.devtable addr.toNat) else .fault .range

/-- `devtable[ addr ] = r` -/
def setDevRecord (addr : BitVec 8) (r : DevRecord) : Usb :=
  { u with
    vars := { u.vars with devtable := Function.update u.vars.devtable addr.toNat r } }

/-- `&devtable[ addr ].epinfo[ ep ]` -/
def epinfo (addr ep : BitVec 8) : Call UsbFault EpSlot := do
  let r ← u.devRecord addr
  r.epinfo.at ep

/-- An assignment to an endpoint record. -/
def setEp (slot : EpSlot) (e : EpInfo) : Usb :=
  { u with ep := Function.update u.ep slot e }

/-! ## Transfers -/

/-- `XferDispatchPkt` -/
def xferDispatchPkt (token ep : BitVec 8) : Call UsbFault (BitVec 8 × Usb) := do
  let (rcode, w) ← Call.ofTurns (u.host.xferDispatchPkt env.ctl env.turns token ep)
  return (rcode, { u with host := w })

/-- `XferInTransfer` -/
def xferInTransfer (addr ep : BitVec 8) (nbytes : BitVec 16) (data : Buffer)
    (maxpktsize : BitVec 8) : Call UsbFault (BitVec 8 × Usb) := do
  let slot ← u.epinfo addr ep
  let s := u.host.xferInTransfer env.ctl env.turns (u.ep slot).toEpRecord ep nbytes data.start
    maxpktsize env.turns
  if data.start + data.size < s.data then .fault .overrun
  else
    let rcode ← Call.ofTurns s.rcode
    return (rcode, ({ u with host := s.host }).setEp slot
      { u.ep slot with toEpRecord := s.epinfo })

/-- `XferCtrlData` -/
def xferCtrlData (addr ep : BitVec 8) (nbytes : BitVec 16) (dataptr : Buffer)
    (direction : Bool) : Call UsbFault (BitVec 8 × Usb) :=
  if direction then do
    let slot ← u.epinfo addr ep
    let u := u.setEp slot { u.ep slot with rcvToggle := bmRCVTOG1 }
    let (rcode, u) ← u.xferInTransfer env addr ep nbytes dataptr
      ((u.ep slot).maxPktSize.setWidth 8)
    if rcode ≠ 0#8 then return (rcode, u)
    else u.xferDispatchPkt env tokOUTHS ep
  else return (0xff#8, u)

/-- `XferCtrlND` -/
def xferCtrlND (ep : BitVec 8) (direction : Bool) : Call UsbFault (BitVec 8 × Usb) :=
  u.xferDispatchPkt env (if direction then tokOUTHS else tokINHS) ep

/-- `SETUP_PKT` -/
structure SetupPkt where
  bmRequestType : BitVec 8
  bRequest : BitVec 8
  wValueLo : BitVec 8
  wValueHi : BitVec 8
  wIndex : BitVec 16
  wLength : BitVec 16

/-- The bytes of a request. -/
def SetupPkt.bytes (p : SetupPkt) : List (BitVec 8) :=
  [p.bmRequestType, p.bRequest, p.wValueLo, p.wValueHi]
    ++ LittleEndian.encode 2 p.wIndex.toNat ++ LittleEndian.encode 2 p.wLength.toNat

/-- `MAXbytes_wr` -/
def maxBytesWr (reg nbytes : BitVec 8) (data : Buffer) : Call UsbFault Usb := do
  let (_, w) ← Call.ofAccess .range (u.host.maxBytesWr reg nbytes data.start)
  return { u with host := w }

/-- `XferCtrlReq` -/
def xferCtrlReq (addr ep : BitVec 8) (p : SetupPkt) (dataptr : Option Buffer) :
    Call UsbFault (BitVec 8 × Usb) := do
  let u := u.maxRegWr MaxReg.rPERADDR.byte addr
  let direction := p.bmRequestType &&& 0x80#8 ≠ 0#8
  let u := u.assign setupPkt p.bytes
  let u ← u.maxBytesWr MaxReg.rSUDFIFO.byte 8#8 setupPkt
  let (rcode, u) ← u.xferDispatchPkt env tokSETUP ep
  if rcode ≠ 0#8 then return (rcode, u)
  else
    match dataptr with
    | none => u.xferCtrlND env ep direction
    | some data => u.xferCtrlData env addr ep p.wLength data direction

/-! ## Requests -/

/-- `XferSetAddr` -/
def xferSetAddr (oldaddr ep newaddr : BitVec 8) : Call UsbFault (BitVec 8 × Usb) :=
  u.xferCtrlReq env oldaddr ep ⟨0x00, 5, newaddr, 0x00, 0x0000, 0x0000⟩ none

/-- `XferSetConf` -/
def xferSetConf (addr ep confValue : BitVec 8) : Call UsbFault (BitVec 8 × Usb) :=
  u.xferCtrlReq env addr ep ⟨0x00, 9, confValue, 0x00, 0x0000, 0x0000⟩ none

/-- `XferGetDevDescr` -/
def xferGetDevDescr (addr ep : BitVec 8) (nbytes : BitVec 16) (dataptr : Buffer) :
    Call UsbFault (BitVec 8 × Usb) :=
  u.xferCtrlReq env addr ep ⟨0x80, 6, 0x00, 0x01, 0x0000, nbytes⟩ (some dataptr)

/-- `XferGetConfDescr` -/
def xferGetConfDescr (addr ep : BitVec 8) (nbytes : BitVec 16) (conf : BitVec 8)
    (dataptr : Buffer) : Call UsbFault (BitVec 8 × Usb) :=
  u.xferCtrlReq env addr ep ⟨0x80, 6, conf, 0x02, 0x0000, nbytes⟩ (some dataptr)

/-- `XferGetStrDescr` -/
def xferGetStrDescr (addr ep : BitVec 8) (nbytes : BitVec 16) (index : BitVec 8)
    (langid : BitVec 16) (dataptr : Buffer) : Call UsbFault (BitVec 8 × Usb) :=
  u.xferCtrlReq env addr ep ⟨0x80, 6, index, 0x03, langid, nbytes⟩ (some dataptr)

/-- `XferSetProto` -/
def xferSetProto (addr ep interface protocol : BitVec 8) : Call UsbFault (BitVec 8 × Usb) :=
  u.xferCtrlReq env addr ep ⟨0x21, 0x0b, protocol, 0x00, interface.setWidth 16, 0x0000⟩ none

/-- `XferGetProto` -/
def xferGetProto (addr ep interface : BitVec 8) (dataptr : Buffer) :
    Call UsbFault (BitVec 8 × Usb) :=
  u.xferCtrlReq env addr ep ⟨0xa1, 0x03, 0x00, 0x00, interface.setWidth 16, 0x0001⟩
    (some dataptr)

/-- `XferGetIdle` -/
def xferGetIdle (addr ep interface reportID : BitVec 8) (dataptr : Buffer) :
    Call UsbFault (BitVec 8 × Usb) :=
  u.xferCtrlReq env addr ep ⟨0xa1, 0x02, reportID, 0, interface.setWidth 16, 0x0001⟩
    (some dataptr)

end Usb

end SpaceInvaders
