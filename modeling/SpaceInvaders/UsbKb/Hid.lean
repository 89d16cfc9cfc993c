import SpaceInvaders.Bytes.Records
import SpaceInvaders.UsbKb.Control

/-!
# `usb_kb`: HID devices

`HIDMProbe` and `HIDKProbe` fetch the configuration of a device, look for its first
interface descriptor and, if that is a boot mouse or a boot keyboard, for the next
endpoint descriptor. The two differ in the class they file the device under and in the
protocol they look for. `kbdPoll` and `mousePoll` fetch a report.

Mirroring notes:
- Both loops over the descriptors are `Records.seek`: `bLength` is the byte in front, and
  what is looked for is told by `bDescriptorType` behind it.
- `data_ptr` is where `byte_ptr` is, throughout.
- `wTotalLength` is at an even address, since `bigbuf` begins at one; `wMaxPacketSize` is
  where the device has put its descriptor.
-/

namespace SpaceInvaders

/-- `CONF_DESCR_LEN` -/
def confDescrLen : BitVec 16 := 9

/-- `USB_DESCRIPTOR_INTERFACE` -/
def usbDescriptorInterface : BitVec 8 := 0x04

/-- `USB_DESCRIPTOR_ENDPOINT` -/
def usbDescriptorEndpoint : BitVec 8 := 0x05

/-- `HID_INTF` -/
def hidIntf : BitVec 8 := 0x03

/-- `BOOT_INTF_SUBCLASS` -/
def bootIntfSubclass : BitVec 8 := 0x01

/-- `HID_PROTOCOL_KEYBOARD` -/
def hidProtocolKeyboard : BitVec 8 := 0x01

/-- `HID_PROTOCOL_MOUSE` -/
def hidProtocolMouse : BitVec 8 := 0x02

/-- `HID_K` -/
def hidK : BitVec 8 := 1

/-- `HID_M` -/
def hidM : BitVec 8 := 2

/-- `BOOT_PROTOCOL` -/
def bootProtocol : BitVec 8 := 0x00

/-- `USB_INTERFACE_DESCRIPTOR`, the fields that are looked at. -/
structure InterfaceDescr where
  bInterfaceNumber : BitVec 8
  bInterfaceClass : BitVec 8
  bInterfaceSubClass : BitVec 8
  bInterfaceProtocol : BitVec 8

/-- `USB_ENDPOINT_DESCRIPTOR`, the fields that are copied. -/
structure EndpointDescr where
  bEndpointAddress : BitVec 8
  bmAttributes : BitVec 8
  wMaxPacketSize : BitVec 16
  bInterval : BitVec 8

namespace Usb

variable (env : UsbEnv) (u : Usb)

/-- `HID_init` -/
def hidInit : Usb :=
  u.setEp .hid1 { u.ep .hid1 with sndToggle := bmSNDTOG0, rcvToggle := bmRCVTOG0 }

/-- The loop from byte `p` of `bigbuf` to a descriptor of type `kind`. -/
def seekDescriptor (kind : BitVec 8) (totalLength : BitVec 16) (p : Nat) :
    Option (Option Nat) :=
  Records.seek (fun p => (u.byte env p).toNat) (fun p => u.byte env (p + 1) = kind)
    (bigbuf.start + totalLength.toNat) env.turns p

/-- The length that is fetched: the one the device says, at most the buffer's. -/
def totalLength : BitVec 16 :=
  let wTotalLength := u.word env (bigbuf.start + 2)
  if 256#16 < wTotalLength then 256#16 else wTotalLength

/-- `data_ptr->descr.interface`, with `data_ptr` at `p` -/
def interfaceDescr (p : Nat) : InterfaceDescr :=
  { bInterfaceNumber := u.byte env (p + 2), bInterfaceClass := u.byte env (p + 5)
    bInterfaceSubClass := u.byte env (p + 6), bInterfaceProtocol := u.byte env (p + 7) }

/-- `data_ptr->descr.endpoint`, with `data_ptr` at `p` -/
def endpointDescr (p : Nat) : EndpointDescr :=
  { bEndpointAddress := u.byte env (p + 2), bmAttributes := u.byte env (p + 3)
    wMaxPacketSize := u.word env (p + 4), bInterval := u.byte env (p + 6) }

/-- The endpoint descriptor is copied, and the device told its configuration and its
protocol. -/
def configureEndpoint (addr confvalue : BitVec 8) (d : EndpointDescr) :
    Call UsbFault (Bool × Usb) := do
  let slot ← u.epinfo addr 1#8
  let u := u.setEp slot { u.ep slot with
    epAddr := d.bEndpointAddress, attr := d.bmAttributes,
    maxPktSize := d.wMaxPacketSize, interval := d.bInterval }
  let (rcode, u) ← u.xferSetConf env addr 0#8 confvalue
  if rcode ≠ 0#8 then return (false, u)
  else
    let (rcode, u) ← u.xferSetProto env addr 0#8 u.vars.hidInterface bootProtocol
    return (rcode = 0#8, u)

/-- The device is made the HID device. -/
def claimInterface (devclass addr : BitVec 8) (d : InterfaceDescr) : Call UsbFault Usb := do
  let r ← u.devRecord addr
  let u := u.setDevRecord addr { r with devclass := devclass }
  let slot ← u.epinfo addr 0#8
  let tmpbyte : BitVec 8 := (u.ep slot).maxPktSize.setWidth 8
  let u := u.hidInit
  let u := u.setDevRecord addr { epinfo := .hidEp, devclass := devclass }
  let slot ← u.epinfo addr 0#8
  let u := u.setEp slot { u.ep slot with maxPktSize := tmpbyte.setWidth 16 }
  return { u with
    vars := { u.vars with hidInterface := d.bInterfaceNumber, hidAddr := addr } }

/-- The configuration in `bigbuf` is looked through. -/
def parseConf (devclass protocol addr confvalue : BitVec 8) (totalLength : BitVec 16) :
    Call UsbFault (Bool × Usb) := do
  match ← Call.ofTurns (u.seekDescriptor env usbDescriptorInterface totalLength
    bigbuf.start) with
  | none => return (false, u)
  | some p =>
    let d := u.interfaceDescr env p
    if d.bInterfaceClass = hidIntf ∧ d.bInterfaceSubClass = bootIntfSubclass ∧
        d.bInterfaceProtocol = protocol then
      let u ← u.claimInterface devclass addr d
      match ← Call.ofTurns (u.seekDescriptor env usbDescriptorEndpoint totalLength
        (p + (u.byte env p).toNat)) with
      | none => return (false, u)
      | some q => u.configureEndpoint env addr confvalue (u.endpointDescr env q)
    else return (false, u)

/-- What `HIDMProbe` and `HIDKProbe` share. -/
def hidProbe (devclass protocol addr : BitVec 8) : Call UsbFault (Bool × Usb) := do
  let (rcode, u) ← u.xferGetConfDescr env addr 0#8 confDescrLen 0#8 bigbuf
  if rcode ≠ 0#8 then return (false, u)
  else
    let totalLength := u.totalLength env
    let (rcode, u) ← u.xferGetConfDescr env addr 0#8 totalLength 0#8 bigbuf
    if rcode ≠ 0#8 then return (false, u)
    else
      let confvalue := u.byte env (bigbuf.start + 5)
      u.parseConf env devclass protocol addr confvalue totalLength

/-- `HIDMProbe` -/
def hidmProbe (addr : BitVec 8) : Call UsbFault (Bool × Usb) :=
  u.hidProbe env hidM hidProtocolMouse addr

/-- `HIDKProbe` -/
def hidkProbe (addr : BitVec 8) : Call UsbFault (Bool × Usb) :=
  u.hidProbe env hidK hidProtocolKeyboard addr

/-- What `kbdPoll` and `mousePoll` share. -/
def poll (buf : Buffer) : Call UsbFault (BitVec 8 × Usb) := do
  let addr := u.vars.hidAddr
  let u := u.maxRegWr MaxReg.rPERADDR.byte addr
  let slot ← u.epinfo addr 1#8
  u.xferInTransfer env addr 1#8 8#16 buf ((u.ep slot).maxPktSize.setWidth 8)

/-- `kbdPoll` -/
def kbdPoll : Call UsbFault (BitVec 8 × Usb) := u.poll env kbdbuf

/-- `mousePoll` -/
def mousePoll : Call UsbFault (BitVec 8 × Usb) := u.poll env mousebuf

end Usb

end SpaceInvaders
