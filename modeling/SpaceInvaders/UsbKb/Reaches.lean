import SpaceInvaders.UsbKb.System

/-!
# `usb_kb`: what a request can do

A transfer moves the log, the memory and the toggles of an endpoint record, and leaves
the variables of the stack alone. The only thing it follows is the entry of the device
it is sent to. So a request to an address whose entry leads to a record (`Reaches`)
returns with the variables as they were, unless a packet overruns the buffer
(`xferCtrlReq_sat`).
-/

namespace SpaceInvaders

open Call (Sat)
open Memory (holds_store)

/-- All that may go wrong is a store past a buffer. -/
abbrev OverrunOnly (e : UsbFault) : Prop := e = .overrun

namespace Usb

variable {env : UsbEnv} {u u' : Usb} {addr ep : BitVec 8} {slot : EpSlot}

/-- There is a record for endpoint `ep` of the device at `addr`. -/
def Reaches (u : Usb) (addr ep : BitVec 8) : Prop := ∃ slot, u.epinfo addr ep = .ret slot

/-- A call that keeps the variables. -/
abbrev Keeps (u : Usb) (x : Call UsbFault (BitVec 8 × Usb)) : Prop :=
  Sat OverrunOnly (fun r => r.2.vars = u.vars) x

/-! ## What each leaves alone -/

@[simp] theorem maxRegWr_vars (reg val : BitVec 8) : (u.maxRegWr reg val).vars = u.vars := rfl

@[simp] theorem maxRegRd_vars (reg : BitVec 8) : (u.maxRegRd env reg).2.vars = u.vars := rfl

@[simp] theorem millis_vars : (u.millis env).2.vars = u.vars := rfl

@[simp] theorem assign_vars (b : Buffer) (bytes : List (BitVec 8)) :
    (u.assign b bytes).vars = u.vars := rfl

@[simp] theorem declare_vars (b : Buffer) : (u.declare b).vars = u.vars := rfl

@[simp] theorem setEp_vars (slot : EpSlot) (e : EpInfo) : (u.setEp slot e).vars = u.vars := rfl

@[simp] theorem hidInit_vars : u.hidInit.vars = u.vars := rfl

/-! ## The device table -/

theorem epinfo_congr (h : u'.vars = u.vars) : u'.epinfo addr ep = u.epinfo addr ep := by
  unfold epinfo devRecord
  rw [h]

theorem Reaches.congr (hreach : u.Reaches addr ep) (h : u'.vars = u.vars) :
    u'.Reaches addr ep := by
  obtain ⟨slot, hslot⟩ := hreach
  exact ⟨slot, (epinfo_congr h).trans hslot⟩

theorem devRecord_eq (h : addr.toNat < 9) :
    u.devRecord addr = .ret (u.vars.devtable addr.toNat) :=
  if_pos h

/-- The control endpoint of every device that has an entry is reached. -/
theorem reaches_zero (h : addr.toNat < 9) (hrec : (u.vars.devtable addr.toNat).epinfo ≠ .null) :
    u.Reaches addr 0#8 := by
  unfold Reaches epinfo
  rw [devRecord_eq h, Call.bind_ret]
  cases hptr : (u.vars.devtable addr.toNat).epinfo with
  | null => exact absurd hptr hrec
  | dev0ep => exact ⟨.dev0, rfl⟩
  | hidEp => exact ⟨.hid0, rfl⟩

/-- The interrupt endpoint of the HID device is reached. -/
theorem reaches_one (h : addr.toNat < 9) (hrec : (u.vars.devtable addr.toNat).epinfo = .hidEp) :
    u.Reaches addr 1#8 := by
  unfold Reaches epinfo
  rw [devRecord_eq h, Call.bind_ret, hrec]
  exact ⟨.hid1, rfl⟩

/-! ## Transfers -/

theorem xferDispatchPkt_sat (token : BitVec 8) : u.Keeps (u.xferDispatchPkt env token ep) :=
  (Sat.ofTurns fun _ _ => trivial).bind fun _ (_ : True) => rfl

theorem xferInTransfer_sat (h : u.Reaches addr ep) (nbytes : BitVec 16) (data : Buffer)
    (maxpktsize : BitVec 8) :
    u.Keeps (u.xferInTransfer env addr ep nbytes data maxpktsize) := by
  obtain ⟨slot, hslot⟩ := h
  unfold xferInTransfer
  rw [hslot, Call.bind_ret]
  refine Sat.ite (fun _ => rfl) fun _ => ?_
  exact (Sat.ofTurns fun _ _ => trivial).bind fun _ (_ : True) => rfl

theorem xferCtrlData_sat (h : u.Reaches addr ep) (nbytes : BitVec 16) (data : Buffer)
    (direction : Bool) : u.Keeps (u.xferCtrlData env addr ep nbytes data direction) := by
  unfold xferCtrlData
  refine Sat.ite (fun _ => ?_) fun _ => rfl
  have hreach := h
  obtain ⟨slot, hslot⟩ := h
  rw [hslot, Call.bind_ret]
  refine Sat.bind (xferInTransfer_sat (u := u.setEp slot _) (hreach.congr rfl) ..) ?_
  rintro ⟨rcode, v⟩ hv
  refine Sat.ite (fun _ => hv) fun _ => ?_
  exact (xferDispatchPkt_sat tokOUTHS).mono fun _ hr => hr.trans hv

theorem length_bytes (p : SetupPkt) : p.bytes.length = 8 := by
  unfold SetupPkt.bytes
  rw [List.length_append, List.length_append, LittleEndian.length_encode,
    LittleEndian.length_encode]
  rfl

/-- The request goes into the FIFO as it stands in memory. -/
theorem maxBytesWr_setup (p : SetupPkt) :
    (u.assign setupPkt p.bytes).maxBytesWr MaxReg.rSUDFIFO.byte 8#8 setupPkt
      = .ret { u.assign setupPkt p.bytes with
          host := (u.assign setupPkt p.bytes).host.spiCommand (0x22#8 :: p.bytes) 0 } := by
  have hlen : p.bytes.length ≤ 255 := by
    rw [length_bytes]
    decide
  have hwrite := Host.maxBytesWr_eq hlen MaxReg.rSUDFIFO.byte
    (holds_store u.host.mem setupPkt.start p.bytes)
    (w := (u.assign setupPkt p.bytes).host)
  rw [length_bytes] at hwrite
  unfold maxBytesWr
  rw [hwrite]
  rfl

/-- **A request to a device that is reached.** -/
theorem xferCtrlReq_sat (h : u.Reaches addr ep) (p : SetupPkt) (dataptr : Option Buffer) :
    u.Keeps (u.xferCtrlReq env addr ep p dataptr) := by
  unfold xferCtrlReq
  dsimp only
  rw [maxBytesWr_setup, Call.bind_ret]
  refine Sat.bind (xferDispatchPkt_sat tokSETUP) ?_
  rintro ⟨rcode, v⟩ hv
  refine Sat.ite (fun _ => hv) fun _ => ?_
  cases dataptr with
  | none => exact (xferDispatchPkt_sat _).mono fun _ hr => hr.trans hv
  | some data => exact (xferCtrlData_sat (h.congr hv) ..).mono fun _ hr => hr.trans hv

end Usb

end SpaceInvaders
