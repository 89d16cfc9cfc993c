import Mathlib.Data.List.Find
import SpaceInvaders.UsbKb.Enumeration

/-!
# `usb_kb`: what `USB_Task` does to the table

A probe either leaves the variables as they were or makes the device the HID device
(`hidProbe_sat`), and it does either of a device that has an entry. From this and from
what an address assignment does, `USB_Task` keeps the table in order whatever state it
finds (`usbTask_sat`).
-/

namespace SpaceInvaders

open Call (Sat)

namespace Usb

variable {env : UsbEnv} {u : Usb} {addr devclass protocol : BitVec 8}

/-! ## The probes -/

theorem epinfo_setDevRecord (hlt : addr.toNat < 9) (r : DevRecord) (ep : BitVec 8) :
    (u.setDevRecord addr r).epinfo addr ep = r.epinfo.at ep := by
  unfold epinfo
  rw [devRecord_eq hlt, Call.bind_ret]
  have hentry : (u.setDevRecord addr r).vars.devtable addr.toNat = r :=
    Function.update_self ..
  rw [hentry]

variable (devclass) in
theorem claimInterface_eq (hlt : addr.toNat < 9)
    (hrec : (u.vars.devtable addr.toNat).epinfo ≠ .null) (d : InterfaceDescr) :
    ∃ v, u.claimInterface devclass addr d = .ret v ∧
      v.vars = u.vars.claim devclass addr d.bInterfaceNumber ∧ v.host = u.host := by
  obtain ⟨slot, hslot⟩ := reaches_zero hlt hrec
  unfold epinfo at hslot
  rw [devRecord_eq hlt, Call.bind_ret] at hslot
  unfold claimInterface
  rw [devRecord_eq hlt, Call.bind_ret]
  simp only [epinfo_setDevRecord hlt]
  rw [hslot, Call.bind_ret]
  rw [show EpPtr.hidEp.at 0#8 = .ret .hid0 from rfl, Call.bind_ret]
  refine ⟨_, rfl, ?_, rfl⟩
  simp only [UsbVars.claim, setDevRecord, setEp, hidInit, Function.update_idem]

theorem configureEndpoint_sat (hlt : addr.toNat < 9)
    (hrec : (u.vars.devtable addr.toNat).epinfo = .hidEp) (confvalue : BitVec 8)
    (d : EndpointDescr) :
    Sat OverrunOnly (fun r => r.2.vars = u.vars) (u.configureEndpoint env addr confvalue d) := by
  have hzero : u.Reaches addr 0#8 := by
    refine reaches_zero hlt ?_
    rw [hrec]
    nofun
  obtain ⟨slot, hslot⟩ := reaches_one hlt hrec
  unfold configureEndpoint
  rw [hslot, Call.bind_ret]
  refine Sat.bind (xferCtrlReq_sat (u := u.setEp slot _) (hzero.congr rfl) ..) ?_
  rintro ⟨rcode, v⟩ hv
  refine Sat.ite (fun _ => hv) fun _ => ?_
  refine Sat.bind (xferCtrlReq_sat (hzero.congr hv) ..) ?_
  rintro ⟨rcode', v'⟩ hv'
  exact hv'.trans hv

/-- The variables are as they were, or the device is the HID device. -/
def Probed (v : UsbVars) (devclass addr : BitVec 8) (v' : UsbVars) : Prop :=
  v' = v ∨ ∃ interface, v' = v.claim devclass addr interface

variable (env u devclass protocol) in
theorem parseConf_sat (hlt : addr.toNat < 9)
    (hrec : (u.vars.devtable addr.toNat).epinfo ≠ .null) (confvalue : BitVec 8)
    (totalLength : BitVec 16) :
    Sat OverrunOnly (fun r => Probed u.vars devclass addr r.2.vars)
      (u.parseConf env devclass protocol addr confvalue totalLength) := by
  unfold parseConf
  refine Sat.bind (Sat.ofTurns fun _ _ => trivial) ?_
  rintro (_ | p) (_ : True)
  · exact .inl rfl
  refine Sat.ite (fun _ => ?_) fun _ => .inl rfl
  obtain ⟨v, hclaim, hv, -⟩ := claimInterface_eq devclass hlt hrec
    (u.interfaceDescr env p)
  rw [hclaim, Call.bind_ret]
  refine Sat.bind (Sat.ofTurns fun _ _ => trivial) ?_
  rintro (_ | q) (_ : True)
  · exact .inr ⟨_, hv⟩
  have hclaimed : (v.vars.devtable addr.toNat).epinfo = .hidEp := by
    rw [hv]
    show (Function.update u.vars.devtable addr.toNat _ addr.toNat).epinfo = _
    rw [Function.update_self]
  exact (configureEndpoint_sat hlt hclaimed confvalue _).mono fun r hr =>
    .inr ⟨_, hr.trans hv⟩

/-- **What a probe does** to a device that has an entry. -/
theorem hidProbe_sat (hlt : addr.toNat < 9)
    (hrec : (u.vars.devtable addr.toNat).epinfo ≠ .null) :
    Sat OverrunOnly (fun r => Probed u.vars devclass addr r.2.vars)
      (u.hidProbe env devclass protocol addr) := by
  have hreach : u.Reaches addr 0#8 := reaches_zero hlt hrec
  unfold hidProbe
  refine Sat.bind (xferCtrlReq_sat hreach ..) ?_
  rintro ⟨rcode, v⟩ (hv : v.vars = u.vars)
  refine Sat.ite (fun _ => .inl hv) fun _ => ?_
  refine Sat.bind (xferCtrlReq_sat (hreach.congr hv) ..) ?_
  rintro ⟨rcode', v'⟩ (hv' : v'.vars = v.vars)
  refine Sat.ite (fun _ => .inl (hv'.trans hv)) fun _ => ?_
  have hparse := parseConf_sat env v' devclass protocol hlt
  rw [hv'.trans hv] at hparse
  exact hparse hrec _ _

/-! ## Configuring -/

theorem fail_enumerated {k : Nat} (h : u.vars.Table k) (rcode : BitVec 8) :
    (u.fail rcode).vars.Enumerated k 0 :=
  (h.congr rfl rfl rfl : (u.fail rcode).vars.Table k).enumerated (.inr rfl)

theorem initClass_sat (hlt : addr.toNat < 9)
    (hrec : (u.vars.devtable addr.toNat).epinfo ≠ .null) (i : ClientDriver) :
    Sat OverrunOnly
      (fun r => ∃ devclass : BitVec 8, devclass.toNat ≤ 2 ∧ Probed u.vars devclass addr r.2.vars)
      (u.initClass env i addr) := by
  cases i with
  | msd => exact ⟨0, by decide, .inl rfl⟩
  | hidm => exact (hidProbe_sat hlt hrec).mono fun _ h => ⟨hidM, by decide, h⟩
  | hidk => exact (hidProbe_sat hlt hrec).mono fun _ h => ⟨hidK, by decide, h⟩
  | dummy => exact ⟨0, by decide, .inl rfl⟩

/-- The state is one of those in which a device is configured or running. -/
def Configuring (u : Usb) : Prop :=
  0x30 ≤ u.vars.usbTaskState.toNat ∧ u.vars.usbTaskState.toNat ≤ 0x41

variable {k : Nat}

theorem Configuring.ne_error (h : u.Configuring) : u.vars.usbTaskState ≠ usbStateError := by
  intro herror
  have hhigh := h.2
  rw [herror] at hhigh
  exact absurd hhigh (by decide)

/-- The device that was addressed last has an entry. -/
theorem Configuring.tmpAddr_entry (h : u.Configuring) (henum : u.vars.Enumerated k 1) :
    u.vars.tmpAddr.toNat < 9 ∧ (u.vars.devtable u.vars.tmpAddr.toNat).epinfo ≠ .null := by
  obtain ⟨-, htmp⟩ := henum.configured h.1 h.ne_error
  have hle := henum.le
  have hlt : u.vars.tmpAddr.toNat < 9 := by omega
  exact ⟨hlt, (henum.filled _ hlt).mpr htmp⟩

theorem probeLoop_sat (is : List ClientDriver) (h : u.Configuring)
    (henum : u.vars.Enumerated k 1) :
    Sat OverrunOnly
      (fun v => v.Configuring ∧ v.vars.Enumerated k 1 ∧
        (v.vars.usbTaskState = u.vars.usbTaskState ∨ v.vars.usbTaskState = usbStateRunning))
      (probeLoop env is u) := by
  induction is generalizing u with
  | nil => exact ⟨h, henum, .inl rfl⟩
  | cons i is ih =>
    obtain ⟨hlt, hrec⟩ := h.tmpAddr_entry henum
    refine Sat.bind (initClass_sat hlt hrec i) ?_
    rintro ⟨found, v⟩ ⟨devclass, hclass, hv⟩
    have hstate : v.vars.usbTaskState = u.vars.usbTaskState := by
      rcases hv with hv | ⟨interface, hv⟩ <;> rw [hv]
      rfl
    have hconf : v.Configuring := by
      unfold Configuring
      rwa [hstate]
    have hkept : v.vars.Enumerated k 1 := by
      rcases hv with hv | ⟨interface, hv⟩
      · rwa [hv]
      · rw [hv]
        exact henum.claim h.1 h.ne_error hclass interface
    refine Sat.ite (fun _ => ?_) fun _ => ?_
    · have hrunning : 0x30 ≤ usbStateRunning.toNat ∧ usbStateRunning.toNat ≤ 0x41 := by decide
      refine ⟨hrunning, ⟨hkept.toTable.congr rfl rfl rfl, fun _ hhigh => ?_, fun _ _ => ?_⟩,
        .inr rfl⟩
      · exact absurd hhigh (Nat.not_lt_of_le hrunning.1)
      · exact hkept.configured hconf.1 hconf.ne_error
    · rw [← hstate]
      exact ih hconf hkept

/-- What `USB_Task` makes of `v`: a table in order, and a state from which the interrupt
handler may go on. In the running state and in error it does nothing. -/
structure Tasked (v v' : UsbVars) : Prop where
  enumerated : ∃ k, v'.Enumerated k 0
  state : v'.usbTaskState.toNat ≤ 0x40 ∨ v'.usbTaskState = usbStateError ∨
    v'.usbTaskState = v.usbTaskState
  early : v.usbTaskState.toNat < 0x12 → v'.usbTaskState.toNat < 0x13
  late : 0x40 ≤ v.usbTaskState.toNat → v' = v

theorem configuringTask_sat (h : u.Configuring) (hlt : u.vars.usbTaskState.toNat < 0x40)
    (henum : u.vars.Enumerated k 1) :
    Sat OverrunOnly (fun v => Tasked u.vars v.vars) (u.configuringTask env) := by
  have hlow := h.1
  have hearly : ¬ u.vars.usbTaskState.toNat < 0x12 := by omega
  have hlate : ¬ 0x40 ≤ u.vars.usbTaskState.toNat := by omega
  unfold configuringTask
  refine Sat.bind (probeLoop_sat clientDriverTable h henum) ?_
  rintro v ⟨hconf, hkept, hstate⟩
  rw [Call.pure_eq, Call.sat_ret]
  split_ifs
  · exact ⟨⟨k, fail_enumerated hkept.toTable _⟩, .inr (.inl rfl), (absurd · hearly),
      (absurd · hlate)⟩
  · refine ⟨⟨k, hkept.toTable, fun _ hhigh => ?_, hkept.configured⟩, ?_, (absurd · hearly),
      (absurd · hlate)⟩
    · exact absurd hhigh (Nat.not_lt_of_le hconf.1)
    · rcases hstate with hstate | hstate
      · exact .inr (.inr hstate)
      · rw [hstate]
        exact .inl (by decide)

/-! ## Addressing -/

/-- The addresses are handed out in order. -/
theorem freeAddr_eq (h : u.vars.Table k) :
    u.freeAddr = if k < 7 then some (BitVec.ofNat 8 (k + 1)) else none := by
  have hfree : ∀ i ∈ List.range' 1 7,
      (decide ((u.vars.devtable i).epinfo = .null) = decide (k < i)) := by
    intro i hi
    rw [List.mem_range'_1] at hi
    have hfilled := h.filled i (by omega)
    refine decide_eq_decide.mpr ⟨fun hnull => ?_, fun hlt => ?_⟩
    · by_contra hle
      exact hfilled.mpr (Nat.le_of_not_lt hle) hnull
    · by_contra hrec
      exact absurd (hfilled.mp hrec) (Nat.not_le_of_lt hlt)
  have hfind : ∀ k ≤ 7, ((List.range' 1 7).find? fun i => decide (k < i))
      = if k < 7 then some (k + 1) else none := by
    decide
  have hsearch : u.freeAddr
      = ((List.range' 1 7).find? fun i => decide (k < i)).map (BitVec.ofNat 8) :=
    congrArg (Option.map _) (List.find?_congr hfree)
  rw [hsearch, hfind k h.le]
  split_ifs <;> rfl

theorem assignAddr_sat (h : u.vars.Table k) (hk : k < 7) :
    Sat OverrunOnly
      (fun v => ∃ k, v.vars.Enumerated k 0 ∧
        (v.vars.usbTaskState = usbStateConfiguring ∨ v.vars.usbTaskState = usbStateError))
      (u.assignAddr env (BitVec.ofNat 8 (k + 1))) := by
  have hi : (BitVec.ofNat 8 (k + 1)).toNat = k + 1 := by
    rw [BitVec.toNat_ofNat]
    omega
  have hzero : (u.vars.devtable 0).epinfo ≠ .null :=
    (h.filled 0 (by decide)).mpr (Nat.zero_le k)
  unfold assignAddr
  rw [devRecord_eq (by omega), Call.bind_ret, devRecord_eq (by decide), Call.bind_ret]
  generalize hw : u.setDevRecord (BitVec.ofNat 8 (k + 1)) _ = w
  have hreach : w.Reaches 0#8 0#8 := by
    refine reaches_zero (by decide) ?_
    rw [← hw]
    show (Function.update u.vars.devtable _ _ 0).epinfo ≠ .null
    rw [Function.update_of_ne (by omega)]
    exact hzero
  refine Sat.bind (xferCtrlReq_sat hreach ..) ?_
  rintro ⟨rcode, v⟩ (hv : v.vars = w.vars)
  have htable : ∀ v' : UsbVars, v'.devtable = v.vars.devtable →
      (v'.tmpAddr = u.vars.tmpAddr ∨ v'.tmpAddr = BitVec.ofNat 8 (k + 1)) →
      v'.hidAddr = v.vars.hidAddr → v'.Table (k + 1) := by
    intro v' htable htmp hhid
    rw [hv, ← hw] at htable hhid
    exact h.assign hk hi hzero htable htmp hhid
  have hconf : ¬ usbStateConfiguring.toNat < 0x30 := by decide
  refine Sat.ite (fun _ => ?_) fun _ => ?_
  · refine ⟨k + 1, ⟨htable _ rfl (.inr rfl) rfl, fun _ hhigh => ?_, fun _ _ => ?_⟩, .inl rfl⟩
    · exact absurd hhigh hconf
    · exact ⟨Nat.succ_pos k, Nat.le_of_eq hi⟩
  · refine ⟨k + 1, fail_enumerated (htable _ rfl (.inl ?_) rfl) rcode, .inr rfl⟩
    rw [hv, ← hw]
    rfl

theorem addressingTask_sat (hlow : 0x20 ≤ u.vars.usbTaskState.toNat)
    (hhigh : u.vars.usbTaskState.toNat < 0x30) (henum : u.vars.Enumerated k 1) :
    Sat OverrunOnly (fun v => Tasked u.vars v.vars) (u.addressingTask env) := by
  have hearly : ¬ u.vars.usbTaskState.toNat < 0x12 := by omega
  have hlate : ¬ 0x40 ≤ u.vars.usbTaskState.toNat := by omega
  -- of a full table the state is left only if it is the first
  have hend : ∀ v : Usb, (∃ k, v.vars.Enumerated k 0) →
      (v.vars.usbTaskState.toNat ≤ 0x40 ∨ v.vars.usbTaskState = usbStateError ∨
        v.vars.usbTaskState = u.vars.usbTaskState) →
      Tasked u.vars
        (if v.vars.usbTaskState = usbStateAddressing then v.fail 0xfe#8 else v).vars := by
    rintro v ⟨k, hk⟩ hstate
    split_ifs
    · exact ⟨⟨k, fail_enumerated hk.toTable _⟩, .inr (.inl rfl), (absurd · hearly),
        (absurd · hlate)⟩
    · exact ⟨⟨k, hk⟩, hstate, (absurd · hearly), (absurd · hlate)⟩
  unfold addressingTask
  rw [freeAddr_eq henum.toTable]
  split_ifs with hk
  · refine Sat.bind (assignAddr_sat henum.toTable hk) ?_
    rintro v ⟨k', hk', hstate⟩
    refine hend v ⟨k', hk'⟩ ?_
    rcases hstate with hstate | hstate
    · rw [hstate]
      exact .inl (by decide)
    · exact .inr (.inl hstate)
  · have hfull : k = 7 := Nat.le_antisymm henum.le (Nat.le_of_not_lt hk)
    refine hend u ⟨k, henum.toTable, fun _ _ => hfull, fun hlow' => ?_⟩ (.inr (.inr rfl))
    exact absurd hhigh (Nat.not_lt_of_le hlow')

/-! ## Attachment -/

theorem poke_sat (b : Buffer) (i : Nat) (val : BitVec 8) :
    Sat OverrunOnly (fun v => v.vars = u.vars) (u.poke b i val) :=
  Sat.ite (fun _ => rfl) fun _ => rfl

theorem convLoop_sat (utf8 : Buffer) (togo i : Nat) :
    Sat OverrunOnly (fun v => v.vars = u.vars) (convLoop env utf8 togo i u) := by
  induction togo generalizing i u with
  | zero => exact rfl
  | succ togo ih => exact (poke_sat ..).bind fun v hv => (ih (i + 1)).mono fun _ h => h.trans hv

theorem readString_sat (h : u.Reaches 0#8 0#8) (index : BitVec 8) :
    Sat OverrunOnly (fun v => v.vars = u.vars) (u.readString env index) := by
  unfold readString
  refine Sat.bind (xferCtrlReq_sat (u := u.declare strDesc) (h.congr rfl) ..) ?_
  rintro ⟨-, v⟩ (hv : v.vars = u.vars)
  refine Sat.bind (xferCtrlReq_sat (h.congr hv) ..) ?_
  rintro ⟨-, w⟩ (hw : w.vars = v.vars)
  refine Sat.bind (convLoop_sat ..) fun x hx => ?_
  exact (poke_sat ..).mono fun _ hr => hr.trans (hx.trans (hw.trans hv))

theorem readStringIf_sat (h : u.Reaches 0#8 0#8) (index : BitVec 8) :
    Sat OverrunOnly (fun v => v.vars = u.vars) (u.readStringIf env index) :=
  Sat.ite (fun _ => readString_sat h index) fun _ => rfl

theorem getDeviceDescriptor_sat (h : u.Reaches 0#8 0#8) :
    Sat OverrunOnly
      (fun v => ∃ w : Usb, w.vars = u.vars ∧
        (v = w.setState usbStateAddressing ∨ ∃ rcode, v = w.fail rcode))
      (u.getDeviceDescriptor env) := by
  have hreach := h
  obtain ⟨slot, hslot⟩ := h
  unfold getDeviceDescriptor
  rw [hslot, Call.bind_ret]
  refine Sat.bind (xferCtrlReq_sat (u := u.setEp slot _) (hreach.congr rfl) ..) ?_
  rintro ⟨rcode, v⟩ (hv : v.vars = u.vars)
  refine Sat.ite (fun _ => ?_) fun _ => ⟨v, hv, .inr ⟨rcode, rfl⟩⟩
  rw [epinfo_congr hv, hslot, Call.bind_ret]
  refine Sat.bind (xferCtrlReq_sat (u := v.setEp slot _) (hreach.congr hv) ..) ?_
  rintro ⟨-, w⟩ (hw : w.vars = v.vars)
  have hvw : w.vars = u.vars := hw.trans hv
  refine Sat.bind (readStringIf_sat (hreach.congr hvw) _) fun x hx => ?_
  have hux : x.vars = u.vars := hx.trans hvw
  exact Sat.bind (readStringIf_sat (hreach.congr hux) _) fun y hy =>
    ⟨y, hy.trans hux, .inl rfl⟩

theorem attachedTask_sat (hlow : 0x10 ≤ u.vars.usbTaskState.toNat)
    (hhigh : u.vars.usbTaskState.toNat < 0x20) (h : u.vars.Table k) :
    Sat OverrunOnly (fun v => Tasked u.vars v.vars) (u.attachedTask env) := by
  have hlate : ¬ 0x40 ≤ u.vars.usbTaskState.toNat := by omega
  have hto : ∀ (v : UsbVars) (state : BitVec 8), v.devtable = u.vars.devtable →
      v.tmpAddr = u.vars.tmpAddr → v.hidAddr = u.vars.hidAddr → v.usbTaskState = state →
      state.toNat ≤ 0x20 → (u.vars.usbTaskState.toNat < 0x12 → state.toNat < 0x13) →
      Tasked u.vars v := by
    rintro v state htable htmp hhid rfl hstate hearly
    exact ⟨⟨k, (h.congr htable htmp hhid).enumerated (.inl hstate)⟩, .inl (by omega), hearly,
      (absurd · hlate)⟩
  have hstay : ∀ v : UsbVars, v = u.vars → Tasked u.vars v := by
    rintro v rfl
    exact hto u.vars _ rfl rfl rfl rfl (by omega) fun hlt => by omega
  have hlater : ∀ state : BitVec 8, u.vars.usbTaskState = state → 0x12 ≤ state.toNat →
      ¬ u.vars.usbTaskState.toNat < 0x12 := by
    rintro state rfl hle
    exact Nat.not_lt_of_le hle
  unfold attachedTask
  refine Sat.ite (fun _ => hto _ usbAttachedSettle rfl rfl rfl rfl (by decide) fun _ => by decide)
    fun _ => ?_
  refine Sat.ite (fun _ => ?_) fun _ => ?_
  · rw [Call.sat_ret]
    split_ifs
    · exact hto _ usbAttachedResetDevice rfl rfl rfl rfl (by decide) fun _ => by decide
    · exact hstay _ rfl
  refine Sat.ite (fun hs => ?_) fun _ => ?_
  · exact hto _ usbAttachedWaitResetComplete rfl rfl rfl rfl (by decide)
      (absurd · (hlater _ hs (by decide)))
  refine Sat.ite (fun hs => ?_) fun _ => ?_
  · refine Sat.ite (fun _ => ?_) fun _ => hstay _ rfl
    exact hto _ usbAttachedWaitSof rfl rfl rfl rfl (by decide)
      (absurd · (hlater _ hs (by decide)))
  refine Sat.ite (fun hs => ?_) fun _ => ?_
  · rw [Call.sat_ret]
    split_ifs
    · exact hto _ usbAttachedGetDeviceDescriptorSize rfl rfl rfl rfl (by decide)
        (absurd · (hlater _ hs (by decide)))
    · exact hstay _ rfl
  refine Sat.ite (fun hs => ?_) fun _ => hstay _ rfl
  have hzero : (u.vars.devtable 0).epinfo ≠ .null :=
    (h.filled 0 (by decide)).mpr (Nat.zero_le k)
  refine (getDeviceDescriptor_sat (reaches_zero (by decide) hzero)).mono ?_
  rintro v ⟨w, hw, rfl | ⟨rcode, rfl⟩⟩
  · obtain ⟨htable, htmp, hhid⟩ : w.vars.devtable = u.vars.devtable ∧
        w.vars.tmpAddr = u.vars.tmpAddr ∧ w.vars.hidAddr = u.vars.hidAddr := by
      rw [hw]
      exact ⟨rfl, rfl, rfl⟩
    exact hto _ usbStateAddressing htable htmp hhid rfl (by decide)
      (absurd · (hlater _ hs (by decide)))
  · refine ⟨⟨k, fail_enumerated (hw ▸ h) rcode⟩, .inr (.inl rfl),
      (absurd · (hlater _ hs (by decide))), (absurd · hlate)⟩

/-! ## `USB_Task` -/

theorem detachedTask_tasked (hhigh : u.vars.usbTaskState.toNat < 0x10) (h : u.vars.Table k) :
    Tasked u.vars u.detachedTask.vars := by
  have hlate : ¬ 0x40 ≤ u.vars.usbTaskState.toNat := by omega
  have hstay : ∀ v : UsbVars, v = u.vars → Tasked u.vars v := by
    rintro v rfl
    exact ⟨⟨k, h.enumerated (.inl (by omega))⟩, .inl (by omega), fun hlt => by omega,
      (absurd · hlate)⟩
  unfold detachedTask
  split_ifs
  · have hempty := UsbVars.usbInit_table u h.tmpAddr h.hidAddr
    have hwait : usbDetachedWaitForDevice.toNat < 0x13 := by decide
    refine ⟨⟨0, UsbVars.Table.enumerated (hempty.congr rfl rfl rfl) (.inl ?_)⟩, .inl ?_,
      fun _ => hwait, (absurd · hlate)⟩
    · exact (Nat.le_of_lt hwait).trans (by decide)
    · exact (Nat.le_of_lt hwait).trans (by decide)
  · exact hstay _ rfl
  · exact hstay _ rfl

theorem mask_toNat : ∀ state : BitVec 8,
    (state &&& usbStateMask).toNat = state.toNat / 16 * 16 := by
  decide

/-- **`USB_Task` keeps the table in order**, whatever state it finds. -/
theorem usbTask_sat (h : u.vars.Enumerated k 1) :
    Sat OverrunOnly (fun v => Tasked u.vars v.vars) (u.usbTask env) := by
  have hmask := mask_toNat u.vars.usbTaskState
  have hfamily : ∀ family : BitVec 8, u.vars.usbTaskState &&& usbStateMask = family →
      family.toNat = u.vars.usbTaskState.toNat / 16 * 16 := by
    rintro family rfl
    exact hmask
  unfold usbTask
  refine Sat.ite (fun hs => ?_) fun hdetached => ?_
  · have hnat := hfamily _ hs
    have hzero : usbStateDetached.toNat = 0 := rfl
    exact detachedTask_tasked (u := u.declare devDescr) (by rw [declare_vars]; omega) h.toTable
  refine Sat.ite (fun hs => ?_) fun hattached => ?_
  · have hnat := hfamily _ hs
    have hsixteen : usbStateAttached.toNat = 16 := rfl
    exact attachedTask_sat (u := u.declare devDescr) (by rw [declare_vars]; omega)
      (by rw [declare_vars]; omega) h.toTable
  refine Sat.ite (fun hs => ?_) fun haddressing => ?_
  · have hnat := hfamily _ hs
    have hval : usbStateAddressing.toNat = 32 := rfl
    exact addressingTask_sat (u := u.declare devDescr) (by rw [declare_vars]; omega)
      (by rw [declare_vars]; omega) h
  refine Sat.ite (fun hs => ?_) fun hconfiguring => ?_
  · have hnat := hfamily _ hs
    have hval : usbStateConfiguring.toNat = 48 := rfl
    have hconf : (u.declare devDescr).Configuring := by
      unfold Configuring
      rw [declare_vars]
      omega
    exact configuringTask_sat (u := u.declare devDescr) hconf (by rw [declare_vars]; omega) h
  have hhigh : 0x40 ≤ u.vars.usbTaskState.toNat := by
    by_contra hlow
    have hsixteens : u.vars.usbTaskState.toNat / 16 < 4 := by omega
    have hne : ∀ family : BitVec 8, u.vars.usbTaskState &&& usbStateMask ≠ family →
        u.vars.usbTaskState.toNat / 16 * 16 ≠ family.toNat := fun family hs hnat =>
      hs (BitVec.eq_of_toNat_eq (hmask.trans hnat))
    have h0 : u.vars.usbTaskState.toNat / 16 * 16 ≠ 0 := hne _ hdetached
    have h1 : u.vars.usbTaskState.toNat / 16 * 16 ≠ 16 := hne _ hattached
    have h2 : u.vars.usbTaskState.toNat / 16 * 16 ≠ 32 := hne _ haddressing
    have h3 : u.vars.usbTaskState.toNat / 16 * 16 ≠ 48 := hne _ hconfiguring
    omega
  refine ⟨⟨k, h.toTable, fun _ hlt => ?_, h.configured⟩, .inr (.inr rfl), fun hlt => ?_,
    fun _ => rfl⟩
  · exact absurd (show u.vars.usbTaskState.toNat < 0x30 from hlt) (by omega)
  · omega

end Usb

end SpaceInvaders
