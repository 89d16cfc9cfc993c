import SpaceInvaders.UsbKb.Reaches

/-!
# `usb_kb`: the device table over a run

The interrupt handler moves the state of the stack under `USB_Task`: it restarts the
attachment at any point, and a bus event adds one to the state whatever that is. Still
the table stays in order (`Table`): the entries with a record are those up to some `k`,
a class is filed for none of them beyond the latest address, and if any is filed, the
address that is polled leads to the records of `hid_ep`. What the states promise about
`k` is `Enumerated`.
-/

namespace SpaceInvaders

open Call (Sat)

/-- The table holds the addresses up to `k`. -/
structure UsbVars.Table (v : UsbVars) (k : Nat) : Prop where
  le : k ≤ 7
  filled : ∀ i < 9, (v.devtable i).epinfo ≠ .null ↔ i ≤ k
  tmpAddr : v.tmpAddr.toNat ≤ 7
  hidAddr : v.hidAddr.toNat ≤ 7
  known : ∀ i < 9, (v.devtable i).devclass.toNat ≤ 2
  claimed : ∀ i < 9, (v.devtable i).devclass ≠ 0#8 →
    i ≤ k ∧ i ≤ v.tmpAddr.toNat ∧ i ≤ v.hidAddr.toNat ∧
      (v.devtable v.hidAddr.toNat).epinfo = .hidEp

/-- What the states promise. A bus event before `USB_Task` has run may have added
`ahead` to the state. -/
structure UsbVars.Enumerated (v : UsbVars) (k ahead : Nat) : Prop extends v.Table k where
  addressing : 0x20 + ahead < v.usbTaskState.toNat → v.usbTaskState.toNat < 0x30 → k = 7
  configured : 0x30 ≤ v.usbTaskState.toNat → v.usbTaskState ≠ usbStateError →
    1 ≤ k ∧ v.tmpAddr.toNat ≤ k

namespace UsbVars

variable {v v' : UsbVars} {k ahead : Nat}

/-- The table where the variables that it is about have not changed. -/
theorem Table.congr (h : v.Table k) (htable : v'.devtable = v.devtable)
    (htmp : v'.tmpAddr = v.tmpAddr) (hhid : v'.hidAddr = v.hidAddr) : v'.Table k := by
  obtain ⟨hle, hfilled, htmpAddr, hhidAddr, hknown, hclaimed⟩ := h
  refine ⟨hle, ?_, ?_, ?_, ?_, ?_⟩
  · rwa [htable]
  · rwa [htmp]
  · rwa [hhid]
  · rwa [htable]
  · rwa [htable, htmp, hhid]

/-- A state before addressing promises nothing. -/
theorem Table.enumerated (h : v.Table k)
    (hstate : v.usbTaskState.toNat ≤ 0x20 ∨ v.usbTaskState = usbStateError) :
    v.Enumerated k 0 := by
  refine ⟨h, fun hlow hhigh => ?_, fun hhigh hne => ?_⟩
  · rcases hstate with hstate | hstate
    · omega
    · rw [hstate] at hhigh
      exact absurd hhigh (by decide)
  · rcases hstate with hstate | hstate
    · omega
    · exact absurd hstate hne

/-- `USB_init` leaves an empty table. -/
theorem usbInit_table (u : Usb) (htmp : u.vars.tmpAddr.toNat ≤ 7)
    (hhid : u.vars.hidAddr.toNat ≤ 7) : u.usbInit.vars.Table 0 := by
  have hentry : ∀ i, u.usbInit.vars.devtable i
      = if i = 0 then { epinfo := .dev0ep, devclass := 0 }
        else if i < 9 then { epinfo := .null, devclass := 0 } else u.vars.devtable i :=
    fun i => Function.update_apply ..
  have hclass : ∀ i < 9, (u.usbInit.vars.devtable i).devclass = 0#8 := by
    intro i hi
    rw [hentry]
    split_ifs <;> rfl
  refine ⟨by omega, fun i hi => ?_, htmp, hhid, fun i hi => ?_, fun i hi h => ?_⟩
  · rw [hentry]
    split_ifs with hzero
    · simp [hzero]
    · simp [hzero]
  · rw [hclass i hi]
    decide
  · exact absurd (hclass i hi) h

/-- The entry of `addr` is made the HID device. -/
def claim (v : UsbVars) (devclass addr interface : BitVec 8) : UsbVars :=
  { v with
    devtable := Function.update v.devtable addr.toNat { epinfo := .hidEp, devclass := devclass }
    hidAddr := addr, hidInterface := interface }

theorem Table.claim (h : v.Table k) (htmp : v.tmpAddr.toNat ≤ k) {devclass : BitVec 8}
    (hclass : devclass.toNat ≤ 2) (interface : BitVec 8) :
    (v.claim devclass v.tmpAddr interface).Table k := by
  have hentry : ∀ i, (v.claim devclass v.tmpAddr interface).devtable i
      = if i = v.tmpAddr.toNat then { epinfo := .hidEp, devclass := devclass }
        else v.devtable i :=
    fun i => Function.update_apply ..
  refine ⟨h.le, fun i hi => ?_, h.tmpAddr, h.tmpAddr, fun i hi => ?_, fun i hi hne => ?_⟩
  · rw [hentry]
    split_ifs with haddr
    · simp [haddr, htmp]
    · exact h.filled i hi
  · rw [hentry]
    split_ifs with haddr
    · exact hclass
    · exact h.known i hi
  · have hrec : ((v.claim devclass v.tmpAddr interface).devtable v.tmpAddr.toNat).epinfo
        = .hidEp := by
      rw [hentry, if_pos rfl]
    rw [hentry] at hne
    split_ifs at hne with haddr
    · rw [haddr]
      exact ⟨htmp, Nat.le_refl _, Nat.le_refl _, hrec⟩
    · obtain ⟨hk, hlast, -⟩ := h.claimed i hi hne
      exact ⟨hk, hlast, hlast, hrec⟩

theorem Enumerated.claim (h : v.Enumerated k ahead)
    (hstate : 0x30 ≤ v.usbTaskState.toNat) (hne : v.usbTaskState ≠ usbStateError)
    {devclass : BitVec 8} (hclass : devclass.toNat ≤ 2) (interface : BitVec 8) :
    (v.claim devclass v.tmpAddr interface).Enumerated k ahead :=
  ⟨h.toTable.claim (h.configured hstate hne).2 hclass interface, h.addressing, h.configured⟩

/-- The next address is taken. -/
theorem Table.assign (h : v.Table k) (hk : k < 7) {i : BitVec 8} (hi : i.toNat = k + 1)
    {epinfo : EpPtr} (hrec : epinfo ≠ .null)
    (hv' : v'.devtable = Function.update v.devtable i.toNat
      { epinfo := epinfo, devclass := (v.devtable i.toNat).devclass })
    (htmp : v'.tmpAddr = v.tmpAddr ∨ v'.tmpAddr = i) (hhid : v'.hidAddr = v.hidAddr) :
    v'.Table (k + 1) := by
  have hentry : ∀ j, v'.devtable j
      = if j = k + 1 then { epinfo := epinfo, devclass := (v.devtable (k + 1)).devclass }
        else v.devtable j := by
    intro j
    rw [hv', hi]
    exact Function.update_apply ..
  have hclass : ∀ j, (v'.devtable j).devclass = (v.devtable j).devclass := by
    intro j
    rw [hentry]
    split_ifs with hj
    · rw [hj]
    · rfl
  refine ⟨hk, fun j hj => ?_, ?_, ?_, fun j hj => ?_, fun j hj hne => ?_⟩
  · rw [hentry]
    split_ifs with hnext
    · simp [hnext, hrec]
    · rw [h.filled j hj]
      omega
  · rcases htmp with htmp | htmp
    · rw [htmp]
      exact h.tmpAddr
    · rw [htmp, hi]
      omega
  · rw [hhid]
    exact h.hidAddr
  · rw [hclass]
    exact h.known j hj
  · rw [hclass] at hne
    obtain ⟨hjk, hjtmp, hjhid, hptr⟩ := h.claimed j hj hne
    have hhidk : v.hidAddr.toNat ≤ k := by
      have hin := h.hidAddr
      refine (h.filled _ (by omega)).mp ?_
      rw [hptr]
      nofun
    refine ⟨by omega, ?_, by rwa [hhid], ?_⟩
    · rcases htmp with htmp | htmp
      · rwa [htmp]
      · rw [htmp, hi]
        omega
    · rw [hhid, hentry, if_neg (by omega)]
      exact hptr

end UsbVars

end SpaceInvaders
