import SpaceInvaders.UsbKb.Probe

/-!
# `usb_kb`: no run goes astray

Whatever the chip answers, whenever it interrupts, and however often a device comes and
goes: as long as no packet overruns its buffer, no null pointer is followed and no table
left (`run_overrunOnly`). `main` polls in the running state only, as the class it found
there, and that is the class of the device whose endpoint is polled, the last one in the
table (`run_polled`).

One turn carries `Inv` on. A turn of the running state either does nothing to the table
or leaves that state, and then the flag goes down in the same turn; so what was true when
the flag went up is true as long as it is up.
-/

namespace SpaceInvaders

open Call (Sat)

/-- The entry that is polled is of the class `devclass`, and the last of the table. -/
structure UsbVars.Polled (v : UsbVars) (devclass : BitVec 8) : Prop where
  entry : v.devtable v.hidAddr.toNat = { epinfo := .hidEp, devclass := devclass }
  last : ∀ i < 9, v.hidAddr.toNat < i → (v.devtable i).epinfo = .null

namespace Usb

variable {env : UsbEnv} {u : Usb} {k : Nat}

/-! ## The interrupt handler -/

/-- Nothing but the state has moved. -/
def Moved (v : UsbVars) (state : BitVec 8) : UsbVars := { v with usbTaskState := state }

theorem startHost_vars (mode mode' : BitVec 8) :
    ∃ state, (u.startHost env mode mode').vars = Moved u.vars state ∧
      (state = usbStateAttached ∨
        state = u.vars.usbTaskState ∧ state = usbAttachedWaitResetComplete) := by
  unfold startHost
  split_ifs with hreset
  · exact ⟨usbStateAttached, rfl, .inl rfl⟩
  · exact ⟨u.vars.usbTaskState, rfl, .inr ⟨rfl, not_not.mp hreset⟩⟩

theorem busSample_cases : ∀ hrsl : BitVec 8,
    hrsl &&& (bmJSTATUS ||| bmKSTATUS) = bmJSTATUS ∨
      hrsl &&& (bmJSTATUS ||| bmKSTATUS) = bmKSTATUS ∨
      hrsl &&& (bmJSTATUS ||| bmKSTATUS) = bmSE1 ∨
      hrsl &&& (bmJSTATUS ||| bmKSTATUS) = bmSE0 := by
  decide

variable (env u) in
/-- The bus is found in one of four states, so a probe leaves every state but one. -/
theorem maxBusprobe_vars :
    ∃ state, (u.maxBusprobe env).vars = Moved u.vars state ∧
      (state.toNat ≤ 0x10 ∨
        state = u.vars.usbTaskState ∧ state = usbAttachedWaitResetComplete) := by
  have hstarted : ∀ {v : Usb}, (∃ state, v.vars = Moved u.vars state ∧
      (state = usbStateAttached ∨
        state = u.vars.usbTaskState ∧ state = usbAttachedWaitResetComplete)) →
      ∃ state, v.vars = Moved u.vars state ∧ (state.toNat ≤ 0x10 ∨
        state = u.vars.usbTaskState ∧ state = usbAttachedWaitResetComplete) := by
    rintro v ⟨state, hv, rfl | hstate⟩
    · exact ⟨_, hv, .inl (by decide)⟩
    · exact ⟨state, hv, .inr hstate⟩
  unfold maxBusprobe
  dsimp only
  split_ifs with hj hk hse1 hse0 hdetached
  · exact hstarted (startHost_vars ..)
  · exact hstarted (startHost_vars ..)
  · exact ⟨usbDetachedIllegal, rfl, .inl (by decide)⟩
  · exact ⟨usbDetachedInitialize, rfl, .inl (by decide)⟩
  · exact ⟨usbDetachedWaitForDevice, rfl, .inl (by decide)⟩
  · rcases busSample_cases (u.maxRegRd env MaxReg.rHRSL.byte).1 with h | h | h | h
    · exact absurd h hj
    · exact absurd h hk
    · exact absurd h hse1
    · exact absurd h hse0

variable (env u) in
/-- The handler looks at the bus or not, and then counts a bus event or not. -/
theorem maxIntHandler_vars :
    ∃ v : Usb, (v.vars = u.vars ∨ v = (u.maxRegRd env MaxReg.rHIRQ.byte).2.maxBusprobe env) ∧
      ((u.maxIntHandler env).vars = v.vars ∨
        (u.maxIntHandler env).vars = Moved v.vars (v.vars.usbTaskState + 1#8)) := by
  unfold maxIntHandler
  dsimp only
  split_ifs
  all_goals
    first
    | exact ⟨u, .inl rfl, .inl rfl⟩
    | exact ⟨u, .inl rfl, .inr rfl⟩
    | exact ⟨_, .inr rfl, .inl rfl⟩
    | exact ⟨_, .inr rfl, .inr rfl⟩

variable (env u) in
/-- **What an interrupt does**: the state stays, goes on by one, or starts again. -/
theorem max3421eTask_vars (pins : UsbPins) :
    ∃ state, (u.max3421eTask env pins).vars = Moved u.vars state ∧
      (state = u.vars.usbTaskState ∨ state = u.vars.usbTaskState + 1#8 ∨
        state.toNat < 0x12) := by
  have hprobed : ∀ v : Usb,
      (v.vars = u.vars ∨ v = (u.maxRegRd env MaxReg.rHIRQ.byte).2.maxBusprobe env) →
      ∃ state, v.vars = Moved u.vars state ∧
        (state = u.vars.usbTaskState ∨ state.toNat ≤ 0x10) := by
    rintro v (hv | rfl)
    · exact ⟨u.vars.usbTaskState, hv, .inl rfl⟩
    · obtain ⟨state, hvars, hstate⟩ :=
        maxBusprobe_vars env (u.maxRegRd env MaxReg.rHIRQ.byte).2
      exact ⟨state, hvars, hstate.elim .inr fun h => .inl h.1⟩
  have hint : ∃ state, (u.maxIntHandler env).vars = Moved u.vars state ∧
      (state = u.vars.usbTaskState ∨ state = u.vars.usbTaskState + 1#8 ∨
        state.toNat < 0x12) := by
    obtain ⟨v, hv, hevent⟩ := maxIntHandler_vars env u
    obtain ⟨state, hvars, hstate⟩ := hprobed v hv
    have hnow : v.vars.usbTaskState = state := congrArg UsbVars.usbTaskState hvars
    rcases hevent with hevent | hevent
    · exact ⟨state, hevent.trans hvars, hstate.imp id fun h => .inr (by omega)⟩
    · refine ⟨state + 1#8, ?_, .inr (hstate.imp ?_ fun h => ?_)⟩
      · rw [hevent, hnow, hvars]
        rfl
      · rintro rfl
        rfl
      · have hone : (1#8).toNat = 1 := rfl
        rw [BitVec.toNat_add]
        omega
  unfold max3421eTask
  dsimp only
  split_ifs
  · exact hint
  · exact ⟨u.vars.usbTaskState, rfl, .inl rfl⟩
  · exact hint
  · exact ⟨u.vars.usbTaskState, rfl, .inl rfl⟩

theorem awaitOscillator_vars {turns : Nat} {v : Usb}
    (h : awaitOscillator env turns u = some v) : v.vars = u.vars := by
  induction turns generalizing u with
  | zero => cases h
  | succ turns ih =>
    simp only [awaitOscillator] at h
    split_ifs at h
    · have hlater := ih h
      exact hlater
    · cases h
      rfl

theorem max3421eInit_sat :
    Sat OverrunOnly
      (fun v => ∃ state, v.vars = Moved u.vars state ∧ state.toNat ≤ 0x13)
      (u.max3421eInit env) := by
  unfold max3421eInit
  refine Sat.bind (P := fun v => v.vars = u.vars)
    (Sat.ofTurns fun v hv => (awaitOscillator_vars hv).trans rfl) ?_
  intro v hv
  rw [Call.pure_eq, Call.sat_ret]
  generalize hw : maxRegWr _ MaxReg.rHCTL.byte bmSAMPLEBUS = w
  have hvars : w.vars = u.vars := by
    rw [← hw]
    exact hv
  obtain ⟨state, hprobe, hstate⟩ := maxBusprobe_vars env w
  rw [hvars] at hprobe
  refine ⟨state, hprobe, ?_⟩
  rcases hstate with hstate | ⟨-, hstate⟩
  · omega
  · rw [hstate]
    decide

/-! ## What `main` asks -/

/-- The loop of `GetDriverandReport` ends with the class of the last device. -/
theorem driverLoop_eq (h : u.vars.Table k) {a n : Nat} (hn : a + n = 8) (device : BitVec 8) :
    u.driverLoop (List.range' a n) device
      = .ret (if a ≤ k then (u.vars.devtable k).devclass else device) := by
  have hle := h.le
  induction n generalizing a device with
  | zero =>
    rw [if_neg (by omega)]
    rfl
  | succ n ih =>
    rw [List.range'_succ, driverLoop]
    have hfilled := h.filled a (by omega)
    have hknown := h.known a (by omega)
    by_cases hk : a ≤ k
    · rw [if_pos (hfilled.mpr hk), if_pos (by omega), ih (by omega), if_pos hk]
      split_ifs with hnext
      · rfl
      · rw [show k = a by omega]
    · have hrec : ¬ (u.vars.devtable a).epinfo ≠ .null := fun hrec => hk (hfilled.mp hrec)
      rw [if_neg hrec, ih (by omega), if_neg hk, if_neg (by omega)]

theorem getDriverandReport_sat (h : u.vars.Table k) (hk : 1 ≤ k) :
    Sat OverrunOnly (fun r => r.1 = (u.vars.devtable k).devclass ∧ r.2.vars = u.vars)
      (u.getDriverandReport env) := by
  have hle := h.le
  have hreach : u.Reaches 1#8 0#8 := reaches_zero (by decide) ((h.filled 1 (by decide)).mpr hk)
  unfold getDriverandReport
  rw [driverLoop_eq h (by decide), Call.bind_ret, if_pos hk]
  refine Sat.bind (xferCtrlReq_sat hreach ..) ?_
  rintro ⟨-, v⟩ (hv : v.vars = u.vars)
  refine Sat.bind (xferCtrlReq_sat (hreach.congr hv) ..) ?_
  rintro ⟨-, w⟩ (hw : w.vars = v.vars)
  exact ⟨rfl, hw.trans hv⟩

theorem poll_sat {device : BitVec 8} (h : u.vars.Table k) (hpolled : u.vars.Polled device)
    (buf : Buffer) : u.Keeps (u.poll env buf) := by
  have hin := h.hidAddr
  have hreach : u.Reaches u.vars.hidAddr 1#8 := reaches_one (by omega) (by rw [hpolled.entry])
  have hreach' := hreach
  obtain ⟨slot, hslot⟩ := hreach
  unfold poll
  dsimp only
  rw [epinfo_congr (maxRegWr_vars _ _), hslot, Call.bind_ret]
  exact (xferInTransfer_sat (hreach'.congr (maxRegWr_vars _ _)) ..).mono fun _ hr => hr

/-- The class that `GetDriverandReport` finds is the class of the device to poll. -/
theorem polled_of_class (h : u.vars.Table k) (hk : 1 ≤ k)
    (hclass : (u.vars.devtable k).devclass ≠ 0#8) :
    u.vars.Polled (u.vars.devtable k).devclass := by
  have hle := h.le
  have hin := h.hidAddr
  obtain ⟨-, -, hhid, hptr⟩ := h.claimed k (by omega) hclass
  have hlast : u.vars.hidAddr.toNat ≤ k := by
    refine (h.filled _ (by omega)).mp ?_
    rw [hptr]
    nofun
  have heq : u.vars.hidAddr.toNat = k := Nat.le_antisymm hlast hhid
  refine ⟨?_, fun i hi hlt => ?_⟩
  · rw [← hptr, heq]
  · by_contra hrec
    have hik := (h.filled i hi).mp hrec
    omega

end Usb

/-! ## A turn -/

theorem MainState.iterate_flag (s : MainState) (i : LoopIn) :
    (s.iterate i).runningdebugflag
      = if i.taskState = usbStateRunning then true
        else if i.taskState = usbStateError then s.runningdebugflag else false := by
  unfold MainState.iterate
  cases hflag : s.runningdebugflag <;> split_ifs <;> simp_all

theorem MainState.iterate_device (s : MainState) (i : LoopIn) :
    (s.iterate i).device
      = if i.taskState = usbStateRunning ∧ s.runningdebugflag = false then i.driver
        else s.device := by
  unfold MainState.iterate
  cases hflag : s.runningdebugflag <;> split_ifs <;> simp_all

namespace UsbMain

variable {env : UsbEnv} {m : UsbMain} {k : Nat}

/-- What holds between two turns. -/
structure Inv (m : UsbMain) : Prop where
  enumerated : ∃ k, m.usb.vars.Enumerated k 0
  state : m.usb.vars.usbTaskState.toNat ≤ 0x40 ∨ m.usb.vars.usbTaskState = usbStateError
  running : m.main.runningdebugflag = true ↔ m.usb.vars.usbTaskState = usbStateRunning
  polled : m.main.runningdebugflag = true → m.main.device = 1#8 ∨ m.main.device = 2#8 →
    m.usb.vars.Polled m.main.device

/-- What holds once both tasks have run. -/
structure Ready (m : UsbMain) (v : UsbVars) : Prop where
  enumerated : ∃ k, v.Enumerated k 0
  down : m.main.runningdebugflag = false →
    v.usbTaskState.toNat ≤ 0x40 ∨ v.usbTaskState = usbStateError
  up : m.main.runningdebugflag = true →
    v = m.usb.vars ∨ v.usbTaskState.toNat < 0x13 ∨ v.usbTaskState.toNat = 0x41

theorem toNat_error : usbStateError.toNat = 255 := rfl

theorem toNat_running : usbStateRunning.toNat = 64 := rfl

/-- A bus event is within what the states promise. -/
theorem Inv.moved (h : Inv m) {state : BitVec 8}
    (hstate : state = m.usb.vars.usbTaskState ∨ state = m.usb.vars.usbTaskState + 1#8 ∨
      state.toNat < 0x12) :
    ∃ k, (Usb.Moved m.usb.vars state).Enumerated k 1 := by
  obtain ⟨k, hk⟩ := h.enumerated
  have haddressing := hk.addressing
  have hconfigured := hk.configured
  have htable : (Usb.Moved m.usb.vars state).Table k := hk.toTable.congr rfl rfl rfl
  have hadd := BitVec.toNat_add m.usb.vars.usbTaskState 1#8
  have hone : (1#8).toNat = 1 := rfl
  have herr := toNat_error
  have hsize := m.usb.vars.usbTaskState.isLt
  have hknown : m.usb.vars.usbTaskState.toNat ≤ 0x40 ∨ m.usb.vars.usbTaskState.toNat = 255 :=
    h.state.imp id fun h => by rw [h, herr]
  have hle := hk.le
  have htmp := hk.tmpAddr
  refine ⟨k, htable, fun hlow hhigh => ?_, fun hhigh hne => ?_⟩
  · replace hlow : 0x21 < state.toNat := hlow
    replace hhigh : state.toNat < 0x30 := hhigh
    refine haddressing ?_ ?_ <;> rcases hstate with rfl | rfl | hstate <;> omega
  · replace hhigh : 0x30 ≤ state.toNat := hhigh
    show 1 ≤ k ∧ m.usb.vars.tmpAddr.toNat ≤ k
    by_cases hfrom : 0x30 ≤ m.usb.vars.usbTaskState.toNat
    · refine hconfigured hfrom ?_
      rintro herror
      rw [herror] at hstate
      rcases hstate with rfl | rfl | hstate
      · exact hne rfl
      · exact absurd hhigh (by decide)
      · omega
    · -- the state has come from the last of the addressing states, so the table is full
      have hfull : k = 7 := haddressing (by rcases hstate with rfl | rfl | hstate <;> omega)
        (by omega)
      omega

theorem tasks_sat (h : Inv m) (pins : UsbPins) :
    Sat OverrunOnly (fun v => Ready m v.vars) ((m.usb.max3421eTask env pins).usbTask env) := by
  obtain ⟨state, hvars, hstate⟩ :=
    Usb.max3421eTask_vars env m.usb pins
  obtain ⟨k, hk⟩ := h.moved hstate
  rw [← hvars] at hk
  refine (Usb.usbTask_sat hk).mono fun v hv => ?_
  rw [hvars] at hv
  have hadd := BitVec.toNat_add m.usb.vars.usbTaskState 1#8
  have hone : (1#8).toNat = 1 := rfl
  have herr := toNat_error
  have hrun := toNat_running
  have hsize := m.usb.vars.usbTaskState.isLt
  have hknown : m.usb.vars.usbTaskState.toNat ≤ 0x40 ∨ m.usb.vars.usbTaskState.toNat = 255 :=
    h.state.imp id fun h => by rw [h, herr]
  have hnow : (Usb.Moved m.usb.vars state).usbTaskState = state := rfl
  refine ⟨hv.enumerated, fun hdown => ?_, fun hup => ?_⟩
  · have hne : m.usb.vars.usbTaskState.toNat ≠ 64 := by
      intro heq
      rw [h.running.mpr (BitVec.eq_of_toNat_eq heq)] at hdown
      cases hdown
    rcases hv.state with hs | hs | hs
    · exact .inl hs
    · exact .inr hs
    · rw [hs, hnow]
      have hfrom : state.toNat ≤ 0x40 ∨ state.toNat = 255 := by
        rcases hstate with rfl | rfl | hstate <;> omega
      exact hfrom.imp id fun h => BitVec.eq_of_toNat_eq (h.trans herr.symm)
  · have heq := h.running.mp hup
    rcases hstate with rfl | rfl | hstate
    · refine .inl (hv.late ?_)
      rw [hnow, heq]
      decide
    · refine .inr (.inr ?_)
      rw [hv.late ?_, hnow, heq]
      · rfl
      · rw [hnow, heq]
        decide
    · exact .inr (.inl (hv.early hstate))

/-- A turn that asks nothing, or asks and is answered, outside the running state. -/
theorem Inv.of_down {u : Usb} {i : LoopIn} (hk : u.vars.Enumerated k 0)
    (hstate : u.vars.usbTaskState.toNat ≤ 0x40 ∨ u.vars.usbTaskState = usbStateError)
    (hrun : u.vars.usbTaskState ≠ usbStateRunning)
    (hflag : (m.main.iterate i).runningdebugflag = false) :
    Inv { usb := u, main := m.main.iterate i } := by
  refine ⟨⟨k, hk⟩, hstate, ⟨fun hup => ?_, fun hup => absurd hup hrun⟩, fun hup => ?_⟩
  · rw [hflag] at hup
    cases hup
  · rw [hflag] at hup
    cases hup

/-- A turn that finds the running state and knows the class. -/
theorem Inv.of_running {u : Usb} {i : LoopIn} (hk : u.vars.Enumerated k 0)
    (hrun : u.vars.usbTaskState = usbStateRunning) (hi : i.taskState = usbStateRunning)
    (hpolled : (m.main.iterate i).device = 1#8 ∨ (m.main.iterate i).device = 2#8 →
      u.vars.Polled (m.main.iterate i).device) :
    Inv { usb := u, main := m.main.iterate i } := by
  have hflag : (m.main.iterate i).runningdebugflag = true := by
    rw [MainState.iterate_flag, if_pos hi]
  have hstate : u.vars.usbTaskState.toNat ≤ 0x40 := by
    rw [hrun]
    decide
  exact ⟨⟨k, hk⟩, .inl hstate, iff_of_true hflag hrun, fun _ => hpolled⟩

/-- In a turn that has found the class before, what was true of it is true. -/
theorem Inv.of_polled {u : Usb} {i : LoopIn} (h : Inv m) (hk : u.vars.Enumerated k 0)
    (hrun : u.vars.usbTaskState = usbStateRunning) (hi : i.taskState = usbStateRunning)
    (hup : m.main.runningdebugflag = true) (hsame : u.vars = m.usb.vars) :
    Inv { usb := u, main := m.main.iterate i } := by
  have hdevice : (m.main.iterate i).device = m.main.device := by
    rw [MainState.iterate_device, if_neg]
    rintro ⟨-, hdown⟩
    rw [hup] at hdown
    cases hdown
  refine Inv.of_running hk hrun hi ?_
  rw [hdevice, hsame]
  exact h.polled hup

/-- **What `main` asks** leaves all in order. -/
theorem ask_sat {u : Usb} (h : Inv m) (hready : Ready m u.vars) :
    Sat OverrunOnly (fun r => Inv { usb := r.2, main := m.main.iterate r.1 })
      (u.ask env m.main) := by
  obtain ⟨k, hk⟩ := hready.enumerated
  unfold Usb.ask
  refine Sat.ite (fun hrun => ?_) fun hrun => ?_
  · have hconf : 0x30 ≤ u.vars.usbTaskState.toNat ∧ u.vars.usbTaskState ≠ usbStateError := by
      rw [hrun]
      decide
    obtain ⟨hpos, -⟩ := hk.configured hconf.1 hconf.2
    refine Sat.ite (fun hdown => ?_) fun hup => ?_
    · -- the class is found
      refine Sat.bind (Usb.getDriverandReport_sat hk.toTable hpos) ?_
      rintro ⟨device, v⟩ ⟨hdevice, hv⟩
      replace hdevice : device = (u.vars.devtable k).devclass := hdevice
      replace hv : v.vars = u.vars := hv
      have hfound : (m.main.iterate (v.learnt env u.vars.usbTaskState device 0#8)).device
          = (u.vars.devtable k).devclass := by
        rw [MainState.iterate_device, if_pos ⟨hrun, by simpa using hdown⟩]
        exact hdevice
      refine Inv.of_running (hv ▸ hk) (hv ▸ hrun) hrun fun hclass => ?_
      rw [hfound] at hclass ⊢
      show v.vars.Polled _
      rw [hv]
      refine Usb.polled_of_class hk.toTable hpos fun hzero => ?_
      rw [hzero] at hclass
      revert hclass
      decide
    · -- the class is known, and the table is as it was
      have hup' : m.main.runningdebugflag = true := by simpa using hup
      have hsame : u.vars = m.usb.vars := by
        have hrun64 : u.vars.usbTaskState.toNat = 64 := congrArg BitVec.toNat hrun
        rcases hready.up hup' with hsame | hlow | hhigh
        · exact hsame
        · omega
        · omega
      have hasked : ∀ (device : BitVec 8) (buf : Buffer), m.main.device = device →
          device = 1#8 ∨ device = 2#8 →
          Sat OverrunOnly (fun r => Inv { usb := r.2, main := m.main.iterate r.1 })
            (u.poll env buf >>= fun r =>
              pure (r.2.learnt env u.vars.usbTaskState 0#8 r.1, r.2)) := by
        intro device buf hdevice hclass
        have hpolled := h.polled hup' (hdevice ▸ hclass)
        rw [← hsame] at hpolled
        refine Sat.bind (Usb.poll_sat hk.toTable hpolled buf) ?_
        rintro ⟨rcode, v⟩ (hv : v.vars = u.vars)
        exact h.of_polled (hv ▸ hk) (hv ▸ hrun) hrun hup' (hv.trans hsame)
      refine Sat.ite (fun hdevice => hasked 1#8 kbdbuf hdevice (.inl rfl)) fun _ => ?_
      refine Sat.ite (fun hdevice => hasked 2#8 mousebuf hdevice (.inr rfl)) fun _ => ?_
      exact h.of_polled hk hrun hrun hup' hsame
  · refine Sat.ite (fun herror => ?_) fun herror => ?_
    · -- in error the flag is down
      have hdown : m.main.runningdebugflag = false := by
        by_contra hup
        have hs : u.vars.usbTaskState.toNat = 255 := congrArg BitVec.toNat herror
        rcases hready.up (by simpa using hup) with hsame | hlow | hhigh
        · rw [hsame] at hrun
          exact hrun (h.running.mp (by simpa using hup))
        · omega
        · omega
      refine Inv.of_down hk (hready.down hdown) hrun ?_
      rw [MainState.iterate_flag]
      exact (if_neg hrun).trans ((if_pos herror).trans hdown)
    · have hflag : ∀ i : LoopIn, i.taskState = u.vars.usbTaskState →
          (m.main.iterate i).runningdebugflag = false := by
        intro i hi
        rw [MainState.iterate_flag, hi, if_neg hrun, if_neg herror]
      refine Sat.ite (fun _ => ?_) fun hdown => ?_
      · -- all is cleared
        refine Sat.bind Usb.max3421eInit_sat ?_
        rintro v ⟨state, hv, hstate⟩
        have htmp : v.vars.tmpAddr.toNat ≤ 7 := by
          rw [hv]
          exact hk.tmpAddr
        have hhid : v.vars.hidAddr.toNat ≤ 7 := by
          rw [hv]
          exact hk.hidAddr
        have hnow : v.usbInit.vars.usbTaskState.toNat ≤ 0x13 := by
          show v.vars.usbTaskState.toNat ≤ 0x13
          rw [hv]
          exact hstate
        refine Inv.of_down ((UsbVars.usbInit_table v htmp hhid).enumerated (.inl ?_)) (.inl ?_) ?_
          (hflag _ rfl)
        · exact hnow.trans (by decide)
        · exact hnow.trans (by decide)
        · intro hrun'
          rw [hrun'] at hnow
          exact absurd hnow (by decide)
      · exact Inv.of_down hk (hready.down (by simpa using hdown)) hrun (hflag _ rfl)

/-- One turn. -/
theorem turn_sat (h : Inv m) (pins : UsbPins) : Sat OverrunOnly Inv (m.turn env pins) := by
  unfold turn
  refine Sat.bind (tasks_sat h pins) fun u hready => ?_
  exact Sat.bind (ask_sat h hready) fun _ hr => hr

theorem boot_sat (device : BitVec 8) : Sat OverrunOnly Inv (boot env device) := by
  unfold boot
  refine Sat.bind Usb.max3421eInit_sat ?_
  rintro v ⟨state, hv, hstate⟩
  have htmp : v.vars.tmpAddr.toNat ≤ 7 := by
    rw [hv]
    exact Nat.zero_le 7
  have hhid : v.vars.hidAddr.toNat ≤ 7 := by
    rw [hv]
    exact Nat.zero_le 7
  have hnow : v.usbInit.vars.usbTaskState.toNat ≤ 0x13 := by
    show v.vars.usbTaskState.toNat ≤ 0x13
    rw [hv]
    exact hstate
  have hrun : v.usbInit.vars.usbTaskState ≠ usbStateRunning := by
    intro hrun
    rw [hrun] at hnow
    exact absurd hnow (by decide)
  exact ⟨⟨0, (UsbVars.usbInit_table v htmp hhid).enumerated (.inl (hnow.trans (by decide)))⟩,
    .inl (hnow.trans (by decide)), ⟨nofun, fun h => absurd h hrun⟩, nofun⟩

/-! ## The run -/

variable (env) (device : BitVec 8) (pins : Nat → UsbPins) (n : Nat)

theorem run_sat : Sat OverrunOnly Inv (run env device pins n) := by
  unfold run
  exact Sat.bind (boot_sat device) fun m hm => Sat.run (fun m pins hm => turn_sat hm pins) hm n

/-- **All that can go wrong is a packet too long for its buffer.** -/
theorem run_overrunOnly :
    run env device pins n ≠ .fault .null ∧ run env device pins n ≠ .fault .range := by
  have hrun := run_sat env device pins n
  refine ⟨fun h => ?_, fun h => ?_⟩
  · cases hrun.of_fault h
  · cases hrun.of_fault h

variable {env device pins n}

/-- **What is polled** is what was found: a keyboard as a keyboard, a mouse as a mouse. -/
theorem run_polled (h : run env device pins n = .ret m)
    (hup : m.main.runningdebugflag = true) (hclass : m.main.device = 1#8 ∨ m.main.device = 2#8) :
    m.usb.vars.usbTaskState = usbStateRunning ∧ m.usb.vars.Polled m.main.device := by
  have hinv := (run_sat env device pins n).of_ret h
  exact ⟨hinv.running.mp hup, hinv.polled hup hclass⟩

/-- What a boot keyboard sends next: a report to a poll, or what was requested last. -/
def keyboardSends : List BusEvent → List (BitVec 8)
  | [] => []
  | .spi [0xf2, 0x01] 0 :: _ => [0, 0, 0x04, 0, 0, 0, 0, 0]
  | .spi [0x22, 0x80, 6, _, 1, _, _, n, _] 0 :: _ =>
    [18, 1, 0x10, 0x01, 0, 0, 0, 8, 0, 0, 0, 0, 0, 0, 0, 0, 0, 1].take n.toNat
  | .spi [0x22, 0x80, 6, _, 2, _, _, n, _] 0 :: _ =>
    ([9, 2, 25, 0, 1, 1, 0, 0xa0, 50] ++ [9, 4, 0, 0, 1, 3, 1, 1, 0]
      ++ [7, 5, 0x81, 3, 8, 0, 10]).take n.toNat
  | .spi [0x22, 0xa1, _, _, _, _, _, _, _] 0 :: _ => [0]
  | _ :: log => keyboardSends log

/-- A chip with a boot keyboard behind it, on which `A` is down. -/
def keyboard : Controller where
  reply
    | .spi [reg] _ :: log, k =>
      if reg = MaxReg.rHIRQ.byte then bmHXFRDNIRQ ||| bmRCVDAVIRQ
      else if reg = MaxReg.rHRSL.byte then bmJSTATUS
      else if reg = MaxReg.rUSBIRQ.byte then bmOSCOKIRQ
      else if reg = MaxReg.rRCVBC.byte then BitVec.ofNat 8 (keyboardSends log).length
      else if reg = MaxReg.rRCVFIFO.byte then (keyboardSends log).getD k 0
      else 0
    | _, _ => 0
  nticks := fun log => BitVec.ofNat 32 log.length
  ticksPerSecond := 1

/-- It is given 30 turns of every loop, and what has no value of its own is zero. -/
def keyboardEnv : UsbEnv :=
  { ctl := keyboard, turns := 30, junk := fun _ _ => 0, oddWord := fun _ _ => 0 }

/-- With it the program gets to its first report in nine turns. -/
theorem keyboard_found :
    ∃ m, run keyboardEnv 0 (fun _ => ⟨true, false⟩) 9 = .ret m ∧
      m.main.runningdebugflag = true ∧ m.main.device = 1#8 ∧ m.main.board.keycode = 0x04#8 := by
  have hrun : (run keyboardEnv 0 (fun _ => ⟨true, false⟩) 9).ret?.map
      (fun m => (m.main.runningdebugflag, m.main.device, m.main.board.keycode))
        = some (true, 1#8, 0x04#8) := by
    decide +kernel
  obtain ⟨m, hm, heq⟩ := Option.map_eq_some_iff.mp hrun
  simp only [Prod.mk.injEq] at heq
  exact ⟨m, Call.ret?_eq_some.mp hm, heq⟩

theorem keyboard_polled :
    ∃ m, run keyboardEnv 0 (fun _ => ⟨true, false⟩) 9 = .ret m ∧
      m.usb.vars.usbTaskState = usbStateRunning ∧ m.usb.vars.Polled m.main.device := by
  obtain ⟨m, hm, hup, hclass, -⟩ := keyboard_found
  exact ⟨m, hm, run_polled hm hup (.inl hclass)⟩

end UsbMain

end SpaceInvaders
