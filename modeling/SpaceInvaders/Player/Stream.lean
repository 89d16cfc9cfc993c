import SpaceInvaders.Clocked.Streamer
import SpaceInvaders.Player.Sprite

/-!
# The ship is streamed word by word

The sprite is a streamer over 36 by 40 words (`view_step`): in `AWAIT_POS`, `DRAW`
and `NEXT_LINE` it is a row scanner, and `read_address` is the scanner's address
(`aligned_run`). The memory answers one cycle later, in the cycle in which the flag
is up, so a pass that no reset interrupts shows the words of the memory in order,
each once (`streams`).

The flag alone has a way out: an edge with `Reset` high clears it even in `DRAW`.
-/

namespace SpaceInvaders

open Clocked (run run_succ Scanner ScanPhase Streamer StreamPhase Streams
  StreamPass emitted script)

namespace PlayerSprite

/-- The three states in which the counters are in use. -/
def InPass (s : PlayerSprite) : Prop :=
  s.state = .draw ∨ s.state = .nextLine ∨ s.state = .awaitPos

instance (s : PlayerSprite) : Decidable s.InPass := inferInstanceAs (Decidable (_ ∨ _))

def phase (s : SpriteState) : ScanPhase :=
  match s with
  | .draw => .draw
  | .nextLine => .next
  | _ => .await

/-- The sprite as a row scanner. -/
def scanner (s : PlayerSprite) : Scanner :=
  { phase := phase s.state, x := s.playerXPos.toNat, y := s.playerYPos.toNat }

/-- The counters are inside the sprite, and `read_address` is their address. -/
def Aligned (s : PlayerSprite) : Prop :=
  s.InPass → s.scanner.InBox playerWidth playerHeight ∧
    s.readAddress.toNat = s.scanner.address playerWidth

def streamPhase : SpriteState → StreamPhase
  | .idle => .rest
  | .start => .clear
  | .awaitPos => .scan .await
  | .draw => .scan .draw
  | .nextLine => .scan .next

/-- The sprite as a streamer. -/
def view (s : PlayerSprite) : Streamer :=
  { phase := streamPhase s.state, x := s.playerXPos.toNat, y := s.playerYPos.toNat,
    address := s.readAddress.toNat }

section Step

variable {mem : BitVec 19 → BitVec 24} {s : PlayerSprite} {i : SpriteIn}

theorem phase_draw_iff : s.scanner.phase = .draw ↔ s.state = .draw := by
  cases hs : s.state <;> simp [scanner, phase, hs]

/-- An edge into a state of a pass has `Reset` low. -/
theorem reset_of_inPass (hin' : (s.clk mem i).InPass) : i.reset = false := by
  cases hr : i.reset with
  | false => rfl
  | true => simp [InPass, clk_state, hr] at hin'

/-- Where `DRAW` goes, in terms of the counters. -/
theorem nextState_draw (hs : s.state = .draw) : s.nextState i =
    if s.playerXPos.toNat + 1 ≠ playerWidth then .draw
    else if s.playerYPos.toNat + 1 ≠ playerHeight then .nextLine
    else .idle := by
  have hpixel : s.lastPixel = true ↔ s.playerXPos.toNat + 1 = playerWidth := by
    unfold lastPixel playerWidth
    rw [beq_iff_eq]
    omega
  have hline : s.lastLine = true ↔ s.playerYPos.toNat + 1 = playerHeight := by
    unfold lastLine playerHeight
    rw [beq_iff_eq]
    omega
  simp only [nextState, hs, Bool.not_eq_true', ← Bool.not_eq_true, hpixel, hline]

theorem streamPhase_rest_iff {state : SpriteState} :
    streamPhase state = .rest ↔ state = .idle := by
  cases state <;> simp [streamPhase]

@[simp] theorem view_scanner (s : PlayerSprite) : s.view.scanner = s.scanner := by
  cases hs : s.state <;> simp [Streamer.scanner, view, streamPhase, scanner, phase, hs]

/-- Aligned as a streamer, aligned as a sprite. -/
theorem aligned_of_view (h : s.view.Aligned playerWidth playerHeight) : s.Aligned := by
  intro hin
  have hphase : ∃ p, s.view.phase = .scan p := by
    rcases hin with hs | hs | hs
    · exact ⟨_, congrArg streamPhase hs⟩
    · exact ⟨_, congrArg streamPhase hs⟩
    · exact ⟨_, congrArg streamPhase hs⟩
  obtain ⟨p, hp⟩ := hphase
  have halign := h p hp
  rw [view_scanner] at halign
  exact halign

/-- **Without a reset every edge is a step of the streamer.** -/
theorem view_step (hr : i.reset = false) (ha : s.view.Aligned playerWidth playerHeight) :
    Streamer.Step playerWidth playerHeight s.view (s.clk mem i).view := by
  have hstate : (s.clk mem i).state = s.nextState i := by
    rw [clk_state, hr]
    rfl
  have hx := clk_playerXPos mem s i hr
  have hy := clk_playerYPos mem s i hr
  have hra := clk_readAddress mem s i hr
  -- the registers are wide enough
  have hcolumns : playerWidth < 2 ^ 10 := by decide
  have hrows : playerHeight ≤ 2 ^ 10 := by decide
  have hwords : playerWidth * playerHeight < 2 ^ 19 := by decide
  have hphase : s.view.phase = streamPhase s.state := rfl
  have hphase' : (s.clk mem i).view.phase = streamPhase (s.nextState i) :=
    congrArg streamPhase hstate
  cases hs : s.state with
  | idle =>
    simp only [nextState, hs] at hphase hphase'
    split_ifs at hphase'
    · exact .start hphase hphase'
    · exact .stay hphase hphase'
  | start =>
    simp only [nextState, hs] at hy hra hphase hphase'
    exact .clear hphase hphase' (congrArg BitVec.toNat hy) (congrArg BitVec.toNat hra)
  | awaitPos =>
    simp only [nextState, hs] at hx hy hra hphase hphase'
    refine Streamer.step_await hphase ?_ (congrArg BitVec.toNat hx)
      (congrArg BitVec.toNat hy) (congrArg BitVec.toNat hra)
    split_ifs at hphase'
    · exact Or.inr hphase'
    · exact Or.inl hphase'
  | draw =>
    rw [nextState_draw hs, apply_ite streamPhase, apply_ite streamPhase] at hphase'
    simp only [hs] at hx hy hra hphase
    refine Streamer.step_draw hphase ha hcolumns hwords hphase' ?_ (congrArg BitVec.toNat hy)
      ?_
    · exact (congrArg BitVec.toNat hx).trans (BitVec.toNat_add ..)
    · exact (congrArg BitVec.toNat hra).trans (BitVec.toNat_add ..)
  | nextLine =>
    simp only [nextState, hs] at hx hy hra hphase hphase'
    refine Streamer.step_next hphase ha hrows hphase' (congrArg BitVec.toNat hx) ?_
      (congrArg BitVec.toNat hra)
    exact (congrArg BitVec.toNat hy).trans (BitVec.toNat_add ..)

end Step

/-! ## Runs -/

variable (mem : BitVec 19 → BitVec 24) (s₀ : PlayerSprite) (inp : Nat → SpriteIn)

/-- The segment from edge `a` to edge `b` goes from `START` to the next `IDLE`
without a reset. -/
structure SpritePass (a b : Nat) : Prop where
  starts : (run (clk mem) s₀ inp a).state = .start
  lt : a < b
  inside : ∀ v, a ≤ v → v < b →
    (inp v).reset = false ∧ (run (clk mem) s₀ inp v).state ≠ .idle
  ends : (run (clk mem) s₀ inp b).state = .idle

/-- The colours shown for the `DRAW` cycles from `a` to `b`, each in the cycle
after its own. -/
def streamed (a b : Nat) : List (BitVec 24) :=
  emitted (fun v => (run (clk mem) s₀ inp v).state == .draw)
    (fun v => (run (clk mem) s₀ inp (v + 1)).playerColor) a b

/-- The word at `k`. -/
def word (k : Nat) : BitVec 24 := mem (BitVec.ofNat 19 k)

/-- `read_address` is the address of the counters. -/
def Addressed (t : Nat) : Prop :=
  (run (clk mem) s₀ inp t).readAddress.toNat
      = playerWidth * (run (clk mem) s₀ inp t).playerYPos.toNat
        + (run (clk mem) s₀ inp t).playerXPos.toNat ∧
    (run (clk mem) s₀ inp t).readAddress.toNat < 1440

/-- In the cycle after `t` the memory's word for the counters of `t` is out. -/
def Coloured (t : Nat) : Prop :=
  (run (clk mem) s₀ inp (t + 1)).playerColor
    = word mem (playerWidth * (run (clk mem) s₀ inp t).playerYPos.toNat
        + (run (clk mem) s₀ inp t).playerXPos.toNat)

/-- The sprite is streamed word by word. The flag is up in the cycle after a
`DRAW` cycle if that cycle `lit` it. -/
structure StreamsIf (lit : Nat → Prop) : Prop where
  addressed : ∀ t, (run (clk mem) s₀ inp t).state = .draw → Addressed mem s₀ inp t
  coloured : ∀ t, (run (clk mem) s₀ inp t).state = .draw → Coloured mem s₀ inp t
  shown : ∀ t, (run (clk mem) s₀ inp t).state = .draw → lit t →
    (run (clk mem) s₀ inp (t + 1)).playerOn = true
  passes : ∀ a b, SpritePass mem s₀ inp a b →
    streamed mem s₀ inp a b = (List.range 1440).map (word mem)

variable {mem s₀ inp}

theorem view_streams (h0 : s₀.state = .idle) :
    Streams playerWidth playerHeight (fun t => (run (clk mem) s₀ inp t).view)
      (fun t => (inp t).reset = true) where
  width := by decide
  height := by decide
  init := congrArg streamPhase h0
  step := by
    intro t hr ha
    rw [run_succ]
    exact view_step (Bool.eq_false_iff.mpr hr) ha
  toRest := by
    intro t hr
    refine streamPhase_rest_iff.mpr ?_
    rw [run_succ, clk_state, hr]
    rfl

theorem aligned_run (h0 : s₀.state = .idle) (t : Nat) :
    (run (clk mem) s₀ inp t).Aligned :=
  aligned_of_view ((view_streams h0).aligned t)

theorem addressed_of_draw (h0 : s₀.state = .idle) {t : Nat}
    (hs : (run (clk mem) s₀ inp t).state = .draw) : Addressed mem s₀ inp t := by
  have haligned : (run (clk mem) s₀ inp t).Aligned := aligned_run h0 t
  obtain ⟨hbox, haddr⟩ := haligned (Or.inl hs)
  have hlt := Scanner.address_lt hbox (phase_draw_iff.mpr hs)
  refine ⟨?_, haddr ▸ hlt⟩
  rw [haddr]
  simp only [scanner, phase, hs, Scanner.address]

theorem coloured_of_draw (h0 : s₀.state = .idle) {t : Nat}
    (hs : (run (clk mem) s₀ inp t).state = .draw) : Coloured mem s₀ inp t := by
  obtain ⟨haddr, _⟩ := addressed_of_draw h0 hs
  unfold Coloured word
  rw [run_succ, clk_playerColor, ← haddr, BitVec.ofNat_toNat, BitVec.setWidth_eq]

theorem drawsAt_eq :
    Scanner.drawsAt (fun v => (run (clk mem) s₀ inp v).scanner)
      = fun v => (run (clk mem) s₀ inp v).state == .draw :=
  Scanner.drawsAt_eq_of fun _ => phase_draw_iff

section Pass

variable {a b : Nat}

/-- **A pass of the sprite is a pass of the row scanner.** -/
theorem SpritePass.scannerPass (h0 : s₀.state = .idle) (h : SpritePass mem s₀ inp a b) :
    Scanner.Pass playerWidth playerHeight (fun v => (run (clk mem) s₀ inp v).scanner)
      (a + 1) b := by
  have hpass : StreamPass (fun t => (run (clk mem) s₀ inp t).view)
      (fun t => (inp t).reset = true) a b := by
    refine ⟨congrArg streamPhase h.starts, h.lt, fun v hav hvb => ?_,
      congrArg streamPhase h.ends⟩
    obtain ⟨hr, hidle⟩ := h.inside v hav hvb
    exact ⟨Bool.eq_false_iff.mp hr, fun hrest => hidle (streamPhase_rest_iff.mp hrest)⟩
  have hscan := hpass.scannerPass (view_streams h0)
  simp only [view_scanner] at hscan
  exact hscan

/-- A pass shows the memory's words in order. -/
theorem SpritePass.streamed_eq (h0 : s₀.state = .idle) (h : SpritePass mem s₀ inp a b) :
    streamed mem s₀ inp a b = (List.range 1440).map (word mem) := by
  have hpass := h.scannerPass h0
  have hskip : ((run (clk mem) s₀ inp a).state == .draw) = false := by rw [h.starts]; rfl
  unfold streamed
  -- the `START` cycle itself draws nothing
  rw [Clocked.emitted_skip _ _ h.lt hskip, ← drawsAt_eq,
    show 1440 = playerWidth * playerHeight from rfl, ← hpass.addresses (by decide)]
  refine Clocked.emitted_eq_map _ fun v hav hvb hdraw => ?_
  have hs : (run (clk mem) s₀ inp v).state = .draw := by
    refine phase_draw_iff.mp ?_
    simpa [Scanner.drawsAt] using hdraw
  show _ = word mem ((run (clk mem) s₀ inp v).scanner.address playerWidth)
  rw [coloured_of_draw h0 hs]
  simp only [scanner, phase, hs, Scanner.address]

end Pass

/-- **The ship is streamed word by word**; the flag shows each word whose cycle has
`Reset` low. -/
theorem streams (h0 : s₀.state = .idle) :
    StreamsIf mem s₀ inp (fun t => (inp t).reset = false) where
  addressed := fun _ hs => addressed_of_draw h0 hs
  coloured := fun _ hs => coloured_of_draw h0 hs
  shown := by
    intro t hs hr
    rw [run_succ, clk_playerOn, hr, hs]
    rfl
  passes := fun _ _ h => h.streamed_eq h0

/-- The scan meets the ship in the centre and comes to the left border in the line below;
`Reset` in the first word. -/
def resetInRow : Nat → SpriteIn :=
  let at320 (reset : Bool) (drawX drawY : BitVec 10) : SpriteIn :=
    { reset, drawX, drawY, playerStartX := 320#10, playerStartY := 420#10 }
  script [at320 false 320 420, at320 false 321 420, at320 false 0 421, at320 true 1 421]
    (at320 false 2 421)

theorem resetInRow_streams :
    StreamsIf (fun _ => 0) powerUp resetInRow (fun t => (resetInRow t).reset = false) :=
  streams rfl

/-- The reset clears the flag in the cycle after a `DRAW` cycle. -/
theorem resetInRow_dark : ¬ StreamsIf (fun _ => 0) powerUp resetInRow (fun _ => True) := by
  intro h
  exact absurd (h.shown 3 (by decide) trivial) (by decide)

end PlayerSprite

end SpaceInvaders
