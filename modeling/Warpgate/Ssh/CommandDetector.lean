/-
This file models the recovery of shell commands from the bytes of a terminal, and shows that
what is typed and not echoed has no influence on it.
-/

import Warpgate.Basic
import Warpgate.Secrets.Reference

namespace Warpgate.Ssh.Commands

open Http (Text)
open Secrets (trim)

/-! ### The detector -/

/-- The terminal emulator: a screen is what the bytes fed to it so far make of it. -/
structure Vt100 where
  Screen : Type
  new (rows cols : Nat) : Screen
  process : Screen → List UInt8 → Screen
  setSize (screen : Screen) (rows cols : Nat) : Screen
  size : Screen → Nat × Nat
  alternateScreen : Screen → Bool
  cursorPosition : Screen → Nat × Nat
  rowWrapped : Screen → Nat → Bool
  -- `cell(row, col)` is there and `has_contents`
  hasContents (screen : Screen) (row col : Nat) : Bool
  contentsBetween (screen : Screen) (startRow startCol endRow endCol : Nat) : Text

def CR : UInt8 := 0x0d
def LF : UInt8 := 0x0a
def ETX : UInt8 := 0x03

def MAX_PENDING_OUTPUT : Nat := 2048
def RPROMPT_GAP : Nat := 8

inductive State
  | idle
  | output
  | editing (row col : Nat)
  | submitted (row col scanned : Nat)
  | discarding
  | discarded (scanned : Nat)
  deriving DecidableEq, Repr

structure CommandDetector (V : Vt100) where
  parser : V.Screen
  state : State

variable {V : Vt100}

/-- The sum is compared with a number of rows, so that saturation makes no difference. -/
def lastRow (screen : V.Screen) (rows row : Nat) : Nat :=
  if row + 1 < rows ∧ V.rowWrapped screen row then lastRow screen rows (row + 1) else row
termination_by rows - row

/-- The loop of `extract` over the columns of the last row. -/
def inputEnd (blank : Nat → Bool) : List Nat → Nat → Nat → Nat
  | [], _, seen => seen
  | c :: columns, blanks, seen =>
    let blanks := if blank c then blanks + 1 else 0
    if RPROMPT_GAP ≤ blanks then seen
    else inputEnd blank columns blanks (if blank c then seen else c + 1)

def isNewline (b : UInt8) : Bool := b == LF || b == CR

def saturatingAdd (scanned length : Nat) : Nat := min (scanned + length) 0xffffffffffffffff

namespace CommandDetector

def new (V : Vt100) (cols rows : Nat) : CommandDetector V :=
  let (cols, rows) := saneTerminalSize cols rows
  ⟨V.new rows cols, .idle⟩

variable (d : CommandDetector V)

def onResize (cols rows : Nat) : CommandDetector V :=
  let (cols, rows) := saneTerminalSize cols rows
  { parser := V.setSize d.parser rows cols
    state := match d.state with
      | .editing .. => .discarding
      | .submitted _ _ scanned => .discarded scanned
      | state => state }

def stepInput (b : UInt8) : CommandDetector V :=
  match d.state with
  | .editing row col =>
    if b == ETX then { d with state := .output }
    else if b == CR || b == LF then { d with state := .submitted row col 0 }
    else d
  | .discarding =>
    if b == ETX || b == CR || b == LF then { d with state := .discarded 0 } else d
  | _ => d

def onByte (b : UInt8) : CommandDetector V :=
  match d.state with
  | .idle | .submitted .. | .discarded _ => d
  | .output =>
    if V.alternateScreen d.parser then d
    else
      let (row, col) := V.cursorPosition d.parser
      { d with state := .editing row col }.stepInput b
  | .editing .. | .discarding => d.stepInput b

def onInput (data : List UInt8) : CommandDetector V := data.foldl onByte d

def extract (row col : Nat) : Option Text :=
  let (rows, cols) := V.size d.parser
  let last := lastRow d.parser rows row
  let start := if last = row then col else 0
  let found := inputEnd (fun c => !V.hasContents d.parser last c)
    (List.range' start (cols - start)) 0 start
  let (curRow, curCol) := V.cursorPosition d.parser
  let found := if curRow = last then max found curCol else found
  if found ≤ start then none
  else
    let trimmed := trim (V.contentsBetween d.parser row col last found)
    if trimmed.isEmpty then none else some trimmed

def process (data : List UInt8) : CommandDetector V :=
  { d with parser := V.process d.parser data }

def onOutput (data : List UInt8) : CommandDetector V × Option Text :=
  let d := if d.state = .idle then { d with state := .output } else d
  match d.state with
  | .discarded scanned =>
    let d := d.process data
    let scanned := saturatingAdd scanned data.length
    if data.any isNewline || V.alternateScreen d.parser || MAX_PENDING_OUTPUT ≤ scanned then
      ({ d with state := .output }, none)
    else ({ d with state := .discarded scanned }, none)
  | .submitted row col scanned =>
    match data.findIdx? isNewline with
    | some p =>
      -- everything before the first newline has been echoed when it comes
      let d := d.process (data.take p)
      ({ d.process (data.drop p) with state := .output }, d.extract row col)
    | none =>
      let d := d.process data
      let scanned := saturatingAdd scanned data.length
      if V.alternateScreen d.parser then ({ d with state := .output }, none)
      else if MAX_PENDING_OUTPUT ≤ scanned then
        ({ d with state := .output }, d.extract row col)
      else ({ d with state := .submitted row col scanned }, none)
  | _ => (d.process data, none)

end CommandDetector

inductive Event
  | input (data : List UInt8)
  | output (data : List UInt8)
  | resize (cols rows : Nat)

namespace CommandDetector

def step (d : CommandDetector V) : Event → CommandDetector V × Option Text
  | .input data => (d.onInput data, none)
  | .output data => d.onOutput data
  | .resize cols rows => (d.onResize cols rows, none)

/-- The commands that are emitted while the events happen one after the other. -/
def commands (d : CommandDetector V) : List Event → List Text
  | [] => []
  | event :: events => (d.step event).2.toList ++ (d.step event).1.commands events

end CommandDetector

/-! ### Typed text -/

/-- Two typed bytes are the same key, or neither is Enter or Ctrl-C. -/
def SameKey (b b' : UInt8) : Prop := (b = CR ↔ b' = CR) ∧ (b = LF ↔ b' = LF) ∧ (b = ETX ↔ b' = ETX)

instance (b b' : UInt8) : Decidable (SameKey b b') := by
  unfold SameKey
  infer_instance

/-- Two events differ at most in what is typed between the Enter and Ctrl-C keys. -/
inductive Event.Alike : Event → Event → Prop
  | input {data data' : List UInt8} :
      List.Forall₂ SameKey data data' → Alike (input data) (input data')
  | output (data : List UInt8) : Alike (output data) (output data)
  | resize (cols rows : Nat) : Alike (resize cols rows) (resize cols rows)

namespace CommandDetector

theorem stepInput_congr (d : CommandDetector V) {b b' : UInt8} (same : SameKey b b') :
    d.stepInput b = d.stepInput b' := by
  obtain ⟨cr, lf, etx⟩ := same
  simp only [stepInput, beq_iff_eq, Bool.or_eq_true, cr, lf, etx]

theorem onByte_congr (d : CommandDetector V) {b b' : UInt8} (same : SameKey b b') :
    d.onByte b = d.onByte b' := by
  grind [onByte, stepInput_congr]

theorem onInput_congr {data data' : List UInt8} (same : List.Forall₂ SameKey data data') :
    ∀ d : CommandDetector V, d.onInput data = d.onInput data' := by
  induction same with
  | nil => exact fun _ => rfl
  | cons key _ ih =>
    intro d
    simp only [onInput, List.foldl_cons, d.onByte_congr key]
    exact ih _

theorem step_congr (d : CommandDetector V) {event event' : Event} (alike : event.Alike event') :
    d.step event = d.step event' := by
  cases alike <;> grind [step, onInput_congr]

theorem commands_congr {events events' : List Event}
    (alike : List.Forall₂ Event.Alike events events') :
    ∀ d : CommandDetector V, d.commands events = d.commands events' := by
  induction alike with
  | nil => exact fun _ => rfl
  | cons same _ ih =>
    intro d
    simp only [commands, d.step_congr same, ih]

end CommandDetector

/-- What is typed reaches the recorded commands only through what the target echoes. -/
theorem typed_text_reaches_no_command (V : Vt100) (cols rows : Nat) (events events' : List Event)
    (alike : List.Forall₂ Event.Alike events events') :
    (CommandDetector.new V cols rows).commands events =
      (CommandDetector.new V cols rows).commands events' :=
  CommandDetector.commands_congr alike _

/-- A terminal of one line, which shows the bytes since the last line feed. -/
def oneLine : Vt100 where
  Screen := List UInt8
  new _ _ := []
  process line data := data.foldl
    (fun line b => if b = LF then [] else if b = CR then line else line ++ [b]) line
  setSize line _ _ := line
  size _ := (1, 80)
  alternateScreen _ := false
  cursorPosition line := (0, line.length)
  rowWrapped _ _ := false
  hasContents line _ col := decide (col < line.length)
  contentsBetween line _ startCol _ endCol :=
    ((line.take endCol).drop startCol).map fun b => Char.ofNat b.toNat

/-- A command that is echoed, and then a password that is not. -/
def askedForPassword (password : List UInt8) : List Event :=
  [.output [36, 32], .input [108, 115], .output [108, 115], .input [CR], .output [CR, LF],
    .output [80, 58, 32], .input password, .output [CR, LF]]

theorem passwords_leave_the_same_commands :
    (CommandDetector.new oneLine 80 24).commands (askedForPassword [97, 98, CR]) = [['l', 's']] ∧
      (CommandDetector.new oneLine 80 24).commands (askedForPassword [97, 98, CR]) =
        (CommandDetector.new oneLine 80 24).commands (askedForPassword [120, 121, CR]) := by
  refine ⟨by decide +kernel, typed_text_reaches_no_command _ _ _ _ _ ?_⟩
  have same : ∀ data : List UInt8, List.Forall₂ SameKey data data :=
    fun _ => List.forall₂_same.mpr fun _ _ => ⟨.rfl, .rfl, .rfl⟩
  refine .cons (.output _) (.cons (.input (same _)) (.cons (.output _) (.cons (.input (same _))
    (.cons (.output _) (.cons (.output _) (.cons (.input ?_) (.cons (.output _) .nil)))))))
  exact .cons (by decide) (.cons (by decide) (same _))

/-- The bytes the user types. -/
def Event.typed : Event → List UInt8
  | .input data => data
  | .output _ | .resize _ _ => []

/-- A line that was submitted and is still awaited. -/
def State.owed : State → Nat
  | .submitted .. => 1
  | _ => 0

namespace CommandDetector

theorem owed_onByte (d : CommandDetector V) (b : UInt8) :
    (d.onByte b).state.owed ≤ d.state.owed + if isNewline b then 1 else 0 := by
  obtain ⟨parser, state⟩ := d
  cases state <;> grind [onByte, stepInput, isNewline, State.owed]

theorem owed_onInput (data : List UInt8) (d : CommandDetector V) :
    (d.onInput data).state.owed ≤ d.state.owed + data.countP isNewline := by
  induction data generalizing d with
  | nil => exact Nat.le_refl _
  | cons b data ih =>
    have first := d.owed_onByte b
    have rest := ih (d.onByte b)
    rw [List.countP_cons]
    simp only [onInput, List.foldl_cons] at rest ⊢
    omega

theorem owed_step (d : CommandDetector V) (event : Event) :
    (d.step event).2.toList.length + (d.step event).1.state.owed ≤
      d.state.owed + event.typed.countP isNewline := by
  cases event with
  | input data => simpa [step, Event.typed] using d.owed_onInput data
  | resize cols rows =>
    simp only [step, onResize]
    cases d.state <;> simp [State.owed]
  | output data =>
    have atMost (line : Option Text) : line.toList.length ≤ 1 := by cases line <;> simp
    obtain ⟨parser, state⟩ := d
    cases state <;> grind [step, onOutput, process, State.owed]

end CommandDetector

/-- In every run of the detector, a command is recorded at most for each Enter that was typed. -/
theorem commands_are_submitted (V : Vt100) (cols rows : Nat) (events : List Event) :
    ((CommandDetector.new V cols rows).commands events).length ≤
      (events.flatMap Event.typed).countP isNewline := by
  have paid : ∀ d : CommandDetector V,
      (d.commands events).length ≤
        d.state.owed + (events.flatMap Event.typed).countP isNewline := by
    induction events with
    | nil => exact fun _ => Nat.zero_le _
    | cons event events ih =>
      intro d
      have first := d.owed_step event
      have rest := ih (d.step event).1
      rw [CommandDetector.commands, List.length_append, List.flatMap_cons, List.countP_append]
      omega
  simpa [CommandDetector.new, State.owed] using paid (.new V cols rows)

end Warpgate.Ssh.Commands
