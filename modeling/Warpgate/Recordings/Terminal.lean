/-
This file models the recorder of a terminal, which keeps an index of the places its recording
can be opened at, and is about what stands at these places.
-/

import Warpgate.Basic

namespace Warpgate.Recordings

open List

def MAX_GOP_BYTES : Nat := 256000

/-! ### The recorder -/

inductive StreamId
  | input
  | output
  | error
  deriving DecidableEq, Repr

inductive Item (Time : Type)
  | snapshot (time : Time) (snapshot : List UInt8)
  | data (time : Time) (stream : StreamId) (data : List UInt8)
  | ptyResize (time : Time) (cols rows : Nat)
  deriving DecidableEq, Repr

inductive IndexEntry (Time : Type)
  | keyframe (time : Time) (offset : Nat)
  | resize (time : Time) (cols rows : Nat)
  | finish (time : Time)
  deriving DecidableEq, Repr

/-- What the recorder stands on: the terminal emulator, the clock and the JSON of an item. -/
structure Terminal where
  Screen : Type
  Time : Type
  new (cols rows : Nat) : Screen
  feed : Screen → List UInt8 → Screen
  resize (screen : Screen) (cols rows : Nat) : Screen
  snapshot : Screen → List UInt8
  zero : Time
  max : Time → Time → Time
  -- `time - last_keyframe_time >= MAX_GOP_SECONDS`
  isGopOver (time lastKeyframeTime : Time) : Bool
  json : Item Time → List UInt8

variable {T : Terminal}

/-- The two files of a recording, `data.ndjson` and its index, line by line. -/
structure Files (T : Terminal) where
  data : List (Item T.Time)
  index : List (IndexEntry T.Time)

structure RecorderState (T : Terminal) where
  screen : T.Screen := T.new 80 24
  offset : Nat := 0
  bytesSinceKeyframe : Nat := 0
  lastKeyframeTime : T.Time := T.zero
  duration : T.Time := T.zero
  pty : Bool := false

structure TerminalRecorder (T : Terminal) where
  files : Files T
  state : RecorderState T

/-- What `write_json_line` returns, the newline counted. -/
def lineLength (item : Item T.Time) : Nat := (T.json item).length + 1

namespace TerminalRecorder

variable (r : TerminalRecorder T)

def writeIndexItem (entry : IndexEntry T.Time) : TerminalRecorder T :=
  { r with files := { r.files with index := r.files.index ++ [entry] } }

/-- The files are opened for appending, whatever is in them. -/
def new (files : Files T) : TerminalRecorder T :=
  writeIndexItem ⟨files, {}⟩ (.keyframe T.zero 0)

def writeDataItem (item : Item T.Time) : TerminalRecorder T :=
  { files := { r.files with data := r.files.data ++ [item] }
    state := { r.state with
      offset := r.state.offset + lineLength item
      bytesSinceKeyframe := r.state.bytesSinceKeyframe + lineLength item } }

def writeKeyframe (time : T.Time) : TerminalRecorder T :=
  if !r.state.pty then r
  else
    let offset := r.state.offset
    let r := r.writeDataItem (.snapshot time (T.snapshot r.state.screen))
    let r := { r with
      state := { r.state with bytesSinceKeyframe := 0, lastKeyframeTime := time } }
    r.writeIndexItem (.keyframe time offset)

def maybeKeyframe (time : T.Time) : TerminalRecorder T :=
  if MAX_GOP_BYTES ≤ r.state.bytesSinceKeyframe || T.isGopOver time r.state.lastKeyframeTime then
    r.writeKeyframe time
  else r

def write (time : T.Time) (stream : StreamId) (data : List UInt8) : TerminalRecorder T :=
  let screen := if stream ≠ .input then T.feed r.state.screen data else r.state.screen
  let r := { r with
    state := { r.state with duration := T.max r.state.duration time, screen := screen } }
  (r.writeDataItem (.data time stream data)).maybeKeyframe time

def writePtyResize (time : T.Time) (cols rows : Nat) : TerminalRecorder T :=
  let (cols, rows) := saneTerminalSize (min cols 65535) (min rows 65535)
  let r := { r with
    state := { r.state with
      duration := T.max r.state.duration time
      pty := true
      screen := T.resize r.state.screen cols rows } }
  ((r.writeDataItem (.ptyResize time cols rows)).writeIndexItem
    (.resize time cols rows)).writeKeyframe time

def drop : Files T := (r.writeIndexItem (.finish r.state.duration)).files

end TerminalRecorder

inductive Event (Time : Type)
  | write (time : Time) (stream : StreamId) (data : List UInt8)
  | ptyResize (time : Time) (cols rows : Nat)

def TerminalRecorder.step (r : TerminalRecorder T) : Event T.Time → TerminalRecorder T
  | .write time stream data => r.write time stream data
  | .ptyResize time cols rows => r.writePtyResize time cols rows

/-- The recording is started, the events are written and the recorder is dropped. -/
def record (files : Files T) (events : List (Event T.Time)) : Files T :=
  (events.foldl TerminalRecorder.step (.new files)).drop

/-! ### Playing a recording -/

/-- Opens a file at a byte, which has to be the first of a line or the end of the file. -/
def openAt : List (Item T.Time) → Nat → Option (List (Item T.Time))
  | items, 0 => some items
  | [], _ + 1 => none
  | item :: items, offset =>
    if lineLength item ≤ offset then openAt items (offset - lineLength item) else none

/-- What the player does with an item; snapshots on the way are skipped. -/
def apply (screen : T.Screen) : Item T.Time → T.Screen
  | .snapshot .. => screen
  | .data _ stream data => if stream ≠ .input then T.feed screen data else screen
  | .ptyResize _ cols rows => T.resize screen cols rows

/-- Plays the lines from a place in the file on, on a terminal of the size in effect there. -/
def replay (size : Option (Nat × Nat)) : List (Item T.Time) → T.Screen
  | .snapshot _ bytes :: items =>
    items.foldl apply (T.feed (T.new (size.getD (80, 24)).1 (size.getD (80, 24)).2) bytes)
  | items => items.foldl apply (T.new (size.getD (80, 24)).1 (size.getD (80, 24)).2)

/-- The size in effect after some lines of the index. -/
def sizeAfter (index : List (IndexEntry T.Time)) : Option (Nat × Nat) :=
  index.foldl (fun size entry => match entry with
    | .resize _ cols rows => some (cols, rows)
    | _ => size) none

/-- The bytes of its snapshot, fed to a new terminal of the size, restore a screen. -/
def Restores (size : Option (Nat × Nat)) (screen : T.Screen) : Prop :=
  T.feed (T.new (size.getD (80, 24)).1 (size.getD (80, 24)).2) (T.snapshot screen) = screen

/-- The place that the index has in its `i`-th line is that of the keyframe's own line (or the
beginning, for the line that is written at the start), and playing from there on shows what
playing from the beginning shows if the screen of the keyframe is restored. -/
def Anchored (files : Files T) (i : Nat) (time : T.Time) (offset : Nat) : Prop :=
  ∃ before after, files.data = before ++ after ∧ openAt files.data offset = some after ∧
    (i = 0 ∧ before = [] ∨ ∃ bytes rest, after = .snapshot time bytes :: rest) ∧
    (before = [] ∨ Restores (sizeAfter (files.index.take i)) (replay none before) →
      replay (sizeAfter (files.index.take i)) after = replay none files.data)

variable {offset : Nat}

theorem openAt_append {items after : List (Item T.Time)}
    (opened : openAt items offset = some after) (item : Item T.Time) :
    openAt (items ++ [item]) offset = some (after ++ [item]) := by
  fun_induction openAt items offset with
  | case1 items => cases opened; simp [openAt]
  | case2 => cases opened
  | case3 head items offset _ le ih =>
    rw [cons_append, openAt, if_pos le, ih opened]
    assumption
  | case4 => cases opened

theorem openAt_next {items after : List (Item T.Time)} {item : Item T.Time}
    (opened : openAt items offset = some (item :: after)) :
    openAt items (offset + lineLength item) = some after := by
  fun_induction openAt items offset with
  | case1 items =>
    cases opened
    simp [openAt, lineLength]
  | case2 => cases opened
  | case3 head items offset _ le ih => grind [openAt]
  | case4 => cases opened

theorem replay_append (size : Option (Nat × Nat)) {items : List (Item T.Time)} {item : Item T.Time}
    (played : items ≠ [] ∨ ∀ time bytes, item ≠ .snapshot time bytes) :
    replay size (items ++ [item]) = apply (replay size items) item := by
  cases items with
  | nil =>
    cases item with
    | snapshot time bytes => exact absurd rfl (played.resolve_left (· rfl) time bytes)
    | _ => rfl
  | cons head items => cases head <;> simp [replay]

/-! ### Where a recorder stands -/

/-- The recorder counts the bytes of the file, and its screen is what the file shows. -/
structure Tracks (files : Files T) (screen : T.Screen) (offset : Nat) : Prop where
  offset : openAt files.data offset = some []
  screen : screen = replay none files.data
  anchored : ∀ i time offset, files.index[i]? = some (.keyframe time offset) →
    Anchored files i time offset

namespace Tracks

variable {files : Files T} {screen : T.Screen}

theorem item (tracks : Tracks files screen offset) (item : Item T.Time)
    (played : files.data ≠ [] ∨ ∀ time bytes, item ≠ .snapshot time bytes) :
    Tracks { files with data := files.data ++ [item] } (apply screen item)
      (offset + lineLength item) where
  offset := openAt_next (openAt_append tracks.offset item)
  screen := by rw [tracks.screen, replay_append none played]
  anchored i time offset entry := by
    obtain ⟨before, after, split, opened, place, shown⟩ := tracks.anchored i time offset entry
    refine ⟨before, after ++ [item], by rw [split, append_assoc], openAt_append opened item, ?_,
      fun restores => ?_⟩
    · grind
    · grind [replay_append]

theorem entry (tracks : Tracks files screen offset) (entry : IndexEntry T.Time)
    (anchor : ∀ time place, entry = .keyframe time place →
      Anchored ⟨files.data, files.index ++ [entry]⟩ files.index.length time place) :
    Tracks { files with index := files.index ++ [entry] } screen offset where
  offset := tracks.offset
  screen := tracks.screen
  anchored i time place found := by
    rcases Nat.lt_or_ge i files.index.length with lt | ge
    · rw [getElem?_append_left lt] at found
      rw [Anchored, take_append_of_le_length (Nat.le_of_lt lt)]
      exact tracks.anchored i time place found
    · grind

theorem keyframe (tracks : Tracks files screen offset) (started : files.data ≠ [])
    (time : T.Time) :
    Tracks ⟨files.data ++ [.snapshot time (T.snapshot screen)],
        files.index ++ [.keyframe time offset]⟩ screen
      (offset + lineLength (.snapshot time (T.snapshot screen))) := by
  refine (tracks.item (.snapshot time (T.snapshot screen)) (.inl started)).entry _
    fun time' place eq => ?_
  cases eq
  refine ⟨files.data, [.snapshot time (T.snapshot screen)], rfl, openAt_append tracks.offset _,
    .inr ⟨_, _, rfl⟩, fun restores => ?_⟩
  rw [← tracks.screen] at restores
  rw [replay_append none (.inl started), ← tracks.screen]
  exact restores.resolve_left started

end Tracks

namespace TerminalRecorder

structure Sound (r : TerminalRecorder T) : Prop where
  tracks : Tracks r.files r.state.screen r.state.offset
  started : r.state.pty → r.files.data ≠ []

theorem sound_new : (new (⟨[], []⟩ : Files T)).Sound where
  tracks := {
    offset := rfl
    screen := rfl
    anchored i time place found := by
      rcases i with _ | i
      · cases found
        exact ⟨[], [], rfl, rfl, .inl ⟨rfl, rfl⟩, fun _ => rfl⟩
      · cases found }
  started pty := by cases pty

variable {r : TerminalRecorder T}

theorem Sound.writeKeyframe (sound : r.Sound) (time : T.Time) : (r.writeKeyframe time).Sound := by
  unfold TerminalRecorder.writeKeyframe
  cases pty : r.state.pty
  · exact sound
  · exact ⟨sound.tracks.keyframe (sound.started pty) time, fun _ => by
      simp [writeDataItem, writeIndexItem]⟩

theorem Sound.maybeKeyframe (sound : r.Sound) (time : T.Time) : (r.maybeKeyframe time).Sound := by
  unfold TerminalRecorder.maybeKeyframe
  split
  · exact sound.writeKeyframe time
  · exact sound

theorem Sound.write (sound : r.Sound) (time : T.Time) (stream : StreamId) (data : List UInt8) :
    (r.write time stream data).Sound :=
  Sound.maybeKeyframe ⟨sound.tracks.item (.data time stream data) (.inr nofun), fun _ => by
    simp [writeDataItem]⟩ time

theorem Sound.writePtyResize (sound : r.Sound) (time : T.Time) (cols rows : Nat) :
    (r.writePtyResize time cols rows).Sound :=
  Sound.writeKeyframe
    ⟨(sound.tracks.item (.ptyResize time _ _) (.inr nofun)).entry (.resize time _ _) nofun,
      fun _ => by simp [writeDataItem, writeIndexItem]⟩ time

theorem Sound.run (events : List (Event T.Time)) :
    ∀ {r : TerminalRecorder T}, r.Sound → (events.foldl step r).Sound := by
  induction events with
  | nil => exact id
  | cons event events ih =>
    intro r sound
    refine ih ?_
    cases event with
    | write time stream data => exact sound.write time stream data
    | ptyResize time cols rows => exact sound.writePtyResize time cols rows

end TerminalRecorder

/-- A recording that is started once can be opened at every place its index has, and shows there
what it shows from the beginning at every keyframe whose screen its snapshot restores. -/
theorem recording_started_once_is_anchored (events : List (Event T.Time))
    (i : Nat) (time : T.Time) (offset : Nat)
    (found : (record ⟨[], []⟩ events).index[i]? = some (.keyframe time offset)) :
    Anchored (record ⟨[], []⟩ events) i time offset :=
  ((TerminalRecorder.sound_new.run events).tracks.entry (.finish _) nofun).anchored
    i time offset found

/-- A terminal that shows every byte it was fed. Byte 1 opens an alternate screen and byte 2 closes
it; the snapshot leaves out the main screen under an alternate one. -/
abbrev tape : Terminal where
  Screen := List UInt8 × Option (List UInt8)
  Time := Nat
  new _ _ := ([], none)
  feed screen data := data.foldl (fun
    | (main, _), 1 => (main, some [])
    | (main, _), 2 => (main, none)
    | (main, none), byte => (main ++ [byte], none)
    | (main, some shown), byte => (main, some (shown ++ [byte]))) screen
  resize screen _ _ := screen
  snapshot
    | (main, none) => main
    | (_, some shown) => 1 :: shown
  zero := 0
  max := max
  isGopOver time lastKeyframeTime := decide (10 ≤ time - lastKeyframeTime)
  json
    | .snapshot _ bytes => bytes
    | .data _ _ data => data
    | .ptyResize .. => []

/-- The keyframe at time 20 does not restore the main screen, the one at time 40 does. -/
theorem recording_of_tape_is_anchored :
    let files := record (⟨[], []⟩ : Files tape) [.ptyResize 1 80 24, .write 2 .output [7, 1, 8],
      .write 20 .output [9], .write 40 .output [2, 7]]
    files.data[4]? = some (.snapshot 20 [1, 8, 9]) ∧
      ¬ Restores (T := tape) (some (80, 24)) ([7], some [8, 9]) ∧
      files.index[4]? = some (.keyframe 40 15) ∧ Anchored files 4 40 15 ∧
      Restores (T := tape) (some (80, 24)) ([7, 7], none) :=
  ⟨rfl, fun restores => (by cases restores), rfl,
    recording_started_once_is_anchored (T := tape) _ 4 40 15 rfl, rfl⟩

/-- The second recorder counts from 0: byte 1 is the first one's keyframe, its own is at 5. -/
theorem recording_started_again_is_not_anchored :
    let files := record (record (⟨[], []⟩ : Files tape) [.ptyResize 1 80 24, .write 2 .output [7]])
      [.ptyResize 3 80 24]
    files.index[6]? = some (.keyframe 3 1) ∧ openAt files.data 5 = some [.snapshot 3 []] ∧
      ¬ Anchored files 6 3 1 := by
  refine ⟨rfl, rfl, ?_⟩
  rintro ⟨before, after, -, opened, place, -⟩
  cases opened
  rcases place with ⟨first, -⟩ | ⟨bytes, rest, line⟩
  · cases first
  · cases line

end Warpgate.Recordings
