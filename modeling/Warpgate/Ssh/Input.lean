/-
This file models how the input of a connection's channels is held back, and the room it takes.
-/

import Mathlib.Algebra.Order.BigOperators.Group.List
import Mathlib.Algebra.Order.Group.Nat
import Mathlib.Algebra.Ring.Nat
import Mathlib.Data.List.AList
import Warpgate.Basic
import Warpgate.Handlers.Logic

namespace Warpgate.Ssh.Input

def channelInputBudget : Nat := 2 * 1024 * 1024

def connectionInputBudget : Nat := 16 * 1024 * 1024

abbrev Instant := Nat

abbrev ChannelId := Nat

/-! ### Budgets and handlers -/

structure InputBudget where
  room : Nat
  progress : Nat
  deriving DecidableEq, Repr

namespace InputBudget

def new (permits : Nat) : InputBudget := ⟨permits, 0⟩

def take (budget : InputBudget) (share : Nat) : InputBudget :=
  { budget with room := budget.room - share }

def giveBack (budget : InputBudget) (share : Nat) : InputBudget :=
  { budget with room := budget.room + share }

def freed (budget : InputBudget) : InputBudget := { budget with progress := budget.progress + 1 }

end InputBudget

structure ChannelInput where
  id : Option ChannelId
  budget : InputBudget
  live : Option Instant
  closed : Bool
  freedAt : Option Instant
  deriving DecidableEq, Repr

def ChannelInput.new (id : Option ChannelId) (live : Option Instant) : ChannelInput where
  id := id
  budget := .new channelInputBudget
  live := live
  closed := false
  freedAt := none

structure HeldInput where
  channel : Nat
  share : Nat
  since : Instant
  deriving DecidableEq, Repr

structure Timer where
  seen : Nat
  deadline : Instant
  running : Bool
  deriving DecidableEq, Repr

def Timer.start (budget : InputBudget) (live : Bool) (stall : Duration) (now : Instant) : Timer :=
  ⟨budget.progress, now + stall, live⟩

def Timer.goLive (timer : Timer) (live : Bool) (stall : Duration) (now : Instant) : Timer :=
  if !timer.running && live then { timer with running := true, deadline := now + stall } else timer

def Timer.see (timer : Timer) (progress : Nat) (stall : Duration) (now : Instant) : Timer :=
  if progress = timer.seen then timer
  else { timer with seen := progress, deadline := now + stall }

inductive Acquired
  | permit
  | stalled
  | pending (timer : Timer)
  deriving DecidableEq, Repr

def acquireWhileProgressing (budget : InputBudget) (live : Bool) (wanted : Nat) (stall : Duration)
    (now : Instant) (timer : Timer) : Acquired :=
  if wanted ≤ budget.room then .permit
  else if stall = 0 then .pending timer
  else
    let timer := (timer.goLive live stall now).see budget.progress stall now
    if timer.running && timer.deadline ≤ now then .stalled else .pending timer

inductive Stage
  | channel (timer : Timer)
  | connection (timer : Timer)
  deriving DecidableEq, Repr

structure Request where
  channel : ChannelId
  key : Nat
  length : Nat
  deriving DecidableEq, Repr

def Request.wanted (request : Request) : Nat := min request.length channelInputBudget

inductive Handler
  | idle
  | waiting (request : Request) (stage : Stage)
  | closing (rest : List ChannelId) (again : Option Request)
  deriving DecidableEq, Repr

structure State where
  clock : Instant
  inputs : Nat → ChannelInput
  made : Nat
  entries : AList fun _ : ChannelId => Nat
  held : List HeldInput
  connection : InputBudget
  handler : Handler

namespace State

def initial : State where
  clock := 0
  inputs := fun _ => .new none none
  made := 0
  entries := ∅
  held := []
  connection := .new connectionInputBudget
  handler := .idle

variable (state : State)

def modify (key : Nat) (change : ChannelInput → ChannelInput) : State :=
  { state with inputs := Function.update state.inputs key (change (state.inputs key)) }

def insert (id : ChannelId) (live : Option Instant) : State :=
  { state with
    inputs := Function.update state.inputs state.made (.new (some id) live)
    made := state.made + 1
    entries := state.entries.insert id state.made }

def getChannel (id : ChannelId) : Nat × State :=
  match state.entries.lookup id with
  | some key => (key, state)
  | none => (state.made, state.insert id (some state.clock))

def openedChannel (id : ChannelId) : State := state.insert id none

def goLive (number : ChannelId) : State :=
  match state.entries.lookup number with
  | some key =>
    state.modify key fun input => { input with live := input.live.or (some state.clock) }
  | none => state

def targetClosed (number : ChannelId) : State :=
  match state.entries.lookup number with
  | some key => state.modify key fun input => { input with closed := true }
  | none => state

def close (number : ChannelId) : State :=
  { state.targetClosed number with entries := state.entries.erase number }

def holdersExcept (except : ChannelId) : List ChannelInput :=
  (state.entries.entries.filter fun entry =>
    entry.1 ≠ except ∧ (state.inputs entry.2).live.isSome ∧ (state.inputs entry.2).closed = false ∧
      (state.inputs entry.2).budget.room < channelInputBudget).map fun entry =>
        state.inputs entry.2

def stuckHoldersExcept (except : ChannelId) : List ChannelId :=
  (state.holdersExcept except).filterMap ChannelInput.id

def take (key share : Nat) : State :=
  state.modify key fun input => { input with budget := input.budget.take share }

def giveBack (key share : Nat) : State :=
  state.modify key fun input => { input with budget := input.budget.giveBack share }

def hold (key share : Nat) : State :=
  { state with
    connection := state.connection.take share
    held := state.held ++ [⟨key, share, state.clock⟩] }

def drop (index : Nat) : State :=
  match state.held[index]? with
  | none => state
  | some input =>
    { state.modify input.channel fun channel =>
        { channel with
          budget := channel.budget.freed.giveBack input.share
          freedAt := some state.clock } with
      held := state.held.eraseIdx index
      connection := state.connection.freed.giveBack input.share }

end State

inductive Held
  | input (input : HeldInput)
  | stalled
  | connectionStalled
  | closed
  | pending (stage : Stage)
  deriving DecidableEq, Repr

variable {stall : Duration}

/-! ### Waiting for room -/

section

variable (stall) (state : State) (request : Request)

def pollConnection (timer : Timer) : Held × State :=
  match acquireWhileProgressing state.connection (state.inputs request.key).live.isSome
      request.wanted stall state.clock timer with
  | .permit =>
    (.input ⟨request.key, request.wanted, state.clock⟩, state.hold request.key request.wanted)
  | .stalled => (.connectionStalled, state.giveBack request.key request.wanted)
  | .pending timer => (.pending (.connection timer), state)

def pollChannel (timer : Timer) : Held × State :=
  match acquireWhileProgressing (state.inputs request.key).budget
      (state.inputs request.key).live.isSome request.wanted stall state.clock timer with
  | .permit =>
    pollConnection stall (state.take request.key request.wanted) request
      (.start state.connection (state.inputs request.key).live.isSome stall state.clock)
  | .stalled => (.stalled, state)
  | .pending timer => (.pending (.channel timer), state)

def release : Stage → State
  | .channel _ => state
  | .connection _ => state.giveBack request.key request.wanted

def holdInputUntilClosed (stage : Stage) : Held × State :=
  if (state.inputs request.key).closed then (.closed, release state request stage)
  else
    match stage with
    | .channel timer => pollChannel stall state request timer
    | .connection timer => pollConnection stall state request timer

inductive Told
  | stalled (channel : ChannelId)
  | delivered (input : HeldInput)
  | dropped
  deriving DecidableEq, Repr

def closeStalled (channel : ChannelId) (rest : List ChannelId)
    (again : Option Request) : State × Option Told :=
  ({ state.targetClosed channel with handler := .closing rest again }, some (.stalled channel))

def closeHolders : State × Option Told :=
  match state.stuckHoldersExcept request.channel with
  | [] => closeStalled state request.channel [] none
  | stuck :: rest => closeStalled state stuck rest (some request)

def holdInput (stage : Stage) : State × Option Told :=
  match holdInputUntilClosed stall state request stage with
  | (.input input, state) => ({ state with handler := .idle }, some (.delivered input))
  | (.stalled, state) => closeStalled state request.channel [] none
  | (.connectionStalled, state) => closeHolders state request
  | (.closed, state) => ({ state with handler := .idle }, some .dropped)
  | (.pending stage, state) => ({ state with handler := .waiting request stage }, none)

def startWait : State × Option Told :=
  holdInput stall state request
    (.channel (.start (state.inputs request.key).budget (state.inputs request.key).live.isSome stall
      state.clock))

end

inductive Event
  | elapse (period : Duration)
  | openedChannel (id : ChannelId)
  | close (id : ChannelId)
  | data (id : ChannelId) (length : Nat)
  | poll
  | answered
  | cancelled
  | live (number : ChannelId)
  | targetClosed (number : ChannelId)
  | drop (index : Nat)
  deriving DecidableEq, Repr

def serve (stall : Duration) (state : State) : Event → State × Option Told
  | .openedChannel id => (state.openedChannel id, none)
  | .close id => (state.close id, none)
  | .data id length =>
    let (key, state) := state.getChannel id
    startWait stall state ⟨id, key, length⟩
  | _ => (state, none)

def goOn (stall : Duration) (state : State) (request : Request) (stage : Stage) :
    Event → State × Option Told
  | .poll => holdInput stall state request stage
  | .cancelled => ({ release state request stage with handler := .idle }, some .dropped)
  | _ => (state, none)

def afterClose (stall : Duration) (state : State) (again : Option Request) :
    List ChannelId → State × Option Told
  | stuck :: rest => closeStalled state stuck rest again
  | [] =>
    match again with
    | some request => startWait stall state request
    | none => ({ state with handler := .idle }, some .dropped)

def act (stall : Duration) (state : State) (event : Event) : State × Option Told :=
  match state.handler with
  | .idle => serve stall state event
  | .waiting request stage => goOn stall state request stage event
  | .closing rest again =>
    match event with
    | .answered => afterClose stall state again rest
    | .cancelled => ({ state with handler := .idle }, some .dropped)
    | _ => (state, none)

def step (stall : Duration) (state : State) (event : Event) : State × Option Told :=
  match event with
  | .elapse period => ({ state with clock := state.clock + period }, none)
  | .live number => (state.goLive number, none)
  | .targetClosed number => (state.targetClosed number, none)
  | .drop index => (state.drop index, none)
  | event => act stall state event

def next (stall : Duration) (state : State) (event : Event) : State := (step stall state event).1

open Handlers List Function Nat Timer

def Timer.Due (timer : Timer) (budget : InputBudget) (wanted : Nat) (stall : Duration)
    (now : Instant) : Prop :=
  budget.room < wanted ∧ stall ≠ 0 ∧ timer.running = true ∧ budget.progress = timer.seen ∧
    timer.deadline ≤ now

instance (timer : Timer) (budget : InputBudget) (wanted : Nat) (stall : Duration) (now : Instant) :
    Decidable (timer.Due budget wanted stall now) :=
  inferInstanceAs (Decidable (_ ∧ _))

structure Timer.Sound (stall : Duration) (held : List HeldInput) (live : Option Instant)
    (progress : Nat) (freed : Instant → Prop) (timer : Timer) : Prop where
  held : ∀ input ∈ held, input.since + stall ≤ timer.deadline
  live : timer.running = true → ∃ since ∈ live, since + stall ≤ timer.deadline
  seen : timer.seen ≤ progress
  freed : timer.seen = progress → ∀ moment, freed moment → moment + stall ≤ timer.deadline

structure Past (held : List HeldInput) (live : Option Instant) (freed : Instant → Prop)
    (now : Instant) : Prop where
  held : ∀ input ∈ held, input.since ≤ now
  live : ∀ since ∈ live, since ≤ now
  freed : ∀ moment, freed moment → moment ≤ now

variable {held : List HeldInput} {freed : Instant → Prop} {timer : Timer} {live : Option Instant}

/-! ### Timers -/

section

variable {progress : Nat} {now : Instant}

theorem Past.sound (past : Past held live freed now) {running : Bool} {seen : Nat}
    (gated : running = true → live.isSome = true) (isSeen : seen ≤ progress) :
    Sound stall held live progress freed ⟨seen, now + stall, running⟩ where
  held input member := Nat.add_le_add_right (past.held input member) stall
  live isRunning := by
    obtain ⟨since, isLive⟩ := Option.isSome_iff_exists.mp (gated isRunning)
    exact ⟨since, isLive, Nat.add_le_add_right (past.live since isLive) stall⟩
  seen := isSeen
  freed _ moment isFreed := Nat.add_le_add_right (past.freed moment isFreed) stall

theorem Timer.Sound.goLive (sound : timer.Sound stall held live progress freed)
    (past : Past held live freed now) :
    (timer.goLive live.isSome stall now).Sound stall held live progress freed := by
  rw [Timer.goLive]
  split
  case isTrue goes => exact past.sound (fun _ => (Bool.and_eq_true_iff.mp goes).2) sound.seen
  case isFalse => exact sound

theorem Timer.Sound.see (sound : timer.Sound stall held live progress freed)
    (past : Past held live freed now) :
    (timer.see progress stall now).Sound stall held live progress freed := by
  rw [Timer.see]
  split
  case isTrue => exact sound
  case isFalse =>
    refine past.sound (fun isRunning => ?_) (le_refl _)
    obtain ⟨since, isLive, -⟩ := sound.live isRunning
    exact Option.isSome_of_mem isLive

theorem Timer.goLive_cases (timer : Timer) (live : Bool) (stall : Duration) (now : Instant) :
    timer.goLive live stall now = timer ∨ (timer.goLive live stall now).deadline = now + stall := by
  rw [goLive]
  split
  · exact .inr rfl
  · exact .inl rfl

theorem Timer.see_cases (timer : Timer) (progress : Nat) (stall : Duration) (now : Instant) :
    (progress = timer.seen ∧ timer.see progress stall now = timer) ∨
      (timer.see progress stall now).deadline = now + stall := by
  rw [see]
  split
  case isTrue seen => exact .inl ⟨seen, rfl⟩
  case isFalse => exact .inr rfl

variable {budget : InputBudget}

theorem Timer.due_of_run_out {live : Bool} {wanted : Nat}
    (short : budget.room < wanted) (positive : stall ≠ 0)
    (isRunning : ((timer.goLive live stall now).see budget.progress stall now).running = true)
    (isOver : ((timer.goLive live stall now).see budget.progress stall now).deadline ≤ now) :
    timer.Due budget wanted stall now := by
  have ahead : ¬ now + stall ≤ now :=
    Nat.not_le.mpr (Nat.lt_add_of_pos_right (Nat.pos_of_ne_zero positive))
  rcases see_cases (timer.goLive live stall now) budget.progress stall now with
    ⟨seen, same⟩ | started
  · rw [same] at isRunning isOver
    rcases goLive_cases timer live stall now with same | started
    · rw [same] at isRunning isOver seen
      exact ⟨short, positive, isRunning, seen, isOver⟩
    · rw [started] at isOver
      exact absurd isOver ahead
  · rw [started] at isOver
    exact absurd isOver ahead

theorem acquire_cases (wanted : Nat) (sound : timer.Sound stall held live budget.progress freed)
    (past : Past held live freed now) :
    (wanted ≤ budget.room ∧
      acquireWhileProgressing budget live.isSome wanted stall now timer = .permit) ∨
    (timer.Due budget wanted stall now ∧
      acquireWhileProgressing budget live.isSome wanted stall now timer = .stalled) ∨
    ∃ later : Timer, later.Sound stall held live budget.progress freed ∧
      acquireWhileProgressing budget live.isSome wanted stall now timer = .pending later := by
  rw [acquireWhileProgressing]
  split
  case isTrue room => exact .inl ⟨room, rfl⟩
  case isFalse short =>
    refine .inr ?_
    split
    case isTrue => exact .inr ⟨timer, sound, rfl⟩
    case isFalse positive =>
      dsimp only
      split
      case isFalse => exact .inr ⟨_, (sound.goLive past).see past, rfl⟩
      case isTrue due => grind [due_of_run_out]

end

def shares (held : List HeldInput) (key : Nat) : Nat :=
  (held.map fun input => if input.channel = key then input.share else 0).sum

def total (held : List HeldInput) : Nat := (held.map HeldInput.share).sum

theorem shares_append (held : List HeldInput) (input : HeldInput) (k : Nat) :
    shares (held ++ [input]) k = shares held k + if input.channel = k then input.share else 0 := by
  rw [shares, map_append, List.sum_append]
  rfl

variable {input : HeldInput} {i : Nat}

theorem shares_eraseIdx (found : held[i]? = some input) (k : Nat) :
    shares held k =
      (if input.channel = k then input.share else 0) + shares (held.eraseIdx i) k := by
  obtain ⟨inRange, rfl⟩ := List.getElem?_eq_some_iff.mp found
  exact ((List.getElem_cons_eraseIdx_perm inRange).map _).sum_eq.symm

theorem total_append (held : List HeldInput) (input : HeldInput) :
    total (held ++ [input]) = total held + input.share := by
  rw [total, map_append, List.sum_append]
  rfl

theorem total_eraseIdx (found : held[i]? = some input) :
    total held = input.share + total (held.eraseIdx i) := by
  obtain ⟨inRange, rfl⟩ := List.getElem?_eq_some_iff.mp found
  exact ((List.getElem_cons_eraseIdx_perm inRange).map _).sum_eq.symm

variable {k : Nat}

theorem exists_held (taken : 0 < shares held k) :
    ∃ input ∈ held, input.channel = k ∧ 0 < input.share := by
  by_contra none_held
  refine Nat.ne_of_gt taken (sum_eq_zero fun share mem => ?_)
  obtain ⟨input, isHeld, rfl⟩ := mem_map.mp mem
  split
  case isFalse => rfl
  case isTrue same => grind

theorem shares_pos (isHeld : input ∈ held) (positive : 0 < input.share) :
    0 < shares held input.channel := by
  have cnt : (if input.channel = input.channel then input.share else 0) ≤
      shares held input.channel := single_le_sum (fun _ _ => zero_le _) _ (mem_map_of_mem isHeld)
  rw [if_pos rfl] at cnt
  exact lt_of_lt_of_le positive cnt

structure Balanced (state : State) (taken : Nat → Nat) : Prop where
  channel : ∀ key, (state.inputs key).budget.room + shares state.held key + taken key =
    channelInputBudget
  connection : state.connection.room + total state.held = connectionInputBudget
  unused : ∀ key, state.made ≤ key → (state.inputs key).budget.room = channelInputBudget
  named : ∀ number key, state.entries.lookup number = some key →
    key < state.made ∧ (state.inputs key).id = some number
  heldPast : ∀ input ∈ state.held, input.since ≤ state.clock
  livePast : ∀ key, ∀ since ∈ (state.inputs key).live, since ≤ state.clock
  freedPast : ∀ key, ∀ moment ∈ (state.inputs key).freedAt, moment ≤ state.clock

def only (key share : Nat) : Nat → Nat := fun other => if other = key then share else 0

variable {s : State} {change : ChannelInput → ChannelInput}

/-! ### Budgets are balanced -/

section

variable {taken : Nat → Nat}

theorem inputs_modify_self (s : State) (k : Nat) (change : ChannelInput → ChannelInput) :
    (s.modify k change).inputs k = change (s.inputs k) :=
  update_self _ _ _

theorem inputs_modify_other (s : State) {other : Nat} (apart : other ≠ k)
    (change : ChannelInput → ChannelInput) : (s.modify k change).inputs other = s.inputs other :=
  update_of_ne apart _ _

variable {share : Nat}

theorem Balanced.modify {taken post : Nat → Nat} (bal : Balanced s taken)
    (id : (change (s.inputs k)).id = (s.inputs k).id)
    (room : (change (s.inputs k)).budget.room + post k = (s.inputs k).budget.room + taken k)
    (unused : s.made ≤ k → (change (s.inputs k)).budget.room = channelInputBudget)
    (live : ∀ since ∈ (change (s.inputs k)).live, since ≤ s.clock)
    (freed : ∀ mom ∈ (change (s.inputs k)).freedAt, mom ≤ s.clock)
    (others : ∀ other, other ≠ k → post other = taken other) :
    Balanced (s.modify k change) post where
  channel := by
    refine (forall_update_iff s.inputs fun other input =>
      input.budget.room + shares s.held other + post other = channelInputBudget).mpr
      ⟨?_, fun other apart => ?_⟩
    · rw [← bal.channel k]
      omega
    · rw [others other apart]
      exact bal.channel other
  connection := bal.connection
  unused := (forall_update_iff s.inputs fun other input =>
    s.made ≤ other → input.budget.room = channelInputBudget).mpr
      ⟨unused, fun other _ => bal.unused other⟩
  named n := by
    refine (forall_update_iff s.inputs fun other input =>
      s.entries.lookup n = some other → other < s.made ∧ input.id = some n).mpr
      ⟨?_, fun other _ => bal.named n other⟩
    rw [id]
    exact bal.named n k
  heldPast := bal.heldPast
  livePast := (forall_update_iff s.inputs fun _ input =>
    ∀ since ∈ input.live, since ≤ s.clock).mpr ⟨live, fun other _ => bal.livePast other⟩
  freedPast := (forall_update_iff s.inputs fun _ input =>
    ∀ mom ∈ input.freedAt, mom ≤ s.clock).mpr ⟨freed, fun other _ => bal.freedPast other⟩

theorem Balanced.take (bal : Balanced s fun _ => 0) (inUse : k < s.made)
    (room : share ≤ (s.inputs k).budget.room) : Balanced (s.take k share) (only k share) := by
  refine bal.modify rfl ?_ (fun isUnused => absurd inUse (Nat.not_lt.mpr isUnused))
    (bal.livePast k) (bal.freedPast k) fun other apart => if_neg apart
  rw [only, if_pos rfl]
  exact Nat.sub_add_cancel room

theorem Balanced.giveBack (bal : Balanced s (only k share)) (inUse : k < s.made) :
    Balanced (s.giveBack k share) fun _ => 0 := by
  refine bal.modify rfl ?_ (fun isUnused => absurd inUse (not_lt.mpr isUnused))
    (bal.livePast k) (bal.freedPast k) fun other apart => (if_neg apart).symm
  rw [only, if_pos rfl]
  rfl

variable (bal : Balanced s taken)

include bal

theorem Balanced.signal (id : (change (s.inputs k)).id = (s.inputs k).id)
    (budget : (change (s.inputs k)).budget = (s.inputs k).budget)
    (live : ∀ since ∈ (change (s.inputs k)).live, since ≤ s.clock)
    (freed : (change (s.inputs k)).freedAt = (s.inputs k).freedAt) :
    Balanced (s.modify k change) taken := by
  refine bal.modify id (by rw [budget]) (fun isUnused => ?_) live ?_ fun _ _ => rfl
  · rw [budget]
    exact bal.unused k isUnused
  · rw [freed]
    exact bal.freedPast k

theorem Balanced.goLive (n : ChannelId) : Balanced (s.goLive n) taken := by
  rw [State.goLive]
  split
  case h_2 => exact bal
  case h_1 k found =>
    refine bal.signal rfl rfl (fun since isLive => ?_) rfl
    rcases Option.or_eq_some_iff.mp isLive with already | ⟨-, isNow⟩
    · exact bal.livePast k since already
    · cases isNow
      exact le_refl _

theorem Balanced.targetClosed (n : ChannelId) :
    Balanced (s.targetClosed n) taken := by
  rw [State.targetClosed]
  split
  case h_2 => exact bal
  case h_1 k found => exact bal.signal rfl rfl (bal.livePast k) rfl

theorem Balanced.close (n : ChannelId) : Balanced (s.close n) taken := by
  have closed := bal.targetClosed n
  have entries : (s.targetClosed n).entries = s.entries := by
    rw [State.targetClosed]
    split <;> rfl
  refine ⟨closed.channel, closed.connection, closed.unused, fun other k found => ?_,
    closed.heldPast, closed.livePast, closed.freedPast⟩
  refine closed.named other k ?_
  rw [entries]
  have found : (s.entries.erase n).lookup other = some k := found
  by_cases same : other = n
  · rw [same, AList.lookup_erase] at found
    cases found
  · rwa [AList.lookup_erase_ne same] at found

theorem Balanced.insert (id : ChannelId)
    (isLive : ∀ since ∈ live, since ≤ s.clock) : Balanced (s.insert id live) taken := by
  refine ⟨?_, bal.connection, ?_, fun n k found => ?_, bal.heldPast, ?_, ?_⟩
  · refine (forall_update_iff s.inputs fun k input =>
      input.budget.room + shares s.held k + taken k = channelInputBudget).mpr
      ⟨?_, fun k _ => bal.channel k⟩
    rw [← bal.channel s.made, bal.unused s.made (Nat.le_refl _)]
    rfl
  · refine (forall_update_iff s.inputs fun k input =>
      s.made + 1 ≤ k → input.budget.room = channelInputBudget).mpr ⟨fun _ => rfl, ?_⟩
    exact fun k _ isUnused => bal.unused k (Nat.le_of_succ_le isUnused)
  · have found : (s.entries.insert id s.made).lookup n = some k := found
    show k < s.made + 1 ∧ (Function.update s.inputs s.made _ k).id = some n
    by_cases same : n = id
    · rw [same, AList.lookup_insert] at found
      cases found
      rw [update_self, same]
      exact ⟨Nat.lt_succ_self _, rfl⟩
    · rw [AList.lookup_insert_ne same] at found
      obtain ⟨inUse, named⟩ := bal.named n k found
      rw [update_of_ne (Nat.ne_of_lt inUse)]
      exact ⟨Nat.lt_succ_of_lt inUse, named⟩
  · exact (forall_update_iff s.inputs fun _ input =>
      ∀ since ∈ input.live, since ≤ s.clock).mpr ⟨isLive, fun k _ => bal.livePast k⟩
  · exact (forall_update_iff s.inputs fun _ input =>
      ∀ mom ∈ input.freedAt, mom ≤ s.clock).mpr ⟨nofun, fun k _ => bal.freedPast k⟩

omit bal in
theorem Balanced.hold (bal : Balanced s (only k share))
    (room : share ≤ s.connection.room) : Balanced (s.hold k share) fun _ => 0 where
  channel other := by
    show _ + shares (s.held ++ [_]) other + 0 = _
    rw [shares_append, ← bal.channel other, only]
    simp only [eq_comm, add_assoc, add_zero]
    rfl
  connection := by
    show s.connection.room - share + total (s.held ++ [_]) = _
    rw [total_append, ← bal.connection]
    show s.connection.room - share + (total s.held + share) = _
    omega
  unused := bal.unused
  named := bal.named
  heldPast input member := by
    rcases mem_append.mp member with old | new
    · exact bal.heldPast input old
    · rw [mem_singleton.mp new]
      exact le_refl s.clock
  livePast := bal.livePast
  freedPast := bal.freedPast

theorem Balanced.unhold (found : s.held[i]? = some input) :
    Balanced { s with
        held := s.held.eraseIdx i
        connection := s.connection.freed.giveBack input.share }
      fun k => taken k + only input.channel input.share k where
  channel k := by
    show _ + shares (s.held.eraseIdx i) k + _ = _
    rw [← bal.channel k, shares_eraseIdx found k, only]
    simp only [eq_comm]
    omega
  connection := by
    show s.connection.room + input.share + total (s.held.eraseIdx i) = _
    rw [← bal.connection, total_eraseIdx found, add_assoc]
  unused := bal.unused
  named := bal.named
  heldPast other member := bal.heldPast other (mem_of_mem_eraseIdx member)
  livePast := bal.livePast
  freedPast := bal.freedPast

theorem Balanced.drop (i : Nat) : Balanced (s.drop i) taken := by
  rw [State.drop]
  split
  case h_1 => exact bal
  case h_2 input found =>
    show Balanced (State.modify { s with
        held := s.held.eraseIdx i
        connection := s.connection.freed.giveBack input.share } input.channel fun chan =>
      { chan with
        budget := chan.budget.freed.giveBack input.share
        freedAt := some s.clock }) taken
    refine (bal.unhold found).modify rfl ?_ (fun isUnused => ?_)
      (bal.livePast input.channel) ?_ fun other apart => ?_
    · show (s.inputs input.channel).budget.room + input.share + taken input.channel = _
      rw [only, if_pos rfl]
      show _ = (s.inputs input.channel).budget.room + _
      omega
    · show (s.inputs input.channel).budget.room + input.share = _
      have full := bal.unused input.channel isUnused
      have all := bal.channel input.channel
      rw [shares_eraseIdx found, if_pos rfl] at all
      omega
    · rintro _ ⟨⟩
      exact le_refl _
    · rw [only, if_neg apart, add_zero]

end

def Stage.taken (request : Request) : Stage → Nat → Nat
  | .channel _ => fun _ => 0
  | .connection _ => only request.key request.wanted

def Handler.taken : Handler → Nat → Nat
  | .waiting request stage => stage.taken request
  | _ => fun _ => 0

def Stage.Sound (stall : Duration) (state : State) (key : Nat) : Stage → Prop
  | .channel timer =>
    timer.Sound stall state.held (state.inputs key).live (state.inputs key).budget.progress
      fun moment => moment ∈ (state.inputs key).freedAt
  | .connection timer =>
    timer.Sound stall state.held (state.inputs key).live state.connection.progress
      fun moment => ∃ other, moment ∈ (state.inputs other).freedAt

def HandlerSound (stall : Duration) (state : State) : Handler → Prop
  | .idle => True
  | .waiting request stage =>
    state.entries.lookup request.channel = some request.key ∧ stage.Sound stall state request.key
  | .closing _ again => ∀ request ∈ again, state.entries.lookup request.channel = some request.key

structure Sound (stall : Duration) (state : State) : Prop where
  balanced : Balanced state state.handler.taken
  handler : HandlerSound stall state state.handler

variable {stage : Stage}

/-! ### One poll -/

section

variable {req : Request} {taken : Nat → Nat}

theorem Balanced.pastChannel (bal : Balanced s taken) (k : Nat) :
    Past s.held (s.inputs k).live (fun mom => mom ∈ (s.inputs k).freedAt) s.clock :=
  ⟨bal.heldPast, bal.livePast k, bal.freedPast k⟩

theorem Balanced.pastConnection (bal : Balanced s taken) (k : Nat) :
    Past s.held (s.inputs k).live (fun mom => ∃ other, mom ∈ (s.inputs other).freedAt) s.clock :=
  ⟨bal.heldPast, bal.livePast k, fun mom ⟨other, isFreed⟩ => bal.freedPast other mom isFreed⟩

theorem Balanced.handler (bal : Balanced s taken) (hdl : Handler) :
    Balanced { s with handler := hdl } taken :=
  ⟨bal.channel, bal.connection, bal.unused, bal.named, bal.heldPast, bal.livePast, bal.freedPast⟩

inductive Polled (stall : Duration) (state : State) (request : Request) (stage : Stage) :
    State × Option Told → Prop
  | delivered (later : State) (input : HeldInput) (balanced : Balanced later fun _ => 0)
      (entries : later.entries = state.entries) :
      Polled stall state request stage ({ later with handler := .idle }, some (.delivered input))
  | pending (later : State) (next : Stage) (balanced : Balanced later (next.taken request))
      (entries : later.entries = state.entries) (held : later.held = state.held)
      (sound : next.Sound stall later request.key) :
      Polled stall state request stage ({ later with handler := .waiting request next }, none)
  | dropped (later : State) (balanced : Balanced later fun _ => 0)
      (entries : later.entries = state.entries) (held : later.held = state.held) :
      Polled stall state request stage ({ later with handler := .idle }, some .dropped)
  | stalled (timer : Timer) (isChannel : stage = .channel timer)
      (unclosed : (state.inputs request.key).closed = false)
      (due : timer.Due (state.inputs request.key).budget request.wanted stall state.clock) :
      Polled stall state request stage (closeStalled state request.channel [] none)
  | connectionStalled (timer : Timer) (isConnection : stage = .connection timer)
      (unclosed : (state.inputs request.key).closed = false)
      (due : timer.Due state.connection request.wanted stall state.clock) :
      Polled stall state request stage
        (closeHolders (state.giveBack request.key request.wanted) request)

theorem pollConnection_cases (bal : Balanced s taken)
    (sound : (Stage.connection timer).Sound stall s req.key) :
    (req.wanted ≤ s.connection.room ∧ pollConnection stall s req timer =
      (.input ⟨req.key, req.wanted, s.clock⟩, s.hold req.key req.wanted)) ∨
    (timer.Due s.connection req.wanted stall s.clock ∧ pollConnection stall s req timer =
        (.connectionStalled, s.giveBack req.key req.wanted)) ∨
    ∃ later : Timer, (Stage.connection later).Sound stall s req.key ∧
      pollConnection stall s req timer = (.pending (.connection later), s) := by
  have past := bal.pastConnection req.key
  rcases acquire_cases req.wanted sound past with
    ⟨room, acquired⟩ | ⟨due, acquired⟩ | ⟨later, still, acquired⟩
  · exact .inl ⟨room, by rw [pollConnection, acquired]⟩
  · exact .inr (.inl ⟨due, by rw [pollConnection, acquired]⟩)
  · exact .inr (.inr ⟨later, still, by rw [pollConnection, acquired]⟩)

theorem polled_channel (bal : Balanced s fun _ => 0) (inUse : req.key < s.made)
    (unclosed : (s.inputs req.key).closed = false)
    (sound : (Stage.channel timer).Sound stall s req.key) :
    Polled stall s req (.channel timer) (holdInput stall s req (.channel timer)) := by
  have poll : holdInputUntilClosed stall s req (.channel timer) =
      pollChannel stall s req timer := by
    rw [holdInputUntilClosed, if_neg (Bool.eq_false_iff.mp unclosed)]
  rcases acquire_cases req.wanted sound (bal.pastChannel req.key) with
    ⟨room, acquired⟩ | ⟨due, acquired⟩ | ⟨later, still, acquired⟩
  · have taken := bal.take inUse room
    have live : ((s.take req.key req.wanted).inputs req.key).live =
        (s.inputs req.key).live := by rw [State.take, inputs_modify_self]
    have fresh : (Stage.connection (.start s.connection
        (s.inputs req.key).live.isSome stall s.clock)).Sound stall
        (s.take req.key req.wanted) req.key := by
      refine (taken.pastConnection req.key).sound (fun isLive => ?_) (Nat.le_refl _)
      rw [live]
      exact isLive
    have next : pollChannel stall s req timer = pollConnection stall (s.take req.key req.wanted) req
          (.start s.connection (s.inputs req.key).live.isSome stall s.clock) := by
      rw [pollChannel, acquired]
    rcases pollConnection_cases taken fresh with ⟨room, polls⟩ | ⟨due, -⟩ | ⟨later, still, polls⟩
    · rw [holdInput, poll, next, polls]
      exact .delivered _ _ (taken.hold room) rfl
    · have ahead : s.clock < s.clock + stall := Nat.lt_add_of_pos_right (Nat.pos_of_ne_zero due.2.1)
      exact absurd due.2.2.2.2 (Nat.not_le.mpr ahead)
    · rw [holdInput, poll, next, polls]
      exact .pending _ _ taken rfl rfl still
  · rw [holdInput, poll, pollChannel, acquired]
    exact .stalled timer rfl unclosed due
  · rw [holdInput, poll, pollChannel, acquired]
    exact .pending _ _ bal rfl rfl still

theorem polled_connection (bal : Balanced s (only req.key req.wanted))
    (unclosed : (s.inputs req.key).closed = false)
    (sound : (Stage.connection timer).Sound stall s req.key) :
    Polled stall s req (.connection timer) (holdInput stall s req (.connection timer)) := by
  have poll : holdInputUntilClosed stall s req (.connection timer) =
      pollConnection stall s req timer := by
    rw [holdInputUntilClosed, if_neg (Bool.eq_false_iff.mp unclosed)]
  rcases pollConnection_cases bal sound with ⟨room, polls⟩ | ⟨due, polls⟩ | ⟨later, still, polls⟩
  · rw [holdInput, poll, polls]
    exact .delivered _ _ (bal.hold room) rfl
  · rw [holdInput, poll, polls]
    exact .connectionStalled timer rfl unclosed due
  · rw [holdInput, poll, polls]
    exact .pending _ _ bal rfl rfl still

theorem Balanced.release (bal : Balanced s (stage.taken req))
    (inUse : req.key < s.made) : Balanced (release s req stage) fun _ => 0 := by
  cases stage with
  | channel timer => exact bal
  | connection timer => exact bal.giveBack inUse

theorem held_release (s : State) (req : Request) (stage : Stage) :
    (release s req stage).held = s.held := by
  cases stage <;> rfl

theorem polled (bal : Balanced s (stage.taken req))
    (inUse : req.key < s.made) (sound : stage.Sound stall s req.key) :
    Polled stall s req stage (holdInput stall s req stage) := by
  cases closed : (s.inputs req.key).closed with
  | true =>
    have closes : holdInputUntilClosed stall s req stage =
        (.closed, release s req stage) := if_pos closed
    rw [holdInput, closes]
    exact .dropped _ (bal.release inUse) (by cases stage <;> rfl) (held_release s req stage)
  | false =>
    cases stage with
    | channel timer => exact polled_channel bal inUse closed sound
    | connection timer => exact polled_connection bal closed sound

theorem polled_start (bal : Balanced s fun _ => 0) (inUse : req.key < s.made) :
    Polled stall s req
      (.channel (.start (s.inputs req.key).budget (s.inputs req.key).live.isSome
        stall s.clock)) (startWait stall s req) :=
  polled bal inUse ((bal.pastChannel req.key).sound (fun isLive => isLive) (le_refl _))

end

structure Aside (state later : State) : Prop where
  entries : later.entries = state.entries
  handler : later.handler = state.handler
  live : ∀ key, ∀ since ∈ (state.inputs key).live, since ∈ (later.inputs key).live
  held : ∀ input ∈ later.held, input ∈ state.held
  channel : ∀ key, ((later.inputs key).budget.progress = (state.inputs key).budget.progress ∧
      (later.inputs key).freedAt = (state.inputs key).freedAt) ∨
    (state.inputs key).budget.progress < (later.inputs key).budget.progress
  connection : (later.connection.progress = state.connection.progress ∧
      ∀ key, (later.inputs key).freedAt = (state.inputs key).freedAt) ∨
    state.connection.progress < later.connection.progress

theorem Timer.Sound.aside {held' : List HeldInput}
    {live' : Option Instant} {progress progress' : Nat} {freed' : Instant → Prop}
    (sound : timer.Sound stall held live progress freed)
    (fewer : ∀ input ∈ held', input ∈ held) (still : ∀ since ∈ live, since ∈ live')
    (same : (progress' = progress ∧ ∀ mom, freed' mom → freed mom) ∨ progress < progress') :
    timer.Sound stall held' live' progress' freed' where
  held input member := sound.held input (fewer input member)
  live isRunning := by
    obtain ⟨since, isLive, early⟩ := sound.live isRunning
    exact ⟨since, still since isLive, early⟩
  seen := by
    rcases same with ⟨same, -⟩ | more
    · rw [same]
      exact sound.seen
    · exact Nat.le_of_lt (Nat.lt_of_le_of_lt sound.seen more)
  freed isSeen mom isFreed := by
    rcases same with ⟨same, sameFreed⟩ | more
    · exact sound.freed (isSeen.trans same) mom (sameFreed mom isFreed)
    · exact absurd isSeen (Nat.ne_of_lt (Nat.lt_of_le_of_lt sound.seen more))

/-! ### What others do meanwhile -/

section

variable {later : State}

theorem Stage.Sound.aside (sound : stage.Sound stall s k)
    (aside : Aside s later) : stage.Sound stall later k := by
  cases stage with
  | channel timer =>
    refine Timer.Sound.aside sound aside.held (aside.live k) ((aside.channel k).imp_left ?_)
    exact fun same => ⟨same.1, fun mom isFreed => same.2 ▸ isFreed⟩
  | connection timer =>
    refine Timer.Sound.aside sound aside.held (aside.live k) (aside.connection.imp_left ?_)
    exact fun same => ⟨same.1, fun mom ⟨other, isFreed⟩ => ⟨other, same.2 other ▸ isFreed⟩⟩

theorem HandlerSound.aside {hdl : Handler} (sound : HandlerSound stall s hdl)
    (aside : Aside s later) : HandlerSound stall later hdl := by
  cases hdl with
  | idle => trivial
  | waiting req stage =>
    refine ⟨?_, sound.2.aside aside⟩
    rw [aside.entries]
    exact sound.1
  | closing rest again =>
    intro req isAgain
    rw [aside.entries]
    exact sound req isAgain

theorem Sound.aside (sound : Sound stall s) (aside : Aside s later)
    (bal : Balanced later s.handler.taken) : Sound stall later := by
  refine ⟨?_, ?_⟩
  · rw [aside.handler]
    exact bal
  · rw [aside.handler]
    exact sound.handler.aside aside

theorem Aside.modify (s : State) (k : Nat)
    (live : ∀ since ∈ (s.inputs k).live, since ∈ (change (s.inputs k)).live)
    (budget : (change (s.inputs k)).budget = (s.inputs k).budget)
    (freed : (change (s.inputs k)).freedAt = (s.inputs k).freedAt) :
    Aside s (s.modify k change) := by
  have sameFreed : ∀ other, ((s.modify k change).inputs other).freedAt = (s.inputs other).freedAt :=
    (forall_update_iff s.inputs fun other input =>
      input.freedAt = (s.inputs other).freedAt).mpr ⟨freed, fun _ _ => rfl⟩
  have sameBudget : ∀ other, ((s.modify k change).inputs other).budget = (s.inputs other).budget :=
    (forall_update_iff s.inputs fun other input =>
      input.budget = (s.inputs other).budget).mpr ⟨budget, fun _ _ => rfl⟩
  refine ⟨rfl, rfl, ?_, fun _ mem => mem, fun other => .inl ⟨?_, sameFreed other⟩,
    .inl ⟨rfl, sameFreed⟩⟩
  · exact (forall_update_iff s.inputs fun other input =>
      ∀ since ∈ (s.inputs other).live, since ∈ input.live).mpr ⟨live, fun _ _ _ is => is⟩
  · rw [sameBudget]

theorem Aside.refl (s : State) : Aside s s :=
  ⟨rfl, rfl, fun _ _ is => is, fun _ is => is, fun _ => .inl ⟨rfl, rfl⟩, .inl ⟨rfl, fun _ => rfl⟩⟩

theorem aside_goLive (s : State) (n : ChannelId) : Aside s (s.goLive n) := by
  rw [State.goLive]
  split
  case h_2 => exact Aside.refl s
  case h_1 key found =>
    refine Aside.modify s key (fun since isLive => ?_) rfl rfl
    exact Option.or_eq_some_iff.mpr (.inl isLive)

theorem aside_targetClosed (s : State) (n : ChannelId) : Aside s (s.targetClosed n) := by
  rw [State.targetClosed]
  split
  case h_2 => exact Aside.refl s
  case h_1 key found => exact Aside.modify s key (fun _ isLive => isLive) rfl rfl

theorem aside_drop (s : State) (i : Nat) : Aside s (s.drop i) := by
  rw [State.drop]
  split
  case h_1 => exact Aside.refl s
  case h_2 input found =>
    refine ⟨rfl, rfl, ?_, fun _ mem => mem_of_mem_eraseIdx mem, ?_, .inr (lt_succ_self _)⟩
    · exact (forall_update_iff s.inputs fun other chan =>
        ∀ since ∈ (s.inputs other).live, since ∈ chan.live).mpr
          ⟨fun _ isLive => isLive, fun _ _ _ isLive => isLive⟩
    · exact (forall_update_iff s.inputs fun other chan =>
        (chan.budget.progress = (s.inputs other).budget.progress ∧
          chan.freedAt = (s.inputs other).freedAt) ∨
        (s.inputs other).budget.progress < chan.budget.progress).mpr
          ⟨.inr (lt_succ_self _), fun _ _ => .inl ⟨rfl, rfl⟩⟩

theorem Balanced.elapse {taken : Nat → Nat} (bal : Balanced s taken) (period : Duration) :
    Balanced { s with clock := s.clock + period } taken :=
  ⟨bal.channel, bal.connection, bal.unused, bal.named,
    fun input mem => le_add_right_of_le (bal.heldPast input mem),
    fun k since isLive => le_add_right_of_le (bal.livePast k since isLive),
    fun k mom isFreed => le_add_right_of_le (bal.freedPast k mom isFreed)⟩

end

/-! ### Every step -/

section

variable {req : Request}

theorem Sound.known {hdl : Handler} (sound : Sound stall s) (isHandler : s.handler = hdl) :
    Balanced s hdl.taken ∧ HandlerSound stall s hdl :=
  isHandler ▸ ⟨sound.balanced, sound.handler⟩

theorem Sound.waiting (sound : Sound stall s) (isWaiting : s.handler = .waiting req stage) :
    Balanced s (stage.taken req) ∧ req.key < s.made ∧
      s.entries.lookup req.channel = some req.key ∧ stage.Sound stall s req.key := by
  obtain ⟨bal, waiting⟩ := sound.known isWaiting
  exact ⟨bal, (bal.named _ _ waiting.1).1, waiting⟩

variable {again : Option Request}

theorem sound_closeStalled (bal : Balanced s fun _ => 0) (chan : ChannelId) (rest : List ChannelId)
    (found : ∀ req ∈ again, s.entries.lookup req.channel = some req.key) :
    Sound stall (closeStalled s chan rest again).1 := by
  refine ⟨(bal.targetClosed chan).handler _, fun req isAgain => ?_⟩
  show (s.targetClosed chan).entries.lookup req.channel = some req.key
  rw [(aside_targetClosed s chan).entries]
  exact found req isAgain

theorem sound_closeHolders (bal : Balanced s fun _ => 0)
    (found : s.entries.lookup req.channel = some req.key) : Sound stall (closeHolders s req).1 := by
  grind [closeHolders, sound_closeStalled]

theorem Polled.sound {res : State × Option Told}
    (polled : Polled stall s req stage res) (bal : Balanced s (stage.taken req))
    (found : s.entries.lookup req.channel = some req.key) : Sound stall res.1 := by
  cases polled with
  | delivered later input idle entries | dropped later idle entries held =>
    exact ⟨idle.handler _, trivial⟩
  | pending later next waiting entries held sound =>
    refine ⟨waiting.handler _, ?_, sound⟩
    show later.entries.lookup req.channel = some req.key
    rw [entries]
    exact found
  | stalled timer isChannel unclosed due =>
    subst isChannel
    exact sound_closeStalled bal _ _ nofun
  | connectionStalled timer isConnection unclosed due =>
    subst isConnection
    have inUse := (bal.named req.channel req.key found).1
    exact sound_closeHolders (bal.giveBack inUse) found

theorem getChannel_found (bal : Balanced s fun _ => 0) (id : ChannelId) :
    Balanced (s.getChannel id).2 (fun _ => 0) ∧
      (s.getChannel id).2.entries.lookup id = some (s.getChannel id).1 := by
  rw [State.getChannel]
  split
  case h_1 key found => exact ⟨bal, found⟩
  case h_2 =>
    refine ⟨bal.insert id fun since isNow => ?_, AList.lookup_insert s.entries⟩
    cases isNow
    exact le_refl _

theorem sound_startWait (bal : Balanced s fun _ => 0)
    (found : s.entries.lookup req.channel = some req.key) :
    Sound stall (startWait stall s req).1 := by
  have inUse := (bal.named req.channel req.key found).1
  have polled : Polled stall s req _ (startWait stall s req) := polled_start bal inUse
  exact polled.sound bal found

theorem sound_serve (sound : Sound stall s) (isIdle : s.handler = .idle) (ev : Event) :
    Sound stall (serve stall s ev).1 := by
  have bal : Balanced s fun _ => 0 := (sound.known isIdle).1
  cases ev with
  | openedChannel id =>
    refine ⟨?_, ?_⟩
    · show Balanced (s.openedChannel id) s.handler.taken
      rw [isIdle]
      exact bal.insert id nofun
    · show HandlerSound stall _ s.handler
      rw [isIdle]
      trivial
  | close id =>
    have same : (s.close id).handler = .idle := (aside_targetClosed s id).handler.trans isIdle
    refine ⟨?_, ?_⟩
    · show Balanced (s.close id) (s.close id).handler.taken
      rw [same]
      exact bal.close id
    · show HandlerSound stall _ (s.close id).handler
      rw [same]
      trivial
  | data id length =>
    obtain ⟨stillBalanced, found⟩ := getChannel_found bal id
    exact sound_startWait stillBalanced found
  | _ => exact sound

theorem sound_goOn (sound : Sound stall s)
    (isWaiting : s.handler = .waiting req stage) (ev : Event) :
    Sound stall (goOn stall s req stage ev).1 := by
  obtain ⟨bal, inUse, waiting⟩ := sound.waiting isWaiting
  cases ev with
  | poll => exact (polled bal inUse waiting.2).sound bal waiting.1
  | cancelled => exact ⟨(bal.release inUse).handler _, trivial⟩
  | _ => exact sound

theorem sound_afterClose {rest : List ChannelId} (sound : Sound stall s)
    (isClosing : s.handler = .closing rest again) :
    Sound stall (afterClose stall s again rest).1 := by
  obtain ⟨bal, found⟩ : Balanced s (fun _ => 0) ∧
      HandlerSound stall s (.closing rest again) := sound.known isClosing
  cases rest with
  | cons stuck rest => exact sound_closeStalled bal stuck rest found
  | nil =>
    cases again with
    | none => exact ⟨bal.handler _, trivial⟩
    | some req => exact sound_startWait bal (found req rfl)

theorem sound_act (sound : Sound stall s) (ev : Event) : Sound stall (act stall s ev).1 := by
  rw [act]
  split
  case h_1 isIdle => exact sound_serve sound isIdle ev
  case h_2 req stage isWaiting => exact sound_goOn sound isWaiting ev
  case h_3 rest again isClosing =>
    split
    · exact sound_afterClose sound isClosing
    · exact ⟨(sound.known isClosing).1.handler _, trivial⟩
    · exact sound

theorem sound_step (sound : Sound stall s) (ev : Event) : Sound stall (next stall s ev) := by
  cases ev with
  | elapse period =>
    exact sound.aside ⟨rfl, rfl, fun _ _ is => is, fun _ is => is, fun _ => .inl ⟨rfl, rfl⟩,
      .inl ⟨rfl, fun _ => rfl⟩⟩ (sound.balanced.elapse period)
  | live n => exact sound.aside (aside_goLive s n) (sound.balanced.goLive n)
  | targetClosed n => exact sound.aside (aside_targetClosed s n) (sound.balanced.targetClosed n)
  | drop i => exact sound.aside (aside_drop s i) (sound.balanced.drop i)
  | _ => exact sound_act sound _

theorem sound_initial (stall : Duration) : Sound stall State.initial where
  balanced := ⟨fun _ => rfl, rfl, fun _ _ => rfl, nofun, nofun, nofun, nofun⟩
  handler := trivial

theorem run_sound (stall : Duration) (events : List Event) :
    Sound stall (run (next stall) .initial events) := by
  have keeps : ∀ s ev, Sound stall s → Sound stall (next stall s ev) :=
    fun _ ev sound => sound_step sound ev
  exact run_keeps keeps events (sound_initial stall)

end

end Warpgate.Ssh.Input
