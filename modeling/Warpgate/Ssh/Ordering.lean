/-
This file is about the output of channels: what is buffered, and the order it is sent in.
-/

import Warpgate.Ssh.EventLoop

namespace Warpgate.Ssh.EventLoop

open List Bool Connection Session

/-! ### Output is bounded -/

def Connection.slots (connection : Connection) : Nat :=
  connection.freeSlots + connection.slot.toNat + connection.writer.countP Write.slot

def Connection.Paid (connection : Connection) : Prop :=
  ∀ write ∈ connection.writer, write.fromTarget = true → write.slot = true

variable {conn : Connection} {arr : Arrival} {pre post : Connection}

namespace Connection

theorem Prints.slots (prints : Prints pre post) : post.slots = pre.slots := by
  obtain ⟨added, writer, -, own⟩ := prints.written
  have unpaid : added.countP Write.slot = 0 :=
    countP_eq_zero.mpr fun write mem => by simp [(own write mem).1]
  rw [Connection.slots, Connection.slots, prints.slot, prints.freeSlots, writer,
    countP_append, unpaid]
  rfl

theorem Prints.paid (prints : Prints pre post) (paid : pre.Paid) : post.Paid := by
  obtain ⟨added, writer, -, own⟩ := prints.written
  intro write mem fromTarget
  rw [writer] at mem
  rcases mem_append.mp mem with old | new
  · exact paid write old fromTarget
  · rw [(own write new).2.1] at fromTarget
    cases fromTarget

theorem slots_writeOutput (conn : Connection) (id : Uuid) (operation : WriteOperation) :
    (conn.writeOutput id operation).slots = conn.slots := by
  grind [writeOutput, enqueue, slots]

theorem paid_writeOutput (paid : conn.Paid) (holds : conn.slot = true) (id : Uuid)
    (operation : WriteOperation) : (conn.writeOutput id operation).Paid := by
  rw [writeOutput]
  split
  · intro write mem _
    rcases mem_append.mp mem with old | new
    · exact paid write old (by assumption)
    · rw [mem_singleton.mp new]
      exact holds
  · exact paid

theorem Handles.slots {ev : RcEvent}
    (handles : Handles conn ev post) : post.slots = conn.slots := by
  cases handles with
  | prints prints quiet | closes prints quiet => exact prints.slots
  | writes operation isOutput names => exact slots_writeOutput conn _ operation
  | begins quiet names => rfl

theorem Handles.paid {ev : RcEvent}
    (handles : Handles conn ev post) (paid : conn.Paid)
    (holds : ev.isOutput = true → conn.slot = true) : post.Paid := by
  cases handles with
  | prints prints quiet | closes prints quiet => exact prints.paid paid
  | writes operation isOutput names => exact paid_writeOutput paid (holds isOutput) _ operation
  | begins quiet names => exact paid

theorem slots_handleClient (conn : Connection) (arr : Arrival) :
    (conn.handleClient arr).slots = conn.slots := by
  rw [handleClient]
  split
  · rfl
  · exact (handles_handleRemoteEvent _ _).slots

theorem paid_handleClient (paid : conn.Paid)
    (holds : arr.event.isOutput = true → conn.slot = true) : (conn.handleClient arr).Paid := by
  rw [handleClient]
  split
  · exact paid
  · exact (handles_handleRemoteEvent _ _).paid paid holds

theorem mem_held_handleClient {other : Arrival} (mem : other ∈ (conn.handleClient arr).held) :
    other ∈ conn.held ∨ other = arr ∧ conn.waitsFor arr.event ≠ none := by
  rw [handleClient] at mem
  split at mem
  case h_1 channel waits =>
    obtain ⟨-, found, opening⟩ := waitsFor_eq_some waits
    obtain ⟨pre, post, split, changed, -, -⟩ := held_split found
    rw [defer, changed, deferred_defer opening] at mem
    rw [split, waits]
    simp only [mem_append, mem_singleton] at mem ⊢
    tauto
  case h_2 waits =>
    refine .inl ?_
    generalize isEvent : arr.event = ev at mem
    have handles := handles_handleRemoteEvent { conn with handled := conn.handled ++ [arr] } ev
    generalize handleRemoteEvent _ ev = post at mem handles
    cases handles with
    | prints prints quiet => exact prints.held ▸ mem
    | writes operation isOutput names =>
      rw [writeOutput] at mem
      split at mem <;> exact mem
    | closes prints quiet => exact prints.held ▸ (held_close_sublist _ _).subset mem
    | begins quiet names => exact held_beginOpen _ _ _ ▸ mem

end Connection

variable (session : Session)

def HandlesAtOnce (move : Move) : Prop :=
  move = .nextTarget → ∀ arrival ∈ session.target.head?, arrival.event.isOutput = true →
    session.loop = .idle ∧ session.connection.waitsFor arrival.event = none

instance HandlesAtOnce.decidable (session : Session) (move : Move) :
    Decidable (HandlesAtOnce session move) :=
  inferInstanceAs (Decidable (_ → ∀ arrival ∈ session.target.head?, _ → _))

structure Prompt (session : Session) : Prop where
  slots : session.connection.slots = outboundDataSlots
  paid : session.connection.Paid
  pending : ∀ event ∈ session.pendingEvents, ∀ arrival ∈ event.arrival,
    arrival.event.isOutput = false
  held : ∀ arrival ∈ session.connection.held, arrival.event.isOutput = false
  replaying : ∀ events, session.loop = .replaying events →
    ∀ arrival ∈ events, arrival.event.isOutput = false
  handling : ∀ arrival, session.loop = .handling (.client arrival) →
    arrival.event.isOutput = true →
    session.connection.slot = true ∧ session.handedOut = some (.client arrival) ∧
      session.connection.waitsFor arrival.event = none
  control : ∀ event ∈ session.control, event.arrival = none

def Loop.isPlain : Loop → Bool
  | .handling _ | .replaying _ => false
  | _ => true

variable {loop : Loop} {ev : Event}

namespace Prompt

variable {sess : Session}

theorem withLoop (prompt : Prompt sess) (plain : loop.isPlain = true) :
    Prompt { sess with loop := loop } where
  slots := prompt.slots
  paid := prompt.paid
  pending := prompt.pending
  held := prompt.held
  replaying := by
    rintro events rfl
    cases plain
  handling := by
    rintro arr rfl
    cases plain
  control := prompt.control

theorem onConnection (prompt : Prompt sess) (plain : sess.loop.isPlain = true)
    {change : Connection → Connection}
    (slots : (change sess.connection).slots = sess.connection.slots)
    (paid : (change sess.connection).Paid)
    (held : ∀ arr ∈ (change sess.connection).held, arr ∈ sess.connection.held) :
    Prompt (sess.onConnection change) where
  slots := slots.trans prompt.slots
  paid := paid
  pending := prompt.pending
  held arr member := prompt.held arr (held arr member)
  replaying := by
    intro events isLoop
    rw [show sess.loop = .replaying events from isLoop] at plain
    cases plain
  handling := by
    intro arr isLoop
    rw [show sess.loop = .handling (.client arr) from isLoop] at plain
    cases plain
  control := prompt.control

theorem serves {pre post : Session} (prompt : Prompt pre)
    (plain : pre.loop.isPlain = true) (serves : Serves pre post) : Prompt post := by
  have stillPlain : post.loop.isPlain = true := by
    rcases serves.loop with same | ended | ⟨wait, waiting, -⟩
    · rw [same, plain]
    · rw [ended]
      rfl
    · rw [waiting]
      rfl
  refine ⟨serves.prints.slots.trans prompt.slots, serves.prints.paid prompt.paid, ?_, ?_, ?_, ?_,
    ?_⟩
  · rw [serves.pendingEvents]
    exact prompt.pending
  · rw [serves.prints.held]
    exact prompt.held
  · intro events isLoop
    rw [isLoop] at stillPlain
    cases stillPlain
  · intro arr isLoop
    rw [isLoop] at stillPlain
    cases stillPlain
  · rw [serves.control]
    exact prompt.control

section

variable (prompt : Prompt sess)
include prompt

theorem handleClient (plain : sess.loop.isPlain = true)
    (ready : arr.event.isOutput = true → sess.connection.slot = true ∧
      sess.connection.waitsFor arr.event = none) :
    Prompt (sess.onConnection fun conn => conn.handleClient arr) := by
  have moved : ∀ other ∈ (sess.connection.handleClient arr).held, other.event.isOutput = false := by
    intro other mem
    rcases mem_held_handleClient mem with old | ⟨rfl, waits⟩
    · exact prompt.held other old
    · exact eq_false_iff.mpr fun isOutput => waits (ready isOutput).2
  refine ⟨(slots_handleClient _ _).trans prompt.slots,
    paid_handleClient prompt.paid fun isOutput => (ready isOutput).1, prompt.pending,
    moved, ?_, ?_, prompt.control⟩
  · intro events isLoop
    rw [show sess.loop = .replaying events from isLoop] at plain
    cases plain
  · intro arr isLoop
    rw [show sess.loop = .handling (.client arr) from isLoop] at plain
    cases plain

theorem replayServerEvents : Prompt sess.replayServerEvents :=
  ⟨prompt.slots, prompt.paid, prompt.pending, prompt.held, nofun, nofun, prompt.control⟩

theorem close (plain : sess.loop.isPlain = true) (id : Uuid) :
    Prompt (sess.onConnection fun conn => conn.close id) :=
  prompt.onConnection plain rfl prompt.paid fun _ mem =>
    (held_close_sublist _ id).subset mem

theorem confirmChannelOpen (id : Uuid) : Prompt (sess.confirmChannelOpen id) := by
  obtain ⟨pre, post, split, rest, -⟩ := held_confirm sess.connection id
  have quiet := prompt.held
  rw [split] at quiet
  refine ⟨prompt.slots, prompt.paid, prompt.pending, ?_, ?_, nofun, prompt.control⟩
  · intro arr mem
    have among : arr ∈ (sess.connection.confirm id).2.held := mem
    rw [rest] at among
    refine quiet arr ?_
    simp only [mem_append] at among ⊢
    tauto
  · rintro events ⟨⟩ arr mem
    refine quiet arr ?_
    simp only [mem_append]
    tauto

theorem accepts (plain : sess.loop.isPlain = true) (id : Uuid)
    (n : ChannelNumber) : Prompt (sess.onConnection fun conn => conn.accept id n) :=
  prompt.onConnection plain rfl prompt.paid fun _ mem => mem

theorem handleEvent (plain : sess.loop.isPlain = true)
    {post : Session} (does : Does sess ev post)
    (ready : ∀ arr, ev = .client arr → arr.event.isOutput = true → sess.connection.slot = true ∧
        sess.connection.waitsFor arr.event = none) : Prompt post := by
  cases does with
  | client arr => exact prompt.handleClient plain (ready arr rfl)
  | done arr isDone =>
    exact ⟨prompt.slots, prompt.paid, prompt.pending, prompt.held, nofun, nofun, prompt.control⟩
  | serves control serves => exact prompt.serves plain serves
  | begins chan uuid aside prints =>
    refine ⟨prints.slots.trans prompt.slots, prints.paid prompt.paid, prompt.pending, ?_, nofun,
      nofun, prompt.control⟩
    intro arr mem
    rw [held_beginOpen, prints.held] at mem
    exact prompt.held arr mem
  | confirms id n =>
    refine confirmChannelOpen (prompt.onConnection plain rfl prompt.paid fun arr mem => ?_) id
    have same : ((sess.connection.accept id n).assignServerId id n).held =
        (sess.connection.accept id n).held := held_onChannel fun _ => rfl
    exact (same ▸ mem : arr ∈ (sess.connection.accept id n).held)
  | unknown id n => exact (prompt.accepts plain id n).replayServerEvents
  | fails id => exact (prompt.close plain id).replayServerEvents

theorem work : Prompt sess.work := by
  rw [Session.work]
  split
  case h_1 event isLoop =>
    refine (prompt.withLoop (rfl : Loop.isPlain .idle = true)).handleEvent rfl
      (Session.does_handleEvent _ event) ?_
    rintro arr rfl isOutput
    obtain ⟨slot, -, waits⟩ := prompt.handling arr isLoop isOutput
    exact ⟨slot, waits⟩
  case h_2 isLoop => exact prompt.replayServerEvents
  case h_3 arr rest isLoop =>
    have quiet := prompt.replaying (arr :: rest) isLoop
    have replayed : Prompt ({ sess with loop := .idle }.onConnection fun conn =>
        conn.handleClient arr) :=
      (prompt.withLoop rfl).handleClient rfl fun isOutput => by
        rw [quiet arr (.head _)] at isOutput
        cases isOutput
    refine ⟨replayed.slots, replayed.paid, replayed.pending, replayed.held, ?_,
      by rintro _ ⟨⟩, replayed.control⟩
    rintro events ⟨⟩ other mem
    exact quiet other (.tail _ mem)
  case h_4 isLoop => exact prompt.withLoop rfl
  case h_5 number request rest isLoop =>
    exact (prompt.withLoop (rfl : Loop.isPlain (.requesting rest) = true)).serves rfl
      (Session.serves_handleChannelRequest _ number request)
  all_goals exact prompt

theorem answered (plain : sess.loop.isPlain = true) (wait : Wait) :
    Prompt (sess.answered wait) := by
  cases wait with
  | pty id n =>
    rw [Session.answered]
    split
    · refine prompt.onConnection plain ?_ ?_ fun arr mem => ?_
      · show ((sess.connection.enqueue _).onChannel id _ _).slots = _
        simp [Connection.slots, Connection.onChannel, Connection.enqueue]
      · intro write mem fromTarget
        rcases mem_append.mp mem with old | new
        · exact prompt.paid write old fromTarget
        · rw [mem_singleton.mp new] at fromTarget
          cases fromTarget
      · exact Connection.held_onChannel Connection.deferred_markPty ▸ mem
    · exact prompt
  | closing id => exact prompt.close plain id
  | other => exact prompt

theorem reply (accepted : Bool) : Prompt (sess.reply accepted) := by
  rw [Session.reply]
  split
  case h_1 id number isLoop =>
    have plain : sess.loop.isPlain = true := by rw [isLoop]; rfl
    rw [Session.opened]
    split
    · exact (prompt.accepts plain id number).confirmChannelOpen id
    · exact (prompt.close plain id).withLoop rfl
  case h_2 wait requests isLoop =>
    have plain : sess.loop.isPlain = true := by rw [isLoop]; rfl
    split
    · exact (prompt.answered plain wait).withLoop rfl
    · exact prompt.withLoop rfl
  case h_3 => exact prompt

end

theorem isPlain_of_awaitsIntake (awaits : sess.awaitsIntake = true) : sess.loop.isPlain = true := by
  grind [awaitsIntake, Loop.isPlain]

theorem handOut (prompt : Prompt sess) (awaits : sess.awaitsIntake = true)
    (atOnce : ∀ arr ∈ ev.arrival, arr.event.isOutput = true →
      sess.loop = .idle ∧ sess.connection.slot = true ∧ sess.connection.waitsFor arr.event = none) :
    Prompt (sess.handOut ev) := by
  rw [Session.handOut]
  split
  case h_1 isLoop =>
    refine ⟨prompt.slots, prompt.paid, prompt.pending, prompt.held, by rintro _ ⟨⟩, ?_,
      prompt.control⟩
    rintro arr ⟨⟩ isOutput
    obtain ⟨-, slot, waits⟩ := atOnce arr rfl isOutput
    exact ⟨slot, rfl, waits⟩
  case h_2 busy =>
    have plain := isPlain_of_awaitsIntake awaits
    refine ⟨prompt.slots, prompt.paid, ?_, prompt.held, ?_, ?_, prompt.control⟩
    · intro other mem arr isArrival
      rcases mem_append.mp mem with old | new
      · exact prompt.pending other old arr isArrival
      · grind
    · intro events isLoop
      rw [show sess.loop = .replaying events from isLoop] at plain
      cases plain
    · intro arr isLoop
      rw [show sess.loop = .handling (.client arr) from isLoop] at plain
      cases plain

theorem claimSlot (prompt : Prompt sess) (plain : sess.loop.isPlain = true)
    (unclaimed : sess.connection.slot = false) (free : 0 < sess.connection.freeSlots) :
    Prompt (sess.onConnection fun conn =>
      { conn with slot := true, freeSlots := conn.freeSlots - 1 }) := by
  refine prompt.onConnection plain ?_ prompt.paid fun _ mem => mem
  simp only [Connection.slots, unclaimed, toNat_true, toNat_false]
  omega

theorem complete (prompt : Prompt sess) {write : Write} {rest : List Write}
    (isWriter : sess.connection.writer = write :: rest) :
    Prompt (sess.onConnection fun conn => { conn with
        writer := rest
        freeSlots := conn.freeSlots + write.slot.toNat }) := by
  refine ⟨?_, ?_, prompt.pending, prompt.held, prompt.replaying, prompt.handling, prompt.control⟩
  · rw [← prompt.slots, Session.onConnection, Connection.slots, Connection.slots, isWriter,
      countP_cons]
    cases write.slot with
    | false => rfl
    | true => simp only [toNat_true, if_true]; omega
  · intro other mem
    refine prompt.paid other ?_
    rw [isWriter]
    exact .tail _ mem

theorem step (prompt : Prompt sess) (m : Move) (atOnce : HandlesAtOnce sess m) :
    Prompt (EventLoop.step sess m) := by
  have moves := sess.moves_step m
  generalize EventLoop.step sess m = later at moves ⊢
  cases moves with
  | idle => exact prompt
  | arriveTarget ev =>
    exact ⟨prompt.slots, prompt.paid, prompt.pending, prompt.held, prompt.replaying,
      prompt.handling, prompt.control⟩
  | arriveControl ev other =>
    refine ⟨prompt.slots, prompt.paid, prompt.pending, prompt.held, prompt.replaying,
      prompt.handling, ?_⟩
    intro queued mem
    rcases mem_append.mp mem with old | new
    · exact prompt.control queued old
    · rw [mem_singleton.mp new, other]
  | claimSlot awaits unclaimed free =>
    exact prompt.claimSlot (isPlain_of_awaitsIntake awaits) unclaimed free
  | nextControl ev rest isControl awaits =>
    have others := prompt.control
    rw [isControl] at others
    have taken : Prompt { sess with control := rest } :=
      ⟨prompt.slots, prompt.paid, prompt.pending, prompt.held, prompt.replaying,
        prompt.handling, fun other mem => others other (.tail _ mem)⟩
    refine taken.handOut awaits fun arr isArrival => ?_
    rw [others ev (.head _)] at isArrival
    cases isArrival
  | nextTarget arr rest isTarget awaits slot =>
    have taken : Prompt { sess with target := rest } :=
      ⟨prompt.slots, prompt.paid, prompt.pending, prompt.held, prompt.replaying,
        prompt.handling, prompt.control⟩
    refine taken.handOut awaits ?_
    rintro _ ⟨⟩ isOutput
    obtain ⟨isIdle, waits⟩ := atOnce rfl arr (by rw [isTarget]; rfl) isOutput
    exact ⟨isIdle, slot, waits⟩
  | takePending ev rest isLoop isPending =>
    have quiet := prompt.pending
    rw [isPending] at quiet
    refine ⟨prompt.slots, prompt.paid, ?_, prompt.held, by rintro _ ⟨⟩, ?_, prompt.control⟩
    · exact fun other mem => quiet other (.tail _ mem)
    · rintro arr ⟨⟩ isOutput
      rw [quiet _ (.head _) arr rfl] at isOutput
      cases isOutput
  | work => exact prompt.work
  | reply accepted => exact prompt.reply accepted
  | complete write rest isWriter => exact prompt.complete isWriter
  | giveUp frames isLoop =>
    have plain : sess.loop.isPlain = true := by rw [isLoop]; rfl
    exact (prompt.serves plain (serves_aside sess ⟨frames, true⟩)).withLoop rfl

theorem initial : Prompt initial := ⟨rfl, nofun, nofun, nofun, nofun, nofun, nofun⟩

end Prompt

def Session.takesSlot : Option Arrival :=
  match session.loop with
  | .handling (.client arrival) | .replaying (arrival :: _) =>
    if arrival.event.isOutput && (session.connection.waitsFor arrival.event).isNone &&
      session.connection.slot then some arrival else none
  | _ => none

/-- Where output is handled as soon as it is handed out, no more of it is on its way to the client
than there are slots, and a slot goes only to the target event that was handed out last. -/
theorem output_is_bounded (moves : List Move)
    (along : Handlers.Along step HandlesAtOnce Session.initial moves) :
    (reach moves).connection.writer.countP Write.fromTarget ≤ outboundDataSlots ∧
      ∀ arrival ∈ (reach moves).takesSlot,
        (reach moves).handedOut = some (.client arrival) := by
  have prompt : Prompt (reach moves) :=
    along.keeps (fun sess m prompt atOnce => prompt.step m atOnce) Prompt.initial
  constructor
  · calc (reach moves).connection.writer.countP Write.fromTarget
        ≤ (reach moves).connection.writer.countP Write.slot := countP_mono_left prompt.paid
      _ ≤ (reach moves).connection.slots := Nat.le_add_left _ _
      _ = outboundDataSlots := prompt.slots
  · intro arrival takes
    rw [takesSlot] at takes
    split at takes
    case h_1 other isLoop =>
      split at takes
      case isTrue ready =>
        cases takes
        simp only [and_eq_true] at ready
        exact (prompt.handling arrival isLoop ready.1.1).2.1
      case isFalse => cases takes
    case h_2 other rest isLoop =>
      split at takes
      case isTrue ready =>
        cases takes
        simp only [and_eq_true] at ready
        rw [prompt.replaying _ isLoop arrival (.head _)] at ready
        cases ready.1.1
      case isFalse => cases takes
    case h_3 => cases takes

def opensChannel : List Move :=
  [.arriveControl (.serverHandler .authenticated), .nextControl, .work,
    .arriveControl (.serverHandler (.channelOpen 7 1 ⟨[], false⟩)), .nextControl, .work,
    .reply true, .work, .work]

def twoLines : List Move :=
  opensChannel ++ [.arriveTarget (.output 1 "one"), .arriveTarget (.output 1 "two"), .claimSlot,
    .nextTarget, .work, .claimSlot, .nextTarget]

theorem two_lines_are_bounded :
    (reach twoLines).connection.writer.countP Write.fromTarget ≤ outboundDataSlots ∧
      (reach twoLines).takesSlot = some ⟨1, .output 1 "two"⟩ ∧
      (reach twoLines).handedOut = some (.client ⟨1, .output 1 "two"⟩) :=
  ⟨(output_is_bounded twoLines (by decide +kernel)).1, by decide +kernel,
    (output_is_bounded twoLines (by decide +kernel)).2 _ (by decide +kernel)⟩

def linesDuringWait (lines : Nat) : List Move :=
  opensChannel ++ [.arriveControl (.serverHandler (.request 7 .pty)), .nextControl, .work] ++
    List.replicate lines (.arriveTarget (.output 1 "line")) ++ [.claimSlot] ++
    List.replicate lines .nextTarget ++ [.reply true, .work] ++
    (List.replicate lines [.takePending, .work]).flatten

def deferredLine : List Move :=
  opensChannel ++ [.arriveTarget (.forwardedTcpIp 2), .claimSlot, .nextTarget, .work,
    .arriveTarget (.output 2 "line"), .nextTarget, .work,
    .arriveControl (.serverChannelOpenResult 2 (some 8)), .nextControl, .work]

theorem output_is_unbounded :
    outboundDataSlots < (reach (linesDuringWait 65)).connection.writer.countP Write.fromTarget ∧
      (reach deferredLine).takesSlot = some ⟨1, .output 2 "line"⟩ ∧
      (reach deferredLine).handedOut = some (.serverChannelOpenResult 2 (some 8)) := by
  decide +kernel

open Option Sql.Table

/-! ### Events are handled in order -/

def Before (first second : Arrival) : Prop :=
  first.number < second.number ∨ second.channel ≠ none ∧ second.channel ≠ first.channel

theorem pairwise_move {first between block last : List Arrival}
    (sorted : (first ++ (between ++ (block ++ last))).Pairwise Before)
    (inOrder : ∀ moved ∈ block, ∀ passed ∈ between, Before moved passed) :
    (first ++ (block ++ (between ++ last))).Pairwise Before := by
  simp only [pairwise_append, mem_append] at sorted ⊢
  grind

variable {chan : Channel} {opens : Prop}

namespace Connection

def Named (connection : Connection) : Prop :=
  ∀ channel ∈ connection.channels.rows, ∀ arrival ∈ channel.deferred,
    arrival.channel = some channel.id

def Stays (before : Connection) (channel : Channel) : Prop :=
  ∃ old ∈ before.channels.rows, old.id = channel.id ∧ channel.deferred = old.deferred ∧
    channel.isOpening = old.isOpening

theorem Stays.of_mem (mem : chan ∈ pre.channels.rows) : pre.Stays chan :=
  ⟨chan, mem, rfl, rfl, rfl⟩

structure Shrinks (opens : Prop) (before after : Connection) : Prop where
  handled : after.handled = before.handled
  held : after.held.Sublist before.held
  kept : (after.held ++ after.discarded).Perm (before.held ++ before.discarded)
  discarded : ∀ arrival ∈ after.discarded, arrival ∈ before.discarded ∨
    ∃ id ∈ after.closed, arrival.channel = some id
  closed : ∀ id ∈ before.closed, id ∈ after.closed
  rows : ∀ channel ∈ after.channels.rows, before.Stays channel ∨ opens ∧ channel.deferred = []

theorem Prints.shrinks (opens : Prop) (prints : Prints pre post) : Shrinks opens pre post where
  handled := prints.handled
  held := by rw [prints.held]
  kept := by rw [prints.held, prints.discarded]
  discarded arrival member := .inl (prints.discarded ▸ member)
  closed id member := prints.closed ▸ member
  rows channel member := .inl (Stays.of_mem (prints.channels ▸ member))

theorem Shrinks.trans {first second third : Connection} (shrinks : Shrinks opens first second)
    (shrinks' : Shrinks opens second third) : Shrinks opens first third where
  handled := shrinks'.handled.trans shrinks.handled
  held := shrinks'.held.trans shrinks.held
  kept := shrinks'.kept.trans shrinks.kept
  discarded := by
    intro arr mem
    rcases shrinks'.discarded arr mem with old | gone
    · refine (shrinks.discarded arr old).imp_right ?_
      rintro ⟨id, closed, names⟩
      exact ⟨id, shrinks'.closed id closed, names⟩
    · exact .inr gone
  closed id mem := shrinks'.closed id (shrinks.closed id mem)
  rows := by
    intro chan mem
    rcases shrinks'.rows chan mem with ⟨old, wasThere, sameId, sameEvents, sameState⟩ | new
    · rcases shrinks.rows old wasThere with ⟨older, wasThere', sameId', sameEvents', sameState'⟩ |
        ⟨opened, none_deferred⟩
      · exact .inl ⟨older, wasThere', sameId'.trans sameId, sameEvents.trans sameEvents',
          sameState.trans sameState'⟩
      · exact .inr ⟨opened, sameEvents.trans none_deferred⟩
    · exact .inr new

theorem Shrinks.named (shrinks : Shrinks opens pre post) (named : pre.Named) : post.Named := by
  intro chan mem arr deferred
  rcases shrinks.rows chan mem with ⟨old, wasThere, sameId, sameEvents, -⟩ | ⟨-, none_deferred⟩
  · rw [← sameId]
    exact named old wasThere arr (sameEvents ▸ deferred)
  · rw [none_deferred] at deferred
    cases deferred

theorem shrinks_close (named : conn.Named) (opens : Prop) (id : Uuid) :
    Shrinks opens conn (conn.close id) where
  handled := rfl
  held := held_close_sublist conn id
  kept := by
    cases found : conn.channels.find? id with
    | none =>
      rw [held_close_of_absent found, close, found]
      simp
    | some chan =>
      obtain ⟨pre, post, split, -, closed, -⟩ := held_split found
      rw [closed, split, close, found]
      simp only [map_some, getD_some, append_assoc]
      rw [← append_assoc post]
      exact Perm.append_left pre perm_append_comm
  discarded := by
    intro arr mem
    rcases mem_append.mp mem with old | new
    · exact .inl old
    · refine .inr ⟨id, mem_append_right _ (.head _), ?_⟩
      cases found : conn.channels.find? id with
      | none =>
        rw [found] at new
        cases new
      | some chan =>
        rw [found] at new
        rw [named chan (mem_of_find? found) arr new]
        exact congrArg some (key_of_find? found)
  closed _ mem := mem_append_left _ mem
  rows _ mem := .inl (Stays.of_mem (mem_delete mem))

theorem shrinks_beginOpen (conn : Connection) (id : Uuid) (serverId : Option ChannelNumber) :
    Shrinks True conn (conn.beginOpen id serverId) where
  handled := rfl
  held := by rw [held_beginOpen]
  kept := by
    rw [held_beginOpen]
    exact Perm.refl _
  discarded _ member := .inl member
  closed _ member := member
  rows channel member := by
    rcases mem_insert member with rfl | old
    · exact .inr ⟨trivial, rfl⟩
    · exact .inl (Stays.of_mem old)

theorem shrinks_onChannel {id : Uuid} {change : Channel → Channel}
    {keeps : ∀ chan, (change chan).id = chan.id}
    (sameEvents : ∀ chan, (change chan).deferred = chan.deferred)
    (sameState : ∀ chan, (change chan).isOpening = chan.isOpening) (opens : Prop) :
    Shrinks opens conn (conn.onChannel id change keeps) where
  handled := rfl
  held := by rw [held_onChannel sameEvents]
  kept := by
    rw [held_onChannel sameEvents]
    exact Perm.refl _
  discarded _ mem := .inl mem
  closed _ mem := mem
  rows chan mem := by
    obtain ⟨old, wasThere, rfl⟩ := mem_map.mp mem
    refine .inl ⟨old, wasThere, ?_⟩
    split
    · exact ⟨(keeps old).symm, sameEvents old, sameState old⟩
    · exact ⟨rfl, rfl, rfl⟩

theorem Shrinks.imp {opens' : Prop} (shrinks : Shrinks opens pre post)
    (weaker : opens → opens') : Shrinks opens' pre post :=
  ⟨shrinks.handled, shrinks.held, shrinks.kept, shrinks.discarded, shrinks.closed,
    fun chan mem => (shrinks.rows chan mem).imp_right fun ⟨isOpen, none_deferred⟩ =>
      ⟨weaker isOpen, none_deferred⟩⟩

theorem Handles.shrinks {ev : RcEvent}
    (handles : Handles conn ev post) (named : conn.Named) :
    Shrinks (ev.channel = none) conn post := by
  cases handles with
  | prints prints quiet => exact prints.shrinks _
  | writes operation isOutput names =>
    rw [writeOutput]
    split
    · exact ⟨rfl, Sublist.refl _, Perm.refl _, fun _ => .inl, fun _ => id,
        fun _ mem => .inl (Stays.of_mem mem)⟩
    · exact ⟨rfl, Sublist.refl _, Perm.refl _, fun _ => .inl, fun _ => id,
        fun _ mem => .inl (Stays.of_mem mem)⟩
  | closes prints quiet =>
    have printed := prints.shrinks (ev.channel = none)
    exact printed.trans (shrinks_close (printed.named named) _ _)
  | begins quiet names => exact (shrinks_beginOpen conn _ none).imp fun _ => names

theorem Shrinks.waitsFor (shrinks : Shrinks opens pre post) (unopened : ¬ opens)
    {ev : RcEvent} (free : pre.waitsFor ev = none) : post.waitsFor ev = none := by
  cases waits : post.waitsFor ev with
  | none => rfl
  | some chan =>
    obtain ⟨names, found, opening⟩ := waitsFor_eq_some waits
    rcases shrinks.rows chan (mem_of_find? found) with
      ⟨old, wasThere, sameId, -, sameState⟩ | ⟨opened, -⟩
    · have stored : pre.channels.find? chan.id = some old := sameId ▸ find?_of_mem wasThere
      rw [Connection.waitsFor, names, bind_some, stored, filter_some,
        if_pos (sameState ▸ opening)] at free
      cases free
    · exact absurd opened unopened

theorem before_of_waitsFor (named : conn.Named)
    (free : conn.waitsFor arr.event = none) : ∀ passed ∈ conn.held, Before arr passed := by
  intro passed mem
  obtain ⟨chan, stored, deferred⟩ := mem_held.mp mem
  have names := named chan stored passed deferred
  refine .inr ⟨by rw [names]; exact nofun, fun same => ?_⟩
  have opening : chan.isOpening = true := by
    obtain ⟨id, serverId, s⟩ := chan
    cases s with
    | opening waiting => rfl
    | opened pty => cases deferred
  have isChannel : arr.event.channel = some chan.id := same.symm.trans names
  rw [waitsFor, isChannel, bind_some, find?_of_mem stored, filter_some, if_pos opening] at free
  cases free

end Connection

def Loop.replayed : Loop → List Arrival
  | .replaying events => events
  | _ => []

def Loop.inHand : Loop → List Arrival
  | .handling (.client arrival) => [arrival]
  | _ => []

def Session.queued : List Arrival :=
  session.pendingEvents.filterMap Event.arrival ++ session.target

def Session.waiting : List Arrival :=
  session.loop.replayed ++ (session.connection.held ++ (session.loop.inHand ++ session.queued))

structure Ordered (session : Session) : Prop where
  sorted : (session.connection.handled ++ session.waiting).Pairwise Before
  once : ∀ arrival, session.connection.handled.count arrival + session.waiting.count arrival +
    session.connection.discarded.count arrival = session.arrived.count arrival
  numbers : session.arrived.map Arrival.number = List.range session.arrived.length
  named : session.connection.Named
  replaying : ∀ arrival ∈ session.loop.replayed, arrival.channel ≠ none ∧
    session.connection.waitsFor arrival.event = none
  discarded : ∀ arrival ∈ session.connection.discarded,
    ∃ id ∈ session.connection.closed, arrival.channel = some id
  control : ∀ event ∈ session.control, event.arrival = none

namespace Ordered

theorem initial : Ordered initial :=
  ⟨Pairwise.nil, fun _ => rfl, rfl, nofun, nofun, nofun, nofun⟩

variable {sess : Session} (ord : Ordered sess)

include ord

theorem withLoop (none_replayed : sess.loop.replayed = [])
    (none_inHand : sess.loop.inHand = []) (none_replayed' : loop.replayed = [])
    (none_inHand' : loop.inHand = []) : Ordered { sess with loop := loop } := by
  have same : waiting { sess with loop := loop } = sess.waiting := by
    rw [waiting, waiting, none_replayed, none_inHand]
    dsimp only
    rw [none_replayed', none_inHand']
    rfl
  refine ⟨?_, ?_, ord.numbers, ord.named, ?_, ord.discarded, ord.control⟩
  · rw [same]
    exact ord.sorted
  · rw [same]
    exact ord.once
  · grind

theorem shrinks
    (shrinks : Shrinks opens sess.connection post)
    (unopened : sess.loop.replayed ≠ [] → ¬ opens) : Ordered { sess with connection := post } := by
  refine ⟨?_, ?_, ord.numbers, shrinks.named ord.named, ?_, ?_, ord.control⟩
  · rw [shrinks.handled]
    exact ord.sorted.sublist ((Sublist.refl _).append
      ((Sublist.refl _).append (shrinks.held.append (Sublist.refl _))))
  · intro arr
    have once := ord.once arr
    have kept := shrinks.kept.count_eq arr
    rw [count_append, count_append] at kept
    rw [← once, shrinks.handled, waiting, waiting]
    simp only [count_append, queued]
    omega
  · intro arr mem
    obtain ⟨names, free⟩ := ord.replaying arr mem
    exact ⟨names, shrinks.waitsFor (unopened (ne_nil_of_mem mem)) free⟩
  · intro arr mem
    rcases shrinks.discarded arr mem with old | gone
    · obtain ⟨id, closed, names⟩ := ord.discarded arr old
      exact ⟨id, shrinks.closed id closed, names⟩
    · exact gone

theorem handles (isLoop : sess.loop = .handling (.client arr))
    (free : sess.connection.waitsFor arr.event = none)
    (none_replayed : loop.replayed = []) (none_inHand : loop.inHand = []) :
    Ordered { sess with
      connection :=
        { sess.connection with handled := sess.connection.handled ++ [arr] }
      loop := loop } := by
  have sorted := ord.sorted
  rw [waiting, isLoop] at sorted
  refine ⟨?_, ?_, ord.numbers, ord.named, ?_, ord.discarded, ord.control⟩
  · have moved : (sess.connection.handled ++ ([arr] ++ (sess.connection.held ++
        sess.queued))).Pairwise Before := by
      refine pairwise_move sorted ?_
      rintro _ mem passed isHeld
      rw [mem_singleton.mp mem]
      exact before_of_waitsFor ord.named free passed isHeld
    rw [waiting]
    dsimp only
    rw [none_replayed, none_inHand, append_assoc]
    exact moved
  · intro other
    rw [← ord.once other, waiting, waiting, isLoop]
    dsimp only
    rw [none_replayed, none_inHand]
    simp only [count_append, Loop.replayed, Loop.inHand, count_nil]
    show _ + _ + (0 + (sess.connection.held.count other + (0 + sess.queued.count other))) + _ = _
    omega
  · grind

theorem defers (isLoop : sess.loop = .handling (.client arr))
    (waits : sess.connection.waitsFor arr.event = some chan) :
    Ordered { sess with
      connection := sess.connection.defer chan.id arr
      loop := .idle } := by
  obtain ⟨names, found, opening⟩ := waitsFor_eq_some waits
  obtain ⟨pre, post, split, changed, -, others⟩ := held_split found
  have held : (sess.connection.defer chan.id arr).held =
      pre ++ (chan.deferred ++ [arr]) ++ post := by
    rw [defer, changed, deferred_defer opening]
  have sorted := ord.sorted
  rw [waiting, isLoop, split] at sorted
  refine ⟨?_, ?_, ord.numbers, ?_, nofun, ord.discarded, ord.control⟩
  · have moved : (sess.connection.handled ++ pre ++ chan.deferred ++ ([arr] ++
        (post ++ sess.queued))).Pairwise Before := by
      refine pairwise_move (by simpa [Loop.replayed, Loop.inHand] using sorted) ?_
      rintro _ mem passed isPassed
      rw [mem_singleton.mp mem]
      obtain ⟨other, stored, ne, deferred⟩ := others passed (mem_append_right _ isPassed)
      have ofOther := ord.named other stored passed deferred
      refine .inr ⟨by rw [ofOther]; exact nofun, ?_⟩
      rw [ofOther, show arr.channel = some chan.id from names]
      exact fun same => ne (some.inj same)
    rw [waiting]
    dsimp only
    rw [held]
    simpa [Loop.replayed, Loop.inHand, queued, defer, onChannel] using moved
  · intro other
    rw [← ord.once other, waiting, waiting, isLoop]
    dsimp only
    rw [held, split]
    simp only [count_append, Loop.replayed, Loop.inHand, count_nil]
    show sess.connection.handled.count other + (0 + (_ + (0 + sess.queued.count other))) +
      sess.connection.discarded.count other = _
    omega
  · intro r mem other deferred
    obtain ⟨old, wasThere, rfl⟩ := mem_map.mp mem
    split at deferred
    case isTrue same =>
      have isChannel : old = chan := some.inj ((find?_of_mem wasThere).symm.trans
          ((of_decide_eq_true same : old.id = chan.id) ▸ found))
      rw [if_pos same, id_defer, isChannel]
      rw [isChannel, deferred_defer opening] at deferred
      rcases mem_append.mp deferred with prev | last
      · exact ord.named chan (mem_of_find? found) other prev
      · rw [mem_singleton.mp last]
        exact names
    case isFalse ne =>
      rw [if_neg ne]
      exact ord.named old wasThere other deferred

theorem handleClient (isLoop : sess.loop = .handling (.client arr)) :
    Ordered ({ sess with loop := .idle }.onConnection fun conn =>
      conn.handleClient arr) := by
  cases waits : sess.connection.waitsFor arr.event with
  | some chan =>
    rw [onConnection, Connection.handleClient]
    dsimp only
    rw [waits]
    exact ord.defers isLoop waits
  | none =>
    have moved := ord.handles isLoop waits (rfl : Loop.replayed .idle = []) rfl
    rw [onConnection, Connection.handleClient]
    dsimp only
    rw [waits]
    exact moved.shrinks ((Connection.handles_handleRemoteEvent _ arr.event).shrinks
      ord.named) fun some_replayed => absurd rfl some_replayed

theorem replays {rest : List Arrival}
    (isLoop : sess.loop = .replaying (arr :: rest)) :
    Ordered ({ sess with loop := .replaying rest }.onConnection fun conn =>
      conn.handleClient arr) := by
  have replaying := ord.replaying
  rw [isLoop] at replaying
  obtain ⟨names, free⟩ := replaying arr (.head _)
  have moved : Ordered { sess with
      connection := { sess.connection with handled := sess.connection.handled ++ [arr] }
      loop := .replaying rest } := by
    refine ⟨?_, ?_, ord.numbers, ord.named, ?_, ord.discarded, ord.control⟩
    · have sorted := ord.sorted
      rw [waiting, isLoop] at sorted
      rw [waiting]
      simpa [Loop.replayed, Loop.inHand, queued, Connection.held] using sorted
    · intro other
      rw [← ord.once other, waiting, waiting, isLoop]
      simp only [count_append, Loop.replayed, Loop.inHand, count_cons, queued,
        Connection.held, count_nil]
      omega
    · exact fun other mem => replaying other (.tail _ mem)
  rw [onConnection, Connection.handleClient]
  dsimp only
  rw [free]
  exact moved.shrinks ((Connection.handles_handleRemoteEvent _ arr.event).shrinks
    ord.named) fun _ => names

omit ord in
theorem waitsFor_confirm (conn : Connection) {id : Uuid} {ev : RcEvent}
    (names : ev.channel = some id) : (conn.confirm id).2.waitsFor ev = none := by
  rw [waitsFor, names, bind_some]
  show ((conn.onChannel id Channel.confirmOpen id_confirmOpen).channels.find?
    id).filter Channel.isOpening = none
  rw [onChannel, find?_update]
  cases found : conn.channels.find? id with
  | none => rfl
  | some chan =>
    have isId : chan.id = id := key_of_find? found
    have isOpen : chan.confirmOpen.isOpening = false := by
      obtain ⟨_, _, s⟩ := chan
      cases s <;> rfl
    simp [isId, isOpen]

omit ord in
theorem named_confirm (named : conn.Named) (id : Uuid) : (conn.confirm id).2.Named := by
  intro r mem arr deferred
  obtain ⟨old, wasThere, rfl⟩ := mem_map.mp mem
  split at deferred
  case isTrue same =>
    have none_left : old.confirmOpen.deferred = [] := by
      obtain ⟨_, _, s⟩ := old
      cases s <;> rfl
    rw [none_left] at deferred
    cases deferred
  case isFalse different =>
    rw [if_neg different]
    exact named old wasThere arr deferred

theorem confirmChannelOpen (none_replayed : sess.loop.replayed = [])
    (none_inHand : sess.loop.inHand = []) (id : Uuid) : Ordered (sess.confirmChannelOpen id) := by
  obtain ⟨pre, post, split, rest, others⟩ := held_confirm sess.connection id
  have ofChannel : ∀ arr ∈ (sess.connection.confirm id).1, arr.channel = some id := by
    intro arr mem
    cases found : sess.connection.channels.find? id with
    | none =>
      rw [confirm, found] at mem
      cases mem
    | some chan =>
      rw [confirm, found] at mem
      rw [ord.named chan (mem_of_find? found) arr mem]
      exact congrArg some (key_of_find? found)
  refine ⟨?_, ?_, ord.numbers, named_confirm ord.named id, ?_, ord.discarded, ord.control⟩
  · have sorted := ord.sorted
    rw [Session.waiting, none_replayed, none_inHand, split] at sorted
    have moved : (sess.connection.handled ++ ((sess.connection.confirm id).1 ++ (pre ++
        (post ++ sess.queued)))).Pairwise Before := by
      refine pairwise_move (by simpa using sorted) fun replayed isReplayed passed isPassed => ?_
      obtain ⟨other, stored, ne, deferred⟩ := others passed (mem_append_left _ isPassed)
      have ofOther := ord.named other stored passed deferred
      refine .inr ⟨by rw [ofOther]; exact some_ne_none _, ?_⟩
      rw [ofOther, ofChannel replayed isReplayed]
      exact fun same => ne (Option.some.inj same)
    rw [Session.waiting, Session.confirmChannelOpen]
    dsimp only
    rw [rest]
    simpa [Loop.replayed, Loop.inHand, Session.queued, confirm, onChannel] using moved
  · intro other
    show sess.connection.handled.count other + ((sess.connection.confirm id).1 ++
      ((sess.connection.confirm id).2.held ++ ([] ++ sess.queued))).count other +
      sess.connection.discarded.count other = sess.arrived.count other
    rw [← ord.once other, Session.waiting, none_replayed, none_inHand, split, rest]
    simp only [count_append, count_nil]
    omega
  · intro arr mem
    have names := ofChannel arr mem
    exact ⟨by rw [names]; exact some_ne_none _, waitsFor_confirm sess.connection names⟩

omit ord in
theorem serves {pre post : Session} (ord : Ordered pre)
    (none_replayed : pre.loop.replayed = []) (none_inHand : pre.loop.inHand = [])
    (serves : Serves pre post) : Ordered post := by
  have printed := ord.shrinks (serves.prints.shrinks True) fun some_replayed =>
    absurd none_replayed some_replayed
  have turned : Ordered { pre with connection := post.connection, loop := post.loop } := by
    rcases serves.loop with same | ended | ⟨wait, waiting, -⟩
    · rw [same]
      exact printed
    · rw [ended]
      exact printed.withLoop none_replayed none_inHand rfl rfl
    · rw [waiting]
      exact printed.withLoop none_replayed none_inHand rfl rfl
  have sameWaiting : post.waiting =
      waiting { pre with connection := post.connection, loop := post.loop } := by
    rw [waiting, waiting, queued, serves.pendingEvents, serves.target]
    rfl
  refine ⟨?_, ?_, ?_, turned.named, turned.replaying, turned.discarded, ?_⟩
  · rw [sameWaiting]
    exact turned.sorted
  · rw [sameWaiting, serves.arrived]
    exact turned.once
  · rw [serves.arrived]
    exact turned.numbers
  · rw [serves.control]
    exact turned.control

theorem replayServerEvents (none_replayed : sess.loop.replayed = [])
    (none_inHand : sess.loop.inHand = []) : Ordered sess.replayServerEvents := by
  have turned := ord.withLoop none_replayed none_inHand
    (rfl : Loop.replayed (.requesting sess.deferredServerEvents) = []) rfl
  exact ⟨turned.sorted, turned.once, turned.numbers, turned.named, turned.replaying,
    turned.discarded, turned.control⟩

theorem close (none_replayed : sess.loop.replayed = []) (id : Uuid) :
    Ordered (sess.onConnection fun conn => conn.close id) :=
  ord.shrinks (shrinks_close ord.named True id) fun some_replayed =>
    absurd none_replayed some_replayed

theorem assigns (none_replayed : sess.loop.replayed = []) (id : Uuid)
    (n : ChannelNumber) : Ordered (sess.onConnection fun conn => conn.assignServerId id n) := by
  have shrinks : Shrinks True sess.connection (sess.connection.assignServerId id n) := by
    refine shrinks_onChannel ?_ ?_ True <;> exact fun _ => rfl
  exact ord.shrinks shrinks fun some_replayed => absurd none_replayed some_replayed

theorem accepts (id : Uuid) (n : ChannelNumber) :
    Ordered (sess.onConnection fun conn => conn.accept id n) :=
  ⟨ord.sorted, ord.once, ord.numbers, ord.named, ord.replaying, ord.discarded, ord.control⟩

theorem handleEvent {post : Session} (isLoop : sess.loop = .handling ev)
    (does : Does { sess with loop := .idle } ev post) : Ordered post := by
  have idle : ev.arrival = none → Ordered { sess with loop := .idle } := by
    intro control
    refine ord.withLoop ?_ ?_ rfl rfl
    · rw [isLoop]
      rfl
    · rw [isLoop]
      cases ev <;> first | rfl | cases control
  cases does with
  | client arr => exact ord.handleClient isLoop
  | done arr isDone =>
    refine ord.handles isLoop ?_ rfl rfl
    rw [isDone]
    rfl
  | serves control serves => exact (idle control).serves rfl rfl serves
  | begins chan uuid aside prints =>
    have printed := (idle rfl).shrinks (prints.shrinks True) fun some_replayed =>
      absurd rfl some_replayed
    have begun := printed.shrinks (shrinks_beginOpen _ uuid (some chan))
      fun some_replayed => absurd rfl some_replayed
    exact begun.withLoop rfl rfl rfl rfl
  | confirms id n =>
    exact (((idle rfl).accepts id n).assigns rfl id n).confirmChannelOpen rfl rfl id
  | unknown id n => exact ((idle rfl).accepts id n).replayServerEvents rfl rfl
  | fails id => exact ((idle rfl).close rfl id).replayServerEvents rfl rfl

theorem work : Ordered sess.work := by
  rw [Session.work]
  split
  case h_1 ev isLoop => exact ord.handleEvent isLoop (Session.does_handleEvent _ ev)
  case h_2 isLoop => exact ord.replayServerEvents (by rw [isLoop]; rfl) (by rw [isLoop]; rfl)
  case h_3 arr rest isLoop => exact ord.replays isLoop
  case h_4 isLoop => exact ord.withLoop (by rw [isLoop]; rfl) (by rw [isLoop]; rfl) rfl rfl
  case h_5 number request rest isLoop =>
    have turned := ord.withLoop (by rw [isLoop]; rfl) (by rw [isLoop]; rfl)
      (rfl : Loop.replayed (.requesting rest) = []) rfl
    exact turned.serves rfl rfl (Session.serves_handleChannelRequest _ number request)
  all_goals exact ord

theorem answered (none_replayed : sess.loop.replayed = [])
    (wait : Wait) : Ordered (sess.answered wait) := by
  cases wait with
  | pty id n =>
    rw [Session.answered]
    split
    · have marked : Connection.Shrinks True
          (sess.connection.enqueue ⟨n, id, .success, false, false⟩)
          ((sess.connection.enqueue ⟨n, id, .success, false, false⟩).markPty id) :=
        shrinks_onChannel deferred_markPty (fun chan => by
          obtain ⟨_, _, s⟩ := chan
          cases s <;> rfl) True
      have shrinks : Connection.Shrinks True sess.connection
          ((sess.connection.enqueue ⟨n, id, .success, false, false⟩).markPty id) :=
        ⟨marked.handled, marked.held, marked.kept, marked.discarded, marked.closed, marked.rows⟩
      exact ord.shrinks shrinks fun some_replayed => absurd none_replayed some_replayed
    · exact ord
  | closing id => exact ord.close none_replayed id
  | other => exact ord

omit ord in
theorem loop_answered (sess : Session) (wait : Wait) : (sess.answered wait).loop = sess.loop := by
  cases wait with
  | pty id n =>
    rw [Session.answered]
    split <;> rfl
  | _ => rfl

theorem reply (accepted : Bool) : Ordered (sess.reply accepted) := by
  rw [Session.reply]
  split
  case h_1 id number isLoop =>
    have none_replayed : sess.loop.replayed = [] := by rw [isLoop]; rfl
    have none_inHand : sess.loop.inHand = [] := by rw [isLoop]; rfl
    rw [Session.opened]
    split
    · exact (ord.accepts id number).confirmChannelOpen none_replayed none_inHand id
    · exact (ord.close none_replayed id).withLoop none_replayed none_inHand rfl rfl
  case h_2 wait requests isLoop =>
    have none_replayed : sess.loop.replayed = [] := by rw [isLoop]; rfl
    have none_inHand : sess.loop.inHand = [] := by rw [isLoop]; rfl
    split
    · refine (ord.answered none_replayed wait).withLoop ?_ ?_ rfl rfl
      · rw [loop_answered, none_replayed]
      · rw [loop_answered, none_inHand]
    · exact ord.withLoop none_replayed none_inHand rfl rfl
  case h_3 => exact ord

omit ord in
theorem handOut {sess between : Session} (ord : Ordered sess) (awaits : between.awaitsIntake = true)
    (sameConnection : between.connection = sess.connection)
    (sameLoop : between.loop = sess.loop) (sameArrived : between.arrived = sess.arrived)
    (taken : sess.queued = between.pendingEvents.filterMap Event.arrival ++
      (ev.arrival.toList ++ between.target))
    (control : ∀ other ∈ between.control, other.arrival = none) : Ordered (between.handOut ev) := by
  have sorted := ord.sorted
  have once := ord.once
  rw [Session.handOut]
  split
  case h_1 isIdle =>
    rw [Session.awaitsIntake, isIdle] at awaits
    have none_pending : between.pendingEvents = [] := isEmpty_iff.mp awaits
    have same : Session.waiting
        { between with loop := .handling ev, handedOut := some ev } = sess.waiting := by
      rw [Session.waiting, Session.waiting, taken, ← sameLoop, isIdle, ← sameConnection]
      cases ev <;> simp [Loop.replayed, Loop.inHand, Session.queued, Event.arrival, none_pending]
    refine ⟨?_, ?_, ?_, ?_, (by rintro _ ⟨⟩), ?_, control⟩
    · rw [same]
      exact sameConnection ▸ sorted
    · rw [same]
      exact sameArrived ▸ sameConnection ▸ once
    · exact sameArrived ▸ ord.numbers
    · exact sameConnection ▸ ord.named
    · exact sameConnection ▸ ord.discarded
  case h_2 busy =>
    have same : Session.waiting { between with
          pendingEvents := between.pendingEvents ++ [ev]
          handedOut := some ev } = sess.waiting := by
      rw [Session.waiting, Session.waiting, taken, ← sameLoop, ← sameConnection]
      cases ev <;> simp [Session.queued, Event.arrival]
    refine ⟨?_, ?_, ?_, ?_, ?_, ?_, control⟩
    · rw [same]
      exact sameConnection ▸ sorted
    · rw [same]
      exact sameArrived ▸ sameConnection ▸ once
    · exact sameArrived ▸ ord.numbers
    · exact sameConnection ▸ ord.named
    · exact sameLoop ▸ sameConnection ▸ ord.replaying
    · exact sameConnection ▸ ord.discarded

theorem number_lt (mem : arr ∈ sess.connection.handled ++ sess.waiting) :
    arr.number < sess.arrived.length := by
  have cnt : 0 < sess.arrived.count arr := by
    rw [← ord.once arr]
    have somewhere := count_pos_iff.mpr mem
    rw [count_append] at somewhere
    omega
  have numbered := mem_map_of_mem (f := Arrival.number) (count_pos_iff.mp cnt)
  rw [ord.numbers] at numbered
  exact mem_range.mp numbered

theorem arriveTarget (ev : RcEvent) :
    Ordered (step sess (.arriveTarget ev)) := by
  let last : Arrival := ⟨sess.arrived.length, ev⟩
  have grown : waiting (step sess (.arriveTarget ev)) = sess.waiting ++ [last] := by
    simp [waiting, queued, step, last]
  refine ⟨?_, ?_, ?_, ord.named, ord.replaying, ord.discarded, ord.control⟩
  · rw [grown, ← append_assoc]
    refine pairwise_append.mpr ⟨ord.sorted, pairwise_singleton _ _, ?_⟩
    intro prev mem _ isLast
    rw [mem_singleton.mp isLast]
    exact .inl (ord.number_lt mem)
  · intro other
    rw [grown]
    show sess.connection.handled.count other + _ + sess.connection.discarded.count other =
      (sess.arrived ++ [last]).count other
    rw [count_append, count_append, ← ord.once other]
    omega
  · show (sess.arrived ++ [last]).map Arrival.number = range (sess.arrived ++ [last]).length
    rw [map_append, ord.numbers, length_append, length_singleton, range_succ]
    rfl

theorem takePending {rest : List Event} (isLoop : sess.loop = .idle)
    (isPending : sess.pendingEvents = ev :: rest) :
    Ordered { sess with loop := .handling ev, pendingEvents := rest } := by
  have same : waiting { sess with loop := .handling ev, pendingEvents := rest } =
      sess.waiting := by
    rw [waiting, waiting, queued, queued, isLoop, isPending]
    cases ev <;> simp [Loop.replayed, Loop.inHand, Event.arrival, filterMap_cons]
  refine ⟨?_, ?_, ord.numbers, ord.named, nofun, ord.discarded, ord.control⟩
  · rw [same]
    exact ord.sorted
  · rw [same]
    exact ord.once

theorem step (m : Move) : Ordered (EventLoop.step sess m) := by
  have moves := sess.moves_step m
  generalize EventLoop.step sess m = later at moves ⊢
  cases moves with
  | idle => exact ord
  | arriveTarget ev => exact ord.arriveTarget ev
  | arriveControl ev other =>
    refine ⟨ord.sorted, ord.once, ord.numbers, ord.named, ord.replaying, ord.discarded, ?_⟩
    intro queued mem
    rcases mem_append.mp mem with old | new
    · exact ord.control queued old
    · rw [mem_singleton.mp new, other]
  | claimSlot | complete =>
    exact ⟨ord.sorted, ord.once, ord.numbers, ord.named, ord.replaying, ord.discarded, ord.control⟩
  | nextControl ev rest isControl awaits =>
    have others := ord.control
    rw [isControl] at others
    refine ord.handOut awaits rfl rfl rfl ?_ fun other mem => others other (.tail _ mem)
    rw [others ev (.head _)]
    rfl
  | nextTarget arr rest isTarget awaits =>
    refine ord.handOut awaits rfl rfl rfl ?_ ord.control
    rw [queued, isTarget]
    rfl
  | takePending ev rest isLoop isPending => exact ord.takePending isLoop isPending
  | work => exact ord.work
  | reply accepted => exact ord.reply accepted
  | giveUp frames isLoop =>
    have none_replayed : sess.loop.replayed = [] := by rw [isLoop]; rfl
    have none_inHand : sess.loop.inHand = [] := by rw [isLoop]; rfl
    have printed := ord.serves none_replayed none_inHand (serves_aside sess ⟨frames, true⟩)
    exact printed.withLoop none_replayed none_inHand rfl rfl

end Ordered

theorem ordered_reach (ms : List Move) : Ordered (reach ms) := by
  have keeps : ∀ sess m, Ordered sess → Ordered (step sess m) := fun _ m ord => ord.step m
  exact Handlers.run_keeps keeps ms Ordered.initial

theorem confirmed_reach (ms : List Move) : Confirmed (reach ms) := by
  have keeps : ∀ sess m, Confirmed sess → Confirmed (step sess m) :=
    fun _ m confirmed => confirmed.step m
  exact Handlers.run_keeps keeps ms Confirmed.initial

/-- In every run, what is written is for channels that were confirmed before, the target events are
handled in the order of their arrival but for events of different channels, and every one of them is
once among the events that are handled, those that wait and those that went with their channel. -/
theorem events_in_order (moves : List Move) :
    (∀ move, ∀ write ∈ (reach (moves ++ [move])).connection.enqueued,
      (write.owner, write.channel) ∈ (reach moves).connection.confirmed) ∧
    (reach moves).connection.handled.Pairwise Before ∧
    (∀ arrival ∈ (reach moves).arrived, (reach moves).connection.handled.count arrival +
      (reach moves).waiting.count arrival + (reach moves).connection.discarded.count arrival = 1) ∧
    ∀ arrival ∈ (reach moves).connection.discarded,
      ∃ id ∈ (reach moves).connection.closed, arrival.channel = some id := by
  have ord := ordered_reach moves
  refine ⟨fun move => ?_, ?_, fun arrival arrived => ?_, ord.discarded⟩
  · rw [reach, Handlers.run, foldl_append]
    exact (confirmed_reach moves).written_step move
  · exact ord.sorted.sublist (sublist_append_left _ _)
  · rw [ord.once arrival]
    refine count_eq_one_of_mem (List.Nodup.of_map Arrival.number ?_) arrived
    rw [ord.numbers]
    exact nodup_range

def writesBeforeAccepted : List Move :=
  [.arriveControl (.serverHandler .authenticated), .nextControl, .work,
    .arriveTarget (.forwardedTcpIp 7), .arriveTarget (.output 7 "banner"), .claimSlot, .nextTarget,
    .work, .nextTarget, .work, .arriveTarget (.eof 7),
    .arriveControl (.serverChannelOpenResult 7 (some 3)), .nextControl, .work, .work, .work, .work,
    .claimSlot, .nextTarget, .work]

theorem held_back_until_accepted :
    (reach (writesBeforeAccepted.take 10)).connection.held = [⟨1, .output 7 "banner"⟩] ∧
    (reach writesBeforeAccepted).connection.handled =
      [⟨0, .forwardedTcpIp 7⟩, ⟨1, .output 7 "banner"⟩, ⟨2, .eof 7⟩] ∧
    (reach writesBeforeAccepted).connection.handled.Pairwise Before :=
  ⟨by decide +kernel, by decide +kernel, (events_in_order writesBeforeAccepted).2.1⟩

end Warpgate.Ssh.EventLoop
