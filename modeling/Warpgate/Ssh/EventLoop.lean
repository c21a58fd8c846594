/-
This file models the event loop of an SSH session, and says what its handlers can do.
-/

import Warpgate.Basic
import Warpgate.Handlers.Logic
import Warpgate.Sql.Table

namespace Warpgate.Ssh.EventLoop

abbrev ChannelNumber := Nat

/-! ### Events -/

inductive RcState
  | notInitialized
  | connecting
  | connected
  | disconnected
  deriving DecidableEq, Repr

inductive RcEvent
  | state (state : RcState) (frame : String)
  | output (channel : Uuid) (data : String)
  | opened (channel : Uuid)
  | success (channel : Uuid)
  | channelFailure (channel : Uuid)
  | eof (channel : Uuid)
  | close (channel : Uuid)
  | error (frames : List String)
  | exitStatus (channel : Uuid) (code : Nat)
  | exitSignal (channel : Uuid) (signal : String)
  | extendedData (channel : Uuid) (data : String) (ext : Nat)
  | connectionError (frames : List String)
  | hopConnected
  | done
  | hostKeyReceived
  | hostKeyUnknown (frames : List String)
  | forwardedTcpIp (id : Uuid)
  | forwardedStreamlocal (id : Uuid)
  | forwardedAgent (id : Uuid)
  | x11 (id : Uuid)
  deriving DecidableEq, Repr

def RcEvent.channel : RcEvent → Option Uuid
  | output channel _ | success channel | channelFailure channel | eof channel | close channel
  | exitStatus channel _ | exitSignal channel _ | extendedData channel _ _ => some channel
  | state _ _ | error _ | connectionError _ | hopConnected | opened _ | done | hostKeyReceived
  | hostKeyUnknown _ | forwardedTcpIp _ | forwardedStreamlocal _ | forwardedAgent _ | x11 _ =>
    none

def RcEvent.isOutput : RcEvent → Bool
  | output _ _ | extendedData _ _ _ => true
  | _ => false

structure Arrival where
  number : Nat
  event : RcEvent
  deriving DecidableEq, Repr

def Arrival.channel (arrival : Arrival) : Option Uuid := arrival.event.channel

structure Aside where
  frames : List String
  disconnects : Bool
  deriving DecidableEq, Repr

inductive ChannelRequest
  | pty
  | shell (aside : Aside)
  | exec (aside : Aside)
  | data (aside : Aside)
  | extendedData
  | close
  | stalled
  | eof
  | signal
  | windowChange
  | env (reserved : Bool)
  | subsystem (aside : Aside)
  | x11 (aside : Aside)
  | agentForward
  deriving DecidableEq, Repr

inductive ServerHandlerEvent
  | authenticated
  | channelOpen (channel : ChannelNumber) (uuid : Uuid) (aside : Aside)
  | request (channel : ChannelNumber) (request : ChannelRequest)
  | auth
  | forward
  | disconnect
  deriving DecidableEq, Repr

inductive Event
  | client (arrival : Arrival)
  | serverHandler (event : ServerHandlerEvent)
  | command (frames : List String)
  | serviceOutput (frame : Option String)
  | menu (aside : Aside)
  | adminApprovalPending (frames : List String)
  | adminApprovalResolved (aside : Aside)
  | serverChannelOpenResult (id : Uuid) (result : Option ChannelNumber)
  deriving DecidableEq, Repr

def Event.arrival : Event → Option Arrival
  | client arrival => some arrival
  | _ => none

inductive ChannelState
  | opening (deferred : List Arrival)
  | opened (pty : Bool)
  deriving DecidableEq, Repr

/-! ### Channels -/

/-- What arrives before the client has confirmed a channel is kept with it. -/
structure Channel where
  id : Uuid
  serverId : Option ChannelNumber
  state : ChannelState
  deriving DecidableEq, Repr

namespace Channel

variable (channel : Channel)

def isOpen : Bool :=
  match channel.state with
  | .opened _ => true
  | .opening _ => false

def isOpening : Bool := !channel.isOpen

def hasPty : Bool :=
  match channel.state with
  | .opened pty => pty
  | .opening _ => false

def deferred : List Arrival :=
  match channel.state with
  | .opening deferred => deferred
  | .opened _ => []

def defer (arrival : Arrival) : Channel :=
  match channel.state with
  | .opening deferred => { channel with state := .opening (deferred ++ [arrival]) }
  | .opened _ => channel

def markPty : Channel :=
  match channel.state with
  | .opening _ => channel
  | .opened _ => { channel with state := .opened true }

def confirmOpen : Channel :=
  match channel.state with
  | .opening _ => { channel with state := .opened false }
  | .opened _ => channel

end Channel

inductive WriteOperation
  | data (data : String)
  | extendedData (ext : Nat) (data : String)
  | eof
  | close
  | success
  | failure
  | exitStatus (code : Nat)
  | exitSignal (signal : String)
  deriving DecidableEq, Repr

structure Write where
  channel : ChannelNumber
  owner : Uuid
  operation : WriteOperation
  slot : Bool
  fromTarget : Bool
  deriving DecidableEq, Repr

def outboundDataSlots : Nat := 64

structure Connection where
  channels : Sql.Table Channel Channel.id
  slot : Bool
  freeSlots : Nat
  writer : List Write
  sessionHandle : Bool
  rcState : RcState
  confirmed : List (Uuid × ChannelNumber)
  enqueued : List Write
  handled : List Arrival
  discarded : List Arrival
  closed : List Uuid

namespace Connection

variable (connection : Connection)

def close (id : Uuid) : Connection :=
  { connection with
    channels := connection.channels.delete fun channel => channel.id = id
    discarded := connection.discarded ++
      ((connection.channels.find? id).map Channel.deferred).getD []
    closed := connection.closed ++ [id] }

def beginOpen (id : Uuid) (serverId : Option ChannelNumber) : Connection :=
  { connection with channels := (connection.channels.insert ⟨id, serverId, .opening []⟩).2 }

def onChannel (id : Uuid) (change : Channel → Channel)
    (keeps : ∀ channel, (change channel).id = channel.id) : Connection :=
  { connection with channels := connection.channels.update (fun row => row.id = id) change keeps }

theorem id_defer (arr : Arrival) (chan : Channel) : (chan.defer arr).id = chan.id := by
  rw [Channel.defer]
  split <;> rfl

theorem id_markPty (chan : Channel) : chan.markPty.id = chan.id := by
  rw [Channel.markPty]
  split <;> rfl

theorem id_confirmOpen (chan : Channel) : chan.confirmOpen.id = chan.id := by
  rw [Channel.confirmOpen]
  split <;> rfl

def defer (id : Uuid) (arrival : Arrival) : Connection :=
  connection.onChannel id (fun channel => channel.defer arrival) (id_defer arrival)

def markPty (id : Uuid) : Connection :=
  connection.onChannel id Channel.markPty id_markPty

def assignServerId (id : Uuid) (serverId : ChannelNumber) : Connection :=
  connection.onChannel id (fun channel => { channel with serverId := some serverId })
    fun _ => rfl

def uuidFor (number : ChannelNumber) : Option Uuid :=
  (connection.channels.rows.find? fun channel => channel.serverId = some number).map Channel.id

def hasOpening : Bool :=
  connection.channels.rows.any Channel.isOpening

def accept (id : Uuid) (number : ChannelNumber) : Connection :=
  { connection with confirmed := connection.confirmed ++ [(id, number)] }

def confirm (id : Uuid) : List Arrival × Connection :=
  (((connection.channels.find? id).map Channel.deferred).getD [],
    connection.onChannel id Channel.confirmOpen id_confirmOpen)

def enqueue (write : Write) : Connection :=
  { connection with
    writer := connection.writer ++ [write]
    enqueued := connection.enqueued ++ [write] }

def clientChannel (id : Uuid) : Option ChannelNumber :=
  if connection.sessionHandle then (connection.channels.find? id).bind Channel.serverId else none

def writeEach (operation : WriteOperation) (channels : List Channel) : Connection :=
  if connection.sessionHandle then
    channels.foldl (fun connection channel =>
      match channel.serverId with
      | none => connection
      | some number => connection.enqueue ⟨number, channel.id, operation, false, false⟩) connection
  else connection

def emitPtyOutput (data : String) : Connection :=
  connection.writeEach (.data data) (connection.channels.rows.filter Channel.hasPty)

def disconnectServer : Connection :=
  { connection.writeEach .close (connection.channels.rows.filter Channel.isOpen) with
    sessionHandle := false }

def aside (aside : Aside) : Connection :=
  let printed := aside.frames.foldl emitPtyOutput connection
  if aside.disconnects then printed.disconnectServer else printed

def writeOutput (id : Uuid) (operation : WriteOperation) : Connection :=
  match connection.clientChannel id with
  | some number =>
    { connection with slot := false }.enqueue ⟨number, id, operation, connection.slot, true⟩
  | none =>
    { connection with
      slot := false
      freeSlots := connection.freeSlots + connection.slot.toNat }

def writeControl (id : Uuid) (operation : WriteOperation) : Connection :=
  match connection.clientChannel id with
  | some number => connection.enqueue ⟨number, id, operation, false, false⟩
  | none => connection

def openServerChannel (id : Uuid) : Connection :=
  if connection.sessionHandle then connection.beginOpen id none else connection

def handleRemoteEvent : RcEvent → Connection
  | .hopConnected | .done | .hostKeyReceived | .opened _ => connection
  | .state .connected frame => { connection with rcState := .connected }.emitPtyOutput frame
  | .state .disconnected _ => { connection with rcState := .disconnected }.disconnectServer
  | .state other _ => { connection with rcState := other }
  | .connectionError frames | .hostKeyUnknown frames => connection.aside ⟨frames, false⟩
  | .error frames => connection.aside ⟨frames, true⟩
  | .output channel data => connection.writeOutput channel (.data data)
  | .extendedData channel data ext => connection.writeOutput channel (.extendedData ext data)
  | .success channel => connection.writeControl channel .success
  | .channelFailure channel => connection.writeControl channel .failure
  | .eof channel => connection.writeControl channel .eof
  | .exitStatus channel code => connection.writeControl channel (.exitStatus code)
  | .exitSignal channel signal => connection.writeControl channel (.exitSignal signal)
  | .close channel => (connection.writeControl channel .close).close channel
  | .forwardedTcpIp id | .forwardedStreamlocal id | .forwardedAgent id | .x11 id =>
    connection.openServerChannel id

def waitsFor (event : RcEvent) : Option Channel :=
  (event.channel.bind connection.channels.find?).filter Channel.isOpening

def handleClient (arrival : Arrival) : Connection :=
  match connection.waitsFor arrival.event with
  | some channel => connection.defer channel.id arrival
  | none =>
    { connection with handled := connection.handled ++ [arrival] }.handleRemoteEvent
      arrival.event

end Connection

/-! ### The loop -/

inductive Wait
  | pty (id : Uuid) (channel : ChannelNumber)
  | closing (id : Uuid)
  | other
  deriving DecidableEq, Repr

inductive Loop
  | idle
  | handling (event : Event)
  | replaying (events : List Arrival)
  | requesting (requests : List (ChannelNumber × ChannelRequest))
  | opening (id : Uuid) (channel : ChannelNumber)
  | waiting (wait : Wait) (requests : List (ChannelNumber × ChannelRequest))
  | ended
  deriving DecidableEq, Repr

structure Session where
  connection : Connection
  control : List Event
  target : List Arrival
  pendingEvents : List Event
  deferredServerEvents : List (ChannelNumber × ChannelRequest)
  loop : Loop
  handedOut : Option Event
  arrived : List Arrival

namespace Session

def initial : Session where
  connection :=
    { channels := Sql.Table.empty
      slot := false
      freeSlots := outboundDataSlots
      writer := []
      sessionHandle := false
      rcState := .notInitialized
      confirmed := []
      enqueued := []
      handled := []
      discarded := []
      closed := [] }
  control := []
  target := []
  pendingEvents := []
  deferredServerEvents := []
  loop := .idle
  handedOut := none
  arrived := []

def Loop.requests : Loop → List (ChannelNumber × ChannelRequest)
  | .requesting requests => requests
  | _ => []

variable (session : Session)

def await (wait : Wait) : Session :=
  { session with loop := .waiting wait (Loop.requests session.loop) }

def onConnection (change : Connection → Connection) : Session :=
  { session with connection := change session.connection }

def shutDown : Bool :=
  session.connection.rcState = .disconnected || !session.connection.sessionHandle

def handleRequest (id : Uuid) (number : ChannelNumber) : ChannelRequest → Session
  | .pty => session.await (.pty id number)
  | .shell aside =>
    let connected := session.onConnection fun connection => connection.aside aside
    if connected.connection.sessionHandle then
      connected.onConnection fun connection =>
        connection.enqueue ⟨number, id, .success, false, false⟩
    else connected
  | .exec aside | .data aside => session.onConnection fun connection => connection.aside aside
  | .extendedData | .stalled | .eof => session
  | .close => if session.shutDown then session else session.await (.closing id)
  | .signal => if session.shutDown then session else session.await .other
  | .windowChange =>
    if session.connection.rcState = .connected then session.await .other else session
  | .env reserved => if reserved then session else session.await .other
  | .subsystem aside | .x11 aside =>
    (session.onConnection fun connection => connection.aside aside).await .other
  | .agentForward => session.await .other

def handleChannelRequest (number : ChannelNumber) (request : ChannelRequest) : Session :=
  match session.connection.uuidFor number with
  | some id => session.handleRequest id number request
  | none =>
    if session.connection.hasOpening then
      { session with
        deferredServerEvents := session.deferredServerEvents ++ [(number, request)] }
    else session

def replayServerEvents : Session :=
  { session with
    loop := .requesting session.deferredServerEvents
    deferredServerEvents := [] }

def confirmChannelOpen (id : Uuid) : Session :=
  { session with
    connection := (session.connection.confirm id).2
    loop := .replaying (session.connection.confirm id).1 }

def handleEvent : Event → Session
  | .client arrival =>
    match arrival.event with
    | .done =>
      { session with
        connection :=
          { session.connection with handled := session.connection.handled ++ [arrival] }
        loop := .ended }
    | _ => session.onConnection fun connection => connection.handleClient arrival
  | .serverHandler .authenticated =>
    session.onConnection fun connection => { connection with sessionHandle := true }
  | .serverHandler (.channelOpen channel uuid aside) =>
    let connected := session.onConnection fun connection => connection.aside aside
    { connected.onConnection fun connection => connection.beginOpen uuid (some channel) with
      loop := .opening uuid channel }
  | .serverHandler (.request channel request) => session.handleChannelRequest channel request
  | .serverHandler .auth => session
  | .serverHandler .forward => session.await .other
  | .serverHandler .disconnect => { session with loop := .ended }
  | .command frames => session.onConnection fun connection => connection.aside ⟨frames, true⟩
  | .serviceOutput none => session
  | .serviceOutput (some frame) =>
    session.onConnection fun connection => connection.emitPtyOutput frame
  | .menu aside | .adminApprovalResolved aside =>
    session.onConnection fun connection => connection.aside aside
  | .adminApprovalPending frames =>
    session.onConnection fun connection => connection.aside ⟨frames, false⟩
  | .serverChannelOpenResult id (some number) =>
    let accepted := session.onConnection fun connection => connection.accept id number
    if (session.connection.channels.find? id).isSome then
      (accepted.onConnection fun connection => connection.assignServerId id
        number).confirmChannelOpen id
    else accepted.replayServerEvents
  | .serverChannelOpenResult id none =>
    (session.onConnection fun connection => connection.close id).replayServerEvents

def opened (id : Uuid) (number : ChannelNumber) (accepted : Bool) : Session :=
  if accepted then
    (session.onConnection fun connection => connection.accept id number).confirmChannelOpen id
  else { session.onConnection fun connection => connection.close id with loop := .idle }

def answered : Wait → Session
  | .pty id number =>
    if session.connection.sessionHandle then
      session.onConnection fun connection =>
        (connection.enqueue ⟨number, id, .success, false, false⟩).markPty id
    else session
  | .closing id => session.onConnection fun connection => connection.close id
  | .other => session

def work : Session :=
  match session.loop with
  | .handling event => { session with loop := .idle }.handleEvent event
  | .replaying [] => session.replayServerEvents
  | .replaying (arrival :: rest) =>
    { session with loop := .replaying rest }.onConnection fun connection =>
      connection.handleClient arrival
  | .requesting [] => { session with loop := .idle }
  | .requesting ((number, request) :: rest) =>
    { session with loop := .requesting rest }.handleChannelRequest number request
  | .idle | .opening _ _ | .waiting _ _ | .ended => session

def reply (accepted : Bool) : Session :=
  match session.loop with
  | .opening id number => session.opened id number accepted
  | .waiting wait requests =>
    { (if accepted then session.answered wait else session) with
      loop := .requesting requests }
  | _ => session

def awaitsIntake : Bool :=
  match session.loop with
  | .idle => session.pendingEvents.isEmpty
  | .opening _ _ | .waiting _ _ => true
  | _ => false

def handOut (event : Event) : Session :=
  match session.loop with
  | .idle => { session with loop := .handling event, handedOut := some event }
  | _ =>
    { session with
      pendingEvents := session.pendingEvents ++ [event]
      handedOut := some event }

def drawsTaken : Bool :=
  match session.loop with
  | .handling (.serverHandler (.channelOpen _ uuid _)) =>
    (session.connection.channels.find? uuid).isSome
  | _ => false

end Session

inductive Move
  | arriveTarget (event : RcEvent)
  | arriveControl (event : Event)
  | claimSlot
  | nextControl
  | nextTarget
  | takePending
  | work
  | reply (accepted : Bool)
  | complete
  | giveUp (frames : List String)
  deriving DecidableEq, Repr

/-- A step of the loop, of the writer or of one of the two ends. -/
def step (session : Session) : Move → Session
  | .arriveTarget event =>
    { session with
      target := session.target ++ [⟨session.arrived.length, event⟩]
      arrived := session.arrived ++ [⟨session.arrived.length, event⟩] }
  | .arriveControl event =>
    if event.arrival.isNone then { session with control := session.control ++ [event] }
    else session
  | .claimSlot =>
    if session.awaitsIntake && !session.connection.slot && 0 < session.connection.freeSlots then
      session.onConnection fun connection =>
        { connection with slot := true, freeSlots := connection.freeSlots - 1 }
    else session
  | .nextControl =>
    match session.control with
    | [] => session
    | event :: rest =>
      if session.awaitsIntake then { session with control := rest }.handOut event else session
  | .nextTarget =>
    match session.target with
    | [] => session
    | arrival :: rest =>
      if session.awaitsIntake && session.connection.slot then
        { session with target := rest }.handOut (.client arrival)
      else session
  | .takePending =>
    match session.loop, session.pendingEvents with
    | .idle, event :: rest => { session with loop := .handling event, pendingEvents := rest }
    | _, _ => session
  | .work => if session.drawsTaken then session else session.work
  | .reply accepted => session.reply accepted
  | .complete =>
    match session.connection.writer with
    | [] => session
    | write :: rest => session.onConnection fun connection =>
      { connection with
        writer := rest
        freeSlots := connection.freeSlots + write.slot.toNat }
  | .giveUp frames =>
    match session.loop with
    | .idle => { session.onConnection fun connection => connection.aside ⟨frames, true⟩ with
        loop := .ended }
    | _ => session

def reach (moves : List Move) : Session := Handlers.run step Session.initial moves

open List Sql.Table Connection

variable {chan : Channel} {n : ChannelNumber} {conn : Connection} {id : Uuid} {ev : RcEvent}
  {pre post : Connection} {change : Channel → Channel}

namespace Connection

/-! ### What handlers can do -/

/-- Only messages of the gateway itself are added, to channels that have a number. -/
structure Prints (before after : Connection) : Prop where
  channels : after.channels = before.channels
  slot : after.slot = before.slot
  freeSlots : after.freeSlots = before.freeSlots
  confirmed : after.confirmed = before.confirmed
  handled : after.handled = before.handled
  discarded : after.discarded = before.discarded
  closed : after.closed = before.closed
  written : ∃ added, after.writer = before.writer ++ added ∧
    after.enqueued = before.enqueued ++ added ∧
    ∀ write ∈ added, write.slot = false ∧ write.fromTarget = false ∧
      ∃ channel ∈ before.channels.rows,
        channel.id = write.owner ∧ channel.serverId = some write.channel

open Channel

open Prints

theorem Prints.refl (conn : Connection) : Prints conn conn :=
  ⟨rfl, rfl, rfl, rfl, rfl, rfl, rfl, [], by simp⟩

theorem Prints.trans {first second third : Connection} (prints : Prints first second)
    (prints' : Prints second third) : Prints first third := by
  obtain ⟨added, writer, enqueued, own⟩ := prints.written
  obtain ⟨added', writer', enqueued', own'⟩ := prints'.written
  refine ⟨prints'.channels.trans prints.channels, prints'.slot.trans prints.slot,
    prints'.freeSlots.trans prints.freeSlots, prints'.confirmed.trans prints.confirmed,
    prints'.handled.trans prints.handled, prints'.discarded.trans prints.discarded,
    prints'.closed.trans prints.closed, added ++ added', ?_, ?_, ?_⟩
  · rw [writer', writer, append_assoc]
  · rw [enqueued', enqueued, append_assoc]
  · intro write mem
    rcases mem_append.mp mem with old | new
    · exact own write old
    · rw [prints.channels] at own'
      exact own' write new

theorem prints_enqueue (mem : chan ∈ conn.channels.rows)
    (numbered : chan.serverId = some n) (operation : WriteOperation) :
    Prints conn (conn.enqueue ⟨n, chan.id, operation, false, false⟩) := by
  refine ⟨rfl, rfl, rfl, rfl, rfl, rfl, rfl, [⟨n, chan.id, operation, false, false⟩], rfl, rfl, ?_⟩
  intro write isWrite
  rw [mem_singleton.mp isWrite]
  exact ⟨rfl, rfl, chan, mem, rfl, numbered⟩

theorem prints_writeEach {channels : List Channel} (operation : WriteOperation)
    (among : ∀ chan ∈ channels, chan ∈ conn.channels.rows) :
    Prints conn (conn.writeEach operation channels) := by
  rw [writeEach]
  split
  case isFalse => exact refl conn
  case isTrue =>
    clear * - among
    induction channels generalizing conn with
    | nil => exact refl conn
    | cons chan rest ih =>
      rw [foldl_cons]
      cases numbered : chan.serverId with
      | none => exact ih fun other mem => among other (.tail _ mem)
      | some n =>
        have first := prints_enqueue (among chan (.head _)) numbered operation
        refine first.trans (ih fun other mem => ?_)
        exact among other (.tail _ mem)

theorem prints_emitPtyOutput (conn : Connection) (data : String) :
    Prints conn (conn.emitPtyOutput data) :=
  prints_writeEach _ fun _ mem => (mem_filter.mp mem).1

theorem prints_disconnectServer (conn : Connection) : Prints conn conn.disconnectServer := by
  have writes := prints_writeEach .close (fun chan mem => (mem_filter.mp mem).1 :
      ∀ chan ∈ conn.channels.rows.filter isOpen, chan ∈ conn.channels.rows)
  exact ⟨writes.channels, writes.slot, writes.freeSlots, writes.confirmed, writes.handled,
    writes.discarded, writes.closed, writes.written⟩

theorem prints_aside (conn : Connection) (aside : Aside) : Prints conn (conn.aside aside) := by
  have printed : Prints conn (aside.frames.foldl emitPtyOutput conn) := by
    induction aside.frames generalizing conn with
    | nil => exact refl conn
    | cons frame rest ih => exact (prints_emitPtyOutput conn frame).trans (ih _)
  rw [Connection.aside]
  split
  · exact printed.trans (prints_disconnectServer _)
  · exact printed

theorem channel_of_clientChannel (found : conn.clientChannel id = some n) :
    ∃ chan ∈ conn.channels.rows, chan.id = id ∧ chan.serverId = some n := by
  rw [clientChannel] at found
  split at found
  case isTrue =>
    obtain ⟨chan, stored, numbered⟩ := Option.bind_eq_some_iff.mp found
    exact ⟨chan, mem_of_find? stored, key_of_find? stored, numbered⟩
  case isFalse => cases found

theorem prints_writeControl (conn : Connection) (id : Uuid) (operation : WriteOperation) :
    Prints conn (conn.writeControl id operation) := by
  rw [writeControl]
  split
  case h_1 n found => grind [channel_of_clientChannel, prints_enqueue]
  case h_2 => exact refl conn

inductive Handles (connection : Connection) (event : RcEvent) : Connection → Prop
  | prints {after : Connection} (prints : Prints connection after)
      (quiet : event.isOutput = false) : Handles connection event after
  | writes {channel : Uuid} (operation : WriteOperation) (isOutput : event.isOutput = true)
      (names : event.channel = some channel) :
      Handles connection event (connection.writeOutput channel operation)
  | closes {channel : Uuid} {between : Connection} (prints : Prints connection between)
      (quiet : event.isOutput = false) : Handles connection event (between.close channel)
  | begins {id : Uuid} (quiet : event.isOutput = false) (names : event.channel = none) :
      Handles connection event (connection.beginOpen id none)

theorem handles_openServerChannel (id : Uuid) (quiet : ev.isOutput = false)
    (names : ev.channel = none) : Handles conn ev (conn.openServerChannel id) := by
  rw [openServerChannel]
  split
  · exact .begins quiet names
  · exact .prints (refl conn) quiet

theorem handles_handleRemoteEvent (conn : Connection) (ev : RcEvent) :
    Handles conn ev (conn.handleRemoteEvent ev) := by
  cases ev with
  | output chan data | extendedData chan data ext => exact .writes _ rfl rfl
  | close chan => exact .closes (prints_writeControl conn chan .close) rfl
  | forwardedTcpIp id | forwardedStreamlocal id | forwardedAgent id | x11 id =>
    exact handles_openServerChannel id rfl rfl
  | state s frame =>
    refine .prints ?_ rfl
    have changed : Prints conn { conn with rcState := s } :=
      ⟨rfl, rfl, rfl, rfl, rfl, rfl, rfl, [], by simp⟩
    cases s with
    | connected => exact changed.trans (prints_emitPtyOutput _ frame)
    | disconnected => exact changed.trans (prints_disconnectServer _)
    | notInitialized | connecting => exact changed
  | connectionError frames | hostKeyUnknown frames =>
    exact .prints (prints_aside conn ⟨frames, false⟩) rfl
  | error frames => exact .prints (prints_aside conn ⟨frames, true⟩) rfl
  | success chan | channelFailure chan | eof chan | exitStatus chan code | exitSignal chan signal =>
    exact .prints (prints_writeControl conn chan _) rfl
  | hopConnected | done | hostKeyReceived | opened chan => exact .prints (refl conn) rfl

def held (connection : Connection) : List Arrival :=
  connection.channels.rows.flatMap Channel.deferred

theorem mem_held {arr : Arrival} :
    arr ∈ conn.held ↔ ∃ chan ∈ conn.channels.rows, arr ∈ chan.deferred :=
  mem_flatMap

theorem held_split (found : conn.channels.find? id = some chan) :
    ∃ pre post, conn.held = pre ++ chan.deferred ++ post ∧
      (∀ change keeps, (conn.onChannel id change keeps).held =
        pre ++ (change chan).deferred ++ post) ∧ (conn.close id).held = pre ++ post ∧
      ∀ arr ∈ pre ++ post, ∃ other ∈ conn.channels.rows, other.id ≠ id ∧ arr ∈ other.deferred := by
  obtain ⟨pre, post, split, others⟩ := split_of_find? found
  refine ⟨pre.flatMap deferred, post.flatMap deferred, ?_, ?_, ?_, ?_⟩
  · rw [held, split, flatMap_append, flatMap_cons, append_assoc]
  · intro change keeps
    rw [held, onChannel, rows_update_key found split others change keeps,
      flatMap_append, flatMap_cons, append_assoc]
  · rw [held, close, rows_delete_key found split others, flatMap_append]
  · grind

theorem onChannel_of_absent (absent : conn.channels.find? id = none)
    (change : Channel → Channel) (keeps : ∀ chan, (change chan).id = chan.id) :
    conn.onChannel id change keeps = conn := by
  rw [onChannel, update_of_absent absent]

theorem held_close_of_absent (absent : conn.channels.find? id = none) :
    (conn.close id).held = conn.held := by
  rw [held, held, close, delete_of_absent absent]

theorem held_beginOpen (conn : Connection) (id : Uuid) (serverId : Option ChannelNumber) :
    (conn.beginOpen id serverId).held = conn.held := by
  rw [held, beginOpen]
  rcases insert_cases conn.channels ⟨id, serverId, .opening []⟩ with
    unchanged | ⟨inserted, isInserted, -, rows, -⟩
  · rw [unchanged]
    rfl
  · rw [isInserted, rows]
    rfl

theorem held_confirm (conn : Connection) (id : Uuid) :
    ∃ pre post, conn.held = pre ++ (conn.confirm id).1 ++ post ∧
      (conn.confirm id).2.held = pre ++ post ∧ ∀ arr ∈ pre ++ post, ∃ other ∈ conn.channels.rows,
        other.id ≠ id ∧ arr ∈ other.deferred := by
  cases found : conn.channels.find? id with
  | none =>
    refine ⟨conn.held, [], ?_, ?_, ?_⟩
    · rw [confirm, found]
      simp
    · rw [confirm, onChannel_of_absent found]
      simp
    · intro arr mem
      rw [append_nil] at mem
      obtain ⟨other, stored, deferred⟩ := mem_held.mp mem
      refine ⟨other, stored, fun same => ?_, deferred⟩
      rw [← same, find?_of_mem stored] at found
      cases found
  | some chan =>
    obtain ⟨pre, post, split, changed, -, others⟩ := held_split found
    refine ⟨pre, post, ?_, ?_, others⟩
    · rw [split, confirm, found]
      rfl
    · have none_left : chan.confirmOpen.deferred = [] := by
        rw [confirmOpen]
        split <;> simp_all [deferred]
      rw [confirm, changed, none_left, append_nil]

theorem Prints.held (prints : Prints pre post) : post.held = pre.held := by
  rw [Connection.held, Connection.held, prints.channels]

theorem held_close_sublist (conn : Connection) (id : Uuid) :
    (conn.close id).held.Sublist conn.held := by
  cases found : conn.channels.find? id <;> grind [held_close_of_absent, held_split]

theorem held_onChannel {keeps : ∀ chan, (change chan).id = chan.id}
    (same : ∀ chan, (change chan).deferred = chan.deferred) :
    (conn.onChannel id change keeps).held = conn.held := by
  cases found : conn.channels.find? id with
  | none => rw [onChannel_of_absent found]
  | some chan => grind [held_split]

theorem deferred_markPty (chan : Channel) : chan.markPty.deferred = chan.deferred := by
  rw [Channel.markPty]
  split
  · rfl
  case h_2 isState => rw [Channel.deferred, Channel.deferred, isState]

theorem waitsFor_eq_some (waits : conn.waitsFor ev = some chan) :
    ev.channel = some chan.id ∧ conn.channels.find? chan.id = some chan ∧
      chan.isOpening = true := by
  obtain ⟨bound, opening⟩ := Option.filter_eq_some_iff.mp waits
  obtain ⟨id, names, found⟩ := Option.bind_eq_some_iff.mp bound
  have isId : chan.id = id := key_of_find? found
  rw [isId]
  exact ⟨names, found, opening⟩

theorem deferred_defer (opening : chan.isOpening = true) (arr : Arrival) :
    (chan.defer arr).deferred = chan.deferred ++ [arr] := by
  obtain ⟨id, serverId, s⟩ := chan
  cases s with
  | opening deferred => rfl
  | opened pty => cases opening

end Connection

variable {sess : Session}

namespace Session

structure Serves (before after : Session) : Prop where
  prints : Connection.Prints before.connection after.connection
  control : after.control = before.control
  target : after.target = before.target
  pendingEvents : after.pendingEvents = before.pendingEvents
  handedOut : after.handedOut = before.handedOut
  arrived : after.arrived = before.arrived
  loop : after.loop = before.loop ∨ after.loop = .ended ∨
    ∃ wait, after.loop = .waiting wait (Loop.requests before.loop) ∧
      ∀ id number, wait = .pty id number → before.connection.uuidFor number = some id

variable {change : Connection → Connection}

theorem Serves.of_prints (prints : Prints sess.connection (change sess.connection)) :
    Serves sess (sess.onConnection change) :=
  ⟨prints, rfl, rfl, rfl, rfl, rfl, .inl rfl⟩

theorem Serves.refl (sess : Session) : Serves sess sess :=
  ⟨Prints.refl _, rfl, rfl, rfl, rfl, rfl, .inl rfl⟩

theorem Serves.after_prints {post : Session}
    (prints : Prints sess.connection (change sess.connection))
    (serves : Serves (sess.onConnection change) post) : Serves sess post where
  prints := prints.trans serves.prints
  control := serves.control
  target := serves.target
  pendingEvents := serves.pendingEvents
  handedOut := serves.handedOut
  arrived := serves.arrived
  loop := by
    refine serves.loop.imp_right (Or.imp_right ?_)
    rintro ⟨wait, isLoop, named⟩
    refine ⟨wait, isLoop, fun id n isPty => ?_⟩
    rw [← named id n isPty, uuidFor, uuidFor]
    exact congrArg (fun table : Sql.Table Channel Channel.id => (table.rows.find? fun chan =>
      chan.serverId = some n).map Channel.id) prints.channels.symm

theorem serves_await (sess : Session) {wait : Wait}
    (named : ∀ id n, wait = .pty id n → sess.connection.uuidFor n = some id) :
    Serves sess (sess.await wait) :=
  ⟨Prints.refl _, rfl, rfl, rfl, rfl, rfl, .inr (.inr ⟨wait, rfl, named⟩)⟩

theorem serves_aside (sess : Session) (aside : Aside) :
    Serves sess (sess.onConnection fun conn => conn.aside aside) :=
  Serves.of_prints (prints_aside _ aside)

theorem serves_handleRequest (named : sess.connection.uuidFor n = some id) (req : ChannelRequest) :
    Serves sess (sess.handleRequest id n req) := by
  have waits : Serves sess (sess.await .other) := serves_await sess nofun
  cases req with
  | pty =>
    refine serves_await sess ?_
    rintro _ _ ⟨⟩
    exact named
  | shell aside =>
    rw [handleRequest]
    split
    · have printed := prints_aside sess.connection aside
      refine Serves.after_prints printed (Serves.of_prints ?_)
      obtain ⟨chan, found, isId⟩ := Option.map_eq_some_iff.mp named
      rw [← isId]
      refine prints_enqueue ?_ (by simpa using find?_some found) _
      rw [show (sess.onConnection fun conn => conn.aside aside).connection.channels =
        sess.connection.channels from printed.channels]
      exact mem_of_find?_eq_some found
    · exact serves_aside sess aside
  | exec aside | data aside => exact serves_aside sess aside
  | extendedData | stalled | eof => exact Serves.refl sess
  | close => grind [handleRequest, Serves.refl, serves_await]
  | signal | env reserved => grind [handleRequest, Serves.refl]
  | windowChange => grind [handleRequest, Serves.refl]
  | subsystem aside | x11 aside =>
    exact Serves.after_prints (prints_aside _ aside) (serves_await _ nofun)
  | agentForward => exact waits

theorem serves_handleChannelRequest (sess : Session) (n : ChannelNumber)
    (req : ChannelRequest) : Serves sess (sess.handleChannelRequest n req) := by
  rw [handleChannelRequest]
  split
  case h_1 id named => exact serves_handleRequest named req
  case h_2 =>
    split
    · exact ⟨Prints.refl _, rfl, rfl, rfl, rfl, rfl, .inl rfl⟩
    · exact Serves.refl sess

inductive Does (session : Session) : Event → Session → Prop
  | client (arrival : Arrival) :
      Does session (.client arrival)
        (session.onConnection fun connection => connection.handleClient arrival)
  | done (arrival : Arrival) (isDone : arrival.event = .done) :
      Does session (.client arrival)
        { session with
          connection :=
            { session.connection with handled := session.connection.handled ++ [arrival] }
          loop := .ended }
  | serves {event : Event} {after : Session} (control : event.arrival = none)
      (serves : Serves session after) : Does session event after
  | begins (channel : ChannelNumber) (uuid : Uuid) (aside : Aside) {between : Connection}
      (prints : Connection.Prints session.connection between) :
      Does session (.serverHandler (.channelOpen channel uuid aside))
        { session with
          connection := between.beginOpen uuid (some channel)
          loop := .opening uuid channel }
  | confirms (id : Uuid) (number : ChannelNumber) :
      Does session (.serverChannelOpenResult id (some number))
        ((session.onConnection fun connection =>
          (connection.accept id number).assignServerId id number).confirmChannelOpen id)
  | unknown (id : Uuid) (number : ChannelNumber) :
      Does session (.serverChannelOpenResult id (some number))
        (session.onConnection fun connection => connection.accept id number).replayServerEvents
  | fails (id : Uuid) :
      Does session (.serverChannelOpenResult id none)
        (session.onConnection fun connection => connection.close id).replayServerEvents

theorem does_handleEvent (sess : Session) (ev : Event) : Does sess ev (sess.handleEvent ev) := by
  cases ev with
  | client arr =>
    rw [handleEvent]
    split
    case h_1 isDone => exact .done arr isDone
    case h_2 => exact .client arr
  | serverHandler handled =>
    cases handled with
    | authenticated =>
      have serves : Serves sess (sess.onConnection fun conn =>
          { conn with sessionHandle := true }) :=
        Serves.of_prints ⟨rfl, rfl, rfl, rfl, rfl, rfl, rfl, [], by simp⟩
      exact .serves rfl serves
    | channelOpen chan uuid aside =>
      exact .begins chan uuid aside (prints_aside sess.connection aside)
    | request chan req => exact .serves rfl (serves_handleChannelRequest sess _ _)
    | auth => exact .serves rfl (Serves.refl sess)
    | forward => exact .serves rfl (serves_await sess nofun)
    | disconnect =>
      exact .serves rfl ⟨Prints.refl _, rfl, rfl, rfl, rfl, rfl, .inr (.inl rfl)⟩
  | command frames => exact .serves rfl (serves_aside sess ⟨frames, true⟩)
  | serviceOutput frame =>
    cases frame with
    | none => exact .serves rfl (Serves.refl sess)
    | some frame => exact .serves rfl (Serves.of_prints (prints_emitPtyOutput _ frame))
  | menu aside | adminApprovalResolved aside => exact .serves rfl (serves_aside sess aside)
  | adminApprovalPending frames => exact .serves rfl (serves_aside sess ⟨frames, false⟩)
  | serverChannelOpenResult id res =>
    cases res with
    | none => exact .fails id
    | some n =>
      rw [handleEvent]
      split
      · exact .confirms id n
      · exact .unknown id n

/-- All that a move can do, if it does anything. -/
inductive Moves (session : Session) : Move → Session → Prop
  | idle (move : Move) : Moves session move session
  | arriveTarget (event : RcEvent) : Moves session (.arriveTarget event)
      { session with
        target := session.target ++ [⟨session.arrived.length, event⟩]
        arrived := session.arrived ++ [⟨session.arrived.length, event⟩] }
  | arriveControl (event : Event) (other : event.arrival = none) :
      Moves session (.arriveControl event) { session with control := session.control ++ [event] }
  | claimSlot (awaits : session.awaitsIntake = true) (unclaimed : session.connection.slot = false)
      (free : 0 < session.connection.freeSlots) :
      Moves session .claimSlot (session.onConnection fun connection =>
        { connection with slot := true, freeSlots := connection.freeSlots - 1 })
  | nextControl (event : Event) (rest : List Event) (isControl : session.control = event :: rest)
      (awaits : session.awaitsIntake = true) :
      Moves session .nextControl ({ session with control := rest }.handOut event)
  | nextTarget (arrival : Arrival) (rest : List Arrival)
      (isTarget : session.target = arrival :: rest) (awaits : session.awaitsIntake = true)
      (slot : session.connection.slot = true) :
      Moves session .nextTarget ({ session with target := rest }.handOut (.client arrival))
  | takePending (event : Event) (rest : List Event) (isLoop : session.loop = .idle)
      (isPending : session.pendingEvents = event :: rest) :
      Moves session .takePending { session with loop := .handling event, pendingEvents := rest }
  | work : Moves session .work session.work
  | reply (accepted : Bool) : Moves session (.reply accepted) (session.reply accepted)
  | complete (write : Write) (rest : List Write)
      (isWriter : session.connection.writer = write :: rest) :
      Moves session .complete (session.onConnection fun connection =>
        { connection with
          writer := rest
          freeSlots := connection.freeSlots + write.slot.toNat })
  | giveUp (frames : List String) (isLoop : session.loop = .idle) :
      Moves session (.giveUp frames)
        { session.onConnection fun connection => connection.aside ⟨frames, true⟩ with
          loop := .ended }

theorem moves_step (sess : Session) (m : Move) : Moves sess m (step sess m) := by
  fun_cases step sess m <;> grind [Moves, Option.isNone_iff_eq_none]

end Session

/-! ### Only confirmed channels are written to -/

structure Connection.Confirms (apart : Option (Uuid × ChannelNumber)) (connection : Connection) :
    Prop where
  written : ∀ write ∈ connection.enqueued, (write.owner, write.channel) ∈ connection.confirmed
  numbered : ∀ channel ∈ connection.channels.rows, ∀ number, channel.serverId = some number →
    (channel.id, number) ∈ connection.confirmed ∨ apart = some (channel.id, number)

namespace Connection.Confirms

variable {apart : Option (Uuid × ChannelNumber)} (confirms : conn.Confirms none)

include confirms

theorem confirmed
    (mem : chan ∈ conn.channels.rows) (isNumber : chan.serverId = some n) :
    (chan.id, n) ∈ conn.confirmed :=
  (confirms.numbered chan mem n isNumber).resolve_right nofun

theorem uuidFor (named : conn.uuidFor n = some id) :
    (id, n) ∈ conn.confirmed := by
  obtain ⟨chan, found, rfl⟩ := Option.map_eq_some_iff.mp named
  refine confirms.confirmed (mem_of_find?_eq_some found) ?_
  simpa using find?_some found

omit confirms in
theorem prints (confirms : pre.Confirms none)
    (prints : Prints pre post) : post.Confirms none := by
  obtain ⟨added, -, enqueued, own⟩ := prints.written
  refine ⟨fun write mem => ?_, fun chan mem n isNumber => ?_⟩
  · rw [prints.confirmed]
    rw [enqueued] at mem
    rcases mem_append.mp mem with old | new
    · exact confirms.written write old
    · obtain ⟨-, -, chan, stored, owner, isNumber⟩ := own write new
      rw [← owner]
      exact confirms.confirmed stored isNumber
  · rw [prints.channels] at mem
    rw [prints.confirmed]
    exact .inl (confirms.confirmed mem isNumber)

omit confirms in
theorem enqueue (confirms : conn.Confirms apart) {write : Write}
    (confirmed : (write.owner, write.channel) ∈ conn.confirmed) :
    (conn.enqueue write).Confirms apart := by
  refine ⟨fun other mem => ?_, confirms.numbered⟩
  rcases mem_append.mp mem with old | new
  · exact confirms.written other old
  · rw [mem_singleton.mp new]
    exact confirmed

theorem writeOutput (id : Uuid) (operation : WriteOperation) :
    (conn.writeOutput id operation).Confirms none := by
  rw [Connection.writeOutput]
  split
  case h_1 n found =>
    obtain ⟨chan, mem, rfl, isNumber⟩ := channel_of_clientChannel found
    have taken : Connection.Confirms none { conn with slot := false } :=
      ⟨confirms.written, confirms.numbered⟩
    exact taken.enqueue (confirms.confirmed mem isNumber)
  case h_2 => exact ⟨confirms.written, confirms.numbered⟩

omit confirms in
theorem onChannel (confirms : conn.Confirms apart)
    {keeps : ∀ chan, (change chan).id = chan.id}
    (same : ∀ chan, (change chan).serverId = chan.serverId) :
    (conn.onChannel id change keeps).Confirms apart := by
  refine ⟨confirms.written, fun chan mem n isNumber => ?_⟩
  obtain ⟨old, wasThere, rfl⟩ := mem_map.mp mem
  split at isNumber
  case isTrue chosen =>
    rw [if_pos chosen, keeps]
    exact confirms.numbered old wasThere n (same old ▸ isNumber)
  case isFalse other =>
    rw [if_neg other]
    exact confirms.numbered old wasThere n isNumber

theorem defer (id : Uuid) (arr : Arrival) :
    (conn.defer id arr).Confirms none := by
  refine confirms.onChannel fun chan => ?_
  rw [Channel.defer]
  split <;> rfl

theorem markPty (id : Uuid) : (conn.markPty id).Confirms none := by
  refine confirms.onChannel fun chan => ?_
  rw [Channel.markPty]
  split <;> rfl

theorem confirm (id : Uuid) :
    (conn.confirm id).2.Confirms none := by
  refine confirms.onChannel fun chan => ?_
  rw [Channel.confirmOpen]
  split <;> rfl

omit confirms in
theorem accept (confirms : conn.Confirms apart) (id : Uuid) (n : ChannelNumber)
    (only : ∀ pair ∈ apart, pair = (id, n)) : (conn.accept id n).Confirms none := by
  refine ⟨fun write mem => mem_append_left _ (confirms.written write mem), ?_⟩
  intro chan mem other isNumber
  rcases confirms.numbered chan mem other isNumber with known | pending
  · exact .inl (mem_append_left _ known)
  · rw [only _ pending]
    exact .inl mem_append_cons_self

theorem assignServerId (confirmed : (id, n) ∈ conn.confirmed) :
    (conn.assignServerId id n).Confirms none := by
  refine ⟨confirms.written, fun chan mem other isNumber => .inl ?_⟩
  obtain ⟨old, wasThere, rfl⟩ := mem_map.mp mem
  split at isNumber
  case isTrue chosen =>
    cases isNumber
    rw [if_pos chosen, show old.id = id from of_decide_eq_true chosen]
    exact confirmed
  case isFalse unchosen =>
    rw [if_neg unchosen]
    exact confirms.confirmed wasThere isNumber

theorem beginOpen (id : Uuid) (serverId : Option ChannelNumber) :
    (conn.beginOpen id serverId).Confirms (serverId.map fun n => (id, n)) := by
  refine ⟨confirms.written, fun chan mem n isNumber => ?_⟩
  rcases mem_insert mem with rfl | old
  · rw [show serverId = some n from isNumber]
    exact .inr rfl
  · exact .inl (confirms.confirmed old isNumber)

omit confirms in
theorem close (confirms : conn.Confirms apart) (id : Uuid)
    (only : ∀ pair ∈ apart, pair.1 = id) : (conn.close id).Confirms none := by
  refine ⟨confirms.written, fun chan mem n isNumber => ?_⟩
  rcases confirms.numbered chan (mem_delete mem) n isNumber with known | pending
  · exact .inl known
  · have left := (mem_filter.mp mem).2
    simp [show chan.id = id from only _ pending] at left

theorem handles (handles : Handles conn ev post) : post.Confirms none := by
  cases handles with
  | prints prints quiet => exact confirms.prints prints
  | writes operation isOutput names => exact confirms.writeOutput _ operation
  | closes prints quiet => exact (confirms.prints prints).close _ nofun
  | begins quiet names => exact confirms.beginOpen _ none

theorem handleClient (arr : Arrival) :
    (conn.handleClient arr).Confirms none := by
  rw [Connection.handleClient]
  split
  case h_1 channel waits => exact confirms.defer channel.id arr
  case h_2 =>
    have noted : Connection.Confirms none { conn with handled := conn.handled ++ [arr] } :=
      ⟨confirms.written, confirms.numbered⟩
    exact noted.handles (handles_handleRemoteEvent _ arr.event)

end Connection.Confirms

def Loop.opens : Loop → Option (Uuid × ChannelNumber)
  | .opening id number => some (id, number)
  | _ => none

structure Confirmed (session : Session) : Prop where
  connection : session.connection.Confirms session.loop.opens
  asked : ∀ id number requests, session.loop = .waiting (.pty id number) requests →
    (id, number) ∈ session.connection.confirmed

namespace Confirmed

theorem initial : Confirmed Session.initial := ⟨⟨nofun, nofun⟩, nofun⟩

theorem of_confirms (confirms : sess.connection.Confirms none) (opens : sess.loop.opens = none)
    (unasked : ∀ id n requests, sess.loop ≠ .waiting (.pty id n) requests) : Confirmed sess := by
  refine ⟨?_, fun id n requests isLoop => absurd isLoop (unasked id n requests)⟩
  rw [opens]
  exact confirms

theorem serves {pre post : Session} (serves : Session.Serves pre post)
    (confirms : pre.connection.Confirms none) (opens : pre.loop.opens = none)
    (unasked : ∀ id n requests, pre.loop ≠ .waiting (.pty id n) requests) : Confirmed post := by
  have printed := confirms.prints serves.prints
  rcases serves.loop with same | ended | ⟨wait, waiting, named⟩
  · exact of_confirms printed (same ▸ opens) (same ▸ unasked)
  · refine of_confirms printed ?_ ?_
    · rw [ended]
      rfl
    · rw [ended]
      exact nofun
  · constructor
    · rw [waiting]
      exact printed
    · intro id n requests isLoop
      rw [waiting] at isLoop
      cases isLoop
      rw [serves.prints.confirmed]
      exact confirms.uuidFor (named id n rfl)

theorem handleEvent {post : Session} (confirms : sess.connection.Confirms none)
    {ev : Event} (does : Session.Does { sess with loop := .idle } ev post) : Confirmed post := by
  cases does with
  | client arr => exact of_confirms (confirms.handleClient arr) rfl nofun
  | done arr isDone => exact of_confirms ⟨confirms.written, confirms.numbered⟩ rfl nofun
  | serves control served => exact serves served confirms rfl nofun
  | begins chan uuid aside prints =>
    exact ⟨(confirms.prints prints).beginOpen uuid (some chan), nofun⟩
  | confirms id n =>
    have accepted := confirms.accept id n nofun
    have assigned := accepted.assignServerId mem_append_cons_self
    exact of_confirms (assigned.confirm id) rfl nofun
  | unknown id n => exact of_confirms (confirms.accept id n nofun) rfl nofun
  | fails id => exact of_confirms (confirms.close id nofun) rfl nofun

variable (confirmed : Confirmed sess)

include confirmed

theorem work : Confirmed sess.work := by
  have confirms := confirmed.connection
  rw [Session.work]
  split
  case h_1 event isLoop =>
    rw [isLoop] at confirms
    exact handleEvent confirms (Session.does_handleEvent _ event)
  case h_2 isLoop =>
    rw [isLoop] at confirms
    exact of_confirms confirms rfl nofun
  case h_3 arrival rest isLoop =>
    rw [isLoop] at confirms
    exact of_confirms (confirms.handleClient arrival) rfl nofun
  case h_4 isLoop =>
    rw [isLoop] at confirms
    exact of_confirms confirms rfl nofun
  case h_5 number request rest isLoop =>
    rw [isLoop] at confirms
    exact serves (Session.serves_handleChannelRequest _ number request) confirms rfl nofun
  all_goals exact confirmed

omit confirmed in
theorem answered {wait : Wait} (confirms : sess.connection.Confirms none)
    (asked : ∀ id n, wait = .pty id n → (id, n) ∈ sess.connection.confirmed) :
    (sess.answered wait).connection.Confirms none := by
  cases wait with
  | pty id n =>
    rw [Session.answered]
    split
    · exact (confirms.enqueue (asked id n rfl)).markPty id
    · exact confirms
  | closing id => exact confirms.close id nofun
  | other => exact confirms

theorem reply (accepted : Bool) : Confirmed (sess.reply accepted) := by
  have confirms := confirmed.connection
  rw [Session.reply]
  split
  case h_1 id n isLoop =>
    rw [isLoop] at confirms
    rw [Session.opened]
    split
    · have accepts := confirms.accept id n (by rintro _ ⟨⟩; rfl)
      exact of_confirms (accepts.confirm id) rfl nofun
    · exact of_confirms (confirms.close id (by rintro _ ⟨⟩; rfl)) rfl nofun
  case h_2 wait requests isLoop =>
    have asked := confirmed.asked
    rw [isLoop] at confirms asked
    refine of_confirms ?_ rfl nofun
    dsimp only
    split
    · refine answered confirms fun id n isPty => asked id n requests ?_
      rw [isPty]
    · exact confirms
  case h_3 => exact confirmed

theorem handOut (ev : Event) : Confirmed (sess.handOut ev) := by
  rw [Session.handOut]
  split
  case h_1 isLoop =>
    have confirms := confirmed.connection
    rw [isLoop] at confirms
    exact of_confirms confirms rfl nofun
  case h_2 => exact ⟨confirmed.connection, confirmed.asked⟩

theorem step (m : Move) : Confirmed (EventLoop.step sess m) := by
  have unchanged : ∀ {other : Session}, other.connection.enqueued = sess.connection.enqueued →
      other.connection.channels = sess.connection.channels →
      other.connection.confirmed = sess.connection.confirmed → other.loop = sess.loop →
      Confirmed other := by
    intro other sameEnqueued sameChannels sameConfirmed sameLoop
    refine ⟨⟨?_, ?_⟩, ?_⟩
    · rw [sameEnqueued, sameConfirmed]
      exact confirmed.connection.written
    · rw [sameChannels, sameConfirmed, sameLoop]
      exact confirmed.connection.numbered
    · rw [sameConfirmed, sameLoop]
      exact confirmed.asked
  have moves := sess.moves_step m
  generalize EventLoop.step sess m = later at moves ⊢
  cases moves with
  | idle => exact confirmed
  | arriveTarget | arriveControl | claimSlot | complete => exact unchanged rfl rfl rfl rfl
  | nextControl | nextTarget =>
    refine Confirmed.handOut ?_ _
    exact unchanged rfl rfl rfl rfl
  | takePending ev rest isLoop =>
    have confirms := confirmed.connection
    rw [isLoop] at confirms
    exact of_confirms confirms rfl nofun
  | work => exact confirmed.work
  | reply accepted => exact confirmed.reply accepted
  | giveUp frames isLoop =>
    have confirms := confirmed.connection
    rw [isLoop] at confirms
    exact of_confirms (confirms.prints (prints_aside _ ⟨frames, true⟩)) rfl nofun

end Confirmed

theorem Connection.Handles.confirmed
    (handles : Handles conn ev post) : post.confirmed = conn.confirmed := by
  cases handles with
  | prints prints quiet | closes prints quiet => exact prints.confirmed
  | writes operation isOutput names =>
    rw [writeOutput]
    split <;> rfl
  | begins quiet names => rfl

theorem Connection.confirmed_handleClient (conn : Connection) (arr : Arrival) :
    (conn.handleClient arr).confirmed = conn.confirmed := by
  rw [handleClient]
  split
  · rfl
  · exact (handles_handleRemoteEvent _ arr.event).confirmed

namespace Session

/-! ### No step both writes and confirms -/

def Apart (before after : Session) : Prop :=
  after.connection.enqueued = before.connection.enqueued ∨
    after.connection.confirmed = before.connection.confirmed

theorem apart_handleEvent {post : Session} {ev : Event}
    (does : Does { sess with loop := .idle } ev post) : Apart sess post := by
  cases does with
  | client arr => exact .inr (confirmed_handleClient _ arr)
  | done arr isDone => exact .inr rfl
  | serves control serves => exact .inr serves.prints.confirmed
  | begins chan uuid aside prints => exact .inr prints.confirmed
  | confirms id n | unknown id n | fails id => exact .inl rfl

variable (sess)

theorem apart_work : Apart sess sess.work := by
  rw [work]
  split
  case h_1 event isLoop => exact apart_handleEvent (does_handleEvent _ event)
  case h_3 arrival rest isLoop => exact .inr (confirmed_handleClient _ arrival)
  case h_5 number request rest isLoop =>
    exact .inr (serves_handleChannelRequest _ number request).prints.confirmed
  all_goals exact .inr rfl

theorem apart_reply (accepted : Bool) : Apart sess (sess.reply accepted) := by
  rw [reply]
  split
  case h_1 id n isLoop =>
    rw [opened]
    split <;> exact .inl rfl
  case h_2 wait requests isLoop =>
    refine .inr ?_
    dsimp only
    split
    · cases wait with
      | pty id n =>
        rw [answered]
        split <;> rfl
      | closing id | other => rfl
    · rfl
  case h_3 => exact .inr rfl

theorem apart_step (m : Move) : Apart sess (step sess m) := by
  have moves := sess.moves_step m
  generalize step sess m = later at moves ⊢
  cases moves with
  | nextControl | nextTarget => exact .inl (congrArg enqueued (by rw [handOut]; split <;> rfl))
  | work => exact apart_work sess
  | reply accepted => exact apart_reply sess accepted
  | giveUp frames => exact .inr (prints_aside _ ⟨frames, true⟩).confirmed
  | _ => exact .inl rfl

end Session

theorem Confirmed.written_step (confirmed : Confirmed sess) (m : Move) :
    ∀ write ∈ (EventLoop.step sess m).connection.enqueued,
      (write.owner, write.channel) ∈ sess.connection.confirmed := by
  intro write mem
  rcases sess.apart_step m with unwritten | unconfirmed
  · rw [unwritten] at mem
    exact confirmed.connection.written write mem
  · rw [← unconfirmed]
    exact (confirmed.step m).connection.written write mem

end Warpgate.Ssh.EventLoop
