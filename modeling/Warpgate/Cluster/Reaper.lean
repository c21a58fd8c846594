/-
This file models the nodes of a cluster over one database, and is about what the reaper ends.
-/

import Warpgate.Sessions.System

namespace Warpgate.Cluster

open Concurrent
open Sessions (World UserSession Completion)
open Auth (Primitives)

def heartbeatTimeout : Duration := 30 * 1000000000

/-! ### Nodes and what they perform -/

structure Node where
  id : NodeId
  lastSeen : OffsetDateTime
  deriving DecidableEq, Repr

structure State where
  world : World
  nodes : Sql.Table Node Node.id
  heartbeats : List (NodeId × OffsetDateTime)
  shutDown : List NodeId

def State.empty (world : World) : State where
  world := world
  nodes := .empty
  heartbeats := []
  shutDown := []

inductive NodeStatement
  | heartbeat (nodeId : NodeId)
  | deleteStale (cutoff : OffsetDateTime)
  | liveNodes
  | deregister (nodeId : NodeId)
  deriving DecidableEq, Repr

@[reducible] def NodeStatement.Outcome : NodeStatement → Type
  | heartbeat _ => Unit
  | deleteStale _ => Option Unit
  | liveNodes => Option (List NodeId)
  | deregister _ => Unit

namespace State

def heartbeat (state : State) (nodeId : NodeId) : State :=
  { state with
    nodes := state.nodes.upsert ⟨nodeId, state.world.clock⟩
    heartbeats := state.heartbeats ++ [(nodeId, state.world.clock)] }

def deleteStale (state : State) (cutoff : OffsetDateTime) : State :=
  { state with nodes := state.nodes.delete fun node => node.lastSeen < cutoff }

def deregister (state : State) (nodeId : NodeId) : State :=
  { state with
    nodes := state.nodes.delete fun node => node.id = nodeId
    shutDown := state.shutDown ++ [nodeId] }

end State

def NodeStatement.execute : (statement : NodeStatement) → State → statement.Outcome × State
  | heartbeat nodeId, state =>
    ((), if state.world.reachable then state.heartbeat nodeId else state)
  | deleteStale cutoff, state =>
    if state.world.reachable then (some (), state.deleteStale cutoff) else (none, state)
  | liveNodes, state => (state.world.whenReachable (state.nodes.rows.map Node.id), state)
  | deregister nodeId, state =>
    ((), if state.world.reachable then state.deregister nodeId else state)

abbrev AnyStatement := Sessions.AnyStatement ⊕ NodeStatement

abbrev AnyStatement.Outcome : AnyStatement → Type :=
  Sum.elim Sessions.AnyStatement.Outcome NodeStatement.Outcome

variable (primitives : Primitives)

def execute : (statement : AnyStatement) → State → AnyStatement.Outcome statement × State
  | .inl statement, state =>
    ((Sessions.execute primitives statement state.world).1,
      { state with world := (Sessions.execute primitives statement state.world).2 })
  | .inr statement, state => statement.execute state

abbrev Action (Result : Type) := Program AnyStatement AnyStatement.Outcome Result

abbrev act (statement : NodeStatement) : Action statement.Outcome :=
  Program.perform (Sum.inr statement) Program.done

abbrev within {Result : Type} (program : Sessions.Action Result) : Action Result := program.lift

def heartbeat (nodeId : NodeId) : Action Completion := do
  act (.heartbeat nodeId)
  pure (.ok ())

def shutdown (nodeId : NodeId) : Action Completion := do
  match ← within (Sessions.revokeOpenMatching (.node nodeId)) with
  | .error error => pure (.error error)
  | .ok () =>
    within (Sessions.act .endChildrenOfEndedParents)
    act (.deregister nodeId)
    pure (.ok ())

def reap : Action Completion := do
  let now ← within (Sessions.inquire .now)
  match ← act (.deleteStale (now - heartbeatTimeout)) with
  | none => pure (.error .databaseError)
  | some () =>
    match ← act .liveNodes with
    | none => pure (.error .databaseError)
    | some live => within (Sessions.reap live)

def isReap : Sessions.Task → Bool
  | .reap _ => true
  | _ => false

inductive Task
  | heartbeat (nodeId : NodeId)
  | shutdown (nodeId : NodeId)
  | reap
  | sessions (task : Sessions.Task) (other : isReap task = false)
  deriving DecidableEq

def Task.program : Task → Action Completion
  | heartbeat nodeId => Cluster.heartbeat nodeId
  | shutdown nodeId => Cluster.shutdown nodeId
  | reap => Cluster.reap
  | sessions task _ => within (task.program primitives)

def system : System Task AnyStatement AnyStatement.Outcome State Completion where
  program := Task.program primitives
  execute := execute primitives

abbrev Reached := Config Task AnyStatement AnyStatement.Outcome State Completion

abbrev Running := Thread Task AnyStatement AnyStatement.Outcome Completion

abbrev Seen := Event AnyStatement AnyStatement.Outcome

open List Option Sql.Table Program Sessions Config State SessionsFilter
open Sessions (sharedSessionOrphanGrace)

variable {state s : State} {ids : List UserSessionId} {live : List NodeId} {hist : List Seen}
  {start : OffsetDateTime}

section

/-! ### What a reap has seen -/

def clockRead : Seen → Option OffsetDateTime
  | ⟨.inl (.inr (.read .now)), now⟩ => some now
  | _ => none

def startedAt (history : List Seen) : Option OffsetDateTime :=
  (history.filterMap clockRead).getLast?

def liveRead : Seen → Option (List NodeId)
  | ⟨.inr .liveNodes, live⟩ => live
  | _ => none

def liveNodes (history : List Seen) : Option (List NodeId) := history.findSome? liveRead

def orphansRead : Seen → Option (List UserSessionId)
  | ⟨.inl (.inr (.read (.openMatching (.withoutCookie _)))), ids⟩ => ids
  | _ => none

def orphans (history : List Seen) : Option (List UserSessionId) := history.findSome? orphansRead

variable {history : List Seen} {ev : Seen} {cut : OffsetDateTime}
  {id : UserSessionId} {stmt : AnyStatement} {pre after post : State} {P : Primitives}
  {moves ms : List (Move Task)}

theorem startedAt_cons (started : startedAt hist = some start)
    (ev : Seen) : startedAt (ev :: hist) = some start := by
  rw [startedAt, filterMap_cons]
  split
  · exact started
  · rw [getLast?_cons, show (hist.filterMap clockRead).getLast? = some start from started]
    rfl

theorem liveNodes_cons (other : liveRead ev = none) : liveNodes (ev :: hist) = liveNodes hist := by
  rw [liveNodes, findSome?_cons, other, liveNodes]

theorem orphans_cons (other : orphansRead ev = none) : orphans (ev :: hist) = orphans hist := by
  rw [orphans, findSome?_cons, other, orphans]

def admitted (history : List Seen) : AnyStatement → Bool
  | .inr (.deleteStale _) => (startedAt history).isNone || (liveNodes history).isSome
  | .inr (.heartbeat nodeId) =>
    (orphans history).isSome || (liveNodes history).all (nodeId ∈ ·)
  | .inl (.inr (.updateSession _ _ entries _)) =>
    (orphans history).all fun ids => entries.sessionId.all (· ∉ ids)
  | _ => true

def isReaping (thread : Running) : Bool := thread.task = .reap && thread.program.head.isSome

def Orderly (primitives : Primitives) : Reached → Move Task → Prop :=
  Config.Against (system primitives) fun thread _ statement =>
    isReaping thread = true → admitted thread.history statement = true

instance Orderly.decidable (primitives : Primitives) (reached : Reached) (move : Move Task) :
    Decidable (Orderly primitives reached move) :=
  Config.Against.decidable (system primitives) _ reached move

def Sound (state : State) : Prop :=
  ∀ node time, (node, time) ∈ state.heartbeats → time ≤ state.world.clock ∧
    (node ∈ state.shutDown ∨ time < state.world.clock - heartbeatTimeout ∨
      ∃ row, state.nodes.find? node = some row ∧ time ≤ row.lastSeen)

def Fresh (cutoff : OffsetDateTime) (state : State) : Prop :=
  ∀ node time, (node, time) ∈ state.heartbeats → cutoff ≤ time →
    node ∈ state.shutDown ∨ ∃ row, state.nodes.find? node = some row ∧ cutoff ≤ row.lastSeen

def Listed (cutoff : OffsetDateTime) (live : List NodeId) (state : State) : Prop :=
  ∀ node time, (node, time) ∈ state.heartbeats → cutoff ≤ time →
    node ∈ state.shutDown ∨ node ∈ live

def Unbacked (world : World) (id : UserSessionId) : Prop :=
  ∀ stored ∈ world.httpSessions.rows, stored.userSessionId ≠ some id

theorem Sound.fresh (sound : Sound s) : Fresh (s.world.clock - heartbeatTimeout) s := by
  grind [Sound, Fresh, heartbeatTimeout]

theorem Fresh.listed (fresh : Fresh cut s) : Listed cut (s.nodes.rows.map Node.id) s := by
  intro node time written recent
  refine (fresh node time written recent).imp_right ?_
  rintro ⟨r, found, -⟩
  exact mem_map.mpr ⟨r, mem_of_find? found, key_of_find? found⟩

theorem Fresh.deleteStale (fresh : Fresh cut s) : Fresh cut (s.deleteStale cut) := by
  intro node time written recent
  refine (fresh node time written recent).imp_right ?_
  rintro ⟨r, found, seen⟩
  refine ⟨r, ?_, seen⟩
  show (s.nodes.delete _).find? node = some r
  rw [find?_delete, found, filter_some, if_pos (by simpa using seen)]

theorem Fresh.heartbeat (fresh : Fresh cut s) (past : cut ≤ s.world.clock)
    (nid : NodeId) : Fresh cut (s.heartbeat nid) := by
  intro node time written recent
  show node ∈ s.shutDown ∨ ∃ r, (s.nodes.upsert _).find? node = some r ∧ _
  rw [find?_upsert]
  by_cases same : nid = node
  · exact .inr ⟨⟨nid, s.world.clock⟩, by rw [if_pos same], past⟩
  · rw [if_neg same]
    rcases mem_append.mp written with old | new
    · exact fresh node time old recent
    · grind

theorem Fresh.deregister (fresh : Fresh cut s) (nid : NodeId) : Fresh cut (s.deregister nid) := by
  intro node time written recent
  by_cases same : node = nid
  · rw [same]
    exact .inl mem_append_cons_self
  · refine (fresh node time written recent).imp (mem_append_left _) ?_
    rintro ⟨r, found, seen⟩
    refine ⟨r, ?_, seen⟩
    have isNode := key_of_find? found
    show (s.nodes.delete _).find? node = some r
    rw [find?_delete, found, filter_some, if_pos (by simp [isNode, same])]

theorem Sound.heartbeat (sound : Sound s) (nid : NodeId) : Sound (s.heartbeat nid) := by
  intro node time written
  show time ≤ s.world.clock ∧ (node ∈ s.shutDown ∨ _ ∨
    ∃ r, (s.nodes.upsert _).find? node = some r ∧ _)
  rw [find?_upsert]
  rcases mem_append.mp written with old | new
  · obtain ⟨past, kept⟩ := sound node time old
    refine ⟨past, ?_⟩
    by_cases same : nid = node
    · exact .inr (.inr ⟨⟨nid, s.world.clock⟩, by rw [if_pos same], past⟩)
    · rw [if_neg same]
      exact kept
  · obtain ⟨rfl, rfl⟩ := Prod.mk.inj (mem_singleton.mp new)
    exact ⟨le_refl _, .inr (.inr ⟨_, by rw [if_pos rfl], le_refl _⟩)⟩

theorem Sound.deleteStale (sound : Sound s)
    (past : cut ≤ s.world.clock - heartbeatTimeout) : Sound (s.deleteStale cut) := by
  intro node time written
  obtain ⟨seen, kept⟩ := sound node time written
  refine ⟨seen, kept.imp_right ?_⟩
  rintro (stale | ⟨r, found, recent⟩)
  · exact .inl stale
  · by_cases deleted : r.lastSeen < cut
    · exact .inl (lt_of_le_of_lt recent (lt_of_lt_of_le deleted past))
    · refine .inr ⟨r, ?_, recent⟩
      show (s.nodes.delete _).find? node = some r
      rw [find?_delete, found, filter_some, if_pos (by simpa using deleted)]

theorem Sound.deregister (sound : Sound s) (nid : NodeId) : Sound (s.deregister nid) := by
  intro node time written
  obtain ⟨seen, kept⟩ := sound node time written
  refine ⟨seen, ?_⟩
  by_cases same : node = nid
  · rw [same]
    exact .inl mem_append_cons_self
  · refine kept.imp (mem_append_left _) (Or.imp_right ?_)
    rintro ⟨r, found, recent⟩
    have isNode := key_of_find? found
    refine ⟨r, ?_, recent⟩
    show (s.nodes.delete _).find? node = some r
    rw [find?_delete, found, filter_some, if_pos (by simp [isNode, same])]

structure Steady (history : List Seen) (before after : State) : Prop where
  clock : before.world.clock ≤ after.world.clock
  rows : ∀ id row, before.world.userSessions.find? id = some row →
    ∃ later, after.world.userSessions.find? id = some later ∧ later.nodeId = row.nodeId ∧
      later.protocol = row.protocol ∧ later.started = row.started
  fresh : ∀ start, startedAt history = some start → liveNodes history = none →
    start ≤ before.world.clock → Fresh (start - heartbeatTimeout) before →
    Fresh (start - heartbeatTimeout) after
  listed : ∀ live cutoff, liveNodes history = some live → orphans history = none →
    Listed cutoff live before → Listed cutoff live after
  unbacked : ∀ ids, orphans history = some ids → ∀ id ∈ ids, Unbacked before.world id →
    Unbacked after.world id

theorem Steady.refl (hist : List Seen) (s : State) : Steady hist s s where
  clock := le_refl _
  rows _ r found := ⟨r, found, rfl, rfl, rfl⟩
  fresh _ _ _ _ fresh := fresh
  listed _ _ _ _ listed := listed
  unbacked _ _ _ _ unbacked := unbacked

theorem Steady.trans {first second third : State} (steady : Steady hist first second)
    (steady' : Steady hist second third) : Steady hist first third where
  clock := steady.clock.trans steady'.clock
  rows id r found := by
    obtain ⟨later, stored, sameNode, sameProtocol, sameStart⟩ := steady.rows id r found
    obtain ⟨last, stored', sameNode', sameProtocol', sameStart'⟩ := steady'.rows id later stored
    exact ⟨last, stored', sameNode'.trans sameNode, sameProtocol'.trans sameProtocol,
      sameStart'.trans sameStart⟩
  fresh start started unread past fresh :=
    steady'.fresh start started unread (past.trans steady.clock)
      (steady.fresh start started unread past fresh)
  listed live cut read unlisted listed :=
    steady'.listed live cut read unlisted (steady.listed live cut read unlisted listed)
  unbacked ids isList id member unbacked :=
    steady'.unbacked ids isList id member (steady.unbacked ids isList id member unbacked)

theorem row_execute (P : Primitives) (stmt : Sessions.AnyStatement) (w : World)
    {r : UserSession} (found : w.userSessions.find? id = some r) :
    ∃ later, (Sessions.execute P stmt w).2.userSessions.find? id = some later ∧
      later.nodeId = r.nodeId ∧ later.protocol = r.protocol ∧ later.started = r.started := by
  have step := userSession_step P stmt w id
  rw [found] at step
  generalize (Sessions.execute P stmt w).2.userSessions.find? id = post at step
  cases step with
  | same => exact ⟨r, rfl, rfl, rfl, rfl⟩
  | assigned | finished => exact ⟨_, rfl, rfl, rfl, rfl⟩

theorem unbacked_execute (P : Primitives) {stmt : Sessions.AnyStatement}
    {w : World} (unbacked : Unbacked w id)
    (names : ∀ nid storageId entries exp, stmt = .inr (.updateSession nid storageId entries exp) →
      entries.sessionId ≠ some id) : Unbacked (Sessions.execute P stmt w).2 id := by
  intro stored mem named
  have step := httpSession_step P stmt w stored.id
  rw [find?_of_mem mem] at step
  generalize wasRow : w.httpSessions.find? stored.id = pre at step
  generalize isRow : some stored = post at step
  cases step with
  | same =>
    rw [← isRow] at wasRow
    exact unbacked stored (mem_of_find? wasRow) named
  | stored r nid storageId entries exp live present =>
    cases isRow
    exact names nid storageId entries exp rfl named
  | touched stmt r =>
    cases isRow
    exact unbacked r (mem_of_find? wasRow) named
  | removed => cases isRow

theorem steady_execute (P : Primitives) (s : State) (admits : admitted hist stmt = true) :
    Steady hist s (execute P stmt s).2 := by
  rcases stmt with stmt | stmt
  · refine ⟨clock_le_execute P stmt s.world, fun id r found => row_execute P stmt s.world found,
      fun _ _ _ _ fresh => fresh, fun _ _ _ _ listed => listed, ?_⟩
    intro ids isList id mem unbacked
    refine unbacked_execute P unbacked fun nid storageId entries exp isUpdate names => ?_
    rw [isUpdate] at admits
    simp only [admitted, isList, names, all_some, decide_eq_true_eq] at admits
    exact admits mem
  have same := Steady.refl hist s
  cases stmt with
  | heartbeat nid =>
    show Steady hist s (if _ then _ else _)
    split
    case isTrue =>
      refine ⟨same.clock, same.rows, ?_, ?_, same.unbacked⟩
      · intro start _ _ past fresh
        refine fresh.heartbeat (le_trans ?_ past) nid
        exact Int.sub_le_self start (Int.natCast_nonneg heartbeatTimeout)
      · intro live cut read unlisted listed node time written recent
        rcases mem_append.mp written with old | new
        · exact listed node time old recent
        · grind [admitted]
    case isFalse => exact same
  | deleteStale cut =>
    rw [execute, NodeStatement.execute]
    split
    case isTrue =>
      refine ⟨same.clock, same.rows, ?_, same.listed, same.unbacked⟩
      intro start started unread
      simp [admitted, started, unread] at admits
    case isFalse => exact same
  | liveNodes => exact same
  | deregister nid =>
    show Steady hist s (if _ then _ else _)
    split
    case isTrue =>
      refine ⟨same.clock, same.rows, fun _ _ _ _ fresh => fresh.deregister nid, ?_, same.unbacked⟩
      intro live cut _ _ listed node time written recent
      exact (listed node time written recent).imp_left (mem_append_left _)
    case isFalse => exact same

theorem Sound.execute (P : Primitives) (sound : Sound s)
    (timely : ∀ cut, stmt = .inr (.deleteStale cut) → cut ≤ s.world.clock - heartbeatTimeout) :
    Sound (execute P stmt s).2 := by
  rcases stmt with stmt | stmt
  · intro node time written
    obtain ⟨past, kept⟩ := sound node time written
    have later := clock_le_execute P stmt s.world
    refine ⟨past.trans later, kept.imp_right (Or.imp_left fun stale => ?_)⟩
    exact lt_of_lt_of_le stale (Int.sub_le_sub_right later _)
  cases stmt with
  | heartbeat nid =>
    show Sound (if _ then _ else _)
    split
    · exact sound.heartbeat nid
    · exact sound
  | deleteStale cut =>
    rw [Cluster.execute, NodeStatement.execute]
    split
    · exact sound.deleteStale (timely cut rfl)
    · exact sound
  | liveNodes => exact sound
  | deregister nid =>
    show Sound (if _ then _ else _)
    split
    · exact sound.deregister nid
    · exact sound

def MayEnd (history : List Seen) (state : State) (id : UserSessionId) : Prop :=
  ∀ row, state.world.userSessions.find? id = some row →
    (∀ node, row.nodeId = some node → ∃ start, startedAt history = some start ∧
      ((∀ time, (node, time) ∈ state.heartbeats → time < start - heartbeatTimeout) ∨
        node ∈ state.shutDown)) ∧
    (row.nodeId = none → row.protocol = .http ∧
      row.started < state.world.clock - sharedSessionOrphanGrace ∧ Unbacked state.world id)

structure Bound (history : List Seen) (state : State) (id : UserSessionId) : Prop where
  unlisted : orphans history = none
  start : ∃ start live, startedAt history = some start ∧ liveNodes history = some live ∧
    Listed (start - heartbeatTimeout) live state ∧
    ∃ row, state.world.userSessions.find? id = some row ∧ ∃ node, row.nodeId = some node ∧
      node ∉ live

structure Orphan (history : List Seen) (state : State) (id : UserSessionId) : Prop where
  listed : ∃ ids, orphans history = some ids ∧ id ∈ ids
  row : ∃ row, state.world.userSessions.find? id = some row ∧ row.nodeId = none ∧
    row.protocol = .http ∧ row.started < state.world.clock - sharedSessionOrphanGrace
  unbacked : Unbacked state.world id

theorem Bound.mayEnd (bound : Bound hist s id) : MayEnd hist s id := by
  obtain ⟨start, live, started, -, listed, r, found, node, isNode, dead⟩ := bound.start
  intro stored isRow
  obtain rfl := some.inj (found.symm.trans isRow)
  refine ⟨fun other isOther => ⟨start, started, ?_⟩, fun unowned => ?_⟩
  · obtain rfl := some.inj (isNode.symm.trans isOther)
    by_cases down : node ∈ s.shutDown
    · exact .inr down
    · refine .inl fun time written => not_le.mp fun recent => ?_
      exact (listed node time written recent).elim down dead
  · rw [unowned] at isNode
    cases isNode

theorem Orphan.mayEnd (orphan : Orphan hist s id) : MayEnd hist s id := by
  obtain ⟨r, found, unowned, http, old⟩ := orphan.row
  intro stored isRow
  obtain rfl := some.inj (found.symm.trans isRow)
  refine ⟨fun node isNode => ?_, fun _ => ⟨http, old, orphan.unbacked⟩⟩
  rw [unowned] at isNode
  cases isNode

theorem Bound.steady (bound : Bound hist pre id) (steady : Steady hist pre post) :
    Bound hist post id := by
  obtain ⟨start, live, started, read, listed, r, found, node, isNode, dead⟩ := bound.start
  obtain ⟨later, stored, sameNode, -, -⟩ := steady.rows id r found
  exact ⟨bound.unlisted, start, live, started, read,
    steady.listed live _ read bound.unlisted listed, later, stored, node, sameNode.trans isNode,
    dead⟩

theorem Orphan.steady (orphan : Orphan hist pre id) (steady : Steady hist pre post) :
    Orphan hist post id := by
  obtain ⟨ids, isList, mem⟩ := orphan.listed
  obtain ⟨r, found, unowned, http, old⟩ := orphan.row
  obtain ⟨later, stored, sameNode, sameProtocol, sameStart⟩ := steady.rows id r found
  refine ⟨⟨ids, isList, mem⟩, ⟨later, stored, sameNode.trans unowned, sameProtocol.trans http,
    ?_⟩, steady.unbacked ids isList id mem orphan.unbacked⟩
  rw [sameStart]
  exact lt_of_lt_of_le old (Int.sub_le_sub_right steady.clock _)

def Seen.isPlain (event : Seen) : Prop := liveRead event = none ∧ orphansRead event = none

theorem Bound.cons (bound : Bound hist s id) (plain : Seen.isPlain ev) :
    Bound (ev :: hist) s id := by
  obtain ⟨start, live, started, read, rest⟩ := bound.start
  refine ⟨(orphans_cons plain.2).trans bound.unlisted, start, live, startedAt_cons started ev, ?_,
    rest⟩
  rw [liveNodes_cons plain.1, read]

theorem Orphan.cons (orphan : Orphan hist s id) (plain : Seen.isPlain ev) :
    Orphan (ev :: hist) s id := by
  refine ⟨?_, orphan.row, orphan.unbacked⟩
  rw [orphans_cons plain.2]
  exact orphan.listed

def reaper : Contract AnyStatement AnyStatement.Outcome State where
  rely history _ := Steady history
  requires history statement state :=
    match statement with
    | .inl (.inr (.revoke id)) => MayEnd history state id
    | .inr (.deleteStale cutoff) => cutoff ≤ state.world.clock - heartbeatTimeout
    | _ => True
  refl history _ := Steady.refl history
  trans _ _ _ _ _ := Steady.trans

def bystander : Contract AnyStatement AnyStatement.Outcome State where
  rely _ _ _ _ := True
  requires _ statement _ := ∀ cutoff, statement ≠ .inr (.deleteStale cutoff)
  refl _ _ _ := trivial
  trans _ _ _ _ _ _ _ := trivial

def contract : Task → Contract AnyStatement AnyStatement.Outcome State
  | .reap => reaper
  | _ => bystander

abbrev Soundly : AnyStatement → State → Prop := fun _ => Sound

def Settles : AnyStatement → Prop
  | .inl (.inl _) => True
  | .inl (.inr (.read .now)) => True
  | _ => False

theorem settle_settles (id : UserSessionId) : (within (settle id)).Performs Settles := by
  refine Performs.lift ⟨trivial, fun _ => Performs.lift ?_⟩
  exact performs_true _

theorem Settles.plain (settles : Settles stmt) (out : AnyStatement.Outcome stmt) :
    Seen.isPlain ⟨stmt, out⟩ := by
  rcases stmt with (stmt | stmt) | stmt
  · exact ⟨rfl, rfl⟩
  · cases stmt with
    | read q =>
      cases q with
      | now => exact ⟨rfl, rfl⟩
      | _ => cases settles
    | _ => cases settles
  · cases settles

theorem Settles.admitted (settles : Settles stmt) (hist : List Seen) :
    admitted hist stmt = true := by
  rcases stmt with (stmt | stmt) | stmt
  · rfl
  · cases stmt with
    | read q => rfl
    | _ => cases settles
  · cases settles

structure Reason (doomed : List Seen → State → UserSessionId → Prop) : Prop where
  mayEnd : ∀ {history state id}, doomed history state id → MayEnd history state id
  steady : ∀ {history before after id}, doomed history before id → Steady history before after →
    doomed history after id
  cons : ∀ {history state id event}, doomed history state id → Seen.isPlain event →
    doomed (event :: history) state id

theorem reason_bound : Reason Bound :=
  ⟨Bound.mayEnd, Bound.steady, fun bound plain => bound.cons plain⟩

theorem reason_orphan : Reason Orphan :=
  ⟨Orphan.mayEnd, Orphan.steady, fun orphan plain => orphan.cons plain⟩

/-! ### A reap next to other tasks -/

section

variable {P : Primitives}
  {doomed : List Seen → State → UserSessionId → Prop}

theorem settle_meets (reason : Reason doomed) (ended : UserSessionId)
    (all : ∀ id ∈ ids, doomed hist s id) :
    (within (settle ended)).Meets (execute P) Soundly reaper
      (fun seen _ reached => ∀ id ∈ ids, doomed seen reached id) hist s := by
  refine (settle_settles ended).meets_keeping ?_ ?_ ?_ all
  · intro seen stmt reached settles _
    rcases stmt with (stmt | stmt) | stmt
    · trivial
    · cases stmt with
      | read q => trivial
      | _ => cases settles
    · cases settles
  · intro seen stmt reached settles _ still id mem
    refine reason.cons (reason.steady (still id mem) ?_) (settles.plain _)
    exact steady_execute P reached (settles.admitted seen)
  · intro seen stmt reached later _ relied still id mem
    exact reason.steady (still id mem) relied

theorem revoke_meets (reason : Reason doomed) {first : UserSessionId}
    (all : ∀ id ∈ first :: ids, doomed hist s id) :
    (within (revoke first)).Meets (execute P) Soundly reaper
      (fun seen _ reached => ∀ id ∈ ids, doomed seen reached id) hist s := by
  intro later relied here
  have still : ∀ id ∈ first :: ids, doomed hist later id := fun id mem =>
    reason.steady (all id mem) relied
  refine ⟨reason.mayEnd (still first (.head _)), ?_⟩
  have post : ∀ out, ∀ id ∈ ids, doomed (⟨.inl (.inr (.revoke first)), out⟩ :: hist)
        (execute P (.inl (.inr (.revoke first))) later).2 id := by
    intro out id mem
    refine reason.cons (reason.steady (still id (.tail _ mem)) ?_) ⟨rfl, rfl⟩
    exact steady_execute P later rfl
  generalize (execute P (.inl (.inr (.revoke first))) later).2 = ended at post ⊢
  generalize (execute P (.inl (.inr (.revoke first))) later).1 = out
  cases out with
  | none => exact post none
  | some done =>
    have goesOn : (within (Sessions.settle first) >>= fun _ =>
        within (pure (.ok ()) : Sessions.Action Completion)).Meets (execute P) Soundly
        reaper (fun seen _ reached => ∀ id ∈ ids, doomed seen reached id)
        (⟨.inl (.inr (.revoke first)), some done⟩ :: hist) ended :=
      (settle_meets reason first (post (some done))).seq fun _ _ _ settled => settled
    rwa [within, within, ← lift_bind] at goesOn

theorem revokeEach_meets (reason : Reason doomed) (all : ∀ id ∈ ids, doomed hist s id) :
    (within (revokeEach ids)).Meets (execute P) Soundly reaper (fun _ _ _ => True) hist s := by
  induction ids generalizing hist s with
  | nil => trivial
  | cons first ids ih =>
    rw [revokeEach, within, lift_bind]
    refine (revoke_meets reason all).seq fun seen res reached settled => ?_
    cases res with
    | error error => trivial
    | ok done => exact ih settled

theorem revokeOpenMatching_meets (reason : Reason doomed) {p : SessionsFilter}
    (lists : ∀ later, Steady hist s later → Sound later → ∀ id ∈ later.world.openMatching p,
        doomed (⟨.inl (.inr (.read (.openMatching p))),
          some (later.world.openMatching p)⟩ :: hist) later id) :
    (within (revokeOpenMatching p)).Meets (execute P) Soundly reaper
      (fun _ _ _ => True) hist s := by
  intro later relied here
  refine ⟨trivial, ?_⟩
  rcases later.world.whenReachable_cases (later.world.openMatching p) with failed | listed
  · have out : (execute P (.inl (.inr (.read (.openMatching p)))) later).1 = none := failed
    rw [out]
    trivial
  · have out : (execute P (.inl (.inr (.read (.openMatching p)))) later).1 =
        some (later.world.openMatching p) := listed
    rw [out]
    exact revokeEach_meets reason (lists later relied here)

theorem endConnections_meets (unlisted : orphans hist = none)
    (started : startedAt hist = some start) (read : liveNodes hist = some live)
    (listed : Listed (start - heartbeatTimeout) live s) :
    (within (revokeOpenMatching (.connectionBound live))).Meets (execute P)
      Soundly reaper (fun _ _ _ => True) hist s := by
  refine revokeOpenMatching_meets reason_bound fun later relied _ id mem => ?_
  obtain ⟨r, stored, -, selected⟩ := mem_openMatching.mp mem
  obtain ⟨node, isNode, dead⟩ := (any_eq_true _ _).mp selected
  exact ⟨(orphans_cons rfl).trans unlisted, start, live, startedAt_cons started _,
    (liveNodes_cons rfl).trans read, relied.listed live _ read unlisted listed, r, stored, node,
    isNode, by simpa using dead⟩

theorem endOrphans_meets {now : OffsetDateTime} (past : now ≤ s.world.clock) :
    (within (revokeOpenMatching (.withoutCookie (now - sharedSessionOrphanGrace)))).Meets
      (execute P) Soundly reaper (fun _ _ _ => True) hist s := by
  refine revokeOpenMatching_meets reason_orphan fun later relied _ id mem => ?_
  obtain ⟨r, stored, -, selected⟩ := mem_openMatching.mp mem
  simp only [selects, decide_eq_true_eq] at selected
  obtain ⟨http, unowned, old, unbacked⟩ := selected
  refine ⟨⟨_, rfl, mem⟩, ⟨r, stored, unowned, http, ?_⟩, ?_⟩
  · exact lt_of_lt_of_le old (Int.sub_le_sub_right (past.trans relied.clock) _)
  · rw [← show r.id = id from key_of_find? stored]
    exact unbacked

def endRest : Sessions.Action Completion := do
  let now ← Sessions.inquire .now
  match ← Sessions.revokeOpenMatching (.withoutCookie (now - sharedSessionOrphanGrace)) with
  | .error error => pure (.error error)
  | .ok () =>
    Sessions.act .endChildrenOfEndedParents
    pure (.ok ())

theorem endRest_meets :
    (within endRest).Meets (execute P) Soundly reaper (fun _ _ _ => True) hist state := by
  intro now _ _
  refine ⟨trivial, ?_⟩
  show (within (revokeOpenMatching
    (.withoutCookie (now.world.clock - sharedSessionOrphanGrace)) >>= fun res => _)).Meets _ _ _
      _ _ now
  rw [within, lift_bind]
  refine (endOrphans_meets (le_refl now.world.clock)).seq fun seen res reached _ => ?_
  cases res with
  | error error => trivial
  | ok done => exact fun _ _ _ => ⟨trivial, trivial⟩

theorem sweeps_meet (unlisted : orphans hist = none) (started : startedAt hist = some start)
    (read : liveNodes hist = some live) (listed : Listed (start - heartbeatTimeout) live s) :
    (within (Sessions.reap live)).Meets (execute P) Soundly reaper (fun _ _ _ => True) hist s := by
  rw [Sessions.reap]
  split
  · exact endRest_meets
  · rw [within, lift_bind]
    refine (endConnections_meets unlisted started read listed).seq fun seen res reached _ => ?_
    cases res with
    | error error => trivial
    | ok done => exact endRest_meets

theorem execute_deleteStale_cases (P : Primitives) (cut : OffsetDateTime) (s : State) :
    execute P (.inr (.deleteStale cut)) s = (none, s) ∨ execute P (.inr (.deleteStale cut)) s =
        (some (), s.deleteStale cut) := by
  rw [execute, NodeStatement.execute]
  split
  · exact .inr rfl
  · exact .inl rfl

theorem reap_meets (s : State) :
    reap.Meets (execute P) Soundly reaper (fun _ _ _ => True) [] s := by
  intro first _ soundFirst
  refine ⟨trivial, ?_⟩
  show (act (.deleteStale (first.world.clock - heartbeatTimeout)) >>= fun deleted => _).Meets
    (execute P) Soundly reaper (fun _ _ _ => True)
    [⟨.inl (.inr (.read .now)), first.world.clock⟩] first
  intro second relied _
  have started : startedAt [(⟨.inl (.inr (.read .now)), first.world.clock⟩ : Seen)] =
      some first.world.clock := rfl
  have fresh := relied.fresh _ started rfl (le_refl _) soundFirst.fresh
  refine ⟨Int.sub_le_sub_right relied.clock _, ?_⟩
  rcases execute_deleteStale_cases P (first.world.clock - heartbeatTimeout) second with
    failed | deleted
  · rw [failed]
    trivial
  rw [deleted]
  intro third relied' _
  have started' := startedAt_cons started
    ⟨.inr (.deleteStale (first.world.clock - heartbeatTimeout)), some ()⟩
  have fresh' := relied'.fresh _ started' rfl relied.clock fresh.deleteStale
  refine ⟨trivial, ?_⟩
  rcases third.world.whenReachable_cases (third.nodes.rows.map Node.id) with failed | read
  · rw [show (execute P (.inr .liveNodes) third).1 = none from failed]
    trivial
  · rw [show (execute P (.inr .liveNodes) third).1 = some _ from read]
    exact sweeps_meet rfl (startedAt_cons started' _) rfl fresh'.listed

end

theorem program_meets (P : Primitives) (t : Task) (s : State) :
    (t.program P).Meets (execute P) Soundly (contract t) (fun _ _ _ => True) [] s := by
  have within_meets : ∀ {Result : Type} (prog : Sessions.Action Result),
      (within prog).Performs fun stmt => ∀ cut, stmt ≠ .inr (.deleteStale cut) :=
    fun prog => ((performs_true prog).imp fun _ _ _ => nofun).lift
  cases t with
  | reap => exact reap_meets s
  | heartbeat nid => exact fun _ _ _ => ⟨nofun, trivial⟩
  | shutdown nid =>
    have perf : (shutdown nid).Performs fun stmt =>
        ∀ cut, stmt ≠ .inr (.deleteStale cut) := by
      refine (within_meets _).bind fun res => ?_
      cases res with
      | error error => trivial
      | ok done => exact (within_meets _).bind fun _ => ⟨nofun, fun _ => trivial⟩
    exact (perf.imp fun _ other _ _ _ => other).meets fun _ _ _ => trivial
  | sessions t other =>
    exact ((within_meets _).imp fun _ other _ _ _ => other).meets fun _ _ _ => trivial

theorem reached_meets (w : World) (along : Along (system P) (Orderly P) (initial (empty w)) ms) :
    let reached := (initial (empty w)).run (system P) ms
    Sound reached.state ∧
      ThreadsMeet (system P) Soundly contract (fun _ _ => True) reached := by
  refine run_meets_under Sound contract (fun _ _ => True)
    (fun t s _ => program_meets P t s) (Orderly P) (fun _ _ _ _ _ _ _ _ _ _ sound => sound) ?_
    (fun _ _ _ _ _ _ _ _ _ _ => trivial) ?_ (empty w) ms along nofun
  · intro s log t hist stmt next sound _ finds
    refine sound.execute P fun cut isDelete => ?_
    have required := finds trivial
    rw [isDelete] at required
    cases t with
    | reap => exact required
    | heartbeat nid | shutdown nid | sessions t other => exact absurd rfl (required cut)
  · intro s pre t hist stmt next post log perm ready _ other mem _ waiting isWaiting
    refine ⟨trivial, ?_⟩
    have admits := Against.admits (system P) perm ready other mem
    obtain ⟨otherTask, seen, prog⟩ := other
    cases otherTask with
    | reap =>
      refine steady_execute P s (admits ?_)
      rw [isReaping, isWaiting]
      rfl
    | heartbeat nid | shutdown nid | sessions t other => trivial

theorem mayEnd_of_reaping (w : World)
    (along : Along (system P) (Orderly P) (initial (empty w)) moves) {th : Running}
    (member : th ∈ ((initial (empty w)).run (system P) moves).threads)
    (reaps : th.task = .reap) (ends : th.program.head = some (.inl (.inr (.revoke id)))) :
    MayEnd th.history ((initial (empty w)).run (system P) moves).state id := by
  obtain ⟨sound, meet⟩ := reached_meets w along
  have meets := meet th member trivial
  obtain ⟨task, hist, prog⟩ := th
  cases prog with
  | done result => cases ends
  | perform statement next =>
    obtain rfl : task = .reap := reaps
    obtain rfl : statement = .inl (.inr (.revoke id)) := some.inj ends
    exact (meets _ (Steady.refl hist _) sound).1

end

/-! ### A reap on its own -/

structure Swept (ids : List UserSessionId) (before after : World) : Prop where
  clock : after.clock = before.clock
  rows : ∀ id row, after.userSessions.find? id = some row → row.isOpen = true →
    before.userSessions.find? id = some row ∧ id ∉ ids
  stored : ∀ row ∈ before.httpSessions.rows, (∀ id ∈ ids, row.userSessionId ≠ some id) →
    row ∈ after.httpSessions.rows

variable (P : Primitives) (world w : World)

theorem Swept.refl : Swept [] w w :=
  ⟨rfl, fun _ _ found _ => ⟨found, not_mem_nil⟩, fun _ mem _ => mem⟩

theorem Swept.trans {ids' : List UserSessionId} {first second third : World}
    (swept : Swept ids first second) (swept' : Swept ids' second third) :
    Swept (ids ++ ids') first third where
  clock := swept'.clock.trans swept.clock
  rows id r found isOpen := by
    obtain ⟨between, unlisted⟩ := swept'.rows id r found isOpen
    obtain ⟨pre, unlisted'⟩ := swept.rows id r between isOpen
    refine ⟨pre, fun listed => ?_⟩
    exact (mem_append.mp listed).elim unlisted' unlisted
  stored r member unnamed := by
    refine swept'.stored r (swept.stored r member fun id listed => ?_) fun id listed => ?_
    · exact unnamed id (mem_append_left _ listed)
    · exact unnamed id (mem_append_right _ listed)

theorem swept_revoke (id : UserSessionId) : Swept [id] w (w.revoke id) where
  clock := by
    rw [World.revoke]
    exact markEnded_rec (motive := fun post => post.clock = w.clock) w id rfl fun _ _ => rfl
  rows k r found isOpen := by
    have ended := isLive_markEnded w id
    have isFound : (w.markEnded id).userSessions.find? k = some r := found
    rcases userSession_markEnded w id k with same | ⟨old, -, -, fin⟩
    · refine ⟨same ▸ isFound, fun listed => ?_⟩
      rw [mem_singleton.mp listed] at isFound
      rw [World.isLive, isFound, any_some, isOpen] at ended
      cases ended
    · rw [fin] at isFound
      cases isFound
      cases isOpen
  stored r member unnamed := by
    refine mem_filter.mpr ⟨?_, by simpa using unnamed id (.head _)⟩
    exact member

def Notes : Sessions.AnyStatement → Prop
  | .inl _ => True
  | .inr (.read _) => True
  | _ => False

theorem swept_notes {stmt : Sessions.AnyStatement} (notes : Notes stmt) (w : World) :
    Swept [] w (Sessions.execute P stmt w).2 := by
  rcases stmt with stmt | stmt
  · exact ⟨rfl, fun _ _ found _ => ⟨found, not_mem_nil⟩, fun _ mem _ => mem⟩
  · cases stmt with
    | read q => exact Swept.refl w
    | _ => cases notes

section Alone

variable {P : Primitives}
  {history hist : History Sessions.AnyStatement.Outcome}
  {world w : World}

abbrev Alone (primitives : Primitives) {Result : Type}
    (ensures : History Sessions.AnyStatement.Outcome → Result → World →
      Prop)
    (history : History Sessions.AnyStatement.Outcome)
    (program : Sessions.Action Result) (world : World) : Prop :=
  Sessions.MeetsNextTo primitives (fun _ _ => True) Eq Eq.refl (fun _ _ _ => Eq.trans) ensures
    history program world

theorem settle_sweeps {start : World} (ended : UserSessionId) (swept : Swept ids start world) :
    Alone P (fun _ _ reached => Swept ids start reached) history (Sessions.settle ended) world := by
  have performs : (Sessions.settle ended).Performs Notes :=
    ⟨trivial, fun _ => (performs_true _).lift⟩
  refine performs.meets_keeps Notes (fun reached => Swept ids start reached) ?_ ?_ swept
  · intro statement state notes _ kept
    have grown := kept.trans (swept_notes P notes state)
    rwa [append_nil] at grown
  · rintro state _ rfl kept
    exact kept

theorem revoke_sweeps (id : UserSessionId) :
    Alone P (fun _ res reached => res = .ok () → Swept [id] w reached) hist (revoke id) w := by
  refine meets_act ?_
  rintro _ rfl -
  rcases execute_revoke_cases P id w with failed | done
  · rw [failed]
    exact fun ok => by cases ok
  · rw [done]
    exact (settle_sweeps id (swept_revoke w id)).seq fun _ _ _ swept _ => swept

theorem revokeEach_sweeps (ids : List UserSessionId) :
    Alone P (fun _ res reached => res = .ok () → Swept ids w reached) hist (revokeEach ids) w := by
  induction ids generalizing w hist with
  | nil => exact fun _ => Swept.refl w
  | cons first ids ih =>
    refine (revoke_sweeps first).seq fun seen res reached swept => ?_
    cases res with
    | error error => exact fun ok => by cases ok
    | ok done => exact ih.imp fun _ _ _ rest ok => (swept rfl).trans (rest ok)

theorem revokeOpenMatching_sweeps (p : SessionsFilter) :
    Alone P (fun _ res reached => res = .ok () → Swept (w.openMatching p) w reached)
      hist (revokeOpenMatching p) w := by
  refine meets_inquire ?_
  rintro _ rfl -
  have ans := w.whenReachable_cases (w.openMatching p)
  change (Question.openMatching p).answer P w = none ∨
    (Question.openMatching p).answer P w = some _ at ans
  rcases ans with failed | listed
  · rw [failed]
    exact fun ok => by cases ok
  · rw [listed]
    exact revokeEach_sweeps _

def Rested (before after : World) : Prop :=
  ∃ between, Swept (before.openMatching (.withoutCookie (before.clock - sharedSessionOrphanGrace)))
    before between ∧ after = between.endChildrenOfEndedParents

theorem endRest_rests :
    Alone P (fun _ result reached => result = .ok () → Rested world reached) history endRest
      world := by
  refine meets_inquire ?_
  rintro _ rfl -
  refine (revokeOpenMatching_sweeps _).seq fun seen result reached swept => ?_
  cases result with
  | error error => exact fun ok => by cases ok
  | ok done =>
    refine meets_act ?_
    rintro _ rfl -
    exact fun _ => ⟨reached, swept rfl, rfl⟩

theorem reap_rests (some_live : live ≠ []) :
    Alone P
      (fun _ res reached => res = .ok () →
        ∃ between, Swept (w.openMatching (.connectionBound live)) w between ∧
          Rested between reached) hist (Sessions.reap live) w := by
  rw [Sessions.reap, if_neg some_live]
  refine (revokeOpenMatching_sweeps _).seq fun seen res reached swept => ?_
  cases res with
  | error error => exact fun ok => by cases ok
  | ok done => exact endRest_rests.imp fun _ _ _ rested ok => ⟨reached, swept rfl, rested ok⟩

end Alone

structure Settled (state : State) : Prop where
  sessions : ∀ row ∈ state.world.userSessions.rows, row.isOpen = true →
    (∃ node ∈ state.nodes.rows, row.nodeId = some node.id ∧
      state.world.clock - heartbeatTimeout ≤ node.lastSeen) ∨
    row.nodeId = none ∧
      ∃ stored ∈ state.world.httpSessions.rows, stored.userSessionId = some row.id
  targets : ∀ row ∈ state.world.targetSessions.rows, row.isOpen = true →
    ∀ parent ∈ state.world.userSessions.rows, parent.id = row.userSessionId → parent.isOpen = true

def Ripe (state : State) : Prop :=
  (∃ node ∈ state.nodes.rows, state.world.clock - heartbeatTimeout ≤ node.lastSeen) ∧
    ∀ row ∈ state.world.userSessions.rows, row.isOpen = true → row.nodeId = none →
      (∃ stored ∈ state.world.httpSessions.rows, stored.userSessionId = some row.id) ∨
        row.protocol = .http ∧ row.started < state.world.clock - sharedSessionOrphanGrace

instance Ripe.decidable (state : State) : Decidable (Ripe state) :=
  inferInstanceAs (Decidable (_ ∧ _))

theorem targets_endChildren :
    ∀ r ∈ w.endChildrenOfEndedParents.targetSessions.rows, r.isOpen = true →
      ∀ parent ∈ w.userSessions.rows, parent.id = r.userSessionId → parent.isOpen = true := by
  intro r mem isOpen parent isParent named
  obtain ⟨old, -, rfl⟩ := mem_map.mp mem
  split at isOpen
  case isTrue => cases isOpen
  case isFalse unended =>
    rw [if_neg unended] at named
    have found := find?_of_mem isParent
    rw [named] at found
    simpa [isOpen, found] using unended

theorem sessions_of_rested {pre between post : World}
    (ripe : ∀ r ∈ pre.userSessions.rows, r.isOpen = true → r.nodeId = none →
      (∃ stored ∈ pre.httpSessions.rows, stored.userSessionId = some r.id) ∨
        r.protocol = .http ∧ r.started < pre.clock - sharedSessionOrphanGrace)
    (swept : Swept (pre.openMatching (.connectionBound live)) pre between)
    (rested : Rested between post) :
    ∀ r ∈ post.userSessions.rows, r.isOpen = true → (∃ node ∈ live, r.nodeId = some node) ∨
      r.nodeId = none ∧ ∃ stored ∈ post.httpSessions.rows, stored.userSessionId = some r.id := by
  obtain ⟨last, swept', rfl⟩ := rested
  intro r mem isOpen
  have found := find?_of_mem mem
  obtain ⟨found', unlisted'⟩ := swept'.rows r.id r found isOpen
  obtain ⟨found'', unlisted⟩ := swept.rows r.id r found' isOpen
  cases isNode : r.nodeId with
  | some node => grind [selects, mem_openMatching]
  | none =>
    refine .inr ⟨rfl, ?_⟩
    have survives : (∃ stored ∈ between.httpSessions.rows, stored.userSessionId = some r.id) →
        ∃ stored ∈ last.httpSessions.rows, stored.userSessionId = some r.id := by
      rintro ⟨stored, isStored, named⟩
      refine ⟨stored, swept'.stored stored isStored fun id listed other => ?_, named⟩
      rw [named] at other
      exact unlisted' (some.inj other ▸ listed)
    rcases ripe r (mem_of_find? found'') isOpen isNode with
      ⟨stored, isStored, named⟩ | ⟨http, old⟩
    · refine survives ⟨stored, swept.stored stored isStored fun id listed other => ?_, named⟩
      rw [named] at other
      exact unlisted (some.inj other ▸ listed)
    · refine survives ?_
      by_contra unbacked
      refine unlisted' (mem_openMatching.mpr ⟨r, found', isOpen, ?_⟩)
      simp only [selects, decide_eq_true_eq]
      refine ⟨http, isNode, swept.clock ▸ old, fun stored isStored named => ?_⟩
      exact unbacked ⟨stored, isStored, named⟩

abbrev AloneHere {Result : Type}
    (ensures : List Seen → Result → State → Prop) (history : List Seen) (program : Action Result)
    (state : State) : Prop :=
  program.Meets (execute primitives) (fun _ _ => True)
    (Contract.relying Eq Eq.refl fun _ _ _ => Eq.trans) ensures history state

theorem alone_within {P : Primitives} {Result : Type} {ensures : Result → World → Prop}
    {prog : Sessions.Action Result}
    (alone : Alone P (fun _ res w => ensures res w) [] prog s.world) :
    AloneHere P (fun _ res reached => ensures res reached.world ∧ reached.nodes = s.nodes) hist
      (within prog) s := by
  refine Program.Meets.imp (Program.Meets.lift world
    (fun reached => reached.nodes = s.nodes) (fun _ _ => rfl) (fun _ _ => rfl)
    (fun _ _ framed => framed) ?_ (fun _ _ _ _ _ => trivial) alone rfl) ?_
  · rintro own stmt pre _ framed rfl -
    exact ⟨rfl, trivial, framed⟩
  · grind

theorem settled_of_rested (ripe : Ripe s) {between : World} {reached : State}
    (sameNodes : reached.nodes = (s.deleteStale (s.world.clock - heartbeatTimeout)).nodes)
    (swept : Swept (s.world.openMatching (.connectionBound (reached.nodes.rows.map Node.id)))
      s.world between) (rested : Rested between reached.world) : Settled reached := by
  have open_rows := sessions_of_rested ripe.2 swept rested
  obtain ⟨last, swept', isLast⟩ := rested
  have sameClock : reached.world.clock = s.world.clock := by
    rw [isLast]
    exact swept'.clock.trans swept.clock
  constructor
  · intro r mem isOpen
    refine (open_rows r mem isOpen).imp_left ?_
    rintro ⟨node, isLive, isNode⟩
    obtain ⟨live, stored, rfl⟩ := mem_map.mp isLive
    refine ⟨live, stored, isNode, ?_⟩
    rw [sameNodes] at stored
    rw [sameClock]
    simpa using (mem_filter.mp stored).2
  · rw [isLast]
    exact targets_endChildren last

theorem reap_settles (ripe : Ripe state) :
    AloneHere P (fun _ res reached => res = .ok () → Settled reached) [] reap state := by
  rintro _ rfl -
  refine ⟨trivial, ?_⟩
  show (act (.deleteStale (state.world.clock - heartbeatTimeout)) >>= fun deleted => _).Meets
    (execute P) _ _ _ [⟨.inl (.inr (.read .now)), state.world.clock⟩] state
  rintro _ rfl -
  refine ⟨trivial, ?_⟩
  rcases execute_deleteStale_cases P (state.world.clock - heartbeatTimeout) state with
    failed | deleted
  · rw [failed]
    exact fun ok => by cases ok
  rw [deleted]
  rintro _ rfl -
  refine ⟨trivial, ?_⟩
  have some_live : (state.deleteStale (state.world.clock - heartbeatTimeout)).nodes.rows.map Node.id
      ≠ [] := by
    obtain ⟨node, mem, recent⟩ := ripe.1
    have kept : node ∈ (state.deleteStale (state.world.clock - heartbeatTimeout)).nodes.rows :=
      mem_filter.mpr ⟨mem, by simpa using recent⟩
    exact ne_nil_of_mem (mem_map_of_mem kept)
  generalize isDeleted : state.deleteStale
    (state.world.clock - heartbeatTimeout) = left at some_live
  have sameWorld : left.world = state.world := by rw [← isDeleted]; rfl
  rcases left.world.whenReachable_cases (left.nodes.rows.map Node.id) with failed | read
  · rw [show (execute P (.inr .liveNodes) left).1 = none from failed]
    exact fun ok => by cases ok
  · rw [show (execute P (.inr .liveNodes) left).1 = some _ from read]
    refine (alone_within (reap_rests some_live)).imp ?_
    rintro seen res reached ⟨rests, sameNodes⟩ ok
    obtain ⟨between, swept, rested⟩ := rests ok
    change Swept (left.world.openMatching (.connectionBound (left.nodes.rows.map Node.id)))
      left.world between at swept
    rw [sameWorld, ← show reached.nodes = left.nodes from sameNodes] at swept
    exact settled_of_rested ripe (sameNodes.trans (congrArg nodes isDeleted.symm)) swept rested

def reapAlone (reached : Reached) (count : Nat) : Reached :=
  (reached.step (system primitives) (.start .reap)).run (system primitives)
    (advances reached.threads.length count)

/-- In every run in which the reaps admit what is performed next to them, a reap that is about to
end a session may end it; and a reap that runs alone where things are ripe leaves them settled. -/
theorem reap_ends_only_the_dead {primitives : Primitives} (world : World) (moves : List (Move Task))
    (along : Config.Along (system primitives) (Orderly primitives)
      (Config.initial (State.empty world)) moves) :
    let reached := (Config.initial (State.empty world)).run (system primitives) moves
    (∀ th ∈ reached.threads, th.task = .reap →
      ∀ id, th.program.head = some (.inl (.inr (.revoke id))) →
        MayEnd th.history reached.state id) ∧
    (Ripe reached.state → ∀ count,
      (reapAlone primitives reached count).threads[reached.threads.length]?.bind Thread.result =
        some (.ok ()) →
      Settled (reapAlone primitives reached count).state) := by
  refine ⟨fun th mem reaps id ends => mayEnd_of_reaping world along mem reaps ends, ?_⟩
  intro ripe count finished
  obtain ⟨th, -, settled⟩ := run_ensures Eq.refl (fun _ _ _ => Eq.trans)
    (fun _ _ _ _ same holds => same ▸ holds) _ Task.reap (advances _ count)
    (fun _ move => move = .advance _) (fun _ _ _ _ isOwn isOther => absurd isOwn isOther)
    (fun _ _ _ _ _ => trivial) (along_advances (system primitives) _ _ _)
    (reap_settles primitives ripe) finished
  exact settled rfl

def after (moves : List (Move Task)) : Reached :=
  (Config.initial (State.empty (.fresh Sessions.aliceHasRole .empty))).run (system Auth.plain)
    moves

def endsNext (reached : Reached) (index : Nat) : Option (UserSessionId × Option OffsetDateTime) :=
  reached.threads[index]?.bind fun thread =>
    match thread.program.head with
    | some (.inl (.inr (.revoke id))) => some (id, startedAt thread.history)
    | _ => none

def done (task : Task) (index : Nat) : List (Move Task) := [.start task, .advance index]

def seconds (count : Nat) : Duration := count * 1000000000

def reapsDead : List (Move Task) :=
  done (.heartbeat 2) 0 ++ done (.sessions (.register 7 .ssh (some 2)) rfl) 1 ++
    done (.sessions (.elapse (seconds 31)) rfl) 2 ++ done (.heartbeat 1) 3 ++
    [.start .reap] ++ advances 4 4

theorem dead_session_is_ended :
    Config.Along (system Auth.plain) (Orderly Auth.plain)
      (Config.initial (State.empty (.fresh Sessions.aliceHasRole .empty))) reapsDead ∧
    (∃ thread ∈ (after reapsDead).threads, thread.task = .reap ∧
      MayEnd thread.history (after reapsDead).state 7) ∧
    (after (reapsDead ++ advances 4 1)).state.world.isLive 7 = false ∧
    Ripe (after reapsDead).state ∧
    Settled (reapAlone Auth.plain (after reapsDead) 20).state := by
  have along : Along (system Auth.plain) (Orderly Auth.plain)
      (initial (empty (.fresh Sessions.aliceHasRole .empty))) reapsDead := by
    decide +kernel
  obtain ⟨ends, settles⟩ := reap_ends_only_the_dead _ reapsDead along
  have ripe : Ripe (after reapsDead).state := by decide +kernel
  have reaping : ∃ thread, (after reapsDead).threads[4]? = some thread ∧ thread.task = .reap ∧
      thread.program.head = some (.inl (.inr (.revoke 7))) := ⟨_, rfl, rfl, rfl⟩
  obtain ⟨thread, found, reaps, ending⟩ := reaping
  refine ⟨along, ⟨thread, mem_of_getElem? found, reaps, ?_⟩, by decide +kernel, ripe, ?_⟩
  · exact ends thread (mem_of_getElem? found) reaps 7 ending
  · exact settles ripe 20 (by decide +kernel)

def joinsLate : List (Move Task) :=
  done (.heartbeat 1) 0 ++ [.start .reap] ++ advances 1 3 ++ done (.heartbeat 2) 2 ++
    done (.sessions (.register 7 .ssh (some 2)) rfl) 3 ++ advances 1 1

def reapsOverlap : List (Move Task) :=
  done (.heartbeat 2) 0 ++ done (.sessions (.register 7 .ssh (some 2)) rfl) 1 ++
    done (.sessions (.elapse (seconds 20)) rfl) 2 ++ [.start .reap] ++ advances 3 2 ++
    done (.sessions (.elapse (seconds 15)) rfl) 4 ++ done (.heartbeat 1) 5 ++
    [.start .reap] ++ advances 6 2 ++ advances 3 2

def storedLate : List (Move Task) :=
  done (.sessions (.register 7 .http none) rfl) 0 ++
    done (.sessions (.elapse (seconds 301)) rfl) 1 ++ done (.heartbeat 1) 2 ++
    [.start .reap] ++ advances 3 6 ++
    [.start (.sessions (.request 1 "old" "new" none (.changed ⟨some 7, none⟩)) rfl)] ++ advances 4 2

def loggingIn : List (Move Task) :=
  done (.heartbeat 1) 0 ++ done (.sessions (.register 7 .http none) rfl) 1

theorem live_sessions_are_ended :
    (endsNext (after joinsLate) 1 = some (7, some 0) ∧
      (after joinsLate).state.world.isLive 7 = true ∧
      (2, 0) ∈ (after joinsLate).state.heartbeats ∧ 2 ∉ (after joinsLate).state.shutDown ∧
      (after (joinsLate ++ advances 1 1)).state.world.isLive 7 = false) ∧
    (endsNext (after reapsOverlap) 3 = some (7, some 20000000000) ∧
      (after reapsOverlap).state.world.isLive 7 = true ∧
      (2, 0) ∈ (after reapsOverlap).state.heartbeats ∧ 2 ∉ (after reapsOverlap).state.shutDown ∧
      (after (reapsOverlap ++ advances 3 1)).state.world.isLive 7 = false) ∧
    (endsNext (after storedLate) 3 = some (7, some 301000000000) ∧
      (after storedLate).state.world.isLive 7 = true ∧
      ((after storedLate).state.world.httpSessions.rows.map (·.userSessionId)) = [some 7] ∧
      (after (storedLate ++ advances 3 1)).state.world.isLive 7 = false) ∧
    ((reapAlone Auth.plain (after loggingIn) 7).threads[2]?.bind Thread.result =
        some (.ok ()) ∧
      (reapAlone Auth.plain (after loggingIn) 7).state.world.isLive 7 = true ∧
      (reapAlone Auth.plain (after loggingIn) 7).state.world.httpSessions.rows = []) := by
  decide +kernel

end Warpgate.Cluster
