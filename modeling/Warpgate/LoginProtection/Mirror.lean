/-
This file compares a node with its cache and the same node with a cache that is
always empty.
-/

import Warpgate.LoginProtection.Lockout

namespace Warpgate.LoginProtection

open Auth (IpAddr)
open Concurrent List Option Sql.Table Function World Primitives UserLockout

structure AddressParser (primitives : Primitives) where
  parse : String → Option IpAddr
  parse_ipToString : ∀ ip, parse (primitives.ipToString ip) = some ip

variable {primitives : Primitives} (parser : AddressParser primitives)

/-! ### The cache and a restart -/

def loadBlock (entries : IpAddr → Option IpBlockInfo)
    (block : IpBlock) : IpAddr → Option IpBlockInfo :=
  match (parser.parse block.ipAddress).map IpAddr.toCanonical with
  | some ip => Function.update entries ip (some (block.info ip))
  | none => entries

def loadLockout (primitives : Primitives) (now : OffsetDateTime)
    (entries : String → Option UserLockInfo) (lockout : UserLockout) :
    String → Option UserLockInfo :=
  if lockout.info.active now then
    Function.update entries (primitives.toLowercase lockout.username) (some lockout.info)
  else entries

def Cache.loadFromDb (blocks : IpBlocks)
    (lockouts : UserLockouts) (now : OffsetDateTime) : Cache where
  blockedIps := (blocks.select fun block => now < block.expiresAt).foldl (loadBlock parser)
    fun _ => none
  lockedUsers := lockouts.rows.foldl (loadLockout primitives now) fun _ => none

def World.restart (node : NodeId) (world : World) : Option Unit × World :=
  if !world.reachable then (none, world.setCache node fun _ => .new)
  else if !world.config.enabled then (some (), world.setCache node fun _ => .new)
  else (some (), world.setCache node fun _ =>
    .loadFromDb parser world.ipBlocks world.userLockouts world.clock)

def World.forget (world : World) : World :=
  { world with caches := fun _ => .new }

def executeUncached (primitives : Primitives) (statement : Statement) (world : World) :
    statement.Outcome × World :=
  ((execute primitives statement world).1, (execute primitives statement world).2.forget)

inductive Operation
  | call (task : Task)
  | restart

section Operations

variable (parser : AddressParser primitives) (node : NodeId)

def Operation.perform : Operation → World → Answer × World
  | call task, world => world.call primitives task.program
  | restart, world => (.completion (world.restart parser node).1, (world.restart parser node).2)

def Operation.performUncached : Operation → World → Answer × World
  | call task, world => task.program.eval (executeUncached primitives) world
  | restart, world =>
    (.completion (world.restart parser node).1, (world.restart parser node).2.forget)

end Operations

def answers (perform : Operation → World → Answer × World) : World → List Operation → List Answer
  | _, [] => []
  | world, operation :: operations =>
    (perform operation world).1 :: answers perform (perform operation world).2 operations

structure World.WellStored (primitives : Primitives) (world : World) : Prop where
  canonical : ∀ block ∈ world.ipBlocks.rows, ∃ ip : IpAddr,
    ip.toCanonical = ip ∧ block.ipAddress = primitives.ipToString ip
  folded : ∀ lockout ∈ world.userLockouts.rows, primitives.FoldsAlike lockout.username
  single : ∀ first ∈ world.userLockouts.rows, ∀ second ∈ world.userLockouts.rows,
    primitives.sqlLower first.username = primitives.sqlLower second.username → first = second

/-! ### What the cache mirrors -/

structure BlocksMirrored (primitives : Primitives) (blocks : IpBlocks)
    (entries : IpAddr → Option IpBlockInfo) (now : OffsetDateTime) : Prop where
  canonical : ∀ block ∈ blocks.rows, ∃ ip : IpAddr,
    ip.toCanonical = ip ∧ block.ipAddress = primitives.ipToString ip
  mirrors : ∀ ip info, entries ip = some info → info.active now = true →
    ∃ block, blocks.find? (primitives.ipToString ip) = some block ∧ info = block.info ip

structure LocksMirrored (primitives : Primitives) (lockouts : UserLockouts)
    (entries : String → Option UserLockInfo) (now : OffsetDateTime) : Prop where
  folded : ∀ lockout ∈ lockouts.rows, primitives.FoldsAlike lockout.username
  single : ∀ first ∈ lockouts.rows, ∀ second ∈ lockouts.rows,
    primitives.sqlLower first.username = primitives.sqlLower second.username → first = second
  mirrors : ∀ name info, entries name = some info → info.active now = true →
    ∃ lockout ∈ lockouts.rows, primitives.sqlLower lockout.username = name ∧ info = lockout.info

structure World.Mirrored (primitives : Primitives) (node : NodeId) (world : World) : Prop where
  blocks : BlocksMirrored primitives world.ipBlocks (world.caches node).blockedIps world.clock
  locks : LocksMirrored primitives world.userLockouts (world.caches node).lockedUsers world.clock

variable {P : Primitives} {w : World}

theorem World.WellStored.mirrored {node : NodeId}
    (stored : w.WellStored P) (isNew : w.caches node = .new) : w.Mirrored P node := by
  constructor
  · rw [isNew]
    exact ⟨stored.canonical, nofun⟩
  · rw [isNew]
    exact ⟨stored.folded, stored.single, nofun⟩

theorem AddressParser.injective (parser : AddressParser P)
    {first second : IpAddr} (same : P.ipToString first = P.ipToString second) : first = second := by
  have read := parser.parse_ipToString first
  rw [same, parser.parse_ipToString] at read
  exact (some.inj read).symm

theorem toCanonical_idem (ip : IpAddr) : ip.toCanonical.toCanonical = ip.toCanonical := by
  cases ip with
  | v4 address => rfl
  | v6 address => grind [IpAddr.toCanonical]

variable {now : OffsetDateTime}

theorem IpBlockInfo.active_of_le {info : IpBlockInfo} {later : OffsetDateTime}
    (onwards : now ≤ later) (active : info.active later = true) : info.active now = true :=
  decide_eq_true (lt_of_le_of_lt onwards (of_decide_eq_true active))

theorem UserLockInfo.active_of_le {info : UserLockInfo} {later : OffsetDateTime}
    (onwards : now ≤ later) (active : info.active later = true) : info.active now = true := by
  unfold UserLockInfo.active at active ⊢
  cases exp : info.expiresAt with
  | none => rfl
  | some expiresAt => grind

variable {clock : OffsetDateTime}

namespace BlocksMirrored

variable {blocks : IpBlocks} {entries : IpAddr → Option IpBlockInfo}
  (mir : BlocksMirrored P blocks entries now)
include mir

theorem later (onwards : now ≤ clock) : BlocksMirrored P blocks entries clock where
  canonical := mir.canonical
  mirrors := fun ip info cached active =>
    mir.mirrors ip info cached (IpBlockInfo.active_of_le onwards active)

theorem fill {ip : IpAddr} {block : IpBlock} (found : blocks.find? (P.ipToString ip) = some block) :
    BlocksMirrored P blocks (update entries ip (some (block.info ip))) now where
  canonical := mir.canonical
  mirrors := by
    intro other info cached active
    by_cases same : other = ip
    · grind
    · rw [update_of_ne same] at cached
      exact mir.mirrors other info cached active

theorem clearExpired :
    BlocksMirrored P blocks (fun ip => (entries ip).filter (IpBlockInfo.active now)) now where
  canonical := mir.canonical
  mirrors := fun ip info cached active =>
    mir.mirrors ip info (filter_eq_some_iff.mp cached).1 active

theorem expire :
    BlocksMirrored P (blocks.delete fun block => block.expiresAt < now) entries now where
  canonical := fun block stored => mir.canonical block (mem_of_mem_filter stored)
  mirrors := by
    intro ip info cached active
    obtain ⟨block, found, rfl⟩ := mir.mirrors ip info cached active
    refine ⟨block, ?_, rfl⟩
    have inForce : now < block.expiresAt := of_decide_eq_true active
    rw [find?_delete, found, filter_some, if_pos]
    simpa using le_of_lt inForce

theorem unblock (parser : AddressParser P) (ip : IpAddr) :
    BlocksMirrored P (blocks.delete fun block => block.ipAddress ∈ P.forms ip)
      (update entries ip.toCanonical none) now where
  canonical := fun block stored => mir.canonical block (mem_of_mem_filter stored)
  mirrors := by
    intro other info cached active
    by_cases same : other = ip.toCanonical
    · rw [same, update_self] at cached
      cases cached
    · rw [update_of_ne same] at cached
      obtain ⟨block, found, rfl⟩ := mir.mirrors other info cached active
      refine ⟨block, ?_, rfl⟩
      have stored := key_of_find? found
      have kept : block.ipAddress ∉ P.forms ip := by
        intro listed
        obtain ⟨address, canonical, written⟩ := mir.canonical block (mem_of_find? found)
        have isOther : address = other := parser.injective (written.symm.trans stored)
        subst isOther
        rw [forms, mem_pair, storedAs, written] at listed
        rcases listed with plain | inCanonical
        · have isIp := parser.injective plain
          exact same (by rw [← isIp, canonical])
        · exact same (parser.injective inCanonical)
      rw [find?_delete, found, filter_some, if_pos]
      simpa using kept

theorem record (parser : AddressParser P) (atts : List FailedLoginAttempt)
    {ip : IpAddr} (canonical : ip.toCanonical = ip) (c : LoginProtectionConfig) :
    BlocksMirrored P (blockAddress P atts blocks ip now c).2 entries now ∧
      ∀ info, (blockAddress P atts blocks ip now c).1 = some info →
        ∃ block, (blockAddress P atts blocks ip now c).2.find?
          (P.ipToString ip) = some block ∧ info = block.info ip := by
  rcases blockAddress_cases P atts blocks ip now c with
    left | ⟨expired, block, isNew, created⟩
  · rw [left]
    exact ⟨mir, nofun⟩
  · rw [created]
    have written : block.ipAddress = P.ipToString ip := by rw [isNew]; rfl
    have found : (blocks.upsert block).find? (P.ipToString ip) = some block := by
      rw [find?_upsert, if_pos written]
    refine ⟨⟨?_, ?_⟩, fun info reports => ⟨block, found, (some.inj reports).symm⟩⟩
    · intro r stored
      rcases mem_insert stored with rfl | old
      · exact ⟨ip, canonical, written⟩
      · exact mir.canonical r (mem_of_mem_filter old)
    · intro other info cached active
      obtain ⟨r, stored, rfl⟩ := mir.mirrors other info cached active
      by_cases same : other = ip
      · rw [same] at stored
        exact absurd (of_decide_eq_true active) (not_lt_of_ge (expired r stored))
      · refine ⟨r, ?_, rfl⟩
        rw [find?_upsert, written, if_neg fun alike => same (parser.injective alike).symm]
        exact stored

omit mir in
theorem load (parser : AddressParser P)
    (canonical : ∀ block ∈ blocks.rows, ∃ ip : IpAddr,
      ip.toCanonical = ip ∧ block.ipAddress = P.ipToString ip)
    (selected : List IpBlock) (members : ∀ block ∈ selected, block ∈ blocks.rows)
    (mir : BlocksMirrored P blocks entries now) :
    BlocksMirrored P blocks (selected.foldl (loadBlock parser) entries) now := by
  induction selected generalizing entries with
  | nil => exact mir
  | cons block selected ih =>
    refine ih (fun r mem => members r (.tail _ mem)) ?_
    have stored := members block (.head _)
    obtain ⟨ip, isCanonical, written⟩ := canonical block stored
    have read : (parser.parse block.ipAddress).map IpAddr.toCanonical = some ip := by
      rw [written, parser.parse_ipToString, map_some, isCanonical]
    rw [loadBlock, read]
    refine mir.fill ?_
    rw [← written]
    exact find?_of_mem stored

end BlocksMirrored

variable {lo : UserLockout}

namespace LocksMirrored

variable {los : UserLockouts} {entries : String → Option UserLockInfo}
  (mir : LocksMirrored P los entries now)
include mir

theorem findLockout {name : String} (mem : lo ∈ los.rows)
    (named : P.sqlLower lo.username = P.toLowercase name) :
    P.findLockout los name = some lo := by
  cases found : P.findLockout los name with
  | none =>
    have unmatched := findLockout_eq_none_iff.mp found lo mem
    exact absurd named (of_decide_eq_false unmatched)
  | some other =>
    obtain ⟨otherMember, matched⟩ := mem_of_findLockout found
    have same := mir.single other otherMember lo mem ((of_decide_eq_true matched).trans named.symm)
    rw [same]

theorem later (onwards : now ≤ clock) : LocksMirrored P los entries clock where
  folded := mir.folded
  single := mir.single
  mirrors := fun name info cached active =>
    mir.mirrors name info cached (UserLockInfo.active_of_le onwards active)

theorem fill {name : String} (stored : lo ∈ los.rows) (named : P.sqlLower lo.username = name) :
    LocksMirrored P los (update entries name (some lo.info)) now where
  folded := mir.folded
  single := mir.single
  mirrors := by
    intro other info cached active
    by_cases same : other = name
    · grind
    · rw [update_of_ne same] at cached
      exact mir.mirrors other info cached active

theorem clearExpired :
    LocksMirrored P los (fun name => (entries name).filter (UserLockInfo.active now)) now where
  folded := mir.folded
  single := mir.single
  mirrors := fun name info cached active =>
    mir.mirrors name info (filter_eq_some_iff.mp cached).1 active

theorem delete {p : UserLockout → Bool} {left : String → Option UserLockInfo}
    (stays : ∀ name info, left name = some info → entries name = some info)
    (spared : ∀ name info, left name = some info → info.active now = true →
      ∀ lo, P.sqlLower lo.username = name → info = lo.info → p lo = false) :
    LocksMirrored P (los.delete p) left now where
  folded := fun lo stored => mir.folded lo (mem_of_mem_filter stored)
  single := fun first firstStored second secondStored =>
    mir.single first (mem_of_mem_filter firstStored) second
      (mem_of_mem_filter secondStored)
  mirrors := by
    intro name info cached active
    obtain ⟨lo, stored, named, isInfo⟩ := mir.mirrors name info (stays name info cached) active
    have kept := spared name info cached active lo named isInfo
    refine ⟨lo, mem_filter.mpr ⟨stored, ?_⟩, named, isInfo⟩
    rw [kept]
    rfl

theorem expire : LocksMirrored P (los.delete (expired now)) entries now := by
  refine mir.delete (fun _ _ cached => cached) ?_
  rintro name info - active lo - rfl
  unfold UserLockInfo.active info at active
  unfold expired
  cases exp : lo.expiresAt with
  | none => rfl
  | some expiresAt => grind

theorem unlock (uname : String) : LocksMirrored P
      (los.delete fun lo => P.usernameEqCi lo.username uname)
      (update entries (P.toLowercase uname) none) now := by
  have elsewhere : ∀ name info, update entries (P.toLowercase uname) none name = some info →
        name ≠ P.toLowercase uname := by
    rintro name info cached rfl
    rw [update_self] at cached
    cases cached
  refine mir.delete (fun name info cached => ?_) ?_
  · rwa [update_of_ne (elsewhere name info cached)] at cached
  · intro name info cached _ lo named _
    refine decide_eq_false fun matched => elsewhere name info cached ?_
    rw [← named, matched]

theorem record {atts : List FailedLoginAttempt} {adminStatus : Option Bool} {uname : String}
    {c : UserLockoutConfig} {lock : Option UserLockInfo × UserLockouts} (folds : P.FoldsAlike uname)
    (locks : lockOut P atts los adminStatus uname now c = some lock) :
    LocksMirrored P lock.2 entries now ∧ ∀ info, lock.1 = some info → ∃ lo ∈ lock.2.rows,
        P.sqlLower lo.username = P.toLowercase uname ∧ info = lo.info := by
  rcases lockOut_cases P atts los adminStatus uname now c with
    failed | left | ⟨noRow, created, failedCount, isNew, inserts⟩
  · rw [failed] at locks
    cases locks
  · grind
  · obtain rfl := some.inj (inserts.symm.trans locks)
    have named : created.username = uname := by rw [isNew]; rfl
    have absent : ∀ lo ∈ los.rows, P.sqlLower lo.username ≠ P.sqlLower created.username := by
      intro lo stored same
      have unmatched := findLockout_eq_none_iff.mp noRow lo stored
      refine of_decide_eq_false unmatched ?_
      rw [same, named, folds]
    have free : los.find? created.username = none := by
      rw [find?_eq_none_iff]
      intro taken
      obtain ⟨lo, stored, same⟩ := mem_map.mp taken
      exact absent lo stored (by rw [same])
    rw [los.insert_of_free created free]
    refine ⟨⟨?_, ?_, ?_⟩, ?_⟩
    · intro lo stored
      rcases mem_cons.mp stored with rfl | old
      · rw [named]
        exact folds
      · exact mir.folded lo old
    · intro first firstStored second secondStored same
      rcases mem_cons.mp firstStored with rfl | firstOld
      · grind
      · rcases mem_cons.mp secondStored with rfl | secondOld
        · exact absurd same (absent first firstOld)
        · exact mir.single first firstOld second secondOld same
    · intro name info cached active
      obtain ⟨lo, stored, isNamed, isInfo⟩ := mir.mirrors name info cached active
      exact ⟨lo, .tail _ stored, isNamed, isInfo⟩
    · grind

omit mir in
theorem load (selected : List UserLockout) (members : ∀ lo ∈ selected, lo ∈ los.rows)
    (mir : LocksMirrored P los entries now) :
    LocksMirrored P los (selected.foldl (loadLockout P now) entries) now := by
  induction selected generalizing entries with
  | nil => exact mir
  | cons lo selected ih =>
    refine ih (fun r mem => members r (.tail _ mem)) ?_
    have stored := members lo (.head _)
    unfold loadLockout
    split
    · exact mir.fill stored (mir.folded lo stored)
    · exact mir

end LocksMirrored

namespace World

variable (primitives) (world : World)

def rowInForce (ip : IpAddr) : Option IpBlock :=
  (world.ipBlocks.find? (primitives.ipToString ip)).filter fun block =>
    world.clock < block.expiresAt

def blockInForce (ip : IpAddr) : Option IpBlockInfo :=
  (world.rowInForce primitives ip).map (IpBlock.info ip)

def lockInForce (username : String) : Option UserLockInfo :=
  ((primitives.findLockout world.userLockouts username).filter fun lockout =>
    lockout.info.active world.clock).map UserLockout.info

def checkedIp (ip : IpAddr) : Option (Option IpBlockInfo) :=
  world.whenReachable (if !world.config.enabled || world.config.isIpExempt ip then none
    else world.blockInForce primitives ip)

def checkedUser (username : String) : Option (Option UserLockInfo) :=
  if !world.reachable then none
  else if !world.config.enabled then some none
  else (world.lockInForce primitives username).elim (some none) fun info =>
    (world.call primitives (unlessExempt world.config username info)).1

end World

/-! ### Checks answer from the rows -/

structure Faithful (primitives : Primitives) (node : NodeId)
    (run : (statement : Statement) → World → statement.Outcome × World)
    (view : World → World → Prop) : Prop where
  asked : ∀ {database state : World} (question : Question), view database state →
    run (.ask question) state = (question.answer primitives database, state)
  block : ∀ {database state : World} (ip : IpAddr), view database state →
    ∃ cached, run (.cache node (.isIpBlocked ip)) state = (cached, state) ∧
      ∀ info, cached = some info → database.blockInForce primitives ip = some info
  lock : ∀ {database state : World} (username : String), view database state →
    ∃ cached, run (.cache node (.isUserLocked username)) state = (cached, state) ∧
      ∀ info, cached = some info → database.lockInForce primitives username = some info
  fillsBlock : ∀ {database state : World} {ip : IpAddr} {info : IpBlockInfo},
    view database state → database.blockInForce primitives ip = some info →
    view database (run (.cache node (.blockIp ip info)) state).2
  fillsLock : ∀ {database state : World} {username : String} {info : UserLockInfo},
    view database state → database.lockInForce primitives username = some info →
    view database (run (.cache node (.lockUser username info)) state).2

variable {Result : Type}

namespace Faithful

variable {node : NodeId}
  {run : (statement : Statement) → World → statement.Outcome × World} {view : World → World → Prop}
  {database s : World}

theorem eval_inquire (faithful : Faithful P node run view) (viewed : view database s)
    (q : Question) (next : q.Answer → Action Result) :
    (inquire q >>= next).eval run s = (next (q.answer P database)).eval run s := by
  show (next (run (.ask q) s).1).eval run (run (.ask q) s).2 = _
  rw [faithful.asked q viewed]

theorem eval_act (stmt : Statement) (next : stmt.Outcome → Action Result) :
    (act stmt >>= next).eval run s = (next (run stmt s).1).eval run (run stmt s).2 := rfl

theorem answer_findIpBlock (up : database.reachable = true) (ip : IpAddr) :
    (Question.findIpBlock ip (Question.now.answer P database)).answer P database =
      some (database.rowInForce P ip) := by
  show database.whenReachable (database.rowInForce P ip) = _
  rw [whenReachable, if_pos up]

theorem eval_asking (faithful : Faithful P node run view)
    (viewed : view database s) {prog : Action Result}
    (asking : prog.Performs fun stmt => ∃ q, stmt = .ask q) :
    prog.eval run s = ((database.call P prog).1, s) := by
  induction prog with
  | done res => rfl
  | perform stmt next ih =>
    obtain ⟨⟨q, rfl⟩, rest⟩ := asking
    rw [Program.eval, faithful.asked q viewed]
    exact ih _ (rest _)

theorem checkIpBlocked (faithful : Faithful P node run view)
    (viewed : view database s) (ip : IpAddr) :
    ((checkIpBlocked node ip).eval run s).1 = database.checkedIp P ip.toCanonical ∧
      view database ((LoginProtection.checkIpBlocked node ip).eval run s).2 := by
  unfold LoginProtection.checkIpBlocked checkedIp
  rw [faithful.eval_inquire viewed]
  cases up : database.reachable with
  | false =>
    rw [answer_readConfig_failed up, whenReachable, up]
    exact ⟨rfl, viewed⟩
  | true =>
    rw [answer_readConfig up, whenReachable, up, if_pos rfl]
    dsimp only
    split
    · exact ⟨rfl, viewed⟩
    · obtain ⟨cached, found, inForce⟩ := faithful.block ip.toCanonical viewed
      rw [eval_act, found]
      cases cached with
      | some info => exact ⟨congrArg some (inForce info rfl).symm, viewed⟩
      | none =>
        dsimp only
        rw [faithful.eval_inquire viewed, faithful.eval_inquire viewed, answer_findIpBlock up]
        cases r : database.rowInForce P ip.toCanonical with
        | none => exact ⟨by rw [blockInForce, r]; rfl, viewed⟩
        | some block =>
          have holds : database.blockInForce P ip.toCanonical =
              some (block.info ip.toCanonical) := by
            rw [blockInForce, r]
            rfl
          refine ⟨congrArg some holds.symm, ?_⟩
          exact faithful.fillsBlock viewed holds

theorem checkUserLocked (faithful : Faithful P node run view)
    (viewed : view database s) (name : String) :
    ((checkUserLocked node name).eval run s).1 = database.checkedUser P name ∧
      view database ((LoginProtection.checkUserLocked node name).eval run s).2 := by
  unfold LoginProtection.checkUserLocked checkedUser
  have exempting : ∀ info, ∀ reached, view database reached →
      (unlessExempt database.config name info).eval run reached =
        ((database.call P (unlessExempt database.config name info)).1, reached) :=
    fun info reached holds => faithful.eval_asking holds
      (unlessExempt_performs (fun q => ⟨q, rfl⟩) database.config name info)
  rw [faithful.eval_inquire viewed]
  cases up : database.reachable with
  | false =>
    rw [answer_readConfig_failed up]
    exact ⟨rfl, viewed⟩
  | true =>
    rw [answer_readConfig up]
    simp only [Bool.not_true, Bool.false_eq_true, if_false]
    split
    · exact ⟨rfl, viewed⟩
    · obtain ⟨cached, found, inForce⟩ := faithful.lock name viewed
      rw [eval_act, found]
      cases cached with
      | some info => grind
      | none =>
        dsimp only
        rw [faithful.eval_inquire viewed, faithful.eval_inquire viewed]
        simp only [Question.answer, whenReachable, up, if_true]
        cases r : (P.findLockout database.userLockouts name).filter
            fun lo => lo.info.active database.clock with
        | none =>
          rw [lockInForce, r]
          exact ⟨rfl, viewed⟩
        | some lo =>
          have holds : database.lockInForce P name = some lo.info := by
            rw [lockInForce, r]
            rfl
          rw [holds]
          dsimp only [Option.elim]
          rw [eval_act, exempting lo.info _ (faithful.fillsLock viewed holds)]
          exact ⟨rfl, faithful.fillsLock viewed holds⟩

end Faithful

section Views

variable {node : NodeId}

theorem World.Mirrored.setCache {change : Cache → Cache}
    (blocks : BlocksMirrored P w.ipBlocks (change (w.caches node)).blockedIps w.clock)
    (locks : LocksMirrored P w.userLockouts (change (w.caches node)).lockedUsers w.clock) :
    (w.setCache node change).Mirrored P node := by
  rw [← update_self node (change (w.caches node)) w.caches] at blocks locks
  exact ⟨blocks, locks⟩

theorem World.forget_forget (w : World) : w.forget.forget = w.forget := rfl

theorem answer_forget (w : World) (q : Question) : q.answer P w.forget = q.answer P w := by
  cases q <;> rfl

theorem faithful_execute :
    Faithful P node (execute P) fun database s => s.forget = database ∧ s.Mirrored P node where
  asked := by
    rintro database s q ⟨rfl, -⟩
    rw [answer_forget]
    rfl
  block := by
    rintro database s ip ⟨rfl, mir⟩
    refine ⟨_, execute_isIpBlocked P s node ip, fun info cached => ?_⟩
    obtain ⟨e, active⟩ := filter_eq_some_iff.mp cached
    obtain ⟨block, found, rfl⟩ := mir.blocks.mirrors ip info e active
    have inForce : s.forget.rowInForce P ip = some block := by
      show (s.ipBlocks.find? _).filter _ = some block
      rw [found, filter_some, if_pos]
      exact active
    rw [blockInForce, inForce, map_some]
  lock := by
    rintro database s name ⟨rfl, mir⟩
    refine ⟨_, execute_isUserLocked P s node name, fun info cached => ?_⟩
    obtain ⟨e, active⟩ := filter_eq_some_iff.mp cached
    obtain ⟨lo, stored, named, rfl⟩ := mir.locks.mirrors _ info e active
    show ((P.findLockout s.userLockouts name).filter _).map _ = _
    rw [mir.locks.findLockout stored named, filter_some, if_pos, map_some]
    exact active
  fillsBlock := by
    rintro database s ip info ⟨rfl, mir⟩ inForce
    obtain ⟨block, r, rfl⟩ := map_eq_some_iff.mp inForce
    obtain ⟨found, -⟩ := filter_eq_some_iff.mp r
    refine ⟨rfl, ?_⟩
    show (s.setCache node fun cache => cache.blockIp ip (block.info ip)).Mirrored P node
    refine Mirrored.setCache ?_ ?_
    · exact mir.blocks.fill found
    · exact mir.locks
  fillsLock := by
    rintro database s name info ⟨rfl, mir⟩ inForce
    obtain ⟨lo, r, rfl⟩ := map_eq_some_iff.mp inForce
    obtain ⟨found, -⟩ := filter_eq_some_iff.mp r
    obtain ⟨stored, matched⟩ := mem_of_findLockout found
    refine ⟨rfl, ?_⟩
    show (s.setCache node fun cache => cache.lockUser P name lo.info).Mirrored P node
    refine Mirrored.setCache ?_ ?_
    · exact mir.blocks
    · exact mir.locks.fill stored (of_decide_eq_true matched)

theorem faithful_executeUncached :
    Faithful P node (executeUncached P) fun database s => s = database ∧ s.forget = s where
  asked := by
    rintro database s q ⟨rfl, empty⟩
    exact Prod.ext rfl empty
  block := by
    rintro database s ip ⟨rfl, empty⟩
    refine ⟨none, ?_, nofun⟩
    rw [executeUncached, execute_isIpBlocked, empty, ← empty]
    rfl
  lock := by
    rintro database s name ⟨rfl, empty⟩
    refine ⟨none, ?_, nofun⟩
    rw [executeUncached, execute_isUserLocked, empty, ← empty]
    rfl
  fillsBlock := by
    rintro database s ip info ⟨rfl, empty⟩ -
    exact ⟨empty, rfl⟩
  fillsLock := by
    rintro database s name info ⟨rfl, empty⟩ -
    exact ⟨empty, rfl⟩

def CacheAccess.reads : CacheAccess → Bool
  | isIpBlocked _ | isUserLocked _ => true
  | _ => false

open Mirrored

theorem write_forget (w : World) (res : Result) (written : World) :
    (w.write res written).1 = (w.forget.write res written.forget).1 ∧
      (w.write res written).2.forget = (w.forget.write res written.forget).2.forget := by
  grind [forget, write]

theorem execute_forget {stmt : Statement}
    (noRead : ∀ asked access, stmt = .cache asked access → access.reads = false) (w : World) :
    (execute P stmt w).1 = (executeUncached P stmt w.forget).1 ∧ (execute P stmt w).2.forget =
        (executeUncached P stmt w.forget).2 := by
  cases stmt with
  | ask q => exact ⟨(answer_forget w q).symm, rfl⟩
  | cache asked access =>
    cases access with
    | isIpBlocked ip | isUserLocked name => cases noRead asked _ rfl
    | blockIp ip info | lockUser name info | unblockIp ip | unlockUser name | clearExpired =>
      exact ⟨rfl, rfl⟩
  | recordAttempt att c =>
    show (w.recordAttempt P att c).1 = (w.forget.recordAttempt P att c).1 ∧
      (w.recordAttempt P att c).2.forget = (w.forget.recordAttempt P att c).2.forget
    have sameStatus : w.forget.userAdminStatus P att.username =
        w.userAdminStatus P att.username := rfl
    unfold recordAttempt
    rw [sameStatus]
    dsimp only [forget]
    cases lockOut P (att.row P w.clock :: w.failedLoginAttempts)
        w.userLockouts (w.userAdminStatus P att.username) att.username
        w.clock c.userLockout with
    | none => exact ⟨rfl, rfl⟩
    | some lock => exact write_forget w _ _
  | deleteAttempts ip name | deleteIpBlocks ip | deleteAttemptsFrom ip | deleteUserLockouts name
  | deleteAttemptsFor name | deleteExpiredIpBlocks now | deleteExpiredUserLockouts now
  | deleteAttemptsBefore cut => exact write_forget w _ _
  | setConfig c | elapse period | setReachable up => exact ⟨rfl, rfl⟩

end Views

/-! ### Calls keep the mirror -/

section

variable {node : NodeId}

theorem unblockIp_call (up : w.reachable = true) (ip : IpAddr) :
    w.call P (unblockIp node ip) =
      (some (), ((w.deleteIpBlocks fun block => block.ipAddress ∈ P.forms ip
        ).deleteAttempts fun att => att.remoteIp ∈ P.forms ip).setCache node
          fun cache => cache.unblockIp ip.toCanonical) := by
  simp only [call, unblockIp, Program.eval, execute, write, up, if_true,
    deleteIpBlocks, deleteAttempts, CacheAccess.execute, Bind.bind, Program.bind, pure]

theorem unlockUser_call (up : w.reachable = true) (name : String) :
    w.call P (unlockUser node name) =
      (some (), ((w.deleteUserLockouts fun lo => P.usernameEqCi lo.username name
        ).deleteAttempts fun att => P.usernameEqCi att.username name).setCache
          node fun cache => cache.unlockUser P name) := by
  simp only [call, unlockUser, Program.eval, execute, write, up, if_true,
    deleteUserLockouts, deleteAttempts, CacheAccess.execute, Bind.bind, Program.bind, pure]

theorem cleanupExpired_call (up : w.reachable = true) (enabled : w.config.enabled = true) :
    (w.call P (cleanupExpired node)).2 =
      (((w.deleteIpBlocks fun block => block.expiresAt < w.clock).deleteUserLockouts
        (expired w.clock)).deleteAttempts fun att =>
          att.timestamp < w.clock - seconds w.config.retentionSeconds).setCache node
            fun cache => cache.clearExpired w.clock := by
  simp only [call, cleanupExpired, Program.eval, execute, Question.answer,
    whenReachable, write, up, enabled, if_true, Bool.not_true,
    Bool.false_eq_true, if_false, deleteIpBlocks, deleteUserLockouts,
    deleteAttempts, CacheAccess.execute, Bind.bind, Program.bind, pure]
  rfl

theorem call_readConfig (next : Option LoginProtectionConfig → Action Result) :
    w.call P (inquire .readConfig >>= next) = if w.reachable then w.call P (next (some w.config))
      else w.call P (next none) := by
  grind [call_inquire, answer_readConfig_failed, answer_readConfig]

theorem World.Mirrored.unblockIp (parser : AddressParser P)
    (mir : w.Mirrored P node) (ip : IpAddr) : (w.call P (unblockIp node ip)).2.Mirrored P node := by
  cases up : w.reachable with
  | false =>
    have failed : (w.call P (LoginProtection.unblockIp node ip)).2 = w := by
      simp [call, LoginProtection.unblockIp, Program.eval, execute, write, up]
    rw [failed]
    exact mir
  | true =>
    rw [unblockIp_call up]
    dsimp only
    refine setCache ?_ ?_
    · exact mir.blocks.unblock parser ip
    · exact mir.locks

theorem World.Mirrored.unlockUser (mir : w.Mirrored P node) (name : String) :
    (w.call P (unlockUser node name)).2.Mirrored P node := by
  cases up : w.reachable with
  | false =>
    have failed : (w.call P (LoginProtection.unlockUser node name)).2 = w := by
      simp [call, LoginProtection.unlockUser, Program.eval, execute, write, up]
    rw [failed]
    exact mir
  | true =>
    rw [unlockUser_call up]
    dsimp only
    refine setCache ?_ ?_
    · exact mir.blocks
    · exact mir.locks.unlock name

theorem World.Mirrored.cleanupExpired (mir : w.Mirrored P node) :
    (w.call P (cleanupExpired node)).2.Mirrored P node := by
  cases up : w.reachable with
  | false =>
    rw [LoginProtection.cleanupExpired, call_readConfig, if_neg (by simp [up])]
    exact mir
  | true =>
    cases enabled : w.config.enabled with
    | false =>
      rw [LoginProtection.cleanupExpired, call_readConfig, if_pos up]
      simp only [enabled, Bool.not_false, if_true]
      exact mir
    | true =>
      rw [cleanupExpired_call up enabled]
      refine setCache ?_ ?_
      · exact mir.blocks.expire.clearExpired
      · exact mir.locks.expire.clearExpired

theorem World.Mirrored.reflect (mir : w.Mirrored P node)
    {att : FailedAttemptInfo} {newBlock : Option IpBlockInfo} {newLock : Option UserLockInfo}
    (blocks : ∀ info, newBlock = some info → ∃ block,
      w.ipBlocks.find? (P.ipToString att.remoteIp.toCanonical) = some block ∧
        info = block.info att.remoteIp.toCanonical)
    (locks : ∀ info, newLock = some info → ∃ lo ∈ w.userLockouts.rows,
      P.sqlLower lo.username = P.toLowercase att.username ∧ info = lo.info) :
    (w.call P (reflect node att newBlock newLock)).2.Mirrored P node := by
  have locksThen : ∀ reached : World, reached.Mirrored P node →
      reached.userLockouts = w.userLockouts →
      (reached.call P (LoginProtection.reflect node att none newLock)).2.Mirrored P node := by
    intro reached reachedMirrored sameLockouts
    cases newLock with
    | none => exact reachedMirrored
    | some info =>
      obtain ⟨lo, stored, named, rfl⟩ := locks info rfl
      rw [← sameLockouts] at stored
      show (reached.setCache node fun cache =>
        cache.lockUser P att.username lo.info).Mirrored P node
      refine setCache ?_ ?_
      · exact reachedMirrored.blocks
      · exact reachedMirrored.locks.fill stored named
  cases newBlock with
  | none => exact locksThen w mir rfl
  | some info =>
    obtain ⟨block, found, rfl⟩ := blocks info rfl
    refine locksThen (w.setCache node fun cache => cache.blockIp att.remoteIp.toCanonical
      (block.info att.remoteIp.toCanonical)) (setCache ?_ ?_) rfl
    · exact mir.blocks.fill found
    · exact mir.locks

theorem World.Mirrored.recordFailedAttempt (parser : AddressParser P)
    (mir : w.Mirrored P node) (att : FailedAttemptInfo) (folds : P.FoldsAlike att.username) :
    (w.call P (recordFailedAttempt node att)).2.Mirrored P node := by
  rw [LoginProtection.recordFailedAttempt, call_readConfig]
  split
  · dsimp only
    split
    · exact mir
    · rw [call_act, execute]
      rcases w.recordAttempt_cases P att w.config with
        failed | ⟨atts, block, lock, -, isBlock, locks, stored⟩
      · rw [failed]
        exact mir
      · rw [stored]
        dsimp only
        rw [call_bind]
        obtain ⟨blocksMirrored, blockStored⟩ := mir.blocks.record parser atts
          (toCanonical_idem att.remoteIp) w.config
        rw [← isBlock] at blocksMirrored blockStored
        obtain ⟨locksMirrored, lockStored⟩ := mir.locks.record folds locks
        exact reflect ⟨blocksMirrored, locksMirrored⟩ blockStored lockStored
  · exact mir

theorem World.Mirrored.clearFailedAttempts (mir : w.Mirrored P node) (ip : IpAddr) (name : String) :
    (w.call P (clearFailedAttempts ip name)).2.Mirrored P node := by
  rw [LoginProtection.clearFailedAttempts, call_readConfig]
  split
  · dsimp only
    split
    · exact mir
    · show (write _ _ _).2.Mirrored P node
      rcases w.write_cases () (w.deleteAttempts fun att =>
          att.remoteIp = P.ipToString ip.toCanonical &&
            P.usernameEqCi att.username name) with failed | done
      · rw [failed]
        exact mir
      · rw [done]
        exact ⟨mir.blocks, mir.locks⟩
  · exact mir

theorem World.Mirrored.restart (parser : AddressParser P) (mir : w.Mirrored P node) :
    (w.restart parser node).2.Mirrored P node := by
  have blocksNew : BlocksMirrored P w.ipBlocks (fun _ => none) w.clock :=
    ⟨mir.blocks.canonical, nofun⟩
  have locksNew : LocksMirrored P w.userLockouts (fun _ => none) w.clock :=
    ⟨mir.locks.folded, mir.locks.single, nofun⟩
  have isNew : (w.setCache node fun _ => .new).Mirrored P node := by
    refine World.Mirrored.setCache ?_ ?_
    · exact blocksNew
    · exact locksNew
  unfold World.restart
  split
  · exact isNew
  · split
    · exact isNew
    · dsimp only
      refine World.Mirrored.setCache ?_ ?_
      · exact .load parser mir.blocks.canonical _ (fun _ => mem_of_mem_filter) blocksNew
      · exact .load _ (fun _ mem => mem) locksNew

theorem World.Mirrored.call (parser : AddressParser P) (mir : w.Mirrored P node) {t : Task}
    (onNode : ∀ other, t.node = some other → other = node)
    (typed : ∀ name, t.typed = some name → P.FoldsAlike name) :
    (w.call P t.program).2.Mirrored P node := by
  cases t with
  | checkIpBlocked asked ip =>
    obtain rfl := onNode asked rfl
    rw [Task.program, call_answering]
    exact (faithful_execute.checkIpBlocked ⟨rfl, mir⟩ ip).2.2
  | checkUserLocked asked uname =>
    obtain rfl := onNode asked rfl
    rw [Task.program, call_answering]
    exact (faithful_execute.checkUserLocked ⟨rfl, mir⟩ uname).2.2
  | recordFailedAttempt asked att =>
    obtain rfl := onNode asked rfl
    rw [Task.program, call_answering]
    exact mir.recordFailedAttempt parser att (typed att.username rfl)
  | clearFailedAttempts ip uname =>
    rw [Task.program, call_answering]
    exact mir.clearFailedAttempts ip uname
  | unblockIp asked ip =>
    obtain rfl := onNode asked rfl
    rw [Task.program, call_answering]
    exact mir.unblockIp parser ip
  | unlockUser asked uname =>
    obtain rfl := onNode asked rfl
    rw [Task.program, call_answering]
    exact mir.unlockUser uname
  | cleanupExpired asked =>
    obtain rfl := onNode asked rfl
    rw [Task.program, call_answering]
    exact mir.cleanupExpired
  | setConfig c | setReachable up => exact ⟨mir.blocks, mir.locks⟩
  | elapse period =>
    have onwards : w.clock ≤ w.clock + period := by grind
    exact ⟨mir.blocks.later onwards, mir.locks.later onwards⟩

end

/-! ### With a cache and without -/

section

variable {node : NodeId}

def Task.isCheck : Task → Bool
  | .checkIpBlocked _ _ | .checkUserLocked _ _ => true
  | _ => false

theorem Task.reads_of_mayAccess {t : Task} (noCheck : t.isCheck = false)
    {access : CacheAccess} (may : t.mayAccess access = true) : access.reads = false := by
  cases access with
  | isIpBlocked ip | isUserLocked name => cases t <;> first | (cases may; done) | cases noCheck
  | _ => rfl

theorem call_forget {t : Task} (noCheck : t.isCheck = false) (w : World) :
    (w.call P t.program).1 = (t.program.eval (executeUncached P) w.forget).1 ∧
      (w.call P t.program).2.forget = (t.program.eval (executeUncached P) w.forget).2 := by
  have simulates : ∀ stmt s other, t.mayPerform stmt → forget s = other →
      (execute P stmt s).1 = (executeUncached P stmt other).1 ∧ (execute P stmt s).2.forget =
          (executeUncached P stmt other).2 := by
    rintro stmt s other may rfl
    refine execute_forget (fun asked access isAccess => ?_) s
    rw [isAccess] at may
    exact Task.reads_of_mayAccess noCheck may.2
  exact t.program_performs.eval_simulates simulates rfl

theorem eval_answering {run : (stmt : Statement) → World →
    stmt.Outcome × World} (prog : Action Result) (ans : Result → Answer) (w : World) :
    (answering prog ans).eval run w = (ans (prog.eval run w).1, (prog.eval run w).2) := by
  rw [answering, Program.eval_bind]
  rfl

theorem check_uncached {prog : Action Result} {expected : Result} {kept : World → Prop}
    (cached : (w.call P prog).1 = expected ∧
      (w.call P prog).2.forget = w.forget ∧ kept (w.call P prog).2)
    (uncached : (prog.eval (executeUncached P) w.forget).1 = expected ∧
      (prog.eval (executeUncached P) w.forget).2 = w.forget ∧
      (prog.eval (executeUncached P) w.forget).2.forget =
        (prog.eval (executeUncached P) w.forget).2) (ans : Result → Answer) :
    (w.call P (answering prog ans)).1 = ((answering prog ans).eval (executeUncached P) w.forget).1 ∧
      (w.call P (answering prog ans)).2.forget =
        ((answering prog ans).eval (executeUncached P) w.forget).2 := by
  grind [call, eval_answering]

theorem call_uncached (mir : w.Mirrored P node) {t : Task}
    (onNode : ∀ other, t.node = some other → other = node) :
    (w.call P t.program).1 = (t.program.eval (executeUncached P) w.forget).1 ∧
      (w.call P t.program).2.forget = (t.program.eval (executeUncached P) w.forget).2 := by
  cases t with
  | checkIpBlocked asked ip =>
    obtain rfl := onNode asked rfl
    exact check_uncached (faithful_execute.checkIpBlocked ⟨rfl, mir⟩ ip)
      (faithful_executeUncached.checkIpBlocked ⟨rfl, w.forget_forget⟩ ip) .ipBlock
  | checkUserLocked asked name =>
    obtain rfl := onNode asked rfl
    exact check_uncached (faithful_execute.checkUserLocked ⟨rfl, mir⟩ name)
      (faithful_executeUncached.checkUserLocked ⟨rfl, w.forget_forget⟩ name) .userLock
  | _ => exact call_forget rfl w

theorem restart_uncached (parser : AddressParser P) (node : NodeId) (w : World) :
    (w.restart parser node).1 = (w.forget.restart parser node).1 ∧
      (w.restart parser node).2.forget = (w.forget.restart parser node).2.forget := by
  grind [restart, forget, setCache]

theorem perform_uncached (parser : AddressParser P)
    (mir : w.Mirrored P node) (operation : Operation)
    (onNode : ∀ t, operation = .call t → ∀ other, t.node = some other → other = node)
    (typed : ∀ t, operation = .call t → ∀ name, t.typed = some name → P.FoldsAlike name) :
    (operation.perform parser node w).1 = (operation.performUncached parser node w.forget).1 ∧
      (operation.perform parser node w).2.forget =
        (operation.performUncached parser node w.forget).2 ∧
      (operation.perform parser node w).2.Mirrored P node := by
  cases operation with
  | call t =>
    obtain ⟨sameAnswer, sameRows⟩ := call_uncached mir (onNode t rfl)
    exact ⟨sameAnswer, sameRows, mir.call parser (onNode t rfl) (typed t rfl)⟩
  | restart =>
    obtain ⟨sameOutcome, sameRows⟩ := restart_uncached parser node w
    exact ⟨congrArg Answer.completion sameOutcome, sameRows, mir.restart parser⟩

end

/-- A node answers every sequence of calls and restarts as it would with a cache that is always
empty, where every name that is typed in an attempt is folded alike by the service and the database.
-/
theorem cache_is_invisible (primitives : Primitives) (parser : AddressParser primitives)
    (node : NodeId) (world : World) (operations : List Operation)
    (stored : world.WellStored primitives) (started : world.caches node = .new)
    (onNode : ∀ task, .call task ∈ operations → ∀ other, task.node = some other → other = node)
    (typed : ∀ task, .call task ∈ operations → ∀ name, task.typed = some name →
      primitives.FoldsAlike name) :
    answers (Operation.perform parser node) world operations =
      answers (Operation.performUncached parser node) world.forget operations := by
  have mir := stored.mirrored started
  clear stored started
  induction operations generalizing world with
  | nil => rfl
  | cons operation operations ih =>
    obtain ⟨sameAnswer, sameRows, stays⟩ := perform_uncached parser mir operation
      (fun task isCall => onNode task (by rw [isCall]; exact .head _))
      (fun task isCall => typed task (by rw [isCall]; exact .head _))
    rw [answers, answers, sameAnswer, ← sameRows]
    rw [ih _ (fun task mem => onNode task (.tail _ mem))
      (fun task mem => typed task (.tail _ mem)) stays]

def unaryPrimitives : Primitives :=
  { sqlitePrimitives with
    ipToString := fun
      | .v4 address => String.ofList ('4' :: List.replicate address.toNat '1')
      | .v6 address => String.ofList ('6' :: List.replicate address.toNat '1') }

def unaryParser : AddressParser unaryPrimitives where
  parse := fun text =>
    match text.toList with
    | '4' :: digits => some (.v4 (BitVec.ofNat 32 digits.length))
    | '6' :: digits => some (.v6 (BitVec.ofNat 128 digits.length))
    | _ => none
  parse_ipToString := by
    intro ip
    cases ip with
    | v4 address | v6 address => simp [unaryPrimitives]

def lockedThroughRestart : List Operation :=
  [.call (failsAs "Alice"), .call (.checkUserLocked 0 "alice"), .restart,
    .call (.checkUserLocked 0 "ALICE"), .call (.elapse (seconds 2)),
    .call (.checkUserLocked 0 "alice")]

theorem cache_is_invisible_restart :
    answers (Operation.perform unaryParser 0) quietWorld lockedThroughRestart =
      answers (Operation.performUncached unaryParser 0) quietWorld.forget
        lockedThroughRestart := by
  refine cache_is_invisible unaryPrimitives unaryParser 0 quietWorld lockedThroughRestart
    ⟨nofun, nofun, nofun⟩ rfl ?_ ?_
  · intro t mem other isNode
    simp only [lockedThroughRestart, mem_cons, Operation.call.injEq, reduceCtorEq,
      not_mem_nil, or_false, false_or] at mem
    rcases mem with rfl | rfl | rfl | rfl | rfl
    · exact (some.inj isNode).symm
    · exact (some.inj isNode).symm
    · exact (some.inj isNode).symm
    · cases isNode
    · exact (some.inj isNode).symm
  · intro t mem name isTyped
    simp only [lockedThroughRestart, mem_cons, Operation.call.injEq, reduceCtorEq,
      not_mem_nil, or_false, false_or] at mem
    rcases mem with rfl | rfl | rfl | rfl | rfl
    · obtain rfl := some.inj isTyped
      decide +kernel
    · cases isTyped
    · cases isTyped
    · cases isTyped
    · cases isTyped

def Answer.reportsLock : Answer → Bool
  | .userLock (some locked) => locked.isSome
  | _ => false

def relockedAs : List Operation :=
  [.call (failsAs "éve"), .call (.elapse (seconds 2)), .call (.cleanupExpired 0),
    .call (failsAs "ÉVE"), .call (.checkUserLocked 0 "éve")]

theorem respelled_lock_is_only_cached :
    eveWorld.resolves unaryPrimitives eve "ÉVE" = true ∧
      (answers (Operation.perform unaryParser 0) eveWorld relockedAs).getLast?.map
        Answer.reportsLock = some true ∧
      (answers (Operation.performUncached unaryParser 0) eveWorld.forget relockedAs).getLast? =
        some (.userLock (some none)) := by
  decide +kernel

end Warpgate.LoginProtection
