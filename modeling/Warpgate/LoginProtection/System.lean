/-
This file translates the login protection service, what it stores and how it decides.
-/

import Mathlib.Data.PNat.Basic
import Warpgate.Auth.State
import Warpgate.Concurrent.Rely

namespace Warpgate

def Auth.IpAddr.toCanonical : Auth.IpAddr → Auth.IpAddr
  | .v4 address => .v4 address
  | .v6 address => if address >>> 32 = 0xffff then .v4 (address.truncate 32) else .v6 address

variable {Result : Type}

namespace LoginProtection

open Auth (AuthStateUserInfo IpAddr)

structure Primitives extends Auth.Primitives where
  sqlLower : String → String
  scale : (base : Nat) → (multiplier : BitVec 32) → (exponent : Int32) → Nat

def seconds (count : Nat) : Duration := count * 1000000000

inductive IpNet
  | v4 (network : BitVec 32) (length : Fin 33)
  | v6 (network : BitVec 128) (length : Fin 129)
  deriving DecidableEq, Repr

def IpNet.contains : IpNet → IpAddr → Bool
  | .v4 network length, .v4 address =>
    network >>> (32 - length.val) = address >>> (32 - length.val)
  | .v6 network length, .v6 address =>
    network >>> (128 - length.val) = address >>> (128 - length.val)
  | _, _ => false

/-! ### Settings and rows -/

structure IpRateLimitConfig where
  maxAttempts : ℕ+
  timeWindowSeconds : ℕ+
  baseBlockDurationSeconds : ℕ+
  blockDurationMultiplier : BitVec 32
  maxBlockDurationSeconds : ℕ+
  cooldownResetSeconds : ℕ+
  deriving DecidableEq

structure UserLockoutConfig where
  maxAttempts : ℕ+
  timeWindowSeconds : ℕ+
  autoUnlock : Bool
  lockoutDurationSeconds : ℕ+
  exemptAdmins : Bool
  deriving DecidableEq

structure LoginProtectionConfig where
  enabled : Bool
  retentionSeconds : ℕ+
  ipRateLimit : IpRateLimitConfig
  userLockout : UserLockoutConfig
  ipExempt : List IpNet
  deriving DecidableEq

def LoginProtectionConfig.isIpExempt (config : LoginProtectionConfig) (ip : IpAddr) : Bool :=
  config.ipExempt.any fun network => network.contains ip.toCanonical

structure FailedAttemptInfo where
  username : String
  remoteIp : IpAddr
  protocol : Protocol
  credentialType : String
  deriving DecidableEq

structure FailedLoginAttempt where
  username : String
  remoteIp : String
  protocol : String
  credentialType : String
  timestamp : OffsetDateTime
  deriving DecidableEq

structure IpBlock where
  ipAddress : String
  blockCount : Int32
  blockedAt : OffsetDateTime
  expiresAt : OffsetDateTime
  reason : String
  lastAttemptAt : OffsetDateTime
  deriving DecidableEq

structure UserLockout where
  username : String
  lockedAt : OffsetDateTime
  expiresAt : Option OffsetDateTime
  reason : String
  failedAttemptCount : Int32
  deriving DecidableEq

structure IpBlockInfo where
  ipAddress : IpAddr
  blockedAt : OffsetDateTime
  expiresAt : OffsetDateTime
  blockCount : Int32
  reason : String
  deriving DecidableEq

structure UserLockInfo where
  username : String
  lockedAt : OffsetDateTime
  expiresAt : Option OffsetDateTime
  reason : String
  deriving DecidableEq

abbrev IpBlocks := Sql.Table IpBlock IpBlock.ipAddress
abbrev UserLockouts := Sql.Table UserLockout UserLockout.username

def IpBlock.info (ip : IpAddr) (block : IpBlock) : IpBlockInfo where
  ipAddress := ip
  blockedAt := block.blockedAt
  expiresAt := block.expiresAt
  blockCount := block.blockCount
  reason := block.reason

def UserLockout.info (lockout : UserLockout) : UserLockInfo where
  username := lockout.username
  lockedAt := lockout.lockedAt
  expiresAt := lockout.expiresAt
  reason := lockout.reason

def IpBlockInfo.active (now : OffsetDateTime) (info : IpBlockInfo) : Bool := now < info.expiresAt

def UserLockInfo.active (now : OffsetDateTime) (info : UserLockInfo) : Bool :=
  info.expiresAt.all (now < ·)

namespace Primitives

def usernameEqCi (primitives : Primitives) (stored asked : String) : Bool :=
  primitives.sqlLower stored = primitives.toLowercase asked

def storedAs (primitives : Primitives) (ip : IpAddr) : String :=
  primitives.ipToString ip.toCanonical

def forms (primitives : Primitives) (ip : IpAddr) : List String :=
  [primitives.ipToString ip, primitives.storedAs ip]

def findLockout (primitives : Primitives) (lockouts : UserLockouts) (username : String) :
    Option UserLockout :=
  lockouts.rows.find? fun lockout => primitives.usernameEqCi lockout.username username

variable {name : String} {los : UserLockouts} {P : Primitives}

theorem findLockout_eq_none_iff :
    P.findLockout los name = none ↔ ∀ lo ∈ los.rows, P.usernameEqCi lo.username name = false := by
  simp [findLockout, List.find?_eq_none]

theorem mem_of_findLockout {lo : UserLockout} (found : P.findLockout los name = some lo) :
    lo ∈ los.rows ∧ P.usernameEqCi lo.username name = true :=
  ⟨List.mem_of_find?_eq_some found, (List.find?_eq_some_iff_append.mp found).1⟩

theorem findLockout_congr (los : UserLockouts) {name asked : String}
    (same : P.toLowercase asked = P.toLowercase name) :
    P.findLockout los asked = P.findLockout los name := by
  simp only [findLockout, usernameEqCi, same]

end Primitives

variable (primitives : Primitives)

/-! ### Blocks and lockouts -/

def calculateBlockDuration (blockCount : UInt32) (config : IpRateLimitConfig) : Duration :=
  let exponent := if blockCount = 0 then 0 else blockCount - 1
  seconds (min
    (primitives.scale config.baseBlockDurationSeconds config.blockDurationMultiplier
      exponent.toInt32)
    config.maxBlockDurationSeconds)

def escalate (existing : Option IpBlock) (now : OffsetDateTime) (config : IpRateLimitConfig) :
    Int32 :=
  match existing with
  | some block =>
    if now - block.lastAttemptAt ≤ seconds config.cooldownResetSeconds then block.blockCount + 1
    else 1
  | none => 1

def IpBlock.starting (ip : IpAddr) (blockCount : Int32)
    (now : OffsetDateTime) (config : IpRateLimitConfig) : IpBlock where
  ipAddress := primitives.ipToString ip
  blockCount := blockCount
  blockedAt := now
  expiresAt := now + calculateBlockDuration primitives blockCount.toUInt32 config
  reason := "Exceeded " ++ toString (config.maxAttempts : Nat) ++
    " failed login attempts (block #" ++ toString blockCount.toInt ++ ")"
  lastAttemptAt := now

def createOrUpdateIpBlock (blocks : IpBlocks) (ip : IpAddr)
    (now : OffsetDateTime) (config : IpRateLimitConfig) : Option IpBlockInfo × IpBlocks :=
  let existing := blocks.find? (primitives.ipToString ip)
  -- a retry from an address that is still blocked leaves the block as it is
  if existing.any fun block => now < block.expiresAt then (none, blocks)
  else
    let block := IpBlock.starting primitives ip (escalate existing now config) now config
    (some (block.info ip), blocks.upsert block)

def UserLockout.starting (username : String) (failedCount : Nat) (now : OffsetDateTime)
    (config : UserLockoutConfig) : UserLockout where
  username := username
  lockedAt := now
  expiresAt :=
    if config.autoUnlock then some (now + seconds config.lockoutDurationSeconds) else none
  reason := "Exceeded " ++ toString (config.maxAttempts : Nat) ++ " failed login attempts"
  failedAttemptCount := Int32.ofNat failedCount

def createUserLockout (lockouts : UserLockouts) (username : String)
    (failedCount : Nat) (now : OffsetDateTime) (config : UserLockoutConfig) :
    Option (Option UserLockInfo × UserLockouts) :=
  if (primitives.findLockout lockouts username).isSome then some (none, lockouts)
  else
    let lockout := UserLockout.starting username failedCount now config
    let inserted := lockouts.insert lockout
    if inserted.1 then some (some lockout.info, inserted.2) else none

variable (attempts : List FailedLoginAttempt)

def attemptsFrom (address : String) (since : OffsetDateTime) : Nat :=
  attempts.countP fun attempt => attempt.remoteIp = address && since ≤ attempt.timestamp

def attemptsFor (username : String) (since : OffsetDateTime) : Nat :=
  attempts.countP fun attempt =>
    primitives.usernameEqCi attempt.username username && since ≤ attempt.timestamp

def blockAddress (blocks : IpBlocks)
    (ip : IpAddr) (now : OffsetDateTime) (config : LoginProtectionConfig) :
    Option IpBlockInfo × IpBlocks :=
  let windowStart := now - seconds config.ipRateLimit.timeWindowSeconds
  if config.isIpExempt ip then (none, blocks)
  else if attemptsFrom attempts (primitives.ipToString ip) windowStart <
      config.ipRateLimit.maxAttempts then (none, blocks)
  else createOrUpdateIpBlock primitives blocks ip now config.ipRateLimit

def lockOut (lockouts : UserLockouts) (adminStatus : Option Bool) (username : String)
    (now : OffsetDateTime) (config : UserLockoutConfig) :
    Option (Option UserLockInfo × UserLockouts) :=
  let windowStart := now - seconds config.timeWindowSeconds
  let count := attemptsFor primitives attempts username windowStart
  if count < config.maxAttempts then some (none, lockouts)
  else
    match adminStatus with
    | none => some (none, lockouts)
    | some isAdmin =>
      if isAdmin && config.exemptAdmins then some (none, lockouts)
      else createUserLockout primitives lockouts username count now config

def FailedAttemptInfo.row (attempt : FailedAttemptInfo)
    (now : OffsetDateTime) : FailedLoginAttempt where
  username := attempt.username
  remoteIp := primitives.storedAs attempt.remoteIp
  protocol := attempt.protocol.name
  credentialType := attempt.credentialType
  timestamp := now

variable (P : Primitives) (atts : List FailedLoginAttempt) (los : UserLockouts)

open UserLockout

theorem createOrUpdateIpBlock_cases (blocks : IpBlocks) (ip : IpAddr) (now : OffsetDateTime)
    (c : IpRateLimitConfig) :
    createOrUpdateIpBlock P blocks ip now c = (none, blocks) ∨
      (∀ block, blocks.find? (P.ipToString ip) = some block → block.expiresAt ≤ now) ∧
        ∃ block, block = IpBlock.starting P ip
            (escalate (blocks.find? (P.ipToString ip)) now c) now c ∧
          createOrUpdateIpBlock P blocks ip now c =
            (some (block.info ip), blocks.upsert block) := by
  grind [createOrUpdateIpBlock]

theorem blockAddress_cases (blocks : IpBlocks) (ip : IpAddr) (now : OffsetDateTime)
    (c : LoginProtectionConfig) :
    blockAddress P atts blocks ip now c = (none, blocks) ∨
      (∀ block, blocks.find? (P.ipToString ip) = some block → block.expiresAt ≤ now) ∧
        ∃ block, block = IpBlock.starting P ip
            (escalate (blocks.find? (P.ipToString ip)) now c.ipRateLimit) now c.ipRateLimit ∧
          blockAddress P atts blocks ip now c = (some (block.info ip), blocks.upsert block) := by
  unfold blockAddress
  dsimp only
  split
  · exact .inl rfl
  · grind [createOrUpdateIpBlock_cases]

theorem createUserLockout_cases (name : String) (failedCount : Nat) (now : OffsetDateTime)
    (c : UserLockoutConfig) :
    (∃ lo, P.findLockout los name = some lo ∧ createUserLockout P los name failedCount now c =
          some (none, los)) ∨ createUserLockout P los name failedCount now c = none ∨
      P.findLockout los name = none ∧ ∃ lo, lo = starting name failedCount now c ∧
        createUserLockout P los name failedCount now c =
          some (some lo.info, (los.insert lo).2) := by
  unfold createUserLockout
  cases found : P.findLockout los name with
  | some lo => exact .inl ⟨lo, rfl, rfl⟩
  | none => grind

theorem lockOut_cases (adminStatus : Option Bool) (name : String) (now : OffsetDateTime)
    (c : UserLockoutConfig) :
    lockOut P atts los adminStatus name now c = none ∨ lockOut P atts los adminStatus name now c =
        some (none, los) ∨ P.findLockout los name = none ∧ ∃ lo failedCount,
        lo = starting name failedCount now c ∧
        lockOut P atts los adminStatus name now c = some (some lo.info, (los.insert lo).2) := by
  unfold lockOut
  dsimp only
  split
  · exact .inr (.inl rfl)
  · cases adminStatus with
    | none => exact .inr (.inl rfl)
    | some isAdmin =>
      dsimp only
      split
      · exact .inr (.inl rfl)
      · rcases createUserLockout_cases P los name
            (attemptsFor P atts name (now - seconds c.timeWindowSeconds)) now
            c with ⟨-, -, left⟩ | failed | ⟨noRow, lo, isNew, created⟩
        · exact .inr (.inl left)
        · exact .inl failed
        · exact .inr (.inr ⟨noRow, lo, _, isNew, created⟩)

theorem UserLockout.active_starting (name : String) (failedCount : Nat) (now : OffsetDateTime)
    (c : UserLockoutConfig) : (starting name failedCount now c).info.active now = true := by
  have lasts : 0 < seconds c.lockoutDurationSeconds :=
    Nat.mul_pos c.lockoutDurationSeconds.pos (by decide)
  unfold UserLockInfo.active starting info
  cases c.autoUnlock with
  | false => rfl
  | true => simpa using lasts

open Concurrent

/-! ### Caches and statements -/

structure Cache where
  blockedIps : IpAddr → Option IpBlockInfo
  lockedUsers : String → Option UserLockInfo

namespace Cache

def new : Cache where
  blockedIps := fun _ => none
  lockedUsers := fun _ => none

def isIpBlocked (cache : Cache) (ip : IpAddr) (now : OffsetDateTime) : Option IpBlockInfo :=
  (cache.blockedIps ip).filter (IpBlockInfo.active now)

def isUserLocked (primitives : Primitives) (cache : Cache) (username : String)
    (now : OffsetDateTime) : Option UserLockInfo :=
  (cache.lockedUsers (primitives.toLowercase username)).filter (UserLockInfo.active now)

def blockIp (cache : Cache) (ip : IpAddr) (info : IpBlockInfo) : Cache :=
  { cache with blockedIps := Function.update cache.blockedIps ip (some info) }

def lockUser (primitives : Primitives) (cache : Cache) (username : String) (info : UserLockInfo) :
    Cache :=
  { cache with
    lockedUsers := Function.update cache.lockedUsers (primitives.toLowercase username) (some info) }

def unblockIp (cache : Cache) (ip : IpAddr) : Cache :=
  { cache with blockedIps := Function.update cache.blockedIps ip none }

def unlockUser (primitives : Primitives) (cache : Cache) (username : String) : Cache :=
  { cache with
    lockedUsers := Function.update cache.lockedUsers (primitives.toLowercase username) none }

def clearExpired (cache : Cache) (now : OffsetDateTime) : Cache where
  blockedIps := fun ip => (cache.blockedIps ip).filter (IpBlockInfo.active now)
  lockedUsers := fun username => (cache.lockedUsers username).filter (UserLockInfo.active now)

end Cache

structure World where
  config : LoginProtectionConfig
  users : Sql.Table AuthStateUserInfo AuthStateUserInfo.id
  adminRoleAssignments : List Uuid
  failedLoginAttempts : List FailedLoginAttempt
  ipBlocks : IpBlocks
  userLockouts : UserLockouts
  caches : NodeId → Cache
  clock : OffsetDateTime
  reachable : Bool

namespace World

def whenReachable {Result : Type} (world : World) (result : Result) : Option Result :=
  if world.reachable then some result else none

def write {Result : Type} (world : World) (result : Result) (written : World) :
    Option Result × World :=
  if world.reachable then (some result, written) else (none, world)

variable (world : World)

def setCache (node : NodeId) (change : Cache → Cache) : World :=
  { world with caches := Function.update world.caches node (change (world.caches node)) }

def findUser (primitives : Primitives) (world : World) (username : String) :
    Option AuthStateUserInfo :=
  world.users.rows.find? fun user => primitives.usernameEqCi user.username username

def hasAdminRole (userId : Uuid) : Bool :=
  world.adminRoleAssignments.contains userId

def userAdminStatus (primitives : Primitives) (world : World) (username : String) : Option Bool :=
  (world.findUser primitives username).map fun user => world.hasAdminRole user.id

def recordAttempt (primitives : Primitives) (world : World) (attempt : FailedAttemptInfo)
    (config : LoginProtectionConfig) :
    Option (Option IpBlockInfo × Option UserLockInfo) × World :=
  let attempts := attempt.row primitives world.clock :: world.failedLoginAttempts
  let block := blockAddress primitives attempts world.ipBlocks attempt.remoteIp.toCanonical
    world.clock config
  match lockOut primitives attempts world.userLockouts
      (world.userAdminStatus primitives attempt.username) attempt.username world.clock
      config.userLockout with
  | none => (none, world)
  | some lock =>
    world.write (block.1, lock.1)
      { world with
        failedLoginAttempts := attempts
        ipBlocks := block.2
        userLockouts := lock.2 }

def deleteAttempts (filter : FailedLoginAttempt → Bool) : World :=
  { world with
    failedLoginAttempts := world.failedLoginAttempts.filter fun attempt => !filter attempt }

def deleteIpBlocks (filter : IpBlock → Bool) : World :=
  { world with ipBlocks := world.ipBlocks.delete filter }

def deleteUserLockouts (filter : UserLockout → Bool) : World :=
  { world with userLockouts := world.userLockouts.delete filter }

end World

inductive CacheAccess
  | isIpBlocked (ip : IpAddr)
  | isUserLocked (username : String)
  | blockIp (ip : IpAddr) (info : IpBlockInfo)
  | lockUser (username : String) (info : UserLockInfo)
  | unblockIp (ip : IpAddr)
  | unlockUser (username : String)
  | clearExpired
  deriving DecidableEq

@[reducible] def CacheAccess.Outcome : CacheAccess → Type
  | isIpBlocked _ => Option IpBlockInfo
  | isUserLocked _ => Option UserLockInfo
  | _ => Unit

def CacheAccess.execute (now : OffsetDateTime) :
    (access : CacheAccess) → Cache → access.Outcome × Cache
  | isIpBlocked ip, cache => (cache.isIpBlocked ip now, cache)
  | isUserLocked username, cache => (cache.isUserLocked primitives username now, cache)
  | blockIp ip info, cache => ((), cache.blockIp ip info)
  | lockUser username info, cache => ((), cache.lockUser primitives username info)
  | unblockIp ip, cache => ((), cache.unblockIp ip)
  | unlockUser username, cache => ((), cache.unlockUser primitives username)
  | clearExpired, cache => ((), cache.clearExpired now)

inductive Question
  | readConfig
  | now
  | findIpBlock (ip : IpAddr) (time : OffsetDateTime)
  | findUserLockout (username : String)
  | findUser (username : String)
  | hasAdminRole (userId : Uuid)
  deriving DecidableEq

@[reducible] def Question.Answer : Question → Type
  | readConfig => Option LoginProtectionConfig
  | now => OffsetDateTime
  | findIpBlock _ _ => Option (Option IpBlock)
  | findUserLockout _ => Option (Option UserLockout)
  | findUser _ => Option (Option AuthStateUserInfo)
  | hasAdminRole _ => Option Bool

def Question.answer (world : World) : (question : Question) → question.Answer
  | readConfig => world.whenReachable world.config
  | now => world.clock
  | findIpBlock ip time =>
    world.whenReachable
      ((world.ipBlocks.find? (primitives.ipToString ip)).filter fun block =>
        time < block.expiresAt)
  | findUserLockout username =>
    world.whenReachable (primitives.findLockout world.userLockouts username)
  | findUser username => world.whenReachable (world.findUser primitives username)
  | hasAdminRole userId => world.whenReachable (world.hasAdminRole userId)

inductive Statement
  | ask (question : Question)
  | cache (node : NodeId) (access : CacheAccess)
  | recordAttempt (attempt : FailedAttemptInfo) (config : LoginProtectionConfig)
  | deleteAttempts (ip : IpAddr) (username : String)
  | deleteIpBlocks (ip : IpAddr)
  | deleteAttemptsFrom (ip : IpAddr)
  | deleteUserLockouts (username : String)
  | deleteAttemptsFor (username : String)
  | deleteExpiredIpBlocks (now : OffsetDateTime)
  | deleteExpiredUserLockouts (now : OffsetDateTime)
  | deleteAttemptsBefore (cutoff : OffsetDateTime)
  | setConfig (config : LoginProtectionConfig)
  | elapse (period : Duration)
  | setReachable (reachable : Bool)
  deriving DecidableEq

@[reducible] def Statement.Outcome : Statement → Type
  | ask question => question.Answer
  | cache _ access => access.Outcome
  | recordAttempt _ _ => Option (Option IpBlockInfo × Option UserLockInfo)
  | deleteAttempts _ _ | deleteIpBlocks _ | deleteAttemptsFrom _ => Option Unit
  | deleteUserLockouts _ | deleteAttemptsFor _ => Option Unit
  | deleteExpiredIpBlocks _ | deleteExpiredUserLockouts _ | deleteAttemptsBefore _ => Option Nat
  | setConfig _ | elapse _ | setReachable _ => Unit

def UserLockout.expired (now : OffsetDateTime) (lockout : UserLockout) : Bool :=
  lockout.expiresAt.any (· < now)

def execute : (statement : Statement) → World → statement.Outcome × World
  | .ask question, world => (question.answer primitives world, world)
  | .cache node access, world =>
    ((access.execute primitives world.clock (world.caches node)).1,
      world.setCache node fun cache => (access.execute primitives world.clock cache).2)
  | .recordAttempt attempt config, world => world.recordAttempt primitives attempt config
  | .deleteAttempts ip username, world =>
    world.write () (world.deleteAttempts fun attempt =>
      attempt.remoteIp = primitives.ipToString ip &&
        primitives.usernameEqCi attempt.username username)
  | .deleteIpBlocks ip, world =>
    world.write () (world.deleteIpBlocks fun block => block.ipAddress ∈ primitives.forms ip)
  | .deleteAttemptsFrom ip, world =>
    world.write () (world.deleteAttempts fun attempt => attempt.remoteIp ∈ primitives.forms ip)
  | .deleteUserLockouts username, world =>
    world.write () (world.deleteUserLockouts fun lockout =>
      primitives.usernameEqCi lockout.username username)
  | .deleteAttemptsFor username, world =>
    world.write () (world.deleteAttempts fun attempt =>
      primitives.usernameEqCi attempt.username username)
  | .deleteExpiredIpBlocks now, world =>
    world.write (world.ipBlocks.matching fun block => block.expiresAt < now)
      (world.deleteIpBlocks fun block => block.expiresAt < now)
  | .deleteExpiredUserLockouts now, world =>
    world.write (world.userLockouts.matching (UserLockout.expired now))
      (world.deleteUserLockouts (UserLockout.expired now))
  | .deleteAttemptsBefore cutoff, world =>
    world.write (world.failedLoginAttempts.countP fun attempt => attempt.timestamp < cutoff)
      (world.deleteAttempts fun attempt => attempt.timestamp < cutoff)
  | .setConfig config, world => ((), { world with config := config })
  | .elapse period, world => ((), { world with clock := world.clock + period })
  | .setReachable reachable, world => ((), { world with reachable := reachable })

variable (P : Primitives) (w : World)

theorem World.write_cases (res : Result) (written : World) :
    w.write res written = (none, w) ∨ w.write res written = (some res, written) := by
  unfold World.write
  cases w.reachable with
  | false => exact .inl rfl
  | true => exact .inr rfl

theorem World.recordAttempt_cases (att : FailedAttemptInfo) (c : LoginProtectionConfig) :
    w.recordAttempt P att c = (none, w) ∨ ∃ atts block lock,
        atts = att.row P w.clock :: w.failedLoginAttempts ∧
        block = blockAddress P atts w.ipBlocks att.remoteIp.toCanonical w.clock c ∧
        lockOut P atts w.userLockouts (w.userAdminStatus P att.username) att.username w.clock
          c.userLockout = some lock ∧ w.recordAttempt P att c =
          (some (block.1, lock.1), { w with
              failedLoginAttempts := atts
              ipBlocks := block.2
              userLockouts := lock.2 }) := by
  unfold World.recordAttempt
  dsimp only
  split
  · exact .inl rfl
  · next lock locks =>
    rcases w.write_cases ((blockAddress P (att.row P w.clock :: w.failedLoginAttempts)
          w.ipBlocks att.remoteIp.toCanonical w.clock c).1, lock.1) _ with
      failed | stored
    · exact .inl failed
    · exact .inr ⟨_, _, lock, rfl, rfl, locks, stored⟩

inductive World.Step (primitives : Primitives) : Statement → World → World → Prop
  | same (statement : Statement) (world : World) : Step primitives statement world world
  | cached (node : NodeId) (access : CacheAccess) (world : World) :
      Step primitives (.cache node access) world
        (world.setCache node fun cache => (access.execute primitives world.clock cache).2)
  | recorded (attempt : FailedAttemptInfo) (config : LoginProtectionConfig) (world : World)
      (attempts : List FailedLoginAttempt) (block : Option IpBlockInfo × IpBlocks)
      (lock : Option UserLockInfo × UserLockouts)
      (stores : attempts = attempt.row primitives world.clock :: world.failedLoginAttempts)
      (blocks : block = blockAddress primitives attempts world.ipBlocks
        attempt.remoteIp.toCanonical world.clock config)
      (locks : lockOut primitives attempts world.userLockouts
        (world.userAdminStatus primitives attempt.username) attempt.username world.clock
        config.userLockout = some lock)
      (reports : (world.recordAttempt primitives attempt config).1 = some (block.1, lock.1)) :
      Step primitives (.recordAttempt attempt config) world
        { world with
          failedLoginAttempts := attempts
          ipBlocks := block.2
          userLockouts := lock.2 }
  | attemptsDeleted (statement : Statement) (world : World)
      (filter : FailedLoginAttempt → Bool) :
      Step primitives statement world (world.deleteAttempts filter)
  | blocksDeleted (ip : IpAddr) (world : World) :
      Step primitives (.deleteIpBlocks ip) world
        (world.deleteIpBlocks fun block => block.ipAddress ∈ primitives.forms ip)
  | blocksExpired (now : OffsetDateTime) (world : World) :
      Step primitives (.deleteExpiredIpBlocks now) world
        (world.deleteIpBlocks fun block => block.expiresAt < now)
  | lockoutsDeleted (statement : Statement) (world : World) (filter : UserLockout → Bool) :
      Step primitives statement world (world.deleteUserLockouts filter)
  | configSet (config : LoginProtectionConfig) (world : World) :
      Step primitives (.setConfig config) world { world with config := config }
  | elapsed (period : Duration) (world : World) :
      Step primitives (.elapse period) world { world with clock := world.clock + period }
  | reachableSet (reachable : Bool) (world : World) :
      Step primitives (.setReachable reachable) world { world with reachable := reachable }

theorem World.Step.write {P : Primitives} {stmt : Statement} {w written : World} (res : Result)
    (step : Step P stmt w written) :
    Step P stmt w (w.write res written).2 := by
  rcases w.write_cases res written with failed | done
  · rw [failed]
    exact .same stmt w
  · rw [done]
    exact step

theorem step_execute (stmt : Statement) (w : World) : World.Step P stmt w (execute P stmt w).2 := by
  cases stmt with
  | ask q => exact .same _ _
  | cache node access => exact .cached node access w
  | recordAttempt att c =>
    show World.Step P _ w (w.recordAttempt P att c).2
    rcases w.recordAttempt_cases P att c with
      failed | ⟨atts, block, lock, stores, blocks, locks, stored⟩
    · rw [failed]
      exact .same _ _
    · have reports := congrArg Prod.fst stored
      rw [stored]
      exact .recorded att c w atts block lock stores blocks locks reports
  | deleteAttempts ip name | deleteAttemptsFrom ip | deleteAttemptsFor name
  | deleteAttemptsBefore cut => exact .write _ (.attemptsDeleted _ w _)
  | deleteIpBlocks ip => exact .write _ (.blocksDeleted ip w)
  | deleteUserLockouts name | deleteExpiredUserLockouts now =>
    exact .write _ (.lockoutsDeleted _ w _)
  | deleteExpiredIpBlocks now => exact .write _ (.blocksExpired now w)
  | setConfig c => exact .configSet c w
  | elapse period => exact .elapsed period w
  | setReachable up => exact .reachableSet up w

theorem execute_isUserLocked (node : NodeId) (name : String) :
    execute P (.cache node (.isUserLocked name)) w =
      ((w.caches node).isUserLocked P name w.clock, w) := by
  refine Prod.ext rfl ?_
  show w.setCache node (fun cache => cache) = w
  rw [World.setCache, Function.update_eq_self]

theorem execute_isIpBlocked (node : NodeId) (ip : IpAddr) :
    execute P (.cache node (.isIpBlocked ip)) w = ((w.caches node).isIpBlocked ip w.clock, w) := by
  refine Prod.ext rfl ?_
  show w.setCache node (fun cache => cache) = w
  rw [World.setCache, Function.update_eq_self]

/-! ### Programs -/

abbrev Action (Result : Type) := Program Statement Statement.Outcome Result

abbrev act (statement : Statement) : Action statement.Outcome :=
  Program.perform statement Program.done

abbrev inquire (question : Question) : Action question.Answer := act (.ask question)

abbrev onCache (node : NodeId) (access : CacheAccess) : Action access.Outcome :=
  act (.cache node access)

def userAdminStatus (username : String) : Action (Option (Option Bool)) := do
  match ← inquire (.findUser username) with
  | none => pure none
  | some none => pure (some none)
  | some (some user) => do
    match ← inquire (.hasAdminRole user.id) with
    | none => pure none
    | some isAdmin => pure (some (some isAdmin))

def checkIpBlocked (node : NodeId) (ip : IpAddr) : Action (Option (Option IpBlockInfo)) := do
  let ip := ip.toCanonical
  match ← inquire .readConfig with
  | none => pure none
  | some config =>
    if !config.enabled || config.isIpExempt ip then pure (some none)
    else
      match ← onCache node (.isIpBlocked ip) with
      | some info => pure (some (some info))
      | none => do
        let now ← inquire .now
        match ← inquire (.findIpBlock ip now) with
        | none => pure none
        | some none => pure (some none)
        | some (some block) => do
          onCache node (.blockIp ip (block.info ip))
          pure (some (some (block.info ip)))

def unlessExempt (config : LoginProtectionConfig) (username : String) (info : UserLockInfo) :
    Action (Option (Option UserLockInfo)) :=
  if config.userLockout.exemptAdmins then do
    match ← userAdminStatus username with
    | none => pure none
    | some (some true) => pure (some none)
    | some (some false) | some none => pure (some (some info))
  else pure (some (some info))

def checkUserLocked (node : NodeId) (username : String) :
    Action (Option (Option UserLockInfo)) := do
  match ← inquire .readConfig with
  | none => pure none
  | some config =>
    if !config.enabled then pure (some none)
    else
      match ← onCache node (.isUserLocked username) with
      | some info => unlessExempt config username info
      | none => do
        let now ← inquire .now
        match ← inquire (.findUserLockout username) with
        | none => pure none
        | some found =>
          match found.filter fun lockout => lockout.info.active now with
          | none => pure (some none)
          | some lockout => do
            onCache node (.lockUser username lockout.info)
            unlessExempt config username lockout.info

def reflect (node : NodeId) (attempt : FailedAttemptInfo) (newBlock : Option IpBlockInfo)
    (newLock : Option UserLockInfo) : Action Unit := do
  match newBlock with
  | some info => onCache node (.blockIp attempt.remoteIp.toCanonical info)
  | none => pure ()
  match newLock with
  | some info => onCache node (.lockUser attempt.username info)
  | none => pure ()

def recordFailedAttempt (node : NodeId) (attempt : FailedAttemptInfo) : Action (Option Unit) := do
  match ← inquire .readConfig with
  | none => pure none
  | some config =>
    if !config.enabled then pure (some ())
    else
      match ← act (.recordAttempt attempt config) with
      | none => pure none
      | some (newBlock, newLock) => do
        reflect node attempt newBlock newLock
        pure (some ())

def clearFailedAttempts (ip : IpAddr) (username : String) : Action (Option Unit) := do
  match ← inquire .readConfig with
  | none => pure none
  | some config =>
    if !config.enabled then pure (some ())
    else act (.deleteAttempts ip.toCanonical username)

def unblockIp (node : NodeId) (ip : IpAddr) : Action (Option Unit) := do
  match ← act (.deleteIpBlocks ip) with
  | none => pure none
  | some () =>
    match ← act (.deleteAttemptsFrom ip) with
    | none => pure none
    | some () => do
      onCache node (.unblockIp ip.toCanonical)
      pure (some ())

def unlockUser (node : NodeId) (username : String) : Action (Option Unit) := do
  match ← act (.deleteUserLockouts username) with
  | none => pure none
  | some () =>
    match ← act (.deleteAttemptsFor username) with
    | none => pure none
    | some () => do
      onCache node (.unlockUser username)
      pure (some ())

structure CleanupStats where
  expiredBlocksRemoved : Nat
  expiredLockoutsRemoved : Nat
  oldAttemptsRemoved : Nat
  deriving DecidableEq, Repr

def cleanupExpired (node : NodeId) : Action (Option CleanupStats) := do
  match ← inquire .readConfig with
  | none => pure none
  | some config =>
    if !config.enabled then pure (some ⟨0, 0, 0⟩)
    else do
      let now ← inquire .now
      match ← act (.deleteExpiredIpBlocks now) with
      | none => pure none
      | some expiredBlocks =>
        match ← act (.deleteExpiredUserLockouts now) with
        | none => pure none
        | some expiredLockouts =>
          match ← act (.deleteAttemptsBefore (now - seconds config.retentionSeconds)) with
          | none => pure none
          | some oldAttempts => do
            onCache node .clearExpired
            pure (some ⟨expiredBlocks, expiredLockouts, oldAttempts⟩)

inductive Task
  | checkIpBlocked (node : NodeId) (ip : IpAddr)
  | checkUserLocked (node : NodeId) (username : String)
  | recordFailedAttempt (node : NodeId) (attempt : FailedAttemptInfo)
  | clearFailedAttempts (ip : IpAddr) (username : String)
  | unblockIp (node : NodeId) (ip : IpAddr)
  | unlockUser (node : NodeId) (username : String)
  | cleanupExpired (node : NodeId)
  | setConfig (config : LoginProtectionConfig)
  | elapse (period : Duration)
  | setReachable (reachable : Bool)
  deriving DecidableEq

inductive Answer
  | ipBlock (result : Option (Option IpBlockInfo))
  | userLock (result : Option (Option UserLockInfo))
  | completion (result : Option Unit)
  | stats (result : Option CleanupStats)
  deriving DecidableEq

def answering {Result : Type} (program : Action Result) (answer : Result → Answer) :
    Action Answer := do
  pure (answer (← program))

def Task.program : Task → Action Answer
  | .checkIpBlocked node ip => answering (LoginProtection.checkIpBlocked node ip) .ipBlock
  | .checkUserLocked node username =>
    answering (LoginProtection.checkUserLocked node username) .userLock
  | .recordFailedAttempt node attempt =>
    answering (LoginProtection.recordFailedAttempt node attempt) .completion
  | .clearFailedAttempts ip username =>
    answering (LoginProtection.clearFailedAttempts ip username) .completion
  | .unblockIp node ip => answering (LoginProtection.unblockIp node ip) .completion
  | .unlockUser node username => answering (LoginProtection.unlockUser node username) .completion
  | .cleanupExpired node => answering (LoginProtection.cleanupExpired node) .stats
  | .setConfig config => answering (act (.setConfig config)) fun _ => .completion (some ())
  | .elapse period => answering (act (.elapse period)) fun _ => .completion (some ())
  | .setReachable reachable =>
    answering (act (.setReachable reachable)) fun _ => .completion (some ())

def system : System Task Statement Statement.Outcome World Answer where
  program := Task.program
  execute := execute primitives

abbrev State := Config Task Statement Statement.Outcome World Answer

abbrev reach (world : World) (moves : List (Move Task)) : State :=
  (Config.initial world).run (system primitives) moves

def Task.node : Task → Option NodeId
  | .checkIpBlocked node _ | .checkUserLocked node _ | .recordFailedAttempt node _ => some node
  | .unblockIp node _ | .unlockUser node _ | .cleanupExpired node => some node
  | .clearFailedAttempts _ _ | .setConfig _ | .elapse _ | .setReachable _ => none

def Task.mayAccess : Task → CacheAccess → Bool
  | .checkIpBlocked _ _, .isIpBlocked _ | .checkIpBlocked _ _, .blockIp _ _ => true
  | .checkUserLocked _ _, .isUserLocked _ | .checkUserLocked _ _, .lockUser _ _ => true
  | .recordFailedAttempt _ _, .blockIp _ _ | .recordFailedAttempt _ _, .lockUser _ _ => true
  | .unblockIp _ _, .unblockIp _ | .unlockUser _ _, .unlockUser _ => true
  | .cleanupExpired _, .clearExpired => true
  | _, _ => false

def Task.mayPerform (task : Task) : Statement → Prop
  | .ask _ => True
  | .cache node access => task.node = some node ∧ task.mayAccess access = true
  | .recordAttempt attempt _ => ∃ node, task = .recordFailedAttempt node attempt
  | .deleteAttempts _ _ => ∃ ip username, task = .clearFailedAttempts ip username
  | .deleteIpBlocks ip | .deleteAttemptsFrom ip => ∃ node, task = .unblockIp node ip
  | .deleteUserLockouts username | .deleteAttemptsFor username =>
    ∃ node, task = .unlockUser node username
  | .deleteExpiredIpBlocks _ | .deleteExpiredUserLockouts _ | .deleteAttemptsBefore _ =>
    ∃ node, task = .cleanupExpired node
  | .setConfig config => task = .setConfig config
  | .elapse period => task = .elapse period
  | .setReachable reachable => task = .setReachable reachable

/-! ### What the programs perform -/

section

variable {ok : Statement → Prop} (asks : ∀ question, ok (.ask question)) (node : NodeId)

include asks

theorem readConfig_performs
    {next : Option LoginProtectionConfig → Action Result} (fails : (next none).Performs ok)
    (goesOn : ∀ c, (next (some c)).Performs ok) : (inquire .readConfig >>= next).Performs ok := by
  refine ⟨asks _, fun c => ?_⟩
  cases c with
  | none => exact fails
  | some c => exact goesOn c

theorem unlessExempt_performs (c : LoginProtectionConfig) (name : String)
    (info : UserLockInfo) : (unlessExempt c name info).Performs ok := by
  unfold unlessExempt
  split
  · have looksUp : (userAdminStatus name).Performs ok := by
      refine ⟨asks _, fun found => ?_⟩
      rcases found with _ | _ | user
      · trivial
      · trivial
      · refine ⟨asks _, fun isAdmin => ?_⟩
        cases isAdmin with
        | none | some isAdmin => trivial
    refine looksUp.bind fun status => ?_
    rcases status with _ | _ | _ | _
    · trivial
    · trivial
    · trivial
    · trivial
  · trivial

theorem checkIpBlocked_performs (ip : IpAddr) (reads : ∀ ip, ok (.cache node (.isIpBlocked ip)))
    (fills : ∀ ip info, ok (.cache node (.blockIp ip info))) :
    (checkIpBlocked node ip).Performs ok := by
  refine readConfig_performs asks trivial fun c => ?_
  dsimp only
  split
  · trivial
  · refine ⟨reads _, fun cached => ?_⟩
    cases cached with
    | some info => trivial
    | none =>
      refine ⟨asks _, fun now => ⟨asks _, fun found => ?_⟩⟩
      rcases found with _ | _ | block
      · trivial
      · trivial
      · exact ⟨fills _ _, fun _ => trivial⟩

theorem checkUserLocked_performs (name : String)
    (reads : ∀ name, ok (.cache node (.isUserLocked name)))
    (fills : ∀ name info, ok (.cache node (.lockUser name info))) :
    (checkUserLocked node name).Performs ok := by
  refine readConfig_performs asks trivial fun c => ?_
  dsimp only
  split
  · trivial
  · refine ⟨reads _, fun cached => ?_⟩
    cases cached with
    | some info => exact unlessExempt_performs asks c name info
    | none =>
      refine ⟨asks _, fun now => ⟨asks _, fun found => ?_⟩⟩
      cases found with
      | none => trivial
      | some found =>
        dsimp only [Program.bind]
        split
        · trivial
        · exact ⟨fills _ _, fun _ => unlessExempt_performs asks c name _⟩

omit asks

variable (att : FailedAttemptInfo)

theorem reflect_performs (newBlock : Option IpBlockInfo) (newLock : Option UserLockInfo)
    (blocks : ∀ ip info, ok (.cache node (.blockIp ip info)))
    (locks : ∀ name info, ok (.cache node (.lockUser name info))) :
    (reflect node att newBlock newLock).Performs ok := by
  have reflectsLock : (reflect node att none newLock).Performs ok := by
    cases newLock with
    | none => trivial
    | some info => exact ⟨locks _ _, fun _ => trivial⟩
  cases newBlock with
  | none => exact reflectsLock
  | some info => exact ⟨blocks _ _, fun _ => reflectsLock⟩

include asks

theorem recordFailedAttempt_performs (records : ∀ c, ok (.recordAttempt att c))
    (blocks : ∀ ip info, ok (.cache node (.blockIp ip info)))
    (locks : ∀ name info, ok (.cache node (.lockUser name info))) :
    (recordFailedAttempt node att).Performs ok := by
  refine readConfig_performs asks trivial fun c => ?_
  dsimp only
  split
  · trivial
  · refine ⟨records c, fun recorded => ?_⟩
    cases recorded with
    | none => trivial
    | some recorded =>
      exact (reflect_performs node att recorded.1 recorded.2 blocks locks).bind fun _ => trivial

theorem cleanupExpired_performs (removesBlocks : ∀ now, ok (.deleteExpiredIpBlocks now))
    (removesLockouts : ∀ now, ok (.deleteExpiredUserLockouts now))
    (removesAttempts : ∀ cut, ok (.deleteAttemptsBefore cut))
    (clears : ok (.cache node .clearExpired)) : (cleanupExpired node).Performs ok := by
  refine readConfig_performs asks trivial fun c => ?_
  dsimp only
  split
  · trivial
  · refine ⟨asks _, fun now => ⟨removesBlocks _, fun removed => ?_⟩⟩
    cases removed with
    | none => trivial
    | some expiredBlocks =>
      refine ⟨removesLockouts _, fun removed => ?_⟩
      cases removed with
      | none => trivial
      | some expiredLockouts =>
        refine ⟨removesAttempts _, fun removed => ?_⟩
        cases removed with
        | none => trivial
        | some oldAttempts => exact ⟨clears, fun _ => trivial⟩

end

theorem Task.program_performs (t : Task) : t.program.Performs t.mayPerform := by
  have answers : ∀ {Result : Type} {prog : Action Result} {ans : Result → Answer},
      prog.Performs t.mayPerform → (answering prog ans).Performs t.mayPerform :=
    fun perf => perf.bind fun _ => trivial
  have asks : ∀ q, t.mayPerform (.ask q) := fun _ => trivial
  cases t with
  | checkIpBlocked node ip =>
    exact answers (checkIpBlocked_performs asks node ip (fun _ => ⟨rfl, rfl⟩) fun _ _ => ⟨rfl, rfl⟩)
  | checkUserLocked node name =>
    exact answers (checkUserLocked_performs asks node name (fun _ => ⟨rfl, rfl⟩)
      fun _ _ => ⟨rfl, rfl⟩)
  | recordFailedAttempt node att =>
    exact answers (recordFailedAttempt_performs asks node att (fun _ => ⟨node, rfl⟩)
      (fun _ _ => ⟨rfl, rfl⟩) fun _ _ => ⟨rfl, rfl⟩)
  | clearFailedAttempts ip name =>
    refine answers (readConfig_performs asks trivial fun c => ?_)
    dsimp only
    split
    · trivial
    · exact ⟨⟨ip, name, rfl⟩, fun _ => trivial⟩
  | unblockIp node ip | unlockUser node name =>
    refine answers ⟨⟨node, rfl⟩, fun deleted => ?_⟩
    cases deleted with
    | none => trivial
    | some done =>
      refine ⟨⟨node, rfl⟩, fun deleted => ?_⟩
      cases deleted with
      | none => trivial
      | some done => exact ⟨⟨rfl, rfl⟩, fun _ => trivial⟩
  | cleanupExpired node =>
    exact answers (cleanupExpired_performs asks node (fun _ => ⟨node, rfl⟩) (fun _ => ⟨node, rfl⟩)
      (fun _ => ⟨node, rfl⟩) ⟨rfl, rfl⟩)
  | setConfig c | elapse period | setReachable up => exact answers ⟨rfl, fun _ => trivial⟩

end LoginProtection

end Warpgate
