/-
This file is about lockouts, and the spellings of the names they are kept under.
-/

import Mathlib.Data.List.Find
import Warpgate.LoginProtection.System

namespace Warpgate.LoginProtection

open Auth (AuthStateUserInfo IpAddr)
open Concurrent Option Bool World Question Primitives

variable {name : String} {node : NodeId} {att : FailedAttemptInfo}
  {atts : List FailedLoginAttempt} {los : UserLockouts} {now : OffsetDateTime}
  {c : UserLockoutConfig} {lock : Option UserLockInfo × UserLockouts}

section

variable (primitives : Primitives) (world : World)

/-! ### Calls on their own -/

def World.call {Result : Type} (program : Action Result) : Result × World :=
  program.eval (execute primitives) world

def World.after (calls : List Task) : World :=
  calls.foldl (fun reached task => (reached.call primitives task.program).2) world

section Calls

variable {P : Primitives} {w : World} {First Result : Type}

theorem World.call_inquire (q : Question) (next : q.Answer → Action Result) :
    w.call P (inquire q >>= next) = w.call P (next (q.answer P w)) := rfl

theorem World.call_act (stmt : Statement) (next : stmt.Outcome → Action Result) :
    w.call P (act stmt >>= next) = (execute P stmt w).2.call P (next (execute P stmt w).1) := rfl

theorem World.call_isUserLocked (node : NodeId) (name : String)
    (next : Option UserLockInfo → Action Result) :
    w.call P (onCache node (.isUserLocked name) >>= next) = w.call P
        (next ((w.caches node).isUserLocked P name w.clock)) := by
  rw [call_act, execute_isUserLocked]

theorem World.call_bind (prog : Action First) (next : First → Action Result) :
    w.call P (prog >>= next) = (w.call P prog).2.call P (next (w.call P prog).1) :=
  Program.eval_bind prog next w

theorem World.answer_readConfig (up : w.reachable = true) :
    readConfig.answer P w = some w.config := by
  simp only [answer, whenReachable, up, if_true]

theorem World.answer_readConfig_failed (failed : w.reachable = false) :
    readConfig.answer P w = none := by
  simp only [answer, whenReachable, failed, false_eq_true, if_false]

end Calls

variable (username : String)

/-! ### A lockout takes effect -/

def World.lockable : Bool :=
  (world.userAdminStatus primitives username).any fun isAdmin =>
    !(isAdmin && world.config.userLockout.exemptAdmins)

def World.recentAttempts : Nat :=
  attemptsFor primitives world.failedLoginAttempts username
    (world.clock - seconds world.config.userLockout.timeWindowSeconds)

def World.NoExpiredLockout : Prop :=
  ∀ lockout ∈ world.userLockouts.rows, primitives.usernameEqCi lockout.username username = true →
    lockout.info.active world.clock = true

variable {w : World} {P : Primitives}

def World.exempt : Bool :=
  world.config.userLockout.exemptAdmins &&
    decide (world.userAdminStatus primitives username = some true)

theorem World.exempt_of_lockable (lockable : w.lockable P name = true) :
    w.exempt P name = false := by
  obtain ⟨isAdmin, status, notExempt⟩ := (any_eq_true _ _).mp lockable
  cases isAdmin with
  | false => simp [exempt, status]
  | true => simpa [exempt, status] using notExempt

theorem unlessExempt_reports (up : w.reachable = true)
    (notExempt : w.exempt P name = false) (info : UserLockInfo) :
    (w.call P (unlessExempt w.config name info)).1 = some (some info) := by
  unfold World.call unlessExempt
  cases exempts : w.config.userLockout.exemptAdmins with
  | false => rfl
  | true =>
    cases found : w.findUser P name with
    | none =>
      simp [userAdminStatus, Program.eval, execute, answer, World.whenReachable, up, found]
    | some user =>
      have ordinary : w.hasAdminRole user.id = false := by
        simpa [World.exempt, exempts, World.userAdminStatus, found] using notExempt
      simp [userAdminStatus, Program.eval, execute, answer, World.whenReachable,
        up, found, ordinary]

theorem checkUserLocked_of_active (up : w.reachable = true)
    (enabled : w.config.enabled = true) (notExempt : w.exempt P name = false)
    (locked : ((w.caches node).isUserLocked P name w.clock).isSome = true ∨
      ∃ lo, P.findLockout w.userLockouts name = some lo ∧ lo.info.active w.clock = true) :
    ∃ info, (w.call P (checkUserLocked node name)).1 = some (some info) := by
  unfold checkUserLocked
  rw [call_inquire, answer_readConfig up]
  simp only [enabled, Bool.not_true, Bool.false_eq_true, if_false]
  rw [call_isUserLocked]
  cases cached : (w.caches node).isUserLocked P name w.clock with
  | some info => exact ⟨info, unlessExempt_reports up notExempt info⟩
  | none =>
    obtain ⟨lo, found, active⟩ := locked.resolve_left (by simp [cached])
    have ans : (findUserLockout name).answer P w = some (some lo) := by
      simp only [answer, whenReachable, up, if_true, found]
    refine ⟨lo.info, ?_⟩
    dsimp only
    rw [call_inquire, call_inquire, ans]
    simp only [answer, filter_some, active, if_true]
    rw [call_act]
    refine unlessExempt_reports ?_ ?_ lo.info
    · exact up
    · exact notExempt

theorem reflect_spec (P : Primitives) (w : World) (node : NodeId)
    (att : FailedAttemptInfo) (newBlock : Option IpBlockInfo) (newLock : Option UserLockInfo) :
    ∃ caches, (w.call P (reflect node att newBlock newLock)).2 = { w with caches := caches } ∧
      ∀ info, newLock = some info →
        (caches node).lockedUsers (P.toLowercase att.username) = some info := by
  cases newLock with
  | none =>
    cases newBlock with
    | none | some block => exact ⟨_, rfl, fun _ isNew => by cases isNew⟩
  | some lock =>
    have kept : ∀ reached : World, ((reached.setCache node fun cache =>
        cache.lockUser P att.username lock).caches node).lockedUsers
          (P.toLowercase att.username) = some lock := by
      intro reached
      simp only [setCache, Function.update_self, Cache.lockUser]
    cases newBlock with
    | none | some block => exact ⟨_, rfl, fun _ isNew => isNew ▸ kept _⟩

theorem recordFailedAttempt_spec (enabled : w.config.enabled = true)
    (recorded : (w.call P (recordFailedAttempt node att)).1 = some ()) :
    w.reachable = true ∧ ∃ blocks lock caches,
      lockOut P (att.row P w.clock :: w.failedLoginAttempts)
          w.userLockouts (w.userAdminStatus P att.username) att.username
          w.clock w.config.userLockout = some lock ∧ (w.call P (recordFailedAttempt node att)).2 =
          { w with
            failedLoginAttempts :=
              att.row P w.clock :: w.failedLoginAttempts
            ipBlocks := blocks
            userLockouts := lock.2
            caches := caches } ∧
        ∀ info, lock.1 = some info →
          (caches node).lockedUsers (P.toLowercase att.username) = some info := by
  unfold recordFailedAttempt at recorded ⊢
  rw [call_inquire] at recorded ⊢
  cases up : w.reachable with
  | false =>
    rw [answer_readConfig_failed up] at recorded
    cases recorded
  | true =>
    refine ⟨rfl, ?_⟩
    rw [answer_readConfig up] at recorded ⊢
    simp only [enabled, Bool.not_true, Bool.false_eq_true, if_false] at recorded ⊢
    rw [call_act] at recorded ⊢
    simp only [execute, recordAttempt] at recorded ⊢
    cases locks : lockOut P (att.row P w.clock :: w.failedLoginAttempts) w.userLockouts
        (w.userAdminStatus P att.username) att.username w.clock
        w.config.userLockout with
    | none =>
      rw [locks] at recorded
      cases recorded
    | some lock =>
      simp only [write, up, if_true]
      rw [call_bind]
      obtain ⟨caches, reflected, known⟩ := reflect_spec P _ node att _ lock.1
      exact ⟨_, lock, caches, rfl, reflected, known⟩

theorem lockOut_active {isAdmin : Bool}
    (overLimit : c.maxAttempts ≤ attemptsFor P atts name (now - seconds c.timeWindowSeconds))
    (notExempt : (isAdmin && c.exemptAdmins) = false)
    (noneExpired : ∀ lo ∈ los.rows,
      P.usernameEqCi lo.username name = true → lo.info.active now = true)
    (locks : lockOut P atts los (some isAdmin) name now c = some lock) :
    (∃ info, lock.1 = some info ∧ info.active now = true) ∨
      ∃ lo, P.findLockout lock.2 name = some lo ∧ lo.info.active now = true := by
  unfold lockOut at locks
  simp only [if_neg (Nat.not_lt.mpr overLimit), notExempt, false_eq_true, if_false] at locks
  rcases createUserLockout_cases P los name
      (attemptsFor P atts name (now - seconds c.timeWindowSeconds)) now
      c with ⟨lo, found, stays⟩ | failed | ⟨-, lo, rfl, created⟩
  · grind [mem_of_findLockout]
  · rw [failed] at locks
    cases locks
  · grind [UserLockout.active_starting]

/-- When an attempt is recorded, and the user is then over the limit, a check of the user on the
same node reports a lock, whatever the case the name is written in. -/
theorem lockout_takes_effect (node : NodeId) (attempt : FailedAttemptInfo) (asked : String)
    (noneExpired : world.NoExpiredLockout primitives attempt.username)
    (enabled : world.config.enabled = true)
    (recorded : (world.call primitives (recordFailedAttempt node attempt)).1 = some ())
    (lockable : world.lockable primitives attempt.username = true)
    (overLimit : world.config.userLockout.maxAttempts ≤
      (world.call primitives (recordFailedAttempt node attempt)).2.recentAttempts primitives
        attempt.username)
    (sameUser : primitives.toLowercase asked = primitives.toLowercase attempt.username) :
    ∃ info, ((world.call primitives (recordFailedAttempt node attempt)).2.call primitives
      (checkUserLocked node asked)).1 = some (some info) := by
  obtain ⟨up, blocks, lock, caches, locks, post, known⟩ := recordFailedAttempt_spec enabled recorded
  rw [post] at overLimit ⊢
  obtain ⟨isAdmin, status, notExempt⟩ := (any_eq_true _ _).mp lockable
  rw [status] at locks
  rw [not_eq_true'] at notExempt
  have inForce := lockOut_active overLimit notExempt noneExpired locks
  refine checkUserLocked_of_active up enabled ?_ ?_
  · refine World.exempt_of_lockable ?_
    simp only [World.lockable, World.userAdminStatus, World.findUser, usernameEqCi, sameUser]
    exact lockable
  · rw [findLockout_congr _ sameUser]
    refine inForce.imp_left ?_
    rintro ⟨info, isNew, active⟩
    simp only [Cache.isUserLocked, sameUser, known info isNew, filter_some, active, if_true,
      isSome_some]

def plainPrimitives : Primitives where
  toPrimitives := Auth.plain
  sqlLower := id
  scale := fun base _ _ => base

def strictConfig : LoginProtectionConfig where
  enabled := true
  retentionSeconds := 3600
  ipRateLimit := ⟨2, 10, 1, 0, 60, 3600⟩
  userLockout := ⟨1, 10, true, 1, true⟩
  ipExempt := []

def quietWorld : World where
  config := strictConfig
  users := ⟨[⟨1, "alice"⟩], by decide⟩
  adminRoleAssignments := []
  failedLoginAttempts := []
  ipBlocks := .empty
  userLockouts := .empty
  caches := fun _ => .new
  clock := 0
  reachable := true

def aliceFails : FailedAttemptInfo where
  username := "alice"
  remoteIp := .v4 7
  protocol := .ssh
  credentialType := "password"

/-- The second attempt finds the row of a lockout that is still in force. -/
theorem lockout_takes_effect_again :
    let locked := (quietWorld.call plainPrimitives (recordFailedAttempt 0 aliceFails)).2
    locked.userLockouts.rows.length = 1 ∧
      ∃ info, ((locked.call plainPrimitives (recordFailedAttempt 0 aliceFails)).2.call
        plainPrimitives (checkUserLocked 0 "alice")).1 = some (some info) :=
  ⟨by decide +kernel, lockout_takes_effect plainPrimitives _ 0 aliceFails "alice"
    (by unfold World.NoExpiredLockout; decide +kernel) (by decide +kernel) (by decide +kernel)
    (by decide +kernel) (by decide +kernel) rfl⟩

def lockoutExpired : World :=
  quietWorld.after plainPrimitives [.recordFailedAttempt 0 aliceFails, .elapse (seconds 2)]

theorem expired_lockout_prevents_lock :
    lockoutExpired.config.enabled = true ∧
      (lockoutExpired.call plainPrimitives (recordFailedAttempt 0 aliceFails)).1 = some () ∧
      lockoutExpired.lockable plainPrimitives "alice" = true ∧
      lockoutExpired.config.userLockout.maxAttempts ≤
        (lockoutExpired.call plainPrimitives (recordFailedAttempt 0 aliceFails)).2.recentAttempts
          plainPrimitives "alice" ∧
      ((lockoutExpired.call plainPrimitives (recordFailedAttempt 0 aliceFails)).2.call
        plainPrimitives (checkUserLocked 0 "alice")).1 = some none := by
  decide +kernel

end

variable (primitives : Primitives)

def World.blocks (world : World) (node : NodeId) (ip : IpAddr) : Bool :=
  world.config.enabled && !world.config.isIpExempt ip.toCanonical &&
    (((world.caches node).isIpBlocked ip.toCanonical world.clock).isSome ||
      (world.ipBlocks.find? (primitives.ipToString ip.toCanonical)).any fun block =>
        world.clock < block.expiresAt)

def World.locks (world : World) (node : NodeId) (username : String) : Bool :=
  world.config.enabled && !world.exempt primitives username &&
    (((world.caches node).isUserLocked primitives username world.clock).isSome ||
      (primitives.findLockout world.userLockouts username).any fun lockout =>
        lockout.info.active world.clock)

variable {w : World}

section Checks

variable {P : Primitives}

theorem World.locks_congr {asked : String} (same : P.toLowercase asked = P.toLowercase name) :
    w.locks P node asked = w.locks P node name := by
  have status : w.userAdminStatus P asked = w.userAdminStatus P name := by
    simp only [userAdminStatus, findUser, usernameEqCi, same]
  simp only [locks, exempt, status, Cache.isUserLocked, findLockout_congr _ same, same]

theorem checkIpBlocked_cases (P : Primitives) (world : World) (node : NodeId) (ip : IpAddr) :
    (world.call P (checkIpBlocked node ip)).1 = none ∨
      (∃ info, (world.call P (checkIpBlocked node ip)).1 = some (some info)) ∨
      (world.call P (checkIpBlocked node ip) = (some none, world) ∧
        world.blocks P node ip = false) := by
  unfold checkIpBlocked blocks
  dsimp only
  rw [call_inquire]
  cases up : world.reachable with
  | false =>
    rw [answer_readConfig_failed up]
    exact .inl rfl
  | true =>
    rw [answer_readConfig up]
    dsimp only
    cases watched : !world.config.enabled || world.config.isIpExempt ip.toCanonical with
    | true =>
      refine .inr (.inr ⟨rfl, ?_⟩)
      cases enabled : world.config.enabled <;> simp_all
    | false =>
      rw [if_neg Bool.false_ne_true, call_act, execute_isIpBlocked]
      cases cached : (world.caches node).isIpBlocked ip.toCanonical world.clock with
      | some info => exact .inr (.inl ⟨info, rfl⟩)
      | none =>
        have ans : (findIpBlock ip.toCanonical world.clock).answer P world =
            some ((world.ipBlocks.find? (P.ipToString ip.toCanonical)).filter
              fun block => world.clock < block.expiresAt) := if_pos up
        dsimp only
        rw [call_inquire, call_inquire]
        rw [show now.answer P world = world.clock from rfl, ans, ← isSome_filter]
        generalize (world.ipBlocks.find? (P.ipToString ip.toCanonical)).filter _ = found
        cases found with
        | some block => exact .inr (.inl ⟨_, rfl⟩)
        | none => exact .inr (.inr ⟨rfl, by simp⟩)

theorem checkUserLocked_of_locks (locked : w.locks P node name = true) :
    (w.call P (checkUserLocked node name)).1 = none ∨
      ∃ info, (w.call P (checkUserLocked node name)).1 = some (some info) := by
  simp only [locks, and_eq_true, or_eq_true, not_eq_true', any_eq_true] at locked
  obtain ⟨⟨enabled, notExempt⟩, inForce⟩ := locked
  cases up : w.reachable with
  | false =>
    unfold checkUserLocked
    rw [call_inquire, answer_readConfig_failed up]
    exact .inl rfl
  | true => exact .inr (checkUserLocked_of_active up enabled notExempt inForce)

end Checks

open List

abbrev Primitives.FoldsAlike (name : String) : Prop :=
  primitives.sqlLower name = primitives.toLowercase name

/-- The two foldings agree on whether the name is that of the account. -/
abbrev Primitives.NamesAlike (account : AuthStateUserInfo) (name : String) : Prop :=
  primitives.sqlLower name = primitives.sqlLower account.username ↔
    primitives.toLowercase name = primitives.sqlLower account.username

def World.resolves (world : World) (account : AuthStateUserInfo) (name : String) : Bool :=
  world.findUser primitives name = some account

variable {P : Primitives}

/-! ### Spellings of a name -/

section

variable {account : AuthStateUserInfo} {spelling other : String}

theorem World.toLowercase_of_resolves (resolved : w.resolves P account name = true) :
    P.toLowercase name = P.sqlLower account.username := by
  have found := of_decide_eq_true resolved
  have matched := find?_some found
  exact (of_decide_eq_true matched).symm

theorem World.sameSpelling (resolved : w.resolves P account spelling = true)
    (alsoResolved : w.resolves P account other = true) :
    P.toLowercase spelling = P.toLowercase other := by
  rw [w.toLowercase_of_resolves resolved, w.toLowercase_of_resolves alsoResolved]

theorem World.findUser_congr (same : P.toLowercase spelling = P.toLowercase other) :
    w.findUser P spelling = w.findUser P other := by
  simp only [findUser, usernameEqCi, same]

theorem World.usernameEqCi_eq_resolves (alike : P.NamesAlike account name)
    (resolved : w.resolves P account spelling = true) :
    P.usernameEqCi name spelling = w.resolves P account name := by
  have folded := w.toLowercase_of_resolves resolved
  rw [Bool.eq_iff_iff]
  constructor
  · intro matched
    have same : P.toLowercase name = P.toLowercase spelling :=
      (alike.mp ((of_decide_eq_true matched).trans folded)).trans folded.symm
    rw [resolves, findUser_congr same]
    exact resolved
  · intro named
    exact decide_eq_true ((alike.mpr (w.toLowercase_of_resolves named)).trans folded.symm)

theorem unlessExempt_congr (c : LoginProtectionConfig) (info : UserLockInfo)
    (same : P.toLowercase spelling = P.toLowercase other) :
    w.call P (unlessExempt c spelling info) = w.call P (unlessExempt c other info) := by
  grind [answer, unlessExempt, userAdminStatus, findUser_congr, call_inquire, call_bind]

theorem checkUserLocked_congr (node : NodeId)
    (same : P.toLowercase spelling = P.toLowercase other) :
    w.call P (checkUserLocked node spelling) = w.call P (checkUserLocked node other) := by
  unfold checkUserLocked
  rw [call_inquire, call_inquire]
  cases readConfig.answer P w with
  | none => rfl
  | some c =>
    dsimp only
    split
    · rfl
    · rw [call_isUserLocked, call_isUserLocked]
      have sameCached : (w.caches node).isUserLocked P spelling w.clock =
          (w.caches node).isUserLocked P other w.clock := by
        rw [Cache.isUserLocked, Cache.isUserLocked, same]
      rw [sameCached]
      cases (w.caches node).isUserLocked P other w.clock with
      | some info => exact unlessExempt_congr c info same
      | none =>
        dsimp only
        have sameRow : (findUserLockout spelling).answer P w =
            (findUserLockout other).answer P w := by
          simp only [answer, findLockout_congr _ same]
        rw [call_inquire, call_inquire, call_inquire, call_inquire, sameRow]
        cases (findUserLockout other).answer P w with
        | none => rfl
        | some found =>
          dsimp only
          split
          · rfl
          · next lo _ =>
            rw [call_act, call_act]
            have sameFill : execute P (.cache node (.lockUser spelling lo.info)) w =
                execute P (.cache node (.lockUser other lo.info)) w := by
              simp only [execute, CacheAccess.execute, Cache.lockUser, same]
            rw [sameFill]
            exact unlessExempt_congr c lo.info same

end

structure World.Folded (primitives : Primitives) (account : AuthStateUserInfo) (world : World) :
    Prop where
  attempts : ∀ attempt ∈ world.failedLoginAttempts, primitives.NamesAlike account attempt.username
  lockouts : ∀ lockout ∈ world.userLockouts.rows, primitives.NamesAlike account lockout.username

variable {account : AuthStateUserInfo}

theorem mem_lockOut {adminStatus : Option Bool}
    (locks : lockOut P atts los adminStatus name now c = some lock)
    {lo : UserLockout} (stored : lo ∈ lock.2.rows) : lo ∈ los.rows ∨ lo.username = name := by
  rcases lockOut_cases P atts los adminStatus name now c with
    failed | left | ⟨-, created, failedCount, rfl, inserts⟩
  · rw [failed] at locks
    cases locks
  · grind
  · obtain rfl := some.inj (inserts.symm.trans locks)
    rcases Sql.Table.mem_insert stored with rfl | old
    · exact .inr rfl
    · exact .inl old

theorem folded_execute (stmt : Statement)
    (typed : ∀ att c, stmt = .recordAttempt att c →
      P.NamesAlike account att.username) (folded : w.Folded P account) :
    (execute P stmt w).2.Folded P account := by
  have step := step_execute P stmt w
  generalize (execute P stmt w).2 = later at step ⊢
  cases step with
  | recorded att c _ atts block lock stores blocks locks reports =>
    have alike := typed att c rfl
    constructor
    · intro r stored
      rw [stores] at stored
      rcases mem_cons.mp stored with rfl | old
      · exact alike
      · exact folded.attempts r old
    · intro lo stored
      rcases mem_lockOut locks stored with old | same
      · exact folded.lockouts lo old
      · rw [same]
        exact alike
  | attemptsDeleted _ _ p =>
    exact ⟨fun r stored => folded.attempts r (mem_of_mem_filter stored), folded.lockouts⟩
  | lockoutsDeleted _ _ p =>
    exact ⟨folded.attempts, fun lo stored => folded.lockouts lo (mem_of_mem_filter stored)⟩
  | _ => exact ⟨folded.attempts, folded.lockouts⟩

theorem World.after_cons (call : Task) (calls : List Task) :
    w.after P (call :: calls) = (w.call P call.program).2.after P calls := rfl

theorem World.after_keeps (kept : World → Prop) {calls : List Task}
    (keeps : ∀ call ∈ calls, ∀ reached, kept reached →
      kept (reached.call P call.program).2) (holds : kept w) : kept (w.after P calls) := by
  induction calls generalizing w with
  | nil => exact holds
  | cons call calls ih => grind [after_cons]

def Task.typed : Task → Option String
  | .recordFailedAttempt _ attempt => some attempt.username
  | _ => none

def Task.keepsAttempts : Task → Bool
  | .clearFailedAttempts _ _ | .unblockIp _ _ | .unlockUser _ _ | .cleanupExpired _ => false
  | _ => true

section Recorded

variable {call : Task} {r : FailedLoginAttempt}

theorem folded_call (typed : ∀ name, call.typed = some name → P.NamesAlike account name)
    (folded : w.Folded P account) : (w.call P call.program).2.Folded P account := by
  refine call.program_performs.eval_keeps (Folded P account)
    (fun stmt reached may holds => ?_) folded
  refine folded_execute stmt (fun att c records => ?_) holds
  rw [records] at may
  obtain ⟨node, rfl⟩ := may
  exact typed att.username rfl

theorem mem_attempts_execute (keeps : call.keepsAttempts = true) {stmt : Statement}
    (may : call.mayPerform stmt) (stored : r ∈ w.failedLoginAttempts) :
    r ∈ (execute P stmt w).2.failedLoginAttempts := by
  have removes : ∀ {removing : Task}, removing.keepsAttempts = false → call = removing →
      r ∈ (execute P stmt w).2.failedLoginAttempts := by
    rintro removing isRemoving rfl
    rw [isRemoving] at keeps
    cases keeps
  cases stmt with
  | deleteAttempts ip name =>
    obtain ⟨ip, name, isClear⟩ := may
    exact removes rfl isClear
  | deleteIpBlocks ip | deleteAttemptsFrom ip =>
    obtain ⟨node, isUnblock⟩ := may
    exact removes rfl isUnblock
  | deleteUserLockouts name | deleteAttemptsFor name =>
    obtain ⟨node, isUnlock⟩ := may
    exact removes rfl isUnlock
  | deleteExpiredIpBlocks now | deleteExpiredUserLockouts now | deleteAttemptsBefore cut =>
    obtain ⟨node, isCleanup⟩ := may
    exact removes rfl isCleanup
  | recordAttempt att c =>
    rcases w.recordAttempt_cases P att c with
      failed | ⟨atts, block, lock, stores, -, -, recorded⟩
    · rw [execute, failed]
      exact stored
    · rw [execute, recorded, stores]
      exact .tail _ stored
  | _ => exact stored

theorem mem_attempts_call (keeps : call.keepsAttempts = true) (stored : r ∈ w.failedLoginAttempts) :
    r ∈ (w.call P call.program).2.failedLoginAttempts := by
  exact call.program_performs.eval_keeps (fun reached : World => r ∈ reached.failedLoginAttempts)
    (fun stmt reached may holds => mem_attempts_execute keeps may holds) stored

theorem World.call_answering {Result : Type} (prog : Action Result) (ans : Result → Answer) :
    (w.call P (answering prog ans)).2 = (w.call P prog).2 := by
  rw [answering, call_bind]
  rfl

theorem recorded_row_stored (enabled : w.config.enabled = true)
    (recorded : (w.call P (recordFailedAttempt node att)).1 = some ()) :
    att.row P w.clock ∈ (w.call P
      (Task.recordFailedAttempt node att).program).2.failedLoginAttempts := by
  obtain ⟨-, blocks, lock, caches, -, post, -⟩ := recordFailedAttempt_spec enabled recorded
  rw [Task.program, call_answering, post]
  exact .head _

end Recorded

structure World.SharesLockout (primitives : Primitives) (world : World)
    (account : AuthStateUserInfo) : Prop where
  attempts : ∀ spelling, world.resolves primitives account spelling = true → ∀ since,
    attemptsFor primitives world.failedLoginAttempts spelling since =
      world.failedLoginAttempts.countP fun attempt =>
        world.resolves primitives account attempt.username && since ≤ attempt.timestamp
  lockout : ∀ spelling, world.resolves primitives account spelling = true →
    primitives.findLockout world.userLockouts spelling =
      world.userLockouts.rows.find? fun lockout =>
        world.resolves primitives account lockout.username
  check : ∀ node spelling other, world.resolves primitives account spelling = true →
    world.resolves primitives account other = true →
    (world.call primitives (checkUserLocked node spelling)).1 =
      (world.call primitives (checkUserLocked node other)).1

theorem World.Folded.sharesLockout (folded : w.Folded P account) : w.SharesLockout P account where
  attempts := by
    intro spelling resolved since
    refine countP_congr fun att stored => ?_
    rw [w.usernameEqCi_eq_resolves (folded.attempts att stored) resolved]
  lockout := by
    intro spelling resolved
    exact find?_congr fun lo stored =>
      w.usernameEqCi_eq_resolves (folded.lockouts lo stored) resolved
  check := by
    intro node spelling other resolved alsoResolved
    rw [checkUserLocked_congr node (w.sameSpelling resolved alsoResolved)]

/-- Where the two foldings agree, for every name that is stored or typed, on whether it is that of
an account, all spellings of the account share one lockout after any sequence of calls; and an
attempt that was recorded, with no attempts removed since, is among those that count. -/
theorem spellings_share_a_lockout (world : World)
    (account : AuthStateUserInfo) (calls : List Task)
    (folded : world.Folded primitives account)
    (typed : ∀ call ∈ calls, ∀ name, call.typed = some name →
      primitives.NamesAlike account name) :
    (world.after primitives calls).SharesLockout primitives account ∧
      ∀ earlier node attempt later, calls = earlier ++ .recordFailedAttempt node attempt :: later →
        (∀ call ∈ later, call.keepsAttempts = true) →
        (world.after primitives earlier).config.enabled = true →
        ((world.after primitives earlier).call primitives
          (recordFailedAttempt node attempt)).1 = some () →
        attempt.row primitives (world.after primitives earlier).clock ∈
          (world.after primitives calls).failedLoginAttempts := by
  constructor
  · have stays : (world.after primitives calls).Folded primitives account :=
      World.after_keeps (World.Folded primitives account)
        (fun call mem _ holds => folded_call (typed call mem) holds) folded
    exact stays.sharesLockout
  · rintro earlier node attempt later rfl keeps enabled recorded
    rw [World.after, foldl_append, foldl_cons]
    have stored := recorded_row_stored enabled recorded
    exact World.after_keeps
      (fun reached => attempt.row primitives (world.after primitives earlier).clock ∈
        reached.failedLoginAttempts)
      (fun call mem _ holds => mem_attempts_call (keeps call mem) holds) stored

def latinLowercase (letter : Char) : Char :=
  if 0xC0 ≤ letter.toNat ∧ letter.toNat ≤ 0xDE ∧ letter ≠ '×' then Char.ofNat (letter.toNat + 32)
  else letter.toLower

def sqlitePrimitives : Primitives :=
  { plainPrimitives with
    toLowercase := fun name => String.ofList (name.toList.map latinLowercase)
    sqlLower := fun name => String.ofList (name.toList.map Char.toLower) }

def eve : AuthStateUserInfo := ⟨1, "éve"⟩

def eveWorld : World :=
  { quietWorld with users := ⟨[eve], by decide⟩ }

def failsAs (username : String) : Task :=
  .recordFailedAttempt 0 { aliceFails with username := username }

def respelledInAscii : List Task := [failsAs "Alice", failsAs "ÉVE", failsAs "ALICE"]

/-- The foldings differ for another account. -/
theorem spellings_share_a_lockout_ascii :
    ¬ sqlitePrimitives.FoldsAlike "ÉVE" ∧
      (quietWorld.after sqlitePrimitives respelledInAscii).SharesLockout sqlitePrimitives
        ⟨1, "alice"⟩ ∧
      ∀ earlier node attempt later,
        respelledInAscii = earlier ++ .recordFailedAttempt node attempt :: later →
        (∀ call ∈ later, call.keepsAttempts = true) →
        (quietWorld.after sqlitePrimitives earlier).config.enabled = true →
        ((quietWorld.after sqlitePrimitives earlier).call sqlitePrimitives
          (recordFailedAttempt node attempt)).1 = some () →
        attempt.row sqlitePrimitives (quietWorld.after sqlitePrimitives earlier).clock ∈
          (quietWorld.after sqlitePrimitives respelledInAscii).failedLoginAttempts := by
  refine ⟨by decide +kernel,
    spellings_share_a_lockout sqlitePrimitives quietWorld ⟨1, "alice"⟩ _ ⟨?_, ?_⟩ ?_⟩
  · nofun
  · nofun
  · intro call mem name isTyped
    simp [respelledInAscii] at mem
    rcases mem with rfl | rfl | rfl <;> obtain rfl := Option.some.inj isTyped <;> decide +kernel

theorem respelled_attempts_do_not_count :
    eveWorld.resolves sqlitePrimitives eve "éve" = true ∧
      eveWorld.resolves sqlitePrimitives eve "ÉVE" = true ∧
      ((eveWorld.after sqlitePrimitives [failsAs "ÉVE"]).failedLoginAttempts.map
        FailedLoginAttempt.username) = ["ÉVE"] ∧
      (eveWorld.after sqlitePrimitives [failsAs "ÉVE"]).recentAttempts sqlitePrimitives "éve" = 0 ∧
      (eveWorld.after sqlitePrimitives [failsAs "ÉVE"]).recentAttempts sqlitePrimitives "ÉVE" = 0 ∧
      ((eveWorld.after sqlitePrimitives [failsAs "ÉVE"]).call sqlitePrimitives
        (checkUserLocked 0 "ÉVE")).1 = some none ∧
      ((eveWorld.after sqlitePrimitives [failsAs "éve"]).call sqlitePrimitives
        (checkUserLocked 0 "ÉVE")).1.map Option.isSome = some true := by
  decide +kernel

end Warpgate.LoginProtection
