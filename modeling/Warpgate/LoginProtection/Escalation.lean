/-
This file is about the blocks of one address over a whole run, and about their end by an
administrator.
-/

import Warpgate.LoginProtection.Lockout

namespace Warpgate.LoginProtection

open Auth (IpAddr)
open Concurrent Option Sql.Table Function Config Statement

namespace Statement

def newBlock (primitives : Primitives) (address : String) (world : World) :
    Statement → Option IpBlockInfo
  | recordAttempt attempt config =>
    if primitives.storedAs attempt.remoteIp = address then
      (world.recordAttempt primitives attempt config).1.bind Prod.fst
    else none
  | _ => none

theorem newBlock_recordAttempt (P : Primitives) (address : String) (w : World)
    (att : FailedAttemptInfo) (c : LoginProtectionConfig) :
    (recordAttempt att c).newBlock P address w =
      if P.ipToString att.remoteIp.toCanonical = address then
        (w.recordAttempt P att c).1.bind Prod.fst else none := rfl

def unblocks (primitives : Primitives) (address : String) : Statement → Bool
  | deleteIpBlocks ip => address ∈ primitives.forms ip
  | _ => false

def forgets (address : String) (world : World) : Statement → Bool
  | deleteExpiredIpBlocks now => (world.ipBlocks.find? address).any (·.expiresAt < now)
  | _ => false

end Statement

variable {P : Primitives} {w : World} {ip : IpAddr} {now : OffsetDateTime} {info : IpBlockInfo}

section Steps

variable {address : String} {c : LoginProtectionConfig} {blocks : IpBlocks}

theorem find?_blockAddress {atts : List FailedLoginAttempt}
    (unblocked : P.ipToString ip = address → (blockAddress P atts blocks ip now c).1 = none) :
    (blockAddress P atts blocks ip now c).2.find? address = blocks.find? address := by
  rcases blockAddress_cases P atts blocks ip now c with
    same | ⟨-, block, isNew, created⟩
  · rw [same]
  · rw [created] at unblocked ⊢
    rw [find?_upsert, if_neg]
    intro isAddress
    rw [isNew] at isAddress
    cases unblocked isAddress

theorem find?_delete_of_unmatched {p : IpBlock → Bool}
    (unmatched : (blocks.find? address).any p = false) :
    (blocks.delete p).find? address = blocks.find? address := by
  rw [find?_delete]
  cases found : blocks.find? address with
  | none => rfl
  | some block => grind

theorem find?_execute (stmt : Statement) (noBlock : stmt.newBlock P address w = none)
    (noUnblock : stmt.unblocks P address = false) (kept : stmt.forgets address w = false) :
    (execute P stmt w).2.ipBlocks.find? address = w.ipBlocks.find? address := by
  have step := step_execute P stmt w
  generalize (execute P stmt w).2 = later at step ⊢
  cases step with
  | recorded att c _ atts block lock stores blocks locks reports =>
    subst blocks
    refine find?_blockAddress fun isAddress => ?_
    rw [newBlock_recordAttempt, if_pos isAddress, reports] at noBlock
    exact noBlock
  | blocksDeleted ip =>
    refine find?_delete_of_unmatched ?_
    cases found : w.ipBlocks.find? address with
    | none => rfl
    | some block =>
      rw [any_some, key_of_find? found]
      exact noUnblock
  | blocksExpired now => exact find?_delete_of_unmatched kept
  | _ => rfl

theorem newBlock_spec {att : FailedAttemptInfo}
    (blocks : (recordAttempt att c).newBlock P address w = some info) :
    (∀ block, w.ipBlocks.find? address = some block → block.expiresAt ≤ w.clock) ∧ info.blockCount =
        escalate (w.ipBlocks.find? address) w.clock c.ipRateLimit ∧
      ∃ block, (execute P (.recordAttempt att c) w).2.ipBlocks.find? address = some block ∧
        block.blockCount = info.blockCount ∧ block.lastAttemptAt = w.clock := by
  rw [newBlock_recordAttempt] at blocks
  split at blocks
  · next isAddress =>
    subst isAddress
    show _ ∧ _ ∧ ∃ block, (w.recordAttempt P att c).2.ipBlocks.find? _ = some block ∧ _
    rcases w.recordAttempt_cases P att c with
      failed | ⟨atts, created, lock, -, isCreated, -, stored⟩
    · rw [failed] at blocks
      cases blocks
    · rw [stored] at blocks ⊢
      rcases blockAddress_cases P atts w.ipBlocks att.remoteIp.toCanonical
          w.clock c with same | ⟨expired, block, rfl, isNew⟩
      · rw [isCreated, same] at blocks
        cases blocks
      · rw [isCreated, isNew] at blocks
        obtain rfl := some.inj blocks
        refine ⟨expired, rfl, _, ?_, rfl, rfl⟩
        rw [isCreated, isNew]
        exact (find?_upsert _ _ _).trans (if_pos rfl)
  · cases blocks

theorem clock_le_execute (stmt : Statement) : w.clock ≤ (execute P stmt w).2.clock := by
  have step := step_execute P stmt w
  generalize (execute P stmt w).2 = later at step ⊢
  cases step with
  | elapsed period => exact Int.le_add_of_nonneg_right (Int.natCast_nonneg period)
  | _ => exact le_rfl

end Steps

def Statement.isCleanup : Statement → Bool
  | deleteExpiredIpBlocks _ => true
  | _ => false

def Statement.Timely (world : World) : Statement → Prop
  | deleteExpiredIpBlocks now => now ≤ world.clock
  | _ => True

def timely : Contract Statement Statement.Outcome World where
  rely := fun _ _ world later => world.clock ≤ later.clock
  requires := fun _ statement world => statement.Timely world
  refl := fun _ _ _ => le_rfl
  trans := fun _ _ _ _ _ => le_trans

variable {stmt : Statement} {world : World}

abbrev SparesBlocks {Result : Type} (program : Action Result) : Prop :=
  program.Performs fun statement => statement.isCleanup = false

theorem SparesBlocks.meets {Result : Type} {prog : Action Result} (spares : SparesBlocks prog)
    {hist : History Outcome} :
    prog.Meets (execute P) (fun _ _ => True) timely (fun _ _ _ => True) hist w := by
  refine (spares.imp fun stmt other _ reached _ => ?_).meets fun _ _ _ => trivial
  cases stmt with
  | deleteExpiredIpBlocks now => cases other
  | _ => trivial

theorem cleanupExpired_timely (node : NodeId) :
    (cleanupExpired node).Meets (execute P) (fun _ _ => True) timely (fun _ _ _ => True) []
      world := by
  refine fun later _ _ => ⟨trivial, ?_⟩
  generalize (execute P (.ask .readConfig) later).1 = c
  cases c with
  | none => trivial
  | some c =>
    dsimp only [Program.bind]
    split
    · trivial
    · refine fun asked _ _ => ⟨trivial, fun removing ord _ => ⟨ord, ?_⟩⟩
      refine SparesBlocks.meets ?_
      generalize (execute P (.deleteExpiredIpBlocks _) removing).1 = removed
      cases removed with
      | none => trivial
      | some expiredBlocks =>
        refine ⟨rfl, fun removed => ?_⟩
        cases removed with
        | none => trivial
        | some expiredLockouts =>
          refine ⟨rfl, fun removed => ?_⟩
          cases removed with
          | none => trivial
          | some oldAttempts => exact ⟨rfl, fun _ => trivial⟩

theorem program_timely (t : Task) :
    t.program.Meets (execute P) (fun _ _ => True) timely (fun _ _ _ => True) [] world := by
  by_cases cleanup : ∃ node, t = .cleanupExpired node
  · obtain ⟨node, rfl⟩ := cleanup
    exact (cleanupExpired_timely node).seq fun _ _ _ _ => trivial
  · refine SparesBlocks.meets (t.program_performs.imp fun stmt may => ?_)
    cases stmt with
    | deleteExpiredIpBlocks now => exact absurd may cleanup
    | _ => rfl

theorem performed_timely (P : Primitives) (w : World) (ms : List (Move Task))
    {m : Move Task} {t : Task} (perf : (reach P w ms).performed (system P) m = some (t, stmt)) :
    stmt.Timely (reach P w ms).state := by
  have onwards : ∀ (stmt : Statement) (s : World), s.clock ≤ ((system P).execute stmt s).2.clock :=
    fun stmt _ => clock_le_execute stmt
  have meet : True ∧ ThreadsMeet (system P) (fun _ _ => True) (fun _ => timely)
      (fun _ _ => True) (reach P w ms) :=
    run_meets_under (fun _ => True) (fun _ => timely) (fun _ _ => True)
      (fun t _ _ => program_timely t) (fun _ _ => True) (fun _ _ _ _ _ _ _ _ _ _ _ => trivial)
      (fun _ _ _ _ _ _ _ _ _ => trivial) (fun _ _ _ _ _ _ _ _ _ _ => trivial)
      (fun s _ _ _ stmt _ _ _ _ _ _ _ _ _ _ _ => ⟨trivial, onwards stmt s⟩)
      w ms (along_of_forall _ (fun _ _ => trivial) _ _) trivial
  obtain ⟨hist, next, mem⟩ := mem_of_performed _ perf
  exact (meet.2 _ mem trivial _ le_rfl trivial).1

def Blocks (primitives : Primitives) (address : String) (config : State) (move : Move Task)
    (settings : LoginProtectionConfig) (info : IpBlockInfo) : Prop :=
  ∃ task attempt,
    config.performed (system primitives) move = some (task, .recordAttempt attempt settings) ∧
      (Statement.recordAttempt attempt settings).newBlock primitives address config.state =
        some info

def Statement.Leaves (primitives : Primitives) (address : String) (world : World)
    (statement : Statement) : Prop :=
  statement.newBlock primitives address world = none ∧
    statement.unblocks primitives address = false ∧ statement.forgets address world = false

instance Statement.Leaves.decidable (primitives : Primitives) (address : String) (world : World)
    (statement : Statement) : Decidable (statement.Leaves primitives address world) :=
  inferInstanceAs (Decidable (_ ∧ _ ∧ _))

/-! ### Blocks escalate -/

section

variable {address : String}

theorem Blocks.row {c : State} {m : Move Task} {settings : LoginProtectionConfig}
    (blocks : Blocks P address c m settings info) :
    ∃ block, (c.step (system P) m).state.ipBlocks.find? address = some block ∧
      block.blockCount = info.blockCount ∧ block.lastAttemptAt = c.state.clock := by
  obtain ⟨t, att, perf, isNew⟩ := blocks
  obtain ⟨-, -, block, stored, count, last⟩ := newBlock_spec isNew
  rw [state_step _ perf]
  exact ⟨block, stored, count, last⟩

variable {block : IpBlock} {statement : Statement}
  {moves ms : List (Move Task)}

theorem newBlock_of_inForce (stored : w.ipBlocks.find? address = some block)
    (inForce : w.clock < block.expiresAt) : stmt.newBlock P address w = none := by
  cases stmt with
  | recordAttempt att c =>
    cases isNew : (recordAttempt att c).newBlock P address w with
    | none => rfl
    | some info =>
      have expired := (newBlock_spec isNew).1 block stored
      exact absurd inForce (not_lt.mpr expired)
  | _ => rfl

theorem forgets_of_inForce (stored : w.ipBlocks.find? address = some block)
    (inForce : w.clock < block.expiresAt) (timely : stmt.Timely w) :
    stmt.forgets address w = false := by
  cases stmt with
  | deleteExpiredIpBlocks now =>
    show (w.ipBlocks.find? address).any _ = false
    rw [stored, any_some, decide_eq_false_iff_not, not_lt]
    exact timely.trans inForce.le
  | _ => rfl

theorem find?_run {c : State}
    (along : Along (system P) (Performing (system P)
      fun reached _ stmt => stmt.Leaves P address reached.state) c ms) :
    (c.run (system P) ms).state.ipBlocks.find? address = c.state.ipBlocks.find? address := by
  refine run_invariant _ (fun reached : State =>
      reached.state.ipBlocks.find? address = c.state.ipBlocks.find? address)
    (fun _ _ _ holds => holds) ?_ c ms along rfl
  intro s pre t hist stmt next post log ok perf _ holds
  obtain ⟨noBlock, noUnblock, kept⟩ := Performing.admits _ ok perf
  exact (find?_execute stmt noBlock noUnblock kept).trans holds

theorem find?_step_of_inForce {move : Move Task}
    (stored : (reach P w ms).state.ipBlocks.find? address = some block)
    (inForce : (reach P w ms).state.clock < block.expiresAt)
    (allowed : Performing (system P)
      (fun _ _ statement => statement.unblocks P address = false) (reach P w ms) move) :
    ((reach P w ms).step (system P) move).state.ipBlocks.find? address = some block := by
  cases perf : (reach P w ms).performed (system P) move with
  | none => rw [state_step_of_idle _ perf, stored]
  | some performed =>
    obtain ⟨task, statement⟩ := performed
    have noUnblock := Performing.admits _ allowed perf
    have timely := performed_timely P w ms perf
    rw [state_step _ perf]
    exact (find?_execute statement (newBlock_of_inForce stored inForce) noUnblock
      (forgets_of_inForce stored inForce timely)).trans stored

/-- Blocks of one address escalate: the next block within the cooldown has the next count, if no
cleanup in between removes the expired row; and a block in force is left as it is by everything but
its unblock. -/
theorem blocks_escalate (primitives : Primitives) (world : World) (address : String) :
    (∀ moves first settings info,
      Blocks primitives address (reach primitives world moves) first settings info →
      ∀ between, Config.Along (system primitives) (Config.Performing (system primitives)
          fun reached _ statement => statement.Leaves primitives address reached.state)
        (reach primitives world (moves ++ [first])) between →
      ∀ second laterSettings laterInfo,
        Blocks primitives address (reach primitives world (moves ++ first :: between)) second
          laterSettings laterInfo →
        (reach primitives world (moves ++ first :: between)).state.clock -
            (reach primitives world moves).state.clock ≤
          seconds laterSettings.ipRateLimit.cooldownResetSeconds →
        laterInfo.blockCount = info.blockCount + 1) ∧
      ∀ moves move block,
        (reach primitives world moves).state.ipBlocks.find? address = some block →
        (reach primitives world moves).state.clock < block.expiresAt →
        Config.Performing (system primitives)
          (fun _ _ statement => statement.unblocks primitives address = false)
          (reach primitives world moves) move →
        (reach primitives world (moves ++ [move])).state.ipBlocks.find? address = some block := by
  constructor
  · intro moves first settings info blocks between along second laterSettings laterInfo again soon
    obtain ⟨block, stored, count, last⟩ := blocks.row
    obtain ⟨t, att, -, isNew⟩ := again
    rw [reach, run_append, run_cons] at isNew soon
    rw [reach, run_append, run_cons, run_nil] at along
    have continued := (newBlock_spec isNew).2.1
    rw [find?_run along, stored] at continued
    rw [continued, escalate, last, if_pos soon, count]
  · intro moves move block stored inForce ok
    rw [reach, run_append]
    exact find?_step_of_inForce stored inForce ok

end

def untilBlocked : List (Move Task) :=
  [.start (.recordFailedAttempt 0 aliceFails), .advance 0, .advance 0,
    .start (.recordFailedAttempt 1 aliceFails), .advance 1]

def untilNextAttempt : List (Move Task) :=
  [.start (.elapse (seconds 2)), .advance 2, .start (.recordFailedAttempt 0 aliceFails),
    .advance 3]

def firstBlock : IpBlockInfo where
  ipAddress := .v4 7
  blockedAt := 0
  expiresAt := seconds 1
  blockCount := 1
  reason := "Exceeded 2 failed login attempts (block #1)"

def firstRow : IpBlock where
  ipAddress := "1111111"
  blockCount := 1
  blockedAt := 0
  expiresAt := seconds 1
  reason := "Exceeded 2 failed login attempts (block #1)"
  lastAttemptAt := 0

def secondBlock : IpBlockInfo where
  ipAddress := .v4 7
  blockedAt := seconds 2
  expiresAt := seconds 3
  blockCount := 2
  reason := "Exceeded 2 failed login attempts (block #2)"

theorem blocks_escalate_twice :
    secondBlock.blockCount = firstBlock.blockCount + 1 ∧
      (reach plainPrimitives quietWorld
        (untilBlocked ++ [.advance 1] ++ [.advance 1])).state.ipBlocks.find? "1111111" =
          some firstRow := by
  obtain ⟨escalates, stays⟩ := blocks_escalate plainPrimitives quietWorld "1111111"
  constructor
  · exact escalates untilBlocked (.advance 1) strictConfig firstBlock
      ⟨.recordFailedAttempt 1 aliceFails, aliceFails, by decide +kernel, by decide +kernel⟩
      untilNextAttempt (by decide +kernel) (.advance 3) strictConfig secondBlock
      ⟨.recordFailedAttempt 0 aliceFails, aliceFails, by decide +kernel, by decide +kernel⟩
      (by decide +kernel)
  · have keeps := stays (untilBlocked ++ [.advance 1]) (.advance 1) firstRow
    refine keeps (by decide +kernel) ?_ ?_
    · decide +kernel
    · decide +kernel

def countAfter (calls : List Task) : Option (Int32 × OffsetDateTime) :=
  ((quietWorld.after plainPrimitives calls).ipBlocks.find? "1111111").map fun block =>
    (block.blockCount, block.blockedAt)

theorem cleanup_resets_block_count :
    countAfter [.recordFailedAttempt 0 aliceFails, .recordFailedAttempt 0 aliceFails] =
        some (1, 0) ∧
      countAfter [.recordFailedAttempt 0 aliceFails, .recordFailedAttempt 0 aliceFails,
        .elapse (seconds 2), .cleanupExpired 0, .recordFailedAttempt 0 aliceFails] =
        some ((1 : Int32), ((seconds 2 : Nat) : Int)) ∧
      (seconds 2 - 0 : Int) ≤ seconds quietWorld.config.ipRateLimit.cooldownResetSeconds := by
  decide +kernel

/-! ### A release is effective -/

inductive Subject
  | address (ip : IpAddr)
  | user (username : String)
  deriving DecidableEq

namespace Subject

def check (node : NodeId) : Subject → Task
  | address ip => .checkIpBlocked node ip
  | user username => .checkUserLocked node username

def release (node : NodeId) : Subject → Task
  | address ip => .unblockIp node ip
  | user username => .unlockUser node username

def notFound : Subject → Answer
  | address _ => .ipBlock (some none)
  | user _ => .userLock (some none)

def failure : Subject → Answer
  | address _ => .ipBlock none
  | user _ => .userLock none

variable (primitives : Primitives)

def stored (world : World) : Subject → Bool
  | address ip => (world.ipBlocks.find? (primitives.storedAs ip)).isSome
  | user username => (primitives.findLockout world.userLockouts username).isSome

def inCache (cache : Cache) : Subject → Bool
  | address ip => (cache.blockedIps ip.toCanonical).isSome
  | user username => (cache.lockedUsers (primitives.toLowercase username)).isSome

def enteredBy : Subject → CacheAccess → Bool
  | address ip, .blockIp blocked _ => blocked = ip.toCanonical
  | user username, .lockUser locked _ =>
    primitives.toLowercase locked = primitives.toLowercase username
  | _, _ => false

def recordedBy : Subject → Statement → Bool
  | address ip, .recordAttempt attempt _ =>
    primitives.storedAs attempt.remoteIp = primitives.storedAs ip
  | user username, .recordAttempt attempt _ => primitives.usernameEqCi attempt.username username
  | _, _ => false

def filledBy (subject : Subject) : Statement → Option NodeId
  | .cache node access => if subject.enteredBy primitives access then some node else none
  | _ => none

structure Released (primitives : Primitives) (subject : Subject) (world : World) : Prop where
  stored : subject.stored primitives world = false
  cached : ∀ node, subject.inCache primitives (world.caches node) = false

/-- An attempt of the subject is recorded, and an entry for it put into a cache, only while its row
is stored, and the entry only on this node. -/
def Undisturbed (subject : Subject) (node : NodeId) (world : World)
    (statement : Statement) : Prop :=
  (subject.recordedBy primitives statement = true → subject.stored primitives world = true) ∧
    (subject.filledBy primitives statement).all
      (fun filled => filled = node && subject.stored primitives world) = true

instance Undisturbed.decidable (primitives : Primitives) (subject : Subject) (node : NodeId)
    (world : World) (statement : Statement) :
    Decidable (subject.Undisturbed primitives node world statement) :=
  inferInstanceAs (Decidable (_ ∧ _))

end Subject

variable {subj : Subject} {name : String}

section Steps

theorem update_none_eq_none {Key Value : Type} [DecidableEq Key] {entries : Key → Option Value}
    {removed k : Key} (gone : entries k = none) : update entries removed none k = none := by
  by_cases same : k = removed
  · rw [same, update_self]
  · rw [update_of_ne same, gone]

variable {los : UserLockouts}

theorem isSome_eq_false {Element : Type} {o : Option Element} : o.isSome = false ↔ o = none := by
  rw [isSome_eq_false_iff, isNone_iff_eq_none]

theorem findLockout_delete (p : UserLockout → Bool) (gone : P.findLockout los name = none) :
    P.findLockout (los.delete p) name = none := by
  rw [Primitives.findLockout_eq_none_iff] at gone ⊢
  exact fun lo mem => gone lo (List.mem_of_mem_filter mem)

theorem findLockout_insert {lo : UserLockout} (other : P.usernameEqCi lo.username name = false)
    (gone : P.findLockout los name = none) : P.findLockout (los.insert lo).2 name = none := by
  rw [Primitives.findLockout_eq_none_iff] at gone ⊢
  intro stored mem
  rcases mem_insert mem with rfl | old
  · exact other
  · exact gone stored old

theorem stored_execute (stmt : Statement) (notRecorded : subj.recordedBy P stmt = false)
    (gone : subj.stored P w = false) : subj.stored P (execute P stmt w).2 = false := by
  have step := step_execute P stmt w
  generalize (execute P stmt w).2 = later at step ⊢
  cases subj with
  | address ip =>
    simp only [Subject.stored, isSome_eq_false] at gone ⊢
    cases step with
    | recorded att c _ atts block lock stores blocks locks reports =>
      rcases blockAddress_cases P atts w.ipBlocks att.remoteIp.toCanonical
          w.clock c with same | ⟨-, created, isNew, upserted⟩
      · rw [blocks, same]
        exact gone
      · have ne : created.ipAddress ≠ P.storedAs ip := by
          rw [isNew]
          exact of_decide_eq_false notRecorded
        rw [blocks, upserted, find?_upsert, if_neg ne]
        exact gone
    | blocksDeleted deleted | blocksExpired now =>
      exact (find?_delete _ _ _).trans (by rw [gone]; rfl)
    | _ => exact gone
  | user name =>
    simp only [Subject.stored, isSome_eq_false] at gone ⊢
    cases step with
    | recorded att c _ atts block lock stores blocks locks reports =>
      rcases lockOut_cases P atts w.userLockouts
          (w.userAdminStatus P att.username) att.username w.clock
          c.userLockout with failed | same | ⟨-, lo, failedCount, isNew, inserted⟩
      · cases failed.symm.trans locks
      · grind
      · obtain rfl := Option.some.inj (inserted.symm.trans locks)
        refine findLockout_insert ?_ gone
        rw [isNew]
        exact notRecorded
    | lockoutsDeleted _ _ p => exact findLockout_delete p gone
    | _ => exact gone

theorem inCache_access {cache : Cache} (access : CacheAccess)
    (notEntered : subj.enteredBy P access = false) (gone : subj.inCache P cache = false) :
    subj.inCache P (access.execute P now cache).2 = false := by
  cases subj with
  | address ip =>
    simp only [Subject.inCache, isSome_eq_false] at gone ⊢
    cases access with
    | blockIp blocked info =>
      have ne : ip.toCanonical ≠ blocked := Ne.symm (of_decide_eq_false notEntered)
      exact (update_of_ne ne _ _).trans gone
    | unblockIp unblocked => exact update_none_eq_none gone
    | clearExpired => exact congrArg (Option.filter _) gone
    | _ => exact gone
  | user name =>
    simp only [Subject.inCache, isSome_eq_false] at gone ⊢
    cases access with
    | lockUser locked info =>
      have ne : P.toLowercase name ≠ P.toLowercase locked := Ne.symm (of_decide_eq_false notEntered)
      exact (update_of_ne ne _ _).trans gone
    | unlockUser unlocked => exact update_none_eq_none gone
    | clearExpired => exact congrArg (Option.filter _) gone
    | _ => exact gone

theorem inCache_execute (stmt : Statement) (node : NodeId)
    (notFilled : subj.filledBy P stmt ≠ some node) (gone : subj.inCache P (w.caches node) = false) :
    subj.inCache P ((execute P stmt w).2.caches node) = false := by
  have step := step_execute P stmt w
  generalize (execute P stmt w).2 = later at step ⊢
  cases step with
  | cached filled access =>
    show subj.inCache P (update w.caches filled _ node) = false
    by_cases same : node = filled
    · subst same
      rw [update_self]
      refine inCache_access access ?_ gone
      rw [← Bool.not_eq_true]
      exact fun entered => notFilled (if_pos entered)
    · rw [update_of_ne same]
      exact gone
  | _ => exact gone

end Steps

structure Calm (primitives : Primitives) (subject : Subject) (node : NodeId)
    (world later : World) : Prop where
  stored : subject.stored primitives world = false → subject.stored primitives later = false
  elsewhere : ∀ other, other ≠ node → subject.inCache primitives (world.caches other) = false →
    subject.inCache primitives (later.caches other) = false
  here : subject.stored primitives world = false →
    subject.inCache primitives (world.caches node) = false →
    subject.inCache primitives (later.caches node) = false

structure Removed (primitives : Primitives) (subject : Subject) (node : NodeId) (world : World) :
    Prop where
  stored : subject.stored primitives world = false
  elsewhere : ∀ other, other ≠ node → subject.inCache primitives (world.caches other) = false

/-! ### What others do to a released subject -/

section

variable {node : NodeId} {later : World}

open Subject

open Question

theorem Calm.refl (w : World) : Calm P subj node w w :=
  ⟨fun gone => gone, fun _ _ gone => gone, fun _ gone => gone⟩

theorem Calm.trans (first second third : World) (pre : Calm P subj node first second)
    (post : Calm P subj node second third) : Calm P subj node first third where
  stored := fun gone => post.stored (pre.stored gone)
  elsewhere := fun other ne gone => post.elsewhere other ne (pre.elsewhere other ne gone)
  here := fun gone cleared => post.here (pre.stored gone) (pre.here gone cleared)

theorem calm_execute (undisturbed : subj.Undisturbed P node w stmt) :
    Calm P subj node w (execute P stmt w).2 := by
  obtain ⟨records, fills⟩ := undisturbed
  have filled : ∀ other, subj.filledBy P stmt = some other →
      other = node ∧ subj.stored P w = true := by
    intro other isFilled
    rw [isFilled, all_some, Bool.and_eq_true, decide_eq_true_eq] at fills
    exact fills
  refine ⟨fun gone => stored_execute stmt ?_ gone, fun other ne => ?_, fun gone => ?_⟩
  · exact Bool.eq_false_iff.mpr fun recorded => absurd (records recorded) (by rw [gone]; decide)
  · grind [inCache_execute]
  · refine inCache_execute stmt node fun isFilled => ?_
    rw [(filled node isFilled).2] at gone
    cases gone

theorem Removed.calm (removed : Removed P subj node w)
    (calm : Calm P subj node w later) : Removed P subj node later :=
  ⟨calm.stored removed.stored, fun other ne => calm.elsewhere other ne (removed.elsewhere other ne)⟩

theorem Removed.after (removed : Removed P subj node w) (stmt : Statement)
    (notRecorded : subj.recordedBy P stmt = false) (notFilled : subj.filledBy P stmt = none) :
    Removed P subj node (execute P stmt w).2 := by
  refine ⟨stored_execute stmt notRecorded removed.stored, fun other ne => ?_⟩
  refine inCache_execute stmt other ?_ (removed.elsewhere other ne)
  rw [notFilled]
  exact nofun

theorem Subject.Released.calm (released : subj.Released P w)
    (calm : Calm P subj node w later) : subj.Released P later := by
  refine ⟨calm.stored released.stored, fun other => ?_⟩
  by_cases same : other = node
  · rw [same]
    exact calm.here released.stored (released.cached node)
  · exact calm.elsewhere other same (released.cached other)

abbrev MeetsCalmly (primitives : Primitives) (subject : Subject) (node : NodeId)
    (assumed : World → Prop) {Result : Type} (ensures : Result → World → Prop)
    (history : History Statement.Outcome) (program : Action Result)
    (world : World) : Prop :=
  program.Meets (execute primitives) (fun _ => assumed)
    (Contract.relying (Calm primitives subject node) Calm.refl Calm.trans)
    (fun _ result reached => ensures result reached) history world

variable {asm : World → Prop} {history hist : History Statement.Outcome}

def Subject.clearing : Subject → CacheAccess
  | address ip => .unblockIp ip.toCanonical
  | user username => .unlockUser username

theorem inCache_clearing (cache : Cache) (now : OffsetDateTime) :
    subj.inCache P (subj.clearing.execute P now cache).2 = false := by
  cases subj with
  | address ip =>
    simp only [inCache, clearing, CacheAccess.execute, Cache.unblockIp, update_self, isSome_none]
  | user name =>
    simp only [inCache, clearing, CacheAccess.execute, Cache.unlockUser, update_self, isSome_none]

theorem Removed.cleared (removed : Removed P subj node w) :
    subj.Released P (execute P (.cache node subj.clearing) w).2 := by
  have notEntered : subj.enteredBy P subj.clearing = false := by cases subj <;> rfl
  have still := removed.after (.cache node subj.clearing) (by cases subj <;> rfl)
    (if_neg (by rw [notEntered]; exact Bool.false_ne_true))
  refine ⟨still.stored, fun other => ?_⟩
  by_cases same : other = node
  · subst same
    show subj.inCache P (update w.caches other _ other) = false
    rw [update_self]
    exact inCache_clearing _ _
  · exact still.elsewhere other same

theorem clearing_meets (removed : Removed P subj node w)
    (next : subj.clearing.Outcome → Action (Option Unit))
    (returns : ∀ out, next out = pure (some ())) :
    MeetsCalmly P subj node asm (fun res reached => res = some () → subj.Released P reached) hist
      (Program.perform (.cache node subj.clearing) next) w := by
  refine fun later relied _ => ⟨trivial, ?_⟩
  rw [returns]
  exact fun _ => (removed.calm relied).cleared

theorem stored_deleteIpBlocks (ip : IpAddr) (w : World) :
    (address ip).stored P (w.deleteIpBlocks fun block => block.ipAddress ∈ P.forms ip) = false := by
  show ((w.ipBlocks.delete _).find? (P.storedAs ip)).isSome = false
  rw [find?_delete]
  cases found : w.ipBlocks.find? (P.storedAs ip) with
  | none => rfl
  | some block =>
    have deleted : block.ipAddress ∈ P.forms ip := by
      simp [key_of_find? found, Primitives.forms]
    simp [filter_some, deleted]

theorem stored_deleteUserLockouts (name : String) (w : World) :
    (user name).stored P
      (w.deleteUserLockouts fun lo => P.usernameEqCi lo.username name) = false := by
  rw [stored, isSome_eq_false, Primitives.findLockout_eq_none_iff]
  intro lo mem
  simpa using (List.mem_filter.mp mem).2

theorem unblockIp_meets
    (elsewhere : ∀ other, other ≠ node → (address ip).inCache P (w.caches other) = false) :
    MeetsCalmly P (.address ip) node asm
      (fun res reached => res = some () → (address ip).Released P reached)
      hist (unblockIp node ip) w := by
  refine fun later relied _ => ⟨trivial, ?_⟩
  rcases later.write_cases () (later.deleteIpBlocks fun block =>
      block.ipAddress ∈ P.forms ip) with failed | done
  · rw [show execute P (.deleteIpBlocks ip) later = (none, later) from failed]
    exact nofun
  · have removed : Removed P (.address ip) node (later.deleteIpBlocks fun block =>
        block.ipAddress ∈ P.forms ip) :=
      ⟨stored_deleteIpBlocks ip later,
        fun other ne => relied.elsewhere other ne (elsewhere other ne)⟩
    rw [show execute P (.deleteIpBlocks ip) later = (some (), _) from done]
    refine fun between relied _ => ⟨trivial, ?_⟩
    have still := (removed.calm relied).after (.deleteAttemptsFrom ip) rfl rfl
    rcases between.write_cases () (between.deleteAttempts fun att =>
        att.remoteIp ∈ P.forms ip) with failed | done
    · rw [show execute P (.deleteAttemptsFrom ip) between = (none, between) from failed]
      exact nofun
    · rw [show execute P (.deleteAttemptsFrom ip) between = (some (), _) from done] at still ⊢
      exact clearing_meets still _ fun _ => rfl

theorem unlockUser_meets
    (elsewhere : ∀ other, other ≠ node → (user name).inCache P (w.caches other) = false) :
    MeetsCalmly P (.user name) node asm
      (fun res reached => res = some () → (user name).Released P reached)
      hist (unlockUser node name) w := by
  refine fun later relied _ => ⟨trivial, ?_⟩
  rcases later.write_cases () (later.deleteUserLockouts fun lo =>
      P.usernameEqCi lo.username name) with failed | done
  · rw [show execute P (.deleteUserLockouts name) later = (none, later) from failed]
    exact nofun
  · have removed : Removed P (.user name) node (later.deleteUserLockouts fun lo =>
        P.usernameEqCi lo.username name) :=
      ⟨stored_deleteUserLockouts name later,
        fun other ne => relied.elsewhere other ne (elsewhere other ne)⟩
    rw [show execute P (.deleteUserLockouts name) later = (some (), _) from done]
    refine fun between relied _ => ⟨trivial, ?_⟩
    have still := (removed.calm relied).after (.deleteAttemptsFor name) rfl rfl
    rcases between.write_cases () (between.deleteAttempts fun att =>
        P.usernameEqCi att.username name) with failed | done
    · rw [show execute P (.deleteAttemptsFor name) between = (none, between) from failed]
      exact nofun
    · rw [show execute P (.deleteAttemptsFor name) between = (some (), _) from done] at still ⊢
      exact clearing_meets still _ fun _ => rfl

theorem release_meets
    (elsewhere : ∀ other, other ≠ node → subj.inCache P (w.caches other) = false) :
    MeetsCalmly P subj node asm
      (fun ans reached => ans = .completion (some ()) →
        subj.Released P reached) hist (subj.release node).program w := by
  have answers : ∀ {prog : Action (Option Unit)}, MeetsCalmly P subj node asm
        (fun res reached => res = some () → subj.Released P reached) hist
        prog w →
      MeetsCalmly P subj node asm (fun ans reached => ans = .completion (some ()) →
          subj.Released P reached) hist (answering prog .completion) w := by
    intro prog meets
    refine Program.Meets.seq meets fun _ res reached released completed => ?_
    exact released (Answer.completion.inj completed)
  cases subj with
  | address ip => exact answers (unblockIp_meets elsewhere)
  | user name => exact answers (unlockUser_meets elsewhere)

section Checks

variable {up : Prop} {Result : Type} {ensures : Result → World → Prop}

theorem meets_inquire {q : Question} {next : q.Answer → Action Result}
    (goesOn : ∀ later, Calm P subj node w later → asm later → MeetsCalmly P subj node asm ensures
        (⟨.ask q, q.answer P later⟩ :: hist) (next (q.answer P later)) later) :
    MeetsCalmly P subj node asm ensures hist (inquire q >>= next) w :=
  fun later relied here => ⟨trivial, goesOn later relied here⟩

theorem World.whenReachable_cases (w : World) (res : Result) :
    w.whenReachable res = some res ∨ w.whenReachable res = none ∧ ¬w.reachable = true := by
  unfold World.whenReachable
  cases w.reachable with
  | true => exact .inl rfl
  | false => exact .inr ⟨rfl, Bool.false_ne_true⟩

theorem readConfig_cases (w : World) :
    readConfig.answer P w = some w.config ∨ readConfig.answer P w = none ∧ ¬w.reachable = true :=
  w.whenReachable_cases w.config

theorem isIpBlocked_of_released (released : (address ip).Released P w) (asked : NodeId) :
    execute P (.cache asked (.isIpBlocked ip.toCanonical)) w = (none, w) := by
  have gone := released.cached asked
  rw [inCache, isSome_eq_false] at gone
  rw [execute_isIpBlocked, Cache.isIpBlocked, gone]
  rfl

theorem isUserLocked_of_released (released : (user name).Released P w) (asked : NodeId) :
    execute P (.cache asked (.isUserLocked name)) w = (none, w) := by
  have gone := released.cached asked
  rw [inCache, isSome_eq_false] at gone
  rw [execute_isUserLocked, Cache.isUserLocked, gone]
  rfl

theorem findIpBlock_of_released (released : (address ip).Released P w) (time : OffsetDateTime) :
    (findIpBlock ip.toCanonical time).answer P w = some none ∨
      (findIpBlock ip.toCanonical time).answer P w = none ∧ ¬w.reachable = true := by
  have gone := released.stored
  rw [stored, isSome_eq_false] at gone
  have ans : (findIpBlock ip.toCanonical time).answer P w = w.whenReachable none := by
    show w.whenReachable ((w.ipBlocks.find? (P.storedAs ip)).filter _) = _
    rw [gone]
    rfl
  rw [ans]
  exact w.whenReachable_cases none

theorem findUserLockout_of_released (released : (user name).Released P w) :
    (findUserLockout name).answer P w = some none ∨
      (findUserLockout name).answer P w = none ∧ ¬w.reachable = true := by
  have gone := released.stored
  rw [stored, isSome_eq_false] at gone
  have ans : (findUserLockout name).answer P w = w.whenReachable none := by
    show w.whenReachable (P.findLockout w.userLockouts name) = _
    rw [gone]
  rw [ans]
  exact w.whenReachable_cases none

theorem checkIpBlocked_meets (released : (address ip).Released P world) (asked : NodeId) :
    MeetsCalmly P (.address ip) node (fun reached => up → reached.reachable = true)
      (fun res _ => res = some none ∨ res = none ∧ ¬up) history (checkIpBlocked asked ip)
      world := by
  refine meets_inquire fun later relied here => ?_
  rcases readConfig_cases later with config | ⟨failed, down⟩
  · rw [config]
    dsimp only
    split
    · exact .inl rfl
    · refine fun looking relied' _ => ⟨trivial, ?_⟩
      have looked := (released.calm relied).calm relied'
      rw [isIpBlocked_of_released looked asked]
      refine meets_inquire fun timed relied _ => meets_inquire fun finding relied' here => ?_
      rcases findIpBlock_of_released ((looked.calm relied).calm relied')
          (now.answer P timed) with notFound | ⟨failed, down⟩
      · rw [notFound]
        exact .inl rfl
      · rw [failed]
        exact .inr ⟨rfl, fun isUp => down (here isUp)⟩
  · rw [failed]
    exact .inr ⟨rfl, fun isUp => down (here isUp)⟩

theorem checkUserLocked_meets (released : (user name).Released P w) (asked : NodeId) :
    MeetsCalmly P (.user name) node (fun reached => up → reached.reachable = true)
      (fun res _ => res = some none ∨ res = none ∧ ¬up) hist (checkUserLocked asked name) w := by
  refine meets_inquire fun later relied here => ?_
  rcases readConfig_cases later with c | ⟨failed, down⟩
  · rw [c]
    dsimp only
    split
    · exact .inl rfl
    · refine fun looking relied' _ => ⟨trivial, ?_⟩
      have looked := (released.calm relied).calm relied'
      rw [isUserLocked_of_released looked asked]
      refine meets_inquire fun timed relied _ => meets_inquire fun finding relied' here => ?_
      rcases findUserLockout_of_released ((looked.calm relied).calm relied') with
        notFound | ⟨failed, down⟩
      · rw [notFound]
        exact .inl rfl
      · rw [failed]
        exact .inr ⟨rfl, fun isUp => down (here isUp)⟩
  · rw [failed]
    exact .inr ⟨rfl, fun isUp => down (here isUp)⟩

theorem check_meets (released : subj.Released P w) (asked : NodeId) :
    MeetsCalmly P subj node (fun reached => up → reached.reachable = true)
      (fun ans _ => ans = subj.notFound ∨ ans = subj.failure ∧ ¬up) hist
      (subj.check asked).program w := by
  cases subj with
  | address ip =>
    refine Program.Meets.seq (checkIpBlocked_meets released asked) fun _ res _ nothing => ?_
    exact nothing.imp (congrArg Answer.ipBlock) (And.imp_left (congrArg Answer.ipBlock))
  | user name =>
    refine Program.Meets.seq (checkUserLocked_meets released asked) fun _ res _ nothing => ?_
    exact nothing.imp (congrArg Answer.userLock) (And.imp_left (congrArg Answer.userLock))

end Checks

end

/-- A release that succeeds is effective, on every node and in every interleaving: if the other
caches have no entry of the subject when it begins, and nothing disturbs it from then on, then every
check that begins after it has returned finds nothing. -/
theorem release_is_effective (primitives : Primitives) (world : World) (subject : Subject)
    (node asked : NodeId) (before moves more : List (Move Task)) (answer : Answer)
    (elsewhere : ∀ other, other ≠ node →
      subject.inCache primitives ((reach primitives world before).state.caches other) = false)
    (undisturbed : Config.Along (system primitives) (Config.Performing (system primitives)
        fun reached _ statement => subject.Undisturbed primitives node reached.state statement)
      (reach primitives world before)
      (.start (subject.release node) :: moves ++ .start (subject.check asked) :: more))
    (released : (reach primitives world
        (before ++ .start (subject.release node) :: moves)).threads[
          (reach primitives world before).threads.length]?.bind Thread.result =
      some (.completion (some ())))
    (checked : (reach primitives world (before ++ .start (subject.release node) :: moves ++
        .start (subject.check asked) :: more)).threads[
          (reach primitives world (before ++ .start (subject.release node) ::
            moves)).threads.length]?.bind Thread.result = some answer) :
    answer = subject.notFound ∨
      answer = subject.failure ∧
        ¬Config.Along (system primitives) (fun reached _ => reached.state.reachable = true)
          (reach primitives world (before ++ .start (subject.release node) :: moves))
          (.start (subject.check asked) :: more) := by
  rw [along_append] at undisturbed
  obtain ⟨during, afterwards⟩ := undisturbed
  have others : ∀ (reached : State) (m : Move Task) (t : Task) (statement : Statement),
      Config.Performing (system primitives) (fun reached _ statement =>
        subject.Undisturbed primitives node reached.state statement) reached m →
      reached.performed (system primitives) m = some (t, statement) →
      Calm primitives subject node reached.state
        ((system primitives).execute statement reached.state).2 := fun _ _ _ _ ok perf =>
    calm_execute (Config.Performing.admits _ ok perf)
  have split : reach primitives world (before ++ .start (subject.release node) :: moves) =
      (reach primitives world before).run (system primitives)
        (.start (subject.release node) :: moves) := run_append _ _ _ _
  have begun : subject.Released primitives
      (reach primitives world (before ++ .start (subject.release node) :: moves)).state := by
    have meets : MeetsCalmly primitives subject node (fun _ => True)
        (fun answer reached => answer = .completion (some ()) →
          subject.Released primitives reached) [] (subject.release node).program
        (reach primitives world before).state := release_meets elsewhere
    rw [split] at released ⊢
    obtain ⟨-, -, cleared⟩ := run_ensures Calm.refl Calm.trans
      (fun _ _ _ _ calm released completed => (released completed).calm calm)
      (reach primitives world before) (subject.release node) moves _
      (fun reached m t statement ok _ => others reached m t statement ok)
      (fun _ _ _ _ _ => trivial) during.2 meets released
    exact cleared rfl
  rw [← split] at afterwards
  rw [reach, run_append] at checked
  generalize isUp : Config.Along (system primitives)
    (fun reached _ => reached.state.reachable = true)
    (reach primitives world (before ++ .start (subject.release node) :: moves))
    (.start (subject.check asked) :: more) = up
  have along : Config.Along (system primitives)
      (fun reached m => Config.Performing (system primitives) (fun reached _ statement =>
        subject.Undisturbed primitives node reached.state statement) reached m ∧
          (up → reached.state.reachable = true))
      (reach primitives world (before ++ .start (subject.release node) :: moves))
      (.start (subject.check asked) :: more) := by
    refine along_and _ afterwards ?_
    by_cases holds : up
    · grind
    · exact along_of_forall _ (fun _ _ isUp => absurd isUp holds) _ _
  obtain ⟨-, -, nothing⟩ := run_ensures Calm.refl Calm.trans (fun _ _ _ _ _ nothing => nothing)
    (reach primitives world (before ++ .start (subject.release node) :: moves))
    (subject.check asked) more _
    (fun reached m t statement ok _ => others reached m t statement ok.1)
    (fun _ _ _ ok _ => ok.2) along.2 (check_meets begun asked) checked
  exact nothing

def lastingWorld : World :=
  { quietWorld with
    config := { strictConfig with
      userLockout := { strictConfig.userLockout with autoUnlock := false } } }

def aliceLocked : UserLockout where
  username := "alice"
  lockedAt := 0
  expiresAt := none
  reason := "Exceeded 1 failed login attempts"
  failedAttemptCount := 1

def lockedWorld : World :=
  { lastingWorld with
    userLockouts := ⟨[aliceLocked], by decide⟩
    caches := Function.update (fun _ => .new) 0
      (Cache.new.lockUser plainPrimitives "alice" aliceLocked.info) }

def unlockThenCheck : List (Move Task) :=
  .start ((Subject.user "alice").release 0) :: [.advance 0, .advance 0, .advance 0] ++
    .start ((Subject.user "alice").check 1) :: [.advance 1, .advance 1, .advance 1, .advance 1]

theorem release_is_effective_elsewhere :
    (reach plainPrimitives lockedWorld ([] ++ unlockThenCheck)).threads[1]?.bind Thread.result =
        some (.userLock (some none)) ∧
      Answer.userLock (some none) = (Subject.user "alice").notFound := by
  have checked : (reach plainPrimitives lockedWorld ([] ++ unlockThenCheck)).threads[1]?.bind
      Thread.result = some (.userLock (some none)) := by
    decide +kernel
  have elsewhere : ∀ other, other ≠ 0 → (Subject.user "alice").inCache plainPrimitives
      ((reach plainPrimitives lockedWorld []).state.caches other) = false := by
    intro other ne
    have empty : lockedWorld.caches other = .new := by
      simp only [lockedWorld, update_of_ne ne]
    show (Subject.user "alice").inCache plainPrimitives (lockedWorld.caches other) = false
    rw [empty]
    rfl
  refine ⟨checked, ?_⟩
  rcases release_is_effective plainPrimitives lockedWorld (.user "alice") 0 1 []
      [.advance 0, .advance 0, .advance 0] [.advance 1, .advance 1, .advance 1, .advance 1]
      (.userLock (some none)) elsewhere (by decide +kernel) (by decide +kernel) checked with
    notFound | ⟨failed, -⟩
  · exact notFound
  · cases failed

def lockedOn (node : NodeId) : List (Move Task) :=
  [.start (.recordFailedAttempt node aliceFails), .advance 0, .advance 0, .advance 0]

def staleFill : List (Move Task) :=
  lockedOn 1 ++
    [.start (.checkUserLocked 0 "alice"), .advance 1, .advance 1, .advance 1, .advance 1,
      .start (.unlockUser 0 "alice"), .advance 2, .advance 2, .advance 2,
      .advance 1, .advance 1, .advance 1]

theorem unlocked_user_is_still_locked :
    (((lastingWorld.after plainPrimitives [.recordFailedAttempt 1 aliceFails]).call plainPrimitives
        (unlockUser 0 "alice")).1 = some () ∧
      (((lastingWorld.after plainPrimitives [.recordFailedAttempt 1 aliceFails]).call
        plainPrimitives (unlockUser 0 "alice")).2.call plainPrimitives
          (checkUserLocked 1 "alice")).1.map Option.isSome = some true) ∧
    ((reach plainPrimitives lastingWorld staleFill).threads[2]?.bind Thread.result =
        some (.completion (some ())) ∧
      ((reach plainPrimitives lastingWorld staleFill).threads.all
        fun thread => thread.result.isSome) = true ∧
      ((reach plainPrimitives lastingWorld staleFill).state.call plainPrimitives
        (checkUserLocked 0 "alice")).1.map Option.isSome = some true) := by
  decide +kernel

end Warpgate.LoginProtection
