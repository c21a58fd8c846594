/-
This file models who may reach which target.
-/

import Warpgate.Auth.State

namespace Warpgate.Access

open Sql.Table

open Auth (AuthStateUserInfo Primitives)

/-! ### Who may reach what -/

structure Target where
  id : Uuid
  name : String
  protocol : Protocol
  isPublic : Bool
  requireApproval : Bool
  deriving DecidableEq, Repr

def Target.isShared (target : Target) : Bool :=
  !target.requireApproval && target.protocol = .http && target.isPublic

structure UserRoleAssignment where
  userId : Uuid
  roleId : Uuid
  expiresAt : Option OffsetDateTime
  revokedAt : Option OffsetDateTime
  deriving DecidableEq, Repr

def UserRoleAssignment.key (assignment : UserRoleAssignment) : Uuid × Uuid :=
  (assignment.userId, assignment.roleId)

def UserRoleAssignment.active (now : OffsetDateTime) (assignment : UserRoleAssignment) : Bool :=
  assignment.revokedAt.isNone && assignment.expiresAt.all (now < ·)

structure TargetRoleAssignment where
  targetId : Uuid
  roleId : Uuid
  deriving DecidableEq, Repr

structure Directory where
  users : Sql.Table AuthStateUserInfo AuthStateUserInfo.id
  targets : Sql.Table Target Target.id
  userRoles : Sql.Table UserRoleAssignment UserRoleAssignment.key
  targetRoles : List TargetRoleAssignment

namespace Directory

variable (directory : Directory)

def links (userId targetId : Uuid) (assignment : UserRoleAssignment) : Bool :=
  assignment.userId = userId &&
    directory.targetRoles.any fun link =>
      link.targetId = targetId && link.roleId = assignment.roleId

def findUserByName (primitives : Primitives) (username : String) : Option AuthStateUserInfo :=
  directory.users.rows.find? fun user =>
    primitives.toLowercase user.username = primitives.toLowercase username

def authorizes (userId targetId : Uuid) (now : OffsetDateTime) : Bool :=
  directory.userRoles.rows.any fun assignment =>
    assignment.active now && directory.links userId targetId assignment

def shares (targetId : Uuid) : Bool :=
  (directory.targets.find? targetId).any Target.isShared

theorem authorizes_eq_true_iff (dir : Directory) (uid tgt : Uuid) (now : OffsetDateTime) :
    dir.authorizes uid tgt now = true ↔
      ∃ assignment ∈ dir.userRoles.rows, assignment.active now = true ∧
        dir.links uid tgt assignment = true := by
  simp [authorizes]

end Directory

variable {prev later : OffsetDateTime} {dir : Directory} {uid tgt : Uuid} {now : OffsetDateTime}

theorem UserRoleAssignment.active_of_le {assignment : UserRoleAssignment}
    (ord : prev ≤ later) (active : assignment.active later = true) :
    assignment.active prev = true := by
  simp only [UserRoleAssignment.active, Bool.and_eq_true, Option.all_eq_true,
    decide_eq_true_eq] at active ⊢
  exact ⟨active.1, fun expiry exp => Int.lt_of_le_of_lt ord (active.2 expiry exp)⟩

theorem Directory.authorizes_of_le (ord : prev ≤ later) (up : dir.authorizes uid tgt later = true) :
    dir.authorizes uid tgt prev = true := by
  grind [authorizes_eq_true_iff, UserRoleAssignment.active_of_le]

/-! ### Changes -/

inductive Change
  | writeTarget (target : Target)
  | removeTarget (targetId : Uuid)
  | writeUserRole (assignment : UserRoleAssignment)
  | removeUserRole (userId roleId : Uuid)
  | addTargetRole (link : TargetRoleAssignment)
  | removeTargetRole (link : TargetRoleAssignment)
  | writeUser (user : AuthStateUserInfo)
  deriving DecidableEq

def Change.apply : Change → Directory → Directory
  | writeTarget target, directory =>
    { directory with targets := directory.targets.upsert target }
  | removeTarget targetId, directory =>
    { directory with targets := directory.targets.delete fun target => target.id = targetId }
  | writeUserRole assignment, directory =>
    { directory with userRoles := directory.userRoles.upsert assignment }
  | removeUserRole userId roleId, directory =>
    { directory with
      userRoles := directory.userRoles.delete fun row => row.key = (userId, roleId) }
  | addTargetRole link, directory =>
    { directory with targetRoles := directory.targetRoles ++ [link] }
  | removeTargetRole link, directory =>
    { directory with targetRoles := directory.targetRoles.filter (· ≠ link) }
  | writeUser user, directory => { directory with users := directory.users.upsert user }

def Directory.withoutUser (directory : Directory) (userId : Uuid) : Directory :=
  { directory with
    users := directory.users.delete fun user => user.id = userId
    userRoles := directory.userRoles.delete fun assignment => assignment.userId = userId }

def Change.grants (directory : Directory) : Change → Bool
  | writeUserRole assignment =>
    assignment.revokedAt.isNone &&
      (directory.userRoles.find? assignment.key).all fun old =>
        assignment.expiresAt.all fun expiry => old.expiresAt.any (· ≤ expiry)
  | writeTarget _ | addTargetRole _ | writeUser _ => true
  | removeTarget _ | removeUserRole _ _ | removeTargetRole _ => false

theorem UserRoleAssignment.active_of_extended {old new : UserRoleAssignment}
    (unrevoked : new.revokedAt.isNone = true)
    (extended : new.expiresAt.all (fun expiry => old.expiresAt.any (· ≤ expiry)) = true)
    (active : old.active now = true) : new.active now = true := by
  simp only [UserRoleAssignment.active, Bool.and_eq_true, Option.all_eq_true,
    decide_eq_true_eq, unrevoked, true_and] at active ⊢
  intro expiry exp
  rw [exp] at extended
  obtain ⟨pre, was, ord⟩ := (Option.any_eq_true _ _).mp extended
  exact Int.lt_of_lt_of_le (active.2 pre was) (of_decide_eq_true ord)

theorem Directory.authorizes_grants {write : Change} (grants : write.grants dir = true)
    (up : dir.authorizes uid tgt now = true) : (write.apply dir).authorizes uid tgt now = true := by
  cases write with
  | writeTarget target | writeUser user => exact up
  | addTargetRole link => grind [links, Change.apply, authorizes_eq_true_iff]
  | writeUserRole new =>
    rw [authorizes_eq_true_iff] at up ⊢
    obtain ⟨old, stored, active, linked⟩ := up
    rw [Change.grants, Bool.and_eq_true] at grants
    by_cases same : new.key = old.key
    · have found := same ▸ find?_of_mem stored
      have extended := grants.2
      rw [found, Option.all_some] at extended
      have replaced : (dir.userRoles.upsert new).find? new.key = some new := by
        rw [find?_upsert, if_pos rfl]
      obtain ⟨sameUser, sameRole⟩ := Prod.mk.inj same
      refine ⟨new, mem_of_find? replaced,
        UserRoleAssignment.active_of_extended grants.1 extended active, ?_⟩
      simpa only [links, Change.apply, sameUser, sameRole] using linked
    · have kept : (dir.userRoles.upsert new).find? old.key = some old := by
        rw [find?_upsert, if_neg same, find?_of_mem stored]
      exact ⟨old, mem_of_find? kept, active, linked⟩
  | removeTarget tgt | removeUserRole uid roleId | removeTargetRole link => cases grants

structure TargetAuthorization where
  userInfo : AuthStateUserInfo
  target : Target
  protocol : Protocol
  ticketId : Option Uuid
  deriving DecidableEq, Repr

structure ApprovedTarget where
  authorization : TargetAuthorization
  deriving DecidableEq, Repr

structure AdmittedTarget where
  id : TargetSessionId
  approved : ApprovedTarget
  deriving DecidableEq, Repr

end Warpgate.Access
