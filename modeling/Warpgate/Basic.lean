/-
This file holds the identifiers and enumerations the whole development shares.
-/

import Mathlib.Tactic.Common

namespace Warpgate

abbrev Uuid := BitVec 128
abbrev UserSessionId := Uuid
abbrev TargetSessionId := Uuid
abbrev NodeId := Uuid

instance Uuid.lawfulBEq : LawfulBEq Uuid := inferInstance

abbrev OffsetDateTime := Int

abbrev Duration := Nat

inductive Protocol
  | http
  | ssh
  | mySql
  | postgres
  | kubernetes
  | vnc
  | rdp
  deriving DecidableEq, Repr

def Protocol.name : Protocol → String
  | .http => "HTTP"
  | .ssh => "SSH"
  | .mySql => "MySQL"
  | .postgres => "PostgreSQL"
  | .kubernetes => "Kubernetes"
  | .vnc => "VNC"
  | .rdp => "RDP"

def MAX_TERMINAL_COLS : Nat := 1024

def MAX_TERMINAL_ROWS : Nat := 512

def saneTerminalSize (cols rows : Nat) : Nat × Nat :=
  (if cols < 2 then 80 else if MAX_TERMINAL_COLS < cols then MAX_TERMINAL_COLS else cols,
    if rows < 2 then 24 else if MAX_TERMINAL_ROWS < rows then MAX_TERMINAL_ROWS else rows)

inductive ApprovalKind
  | user
  | admin
  deriving DecidableEq, Repr

inductive ApprovalScope
  | once
  | target
  | allTargets
  deriving DecidableEq, Repr

end Warpgate
