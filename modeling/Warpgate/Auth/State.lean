/-
This file models `AuthState`, one login attempt, and the helpers of step-up authentication.
-/

import Mathlib.Data.Finset.Image
import Warpgate.Approvals.System

namespace Warpgate.Auth

open List

open Approvals (ApprovalDecision)

section

/-! ### One attempt to log in -/

structure AuthStateUserInfo where
  id : Uuid
  username : String
  deriving DecidableEq, Repr

inductive AuthResult
  | accepted (userInfo : AuthStateUserInfo)
  | need (kinds : Finset CredentialKind)
  | rejected
  deriving DecidableEq

structure AuthState where
  sessionId : UserSessionId
  userInfo : AuthStateUserInfo
  remoteIp : Option IpAddr
  protocol : Protocol
  targetName : String
  forceRejected : Bool
  policy : CredentialPolicy
  validCredentials : List ValidCredential
  started : OffsetDateTime
  identificationString : String
  lastResult : Option AuthResult
  stateChangeSignal : List AuthResult
  pendingStepUp : Bool
  webApprovalFromGraceBypass : Bool

namespace AuthState

def validCredentialKinds (state : AuthState) : Finset CredentialKind :=
  (state.validCredentials.map ValidCredential.kind).toFinset

def hasRealWebApproval (state : AuthState) : Bool :=
  !state.webApprovalFromGraceBypass && .webUserApproval ∈ state.validCredentials

def currentVerificationState (state : AuthState) : AuthResult :=
  if state.forceRejected then .rejected
  else if state.pendingStepUp && !state.hasRealWebApproval then .need {.webUserApproval}
  else
    match state.policy.isSufficient state.protocol state.validCredentialKinds with
    | .ok => .accepted state.userInfo
    | .need kinds => .need kinds

def verify (state : AuthState) : AuthResult := state.currentVerificationState

def maybeUpdateVerificationState (state : AuthState) : AuthState :=
  if state.lastResult = some state.currentVerificationState then state
  else
    { state with
      stateChangeSignal := state.stateChangeSignal ++ [state.currentVerificationState]
      lastResult := some state.currentVerificationState }

def new (sessionId : UserSessionId) (remoteIp : Option IpAddr) (userInfo : AuthStateUserInfo)
    (protocol : Protocol) (targetName : String) (policy : CredentialPolicy)
    (started : OffsetDateTime) (identificationString : String) : AuthState :=
  maybeUpdateVerificationState
    { sessionId := sessionId
      userInfo := userInfo
      remoteIp := remoteIp
      protocol := protocol
      targetName := targetName
      forceRejected := false
      policy := policy
      validCredentials := []
      started := started
      identificationString := identificationString
      lastResult := none
      stateChangeSignal := []
      pendingStepUp := false
      webApprovalFromGraceBypass := false }

def rememberedBy (state : AuthState) : RememberApprovalBy :=
  .fromCredentials (state.validCredentials.filterMap ValidCredential.stored?)

def webApprovalMatchKey (primitives : Primitives) (state : AuthState) :
    Option WebApprovalMatchKey :=
  state.remoteIp.bind fun ip =>
    WebApprovalMatchKey.build primitives .user ip state.protocol state.userInfo.username
      state.targetName state.rememberedBy

def requireStepUp (state : AuthState) : AuthState :=
  if state.pendingStepUp then state
  else maybeUpdateVerificationState { state with pendingStepUp := true }

inductive SubmitOutcome
  | valid (result : AuthResult)
  | invalid (result : AuthResult)

def submitCredential {Error : Type} (state : AuthState)
    (validated : Except Error (Option StoredCredential)) :
    Except Error SubmitOutcome × AuthState :=
  match validated with
  | .error error => (.error error, state)
  | .ok none => (.ok (.invalid state.currentVerificationState), state)
  | .ok (some stored) =>
    let recorded := maybeUpdateVerificationState
      { state with validCredentials := state.validCredentials ++ [.stored stored] }
    (.ok (.valid recorded.currentVerificationState), recorded)

def addWebUserApproval (state : AuthState) : AuthState :=
  maybeUpdateVerificationState
    { state with
      pendingStepUp := false
      webApprovalFromGraceBypass := false
      validCredentials := state.validCredentials ++ [.webUserApproval] }

def addWebUserApprovalViaGraceBypass (state : AuthState) : AuthState :=
  maybeUpdateVerificationState
    { state with
      webApprovalFromGraceBypass := true
      validCredentials := state.validCredentials ++ [.webUserApproval] }

def reject (state : AuthState) : AuthState :=
  maybeUpdateVerificationState { state with forceRejected := true }

def needsWebApproval (state : AuthState) : Bool :=
  match state.verify with
  | .need kinds => .webUserApproval ∈ kinds
  | _ => false

open AuthState

theorem needsWebApproval_iff (s : AuthState) :
    s.needsWebApproval = true ↔ ∃ ks, s.verify = .need ks ∧ .webUserApproval ∈ ks := by
  unfold needsWebApproval
  cases s.verify with
  | need ks | accepted info | rejected => simp

end AuthState

inductive Call
  | submitCredential (validated : Except Unit (Option StoredCredential))
  | commitBypass
  | deliver (target : String) (userId : Uuid) (decision : ApprovalDecision)
  | requireStepUp
  | reject

inductive Effect
  | recorded (credential : StoredCredential)
  | bypassed
  | delivered
  | stepUpRequired
  | rejected
  deriving DecidableEq

namespace AuthState

def handle (state : AuthState) : Call → Option Effect × AuthState
  | .submitCredential validated =>
    (match validated with
      | .ok (some stored) => some (.recorded stored)
      | _ => none, (state.submitCredential validated).2)
  | .commitBypass =>
    if state.pendingStepUp then (none, state)
    else if !state.needsWebApproval then (none, state)
    else (some .bypassed, state.addWebUserApprovalViaGraceBypass)
  | .deliver target userId decision =>
    if target ≠ state.targetName ∨ userId ≠ state.userInfo.id then (none, state)
    else if !state.needsWebApproval then (none, state)
    else
      match decision with
      | .approved _ => (some .delivered, state.addWebUserApproval)
      | .rejected => (some .rejected, state.reject)
  | .requireStepUp => (some .stepUpRequired, state.requireStepUp)
  | .reject => (some .rejected, state.reject)

def run (state : AuthState) (calls : List Call) : List Effect × AuthState :=
  calls.foldl
    (fun soFar call =>
      (soFar.1 ++ (soFar.2.handle call).1.toList, (soFar.2.handle call).2))
    ([], state)

theorem maybeUpdateVerificationState_eq (s : AuthState) :
    ∃ lastResult stateChangeSignal, s.maybeUpdateVerificationState =
      { s with lastResult := lastResult, stateChangeSignal := stateChangeSignal } := by
  unfold maybeUpdateVerificationState
  split
  · exact ⟨s.lastResult, s.stateChangeSignal, rfl⟩
  · exact ⟨_, _, rfl⟩

/-! ### What a call leaves as it was -/

section

variable (state s : AuthState)

@[simp] theorem forceRejected_maybeUpdate :
    s.maybeUpdateVerificationState.forceRejected = s.forceRejected := by
  obtain ⟨_, _, same⟩ := s.maybeUpdateVerificationState_eq
  rw [same]

@[simp] theorem validCredentials_maybeUpdate :
    s.maybeUpdateVerificationState.validCredentials = s.validCredentials := by
  obtain ⟨_, _, same⟩ := s.maybeUpdateVerificationState_eq
  rw [same]

@[simp] theorem pendingStepUp_maybeUpdate :
    s.maybeUpdateVerificationState.pendingStepUp = s.pendingStepUp := by
  obtain ⟨_, _, same⟩ := s.maybeUpdateVerificationState_eq
  rw [same]

@[simp] theorem webApprovalFromGraceBypass_maybeUpdate :
    s.maybeUpdateVerificationState.webApprovalFromGraceBypass = s.webApprovalFromGraceBypass := by
  obtain ⟨_, _, same⟩ := s.maybeUpdateVerificationState_eq
  rw [same]

@[simp] theorem currentVerificationState_maybeUpdate :
    s.maybeUpdateVerificationState.currentVerificationState = s.currentVerificationState := by
  obtain ⟨_, _, same⟩ := s.maybeUpdateVerificationState_eq
  rw [same]
  rfl

def about (state : AuthState) :
    UserSessionId × AuthStateUserInfo × Option IpAddr × Protocol × String × CredentialPolicy ×
      OffsetDateTime × String :=
  (state.sessionId, state.userInfo, state.remoteIp, state.protocol, state.targetName,
    state.policy, state.started, state.identificationString)

@[simp] theorem about_maybeUpdate : s.maybeUpdateVerificationState.about = s.about := by
  obtain ⟨_, _, same⟩ := s.maybeUpdateVerificationState_eq
  rw [same]
  rfl

theorem userInfo_of_about {first second : AuthState} (same : first.about = second.about) :
    first.userInfo = second.userInfo :=
  congrArg (·.2.1) same

theorem about_new (sid : UserSessionId) (remoteIp : Option IpAddr)
    (info : AuthStateUserInfo) (protocol : Protocol) (tname : String)
    (policy : CredentialPolicy) (started : OffsetDateTime) (ident : String) :
    (new sid remoteIp info protocol tname policy started ident).about =
      (sid, info, remoteIp, protocol, tname, policy, started, ident) :=
  about_maybeUpdate _

end

theorem handle_cases (s : AuthState) (call : Call) :
    s.handle call = (none, s) ∨
      (∃ stored, s.handle call = (some (.recorded stored), maybeUpdateVerificationState
        { s with validCredentials := s.validCredentials ++ [.stored stored] })) ∨
      (s.pendingStepUp = false ∧ s.needsWebApproval = true ∧
        s.handle call = (some .bypassed, s.addWebUserApprovalViaGraceBypass)) ∨
      (s.needsWebApproval = true ∧ s.handle call = (some .delivered, s.addWebUserApproval)) ∨
      s.handle call = (some .stepUpRequired, s.requireStepUp) ∨
      s.handle call = (some .rejected, s.reject) := by
  cases call with
  | submitCredential validated =>
    rcases validated with error | stored
    · exact .inl rfl
    · cases stored with
      | none => exact .inl rfl
      | some stored => exact .inr (.inl ⟨stored, rfl⟩)
  | commitBypass =>
    by_cases pending : s.pendingStepUp = true
    · exact .inl (by simp [handle, pending])
    · by_cases needs : s.needsWebApproval = true
      · exact .inr (.inr (.inl ⟨by simpa using pending, needs, by
          simp [handle, pending, needs]⟩))
      · exact .inl (by simp [handle, pending, needs])
  | deliver target uid dec =>
    by_cases other : target ≠ s.targetName ∨ uid ≠ s.userInfo.id
    · exact .inl (by simp only [handle, if_pos other])
    · by_cases needs : s.needsWebApproval = true
      · cases dec with
        | approved scope =>
          exact .inr (.inr (.inr (.inl ⟨needs, by
            simp only [handle, if_neg other, needs]; rfl⟩)))
        | rejected =>
          exact .inr (.inr (.inr (.inr (.inr (by
            simp only [handle, if_neg other, needs]; rfl)))))
      · exact .inl (by simp [handle, needs])
  | requireStepUp => exact .inr (.inr (.inr (.inr (.inl rfl))))
  | reject => exact .inr (.inr (.inr (.inr (.inr rfl))))

theorem handle_eq_maybeUpdate (s : AuthState) (call : Call) :
    (s.handle call).2 = s ∨
      ∃ changed : AuthState, (s.handle call).2 = changed.maybeUpdateVerificationState ∧
        changed.about = s.about ∧ changed.stateChangeSignal = s.stateChangeSignal ∧
        changed.lastResult = s.lastResult := by
  rcases s.handle_cases call with
    same | ⟨stored, same⟩ | ⟨-, -, same⟩ | ⟨-, same⟩ | same | same <;> rw [same]
  · exact .inl rfl
  · exact .inr ⟨_, rfl, rfl, rfl, rfl⟩
  · exact .inr ⟨_, rfl, rfl, rfl, rfl⟩
  · exact .inr ⟨_, rfl, rfl, rfl, rfl⟩
  · rw [requireStepUp]
    split
    · exact .inl rfl
    · exact .inr ⟨_, rfl, rfl, rfl, rfl⟩
  · exact .inr ⟨_, rfl, rfl, rfl, rfl⟩

theorem about_handle (s : AuthState) (call : Call) : (s.handle call).2.about = s.about := by
  rcases s.handle_eq_maybeUpdate call with same | ⟨changed, same, sameAbout, -⟩
  · rw [same]
  · rw [same, about_maybeUpdate, sameAbout]

end AuthState

variable {first second : AuthState} {state s : AuthState} {effect : Effect} {effects : List Effect}
  (P : Primitives) (sid : UserSessionId) (remoteIp : Option IpAddr) (info : AuthStateUserInfo)
  (protocol : Protocol) (tname : String) (policy : CredentialPolicy) (started : OffsetDateTime)
  (ident : String)

theorem AuthState.webApprovalMatchKey_congr (sameAbout : first.about = second.about)
    (sameStored : first.validCredentials.filterMap ValidCredential.stored? =
      second.validCredentials.filterMap ValidCredential.stored?) :
    first.webApprovalMatchKey P = second.webApprovalMatchKey P := by
  grind [about, webApprovalMatchKey, rememberedBy]

theorem AuthState.webApprovalMatchKey_facts {P : Primitives} {k : WebApprovalMatchKey}
    (hasKey : s.webApprovalMatchKey P = some k) :
    k.identity.kind = .user ∧ k.askedTarget = s.targetName := by
  obtain ⟨ip, -, built⟩ := Option.bind_eq_some_iff.mp hasKey
  refine ⟨?_, WebApprovalMatchKey.askedTarget_of_build built⟩
  obtain ⟨otherCredentials, -, rfl⟩ := Option.map_eq_some_iff.mp built
  rfl

theorem AuthState.webApprovalMatchKey_handle (s : AuthState) {call : Call}
    (unsubmitted : ∀ validated, call ≠ .submitCredential validated) :
    (s.handle call).2.webApprovalMatchKey P = s.webApprovalMatchKey P := by
  refine webApprovalMatchKey_congr P (s.about_handle call) ?_
  have approved : ∀ credentials : List ValidCredential,
      (credentials ++ [ValidCredential.webUserApproval]).filterMap ValidCredential.stored? =
        credentials.filterMap ValidCredential.stored? := by
    intro credentials
    rw [filterMap_append]
    exact append_nil _
  cases call with
  | submitCredential validated => exact absurd rfl (unsubmitted validated)
  | commitBypass =>
    simp only [handle]
    split
    · rfl
    · split
      · rfl
      · rw [addWebUserApprovalViaGraceBypass, validCredentials_maybeUpdate, approved]
  | deliver target uid dec =>
    simp only [handle]
    split
    · rfl
    · split
      · rfl
      · cases dec with
        | approved scope => rw [addWebUserApproval, validCredentials_maybeUpdate, approved]
        | rejected => simp [reject]
  | requireStepUp =>
    simp only [handle, requireStepUp]
    split <;> simp
  | reject => simp [handle, reject]

structure AuthState.Announced (state : AuthState) : Prop where
  lastSent : state.stateChangeSignal.getLast? = state.lastResult
  current : state.lastResult = some state.verify

theorem AuthState.announced_maybeUpdate (lastSent : s.stateChangeSignal.getLast? = s.lastResult) :
    s.maybeUpdateVerificationState.Announced := by
  unfold maybeUpdateVerificationState
  split
  · next cur => exact ⟨lastSent, cur⟩
  · exact ⟨getLast?_concat, rfl⟩

theorem AuthState.announced_new :
    (new sid remoteIp info protocol tname policy started ident).Announced :=
  announced_maybeUpdate rfl

theorem AuthState.Announced.signals_pos (announced : s.Announced) :
    0 < s.stateChangeSignal.length := by
  refine length_pos_iff.mpr fun none => ?_
  have last := announced.lastSent.trans announced.current
  rw [none] at last
  cases last

theorem AuthState.signals_maybeUpdate (s : AuthState) :
    s.stateChangeSignal <+: s.maybeUpdateVerificationState.stateChangeSignal := by
  unfold maybeUpdateVerificationState
  split
  · exact prefix_rfl
  · exact prefix_append _ _

theorem AuthState.Announced.handle (announced : s.Announced) (call : Call) :
    (s.handle call).2.Announced := by
  rcases s.handle_eq_maybeUpdate call with same | ⟨changed, same, -, sameSignals, sameLast⟩
  · rw [same]
    exact announced
  · rw [same]
    exact announced_maybeUpdate (by rw [sameSignals, sameLast, announced.lastSent])

theorem AuthState.signals_handle (s : AuthState) (call : Call) :
    s.stateChangeSignal <+: (s.handle call).2.stateChangeSignal := by
  rcases s.handle_eq_maybeUpdate call with same | ⟨changed, same, -, sameSignals, -⟩
  · rw [same]
  · rw [same, ← sameSignals]
    exact changed.signals_maybeUpdate

theorem AuthState.verify_eq_of_signals (firstAnnounced : first.Announced)
    (secondAnnounced : second.Announced)
    (same : first.stateChangeSignal = second.stateChangeSignal) : first.verify = second.verify := by
  have lastOfFirst := firstAnnounced.lastSent.trans firstAnnounced.current
  have lastOfSecond := secondAnnounced.lastSent.trans secondAnnounced.current
  rw [same, lastOfSecond, Option.some.injEq] at lastOfFirst
  exact lastOfFirst.symm

theorem AuthState.needsWebApproval_of_approved (unpending : s.pendingStepUp = false)
    (approved : .webUserApproval ∈ s.validCredentials) : s.needsWebApproval = false := by
  have presented : CredentialKind.webUserApproval ∈ s.validCredentialKinds :=
    mem_toFinset.mpr (mem_map_of_mem approved)
  unfold needsWebApproval verify currentVerificationState
  rw [unpending]
  by_cases rejected : s.forceRejected = true
  · simp [rejected]
  · cases response : s.policy.isSufficient s.protocol s.validCredentialKinds with
    | ok => simp [rejected]
    | need ks => simpa [rejected] using CredentialPolicy.not_mem_of_need presented _ response

theorem AuthState.needsWebApproval_of_bypassed
    (bypassed : (s.handle .commitBypass).1 = some effect) :
    s.needsWebApproval = true ∧ (s.handle .commitBypass).2.needsWebApproval = false := by
  by_cases pending : s.pendingStepUp = true
  · simp [handle, pending] at bypassed
  · by_cases needs : s.needsWebApproval = true
    · have added : (s.handle .commitBypass).2 = s.addWebUserApprovalViaGraceBypass := by
        simp [handle, pending, needs]
      rw [added]
      refine ⟨needs, needsWebApproval_of_approved ?_ ?_⟩
      · rw [addWebUserApprovalViaGraceBypass, pendingStepUp_maybeUpdate]
        simpa using pending
      · rw [addWebUserApprovalViaGraceBypass, validCredentials_maybeUpdate]
        exact mem_append_right _ (.head _)
    · simp [handle, pending, needs] at bypassed

/-! ### What an attempt was accepted for -/

def Effect.kind? : Effect → Option CredentialKind
  | recorded credential => some credential.kind.kind
  | bypassed => some .webUserApproval
  | delivered => some .webUserApproval
  | stepUpRequired => none
  | rejected => none

def recordedKinds (effects : List Effect) : Finset CredentialKind :=
  (effects.filterMap Effect.kind?).toFinset

structure Reflects (state : AuthState) (effects : List Effect) : Prop where
  rejected : state.forceRejected = true ↔ .rejected ∈ effects
  kinds : state.validCredentialKinds = recordedKinds effects
  pending : .delivered ∉ effects → .stepUpRequired ∈ effects → state.pendingStepUp = true
  bypassed : .delivered ∉ effects → .webUserApproval ∈ state.validCredentials →
    state.webApprovalFromGraceBypass = true

open AuthState

theorem kinds_of_recorded {s recorded : AuthState} {cred : ValidCredential}
    (ks : s.validCredentialKinds = recordedKinds effects)
    (pushed : recorded.validCredentials = s.validCredentials ++ [cred])
    (sameKind : effect.kind? = some cred.kind) :
    recorded.validCredentialKinds = recordedKinds (effects ++ [effect]) := by
  rw [validCredentialKinds, pushed, map_append, toFinset_append,
    recordedKinds, filterMap_append, toFinset_append]
  refine congrArg₂ _ ks ?_
  simp [sameKind]

theorem kinds_of_unrecorded (unrecorded : effect.kind? = none) :
    recordedKinds (effects ++ [effect]) = recordedKinds effects := by
  rw [recordedKinds, filterMap_append, recordedKinds]
  simp [unrecorded]

namespace AuthState

theorem validCredentials_requireStepUp (s : AuthState) :
    s.requireStepUp.validCredentials = s.validCredentials := by
  unfold requireStepUp
  split <;> simp

theorem forceRejected_requireStepUp (s : AuthState) :
    s.requireStepUp.forceRejected = s.forceRejected := by
  unfold requireStepUp
  split <;> simp

theorem pendingStepUp_requireStepUp (s : AuthState) : s.requireStepUp.pendingStepUp = true := by
  unfold requireStepUp
  split
  · assumption
  · simp

theorem webApprovalFromGraceBypass_requireStepUp (s : AuthState) :
    s.requireStepUp.webApprovalFromGraceBypass = s.webApprovalFromGraceBypass := by
  unfold requireStepUp
  split <;> simp

end AuthState

theorem AuthState.validCredentials_handle (s : AuthState) (call : Call) :
    s.validCredentials <+: (s.handle call).2.validCredentials := by
  rcases s.handle_cases call with same | ⟨stored, same⟩ | ⟨-, -, same⟩ | ⟨-, same⟩ | same | same
  · rw [same]
  · rw [same, validCredentials_maybeUpdate]
    exact prefix_append _ _
  · rw [same, addWebUserApprovalViaGraceBypass, validCredentials_maybeUpdate]
    exact prefix_append _ _
  · rw [same, addWebUserApproval, validCredentials_maybeUpdate]
    exact prefix_append _ _
  · rw [same, validCredentials_requireStepUp]
  · rw [same, reject, validCredentials_maybeUpdate]

theorem Reflects.handle (reflects : Reflects s effects) (call : Call) :
    Reflects (s.handle call).2 (effects ++ (s.handle call).1.toList) := by
  obtain ⟨rejected, ks, pending, bypassed⟩ := reflects
  rcases s.handle_cases call with
    same | ⟨stored, same⟩ | ⟨-, -, same⟩ | ⟨-, same⟩ | same | same <;> rw [same]
  · simpa using ⟨rejected, ks, pending, bypassed⟩
  · refine ⟨by simpa using rejected, ?_, by simpa using pending, by simpa using bypassed⟩
    exact kinds_of_recorded ks (validCredentials_maybeUpdate _) rfl
  · refine ⟨?_, ?_, ?_, ?_⟩
    · simpa [addWebUserApprovalViaGraceBypass] using rejected
    · exact kinds_of_recorded ks (validCredentials_maybeUpdate _) rfl
    · simpa [addWebUserApprovalViaGraceBypass] using pending
    · simp [addWebUserApprovalViaGraceBypass]
  · refine ⟨?_, ?_, fun absent => absurd ?_ absent, fun absent => absurd ?_ absent⟩
    · simpa [addWebUserApproval] using rejected
    · exact kinds_of_recorded ks (validCredentials_maybeUpdate _) rfl
    · simp
    · simp
  · refine ⟨?_, ?_, fun _ _ => s.pendingStepUp_requireStepUp, ?_⟩
    · rw [forceRejected_requireStepUp]
      simpa using rejected
    · rw [Option.toList_some, kinds_of_unrecorded rfl, ← ks, validCredentialKinds,
        validCredentials_requireStepUp, validCredentialKinds]
    · rw [validCredentials_requireStepUp, webApprovalFromGraceBypass_requireStepUp]
      simpa using bypassed
  · refine ⟨by simp [reject], ?_, ?_, ?_⟩
    · rw [Option.toList_some, kinds_of_unrecorded rfl, ← ks]
      simp [validCredentialKinds, reject]
    · simpa [reject] using pending
    · simpa [reject] using bypassed

theorem Reflects.run (initially : Reflects s []) (calls : List Call) :
    Reflects (s.run calls).2 (s.run calls).1 := by
  refine foldlRecOn (motive := fun soFar : List Effect × AuthState =>
    Reflects soFar.2 soFar.1) calls _ initially fun soFar reflects call _ => ?_
  exact reflects.handle call

theorem reflects_new :
    Reflects (.new sid remoteIp info protocol tname policy started ident) [] := by
  refine ⟨?_, ?_, ?_, ?_⟩
  · simp [new]
  · simp [new, validCredentialKinds, recordedKinds]
  · simp
  · simp [new]

theorem AuthState.about_run (s : AuthState) (calls : List Call) :
    (s.run calls).2.about = s.about := by
  refine foldlRecOn (motive := fun soFar : List Effect × AuthState =>
    soFar.2.about = s.about) calls _ rfl fun soFar same call _ => ?_
  exact (about_handle soFar.2 call).trans same

theorem AuthState.verify_eq_accepted_iff (s : AuthState) (info : AuthStateUserInfo) :
    s.verify = .accepted info ↔ s.forceRejected = false ∧
        (s.pendingStepUp = true → s.hasRealWebApproval = true) ∧
        s.policy.isSufficient s.protocol s.validCredentialKinds = .ok ∧ s.userInfo = info := by
  unfold verify currentVerificationState
  cases s.forceRejected with
  | true => simp
  | false => grind

theorem AuthState.verify_eq_rejected_iff (s : AuthState) :
    s.verify = .rejected ↔ s.forceRejected = true := by
  unfold verify currentVerificationState
  cases s.forceRejected with
  | true => simp
  | false => grind

theorem Reflects.not_real (reflects : Reflects s effects) (undelivered : .delivered ∉ effects) :
    s.hasRealWebApproval = false := by
  by_cases present : .webUserApproval ∈ s.validCredentials
  · simp [hasRealWebApproval, reflects.bypassed undelivered present]
  · simp [hasRealWebApproval, present]

theorem Reflects.delivered_of_accepted {info : AuthStateUserInfo}
    (reflects : Reflects s effects) (accepted : s.verify = .accepted info)
    (required : .stepUpRequired ∈ effects) : .delivered ∈ effects := by
  by_contra undelivered
  obtain ⟨-, real, -, -⟩ := (s.verify_eq_accepted_iff info).mp accepted
  have isReal := real (reflects.pending undelivered required)
  rw [reflects.not_real undelivered] at isReal
  cases isReal

theorem AuthState.forceRejected_handle (s : AuthState) (call : Call)
    (rejected : s.forceRejected = true) : (s.handle call).2.forceRejected = true := by
  rcases s.handle_cases call with
    same | ⟨stored, same⟩ | ⟨-, -, same⟩ | ⟨-, same⟩ | same | same <;> rw [same]
  · exact rejected
  · simpa using rejected
  · simpa [addWebUserApprovalViaGraceBypass] using rejected
  · simpa [addWebUserApproval] using rejected
  · rw [forceRejected_requireStepUp]
    exact rejected
  · simp [reject]

theorem AuthState.run_append (s : AuthState) (first second : List Call) :
    (s.run (first ++ second)).2 = ((s.run first).2.run second).2 := by
  have later : ∀ soFar : List Effect × AuthState, (second.foldl (fun soFar call =>
        (soFar.1 ++ (soFar.2.handle call).1.toList, (soFar.2.handle call).2)) soFar).2 =
      (soFar.2.run second).2 := by
    intro soFar
    unfold run
    induction second using reverseRecOn with
    | nil => rfl
    | append_singleton calls call ih => grind
  rw [run, foldl_append]
  exact later _

theorem AuthState.forceRejected_run (s : AuthState) (calls : List Call)
    (rejected : s.forceRejected = true) : (s.run calls).2.forceRejected = true := by
  refine foldlRecOn (motive := fun soFar : List Effect × AuthState =>
    soFar.2.forceRejected = true) calls _ rejected fun soFar still call _ => ?_
  exact forceRejected_handle soFar.2 call still

/-- Over every run of an attempt: it is accepted only if it was never rejected, the policy is
satisfied by exactly the kinds recorded, and every step-up that was required while no delivered
approval was present is followed by one; a bypass does not stand in for it; and a rejected attempt
stays rejected. -/
theorem attempt_accepted_only_if (sessionId : UserSessionId) (remoteIp : Option IpAddr)
    (userInfo : AuthStateUserInfo) (protocol : Protocol) (targetName : String)
    (policy : CredentialPolicy) (started : OffsetDateTime) (identificationString : String)
    (calls : List Call) :
    let attempt := AuthState.new sessionId remoteIp userInfo protocol targetName policy started
      identificationString
    let effects := (attempt.run calls).1
    let state := (attempt.run calls).2
    (∀ accepted, state.verify = .accepted accepted → .rejected ∉ effects ∧
        policy.isSufficient protocol (recordedKinds effects) = .ok ∧
        ∀ pre post, effects = pre ++ .stepUpRequired :: post →
          .delivered ∉ pre → .delivered ∈ post) ∧
    (.stepUpRequired ∈ effects → .delivered ∉ effects →
      ∀ accepted, state.verify ≠ .accepted accepted) ∧
    (state.verify = .rejected → ∀ more, (attempt.run (calls ++ more)).2.verify = .rejected) := by
  intro attempt effects state
  have reflects : Reflects state effects :=
    (reflects_new sessionId remoteIp userInfo protocol targetName policy started
      identificationString).run calls
  have sameAbout := attempt.about_run calls
  refine ⟨?_, ?_, ?_⟩
  · intro accepted isAccepted
    obtain ⟨unrejected, -, sufficient, -⟩ := (state.verify_eq_accepted_iff accepted).mp isAccepted
    refine ⟨?_, ?_, ?_⟩
    · rw [← reflects.rejected, unrejected]
      exact Bool.false_ne_true
    · have samePolicy : state.policy = policy ∧ state.protocol = protocol := by
        rw [about_new] at sameAbout
        simp only [about, Prod.mk.injEq] at sameAbout
        exact ⟨sameAbout.2.2.2.2.2.1, sameAbout.2.2.2.1⟩
      rw [← samePolicy.1, ← samePolicy.2, ← reflects.kinds]
      exact sufficient
    · intro pre post split undelivered
      have delivered := reflects.delivered_of_accepted isAccepted (by rw [split]; simp)
      rw [split] at delivered
      rcases mem_append.mp delivered with early | late
      · exact absurd early undelivered
      · simpa using late
  · intro required undelivered accepted isAccepted
    exact undelivered (reflects.delivered_of_accepted isAccepted required)
  · grind [verify_eq_rejected_iff, run_append, forceRejected_run]

def AuthState.ofPassword : AuthState :=
  .new 1 none ⟨7, "alice"⟩ .ssh "db" (.anySingle {.password, .webUserApproval}) 10 "abcd"

def steppedUp : List Call :=
  [.submitCredential (.ok (some ⟨.password, 3, 0⟩)), .requireStepUp, .commitBypass,
    .deliver "db" 7 (.approved .once)]

theorem attempt_accepted_only_if_stepped_up :
    .rejected ∉ (AuthState.ofPassword.run steppedUp).1 ∧
      (∀ accepted, (AuthState.ofPassword.run (steppedUp.take 3)).2.verify ≠ .accepted accepted) ∧
      (AuthState.ofPassword.run ([.reject] ++ steppedUp)).2.verify = .rejected := by
  unfold ofPassword
  obtain ⟨accepted, -, -⟩ := attempt_accepted_only_if 1 none ⟨7, "alice"⟩ .ssh "db"
    (.anySingle {.password, .webUserApproval}) 10 "abcd" steppedUp
  obtain ⟨-, unapproved, -⟩ := attempt_accepted_only_if 1 none ⟨7, "alice"⟩ .ssh "db"
    (.anySingle {.password, .webUserApproval}) 10 "abcd" (steppedUp.take 3)
  obtain ⟨-, -, rejected⟩ := attempt_accepted_only_if 1 none ⟨7, "alice"⟩ .ssh "db"
    (.anySingle {.password, .webUserApproval}) 10 "abcd" [.reject]
  exact ⟨(accepted ⟨7, "alice"⟩ (by decide +kernel)).1,
    unapproved (by decide +kernel) (by decide +kernel), rejected (by decide +kernel) steppedUp⟩

/-! ### What is sent about an attempt -/

/-- No verdict twice in a row, and none after a rejection. -/
def EachChangeOnce (verdicts : List AuthResult) : Prop :=
  verdicts.IsChain (· ≠ ·) ∧ .rejected ∉ verdicts.dropLast

theorem EachChangeOnce.handle (once : EachChangeOnce s.stateChangeSignal)
    (announced : s.Announced) (call : Call) :
    EachChangeOnce (s.handle call).2.stateChangeSignal := by
  rcases s.handle_eq_maybeUpdate call with same | ⟨changed, same, -, sameSignals, sameLast⟩
  · rwa [same]
  have still := s.forceRejected_handle call
  rw [same, forceRejected_maybeUpdate] at still
  rw [same, maybeUpdateVerificationState]
  split
  · rwa [sameSignals]
  · next news =>
    rw [sameLast, ← announced.lastSent] at news
    simp only [sameSignals, EachChangeOnce, dropLast_concat]
    refine ⟨isChain_append.mpr ⟨once.1, isChain_singleton _, ?_⟩, fun sent => ?_⟩
    · rintro last isLast _ ⟨⟩ rfl
      exact news isLast
    · have last := announced.lastSent.trans announced.current
      rw [← dropLast_append_getLast? _ last] at sent
      have rejected := mem_singleton.mp ((mem_append.mp sent).resolve_left once.2)
      have present := changed.verify_eq_rejected_iff.mpr
        (still (s.verify_eq_rejected_iff.mp rejected.symm))
      exact news (last.trans (congrArg some (rejected.symm.trans present.symm)))

/-- Over every run of an attempt, those who wait for it are sent each change of the verdict once,
the present one last and nothing after a rejection. -/
theorem verdict_changes_are_sent_once (calls : List Call) :
    let state := ((new sid remoteIp info protocol tname policy started ident).run calls).2
    EachChangeOnce state.stateChangeSignal ∧
      state.stateChangeSignal.getLast? = some state.verify := by
  intro state
  have told : EachChangeOnce state.stateChangeSignal ∧ state.Announced := by
    refine foldlRecOn (motive := fun soFar : List Effect × AuthState =>
      EachChangeOnce soFar.2.stateChangeSignal ∧ soFar.2.Announced) calls _ ⟨?_, ?_⟩
      fun _ told call _ => ⟨told.1.handle told.2 call, told.2.handle call⟩
    · exact ⟨isChain_singleton _, not_mem_nil⟩
    · grind [announced_new]
  exact ⟨told.1, told.2.lastSent.trans told.2.current⟩

end

def fitsTimeDuration (interval : Duration) : Bool := interval / 1000000000 < 2 ^ 63

def isFresh (lastSsoAt : Option OffsetDateTime) (interval : Duration) (now : OffsetDateTime) :
    Bool :=
  match lastSsoAt with
  | none => false
  | some last => fitsTimeDuration interval && now - last ≤ interval

inductive StepUpWindow
  | notApplicable
  | remaining (left : Duration)
  | expired
  deriving DecidableEq, Repr

def stepUpWindow (latest : OffsetDateTime) (lastSsoAt : Option OffsetDateTime)
    (interval : Option Duration) (now : OffsetDateTime) : StepUpWindow :=
  match interval with
  | none => .notApplicable
  | some interval =>
    if !isFresh lastSsoAt interval now then .expired
    else
      match lastSsoAt with
      | none => .expired
      | some last =>
        if !fitsTimeDuration interval then .expired
        else if latest < last + interval then .remaining 86400000000000
        else if last + interval < now then .expired
        else .remaining (last + interval - now).toNat

end Warpgate.Auth
