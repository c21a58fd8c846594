/-
This file is about the policy a user's logins are held to. A policy asks for credentials; the file
shows that more of them never make it ask again, and when presenting what it asks for is enough.
-/

import Mathlib.Data.Finset.Card
import Mathlib.Data.Finset.Option
import Warpgate.Browser.Login

namespace Warpgate.Auth

open Finset CredentialPolicy

open Browser (MfaEnforcement)

/-! ### The policy of a user -/

structure MfaParameters where
  mfaEnforcement : MfaEnforcement
  mfaPolicyExemptSsoUsers : Bool

namespace MfaParameters

variable (parameters : MfaParameters)

def effectiveMfaEnforcementForUser (hasSsoCredential : Bool) : MfaEnforcement :=
  if parameters.mfaPolicyExemptSsoUsers && hasSsoCredential then .off
  else parameters.mfaEnforcement

def mfaRequiredFactor (protocol : Protocol) (hasSso hasTotp : Bool) : Option CredentialKind :=
  match parameters.effectiveMfaEnforcementForUser hasSso, protocol with
  | .off, _ => none
  -- users without a one-time password can still log in and will get enrolled
  | _, .http => if hasTotp then some .totp else none
  | .enroll, _ => none
  | .require, .ssh | .require, .rdp | .require, .vnc =>
    some (if hasTotp then .totp else .webUserApproval)
  | .require, _ => some .webUserApproval

def mfaRequiredFactors (credentials : List CredentialKind)
    (protocol : Protocol) : Option CredentialKind :=
  parameters.mfaRequiredFactor protocol (.sso ∈ credentials) (.totp ∈ credentials)

end MfaParameters

abbrev UserRequireCredentialsPolicy := Protocol → Option (List CredentialKind)

structure UserDetails where
  credentials : List CredentialKind
  credentialPolicy : Option UserRequireCredentialsPolicy

def requiredKind (protocol : Protocol) : CredentialKind → CredentialKind
  | .sso => if protocol = .http then .sso else .webUserApproval
  | kind => kind

namespace UserDetails

variable (user : UserDetails) (supportedCredentialTypes : List CredentialKind)

def supported : Finset CredentialKind :=
  supportedCredentialTypes.toFinset ∩ insert .webUserApproval user.credentials.toFinset

def defaultPolicy : CredentialPolicy :=
  let supported := user.supported supportedCredentialTypes
  .anySingle (if 1 < supported.card then supported.erase .webUserApproval else supported)

def ownPolicy : CredentialPolicy :=
  match user.credentialPolicy with
  | none => user.defaultPolicy supportedCredentialTypes
  | some lists =>
    .perProtocol (fun protocol => (lists protocol).isSome)
      (fun protocol => .all (((lists protocol).getD []).map (requiredKind protocol)).toFinset
        (user.supported supportedCredentialTypes))
      (user.defaultPolicy supportedCredentialTypes)

end UserDetails

def getCredentialPolicy (parameters : MfaParameters) (user : UserDetails)
    (supportedCredentialTypes : List CredentialKind) : CredentialPolicy :=
  let policy := user.ownPolicy supportedCredentialTypes
  let factors := parameters.mfaRequiredFactors user.credentials
  if [Protocol.http, .ssh, .mySql, .postgres, .kubernetes, .vnc, .rdp].all
      fun protocol => (factors protocol).isNone then policy
  else .mfaEnforcement policy factors

variable {protocol : Protocol} {V supported : Finset CredentialKind}

namespace CredentialPolicy

variable {W : Finset CredentialKind} {policy : CredentialPolicy}

/-! ### Policies that can be completed -/

theorem isSufficient_mono (sub : V ⊆ W) (policy : CredentialPolicy)
    (sufficient : policy.isSufficient protocol V = .ok) : policy.isSufficient protocol W = .ok := by
  induction policy with
  | anySingle supported =>
    simp only [isSufficient, ite_eq_left_iff, reduceCtorEq, imp_false, not_not] at sufficient ⊢
    exact sufficient.imp fun _ => And.imp_left (@sub _)
  | all required supported => grind [isSufficient]
  | perProtocol overridden protocols default ofProtocol ofDefault => grind [isSufficient]
  | mfaEnforcement inner required ofInner => grind [isSufficient]

/-- What the policy asks for is something, and presenting it is enough. -/
def Completes (protocol : Protocol) (V : Finset CredentialKind) (policy : CredentialPolicy) :
    Prop :=
  ∀ S, policy.isSufficient protocol V = .need S →
    S.Nonempty ∧ policy.isSufficient protocol (V ∪ S) = .ok

theorem Completes.congr {first second : CredentialPolicy}
    (same : ∀ W, first.isSufficient protocol W = second.isSufficient protocol W) :
    Completes protocol V first ↔ Completes protocol V second := by
  simp only [Completes, same]

variable (inner : CredentialPolicy) (required : Protocol → Option CredentialKind)

theorem isSufficient_mfaEnforcement :
    (mfaEnforcement inner required).isSufficient protocol V =
      match inner.isSufficient protocol V with
      | .ok => if (required protocol).toFinset ⊆ V then .ok else .need (required protocol).toFinset
      | .need needed => .need (needed ∪ (required protocol).toFinset \ V) := by
  simp only [isSufficient]
  cases required protocol with
  | none => cases inner.isSufficient protocol V <;> simp
  | some factor =>
    by_cases presented : factor ∈ V
    · cases inner.isSufficient protocol V <;> simp [presented]
    · have missing : ({factor} : Finset CredentialKind) \ V = {factor} :=
        sdiff_eq_self_of_disjoint (disjoint_singleton_left.mpr presented)
      cases inner.isSufficient protocol V <;> simp [presented, missing]

/-- With a further factor enforced, the inner policy has to be satisfied by what it asks for and the
factor together. -/
theorem completes_mfaEnforcement : Completes protocol V (mfaEnforcement inner required) ↔
    ∀ needed, inner.isSufficient protocol V = .need needed →
      (needed ∪ (required protocol).toFinset \ V).Nonempty ∧
        inner.isSufficient protocol (V ∪ needed ∪ (required protocol).toFinset) = .ok := by
  cases response : inner.isSufficient protocol V with
  | ok =>
    refine ⟨fun _ _ same => (by cases same), fun _ S needs => ?_⟩
    rw [isSufficient_mfaEnforcement, response] at needs
    dsimp only at needs
    split at needs <;> cases needs
    next absent =>
    have nonempty : (required protocol).toFinset.Nonempty := by grind
    refine ⟨nonempty, ?_⟩
    rw [isSufficient_mfaEnforcement, isSufficient_mono subset_union_left inner response]
    exact if_pos subset_union_right
  | need needed =>
    have whole : V ∪ (needed ∪ (required protocol).toFinset \ V) =
        V ∪ needed ∪ (required protocol).toFinset := by
      rw [union_comm needed, ← union_assoc, union_sdiff_self_eq_union, union_right_comm]
    simp only [Completes, isSufficient_mfaEnforcement, response,
      CredentialPolicyResponse.need.injEq,
      forall_eq', whole]
    refine and_congr_right fun _ => ?_
    cases later : inner.isSufficient protocol (V ∪ needed ∪ (required protocol).toFinset) with
    | ok => exact iff_of_true (if_pos subset_union_right) rfl
    | need more => simp

theorem completes_anySingle :
    Completes protocol V (mfaEnforcement (anySingle supported) required) ↔
      ∃ kind ∈ V ∪ supported ∪ (required protocol).toFinset, kind ≠ .totp := by
  rw [completes_mfaEnforcement]
  simp only [isSufficient]
  split
  · next alone =>
    obtain ⟨kind, presented, firstFactor⟩ := alone
    refine ⟨fun _ => ⟨kind, ?_, firstFactor⟩, fun _ _ same => (by cases same)⟩
    simp [presented]
  · next alone =>
    simp only [CredentialPolicyResponse.need.injEq, forall_eq', union_sdiff_self_eq_union,
      ite_eq_left_iff, reduceCtorEq, imp_false, not_not, and_iff_right_iff_imp]
    rintro ⟨kind, mem, firstFactor⟩
    have absent : kind ∉ V := fun presented => alone ⟨kind, presented, firstFactor⟩
    exact ⟨kind, by simpa [absent] using mem⟩

theorem completes_all {needed : Finset CredentialKind} :
    Completes protocol V (mfaEnforcement (all needed supported) required) ↔
      (V ∪ needed ∪ (required protocol).toFinset).Nonempty := by
  rw [completes_mfaEnforcement]
  simp only [isSufficient]
  split
  · next sufficient =>
    refine ⟨fun _ => ?_, fun _ _ same => (by cases same)⟩
    exact (nonempty_iff_ne_empty.mpr sufficient.1).mono
      (subset_union_left.trans subset_union_left)
  · next insufficient =>
    have covers : needed ⊆ V ∪ needed ∪ (required protocol).toFinset :=
      subset_union_right.trans subset_union_left
    simp only [CredentialPolicyResponse.need.injEq, forall_eq', union_sdiff_self_eq_union,
      ite_eq_left_iff, reduceCtorEq, imp_false, not_not, covers, and_true,
      ← nonempty_iff_ne_empty, and_iff_right_iff_imp]
    intro nonempty
    by_cases unset : V = ∅
    · simpa [unset] using nonempty
    · have missing : (needed \ V).Nonempty :=
        sdiff_nonempty.mpr fun presented => insufficient ⟨unset, presented⟩
      exact missing.mono subset_union_left

end CredentialPolicy

namespace UserDetails

variable (parameters : MfaParameters) (user : UserDetails) (kinds : List CredentialKind)

/-- Where a list of the user applies, the list, the enforced factor or what is already valid gives
the policy something to accept; otherwise something other than a one-time password is valid,
enforced or asked for. -/
def Completable (protocol : Protocol) (V : Finset CredentialKind) : Prop :=
  let factor := parameters.mfaRequiredFactors user.credentials protocol
  match user.credentialPolicy.bind (· protocol) with
  | some required => required ≠ [] ∨ V ≠ ∅ ∨ factor ≠ none
  | none =>
    (∃ kind ∈ V, kind ≠ .totp) ∨ (∃ kind ∈ factor, kind ≠ .totp) ∨
      (∃ kind ∈ kinds, kind ∈ user.credentials ∧ kind ≠ .totp ∧ kind ≠ .webUserApproval) ∨
      .webUserApproval ∈ kinds ∧ ∀ kind ∈ kinds, kind ∈ user.credentials →
        kind = .webUserApproval

instance Completable.decidable (protocol : Protocol) (V : Finset CredentialKind) :
    Decidable (user.Completable parameters kinds protocol V) := by
  unfold Completable
  cases user.credentialPolicy.bind (· protocol) <;> exact inferInstance

variable {user kinds}

theorem exists_asked_iff :
    (∃ kind ∈ if 1 < (user.supported kinds).card then (user.supported kinds).erase .webUserApproval
      else user.supported kinds, kind ≠ .totp) ↔
    (∃ kind ∈ kinds, kind ∈ user.credentials ∧ kind ≠ .totp ∧ kind ≠ .webUserApproval) ∨
      .webUserApproval ∈ kinds ∧ ∀ kind ∈ kinds, kind ∈ user.credentials →
        kind = .webUserApproval := by
  have isSupported (kind : CredentialKind) : kind ∈ user.supported kinds ↔
      kind ∈ kinds ∧ (kind = .webUserApproval ∨ kind ∈ user.credentials) := by
    simp [supported]
  constructor
  · rintro ⟨kind, asked, firstFactor⟩
    by_cases approval : kind = .webUserApproval
    · subst approval
      split at asked
      · simp at asked
      · next alone =>
        refine .inr ⟨((isSupported _).mp asked).1, fun other isKind stored => ?_⟩
        exact card_le_one.mp (Nat.not_lt.mp alone) other
          ((isSupported other).mpr ⟨isKind, .inr stored⟩) _ asked
    · grind
  · rintro (⟨kind, isKind, stored, firstFactor, own⟩ | ⟨isKind, only⟩)
    · refine ⟨kind, ?_, firstFactor⟩
      split <;> simp [isSupported, isKind, stored, own]
    · have single : user.supported kinds = {.webUserApproval} := by
        ext kind
        rw [isSupported, mem_singleton]
        exact ⟨fun both => both.2.elim id (only kind both.1),
          by rintro rfl; exact ⟨isKind, .inl rfl⟩⟩
      exact ⟨.webUserApproval, by simp [single], by decide⟩

theorem isSufficient_getCredentialPolicy (protocol : Protocol) (W : Finset CredentialKind) :
    (getCredentialPolicy parameters user kinds).isSufficient protocol W =
      (mfaEnforcement (user.ownPolicy kinds)
        (parameters.mfaRequiredFactors user.credentials)).isSufficient protocol W := by
  unfold getCredentialPolicy
  dsimp only
  split
  · next unenforced =>
    have unset : parameters.mfaRequiredFactors user.credentials protocol = none := by
      have every := List.all_eq_true.mp unenforced protocol (by cases protocol <;> decide)
      exact Option.isNone_iff_eq_none.mp every
    simp only [isSufficient, unset]
  · rfl

/-- The policy built for a user completes a login exactly where the condition says so. -/
theorem completes_getCredentialPolicy :
    (getCredentialPolicy parameters user kinds).Completes protocol V ↔
      user.Completable parameters kinds protocol V := by
  rw [Completes.congr (isSufficient_getCredentialPolicy parameters protocol)]
  have ofDefault : (mfaEnforcement (user.defaultPolicy kinds)
      (parameters.mfaRequiredFactors user.credentials)).Completes protocol V ↔
      (∃ kind ∈ V, kind ≠ .totp) ∨
        (∃ kind ∈ parameters.mfaRequiredFactors user.credentials protocol, kind ≠ .totp) ∨
        (∃ kind ∈ kinds, kind ∈ user.credentials ∧ kind ≠ .totp ∧ kind ≠ .webUserApproval) ∨
        .webUserApproval ∈ kinds ∧ ∀ kind ∈ kinds, kind ∈ user.credentials →
          kind = .webUserApproval := by
    rw [defaultPolicy, completes_anySingle, ← exists_asked_iff]
    simp only [mem_union, Option.mem_toFinset, or_and_right, exists_or]
    exact or_assoc.trans (or_congr_right or_comm)
  cases listed : user.credentialPolicy with
  | none => grind [ownPolicy, Completable]
  | some lists =>
    cases applies : lists protocol with
    | none =>
      simp only [Completable, listed, Option.bind_some, applies, ← ofDefault]
      refine Completes.congr fun W => ?_
      simp [ownPolicy, listed, isSufficient, applies]
    | some required =>
      simp only [Completable, listed, Option.bind_some, applies]
      have same (W : Finset CredentialKind) : (mfaEnforcement (user.ownPolicy kinds)
          (parameters.mfaRequiredFactors user.credentials)).isSufficient protocol W =
          (mfaEnforcement (.all (required.map (requiredKind protocol)).toFinset
            (user.supported kinds))
            (parameters.mfaRequiredFactors user.credentials)).isSufficient protocol W := by
        simp [ownPolicy, listed, isSufficient, applies]
      rw [Completes.congr same, completes_all]
      cases parameters.mfaRequiredFactors user.credentials protocol <;>
        simp [nonempty_iff_ne_empty, union_eq_empty, imp_iff_not_or, or_comm]

end UserDetails

/-- However a policy is nested, more credentials never make it ask again. The policy built for a
user asks only for what is not valid yet, and it asks for something that is enough exactly if the
user's list, the enforced factor and what is valid leave it something to accept. -/
theorem policies_can_be_completed (protocol : Protocol) (V : Finset CredentialKind) :
    (∀ (policy : CredentialPolicy) (W : Finset CredentialKind), V ⊆ W →
      policy.isSufficient protocol V = .ok → policy.isSufficient protocol W = .ok) ∧
    ∀ (parameters : MfaParameters) (user : UserDetails) (supported : List CredentialKind),
      let policy := getCredentialPolicy parameters user supported
      (∀ S, policy.isSufficient protocol V = .need S → Disjoint S V) ∧
      ((∀ S, policy.isSufficient protocol V = .need S →
          S.Nonempty ∧ policy.isSufficient protocol (V ∪ S) = .ok) ↔
        user.Completable parameters supported protocol V) := by
  refine ⟨fun policy _ sub => policy.isSufficient_mono sub, fun parameters user supported => ?_⟩
  refine ⟨fun S needs => ?_, UserDetails.completes_getCredentialPolicy parameters⟩
  exact disjoint_right.mpr fun kind presented => not_mem_of_need presented _ needs

def MfaParameters.relaxed : MfaParameters := ⟨.off, false⟩

theorem policies_can_be_completed_password :
    ({.password} : Finset CredentialKind).Nonempty ∧
      (getCredentialPolicy .relaxed ⟨[.password, .totp], none⟩
        [.password, .totp, .webUserApproval]).isSufficient .ssh {.totp, .password} = .ok :=
  ((policies_can_be_completed .ssh {.totp}).2 .relaxed ⟨[.password, .totp], none⟩
    [.password, .totp, .webUserApproval]).2.mpr (by decide +kernel) {.password} (by decide +kernel)

theorem otp_only_login_cannot_be_completed :
    let policy := getCredentialPolicy .relaxed ⟨[.totp], none⟩
      [.password, .publicKey, .totp, .webUserApproval]
    policy.isSufficient .ssh ∅ = .need {.totp} ∧ policy.isSufficient .ssh {.totp} = .need ∅ := by
  decide +kernel

end Warpgate.Auth
