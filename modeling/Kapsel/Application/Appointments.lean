import Kapsel.Application.Service
import Kapsel.Receipt.Separation

/-!
# The order of the appointments

Three loops ask the appointments one after the other: `verify_grant_with` goes on only where the
signer is refused, `GitBinding::verify` goes on after every error, and `approved_handle` tries both
formats under each appointment.  Every loop is `findSome?` with an answer for the end, because the
errors that stop one of them do not depend on the appointment (`refusal_of_verify`), and because a
grant decides its facts.

* `findSome?_of_perm`: a search whose hits agree does not depend on the order.
* `verifyGrantWith_eq`, `verify_eq` and `approvedHandle_eq`: the three loops as searches.
* `trust_selection_order_independent`: permutations, the appointment that decides, and appointments
  of other keys.
* `legacy_grant_not_selectable`: a grant of the first version verifies and is no handle.
-/

namespace Kapsel

open Grammar Fallible Authority

namespace Application

open Gateway Gateway.Journal

/-! ## Searches -/

section
variable {τ β : Type} {judge : τ → Option β} {l l' : List τ}

/-- **A search whose hits agree does not depend on the order.** -/
theorem findSome?_of_perm (hsame : ∀ t t' b b', judge t = some b → judge t' = some b' → b = b')
    (h : l.Perm l') : l.findSome? judge = l'.findSome? judge := by
  cases hfound : l.findSome? judge with
  | some b =>
    obtain ⟨t, ht, hjudge⟩ := List.exists_of_findSome?_eq_some hfound
    cases hfound' : l'.findSome? judge with
    | some b' =>
      obtain ⟨t', -, hjudge'⟩ := List.exists_of_findSome?_eq_some hfound'
      rw [hsame t t' b b' hjudge hjudge']
    | none =>
      have hnone := List.findSome?_eq_none_iff.mp hfound' t (h.subset ht)
      cases hjudge.symm.trans hnone
  | none =>
    refine (List.findSome?_eq_none_iff.mpr fun t ht => ?_).symm
    exact List.findSome?_eq_none_iff.mp hfound t (h.symm.subset ht)

/-- What refuses everything changes no search. -/
theorem findSome?_append_of_none (h : ∀ t ∈ l', judge t = none) :
    (l ++ l').findSome? judge = l.findSome? judge := by
  rw [List.findSome?_append, List.findSome?_eq_none_iff.mpr h, Option.or_none]

end

section
variable (C : Crypto) (bytes : Bytes)

/-! ## The appointment that the bytes name -/

/-- The key id inside a grant of either effect. -/
def embeddedKeyId : Option Text :=
  match readGrant bytes with
  | .ok grant => some grant.keyId
  | .error _ =>
      match readGitGrant bytes with
      | .ok grant => some grant.keyId
      | .error _ => none

/-- The appointment whose key id is in the bytes. -/
def appointed (trust : List AuthorizationTrust) : Option AuthorizationTrust :=
  trust.find? fun appointment => embeddedKeyId bytes = some appointment.keyId

/-- Valid appointments with distinct key ids. -/
structure Appointments (trust : List AuthorizationTrust) : Prop where
  valid : ∀ appointment ∈ trust, appointment.validate C = .ok ()
  distinct : (trust.map (·.keyId)).Nodup

variable {C bytes} {trust : List AuthorizationTrust} {appointment : AuthorizationTrust}

theorem embeddedKeyId_of_verify {grant : ValidatedAuthorizationGrant}
    (h : Authority.verifyAuthorizationGrant C bytes appointment = .ok grant) :
    embeddedKeyId bytes = some appointment.keyId := by
  obtain ⟨-, signed, hread, hkey, -⟩ := readGrant_of_verifyAuthorizationGrant h
  rw [embeddedKeyId, hread, ← hkey]

/-- The bytes of a Git grant are none of a Kubernetes grant. -/
theorem readGrant_of_verifyGitRefGrant {grant : ValidatedGitRefGrant}
    (h : verifyGitRefGrant C bytes appointment = .ok grant) (signed : SignedGrant) :
    readGrant bytes ≠ .ok signed := by
  intro hread
  obtain ⟨_, _, hsealed, -⟩ := sealed_of_verifyGitRefGrant h
  cases (sealed_of_readGrant hread).1.kind_unique hsealed

theorem embeddedKeyId_of_verifyGit {grant : ValidatedGitRefGrant}
    (h : verifyGitRefGrant C bytes appointment = .ok grant) :
    embeddedKeyId bytes = some appointment.keyId := by
  obtain ⟨-, signed, hread, hkey, -⟩ := readGitGrant_of_verifyGitRefGrant h
  rw [embeddedKeyId]
  cases hother : readGrant bytes with
  | ok signed' => exact absurd hother (readGrant_of_verifyGitRefGrant h signed')
  | error _ => rw [hread, ← hkey]

theorem Appointments.perm {trust' : List AuthorizationTrust} (h : Appointments C trust)
    (hperm : trust.Perm trust') : Appointments C trust' :=
  ⟨fun appointment happointment => h.valid appointment (hperm.symm.subset happointment),
    ((hperm.map _).nodup_iff).mp h.distinct⟩

/-- Among distinct key ids one appointment is named. -/
theorem Appointments.appointed_eq_some (h : Appointments C trust) :
    appointed bytes trust = some appointment ↔
      appointment ∈ trust ∧ embeddedKeyId bytes = some appointment.keyId := by
  constructor
  · intro hfound
    have hkey := List.find?_some hfound
    exact ⟨List.mem_of_find?_eq_some hfound, of_decide_eq_true hkey⟩
  · rintro ⟨hmem, hkey⟩
    cases hfound : appointed bytes trust with
    | none =>
      have hnone := List.find?_eq_none.mp hfound appointment hmem
      exact absurd (decide_eq_true hkey) hnone
    | some other =>
      have hfirst := List.find?_some hfound
      have hother : embeddedKeyId bytes = some other.keyId := of_decide_eq_true hfirst
      have hsame : other.keyId = appointment.keyId := Option.some.inj (hother.symm.trans hkey)
      rw [List.inj_on_of_nodup_map h.distinct (List.mem_of_find?_eq_some hfound) hmem hsame]

/-- What names its appointment is a hit exactly if the named appointment is one. -/
theorem Appointments.exists_hit_iff (h : Appointments C trust) {Hit : AuthorizationTrust → Prop}
    (hnamed : ∀ appointment, Hit appointment → embeddedKeyId bytes = some appointment.keyId) :
    (∃ appointment ∈ trust, Hit appointment) ↔
      ∃ appointment, appointed bytes trust = some appointment ∧ Hit appointment := by
  constructor
  · rintro ⟨appointment, hmem, hhit⟩
    exact ⟨appointment, h.appointed_eq_some.mpr ⟨hmem, hnamed appointment hhit⟩, hhit⟩
  · rintro ⟨appointment, happointed, hhit⟩
    exact ⟨appointment, (h.appointed_eq_some.mp happointed).1, hhit⟩

variable (C bytes)

/-- What the order of the appointments does not change: `run` answers every permutation alike, it
succeeds exactly if the appointment that the bytes name accepts them, and it does not see further
appointments of other keys. -/
structure DecidedByAppointment {ε α : Type} (run : List AuthorizationTrust → Except ε α)
    (Accepts : AuthorizationTrust → Prop) : Prop where
  order : ∀ trust trust', Appointments C trust → trust.Perm trust' → run trust = run trust'
  success : ∀ trust, Appointments C trust → ((∃ a, run trust = .ok a) ↔
    ∃ appointment, appointed bytes trust = some appointment ∧ Accepts appointment)
  further : ∀ trust more, trust ≠ [] → Appointments C (trust ++ more) →
    (∀ appointment ∈ more, embeddedKeyId bytes ≠ some appointment.keyId) →
    run (trust ++ more) = run trust

variable {C bytes}

/-- **A loop that is a search is decided by the named appointment**, if its hits agree and only the
named appointment hits. -/
theorem DecidedByAppointment.of_search {ε α : Type} {run : List AuthorizationTrust → Except ε α}
    {Accepts : AuthorizationTrust → Prop} (judge : AuthorizationTrust → Option (Except ε α))
    (refused : ε) {empty : ε} (hempty : run [] = .error empty)
    (hrun : ∀ trust, trust ≠ [] → Appointments C trust →
      run trust = (trust.findSome? judge).getD (.error refused))
    (hsame : ∀ t t' r r', judge t = some r → judge t' = some r' → r = r')
    (hnamed : ∀ t r, judge t = some r → embeddedKeyId bytes = some t.keyId)
    (haccepts : ∀ t, Accepts t ↔ ∃ a, judge t = some (.ok a)) :
    DecidedByAppointment C bytes run Accepts where
  order := by
    intro trust trust' happointments hperm
    by_cases hne : trust = []
    · subst hne
      rw [List.Perm.nil_eq hperm]
    · have hne' : trust' ≠ [] := by
        rintro rfl
        exact hne hperm.eq_nil
      rw [hrun trust hne happointments, hrun trust' hne' (happointments.perm hperm),
        findSome?_of_perm hsame hperm]
  success := by
    intro trust happointments
    rw [← happointments.exists_hit_iff fun t ht => ?_]
    · constructor
      · rintro ⟨a, ha⟩
        have hne : trust ≠ [] := by
          rintro rfl
          cases hempty.symm.trans ha
        rw [hrun trust hne happointments] at ha
        cases hfound : trust.findSome? judge with
        | none =>
          rw [hfound] at ha
          cases ha
        | some r =>
          rw [hfound] at ha
          obtain rfl : r = .ok a := ha
          obtain ⟨t, ht, hjudge⟩ := List.exists_of_findSome?_eq_some hfound
          exact ⟨t, ht, (haccepts t).mpr ⟨a, hjudge⟩⟩
      · rintro ⟨t, ht, haccept⟩
        obtain ⟨a, hjudge⟩ := (haccepts t).mp haccept
        refine ⟨a, ?_⟩
        rw [hrun trust (List.ne_nil_of_mem ht) happointments]
        cases hfound : trust.findSome? judge with
        | none =>
          have hnone := List.findSome?_eq_none_iff.mp hfound t ht
          cases hjudge.symm.trans hnone
        | some r =>
          obtain ⟨t', -, hjudge'⟩ := List.exists_of_findSome?_eq_some hfound
          exact hsame t' t r _ hjudge' hjudge
    · obtain ⟨a, hjudge⟩ := (haccepts t).mp ht
      exact hnamed t _ hjudge
  further := by
    intro trust more hne happointments hothers
    have hshort : Appointments C trust :=
      ⟨fun t ht => happointments.valid t (List.mem_append_left _ ht), by
        have hdistinct := happointments.distinct
        rw [List.map_append] at hdistinct
        exact hdistinct.of_append_left⟩
    rw [hrun _ (List.append_ne_nil_of_left_ne_nil hne more) happointments, hrun _ hne hshort,
      findSome?_append_of_none]
    intro t ht
    cases hjudge : judge t with
    | none => rfl
    | some r => exact absurd (hnamed t r hjudge) (hothers t ht)

/-! ## The refusal of a grant -/

variable (bytes) in
/-- What an appointment that does not verify the bytes says of them. -/
def refusal : GatewayError :=
  match (do require (bytes.length ≤ signedGrantBytesMax) GrantError.invalid; readGrant bytes) with
  | .ok _ => .untrustedAuthorizationGrant
  | .error error => mapAuthorizationError error

/-- Of bytes that are read only the signer can be refused. -/
theorem refusal_of_readGrant {grant : SignedGrant} (hlength : bytes.length ≤ signedGrantBytesMax)
    (hread : readGrant bytes = .ok grant) : refusal bytes = .untrustedAuthorizationGrant := by
  unfold refusal
  rw [bind_of_ok (require_of_true (decide_eq_true hlength)), hread]

/-- **The refusal does not depend on the appointment.** -/
theorem refusal_of_verify (hvalid : appointment.validate C = .ok ()) {error : GrantError}
    (h : Authority.verifyAuthorizationGrant C bytes appointment = .error error) :
    mapAuthorizationError error = refusal bytes := by
  have hkey : C.keyIsValid appointment.publicKey = true := by
    obtain ⟨_, -, hkey⟩ := bind_eq_ok.mp hvalid
    exact require_eq_ok.mp hkey
  unfold Authority.verifyAuthorizationGrant at h
  rcases bind_eq_error.mp h with h | ⟨_, -, h⟩
  · cases hvalid.symm.trans h
  rcases bind_eq_error.mp h with hlength | ⟨_, hlength, h⟩
  · unfold refusal
    rw [bind_of_error hlength]
  have hshort : bytes.length ≤ signedGrantBytesMax := of_decide_eq_true (require_eq_ok.mp hlength)
  rcases bind_eq_error.mp h with hread | ⟨grant, hread, h⟩
  · unfold refusal
    rw [bind_of_ok hlength, hread]
  rw [refusal_of_readGrant hshort hread]
  -- what is left is the signer's key id, the key and the signature
  rcases bind_eq_error.mp h with h | ⟨_, -, h⟩
  · rw [← (require_eq_error.mp h).2]
    rfl
  rcases bind_eq_error.mp h with h | ⟨_, -, h⟩
  · cases hkey.symm.trans (require_eq_error.mp h).1
  rcases bind_eq_error.mp h with h | ⟨_, -, h⟩
  · rw [← (require_eq_error.mp h).2]
    rfl
  · cases h

/-- Bytes that some appointment verifies are refused for their signer only. -/
theorem refusal_of_verified {grant : ValidatedAuthorizationGrant}
    (h : Authority.verifyAuthorizationGrant C bytes appointment = .ok grant) :
    refusal bytes = .untrustedAuthorizationGrant := by
  obtain ⟨hlength, signed, hread, -⟩ := readGrant_of_verifyAuthorizationGrant h
  exact refusal_of_readGrant hlength hread

/-! ## The three loops -/

/-- An appointment in `verify_grant_with`. -/
def judgeGrant (C : Crypto) (bytes : Bytes) (appointment : AuthorizationTrust) :
    Option (Except GatewayError (VerifiedAuthorization C)) :=
  match Gateway.verifyAuthorizationGrant C bytes appointment with
  | .ok verified => some (.ok verified)
  | .error _ => none

theorem judgeGrant_of_ok {grant : ValidatedAuthorizationGrant}
    (h : Authority.verifyAuthorizationGrant C bytes appointment = .ok grant) :
    ∃ verified, verified.signedGrant = bytes ∧
      Gateway.verifyAuthorizationGrant C bytes appointment = .ok verified ∧
      judgeGrant C bytes appointment = some (.ok verified) := by
  unfold judgeGrant Gateway.verifyAuthorizationGrant
  split
  · exact ⟨_, rfl, rfl, rfl⟩
  · rename_i error herror
    cases h.symm.trans herror

theorem judgeGrant_of_error {error : GrantError}
    (h : Authority.verifyAuthorizationGrant C bytes appointment = .error error) :
    Gateway.verifyAuthorizationGrant C bytes appointment = .error (mapAuthorizationError error) ∧
      judgeGrant C bytes appointment = none := by
  unfold judgeGrant Gateway.verifyAuthorizationGrant
  split
  · rename_i grant hgrant
    cases h.symm.trans hgrant
  · rename_i error' herror'
    obtain rfl := Except.error.inj (h.symm.trans herror')
    exact ⟨rfl, rfl⟩

/-- What hits is verified, and keeps the bytes. -/
theorem judgeGrant_eq_some {r : Except GatewayError (VerifiedAuthorization C)}
    (h : judgeGrant C bytes appointment = some r) :
    (∃ grant, Authority.verifyAuthorizationGrant C bytes appointment = .ok grant) ∧
      ∃ verified : VerifiedAuthorization C, verified.signedGrant = bytes ∧ r = .ok verified := by
  cases hverify : Authority.verifyAuthorizationGrant C bytes appointment with
  | error error =>
    rw [(judgeGrant_of_error hverify).2] at h
    cases h
  | ok grant =>
    obtain ⟨verified, hbytes, -, hjudge⟩ := judgeGrant_of_ok hverify
    rw [hjudge] at h
    exact ⟨⟨grant, rfl⟩, verified, hbytes, (Option.some.inj h).symm⟩

/-- **`verify_grant_with` is a search.**  It stops early only at an error that every appointment
gives. -/
theorem verifyGrantWith_eq (hne : trust ≠ [])
    (hvalid : ∀ appointment ∈ trust, appointment.validate C = .ok ()) :
    verifyGrantWith C bytes trust =
      (trust.findSome? (judgeGrant C bytes)).getD (.error (refusal bytes)) := by
  induction trust with
  | nil => exact absurd rfl hne
  | cons appointment trust ih =>
    unfold verifyGrantWith
    rw [List.findSome?_cons]
    cases hverify : Authority.verifyAuthorizationGrant C bytes appointment with
    | ok grant =>
      obtain ⟨verified, -, hverified, hjudge⟩ := judgeGrant_of_ok hverify
      rw [hverified, hjudge]
      rfl
    | error error =>
      obtain ⟨herror, hjudge⟩ := judgeGrant_of_error hverify
      rw [herror, hjudge, refusal_of_verify (hvalid appointment List.mem_cons_self) hverify]
      by_cases huntrusted : refusal bytes = .untrustedAuthorizationGrant
      · rw [huntrusted]
        by_cases hlast : trust = []
        · subst hlast
          rfl
        · have hrest := ih hlast fun t ht => hvalid t (List.mem_cons_of_mem _ ht)
          rw [huntrusted] at hrest
          exact hrest
      · -- no other appointment verifies bytes that are refused for more than their signer
        have hnone : trust.findSome? (judgeGrant C bytes) = none := by
          refine List.findSome?_eq_none_iff.mpr fun t _ => ?_
          cases hother : Authority.verifyAuthorizationGrant C bytes t with
          | ok grant => exact absurd (refusal_of_verified hother) huntrusted
          | error error' => exact (judgeGrant_of_error hother).2
        rw [hnone]
        cases hcases : refusal bytes with
        | untrustedAuthorizationGrant => exact absurd hcases huntrusted
        | _ => rfl

theorem authentic_of_verifyGitRefGrant {C : Crypto} {bytes : Bytes}
    {appointment : AuthorizationTrust} {grant : ValidatedGitRefGrant}
    (h : verifyGitRefGrant C bytes appointment = .ok grant) :
    ∃ trust, verifyGitRefGrant C bytes trust =
      .ok ⟨grant.authorization, grant.signerKeyId, grant.grantDigest⟩ := ⟨appointment, h⟩

/-- An appointment in `GitBinding::verify`. -/
def judgeGit (C : Crypto) (bytes : Bytes) (appointment : AuthorizationTrust) :
    Option (Except GatewayError (GitBinding C)) :=
  match h : verifyGitRefGrant C bytes appointment with
  | .ok grant =>
      some (.ok ⟨grant.authorization, grant.signerKeyId, grant.grantDigest, bytes,
        authentic_of_verifyGitRefGrant h⟩)
  | .error _ => none

theorem judgeGit_of_error {error : GrantError}
    (h : verifyGitRefGrant C bytes appointment = .error error) :
    judgeGit C bytes appointment = none := by
  unfold judgeGit
  split
  · rename_i grant hgrant
    cases h.symm.trans hgrant
  · rfl

theorem judgeGit_of_ok {grant : ValidatedGitRefGrant}
    (h : verifyGitRefGrant C bytes appointment = .ok grant) :
    judgeGit C bytes appointment = some (.ok ⟨grant.authorization, grant.signerKeyId,
      grant.grantDigest, bytes, appointment, h⟩) := by
  unfold judgeGit
  split
  · rename_i grant' hgrant'
    obtain rfl := Except.ok.inj (h.symm.trans hgrant')
    rfl
  · rename_i error herror
    cases h.symm.trans herror

/-- What hits is a binding of the bytes. -/
theorem judgeGit_eq_some {r : Except GatewayError (GitBinding C)}
    (h : judgeGit C bytes appointment = some r) :
    (∃ grant, verifyGitRefGrant C bytes appointment = .ok grant) ∧
      ∃ binding : GitBinding C, binding.grant = bytes ∧ r = .ok binding := by
  cases hverify : verifyGitRefGrant C bytes appointment with
  | error error =>
    rw [judgeGit_of_error hverify] at h
    cases h
  | ok grant =>
    rw [judgeGit_of_ok hverify] at h
    exact ⟨⟨grant, rfl⟩, _, rfl, (Option.some.inj h).symm⟩

theorem verifyWith_eq : GitBinding.verifyWith C bytes trust =
    (trust.findSome? (judgeGit C bytes)).getD (.error .untrustedAuthorizationGrant) := by
  induction trust with
  | nil => rfl
  | cons appointment trust ih =>
    unfold GitBinding.verifyWith
    rw [List.findSome?_cons]
    split
    · rename_i grant hgrant
      rw [judgeGit_of_ok hgrant]
      rfl
    · rename_i error herror
      rw [judgeGit_of_error herror]
      exact ih

/-- **`GitBinding::verify` is a search.** -/
theorem verify_eq : GitBinding.verify C bytes trust =
    (trust.findSome? (judgeGit C bytes)).getD (.error (if bytes.length ≤ 4096 then
      .untrustedAuthorizationGrant else .invalidAuthorizationGrant)) := by
  unfold GitBinding.verify
  by_cases hlength : bytes.length ≤ 4096
  · rw [bind_of_ok (require_of_true (decide_eq_true hlength)), if_pos hlength, verifyWith_eq]
  · rw [bind_of_error (require_of_false (decide_eq_false hlength)), if_neg hlength]
    have hnone : trust.findSome? (judgeGit C bytes) = none := by
      refine List.findSome?_eq_none_iff.mpr fun appointment _ => ?_
      cases hverify : verifyGitRefGrant C bytes appointment with
      | error error => exact judgeGit_of_error hverify
      | ok grant => exact absurd (readGitGrant_of_verifyGitRefGrant hverify).1 hlength
    rw [hnone]
    rfl

/-- The action of a verified Kubernetes grant: only a snapshot can be selected. -/
def kubernetesHandle (label : Text) (facts : ExactAuthorization) :
    Except ServiceError ApprovedAction :=
  match facts.approvedTarget with
  | none => .error .configuration
  | some approvedTarget =>
      .ok (.kubernetes ⟨facts.operationId, facts.namespace, facts.deployment, facts.container,
        facts.immutableImageDigest⟩ approvedTarget label)

theorem kubernetesHandle_eq_ok {label : Text} {facts : ExactAuthorization} :
    (∃ action, kubernetesHandle label facts = .ok action) ↔ facts.approvedTarget.isSome := by
  unfold kubernetesHandle
  cases facts.approvedTarget with
  | none => simp
  | some approvedTarget => simp

/-- An appointment in `approved_handle`: both formats, one after the other. -/
def judgeHandle (C : Crypto) (approval : ServiceApproval) (appointment : AuthorizationTrust) :
    Option (Except ServiceError ApprovedAction) :=
  match Authority.verifyAuthorizationGrant C approval.signedGrant appointment with
  | .ok grant => some (kubernetesHandle approval.label grant.authorization)
  | .error _ =>
      match verifyGitRefGrant C approval.signedGrant appointment with
      | .ok grant => some (.ok (.git grant.authorization approval.label))
      | .error _ => none

/-- **`approved_handle` is a search.** -/
theorem approvedHandle_eq {approval : ServiceApproval} : approvedHandle C approval trust =
    (trust.findSome? (judgeHandle C approval)).getD (.error .configuration) := by
  induction trust with
  | nil => rfl
  | cons appointment trust ih =>
    unfold approvedHandle
    rw [List.findSome?_cons, judgeHandle]
    cases Authority.verifyAuthorizationGrant C approval.signedGrant appointment with
    | ok grant => rfl
    | error _ =>
      cases verifyGitRefGrant C approval.signedGrant appointment with
      | ok grant => rfl
      | error _ => exact ih

theorem judgeHandle_eq_some {approval : ServiceApproval} {r : Except ServiceError ApprovedAction} :
    judgeHandle C approval appointment = some r ↔
      (∃ grant, Authority.verifyAuthorizationGrant C approval.signedGrant appointment = .ok grant ∧
        r = kubernetesHandle approval.label grant.authorization) ∨
      ∃ grant, verifyGitRefGrant C approval.signedGrant appointment = .ok grant ∧
        r = .ok (.git grant.authorization approval.label) := by
  unfold judgeHandle
  cases hgrant : Authority.verifyAuthorizationGrant C approval.signedGrant appointment with
  | ok grant =>
    have hnot : ∀ git, verifyGitRefGrant C approval.signedGrant appointment ≠ .ok git := by
      intro git hgit
      obtain ⟨-, signed, hread, -⟩ := readGrant_of_verifyAuthorizationGrant hgrant
      exact readGrant_of_verifyGitRefGrant hgit signed hread
    simp [hnot, eq_comm]
  | error _ =>
    cases verifyGitRefGrant C approval.signedGrant appointment with
    | ok grant => simp [eq_comm]
    | error _ => simp

/-! ## Order, success and further appointments -/

theorem decided_verifyGrantWith : DecidedByAppointment C bytes (verifyGrantWith C bytes)
    fun appointment => ∃ grant, Authority.verifyAuthorizationGrant C bytes appointment =
      .ok grant := by
  refine .of_search (judgeGrant C bytes) (refusal bytes) rfl ?_ ?_ ?_ ?_
  · intro trust hne happointments
    exact verifyGrantWith_eq hne happointments.valid
  · intro t t' r r' hr hr'
    obtain ⟨-, verified, hbytes, rfl⟩ := judgeGrant_eq_some hr
    obtain ⟨-, verified', hbytes', rfl⟩ := judgeGrant_eq_some hr'
    rw [VerifiedAuthorization.eq_of_signedGrant_eq (hbytes.trans hbytes'.symm)]
  · intro t r hr
    obtain ⟨⟨grant, hgrant⟩, -⟩ := judgeGrant_eq_some hr
    exact embeddedKeyId_of_verify hgrant
  · intro t
    constructor
    · rintro ⟨grant, hgrant⟩
      obtain ⟨verified, -, -, hjudge⟩ := judgeGrant_of_ok hgrant
      exact ⟨verified, hjudge⟩
    · rintro ⟨verified, hjudge⟩
      exact (judgeGrant_eq_some hjudge).1

theorem decided_verify : DecidedByAppointment C bytes (GitBinding.verify C bytes)
    fun appointment => ∃ grant, verifyGitRefGrant C bytes appointment = .ok grant := by
  refine .of_search (judgeGit C bytes) (if bytes.length ≤ 4096 then .untrustedAuthorizationGrant
    else .invalidAuthorizationGrant) verify_eq ?_ ?_ ?_ ?_
  · intro trust _ _
    exact verify_eq
  · intro t t' r r' hr hr'
    obtain ⟨-, binding, hbytes, rfl⟩ := judgeGit_eq_some hr
    obtain ⟨-, binding', hbytes', rfl⟩ := judgeGit_eq_some hr'
    rw [GitBinding.eq_of_grant_eq (hbytes.trans hbytes'.symm)]
  · intro t r hr
    obtain ⟨⟨grant, hgrant⟩, -⟩ := judgeGit_eq_some hr
    exact embeddedKeyId_of_verifyGit hgrant
  · intro t
    constructor
    · rintro ⟨grant, hgrant⟩
      exact ⟨_, judgeGit_of_ok hgrant⟩
    · rintro ⟨binding, hjudge⟩
      exact (judgeGit_eq_some hjudge).1

/-- The hits of `approved_handle` agree. -/
theorem judgeHandle_agree {approval : ServiceApproval} {t t' : AuthorizationTrust}
    {r r' : Except ServiceError ApprovedAction} (h : judgeHandle C approval t = some r)
    (h' : judgeHandle C approval t' = some r') : r = r' := by
  rcases judgeHandle_eq_some.mp h with ⟨grant, hgrant, rfl⟩ | ⟨grant, hgrant, rfl⟩
  · rcases judgeHandle_eq_some.mp h' with ⟨grant', hgrant', rfl⟩ | ⟨git, hgit, rfl⟩
    · rw [verifyAuthorizationGrant_deterministic hgrant hgrant']
    · obtain ⟨-, signed, hread, -⟩ := readGrant_of_verifyAuthorizationGrant hgrant
      exact absurd hread (readGrant_of_verifyGitRefGrant hgit signed)
  · rcases judgeHandle_eq_some.mp h' with ⟨grant', hgrant', rfl⟩ | ⟨git, hgit, rfl⟩
    · obtain ⟨-, signed, hread, -⟩ := readGrant_of_verifyAuthorizationGrant hgrant'
      exact absurd hread (readGrant_of_verifyGitRefGrant hgrant signed)
    · rw [verifyGitRefGrant_deterministic hgrant hgit]

theorem decided_approvedHandle {label : Text} :
    DecidedByAppointment C bytes (approvedHandle C ⟨bytes, label⟩) fun appointment =>
      (∃ grant, Authority.verifyAuthorizationGrant C bytes appointment = .ok grant ∧
        grant.authorization.approvedTarget.isSome) ∨
      ∃ grant, verifyGitRefGrant C bytes appointment = .ok grant := by
  refine .of_search (judgeHandle C ⟨bytes, label⟩) .configuration rfl ?_ ?_ ?_ ?_
  · intro trust _ _
    exact approvedHandle_eq
  · intro t t' r r' hr hr'
    exact judgeHandle_agree hr hr'
  · intro t r hr
    rcases judgeHandle_eq_some.mp hr with ⟨grant, hgrant, -⟩ | ⟨grant, hgrant, -⟩
    · exact embeddedKeyId_of_verify hgrant
    · exact embeddedKeyId_of_verifyGit hgrant
  · intro t
    constructor
    · rintro (⟨grant, hgrant, htarget⟩ | ⟨grant, hgrant⟩)
      · obtain ⟨action, haction⟩ := kubernetesHandle_eq_ok.mpr htarget
        exact ⟨action, judgeHandle_eq_some.mpr (.inl ⟨grant, hgrant, haction.symm⟩)⟩
      · exact ⟨_, judgeHandle_eq_some.mpr (.inr ⟨grant, hgrant, rfl⟩)⟩
    · rintro ⟨action, hjudge⟩
      rcases judgeHandle_eq_some.mp hjudge with ⟨grant, hgrant, haction⟩ | ⟨grant, hgrant, -⟩
      · exact .inl ⟨grant, hgrant, kubernetesHandle_eq_ok.mp ⟨action, haction.symm⟩⟩
      · exact .inr ⟨grant, hgrant⟩

/-- **The order of the appointments decides nothing.**  `verify_grant_with`, `GitBinding::verify`
and `approved_handle` answer every permutation of valid appointments with distinct keys alike.  The
first two succeed exactly if the appointment that the bytes name verifies them; `approved_handle`
also wants a snapshot in a Kubernetes grant.  Appointments of other keys change no answer of an
appointment list that is not empty. -/
theorem trust_selection_order_independent (C : Crypto) (bytes : Bytes) (label : Text) :
    DecidedByAppointment C bytes (verifyGrantWith C bytes)
        (fun appointment => ∃ grant,
          Authority.verifyAuthorizationGrant C bytes appointment = .ok grant) ∧
      DecidedByAppointment C bytes (GitBinding.verify C bytes)
        (fun appointment => ∃ grant, verifyGitRefGrant C bytes appointment = .ok grant) ∧
      DecidedByAppointment C bytes (approvedHandle C ⟨bytes, label⟩) fun appointment =>
        (∃ grant, Authority.verifyAuthorizationGrant C bytes appointment = .ok grant ∧
          grant.authorization.approvedTarget.isSome) ∨
        ∃ grant, verifyGitRefGrant C bytes appointment = .ok grant :=
  ⟨decided_verifyGrantWith, decided_verify, decided_approvedHandle⟩

end

/-- An authorization of the first version, without a snapshot. -/
def legacyAuthorization : ExactAuthorization := { boundAuthorization with approvedTarget := none }

/-- The appointment of its signer. -/
def ownerAppointment : AuthorizationTrust := ⟨utf8 "owner-key", ⟨List.replicate 32 7, rfl⟩⟩

/-- Another appointment. -/
def deputyAppointment : AuthorizationTrust := ⟨utf8 "deputy-key", ⟨List.replicate 32 8, rfl⟩⟩

theorem appointments_both : Appointments Crypto.bare [ownerAppointment, deputyAppointment] :=
  ⟨by simp only [List.mem_cons, List.not_mem_nil, or_false, forall_eq_or_imp, forall_eq]; decide,
    by decide⟩

/-- The signature of a valid authorization under the owner's seed. -/
theorem ownerAppointment_verifies {a : ExactAuthorization} (h : a.Valid) : ∃ bytes,
    Authority.verifyAuthorizationGrant Crypto.bare bytes ownerAppointment =
      .ok ⟨a, utf8 "owner-key", digestHex Crypto.bare bytes⟩ := by
  have hkey : identityIsValid (utf8 "owner-key") = true := by decide
  obtain ⟨bytes, -, -, hverify⟩ := h.verify_sign Crypto.correct_bare ⟨List.replicate 32 7, rfl⟩ hkey
  exact ⟨bytes, hverify⟩

/-- Two appointments of one grant: either order finds it, and so does the owner alone. -/
theorem deputy_changes_nothing : ∃ bytes,
    verifyGrantWith Crypto.bare bytes [ownerAppointment, deputyAppointment] =
        verifyGrantWith Crypto.bare bytes [deputyAppointment, ownerAppointment] ∧
      ∃ verified, verifyGrantWith Crypto.bare bytes [ownerAppointment, deputyAppointment] =
        .ok verified := by
  obtain ⟨bytes, hverify⟩ := ownerAppointment_verifies (a := boundAuthorization)
    (ExactAuthorization.validate_eq_ok.mp rfl)
  obtain ⟨hdecided, -, -⟩ := trust_selection_order_independent Crypto.bare bytes []
  have hnamed := appointments_both.appointed_eq_some.mpr
    ⟨List.mem_cons_self, embeddedKeyId_of_verify hverify⟩
  exact ⟨bytes, hdecided.order _ _ appointments_both (.swap _ _ _),
    (hdecided.success _ appointments_both).mpr ⟨_, hnamed, _, hverify⟩⟩

/-- The named appointment verifies a grant of the first version, and `approved_handle` refuses
it. -/
theorem legacy_grant_not_selectable : ∃ bytes,
    Appointments Crypto.bare [ownerAppointment, deputyAppointment] ∧
      appointed bytes [ownerAppointment, deputyAppointment] = some ownerAppointment ∧
      (∃ grant, Authority.verifyAuthorizationGrant Crypto.bare bytes ownerAppointment =
        .ok grant) ∧
      approvedHandle Crypto.bare ⟨bytes, utf8 "legacy"⟩ [ownerAppointment, deputyAppointment] =
        .error .configuration := by
  obtain ⟨bytes, hverify⟩ := ownerAppointment_verifies (a := legacyAuthorization)
    (ExactAuthorization.validate_eq_ok.mp rfl)
  refine ⟨bytes, appointments_both, ?_, ⟨_, hverify⟩, ?_⟩
  · exact appointments_both.appointed_eq_some.mpr
      ⟨List.mem_cons_self, embeddedKeyId_of_verify hverify⟩
  · unfold approvedHandle
    rw [hverify]
    rfl

end Application
end Kapsel
