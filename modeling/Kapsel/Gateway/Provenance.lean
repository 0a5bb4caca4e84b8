import Kapsel.Gateway.Dispatch
import Kapsel.Gateway.Adapter
import Kapsel.Gateway.Healthy

/-!
# A dispatch is exactly what was signed

The facts of a dispatch travel from the signed grant through the request, the row, the
decoder and the permission.  Between the row's insertion and the permission lie any number
of sessions, handles and trust sets.  What ties the two ends together is the grant's bytes
in the row: they are written once, by the insertion (`exists_insertion`), they decide the
request that the row is about, and every authenticated read compares them with the bytes
that the handle itself verified.
-/

namespace Kapsel

open Grammar Fallible Authority Interaction Interaction.Program Relation

namespace Gateway

open Journal

variable {C : Crypto}

/-! ## Where a row comes from -/

/-- The moment inserted the row of the request. -/
structure Inserts (m : Event C) (a : AuthorizedRequest C) : Prop where
  deed : ∃ answer, m.deed = .act ⟨.replace (.insertRequested a), answer⟩
  before : stored m.before.db .kubernetes a.request.operationId = none
  after : stored m.after.db .kubernetes a.request.operationId = some (phaseRecord a .requested)

/-- **Every row was inserted**, with the grant that it has now. -/
theorem exists_insertion {moments : List (Event C)} {w : World}
    (h : Conforms (environment C) allowed moments w) {a : AuthorizedRequest C} {p : Phase}
    (hrow : stored w.db .kubernetes a.request.operationId = some (phaseRecord a p)) :
    ∃ m ∈ moments, Inserts m a := by
  induction h generalizing p with
  | initial =>
    rw [environment, stored_empty] at hrow
    cases hrow
  | start _ _ _ _ ih =>
    obtain ⟨m, hm, hinserts⟩ := ih hrow
    exact ⟨m, List.mem_cons_of_mem _ hm, hinserts⟩
  | stop _ _ _ hleaves ih =>
    obtain rfl := hleaves
    obtain ⟨m, hm, hinserts⟩ := ih hrow
    exact ⟨m, List.mem_cons_of_mem _ hm, hinserts⟩
  | @act moments w s entry c answer w' hconforms hactive hallowed hreacts ih =>
    have holder : ∀ {p' : Phase}, stored w.db .kubernetes a.request.operationId =
        some (phaseRecord a p') → ∃ m ∈ (⟨s, .act ⟨c, answer⟩, w, w'⟩ :: moments : List (Event C)),
          Inserts m a := by
      intro p' hrow'
      obtain ⟨m, hm, hinserts⟩ := ih hrow'
      exact ⟨m, List.mem_cons_of_mem _ hm, hinserts⟩
    rcases reacts_cases hreacts with rfl | ⟨x, rfl, hcommit, -⟩ | ⟨-, -, rfl⟩
    · exact holder hrow
    · obtain ⟨hguarded, hlicensed⟩ := hallowed
      obtain ⟨t, id, before, after, hcommits, hmoves⟩ :=
        (sound_of_conforms hconforms).moves hactive hguarded hlicensed hcommit
      by_cases htouched : t = .kubernetes ∧ id = a.request.operationId
      · obtain ⟨rfl, rfl⟩ := htouched
        have hafter := hcommits.after.symm.trans hrow
        cases hmoves with
        | insertRequested a' =>
          obtain rfl := eq_of_phaseRecord_eq (Option.some.inj hafter)
          exact ⟨_, List.mem_cons_self, ⟨answer, rfl⟩, hcommits.before, hcommits.after⟩
        | advance hadvances _ =>
          obtain rfl := eq_of_phaseRecord_eq (Option.some.inj hafter)
          exact holder hcommits.before
      · rw [stored_of_commits hcommits fun ht hid => htouched ⟨ht.symm, hid.symm⟩] at hrow
        exact holder hrow
    · exact holder hrow

/-! ## The dispatch -/

theorem exists_trust_of_boundBy {authorities : List AuthorizationTrust} {a : AuthorizedRequest C}
    (h : BoundBy authorities a) :
    ∃ trust ∈ authorities, Authority.verifyAuthorizationGrant C a.authorization.signedGrant trust =
      .ok ⟨a.authorization.authorization, a.authorization.signerKeyId,
        a.authorization.grantDigest⟩ := by
  unfold BoundBy at h
  generalize a.authorization.signedGrant = bytes at h
  generalize a.authorization = v at h
  induction authorities with
  | nil => cases h
  | cons trust authorities ih =>
    unfold verifyGrantWith at h
    split at h
    · rename_i verified hverified
      obtain rfl := Except.ok.inj h
      refine ⟨trust, List.mem_cons_self, ?_⟩
      unfold verifyAuthorizationGrant at hverified
      split at hverified
      · rename_i grant hgrant
        obtain rfl := Except.ok.inj hverified
        exact hgrant
      · cases hverified
    · obtain ⟨trust', hmem, hverified⟩ := ih h
      exact ⟨trust', List.mem_cons_of_mem _ hmem, hverified⟩
    · cases h

/-- The request of an authorization. -/
def requestOf (authorization : ExactAuthorization) : SetDeploymentImageRequest :=
  ⟨authorization.operationId, authorization.namespace, authorization.deployment,
    authorization.container, authorization.immutableImageDigest⟩

theorem request_of_agrees (a : AuthorizedRequest C) :
    a.request.request = requestOf a.authorization.authorization := by
  have h := a.agrees
  simp only [authorizationMatches, Bool.and_eq_true, decide_eq_true_eq] at h
  obtain ⟨⟨⟨⟨h₁, h₂⟩, h₃⟩, h₄⟩, h₅⟩ := h
  rw [requestOf, h₁, h₂, h₃, h₄, h₅]

/-- The patch names the Deployment, pins the identity, marks the operation and sets one
container's image, and its values are those of the authorization. -/
structure PatchCarries (document : Json) (authorization : ExactAuthorization)
    (target : TargetIdentity) : Prop where
  «namespace» : document.at? ["metadata", "namespace"] = some (.string authorization.namespace)
  name : document.at? ["metadata", "name"] = some (.string authorization.deployment)
  uid : document.at? ["metadata", "uid"] = some (.string target.deploymentUid)
  resourceVersion : document.at? ["metadata", "resourceVersion"] =
    some (.string target.resourceVersion)
  annotations : document.at? ["metadata", "annotations"] =
    some (.object [( operationAnnotation, .string authorization.operationId)])
  containers : document.at? ["spec", "template", "spec", "containers"] =
    some (.array [.object [(utf8 "name", .string authorization.container),
      (utf8 "image", .string authorization.immutableImageDigest)]])

theorem patchCarries (authorization : ExactAuthorization) (target : TargetIdentity) :
    PatchCarries (deploymentPatchDocument (requestOf authorization) target) authorization target :=
  ⟨rfl, rfl, rfl, rfl, rfl, rfl⟩

/-- A permission, made at moment `m` by a handle with these authorities after the moments
`earlier`, is for exactly the request that was signed. -/
structure ExactlyAuthorized (earlier : List (Event C)) (m : Event C)
    (authorities : List AuthorizationTrust) (permission : DispatchPermission)
    (a : AuthorizedRequest C) : Prop where
  inserted : ∃ m₀ ∈ earlier, Inserts m₀ a
  verified : ∃ trust ∈ authorities,
    Authority.verifyAuthorizationGrant C a.authorization.signedGrant trust =
      .ok ⟨a.authorization.authorization, a.authorization.signerKeyId, a.authorization.grantDigest⟩
  request : permission.intoPayload.1 = requestOf a.authorization.authorization
  patch : PatchCarries (deploymentPatchDocument permission.intoPayload.1 permission.intoPayload.2)
    a.authorization.authorization permission.intoPayload.2
  observed : identified permission.intoPayload.1 (.ok permission.intoPayload.2) ∈
    history m.session earlier
  approved : ∀ approved, a.authorization.authorization.approvedTarget = some approved →
    permission.intoPayload.2 = ⟨approved.uid, approved.resourceVersion⟩

/-- The attempt that a permission follows was on the approved target. -/
theorem target_of_confirmed {earlier : List (Event C)} {w : World} {s : ℕ}
    (h : Conforms (environment C) allowed earlier w) {expected : Record .kubernetes}
    {operation : AuthorizedOperation} {target : ValidatedTargetIdentity}
    (hlast : lastAct (history s earlier) =
      some (confirmed (.markApplyStarted expected operation target))) :
    ∀ approved ∈ operation.approvedTarget, target.toApproved = approved := by
  obtain ⟨m, hm, -, hdeed⟩ := mem_history.mp (mem_of_latest hlast)
  obtain ⟨later, before, hsplit⟩ := List.append_of_mem hm
  rw [hsplit] at h
  obtain ⟨entry, -, hallowed, -⟩ := h.of_append.exchange hdeed
  exact hallowed.1.2

/-- **Exact-authority dispatch.**  Whenever a permission is made, in any run: the row of its
identity was first inserted with a grant; that grant verifies under an authority of the
handle that dispatches; the permission's request is the tuple signed in the grant and the
patch carries exactly these values; the target is the one that the session's own preflight
observed; and where the grant approves a target, it is that one. -/
theorem permission_exactly_authorized (e : Execution C) (m : Event C) (hm : m ∈ e.moments)
    (permission : DispatchPermission) (answer : Answer (.grantPermission permission : Call C))
    (hdeed : m.deed = .act ⟨.grantPermission permission, answer⟩) :
    ∃ earlier later entry a, e.moments = later ++ m :: earlier ∧
      active m.session earlier = some entry ∧
      ExactlyAuthorized (C := C) earlier m entry.authorities permission a := by
  obtain ⟨earlier, later, hsplit, hconforms⟩ := e.exists_conforms hm
  obtain ⟨entry, hactive, hallowed, hreacts⟩ := hconforms.exchange hdeed
  have hbefore := hconforms.tail.1
  have hsound := sound_of_conforms hbefore
  obtain ⟨expected, operation, a, hlast, hrequest, hbound, hshows, hidentified⟩ := hallowed
  -- the operation that the session read is that of the grant which the handle verified
  obtain ⟨_, p, -, -, hvalid, hdecode⟩ := hsound.shows hshows
  obtain ⟨-, rfl⟩ := phase_of_authorized hvalid hdecode
  have hpayload : permission.intoPayload.1 = requestOf a.authorization.authorization := by
    rw [← request_of_agrees]
    exact congrArg ValidatedRequest.request hrequest
  obtain ⟨p', hrow⟩ := hsound.stored_of_shows hshows
  refine ⟨earlier, later, entry, a, hsplit, hactive, exists_insertion hbefore hrow,
    exists_trust_of_boundBy hbound, hpayload, ?_, hidentified, fun approved happroved => ?_⟩
  · rw [hpayload]
    exact patchCarries _ _
  · have htarget := target_of_confirmed hbefore hlast approved happroved
    rw [← htarget]
    rfl

/-- A permission that is counted is made at some moment. -/
theorem exists_permission {moments : List (Event C)} {id : Text}
    (h : 0 < occurrences (makesPermission .kubernetes id) moments) :
    ∃ m ∈ moments, ∃ permission answer, m.deed = .act ⟨.grantPermission permission, answer⟩ ∧
      permission.request.operationId = id := by
  obtain ⟨m, hm, hmakes⟩ := List.countP_pos_iff.mp h
  refine ⟨m, hm, ?_⟩
  unfold Moment.isOf at hmakes
  split at hmakes
  · rename_i x hdeed
    obtain ⟨c, answer⟩ := x
    cases c with
    | grantPermission permission =>
      simp only [makesPermission, Bool.and_eq_true, decide_eq_true_eq] at hmakes
      exact ⟨permission, answer, hdeed, hmakes.2⟩
    | grantGitPermission permission =>
      simp only [makesPermission, Bool.and_eq_true, decide_eq_true_eq] at hmakes
      exact absurd hmakes.1 (by decide)
    | _ => cases hmakes
  · cases hmakes

/-- The known operation was dispatched with its permission. -/
theorem known_permission_authorized :
    ∃ m ∈ Known.attempted.moments, ∃ permission answer,
      m.deed = .act ⟨.grantPermission permission, answer⟩ ∧
      permission.request.operationId = Known.request.operationId ∧
      ∃ earlier later entry a, Known.attempted.moments = later ++ m :: earlier ∧
        active m.session earlier = some entry ∧
        ExactlyAuthorized (C := Known.crypto) earlier m entry.authorities permission a := by
  obtain ⟨m, hm, permission, answer, hdeed, hid⟩ := exists_permission
    (show 0 < occurrences (makesPermission .kubernetes Known.request.operationId)
      Known.attempted.moments by decide +kernel)
  exact ⟨m, hm, permission, answer, hdeed, hid,
    permission_exactly_authorized Known.attempted m hm permission answer hdeed⟩

end Gateway
end Kapsel
