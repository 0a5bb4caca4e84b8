import Kapsel.Journal.Git

/-!
# Reading the rows of phases

What the reads of the journal return on a database in which an identity has the row of a
valid phase.  There are two kinds of results.  The owner of the row --- the request or the
binding whose grant it stores --- reads the phase back.  Everybody else, with another grant
or under the other effect, is told that the identity is taken: no read ever shows the row
of one grant to the holder of another.
-/

namespace Kapsel

open Grammar Fallible Authority

namespace Gateway
namespace Journal

variable {C : Crypto} {db : Database} {id : Text}

/-! ## Kubernetes rows -/

section
variable {a : AuthorizedRequest C} {p : Phase}

theorem readTable_phase (hvalid : p.Valid a)
    (hr : stored db .kubernetes id = some (phaseRecord a p)) :
    readTable db id .kubernetes = .ok (some (phaseRecord a p)) := by
  have hsmall := small_phaseRecord hvalid
  exact readTable_of_some hr (withinBounds_of_small hsmall) (isUtf8_of_small hsmall)

/-- The row of a valid phase is read back. -/
theorem operation_of_stored (hvalid : p.Valid a) (hreadable : p.Readable)
    (hr : stored db .kubernetes id = some (phaseRecord a p)) :
    operation C db id = .ok (some (p.loaded a)) := by
  refine bind_eq_ok.mpr ⟨_, readTable_phase hvalid hr, ?_⟩
  exact bind_eq_ok.mpr ⟨_, decode_phase hvalid hreadable, rfl⟩

theorem boundRecord_of_stored (hvalid : p.Valid a) (hreadable : p.Readable)
    (hr : stored db .kubernetes id = some (phaseRecord a p)) :
    boundRecord C db id (p.loaded a) = .ok (phaseRecord a p) := by
  refine bind_eq_ok.mpr ⟨_, readTable_phase hvalid hr, ?_⟩
  refine bind_eq_ok.mpr ⟨_, decode_phase hvalid hreadable, ?_⟩
  exact bind_eq_ok.mpr ⟨(), require_of_true (decide_eq_true rfl), rfl⟩

/-- The binding checks, up to the comparison with the grant of the request. -/
theorem checkBinding_eq (a' : AuthorizedRequest C) (p : Phase) :
    checkBinding C a' (phaseRecord a p) = (do
      require (a.authorization.signedGrant = a'.authorization.signedGrant &&
        a.request.request.namespace = a'.request.request.namespace &&
        a.request.request.deployment = a'.request.request.deployment &&
        a.request.request.container = a'.request.request.container &&
        a.request.request.immutableImageDigest = a'.request.request.immutableImageDigest)
        .operationIdentityConflict
      let state ← OperationState.fromSql p.state.asSql
      require (!(state = .requested && (some a.authorization.authorization.authorizationId).isNone &&
        a'.authorization.authorization.approvedTarget.isSome)) .operationIdentityConflict
      require (!((state ≠ .requested || (some a.authorization.authorization.authorizationId).isSome) &&
        !authorizationColumnsAgree C a'.authorization
          (some a.authorization.authorization.authorizationId) (some a.authorization.signerKeyId)
          (some a.authorization.grantDigest))) .operationIdentityConflict
      return state) := rfl

theorem checkBinding_phase (a : AuthorizedRequest C) (p : Phase) :
    checkBinding C a (phaseRecord a p) = .ok p.state := by
  rw [checkBinding_eq]
  refine bind_eq_ok.mpr ⟨(), require_of_true ?_, ?_⟩
  · simp only [decide_true, Bool.and_self]
  refine bind_eq_ok.mpr ⟨_, OperationState.fromSql_asSql p.state, ?_⟩
  refine bind_eq_ok.mpr ⟨(), require_of_true ?_, bind_eq_ok.mpr ⟨(), require_of_true ?_, rfl⟩⟩
  · simp only [Option.isNone_some, Bool.and_false, Bool.false_and, Bool.not_false]
  · simp only [authorizationColumnsAgree, decide_true, Bool.and_self, Bool.not_true, Bool.and_false,
      Bool.not_false]

theorem requestFacts_loaded (a : AuthorizedRequest C) (p : Phase) :
    (p.loaded a).requestFacts.approvedTarget = a.authorization.authorization.approvedTarget := by
  cases p <;> rfl

/-- **The owner reads its row.** -/
theorem authorizedRecordOn_of_stored (hvalid : p.Valid a) (hreadable : p.Readable)
    (hr : stored db .kubernetes a.request.operationId = some (phaseRecord a p)) :
    authorizedRecordOn C db a = .ok (some (p.loaded a)) := by
  refine bind_eq_ok.mpr ⟨_, readTable_phase hvalid hr, ?_⟩
  refine bind_eq_ok.mpr ⟨_, checkBinding_phase a p, ?_⟩
  refine bind_eq_ok.mpr ⟨_, decode_phase hvalid hreadable, ?_⟩
  refine bind_eq_ok.mpr ⟨(), require_of_true (decide_eq_true (requestFacts_loaded a p)), ?_⟩
  exact bind_eq_ok.mpr ⟨(), require_of_true (decide_eq_true (Phase.state_loaded a p)), rfl⟩

/-- An identity of the Git table is a conflict. -/
theorem authorizedRecordOn_git {r : Record .git}
    (hnone : stored db .kubernetes a.request.operationId = none)
    (hgit : stored db .git a.request.operationId = some r) :
    authorizedRecordOn C db a = .error .operationIdentityConflict := by
  refine (bind_of_ok (readTable_of_none hnone) _).trans ?_
  refine bind_of_error (require_of_false ?_) _
  rw [hgit]
  rfl

/-- A request that nobody has is in neither table. -/
theorem stored_of_authorizedRecordOn_none (h : authorizedRecordOn C db a = .ok none) :
    stored db .kubernetes a.request.operationId = none ∧
      stored db .git a.request.operationId = none := by
  unfold authorizedRecordOn at h
  obtain ⟨record, hread, h⟩ := bind_eq_ok.mp h
  cases record with
  | none =>
    obtain ⟨_, hother, -⟩ := bind_eq_ok.mp h
    exact ⟨readTable_eq_ok hread, Option.isNone_iff_eq_none.mp (require_eq_ok.mp hother)⟩
  | some record =>
    obtain ⟨_, -, h⟩ := bind_eq_ok.mp h
    obtain ⟨_, -, h⟩ := bind_eq_ok.mp h
    obtain ⟨_, -, h⟩ := bind_eq_ok.mp h
    obtain ⟨_, -, h⟩ := bind_eq_ok.mp h
    cases h

end

/-! ## Git rows -/

section
variable {b : GitBinding C} {p : GitPhase}

theorem bounds_of_gitDecode {receipt : Bytes} {keyId : Text} {statement : GitStatement}
    (h : GitStatement.decode receipt = .ok (keyId, statement)) :
    receipt.length ≤ Receipt.receiptBytesMax ∧ identityIsValid keyId = true := by
  obtain ⟨envelope, henvelope, hpair⟩ := bind_eq_ok.mp h
  obtain ⟨rfl, rfl⟩ := Prod.mk.inj (Except.ok.inj hpair)
  obtain ⟨hlength, hkey, -⟩ := Receipt.parseEnvelope_eq_ok henvelope
  exact ⟨hlength, hkey⟩

theorem GitPhase.Valid.seen (h : p.Valid b) : ∀ seen ∈ p.seen, SeenValid seen := by
  intro seen hseen
  cases p with
  | observed acknowledgement seen' =>
    obtain rfl := Option.some.inj hseen
    exact h
  | finalized statement receipt =>
    obtain rfl := Option.some.inj hseen
    exact h.2.1
  | _ => cases hseen

theorem GitPhase.Valid.receipt (h : p.Valid b) :
    ∀ receipt ∈ p.receipt, digestHex C receipt.bytes = receipt.digest ∧
      receipt.bytes.length ≤ Receipt.receiptBytesMax ∧ identityIsValid receipt.keyId = true := by
  intro receipt hreceipt
  cases p with
  | finalized statement receipt' =>
    obtain rfl := Option.some.inj hreceipt
    obtain ⟨hlength, hkey⟩ := bounds_of_gitDecode h.2.2.2.1
    exact ⟨h.2.2.2.2, hlength, hkey⟩
  | _ => cases hreceipt

/-- **The row of a valid Git phase is small.** -/
theorem small_gitRecord (h : p.Valid b) : (gitRecord b p).Small := by
  obtain ⟨trust, hgrant⟩ := b.verified
  have hvalid := hgrant.valid
  have hrejection : ∀ r : GitRejection, Fits 128 r.asSql := by
    intro r
    cases r <;> exact ⟨by decide, by decide, by decide⟩
  have hword : ∀ acknowledgement : Acknowledgement, Fits 128 acknowledgement.asStr := by
    intro acknowledgement
    cases acknowledgement <;> exact ⟨by decide, by decide, by decide⟩
  have hkind : ∀ seen : ObservedRef, Fits 128 (kindWord seen) := by
    intro seen
    cases seen with
    | commit id => exact (⟨by decide, by decide, by decide⟩ : Fits 128 (utf8 "commit"))
    | missing => exact ⟨by decide, by decide, by decide⟩
    | unknown => exact ⟨by decide, by decide, by decide⟩
  have hcommit : ∀ {id : Text}, gitCommitIdIsValid id = true → Fits 128 id := fun hid =>
    (fits_of_gitCommitIdIsValid hid).mono (by decide)
  intro c
  show (gitValue b p c).Within (columnBound c)
  cases c with
  | operationId => exact within_text (fits_of_identityIsValid hvalid.operationId)
  | repositoryId => exact within_text (fits_of_identityIsValid hvalid.repositoryId)
  | refName =>
    show (Value.text b.authorization.reference).Within 128
    rw [hvalid.reference]
    exact within_text ⟨by decide, by decide, by decide⟩
  | oldCommit => exact within_text (hcommit hvalid.oldCommit)
  | newCommit => exact within_text (hcommit hvalid.newCommit)
  | authorizationId => exact within_text (fits_of_identityIsValid hvalid.authorizationId)
  | authorizationSignerKeyId => exact within_text (fits_of_identityIsValid hgrant.signerKeyId)
  | authorizationGrantDigest =>
    have hdigest : b.digest = digestHex C b.grant := hgrant.grantDigest
    show (Value.text b.digest).Within 128
    rw [hdigest]
    exact within_text (fits_digestHex _)
  | signedAuthorizationGrant => exact within_blob hgrant.length_le
  | state => exact within_text (fits_operationState p.state)
  | targetRejection => exact within_optionalText_map fun r _ => hrejection r
  | acknowledgement => exact within_optionalText_map fun acknowledgement _ => hword acknowledgement
  | observedRefKind => exact within_optionalText_map fun seen _ => hkind seen
  | observedCommit =>
    refine within_optionalText fun id hid => ?_
    obtain ⟨seen, hseen, hobserved⟩ := Option.bind_eq_some_iff.mp hid
    cases seen with
    | commit id' =>
      obtain rfl := Option.some.inj hobserved
      exact hcommit (h.seen _ hseen id' rfl)
    | missing => cases hobserved
    | unknown => cases hobserved
  | receiptDigest =>
    refine within_optionalText_map fun receipt hreceipt => ?_
    rw [← (h.receipt receipt hreceipt).1]
    exact fits_digestHex _
  | receiptKeyId =>
    refine within_optionalText_map fun receipt hreceipt => ?_
    exact fits_of_identityIsValid (h.receipt receipt hreceipt).2.2
  | receiptBytes =>
    refine within_optionalBlob fun bytes hbytes => ?_
    obtain ⟨receipt, hreceipt, rfl⟩ := Option.map_eq_some_iff.mp hbytes
    exact (h.receipt receipt hreceipt).2.1
  | _ => exact within_null _

theorem storable_gitRecord (h : p.Valid b) : (gitRecord b p).storable = true := by
  refine storable_of_small (small_gitRecord h) fun c hc => ?_
  simp only [Table.notNull, List.mem_cons, List.not_mem_nil, or_false] at hc
  rcases hc with rfl | rfl | rfl | rfl | rfl | rfl <;> rintro ⟨⟩

theorem readTable_gitPhase (hvalid : p.Valid b)
    (hr : stored db .git id = some (gitRecord b p)) :
    readTable db id .git = .ok (some (gitRecord b p)) := by
  have hsmall := small_gitRecord hvalid
  exact readTable_of_some hr (withinBounds_of_small hsmall) (isUtf8_of_small hsmall)

end

end Journal
end Gateway
end Kapsel
