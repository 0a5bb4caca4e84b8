import Kapsel.Journal.Git

/-!
# Only an insertion finds the journal full

An admission that fails with `JournalFull` is answered as a refusal, and every other error is
not answered at all.  So it matters where that error can come from: `NeverFull` says of a
computation that it does not, and it is closed under everything that the decoders are made of.
The reads of both tables are never full, whatever the rows hold.
-/

namespace Kapsel

open Grammar Fallible Authority

namespace Gateway
namespace Journal

/-- The computation does not fail with `JournalFull`. -/
def NeverFull {α : Type} (x : Except GatewayError α) : Prop := x ≠ .error .journalFull

section
variable {α β ε : Type} {x : Except GatewayError α}

theorem neverFull_ok (a : α) : NeverFull (.ok a : Except GatewayError α) := fun h => nomatch h

theorem neverFull_pure (a : α) : NeverFull (pure a : Except GatewayError α) := fun h => nomatch h

theorem neverFull_invalid : NeverFull (.error .invalidPersistedState : Except GatewayError α) :=
  fun h => nomatch h

theorem NeverFull.bind {f : α → Except GatewayError β} (h : NeverFull x)
    (hf : ∀ a, NeverFull (f a)) : NeverFull (x >>= f) := by
  intro hfull
  rcases bind_eq_error.mp hfull with hx | ⟨a, -, ha⟩
  · exact h hx
  · exact hf a ha

theorem neverFull_require {condition : Bool} {error : GatewayError} (h : error ≠ .journalFull) :
    NeverFull (require condition error) :=
  fun hfull => h (require_eq_error.mp hfull).2

theorem neverFull_check (condition : Bool) :
    NeverFull (require condition (.invalidPersistedState : GatewayError)) :=
  neverFull_require (by nofun)

theorem neverFull_conflict (condition : Bool) :
    NeverFull (require condition (.operationIdentityConflict : GatewayError)) :=
  neverFull_require (by nofun)

theorem neverFull_mapInvalid (y : Except ε α) :
    NeverFull (y.mapError fun _ => .invalidPersistedState) := by
  cases y with
  | ok a => exact neverFull_ok a
  | error e => exact neverFull_invalid

theorem neverFull_mapReceipt (y : Except ReceiptError α) : NeverFull (y.mapError .receipt) := by
  cases y with
  | ok a => exact neverFull_ok a
  | error e => exact fun h => nomatch h

theorem neverFull_mapM {f : β → Except GatewayError α} (h : ∀ b, NeverFull (f b)) (y : Option β) :
    NeverFull (y.mapM f) := by
  cases y with
  | none => exact neverFull_pure none
  | some b => exact (h b).bind fun a => neverFull_pure (some a)

theorem neverFull_forM {f : β → Except GatewayError Unit} (h : ∀ b, NeverFull (f b)) (l : List β) :
    NeverFull (forM l f) := by
  induction l with
  | nil => exact neverFull_pure ()
  | cons b l ih => exact (h b).bind fun _ => ih

end

/-! ## Columns and words -/

section
variable {t : Table} (r : Record t) (c : Column)

theorem neverFull_getText : NeverFull (r.getText c) := by
  unfold Record.getText
  split
  · exact neverFull_ok _
  · exact neverFull_invalid

theorem neverFull_getOptionalText : NeverFull (r.getOptionalText c) := by
  unfold Record.getOptionalText
  split
  · exact neverFull_ok _
  · exact neverFull_ok _
  · exact neverFull_invalid

theorem neverFull_getInteger : NeverFull (r.getInteger c) := by
  unfold Record.getInteger
  split
  · exact neverFull_ok _
  · exact neverFull_invalid

theorem neverFull_getOptionalInteger : NeverFull (r.getOptionalInteger c) := by
  unfold Record.getOptionalInteger
  split
  · exact neverFull_ok _
  · exact neverFull_ok _
  · exact neverFull_invalid

theorem neverFull_getOptionalInt32 : NeverFull (r.getOptionalInt32 c) := by
  unfold Record.getOptionalInt32
  split
  · exact neverFull_ok _
  · split
    · exact neverFull_ok _
    · exact neverFull_invalid
  · exact neverFull_invalid

theorem neverFull_getBlob : NeverFull (r.getBlob c) := by
  unfold Record.getBlob
  split
  · exact neverFull_ok _
  · exact neverFull_invalid

theorem neverFull_getOptionalBlob : NeverFull (r.getOptionalBlob c) := by
  unfold Record.getOptionalBlob
  split
  · exact neverFull_ok _
  · exact neverFull_ok _
  · exact neverFull_invalid

end

theorem neverFull_present {α : Type} (x : Option α) : NeverFull (present x) := by
  cases x with
  | none => exact neverFull_invalid
  | some a => exact neverFull_ok a

theorem neverFull_state (value : Text) : NeverFull (OperationState.fromSql value) := by
  unfold OperationState.fromSql
  split_ifs <;> first | exact neverFull_ok _ | exact neverFull_invalid

theorem neverFull_rejection (value : Text) : NeverFull (TargetRejection.fromSql value) := by
  unfold TargetRejection.fromSql
  split_ifs <;> first | exact neverFull_ok _ | exact neverFull_invalid

theorem neverFull_result (value : Text) : NeverFull (OperationResult.fromSql value) := by
  unfold OperationResult.fromSql
  split_ifs <;> first | exact neverFull_ok _ | exact neverFull_invalid

theorem neverFull_sqlBool (value : Int64) : NeverFull (decodeSqlBool value) := by
  unfold decodeSqlBool
  split_ifs <;> first | exact neverFull_ok _ | exact neverFull_invalid

theorem neverFull_readTable (db : Database) (id : Text) (t : Table) :
    NeverFull (readTable db id t) := by
  intro h
  rcases readTable_eq_error h with herror | herror
  · cases herror
  · cases herror

/-! ## Kubernetes rows -/

theorem neverFull_snapshotTarget (uid version : Option Text) :
    NeverFull (snapshotTarget uid version) := by
  unfold snapshotTarget
  split
  · exact neverFull_ok _
  · split_ifs
    · exact neverFull_ok _
    · exact neverFull_invalid
  · exact neverFull_invalid

theorem neverFull_snapshotRow (r : Record .kubernetes) : NeverFull (snapshotRow r) := by
  unfold snapshotRow
  repeat' first
    | exact neverFull_pure _
    | exact neverFull_getText _ _
    | exact neverFull_getOptionalText _ _
    | exact neverFull_getInteger _ _
    | exact neverFull_getOptionalInteger _ _
    | exact neverFull_getOptionalBlob _ _
    | refine NeverFull.bind ?_ fun _ => ?_

theorem neverFull_receiptStatement (r : Record .kubernetes) : NeverFull (receiptStatement r) := by
  unfold receiptStatement
  repeat' first
    | exact neverFull_pure _
    | exact neverFull_getText _ _
    | exact neverFull_getOptionalText _ _
    | exact neverFull_getOptionalInteger _ _
    | exact neverFull_getOptionalInt32 _ _
    | exact neverFull_present _
    | exact neverFull_snapshotTarget _ _
    | exact neverFull_result _
    | exact neverFull_mapInvalid _
    | refine NeverFull.bind ?_ fun _ => ?_

theorem neverFull_authorization (id signer digest : Option Text) :
    NeverFull (validateSnapshotAuthorization id signer digest) := by
  have hdigest : ∀ value, NeverFull (Sha256Digest.tryFrom value) := by
    intro value
    unfold Sha256Digest.tryFrom
    split_ifs
    · exact neverFull_ok _
    · exact neverFull_invalid
  unfold validateSnapshotAuthorization
  split
  · exact neverFull_ok _
  · refine (neverFull_check _).bind fun _ => ?_
    refine (neverFull_check _).bind fun _ => ?_
    exact (hdigest _).bind fun _ => neverFull_pure _
  · exact neverFull_invalid

theorem neverFull_attemptFacts (state : OperationState) (strategy uid version : Option Text)
    (accepted : Option Bool) (generation : Option Int64) (applied : Option Text) :
    NeverFull (validateSnapshotAttemptFacts state strategy uid version accepted generation
      applied) := by
  have htarget : NeverFull (snapshotAttemptTarget strategy uid version) := by
    unfold snapshotAttemptTarget
    split
    · refine (neverFull_check _).bind fun _ => ?_
      exact (neverFull_mapInvalid _).bind fun _ => neverFull_pure _
    · exact neverFull_ok _
    · exact neverFull_invalid
  have hresponse : ∀ target, NeverFull (snapshotResponse state target generation accepted
      applied) := by
    intro target
    unfold snapshotResponse
    split
    · split_ifs
      · exact neverFull_ok _
      · exact neverFull_invalid
    · exact (neverFull_mapInvalid _).bind fun _ => neverFull_pure _
    · exact neverFull_invalid
  refine htarget.bind fun target => ?_
  cases target with
  | none => exact (neverFull_check _).bind fun _ => neverFull_pure _
  | some target => exact (hresponse target).bind fun _ => neverFull_pure _

section
variable {C : Crypto}

theorem neverFull_frozenReceipt (id : Text) (digest : Option Text) (bytes : Option Bytes)
    (keyId : Option Text) (statement : Option ReceiptStatement) :
    NeverFull (snapshotFrozenReceipt C id digest bytes keyId statement) := by
  unfold snapshotFrozenReceipt
  split
  · exact neverFull_ok _
  · have hvalidate : ∀ receipt, NeverFull (validateFrozenReceipt C receipt) := fun receipt =>
      (neverFull_require (by nofun)).bind fun _ =>
        (neverFull_check _).bind fun _ => neverFull_pure _
    refine (hvalidate _).bind fun receipt => (neverFull_present _).bind fun expected => ?_
    refine (neverFull_mapReceipt _).bind fun embedded => ?_
    exact (neverFull_check _).bind fun _ => neverFull_pure _
  · exact neverFull_invalid

theorem neverFull_operation (f : SnapshotFacts) (state : OperationState) :
    NeverFull (f.operation state) := by
  cases state <;> unfold SnapshotFacts.operation <;> dsimp only <;>
    (repeat' split) <;> first | exact neverFull_ok _ | exact neverFull_invalid

theorem neverFull_decode (r : Record .kubernetes) : NeverFull (decode C r) := by
  have hinto : ∀ (row : SnapshotRow) (statement : Option ReceiptStatement),
      NeverFull (row.intoOperation C statement) := by
    intro row statement
    unfold SnapshotRow.intoOperation
    refine (neverFull_state _).bind fun state => (neverFull_sqlBool _).bind fun attempted => ?_
    refine (neverFull_mapM neverFull_sqlBool _).bind fun accepted => ?_
    refine (neverFull_snapshotTarget _ _).bind fun approved => ?_
    refine (neverFull_snapshotTarget _ _).bind fun preflight => ?_
    refine (neverFull_check _).bind fun _ => ?_
    refine (neverFull_mapInvalid _).bind fun request => ?_
    refine (neverFull_mapM neverFull_result _).bind fun result => ?_
    refine (neverFull_mapM neverFull_rejection _).bind fun rejection => ?_
    refine (neverFull_authorization _ _ _).bind fun authorization => ?_
    refine (neverFull_attemptFacts _ _ _ _ _ _ _).bind fun attempt => ?_
    refine (neverFull_check _).bind fun _ => ?_
    refine (neverFull_check _).bind fun _ => ?_
    refine (neverFull_check _).bind fun _ => ?_
    refine (neverFull_check _).bind fun _ => ?_
    exact (neverFull_frozenReceipt _ _ _ _ _).bind fun receipt => neverFull_operation _ _
  unfold decode
  refine (neverFull_snapshotRow r).bind fun snapshot => ?_
  split
  · exact (neverFull_receiptStatement r).bind fun _ => hinto _ _
  · exact hinto _ _

/-- **An authenticated read of the Kubernetes table is never full.** -/
theorem neverFull_authorizedRecordOn (db : Database) (a : AuthorizedRequest C) :
    NeverFull (authorizedRecordOn C db a) := by
  have hbinding : ∀ record, NeverFull (checkBinding C a record) := by
    intro record
    unfold checkBinding
    refine (neverFull_getText _ _).bind fun _ => (neverFull_getText _ _).bind fun _ => ?_
    refine (neverFull_getText _ _).bind fun _ => (neverFull_getText _ _).bind fun _ => ?_
    refine (neverFull_getOptionalText _ _).bind fun _ => ?_
    refine (neverFull_getOptionalText _ _).bind fun _ => ?_
    refine (neverFull_getOptionalText _ _).bind fun _ => (neverFull_getText _ _).bind fun _ => ?_
    refine (neverFull_getOptionalBlob _ _).bind fun _ => (neverFull_present _).bind fun _ => ?_
    refine (neverFull_conflict _).bind fun _ => ?_
    refine (neverFull_state _).bind fun _ => ?_
    refine (neverFull_conflict _).bind fun _ => ?_
    exact (neverFull_conflict _).bind fun _ => neverFull_pure _
  unfold authorizedRecordOn
  refine (neverFull_readTable _ _ _).bind fun record => ?_
  cases record with
  | none => exact (neverFull_conflict _).bind fun _ => neverFull_pure _
  | some record =>
    refine (hbinding record).bind fun state => (neverFull_decode record).bind fun loaded => ?_
    refine (neverFull_conflict _).bind fun _ => ?_
    exact (neverFull_check _).bind fun _ => neverFull_pure _

/-! ## Git rows -/

theorem neverFull_decodePhase (state : Text) (rejection acknowledgement kind commit : Option Text) :
    NeverFull (decodePhase state rejection acknowledgement kind commit) := by
  have hacknowledgement : ∀ value, NeverFull (decodeAcknowledgement value) := by
    intro value
    unfold decodeAcknowledgement
    split
    · exact neverFull_ok _
    · exact neverFull_invalid
  have hobserved : NeverFull (decodeObserved kind commit) := by
    unfold decodeObserved
    repeat' split
    all_goals first | exact neverFull_ok _ | exact neverFull_invalid
  refine (neverFull_mapM hacknowledgement _).bind fun _ => hobserved.bind fun _ => ?_
  unfold phaseOf
  repeat' split
  all_goals first | exact neverFull_ok _ | exact neverFull_invalid

/-- **The decoder of the Git table is never full.** -/
theorem neverFull_decodeRecord (record : Record .git) (b : GitBinding C) :
    NeverFull (decodeRecord record b) := by
  have hcolumn : ∀ field, NeverFull (requireColumn record field) := fun field =>
    (neverFull_getText _ _).bind fun _ => neverFull_conflict _
  have hreceipt : ∀ (id state : Text) (digest : Option Text) (bytes : Option Bytes)
      (keyId : Option Text), NeverFull (decodeReceipt C id state digest bytes keyId) := by
    intro id state digest bytes keyId
    unfold decodeReceipt
    repeat' split
    all_goals first | exact neverFull_ok _ | exact neverFull_invalid
  unfold decodeRecord
  refine (neverFull_forM hcolumn _).bind fun _ => (neverFull_getBlob _ _).bind fun _ => ?_
  refine (neverFull_conflict _).bind fun _ => ?_
  refine (neverFull_getText _ _).bind fun _ => (neverFull_getOptionalText _ _).bind fun _ => ?_
  refine (neverFull_getOptionalText _ _).bind fun _ => ?_
  refine (neverFull_getOptionalText _ _).bind fun _ => ?_
  refine (neverFull_getOptionalText _ _).bind fun _ => ?_
  refine (neverFull_getOptionalText _ _).bind fun _ => ?_
  refine (neverFull_getOptionalBlob _ _).bind fun _ => ?_
  refine (neverFull_getOptionalText _ _).bind fun _ => (hreceipt _ _ _ _ _).bind fun receipt => ?_
  refine (neverFull_decodePhase _ _ _ _ _).bind fun phase => ?_
  cases receipt with
  | none => exact neverFull_ok _
  | some receipt =>
    refine (neverFull_present _).bind fun statement => ?_
    refine (neverFull_mapReceipt _).bind fun decoded => ?_
    exact (neverFull_check _).bind fun _ => neverFull_pure _

end

end Journal
end Gateway
end Kapsel
