import Kapsel.Application.Catalog
import Kapsel.Application.Disposition
import Kapsel.Json.Reader

/-!
# The replies of the daemon

`crates/kapsel-daemon/src/server/protocol.rs` writes the replies, and `server.rs` decides which
read is made for which request.  Short replies are literal texts, longer ones are printed by
`serde_json`, and a status is a literal text with the fields of two printed objects glued to it.
A page of the history reads every status that was written back in and prints it again, without
its version and with its identity.

The names of the fields are those of the wire.  The reader of `serde_json` is a parameter.
-/

namespace Kapsel

open Grammar Authority Interaction

namespace Daemon

open Gateway Application Json

variable {C : Crypto}

/-! ## Building documents -/

/-- Members with the names of the wire. -/
def named (members : List (String × Document)) : Members :=
  members.map fun member => (utf8 member.1, member.2)

/-- An object of the `json!` macro: a map, in the order of its names. -/
def json (members : List (String × Document)) : Document := .object (toMap (named members))

/-- A text of the source. -/
def word (s : String) : Document := .string (utf8 s)

/-- The number 1. -/
def one : Document := .number (utf8 "1")

/-- What is there, or `null`. -/
def nullable {α : Type} (f : α → Document) : Option α → Document
  | none => .null
  | some a => f a

/-! ## Frames -/

/-- `ResponseClass`. -/
inductive ResponseClass where
  | ordinary
  | receipt
  deriving DecidableEq

/-- `ORDINARY_RESPONSE_BYTES_MAX` and `RECEIPT_RESPONSE_BYTES_MAX`. -/
def ResponseClass.maximum : ResponseClass → ℕ
  | ordinary => 16 * 1024
  | receipt => 40 * 1024

/-- `response_length_allowed`. -/
def responseLengthAllowed (length : ℕ) (kind : ResponseClass) : Bool :=
  0 < length && length ≤ kind.maximum && length < 2 ^ 32

theorem ResponseClass.maximum_le (kind : ResponseClass) : kind.maximum ≤ 40 * 1024 := by
  cases kind <;> decide

theorem responseLengthAllowed_iff {length : ℕ} {kind : ResponseClass} :
    responseLengthAllowed length kind = true ↔ 0 < length ∧ length ≤ kind.maximum := by
  have hmaximum := kind.maximum_le
  simp only [responseLengthAllowed, Bool.and_eq_true, decide_eq_true_eq]
  omega

theorem length_le_of_allowed {length : ℕ} {kind : ResponseClass}
    (h : responseLengthAllowed length kind = true) : length ≤ 40 * 1024 :=
  (responseLengthAllowed_iff.mp h).2.trans kind.maximum_le

/-! ## Errors and submissions -/

/-- The class of an error that a caller sees. -/
def errorClass : ServiceError → Text
  | .invalidRequest => utf8 "invalid_request"
  | .authorityUnavailable => utf8 "authority_unavailable"
  | .configuration => utf8 "operation_failure"
  | .operationFailure => utf8 "operation_failure"
  | .storageMissing => utf8 "operation_failure"
  | .storageInvalid => utf8 "operation_failure"
  | .storageUnavailable => utf8 "operation_failure"

/-- `service_error`. -/
def serviceError (error : ServiceError) : Bytes :=
  utf8 "\x7b\"version\":1,\"status\":\"ERROR\",\"error_class\":\"" ++ errorClass error ++
    utf8 "\"\x7d"

/-- `invalid_request`. -/
def invalidRequest : Bytes := serviceError .invalidRequest

/-- `operation_failure`. -/
def operationFailure : Bytes := serviceError .operationFailure

/-- `phase_name`. -/
def phaseName : OperationState → Text
  | .requested => utf8 "requested"
  | .authorized => utf8 "authorized"
  | .notAttempted => utf8 "not_attempted"
  | .applyStarted => utf8 "apply_started"
  | .receiverObserved => utf8 "receiver_observed"
  | .finalized => utf8 "finalized"

/-- `ServiceAdmission`. -/
inductive ServiceAdmission where
  | admitted (phase : OperationState)
  | busy
  | full
  deriving DecidableEq

/-- `SubmissionAdmission`. -/
inductive SubmissionAdmission where
  | decided (admission : ServiceAdmission)
  | indeterminate
  | error (error : ServiceError)
  deriving DecidableEq

/-- `render_submission`. -/
def renderSubmission : SubmissionAdmission → Bytes
  | .decided (.admitted phase) =>
      utf8 "\x7b\"version\":1,\"status\":\"ADMITTED\",\"phase\":\"" ++ phaseName phase ++
        utf8 "\"\x7d"
  | .decided .busy => utf8 "\x7b\"version\":1,\"status\":\"NOT_ADMITTED\",\"reason\":\"BUSY\"\x7d"
  | .decided .full =>
      utf8 "\x7b\"version\":1,\"status\":\"NOT_ADMITTED\",\"reason\":\"CAPACITY\"\x7d"
  | .indeterminate => utf8 "\x7b\"version\":1,\"status\":\"INDETERMINATE\"\x7d"
  | .error error => serviceError error

/-! ## Statuses -/

/-- `target_rejection`. -/
def targetRejection : TargetRejection → Text
  | .deploymentNotFound => utf8 "DEPLOYMENT_NOT_FOUND"
  | .containerNotFound => utf8 "CONTAINER_NOT_FOUND"
  | .invalidTarget => utf8 "INVALID_TARGET"
  | .staleApproval => utf8 "STALE_APPROVAL"
  | .gitStaleRef => utf8 "GIT_STALE_REF"
  | .gitInvalidObjects => utf8 "GIT_INVALID_OBJECTS"

/-- `render_status`. -/
def renderStatus : Except ServiceError OperationStatus → Bytes
  | .ok .notFound => utf8 "\x7b\"version\":1,\"status\":\"NOT_FOUND\"\x7d"
  | .ok .inProgress => utf8 "\x7b\"version\":1,\"status\":\"IN_PROGRESS\"\x7d"
  | .ok .succeeded => utf8 "\x7b\"version\":1,\"status\":\"SUCCEEDED\"\x7d"
  | .ok .failed => utf8 "\x7b\"version\":1,\"status\":\"FAILED\"\x7d"
  | .ok .unknown => utf8 "\x7b\"version\":1,\"status\":\"UNKNOWN\"\x7d"
  | .ok (.notAttempted rejection) =>
      utf8 "\x7b\"version\":1,\"status\":\"NOT_ATTEMPTED\",\"target_rejection\":\"" ++
        targetRejection rejection ++ utf8 "\"\x7d"
  | .error error => serviceError error

/-- `append_object_fields`: the last brace of the one and the first of the other make a comma. -/
def appendObjectFields (output fields : Bytes) : Bytes := output.dropLast ++ 44 :: fields.tail

/-- An approved target, or an attempted one. -/
def targetFields (target : ApprovedTarget) : Document :=
  json [("uid", .string target.uid), ("resource_version", .string target.resourceVersion)]

/-- An observed target. -/
def observedFields (target : ObservedTarget) : Document :=
  json [("uid", nullable .string target.uid),
    ("resource_version", nullable .string target.resourceVersion)]

/-- The ref that the receiver reported. -/
def observedRef : ObservedRef → Document
  | .commit id => json [("kind", word "commit"), ("commit", .string id)]
  | .missing => json [("kind", word "missing"), ("commit", .null)]
  | .unknown => json [("kind", word "unknown"), ("commit", .null)]

/-- `git_targets`. -/
def gitTargets (targets : GitOperationTargets) : Document :=
  json [("repository_id", .string targets.approval.repositoryId),
    ("reference", .string targets.approval.reference),
    ("old_commit", .string targets.approval.oldCommit),
    ("new_commit", .string targets.approval.newCommit),
    ("attempted", .bool targets.attempted),
    ("acknowledgement", nullable (fun word => .string word.asStr) targets.acknowledgement),
    ("observed_ref", nullable observedRef targets.observedRef)]

/-- The fields that `render_status_with_targets` adds. -/
def targetsFields (targets : OperationTargets) : Document :=
  match targets.git with
  | some git => json [("effect", word "git.transition_ref"), ("git", gitTargets git)]
  | none =>
      json [("effect", word "kubernetes.set_deployment_image"),
        ("approved_target", nullable targetFields targets.approvedTarget),
        ("attempt_target", nullable targetFields targets.attemptTarget),
        ("observed_target", nullable observedFields targets.observedTarget)]

/-- `render_status_with_targets`. -/
def renderStatusWithTargets : Except ServiceError (OperationStatus × OperationTargets) → Bytes
  | .error error => serviceError error
  | .ok (status, targets) =>
      let output := renderStatus (.ok status)
      if status = .notFound then output
      else appendObjectFields output (targetsFields targets).print

/-- The fields that `render_execution_status` adds. -/
def executionFields (execution : ExecutionDisposition) : Document :=
  json [("execution", json [("disposition", .string execution.asStr),
    ("condition", nullable (fun condition => .string condition.asStr) execution.condition),
    ("next_action", .string execution.nextAction),
    ("action_owner", .string execution.actionOwner)])]

/-- `render_execution_status`. -/
def renderExecutionStatus :
    Except ServiceError (OperationStatus × OperationTargets × ExecutionDisposition) → Bytes
  | .error error => serviceError error
  | .ok (status, targets, execution) =>
      appendObjectFields (renderStatusWithTargets (.ok (status, targets)))
        (executionFields execution).print

/-! ## Receipts -/

/-- `lowercase_hex`. -/
def lowercaseHex (bytes : Bytes) : Text := bytes.flatMap hexByte

/-- `valid_sha256`. -/
def validSha256 (value : Text) : Bool := isLowercaseSha256 value

/-- The fixed wrapper of a receipt, with the digest. -/
def wrapperBytes : ℕ :=
  (utf8 "\x7b\"version\":1,\"status\":\"READY\",\"receipt_hex\":\"\",\"receipt_sha256\":\"\"\x7d").length
    + 64

/-- `render_receipt`. -/
def renderReceipt : Except ServiceError OperationReceipt → Bytes
  | .ok .notFound => utf8 "\x7b\"version\":1,\"status\":\"NOT_FOUND\"\x7d"
  | .ok .notReady => utf8 "\x7b\"version\":1,\"status\":\"NOT_READY\"\x7d"
  | .ok (.ready bytes sha256) =>
      if !validSha256 sha256 then operationFailure
      else if !responseLengthAllowed (bytes.length * 2 + wrapperBytes) .receipt then []
      else
        utf8 "\x7b\"version\":1,\"status\":\"READY\",\"receipt_hex\":\"" ++ lowercaseHex bytes ++
          utf8 "\",\"receipt_sha256\":\"" ++ sha256 ++ utf8 "\"\x7d"
  | .error error => serviceError error

/-! ## Pages -/

/-- An entry of `render_catalog`. -/
def catalogEntry : ApprovedAction → Document
  | .kubernetes request approvedTarget label =>
      json [("effect", word "kubernetes.set_deployment_image"),
        ("operation_id", .string request.operationId),
        ("namespace", .string request.namespace),
        ("deployment", .string request.deployment),
        ("container", .string request.container),
        ("immutable_image_digest", .string request.immutableImageDigest),
        ("approved_target", targetFields approvedTarget),
        ("label", .string label)]
  | .git authorization label =>
      json [("effect", word "git.transition_ref"),
        ("operation_id", .string authorization.operationId),
        ("repository_id", .string authorization.repositoryId),
        ("reference", .string authorization.reference),
        ("old_commit", .string authorization.oldCommit),
        ("new_commit", .string authorization.newCommit),
        ("label", .string label)]

/-- A page of entries, with the cursor of the next one. -/
def pageDocument (entries : List Document) (nextCursor : Option Text) : Document :=
  json [("version", one), ("status", word "READY"), ("entries", .array entries),
    ("next_cursor", nullable .string nextCursor)]

/-- `render_catalog`. -/
def renderCatalog (entries : List ApprovedAction) (nextCursor : Option Text) : Bytes :=
  (pageDocument (entries.map catalogEntry) nextCursor).print

/-- An entry of `render_execution_history`: the status that was written is read back in, loses its
version and gets its identity. -/
def historyEntry (reader : Reader) (observation : Text → ExecutionObservation)
    (entry : HistoryEntry) : Option Document :=
  match (reader.parse (renderExecutionStatus
    (entry.executionStatus (observation entry.operationId)))).map Document.toValue with
  | some (.object fields) =>
      some (.object (insert (utf8 "operation_id") (.string entry.operationId)
        (remove (utf8 "version") fields)))
  | _ => none

/-- `render_execution_history`. -/
def renderExecutionHistory (reader : Reader) (page : HistoryPage)
    (observation : Text → ExecutionObservation) : Bytes :=
  match page.entries.mapM (historyEntry reader observation) with
  | some entries => (pageDocument entries page.nextCursor).print
  | none => operationFailure

/-! ## Requests -/

/-- `ReadRequest`. -/
inductive ReadRequest where
  | list (after : Option Text)
  | history (after : Option Text)
  | status (id : Text)
  | receipt (id : Text)

/-- The class of the reply to a request. -/
def ReadRequest.responseClass : ReadRequest → ResponseClass
  | receipt _ => .receipt
  | _ => .ordinary

/-- `ServiceApplication::read_observed`: the reply to a request. -/
def readObserved (reader : Reader) (trust : List AuthorizationTrust)
    (approvals : List SelectableApproval) (observation : Text → ExecutionObservation) :
    ReadRequest → Program (Call C) Answer Bytes
  | .status id => do
      let found ← (executionStatus (C := C) trust id (observation id)).run
      return renderExecutionStatus found
  | .receipt id => do
      let found ← (Application.receipt (C := C) trust id).run
      return renderReceipt found
  | .list after =>
      match listCatalog approvals after with
      | .ok page => return renderCatalog page.entries page.nextCursor
      | .error error => return serviceError error
  | .history after => do
      match ← (Application.history (C := C) trust after).run with
      | .ok page => return renderExecutionHistory reader page observation
      | .error error => return serviceError error

end Daemon
end Kapsel
