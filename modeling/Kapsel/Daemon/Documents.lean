import Kapsel.Daemon.Protocol

/-!
# Every reply is the text of a document

The replies are written in three ways: as literal texts, by the printer, and by gluing printed
objects to literal texts.  Here each of them is the text of one document.

* `serviceError_eq`, `renderSubmission_eq` and `renderReceipt_ready`: the literal texts.
* `renderExecutionStatus_eq`: a status, glued together of up to three objects.
* `historyEntry_eq`: an entry of the history is the status that was written, read back without loss.
-/

namespace Kapsel

open Grammar Authority

namespace Daemon

open Gateway Application Json

theorem named_append (first second : List (String × Document)) :
    named (first ++ second) = named first ++ named second := List.map_append

/-! ## Literal texts -/

/-- The document of an error. -/
def errorDocument (error : ServiceError) : Document :=
  .object (named [("version", one), ("status", word "ERROR"),
    ("error_class", .string (errorClass error))])

theorem serviceError_eq (error : ServiceError) : serviceError error = (errorDocument error).print := by
  cases error <;> rfl

/-- The document of the reply to a submission. -/
def submissionDocument : SubmissionAdmission → Document
  | .decided (.admitted phase) =>
      .object (named [("version", one), ("status", word "ADMITTED"),
        ("phase", .string (phaseName phase))])
  | .decided .busy =>
      .object (named [("version", one), ("status", word "NOT_ADMITTED"), ("reason", word "BUSY")])
  | .decided .full =>
      .object (named [("version", one), ("status", word "NOT_ADMITTED"),
        ("reason", word "CAPACITY")])
  | .indeterminate => .object (named [("version", one), ("status", word "INDETERMINATE")])
  | .error error => errorDocument error

theorem renderSubmission_eq (admission : SubmissionAdmission) :
    renderSubmission admission = (submissionDocument admission).print := by
  cases admission with
  | decided admission =>
    cases admission with
    | admitted phase => cases phase <;> rfl
    | busy => rfl
    | full => rfl
  | indeterminate => rfl
  | error error => exact serviceError_eq error

/-! ## Statuses -/

/-- The word of a status. -/
def statusWord : OperationStatus → String
  | .notFound => "NOT_FOUND"
  | .inProgress => "IN_PROGRESS"
  | .notAttempted _ => "NOT_ATTEMPTED"
  | .succeeded => "SUCCEEDED"
  | .failed => "FAILED"
  | .unknown => "UNKNOWN"

/-- The status itself, with its rejection. -/
def outcome (status : OperationStatus) : List (String × Document) :=
  ("status", word (statusWord status)) ::
    match status with
    | .notAttempted rejection => [("target_rejection", .string (targetRejection rejection))]
    | _ => []

theorem renderStatus_eq (status : OperationStatus) :
    renderStatus (.ok status) =
      (Document.object (named (("version", one) :: outcome status))).print := by
  cases status with
  | notAttempted rejection => cases rejection <;> rfl
  | _ => rfl

/-- The members of the targets. -/
def shownTargets (targets : OperationTargets) : List (String × Document) :=
  match targets.git with
  | some git => [("effect", word "git.transition_ref"), ("git", gitTargets git)]
  | none =>
      [("approved_target", nullable targetFields targets.approvedTarget),
        ("attempt_target", nullable targetFields targets.attemptTarget),
        ("effect", word "kubernetes.set_deployment_image"),
        ("observed_target", nullable observedFields targets.observedTarget)]

theorem targetsFields_eq (targets : OperationTargets) :
    targetsFields targets = .object (named (shownTargets targets)) := by
  unfold targetsFields shownTargets
  cases targets.git <;> rfl

theorem named_shownTargets_ne_nil (targets : OperationTargets) :
    named (shownTargets targets) ≠ [] := by
  unfold shownTargets
  cases targets.git <;> exact List.cons_ne_nil _ _

/-- The guidance. -/
def guidance (execution : ExecutionDisposition) : Document :=
  .object (named [("action_owner", .string execution.actionOwner),
    ("condition", nullable (fun condition => .string condition.asStr) execution.condition),
    ("disposition", .string execution.asStr),
    ("next_action", .string execution.nextAction)])

theorem executionFields_eq (execution : ExecutionDisposition) :
    executionFields execution = .object (named [("execution", guidance execution)]) := rfl

/-- The members of a status with what is known of its targets. -/
def known (status : OperationStatus) (targets : OperationTargets) : List (String × Document) :=
  ("version", one) :: outcome status ++ if status = .notFound then [] else shownTargets targets

theorem renderStatusWithTargets_eq (status : OperationStatus) (targets : OperationTargets) :
    renderStatusWithTargets (.ok (status, targets)) =
      (Document.object (named (known status targets))).print := by
  unfold known
  show (if status = .notFound then renderStatus (.ok status)
    else appendObjectFields (renderStatus (.ok status)) (targetsFields targets).print) = _
  split
  · rw [List.append_nil]
    exact renderStatus_eq status
  · rw [renderStatus_eq, targetsFields_eq, named_append]
    exact Document.print_splice (List.cons_ne_nil _ _) (named_shownTargets_ne_nil targets)

/-- The document of a status, or of the error in its place. -/
def executionDocument :
    Except ServiceError (OperationStatus × OperationTargets × ExecutionDisposition) → Document
  | .error error => errorDocument error
  | .ok (status, targets, execution) =>
      .object (named (known status targets ++ [("execution", guidance execution)]))

/-- **What is glued together is the text of one document.** -/
theorem renderExecutionStatus_eq
    (result : Except ServiceError (OperationStatus × OperationTargets × ExecutionDisposition)) :
    renderExecutionStatus result = (executionDocument result).print := by
  cases result with
  | error error => exact serviceError_eq error
  | ok found =>
    obtain ⟨status, targets, execution⟩ := found
    show appendObjectFields (renderStatusWithTargets (.ok (status, targets)))
      (executionFields execution).print = (Document.object (named (known status targets ++
        [("execution", guidance execution)]))).print
    rw [renderStatusWithTargets_eq, executionFields_eq, named_append]
    exact Document.print_splice (List.cons_ne_nil _ _) (List.cons_ne_nil _ _)

/-! ## Receipts -/

/-- The document of a receipt that is ready. -/
def receiptDocument (bytes : Bytes) (sha256 : Text) : Document :=
  .object (named [("version", one), ("status", word "READY"),
    ("receipt_hex", .string (lowercaseHex bytes)), ("receipt_sha256", .string sha256)])

/-- A text of bytes that need no escape needs none. -/
theorem isPlain_of_all {p : UInt8 → Bool}
    (hp : ∀ n : Fin 256, p (UInt8.ofFin n) = true → isPlain (UInt8.ofFin n) = true) {text : Text}
    (h : text.all p = true) : text.all isPlain = true := by
  rw [List.all_eq_true] at h ⊢
  exact fun b hb => hp b.toFin (h b hb)

/-- Hexadecimal digits need no escape. -/
theorem isPlain_of_isLowercaseHex {text : Text} (h : text.all isLowercaseHex = true) :
    text.all isPlain = true := isPlain_of_all (by decide +kernel) h

theorem isLowercaseHex_lowercaseHex (bytes : Bytes) :
    (lowercaseHex bytes).all isLowercaseHex = true := by
  rw [lowercaseHex, List.all_flatMap, List.all_eq_true]
  exact fun b _ => isLowercaseHex_hexByte b

/-- **A receipt that fits its frame is the text of its document.** -/
theorem renderReceipt_ready {bytes : Bytes} {sha256 : Text} (hsha256 : validSha256 sha256 = true)
    (hlength : bytes.length * 2 + wrapperBytes ≤ 40 * 1024) :
    renderReceipt (.ok (.ready bytes sha256)) = (receiptDocument bytes sha256).print := by
  have hallowed : responseLengthAllowed (bytes.length * 2 + wrapperBytes) .receipt = true := by
    refine responseLengthAllowed_iff.mpr ⟨?_, hlength⟩
    have hpos : 0 < wrapperBytes := by decide
    omega
  have hdigits : sha256.all isLowercaseHex = true := by
    have hboth : (decide (sha256.length = 64) && sha256.all isLowercaseHex) = true := hsha256
    exact (Bool.and_eq_true _ _ ▸ hboth).2
  simp only [renderReceipt, hsha256, hallowed, Bool.not_true, Bool.false_eq_true, if_false]
  simp only [receiptDocument, named, List.map_cons, List.map_nil, Document.print,
    Document.printMembers, Document.printMoreMembers, quote,
    flatMap_escapeByte (isPlain_of_isLowercaseHex (isLowercaseHex_lowercaseHex bytes)),
    flatMap_escapeByte (isPlain_of_isLowercaseHex hdigits)]
  simp only [List.append_assoc, List.cons_append, List.nil_append, List.append_nil]
  rfl

/-! ## The history -/

/-- The document of an entry of the history. -/
def entryDocument (id : Text) (document : Document) : Document :=
  match document.toValue with
  | .object fields =>
      .object (insert (utf8 "operation_id") (.string id) (remove (utf8 "version") fields))
  | _ => .null

/-- The status of an entry, as it is written. -/
def entryStatus (observation : Text → ExecutionObservation) (entry : HistoryEntry) : Document :=
  executionDocument (entry.executionStatus (observation entry.operationId))

/-- **Reading back what was written loses nothing.** -/
theorem historyEntry_eq (reader : Reader) {observation : Text → ExecutionObservation}
    {entry : HistoryEntry} (h : (entryStatus observation entry).readable 127 = true) :
    historyEntry reader observation entry =
      some (entryDocument entry.operationId (entryStatus observation entry)) := by
  unfold historyEntry
  rw [renderExecutionStatus_eq]
  have hread := reader.parse_print _ h
  unfold entryStatus at hread
  rw [hread]
  unfold entryStatus entryDocument
  cases entry.executionStatus (observation entry.operationId) <;> rfl

/-- **A page of the history is printed** when every status on it can be read back. -/
theorem renderExecutionHistory_eq (reader : Reader) {page : HistoryPage}
    {observation : Text → ExecutionObservation}
    (h : ∀ entry ∈ page.entries, (entryStatus observation entry).readable 127 = true) :
    renderExecutionHistory reader page observation =
      (pageDocument (page.entries.map fun entry =>
        entryDocument entry.operationId (entryStatus observation entry)) page.nextCursor).print := by
  have hentries : page.entries.mapM (historyEntry reader observation) =
      some (page.entries.map fun entry =>
        entryDocument entry.operationId (entryStatus observation entry)) := by
    generalize page.entries = entries at h
    induction entries with
    | nil => rfl
    | cons entry rest ih =>
      rw [List.mapM_cons, historyEntry_eq reader (h entry List.mem_cons_self),
        ih fun other hother => h other (List.mem_cons_of_mem _ hother)]
      rfl
  rw [renderExecutionHistory, hentries]

/-! ## Values -/

theorem toValue_nullable {α : Type} {f : α → Document} (h : ∀ a, (f a).toValue = f a)
    (a : Option α) : (nullable f a).toValue = nullable f a := by
  cases a with
  | none => rfl
  | some a => exact h a

theorem toValue_targetFields (target : ApprovedTarget) :
    (targetFields target).toValue = targetFields target := rfl

theorem toValue_observedFields (target : ObservedTarget) :
    (observedFields target).toValue = observedFields target := by
  obtain ⟨uid, resourceVersion⟩ := target
  cases uid <;> cases resourceVersion <;> rfl

theorem toValue_gitTargets (targets : GitOperationTargets) :
    (gitTargets targets).toValue = gitTargets targets := by
  obtain ⟨approval, attempted, acknowledgement, seen⟩ := targets
  cases acknowledgement <;> rcases seen with _ | (_ | _ | _) <;> rfl

theorem toValue_guidance (execution : ExecutionDisposition) :
    (guidance execution).toValue = guidance execution := by
  unfold guidance
  cases execution.condition <;> rfl

/-- What a status shows of its targets and its guidance, in the order of the names. -/
def evidence (status : OperationStatus) (targets : OperationTargets)
    (execution : ExecutionDisposition) : List (String × Document) :=
  if status = .notFound then [("execution", guidance execution)]
  else
    match targets.git with
    | some git =>
        [("effect", word "git.transition_ref"), ("execution", guidance execution),
          ("git", gitTargets git)]
    | none =>
        [("approved_target", nullable targetFields targets.approvedTarget),
          ("attempt_target", nullable targetFields targets.attemptTarget),
          ("effect", word "kubernetes.set_deployment_image"),
          ("execution", guidance execution),
          ("observed_target", nullable observedFields targets.observedTarget)]

/-- **The value of a status.** -/
theorem toValue_executionDocument (status : OperationStatus) (targets : OperationTargets)
    (execution : ExecutionDisposition) :
    (executionDocument (.ok (status, targets, execution))).toValue =
      .object (named (evidence status targets execution ++ outcome status ++
        [("version", one)])) := by
  have happroved := toValue_nullable toValue_targetFields targets.approvedTarget
  have hattempt := toValue_nullable toValue_targetFields targets.attemptTarget
  have hobserved := toValue_nullable toValue_observedFields targets.observedTarget
  have hguidance := toValue_guidance execution
  show (Document.object (named (known status targets ++
    [("execution", guidance execution)]))).toValue = _
  unfold known shownTargets evidence
  generalize guidance execution = g at hguidance
  generalize nullable targetFields targets.approvedTarget = a at happroved
  generalize nullable targetFields targets.attemptTarget = b at hattempt
  generalize nullable observedFields targets.observedTarget = c at hobserved
  conv_rhs => rw [← hguidance, ← happroved, ← hattempt, ← hobserved]
  cases hgit : targets.git with
  | none => cases status <;> rfl
  | some git =>
    have hvalue := toValue_gitTargets git
    simp only
    generalize gitTargets git = d at hvalue
    conv_rhs => rw [← hvalue]
    cases status <;> rfl

/-- **The value of an entry of the history.** -/
theorem entryDocument_ok (id : Text) (status : OperationStatus) (targets : OperationTargets)
    (execution : ExecutionDisposition) :
    entryDocument id (executionDocument (.ok (status, targets, execution))) =
      .object (named (evidence status targets execution ++ [("operation_id", .string id)] ++
        outcome status)) := by
  rw [entryDocument, toValue_executionDocument]
  unfold evidence
  cases targets.git <;> cases status <;> rfl

end Daemon
end Kapsel
