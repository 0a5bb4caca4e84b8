import Kapsel.Daemon.Frames

/-!
# What the bridge accepts of a reply

`crates/kapsel-daemon/src/bin/kapsel-service-mcp.rs` hands a reply on only if its fields are those
that belong to the tool: a fixed set of names, and words from fixed lists.  Before that
`client_transport.rs` looks at the version and the status.  Neither is written from the code that
writes the replies.

* `statusShape_of_fields`: the shape of a status, from the fields of its value.
* `Found.accepted` and `submission_accepted`: the transport and the bridge accept every reply of the
  daemon to the request that the tool stands for.
-/

namespace Kapsel

open Grammar Fallible Authority Interaction Interaction.Program

namespace Daemon

open Gateway Gateway.Journal Application Json Json.Document

variable {C : Crypto}

/-! ## Values -/

/-- `Value::is_null`. -/
def isNull : Document → Bool
  | .null => true
  | _ => false

/-- `Value::is_string`. -/
def isString : Document → Bool
  | .string _ => true
  | _ => false

/-- `Value::is_boolean`. -/
def isBoolean : Document → Bool
  | .bool _ => true
  | _ => false

/-- The value is the number 1. -/
def isOne : Document → Bool
  | .number token => token = utf8 "1"
  | _ => false

/-- The value is a text, and one of these words. -/
def isWord (words : List String) (value : Option Document) : Bool :=
  match value.bind decodeString with
  | some text => words.any fun s => text = utf8 s
  | none => false

/-! ## The transport -/

namespace Transport

/-- `RESPONSE_BYTES_MAX`. -/
def responseBytesMax : ℕ := 40 * 1024

/-- `Header`: each of its two fields once, whatever other fields there are. -/
def header : Document → Option (UInt8 × Text)
  | .object members =>
      match members.filter (·.1 = utf8 "version"), members.filter (·.1 = utf8 "status") with
      | [(_, version)], [(_, status)] => do
          let version ← decodeU8 version
          let status ← decodeString status
          return (version, status)
      | _, _ => none
  | _ => none

/-- The words of a status. -/
def statusWords : List String :=
  ["READY", "NOT_FOUND", "NOT_READY", "IN_PROGRESS", "NOT_ATTEMPTED", "SUCCEEDED", "FAILED",
    "UNKNOWN", "ADMITTED", "NOT_ADMITTED", "INDETERMINATE", "ERROR"]

/-- `validate_response_envelope`. -/
def validateResponseEnvelope (reader : Reader) (bytes : Bytes) : Option Text :=
  if bytes.isEmpty || responseBytesMax < bytes.length ||
      bytes.find? (fun b => !isAsciiWhitespace b) ≠ some (asciiByte '\x7b') then none
  else do
    let (version, status) ← header (← reader.parse bytes)
    if version ≠ 1 || !statusWords.any (fun s => status = utf8 s) then none else return status

end Transport

/-! ## The shapes -/

namespace Bridge

/-- `exact`: the fields have these names and no other ones. -/
def exactly (fields : Members) (keys : List String) : Bool :=
  fields.length = keys.length && keys.all fun key => (fields.lookup (utf8 key)).isSome

/-- `string_field`. -/
def stringField (fields : Members) (key : String) : Bool :=
  (fields.lookup (utf8 key)).any isString

/-- `nullable_target`. -/
def nullableTarget (value : Option Document) (partialObservation : Bool) : Bool :=
  match value with
  | some .null => true
  | some (.object target) =>
      exactly target ["uid", "resource_version"] &&
        ["uid", "resource_version"].all fun field =>
          (target.lookup (utf8 field)).any fun value =>
            isString value || (partialObservation && isNull value)
  | _ => false

/-- `execution_disposition`. -/
def executionDisposition (fields : Members) : Option ExecutionDisposition := do
  let condition ← fields.lookup (utf8 "condition")
  let disposition ← decodeString (← fields.lookup (utf8 "disposition"))
  if disposition = utf8 "active" then
    if isNull condition then some .active else none
  else if disposition = utf8 "waiting_for_worker" then
    if isNull condition then some .waitingForWorker else none
  else if disposition = utf8 "resume_required" then
    if isNull condition then some (.resumeRequired none)
    else if isWord ["preflight_unavailable"] (some condition) then
      some (.resumeRequired (some .preflightUnavailable))
    else if isWord ["worker_contention"] (some condition) then
      some (.resumeRequired (some .workerContention))
    else none
  else if disposition = utf8 "operator_required" then
    if isWord ["receiver_unavailable"] (some condition) then
      some (.operatorRequired .receiverUnavailable)
    else if isWord ["signing_unavailable"] (some condition) then
      some (.operatorRequired .signingUnavailable)
    else if isWord ["completion_blocked"] (some condition) then
      some (.operatorRequired .completionBlocked)
    else if isWord ["operation_blocked"] (some condition) then
      some (.operatorRequired .operationBlocked)
    else none
  else if disposition = utf8 "complete" then
    if isNull condition then some .complete else none
  else if disposition = utf8 "admission_unconfirmed" then
    if isNull condition then some .admissionUnconfirmed else none
  else none

/-- The dispositions that go with a status. -/
def dispositionFits (status : Text) (disposition : ExecutionDisposition) : Bool :=
  if status = utf8 "NOT_FOUND" then disposition = .admissionUnconfirmed
  else if status = utf8 "IN_PROGRESS" then
    disposition ≠ .complete && disposition ≠ .admissionUnconfirmed
  else if ["NOT_ATTEMPTED", "SUCCEEDED", "FAILED", "UNKNOWN"].any fun s => status = utf8 s then
    disposition = .complete
  else false

/-- `execution_shape`. -/
def executionShape (value : Document) (status : Text) : Bool :=
  match value with
  | .object fields =>
      match executionDisposition fields with
      | some disposition =>
          exactly fields ["disposition", "condition", "next_action", "action_owner"] &&
            (fields.lookup (utf8 "disposition")).bind decodeString = some disposition.asStr &&
            (fields.lookup (utf8 "next_action")).bind decodeString = some disposition.nextAction &&
            (fields.lookup (utf8 "action_owner")).bind decodeString = some disposition.actionOwner &&
            dispositionFits status disposition
      | none => false
  | _ => false

/-- `target_rejection`. -/
def targetRejection (effect : Text) (value : Option Document) : Bool :=
  if effect = utf8 "kubernetes.set_deployment_image" then
    isWord ["DEPLOYMENT_NOT_FOUND", "CONTAINER_NOT_FOUND", "INVALID_TARGET", "STALE_APPROVAL"] value
  else if effect = utf8 "git.transition_ref" then
    isWord ["GIT_STALE_REF", "GIT_INVALID_OBJECTS"] value
  else false

/-- The ref among the Git targets. -/
def observedRef : Document → Bool
  | .null => true
  | .object fields =>
      exactly fields ["kind", "commit"] &&
        if isWord ["commit"] (fields.lookup (utf8 "kind")) then
          (fields.lookup (utf8 "commit")).any isString
        else if isWord ["missing", "unknown"] (fields.lookup (utf8 "kind")) then
          (fields.lookup (utf8 "commit")).any isNull
        else false
  | _ => false

/-- `git_targets`. -/
def gitTargets (value : Option Document) : Bool :=
  match value with
  | some (.object fields) =>
      exactly fields ["repository_id", "reference", "old_commit", "new_commit", "attempted",
          "acknowledgement", "observed_ref"] &&
        stringField fields "repository_id" && stringField fields "reference" &&
        stringField fields "old_commit" && stringField fields "new_commit" &&
        (fields.lookup (utf8 "attempted")).any isBoolean &&
        (fields.lookup (utf8 "acknowledgement")).any (fun value => isNull value ||
          isWord ["updated", "rejected_before_send", "receiver_rejected", "unknown"] (some value)) &&
        (fields.lookup (utf8 "observed_ref")).any observedRef
  | _ => false

/-- The words of the class of an error. -/
def errorClasses : List String := ["invalid_request", "authority_unavailable", "operation_failure"]

/-- The targets of a status, beside the other fields. -/
def targetsShape (fields : Members) (base : List String) (status : Text) : Bool :=
  let hasRejection := status = utf8 "NOT_ATTEMPTED"
  let base := if hasRejection then base ++ ["target_rejection"] else base
  match (fields.lookup (utf8 "effect")).bind decodeString with
  | none => false
  | some effect =>
      if hasRejection && !targetRejection effect (fields.lookup (utf8 "target_rejection")) then false
      else if effect = utf8 "kubernetes.set_deployment_image" then
        exactly fields (base ++ ["effect", "approved_target", "attempt_target", "observed_target"]) &&
          nullableTarget (fields.lookup (utf8 "approved_target")) false &&
          nullableTarget (fields.lookup (utf8 "attempt_target")) false &&
          nullableTarget (fields.lookup (utf8 "observed_target")) true
      else if effect = utf8 "git.transition_ref" then
        exactly fields (base ++ ["effect", "git"]) && gitTargets (fields.lookup (utf8 "git"))
      else false

/-- `status_shape`. -/
def statusShape (value : Document) (withVersion withOperationId : Bool) : Bool :=
  match value with
  | .object fields =>
      if withVersion && !(fields.lookup (utf8 "version")).any isOne then false
      else if withOperationId &&
          !(fields.lookup (utf8 "operation_id")).any (fun id => (identity id).isSome) then false
      else
        match (fields.lookup (utf8 "status")).bind decodeString with
        | none => false
        | some status =>
            let own := (if withVersion then ["version"] else []) ++
              if withOperationId then ["operation_id"] else []
            if status = utf8 "ERROR" then
              exactly fields (["status", "error_class"] ++ own) &&
                isWord errorClasses (fields.lookup (utf8 "error_class"))
            else if !executionShape ((fields.lookup (utf8 "execution")).getD .null) status then false
            else if status = utf8 "NOT_FOUND" then exactly fields (["status", "execution"] ++ own)
            else if ["IN_PROGRESS", "NOT_ATTEMPTED", "SUCCEEDED", "FAILED", "UNKNOWN"].any
                fun s => status = utf8 s then
              targetsShape fields (["status", "execution"] ++ own) status
            else false
  | _ => false

/-- The fields of a page whose entries pass a check. -/
def pageShape (fields : Members) (status : Text) (entryShape : Document → Bool) : Bool :=
  status = utf8 "READY" && exactly fields ["version", "status", "entries", "next_cursor"] &&
    (match fields.lookup (utf8 "entries") with
    | some (.array entries) => entries.length ≤ 8 && entries.all entryShape
    | _ => false) &&
    (fields.lookup (utf8 "next_cursor")).any fun cursor =>
      isNull cursor || (identity cursor).isSome

/-- The fields of the reply to a submission. -/
def submissionShape (fields : Members) (status : Text) : Bool :=
  if status = utf8 "ADMITTED" then
    exactly fields ["version", "status", "phase"] &&
      isWord ["requested", "authorized", "not_attempted", "apply_started", "receiver_observed",
        "finalized"] (fields.lookup (utf8 "phase"))
  else if status = utf8 "NOT_ADMITTED" then
    exactly fields ["version", "status", "reason"] &&
      isWord ["BUSY", "CAPACITY"] (fields.lookup (utf8 "reason"))
  else if status = utf8 "INDETERMINATE" then exactly fields ["version", "status"]
  else false

/-- `response_shape`. -/
def responseShape (C : Crypto) (name : Text) (value : Document) : Bool :=
  match value with
  | .object fields =>
      if !(fields.lookup (utf8 "version")).any isOne then false
      else
        match (fields.lookup (utf8 "status")).bind decodeString with
        | none => false
        | some status =>
            if status = utf8 "ERROR" then
              exactly fields ["version", "status", "error_class"] &&
                isWord errorClasses (fields.lookup (utf8 "error_class"))
            else if name = utf8 "kapsel.submit" then submissionShape fields status
            else if name = utf8 "kapsel.get_receipt" then
              if status = utf8 "READY" then
                exactly fields ["version", "status", "receipt_hex", "receipt_sha256"] &&
                  receiptValid C value
              else if ["NOT_FOUND", "NOT_READY"].any fun s => status = utf8 s then
                exactly fields ["version", "status"]
              else false
            else if name = utf8 "kapsel.list_approved_actions" then
              pageShape fields status fun entry =>
                (entry.get? (utf8 "operation_id")).any fun id => (identity id).isSome
            else if name = utf8 "kapsel.list_operation_history" then
              pageShape fields status fun entry => statusShape entry false true
            else if name = utf8 "kapsel.get_status" then statusShape value true false
            else false
  | _ => false

end Bridge

/-! ## The shape of a status -/

namespace Bridge

/-- The guidance of a status fits it, whatever the process knows. -/
theorem executionShape_guidance (status : OperationStatus) (seen : ExecutionObservation) :
    executionShape (guidance (.project status seen)) (utf8 (statusWord status)) = true := by
  cases status with
  | inProgress =>
    cases seen with
    | stopped condition => cases condition <;> rfl
    | _ => rfl
  | _ => rfl

theorem nullableTarget_targetFields (target : Option ApprovedTarget) :
    nullableTarget (some (nullable targetFields target)) false = true := by cases target <;> rfl

theorem nullableTarget_observedFields (target : Option ObservedTarget) :
    nullableTarget (some (nullable observedFields target)) true = true := by
  cases target with
  | none => rfl
  | some target =>
    obtain ⟨uid, resourceVersion⟩ := target
    cases uid <;> cases resourceVersion <;> rfl

theorem isWord_acknowledgement (acknowledgement : Acknowledgement) :
    isWord ["updated", "rejected_before_send", "receiver_rejected", "unknown"]
      (some (.string acknowledgement.asStr)) = true := by
  cases acknowledgement <;> decide

theorem observedRef_eq_true (seen : ObservedRef) : observedRef (Daemon.observedRef seen) = true := by
  cases seen <;> rfl

theorem gitTargets_eq_true (targets : GitOperationTargets) :
    gitTargets (some (Daemon.gitTargets targets)) = true := by
  have hacknowledgement : ∀ acknowledgement : Option Acknowledgement,
      (isNull (nullable (fun word => .string word.asStr) acknowledgement) ||
        isWord ["updated", "rejected_before_send", "receiver_rejected", "unknown"]
          (some (nullable (fun word => .string word.asStr) acknowledgement))) = true := by
    intro acknowledgement
    cases acknowledgement with
    | none => rfl
    | some acknowledgement => exact isWord_acknowledgement acknowledgement
  have hseen : observedRef (nullable Daemon.observedRef targets.observedRef) = true := by
    cases targets.observedRef with
    | none => rfl
    | some seen => exact observedRef_eq_true seen
  have hboth := Bool.and_eq_true_iff.mpr ⟨hacknowledgement targets.acknowledgement, hseen⟩
  exact hboth

section
variable {fields : Members} {base : List String} {status : OperationStatus}

/-- The rejection among the fields is one of these. -/
def RejectedBy (fields : Members) (status : OperationStatus)
    (rejections : List TargetRejection) : Prop :=
  ∀ rejection, status = .notAttempted rejection → rejection ∈ rejections ∧
    fields.lookup (utf8 "target_rejection") = some (.string (Daemon.targetRejection rejection))

/-- The names of the fields of a status, with its rejection. -/
def statusKeys (base : List String) : OperationStatus → List String
  | .notAttempted _ => base ++ ["target_rejection"]
  | _ => base

theorem targetsShape_kubernetes {approved attempt : Option ApprovedTarget}
    {observed : Option ObservedTarget} (hrejected : RejectedBy fields status kubernetesRejections)
    (heffect : fields.lookup (utf8 "effect") = some (word "kubernetes.set_deployment_image"))
    (hkeys : exactly fields (statusKeys base status ++
      ["effect", "approved_target", "attempt_target", "observed_target"]) = true)
    (happroved : fields.lookup (utf8 "approved_target") = some (nullable targetFields approved))
    (hattempt : fields.lookup (utf8 "attempt_target") = some (nullable targetFields attempt))
    (hobserved : fields.lookup (utf8 "observed_target") = some (nullable observedFields observed)) :
    targetsShape fields base (utf8 (statusWord status)) = true := by
  have htargets : (exactly fields (statusKeys base status ++
        ["effect", "approved_target", "attempt_target", "observed_target"]) &&
      nullableTarget (fields.lookup (utf8 "approved_target")) false &&
      nullableTarget (fields.lookup (utf8 "attempt_target")) false &&
      nullableTarget (fields.lookup (utf8 "observed_target")) true) = true := by
    rw [hkeys, happroved, hattempt, hobserved, nullableTarget_targetFields,
      nullableTarget_targetFields, nullableTarget_observedFields]
    rfl
  unfold targetsShape
  rw [heffect]
  cases status with
  | notAttempted rejection =>
    obtain ⟨hmem, hrejection⟩ := hrejected rejection rfl
    have hword : targetRejection (utf8 "kubernetes.set_deployment_image")
        (some (.string (Daemon.targetRejection rejection))) = true := by
      revert hmem
      cases rejection <;> decide
    rw [hrejection]
    show (if !targetRejection (utf8 "kubernetes.set_deployment_image")
      (some (.string (Daemon.targetRejection rejection))) then false else _) = true
    rw [hword]
    exact htargets
  | _ => exact htargets

theorem targetsShape_git {git : GitOperationTargets}
    (hrejected : RejectedBy fields status gitRejections)
    (heffect : fields.lookup (utf8 "effect") = some (word "git.transition_ref"))
    (hkeys : exactly fields (statusKeys base status ++ ["effect", "git"]) = true)
    (hgit : fields.lookup (utf8 "git") = some (Daemon.gitTargets git)) :
    targetsShape fields base (utf8 (statusWord status)) = true := by
  have htargets : (exactly fields (statusKeys base status ++ ["effect", "git"]) &&
      gitTargets (fields.lookup (utf8 "git"))) = true := by
    rw [hkeys, hgit, gitTargets_eq_true]
    rfl
  unfold targetsShape
  rw [heffect]
  cases status with
  | notAttempted rejection =>
    obtain ⟨hmem, hrejection⟩ := hrejected rejection rfl
    have hword : targetRejection (utf8 "git.transition_ref")
        (some (.string (Daemon.targetRejection rejection))) = true := by
      revert hmem
      cases rejection <;> decide
    rw [hrejection]
    show (if !targetRejection (utf8 "git.transition_ref")
      (some (.string (Daemon.targetRejection rejection))) then false else _) = true
    rw [hword]
    exact htargets
  | _ => exact htargets

/-- The names that a status has for itself, or in an entry of the history. -/
def ownKeys (withVersion withOperationId : Bool) : List String :=
  (if withVersion then ["version"] else []) ++ if withOperationId then ["operation_id"] else []

/-- **The shape of a status**, from its fields. -/
theorem statusShape_of_fields {withVersion withOperationId : Bool} {seen : ExecutionObservation}
    (hversion : withVersion = true → fields.lookup (utf8 "version") = some one)
    (hid : withOperationId = true → ∃ id, identityIsValid id = true ∧
      fields.lookup (utf8 "operation_id") = some (.string id))
    (hstatus : fields.lookup (utf8 "status") = some (word (statusWord status)))
    (hexecution : fields.lookup (utf8 "execution") = some (guidance (.project status seen)))
    (hfields : (status = .notFound ∧ exactly fields (["status", "execution"] ++
        ownKeys withVersion withOperationId) = true) ∨
      (status ≠ .notFound ∧ targetsShape fields (["status", "execution"] ++
        ownKeys withVersion withOperationId) (utf8 (statusWord status)) = true)) :
    statusShape (.object fields) withVersion withOperationId = true := by
  have hhead : (withVersion && !(fields.lookup (utf8 "version")).any isOne) = false := by
    cases withVersion with
    | false => rfl
    | true =>
      rw [hversion rfl]
      rfl
  have hown : (withOperationId &&
      !(fields.lookup (utf8 "operation_id")).any fun id => (identity id).isSome) = false := by
    cases withOperationId with
    | false => rfl
    | true =>
      obtain ⟨id, hvalid, hlookup⟩ := hid rfl
      rw [hlookup, Option.any_some, identity, if_pos hvalid]
      rfl
  have hshape := executionShape_guidance status seen
  unfold statusShape
  dsimp only
  rw [hhead, hown, hstatus, hexecution]
  simp only [Bool.false_eq_true, if_false, Option.getD_some]
  show (if utf8 (statusWord status) = utf8 "ERROR" then _
    else if !executionShape (guidance (.project status seen)) (utf8 (statusWord status)) then false
    else _) = true
  rw [hshape]
  rcases hfields with ⟨rfl, hkeys⟩ | ⟨hfound, htargets⟩
  · exact hkeys
  · cases status with
    | notFound => exact absurd rfl hfound
    | _ => exact htargets

end

end Bridge

section
variable {status : OperationStatus} {targets : OperationTargets}

namespace Bridge

/-- **A status has its shape**, read for itself and in an entry of the history. -/
theorem statusShape_of_presentable (h : Presentable status targets) (seen : ExecutionObservation)
    {id : Text} (hid : identityIsValid id = true) :
    statusShape (.object (named (evidence status targets (.project status seen) ++ outcome status ++
      [("version", one)]))) true false = true ∧
    statusShape (.object (named (evidence status targets (.project status seen) ++
      [("operation_id", .string id)] ++ outcome status))) false true = true := by
  have hnone : ∀ {fields : Members} {rejections : List TargetRejection} {other : OperationStatus},
      (∀ rejection, other ≠ .notAttempted rejection) → RejectedBy fields other rejections :=
    fun hother rejection hrejection => absurd hrejection (hother rejection)
  cases h with
  | notFound =>
    exact ⟨statusShape_of_fields (fun _ => rfl) (by rintro ⟨⟩) rfl rfl (.inl ⟨rfl, rfl⟩),
      statusShape_of_fields (by rintro ⟨⟩) (fun _ => ⟨id, hid, rfl⟩) rfl rfl (.inl ⟨rfl, rfl⟩)⟩
  | kubernetes status approvedTarget attemptTarget observedTarget hfound hrejection _ _ _ =>
    have hknown : evidence status { approvedTarget, attemptTarget, observedTarget }
        (.project status seen) = _ := if_neg hfound
    rw [hknown]
    cases status with
    | notFound => exact absurd rfl hfound
    | notAttempted rejection =>
      have hrejected : ∀ {fields : Members}, fields.lookup (utf8 "target_rejection") =
          some (.string (Daemon.targetRejection rejection)) →
          RejectedBy fields (.notAttempted rejection) kubernetesRejections := by
        rintro fields hlookup other ⟨⟩
        exact ⟨hrejection _ rfl, hlookup⟩
      exact ⟨statusShape_of_fields (fun _ => rfl) (by rintro ⟨⟩) rfl rfl
          (.inr ⟨hfound, targetsShape_kubernetes (hrejected rfl) rfl rfl rfl rfl rfl⟩),
        statusShape_of_fields (by rintro ⟨⟩) (fun _ => ⟨id, hid, rfl⟩) rfl rfl
          (.inr ⟨hfound, targetsShape_kubernetes (hrejected rfl) rfl rfl rfl rfl rfl⟩)⟩
    | _ =>
      exact ⟨statusShape_of_fields (fun _ => rfl) (by rintro ⟨⟩) rfl rfl
          (.inr ⟨hfound, targetsShape_kubernetes (hnone (by rintro _ ⟨⟩)) rfl rfl rfl rfl rfl⟩),
        statusShape_of_fields (by rintro ⟨⟩) (fun _ => ⟨id, hid, rfl⟩) rfl rfl
          (.inr ⟨hfound, targetsShape_kubernetes (hnone (by rintro _ ⟨⟩)) rfl rfl rfl rfl rfl⟩)⟩
  | git status git hfound hrejection _ _ =>
    have hknown : evidence status { git := some git } (.project status seen) = _ := if_neg hfound
    rw [hknown]
    cases status with
    | notFound => exact absurd rfl hfound
    | notAttempted rejection =>
      have hrejected : ∀ {fields : Members}, fields.lookup (utf8 "target_rejection") =
          some (.string (Daemon.targetRejection rejection)) →
          RejectedBy fields (.notAttempted rejection) gitRejections := by
        rintro fields hlookup other ⟨⟩
        exact ⟨hrejection _ rfl, hlookup⟩
      exact ⟨statusShape_of_fields (fun _ => rfl) (by rintro ⟨⟩) rfl rfl
          (.inr ⟨hfound, targetsShape_git (hrejected rfl) rfl rfl rfl⟩),
        statusShape_of_fields (by rintro ⟨⟩) (fun _ => ⟨id, hid, rfl⟩) rfl rfl
          (.inr ⟨hfound, targetsShape_git (hrejected rfl) rfl rfl rfl⟩)⟩
    | _ =>
      exact ⟨statusShape_of_fields (fun _ => rfl) (by rintro ⟨⟩) rfl rfl
          (.inr ⟨hfound, targetsShape_git (hnone (by rintro _ ⟨⟩)) rfl rfl rfl⟩),
        statusShape_of_fields (by rintro ⟨⟩) (fun _ => ⟨id, hid, rfl⟩) rfl rfl
          (.inr ⟨hfound, targetsShape_git (hnone (by rintro _ ⟨⟩)) rfl rfl rfl⟩)⟩

end Bridge

end

/-! ## No name twice -/

theorem distinct_named {members : List (String × Document)}
    (hnames : decide (names (named members)).Nodup = true)
    (h : ∀ member ∈ members, member.2.distinct = true) :
    (Document.object (named members)).distinct = true := by
  refine distinct_object.mpr ⟨of_decide_eq_true hnames, fun member hmember => ?_⟩
  obtain ⟨field, hfield, rfl⟩ := List.mem_map.mp hmember
  exact h field hfield

/-- Putting fields in order makes no name twice. -/
theorem nodup_toMap {members : List (String × Document)} (h : (names (named members)).Nodup) :
    (names (toMap (named members))).Nodup :=
  ((perm_toMap h).map Prod.fst).nodup_iff.mpr h

/-- A map has no name twice where its fields have none. -/
theorem distinct_json {members : List (String × Document)}
    (hnames : decide (names (named members)).Nodup = true)
    (h : ∀ member ∈ members, member.2.distinct = true) : (json members).distinct = true := by
  have hnodup : (names (named members)).Nodup := of_decide_eq_true hnames
  refine distinct_object.mpr ⟨nodup_toMap hnodup, fun member hmember => ?_⟩
  obtain ⟨field, hfield, rfl⟩ := List.mem_map.mp ((perm_toMap hnodup).mem_iff.mp hmember)
  exact h field hfield

theorem distinct_nullable {α : Type} {f : α → Document} (h : ∀ a, (f a).distinct = true)
    (a : Option α) : (nullable f a).distinct = true := by
  cases a with
  | none => rfl
  | some a => exact h a

theorem distinct_guidance (execution : ExecutionDisposition) :
    (guidance execution).distinct = true := by
  unfold guidance
  cases execution.condition <;> rfl

theorem distinct_targetFields (target : ApprovedTarget) : (targetFields target).distinct = true := rfl

theorem distinct_observedFields (target : ObservedTarget) :
    (observedFields target).distinct = true := by
  obtain ⟨uid, resourceVersion⟩ := target
  cases uid <;> cases resourceVersion <;> rfl

theorem distinct_observedRef (seen : ObservedRef) : (observedRef seen).distinct = true := by
  cases seen <;> rfl

theorem distinct_gitTargets (targets : GitOperationTargets) :
    (gitTargets targets).distinct = true := by
  unfold gitTargets
  refine distinct_json rfl fun member hmember => ?_
  simp only [List.mem_cons, List.not_mem_nil, or_false] at hmember
  rcases hmember with rfl | rfl | rfl | rfl | rfl | rfl | rfl
  · rfl
  · rfl
  · rfl
  · rfl
  · rfl
  · exact distinct_nullable (fun _ => rfl) _
  · exact distinct_nullable distinct_observedRef _

theorem distinct_errorDocument (error : ServiceError) : (errorDocument error).distinct = true := rfl

/-- The fields of a status have no name twice. -/
theorem distinct_status (status : OperationStatus) (targets : OperationTargets)
    (execution : ExecutionDisposition) :
    ∀ member ∈ outcome status ++ (shownTargets targets ++ [("execution", guidance execution)]),
      member.2.distinct = true := by
  have houtcome : ∀ member ∈ outcome status, member.2.distinct = true := by
    intro member hmember
    unfold outcome at hmember
    cases status with
    | notAttempted rejection =>
      simp only [List.mem_cons, List.not_mem_nil, or_false] at hmember
      rcases hmember with rfl | rfl <;> rfl
    | _ =>
      obtain rfl := List.mem_singleton.mp hmember
      rfl
  have htargets : ∀ member ∈ shownTargets targets, member.2.distinct = true := by
    intro member hmember
    unfold shownTargets at hmember
    cases hgit : targets.git with
    | some git =>
      rw [hgit] at hmember
      simp only [List.mem_cons, List.not_mem_nil, or_false] at hmember
      rcases hmember with rfl | rfl
      · rfl
      · exact distinct_gitTargets git
    | none =>
      rw [hgit] at hmember
      simp only [List.mem_cons, List.not_mem_nil, or_false] at hmember
      rcases hmember with rfl | rfl | rfl | rfl
      · exact distinct_nullable distinct_targetFields _
      · exact distinct_nullable distinct_targetFields _
      · rfl
      · exact distinct_nullable distinct_observedFields _
  intro member hmember
  rcases List.mem_append.mp hmember with hmember | hmember
  · exact houtcome member hmember
  · rcases List.mem_append.mp hmember with hmember | hmember
    · exact htargets member hmember
    · obtain rfl := List.mem_singleton.mp hmember
      exact distinct_guidance execution

theorem distinct_executionDocument (status : OperationStatus) (targets : OperationTargets)
    (execution : ExecutionDisposition) :
    (executionDocument (.ok (status, targets, execution))).distinct = true := by
  have hall := distinct_status status targets execution
  unfold executionDocument known
  refine distinct_named ?_ fun member hmember => ?_
  · unfold shownTargets
    cases targets.git <;> cases status <;> rfl
  · rcases List.mem_append.mp hmember with hmember | hmember
    · rcases List.mem_append.mp hmember with hmember | hmember
      · rcases List.mem_cons.mp hmember with rfl | hmember
        · rfl
        · exact hall member (List.mem_append_left _ hmember)
      · split at hmember
        · exact absurd hmember List.not_mem_nil
        · exact hall member (List.mem_append_right _ (List.mem_append_left _ hmember))
    · exact hall member (List.mem_append_right _ (List.mem_append_right _ hmember))

theorem distinct_shownEntry (observation : Text → ExecutionObservation) (entry : HistoryEntry) :
    (shownEntry observation entry).distinct = true := by
  obtain ⟨id, result⟩ := entry
  cases result with
  | error error => rfl
  | ok found =>
    obtain ⟨status, targets⟩ := found
    have hall := distinct_status status targets (.project status (observation id))
    have hentry : shownEntry observation ⟨id, .ok (status, targets)⟩ = _ :=
      entryDocument_ok id status targets (.project status (observation id))
    rw [hentry]
    refine distinct_named ?_ fun member hmember => ?_
    · unfold evidence
      cases targets.git <;> cases status <;> rfl
    · rcases List.mem_append.mp hmember with hmember | hmember
      · rcases List.mem_append.mp hmember with hmember | hmember
        · refine hall member (List.mem_append_right _ ?_)
          unfold evidence at hmember
          unfold shownTargets
          split at hmember
          · exact List.mem_append_right _ hmember
          · cases hgit : targets.git with
            | some git =>
              simp only [hgit, List.mem_cons, List.not_mem_nil, or_false] at hmember
              simp only [List.cons_append, List.nil_append, List.mem_cons, List.not_mem_nil,
                or_false]
              rcases hmember with rfl | rfl | rfl
              · exact .inl rfl
              · exact .inr (.inr rfl)
              · exact .inr (.inl rfl)
            | none =>
              simp only [hgit, List.mem_cons, List.not_mem_nil, or_false] at hmember
              simp only [List.cons_append, List.nil_append, List.mem_cons, List.not_mem_nil,
                or_false]
              rcases hmember with rfl | rfl | rfl | rfl | rfl
              · exact .inl rfl
              · exact .inr (.inl rfl)
              · exact .inr (.inr (.inl rfl))
              · exact .inr (.inr (.inr (.inr rfl)))
              · exact .inr (.inr (.inr (.inl rfl)))
        · obtain rfl := List.mem_singleton.mp hmember
          rfl
      · exact hall member (List.mem_append_left _ hmember)

theorem distinct_catalogEntry (action : ApprovedAction) : (catalogEntry action).distinct = true := by
  cases action with
  | kubernetes request approvedTarget label =>
    unfold catalogEntry
    refine distinct_json rfl fun member hmember => ?_
    simp only [List.mem_cons, List.not_mem_nil, or_false] at hmember
    rcases hmember with rfl | rfl | rfl | rfl | rfl | rfl | rfl | rfl <;> rfl
  | git authorization label =>
    unfold catalogEntry
    refine distinct_json rfl fun member hmember => ?_
    simp only [List.mem_cons, List.not_mem_nil, or_false] at hmember
    rcases hmember with rfl | rfl | rfl | rfl | rfl | rfl | rfl <;> rfl

theorem distinct_pageDocument {α : Type} {f : α → Document} (h : ∀ a, (f a).distinct = true)
    (entries : List α) (nextCursor : Option Text) :
    (pageDocument (entries.map f) nextCursor).distinct = true := by
  have hentries : (Document.array (entries.map f)).distinct = true := by
    refine distinct_array.mpr fun item hitem => ?_
    obtain ⟨a, -, rfl⟩ := List.mem_map.mp hitem
    exact h a
  have hcursor : (nullable .string nextCursor).distinct = true := distinct_nullable (fun _ => rfl) _
  unfold pageDocument
  refine distinct_json rfl fun member hmember => ?_
  simp only [List.mem_cons, List.not_mem_nil, or_false] at hmember
  rcases hmember with rfl | rfl | rfl | rfl
  · rfl
  · rfl
  · exact hentries
  · exact hcursor

/-- No reply has a name twice in an object. -/
theorem Found.distinct (observation : Text → ExecutionObservation) (found : Found) :
    (found.document observation).distinct = true := by
  cases found with
  | status result =>
    cases result with
    | error error => exact distinct_errorDocument error
    | ok answer => exact distinct_executionDocument answer.1 answer.2.1 answer.2.2
  | receipt result =>
    cases result with
    | error error => exact distinct_errorDocument error
    | ok receipt => cases receipt <;> rfl
  | catalog result =>
    cases result with
    | error error => exact distinct_errorDocument error
    | ok page => exact distinct_pageDocument distinct_catalogEntry page.entries page.nextCursor
  | history result =>
    cases result with
    | error error => exact distinct_errorDocument error
    | ok page =>
      exact distinct_pageDocument (distinct_shownEntry observation) page.entries page.nextCursor

/-! ## The shape of a reply -/

/-- What is written of an entry is its value. -/
theorem toValue_entry (id : Text) (status : OperationStatus) (targets : OperationTargets)
    (execution : ExecutionDisposition) :
    (Document.object (named (evidence status targets execution ++ [("operation_id", .string id)] ++
      outcome status))).toValue =
    .object (named (evidence status targets execution ++ [("operation_id", .string id)] ++
      outcome status)) := by
  have happroved := toValue_nullable toValue_targetFields targets.approvedTarget
  have hattempt := toValue_nullable toValue_targetFields targets.attemptTarget
  have hobserved := toValue_nullable toValue_observedFields targets.observedTarget
  have hguidance := toValue_guidance execution
  unfold evidence
  generalize guidance execution = g at hguidance
  generalize nullable targetFields targets.approvedTarget = a at happroved
  generalize nullable targetFields targets.attemptTarget = b at hattempt
  generalize nullable observedFields targets.observedTarget = c at hobserved
  conv_rhs => rw [← hguidance, ← happroved, ← hattempt, ← hobserved]
  cases hgit : targets.git with
  | none => cases status <;> rfl
  | some git =>
    have hvalue := toValue_gitTargets git
    simp only
    generalize gitTargets git = d at hvalue
    conv_rhs => rw [← hvalue]
    cases status <;> rfl

/-- The tool that reads what is found. -/
def Found.tool : Found → String
  | status _ => "kapsel.get_status"
  | receipt _ => "kapsel.get_receipt"
  | catalog _ => "kapsel.list_approved_actions"
  | history _ => "kapsel.list_operation_history"

theorem responseShape_error (tool : String) (error : ServiceError) :
    Bridge.responseShape C (utf8 tool) (errorDocument error).toValue = true := by
  cases error <;> rfl

theorem responseShape_status {fields : Members} (status : OperationStatus)
    (hversion : fields.lookup (utf8 "version") = some one)
    (hstatus : fields.lookup (utf8 "status") = some (word (statusWord status)))
    (hshape : Bridge.statusShape (.object fields) true false = true) :
    Bridge.responseShape C (utf8 "kapsel.get_status") (.object fields) = true := by
  have hone : (!(some one).any isOne) = false := rfl
  unfold Bridge.responseShape
  dsimp only
  rw [hversion, hone, hstatus]
  simp only [Bool.false_eq_true, if_false]
  cases status <;> exact hshape

theorem isSome_identity {id : Text} (h : identityIsValid id = true) :
    (Bridge.identity (.string id)).isSome = true := by
  rw [Bridge.identity, if_pos h]
  rfl

theorem isCursor_nullable {nextCursor : Option Text} (h : nextCursor.all identityIsValid = true) :
    (isNull (nullable .string nextCursor) ||
      (Bridge.identity (nullable .string nextCursor)).isSome) = true := by
  cases nextCursor with
  | none => rfl
  | some id => exact isSome_identity h

/-- The fields of the value of a page. -/
theorem pageShape_pageDocument {α : Type} (f : α → Document) (entryShape : Document → Bool)
    {entries : List α} {nextCursor : Option Text} (hcount : entries.length ≤ 8)
    (h : ∀ entry ∈ entries, entryShape (f entry).toValue = true)
    (hcursor : nextCursor.all identityIsValid = true) :
    Bridge.pageShape (named [("entries", .array (toValues (entries.map f))),
      ("next_cursor", nullable .string nextCursor), ("status", word "READY"), ("version", one)])
      (utf8 "READY") entryShape = true := by
  have hlength : (toValues (entries.map f)).length ≤ 8 := by
    rw [toValues_eq, List.length_map, List.length_map]
    exact hcount
  have hall : (toValues (entries.map f)).all entryShape = true := by
    rw [toValues_eq, List.map_map, List.all_map, List.all_eq_true]
    exact h
  have hentries : (decide ((toValues (entries.map f)).length ≤ 8) &&
      (toValues (entries.map f)).all entryShape) = true := by
    rw [decide_eq_true hlength, hall]
    rfl
  have hnext := isCursor_nullable hcursor
  exact Bool.and_eq_true_iff.mpr ⟨Bool.and_eq_true_iff.mpr ⟨rfl, hentries⟩, hnext⟩

theorem toValue_pageDocument (entries : List Document) (nextCursor : Option Text) :
    (pageDocument entries nextCursor).toValue = .object (named
      [("entries", .array (toValues entries)), ("next_cursor", nullable .string nextCursor),
        ("status", word "READY"), ("version", one)]) := by
  cases nextCursor <;> rfl

/-- An entry of the history has the shape of a status with its identity. -/
theorem statusShape_shownEntry (observation : Text → ExecutionObservation) {entry : HistoryEntry}
    (h : EntryPresentable entry) :
    Bridge.statusShape (shownEntry observation entry).toValue false true = true := by
  obtain ⟨id, result⟩ := entry
  have hid : identityIsValid id = true := h.operationId
  cases result with
  | error error =>
    have hkeys : (Option.any (fun id => (Bridge.identity id).isSome) (some (.string id))) = true :=
      isSome_identity hid
    have hvalue : (shownEntry observation ⟨id, .error error⟩).toValue = .object (named
      [("error_class", .string (errorClass error)), ("operation_id", .string id),
        ("status", word "ERROR")]) := rfl
    rw [hvalue]
    unfold Bridge.statusShape
    dsimp only
    have hlookup : (named [("error_class", .string (errorClass error)),
      ("operation_id", .string id), ("status", word "ERROR")]).lookup (utf8 "operation_id") =
        some (.string id) := rfl
    rw [hlookup, hkeys]
    cases error <;> rfl
  | ok found =>
    obtain ⟨status, targets⟩ := found
    have hpresentable := h.status status targets rfl
    have hshape := (Bridge.statusShape_of_presentable hpresentable (observation id) hid).2
    have hentry : shownEntry observation ⟨id, .ok (status, targets)⟩ = _ :=
      entryDocument_ok id status targets (.project status (observation id))
    rw [hentry, toValue_entry]
    exact hshape

/-- A field of a map is found in its value. -/
theorem get?_json {members : List (String × Document)}
    (hnames : decide (names (named members)).Nodup = true) (name : Text) :
    (json members).toValue.get? name = ((named members).lookup name).map toValue := by
  have hnodup : (names (named members)).Nodup := of_decide_eq_true hnames
  show (Document.object (toMap (named members))).toValue.get? name = _
  rw [get?_toValue (nodup_toMap hnodup), lookup_toMap hnodup]

theorem operationId_catalogEntry (action : ApprovedAction) :
    (catalogEntry action).toValue.get? (utf8 "operation_id") = some (.string action.operationId) := by
  cases action with
  | kubernetes request approvedTarget label =>
    unfold catalogEntry
    rw [get?_json rfl]
    rfl
  | git authorization label =>
    unfold catalogEntry
    rw [get?_json rfl]
    rfl

/-- **What is found has the shape that the bridge expects of the tool.** -/
theorem Found.responseShape {observation : Text → ExecutionObservation} {found : Found}
    (h : FoundPresentable C found) :
    Bridge.responseShape C (utf8 found.tool) (found.document observation).toValue = true := by
  cases found with
  | status result =>
    cases result with
    | error error => exact responseShape_error _ error
    | ok answer =>
      obtain ⟨status, targets, execution⟩ := answer
      obtain ⟨hpresentable, seen, rfl⟩ := h status targets execution rfl
      have hid : identityIsValid (utf8 "a") = true := by decide
      have hshape := (Bridge.statusShape_of_presentable hpresentable seen hid).1
      show Bridge.responseShape C (utf8 "kapsel.get_status")
        (executionDocument (.ok (status, targets, .project status seen))).toValue = true
      rw [toValue_executionDocument]
      refine responseShape_status status ?_ ?_ hshape
      · unfold evidence
        cases targets.git <;> cases status <;> rfl
      · unfold evidence
        cases targets.git <;> cases status <;> rfl
  | receipt result =>
    cases result with
    | error error => exact responseShape_error _ error
    | ok receipt =>
      cases receipt with
      | notFound => rfl
      | notReady => rfl
      | ready bytes sha256 =>
        obtain ⟨hlength, hsha256⟩ := h _ rfl
        subst hsha256
        have hvalid : Bridge.receiptValid C (receiptDocument bytes (digestHex C bytes)).toValue = true :=
          receiptValid_iff.mpr ⟨_, bytes, rfl, decodeReceiptHex_eq_some.mpr ⟨rfl, by omega⟩, rfl⟩
        exact hvalid
  | catalog result =>
    cases result with
    | error error => exact responseShape_error _ error
    | ok page =>
      have hpage := h page rfl
      have hentries : ∀ entry ∈ page.entries, (((catalogEntry entry).toValue.get?
          (utf8 "operation_id")).any fun id => (Bridge.identity id).isSome) = true := by
        intro entry hentry
        have hid := (hpage.entries entry hentry).operationId
        rw [operationId_catalogEntry]
        exact isSome_identity hid
      have hshape := pageShape_pageDocument catalogEntry (fun entry =>
        (entry.get? (utf8 "operation_id")).any fun id => (Bridge.identity id).isSome)
        hpage.length_le hentries hpage.nextCursor
      show Bridge.responseShape C (utf8 "kapsel.list_approved_actions")
        (pageDocument (page.entries.map catalogEntry) page.nextCursor).toValue = true
      rw [toValue_pageDocument]
      exact hshape
  | history result =>
    cases result with
    | error error => exact responseShape_error _ error
    | ok page =>
      have hpage := h page rfl
      have hentries : ∀ entry ∈ page.entries,
          Bridge.statusShape (shownEntry observation entry).toValue false true = true := by
        intro entry hentry
        exact statusShape_shownEntry observation (hpage.entries entry hentry)
      have hshape := pageShape_pageDocument (shownEntry observation)
        (fun entry => Bridge.statusShape entry false true) hpage.length_le hentries hpage.nextCursor
      show Bridge.responseShape C (utf8 "kapsel.list_operation_history")
        (pageDocument (page.entries.map (shownEntry observation)) page.nextCursor).toValue = true
      rw [toValue_pageDocument]
      exact hshape

/-! ## Replies -/

/-- The transport and the bridge accept the reply to a tool, and the bridge finds this value in
it. -/
structure Bridge.Accepts (C : Crypto) (reader : Reader) (tool : String) (reply : Bytes)
    (value : Document) : Prop where
  envelope : (Transport.validateResponseEnvelope reader reply).isSome = true
  unique : Bridge.unique reader reply = some value
  shape : Bridge.responseShape C (utf8 tool) value = true
  readable : value.readable 127 = true
  length_eq : value.print.length = reply.length

section
variable {reader : Reader}

theorem isSome_validateResponseEnvelope {members : Members} {s : String}
    (hreadable : (Document.object members).readable 127 = true)
    (hlength : (Document.object members).print.length ≤ Transport.responseBytesMax)
    (hword : s ∈ Transport.statusWords)
    (hheader : Transport.header (.object members) = some (1, utf8 s)) :
    (Transport.validateResponseEnvelope reader (Document.object members).print).isSome = true := by
  have hprint : (Document.object members).print = 123 :: (printMembers members ++ [125]) := rfl
  have hempty : (Document.object members).print.isEmpty = false := by rw [hprint]; rfl
  have hfind : (Document.object members).print.find? (fun b => !isAsciiWhitespace b) =
      some (asciiByte '\x7b') := by rw [hprint]; rfl
  have hany : (Transport.statusWords.any fun w => utf8 s = utf8 w) = true :=
    List.any_eq_true.mpr ⟨s, hword, decide_eq_true rfl⟩
  unfold Transport.validateResponseEnvelope
  rw [hempty, hfind, decide_eq_false (Nat.not_lt.mpr hlength), reader.parse_print _ hreadable]
  show (do
    let (version, status) ← Transport.header (.object members)
    if version ≠ 1 || !Transport.statusWords.any (fun w => status = utf8 w) then none
      else some status).isSome = true
  rw [hheader]
  show (if decide ((1 : UInt8) ≠ 1) || !Transport.statusWords.any (fun w => utf8 s = utf8 w) then none
    else some (utf8 s)).isSome = true
  rw [hany]
  rfl

/-- A readable document without repeated names, with a header and the shape of the tool. -/
theorem accepts_of_document {members : Members} {s tool : String}
    (hreadable : (Document.object members).readable 127 = true)
    (hdistinct : (Document.object members).distinct = true)
    (hlength : (Document.object members).print.length ≤ Transport.responseBytesMax)
    (hword : s ∈ Transport.statusWords)
    (hheader : Transport.header (.object members) = some (1, utf8 s))
    (hshape : Bridge.responseShape C (utf8 tool) (Document.object members).toValue = true) :
    Bridge.Accepts C reader tool (Document.object members).print
      (Document.object members).toValue where
  envelope := isSome_validateResponseEnvelope hreadable hlength hword hheader
  unique := by
    rw [Bridge.unique, reader.parse_print _ hreadable]
    show (if (Document.object members).distinct then _ else none) = _
    rw [hdistinct]
    rfl
  shape := hshape
  readable := readable_toValue _ 127 hdistinct hreadable
  length_eq := length_print_toValue hdistinct

/-- Every reply begins with a version and a status. -/
theorem Found.header (observation : Text → ExecutionObservation) (found : Found) :
    ∃ members s, found.document observation = .object members ∧ s ∈ Transport.statusWords ∧
      Transport.header (.object members) = some (1, utf8 s) := by
  have herror : ∀ error, ∃ members s, errorDocument error = .object members ∧
      s ∈ Transport.statusWords ∧ Transport.header (.object members) = some (1, utf8 s) :=
    fun error => ⟨_, "ERROR", rfl, by decide, rfl⟩
  have hpage : ∀ entries nextCursor, ∃ members s, pageDocument entries nextCursor =
      .object members ∧ s ∈ Transport.statusWords ∧
      Transport.header (.object members) = some (1, utf8 s) :=
    fun entries nextCursor => ⟨_, "READY", rfl, by decide, rfl⟩
  cases found with
  | status result =>
    cases result with
    | error error => exact herror error
    | ok answer =>
      obtain ⟨status, targets, execution⟩ := answer
      refine ⟨_, statusWord status, rfl, ?_, ?_⟩
      · cases status with
        | notAttempted rejection => exact (by decide : "NOT_ATTEMPTED" ∈ Transport.statusWords)
        | _ => decide
      · unfold known shownTargets
        cases targets.git <;> cases status <;> rfl
  | receipt result =>
    cases result with
    | error error => exact herror error
    | ok receipt =>
      cases receipt with
      | notFound => exact ⟨_, "NOT_FOUND", rfl, by decide, rfl⟩
      | notReady => exact ⟨_, "NOT_READY", rfl, by decide, rfl⟩
      | ready bytes sha256 => exact ⟨_, "READY", rfl, by decide, rfl⟩
  | catalog result =>
    cases result with
    | error error => exact herror error
    | ok page => exact hpage _ _
  | history result =>
    cases result with
    | error error => exact herror error
    | ok page => exact hpage _ _

/-- **Every reply that fits its frame is accepted.** -/
theorem Found.accepted (reader : Reader) {observation : Text → ExecutionObservation} {found : Found}
    (h : FoundPresentable C found)
    (hfits : responseLengthAllowed (found.render reader observation).length found.responseClass =
      true) :
    Bridge.Accepts C reader found.tool (found.render reader observation)
      (found.document observation).toValue := by
  have hrender : found.render reader observation = (found.document observation).print :=
    found.render_eq reader h
  obtain ⟨members, s, hdocument, hword, hheader⟩ := found.header observation
  have hmeasured : Measured 127 (found.document observation) found.plainBound found.freeTexts :=
    Found.measured h
  have hreadable := hmeasured.readable
  have hdistinct := found.distinct observation
  have hshape : Bridge.responseShape C (utf8 found.tool) (found.document observation).toValue = true :=
    Found.responseShape h
  have hlength := (responseLengthAllowed_iff.mp hfits).2.trans
    (by cases found.responseClass <;> decide : found.responseClass.maximum ≤
      Transport.responseBytesMax)
  rw [hrender] at hlength ⊢
  rw [hdocument] at hreadable hdistinct hshape hlength ⊢
  exact accepts_of_document hreadable hdistinct hlength hword hheader hshape

/-- **Every reply to a submission is accepted.** -/
theorem submission_accepted (reader : Reader) (admission : SubmissionAdmission) :
    Bridge.Accepts C reader "kapsel.submit" (renderSubmission admission)
      (submissionDocument admission).toValue := by
  rw [renderSubmission_eq]
  cases admission with
  | decided admission =>
    cases admission with
    | admitted phase =>
      cases phase <;> exact accepts_of_document (s := "ADMITTED") rfl rfl (by decide) (by decide) rfl rfl
    | busy => exact accepts_of_document (s := "NOT_ADMITTED") rfl rfl (by decide) (by decide) rfl rfl
    | full => exact accepts_of_document (s := "NOT_ADMITTED") rfl rfl (by decide) (by decide) rfl rfl
  | indeterminate =>
    exact accepts_of_document (s := "INDETERMINATE") rfl rfl (by decide) (by decide) rfl rfl
  | error error =>
    cases error <;> exact accepts_of_document (s := "ERROR") rfl rfl (by decide) (by decide) rfl rfl

end

end Daemon
end Kapsel
