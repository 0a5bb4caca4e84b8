import Kapsel.Application.Provisioning
import Kapsel.Daemon.Answers
import Kapsel.Daemon.Receipts
import Kapsel.Daemon.Requests

/-!
# Replies and their frames

What a reply shows of identities, names, images and commits needs no escape, and the checks bound
its length.  The uids, the resource versions and the labels are free: a byte of them may take up to
six in the reply.

* `Found.measured`: the plain bytes of what is found are bounded, and its escapes are those of its
  free texts.
* `Found.render_eq`: what a renderer writes is the text of one document.
* `frame_of_reply`: a reply fits its frame exactly if the escapes of its free texts fit in the room
  that its plain bytes leave.  A status and a receipt always fit.
* `first_page_too_long`: an accepted catalog whose first page does not fit.
-/

namespace Kapsel

open Grammar Fallible Authority Interaction Interaction.Program

namespace Daemon

open Gateway Gateway.Journal Application Json Json.Document

variable {C : Crypto}

/-! ## Texts that need no escape -/

/-- The bytes of names need no escape. -/
theorem isPlain_table : ∀ n : Fin 256,
    ((isAsciiAlphanumeric (UInt8.ofFin n) || UInt8.ofFin n = asciiByte '.' ||
      UInt8.ofFin n = asciiByte '_' || UInt8.ofFin n = asciiByte ':' ||
      UInt8.ofFin n = asciiByte '-') = true → isPlain (UInt8.ofFin n) = true) ∧
    ((isAsciiLowercaseOrDigit (UInt8.ofFin n) || UInt8.ofFin n = asciiByte '-') = true →
      isPlain (UInt8.ofFin n) = true) ∧
    ((isAsciiLowercaseOrDigit (UInt8.ofFin n) || UInt8.ofFin n = asciiByte '.' ||
      UInt8.ofFin n = asciiByte '_' || UInt8.ofFin n = asciiByte '-') = true →
      isPlain (UInt8.ofFin n) = true) := by
  decide +kernel

theorem isPlain_of_identityIsValid {value : Text} (h : identityIsValid value = true) :
    value.all isPlain = true := by
  simp only [identityIsValid, Bool.and_eq_true] at h
  exact isPlain_of_all (fun n => (isPlain_table n).1) h.2

theorem isPlain_of_dnsLabelIsValid {value : Text} (h : dnsLabelIsValid value = true) :
    value.all isPlain = true := by
  simp only [dnsLabelIsValid, Bool.and_eq_true] at h
  exact isPlain_of_all (fun n => (isPlain_table n).2.1) h.2

theorem isPlain_of_dnsSubdomainIsValid {value : Text} (h : dnsSubdomainIsValid value = true) :
    value.all isPlain = true := by
  simp only [dnsSubdomainIsValid, Bool.and_eq_true, List.all_eq_true] at h
  exact all_of_splitOn (by decide) fun part hpart => isPlain_of_dnsLabelIsValid (h.2 part hpart)

theorem isPlain_of_imageNameComponentIsValid {value : Text}
    (h : imageNameComponentIsValid value = true) : value.all isPlain = true := by
  simp only [imageNameComponentIsValid, Bool.and_eq_true] at h
  exact isPlain_of_all (fun n => (isPlain_table n).2.2) h.2

theorem isPlain_of_isLowercaseSha256 {value : Text} (h : isLowercaseSha256 value = true) :
    value.all isPlain = true := by
  simp only [isLowercaseSha256, Bool.and_eq_true] at h
  exact isPlain_of_isLowercaseHex h.2

theorem isPlain_of_immutableImageIsValid {value : Text} (h : immutableImageIsValid value = true) :
    value.all isPlain = true := by
  unfold immutableImageIsValid at h
  split at h
  · cases h
  · split at h
    · cases h
    · rename_i name digest hsplit
      split at h
      · cases h
      · simp only [Bool.and_eq_true, List.all_eq_true] at h
        obtain ⟨hdigest, hparts⟩ := h
        have hname : name.all isPlain = true :=
          all_of_splitOn (by decide) fun part hpart =>
            isPlain_of_imageNameComponentIsValid (hparts part hpart)
        rw [eq_of_splitOnce hsplit, List.all_append, List.all_append, hname,
          isPlain_of_isLowercaseSha256 hdigest]
        rfl

theorem isPlain_of_gitCommitIdIsValid {value : Text} (h : gitCommitIdIsValid value = true) :
    value.all isPlain = true := by
  simp only [gitCommitIdIsValid, Bool.and_eq_true] at h
  exact isPlain_of_isLowercaseHex h.1.2

/-! ## Measures of texts -/

section
variable {depth bound bound' : ℕ} {texts texts' : List Text} {d : Document}
  {members : List (String × Document)}

theorem measured_fits {value : Text} (h : Fits bound value) (hplain : value.all isPlain = true) :
    Measured depth (.string value) (bound + 2) [] := measured_plain h.ascii hplain h.length_le

theorem measured_identity {value : Text} (h : identityIsValid value = true) :
    Measured depth (.string value) 130 [] :=
  measured_fits (fits_of_identityIsValid h) (isPlain_of_identityIsValid h)

theorem measured_commit {value : Text} (h : gitCommitIdIsValid value = true) :
    Measured depth (.string value) 42 [] :=
  measured_fits (fits_of_gitCommitIdIsValid h) (isPlain_of_gitCommitIdIsValid h)

theorem measured_fact {value : Text} (h : factIsValid value = true) :
    Measured depth (.string value) 130 [value] :=
  measured_free (fits_of_factIsValid h).ascii (fits_of_factIsValid h).length_le

theorem measured_field (name : String) (hascii : isAsciiText (utf8 name) = true)
    (hplain : (utf8 name).all isPlain = true) (h : Measured depth d bound texts)
    (hmembers : MeasuredMembers depth (named members) bound' texts') :
    MeasuredMembers depth (named ((name, d) :: members))
      ((utf8 name).length + bound + 4 + bound') (texts ++ texts') :=
  MeasuredMembers.cons hascii hplain h hmembers

theorem measured_lastField (name : String) (hascii : isAsciiText (utf8 name) = true)
    (hplain : (utf8 name).all isPlain = true) (h : Measured depth d bound texts) :
    MeasuredMembers depth (named [(name, d)]) ((utf8 name).length + bound + 4) texts := by
  have hmembers := MeasuredMembers.cons hascii hplain h measuredMembers_nil
  rwa [List.append_nil] at hmembers

theorem measured_fields (h : MeasuredMembers depth (named members) bound texts)
    (hmembers : named members ≠ []) (hbound : bound + 1 ≤ bound') :
    Measured (depth + 1) (.object (named members)) bound' texts :=
  (MeasuredMembers.object h hmembers).mono hbound

theorem measured_nullable {α : Type} {f : α → Document} {textsOf : α → List Text} {a : Option α}
    (hbound : 4 ≤ bound) (h : ∀ value ∈ a, Measured depth (f value) bound (textsOf value)) :
    Measured depth (nullable f a) bound (a.elim [] textsOf) := by
  cases a with
  | none => exact measured_null.mono hbound
  | some value => exact h value rfl

end

/-! ## Measures of what replies show -/

/-- The free texts of a target. -/
def targetTexts (target : ApprovedTarget) : List Text := [target.resourceVersion, target.uid]

/-- The free texts of an observed target. -/
def observedTexts (target : ObservedTarget) : List Text :=
  target.resourceVersion.elim [] (fun value => [value]) ++ target.uid.elim [] fun value => [value]

/-- The free texts of the targets. -/
def targetsTexts (targets : OperationTargets) : List Text :=
  match targets.git with
  | some _ => []
  | none =>
      targets.approvedTarget.elim [] targetTexts ++
        (targets.attemptTarget.elim [] targetTexts ++
          targets.observedTarget.elim [] observedTexts)

/-- The free texts of an entry of the catalog. -/
def actionTexts : ApprovedAction → List Text
  | .kubernetes _ target label => targetTexts target ++ [label]
  | .git _ label => [label]

section
variable {depth : ℕ}

theorem measured_targetFields {target : ApprovedTarget} (h : target.isValid = true) :
    Measured (depth + 1) (targetFields target) 288 (targetTexts target) := by
  simp only [ApprovedTarget.isValid, List.all_cons, List.all_nil, Bool.and_true,
    Bool.and_eq_true] at h
  have hversion : Measured depth (.string target.resourceVersion) 130 _ := measured_fact h.2
  have hmembers := measured_field "resource_version" rfl rfl hversion <|
    measured_lastField "uid" rfl rfl (measured_fact h.1)
  exact measured_fields hmembers (List.cons_ne_nil _ _) (by decide)

theorem measured_observedFields {target : ObservedTarget} (huid : target.uid.all factIsValid = true)
    (hversion : target.resourceVersion.all factIsValid = true) :
    Measured (depth + 1) (observedFields target) 288 (observedTexts target) := by
  have hfact : ∀ value : Option Text, value.all factIsValid = true →
      Measured depth (nullable .string value) 130 (value.elim [] fun value => [value]) := by
    intro value hvalue
    refine measured_nullable (by decide) fun text htext => measured_fact ?_
    obtain rfl := htext
    exact hvalue
  have hlast := measured_lastField "uid" rfl rfl (hfact target.uid huid)
  have hboth := measured_field "resource_version" rfl rfl (hfact target.resourceVersion hversion) hlast
  exact measured_fields hboth (List.cons_ne_nil _ _) (by decide)

theorem measured_text {value : Text} {bound : ℕ} (hascii : isAsciiText value = true)
    (hplain : value.all isPlain = true) (hlength : value.length + 2 ≤ bound) :
    Measured depth (.string value) bound [] :=
  (measured_plain hascii hplain le_rfl).mono hlength

theorem measured_guidance (execution : ExecutionDisposition) :
    Measured (depth + 1) (guidance execution) 160 [] := by
  have howner : Measured depth (.string execution.actionOwner) 10 [] := by
    cases execution <;> exact measured_text rfl rfl (Nat.le_of_ble_eq_true rfl)
  have hcondition : Measured depth
      (nullable (fun condition => .string condition.asStr) execution.condition) 23 [] := by
    have hwords (condition : ExecutionCondition) :
        Measured depth (.string condition.asStr) 23 [] := by
      cases condition <;> exact measured_text rfl rfl (by decide)
    cases execution.condition with
    | none => exact measured_null.mono (by decide)
    | some condition => exact hwords condition
  have hdisposition : Measured depth (.string execution.asStr) 23 [] := by
    cases execution <;> exact measured_text rfl rfl (Nat.le_of_ble_eq_true rfl)
  have hnext : Measured depth (.string execution.nextAction) 27 [] := by
    cases execution <;> exact measured_text rfl rfl (Nat.le_of_ble_eq_true rfl)
  have hmembers := measured_field "action_owner" rfl rfl howner <|
    measured_field "condition" rfl rfl hcondition <|
      measured_field "disposition" rfl rfl hdisposition <|
        measured_lastField "next_action" rfl rfl hnext
  exact measured_fields hmembers (List.cons_ne_nil _ _) (by decide)

theorem measured_gitTargets {targets : GitOperationTargets} (h : targets.approval.Valid)
    (hseen : ∀ seen ∈ targets.observedRef, SeenValid seen) :
    Measured (depth + 2) (gitTargets targets) 450 [] := by
  have hacknowledgement : Measured (depth + 1)
      (nullable (fun word => .string word.asStr) targets.acknowledgement) 22 [] := by
    cases targets.acknowledgement with
    | none => exact measured_null.mono (by decide)
    | some acknowledgement => cases acknowledgement <;> exact measured_text rfl rfl (by decide)
  have hobserved : Measured (depth + 1) (nullable observedRef targets.observedRef) 80 [] := by
    have hpair : ∀ {d : Document} (s : String), Measured depth d 42 [] →
        isAsciiText (utf8 s) = true → (utf8 s).all isPlain = true → (utf8 s).length + 2 ≤ 9 →
        Measured (depth + 1) (.object (named [("commit", d), ("kind", word s)])) 80 [] := by
      intro d s hd hascii hplain hlength
      have hmembers := measured_field "commit" rfl rfl hd <|
        measured_lastField "kind" rfl rfl (measured_text hascii hplain hlength)
      exact measured_fields hmembers (List.cons_ne_nil _ _) (by decide)
    cases hs : targets.observedRef with
    | none => exact measured_null.mono (by decide)
    | some seen =>
      cases seen with
      | commit id => exact hpair "commit" (measured_commit (hseen _ hs id rfl)) rfl rfl (by decide)
      | missing => exact hpair "missing" (measured_null.mono (by decide)) rfl rfl (by decide)
      | unknown => exact hpair "unknown" (measured_null.mono (by decide)) rfl rfl (by decide)
  have hreference : Measured (depth + 1) (.string targets.approval.reference) 21 [] := by
    rw [h.reference]
    exact measured_text rfl rfl (by decide)
  have hmembers := measured_field "acknowledgement" rfl rfl hacknowledgement <|
    measured_field "attempted" rfl rfl (measured_bool targets.attempted) <|
      measured_field "new_commit" rfl rfl (measured_commit h.newCommit) <|
        measured_field "observed_ref" rfl rfl hobserved <|
          measured_field "old_commit" rfl rfl (measured_commit h.oldCommit) <|
            measured_field "reference" rfl rfl hreference <|
              measured_lastField "repository_id" rfl rfl (measured_identity h.repositoryId)
  exact measured_fields hmembers (List.cons_ne_nil _ _) (by decide)

/-! ## Measures of statuses and entries -/

theorem measured_outcome (status : OperationStatus) :
    MeasuredMembers depth (named (outcome status)) 67 [] := by
  have hrejection : ∀ rejection : TargetRejection,
      Measured depth (.string (targetRejection rejection)) 22 [] := by
    intro rejection
    cases rejection <;> exact measured_text rfl rfl (by decide)
  have hword : ∀ s : String, isAsciiText (utf8 s) = true → (utf8 s).all isPlain = true →
      (utf8 s).length + 2 ≤ 15 → MeasuredMembers depth (named [("status", word s)]) 67 [] := by
    intro s hascii hplain hlength
    exact (measured_lastField "status" rfl rfl (measured_text hascii hplain hlength)).mono (by decide)
  cases status with
  | notAttempted rejection =>
    have hstatus : Measured depth (word "NOT_ATTEMPTED") 15 [] := measured_text rfl rfl (by decide)
    exact measured_field "status" rfl rfl hstatus <|
      measured_lastField "target_rejection" rfl rfl (hrejection rejection)
  | notFound => exact hword "NOT_FOUND" rfl rfl (by decide)
  | inProgress => exact hword "IN_PROGRESS" rfl rfl (by decide)
  | succeeded => exact hword "SUCCEEDED" rfl rfl (by decide)
  | failed => exact hword "FAILED" rfl rfl (by decide)
  | unknown => exact hword "UNKNOWN" rfl rfl (by decide)

theorem measured_evidence {status : OperationStatus} {targets : OperationTargets}
    (h : Presentable status targets) (execution : ExecutionDisposition) :
    MeasuredMembers (depth + 2) (named (evidence status targets execution)) 1136
      (targetsTexts targets) := by
  have hguidance : Measured (depth + 1 + 1) (guidance execution) 160 [] := measured_guidance execution
  cases h with
  | notFound =>
    exact (measured_lastField "execution" rfl rfl hguidance).mono (by decide)
  | kubernetes status approvedTarget attemptTarget observedTarget hfound _ happroved hattempt
      hobserved =>
    have htarget : ∀ target : Option ApprovedTarget, (∀ t ∈ target, t.isValid = true) →
        Measured (depth + 2) (nullable targetFields target) 288 (target.elim [] targetTexts) :=
      fun target h => measured_nullable (by decide) fun t ht => measured_targetFields (h t ht)
    have hseen : Measured (depth + 2) (nullable observedFields observedTarget) 288
        (observedTarget.elim [] observedTexts) :=
      measured_nullable (by decide) fun t ht =>
        measured_observedFields (hobserved t ht).1 (hobserved t ht).2
    have heffect : Measured (depth + 2) (word "kubernetes.set_deployment_image") 33 [] :=
      measured_text rfl rfl (by decide)
    have hmembers := measured_field "approved_target" rfl rfl (htarget approvedTarget happroved) <|
      measured_field "attempt_target" rfl rfl (htarget attemptTarget hattempt) <|
        measured_field "effect" rfl rfl heffect <|
          measured_field "execution" rfl rfl hguidance <|
            measured_lastField "observed_target" rfl rfl hseen
    unfold evidence
    rw [if_neg hfound]
    exact hmembers
  | git status git hfound _ hvalid hseen =>
    have heffect : Measured (depth + 2) (word "git.transition_ref") 20 [] :=
      measured_text rfl rfl (by decide)
    have hmembers := measured_field "effect" rfl rfl heffect <|
      measured_field "execution" rfl rfl hguidance <|
        measured_lastField "git" rfl rfl (measured_gitTargets hvalid hseen)
    unfold evidence
    rw [if_neg hfound]
    exact hmembers.mono (by decide)

/-- The free texts of an entry of the history. -/
def entryTexts (entry : HistoryEntry) : List Text :=
  match entry.status with
  | .ok (_, targets) => targetsTexts targets
  | .error _ => []

theorem measured_errorDocument (error : ServiceError) :
    Measured (depth + 1) (errorDocument error) 68 [] := by
  have hstatus : Measured depth (word "ERROR") 7 [] := measured_text rfl rfl (by decide)
  have hclass : Measured depth (.string (errorClass error)) 23 [] := by
    cases error <;> exact measured_text rfl rfl (by decide)
  have hmembers := measured_field "version" rfl rfl measured_one <|
    measured_field "status" rfl rfl hstatus <|
      measured_lastField "error_class" rfl rfl hclass
  exact measured_fields hmembers (List.cons_ne_nil _ _) (by decide)

/-- An entry of the history, as it is shown. -/
def shownEntry (observation : Text → ExecutionObservation) (entry : HistoryEntry) : Document :=
  entryDocument entry.operationId (entryStatus observation entry)

theorem measured_shownEntry (observation : Text → ExecutionObservation) {entry : HistoryEntry}
    (h : EntryPresentable entry) :
    Measured (depth + 3) (shownEntry observation entry) 1350 (entryTexts entry) := by
  have hid : Measured (depth + 2) (.string entry.operationId) 130 [] :=
    measured_identity h.operationId
  obtain ⟨id, result⟩ := entry
  cases result with
  | error error =>
    have hclass : Measured (depth + 2) (.string (errorClass error)) 23 [] := by
      cases error <;> exact measured_text rfl rfl (by decide)
    have hstatus : Measured (depth + 2) (word "ERROR") 7 [] := measured_text rfl rfl (by decide)
    have hmembers := measured_field "error_class" rfl rfl hclass <|
      measured_field "operation_id" rfl rfl hid <| measured_lastField "status" rfl rfl hstatus
    exact measured_fields hmembers (List.cons_ne_nil _ _) (by decide)
  | ok found =>
    obtain ⟨status, targets⟩ := found
    have hevidence : MeasuredMembers (depth + 2) _ 1136 _ :=
      measured_evidence (h.status status targets rfl) (.project status (observation id))
    have hmembers := (hevidence.append (measured_lastField "operation_id" rfl rfl hid)).append
      (measured_outcome status)
    rw [List.append_nil, List.append_nil, ← named_append, ← named_append] at hmembers
    have hentry : shownEntry observation ⟨id, .ok (status, targets)⟩ = _ :=
      entryDocument_ok id status targets (.project status (observation id))
    rw [hentry]
    refine measured_fields hmembers ?_ (by decide)
    rw [named_append]
    exact List.append_ne_nil_of_right_ne_nil _ (List.cons_ne_nil _ _)

/-- The members that name the targets, if there are any to name. -/
theorem measured_targets {status : OperationStatus} {targets : OperationTargets}
    (h : Presentable status targets) :
    MeasuredMembers (depth + 2)
      (named (if status = .notFound then [] else shownTargets targets)) 963 (targetsTexts targets) := by
  cases h with
  | notFound => exact measuredMembers_nil.mono (Nat.zero_le _)
  | kubernetes status approvedTarget attemptTarget observedTarget hfound _ happroved hattempt
      hobserved =>
    have htarget : ∀ target : Option ApprovedTarget, (∀ t ∈ target, t.isValid = true) →
        Measured (depth + 2) (nullable targetFields target) 288 (target.elim [] targetTexts) :=
      fun target h => measured_nullable (by decide) fun t ht => measured_targetFields (h t ht)
    have hseen : Measured (depth + 2) (nullable observedFields observedTarget) 288
        (observedTarget.elim [] observedTexts) :=
      measured_nullable (by decide) fun t ht =>
        measured_observedFields (hobserved t ht).1 (hobserved t ht).2
    have heffect : Measured (depth + 2) (word "kubernetes.set_deployment_image") 33 [] :=
      measured_text rfl rfl (by decide)
    rw [if_neg hfound]
    exact measured_field "approved_target" rfl rfl (htarget approvedTarget happroved) <|
      measured_field "attempt_target" rfl rfl (htarget attemptTarget hattempt) <|
        measured_field "effect" rfl rfl heffect <|
          measured_lastField "observed_target" rfl rfl hseen
  | git status git hfound _ hvalid hseen =>
    have heffect : Measured (depth + 2) (word "git.transition_ref") 20 [] :=
      measured_text rfl rfl (by decide)
    have hmembers := measured_field "effect" rfl rfl heffect <|
      measured_lastField "git" rfl rfl (measured_gitTargets hvalid hseen)
    rw [if_neg hfound]
    exact hmembers.mono (by decide)

theorem measured_executionDocument {status : OperationStatus} {targets : OperationTargets}
    (h : Presentable status targets) (execution : ExecutionDisposition) :
    Measured (depth + 3) (executionDocument (.ok (status, targets, execution))) 1216
      (targetsTexts targets) := by
  have hversion : Measured (depth + 2) one 1 [] := measured_one
  have hhead := (measured_lastField "version" rfl rfl hversion).append (measured_outcome status)
  have hmembers := (hhead.append (measured_targets h)).append
    (measured_lastField "execution" rfl rfl (measured_guidance execution))
  rw [← named_append, ← named_append, ← named_append, List.append_nil] at hmembers
  exact measured_fields hmembers (List.cons_ne_nil _ _) (by decide)

/-! ## Measures of pages -/

theorem measured_catalogEntry {action : ApprovedAction} (h : ActionPresentable action) :
    Measured (depth + 2) (catalogEntry action) 1601 (actionTexts action) := by
  have hlabel : ∀ label : Text, label.length ≤ 128 →
      (label.all fun b => 32 ≤ b && b ≤ 126) = true →
      Measured (depth + 1) (.string label) 130 [label] := by
    intro label hlength hbytes
    refine measured_free (isAscii_of_all (fun b hb => ?_) hbytes) hlength
    rw [Bool.and_eq_true, decide_eq_true_eq, decide_eq_true_eq] at hb
    exact Nat.lt_of_le_of_lt hb.2 (by decide)
  cases action with
  | kubernetes request target label =>
    obtain ⟨hid, hnamespace, hdeployment, hcontainer, himage, htarget, hlength, hbytes⟩ := h
    have heffect : Measured (depth + 1) (word "kubernetes.set_deployment_image") 33 [] :=
      measured_text rfl rfl (by decide)
    have hmembers := measured_field "approved_target" rfl rfl (measured_targetFields htarget) <|
      measured_field "container" rfl rfl (measured_fits (fits_of_dnsLabelIsValid hcontainer)
        (isPlain_of_dnsLabelIsValid hcontainer)) <|
      measured_field "deployment" rfl rfl (measured_fits (fits_of_dnsSubdomainIsValid hdeployment)
        (isPlain_of_dnsSubdomainIsValid hdeployment)) <|
      measured_field "effect" rfl rfl heffect <|
      measured_field "immutable_image_digest" rfl rfl
        (measured_fits (fits_of_immutableImageIsValid himage)
          (isPlain_of_immutableImageIsValid himage)) <|
      measured_field "label" rfl rfl (hlabel label hlength hbytes) <|
      measured_field "namespace" rfl rfl (measured_fits (fits_of_dnsLabelIsValid hnamespace)
        (isPlain_of_dnsLabelIsValid hnamespace)) <|
      measured_lastField "operation_id" rfl rfl (measured_identity hid)
    exact measured_fields hmembers (List.cons_ne_nil _ _) (by decide)
  | git authorization label =>
    obtain ⟨hvalid, hlength, hbytes⟩ := h
    have heffect : Measured (depth + 1) (word "git.transition_ref") 20 [] :=
      measured_text rfl rfl (by decide)
    have hreference : Measured (depth + 1) (.string authorization.reference) 21 [] := by
      rw [hvalid.reference]
      exact measured_text rfl rfl (by decide)
    have hmembers := measured_field "effect" rfl rfl heffect <|
      measured_field "label" rfl rfl (hlabel label hlength hbytes) <|
      measured_field "new_commit" rfl rfl (measured_commit hvalid.newCommit) <|
      measured_field "old_commit" rfl rfl (measured_commit hvalid.oldCommit) <|
      measured_field "operation_id" rfl rfl (measured_identity hvalid.operationId) <|
      measured_field "reference" rfl rfl hreference <|
      measured_lastField "repository_id" rfl rfl (measured_identity hvalid.repositoryId)
    exact measured_fields hmembers (List.cons_ne_nil _ _) (by decide)

/-- A page of entries that are measured. -/
theorem measured_pageDocument {α : Type} {entries : List α} {f : α → Document}
    {textsOf : α → List Text} {bound : ℕ} {nextCursor : Option Text} (hcount : entries.length ≤ 8)
    (hbound : bound ≤ 1601) (h : ∀ entry ∈ entries, Measured (depth + 2) (f entry) bound (textsOf entry))
    (hcursor : nextCursor.all identityIsValid = true) :
    Measured (depth + 4) (pageDocument (entries.map f) nextCursor) 13004
      (entries.flatMap textsOf) := by
  have hentries : Measured (depth + 3) (.array (entries.map f)) 12818 (entries.flatMap textsOf) :=
    (measured_array hcount h).mono (by omega)
  have hnext : Measured (depth + 3) (nullable .string nextCursor) 130 [] := by
    cases nextCursor with
    | none => exact measured_null.mono (by decide)
    | some id => exact measured_identity hcursor
  have hstatus : Measured (depth + 3) (word "READY") 7 [] := measured_text rfl rfl (by decide)
  have hmembers := measured_field "entries" rfl rfl hentries <|
    measured_field "next_cursor" rfl rfl hnext <|
    measured_field "status" rfl rfl hstatus <| measured_lastField "version" rfl rfl measured_one
  have hpage := measured_fields hmembers (List.cons_ne_nil _ _) (by decide : _ ≤ 13004)
  rwa [List.append_nil, List.append_nil, List.append_nil] at hpage

end

/-! ## The document of a reply -/

/-- The reply to a receipt request without a receipt. -/
def receiptAbsent (status : String) : Document :=
  .object (named [("version", one), ("status", word status)])

/-- The document of a reply. -/
def Found.document (observation : Text → ExecutionObservation) : Found → Document
  | status result => executionDocument result
  | receipt (.ok .notFound) => receiptAbsent "NOT_FOUND"
  | receipt (.ok .notReady) => receiptAbsent "NOT_READY"
  | receipt (.ok (.ready bytes sha256)) => receiptDocument bytes sha256
  | receipt (.error error) => errorDocument error
  | catalog (.ok page) => pageDocument (page.entries.map catalogEntry) page.nextCursor
  | catalog (.error error) => errorDocument error
  | history (.ok page) => pageDocument (page.entries.map (shownEntry observation)) page.nextCursor
  | history (.error error) => errorDocument error

/-- The free texts of a reply. -/
def Found.freeTexts : Found → List Text
  | status (.ok (_, targets, _)) => targetsTexts targets
  | catalog (.ok page) => page.entries.flatMap actionTexts
  | history (.ok page) => page.entries.flatMap entryTexts
  | _ => []

/-- The frame of a reply. -/
def Found.responseClass : Found → ResponseClass
  | receipt _ => .receipt
  | _ => .ordinary

/-- What the plain bytes of a reply leave of its frame. -/
def Found.room (observation : Text → ExecutionObservation) (found : Found) : ℕ :=
  found.responseClass.maximum - (found.document observation).plainLength

/-- How long a reply can be when nothing is escaped. -/
def Found.plainBound : Found → ℕ
  | status _ => 1216
  | receipt _ => 32899
  | _ => 13004

theorem measured_receiptDocument {bytes : Bytes} {sha256 : Text} (hlength : bytes.length ≤ 16 * 1024)
    (hsha256 : validSha256 sha256 = true) : Measured 127 (receiptDocument bytes sha256) 32899 [] := by
  have hhex := isLowercaseHex_lowercaseHex bytes
  have hbytes : Measured 126 (.string (lowercaseHex bytes)) 32770 [] := by
    refine measured_text (isAscii_of_all (fun _ => isLowercaseHex_lt) hhex)
      (isPlain_of_isLowercaseHex hhex) ?_
    rw [length_lowercaseHex]
    omega
  have hdigest : Measured 126 (.string sha256) 66 [] :=
    measured_fits (fits_of_isLowercaseSha256 hsha256) (isPlain_of_isLowercaseSha256 hsha256)
  have hstatus : Measured 126 (word "READY") 7 [] := measured_text rfl rfl (by decide)
  have hmembers := measured_field "version" rfl rfl measured_one <|
    measured_field "status" rfl rfl hstatus <|
    measured_field "receipt_hex" rfl rfl hbytes <|
    measured_lastField "receipt_sha256" rfl rfl hdigest
  exact (hmembers.object (List.cons_ne_nil _ _)).mono (by decide)

theorem measured_receiptAbsent {status : String} (hascii : isAsciiText (utf8 status) = true)
    (hplain : (utf8 status).all isPlain = true) (hlength : (utf8 status).length ≤ 9) :
    Measured 127 (receiptAbsent status) 32899 [] := by
  have hstatus : Measured 126 (word status) 11 [] :=
    measured_text hascii hplain (Nat.add_le_add_right hlength 2)
  have hmembers := measured_field "version" rfl rfl measured_one <|
    measured_lastField "status" rfl rfl hstatus
  exact measured_fields hmembers (List.cons_ne_nil _ _) (by decide)

/-- **The plain bytes of what is found are bounded**, and its escapes are those of its free
texts. -/
theorem Found.measured {observation : Text → ExecutionObservation} {found : Found}
    (h : FoundPresentable C found) :
    Measured 127 (found.document observation) found.plainBound found.freeTexts := by
  have herror : ∀ (error : ServiceError) (bound : ℕ), 68 ≤ bound →
      Measured 127 (errorDocument error) bound [] :=
    fun error bound hbound => (measured_errorDocument error).mono hbound
  cases found with
  | status result =>
    cases result with
    | error error => exact herror error 1216 (by decide)
    | ok answer =>
      obtain ⟨status, targets, execution⟩ := answer
      exact measured_executionDocument (h status targets execution rfl).1 execution
  | receipt result =>
    cases result with
    | error error => exact herror error 32899 (by decide)
    | ok receipt =>
      cases receipt with
      | notFound => exact measured_receiptAbsent rfl rfl (by decide)
      | notReady => exact measured_receiptAbsent rfl rfl (by decide)
      | ready bytes sha256 =>
        obtain ⟨hlength, rfl⟩ := h _ rfl
        exact measured_receiptDocument hlength (isLowercaseSha256_digestHex C bytes)
  | catalog result =>
    cases result with
    | error error => exact herror error 13004 (by decide)
    | ok page =>
      have hpage := h page rfl
      exact measured_pageDocument hpage.length_le (Nat.le_refl _)
        (fun entry hentry => measured_catalogEntry (hpage.entries entry hentry)) hpage.nextCursor
  | history result =>
    cases result with
    | error error => exact herror error 13004 (by decide)
    | ok page =>
      have hpage := h page rfl
      exact measured_pageDocument hpage.length_le (by decide)
        (fun entry hentry => measured_shownEntry observation (hpage.entries entry hentry))
        hpage.nextCursor

/-- Every status on a page can be read back. -/
theorem readable_entryStatus (observation : Text → ExecutionObservation) {entry : HistoryEntry}
    (h : EntryPresentable entry) : (entryStatus observation entry).readable 127 = true := by
  obtain ⟨id, result⟩ := entry
  cases result with
  | error error => exact (measured_errorDocument error).readable
  | ok found =>
    obtain ⟨status, targets⟩ := found
    exact (measured_executionDocument (h.status status targets rfl) _).readable

/-- **What a renderer writes is the text of one document.** -/
theorem Found.render_eq (reader : Reader) {observation : Text → ExecutionObservation} {found : Found}
    (h : FoundPresentable C found) :
    found.render reader observation = (found.document observation).print := by
  cases found with
  | status result => exact renderExecutionStatus_eq result
  | receipt result =>
    cases result with
    | error error => exact serviceError_eq error
    | ok receipt =>
      cases receipt with
      | notFound => rfl
      | notReady => rfl
      | ready bytes sha256 =>
        obtain ⟨hlength, rfl⟩ := h _ rfl
        refine renderReceipt_ready (isLowercaseSha256_digestHex C bytes) ?_
        have hwrapper : wrapperBytes = 131 := by decide
        omega
  | catalog result =>
    cases result with
    | error error => exact serviceError_eq error
    | ok page => rfl
  | history result =>
    cases result with
    | error error => exact serviceError_eq error
    | ok page =>
      exact renderExecutionHistory_eq reader fun entry hentry =>
        readable_entryStatus observation ((h page rfl).entries entry hentry)

/-! ## Frames -/

/-- The free texts of the targets are facts. -/
theorem length_targetsTexts {status : OperationStatus} {targets : OperationTargets}
    (h : Presentable status targets) :
    (targetsTexts targets).length ≤ 6 ∧ ∀ text ∈ targetsTexts targets, text.length ≤ 128 := by
  have htarget : ∀ target : Option ApprovedTarget, (∀ t ∈ target, t.isValid = true) →
      (target.elim [] targetTexts).length ≤ 2 ∧
        ∀ text ∈ target.elim [] targetTexts, text.length ≤ 128 := by
    intro target htarget
    cases target with
    | none => exact ⟨Nat.zero_le _, fun _ hmem => absurd hmem List.not_mem_nil⟩
    | some t =>
      have hvalid := htarget t rfl
      simp only [ApprovedTarget.isValid, List.all_cons, List.all_nil, Bool.and_true,
        Bool.and_eq_true] at hvalid
      refine ⟨Nat.le_refl 2, fun text hmem => ?_⟩
      simp only [Option.elim_some, targetTexts, List.mem_cons, List.not_mem_nil, or_false] at hmem
      rcases hmem with rfl | rfl
      · exact (fits_of_factIsValid hvalid.2).length_le
      · exact (fits_of_factIsValid hvalid.1).length_le
  have hfact : ∀ value : Option Text, value.all factIsValid = true →
      (value.elim [] fun text => [text]).length ≤ 1 ∧
        ∀ text ∈ value.elim [] fun text => [text], text.length ≤ 128 := by
    intro value hvalue
    cases value with
    | none => exact ⟨Nat.zero_le _, fun _ hmem => absurd hmem List.not_mem_nil⟩
    | some fact =>
      refine ⟨Nat.le_refl 1, fun text hmem => ?_⟩
      obtain rfl := List.mem_singleton.mp hmem
      exact (fits_of_factIsValid hvalue).length_le
  cases h with
  | notFound => exact ⟨Nat.zero_le _, fun _ hmem => absurd hmem List.not_mem_nil⟩
  | git status git hfound _ hvalid hseen =>
    exact ⟨Nat.zero_le _, fun _ hmem => absurd hmem List.not_mem_nil⟩
  | kubernetes status approvedTarget attemptTarget observedTarget hfound _ happroved hattempt
      hobserved =>
    obtain ⟨hcount₁, hlength₁⟩ := htarget approvedTarget happroved
    obtain ⟨hcount₂, hlength₂⟩ := htarget attemptTarget hattempt
    obtain ⟨hcount₃, hlength₃⟩ : (observedTarget.elim [] observedTexts).length ≤ 2 ∧
        ∀ text ∈ observedTarget.elim [] observedTexts, text.length ≤ 128 := by
      cases observedTarget with
      | none => exact ⟨Nat.zero_le _, fun _ hmem => absurd hmem List.not_mem_nil⟩
      | some seen =>
        obtain ⟨huid, hversion⟩ := hobserved seen rfl
        obtain ⟨hcount, hlength⟩ := hfact seen.resourceVersion hversion
        obtain ⟨hcount', hlength'⟩ := hfact seen.uid huid
        refine ⟨?_, fun text hmem => ?_⟩
        · rw [Option.elim_some, observedTexts, List.length_append]
          omega
        · rcases List.mem_append.mp hmem with hmem | hmem
          · exact hlength text hmem
          · exact hlength' text hmem
    simp only [targetsTexts, List.length_append, List.mem_append]
    refine ⟨by omega, ?_⟩
    rintro text (hmem | hmem | hmem)
    · exact hlength₁ text hmem
    · exact hlength₂ text hmem
    · exact hlength₃ text hmem

/-- The frame of a request is that of what is found for it. -/
theorem responseClass_of_returns {trust : List AuthorizationTrust}
    {approvals : List SelectableApproval} {observation : Text → ExecutionObservation}
    {request : ReadRequest} {own : List (Exchange (Call C) Answer)} {found : Found}
    (h : Returns (find trust approvals observation request) own found) :
    found.responseClass = request.responseClass := by
  cases request with
  | status id =>
    obtain ⟨_, _, result, -, -, hend⟩ := returns_bind.mp h
    cases hend
    rfl
  | receipt id =>
    obtain ⟨_, _, result, -, -, hend⟩ := returns_bind.mp h
    cases hend
    rfl
  | list after =>
    cases h
    rfl
  | history after =>
    obtain ⟨_, _, result, -, -, hend⟩ := returns_bind.mp h
    cases hend
    rfl

section
variable (observation : Text → ExecutionObservation) {found : Found}

/-- **A reply fits its frame exactly if its escapes fit in the room** that the plain bytes leave. -/
theorem Found.allowed_iff (h : FoundPresentable C found) :
    responseLengthAllowed (found.document observation).print.length found.responseClass = true ↔
      escapesOf found.freeTexts ≤ found.room observation := by
  have hmeasured : Measured 127 (found.document observation) _ _ := Found.measured h
  have hpos := plainLength_pos hmeasured.readable
  have hplain : (found.document observation).plainLength ≤ found.responseClass.maximum := by
    refine hmeasured.plainLength_le.trans ?_
    cases found <;> exact Nat.le_of_ble_eq_true rfl
  rw [responseLengthAllowed_iff, length_print, hmeasured.escapes_eq, Found.room]
  omega

/-- A page leaves room. -/
theorem Found.room_of_ordinary (h : FoundPresentable C found)
    (hordinary : found.responseClass = .ordinary) : 3380 ≤ found.room observation := by
  have hmeasured : Measured 127 (found.document observation) _ _ := Found.measured h
  have hplain : (found.document observation).plainLength ≤ 13004 := by
    refine hmeasured.plainLength_le.trans ?_
    cases found with
    | receipt result => cases hordinary
    | _ => exact Nat.le_of_ble_eq_true rfl
  rw [Found.room, hordinary]
  exact Nat.le_sub_of_add_le (Nat.add_le_add_left hplain 3380)

/-- A receipt needs no room. -/
theorem escapes_le_of_receipt (result : Except ServiceError OperationReceipt) :
    escapesOf (Found.receipt result).freeTexts ≤ (Found.receipt result).room observation :=
  Nat.zero_le _

/-- A status leaves room for all its escapes. -/
theorem escapes_le_of_status
    {result : Except ServiceError (OperationStatus × OperationTargets × ExecutionDisposition)}
    (h : FoundPresentable C (.status result)) :
    escapesOf (Found.status result).freeTexts ≤ (Found.status result).room observation := by
  have hmeasured : Measured 127 ((Found.status result).document observation) 1216 _ :=
    Found.measured h
  have hroom : 3840 ≤ (Found.status result).room observation :=
    Nat.le_sub_of_add_le ((Nat.add_le_add_left hmeasured.plainLength_le 3840).trans
      (Nat.le_of_ble_eq_true rfl))
  refine Nat.le_trans ?_ hroom
  cases result with
  | error error => exact Nat.zero_le _
  | ok answer =>
    obtain ⟨status, targets, execution⟩ := answer
    obtain ⟨hcount, hlength⟩ := length_targetsTexts (h status targets execution rfl).1
    exact (escapesOf_le hlength).trans (Nat.mul_le_mul_right (5 * 128) hcount)

end

/-- A status and a receipt leave room for all their escapes. -/
theorem escapes_le_of_own {trust : List AuthorizationTrust} {approvals : List SelectableApproval}
    {observation : Text → ExecutionObservation} {request : ReadRequest} {id : Text}
    {own : List (Exchange (Call C) Answer)} {found : Found}
    (hrequest : request = .status id ∨ request = .receipt id)
    (h : Returns (find trust approvals observation request) own found)
    (hpresentable : FoundPresentable C found) :
    escapesOf found.freeTexts ≤ found.room observation := by
  rcases hrequest with rfl | rfl
  · obtain ⟨_, _, result, -, -, hend⟩ := returns_bind.mp h
    cases hend
    exact escapes_le_of_status observation hpresentable
  · obtain ⟨_, _, result, -, -, hend⟩ := returns_bind.mp h
    cases hend
    exact escapes_le_of_receipt observation result

/-- **A reply is the text of the document** of what was found, in every run. -/
theorem exists_found_of_reply (e : Execution C) {s : ℕ} {reader : Reader}
    {configuration : ServiceConfiguration} {approvals : List SelectableApproval}
    {observation : Text → ExecutionObservation} {request : ReadRequest} {reply : Bytes}
    (haccepted : validateConfiguration C configuration = .ok approvals)
    (h : Returns (readObserved (C := C) reader configuration.authorizationTrust approvals observation
      request) (Interaction.history s e.moments) reply) :
    ∃ found, Returns (find configuration.authorizationTrust approvals observation request)
        (Interaction.history s e.moments) found ∧ FoundPresentable C found ∧
      found.responseClass = request.responseClass ∧
      reply = (found.document observation).print := by
  rw [readObserved_eq] at h
  obtain ⟨first, second, found, hown, hfind, hreply⟩ := returns_bind.mp h
  cases hreply
  rw [List.nil_append] at hown
  rw [← hown] at hfind
  have hpresentable := presentable_of_returns e haccepted hfind
  exact ⟨found, hfind, hpresentable, responseClass_of_returns hfind,
    Found.render_eq reader hpresentable⟩

/-- **When a page fits its frame.**  In every run, a reply is the text of the document of what was
found, and it fits its frame exactly if the escapes of its free texts fit in the room that its plain
bytes leave.  A page leaves room for at least 3380 of them; a status and a receipt always fit. -/
theorem frame_of_reply (e : Execution C) (s : ℕ) (reader : Reader)
    (configuration : ServiceConfiguration) (approvals : List SelectableApproval)
    (haccepted : validateConfiguration C configuration = .ok approvals)
    (observation : Text → ExecutionObservation) (request : ReadRequest) (reply : Bytes)
    (h : Returns (readObserved (C := C) reader configuration.authorizationTrust approvals observation
      request) (Interaction.history s e.moments) reply) :
    ∃ found, Returns (find configuration.authorizationTrust approvals observation request)
        (Interaction.history s e.moments) found ∧
      reply = (found.document observation).print ∧
      (responseLengthAllowed reply.length request.responseClass = true ↔
        escapesOf found.freeTexts ≤ found.room observation) ∧
      (found.responseClass = .ordinary → 3380 ≤ found.room observation) ∧
      (∀ id, request = .status id ∨ request = .receipt id →
        responseLengthAllowed reply.length request.responseClass = true) := by
  obtain ⟨found, hfind, hpresentable, hclass, rfl⟩ := exists_found_of_reply e haccepted h
  have hallowed := Found.allowed_iff observation hpresentable
  rw [← hclass]
  exact ⟨found, hfind, rfl, hallowed, Found.room_of_ordinary observation hpresentable,
    fun id hid => hallowed.mpr (escapes_le_of_own hid hfind hpresentable)⟩

/-! ## A page that does not fit -/

/-- A target whose facts are control bytes: each of them takes six bytes in a reply. -/
def controlTarget : ApprovedTarget := ⟨List.replicate 128 1, List.replicate 128 1⟩

/-- A label of quotation marks. -/
def quotedLabel : Text := List.replicate 128 34

/-- One of eight authorizations. -/
def controlAuthorization (i : ℕ) : ExactAuthorization :=
  { boundAuthorization with
    approvedTarget := some controlTarget
    operationId := utf8 "operation-" ++ [48 + UInt8.ofNat i] }

/-- What the catalog shows of it. -/
def controlAction (i : ℕ) : ApprovedAction :=
  .kubernetes (targetRequest (controlAuthorization i)) controlTarget quotedLabel

/-- The owner signs all of them. -/
theorem exists_control_entries {indices : List ℕ}
    (h : ∀ i ∈ indices, (controlAuthorization i).Valid) :
    ∃ entries : List SelectableApproval, entries.map (·.handle) = indices.map controlAction ∧
      ∀ entry ∈ entries, Provisioned Crypto.bare [sampleProvisioning.key] entry := by
  induction indices with
  | nil => exact ⟨[], rfl, fun _ hmem => absurd hmem List.not_mem_nil⟩
  | cons i rest ih =>
    obtain ⟨entries, hhandles, hentries⟩ := ih fun j hj => h j (List.mem_cons_of_mem _ hj)
    have hkey : identityIsValid sampleProvisioning.signingKeyId = true := by decide
    obtain ⟨bytes, hbytes⟩ : ∃ bytes, provisionExactGrant Crypto.bare { sampleProvisioning with
        authorization := controlAuthorization i } = .ok bytes :=
      (exists_provisionExactGrant Crypto.correct_bare).mpr ⟨h i List.mem_cons_self, hkey⟩
    refine ⟨⟨controlAction i, bytes⟩ :: entries, congrArg (controlAction i :: ·) hhandles, ?_⟩
    intro entry hentry
    rcases List.mem_cons.mp hentry with rfl | hentry
    · exact .kubernetes _ _ bytes quotedLabel List.mem_cons_self rfl hbytes
    · exact hentries entry hentry

theorem valid_controlAuthorization (i : ℕ) (hi : i ∈ List.range 8) :
    (controlAuthorization i).Valid := by
  have hall : ∀ j ∈ List.range 8, (controlAuthorization j).validate = .ok () := by decide +kernel
  exact ExactAuthorization.validate_eq_ok.mp (hall i hi)

/-- **Eight such grants are a catalog**, and its first page shows all of them. -/
theorem exists_control_catalog : ∃ configuration approvals,
    validateConfiguration Crypto.bare configuration = .ok approvals ∧
      listCatalog approvals none = .ok ⟨(List.range 8).map controlAction, none⟩ := by
  obtain ⟨entries, hhandles, hentries⟩ := exists_control_entries valid_controlAuthorization
  have hkeys : Appointable [sampleProvisioning.key] := ⟨by decide, List.nodup_singleton _⟩
  have hlength : entries.length = 8 := by
    have hcount := congrArg List.length hhandles
    rwa [List.length_map, List.length_map, List.length_range] at hcount
  have hids : catalogIds entries = (List.range 8).map fun i => (controlAction i).operationId := by
    have hoperations := congrArg (List.map ApprovedAction.operationId) hhandles
    rwa [List.map_map, List.map_map] at hoperations
  have hunique : (catalogIds entries).Nodup := by
    rw [hids]
    decide +kernel
  have hlabels : ∀ entry ∈ entries, labelIsValid entry.handle.label = true := by
    intro entry hentry
    have hmem : entry.handle ∈ (List.range 8).map controlAction := by
      rw [← hhandles]
      exact List.mem_map_of_mem hentry
    obtain ⟨i, -, hi⟩ := List.mem_map.mp hmem
    rw [← hi]
    have hquoted : labelIsValid quotedLabel = true := by decide +kernel
    exact hquoted
  have haccepted := (validateConfiguration_provisioned Crypto.correct_bare hentries).mpr
    ⟨rfl, hlength.trans_le (by decide), Nat.le_add_left 1 127, hkeys, hlabels, hunique⟩
  obtain ⟨next, hpage, hend, -⟩ := listCatalog_eq hunique (rfl : startBehind entries none = .ok 0)
  obtain rfl := hend (hlength.trans_le (by decide))
  rw [List.drop_zero, List.take_of_length_le hlength.le, hhandles] at hpage
  exact ⟨_, entries, haccepted, hpage⟩

/-- The page is longer than its frame. -/
theorem controlPage_too_long (observation : Text → ExecutionObservation) :
    (Found.catalog (.ok ⟨(List.range 8).map controlAction, none⟩)).room observation <
      escapesOf (Found.catalog (.ok ⟨(List.range 8).map controlAction, none⟩)).freeTexts := by
  have hlong : (Found.catalog (.ok ⟨(List.range 8).map controlAction, none⟩)).room
      (fun _ => .unknown) <
        escapesOf (Found.catalog (.ok ⟨(List.range 8).map controlAction, none⟩)).freeTexts := by
    decide +kernel
  exact hlong

/-- What is found of the catalog is its page. -/
theorem eq_of_find_list {trust : List AuthorizationTrust} {approvals : List SelectableApproval}
    {observation : Text → ExecutionObservation} {after : Option Text}
    {own : List (Exchange (Call C) Answer)} {found : Found}
    (h : Returns (find trust approvals observation (.list after)) own found) :
    found = .catalog (listCatalog approvals after) := by
  cases h
  rfl

/-- **An accepted catalog whose first page is too long.**  Eight grants are enough: the page is
longer than its frame, so the reply is dropped. -/
theorem first_page_too_long : ∃ configuration approvals found,
    validateConfiguration Crypto.bare configuration = .ok approvals ∧
      Returns (find (C := Crypto.bare) configuration.authorizationTrust approvals
        (fun _ => .unknown) (.list none)) [] found ∧
      found.room (fun _ => .unknown) < escapesOf found.freeTexts ∧
      ∀ reply, Returns (readObserved (C := Crypto.bare) compact configuration.authorizationTrust
          approvals (fun _ => .unknown) (.list none)) [] reply →
        responseLengthAllowed reply.length .ordinary = false := by
  obtain ⟨configuration, approvals, haccepted, hpage⟩ := exists_control_catalog
  have hlong := controlPage_too_long fun _ => .unknown
  rw [← hpage] at hlong
  refine ⟨configuration, approvals, _, haccepted, .done _, hlong, fun reply hreply => ?_⟩
  obtain ⟨found, hfound, -, hallowed, -⟩ := frame_of_reply (Execution.empty (C := Crypto.bare)) 0
    compact _ approvals haccepted (fun _ => .unknown) (.list none) reply hreply
  obtain rfl := eq_of_find_list hfound
  rw [Bool.eq_false_iff]
  exact fun hfits => absurd (hallowed.mp hfits) (Nat.not_le_of_lt hlong)

end Daemon
end Kapsel
