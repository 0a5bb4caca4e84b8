import Kapsel.Journal.Decoding

/-!
# Rows stay within the bounds

Each column of a lawful row has its own bound, far below what a read or SQLite would
refuse: `columnBound`.  The bounds of all columns together leave room for every record
header, so a row whose columns are bounded is both readable and storable
(`withinBounds_of_small`, `storable_of_small`), and the row of every valid phase is such a
row (`small_phaseRecord`).  Every text of such a row is valid UTF-8, so a read can convert it
(`isUtf8_of_small`): what the gateway writes is ASCII.
-/

namespace Kapsel

open Grammar Fallible Authority

namespace Gateway
namespace Journal

/-! ## Sizes of values and records -/

theorem decimalDigits_le (n : ℕ) : decimalDigits n ≤ 19 := by
  have hfilter := List.length_filter_le (fun k => decide (10 ^ (k + 1) ≤ n)) (List.range 18)
  rw [List.length_range] at hfilter
  unfold decimalDigits
  omega

theorem length_integer_le (v : Int64) : (Value.integer v).length ≤ 20 := by
  have hdigits := decimalDigits_le v.toInt.natAbs
  show (if v < 0 then 1 else 0) + decimalDigits v.toInt.natAbs ≤ 20
  split <;> omega

theorem varintLength_le (n : ℕ) : varintLength n ≤ 9 := by
  have hfilter := List.length_filter_le (fun k => decide (2 ^ (7 * (k + 1)) ≤ n)) (List.range 8)
  rw [List.length_range] at hfilter
  unfold varintLength
  omega

theorem integerBytes_le (v : Int64) : integerBytes v ≤ 8 := by
  unfold integerBytes
  dsimp only
  generalize (if v < 0 then (-(v.toInt + 1)).natAbs else v.toInt.natAbs) = magnitude
  split_ifs <;> omega

theorem serial_le (v : Value) : v.serial.2 ≤ v.length + 8 := by
  cases v with
  | null => exact Nat.zero_le _
  | text v => exact Nat.le_add_right _ _
  | blob v => exact Nat.le_add_right _ _
  | integer v =>
    have hbytes := integerBytes_le v
    show (if v = 0 then (8, 0) else if v = 1 then (9, 0)
      else (integerBytes v, integerBytes v)).2 ≤ _
    split_ifs
    · exact Nat.zero_le _
    · exact Nat.zero_le _
    · show integerBytes v ≤ _
      omega

theorem headerBytes_le (types : ℕ) : headerBytes types ≤ types + 10 := by
  have htypes := varintLength_le types
  unfold headerBytes
  dsimp only
  split_ifs <;> omega

theorem sum_varintLength_le (values : List Value) :
    (values.map fun v => varintLength v.serial.1).sum ≤ 9 * values.length := by
  induction values with
  | nil => exact Nat.zero_le _
  | cons v values ih =>
    have hv := varintLength_le v.serial.1
    rw [List.map_cons, List.sum_cons, List.length_cons]
    omega

theorem sum_serial_le (values : List Value) :
    (values.map fun v => v.serial.2).sum ≤
      (values.map Value.length).sum + 8 * values.length := by
  induction values with
  | nil => exact Nat.zero_le _
  | cons v values ih =>
    have hv := serial_le v
    rw [List.map_cons, List.sum_cons, List.map_cons, List.sum_cons, List.length_cons]
    omega

/-- A record is not much longer than its values. -/
theorem recordBytes_le (values : List Value) :
    recordBytes values ≤ (values.map Value.length).sum + 17 * values.length + 10 := by
  have hheader := headerBytes_le (values.map fun v => varintLength v.serial.1).sum
  have htypes := sum_varintLength_le values
  have hcontent := sum_serial_le values
  unfold recordBytes
  omega

/-! ## Bounded columns -/

/-- The longest value that the gateway writes into a column. -/
def columnBound : Column → ℕ
  | .namespace => 63
  | .deployment => 253
  | .container => 63
  | .immutableImageDigest => 512
  | .receiverImage => 512
  | .signedAuthorizationGrant => 4096
  | .receiptBytes => 16384
  | _ => 128

/-- A value that a read accepts and converts, in a column of this bound. -/
structure Value.Within (bound : ℕ) (v : Value) : Prop where
  length_le : v.length ≤ bound
  isUtf8 : v.isUtf8 = true

/-- Every column is within its bound. -/
def Record.Small {t : Table} (r : Record t) : Prop := ∀ c, (r.value c).Within (columnBound c)

section
variable {t : Table} {r : Record t}

theorem Record.Small.sum_le (h : r.Small) :
    (t.columns.map fun c => (r.value c).length).sum ≤ (t.columns.map columnBound).sum := by
  generalize t.columns = columns
  induction columns with
  | nil => exact Nat.zero_le _
  | cons c columns ih =>
    have hc := (h c).length_le
    rw [List.map_cons, List.sum_cons, List.map_cons, List.sum_cons]
    omega

theorem sum_columnBound_le (t : Table) :
    (t.columns.map columnBound).sum + 17 * t.columns.length + 10 ≤ persistedRowBytesMax := by
  cases t <;> decide

theorem columnBound_le_fieldLimit (c : Column) : columnBound c ≤ fieldLimit c := by
  cases c <;> decide

/-- **A row of bounded columns is readable.** -/
theorem withinBounds_of_small (h : r.Small) : r.withinBounds = true := by
  have hsum := h.sum_le
  have hbound := sum_columnBound_le t
  rw [Record.withinBounds, Bool.and_eq_true, List.all_eq_true, decide_eq_true_eq]
  refine ⟨fun c _ => decide_eq_true ((h c).length_le.trans (columnBound_le_fieldLimit c)), ?_⟩
  omega

theorem isUtf8_of_small (h : r.Small) : r.isUtf8 = true := by
  rw [Record.isUtf8, List.all_eq_true]
  exact fun c _ => (h c).isUtf8

/-- **A complete row of bounded columns is storable.** -/
theorem storable_of_small (h : r.Small) (hnull : ∀ c ∈ t.notNull, r.value c ≠ .null) :
    r.storable = true := by
  have hsum := h.sum_le
  have hbound := sum_columnBound_le t
  have hrecord := recordBytes_le r.values
  rw [Record.values, List.map_map, List.length_map] at hrecord
  have hmap : (t.columns.map (Value.length ∘ r.value)).sum =
      (t.columns.map fun c => (r.value c).length).sum := rfl
  rw [Record.storable, admits, Bool.and_eq_true, Bool.and_eq_true, List.all_eq_true,
    List.all_eq_true, decide_eq_true_eq]
  refine ⟨fun c _ => r.fits c, fun c hc => decide_eq_true (hnull c hc), ?_⟩
  omega

end

/-! ## The row of a phase -/

theorem within_text {bound : ℕ} {v : Text} (h : Fits bound v) : (Value.text v).Within bound :=
  ⟨h.length_le, utf8IsValid_of_isAscii h.ascii⟩

theorem within_integer {v : Int64} {bound : ℕ} (h : 20 ≤ bound) :
    (Value.integer v).Within bound :=
  ⟨(length_integer_le v).trans h, rfl⟩

theorem within_null (bound : ℕ) : Value.null.Within bound := ⟨Nat.zero_le _, rfl⟩

theorem within_blob {bound : ℕ} {v : Bytes} (h : v.length ≤ bound) :
    (Value.blob v).Within bound := ⟨h, rfl⟩

theorem within_optionalText {v : Option Text} {bound : ℕ} (h : ∀ x ∈ v, Fits bound x) :
    (Value.optionalText v).Within bound := by
  cases v with
  | none => exact within_null bound
  | some x => exact within_text (h x rfl)

theorem within_optionalInteger {v : Option Int64} {bound : ℕ} (h : 20 ≤ bound) :
    (Value.optionalInteger v).Within bound := by
  cases v with
  | none => exact within_null bound
  | some x => exact within_integer h

theorem within_optionalBlob {v : Option Bytes} {bound : ℕ} (h : ∀ x ∈ v, x.length ≤ bound) :
    (Value.optionalBlob v).Within bound := by
  cases v with
  | none => exact within_null bound
  | some x => exact within_blob (h x rfl)

theorem fits_of_fact {v : Option Text} (h : v.all factIsValid = true) : ∀ x ∈ v, Fits 128 x := by
  rintro x hx
  rw [Option.mem_def] at hx
  rw [hx] at h
  exact fits_of_factIsValid h

variable {C : Crypto} {a : AuthorizedRequest C}

/-- The facts that a valid phase records are bounded. -/
theorem Phase.Valid.observation {p : Phase} (h : p.Valid a) :
    ∀ o ∈ p.observation, o.Valid := by
  intro o ho
  cases p with
  | observed target response observation =>
    obtain rfl := Option.some.inj ho
    exact h.2
  | finalized target response observation receipt =>
    obtain rfl := Option.some.inj ho
    exact h.2.1
  | _ => cases ho

theorem Phase.Valid.receipt {p : Phase} (h : p.Valid a) :
    ∀ receipt ∈ p.receipt, ∃ statement, ReceiptValid a statement receipt := by
  intro receipt hreceipt
  cases p with
  | finalized target response observation receipt' =>
    obtain rfl := Option.some.inj hreceipt
    exact ⟨_, h.2.2⟩
  | _ => cases hreceipt

theorem Phase.Valid.response {p : Phase} (h : p.Valid a) :
    ∀ r ∈ p.response, Fits 128 r.resourceVersion := by
  have hattempt : ∀ target response, AttemptValid a target response →
      ∀ r ∈ response, Fits 128 r.resourceVersion := by
    intro target response hvalid r hr
    exact fits_of_factIsValid (ApplyOutcome.validate_eq_ok.mp (hvalid.response r hr)).2.1
  cases p with
  | attempted target response => exact hattempt target response h
  | observed target response observation => exact hattempt target response h.1
  | finalized target response observation receipt => exact hattempt target response h.1
  | _ => exact fun r hr => nomatch hr

theorem fits_target (v : ValidatedTargetIdentity) :
    Fits 128 v.deploymentUid ∧ Fits 128 v.resourceVersion := by
  obtain ⟨h1, h2⟩ := TargetIdentity.validate_eq_ok.mp v.valid
  exact ⟨fits_of_factIsValid h1, fits_of_factIsValid h2⟩

/-- A text column that copies a bounded fact of something optional. -/
theorem within_optionalText_map {α : Type} {x : Option α} {f : α → Text} {bound : ℕ}
    (h : ∀ v ∈ x, Fits bound (f v)) : (Value.optionalText (x.map f)).Within bound := by
  refine within_optionalText fun v hv => ?_
  obtain ⟨w, hw, rfl⟩ := Option.map_eq_some_iff.mp hv
  exact h w hw

theorem within_optionalText_fact {p : Phase} (h : p.Valid a)
    {f : ReceiverObservation → Option Text} (hf : ∀ o, f o ∈ o.facts) :
    (Value.optionalText (p.observation.bind f)).Within 128 := by
  refine within_optionalText fun v hv => ?_
  obtain ⟨o, ho, hfo⟩ := Option.bind_eq_some_iff.mp hv
  exact fits_of_fact ((h.observation o ho).facts _ (hf o)) v hfo

theorem fits_operationState (state : OperationState) : Fits 128 state.asSql := by
  cases state <;> exact ⟨by decide, by decide, by decide⟩

theorem fits_targetRejection (rejection : TargetRejection) : Fits 128 rejection.asSql := by
  cases rejection <;> exact ⟨by decide, by decide, by decide⟩

theorem fits_operationResult (result : OperationResult) : Fits 128 result.asSql := by
  cases result <;> exact ⟨by decide, by decide, by decide⟩

theorem fits_digestHex (data : Bytes) : Fits 128 (digestHex C data) :=
  (fits_of_isLowercaseSha256 (isLowercaseSha256_digestHex C data)).mono (by decide)

/-- **The row of a valid phase is small.** -/
theorem small_phaseRecord {p : Phase} (h : p.Valid a) : (phaseRecord a p).Small := by
  obtain ⟨trust, hgrant⟩ := a.authorization.verified
  have hrequest := a.request.valid
  intro c
  show (phaseValue a p c).Within (columnBound c)
  cases c with
  | operationId => exact within_text (fits_of_identityIsValid hrequest.operationId)
  | «namespace» => exact within_text (fits_of_dnsLabelIsValid hrequest.namespace)
  | deployment => exact within_text (fits_of_dnsSubdomainIsValid hrequest.deployment)
  | container => exact within_text (fits_of_dnsLabelIsValid hrequest.container)
  | immutableImageDigest =>
    exact within_text (fits_of_immutableImageIsValid hrequest.immutableImageDigest)
  | authorizationId => exact within_text (fits_of_identityIsValid hgrant.valid.authorizationId)
  | authorizationSignerKeyId => exact within_text (fits_of_identityIsValid hgrant.signerKeyId)
  | authorizationGrantDigest =>
    have hdigest := fits_of_isLowercaseSha256 (isLowercaseSha256_grantDigest a)
    exact within_text (hdigest.mono (by decide))
  | signedAuthorizationGrant => exact within_blob hgrant.length_le
  | state => exact within_text (fits_operationState p.state)
  | writeStrategy => exact within_optionalText_map fun _ _ => ⟨by decide, by decide, by decide⟩
  | targetRejection => exact within_optionalText_map fun r _ => fits_targetRejection r
  | targetReadFailures => exact within_integer (by decide)
  | applyAttempted => exact within_integer (by decide)
  | targetUid => exact within_optionalText_map fun v _ => (fits_target v).1
  | targetResourceVersion => exact within_optionalText_map fun v _ => (fits_target v).2
  | preflightUid => exact within_optionalText_map fun v _ => (fits_target v).1
  | preflightResourceVersion => exact within_optionalText_map fun v _ => (fits_target v).2
  | applyResourceVersion => exact within_optionalText_map h.response
  | receiverUid => exact within_optionalText_fact h fun o => (by simp [ReceiverObservation.facts])
  | receiverOperationMarker =>
    exact within_optionalText_fact h fun o => (by simp [ReceiverObservation.facts])
  | receiverResourceVersion =>
    exact within_optionalText_fact h fun o => (by simp [ReceiverObservation.facts])
  | rolloutConditionType =>
    exact within_optionalText_fact h fun o => (by simp [ReceiverObservation.facts])
  | rolloutConditionStatus =>
    exact within_optionalText_fact h fun o => (by simp [ReceiverObservation.facts])
  | rolloutConditionReason =>
    exact within_optionalText_fact h fun o => (by simp [ReceiverObservation.facts])
  | receiverImage =>
    refine within_optionalText fun v hv => ?_
    obtain ⟨o, ho, hv⟩ := Option.bind_eq_some_iff.mp hv
    have himage := (h.observation o ho).image
    rw [hv] at himage
    exact fits_of_immutableImageIsValid himage
  | result => exact within_optionalText_map fun r _ => fits_operationResult r
  | receiptDigest =>
    refine within_optionalText_map fun receipt hreceipt => ?_
    obtain ⟨statement, hvalid⟩ := h.receipt receipt hreceipt
    rw [← hvalid.digest]
    exact fits_digestHex _
  | receiptKeyId =>
    refine within_optionalText_map fun receipt hreceipt => ?_
    obtain ⟨statement, hvalid⟩ := h.receipt receipt hreceipt
    exact fits_of_identityIsValid (bounds_of_decodeFrozenReceipt hvalid.embedded).2
  | receiptBytes =>
    refine within_optionalBlob fun bytes hbytes => ?_
    obtain ⟨receipt, hreceipt, rfl⟩ := Option.map_eq_some_iff.mp hbytes
    obtain ⟨statement, hvalid⟩ := h.receipt receipt hreceipt
    exact (bounds_of_decodeFrozenReceipt hvalid.embedded).1
  | approvedUid =>
    refine within_optionalText_map fun approved happroved => ?_
    have hvalid := isValid_of_approvedTarget a approved happroved
    rw [ApprovedTarget.isValid, List.all_eq_true] at hvalid
    exact fits_of_factIsValid (hvalid _ (List.mem_cons_self ..))
  | approvedResourceVersion =>
    refine within_optionalText_map fun approved happroved => ?_
    have hvalid := isValid_of_approvedTarget a approved happroved
    rw [ApprovedTarget.isValid, List.all_eq_true] at hvalid
    exact fits_of_factIsValid (hvalid _ (by simp))
  | applyAccepted => exact within_optionalInteger (by decide)
  | requestedGeneration => exact within_optionalInteger (by decide)
  | currentGeneration => exact within_optionalInteger (by decide)
  | observedGeneration => exact within_optionalInteger (by decide)
  | desiredReplicas => exact within_optionalInteger (by decide)
  | updatedReplicas => exact within_optionalInteger (by decide)
  | availableReplicas => exact within_optionalInteger (by decide)
  | unavailableReplicas => exact within_optionalInteger (by decide)
  | _ => exact within_null _

theorem storable_phaseRecord {p : Phase} (h : p.Valid a) : (phaseRecord a p).storable = true := by
  refine storable_of_small (small_phaseRecord h) fun c hc => ?_
  simp only [Table.notNull, List.mem_cons, List.not_mem_nil, or_false] at hc
  rcases hc with rfl | rfl | rfl | rfl | rfl | rfl | rfl | rfl <;> exact fun hnull => nomatch hnull

end Journal
end Gateway
end Kapsel
