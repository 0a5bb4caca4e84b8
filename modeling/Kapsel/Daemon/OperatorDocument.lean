import Kapsel.Application.Provisioning
import Kapsel.Daemon.Receipts
import Kapsel.Gateway.Replacement

/-!
# The operator document

`src/application/service/document.rs`: the one file that configures the service.  It is a JSON
object with named fields, each once and no other one, and so are its keys and its approvals.  The
arrays are bounded, and an element behind the bound is refused before it is looked at.

* `bounds_of_parse`: what is parsed has appointments that are well formed and approvals within the
  bounds that opening the service asks for.
* `validateConfiguration_of_parse`: so only the distinctness of the keys and the grants are left to
  be decided when the service is opened.
-/

namespace Kapsel

open Grammar Authority Fallible

namespace Daemon
namespace OperatorDocument

open Json Application

/-! ## Fields -/

/-- The fields of an object with these names, each once, and no other one. -/
def fields (expected : List Text) : Document → Option (List Document)
  | .object members =>
      if (names members).Nodup ∧ ∀ name ∈ names members, name ∈ expected then
        expected.mapM fun name => members.lookup name
      else none
  | _ => none

/-- `BoundedVec`. -/
def boundedVec {α : Type} (maximum : ℕ) (decode : Document → Option α) :
    Document → Option (List α)
  | .array items => if items.length ≤ maximum then items.mapM decode else none
  | _ => none

/-- `AuthorizationKeyFields`. -/
structure AuthorizationKeyFields where
  keyId : Text
  publicKeyHex : Text

/-- `MapOnly<AuthorizationKeyFields>`. -/
def AuthorizationKeyFields.ofDocument (value : Document) : Option AuthorizationKeyFields :=
  match fields [utf8 "key_id", utf8 "public_key_hex"] value with
  | some [keyId, publicKeyHex] => do
      return ⟨← decodeString keyId, ← decodeString publicKeyHex⟩
  | _ => none

/-- `ApprovalFields`. -/
structure ApprovalFields where
  label : Text
  signedGrantHex : Text

/-- `MapOnly<ApprovalFields>`. -/
def ApprovalFields.ofDocument (value : Document) : Option ApprovalFields :=
  match fields [utf8 "label", utf8 "signed_grant_hex"] value with
  | some [label, signedGrantHex] => do
      return ⟨← decodeString label, ← decodeString signedGrantHex⟩
  | _ => none

/-- `ServiceDocumentFields`. -/
structure ServiceDocumentFields where
  serviceConfigurationVersion : UInt8
  authorizationKeys : List AuthorizationKeyFields
  approvals : List ApprovalFields
  receiptSigningKeyId : Text

/-- `MapOnly<ServiceDocumentFields>`. -/
def ServiceDocumentFields.ofDocument (value : Document) : Option ServiceDocumentFields :=
  match fields [utf8 "service_configuration_version", utf8 "authorization_keys",
      utf8 "approvals", utf8 "receipt_signing_key_id"] value with
  | some [version, authorizationKeys, approvals, receiptSigningKeyId] => do
      return ⟨← decodeU8 version,
        ← boundedVec 128 AuthorizationKeyFields.ofDocument authorizationKeys,
        ← boundedVec 32 ApprovalFields.ofDocument approvals,
        ← decodeString receiptSigningKeyId⟩
  | _ => none

/-! ## Parsing -/

/-- `decode_authorization_key`. -/
def decodeAuthorizationKey (C : Crypto) (key : AuthorizationKeyFields) :
    Except ServiceError AuthorizationTrust := do
  let publicKey ← arrayOr 32 .configuration (← decodeHex key.publicKeyHex 32)
  let trust := AuthorizationTrust.mk key.keyId publicKey
  (trust.validate C).mapError fun _ => .configuration
  return trust

/-- `decode_approval`. -/
def decodeApproval (approval : ApprovalFields) : Except ServiceError ServiceApproval := do
  require (approval.label.length ≤ 128) .configuration
  require (approval.label.all fun b => 32 ≤ b && b ≤ 126) .configuration
  return ⟨← decodeHex approval.signedGrantHex 4096, approval.label⟩

/-- The document, or the one error that there is. -/
def orConfiguration {α : Type} : Option α → Except ServiceError α
  | some value => .ok value
  | none => .error .configuration

end OperatorDocument

/-- `ServiceOperatorDocument`. -/
structure ServiceOperatorDocument where
  configuration : Application.ServiceConfiguration
  receiptSigningKeyId : Text

open Json Application OperatorDocument Receipt in
/-- `parse_service_operator_document`. -/
def parseServiceOperatorDocument (C : Crypto) (reader : Reader) (bytes : Bytes) :
    Except ServiceError ServiceOperatorDocument := do
  require (!bytes.isEmpty && bytes.length ≤ 160 * 1024) .configuration
  let value ← orConfiguration (reader.parse bytes)
  let document ← orConfiguration (ServiceDocumentFields.ofDocument value)
  require (document.serviceConfigurationVersion = 1) .configuration
  (validateKeyId document.receiptSigningKeyId).mapError fun _ => .configuration
  let authorizationTrust ← document.authorizationKeys.mapM (decodeAuthorizationKey C)
  let approvals ← document.approvals.mapM decodeApproval
  return ⟨⟨authorizationTrust, approvals⟩, document.receiptSigningKeyId⟩

/-! ## What is parsed -/

namespace OperatorDocument

open Json Application

theorem length_of_mapM {α β : Type} {f : α → Option β} {items : List α} {values : List β}
    (h : items.mapM f = some values) : values.length = items.length := by
  induction items generalizing values with
  | nil =>
    obtain rfl := Option.some.inj h
    rfl
  | cons item items ih =>
    rw [List.mapM_cons] at h
    obtain ⟨value, -, h⟩ := Option.bind_eq_some_iff.mp h
    obtain ⟨rest, hrest, h⟩ := Option.bind_eq_some_iff.mp h
    obtain rfl := Option.some.inj h
    exact congrArg (· + 1) (ih hrest)

theorem length_of_boundedVec {α : Type} {maximum : ℕ} {decode : Document → Option α}
    {value : Document} {values : List α} (h : boundedVec maximum decode value = some values) :
    values.length ≤ maximum := by
  cases value with
  | array items =>
    rw [boundedVec] at h
    by_cases hlength : items.length ≤ maximum
    · rw [if_pos hlength] at h
      rw [length_of_mapM h]
      exact hlength
    · rw [if_neg hlength] at h
      cases h
  | _ => cases h

theorem lengths_of_ofDocument {value : Document} {document : ServiceDocumentFields}
    (h : ServiceDocumentFields.ofDocument value = some document) :
    document.authorizationKeys.length ≤ 128 ∧ document.approvals.length ≤ 32 := by
  unfold ServiceDocumentFields.ofDocument at h
  split at h
  · obtain ⟨_, -, h⟩ := Option.bind_eq_some_iff.mp h
    obtain ⟨keys, hkeys, h⟩ := Option.bind_eq_some_iff.mp h
    obtain ⟨approvals, happrovals, h⟩ := Option.bind_eq_some_iff.mp h
    obtain ⟨_, -, h⟩ := Option.bind_eq_some_iff.mp h
    obtain rfl := Option.some.inj h
    exact ⟨length_of_boundedVec hkeys, length_of_boundedVec happrovals⟩
  · cases h

theorem validate_of_decodeAuthorizationKey {C : Crypto} {key : AuthorizationKeyFields}
    {trust : AuthorizationTrust} (h : decodeAuthorizationKey C key = .ok trust) :
    trust.validate C = .ok () := by
  obtain ⟨hex, -, h⟩ := bind_eq_ok.mp h
  obtain ⟨publicKey, -, h⟩ := bind_eq_ok.mp h
  obtain ⟨_, hvalid, h⟩ := bind_eq_ok.mp h
  obtain rfl := Except.ok.inj h
  exact mapError_eq_ok.mp hvalid

theorem withinBounds_of_decodeApproval {fields : ApprovalFields} {approval : ServiceApproval}
    (h : decodeApproval fields = .ok approval) : approval.withinBounds = true := by
  obtain ⟨_, hlength, h⟩ := bind_eq_ok.mp h
  obtain ⟨_, hprintable, h⟩ := bind_eq_ok.mp h
  obtain ⟨signedGrant, hgrant, h⟩ := bind_eq_ok.mp h
  obtain rfl := Except.ok.inj h
  obtain ⟨-, -, hbound⟩ := decodeHex_eq_ok.mp hgrant
  unfold ServiceApproval.withinBounds
  rw [require_eq_ok.mp hlength, require_eq_ok.mp hprintable, decide_eq_true hbound]
  rfl

/-- What a list is decoded to has its length, and every element comes from one of it. -/
theorem decoded_of_mapM {α β ε : Type} {f : α → Except ε β} {l : List α} {l' : List β}
    (h : l.mapM f = .ok l') : l'.length = l.length ∧ ∀ b ∈ l', ∃ a, f a = .ok b := by
  have hall := Gateway.mapM_list_eq_ok.mp h
  refine ⟨hall.length_eq.symm, fun b hb => ?_⟩
  obtain ⟨i, hi, rfl⟩ := List.getElem_of_mem hb
  exact ⟨_, hall.get (hall.length_eq ▸ hi) hi⟩

end OperatorDocument

open Json Application OperatorDocument Receipt in
/-- **What is parsed is within the bounds** that opening asks for: there are no more appointments
and approvals than it admits, every appointment is well formed and every approval is bounded. -/
theorem bounds_of_parse {C : Crypto} {reader : Reader} {bytes : Bytes}
    {document : ServiceOperatorDocument}
    (h : parseServiceOperatorDocument C reader bytes = .ok document) :
    document.configuration.authorizationTrust.length ≤ 128 ∧
      document.configuration.approvals.length ≤ 32 ∧
      (∀ trust ∈ document.configuration.authorizationTrust, trust.validate C = .ok ()) ∧
      ∀ approval ∈ document.configuration.approvals, approval.withinBounds = true := by
  obtain ⟨_, -, h⟩ := bind_eq_ok.mp h
  obtain ⟨value, -, h⟩ := bind_eq_ok.mp h
  obtain ⟨fields, hfields, h⟩ := bind_eq_ok.mp h
  obtain ⟨_, -, h⟩ := bind_eq_ok.mp h
  obtain ⟨_, -, h⟩ := bind_eq_ok.mp h
  obtain ⟨authorizationTrust, htrust, h⟩ := bind_eq_ok.mp h
  obtain ⟨approvals, happrovals, h⟩ := bind_eq_ok.mp h
  obtain rfl := Except.ok.inj h
  have hdocument : ServiceDocumentFields.ofDocument value = some fields := by
    unfold orConfiguration at hfields
    split at hfields
    · rename_i hsome
      rw [hsome, Except.ok.inj hfields]
    · cases hfields
  obtain ⟨hkeys, hcatalog⟩ := lengths_of_ofDocument hdocument
  obtain ⟨htrustLength, htrustAll⟩ := decoded_of_mapM htrust
  obtain ⟨happrovalsLength, happrovalsAll⟩ := decoded_of_mapM happrovals
  refine ⟨htrustLength ▸ hkeys, happrovalsLength ▸ hcatalog, fun trust htrust => ?_,
    fun approval happroval => ?_⟩
  · obtain ⟨key, hkey⟩ := htrustAll trust htrust
    exact validate_of_decodeAuthorizationKey hkey
  · obtain ⟨fields, happroval⟩ := happrovalsAll approval happroval
    exact withinBounds_of_decodeApproval happroval

open Json Application Receipt in
/-- **What opening still decides about a document that is parsed**: whether two appointments have the
same key identity, and the grants, one after the other. -/
theorem validateConfiguration_of_parse {C : Crypto} {reader : Reader} {bytes : Bytes}
    {document : ServiceOperatorDocument}
    (h : parseServiceOperatorDocument C reader bytes = .ok document) :
    validateConfiguration C document.configuration =
      require (decide (document.configuration.authorizationTrust.map (·.keyId)).Nodup)
          .configuration >>= fun _ =>
        selectApprovals C document.configuration.authorizationTrust []
          document.configuration.approvals := by
  obtain ⟨htrust, happrovals, hvalid, hbounds⟩ := bounds_of_parse h
  rw [validateConfiguration_of_bounds happrovals htrust hbounds,
    validateAppointments_of_valid hvalid]

end Daemon
end Kapsel
