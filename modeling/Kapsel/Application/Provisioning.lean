import Kapsel.Application.Appointments
import Kapsel.Application.Catalog
import Kapsel.Authority.Codec

/-!
# Provisioning

`src/application/mod.rs`: an operator signs exact authorizations, and a catalog is put together of
what was signed.  A snapshot is signed only after the Deployment has been identified through a
kubeconfig that names its credentials itself, and a Git transition only after the receiver has
prepared it.

* `returns_provisionSnapshotGrant`: when a snapshot is signed.
* `exists_configureExplicitKubeconfig`: which kubeconfigs are accepted, and
  `configureExplicitKubeconfig_eq_some`: what is known of the one that is used.
* `validateConfiguration_provisioned`: exactly which lists of provisioned grants are a catalog.
* `provisioned_catalog`: **all of it.**
-/

namespace Kapsel

open Grammar Fallible Authority Interaction Interaction.Program

namespace Application

open Gateway Gateway.Journal

variable {C : Crypto}

/-! ## Kubeconfigs -/

/-- The user of a kubeconfig, as far as it is looked at: whether a credential is there. -/
structure AuthInfo where
  tokenFile : Option Text
  clientCertificate : Option Text
  clientKey : Option Text
  hasAuthProvider : Bool
  hasExec : Bool
  deriving DecidableEq

/-- The cluster of a kubeconfig, as far as it is looked at. -/
structure Cluster where
  certificateAuthority : Option Text
  proxyUrl : Option Text
  deriving DecidableEq

/-- The context of a kubeconfig. -/
structure Context where
  cluster : Text
  user : Option Text
  deriving DecidableEq

/-- `Kubeconfig`: named entries, each of which may be empty. -/
structure Kubeconfig where
  currentContext : Option Text
  contexts : List (Text × Option Context)
  clusters : List (Text × Option Cluster)
  authInfos : List (Text × Option AuthInfo)
  deriving DecidableEq

/-- The first entry of this name, if it is not empty. -/
def named? {α : Type} (entries : List (Text × Option α)) (name : Text) : Option α :=
  (entries.find? fun entry => entry.1 = name).bind (·.2)

/-- The credentials of a user are outside of the kubeconfig. -/
def AuthInfo.usesExternalCredentials (user : AuthInfo) : Bool :=
  user.tokenFile.isSome || user.clientCertificate.isSome || user.clientKey.isSome ||
    user.hasAuthProvider || user.hasExec

/-- The cluster has no proxy of its own. -/
def Cluster.lacksProxy (cluster : Cluster) : Bool := cluster.proxyUrl.all (·.isEmpty)

/-- The placeholder that keeps the `kube` crate from asking the environment for a proxy. -/
def proxyPlaceholder : Text := utf8 "http://127.0.0.1"

/-- The first entry of this name, changed. -/
def updateFirst {α : Type} (f : α → α) (name : Text) :
    List (Text × Option α) → List (Text × Option α)
  | [] => []
  | (other, a) :: rest =>
      if other = name then (other, a.map f) :: rest else (other, a) :: updateFirst f name rest

/-- The user is there, and no credential of it is outside.  A context may name no user. -/
def credentialsAreInside (kubeconfig : Kubeconfig) : Option Text → Bool
  | none => true
  | some userName =>
      (named? kubeconfig.authInfos userName).any fun user => !user.usesExternalCredentials

/-- `configure_explicit_kubeconfig`: the kubeconfig to use, and whether the placeholder is in it. -/
def configureExplicitKubeconfig (kubeconfig : Kubeconfig) : Option (Kubeconfig × Bool) := do
  let currentContextName ← kubeconfig.currentContext
  let context ← named? kubeconfig.contexts currentContextName
  let cluster ← named? kubeconfig.clusters context.cluster
  if cluster.certificateAuthority.isSome || !credentialsAreInside kubeconfig context.user then none
  else if cluster.lacksProxy then
    return ({ kubeconfig with
      clusters := updateFirst (fun cluster => { cluster with proxyUrl := some proxyPlaceholder })
        context.cluster kubeconfig.clusters }, true)
  else return (kubeconfig, false)

/-- Only the proxy of one cluster is changed by the placeholder. -/
theorem map_updateFirst {α β : Type} {f : α → α} {g : α → β} (h : ∀ a, g (f a) = g a) (name : Text)
    (entries : List (Text × Option α)) :
    (updateFirst f name entries).map (fun entry => (entry.1, entry.2.map g)) =
      entries.map fun entry => (entry.1, entry.2.map g) := by
  induction entries with
  | nil => rfl
  | cons entry rest ih =>
    obtain ⟨other, a⟩ := entry
    unfold updateFirst
    split
    · have hsame : (a.map f).map g = a.map g := by
        rw [Option.map_map]
        exact congrArg (fun k => a.map k) (funext h)
      rw [List.map_cons, List.map_cons, hsame]
    · rw [List.map_cons, List.map_cons, ih]

theorem named?_cons {α : Type} (other : Text) (a : Option α) (entries : List (Text × Option α))
    (name : Text) :
    named? ((other, a) :: entries) name = if other = name then a else named? entries name := by
  unfold named?
  by_cases hname : other = name
  · rw [List.find?_cons_of_pos, if_pos hname]
    · rfl
    · exact decide_eq_true hname
  · rw [List.find?_cons_of_neg, if_neg hname]
    exact fun h => hname (of_decide_eq_true h)

theorem named?_updateFirst {α : Type} (f : α → α) (name : Text) (entries : List (Text × Option α)) :
    named? (updateFirst f name entries) name = (named? entries name).map f := by
  induction entries with
  | nil => rfl
  | cons entry rest ih =>
    obtain ⟨other, a⟩ := entry
    unfold updateFirst
    by_cases hname : other = name
    · rw [if_pos hname, named?_cons, named?_cons, if_pos hname, if_pos hname]
    · rw [if_neg hname, named?_cons, named?_cons, if_neg hname, if_neg hname, ih]

/-- The current context of a kubeconfig selects a cluster without an authority outside and, if it
names a user, a user without a credential outside. -/
def Kubeconfig.SelfContained (kubeconfig : Kubeconfig) : Prop :=
  ∃ name context cluster, kubeconfig.currentContext = some name ∧
    named? kubeconfig.contexts name = some context ∧
    named? kubeconfig.clusters context.cluster = some cluster ∧
    cluster.certificateAuthority = none ∧
    ∀ user ∈ context.user, ∃ info, named? kubeconfig.authInfos user = some info ∧
      info.usesExternalCredentials = false

theorem credentialsAreInside_iff {kubeconfig : Kubeconfig} {user : Option Text} :
    credentialsAreInside kubeconfig user = true ↔ ∀ name ∈ user, ∃ info,
      named? kubeconfig.authInfos name = some info ∧ info.usesExternalCredentials = false := by
  cases user with
  | none => simp [credentialsAreInside]
  | some user => simp [credentialsAreInside, Option.any_eq_true]

/-- **Which kubeconfigs are accepted.** -/
theorem exists_configureExplicitKubeconfig {kubeconfig : Kubeconfig} :
    (∃ after placeholder, configureExplicitKubeconfig kubeconfig = some (after, placeholder)) ↔
      kubeconfig.SelfContained := by
  constructor
  · rintro ⟨after, placeholder, h⟩
    obtain ⟨name, hname, h⟩ := Option.bind_eq_some_iff.mp h
    obtain ⟨context, hcontext, h⟩ := Option.bind_eq_some_iff.mp h
    obtain ⟨cluster, hcluster, h⟩ := Option.bind_eq_some_iff.mp h
    split at h
    · cases h
    · rename_i hrefused
      rw [Bool.or_eq_true, not_or, Option.not_isSome_iff_eq_none, Bool.not_eq_true',
        Bool.not_eq_false] at hrefused
      exact ⟨name, context, cluster, hname, hcontext, hcluster, hrefused.1,
        credentialsAreInside_iff.mp hrefused.2⟩
  · rintro ⟨name, context, cluster, hname, hcontext, hcluster, hauthority, huser⟩
    have hinside := credentialsAreInside_iff.mpr huser
    cases hproxy : cluster.lacksProxy with
    | true => simp [configureExplicitKubeconfig, hname, hcontext, hcluster, hauthority, hinside, hproxy]
    | false => simp [configureExplicitKubeconfig, hname, hcontext, hcluster, hauthority, hinside, hproxy]

/-- What is known of a kubeconfig that is accepted: the selected cluster and user are there, no
credential is outside, the cluster has a proxy that is not empty, and the placeholder changes
nothing else. -/
structure Explicit (before after : Kubeconfig) (placeholder : Bool) : Prop where
  selected : ∃ name context cluster, after.currentContext = some name ∧
    named? after.contexts name = some context ∧ named? after.clusters context.cluster = some cluster ∧
    cluster.certificateAuthority = none ∧ cluster.lacksProxy = false ∧
    (placeholder = true → cluster.proxyUrl = some proxyPlaceholder) ∧
    ∀ user ∈ context.user, ∃ info, named? after.authInfos user = some info ∧
      info.usesExternalCredentials = false
  currentContext : after.currentContext = before.currentContext
  contexts : after.contexts = before.contexts
  authInfos : after.authInfos = before.authInfos
  authorities : after.clusters.map (fun entry => (entry.1, entry.2.map (·.certificateAuthority))) =
    before.clusters.map fun entry => (entry.1, entry.2.map (·.certificateAuthority))
  unchanged : placeholder = false → after = before

/-- **An accepted kubeconfig is explicit.** -/
theorem configureExplicitKubeconfig_eq_some {kubeconfig after : Kubeconfig} {placeholder : Bool}
    (h : configureExplicitKubeconfig kubeconfig = some (after, placeholder)) :
    Explicit kubeconfig after placeholder := by
  obtain ⟨name, hname, h⟩ := Option.bind_eq_some_iff.mp h
  obtain ⟨context, hcontext, h⟩ := Option.bind_eq_some_iff.mp h
  obtain ⟨cluster, hcluster, h⟩ := Option.bind_eq_some_iff.mp h
  split at h
  · cases h
  rename_i hrefused
  rw [Bool.or_eq_true, not_or, Option.not_isSome_iff_eq_none, Bool.not_eq_true',
    Bool.not_eq_false] at hrefused
  obtain ⟨hauthority, hinside⟩ := hrefused
  have huser := credentialsAreInside_iff.mp hinside
  split at h
  · obtain ⟨rfl, rfl⟩ := Prod.mk.inj (Option.some.inj h)
    refine ⟨⟨name, context, { cluster with proxyUrl := some proxyPlaceholder }, hname, hcontext, ?_,
      hauthority, rfl, fun _ => rfl, huser⟩, rfl, rfl, rfl, ?_, ?_⟩
    · rw [named?_updateFirst, hcluster]
      rfl
    · exact map_updateFirst (f := fun cluster => { cluster with proxyUrl := some proxyPlaceholder })
        (g := (·.certificateAuthority)) (fun _ => rfl) context.cluster kubeconfig.clusters
    · rintro ⟨⟩
  · rename_i hproxy
    obtain ⟨rfl, rfl⟩ := Prod.mk.inj (Option.some.inj h)
    refine ⟨⟨name, context, cluster, hname, hcontext, hcluster, hauthority,
      Bool.eq_false_iff.mpr hproxy, ?_, huser⟩, rfl, rfl, rfl, rfl, fun _ => rfl⟩
    rintro ⟨⟩

/-! ## Signing -/

/-- `ApplicationError`, as far as provisioning returns it. -/
inductive ApplicationError where
  | invalidOperatorConfiguration
  | invalidGrantProvisioning
  deriving DecidableEq, Repr

/-- `GrantProvisioning`. -/
structure GrantProvisioning where
  authorization : ExactAuthorization
  signingSeed : Octets 32
  signingKeyId : Text

/-- `provision_exact_grant`. -/
def provisionExactGrant (C : Crypto) (provisioning : GrantProvisioning) :
    Except ApplicationError Bytes :=
  (signAuthorizationGrant C provisioning.authorization provisioning.signingSeed
    provisioning.signingKeyId).mapError fun _ => .invalidGrantProvisioning

/-- `provision_git_ref_grant`: signed first, and given out once the receiver has prepared it. -/
def provisionGitRefGrant (authorization : GitRefAuthorization) (receiver : GitReceiver)
    (signingSeed : Octets 32) (signingKeyId : Text) : Action C ApplicationError Bytes := do
  let signedGrant ← check ((signGitRefGrant C authorization signingSeed signingKeyId).mapError
    fun _ => ApplicationError.invalidGrantProvisioning)
  let opened : Except GitError Unit ← perform (Call.openReceiver receiver)
  check (opened.mapError fun _ => .invalidGrantProvisioning)
  let prepared : Except GitError Unit ← perform (Call.prepare receiver authorization)
  check (prepared.mapError fun _ => .invalidGrantProvisioning)
  return signedGrant

/-- `KUBECONFIG_BYTES_MAX`. -/
def kubeconfigBytesMax : ℕ := 16 * 1024

/-- What the `kube` crate does with a kubeconfig: it reads it, and builds a client from it. -/
structure Kube where
  fromYaml : Bytes → Option Kubeconfig
  builds : Kubeconfig → Bool

/-- `load_operator_kubernetes_client`, without the settings of the client. -/
def loadOperatorKubernetesClient (kube : Kube) (kubeconfig : Bytes) :
    Except ApplicationError Unit := do
  require (!kubeconfig.isEmpty && kubeconfig.length ≤ kubeconfigBytesMax)
    .invalidOperatorConfiguration
  match (kube.fromYaml kubeconfig).bind configureExplicitKubeconfig with
  | none => .error .invalidOperatorConfiguration
  | some (explicit, _) => require (kube.builds explicit) .invalidOperatorConfiguration

/-- The operation that an authorization is about. -/
def targetRequest (authorization : ExactAuthorization) : SetDeploymentImageRequest :=
  ⟨authorization.operationId, authorization.namespace, authorization.deployment,
    authorization.container, authorization.immutableImageDigest⟩

/-- The proposal with the target that was observed. -/
def snapshotAuthorization (proposal : ExactAuthorization) (observed : TargetIdentity) :
    ExactAuthorization :=
  { proposal with approvedTarget := some ⟨observed.deploymentUid, observed.resourceVersion⟩ }

/-- `provision_snapshot_grant`. -/
def provisionSnapshotGrant (kube : Kube) (provisioning : GrantProvisioning) (kubeconfig : Bytes) :
    Action C ApplicationError Bytes := do
  check (require (kubeconfig.length ≤ kubeconfigBytesMax &&
    provisioning.authorization.approvedTarget.isNone) .invalidGrantProvisioning)
  let _ ← check (provisionExactGrant C provisioning)
  check (loadOperatorKubernetesClient kube kubeconfig)
  let identified : Except TargetReadError TargetIdentity ←
    perform (Call.identify (targetRequest provisioning.authorization))
  let observedTarget ← check (identified.mapError fun _ => .invalidGrantProvisioning)
  check (provisionExactGrant C { provisioning with
    authorization := snapshotAuthorization provisioning.authorization observedTarget })

/-! ## What is signed -/

/-- A key of the operator. -/
structure SigningKey where
  seed : Octets 32
  keyId : Text

/-- The appointment of a key. -/
def SigningKey.appointment (C : Crypto) (key : SigningKey) : AuthorizationTrust :=
  ⟨key.keyId, C.verifyingKey key.seed⟩

/-- The key of a provisioning. -/
def GrantProvisioning.key (provisioning : GrantProvisioning) : SigningKey :=
  ⟨provisioning.signingSeed, provisioning.signingKeyId⟩

section
variable (hC : C.Correct)
include hC

/-- **What is signed verifies** under the appointment of its key. -/
theorem provisionExactGrant_eq_ok {provisioning : GrantProvisioning} {bytes : Bytes}
    (h : provisionExactGrant C provisioning = .ok bytes) :
    bytes.length ≤ signedGrantBytesMax ∧
      Authority.verifyAuthorizationGrant C bytes (provisioning.key.appointment C) =
        .ok ⟨provisioning.authorization, provisioning.signingKeyId, digestHex C bytes⟩ := by
  have hsigned := mapError_eq_ok.mp h
  obtain ⟨_, hvalid, hrest⟩ := bind_eq_ok.mp hsigned
  obtain ⟨_, hkey, -⟩ := bind_eq_ok.mp hrest
  obtain ⟨bytes', hsign, hlength, hverify⟩ := (ExactAuthorization.validate_eq_ok.mp hvalid).verify_sign
    hC provisioning.signingSeed (require_eq_ok.mp hkey)
  obtain rfl := Except.ok.inj (hsigned.symm.trans hsign)
  exact ⟨hlength, hverify⟩

/-- **What is signed**: every valid authorization under a valid key id. -/
theorem exists_provisionExactGrant {provisioning : GrantProvisioning} :
    (∃ bytes, provisionExactGrant C provisioning = .ok bytes) ↔
      provisioning.authorization.Valid ∧ identityIsValid provisioning.signingKeyId = true := by
  constructor
  · rintro ⟨bytes, h⟩
    obtain ⟨_, hvalid, hrest⟩ := bind_eq_ok.mp (mapError_eq_ok.mp h)
    obtain ⟨_, hkey, -⟩ := bind_eq_ok.mp hrest
    exact ⟨ExactAuthorization.validate_eq_ok.mp hvalid, require_eq_ok.mp hkey⟩
  · rintro ⟨hvalid, hkey⟩
    obtain ⟨bytes, hsign, -⟩ := hvalid.verify_sign hC provisioning.signingSeed hkey
    exact ⟨bytes, mapError_eq_ok.mpr hsign⟩

theorem signGitRefGrant_eq_ok {a : GitRefAuthorization} {key : SigningKey} {bytes : Bytes}
    (h : signGitRefGrant C a key.seed key.keyId = .ok bytes) :
    bytes.length ≤ Git.grantMax ∧ verifyGitRefGrant C bytes (key.appointment C) =
      .ok ⟨a, key.keyId, digestHex C bytes⟩ := by
  obtain ⟨_, hboth, -⟩ := bind_eq_ok.mp h
  obtain ⟨hvalid, hkey⟩ := (Bool.and_eq_true _ _).mp (require_eq_ok.mp hboth)
  obtain ⟨bytes', hsign, hlength, hverify⟩ :=
    (GitRefAuthorization.isValid_iff.mp hvalid).verify_sign hC key.seed hkey
  obtain rfl := Except.ok.inj (h.symm.trans hsign)
  exact ⟨hlength, hverify⟩

end

theorem valid_snapshotAuthorization {a : ExactAuthorization} (h : a.Valid)
    {observed : TargetIdentity} :
    (snapshotAuthorization a observed).Valid ↔
      (⟨observed.deploymentUid, observed.resourceVersion⟩ : ApprovedTarget).isValid = true := by
  constructor
  · exact fun hvalid => hvalid.approvedTarget _ rfl
  · intro htarget
    refine ⟨?_, h.authorizationId, h.operationId, h.namespace, h.deployment, h.container,
      h.immutableImageDigest⟩
    intro target ht
    obtain rfl := Option.some.inj ht
    exact htarget

/-- **When a snapshot is signed**: the proposal is open and valid, the client is there, and the one
question that is asked, for the identity of the proposed Deployment, is answered with facts. -/
theorem returns_provisionSnapshotGrant {kube : Kube} {provisioning : GrantProvisioning}
    {kubeconfig bytes : Bytes} {own : List (Exchange (Call C) Answer)} :
    Returns (provisionSnapshotGrant (C := C) kube provisioning kubeconfig).run own (.ok bytes) ↔
      provisioning.authorization.approvedTarget = none ∧
      (∃ draft, provisionExactGrant C provisioning = .ok draft) ∧
      loadOperatorKubernetesClient kube kubeconfig = .ok () ∧
      ∃ observed, own = [⟨.identify (targetRequest provisioning.authorization), .ok observed⟩] ∧
        provisionExactGrant C { provisioning with
          authorization := snapshotAuthorization provisioning.authorization observed } = .ok bytes := by
  unfold provisionSnapshotGrant
  rw [returns_checked]
  constructor
  · rintro ⟨_, hopen, h⟩
    obtain ⟨draft, hdraft, h⟩ := returns_checked.mp h
    obtain ⟨_, hclient, h⟩ := returns_checked.mp h
    obtain ⟨answer, later, rfl, hidentified⟩ := returns_performed.mp h
    obtain ⟨observed, hobserved, hsign⟩ := returns_checked.mp hidentified
    obtain ⟨rfl, hsigned⟩ := returns_check.mp hsign
    obtain ⟨-, hnone⟩ := (Bool.and_eq_true _ _).mp (require_eq_ok.mp hopen)
    obtain rfl : answer = .ok observed := mapError_eq_ok.mp hobserved
    exact ⟨Option.isNone_iff_eq_none.mp hnone, ⟨draft, hdraft⟩, hclient, observed, rfl, hsigned⟩
  · rintro ⟨hopen, ⟨draft, hdraft⟩, hclient, observed, rfl, hsigned⟩
    obtain ⟨_, hlength, -⟩ := bind_eq_ok.mp hclient
    obtain ⟨-, hlength⟩ := (Bool.and_eq_true _ _).mp (require_eq_ok.mp hlength)
    refine ⟨(), require_of_true ?_, returns_checked.mpr ⟨draft, hdraft, returns_checked.mpr ⟨(),
      hclient, returns_performed.mpr ⟨.ok observed, [], rfl, returns_checked.mpr ⟨observed, rfl,
      returns_check.mpr ⟨rfl, hsigned⟩⟩⟩⟩⟩⟩
    rw [hlength, hopen]
    rfl

/-- **When a Git grant is given out**: it is signed, and the receiver has prepared it. -/
theorem returns_provisionGitRefGrant {a : GitRefAuthorization} {receiver : GitReceiver}
    {key : SigningKey} {own : List (Exchange (Call C) Answer)} {bytes : Bytes} :
    Returns (provisionGitRefGrant (C := C) a receiver key.seed key.keyId).run own (.ok bytes) ↔
      signGitRefGrant C a key.seed key.keyId = .ok bytes ∧
      own = [⟨.prepare receiver a, .ok ()⟩, ⟨.openReceiver receiver, .ok ()⟩] := by
  unfold provisionGitRefGrant
  rw [returns_checked]
  constructor
  · rintro ⟨signed, hsigned, h⟩
    obtain ⟨opened, later, rfl, hfirst⟩ := returns_performed.mp h
    obtain ⟨_, hopened, hopen⟩ := returns_checked.mp hfirst
    obtain ⟨prepared, latest, rfl, hsecond⟩ := returns_performed.mp hopen
    obtain ⟨_, hprepared, hend⟩ := returns_checked.mp hsecond
    cases hend
    obtain rfl : opened = .ok () := mapError_eq_ok.mp hopened
    obtain rfl : prepared = .ok () := mapError_eq_ok.mp hprepared
    exact ⟨mapError_eq_ok.mp hsigned, rfl⟩
  · rintro ⟨hsigned, rfl⟩
    exact ⟨bytes, mapError_eq_ok.mpr hsigned, returns_performed.mpr ⟨.ok (), [⟨.prepare receiver a,
      .ok ()⟩], rfl, returns_checked.mpr ⟨(), rfl, returns_performed.mpr ⟨.ok (), [], rfl,
      returns_checked.mpr ⟨(), rfl, .done _⟩⟩⟩⟩⟩

/-! ## A catalog of what was signed -/

/-- The label of an action. -/
def ApprovedAction.label : ApprovedAction → Text
  | .kubernetes _ _ label => label
  | .git _ label => label

/-- The approval that an entry of the catalog is made from. -/
def SelectableApproval.approval (entry : SelectableApproval) : ServiceApproval :=
  ⟨entry.signedGrant, entry.handle.label⟩

/-- An entry that shows what one of the keys has signed: a snapshot, or a Git transition. -/
inductive Provisioned (C : Crypto) (keys : List SigningKey) : SelectableApproval → Prop
  | kubernetes (provisioning : GrantProvisioning) (target : ApprovedTarget) (bytes : Bytes)
      (label : Text) : provisioning.key ∈ keys →
      provisioning.authorization.approvedTarget = some target →
      provisionExactGrant C provisioning = .ok bytes →
      Provisioned C keys
        ⟨.kubernetes (targetRequest provisioning.authorization) target label, bytes⟩
  | git (a : GitRefAuthorization) (key : SigningKey) (bytes : Bytes) (label : Text) : key ∈ keys →
      signGitRefGrant C a key.seed key.keyId = .ok bytes → Provisioned C keys ⟨.git a label, bytes⟩

/-- The keys can be appointed together. -/
structure Appointable (keys : List SigningKey) : Prop where
  keyIds : ∀ key ∈ keys, identityIsValid key.keyId = true
  distinct : (keys.map (·.keyId)).Nodup

/-- One hit decides `approved_handle`. -/
theorem approvedHandle_of_judge {approval : ServiceApproval} {trust : List AuthorizationTrust}
    {appointment : AuthorizationTrust} {r : Except ServiceError ApprovedAction}
    (hmem : appointment ∈ trust) (h : judgeHandle C approval appointment = some r) :
    approvedHandle C approval trust = r := by
  rw [approvedHandle_eq]
  cases hfound : trust.findSome? (judgeHandle C approval) with
  | none => cases h.symm.trans (List.findSome?_eq_none_iff.mp hfound appointment hmem)
  | some r' =>
    obtain ⟨t, -, ht⟩ := List.exists_of_findSome?_eq_some hfound
    exact judgeHandle_agree ht h

section
variable (hC : C.Correct) {keys : List SigningKey} {entry : SelectableApproval}
  {entries : List SelectableApproval}
include hC

/-- **What was signed is shown as it was signed.** -/
theorem approvedHandle_provisioned (h : Provisioned C keys entry) :
    approvedHandle C entry.approval (keys.map (·.appointment C)) = .ok entry.handle := by
  cases h with
  | kubernetes provisioning target bytes label hkey htarget hsigned =>
    obtain ⟨-, hverify⟩ := provisionExactGrant_eq_ok hC hsigned
    refine approvedHandle_of_judge (List.mem_map_of_mem hkey)
      (judgeHandle_eq_some.mpr (.inl ⟨_, hverify, ?_⟩))
    rw [kubernetesHandle, htarget]
    rfl
  | git a key bytes label hkey hsigned =>
    obtain ⟨-, hverify⟩ := signGitRefGrant_eq_ok hC hsigned
    exact approvedHandle_of_judge (List.mem_map_of_mem hkey)
      (judgeHandle_eq_some.mpr (.inr ⟨_, hverify, rfl⟩))

theorem length_provisioned (h : Provisioned C keys entry) : entry.signedGrant.length ≤ 4096 := by
  cases h with
  | kubernetes provisioning target bytes label hkey htarget hsigned =>
    exact (provisionExactGrant_eq_ok hC hsigned).1
  | git a key bytes label hkey hsigned =>
    exact (signGitRefGrant_eq_ok hC hsigned).1.trans (by decide)

theorem selectApprovals_provisioned {earlier : List SelectableApproval}
    (h : ∀ entry ∈ entries, Provisioned C keys entry)
    (hunique : (catalogIds (earlier ++ entries)).Nodup) :
    selectApprovals C (keys.map (·.appointment C)) earlier (entries.map (·.approval)) =
      .ok (earlier ++ entries) := by
  induction entries generalizing earlier with
  | nil => rw [List.append_nil]; rfl
  | cons entry rest ih =>
    have hhandle := approvedHandle_provisioned hC (h entry List.mem_cons_self)
    have hfresh : (!earlier.any fun other => other.handle.operationId =
        entry.handle.operationId) = true := by
      rw [Bool.not_eq_true', List.any_eq_false]
      intro other hother hsame
      unfold catalogIds at hunique
      rw [List.map_append, List.nodup_append] at hunique
      exact hunique.2.2 _ (List.mem_map_of_mem hother) _ (List.mem_map_of_mem List.mem_cons_self)
        (of_decide_eq_true hsame)
    rw [List.map_cons, selectApprovals, bind_of_ok hhandle, bind_of_ok (require_of_true hfresh)]
    have happend : earlier ++ entry :: rest = earlier ++ [entry] ++ rest := by
      rw [List.append_assoc, List.singleton_append]
    rw [happend] at hunique ⊢
    exact ih (fun other hother => h other (List.mem_cons_of_mem _ hother)) hunique

theorem eq_of_selectApprovals {earlier approvals : List SelectableApproval}
    (h : ∀ entry ∈ entries, Provisioned C keys entry)
    (hselected : selectApprovals C (keys.map (·.appointment C)) earlier (entries.map (·.approval)) =
      .ok approvals) : approvals = earlier ++ entries := by
  induction entries generalizing earlier with
  | nil =>
    rw [List.append_nil]
    exact (Except.ok.inj hselected).symm
  | cons entry rest ih =>
    have hhandle := approvedHandle_provisioned hC (h entry List.mem_cons_self)
    rw [List.map_cons, selectApprovals, bind_of_ok hhandle] at hselected
    obtain ⟨_, -, hrest⟩ := bind_eq_ok.mp hselected
    have heq := ih (fun other hother => h other (List.mem_cons_of_mem _ hother)) hrest
    rwa [List.append_assoc, List.singleton_append] at heq

omit hC in
/-- **Which appointments are accepted**: valid ones, with distinct keys that were not seen before. -/
theorem validateAppointments_eq_ok {trust : List AuthorizationTrust} {seen : List Text} {u : Unit} :
    validateAppointments C seen trust = .ok u ↔
      (∀ appointment ∈ trust, appointment.validate C = .ok ()) ∧
        (trust.map (·.keyId)).Nodup ∧ ∀ id ∈ trust.map (·.keyId), id ∉ seen := by
  induction trust generalizing seen with
  | nil => simp [validateAppointments]
  | cons appointment rest ih =>
    rw [List.map_cons, List.nodup_cons, List.forall_mem_cons, List.forall_mem_cons,
      validateAppointments]
    constructor
    · intro h
      obtain ⟨_, hvalid, h⟩ := bind_eq_ok.mp h
      obtain ⟨_, hfresh, h⟩ := bind_eq_ok.mp h
      obtain ⟨hrest, hdistinct, hseen⟩ := ih.mp h
      rw [require_eq_ok, Bool.not_eq_true', Bool.eq_false_iff, Ne, List.contains_iff_mem] at hfresh
      exact ⟨⟨mapError_eq_ok.mp hvalid, hrest⟩,
        ⟨fun hmem => hseen _ hmem List.mem_cons_self, hdistinct⟩, hfresh,
        fun id hid hmem => hseen id hid (List.mem_cons_of_mem _ hmem)⟩
    · rintro ⟨⟨hvalid, hrest⟩, ⟨hother, hdistinct⟩, hfresh, hseen⟩
      refine bind_eq_ok.mpr ⟨(), mapError_eq_ok.mpr hvalid, bind_eq_ok.mpr ⟨(), ?_, ih.mpr
        ⟨hrest, hdistinct, fun id hid hmem => ?_⟩⟩⟩
      · rwa [require_eq_ok, Bool.not_eq_true', Bool.eq_false_iff, Ne, List.contains_iff_mem]
      · rcases List.mem_cons.mp hmem with rfl | hmem
        · exact hother hid
        · exact hseen id hid hmem

omit hC in
/-- Of valid appointments only the distinctness of the keys is asked. -/
theorem validateAppointments_of_valid {trust : List AuthorizationTrust}
    (h : ∀ appointment ∈ trust, appointment.validate C = .ok ()) :
    validateAppointments C [] trust =
      require (decide (trust.map (·.keyId)).Nodup) .configuration := by
  have herror : ∀ (seen : List Text) (appointments : List AuthorizationTrust) (e : ServiceError),
      validateAppointments C seen appointments = .error e → e = .configuration := by
    intro seen appointments e he
    induction appointments generalizing seen with
    | nil => cases he
    | cons appointment rest ih =>
      rcases bind_eq_error.mp he with hvalid | ⟨_, -, he⟩
      · cases hcase : appointment.validate C with
        | ok u =>
          rw [hcase] at hvalid
          cases hvalid
        | error error =>
          rw [hcase] at hvalid
          exact (Except.error.inj hvalid).symm
      · rcases bind_eq_error.mp he with hfresh | ⟨_, -, he⟩
        · exact (require_eq_error.mp hfresh).2.symm
        · exact ih _ he
  by_cases hdistinct : (trust.map (·.keyId)).Nodup
  · rw [require_of_true (decide_eq_true hdistinct), validateAppointments_eq_ok]
    exact ⟨h, hdistinct, fun _ _ => List.not_mem_nil⟩
  · rw [require_of_false (decide_eq_false hdistinct)]
    cases hresult : validateAppointments C [] trust with
    | ok u => exact absurd (validateAppointments_eq_ok.mp hresult).2.1 hdistinct
    | error e => rw [herror [] trust e hresult]

/-- The keys of an operator are accepted exactly if they can be appointed together. -/
theorem appointable_iff : validateAppointments C [] (keys.map (·.appointment C)) = .ok () ↔
    Appointable keys := by
  rw [validateAppointments_eq_ok, List.map_map]
  constructor
  · rintro ⟨hvalid, hdistinct, -⟩
    refine ⟨fun key hkey => ?_, hdistinct⟩
    obtain ⟨_, hid, -⟩ := bind_eq_ok.mp (hvalid _ (List.mem_map_of_mem hkey))
    exact require_eq_ok.mp hid
  · rintro ⟨hids, hdistinct⟩
    refine ⟨fun appointment hmem => ?_, hdistinct, fun _ _ => List.not_mem_nil⟩
    obtain ⟨key, hkey, rfl⟩ := List.mem_map.mp hmem
    exact bind_eq_ok.mpr ⟨(), require_of_true (hids key hkey),
      require_of_true (hC.keyIsValid_verifyingKey key.seed)⟩

/-- The labels that an approval may have. -/
def labelIsValid (label : Text) : Bool :=
  label.length ≤ 128 && label.all fun b => 32 ≤ b && b ≤ 126

omit hC in
/-- The grants of a catalog within its bounds never exceed the bound of all of them together. -/
theorem sum_lengths_le {approvals : List ServiceApproval}
    (h : ∀ approval ∈ approvals, approval.withinBounds = true) :
    (approvals.map fun approval => approval.signedGrant.length + approval.label.length).sum ≤
      approvals.length * 4224 := by
  induction approvals with
  | nil => exact Nat.le_refl 0
  | cons approval rest ih =>
    have hfirst := h approval List.mem_cons_self
    have hrest := ih fun other hother => h other (List.mem_cons_of_mem _ hother)
    simp only [ServiceApproval.withinBounds, Bool.and_eq_true, decide_eq_true_eq] at hfirst
    obtain ⟨⟨hgrant, hlabel⟩, -⟩ := hfirst
    rw [List.map_cons, List.sum_cons, List.length_cons]
    omega

omit hC in
/-- Within the bounds, a configuration is decided by its appointments and its grants. -/
theorem validateConfiguration_of_bounds {configuration : ServiceConfiguration}
    (happrovals : configuration.approvals.length ≤ 32)
    (htrust : configuration.authorizationTrust.length ≤ 128)
    (hbounds : ∀ approval ∈ configuration.approvals, approval.withinBounds = true) :
    validateConfiguration C configuration =
      validateAppointments C [] configuration.authorizationTrust >>= fun _ =>
        selectApprovals C configuration.authorizationTrust [] configuration.approvals := by
  have hsizes : (decide (configuration.approvals.length ≤ 32) &&
      decide (configuration.authorizationTrust.length ≤ 128)) = true := by
    rw [decide_eq_true happrovals, decide_eq_true htrust]
    rfl
  have htotal : (configuration.approvals.map fun approval =>
      approval.signedGrant.length + approval.label.length).sum ≤ 160 * 1024 :=
    (sum_lengths_le hbounds).trans ((Nat.mul_le_mul_right 4224 happrovals).trans (by norm_num))
  unfold validateConfiguration
  rw [bind_of_ok (require_of_true hsizes), bind_of_ok (require_of_true (List.all_eq_true.mpr hbounds)),
    bind_of_ok (require_of_true (decide_eq_true htotal))]

/-- **Exactly which lists of provisioned grants are a catalog**, and it shows what was signed. -/
theorem validateConfiguration_provisioned (h : ∀ entry ∈ entries, Provisioned C keys entry)
    {approvals : List SelectableApproval} :
    validateConfiguration C ⟨keys.map (·.appointment C), entries.map (·.approval)⟩ =
        .ok approvals ↔
      approvals = entries ∧ entries.length ≤ 32 ∧ keys.length ≤ 128 ∧ Appointable keys ∧
        (∀ entry ∈ entries, labelIsValid entry.handle.label = true) ∧
        (catalogIds entries).Nodup := by
  constructor
  · intro hok
    have hnodup := nodup_of_validateConfiguration hok
    obtain ⟨_, hsizes, hrest⟩ := bind_eq_ok.mp hok
    obtain ⟨_, hbounds, hrest⟩ := bind_eq_ok.mp hrest
    have hsizes := require_eq_ok.mp hsizes
    rw [Bool.and_eq_true, decide_eq_true_eq, decide_eq_true_eq, List.length_map,
      List.length_map] at hsizes
    have hlabels : ∀ entry ∈ entries, labelIsValid entry.handle.label = true := by
      intro entry hentry
      have hbound := List.all_eq_true.mp (require_eq_ok.mp hbounds) _ (List.mem_map_of_mem hentry)
      simp only [ServiceApproval.withinBounds, Bool.and_eq_true] at hbound
      exact (Bool.and_eq_true _ _).mpr ⟨hbound.1.2, hbound.2⟩
    obtain ⟨_, -, hrest⟩ := bind_eq_ok.mp hrest
    obtain ⟨_, happointments, hselected⟩ := bind_eq_ok.mp hrest
    obtain rfl := eq_of_selectApprovals hC h hselected
    exact ⟨rfl, hsizes.1, hsizes.2, (appointable_iff hC).mp happointments, hlabels, hnodup⟩
  · rintro ⟨rfl, hlength, hcount, hkeys, hlabels, hunique⟩
    have happointments := (appointable_iff hC).mpr hkeys
    have hbounds : ∀ entry ∈ approvals, entry.approval.withinBounds = true := by
      intro entry hentry
      obtain ⟨hlabel, hbytes⟩ := (Bool.and_eq_true _ _).mp (hlabels entry hentry)
      have hgrant := decide_eq_true (length_provisioned hC (h entry hentry))
      exact (Bool.and_eq_true _ _).mpr ⟨(Bool.and_eq_true _ _).mpr ⟨hgrant, hlabel⟩, hbytes⟩
    have hall : ∀ approval ∈ approvals.map (·.approval), approval.withinBounds = true := by
      intro approval hmem
      obtain ⟨entry, hentry, rfl⟩ := List.mem_map.mp hmem
      exact hbounds entry hentry
    have hselected : selectApprovals C (keys.map (·.appointment C)) [] (approvals.map (·.approval)) =
        .ok ([] ++ approvals) := selectApprovals_provisioned hC h hunique
    have hlength' : (approvals.map (·.approval)).length ≤ 32 := by rwa [List.length_map]
    have hcount' : (keys.map (·.appointment C)).length ≤ 128 := by rwa [List.length_map]
    rw [validateConfiguration_of_bounds hlength' hcount' hall, bind_of_ok happointments]
    exact hselected

/-! ## From an operator to a catalog -/

/-- A client is there: the kubeconfig is within its bound and is read, what it selects is in it, and
a client is built from it with the placeholder. -/
def MakesClient (kube : Kube) (kubeconfig : Bytes) : Prop :=
  kubeconfig ≠ [] ∧ kubeconfig.length ≤ kubeconfigBytesMax ∧
    ∃ before after placeholder, kube.fromYaml kubeconfig = some before ∧ before.SelfContained ∧
      configureExplicitKubeconfig before = some (after, placeholder) ∧
      Explicit before after placeholder ∧ kube.builds after = true

omit hC in
theorem loadOperatorKubernetesClient_eq_ok {kube : Kube} {kubeconfig : Bytes} {u : Unit} :
    loadOperatorKubernetesClient kube kubeconfig = .ok u ↔ MakesClient kube kubeconfig := by
  have hbounds : (!kubeconfig.isEmpty && decide (kubeconfig.length ≤ kubeconfigBytesMax)) = true ↔
      kubeconfig ≠ [] ∧ kubeconfig.length ≤ kubeconfigBytesMax := by simp
  constructor
  · intro h
    obtain ⟨_, hlength, h⟩ := bind_eq_ok.mp h
    obtain ⟨hne, hle⟩ := hbounds.mp (require_eq_ok.mp hlength)
    split at h
    · cases h
    · rename_i after placeholder hexplicit
      obtain ⟨before, hbefore, hafter⟩ := Option.bind_eq_some_iff.mp hexplicit
      exact ⟨hne, hle, before, after, placeholder, hbefore,
        exists_configureExplicitKubeconfig.mp ⟨after, placeholder, hafter⟩, hafter,
        configureExplicitKubeconfig_eq_some hafter, require_eq_ok.mp h⟩
  · rintro ⟨hne, hle, before, after, placeholder, hbefore, -, hafter, -, hbuilds⟩
    have hread : (kube.fromYaml kubeconfig).bind configureExplicitKubeconfig =
        some (after, placeholder) := by rw [hbefore, Option.bind_some, hafter]
    refine bind_eq_ok.mpr ⟨(), require_eq_ok.mpr (hbounds.mpr ⟨hne, hle⟩), ?_⟩
    simp only [hread]
    exact require_of_true hbuilds

/-- **A catalog is what an operator has signed.**

* A snapshot is provisioned exactly if the proposal leaves the target open and is valid, the key id
  is valid, the kubeconfig makes a client, and the one question that is asked, for the identity of
  the proposed Deployment, is answered with facts.  It is signed for what was observed, and nothing
  else is asked, so nothing is mutated.
* A Git grant is given out exactly if the transition and the key id are valid and the receiver has
  prepared it.
* A list of provisioned grants is accepted exactly if it is short enough, the keys can be appointed
  together, its labels are printable and no identity is in it twice, and then it shows what was
  signed. -/
theorem provisioned_catalog :
    (∀ (kube : Kube) (provisioning : GrantProvisioning) (kubeconfig : Bytes),
      (provisionSnapshotGrant (C := C) kube provisioning kubeconfig).run.Meets
        (fun past c => past = [] ∧ c = .identify (targetRequest provisioning.authorization)) []
        (fun _ _ => True) ∧
      ∀ own : List (Exchange (Call C) Answer),
        ((∃ bytes, Returns (provisionSnapshotGrant (C := C) kube provisioning kubeconfig).run own
            (.ok bytes)) ↔
          provisioning.authorization.approvedTarget = none ∧ provisioning.authorization.Valid ∧
            identityIsValid provisioning.signingKeyId = true ∧ MakesClient kube kubeconfig ∧
            ∃ observed : TargetIdentity,
              own = [⟨.identify (targetRequest provisioning.authorization), .ok observed⟩] ∧
              (⟨observed.deploymentUid, observed.resourceVersion⟩ : ApprovedTarget).isValid = true) ∧
        ∀ bytes, Returns (provisionSnapshotGrant (C := C) kube provisioning kubeconfig).run own
            (.ok bytes) →
          ∃ observed : TargetIdentity,
            own = [⟨.identify (targetRequest provisioning.authorization), .ok observed⟩] ∧
            ∀ label, Provisioned C [provisioning.key] ⟨.kubernetes
              (targetRequest provisioning.authorization)
              ⟨observed.deploymentUid, observed.resourceVersion⟩ label, bytes⟩) ∧
    (∀ (a : GitRefAuthorization) (receiver : GitReceiver) (key : SigningKey)
      (own : List (Exchange (Call C) Answer)),
      (∃ bytes, Returns (provisionGitRefGrant (C := C) a receiver key.seed key.keyId).run own
          (.ok bytes)) ↔
        a.Valid ∧ identityIsValid key.keyId = true ∧
          own = [⟨.prepare receiver a, .ok ()⟩, ⟨.openReceiver receiver, .ok ()⟩]) ∧
    ∀ (keys : List SigningKey) (entries approvals : List SelectableApproval),
      (∀ entry ∈ entries, Provisioned C keys entry) →
      (validateConfiguration C ⟨keys.map (·.appointment C), entries.map (·.approval)⟩ =
          .ok approvals ↔
        approvals = entries ∧ entries.length ≤ 32 ∧ keys.length ≤ 128 ∧ Appointable keys ∧
          (∀ entry ∈ entries, labelIsValid entry.handle.label = true) ∧
          (catalogIds entries).Nodup) := by
  refine ⟨fun kube provisioning kubeconfig => ⟨?_, fun own => ⟨?_, fun bytes h => ?_⟩⟩,
    fun a receiver key own => ?_, fun keys entries approvals h => ?_⟩
  · -- whatever is answered, at most one question is asked
    have hsilent : Ensures (fun past c => past = [] ∧
        c = .identify (targetRequest provisioning.authorization)) []
        (provisionSnapshotGrant (C := C) kube provisioning kubeconfig) fun _ _ => True := by
      refine ensures_checked fun _ _ => ensures_checked fun _ _ => ensures_checked fun _ _ => ?_
      refine ensures_ask ⟨rfl, rfl⟩ fun _ => ensures_checked fun _ _ => ?_
      exact ensures_check fun _ _ => trivial
    exact Meets.mono hsilent fun _ _ _ => trivial
  · constructor
    · rintro ⟨bytes, h⟩
      obtain ⟨hopen, hdraft, hclient, observed, rfl, hsigned⟩ :=
        returns_provisionSnapshotGrant.mp h
      obtain ⟨hvalid, hkey⟩ := (exists_provisionExactGrant hC).mp hdraft
      have hsnapshot := ((exists_provisionExactGrant hC).mp ⟨bytes, hsigned⟩).1
      exact ⟨hopen, hvalid, hkey, loadOperatorKubernetesClient_eq_ok.mp hclient, observed, rfl,
        (valid_snapshotAuthorization hvalid).mp hsnapshot⟩
    · rintro ⟨hopen, hvalid, hkey, hclient, observed, rfl, htarget⟩
      have hdraft := (exists_provisionExactGrant hC).mpr ⟨hvalid, hkey⟩
      obtain ⟨bytes, hsigned⟩ : ∃ bytes, provisionExactGrant C { provisioning with
          authorization := snapshotAuthorization provisioning.authorization observed } =
          .ok bytes :=
        (exists_provisionExactGrant hC).mpr ⟨(valid_snapshotAuthorization hvalid).mpr htarget, hkey⟩
      exact ⟨bytes, returns_provisionSnapshotGrant.mpr ⟨hopen, hdraft,
        loadOperatorKubernetesClient_eq_ok.mpr hclient, observed, rfl, hsigned⟩⟩
  · obtain ⟨-, -, -, observed, rfl, hsigned⟩ := returns_provisionSnapshotGrant.mp h
    refine ⟨observed, rfl, fun label => ?_⟩
    exact Provisioned.kubernetes { provisioning with
      authorization := snapshotAuthorization provisioning.authorization observed } _ bytes label
      List.mem_cons_self rfl hsigned
  · constructor
    · rintro ⟨bytes, h⟩
      obtain ⟨hsigned, rfl⟩ := returns_provisionGitRefGrant.mp h
      obtain ⟨_, hboth, -⟩ := bind_eq_ok.mp hsigned
      obtain ⟨hvalid, hkey⟩ := (Bool.and_eq_true _ _).mp (require_eq_ok.mp hboth)
      exact ⟨GitRefAuthorization.isValid_iff.mp hvalid, hkey, rfl⟩
    · rintro ⟨hvalid, hkey, rfl⟩
      obtain ⟨bytes, hsigned, -⟩ := hvalid.verify_sign hC key.seed hkey
      exact ⟨bytes, returns_provisionGitRefGrant.mpr ⟨hsigned, rfl⟩⟩
  · exact validateConfiguration_provisioned hC h

end

/-- A kubeconfig with a context, its cluster and a user with nothing outside. -/
def sampleKubeconfig : Kubeconfig where
  currentContext := some (utf8 "operator")
  contexts := [(utf8 "operator", some ⟨utf8 "cluster", some (utf8 "user")⟩)]
  clusters := [(utf8 "cluster", some ⟨none, none⟩)]
  authInfos := [(utf8 "user", some ⟨none, none, none, false, false⟩)]

/-- A client for every kubeconfig. -/
def sampleKube : Kube := ⟨fun _ => some sampleKubeconfig, fun _ => true⟩

/-- The owner's proposal. -/
def sampleProvisioning : GrantProvisioning :=
  ⟨legacyAuthorization, ownerAppointment.publicKey, utf8 "owner-key"⟩

/-- The proposal becomes a snapshot, and the snapshot a catalog of one entry. -/
theorem sample_snapshot_in_catalog : ∃ bytes,
    Returns (provisionSnapshotGrant (C := Crypto.bare) sampleKube sampleProvisioning
        (utf8 "kind: Config")).run
      [⟨.identify (targetRequest legacyAuthorization), .ok ⟨utf8 "uid-1", utf8 "47"⟩⟩]
      (.ok bytes) ∧
    validateConfiguration Crypto.bare ⟨[sampleProvisioning.key.appointment Crypto.bare],
        [⟨bytes, utf8 "first"⟩]⟩ =
      .ok [⟨.kubernetes (targetRequest legacyAuthorization) ⟨utf8 "uid-1", utf8 "47"⟩
        (utf8 "first"), bytes⟩] := by
  obtain ⟨hsnapshot, -, hcatalog⟩ := provisioned_catalog Crypto.correct_bare
  obtain ⟨-, hreturns⟩ := hsnapshot sampleKube sampleProvisioning (utf8 "kind: Config")
  obtain ⟨hexactly, hsigned⟩ := hreturns
    [⟨.identify (targetRequest legacyAuthorization), .ok ⟨utf8 "uid-1", utf8 "47"⟩⟩]
  have hclient : MakesClient sampleKube (utf8 "kind: Config") :=
    (loadOperatorKubernetesClient_eq_ok (u := ())).mp rfl
  obtain ⟨bytes, hbytes⟩ := hexactly.mpr ⟨rfl, ExactAuthorization.validate_eq_ok.mp rfl, by decide,
    hclient, ⟨utf8 "uid-1", utf8 "47"⟩, rfl, by decide⟩
  refine ⟨bytes, hbytes, ?_⟩
  obtain ⟨observed, hown, hprovisioned⟩ := hsigned bytes hbytes
  have hanswer := eq_of_heq (Exchange.mk.inj (List.cons.inj hown).1).2
  obtain rfl := Except.ok.inj hanswer
  have hentries : ∀ entry ∈ [(⟨.kubernetes (targetRequest legacyAuthorization)
      ⟨utf8 "uid-1", utf8 "47"⟩ (utf8 "first"), bytes⟩ : SelectableApproval)],
      Provisioned Crypto.bare [sampleProvisioning.key] entry := by
    intro entry hentry
    obtain rfl := List.mem_singleton.mp hentry
    exact hprovisioned (utf8 "first")
  have hkeys : Appointable [sampleProvisioning.key] := ⟨by decide, List.nodup_singleton _⟩
  refine (hcatalog [sampleProvisioning.key] _ _ hentries).mpr
    ⟨rfl, Nat.le_add_left 1 31, Nat.le_add_left 1 127, hkeys, ?_, List.nodup_singleton _⟩
  intro entry hentry
  obtain rfl := List.mem_singleton.mp hentry
  rfl

end Application
end Kapsel
