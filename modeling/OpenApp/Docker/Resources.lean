import OpenApp.Docker.Labels

/-!
# Which resource is an instance's own

The name of a network or a volume may change, its labels stay. Of all candidates the one is taken that has the
labels of the instance, if it is the only one.
-/

namespace OpenApp.Docker

inductive ManagedResourceKind
  | container
  | network
  | volume
  deriving DecidableEq

inductive ManagedNetworkRole
  | «private»
  | egress
  deriving DecidableEq

structure ManagedResourceIdentity where
  instanceId : String
  ownerId : String
  networkRole : Option ManagedNetworkRole
  storageId : Option String
  allowLegacyStorageRef : Option Bool
  legacyStorageNames : Option (List String)
  requireCurrentScheme : Option String
  labelPrefixes : Option (List String)

def ManagedResourceIdentity.prefixes (identity : ManagedResourceIdentity) : List String :=
  identity.labelPrefixes.getD RESOURCE_LABEL_PREFIXES

structure ManagedResourceCandidate where
  kind : ManagedResourceKind
  name : String
  id : Option String
  labels : Labels
  internal : Option Bool
  options : Option (String → Option String)

structure ManagedResourceRef extends ManagedResourceCandidate where
  scheme : String
  legacy : Bool
  migrationRequired : Bool

inductive ManagedResourceResolutionCode
  | provider_resource_missing
  | resource_identity_mismatch
  | resource_identity_ambiguous
  | resource_migration_required
  deriving DecidableEq

structure ManagedResourceResolutionError where
  code : ManagedResourceResolutionCode
  kind : ManagedResourceKind
  instanceId : String
  ownerId : String
  candidateNames : List String

def ManagedResourceCandidate.enableIcc (candidate : ManagedResourceCandidate) : Option String :=
  candidate.options.bind fun options => options "com.docker.network.bridge.enable_icc"

/-- The role in the labels: that of a resource, or else that of a network. -/
def roleLabel (labels : Labels) (prefixes : List String) : Option String :=
  (readLabel labels "resource-role" prefixes).or (readLabel labels "network-role" prefixes)

/-- The role without the labels. -/
def unlabelledRole (candidate : ManagedResourceCandidate) : Option ManagedNetworkRole :=
  if "-egress".toList <:+ candidate.name.toList then some .egress
  else if candidate.internal = some true then some .private
  else if candidate.internal = some false ∧ candidate.enableIcc = some "false" then some .egress
  else none

def inferManagedNetworkRole (candidate : ManagedResourceCandidate) (prefixes : List String) : Option ManagedNetworkRole :=
  match roleLabel candidate.labels prefixes with
  | some "private" => some .private
  | some "egress" => some .egress
  | _ => unlabelledRole candidate

/-- The options that keep a network of the role apart from others. -/
def isolated (candidate : ManagedResourceCandidate) : ManagedNetworkRole → Bool
  | .private => candidate.internal = some true
  | .egress => candidate.internal ≠ some true && candidate.enableIcc = some "false"

/-- A volume without a storage reference that may be taken all the same. -/
def legacyPermitted (candidate : ManagedResourceCandidate) (identity : ManagedResourceIdentity) : Bool :=
  identity.allowLegacyStorageRef = some true && identity.legacyStorageNames.all fun names => names.contains candidate.name

structure MatchResult where
  isMatch : Bool
  identityMismatch : Bool

def candidateMatchesIdentity (candidate : ManagedResourceCandidate) (identity : ManagedResourceIdentity) : MatchResult :=
  let managed := readLabel candidate.labels "managed" identity.prefixes
  let instanceId := readLabel candidate.labels "instance-id" identity.prefixes
  let ownerId := readLabel candidate.labels "owner-id" identity.prefixes
  let storageRef := readLabel candidate.labels "storage-ref" identity.prefixes
  if managed.isNone ∧ instanceId.isNone ∧ ownerId.isNone ∧ storageRef.isNone then ⟨false, false⟩
  else if managed = some conflictingLabelValues ∨ instanceId = some conflictingLabelValues ∨
      ownerId = some conflictingLabelValues ∨ storageRef = some conflictingLabelValues ∨
      managed ≠ some "true" ∨ instanceId ≠ some identity.instanceId ∨ ownerId ≠ some identity.ownerId then ⟨false, true⟩
  else if candidate.kind = .network ∧ ∃ role ∈ identity.networkRole,
      inferManagedNetworkRole candidate identity.prefixes ≠ some role ∨ isolated candidate role = false then ⟨false, true⟩
  else if ∃ storageId ∈ identity.storageId,
      ¬(storageRef = some storageId ∨ (storageRef = none ∧ legacyPermitted candidate identity = true)) then ⟨false, true⟩
  else ⟨true, false⟩

structure CandidateScheme where
  scheme : String
  legacy : Bool

def candidateScheme (candidate : ManagedResourceCandidate) (prefixes : List String) : CandidateScheme :=
  match (readLabel candidate.labels "resource-scheme" prefixes).filter fun scheme =>
      scheme ≠ "" ∧ scheme ≠ conflictingLabelValues with
  | some scheme => ⟨scheme, false⟩
  | none => ⟨"legacy", true⟩

/-- The candidates of a kind that match. -/
def matching (candidates : List ManagedResourceCandidate) (identity : ManagedResourceIdentity)
    (kind : ManagedResourceKind) : List ManagedResourceCandidate :=
  (candidates.filter (·.kind = kind)).filter fun candidate => (candidateMatchesIdentity candidate identity).isMatch

/-- The scheme is the current one, where that is wanted. -/
def schemeHolds (candidate : ManagedResourceCandidate) (identity : ManagedResourceIdentity) : Bool :=
  identity.requireCurrentScheme.all (· = (candidateScheme candidate identity.prefixes).scheme)

def selectManagedResource (candidates : List ManagedResourceCandidate) (identity : ManagedResourceIdentity)
    (kind : ManagedResourceKind) : Except ManagedResourceResolutionError ManagedResourceRef :=
  let failure (code : ManagedResourceResolutionCode) (names : List ManagedResourceCandidate) :=
    .error ⟨code, kind, identity.instanceId, identity.ownerId, names.map (·.name)⟩
  let sameKind := candidates.filter (·.kind = kind)
  match matching candidates identity kind with
  | [] =>
    failure
      (if sameKind.any fun candidate => (candidateMatchesIdentity candidate identity).identityMismatch then
        .resource_identity_mismatch
      else .provider_resource_missing)
      sameKind
  | [selected] =>
    if schemeHolds selected identity then
      let metadata := candidateScheme selected identity.prefixes
      .ok ⟨selected, metadata.scheme, metadata.legacy, false⟩
    else failure .resource_migration_required [selected]
  | matches' => failure .resource_identity_ambiguous matches'

/-! ## What a candidate has to be -/

variable {candidate : ManagedResourceCandidate} {identity : ManagedResourceIdentity} {kind : ManagedResourceKind}
  {candidates : List ManagedResourceCandidate}

/-- The namespaces agree on the labels the role is taken from. -/
def RoleAgrees (candidate : ManagedResourceCandidate) (prefixes : List String) : Prop :=
  Agree candidate.labels "resource-role" prefixes ∧
    (Absent candidate.labels "resource-role" prefixes → Agree candidate.labels "network-role" prefixes)

/-- The network has the role that is wanted, and its isolation. -/
def HasRole (candidate : ManagedResourceCandidate) (identity : ManagedResourceIdentity) : Prop :=
  ∀ role ∈ identity.networkRole, candidate.kind = .network →
    RoleAgrees candidate identity.prefixes ∧ inferManagedNetworkRole candidate identity.prefixes = some role ∧
      isolated candidate role = true

/-- The storage references agree, and are what is wanted, or may be left out. -/
def HasStorage (candidate : ManagedResourceCandidate) (identity : ManagedResourceIdentity) : Prop :=
  Agree candidate.labels "storage-ref" identity.prefixes ∧
    ∀ storageId ∈ identity.storageId, Carries candidate.labels "storage-ref" identity.prefixes storageId ∨
      (Absent candidate.labels "storage-ref" identity.prefixes ∧ legacyPermitted candidate identity = true)

/-- The labels say, in every namespace that has them, that the candidate is what is looked for. -/
def Qualifies (candidate : ManagedResourceCandidate) (identity : ManagedResourceIdentity) : Prop :=
  Carries candidate.labels "managed" identity.prefixes "true" ∧
    Carries candidate.labels "instance-id" identity.prefixes identity.instanceId ∧
    Carries candidate.labels "owner-id" identity.prefixes identity.ownerId ∧
    HasRole candidate identity ∧ HasStorage candidate identity

instance (prefixes : List String) : Decidable (RoleAgrees candidate prefixes) :=
  inferInstanceAs (Decidable (_ ∧ (_ → _)))

instance : Decidable (HasRole candidate identity) :=
  inferInstanceAs (Decidable (∀ role ∈ identity.networkRole, _))

instance : Decidable (HasStorage candidate identity) :=
  inferInstanceAs (Decidable (_ ∧ ∀ storageId ∈ identity.storageId, _))

instance : Decidable (Qualifies candidate identity) :=
  inferInstanceAs (Decidable (_ ∧ _ ∧ _ ∧ _ ∧ _))

/-- The identity or the storage reference is the text that marks a conflict. -/
def Marked (candidate : ManagedResourceCandidate) (identity : ManagedResourceIdentity) : Prop :=
  identity.instanceId = conflictingLabelValues ∨ identity.ownerId = conflictingLabelValues ∨
    Carries candidate.labels "storage-ref" identity.prefixes conflictingLabelValues

/-- The role that is looked for is taken from the name or the options, over labels that do not agree. -/
def Stray (candidate : ManagedResourceCandidate) (identity : ManagedResourceIdentity) : Prop :=
  identity.networkRole.isSome = true ∧ candidate.kind = .network ∧ ¬ RoleAgrees candidate identity.prefixes

end OpenApp.Docker
