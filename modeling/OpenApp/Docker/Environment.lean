import OpenApp.Async.Outcome
import OpenApp.Docker.ContainerLabels
import OpenApp.Docker.Resources
import OpenApp.Workspace.Types

/-!
# The environment of an instance

An instance has up to four containers, two networks and a volume. They are looked for under the names of the
present configuration, then under those of former ones, then by their labels; the runtime remembers the names it
has found. A removal finds and checks them all, stops the containers, recovers the locks in the volume, and
removes the containers and the networks.

Docker gives an inspected network or volume the name it was asked for.
-/

namespace OpenApp.Docker.Environment

open Async Async.Prog Script
open ContainerLabels (IDENTIFIER_PATTERN requireIdentifier catalogSnapshotMetadata rebuildMetadata)

structure RuntimeConfig where
  namePrefix : String
  networkPrefix : String
  volumePrefix : String
  legacyNamePrefixes : List String
  legacyNetworkPrefixes : List String
  legacyVolumePrefixes : List String
  labelPrefixes : List String
  /-- `resourceDiscovery !== false` -/
  resourceDiscovery : Bool
  /-- `endpointMode === "network"` -/
  networkEndpoint : Bool
  portalContainer : Option String
  storageMountPath : String
  recoveryCommand : Option (List String)

structure RemoveContainerEnvironmentRequest where
  instanceId : String
  ownerId : String
  storageBindings : Option (List StorageBinding)

/-! ## What goes wrong -/

structure DockerError where
  message : String
  /-- `error.name === "DockerCommandError"` -/
  fromCommand : Bool
  dockerExitCode : Option Int
  deriving DecidableEq

inductive RuntimeFailure
  | docker (error : DockerError)
  /-- the reason of the signal -/
  | aborted (reason : String)
  | resolution (error : ManagedResourceResolutionError)
  /-- `container ${name} ownership mismatch` -/
  | ownership (name : String)
  /-- `runtime_recovery_blocked` -/
  | recoveryBlocked
  | invalid (message : String)

/-- The message has one of the texts in it, in whatever case. -/
def mentions (texts : List String) (error : DockerError) : Bool :=
  texts.any fun text => decide ((toLowerCase text).toList <:+: (toLowerCase error.message).toList)

def isUnsupportedResourceDiscoveryError (error : DockerError) : Bool :=
  if error.fromCommand = false then false
  else if error.dockerExitCode = some 97 then true
  else if error.dockerExitCode ≠ some 125 then
    mentions ["unknown command", "unsupported", "unrecognized option", "invalid option"] error
  else !mentions ["daemon", "permission", "connect", "connection refused", "socket", "not found"] error

/-! ## What Docker has and does -/

structure ContainerInspect where
  id : DockerContainerId
  labels : Labels
  status : String
  startedAt : String
  hostname : Option String

/-- A network or a volume. -/
structure ResourceInspect where
  id : Option String
  labels : Labels
  internal : Option Bool
  options : Option (String → Option String)

/-- What the names of a runtime are remembered by. -/
inductive RefKey
  | container
  | network (role : ManagedNetworkRole)
  | volume (storageId : Option String)
  deriving DecidableEq

def RefKey.kind : RefKey → ManagedResourceKind
  | .container => .container
  | .network _ => .network
  | .volume _ => .volume

inductive RuntimeOp
  | inspectContainer (name : String)
  | inspectResource (kind : ManagedResourceKind) (name : String)
  /-- the names of what has the instance's label in the namespace -/
  | list (kind : ManagedResourceKind) (labelPrefix : String)
  | stop (name : String)
  | rm (name : String)
  | disconnect (networkName portalContainer : String)
  | resourceRm (kind : ManagedResourceKind) (name : String)
  /-- a helper container with the volume -/
  | run (volumeName : String) (ids hostnames : List String) (recoveryId : String)
  /-- the reason of the signal, once it is aborted -/
  | aborted
  | ref (key : RefKey)
  | remember (key : RefKey) (name : String)
  | forget (kind : ManagedResourceKind) (name : String)

abbrev RuntimeOp.Answer : RuntimeOp → Type
  | .inspectContainer _ => ContainerInspect
  | .inspectResource _ _ => ResourceInspect
  | .list _ _ => List String
  | .aborted => Option String
  | .ref _ => Option String
  | _ => Unit

abbrev Task (α : Type) := Prog RuntimeOp RuntimeOp.Answer RuntimeFailure α

def await (o : RuntimeOp) : Task o.Answer := Prog.await o

def throwIfAborted : Task Unit := do
  match ← await .aborted with
  | some reason => throw (.aborted reason)
  | none => pure ()

/-- A command is not given where the signal is aborted; its reason is thrown instead. -/
def docker (command : RuntimeOp) : Task command.Answer :=
  await command

def onlyIf (condition : Prop) [Decidable condition] (task : Task Unit) : Task Unit :=
  if condition then task else pure ()

/-- A failure with one of the texts is nothing to worry about. -/
def allowing (texts : List String) (failure : RuntimeFailure) : Task Unit :=
  match failure with
  | .docker error => throwIf (mentions texts error = false) (.docker error)
  | other => throw other

/-! ## One container -/

/-- `/^(?=.{1,64}$)[a-z0-9](?:[a-z0-9_.-]*[a-z0-9])?$/iu`, where the long s is an s as well. -/
def DOCKER_CONTAINER_HOSTNAME_PATTERN (value : String) : Bool :=
  let isEdge (c : Char) : Bool := c.isAlphanum || c.toNat = 0x17f || c.toNat = 0x212a
  let cs := value.toList
  cs.length ≤ 64 && cs.head?.any isEdge && cs.getLast?.any isEdge &&
    cs.all fun c => isEdge c || c = '_' || c = '.' || c = '-'

def readDockerContainerHostname (value : Option String) : Except RuntimeFailure (Option String) :=
  match value.filter truthy with
  | none => .ok none
  | some value =>
    let hostname := toLowerCase (trim value)
    if DOCKER_CONTAINER_HOSTNAME_PATTERN hostname then .ok (some hostname)
    else .error (.invalid "Docker returned an invalid managed container hostname")

def mapState (status : String) : ContainerState :=
  if status = "running" then .running
  else if status = "created" then .stopped
  else if status = "restarting" then .creating
  else if status = "exited" ∨ status = "dead" then .stopped
  else .failed

structure FoundContainer extends InspectedContainer where
  resourceName : Option String

/-- A text is thrown as it is. -/
def orInvalid {α : Type} : Except String α → Except RuntimeFailure α
  | .ok a => .ok a
  | .error message => .error (.invalid message)

section Runtime

variable (config : RuntimeConfig) (instanceId : String)

/-- The labels of a container, whoever its owner is. -/
def requireManagedLabels (labels : Labels) : Except RuntimeFailure String :=
  let managed := resourceLabel labels "managed" config.labelPrefixes
  let actualInstance := resourceLabel labels "instance-id" config.labelPrefixes
  let actualOwner := resourceLabel labels "owner-id" config.labelPrefixes
  match actualOwner.filter truthy with
  | some owner =>
    if managed ≠ some "true" ∨ actualInstance ≠ some instanceId then
      .error (.resolution ⟨.resource_identity_mismatch, .container, instanceId, owner, []⟩)
    else orInvalid (requireIdentifier owner "container ownerId")
  | none => .error (.resolution ⟨.resource_identity_mismatch, .container, instanceId, actualOwner.getD "unknown-owner", []⟩)

def toInstance (inspect : ContainerInspect) (actualName : String) : Except RuntimeFailure FoundContainer := do
  let ownerId ← requireManagedLabels config instanceId inspect.labels
  let catalogSnapshot ← orInvalid (catalogSnapshotMetadata inspect.labels "" config.labelPrefixes)
  let rebuild ← orInvalid (rebuildMetadata inspect.labels config.labelPrefixes)
  let containerHostname ← readDockerContainerHostname inspect.hostname
  return {
    ownerId
    runtimeId := inspect.id
    state := mapState inspect.status
    catalogSnapshot
    neverStarted := inspect.status = "created" && inspect.startedAt = "0001-01-01T00:00:00Z"
    rebuild
    containerHostname
    resourceName := if actualName ≠ config.namePrefix ++ instanceId then some actualName else none }

def inspectContainerByName (name : String) : Task (Option FoundContainer) :=
  tryCatch
    (do
      let inspect ← docker (.inspectContainer name)
      let found ← fromExcept (toInstance config instanceId inspect name)
      pure (some found))
    fun failure => do
      throwIfAborted
      allowing ["No such object", "No such container", "No such inspect", "not found"] failure
      pure none

/-! ## Names -/

def containerName : Task String := do
  let name ← await (.ref .container)
  pure (name.getD (config.namePrefix ++ instanceId))

/-- The name of a network as it is configured. -/
def configuredNetworkName : ManagedNetworkRole → String
  | .private => config.networkPrefix ++ instanceId
  | .egress => config.networkPrefix ++ instanceId ++ "-egress"

def networkName (role : ManagedNetworkRole) : Task String := do
  let name ← await (.ref (.network role))
  pure (name.getD (configuredNetworkName config instanceId role))

def volumeName : Task String := do
  let name ← await (.ref (.volume (some ("workspace-storage:" ++ instanceId))))
  pure (name.getD (config.volumePrefix ++ instanceId))

/-- The names that were listed, namespace by namespace, until there are some. -/
def listManagedResourceNames (kind : ManagedResourceKind) : List String → Task (List String)
  | [] => pure []
  | labelPrefix :: labelPrefixes => do
    match ← settle (docker (.list kind labelPrefix)) with
    | .ok listed =>
      let names := (listed.filter IDENTIFIER_PATTERN).eraseDups
      if names.isEmpty then listManagedResourceNames kind labelPrefixes else pure names
    | .error (.docker error) =>
      if isUnsupportedResourceDiscoveryError error ∨ error.fromCommand = false then
        listManagedResourceNames kind labelPrefixes
      else throw (.docker error)
    -- the reason of a signal is no failure of a command
    | .error _ => listManagedResourceNames kind labelPrefixes

def REBUILD_ARTIFACT_SUFFIXES : List String := ["-rebuild-next", "-rebuild-previous", "-rebuild-rollback"]

/-- The name without the ending of a rebuild's container, where it has one. -/
def rebuildArtifactBase (name : String) : Option String :=
  (REBUILD_ARTIFACT_SUFFIXES.find? fun suffix => decide (suffix.toList <:+ name.toList)).map fun suffix =>
    String.ofList (name.toList.take (name.toList.length - suffix.toList.length))

def isRebuildArtifactName (name : String) : Bool :=
  (rebuildArtifactBase name).isSome

/-! ## The containers -/

/-- `resource_identity_ambiguous` -/
def ambiguous (kind : ManagedResourceKind) (ownerId : String) (names : List String) : RuntimeFailure :=
  .resolution ⟨.resource_identity_ambiguous, kind, instanceId, ownerId, names⟩

/-- Look under each of the names that is not left out; a second container is one too many. -/
def searchContainers (leftOut : String → Bool) :
    List String → Option (String × FoundContainer) → Task (Option (String × FoundContainer))
  | [], found => pure found
  | name :: names, found =>
    if leftOut name ∨ found.any (·.1 = name) then searchContainers leftOut names found
    else do
      match ← inspectContainerByName config instanceId name with
      | none => searchContainers leftOut names found
      | some container =>
        match found with
        | some (foundName, other) => throw (ambiguous instanceId .container other.ownerId [foundName, name])
        | none => searchContainers leftOut names (some (name, container))

def discoverContainers (legacyNames : List String) (found : Option (String × FoundContainer)) :
    Task (Option (String × FoundContainer)) :=
  if config.resourceDiscovery then do
    let discovered ← listManagedResourceNames .container config.labelPrefixes
    searchContainers config instanceId (fun name => legacyNames.contains name || isRebuildArtifactName name) discovered found
  else pure found

def inspectContainer : Task (Option FoundContainer) := do
  let requestedName ← containerName config instanceId
  match ← inspectContainerByName config instanceId requestedName with
  | some current => do
    await (.remember .container requestedName)
    pure (some current)
  | none => do
    let legacyNames := (config.legacyNamePrefixes.map (· ++ instanceId)).eraseDups
    let found ← searchContainers config instanceId (fun name => name = requestedName) legacyNames none
    let found ← discoverContainers config instanceId legacyNames found
    match found with
    | some (foundName, container) => do
      await (.remember .container foundName)
      pure (some container)
    | none => do
      await (.forget .container requestedName)
      pure none

def slotName (canonicalName : String) : Slot → String
  | .canonical => canonicalName
  | .candidate => canonicalName ++ "-rebuild-next"
  | .previous => canonicalName ++ "-rebuild-previous"
  | .rollback => canonicalName ++ "-rebuild-rollback"

structure SideArtifacts where
  candidate : Option FoundContainer
  previous : Option FoundContainer
  rollbackOccupant : Option FoundContainer

def SideArtifacts.isEmpty (sides : SideArtifacts) : Bool :=
  sides.candidate.isNone && sides.previous.isNone && sides.rollbackOccupant.isNone

/-- The three are asked for at once; what each of them is told does not depend on the others. -/
def inspectSides (base : String) : Task SideArtifacts := do
  let candidate ← inspectContainerByName config instanceId (slotName base .candidate)
  let previous ← inspectContainerByName config instanceId (slotName base .previous)
  let rollbackOccupant ← inspectContainerByName config instanceId (slotName base .rollback)
  pure { candidate, previous, rollbackOccupant }

def searchSides : List String → Option String × SideArtifacts → Task (Option String × SideArtifacts)
  | [], found => pure found
  | base :: bases, (selectedBase, sides) => do
    let baseArtifacts ← inspectSides config instanceId base
    if baseArtifacts.isEmpty then searchSides bases (selectedBase, sides)
    else do
      throwIf (selectedBase.any (· ≠ base)) (ambiguous instanceId .container "unknown-owner" [selectedBase.getD "", base])
      searchSides bases (some base, baseArtifacts)

/-- The containers of a rebuild whose base is under none of the names that are known. -/
def discoverSides (found : Option String × SideArtifacts) : Task (Option String × SideArtifacts) :=
  if found.1.isNone ∧ config.resourceDiscovery = true then do
    let discoveredNames ← listManagedResourceNames .container config.labelPrefixes
    let bases := (discoveredNames.filterMap rebuildArtifactBase).eraseDups
    throwIf (1 < bases.length) (ambiguous instanceId .container "unknown-owner" bases)
    match bases.head?.filter truthy with
    | none => pure found
    | some discoveredBase => do
      let sides ← inspectSides config instanceId discoveredBase
      pure (some discoveredBase, sides)
  else pure found

/-- The containers in the four slots, and the name of the canonical one. -/
structure EnvironmentArtifacts where
  canonicalName : String
  artifacts : Slot → Option FoundContainer

def canonicalOr (discoveredCanonical : Option FoundContainer) (canonicalName : String) : Task (Option FoundContainer) :=
  match discoveredCanonical with
  | some container => pure (some container)
  | none => inspectContainerByName config instanceId canonicalName

def inspectRebuildArtifacts : Task EnvironmentArtifacts := do
  let discoveredCanonical ← inspectContainer config instanceId
  let requestedName ← containerName config instanceId
  let base := (discoveredCanonical.bind (·.resourceName)).getD requestedName
  let legacyBases := if discoveredCanonical.isSome then [] else config.legacyNamePrefixes.map (· ++ instanceId)
  let found ← searchSides config instanceId (base :: legacyBases).eraseDups
    (discoveredCanonical.bind (·.resourceName), ⟨none, none, none⟩)
  let (selectedBase, sides) ← discoverSides config instanceId found
  let canonicalName := selectedBase.getD requestedName
  let canonical ← canonicalOr config instanceId discoveredCanonical canonicalName
  pure {
    canonicalName
    artifacts := fun
      | .canonical => canonical
      | .candidate => sides.candidate
      | .previous => sides.previous
      | .rollback => sides.rollbackOccupant }

def slots : List Slot := [.canonical, .candidate, .previous, .rollback]

def requireRebuildArtifactOwnership (found : EnvironmentArtifacts) (ownerId : String) : Except RuntimeFailure Unit :=
  match slots.find? fun slot => (found.artifacts slot).any (·.ownerId ≠ ownerId) with
  | some slot => .error (.ownership (slotName found.canonicalName slot))
  | none => .ok ()

/-! ## Networks and volumes -/

def kindName : ManagedResourceKind → String
  | .container => "container"
  | .network => "network"
  | .volume => "volume"

def candidateOf (kind : ManagedResourceKind) (name : String) (resource : ResourceInspect) : ManagedResourceCandidate where
  kind := kind
  name := name
  id := resource.id.filter truthy
  labels := resource.labels
  internal := resource.internal
  options := resource.options

def inspectManagedResourceByName (kind : ManagedResourceKind) (name : String) : Task (Option ManagedResourceCandidate) := do
  match ← settle (docker (.inspectResource kind name)) with
  | .ok resource => pure (some (candidateOf kind name resource))
  | .error failure => do
    throwIfAborted
    allowing ["No such " ++ kindName kind, "not found"] failure
    pure none

/-- The candidates that stand under the names, except those a condition leaves out. -/
def inspectCandidates (kind : ManagedResourceKind) (leftOut : ManagedResourceCandidate → Bool) :
    List String → Task (List ManagedResourceCandidate)
  | [] => pure []
  | name :: names => do
    let candidate ← inspectManagedResourceByName kind name
    let candidates ← inspectCandidates kind leftOut names
    pure ((candidate.filter fun candidate => leftOut candidate = false).toList ++ candidates)

def resourceAliasNames (kind : ManagedResourceKind) (requestedName : String) : List String :=
  let prefixes := if kind = .network then config.legacyNetworkPrefixes else config.legacyVolumePrefixes
  let ending := if kind = .network ∧ "-egress".toList <:+ requestedName.toList then "-egress" else ""
  (prefixes.map fun namePrefix => namePrefix ++ instanceId ++ ending).eraseDups.filter (· ≠ requestedName)

def discoveredNetworkHasOtherRole (candidate : ManagedResourceCandidate) (expectedRole : ManagedNetworkRole) : Bool :=
  if candidate.name = "" then false
  else (inferManagedNetworkRole { candidate with kind := .network } config.labelPrefixes).any (· ≠ expectedRole)

/-- What the selection is told of the resource that is looked for. -/
structure ResourceQuery where
  kind : ManagedResourceKind
  name : String
  ownerId : String
  networkPolicy : Option ManagedNetworkRole
  storageId : Option String
  allowMissingStorageRef : Bool

def ResourceQuery.identity (query : ResourceQuery) : ManagedResourceIdentity where
  instanceId := instanceId
  ownerId := query.ownerId
  networkRole := query.networkPolicy
  storageId := query.storageId.filter truthy
  allowLegacyStorageRef := if query.allowMissingStorageRef then some true else none
  legacyStorageNames :=
    if query.allowMissingStorageRef then some (query.name :: resourceAliasNames config instanceId query.kind query.name) else none
  requireCurrentScheme := none
  labelPrefixes := some config.labelPrefixes

def ResourceQuery.refKey (query : ResourceQuery) : RefKey :=
  match query.networkPolicy with
  | some role => .network role
  | none => .volume query.storageId

/-- The one candidate that qualifies, with the check of its isolation made again. -/
def selectResource (query : ResourceQuery) (candidates : List ManagedResourceCandidate) :
    Except RuntimeFailure ManagedResourceRef :=
  match selectManagedResource candidates (query.identity config instanceId) query.kind with
  | .error error => .error (.resolution error)
  | .ok selected =>
    if query.networkPolicy.any fun role => isolated selected.toManagedResourceCandidate role = false then
      .error (.resolution ⟨.resource_identity_mismatch, query.kind, instanceId, query.ownerId, [selected.name]⟩)
    else .ok selected

def selectAndRememberResource (query : ResourceQuery) (candidates : List ManagedResourceCandidate) :
    Task ManagedResourceRef := do
  let selected ← fromExcept (selectResource config instanceId query candidates)
  await (.remember query.refKey selected.name)
  pure selected

/-- The candidates where nothing stands under the name itself. -/
def otherCandidates (query : ResourceQuery) : Task (List ManagedResourceCandidate) := do
  let aliasNames := resourceAliasNames config instanceId query.kind query.name
  let candidates ← inspectCandidates query.kind (fun _ => false) aliasNames
  if candidates.isEmpty ∧ config.resourceDiscovery = true then do
    let discoveredNames ← listManagedResourceNames query.kind config.labelPrefixes
    inspectCandidates query.kind
      (fun candidate => query.networkPolicy.any (discoveredNetworkHasOtherRole config candidate))
      (discoveredNames.filter fun name => name ≠ query.name ∧ name ∉ aliasNames)
  else pure candidates

def inspectManagedResource (query : ResourceQuery) : Task (Option ManagedResourceRef) := do
  match ← inspectManagedResourceByName query.kind query.name with
  | some exact => some <$> selectAndRememberResource config instanceId query [exact]
  | none => do
    let candidates ← otherCandidates config instanceId query
    if candidates.isEmpty then pure none
    else some <$> selectAndRememberResource config instanceId query candidates

/-! ## The removal -/

def requestedBinding (bindings : Option (List StorageBinding)) (attachmentRef : String) : Option StorageBinding :=
  match bindings with
  | none => some
    { storageId := "workspace-storage:" ++ instanceId
      attachmentRef
      mountPath := config.storageMountPath
      readOnly := false }
  | some [binding] => some binding
  | some _ => none

def workspaceStorageBinding (bindings : Option (List StorageBinding)) : Task StorageBinding := do
  let attachmentRef ← volumeName config instanceId
  match requestedBinding config instanceId bindings attachmentRef with
  | none => throw (.invalid "exactly one workspace storage binding is required")
  | some binding => do
    throwIf (binding.storageId ≠ "workspace-storage:" ++ instanceId) (.invalid "workspace storage identity mismatch")
    throwIf (IDENTIFIER_PATTERN binding.attachmentRef = false) (.invalid "workspace storage attachment is unsafe")
    throwIf (binding.mountPath ≠ config.storageMountPath ∨ binding.readOnly = true)
      (.invalid "workspace storage mount contract mismatch")
    pure binding

def allowsLegacyStorageRef (binding : StorageBinding) : Bool :=
  binding.attachmentRef = config.volumePrefix ++ instanceId ||
    config.legacyVolumePrefixes.any fun volumePrefix => binding.attachmentRef = volumePrefix ++ instanceId

/-- The volume as the recovery of the locks asks for it. -/
def recoveryQuery (ownerId : String) (binding : StorageBinding) : ResourceQuery where
  kind := .volume
  name := binding.attachmentRef
  ownerId := ownerId
  networkPolicy := none
  storageId := some binding.storageId
  allowMissingStorageRef := allowsLegacyStorageRef config instanceId binding

/-- The helper's own exit code says that it would not go on. -/
def recoveryFailure : RuntimeFailure → RuntimeFailure
  | .docker error => if error.dockerExitCode = some 1 then .recoveryBlocked else .docker error
  | other => other

def runStateRecovery (volumeName : String) (ids hostnames : List String) (recoveryId : String) : Task Unit := do
  match ← settle (docker (.run volumeName ids hostnames recoveryId)) with
  | .ok _ => pure ()
  | .error failure => do
    throwIfAborted
    throw (recoveryFailure failure)

def recoverStateLocks (ownerId : String) (authorizedContainerIds : List DockerContainerId) (recoveryId : String)
    (binding : StorageBinding) (hostnames : List String) : Task Unit := do
  let ids := (authorizedContainerIds.map requireDockerContainerId).eraseDups
  if config.recoveryCommand.isNone then pure ()
  else do
    let hosts ← fromExcept (hostnames.mapM fun hostname => readDockerContainerHostname (some hostname))
    let hostnames := (hosts.filterMap id).eraseDups
    if ids.isEmpty ∧ hostnames.isEmpty then pure ()
    else do
      let recoveryId ← fromExcept (orInvalid (requireIdentifier recoveryId "rebuildId"))
      match ← inspectManagedResource config instanceId (recoveryQuery config instanceId ownerId binding) with
      | none => throw (.resolution ⟨.provider_resource_missing, .volume, instanceId, ownerId, [binding.attachmentRef]⟩)
      | some volume => runStateRecovery volume.name ids hostnames recoveryId

def stopContainerArtifact (name : String) : Task Unit :=
  tryCatch (docker (.stop name)) fun failure => do
    throwIfAborted
    allowing ["No such object", "No such container", "not found", "is not running"] failure

def removeContainerArtifact (name : String) : Task Unit := do
  tryCatch (docker (.rm name)) fun failure => do
    throwIfAborted
    allowing ["No such object", "No such container", "not found"] failure
  await (.forget .container name)

def removeManagedResource (kind : ManagedResourceKind) (name : String) : Task Unit := do
  tryCatch (docker (.resourceRm kind name)) fun failure => do
    throwIfAborted
    allowing ["No such " ++ kindName kind, "not found"] failure
  await (.forget kind name)

def disconnectPortal (networkName : String) : Task Unit :=
  match config.portalContainer with
  | none => throw (.invalid "Portal container is not configured for network endpoint mode")
  | some portalContainer =>
    tryCatch (docker (.disconnect networkName portalContainer))
      (allowing ["is not connected", "not found", "No such network", "No such container"])

/-- What a removal has found and checked. -/
structure ResolvedEnvironment where
  found : EnvironmentArtifacts
  volume : Option ManagedResourceRef
  network : Option ManagedResourceRef
  egressNetwork : Option ManagedResourceRef

def networkQuery (ownerId : String) (role : ManagedNetworkRole) (name : String) : ResourceQuery where
  kind := .network
  name := name
  ownerId := ownerId
  networkPolicy := some role
  storageId := none
  allowMissingStorageRef := false

/-- The volume as the removal asks for it: its storage reference counts where bindings were given. -/
def removalQuery (request : RemoveContainerEnvironmentRequest) (binding : StorageBinding) : ResourceQuery where
  kind := .volume
  name := binding.attachmentRef
  ownerId := request.ownerId
  networkPolicy := none
  storageId := if request.storageBindings.isNone then none else some binding.storageId
  allowMissingStorageRef := false

/-- Everything is found and checked before the first command that takes something away. -/
def resolveEnvironment (request : RemoveContainerEnvironmentRequest) (binding : StorageBinding) : Task ResolvedEnvironment := do
  let found ← inspectRebuildArtifacts config instanceId
  fromExcept (requireRebuildArtifactOwnership found request.ownerId)
  let volume ← inspectManagedResource config instanceId (removalQuery request binding)
  let privateName ← networkName config instanceId .private
  let network ← inspectManagedResource config instanceId (networkQuery request.ownerId .private privateName)
  let egressName ← networkName config instanceId .egress
  let egressNetwork ← inspectManagedResource config instanceId (networkQuery request.ownerId .egress egressName)
  pure { found, volume, network, egressNetwork }

/-- The containers that are there, with their names. -/
def ResolvedEnvironment.existingContainers (environment : ResolvedEnvironment) : List (String × FoundContainer) :=
  slots.filterMap fun slot =>
    (environment.found.artifacts slot).map fun container => (slotName environment.found.canonicalName slot, container)

def removeNetwork (network : Option ManagedResourceRef) (withPortal : Bool) : Task Unit :=
  match network with
  | none => pure ()
  | some network => do
    onlyIf (withPortal = true) (disconnectPortal config network.name)
    removeManagedResource .network network.name

def dismantle (request : RemoveContainerEnvironmentRequest) (binding : StorageBinding) (recoveryId : String)
    (environment : ResolvedEnvironment) : Task Unit := do
  let existingContainers := environment.existingContainers
  let _ ← each (fun existing => stopContainerArtifact existing.1) existingContainers
  onlyIf (environment.volume.isSome = true ∧ existingContainers.isEmpty = false)
    (recoverStateLocks config instanceId request.ownerId (existingContainers.map (·.2.runtimeId)) recoveryId binding
      (existingContainers.filterMap (·.2.containerHostname)))
  let _ ← each (fun existing => removeContainerArtifact existing.1) existingContainers
  removeNetwork config environment.network config.networkEndpoint
  removeNetwork config environment.egressNetwork false

end Runtime

/-- `recoveryId` is what a random identifier makes of `environment-removal-`. -/
def removeEnvironment (config : RuntimeConfig) (recoveryId : String) (request : RemoveContainerEnvironmentRequest) :
    Task Unit := do
  let instanceId ← fromExcept (orInvalid (requireIdentifier request.instanceId "instanceId"))
  let _ ← fromExcept (orInvalid (requireIdentifier request.ownerId "ownerId"))
  let binding ← workspaceStorageBinding config instanceId request.storageBindings
  throwIfAborted
  let environment ← resolveEnvironment config instanceId request binding
  dismantle config instanceId request binding recoveryId environment

/-! ## What becomes of it -/

/-- Everything Docker has, what the process remembers, and the commands that were given, the latest first. -/
structure World where
  containers : List (String × ContainerInspect)
  resources : ManagedResourceKind → List (String × ResourceInspect)
  refs : RefKey → Option String
  commands : List RuntimeOp

namespace World

variable (w : World)

def container (name : String) : Option ContainerInspect :=
  w.containers.lookup name

def resource (kind : ManagedResourceKind) (name : String) : Option ResourceInspect :=
  (w.resources kind).lookup name

/-- What has the label of the instance in the namespace. -/
def labelledNames (instanceId : String) (kind : ManagedResourceKind) (labelPrefix : String) : List String :=
  let labelled (labels : Labels) : Bool := labelAt labels labelPrefix "instance-id" = some instanceId
  match kind with
  | .container => (w.containers.filter fun container => labelled container.2.labels).map (·.1)
  | kind => ((w.resources kind).filter fun resource => labelled resource.2.labels).map (·.1)

def stopped (name : String) : World :=
  { w with containers := w.containers.map fun container =>
      (container.1, if container.1 = name then { container.2 with status := "exited" } else container.2) }

def withoutContainer (name : String) : World :=
  { w with containers := w.containers.filter (·.1 ≠ name) }

def withoutResource (kind : ManagedResourceKind) (name : String) : World :=
  { w with resources := Function.update w.resources kind ((w.resources kind).filter (·.1 ≠ name)) }

def withRef (key : RefKey) (name : String) : World :=
  { w with refs := Function.update w.refs key (some name) }

def withoutRefs (kind : ManagedResourceKind) (name : String) : World :=
  { w with refs := fun key => if key.kind = kind ∧ w.refs key = some name then none else w.refs key }

/-- What a command that succeeds answers and leaves; of what is not there it cannot succeed. -/
def carryOut (instanceId : String) : (o : RuntimeOp) → Option (o.Answer × World)
  | .inspectContainer name => (w.container name).map fun container => (container, w)
  | .inspectResource kind name => (w.resource kind name).map fun resource => (resource, w)
  | .list kind labelPrefix => some (w.labelledNames instanceId kind labelPrefix, w)
  | .stop name => (w.container name).map fun _ => ((), w.stopped name)
  | .rm name => (w.container name).map fun _ => ((), w.withoutContainer name)
  | .disconnect _ _ => some ((), w)
  | .resourceRm kind name => (w.resource kind name).map fun _ => ((), w.withoutResource kind name)
  | .run _ _ _ _ => some ((), w)
  | .aborted => some (none, w)
  | .ref key => some (w.refs key, w)
  | .remember key name => some ((), w.withRef key name)
  | .forget kind name => some ((), w.withoutRefs kind name)

end World

def RuntimeOp.isCommand : RuntimeOp → Bool
  | .aborted | .ref _ | .remember _ _ | .forget _ _ => false
  | _ => true

/-- The command stops, removes or disconnects something. -/
def RuntimeOp.isDestructive : RuntimeOp → Bool
  | .stop _ | .rm _ | .disconnect _ _ | .resourceRm _ _ => true
  | _ => false

def World.given (w : World) (o : RuntimeOp) : World :=
  if o.isCommand then { w with commands := o :: w.commands } else w

/-- A command takes effect, or fails without one. -/
inductive RuntimeChoice
  | go
  | fails (error : DockerError)
  /-- the signal was aborted by then -/
  | aborted (reason : String)

def perform (instanceId : String) (w : World) (o : RuntimeOp) :
    RuntimeChoice → Option (Except RuntimeFailure o.Answer × World)
  | .go => ((w.given o).carryOut instanceId o).map fun (answer, w') => (.ok answer, w')
  | .fails error => if o.isCommand then some (.error (.docker error), w.given o) else none
  | .aborted reason =>
    match o with
    | .aborted => some (.ok (some reason), w)
    | o => if o.isCommand then some (.error (.aborted reason), w) else none

end OpenApp.Docker.Environment
