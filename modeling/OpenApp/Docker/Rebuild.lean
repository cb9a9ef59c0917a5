import OpenApp.Async.Outcome
import OpenApp.Script
import OpenApp.Workspace.Types

/-!
# Rebuilds of a container

A rebuild leaves its containers under four names: the canonical one, that of the candidate, that of the
one before it, and that of a candidate that is rolled back. One function says from them how a
transaction stands, and another one carries on after a crash.

The containers are those that were found under the four names. A container's id is what Docker says it is,
64 hexadecimal digits, so the check of `requireDockerContainerId` never fails here.
-/

namespace OpenApp.Docker

open Async Async.Prog

def isHexDigit (c : Char) : Bool :=
  c.isDigit || ('a' ≤ c && c ≤ 'f') || ('A' ≤ c && c ≤ 'F')

/-- `/^[a-f0-9]{64}$/iu` -/
def DOCKER_CONTAINER_ID_PATTERN (value : String) : Bool :=
  value.toList.length = 64 && value.toList.all isHexDigit

def DockerContainerId := { value : String // DOCKER_CONTAINER_ID_PATTERN value = true }

def requireDockerContainerId (value : DockerContainerId) : String :=
  Script.toLowerCase value.1

inductive ContainerState
  | creating
  | running
  | stopped
  | failed
  deriving DecidableEq

structure RebuildContainerMetadata where
  id : String
  predecessorId : String
  startRequested : Bool
  sourceCatalogSnapshot : Option ContainerCatalogSnapshot
  deriving DecidableEq

structure InspectedContainer where
  ownerId : String
  runtimeId : DockerContainerId
  state : ContainerState
  catalogSnapshot : Option ContainerCatalogSnapshot
  neverStarted : Bool
  rebuild : Option RebuildContainerMetadata
  containerHostname : Option String

/-- The names of the containers of a rebuild. -/
inductive Slot
  | canonical
  | candidate
  | previous
  | rollback
  deriving DecidableEq

/-- What stands under each name. -/
def RebuildArtifacts := Slot → Option InspectedContainer

namespace RebuildArtifacts

variable (artifacts : RebuildArtifacts)

def canonical : Option InspectedContainer := artifacts .canonical

def candidate : Option InspectedContainer := artifacts .candidate

def previous : Option InspectedContainer := artifacts .previous

def rollbackOccupant : Option InspectedContainer := artifacts .rollback

/-- The occupant, where it has the metadata of a rebuild. -/
def rollback : Option InspectedContainer :=
  artifacts.rollbackOccupant.filter (·.rebuild.isSome)

def owners : List String :=
  [artifacts.canonical, artifacts.candidate, artifacts.previous, artifacts.rollbackOccupant].filterMap
    fun slot => slot.map (·.ownerId)

end RebuildArtifacts

/-! ## How a transaction stands -/

inductive ContainerRebuildTransactionStatus
  | pending
  | committed
  | inconsistent
  | notFound
  deriving DecidableEq

def rebuildArtifactsHaveSingleOwner (artifacts : RebuildArtifacts) : Bool :=
  artifacts.owners.dedup.length ≤ 1

def canonicalRebuildTransactionStatus (artifacts : RebuildArtifacts) (transactionId : String)
    (canonicalRebuild : RebuildContainerMetadata) (candidateRebuild rollbackRebuild : Option RebuildContainerMetadata) :
    ContainerRebuildTransactionStatus :=
  if rollbackRebuild.any (·.id = transactionId) then .inconsistent
  else match artifacts.previous with
    | none => if candidateRebuild.any (·.id = transactionId) then .inconsistent else .committed
    | some previous =>
      if canonicalRebuild.predecessorId ≠ requireDockerContainerId previous.runtimeId then .inconsistent
      else if artifacts.candidate.isSome ∧
          (candidateRebuild.all (fun rebuild => rebuild.id ≠ transactionId ∨
            rebuild.predecessorId ≠ requireDockerContainerId previous.runtimeId)) then .inconsistent
      else .pending

/-- The metadata name the container that stands before it. -/
def namesPredecessor (rebuild : RebuildContainerMetadata) (predecessor : Option InspectedContainer) : Bool :=
  predecessor.any fun predecessor => rebuild.predecessorId = requireDockerContainerId predecessor.runtimeId

def sideCandidateTransactionStatus (artifacts : RebuildArtifacts) (candidateRebuild : RebuildContainerMetadata) :
    ContainerRebuildTransactionStatus :=
  if artifacts.rollback.isSome ∨ artifacts.canonical.isSome ∧ artifacts.previous.isSome then .inconsistent
  else if namesPredecessor candidateRebuild (artifacts.previous <|> artifacts.canonical) then .pending
  else .inconsistent

def rollbackTransactionStatus (artifacts : RebuildArtifacts) (rollbackRebuild : RebuildContainerMetadata) :
    ContainerRebuildTransactionStatus :=
  if artifacts.candidate.isSome ∨ artifacts.canonical.isSome ∧ artifacts.previous.isSome then .inconsistent
  else if namesPredecessor rollbackRebuild (artifacts.previous <|> artifacts.canonical) then .pending
  else .inconsistent

def rebuildTransactionStatus (artifacts : RebuildArtifacts) (transactionId : String) :
    ContainerRebuildTransactionStatus :=
  if rebuildArtifactsHaveSingleOwner artifacts = false then .inconsistent
  else if artifacts.rollbackOccupant.isSome ∧ artifacts.rollback.isNone then .inconsistent
  else
    let canonicalRebuild := artifacts.canonical.bind (·.rebuild)
    let candidateRebuild := artifacts.candidate.bind (·.rebuild)
    let rollbackRebuild := artifacts.rollback.bind (·.rebuild)
    match canonicalRebuild.filter (·.id = transactionId) with
    | some rebuild => canonicalRebuildTransactionStatus artifacts transactionId rebuild candidateRebuild rollbackRebuild
    | none =>
      match candidateRebuild.filter (·.id = transactionId) with
      | some rebuild => sideCandidateTransactionStatus artifacts rebuild
      | none =>
        match rollbackRebuild.filter (·.id = transactionId) with
        | some rebuild => rollbackTransactionStatus artifacts rebuild
        | none => .notFound

/-! ## Recovery -/

/-- What recovery finds wrong with the containers. -/
inductive Conflict
  /-- `container ${name} ownership mismatch` -/
  | ownership (slot : Slot)
  /-- `rebuild container ownership mismatch` -/
  | rebuildOwnership
  /-- `unlabeled rebuild rollback artifact requires attention` -/
  | unlabeledRollback
  /-- `ambiguous rebuild rollback artifacts` -/
  | ambiguousRollback
  /-- `rebuild rollback predecessor is missing` -/
  | predecessorMissing
  /-- `rebuild predecessor metadata mismatch` -/
  | predecessorMetadata
  /-- `rebuild transaction metadata mismatch` -/
  | transactionMetadata
  deriving DecidableEq

/-- What a command of Docker comes back with. -/
inductive CommandFailure
  | docker (message : String)
  /-- `ContainerRuntimeSafetyError`, or an error it is the cause of -/
  | safety (code : String)
  /-- the reason of the signal -/
  | aborted (reason : String)
  deriving DecidableEq

inductive RecoveryFailure
  | conflict (conflict : Conflict)
  /-- `managed rebuild candidate changed before rollback fencing` -/
  | changed
  | command (failure : CommandFailure)
  deriving DecidableEq

inductive DockerOp
  | inspectRebuildArtifacts
  | inspectContainerByName (slot : Slot)
  /-- `rm --force` -/
  | rm (slot : Slot)
  | rename (source target : Slot)
  | start (slot : Slot)
  | stop (slot : Slot)
  | probeContainerHealth (slot : Slot)
  /-- a helper container with the volume -/
  | recoverStateLocks (runtimeId : DockerContainerId) (recoveryId : String)
  /-- the reason of the signal, once it is aborted -/
  | aborted

abbrev DockerOp.Answer : DockerOp → Type
  | .inspectRebuildArtifacts => RebuildArtifacts
  | .inspectContainerByName _ => Option InspectedContainer
  | .aborted => Option CommandFailure
  | _ => Unit

/-- The signal is read without asking Docker. -/
def DockerOp.isCommand : DockerOp → Bool
  | .aborted => false
  | _ => true

abbrev Task (α : Type) := Prog DockerOp DockerOp.Answer RecoveryFailure α

def await (o : DockerOp) : Task o.Answer := Prog.await o

def onlyIf (condition : Prop) [Decidable condition] (o : DockerOp) : Task Unit :=
  if condition then do
    let _ ← await o
    pure ()
  else pure ()

structure RebuildRecoveryContext where
  ownerId : String
  restoreRunning : Bool
  preserveDeferredCandidate : Bool

def requireRebuildArtifactOwnership (artifacts : RebuildArtifacts) (ownerId : String) : Except RecoveryFailure Unit :=
  match [Slot.canonical, .candidate, .previous, .rollback].find? fun slot =>
    (artifacts slot).any (·.ownerId ≠ ownerId) with
  | some slot => .error (.conflict (.ownership slot))
  | none => .ok ()

def requireStagedReplacement (canonical previous : InspectedContainer) :
    Except RecoveryFailure RebuildContainerMetadata :=
  if canonical.ownerId ≠ previous.ownerId then .error (.conflict .rebuildOwnership)
  else match canonical.rebuild with
    | none => .error (.conflict .predecessorMetadata)
    | some rebuild =>
      if rebuild.predecessorId ≠ requireDockerContainerId previous.runtimeId then .error (.conflict .predecessorMetadata)
      else .ok rebuild

/-- A candidate beside the canonical container is of the same rebuild. -/
def requireSameTransaction (artifacts : RebuildArtifacts) (previous : InspectedContainer)
    (canonicalRebuild : RebuildContainerMetadata) : Except RecoveryFailure Unit :=
  match artifacts.candidate with
  | none => .ok ()
  | some candidate => do
    let candidateRebuild ← requireStagedReplacement candidate previous
    if candidateRebuild.id ≠ canonicalRebuild.id then .error (.conflict .transactionMetadata) else .ok ()

namespace RebuildRecoveryContext

variable (context : RebuildRecoveryContext)

def shouldRestoreRunning (startRequested : Bool) : Bool :=
  context.restoreRunning || (context.preserveDeferredCandidate && startRequested)

/-- Where the signal is aborted, its reason is what is thrown. -/
def throwIfAborted : Task Unit := do
  match ← await .aborted with
  | some reason => throw (.command reason)
  | none => pure ()

def fenceFailedCandidate (name rollbackName : Slot) (runtimeId : DockerContainerId) (recoveryId : String) : Task Unit := do
  match ← await (.inspectContainerByName name) with
  | none => throw .changed
  | some candidate => do
    throwIf (candidate.ownerId ≠ context.ownerId ∨ candidate.runtimeId.1 ≠ runtimeId.1) .changed
    await (.stop name)
    onlyIf (name ≠ rollbackName) (.rename name rollbackName)
    onlyIf (candidate.neverStarted = false) (.recoverStateLocks runtimeId recoveryId)

/-- The canonical container stands alone, and is the one that was expected. -/
def committed (artifacts : RebuildArtifacts) (rollbackOccupant : Option InspectedContainer)
    (candidateId : DockerContainerId) (rebuild : RebuildContainerMetadata) : Bool :=
  artifacts.canonical.any (fun canonical => canonical.runtimeId.1 = candidateId.1 && canonical.ownerId = context.ownerId &&
      canonical.rebuild.any fun found => found.id = rebuild.id && found.predecessorId = rebuild.predecessorId &&
        found.startRequested = rebuild.startRequested) &&
    artifacts.candidate.isNone && artifacts.previous.isNone && rollbackOccupant.isNone

/-- The containers, and what stands at the name of the rollback. -/
def inspectAgain : Task (RebuildArtifacts × Option InspectedContainer) := do
  let artifacts ← await .inspectRebuildArtifacts
  match artifacts.rollback with
  | some rollback => pure (artifacts, some rollback)
  | none => do
    let rollbackOccupant ← await (.inspectContainerByName .rollback)
    pure (artifacts, rollbackOccupant)

def removeRebuildPredecessor (candidateId : DockerContainerId) (rebuild : RebuildContainerMetadata) : Task Unit := do
  match ← settle (await (.rm .previous)) with
  | .ok _ => pure ()
  | .error error => do
    throwIfAborted
    let inspected ← settle inspectAgain
    throwIfAborted
    match inspected with
    | .ok (artifacts, rollbackOccupant) =>
      throwIf (context.committed artifacts rollbackOccupant candidateId rebuild = false) error
    | .error _ => throw error

/-- The canonical container runs and is healthy, and what it replaced is gone. -/
def commitHealthyCanonical (canonical : InspectedContainer) : Task Bool := do
  match canonical.rebuild with
  | none => pure false
  | some rebuild =>
    if canonical.state ≠ .running then pure false
    else do
      match ← settle (await (.probeContainerHealth .canonical)) with
      | .error error => do
        throwIfAborted
        match error with
        | .command (.safety code) => throw (.command (.safety code))
        | _ => pure false
      | .ok _ => do
        match ← settle (context.removeRebuildPredecessor canonical.runtimeId rebuild) with
        | .ok _ => pure true
        | .error _ => do
          throwIfAborted
          pure false

def recoverRollbackArtifact (artifacts : RebuildArtifacts) (rollback : InspectedContainer) :
    Task (Option ContainerCatalogSnapshot) := do
  throwIf (artifacts.candidate.isSome ∨ artifacts.canonical.isSome ∧ artifacts.previous.isSome) (.conflict .ambiguousRollback)
  match artifacts.previous <|> artifacts.canonical with
  | none => throw (.conflict .predecessorMissing)
  | some predecessor => do
    let rollbackMetadata ← fromExcept (requireStagedReplacement rollback predecessor)
    context.fenceFailedCandidate .rollback .rollback rollback.runtimeId rollbackMetadata.id
    onlyIf artifacts.previous.isSome (.rename .previous .canonical)
    onlyIf (context.shouldRestoreRunning rollbackMetadata.startRequested ∧ predecessor.state ≠ .running) (.start .canonical)
    await (.rm .rollback)
    pure rollbackMetadata.sourceCatalogSnapshot

def recoverCanonicalWithPrevious (artifacts : RebuildArtifacts) (canonical previous : InspectedContainer) :
    Task (Option ContainerCatalogSnapshot) := do
  let canonicalRebuild ← fromExcept (requireStagedReplacement canonical previous)
  fromExcept (requireSameTransaction artifacts previous canonicalRebuild)
  onlyIf artifacts.candidate.isSome (.rm .candidate)
  let healthy ← context.commitHealthyCanonical canonical
  if healthy then pure none
  else if context.preserveDeferredCandidate ∧ canonicalRebuild.startRequested = false ∧ canonical.state ≠ .running then
    -- a candidate that is to stay stopped is kept for its first start
    pure none
  else do
    context.fenceFailedCandidate .canonical .rollback canonical.runtimeId canonicalRebuild.id
    await (.rename .previous .canonical)
    onlyIf (context.shouldRestoreRunning (canonicalRebuild.startRequested || canonical.state = .running) ∧
      previous.state ≠ .running) (.start .canonical)
    await (.rm .rollback)
    pure canonicalRebuild.sourceCatalogSnapshot

def recoverCanonicalArtifact (artifacts : RebuildArtifacts) (canonical : InspectedContainer) :
    Task (Option ContainerCatalogSnapshot) := do
  match artifacts.candidate with
  | none => do
    onlyIf (context.restoreRunning ∧ canonical.state ≠ .running) (.start .canonical)
    pure none
  | some candidate => do
    let candidateRebuild ← fromExcept (requireStagedReplacement candidate canonical)
    await (.rename .candidate .rollback)
    onlyIf (context.shouldRestoreRunning candidateRebuild.startRequested ∧ canonical.state ≠ .running) (.start .canonical)
    await (.rm .rollback)
    pure candidateRebuild.sourceCatalogSnapshot

def recoverPreviousArtifact (artifacts : RebuildArtifacts) (previous : InspectedContainer) :
    Task (Option ContainerCatalogSnapshot) := do
  match artifacts.candidate with
  | none => do
    await (.rename .previous .canonical)
    onlyIf (context.shouldRestoreRunning false ∧ previous.state ≠ .running) (.start .canonical)
    pure none
  | some candidate => do
    let candidateRebuild ← fromExcept (requireStagedReplacement candidate previous)
    await (.rename .candidate .rollback)
    await (.rename .previous .canonical)
    onlyIf (context.shouldRestoreRunning candidateRebuild.startRequested ∧ previous.state ≠ .running) (.start .canonical)
    await (.rm .rollback)
    pure candidateRebuild.sourceCatalogSnapshot

/-- What `#recoverRebuildArtifacts` makes of the containers it has found. -/
def recoverArtifacts (artifacts : RebuildArtifacts) : Task (Option ContainerCatalogSnapshot) := do
  fromExcept (requireRebuildArtifactOwnership artifacts context.ownerId)
  match artifacts.rollback with
  | some rollback => context.recoverRollbackArtifact artifacts rollback
  | none => do
    throwIf artifacts.rollbackOccupant.isSome (.conflict .unlabeledRollback)
    match artifacts.canonical, artifacts.previous with
    | some canonical, some previous => context.recoverCanonicalWithPrevious artifacts canonical previous
    | some canonical, none => context.recoverCanonicalArtifact artifacts canonical
    | none, some previous => context.recoverPreviousArtifact artifacts previous
    | none, none => do
      onlyIf artifacts.candidate.isSome (.rm .candidate)
      pure none

def recoverRebuildArtifacts : Task (Option ContainerCatalogSnapshot) := do
  let artifacts ← await .inspectRebuildArtifacts
  context.recoverArtifacts artifacts

end RebuildRecoveryContext

/-! ## Docker -/

/-- A command succeeds or fails, with its effect or without. -/
inductive DockerChoice
  | go
  | fails (failure : CommandFailure) (takesEffect : Bool)
  /-- the signal was aborted by then -/
  | aborted (reason : CommandFailure)

namespace RebuildArtifacts

variable (artifacts : RebuildArtifacts)

def put (slot : Slot) (container : Option InspectedContainer) : RebuildArtifacts :=
  fun other => if other = slot then container else artifacts other

@[simp] theorem put_same (slot : Slot) (container : Option InspectedContainer) :
    artifacts.put slot container slot = container := if_pos rfl

theorem put_of_ne {slot other : Slot} (h : other ≠ slot) (container : Option InspectedContainer) :
    artifacts.put slot container other = artifacts other := if_neg h

/-- What a command does to the containers, where it can do it. -/
def effect : DockerOp → Option RebuildArtifacts
  | .rm slot => some (artifacts.put slot none)
  | .rename source target =>
    match artifacts source, artifacts target with
    | some container, none => some ((artifacts.put source none).put target (some container))
    | _, _ => none
  | .start slot => (artifacts slot).map fun container => artifacts.put slot (some { container with state := .running })
  | .stop slot => (artifacts slot).map fun container => artifacts.put slot (some { container with state := .stopped })
  | _ => some artifacts

def answer : (o : DockerOp) → o.Answer
  | .inspectRebuildArtifacts => artifacts
  | .inspectContainerByName slot => artifacts slot
  | .aborted => none
  | .rm _ | .rename _ _ | .start _ | .stop _ | .probeContainerHealth _ | .recoverStateLocks _ _ => ()

def perform (o : DockerOp) : DockerChoice → Option (Except RecoveryFailure o.Answer × RebuildArtifacts)
  | .go => (artifacts.effect o).map fun artifacts' => (.ok (artifacts.answer o), artifacts')
  | .fails failure takesEffect =>
    if o.isCommand = false then none
    else if takesEffect then (artifacts.effect o).map fun artifacts' => (.error (.command failure), artifacts')
    else some (.error (.command failure), artifacts)
  | .aborted reason =>
    match o with
    | .aborted => some (.ok (some reason), artifacts)
    | _ => none

end RebuildArtifacts

end OpenApp.Docker
