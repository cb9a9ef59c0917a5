import OpenApp.Async.Interleave
import OpenApp.Catalog.Builds
import OpenApp.Keyed

/-!
# The executor of builds

A build that is queued is started, its strategy makes an image, and the image is recorded as the
artifact of the build. What is thrown on the way ends the build as failed or cancelled, as far as the
store lets it, and what the strategy had made is thrown away if the build was not recorded after all.

The executor shares the store with everyone who cancels or fails the build and with the recovery of
interrupted builds, and its signal may be aborted whenever it waits.
-/

namespace OpenApp.Catalog.Executor

open Async Async.Prog Keyed Script

/-! ## Builds and what is thrown -/

/-- What a build keeps of its strategy, with the key of the adapter that runs it. -/
structure StrategySnapshot where
  id : String
  revision : Nat
  runtimeContract : String
  deriving DecidableEq

structure Build where
  id : String
  strategySnapshot : StrategySnapshot
  operationId : Option String
  sourceAppVersionId : Option String
  status : ImageBuildStatus
  error : Option String
  startedAt : Option String
  finishedAt : Option String
  deriving DecidableEq

/-- `ImageBuildRecord` -/
structure Record where
  build : Build
  artifact : Option ImageArtifact
  deriving DecidableEq

/-- `StrategyBuildOutput`; a strategy need not offer to clean up. -/
structure StrategyBuildOutput where
  imageReference : String
  imageId : String
  cleanup : Bool
  deriving DecidableEq

inductive Failure
  | imageBuild (code : String) (status : Nat)
  | execution (code : String)
  | other (message : String)
  deriving DecidableEq

def Failure.message : Failure → String
  | imageBuild code _ => code
  | execution code => code
  | other message => message

def statusName : ImageBuildStatus → String
  | .queued => "queued"
  | .building => "building"
  | .succeeded => "succeeded"
  | .failed => "failed"
  | .cancelled => "cancelled"

def invalidTransition (current next : ImageBuildStatus) : Failure :=
  .imageBuild ("invalid_image_build_transition:" ++ statusName current ++ ":" ++ statusName next) 409

/-! ## The store -/

structure BuildStore where
  imageBuilds : Table Build.id
  imageArtifacts : Table ImageArtifact.id

namespace BuildStore

variable (s : BuildStore)

def getImageBuild (id : String) : Option Build :=
  s.imageBuilds.get id

/-- The status of the build, where there is one. -/
def status (id : String) : Option ImageBuildStatus :=
  (s.getImageBuild id).map Build.status

def getImageArtifactForBuild (buildId : String) : Option ImageArtifact :=
  s.imageArtifacts.rows.find? fun artifact => artifact.buildId = buildId

def updateImageBuild (build : Build) (expectedStatus : ImageBuildStatus) : Option Build × BuildStore :=
  if s.status build.id = some expectedStatus then (some build, { s with imageBuilds := s.imageBuilds.put build })
  else (none, s)

/-- A build that waits or runs, and whose operation does neither. -/
def interrupted (live : String → Bool) (build : Build) : Bool :=
  (build.status = .queued || build.status = .building) && !(build.operationId.any fun id => truthy id && live id)

def recovered (live : String → Bool) (finishedAt : String) (build : Build) : Build :=
  if interrupted live build then
    { build with status := .failed, error := some "image_build_interrupted", finishedAt := some finishedAt }
  else build

@[simp] theorem recovered_id (live : String → Bool) (finishedAt : String) (build : Build) :
    (recovered live finishedAt build).id = build.id := by
  unfold recovered
  split <;> rfl

def recoverInterruptedImageBuilds (live : String → Bool) (finishedAt : String) : Nat × BuildStore :=
  ((s.imageBuilds.rows.filter (interrupted live)).length,
    { s with imageBuilds := s.imageBuilds.sweep (recovered live finishedAt) (recovered_id live finishedAt) })

def completeImageBuild (build : Build) (artifact : ImageArtifact) (expectedStatus : ImageBuildStatus) :
    Option Record × BuildStore :=
  if s.status build.id ≠ some expectedStatus ∨ artifact.buildId ≠ build.id then (none, s)
  else if (s.imageArtifacts.get artifact.id).isSome ∨ (s.getImageArtifactForBuild artifact.buildId).isSome then (none, s)
  else (some ⟨build, some artifact⟩,
    { imageBuilds := s.imageBuilds.put build, imageArtifacts := s.imageArtifacts.put artifact })

end BuildStore

/-! ## Calls -/

/-- What the code waits for or reads from outside. The strategy is a plugin, and so is what looks up
the version; the commit point belongs to the caller. -/
inductive Call
  | getBuild (id : String)
  | getArtifactForBuild (buildId : String)
  | updateBuild (build : Build) (expectedStatus : ImageBuildStatus)
  | recoverInterruptedBuilds (finishedAt : String)
  | completeBuild (build : Build) (artifact : ImageArtifact) (expectedStatus : ImageBuildStatus)
  | now
  | randomId
  | resolveVersion (id : String)
  | strategyExecute (build : Build) (appVersion : Option AppVersion)
  | commitPoint
  | cleanup (output : StrategyBuildOutput)
  | aborted
  | abort

@[reducible] def Call.Answer : Call → Type
  | getBuild _ => Option Build
  | getArtifactForBuild _ => Option ImageArtifact
  | updateBuild _ _ => Option Build
  | recoverInterruptedBuilds _ => Nat
  | completeBuild _ _ _ => Option Record
  | now => String
  | randomId => String
  | resolveVersion _ => Option AppVersion
  | strategyExecute _ _ => StrategyBuildOutput
  | commitPoint => Unit
  | cleanup _ => Unit
  | aborted => Bool
  | abort => Unit

abbrev Task (α : Type) := Prog Call Call.Answer Failure α

def ask (o : Call) : Task o.Answer :=
  await o

def required {α : Type} (a : Option α) (e : Failure) : Task α :=
  match a with
  | some a => pure a
  | none => throw e

/-- `signal.aborted`: looking at the flag does not fail. -/
def signalAborted : Task Bool :=
  .call .aborted fun
    | .ok flag => pure flag
    | .error _ => pure false

/-! ## The manager -/

def requireBuild (id : String) : Task Build := do
  required (← ask (.getBuild id)) (.imageBuild "image_build_not_found" 404)

def getBuild (id : String) : Task Record := do
  let build ← requireBuild id
  let artifact ← ask (.getArtifactForBuild build.id)
  pure ⟨build, artifact⟩

def startBuild (id : String) : Task Build := do
  let current ← requireBuild id
  throwIf (current.status ≠ .queued) (invalidTransition current.status .building)
  let startedAt ← ask .now
  let updated ← ask (.updateBuild { current with status := .building, startedAt := some startedAt } .queued)
  required updated (.imageBuild "image_build_conflict" 409)

/-- What is recorded of an output: both texts trimmed, each of its form. -/
def normalizeOutput (output : StrategyBuildOutput) : Except Failure (String × String) :=
  let imageReference := trim output.imageReference
  let imageId := trim output.imageId
  if Policy.imageReference imageReference = false then .error (.imageBuild "invalid_image_reference" 400)
  else if immutableImageId imageId = false then .error (.imageBuild "invalid_image_id" 400)
  else .ok (imageReference, imageId)

def completeBuild (id : String) (output : StrategyBuildOutput) : Task Record := do
  let current ← requireBuild id
  throwIf (current.status ≠ .building) (invalidTransition current.status .succeeded)
  let image ← fromExcept (normalizeOutput output)
  let finishedAt ← ask .now
  let artifactId ← ask .randomId
  let artifact : ImageArtifact := {
    id := artifactId
    buildId := current.id
    imageReference := image.1
    imageId := image.2
    runtimeContract := current.strategySnapshot.runtimeContract
    createdAt := finishedAt }
  let completed ← ask (.completeBuild
    { current with status := .succeeded, error := none, finishedAt := some finishedAt } artifact .building)
  required completed (.imageBuild "image_build_conflict" 409)

/-- `#finishBuild` -/
def finishBuild (id : String) (status : ImageBuildStatus) (error : Option String) : Task Build := do
  let current ← requireBuild id
  throwIf (current.status ≠ .queued ∧ current.status ≠ .building) (invalidTransition current.status status)
  let finishedAt ← ask .now
  let updated ← ask (.updateBuild { current with status := status, error := error, finishedAt := some finishedAt }
    current.status)
  required updated (.imageBuild "image_build_conflict" 409)

/-- `error.trim().slice(0, 2_000) || "image_build_failed"` -/
def failureReason (error : String) : String :=
  let reason := String.ofList (takeUnits 2000 (trim error).toList)
  if truthy reason then reason else "image_build_failed"

def failBuild (id : String) (error : String) : Task Build :=
  finishBuild id .failed (some (failureReason error))

def cancelBuild (id : String) : Task Build :=
  finishBuild id .cancelled none

def recoverInterrupted : Task Nat := do
  let finishedAt ← ask .now
  ask (.recoverInterruptedBuilds finishedAt)

/-! ## The executor -/

/-- The adapters of `BuildStrategyRegistry`, by their keys. -/
abbrev Registry := List (String × Nat)

/-- `resolve`, with the check of `adapterKey` before it. -/
def Registry.resolve (adapters : Registry) (id : String) (revision : Nat) : Except Failure Unit :=
  let key := toLowerCase (trim id)
  if truthy key = false ∨ 2 ^ 53 ≤ revision ∨ revision < 1 then .error (.execution "build_strategy_adapter_invalid")
  else if (key, revision) ∈ adapters then .ok ()
  else .error (.execution "build_strategy_adapter_not_found")

/-- The version a build was made for; it must be there. -/
def sourceVersion (build : Build) : Task (Option AppVersion) :=
  match build.sourceAppVersionId.filter truthy with
  | some id => do
    let version ← ask (.resolveVersion id)
    some <$> required version (.imageBuild "app_version_not_found" 404)
  | none => pure none

def versionIsFixed (version : Option AppVersion) : Bool :=
  version.any fun version => version.status = .active || version.status = .legacy

/-- The `try` block up to where `output` is set. -/
def produce (adapters : Registry) (build : Build) : Task StrategyBuildOutput := do
  let version ← sourceVersion build
  throwIf (versionIsFixed version = true) (.imageBuild "app_version_immutable" 409)
  throwIf ((← signalAborted) = true) (.execution "image_build_cancelled")
  fromExcept (adapters.resolve build.strategySnapshot.id build.strategySnapshot.revision)
  ask (.strategyExecute build version)

/-- The `try` block from where `output` is set. -/
def commit (id : String) (output : StrategyBuildOutput) : Task Record := do
  throwIf ((← signalAborted) = true) (.execution "image_build_cancelled")
  ask .commitPoint
  completeBuild id output

/-- The write of a terminal status, which may fail without anyone noticing. -/
def recordEnd (id : String) (error : Failure) : Task Unit := do
  if (← signalAborted) = true ∨ error = .execution "image_build_cancelled" then
    let _ ← settle (cancelBuild id)
  else
    let _ ← settle (failBuild id error.message)

/-- What was made is thrown away, if the build is read and has not succeeded. -/
def discard (id : String) (output : StrategyBuildOutput) : Task Unit := do
  match ← settle (getBuild id) with
  | .ok latest => if latest.build.status ≠ .succeeded then ask (.cleanup output)
  | .error _ => pure ()

def discardMade (id : String) (output : Option StrategyBuildOutput) : Task Unit :=
  match output.filter StrategyBuildOutput.cleanup with
  | some output => discard id output
  | none => pure ()

/-- The `catch` block. -/
def abandon (id : String) (output : Option StrategyBuildOutput) (error : Failure) : Task Record := do
  recordEnd id error
  discardMade id output
  throw error

/-- What follows once the build is started; `output` is null until the strategy has made it. -/
def runBuild (adapters : Registry) (id : String) (build : Build) : Task Record := do
  match ← settle (produce adapters build) with
  | .error error => abandon id none error
  | .ok output => tryCatch (commit id output) fun error => abandon id (some output) error

def execute (adapters : Registry) (id : String) : Task Record := do
  let initial ← getBuild id
  if initial.build.status = .succeeded then pure initial
  else
    throwIf (initial.build.status ≠ .queued) (invalidTransition initial.build.status .building)
    let build ← startBuild id
    runBuild adapters id build

/-! ## Everyone together -/

structure World where
  store : BuildStore
  /-- the signal of the executor -/
  aborted : Bool

/-- Where a call fails: before it has taken effect, or after. -/
inductive Fault
  | before (error : Failure)
  | after (error : Failure)

/-- What the outside decides at one call. -/
structure Choice where
  fault : Option Fault
  text : String
  version : Option AppVersion
  output : StrategyBuildOutput
  /-- the operations that are queued or running -/
  live : String → Bool

/-- The calls that do not wait for anything and do not fail. -/
def Call.immediate : Call → Bool
  | now | randomId | aborted | abort => true
  | _ => false

def effect (w : World) (x : Choice) : (o : Call) → o.Answer × World
  | .getBuild id => (w.store.getImageBuild id, w)
  | .getArtifactForBuild buildId => (w.store.getImageArtifactForBuild buildId, w)
  | .updateBuild build expectedStatus =>
    let updated := w.store.updateImageBuild build expectedStatus
    (updated.1, { w with store := updated.2 })
  | .recoverInterruptedBuilds finishedAt =>
    let recovered := w.store.recoverInterruptedImageBuilds x.live finishedAt
    (recovered.1, { w with store := recovered.2 })
  | .completeBuild build artifact expectedStatus =>
    let completed := w.store.completeImageBuild build artifact expectedStatus
    (completed.1, { w with store := completed.2 })
  | .now => (x.text, w)
  | .randomId => (x.text, w)
  | .resolveVersion _ => (x.version, w)
  | .strategyExecute _ _ => (x.output, w)
  | .commitPoint => ((), w)
  | .cleanup _ => ((), w)
  | .aborted => (w.aborted, w)
  | .abort => ((), { w with aborted := true })

def perform (w : World) (o : Call) (x : Choice) : Option (Except Failure o.Answer × World) :=
  match o.immediate, x.fault with
  | false, some (.before error) => some (.error error, w)
  | false, some (.after error) => some (.error error, (effect w x o).2)
  | _, _ => some (.ok (effect w x o).1, (effect w x o).2)

/-- The callers of the manager, and of the signal. -/
inductive Job
  | execute (id : String)
  | cancelBuild (id : String)
  | failBuild (id : String) (error : String)
  | recoverInterrupted
  | abort

/-- What a job returns; only what `execute` returns is looked at. -/
inductive Outcome
  | executed (record : Record)
  | finished

def body (adapters : Registry) : Job → Task (Job ⊕ Outcome)
  | .execute id => (fun record => .inr (.executed record)) <$> execute adapters id
  | .cancelBuild id => (fun _ => .inr .finished) <$> cancelBuild id
  | .failBuild id error => (fun _ => .inr .finished) <$> failBuild id error
  | .recoverInterrupted => (fun _ => .inr .finished) <$> recoverInterrupted
  | .abort => (fun _ => .inr .finished) <$> ask .abort

def buildSystem (adapters : Registry) : System Call Call.Answer Failure World Choice Job Outcome where
  perform := perform
  body := body adapters

end OpenApp.Catalog.Executor
