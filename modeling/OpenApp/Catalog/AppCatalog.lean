import OpenApp.Catalog.Ports
import OpenApp.Policy.LaunchChecks

/-!
# Versions of an App

A version is uploaded or imported, gets an image, and is activated. What writes a version waits for the
lock; what is launched is read without it.
-/

namespace OpenApp.Catalog

open Async Async.Prog Script

/-- A version as an upload was inspected, its packages as `normalizeInspectedVersion` leaves them. -/
structure InspectedAppVersion where
  version : String
  buildId : String
  packages : List ImageBuildPackage

def isHexDigit (c : Char) : Bool :=
  c.isDigit || ('a' ≤ c && c ≤ 'f')

/-- `/^(sha256:[a-f0-9]{64}|.+@sha256:[a-f0-9]{64})$/u` -/
def immutableImage (reference : String) : Bool :=
  let cs := reference.toList
  let name := cs.take (cs.length - 71)
  let digest := cs.drop (cs.length - 71)
  digest.length = 71 && digest.take 7 = "sha256:".toList && (digest.drop 7).all isHexDigit &&
    (name.isEmpty || (1 < name.length && name.getLast? = some '@' && name.all fun c => !Policy.isLineTerminator c))

/-- A failure of the host, as the catalog reports it. -/
def hostFailure (otherwise : String) : Failure → Failure
  | .catalog code => .catalog code
  | .artifact code => .catalog code
  | _ => .catalog otherwise

/-- A contract that an image must keep to. -/
def bindingContract (runtimeContract : Option String) : Option String :=
  runtimeContract.filter fun contract => truthy contract && contract ≠ NO_RUNTIME_CONTRACT

/-- `#assertImageAvailable`: the image the reference names now. -/
def assertImageAvailable (reference : String) (runtimeContract : Option String) : CatalogTask String := do
  let resolved ← tryCatch (ask (.resolveImage reference)) fun e => throw (hostFailure "runtime_image_listing_unavailable" e)
  let immutableReference ← required (resolved.filter truthy) (.catalog "runtime_image_not_found")
  match bindingContract runtimeContract with
  | some contract =>
    tryCatch (ask (.validateImage immutableReference contract)) fun e =>
      throw (hostFailure "runtime_image_contract_invalid" e)
  | none => pure ()
  pure immutableReference

/-- `#validateStoredArtifacts` -/
def validateStoredArtifacts (version : AppVersion) : CatalogTask Unit := do
  if version.sourceKind = some .image then
    throwIf (version.packages ≠ [] ∨ ¬version.imageReference.any truthy ∨ (bindingContract version.runtimeContract).isNone)
      (.catalog "app_version_artifact_invalid")
  else do
    throwIf (version.packages = [] ∧ ¬version.imageArtifactId.any truthy) (.catalog "app_version_release_required")
    ask (.checkStoredFiles version)

/-! ## Uploads -/

/-- The copies are what was inspected. -/
def checkCopies (versionId : String) (packages : List ImageBuildPackage) : CatalogTask Unit := do
  let _ ← each (fun pkg => do
    let copiedHash ← settle (ask (.hashPackage versionId pkg.artifact))
    throwIf (copiedHash ≠ .ok (some pkg.artifact.sha256)) (.catalog "app_version_artifact_invalid")) packages
  pure ()

def assertVersionIsNew (appId version : String) : CatalogTask Unit := do
  let versions ← ask (.listAppVersions appId)
  throwIf (versions.any fun item => item.version = version) (.catalog "app_version_exists")

/-- `#persistInspectedVersion` -/
def persistInspectedVersion (app : AppDefinition) (inspected : InspectedAppVersion) : CatalogTask AppVersion := do
  let versionId ← ask .randomId
  let discard : CatalogTask Unit := do
    let _ ← settle (ask (.removeStaged versionId))
    pure ()
  guarded (do
    ask (.stagePackages versionId inspected.packages)
    checkCopies versionId inspected.packages
    assertVersionIsNew app.id inspected.version
    let version : AppVersion := {
      sourceKind := none
      id := versionId
      appId := app.id
      revision := none
      version := inspected.version
      buildId := inspected.buildId
      packages := inspected.packages
      imageArtifactId := none
      imageReference := none
      runtimeContract := none
      status := .uploaded
      createdAt := ← ask .now
      activatedAt := none }
    ask (.writeVersionManifest version)
    withActivationLock do
      -- an App that was archived meanwhile gets no new version
      let currentApp ← required (← ask (.getApp app.id)) (.catalog "app_not_found")
      throwIf (currentApp.status ≠ .active) (.catalog "app_archived")
      assertVersionIsNew app.id inspected.version
      ask (.publishStaged versionId)
      guarded (do
        required (← ask (.saveAppVersion version)) (.catalog "app_version_exists")) do
          let _ ← settle (ask (.removeStorage versionId))
          pure ()) discard

def activeApp (appId : String) : CatalogTask AppDefinition := do
  let normalizedAppId ← fromExcept (normalizeAppId appId)
  let app ← required (← ask (.getApp normalizedAppId)) (.catalog "app_not_found")
  throwIf (app.status ≠ .active) (.catalog "app_archived")
  pure app

def uploadInspectedVersion (appId : String) (input : InspectedAppVersion) : CatalogTask AppVersion := do
  let app ← activeApp appId
  persistInspectedVersion app input

def createRevision (appId : String) (packages : List ImageBuildPackage) : CatalogTask AppVersion := do
  let app ← activeApp appId
  let identity := String.ofList ((← ask .randomId).toList.filter (· ≠ '-'))
  persistInspectedVersion app ⟨"0.0.0-revision.r" ++ identity, "revision-" ++ identity, packages⟩

/-! ## Images -/

section Images

-- the contract an App asks of an image, by its adapter
variable (runtimeContractForApp : String → AppVersion → Option String)

def attachImage (appId versionId imageReference : String) : CatalogTask AppVersion :=
  withActivationLock do
    let normalizedAppId ← fromExcept (normalizeAppId appId)
    let reference ← fromExcept (normalizeImageReference imageReference)
    let app ← required (← ask (.getApp normalizedAppId)) (.catalog "app_not_found")
    throwIf (app.status ≠ .active) (.catalog "app_archived")
    let version ← required ((← ask (.getAppVersion versionId)).filter (·.appId = normalizedAppId))
      (.catalog "app_version_not_found")
    throwIf (version.status = .archived) (.catalog "app_version_archived")
    throwIf (version.status = .active ∨ version.status = .legacy) (.catalog "app_version_immutable")
    throwIf (version.imageArtifactId ≠ none ∨ (version.packages.any fun pkg => pkg.packageId.any truthy) = true)
      (.catalog "image_artifact_required")
    let runtimeContract ← fromExcept (normalizeRuntimeContract
      (((runtimeContractForApp normalizedAppId version).or version.runtimeContract).getD NO_RUNTIME_CONTRACT))
    let immutableReference ← assertImageAvailable reference (some runtimeContract)
    required (← ask (.saveAppVersion { version with
      imageArtifactId := none
      imageReference := some immutableReference
      runtimeContract := some runtimeContract
      status := .imageReady })) (.catalog "app_version_not_found")

def importImage (appId imageReference : String) : CatalogTask AppVersion := do
  let id ← fromExcept (normalizeAppId appId)
  let _ ← required ((← ask (.getApp id)).filter (·.status = .active)) (.catalog "app_not_found")
  let identity ← ask .randomId
  let candidate : AppVersion := {
    sourceKind := some .image
    id := identity
    appId := id
    revision := none
    version := "0.0.0-image.r" ++ String.ofList (identity.toList.filter (· ≠ '-'))
    buildId := "image-" ++ identity
    packages := []
    imageArtifactId := none
    imageReference := none
    runtimeContract := none
    status := .imageReady
    createdAt := ← ask .now
    activatedAt := none }
  let contract ← required (bindingContract (runtimeContractForApp id candidate))
    (.catalog "runtime_image_contract_unsupported")
  let runtimeContract ← fromExcept (normalizeRuntimeContract contract)
  let reference ← fromExcept (normalizeImageReference imageReference)
  let immutableReference ← assertImageAvailable reference (some runtimeContract)
  throwIf (immutableImage immutableReference = false) (.catalog "immutable_image_required")
  ask (.validateCandidateImage immutableReference runtimeContract)
  withActivationLock do
    let _ ← required ((← ask (.getApp id)).filter (·.status = .active)) (.catalog "app_archived")
    ask .beforeSave
    required (← ask (.saveAppVersion { candidate with
      imageReference := some immutableReference
      runtimeContract := some runtimeContract })) (.catalog "app_version_exists")

end Images

/-! ## Activation -/

/-- The largest safe integer. -/
def MAX_SAFE_INTEGER : Int := 9007199254740991

def currentRevision (current : Option AppVersion) : Nat :=
  (current.bind AppVersion.revision).getD 0

/-- The revision that is expected is the one the App has. -/
def checkExpected (expectedRevision : Option Int) (current : Option AppVersion) : CatalogTask Unit :=
  match expectedRevision with
  | none => pure ()
  | some expected => do
    throwIf (expected < 0 ∨ MAX_SAFE_INTEGER < expected) (.catalog "invalid_app_revision")
    throwIf (expected ≠ currentRevision current) (.catalog "app_revision_conflict")

/-- `#activateVersion`; an expected revision is a whole number, others are as invalid as a negative one. -/
def activateVersionLocked (appId versionId : String) (expectedRevision : Option Int) : CatalogTask AppVersion := do
  let normalizedAppId ← fromExcept (normalizeAppId appId)
  let _ ← required ((← ask (.getApp normalizedAppId)).filter (·.status = .active)) (.catalog "app_not_found")
  let version ← required ((← ask (.getAppVersion versionId)).filter (·.appId = normalizedAppId))
    (.catalog "app_version_not_found")
  throwIf (version.status = .archived) (.catalog "app_version_archived")
  throwIf (version.status = .legacy) (.catalog "app_version_immutable")
  let imageReference ← required (version.imageReference.filter Policy.imageReference) (.catalog "app_version_image_required")
  throwIf (version.sourceKind ≠ some .image ∧ ¬version.imageArtifactId.any truthy ∧ version.packages = [])
    (.catalog "app_version_release_required")
  validateStoredArtifacts version
  let _ ← assertImageAvailable imageReference version.runtimeContract
  let versions ← ask (.listAppVersions normalizedAppId)
  let current := currentOf versions
  checkExpected expectedRevision current
  if version.sourceKind ≠ some .image then ask (.writeVersionManifest version) else pure ()
  let activated ← ask (.activateAppVersion normalizedAppId versionId
    (expectedRevision.map fun _ => current.map AppVersion.id))
  required activated (if expectedRevision.isSome then .catalog "app_revision_conflict" else .catalog "app_version_not_found")

def activateVersion (appId versionId : String) (expectedRevision : Option Int) : CatalogTask AppVersion :=
  withActivationLock (activateVersionLocked appId versionId expectedRevision)

def launchTarget (appId : String) : CatalogTask AppLaunchTarget := do
  let normalizedAppId ← fromExcept (normalizeAppId appId)
  let app ← required ((← ask (.getApp normalizedAppId)).filter (·.status = .active)) (.catalog "app_not_found")
  let versions ← ask (.listAppVersions normalizedAppId)
  let version ← required (currentOf versions) (.catalog "app_version_not_ready")
  let imageReference ← required (version.imageReference.filter Policy.imageReference) (.catalog "app_version_not_ready")
  let immutableReference ← assertImageAvailable imageReference version.runtimeContract
  pure ⟨app, version, immutableReference⟩

end OpenApp.Catalog
