import OpenApp.Catalog.AppCatalog

/-!
# Builds of images

A build takes packages, runs, and leaves an image as its artifact; the artifact is bound to a version
that has the same packages. Nothing of this waits for the lock.
-/

namespace OpenApp.Catalog

open Async Async.Prog Script

/-! ## Builds -/

/-- A build as it is created, its packages as they were checked against the strategy. -/
structure CreateImageBuildInput where
  strategyId : String
  strategy : BuildStrategy
  sourceAppVersionId : Option String
  packages : List ImageBuildPackage

def samePackageArtifact (left right : AppArtifact) : Bool :=
  left.sha256 = right.sha256 && left.size = right.size

/-- The uploaded packages of a build are there, and are what the build takes them for. -/
def checkPackageReferences (strategyId : String) (packages : List ImageBuildPackage) : CatalogTask Unit := do
  let _ ← each (fun item =>
    match item.packageId.filter truthy with
    | none => pure ()
    | some id => do
      let stored ← ask (.getPackage id)
      throwIf (stored.all (fun pkg => decide (pkg.strategyId ≠ strategyId ∨ pkg.key ≠ item.key
        ∨ samePackageArtifact pkg.artifact item.artifact = false)) = true)
        (.imageBuild "build_package_reference_mismatch")) packages
  pure ()

def createBuild (input : CreateImageBuildInput) : CatalogTask ImageBuild := do
  checkPackageReferences input.strategyId input.packages
  let sourceAppVersionId := (input.sourceAppVersionId.map trim).filter truthy
  match sourceAppVersionId with
  | some id => do
    let _ ← required (← ask (.getAppVersion id)) (.imageBuild "app_version_not_found")
    pure ()
  | none => pure ()
  let build : ImageBuild := {
    id := ← ask .randomId
    strategyId := input.strategyId
    strategySnapshot := input.strategy
    sourceAppVersionId := sourceAppVersionId
    packages := input.packages
    status := .queued }
  required (← ask (.createBuild build)) (.imageBuild "image_build_exists")

def requireBuild (id : String) : CatalogTask ImageBuild := do
  required (← ask (.getBuild id)) (.imageBuild "image_build_not_found")

def startBuild (id : String) : CatalogTask ImageBuild := do
  let current ← requireBuild id
  throwIf (current.status ≠ .queued) (.imageBuild "invalid_image_build_transition")
  required (← ask (.updateBuild { current with status := .building } .queued)) (.imageBuild "image_build_conflict")

/-- `IMMUTABLE_IMAGE_ID_PATTERN` -/
def immutableImageId (value : String) : Bool :=
  let cs := value.toList
  cs.length = 71 && cs.take 7 = "sha256:".toList && (cs.drop 7).all isHexDigit

def completeBuild (id : String) (output : String × String) : CatalogTask (ImageBuild × ImageArtifact) := do
  let current ← requireBuild id
  throwIf (current.status ≠ .building) (.imageBuild "invalid_image_build_transition")
  let imageReference := trim output.1
  throwIf (Policy.imageReference imageReference = false) (.imageBuild "invalid_image_reference")
  let imageId := trim output.2
  throwIf (immutableImageId imageId = false) (.imageBuild "invalid_image_id")
  let finishedAt ← ask .now
  let artifact : ImageArtifact := {
    id := ← ask .randomId
    buildId := current.id
    imageReference := imageReference
    imageId := imageId
    runtimeContract := current.strategySnapshot.runtimeContract
    createdAt := finishedAt }
  required (← ask (.completeBuild { current with status := .succeeded } artifact .building))
    (.imageBuild "image_build_conflict")

/-- `#finishBuild` -/
def finishBuild (id : String) (status : ImageBuildStatus) : CatalogTask ImageBuild := do
  let current ← requireBuild id
  throwIf (current.status ≠ .queued ∧ current.status ≠ .building) (.imageBuild "invalid_image_build_transition")
  required (← ask (.updateBuild { current with status := status } current.status)) (.imageBuild "image_build_conflict")

/-- A build runs, and is completed or failed. -/
def executeBuild (id : String) : CatalogTask ImageBuild := do
  let build ← startBuild id
  guarded (do
    match build.sourceAppVersionId with
    | some versionId => do
      let version ← required (← ask (.getAppVersion versionId)) (.imageBuild "app_version_not_found")
      throwIf (version.status = .active ∨ version.status = .legacy) (.imageBuild "app_version_immutable")
    | none => pure ()
    let output ← ask (.buildImage build)
    let completed ← completeBuild id output
    pure completed.1) do
      let _ ← settle (finishBuild id .failed)
      pure ()

/-! ## Bindings -/

/-- `uniquePackageMap` -/
def uniquePackages (packages : List ImageBuildPackage) : Option (List ImageBuildPackage) :=
  if (packages.map ImageBuildPackage.key).Nodup then some packages else none

def packageOf (packages : List ImageBuildPackage) (key : String) : Option AppArtifact :=
  (packages.find? fun pkg => pkg.key = key).map ImageBuildPackage.artifact

def releasePackagesMatchBuild (release : AppVersion) (build : ImageBuild) : Bool :=
  match uniquePackages (packagesForVersion release), uniquePackages build.packages with
  | some releaseByKey, some buildByKey =>
    build.strategySnapshot.packageRequirements.all fun requirement =>
      match packageOf releaseByKey requirement.key, packageOf buildByKey requirement.key with
      | some releasePackage, some buildPackage => samePackageArtifact buildPackage releasePackage
      | none, none => !requirement.required
      | _, _ => false
  | _, _ => false

def bindRelease (appId versionId artifactId : String) : CatalogTask AppVersion := do
  let artifact ← required (← ask (.getArtifact artifactId)) (.imageBuild "image_artifact_not_found")
  let normalizedAppId := toLowerCase (trim appId)
  throwIf (Policy.validAppId normalizedAppId = false) (.imageBuild "invalid_app_id")
  let app ← required (← ask (.getApp normalizedAppId)) (.imageBuild "app_not_found")
  throwIf (app.status ≠ .active) (.imageBuild "app_archived")
  let release ← required ((← ask (.getAppVersion versionId)).filter (·.appId = normalizedAppId))
    (.imageBuild "app_version_not_found")
  throwIf (release.status = .active ∨ release.status = .legacy) (.imageBuild "app_version_immutable")
  let build ← required ((← ask (.getBuild artifact.buildId)).filter fun build =>
      decide (build.status = .succeeded ∧ artifact.runtimeContract = build.strategySnapshot.runtimeContract ∧
        (build.sourceAppVersionId.filter truthy).all fun id => id = release.id))
    (.imageBuild "release_artifact_binding_mismatch")
  throwIf (releasePackagesMatchBuild release build = false) (.imageBuild "release_artifact_binding_mismatch")
  required (← ask (.bindRelease normalizedAppId versionId artifactId)) (.imageBuild "release_artifact_binding_conflict")

end OpenApp.Catalog
