import Mathlib.Data.List.Sort
import OpenApp.Catalog.Types
import OpenApp.Keyed
import OpenApp.Rollout.Types
import OpenApp.Script

/-!
# The store of the catalog

The Apps, their versions and what builds leave, and of the instances and the rollouts what refers to a
version or an image. Each function is one call of the store, from the state it finds to the state it
leaves.
-/

namespace OpenApp.Catalog

open Keyed Rollout Script

/-! ## Packages of a version -/

/-- `structuredClone(version.packages ?? []).sort(…)`, in the order of the keys. -/
def packagesForVersion (version : AppVersion) : List ImageBuildPackage :=
  version.packages.insertionSort fun left right => left.key ≤ right.key

def withVersionPackageProjection (version : AppVersion) : AppVersion :=
  { version with packages := packagesForVersion version }

/-- One of the packages is this one. -/
def usesPackage (packages : List ImageBuildPackage) (id : String) : Bool :=
  packages.any fun item => item.packageId = some id

/-- One of the packages is an uploaded one that is not there. -/
def missesPackage (buildPackages : Table BuildPackage.id) (packages : List ImageBuildPackage) : Bool :=
  packages.any fun item => item.packageId.any fun id => truthy id && (buildPackages.get id).isNone

/-- An item of a rollout that may still need its source or its target. -/
def retainsUpgradeRolloutTarget (item : UpgradeRolloutItem) : Bool :=
  item.status ≠ .succeeded ∧ item.status ≠ .superseded ∧ item.status ≠ .cancelled

/-! ## The tables -/

structure CatalogStore where
  apps : Table AppDefinition.id
  appVersions : Table AppVersion.id
  buildPackages : Table BuildPackage.id
  imageBuilds : Table ImageBuild.id
  imageArtifacts : Table ImageArtifact.id
  containers : Table Container.id
  upgradeRolloutItems : Table fun item : UpgradeRolloutItem => (item.rolloutId, item.instanceId)

/-- What a call of the store throws. -/
abbrev Stored (α : Type) := Except String α

namespace CatalogStore

variable (s : CatalogStore)

/-! ## Apps and versions -/

def listApps : List AppDefinition :=
  s.apps.rows.insertionSort fun left right => left.name ≤ right.name

def getApp (appId : String) : Option AppDefinition :=
  s.apps.get (toLowerCase (trim appId))

def versionsOf (appId : String) : List AppVersion :=
  s.appVersions.rows.filter fun version => version.appId = appId

/-- The later revisions come first. -/
def listAppVersions (appId : String) : List AppVersion :=
  (s.versionsOf (toLowerCase (trim appId))).insertionSort fun left right =>
    right.revision.getD 0 ≤ left.revision.getD 0

def getAppVersion (id : String) : Option AppVersion :=
  s.appVersions.get id

def nextRevision (appId : String) : Nat :=
  ((s.versionsOf appId).map fun version => version.revision.getD 0).foldl max 0 + 1

/-- The revision a version is saved with. -/
def savedRevision (version : AppVersion) : Nat :=
  match s.appVersions.get version.id with
  | some current => if current.appId = version.appId then current.revision.getD (s.nextRevision version.appId)
      else s.nextRevision version.appId
  | none => s.nextRevision version.appId

def saveAppVersion (version : AppVersion) : Stored (Option AppVersion × CatalogStore) :=
  if (s.apps.get version.appId).isNone then .error "app_not_found"
  else if missesPackage s.buildPackages version.packages then .error "build_package_not_found"
  else if s.appVersions.rows.any fun item =>
      item.appId = version.appId && item.version = version.version && item.id ≠ version.id then .ok (none, s)
  else
    let value := withVersionPackageProjection { version with revision := some (s.savedRevision version) }
    .ok (some value, { s with appVersions := s.appVersions.put value })

end CatalogStore

/-- The version that is launched: the active one, or else a legacy one. -/
def currentOf (versions : List AppVersion) : Option AppVersion :=
  (versions.find? fun version => version.status = .active).or (versions.find? fun version => version.status = .legacy)

/-- What becomes of a version when another one of its App is activated. -/
def activatedRow (appId versionId activatedAt : String) (version : AppVersion) : AppVersion :=
  if version.appId ≠ appId then version
  else if version.id = versionId then { version with status := .active, activatedAt := some activatedAt }
  else if version.status = .active then
    { version with
      status := if version.imageReference.any truthy then .imageReady else .uploaded
      activatedAt := none }
  else version

theorem activatedRow_id (appId versionId activatedAt : String) (version : AppVersion) :
    (activatedRow appId versionId activatedAt version).id = version.id := by
  unfold activatedRow
  split
  · rfl
  · split
    · rfl
    · split <;> rfl

namespace CatalogStore

variable (s : CatalogStore)

/-- The version the App has now. -/
def current (appId : String) : Option AppVersion :=
  currentOf (s.listAppVersions appId)

/-- `expectedCurrentVersionId` may be left out, or say that there is none. -/
def activateAppVersion (appId versionId : String) (expectedCurrentVersionId : Option (Option String))
    (activatedAt : String) : Option AppVersion × CatalogStore :=
  let app := toLowerCase (trim appId)
  match s.appVersions.get versionId with
  | none => (none, s)
  | some target =>
    if target.appId ≠ app then (none, s)
    else if expectedCurrentVersionId.any fun expected => expected ≠ (s.current app).map AppVersion.id then (none, s)
    else
      let s' := { s with
        appVersions := s.appVersions.sweep (activatedRow app versionId activatedAt) (activatedRow_id app versionId activatedAt) }
      (s'.appVersions.get versionId, s')

/-! ## Packages and builds -/

def createBuildPackage (pkg : BuildPackage) : Option BuildPackage × CatalogStore :=
  if (s.buildPackages.get pkg.id).isSome then (none, s)
  else (some pkg, { s with buildPackages := s.buildPackages.put pkg })

def deleteBuildPackageIfUnreferenced (id : String) : Option BuildPackage × CatalogStore :=
  match s.buildPackages.get id with
  | none => (none, s)
  | some pkg =>
    if (s.appVersions.rows.any fun version => usesPackage version.packages id)
        || s.imageBuilds.rows.any fun build => usesPackage build.packages id then (none, s)
    else (some pkg, { s with buildPackages := s.buildPackages.delete id })

def createImageBuild (build : ImageBuild) : Stored (Option ImageBuild × CatalogStore) :=
  if (s.imageBuilds.get build.id).isSome then .ok (none, s)
  else if build.sourceAppVersionId.any fun id => truthy id && (s.appVersions.get id).isNone then .error "app_version_not_found"
  else if missesPackage s.buildPackages build.packages then .error "build_package_not_found"
  else .ok (some build, { s with imageBuilds := s.imageBuilds.put build })

def updateImageBuild (build : ImageBuild) (expectedStatus : ImageBuildStatus) : Option ImageBuild × CatalogStore :=
  match s.imageBuilds.get build.id with
  | none => (none, s)
  | some current =>
    if current.status ≠ expectedStatus then (none, s)
    else (some build, { s with imageBuilds := s.imageBuilds.put build })

def completeImageBuild (build : ImageBuild) (artifact : ImageArtifact) (expectedStatus : ImageBuildStatus) :
    Option (ImageBuild × ImageArtifact) × CatalogStore :=
  match s.imageBuilds.get build.id with
  | none => (none, s)
  | some current =>
    if current.status ≠ expectedStatus ∨ artifact.buildId ≠ build.id then (none, s)
    else if (s.imageArtifacts.get artifact.id).isSome
        || s.imageArtifacts.rows.any fun candidate => candidate.buildId = artifact.buildId then (none, s)
    else (some (build, artifact),
      { s with imageBuilds := s.imageBuilds.put build, imageArtifacts := s.imageArtifacts.put artifact })

/-! ## Artifacts -/

/-- The item may still need this image. -/
def itemUsesArtifact (item : UpgradeRolloutItem) (artifact : ImageArtifact) : Bool :=
  retainsUpgradeRolloutTarget item &&
    (item.sourceImageArtifactId = some artifact.id || item.sourceImageReference = some artifact.imageReference
      || item.sourceImageReference = some artifact.imageId || item.targetImageArtifactId = some artifact.id
      || item.targetImageReference = artifact.imageReference || item.targetImageReference = artifact.imageId)

def deleteImageArtifactIfUnreferenced (id : String) : Option ImageArtifact × CatalogStore :=
  match s.imageArtifacts.get id with
  | none => (none, s)
  | some artifact =>
    if (s.appVersions.rows.any fun version => version.imageArtifactId = some id)
        || (s.containers.rows.any fun container => container.imageArtifactId = some id)
        || s.upgradeRolloutItems.rows.any fun item => itemUsesArtifact item artifact then (none, s)
    else (some artifact, { s with imageArtifacts := s.imageArtifacts.delete id })

def bindAppVersionArtifact (appId versionId artifactId : String) : Option AppVersion × CatalogStore :=
  match s.apps.get (toLowerCase (trim appId)), s.appVersions.get versionId, s.imageArtifacts.get artifactId with
  | some app, some version, some artifact =>
    if app.status ≠ .active ∨ version.appId ≠ app.id ∨ version.status ≠ .uploaded then (none, s)
    else
      let updated := { version with
        imageArtifactId := some artifact.id
        imageReference := some artifact.imageId
        runtimeContract := some artifact.runtimeContract
        status := .imageReady }
      (some updated, { s with appVersions := s.appVersions.put updated })
  | _, _, _ => (none, s)

end CatalogStore

end OpenApp.Catalog
