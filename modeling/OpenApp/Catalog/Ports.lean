import OpenApp.Async.Prog
import OpenApp.Catalog.Store
import OpenApp.Policy.InstancePolicy

/-!
# The calls of the catalog

What the catalog, the builds and the cleanup await: the store, the host that has the images, the files of
the releases, and the lock that keeps the writers of versions apart.
-/

namespace OpenApp.Catalog

open Async Async.Prog Script

/-- What is thrown: the code, and whose error it is. -/
inductive Failure
  /-- `AppCatalogError` -/
  | catalog (code : String)
  /-- `ImageBuildError` -/
  | imageBuild (code : String)
  /-- `ResourceCleanupError` -/
  | cleanup (code : String)
  /-- `ArtifactOperationError` -/
  | artifact (code : String)
  | error (message : String)
  deriving DecidableEq

inductive CatalogOp
  /-- the start of `withReleaseActivationLock` -/
  | lock
  | unlock
  | now
  | randomId
  | listApps
  | getApp (appId : String)
  | listAppVersions (appId : String)
  | getAppVersion (id : String)
  | saveAppVersion (version : AppVersion)
  | activateAppVersion (appId versionId : String) (expectedCurrentVersionId : Option (Option String))
  | getPackage (id : String)
  | createPackage (pkg : BuildPackage)
  | deleteBuildPackageIfUnreferenced (id : String)
  | listBuilds
  | getBuild (id : String)
  | createBuild (build : ImageBuild)
  | updateBuild (build : ImageBuild) (expectedStatus : ImageBuildStatus)
  | completeBuild (build : ImageBuild) (artifact : ImageArtifact) (expectedStatus : ImageBuildStatus)
  | listArtifacts
  | getArtifact (id : String)
  | deleteImageArtifactIfUnreferenced (id : String)
  | bindRelease (appId versionId artifactId : String)
  | listContainers
  | getContainer (id : String)
  | saveContainer (container : Container)
  | deleteContainer (id : String)
  | listActiveTargetReferences
  | createRolloutItems (items : List Rollout.UpgradeRolloutItem)
  /-- the stored item, if it is the one that was read, becomes another one -/
  | updateRolloutItem (item next : Rollout.UpgradeRolloutItem)
  /-- the image a reference names, if there is one -/
  | resolveImage (reference : String)
  | validateImage (reference runtimeContract : String)
  | validateCandidateImage (reference runtimeContract : String)
  | removeImageIfCurrent (imageReference imageId : String)
  /-- a runner leaves an image under a tag -/
  | buildImage (build : ImageBuild)
  /-- the packages are copied to a directory of their own -/
  | stagePackages (versionId : String) (packages : List ImageBuildPackage)
  /-- the digest of a copied package, if it can be read -/
  | hashPackage (versionId : String) (artifact : AppArtifact)
  | writeVersionManifest (version : AppVersion)
  | publishStaged (versionId : String)
  | removeStaged (versionId : String)
  /-- `#removeRevisionStorage`, and the like -/
  | removeStorage (id : String)
  /-- the files of a version are looked at -/
  | checkStoredFiles (version : AppVersion)
  /-- `beforeSave` of an import -/
  | beforeSave
  deriving DecidableEq

abbrev CatalogOp.Answer : CatalogOp → Type
  | .lock | .unlock => Unit
  | .now => String
  | .randomId => String
  | .listApps => List AppDefinition
  | .getApp _ => Option AppDefinition
  | .listAppVersions _ => List AppVersion
  | .getAppVersion _ => Option AppVersion
  | .saveAppVersion _ => Option AppVersion
  | .activateAppVersion _ _ _ => Option AppVersion
  | .getPackage _ => Option BuildPackage
  | .createPackage _ => Option BuildPackage
  | .deleteBuildPackageIfUnreferenced _ => Option BuildPackage
  | .listBuilds => List ImageBuild
  | .getBuild _ => Option ImageBuild
  | .createBuild _ => Option ImageBuild
  | .updateBuild _ _ => Option ImageBuild
  | .completeBuild _ _ _ => Option (ImageBuild × ImageArtifact)
  | .listArtifacts => List ImageArtifact
  | .getArtifact _ => Option ImageArtifact
  | .deleteImageArtifactIfUnreferenced _ => Option ImageArtifact
  | .bindRelease _ _ _ => Option AppVersion
  | .listContainers => List Container
  | .getContainer _ => Option Container
  | .saveContainer _ => Unit
  | .deleteContainer _ => Unit
  | .listActiveTargetReferences => List Rollout.UpgradeRolloutItem
  | .createRolloutItems _ => Unit
  | .updateRolloutItem _ _ => Bool
  | .resolveImage _ => Option String
  | .validateImage _ _ | .validateCandidateImage _ _ => Unit
  | .removeImageIfCurrent _ _ => Bool
  | .buildImage _ => String × String
  | .stagePackages _ _ => Unit
  | .hashPackage _ _ => Option String
  | .writeVersionManifest _ => Unit
  | .publishStaged _ | .removeStaged _ => Unit
  | .removeStorage _ => Bool
  | .checkStoredFiles _ => Unit
  | .beforeSave => Unit

abbrev CatalogTask (α : Type) := Prog CatalogOp CatalogOp.Answer Failure α

abbrev Exchanges := Trace CatalogOp CatalogOp.Answer Failure

abbrev ask (o : CatalogOp) : CatalogTask o.Answer := Prog.await o

/-- `withActivationLock` -/
def withActivationLock {α : Type} (operation : CatalogTask α) : CatalogTask α := do
  ask .lock
  ensuring operation (ask .unlock)

/-- A value that must be there. -/
def required {α : Type} (a : Option α) (e : Failure) : CatalogTask α :=
  match a with
  | some a => pure a
  | none => throw e

/-! ## Texts -/

def normalizeAppId (value : String) : Except Failure String :=
  let id := toLowerCase (trim value)
  if Policy.validAppId id then .ok id else .error (.catalog "invalid_app_id")

def normalizeImageReference (value : String) : Except Failure String :=
  let reference := trim value
  if Policy.imageReference reference then .ok reference else .error (.catalog "invalid_image_reference")

def NO_RUNTIME_CONTRACT : String := "none"

/-- `/^[a-z0-9][a-z0-9._-]{0,127}$/u` -/
def validRuntimeContract (value : String) : Bool :=
  match value.toList with
  | [] => false
  | c :: cs =>
    (c.isLower || c.isDigit) && cs.length ≤ 127 &&
      cs.all fun c => c.isLower || c.isDigit || c = '.' || c = '_' || c = '-'

def normalizeRuntimeContract (value : String) : Except Failure String :=
  let runtimeContract := toLowerCase (trim value)
  if validRuntimeContract runtimeContract then .ok runtimeContract else .error (.catalog "invalid_runtime_contract")

end OpenApp.Catalog
