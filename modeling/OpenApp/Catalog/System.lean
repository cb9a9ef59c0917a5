import OpenApp.Async.Interleave
import OpenApp.Catalog.Instances

/-!
# The catalog in a world

The world holds the store, the lock, the ids that were handed out and the host that has the images. The
time, new ids, the copies of files and what a runner builds are choices of the run, and any call to the
outside may fail. The lock is held by one thread at a time.
-/

namespace OpenApp.Catalog

open Async Async.Prog

/-- The host of the images: what its references name, and what a build or a removal makes of it. -/
structure ImageRuntime (ρ : Type) where
  resolve : ρ → String → Option String
  built : ρ → String → String → ρ
  removeImageIfCurrent : ρ → String → String → Bool × ρ

structure World (ρ : Type) where
  store : CatalogStore
  locked : Bool
  ids : List String
  runtime : ρ

inductive CatalogChoice
  | go
  | fails (error : Failure)
  | text (value : String)
  | digest (value : Option String)
  | flag (value : Bool)
  | image (reference id : String)
  deriving DecidableEq

namespace World

variable {ρ : Type} (R : ImageRuntime ρ) (w : World ρ)

/-- What a call finds. -/
def read : (o : CatalogOp) → Option o.Answer
  | .listApps => some w.store.listApps
  | .getApp appId => some (w.store.getApp appId)
  | .listAppVersions appId => some (w.store.listAppVersions appId)
  | .getAppVersion id => some (w.store.getAppVersion id)
  | .getPackage id => some (w.store.buildPackages.get id)
  | .listBuilds => some w.store.imageBuilds.rows
  | .getBuild id => some (w.store.imageBuilds.get id)
  | .listArtifacts => some w.store.imageArtifacts.rows
  | .getArtifact id => some (w.store.imageArtifacts.get id)
  | .listContainers => some w.store.containers.rows
  | .getContainer id => some (w.store.containers.get id)
  | .listActiveTargetReferences => some (w.store.upgradeRolloutItems.rows.filter retainsUpgradeRolloutTarget)
  | .resolveImage reference => some (R.resolve w.runtime reference)
  | .validateImage _ _ | .validateCandidateImage _ _ | .stagePackages _ _ | .writeVersionManifest _
  | .publishStaged _ | .removeStaged _ | .checkStoredFiles _ | .beforeSave => some ()
  | _ => none

/-- A call of the store that may throw. -/
def stored {α : Type} (r : Stored (α × CatalogStore)) : Except Failure α × World ρ :=
  match r with
  | .ok (a, store) => (.ok a, { w with store := store })
  | .error message => (.error (.error message), w)

/-- What a call writes. -/
def write : (o : CatalogOp) → Option (Except Failure o.Answer × World ρ)
  | .lock => if w.locked then none else some (.ok (), { w with locked := true })
  | .unlock => some (.ok (), { w with locked := false })
  | .saveAppVersion version => some (w.stored (w.store.saveAppVersion version))
  | .createPackage pkg => some (w.stored (.ok (w.store.createBuildPackage pkg)))
  | .deleteBuildPackageIfUnreferenced id => some (w.stored (.ok (w.store.deleteBuildPackageIfUnreferenced id)))
  | .createBuild build => some (w.stored (w.store.createImageBuild build))
  | .updateBuild build expectedStatus => some (w.stored (.ok (w.store.updateImageBuild build expectedStatus)))
  | .completeBuild build artifact expectedStatus =>
    some (w.stored (.ok (w.store.completeImageBuild build artifact expectedStatus)))
  | .deleteImageArtifactIfUnreferenced id => some (w.stored (.ok (w.store.deleteImageArtifactIfUnreferenced id)))
  | .bindRelease appId versionId artifactId =>
    some (w.stored (.ok (w.store.bindAppVersionArtifact appId versionId artifactId)))
  | .saveContainer container =>
    some (.ok (), { w with store := { w.store with containers := w.store.containers.put container } })
  | .deleteContainer id =>
    some (.ok (), { w with store := { w.store with containers := w.store.containers.delete id } })
  | .createRolloutItems items =>
    some (.ok (), { w with store := { w.store with
      upgradeRolloutItems := items.foldl (fun table item => table.put item) w.store.upgradeRolloutItems } })
  | .updateRolloutItem item next =>
    if w.store.upgradeRolloutItems.get (item.rolloutId, item.instanceId) = some item then
      some (.ok true, { w with store := { w.store with upgradeRolloutItems := w.store.upgradeRolloutItems.put next } })
    else some (.ok false, w)
  | .removeImageIfCurrent imageReference imageId =>
    let r := R.removeImageIfCurrent w.runtime imageReference imageId
    some (.ok r.1, { w with runtime := r.2 })
  | _ => none

/-- What a call is told from outside. -/
def told : (o : CatalogOp) → CatalogChoice → Option (Except Failure o.Answer × World ρ)
  | .now, .text value => some (.ok value, w)
  | .randomId, .text value => if value ∈ w.ids then none else some (.ok value, { w with ids := value :: w.ids })
  | .hashPackage _ _, .digest value => some (.ok value, w)
  | .removeStorage _, .flag value => some (.ok value, w)
  | .buildImage _, .image reference id =>
    some (.ok (reference, id), { w with runtime := R.built w.runtime reference id })
  | .activateAppVersion appId versionId expectedCurrentVersionId, .text activatedAt =>
    some (w.stored (.ok (w.store.activateAppVersion appId versionId expectedCurrentVersionId activatedAt)))
  | _, _ => none

/-- The clock, new ids and the end of the lock do not fail. -/
def infallible : CatalogOp → Bool
  | .now | .randomId | .unlock => true
  | _ => false

def perform : (o : CatalogOp) → CatalogChoice → Option (Except Failure o.Answer × World ρ)
  | o, .fails error => if infallible o then none else some (.error error, w)
  | o, .go => (w.write R o).or ((w.read R o).map fun a => (.ok a, w))
  | o, x => w.told R o x

end World

/-! ## Threads -/

inductive CatalogCall
  | createRevision (appId : String) (packages : List ImageBuildPackage)
  | uploadInspectedVersion (appId : String) (input : InspectedAppVersion)
  | attachImage (appId versionId imageReference : String)
  | importImage (appId imageReference : String)
  | activateVersion (appId versionId : String) (expectedRevision : Option Int)
  | launchTarget (appId : String)
  | createPackage (pkg : BuildPackage)
  | createBuild (input : CreateImageBuildInput)
  | executeBuild (id : String)
  | cancelBuild (id : String)
  | bindRelease (appId versionId artifactId : String)
  | prune (previousRevisions : Nat)
  | deleteImageArtifact (id : String)
  | deleteBuildPackage (id : String)
  | provision (container : Container)
  | rebuildLatest (id : String)
  | deleteContainer (id : String)
  | createRollout (useLatestVersion : Bool) (template : Rollout.UpgradeRolloutItem) (instanceIds : List String)
  | progressItem (rolloutId instanceId : String) (status : Rollout.UpgradeRolloutItemStatus)
  | deployItem (rolloutId instanceId : String)

inductive CatalogResult
  | version (version : AppVersion)
  | target (target : AppLaunchTarget)
  | other

def CatalogCall.run (runtimeContractForApp : String → AppVersion → Option String) : CatalogCall → CatalogTask CatalogResult
  | .createRevision appId packages => .version <$> Catalog.createRevision appId packages
  | .uploadInspectedVersion appId input => .version <$> Catalog.uploadInspectedVersion appId input
  | .attachImage appId versionId imageReference =>
    .version <$> Catalog.attachImage runtimeContractForApp appId versionId imageReference
  | .importImage appId imageReference => .version <$> Catalog.importImage runtimeContractForApp appId imageReference
  | .activateVersion appId versionId expectedRevision => .version <$> Catalog.activateVersion appId versionId expectedRevision
  | .launchTarget appId => .target <$> Catalog.launchTarget appId
  | .createPackage pkg => (fun _ => .other) <$> ask (.createPackage pkg)
  | .createBuild input => (fun _ => .other) <$> Catalog.createBuild input
  | .executeBuild id => (fun _ => .other) <$> Catalog.executeBuild id
  | .cancelBuild id => (fun _ => .other) <$> finishBuild id .cancelled
  | .bindRelease appId versionId artifactId => .version <$> Catalog.bindRelease appId versionId artifactId
  | .prune previousRevisions => (fun _ => .other) <$> withActivationLock (Catalog.prune previousRevisions)
  | .deleteImageArtifact id => (fun _ => .other) <$> Catalog.deleteImageArtifact id
  | .deleteBuildPackage id => (fun _ => .other) <$> Catalog.deleteBuildPackage id
  | .provision container => (fun _ => .other) <$> Catalog.provision container
  | .rebuildLatest id => (fun _ => .other) <$> Catalog.rebuildLatest id
  | .deleteContainer id => (fun _ => .other) <$> ask (.deleteContainer id)
  | .createRollout useLatestVersion template instanceIds =>
    (fun _ => .other) <$> Catalog.createRollout useLatestVersion template instanceIds
  | .progressItem rolloutId instanceId status => (fun _ => .other) <$> Catalog.progressItem rolloutId instanceId status
  | .deployItem rolloutId instanceId => (fun _ => .other) <$> Catalog.deployItem rolloutId instanceId

/-- Each thread makes one call. -/
def catalogSystem {ρ : Type} (R : ImageRuntime ρ) (runtimeContractForApp : String → AppVersion → Option String) :
    System CatalogOp CatalogOp.Answer Failure (World ρ) CatalogChoice CatalogCall CatalogResult where
  perform := World.perform R
  body call := Sum.inr <$> call.run runtimeContractForApp

end OpenApp.Catalog
