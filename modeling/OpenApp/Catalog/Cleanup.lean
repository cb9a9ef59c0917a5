import OpenApp.Catalog.Builds

/-!
# What is no longer needed

Old versions are archived and give up their packages and images; packages and images that nothing
refers to are deleted.
-/

namespace OpenApp.Catalog

open Async Async.Prog Rollout Script

/-! ## What keeps a version -/

def targetMatchesVersion (reference : UpgradeRolloutItem) (version : AppVersion) : Bool :=
  reference.sourceAppVersionId = some version.id
    || (version.imageArtifactId.any fun id => reference.sourceImageArtifactId = some id)
    || (version.imageReference.any fun image => reference.sourceImageReference = some image)
    || reference.targetAppVersionId = some version.id
    || (version.imageArtifactId.any fun id => reference.targetImageArtifactId = some id)
    || version.imageReference.any fun image => reference.targetImageReference = image

/-- `artifactsByBuildId.get(buildId)`: of several artifacts the last one counts. -/
def artifactOfBuild (artifacts : List ImageArtifact) (buildId : String) : Option ImageArtifact :=
  artifacts.reverse.find? fun artifact => artifact.buildId = buildId

def hasProtectedBuild (version : AppVersion) (builds : List ImageBuild) (artifacts : List ImageArtifact) : Bool :=
  builds.any fun build => build.sourceAppVersionId = some version.id &&
    match build.status with
    | .queued | .building => true
    | .succeeded => (artifactOfBuild artifacts build.id).any fun artifact => version.imageArtifactId ≠ some artifact.id
    | _ => false

def hasTerminalBuild (versionId : String) (builds : List ImageBuild) : Bool :=
  builds.any fun build => build.sourceAppVersionId = some versionId && (build.status = .failed || build.status = .cancelled)

/-- A revision, where there is one that is not zero. -/
def hasRevision (version : AppVersion) : Bool :=
  version.revision.any (· ≠ 0)

/-- The revisions before the current one that are kept to go back to. -/
def retainedRevisions (previousRevisions : Nat) (current : AppVersion) (versions : List AppVersion) : List String :=
  (((versions.filter fun version => decide (version.id ≠ current.id) && decide (version.status = .imageReady) &&
      version.imageReference.any truthy && hasRevision version).insertionSort fun left right =>
        right.revision.getD 0 ≤ left.revision.getD 0).take previousRevisions).map AppVersion.id

/-- What `prune` reads before it writes. -/
structure Snapshot where
  containers : List Container
  builds : List ImageBuild
  imageArtifacts : List ImageArtifact
  activeRolloutTargets : List UpgradeRolloutItem

/-- A version that is archived. -/
def eligible (snapshot : Snapshot) (retained : List String) (current version : AppVersion) : Bool :=
  version.id ≠ current.id && !retained.contains version.id
    && !(snapshot.containers.any fun container => container.appVersionId = some version.id)
    && !(snapshot.activeRolloutTargets.any fun target => targetMatchesVersion target version)
    && !hasProtectedBuild version snapshot.builds snapshot.imageArtifacts
    && hasRevision version
    && version.status ≠ .active && version.status ≠ .legacy && version.status ≠ .archived
    && (version.status = .imageReady || hasTerminalBuild version.id snapshot.builds)

/-- What an archived version has given up. -/
def archived (version : AppVersion) : AppVersion :=
  { version with
    packages := (packagesForVersion version).map fun pkg => { pkg with packageId := none }
    imageArtifactId := none
    imageReference := none
    runtimeContract := none
    status := .archived
    activatedAt := none }

def packageIdsOf (packages : List ImageBuildPackage) : List String :=
  packages.filterMap fun pkg => pkg.packageId.filter truthy

/-! ## Deletion -/

/-- `/^[A-Za-z0-9][A-Za-z0-9._-]{0,127}$/u`, trimmed -/
def normalizeResourceId (value : String) : Except Failure String :=
  let id := trim value
  match id.toList with
  | [] => .error (.cleanup "invalid_resource_id")
  | c :: cs =>
    if c.isAlphanum && cs.length ≤ 127 && cs.all fun c => c.isAlphanum || c = '.' || c = '_' || c = '-' then .ok id
    else .error (.cleanup "invalid_resource_id")

/-- What is read for a preview; `blocked` is what it finds of the resource. -/
def preview (blocked : Snapshot → List AppVersion → Bool) : CatalogTask Bool := do
  let apps ← ask .listApps
  let builds ← ask .listBuilds
  let imageArtifacts ← ask .listArtifacts
  let containers ← ask .listContainers
  let activeRolloutTargets ← ask .listActiveTargetReferences
  let versions ← each (fun app => ask (.listAppVersions app.id)) apps
  pure (blocked ⟨containers, builds, imageArtifacts, activeRolloutTargets⟩ versions.flatten)

/-- A package that a version or a build refers to. -/
def packageBlocked (id : String) (snapshot : Snapshot) (versions : List AppVersion) : Bool :=
  (versions.any fun version => usesPackage version.packages id)
    || snapshot.builds.any fun build => usesPackage build.packages id

/-- `targetMatchesArtifact` -/
def targetMatchesArtifact (reference : UpgradeRolloutItem) (artifact : ImageArtifact) (versions : List AppVersion) : Bool :=
  reference.sourceImageArtifactId = some artifact.id || reference.sourceImageReference = some artifact.imageReference
    || reference.sourceImageReference = some artifact.imageId || reference.targetImageArtifactId = some artifact.id
    || reference.targetImageReference = artifact.imageReference || reference.targetImageReference = artifact.imageId
    || versions.any fun version =>
      (reference.sourceAppVersionId = some version.id || reference.targetAppVersionId = some version.id) &&
        (version.imageArtifactId = some artifact.id || version.imageReference = some artifact.imageReference
          || version.imageReference = some artifact.imageId)

/-- An artifact that a version, an instance, a build that is not bound yet or a rollout refers to. -/
def artifactBlocked (id : String) (snapshot : Snapshot) (versions : List AppVersion) : Bool :=
  snapshot.imageArtifacts.any fun artifact => artifact.id = id &&
    ((versions.any fun version => version.imageArtifactId = some id)
      || (snapshot.containers.any fun container => container.imageArtifactId = some id)
      || (snapshot.builds.any fun build => build.id = artifact.buildId && versions.any fun source =>
        build.sourceAppVersionId = some source.id && source.status = .uploaded && source.imageArtifactId ≠ some id)
      || snapshot.activeRolloutTargets.any fun target => targetMatchesArtifact target artifact versions)

/-- `#deleteBuildPackage`; what blocks it is not part of the error here. -/
def deleteBuildPackageWith (id : String) (skipInitialPreview : Bool) : CatalogTask Bool := do
  let normalizedId ← fromExcept (normalizeResourceId id)
  let _ ← required (← ask (.getPackage normalizedId)) (.cleanup "build_package_not_found")
  if skipInitialPreview then pure () else do
    let blocked ← preview (packageBlocked normalizedId)
    throwIf (blocked = true) (.cleanup "resource_in_use")
  let deleted ← required (← ask (.deleteBuildPackageIfUnreferenced normalizedId)) (.cleanup "resource_in_use")
  let removed ← settle (ask (.removeStorage deleted.id))
  pure (removed = .ok true)

/-- `#deleteImageArtifact` -/
def deleteImageArtifactWith (id : String) (skipInitialPreview : Bool) : CatalogTask Bool := do
  let normalizedId ← fromExcept (normalizeResourceId id)
  let _ ← required (← ask (.getArtifact normalizedId)) (.cleanup "image_artifact_not_found")
  if skipInitialPreview then pure () else do
    let blocked ← preview (artifactBlocked normalizedId)
    throwIf (blocked = true) (.cleanup "resource_in_use")
  let deleted ← required (← ask (.deleteImageArtifactIfUnreferenced normalizedId)) (.cleanup "resource_in_use")
  let removed ← settle (ask (.removeImageIfCurrent deleted.imageReference deleted.imageId))
  pure (removed = .ok true)

def deleteBuildPackage (id : String) : CatalogTask Bool :=
  deleteBuildPackageWith id false

def deleteImageArtifact (id : String) : CatalogTask Bool :=
  deleteImageArtifactWith id false

/-! ## Pruning -/

/-- What was archived, and what it referred to. -/
structure Pruned where
  retiredRevisionIds : List String
  packageIds : List String
  artifactIds : List String

def Pruned.append (left right : Pruned) : Pruned :=
  ⟨left.retiredRevisionIds ++ right.retiredRevisionIds, left.packageIds ++ right.packageIds,
    left.artifactIds ++ right.artifactIds⟩

/-- One version is archived; what it referred to is collected even if it is not saved. -/
def pruneVersion (version : AppVersion) : CatalogTask Pruned := do
  let packageIds := packageIdsOf (packagesForVersion version)
  let artifactIds := (version.imageArtifactId.filter truthy).toList
  match ← ask (.saveAppVersion (archived version)) with
  | none => pure ⟨[], packageIds, artifactIds⟩
  | some saved => do
    let _ ← settle (ask (.removeStorage saved.id))
    pure ⟨[saved.id], packageIds, artifactIds⟩

def pruneApp (snapshot : Snapshot) (previousRevisions : Nat) (app : AppDefinition) : CatalogTask Pruned := do
  let versions ← ask (.listAppVersions app.id)
  -- the files of a version that was archived earlier may still be there
  let _ ← each (fun version => settle (ask (.removeStorage version.id))) (versions.filter (·.status = .archived))
  match (currentOf versions).filter hasRevision with
  | none => pure ⟨[], [], []⟩
  | some current => do
    let retained := retainedRevisions previousRevisions current versions
    let pruned ← each pruneVersion (versions.filter (eligible snapshot retained current))
    pure (pruned.foldr Pruned.append ⟨[], [], []⟩)

/-- A finished build of an archived version gives up its packages. -/
def releaseBuild (retired : List String) (build : ImageBuild) : CatalogTask (List String) := do
  if ¬(build.sourceAppVersionId.filter truthy).any (retired.contains ·) ∨ build.status = .queued ∨ build.status = .building
      ∨ packageIdsOf build.packages = [] then pure []
  else
    match ← ask (.updateBuild { build with
      packages := build.packages.map fun pkg => { pkg with packageId := none } } build.status) with
    | none => pure []
    | some _ => pure (packageIdsOf build.packages)

/-- What is still referred to, or gone already, is left alone. -/
def ifUnused (missing : String) (delete : CatalogTask Bool) : CatalogTask Unit :=
  tryCatch (do
    let _ ← delete
    pure ()) fun e => throwIf (e ≠ .cleanup "resource_in_use" ∧ e ≠ .cleanup missing) e

def prune (previousRevisions : Nat) : CatalogTask Pruned := do
  throwIf (previousRevisions < 1 ∨ 20 < previousRevisions) (.cleanup "invalid_cleanup_retention")
  let apps ← ask .listApps
  let containers ← ask .listContainers
  let builds ← ask .listBuilds
  let imageArtifacts ← ask .listArtifacts
  let activeRolloutTargets ← ask .listActiveTargetReferences
  let snapshot : Snapshot := ⟨containers, builds, imageArtifacts, activeRolloutTargets⟩
  let pruned := (← each (pruneApp snapshot previousRevisions) apps).foldr Pruned.append ⟨[], [], []⟩
  let released := (← each (releaseBuild pruned.retiredRevisionIds) builds).flatten
  let _ ← each (fun id => ifUnused "image_artifact_not_found" (deleteImageArtifactWith id true)) pruned.artifactIds.dedup
  let _ ← each (fun id => ifUnused "build_package_not_found" (deleteBuildPackageWith id true))
    (pruned.packageIds ++ released).dedup
  pure pruned

end OpenApp.Catalog
