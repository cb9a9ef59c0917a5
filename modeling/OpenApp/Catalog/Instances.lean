import OpenApp.Catalog.Cleanup

/-!
# What instances and rollouts take from the catalog

An instance is recorded with a snapshot of what was launched, and an item of a rollout with two, of what
the instance has and of what it is to get. Of provisioning, of a rebuild and of a rollout only this is
here.
-/

namespace OpenApp.Catalog

open Async Async.Prog Rollout

/-- The instance with what is launched for its App. -/
def pinned (container : Container) (target : AppLaunchTarget) : Container :=
  { container with
    appVersionId := some target.version.id
    imageArtifactId := target.version.imageArtifactId
    imageReference := some target.imageReference }

/-- A new instance is reserved with what is launched now. -/
def provision (container : Container) : CatalogTask Unit := do
  let target ← launchTarget container.appId
  ask (.saveContainer (pinned container target))

/-- An instance gets what is launched now, in place of what it has. -/
def rebuildLatest (id : String) : CatalogTask Unit := do
  let container ← required (← ask (.getContainer id)) (.error "container_not_found")
  let target ← launchTarget container.appId
  ask (.saveContainer (pinned container target))

/-- An item with the snapshots of its instance and of its target. -/
def itemFor (template : UpgradeRolloutItem) (container : Container) (target : Container) : UpgradeRolloutItem :=
  { template with
    instanceId := container.id
    appId := container.appId
    sourceAppVersionId := container.appVersionId
    sourceImageArtifactId := container.imageArtifactId
    sourceImageReference := container.imageReference
    targetAppVersionId := target.appVersionId
    targetImageArtifactId := target.imageArtifactId
    targetImageReference := target.imageReference.getD "" }

/-- `#resolveTarget`, as the snapshot an instance would have. -/
def resolveTarget (useLatestVersion : Bool) (container : Container) : CatalogTask Container :=
  if useLatestVersion then do
    let target ← launchTarget container.appId
    pure (pinned container target)
  else do
    throwIf (¬container.imageReference.any Script.truthy) (.error "app_version_not_ready")
    pure container

def createRollout (useLatestVersion : Bool) (template : UpgradeRolloutItem) (instanceIds : List String) :
    CatalogTask Unit := do
  let containers ← each (fun id => do
    required (← ask (.getContainer id)) (.error "container_not_found")) instanceIds
  let items ← each (fun container => itemFor template container <$> resolveTarget useLatestVersion container) containers
  ask (.createRolloutItems items)

/-- An item changes its status; what it comes from and what it goes to stay. -/
def progressItem (rolloutId instanceId : String) (status : UpgradeRolloutItemStatus) : CatalogTask Unit := do
  let items ← ask .listActiveTargetReferences
  let item ← required (items.find? fun item => item.rolloutId = rolloutId ∧ item.instanceId = instanceId)
    (.error "upgrade_rollout_item_not_found")
  let _ ← ask (.updateRolloutItem item { item with status := status })
  pure ()

/-- The instance of an item is rebuilt with its target, and the item has succeeded. -/
def deployItem (rolloutId instanceId : String) : CatalogTask Unit := do
  let items ← ask .listActiveTargetReferences
  let item ← required (items.find? fun item => item.rolloutId = rolloutId ∧ item.instanceId = instanceId)
    (.error "upgrade_rollout_item_not_found")
  let container ← required (← ask (.getContainer instanceId)) (.error "container_not_found")
  ask (.saveContainer { container with
    appVersionId := item.targetAppVersionId
    imageArtifactId := item.targetImageArtifactId
    imageReference := some item.targetImageReference })
  let _ ← ask (.updateRolloutItem item { item with status := .succeeded })
  pure ()

end OpenApp.Catalog
