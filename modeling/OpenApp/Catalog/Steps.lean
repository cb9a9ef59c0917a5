import OpenApp.Catalog.Versions

/-!
# What a call does to the store

One case for each call that writes, with what the store has checked before it writes.
-/

namespace OpenApp.Catalog

open Async Keyed Script

/-- No package that is named is missing. -/
def HasPackages (s : CatalogStore) (packages : List ImageBuildPackage) : Prop :=
  ∀ pkg ∈ packages, ∀ id ∈ pkg.packageId, truthy id = true → (s.buildPackages.get id).isSome = true

theorem hasPackages_iff {s : CatalogStore} {packages : List ImageBuildPackage} :
    missesPackage s.buildPackages packages = false ↔ HasPackages s packages := by
  unfold missesPackage HasPackages
  rw [List.any_eq_false]
  refine forall₂_congr fun pkg _ => ?_
  cases pkg.packageId with
  | none => simp
  | some id => cases hget : s.buildPackages.get id <;> simp [hget]

inductive StoreStep (s : CatalogStore) : CatalogOp → CatalogStore → Prop
  | kept {o : CatalogOp} : StoreStep s o s
  | saved {version : AppVersion} (app : (s.apps.get version.appId).isSome = true) (packages : HasPackages s version.packages)
      (named : ∀ item ∈ s.appVersions.rows, item.appId = version.appId → item.version = version.version → item.id = version.id) :
      StoreStep s (.saveAppVersion version) (s.withVersions (s.appVersions.put (s.savedRow version)))
  | activated {appId versionId activatedAt : String} {expected : Option (Option String)} {target : AppVersion}
      (there : s.appVersions.get versionId = some target) :
      StoreStep s (.activateAppVersion appId versionId expected) (s.withVersions (s.activatedRows target.appId versionId activatedAt))
  | bound {appId versionId artifactId : String} {version : AppVersion} {artifact : ImageArtifact}
      (there : s.appVersions.get versionId = some version) (left : s.imageArtifacts.get artifactId = some artifact)
      (uploaded : version.status = .uploaded) :
      StoreStep s (.bindRelease appId versionId artifactId) (s.withVersions (s.appVersions.put (boundRow version artifact)))
  | packageCreated {pkg : BuildPackage} (new : s.buildPackages.get pkg.id = none) :
      StoreStep s (.createPackage pkg) { s with buildPackages := s.buildPackages.put pkg }
  | packageDeleted {id : String} (unusedByVersion : ∀ version ∈ s.appVersions.rows, usesPackage version.packages id = false)
      (unusedByBuild : ∀ build ∈ s.imageBuilds.rows, usesPackage build.packages id = false) :
      StoreStep s (.deleteBuildPackageIfUnreferenced id) { s with buildPackages := s.buildPackages.delete id }
  | buildCreated {build : ImageBuild} (new : s.imageBuilds.get build.id = none)
      (source : ∀ id ∈ build.sourceAppVersionId, truthy id = true → (s.appVersions.get id).isSome = true)
      (packages : HasPackages s build.packages) :
      StoreStep s (.createBuild build) { s with imageBuilds := s.imageBuilds.put build }
  | buildUpdated {build current : ImageBuild} {expectedStatus : ImageBuildStatus}
      (there : s.imageBuilds.get build.id = some current) (expected : current.status = expectedStatus) :
      StoreStep s (.updateBuild build expectedStatus) { s with imageBuilds := s.imageBuilds.put build }
  | buildCompleted {build current : ImageBuild} {artifact : ImageArtifact} {expectedStatus : ImageBuildStatus}
      (there : s.imageBuilds.get build.id = some current) (expected : current.status = expectedStatus)
      (own : artifact.buildId = build.id) (new : s.imageArtifacts.get artifact.id = none)
      (only : ∀ candidate ∈ s.imageArtifacts.rows, candidate.buildId ≠ artifact.buildId) :
      StoreStep s (.completeBuild build artifact expectedStatus)
        { s with imageBuilds := s.imageBuilds.put build, imageArtifacts := s.imageArtifacts.put artifact }
  | artifactDeleted {id : String} (unused : ∀ version ∈ s.appVersions.rows, version.imageArtifactId ≠ some id) :
      StoreStep s (.deleteImageArtifactIfUnreferenced id) { s with imageArtifacts := s.imageArtifacts.delete id }
  | elsewhere {o : CatalogOp} {containers : Table Container.id}
      {upgradeRolloutItems : Table fun item : Rollout.UpgradeRolloutItem => (item.rolloutId, item.instanceId)} :
      StoreStep s o { s with containers := containers, upgradeRolloutItems := upgradeRolloutItems }

section Step

variable {ρ : Type} {R : ImageRuntime ρ} {w w' : World ρ}

theorem saveAppVersion_step (s : CatalogStore) (version : AppVersion) {a : Option AppVersion} {s' : CatalogStore}
    (h : s.saveAppVersion version = .ok (a, s')) : StoreStep s (.saveAppVersion version) s' := by
  unfold CatalogStore.saveAppVersion at h
  split at h
  · cases h
  · next happ =>
    split at h
    · cases h
    · next hpackages =>
      split at h
      · cases h
        exact .kept
      · next hnamed =>
        cases h
        refine .saved ?_ (hasPackages_iff.1 (by simpa using hpackages)) fun item hitem happ hname => ?_
        · cases hget : s.apps.get version.appId with
          | none => exact absurd (by rw [hget]; rfl) happ
          | some app => rfl
        · by_contra hne
          exact hnamed (List.any_eq_true.2 ⟨item, hitem, by simp [happ, hname, hne]⟩)

theorem activateAppVersion_step (s : CatalogStore) (appId versionId activatedAt : String) (expected : Option (Option String)) :
    StoreStep s (.activateAppVersion appId versionId expected) (s.activateAppVersion appId versionId expected activatedAt).2 := by
  unfold CatalogStore.activateAppVersion
  dsimp only
  split
  · exact .kept
  · next target there =>
    split
    · exact .kept
    · next happ =>
      split
      · exact .kept
      · have happ : target.appId = toLowerCase (trim appId) := by simpa using happ
        rw [← happ]
        exact .activated there

theorem bindAppVersionArtifact_step (s : CatalogStore) (appId versionId artifactId : String) :
    StoreStep s (.bindRelease appId versionId artifactId) (s.bindAppVersionArtifact appId versionId artifactId).2 := by
  unfold CatalogStore.bindAppVersionArtifact
  split
  · next app version artifact happ there left =>
    split
    · exact .kept
    · next hok =>
      simp only [not_or, not_not] at hok
      exact .bound there left hok.2.2
  · exact .kept

theorem createBuildPackage_step (s : CatalogStore) (pkg : BuildPackage) :
    StoreStep s (.createPackage pkg) (s.createBuildPackage pkg).2 := by
  unfold CatalogStore.createBuildPackage
  split
  · exact .kept
  · next hnew => exact .packageCreated (by simpa using hnew)

theorem deleteBuildPackage_step (s : CatalogStore) (id : String) :
    StoreStep s (.deleteBuildPackageIfUnreferenced id) (s.deleteBuildPackageIfUnreferenced id).2 := by
  unfold CatalogStore.deleteBuildPackageIfUnreferenced
  split
  · exact .kept
  · split
    · exact .kept
    · next hunused =>
      rw [Bool.or_eq_true, not_or, Bool.not_eq_true, Bool.not_eq_true, List.any_eq_false, List.any_eq_false] at hunused
      exact .packageDeleted (fun version h => by simpa using hunused.1 version h) fun build h => by simpa using hunused.2 build h

theorem createImageBuild_step (s : CatalogStore) (build : ImageBuild) {a : Option ImageBuild} {s' : CatalogStore}
    (h : s.createImageBuild build = .ok (a, s')) : StoreStep s (.createBuild build) s' := by
  unfold CatalogStore.createImageBuild at h
  split at h
  · cases h
    exact .kept
  · next hnew =>
    split at h
    · cases h
    · next hsource =>
      split at h
      · cases h
      · next hpackages =>
        cases h
        refine .buildCreated (by simpa using hnew) (fun id hid htruthy => ?_) (hasPackages_iff.1 (by simpa using hpackages))
        rw [Option.mem_def] at hid
        cases hget : s.appVersions.get id <;> simp_all

theorem updateImageBuild_step (s : CatalogStore) (build : ImageBuild) (expectedStatus : ImageBuildStatus) :
    StoreStep s (.updateBuild build expectedStatus) (s.updateImageBuild build expectedStatus).2 := by
  unfold CatalogStore.updateImageBuild
  split
  · exact .kept
  · next current there =>
    split
    · exact .kept
    · next hexpected => exact .buildUpdated there (by simpa using hexpected)

theorem completeImageBuild_step (s : CatalogStore) (build : ImageBuild) (artifact : ImageArtifact) (expectedStatus : ImageBuildStatus) :
    StoreStep s (.completeBuild build artifact expectedStatus) (s.completeImageBuild build artifact expectedStatus).2 := by
  unfold CatalogStore.completeImageBuild
  split
  · exact .kept
  · next current there =>
    split
    · exact .kept
    · next hexpected =>
      rw [not_or, not_not, not_not] at hexpected
      split
      · exact .kept
      · next hnew =>
        rw [Bool.or_eq_true, not_or, Bool.not_eq_true, Bool.not_eq_true, List.any_eq_false] at hnew
        exact .buildCompleted there hexpected.1 hexpected.2 (by simpa using hnew.1) fun candidate h => by simpa using hnew.2 candidate h

theorem deleteImageArtifact_step (s : CatalogStore) (id : String) :
    StoreStep s (.deleteImageArtifactIfUnreferenced id) (s.deleteImageArtifactIfUnreferenced id).2 := by
  unfold CatalogStore.deleteImageArtifactIfUnreferenced
  split
  · exact .kept
  · split
    · exact .kept
    · next hunused =>
      rw [Bool.or_eq_true, Bool.or_eq_true, not_or, not_or, Bool.not_eq_true, List.any_eq_false] at hunused
      exact .artifactDeleted fun version h => by simpa using hunused.1.1 version h

theorem stored_step {α : Type} {o : CatalogOp} {x : Stored (α × CatalogStore)} {r : Except Failure α}
    (hx : ∀ a s, x = .ok (a, s) → StoreStep w.store o s) (h : w.stored x = (r, w')) : StoreStep w.store o w'.store := by
  cases x with
  | ok found =>
    cases h
    exact hx found.1 found.2 rfl
  | error message =>
    cases h
    exact .kept

theorem write_stored {o : CatalogOp} {r : Except Failure o.Answer} (h : w.write R o = some (r, w')) :
    StoreStep w.store o w'.store := by
  cases o <;> simp only [World.write, reduceCtorEq, Option.some.injEq] at h
  case saveAppVersion version => exact stored_step (fun a s heq => saveAppVersion_step _ version heq) h
  case createBuild build => exact stored_step (fun a s heq => createImageBuild_step _ build heq) h
  case bindRelease appId versionId artifactId => cases h; exact bindAppVersionArtifact_step _ _ _ _
  case createPackage pkg => cases h; exact createBuildPackage_step _ _
  case deleteBuildPackageIfUnreferenced id => cases h; exact deleteBuildPackage_step _ _
  case updateBuild build expectedStatus => cases h; exact updateImageBuild_step _ _ _
  case completeBuild build artifact expectedStatus => cases h; exact completeImageBuild_step _ _ _ _
  case deleteImageArtifactIfUnreferenced id => cases h; exact deleteImageArtifact_step _ _
  case lock => split at h <;> cases h; exact .kept
  case unlock => cases h; exact .kept
  case removeImageIfCurrent => cases h; exact .kept
  case updateRolloutItem item next =>
    split at h
    · cases h; exact .elsewhere
    · cases h; exact .kept
  all_goals
    cases h
    exact .elsewhere

theorem told_stored {o : CatalogOp} {x : CatalogChoice} {r : Except Failure o.Answer} (h : w.told R o x = some (r, w')) :
    StoreStep w.store o w'.store := by
  unfold World.told at h
  split at h
  · cases h; exact .kept
  · split at h
    · cases h
    · cases h; exact .kept
  · cases h; exact .kept
  · cases h; exact .kept
  · cases h; exact .kept
  · cases h; exact activateAppVersion_step _ _ _ _ _
  · cases h

theorem perform_stored {o : CatalogOp} {x : CatalogChoice} {r : Except Failure o.Answer}
    (h : World.perform R w o x = some (r, w')) : StoreStep w.store o w'.store := by
  unfold World.perform at h
  split at h
  · split at h
    · cases h
    · cases h
      exact .kept
  · rcases Option.or_eq_some_iff.1 h with h | ⟨-, h⟩
    · exact write_stored h
    · obtain ⟨a, -, heq⟩ := Option.map_eq_some_iff.1 h
      cases heq
      exact .kept
  · exact told_stored h

end Step

end OpenApp.Catalog
