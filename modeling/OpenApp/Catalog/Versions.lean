import OpenApp.Catalog.System

/-!
# What a call does to the versions

Of all the calls only three write a version: one saves it, one activates it, and one binds an artifact to
it. The first keeps the revision of a version that is there already.
-/

namespace OpenApp.Catalog

open Async Keyed Script

abbrev CatalogExchange := Exchange CatalogOp CatalogOp.Answer Failure

/-- The versions a call has found. -/
def versionsIn : CatalogExchange → List AppVersion
  | ⟨.getAppVersion _, .ok (some version)⟩ => [version]
  | ⟨.listAppVersions _, .ok versions⟩ => versions
  | _ => []

namespace CatalogStore

variable (s : CatalogStore)

/-- The version as it is saved. -/
def savedRow (version : AppVersion) : AppVersion :=
  withVersionPackageProjection { version with revision := some (s.savedRevision version) }

def withVersions (appVersions : Table AppVersion.id) : CatalogStore :=
  { s with appVersions := appVersions }

def activatedRows (appId versionId activatedAt : String) : Table AppVersion.id :=
  s.appVersions.sweep (activatedRow appId versionId activatedAt) (activatedRow_id appId versionId activatedAt)

end CatalogStore

/-- The version with the image of an artifact. -/
def boundRow (version : AppVersion) (artifact : ImageArtifact) : AppVersion :=
  { version with
    imageArtifactId := some artifact.id
    imageReference := some artifact.imageId
    runtimeContract := some artifact.runtimeContract
    status := .imageReady }

/-- What a call does to the versions, with its answer. -/
inductive VersionStep (s : CatalogStore) : (o : CatalogOp) → Except Failure o.Answer → Table AppVersion.id → Prop
  | kept {o : CatalogOp} {r : Except Failure o.Answer}
      (reads : ∀ version ∈ versionsIn ⟨o, r⟩, s.appVersions.get version.id = some version)
      (quiet : ∀ appId versionId expected version, (⟨o, r⟩ : CatalogExchange) ≠
        ⟨.activateAppVersion appId versionId expected, .ok (some version)⟩) : VersionStep s o r s.appVersions
  | saved {version : AppVersion} :
      VersionStep s (.saveAppVersion version) (.ok (some (s.savedRow version))) (s.appVersions.put (s.savedRow version))
  | activated {appId versionId activatedAt : String} {expected : Option (Option String)} {target : AppVersion}
      (there : s.appVersions.get versionId = some target) (app : target.appId = toLowerCase (trim appId))
      (current : ∀ id ∈ expected, id = (s.current target.appId).map AppVersion.id) :
      VersionStep s (.activateAppVersion appId versionId expected)
        (.ok (some (activatedRow target.appId versionId activatedAt target)))
        (s.activatedRows target.appId versionId activatedAt)
  | bound {appId versionId artifactId : String} {version : AppVersion} {artifact : ImageArtifact}
      (there : s.appVersions.get versionId = some version) (uploaded : version.status = .uploaded) :
      VersionStep s (.bindRelease appId versionId artifactId) (.ok (some (boundRow version artifact)))
        (s.appVersions.put (boundRow version artifact))

section Step

variable {ρ : Type} {R : ImageRuntime ρ} {w w' : World ρ}

theorem mem_listAppVersions {s : CatalogStore} {appId : String} {version : AppVersion} :
    version ∈ s.listAppVersions appId ↔
      s.appVersions.get version.id = some version ∧ version.appId = toLowerCase (trim appId) := by
  unfold CatalogStore.listAppVersions CatalogStore.versionsOf
  rw [List.mem_insertionSort, List.mem_filter, decide_eq_true_eq, Table.mem_iff]

theorem save_step {version : AppVersion} {r : Except Failure (Option AppVersion)}
    (h : w.stored (w.store.saveAppVersion version) = (r, w')) :
    VersionStep w.store (.saveAppVersion version) r w'.store.appVersions := by
  unfold CatalogStore.saveAppVersion World.stored at h
  split at h
  · next a store heq =>
    split at heq
    · cases heq
    · split at heq
      · cases heq
      · split at heq
        · cases heq
          cases h
          exact .kept (by simp [versionsIn]) (by simp)
        · cases heq
          cases h
          exact .saved
  · cases h
    exact .kept (by simp [versionsIn]) (by simp)

theorem activate_step {appId versionId activatedAt : String} {expected : Option (Option String)}
    {r : Except Failure (Option AppVersion)}
    (h : w.stored (.ok (w.store.activateAppVersion appId versionId expected activatedAt)) = (r, w')) :
    VersionStep w.store (.activateAppVersion appId versionId expected) r w'.store.appVersions := by
  unfold CatalogStore.activateAppVersion World.stored at h
  dsimp only at h
  split at h
  · cases h
    exact .kept (by simp [versionsIn]) (by simp)
  · next target there =>
    split at h
    · cases h
      exact .kept (by simp [versionsIn]) (by simp)
    · next happ =>
      have happ : target.appId = toLowerCase (trim appId) := by simpa using happ
      split at h
      · cases h
        exact .kept (by simp [versionsIn]) (by simp)
      · next hexpected =>
        cases h
        rw [← happ] at hexpected ⊢
        have hrow : (w.store.activatedRows target.appId versionId activatedAt).get versionId =
            some (activatedRow target.appId versionId activatedAt target) := by
          rw [CatalogStore.activatedRows, Table.get_sweep, there]
          rfl
        change VersionStep w.store (.activateAppVersion appId versionId expected)
          (.ok ((w.store.activatedRows target.appId versionId activatedAt).get versionId))
          (w.store.activatedRows target.appId versionId activatedAt)
        rw [hrow]
        apply VersionStep.activated there happ
        intro id hid
        cases hid
        simpa using hexpected

theorem bind_step {appId versionId artifactId : String} {r : Except Failure (Option AppVersion)}
    (h : w.stored (.ok (w.store.bindAppVersionArtifact appId versionId artifactId)) = (r, w')) :
    VersionStep w.store (.bindRelease appId versionId artifactId) r w'.store.appVersions := by
  unfold CatalogStore.bindAppVersionArtifact World.stored at h
  dsimp only at h
  split at h
  · next app version artifact happ there hartifact =>
    split at h
    · cases h
      exact .kept (by simp [versionsIn]) (by simp)
    · next hok =>
      cases h
      simp only [not_or, not_not] at hok
      exact .bound there hok.2.2
  · cases h
    exact .kept (by simp [versionsIn]) (by simp)

/-- A call that leaves the versions as they are, and looks at none. -/
theorem VersionStep.of_eq {s : CatalogStore} {o : CatalogOp} {r : Except Failure o.Answer} {versions : Table AppVersion.id}
    (heq : versions = s.appVersions) (hnone : versionsIn ⟨o, r⟩ = [])
    (hquiet : ∀ appId versionId expected, o ≠ .activateAppVersion appId versionId expected) : VersionStep s o r versions := by
  rw [heq]
  apply VersionStep.kept
  · rw [hnone]
    simp
  · intro appId versionId expected version h
    cases h
    exact hquiet _ _ _ rfl

theorem fails_step {o : CatalogOp} {s : CatalogStore} (error : Failure) : VersionStep s o (.error error) s.appVersions := by
  apply VersionStep.kept
  · intro version hversion
    cases o <;> cases hversion
  · intro appId versionId expected version h
    cases h

theorem read_step {o : CatalogOp} {a : o.Answer} (h : w.read R o = some a) :
    VersionStep w.store o (.ok a) w.store.appVersions := by
  cases o <;> simp only [World.read, reduceCtorEq, Option.some.injEq] at h
  case listAppVersions appId =>
    subst h
    apply VersionStep.kept
    · intro version hversion
      exact (mem_listAppVersions.1 hversion).1
    · simp
  case getAppVersion id =>
    subst h
    apply VersionStep.kept
    · intro version hversion
      unfold CatalogStore.getAppVersion at hversion
      cases hget : w.store.appVersions.get id with
      | none =>
        rw [hget] at hversion
        cases hversion
      | some found =>
        rw [hget] at hversion
        cases List.mem_singleton.1 hversion
        rwa [Table.key_of_get hget]
    · simp
  all_goals exact .of_eq rfl rfl (by simp)

theorem stored_kept {α : Type} {x : Stored (α × CatalogStore)} {r : Except Failure α}
    (hx : ∀ a s, x = .ok (a, s) → s.appVersions = w.store.appVersions) (h : w.stored x = (r, w')) :
    w'.store.appVersions = w.store.appVersions := by
  cases x with
  | ok found =>
    cases h
    exact hx found.1 found.2 rfl
  | error message =>
    cases h
    rfl

theorem createImageBuild_kept {s s' : CatalogStore} {build : ImageBuild} {a : Option ImageBuild}
    (h : s.createImageBuild build = .ok (a, s')) : s'.appVersions = s.appVersions := by
  unfold CatalogStore.createImageBuild at h
  split at h
  · cases h
    rfl
  · split at h
    · cases h
    · split at h
      · cases h
      · cases h
        rfl

theorem createBuildPackage_kept (s : CatalogStore) (pkg : BuildPackage) :
    (s.createBuildPackage pkg).2.appVersions = s.appVersions := by
  unfold CatalogStore.createBuildPackage
  split <;> rfl

theorem deleteBuildPackage_kept (s : CatalogStore) (id : String) :
    (s.deleteBuildPackageIfUnreferenced id).2.appVersions = s.appVersions := by
  unfold CatalogStore.deleteBuildPackageIfUnreferenced
  split
  · rfl
  · split <;> rfl

theorem updateImageBuild_kept (s : CatalogStore) (build : ImageBuild) (expectedStatus : ImageBuildStatus) :
    (s.updateImageBuild build expectedStatus).2.appVersions = s.appVersions := by
  unfold CatalogStore.updateImageBuild
  split
  · rfl
  · split <;> rfl

theorem completeImageBuild_kept (s : CatalogStore) (build : ImageBuild) (artifact : ImageArtifact)
    (expectedStatus : ImageBuildStatus) :
    (s.completeImageBuild build artifact expectedStatus).2.appVersions = s.appVersions := by
  unfold CatalogStore.completeImageBuild
  split
  · rfl
  · split
    · rfl
    · split <;> rfl

theorem deleteImageArtifact_kept (s : CatalogStore) (id : String) :
    (s.deleteImageArtifactIfUnreferenced id).2.appVersions = s.appVersions := by
  unfold CatalogStore.deleteImageArtifactIfUnreferenced
  split
  · rfl
  · split <;> rfl

theorem write_step {o : CatalogOp} {r : Except Failure o.Answer} (h : w.write R o = some (r, w')) :
    VersionStep w.store o r w'.store.appVersions := by
  cases o <;> simp only [World.write, reduceCtorEq, Option.some.injEq] at h
  case saveAppVersion version => exact save_step h
  case bindRelease appId versionId artifactId => exact bind_step h
  case lock =>
    split at h
    · cases h
    · cases h
      exact .of_eq rfl rfl (by simp)
  case updateRolloutItem item next =>
    split at h <;> cases h <;> exact .of_eq rfl rfl (by simp)
  case createBuild build =>
    apply VersionStep.of_eq (stored_kept _ h) (by cases r <;> rfl) (by simp)
    intro a s heq
    exact createImageBuild_kept heq
  case createPackage pkg =>
    cases h
    exact .of_eq (createBuildPackage_kept _ _) rfl (by simp)
  case deleteBuildPackageIfUnreferenced id =>
    cases h
    exact .of_eq (deleteBuildPackage_kept _ _) rfl (by simp)
  case updateBuild build expectedStatus =>
    cases h
    exact .of_eq (updateImageBuild_kept _ _ _) rfl (by simp)
  case completeBuild build artifact expectedStatus =>
    cases h
    exact .of_eq (completeImageBuild_kept _ _ _ _) rfl (by simp)
  case deleteImageArtifactIfUnreferenced id =>
    cases h
    exact .of_eq (deleteImageArtifact_kept _ _) rfl (by simp)
  all_goals
    cases h
    exact .of_eq rfl rfl (by simp)

theorem told_step {o : CatalogOp} {x : CatalogChoice} {r : Except Failure o.Answer} (h : w.told R o x = some (r, w')) :
    VersionStep w.store o r w'.store.appVersions := by
  unfold World.told at h
  split at h
  · cases h
    exact .of_eq rfl rfl (by simp)
  · split at h
    · cases h
    · cases h
      exact .of_eq rfl rfl (by simp)
  · cases h
    exact .of_eq rfl rfl (by simp)
  · cases h
    exact .of_eq rfl rfl (by simp)
  · cases h
    exact .of_eq rfl rfl (by simp)
  · cases h
    exact activate_step rfl
  · cases h

/-- Every call does one of these to the versions. -/
theorem perform_step {o : CatalogOp} {x : CatalogChoice} {r : Except Failure o.Answer}
    (h : World.perform R w o x = some (r, w')) : VersionStep w.store o r w'.store.appVersions := by
  unfold World.perform at h
  split at h
  · split at h
    · cases h
    · cases h
      exact fails_step _
  · rcases Option.or_eq_some_iff.1 h with h | ⟨-, h⟩
    · exact write_step h
    · obtain ⟨a, ha, heq⟩ := Option.map_eq_some_iff.1 h
      cases heq
      exact read_step ha
  · exact told_step h

end Step

end OpenApp.Catalog
