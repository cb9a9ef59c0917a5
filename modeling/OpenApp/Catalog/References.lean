import OpenApp.Catalog.BuildLife
import OpenApp.Catalog.Numbering

/-!
# What the rows of the catalog refer to

The store checks a reference when it writes one and looks for references before it deletes. A build is written
without a check, but only as it was read or without its packages. So nothing that is referred to is ever missing,
whatever is pruned and deleted while versions and builds are written.
-/

namespace OpenApp.Catalog

open Async Async.Prog Keyed Script

/-- What a version refers to is there, and it has the image of the artifact it is bound to. -/
structure VersionRefers (s : CatalogStore) (version : AppVersion) : Prop where
  app : (s.apps.get version.appId).isSome = true
  packages : HasPackages s version.packages
  artifact : ∀ id ∈ version.imageArtifactId, ∃ artifact, s.imageArtifacts.get id = some artifact ∧
    version.imageReference = some artifact.imageId ∧ version.runtimeContract = some artifact.runtimeContract

structure BuildRefers (s : CatalogStore) (build : ImageBuild) : Prop where
  source : ∀ id ∈ build.sourceAppVersionId, truthy id = true → (s.appVersions.get id).isSome = true
  packages : HasPackages s build.packages

/-- Nothing that is referred to is missing. -/
structure Referenced (s : CatalogStore) : Prop where
  versions : ∀ version ∈ s.appVersions.rows, VersionRefers s version
  builds : ∀ build ∈ s.imageBuilds.rows, BuildRefers s build

section Steps

variable {s s' : CatalogStore}

theorem HasPackages.mono {packages packages' : List ImageBuildPackage} (h : HasPackages s packages)
    (hids : ∀ pkg ∈ packages', ∀ id ∈ pkg.packageId, ∃ pkg ∈ packages, pkg.packageId = some id)
    (hs : ∀ id, (s.buildPackages.get id).isSome = true → (s'.buildPackages.get id).isSome = true) : HasPackages s' packages' := by
  intro pkg hpkg id hid htruthy
  obtain ⟨pkg', hpkg', hid'⟩ := hids pkg hpkg id hid
  exact hs id (h pkg' hpkg' id hid' htruthy)

theorem same_ids {packages : List ImageBuildPackage} :
    ∀ pkg ∈ packages, ∀ id ∈ pkg.packageId, ∃ pkg ∈ packages, pkg.packageId = some id :=
  fun pkg hpkg _ hid => ⟨pkg, hpkg, hid⟩

/-- A deletion leaves what is still in use. -/
theorem HasPackages.delete {packages : List ImageBuildPackage} {id : String} (h : HasPackages s packages)
    (hunused : usesPackage packages id = false) (pkg : ImageBuildPackage) (hpkg : pkg ∈ packages) (id' : String)
    (hid : id' ∈ pkg.packageId) (htruthy : truthy id' = true) : ((s.buildPackages.delete id).get id').isSome = true := by
  have hne : id' ≠ id := by
    rintro rfl
    unfold usesPackage at hunused
    rw [List.any_eq_false] at hunused
    exact hunused pkg hpkg (decide_eq_true hid)
  rw [Table.get_delete_of_ne _ hne]
  exact h pkg hpkg id' hid htruthy

/-- References stay good while nothing is deleted that they refer to. -/
theorem VersionRefers.mono {version : AppVersion} (h : VersionRefers s version) (happs : s'.apps = s.apps)
    (hpackages : ∀ id, (s.buildPackages.get id).isSome = true → (s'.buildPackages.get id).isSome = true)
    (hartifacts : ∀ id artifact, s.imageArtifacts.get id = some artifact → s'.imageArtifacts.get id = some artifact) :
    VersionRefers s' version where
  app := happs ▸ h.app
  packages := h.packages.mono same_ids hpackages
  artifact id hid := by
    obtain ⟨artifact, hget, heq⟩ := h.artifact id hid
    exact ⟨artifact, hartifacts id artifact hget, heq⟩

theorem BuildRefers.mono {build : ImageBuild} (h : BuildRefers s build)
    (hversions : ∀ id, (s.appVersions.get id).isSome = true → (s'.appVersions.get id).isSome = true)
    (hpackages : ∀ id, (s.buildPackages.get id).isSome = true → (s'.buildPackages.get id).isSome = true) : BuildRefers s' build where
  source id hid htruthy := hversions id (h.source id hid htruthy)
  packages := h.packages.mono same_ids hpackages

/-- What is written in place of a build refers to no more than the build. -/
theorem BuildRefers.move {build later : ImageBuild} (h : BuildRefers s build) (hmove : BuildMove build later) :
    BuildRefers s later := by
  cases hmove with
  | kept => exact h
  | completed _ => exact ⟨h.source, h.packages⟩
  | written write =>
    cases write with
    | started _ => exact ⟨h.source, h.packages⟩
    | finished _ _ => exact ⟨h.source, h.packages⟩
    | released _ =>
      refine ⟨h.source, fun pkg hpkg id hid => ?_⟩
      obtain ⟨pkg', -, rfl⟩ := List.mem_map.1 hpkg
      cases hid

theorem VersionRefers.activatedRow {version : AppVersion} (h : VersionRefers s version) (appId versionId activatedAt : String) :
    VersionRefers s (activatedRow appId versionId activatedAt version) := by
  unfold Catalog.activatedRow
  split
  · exact h
  · split
    · exact ⟨h.app, h.packages, h.artifact⟩
    · split
      · exact ⟨h.app, h.packages, h.artifact⟩
      · exact h

theorem Saves.unbound {tr : Exchanges} {version : AppVersion} (h : Saves tr version) : version.imageArtifactId = none := by
  cases h with
  | new _ _ _ _ unbound => exact unbound
  | attached _ _ => rfl
  | archived _ _ => rfl

theorem VersionRefers.savedRow {version : AppVersion} (happ : (s.apps.get version.appId).isSome = true)
    (hpackages : HasPackages s version.packages) (hunbound : version.imageArtifactId = none) :
    VersionRefers s (s.savedRow version) where
  app := happ
  packages := hpackages.mono (fun pkg hpkg id hid => ⟨pkg, (List.perm_insertionSort _ _).mem_iff.1 hpkg, hid⟩) fun _ h => h
  artifact id hid := by
    have hid : id ∈ version.imageArtifactId := hid
    rw [hunbound] at hid
    cases hid

/-- A build that is put where one was refers to what this one refers to. -/
theorem buildRefers_put (hs : Referenced s) {build current : ImageBuild} (there : s.imageBuilds.get build.id = some current)
    (hmoves : ∀ id, BuildRowMove (s.imageBuilds.get id) ((s.imageBuilds.put build).get id)) :
    ∀ row ∈ (s.imageBuilds.put build).rows, BuildRefers s row := by
  intro row hrow
  rcases Table.mem_put hrow with rfl | ⟨-, hrow⟩
  · have hmove := hmoves row.id
    rw [there, Table.get_put_self] at hmove
    cases hmove with
    | moved move => exact (hs.builds current (Table.get_eq_some.1 there).1).move move
  · exact hs.builds row hrow

/-- A step leaves no reference to what is missing. -/
theorem Referenced.step {o : CatalogOp} {tr : Exchanges} (h : StoreStep s o s') (hwrites : Writes tr o) (hrule : BuildRule tr o)
    (hread : ∀ build, Read build tr → ∃ row, s.imageBuilds.get build.id = some row ∧ Became build row) (hs : Referenced s) :
    Referenced s' := by
  have hmoves := buildRow_step h hrule hread
  have hsame : ∀ {id : String}, (s.buildPackages.get id).isSome = true → (s.buildPackages.get id).isSome = true := fun h => h
  cases h with
  | kept => exact hs
  | elsewhere =>
    exact ⟨fun version hversion => (hs.versions version hversion).mono rfl (fun _ => hsame) fun _ _ h => h,
      fun build hbuild => (hs.builds build hbuild).mono (fun _ h => h) fun _ => hsame⟩
  | @saved saved app packages named =>
    refine ⟨fun version hversion => ?_, fun build hbuild => (hs.builds build hbuild).mono (fun _ => Table.isSome_get_put) fun _ => hsame⟩
    have hversion : VersionRefers s version := by
      rcases Table.mem_put hversion with rfl | ⟨-, hversion⟩
      · exact VersionRefers.savedRow app packages hwrites.2.unbound
      · exact hs.versions version hversion
    exact hversion.mono rfl (fun _ => hsame) fun _ _ h => h
  | activated there =>
    refine ⟨fun version hversion => ?_, fun build hbuild => (hs.builds build hbuild).mono (fun id hsome => ?_) fun _ => hsame⟩
    · obtain ⟨row, hrow, rfl⟩ := List.mem_map.1 hversion
      exact ((hs.versions row hrow).activatedRow _ _ _).mono rfl (fun _ => hsame) fun _ _ h => h
    · change ((s.activatedRows _ _ _).get id).isSome = true
      rw [CatalogStore.activatedRows, Table.get_sweep, Option.isSome_map]
      exact hsome
  | @bound appId versionId artifactId found artifact there left uploaded =>
    refine ⟨fun version hversion => ?_, fun build hbuild => (hs.builds build hbuild).mono (fun _ => Table.isSome_get_put) fun _ => hsame⟩
    have hversion : VersionRefers s version := by
      rcases Table.mem_put hversion with rfl | ⟨-, hversion⟩
      · have hfound := hs.versions found (Table.get_eq_some.1 there).1
        refine ⟨hfound.app, hfound.packages, fun id hid => ?_⟩
        cases Option.some.inj hid
        rw [Table.key_of_get left]
        exact ⟨artifact, left, rfl, rfl⟩
      · exact hs.versions version hversion
    exact hversion.mono rfl (fun _ => hsame) fun _ _ h => h
  | packageCreated new =>
    exact ⟨fun version hversion => (hs.versions version hversion).mono rfl (fun _ => Table.isSome_get_put) fun _ _ h => h,
      fun build hbuild => (hs.builds build hbuild).mono (fun _ h => h) fun _ => Table.isSome_get_put⟩
  | packageDeleted unusedByVersion unusedByBuild =>
    refine ⟨fun version hversion => ?_, fun build hbuild => ?_⟩
    · obtain ⟨happ, hpackages, hartifact⟩ := hs.versions version hversion
      exact ⟨happ, hpackages.delete (unusedByVersion version hversion), hartifact⟩
    · obtain ⟨hsource, hpackages⟩ := hs.builds build hbuild
      exact ⟨hsource, hpackages.delete (unusedByBuild build hbuild)⟩
  | buildCreated new source packages =>
    refine ⟨fun version hversion => (hs.versions version hversion).mono rfl (fun _ => hsame) fun _ _ h => h, fun build hbuild => ?_⟩
    rcases Table.mem_put hbuild with rfl | ⟨-, hbuild⟩
    · exact ⟨source, packages⟩
    · exact (hs.builds build hbuild).mono (fun _ h => h) fun _ => hsame
  | buildUpdated there expected =>
    exact ⟨fun version hversion => (hs.versions version hversion).mono rfl (fun _ => hsame) fun _ _ h => h,
      fun row hrow => (buildRefers_put hs there hmoves row hrow).mono (fun _ h => h) fun _ => hsame⟩
  | @buildCompleted build current artifact expectedStatus there expected own new only =>
    refine ⟨fun version hversion => (hs.versions version hversion).mono rfl (fun _ => hsame) fun id other hget => ?_,
      fun row hrow => (buildRefers_put hs there hmoves row hrow).mono (fun _ h => h) fun _ => hsame⟩
    have hne : id ≠ artifact.id := by
      rintro rfl
      rw [new] at hget
      cases hget
    rwa [Table.get_put_of_ne _ _ hne]
  | @artifactDeleted id unused =>
    refine ⟨fun version hversion => ?_, fun build hbuild => (hs.builds build hbuild).mono (fun _ h => h) fun _ => hsame⟩
    obtain ⟨happ, hpackages, hartifact⟩ := hs.versions version hversion
    refine ⟨happ, hpackages, fun id' hid => ?_⟩
    obtain ⟨artifact, hget, heq⟩ := hartifact id' hid
    have hne : id' ≠ id := by
      rintro rfl
      exact unused version hversion hid
    exact ⟨artifact, by rwa [Table.get_delete_of_ne _ hne], heq⟩

end Steps

/-- In every run, at every time, the App, the packages and the artifact of every version are there, the version has
the image of its artifact, and the source version and the packages of every build are there. -/
theorem catalog_referenced {ρ ι : Type} [DecidableEq ι] {R : ImageRuntime ρ}
    {runtimeContractForApp : String → AppVersion → Option String} {w₀ : World ρ} {calls : ι → CatalogCall}
    {sched : List (ι × CatalogChoice)} {c : Config ι CatalogOp CatalogOp.Answer Failure (World ρ) CatalogCall CatalogResult}
    (h₀ : Referenced w₀.store)
    (h : exec (catalogSystem R runtimeContractForApp) (start (catalogSystem R runtimeContractForApp) w₀ calls) sched = some c) :
    Every (fun _ e => Referenced e.after.store) c.events ∧ Referenced c.world.store := by
  refine ((history_of_exec h).and (buildHistory_of_exec h)).inv (I := fun es w => Every (fun _ e => Referenced e.after.store) es ∧
    Referenced w.store) ⟨trivial, h₀⟩ fun es w w' t o x r hes ih hp hrule => ?_
  have hread := fun build => allBecame (hes.imp fun _ _ _ h => h.2) t build
  have hs := ih.2.step (perform_stored hp) hrule.1 hrule.2 hread
  exact ⟨⟨hs, ih.1⟩, hs⟩

namespace Sample

def package : BuildPackage :=
  ⟨"package-1", "desk", "main", ⟨"main.tgz", "00", 1⟩, "main.tgz"⟩

def packaged (build : ImageBuild) : ImageBuild :=
  { build with packages := [⟨"main", ⟨"main.tgz", "00", 1⟩, some "package-1"⟩] }

def packageWorld : World Unit :=
  { world with store := { world.store with
      buildPackages := ⟨[package], by decide⟩
      imageBuilds := ⟨[packaged queuedBuild], by decide⟩ } }

/-- The package is deleted while the build that uses it runs. -/
def packageCalls : Bool → CatalogCall
  | true => .executeBuild "build-1"
  | false => .deleteBuildPackage "package-1"

def packageSchedule : List (Bool × CatalogChoice) :=
  [(true, .go), (false, .go), (true, .go), (false, .go), (false, .go), (false, .go), (false, .go), (false, .go), (false, .go)]

end Sample

open Sample in
theorem catalog_referenced_in_use : ∃ c,
    exec (catalogSystem host contracts) (start (catalogSystem host contracts) packageWorld packageCalls) packageSchedule = some c ∧
    (c.world.store.buildPackages.get "package-1").isSome = true ∧ Referenced c.world.store := by
  obtain ⟨c, hrun, hthere⟩ : ∃ c, exec (catalogSystem host contracts) (start (catalogSystem host contracts) packageWorld packageCalls)
      packageSchedule = some c ∧ (c.world.store.buildPackages.get "package-1").isSome = true := exists_of_any (by decide +kernel)
  have h₀ : Referenced packageWorld.store := by
    constructor
    · intro version hversion
      obtain rfl := List.mem_singleton.1 hversion
      refine ⟨rfl, fun pkg hpkg id hid => ?_, fun id hid => ?_⟩
      · obtain rfl := List.mem_singleton.1 hpkg
        cases hid
      · cases hid
    · intro build hbuild
      obtain rfl := List.mem_singleton.1 hbuild
      refine ⟨fun id hid => ?_, fun pkg hpkg id hid _ => ?_⟩
      · cases hid
      · obtain rfl := List.mem_singleton.1 hpkg
        cases hid
        rfl
  exact ⟨c, hrun, hthere, (catalog_referenced h₀ hrun).2⟩

end OpenApp.Catalog
