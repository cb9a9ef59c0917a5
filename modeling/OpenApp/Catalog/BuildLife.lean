import OpenApp.Catalog.LifeCycle
import OpenApp.Catalog.Steps

/-!
# The life of a build

A build is queued, runs, and succeeds, fails or is cancelled; after that it may only give up its packages.
Nothing of this waits for a lock: whoever writes a build has read it some time before, and the store takes what
it writes only if the build still has the status that was read. That is enough, since a build never comes back
to a status it has left.
-/

namespace OpenApp.Catalog

open Async Async.Prog Keyed Script Relation

/-! ## Moves -/

def Unfinished (build : ImageBuild) : Prop :=
  build.status = .queued ∨ build.status = .building

/-- The build without the uploaded packages it was made of. -/
def releasedBuild (build : ImageBuild) : ImageBuild :=
  { build with packages := build.packages.map fun pkg => { pkg with packageId := none } }

/-- What may be written in place of a build. -/
inductive BuildWrite : ImageBuild → ImageBuild → Prop
  | started {build : ImageBuild} (queued : build.status = .queued) : BuildWrite build { build with status := .building }
  | finished {build : ImageBuild} {status : ImageBuildStatus} (unfinished : Unfinished build)
      (ends : status = .failed ∨ status = .cancelled) : BuildWrite build { build with status := status }
  | released {build : ImageBuild} (finished : ¬ Unfinished build) : BuildWrite build (releasedBuild build)

inductive BuildMove : ImageBuild → ImageBuild → Prop
  | kept {build : ImageBuild} : BuildMove build build
  | written {build later : ImageBuild} (write : BuildWrite build later) : BuildMove build later
  | completed {build : ImageBuild} (running : build.status = .building) : BuildMove build { build with status := .succeeded }

inductive BuildRowMove : Option ImageBuild → Option ImageBuild → Prop
  | absent : BuildRowMove none none
  | born {build : ImageBuild} (queued : build.status = .queued) : BuildRowMove none (some build)
  | moved {build later : ImageBuild} (move : BuildMove build later) : BuildRowMove (some build) (some later)

theorem releasedBuild_releasedBuild (build : ImageBuild) : releasedBuild (releasedBuild build) = releasedBuild build := by
  simp [releasedBuild, Function.comp_def]

/-- How far a build is. -/
def progress : ImageBuildStatus → Nat
  | .queued => 0
  | .building => 1
  | _ => 2

theorem unfinished_iff {build : ImageBuild} : Unfinished build ↔ progress build.status < 2 := by
  unfold Unfinished
  cases build.status <;> simp [progress]

/-- What a build that was read has become: it is as it was, or without its packages, or it is further. -/
def Became (read row : ImageBuild) : Prop :=
  row = read ∨ (¬ Unfinished read ∧ row = releasedBuild read) ∨ progress read.status < progress row.status

theorem BuildMove.became {read later : ImageBuild} (h : BuildMove read later) : Became read later := by
  cases h with
  | kept => exact .inl rfl
  | completed running => exact .inr (.inr (by simp [running, progress]))
  | written write =>
    cases write with
    | started queued => exact .inr (.inr (by simp [queued, progress]))
    | released finished => exact .inr (.inl ⟨finished, rfl⟩)
    | finished unfinished ends =>
      refine .inr (.inr ?_)
      rw [unfinished_iff] at unfinished
      rcases ends with rfl | rfl <;> exact unfinished

theorem Became.trans {read row later : ImageBuild} (h : Became read row) (h' : Became row later) : Became read later := by
  rcases h with rfl | ⟨hfinished, rfl⟩ | hfurther
  · exact h'
  · rcases h' with rfl | ⟨-, rfl⟩ | hfurther
    · exact .inr (.inl ⟨hfinished, rfl⟩)
    · exact .inr (.inl ⟨hfinished, releasedBuild_releasedBuild _⟩)
    · exact .inr (.inr hfurther)
  · refine .inr (.inr ?_)
    rcases h' with rfl | ⟨-, rfl⟩ | hfurther'
    · exact hfurther
    · exact hfurther
    · exact hfurther.trans hfurther'

/-- A build that still has the status that was read is as it was read, but for its packages at the end. -/
theorem Became.of_status {read row : ImageBuild} (h : Became read row) (hstatus : row.status = read.status) :
    row = read ∨ (¬ Unfinished read ∧ row = releasedBuild read) := by
  rcases h with h | h | h
  · exact .inl h
  · exact .inr h
  · rw [hstatus] at h
    exact absurd h (lt_irrefl _)

/-! ## Who writes a build -/

/-- The builds a call has found. -/
def buildsIn : CatalogExchange → List ImageBuild
  | ⟨.getBuild _, .ok (some build)⟩ => [build]
  | ⟨.listBuilds, .ok builds⟩ => builds
  | _ => []

/-- The thread has read the build. -/
def Read (build : ImageBuild) (tr : Exchanges) : Prop :=
  ∃ x ∈ tr, build ∈ buildsIn x

/-- What a thread keeps to that writes a build. -/
def BuildRule (tr : Exchanges) : CatalogOp → Prop
  | .createBuild build => build.status = .queued
  | .updateBuild build expectedStatus => ∃ read, Read read tr ∧ expectedStatus = read.status ∧ BuildWrite read build
  | .completeBuild build artifact expectedStatus =>
    ∃ read, Read read tr ∧ read.status = .building ∧ expectedStatus = .building ∧ build = { read with status := .succeeded } ∧
      artifact.runtimeContract = read.strategySnapshot.runtimeContract
  | _ => True

/-- A call that writes no build. -/
def writesNoBuild : CatalogOp → Bool
  | .createBuild _ | .updateBuild _ _ | .completeBuild _ _ _ => false
  | _ => true

section Writers

variable {α : Type} {tr : Exchanges} {build : ImageBuild}

attribute [local irreducible] wp Only

theorem looks_writesNoBuild {o : CatalogOp} (h : looks o = true) : writesNoBuild o = true := by
  cases o <;> first | rfl | exact absurd h Bool.false_ne_true

theorem buildRule_of_none {o : CatalogOp} (h : writesNoBuild o = true) : BuildRule tr o := by
  cases o <;> first | trivial | exact absurd h Bool.false_ne_true

theorem Read.cons {x : CatalogExchange} (h : Read build tr) : Read build (x :: tr) := by
  obtain ⟨y, hy, hmem⟩ := h
  exact ⟨y, List.mem_cons_of_mem _ hy, hmem⟩

theorem read_getBuild {id : String} : Read build (⟨.getBuild id, .ok (some build)⟩ :: tr) :=
  ⟨_, List.mem_cons_self, List.mem_singleton.2 rfl⟩

theorem always_writesNoBuild {p : CatalogTask α} (hp : Only (fun o => writesNoBuild o = true) p) : Always BuildRule p :=
  always_of_only hp fun _ _ => buildRule_of_none

theorem wp_noBuild_seq {β : Type} {P : β → Exchanges → Prop} {I : Exchanges → Prop} {p : CatalogTask α} {f : α → CatalogTask β}
    (hI : ∀ tr x, I tr → I (x :: tr)) (hp : Only (fun o => writesNoBuild o = true) p) (h₀ : I tr)
    (hf : ∀ a tr', I tr' → wp BuildRule (f a) (OnOk P) tr') : wp BuildRule (p >>= f) (OnOk P) tr :=
  wp_keeps_seq (P := fun o => writesNoBuild o = true) (fun tr x _ => hI tr x) (fun _ _ => buildRule_of_none) hp h₀ hf

theorem wp_requireBuild_seq {β : Type} {P : β → Exchanges → Prop} {id : String} {f : ImageBuild → CatalogTask β}
    (hf : ∀ build tr', Read build tr' → wp BuildRule (f build) (OnOk P) tr') :
    wp BuildRule (requireBuild id >>= f) (OnOk P) tr := by
  refine wp_seq (P := fun build tr' => Read build tr') ?_ hf
  refine wp_ask_seq trivial fun found => wp_required fun build hfound => ?_
  subst hfound
  exact read_getBuild

theorem wp_startBuild (id : String) : wp BuildRule (startBuild id) (OnOk fun _ _ => True) tr := by
  refine wp_requireBuild_seq fun current tr hread => wp_throwIf_seq fun hqueued => ?_
  have hqueued : current.status = .queued := not_not.1 hqueued
  exact wp_ask_seq ⟨current, hread, hqueued.symm, .started hqueued⟩ fun _ => wp_required fun _ _ => trivial

theorem wp_finishBuild (id : String) {status : ImageBuildStatus} (ends : status = .failed ∨ status = .cancelled) :
    wp BuildRule (finishBuild id status) (OnOk fun _ _ => True) tr := by
  refine wp_requireBuild_seq fun current tr hread => wp_throwIf_seq fun hcurrent => ?_
  have hunfinished : Unfinished current := by
    unfold Unfinished
    tauto
  exact wp_ask_seq ⟨current, hread, rfl, .finished hunfinished ends⟩ fun _ => wp_required fun _ _ => trivial

theorem wp_completeBuild (id : String) (output : String × String) :
    wp BuildRule (completeBuild id output) (OnOk fun _ _ => True) tr := by
  refine wp_requireBuild_seq fun current tr hread => wp_throwIf_seq fun hrunning => wp_throwIf_seq fun _ => wp_throwIf_seq fun _ => ?_
  have hrunning : current.status = .building := not_not.1 hrunning
  refine wp_noBuild_seq (fun _ _ h => h.cons) (only_await rfl) hread fun finishedAt tr hread => ?_
  refine wp_noBuild_seq (fun _ _ h => h.cons) (only_await rfl) hread fun artifactId tr hread => ?_
  exact wp_ask_seq ⟨current, hread, hrunning, rfl, rfl, rfl⟩ fun _ => wp_required fun _ _ => trivial

theorem wp_executeBuild (id : String) : wp BuildRule (executeBuild id) (OnOk fun _ _ => True) tr := by
  refine wp_seq (wp_startBuild id) fun build tr _ => ?_
  refine wp_guarded ?_ (fun _ _ => trivial) ?_
  · refine always_bind (fun tr => ?_) fun _ => always_pure _
    rw [wp_settle]
    exact wp_post (wp_finishBuild id (.inl rfl)) fun _ _ _ => trivial
  · have hrest : ∀ tr, wp BuildRule (do
        let output ← ask (.buildImage build)
        let completed ← completeBuild id output
        pure completed.1) (OnOk fun _ _ => True) tr := fun tr =>
      wp_ask_seq trivial fun output => wp_seq (wp_completeBuild id output) fun completed _ _ => (wp_pure _).2 trivial
    dsimp only
    split
    · exact wp_ask_seq trivial fun _ => wp_required_seq fun _ _ => wp_throwIf_seq fun _ => hrest _
    · exact hrest _

theorem wp_createBuild (input : CreateImageBuildInput) : wp BuildRule (createBuild input) (OnOk fun _ _ => True) tr := by
  refine wp_noBuild_seq (I := fun _ => True) (fun _ _ _ => trivial)
    (only_checkPackageReferences (fun _ => looks_writesNoBuild) _ _) trivial fun _ tr _ => ?_
  dsimp only
  split
  · refine wp_ask_seq trivial fun _ => wp_required_seq fun _ _ => wp_ask_seq trivial fun id => ?_
    exact wp_ask_seq (rfl : ImageBuildStatus.queued = .queued) fun _ => wp_required fun _ _ => trivial
  · refine wp_ask_seq trivial fun id => ?_
    exact wp_ask_seq (rfl : ImageBuildStatus.queued = .queued) fun _ => wp_required fun _ _ => trivial

theorem only_pruneApp {P : CatalogOp → Prop} (hlooks : ∀ o, looks o = true → P o) (hsave : ∀ version, P (.saveAppVersion version))
    (snapshot : Snapshot) (previousRevisions : Nat) (app : AppDefinition) : Only P (pruneApp snapshot previousRevisions app) := by
  have hfiles : ∀ version : AppVersion, Only P (settle (ask (.removeStorage version.id))) :=
    fun version => only_settle (only_look hlooks rfl)
  refine only_bind (only_look hlooks rfl) fun versions => only_bind (only_each hfiles _) fun _ => ?_
  dsimp only
  split
  · exact only_pure _
  · refine only_bind (only_each (fun version => ?_) _) fun _ => only_pure _
    refine only_bind (only_await (hsave _)) fun saved => ?_
    split
    · exact only_pure _
    · exact only_bind (only_settle (only_look hlooks rfl)) fun _ => only_pure _

theorem wp_releaseBuild (retired : List String) (hread : Read build tr) :
    wp BuildRule (releaseBuild retired build) (OnOk fun _ _ => True) tr := by
  unfold releaseBuild
  split
  · exact (wp_pure _).2 trivial
  · next hpassed =>
    have hfinished : ¬ Unfinished build := by
      unfold Unfinished
      tauto
    refine wp_ask_seq ⟨build, hread, rfl, .released hfinished⟩ fun updated => ?_
    split <;> exact (wp_pure _).2 trivial

theorem Read.suffix {tr' : Exchanges} (h : Read build tr) (hsuffix : tr <:+ tr') : Read build tr' := by
  obtain ⟨y, hy, hmem⟩ := h
  exact ⟨y, hsuffix.subset hy, hmem⟩

theorem wp_prune_builds (previousRevisions : Nat) : Always BuildRule (withActivationLock (prune previousRevisions)) := by
  have hN : ∀ o, looks o = true → writesNoBuild o = true := fun _ => looks_writesNoBuild
  refine always_bind (always_await fun _ => trivial) fun _ => fun tr => wp_ensuring ?_ (always_await fun _ => trivial)
  refine wp_post (Q := OnOk fun _ _ => True) ?_ fun _ _ _ => trivial
  refine wp_throwIf_seq fun _ => wp_ask_seq trivial fun apps => wp_ask_seq trivial fun containers => ?_
  refine wp_ask_seq trivial fun builds => ?_
  have hread : ∀ {tr : Exchanges}, ∀ build ∈ builds, Read build (⟨.listBuilds, .ok builds⟩ :: tr) :=
    fun build hbuild => ⟨_, List.mem_cons_self, hbuild⟩
  have hstays : ∀ (tr : Exchanges) (x : CatalogExchange), (∀ build ∈ builds, Read build tr) → ∀ build ∈ builds, Read build (x :: tr) :=
    fun tr x h build hbuild => (h build hbuild).cons
  refine wp_noBuild_seq hstays (only_await rfl) hread fun imageArtifacts tr hread => ?_
  refine wp_noBuild_seq hstays (only_await rfl) hread fun activeRolloutTargets tr hread => ?_
  refine wp_noBuild_seq hstays (only_each (fun app => only_pruneApp hN (fun _ => rfl) _ _ app) _) hread fun pruned tr hread => ?_
  refine wp_seq (P := fun _ _ => True) ?_ fun released tr _ => ?_
  · refine wp_onOk (wp_each_rest (I := fun rest tr => ∀ build ∈ rest, Read build tr) (fun build rest tr hrest => ?_) hread)
      fun _ _ _ => trivial
    refine wp_post (wp_extends (wp_releaseBuild _ (hrest build List.mem_cons_self))) fun r tr' hr => ?_
    cases r with
    | ok _ => exact fun other hother => (hrest other (List.mem_cons_of_mem _ hother)).suffix hr.2
    | error e => trivial
  · refine wp_noBuild_seq (I := fun _ => True) (fun _ _ _ => trivial)
      (only_each (fun id => only_ifUnused (only_deleteImageArtifactWith hN id true fun _ => rfl)) _) trivial fun _ tr _ => ?_
    refine wp_noBuild_seq (I := fun _ => True) (fun _ _ _ => trivial)
      (only_each (fun id => only_ifUnused (only_deleteBuildPackageWith hN id true fun _ => rfl)) _) trivial fun _ tr _ => ?_
    exact (wp_pure _).2 trivial

theorem always_buildWriter {β : Type} {f : α → β} {p : CatalogTask α} (h : ∀ tr, wp BuildRule p (OnOk fun _ _ => True) tr) :
    Always BuildRule (f <$> p) :=
  always_bind (fun tr => wp_post (h tr) fun _ _ _ => trivial) fun _ => always_pure _

/-- Whatever the call, a build is written as it was read. -/
theorem always_run_builds (runtimeContractForApp : String → AppVersion → Option String) (call : CatalogCall) :
    Always BuildRule (call.run runtimeContractForApp) := by
  have hN : ∀ o, looks o = true → writesNoBuild o = true := fun _ => looks_writesNoBuild
  cases call with
  | createBuild input => exact always_buildWriter fun _ => wp_createBuild input
  | executeBuild id => exact always_buildWriter fun _ => wp_executeBuild id
  | cancelBuild id => exact always_buildWriter fun _ => wp_finishBuild id (.inr rfl)
  | prune previousRevisions => exact always_bind (wp_prune_builds previousRevisions) fun _ => always_pure _
  | createRevision appId packages =>
    exact always_writesNoBuild (only_map _ (only_createRevision hN appId packages rfl rfl rfl fun _ => rfl))
  | uploadInspectedVersion appId input =>
    exact always_writesNoBuild (only_map _ (only_uploadInspectedVersion hN appId input rfl rfl rfl fun _ => rfl))
  | attachImage appId versionId imageReference =>
    exact always_writesNoBuild (only_map _ (only_attachImage hN _ appId versionId imageReference rfl rfl fun _ => rfl))
  | importImage appId imageReference =>
    exact always_writesNoBuild (only_map _ (only_importImage hN _ appId imageReference rfl rfl rfl fun _ => rfl))
  | activateVersion appId versionId expectedRevision =>
    exact always_writesNoBuild (only_map _ (only_activateVersion hN appId versionId expectedRevision rfl rfl fun _ _ _ => rfl))
  | launchTarget appId => exact always_writesNoBuild (only_map _ (only_launchTarget hN appId))
  | createPackage pkg => exact always_writesNoBuild (only_map _ (only_await rfl))
  | bindRelease appId versionId artifactId =>
    exact always_writesNoBuild (only_map _ (only_bindRelease hN appId versionId artifactId fun _ _ _ => rfl))
  | deleteImageArtifact id => exact always_writesNoBuild (only_map _ (only_deleteImageArtifactWith hN id false fun _ => rfl))
  | deleteBuildPackage id => exact always_writesNoBuild (only_map _ (only_deleteBuildPackageWith hN id false fun _ => rfl))
  | provision container => exact always_writesNoBuild (only_map _ (only_provision hN container fun _ => rfl))
  | rebuildLatest id => exact always_writesNoBuild (only_map _ (only_rebuildLatest hN id fun _ => rfl))
  | deleteContainer id => exact always_writesNoBuild (only_map _ (only_await rfl))
  | createRollout useLatestVersion template instanceIds =>
    exact always_writesNoBuild (only_map _ (only_createRollout hN useLatestVersion template instanceIds fun _ => rfl))
  | progressItem rolloutId instanceId status =>
    exact always_writesNoBuild (only_map _ (only_progressItem hN rolloutId instanceId status fun _ _ => rfl))
  | deployItem rolloutId instanceId =>
    exact always_writesNoBuild (only_map _ (only_deployItem hN rolloutId instanceId (fun _ => rfl) fun _ _ => rfl))

end Writers

/-! ## Runs -/

section Runs

variable {ρ ι : Type} [DecidableEq ι] {R : ImageRuntime ρ} {runtimeContractForApp : String → AppVersion → Option String}
  {w₀ w w' : World ρ} {es : List (Event ι CatalogOp CatalogOp.Answer Failure (World ρ))}

/-- The histories of the catalog, by what is written of builds. -/
abbrev BuildHistory (R : ImageRuntime ρ) (runtimeContractForApp : String → AppVersion → Option String) (w₀ : World ρ)
    (es : List (Event ι CatalogOp CatalogOp.Answer Failure (World ρ))) (w : World ρ) : Prop :=
  Legal (catalogSystem R runtimeContractForApp) (fun _ => BuildRule) w₀ es w

theorem buildHistory_of_exec {calls : ι → CatalogCall} {sched : List (ι × CatalogChoice)}
    {c : Config ι CatalogOp CatalogOp.Answer Failure (World ρ) CatalogCall CatalogResult}
    (h : exec (catalogSystem R runtimeContractForApp) (start (catalogSystem R runtimeContractForApp) w₀ calls) sched = some c) :
    BuildHistory R runtimeContractForApp w₀ c.events c.world := by
  refine legal_of_exec (J := fun _ _ _ => True) (fun _ => trivial) (fun t call tr _ => ?_) h
  change wp BuildRule (Sum.inr <$> call.run runtimeContractForApp) _ tr
  rw [wp_map]
  refine wp_post (always_run_builds runtimeContractForApp call tr) fun r tr' _ => ?_
  cases r <;> trivial

/-- What is read of the builds is what is there. -/
theorem perform_reads {o : CatalogOp} {x : CatalogChoice} {r : Except Failure o.Answer} {build : ImageBuild}
    (h : World.perform R w o x = some (r, w')) (hmem : build ∈ buildsIn ⟨o, r⟩) :
    w.store.imageBuilds.get build.id = some build ∧ w' = w := by
  cases o
  case getBuild id =>
    cases x <;> simp only [World.perform, World.write, World.read, World.told, World.infallible, Option.none_or, Option.map_some,
      Bool.false_eq_true, if_false, reduceCtorEq, Option.some.injEq, Prod.mk.injEq] at h
    case fails error =>
      obtain ⟨rfl, rfl⟩ := h
      cases hmem
    case go =>
      obtain ⟨rfl, rfl⟩ := h
      cases hget : w.store.imageBuilds.get id with
      | none =>
        rw [hget] at hmem
        cases hmem
      | some found =>
        rw [hget] at hmem
        rw [List.mem_singleton.1 hmem, Table.key_of_get hget]
        exact ⟨hget, rfl⟩
  case listBuilds =>
    cases x <;> simp only [World.perform, World.write, World.read, World.told, World.infallible, Option.none_or, Option.map_some,
      Bool.false_eq_true, if_false, reduceCtorEq, Option.some.injEq, Prod.mk.injEq] at h
    case fails error =>
      obtain ⟨rfl, rfl⟩ := h
      cases hmem
    case go =>
      obtain ⟨rfl, rfl⟩ := h
      exact ⟨Table.mem_iff.1 hmem, rfl⟩
  all_goals cases hmem

theorem BuildRowMove.refl (row : Option ImageBuild) : BuildRowMove row row := by
  cases row with
  | none => exact .absent
  | some build => exact .moved .kept

theorem BuildWrite.id {read build : ImageBuild} (h : BuildWrite read build) : build.id = read.id := by
  cases h <;> rfl

/-- What was read of the builds, and what has become of it. -/
def AllBecame (es : List (Event ι CatalogOp CatalogOp.Answer Failure (World ρ))) (w : World ρ) : Prop :=
  ∀ t build, Read build (traceOf t es) → ∃ row, w.store.imageBuilds.get build.id = some row ∧ Became build row

/-- A build that is written over one with the status that was read is a move of what is there. -/
theorem move_written {read current build : ImageBuild} (hbecame : Became read current) (hstatus : current.status = read.status)
    (hwrite : BuildWrite read build) : BuildMove current build := by
  rcases hbecame.of_status hstatus with rfl | ⟨hfinished, rfl⟩
  · exact .written hwrite
  · cases hwrite with
    | started queued => exact absurd (.inl queued) hfinished
    | finished unfinished _ => exact absurd unfinished hfinished
    | released _ => exact .kept

theorem move_completed {read current : ImageBuild} (hbecame : Became read current) (hstatus : current.status = .building)
    (hrunning : read.status = .building) : current = read := by
  rcases hbecame.of_status (hstatus.trans hrunning.symm) with rfl | ⟨hfinished, -⟩
  · rfl
  · exact absurd (.inr hrunning) hfinished

theorem buildRow_put {s : CatalogStore} {build : ImageBuild}
    (h : BuildRowMove (s.imageBuilds.get build.id) (some build)) (id : String) :
    BuildRowMove (s.imageBuilds.get id) ((s.imageBuilds.put build).get id) := by
  rw [Table.get_put]
  split
  · next hid => exact hid ▸ h
  · exact BuildRowMove.refl _

theorem buildRow_step {s s' : CatalogStore} {o : CatalogOp} {tr : Exchanges} (h : StoreStep s o s') (hrule : BuildRule tr o)
    (hread : ∀ build, Read build tr → ∃ row, s.imageBuilds.get build.id = some row ∧ Became build row) (id : String) :
    BuildRowMove (s.imageBuilds.get id) (s'.imageBuilds.get id) := by
  cases h with
  | buildCreated new source packages => exact buildRow_put (new ▸ .born hrule) id
  | @buildUpdated build current expectedStatus there expected =>
    obtain ⟨read, hmem, hstatus, hwrite⟩ := hrule
    obtain ⟨row, hrow, hbecame⟩ := hread read hmem
    rw [← hwrite.id, there] at hrow
    cases hrow
    exact buildRow_put (there ▸ .moved (move_written hbecame (expected.trans hstatus) hwrite)) id
  | @buildCompleted build current artifact expectedStatus there expected own new only =>
    obtain ⟨read, hmem, hrunning, hstatus, rfl, -⟩ := hrule
    obtain ⟨row, hrow, hbecame⟩ := hread read hmem
    cases there.symm.trans hrow
    cases move_completed hbecame (expected.trans hstatus) hrunning
    exact buildRow_put (there ▸ .moved (.completed hrunning)) id
  | _ => exact BuildRowMove.refl _

theorem allBecame (h : BuildHistory R runtimeContractForApp w₀ es w) : AllBecame es w := by
  refine h.inv (I := AllBecame) (fun t build hread => ?_) fun es w w' t o x r _ ih hp hrule t' build hread => ?_
  · obtain ⟨x, hx, -⟩ := hread
    exact absurd hx List.not_mem_nil
  have hlater : (∃ row, w.store.imageBuilds.get build.id = some row ∧ Became build row) →
      ∃ row, w'.store.imageBuilds.get build.id = some row ∧ Became build row := by
    rintro ⟨row, hrow, hbecame⟩
    have hmove := buildRow_step (perform_stored hp) hrule (fun build => ih t build) build.id
    rw [hrow] at hmove
    generalize w'.store.imageBuilds.get build.id = after at hmove ⊢
    cases hmove with
    | moved move => exact ⟨_, rfl, hbecame.trans move.became⟩
  by_cases ht : t' = t
  · subst ht
    rw [traceOf_record_own] at hread
    obtain ⟨y, hy, hmem⟩ := hread
    rcases List.mem_cons.1 hy with rfl | hy
    · obtain ⟨hget, rfl⟩ := perform_reads hp hmem
      exact ⟨build, hget, .inl rfl⟩
    · exact hlater (ih t' build ⟨y, hy, hmem⟩)
  · rw [traceOf_record_other (Ne.symm ht)] at hread
    exact hlater (ih t' build hread)

/-! ## Artifacts -/

/-- Every artifact is of a build that has succeeded, made for the contract it says, and no build has two. -/
structure ArtifactsFit (s : CatalogStore) : Prop where
  succeeded : ∀ artifact ∈ s.imageArtifacts.rows, ∃ build, s.imageBuilds.get artifact.buildId = some build ∧
    build.status = .succeeded ∧ artifact.runtimeContract = build.strategySnapshot.runtimeContract
  single : ∀ artifact ∈ s.imageArtifacts.rows, ∀ other ∈ s.imageArtifacts.rows, artifact.buildId = other.buildId → artifact = other

/-- What becomes of the artifact under an id: it is left by a build that was running, it stays, or it is deleted. -/
inductive ArtifactMove (s s' : CatalogStore) : Option ImageArtifact → Option ImageArtifact → Prop
  | kept {row : Option ImageArtifact} : ArtifactMove s s' row row
  | deleted {artifact : ImageArtifact} : ArtifactMove s s' (some artifact) none
  | left {artifact : ImageArtifact} {build : ImageBuild} (before : s.imageBuilds.get artifact.buildId = some build)
      (running : build.status = .building) (after : s'.imageBuilds.get artifact.buildId = some { build with status := .succeeded }) :
      ArtifactMove s s' none (some artifact)

theorem artifact_step {s s' : CatalogStore} {o : CatalogOp} {tr : Exchanges} (h : StoreStep s o s') (hrule : BuildRule tr o)
    (hread : ∀ build, Read build tr → ∃ row, s.imageBuilds.get build.id = some row ∧ Became build row) (id : String) :
    ArtifactMove s s' (s.imageArtifacts.get id) (s'.imageArtifacts.get id) := by
  cases h with
  | @artifactDeleted deleted unused =>
    by_cases hid : id = deleted
    · subst hid
      rw [Table.get_delete_self]
      cases s.imageArtifacts.get id with
      | none => exact .kept
      | some artifact => exact .deleted
    · rw [Table.get_delete_of_ne _ hid]
      exact .kept
  | @buildCompleted build current artifact expectedStatus there expected own new only =>
    obtain ⟨read, hmem, hrunning, hstatus, rfl, -⟩ := hrule
    obtain ⟨row, hrow, hbecame⟩ := hread read hmem
    cases there.symm.trans hrow
    cases move_completed hbecame (expected.trans hstatus) hrunning
    rw [Table.get_put]
    split
    · next hid =>
      subst hid
      rw [new]
      have hbefore : s.imageBuilds.get artifact.buildId = some current := by
        rw [own]
        exact there
      refine .left hbefore hrunning ?_
      rw [own]
      exact Table.get_put_self _ _
    · exact .kept
  | _ => exact .kept

theorem BuildMove.succeeded {build later : ImageBuild} (h : BuildMove build later) (hsucceeded : build.status = .succeeded) :
    later.status = .succeeded := by
  cases h with
  | kept => exact hsucceeded
  | completed _ => rfl
  | written write =>
    cases write with
    | started queued => simp [queued] at hsucceeded
    | finished unfinished _ => rcases unfinished with h | h <;> simp [h] at hsucceeded
    | released _ => exact hsucceeded

theorem BuildMove.strategySnapshot {build later : ImageBuild} (h : BuildMove build later) :
    later.strategySnapshot = build.strategySnapshot := by
  cases h with
  | written write => cases write <;> rfl
  | _ => rfl

theorem ArtifactsFit.step {s s' : CatalogStore} {o : CatalogOp} {tr : Exchanges} (hs : ArtifactsFit s) (h : StoreStep s o s')
    (hrule : BuildRule tr o) (hread : ∀ build, Read build tr → ∃ row, s.imageBuilds.get build.id = some row ∧ Became build row) :
    ArtifactsFit s' := by
  have hmoves := buildRow_step h hrule hread
  -- a build that has succeeded goes on to be one that has
  have hsucceeded : ∀ artifact ∈ s.imageArtifacts.rows, ∃ build, s'.imageBuilds.get artifact.buildId = some build ∧
      build.status = .succeeded ∧ artifact.runtimeContract = build.strategySnapshot.runtimeContract := by
    intro artifact hartifact
    obtain ⟨build, hget, hstatus, hcontract⟩ := hs.succeeded artifact hartifact
    have hmove := hmoves artifact.buildId
    rw [hget] at hmove
    generalize s'.imageBuilds.get artifact.buildId = after at hmove ⊢
    cases hmove with
    | moved move => exact ⟨_, rfl, move.succeeded hstatus, by rw [move.strategySnapshot, hcontract]⟩
  cases h with
  | artifactDeleted unused =>
    exact ⟨fun artifact hartifact => hs.succeeded artifact (List.mem_filter.1 hartifact).1,
      fun artifact hartifact other hother => hs.single artifact (List.mem_filter.1 hartifact).1 other (List.mem_filter.1 hother).1⟩
  | @buildCompleted build current artifact expectedStatus there expected own new only =>
    have hrows : (s.imageArtifacts.put artifact).rows = s.imageArtifacts.rows ++ [artifact] := by
      refine putRow_of_notMem fun hmem => ?_
      obtain ⟨other, hother, hid⟩ := List.mem_map.1 hmem
      rw [Table.get_eq_some.2 ⟨hother, hid⟩] at new
      cases new
    obtain ⟨read, hmem, hrunning, hstatus, rfl, hcontract⟩ := hrule
    constructor
    · intro other hother
      rcases List.mem_append.1 (hrows ▸ hother) with hother | hother
      · exact hsucceeded other hother
      · rw [List.mem_singleton.1 hother, own]
        exact ⟨_, Table.get_put_self _ _, rfl, hcontract⟩
    · intro first hfirst second hsecond heq
      rcases List.mem_append.1 (hrows ▸ hfirst) with hfirst | hfirst <;>
        rcases List.mem_append.1 (hrows ▸ hsecond) with hsecond | hsecond
      · exact hs.single first hfirst second hsecond heq
      · rw [List.mem_singleton.1 hsecond] at heq
        exact absurd heq (only first hfirst)
      · rw [List.mem_singleton.1 hfirst] at heq
        exact absurd heq.symm (only second hsecond)
      · rw [List.mem_singleton.1 hfirst, List.mem_singleton.1 hsecond]
  | _ => exact ⟨hsucceeded, hs.single⟩

/-! ## Along a run -/

/-- What a build keeps for good. -/
structure BuildDescends (build later : ImageBuild) : Prop where
  strategyId : later.strategyId = build.strategyId
  strategySnapshot : later.strategySnapshot = build.strategySnapshot
  source : later.sourceAppVersionId = build.sourceAppVersionId
  packages : (later.packages.map fun pkg => (pkg.key, pkg.artifact)) = build.packages.map fun pkg => (pkg.key, pkg.artifact)
  forward : progress build.status ≤ progress later.status
  final : ¬ Unfinished build → later.status = build.status

theorem BuildDescends.refl (build : ImageBuild) : BuildDescends build build :=
  ⟨rfl, rfl, rfl, rfl, le_refl _, fun _ => rfl⟩

theorem BuildDescends.trans {first second third : ImageBuild} (h : BuildDescends first second) (h' : BuildDescends second third) :
    BuildDescends first third where
  strategyId := h'.strategyId.trans h.strategyId
  strategySnapshot := h'.strategySnapshot.trans h.strategySnapshot
  source := h'.source.trans h.source
  packages := h'.packages.trans h.packages
  forward := h.forward.trans h'.forward
  final hfinished := by
    have hstatus := h.final hfinished
    rw [h'.final (by rwa [unfinished_iff, hstatus, ← unfinished_iff]), hstatus]

theorem BuildMove.descends {build later : ImageBuild} (h : BuildMove build later) : BuildDescends build later := by
  cases h with
  | kept => exact .refl _
  | completed running =>
    exact ⟨rfl, rfl, rfl, rfl, by simp [running, progress], fun hfinished => absurd (.inr running) hfinished⟩
  | written write =>
    cases write with
    | started queued =>
      exact ⟨rfl, rfl, rfl, rfl, by simp [queued, progress], fun hfinished => absurd (.inl queued) hfinished⟩
    | finished unfinished ends =>
      refine ⟨rfl, rfl, rfl, rfl, ?_, fun hfinished => absurd unfinished hfinished⟩
      have hlt := unfinished_iff.1 unfinished
      rcases ends with rfl | rfl <;> exact hlt.le
    | released finished => exact ⟨rfl, rfl, rfl, by simp [releasedBuild, Function.comp_def], le_refl _, fun _ => rfl⟩

/-- The builds of the one world are still in the other, and no less far. -/
def BuildsKept (w w' : World ρ) : Prop :=
  ∀ id build, w.store.imageBuilds.get id = some build →
    ∃ later, w'.store.imageBuilds.get id = some later ∧ BuildDescends build later

theorem buildsKept_of_rowMove (h : ∀ id, BuildRowMove (w.store.imageBuilds.get id) (w'.store.imageBuilds.get id)) :
    BuildsKept w w' := by
  intro id build hget
  have hmove := h id
  rw [hget] at hmove
  generalize w'.store.imageBuilds.get id = row at hmove ⊢
  cases hmove with
  | moved move => exact ⟨_, rfl, move.descends⟩

/-- What an event does to the builds and their artifacts. -/
structure BuildEvent (e : Event ι CatalogOp CatalogOp.Answer Failure (World ρ)) : Prop where
  builds : ∀ id, BuildRowMove (e.before.store.imageBuilds.get id) (e.after.store.imageBuilds.get id)
  artifacts : ∀ id, ArtifactMove e.before.store e.after.store (e.before.store.imageArtifacts.get id)
    (e.after.store.imageArtifacts.get id)

/-- In every run a build goes from queued to its end without coming back, whoever starts, finishes or cancels it at
one time, an artifact is left just when its build succeeds, and at every time every artifact is the only one of a
build that has succeeded. -/
theorem build_life {calls : ι → CatalogCall} {sched : List (ι × CatalogChoice)}
    {c : Config ι CatalogOp CatalogOp.Answer Failure (World ρ) CatalogCall CatalogResult} (h₀ : ArtifactsFit w₀.store)
    (h : exec (catalogSystem R runtimeContractForApp) (start (catalogSystem R runtimeContractForApp) w₀ calls) sched = some c) :
    Every (fun _ e => BuildEvent e ∧ ArtifactsFit e.after.store) c.events ∧
      ∀ later e earlier, c.events = later ++ e :: earlier → BuildsKept e.after c.world := by
  have hhistory := buildHistory_of_exec h
  have hevents : Every (fun _ e => BuildEvent e ∧ ArtifactsFit e.after.store) c.events := by
    refine And.left (hhistory.inv (I := fun es w => Every (fun _ e => BuildEvent e ∧ ArtifactsFit e.after.store) es ∧
      ArtifactsFit w.store) ⟨trivial, h₀⟩ fun es w w' t o x r hes ih hp hrule => ?_)
    have hstep := perform_stored hp
    have hread := fun build => allBecame hes t build
    have hfit := ih.2.step hstep hrule hread
    exact ⟨⟨⟨⟨buildRow_step hstep hrule hread, artifact_step hstep hrule hread⟩, hfit⟩, ih.1⟩, hfit⟩
  refine ⟨hevents, fun later e earlier heq => ?_⟩
  rw [heq] at hhistory hevents
  refine hhistory.span_every (R := BuildsKept) (fun w id build hget => ⟨build, hget, .refl _⟩) (fun h h' id build hget => ?_)
    (hevents.imp fun _ _ he => buildsKept_of_rowMove he.1.builds)
  obtain ⟨second, hsecond, hd⟩ := h id build hget
  obtain ⟨third, hthird, hd'⟩ := h' id second hsecond
  exact ⟨third, hthird, hd.trans hd'⟩

end Runs

namespace Sample

def queuedBuild : ImageBuild where
  id := "build-1"
  strategyId := "desk"
  strategySnapshot := ⟨"desk-v1", []⟩
  sourceAppVersionId := none
  packages := []
  status := .queued

def buildWorld : World Unit :=
  { world with store := { world.store with imageBuilds := ⟨[queuedBuild], by decide⟩ } }

def digestOfImage : String :=
  "sha256:0000000000000000000000000000000000000000000000000000000000000000"

/-- One thread runs the build while another one tries to cancel it. -/
def buildCalls : Bool → CatalogCall
  | true => .executeBuild "build-1"
  | false => .cancelBuild "build-1"

def buildSchedule : List (Bool × CatalogChoice) :=
  [(true, .go), (true, .go), (true, .image "desk:1" digestOfImage), (false, .go), (true, .go), (true, .text "now"),
    (true, .text "artifact-1"), (true, .go), (false, .go)]

end Sample

open Sample in
theorem build_life_cancelled_late : ∃ c,
    exec (catalogSystem host contracts) (start (catalogSystem host contracts) buildWorld buildCalls) buildSchedule = some c ∧
    (c.world.store.imageBuilds.get "build-1").map ImageBuild.status = some .succeeded ∧
    Every (fun _ e => BuildEvent e ∧ ArtifactsFit e.after.store) c.events := by
  obtain ⟨c, hrun, hstatus⟩ : ∃ c, exec (catalogSystem host contracts) (start (catalogSystem host contracts) buildWorld buildCalls)
      buildSchedule = some c ∧ (c.world.store.imageBuilds.get "build-1").map ImageBuild.status = some .succeeded :=
    exists_of_any (by decide +kernel)
  have h₀ : ArtifactsFit buildWorld.store :=
    ⟨fun artifact h => absurd h List.not_mem_nil, fun artifact h => absurd h List.not_mem_nil⟩
  exact ⟨c, hrun, hstatus, (build_life h₀ hrun).1⟩

end OpenApp.Catalog
