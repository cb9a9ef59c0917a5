import OpenApp.Async.Solo
import OpenApp.Catalog.Writers

/-!
# The life of a version

A version is new, gets an image, is activated and deactivated, and is archived. Who writes a version has the
lock and has read the version since it got the lock; only the binding of an artifact does without the lock,
and it takes only what is still without an image. So whatever the calls that run at one time, a version moves
along its life and keeps its name, its packages and its revision.
-/

namespace OpenApp.Catalog

open Async Async.Prog Keyed Script

/-! ## Moves -/

/-- A version as it is written back: its packages in order, its revision the one it has, or else a new one. -/
def rewritten (version : AppVersion) (nextRevision : Nat) : AppVersion :=
  withVersionPackageProjection { version with revision := some (version.revision.getD nextRevision) }

inductive VersionMove : AppVersion → AppVersion → Prop
  | kept {version : AppVersion} : VersionMove version version
  | attached {version : AppVersion} {imageReference runtimeContract : String} {nextRevision : Nat} (draft : Draft version) :
      VersionMove version (rewritten (attachedRow version imageReference runtimeContract) nextRevision)
  | bound {version : AppVersion} {artifact : ImageArtifact} (uploaded : version.status = .uploaded) :
      VersionMove version (boundRow version artifact)
  | activated {version : AppVersion} {activatedAt : String} (ready : Draft version ∨ version.status = .active) :
      VersionMove version { version with status := .active, activatedAt := some activatedAt }
  | deactivated {version : AppVersion} (active : version.status = .active) :
      VersionMove version { version with
        status := if version.imageReference.any truthy then .imageReady else .uploaded
        activatedAt := none }
  | archived {version : AppVersion} {nextRevision : Nat} (draft : Draft version) :
      VersionMove version (rewritten (archived version) nextRevision)

/-- A version that was not there before. -/
structure Born (version : AppVersion) : Prop where
  draft : Draft version
  inactive : version.activatedAt = none
  unbound : version.imageArtifactId = none
  numbered : ∃ revision, version.revision = some (revision + 1)

/-- What becomes of the row under an id. -/
inductive RowMove : Option AppVersion → Option AppVersion → Prop
  | absent : RowMove none none
  | born {version : AppVersion} (born : Born version) : RowMove none (some version)
  | moved {version version' : AppVersion} (move : VersionMove version version') : RowMove (some version) (some version')

/-! ## What the writers rely on -/

section Runs

variable {ρ ι : Type} [DecidableEq ι] {R : ImageRuntime ρ} {runtimeContractForApp : String → AppVersion → Option String}
  {w₀ w w' : World ρ} {es : List (Event ι CatalogOp CatalogOp.Answer Failure (World ρ))}

/-- The histories of the catalog. -/
abbrev History (R : ImageRuntime ρ) (runtimeContractForApp : String → AppVersion → Option String) (w₀ : World ρ)
    (es : List (Event ι CatalogOp CatalogOp.Answer Failure (World ρ))) (w : World ρ) : Prop :=
  Legal (catalogSystem R runtimeContractForApp) (fun _ => Writes) w₀ es w

theorem history_of_legal (h : Legal (catalogSystem R runtimeContractForApp) (fun _ : ι => VersionRule) w₀ es w) :
    History R runtimeContractForApp w₀ es w := by
  induction h with
  | start => exact .start
  | record h hp hG ih =>
    refine ih.record hp (hG fun x hx => ?_)
    obtain ⟨w₁, c, w₂, hp⟩ := h.performed hx
    exact perform_answered hp

theorem history_of_exec {calls : ι → CatalogCall} {sched : List (ι × CatalogChoice)}
    {c : Config ι CatalogOp CatalogOp.Answer Failure (World ρ) CatalogCall CatalogResult}
    (h : exec (catalogSystem R runtimeContractForApp) (start (catalogSystem R runtimeContractForApp) w₀ calls) sched = some c) :
    History R runtimeContractForApp w₀ c.events c.world := by
  refine history_of_legal (legal_of_exec (J := fun _ _ _ => True) (fun _ => trivial) (fun t call tr _ => ?_) h)
  change wp VersionRule (Sum.inr <$> call.run runtimeContractForApp) _ tr
  rw [wp_map]
  refine wp_post (always_run runtimeContractForApp call tr) fun r tr' _ => ?_
  cases r <;> trivial

omit [DecidableEq ι] in
theorem releases_rule (_ : ι) (tr : Exchanges) (o : CatalogOp) (h : Writes tr o) (hrelease : activationLock.releases o = true) :
    HasLock tr := by
  obtain rfl := of_decide_eq_true hrelease
  exact h

/-- What a step makes of a version that was read, if it neither saves it nor activates anything. -/
theorem asRead_step {s : CatalogStore} {o : CatalogOp} {r : Except Failure o.Answer} {versions : Table AppVersion.id}
    {version : AppVersion} (h : VersionStep s o r versions) (hsave : ∀ saved, o = .saveAppVersion saved → saved.id ≠ version.id)
    (hactivate : ∀ appId versionId expected, o ≠ .activateAppVersion appId versionId expected)
    (hread : AsRead version s.appVersions) : AsRead version versions := by
  cases h with
  | kept _ _ => exact hread
  | @saved saved =>
    have hne : version.id ≠ (s.savedRow saved).id := Ne.symm (hsave saved rfl)
    unfold AsRead
    rwa [Table.get_put_of_ne _ _ hne]
  | activated => exact absurd rfl (hactivate _ _ _)
  | @bound appId versionId artifactId found artifact there uploaded =>
    by_cases hid : version.id = found.id
    · have hfound : s.appVersions.get version.id = some found := by
        rw [hid, Table.key_of_get there]
        exact there
      have hput : (s.appVersions.put (boundRow found artifact)).get version.id = some (boundRow found artifact) := by
        rw [hid]
        exact Table.get_put_self _ _
      rcases hread with hread | ⟨-, bound, hread⟩
      · cases hread.symm.trans hfound
        exact .inr ⟨uploaded, artifact, hput⟩
      · cases hread.symm.trans hfound
        cases uploaded
    · have hne : version.id ≠ (boundRow found artifact).id := hid
      unfold AsRead
      rwa [Table.get_put_of_ne _ _ hne]

/-- What stands is in the store as it was read, or bound since. -/
theorem asRead_of_standing (h : History R runtimeContractForApp w₀ es w) :
    ∀ (t : ι) version, Standing version (traceOf t es) → AsRead version w.store.appVersions := by
  refine h.under_lock (Q := fun version w => AsRead version w.store.appVersions) activationLock_guards
    releases_rule Standing.hasLock ?_ ?_
  · intro es w w' t o x r version _ hp _ hk hread
    have hstep := perform_step hp
    rcases hk with ⟨hmem, -⟩ | ⟨hstanding, hsettled⟩
    · generalize w'.store.appVersions = versions at hstep ⊢
      cases hstep with
      | kept reads _ => exact .inl (reads version hmem)
      | saved => exact absurd hmem List.not_mem_nil
      | activated => exact absurd hmem List.not_mem_nil
      | bound => exact absurd hmem List.not_mem_nil
    · refine asRead_step hstep (fun saved heq => ?_) (fun appId versionId expected heq => ?_) (hread hstanding)
      · subst heq
        exact of_decide_eq_false hsettled
      · subst heq
        cases hsettled
  · intro es w w' t o x r version _ hp hwrites hlock hread
    refine asRead_step (perform_step hp) (fun saved heq => ?_) (fun appId versionId expected heq => ?_) hread
    · subst heq
      rw [hwrites.1] at hlock
      cases hlock
    · subst heq
      obtain ⟨read, hstanding, -, -⟩ := hwrites
      rw [hstanding.hasLock] at hlock
      cases hlock

/-- The ids of the versions were handed out, and under one that a thread still keeps to itself there is none. -/
structure IdsKept (es : List (Event ι CatalogOp CatalogOp.Answer Failure (World ρ))) (w : World ρ) : Prop where
  issued : ∀ id version, w.store.appVersions.get id = some version → id ∈ w.ids
  unused : ∀ t id, Minted id (traceOf t es) → w.store.appVersions.get id = none

/-- The ids under which a step may leave a version. -/
theorem get_of_step {s : CatalogStore} {o : CatalogOp} {r : Except Failure o.Answer} {versions : Table AppVersion.id}
    (h : VersionStep s o r versions) (id : String) :
    (versions.get id).isSome = (s.appVersions.get id).isSome ∨ ∃ version, o = .saveAppVersion version ∧ version.id = id := by
  cases h with
  | kept _ _ => exact .inl rfl
  | @saved saved =>
    by_cases hid : saved.id = id
    · exact .inr ⟨saved, rfl, hid⟩
    · have hne : id ≠ (s.savedRow saved).id := Ne.symm hid
      rw [Table.get_put_of_ne _ _ hne]
      exact .inl rfl
  | activated =>
    rw [CatalogStore.activatedRows, Table.get_sweep, Option.isSome_map]
    exact .inl rfl
  | @bound appId versionId artifactId found artifact there uploaded =>
    by_cases hid : id = found.id
    · subst hid
      have hput := Table.get_put_self s.appVersions (boundRow found artifact)
      have hget : (s.appVersions.get found.id).isSome = true := by
        rw [Table.key_of_get there, there]
        rfl
      left
      rw [hget]
      exact Option.isSome_of_eq_some hput
    · have hne : id ≠ (boundRow found artifact).id := hid
      rw [Table.get_put_of_ne _ _ hne]
      exact .inl rfl

theorem AsRead.isSome {version : AppVersion} {versions : Table AppVersion.id} (h : AsRead version versions) :
    (versions.get version.id).isSome = true := by
  rcases h with h | ⟨-, artifact, h⟩ <;> exact Option.isSome_of_eq_some h

theorem idsKept (h : History R runtimeContractForApp w₀ es w)
    (h₀ : ∀ version ∈ w₀.store.appVersions.rows, version.id ∈ w₀.ids) : IdsKept es w := by
  refine h.inv (I := IdsKept) ⟨fun id version hget => ?_, fun t id hminted => hminted.elim⟩ ?_
  · obtain ⟨hmem, rfl⟩ := Table.get_eq_some.1 hget
    exact h₀ version hmem
  · intro es w w' t o x r hes ih hp hwrites
    have hstep := perform_step hp
    have hdistinct := hes.distinct randomIds_issued
    have hids : ∀ id ∈ w.ids, id ∈ w'.ids := fun id => randomIds_issued.stays hp
    -- what is saved is under an id of the thread, or it was there
    have hsaved : ∀ version, o = .saveAppVersion version →
        (Minted version.id (traceOf t es) ∨ (w.store.appVersions.get version.id).isSome = true) := by
      rintro version rfl
      rcases hwrites.2.standing_or_minted with hminted | ⟨read, hstanding, hid⟩
      · exact .inl hminted
      · rw [hid]
        exact .inr (asRead_of_standing hes t read hstanding).isSome
    constructor
    · intro id version hget
      rcases get_of_step hstep id with hsame | ⟨saved, ho, hid⟩
      · rw [hget] at hsame
        obtain ⟨version', hget'⟩ := Option.isSome_iff_exists.1 hsame.symm
        exact hids id (ih.issued id version' hget')
      · subst hid
        rcases hsaved saved ho with hminted | hthere
        · exact hids _ (hdistinct.taken t _ hminted.mem_names)
        · obtain ⟨version', hget'⟩ := Option.isSome_iff_exists.1 hthere
          exact hids _ (ih.issued _ version' hget')
    · intro t' id hminted
      have hbefore : Minted id (traceOf t' es) ∨ (t' = t ∧ issuedId ⟨o, r⟩ = some id) := by
        by_cases ht : t' = t
        · subst ht
          rw [traceOf_record_own] at hminted
          rcases hminted with hissued | ⟨hminted, -⟩
          · exact .inr ⟨rfl, hissued⟩
          · exact .inl hminted
        · rw [traceOf_record_other (Ne.symm ht)] at hminted
          exact .inl hminted
      have hnone : w.store.appVersions.get id = none := by
        rcases hbefore with hminted | ⟨-, hissued⟩
        · exact ih.unused t' id hminted
        · refine Option.eq_none_iff_forall_not_mem.2 fun version hget => ?_
          exact randomIds_issued.fresh hp hissued (ih.issued id version hget)
      rcases get_of_step hstep id with hsame | ⟨saved, rfl, rfl⟩
      · rw [hnone] at hsame
        exact Option.not_isSome_iff_eq_none.1 (by rw [hsame]; exact Bool.false_ne_true)
      · exfalso
        rcases hsaved saved rfl with hown | hthere
        · -- the id is of this thread, and it is saved now
          have ht : t' = t := by
            rcases hbefore with hbefore | ⟨ht, -⟩
            · exact hdistinct.one t' t _ hbefore.mem_names hown.mem_names
            · exact ht
          subst ht
          rw [traceOf_record_own] at hminted
          rcases hminted with hissued | ⟨-, hunsaved⟩
          · cases hissued
          · exact hunsaved saved rfl rfl
        · rw [hnone] at hthere
          cases hthere

/-! ## Every step is a move -/

theorem RowMove.refl (row : Option AppVersion) : RowMove row row := by
  cases row with
  | none => exact .absent
  | some version => exact .moved .kept

/-- A version that is saved as it was read is the row with the same change. -/
theorem savedRow_of_get {s : CatalogStore} {row : AppVersion} (version : AppVersion)
    (hget : s.appVersions.get version.id = some row)
    (happ : row.appId = version.appId) (hrevision : row.revision = version.revision) :
    s.savedRow version = rewritten version (s.nextRevision version.appId) := by
  unfold CatalogStore.savedRow CatalogStore.savedRevision rewritten
  rw [hget]
  dsimp only
  rw [if_pos happ, hrevision]

theorem move_attached {s : CatalogStore} {read : AppVersion} {imageReference runtimeContract : String}
    (hread : AsRead read s.appVersions) (draft : Draft read) :
    RowMove (s.appVersions.get read.id) (some (s.savedRow (attachedRow read imageReference runtimeContract))) := by
  rcases hread with hget | ⟨-, artifact, hget⟩
  · rw [savedRow_of_get (attachedRow read imageReference runtimeContract) hget rfl rfl, hget]
    exact .moved (.attached draft)
  · rw [savedRow_of_get (attachedRow read imageReference runtimeContract) hget rfl rfl, hget]
    have hdraft : Draft (boundRow read artifact) := .inr rfl
    exact .moved (.attached hdraft)

theorem move_archived {s : CatalogStore} {read : AppVersion} (hread : AsRead read s.appVersions) (draft : Draft read) :
    RowMove (s.appVersions.get read.id) (some (s.savedRow (archived read))) := by
  rcases hread with hget | ⟨-, artifact, hget⟩
  · rw [savedRow_of_get (archived read) hget rfl rfl, hget]
    exact .moved (.archived draft)
  · rw [savedRow_of_get (archived read) hget rfl rfl, hget]
    have hdraft : Draft (boundRow read artifact) := .inr rfl
    exact .moved (.archived hdraft)

theorem born_savedRow {s : CatalogStore} {version : AppVersion} (hnone : s.appVersions.get version.id = none)
    (draft : Draft version) (inactive : version.activatedAt = none) (unbound : version.imageArtifactId = none) :
    Born (s.savedRow version) where
  draft := draft
  inactive := inactive
  unbound := unbound
  numbered := by
    refine ⟨((s.versionsOf version.appId).map fun version => version.revision.getD 0).foldl max 0, ?_⟩
    unfold CatalogStore.savedRow CatalogStore.savedRevision
    rw [hnone]
    rfl

/-- The version that was read can be activated as it is now. -/
theorem AsRead.ready {read row : AppVersion} {versions : Table AppVersion.id} (h : AsRead read versions)
    (hget : versions.get read.id = some row) (hready : Draft read ∨ read.status = .active) :
    Draft row ∨ row.status = .active := by
  rcases h with h | ⟨-, artifact, h⟩
  · cases h.symm.trans hget
    exact hready
  · cases h.symm.trans hget
    exact .inl (.inr rfl)

theorem move_activatedRow {appId versionId activatedAt : String} {version : AppVersion}
    (hready : version.id = versionId → Draft version ∨ version.status = .active) :
    VersionMove version (activatedRow appId versionId activatedAt version) := by
  unfold activatedRow
  split
  · exact .kept
  · split
    · next hid => exact .activated (hready hid)
    · split
      · next hactive => exact .deactivated hactive
      · exact .kept

/-- What a step of a history does to the row under an id. -/
theorem rowMove_step {t : ι} {o : CatalogOp} {x : CatalogChoice} {r : Except Failure o.Answer}
    (hes : History R runtimeContractForApp w₀ es w) (h₀ : ∀ version ∈ w₀.store.appVersions.rows, version.id ∈ w₀.ids)
    (hp : World.perform R w o x = some (r, w')) (hwrites : Writes (traceOf t es) o) (id : String) :
    RowMove (w.store.appVersions.get id) (w'.store.appVersions.get id) := by
  have hstep := perform_step hp
  generalize w'.store.appVersions = versions at hstep ⊢
  cases hstep with
  | kept _ _ => exact RowMove.refl _
  | @saved saved =>
    by_cases hid : id = saved.id
    · subst hid
      have hput : (w.store.appVersions.put (w.store.savedRow saved)).get saved.id = some (w.store.savedRow saved) :=
        Table.get_put_self _ _
      rw [hput]
      cases hwrites.2 with
      | new minted draft _ inactive unbound =>
        have hnone := (idsKept hes h₀).unused t _ minted
        rw [hnone]
        exact .born (born_savedRow hnone draft inactive unbound)
      | @attached read imageReference runtimeContract standing draft =>
        have hmove : RowMove (w.store.appVersions.get read.id)
            (some (w.store.savedRow (attachedRow read imageReference runtimeContract))) :=
          move_attached (asRead_of_standing hes t read standing) draft
        exact hmove
      | @archived read standing draft =>
        have hmove : RowMove (w.store.appVersions.get read.id) (some (w.store.savedRow (archived read))) :=
          move_archived (asRead_of_standing hes t read standing) draft
        exact hmove
    · have hne : id ≠ (w.store.savedRow saved).id := hid
      rw [Table.get_put_of_ne _ _ hne]
      exact RowMove.refl _
  | @activated appId versionId activatedAt expected target there app current =>
    obtain ⟨read, standing, rfl, hready⟩ := hwrites
    have hread := asRead_of_standing hes t read standing
    rw [CatalogStore.activatedRows, Table.get_sweep]
    cases hget : w.store.appVersions.get id with
    | none => exact .absent
    | some version =>
      refine .moved (move_activatedRow fun hid => hread.ready ?_ hready)
      rw [← hid, Table.key_of_get hget]
      exact hget
  | @bound appId versionId artifactId found artifact there uploaded =>
    by_cases hid : id = found.id
    · subst hid
      have hput := Table.get_put_self w.store.appVersions (boundRow found artifact)
      have hget : w.store.appVersions.get found.id = some found := by
        rw [Table.key_of_get there]
        exact there
      rw [hget]
      exact hput ▸ .moved (.bound uploaded)
    · have hne : id ≠ (boundRow found artifact).id := hid
      rw [Table.get_put_of_ne _ _ hne]
      exact RowMove.refl _

/-! ## Along a run -/

/-- What a version keeps for good. -/
structure Descends (version later : AppVersion) : Prop where
  sourceKind : later.sourceKind = version.sourceKind
  appId : later.appId = version.appId
  name : later.version = version.version
  buildId : later.buildId = version.buildId
  createdAt : later.createdAt = version.createdAt
  packages : (later.packages.map fun pkg => (pkg.key, pkg.artifact)).Perm (version.packages.map fun pkg => (pkg.key, pkg.artifact))
  revision : version.revision.isSome → later.revision = version.revision
  final : version.status = .archived ∨ version.status = .legacy → later = version

theorem Descends.refl (version : AppVersion) : Descends version version :=
  ⟨rfl, rfl, rfl, rfl, rfl, .refl _, fun _ => rfl, fun _ => rfl⟩

theorem Descends.trans {first second third : AppVersion} (h : Descends first second) (h' : Descends second third) :
    Descends first third where
  sourceKind := h'.sourceKind.trans h.sourceKind
  appId := h'.appId.trans h.appId
  name := h'.name.trans h.name
  buildId := h'.buildId.trans h.buildId
  createdAt := h'.createdAt.trans h.createdAt
  packages := h'.packages.trans h.packages
  revision hsome := (h'.revision (by rw [h.revision hsome]; exact hsome)).trans (h.revision hsome)
  final hfinal := by
    have heq := h.final hfinal
    rw [← heq] at hfinal
    rw [h'.final hfinal, heq]

theorem Draft.not_final {version : AppVersion} (h : Draft version) :
    ¬ (version.status = .archived ∨ version.status = .legacy) := by
  rcases h with h | h <;> simp [h]

theorem packages_rewritten (version : AppVersion) (nextRevision : Nat) :
    ((rewritten version nextRevision).packages.map fun pkg => (pkg.key, pkg.artifact)).Perm
      (version.packages.map fun pkg => (pkg.key, pkg.artifact)) :=
  (List.perm_insertionSort _ _).map _

theorem VersionMove.descends {version later : AppVersion} (h : VersionMove version later) : Descends version later := by
  have hrevision : ∀ {version : AppVersion} {n : Nat}, version.revision.isSome →
      some (version.revision.getD n) = version.revision := by
    intro version n hsome
    obtain ⟨revision, heq⟩ := Option.isSome_iff_exists.1 hsome
    rw [heq]
    rfl
  cases h with
  | kept => exact Descends.refl _
  | attached draft =>
    exact ⟨rfl, rfl, rfl, rfl, rfl, packages_rewritten _ _, hrevision, fun hfinal => absurd hfinal draft.not_final⟩
  | bound uploaded => exact ⟨rfl, rfl, rfl, rfl, rfl, .refl _, fun _ => rfl, fun hfinal => absurd hfinal (Draft.not_final (.inl uploaded))⟩
  | activated ready =>
    refine ⟨rfl, rfl, rfl, rfl, rfl, .refl _, fun _ => rfl, fun hfinal => ?_⟩
    rcases ready with draft | active
    · exact absurd hfinal draft.not_final
    · simp [active] at hfinal
  | deactivated active => exact ⟨rfl, rfl, rfl, rfl, rfl, .refl _, fun _ => rfl, fun hfinal => by simp [active] at hfinal⟩
  | archived draft =>
    refine ⟨rfl, rfl, rfl, rfl, rfl, (packages_rewritten _ _).trans ?_, hrevision, fun hfinal => absurd hfinal draft.not_final⟩
    have hperm := (List.perm_insertionSort (fun left right : ImageBuildPackage => left.key ≤ right.key) version.packages).map
      fun pkg => (pkg.key, pkg.artifact)
    unfold Catalog.archived packagesForVersion
    dsimp only
    rw [List.map_map]
    exact hperm

/-- The versions of the one world are still in the other. -/
def Kept (w w' : World ρ) : Prop :=
  ∀ id version, w.store.appVersions.get id = some version →
    ∃ later, w'.store.appVersions.get id = some later ∧ Descends version later

theorem kept_of_rowMove (h : ∀ id, RowMove (w.store.appVersions.get id) (w'.store.appVersions.get id)) : Kept w w' := by
  intro id version hget
  have hmove := h id
  rw [hget] at hmove
  generalize w'.store.appVersions.get id = row at hmove ⊢
  cases hmove with
  | moved move => exact ⟨_, rfl, move.descends⟩

end Runs

namespace Sample

/-- A host that has the image of each digest. -/
def host : ImageRuntime Unit where
  resolve _ reference := some reference
  built _ _ _ := ()
  removeImageIfCurrent _ _ _ := (true, ())

def app : AppDefinition := ⟨"desk", "Desk", "", "none", .active, "", ""⟩

/-- An uploaded version of the App. -/
def uploaded : AppVersion where
  sourceKind := none
  id := "v1"
  appId := "desk"
  revision := some 1
  version := "1.0.0"
  buildId := "b1"
  packages := [⟨"main", ⟨"main.tgz", "00", 1⟩, none⟩]
  imageArtifactId := none
  imageReference := none
  runtimeContract := none
  status := .uploaded
  createdAt := ""
  activatedAt := none

def world : World Unit where
  store := ⟨⟨[app], by decide⟩, ⟨[uploaded], by decide⟩, ⟨[], by decide⟩, ⟨[], by decide⟩, ⟨[], by decide⟩, ⟨[], by decide⟩,
    ⟨[], by decide⟩⟩
  locked := false
  ids := ["v1"]
  runtime := ()

def contracts (_ : String) (_ : AppVersion) : Option String :=
  none

/-- One thread attaches an image to the version and then another one activates it. -/
def calls : Bool → CatalogCall
  | true => .attachImage "desk" "v1" "desk:1"
  | false => .activateVersion "desk" "v1" (some 0)

def schedule : List (Bool × CatalogChoice) :=
  List.replicate 6 (true, .go) ++ List.replicate 7 (false, .go) ++ [(false, .text "now"), (false, .go)]

end Sample

end OpenApp.Catalog
