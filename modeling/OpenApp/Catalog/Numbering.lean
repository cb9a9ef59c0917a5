import OpenApp.Catalog.LifeCycle
import OpenApp.Catalog.Steps

/-!
# Revisions, names and the active version

A new revision is greater than all the App has, a name that is taken is refused, and who is activated takes
the place of the one before. No call saves a version as active. So at any time an App has no revision twice,
no name twice, and at most one active version.
-/

namespace OpenApp.Catalog

open Async Async.Prog Keyed Script

def SameRevision (version other : AppVersion) : Prop :=
  version.appId = other.appId ∧ version.revision.isSome = true ∧ version.revision = other.revision

def SameName (version other : AppVersion) : Prop :=
  version.appId = other.appId ∧ version.version = other.version

def BothActive (version other : AppVersion) : Prop :=
  version.appId = other.appId ∧ version.status = .active ∧ other.status = .active

/-- No two versions are related so. -/
def Apart (related : AppVersion → AppVersion → Prop) (versions : Table AppVersion.id) : Prop :=
  ∀ version ∈ versions.rows, ∀ other ∈ versions.rows, related version other → version = other

/-- What a catalog says of the versions of an App. -/
structure Numbered (versions : Table AppVersion.id) : Prop where
  revisions : Apart SameRevision versions
  names : Apart SameName versions
  active : Apart BothActive versions

theorem SameRevision.symm {version other : AppVersion} (h : SameRevision version other) : SameRevision other version :=
  ⟨h.1.symm, h.2.2 ▸ h.2.1, h.2.2.symm⟩

theorem SameName.symm {version other : AppVersion} (h : SameName version other) : SameName other version :=
  ⟨h.1.symm, h.2.symm⟩

theorem BothActive.symm {version other : AppVersion} (h : BothActive version other) : BothActive other version :=
  ⟨h.1.symm, h.2.2, h.2.1⟩

section Tables

variable {versions : Table AppVersion.id} {related : AppVersion → AppVersion → Prop} {row : AppVersion}

/-- The rows stay apart if what is put is apart from all but the row it replaces. -/
theorem Apart.put (h : Apart related versions) (hsymm : ∀ {version other}, related version other → related other version)
    (hnew : ∀ version ∈ versions.rows, related version row → version.id = row.id) : Apart related (versions.put row) := by
  intro version hversion other hother hrelated
  rcases Table.mem_put hversion with heq | ⟨hid, hversion⟩
  · rcases Table.mem_put hother with heq' | ⟨hid', hother⟩
    · rw [heq, heq']
    · rw [heq] at hrelated
      exact absurd (hnew other hother (hsymm hrelated)) hid'
  · rcases Table.mem_put hother with heq' | ⟨-, hother⟩
    · rw [heq'] at hrelated
      exact absurd (hnew version hversion hrelated) hid
    · exact h version hversion other hother hrelated

/-- The rows stay apart if each is changed on its own and none gets closer to another. -/
theorem Apart.sweep {f : AppVersion → AppVersion} {hf : ∀ version, (f version).id = version.id} (h : Apart related versions)
    (hback : ∀ version ∈ versions.rows, ∀ other ∈ versions.rows, related (f version) (f other) →
      related version other ∨ version.id = other.id) : Apart related (versions.sweep f hf) := by
  intro version hversion other hother hrelated
  obtain ⟨version, hmem, rfl⟩ := List.mem_map.1 hversion
  obtain ⟨other, hmem', rfl⟩ := List.mem_map.1 hother
  rcases hback version hmem other hmem' hrelated with hrelated | hid
  · rw [h version hmem other hmem' hrelated]
  · have hget := Table.mem_iff.1 hmem
    rw [hid, Table.mem_iff.1 hmem'] at hget
    rw [Option.some.inj hget]

end Tables

theorem le_foldl_max (l : List Nat) (a n : Nat) (h : n ≤ a ∨ n ∈ l) : n ≤ l.foldl max a := by
  induction l generalizing a with
  | nil => simpa using h
  | cons b l ih =>
    refine ih (max a b) ?_
    rcases h with h | h
    · exact .inl (by omega)
    · rcases List.mem_cons.1 h with rfl | h
      · exact .inl (by omega)
      · exact .inr h

/-- A new revision is greater than those of the App. -/
theorem revision_lt_next {s : CatalogStore} {version : AppVersion} (h : version ∈ s.appVersions.rows) :
    version.revision.getD 0 < s.nextRevision version.appId := by
  unfold CatalogStore.nextRevision CatalogStore.versionsOf
  refine Nat.lt_succ_of_le (le_foldl_max _ _ _ (.inr (List.mem_map.2 ⟨version, ?_, rfl⟩)))
  exact List.mem_filter.2 ⟨h, by simp⟩

section Step

variable {s : CatalogStore} (h : Numbered s.appVersions)
include h

theorem Numbered.saved {saved : AppVersion} (hinactive : saved.status ≠ .active)
    (hnamed : ∀ item ∈ s.appVersions.rows, item.appId = saved.appId → item.version = saved.version → item.id = saved.id) :
    Numbered (s.appVersions.put (s.savedRow saved)) where
  names := h.names.put SameName.symm fun version hversion hrelated => hnamed version hversion hrelated.1 hrelated.2
  active := h.active.put BothActive.symm fun version hversion hrelated => absurd hrelated.2.2 hinactive
  revisions := by
    refine h.revisions.put SameRevision.symm fun version hversion ⟨happ, hsome, hrevision⟩ => ?_
    have hrevision : version.revision = some (s.savedRevision saved) := hrevision
    have hnext : s.savedRevision saved ≠ s.nextRevision saved.appId := by
      intro heq
      have hlt := revision_lt_next hversion
      rw [hrevision, Option.getD_some, heq, happ] at hlt
      exact absurd hlt (lt_irrefl _)
    unfold CatalogStore.savedRevision at hrevision hnext
    split at hrevision
    · next current hget =>
      rw [hget] at hnext
      dsimp only at hnext
      split at hrevision
      · next hsame =>
        rw [if_pos hsame] at hnext
        cases hcurrent : current.revision with
        | none =>
          rw [hcurrent] at hnext
          exact absurd rfl hnext
        | some revision =>
          rw [hcurrent] at hrevision
          obtain ⟨hmem, hid⟩ := Table.get_eq_some.1 hget
          have heq := h.revisions version hversion current hmem ⟨happ.trans hsame.symm, hsome, hrevision.trans hcurrent.symm⟩
          rw [heq]
          exact hid
      · next hsame =>
        rw [if_neg hsame] at hnext
        exact absurd rfl hnext
    · next hget =>
      rw [hget] at hnext
      exact absurd rfl hnext

theorem Numbered.bound {version : AppVersion} {artifact : ImageArtifact} (hmem : version ∈ s.appVersions.rows) :
    Numbered (s.appVersions.put (boundRow version artifact)) where
  revisions := h.revisions.put SameRevision.symm fun other hother hrelated => by
    rw [h.revisions other hother version hmem hrelated]
    rfl
  names := h.names.put SameName.symm fun other hother hrelated => by
    rw [h.names other hother version hmem hrelated]
    rfl
  active := h.active.put BothActive.symm fun other hother hrelated => AppVersionStatus.noConfusion hrelated.2.2

omit h in
@[simp] theorem activatedRow_appId (appId versionId activatedAt : String) (version : AppVersion) :
    (activatedRow appId versionId activatedAt version).appId = version.appId := by
  unfold activatedRow
  repeat' split
  all_goals rfl

omit h in
@[simp] theorem activatedRow_version (appId versionId activatedAt : String) (version : AppVersion) :
    (activatedRow appId versionId activatedAt version).version = version.version := by
  unfold activatedRow
  repeat' split
  all_goals rfl

omit h in
@[simp] theorem activatedRow_revision (appId versionId activatedAt : String) (version : AppVersion) :
    (activatedRow appId versionId activatedAt version).revision = version.revision := by
  unfold activatedRow
  repeat' split
  all_goals rfl

omit h in
/-- A version that is active afterwards is the activated one, or of another App and was active before. -/
theorem active_of_activatedRow {appId versionId activatedAt : String} {version : AppVersion}
    (hactive : (activatedRow appId versionId activatedAt version).status = .active) :
    version.id = versionId ∧ version.appId = appId ∨ version.appId ≠ appId ∧ version.status = .active := by
  unfold activatedRow at hactive
  split at hactive
  · next happ => exact .inr ⟨happ, hactive⟩
  · next happ =>
    split at hactive
    · next hid => exact .inl ⟨hid, not_not.1 happ⟩
    · split at hactive
      · dsimp only at hactive
        split at hactive <;> cases hactive
      · next hinactive => exact absurd hactive hinactive

theorem Numbered.activated (appId versionId activatedAt : String) : Numbered (s.activatedRows appId versionId activatedAt) where
  revisions := h.revisions.sweep fun version _ other _ hrelated => .inl (by simpa [SameRevision] using hrelated)
  names := h.names.sweep fun version _ other _ hrelated => .inl (by simpa [SameName] using hrelated)
  active := by
    refine h.active.sweep fun version _ other _ ⟨happ, hactive, hactive'⟩ => ?_
    rw [activatedRow_appId, activatedRow_appId] at happ
    rcases active_of_activatedRow hactive with ⟨hid, hown⟩ | ⟨hother, hactive⟩
    · rcases active_of_activatedRow hactive' with ⟨hid', -⟩ | ⟨hother', -⟩
      · exact .inr (hid.trans hid'.symm)
      · exact absurd (happ ▸ hown) hother'
    · rcases active_of_activatedRow hactive' with ⟨-, hown'⟩ | ⟨-, hactive'⟩
      · exact absurd (happ ▸ hown') hother
      · exact .inl ⟨happ, hactive, hactive'⟩

end Step

theorem Saves.inactive {tr : Exchanges} {version : AppVersion} (h : Saves tr version) : version.status ≠ .active := by
  cases h with
  | new _ draft _ _ _ => rcases draft with h | h <;> simp [h]
  | attached _ _ => exact AppVersionStatus.noConfusion
  | archived _ _ => exact AppVersionStatus.noConfusion

/-- A step keeps the versions numbered. -/
theorem numbered_step {s s' : CatalogStore} {o : CatalogOp} {tr : Exchanges} (h : StoreStep s o s') (hwrites : Writes tr o)
    (hs : Numbered s.appVersions) : Numbered s'.appVersions := by
  cases h with
  | saved app packages named => exact hs.saved hwrites.2.inactive named
  | activated there => exact hs.activated _ _ _
  | bound there left uploaded => exact hs.bound (Table.get_eq_some.1 there).1
  | _ => exact hs

section Runs

variable {ρ ι : Type} [DecidableEq ι] {R : ImageRuntime ρ} {runtimeContractForApp : String → AppVersion → Option String}
  {w₀ : World ρ}

/-- In every run, at every time, an App has no revision twice, no name twice and at most one active version. -/
theorem versions_numbered {calls : ι → CatalogCall} {sched : List (ι × CatalogChoice)}
    {c : Config ι CatalogOp CatalogOp.Answer Failure (World ρ) CatalogCall CatalogResult} (h₀ : Numbered w₀.store.appVersions)
    (h : exec (catalogSystem R runtimeContractForApp) (start (catalogSystem R runtimeContractForApp) w₀ calls) sched = some c) :
    Every (fun _ e => Numbered e.after.store.appVersions) c.events ∧ Numbered c.world.store.appVersions := by
  refine (history_of_exec h).inv (I := fun es w => Every (fun _ e => Numbered e.after.store.appVersions) es ∧
    Numbered w.store.appVersions) ⟨trivial, h₀⟩ fun es w w' t o x r _ ih hp hwrites => ?_
  have hs := numbered_step (perform_stored hp) hwrites ih.2
  exact ⟨⟨hs, ih.1⟩, hs⟩

end Runs

open Sample in
theorem versions_numbered_activated : ∃ c,
    exec (catalogSystem host contracts) (start (catalogSystem host contracts) world calls) schedule = some c ∧
    Numbered c.world.store.appVersions := by
  obtain ⟨c, hrun, -⟩ : ∃ c, exec (catalogSystem host contracts) (start (catalogSystem host contracts) world calls) schedule =
      some c ∧ (c.world.store.getAppVersion "v1").map AppVersion.status = some .active := exists_of_any (by decide +kernel)
  refine ⟨c, hrun, (versions_numbered ⟨?_, ?_, ?_⟩ hrun).2⟩ <;>
    (intro version hversion other hother _; rw [List.mem_singleton.1 hversion, List.mem_singleton.1 hother])

end OpenApp.Catalog
