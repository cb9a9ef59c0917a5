import OpenApp.Catalog.System

/-!
# Which calls a program makes

Most of what the catalog asks for only looks. What a program asks for beyond this is few: one lemma for each
program lists it, for whatever is to be said of these calls.
-/

namespace OpenApp.Catalog

open Async Async.Prog

/-- A call that leaves the store, the lock and the ids as they are. -/
def looks : CatalogOp → Bool
  | .lock | .unlock | .randomId => false
  | .saveAppVersion _ | .activateAppVersion _ _ _ | .bindRelease _ _ _ => false
  | .createPackage _ | .deleteBuildPackageIfUnreferenced _ => false
  | .createBuild _ | .updateBuild _ _ | .completeBuild _ _ _ | .deleteImageArtifactIfUnreferenced _ => false
  | .saveContainer _ | .deleteContainer _ | .createRolloutItems _ | .updateRolloutItem _ _ => false
  | _ => true

/-- What looks changes at most the host of the images. -/
theorem perform_looks {ρ : Type} {R : ImageRuntime ρ} {w w' : World ρ} {o : CatalogOp} {x : CatalogChoice}
    {r : Except Failure o.Answer} (ho : looks o = true) (h : World.perform R w o x = some (r, w')) :
    w'.store = w.store ∧ w'.locked = w.locked ∧ w'.ids = w.ids := by
  unfold World.perform at h
  split at h
  · split at h
    · cases h
    · cases h
      exact ⟨rfl, rfl, rfl⟩
  · rcases Option.or_eq_some_iff.1 h with h | ⟨-, h⟩
    · cases o <;> simp only [World.write, reduceCtorEq, Option.some.injEq] at h <;>
        first
        | exact absurd ho Bool.false_ne_true
        | (cases h; exact ⟨rfl, rfl, rfl⟩)
    · obtain ⟨a, -, heq⟩ := Option.map_eq_some_iff.1 h
      cases heq
      exact ⟨rfl, rfl, rfl⟩
  · unfold World.told at h
    split at h
    · cases h
      exact ⟨rfl, rfl, rfl⟩
    · exact absurd ho Bool.false_ne_true
    · cases h
      exact ⟨rfl, rfl, rfl⟩
    · cases h
      exact ⟨rfl, rfl, rfl⟩
    · cases h
      exact ⟨rfl, rfl, rfl⟩
    · exact absurd ho Bool.false_ne_true
    · cases h

/-- Past what must be there the rest runs only where it is. -/
theorem wp_required_seq {G : Exchanges → CatalogOp → Prop} {α β : Type} {a : Option α} {e : Failure} {f : α → CatalogTask β}
    {P : β → Exchanges → Prop} {tr : Exchanges} (hf : ∀ x, a = some x → wp G (f x) (OnOk P) tr) :
    wp G (required a e >>= f) (OnOk P) tr := by
  rw [wp_bind]
  cases a with
  | none => trivial
  | some a => exact hf a rfl

theorem wp_required {G : Exchanges → CatalogOp → Prop} {α : Type} {a : Option α} {e : Failure} {P : α → Exchanges → Prop}
    {tr : Exchanges} (h : ∀ x, a = some x → P x tr) : wp G (required a e) (OnOk P) tr := by
  cases a with
  | none => trivial
  | some a => exact h a rfl

section Kinds

variable {P : CatalogOp → Prop}

-- the lemmas say all of it; the texts a program checks are not to be evaluated
attribute [local irreducible] Only

theorem only_look (hlooks : ∀ o, looks o = true → P o) {o : CatalogOp} (h : looks o = true) : Only P (ask o) :=
  only_await (hlooks o h)

theorem only_required {α : Type} (a : Option α) (e : Failure) : Only P (required a e) := by
  cases a with
  | none => exact only_throw e
  | some a => exact only_pure a

/-- What is read must be there. -/
theorem only_look_required {α : Type} (hlooks : ∀ o, looks o = true → P o) {o : CatalogOp} (h : looks o = true)
    (f : o.Answer → Option α) (e : Failure) : Only P (do required (f (← ask o)) e) :=
  only_bind (only_look hlooks h) fun _ => only_required _ _

theorem only_withActivationLock {α : Type} {operation : CatalogTask α} (hlock : P .lock) (hunlock : P .unlock)
    (h : Only P operation) : Only P (withActivationLock operation) :=
  only_bind (only_await hlock) fun _ => only_ensuring h (only_await hunlock)

/-! ## What only looks -/

section Looking

variable (hlooks : ∀ o, looks o = true → P o)
include hlooks

theorem only_assertImageAvailable (reference : String) (runtimeContract : Option String) :
    Only P (assertImageAvailable reference runtimeContract) := by
  refine only_bind (only_tryCatch (only_look hlooks rfl) fun e => only_throw _) fun resolved => ?_
  refine only_bind (only_required _ _) fun immutableReference => ?_
  cases bindingContract runtimeContract with
  | none => exact only_bind (only_pure _) fun _ => only_pure _
  | some contract =>
    exact only_bind (only_tryCatch (only_look hlooks rfl) fun e => only_throw _) fun _ => only_pure _

theorem only_validateStoredArtifacts (version : AppVersion) : Only P (validateStoredArtifacts version) := by
  unfold validateStoredArtifacts
  split
  · exact only_throwIf _ _
  · exact only_bind (only_throwIf _ _) fun _ => only_look hlooks rfl

theorem only_checkCopies (versionId : String) (packages : List ImageBuildPackage) : Only P (checkCopies versionId packages) :=
  only_bind (only_each (fun pkg => only_bind (only_settle (only_look hlooks rfl)) fun _ => only_throwIf _ _) _)
    fun _ => only_pure _

theorem only_assertVersionIsNew (appId version : String) : Only P (assertVersionIsNew appId version) :=
  only_bind (only_look hlooks rfl) fun _ => only_throwIf _ _

theorem only_activeApp (appId : String) : Only P (activeApp appId) :=
  only_bind (only_fromExcept _) fun _ => only_bind (only_look hlooks rfl) fun _ => only_bind (only_required _ _) fun _ =>
    only_bind (only_throwIf _ _) fun _ => only_pure _

theorem only_launchTarget (appId : String) : Only P (launchTarget appId) :=
  only_bind (only_fromExcept _) fun _ => only_bind (only_look hlooks rfl) fun _ => only_bind (only_required _ _) fun _ =>
    only_bind (only_look hlooks rfl) fun _ => only_bind (only_required _ _) fun _ => only_bind (only_required _ _) fun _ =>
      only_bind (only_assertImageAvailable hlooks _ _) fun _ => only_pure _

theorem only_requireBuild (id : String) : Only P (requireBuild id) :=
  only_look_required hlooks (o := .getBuild id) rfl _ _

theorem only_preview (blocked : Snapshot → List AppVersion → Bool) : Only P (preview blocked) :=
  only_bind (only_look hlooks rfl) fun _ => only_bind (only_look hlooks rfl) fun _ => only_bind (only_look hlooks rfl) fun _ =>
    only_bind (only_look hlooks rfl) fun _ => only_bind (only_look hlooks rfl) fun _ =>
      only_bind (only_each (fun (app : AppDefinition) => only_look hlooks (o := .listAppVersions app.id) rfl) _) fun _ => only_pure _

theorem only_checkPackageReferences (strategyId : String) (packages : List ImageBuildPackage) :
    Only P (checkPackageReferences strategyId packages) := by
  refine only_bind (only_each (fun item => ?_) _) fun _ => only_pure _
  cases item.packageId.filter Script.truthy with
  | none => exact only_pure _
  | some id => exact only_bind (only_look hlooks rfl) fun _ => only_throwIf _ _

theorem only_resolveTarget (useLatestVersion : Bool) (container : Container) :
    Only P (resolveTarget useLatestVersion container) := by
  unfold resolveTarget
  split
  · exact only_bind (only_launchTarget hlooks _) fun _ => only_pure _
  · exact only_bind (only_throwIf _ _) fun _ => only_pure _

end Looking

/-! ## Programs -/

section Programs

variable (hlooks : ∀ o, looks o = true → P o)
include hlooks

theorem only_persistInspectedVersion (app : AppDefinition) (inspected : InspectedAppVersion) (hid : P .randomId)
    (hlock : P .lock) (hunlock : P .unlock) (hsave : ∀ version, P (.saveAppVersion version)) :
    Only P (persistInspectedVersion app inspected) := by
  refine only_bind (only_await hid) fun versionId => only_guarded ?_ (only_bind (only_settle (only_look hlooks rfl)) fun _ => only_pure _)
  refine only_bind (only_look hlooks rfl) fun _ => only_bind (only_checkCopies hlooks _ _) fun _ =>
    only_bind (only_assertVersionIsNew hlooks _ _) fun _ => only_bind (only_look hlooks rfl) fun _ =>
      only_bind (only_look hlooks rfl) fun _ => only_withActivationLock hlock hunlock ?_
  refine only_bind (only_look hlooks rfl) fun _ => only_bind (only_required _ _) fun _ => only_bind (only_throwIf _ _) fun _ =>
    only_bind (only_assertVersionIsNew hlooks _ _) fun _ => only_bind (only_look hlooks rfl) fun _ => only_guarded ?_ ?_
  · exact only_bind (only_await (hsave _)) fun _ => only_required _ _
  · exact only_bind (only_settle (only_look hlooks rfl)) fun _ => only_pure _

theorem only_uploadInspectedVersion (appId : String) (input : InspectedAppVersion) (hid : P .randomId)
    (hlock : P .lock) (hunlock : P .unlock) (hsave : ∀ version, P (.saveAppVersion version)) :
    Only P (uploadInspectedVersion appId input) :=
  only_bind (only_activeApp hlooks _) fun _ => only_persistInspectedVersion hlooks _ _ hid hlock hunlock hsave

theorem only_createRevision (appId : String) (packages : List ImageBuildPackage) (hid : P .randomId)
    (hlock : P .lock) (hunlock : P .unlock) (hsave : ∀ version, P (.saveAppVersion version)) :
    Only P (createRevision appId packages) :=
  only_bind (only_activeApp hlooks _) fun _ => only_bind (only_await hid) fun _ =>
    only_persistInspectedVersion hlooks _ _ hid hlock hunlock hsave

theorem only_attachImage (runtimeContractForApp : String → AppVersion → Option String) (appId versionId imageReference : String)
    (hlock : P .lock) (hunlock : P .unlock) (hsave : ∀ version, P (.saveAppVersion version)) :
    Only P (attachImage runtimeContractForApp appId versionId imageReference) :=
  only_withActivationLock hlock hunlock <|
    only_bind (only_fromExcept _) fun _ => only_bind (only_fromExcept _) fun _ => only_bind (only_look hlooks rfl) fun _ =>
      only_bind (only_required _ _) fun _ => only_bind (only_throwIf _ _) fun _ => only_bind (only_look hlooks rfl) fun _ =>
        only_bind (only_required _ _) fun _ => only_bind (only_throwIf _ _) fun _ => only_bind (only_throwIf _ _) fun _ =>
          only_bind (only_throwIf _ _) fun _ => only_bind (only_fromExcept _) fun _ =>
            only_bind (only_assertImageAvailable hlooks _ _) fun _ => only_bind (only_await (hsave _)) fun _ => only_required _ _

theorem only_importImage (runtimeContractForApp : String → AppVersion → Option String) (appId imageReference : String)
    (hid : P .randomId) (hlock : P .lock) (hunlock : P .unlock) (hsave : ∀ version, P (.saveAppVersion version)) :
    Only P (importImage runtimeContractForApp appId imageReference) := by
  refine only_bind (only_fromExcept _) fun _ => only_bind (only_look hlooks rfl) fun _ => only_bind (only_required _ _) fun _ =>
    only_bind (only_await hid) fun _ => only_bind (only_look hlooks rfl) fun _ => only_bind (only_required _ _) fun _ =>
      only_bind (only_fromExcept _) fun _ => only_bind (only_fromExcept _) fun _ =>
        only_bind (only_assertImageAvailable hlooks _ _) fun _ => only_bind (only_throwIf _ _) fun _ =>
          only_bind (only_look hlooks rfl) fun _ => only_withActivationLock hlock hunlock ?_
  exact only_bind (only_look hlooks rfl) fun _ => only_bind (only_required _ _) fun _ => only_bind (only_look hlooks rfl) fun _ =>
    only_bind (only_await (hsave _)) fun _ => only_required _ _

omit hlooks in
theorem only_checkExpected (expectedRevision : Option Int) (current : Option AppVersion) :
    Only P (checkExpected expectedRevision current) := by
  cases expectedRevision with
  | none => exact only_pure _
  | some expected => exact only_bind (only_throwIf _ _) fun _ => only_throwIf _ _

theorem only_activateVersion (appId versionId : String) (expectedRevision : Option Int) (hlock : P .lock) (hunlock : P .unlock)
    (hactivate : ∀ appId versionId expected, P (.activateAppVersion appId versionId expected)) :
    Only P (activateVersion appId versionId expectedRevision) := by
  refine only_withActivationLock hlock hunlock ?_
  refine only_bind (only_fromExcept _) fun _ => only_bind (only_look hlooks rfl) fun _ => only_bind (only_required _ _) fun _ =>
    only_bind (only_look hlooks rfl) fun _ => only_bind (only_required _ _) fun version => only_bind (only_throwIf _ _) fun _ =>
      only_bind (only_throwIf _ _) fun _ => only_bind (only_required _ _) fun _ => only_bind (only_throwIf _ _) fun _ =>
        only_bind (only_validateStoredArtifacts hlooks _) fun _ => only_bind (only_assertImageAvailable hlooks _ _) fun _ =>
          only_bind (only_look hlooks rfl) fun _ => only_bind (only_checkExpected _ _) fun _ => ?_
  dsimp only
  split
  · exact only_bind (only_look hlooks rfl) fun _ => only_bind (only_await (hactivate _ _ _)) fun _ => only_required _ _
  · exact only_bind (only_await (hactivate _ _ _)) fun _ => only_required _ _

theorem only_createBuild (input : CreateImageBuildInput) (hid : P .randomId) (hcreate : ∀ build, P (.createBuild build)) :
    Only P (createBuild input) := by
  refine only_bind (only_checkPackageReferences hlooks _ _) fun _ => ?_
  dsimp only
  split
  · refine only_bind (only_look hlooks rfl) fun _ => only_bind (only_required _ _) fun _ => ?_
    exact only_bind (only_await hid) fun _ => only_bind (only_await (hcreate _)) fun _ => only_required _ _
  · exact only_bind (only_await hid) fun _ => only_bind (only_await (hcreate _)) fun _ => only_required _ _

theorem only_startBuild (id : String) (hupdate : ∀ build expected, P (.updateBuild build expected)) : Only P (startBuild id) :=
  only_bind (only_requireBuild hlooks id) fun _ => only_bind (only_throwIf _ _) fun _ =>
    only_bind (only_await (hupdate _ _)) fun _ => only_required _ _

theorem only_finishBuild (id : String) (status : ImageBuildStatus) (hupdate : ∀ build expected, P (.updateBuild build expected)) :
    Only P (finishBuild id status) :=
  only_bind (only_requireBuild hlooks id) fun _ => only_bind (only_throwIf _ _) fun _ =>
    only_bind (only_await (hupdate _ _)) fun _ => only_required _ _

theorem only_completeBuild (id : String) (output : String × String) (hid : P .randomId)
    (hcomplete : ∀ build artifact expected, P (.completeBuild build artifact expected)) : Only P (completeBuild id output) :=
  only_bind (only_requireBuild hlooks id) fun _ => only_bind (only_throwIf _ _) fun _ => only_bind (only_throwIf _ _) fun _ =>
    only_bind (only_throwIf _ _) fun _ => only_bind (only_look hlooks rfl) fun _ => only_bind (only_await hid) fun _ =>
      only_bind (only_await (hcomplete _ _ _)) fun _ => only_required _ _

theorem only_executeBuild (id : String) (hid : P .randomId) (hupdate : ∀ build expected, P (.updateBuild build expected))
    (hcomplete : ∀ build artifact expected, P (.completeBuild build artifact expected)) : Only P (executeBuild id) := by
  refine only_bind (only_startBuild hlooks id hupdate) fun build => only_guarded ?_ ?_
  · have hrest : Only P (do
        let output ← ask (.buildImage build)
        let completed ← completeBuild id output
        pure completed.1) :=
      only_bind (only_look hlooks rfl) fun _ => only_bind (only_completeBuild hlooks id _ hid hcomplete) fun _ => only_pure _
    dsimp only
    split
    · exact only_bind (only_look hlooks rfl) fun _ => only_bind (only_required _ _) fun _ => only_bind (only_throwIf _ _) fun _ =>
        hrest
    · exact hrest
  · exact only_bind (only_settle (only_finishBuild hlooks id .failed hupdate)) fun _ => only_pure _

theorem only_bindRelease (appId versionId artifactId : String)
    (hbind : ∀ appId versionId artifactId, P (.bindRelease appId versionId artifactId)) :
    Only P (bindRelease appId versionId artifactId) :=
  only_bind (only_look hlooks rfl) fun _ => only_bind (only_required _ _) fun _ => only_bind (only_throwIf _ _) fun _ =>
    only_bind (only_look hlooks rfl) fun _ => only_bind (only_required _ _) fun _ => only_bind (only_throwIf _ _) fun _ =>
      only_bind (only_look hlooks rfl) fun _ => only_bind (only_required _ _) fun _ => only_bind (only_throwIf _ _) fun _ =>
        only_bind (only_look hlooks rfl) fun _ => only_bind (only_required _ _) fun _ => only_bind (only_throwIf _ _) fun _ =>
          only_bind (only_await (hbind _ _ _)) fun _ => only_required _ _

theorem only_deleteBuildPackageWith (id : String) (skipInitialPreview : Bool)
    (hdelete : ∀ id, P (.deleteBuildPackageIfUnreferenced id)) : Only P (deleteBuildPackageWith id skipInitialPreview) := by
  refine only_bind (only_fromExcept _) fun _ => only_bind (only_look hlooks rfl) fun _ => only_bind (only_required _ _) fun _ => ?_
  dsimp only
  split
  · exact only_bind (only_await (hdelete _)) fun _ => only_bind (only_required _ _) fun _ =>
      only_bind (only_settle (only_look hlooks rfl)) fun _ => only_pure _
  · refine only_bind (only_preview hlooks _) fun _ => only_bind (only_throwIf _ _) fun _ => ?_
    exact only_bind (only_await (hdelete _)) fun _ => only_bind (only_required _ _) fun _ =>
      only_bind (only_settle (only_look hlooks rfl)) fun _ => only_pure _

theorem only_deleteImageArtifactWith (id : String) (skipInitialPreview : Bool)
    (hdelete : ∀ id, P (.deleteImageArtifactIfUnreferenced id)) : Only P (deleteImageArtifactWith id skipInitialPreview) := by
  refine only_bind (only_fromExcept _) fun _ => only_bind (only_look hlooks rfl) fun _ => only_bind (only_required _ _) fun _ => ?_
  dsimp only
  split
  · exact only_bind (only_await (hdelete _)) fun _ => only_bind (only_required _ _) fun _ =>
      only_bind (only_settle (only_look hlooks rfl)) fun _ => only_pure _
  · refine only_bind (only_preview hlooks _) fun _ => only_bind (only_throwIf _ _) fun _ => ?_
    exact only_bind (only_await (hdelete _)) fun _ => only_bind (only_required _ _) fun _ =>
      only_bind (only_settle (only_look hlooks rfl)) fun _ => only_pure _

theorem only_provision (container : Container) (hsave : ∀ container, P (.saveContainer container)) : Only P (provision container) :=
  only_bind (only_launchTarget hlooks _) fun _ => only_await (hsave _)

theorem only_rebuildLatest (id : String) (hsave : ∀ container, P (.saveContainer container)) : Only P (rebuildLatest id) :=
  only_bind (only_look hlooks rfl) fun _ => only_bind (only_required _ _) fun _ => only_bind (only_launchTarget hlooks _) fun _ =>
    only_await (hsave _)

theorem only_createRollout (useLatestVersion : Bool) (template : Rollout.UpgradeRolloutItem) (instanceIds : List String)
    (hcreate : ∀ items, P (.createRolloutItems items)) : Only P (createRollout useLatestVersion template instanceIds) :=
  only_bind (only_each (fun _ => only_bind (only_look hlooks rfl) fun _ => only_required _ _) _) fun _ =>
    only_bind (only_each (fun _ => only_map _ (only_resolveTarget hlooks _ _)) _) fun _ => only_await (hcreate _)

theorem only_progressItem (rolloutId instanceId : String) (status : Rollout.UpgradeRolloutItemStatus)
    (hupdate : ∀ item next, P (.updateRolloutItem item next)) : Only P (progressItem rolloutId instanceId status) :=
  only_bind (only_look hlooks rfl) fun _ => only_bind (only_required _ _) fun _ => only_bind (only_await (hupdate _ _)) fun _ =>
    only_pure _

theorem only_deployItem (rolloutId instanceId : String) (hsave : ∀ container, P (.saveContainer container))
    (hupdate : ∀ item next, P (.updateRolloutItem item next)) : Only P (deployItem rolloutId instanceId) :=
  only_bind (only_look hlooks rfl) fun _ => only_bind (only_required _ _) fun _ => only_bind (only_look hlooks rfl) fun _ =>
    only_bind (only_required _ _) fun _ => only_bind (only_await (hsave _)) fun _ => only_bind (only_await (hupdate _ _)) fun _ =>
      only_pure _

end Programs

end Kinds

end OpenApp.Catalog
