import OpenApp.Docker.Dismantling

/-!
# Which commands the two halves of a removal may give

The first half gives none that stops, removes or disconnects anything. The second half removes no volume and
remembers the name of nothing but a volume.
-/

namespace OpenApp.Docker.Environment

open Async Async.Prog Script

/-- To look is always allowed. -/
structure AllowsLooks (K : RuntimeOp → Prop) : Prop where
  inspectContainer : ∀ name, K (.inspectContainer name)
  inspectResource : ∀ kind name, K (.inspectResource kind name)
  list : ∀ kind labelPrefix, K (.list kind labelPrefix)
  aborted : K .aborted
  ref : ∀ key, K (.ref key)

variable {config : RuntimeConfig} {instanceId : String} {K : RuntimeOp → Prop}

theorem only_allowing (texts : List String) (failure : RuntimeFailure) : Only K (allowing texts failure) := by
  unfold allowing
  split
  · exact only_throwIf _ _
  · exact only_throw _

theorem only_onlyIf {c : Prop} [Decidable c] {task : Task Unit} (h : Only K task) : Only K (onlyIf c task) := by
  unfold onlyIf
  split
  · exact h
  · exact only_pure ()

theorem only_settle {α : Type} {task : Task α} (h : Only K task) : Only K (settle task) :=
  only_tryCatch (only_bind h fun _ => only_pure _) fun _ => only_pure _

section Looks

variable (hK : AllowsLooks K)
include hK

theorem only_throwIfAborted : Only K throwIfAborted := by
  refine only_bind (only_await hK.aborted) fun reason => ?_
  cases reason with
  | some reason => exact only_throw _
  | none => exact only_pure ()

/-- A command, with the failures it tolerates. -/
theorem only_tolerating {task : Task Unit} (texts : List String) (h : Only K task) :
    Only K (tryCatch task fun failure => do
      throwIfAborted
      allowing texts failure) :=
  only_tryCatch h fun failure => only_bind (only_throwIfAborted hK) fun _ => only_allowing texts failure

theorem only_inspectContainerByName (name : String) : Only K (inspectContainerByName config instanceId name) := by
  refine only_tryCatch ?_ fun failure => ?_
  · refine only_bind (only_await (hK.inspectContainer name)) fun inspect => ?_
    exact only_bind (only_fromExcept _) fun found => only_pure _
  · exact only_bind (only_throwIfAborted hK) fun _ => only_bind (only_allowing _ failure) fun _ => only_pure _

theorem only_containerName : Only K (containerName config instanceId) :=
  only_bind (only_await (hK.ref _)) fun _ => only_pure _

theorem only_listManagedResourceNames (kind : ManagedResourceKind) (labelPrefixes : List String) :
    Only K (listManagedResourceNames kind labelPrefixes) := by
  induction labelPrefixes with
  | nil => exact only_pure _
  | cons labelPrefix labelPrefixes ih =>
    refine only_bind (only_settle (only_await (hK.list kind labelPrefix))) fun r => ?_
    rcases r with failure | listed
    · cases failure with
      | docker error =>
        dsimp only
        split
        · exact ih
        · exact only_throw _
      | _ => exact ih
    · dsimp only
      split
      · exact ih
      · exact only_pure _

theorem only_searchContainers (leftOut : String → Bool) (names : List String) (found : Option (String × FoundContainer)) :
    Only K (searchContainers config instanceId leftOut names found) := by
  induction names generalizing found with
  | nil => exact only_pure _
  | cons name names ih =>
    unfold searchContainers
    split
    · exact ih found
    · refine only_bind (only_inspectContainerByName hK name) fun told => ?_
      cases told with
      | none => exact ih found
      | some container =>
        cases found with
        | some entry => exact only_throw _
        | none => exact ih _

theorem only_inspectContainer (hremember : ∀ name, K (.remember .container name))
    (hforget : ∀ name, K (.forget .container name)) : Only K (inspectContainer config instanceId) := by
  refine only_bind (only_containerName hK) fun requestedName => ?_
  refine only_bind (only_inspectContainerByName hK _) fun current => ?_
  cases current with
  | some current => exact only_bind (only_await (hremember _)) fun _ => only_pure _
  | none =>
    refine only_bind (only_searchContainers hK _ _ _) fun found => ?_
    refine only_bind ?_ fun found => ?_
    · unfold discoverContainers
      split
      · exact only_bind (only_listManagedResourceNames hK _ _) fun _ => only_searchContainers hK _ _ _
      · exact only_pure _
    · cases found with
      | some entry => exact only_bind (only_await (hremember _)) fun _ => only_pure _
      | none => exact only_bind (only_await (hforget _)) fun _ => only_pure _

theorem only_inspectSides (base : String) : Only K (inspectSides config instanceId base) :=
  only_bind (only_inspectContainerByName hK _) fun _ => only_bind (only_inspectContainerByName hK _) fun _ =>
    only_bind (only_inspectContainerByName hK _) fun _ => only_pure _

theorem only_searchSides (bases : List String) (found : Option String × SideArtifacts) :
    Only K (searchSides config instanceId bases found) := by
  induction bases generalizing found with
  | nil => exact only_pure _
  | cons base bases ih =>
    refine only_bind (only_inspectSides hK base) fun artifacts => ?_
    split
    · exact ih found
    · exact only_bind (only_throwIf _ _) fun _ => ih _

theorem only_discoverSides (found : Option String × SideArtifacts) : Only K (discoverSides config instanceId found) := by
  unfold discoverSides
  split
  · refine only_bind (only_listManagedResourceNames hK _ _) fun names => only_bind (only_throwIf _ _) fun _ => ?_
    split
    · exact only_pure _
    · exact only_bind (only_inspectSides hK _) fun _ => only_pure _
  · exact only_pure _

theorem only_inspectRebuildArtifacts (hremember : ∀ name, K (.remember .container name))
    (hforget : ∀ name, K (.forget .container name)) : Only K (inspectRebuildArtifacts config instanceId) := by
  refine only_bind (only_inspectContainer hK hremember hforget) fun discoveredCanonical => ?_
  refine only_bind (only_containerName hK) fun requestedName => ?_
  refine only_bind (only_searchSides hK _ _) fun found => only_bind (only_discoverSides hK found) fun found => ?_
  refine only_bind ?_ fun canonical => only_pure _
  unfold canonicalOr
  split
  · exact only_pure _
  · exact only_inspectContainerByName hK _

theorem only_inspectManagedResourceByName (kind : ManagedResourceKind) (name : String) :
    Only K (inspectManagedResourceByName kind name) := by
  refine only_bind (only_settle (only_await (hK.inspectResource kind name))) fun r => ?_
  rcases r with failure | resource
  · exact only_bind (only_throwIfAborted hK) fun _ => only_bind (only_allowing _ failure) fun _ => only_pure _
  · exact only_pure _

theorem only_inspectCandidates (kind : ManagedResourceKind) (leftOut : ManagedResourceCandidate → Bool) (names : List String) :
    Only K (inspectCandidates kind leftOut names) := by
  induction names with
  | nil => exact only_pure _
  | cons name names ih =>
    exact only_bind (only_inspectManagedResourceByName hK kind name) fun _ => only_bind ih fun _ => only_pure _

theorem only_inspectManagedResource (query : ResourceQuery) (hremember : ∀ name, K (.remember query.refKey name)) :
    Only K (inspectManagedResource config instanceId query) := by
  have hselect : ∀ candidates, Only K (some <$> selectAndRememberResource config instanceId query candidates) := by
    refine fun candidates => only_bind (only_bind (only_fromExcept _) fun selected => ?_) fun _ => only_pure _
    exact only_bind (only_await (hremember _)) fun _ => only_pure _
  refine only_bind (only_inspectManagedResourceByName hK _ _) fun exact => ?_
  cases exact with
  | some exact => exact hselect [exact]
  | none =>
    refine only_bind ?_ fun candidates => ?_
    · refine only_bind (only_inspectCandidates hK _ _ _) fun candidates => ?_
      split
      · exact only_bind (only_listManagedResourceNames hK _ _) fun _ => only_inspectCandidates hK _ _ _
      · exact only_pure _
    · split
      · exact only_pure _
      · exact hselect candidates

theorem only_resolveEnvironment (hremember : ∀ key name, K (.remember key name))
    (hforget : ∀ name, K (.forget .container name)) (request : RemoveContainerEnvironmentRequest) (binding : StorageBinding) :
    Only K (resolveEnvironment config instanceId request binding) := by
  have hname : ∀ role, Only K (networkName config instanceId role) :=
    fun role => only_bind (only_await (hK.ref _)) fun _ => only_pure _
  have hresource : ∀ query, Only K (inspectManagedResource config instanceId query) :=
    fun query => only_inspectManagedResource hK query (hremember _)
  refine only_bind (only_inspectRebuildArtifacts hK (hremember _) hforget) fun found => ?_
  refine only_bind (only_fromExcept _) fun _ => only_bind (hresource _) fun volume => ?_
  refine only_bind (hname _) fun privateName => only_bind (hresource _) fun network => ?_
  exact only_bind (hname _) fun egressName => only_bind (hresource _) fun egressNetwork => only_pure _

end Looks

/-! ## The two halves -/

def Harmless (o : RuntimeOp) : Prop := o.isDestructive = false

theorem allowsLooks_harmless : AllowsLooks Harmless :=
  ⟨fun _ => rfl, fun _ _ => rfl, fun _ _ => rfl, rfl, fun _ => rfl⟩

theorem allowsLooks_spares : AllowsLooks RuntimeOp.Spares :=
  ⟨fun _ => trivial, fun _ _ => trivial, fun _ _ => trivial, trivial, fun _ => trivial⟩

theorem harmless_resolveEnvironment (request : RemoveContainerEnvironmentRequest) (binding : StorageBinding) :
    Only Harmless (resolveEnvironment config instanceId request binding) :=
  only_resolveEnvironment allowsLooks_harmless (fun _ _ => rfl) (fun _ => rfl) request binding

theorem spares_recoverStateLocks (ownerId : String) (ids : List DockerContainerId) (recoveryId : String)
    (binding : StorageBinding) (hostnames : List String) :
    Only RuntimeOp.Spares (recoverStateLocks config instanceId ownerId ids recoveryId binding hostnames) := by
  unfold recoverStateLocks
  dsimp only
  split
  · exact only_pure ()
  refine only_bind (only_fromExcept _) fun hosts => ?_
  split
  · exact only_pure ()
  refine only_bind (only_fromExcept _) fun recoveryId => ?_
  refine only_bind (only_inspectManagedResource allowsLooks_spares _ fun _ => rfl) fun volume => ?_
  cases volume with
  | none => exact only_throw _
  | some volume =>
    refine only_bind (only_settle (only_await trivial)) fun r => ?_
    rcases r with failure | _
    · exact only_bind (only_throwIfAborted allowsLooks_spares) fun _ => only_throw _
    · exact only_pure ()

theorem spares_removeNetwork (network : Option ManagedResourceRef) (withPortal : Bool) :
    Only RuntimeOp.Spares (removeNetwork config network withPortal) := by
  cases network with
  | none => exact only_pure ()
  | some network =>
    refine only_bind (only_onlyIf ?_) fun _ => ?_
    · unfold disconnectPortal
      split
      · exact only_throw _
      · exact only_tryCatch (only_await trivial) fun failure => only_allowing _ failure
    · refine only_bind (only_tolerating allowsLooks_spares _ (only_await ?_)) fun _ => only_await trivial
      exact nofun

theorem spares_dismantle (request : RemoveContainerEnvironmentRequest) (binding : StorageBinding) (recoveryId : String)
    (environment : ResolvedEnvironment) :
    Only RuntimeOp.Spares (dismantle config instanceId request binding recoveryId environment) := by
  refine only_bind (only_each (fun existing => ?_) _) fun _ => ?_
  · exact only_tolerating allowsLooks_spares _ (only_await trivial)
  refine only_bind (only_onlyIf (spares_recoverStateLocks _ _ _ _ _)) fun _ => ?_
  refine only_bind (only_each (fun existing => ?_) _) fun _ => ?_
  · refine only_bind (only_tolerating allowsLooks_spares _ (only_await trivial)) fun _ => only_await trivial
  exact only_bind (spares_removeNetwork _ _) fun _ => spares_removeNetwork _ _

end OpenApp.Docker.Environment
