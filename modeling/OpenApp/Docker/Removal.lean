import OpenApp.Docker.Resolving

/-!
# Removals that are cut short and made again

A removal may end, or the process may stop in the midst of it and forget the names it remembered; then there may be
further removals of the same environment. None of them takes anything away unless all of it is the owner's, none
removes the volume, and one that succeeds leaves neither containers nor networks.
-/

namespace OpenApp.Docker.Environment

open Async Async.Prog Script
open ContainerLabels (requireIdentifier)

variable {config : RuntimeConfig} {instanceId : String} {w w' : World}

def World.binding (w : World) (config : RuntimeConfig) (request : RemoveContainerEnvironmentRequest) : Option StorageBinding :=
  requestedBinding config request.instanceId request.storageBindings (w.volumeName config request.instanceId)

def HasContainer (config : RuntimeConfig) (instanceId : String) (w : World) : Prop :=
  ∃ slot, (w.container (slotName (configuredName config instanceId) slot)).isSome = true

/-- Where the volume passes the check of the removal, it passes that of the recovery of the locks. -/
def RecoveryAgrees (config : RuntimeConfig) (request : RemoveContainerEnvironmentRequest) (w : World) : Prop :=
  ∀ binding ∈ w.binding config request, config.recoveryCommand.isSome = true → HasContainer config request.instanceId w →
    (w.selection config request.instanceId (removalQuery request binding)).isOk = true →
      (w.selection config request.instanceId (recoveryQuery config request.instanceId request.ownerId binding)).isOk = true

/-- Nothing that a removal is about is left. -/
structure Gone (config : RuntimeConfig) (request : RemoveContainerEnvironmentRequest) (w w' : World) : Prop where
  containers : ∀ slot, w'.container (slotName (configuredName config request.instanceId) slot) = none
  networks : ∀ role, w'.resource .network (configuredNetworkName config request.instanceId role) = none
  /-- a network that was selected under another name is gone as well -/
  selected : ∀ role ref, w.selection config request.instanceId (w.roleQuery config request.instanceId request.ownerId role) = .ok ref →
    w'.resource .network ref.name = none

/-- What was taken away so far is the owner's. -/
structure Authorized (config : RuntimeConfig) (request : RemoveContainerEnvironmentRequest) (w w' : World) : Prop
    extends Lessened w w' where
  checked : (∃ issued, w'.commands = issued ++ w.commands ∧ ∃ o ∈ issued, o.isDestructive = true) →
    ∃ binding, w.binding config request = some binding ∧ ChecksPass config request binding w

theorem Looked.authorized {request : RemoveContainerEnvironmentRequest} (h : Looked w w') : Authorized config request w w' := by
  refine ⟨h.lessened, ?_⟩
  rintro ⟨issued, hissued, o, ho, hdestructive⟩
  obtain ⟨issued', hissued', hnot⟩ := h.commands
  obtain rfl := List.append_cancel_right (hissued.symm.trans hissued')
  rw [hnot o ho] at hdestructive
  cases hdestructive

/-- How the second half of a removal is told from the first: nothing is taken away where the ownership of something
is what fails. -/
def EndsWell (config : RuntimeConfig) (request : RemoveContainerEnvironmentRequest) (w : World) :
    Except RuntimeFailure Unit → World → Prop
  | .ok _, w' => Gone config request w w'
  | .error failure, w' => failure.IsOwnership → Looked w w'

/-- What holds of a removal throughout, and where it ends. -/
structure Removes (config : RuntimeConfig) (request : RemoveContainerEnvironmentRequest) (task : Task Unit) (w w' : World) :
    Prop where
  always : throughout (perform request.instanceId) Honest (Authorized config request w) task w'
  atEnd : ends (perform request.instanceId) Honest task (fun r w'' =>
    EndsWell config request w r w'' ∧ Remembers config request.instanceId w'') w'

section Removes

variable {request : RemoveContainerEnvironmentRequest} {α : Type}

theorem endsWell_plain {failure : RuntimeFailure} (h : ¬ failure.IsOwnership) : EndsWell config request w (.error failure) w' :=
  fun howner => absurd howner h

theorem Remembers.glanced (h : Remembers config instanceId w) (hglanced : Glanced w w') : Remembers config instanceId w' :=
  h.of_lessened hglanced.toLooked.lessened fun key _ name hname => by rwa [hglanced.refs] at hname

theorem perform_harmless {o : RuntimeOp} {x : RuntimeChoice} {r : Except RuntimeFailure o.Answer × World} (ho : Harmless o)
    (h : perform instanceId w o x = some r) : Looked w r.2 := by
  have hgiven : Looked w (w.given o) := (glanced_given ho).toLooked
  cases x with
  | go =>
    obtain ⟨⟨answer, w''⟩, hcarry, rfl⟩ := Option.map_eq_some_iff.1 h
    refine hgiven.trans ?_
    cases o with
    | stop | rm | disconnect | resourceRm => cases ho
    | inspectContainer name | inspectResource kind name =>
      obtain ⟨_, -, heq⟩ := Option.map_eq_some_iff.1 hcarry
      obtain rfl := (Prod.mk.inj heq).2
      exact .refl _
    | remember key name =>
      obtain rfl := (Prod.mk.inj (Option.some.inj hcarry)).2
      exact looked_withRef key name
    | forget kind name =>
      obtain rfl := (Prod.mk.inj (Option.some.inj hcarry)).2
      exact looked_withoutRefs kind name
    | list | run | aborted | ref =>
      obtain rfl := (Prod.mk.inj (Option.some.inj hcarry)).2
      exact .refl _
  | fails error =>
    rw [perform] at h
    split at h
    · obtain rfl := Option.some.inj h
      exact hgiven
    · cases h
  | aborted reason =>
    have heq : r.2 = w := by
      cases o <;> first
        | (obtain rfl := Option.some.inj h; rfl)
        | cases h
    rw [heq]
    exact .refl w

theorem throughout_harmless {task : Task α} (h : Only Harmless task) (hlooked : Looked w w') :
    throughout (perform instanceId) Honest (Looked w) task w' :=
  throughout_of_only h (fun _ _ _ _ ho hw hr => hw.trans (perform_harmless ho hr)) hlooked

/-- A harmless step, and what follows it. -/
theorem removes_then {task : Task α} {rest : α → Task Unit} (hlooked : Looked w w') (honly : Only Harmless task)
    (h : ends (perform request.instanceId) Honest task (fun r w'' => Looked w' w'' → match r with
      | .ok a => Removes config request (rest a) w w''
      | .error _ => Remembers config request.instanceId w'') w') : Removes config request (task >>= rest) w w' := by
  have hthroughout : throughout (perform request.instanceId) Honest (Looked w') task w' := throughout_harmless honly (.refl w')
  have hends := ends_and h (ends_of_throughout hthroughout)
  refine ⟨?_, ends_then hends (fun failure w'' hr => ⟨fun _ => hlooked.trans hr.2, hr.1 hr.2⟩) fun a w'' hr => (hr.1 hr.2).atEnd⟩
  refine throughout_bind (throughout_mono hthroughout fun w'' h => (hlooked.trans h).authorized) ?_
  refine ends_mono hends ?_
  rintro r w'' hr a rfl
  exact (hr.1 hr.2).always

/-- A check that has nothing to do with ownership. -/
theorem removes_check {x : Except RuntimeFailure α} {rest : α → Task Unit} (hremembers : Remembers config request.instanceId w)
    (hrest : ∀ a, x = .ok a → Removes config request (rest a) w w) : Removes config request (fromExcept x >>= rest) w w := by
  cases x with
  | ok a => exact hrest a rfl
  | error failure =>
    exact ⟨(Looked.refl w).authorized, fun _ => .refl w, hremembers⟩

theorem tells_workspaceStorageBinding {bindings : Option (List StorageBinding)} :
    Tells instanceId w (workspaceStorageBinding config instanceId bindings) fun
      | .ok binding => requestedBinding config instanceId bindings (w.volumeName config instanceId) = some binding
      | .error _ => True := by
  refine tells_bind (A := (· = .ok (w.volumeName config instanceId))) (tells_bind tells_ref nofun fun name h => ?_)
    (fun _ _ => trivial) fun attachmentRef hname => ?_
  · obtain rfl := Except.ok.inj h
    exact tells_pure rfl
  obtain rfl := Except.ok.inj hname
  have hcheck : ∀ {c : Prop} [Decidable c] {e : RuntimeFailure}, Tells instanceId w (throwIf c e) fun _ => True :=
    tells_throwIf (fun _ => trivial) fun _ => trivial
  split
  · exact tells_throw trivial
  · next binding hbinding =>
    refine tells_bind hcheck (fun _ _ => trivial) fun _ _ => tells_bind hcheck (fun _ _ => trivial) fun _ _ => ?_
    exact tells_bind hcheck (fun _ _ => trivial) fun _ _ => tells_pure hbinding

theorem harmless_workspaceStorageBinding (bindings : Option (List StorageBinding)) :
    Only Harmless (workspaceStorageBinding config instanceId bindings) := by
  refine only_bind (only_bind (only_await rfl) fun _ => only_pure _) fun attachmentRef => ?_
  split
  · exact only_throw _
  · exact only_bind (only_throwIf _ _) fun _ => only_bind (only_throwIf _ _) fun _ =>
      only_bind (only_throwIf _ _) fun _ => only_pure _

/-- What is there of an instance when its containers, and the networks that were selected, are gone. -/
theorem gone_of_dismantled {binding : StorageBinding} {environment : ResolvedEnvironment} {w₁ w₂ : World}
    (hremembers : Remembers config request.instanceId w) (hresolved : Resolved config request binding w environment)
    (hlooked : Looked w w₁) (hlessened : Lessened w₁ w₂)
    (hcontainers : ∀ existing ∈ environment.existingContainers, w₂.container existing.1 = none)
    (hnetwork : ∀ ref ∈ environment.network, w₂.resource .network ref.name = none)
    (hegress : ∀ ref ∈ environment.egressNetwork, w₂.resource .network ref.name = none) : Gone config request w w₂ := by
  have hrole : ∀ role, ∃ found,
      Selected config request.instanceId w (w.roleQuery config request.instanceId request.ownerId role) (.ok found) ∧
        ∀ ref ∈ found, w₂.resource .network ref.name = none
    | .private => ⟨environment.network, hresolved.network, hnetwork⟩
    | .egress => ⟨environment.egressNetwork, hresolved.egressNetwork, hegress⟩
  refine ⟨fun slot => ?_, fun role => ?_, fun role ref href => ?_⟩
  · have htold := hresolved.slotted.2 slot
    cases hfound : environment.found.artifacts slot with
    | none =>
      rw [hfound] at htold
      exact (hlooked.lessened.trans hlessened).containers _ htold
    | some container =>
      have hmem : (slotName (configuredName config request.instanceId) slot, container) ∈ environment.existingContainers := by
        refine List.mem_filterMap.2 ⟨slot, by cases slot <;> decide, ?_⟩
        rw [hfound, hresolved.slotted.1, Option.map_some]
      exact hcontainers _ hmem
  · obtain ⟨found, hselected, hgone⟩ := hrole role
    by_contra hthere
    have hbefore : w.resource .network (configuredNetworkName config request.instanceId role) ≠ none :=
      fun hnone => hthere ((hlooked.lessened.trans hlessened).resources .network _ hnone)
    obtain ⟨ref, rfl, hname⟩ := selected_configured hremembers hselected hbefore
    exact hthere (hname ▸ hgone ref rfl)
  · obtain ⟨found, hselected, hgone⟩ := hrole role
    cases found with
    | none =>
      -- nothing is selected of no candidates
      rw [World.selection, show w.candidates _ _ _ = [] from hselected] at href
      cases href
    | some ref' =>
      obtain rfl := Except.ok.inj (href.symm.trans hselected)
      exact hgone ref rfl

theorem Resolved.hasContainer {binding : StorageBinding} {environment : ResolvedEnvironment}
    (h : Resolved config request binding w environment) (hexisting : environment.existingContainers.isEmpty = false) :
    HasContainer config request.instanceId w := by
  obtain ⟨existing, hmem⟩ := List.isEmpty_eq_false_iff_exists_mem.1 hexisting
  obtain ⟨slot, -, hslot⟩ := List.mem_filterMap.1 hmem
  obtain ⟨container, hcontainer, -⟩ := Option.map_eq_some_iff.1 hslot
  have htold := h.slotted.2 slot
  rw [hcontainer] at htold
  exact ⟨slot, FoundAt.isSome htold⟩

/-- What is resolved in a world that only looked different was so from the beginning. -/
theorem Resolved.of_glanced {binding : StorageBinding} {environment : ResolvedEnvironment}
    (h : Resolved config request binding w' environment) (hglanced : Glanced w w') :
    Resolved config request binding w environment := by
  have hlooked := hglanced.toLooked
  have hrole : ∀ role found,
      Selected config request.instanceId w' (w'.roleQuery config request.instanceId request.ownerId role) (.ok found) →
        Selected config request.instanceId w (w.roleQuery config request.instanceId request.ownerId role) (.ok found) := by
    intro role found hselected
    rw [roleQuery_eq (congrFun hglanced.refs (.network role))] at hselected
    exact hlooked.selected.1 hselected
  refine ⟨⟨h.slotted.1, fun slot => hlooked.toldContainer.1 (h.slotted.2 slot)⟩, h.owned, hlooked.selected.1 h.volume,
    hrole .private _ h.network, hrole .egress _ h.egressNetwork⟩

theorem removes_dismantle {binding : StorageBinding} {environment : ResolvedEnvironment} {recoveryId : String} {w₁ : World}
    (hbinding : w.binding config request = some binding) (hagrees : RecoveryAgrees config request w)
    (hremembers : Remembers config request.instanceId w) (hresolved : Resolved config request binding w environment)
    (hlooked : Looked w w₁) (hremembers₁ : Remembers config request.instanceId w₁) :
    Removes config request (dismantle config request.instanceId request binding recoveryId environment) w w₁ := by
  have honly : Only RuntimeOp.Spares (dismantle config request.instanceId request binding recoveryId environment) :=
    spares_dismantle request binding recoveryId environment
  have hstep : ∀ (w' : World) (o : RuntimeOp) (x : RuntimeChoice) (r : Except RuntimeFailure o.Answer × World), o.Spares →
      Lessened w w' ∧ Remembers config request.instanceId w' → perform request.instanceId w' o x = some r →
        Lessened w r.2 ∧ Remembers config request.instanceId r.2 := by
    intro w' o x r ho hw hr
    obtain ⟨hlessened, hkept⟩ := perform_spares ho hr
    exact ⟨hw.1.trans hlessened, hkept hw.2⟩
  refine ⟨throughout_mono (throughout_of_only honly hstep ⟨hlooked.lessened, hremembers₁⟩) fun w' h => ?_, ?_⟩
  · exact ⟨h.1, fun _ => ⟨binding, hbinding, hresolved.checksPass⟩⟩
  have hdismantles : Dismantles request.instanceId w₁
      (dismantle config request.instanceId request binding recoveryId environment) fun w' =>
        (∀ existing ∈ environment.existingContainers, w'.container existing.1 = none) ∧
          (∀ ref ∈ environment.network, w'.resource .network ref.name = none) ∧
          ∀ ref ∈ environment.egressNetwork, w'.resource .network ref.name = none := by
    refine dismantles_dismantle fun hvolume hexisting hcommand => ?_
    obtain ⟨volume, hvolume⟩ := Option.isSome_iff_exists.1 hvolume
    have hselected := hresolved.volume
    rw [hvolume] at hselected
    have hremoval : (w.selection config request.instanceId (removalQuery request binding)).isOk = true := by
      rw [World.selection, show selectResource _ _ _ _ = .ok volume from hselected]
      rfl
    have hrecovery := hagrees binding hbinding hcommand (hresolved.hasContainer hexisting) hremoval
    rw [World.selection, ← hlooked.candidates] at hrecovery
    exact Fallible.isOk_iff.1 hrecovery
  refine ends_mono (ends_and hdismantles (ends_of_only honly hstep ⟨hlooked.lessened, hremembers₁⟩)) ?_
  rintro (failure | _) w₂ ⟨hends, hkept⟩
  · exact ⟨endsWell_plain hends.2, hkept.2⟩
  · exact ⟨gone_of_dismantled hremembers hresolved hlooked hends.1 hends.2.1 hends.2.2.1 hends.2.2.2, hkept.2⟩

/-- A removal, as long as the recovery of the locks finds no fault with a volume that the removal has passed. -/
theorem removes_removeEnvironment (hconfined : Confined config request.instanceId w)
    (hremembers : Remembers config request.instanceId w) (hagrees : RecoveryAgrees config request w) (recoveryId : String) :
    Removes config request (removeEnvironment config recoveryId request) w w := by
  have hplain : ∀ {γ : Type} {x : Except String γ} {a : γ}, orInvalid x = .ok a → x = .ok a := by
    rintro γ (message | b) a h
    · cases h
    · exact congrArg Except.ok (Except.ok.inj h)
  refine removes_check hremembers fun instanceId hinstance => ?_
  obtain ⟨-, rfl⟩ := Fallible.ite_ok.1 (hplain hinstance)
  refine removes_check hremembers fun _ _ => ?_
  refine removes_then (.refl w) (harmless_workspaceStorageBinding _) ?_
  refine ends_mono (tells_workspaceStorageBinding w (.refl w)) ?_
  rintro (failure | binding) w₁ ⟨hglanced₁, hbinding⟩ hlooked₁
  · exact hremembers.glanced hglanced₁
  refine removes_then hlooked₁ (only_throwIfAborted allowsLooks_harmless) ?_
  refine ends_mono (tells_throwIfAborted (A := fun _ => True) trivial (fun _ => trivial) w₁ (.refl w₁)) ?_
  rintro (failure | _) w₂ ⟨hglanced₂, -⟩ hlooked₂
  · exact (hremembers.glanced hglanced₁).glanced hglanced₂
  have hlooked := hlooked₁.trans hlooked₂
  have hremembers₂ := (hremembers.glanced hglanced₁).glanced hglanced₂
  have hrefs : w₂.refs = w.refs := (hglanced₁.trans hglanced₂).refs
  refine removes_then hlooked (harmless_resolveEnvironment request binding) ?_
  refine ends_mono (ends_resolveEnvironment (hlooked.confined hconfined) hremembers₂) ?_
  rintro (failure | environment) w₃ ⟨-, hremembers₃, hresolved⟩ hlooked₃
  · exact hremembers₃
  exact removes_dismantle hbinding hagrees hremembers (hresolved.of_glanced (hglanced₁.trans hglanced₂))
    (hlooked.trans hlooked₃) hremembers₃

end Removes

end OpenApp.Docker.Environment
