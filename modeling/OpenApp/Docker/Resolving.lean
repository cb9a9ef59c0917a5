import OpenApp.Docker.Commands

/-!
# Everything is found before anything is taken away

A removal that has resolved the environment knows what stands in the four slots, which volume and which networks
were selected, and that all of it passes the checks of ownership.
-/

namespace OpenApp.Docker.Environment

open Async Async.Prog Script

variable {config : RuntimeConfig} {instanceId : String} {w w' : World}

namespace World

/-- The name of the volume, as it is remembered or else configured. -/
def volumeName (w : World) (config : RuntimeConfig) (instanceId : String) : String :=
  (w.refs (.volume (some ("workspace-storage:" ++ instanceId)))).getD (config.volumePrefix ++ instanceId)

def networkName (w : World) (config : RuntimeConfig) (instanceId : String) (role : ManagedNetworkRole) : String :=
  (w.refs (.network role)).getD (configuredNetworkName config instanceId role)

/-- The selection of what is looked for. -/
def selection (w : World) (config : RuntimeConfig) (instanceId : String) (query : ResourceQuery) :
    Except RuntimeFailure ManagedResourceRef :=
  selectResource config instanceId query (w.candidates config instanceId query)

/-- There is nothing of the kind, or it is the owner's. -/
def Passes (w : World) (config : RuntimeConfig) (instanceId : String) (query : ResourceQuery) : Prop :=
  w.candidates config instanceId query = [] ∨ (w.selection config instanceId query).isOk = true

/-- The network a removal looks for in a world. -/
def roleQuery (w : World) (config : RuntimeConfig) (instanceId ownerId : String) (role : ManagedNetworkRole) : ResourceQuery :=
  networkQuery ownerId role (w.networkName config instanceId role)

end World

/-- Whatever stands in a slot is the owner's, and so are the volume and the networks. -/
structure ChecksPass (config : RuntimeConfig) (request : RemoveContainerEnvironmentRequest) (binding : StorageBinding)
    (w : World) : Prop where
  containers : ∀ slot, ∀ inspect ∈ w.container (slotName (configuredName config request.instanceId) slot), ∃ found,
    toInstance config request.instanceId inspect (slotName (configuredName config request.instanceId) slot) = .ok found ∧
      found.ownerId = request.ownerId
  volume : w.Passes config request.instanceId (removalQuery request binding)
  networks : ∀ role, w.Passes config request.instanceId (w.roleQuery config request.instanceId request.ownerId role)

theorem Looked.candidates (h : Looked w w') (query : ResourceQuery) :
    w'.candidates config instanceId query = w.candidates config instanceId query := by
  have hcandidate : w'.candidate query.kind = w.candidate query.kind := funext fun name => h.candidate query.kind name
  have hlisted : ∀ labelPrefixes, w'.listed instanceId query.kind labelPrefixes =
      w.listed instanceId query.kind labelPrefixes := by
    intro labelPrefixes
    induction labelPrefixes with
    | nil => rfl
    | cons labelPrefix labelPrefixes ih => rw [World.listed, World.listed, h.labelledNames, ih]
  simp only [World.candidates, World.others, hcandidate, hlisted]

theorem Looked.selected (h : Looked w w') {query : ResourceQuery} {r : Except RuntimeFailure (Option ManagedResourceRef)} :
    Selected config instanceId w' query r ↔ Selected config instanceId w query r := by
  cases r with
  | error failure => simp only [Selected, h.candidates]
  | ok found => cases found <;> simp only [Selected, h.candidates]

theorem passes_of_selected {query : ResourceQuery} {found : Option ManagedResourceRef}
    (h : Selected config instanceId w query (.ok found)) : w.Passes config instanceId query := by
  cases found with
  | none => exact .inl h
  | some ref => exact .inr (by rw [World.selection, show selectResource _ _ _ _ = .ok ref from h]; rfl)

/-! ## What is remembered of networks -/

/-- Where there is a network under the configured name, that name is remembered, if any is. -/
theorem Remembers.networkName (h : Remembers config instanceId w) {role : ManagedNetworkRole}
    (hthere : w.resource .network (configuredNetworkName config instanceId role) ≠ none) :
    w.networkName config instanceId role = configuredNetworkName config instanceId role := by
  unfold World.networkName
  cases href : w.refs (.network role) with
  | none => rfl
  | some name => exact (h.network role name href).resolve_right hthere

/-- What is selected is the network under the configured name, where there is one. -/
theorem selected_configured (h : Remembers config instanceId w) {ownerId : String} {role : ManagedNetworkRole}
    {found : Option ManagedResourceRef}
    (hselected : Selected config instanceId w (w.roleQuery config instanceId ownerId role) (.ok found))
    (hthere : w.resource .network (configuredNetworkName config instanceId role) ≠ none) :
    ∃ ref, found = some ref ∧ ref.name = configuredNetworkName config instanceId role := by
  obtain ⟨resource, hresource⟩ := Option.ne_none_iff_exists'.1 hthere
  have hcandidates : w.candidates config instanceId (w.roleQuery config instanceId ownerId role) =
      [candidateOf .network (configuredNetworkName config instanceId role) resource] := by
    simp only [World.candidates, World.roleQuery, networkQuery, h.networkName hthere, World.candidate, hresource, Option.map_some]
  cases found with
  | none =>
    rw [show w.candidates _ _ _ = [] from hselected] at hcandidates
    cases hcandidates
  | some ref =>
    have hmem := selectResource_mem hselected
    rw [hcandidates, List.mem_singleton] at hmem
    exact ⟨ref, rfl, congrArg ManagedResourceCandidate.name hmem⟩

/-- A selected network is remembered, and nothing else changes. -/
theorem Remembers.selectNetwork (h : Remembers config instanceId w) (hlooked : Looked w w') {ownerId : String}
    {role : ManagedNetworkRole} {r : Except RuntimeFailure (Option ManagedResourceRef)}
    (hselected : Selected config instanceId w (w.roleQuery config instanceId ownerId role) r)
    (hrefs : w'.refs = refsAfter w (w.roleQuery config instanceId ownerId role) r) : Remembers config instanceId w' := by
  have hsame (heq : w'.refs = w.refs) : Remembers config instanceId w' :=
    h.of_lessened hlooked.lessened fun key _ name hname => by rwa [heq] at hname
  cases r with
  | error failure => exact hsame hrefs
  | ok found =>
    cases found with
    | none => exact hsame hrefs
    | some ref =>
      refine ⟨fun name hname => ?_, fun role' name hname => ?_⟩
      · rw [hrefs] at hname
        rw [hlooked.container]
        exact h.container name hname
      · rw [hlooked.resource]
        by_cases hrole : role' = role
        · subst hrole
          have hname : ref.name = name := by
            rw [hrefs] at hname
            exact Option.some.inj ((withRef_same (w := w) (.network role') ref.name).symm.trans hname)
          subst hname
          refine or_iff_not_imp_right.2 fun hthere => ?_
          obtain ⟨ref', heq, hconfigured⟩ := selected_configured h hselected hthere
          rwa [Option.some.inj heq]
        · have hkey : RefKey.network role' ≠ .network role := fun heq => hrole (RefKey.network.inj heq)
          rw [hrefs] at hname
          exact h.network role' name ((withRef_of_ne (w := w) hkey ref.name).symm.trans hname)

/-- A selected volume is none of the things that are remembered of networks and containers. -/
theorem refsAfter_volume {query : ResourceQuery} (hquery : query.networkPolicy = none)
    (r : Except RuntimeFailure (Option ManagedResourceRef)) {key : RefKey} (hkey : key.kind ≠ .volume) :
    refsAfter w query r key = w.refs key := by
  have hne : key ≠ query.refKey := by
    rintro rfl
    refine hkey ?_
    rw [ResourceQuery.refKey, hquery]
    rfl
  rcases r with failure | _ | ref
  · rfl
  · rfl
  · exact withRef_of_ne hne ref.name

theorem tells_networkName {role : ManagedNetworkRole} :
    Tells instanceId w (networkName config instanceId role) (· = .ok (w.networkName config instanceId role)) :=
  tells_bind tells_ref nofun fun name h => by
    obtain rfl := Except.ok.inj h
    exact tells_pure rfl

/-! ## The whole environment -/

/-- What a removal goes by is what is there. -/
structure Resolved (config : RuntimeConfig) (request : RemoveContainerEnvironmentRequest) (binding : StorageBinding)
    (w : World) (environment : ResolvedEnvironment) : Prop where
  slotted : Slotted config request.instanceId w environment.found
  owned : ∀ slot, ∀ container ∈ environment.found.artifacts slot, container.ownerId = request.ownerId
  volume : Selected config request.instanceId w (removalQuery request binding) (.ok environment.volume)
  network : Selected config request.instanceId w (w.roleQuery config request.instanceId request.ownerId .private)
    (.ok environment.network)
  egressNetwork : Selected config request.instanceId w (w.roleQuery config request.instanceId request.ownerId .egress)
    (.ok environment.egressNetwork)

theorem owned_of_ok {found : EnvironmentArtifacts} {ownerId : String}
    (h : requireRebuildArtifactOwnership found ownerId = .ok ()) (slot : Slot) :
    ∀ container ∈ found.artifacts slot, container.ownerId = ownerId := by
  intro container hcontainer
  unfold requireRebuildArtifactOwnership at h
  split at h
  · cases h
  · next hnone =>
    have hslot := List.find?_eq_none.1 hnone slot (by cases slot <;> decide)
    rw [Option.mem_def.1 hcontainer] at hslot
    simpa using hslot

theorem Resolved.checksPass {request : RemoveContainerEnvironmentRequest} {binding : StorageBinding}
    {environment : ResolvedEnvironment} (h : Resolved config request binding w environment) :
    ChecksPass config request binding w := by
  refine ⟨fun slot inspect hinspect => ?_, passes_of_selected h.volume, fun role => ?_⟩
  · have htold := h.slotted.2 slot
    cases hfound : environment.found.artifacts slot with
    | none =>
      rw [hfound] at htold
      rw [show w.container _ = none from htold] at hinspect
      cases hinspect
    | some found =>
      rw [hfound] at htold
      obtain ⟨inspect', hinspect', hinstance⟩ := htold
      obtain rfl := Option.some.inj ((Option.mem_def.1 hinspect).symm.trans hinspect')
      exact ⟨found, hinstance, h.owned slot found hfound⟩
  · cases role with
    | «private» => exact passes_of_selected h.network
    | egress => exact passes_of_selected h.egressNetwork

theorem Sought.network (h : Sought config instanceId w w') (role : ManagedNetworkRole) :
    w'.refs (.network role) = w.refs (.network role) :=
  h.others (.network role) fun heq => by cases heq

theorem Remembers.sought (h : Remembers config instanceId w) (hsought : Sought config instanceId w w') :
    Remembers config instanceId w' := by
  refine ⟨hsought.remembers, fun role name hname => ?_⟩
  rw [hsought.network] at hname
  rw [hsought.toLooked.resource]
  exact h.network role name hname

theorem Remembers.selectVolume (h : Remembers config instanceId w) (hlooked : Looked w w') {query : ResourceQuery}
    (hquery : query.networkPolicy = none) {r : Except RuntimeFailure (Option ManagedResourceRef)}
    (hrefs : w'.refs = refsAfter w query r) : Remembers config instanceId w' :=
  h.of_lessened hlooked.lessened fun key hkey name hname => by rwa [hrefs, refsAfter_volume hquery r hkey] at hname

/-- Which network is looked for does not depend on what else was. -/
theorem roleQuery_eq {role : ManagedNetworkRole} (h : w'.refs (.network role) = w.refs (.network role)) (ownerId : String) :
    w'.roleQuery config instanceId ownerId role = w.roleQuery config instanceId ownerId role := by
  rw [World.roleQuery, World.networkName, h, World.roleQuery, World.networkName]

/-- A network is looked for, and what follows knows what was selected. -/
theorem ends_network {β : Type} {Q : Except RuntimeFailure β → World → Prop} {ownerId : String} {role : ManagedNetworkRole}
    {rest : Option ManagedResourceRef → Task β} (hremembers : Remembers config instanceId w)
    (hfail : ∀ failure w', Looked w w' → Remembers config instanceId w' → Q (.error failure) w')
    (hrest : ∀ found w', Looked w w' → Remembers config instanceId w' →
      Selected config instanceId w (w.roleQuery config instanceId ownerId role) (.ok found) →
      (∀ role', role' ≠ role → w'.refs (.network role') = w.refs (.network role')) →
      ends (perform instanceId) Honest (rest found) Q w') :
    ends (perform instanceId) Honest (networkName config instanceId role >>= fun name =>
      inspectManagedResource config instanceId (networkQuery ownerId role name) >>= rest) Q w := by
  refine ends_then (tells_networkName w (.refl w)) ?_ ?_
  · rintro failure w₁ ⟨-, h⟩
    cases h
  rintro name w₁ ⟨hglanced, hname⟩
  obtain rfl := Except.ok.inj hname
  have hremembers₁ : Remembers config instanceId w₁ :=
    hremembers.of_lessened hglanced.toLooked.lessened fun key _ name hname => by rwa [hglanced.refs] at hname
  have hquery : networkQuery ownerId role (w.networkName config instanceId role) = w₁.roleQuery config instanceId ownerId role :=
    (roleQuery_eq (congrFun hglanced.refs (.network role)) ownerId).symm
  have hkind : (w₁.roleQuery config instanceId ownerId role).kind ≠ .container := nofun
  rw [hquery]
  refine ends_then (ends_inspectManagedResource hkind) (fun failure w₂ h => ?_) fun found w₂ h => ?_
  · exact hfail failure w₂ (hglanced.toLooked.trans h.1) (hremembers₁.selectNetwork h.1 h.2.1 h.2.2)
  · have hselected := hglanced.toLooked.selected.1 h.2.1
    rw [roleQuery_eq (congrFun hglanced.refs (.network role))] at hselected
    refine hrest found w₂ (hglanced.toLooked.trans h.1) (hremembers₁.selectNetwork h.1 h.2.1 h.2.2) hselected ?_
    intro role' hrole
    rw [h.2.2, ← hglanced.refs]
    cases found with
    | none => rfl
    | some ref => exact withRef_of_ne (fun heq => hrole (RefKey.network.inj heq)) ref.name

theorem ends_resolveEnvironment {request : RemoveContainerEnvironmentRequest} {binding : StorageBinding}
    (hconfined : Confined config request.instanceId w) (hremembers : Remembers config request.instanceId w) :
    ends (perform request.instanceId) Honest (resolveEnvironment config request.instanceId request binding) (fun r w' =>
      Looked w w' ∧ Remembers config request.instanceId w' ∧ match r with
        | .ok environment => Resolved config request binding w environment
        | .error _ => True) w := by
  refine ends_then (ends_inspectRebuildArtifacts hconfined hremembers.container)
    (fun failure w₁ h => ⟨h.1.toLooked, hremembers.sought h.1, trivial⟩) ?_
  rintro found w₁ ⟨hsought, hslotted⟩
  have hlooked₁ := hsought.toLooked
  have hremembers₁ := hremembers.sought hsought
  refine ends_then (R := fun r w' => w' = w₁ ∧ r = requireRebuildArtifactOwnership found request.ownerId) ?_ ?_ ?_
  · cases requireRebuildArtifactOwnership found request.ownerId <;> exact ⟨rfl, rfl⟩
  · rintro failure w₂ ⟨rfl, -⟩
    exact ⟨hlooked₁, hremembers₁, trivial⟩
  rintro ⟨⟩ w₂ ⟨rfl, howned⟩
  have hkind : (removalQuery request binding).kind ≠ .container := nofun
  refine ends_then (ends_inspectManagedResource hkind) (fun failure w₃ h =>
    ⟨hlooked₁.trans h.1, hremembers₁.selectVolume h.1 rfl h.2.2, trivial⟩) ?_
  rintro volume w₃ ⟨hlooked₃, hvolume, hrefs₃⟩
  have hnetworks₃ : ∀ role, w₃.refs (.network role) = w.refs (.network role) := by
    intro role
    have hkey : (RefKey.network role).kind ≠ .volume := nofun
    rw [hrefs₃, refsAfter_volume rfl _ hkey, hsought.network]
  have hremembers₃ := hremembers₁.selectVolume hlooked₃ rfl hrefs₃
  have hlooked₃ := hlooked₁.trans hlooked₃
  refine ends_network hremembers₃
    (fun failure w₄ hlooked₄ hremembers₄ => ⟨hlooked₃.trans hlooked₄, hremembers₄, trivial⟩) ?_
  intro network w₄ hlooked₄ hremembers₄ hnetwork hothers₄
  refine ends_network hremembers₄ (fun failure w₅ hlooked₅ hremembers₅ =>
    ⟨(hlooked₃.trans hlooked₄).trans hlooked₅, hremembers₅, trivial⟩) ?_
  intro egressNetwork w₅ hlooked₅ hremembers₅ hegress hothers₅
  refine ⟨(hlooked₃.trans hlooked₄).trans hlooked₅, hremembers₅, hslotted, owned_of_ok howned.symm, ?_, ?_, ?_⟩
  · exact hlooked₁.selected.1 hvolume
  · rw [roleQuery_eq (hnetworks₃ .private)] at hnetwork
    exact hlooked₃.selected.1 hnetwork
  · rw [roleQuery_eq ((hothers₄ .egress nofun).trans (hnetworks₃ .egress))] at hegress
    exact (hlooked₃.trans hlooked₄).selected.1 hegress

end OpenApp.Docker.Environment
