import OpenApp.Fallible
import OpenApp.Policy.Text
import OpenApp.Word

/-!
# Providers

A provider is registered with a descriptor of what it supports. A request is held against the descriptor twice:
when a provider is selected for it, and when the provider is asked to carry it out.
-/

namespace OpenApp.Providers

open Fallible Script

/-- A number; `none` is one that is not finite. -/
abbrev Amount := Option ℚ

namespace Amount

/-- `Number.isSafeInteger(value) && value > 0` -/
def isWhole : Amount → Bool
  | some value => Policy.isSafeInteger value && 0 < value
  | none => false

/-- `left < right`, which is only asked of whole numbers. -/
def less : Amount → Amount → Bool
  | some left, some right => left < right
  | _, _ => false

end Amount

structure ProviderResourceLimits where
  minMemoryBytes : Option Amount
  maxMemoryBytes : Option Amount
  minCpuMillis : Option Amount
  maxCpuMillis : Option Amount
  minPidsLimit : Option Amount
  maxPidsLimit : Option Amount

inductive ProviderRollbackCapability
  | transactional
  | best_effort
  | none
  deriving DecidableEq

inductive ProviderHealthCapability
  | native
  | probe
  | none
  deriving DecidableEq

structure ProviderCapabilities where
  rollback : ProviderRollbackCapability
  workloadHealth : ProviderHealthCapability
  metrics : Bool
  diagnostics : Bool

structure ProviderDescriptor where
  id : String
  supportedArtifactKinds : List String
  supportedExecutionContracts : List String
  supportedStorageClasses : List String
  resourceLimits : ProviderResourceLimits
  capabilities : ProviderCapabilities

/-- `Partial<ProviderCapabilities>` -/
structure WantedCapabilities where
  rollback : Option ProviderRollbackCapability
  workloadHealth : Option ProviderHealthCapability
  metrics : Option Bool
  diagnostics : Option Bool

/-- What a request is about, each dimension left out or there. -/
structure ProviderRequestContract where
  artifactKind : Option String
  executionContract : Option String
  storageClass : Option String
  memoryBytes : Option Amount
  cpuMillis : Option Amount
  pidsLimit : Option Amount

structure ProviderSelectionRequirements extends ProviderRequestContract where
  capabilities : Option WantedCapabilities

/-! ## Admission -/

inductive ProviderOperationPhase
  | observe
  | reconcile
  | resolve_storage
  | resolve_target
  | remove
  | release_storage
  | diagnose
  deriving DecidableEq

inductive ProviderFailureClass
  | transient
  | permanent
  deriving DecidableEq

structure ProviderOperationError where
  code : String
  failureClass : ProviderFailureClass
  phase : ProviderOperationPhase
  deriving DecidableEq

def providerUnsupported (code : String) (phase : ProviderOperationPhase) : ProviderOperationError :=
  ⟨code, .permanent, phase⟩

/-- What is left out has its fallback, and what is there must not be blank. -/
def normalizeDimension (value : Option String) (invalidCode : String) (phase : ProviderOperationPhase)
    (fallback : String) : Except ProviderOperationError String :=
  match value with
  | none => .ok fallback
  | some value => if trim value = "" then .error (providerUnsupported invalidCode phase) else .ok (trim value)

/-- An amount that is no whole number, or outside its limits. -/
def amountRefused (value minimum maximum : Option Amount) : Bool :=
  match value with
  | none => false
  | some value => !value.isWhole || minimum.any (fun m => value.less m) || maximum.any (fun m => m.less value)

def assertProviderRequestSupported (descriptor : ProviderDescriptor) (request : ProviderRequestContract)
    (phase : ProviderOperationPhase) : Except ProviderOperationError Unit := do
  let artifactKind ← normalizeDimension request.artifactKind "provider_artifact_invalid" phase "oci-image"
  refuseIf (artifactKind ∉ descriptor.supportedArtifactKinds)
    (providerUnsupported "provider_artifact_unsupported" phase)
  let executionContract ← normalizeDimension request.executionContract "provider_execution_contract_invalid" phase ""
  refuseIf (truthy executionContract ∧ executionContract ∉ descriptor.supportedExecutionContracts)
    (providerUnsupported "provider_execution_contract_unsupported" phase)
  let storageClass ← normalizeDimension request.storageClass "provider_storage_class_invalid" phase ""
  refuseIf (truthy storageClass ∧ storageClass ∉ descriptor.supportedStorageClasses)
    (providerUnsupported "provider_storage_class_unsupported" phase)
  let limits := descriptor.resourceLimits
  refuseIf (amountRefused request.memoryBytes limits.minMemoryBytes limits.maxMemoryBytes)
    (providerUnsupported "provider_memory_limit_unsupported" phase)
  refuseIf (amountRefused request.cpuMillis limits.minCpuMillis limits.maxCpuMillis)
    (providerUnsupported "provider_cpu_limit_unsupported" phase)
  refuseIf (amountRefused request.pidsLimit limits.minPidsLimit limits.maxPidsLimit)
    (providerUnsupported "provider_pids_limit_unsupported" phase)

/-! ## Selection -/

/-- A dimension that is there and not empty is looked for as it is. -/
def dimensionMissing (value : Option String) (supported : List String) : Bool :=
  value.any fun value => truthy value && !supported.contains value

/-- `matches`, up to its test of the capabilities -/
def matchesDimensions (descriptor : ProviderDescriptor) (request : ProviderRequestContract) : Bool :=
  let limits := descriptor.resourceLimits
  !dimensionMissing request.artifactKind descriptor.supportedArtifactKinds &&
    !dimensionMissing request.executionContract descriptor.supportedExecutionContracts &&
    !dimensionMissing request.storageClass descriptor.supportedStorageClasses &&
    !amountRefused request.memoryBytes limits.minMemoryBytes limits.maxMemoryBytes &&
    !amountRefused request.cpuMillis limits.minCpuMillis limits.maxCpuMillis &&
    !amountRefused request.pidsLimit limits.minPidsLimit limits.maxPidsLimit

def matchesCapabilities (descriptor : ProviderDescriptor) (wanted : WantedCapabilities) : Bool :=
  wanted.rollback.all (· = descriptor.capabilities.rollback) &&
    wanted.workloadHealth.all (· = descriptor.capabilities.workloadHealth) &&
    wanted.metrics.all (· = descriptor.capabilities.metrics) &&
    wanted.diagnostics.all (· = descriptor.capabilities.diagnostics)

/-- `matches` -/
def matchesRequirements (descriptor : ProviderDescriptor) (requirements : ProviderSelectionRequirements) : Bool :=
  matchesDimensions descriptor requirements.toProviderRequestContract &&
    requirements.capabilities.all (matchesCapabilities descriptor)

/-! ## Registration -/

/-- What a health port says of its provider. -/
inductive ProviderHealth
  | supported (available : Bool)
  | unsupported
  | unavailable
  deriving DecidableEq

/-- A provider. Its health port, where it has one, answers or throws. -/
structure ExecutionProviderAdapter where
  providerId : String
  descriptor : ProviderDescriptor
  readProviderHealth : Option (Except Unit ProviderHealth)

structure ExecutionProviderAdapterInput where
  providerId : String
  descriptor : Option ProviderDescriptor
  readProviderHealth : Option (Except Unit ProviderHealth)

structure ExecutionProviderRegistryError where
  code : String
  providerId : Option String
  deriving DecidableEq

def defaultDescriptor (providerId : String) : ProviderDescriptor where
  id := providerId
  supportedArtifactKinds := ["oci-image"]
  supportedExecutionContracts := ["generic-v1", "none"]
  supportedStorageClasses := ["workspace-data"]
  resourceLimits := ⟨none, none, none, none, none, none⟩
  capabilities := ⟨.best_effort, .none, false, false⟩

def adaptExecutionProvider (input : ExecutionProviderAdapterInput) : ExecutionProviderAdapter where
  providerId := input.providerId
  descriptor := input.descriptor.getD (defaultDescriptor input.providerId)
  readProviderHealth := input.readProviderHealth

/-- `/^[a-z][a-z0-9._-]{0,63}$/u` -/
def PROVIDER_ID_PATTERN (value : String) : Bool :=
  match value.toList with
  | [] => false
  | c :: cs => c.isLower && cs.length ≤ 63 && cs.all isLowerWordChar

def normalizeProviderId (value code : String) : Except ExecutionProviderRegistryError String :=
  let normalized := toLowerCase (trim value)
  if PROVIDER_ID_PATTERN normalized then .ok normalized else .error ⟨code, none⟩

/-- An item of a list of what is supported. -/
def isSupportedItem (item : String) : Bool :=
  truthy (trim item) && utf16Length item ≤ 128

/-- The limits of one resource: whole numbers, in their order. -/
def limitsInOrder (minimum maximum : Option Amount) : Bool :=
  minimum.all Amount.isWhole && maximum.all Amount.isWhole &&
    !(minimum.any fun low => maximum.any fun high => high.less low)

def validateDescriptor (value : ProviderDescriptor) (providerId : String) : Bool :=
  let limits := value.resourceLimits
  value.id = providerId && value.supportedArtifactKinds.all isSupportedItem &&
    value.supportedExecutionContracts.all isSupportedItem && value.supportedStorageClasses.all isSupportedItem &&
    limitsInOrder limits.minMemoryBytes limits.maxMemoryBytes &&
    limitsInOrder limits.minCpuMillis limits.maxCpuMillis && limitsInOrder limits.minPidsLimit limits.maxPidsLimit

/-- The providers in the order of their registration. Each is kept under the id in its descriptor. -/
structure Registered where
  adapters : List ExecutionProviderAdapter
  distinct : (adapters.map (·.descriptor.id)).Nodup
  valid : ∀ adapter ∈ adapters, validateDescriptor adapter.descriptor adapter.descriptor.id = true

def Registered.empty : Registered where
  adapters := []
  distinct := List.nodup_nil
  valid _ h := absurd h List.not_mem_nil

theorem validateDescriptor_id {value : ProviderDescriptor} {providerId : String}
    (h : validateDescriptor value providerId = true) : value.id = providerId := by
  simp only [validateDescriptor, Bool.and_eq_true, decide_eq_true_eq] at h
  exact h.1.1.1.1.1.1

/-- One turn of the loop of the constructor. -/
def Registered.register (providers : Registered) (input : ExecutionProviderAdapterInput) :
    Except ExecutionProviderRegistryError Registered :=
  let adapter := adaptExecutionProvider input
  match normalizeProviderId adapter.providerId "execution_provider_invalid_id" with
  | .error e => .error e
  | .ok providerId =>
    if hdup : providerId ∈ providers.adapters.map (·.descriptor.id) then
      .error ⟨"execution_provider_duplicate_id", some providerId⟩
    else if hvalid : validateDescriptor adapter.descriptor providerId = true then
      .ok {
        adapters := providers.adapters ++ [adapter]
        distinct := by
          rw [List.map_append, List.nodup_append]
          refine ⟨providers.distinct, by simp, ?_⟩
          intro id hid id' hid' heq
          rw [List.map_singleton, List.mem_singleton, validateDescriptor_id hvalid] at hid'
          subst hid' heq
          exact hdup hid
        valid := by
          intro a ha
          rcases List.mem_append.1 ha with ha | ha
          · exact providers.valid a ha
          · obtain rfl := List.mem_singleton.1 ha
            rw [validateDescriptor_id hvalid]
            exact hvalid }
    else .error ⟨"execution_provider_invalid_descriptor", some providerId⟩

theorem register_adapters {providers next : Registered} {input : ExecutionProviderAdapterInput}
    (h : providers.register input = .ok next) : next.adapters = providers.adapters ++ [adaptExecutionProvider input] := by
  unfold Registered.register at h
  dsimp only at h
  split at h
  · cases h
  · split at h
    · cases h
    · split at h
      · obtain rfl := Except.ok.inj h
        rfl
      · cases h

structure ExecutionProviderRegistry extends Registered where
  defaultProviderId : String
  registered : defaultProviderId ∈ adapters.map (·.descriptor.id)

/-- `new ExecutionProviderRegistry(adapters, options)` -/
def ExecutionProviderRegistry.create (inputs : List ExecutionProviderAdapterInput) (defaultProviderId : Option String) :
    Except ExecutionProviderRegistryError ExecutionProviderRegistry :=
  match inputs with
  | [] => .error ⟨"execution_provider_required", none⟩
  | first :: _ => do
    let providers ← inputs.foldlM Registered.register Registered.empty
    let id ← normalizeProviderId (defaultProviderId.getD first.providerId) "execution_provider_invalid_default"
    if h : id ∈ providers.adapters.map (·.descriptor.id) then
      .ok { providers with defaultProviderId := id, registered := h }
    else .error ⟨"execution_provider_default_not_found", some id⟩

theorem foldlM_register_adapters {inputs : List ExecutionProviderAdapterInput} {providers next : Registered}
    (h : inputs.foldlM Registered.register providers = .ok next) :
    next.adapters = providers.adapters ++ inputs.map adaptExecutionProvider := by
  induction inputs generalizing providers with
  | nil =>
    obtain rfl := Except.ok.inj h
    simp
  | cons input inputs ih =>
    rw [List.foldlM_cons] at h
    obtain ⟨middle, hmiddle, hrest⟩ := bind_ok.1 h
    rw [ih hrest, register_adapters hmiddle, List.append_assoc, List.map_cons, List.singleton_append]

/-- A registry has the providers it was made of, in their order. -/
theorem create_adapters {inputs : List ExecutionProviderAdapterInput} {defaultProviderId : Option String}
    {registry : ExecutionProviderRegistry} (h : ExecutionProviderRegistry.create inputs defaultProviderId = .ok registry) :
    registry.adapters = inputs.map adaptExecutionProvider := by
  unfold ExecutionProviderRegistry.create at h
  split at h
  · cases h
  · obtain ⟨providers, hproviders, h⟩ := bind_ok.1 h
    obtain ⟨id, -, h⟩ := bind_ok.1 h
    split at h
    · obtain rfl := Except.ok.inj h
      simpa [Registered.empty] using foldlM_register_adapters hproviders
    · cases h

end OpenApp.Providers
