import OpenApp.Providers.Registry

/-!
# Selection and admission

A provider is selected by what it supports as that is written, and admits a request by what it supports once
that is trimmed, with a kind of artifact for a request that names none. Where the two agree, and where a
provider that says nothing of its health is taken, is said of the request and of the providers.
-/

namespace OpenApp.Providers

open Fallible Script

/-- The providers that match, in their order. -/
def candidates (registry : Registered) (requirements : ProviderSelectionRequirements) : List ExecutionProviderAdapter :=
  registry.adapters.filter fun adapter => matchesRequirements adapter.descriptor requirements

def unsupportedError : ExecutionProviderRegistryError := ⟨"execution_provider_unsupported", none⟩

def unavailableError : ExecutionProviderRegistryError := ⟨"execution_provider_unavailable", none⟩

def select (registry : Registered) (requirements : ProviderSelectionRequirements) :
    Except ExecutionProviderRegistryError ExecutionProviderAdapter :=
  match candidates registry requirements with
  | [] => .error unsupportedError
  | adapter :: _ => .ok adapter

/-- What `selectAvailable` throws. -/
inductive SelectionError
  | registry (error : ExecutionProviderRegistryError)
  /-- what `throwIfAborted` throws -/
  | aborted

/-- Whether a signal, where there is one, was aborted by its `n`-th look. -/
abbrev AbortSignal := Option (Nat → Bool)

def AbortSignal.aborted (signal : AbortSignal) (look : Nat) : Bool :=
  signal.any fun abortedBy => abortedBy look

/-- The loop of `selectAvailable`. -/
def probe (signal : AbortSignal) (look : Nat) (unavailable : Bool) :
    List ExecutionProviderAdapter → Except SelectionError ExecutionProviderAdapter
  | [] => .error (.registry (if unavailable then unavailableError else unsupportedError))
  | adapter :: rest =>
    if signal.aborted look then .error .aborted
    else
      match adapter.readProviderHealth with
      | none => .ok adapter
      | some (.error _) => if signal.aborted (look + 1) then .error .aborted else probe signal (look + 2) true rest
      | some (.ok (.supported true)) => .ok adapter
      | some (.ok (.supported false)) => probe signal (look + 2) true rest
      | some (.ok .unavailable) => probe signal (look + 2) true rest
      | some (.ok .unsupported) => probe signal (look + 2) unavailable rest

def selectAvailable (registry : Registered) (requirements : ProviderSelectionRequirements) (signal : AbortSignal) :
    Except SelectionError ExecutionProviderAdapter :=
  match candidates registry requirements with
  | [] => .error (.registry unsupportedError)
  | adapter :: rest => probe signal 0 false (adapter :: rest)

/-! ## What a request has to find -/

variable {registry : Registered} {request : ProviderRequestContract} {descriptor : ProviderDescriptor}
  {phase : ProviderOperationPhase}

/-- Each dimension is listed once it is trimmed, and a request without a kind of artifact is for an image. -/
def supportsTrimmed (descriptor : ProviderDescriptor) (request : ProviderRequestContract) : Prop :=
  trim (request.artifactKind.getD "oci-image") ∈ descriptor.supportedArtifactKinds ∧
    (∀ contract ∈ request.executionContract, trim contract ∈ descriptor.supportedExecutionContracts) ∧
    ∀ storageClass ∈ request.storageClass, trim storageClass ∈ descriptor.supportedStorageClasses

/-- Each dimension is empty, or listed as it is written. -/
def supportsWritten (descriptor : ProviderDescriptor) (request : ProviderRequestContract) : Prop :=
  (∀ kind ∈ request.artifactKind, kind ≠ "" → kind ∈ descriptor.supportedArtifactKinds) ∧
    (∀ contract ∈ request.executionContract, contract ≠ "" → contract ∈ descriptor.supportedExecutionContracts) ∧
    ∀ storageClass ∈ request.storageClass, storageClass ≠ "" → storageClass ∈ descriptor.supportedStorageClasses

/-- The amounts are whole and within the limits. -/
def withinLimits (descriptor : ProviderDescriptor) (request : ProviderRequestContract) : Prop :=
  let limits := descriptor.resourceLimits
  amountRefused request.memoryBytes limits.minMemoryBytes limits.maxMemoryBytes = false ∧
    amountRefused request.cpuMillis limits.minCpuMillis limits.maxCpuMillis = false ∧
    amountRefused request.pidsLimit limits.minPidsLimit limits.maxPidsLimit = false

theorem dimensionMissing_eq_false {value : Option String} {supported : List String} :
    dimensionMissing value supported = false ↔ ∀ written ∈ value, written ≠ "" → written ∈ supported := by
  cases value <;> simp [dimensionMissing, truthy]

theorem matchesDimensions_iff :
    matchesDimensions descriptor request = true ↔ supportsWritten descriptor request ∧ withinLimits descriptor request := by
  simp only [matchesDimensions, Bool.and_eq_true, Bool.not_eq_true', dimensionMissing_eq_false, supportsWritten,
    withinLimits]
  tauto

/-- The lists of a descriptor that was let in have nothing blank. -/
theorem items_of_valid (h : validateDescriptor descriptor descriptor.id = true) :
    "" ∉ descriptor.supportedArtifactKinds ∧ "" ∉ descriptor.supportedExecutionContracts ∧
      "" ∉ descriptor.supportedStorageClasses := by
  simp only [validateDescriptor, Bool.and_eq_true, List.all_eq_true] at h
  obtain ⟨⟨⟨⟨⟨⟨-, hkinds⟩, hcontracts⟩, hclasses⟩, -⟩, -⟩, -⟩ := h
  have hblank : isSupportedItem "" = false := by decide
  refine ⟨fun hmem => ?_, fun hmem => ?_, fun hmem => ?_⟩
  · exact absurd (hkinds "" hmem) (by simp [hblank])
  · exact absurd (hcontracts "" hmem) (by simp [hblank])
  · exact absurd (hclasses "" hmem) (by simp [hblank])

section Admission

variable {value : Option String} {code fallback : String} {supported : List String}
  {rest : Except ProviderOperationError Unit} {e : ProviderOperationError}

/-- A dimension with a fallback, and its look-up. -/
theorem dimension_ok {β : Type} {f : Unit → Except ProviderOperationError β} {b : β} (hblank : "" ∉ supported)
    (hfallback : trim fallback = fallback) :
    (normalizeDimension value code phase fallback >>= fun normalized =>
        refuseIf (normalized ∉ supported) e >>= f) = .ok b ↔
      trim (value.getD fallback) ∈ supported ∧ f () = .ok b := by
  rw [bind_ok]
  cases value with
  | none => simp [normalizeDimension, refuseIf_bind_ok, hfallback]
  | some written =>
    by_cases hempty : trim written = ""
    · simp [normalizeDimension, hempty, hblank]
    · simp [normalizeDimension, hempty, refuseIf_bind_ok]

/-- A dimension without one. -/
theorem optional_dimension_ok {β : Type} {f : Unit → Except ProviderOperationError β} {b : β} (hblank : "" ∉ supported) :
    (normalizeDimension value code phase "" >>= fun normalized =>
        refuseIf (truthy normalized = true ∧ normalized ∉ supported) e >>= f) = .ok b ↔
      (∀ written ∈ value, trim written ∈ supported) ∧ f () = .ok b := by
  rw [bind_ok]
  cases value with
  | none => simp [normalizeDimension, refuseIf_bind_ok, truthy]
  | some written =>
    by_cases hempty : trim written = ""
    · simp [normalizeDimension, hempty, hblank]
    · simp [normalizeDimension, hempty, refuseIf_bind_ok, truthy]

end Admission

theorem assert_ok_iff (hvalid : validateDescriptor descriptor descriptor.id = true) :
    assertProviderRequestSupported descriptor request phase = .ok () ↔
      supportsTrimmed descriptor request ∧ withinLimits descriptor request := by
  obtain ⟨hkinds, hcontracts, hclasses⟩ := items_of_valid hvalid
  unfold assertProviderRequestSupported
  rw [dimension_ok hkinds (by decide), optional_dimension_ok hcontracts, optional_dimension_ok hclasses,
    refuseIf_bind_ok, refuseIf_bind_ok, refuseIf_ok]
  simp only [supportsTrimmed, withinLimits, Bool.not_eq_true, and_assoc]

/-! ## What a provider says of its health -/

/-- Nothing is asked, or it is there. -/
def answers (adapter : ExecutionProviderAdapter) : Bool :=
  match adapter.readProviderHealth with
  | none => true
  | some (.ok (.supported available)) => available
  | _ => false

def saysUnsupported (adapter : ExecutionProviderAdapter) : Bool :=
  match adapter.readProviderHealth with
  | some (.ok .unsupported) => true
  | _ => false

/-- It is not there, or its probe throws. -/
def isDown (adapter : ExecutionProviderAdapter) : Bool :=
  match adapter.readProviderHealth with
  | some (.error _) => true
  | some (.ok (.supported available)) => !available
  | some (.ok .unavailable) => true
  | _ => false

/-- A health port that says nothing is no outage. -/
def isUsable (adapter : ExecutionProviderAdapter) : Bool :=
  answers adapter || saysUnsupported adapter

theorem isDown_eq (adapter : ExecutionProviderAdapter) : isDown adapter = !isUsable adapter := by
  unfold isDown isUsable answers saysUnsupported
  rcases adapter.readProviderHealth with _ | ⟨_ | ⟨available⟩ | _ | _⟩ <;> simp

/-- Without a signal the first provider that answers is taken, and otherwise one that is down decides the error. -/
theorem probe_eq (look : Nat) (unavailable : Bool) (l : List ExecutionProviderAdapter) :
    probe none look unavailable l =
      match l.find? answers with
      | some adapter => .ok adapter
      | none => .error (.registry (if unavailable || l.any isDown then unavailableError else unsupportedError)) := by
  induction l generalizing look unavailable with
  | nil => simp [probe]
  | cons adapter rest ih =>
    unfold probe
    rw [List.find?_cons, List.any_cons]
    cases hhealth : adapter.readProviderHealth with
    | none => simp [AbortSignal.aborted, answers, hhealth]
    | some result =>
      rcases result with _ | ⟨⟨⟩ | ⟨⟩⟩ | _ | _ <;> simp [AbortSignal.aborted, answers, isDown, hhealth, ih]

theorem selectAvailable_eq (requirements : ProviderSelectionRequirements) :
    selectAvailable registry requirements none =
      match (candidates registry requirements).find? answers with
      | some adapter => .ok adapter
      | none => .error (.registry
          (if (candidates registry requirements).any isDown then unavailableError else unsupportedError)) := by
  unfold selectAvailable
  cases hlist : candidates registry requirements with
  | nil => rfl
  | cons adapter rest =>
    dsimp only
    rw [probe_eq, Bool.false_or]

theorem selectAvailable_ok (requirements : ProviderSelectionRequirements) (adapter : ExecutionProviderAdapter) :
    selectAvailable registry requirements none = .ok adapter ↔
      (candidates registry requirements).find? answers = some adapter := by
  rw [selectAvailable_eq]
  cases (candidates registry requirements).find? answers <;> simp

theorem selectAvailable_unavailable (requirements : ProviderSelectionRequirements) :
    selectAvailable registry requirements none = .error (.registry unavailableError) ↔
      (candidates registry requirements).find? answers = none ∧ (candidates registry requirements).any isDown = true := by
  have hne : unsupportedError ≠ unavailableError := by decide
  rw [selectAvailable_eq]
  cases (candidates registry requirements).find? answers with
  | some adapter => simp
  | none =>
    cases (candidates registry requirements).any isDown
    · simp [hne]
    · simp

/-! ## Agreement -/

/-- What is wanted of a request that names no capabilities. -/
def wanting (request : ProviderRequestContract) : ProviderSelectionRequirements :=
  { request with capabilities := none }

/-- Selection goes by what is admitted, and by what is there. -/
structure SelectionAgrees (registry : Registered) (request : ProviderRequestContract) : Prop where
  accepted : ∀ adapter, select registry (wanting request) = .ok adapter →
    ∀ phase, assertProviderRequestSupported adapter.descriptor request phase = .ok ()
  notSkipped : ∀ adapter ∈ registry.adapters,
    (∀ phase, assertProviderRequestSupported adapter.descriptor request phase = .ok ()) →
      select registry (wanting request) ≠ .error unsupportedError
  /-- the first that has no health port, says nothing of its health or is there -/
  available : ∀ adapter, selectAvailable registry (wanting request) none = .ok adapter ↔
    (candidates registry (wanting request)).find? isUsable = some adapter
  unavailable : selectAvailable registry (wanting request) none = .error (.registry unavailableError) ↔
    candidates registry (wanting request) ≠ [] ∧ ∀ adapter ∈ candidates registry (wanting request), isDown adapter = true

/-- What the providers and the request have to be for that. -/
structure SelectsWell (registry : Registered) (request : ProviderRequestContract) : Prop where
  /-- the first one that matches lists the dimensions trimmed as well -/
  first : ∀ adapter ∈ (candidates registry (wanting request)).head?, supportsTrimmed adapter.descriptor request
  /-- where one lists them trimmed, one lists them as they are written -/
  written : (∃ adapter ∈ registry.adapters,
      supportsTrimmed adapter.descriptor request ∧ withinLimits adapter.descriptor request) →
    ∃ adapter ∈ registry.adapters, supportsWritten adapter.descriptor request ∧ withinLimits adapter.descriptor request
  /-- none that says nothing of its health comes before all that are there -/
  health : ∀ adapter ∈ (candidates registry (wanting request)).find? isUsable, saysUnsupported adapter = false

theorem mem_candidates {adapter : ExecutionProviderAdapter} :
    adapter ∈ candidates registry (wanting request) ↔
      adapter ∈ registry.adapters ∧ supportsWritten adapter.descriptor request ∧ withinLimits adapter.descriptor request := by
  rw [← matchesDimensions_iff]
  simp [candidates, matchesRequirements, wanting]

theorem select_ok {adapter : ExecutionProviderAdapter} :
    select registry (wanting request) = .ok adapter ↔ (candidates registry (wanting request)).head? = some adapter := by
  unfold select
  cases candidates registry (wanting request) <;> simp

theorem select_unsupported :
    select registry (wanting request) = .error unsupportedError ↔ candidates registry (wanting request) = [] := by
  unfold select
  cases candidates registry (wanting request) <;> simp

/-- Whether a provider admits a request does not hang on the phase. -/
theorem admitted_iff {adapter : ExecutionProviderAdapter} (h : adapter ∈ registry.adapters) :
    (∀ phase, assertProviderRequestSupported adapter.descriptor request phase = .ok ()) ↔
      supportsTrimmed adapter.descriptor request ∧ withinLimits adapter.descriptor request := by
  simp only [assert_ok_iff (registry.valid adapter h)]
  exact ⟨fun hall => hall .observe, fun hadmits _ => hadmits⟩

/-- The first usable provider and the first that answers are the same just where the first usable one answers. -/
theorem find_usable_iff (l : List ExecutionProviderAdapter) :
    (∀ adapter, l.find? answers = some adapter ↔ l.find? isUsable = some adapter) ↔
      ∀ adapter ∈ l.find? isUsable, saysUnsupported adapter = false := by
  constructor
  · intro h adapter hfind
    have hanswers : answers adapter = true := List.find?_some ((h adapter).2 hfind)
    unfold answers at hanswers
    unfold saysUnsupported
    split at hanswers <;> simp_all
  · intro h
    suffices hsame : l.find? answers = l.find? isUsable by
      intro adapter
      rw [hsame]
    induction l with
    | nil => rfl
    | cons adapter rest ih =>
      rw [List.find?_cons, List.find?_cons]
      rw [List.find?_cons] at h
      cases husable : isUsable adapter with
      | true =>
        rw [husable] at h
        have hsays : saysUnsupported adapter = false := h adapter rfl
        have hanswers : answers adapter = true := by simpa [isUsable, hsays] using husable
        rw [hanswers]
      | false =>
        rw [husable] at h
        have hanswers : answers adapter = false := by
          cases hcase : answers adapter
          · rfl
          · simp [isUsable, hcase] at husable
        rw [hanswers]
        exact ih h

theorem selection_agrees_iff (registry : Registered) (request : ProviderRequestContract) :
    SelectionAgrees registry request ↔ SelectsWell registry request := by
  constructor
  · intro h
    refine ⟨?_, ?_, ?_⟩
    · intro adapter hhead
      have hmem : adapter ∈ candidates registry (wanting request) := List.mem_of_mem_head? hhead
      exact ((admitted_iff (mem_candidates.1 hmem).1).1 (h.accepted adapter (select_ok.2 hhead))).1
    · rintro ⟨adapter, hadapter, hadmits⟩
      have hne := h.notSkipped adapter hadapter ((admitted_iff hadapter).2 hadmits)
      rw [Ne, select_unsupported] at hne
      obtain ⟨found, hfound⟩ := List.exists_mem_of_ne_nil _ hne
      exact ⟨found, mem_candidates.1 hfound⟩
    · refine (find_usable_iff _).1 fun adapter => ?_
      rw [← selectAvailable_ok]
      exact h.available adapter
  · intro h
    have hfind := (find_usable_iff _).2 h.health
    refine ⟨?_, ?_, ?_, ?_⟩
    · intro adapter hselect
      have hhead := select_ok.1 hselect
      obtain ⟨hadapter, -, hlimits⟩ := mem_candidates.1 (List.mem_of_mem_head? hhead)
      exact (admitted_iff hadapter).2 ⟨h.first adapter hhead, hlimits⟩
    · intro adapter hadapter hadmits hunsupported
      obtain ⟨found, hfound⟩ := h.written ⟨adapter, hadapter, (admitted_iff hadapter).1 hadmits⟩
      have hmem := mem_candidates.2 hfound
      rw [select_unsupported.1 hunsupported] at hmem
      exact absurd hmem List.not_mem_nil
    · intro adapter
      rw [selectAvailable_ok]
      exact hfind adapter
    · rw [selectAvailable_unavailable]
      constructor
      · rintro ⟨hnone, hany⟩
        obtain ⟨adapter, hadapter, -⟩ := List.any_eq_true.1 hany
        refine ⟨List.ne_nil_of_mem hadapter, ?_⟩
        -- no provider that says nothing of its health is left, or it would be the first usable one
        have husable : (candidates registry (wanting request)).find? isUsable = none := by
          cases hcase : (candidates registry (wanting request)).find? isUsable with
          | none => rfl
          | some first =>
            rw [(hfind first).2 hcase] at hnone
            cases hnone
        intro other hother
        rw [isDown_eq]
        simpa using List.find?_eq_none.1 husable other hother
      · rintro ⟨hne, hdown⟩
        obtain ⟨adapter, hadapter⟩ := List.exists_mem_of_ne_nil _ hne
        refine ⟨List.find?_eq_none.2 fun other hother hanswers => ?_, List.any_eq_true.2 ⟨adapter, hadapter, hdown _ hadapter⟩⟩
        have hother' := hdown other hother
        rw [isDown_eq, isUsable, hanswers] at hother'
        cases hother'

/-! ## A provider without a word on its health -/

/-- A provider of containers whose health port has nothing to say. -/
def silentInput : ExecutionProviderAdapterInput where
  providerId := "docker"
  descriptor := none
  readProviderHealth := some (.ok .unsupported)

def anyRequest : ProviderRequestContract := ⟨none, none, none, none, none, none⟩

/-- Its port is no outage, and still the provider is passed over. -/
theorem silent_provider_skipped :
    ∃ registry, ExecutionProviderRegistry.create [silentInput] none = .ok registry ∧
      ¬ SelectionAgrees registry.toRegistered anyRequest := by
  have hmade : (ExecutionProviderRegistry.create [silentInput] none).toBool = true := by decide +kernel
  cases hcreate : ExecutionProviderRegistry.create [silentInput] none with
  | error e =>
    rw [hcreate] at hmade
    cases hmade
  | ok registry =>
    refine ⟨registry, rfl, fun h => ?_⟩
    have hcandidates : candidates registry.toRegistered (wanting anyRequest) = [adaptExecutionProvider silentInput] := by
      unfold candidates
      rw [create_adapters hcreate]
      rfl
    have hfound := (h.available (adaptExecutionProvider silentInput)).2 (by rw [hcandidates]; rfl)
    rw [selectAvailable_ok, hcandidates] at hfound
    cases hfound

end OpenApp.Providers
