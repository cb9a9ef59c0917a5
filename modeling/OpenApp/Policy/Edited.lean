import OpenApp.Policy.Runnable

/-!
# When an edited policy runs

The editor is the wider of the three views. What it lets through and a launch refuses is told here: limits
that are no whole number of bytes or of thousandths of a CPU, variables with control characters or of a
size only the editor accepts, and whatever the current policy had that the patch leaves out.
-/

namespace OpenApp.Policy

open Fallible Keyed Script

/-! ## The fields of a patch -/

def Json.field (key : String) : Json → Option Json
  | .object entries => (Record.ofEntries entries).field key
  | _ => none

/-- A limit that a patch gives. -/
def resourceField (input : Json) (key : String) : Option Json :=
  (input.field "resources").bind (Json.field key)

/-- The text in force: that of the patch, or the current one. -/
def textInForce (given : Option Json) (current : String) : String :=
  match given with
  | some (.string value) => trim value
  | _ => trim current

theorem record_ok {value : Json} {code : String} {r : Record Json} (h : record value code = .ok r) :
    ∃ entries, value = .object entries ∧ r = .ofEntries entries := by
  cases value with
  | object entries =>
    cases h
    exact ⟨entries, rfl, rfl⟩
  | _ => cases h

theorem field_of_record {value : Json} {code : String} {r : Record Json} (h : record value code = .ok r) (key : String) :
    r.field key = value.field key := by
  obtain ⟨entries, rfl, rfl⟩ := record_ok h
  rfl

theorem resourcesPatch_ok {patch resources : Record Json} {input : Json}
    (hfield : ∀ key, patch.field key = input.field key) (h : resourcesPatch patch = .ok resources) (key : String) :
    resources.field key = resourceField input key := by
  unfold resourcesPatch at h
  unfold resourceField
  rw [hfield] at h
  cases hgiven : input.field "resources" with
  | none =>
    rw [hgiven] at h
    cases h
    rfl
  | some value =>
    rw [hgiven] at h
    exact field_of_record h key

theorem stringValue_ok {given : Option Json} {fallback code value : String}
    (h : stringValue given fallback code = .ok value) : trim value = textInForce given fallback := by
  unfold stringValue at h
  split at h
  · cases h
    rfl
  · split at h
    · cases h
      rfl
    · cases h
  · cases h

theorem integerValue_ok {given : Option Json} {fallback minimum maximum value : ℚ} {code : String}
    (h : integerValue given fallback minimum maximum code = .ok value) :
    (given = none ∧ value = fallback) ∨
      (given ≠ none ∧ isSafeInteger value = true ∧ minimum ≤ value ∧ value ≤ maximum) := by
  unfold integerValue at h
  split at h
  · cases h
    exact .inl ⟨rfl, rfl⟩
  · split at h
    · next hsafe =>
      cases h
      exact .inr ⟨by simp, hsafe⟩
    · cases h
  · cases h

/-- The texts of an object are its texts. -/
theorem stringMap_ok {value : Json} {code : String} {r : Record String} (h : stringMap value code = .ok r) :
    ∃ entries, value = .object entries ∧
      ∀ key text, (Record.ofEntries entries).field key = some (.string text) ↔ (key, text) ∈ r.rows := by
  rw [stringMap, bind_ok] at h
  obtain ⟨candidate, hrecord, h⟩ := h
  obtain ⟨entries, rfl, rfl⟩ := record_ok hrecord
  refine ⟨entries, rfl, ?_⟩
  split at h
  · next rows hrows =>
    cases h
    intro key text
    have hget : (Record.ofEntries entries).field key = some (.string text) ↔
        (key, .string text) ∈ (Record.ofEntries entries).rows := by
      unfold Record.field
      rw [Option.map_eq_some_iff]
      constructor
      · rintro ⟨⟨key', value⟩, hget, rfl⟩
        obtain ⟨hmem, rfl⟩ := Table.get_eq_some.1 hget
        exact hmem
      · intro hmem
        exact ⟨(key, .string text), Table.get_eq_some.2 ⟨hmem, rfl⟩, rfl⟩
    change _ ↔ (key, text) ∈ rows
    rw [hget, texts_eq hrows, List.mem_map]
    constructor
    · rintro ⟨⟨key', text'⟩, hmem, heq⟩
      cases heq
      exact hmem
    · intro hmem
      exact ⟨(key, text), hmem, rfl⟩
  · cases h

/-! ## The environment -/

/-- What the editor leaves open of an environment. -/
def EnvironmentRuns (runtime : RuntimeProfile) (current : Record String) : Option Json → Prop
  | none => LaunchableEnvironment runtime current
  | some given => ∀ name value, given.field name = some (.string value) →
    name.toList.length ≤ 128 ∧ hasControl value = false ∧ value.utf8ByteSize ≤ ENVIRONMENT_VALUE_MAX_BYTES

theorem environment_runs {runtime : RuntimeProfile} {current environment : Record String} {patch : Record Json}
    (h : updatedEnvironment current patch (runtimeReservedEnvironmentNames runtime) = .ok environment) :
    LaunchableEnvironment runtime environment ↔ EnvironmentRuns runtime current (patch.field "environment") := by
  unfold updatedEnvironment at h
  cases hgiven : patch.field "environment" with
  | none =>
    rw [hgiven] at h
    cases h
    exact Iff.rfl
  | some given =>
    rw [hgiven] at h
    obtain ⟨hmap, hedited⟩ := validateEnvironment_ok h
    obtain ⟨entries, rfl, hentries⟩ := stringMap_ok hmap
    constructor
    · intro hlaunch name value hvalue
      obtain ⟨-, hshort, -, hplain, hsmall⟩ := hlaunch.entries _ ((hentries name value).1 hvalue)
      exact ⟨hshort, hplain, hsmall⟩
    · intro hruns
      refine ⟨hedited.few, ?_, hedited.small⟩
      rintro ⟨name, value⟩ hmem
      obtain ⟨hshort, hplain, hsmall⟩ := hruns name value ((hentries name value).2 hmem)
      exact ⟨hedited.names _ hmem, hshort, hedited.free _ hmem, hplain, hsmall⟩

/-- The config files that are in force pass wherever the editor looked at them. -/
theorem configFiles_run {current configFiles : Record String} {patch : Record Json}
    (h : updatedConfigFiles current patch = .ok configFiles) :
    LaunchableFiles configFiles ↔ (patch.field "configFiles" = none → LaunchableFiles current) := by
  unfold updatedConfigFiles at h
  cases hgiven : patch.field "configFiles" with
  | none =>
    rw [hgiven] at h
    cases h
    simp
  | some given =>
    rw [hgiven] at h
    simpa using validateConfigFiles_ok h

/-! ## The policy -/

/-- What an accepted policy took from where. -/
structure Edited (reserved : List String) (current : ProvisioningPolicy) (input : Json) (policy : ProvisioningPolicy) :
    Prop where
  memory : policy.resources.memory = textInForce (resourceField input "memory") current.resources.memory
  cpus : policy.resources.cpus = textInForce (resourceField input "cpus") current.resources.cpus
  validMemory : validMemory policy.resources.memory = true
  validCpus : validCpus policy.resources.cpus = true
  pidsLimit : validPidsLimit policy.resources.pidsLimit = true ↔
    (resourceField input "pidsLimit" = none → validPidsLimit current.resources.pidsLimit = true)
  environment : ∃ patch : Record Json, (∀ key, patch.field key = input.field key) ∧
    updatedEnvironment current.environment patch reserved = .ok policy.environment ∧
      updatedConfigFiles current.configFiles patch = .ok policy.configFiles

theorem pidsLimit_edited {given : Option Json} {current value : ℚ} {code : String}
    (h : integerValue given current 32 1048576 code = .ok value) :
    validPidsLimit value = true ↔ (given = none → validPidsLimit current = true) := by
  rcases integerValue_ok h with ⟨rfl, rfl⟩ | ⟨hgiven, hsafe, hmin, hmax⟩
  · simp
  · have hvalid : validPidsLimit value = true := by
      simp only [validPidsLimit, Bool.and_eq_true, decide_eq_true_eq]
      exact ⟨⟨hsafe, hmin⟩, hmax⟩
    simp [hvalid, hgiven]

theorem updateProvisioningPolicy_ok {current policy : ProvisioningPolicy} {input : Json} {reserved : List String}
    (h : updateProvisioningPolicy current input reserved = .ok policy) : Edited reserved current input policy := by
  rw [updateProvisioningPolicy, bind_ok] at h
  obtain ⟨patch, hrecord, h⟩ := h
  have hfield := field_of_record hrecord
  obtain ⟨-, h⟩ := check_bind_ok.1 h
  obtain ⟨resources, hresources, h⟩ := bind_ok.1 h
  have hlimit := resourcesPatch_ok hfield hresources
  obtain ⟨-, h⟩ := check_bind_ok.1 h
  obtain ⟨policy', hpolicy, h⟩ := bind_ok.1 h
  obtain ⟨hcheck, hpure⟩ := check_bind_ok.1 h
  cases hpure
  simp only [checkPolicy, check_bind_ok, ensure_ok] at hcheck
  obtain ⟨-, -, hmemory, hcpus⟩ := hcheck
  simp only [patchedPolicy, bind_ok] at hpolicy
  obtain ⟨_, -, _, -, _, -, _, -, _, -, _, -, _, -, _, -, _, -, _, -, limits, hlimits, environment, henvironment,
    configFiles, hfiles, hpure⟩ := hpolicy
  cases hpure
  simp only [updatedResources, bind_ok] at hlimits
  obtain ⟨memory, hmemoryText, cpus, hcpusText, pidsLimit, hpids, hpure⟩ := hlimits
  cases hpure
  rw [hlimit] at hmemoryText hcpusText hpids
  exact {
    memory := stringValue_ok hmemoryText
    cpus := stringValue_ok hcpusText
    validMemory := hmemory
    validCpus := hcpus
    pidsLimit := pidsLimit_edited hpids
    environment := ⟨patch, hfield, henvironment, hfiles⟩ }

theorem trim_textInForce (given : Option Json) (current : String) :
    trim (textInForce given current) = textInForce given current := by
  unfold textInForce
  split
  · exact trim_trim _
  · exact trim_trim _

/-- A provider takes the limits of an edited policy where they are whole numbers. -/
theorem Edited.provider_iff {reserved : List String} {current policy : ProvisioningPolicy} {input : Json}
    (h : Edited reserved current input policy) {request : ExecutionRequest}
    (hresources : request.launchProfile.resources = policy.resources) :
    (∃ contract, providerRequestFromReconcile request = .ok contract) ↔
      (∃ n : ℕ, memoryBytes (textInForce (resourceField input "memory") current.resources.memory) = some (n : ℚ)) ∧
        ∃ n : ℕ, cpuMillis (textInForce (resourceField input "cpus") current.resources.cpus) = some (n : ℚ) := by
  have hmemory := trim_textInForce (resourceField input "memory") current.resources.memory
  have hcpus := trim_textInForce (resourceField input "cpus") current.resources.cpus
  rw [← h.memory] at hmemory ⊢
  rw [← h.cpus] at hcpus ⊢
  have hrequest : (∃ contract, providerRequestFromReconcile request = .ok contract) ↔
      (∃ n : ℕ, memoryBytes (trim policy.resources.memory) = some (n : ℚ)) ∧
        ∃ n : ℕ, cpuMillis (trim policy.resources.cpus) = some (n : ℚ) := by
    apply providerRequest_ok
    · rw [hresources, hmemory]
    · rw [hresources, hcpus]
    · rw [hmemory]
      exact h.validMemory
    · rw [hcpus]
      exact h.validCpus
  rwa [hmemory, hcpus] at hrequest

/-- The policy can be launched with every image, by the runtime and by every provider. -/
def RunsEverywhere (localeBefore : String → String → Bool) (runtime : RuntimeProfile) (policy : ProvisioningPolicy) :
    Prop :=
  ∀ image, imageReference image = true →
    (∃ profile, launchProfile runtime (toLaunchProfile localeBefore policy image) = .ok profile) ∧
      ∀ artifactKind executionContract storageClass, ∃ contract, providerRequestFromReconcile
        ⟨artifactKind, executionContract, storageClass, toLaunchProfile localeBefore policy image⟩ = .ok contract

/-- A patch of one limit. -/
def limitPatch (key value : String) : Json :=
  .object [("resources", .object [(key, .string value)])]

/-- What the editor does not ask of a patch and of the policy under it. -/
structure Runs (runtime : RuntimeProfile) (current : ProvisioningPolicy) (input : Json) : Prop where
  /-- the memory is a whole number of bytes -/
  memory : ∃ n : ℕ,
    memoryBytes (textInForce (resourceField input "memory") current.resources.memory) = some (n : ℚ)
  /-- the CPUs are a plain decimal, of no more than thousandths -/
  cpus : ∃ n : ℕ, cpuMillis (textInForce (resourceField input "cpus") current.resources.cpus) = some (n : ℚ)
  pidsLimit : resourceField input "pidsLimit" = none → validPidsLimit current.resources.pidsLimit = true
  environment : EnvironmentRuns runtime current.environment (input.field "environment")
  configFiles : input.field "configFiles" = none → LaunchableFiles current.configFiles

end OpenApp.Policy
