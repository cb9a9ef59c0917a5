import OpenApp.Policy.Edited
import OpenApp.Word

/-!
# A policy laid over another one

A stored policy is an object with all its fields. Laid over any other policy, it is checked again and
comes out as it was: what the editor accepts, it accepts unchanged the next time.
-/

namespace OpenApp.Policy

open Fallible Keyed Script

/-! ## Policies as objects -/

def textsJson (texts : Record String) : Json :=
  .object (texts.rows.map fun entry => (entry.1, .string entry.2))

def resourcesEntries (resources : Resources) : List (String × Json) := [
  ("memory", .string resources.memory),
  ("cpus", .string resources.cpus),
  ("pidsLimit", .number resources.pidsLimit)]

def policyEntries (policy : ProvisioningPolicy) : List (String × Json) := [
  ("autoCreateOnFirstVisit", .bool policy.autoCreateOnFirstVisit),
  ("defaultAppId", .string policy.defaultAppId),
  ("autoStartOnEnter", .bool policy.autoStartOnEnter),
  ("autoWakeOnRequest", .bool policy.autoWakeOnRequest),
  ("blockAutoWakeAfterManualStop", .bool policy.blockAutoWakeAfterManualStop),
  ("idleStopMinutes", .number policy.idleStopMinutes),
  ("detectNetworkActivity", .bool policy.detectNetworkActivity),
  ("detectComputeActivity", .bool policy.detectComputeActivity),
  ("maxTotalInstances", .number policy.maxTotalInstances),
  ("maxRunningInstances", .number policy.maxRunningInstances),
  ("resources", .object (resourcesEntries policy.resources)),
  ("environment", textsJson policy.environment),
  ("configFiles", textsJson policy.configFiles)]

/-- `structuredClone(policy)`, as the value it is for whoever reads it back. -/
def policyJson (policy : ProvisioningPolicy) : Json :=
  .object (policyEntries policy)

theorem foldl_put_rows {α : Type} (entries : List (String × α)) (r : Record α)
    (h : ((r.rows ++ entries).map Prod.fst).Nodup) : (entries.foldl Table.put r).rows = r.rows ++ entries := by
  induction entries generalizing r with
  | nil => simp
  | cons entry entries ih =>
    have hput : (r.put entry).rows = r.rows ++ [entry] := by
      change putRow Prod.fst entry r.rows = _
      have hnot : ∀ row ∈ r.rows, row.1 ≠ entry.1 := by
        intro row hrow heq
        rw [List.map_append, List.map_cons] at h
        exact (List.nodup_append.1 h).2.2 row.1 (List.mem_map_of_mem hrow) entry.1 List.mem_cons_self heq
      generalize r.rows = rows at hnot
      induction rows with
      | nil => rfl
      | cons row rows ih =>
        rw [putRow, if_neg (hnot row List.mem_cons_self), ih fun row' h' => hnot row' (List.mem_cons_of_mem _ h')]
        rfl
    rw [List.foldl_cons, ih, hput, List.append_assoc]
    · rfl
    · rw [hput, List.append_assoc]
      exact h

/-- Entries with different keys are the rows of their object. -/
theorem ofEntries_rows {α : Type} {entries : List (String × α)} (h : (entries.map Prod.fst).Nodup) :
    (Record.ofEntries entries).rows = entries :=
  foldl_put_rows entries .empty h

theorem texts_map (rows : List (String × String)) :
    texts (rows.map fun entry => (entry.1, .string entry.2)) = some rows := by
  induction rows with
  | nil => rfl
  | cons row rows ih => simp [texts, ih]

theorem stringMap_textsJson (r : Record String) (code : String) : stringMap (textsJson r) code = .ok r := by
  have hkeys : ((r.rows.map fun entry => (entry.1, Json.string entry.2)).map Prod.fst).Nodup := by
    rw [List.map_map]
    exact r.nodup
  unfold stringMap textsJson record
  rw [bind_ok]
  refine ⟨_, rfl, ?_⟩
  split
  · next rows hrows =>
    rw [ofEntries_rows hkeys, texts_map] at hrows
    obtain rfl := Option.some.inj hrows
    rfl
  · next hnone =>
    rw [ofEntries_rows hkeys, texts_map] at hnone
    cases hnone

/-! ## What is accepted -/

/-- An integer in its range. -/
def InRange (minimum maximum value : ℚ) : Prop :=
  isSafeInteger value = true ∧ minimum ≤ value ∧ value ≤ maximum

structure ValidEnvironment (environment : Record String) : Prop where
  few : environment.rows.length ≤ 128
  entries : ∀ entry ∈ environment.rows, environmentEntry [] entry = .ok ()
  small : byteLength environment.rows ≤ ENVIRONMENT_MAX_BYTES

structure ValidConfigFiles (configFiles : Record String) : Prop where
  few : configFiles.rows.length ≤ 128
  files : ∀ entry ∈ configFiles.rows, configFile entry = true
  small : byteLength configFiles.rows ≤ CONFIG_FILES_MAX_BYTES

/-- A policy all of whose fields pass their checks, as they are stored. -/
structure Valid (policy : ProvisioningPolicy) : Prop where
  defaultAppId : validAppId policy.defaultAppId = true
  idleStopMinutes : InRange 0 10080 policy.idleStopMinutes
  maxTotalInstances : InRange 1 10000 policy.maxTotalInstances
  maxRunningInstances : InRange 1 10000 policy.maxRunningInstances
  running : policy.maxRunningInstances ≤ policy.maxTotalInstances
  memory : validMemory policy.resources.memory = true
  memoryTrimmed : trim policy.resources.memory = policy.resources.memory
  cpus : validCpus policy.resources.cpus = true
  cpusTrimmed : trim policy.resources.cpus = policy.resources.cpus
  pidsLimit : InRange 32 1048576 policy.resources.pidsLimit
  environment : ValidEnvironment policy.environment
  configFiles : ValidConfigFiles policy.configFiles

theorem validateEnvironment_textsJson {environment : Record String} (h : ValidEnvironment environment) :
    validateEnvironment (textsJson environment) [] = .ok environment := by
  rw [validateEnvironment, bind_ok]
  refine ⟨environment, stringMap_textsJson _ _, ?_⟩
  simp only [check_bind_ok, ensure_ok, decide_eq_true_eq, forM_ok, mem_entries, byteLength_entries]
  exact ⟨h.few, h.entries, h.small, rfl⟩

theorem validateConfigFiles_textsJson {configFiles : Record String} (h : ValidConfigFiles configFiles) :
    validateConfigFiles (textsJson configFiles) = .ok configFiles := by
  rw [validateConfigFiles, bind_ok]
  refine ⟨configFiles, stringMap_textsJson _ _, ?_⟩
  simp only [check_bind_ok, ensure_ok, decide_eq_true_eq, forM_ok, mem_entries, byteLength_entries]
  exact ⟨h.few, h.files, h.small, rfl⟩

/-- The characters of an App's id. -/
theorem appIdChar {value : String} (h : validAppId value = true) {c : Char} (hc : c ∈ value.toList) :
    c.isLower = true ∨ c.isDigit = true ∨ c = '.' ∨ c = '_' ∨ c = '-' := by
  unfold validAppId at h
  split at h
  · cases h
  · next first rest heq =>
    simp only [Bool.and_eq_true, Bool.or_eq_true, List.all_eq_true, decide_eq_true_eq] at h
    obtain ⟨⟨hfirst, -⟩, hrest⟩ := h
    rw [heq] at hc
    rcases List.mem_cons.1 hc with rfl | hc
    · rcases hfirst with h | h
      · exact .inl h
      · exact .inr (.inl h)
    · rcases hrest c hc with (((h | h) | h) | h) | h
      · exact .inl h
      · exact .inr (.inl h)
      · exact .inr (.inr (.inl h))
      · exact .inr (.inr (.inr (.inl h)))
      · exact .inr (.inr (.inr (.inr h)))

/-- Neither trimming nor lowering changes the id of an App. -/
theorem appId_normal {value : String} (h : validAppId value = true) : toLowerCase (trim value) = value := by
  have hrange : ∀ c ∈ value.toList, 45 ≤ c.toNat ∧ c.toNat ≤ 122 ∧ (c.toNat ≤ 57 ∨ c.toNat = 95 ∨ 97 ≤ c.toNat) := by
    intro c hc
    rcases appIdChar h hc with hlower | hdigit | rfl | rfl | rfl
    · have := isLower_iff.1 hlower
      omega
    · have := digit_toNat hdigit
      omega
    all_goals decide
  rw [trim_of_all]
  · apply String.toList_inj.1
    rw [toLowerCase, String.toList_ofList]
    conv_rhs => rw [← List.map_id value.toList]
    refine List.map_congr_left fun c hc => ?_
    have hc := hrange c hc
    rw [if_neg (by omega)]
    have hupper : ¬ (65 ≤ c.toNat ∧ c.toNat ≤ 90) := by omega
    unfold Char.toLower
    exact dif_neg hupper
  · intro c hc
    have hc := hrange c hc
    unfold isWhitespace
    simp only [List.mem_cons, List.not_mem_nil, or_false, Bool.or_eq_false_iff, decide_eq_false_iff_not,
      Bool.and_eq_false_iff]
    omega

theorem truthy_trim {value : String} {check : String → Bool} (h : check value = true) (hempty : check "" = false)
    (htrimmed : trim value = value) : truthy (trim value) = true := by
  rw [htrimmed]
  refine decide_eq_true fun heq => ?_
  rw [heq, hempty] at h
  cases h

theorem stringValue_given {value : String} (h : truthy (trim value) = true) (fallback code : String) :
    stringValue (some (.string value)) fallback code = .ok value :=
  if_pos h

theorem integerValue_given {minimum maximum value : ℚ} (h : InRange minimum maximum value) (fallback : ℚ) (code : String) :
    integerValue (some (.number value)) fallback minimum maximum code = .ok value :=
  if_pos h

/-- An object that has just the keys that are known. -/
theorem knownKeys_ofEntries {entries : List (String × Json)} {keys : List String} (hkeys : entries.map Prod.fst = keys)
    (hnodup : keys.Nodup) (code : String) : knownKeys (Record.ofEntries entries) keys code = .ok () := by
  refine forM_ok.2 fun key hkey => ensure_ok.2 ?_
  obtain ⟨entry, hentry, rfl⟩ := List.mem_map.1 hkey
  rw [mem_entries, ofEntries_rows (hkeys ▸ hnodup)] at hentry
  exact List.contains_iff_mem.2 (hkeys ▸ List.mem_map_of_mem hentry)

theorem field_ofEntries {entries : List (String × Json)} {key : String} {value : Json}
    (hnodup : (entries.map Prod.fst).Nodup) (hmem : (key, value) ∈ entries) :
    (Record.ofEntries entries).field key = some value := by
  have hget : (Record.ofEntries entries).get key = some (key, value) :=
    Table.get_eq_some.2 ⟨by rw [ofEntries_rows hnodup]; exact hmem, rfl⟩
  rw [Record.field, hget]
  rfl

section Complete

variable {policy : ProvisioningPolicy}

theorem resources_keys (resources : Resources) :
    (resourcesEntries resources).map Prod.fst = ["memory", "cpus", "pidsLimit"] := rfl

theorem policy_keys (policy : ProvisioningPolicy) : (policyEntries policy).map Prod.fst = POLICY_KEYS := rfl

theorem updatedResources_complete (hvalid : Valid policy) (current : Resources) :
    updatedResources current (Record.ofEntries (resourcesEntries policy.resources)) = .ok policy.resources := by
  have field (key : String) (value : Json) (hmem : (key, value) ∈ resourcesEntries policy.resources) :
      (Record.ofEntries (resourcesEntries policy.resources)).field key = some value :=
    field_ofEntries (by rw [resources_keys]; decide) hmem
  simp only [updatedResources, bind_ok, field "memory" (.string policy.resources.memory) (by simp [resourcesEntries]),
    field "cpus" (.string policy.resources.cpus) (by simp [resourcesEntries]),
    field "pidsLimit" (.number policy.resources.pidsLimit) (by simp [resourcesEntries])]
  refine ⟨policy.resources.memory, ?_, policy.resources.cpus, ?_, policy.resources.pidsLimit, ?_, ?_⟩
  · exact stringValue_given (truthy_trim hvalid.memory (by decide +kernel) hvalid.memoryTrimmed) _ _
  · exact stringValue_given (truthy_trim hvalid.cpus (by decide +kernel) hvalid.cpusTrimmed) _ _
  · exact integerValue_given hvalid.pidsLimit _ _
  · rw [hvalid.memoryTrimmed, hvalid.cpusTrimmed]
    rfl

theorem defaultAppId_truthy (hvalid : Valid policy) : truthy (trim policy.defaultAppId) = true := by
  refine decide_eq_true fun hempty => ?_
  have happId := hvalid.defaultAppId
  rw [← appId_normal happId, hempty] at happId
  exact absurd happId (by decide +kernel)

theorem patchedPolicy_complete (hvalid : Valid policy) (current : ProvisioningPolicy) :
    patchedPolicy current (Record.ofEntries (policyEntries policy)) (Record.ofEntries (resourcesEntries policy.resources)) [] =
      .ok policy := by
  have fields : ∀ entry ∈ policyEntries policy, (Record.ofEntries (policyEntries policy)).field entry.1 = some entry.2 :=
    fun entry hmem => field_ofEntries (by rw [policy_keys]; decide) hmem
  generalize Record.ofEntries (policyEntries policy) = patch at fields
  simp only [policyEntries, List.forall_mem_cons] at fields
  obtain ⟨hcreate, happ, hstart, hwake, hblock, hidle, hnetwork, hcompute, htotal, hrunning, -, henvironment, hfiles, -⟩ :=
    fields
  simp only [patchedPolicy, updatedEnvironment, updatedConfigFiles, bind_ok, hcreate, happ, hstart, hwake, hblock,
    hidle, hnetwork, hcompute, htotal, hrunning, henvironment, hfiles]
  refine ⟨_, rfl, _, stringValue_given (defaultAppId_truthy hvalid) _ _, _, rfl, _, rfl, _, rfl, _,
    integerValue_given hvalid.idleStopMinutes _ _, _, rfl, _, rfl, _, integerValue_given hvalid.maxTotalInstances _ _, _,
    integerValue_given hvalid.maxRunningInstances _ _, _, updatedResources_complete hvalid _, _,
    validateEnvironment_textsJson hvalid.environment, _, validateConfigFiles_textsJson hvalid.configFiles, ?_⟩
  rw [appId_normal hvalid.defaultAppId]
  rfl

/-- A complete valid policy, laid over any policy, is the policy. -/
theorem updateProvisioningPolicy_complete (hvalid : Valid policy) (current : ProvisioningPolicy) :
    updateProvisioningPolicy current (policyJson policy) [] = .ok policy := by
  rw [updateProvisioningPolicy, bind_ok]
  refine ⟨_, rfl, check_bind_ok.2 ⟨knownKeys_ofEntries (policy_keys policy) (by decide) _, ?_⟩⟩
  refine bind_ok.2 ⟨Record.ofEntries (resourcesEntries policy.resources), ?_,
    check_bind_ok.2 ⟨knownKeys_ofEntries (resources_keys _) (by decide) _, ?_⟩⟩
  · have hfield : (Record.ofEntries (policyEntries policy)).field "resources" =
        some (.object (resourcesEntries policy.resources)) :=
      field_ofEntries (by rw [policy_keys]; decide) (by simp [policyEntries])
    rw [resourcesPatch, hfield]
    rfl
  · refine bind_ok.2 ⟨policy, patchedPolicy_complete hvalid current, check_bind_ok.2 ⟨?_, rfl⟩⟩
    simp only [checkPolicy, check_bind_ok, ensure_ok, decide_eq_true_eq]
    exact ⟨hvalid.defaultAppId, hvalid.running, hvalid.memory, hvalid.cpus⟩

theorem inRange_of_ok {given : Option Json} {fallback minimum maximum value : ℚ} {code : String}
    (hfallback : InRange minimum maximum fallback) (h : integerValue given fallback minimum maximum code = .ok value) :
    InRange minimum maximum value := by
  rcases integerValue_ok h with ⟨-, rfl⟩ | ⟨-, hrange⟩
  · exact hfallback
  · exact hrange

/-- Names that are free where more names are reserved are free where fewer are. -/
theorem validEnvironment_of_ok {value : Json} {reserved : List String} {environment : Record String}
    (h : validateEnvironment value reserved = .ok environment) : ValidEnvironment environment := by
  rw [validateEnvironment, bind_ok] at h
  obtain ⟨environment', -, h⟩ := h
  simp only [check_bind_ok, ensure_ok, decide_eq_true_eq, forM_ok, mem_entries, byteLength_entries] at h
  obtain ⟨hfew, hentries, hsmall, hpure⟩ := h
  cases hpure
  refine ⟨hfew, fun entry hentry => ?_, hsmall⟩
  have hcheck := hentries entry hentry
  simp only [environmentEntry, check_bind_ok, ensure_ok, isRuntimeReservedEnvironmentName, Bool.and_eq_true,
    Bool.not_eq_true', Bool.or_eq_false_iff] at hcheck ⊢
  exact ⟨⟨hcheck.1.1, hcheck.1.2.1, rfl⟩, hcheck.2⟩

theorem validConfigFiles_of_ok {value : Json} {configFiles : Record String}
    (h : validateConfigFiles value = .ok configFiles) : ValidConfigFiles configFiles := by
  rw [validateConfigFiles, bind_ok] at h
  obtain ⟨configFiles', -, h⟩ := h
  simp only [check_bind_ok, ensure_ok, decide_eq_true_eq, forM_ok, mem_entries, byteLength_entries] at h
  obtain ⟨hfew, hfiles, hsmall, hpure⟩ := h
  cases hpure
  exact ⟨hfew, hfiles, hsmall⟩

/-- What the editor makes of a valid policy is valid. -/
theorem valid_of_update {current : ProvisioningPolicy} (hcurrent : Valid current) {input : Json} {reserved : List String}
    (h : updateProvisioningPolicy current input reserved = .ok policy) : Valid policy := by
  rw [updateProvisioningPolicy, bind_ok] at h
  obtain ⟨patch, -, h⟩ := h
  obtain ⟨-, h⟩ := check_bind_ok.1 h
  obtain ⟨resources, -, h⟩ := bind_ok.1 h
  obtain ⟨-, h⟩ := check_bind_ok.1 h
  obtain ⟨policy', hpolicy, h⟩ := bind_ok.1 h
  obtain ⟨hcheck, hpure⟩ := check_bind_ok.1 h
  cases hpure
  simp only [checkPolicy, check_bind_ok, ensure_ok, decide_eq_true_eq] at hcheck
  obtain ⟨happId, hlimits, hmemory, hcpus⟩ := hcheck
  simp only [patchedPolicy, bind_ok] at hpolicy
  obtain ⟨_, -, _, -, _, -, _, -, _, -, idle, hidle, _, -, _, -, total, htotal, running, hrunning, resources', hresources,
    environment, henvironment, configFiles, hfiles, hpure⟩ := hpolicy
  cases hpure
  simp only [updatedResources, bind_ok] at hresources
  obtain ⟨memory, -, cpus, -, pidsLimit, hpids, hpure⟩ := hresources
  cases hpure
  refine ⟨happId, inRange_of_ok hcurrent.idleStopMinutes hidle, inRange_of_ok hcurrent.maxTotalInstances htotal,
    inRange_of_ok hcurrent.maxRunningInstances hrunning, hlimits, hmemory, trim_trim _, hcpus, trim_trim _,
    inRange_of_ok hcurrent.pidsLimit hpids, ?_, ?_⟩
  · unfold updatedEnvironment at henvironment
    split at henvironment
    · cases henvironment
      exact hcurrent.environment
    · exact validEnvironment_of_ok henvironment
  · unfold updatedConfigFiles at hfiles
    split at hfiles
    · cases hfiles
      exact hcurrent.configFiles
    · exact validConfigFiles_of_ok hfiles

end Complete

end OpenApp.Policy
