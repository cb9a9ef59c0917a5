import Mathlib.Tactic.Linarith
import OpenApp.Fallible
import OpenApp.Policy.LaunchChecks

/-!
# Which policies can be run

A policy that is accepted is looked at once more when an instance is launched. The runtime has a narrower
view of variables, and the provider of numbers; and what a patch leaves out was never looked at again.
-/

namespace OpenApp.Policy

open Fallible Keyed Script

/-! ## Checks in a row -/

theorem ensure_ok {ok : Bool} {error : InstancePolicyError} : ensure ok error = .ok () ↔ ok = true := by
  cases ok <;> simp [ensure]

theorem require_ok {ok : Bool} {message : String} : require ok message = .ok () ↔ ok = true := by
  cases ok <;> simp [require]

theorem entries_perm {α : Type} (r : Record α) : r.entries.Perm r.rows :=
  List.perm_insertionSort _ _

@[simp] theorem mem_entries {α : Type} {r : Record α} {entry : String × α} : entry ∈ r.entries ↔ entry ∈ r.rows :=
  (entries_perm r).mem_iff

@[simp] theorem length_entries {α : Type} (r : Record α) : r.entries.length = r.rows.length :=
  (entries_perm r).length_eq

/-! ## Environments -/

/-- What the runtime wants of a variable. -/
structure LaunchableVariable (runtime : RuntimeProfile) (entry : String × String) : Prop where
  name : environmentName entry.1 = true
  short : entry.1.toList.length ≤ 128
  free : isRuntimeReservedEnvironmentName entry.1 (runtimeReservedEnvironmentNames runtime) = false
  plain : hasControl entry.2 = false
  small : entry.2.utf8ByteSize ≤ ENVIRONMENT_VALUE_MAX_BYTES

structure LaunchableEnvironment (runtime : RuntimeProfile) (environment : Record String) : Prop where
  few : environment.rows.length ≤ 128
  entries : ∀ entry ∈ environment.rows, LaunchableVariable runtime entry
  small : byteLength environment.rows ≤ ENVIRONMENT_MAX_BYTES

theorem byteLength_entries (r : Record String) : byteLength r.entries = byteLength r.rows := by
  unfold byteLength
  exact ((entries_perm r).map _).sum_nat

theorem launchEnvironmentEntry_ok {runtime : RuntimeProfile} {entry : String × String} :
    launchEnvironmentEntry runtime entry = .ok () ↔ LaunchableVariable runtime entry := by
  simp only [launchEnvironmentEntry, ENVIRONMENT_NAME_PATTERN, check_bind_ok, require_ok, Bool.and_eq_true,
    Bool.not_eq_true', decide_eq_true_eq]
  constructor
  · rintro ⟨⟨⟨hname, hshort⟩, hfree⟩, hplain, hsmall⟩
    exact ⟨hname, hshort, hfree, hplain, hsmall⟩
  · rintro ⟨hname, hshort, hfree, hplain, hsmall⟩
    exact ⟨⟨⟨hname, hshort⟩, hfree⟩, hplain, hsmall⟩

theorem launchEnvironment_ok {runtime : RuntimeProfile} {environment : Record String} :
    launchEnvironment runtime environment = .ok () ↔ LaunchableEnvironment runtime environment := by
  simp only [launchEnvironment, check_bind_ok, require_ok, decide_eq_true_eq, forM_ok, mem_entries, length_entries,
    byteLength_entries, launchEnvironmentEntry_ok]
  constructor
  · rintro ⟨hfew, hentries, hsmall⟩
    exact ⟨hfew, hentries, hsmall⟩
  · rintro ⟨hfew, hentries, hsmall⟩
    exact ⟨hfew, hentries, hsmall⟩

/-- What the editor makes of an environment: the record of its texts, with names that are free. -/
structure EditedEnvironment (value : Json) (reserved : List String) (environment : Record String) : Prop where
  few : environment.rows.length ≤ 128
  names : ∀ entry ∈ environment.rows, environmentName entry.1 = true
  free : ∀ entry ∈ environment.rows, isRuntimeReservedEnvironmentName entry.1 reserved = false
  small : byteLength environment.rows ≤ ENVIRONMENT_MAX_BYTES

theorem validateEnvironment_ok {value : Json} {reserved : List String} {environment : Record String}
    (h : validateEnvironment value reserved = .ok environment) :
    stringMap value "invalid_environment" = .ok environment ∧ EditedEnvironment value reserved environment := by
  rw [validateEnvironment, bind_ok] at h
  obtain ⟨environment', hmap, h⟩ := h
  simp only [check_bind_ok, ensure_ok, decide_eq_true_eq, forM_ok, mem_entries, byteLength_entries] at h
  obtain ⟨hfew, hentries, hsmall, hpure⟩ := h
  cases hpure
  refine ⟨hmap, hfew, ?_, ?_, hsmall⟩
  · intro entry hentry
    have hcheck := hentries entry hentry
    simp only [environmentEntry, check_bind_ok, ensure_ok, Bool.and_eq_true] at hcheck
    exact hcheck.1.1
  · intro entry hentry
    have hcheck := hentries entry hentry
    simp only [environmentEntry, check_bind_ok, ensure_ok, Bool.and_eq_true, Bool.not_eq_true'] at hcheck
    exact hcheck.1.2

/-! ## Config files -/

theorem segmentHere_mem {dots cs : List Char} (hdots : '/' ∉ dots) (h : segmentHere dots cs = true) :
    dots ∈ cs.splitOn '/' := by
  unfold segmentHere at h
  rw [Bool.and_eq_true] at h
  obtain ⟨hfront, hend⟩ := h
  obtain ⟨rest, rfl⟩ := List.isPrefixOf_iff_prefix.1 hfront
  rw [List.drop_left] at hend
  cases rest with
  | nil =>
    rw [List.append_nil, List.splitOn_eq_singleton hdots]
    exact List.mem_singleton_self dots
  | cons c rest =>
    have hc : c = '/' := by simpa using hend
    subst hc
    rw [List.splitOn_append_cons_self_of_not_mem hdots]
    exact List.mem_cons_self

theorem segmentLater_split {dots cs : List Char} (h : segmentLater dots cs = true) :
    ∃ before after, cs = before ++ '/' :: after ∧ segmentHere dots after = true := by
  induction cs with
  | nil => cases h
  | cons c cs ih =>
    simp only [segmentLater, Bool.or_eq_true, Bool.and_eq_true, decide_eq_true_eq] at h
    rcases h with ⟨rfl, hhere⟩ | ⟨-, hlater⟩
    · exact ⟨[], cs, rfl, hhere⟩
    · obtain ⟨before, after, rfl, hhere⟩ := ih hlater
      exact ⟨c :: before, after, rfl, hhere⟩

/-- Where no part is these dots, the pattern sees none. -/
theorem hasSegment_eq_false {dots cs : List Char} (hdots : '/' ∉ dots) (h : dots ∉ cs.splitOn '/') :
    hasSegment dots cs = false := by
  unfold hasSegment
  rw [Bool.or_eq_false_iff, ← Bool.not_eq_true, ← Bool.not_eq_true]
  constructor
  · intro hhere
    exact h (segmentHere_mem hdots hhere)
  · intro hlater
    obtain ⟨before, after, rfl, hhere⟩ := segmentLater_split hlater
    apply h
    rw [List.splitOn_append_cons_self]
    exact List.mem_append_right _ (segmentHere_mem hdots hhere)

/-- What the runtime wants of a config file. -/
def launchableFile (path content : String) : Bool :=
  (CONFIG_PATH_PATTERN path && path.toList.getLast? ≠ some '/' && (pathParts path).all (· ≠ [])) &&
    !containsNul content

/-- A path the editor accepts is safe for the runtime. -/
theorem launchable_of_configFile {entry : String × String} (h : configFile entry = true) :
    launchableFile entry.1 entry.2 = true := by
  obtain ⟨path, content⟩ := entry
  simp only [configFile, Bool.and_eq_true, Bool.not_eq_true', List.all_eq_true, decide_eq_true_eq, ne_eq] at h
  obtain ⟨⟨⟨⟨⟨hne, hhead⟩, hback⟩, hnul⟩, hparts⟩, hcontent⟩ := h
  have hdot : hasSegment ['.'] path.toList = false := by
    apply hasSegment_eq_false (by decide)
    intro hmem
    exact (hparts _ hmem).1.2 rfl
  have hdots : hasSegment ['.', '.'] path.toList = false := by
    apply hasSegment_eq_false (by decide)
    intro hmem
    exact (hparts _ hmem).2 rfl
  have hlast : path.toList.getLast? ≠ some '/' := by
    intro hlast
    obtain ⟨before, hbefore⟩ := List.getLast?_eq_some_iff.1 hlast
    have hmem : ([] : List Char) ∈ pathParts path := by
      rw [pathParts, hbefore, List.splitOn_append_cons_self]
      simp
    exact (hparts _ hmem).1.1 rfl
  have hchars : path.toList.all (fun c => c ≠ '\\' && c ≠ '\x00') = true := by
    simp only [List.all_eq_true, Bool.and_eq_true, decide_eq_true_eq]
    intro c hc
    constructor
    · rintro rfl
      simp [hc] at hback
    · rintro rfl
      simp [containsNul, hc] at hnul
  have hnonempty : path.toList ≠ [] := by
    intro hnil
    exact hne (String.toList_eq_nil_iff.1 hnil)
  simp only [launchableFile, CONFIG_PATH_PATTERN, hdot, hdots, hchars, hcontent, Bool.and_eq_true, Bool.not_false,
    decide_eq_true_eq, ne_eq, List.all_eq_true]
  refine ⟨⟨⟨⟨⟨⟨⟨hhead, trivial⟩, trivial⟩, hnonempty⟩, trivial⟩, hlast⟩, ?_⟩, trivial⟩
  intro part hpart
  exact (hparts part hpart).1.1

theorem launchConfigFiles_ok {configPaths : List String} {files : List ContainerConfigFile} :
    launchConfigFiles configPaths files = .ok () ↔
      (∀ file ∈ files, launchableFile file.path file.content = true) ∧ (∀ file ∈ files, file.path ∉ configPaths) ∧
        (files.map fun file => file.path).Nodup := by
  induction files generalizing configPaths with
  | nil => simp [launchConfigFiles]
  | cons file files ih =>
    have hnot : ∀ f : ContainerConfigFile, f.path ∉ file.path :: configPaths ↔ f.path ≠ file.path ∧ f.path ∉ configPaths := by
      intro f
      rw [List.mem_cons, not_or]
    simp only [launchConfigFiles, check_bind_ok, require_ok, ih, List.forall_mem_cons, List.map_cons, List.nodup_cons,
      List.mem_map, Bool.not_eq_true', List.contains_eq_mem, decide_eq_false_iff_not, hnot, launchableFile,
      Bool.and_eq_true (_ && _)]
    constructor
    · rintro ⟨hsafe, hcontent, hnew, hall, hpaths, hnodup⟩
      refine ⟨⟨⟨hsafe, hcontent⟩, hall⟩, ⟨hnew, fun f hf => (hpaths f hf).2⟩, ?_, hnodup⟩
      rintro ⟨f, hf, heq⟩
      exact (hpaths f hf).1 heq
    · rintro ⟨⟨⟨hsafe, hcontent⟩, hall⟩, ⟨hnew, hpaths⟩, hfresh, hnodup⟩
      refine ⟨hsafe, hcontent, hnew, hall, ?_, hnodup⟩
      intro f hf
      exact ⟨fun heq => hfresh ⟨f, hf, heq⟩, hpaths f hf⟩

/-- The config files of a policy that the runtime accepts. -/
structure LaunchableFiles (configFiles : Record String) : Prop where
  few : configFiles.rows.length ≤ 128
  files : ∀ entry ∈ configFiles.rows, launchableFile entry.1 entry.2 = true
  small : byteLength configFiles.rows ≤ CONFIG_FILES_MAX_BYTES

theorem validateConfigFiles_ok {value : Json} {configFiles : Record String}
    (h : validateConfigFiles value = .ok configFiles) : LaunchableFiles configFiles := by
  rw [validateConfigFiles, bind_ok] at h
  obtain ⟨configFiles', -, h⟩ := h
  simp only [check_bind_ok, ensure_ok, decide_eq_true_eq, forM_ok, mem_entries, byteLength_entries] at h
  obtain ⟨hfew, hentries, hsmall, hpure⟩ := h
  cases hpure
  exact ⟨hfew, fun entry hentry => launchable_of_configFile (hentries entry hentry), hsmall⟩

/-! ## Launches -/

/-- The files of a profile are those of the policy, in another order. -/
theorem configFiles_perm (localeBefore : String → String → Bool) (policy : ProvisioningPolicy) (image : String) :
    (toLaunchProfile localeBefore policy image).configFiles.Perm
      (policy.configFiles.rows.map fun entry => ⟨entry.1, entry.2⟩) := by
  apply List.Perm.map
  exact (List.perm_insertionSort _ _).trans (entries_perm policy.configFiles)

theorem launchFiles_ok {localeBefore : String → String → Bool} {policy : ProvisioningPolicy} {image : String} :
    (toLaunchProfile localeBefore policy image).configFiles.length ≤ 128 ∧
        launchConfigFiles [] (toLaunchProfile localeBefore policy image).configFiles = .ok () ∧
          configBytes (toLaunchProfile localeBefore policy image).configFiles ≤ CONFIG_FILES_MAX_BYTES ↔
      LaunchableFiles policy.configFiles := by
  have hperm := configFiles_perm localeBefore policy image
  generalize (toLaunchProfile localeBefore policy image).configFiles = files at hperm
  have hlength : files.length = policy.configFiles.rows.length := by
    rw [hperm.length_eq, List.length_map]
  have hbytes : configBytes files = byteLength policy.configFiles.rows := by
    unfold configBytes byteLength
    rw [(hperm.map _).sum_nat, List.map_map]
    rfl
  have hpaths : (files.map fun file => file.path).Nodup := by
    rw [(hperm.map _).nodup_iff, List.map_map]
    exact policy.configFiles.nodup
  have hfiles : (∀ file ∈ files, launchableFile file.path file.content = true) ↔
      ∀ entry ∈ policy.configFiles.rows, launchableFile entry.1 entry.2 = true := by
    constructor
    · intro h entry hentry
      exact h ⟨entry.1, entry.2⟩ (hperm.mem_iff.2 (List.mem_map_of_mem hentry))
    · intro h file hfile
      obtain ⟨entry, hentry, rfl⟩ := List.mem_map.1 (hperm.mem_iff.1 hfile)
      exact h entry hentry
  rw [launchConfigFiles_ok, hlength, hbytes, hfiles]
  constructor
  · rintro ⟨hfew, ⟨hall, -, -⟩, hsmall⟩
    exact ⟨hfew, hall, hsmall⟩
  · rintro ⟨hfew, hall, hsmall⟩
    exact ⟨hfew, ⟨hall, fun file _ => by simp, hpaths⟩, hsmall⟩

/-- The number of processes a container may be given. -/
def validPidsLimit (pidsLimit : ℚ) : Bool :=
  isSafeInteger pidsLimit && 32 ≤ pidsLimit && pidsLimit ≤ 1048576

theorem launchProfile_ok {runtime : RuntimeProfile} {localeBefore : String → String → Bool}
    {policy : ProvisioningPolicy} {image : String} (himage : imageReference image = true)
    (hmemory : validMemory policy.resources.memory = true) (hcpus : validCpus policy.resources.cpus = true) :
    (∃ profile, launchProfile runtime (toLaunchProfile localeBefore policy image) = .ok profile) ↔
      validPidsLimit policy.resources.pidsLimit = true ∧ LaunchableEnvironment runtime policy.environment ∧
        LaunchableFiles policy.configFiles := by
  have hfiles := @launchFiles_ok localeBefore policy image
  have hpids : validPidsLimit policy.resources.pidsLimit = true ↔
      (isSafeInteger policy.resources.pidsLimit = true ∧ 32 ≤ policy.resources.pidsLimit) ∧
        policy.resources.pidsLimit ≤ 1048576 := by
    simp only [validPidsLimit, Bool.and_eq_true, decide_eq_true_eq]
  constructor
  · rintro ⟨profile, h⟩
    simp only [launchProfile, check_bind_ok, require_ok, decide_eq_true_eq, Bool.and_eq_true] at h
    obtain ⟨-, -, -, hlimit, henvironment, hfew, hconfig, hsmall, -⟩ := h
    exact ⟨hpids.2 hlimit, launchEnvironment_ok.1 henvironment, hfiles.1 ⟨hfew, hconfig, hsmall⟩⟩
  · rintro ⟨hlimit, henvironment, hlaunchable⟩
    obtain ⟨hfew, hconfig, hsmall⟩ := hfiles.2 hlaunchable
    refine ⟨toLaunchProfile localeBefore policy image, ?_⟩
    simp only [launchProfile, check_bind_ok, require_ok, decide_eq_true_eq, Bool.and_eq_true]
    exact ⟨himage, hmemory, hcpus, hpids.1 hlimit, launchEnvironment_ok.2 henvironment, hfew, hconfig, hsmall, rfl⟩

/-! ## Limits of a provider -/

theorem truthy_iff {text : String} : truthy text = true ↔ text.toList ≠ [] := by
  rw [ne_eq, String.toList_eq_nil_iff]
  simp [truthy]

theorem truthy_of_scan {text : String} {found : ℚ × List Char} (h : scanDecimal text.toList = some found) :
    truthy text = true := by
  rw [truthy_iff]
  intro hnil
  rw [hnil] at h
  cases h

/-- A limit on memory that is valid is a number of bytes, and a provider takes it if that is a whole one. -/
theorem parseMemoryBytes_isSome {memory : String} (hvalid : validMemory (trim memory) = true) :
    (∃ n, parseMemoryBytes (trim memory) = some n) ↔ ∃ n : ℕ, memoryBytes (trim memory) = some (n : ℚ) := by
  unfold validMemory at hvalid
  rw [parseMemoryBytes, trim_trim]
  cases hbytes : memoryBytes (trim memory) with
  | none => simp
  | some bytes =>
    rw [hbytes, Option.any_some] at hvalid
    simp only [Bool.and_eq_true, decide_eq_true_eq] at hvalid
    unfold MAX_MEMORY_BYTES at hvalid
    rw [Option.bind_some, safeNatural_isSome hvalid.1 (by linarith [hvalid.2])]
    simp only [Option.some.injEq]

/-- A number of CPUs, in thousandths. -/
def cpuMillis (cpus : String) : Option ℚ :=
  (plainDecimal cpus).map (· * 1000)

theorem parseCpuMillis_isSome {cpus : String} (hvalid : validCpus (trim cpus) = true) :
    (∃ n, parseCpuMillis (trim cpus) = some n) ↔ ∃ n : ℕ, cpuMillis (trim cpus) = some (n : ℚ) := by
  unfold parseCpuMillis cpuMillis
  rw [trim_trim]
  cases hplain : plainDecimal (trim cpus) with
  | none => simp
  | some value =>
    unfold validCpus at hvalid
    rw [toNumber_of_plainDecimal hplain, Option.any_some] at hvalid
    simp only [Bool.and_eq_true, decide_eq_true_eq] at hvalid
    rw [Option.bind_some, safeNatural_isSome (by linarith [hvalid.1]) (by linarith [hvalid.2])]
    simp only [Option.map_some, Option.some.injEq]

theorem truthy_of_memoryBytes {memory : String} {bytes : ℚ} (h : memoryBytes memory = some bytes) :
    truthy memory = true := by
  obtain ⟨found, hfound, -⟩ := Option.bind_eq_some_iff.1 h
  exact truthy_of_scan hfound

theorem truthy_of_cpuMillis {cpus : String} {millis : ℚ} (h : cpuMillis cpus = some millis) : truthy cpus = true := by
  obtain ⟨value, hvalue, -⟩ := Option.map_eq_some_iff.1 h
  unfold plainDecimal at hvalue
  split at hvalue
  · next hscan => exact truthy_of_scan hscan
  · cases hvalue

theorem providerRequest_ok {request : ExecutionRequest} {memory cpus : String}
    (hmemory : request.launchProfile.resources.memory = trim memory)
    (hcpus : request.launchProfile.resources.cpus = trim cpus) (hvalidMemory : validMemory (trim memory) = true)
    (hvalidCpus : validCpus (trim cpus) = true) :
    (∃ contract, providerRequestFromReconcile request = .ok contract) ↔
      (∃ n : ℕ, memoryBytes (trim memory) = some (n : ℚ)) ∧ ∃ n : ℕ, cpuMillis (trim cpus) = some (n : ℚ) := by
  rw [← parseMemoryBytes_isSome hvalidMemory, ← parseCpuMillis_isSome hvalidCpus]
  unfold providerRequestFromReconcile
  dsimp only
  rw [hmemory, hcpus, trim_trim, trim_trim]
  constructor
  · rintro ⟨contract, h⟩
    split at h
    · cases h
    · split at h
      · cases h
      · next n hn =>
        split at h
        · cases h
        · split at h
          · cases h
          · next m hm => exact ⟨⟨n, hn⟩, ⟨m, hm⟩⟩
  · rintro ⟨⟨n, hn⟩, ⟨m, hm⟩⟩
    have hmemoryText : truthy (trim memory) = true := by
      obtain ⟨_, h⟩ := (parseMemoryBytes_isSome hvalidMemory).1 ⟨n, hn⟩
      exact truthy_of_memoryBytes h
    have hcpusText : truthy (trim cpus) = true := by
      obtain ⟨_, h⟩ := (parseCpuMillis_isSome hvalidCpus).1 ⟨m, hm⟩
      exact truthy_of_cpuMillis h
    simp only [hn, hm, hmemoryText, hcpusText, Bool.not_true, Bool.false_eq_true, ↓reduceIte]
    exact ⟨_, rfl⟩

end OpenApp.Policy
