import OpenApp.Policy.Text
import OpenApp.Workspace.Types

/-!
# The policy of the instances

What an administrator sends is laid over the current policy, one field after the other: a field that is
left out keeps its value. Texts that are left out are checked again, as are the sizes of the limits on
memory and CPU; the other fields are not, and neither are the environment and the config files.
-/

namespace OpenApp.Policy

open Keyed Script

/-- What the parser of a body makes. -/
inductive Json
  | null
  | bool (value : Bool)
  | number (value : ℚ)
  | string (value : String)
  | array
  | object (entries : List (String × Json))

structure Resources where
  memory : String
  cpus : String
  pidsLimit : ℚ

structure ProvisioningPolicy where
  autoCreateOnFirstVisit : Bool
  defaultAppId : String
  autoStartOnEnter : Bool
  autoWakeOnRequest : Bool
  blockAutoWakeAfterManualStop : Bool
  idleStopMinutes : ℚ
  detectNetworkActivity : Bool
  detectComputeActivity : Bool
  maxTotalInstances : ℚ
  maxRunningInstances : ℚ
  resources : Resources
  environment : Record String
  configFiles : Record String

/-- The baseline, where the environment of the process configures no limit. -/
def DEFAULT_GENERIC_PROVISIONING_POLICY : ProvisioningPolicy where
  autoCreateOnFirstVisit := true
  defaultAppId := "openapp"
  autoStartOnEnter := true
  autoWakeOnRequest := true
  blockAutoWakeAfterManualStop := true
  idleStopMinutes := 30
  detectNetworkActivity := true
  detectComputeActivity := false
  maxTotalInstances := 100
  maxRunningInstances := 20
  resources := ⟨"4g", "2", 512⟩
  environment := .empty
  configFiles := .empty

structure InstancePolicyError where
  code : String
  status : Nat
  deriving DecidableEq

abbrev Checked (α : Type) := Except InstancePolicyError α

def invalid {α : Type} (code : String) : Checked α :=
  .error ⟨code, 400⟩

def tooLarge {α : Type} (code : String) : Checked α :=
  .error ⟨code, 413⟩

/-- A check that throws, or goes on. -/
def ensure (ok : Bool) (error : InstancePolicyError) : Checked Unit :=
  if ok then .ok () else .error error

/-! ## The fields -/

def record (value : Json) (code : String) : Checked (Record Json) :=
  match value with
  | .object entries => .ok (.ofEntries entries)
  | _ => invalid code

/-- The entries of a record, if every value of them is a text. -/
def texts : List (String × Json) → Option (List (String × String))
  | [] => some []
  | (key, .string value) :: rest => (texts rest).map ((key, value) :: ·)
  | _ => none

/-- The record was made of these texts. -/
theorem texts_eq {rows : List (String × Json)} {entries : List (String × String)} (h : texts rows = some entries) :
    rows = entries.map fun entry => (entry.1, .string entry.2) := by
  induction rows generalizing entries with
  | nil =>
    cases h
    rfl
  | cons row rest ih =>
    obtain ⟨key, value⟩ := row
    cases value with
    | string value =>
      obtain ⟨entries', hrest, rfl⟩ := Option.map_eq_some_iff.1 h
      rw [ih hrest, List.map_cons]
    | _ => cases h

theorem texts_keys {rows : List (String × Json)} {entries : List (String × String)} (h : texts rows = some entries) :
    entries.map Prod.fst = rows.map Prod.fst := by
  rw [texts_eq h, List.map_map]
  rfl

def stringMap (value : Json) (code : String) : Checked (Record String) := do
  let candidate ← record value code
  match h : texts candidate.rows with
  | some entries => .ok ⟨entries, texts_keys h ▸ candidate.nodup⟩
  | none => invalid code

def booleanValue (value : Option Json) (fallback : Bool) (code : String) : Checked Bool :=
  match value with
  | none => .ok fallback
  | some (.bool value) => .ok value
  | some _ => invalid code

def stringValue (value : Option Json) (fallback code : String) : Checked String :=
  match value with
  | none => .ok fallback
  | some (.string value) => if truthy (trim value) then .ok value else invalid code
  | some _ => invalid code

def integerValue (value : Option Json) (fallback minimum maximum : ℚ) (code : String) : Checked ℚ :=
  match value with
  | none => .ok fallback
  | some (.number value) =>
    if isSafeInteger value ∧ minimum ≤ value ∧ value ≤ maximum then .ok value else invalid code
  | some _ => invalid code

/-! ## The environment and the config files -/

def CONFIG_FILES_MAX_BYTES : Nat := 256 * 1024

def ENVIRONMENT_MAX_BYTES : Nat := 64 * 1024

/-- `Buffer.byteLength` of the keys and the values -/
def byteLength (entries : List (String × String)) : Nat :=
  (entries.map fun entry => entry.1.utf8ByteSize + entry.2.utf8ByteSize).sum

def RUNTIME_RESERVED_ENVIRONMENT : List String := ["OPENAPP_CONFIG_FILES_JSON"]

def isRuntimeReservedEnvironmentName (name : String) (additionalReserved : List String) : Bool :=
  RUNTIME_RESERVED_ENVIRONMENT.contains name || additionalReserved.contains name

def environmentEntry (additionalReserved : List String) (entry : String × String) : Checked Unit := do
  ensure (environmentName entry.1 && !isRuntimeReservedEnvironmentName entry.1 additionalReserved)
    ⟨"invalid_environment_key:" ++ entry.1, 400⟩
  ensure (!containsNul entry.2) ⟨"invalid_environment_value:" ++ entry.1, 400⟩

def validateEnvironment (value : Json) (additionalReserved : List String) : Checked (Record String) := do
  let environment ← stringMap value "invalid_environment"
  ensure (environment.rows.length ≤ 128) ⟨"environment_too_large", 413⟩
  environment.entries.forM (environmentEntry additionalReserved)
  ensure (byteLength environment.entries ≤ ENVIRONMENT_MAX_BYTES) ⟨"environment_too_large", 413⟩
  return environment

/-- A path whose parts are names, and a text without NUL. -/
def configFile (entry : String × String) : Bool :=
  entry.1 ≠ "" && entry.1.toList.head? ≠ some '/' && !entry.1.toList.contains '\\' && !containsNul entry.1 &&
    (pathParts entry.1).all (fun part => part ≠ [] && part ≠ ['.'] && part ≠ ['.', '.']) && !containsNul entry.2

def validateConfigFiles (value : Json) : Checked (Record String) := do
  let configFiles ← stringMap value "invalid_config_files"
  ensure (configFiles.rows.length ≤ 128) ⟨"config_files_too_large", 413⟩
  configFiles.entries.forM fun entry => ensure (configFile entry) ⟨"invalid_config_file:" ++ entry.1, 400⟩
  ensure (byteLength configFiles.entries ≤ CONFIG_FILES_MAX_BYTES) ⟨"config_files_too_large", 413⟩
  return configFiles

/-! ## The policy -/

def POLICY_KEYS : List String := [
  "autoCreateOnFirstVisit",
  "defaultAppId",
  "autoStartOnEnter",
  "autoWakeOnRequest",
  "blockAutoWakeAfterManualStop",
  "idleStopMinutes",
  "detectNetworkActivity",
  "detectComputeActivity",
  "maxTotalInstances",
  "maxRunningInstances",
  "resources",
  "environment",
  "configFiles"]

/-- `/^[a-z0-9](?:[a-z0-9._-]{0,63})$/u` -/
def validAppId (value : String) : Bool :=
  match value.toList with
  | [] => false
  | c :: cs =>
    (c.isLower || c.isDigit) && cs.length ≤ 63 &&
      cs.all fun c => c.isLower || c.isDigit || c = '.' || c = '_' || c = '-'

/-- The first key that is none of these is an error. -/
def knownKeys (r : Record Json) (keys : List String) (code : String) : Checked Unit :=
  (r.entries.map Prod.fst).forM fun key => ensure (keys.contains key) ⟨code ++ key, 400⟩

def Record.field (r : Record Json) (key : String) : Option Json :=
  (r.get key).map Prod.snd

def resourcesPatch (patch : Record Json) : Checked (Record Json) :=
  match patch.field "resources" with
  | none => .ok .empty
  | some value => record value "invalid_instance_resources"

def updatedResources (current : Resources) (patch : Record Json) : Checked Resources := do
  let memory ← stringValue (patch.field "memory") current.memory "invalid_memory_limit"
  let cpus ← stringValue (patch.field "cpus") current.cpus "invalid_cpu_limit"
  let pidsLimit ← integerValue (patch.field "pidsLimit") current.pidsLimit 32 1048576 "invalid_pids_limit"
  return ⟨trim memory, trim cpus, pidsLimit⟩

def updatedEnvironment (current : Record String) (patch : Record Json) (additionalReserved : List String) :
    Checked (Record String) :=
  match patch.field "environment" with
  | none => .ok current
  | some value => validateEnvironment value additionalReserved

def updatedConfigFiles (current : Record String) (patch : Record Json) : Checked (Record String) :=
  match patch.field "configFiles" with
  | none => .ok current
  | some value => validateConfigFiles value

/-- The fields in their order, each one from the patch or as it is. -/
def patchedPolicy (current : ProvisioningPolicy) (patch resources : Record Json) (additionalReserved : List String) :
    Checked ProvisioningPolicy := do
  let autoCreateOnFirstVisit ←
    booleanValue (patch.field "autoCreateOnFirstVisit") current.autoCreateOnFirstVisit "invalid_auto_create_policy"
  let defaultAppId ← stringValue (patch.field "defaultAppId") current.defaultAppId "invalid_default_app"
  let autoStartOnEnter ←
    booleanValue (patch.field "autoStartOnEnter") current.autoStartOnEnter "invalid_auto_start_policy"
  let autoWakeOnRequest ←
    booleanValue (patch.field "autoWakeOnRequest") current.autoWakeOnRequest "invalid_auto_wake_policy"
  let blockAutoWakeAfterManualStop ← booleanValue (patch.field "blockAutoWakeAfterManualStop")
    current.blockAutoWakeAfterManualStop "invalid_manual_stop_wake_policy"
  let idleStopMinutes ←
    integerValue (patch.field "idleStopMinutes") current.idleStopMinutes 0 10080 "invalid_idle_stop_minutes"
  let detectNetworkActivity ← booleanValue (patch.field "detectNetworkActivity") current.detectNetworkActivity
    "invalid_network_activity_detection"
  let detectComputeActivity ← booleanValue (patch.field "detectComputeActivity") current.detectComputeActivity
    "invalid_compute_activity_detection"
  let maxTotalInstances ←
    integerValue (patch.field "maxTotalInstances") current.maxTotalInstances 1 10000 "invalid_total_instance_limit"
  let maxRunningInstances ← integerValue (patch.field "maxRunningInstances") current.maxRunningInstances 1 10000
    "invalid_running_instance_limit"
  let resources ← updatedResources current.resources resources
  let environment ← updatedEnvironment current.environment patch additionalReserved
  let configFiles ← updatedConfigFiles current.configFiles patch
  return {
    autoCreateOnFirstVisit := autoCreateOnFirstVisit
    defaultAppId := toLowerCase (trim defaultAppId)
    autoStartOnEnter := autoStartOnEnter
    autoWakeOnRequest := autoWakeOnRequest
    blockAutoWakeAfterManualStop := blockAutoWakeAfterManualStop
    idleStopMinutes := idleStopMinutes
    detectNetworkActivity := detectNetworkActivity
    detectComputeActivity := detectComputeActivity
    maxTotalInstances := maxTotalInstances
    maxRunningInstances := maxRunningInstances
    resources := resources
    environment := environment
    configFiles := configFiles }

/-- What is checked of the policy as a whole. -/
def checkPolicy (policy : ProvisioningPolicy) : Checked Unit := do
  ensure (validAppId policy.defaultAppId) ⟨"unsupported_default_app", 400⟩
  ensure (policy.maxRunningInstances ≤ policy.maxTotalInstances) ⟨"running_limit_exceeds_total_limit", 400⟩
  ensure (validMemory policy.resources.memory) ⟨"invalid_memory_limit", 400⟩
  ensure (validCpus policy.resources.cpus) ⟨"invalid_cpu_limit", 400⟩

def updateProvisioningPolicy (current : ProvisioningPolicy) (input : Json) (additionalReserved : List String) :
    Checked ProvisioningPolicy := do
  let patch ← record input "invalid_instance_policy"
  knownKeys patch POLICY_KEYS "unknown_instance_policy_field:"
  let resources ← resourcesPatch patch
  knownKeys resources ["memory", "cpus", "pidsLimit"] "unknown_instance_resource_field:"
  let policy ← patchedPolicy current patch resources additionalReserved
  checkPolicy policy
  return policy

/-! ## What is launched -/

structure LaunchProfile where
  imageReference : String
  resources : Resources
  environment : Record String
  configFiles : List ContainerConfigFile

/-- The config files are put in the order of `localeCompare`. -/
def toLaunchProfile (localeBefore : String → String → Bool) (policy : ProvisioningPolicy) (imageReference : String) :
    LaunchProfile where
  imageReference := imageReference
  resources := policy.resources
  environment := policy.environment
  configFiles := (policy.configFiles.entries.insertionSort fun left right => localeBefore left.1 right.1).map
    fun entry => ⟨entry.1, entry.2⟩

end OpenApp.Policy
