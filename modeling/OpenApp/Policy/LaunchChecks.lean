import OpenApp.Policy.InstancePolicy

/-!
# What the runtime and the provider check

A launch is checked once more where it is carried out: by the runtime, before it starts a container, and
by the provider, which counts in whole bytes and thousandths of a CPU.
-/

namespace OpenApp.Policy

open Keyed Script

/-! ## The runtime -/

/-- Of a profile, the names of the variables the runtime sets itself. -/
structure RuntimeProfile where
  reservedEnvironment : List String
  configEnvironmentKey : String
  /-- the three variables of a recovery -/
  lockRecoveryEnvironment : List String
  authProviderKey : Option String
  allowedOriginsKey : Option String
  mcpAppSandboxOriginKey : Option String

def runtimeReservedEnvironmentNames (profile : RuntimeProfile) : List String :=
  RUNTIME_RESERVED_ENVIRONMENT ++ profile.reservedEnvironment ++ [profile.configEnvironmentKey] ++
    profile.lockRecoveryEnvironment ++ (profile.authProviderKey.filter truthy).toList ++
    (profile.allowedOriginsKey.filter truthy).toList ++ (profile.mcpAppSandboxOriginKey.filter truthy).toList

def GENERIC_RUNTIME_PROFILE : RuntimeProfile where
  reservedEnvironment := ["OPENAPP_CONFIG_FILES_JSON"]
  configEnvironmentKey := "OPENAPP_CONFIG_FILES_JSON"
  lockRecoveryEnvironment := []
  authProviderKey := none
  allowedOriginsKey := none
  mcpAppSandboxOriginKey := some "OPENAPP_MCP_APP_SANDBOX_ORIGIN"

def ENVIRONMENT_MAX_ENTRIES : Nat := 128

def ENVIRONMENT_VALUE_MAX_BYTES : Nat := 16 * 1024

/-- `/^[A-Za-z_][A-Za-z0-9_]{0,127}$/u` -/
def ENVIRONMENT_NAME_PATTERN (name : String) : Bool :=
  environmentName name && name.toList.length ≤ 128

/-- The dots, and then the end or a slash. -/
def segmentHere (dots cs : List Char) : Bool :=
  dots.isPrefixOf cs && ((cs.drop dots.length).isEmpty || (cs.drop dots.length).head? = some '/')

def isLineTerminator (c : Char) : Bool :=
  c = '\n' || c = '\r' || c.toNat = 0x2028 || c.toNat = 0x2029

/-- `.*\/dots(?:\/|$)`, where the dot is no line terminator -/
def segmentLater (dots : List Char) : List Char → Bool
  | [] => false
  | c :: cs => (c = '/' && segmentHere dots cs) || (!isLineTerminator c && segmentLater dots cs)

/-- `.*(?:^|\/)dots(?:\/|$)` -/
def hasSegment (dots cs : List Char) : Bool :=
  segmentHere dots cs || segmentLater dots cs

/-- `/^(?!\/)(?!.*(?:^|\/)\.\.(?:\/|$))(?!.*(?:^|\/)\.(?:\/|$))[^\\\0]+$/u` -/
def CONFIG_PATH_PATTERN (path : String) : Bool :=
  path.toList.head? ≠ some '/' && !hasSegment ['.', '.'] path.toList && !hasSegment ['.'] path.toList &&
    path.toList ≠ [] && path.toList.all fun c => c ≠ '\\' && c ≠ '\x00'

abbrev Launched (α : Type) := Except String α

def require (ok : Bool) (message : String) : Launched Unit :=
  if ok then .ok () else .error message

def launchEnvironmentEntry (profile : RuntimeProfile) (entry : String × String) : Launched Unit := do
  require (ENVIRONMENT_NAME_PATTERN entry.1 &&
      !isRuntimeReservedEnvironmentName entry.1 (runtimeReservedEnvironmentNames profile))
    ("launch profile environment key is not allowed: " ++ entry.1)
  require (!hasControl entry.2) ("launch profile environment value is invalid: " ++ entry.1)
  require (entry.2.utf8ByteSize ≤ ENVIRONMENT_VALUE_MAX_BYTES) "launch profile environment is too large"

def launchEnvironment (profile : RuntimeProfile) (environment : Record String) : Launched Unit := do
  require (environment.entries.length ≤ ENVIRONMENT_MAX_ENTRIES) "launch profile environment is too large"
  environment.entries.forM (launchEnvironmentEntry profile)
  require (byteLength environment.entries ≤ ENVIRONMENT_MAX_BYTES) "launch profile environment is too large"

/-- The paths so far are those of the files before this one. -/
def launchConfigFiles : List String → List ContainerConfigFile → Launched Unit
  | _, [] => .ok ()
  | configPaths, file :: files => do
    require (CONFIG_PATH_PATTERN file.path && file.path.toList.getLast? ≠ some '/' &&
        (pathParts file.path).all (· ≠ []))
      ("launch profile config path is unsafe: " ++ file.path)
    require (!containsNul file.content) ("launch profile config content is invalid: " ++ file.path)
    require (!configPaths.contains file.path) ("launch profile config path is duplicated: " ++ file.path)
    launchConfigFiles (file.path :: configPaths) files

def configBytes (files : List ContainerConfigFile) : Nat :=
  (files.map fun file => file.path.utf8ByteSize + file.content.utf8ByteSize).sum

/-- `#launchProfile`, of a request that has a profile -/
def launchProfile (runtime : RuntimeProfile) (profile : LaunchProfile) : Launched LaunchProfile := do
  require (imageReference profile.imageReference) "launch profile image is invalid"
  require (validMemory profile.resources.memory) "launch profile memory is invalid"
  require (validCpus profile.resources.cpus) "launch profile cpus is invalid"
  require (isSafeInteger profile.resources.pidsLimit && 32 ≤ profile.resources.pidsLimit &&
    profile.resources.pidsLimit ≤ 1048576) "launch profile pidsLimit is invalid"
  launchEnvironment runtime profile.environment
  require (profile.configFiles.length ≤ 128) "launch profile config files are too large"
  launchConfigFiles [] profile.configFiles
  require (configBytes profile.configFiles ≤ CONFIG_FILES_MAX_BYTES) "launch profile config files are too large"
  return profile

/-! ## The provider -/

/-- `parseMemoryBytes` -/
def parseMemoryBytes (value : String) : Option Nat :=
  (memoryBytes (trim value)).bind safeNatural

/-- `parseCpuMillis` -/
def parseCpuMillis (value : String) : Option Nat :=
  (plainDecimal (trim value)).bind fun cpus => safeNatural (cpus * 1000)

structure ProviderRequestContract where
  artifactKind : Option String
  executionContract : Option String
  storageClass : Option String
  memoryBytes : Nat
  cpuMillis : Nat
  pidsLimit : ℚ

/-- What a request asks a provider for. -/
structure ExecutionRequest where
  artifactKind : Option String
  /-- left out, `null` or a contract -/
  executionContract : Option (Option String)
  storageClass : Option String
  launchProfile : LaunchProfile

def providerRequestFromReconcile (request : ExecutionRequest) : Except Failure ProviderRequestContract :=
  let resources := request.launchProfile.resources
  if !truthy (trim resources.memory) then .error (.provider "provider_memory_limit_invalid" .permanent .reconcile none)
  else
    match parseMemoryBytes resources.memory with
    | none => .error (.provider "provider_memory_limit_invalid" .permanent .reconcile none)
    | some memoryBytes =>
      if !truthy (trim resources.cpus) then .error (.provider "provider_cpu_limit_invalid" .permanent .reconcile none)
      else
        match parseCpuMillis resources.cpus with
        | none => .error (.provider "provider_cpu_limit_invalid" .permanent .reconcile none)
        | some cpuMillis => .ok {
            artifactKind := request.artifactKind
            executionContract := request.executionContract.join
            storageClass := request.storageClass
            memoryBytes := memoryBytes
            cpuMillis := cpuMillis
            pidsLimit := resources.pidsLimit }

end OpenApp.Policy
