import OpenApp.Fallible
import OpenApp.Number
import OpenApp.Word

/-!
# Plugins of the platform

The registry is made once, of the plugins in the order they are loaded. Each of them is checked on its own and against
what those before it have registered. What no check looks at in a profile, a plan or a strategy is kept as it is.
-/

namespace OpenApp.Plugins

open Fallible Script

/-! ## What a plugin brings -/

/-- An object as what it has under each of its keys. -/
abbrev Members (Data : Type) := String → Option Data

/-- `{ ...current, ...incoming }` -/
def spread {Data : Type} (current incoming : Members Data) : Members Data :=
  fun key => incoming key <|> current key

structure PlatformPluginManifest where
  id : String
  apiVersion : String
  version : String
  authProviders : List String
  appIntegrations : List String
  buildStrategies : List String
  executionContracts : Option (List String)
  entryExperience : Option String
  capabilities : List (String × Bool)

inductive Scope
  | app | platform
  deriving DecidableEq

structure AuthProviderPlugin where
  id : String
  scope : Option Scope

section

variable (Data : Type)

structure AppAuthHandoff where
  appId : String
  managedCookieNames : List String
  rest : Data

/-- A build strategy, be it the adapter or the definition that is stored. -/
structure BuildStrategy where
  id : String
  revision : Int
  rest : Data

structure RuntimeProfile where
  contract : String
  rest : Data
  deriving DecidableEq

structure AdapterMigrationPlan where
  id : String
  rest : Data
  deriving DecidableEq

structure AdapterCompatibility where
  migration : Option (AdapterMigrationPlan Data)
  rest : Data

structure LegacyAuth where
  providerId : Option String
  /-- the id of its `provider` -/
  provider : Option String
  cookieNames : Option (List String)
  handoff : Option (AppAuthHandoff Data)

structure LegacyCatalog where
  appId : String
  /-- the runtime contracts of its `bootstrap` and its `build` -/
  bootstrap : Option String
  build : Option String

structure AdapterLegacyIntegration where
  auth : Option (LegacyAuth Data)
  catalog : Option LegacyCatalog
  /-- the contract of the profile of its `runtime` -/
  runtime : Option String
  rest : Data

structure ProvisioningPolicyDefaults where
  /-- the inner `none` is an own property that is undefined -/
  defaultAppId : Option (Option String)
  settings : Members Data
  resources : Option (Members Data)
  environment : Option (Members Data)
  configFiles : Option (Members Data)

structure AppIntegrationPlugin where
  appId : String
  manifest : PlatformPluginManifest
  authHandoff : Option (AppAuthHandoff Data)
  authProviders : List AuthProviderPlugin
  buildStrategies : List (BuildStrategy Data)
  strategyDefinitions : List (BuildStrategy Data)
  provisioningPolicyDefaults : Option (ProvisioningPolicyDefaults Data)
  /-- the id of its `entryExperience` -/
  entryExperience : Option String
  runtimeProfile : Option (RuntimeProfile Data)
  /-- as they are before they are validated -/
  compatibility : Option Data
  legacy : Option Data

/-- What the constructor uses of the language and of the contracts it checks with. -/
structure Contracts where
  toLowerCase : String → String
  validateRuntimeProfile : RuntimeProfile Data → Bool
  validateAdapterCompatibility : Data → Option (AdapterCompatibility Data)
  validateAdapterLegacy : Data → Option (AdapterLegacyIntegration Data)

structure PlatformPluginRegistry where
  apps : Map (AppIntegrationPlugin Data)
  manifests : Map PlatformPluginManifest
  handoffs : Map (AppAuthHandoff Data)
  authProviders : Map AuthProviderPlugin
  strategies : Map (BuildStrategy Data)
  definitions : Map (BuildStrategy Data)
  executionContracts : List String
  runtimeProfiles : Map (RuntimeProfile Data)
  compatibilities : Map (AdapterCompatibility Data)
  legacies : Map (AdapterLegacyIntegration Data)
  migrationPlans : Map (AdapterMigrationPlan Data)
  provisioningPolicyDefaults : ProvisioningPolicyDefaults Data

end

variable {Data : Type}

def noDefaults : ProvisioningPolicyDefaults Data := ⟨none, fun _ => none, none, none, none⟩

def emptyRegistry : PlatformPluginRegistry Data :=
  ⟨⟨[]⟩, ⟨[]⟩, ⟨[]⟩, ⟨[]⟩, ⟨[]⟩, ⟨[]⟩, [], ⟨[]⟩, ⟨[]⟩, ⟨[]⟩, ⟨[]⟩, noDefaults⟩

/-- What `PlatformPluginRegistryError` carries. -/
abbrev Checked (α : Type) := Except String α

/-- `/^[a-z0-9](?:[a-z0-9._-]{0,63})$/u` -/
def APP_ID_PATTERN (value : String) : Bool :=
  isLowerWord 63 value

/-- `/^[a-z][a-z0-9._-]{0,63}$/u` -/
def CONTRACT_PATTERN (value : String) : Bool :=
  isLowerWord 63 value && value.toList.head?.any Char.isLower

def GENERIC_RUNTIME_CONTRACT : String := "generic-v1"

def NO_RUNTIME_CONTRACT : String := "none"

section Checks

variable (host : Contracts Data)

def normalizeId (value code : String) : Checked String := do
  let normalized := host.toLowerCase (trim value)
  refuseIf (APP_ID_PATTERN normalized = false) code
  pure normalized

def normalizeIdOrUndefined (value : String) : Option String :=
  if truthy (trim value) && APP_ID_PATTERN (host.toLowerCase (trim value)) then some (host.toLowerCase (trim value)) else none

def normalizeVersion (value code : String) : Checked String := do
  let normalized := trim value
  refuseIf (normalized = "" ∨ 64 < utf16Length normalized ∨ normalized.toList.any (fun c => c = '\r' || c = '\n') = true) code
  pure normalized

def normalizeExecutionContracts (values : List String) : Checked (List String) := do
  let normalized ← values.mapM fun value => do
    let contract := host.toLowerCase (trim value)
    refuseIf (CONTRACT_PATTERN contract = false) "platform_plugin_invalid_execution_contracts"
    pure contract
  refuseIf (¬ normalized.Nodup) "platform_plugin_manifest_duplicate_reference"
  pure normalized

/-- Whether the members of `capabilities` are booleans is a matter of their type here. -/
def validateManifest (manifest : PlatformPluginManifest) (appId : String) : Checked PlatformPluginManifest := do
  let id ← normalizeId host manifest.id "platform_plugin_invalid_manifest_id"
  let apiVersion ← normalizeVersion manifest.apiVersion "platform_plugin_invalid_api_version"
  let version ← normalizeVersion manifest.version "platform_plugin_invalid_version"
  let appIntegrations ← manifest.appIntegrations.mapM (normalizeId host · "platform_plugin_invalid_app_integrations")
  let authProviders ← manifest.authProviders.mapM (normalizeId host · "platform_plugin_invalid_auth_providers")
  let buildStrategies ← manifest.buildStrategies.mapM (normalizeId host · "platform_plugin_invalid_build_strategies")
  let executionContracts ← manifest.executionContracts.mapM (normalizeExecutionContracts host)
  refuseIf (¬ appIntegrations.Nodup ∨ ¬ authProviders.Nodup ∨ ¬ buildStrategies.Nodup)
    "platform_plugin_manifest_duplicate_reference"
  refuseIf (id ≠ appId) "platform_plugin_manifest_id_mismatch"
  refuseIf (manifest.entryExperience.any fun entry => (normalizeIdOrUndefined host entry).isNone)
    "platform_plugin_invalid_entry_experience"
  pure { manifest with
    id, apiVersion, version, authProviders, appIntegrations, buildStrategies, executionContracts
    entryExperience := manifest.entryExperience.map fun entry => host.toLowerCase (trim entry) }

/-- `manifest.executionContracts?.includes(contract)` -/
def declares (manifest : PlatformPluginManifest) (contract : String) : Bool :=
  manifest.executionContracts.any fun contracts => contracts.contains contract

/-! ## What is registered -/

def loadHandoff (manifest : PlatformPluginManifest) (appId : String) (handoffs : Map (AppAuthHandoff Data)) :
    Option (AppAuthHandoff Data) → Checked (Map (AppAuthHandoff Data))
  | none => pure handoffs
  | some handoff => do
    refuseIf (handoff.appId ≠ appId) "platform_plugin_handoff_app_mismatch"
    refuseIf (handoff.appId ∉ manifest.appIntegrations) "platform_plugin_manifest_handoff_mismatch"
    refuseIf ((handoffs.get appId).isSome) "platform_plugin_duplicate_handoff"
    pure (handoffs.set appId handoff)

/-- A provider of the whole platform may be brought by several plugins. -/
def shared (existing provider : AuthProviderPlugin) : Bool :=
  existing.scope = some .platform && provider.scope = some .platform

def loadProvider (manifest : PlatformPluginManifest) (authProviders : Map AuthProviderPlugin) (provider : AuthProviderPlugin) :
    Checked (Map AuthProviderPlugin) := do
  let providerId ← normalizeId host provider.id "platform_plugin_invalid_auth_provider"
  match authProviders.get providerId with
  | some existing => do
    refuseIf (shared existing provider = false) "platform_plugin_duplicate_auth_provider"
    refuseIf (providerId ∉ manifest.authProviders) "platform_plugin_manifest_auth_provider_mismatch"
    pure authProviders
  | none => do
    refuseIf (providerId ∉ manifest.authProviders) "platform_plugin_manifest_auth_provider_mismatch"
    pure (authProviders.set providerId provider)

def strategyKey (strategy : BuildStrategy Data) : Checked String := do
  let normalized ← normalizeId host strategy.id "platform_plugin_invalid_build_strategy"
  refuseIf (strategy.revision < 1 ∨ Number.maxSafeInteger < strategy.revision) "platform_plugin_invalid_build_strategy_revision"
  pure (normalized ++ "@" ++ toString strategy.revision)

/-- A strategy under its key; the name it must be listed by is its id, as it stands or normalised. -/
def loadKeyed (listed : BuildStrategy Data → Bool) (strategies : Map (BuildStrategy Data)) (strategy : BuildStrategy Data) :
    Checked (Map (BuildStrategy Data)) := do
  let key ← strategyKey host strategy
  refuseIf ((strategies.get key).isSome) "platform_plugin_duplicate_build_strategy"
  refuseIf (listed strategy = false) "platform_plugin_manifest_build_strategy_mismatch"
  pure (strategies.set key strategy)

def loadStrategy (manifest : PlatformPluginManifest) : Map (BuildStrategy Data) → BuildStrategy Data →
    Checked (Map (BuildStrategy Data)) :=
  loadKeyed host fun strategy => manifest.buildStrategies.contains strategy.id

def loadDefinition (manifest : PlatformPluginManifest) : Map (BuildStrategy Data) → BuildStrategy Data →
    Checked (Map (BuildStrategy Data)) :=
  loadKeyed host fun definition => manifest.buildStrategies.contains (host.toLowerCase (trim definition.id))

/-- `{ ...current.x, ...incoming.x }`, where one of them is there. -/
def mergeMembers (current incoming : Option (Members Data)) : Option (Members Data) :=
  match incoming, current with
  | none, none => none
  | incoming, current => some (spread (current.getD fun _ => none) (incoming.getD fun _ => none))

/-- The default Apps of both are there, and differ. -/
def conflicting (current incoming : ProvisioningPolicyDefaults Data) : Bool :=
  match current.defaultAppId, incoming.defaultAppId with
  | some (some current), some (some incoming) => host.toLowerCase (trim current) ≠ host.toLowerCase (trim incoming)
  | _, _ => false

def merged (current incoming : ProvisioningPolicyDefaults Data) : ProvisioningPolicyDefaults Data where
  defaultAppId := incoming.defaultAppId <|> current.defaultAppId
  settings := spread current.settings incoming.settings
  resources := mergeMembers current.resources incoming.resources
  environment := mergeMembers current.environment incoming.environment
  configFiles := mergeMembers current.configFiles incoming.configFiles

def mergePolicyDefaults (current incoming : ProvisioningPolicyDefaults Data) : Checked (ProvisioningPolicyDefaults Data) := do
  refuseIf (conflicting host current incoming) "platform_plugin_conflicting_default_app"
  pure (merged current incoming)

def loadDefaults (current : ProvisioningPolicyDefaults Data) :
    Option (ProvisioningPolicyDefaults Data) → Checked (ProvisioningPolicyDefaults Data)
  | none => pure current
  | some incoming => mergePolicyDefaults host current incoming

def validateCompatibility : Option Data → Checked (Option (AdapterCompatibility Data))
  | none => pure none
  | some compatibility =>
    match host.validateAdapterCompatibility compatibility with
    | some compatibility => pure (some compatibility)
    | none => .error "platform_plugin_compatibility_invalid"

def validateLegacy : Option Data → Checked (Option (AdapterLegacyIntegration Data))
  | none => pure none
  | some legacy =>
    match host.validateAdapterLegacy legacy with
    | some legacy => pure (some legacy)
    | none => .error "platform_plugin_legacy_invalid"

def sameCookieNames (left right : List String) : Bool :=
  left.length = right.length && left.all fun name =>
    (right.map fun name => host.toLowerCase (trim name)).contains (host.toLowerCase (trim name))

/-- The provider a legacy integration names. -/
def legacyProviderId (legacy : AdapterLegacyIntegration Data) : Option String :=
  (legacy.auth.bind fun auth => auth.providerId <|> auth.provider.map fun id => host.toLowerCase (trim id)).filter truthy

def checkLegacy (manifest : PlatformPluginManifest) (appId : String) (authProviders : Map AuthProviderPlugin)
    (registeredHandoff : Option (AppAuthHandoff Data)) (legacy : AdapterLegacyIntegration Data) : Checked Unit := do
  refuseIf (legacy.catalog.any fun catalog => catalog.appId ≠ appId) "platform_plugin_legacy_catalog_app_mismatch"
  refuseIf ((legacyProviderId host legacy).any fun id => manifest.authProviders.contains id = false)
    "platform_plugin_legacy_auth_provider_mismatch"
  refuseIf ((legacyProviderId host legacy).any fun id => (authProviders.get id).isNone)
    "platform_plugin_legacy_auth_provider_missing"
  refuseIf ((legacy.auth.bind LegacyAuth.cookieNames).any fun names =>
      registeredHandoff.any fun handoff => !sameCookieNames host names handoff.managedCookieNames)
    "platform_plugin_legacy_auth_cookie_mismatch"
  refuseIf ((legacy.auth.bind LegacyAuth.handoff).isSome ∧ registeredHandoff.isNone) "platform_plugin_legacy_handoff_missing"
  refuseIf ((legacy.auth.bind LegacyAuth.handoff).any fun handoff => host.toLowerCase (trim handoff.appId) ≠ appId)
    "platform_plugin_legacy_handoff_app_mismatch"
  refuseIf ((legacy.auth.bind LegacyAuth.handoff).any fun legacyHandoff =>
      registeredHandoff.any fun handoff => !sameCookieNames host legacyHandoff.managedCookieNames handoff.managedCookieNames)
    "platform_plugin_legacy_auth_cookie_mismatch"
  refuseIf (legacy.runtime.any fun contract => declares manifest contract = false)
    "platform_plugin_legacy_runtime_contract_mismatch"
  refuseIf ((legacy.catalog.bind LegacyCatalog.bootstrap).any fun contract => declares manifest contract = false)
    "platform_plugin_legacy_runtime_contract_mismatch"
  refuseIf ((legacy.catalog.bind LegacyCatalog.build).any fun contract => declares manifest contract = false)
    "platform_plugin_legacy_runtime_contract_mismatch"

def setIfSome {α : Type} (values : Map α) (key : String) : Option α → Map α
  | none => values
  | some value => values.set key value

variable [DecidableEq Data]

/-- The texts `JSON.stringify` makes of two profiles are the same when the profiles are. -/
def loadRuntimeProfile (manifest : PlatformPluginManifest) (runtimeProfiles : Map (RuntimeProfile Data)) :
    Option (RuntimeProfile Data) → Checked (Map (RuntimeProfile Data))
  | none => pure runtimeProfiles
  | some profile => do
    refuseIf (host.validateRuntimeProfile profile = false) "platform_plugin_runtime_profile_invalid"
    refuseIf (declares manifest profile.contract = false) "platform_plugin_runtime_profile_contract_mismatch"
    refuseIf ((runtimeProfiles.get profile.contract).any (· ≠ profile)) "platform_plugin_runtime_profile_conflict"
    pure (runtimeProfiles.set profile.contract profile)

def loadMigration (migrationPlans : Map (AdapterMigrationPlan Data)) :
    Option (AdapterMigrationPlan Data) → Checked (Map (AdapterMigrationPlan Data))
  | none => pure migrationPlans
  | some migration => do
    refuseIf ((migrationPlans.get migration.id).any (· ≠ migration)) "platform_plugin_conflicting_migration_plan"
    pure (migrationPlans.set migration.id migration)

/-- One turn of the loop over the plugins. -/
def load (r : PlatformPluginRegistry Data) (plugin : AppIntegrationPlugin Data) : Checked (PlatformPluginRegistry Data) := do
  let appId ← normalizeId host plugin.appId "platform_plugin_invalid_app_id"
  let manifest ← validateManifest host plugin.manifest appId
  refuseIf ((r.apps.get appId).isSome ∨ (r.manifests.get manifest.id).isSome) "platform_plugin_duplicate_id"
  refuseIf (appId ∉ manifest.appIntegrations) "platform_plugin_manifest_app_mismatch"
  let handoffs ← loadHandoff manifest appId r.handoffs plugin.authHandoff
  let authProviders ← plugin.authProviders.foldlM (loadProvider host manifest) r.authProviders
  let strategies ← plugin.buildStrategies.foldlM (loadStrategy host manifest) r.strategies
  let definitions ← plugin.strategyDefinitions.foldlM (loadDefinition host manifest) r.definitions
  let provisioningPolicyDefaults ← loadDefaults host r.provisioningPolicyDefaults plugin.provisioningPolicyDefaults
  refuseIf (plugin.entryExperience.any fun id => manifest.entryExperience ≠ some id) "platform_plugin_manifest_entry_mismatch"
  let runtimeProfiles ← loadRuntimeProfile host manifest r.runtimeProfiles plugin.runtimeProfile
  let compatibility ← validateCompatibility host plugin.compatibility
  let migrationPlans ← loadMigration r.migrationPlans (compatibility.bind AdapterCompatibility.migration)
  let legacy ← validateLegacy host plugin.legacy
  legacy.forM (checkLegacy host manifest appId authProviders (handoffs.get appId))
  pure
    { apps := r.apps.set appId plugin
      manifests := r.manifests.set manifest.id manifest
      handoffs, authProviders, strategies, definitions
      executionContracts := r.executionContracts ++ manifest.executionContracts.getD []
      runtimeProfiles
      compatibilities := setIfSome r.compatibilities appId compatibility
      legacies := setIfSome r.legacies appId legacy
      migrationPlans, provisioningPolicyDefaults }

/-- `new PlatformPluginRegistry(plugins, { allowEmpty })` -/
def newRegistry (allowEmpty : Bool) (plugins : List (AppIntegrationPlugin Data)) : Checked (PlatformPluginRegistry Data) := do
  refuseIf (plugins = [] ∧ allowEmpty = false) "platform_plugin_required"
  let r ← plugins.foldlM (load host) emptyRegistry
  pure { r with executionContracts := r.executionContracts ++ [GENERIC_RUNTIME_CONTRACT, NO_RUNTIME_CONTRACT] }

end Checks

/-! ## What the registry is asked -/

namespace PlatformPluginRegistry

variable (host : Contracts Data) (r : PlatformPluginRegistry Data)

def get (appId : String) : Option (AppIntegrationPlugin Data) :=
  (normalizeIdOrUndefined host appId).bind r.apps.get

def authProviderIdsForApp (appId : String) : List String :=
  ((r.get host appId).map (·.manifest.authProviders)).getD []

def runtimeProfileForContract (contract : String) : Option (RuntimeProfile Data) :=
  r.runtimeProfiles.get (host.toLowerCase (trim contract))

def compatibilityForApp (appId : String) : Option (AdapterCompatibility Data) :=
  r.compatibilities.get ((normalizeIdOrUndefined host appId).getD "")

def legacyForApp (appId : String) : Option (AdapterLegacyIntegration Data) :=
  r.legacies.get ((normalizeIdOrUndefined host appId).getD "")

def buildStrategyAdapters : List (BuildStrategy Data) :=
  r.strategies.values

def buildStrategyDefinitions : List (BuildStrategy Data) :=
  r.definitions.values

/-- A single App is the default one where none is named. -/
def policyDefaults : ProvisioningPolicyDefaults Data :=
  match r.provisioningPolicyDefaults.defaultAppId.join.filter truthy, r.apps.entries with
  | none, [(appId, _)] => { r.provisioningPolicyDefaults with defaultAppId := some (some appId) }
  | _, _ => r.provisioningPolicyDefaults

end PlatformPluginRegistry

end OpenApp.Plugins
