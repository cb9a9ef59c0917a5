import Mathlib.Data.List.Pairwise
import OpenApp.Overlay
import OpenApp.Plugins.Registry

/-!
# What a plugin contributes

A plugin is valid on its own or not, whatever is registered before it. What it registers is then written over what is
there, as long as the two are clear of each other.
-/

namespace OpenApp.Plugins

open Fallible Overlay Script

variable {Data : Type} {host : Contracts Data}

/-! ## Loops that fill a map -/

section Loops

variable {manifest : PlatformPluginManifest}

/-- The id a provider is registered under. -/
def providerId (host : Contracts Data) (provider : AuthProviderPlugin) : String :=
  host.toLowerCase (trim provider.id)

theorem normalizeId_ok {value code id : String} : normalizeId host value code = .ok id ↔
    id = host.toLowerCase (trim value) ∧ APP_ID_PATTERN id = true := by
  unfold normalizeId
  rw [refuseIf_bind_ok]
  constructor
  · rintro ⟨hpattern, h⟩
    obtain rfl := Except.ok.inj h
    exact ⟨rfl, by simpa using hpattern⟩
  · rintro ⟨rfl, hpattern⟩
    exact ⟨by simp [hpattern], rfl⟩

theorem pure_ok {α : Type} {a b : α} : (pure a : Checked α) = .ok b ↔ b = a :=
  ⟨fun h => (Except.ok.inj h).symm, fun h => congrArg Except.ok h.symm⟩

/-- What a provider does to a map, and when it may: one that is there stays. -/
structure LoadsProvider (host : Contracts Data) (manifest : PlatformPluginManifest) (m : Map AuthProviderPlugin)
    (provider : AuthProviderPlugin) (m' : Map AuthProviderPlugin) : Prop where
  pattern : APP_ID_PATTERN (providerId host provider) = true
  listed : providerId host provider ∈ manifest.authProviders
  found : ∀ existing, m.get (providerId host provider) = some existing → shared existing provider = true ∧ m' = m
  fresh : m.get (providerId host provider) = none → m' = m.set (providerId host provider) provider

theorem loadProvider_ok {m m' : Map AuthProviderPlugin} {provider : AuthProviderPlugin} :
    loadProvider host manifest m provider = .ok m' ↔ LoadsProvider host manifest m provider m' := by
  unfold loadProvider
  simp only [bind_ok, normalizeId_ok]
  change (∃ id, (id = providerId host provider ∧ _) ∧ _) ↔ _
  constructor
  · rintro ⟨_, ⟨rfl, hpattern⟩, h⟩
    split at h
    · rename_i existing hget
      obtain ⟨hshared, h⟩ := refuseIf_bind_ok.1 h
      obtain ⟨hlisted, h⟩ := refuseIf_bind_ok.1 h
      refine ⟨hpattern, by simpa using hlisted, fun existing' hget' => ?_, fun hnone => ?_⟩
      · obtain rfl := Option.some.inj (hget.symm.trans hget')
        exact ⟨by simpa using hshared, pure_ok.1 h⟩
      · cases hget.symm.trans hnone
    · rename_i hget
      obtain ⟨hlisted, h⟩ := refuseIf_bind_ok.1 h
      refine ⟨hpattern, by simpa using hlisted, fun existing' hget' => ?_, fun _ => pure_ok.1 h⟩
      cases hget.symm.trans hget'
  · rintro ⟨hpattern, hlisted, hfound, hfresh⟩
    refine ⟨_, ⟨rfl, hpattern⟩, ?_⟩
    split
    · rename_i existing hget
      obtain ⟨hshared, rfl⟩ := hfound existing hget
      exact refuseIf_bind_ok.2 ⟨by simp [hshared], refuseIf_bind_ok.2 ⟨not_not.2 hlisted, rfl⟩⟩
    · rename_i hget
      rw [hfresh hget]
      exact refuseIf_bind_ok.2 ⟨not_not.2 hlisted, rfl⟩

/-- A provider whose id is not there before is loaded as if nothing were. -/
theorem loadProvider_after {m own m' : Map AuthProviderPlugin} {provider : AuthProviderPlugin}
    (h : m.get (providerId host provider) = none) :
    loadProvider host manifest (after m own) provider = .ok m' ↔
      ∃ own', loadProvider host manifest own provider = .ok own' ∧ m' = after m own' := by
  have hget : (after m own).get (providerId host provider) = own.get (providerId host provider) := by
    rw [get_after, h, Option.none_or]
  simp only [loadProvider_ok]
  constructor
  · rintro ⟨hpattern, hlisted, hfound, hfresh⟩
    rw [hget] at hfound hfresh
    cases howned : own.get (providerId host provider) with
    | some existing =>
      obtain ⟨hshared, rfl⟩ := hfound existing howned
      refine ⟨own, ⟨hpattern, hlisted, fun existing' howned' => ?_, fun hnone => ?_⟩, rfl⟩
      · obtain rfl := Option.some.inj (howned.symm.trans howned')
        exact ⟨hshared, rfl⟩
      · cases howned.symm.trans hnone
    | none =>
      refine ⟨_, ⟨hpattern, hlisted, fun existing' howned' => ?_, fun _ => rfl⟩, ?_⟩
      · cases howned.symm.trans howned'
      · rw [hfresh howned, set_after h]
  · rintro ⟨own', ⟨hpattern, hlisted, hfound, hfresh⟩, rfl⟩
    refine ⟨hpattern, hlisted, fun existing hexisting => ?_, fun hnone => ?_⟩
    · obtain ⟨hshared, rfl⟩ := hfound existing (hget.symm.trans hexisting)
      exact ⟨hshared, rfl⟩
    · rw [hfresh (hget.symm.trans hnone), set_after h]

theorem loadProviders_after {m own m' : Map AuthProviderPlugin} {providers : List AuthProviderPlugin}
    (h : ∀ provider ∈ providers, m.get (providerId host provider) = none) :
    providers.foldlM (loadProvider host manifest) (after m own) = .ok m' ↔
      ∃ own', providers.foldlM (loadProvider host manifest) own = .ok own' ∧ m' = after m own' := by
  induction providers generalizing own with
  | nil => simp only [List.foldlM_nil, pure_ok, exists_eq_left]
  | cons provider rest ih =>
    obtain ⟨hfirst, hrest⟩ := List.forall_mem_cons.1 h
    simp only [List.foldlM_cons, bind_ok, loadProvider_after hfirst]
    constructor
    · rintro ⟨_, ⟨own₁, hown₁, rfl⟩, hothers⟩
      obtain ⟨own', hown', rfl⟩ := (ih hrest).1 hothers
      exact ⟨own', ⟨own₁, hown₁, hown'⟩, rfl⟩
    · rintro ⟨own', ⟨own₁, hown₁, hown'⟩, rfl⟩
      exact ⟨after m own₁, ⟨own₁, hown₁, rfl⟩, (ih hrest).2 ⟨own', hown', rfl⟩⟩

/-- The ids that are registered are those of the providers. -/
theorem isSome_get_loadProviders {m m' : Map AuthProviderPlugin} {providers : List AuthProviderPlugin}
    (h : providers.foldlM (loadProvider host manifest) m = .ok m') (id : String) :
    (m'.get id).isSome = true ↔ (m.get id).isSome = true ∨ id ∈ providers.map (providerId host) := by
  induction providers generalizing m with
  | nil =>
    obtain rfl := Except.ok.inj h
    simp
  | cons provider rest ih =>
    rw [List.foldlM_cons] at h
    obtain ⟨m₁, hfirst, hrest⟩ := bind_ok.1 h
    have hloads := loadProvider_ok.1 hfirst
    have hstep : (m₁.get id).isSome = true ↔ (m.get id).isSome = true ∨ id = providerId host provider := by
      cases hget : m.get (providerId host provider) with
      | some existing =>
        obtain ⟨-, rfl⟩ := hloads.found existing hget
        constructor
        · exact .inl
        · rintro (h | rfl)
          · exact h
          · simp [hget]
      | none =>
        rw [hloads.fresh hget, get_set]
        by_cases hid : id = providerId host provider <;> simp [hid]
    rw [ih hrest, hstep, List.map_cons, List.mem_cons, or_assoc]

theorem loadKeyed_ok {listed : BuildStrategy Data → Bool} {m m' : Map (BuildStrategy Data)} {strategy : BuildStrategy Data} :
    loadKeyed host listed m strategy = .ok m' ↔
      ∃ key, strategyKey host strategy = .ok key ∧ m.get key = none ∧ listed strategy = true ∧ m' = m.set key strategy := by
  unfold loadKeyed
  rw [bind_ok]
  refine exists_congr fun key => and_congr_right fun _ => ?_
  rw [refuseIf_bind_ok, refuseIf_bind_ok, pure_ok, Option.not_isSome_iff_eq_none, Bool.not_eq_false]

/-- A strategy that is added to what is there: its key must be new to both. -/
theorem loadKeyed_after {listed : BuildStrategy Data → Bool} {m own m' : Map (BuildStrategy Data)} {strategy : BuildStrategy Data} :
    loadKeyed host listed (after m own) strategy = .ok m' ↔
      ∃ own', loadKeyed host listed own strategy = .ok own' ∧ m' = after m own' ∧
        ∀ key, strategyKey host strategy = .ok key → m.get key = none := by
  simp only [loadKeyed_ok, get_after]
  constructor
  · rintro ⟨key, hkey, hnew, hlisted, rfl⟩
    obtain ⟨hm, hown⟩ := Option.or_eq_none_iff.1 hnew
    refine ⟨own.set key strategy, ⟨key, hkey, hown, hlisted, rfl⟩, set_after hm strategy, fun key' hkey' => ?_⟩
    obtain rfl := Except.ok.inj (hkey.symm.trans hkey')
    exact hm
  · rintro ⟨_, ⟨key, hkey, hown, hlisted, rfl⟩, rfl, hm⟩
    exact ⟨key, hkey, Option.or_eq_none_iff.2 ⟨hm key hkey, hown⟩, hlisted, (set_after (hm key hkey) strategy).symm⟩

/-- The keys that are registered are those of the strategies. -/
theorem isSome_get_loadKeyed {listed : BuildStrategy Data → Bool} {m m' : Map (BuildStrategy Data)}
    {strategies : List (BuildStrategy Data)} (h : strategies.foldlM (loadKeyed host listed) m = .ok m') (key : String) :
    (m'.get key).isSome = true ↔ (m.get key).isSome = true ∨ ∃ strategy ∈ strategies, strategyKey host strategy = .ok key := by
  induction strategies generalizing m with
  | nil =>
    obtain rfl := Except.ok.inj h
    simp
  | cons strategy rest ih =>
    rw [List.foldlM_cons] at h
    obtain ⟨m₁, hfirst, hrest⟩ := bind_ok.1 h
    obtain ⟨own, hown, -, -, rfl⟩ := loadKeyed_ok.1 hfirst
    have hstep : ((m.set own strategy).get key).isSome = true ↔
        (m.get key).isSome = true ∨ strategyKey host strategy = .ok key := by
      rw [get_set, hown, Except.ok.injEq]
      by_cases hkey : key = own
      · simp [hkey]
      · simp [hkey, Ne.symm hkey]
    rw [ih hrest, hstep, or_assoc]
    simp

/-- The keys that a loop adds to what is there are all new to it. -/
theorem loadKeyeds_after {listed : BuildStrategy Data → Bool} {m own m' : Map (BuildStrategy Data)}
    {strategies : List (BuildStrategy Data)} :
    strategies.foldlM (loadKeyed host listed) (after m own) = .ok m' ↔
      ∃ own', strategies.foldlM (loadKeyed host listed) own = .ok own' ∧ m' = after m own' ∧
        ∀ strategy ∈ strategies, ∀ key, strategyKey host strategy = .ok key → m.get key = none := by
  induction strategies generalizing own with
  | nil => simp [pure_ok]
  | cons strategy rest ih =>
    simp only [List.foldlM_cons, bind_ok, loadKeyed_after]
    constructor
    · rintro ⟨_, ⟨own₁, hown₁, rfl, hnew⟩, hrest⟩
      obtain ⟨own', hown', rfl, hothers⟩ := ih.1 hrest
      exact ⟨own', ⟨own₁, hown₁, hown'⟩, rfl, List.forall_mem_cons.2 ⟨hnew, hothers⟩⟩
    · rintro ⟨own', ⟨own₁, hown₁, hown'⟩, rfl, hnew⟩
      obtain ⟨hfirst, hothers⟩ := List.forall_mem_cons.1 hnew
      exact ⟨after m own₁, ⟨own₁, hown₁, rfl, hfirst⟩, ih.2 ⟨own', hown', rfl, hothers⟩⟩

/-- Strategies are loaded after others when they are valid on their own and no key of theirs is there. -/
theorem loadKeyeds_onto {listed : BuildStrategy Data → Bool} {m m' : Map (BuildStrategy Data)}
    {strategies : List (BuildStrategy Data)} :
    strategies.foldlM (loadKeyed host listed) m = .ok m' ↔
      ∃ own, strategies.foldlM (loadKeyed host listed) ⟨[]⟩ = .ok own ∧ m' = after m own ∧
        ∀ key, (own.get key).isSome = true → m.get key = none := by
  have hafter := @loadKeyeds_after _ host listed m ⟨[]⟩ m' strategies
  rw [after_empty] at hafter
  rw [hafter]
  refine exists_congr fun own => and_congr_right fun hown => and_congr_right fun _ => ?_
  simp only [isSome_get_loadKeyed hown, get_empty, Option.isSome_none, Bool.false_eq_true, false_or]
  constructor
  · rintro h key ⟨strategy, hmem, hkey⟩
    exact h strategy hmem key hkey
  · intro h strategy hmem key hkey
    exact h key ⟨strategy, hmem, hkey⟩

end Loops

/-! ## What one plugin adds -/

/-- A plugin that was found valid, and what it registers. -/
structure Contribution (Data : Type) where
  appId : String
  plugin : AppIntegrationPlugin Data
  manifest : PlatformPluginManifest
  authProviders : Map AuthProviderPlugin
  strategies : Map (BuildStrategy Data)
  definitions : Map (BuildStrategy Data)
  compatibility : Option (AdapterCompatibility Data)
  legacy : Option (AdapterLegacyIntegration Data)

namespace Contribution

variable (c : Contribution Data)

def migration : Option (AdapterMigrationPlan Data) :=
  c.compatibility.bind AdapterCompatibility.migration

def handoffEntry : Option (String × AppAuthHandoff Data) :=
  c.plugin.authHandoff.map fun handoff => (c.appId, handoff)

def profileEntry : Option (String × RuntimeProfile Data) :=
  c.plugin.runtimeProfile.map fun profile => (profile.contract, profile)

def compatibilityEntry : Option (String × AdapterCompatibility Data) :=
  c.compatibility.map fun compatibility => (c.appId, compatibility)

def legacyEntry : Option (String × AdapterLegacyIntegration Data) :=
  c.legacy.map fun legacy => (c.appId, legacy)

def migrationEntry : Option (String × AdapterMigrationPlan Data) :=
  c.migration.map fun migration => (migration.id, migration)

end Contribution

/-- The checks of a plugin that ask for nothing that others registered. -/
structure Contributes (host : Contracts Data) (plugin : AppIntegrationPlugin Data) (c : Contribution Data) : Prop where
  appId : normalizeId host plugin.appId "platform_plugin_invalid_app_id" = .ok c.appId
  plugin_eq : c.plugin = plugin
  manifest : validateManifest host plugin.manifest c.appId = .ok c.manifest
  integrated : c.appId ∈ c.manifest.appIntegrations
  handoff : ∀ handoff, plugin.authHandoff = some handoff → handoff.appId = c.appId
  authProviders : plugin.authProviders.foldlM (loadProvider host c.manifest) ⟨[]⟩ = .ok c.authProviders
  strategies : plugin.buildStrategies.foldlM (loadStrategy host c.manifest) ⟨[]⟩ = .ok c.strategies
  definitions : plugin.strategyDefinitions.foldlM (loadDefinition host c.manifest) ⟨[]⟩ = .ok c.definitions
  entry : (plugin.entryExperience.any fun id => c.manifest.entryExperience ≠ some id) = false
  profile : ∀ profile, plugin.runtimeProfile = some profile →
    host.validateRuntimeProfile profile = true ∧ declares c.manifest profile.contract = true
  compatibility : validateCompatibility host plugin.compatibility = .ok c.compatibility
  legacy : validateLegacy host plugin.legacy = .ok c.legacy
  legacyFits : ∀ legacy, c.legacy = some legacy →
    ∃ supplied, checkLegacy host c.manifest c.appId supplied plugin.authHandoff legacy = .ok ()

/-- Two contributions that may stand in one registry, whichever comes first. -/
structure Clear (b c : Contribution Data) : Prop where
  appId : b.appId ≠ c.appId
  strategies : ∀ key, (b.strategies.get key).isSome = true → c.strategies.get key = none
  definitions : ∀ key, (b.definitions.get key).isSome = true → c.definitions.get key = none
  profile : ∀ key p q, b.profileEntry = some (key, p) → c.profileEntry = some (key, q) → p = q
  migration : ∀ key p q, b.migrationEntry = some (key, p) → c.migrationEntry = some (key, q) → p = q

/-! ## What a list of them adds -/

/-- The defaults of the plugins, merged as they come. -/
def defaultsOf (cs : List (Contribution Data)) : ProvisioningPolicyDefaults Data :=
  cs.foldl (fun current c => (c.plugin.provisioningPolicyDefaults.map (merged current)).getD current) noDefaults

/-- The registry that holds these contributions. -/
def registered (cs : List (Contribution Data)) : PlatformPluginRegistry Data where
  apps := fill (fun c => some (c.appId, c.plugin)) cs
  manifests := fill (fun c => some (c.manifest.id, c.manifest)) cs
  handoffs := fill Contribution.handoffEntry cs
  authProviders := join Contribution.authProviders cs
  strategies := join Contribution.strategies cs
  definitions := join Contribution.definitions cs
  executionContracts := cs.flatMap fun c => c.manifest.executionContracts.getD []
  runtimeProfiles := fill Contribution.profileEntry cs
  compatibilities := fill Contribution.compatibilityEntry cs
  legacies := fill Contribution.legacyEntry cs
  migrationPlans := fill Contribution.migrationEntry cs
  provisioningPolicyDefaults := defaultsOf cs

/-- What is registered lets a contribution in. -/
structure Admits (host : Contracts Data) (before : List (Contribution Data)) (c : Contribution Data) : Prop where
  clear : ∀ b ∈ before, Clear b c
  /-- the provider its legacy integration names -/
  supplied : ∀ legacy, c.legacy = some legacy → ∀ id, legacyProviderId host legacy = some id →
    (∃ b ∈ before, (b.authProviders.get id).isSome = true) ∨ (c.authProviders.get id).isSome = true
  default : ∀ incoming, c.plugin.provisioningPolicyDefaults = some incoming →
    conflicting host (defaultsOf before) incoming = false

section Steps

variable {manifest : PlatformPluginManifest} {appId : String}

theorem validateManifest_id {m m' : PlatformPluginManifest} (h : validateManifest host m appId = .ok m') : m'.id = appId := by
  unfold validateManifest at h
  obtain ⟨id, -, h⟩ := bind_ok.1 h
  obtain ⟨_, -, h⟩ := bind_ok.1 h
  obtain ⟨_, -, h⟩ := bind_ok.1 h
  obtain ⟨_, -, h⟩ := bind_ok.1 h
  obtain ⟨_, -, h⟩ := bind_ok.1 h
  obtain ⟨_, -, h⟩ := bind_ok.1 h
  obtain ⟨_, -, h⟩ := bind_ok.1 h
  obtain ⟨-, h⟩ := refuseIf_bind_ok.1 h
  obtain ⟨hid, h⟩ := refuseIf_bind_ok.1 h
  obtain ⟨-, h⟩ := refuseIf_bind_ok.1 h
  rw [pure_ok.1 h]
  exact not_not.1 hid

/-- The only check of a legacy integration that looks at what others brought. -/
theorem checkLegacy_ok {authProviders : Map AuthProviderPlugin} {handoff : Option (AppAuthHandoff Data)}
    {legacy : AdapterLegacyIntegration Data} :
    checkLegacy host manifest appId authProviders handoff legacy = .ok () ↔
      (∃ supplied, checkLegacy host manifest appId supplied handoff legacy = .ok ()) ∧
        ∀ id, legacyProviderId host legacy = some id → (authProviders.get id).isSome = true := by
  have hmissing : ∀ m : Map AuthProviderPlugin, ¬ (((legacyProviderId host legacy).any fun id => (m.get id).isNone) = true) ↔
      ∀ id, legacyProviderId host legacy = some id → (m.get id).isSome = true := by
    intro m
    cases legacyProviderId host legacy with
    | none => simp
    | some id => simp [Option.isSome_iff_ne_none]
  simp only [checkLegacy, refuseIf_bind_ok, refuseIf_ok, hmissing]
  constructor
  · rintro ⟨hcatalog, hlisted, hfound, hrest⟩
    exact ⟨⟨authProviders, hcatalog, hlisted, hfound, hrest⟩, hfound⟩
  · rintro ⟨⟨_, hcatalog, hlisted, -, hrest⟩, hfound⟩
    exact ⟨hcatalog, hlisted, hfound, hrest⟩

theorem loadHandoff_ok {handoffs handoffs' : Map (AppAuthHandoff Data)} {o : Option (AppAuthHandoff Data)}
    (happ : appId ∈ manifest.appIntegrations) (hnew : handoffs.get appId = none) :
    loadHandoff manifest appId handoffs o = .ok handoffs' ↔
      (∀ handoff, o = some handoff → handoff.appId = appId) ∧ handoffs' = write handoffs (o.map fun handoff => (appId, handoff)) := by
  cases o with
  | none => simp [loadHandoff, pure_ok, write]
  | some handoff =>
    simp only [loadHandoff, refuseIf_bind_ok, pure_ok, hnew, write, Option.map_some, Option.some.injEq, forall_eq']
    constructor
    · rintro ⟨hid, -, -, rfl⟩
      exact ⟨not_not.1 hid, rfl⟩
    · rintro ⟨rfl, rfl⟩
      exact ⟨not_not.2 rfl, not_not.2 happ, Bool.false_ne_true, rfl⟩

theorem setIfSome_eq {α : Type} (m : Map α) (key : String) (o : Option α) :
    setIfSome m key o = write m (o.map fun value => (key, value)) := by
  cases o <;> rfl

theorem loadDefaults_ok {current defaults : ProvisioningPolicyDefaults Data} {o : Option (ProvisioningPolicyDefaults Data)} :
    loadDefaults host current o = .ok defaults ↔
      (∀ incoming, o = some incoming → conflicting host current incoming = false) ∧
        defaults = (o.map (merged current)).getD current := by
  cases o with
  | none => simp [loadDefaults, pure_ok]
  | some incoming =>
    simp only [loadDefaults, mergePolicyDefaults, refuseIf_bind_ok, pure_ok]
    simp

variable [DecidableEq Data]

theorem loadRuntimeProfile_ok {profiles profiles' : Map (RuntimeProfile Data)} {o : Option (RuntimeProfile Data)} :
    loadRuntimeProfile host manifest profiles o = .ok profiles' ↔
      (∀ profile, o = some profile → host.validateRuntimeProfile profile = true ∧ declares manifest profile.contract = true) ∧
        (∀ profile, o = some profile → ∀ existing, profiles.get profile.contract = some existing → existing = profile) ∧
        profiles' = write profiles (o.map fun profile => (profile.contract, profile)) := by
  cases o with
  | none => simp [loadRuntimeProfile, pure_ok, write]
  | some profile =>
    simp only [loadRuntimeProfile, refuseIf_bind_ok, pure_ok, write, Option.map_some, Option.some.injEq, forall_eq']
    cases profiles.get profile.contract with
    | none => simp [and_assoc]
    | some existing => simp [and_assoc]

theorem loadMigration_ok {plans plans' : Map (AdapterMigrationPlan Data)} {o : Option (AdapterMigrationPlan Data)} :
    loadMigration plans o = .ok plans' ↔
      (∀ migration, o = some migration → ∀ existing, plans.get migration.id = some existing → existing = migration) ∧
        plans' = write plans (o.map fun migration => (migration.id, migration)) := by
  cases o with
  | none => simp [loadMigration, pure_ok, write]
  | some migration =>
    simp only [loadMigration, refuseIf_bind_ok, pure_ok, write, Option.map_some, Option.some.injEq, forall_eq']
    cases plans.get migration.id with
    | none => simp
    | some existing => simp

end Steps

/-! ## One turn of the loop -/

theorem Clear.symm {b c : Contribution Data} (h : Clear b c) : Clear c b where
  appId := h.appId.symm
  strategies key hkey := by
    by_contra hb
    rw [h.strategies key (Option.ne_none_iff_isSome.1 hb)] at hkey
    cases hkey
  definitions key hkey := by
    by_contra hb
    rw [h.definitions key (Option.ne_none_iff_isSome.1 hb)] at hkey
    cases hkey
  profile key p q hp hq := (h.profile key q p hq hp).symm
  migration key p q hp hq := (h.migration key q p hq hp).symm

/-- Contributions that may be registered together. -/
structure Composed (cs : List (Contribution Data)) : Prop where
  manifestId : ∀ c ∈ cs, c.manifest.id = c.appId
  pairs : cs.Pairwise Clear

namespace Composed

variable {cs : List (Contribution Data)}

theorem consistent (h : Composed cs) {α : Type} {entry : Contribution Data → Option (String × α)}
    (hclear : ∀ b c, Clear b c → ∀ key p q, entry b = some (key, p) → entry c = some (key, q) → p = q) :
    Consistent entry cs := by
  have hsymm : Std.Symm fun b c : Contribution Data => ∀ key p q, entry b = some (key, p) → entry c = some (key, q) → p = q :=
    ⟨fun b c hbc key p q hp hq => (hbc key q p hq hp).symm⟩
  have hpairs : cs.Pairwise fun b c => ∀ key p q, entry b = some (key, p) → entry c = some (key, q) → p = q :=
    h.pairs.imp fun hbc => hclear _ _ hbc
  refine fun b hb c hc => hpairs.forall_of_forall (fun c _ key p q hp hq => ?_) hb hc
  exact (Prod.mk.inj (Option.some.inj (hp.symm.trans hq))).2

end Composed

/-- The ids of the Apps are the keys of three of the maps. -/
theorem get_apps_eq_none {cs : List (Contribution Data)} {appId : String} :
    (registered cs).apps.get appId = none ↔ ∀ c ∈ cs, c.appId ≠ appId := by
  rw [← not_iff_not, ← ne_eq, Option.ne_none_iff_isSome, registered, isSome_get_fill]
  simp

theorem registered_concat (cs : List (Contribution Data)) (c : Contribution Data) : registered (cs ++ [c]) =
    { apps := (registered cs).apps.set c.appId c.plugin
      manifests := (registered cs).manifests.set c.manifest.id c.manifest
      handoffs := write (registered cs).handoffs c.handoffEntry
      authProviders := after (registered cs).authProviders c.authProviders
      strategies := after (registered cs).strategies c.strategies
      definitions := after (registered cs).definitions c.definitions
      executionContracts := (registered cs).executionContracts ++ c.manifest.executionContracts.getD []
      runtimeProfiles := write (registered cs).runtimeProfiles c.profileEntry
      compatibilities := write (registered cs).compatibilities c.compatibilityEntry
      legacies := write (registered cs).legacies c.legacyEntry
      migrationPlans := write (registered cs).migrationPlans c.migrationEntry
      provisioningPolicyDefaults := (c.plugin.provisioningPolicyDefaults.map
        (merged (registered cs).provisioningPolicyDefaults)).getD (registered cs).provisioningPolicyDefaults } := by
  simp [registered, fill_concat, join_concat, defaultsOf, write]

/-- What no contribution has a key for is added to those that are there. -/
theorem strategies_new {cs : List (Contribution Data)} {part : Contribution Data → Map (BuildStrategy Data)}
    {own : Map (BuildStrategy Data)} : (∀ key, (own.get key).isSome = true → (join part cs).get key = none) ↔
      ∀ b ∈ cs, ∀ key, ((part b).get key).isSome = true → own.get key = none := by
  constructor
  · intro h b hb key hkey
    by_contra hown
    have hnone := h key (Option.ne_none_iff_isSome.1 hown)
    have hsome := isSome_get_join.2 ⟨b, hb, hkey⟩
    rw [hnone] at hsome
    cases hsome
  · intro h key hown
    by_contra hjoin
    obtain ⟨b, hb, hkey⟩ := isSome_get_join.1 (Option.ne_none_iff_isSome.1 hjoin)
    rw [h b hb key hkey] at hown
    cases hown

theorem keyed_eq_some {α : Type} {keyOf : α → String} {o : Option α} {key : String} {a : α} :
    (o.map fun a => (keyOf a, a)) = some (key, a) ↔ o = some a ∧ keyOf a = key := by
  cases o with
  | none => simp
  | some b =>
    simp only [Option.map_some, Option.some.injEq, Prod.mk.injEq]
    constructor
    · rintro ⟨rfl, rfl⟩
      exact ⟨rfl, rfl⟩
    · rintro ⟨rfl, rfl⟩
      exact ⟨rfl, rfl⟩

/-- A value agrees with what is written under its key when it agrees with each that was written there. -/
theorem agrees_with_fill {α β : Type} {entry : β → Option (String × α)} {bs : List β} (h : Consistent entry bs)
    {keyOf : α → String} {o : Option α} :
    (∀ value, o = some value → ∀ existing, (fill entry bs).get (keyOf value) = some existing → existing = value) ↔
      ∀ b ∈ bs, ∀ key p q, entry b = some (key, p) → (o.map fun a => (keyOf a, a)) = some (key, q) → p = q := by
  constructor
  · intro hget b hb key p q hp hq
    obtain ⟨ho, rfl⟩ := keyed_eq_some.1 hq
    obtain ⟨existing, hexisting⟩ := Option.isSome_iff_exists.1 (isSome_get_fill.2 ⟨b, hb, p, hp⟩)
    obtain ⟨c, hc, hentry⟩ := mem_of_get_fill hexisting
    rw [h b hb c hc (keyOf q) p existing hp hentry, hget q ho existing hexisting]
  · intro hall value ho existing hexisting
    obtain ⟨c, hc, hentry⟩ := mem_of_get_fill hexisting
    exact hall c hc (keyOf value) existing value hentry (keyed_eq_some.2 ⟨ho, rfl⟩)

variable {before : List (Contribution Data)} {plugin : AppIntegrationPlugin Data}

/-- The id of an App stands under three of the maps, or under none of them. -/
theorem isNew_iff (hbefore : Composed before) {appId : String} {manifest : PlatformPluginManifest} (hid : manifest.id = appId) :
    ¬ (((registered before).apps.get appId).isSome = true ∨ ((registered before).manifests.get manifest.id).isSome = true) ↔
      ∀ b ∈ before, b.appId ≠ appId := by
  have hmanifests : ((registered before).manifests.get manifest.id).isSome = true ↔ ∃ b ∈ before, b.appId = appId := by
    rw [registered, isSome_get_fill]
    constructor
    · rintro ⟨b, hb, m, hm⟩
      refine ⟨b, hb, ?_⟩
      rw [← hbefore.manifestId b hb, (Prod.mk.inj (Option.some.inj hm)).1, hid]
    · rintro ⟨b, hb, h⟩
      exact ⟨b, hb, b.manifest, by rw [hbefore.manifestId b hb, h, hid]⟩
  rw [hmanifests, not_or, Option.not_isSome_iff_eq_none, get_apps_eq_none]
  simp

theorem get_handoffs_eq_none {appId : String} (h : ∀ b ∈ before, b.appId ≠ appId) :
    (registered before).handoffs.get appId = none := by
  by_contra hsome
  obtain ⟨b, hb, handoff, hentry⟩ := isSome_get_fill.1 (Option.ne_none_iff_isSome.1 hsome)
  obtain ⟨_, -, hentry⟩ := Option.map_eq_some_iff.1 hentry
  exact h b hb (Prod.mk.inj hentry).1

theorem get_authProviders_eq_none
    (hids : ∀ b ∈ before, ∀ provider ∈ plugin.authProviders, b.authProviders.get (providerId host provider) = none) :
    ∀ provider ∈ plugin.authProviders, (registered before).authProviders.get (providerId host provider) = none := by
  intro provider hprovider
  by_contra hsome
  obtain ⟨b, hb, hget⟩ := isSome_get_join.1 (Option.ne_none_iff_isSome.1 hsome)
  rw [hids b hb provider hprovider] at hget
  cases hget

/-- The handoff a legacy integration is compared with is the plugin's own. -/
theorem get_write_handoff {m : Map (AppAuthHandoff Data)} {appId : String} (h : m.get appId = none) (o : Option (AppAuthHandoff Data)) :
    (write m (o.map fun handoff => (appId, handoff))).get appId = o := by
  cases o with
  | none => exact h
  | some handoff => exact Map.get_set_self m appId handoff

variable [DecidableEq Data]

theorem admits_of_load {r : PlatformPluginRegistry Data} (hbefore : Composed before)
    (hids : ∀ b ∈ before, ∀ provider ∈ plugin.authProviders, b.authProviders.get (providerId host provider) = none)
    (h : load host (registered before) plugin = .ok r) :
    ∃ c, Contributes host plugin c ∧ Admits host before c ∧ r = registered (before ++ [c]) := by
  unfold load at h
  obtain ⟨appId, happId, h⟩ := bind_ok.1 h
  obtain ⟨manifest, hmanifest, h⟩ := bind_ok.1 h
  obtain ⟨hnew, h⟩ := refuseIf_bind_ok.1 h
  obtain ⟨hintegrated, h⟩ := refuseIf_bind_ok.1 h
  obtain ⟨handoffs, hhandoffs, h⟩ := bind_ok.1 h
  obtain ⟨authProviders, hproviders, h⟩ := bind_ok.1 h
  obtain ⟨strategies, hstrategies, h⟩ := bind_ok.1 h
  obtain ⟨definitions, hdefinitions, h⟩ := bind_ok.1 h
  obtain ⟨defaults, hdefaults, h⟩ := bind_ok.1 h
  obtain ⟨hentry, h⟩ := refuseIf_bind_ok.1 h
  obtain ⟨profiles, hprofiles, h⟩ := bind_ok.1 h
  obtain ⟨compatibility, hcompatibility, h⟩ := bind_ok.1 h
  obtain ⟨plans, hplans, h⟩ := bind_ok.1 h
  obtain ⟨legacy, hlegacy, h⟩ := bind_ok.1 h
  obtain ⟨hfits, h⟩ := check_bind_ok.1 h
  -- each of the steps is split into what the plugin passes on its own and what it passes against those before
  rw [isNew_iff hbefore (validateManifest_id hmanifest)] at hnew
  rw [not_not] at hintegrated
  have hfree := get_handoffs_eq_none hnew
  obtain ⟨hhandoff, rfl⟩ := (loadHandoff_ok hintegrated hfree).1 hhandoffs
  rw [← after_empty (registered before).authProviders, loadProviders_after (get_authProviders_eq_none hids)] at hproviders
  obtain ⟨ownProviders, hproviders, rfl⟩ := hproviders
  obtain ⟨ownStrategies, hownStrategies, rfl, hnewStrategies⟩ := loadKeyeds_onto.1 hstrategies
  obtain ⟨ownDefinitions, hownDefinitions, rfl, hnewDefinitions⟩ := loadKeyeds_onto.1 hdefinitions
  obtain ⟨hdefault, rfl⟩ := loadDefaults_ok.1 hdefaults
  obtain ⟨hprofile, hsameProfile, rfl⟩ := loadRuntimeProfile_ok.1 hprofiles
  obtain ⟨hsamePlan, rfl⟩ := loadMigration_ok.1 hplans
  rw [get_write_handoff hfree] at hfits
  refine ⟨⟨appId, plugin, manifest, ownProviders, ownStrategies, ownDefinitions, compatibility, legacy⟩, ?_, ?_, ?_⟩
  · exact
      { appId := happId
        plugin_eq := rfl
        manifest := hmanifest
        integrated := hintegrated
        handoff := hhandoff
        authProviders := hproviders
        strategies := hownStrategies
        definitions := hownDefinitions
        entry := Bool.not_eq_true _ ▸ hentry
        profile := hprofile
        compatibility := hcompatibility
        legacy := hlegacy
        legacyFits := by
          rintro legacy rfl
          exact (checkLegacy_ok.1 hfits).1 }
  · exact
      { clear := fun b hb =>
          { appId := hnew b hb
            strategies := strategies_new.1 hnewStrategies b hb
            definitions := strategies_new.1 hnewDefinitions b hb
            profile := (agrees_with_fill (hbefore.consistent fun _ _ => Clear.profile)).1 hsameProfile b hb
            migration := (agrees_with_fill (hbefore.consistent fun _ _ => Clear.migration)).1 hsamePlan b hb }
        supplied := by
          rintro legacy rfl id hid
          have hsome := (checkLegacy_ok.1 hfits).2 id hid
          rw [get_after, Option.isSome_or, Bool.or_eq_true] at hsome
          exact hsome.imp_left isSome_get_join.1
        default := hdefault }
  · rw [pure_ok.1 h, registered_concat, setIfSome_eq, setIfSome_eq]
    rfl

theorem load_of_admits {c : Contribution Data} (hbefore : Composed before)
    (hids : ∀ b ∈ before, ∀ provider ∈ plugin.authProviders, b.authProviders.get (providerId host provider) = none)
    (hc : Contributes host plugin c) (hadmits : Admits host before c) :
    load host (registered before) plugin = .ok (registered (before ++ [c])) := by
  obtain ⟨appId, plugin', manifest, ownProviders, ownStrategies, ownDefinitions, compatibility, legacy⟩ := c
  obtain rfl : plugin' = plugin := hc.plugin_eq
  have hnew : ∀ b ∈ before, b.appId ≠ appId := fun b hb => (hadmits.clear b hb).appId
  have hfree := get_handoffs_eq_none hnew
  have hproviders : plugin'.authProviders.foldlM (loadProvider host manifest) (registered before).authProviders =
      .ok (after (registered before).authProviders ownProviders) := by
    rw [← after_empty (registered before).authProviders, loadProviders_after (get_authProviders_eq_none hids), after_empty]
    exact ⟨ownProviders, hc.authProviders, rfl⟩
  rw [registered_concat]
  unfold load
  refine bind_ok.2 ⟨appId, hc.appId, bind_ok.2 ⟨manifest, hc.manifest, refuseIf_bind_ok.2
    ⟨(isNew_iff hbefore (validateManifest_id hc.manifest)).2 hnew, refuseIf_bind_ok.2 ⟨not_not.2 hc.integrated, ?_⟩⟩⟩⟩
  refine bind_ok.2 ⟨_, (loadHandoff_ok hc.integrated hfree).2 ⟨hc.handoff, rfl⟩, bind_ok.2 ⟨_, hproviders, ?_⟩⟩
  refine bind_ok.2 ⟨_, loadKeyeds_onto.2 ⟨_, hc.strategies, rfl, strategies_new.2 fun b hb => (hadmits.clear b hb).strategies⟩, ?_⟩
  refine bind_ok.2 ⟨_, loadKeyeds_onto.2 ⟨_, hc.definitions, rfl, strategies_new.2 fun b hb => (hadmits.clear b hb).definitions⟩, ?_⟩
  refine bind_ok.2 ⟨_, loadDefaults_ok.2 ⟨hadmits.default, rfl⟩, refuseIf_bind_ok.2 ⟨Bool.not_eq_true _ ▸ hc.entry, ?_⟩⟩
  refine bind_ok.2 ⟨_, loadRuntimeProfile_ok.2 ⟨hc.profile, (agrees_with_fill (hbefore.consistent fun _ _ => Clear.profile)).2
    fun b hb => (hadmits.clear b hb).profile, rfl⟩, bind_ok.2 ⟨compatibility, hc.compatibility, ?_⟩⟩
  refine bind_ok.2 ⟨_, loadMigration_ok.2 ⟨(agrees_with_fill (hbefore.consistent fun _ _ => Clear.migration)).2
    fun b hb => (hadmits.clear b hb).migration, rfl⟩, bind_ok.2 ⟨legacy, hc.legacy, check_bind_ok.2 ⟨?_, ?_⟩⟩⟩
  · rw [get_write_handoff hfree]
    cases hlegacy : legacy with
    | none => rfl
    | some legacy' =>
      refine checkLegacy_ok.2 ⟨hc.legacyFits legacy' hlegacy, fun id hid => ?_⟩
      rw [get_after, Option.isSome_or, Bool.or_eq_true]
      exact (hadmits.supplied legacy' hlegacy id hid).imp_left isSome_get_join.2
  · rw [setIfSome_eq, setIfSome_eq]
    rfl

end OpenApp.Plugins
