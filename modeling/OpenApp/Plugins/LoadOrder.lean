import OpenApp.Plugins.Defaults

/-!
# The order plugins are loaded in

A list of plugins is accepted when each is valid on its own and is admitted after those before it. Two things of that
depend on who comes first: a legacy integration may name a provider that another plugin brings, and of two defaults of
one name the later stands.
-/

namespace OpenApp.Plugins

open Fallible Overlay Script

variable {Data : Type} {host : Contracts Data} {allowEmpty : Bool}

/-! ## A list that is accepted -/

/-- Each is admitted after those before it. -/
def Admitted (host : Contracts Data) : List (Contribution Data) → List (Contribution Data) → Prop
  | _, [] => True
  | before, c :: cs => Admits host before c ∧ Admitted host (before ++ [c]) cs

/-- No auth provider id is provided by both. -/
def ProvidersApart (host : Contracts Data) (p q : AppIntegrationPlugin Data) : Prop :=
  ∀ a ∈ p.authProviders, ∀ b ∈ q.authProviders, providerId host a ≠ providerId host b

/-- What the constructor asks of a list, told apart by plugin. -/
def Admissible (host : Contracts Data) (allowEmpty : Bool) (plugins : List (AppIntegrationPlugin Data)) : Prop :=
  (plugins ≠ [] ∨ allowEmpty = true) ∧ ∃ cs, List.Forall₂ (Contributes host) plugins cs ∧ Admitted host [] cs

theorem clear_of_admitted {before cs : List (Contribution Data)} (h : Admitted host before cs) :
    (∀ b ∈ before, ∀ c ∈ cs, Clear b c) ∧ cs.Pairwise Clear := by
  induction cs generalizing before with
  | nil => simp
  | cons c cs ih =>
    obtain ⟨hadmits, hrest⟩ := h
    obtain ⟨hbefore, hpairs⟩ := ih hrest
    constructor
    · intro b hb c' hc'
      rcases List.mem_cons.1 hc' with rfl | hc'
      · exact hadmits.clear b hb
      · exact hbefore b (List.mem_append_left _ hb) c' hc'
    · exact List.pairwise_cons.2 ⟨fun c' hc' => hbefore c (by simp) c' hc', hpairs⟩

theorem Contributes.manifestId {plugin : AppIntegrationPlugin Data} {c : Contribution Data} (h : Contributes host plugin c) :
    c.manifest.id = c.appId :=
  validateManifest_id h.manifest

/-- A plugin contributes one thing only. -/
theorem Contributes.unique {plugin : AppIntegrationPlugin Data} {c d : Contribution Data} (hc : Contributes host plugin c)
    (hd : Contributes host plugin d) : c = d := by
  obtain ⟨appId, plugin', manifest, providers, strategies, definitions, compatibility, legacy⟩ := c
  obtain ⟨appId', plugin'', manifest', providers', strategies', definitions', compatibility', legacy'⟩ := d
  obtain rfl : plugin' = plugin := hc.plugin_eq
  obtain rfl : plugin'' = plugin' := hd.plugin_eq
  obtain rfl : appId = appId' := Except.ok.inj (hc.appId.symm.trans hd.appId)
  obtain rfl : manifest = manifest' := Except.ok.inj (hc.manifest.symm.trans hd.manifest)
  obtain rfl : providers = providers' := Except.ok.inj (hc.authProviders.symm.trans hd.authProviders)
  obtain rfl : strategies = strategies' := Except.ok.inj (hc.strategies.symm.trans hd.strategies)
  obtain rfl : definitions = definitions' := Except.ok.inj (hc.definitions.symm.trans hd.definitions)
  obtain rfl : compatibility = compatibility' := Except.ok.inj (hc.compatibility.symm.trans hd.compatibility)
  obtain rfl : legacy = legacy' := Except.ok.inj (hc.legacy.symm.trans hd.legacy)
  rfl

theorem unique_contributions {plugins : List (AppIntegrationPlugin Data)} {cs ds : List (Contribution Data)}
    (hcs : List.Forall₂ (Contributes host) plugins cs) (hds : List.Forall₂ (Contributes host) plugins ds) : cs = ds := by
  induction hcs generalizing ds with
  | nil =>
    cases hds
    rfl
  | cons hc _ ih =>
    cases hds with
    | cons hd hds => rw [hc.unique hd, ih hds]

theorem composed_of_admitted {plugins : List (AppIntegrationPlugin Data)} {cs : List (Contribution Data)}
    (hcs : List.Forall₂ (Contributes host) plugins cs) (h : Admitted host [] cs) : Composed cs where
  manifestId := by
    clear h
    induction hcs with
    | nil => simp
    | cons hc _ ih => exact List.forall_mem_cons.2 ⟨hc.manifestId, ih⟩
  pairs := (clear_of_admitted h).2

/-- The ids a plugin registers providers under are those of its own providers. -/
theorem Contributes.get_authProviders {plugin : AppIntegrationPlugin Data} {c : Contribution Data} (h : Contributes host plugin c)
    (id : String) : (c.authProviders.get id).isSome = true ↔ id ∈ plugin.authProviders.map (providerId host) := by
  have hget := isSome_get_loadProviders h.authProviders id
  simpa using hget

variable [DecidableEq Data]

/-- The loop over the plugins: what is before is there as contributions, and none of the ids to come is provided by it. -/
theorem load_all {before : List (Contribution Data)} {plugins : List (AppIntegrationPlugin Data)} {r : PlatformPluginRegistry Data}
    (hbefore : Composed before) (hapart : plugins.Pairwise (ProvidersApart host))
    (hids : ∀ plugin ∈ plugins, ∀ b ∈ before, ∀ provider ∈ plugin.authProviders,
      b.authProviders.get (providerId host provider) = none) :
    plugins.foldlM (load host) (registered before) = .ok r ↔
      ∃ cs, List.Forall₂ (Contributes host) plugins cs ∧ Admitted host before cs ∧ r = registered (before ++ cs) := by
  induction plugins generalizing before with
  | nil =>
    constructor
    · intro h
      refine ⟨[], .nil, trivial, ?_⟩
      rw [List.append_nil]
      exact pure_ok.1 h
    · rintro ⟨cs, hcs, -, rfl⟩
      cases hcs
      rw [List.append_nil]
      rfl
  | cons plugin plugins ih =>
    obtain ⟨hfirst, hrest⟩ := List.forall_mem_cons.1 hids
    obtain ⟨hplugin, hapart⟩ := List.pairwise_cons.1 hapart
    -- what holds of the contributions before holds with the one that was just admitted
    have hcomposed : ∀ {c}, Contributes host plugin c → Admits host before c → Composed (before ++ [c]) := by
      intro c hc hadmits
      constructor
      · simpa [or_imp, forall_and] using ⟨hbefore.manifestId, hc.manifestId⟩
      · simpa [List.pairwise_append] using ⟨hbefore.pairs, hadmits.clear⟩
    have hfresh : ∀ {c}, Contributes host plugin c → ∀ plugin' ∈ plugins, ∀ b ∈ before ++ [c],
        ∀ provider ∈ plugin'.authProviders, b.authProviders.get (providerId host provider) = none := by
      intro c hc plugin' hplugin' b hb provider hprovider
      rcases List.mem_append.1 hb with hb | hb
      · exact hrest plugin' hplugin' b hb provider hprovider
      · obtain rfl := List.mem_singleton.1 hb
        rw [← Option.not_isSome_iff_eq_none, hc.get_authProviders]
        rintro hmem
        obtain ⟨own, hown, hid⟩ := List.mem_map.1 hmem
        exact hplugin plugin' hplugin' own hown provider hprovider hid
    rw [List.foldlM_cons, bind_ok]
    constructor
    · rintro ⟨r₁, hload, h⟩
      obtain ⟨c, hc, hadmits, rfl⟩ := admits_of_load hbefore hfirst hload
      obtain ⟨cs, hcs, hadmitted, rfl⟩ := (ih (hcomposed hc hadmits) hapart (hfresh hc)).1 h
      exact ⟨c :: cs, .cons hc hcs, ⟨hadmits, hadmitted⟩, by simp⟩
    · rintro ⟨cs, hcs, hadmitted, rfl⟩
      cases hcs with
      | cons hc hcs =>
        rename_i c cs
        refine ⟨_, load_of_admits hbefore hfirst hc hadmitted.1, ?_⟩
        exact (ih (hcomposed hc hadmitted.1) hapart (hfresh hc)).2 ⟨cs, hcs, hadmitted.2, by simp⟩

/-- The registry of the contributions, with the contracts that are there without any. -/
def registryOf (cs : List (Contribution Data)) : PlatformPluginRegistry Data :=
  { registered cs with
    executionContracts := (registered cs).executionContracts ++ [GENERIC_RUNTIME_CONTRACT, NO_RUNTIME_CONTRACT] }

theorem newRegistry_ok {plugins : List (AppIntegrationPlugin Data)} {r : PlatformPluginRegistry Data}
    (hapart : plugins.Pairwise (ProvidersApart host)) : newRegistry host allowEmpty plugins = .ok r ↔
      (plugins ≠ [] ∨ allowEmpty = true) ∧
        ∃ cs, List.Forall₂ (Contributes host) plugins cs ∧ Admitted host [] cs ∧ r = registryOf cs := by
  have hload : ∀ r, plugins.foldlM (load host) emptyRegistry = .ok r ↔
      ∃ cs, List.Forall₂ (Contributes host) plugins cs ∧ Admitted host [] cs ∧ r = registered cs := fun r =>
    @load_all _ host _ [] plugins r ⟨by simp, by simp⟩ hapart (by simp)
  unfold newRegistry
  rw [refuseIf_bind_ok, bind_ok, not_and_or, Bool.not_eq_false]
  refine and_congr_right fun _ => ?_
  constructor
  · rintro ⟨r₁, hr₁, h⟩
    obtain ⟨cs, hcs, hadmitted, rfl⟩ := (hload r₁).1 hr₁
    exact ⟨cs, hcs, hadmitted, pure_ok.1 h⟩
  · rintro ⟨cs, hcs, hadmitted, rfl⟩
    exact ⟨registered cs, (hload _).2 ⟨cs, hcs, hadmitted, rfl⟩, rfl⟩

/-! ## What the registry is asked, in another order -/

/-- The registries answer alike, sets taken as sets. -/
structure SameViews (host : Contracts Data) (r r' : PlatformPluginRegistry Data) : Prop where
  authProviderIds : ∀ appId, r.authProviderIdsForApp host appId = r'.authProviderIdsForApp host appId
  executionContracts : ∀ contract, contract ∈ r.executionContracts ↔ contract ∈ r'.executionContracts
  runtimeProfile : ∀ contract, r.runtimeProfileForContract host contract = r'.runtimeProfileForContract host contract
  compatibility : ∀ appId, r.compatibilityForApp host appId = r'.compatibilityForApp host appId
  legacy : ∀ appId, r.legacyForApp host appId = r'.legacyForApp host appId
  adapters : ∀ strategy, strategy ∈ r.buildStrategyAdapters ↔ strategy ∈ r'.buildStrategyAdapters
  definitions : ∀ definition, definition ∈ r.buildStrategyDefinitions ↔ definition ∈ r'.buildStrategyDefinitions
  policyDefaults : r.policyDefaults = r'.policyDefaults

section Views

omit [DecidableEq Data]

variable {cs cs' : List (Contribution Data)}

/-- Each App is set under a key that is new, so they stand in the order they were loaded in. -/
theorem entries_apps (h : cs.Pairwise Clear) : (registered cs).apps.entries = cs.map fun c => (c.appId, c.plugin) := by
  induction cs using List.reverseRecOn with
  | nil => rfl
  | append_singleton cs c ih =>
    obtain ⟨hpairs, -, hlast⟩ := List.pairwise_append.1 h
    have hnew : (registered cs).apps.get c.appId = none := get_apps_eq_none.2 fun b hb => (hlast b hb c (by simp)).appId
    rw [registered_concat, ← after_empty (registered cs).apps, set_after hnew, after, ih hpairs, List.map_append]
    rfl

theorem policyDefaults_perm (h : Composed cs) (hperm : cs.Perm cs') (hdefaults : defaultsOf cs = defaultsOf cs') :
    (registryOf cs).policyDefaults = (registryOf cs').policyDefaults := by
  have hpairs' : cs'.Pairwise Clear := hperm.pairwise h.pairs fun hbc => hbc.symm
  have hentries : (registryOf cs).apps.entries.Perm (registryOf cs').apps.entries := by
    have hmap := hperm.map fun c => (c.appId, c.plugin)
    rwa [← entries_apps h.pairs, ← entries_apps hpairs'] at hmap
  unfold PlatformPluginRegistry.policyDefaults
  rw [show (registryOf cs).provisioningPolicyDefaults = (registryOf cs').provisioningPolicyDefaults from hdefaults]
  generalize (registryOf cs).apps.entries = entries at hentries ⊢
  generalize (registryOf cs').apps.entries = entries' at hentries ⊢
  -- a single App is the same in both lists, and where there are more neither is a single one
  match entries, hentries with
  | [], hentries => rw [hentries.nil_eq]
  | [entry], hentries => rw [hentries.singleton_eq]
  | first :: second :: rest, hentries =>
    have hlength := hentries.length_eq
    match entries', hlength with
    | first' :: second' :: rest', _ => cases (Option.filter truthy _) <;> rfl

/-- The answer is the declared defaults where there is more than one App. -/
theorem policyDefaults_of_two (h : Composed cs) (hlength : 2 ≤ cs.length) : (registryOf cs).policyDefaults = defaultsOf cs := by
  have hentries : (registryOf cs).apps.entries = cs.map fun c => (c.appId, c.plugin) := entries_apps h.pairs
  unfold PlatformPluginRegistry.policyDefaults
  rw [hentries]
  match cs, hlength with
  | _ :: _ :: _, _ => split <;> first | rfl | simp_all

theorem sameViews_of_perm (h : Composed cs) (hperm : cs.Perm cs') (hdefaults : defaultsOf cs = defaultsOf cs') :
    SameViews host (registryOf cs) (registryOf cs') := by
  -- no two write under one App's id
  have hkeyed : ∀ {α : Type} {entry : Contribution Data → Option (String × α)},
      (∀ c key a, entry c = some (key, a) → key = c.appId) → Consistent entry cs := by
    intro α entry hentry
    refine h.consistent fun b c hbc key p q hp hq => absurd ?_ hbc.appId
    rw [← hentry b key p hp, ← hentry c key q hq]
  have happs : ∀ appId, (registryOf cs).apps.get appId = (registryOf cs').apps.get appId := fun _ =>
    get_fill_perm (hkeyed fun c key a hc => (Prod.mk.inj (Option.some.inj hc)).1.symm) hperm
  have hoption : ∀ {α : Type} {o : Option α} {c : Contribution Data} {key : String} {a : α},
      (o.map fun a => (c.appId, a)) = some (key, a) → key = c.appId := by
    intro α o c key a hc
    obtain ⟨_, -, hc⟩ := Option.map_eq_some_iff.1 hc
    exact (Prod.mk.inj hc).1.symm
  constructor
  · intro appId
    rw [PlatformPluginRegistry.authProviderIdsForApp, PlatformPluginRegistry.authProviderIdsForApp,
      PlatformPluginRegistry.get, PlatformPluginRegistry.get, funext happs]
  · intro contract
    simp only [registryOf, registered, List.mem_append, (hperm.flatMap_right _).mem_iff]
  · intro contract
    exact get_fill_perm (h.consistent fun _ _ => Clear.profile) hperm
  · intro appId
    exact get_fill_perm (hkeyed fun _ _ _ => hoption) hperm
  · intro appId
    exact get_fill_perm (hkeyed fun _ _ _ => hoption) hperm
  · intro strategy
    exact mem_values_join_perm hperm
  · intro definition
    exact mem_values_join_perm hperm
  · exact policyDefaults_perm h hperm hdefaults

end Views

/-! ## When the order does not matter -/

/-- The provider a plugin's legacy integration names is one of its own. -/
def BringsItsProvider (host : Contracts Data) (plugin : AppIntegrationPlugin Data) : Prop :=
  ∀ legacy, validateLegacy host plugin.legacy = .ok (some legacy) → ∀ id, legacyProviderId host legacy = some id →
    id ∈ plugin.authProviders.map (providerId host)

def accepts (host : Contracts Data) (allowEmpty : Bool) (plugins : List (AppIntegrationPlugin Data)) : Prop :=
  ∃ r, newRegistry host allowEmpty plugins = .ok r

/-- A list is accepted exactly when each of its permutations is, and the registries answer alike. -/
structure OrderFree (host : Contracts Data) (allowEmpty : Bool) (plugins : List (AppIntegrationPlugin Data)) : Prop where
  accepted : accepts host allowEmpty plugins ↔ ∀ plugins', plugins'.Perm plugins → accepts host allowEmpty plugins'
  sameViews : ∀ r, newRegistry host allowEmpty plugins = .ok r →
    ∀ plugins' r', plugins'.Perm plugins → newRegistry host allowEmpty plugins' = .ok r' → SameViews host r r'

section Orders

variable {plugins plugins' : List (AppIntegrationPlugin Data)} {cs cs' : List (Contribution Data)}

omit [DecidableEq Data] in
theorem ProvidersApart.symm {p q : AppIntegrationPlugin Data} (h : ProvidersApart host p q) : ProvidersApart host q p :=
  fun a ha b hb heq => h b hb a ha heq.symm

omit [DecidableEq Data] in
theorem plugin_of_mem (hcs : List.Forall₂ (Contributes host) plugins cs) {c : Contribution Data} (hc : c ∈ cs) :
    Contributes host c.plugin c ∧ c.plugin ∈ plugins := by
  induction hcs with
  | nil => cases hc
  | cons hplugin _ ih =>
    rcases List.mem_cons.1 hc with rfl | hc
    · rw [hplugin.plugin_eq]
      exact ⟨hplugin, List.mem_cons_self⟩
    · exact ⟨(ih hc).1, List.mem_cons_of_mem _ (ih hc).2⟩

omit [DecidableEq Data] in
theorem contribution_of_mem (hcs : List.Forall₂ (Contributes host) plugins cs) {plugin : AppIntegrationPlugin Data}
    (hplugin : plugin ∈ plugins) : ∃ c ∈ cs, Contributes host plugin c := by
  induction hcs with
  | nil => cases hplugin
  | cons hfirst _ ih =>
    rcases List.mem_cons.1 hplugin with rfl | hplugin
    · exact ⟨_, List.mem_cons_self, hfirst⟩
    · obtain ⟨c, hc, hcontributes⟩ := ih hplugin
      exact ⟨c, List.mem_cons_of_mem _ hc, hcontributes⟩

omit [DecidableEq Data] in
/-- A default App that agrees with those declared before conflicts with none of them. -/
theorem not_conflicting {before : List (Contribution Data)} {incoming : ProvisioningPolicyDefaults Data}
    (h : ∀ b ∈ before, ∀ d, b.defaults = some d → Agree d incoming) : conflicting host (defaultsOf before) incoming = false := by
  have happ : ∀ x, (defaultsOf before).defaultAppId = some x → ∀ y, incoming.defaultAppId = some y → x = y := by
    intro x hx y hy
    have hlatest := @get_defaultsOf _ before _ (·.defaultAppId) (fun _ _ => rfl) rfl
    obtain ⟨b, hb, hbx⟩ := List.mem_map.1 (mem_of_latest (hlatest.symm.trans hx))
    obtain ⟨d, hd, hdx⟩ := Option.bind_eq_some_iff.1 hbx
    exact (h b hb d hd).defaultAppId x y hdx hy
  unfold conflicting
  split
  · rename_i current incoming' hcurrent hincoming
    obtain rfl := Option.some.inj (happ _ hcurrent _ hincoming)
    simp
  · rfl

omit [DecidableEq Data] in
/-- Nothing but the providers and the defaults depends on who was admitted before. -/
theorem admitted_of_pairs {before : List (Contribution Data)} (hpairs : (before ++ cs).Pairwise Clear) (hagreed : Agreed (before ++ cs))
    (hown : ∀ c ∈ cs, ∀ legacy, c.legacy = some legacy → ∀ id, legacyProviderId host legacy = some id →
      (c.authProviders.get id).isSome = true) : Admitted host before cs := by
  induction cs generalizing before with
  | nil => trivial
  | cons c cs ih =>
    obtain ⟨hfirst, hothers⟩ := List.forall_mem_cons.1 hown
    refine ⟨⟨?_, fun legacy hlegacy id hid => .inr (hfirst legacy hlegacy id hid), ?_⟩, ih ?_ ?_ hothers⟩
    · exact fun b hb => (List.pairwise_append.1 hpairs).2.2 b hb c List.mem_cons_self
    · exact fun incoming hincoming => not_conflicting fun b hb d hd =>
        hagreed b (by simp [hb]) c (by simp) d incoming hd hincoming
    · rwa [List.append_assoc]
    · rwa [List.append_assoc]

omit [DecidableEq Data] in
/-- Any order of the contributions belongs to an order of the plugins. -/
theorem plugins_of_perm (hcs : List.Forall₂ (Contributes host) plugins cs) (hperm : cs'.Perm cs) :
    ∃ plugins', plugins'.Perm plugins ∧ List.Forall₂ (Contributes host) plugins' cs' := by
  obtain ⟨plugins', hflip, hplugins⟩ := List.perm_comp_forall₂ hperm hcs.flip
  exact ⟨plugins', hplugins, hflip.flip⟩

theorem admissible_of_accepts (hapart : plugins.Pairwise (ProvidersApart host)) (h : accepts host allowEmpty plugins) :
    Admissible host allowEmpty plugins := by
  obtain ⟨r, hr⟩ := h
  obtain ⟨hnonempty, cs, hcs, hadmitted, -⟩ := (newRegistry_ok hapart).1 hr
  exact ⟨hnonempty, cs, hcs, hadmitted⟩

/-- The contributions of an accepted list are admitted in any order, and the registry is theirs. -/
theorem admitted_of_orderFree (hapart : plugins.Pairwise (ProvidersApart host)) (h : OrderFree host allowEmpty plugins)
    (haccepts : accepts host allowEmpty plugins) (hcs : List.Forall₂ (Contributes host) plugins cs) (hperm : cs'.Perm cs) :
    Admitted host [] cs' ∧ ∃ plugins', plugins'.Perm plugins ∧ newRegistry host allowEmpty plugins' = .ok (registryOf cs') := by
  obtain ⟨plugins', hplugins, hcs'⟩ := plugins_of_perm hcs hperm
  have hapart' : plugins'.Pairwise (ProvidersApart host) := hplugins.symm.pairwise hapart fun hpq => hpq.symm
  obtain ⟨r', hr'⟩ := h.accepted.1 haccepts plugins' hplugins
  obtain ⟨-, cs'', hcs'', hadmitted, rfl⟩ := (newRegistry_ok hapart').1 hr'
  obtain rfl := unique_contributions hcs' hcs''
  exact ⟨hadmitted, plugins', hplugins, hr'⟩

/-- Where the order does not matter, a plugin that is loaded first finds the provider it names. -/
theorem brings_of_orderFree (hapart : plugins.Pairwise (ProvidersApart host)) (h : OrderFree host allowEmpty plugins)
    (haccepts : accepts host allowEmpty plugins) (hcs : List.Forall₂ (Contributes host) plugins cs) :
    ∀ plugin ∈ plugins, BringsItsProvider host plugin := by
  intro plugin hplugin legacy hlegacy id hid
  obtain ⟨c, hc, hcontributes⟩ := contribution_of_mem hcs hplugin
  obtain ⟨s, t, rfl⟩ := List.append_of_mem hc
  have hperm : (c :: (s ++ t)).Perm (s ++ c :: t) := List.perm_middle.symm
  have hfirst := (admitted_of_orderFree hapart h haccepts hcs hperm).1
  have hlegacy' : c.legacy = some legacy := Except.ok.inj (hcontributes.legacy.symm.trans hlegacy)
  rcases hfirst.1.supplied legacy hlegacy' id hid with ⟨_, hb, -⟩ | hown
  · cases hb
  · exact (hcontributes.get_authProviders id).1 hown

/-- Where the order does not matter, what stands when one of two plugins is last stands when the other is. -/
theorem defaults_of_orderFree (hapart : plugins.Pairwise (ProvidersApart host)) (h : OrderFree host allowEmpty plugins)
    (haccepts : accepts host allowEmpty plugins) (hcs : List.Forall₂ (Contributes host) plugins cs)
    (hcs' : cs'.Perm cs) {cs'' : List (Contribution Data)} (hcs'' : cs''.Perm cs) :
    (registryOf cs').policyDefaults = (registryOf cs'').policyDefaults := by
  obtain ⟨r, hr⟩ := haccepts
  obtain ⟨-, plugins', hplugins', hr'⟩ := admitted_of_orderFree hapart h ⟨r, hr⟩ hcs hcs'
  obtain ⟨-, plugins'', hplugins'', hr''⟩ := admitted_of_orderFree hapart h ⟨r, hr⟩ hcs hcs''
  have hsame' := (h.sameViews r hr plugins' _ hplugins' hr').policyDefaults
  have hsame'' := (h.sameViews r hr plugins'' _ hplugins'' hr'').policyDefaults
  exact hsame'.symm.trans hsame''

omit [DecidableEq Data] in
theorem Composed.perm (h : Composed cs) (hperm : cs'.Perm cs) : Composed cs' where
  manifestId c hc := h.manifestId c (hperm.mem_iff.1 hc)
  pairs := hperm.symm.pairwise h.pairs fun hbc => hbc.symm

omit [DecidableEq Data] in
theorem two_le_length {α : Type} {l : List α} {a b : α} (ha : a ∈ l) (hb : b ∈ l) (hne : a ≠ b) : 2 ≤ l.length := by
  match l with
  | [] => cases ha
  | [c] => exact absurd ((List.mem_singleton.1 ha).trans (List.mem_singleton.1 hb).symm) hne
  | _ :: _ :: _ => simp

omit [DecidableEq Data] in
theorem Agree.refl (d : ProvisioningPolicyDefaults Data) : Agree d d := by
  have hsame : ∀ m : Members Data, SameMembers m m := fun m key x y hx hy => Option.some.inj (hx.symm.trans hy)
  exact ⟨fun x y hx hy => Option.some.inj (hx.symm.trans hy), hsame _, hsame _, hsame _, hsame _⟩

theorem agreed_of_orderFree (hapart : plugins.Pairwise (ProvidersApart host)) (h : OrderFree host allowEmpty plugins)
    (haccepts : accepts host allowEmpty plugins) (hcs : List.Forall₂ (Contributes host) plugins cs) (hcomposed : Composed cs) :
    Agreed cs := by
  intro b hb c hc d e hd he
  by_cases hbc : b = c
  · subst hbc
    obtain rfl := Option.some.inj (hd.symm.trans he)
    exact Agree.refl d
  · -- the defaults of `b` stand when it is last, those of `c` when that is
    have hlast : ∀ {a}, a ∈ cs → ∃ rest, (rest ++ [a]).Perm cs := by
      intro a ha
      obtain ⟨s, t, rfl⟩ := List.append_of_mem ha
      exact ⟨s ++ t, (List.perm_append_singleton a (s ++ t)).trans List.perm_middle.symm⟩
    have hdefaults : ∀ {cs'}, cs'.Perm cs → (registryOf cs').policyDefaults = defaultsOf cs' := fun hperm =>
      policyDefaults_of_two (hcomposed.perm hperm) (hperm.length_eq ▸ two_le_length hb hc hbc)
    obtain ⟨restB, hpermB⟩ := hlast hb
    obtain ⟨restC, hpermC⟩ := hlast hc
    have hsame := defaults_of_orderFree hapart h haccepts hcs hpermB hpermC
    rw [hdefaults hpermB, hdefaults hpermC] at hsame
    have hagree : ∀ {α : Type} (get : ProvisioningPolicyDefaults Data → Option α),
        (∀ current incoming, get (merged current incoming) = (get incoming <|> get current)) →
        ∀ x y, get d = some x → get e = some y → x = y := by
      intro α get hmerged x y hx hy
      have hfirst := @defaultsOf_last _ restB _ get hmerged _ _ _ hd hx
      have hsecond := @defaultsOf_last _ restC _ get hmerged _ _ _ he hy
      rw [hsame] at hfirst
      exact Option.some.inj (hfirst.symm.trans hsecond)
    exact
      { defaultAppId := hagree (·.defaultAppId) fun _ _ => rfl
        settings := fun key => hagree (·.settings key) fun _ _ => rfl
        resources := fun key => hagree (fun d => nested d.resources key) fun _ _ => nested_mergeMembers _ _ key
        environment := fun key => hagree (fun d => nested d.environment key) fun _ _ => nested_mergeMembers _ _ key
        configFiles := fun key => hagree (fun d => nested d.configFiles key) fun _ _ => nested_mergeMembers _ _ key }

end Orders

/-- Plugins may be loaded in any order exactly when, where they are accepted in this one, each brings the provider its
legacy integration names and no two declare a default differently. -/
theorem orderFree_iff {plugins : List (AppIntegrationPlugin Data)} (hapart : plugins.Pairwise (ProvidersApart host)) :
    OrderFree host allowEmpty plugins ↔
      (Admissible host allowEmpty plugins → (∀ plugin ∈ plugins, BringsItsProvider host plugin) ∧ DefaultsAgree plugins) := by
  constructor
  · rintro h ⟨hnonempty, cs, hcs, hadmitted⟩
    have hcomposed := composed_of_admitted hcs hadmitted
    have haccepts : accepts host allowEmpty plugins :=
      ⟨registryOf cs, (newRegistry_ok hapart).2 ⟨hnonempty, cs, hcs, hadmitted, rfl⟩⟩
    refine ⟨brings_of_orderFree hapart h haccepts hcs, fun p hp q hq d e hd he => ?_⟩
    obtain ⟨b, hb, hpb⟩ := contribution_of_mem hcs hp
    obtain ⟨c, hc, hqc⟩ := contribution_of_mem hcs hq
    rw [← hpb.plugin_eq] at hd
    rw [← hqc.plugin_eq] at he
    exact agreed_of_orderFree hapart h haccepts hcs hcomposed b hb c hc d e hd he
  · intro hcond
    -- each permutation is accepted, with the contributions in the order of the plugins
    have hpermuted : ∀ cs, (plugins ≠ [] ∨ allowEmpty = true) → List.Forall₂ (Contributes host) plugins cs → Admitted host [] cs →
        ∀ plugins', plugins'.Perm plugins →
          ∃ cs', newRegistry host allowEmpty plugins' = .ok (registryOf cs') ∧ SameViews host (registryOf cs) (registryOf cs') := by
      intro cs hnonempty hcs hadmitted plugins' hperm
      obtain ⟨hbrings, hagree⟩ := hcond ⟨hnonempty, cs, hcs, hadmitted⟩
      have hcomposed := composed_of_admitted hcs hadmitted
      obtain ⟨cs', hcs', hpermcs⟩ := List.perm_comp_forall₂ hperm hcs
      have hagreed : Agreed cs := fun b hb c hc =>
        hagree b.plugin (plugin_of_mem hcs hb).2 c.plugin (plugin_of_mem hcs hc).2
      have hagreed' : Agreed cs' := fun b hb c hc => hagreed b (hpermcs.mem_iff.1 hb) c (hpermcs.mem_iff.1 hc)
      have hown : ∀ c ∈ cs', ∀ legacy, c.legacy = some legacy → ∀ id, legacyProviderId host legacy = some id →
          (c.authProviders.get id).isSome = true := by
        intro c hc legacy hlegacy id hid
        obtain ⟨hcontributes, hmem⟩ := plugin_of_mem hcs (hpermcs.mem_iff.1 hc)
        rw [hcontributes.get_authProviders]
        exact hbrings c.plugin hmem legacy (hlegacy ▸ hcontributes.legacy) id hid
      have hadmitted' : Admitted host [] cs' := admitted_of_pairs (hcomposed.perm hpermcs).pairs hagreed' hown
      have hnonempty' : plugins' ≠ [] ∨ allowEmpty = true := hnonempty.imp_left fun hne hnil =>
        hne (List.Perm.nil_eq (hnil ▸ hperm)).symm
      refine ⟨cs', (newRegistry_ok (hperm.symm.pairwise hapart fun hpq => hpq.symm)).2 ⟨hnonempty', cs', hcs', hadmitted', rfl⟩, ?_⟩
      exact sameViews_of_perm hcomposed hpermcs.symm (defaultsOf_perm hagreed hpermcs.symm)
    refine ⟨⟨?_, fun h => h plugins (List.Perm.refl plugins)⟩, ?_⟩
    · rintro ⟨r, hr⟩ plugins' hperm
      obtain ⟨hnonempty, cs, hcs, hadmitted, -⟩ := (newRegistry_ok hapart).1 hr
      obtain ⟨cs', hcs', -⟩ := hpermuted cs hnonempty hcs hadmitted plugins' hperm
      exact ⟨registryOf cs', hcs'⟩
    · intro r hr plugins' r' hperm hr'
      obtain ⟨hnonempty, cs, hcs, hadmitted, rfl⟩ := (newRegistry_ok hapart).1 hr
      obtain ⟨cs', hcs', hsame⟩ := hpermuted cs hnonempty hcs hadmitted plugins' hperm
      obtain rfl := Except.ok.inj (hcs'.symm.trans hr')
      exact hsame

section Sample

def sampleContracts : Contracts String where
  toLowerCase s := String.ofList (s.toList.map Char.toLower)
  validateRuntimeProfile _ := true
  validateAdapterCompatibility _ := none
  validateAdapterLegacy _ := none

/-- A plugin with a provider of its own, and what it declares under one name of the environment. -/
def samplePlugin (appId : String) (mode : Option String) : AppIntegrationPlugin String where
  appId
  manifest := ⟨appId, "1", "1.0.0", [appId ++ "-login"], [appId], [], none, none, []⟩
  authHandoff := none
  authProviders := [⟨appId ++ "-login", some .app⟩]
  buildStrategies := []
  strategyDefinitions := []
  provisioningPolicyDefaults := mode.map fun value =>
    ⟨none, fun _ => none, none, some fun key => if key = "MODE" then some value else none, none⟩
  entryExperience := none
  runtimeProfile := none
  compatibility := none
  legacy := none

theorem sample_apart (first second : Option String) :
    [samplePlugin "alpha" first, samplePlugin "beta" second].Pairwise (ProvidersApart sampleContracts) := by
  simp only [List.pairwise_cons, List.mem_singleton, forall_eq, List.not_mem_nil, false_imp_iff, implies_true, List.Pairwise.nil,
    and_true, ProvidersApart, samplePlugin]
  decide

theorem undeclared_orderFree :
    [samplePlugin "alpha" none, samplePlugin "beta" (some "full")].Pairwise (ProvidersApart sampleContracts) ∧
      OrderFree sampleContracts false [samplePlugin "alpha" none, samplePlugin "beta" (some "full")] := by
  refine ⟨sample_apart _ _, (orderFree_iff (sample_apart none (some "full"))).2 fun _ => ⟨?_, ?_⟩⟩
  · intro plugin hplugin legacy hlegacy
    simp only [List.mem_cons, List.not_mem_nil, or_false] at hplugin
    rcases hplugin with rfl | rfl <;> cases hlegacy
  · intro p hp q hq d e hd he
    simp only [List.mem_cons, List.not_mem_nil, or_false] at hp hq
    rcases hp with rfl | rfl
    · cases hd
    rcases hq with rfl | rfl
    · cases he
    obtain rfl := Option.some.inj (hd.symm.trans he)
    exact Agree.refl d

/-- What two plugins declare differently is what the later one declares. -/
theorem declared_orderBound :
    [samplePlugin "alpha" (some "full"), samplePlugin "beta" (some "lite")].Pairwise (ProvidersApart sampleContracts) ∧
      ¬ OrderFree sampleContracts false [samplePlugin "alpha" (some "full"), samplePlugin "beta" (some "lite")] := by
  refine ⟨sample_apart _ _, fun h => ?_⟩
  have hfirst : ((newRegistry sampleContracts false [samplePlugin "alpha" (some "full"), samplePlugin "beta" (some "lite")]).toOption.map
      fun r => nested r.policyDefaults.environment "MODE") = some (some "lite") := by decide +kernel
  have hsecond : ((newRegistry sampleContracts false [samplePlugin "beta" (some "lite"), samplePlugin "alpha" (some "full")]).toOption.map
      fun r => nested r.policyDefaults.environment "MODE") = some (some "full") := by decide +kernel
  cases hr : newRegistry sampleContracts false [samplePlugin "alpha" (some "full"), samplePlugin "beta" (some "lite")] with
  | error e =>
    rw [hr] at hfirst
    cases hfirst
  | ok r =>
    cases hr' : newRegistry sampleContracts false [samplePlugin "beta" (some "lite"), samplePlugin "alpha" (some "full")] with
    | error e =>
      rw [hr'] at hsecond
      cases hsecond
    | ok r' =>
      have hsame := (h.sameViews r hr _ r' (List.Perm.swap _ _ _) hr').policyDefaults
      rw [hr] at hfirst
      rw [hr'] at hsecond
      have hlite : nested r.policyDefaults.environment "MODE" = some "lite" := Option.some.inj hfirst
      have hfull : nested r'.policyDefaults.environment "MODE" = some "full" := Option.some.inj hsecond
      rw [hsame, hfull] at hlite
      exact absurd (Option.some.inj hlite) (by decide)

end Sample

end OpenApp.Plugins
