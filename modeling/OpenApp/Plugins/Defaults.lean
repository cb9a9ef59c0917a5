import OpenApp.Plugins.Contributions

/-!
# Defaults that plugins declare

Of two defaults of one name the one that is merged later stands. When no two plugins declare one differently, the
defaults are the same in whatever order they are merged.
-/

namespace OpenApp.Plugins

open Overlay

variable {Data : Type}

/-- The members of an object that may be left out. -/
def nested (o : Option (Members Data)) : Members Data :=
  o.getD fun _ => none

/-- Two objects have the same under a key that both have. -/
def SameMembers (m n : Members Data) : Prop :=
  ∀ key x y, m key = some x → n key = some y → x = y

/-- Two plugins declare no default differently. -/
structure Agree (d e : ProvisioningPolicyDefaults Data) : Prop where
  defaultAppId : ∀ x y, d.defaultAppId = some x → e.defaultAppId = some y → x = y
  settings : SameMembers d.settings e.settings
  resources : SameMembers (nested d.resources) (nested e.resources)
  environment : SameMembers (nested d.environment) (nested e.environment)
  configFiles : SameMembers (nested d.configFiles) (nested e.configFiles)

def DefaultsAgree (plugins : List (AppIntegrationPlugin Data)) : Prop :=
  ∀ p ∈ plugins, ∀ q ∈ plugins, ∀ d e, p.provisioningPolicyDefaults = some d → q.provisioningPolicyDefaults = some e → Agree d e

namespace Contribution

def defaults (c : Contribution Data) : Option (ProvisioningPolicyDefaults Data) :=
  c.plugin.provisioningPolicyDefaults

end Contribution

variable {cs cs' : List (Contribution Data)}

theorem defaultsOf_concat (c : Contribution Data) :
    defaultsOf (cs ++ [c]) = (c.defaults.map (merged (defaultsOf cs))).getD (defaultsOf cs) := by
  rw [defaultsOf, List.foldl_append]
  rfl

/-- A default that the later plugin that has it decides. -/
theorem get_defaultsOf {α : Type} (get : ProvisioningPolicyDefaults Data → Option α)
    (hmerged : ∀ current incoming, get (merged current incoming) = (get incoming <|> get current))
    (hnone : get noDefaults = none) : get (defaultsOf cs) = latest (cs.map fun c => c.defaults.bind get) := by
  induction cs using List.reverseRecOn with
  | nil => exact hnone
  | append_singleton cs c ih =>
    rw [defaultsOf_concat, List.map_append, List.map_singleton, latest_concat, ← ih]
    cases c.defaults with
    | none => rfl
    | some incoming => exact hmerged _ _

/-- What the last plugin declares stands. -/
theorem defaultsOf_last {α : Type} (get : ProvisioningPolicyDefaults Data → Option α)
    (hmerged : ∀ current incoming, get (merged current incoming) = (get incoming <|> get current)) {c : Contribution Data}
    {d : ProvisioningPolicyDefaults Data} {x : α} (hd : c.defaults = some d) (hx : get d = some x) :
    get (defaultsOf (cs ++ [c])) = some x := by
  rw [defaultsOf_concat, hd, Option.map_some, Option.getD_some, hmerged, hx]
  rfl

theorem nested_mergeMembers (current incoming : Option (Members Data)) (key : String) :
    nested (mergeMembers current incoming) key = (nested incoming key <|> nested current key) := by
  cases incoming <;> cases current <;> simp [mergeMembers, nested, spread]

theorem isSome_mergeMembers (current incoming : Option (Members Data)) :
    (mergeMembers current incoming).isSome = (current.isSome || incoming.isSome) := by
  cases incoming <;> cases current <;> rfl

theorem ext_nested {m n : Option (Members Data)} (hsome : m.isSome = n.isSome) (h : ∀ key, nested m key = nested n key) : m = n := by
  cases m with
  | none =>
    cases n with
    | none => rfl
    | some n => cases hsome
  | some m =>
    cases n with
    | none => cases hsome
    | some n =>
      congr 1
      funext key
      exact h key

/-- A member is there once a plugin has it, whatever its members are. -/
theorem isSome_defaultsOf (field : ProvisioningPolicyDefaults Data → Option (Members Data))
    (hmerged : ∀ current incoming, field (merged current incoming) = mergeMembers (field current) (field incoming))
    (hnone : field noDefaults = none) :
    (field (defaultsOf cs)).isSome = cs.any fun c => (c.defaults.bind field).isSome := by
  induction cs using List.reverseRecOn with
  | nil => simp [defaultsOf, hnone]
  | append_singleton cs c ih =>
    rw [defaultsOf_concat, List.any_append, List.any_cons, List.any_nil, Bool.or_false, ← ih]
    cases c.defaults with
    | none => simp
    | some incoming =>
      rw [Option.map_some, Option.getD_some, hmerged, isSome_mergeMembers]
      rfl

/-- Contributions of which no two declare a default differently. -/
def Agreed (cs : List (Contribution Data)) : Prop :=
  ∀ b ∈ cs, ∀ c ∈ cs, ∀ d e, b.defaults = some d → c.defaults = some e → Agree d e

theorem agreeing_defaults (h : Agreed cs) {α : Type} (get : ProvisioningPolicyDefaults Data → Option α)
    (hget : ∀ d e, Agree d e → ∀ x y, get d = some x → get e = some y → x = y) :
    Agreeing (cs.map fun c => c.defaults.bind get) := by
  intro x y hx hy
  obtain ⟨b, hb, hx⟩ := List.mem_map.1 hx
  obtain ⟨c, hc, hy⟩ := List.mem_map.1 hy
  obtain ⟨d, hd, hx⟩ := Option.bind_eq_some_iff.1 hx
  obtain ⟨e, he, hy⟩ := Option.bind_eq_some_iff.1 hy
  exact hget d e (h b hb c hc d e hd he) x y hx hy

theorem get_defaultsOf_perm (h : Agreed cs) (hperm : cs.Perm cs') {α : Type} (get : ProvisioningPolicyDefaults Data → Option α)
    (hmerged : ∀ current incoming, get (merged current incoming) = (get incoming <|> get current))
    (hnone : get noDefaults = none) (hget : ∀ d e, Agree d e → ∀ x y, get d = some x → get e = some y → x = y) :
    get (defaultsOf cs) = get (defaultsOf cs') := by
  rw [get_defaultsOf get hmerged hnone, get_defaultsOf get hmerged hnone]
  exact latest_perm (agreeing_defaults h get hget) (hperm.map _)

theorem field_defaultsOf_perm (h : Agreed cs) (hperm : cs.Perm cs') (field : ProvisioningPolicyDefaults Data → Option (Members Data))
    (hmerged : ∀ current incoming, field (merged current incoming) = mergeMembers (field current) (field incoming))
    (hnone : field noDefaults = none) (hfield : ∀ d e, Agree d e → SameMembers (nested (field d)) (nested (field e))) :
    field (defaultsOf cs) = field (defaultsOf cs') := by
  apply ext_nested
  · rw [isSome_defaultsOf field hmerged hnone, isSome_defaultsOf field hmerged hnone, hperm.any_eq]
  · intro key
    refine get_defaultsOf_perm h hperm (fun d => nested (field d) key) (fun current incoming => ?_) ?_ ?_
    · rw [hmerged, nested_mergeMembers]
    · rw [hnone]
      rfl
    · exact fun d e hde => hfield d e hde key

/-- Defaults that agree are merged to the same in any order. -/
theorem defaultsOf_perm (h : Agreed cs) (hperm : cs.Perm cs') : defaultsOf cs = defaultsOf cs' := by
  have happ := get_defaultsOf_perm h hperm (·.defaultAppId) (fun _ _ => rfl) rfl fun _ _ => Agree.defaultAppId
  have hsettings : (defaultsOf cs).settings = (defaultsOf cs').settings := by
    funext key
    exact get_defaultsOf_perm h hperm (·.settings key) (fun _ _ => rfl) rfl fun _ _ hde => hde.settings key
  have hresources := field_defaultsOf_perm h hperm (·.resources) (fun _ _ => rfl) rfl fun _ _ => Agree.resources
  have henvironment := field_defaultsOf_perm h hperm (·.environment) (fun _ _ => rfl) rfl fun _ _ => Agree.environment
  have hfiles := field_defaultsOf_perm h hperm (·.configFiles) (fun _ _ => rfl) rfl fun _ _ => Agree.configFiles
  cases hcs : defaultsOf cs
  cases hcs' : defaultsOf cs'
  simp only [hcs, hcs'] at happ hsettings hresources henvironment hfiles
  subst happ hsettings hresources henvironment hfiles
  rfl

end OpenApp.Plugins
