import OpenApp.Docker.Looking

/-!
# The containers of an instance are found

The containers of an instance are confined to the four slots of its configured name where no former name has one
and none is labelled as the instance's elsewhere. Then the four slots are what a removal finds, whatever the
runtime remembers.
-/

namespace OpenApp.Docker.Environment

open Async Async.Prog Script

/-- The name of the canonical container as it is configured. -/
def configuredName (config : RuntimeConfig) (instanceId : String) : String :=
  config.namePrefix ++ instanceId

/-- The instance has no container but in the four slots of its configured name, as far as a runtime looks. -/
structure Confined (config : RuntimeConfig) (instanceId : String) (w : World) : Prop where
  former : ∀ namePrefix ∈ config.legacyNamePrefixes, ∀ slot,
    (w.container (slotName (namePrefix ++ instanceId) slot)).isSome = true →
      namePrefix ++ instanceId = configuredName config instanceId
  labelled : config.resourceDiscovery = true → ∀ labelPrefix ∈ config.labelPrefixes,
    ∀ name ∈ w.labelledNames instanceId .container labelPrefix,
      (rebuildArtifactBase name).getD name = configuredName config instanceId

/-- Where another name than the configured one is remembered, nothing stands under it. -/
def RemembersContainer (config : RuntimeConfig) (instanceId : String) (w : World) : Prop :=
  ∀ name ∈ w.refs .container, name = configuredName config instanceId ∨ w.container name = none

variable {config : RuntimeConfig} {instanceId : String} {w w' : World}

/-- The container stands under the name, and is what is said of it. -/
def FoundAt (config : RuntimeConfig) (instanceId : String) (w : World) (name : String) (found : FoundContainer) : Prop :=
  ∃ inspect, w.container name = some inspect ∧ toInstance config instanceId inspect name = .ok found

theorem FoundAt.isSome {name : String} {found : FoundContainer} (h : FoundAt config instanceId w name found) :
    (w.container name).isSome = true := by
  obtain ⟨inspect, hinspect, -⟩ := h
  rw [hinspect]
  rfl

theorem FoundAt.resourceName {found : FoundContainer} (h : FoundAt config instanceId w (configuredName config instanceId) found) :
    found.resourceName = none := by
  obtain ⟨inspect, -, h⟩ := h
  unfold toInstance at h
  obtain ⟨ownerId, -, h⟩ := Fallible.bind_ok.1 h
  obtain ⟨snapshot, -, h⟩ := Fallible.bind_ok.1 h
  obtain ⟨rebuild, -, h⟩ := Fallible.bind_ok.1 h
  obtain ⟨hostname, -, h⟩ := Fallible.bind_ok.1 h
  obtain rfl := Except.ok.inj h
  exact if_neg (not_not.2 rfl)

theorem tells_containerName : Tells instanceId w (containerName config instanceId)
    (· = .ok ((w.refs .container).getD (configuredName config instanceId))) :=
  tells_bind tells_ref nofun fun name h => by
    obtain rfl := Except.ok.inj h
    exact tells_pure rfl

/-- Where the names that are looked under have no container but the configured one, that one is found, or none. -/
theorem tells_searchContainers {leftOut : String → Bool} {names : List String} {found : Option (String × FoundContainer)}
    (hnames : ∀ name ∈ names, leftOut name = false → (w.container name).isSome = true →
      name = configuredName config instanceId)
    (hfound : ∀ entry ∈ found, entry.1 = configuredName config instanceId ∧
      FoundAt config instanceId w (configuredName config instanceId) entry.2) :
    Tells instanceId w (searchContainers config instanceId leftOut names found) fun
      | .ok found => ∀ entry ∈ found, entry.1 = configuredName config instanceId ∧
        FoundAt config instanceId w (configuredName config instanceId) entry.2
      | .error _ => True := by
  induction names generalizing found with
  | nil => exact tells_pure hfound
  | cons name names ih =>
    have hrest := fun other hother => hnames other (List.mem_cons_of_mem name hother)
    unfold searchContainers
    split
    · exact ih hrest hfound
    · next hlook =>
      refine tells_bind tells_inspectContainerByName (fun _ _ => trivial) fun told htold => ?_
      cases told with
      | none => exact ih hrest hfound
      | some container =>
        have hname : name = configuredName config instanceId := by
          refine hnames name List.mem_cons_self ?_ (FoundAt.isSome htold)
          exact Bool.eq_false_iff.2 fun hleft => hlook (.inl hleft)
        cases found with
        | some entry => exact tells_throw trivial
        | none =>
          refine ih hrest ?_
          rintro entry hentry
          obtain rfl := Option.some.inj hentry
          exact ⟨hname, hname ▸ htold⟩

theorem tells_discoverContainers {legacyNames : List String} {found : Option (String × FoundContainer)}
    (hconfined : Confined config instanceId w)
    (hfound : ∀ entry ∈ found, entry.1 = configuredName config instanceId ∧
      FoundAt config instanceId w (configuredName config instanceId) entry.2) :
    Tells instanceId w (discoverContainers config instanceId legacyNames found) fun
      | .ok found => ∀ entry ∈ found, entry.1 = configuredName config instanceId ∧
        FoundAt config instanceId w (configuredName config instanceId) entry.2
      | .error _ => True := by
  unfold discoverContainers
  split
  · next hdiscovery =>
    refine tells_bind tells_listManagedResourceNames (fun _ _ => trivial) fun discovered hdiscovered => ?_
    refine tells_searchContainers (fun name hname hleft _ => ?_) hfound
    obtain ⟨labelPrefix, hmem, hlabelled⟩ := hdiscovered.1 name hname
    have hbase := hconfined.labelled hdiscovery labelPrefix hmem name hlabelled
    rw [Bool.or_eq_false_iff, isRebuildArtifactName, Option.isSome_eq_false_iff, Option.isNone_iff_eq_none] at hleft
    rwa [hleft.2] at hbase
  · exact tells_pure hfound

/-- What the search for the canonical container leaves: it is remembered where it was found, or nothing is. -/
structure Sought (config : RuntimeConfig) (instanceId : String) (w w' : World) : Prop extends Looked w w' where
  others : ∀ key, key ≠ .container → w'.refs key = w.refs key
  remembers : RemembersContainer config instanceId w'

theorem sought_of_glanced {config : RuntimeConfig} (hremembers : RemembersContainer config instanceId w)
    (h : Glanced w w') : Sought config instanceId w w' := by
  refine ⟨h.toLooked, fun key _ => congrFun h.refs key, fun name hname => ?_⟩
  rw [h.container]
  exact hremembers name (congrFun h.refs .container ▸ hname)

theorem ends_inspectContainer (hconfined : Confined config instanceId w)
    (hremembers : RemembersContainer config instanceId w) :
    ends (perform instanceId) Honest (inspectContainer config instanceId) (fun r w' =>
      Sought config instanceId w w' ∧ match r with
        | .ok (some found) => FoundAt config instanceId w (configuredName config instanceId) found ∧
          w'.refs .container = some (configuredName config instanceId)
        | .ok none => w'.refs .container = none
        | .error _ => True) w := by
  refine ends_then (tells_containerName w (.refl w)) (fun failure w₁ h => ⟨sought_of_glanced hremembers h.1, trivial⟩) ?_
  rintro requestedName w₁ ⟨hglanced, hname⟩
  obtain rfl := Except.ok.inj hname
  refine ends_then (tells_inspectContainerByName w₁ hglanced) (fun failure w₂ h => ⟨sought_of_glanced hremembers h.1, trivial⟩) ?_
  have hremembered : ∀ w₂ name, Glanced w w₂ → name = configuredName config instanceId →
      Sought config instanceId w (w₂.withRef .container name) := by
    rintro w₂ name h rfl
    refine ⟨h.toLooked.trans (looked_withRef _ _), fun key hkey => ?_, fun name hname => .inl ?_⟩
    · exact (withRef_of_ne hkey _).trans (congrFun h.refs key)
    · exact Option.some.inj ((Option.mem_def.1 hname).symm.trans (withRef_same ..))
  rintro (_ | current) w₂ ⟨hglanced₂, htold⟩
  · -- nothing stands under the name that is asked for first
    have hnone : ∀ entry ∈ (none : Option (String × FoundContainer)), entry.1 = configuredName config instanceId ∧
        FoundAt config instanceId w (configuredName config instanceId) entry.2 := by simp
    refine ends_then (tells_searchContainers (fun name hname _ hsome => ?_) hnone w₂ hglanced₂)
      (fun failure w₃ h => ⟨sought_of_glanced hremembers h.1, trivial⟩) ?_
    · obtain ⟨namePrefix, hmem, rfl⟩ := List.mem_map.1 (List.mem_eraseDups.1 hname)
      exact hconfined.former namePrefix hmem .canonical hsome
    rintro found w₃ ⟨hglanced₃, hfound⟩
    refine ends_then (tells_discoverContainers hconfined hfound w₃ hglanced₃)
      (fun failure w₄ h => ⟨sought_of_glanced hremembers h.1, trivial⟩) ?_
    rintro (_ | ⟨foundName, container⟩) w₄ ⟨hglanced₄, hfound⟩
    · refine ends_then (R := fun r w' => r = .ok () ∧ w' = w₄.withoutRefs .container
        ((w.refs .container).getD (configuredName config instanceId))) (ends_forget ⟨rfl, rfl⟩) (fun failure w' h => nomatch h.1) ?_
      rintro - w' ⟨-, rfl⟩
      have hforgotten : (w₄.withoutRefs .container ((w.refs .container).getD (configuredName config instanceId))).refs
          .container = none := by
        have href : w₄.refs .container = w.refs .container := congrFun hglanced₄.refs .container
        simp only [World.withoutRefs, href]
        cases w.refs .container <;> simp [RefKey.kind]
      refine ⟨⟨hglanced₄.toLooked.trans (looked_withoutRefs _ _), fun key hkey => ?_, fun name hname => ?_⟩, hforgotten⟩
      · have hkind : key.kind ≠ .container := by cases key <;> simp_all [RefKey.kind]
        simp only [World.withoutRefs, hkind, false_and, if_false]
        exact congrFun hglanced₄.refs key
      · rw [hforgotten] at hname
        cases hname
    · obtain ⟨rfl, hat⟩ := hfound _ rfl
      refine ends_then (R := fun r w' => r = .ok () ∧ w' = w₄.withRef .container (configuredName config instanceId))
        (ends_remember ⟨rfl, rfl⟩) (fun failure w' h => nomatch h.1) ?_
      rintro - w' ⟨-, rfl⟩
      exact ⟨hremembered w₄ _ hglanced₄ rfl, hat, withRef_same ..⟩
  · -- what is remembered and is there is the configured name
    have hname : (w.refs .container).getD (configuredName config instanceId) = configuredName config instanceId := by
      cases href : w.refs .container with
      | none => rfl
      | some name =>
        rw [href] at htold
        refine (hremembers name href).resolve_right fun hnone => ?_
        have hsome := FoundAt.isSome htold
        rw [Option.getD_some, hnone] at hsome
        cases hsome
    refine ends_then (R := fun r w' => r = .ok () ∧ w' = w₂.withRef .container
      ((w.refs .container).getD (configuredName config instanceId))) (ends_remember ⟨rfl, rfl⟩) (fun failure w' h => nomatch h.1) ?_
    rintro - w' ⟨-, rfl⟩
    rw [hname] at htold ⊢
    exact ⟨hremembered w₂ _ hglanced₂ rfl, htold, withRef_same ..⟩

/-! ## The other three slots -/

/-- What is said of the containers beside the canonical one is what stands under their names. -/
structure ToldSides (config : RuntimeConfig) (instanceId : String) (w : World) (base : String) (sides : SideArtifacts) : Prop where
  candidate : ToldContainer config instanceId w (slotName base .candidate) (.ok sides.candidate)
  previous : ToldContainer config instanceId w (slotName base .previous) (.ok sides.previous)
  rollback : ToldContainer config instanceId w (slotName base .rollback) (.ok sides.rollbackOccupant)

theorem tells_inspectSides {base : String} : Tells instanceId w (inspectSides config instanceId base) fun
    | .ok sides => ToldSides config instanceId w base sides
    | .error _ => True :=
  tells_bind tells_inspectContainerByName (fun _ _ => trivial) fun _ hcandidate =>
    tells_bind tells_inspectContainerByName (fun _ _ => trivial) fun _ hprevious =>
      tells_bind tells_inspectContainerByName (fun _ _ => trivial) fun _ hrollback =>
        tells_pure ⟨hcandidate, hprevious, hrollback⟩

theorem ToldSides.isEmpty {base : String} {sides : SideArtifacts} (h : ToldSides config instanceId w base sides)
    (hnone : ∀ slot, w.container (slotName base slot) = none) : sides.isEmpty = true := by
  have hside : ∀ slot side, ToldContainer config instanceId w (slotName base slot) (.ok side) → side = none := by
    rintro slot (_ | found) htold
    · rfl
    · have hsome := FoundAt.isSome htold
      rw [hnone slot] at hsome
      cases hsome
  simp [SideArtifacts.isEmpty, hside .candidate _ h.candidate, hside .previous _ h.previous, hside .rollback _ h.rollback]

theorem SideArtifacts.eq_of_isEmpty {sides : SideArtifacts} (h : sides.isEmpty = true) : sides = ⟨none, none, none⟩ := by
  obtain ⟨candidate, previous, rollbackOccupant⟩ := sides
  simp only [isEmpty, Bool.and_eq_true, Option.isNone_iff_eq_none] at h
  obtain ⟨⟨rfl, rfl⟩, rfl⟩ := h
  rfl

/-- The configured name is the base that is chosen, or none is and there is nothing beside it. -/
def Chosen (config : RuntimeConfig) (instanceId : String) (w : World) (found : Option String × SideArtifacts) : Prop :=
  (found.1 = none ∨ found.1 = some (configuredName config instanceId)) ∧
    ToldSides config instanceId w (configuredName config instanceId) found.2

/-- As long as the configured name has not been looked under, nothing is chosen. -/
theorem tells_searchSides {bases : List String} {found : Option String × SideArtifacts}
    (hbases : ∀ base ∈ bases, base = configuredName config instanceId ∨ ∀ slot, w.container (slotName base slot) = none)
    (hfound : Chosen config instanceId w found ∨
      (found = (none, ⟨none, none, none⟩) ∧ configuredName config instanceId ∈ bases)) :
    Tells instanceId w (searchSides config instanceId bases found) fun
      | .ok found => Chosen config instanceId w found
      | .error _ => True := by
  induction bases generalizing found with
  | nil => exact tells_pure (hfound.resolve_right fun h => absurd h.2 List.not_mem_nil)
  | cons base bases ih =>
    obtain ⟨selectedBase, sides⟩ := found
    have hrest := fun other hother => hbases other (List.mem_cons_of_mem base hother)
    refine tells_bind tells_inspectSides (fun _ _ => trivial) fun baseArtifacts hartifacts => ?_
    split
    · next hempty =>
      refine ih hrest ?_
      rcases hfound with hchosen | ⟨heq, hmem⟩
      · exact .inl hchosen
      · obtain ⟨rfl, rfl⟩ := Prod.mk.inj heq
        rcases List.mem_cons.1 hmem with rfl | hmem
        · -- the configured name has nothing beside it
          refine .inl ⟨.inl rfl, ?_⟩
          rwa [SideArtifacts.eq_of_isEmpty hempty] at hartifacts
        · exact .inr ⟨rfl, hmem⟩
    · next hsides =>
      have hbase : base = configuredName config instanceId := by
        refine (hbases base List.mem_cons_self).resolve_right fun hnone => hsides ?_
        exact hartifacts.isEmpty hnone
      subst hbase
      refine tells_bind (A := fun _ => True) (tells_throwIf (fun _ => trivial) fun _ => trivial) (fun _ _ => trivial) fun _ _ => ?_
      exact ih hrest (.inl ⟨.inr rfl, hartifacts⟩)

theorem tells_discoverSides (hconfined : Confined config instanceId w) {found : Option String × SideArtifacts}
    (hfound : Chosen config instanceId w found) : Tells instanceId w (discoverSides config instanceId found) fun
      | .ok found => Chosen config instanceId w found
      | .error _ => True := by
  unfold discoverSides
  split
  · next hdiscovery =>
    refine tells_bind tells_listManagedResourceNames (fun _ _ => trivial) fun discovered hdiscovered => ?_
    dsimp only
    refine tells_bind (A := fun _ => True) (tells_throwIf (fun _ => trivial) fun _ => trivial) (fun _ _ => trivial) fun _ _ => ?_
    split
    · exact tells_pure hfound
    · next discoveredBase hhead =>
      have hmem : discoveredBase ∈ discovered.filterMap rebuildArtifactBase := by
        obtain ⟨hhead, -⟩ := Option.filter_eq_some_iff.1 hhead
        exact List.mem_eraseDups.1 (List.mem_of_head? hhead)
      obtain ⟨name, hname, hbase⟩ := List.mem_filterMap.1 hmem
      obtain ⟨labelPrefix, hmem, hlabelled⟩ := hdiscovered.1 name hname
      have hconfigured := hconfined.labelled hdiscovery.2 labelPrefix hmem name hlabelled
      rw [hbase, Option.getD_some] at hconfigured
      subst hconfigured
      exact tells_bind tells_inspectSides (fun _ _ => trivial) fun sides hsides => tells_pure ⟨.inr rfl, hsides⟩
  · exact tells_pure hfound

/-! ## The four slots -/

theorem Looked.confined (h : Looked w w') (hconfined : Confined config instanceId w) : Confined config instanceId w' := by
  refine ⟨fun namePrefix hmem slot hsome => ?_, fun hdiscovery labelPrefix hmem name hname => ?_⟩
  · rw [h.container] at hsome
    exact hconfined.former namePrefix hmem slot hsome
  · rw [h.labelledNames] at hname
    exact hconfined.labelled hdiscovery labelPrefix hmem name hname

theorem Looked.toldContainer (h : Looked w w') {name : String} {found : Option FoundContainer} :
    ToldContainer config instanceId w' name (.ok found) ↔ ToldContainer config instanceId w name (.ok found) := by
  cases found <;> simp only [ToldContainer, h.container]

/-- The artifacts are those under the configured name, and what is said of each slot is what stands there. -/
def Slotted (config : RuntimeConfig) (instanceId : String) (w : World) (found : EnvironmentArtifacts) : Prop :=
  found.canonicalName = configuredName config instanceId ∧
    ∀ slot, ToldContainer config instanceId w (slotName (configuredName config instanceId) slot) (.ok (found.artifacts slot))

theorem ends_inspectRebuildArtifacts (hconfined : Confined config instanceId w)
    (hremembers : RemembersContainer config instanceId w) :
    ends (perform instanceId) Honest (inspectRebuildArtifacts config instanceId) (fun r w' =>
      Sought config instanceId w w' ∧ match r with
        | .ok found => Slotted config instanceId w found
        | .error _ => True) w := by
  refine ends_then (ends_inspectContainer hconfined hremembers) (fun failure w₁ h => ⟨h.1, trivial⟩) ?_
  rintro discoveredCanonical w₁ ⟨hsought, hcanonical⟩
  have hconfined₁ : Confined config instanceId w₁ := hsought.toLooked.confined hconfined
  have hname : (w₁.refs .container).getD (configuredName config instanceId) = configuredName config instanceId := by
    cases discoveredCanonical with
    | none => rw [hcanonical, Option.getD_none]
    | some found => rw [hcanonical.2, Option.getD_some]
  have hresource : discoveredCanonical.bind (·.resourceName) = none := by
    cases discoveredCanonical with
    | none => rfl
    | some found => exact hcanonical.1.resourceName
  have hbases : ∀ base ∈ (configuredName config instanceId ::
      if discoveredCanonical.isSome then [] else config.legacyNamePrefixes.map (· ++ instanceId)).eraseDups,
      base = configuredName config instanceId ∨ ∀ slot, w₁.container (slotName base slot) = none := by
    intro base hbase
    rw [Classical.or_iff_not_imp_right, not_forall]
    rintro ⟨slot, hsome⟩
    rcases List.mem_cons.1 (List.mem_eraseDups.1 hbase) with rfl | hbase
    · rfl
    · split at hbase
      · cases hbase
      · obtain ⟨namePrefix, hmem, rfl⟩ := List.mem_map.1 hbase
        exact hconfined₁.former namePrefix hmem slot (Option.isSome_iff_ne_none.2 hsome)
  refine ends_mono (Q := fun r w' => Glanced w₁ w' ∧ match r with
    | .ok found => Slotted config instanceId w₁ found
    | .error _ => True) ?_ fun r w' h => ?_
  · refine (?_ : Tells instanceId w₁ _ fun
      | .ok found => Slotted config instanceId w₁ found
      | .error _ => True) w₁ (.refl w₁)
    refine tells_bind tells_containerName (fun _ _ => trivial) fun requestedName hrequested => ?_
    obtain rfl := (Except.ok.inj hrequested).trans hname
    rw [hresource, Option.getD_none]
    refine tells_bind (tells_searchSides hbases (.inr ⟨rfl, ?_⟩)) (fun _ _ => trivial) fun found hfound => ?_
    · exact List.mem_eraseDups.2 List.mem_cons_self
    refine tells_bind (tells_discoverSides hconfined₁ hfound) (fun _ _ => trivial) ?_
    rintro ⟨selectedBase, sides⟩ ⟨hselected, hsides⟩
    have hbase : selectedBase.getD (configuredName config instanceId) = configuredName config instanceId := by
      rcases hselected with rfl | rfl <;> rfl
    dsimp only
    rw [hbase]
    have htold : Tells instanceId w₁ (canonicalOr config instanceId discoveredCanonical (configuredName config instanceId))
        (ToldContainer config instanceId w₁ (configuredName config instanceId)) := by
      cases discoveredCanonical with
      | none => exact tells_inspectContainerByName
      | some found => exact tells_pure (hsought.toLooked.toldContainer.2 hcanonical.1)
    refine tells_bind htold (fun _ _ => trivial) fun canonical hcanonical => tells_pure ⟨rfl, fun slot => ?_⟩
    cases slot with
    | canonical => exact hcanonical
    | candidate => exact hsides.candidate
    | previous => exact hsides.previous
    | rollback => exact hsides.rollback
  · refine ⟨⟨hsought.toLooked.trans h.1.toLooked, fun key hkey => ?_, fun name hmem => ?_⟩, ?_⟩
    · exact (congrFun h.1.refs key).trans (hsought.others key hkey)
    · rw [h.1.toLooked.container]
      exact hsought.remembers name (congrFun h.1.refs .container ▸ hmem)
    · cases r with
      | error failure => trivial
      | ok found => exact ⟨h.2.1, fun slot => hsought.toLooked.toldContainer.1 (h.2.2 slot)⟩

end OpenApp.Docker.Environment
