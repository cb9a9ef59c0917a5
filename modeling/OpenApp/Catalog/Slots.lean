import OpenApp.Catalog.ImageUpdates

/-!
# What an update leaves in the slots

The packages that are selected reach the revision under the key they were uploaded for, whichever slot
named them. So the slots are as they were meant just when each named or inherited package belongs to its
slot, and no package without an id has to be kept or taken away.
-/

namespace OpenApp.Catalog

open Fallible Keyed Script

/-! ## What is asked for -/

/-- The request names this package for the slot, or none. -/
def NamedFor (input : ReplacementPackageIds) (slot : String) (id : Option String) : Prop :=
  ∃ entries rawKey rawId, input = .object entries ∧ (rawKey, rawId) ∈ entries ∧ toLowerCase (trim rawKey) = slot ∧
    rawId.normal = id

theorem addReplacements_ok {entries : List (String × ReplacementId)} {before replacements : Replacements}
    (h : addReplacements before entries = .ok replacements) :
    (∀ slot id, replacements.lookup slot = some id ↔ before.lookup slot = some id ∨
      ∃ rawKey rawId, (rawKey, rawId) ∈ entries ∧ toLowerCase (trim rawKey) = slot ∧ rawId.normal = id) ∧
    ∀ rawKey rawId, (rawKey, rawId) ∈ entries → ∀ id ∈ rawId.normal, PACKAGE_ID_PATTERN id = true := by
  induction entries generalizing before with
  | nil =>
    cases h
    exact ⟨fun slot id => by simp, nofun⟩
  | cons entry rest ih =>
    obtain ⟨rawKey, rawId⟩ := entry
    unfold addReplacements at h
    dsimp only at h
    split at h
    · cases h
    · rename_i hentry
      obtain ⟨-, hrest⟩ := not_or.1 hentry
      obtain ⟨hid, hnew⟩ := not_or.1 hrest
      obtain ⟨hlookup, hids⟩ := ih h
      have hnone : before.lookup (toLowerCase (trim rawKey)) = none :=
        Option.not_isSome_iff_eq_none.1 hnew
      refine ⟨fun slot id => ?_, ?_⟩
      · rw [hlookup, List.lookup_append]
        by_cases hslot : slot = toLowerCase (trim rawKey)
        · subst hslot
          simp [hnone]
          constructor
          · rintro (h | h)
            · exact ⟨rawKey, rawId, .inl ⟨rfl, rfl⟩, rfl, h⟩
            · obtain ⟨rawKey', rawId', hmem, hkey, hid⟩ := h
              exact ⟨rawKey', rawId', .inr hmem, hkey, hid⟩
          · rintro ⟨rawKey', rawId', ⟨rfl, rfl⟩ | hmem, hkey, hid⟩
            · exact .inl hid
            · exact .inr ⟨rawKey', rawId', hmem, hkey, hid⟩
        · have hlast : List.lookup slot [(toLowerCase (trim rawKey), rawId.normal)] = none := by
            rw [List.lookup_cons, beq_false_of_ne hslot, List.lookup_nil]
          rw [hlast, Option.or_none]
          refine or_congr_right ?_
          constructor
          · rintro ⟨rawKey', rawId', hmem, hkey, hid⟩
            exact ⟨rawKey', rawId', List.mem_cons_of_mem _ hmem, hkey, hid⟩
          · rintro ⟨rawKey', rawId', hmem, hkey, hid⟩
            rcases List.mem_cons.1 hmem with heq | hmem
            · cases heq
              exact absurd hkey.symm hslot
            · exact ⟨rawKey', rawId', hmem, hkey, hid⟩
      · intro rawKey' rawId' hmem id' hid'
        rcases List.mem_cons.1 hmem with heq | hmem
        · cases heq
          rw [Option.mem_def.1 hid'] at hid
          simpa using hid
        · exact hids rawKey' rawId' hmem id' hid'

/-- What the code looks up is what the request names, and the ids are identifiers. -/
theorem normalizeReplacements_ok {input : ReplacementPackageIds} {replacements : Replacements}
    (h : normalizeReplacements input = .ok replacements) :
    (∀ slot id, replacements.lookup slot = some id ↔ NamedFor input slot id) ∧
      ∀ slot id, NamedFor input slot (some id) → PACKAGE_ID_PATTERN id = true := by
  cases input with
  | notObject => cases h
  | object entries =>
    obtain ⟨replacements', hadd, h⟩ := bind_ok.1 h
    obtain ⟨-, h⟩ := refuseIf_bind_ok.1 h
    cases h
    obtain ⟨hlookup, hids⟩ := addReplacements_ok hadd
    refine ⟨fun slot id => ?_, ?_⟩
    · rw [hlookup]
      constructor
      · rintro (h | ⟨rawKey, rawId, hmem, hkey, hid⟩)
        · cases h
        · exact ⟨entries, rawKey, rawId, rfl, hmem, hkey, hid⟩
      · rintro ⟨entries', rawKey, rawId, heq, hmem, hkey, hid⟩
        cases heq
        exact .inr ⟨rawKey, rawId, hmem, hkey, hid⟩
    · rintro slot id ⟨entries', rawKey, rawId, heq, hmem, -, hid⟩
      cases heq
      exact hids rawKey rawId hmem id hid

/-! ## What is there -/

/-- The package of a slot. -/
def packageAt (packages : List ImageBuildPackage) (slot : String) : Option ImageBuildPackage :=
  packages.find? (·.key = slot)

theorem packageAt_eq_some {packages : List ImageBuildPackage} (h : (packages.map ImageBuildPackage.key).Nodup)
    {slot : String} {pkg : ImageBuildPackage} : packageAt packages slot = some pkg ↔ pkg ∈ packages ∧ pkg.key = slot :=
  Table.get_eq_some (t := ⟨packages, h⟩)

/-- The id of a package, if it has one. -/
def idOf (pkg : ImageBuildPackage) : Option String :=
  pkg.packageId.filter truthy

theorem inherit_get {packages : List ImageBuildPackage} (h : (packages.map ImageBuildPackage.key).Nodup)
    (inherited : Map String) (hnew : ∀ pkg ∈ packages, inherited.get pkg.key = none) (slot id : String) :
    (packages.foldl inherit inherited).get slot = some id ↔
      inherited.get slot = some id ∨ ∃ pkg ∈ packages, pkg.key = slot ∧ idOf pkg = some id := by
  induction packages generalizing inherited with
  | nil => simp
  | cons pkg rest ih =>
    obtain ⟨hpkg, hrest⟩ := List.nodup_cons.1 h
    rw [List.foldl_cons, inherit]
    cases hid : pkg.packageId.filter truthy with
    | none =>
      dsimp only
      rw [ih hrest _ fun pkg hmem => hnew pkg (List.mem_cons_of_mem _ hmem)]
      have hpkgId : idOf pkg = none := hid
      simp [hpkgId]
    | some pkgId =>
      dsimp only
      have hpkgId : idOf pkg = some pkgId := hid
      rw [ih hrest _ ?_]
      · by_cases hslot : slot = pkg.key
        · subst hslot
          simp only [Map.get_set_self, hnew pkg List.mem_cons_self, List.mem_cons, exists_eq_or_imp, hpkgId, true_and,
            reduceCtorEq, false_or]
        · simp [Map.get_set_of_ne _ _ hslot, hpkgId, Ne.symm hslot]
      · intro other hmem
        have hne : other.key ≠ pkg.key := fun heq => hpkg (heq ▸ List.mem_map_of_mem hmem)
        rw [Map.get_set_of_ne _ _ hne]
        exact hnew other (List.mem_cons_of_mem _ hmem)

/-- The packages of the current revision, if there is one. -/
def currentPackages (current : Option AppVersion) : List ImageBuildPackage :=
  (current.map AppVersion.packages).getD []

theorem inheritedPackages_get {current : Option AppVersion}
    (h : ((currentPackages current).map ImageBuildPackage.key).Nodup) (slot : String) :
    (inheritedPackages current).get slot = (packageAt (currentPackages current) slot).bind idOf := by
  cases current with
  | none => rfl
  | some version =>
    have hperm : (packagesForVersion version).Perm version.packages := List.perm_insertionSort _ _
    apply Option.ext
    intro id
    rw [inheritedPackages, Option.map_some, Option.getD_some,
      inherit_get ((hperm.map _).nodup_iff.2 h) ⟨[]⟩ (fun _ _ => rfl), Option.bind_eq_some_iff]
    constructor
    · rintro (hnone | ⟨pkg, hpkg, hslot, hid⟩)
      · cases hnone
      · exact ⟨pkg, (packageAt_eq_some h).2 ⟨hperm.mem_iff.1 hpkg, hslot⟩, hid⟩
    · rintro ⟨pkg, hpkg, hid⟩
      obtain ⟨hmem, hslot⟩ := (packageAt_eq_some h).1 hpkg
      exact .inr ⟨pkg, hperm.mem_iff.2 hmem, hslot, hid⟩

/-! ## Slots -/

/-- What an update makes of a slot, by what the request names for it and what the current revision has. -/
structure Chosen (input : ReplacementPackageIds) (current : Option AppVersion) (slot : String) (choice : SlotChoice) : Prop where
  inherited : ∀ id, choice = .inherited id ↔
    (packageAt (currentPackages current) slot).bind idOf = some id ∧ (NamedFor input slot (some id) ∨ ∀ id', ¬ NamedFor input slot id')
  replaced : ∀ id, choice = .replaced id ↔
    NamedFor input slot (some id) ∧ (packageAt (currentPackages current) slot).bind idOf ≠ some id
  removed : choice = .removed ↔
    NamedFor input slot none ∧ ((packageAt (currentPackages current) slot).bind idOf).isSome

theorem chooseSlot_ok {input : ReplacementPackageIds} {replacements : Replacements} {current : Option AppVersion}
    (hreplacements : normalizeReplacements input = .ok replacements)
    (hcurrent : ((currentPackages current).map ImageBuildPackage.key).Nodup)
    {requirement : PackageRequirement} {choice : SlotChoice}
    (h : chooseSlot replacements (inheritedPackages current) requirement = .ok choice) :
    Chosen input current requirement.key choice := by
  have hnamed := (normalizeReplacements_ok hreplacements).1 requirement.key
  have hunnamed : replacements.lookup requirement.key = none → ∀ id, ¬ NamedFor input requirement.key id := by
    intro hnone id hid
    rw [← hnamed, hnone] at hid
    cases hid
  unfold chooseSlot at h
  rw [inheritedPackages_get hcurrent] at h
  generalize hinherited : (packageAt (currentPackages current) requirement.key).bind idOf = inheritedId at h
  cases hlookup : replacements.lookup requirement.key with
  | none =>
    have hno := hunnamed hlookup
    rw [hlookup] at h
    cases inheritedId with
    | none =>
      obtain ⟨-, h⟩ := refuseIf_bind_ok.1 h
      cases h
      exact ⟨by simp [hinherited], by simp [hno], by simp [hno]⟩
    | some inheritedId =>
      cases h
      exact ⟨by simp [hinherited, hno], by simp [hno], by simp [hno]⟩
  | some id =>
    have hid : ∀ id', NamedFor input requirement.key id' ↔ id' = id := by
      intro id'
      rw [← hnamed, hlookup, Option.some.injEq, eq_comm]
    rw [hlookup] at h
    cases id with
    | none =>
      obtain ⟨-, h⟩ := refuseIf_bind_ok.1 h
      cases h
      cases inheritedId with
      | none => exact ⟨by simp [hinherited], by simp [hid], by simp [hinherited]⟩
      | some inheritedId => exact ⟨by simp [hid], by simp [hid], by simp [hinherited, hid]⟩
    | some replacement =>
      cases h
      by_cases hsame : inheritedId = some replacement
      · rw [if_pos hsame]
        exact ⟨by simp [hinherited, hsame, hid], by simp [hinherited, hsame, hid], by simp [hid]⟩
      · rw [if_neg hsame]
        refine ⟨fun id => ?_, fun id => ?_, by simp [hid]⟩
        · simp only [reduceCtorEq, hinherited, hid, Option.some.injEq, false_iff, not_and, not_or, not_forall, not_not]
          rintro rfl
          exact ⟨fun h => hsame (by rw [h]), some replacement, rfl⟩
        · simp only [SlotChoice.replaced.injEq, hid, Option.some.injEq, hinherited]
          constructor
          · rintro rfl
            exact ⟨rfl, hsame⟩
          · rintro ⟨rfl, -⟩
            rfl

theorem chooseSlots_ok {strategy : RegisteredStrategy} {input : ReplacementPackageIds} {replacements : Replacements}
    {current : Option AppVersion} {slots : Slots} (hreplacements : normalizeReplacements input = .ok replacements)
    (hcurrent : ((currentPackages current).map ImageBuildPackage.key).Nodup)
    (h : chooseSlots strategy current replacements = .ok slots) :
    slots.choices.map Prod.fst = strategy.packageRequirements.map (·.key) ∧
      ∀ choice ∈ slots.choices, Chosen input current choice.1 choice.2 := by
  obtain ⟨-, h⟩ := refuseIf_bind_ok.1 h
  obtain ⟨choices, hchoices, h⟩ := bind_ok.1 h
  cases h
  constructor
  · refine mapM_map hchoices fun requirement choice hok => ?_
    obtain ⟨chosen, -, hok⟩ := bind_ok.1 hok
    cases hok
    rfl
  · intro choice hmem
    obtain ⟨requirement, -, hok⟩ := mapM_right hchoices choice hmem
    obtain ⟨chosen, hchosen, hok⟩ := bind_ok.1 hok
    cases hok
    exact chooseSlot_ok hreplacements hcurrent hchosen

/-! ## The packages of the revision -/

theorem mem_selectedByKey {selected : List BuildPackage} {key : String} {pkg : BuildPackage}
    (h : selectedByKey selected key = some pkg) : pkg ∈ selected ∧ pkg.key = key :=
  ⟨List.mem_of_find?_eq_some h, by simpa using List.find?_some h⟩

theorem checkRecords_ok {strategy : RegisteredStrategy} {selectedKeys : List String} {records : List BuildPackage}
    (h : checkRecords strategy selectedKeys records = .ok ()) :
    (records.map BuildPackage.key).Nodup ∧ (∀ pkg ∈ records, pkg.key ∉ selectedKeys) ∧
      ∀ pkg ∈ records, pkg.key ∈ strategy.packageRequirements.map (·.key) := by
  induction records generalizing selectedKeys with
  | nil => exact ⟨List.nodup_nil, nofun, nofun⟩
  | cons pkg rest ih =>
    obtain ⟨hpkg, hrest⟩ := check_bind_ok.1 h
    obtain ⟨hnodup, hother, hkeys⟩ := ih hrest
    obtain ⟨-, hpkg⟩ := refuseIf_bind_ok.1 hpkg
    obtain ⟨hnew, hpkg⟩ := refuseIf_bind_ok.1 hpkg
    have hkey : pkg.key ∈ strategy.packageRequirements.map (·.key) := by
      split at hpkg
      · cases hpkg
      · rename_i requirement hfound
        have := List.find?_some hfound
        exact List.mem_map.2 ⟨requirement, List.mem_of_find?_eq_some hfound, by simpa using this⟩
    refine ⟨List.nodup_cons.2 ⟨?_, hnodup⟩, ?_, ?_⟩
    · intro hmem
      obtain ⟨other, hmem, heq⟩ := List.mem_map.1 hmem
      exact hother other hmem (by rw [heq]; exact List.mem_cons_self)
    · intro other hmem
      rcases List.mem_cons.1 hmem with rfl | hmem
      · exact hnew
      · exact fun hbefore => hother other hmem (List.mem_cons_of_mem _ hbefore)
    · intro other hmem
      rcases List.mem_cons.1 hmem with rfl | hmem
      · exact hkey
      · exact hkeys other hmem

/-- The packages that are resolved are those of the ids, trimmed, each under a slot of its own. -/
theorem resolveSelection_trimmed {host : UpdateHost} {strategy : RegisteredStrategy} {ids : List String}
    {selected : UpdateHost.Selection} (h : host.resolveSelection strategy ids = .ok selected) :
    (selected.packages.map BuildPackage.key).Nodup ∧
      (∀ pkg ∈ selected.packages, pkg.key ∈ strategy.packageRequirements.map (·.key)) ∧
      (∀ id ∈ ids.map trim, ∃ pkg ∈ selected.packages, host.buildPackages.get id = some pkg) ∧
      ∀ pkg ∈ selected.packages, pkg.id ∈ ids.map trim ∧ host.buildPackages.get pkg.id = some pkg := by
  obtain ⟨-, h⟩ := refuseIf_bind_ok.1 h
  obtain ⟨-, h⟩ := refuseIf_bind_ok.1 h
  obtain ⟨-, h⟩ := refuseIf_bind_ok.1 h
  obtain ⟨records, hrecords, h⟩ := bind_ok.1 h
  obtain ⟨hcheck, h⟩ := check_bind_ok.1 h
  obtain ⟨-, h⟩ := check_bind_ok.1 h
  obtain ⟨paths, -, h⟩ := bind_ok.1 h
  cases h
  obtain ⟨hnodup, -, hkeys⟩ := checkRecords_ok hcheck
  have hperm : (records.insertionSort fun left right => left.key ≤ right.key).Perm records := List.perm_insertionSort _ _
  have hget : ∀ {id pkg}, host.get id = .ok pkg → host.buildPackages.get id = some pkg := by
    intro id pkg hok
    unfold UpdateHost.get at hok
    split at hok
    · cases hok
      assumption
    · cases hok
  refine ⟨(hperm.map _).nodup_iff.2 hnodup, fun pkg hmem => hkeys pkg (hperm.mem_iff.1 hmem), ?_, ?_⟩
  · intro id hid
    obtain ⟨pkg, hmem, hok⟩ := mapM_left hrecords id (List.mem_eraseDups.2 hid)
    exact ⟨pkg, hperm.mem_iff.2 hmem, hget hok⟩
  · intro pkg hmem
    obtain ⟨id, hid, hok⟩ := mapM_right hrecords pkg (hperm.mem_iff.1 hmem)
    obtain rfl := Table.key_of_get (hget hok)
    exact ⟨List.mem_eraseDups.1 hid, hget hok⟩

/-- An id that is an identifier is resolved as it is. -/
theorem resolveSelection_ok {host : UpdateHost} {strategy : RegisteredStrategy} {ids : List String}
    {selected : UpdateHost.Selection} (hids : ∀ id ∈ ids, PACKAGE_ID_PATTERN id = true)
    (h : host.resolveSelection strategy ids = .ok selected) :
    (selected.packages.map BuildPackage.key).Nodup ∧
      (∀ pkg ∈ selected.packages, pkg.key ∈ strategy.packageRequirements.map (·.key)) ∧
      (∀ id ∈ ids, ∃ pkg ∈ selected.packages, host.buildPackages.get id = some pkg) ∧
      ∀ pkg ∈ selected.packages, pkg.id ∈ ids ∧ host.buildPackages.get pkg.id = some pkg := by
  have htrim : ids.map trim = ids := by
    conv_rhs => rw [← List.map_id ids]
    exact List.map_congr_left fun id hid => trim_of_isWord (hids id hid)
  have hselected := resolveSelection_trimmed h
  rwa [htrim] at hselected

theorem normalPackages_nil : NormalPackages [] where
  nodup := List.nodup_nil
  ids _ h := absurd h List.not_mem_nil

theorem normalizePackage_ok {taken : List ImageBuildPackage} {pkg : InspectedPackage} {package : ImageBuildPackage}
    (h : normalizePackage taken pkg = .ok package) :
    package.key ∉ taken.map ImageBuildPackage.key ∧ (∀ id ∈ package.packageId, PACKAGE_ID_PATTERN id = true) ∧
      package.key = toLowerCase (trim pkg.key) ∧ package.packageId = pkg.packageId.map trim := by
  obtain ⟨hkey, h⟩ := refuseIf_bind_ok.1 h
  obtain ⟨-, h⟩ := refuseIf_bind_ok.1 h
  obtain ⟨-, h⟩ := refuseIf_bind_ok.1 h
  obtain ⟨hid, h⟩ := refuseIf_bind_ok.1 h
  obtain rfl := Except.ok.inj h
  refine ⟨fun hmem => hkey (.inr hmem), fun id hmem => ?_, rfl, rfl⟩
  rw [Option.mem_def] at hmem
  dsimp only at hmem
  rw [hmem] at hid
  simpa using hid

theorem normalizePackages_ok {taken packages : List ImageBuildPackage} {inspected : List InspectedPackage}
    (htaken : NormalPackages taken) (h : normalizePackages taken inspected = .ok packages) :
    NormalPackages packages ∧
      packages.map ImageBuildPackage.key = taken.map ImageBuildPackage.key ++ inspected.map fun pkg => toLowerCase (trim pkg.key) := by
  induction inspected generalizing taken with
  | nil =>
    cases h
    exact ⟨htaken, by simp⟩
  | cons pkg rest ih =>
    obtain ⟨package, hpackage, h⟩ := bind_ok.1 h
    obtain ⟨hnew, hid, hkey, -⟩ := normalizePackage_ok hpackage
    have hnext : NormalPackages (taken ++ [package]) := by
      refine ⟨?_, fun other hmem id hother => ?_⟩
      · rw [List.map_append, List.map_singleton, List.nodup_append]
        refine ⟨htaken.nodup, List.nodup_singleton _, fun key hmem other hother heq => ?_⟩
        rw [List.mem_singleton] at hother
        subst heq hother
        exact hnew hmem
      · rcases List.mem_append.1 hmem with hmem | hmem
        · exact htaken.ids other hmem id hother
        · rw [List.mem_singleton] at hmem
          subst hmem
          exact hid id hother
    obtain ⟨hnormal, hkeys⟩ := ih hnext h
    exact ⟨hnormal, by rw [hkeys]; simp [hkey]⟩

/-- A package that was taken is one of those before, or was made of an inspected one. -/
theorem mem_normalizePackages {taken packages : List ImageBuildPackage} {inspected : List InspectedPackage}
    (h : normalizePackages taken inspected = .ok packages) {package : ImageBuildPackage} (hmem : package ∈ packages) :
    package ∈ taken ∨ ∃ pkg ∈ inspected, package.key = toLowerCase (trim pkg.key) ∧ package.packageId = pkg.packageId.map trim := by
  induction inspected generalizing taken with
  | nil =>
    cases h
    exact .inl hmem
  | cons pkg rest ih =>
    obtain ⟨first, hfirst, h⟩ := bind_ok.1 h
    obtain ⟨-, -, hkey, hid⟩ := normalizePackage_ok hfirst
    rcases ih h with hmem | ⟨other, hother, heq⟩
    · rcases List.mem_append.1 hmem with hmem | hmem
      · exact .inl hmem
      · rw [List.mem_singleton] at hmem
        subst hmem
        exact .inr ⟨pkg, List.mem_cons_self, hkey, hid⟩
    · exact .inr ⟨other, List.mem_cons_of_mem _ hother, heq⟩

theorem assertInspection_ok {inspected : List InspectedPackage} {selected : List BuildPackage}
    (h : assertInspectionMatchesSelection inspected selected = .ok ()) :
    inspected.length = selected.length ∧ ∀ pkg ∈ inspected, ∃ stored, selectedByKey selected pkg.key = some stored := by
  have hpassed := refuseIf_ok.1 h
  rw [not_or, not_not] at hpassed
  refine ⟨hpassed.1, fun pkg hmem => ?_⟩
  have hpkg := hpassed.2
  simp only [List.any_eq_true, not_exists, not_and] at hpkg
  have hfound := hpkg pkg hmem
  split at hfound
  · exact absurd rfl hfound
  · exact ⟨_, ‹_›⟩

/-- The packages of the revision are those that were selected, each under the key it was uploaded for. -/
theorem createRevision_packages {host : UpdateHost} {strategy : RegisteredStrategy} {ids : List String}
    {selected : UpdateHost.Selection} {inspected : List InspectedPackage} {appId : String} {packages : List ImageBuildPackage}
    (hids : ∀ id ∈ ids, PACKAGE_ID_PATTERN id = true) (hselected : host.resolveSelection strategy ids = .ok selected)
    (hinspected : assertInspectionMatchesSelection inspected selected.packages = .ok ())
    (h : host.createRevision appId (inspected.map fun pkg =>
      { pkg with packageId := (selectedByKey selected.packages pkg.key).map BuildPackage.id }) = .ok packages) :
    (packages.map ImageBuildPackage.key).Nodup ∧ (∀ pkg ∈ packages, ∃ id ∈ ids, pkg.packageId = some id) ∧
      ∀ slot id, (∃ pkg ∈ packages, pkg.key = slot ∧ pkg.packageId = some id) ↔
        id ∈ ids ∧ ∃ stored, host.buildPackages.get id = some stored ∧ stored.key = slot := by
  obtain ⟨hkeys, hslots, hfound, hstored⟩ := resolveSelection_ok hids hselected
  obtain ⟨hlength, hinspected⟩ := assertInspection_ok hinspected
  obtain ⟨-, h⟩ := refuseIf_bind_ok.1 h
  obtain ⟨normalized, hnormalized, h⟩ := bind_ok.1 h
  obtain ⟨-, h⟩ := check_bind_ok.1 h
  obtain rfl := Except.ok.inj h
  obtain ⟨hnormal, hmap⟩ := normalizePackages_ok normalPackages_nil hnormalized
  -- a key of the strategy is in lower case already
  have hlower : ∀ stored ∈ selected.packages, toLowerCase (trim stored.key) = stored.key := by
    intro stored hmem
    obtain ⟨requirement, hrequirement, hkey⟩ := List.mem_map.1 (hslots stored hmem)
    rw [← hkey]
    exact normalized_of_isLowerWord (strategy.keys requirement hrequirement)
  have hinspectedKey : ∀ pkg ∈ inspected, ∃ stored ∈ selected.packages, selectedByKey selected.packages pkg.key = some stored ∧
      stored.key = pkg.key ∧ toLowerCase (trim pkg.key) = stored.key := by
    intro pkg hmem
    obtain ⟨stored, hsome⟩ := hinspected pkg hmem
    obtain ⟨hstoredMem, hkey⟩ := mem_selectedByKey hsome
    exact ⟨stored, hstoredMem, hsome, hkey, by rw [← hkey]; exact hlower stored hstoredMem⟩
  have hpackage : ∀ package ∈ normalized, ∃ stored ∈ selected.packages, package.key = stored.key ∧
      package.packageId = some stored.id := by
    intro package hmem
    rcases mem_normalizePackages hnormalized hmem with hmem | ⟨pkg, hpkg, hkey, hid⟩
    · cases hmem
    obtain ⟨found, hfoundMem, rfl⟩ := List.mem_map.1 hpkg
    obtain ⟨stored, hstoredMem, hsome, -, hlowered⟩ := hinspectedKey found hfoundMem
    refine ⟨stored, hstoredMem, hkey.trans hlowered, ?_⟩
    rw [hid]
    dsimp only
    rw [hsome, Option.map_some, Option.map_some, trim_of_isWord (hids _ (hstored stored hstoredMem).1)]
  have hsame : (selected.packages.map BuildPackage.key) ⊆ normalized.map ImageBuildPackage.key := by
    have hsub : normalized.map ImageBuildPackage.key ⊆ selected.packages.map BuildPackage.key := by
      intro key hmem
      obtain ⟨package, hpkg, rfl⟩ := List.mem_map.1 hmem
      obtain ⟨stored, hstoredMem, hkey, -⟩ := hpackage package hpkg
      exact List.mem_map.2 ⟨stored, hstoredMem, hkey.symm⟩
    have hcount : (selected.packages.map BuildPackage.key).length ≤ (normalized.map ImageBuildPackage.key).length := by
      rw [hmap]
      simp [hlength]
    exact ((List.subperm_of_subset hnormal.nodup hsub).perm_of_length_le hcount).symm.subset
  refine ⟨hnormal.nodup, fun package hmem => ?_, fun slot id => ⟨?_, ?_⟩⟩
  · obtain ⟨stored, hstoredMem, -, hstoredId⟩ := hpackage package hmem
    exact ⟨stored.id, (hstored stored hstoredMem).1, hstoredId⟩
  · rintro ⟨package, hmem, rfl, hid⟩
    obtain ⟨stored, hstoredMem, hkey, hstoredId⟩ := hpackage package hmem
    obtain rfl := Option.some.inj (hid.symm.trans hstoredId)
    exact ⟨(hstored stored hstoredMem).1, stored, (hstored stored hstoredMem).2, hkey.symm⟩
  · rintro ⟨hid, stored, hget, rfl⟩
    obtain ⟨found, hfoundMem, hfoundGet⟩ := hfound id hid
    obtain rfl := Option.some.inj (hfoundGet.symm.trans hget)
    obtain ⟨package, hmem, hkey⟩ := List.mem_map.1 (hsame (List.mem_map_of_mem hfoundMem))
    obtain ⟨stored', hstoredMem, hkey', hstoredId⟩ := hpackage package hmem
    obtain rfl := List.inj_on_of_nodup_map hkeys hstoredMem hfoundMem (hkey'.symm.trans hkey)
    exact ⟨package, hmem, hkey, hstoredId.trans (by rw [Table.key_of_get hget])⟩

/-! ## The slots as they were meant -/

namespace UpdateHost.Candidate

/-- The slots are as the request and the current revision say, and so are the three lists. -/
structure SlotsAsMeant (input : ReplacementPackageIds) (candidate : UpdateHost.Candidate) : Prop where
  named : ∀ slot ∈ candidate.strategy.packageRequirements.map (·.key), ∀ id, NamedFor input slot (some id) →
    (packageAt candidate.packages slot).bind (·.packageId) = some id
  emptied : ∀ slot ∈ candidate.strategy.packageRequirements.map (·.key), NamedFor input slot none →
    packageAt candidate.packages slot = none
  inherited : ∀ slot ∈ candidate.strategy.packageRequirements.map (·.key), (∀ id, ¬ NamedFor input slot id) →
    (packageAt candidate.packages slot).map (·.packageId) = (packageAt (currentPackages candidate.current) slot).map (·.packageId)
  inheritedSlots : ∀ slot, slot ∈ candidate.slots.inheritedSlots ↔
    slot ∈ candidate.strategy.packageRequirements.map (·.key) ∧ ∃ pkg, packageAt candidate.packages slot = some pkg ∧
      (packageAt (currentPackages candidate.current) slot).map (·.packageId) = some pkg.packageId
  replacedSlots : ∀ slot, slot ∈ candidate.slots.replacedSlots ↔
    slot ∈ candidate.strategy.packageRequirements.map (·.key) ∧ ∃ pkg, packageAt candidate.packages slot = some pkg ∧
      (packageAt (currentPackages candidate.current) slot).map (·.packageId) ≠ some pkg.packageId
  removedSlots : ∀ slot, slot ∈ candidate.slots.removedSlots ↔
    slot ∈ candidate.strategy.packageRequirements.map (·.key) ∧ packageAt candidate.packages slot = none ∧
      (packageAt (currentPackages candidate.current) slot).isSome
  nodup : (candidate.slots.inheritedSlots ++ candidate.slots.replacedSlots ++ candidate.slots.removedSlots).Nodup

/-- The id that is named for the slot or, where nothing is, the one it has. -/
def Selects (input : ReplacementPackageIds) (current : Option AppVersion) (slot id : String) : Prop :=
  NamedFor input slot (some id) ∨
    (∀ id', ¬ NamedFor input slot id') ∧ (packageAt (currentPackages current) slot).bind idOf = some id

/-- The package of every slot was uploaded for it, and a package without an id is replaced. -/
def InPlace (host : UpdateHost) (input : ReplacementPackageIds) (candidate : UpdateHost.Candidate) : Prop :=
  ∀ slot ∈ candidate.strategy.packageRequirements.map (·.key),
    (∀ id, Selects input candidate.current slot id → ∃ stored, host.buildPackages.get id = some stored ∧ stored.key = slot) ∧
    ∀ pkg, packageAt (currentPackages candidate.current) slot = some pkg → idOf pkg = none →
      ∃ id, NamedFor input slot (some id)

/-- What there is to know of a candidate: the choice in each slot, and which packages that leaves. -/
structure Created (host : UpdateHost) (input : ReplacementPackageIds) (candidate : UpdateHost.Candidate) : Prop where
  normal : NormalPackages (currentPackages candidate.current)
  named : ∀ slot id id', NamedFor input slot id → NamedFor input slot id' → id = id'
  ids : ∀ id ∈ candidate.slots.effectiveIds, PACKAGE_ID_PATTERN id = true
  choices : candidate.slots.choices.map Prod.fst = candidate.strategy.packageRequirements.map (·.key)
  chosen : ∀ choice ∈ candidate.slots.choices, Chosen input candidate.current choice.1 choice.2
  packages : (candidate.packages.map ImageBuildPackage.key).Nodup
  selected : ∀ pkg ∈ candidate.packages, ∃ id ∈ candidate.slots.effectiveIds, pkg.packageId = some id
  stored : ∀ slot id, (∃ pkg ∈ candidate.packages, pkg.key = slot ∧ pkg.packageId = some id) ↔
    id ∈ candidate.slots.effectiveIds ∧ ∃ stored, host.buildPackages.get id = some stored ∧ stored.key = slot

end UpdateHost.Candidate

open UpdateHost.Candidate

/-- What a slot selects is what the update takes for it. -/
theorem Chosen.selected_iff {input : ReplacementPackageIds} {current : Option AppVersion} {slot : String} {choice : SlotChoice}
    (h : Chosen input current slot choice) {id : String} : choice.selectedId = some id ↔ Selects input current slot id := by
  have hselected : choice.selectedId = some id ↔ choice = .inherited id ∨ choice = .replaced id := by
    cases choice <;> simp [SlotChoice.selectedId]
  rw [hselected, h.inherited, h.replaced]
  unfold Selects
  tauto

theorem normal_current {versions : List AppVersion} (h : ∀ version ∈ versions, NormalPackages version.packages) :
    NormalPackages (currentPackages (UpdateHost.currentVersion versions)) := by
  cases hcurrent : UpdateHost.currentVersion versions with
  | none => exact normalPackages_nil
  | some version =>
    refine h version ?_
    unfold UpdateHost.currentVersion at hcurrent
    rcases (Option.orElse_eq_some _ _ _).1 hcurrent with hfound | ⟨-, hfound⟩
    · exact List.mem_of_find?_eq_some hfound
    · exact List.mem_of_find?_eq_some hfound

theorem createCandidate_created {host : UpdateHost} {input : UpdateHost.CreateAppImageCandidateInput}
    {candidate : UpdateHost.Candidate} (h : host.createCandidate input = .ok candidate) :
    Created host input.replacementPackageIds candidate := by
  obtain ⟨appId, -, h⟩ := bind_ok.1 h
  obtain ⟨strategyId, -, h⟩ := bind_ok.1 h
  obtain ⟨expectedRevision, -, h⟩ := bind_ok.1 h
  obtain ⟨-, h⟩ := refuseIf_bind_ok.1 h
  obtain ⟨-, h⟩ := refuseIf_bind_ok.1 h
  obtain ⟨strategy, -, h⟩ := bind_ok.1 h
  obtain ⟨-, h⟩ := check_bind_ok.1 h
  obtain ⟨replacements, hreplacements, h⟩ := bind_ok.1 h
  obtain ⟨slots, hslots, h⟩ := bind_ok.1 h
  obtain ⟨-, h⟩ := refuseIf_bind_ok.1 h
  obtain ⟨selected, hselected, h⟩ := bind_ok.1 h
  obtain ⟨inspected, -, h⟩ := bind_ok.1 h
  obtain ⟨hinspected, h⟩ := check_bind_ok.1 h
  obtain ⟨-, h⟩ := check_bind_ok.1 h
  obtain ⟨packages, hpackages, h⟩ := bind_ok.1 h
  obtain rfl := Except.ok.inj h
  have hnormal := normal_current (host.normal appId)
  obtain ⟨hchoices, hchosen⟩ := chooseSlots_ok hreplacements hnormal.nodup hslots
  have hids : ∀ id ∈ slots.effectiveIds, PACKAGE_ID_PATTERN id = true := by
    intro id hid
    obtain ⟨choice, hmem, hchoice⟩ := List.mem_filterMap.1 hid
    rcases (hchosen choice hmem).selected_iff.1 hchoice with hnamed | ⟨-, hinherited⟩
    · exact (normalizeReplacements_ok hreplacements).2 _ id hnamed
    · obtain ⟨pkg, hpkg, hpkgId⟩ := Option.bind_eq_some_iff.1 hinherited
      exact hnormal.ids pkg ((packageAt_eq_some hnormal.nodup).1 hpkg).1 id (Option.filter_eq_some_iff.1 hpkgId).1
  have hnamed : ∀ slot id id', NamedFor input.replacementPackageIds slot id → NamedFor input.replacementPackageIds slot id' →
      id = id' := by
    intro slot id id' hid hid'
    have hlookup := (normalizeReplacements_ok hreplacements).1 slot
    exact Option.some.inj (((hlookup id).2 hid).symm.trans ((hlookup id').2 hid'))
  obtain ⟨hnodup, hselectedIds, hstored⟩ := createRevision_packages hids hselected hinspected hpackages
  exact ⟨hnormal, hnamed, hids, hchoices, hchosen, hnodup, hselectedIds, hstored⟩

namespace UpdateHost.Candidate.Created

variable {host : UpdateHost} {input : ReplacementPackageIds} {candidate : UpdateHost.Candidate} {slot id : String}

theorem choice_of_slot (h : Created host input candidate) (hslot : slot ∈ candidate.strategy.packageRequirements.map (·.key)) :
    ∃ choice, (slot, choice) ∈ candidate.slots.choices := by
  rw [← h.choices] at hslot
  obtain ⟨⟨_, choice⟩, hmem, rfl⟩ := List.mem_map.1 hslot
  exact ⟨choice, hmem⟩

theorem slot_of_choice (h : Created host input candidate) {choice : SlotChoice} (hmem : (slot, choice) ∈ candidate.slots.choices) :
    slot ∈ candidate.strategy.packageRequirements.map (·.key) := by
  rw [← h.choices]
  exact List.mem_map.2 ⟨_, hmem, rfl⟩

theorem mem_effectiveIds (h : Created host input candidate) : id ∈ candidate.slots.effectiveIds ↔
    ∃ slot ∈ candidate.strategy.packageRequirements.map (·.key), Selects input candidate.current slot id := by
  constructor
  · intro hid
    obtain ⟨⟨slot, choice⟩, hmem, hchoice⟩ := List.mem_filterMap.1 hid
    exact ⟨slot, h.slot_of_choice hmem, (h.chosen _ hmem).selected_iff.1 hchoice⟩
  · rintro ⟨slot, hslot, hselects⟩
    obtain ⟨choice, hmem⟩ := h.choice_of_slot hslot
    exact List.mem_filterMap.2 ⟨(slot, choice), hmem, (h.chosen _ hmem).selected_iff.2 hselects⟩

theorem packageAt_id (h : Created host input candidate) : (packageAt candidate.packages slot).bind (·.packageId) = some id ↔
    id ∈ candidate.slots.effectiveIds ∧ ∃ stored, host.buildPackages.get id = some stored ∧ stored.key = slot := by
  rw [← h.stored, Option.bind_eq_some_iff]
  constructor
  · rintro ⟨pkg, hpkg, hid⟩
    obtain ⟨hmem, hkey⟩ := (packageAt_eq_some h.packages).1 hpkg
    exact ⟨pkg, hmem, hkey, hid⟩
  · rintro ⟨pkg, hmem, hkey, hid⟩
    exact ⟨pkg, (packageAt_eq_some h.packages).2 ⟨hmem, hkey⟩, hid⟩

/-- Every package of the revision has an id that was selected. -/
theorem packageAt_some (h : Created host input candidate) {pkg : ImageBuildPackage} (hpkg : packageAt candidate.packages slot = some pkg) :
    ∃ id ∈ candidate.slots.effectiveIds, pkg.packageId = some id ∧ (packageAt candidate.packages slot).bind (·.packageId) = some id := by
  obtain ⟨id, hid, hpkgId⟩ := h.selected pkg ((packageAt_eq_some h.packages).1 hpkg).1
  exact ⟨id, hid, hpkgId, by rw [hpkg]; exact hpkgId⟩

theorem idOf_current (h : Created host input candidate) {pkg : ImageBuildPackage}
    (hpkg : packageAt (currentPackages candidate.current) slot = some pkg) : idOf pkg = pkg.packageId := by
  unfold idOf
  cases hid : pkg.packageId with
  | none => rfl
  | some id =>
    have hword := h.normal.ids pkg ((packageAt_eq_some h.normal.nodup).1 hpkg).1 id hid
    exact Option.filter_some_pos (decide_eq_true (ne_empty_of_isWord hword))

theorem inPlace_of_asMeant (h : Created host input candidate) (hmeant : SlotsAsMeant input candidate) :
    InPlace host input candidate := by
  intro slot hslot
  refine ⟨fun id hselects => ?_, fun pkg hpkg hnone => ?_⟩
  · rcases hselects with hnamed | ⟨hno, hcurrent⟩
    · exact (h.packageAt_id.1 (hmeant.named slot hslot id hnamed)).2
    · obtain ⟨pkg, hpkg, hid⟩ := Option.bind_eq_some_iff.1 hcurrent
      have hsame := hmeant.inherited slot hslot hno
      rw [hpkg, Option.map_some, ← h.idOf_current hpkg, hid] at hsame
      obtain ⟨kept, hkept, hkeptId⟩ := Option.map_eq_some_iff.1 hsame
      exact (h.packageAt_id.1 (by rw [hkept]; exact hkeptId)).2
  · by_contra hno
    push Not at hno
    by_cases hemptied : NamedFor input slot none
    · -- the slot was emptied, but is not among those that were
      have hmem := (hmeant.removedSlots slot).2 ⟨hslot, hmeant.emptied slot hslot hemptied, by rw [hpkg]; rfl⟩
      obtain ⟨⟨_, choice⟩, hchoice, rfl⟩ := List.mem_map.1 hmem
      obtain ⟨hmem, hremoved⟩ := List.mem_filter.1 hchoice
      have hchosen := h.chosen _ hmem
      cases choice with
      | removed =>
        have := (hchosen.removed.1 rfl).2
        rw [hpkg, Option.bind_some, hnone] at this
        cases this
      | _ => cases hremoved
    · have hunnamed : ∀ id, ¬ NamedFor input slot id := by
        intro id
        cases id with
        | none => exact hemptied
        | some id => exact hno id
      have hsame := hmeant.inherited slot hslot hunnamed
      rw [hpkg, Option.map_some, ← h.idOf_current hpkg, hnone] at hsame
      obtain ⟨kept, hkept, hkeptId⟩ := Option.map_eq_some_iff.1 hsame
      obtain ⟨id, -, hid, -⟩ := h.packageAt_some hkept
      rw [hkeptId] at hid
      cases hid

/-- With the packages in place, a slot has just what it selects. -/
theorem packageAt_id_of_inPlace (h : Created host input candidate) (hplace : InPlace host input candidate)
    (hslot : slot ∈ candidate.strategy.packageRequirements.map (·.key)) :
    (packageAt candidate.packages slot).bind (·.packageId) = some id ↔ Selects input candidate.current slot id := by
  rw [h.packageAt_id, h.mem_effectiveIds]
  constructor
  · rintro ⟨⟨other, hother, hselects⟩, stored, hget, rfl⟩
    obtain ⟨stored', hget', rfl⟩ := (hplace other hother).1 id hselects
    obtain rfl := Option.some.inj (hget.symm.trans hget')
    exact hselects
  · intro hselects
    exact ⟨⟨slot, hslot, hselects⟩, (hplace slot hslot).1 id hselects⟩

theorem packageAt_eq_none (h : Created host input candidate) (hplace : InPlace host input candidate)
    (hslot : slot ∈ candidate.strategy.packageRequirements.map (·.key)) :
    packageAt candidate.packages slot = none ↔ ∀ id, ¬ Selects input candidate.current slot id := by
  constructor
  · intro hnone id hselects
    rw [← h.packageAt_id_of_inPlace hplace hslot, hnone] at hselects
    cases hselects
  · intro hno
    cases hpkg : packageAt candidate.packages slot with
    | none => rfl
    | some pkg =>
      obtain ⟨id, -, -, hid⟩ := h.packageAt_some hpkg
      exact absurd ((h.packageAt_id_of_inPlace hplace hslot).1 hid) (hno id)

theorem mem_inheritedSlots (h : Created host input candidate) : slot ∈ candidate.slots.inheritedSlots ↔
    slot ∈ candidate.strategy.packageRequirements.map (·.key) ∧
      ∃ id, (packageAt (currentPackages candidate.current) slot).bind idOf = some id ∧ Selects input candidate.current slot id := by
  constructor
  · intro hmem
    obtain ⟨⟨_, choice⟩, hchoice, rfl⟩ := List.mem_map.1 hmem
    obtain ⟨hmem, hinherited⟩ := List.mem_filter.1 hchoice
    cases choice with
    | inherited id =>
      have hchosen := h.chosen _ hmem
      exact ⟨h.slot_of_choice hmem, id, ((hchosen.inherited id).1 rfl).1, hchosen.selected_iff.1 rfl⟩
    | _ => cases hinherited
  · rintro ⟨hslot, id, hcurrent, hselects⟩
    obtain ⟨choice, hmem⟩ := h.choice_of_slot hslot
    have hchoice : choice = .inherited id := by
      refine ((h.chosen _ hmem).inherited id).2 ⟨hcurrent, hselects.imp_right And.left⟩
    exact List.mem_map.2 ⟨(slot, choice), List.mem_filter.2 ⟨hmem, by rw [hchoice]⟩, rfl⟩

theorem mem_replacedSlots (h : Created host input candidate) : slot ∈ candidate.slots.replacedSlots ↔
    slot ∈ candidate.strategy.packageRequirements.map (·.key) ∧
      ∃ id, (packageAt (currentPackages candidate.current) slot).bind idOf ≠ some id ∧ Selects input candidate.current slot id := by
  constructor
  · intro hmem
    obtain ⟨⟨_, choice⟩, hchoice, rfl⟩ := List.mem_map.1 hmem
    obtain ⟨hmem, hreplaced⟩ := List.mem_filter.1 hchoice
    cases choice with
    | replaced id =>
      have hchosen := h.chosen _ hmem
      exact ⟨h.slot_of_choice hmem, id, ((hchosen.replaced id).1 rfl).2, hchosen.selected_iff.1 rfl⟩
    | _ => cases hreplaced
  · rintro ⟨hslot, id, hcurrent, hselects⟩
    obtain ⟨choice, hmem⟩ := h.choice_of_slot hslot
    have hchoice : choice = .replaced id := by
      refine ((h.chosen _ hmem).replaced id).2 ⟨hselects.resolve_right fun hsame => hcurrent hsame.2, hcurrent⟩
    exact List.mem_map.2 ⟨(slot, choice), List.mem_filter.2 ⟨hmem, by rw [hchoice]⟩, rfl⟩

theorem mem_removedSlots (h : Created host input candidate) : slot ∈ candidate.slots.removedSlots ↔
    slot ∈ candidate.strategy.packageRequirements.map (·.key) ∧ NamedFor input slot none ∧
      ((packageAt (currentPackages candidate.current) slot).bind idOf).isSome := by
  constructor
  · intro hmem
    obtain ⟨⟨_, choice⟩, hchoice, rfl⟩ := List.mem_map.1 hmem
    obtain ⟨hmem, hremoved⟩ := List.mem_filter.1 hchoice
    cases choice with
    | removed => exact ⟨h.slot_of_choice hmem, (h.chosen _ hmem).removed.1 rfl⟩
    | _ => cases hremoved
  · rintro ⟨hslot, hremoved⟩
    obtain ⟨choice, hmem⟩ := h.choice_of_slot hslot
    have hchoice : choice = .removed := (h.chosen _ hmem).removed.2 hremoved
    exact List.mem_map.2 ⟨(slot, choice), List.mem_filter.2 ⟨hmem, by rw [hchoice]⟩, rfl⟩

/-- A slot that is emptied selects nothing. -/
theorem not_selects_of_emptied (h : Created host input candidate) (hemptied : NamedFor input slot none) :
    ¬ Selects input candidate.current slot id := by
  rintro (hnamed | ⟨hno, -⟩)
  · cases h.named slot _ _ hnamed hemptied
  · exact hno none hemptied

theorem selects_unique (h : Created host input candidate) {id' : String} (hid : Selects input candidate.current slot id)
    (hid' : Selects input candidate.current slot id') : id = id' := by
  rcases hid with hnamed | ⟨hno, hcurrent⟩
  · rcases hid' with hnamed' | ⟨hno', -⟩
    · exact Option.some.inj (h.named slot _ _ hnamed hnamed')
    · exact absurd hnamed (hno' _)
  · rcases hid' with hnamed' | ⟨-, hcurrent'⟩
    · exact absurd hnamed' (hno _)
    · exact Option.some.inj (hcurrent.symm.trans hcurrent')

theorem slots_nodup (h : Created host input candidate) :
    (candidate.slots.inheritedSlots ++ candidate.slots.replacedSlots ++ candidate.slots.removedSlots).Nodup := by
  have hnodup : (candidate.slots.choices.map Prod.fst).Nodup := h.choices ▸ candidate.strategy.nodup
  have hsub : ∀ p, ((candidate.slots.choices.filter p).map Prod.fst).Nodup := fun p =>
    hnodup.sublist (List.filter_sublist.map _)
  rw [List.nodup_append, List.nodup_append]
  refine ⟨⟨hsub _, hsub _, fun slot hmem other hother heq => ?_⟩, hsub _, fun slot hmem other hother heq => ?_⟩
  · subst heq
    obtain ⟨-, id, hcurrent, hselects⟩ := h.mem_inheritedSlots.1 hmem
    obtain ⟨-, id', hcurrent', hselects'⟩ := h.mem_replacedSlots.1 hother
    exact hcurrent' (h.selects_unique hselects hselects' ▸ hcurrent)
  · subst heq
    obtain ⟨-, hremoved, -⟩ := h.mem_removedSlots.1 hother
    rcases List.mem_append.1 hmem with hmem | hmem
    · obtain ⟨-, id, -, hselects⟩ := h.mem_inheritedSlots.1 hmem
      exact h.not_selects_of_emptied hremoved hselects
    · obtain ⟨-, id, -, hselects⟩ := h.mem_replacedSlots.1 hmem
      exact h.not_selects_of_emptied hremoved hselects

/-- A package of the revision is the current one just when it has the id of the current one. -/
theorem current_id (h : Created host input candidate) :
    (packageAt (currentPackages candidate.current) slot).bind idOf = some id ↔
      (packageAt (currentPackages candidate.current) slot).map (·.packageId) = some (some id) := by
  rw [Option.bind_eq_some_iff, Option.map_eq_some_iff]
  constructor
  · rintro ⟨pkg, hpkg, hpkgId⟩
    exact ⟨pkg, hpkg, (h.idOf_current hpkg).symm.trans hpkgId⟩
  · rintro ⟨pkg, hpkg, hpkgId⟩
    exact ⟨pkg, hpkg, (h.idOf_current hpkg).trans hpkgId⟩

theorem asMeant_of_inPlace (h : Created host input candidate) (hplace : InPlace host input candidate) :
    SlotsAsMeant input candidate where
  named slot hslot id hnamed := (h.packageAt_id_of_inPlace hplace hslot).2 (.inl hnamed)
  emptied slot hslot hemptied := (h.packageAt_eq_none hplace hslot).2 fun id => h.not_selects_of_emptied hemptied
  inherited slot hslot hno := by
    cases hcurrent : packageAt (currentPackages candidate.current) slot with
    | none =>
      have hnone : packageAt candidate.packages slot = none := by
        refine (h.packageAt_eq_none hplace hslot).2 fun id hselects => ?_
        rcases hselects with hnamed | ⟨-, hsome⟩
        · exact hno _ hnamed
        · rw [hcurrent] at hsome
          cases hsome
      rw [hnone]
    | some pkg =>
      cases hid : idOf pkg with
      | none =>
        obtain ⟨id, hnamed⟩ := (hplace slot hslot).2 pkg hcurrent hid
        exact absurd hnamed (hno _)
      | some id =>
        have hselects : Selects input candidate.current slot id := .inr ⟨hno, by rw [hcurrent]; exact hid⟩
        obtain ⟨kept, hkept, hkeptId⟩ := Option.bind_eq_some_iff.1 ((h.packageAt_id_of_inPlace hplace hslot).2 hselects)
        rw [hkept, Option.map_some, Option.map_some, hkeptId, ← h.idOf_current hcurrent, hid]
  inheritedSlots slot := by
    rw [h.mem_inheritedSlots]
    refine and_congr_right fun hslot => ?_
    constructor
    · rintro ⟨id, hcurrent, hselects⟩
      have hid := (h.packageAt_id_of_inPlace hplace hslot).2 hselects
      obtain ⟨pkg, hpkg, hpkgId⟩ := Option.bind_eq_some_iff.1 hid
      exact ⟨pkg, hpkg, by rw [hpkgId]; exact h.current_id.1 hcurrent⟩
    · rintro ⟨pkg, hpkg, hsame⟩
      obtain ⟨id, -, hpkgId, hid⟩ := h.packageAt_some hpkg
      rw [hpkgId] at hsame
      exact ⟨id, h.current_id.2 hsame, (h.packageAt_id_of_inPlace hplace hslot).1 hid⟩
  replacedSlots slot := by
    rw [h.mem_replacedSlots]
    refine and_congr_right fun hslot => ?_
    constructor
    · rintro ⟨id, hcurrent, hselects⟩
      have hid := (h.packageAt_id_of_inPlace hplace hslot).2 hselects
      obtain ⟨pkg, hpkg, hpkgId⟩ := Option.bind_eq_some_iff.1 hid
      refine ⟨pkg, hpkg, fun hsame => hcurrent ?_⟩
      rw [hpkgId] at hsame
      exact h.current_id.2 hsame
    · rintro ⟨pkg, hpkg, hother⟩
      obtain ⟨id, -, hpkgId, hid⟩ := h.packageAt_some hpkg
      rw [hpkgId] at hother
      exact ⟨id, fun hsame => hother (h.current_id.1 hsame),
        (h.packageAt_id_of_inPlace hplace hslot).1 hid⟩
  removedSlots slot := by
    rw [h.mem_removedSlots]
    refine and_congr_right fun hslot => ?_
    rw [h.packageAt_eq_none hplace hslot]
    constructor
    · rintro ⟨hemptied, hcurrent⟩
      refine ⟨fun id => h.not_selects_of_emptied hemptied, ?_⟩
      obtain ⟨id, hid⟩ := Option.isSome_iff_exists.1 hcurrent
      obtain ⟨pkg, hpkg, -⟩ := Option.bind_eq_some_iff.1 hid
      rw [hpkg]
      rfl
    · rintro ⟨hno, hcurrent⟩
      obtain ⟨pkg, hpkg⟩ := Option.isSome_iff_exists.1 hcurrent
      cases hid : idOf pkg with
      | none =>
        obtain ⟨id, hnamed⟩ := (hplace slot hslot).2 pkg hpkg hid
        exact absurd (.inl hnamed) (hno id)
      | some id =>
        have hsome : (packageAt (currentPackages candidate.current) slot).bind idOf = some id := by
          rw [hpkg]
          exact hid
        refine ⟨?_, by rw [hsome]; rfl⟩
        by_contra hemptied
        refine hno id (.inr ⟨fun id' hnamed => ?_, hsome⟩)
        cases id' with
        | none => exact hemptied hnamed
        | some id' => exact hno id' (.inl hnamed)
  nodup := h.slots_nodup

end UpdateHost.Candidate.Created

/-- The slots of a candidate are as they were meant just when each package that is named for a slot, or kept in
it, was uploaded for that slot, and a package without an id is replaced. -/
theorem candidate_slots_iff {host : UpdateHost} {input : UpdateHost.CreateAppImageCandidateInput}
    {candidate : UpdateHost.Candidate} (h : host.createCandidate input = .ok candidate) :
    SlotsAsMeant input.replacementPackageIds candidate ↔ InPlace host input.replacementPackageIds candidate :=
  ⟨(createCandidate_created h).inPlace_of_asMeant, (createCandidate_created h).asMeant_of_inPlace⟩

/-! ## An App with two slots -/

/-- A strategy with a slot for the server and one for the client. -/
def twoSlots : RegisteredStrategy where
  id := "strategy"
  revision := 1
  active := true
  packageRequirements := [⟨⟨"server", false⟩, [".tgz"], none⟩, ⟨⟨"client", false⟩, [".tgz"], none⟩]
  nodup := by decide
  keys := by decide +kernel

def uploaded (id key : String) : BuildPackage where
  id := id
  strategyId := "strategy"
  key := key
  artifact := ⟨key ++ ".tgz", "aaaaaaaaaaaaaaaaaaaaaaaaaaaaaaaaaaaaaaaaaaaaaaaaaaaaaaaaaaaaaaaa", 1⟩
  storageKey := "build-packages/" ++ id ++ "/" ++ key ++ ".tgz"

/-- The App has no revision yet, and one package was uploaded for each slot. -/
def freshHost : UpdateHost where
  defaultStrategyIdForApp := none
  supportsStrategyForApp := some fun _ _ => true
  requireExecutableStrategy _ := .ok twoSlots
  listVersions _ := []
  latestVersions _ := []
  normal _ version h := absurd h List.not_mem_nil
  buildPackages := ⟨[uploaded "s1" "server", uploaded "c1" "client"], by decide⟩
  resolvePath pkg := .ok pkg.storageKey
  inspectPackages _ paths := .ok (paths.map fun path => ⟨path.1, path.2, (uploaded "" path.1).artifact, none⟩)
  persist _ _ := .ok ()

def updateWith (server client : String) : UpdateHost.CreateAppImageCandidateInput where
  appId := "app"
  strategyId := some "strategy"
  expectedRevision := 0
  replacementPackageIds := .object [("server", .text server), ("client", .text client)]
  requestedBy := "admin"
  operationId := "operation"

/-- What a candidate was made of, and the ids in its slots. -/
def outline (candidate : UpdateHost.Candidate) : List String × Option AppVersion × List (String × Option String) :=
  (candidate.strategy.packageRequirements.map (·.key), candidate.current,
    candidate.packages.map fun pkg => (pkg.key, pkg.packageId))

theorem created_of_outline {result : Updated UpdateHost.Candidate} {found} (h : result.toOption.map outline = some found) :
    ∃ candidate, result = .ok candidate ∧ outline candidate = found := by
  cases result with
  | error e => cases h
  | ok candidate => exact ⟨candidate, rfl, Option.some.inj h⟩

theorem named_in_update {server client slot id : String}
    (h : NamedFor (updateWith server client).replacementPackageIds slot (some id)) :
    slot = "server" ∧ id = trim server ∨ slot = "client" ∧ id = trim client := by
  obtain ⟨entries, rawKey, rawId, heq, hmem, hkey, hid⟩ := h
  cases heq
  rcases List.mem_cons.1 hmem with heq | hmem
  · cases heq
    exact .inl ⟨hkey ▸ by decide +kernel, (Option.some.inj hid).symm⟩
  · cases List.mem_singleton.1 hmem
    exact .inr ⟨hkey ▸ by decide +kernel, (Option.some.inj hid).symm⟩

theorem first_candidate_as_meant : ∃ candidate, freshHost.createCandidate (updateWith "s1" "c1") = .ok candidate ∧
    SlotsAsMeant (updateWith "s1" "c1").replacementPackageIds candidate := by
  have houtline : (freshHost.createCandidate (updateWith "s1" "c1")).toOption.map outline =
      some (["server", "client"], none, [("server", some "s1"), ("client", some "c1")]) := by decide +kernel
  obtain ⟨candidate, hcandidate, hfound⟩ := created_of_outline houtline
  refine ⟨candidate, hcandidate, (candidate_slots_iff hcandidate).2 fun slot hslot => ?_⟩
  have hcurrent : candidate.current = none := (Prod.mk.inj (Prod.mk.inj hfound).2).1
  rw [hcurrent]
  refine ⟨fun id hselects => ?_, nofun⟩
  rcases hselects with hnamed | ⟨-, hnone⟩
  · rcases named_in_update hnamed with ⟨rfl, rfl⟩ | ⟨rfl, rfl⟩
    · exact ⟨uploaded "s1" "server", by decide +kernel, rfl⟩
    · exact ⟨uploaded "c1" "client", by decide +kernel, rfl⟩
  · cases hnone

/-- Each of the two packages is named for the slot of the other one. -/
theorem crossed_packages : ∃ candidate, freshHost.createCandidate (updateWith "c1" "s1") = .ok candidate ∧
    ¬ SlotsAsMeant (updateWith "c1" "s1").replacementPackageIds candidate := by
  have houtline : (freshHost.createCandidate (updateWith "c1" "s1")).toOption.map outline =
      some (["server", "client"], none, [("client", some "c1"), ("server", some "s1")]) := by decide +kernel
  obtain ⟨candidate, hcandidate, hfound⟩ := created_of_outline houtline
  refine ⟨candidate, hcandidate, fun hmeant => ?_⟩
  have hslots : candidate.strategy.packageRequirements.map (·.key) = ["server", "client"] := (Prod.mk.inj hfound).1
  have hnamed : NamedFor (updateWith "c1" "s1").replacementPackageIds "server" (some "c1") :=
    ⟨_, "server", .text "c1", rfl, List.mem_cons_self, by decide +kernel, by decide +kernel⟩
  have hserver := hmeant.named "server" (by rw [hslots]; exact List.mem_cons_self) "c1" hnamed
  obtain ⟨-, stored, hstored, hkey⟩ := (createCandidate_created hcandidate).packageAt_id.1 hserver
  have hclient : freshHost.buildPackages.get "c1" = some (uploaded "c1" "client") := by decide +kernel
  obtain rfl := Option.some.inj (hclient.symm.trans hstored)
  exact absurd hkey (by decide)

end OpenApp.Catalog
