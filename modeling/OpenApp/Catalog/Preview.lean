import OpenApp.Catalog.Drafts
import OpenApp.Catalog.Slots

/-!
# The preview of an update and the update itself

The browser and the server fill the slots on their own. They come to the same where the browser is given what it
offers: slots of the strategy, and packages by their ids. Only the server checks that.
-/

namespace OpenApp.Catalog

open Fallible Keyed Script

/-- The draft of a revision after some edits. -/
def draftAfter (localeNotAfter : String → String → Bool) (current : Option AppVersion) (edits : List Edit) :
    AppImageUpdateDraft :=
  edits.foldl AppImageUpdateDraft.edit (createAppImageUpdateDraft (inheritedPackageIdsForRevision localeNotAfter current))

/-- The preview agrees with what the server makes of the same draft. -/
structure Agrees (strategy : RegisteredStrategy) (current : Option AppVersion) (draft : AppImageUpdateDraft) : Prop where
  canBuild : (resolveAppImageUpdateDraft strategy draft).canBuild = true ↔
    ∃ slots, computeSlots strategy current draft.request = .ok slots
  selected : ∀ slots, computeSlots strategy current draft.request = .ok slots →
    ∀ requirement ∈ strategy.packageRequirements, ∀ choice, (requirement.key, choice) ∈ slots.choices →
      (resolveAppImageUpdateDraft strategy draft).effectivePackageIds.lookup requirement.key = choice.selectedId.map .text
  changed : ∀ slots, computeSlots strategy current draft.request = .ok slots →
    ∀ key, key ∈ (resolveAppImageUpdateDraft strategy draft).changedSlots ↔ key ∈ slots.replacedSlots ∨ key ∈ slots.removedSlots

/-- The edit is about a slot of the strategy, and names a package, if any, by an identifier. -/
def Edit.Offered (strategy : RegisteredStrategy) : Edit → Prop
  | .replace key packageId => key ∈ strategy.packageRequirements.map (·.key) ∧
    ∀ id ∈ packageId, trim id = "" ∨ PACKAGE_ID_PATTERN (trim id) = true
  | .reset _ => True

section

variable {strategy : RegisteredStrategy} {current : Option AppVersion} {draft : AppImageUpdateDraft} {key : String}
  {localeNotAfter : String → String → Bool}

/-! ## What is inherited -/

theorem rows_fromEntries {α : Type} {entries : List (String × α)} (h : (entries.map (·.1)).Nodup) :
    (fromEntries entries).rows = entries :=
  Table.rows_foldl_put h

theorem fst_of_packageEntry {pkg : ImageBuildPackage} {entry : String × String} (h : packageEntry pkg = some entry) :
    entry.1 = pkg.key := by
  obtain ⟨id, -, rfl⟩ := Option.map_eq_some_iff.1 h
  rfl

/-- Entries that keep the keys of what they are made of. -/
theorem nodup_filterMap {α β : Type} {f : α → Option β} {k : α → String} {k' : β → String}
    (hf : ∀ a b, f a = some b → k' b = k a) {as : List α} (h : (as.map k).Nodup) : ((as.filterMap f).map k').Nodup := by
  refine h.sublist ?_
  clear h
  induction as with
  | nil => exact List.Sublist.refl _
  | cons a as ih =>
    cases hb : f a with
    | none =>
      rw [List.filterMap_cons_none hb, List.map_cons]
      exact ih.cons _
    | some b =>
      rw [List.filterMap_cons_some hb, List.map_cons, List.map_cons, hf a b hb]
      exact ih.cons_cons _

/-- What the browser takes over from a revision. -/
theorem mem_inheritedPackageIds (h : NormalPackages (currentPackages current)) {id : String} :
    (key, id) ∈ (inheritedPackageIdsForRevision localeNotAfter current).rows ↔
      ∃ pkg ∈ currentPackages current, pkg.key = key ∧ idOf pkg = some id := by
  cases current with
  | none => simp [inheritedPackageIdsForRevision, Table.empty, currentPackages]
  | some revision =>
    have hperm : (packagesForAppVersion localeNotAfter revision).Perm revision.packages := List.mergeSort_perm _ _
    have hnodup : ((packagesForAppVersion localeNotAfter revision).map ImageBuildPackage.key).Nodup :=
      (hperm.map _).nodup_iff.2 h.nodup
    simp only [inheritedPackageIdsForRevision, rows_fromEntries (nodup_filterMap (fun _ _ => fst_of_packageEntry) hnodup), List.mem_filterMap]
    constructor
    · rintro ⟨pkg, hpkg, hentry⟩
      obtain ⟨id', hid, hpair⟩ := Option.map_eq_some_iff.1 hentry
      obtain ⟨rfl, rfl⟩ := Prod.mk.inj hpair
      exact ⟨pkg, hperm.mem_iff.1 hpkg, rfl, hid⟩
    · rintro ⟨pkg, hpkg, rfl, hid⟩
      exact ⟨pkg, hperm.mem_iff.2 hpkg, Option.map_eq_some_iff.2 ⟨id, hid, rfl⟩⟩

theorem isWord_of_idOf {packages : List ImageBuildPackage} (h : NormalPackages packages) {pkg : ImageBuildPackage} {id : String}
    (hpkg : pkg ∈ packages) (hid : idOf pkg = some id) : PACKAGE_ID_PATTERN id = true :=
  h.ids pkg hpkg id (Option.filter_eq_some_iff.1 hid).1

theorem fst_of_normalizedEntry {entry entry' : String × String} (h : normalizedEntry entry = some entry') :
    entry'.1 = entry.1 := by
  unfold normalizedEntry at h
  split at h
  · obtain rfl := Option.some.inj h
    rfl
  · cases h

/-- An id of a package is as it is stored, so the draft inherits what the server does. -/
theorem inherited_create (h : NormalPackages (currentPackages current)) (hkey : key ∉ OBJECT_PROTOTYPE) :
    ((createAppImageUpdateDraft (inheritedPackageIdsForRevision localeNotAfter current)).inheritedPackageIds.get key).map (·.2) =
      (inheritedPackages current).get key := by
  have hproto : key ≠ "__proto__" := by
    rintro rfl
    exact hkey (by decide)
  rw [inheritedPackages_get h.nodup]
  apply Option.ext
  intro id
  have hserver : (packageAt (currentPackages current) key).bind idOf = some id ↔
      ∃ pkg ∈ currentPackages current, pkg.key = key ∧ idOf pkg = some id := by
    rw [Option.bind_eq_some_iff]
    constructor
    · rintro ⟨pkg, hpkg, hid⟩
      obtain ⟨hmem, hslot⟩ := (packageAt_eq_some h.nodup).1 hpkg
      exact ⟨pkg, hmem, hslot, hid⟩
    · rintro ⟨pkg, hmem, hslot, hid⟩
      exact ⟨pkg, (packageAt_eq_some h.nodup).2 ⟨hmem, hslot⟩, hid⟩
  have hdraft : ((createAppImageUpdateDraft (inheritedPackageIdsForRevision localeNotAfter current)).inheritedPackageIds.get
      key).map (·.2) = some id ↔ (key, id) ∈ (inheritedPackageIdsForRevision localeNotAfter current).rows := by
    rw [Option.map_eq_some_iff]
    simp only [createAppImageUpdateDraft, Table.get_eq_some,
      rows_fromEntries (nodup_filterMap (fun _ _ => fst_of_normalizedEntry) (inheritedPackageIdsForRevision localeNotAfter current).nodup),
      List.mem_filterMap]
    constructor
    · rintro ⟨entry, ⟨⟨⟨key', id'⟩, hmem, hentry⟩, rfl⟩, rfl⟩
      obtain ⟨pkg, hpkg, -, hid⟩ := (mem_inheritedPackageIds h).1 hmem
      have hword := isWord_of_idOf h hpkg hid
      unfold normalizedEntry at hentry
      split at hentry
      · obtain rfl := Option.some.inj hentry
        rw [show trim id' = id' from trim_of_isWord hword]
        exact hmem
      · cases hentry
    · intro hmem
      obtain ⟨pkg, hpkg, -, hid⟩ := (mem_inheritedPackageIds h).1 hmem
      have hword := isWord_of_idOf h hpkg hid
      refine ⟨(key, id), ⟨⟨(key, id), hmem, ?_⟩, rfl⟩, rfl⟩
      have htrim : trim id = id := trim_of_isWord hword
      have htruthy : truthy id = true := by simpa [truthy] using ne_empty_of_isWord hword
      simp [normalizedEntry, htrim, htruthy, hproto]
  rw [hdraft, hserver, mem_inheritedPackageIds h]

/-! ## Edits -/

/-- A draft that was made from the revision, and edited only as it is offered. -/
structure Fits (strategy : RegisteredStrategy) (current : Option AppVersion) (draft : AppImageUpdateDraft) : Prop where
  inherited : ∀ key, key ∉ OBJECT_PROTOTYPE → (draft.inheritedPackageIds.get key).map (·.2) = (inheritedPackages current).get key
  slots : ∀ entry ∈ draft.replacementPackageIds.rows, entry.1 ∈ strategy.packageRequirements.map (·.key)
  ids : ∀ entry ∈ draft.replacementPackageIds.rows, ∀ id ∈ entry.2,
    PACKAGE_ID_PATTERN id = true ∧ draft.inheritedId entry.1 ≠ .text id

theorem mem_put {α β : Type} [DecidableEq α] {k : β → α} {t : Table k} {a b : β} (h : b ∈ (t.put a).rows) : b = a ∨ b ∈ t.rows := by
  rw [Table.mem_iff, Table.get_put] at h
  split at h
  · exact .inl (Option.some.inj h).symm
  · exact .inr (Table.mem_iff.2 h)

theorem Fits.create (h : NormalPackages (currentPackages current)) :
    Fits strategy current (createAppImageUpdateDraft (inheritedPackageIdsForRevision localeNotAfter current)) where
  inherited := fun _ hkey => inherited_create h hkey
  slots := nofun
  ids := nofun

theorem Fits.reset (h : Fits strategy current draft) (key : String) : Fits strategy current (resetAppImageUpdateSlot draft key) where
  inherited := h.inherited
  slots := fun entry hentry => h.slots entry (List.mem_filter.1 hentry).1
  ids := fun entry hentry => h.ids entry (List.mem_filter.1 hentry).1

theorem Fits.put (h : Fits strategy current draft) {entry : String × Option String}
    (hslot : entry.1 ∈ strategy.packageRequirements.map (·.key))
    (hid : ∀ id ∈ entry.2, PACKAGE_ID_PATTERN id = true ∧ draft.inheritedId entry.1 ≠ .text id) :
    Fits strategy current { draft with replacementPackageIds := draft.replacementPackageIds.put entry } where
  inherited := h.inherited
  slots := by
    intro other hother
    rcases mem_put hother with rfl | hother
    · exact hslot
    · exact h.slots other hother
  ids := by
    intro other hother
    rcases mem_put hother with rfl | hother
    · exact hid
    · exact h.ids other hother

theorem Fits.edit {edit : Edit} (h : Fits strategy current draft) (hedit : edit.Offered strategy) :
    Fits strategy current (draft.edit edit) := by
  cases edit with
  | reset key => exact h.reset key
  | replace key packageId =>
    obtain ⟨hslot, hid⟩ := hedit
    cases packageId with
    | none => exact h.put hslot nofun
    | some packageId =>
      simp only [AppImageUpdateDraft.edit, replaceAppImageUpdatePackage]
      split
      · exact h.reset key
      · rename_i hnew
        obtain ⟨htruthy, hother⟩ := not_or.1 hnew
        refine h.put hslot fun id hmem => ?_
        obtain rfl := Option.some.inj hmem
        rcases hid packageId rfl with hempty | hword
        · simp [truthy, hempty] at htruthy
        · exact ⟨hword, hother⟩

theorem fits_draftAfter (hcurrent : NormalPackages (currentPackages current)) {edits : List Edit}
    (hedits : ∀ edit ∈ edits, edit.Offered strategy) : Fits strategy current (draftAfter localeNotAfter current edits) := by
  have hrun : ∀ {draft}, Fits strategy current draft → Fits strategy current (edits.foldl AppImageUpdateDraft.edit draft) := by
    intro draft h
    induction edits generalizing draft with
    | nil => exact h
    | cons edit edits ih =>
      exact ih (fun e he => hedits e (List.mem_cons_of_mem _ he)) (h.edit (hedits edit List.mem_cons_self))
  exact hrun (.create hcurrent)

/-! ## What is sent -/

theorem addReplacements_rows {before rows : Replacements} (hnodup : ((before ++ rows).map (·.1)).Nodup)
    (hkeys : ∀ row ∈ rows, isLowerWord 127 row.1 = true) (hids : ∀ row ∈ rows, ∀ id ∈ row.2, PACKAGE_ID_PATTERN id = true) :
    addReplacements before (rows.map fun row => (row.1, sentId row.2)) = .ok (before ++ rows) := by
  induction rows generalizing before with
  | nil => simp [addReplacements]
  | cons row rest ih =>
    obtain ⟨key, id⟩ := row
    have hkey := hkeys (key, id) List.mem_cons_self
    have hnormal : (sentId id).normal = id := by
      cases id with
      | none => rfl
      | some id => exact congrArg some (trim_of_isWord (hids (key, some id) List.mem_cons_self id rfl))
    have hnew : before.lookup key = none := by
      rw [List.map_append, List.nodup_append] at hnodup
      rw [List.lookup_eq_none_iff]
      intro entry hentry
      simpa using (hnodup.2.2 _ (List.mem_map_of_mem hentry) key List.mem_cons_self).symm
    have hid : id.any (fun id => !PACKAGE_ID_PATTERN id) = false := by
      cases id with
      | none => rfl
      | some id => simp [hids (key, some id) List.mem_cons_self id rfl]
    have hrest := @ih (before ++ [(key, id)]) (by simpa using hnodup)
      (fun row hrow => hkeys row (List.mem_cons_of_mem _ hrow)) (fun row hrow => hids row (List.mem_cons_of_mem _ hrow))
    rw [List.map_cons, addReplacements]
    simp only [normalized_of_isLowerWord hkey, PACKAGE_KEY_PATTERN, hkey, hnormal, hid, hnew]
    simpa using hrest

/-- The server takes the replacements of the draft as they are, if there are any. -/
theorem normalizeReplacements_request (h : Fits strategy current draft) :
    normalizeReplacements draft.request = if draft.replacementPackageIds.rows = [] then
      .error (.update "app_image_update_replacement_required") else .ok draft.replacementPackageIds.rows := by
  have hkeys : ∀ row ∈ draft.replacementPackageIds.rows, isLowerWord 127 row.1 = true := by
    intro row hrow
    obtain ⟨requirement, hrequirement, hkey⟩ := List.mem_map.1 (h.slots row hrow)
    exact hkey ▸ isLowerWord_mono (by decide) (strategy.keys requirement hrequirement)
  have hadd := @addReplacements_rows [] _ draft.replacementPackageIds.nodup hkeys
    fun row hrow id hid => (h.ids row hrow id hid).1
  rw [AppImageUpdateDraft.request, normalizeReplacements, hadd]
  by_cases hrows : draft.replacementPackageIds.rows = [] <;> simp [hrows, refuseIf, bind, Except.bind, pure, Except.pure]

theorem lookup_rows {α : Type} (t : Table fun entry : String × α => entry.1) (key : String) :
    t.rows.lookup key = (t.get key).map (·.2) := by
  obtain ⟨rows, hnodup⟩ := t
  simp only [Table.get]
  clear hnodup
  induction rows with
  | nil => rfl
  | cons entry rest ih =>
    obtain ⟨key', value⟩ := entry
    by_cases hkey : key = key'
    · subst hkey
      simp
    · rw [List.lookup_cons, beq_false_of_ne hkey, List.find?_cons_of_neg (by simpa using Ne.symm hkey)]
      exact ih

/-! ## Slots -/

theorem missingProperty_of_plain (hkey : key ∉ OBJECT_PROTOTYPE) : missingProperty key = .undefined := by
  simp [missingProperty, hkey]

theorem inheritedId_eq (h : Fits strategy current draft) (hkey : key ∉ OBJECT_PROTOTYPE) :
    draft.inheritedId key = match (inheritedPackages current).get key with
      | some id => .text id
      | none => .undefined := by
  rw [← h.inherited key hkey, AppImageUpdateDraft.inheritedId]
  cases draft.inheritedPackageIds.get key with
  | none => exact missingProperty_of_plain hkey
  | some entry => rfl

theorem replacementId_eq (hkey : key ∉ OBJECT_PROTOTYPE) :
    draft.replacementId key = match draft.replacementPackageIds.rows.lookup key with
      | some (some id) => .text id
      | some none => .null
      | none => .undefined := by
  rw [lookup_rows, AppImageUpdateDraft.replacementId]
  cases draft.replacementPackageIds.get key with
  | none => exact missingProperty_of_plain hkey
  | some entry =>
    obtain ⟨key', id⟩ := entry
    cases id <;> rfl

theorem truthy_inherited (hcurrent : NormalPackages (currentPackages current)) {id : String}
    (hid : (inheritedPackages current).get key = some id) : truthy id = true := by
  rw [inheritedPackages_get hcurrent.nodup] at hid
  obtain ⟨pkg, -, hid⟩ := Option.bind_eq_some_iff.1 hid
  exact (Option.filter_eq_some_iff.1 hid).2

/-- What the draft names for a slot is an identifier, and not the one that is inherited. -/
theorem lookup_named (h : Fits strategy current draft) (hkey : key ∉ OBJECT_PROTOTYPE) {id : String}
    (hlookup : draft.replacementPackageIds.rows.lookup key = some (some id)) :
    truthy id = true ∧ (inheritedPackages current).get key ≠ some id := by
  rw [lookup_rows, Option.map_eq_some_iff] at hlookup
  obtain ⟨entry, hentry, hid⟩ := hlookup
  obtain ⟨hmem, rfl⟩ := Table.get_eq_some.1 hentry
  obtain ⟨hword, hother⟩ := h.ids entry hmem id hid
  refine ⟨by simpa [truthy] using ne_empty_of_isWord hword, fun hsame => hother ?_⟩
  rw [inheritedId_eq h hkey, hsame]

/-- The browser and the server fill the slot alike. -/
structure SlotAgrees (draft : AppImageUpdateDraft) (key : String) (choice : SlotChoice) : Prop where
  effective : (if (draft.effectiveId key).truthy then some (draft.effectiveId key) else none) = choice.selectedId.map .text
  changed : draft.changed key = true ↔ (∃ id, choice = .replaced id) ∨ choice = .removed

/-- A slot the browser does not miss. -/
theorem chooseSlot_agrees (h : Fits strategy current draft) (hcurrent : NormalPackages (currentPackages current))
    {requirement : PackageRequirement} (hkey : requirement.key ∉ OBJECT_PROTOTYPE)
    (hfilled : (draft.effectiveId requirement.key).truthy = true ∨ requirement.required = false) :
    ∃ choice, chooseSlot draft.replacementPackageIds.rows (inheritedPackages current) requirement = .ok choice ∧
      SlotAgrees draft requirement.key choice := by
  have hreplacement := @replacementId_eq draft _ hkey
  have hinherited := inheritedId_eq h hkey
  unfold chooseSlot
  cases hlookup : draft.replacementPackageIds.rows.lookup requirement.key with
  | none =>
    rw [hlookup] at hreplacement
    cases hget : (inheritedPackages current).get requirement.key with
    | none =>
      rw [hget] at hinherited
      have hrequired : requirement.required = false := by
        simpa [AppImageUpdateDraft.effectiveId, hreplacement, hinherited, Property.truthy] using hfilled
      refine ⟨.empty, by simp [refuseIf, hrequired, bind, Except.bind, pure, Except.pure], ?_, ?_⟩
      · simp [AppImageUpdateDraft.effectiveId, hreplacement, hinherited, Property.truthy, SlotChoice.selectedId]
      · simp [AppImageUpdateDraft.changed, hreplacement, hinherited, Property.truthy]
    | some id =>
      rw [hget] at hinherited
      have htruthy := truthy_inherited hcurrent hget
      refine ⟨.inherited id, rfl, ?_, ?_⟩
      · simp [AppImageUpdateDraft.effectiveId, hreplacement, hinherited, Property.truthy, SlotChoice.selectedId, htruthy]
      · simp [AppImageUpdateDraft.changed, hreplacement, Property.truthy]
  | some named =>
    rw [hlookup] at hreplacement
    cases named with
    | none =>
      have hrequired : requirement.required = false := by
        simpa [AppImageUpdateDraft.effectiveId, hreplacement, Property.truthy] using hfilled
      refine ⟨if ((inheritedPackages current).get requirement.key).isSome then .removed else .empty,
        by simp [refuseIf, hrequired, bind, Except.bind, pure, Except.pure], ?_, ?_⟩
      · cases (inheritedPackages current).get requirement.key <;>
          simp [AppImageUpdateDraft.effectiveId, hreplacement, Property.truthy, SlotChoice.selectedId]
      · cases hget : (inheritedPackages current).get requirement.key with
        | none =>
          rw [hget] at hinherited
          simp [AppImageUpdateDraft.changed, hreplacement, hinherited, Property.truthy]
        | some id =>
          rw [hget] at hinherited
          simp [AppImageUpdateDraft.changed, hreplacement, hinherited, Property.truthy, truthy_inherited hcurrent hget]
    | some id =>
      obtain ⟨htruthy, hother⟩ := lookup_named h hkey hlookup
      refine ⟨.replaced id, by simp [hother, pure, Except.pure], ?_, ?_⟩
      · simp [AppImageUpdateDraft.effectiveId, hreplacement, Property.truthy, SlotChoice.selectedId, htruthy]
      · have hdiffers : draft.inheritedId requirement.key ≠ .text id := by
          rw [hinherited]
          cases hget : (inheritedPackages current).get requirement.key with
          | none => simp
          | some inheritedId =>
            rw [hget] at hother
            simpa using hother
        simp [AppImageUpdateDraft.changed, hreplacement, Property.truthy, htruthy, Ne.symm hdiffers]

/-- A slot the browser misses the server refuses. -/
theorem chooseSlot_missing (h : Fits strategy current draft) (hcurrent : NormalPackages (currentPackages current))
    {requirement : PackageRequirement} (hkey : requirement.key ∉ OBJECT_PROTOTYPE)
    (hmissing : (draft.effectiveId requirement.key).truthy = false) (hrequired : requirement.required = true)
    (choice : SlotChoice) :
    chooseSlot draft.replacementPackageIds.rows (inheritedPackages current) requirement ≠ .ok choice := by
  have hreplacement := @replacementId_eq draft _ hkey
  have hinherited := inheritedId_eq h hkey
  unfold chooseSlot
  cases hlookup : draft.replacementPackageIds.rows.lookup requirement.key with
  | none =>
    rw [hlookup] at hreplacement
    cases hget : (inheritedPackages current).get requirement.key with
    | none => simp [refuseIf, hrequired, bind, Except.bind]
    | some id =>
      rw [hget] at hinherited
      simp [AppImageUpdateDraft.effectiveId, hreplacement, hinherited, Property.truthy, truthy_inherited hcurrent hget] at hmissing
  | some named =>
    rw [hlookup] at hreplacement
    cases named with
    | none => simp [refuseIf, hrequired, bind, Except.bind]
    | some id =>
      simp [AppImageUpdateDraft.effectiveId, hreplacement, Property.truthy, (lookup_named h hkey hlookup).1] at hmissing

/-! ## The whole draft -/

/-- No slot has a name that every object has. -/
def Plain (strategy : RegisteredStrategy) : Prop :=
  ∀ requirement ∈ strategy.packageRequirements, requirement.key ∉ OBJECT_PROTOTYPE

theorem chooseSlots_eq (h : Fits strategy current draft) :
    chooseSlots strategy current draft.replacementPackageIds.rows = (do
      let choices ← strategy.packageRequirements.mapM fun requirement => do
        let choice ← chooseSlot draft.replacementPackageIds.rows (inheritedPackages current) requirement
        pure (requirement.key, choice)
      pure ⟨choices⟩) := by
  have hsupported : (draft.replacementPackageIds.rows.any fun replacement =>
      (strategy.packageRequirements.map (·.key)).contains replacement.1 = false) = false := by
    rw [List.any_eq_false]
    intro entry hentry
    simpa using List.contains_iff_mem.2 (h.slots entry hentry)
  rw [chooseSlots, refuseIf, if_neg (by rw [hsupported]; exact Bool.false_ne_true)]
  rfl

theorem exists_chooseSlots (h : Fits strategy current draft) (hcurrent : NormalPackages (currentPackages current))
    (hplain : Plain strategy)
    (hfilled : ∀ requirement ∈ strategy.packageRequirements,
      (draft.effectiveId requirement.key).truthy = true ∨ requirement.required = false) :
    ∃ slots, chooseSlots strategy current draft.replacementPackageIds.rows = .ok slots := by
  have hall : ∀ requirement ∈ strategy.packageRequirements, ∃ pair, (do
      let choice ← chooseSlot draft.replacementPackageIds.rows (inheritedPackages current) requirement
      pure (requirement.key, choice) : Updated (String × SlotChoice)) = .ok pair := by
    intro requirement hrequirement
    obtain ⟨choice, hchoice, -⟩ := chooseSlot_agrees h hcurrent (hplain requirement hrequirement) (hfilled requirement hrequirement)
    exact ⟨(requirement.key, choice), bind_ok.2 ⟨choice, hchoice, rfl⟩⟩
  obtain ⟨choices, hchoices⟩ := exists_mapM_ok hall
  exact ⟨⟨choices⟩, by rw [chooseSlots_eq h]; exact bind_ok.2 ⟨choices, hchoices, rfl⟩⟩

/-- The slots the server has filled are those of the strategy, and the browser has filled each of them alike. -/
theorem choices_agree (h : Fits strategy current draft) (hcurrent : NormalPackages (currentPackages current))
    (hplain : Plain strategy) {slots : Slots} (hslots : chooseSlots strategy current draft.replacementPackageIds.rows = .ok slots) :
    (∀ requirement ∈ strategy.packageRequirements, (∃ choice, (requirement.key, choice) ∈ slots.choices) ∧
      ((draft.effectiveId requirement.key).truthy = true ∨ requirement.required = false)) ∧
    ∀ key choice, (key, choice) ∈ slots.choices →
      key ∈ strategy.packageRequirements.map (·.key) ∧ SlotAgrees draft key choice := by
  rw [chooseSlots_eq h] at hslots
  obtain ⟨choices, hchoices, hslots⟩ := bind_ok.1 hslots
  obtain rfl := Except.ok.inj hslots
  have hfilled : ∀ requirement ∈ strategy.packageRequirements, ∀ choice,
      chooseSlot draft.replacementPackageIds.rows (inheritedPackages current) requirement = .ok choice →
      (draft.effectiveId requirement.key).truthy = true ∨ requirement.required = false := by
    intro requirement hrequirement choice hchoice
    by_contra hmissing
    obtain ⟨htruthy, hrequired⟩ := not_or.1 hmissing
    exact chooseSlot_missing h hcurrent (hplain requirement hrequirement) (by simpa using htruthy) (by simpa using hrequired)
      choice hchoice
  constructor
  · intro requirement hrequirement
    obtain ⟨pair, hpair, hok⟩ := mapM_left hchoices requirement hrequirement
    obtain ⟨choice, hchoice, hok⟩ := bind_ok.1 hok
    obtain rfl := Except.ok.inj hok
    exact ⟨⟨choice, hpair⟩, hfilled requirement hrequirement choice hchoice⟩
  · intro key choice hmem
    obtain ⟨requirement, hrequirement, hok⟩ := mapM_right hchoices _ hmem
    obtain ⟨chosen, hchosen, hok⟩ := bind_ok.1 hok
    obtain ⟨rfl, rfl⟩ := Prod.mk.inj (Except.ok.inj hok)
    refine ⟨List.mem_map_of_mem hrequirement, ?_⟩
    obtain ⟨choice, hchoice, hagrees⟩ := chooseSlot_agrees h hcurrent (hplain requirement hrequirement)
      (hfilled requirement hrequirement chosen hchosen)
    obtain rfl := Except.ok.inj (hchosen.symm.trans hchoice)
    exact hagrees

theorem mem_replacedSlots {slots : Slots} : key ∈ slots.replacedSlots ↔ ∃ id, (key, .replaced id) ∈ slots.choices := by
  simp only [Slots.replacedSlots, List.mem_map, List.mem_filter]
  constructor
  · rintro ⟨⟨key', choice⟩, ⟨hmem, hreplaced⟩, rfl⟩
    cases choice with
    | replaced id => exact ⟨id, hmem⟩
    | _ => cases hreplaced
  · rintro ⟨id, hmem⟩
    exact ⟨_, ⟨hmem, rfl⟩, rfl⟩

theorem mem_removedSlots {slots : Slots} : key ∈ slots.removedSlots ↔ (key, .removed) ∈ slots.choices := by
  simp only [Slots.removedSlots, List.mem_map, List.mem_filter]
  constructor
  · rintro ⟨⟨key', choice⟩, ⟨hmem, hremoved⟩, rfl⟩
    cases choice with
    | removed => exact hmem
    | _ => cases hremoved
  · intro hmem
    exact ⟨_, ⟨hmem, rfl⟩, rfl⟩

theorem mem_changedSlots (h : Fits strategy current draft) (hcurrent : NormalPackages (currentPackages current))
    (hplain : Plain strategy) {slots : Slots} (hslots : chooseSlots strategy current draft.replacementPackageIds.rows = .ok slots) :
    key ∈ (resolveAppImageUpdateDraft strategy draft).changedSlots ↔ key ∈ slots.replacedSlots ∨ key ∈ slots.removedSlots := by
  obtain ⟨hfound, hagrees⟩ := choices_agree h hcurrent hplain hslots
  rw [mem_replacedSlots, mem_removedSlots]
  simp only [resolveAppImageUpdateDraft, List.mem_filter]
  constructor
  · rintro ⟨hkey, hchanged⟩
    obtain ⟨requirement, hrequirement, rfl⟩ := List.mem_map.1 hkey
    obtain ⟨⟨choice, hmem⟩, -⟩ := hfound requirement hrequirement
    rcases (hagrees _ _ hmem).2.changed.1 hchanged with ⟨id, rfl⟩ | rfl
    · exact .inl ⟨id, hmem⟩
    · exact .inr hmem
  · rintro (⟨id, hmem⟩ | hmem)
    · exact ⟨(hagrees _ _ hmem).1, (hagrees _ _ hmem).2.changed.2 (.inl ⟨id, rfl⟩)⟩
    · exact ⟨(hagrees _ _ hmem).1, (hagrees _ _ hmem).2.changed.2 (.inr rfl)⟩

theorem lookup_map {α : Type} (f : String → α) (keys : List String) :
    (keys.map fun key => (key, f key)).lookup key = if key ∈ keys then some (f key) else none := by
  induction keys with
  | nil => rfl
  | cons first rest ih =>
    by_cases hkey : key = first
    · subst hkey
      simp
    · simp [List.lookup_cons, beq_false_of_ne hkey, ih, hkey]

theorem lookup_effectivePackageIds (hkey : key ∈ strategy.packageRequirements.map (·.key)) :
    (resolveAppImageUpdateDraft strategy draft).effectivePackageIds.lookup key =
      if (draft.effectiveId key).truthy then some (draft.effectiveId key) else none := by
  simp only [resolveAppImageUpdateDraft, lookup_map, List.mem_filter, hkey, true_and]

/-- A draft without replacements changes nothing. -/
theorem rows_of_changed (hkey : key ∉ OBJECT_PROTOTYPE) (hchanged : draft.changed key = true) :
    draft.replacementPackageIds.rows ≠ [] := by
  intro hrows
  have hreplacement := @replacementId_eq draft _ hkey
  rw [hrows] at hreplacement
  simp [AppImageUpdateDraft.changed, hreplacement, Property.truthy] at hchanged

theorem computeSlots_ok (h : Fits strategy current draft) {slots : Slots} :
    computeSlots strategy current draft.request = .ok slots ↔ draft.replacementPackageIds.rows ≠ [] ∧
      chooseSlots strategy current draft.replacementPackageIds.rows = .ok slots ∧
      ¬ (slots.replacedSlots = [] ∧ slots.removedSlots = []) := by
  rw [computeSlots, normalizeReplacements_request h]
  by_cases hrows : draft.replacementPackageIds.rows = []
  · simp [hrows, bind, Except.bind]
  · rw [if_neg hrows, bind_ok]
    constructor
    · rintro ⟨replacements, heq, hrest⟩
      obtain rfl := Except.ok.inj heq
      obtain ⟨slots', hslots, hrest⟩ := bind_ok.1 hrest
      obtain ⟨hchanges, hrest⟩ := refuseIf_bind_ok.1 hrest
      obtain rfl := Except.ok.inj hrest
      exact ⟨hrows, hslots, hchanges⟩
    · rintro ⟨-, hslots, hchanges⟩
      exact ⟨_, rfl, bind_ok.2 ⟨slots, hslots, refuseIf_bind_ok.2 ⟨hchanges, rfl⟩⟩⟩

theorem Fits.agrees (h : Fits strategy current draft) (hcurrent : NormalPackages (currentPackages current))
    (hplain : Plain strategy) : Agrees strategy current draft where
  canBuild := by
    have hmissing : (resolveAppImageUpdateDraft strategy draft).missingRequiredSlots = [] ↔
        ∀ requirement ∈ strategy.packageRequirements,
          (draft.effectiveId requirement.key).truthy = true ∨ requirement.required = false := by
      simp only [resolveAppImageUpdateDraft, List.map_eq_nil_iff, List.filter_eq_nil_iff]
      refine forall₂_congr fun requirement _ => ?_
      cases (draft.effectiveId requirement.key).truthy <;> cases requirement.required <;> simp
    have hcan : (resolveAppImageUpdateDraft strategy draft).canBuild = true ↔
        (resolveAppImageUpdateDraft strategy draft).missingRequiredSlots = [] ∧
          (resolveAppImageUpdateDraft strategy draft).changedSlots ≠ [] := by
      simp [resolveAppImageUpdateDraft]
    rw [hcan, hmissing]
    constructor
    · rintro ⟨hfilled, hchanged⟩
      obtain ⟨slots, hslots⟩ := exists_chooseSlots h hcurrent hplain hfilled
      obtain ⟨key, hkey⟩ := List.exists_mem_of_ne_nil _ hchanged
      refine ⟨slots, (computeSlots_ok h).2 ⟨?_, hslots, ?_⟩⟩
      · obtain ⟨hmem, hchanges⟩ := List.mem_filter.1 hkey
        obtain ⟨requirement, hrequirement, rfl⟩ := List.mem_map.1 hmem
        exact rows_of_changed (hplain requirement hrequirement) hchanges
      · rintro ⟨hreplaced, hremoved⟩
        rcases (mem_changedSlots h hcurrent hplain hslots).1 hkey with hmem | hmem
        · rw [hreplaced] at hmem
          cases hmem
        · rw [hremoved] at hmem
          cases hmem
    · rintro ⟨slots, hcompute⟩
      obtain ⟨-, hslots, hchanges⟩ := (computeSlots_ok h).1 hcompute
      refine ⟨fun requirement hrequirement => ((choices_agree h hcurrent hplain hslots).1 requirement hrequirement).2, ?_⟩
      intro hnone
      refine hchanges ⟨List.eq_nil_iff_forall_not_mem.2 fun key hkey => ?_, List.eq_nil_iff_forall_not_mem.2 fun key hkey => ?_⟩
      · have hmem := (mem_changedSlots h hcurrent hplain hslots).2 (.inl hkey)
        rw [hnone] at hmem
        cases hmem
      · have hmem := (mem_changedSlots h hcurrent hplain hslots).2 (.inr hkey)
        rw [hnone] at hmem
        cases hmem
  selected := by
    intro slots hcompute requirement hrequirement choice hmem
    obtain ⟨-, hslots, -⟩ := (computeSlots_ok h).1 hcompute
    have hagrees := ((choices_agree h hcurrent hplain hslots).2 _ _ hmem).2
    rw [← hagrees.effective]
    exact lookup_effectivePackageIds (List.mem_map_of_mem hrequirement)
  changed := by
    intro slots hcompute key
    obtain ⟨-, hslots, -⟩ := (computeSlots_ok h).1 hcompute
    exact mem_changedSlots h hcurrent hplain hslots

/-- Whatever the edits are that the browser offers, the preview agrees with the server. -/
theorem preview_agrees (strategy : RegisteredStrategy) (current : Option AppVersion) (edits : List Edit)
    (localeNotAfter : String → String → Bool) (hcurrent : NormalPackages (currentPackages current)) (hplain : Plain strategy)
    (hedits : ∀ edit ∈ edits, edit.Offered strategy) : Agrees strategy current (draftAfter localeNotAfter current edits) :=
  (fits_draftAfter hcurrent hedits).agrees hcurrent hplain

end

/-! ## A draft of a revision with two packages -/

def twoPackages : AppVersion where
  sourceKind := none
  id := "revision"
  appId := "app"
  revision := some 1
  version := "1.0.0"
  buildId := "build"
  packages := [⟨"server", (uploaded "s0" "server").artifact, some "s0"⟩, ⟨"client", (uploaded "c0" "client").artifact, some "c0"⟩]
  imageArtifactId := none
  imageReference := none
  runtimeContract := none
  status := .active
  createdAt := "2024"
  activatedAt := none

/-- The administrator tries a package for each slot and takes one of them back. -/
def triedEdits : List Edit :=
  [.replace "server" (some " s1 "), .replace "client" (some "c1"), .reset "client"]

theorem tried_agrees : Agrees twoSlots (some twoPackages) (draftAfter (fun left right => decide (left ≤ right)) (some twoPackages) triedEdits) :=
  preview_agrees twoSlots (some twoPackages) triedEdits _ ⟨by decide, by decide +kernel⟩ (by unfold Plain; decide +kernel) (by
    intro edit hedit
    simp only [triedEdits, List.mem_cons, List.not_mem_nil, or_false] at hedit
    rcases hedit with rfl | rfl | rfl
    · exact ⟨by decide, by rintro _ ⟨⟩; exact .inr (by decide +kernel)⟩
    · exact ⟨by decide, by rintro _ ⟨⟩; exact .inr (by decide +kernel)⟩
    · trivial)

/-- The browser takes any text for the id of a package. -/
def malformedEdits : List Edit :=
  [.replace "server" (some "no id"), .replace "client" (some "c1")]

theorem malformed_disagrees : ¬ Agrees twoSlots none (draftAfter (fun left right => decide (left ≤ right)) none malformedEdits) := by
  intro h
  have hcan : (resolveAppImageUpdateDraft twoSlots
      (draftAfter (fun left right => decide (left ≤ right)) none malformedEdits)).canBuild = true := by decide +kernel
  obtain ⟨slots, hslots⟩ := h.canBuild.1 hcan
  have hrefused : (computeSlots twoSlots none
      (draftAfter (fun left right => decide (left ≤ right)) none malformedEdits).request).isOk = false := by decide +kernel
  rw [hslots] at hrefused
  cases hrefused

end OpenApp.Catalog
