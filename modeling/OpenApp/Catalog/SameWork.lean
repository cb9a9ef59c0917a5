import Mathlib.Data.List.Perm.Subperm
import Mathlib.Data.String.Basic
import OpenApp.Catalog.Slots
import OpenApp.Catalog.Uploads

/-!
# Requests of one fingerprint

The digest tells the lists of texts apart. What a list leaves out is not told apart: the slots that uploaded files are
for, and whether a text stands for itself or was made of another value.
-/

namespace OpenApp.Catalog

open Fallible Framed Keyed Script

variable {p : Platform} {history : Table BuildPackage.id}

/-! ## Lists of pairs -/

section Lists

variable {α β γ : Type}

/-- Pairs that are written one after the other are read back. -/
theorem flatMap_pair_inj {f g : α → γ} {f' g' : β → γ} {l : List α} {l' : List β}
    (h : (l.flatMap fun a => [f a, g a]) = l'.flatMap fun b => [f' b, g' b]) :
    (l.map fun a => (f a, g a)) = l'.map fun b => (f' b, g' b) := by
  induction l generalizing l' with
  | nil =>
    cases l' with
    | nil => rfl
    | cons b l' => cases h
  | cons a l ih =>
    cases l' with
    | nil => cases h
    | cons b l' =>
      simp only [List.flatMap_cons, List.cons_append, List.nil_append, List.cons.injEq] at h
      obtain ⟨hf, hg, hrest⟩ := h
      rw [List.map_cons, List.map_cons, hf, hg, ih hrest]

theorem length_flatMap_pair (f g : α → γ) (l : List α) : (l.flatMap fun a => [f a, g a]).length = 2 * l.length := by
  induction l with
  | nil => rfl
  | cons a l ih =>
    rw [List.flatMap_cons, List.length_append, ih]
    simp only [List.length_cons, List.length_nil]
    omega

/-- Under a key that stands once, the value beside it is found. -/
theorem lookup_eq_some_iff {l : List (String × β)} (h : (l.map Prod.fst).Nodup) {key : String} {b : β} :
    l.lookup key = some b ↔ (key, b) ∈ l := by
  induction l with
  | nil => simp
  | cons entry rest ih =>
    obtain ⟨key', b'⟩ := entry
    obtain ⟨hnew, hrest⟩ := List.nodup_cons.1 h
    rw [List.lookup_cons, List.mem_cons]
    by_cases hkey : key = key'
    · subst hkey
      simp only [beq_self_eq_true, Option.some.injEq, Prod.mk.injEq, true_and]
      constructor
      · exact fun hb => .inl hb.symm
      · rintro (hb | hmem)
        · exact hb.symm
        · exact absurd (List.mem_map.2 ⟨_, hmem, rfl⟩) hnew
    · simp [hkey, ih hrest, beq_eq_false_iff_ne.2 hkey]

end Lists

/-! ## Packages that are selected -/

namespace Platform.Selected

variable {selected selected' : p.Selected history}

theorem history_get {pkg : BuildPackage} (h : pkg ∈ selected.selection.packages) : history.get pkg.id = some pkg :=
  selected.stored pkg.id pkg ((resolveSelection_trimmed selected.resolved).2.2.2 pkg h).2

/-- Under its id a package is the one that was stored. -/
theorem packages_eq (h : selected.names = selected'.names) : selected.selection.packages = selected'.selection.packages := by
  have hpairs := flatMap_pair_inj h
  have hids : selected.selection.packages.map BuildPackage.id = selected'.selection.packages.map BuildPackage.id := by
    have hfirst := congrArg (List.map Prod.fst) hpairs
    rwa [List.map_map, List.map_map] at hfirst
  have hread : ∀ selected : p.Selected history,
      selected.selection.packages.map some = (selected.selection.packages.map BuildPackage.id).map history.get := by
    intro selected
    rw [List.map_map]
    exact List.map_congr_left fun pkg hpkg => (history_get hpkg).symm
  have hsome : selected.selection.packages.map some = selected'.selection.packages.map some := by
    rw [hread, hread, hids]
  exact List.map_injective_iff.2 (Option.some_injective _) hsome

theorem slots_eq (h : selected.names = selected'.names) : selected.slots = selected'.slots := by
  have hpackages := packages_eq h
  funext slot
  rw [slots, slots, ← hpackages]
  refine Option.map_congr fun pkg hpkg => p.injective ?_
  have hmem := List.mem_of_find?_eq_some hpkg
  rw [selected.checksum pkg hmem, selected'.checksum pkg (hpackages ▸ hmem)]

theorem isSome_slots (slot : String) : (selected.slots slot).isSome = true ↔ slot ∈ selected.selection.packages.map BuildPackage.key := by
  simp [slots]

/-- A selection and an upload that are written alike fill as many slots only when they fill none. -/
theorem slots_eq_upload_iff {active : Bool} {packageRequirements : List PackageRequirement} {upload : p.Upload active packageRequirements}
    (h : selected.names = upload.packageHashes) : selected.slots = upload.slots ↔ upload.packages = [] := by
  have hlength : 2 * selected.selection.packages.length = upload.packages.length := by
    have hlengths := congrArg List.length h
    rwa [names, length_flatMap_pair, Upload.packageHashes, List.length_map] at hlengths
  constructor
  · intro hslots
    have hperm : (selected.selection.packages.map BuildPackage.key).Perm (upload.packages.map UploadedFile.field) := by
      refine (List.perm_ext_iff_of_nodup (resolveSelection_trimmed selected.resolved).1 (received_ok upload.received).1.nodup).2 fun slot => ?_
      rw [← isSome_slots, hslots]
      exact upload.isSome_slots slot
    have heq := hperm.length_eq
    rw [List.length_map, List.length_map] at heq
    exact List.eq_nil_of_length_eq_zero (by omega)
  · intro hnil
    rw [hnil, List.length_nil] at hlength
    have hselected : selected.selection.packages = [] := List.eq_nil_of_length_eq_zero (by omega)
    funext slot
    rw [slots, Upload.slots, hnil, hselected]
    rfl

end Platform.Selected

/-! ## Replacements -/

/-- An entry as the update takes it. -/
def normalEntry (entry : String × ReplacementId) : String × Option String :=
  (toLowerCase (trim entry.1), entry.2.normal)

/-- Entries that are taken one after the other: their slots and ids are identifiers, and no slot is named twice. -/
theorem addReplacements_iff {entries : List (String × ReplacementId)} {before replacements : Replacements}
    (hbefore : (before.map Prod.fst).Nodup) : addReplacements before entries = .ok replacements ↔
      (∀ entry ∈ entries.map normalEntry, PACKAGE_KEY_PATTERN entry.1 = true ∧ entry.2.any (fun id => !PACKAGE_ID_PATTERN id) = false) ∧
        ((before ++ entries.map normalEntry).map Prod.fst).Nodup ∧ replacements = before ++ entries.map normalEntry := by
  induction entries generalizing before with
  | nil =>
    simp only [addReplacements, List.map_nil, List.append_nil, List.not_mem_nil, false_imp_iff, implies_true, true_and,
      Except.ok.injEq]
    exact ⟨fun h => ⟨hbefore, h.symm⟩, fun h => h.2.symm⟩
  | cons entry rest ih =>
    obtain ⟨rawKey, rawId⟩ := entry
    have hlookup : (before.lookup (toLowerCase (trim rawKey))).isSome = true ↔ toLowerCase (trim rawKey) ∈ before.map Prod.fst := by
      rw [Option.isSome_iff_exists, List.mem_map]
      constructor
      · rintro ⟨id, hid⟩
        exact ⟨_, (lookup_eq_some_iff hbefore).1 hid, rfl⟩
      · rintro ⟨⟨_, id⟩, hmem, rfl⟩
        exact ⟨id, (lookup_eq_some_iff hbefore).2 hmem⟩
    unfold addReplacements
    dsimp only
    split
    · rename_i hrefused
      constructor
      · exact nofun
      · rintro ⟨hentries, hnodup, -⟩
        obtain ⟨hkey, hid⟩ := hentries (normalEntry (rawKey, rawId)) (by simp)
        rcases hrefused with hkey' | hid' | hnamed
        · exact absurd (hkey.symm.trans hkey') (by decide)
        · exact absurd (hid.symm.trans hid') (by decide)
        · rw [List.map_append, List.nodup_append] at hnodup
          exact absurd rfl (hnodup.2.2 _ (hlookup.1 hnamed) _ (by simp [normalEntry]))
    · rename_i htaken
      obtain ⟨hkey, htaken⟩ := not_or.1 htaken
      obtain ⟨hid, hnew⟩ := not_or.1 htaken
      rw [hlookup] at hnew
      have hnodup : ((before ++ [(toLowerCase (trim rawKey), rawId.normal)]).map Prod.fst).Nodup := by
        rw [List.map_append, List.nodup_append]
        refine ⟨hbefore, List.nodup_singleton _, ?_⟩
        rintro a ha b hb rfl
        rw [List.map_singleton, List.mem_singleton] at hb
        obtain rfl : a = toLowerCase (trim rawKey) := hb
        exact hnew ha
      rw [ih hnodup, List.append_assoc, List.map_cons, List.forall_mem_cons]
      have hfirst : PACKAGE_KEY_PATTERN (normalEntry (rawKey, rawId)).1 = true ∧
          (normalEntry (rawKey, rawId)).2.any (fun id => !PACKAGE_ID_PATTERN id) = false :=
        ⟨by simpa [normalEntry] using hkey, by simpa [normalEntry] using hid⟩
      simp only [hfirst, true_and, List.singleton_append]
      rfl

theorem normalizeReplacements_iff {entries : List (String × ReplacementId)} {replacements : Replacements} :
    normalizeReplacements (.object entries) = .ok replacements ↔
      (∀ entry ∈ entries.map normalEntry, PACKAGE_KEY_PATTERN entry.1 = true ∧ entry.2.any (fun id => !PACKAGE_ID_PATTERN id) = false) ∧
        ((entries.map normalEntry).map Prod.fst).Nodup ∧ replacements = entries.map normalEntry ∧ replacements ≠ [] := by
  have hadd := fun replacements => @addReplacements_iff entries [] replacements List.nodup_nil
  unfold normalizeReplacements
  rw [bind_ok]
  simp only [hadd, List.nil_append, refuseIf_bind_ok]
  constructor
  · rintro ⟨_, ⟨hentries, hnodup, rfl⟩, hne, h⟩
    obtain rfl := Except.ok.inj h
    exact ⟨hentries, hnodup, rfl, hne⟩
  · rintro ⟨hentries, hnodup, rfl, hne⟩
    exact ⟨_, ⟨hentries, hnodup, rfl⟩, hne, rfl⟩

namespace UnknownReplacements

/-- What the update makes of an object, by its entries alone. -/
theorem asked_object {entries : List (String × UnknownEntry)} {nodup : (entries.map Prod.fst).Nodup}
    {slots : String → Option (Option String)} : (object entries nodup).asked = some slots ↔
      ∃ replacements, normalizeReplacements (.object (entries.map fun entry => (entry.1, entry.2.toReplacementId))) = .ok replacements ∧
        slots = fun slot => replacements.lookup slot := by
  unfold asked toReplacementPackageIds
  cases normalizeReplacements (.object (entries.map fun entry => (entry.1, entry.2.toReplacementId))) with
  | error e => simp [Except.toOption]
  | ok replacements => simp [Except.toOption, eq_comm]

/-- The entries of an object, as the update takes them. -/
def taken (entries : List (String × UnknownEntry)) : Replacements :=
  (entries.map fun entry => (entry.1, entry.2.toReplacementId)).map normalEntry

/-- Entries in another order are taken alike. -/
theorem asked_perm {entries entries' : List (String × UnknownEntry)} {nodup : (entries.map Prod.fst).Nodup}
    {nodup' : (entries'.map Prod.fst).Nodup} (hperm : (taken entries).Perm (taken entries')) :
    (object entries nodup).asked = (object entries' nodup').asked := by
  have hle : ∀ {entries entries' : List (String × UnknownEntry)} {nodup nodup'}, (taken entries).Perm (taken entries') →
      ∀ slots, (object entries nodup).asked = some slots → (object entries' nodup').asked = some slots := by
    intro entries entries' nodup nodup' hperm slots hslots
    obtain ⟨replacements, hok, rfl⟩ := asked_object.1 hslots
    obtain ⟨hentries, hnodup, rfl, hne⟩ := normalizeReplacements_iff.1 hok
    have hnodup' : ((taken entries').map Prod.fst).Nodup := (hperm.map _).nodup_iff.1 hnodup
    refine asked_object.2 ⟨taken entries', normalizeReplacements_iff.2 ⟨fun entry hentry => hentries entry (hperm.mem_iff.2 hentry),
      hnodup', rfl, fun hnil => hne ?_⟩, ?_⟩
    · exact (List.Perm.nil_eq (hnil ▸ hperm.symm)).symm
    · funext slot
      ext id
      exact (lookup_eq_some_iff hnodup).trans (hperm.mem_iff.trans (lookup_eq_some_iff hnodup').symm)
  ext slots
  exact ⟨hle hperm slots, hle hperm.symm slots⟩

/-- Two objects that name the same keys with the same texts have, under each of them, values that are taken alike. -/
def SameEntries : UnknownReplacements → UnknownReplacements → Prop
  | object entries _, object entries' _ => ∀ key value value', (key, value) ∈ entries → (key, value') ∈ entries' →
    value.toReplacementId.normal = value'.toReplacementId.normal
  | _, _ => False

/-- The entries with their texts, in the order of the fingerprint. -/
theorem texts_perm {entries entries' : List (String × UnknownEntry)} {nodup : (entries.map Prod.fst).Nodup}
    {nodup' : (entries'.map Prod.fst).Nodup} (h : p.stableStringRecord (object entries nodup) = p.stableStringRecord (object entries' nodup')) :
    (entries.map fun entry => (entry.1, entry.2.toText)).Perm (entries'.map fun entry => (entry.1, entry.2.toText)) := by
  have hsorted := flatMap_pair_inj h
  have hperm := fun entries : List (String × UnknownEntry) =>
    (List.perm_insertionSort (fun left right => p.localeCompare left.1 right.1 = true) entries).map fun entry => (entry.1, entry.2.toText)
  exact (hperm entries).symm.trans (hsorted ▸ hperm entries')

/-- Where the values under each key are taken alike, so are the objects. -/
theorem taken_perm {entries entries' : List (String × UnknownEntry)} {nodup : (entries.map Prod.fst).Nodup}
    {nodup' : (entries'.map Prod.fst).Nodup} (hsame : SameEntries (object entries nodup) (object entries' nodup'))
    (htexts : (entries.map fun entry => (entry.1, entry.2.toText)).Perm (entries'.map fun entry => (entry.1, entry.2.toText))) :
    (taken entries).Perm (taken entries') := by
  have hkeys : ∀ key, (∃ value, (key, value) ∈ entries) ↔ ∃ value, (key, value) ∈ entries' := by
    intro key
    have hmem := (htexts.map Prod.fst).mem_iff (a := key)
    simpa using hmem
  have hnodup : ∀ {entries : List (String × UnknownEntry)}, (entries.map Prod.fst).Nodup →
      (entries.map fun entry => (entry.1, entry.2.toReplacementId.normal)).Nodup := by
    intro entries nodup
    refine List.Nodup.of_map Prod.fst ?_
    rwa [List.map_map]
  have hperm : (entries.map fun entry => (entry.1, entry.2.toReplacementId.normal)).Perm
      (entries'.map fun entry => (entry.1, entry.2.toReplacementId.normal)) := by
    refine (List.perm_ext_iff_of_nodup (hnodup nodup) (hnodup nodup')).2 ?_
    rintro ⟨key, id⟩
    simp only [List.mem_map, Prod.mk.injEq]
    constructor
    · rintro ⟨⟨_, value⟩, hvalue, rfl, rfl⟩
      obtain ⟨value', hvalue'⟩ := (hkeys _).1 ⟨value, hvalue⟩
      exact ⟨(_, value'), hvalue', rfl, (hsame _ value value' hvalue hvalue').symm⟩
    · rintro ⟨⟨_, value'⟩, hvalue', rfl, rfl⟩
      obtain ⟨value, hvalue⟩ := (hkeys _).2 ⟨value', hvalue'⟩
      exact ⟨(_, value), hvalue, rfl, hsame _ value value' hvalue hvalue'⟩
  have htaken : ∀ entries : List (String × UnknownEntry), taken entries =
      (entries.map fun entry => (entry.1, entry.2.toReplacementId.normal)).map fun entry => (toLowerCase (trim entry.1), entry.2) := by
    intro entries
    rw [taken, List.map_map, List.map_map]
    rfl
  rw [htaken, htaken]
  exact hperm.map _

/-- Two objects of one text ask for the same just when their entries are taken alike, or neither is taken. -/
theorem asked_eq_iff {replacements replacements' : UnknownReplacements}
    (h : p.stableStringRecord replacements = p.stableStringRecord replacements') : replacements.asked = replacements'.asked ↔
      (replacements.asked = none ∧ replacements'.asked = none) ∨ SameEntries replacements replacements' := by
  cases replacements with
  | notObject text =>
    cases replacements' with
    | notObject text' => exact ⟨fun _ => .inl ⟨rfl, rfl⟩, fun _ => rfl⟩
    | object entries' nodup' =>
      have hlength := congrArg List.length h
      rw [Platform.stableStringRecord, Platform.stableStringRecord, length_flatMap_pair, List.length_singleton] at hlength
      omega
  | object entries nodup =>
    cases replacements' with
    | notObject text' =>
      have hlength := congrArg List.length h
      rw [Platform.stableStringRecord, Platform.stableStringRecord, length_flatMap_pair, List.length_singleton] at hlength
      omega
    | object entries' nodup' =>
      have htexts := texts_perm h
      constructor
      · intro hasked
        cases hslots : (object entries nodup).asked with
        | none => exact .inl ⟨rfl, hasked ▸ hslots⟩
        | some slots =>
          right
          intro key value value' hvalue hvalue'
          obtain ⟨_, hok, hslots₁⟩ := asked_object.1 hslots
          obtain ⟨_, hok', hslots₂⟩ := asked_object.1 (hasked ▸ hslots)
          obtain ⟨-, hnodup, rfl, -⟩ := normalizeReplacements_iff.1 hok
          obtain ⟨-, hnodup', rfl, -⟩ := normalizeReplacements_iff.1 hok'
          -- both find their value under the slot of the key
          have hfirst := (lookup_eq_some_iff hnodup).2 (List.mem_map.2 ⟨_, List.mem_map.2 ⟨_, hvalue, rfl⟩, rfl⟩)
          have hsecond := (lookup_eq_some_iff hnodup').2 (List.mem_map.2 ⟨_, List.mem_map.2 ⟨_, hvalue', rfl⟩, rfl⟩)
          have hslot := congrFun (hslots₁.symm.trans hslots₂) (toLowerCase (trim key))
          exact Option.some.inj (hfirst.symm.trans (hslot.trans hsecond))
      · rintro (⟨hnone, hnone'⟩ | hsame)
        · rw [hnone, hnone']
        · exact asked_perm (taken_perm hsame htexts)

end UnknownReplacements

/-! ## Requests -/

namespace Request

/-- The two are of one operation, and about one resource. -/
def SameOperation (r r' : Request p history) : Prop :=
  r.operationType = r'.operationType ∧ r.resourceId = r'.resourceId

/-- What the fingerprint leaves out does not tell the two apart: uploads of the same contents fill the same slots, a
selection that is written like an upload selects nothing, and replacements of the same texts are of the same values. -/
def Told : Request p history → Request p history → Prop
  | imageBuildUpload strategy upload, imageBuildUpload strategy' upload' =>
    strategy.revision = strategy'.revision → upload.contents = upload'.contents → ∀ slot, upload.Fills slot ↔ upload'.Fills slot
  | versionUpload _ _ upload, versionUpload _ _ upload' =>
    upload.contents = upload'.contents → ∀ slot, upload.Fills slot ↔ upload'.Fills slot
  | imageBuildSelection selected, imageBuildUpload strategy upload | imageBuildUpload strategy upload, imageBuildSelection selected =>
    selected.strategy.revision = strategy.revision → selected.names = upload.packageHashes → upload.packages = []
  | imageUpdate _ strategyId expectedRevision replacements, imageUpdate _ strategyId' expectedRevision' replacements' =>
    strategyId = strategyId' → p.text expectedRevision = p.text expectedRevision' →
      p.stableStringRecord replacements = p.stableStringRecord replacements' →
        (replacements.asked = none ∧ replacements'.asked = none) ∨ UnknownReplacements.SameEntries replacements replacements'
  | _, _ => True

theorem requestFingerprint_eq_iff {r r' : Request p history} : r.requestFingerprint = r'.requestFingerprint ↔ r.parts = r'.parts := by
  constructor
  · intro h
    have hframed : framed r.parts = framed r'.parts := by
      have hbytes := p.injective h
      rw [String.toUTF8_eq_toByteArray, String.toUTF8_eq_toByteArray] at hbytes
      exact String.toByteArray_inj.1 hbytes
    exact framed_injective hframed
  · intro h
    rw [requestFingerprint, requestFingerprint, h]

theorem expected_eq {m n : p.Num} (h : p.text m = p.text n) : expected m = expected n := by
  rw [expected, expected, p.safeInteger_text m n h]

/-- A version that is uploaded has digests where one that is selected has its revision. -/
theorem version_parts_ne {appId appId' : String} {selected : p.Selected history} {packageRequirements : List PackageRequirement}
    {upload : p.Upload true packageRequirements} :
    (versionSelection appId selected).parts ≠ (versionUpload appId' packageRequirements upload : Request p history).parts := by
  intro h
  have hmem : toString selected.strategy.revision ∈ upload.packageHashes := by
    rw [show upload.packageHashes = (versionUpload appId' packageRequirements upload : Request p history).parts from rfl, ← h]
    simp [parts]
  obtain ⟨file, -, hdigest⟩ := List.mem_map.1 hmem
  exact p.digest_ne file.content _ selected.safe hdigest

theorem build_parts_iff {first first' second second' : String} {rest rest' : List String} (h : first = first') :
    first :: second :: rest = first' :: second' :: rest' ↔ second = second' ∧ rest = rest' := by
  rw [List.cons.injEq, List.cons.injEq]
  exact and_iff_right h

theorem revision_eq_iff {m n : Nat} : toString m = toString n ↔ m = n :=
  ⟨toString_inj, congrArg _⟩

theorem selection_work_eq {selected selected' : p.Selected history} (hid : selected.strategy.id = selected'.strategy.id)
    (hrevision : selected.strategy.revision = selected'.strategy.revision) (hnames : selected.names = selected'.names) :
    (imageBuildSelection selected).work = (imageBuildSelection selected').work := by
  rw [work, work, hid, hrevision, Platform.Selected.slots_eq hnames]

section Pairs

variable {selected selected' : p.Selected history} {strategy strategy' : RegisteredStrategy}
  {upload : p.Upload strategy.active strategy.packageRequirements} {upload' : p.Upload strategy'.active strategy'.packageRequirements}

theorem selection_upload_iff (hid : selected.strategy.id = strategy.id) :
    ((imageBuildSelection selected).parts = (imageBuildUpload strategy upload : Request p history).parts →
      (imageBuildSelection selected).work = (imageBuildUpload strategy upload : Request p history).work) ↔
      (selected.strategy.revision = strategy.revision → selected.names = upload.packageHashes → upload.packages = []) := by
  rw [parts, parts, build_parts_iff hid, revision_eq_iff, and_imp]
  refine imp_congr_right fun hrevision => imp_congr_right fun hnames => ?_
  rw [work, work, hid, hrevision, Work.packages.injEq, Platform.Selected.slots_eq_upload_iff hnames]
  exact and_iff_right rfl

theorem uploads_iff (hid : strategy.id = strategy'.id) :
    ((imageBuildUpload strategy upload : Request p history).parts = (imageBuildUpload strategy' upload' : Request p history).parts →
      (imageBuildUpload strategy upload : Request p history).work = (imageBuildUpload strategy' upload' : Request p history).work) ↔
      (strategy.revision = strategy'.revision → upload.contents = upload'.contents → ∀ slot, upload.Fills slot ↔ upload'.Fills slot) := by
  have hhashes : upload.packageHashes = upload'.packageHashes ↔ upload.contents = upload'.contents :=
    ⟨Platform.Upload.contents_eq, Platform.Upload.packageHashes_eq⟩
  rw [parts, parts, build_parts_iff hid, revision_eq_iff, and_imp, hhashes]
  refine imp_congr_right fun hrevision => imp_congr_right fun hcontents => ?_
  rw [work, work, hid, hrevision, Work.packages.injEq, Platform.Upload.slots_eq_iff hcontents]
  exact and_iff_right rfl

theorem versionUploads_iff {appId appId' : String} {requirements requirements' : List PackageRequirement}
    {upload : p.Upload true requirements} {upload' : p.Upload true requirements'} :
    ((versionUpload appId requirements upload : Request p history).parts = (versionUpload appId' requirements' upload' : Request p history).parts →
      (versionUpload appId requirements upload : Request p history).work = (versionUpload appId' requirements' upload' : Request p history).work) ↔
      (upload.contents = upload'.contents → ∀ slot, upload.Fills slot ↔ upload'.Fills slot) := by
  have hhashes : upload.packageHashes = upload'.packageHashes ↔ upload.contents = upload'.contents :=
    ⟨Platform.Upload.contents_eq, Platform.Upload.packageHashes_eq⟩
  rw [parts, parts, hhashes]
  refine imp_congr_right fun hcontents => ?_
  rw [work, work, Work.packages.injEq, Platform.Upload.slots_eq_iff hcontents]
  exact and_iff_right rfl

theorem updates_iff {appId appId' strategyId strategyId' : String} {expectedRevision expectedRevision' : p.Num}
    {replacements replacements' : UnknownReplacements} (hid : appId = appId') :
    ((imageUpdate appId strategyId expectedRevision replacements : Request p history).parts =
        (imageUpdate appId' strategyId' expectedRevision' replacements' : Request p history).parts →
      (imageUpdate appId strategyId expectedRevision replacements : Request p history).work =
        (imageUpdate appId' strategyId' expectedRevision' replacements' : Request p history).work) ↔
      (strategyId = strategyId' → p.text expectedRevision = p.text expectedRevision' →
        p.stableStringRecord replacements = p.stableStringRecord replacements' →
          (replacements.asked = none ∧ replacements'.asked = none) ∨ UnknownReplacements.SameEntries replacements replacements') := by
  rw [parts, parts, build_parts_iff hid, List.cons.injEq, and_imp, and_imp]
  refine imp_congr_right fun hstrategy => imp_congr_right fun hrevision => imp_congr_right fun hrecord => ?_
  rw [work, work, hstrategy, expected_eq hrevision, Work.update.injEq, ← UnknownReplacements.asked_eq_iff hrecord]
  exact ⟨fun h => h.2.2, fun h => ⟨rfl, rfl, h⟩⟩

end Pairs

/-- Requests of one fingerprint ask for the same work just when they are told apart by what it leaves out. -/
theorem sameWork_iff (r r' : Request p history) (hsame : SameOperation r r') :
    (r.requestFingerprint = r'.requestFingerprint → r.work = r'.work) ↔ Told r r' := by
  rw [requestFingerprint_eq_iff]
  obtain ⟨htype, hresource⟩ := hsame
  cases r with
  | imageBuildSelection selected =>
    cases r' with
    | imageBuildSelection selected' =>
      refine iff_of_true (fun hparts => ?_) trivial
      obtain ⟨hrevision, hnames⟩ := (build_parts_iff hresource).1 hparts
      exact selection_work_eq hresource (revision_eq_iff.1 hrevision) hnames
    | imageBuildUpload strategy' upload' => exact selection_upload_iff hresource
    | imageUpdate => exact absurd htype (by simp [operationType])
    | versionSelection => exact absurd htype (by simp [operationType])
    | versionUpload => exact absurd htype (by simp [operationType])
  | imageBuildUpload strategy upload =>
    cases r' with
    | imageBuildSelection selected' =>
      have hmixed := @selection_upload_iff p history selected' strategy upload hresource.symm
      refine Iff.trans ⟨fun h hparts => (h hparts.symm).symm, fun h hparts => (h hparts.symm).symm⟩ hmixed
    | imageBuildUpload strategy' upload' => exact uploads_iff hresource
    | imageUpdate => exact absurd htype (by simp [operationType])
    | versionSelection => exact absurd htype (by simp [operationType])
    | versionUpload => exact absurd htype (by simp [operationType])
  | imageUpdate appId strategyId expectedRevision replacements =>
    cases r' with
    | imageUpdate appId' strategyId' expectedRevision' replacements' => exact updates_iff hresource
    | imageBuildSelection => exact absurd htype (by simp [operationType])
    | imageBuildUpload => exact absurd htype (by simp [operationType])
    | versionSelection => exact absurd htype (by simp [operationType])
    | versionUpload => exact absurd htype (by simp [operationType])
  | versionSelection appId selected =>
    cases r' with
    | versionSelection appId' selected' =>
      refine iff_of_true (fun hparts => ?_) trivial
      obtain ⟨hid, hrest⟩ := (build_parts_iff hresource).1 hparts
      obtain ⟨hrevision, hnames⟩ := List.cons.inj hrest
      exact selection_work_eq hid (revision_eq_iff.1 hrevision) hnames
    | versionUpload appId' requirements' upload' => exact iff_of_true (fun hparts => absurd hparts version_parts_ne) trivial
    | imageBuildSelection => exact absurd htype (by simp [operationType])
    | imageBuildUpload => exact absurd htype (by simp [operationType])
    | imageUpdate => exact absurd htype (by simp [operationType])
  | versionUpload appId requirements upload =>
    cases r' with
    | versionSelection appId' selected' => exact iff_of_true (fun hparts => absurd hparts.symm version_parts_ne) trivial
    | versionUpload appId' requirements' upload' => exact versionUploads_iff
    | imageBuildSelection => exact absurd htype (by simp [operationType])
    | imageBuildUpload => exact absurd htype (by simp [operationType])
    | imageUpdate => exact absurd htype (by simp [operationType])

/-- Of uploads that fill all that is required and as many slots, neither fills one that the other leaves when no two
slots may be left. -/
theorem fills_of_fills {packageRequirements : List PackageRequirement} {active : Bool} {upload upload' : p.Upload active packageRequirements}
    (hoptional : ∀ a ∈ packageRequirements, ∀ b ∈ packageRequirements, a.required = false → b.required = false → a.key = b.key)
    (hcontents : upload.contents = upload'.contents) {slot : String} (hslot : upload.Fills slot) : upload'.Fills slot := by
  by_contra hslot'
  obtain ⟨hdeclared, -⟩ := received_fields upload.received
  obtain ⟨hdeclared', hrequired'⟩ := received_fields upload'.received
  have hrequired := (received_fields upload.received).2
  obtain ⟨requirement, hrequirement, hkey⟩ := List.mem_map.1 (hdeclared slot hslot)
  have hleft : requirement.required = false := by
    by_contra h
    exact hslot' (hkey ▸ hrequired' requirement hrequirement (by simpa using h))
  -- what the other fills is filled here too, and this slot besides
  have hsubset : upload'.packages.map UploadedFile.field ⊆ (upload.packages.map UploadedFile.field).erase slot := by
    intro other hother
    obtain ⟨requirement', hrequirement', rfl⟩ := List.mem_map.1 (hdeclared' other hother)
    have hne : requirement'.key ≠ slot := fun heq => hslot' (heq ▸ hother)
    have hmem : requirement'.key ∈ upload.packages.map UploadedFile.field := by
      cases h : requirement'.required with
      | true => exact hrequired requirement' hrequirement' h
      | false => exact absurd ((hoptional requirement' hrequirement' requirement hrequirement h hleft).trans hkey) hne
    exact (List.mem_erase_of_ne hne).2 hmem
  have hle := (List.subperm_of_subset (received_ok upload'.received).1.nodup hsubset).length_le
  have hlength := congrArg List.length hcontents
  rw [List.length_erase_of_mem hslot] at hle
  simp only [Platform.Upload.contents, List.length_map] at hlength hle
  have hpos : 0 < upload.packages.length := List.length_pos_of_mem (List.mem_map.1 hslot).choose_spec.1
  omega

/-- Uploads for a strategy that has one optional slot at most are told apart. -/
theorem told_of_oneOptional {strategy : RegisteredStrategy} {upload upload' : p.Upload strategy.active strategy.packageRequirements}
    (hoptional : ∀ a ∈ strategy.packageRequirements, ∀ b ∈ strategy.packageRequirements, a.required = false → b.required = false →
      a.key = b.key) : Told (imageBuildUpload strategy upload : Request p history) (imageBuildUpload strategy upload') :=
  fun _ hcontents _ => ⟨fills_of_fills hoptional hcontents, fills_of_fills hoptional hcontents.symm⟩

/-! ### Two optional slots -/

section Sample

theorem toNat_ofNat_byte : ∀ n < 256, (Char.ofNat n).toNat = n := by
  decide +kernel

/-- Digests that are as long as what they are of. -/
def samplePlatform : Platform where
  sha256 bytes := String.ofList ('#' :: bytes.data.toList.map fun byte => Char.ofNat byte.toNat)
  injective := by
    intro left right h
    have hlist : left.data.toList.map (fun byte => Char.ofNat byte.toNat) = right.data.toList.map fun byte => Char.ofNat byte.toNat := by
      simpa using congrArg String.toList h
    have hbyte : Function.Injective fun byte : UInt8 => Char.ofNat byte.toNat := by
      intro a b hab
      have hnat := congrArg Char.toNat hab
      simp only [toNat_ofNat_byte _ a.toNat_lt, toNat_ofNat_byte _ b.toNat_lt] at hnat
      exact UInt8.toNat_inj.1 hnat
    exact ByteArray.ext (Array.toList_inj.1 (List.map_injective_iff.2 hbyte hlist))
  digest_ne bytes n _ h := by
    have hmem : '#' ∈ (toString n).toList := by
      rw [← h]
      simp
    have hdigit := @Nat.isDigit_of_mem_toDigits 10 n '#' (by decide) (by decide) (by simpa using hmem)
    exact absurd hdigit (by decide)
  localeCompare left right := left ≤ right
  total left right := by simpa using le_total left right
  trans left middle right := by simpa using le_trans
  antisymm left right _ _ := by simpa using le_antisymm
  Num := Nat
  text := toString
  safeInteger n := if n ≤ Number.maxSafeInteger then some n else none
  safeInteger_text m n h := by rw [toString_inj h]

def sampleStrategy : RegisteredStrategy where
  id := "sample"
  revision := 1
  active := true
  packageRequirements := [⟨⟨"base", false⟩, [".zip"], none⟩, ⟨⟨"theme", false⟩, [".zip"], none⟩]
  nodup := by decide
  keys := by decide

def sampleFile (slot : String) (byte : UInt8) : UploadedFile :=
  ⟨slot, "a.zip", ⟨#[byte]⟩⟩

theorem ok_of_toOption {α : Type} {x : Updated α} {a : α} (h : x.toOption = some a) : x = .ok a := by
  cases x with
  | error e => cases h
  | ok b => exact congrArg _ (Option.some.inj h)

/-- One file, for one of the two slots. -/
def sampleUpload (byte : UInt8) (slot : String)
    (h : (samplePlatform.receiveBuildPackageUpload true sampleStrategy.packageRequirements none [sampleFile slot byte]).toOption =
      some [sampleFile slot byte]) : Request samplePlatform Table.empty :=
  .imageBuildUpload sampleStrategy ⟨none, [sampleFile slot byte], [sampleFile slot byte], ok_of_toOption h⟩

def baseUpload : Request samplePlatform Table.empty :=
  sampleUpload 1 "base" (by decide +kernel)

def otherUpload : Request samplePlatform Table.empty :=
  sampleUpload 2 "base" (by decide +kernel)

def themeUpload : Request samplePlatform Table.empty :=
  sampleUpload 1 "theme" (by decide +kernel)

theorem same_slot_told : SameOperation baseUpload otherUpload ∧
    (baseUpload.requestFingerprint = otherUpload.requestFingerprint → baseUpload.work = otherUpload.work) := by
  have hsame : SameOperation baseUpload otherUpload := ⟨rfl, rfl⟩
  exact ⟨hsame, (sameWork_iff baseUpload otherUpload hsame).2 fun _ _ _ => Iff.rfl⟩

/-- The same file is built into another slot under the same fingerprint. -/
theorem other_slot_untold : SameOperation baseUpload themeUpload ∧ baseUpload.requestFingerprint = themeUpload.requestFingerprint ∧
    baseUpload.work ≠ themeUpload.work := by
  refine ⟨⟨rfl, rfl⟩, rfl, fun h => ?_⟩
  have hslots := (Work.packages.inj h).2
  exact absurd (congrFun hslots "base") (by decide)

end Sample

end Request

end OpenApp.Catalog
