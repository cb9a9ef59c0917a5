import OpenApp.Catalog.Fingerprints

/-!
# Files that are uploaded

A file is taken for a slot that is declared, each in a slot of its own, and no slot that is required is left. The files
are sorted by their slots, so uploads that fill the same slots have them in one order.
-/

namespace OpenApp.Catalog

open Fallible Script

variable {p : Platform}

theorem validateRequirement_word {seen : List String} {requirement declared : PackageRequirement}
    (h : validateRequirement seen requirement = .ok declared) : isWord 63 declared.key = true := by
  obtain ⟨hkey, h⟩ := refuseIf_bind_ok.1 h
  obtain ⟨-, h⟩ := refuseIf_bind_ok.1 h
  obtain ⟨-, h⟩ := refuseIf_bind_ok.1 h
  obtain ⟨-, h⟩ := refuseIf_bind_ok.1 h
  obtain ⟨-, h⟩ := refuseIf_bind_ok.1 h
  obtain rfl := Except.ok.inj h
  simpa using (not_or.1 hkey).1

theorem validateRequirements_words {seen : List String} {requirements declared : List PackageRequirement}
    (h : validateRequirements seen requirements = .ok declared) : ∀ requirement ∈ declared, isWord 63 requirement.key = true := by
  induction requirements generalizing seen declared with
  | nil =>
    obtain rfl := Except.ok.inj h
    exact nofun
  | cons requirement rest ih =>
    obtain ⟨first, hfirst, h⟩ := bind_ok.1 h
    obtain ⟨others, hothers, h⟩ := bind_ok.1 h
    obtain rfl := Except.ok.inj h
    exact List.forall_mem_cons.2 ⟨validateRequirement_word hfirst, ih hothers⟩

/-- Files each in a slot of its own, and the slots words. -/
structure Slotted (files : List UploadedFile) : Prop where
  nodup : (files.map UploadedFile.field).Nodup
  words : ∀ file ∈ files, isWord 63 file.field = true

theorem receiveFile_slotted {declared : List PackageRequirement} (hdeclared : ∀ requirement ∈ declared, isWord 63 requirement.key = true)
    {received received' : List UploadedFile} {file : UploadedFile} (hreceived : Slotted received)
    (h : receiveFile declared received file = .ok received') : Slotted received' := by
  unfold receiveFile at h
  split at h
  · cases h
  · rename_i requirement hfound
    obtain ⟨hnew, h⟩ := refuseIf_bind_ok.1 h
    obtain ⟨-, h⟩ := refuseIf_bind_ok.1 h
    obtain ⟨maximum, -, h⟩ := bind_ok.1 h
    obtain ⟨-, h⟩ := refuseIf_bind_ok.1 h
    obtain rfl := Except.ok.inj h
    have hkey : requirement.key = file.field := by simpa using List.find?_some hfound
    constructor
    · rw [List.map_append, List.map_singleton]
      exact List.nodup_append.2 ⟨hreceived.nodup, List.nodup_singleton _, by
        rintro a ha b hb rfl
        exact hnew (List.mem_singleton.1 hb ▸ ha)⟩
    · intro other hother
      rcases List.mem_append.1 hother with hother | hother
      · exact hreceived.words other hother
      · rw [List.mem_singleton.1 hother, ← hkey]
        exact hdeclared requirement (List.mem_of_find?_eq_some hfound)

theorem receiveFiles_slotted {declared : List PackageRequirement} (hdeclared : ∀ requirement ∈ declared, isWord 63 requirement.key = true)
    {files received received' : List UploadedFile} (hreceived : Slotted received)
    (h : files.foldlM (receiveFile declared) received = .ok received') : Slotted received' := by
  induction files generalizing received with
  | nil =>
    obtain rfl := Except.ok.inj h
    exact hreceived
  | cons file files ih =>
    rw [List.foldlM_cons] at h
    obtain ⟨middle, hfile, hfiles⟩ := bind_ok.1 h
    exact ih (receiveFile_slotted hdeclared hreceived hfile) hfiles

theorem validateRequirements_keys {seen : List String} {requirements declared : List PackageRequirement}
    (h : validateRequirements seen requirements = .ok declared) : declared.map (·.key) = requirements.map (·.key) := by
  induction requirements generalizing seen declared with
  | nil =>
    obtain rfl := Except.ok.inj h
    rfl
  | cons requirement rest ih =>
    obtain ⟨first, hfirst, h⟩ := bind_ok.1 h
    obtain ⟨others, hothers, h⟩ := bind_ok.1 h
    obtain rfl := Except.ok.inj h
    obtain ⟨-, hfirst⟩ := refuseIf_bind_ok.1 hfirst
    obtain ⟨-, hfirst⟩ := refuseIf_bind_ok.1 hfirst
    obtain ⟨-, hfirst⟩ := refuseIf_bind_ok.1 hfirst
    obtain ⟨-, hfirst⟩ := refuseIf_bind_ok.1 hfirst
    obtain ⟨-, hfirst⟩ := refuseIf_bind_ok.1 hfirst
    obtain rfl := Except.ok.inj hfirst
    rw [List.map_cons, List.map_cons, ih hothers]

/-- A file is taken for a slot that is declared. -/
theorem receiveFiles_declared {declared : List PackageRequirement} {files received received' : List UploadedFile}
    (hreceived : ∀ file ∈ received, file.field ∈ declared.map (·.key)) (h : files.foldlM (receiveFile declared) received = .ok received') :
    ∀ file ∈ received', file.field ∈ declared.map (·.key) := by
  induction files generalizing received with
  | nil =>
    obtain rfl := Except.ok.inj h
    exact hreceived
  | cons file files ih =>
    rw [List.foldlM_cons] at h
    obtain ⟨middle, hfile, hfiles⟩ := bind_ok.1 h
    refine ih ?_ hfiles
    unfold receiveFile at hfile
    split at hfile
    · cases hfile
    · rename_i requirement hfound
      obtain ⟨-, hfile⟩ := refuseIf_bind_ok.1 hfile
      obtain ⟨-, hfile⟩ := refuseIf_bind_ok.1 hfile
      obtain ⟨maximum, -, hfile⟩ := bind_ok.1 hfile
      obtain ⟨-, hfile⟩ := refuseIf_bind_ok.1 hfile
      obtain rfl := Except.ok.inj hfile
      intro other hother
      rcases List.mem_append.1 hother with hother | hother
      · exact hreceived other hother
      · rw [List.mem_singleton.1 hother]
        exact List.mem_map.2 ⟨requirement, List.mem_of_find?_eq_some hfound, by simpa using List.find?_some hfound⟩

variable {active : Bool} {packageRequirements : List PackageRequirement}

/-- The slots that are filled are declared, and those that are required are filled. -/
theorem received_fields {declaredLength : Option Nat} {files packages : List UploadedFile}
    (h : p.receiveBuildPackageUpload active packageRequirements declaredLength files = .ok packages) :
    (∀ slot ∈ packages.map UploadedFile.field, slot ∈ packageRequirements.map (·.key)) ∧
      ∀ requirement ∈ packageRequirements, requirement.required = true → requirement.key ∈ packages.map UploadedFile.field := by
  obtain ⟨-, h⟩ := refuseIf_bind_ok.1 h
  obtain ⟨declared, hdeclared, h⟩ := bind_ok.1 h
  obtain ⟨maximums, -, h⟩ := bind_ok.1 h
  obtain ⟨-, h⟩ := refuseIf_bind_ok.1 h
  obtain ⟨-, h⟩ := refuseIf_bind_ok.1 h
  obtain ⟨received, hreceived, h⟩ := bind_ok.1 h
  obtain ⟨hmissing, h⟩ := check_bind_ok.1 h
  obtain ⟨-, h⟩ := check_bind_ok.1 h
  obtain rfl := Except.ok.inj h
  obtain ⟨-, hdeclared⟩ := refuseIf_bind_ok.1 hdeclared
  have hperm := List.perm_insertionSort (fun left right : UploadedFile => p.localeCompare left.field right.field = true) received
  constructor
  · intro slot hslot
    obtain ⟨file, hfile, rfl⟩ := List.mem_map.1 hslot
    rw [← validateRequirements_keys hdeclared]
    exact receiveFiles_declared (by simp) hreceived file (hperm.mem_iff.1 hfile)
  · intro requirement hrequirement hrequired
    rw [(hperm.map UploadedFile.field).mem_iff]
    have hnone : missingSlot packageRequirements received = none := by
      cases hslot : missingSlot packageRequirements received with
      | none => rfl
      | some slot =>
        rw [hslot] at hmissing
        cases hmissing
    have hfound := List.find?_eq_none.1 (Option.map_eq_none_iff.1 hnone) requirement hrequirement
    simpa [hrequired] using hfound

/-- The files that are taken are sorted by their slots. -/
theorem received_ok {declaredLength : Option Nat} {files packages : List UploadedFile}
    (h : p.receiveBuildPackageUpload active packageRequirements declaredLength files = .ok packages) :
    Slotted packages ∧ packages.Pairwise fun left right => p.localeCompare left.field right.field = true := by
  obtain ⟨-, h⟩ := refuseIf_bind_ok.1 h
  obtain ⟨declared, hdeclared, h⟩ := bind_ok.1 h
  obtain ⟨maximums, -, h⟩ := bind_ok.1 h
  obtain ⟨-, h⟩ := refuseIf_bind_ok.1 h
  obtain ⟨-, h⟩ := refuseIf_bind_ok.1 h
  obtain ⟨received, hreceived, h⟩ := bind_ok.1 h
  obtain ⟨-, h⟩ := check_bind_ok.1 h
  obtain ⟨-, h⟩ := check_bind_ok.1 h
  obtain rfl := Except.ok.inj h
  obtain ⟨-, hdeclared⟩ := refuseIf_bind_ok.1 hdeclared
  have hslotted := receiveFiles_slotted (validateRequirements_words hdeclared) ⟨by simp, by simp⟩ hreceived
  have hperm := List.perm_insertionSort (fun left right : UploadedFile => p.localeCompare left.field right.field = true) received
  have htotal : Std.Total fun left right : UploadedFile => p.localeCompare left.field right.field = true := ⟨fun _ _ => p.total _ _⟩
  have htrans : IsTrans UploadedFile fun left right => p.localeCompare left.field right.field = true := ⟨fun _ _ _ => p.trans _ _ _⟩
  refine ⟨⟨(hperm.map _).nodup_iff.2 hslotted.nodup, fun file hfile => hslotted.words file (hperm.mem_iff.1 hfile)⟩, ?_⟩
  exact List.pairwise_insertionSort _ received

/-- Two lists that are sorted alike and fill the same slots name them in the same order. -/
theorem fields_eq {files files' : List UploadedFile} (hslotted : Slotted files) (hslotted' : Slotted files')
    (hsorted : files.Pairwise fun left right => p.localeCompare left.field right.field = true)
    (hsorted' : files'.Pairwise fun left right => p.localeCompare left.field right.field = true)
    (h : ∀ slot, slot ∈ files.map UploadedFile.field ↔ slot ∈ files'.map UploadedFile.field) :
    files.map UploadedFile.field = files'.map UploadedFile.field := by
  have hperm := (List.perm_ext_iff_of_nodup hslotted.nodup hslotted'.nodup).2 h
  have hword : ∀ {files : List UploadedFile}, Slotted files → ∀ slot ∈ files.map UploadedFile.field, isWord 63 slot = true := by
    intro files hslotted slot hslot
    obtain ⟨file, hfile, rfl⟩ := List.mem_map.1 hslot
    exact hslotted.words file hfile
  have hfields : (files.map UploadedFile.field).Pairwise fun a b => p.localeCompare a b = true := List.pairwise_map.2 hsorted
  have hfields' : (files'.map UploadedFile.field).Pairwise fun a b => p.localeCompare a b = true := List.pairwise_map.2 hsorted'
  refine hperm.eq_of_pairwise (fun a b ha hb hab hba => ?_) hfields hfields'
  exact p.antisymm a b (hword hslotted a ha) (hword hslotted' b hb) hab hba

namespace Platform.Upload

variable {active' : Bool} {packageRequirements' : List PackageRequirement} (upload : p.Upload active packageRequirements)
  (upload' : p.Upload active' packageRequirements')

def contents : List ByteArray :=
  upload.packages.map UploadedFile.content

def Fills (slot : String) : Prop :=
  slot ∈ upload.packages.map UploadedFile.field

variable {upload upload'}

theorem contents_eq (h : upload.packageHashes = upload'.packageHashes) : upload.contents = upload'.contents := by
  have hhashes : ∀ {active packageRequirements} (upload : p.Upload active packageRequirements),
      upload.packageHashes = upload.contents.map p.sha256 := fun upload => (List.map_map ..).symm
  rw [hhashes, hhashes] at h
  exact List.map_injective_iff.2 p.injective h

theorem packageHashes_eq (h : upload.contents = upload'.contents) : upload.packageHashes = upload'.packageHashes := by
  have hmap := congrArg (List.map p.sha256) h
  rw [contents, contents, List.map_map, List.map_map] at hmap
  exact hmap

theorem isSome_slots (slot : String) : (upload.slots slot).isSome = true ↔ upload.Fills slot := by
  simp [slots, Fills]

/-- Uploads of the same contents put them alike just when they fill the same slots. -/
theorem slots_eq_iff (h : upload.contents = upload'.contents) :
    upload.slots = upload'.slots ↔ ∀ slot, upload.Fills slot ↔ upload'.Fills slot := by
  constructor
  · intro hslots slot
    rw [← isSome_slots, ← isSome_slots, hslots]
  · intro hfills
    obtain ⟨hslotted, hsorted⟩ := received_ok upload.received
    obtain ⟨hslotted', hsorted'⟩ := received_ok upload'.received
    have hfields := fields_eq hslotted hslotted' hsorted hsorted' hfills
    -- so the files are the same but for their names
    have hpairs : (upload.packages.map fun file => (file.field, file.content)) = upload'.packages.map fun file => (file.field, file.content) := by
      have hzip : ∀ files : List UploadedFile, (files.map fun file => (file.field, file.content)) =
          (files.map UploadedFile.field).zip (files.map UploadedFile.content) := by
        intro files
        rw [List.zip_map', List.map_congr_left]
        exact fun _ _ => rfl
      rw [hzip, hzip, hfields]
      exact congrArg _ h
    have hslots : ∀ {active packageRequirements} (upload : p.Upload active packageRequirements) (slot : String),
        upload.slots slot = ((upload.packages.map fun file => (file.field, file.content)).find? (·.1 = slot)).map Prod.snd := by
      intro active packageRequirements upload slot
      rw [slots, List.find?_map, Option.map_map]
      rfl
    funext slot
    rw [hslots, hslots, hpairs]

end Platform.Upload

end OpenApp.Catalog
