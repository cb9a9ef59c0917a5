import OpenApp.Catalog.ImageUpdates

/-!
# Drafts of an image update

What the browser makes of an administrator's edits before anything is sent. The packages that are inherited and those
that replace them are ordinary objects, so a key that is not their own may still be read from `Object.prototype`.
-/

namespace OpenApp.Catalog

open Fallible Keyed Script

/-! ## Ordinary objects -/

/-- The names every object has. -/
def OBJECT_PROTOTYPE : List String :=
  ["constructor", "__defineGetter__", "__defineSetter__", "hasOwnProperty", "__lookupGetter__", "__lookupSetter__",
    "isPrototypeOf", "propertyIsEnumerable", "toString", "valueOf", "__proto__", "toLocaleString"]

/-- What is read from an object under a key. -/
inductive Property
  | undefined
  | null
  | text (value : String)
  /-- what `Object.prototype` has under the key -/
  | ofPrototype
  deriving DecidableEq

def Property.truthy : Property → Bool
  | .text value => Script.truthy value
  | .ofPrototype => true
  | .undefined | .null => false

/-- The property an object does not have itself. -/
def missingProperty (key : String) : Property :=
  if OBJECT_PROTOTYPE.contains key then .ofPrototype else .undefined

/-- `Object.fromEntries`. -/
def fromEntries {α : Type} (entries : List (String × α)) : Table fun entry : String × α => entry.1 :=
  entries.foldl .put .empty

/-! ## The draft -/

structure AppImageUpdateDraft where
  inheritedPackageIds : Table fun entry : String × String => entry.1
  /-- `null` takes the package away. -/
  replacementPackageIds : Table fun entry : String × Option String => entry.1

namespace AppImageUpdateDraft

variable (draft : AppImageUpdateDraft)

def inheritedId (key : String) : Property :=
  match draft.inheritedPackageIds.get key with
  | some (_, id) => .text id
  | none => missingProperty key

def replacementId (key : String) : Property :=
  match draft.replacementPackageIds.get key with
  | some (_, some id) => .text id
  | some (_, none) => .null
  | none => missingProperty key

end AppImageUpdateDraft

/-- The current one of the revisions. -/
def currentAppRevision (revisions : List AppVersion) : Option AppVersion :=
  revisions.find? (·.status = .active) <|> revisions.find? (·.status = .legacy)

/-- `left.localeCompare(right) <= 0` is the order of the keys. -/
def packagesForAppVersion (localeNotAfter : String → String → Bool) (version : AppVersion) : List ImageBuildPackage :=
  version.packages.mergeSort fun left right => localeNotAfter left.key right.key

/-- A package without an id is no entry. -/
def packageEntry (pkg : ImageBuildPackage) : Option (String × String) :=
  (pkg.packageId.filter truthy).map fun id => (pkg.key, id)

def inheritedPackageIdsForRevision (localeNotAfter : String → String → Bool) (revision : Option AppVersion) :
    Table fun entry : String × String => entry.1 :=
  match revision with
  | none => .empty
  | some revision => fromEntries ((packagesForAppVersion localeNotAfter revision).filterMap packageEntry)

/-- An assignment to `__proto__` of what is no object does nothing. -/
def normalizedEntry (entry : String × String) : Option (String × String) :=
  if truthy (trim entry.2) = true ∧ entry.1 ≠ "__proto__" then some (entry.1, trim entry.2) else none

def createAppImageUpdateDraft (inheritedPackageIds : Table fun entry : String × String => entry.1) : AppImageUpdateDraft where
  inheritedPackageIds := fromEntries (inheritedPackageIds.rows.filterMap normalizedEntry)
  replacementPackageIds := .empty

def resetAppImageUpdateSlot (draft : AppImageUpdateDraft) (key : String) : AppImageUpdateDraft :=
  { draft with replacementPackageIds := draft.replacementPackageIds.delete key }

def replaceAppImageUpdatePackage (draft : AppImageUpdateDraft) (key : String) (packageId : Option String) :
    AppImageUpdateDraft :=
  match packageId with
  | none => { draft with replacementPackageIds := draft.replacementPackageIds.put (key, none) }
  | some packageId =>
    let normalizedId := trim packageId
    if truthy normalizedId = false ∨ draft.inheritedId key = .text normalizedId then resetAppImageUpdateSlot draft key
    else { draft with replacementPackageIds := draft.replacementPackageIds.put (key, some normalizedId) }

inductive Edit
  | replace (key : String) (packageId : Option String)
  | reset (key : String)

def AppImageUpdateDraft.edit (draft : AppImageUpdateDraft) : Edit → AppImageUpdateDraft
  | .replace key packageId => replaceAppImageUpdatePackage draft key packageId
  | .reset key => resetAppImageUpdateSlot draft key

/-! ## What it comes to -/

structure ResolvedAppImageUpdateDraft where
  /-- a slot without a package has no entry -/
  effectivePackageIds : List (String × Property)
  packageIds : Option (List Property)
  changedSlots : List String
  missingRequiredSlots : List String
  canBuild : Bool

namespace AppImageUpdateDraft

variable (draft : AppImageUpdateDraft)

def effectiveId (key : String) : Property :=
  if draft.replacementId key = .null then .undefined
  else if (draft.replacementId key).truthy then draft.replacementId key
  else draft.inheritedId key

def changed (key : String) : Bool :=
  (draft.replacementId key = .null && (draft.inheritedId key).truthy) ||
    ((draft.replacementId key).truthy && draft.replacementId key ≠ draft.inheritedId key)

end AppImageUpdateDraft

/-- The keys of the requirements differ, so each is assigned once. -/
def resolveAppImageUpdateDraft (strategy : RegisteredStrategy) (draft : AppImageUpdateDraft) : ResolvedAppImageUpdateDraft :=
  let keys := strategy.packageRequirements.map (·.key)
  let effectivePackageIds := (keys.filter fun key => (draft.effectiveId key).truthy).map fun key => (key, draft.effectiveId key)
  let changedSlots := keys.filter draft.changed
  let missingRequiredSlots := (strategy.packageRequirements.filter fun requirement =>
    !(draft.effectiveId requirement.key).truthy && requirement.required).map (·.key)
  let canBuild := missingRequiredSlots.isEmpty && !changedSlots.isEmpty
  { effectivePackageIds
    packageIds := if canBuild then some (effectivePackageIds.map (·.2)) else none
    changedSlots
    missingRequiredSlots
    canBuild }

/-! ## What is sent -/

def sentId : Option String → ReplacementId
  | none => .null
  | some id => .text id

/-- The replacements of a draft, as the request has them. -/
def AppImageUpdateDraft.request (draft : AppImageUpdateDraft) : ReplacementPackageIds :=
  .object (draft.replacementPackageIds.rows.map fun entry => (entry.1, sentId entry.2))

/-- `createCandidate`, from the replacements to the slots. -/
def computeSlots (strategy : RegisteredStrategy) (current : Option AppVersion) (replacementPackageIds : ReplacementPackageIds) :
    Updated Slots := do
  let replacements ← normalizeReplacements replacementPackageIds
  let slots ← chooseSlots strategy current replacements
  refuseIf (slots.replacedSlots = [] ∧ slots.removedSlots = []) (.update "app_image_update_no_changes")
  pure slots

/-- The slots of a candidate are those. -/
theorem computeSlots_of_createCandidate {host : UpdateHost} {input : UpdateHost.CreateAppImageCandidateInput}
    {candidate : UpdateHost.Candidate} (h : host.createCandidate input = .ok candidate) :
    computeSlots candidate.strategy candidate.current input.replacementPackageIds = .ok candidate.slots := by
  obtain ⟨appId, -, h⟩ := bind_ok.1 h
  obtain ⟨strategyId, -, h⟩ := bind_ok.1 h
  obtain ⟨expectedRevision, -, h⟩ := bind_ok.1 h
  obtain ⟨-, h⟩ := refuseIf_bind_ok.1 h
  obtain ⟨-, h⟩ := refuseIf_bind_ok.1 h
  obtain ⟨strategy, -, h⟩ := bind_ok.1 h
  obtain ⟨-, h⟩ := check_bind_ok.1 h
  obtain ⟨replacements, hreplacements, h⟩ := bind_ok.1 h
  obtain ⟨slots, hslots, h⟩ := bind_ok.1 h
  obtain ⟨hchanges, h⟩ := refuseIf_bind_ok.1 h
  obtain ⟨selected, -, h⟩ := bind_ok.1 h
  obtain ⟨inspected, -, h⟩ := bind_ok.1 h
  obtain ⟨-, h⟩ := check_bind_ok.1 h
  obtain ⟨-, h⟩ := check_bind_ok.1 h
  obtain ⟨packages, -, h⟩ := bind_ok.1 h
  obtain rfl := Except.ok.inj h
  exact bind_ok.2 ⟨replacements, hreplacements, bind_ok.2 ⟨slots, hslots, refuseIf_bind_ok.2 ⟨hchanges, rfl⟩⟩⟩

end OpenApp.Catalog
