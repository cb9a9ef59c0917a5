import OpenApp.Catalog.Store
import OpenApp.Fallible
import OpenApp.Number
import OpenApp.Policy.InstancePolicy
import OpenApp.Word

/-!
# Image updates of an App

An administrator names packages for slots of a build strategy, or takes them away; the other slots keep
what the current revision has. The packages are resolved and inspected, and become a new revision. What is
reported on the way, and the build of the revision, are left out.
-/

namespace OpenApp.Catalog

open Fallible Keyed Script

inductive UpdateFailure
  /-- `AppImageUpdateError` -/
  | update (code : String)
  /-- `BuildPackageUploadError` -/
  | upload (code : String)
  /-- `AppCatalogError` -/
  | catalog (code : String)
  | error (message : String)
  deriving DecidableEq

abbrev Updated (α : Type) := Except UpdateFailure α

/-- `/^[a-z0-9][a-z0-9._-]{0,127}$/u` -/
def PACKAGE_KEY_PATTERN (value : String) : Bool :=
  isLowerWord 127 value

/-- `/^[A-Za-z0-9][A-Za-z0-9._-]{0,127}$/u` -/
def PACKAGE_ID_PATTERN (value : String) : Bool :=
  isWord 127 value

def MAX_BUILD_PACKAGE_BYTES : Nat := 512 * 1024 * 1024

structure PackageRequirement extends BuildPackageRequirement where
  acceptedExtensions : List String
  maxBytes : Option Nat

/-- A strategy as it is registered: its slots have keys in lower case, no two the same one. -/
structure RegisteredStrategy where
  id : String
  revision : Nat
  active : Bool
  packageRequirements : List PackageRequirement
  nodup : (packageRequirements.map (·.key)).Nodup
  keys : ∀ requirement ∈ packageRequirements, isLowerWord 63 requirement.key = true

structure InspectedPackage where
  key : String
  sourcePath : String
  artifact : AppArtifact
  packageId : Option String

/-! ## What is asked for -/

inductive ReplacementId
  | null
  | text (id : String)
  | other

/-- The `unknown` of the request. -/
inductive ReplacementPackageIds
  | notObject
  | object (entries : List (String × ReplacementId))

/-- `null` takes the package away. -/
def ReplacementId.normal : ReplacementId → Option String
  | .null => none
  | .text id => some (trim id)
  | .other => some ""

abbrev Replacements := List (String × Option String)

def addReplacements (replacements : Replacements) : List (String × ReplacementId) → Updated Replacements
  | [] => .ok replacements
  | (rawKey, rawId) :: rest =>
    let key := toLowerCase (trim rawKey)
    let id := rawId.normal
    if PACKAGE_KEY_PATTERN key = false ∨ id.any (fun id => !PACKAGE_ID_PATTERN id) ∨ (replacements.lookup key).isSome then
      .error (.update "invalid_build_package_selection")
    else addReplacements (replacements ++ [(key, id)]) rest

def normalizeReplacements : ReplacementPackageIds → Updated Replacements
  | .notObject => .error (.update "invalid_build_package_selection")
  | .object entries => do
    let replacements ← addReplacements [] entries
    refuseIf (replacements = []) (.update "app_image_update_replacement_required")
    pure replacements

/-! ## Slots -/

/-- `if (pkg.packageId) inherited.set(pkg.key, pkg.packageId)` -/
def inherit (inherited : Map String) (pkg : ImageBuildPackage) : Map String :=
  match pkg.packageId.filter truthy with
  | some id => inherited.set pkg.key id
  | none => inherited

/-- The packages of the current revision that have an id, each under its key. -/
def inheritedPackages (current : Option AppVersion) : Map String :=
  ((current.map packagesForVersion).getD []).foldl inherit ⟨[]⟩

inductive SlotChoice
  | inherited (id : String)
  | replaced (id : String)
  | removed
  | empty
  deriving DecidableEq

def SlotChoice.selectedId : SlotChoice → Option String
  | .inherited id | .replaced id => some id
  | .removed | .empty => none

/-- One turn of the loop over the requirements. -/
def chooseSlot (replacements : Replacements) (inherited : Map String) (requirement : PackageRequirement) : Updated SlotChoice :=
  match replacements.lookup requirement.key, inherited.get requirement.key with
  | some none, inheritedId => do
    refuseIf requirement.required (.update ("required_build_package_cannot_remove:" ++ requirement.key))
    pure (if inheritedId.isSome then .removed else .empty)
  | some (some replacement), inheritedId =>
    pure (if inheritedId = some replacement then .inherited replacement else .replaced replacement)
  | none, some inheritedId => pure (.inherited inheritedId)
  | none, none => do
    refuseIf requirement.required (.update ("required_build_package_missing:" ++ requirement.key))
    pure .empty

structure Slots where
  choices : List (String × SlotChoice)

namespace Slots

variable (slots : Slots)

def effectiveIds : List String :=
  slots.choices.filterMap fun slot => slot.2.selectedId

def inheritedSlots : List String :=
  (slots.choices.filter fun slot => match slot.2 with | .inherited _ => true | _ => false).map Prod.fst

def replacedSlots : List String :=
  (slots.choices.filter fun slot => match slot.2 with | .replaced _ => true | _ => false).map Prod.fst

def removedSlots : List String :=
  (slots.choices.filter fun slot => match slot.2 with | .removed => true | _ => false).map Prod.fst

end Slots

def chooseSlots (strategy : RegisteredStrategy) (current : Option AppVersion) (replacements : Replacements) : Updated Slots := do
  refuseIf (replacements.any fun replacement => (strategy.packageRequirements.map (·.key)).contains replacement.1 = false)
    (.update "unsupported_build_package")
  let choices ← strategy.packageRequirements.mapM fun requirement => do
    let choice ← chooseSlot replacements (inheritedPackages current) requirement
    pure (requirement.key, choice)
  pure ⟨choices⟩

/-! ## Packages -/

/-- The packages of a revision as they are stored: no two of one slot, and their ids identifiers. -/
structure NormalPackages (packages : List ImageBuildPackage) : Prop where
  nodup : (packages.map ImageBuildPackage.key).Nodup
  ids : ∀ pkg ∈ packages, ∀ id ∈ pkg.packageId, PACKAGE_ID_PATTERN id = true

/-- What an update finds around it: the stores, the strategy's own inspection, and what the host is configured with. -/
structure UpdateHost where
  defaultStrategyIdForApp : Option (String → Option String)
  supportsStrategyForApp : Option (String → String → Bool)
  requireExecutableStrategy : String → Updated RegisteredStrategy
  /-- the versions of an App when the slots are chosen -/
  listVersions : String → List AppVersion
  /-- and after the inspection -/
  latestVersions : String → List AppVersion
  normal : ∀ appId, ∀ version ∈ listVersions appId, NormalPackages version.packages
  buildPackages : Table BuildPackage.id
  /-- the file of a package, which has the size and the digest it was recorded with -/
  resolvePath : BuildPackage → Updated String
  inspectPackages : RegisteredStrategy → List (String × String) → Updated (List InspectedPackage)
  /-- what `#persistInspectedVersion` does once the packages are checked -/
  persist : String → List ImageBuildPackage → Updated Unit

def packageMaximum (requirement : PackageRequirement) : Updated Nat := do
  let maximum := requirement.maxBytes.getD MAX_BUILD_PACKAGE_BYTES
  refuseIf (maximum = 0 ∨ MAX_BUILD_PACKAGE_BYTES < maximum) (.upload "invalid_build_package_max_bytes")
  pure maximum

/-- One turn of the loop over the packages. -/
def checkRecord (strategy : RegisteredStrategy) (selectedKeys : List String) (pkg : BuildPackage) : Updated Unit := do
  refuseIf (pkg.strategyId ≠ strategy.id) (.upload "build_package_strategy_mismatch")
  refuseIf (pkg.key ∈ selectedKeys) (.upload ("duplicate_build_package:" ++ pkg.key))
  match strategy.packageRequirements.find? (·.key = pkg.key) with
  | none => .error (.upload ("unsupported_build_package:" ++ pkg.key))
  | some requirement => do
    let maximum ← packageMaximum requirement
    refuseIf (maximum < pkg.artifact.size) (.upload ("build_package_too_large:" ++ pkg.key))
    refuseIf (requirement.acceptedExtensions.any (fun extension =>
        extension.toList.isSuffixOf (toLowerCase pkg.artifact.file).toList) = false)
      (.upload ("invalid_build_package_extension:" ++ pkg.key))

def checkRecords (strategy : RegisteredStrategy) : List String → List BuildPackage → Updated Unit
  | _, [] => .ok ()
  | selectedKeys, pkg :: rest => do
    checkRecord strategy selectedKeys pkg
    checkRecords strategy (pkg.key :: selectedKeys) rest

/-- No requirement is left without its package. -/
def checkRequired (strategy : RegisteredStrategy) (records : List BuildPackage) : Updated Unit :=
  match strategy.packageRequirements.find? fun requirement =>
    requirement.required && records.all (·.key ≠ requirement.key) with
  | some missing => .error (.upload ("required_build_package_missing:" ++ missing.key))
  | none => .ok ()

namespace UpdateHost

variable (host : UpdateHost)

def get (id : String) : Updated BuildPackage :=
  match host.buildPackages.get id with
  | some pkg => .ok pkg
  | none => .error (.upload "build_package_not_found")

structure Selection where
  packages : List BuildPackage
  packagePaths : List (String × String)

def resolveSelection (strategy : RegisteredStrategy) (packageIds : List String) : Updated Selection := do
  refuseIf (strategy.active = false) (.upload "build_strategy_archived")
  refuseIf (strategy.packageRequirements.length < packageIds.length) (.upload "build_package_selection_required")
  let uniqueIds := (packageIds.map trim).eraseDups
  refuseIf ("" ∈ uniqueIds ∨ uniqueIds.length ≠ packageIds.length) (.upload "invalid_build_package_selection")
  let records ← uniqueIds.mapM host.get
  checkRecords strategy [] records
  checkRequired strategy records
  let paths ← records.mapM fun pkg => do
    let path ← host.resolvePath pkg
    pure (pkg.key, path)
  pure ⟨records.insertionSort fun left right => left.key ≤ right.key, paths⟩

end UpdateHost

def selectedByKey (selected : List BuildPackage) (key : String) : Option BuildPackage :=
  selected.find? (·.key = key)

def assertInspectionMatchesSelection (inspected : List InspectedPackage) (selected : List BuildPackage) : Updated Unit :=
  refuseIf (inspected.length ≠ selected.length ∨ inspected.any fun pkg =>
      match selectedByKey selected pkg.key with
      | none => true
      | some selectedPackage =>
        selectedPackage.artifact.sha256 ≠ pkg.artifact.sha256 || selectedPackage.artifact.size ≠ pkg.artifact.size)
    (.update "build_strategy_package_inspection_mismatch")

/-! ## The revision -/

/-- `/^[a-f0-9]{64}$/u` -/
def SHA256_PATTERN (value : String) : Bool :=
  value.toList.length = 64 && value.toList.all fun c => c.isDigit || ('a' ≤ c && c ≤ 'f')

/-- One of the packages of `normalizeInspectedVersion`, after those that were taken before it. -/
def normalizePackage (taken : List ImageBuildPackage) (pkg : InspectedPackage) : Updated ImageBuildPackage := do
  let key := toLowerCase (trim pkg.key)
  let file := trim pkg.artifact.file
  let sha256 := toLowerCase (trim pkg.artifact.sha256)
  let packageId := pkg.packageId.map trim
  refuseIf (PACKAGE_KEY_PATTERN key = false ∨ key ∈ taken.map ImageBuildPackage.key) (.catalog "invalid_app_version_package")
  refuseIf (PACKAGE_ID_PATTERN file = false ∨ file ∈ taken.map (·.artifact.file) ∨ SHA256_PATTERN sha256 = false ∨
      Number.maxSafeInteger < pkg.artifact.size ∨ pkg.artifact.size = 0) (.catalog "invalid_app_version_package")
  refuseIf (pkg.sourcePath = "") (.catalog "invalid_app_version_package")
  refuseIf (packageId.any fun id => !PACKAGE_ID_PATTERN id) (.catalog "invalid_app_version_package")
  pure ⟨key, ⟨file, sha256, pkg.artifact.size⟩, packageId⟩

def normalizePackages (taken : List ImageBuildPackage) : List InspectedPackage → Updated (List ImageBuildPackage)
  | [] => .ok taken
  | pkg :: rest => do
    let package ← normalizePackage taken pkg
    normalizePackages (taken ++ [package]) rest

namespace UpdateHost

variable (host : UpdateHost)

/-- The packages `createRevision` stores. -/
def createRevision (appId : String) (packages : List InspectedPackage) : Updated (List ImageBuildPackage) := do
  refuseIf (32 < packages.length) (.catalog "app_version_release_required")
  let normalized ← normalizePackages [] packages
  host.persist appId normalized
  pure normalized

/-! ## The update -/

structure CreateAppImageCandidateInput where
  appId : String
  strategyId : Option String
  expectedRevision : Int
  replacementPackageIds : ReplacementPackageIds
  requestedBy : String
  operationId : String

def normalizeAppId (value : String) : Updated String := do
  let appId := toLowerCase (trim value)
  refuseIf (Policy.validAppId appId = false) (.update "invalid_app_id")
  pure appId

def normalizeStrategyId (value : String) : Updated String := do
  let strategyId := toLowerCase (trim value)
  refuseIf (PACKAGE_KEY_PATTERN strategyId = false) (.update "invalid_build_strategy_id")
  pure strategyId

def normalizeRevision (value : Int) : Updated Nat := do
  refuseIf (value < 0 ∨ Number.maxSafeInteger < value) (.update "invalid_app_revision")
  pure value.toNat

/-- The strategy that is asked for, or the one the host has for the App, as far as the App may use it. -/
def permittedStrategyId (appId : String) (strategyId : Option String) : Updated String := do
  let configuredStrategyId := match strategyId with
    | some id => some id
    | none => host.defaultStrategyIdForApp.bind fun defaultStrategyIdForApp => defaultStrategyIdForApp appId
  match configuredStrategyId.filter fun id => truthy (trim id) with
  | none => .error (.update "build_strategy_not_found")
  | some configuredStrategyId => do
    let strategyId ← normalizeStrategyId configuredStrategyId
    let permitted := match host.supportsStrategyForApp with
      | some supportsStrategyForApp => supportsStrategyForApp appId strategyId
      | none => (host.defaultStrategyIdForApp.bind fun defaultStrategyIdForApp => defaultStrategyIdForApp appId) = some strategyId
    refuseIf (permitted = false) (.update "build_strategy_app_mismatch")
    pure strategyId

def currentVersion (versions : List AppVersion) : Option AppVersion :=
  versions.find? (·.status = .active) <|> versions.find? (·.status = .legacy)

def requireRevision (expectedRevision : Nat) (current : Option AppVersion) : Updated Unit :=
  refuseIf ((current.bind AppVersion.revision).getD 0 ≠ expectedRevision) (.update "app_revision_conflict")

structure Candidate where
  strategy : RegisteredStrategy
  current : Option AppVersion
  slots : Slots
  packages : List ImageBuildPackage

/-- `createCandidate`, up to its revision. -/
def createCandidate (input : CreateAppImageCandidateInput) : Updated Candidate := do
  let appId ← normalizeAppId input.appId
  let strategyId ← host.permittedStrategyId appId input.strategyId
  let expectedRevision ← normalizeRevision input.expectedRevision
  refuseIf (trim input.requestedBy = "") (.update "app_image_update_actor_required")
  refuseIf (trim input.operationId = "") (.update "app_image_update_operation_required")
  let strategy ← host.requireExecutableStrategy strategyId
  let current := currentVersion (host.listVersions appId)
  requireRevision expectedRevision current
  let replacements ← normalizeReplacements input.replacementPackageIds
  let slots ← chooseSlots strategy current replacements
  refuseIf (slots.replacedSlots = [] ∧ slots.removedSlots = []) (.update "app_image_update_no_changes")
  let selected ← host.resolveSelection strategy slots.effectiveIds
  let inspected ← host.inspectPackages strategy selected.packagePaths
  assertInspectionMatchesSelection inspected selected.packages
  requireRevision expectedRevision (currentVersion (host.latestVersions appId))
  let packages ← host.createRevision appId (inspected.map fun pkg =>
    { pkg with packageId := (selectedByKey selected.packages pkg.key).map BuildPackage.id })
  pure ⟨strategy, current, slots, packages⟩

end UpdateHost

end OpenApp.Catalog
