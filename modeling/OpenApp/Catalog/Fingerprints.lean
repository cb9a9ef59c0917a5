import Mathlib
import OpenApp.Catalog.ImageUpdates
import OpenApp.Framed

/-!
# Fingerprints of requests

A request that builds an image, updates an App's image or uploads a version carries a fingerprint, so that the same
idempotency key with the same fingerprint is answered with the operation that is there. Each route makes its own list
of texts of the request, and the fingerprint is the digest of that list.
-/

namespace OpenApp.Catalog

open Fallible Keyed Script

/-- What the routes use of the host: its digests, the order it sorts texts in, and how it writes numbers. -/
structure Platform where
  /-- the digest in hexadecimal digits -/
  sha256 : ByteArray → String
  injective : Function.Injective sha256
  /-- a digest has 64 digits, a safe integer 16 at most -/
  digest_ne : ∀ bytes (n : Nat), n ≤ Number.maxSafeInteger → sha256 bytes ≠ toString n
  /-- `left.localeCompare(right) <= 0` -/
  localeCompare : String → String → Bool
  total : ∀ left right, localeCompare left right = true ∨ localeCompare right left = true
  trans : ∀ left middle right, localeCompare left middle = true → localeCompare middle right = true → localeCompare left right = true
  /-- no two words of ASCII letters, digits, dots, underscores and hyphens have one place -/
  antisymm : ∀ left right, isWord 63 left = true → isWord 63 right = true → localeCompare left right = true →
    localeCompare right left = true → left = right
  Num : Type
  /-- `String(value)` -/
  text : Num → String
  /-- the safe integer a number is -/
  safeInteger : Num → Option Int
  safeInteger_text : ∀ m n, text m = text n → safeInteger m = safeInteger n

/-! ## Files that are uploaded -/

structure UploadedFile where
  field : String
  filename : String
  content : ByteArray
  deriving DecidableEq

def MAX_MULTIPART_OVERHEAD : Nat := 1024 * 1024

/-- `/^\.[a-z0-9][a-z0-9.-]{0,31}$/u` -/
def EXTENSION_PATTERN (value : String) : Bool :=
  match value.toList with
  | '.' :: c :: cs => (c.isLower || c.isDigit) && cs.length ≤ 31 && cs.all fun c => c.isLower || c.isDigit || c = '.' || c = '-'
  | _ => false

/-- One turn of the `map` over the requirements, after those that were seen. -/
def validateRequirement (seen : List String) (requirement : PackageRequirement) : Updated PackageRequirement := do
  refuseIf (isWord 63 requirement.key = false ∨ requirement.key ∈ ["__proto__", "constructor", "prototype"])
    (.upload "invalid_build_package_key")
  refuseIf (requirement.key ∈ seen) (.upload "duplicate_build_package_key")
  refuseIf (requirement.acceptedExtensions = [] ∨ 16 < requirement.acceptedExtensions.length) (.upload "invalid_build_package_extensions")
  refuseIf (requirement.acceptedExtensions.any fun extension => EXTENSION_PATTERN (toLowerCase (trim extension)) = false)
    (.upload "invalid_build_package_extensions")
  let maximum := requirement.maxBytes.getD MAX_BUILD_PACKAGE_BYTES
  refuseIf (maximum = 0 ∨ MAX_BUILD_PACKAGE_BYTES < maximum) (.upload "invalid_build_package_max_bytes")
  pure { requirement with
    acceptedExtensions := (requirement.acceptedExtensions.map fun extension => toLowerCase (trim extension)).eraseDups
    maxBytes := some maximum }

def validateRequirements : List String → List PackageRequirement → Updated (List PackageRequirement)
  | _, [] => .ok []
  | seen, requirement :: rest => do
    let first ← validateRequirement seen requirement
    let others ← validateRequirements (requirement.key :: seen) rest
    pure (first :: others)

def validateUploadRequirements (requirements : List PackageRequirement) : Updated (List PackageRequirement) := do
  refuseIf (requirements = [] ∨ 32 < requirements.length) (.upload "build_strategy_packages_required")
  validateRequirements [] requirements

/-- One file of the upload, after those that were received. -/
def receiveFile (requirements : List PackageRequirement) (received : List UploadedFile) (file : UploadedFile) :
    Updated (List UploadedFile) :=
  match requirements.find? (·.key = file.field) with
  | none => .error (.upload ("unsupported_build_package:" ++ file.field))
  | some requirement => do
    refuseIf (file.field ∈ received.map UploadedFile.field) (.upload ("duplicate_build_package:" ++ file.field))
    refuseIf (requirement.acceptedExtensions.any (fun extension =>
        extension.toList.isSuffixOf (toLowerCase (trim file.filename)).toList) = false)
      (.upload ("invalid_build_package_extension:" ++ file.field))
    let maximum ← packageMaximum requirement
    refuseIf (maximum < file.content.size) (.upload ("build_package_too_large:" ++ file.field))
    pure (received ++ [file])

/-- A slot that a check finds fault with. -/
def refuseSlot (code : String) : Option String → Updated Unit
  | some slot => .error (.upload (code ++ slot))
  | none => .ok ()

def missingSlot (requirements : List PackageRequirement) (received : List UploadedFile) : Option String :=
  (requirements.find? fun requirement => requirement.required && !(received.map UploadedFile.field).contains requirement.key).map (·.key)

def emptySlot (received : List UploadedFile) : Option String :=
  (received.find? fun file => trim file.filename = "" || file.content.size = 0).map UploadedFile.field

namespace Platform

variable (p : Platform)

/-- The files, sorted by slot. Of several failures the one that comes first in the request is reported. -/
def receiveBuildPackageUpload (active : Bool) (packageRequirements : List PackageRequirement) (declaredLength : Option Nat)
    (files : List UploadedFile) : Updated (List UploadedFile) := do
  refuseIf (active = false) (.upload "build_strategy_archived")
  let requirements ← validateUploadRequirements packageRequirements
  let maximums ← requirements.mapM packageMaximum
  refuseIf (declaredLength.any fun length => maximums.sum + MAX_MULTIPART_OVERHEAD < length) (.upload "build_package_upload_too_large")
  refuseIf (requirements.length < files.length) (.upload "build_package_file_limit")
  let received ← files.foldlM (receiveFile requirements) []
  refuseSlot "required_build_package_missing:" (missingSlot packageRequirements received)
  refuseSlot "empty_build_package:" (emptySlot received)
  pure (received.insertionSort fun left right => p.localeCompare left.field right.field)

/-! ## What is asked for -/

/-- The packages a request names by their ids, as they are resolved among those that were ever stored. The digest of a
package is that of its file. -/
structure Selected (history : Table BuildPackage.id) where
  strategy : RegisteredStrategy
  safe : strategy.revision ≤ Number.maxSafeInteger
  host : UpdateHost
  stored : ∀ id pkg, host.buildPackages.get id = some pkg → history.get id = some pkg
  packageIds : List String
  selection : UpdateHost.Selection
  resolved : host.resolveSelection strategy packageIds = .ok selection
  content : BuildPackage → ByteArray
  checksum : ∀ pkg ∈ selection.packages, p.sha256 (content pkg) = pkg.artifact.sha256

/-- The packages a request brings for these slots. -/
structure Upload (active : Bool) (packageRequirements : List PackageRequirement) where
  declaredLength : Option Nat
  files : List UploadedFile
  packages : List UploadedFile
  received : p.receiveBuildPackageUpload active packageRequirements declaredLength files = .ok packages

end Platform

/-- A value of the body, with the text that is made of one that is neither `null` nor a string. -/
inductive UnknownEntry
  | null
  | text (id : String)
  | other (text : String)

namespace UnknownEntry

/-- `typeof entry === "string" ? entry : String(entry)` -/
def toText : UnknownEntry → String
  | null => "null"
  | text id => id
  | other value => value

def toReplacementId : UnknownEntry → ReplacementId
  | null => .null
  | text id => .text id
  | other _ => .other

end UnknownEntry

/-- `body.replacementPackageIds` -/
inductive UnknownReplacements
  | notObject (text : String)
  | object (entries : List (String × UnknownEntry)) (nodup : (entries.map Prod.fst).Nodup)

namespace UnknownReplacements

def toReplacementPackageIds : UnknownReplacements → ReplacementPackageIds
  | notObject _ => .notObject
  | object entries _ => .object (entries.map fun entry => (entry.1, entry.2.toReplacementId))

/-- What `normalizeReplacements` makes of them, slot by slot, unless it refuses them. -/
def asked (replacements : UnknownReplacements) : Option (String → Option (Option String)) :=
  (normalizeReplacements replacements.toReplacementPackageIds).toOption.map fun replacements slot => replacements.lookup slot

end UnknownReplacements

/-- The requests of three operations, as far as the route of each has them when it makes the fingerprint. -/
inductive Request (p : Platform) (history : Table BuildPackage.id)
  | imageBuildSelection (selected : p.Selected history)
  | imageBuildUpload (strategy : RegisteredStrategy) (upload : p.Upload strategy.active strategy.packageRequirements)
  | imageUpdate (appId strategyId : String) (expectedRevision : p.Num) (replacementPackageIds : UnknownReplacements)
  | versionSelection (appId : String) (selected : p.Selected history)
  | versionUpload (appId : String) (packageRequirements : List PackageRequirement) (upload : p.Upload true packageRequirements)

/-! ## Fingerprints -/

namespace Platform

variable (p : Platform)

def operationFingerprint (parts : List String) : String :=
  p.sha256 (Framed.framed parts).toUTF8

def stableStringRecord : UnknownReplacements → List String
  | .notObject text => [text]
  | .object entries _ =>
    (entries.insertionSort fun left right => p.localeCompare left.1 right.1).flatMap fun entry => [entry.1, entry.2.toText]

variable {p} {history : Table BuildPackage.id} {active : Bool} {packageRequirements : List PackageRequirement}

/-- `selected.packages.flatMap((pkg) => [pkg.id, pkg.artifact.sha256])` -/
def Selected.names (selected : p.Selected history) : List String :=
  selected.selection.packages.flatMap fun pkg => [pkg.id, pkg.artifact.sha256]

/-- `Promise.all(upload.packages.map((item) => sha256File(item.path)))` -/
def Upload.packageHashes (upload : p.Upload active packageRequirements) : List String :=
  upload.packages.map fun file => p.sha256 file.content

/-- The content in each slot that is filled. -/
def Selected.slots (selected : p.Selected history) (slot : String) : Option ByteArray :=
  (selected.selection.packages.find? (·.key = slot)).map selected.content

def Upload.slots (upload : p.Upload active packageRequirements) (slot : String) : Option ByteArray :=
  (upload.packages.find? (·.field = slot)).map UploadedFile.content

end Platform

/-- What a request asks for. -/
inductive Work
  | packages (strategy : Option (String × Nat)) (slots : String → Option ByteArray)
  | update (strategyId : String) (expectedRevision : Option Nat) (slots : Option (String → Option (Option String)))

namespace Request

variable {p : Platform} {history : Table BuildPackage.id}

def operationType : Request p history → String
  | imageBuildSelection _ | imageBuildUpload _ _ => "image.build"
  | imageUpdate _ _ _ _ => "app.image.update"
  | versionSelection _ _ | versionUpload _ _ _ => "app.version.upload"

def resourceId : Request p history → String
  | imageBuildSelection selected => selected.strategy.id
  | imageBuildUpload strategy _ => strategy.id
  | imageUpdate appId _ _ _ | versionSelection appId _ | versionUpload appId _ _ => appId

def parts : Request p history → List String
  | imageBuildSelection selected => selected.strategy.id :: toString selected.strategy.revision :: selected.names
  | imageBuildUpload strategy upload => strategy.id :: toString strategy.revision :: upload.packageHashes
  | imageUpdate appId strategyId expectedRevision replacementPackageIds =>
    appId :: strategyId :: p.text expectedRevision :: p.stableStringRecord replacementPackageIds
  | versionSelection appId selected => appId :: selected.strategy.id :: toString selected.strategy.revision :: selected.names
  | versionUpload _ _ upload => upload.packageHashes

def requestFingerprint (r : Request p history) : String :=
  p.operationFingerprint r.parts

/-- The revision an update is for, unless it is refused. -/
def expected (expectedRevision : p.Num) : Option Nat :=
  (p.safeInteger expectedRevision).bind fun revision => (UpdateHost.normalizeRevision revision).toOption

def work : Request p history → Work
  | imageBuildSelection selected | versionSelection _ selected =>
    .packages (some (selected.strategy.id, selected.strategy.revision)) selected.slots
  | imageBuildUpload strategy upload => .packages (some (strategy.id, strategy.revision)) upload.slots
  | imageUpdate _ strategyId expectedRevision replacementPackageIds =>
    .update strategyId (expected expectedRevision) replacementPackageIds.asked
  | versionUpload _ _ upload => .packages none upload.slots

end Request

end OpenApp.Catalog
