import OpenApp.Docker.Labels
import OpenApp.Docker.Rebuild
import OpenApp.Fallible
import OpenApp.Word

/-!
# The labels of a container

A container is created with the labels that say whose it is, what of the catalog it runs and which rebuild it
is the candidate of. Docker gives it the labels of its image too. An inspection reads them all.

A label argument is the pair of its key and its value.
-/

namespace OpenApp.Docker.ContainerLabels

open Fallible Script

def IDENTIFIER_PATTERN (value : String) : Bool :=
  isWord 127 value

def APP_ID_PATTERN (value : String) : Bool :=
  isLowerWord 63 value

/-- `/^[A-Za-z0-9][A-Za-z0-9._/:@-]{0,254}$/u` -/
def IMAGE_PATTERN (value : String) : Bool :=
  match value.toList with
  | [] => false
  | c :: cs => c.isAlphanum && cs.length ≤ 254 && cs.all fun c => isWordChar c || c = '/' || c = ':' || c = '@'

def requireIdentifier (value field : String) : Except String String :=
  if IDENTIFIER_PATTERN value then .ok value else .error s!"{field} must be an opaque server-issued identifier"

def requireAppId (value : String) : Except String String :=
  if APP_ID_PATTERN value then .ok value else .error "appId must be a normalized catalog identifier"

def requireDockerContainerId (value : String) : Except String String :=
  if DOCKER_CONTAINER_ID_PATTERN value then .ok (toLowerCase value)
  else .error "Docker returned an invalid managed container ID"

/-! ## What is written -/

abbrev LabelArg := String × String

/-- What the labels say of a request. -/
structure LabelledRequest where
  appId : Option String
  appVersionId : Option String
  imageArtifactId : Option String
  imageReference : Option String

def resourceLabelArgs (instanceId ownerId scheme : String) (role : Option String) (prefixes : List String) :
    List LabelArg :=
  let values := [("managed", "true"), ("instance-id", instanceId), ("owner-id", ownerId), ("resource-scheme", scheme)] ++
    ((role.filter truthy).map fun role => ("resource-role", role)).toList
  prefixes.flatMap fun labelPrefix => values.map fun (key, value) => (labelPrefix ++ "." ++ key, value)

/-- `if (value) labels.push(...)`, with the value checked. -/
def optionalLabelArg (value : Option String) (check : String → Except String String) (key : String) :
    Except String (List LabelArg) :=
  match value.filter truthy with
  | none => .ok []
  | some value => do
    let value ← check value
    return [(key, value)]

def catalogSnapshotLabelArgs (snapshot : ContainerCatalogSnapshot) (part labelPrefix : String) :
    Except String (List LabelArg) := do
  let appId ← requireAppId snapshot.appId
  refuseIf (IMAGE_PATTERN snapshot.imageReference = false) "catalog snapshot image reference is invalid"
  let appVersionId ← optionalLabelArg snapshot.appVersionId (requireIdentifier · "appVersionId")
    (labelPrefix ++ "." ++ (part ++ "app-version-id"))
  let imageArtifactId ← optionalLabelArg snapshot.imageArtifactId (requireIdentifier · "imageArtifactId")
    (labelPrefix ++ "." ++ (part ++ "image-artifact-id"))
  return [(labelPrefix ++ "." ++ (part ++ "catalog-snapshot"), "true"),
    (labelPrefix ++ "." ++ (part ++ "app-id"), appId),
    (labelPrefix ++ "." ++ (part ++ "image-reference"), snapshot.imageReference)] ++ appVersionId ++ imageArtifactId

def rebuildLabelArgs (rebuild : Option RebuildContainerMetadata) (labelPrefix : String) : Except String (List LabelArg) :=
  match rebuild with
  | none => .ok []
  | some rebuild => do
    let source ← (rebuild.sourceCatalogSnapshot.map fun snapshot =>
      catalogSnapshotLabelArgs snapshot "rebuild-source-" labelPrefix).getD (.ok [])
    return [(labelPrefix ++ "." ++ "rebuild-id", rebuild.id),
      (labelPrefix ++ "." ++ "rebuild-predecessor-id", rebuild.predecessorId),
      (labelPrefix ++ "." ++ "rebuild-role", "candidate"),
      (labelPrefix ++ "." ++ "rebuild-start-requested", toString rebuild.startRequested)] ++ source

/-- `labelPrefix` is the first of `labelPrefixes`. -/
def containerLabelArgs (labelPrefix : String) (labelPrefixes : List String) (scheme instanceId ownerId : String)
    (request : LabelledRequest) (rebuild : Option RebuildContainerMetadata) : Except String (List LabelArg) := do
  let labels := resourceLabelArgs instanceId ownerId scheme none labelPrefixes
  let appId ← optionalLabelArg request.appId requireAppId (labelPrefix ++ "." ++ "app-id")
  let appVersionId ← optionalLabelArg request.appVersionId (requireIdentifier · "appVersionId")
    (labelPrefix ++ "." ++ "app-version-id")
  let imageArtifactId ← optionalLabelArg request.imageArtifactId (requireIdentifier · "imageArtifactId")
    (labelPrefix ++ "." ++ "image-artifact-id")
  let imageReference ← optionalLabelArg request.imageReference
    (fun reference => if IMAGE_PATTERN reference then .ok reference else .error "image reference label is invalid")
    (labelPrefix ++ "." ++ "image-reference")
  let marker := if request.appId.any truthy ∧ request.imageReference.any truthy
    then [(labelPrefix ++ "." ++ "catalog-snapshot", "true")] else []
  let rebuild ← rebuildLabelArgs rebuild labelPrefix
  return labels ++ appId ++ appVersionId ++ imageArtifactId ++ imageReference ++ marker ++ rebuild

/-- A container has the labels of its image, those of the arguments in their place; of one key the last counts. -/
def containerLabels (image : String → Option String) (args : List LabelArg) : String → Option String :=
  args.foldl (fun labels arg => Function.update labels arg.1 (some arg.2)) image

/-! ## What is read -/

def catalogSnapshotMetadata (labels : Labels) (part : String) (labelPrefixes : List String) :
    Except String (Option ContainerCatalogSnapshot) :=
  match resourceLabel labels (part ++ "catalog-snapshot") labelPrefixes with
  | none => .ok none
  | some marker => do
    refuseIf (marker ≠ "true") "managed container catalog snapshot marker is invalid"
    match (resourceLabel labels (part ++ "app-id") labelPrefixes).filter truthy,
        (resourceLabel labels (part ++ "image-reference") labelPrefixes).filter IMAGE_PATTERN with
    | some appId, some imageReference => do
      let appId ← requireAppId appId
      let appVersionId ← ((resourceLabel labels (part ++ "app-version-id") labelPrefixes).filter truthy).mapM
        (requireIdentifier · "appVersionId")
      let imageArtifactId ← ((resourceLabel labels (part ++ "image-artifact-id") labelPrefixes).filter truthy).mapM
        (requireIdentifier · "imageArtifactId")
      return some { appId, appVersionId, imageArtifactId, imageReference }
    | _, _ => .error "managed container catalog snapshot is incomplete"

def rebuildMetadata (labels : Labels) (labelPrefixes : List String) : Except String (Option RebuildContainerMetadata) :=
  let id := resourceLabel labels "rebuild-id" labelPrefixes
  let predecessorId := resourceLabel labels "rebuild-predecessor-id" labelPrefixes
  let role := resourceLabel labels "rebuild-role" labelPrefixes
  let startRequested := resourceLabel labels "rebuild-start-requested" labelPrefixes
  if [id, predecessorId, role, startRequested].all (·.isNone) then .ok none
  else match id.filter truthy, predecessorId.filter truthy with
    | some id, some predecessorId => do
      refuseIf (role ≠ some "candidate" ∨ startRequested ≠ some "true" ∧ startRequested ≠ some "false")
        "managed rebuild metadata is incomplete"
      let sourceCatalogSnapshot ← catalogSnapshotMetadata labels "rebuild-source-" labelPrefixes
      let id ← requireIdentifier id "rebuildId"
      let predecessorId ← requireDockerContainerId predecessorId
      return some { id, predecessorId, startRequested := startRequested = some "true", sourceCatalogSnapshot }
    | _, _ => .error "managed rebuild metadata is incomplete"

end OpenApp.Docker.ContainerLabels
