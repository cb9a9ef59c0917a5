import OpenApp.Workspace.Types

/-!
# Apps, versions and images

An App has versions, each built from packages or imported as an image, and at most one of them is
active. A version names its image in its own words, a tag, a digest or the id of an image that a
build left as an artifact.
-/

namespace OpenApp

inductive AppStatus
  | active | archived
  deriving DecidableEq

structure AppDefinition where
  id : String
  name : String
  description : String
  authAdapterId : String
  status : AppStatus
  createdAt : String
  updatedAt : String
  deriving DecidableEq

inductive AppVersionStatus
  | legacy | uploaded | imageReady | active | archived
  deriving DecidableEq

structure AppArtifact where
  file : String
  sha256 : String
  size : Nat
  deriving DecidableEq

structure ImageBuildPackage where
  key : String
  artifact : AppArtifact
  packageId : Option String
  deriving DecidableEq

inductive SourceKind
  | packages | image
  deriving DecidableEq

structure AppVersion where
  sourceKind : Option SourceKind
  id : String
  appId : String
  revision : Option Nat
  version : String
  buildId : String
  packages : List ImageBuildPackage
  imageArtifactId : Option String
  imageReference : Option String
  runtimeContract : Option String
  status : AppVersionStatus
  createdAt : String
  activatedAt : Option String
  deriving DecidableEq

structure BuildPackageRequirement where
  key : String
  required : Bool
  deriving DecidableEq

/-- What a build keeps of its strategy. -/
structure BuildStrategy where
  runtimeContract : String
  packageRequirements : List BuildPackageRequirement
  deriving DecidableEq

/-- A package that was uploaded on its own. -/
structure BuildPackage where
  id : String
  strategyId : String
  key : String
  artifact : AppArtifact
  storageKey : String
  deriving DecidableEq

inductive ImageBuildStatus
  | queued | building | succeeded | failed | cancelled
  deriving DecidableEq

structure ImageBuild where
  id : String
  strategyId : String
  strategySnapshot : BuildStrategy
  sourceAppVersionId : Option String
  packages : List ImageBuildPackage
  status : ImageBuildStatus
  deriving DecidableEq

/-- What one successful build left. -/
structure ImageArtifact where
  id : String
  buildId : String
  imageReference : String
  imageId : String
  runtimeContract : String
  createdAt : String
  deriving DecidableEq

structure AppLaunchTarget where
  app : AppDefinition
  version : AppVersion
  imageReference : String
  deriving DecidableEq

end OpenApp
