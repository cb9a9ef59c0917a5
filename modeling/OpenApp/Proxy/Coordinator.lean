import OpenApp.Async.Prog
import OpenApp.Proxy.Handoff

/-!
# Logging in to the Apps

At a login the coordinator lets every App clean up, and gives the grant of the provider to one of them. The
Apps, the catalog and the callbacks of the caller are outside; each call of them may fail.
-/

namespace OpenApp.Proxy

open Script Async Async.Prog

/-- The grant and which of the callbacks the caller gave. -/
structure AppAuthLoginInput where
  credentialGrant : Option AuthCredentialGrant
  revokeCredentialGrant : Bool
  revokeOpaqueCredentialGrant : Bool
  revokeRefreshSession : Bool

structure AppAuthHandoffCoordinatorOptions where
  /-- whether the App of a user can be looked up -/
  resolveAppId : Bool
  defaultAppId : Option String
  /-- whether the Apps without credentials can be looked up -/
  resolveNoAuthApp : Bool

inductive HandoffOp
  | resolveAppId (userId : String)
  | resolveNoAuthApp (appId : String)
  /-- the Apps without credentials that the coordinator knows -/
  | hasNoAuthHandoff (appId : String)
  | setNoAuthHandoff (appId : String)
  /-- the login of the App registered under this id -/
  | onLogin (appId : String) (credentialGrant : Option AuthCredentialGrant)
  | revokeCredentialGrant (grant : AuthCredentialGrant)
  | revokeOpaqueCredentialGrant (grant : AuthCredentialGrant)
  | revokeRefreshSession (refreshToken : String)

abbrev HandoffOp.Answer : HandoffOp → Type
  | .resolveAppId _ => Option String
  | .resolveNoAuthApp _ => Bool
  | .hasNoAuthHandoff _ => Bool
  | .onLogin _ _ => List String
  | _ => Unit

inductive LoginFailure
  /-- `AppAuthHandoffError` -/
  | appAuth (code : String)
  | thrown (error : String)
  deriving DecidableEq

abbrev Login (α : Type) := Prog HandoffOp HandoffOp.Answer LoginFailure α

def AuthCredentialGrant.readLegacyRefreshToken (grant : AuthCredentialGrant) : Option String :=
  match grant.fields.get "refreshToken" with
  | some (.string value) => if truthy (trim value) then some value else none
  | _ => none

/-- The callback that gives a grant back; the reason is always that the login failed. -/
def AppAuthLoginInput.revocation (input : AppAuthLoginInput) (grant : AuthCredentialGrant) : Option HandoffOp :=
  if input.revokeCredentialGrant then some (.revokeCredentialGrant grant)
  else if input.revokeOpaqueCredentialGrant then some (.revokeOpaqueCredentialGrant grant)
  else if input.revokeRefreshSession then grant.readLegacyRefreshToken.map .revokeRefreshSession
  else none

def revokeNewGrantBestEffort (input : AppAuthLoginInput) : Login Unit :=
  match input.credentialGrant.bind input.revocation with
  | some op => tryCatch (await op >>= fun _ => pure ()) fun _ => pure ()
  | none => pure ()

/-- Whom a login is for: an App of the registry, or one without credentials. -/
inductive Selected
  | registered (appId : String)
  | noAuth (appId : String)
  deriving DecidableEq

/-- `NoAuthAppHandoff.onLogin` -/
def noAuthOnLogin (input : AppAuthLoginInput) : Login (List String) :=
  match input.credentialGrant.bind input.revocation with
  | some op => do
    let _ ← await op
    pure []
  | none => pure []

section Coordinator

variable (registry : AppAuthHandoffRegistry) (options : AppAuthHandoffCoordinatorOptions)

def materializeLogin (selected : Selected) (input : AppAuthLoginInput) : Login (List String) := do
  let others := registry.handoffs.filter fun entry => selected ≠ .registered entry.1
  let results ← each (fun entry => await (HandoffOp.onLogin entry.1 none)) others
  let last ← match selected with
    | .registered appId => await (HandoffOp.onLogin appId input.credentialGrant)
    | .noAuth _ => noAuthOnLogin input
  pure (results.flatten ++ last)

/-- `registerNoAuthApp` -/
def registerNoAuthApp (normalized : String) : Login Unit :=
  if (registry.get normalized).isSome then pure () else await (HandoffOp.setNoAuthHandoff normalized)

def requireAsync (appId : String) : Login Selected :=
  match normalizeAppIdOrUndefined appId with
  | none => throw (.appAuth "app_auth_handoff_not_registered")
  | some normalized =>
    if (registry.get normalized).isSome then pure (.registered normalized)
    else do
      if ← await (HandoffOp.hasNoAuthHandoff normalized) then pure (.noAuth normalized)
      else do
        throwIf (options.resolveNoAuthApp = false) (.appAuth "app_auth_handoff_not_registered")
        let found ← await (HandoffOp.resolveNoAuthApp normalized)
        throwIf (found = false) (.appAuth "app_auth_handoff_not_registered")
        registerNoAuthApp registry normalized
        pure (.noAuth normalized)

/-- The App that was resolved, or the default one, has to be known. -/
def knownApp (resolved : Option String) : Login String :=
  match (resolved <|> options.defaultAppId).filter truthy with
  | none => throw (.appAuth "app_auth_handoff_app_resolution_failed")
  | some appId =>
    match normalizeAppIdOrUndefined appId with
    | none => throw (.appAuth "app_auth_handoff_invalid_app_id")
    | some normalized => do
      let _ ← requireAsync registry options normalized
      pure normalized

def resolveAppIdForUser (userId : String) : Login String :=
  if options.resolveAppId then do
    let resolved ← await (HandoffOp.resolveAppId userId)
    knownApp registry options resolved
  else knownApp registry options none

/-- The Apps that take a grant. -/
def acceptors (grant : AuthCredentialGrant) : List (String × AppAuthHandoff) :=
  registry.handoffs.filter fun entry => entry.2.acceptsCredentialGrant.any fun accepts => accepts grant

/-- `#credentialConsumer` -/
def credentialConsumer (grant : AuthCredentialGrant) : Except LoginFailure (String × AppAuthHandoff) :=
  match acceptors registry grant with
  | [] => .error (.appAuth "app_auth_credential_consumer_missing")
  | [consumer] => .ok consumer
  | _ => .error (.appAuth "app_auth_credential_consumer_ambiguous")

/-- The App that takes the grant of a login, where it has one. -/
def consumerOf (input : AppAuthLoginInput) : Except LoginFailure (Option (String × AppAuthHandoff)) :=
  match input.credentialGrant with
  | some grant => (credentialConsumer registry grant).map some
  | none => .ok none

/-- The App that a login of the user is for. -/
def selectForUser (userId : String) (input : AppAuthLoginInput) : Login Selected := do
  let consumer ← fromExcept (consumerOf registry input)
  let resolvedApp ← resolveAppIdForUser registry options userId
  let resolved ← requireAsync registry options resolvedApp
  match consumer with
  | none => pure resolved
  | some (appId, handoff) =>
    if (registry.get resolvedApp).isSome then do
      -- the id of the App as it was written, not as it was registered
      throwIf (resolvedApp ≠ handoff.appId) (.appAuth "app_auth_credential_app_mismatch")
      pure resolved
    else pure (.registered appId)

def onLoginForUser (userId : String) (input : AppAuthLoginInput) : Login (List String) :=
  guarded (selectForUser registry options userId input >>= fun selected => materializeLogin registry selected input)
    (revokeNewGrantBestEffort input)

end Coordinator

end OpenApp.Proxy
