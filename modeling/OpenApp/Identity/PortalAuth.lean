import OpenApp.Async.Interleave
import OpenApp.Identity.Memory

/-!
# Passwords and sessions

A user logs in with a password, and may set it up or change it. Looking up the hash, checking the password, writing
the new hash and storing the session are calls of their own. What a password hashes to, whether it fits a hash, random
tokens, the time and the answers of the providers are choices of the run; a call to the outside may fail.
-/

namespace OpenApp.Identity

open Script Async Async.Prog

/-- A `PortalAuthError`, the code of an `AccountCredentialError`, a failure of the store, or any other message. -/
inductive AuthFailure
  | portalAuth (status : Nat) (code : String)
  | credential (code : String)
  | identity (failure : IdentityFailure)
  | thrown (message : String)
  deriving DecidableEq

inductive LocalAuthOperation
  | login | passwordSetup | passwordChange | externalPasswordChange
  deriving DecidableEq

/-- The configuration, the hash of a token, and how the failures of the providers are reported. -/
structure PortalAuth where
  sessionTtlHours : Nat
  hashToken : String → String
  isProviderFailure : AuthFailure → Bool
  mapAuthError : AuthFailure → Nat × String

structure AuthIdentity where
  provider : String
  subject : String

inductive AuthOp
  | now
  | randomToken
  /-- `LocalAuthRateLimiter.consume` -/
  | consume (operation : LocalAuthOperation) (source account : String)
  | hashLocalPassword (password : String)
  | verifyLocalPassword (password encoded : String)
  | verifyIdentityWithEphemeralLogin (providerId email code : String)
  | findUserByEmail (email : String)
  | findUserByIdentity (provider subject : String)
  | getLocalPasswordHash (userId : String)
  | getAccountAuthState (userId : String)
  | createLocalPasswordHash (userId passwordHash : String)
  | replaceLocalPasswordHash (userId expectedHash passwordHash : String)
  | saveSession (tokenHash userId : String) (expiresAt : Timestamp) (authMethod : String)
  | deleteSession (tokenHash : String)
  deriving DecidableEq

abbrev AuthOp.Answer : AuthOp → Type
  | .now => Timestamp
  | .randomToken => String
  | .consume _ _ _ => Bool
  | .hashLocalPassword _ => String
  | .verifyLocalPassword _ _ => Bool
  | .verifyIdentityWithEphemeralLogin _ _ _ => AuthIdentity
  | .findUserByEmail _ => Option User
  | .findUserByIdentity _ _ => Option User
  | .getLocalPasswordHash _ => Option String
  | .getAccountAuthState _ => AccountAuthState
  | .createLocalPasswordHash _ _ => Bool
  | .replaceLocalPasswordHash _ _ _ => Bool
  | .saveSession _ _ _ _ => Unit
  | .deleteSession _ => Unit

abbrev Auth (α : Type) := Prog AuthOp AuthOp.Answer AuthFailure α

abbrev AuthExchanges := Trace AuthOp AuthOp.Answer AuthFailure

namespace Auth

abbrev ask (o : AuthOp) : Auth o.Answer := await o

/-! ## Texts -/

/-- `/^[^\s@]+@[^\s@]+\.[^\s@]+$/u` -/
def validEmail (email : String) : Bool :=
  let (account, rest) := email.toList.span (· ≠ '@')
  let domain := rest.tail
  account ≠ [] && (account ++ domain).all (fun c => !isWhitespace c) && !domain.contains '@' &&
    domain.tail.dropLast.contains '.'

/-- An email that is none is empty. -/
def readEmail (value : Option String) : String :=
  let email := normalizeEmail (value.getD "")
  if validEmail email then email else ""

def validateLocalPassword : Option String → Except String String
  | none => .error "password_required"
  | some value =>
    if value.length < 12 then .error "password_too_short"
    else if value.utf8ByteSize > 256 then .error "password_too_long"
    else .ok value

def readPassword (value : Option String) : Auth String :=
  match validateLocalPassword value with
  | .ok password => pure password
  | .error code => throw (.credential code)

def credentialStatus (code : String) : Nat :=
  if code ∈ ["password_required", "password_too_short", "password_too_long", "verification_code_required"] then 400
  else if code = "invalid_current_password" then 401
  else if code ∈ ["password_setup_not_allowed", "external_password_change_not_allowed", "external_identity_not_linked",
    "external_identity_mismatch"] then 403
  else if code ∈ ["password_already_set", "local_credentials_required", "credential_update_conflict"] then 409
  else 400

/-! ## Credentials -/

/-- `AccountCredentials.project` -/
def project (user : User) (authMethod : String) : Auth AuthenticatedUser := do
  let state ← ask (.getAccountAuthState user.id)
  pure
    { user := user
      authMethod := authMethod
      passwordSetupRequired := !state.hasLocalCredential
      linkedProviders := state.externalProviders }

def setup (user : AuthenticatedUser) (newPassword : Option String) : Auth User := do
  throwIf (user.authMethod = "local" ∨ user.authMethod = "cli") (.credential "password_setup_not_allowed")
  let state ← ask (.getAccountAuthState user.user.id)
  throwIf (state.hasLocalCredential = true) (.credential "password_already_set")
  throwIf (truthy user.authMethod = false ∨ user.authMethod ∉ state.externalProviders)
    (.credential "external_identity_not_linked")
  let password ← readPassword newPassword
  let passwordHash ← ask (.hashLocalPassword password)
  let created ← ask (.createLocalPasswordHash user.user.id passwordHash)
  throwIf (created = false) (.credential "password_already_set")
  pure user.user

/-- The hash is compared with the password only where there is one. -/
def verified (password : String) : Option String → Auth Bool
  | some passwordHash => if truthy passwordHash then ask (.verifyLocalPassword password passwordHash) else pure false
  | none => pure false

def changeWithCurrentPassword (user : AuthenticatedUser) (currentPassword newPassword : Option String) : Auth User := do
  let currentHash ← ask (.getLocalPasswordHash user.user.id)
  let fits ← verified (currentPassword.getD "") currentHash
  throwIf (fits = false) (.credential "invalid_current_password")
  let password ← readPassword newPassword
  let passwordHash ← ask (.hashLocalPassword password)
  let replaced ← ask (.replaceLocalPasswordHash user.user.id (currentHash.getD "") passwordHash)
  throwIf (replaced = false) (.credential "credential_update_conflict")
  pure user.user

def assertExternalChangeAllowed (user : AuthenticatedUser) (providerId : String) : Auth AccountAuthState := do
  throwIf (isManagementRole user.user.role = true) (.credential "external_password_change_not_allowed")
  let state ← ask (.getAccountAuthState user.user.id)
  throwIf (providerId ∉ state.externalProviders) (.credential "external_identity_not_linked")
  pure state

/-- The hash that a change replaces, where the account has one. -/
def currentHashOf (userId : String) (state : AccountAuthState) : Auth (Option String) :=
  if state.hasLocalCredential then do
    let currentHash ← ask (.getLocalPasswordHash userId)
    throwIf ((currentHash.filter truthy).isNone = true) (.credential "credential_update_conflict")
    pure currentHash
  else pure none

def writeHash (userId passwordHash : String) : Option String → Auth Bool
  | some currentHash => ask (.replaceLocalPasswordHash userId currentHash passwordHash)
  | none => ask (.createLocalPasswordHash userId passwordHash)

def changeWithExternal (user : AuthenticatedUser) (providerId : String) (codeInput newPassword : Option String) :
    Auth User := do
  let state ← assertExternalChangeAllowed user providerId
  let code := trim (codeInput.getD "")
  throwIf (truthy code = false ∨ utf16Length code > 256) (.credential "verification_code_required")
  let identity ← ask (.verifyIdentityWithEphemeralLogin providerId user.user.email code)
  let identityUser ← ask (.findUserByIdentity identity.provider identity.subject)
  throwIf (identityUser.map User.id ≠ some user.user.id) (.credential "external_identity_mismatch")
  let currentHash ← currentHashOf user.user.id state
  let password ← readPassword newPassword
  let passwordHash ← ask (.hashLocalPassword password)
  let updated ← writeHash user.user.id passwordHash currentHash
  throwIf (updated = false) (.credential "credential_update_conflict")
  pure user.user

/-! ## The portal -/

/-- With the token that the cookie carries. -/
structure PortalLoginResult where
  user : AuthenticatedUser
  isNewUser : Bool
  provider : String
  token : String

variable (portal : PortalAuth)

def consumeLocalAuthAttempt (operation : LocalAuthOperation) (source email : String) : Auth Unit := do
  let allowed ← ask (.consume operation source email)
  throwIf (allowed = false) (.portalAuth 429 "rate_limited")

def authenticateLocal (emailInput passwordInput : Option String) (source : String) : Auth User := do
  let email := readEmail emailInput
  throwIf (truthy email = false) (.portalAuth 400 "valid_email_required")
  consumeLocalAuthAttempt .login source email
  match ← ask (.findUserByEmail email) with
  | none => throw (.portalAuth 401 "invalid_credentials")
  | some user => do
    let passwordHash ← ask (.getLocalPasswordHash user.id)
    let fits ← verified (passwordInput.getD "") passwordHash
    throwIf (fits = false) (.portalAuth 401 "invalid_credentials")
    pure user

def issueSession (user : User) (authMethod : String) (isNewUser : Bool) : Auth PortalLoginResult := do
  let projectedUser ← project user authMethod
  let token ← ask .randomToken
  let now ← ask .now
  ask (.saveSession (portal.hashToken token) user.id (now + portal.sessionTtlHours * 3600000) authMethod)
  pure { user := projectedUser, isNewUser := isNewUser, provider := authMethod, token := token }

def loginLocal (emailInput passwordInput : Option String) (source : String) : Auth PortalLoginResult := do
  let user ← authenticateLocal emailInput passwordInput source
  issueSession portal user "local" false

/-- What a failure of a change of credentials is reported as. -/
def reported (failure : AuthFailure) : AuthFailure :=
  match failure with
  | .credential code => .portalAuth (credentialStatus code) code
  | failure =>
    if portal.isProviderFailure failure then .portalAuth (portal.mapAuthError failure).1 (portal.mapAuthError failure).2
    else failure

def runCredentialOperation {α : Type} (operation : Auth α) : Auth α :=
  tryCatch operation fun failure => throw (reported portal failure)

def readSessionAuthMethod (user : AuthenticatedUser) : Auth String := do
  throwIf (user.authMethod = "cli") (.portalAuth 403 "password_setup_not_allowed")
  pure user.authMethod

def setupPassword (user : AuthenticatedUser) (newPassword : Option String) (source : String) : Auth PortalLoginResult := do
  consumeLocalAuthAttempt .passwordSetup source user.user.email
  let updated ← runCredentialOperation portal (setup user newPassword)
  let authMethod ← readSessionAuthMethod user
  issueSession portal updated authMethod false

def changePassword (user : AuthenticatedUser) (currentPassword newPassword : Option String) (source : String) :
    Auth PortalLoginResult := do
  consumeLocalAuthAttempt .passwordChange source user.user.email
  let updated ← runCredentialOperation portal (changeWithCurrentPassword user currentPassword newPassword)
  issueSession portal updated "local" false

def changePasswordWithExternal (user : AuthenticatedUser) (providerId : String) (code newPassword : Option String)
    (source : String) : Auth PortalLoginResult := do
  consumeLocalAuthAttempt .externalPasswordChange source user.user.email
  let updated ← runCredentialOperation portal (changeWithExternal user providerId code newPassword)
  issueSession portal updated providerId false

/-- With the token of the request, where it has one. -/
def logout (token : Option String) : Auth Unit :=
  match token.filter truthy with
  | some token => ask (.deleteSession (portal.hashToken token))
  | none => pure ()

end Auth

/-! ## The world -/

inductive AuthChoice
  | go
  | fails (failure : AuthFailure)
  | text (value : String)
  | flag (value : Bool)
  | time (at' : Timestamp)
  | identity (identity : AuthIdentity)

namespace MemoryStore

variable (s : MemoryStore)

/-- An operation of the store, for one who awaits it. -/
def awaited {α : Type} (outcome : Outcome α) : Except AuthFailure α × MemoryStore :=
  (outcome.1.mapError .identity, outcome.2)

/-- What a call of the store returns and leaves. -/
def answer : (o : AuthOp) → Option (Except AuthFailure o.Answer × MemoryStore)
  | .findUserByEmail email => some (.ok (s.findUserByEmail email), s)
  | .findUserByIdentity provider subject => some (.ok (s.findUserByIdentity provider subject), s)
  | .getLocalPasswordHash userId => some (.ok (s.getLocalPasswordHash userId), s)
  | .getAccountAuthState userId => some (awaited (s.getAccountAuthState userId, s))
  | .createLocalPasswordHash userId passwordHash => some (awaited (s.createLocalPasswordHash userId passwordHash))
  | .replaceLocalPasswordHash userId expectedHash passwordHash =>
    some (awaited (s.replaceLocalPasswordHash userId expectedHash passwordHash))
  | .saveSession tokenHash userId expiresAt authMethod => some (.ok (), s.saveSession tokenHash userId expiresAt authMethod)
  | .deleteSession tokenHash => some (.ok (), s.deleteSession tokenHash)
  | _ => none

/-- What a call is told from outside. -/
def toldTo : (o : AuthOp) → AuthChoice → Option o.Answer
  | .now, .time at' => some at'
  | .randomToken, .text value => some value
  | .consume _ _ _, .flag value => some value
  | .hashLocalPassword _, .text value => some value
  | .verifyLocalPassword _ _, .flag value => some value
  | .verifyIdentityWithEphemeralLogin _ _ _, .identity identity => some identity
  | _, _ => none

def perform (o : AuthOp) : AuthChoice → Option (Except AuthFailure o.Answer × MemoryStore)
  | .go => s.answer o
  | .fails failure => some (.error failure, s)
  | x => (toldTo o x).map fun a => (.ok a, s)

end MemoryStore

/-! ## Threads -/

inductive AuthCall
  | loginLocal (email password : Option String) (source : String)
  | setupPassword (user : AuthenticatedUser) (newPassword : Option String) (source : String)
  | changePassword (user : AuthenticatedUser) (currentPassword newPassword : Option String) (source : String)
  | changePasswordWithExternal (user : AuthenticatedUser) (providerId : String) (code newPassword : Option String)
    (source : String)
  | logout (token : Option String)

def AuthCall.run (portal : PortalAuth) : AuthCall → Auth (Option Auth.PortalLoginResult)
  | .loginLocal email password source => some <$> Auth.loginLocal portal email password source
  | .setupPassword user newPassword source => some <$> Auth.setupPassword portal user newPassword source
  | .changePassword user currentPassword newPassword source =>
    some <$> Auth.changePassword portal user currentPassword newPassword source
  | .changePasswordWithExternal user providerId code newPassword source =>
    some <$> Auth.changePasswordWithExternal portal user providerId code newPassword source
  | .logout token => (fun _ => none) <$> Auth.logout portal token

/-- Each thread makes one call. -/
def authSystem (portal : PortalAuth) :
    System AuthOp AuthOp.Answer AuthFailure MemoryStore AuthChoice AuthCall (Option Auth.PortalLoginResult) where
  perform := MemoryStore.perform
  body call := Sum.inr <$> call.run portal

end OpenApp.Identity
