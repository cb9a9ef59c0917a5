import OpenApp.Policy.InstancePolicy
import OpenApp.Proxy.Cookies

/-!
# Which cookies belong to whom

Every App may have cookies of its own on the host. A registry is accepted at the start only if no cookie
has two owners and none is that of the portal; from then on the options of the proxy keep the cookies of
an App from every other one.
-/

namespace OpenApp.Proxy

open Script

structure AppAuthProxyInput where
  instanceId : String
  secureCookies : Bool

/-- What a provider hands out at a login; only the provider and an App look into its fields. -/
structure AuthCredentialGrant where
  kind : String
  provider : String
  expiresAt : Option String
  fields : Map Policy.Json

structure AppAuthHandoff where
  appId : String
  managedCookieNames : List String
  proxyOptions : AppAuthProxyInput → ProxyOptions
  acceptsCredentialGrant : Option (AuthCredentialGrant → Bool) := none

/-- The error's code. -/
abbrev Handoff (α : Type) := Except String α

/-- The characters of a token. -/
def isTokenChar (c : Char) : Bool :=
  c.isAlphanum || "!#$%&'*+-.^_\x60|~".toList.contains c

def validateCookieName (value : String) : Handoff String :=
  let name := trim value
  if truthy name ∧ name.toList.all isTokenChar = true then .ok name else .error "app_auth_handoff_invalid_cookie_name"

def normalizeAppIdOrUndefined (value : String) : Option String :=
  let appId := toLowerCase (trim value)
  if Policy.validAppId appId then some appId else none

def normalizeAppId (value : String) : Handoff String :=
  match normalizeAppIdOrUndefined value with
  | some appId => .ok appId
  | none => .error "app_auth_handoff_invalid_app_id"

structure AppAuthHandoffRegistry where
  portalCookieName : String
  handoffs : List (String × AppAuthHandoff)
  /-- the cookies that are owned, and their owners -/
  cookieOwners : List (String × AppAuthHandoff)

namespace AppAuthHandoffRegistry

/-- The cookies of an App are added to those that are owned. -/
def addCookies (portalCookieName : String) (handoff : AppAuthHandoff) :
    List String → List (String × AppAuthHandoff) → Handoff (List (String × AppAuthHandoff))
  | [], cookieOwners => .ok cookieOwners
  | rawCookieName :: names, cookieOwners => do
    let cookieName ← validateCookieName rawCookieName
    if toLowerCase cookieName = toLowerCase portalCookieName then .error "app_auth_handoff_portal_cookie_conflict"
    else if cookieOwners.any fun owner => toLowerCase owner.1 = toLowerCase cookieName then
      .error "app_auth_handoff_duplicate_cookie_name"
    else addCookies portalCookieName handoff names (cookieOwners ++ [(cookieName, handoff)])

def addHandoffs : List AppAuthHandoff → AppAuthHandoffRegistry → Handoff AppAuthHandoffRegistry
  | [], registry => .ok registry
  | handoff :: rest, registry => do
    let appId ← normalizeAppId handoff.appId
    if registry.handoffs.any fun entry => entry.1 = appId then .error "app_auth_handoff_duplicate_app_id"
    else do
      let cookieOwners ←
        addCookies registry.portalCookieName handoff handoff.managedCookieNames registry.cookieOwners
      addHandoffs rest
        { registry with handoffs := registry.handoffs ++ [(appId, handoff)], cookieOwners := cookieOwners }

/-- The constructor -/
def create (portalCookieName : String) (handoffs : List AppAuthHandoff) : Handoff AppAuthHandoffRegistry := do
  let portalCookieName ← validateCookieName portalCookieName
  addHandoffs handoffs ⟨portalCookieName, [], []⟩

def get (registry : AppAuthHandoffRegistry) (appId : String) : Option AppAuthHandoff := do
  let normalized ← normalizeAppIdOrUndefined appId
  (registry.handoffs.find? fun entry => entry.1 = normalized).map Prod.snd

def managedCookieNames (registry : AppAuthHandoffRegistry) : List String :=
  registry.cookieOwners.map Prod.fst

end AppAuthHandoffRegistry

/-- An App without cookies. -/
def noAuthAppHandoff (appId : String) : AppAuthHandoff where
  appId := appId
  managedCookieNames := []
  proxyOptions _ := {}

/-- The handoff of an App; `noAuth` are the Apps that were registered without one. -/
def requireHandoff (registry : AppAuthHandoffRegistry) (noAuth : List String) (appId : String) : Handoff AppAuthHandoff :=
  match normalizeAppIdOrUndefined appId with
  | none => .error "app_auth_handoff_not_registered"
  | some normalized =>
    match registry.get normalized with
    | some handoff => .ok handoff
    | none =>
      if normalized ∈ noAuth then .ok (noAuthAppHandoff normalized) else .error "app_auth_handoff_not_registered"

/-- Of two names that differ in case only, the later one is kept at the place of the first. -/
def mergeCookieNames (required : List String) (additional : Option (List String)) : List String :=
  let names := ((required ++ additional.getD []).map trim).filter truthy
  (names.foldl (fun (merged : Map String) name => merged.set (toLowerCase name) name) ⟨[]⟩).values

/-- The cookies of the portal and of the other Apps. -/
def blockedCookieNames (registry : AppAuthHandoffRegistry) (handoff : AppAuthHandoff) : List String :=
  registry.portalCookieName :: registry.managedCookieNames.filter fun name =>
    !handoff.managedCookieNames.any fun owned => toLowerCase owned = toLowerCase name

/-- `#proxyOptionsFor` -/
def proxyOptionsFor (registry : AppAuthHandoffRegistry) (handoff : AppAuthHandoff) (input : AppAuthProxyInput) :
    Handoff ProxyOptions :=
  let blocked := blockedCookieNames registry handoff
  let adapterOptions := handoff.proxyOptions input
  let managedNames := handoff.managedCookieNames.map toLowerCase
  let rootNames := (adapterOptions.rootScopedCookieNames.getD []).map toLowerCase
  if (adapterOptions.rootScopedCookieNames.getD []).any fun name => !managedNames.contains (toLowerCase name) then
    .error "app_auth_handoff_unmanaged_root_cookie"
  else
    match (adapterOptions.httpOnlyRootScopedCookieNames.getD []).find? fun name =>
        !managedNames.contains (toLowerCase name) || !rootNames.contains (toLowerCase name) with
    | some name =>
      if !managedNames.contains (toLowerCase name) then .error "app_auth_handoff_unmanaged_http_only_cookie"
      else .error "app_auth_handoff_http_only_cookie_not_root_scoped"
    | none => .ok { adapterOptions with
        secureRootScopedCookies := some (input.secureCookies || adapterOptions.secureRootScopedCookies = some true)
        stripCookieNames := some (mergeCookieNames blocked adapterOptions.stripCookieNames)
        stripResponseCookieNames := some (mergeCookieNames blocked adapterOptions.stripResponseCookieNames) }

end OpenApp.Proxy
