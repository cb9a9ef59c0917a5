import OpenApp.Keyed
import OpenApp.Proxy.Cookies

/-!
# What is sent on to a workspace

The headers of a browser are sent on without those of the connection and of the portal; its cookies are
filtered by their names; and the headers of the provider take the place of any of the same name.
-/

namespace OpenApp.Proxy

open Keyed Script

inductive HeaderValue
  | one (value : String)
  | many (values : List String)

/-- `String(value)` -/
def HeaderValue.text : HeaderValue → String
  | .one value => value
  | .many values => ",".intercalate values

/-- Headers under their names; a header may be set to nothing. -/
abbrev Headers := Table (Prod.fst : String × Option HeaderValue → String)

namespace Headers

/-- The value of a header, if it has one. -/
def value (headers : Headers) (name : String) : Option HeaderValue :=
  (headers.get name).bind Prod.snd

def set (headers : Headers) (name : String) (value : Option HeaderValue) : Headers :=
  headers.put (name, value)

end Headers

/-- The headers of a request, which have their names in lower case. -/
structure IncomingHeaders where
  headers : Headers
  lower : ∀ row ∈ headers.rows, toLowerCase row.1 = row.1

def HOP_BY_HOP : List String :=
  ["connection", "keep-alive", "proxy-authenticate", "proxy-authorization", "te", "trailer", "transfer-encoding",
    "upgrade"]

def CONTROL_PLANE_HEADERS : List String := ["authorization", "x-openapp-admin-token"]

/-- The name of a pair; `none` where there is no sign, or nothing before it. -/
def pairName (part : List Char) : Option (List Char) :=
  let name := part.takeWhile (· ≠ '=')
  if '=' ∈ part ∧ name ≠ [] then some name else none

def filterCookieHeader (value : String) (names : List String) : String :=
  let excluded := normalizedNameSet (some names)
  let kept := ((splitCookie value.toList).map trimText).filter fun part =>
    match pairName part with
    | some name => !excluded.contains (toLowerCase (trim (String.ofList name)))
    | none => false
  .ofList ([';', ' '].intercalate kept)

def filterRequestCookies (headers : Headers) (options : ProxyOptions) : Headers :=
  if options.stripRequestCookies = some true then headers.delete "cookie"
  else
    match headers.value "cookie", options.stripCookieNames with
    | some cookies, some (name :: names) =>
      if truthy cookies.text then
        let cookie := filterCookieHeader cookies.text (name :: names)
        if truthy cookie then headers.set "cookie" (some (.one cookie)) else headers.delete "cookie"
      else headers
    | _, _ => headers

/-- A header takes the place of every other one whose name differs in case only. -/
def setHeader (headers : Headers) (name value : String) : Headers :=
  Headers.set (headers.keep fun row => toLowerCase row.1 ≠ toLowerCase name) (toLowerCase name) (some (.one value))

/-- What comes of the browser's headers. -/
def browserHeaders (request : IncomingHeaders) : Headers :=
  request.headers.keep fun row =>
    !HOP_BY_HOP.contains (toLowerCase row.1) && !CONTROL_PLANE_HEADERS.contains (toLowerCase row.1) && row.2.isSome

/-- The headers the proxy sets itself. -/
def proxyHeaders (request : IncomingHeaders) (targetHost : String) (options : ProxyOptions) (upgrade : Bool)
    (headers : Headers) : Headers :=
  let headers := headers.set "host" (some (.one (options.upstreamHost.getD targetHost)))
  let headers := headers.set "x-forwarded-host" (request.headers.value "host")
  let headers := headers.set "x-forwarded-proto" (some ((request.headers.value "x-forwarded-proto").getD (.one "http")))
  if upgrade then
    (headers.set "connection" (some (.one "Upgrade"))).set "upgrade"
      (some ((request.headers.value "upgrade").getD (.one "websocket")))
  else headers

def buildRequestHeaders (request : IncomingHeaders) (targetHost : String) (options : ProxyOptions) (upgrade : Bool) :
    Headers :=
  let headers := filterRequestCookies (browserHeaders request) options
  let headers := (options.upstreamHeaders.getD []).foldl (fun headers header => setHeader headers header.1 header.2) headers
  proxyHeaders request targetHost options upgrade headers

/-! ## The provider -/

def FORBIDDEN_PROVIDER_HEADERS : List String :=
  ["connection", "cookie", "host", "keep-alive", "proxy-authenticate", "proxy-authorization", "set-cookie", "te",
    "trailer", "transfer-encoding", "upgrade", "x-forwarded-host", "x-forwarded-proto", "x-openapp-admin-token"]

def isHeaderName (name : String) : Bool :=
  truthy name && name.toList.all fun c => c.isAlphanum || "!#$%&'*+.^_\x60|~-".toList.contains c

/-- The headers a provider may give, one after the other. -/
def addTrustedHeaders : List (String × String) → List (String × String) → Option (List (String × String))
  | trusted, [] => some trusted
  | trusted, (rawName, value) :: rest =>
    let name := toLowerCase (trim rawName)
    if !isHeaderName name || FORBIDDEN_PROVIDER_HEADERS.contains name || (trusted.map Prod.fst).contains name
        || 8192 < utf16Length value || value.toList.any (fun c => c = '\r' || c = '\n') then none
    else addTrustedHeaders (trusted ++ [(name, value)]) rest

def trustedHeaders (headers : List (String × String)) : Option (List (String × String)) :=
  if 64 < headers.length then none else addTrustedHeaders [] headers

/-- What a workspace may be reached by. -/
structure AccessTarget where
  authority : Option String
  headers : Option (List (String × String))

/-- The options of a request to a workspace: those of its App, and what the provider says. -/
def workspaceOptions (handoff : ProxyOptions) (target : AccessTarget) : ProxyOptions :=
  { handoff with
    upstreamHost := target.authority.or handoff.upstreamHost
    upstreamHeaders := target.headers }

end OpenApp.Proxy
