import Mathlib.Data.List.Basic
import OpenApp.Script

/-!
# Cookies on their way through the proxy

Of what a browser sends, the cookies of the portal and of other Apps are taken out. Of what a workspace
sets, every cookie loses its domain; it is kept under the path of its instance, or, where the App is known
to share it, written anew for the whole host. All of this is done on the text of a header.
-/

namespace OpenApp.Proxy

open Script

/-- The options the proxy is given that its headers depend on. -/
structure ProxyOptions where
  upstreamHost : Option String := none
  upstreamHeaders : Option (List (String × String)) := none
  stripRequestCookies : Option Bool := none
  stripCookieNames : Option (List String) := none
  stripResponseCookieNames : Option (List String) := none
  rootScopedCookieNames : Option (List String) := none
  httpOnlyRootScopedCookieNames : Option (List String) := none
  secureRootScopedCookies : Option Bool := none

structure ResponseCookiePolicy where
  normalizedPrefix : String
  rootScopedNames : List String
  httpOnlyRootScopedNames : List String
  strippedNames : List String
  secureRootScopedCookies : Bool

/-! ## Patterns -/

/-- A letter in the one case a pattern has; the long s and the Kelvin sign are letters of ASCII to it. -/
def fold (c : Char) : Char :=
  if c.toNat = 0x17f then 's' else if c.toNat = 0x212a then 'k' else c.toLower

/-- A text at the start of another, whatever the case: what was matched, and what follows. -/
def matchText : List Char → List Char → Option (List Char × List Char)
  | [], cs => some ([], cs)
  | _ :: _, [] => none
  | a :: text, c :: cs => if fold c = a then (matchText text cs).map fun m => (c :: m.1, m.2) else none

/-- `\s*name=`, after a semicolon -/
def matchAttribute (name cs : List Char) : Option (List Char × List Char) :=
  (matchText (name ++ ['=']) (cs.dropWhile isWhitespace)).map fun m => (cs.takeWhile isWhitespace ++ m.1, m.2)

/-- `value.replace(/;\s*domain=[^;]*/giu, "")`, at a place that is dropped or not -/
def removeDomains : Bool → List Char → List Char
  | _, [] => []
  | dropping, c :: cs =>
    if c = ';' then
      if (matchAttribute "domain".toList cs).isSome then removeDomains true cs else c :: removeDomains false cs
    else if dropping then removeDomains true cs
    else c :: removeDomains false cs

/-- A match of `/(;\s*path=)([^;]*)/iu`, with what is around it. -/
structure PathMatch where
  before : List Char
  written : List Char
  value : List Char
  after : List Char

def matchPath : List Char → Option PathMatch
  | [] => none
  | c :: cs =>
    match if c = ';' then matchAttribute "path".toList cs else none with
    | some (written, rest) => some ⟨[], c :: written, rest.takeWhile (· ≠ ';'), rest.dropWhile (· ≠ ';')⟩
    | none => (matchPath cs).map fun m => { m with before := c :: m.before }

/-- What `replace` makes of a replacement, where the pattern has one group. -/
def substitute (m : PathMatch) : List Char → List Char
  | [] => []
  | '$' :: '$' :: cs => '$' :: substitute m cs
  | '$' :: '&' :: cs => m.written ++ m.value ++ substitute m cs
  | '$' :: '\x60' :: cs => m.before ++ substitute m cs
  | '$' :: '\x27' :: cs => m.after ++ substitute m cs
  | '$' :: '1' :: cs => m.written ++ substitute m cs
  | '$' :: '0' :: '1' :: cs => m.written ++ substitute m cs
  | c :: cs => c :: substitute m cs

/-- `text.replace(/\/{2,}/gu, "/")` -/
def collapseSlashes : List Char → List Char
  | [] => []
  | c :: cs => if c = '/' ∧ cs.head? = some '/' then collapseSlashes cs else c :: collapseSlashes cs

/-- `value.split(";")` -/
def splitCookie (value : List Char) : List (List Char) :=
  value.splitOn ';'

def trimText (cs : List Char) : List Char :=
  (trim (String.ofList cs)).toList

/-! ## Responses -/

def cookieName (value : String) : String :=
  let name := value.toList.takeWhile (· ≠ '=')
  if '=' ∈ value.toList ∧ name ≠ [] then toLowerCase (trim (String.ofList name)) else ""

/-- What follows the first sign of equality. -/
def attributeValue (part : List Char) : List Char :=
  trimText ((part.dropWhile (· ≠ '=')).drop 1)

/-- `/^-?\d+$/u`, as a number that is safe -/
def maxAgeSeconds (value : List Char) : Option Int :=
  let parsed : Option Int :=
    match value with
    | '-' :: cs => if cs = [] then none else (digits cs).map fun n => -(n : Int)
    | cs => if cs = [] then none else (digits cs).map fun n => (n : Int)
  parsed.filter fun n => n.natAbs ≤ 9007199254740991

/-- The age that counts, of the first attribute that is written as one. -/
def validMaxAge (attributes : List (List Char)) : Option (List Char) :=
  (attributes.find? fun part => (matchText "max-age=".toList part).isSome).bind fun part =>
    (maxAgeSeconds (attributeValue part)).map fun n => "Max-Age=".toList ++ (toString (max 0 n).toNat).toList

/-- The first attribute with a date; `isDate` tells which texts `Date.parse` reads. -/
def validExpires (isDate : List Char → Bool) (attributes : List (List Char)) : Option (List Char) :=
  attributes.find? fun part => (matchText "expires=".toList part).isSome && isDate (attributeValue part)

def rewriteRootScopedCookie (isDate : List Char → Bool) (value : List Char) (httpOnly secure : Bool) : List Char :=
  let parts := (splitCookie value).map trimText
  let pair := parts.headD []
  let attributes := parts.tail
  let maxAge := validMaxAge attributes
  let expires := if maxAge.isSome then none else validExpires isDate attributes
  let written := [some pair, some "Path=/".toList, maxAge, expires, some "SameSite=Lax".toList,
    if httpOnly then some "HttpOnly".toList else none, if secure then some "Secure".toList else none]
  [';', ' '].intercalate (written.reduceOption.filter (· ≠ []))

/-- The path of a cookie, under the path of the instance. -/
def scopedPath (path : Option (List Char)) (normalizedPrefix : List Char) : List Char :=
  let path := path.getD []
  collapseSlashes (normalizedPrefix ++ if path.head? = some '/' then path else '/' :: path)

def rewriteSetCookie (isDate : List Char → Bool) (value : String) (policy : ResponseCookiePolicy) : String :=
  let name := cookieName value
  let hostOnlyCookie := removeDomains false value.toList
  if name ∈ policy.rootScopedNames then
    .ofList (rewriteRootScopedCookie isDate hostOnlyCookie (policy.httpOnlyRootScopedNames.contains name)
      policy.secureRootScopedCookies)
  else
    match matchPath hostOnlyCookie with
    | some m =>
      let path := scopedPath (some (trimText m.value)) policy.normalizedPrefix.toList
      .ofList (m.before ++ substitute m ('$' :: '1' :: path) ++ m.after)
    | none => .ofList (hostOnlyCookie ++ "; Path=".toList ++ scopedPath none policy.normalizedPrefix.toList)

def normalizedNameSet (names : Option (List String)) : List String :=
  ((names.getD []).map fun name => toLowerCase (trim name)).filter truthy

/-- Without the slashes around it. -/
def normalizePrefix (path : String) : String :=
  .ofList ('/' :: ((path.toList.dropWhile (· = '/')).reverse.dropWhile (· = '/')).reverse)

def responseCookiePolicy (path : String) (options : ProxyOptions) : ResponseCookiePolicy where
  normalizedPrefix := normalizePrefix path
  rootScopedNames := normalizedNameSet options.rootScopedCookieNames
  httpOnlyRootScopedNames := normalizedNameSet options.httpOnlyRootScopedCookieNames
  strippedNames := normalizedNameSet options.stripResponseCookieNames
  secureRootScopedCookies := options.secureRootScopedCookies = some true

def rewriteResponseCookies (isDate : List Char → Bool) (value : List String) (policy : ResponseCookiePolicy) :
    List String :=
  (value.filter fun cookie => !policy.strippedNames.contains (cookieName cookie)).map fun cookie =>
    rewriteSetCookie isDate cookie policy

end OpenApp.Proxy
