import Mathlib.Data.List.DropRight
import OpenApp.Fallible

/-!
# Where a request is sent

The path of a request below the prefix is put behind that of the endpoint, and its parameters behind those of
the endpoint, one by one.
-/

namespace OpenApp.Proxy

open Fallible

/-- The parameters of a query, as `URLSearchParams` goes through them. -/
abbrev SearchParams := List (String × String)

namespace SearchParams

def has (params : SearchParams) (name : String) : Bool :=
  params.any (·.1 = name)

def append (params : SearchParams) (name value : String) : SearchParams :=
  params ++ [(name, value)]

theorem has_eq_true {params : SearchParams} {name : String} : has params name = true ↔ name ∈ params.map Prod.fst := by
  simp [has]

end SearchParams

/-- What `new URL` shows of a URL. -/
structure ParsedUrl where
  origin : String
  username : String
  password : String
  pathname : String
  searchParams : SearchParams
  deriving DecidableEq

/-- `new URL(value, base)`, which may throw, and the path a URL has once `pathname` was set. -/
structure UrlParser where
  parse : String → Option String → Option ParsedUrl
  setPathname : ParsedUrl → String → String

inductive TargetError
  /-- what `new URL` throws -/
  | invalidUrl
  /-- `ProxyError` -/
  | proxy (code : String)
  deriving DecidableEq

/-- `new URL(value, base)` -/
def UrlParser.newUrl (urls : UrlParser) (value : String) (base : Option String) : Except TargetError ParsedUrl :=
  match urls.parse value base with
  | some url => .ok url
  | none => .error .invalidUrl

/-- What every request is read against. -/
def standIn : String := "http://openapp-request.invalid"

/-- `request.url?.slice(prefix.length) || "/"` -/
def rawPath (url : Option String) (pathPrefix : String) : String :=
  match url.map fun url => String.ofList (url.toList.drop pathPrefix.length) with
  | none => "/"
  | some rest => if rest = "" then "/" else rest

/-- The request is for the host it came to. -/
def OnStandIn (url : ParsedUrl) : Prop :=
  url.origin = standIn ∧ url.username = "" ∧ url.password = ""

instance (url : ParsedUrl) : Decidable (OnStandIn url) :=
  inferInstanceAs (Decidable (_ ∧ _ ∧ _))

/-- `pathname.replace(/\/+$/u, "")`, and nothing for the root -/
def basePathOf (pathname : String) : String :=
  if pathname = "/" then "" else String.ofList (pathname.toList.rdropWhile (· = '/'))

/-- One turn of the loop over the parameters of a request. -/
def addParam (params : SearchParams) (p : String × String) : Except TargetError SearchParams :=
  refuseIf (params.has p.1) (.proxy "proxy_target_query_conflict") >>= fun _ => .ok (params.append p.1 p.2)

def resolveProxyTarget (urls : UrlParser) (url : Option String) (endpoint pathPrefix : String) :
    Except TargetError ParsedUrl := do
  let endpointUrl ← urls.newUrl endpoint none
  let requestUrl ← urls.newUrl (rawPath url pathPrefix) (some standIn)
  refuseIf (¬ OnStandIn requestUrl) (.proxy "proxy_target_origin_mismatch")
  let path := basePathOf endpointUrl.pathname ++ "/" ++ String.ofList (requestUrl.pathname.toList.dropWhile (· = '/'))
  let searchParams ← requestUrl.searchParams.foldlM addParam endpointUrl.searchParams
  return { endpointUrl with pathname := urls.setPathname endpointUrl path, searchParams }

/-! ## What crosses -/

variable {urls : UrlParser} {url : Option String} {endpoint pathPrefix : String} {endpointUrl requestUrl : ParsedUrl}

def queryConflict : TargetError := .proxy "proxy_target_query_conflict"

/-- A name the request has in common with the endpoint. -/
def Shared (own requested : SearchParams) : Prop :=
  ∃ name ∈ requested.map Prod.fst, name ∈ own.map Prod.fst

/-- No two parameters have one name. -/
def Distinct (requested : SearchParams) : Prop :=
  (requested.map Prod.fst).Nodup

instance (own requested : SearchParams) : Decidable (Shared own requested) :=
  inferInstanceAs (Decidable (∃ name ∈ _, _))

instance (requested : SearchParams) : Decidable (Distinct requested) :=
  inferInstanceAs (Decidable (List.Nodup _))

/-- The loop refuses the names of the endpoint, and also those it has put there itself. -/
theorem foldlM_addParam (own requested : SearchParams) :
    requested.foldlM addParam own =
      if Distinct requested ∧ ¬ Shared own requested then .ok (own ++ requested) else .error queryConflict := by
  induction requested generalizing own with
  | nil => simp [Distinct, Shared, pure, Except.pure]
  | cons p requested ih =>
    rw [List.foldlM_cons]
    by_cases hp : own.has p.1 = true
    · have hshared : Shared own (p :: requested) := ⟨p.1, by simp, SearchParams.has_eq_true.1 hp⟩
      rw [if_neg fun h => h.2 hshared]
      simp [addParam, refuseIf, hp, queryConflict, bind, Except.bind]
    · have hstep : addParam own p = .ok (own ++ [p]) := by
        simp [addParam, refuseIf, hp, SearchParams.append, bind, Except.bind]
      have hown : p.1 ∉ own.map Prod.fst := fun h => hp (SearchParams.has_eq_true.2 h)
      -- the name of `p` now stands among those that are refused
      have hiff : (Distinct requested ∧ ¬ Shared (own ++ [p]) requested) ↔
          (Distinct (p :: requested) ∧ ¬ Shared own (p :: requested)) := by
        simp only [Distinct, Shared, List.map_cons, List.map_append, List.map_nil, List.nodup_cons, List.mem_append,
          List.mem_cons, List.not_mem_nil, or_false]
        constructor
        · rintro ⟨hd, hs⟩
          refine ⟨⟨fun hmem => hs ⟨p.1, hmem, .inr rfl⟩, hd⟩, ?_⟩
          rintro ⟨name, rfl | hmem, hname⟩
          · exact hown hname
          · exact hs ⟨name, hmem, .inl hname⟩
        · rintro ⟨⟨hmem, hd⟩, hs⟩
          refine ⟨hd, ?_⟩
          rintro ⟨name, hreq, hname | rfl⟩
          · exact hs ⟨name, .inr hreq, hname⟩
          · exact hmem hreq
      rw [hstep]
      change requested.foldlM addParam (own ++ [p]) = _
      rw [ih (own ++ [p])]
      simp only [hiff, List.append_assoc, List.singleton_append]

/-- A request for another host is refused before its query is looked at. -/
theorem resolve_off (hendpoint : urls.parse endpoint none = some endpointUrl)
    (hrequest : urls.parse (rawPath url pathPrefix) (some standIn) = some requestUrl) (hoff : ¬ OnStandIn requestUrl) :
    resolveProxyTarget urls url endpoint pathPrefix = .error (.proxy "proxy_target_origin_mismatch") := by
  simp [resolveProxyTarget, UrlParser.newUrl, hendpoint, hrequest, refuseIf, hoff, bind, Except.bind]

theorem resolve_on (hendpoint : urls.parse endpoint none = some endpointUrl)
    (hrequest : urls.parse (rawPath url pathPrefix) (some standIn) = some requestUrl) (hon : OnStandIn requestUrl) :
    resolveProxyTarget urls url endpoint pathPrefix =
      (requestUrl.searchParams.foldlM addParam endpointUrl.searchParams).map fun searchParams =>
        { endpointUrl with
          pathname := urls.setPathname endpointUrl
            (basePathOf endpointUrl.pathname ++ "/" ++ String.ofList (requestUrl.pathname.toList.dropWhile (· = '/')))
          searchParams } := by
  simp only [resolveProxyTarget, UrlParser.newUrl, hendpoint, hrequest, refuseIf, hon, not_true_eq_false, if_false,
    bind, Except.bind]
  cases requestUrl.searchParams.foldlM addParam endpointUrl.searchParams <;> rfl

/-- A request is refused for its query just where it has a name of the endpoint, and otherwise the parameters of
the endpoint and then its own are sent. -/
structure Crosses (result : Except TargetError ParsedUrl) (own requested : SearchParams) : Prop where
  conflict : result = .error queryConflict ↔ Shared own requested
  sent : ¬ Shared own requested → ∃ target, result = .ok target ∧ target.searchParams = own ++ requested

/-- A query crosses as it should unless it repeats one of its names, all of them unknown to the endpoint. -/
theorem crosses_iff (hendpoint : urls.parse endpoint none = some endpointUrl)
    (hrequest : urls.parse (rawPath url pathPrefix) (some standIn) = some requestUrl) :
    (OnStandIn requestUrl → Crosses (resolveProxyTarget urls url endpoint pathPrefix) endpointUrl.searchParams
        requestUrl.searchParams) ↔
      (OnStandIn requestUrl →
        Distinct requestUrl.searchParams ∨ Shared endpointUrl.searchParams requestUrl.searchParams) := by
  refine imp_congr_right fun hon => ?_
  rw [resolve_on hendpoint hrequest hon, foldlM_addParam]
  by_cases hshared : Shared endpointUrl.searchParams requestUrl.searchParams
  · rw [if_neg fun h => h.2 hshared]
    exact ⟨fun _ => .inr hshared, fun _ => ⟨⟨fun _ => hshared, fun _ => rfl⟩, fun h => absurd hshared h⟩⟩
  · by_cases hdistinct : Distinct requestUrl.searchParams
    · rw [if_pos ⟨hdistinct, hshared⟩]
      refine ⟨fun _ => .inl hdistinct, fun _ => ⟨⟨nofun, fun h => absurd h hshared⟩, fun _ => ⟨_, rfl, rfl⟩⟩⟩
    · rw [if_neg fun h => hdistinct h.1]
      constructor
      · intro h
        exact absurd (h.conflict.1 rfl) hshared
      · rintro (h | h)
        · exact absurd h hdistinct
        · exact absurd h hshared

/-! ## One name twice -/

/-- A workspace at the root of its host, and what is asked of it. -/
def plainUrl (origin pathname : String) (searchParams : SearchParams) : ParsedUrl where
  origin := origin
  username := ""
  password := ""
  pathname := pathname
  searchParams := searchParams

def samples : UrlParser where
  parse value base :=
    match value, base with
    | "http://10.0.0.2:8080/?key=s", none => some (plainUrl "http://10.0.0.2:8080" "/" [("key", "s")])
    | "/list?tag=a&page=", some _ => some (plainUrl standIn "/list" [("tag", "a"), ("page", "")])
    | "/list?tag=a&tag=b", some _ => some (plainUrl standIn "/list" [("tag", "a"), ("tag", "b")])
    | _, _ => none
  setPathname _ path := path

theorem list_crosses :
    Crosses (resolveProxyTarget samples (some "/instances/7f/list?tag=a&page=") "http://10.0.0.2:8080/?key=s"
      "/instances/7f") [("key", "s")] [("tag", "a"), ("page", "")] :=
  (@crosses_iff samples (some "/instances/7f/list?tag=a&page=") "http://10.0.0.2:8080/?key=s" "/instances/7f"
    (plainUrl "http://10.0.0.2:8080" "/" [("key", "s")]) (plainUrl standIn "/list" [("tag", "a"), ("page", "")])
    (by decide +kernel) (by decide +kernel)).2 (fun _ => .inl (by decide +kernel)) (by decide +kernel)

/-- `tag` is no name of the endpoint, and still it is refused when it comes twice. -/
theorem repeated_name_refused :
    OnStandIn (plainUrl standIn "/list" [("tag", "a"), ("tag", "b")]) ∧
      samples.parse (rawPath (some "/instances/7f/list?tag=a&tag=b") "/instances/7f") (some standIn) =
        some (plainUrl standIn "/list" [("tag", "a"), ("tag", "b")]) ∧
      ¬ Crosses (resolveProxyTarget samples (some "/instances/7f/list?tag=a&tag=b") "http://10.0.0.2:8080/?key=s"
        "/instances/7f") [("key", "s")] [("tag", "a"), ("tag", "b")] := by
  refine ⟨by decide +kernel, by decide +kernel, fun h => ?_⟩
  have hconflict : resolveProxyTarget samples (some "/instances/7f/list?tag=a&tag=b") "http://10.0.0.2:8080/?key=s"
      "/instances/7f" = .error queryConflict := by decide +kernel
  have hshared := h.conflict.1 hconflict
  exact absurd hshared (by decide +kernel)

end OpenApp.Proxy
