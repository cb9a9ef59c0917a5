import OpenApp.Proxy.Owners
import OpenApp.Proxy.RootScoped
import OpenApp.Proxy.Session

/-!
# What reaches a workspace

Of the headers of a request, only those of the provider can carry the names of the portal; and the cookies
that are left have none of the blocked names.
-/

namespace OpenApp.Proxy

open Keyed Script Separated

/-! ## Headers -/

namespace Headers

variable {headers : Headers} {name k : String} {v : Option HeaderValue}

@[simp] theorem value_set : (headers.set name v).value k = if k = name then v else headers.value k := by
  unfold value set
  rw [Table.get_put]
  split <;> rfl

theorem value_keep_of_pos {p : String × Option HeaderValue → Bool} (h : ∀ v, p (k, v) = true) :
    value (headers.keep p) k = headers.value k := by
  unfold value
  rw [Table.get_keep]
  cases hget : headers.get k with
  | none => rfl
  | some row =>
    obtain ⟨key, v⟩ := row
    have hk : key = k := Table.key_of_get hget
    subst hk
    rw [Option.filter_some, if_pos (h v)]

theorem value_keep_of_neg {p : String × Option HeaderValue → Bool} (h : ∀ v, p (k, v) = false) :
    value (headers.keep p) k = none := by
  unfold value
  rw [Table.get_keep]
  cases hget : headers.get k with
  | none => rfl
  | some row =>
    obtain ⟨key, v⟩ := row
    have hk : key = k := Table.key_of_get hget
    subst hk
    rw [Option.filter_some, if_neg (by simp [h v])]
    rfl

/-- All names are in lower case. -/
def Lower (headers : Headers) : Prop :=
  ∀ k row, headers.get k = some row → toLowerCase k = k

theorem Lower.set (h : headers.Lower) (hname : toLowerCase name = name) : (headers.set name v).Lower := by
  intro k row hget
  unfold Headers.set at hget
  rw [Table.get_put] at hget
  split at hget
  · next heq =>
    have hk : k = name := heq
    rw [hk, hname]
  · exact h k row hget

theorem Lower.keep (h : headers.Lower) (p : String × Option HeaderValue → Bool) : Lower (headers.keep p) := by
  intro k row hget
  rw [Table.get_keep] at hget
  exact h k row (Option.filter_eq_some_iff.1 hget).1

theorem Lower.delete (h : headers.Lower) (name : String) : Lower (headers.delete name) := by
  intro k row hget
  by_cases hk : k = name
  · subst hk
    rw [Table.get_delete_self] at hget
    cases hget
  · rw [Table.get_delete_of_ne headers hk] at hget
    exact h k row hget

end Headers

theorem setHeader_lower {headers : Headers} (h : headers.Lower) (name value : String) :
    (setHeader headers name value).Lower :=
  Headers.Lower.set (h.keep _) (toLowerCase_toLowerCase name)

theorem value_setHeader {headers : Headers} {name value k : String} (hk : toLowerCase k = k) :
    (setHeader headers name value).value k = if k = toLowerCase name then some (.one value) else headers.value k := by
  unfold setHeader
  rw [Headers.value_set]
  split
  · rfl
  · next hne =>
    apply Headers.value_keep_of_pos
    intro v
    rw [decide_eq_true_eq, hk]
    exact hne

/-- The headers of a provider, one after the other. -/
def setHeaders (headers : Headers) (upstream : List (String × String)) : Headers :=
  upstream.foldl (fun headers header => setHeader headers header.1 header.2) headers

theorem setHeaders_lower {headers : Headers} (h : headers.Lower) (upstream : List (String × String)) :
    (setHeaders headers upstream).Lower := by
  induction upstream generalizing headers with
  | nil => exact h
  | cons header upstream ih => exact ih (setHeader_lower h header.1 header.2)

/-- The names a provider may use: in lower case, each once, and none that is forbidden. -/
structure Trusted (upstream : List (String × String)) : Prop where
  nodup : (upstream.map Prod.fst).Nodup
  names : ∀ header ∈ upstream, toLowerCase header.1 = header.1 ∧ header.1 ∉ FORBIDDEN_PROVIDER_HEADERS

theorem addTrustedHeaders_trusted {trusted headers result : List (String × String)} (h : Trusted trusted)
    (hok : addTrustedHeaders trusted headers = some result) : Trusted result := by
  induction headers generalizing trusted with
  | nil =>
    cases hok
    exact h
  | cons header rest ih =>
    obtain ⟨rawName, value⟩ := header
    rw [addTrustedHeaders] at hok
    split at hok
    · cases hok
    · next hcheck =>
      simp only [Bool.or_eq_true, not_or, Bool.not_eq_true, Bool.not_eq_false', List.contains_eq_mem,
        decide_eq_false_iff_not] at hcheck
      obtain ⟨⟨⟨⟨-, hforbidden⟩, hfresh⟩, -⟩, -⟩ := hcheck
      apply ih _ hok
      constructor
      · rw [List.map_append, List.map_singleton, ← List.concat_eq_append]
        exact h.nodup.concat hfresh
      · intro header hheader
        rcases List.mem_append.1 hheader with hheader | hheader
        · exact h.names header hheader
        · rw [List.mem_singleton.1 hheader]
          exact ⟨toLowerCase_toLowerCase _, hforbidden⟩

theorem trustedHeaders_trusted {headers result : List (String × String)} (hok : trustedHeaders headers = some result) :
    Trusted result := by
  unfold trustedHeaders at hok
  split at hok
  · cases hok
  · have hempty : Trusted [] := ⟨List.nodup_nil, by simp⟩
    exact addTrustedHeaders_trusted hempty hok

section Upstream

variable {headers : Headers} {upstream : List (String × String)} {k : String}

theorem value_setHeaders_of_not_mem (hnames : ∀ header ∈ upstream, toLowerCase header.1 = header.1)
    (hk : toLowerCase k = k) (hmem : k ∉ upstream.map Prod.fst) : (setHeaders headers upstream).value k = headers.value k := by
  induction upstream generalizing headers with
  | nil => rfl
  | cons header upstream ih =>
    rw [List.map_cons, List.mem_cons, not_or] at hmem
    obtain ⟨hheader, hnames⟩ := List.forall_mem_cons.1 hnames
    rw [setHeaders, List.foldl_cons, ← setHeaders, ih hnames hmem.2, value_setHeader hk, hheader, if_neg hmem.1]

theorem value_setHeaders {value : String} (h : Trusted upstream) (hmem : (k, value) ∈ upstream) :
    (setHeaders headers upstream).value k = some (.one value) := by
  induction upstream generalizing headers with
  | nil => cases hmem
  | cons header upstream ih =>
    obtain ⟨hfresh, hnodup⟩ := List.nodup_cons.1 h.nodup
    obtain ⟨hheader, hnames⟩ := List.forall_mem_cons.1 h.names
    have hrest : Trusted upstream := ⟨hnodup, hnames⟩
    rw [setHeaders, List.foldl_cons, ← setHeaders]
    rcases List.mem_cons.1 hmem with rfl | hmem
    · rw [value_setHeaders_of_not_mem (fun header hheader => (hnames header hheader).1) hheader.1 hfresh,
        value_setHeader hheader.1, hheader.1, if_pos rfl]
    · exact ih hrest hmem

end Upstream

/-- The names of the headers the proxy sets itself. -/
def proxyNames : List String :=
  ["host", "x-forwarded-host", "x-forwarded-proto", "connection", "upgrade"]

theorem value_proxyHeaders {request : IncomingHeaders} {targetHost : String} {options : ProxyOptions} {upgrade : Bool}
    {headers : Headers} {k : String} (hk : k ∉ proxyNames) :
    (proxyHeaders request targetHost options upgrade headers).value k = headers.value k := by
  simp only [proxyNames, List.mem_cons, List.not_mem_nil, or_false, not_or] at hk
  obtain ⟨hhost, hforwarded, hproto, hconnection, hupgrade⟩ := hk
  unfold proxyHeaders
  cases upgrade <;> simp [hhost, hforwarded, hproto, hconnection, hupgrade]

theorem proxyHeaders_lower {request : IncomingHeaders} {targetHost : String} {options : ProxyOptions} {upgrade : Bool}
    {headers : Headers} (h : headers.Lower) : (proxyHeaders request targetHost options upgrade headers).Lower := by
  have hhost : toLowerCase "host" = "host" := by decide
  have hforwarded : toLowerCase "x-forwarded-host" = "x-forwarded-host" := by decide
  have hproto : toLowerCase "x-forwarded-proto" = "x-forwarded-proto" := by decide
  have hconnection : toLowerCase "connection" = "connection" := by decide
  have hupgrade : toLowerCase "upgrade" = "upgrade" := by decide
  unfold proxyHeaders
  dsimp only
  split
  · exact ((((h.set hhost).set hforwarded).set hproto).set hconnection).set hupgrade
  · exact ((h.set hhost).set hforwarded).set hproto

/-! ## Cookies -/

theorem value_filterRequestCookies {headers : Headers} {options : ProxyOptions} {k : String} (hk : k ≠ "cookie") :
    (filterRequestCookies headers options).value k = headers.value k := by
  have hdelete : Headers.value (headers.delete "cookie") k = headers.value k := by
    unfold Headers.value
    rw [Table.get_delete_of_ne headers hk]
  unfold filterRequestCookies
  split
  · exact hdelete
  · split
    · split
      · dsimp only
        split
        · rw [Headers.value_set, if_neg hk]
        · exact hdelete
      · rfl
    · rfl

theorem filterRequestCookies_lower {headers : Headers} {options : ProxyOptions} (h : headers.Lower) :
    (filterRequestCookies headers options).Lower := by
  have hcookie : toLowerCase "cookie" = "cookie" := by decide
  unfold filterRequestCookies
  split
  · exact h.delete _
  · split
    · split
      · dsimp only
        split
        · exact h.set hcookie
        · exact h.delete _
      · exact h
    · exact h

/-- What is left of a cookie header has none of the names. -/
theorem filterCookieHeader_names {value : String} {names : List String} {part name : List Char}
    (hpart : part ∈ splitCookie (filterCookieHeader value names).toList) (hname : pairName part = some name) :
    toLowerCase (trim (String.ofList name)) ∉ normalizedNameSet (some names) := by
  unfold filterCookieHeader at hpart
  dsimp only at hpart
  rw [String.toList_ofList] at hpart
  generalize hkept : List.filter _ ((splitCookie value.toList).map trimText) = kept at hpart
  have hall : ∀ p ∈ kept, ';' ∉ p ∧ ∃ n, pairName p = some n ∧
      toLowerCase (trim (String.ofList n)) ∉ normalizedNameSet (some names) := by
    intro p hp
    rw [← hkept, List.mem_filter] at hp
    obtain ⟨hp, hcheck⟩ := hp
    constructor
    · obtain ⟨q, hq, rfl⟩ := List.mem_map.1 hp
      intro hmem
      exact not_mem_of_mem_splitOn hq (mem_trimText hmem)
    · cases hn : pairName p with
      | none =>
        rw [hn] at hcheck
        cases hcheck
      | some n =>
        rw [hn] at hcheck
        exact ⟨n, rfl, by simpa using hcheck⟩
  cases kept with
  | nil =>
    have hnil : part = [] := by simpa [splitCookie] using hpart
    subst hnil
    cases hname
  | cons first rest =>
    obtain ⟨hfirst, hrest⟩ := List.forall_mem_cons.1 hall
    rw [intercalate_blank, splitCookie_glue hfirst.1] at hpart
    · rcases List.mem_cons.1 hpart with rfl | hpart
      · obtain ⟨n, hn, hfree⟩ := hfirst.2
        cases hn.symm.trans hname
        exact hfree
      · obtain ⟨q, hq, rfl⟩ := List.mem_map.1 hpart
        obtain ⟨n, hn, hfree⟩ := (hrest q hq).2
        have hn := pairName_eq_some hn
        have hname := pairName_eq_some hname
        have htake : (' ' :: q).takeWhile (· ≠ '=') = ' ' :: q.takeWhile (· ≠ '=') := by simp
        -- the blank in front is trimmed from the name
        have htrim : trim (String.ofList name) = trim (String.ofList n) := by
          apply String.toList_inj.1
          rw [trim_toList, trim_toList, String.toList_ofList, String.toList_ofList, hname, hn, htake, strip_cons (by decide)]
        rw [htrim]
        exact hfree
    · intro p hp
      obtain ⟨q, hq, rfl⟩ := List.mem_map.1 hp
      rw [List.mem_cons, not_or]
      exact ⟨by decide, (hrest q hq).1⟩

end OpenApp.Proxy
