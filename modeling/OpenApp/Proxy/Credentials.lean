import OpenApp.Proxy.Forwarded

/-!
# Credentials of the portal

No session of the portal, and no cookie of another App, goes through the proxy to a workspace. On the way
back a workspace can set a cookie without a name, and the value of such a cookie comes back as a pair.
-/

namespace OpenApp.Proxy

open Keyed Script Separated

/-! ## Requests -/

section Requests

variable {request : IncomingHeaders} {targetHost : String} {options : ProxyOptions} {upgrade : Bool}

theorem browserHeaders_lower (request : IncomingHeaders) : (browserHeaders request).Lower := by
  apply Headers.Lower.keep
  intro k row hget
  obtain ⟨hmem, rfl⟩ := Table.get_eq_some.1 hget
  exact request.lower row hmem

theorem value_browserHeaders_control {name : String} (h : name ∈ CONTROL_PLANE_HEADERS) :
    (browserHeaders request).value name = none := by
  apply Headers.value_keep_of_neg
  intro v
  have hlower : toLowerCase name = name := by
    simp only [CONTROL_PLANE_HEADERS, List.mem_cons, List.not_mem_nil, or_false] at h
    rcases h with rfl | rfl <;> decide
  simp [hlower, h]

theorem value_buildRequestHeaders {k : String} (hk : k ∉ proxyNames) :
    (buildRequestHeaders request targetHost options upgrade).value k =
      (setHeaders (filterRequestCookies (browserHeaders request) options) (options.upstreamHeaders.getD [])).value k :=
  value_proxyHeaders hk

theorem buildRequestHeaders_lower : (buildRequestHeaders request targetHost options upgrade).Lower :=
  proxyHeaders_lower (setHeaders_lower (filterRequestCookies_lower (browserHeaders_lower request)) _)

variable (htrusted : Trusted (options.upstreamHeaders.getD []))

include htrusted

theorem control_of_provider {name : String} (h : name ∈ CONTROL_PLANE_HEADERS) {v : HeaderValue}
    (hv : (buildRequestHeaders request targetHost options upgrade).value name = some v) :
    ∃ value, (name, value) ∈ options.upstreamHeaders.getD [] ∧ v = .one value := by
  have hplain : toLowerCase name = name ∧ name ∉ proxyNames ∧ name ≠ "cookie" := by
    simp only [CONTROL_PLANE_HEADERS, List.mem_cons, List.not_mem_nil, or_false] at h
    rcases h with rfl | rfl <;> decide
  obtain ⟨hlower, hproxy, hcookie⟩ := hplain
  rw [value_buildRequestHeaders hproxy] at hv
  by_cases hmem : name ∈ (options.upstreamHeaders.getD []).map Prod.fst
  · obtain ⟨header, hheader, rfl⟩ := List.mem_map.1 hmem
    rw [value_setHeaders htrusted hheader] at hv
    exact ⟨header.2, hheader, (Option.some.inj hv).symm⟩
  · rw [value_setHeaders_of_not_mem (fun header hheader => (htrusted.names header hheader).1) hlower hmem,
      value_filterRequestCookies hcookie, value_browserHeaders_control h] at hv
    cases hv

theorem value_of_provider {name value : String} (h : (name, value) ∈ options.upstreamHeaders.getD []) :
    (buildRequestHeaders request targetHost options upgrade).value name = some (.one value) := by
  have hproxy : name ∉ proxyNames := by
    intro hmem
    apply (htrusted.names _ h).2
    simp only [proxyNames, List.mem_cons, List.not_mem_nil, or_false] at hmem
    simp only [FORBIDDEN_PROVIDER_HEADERS, List.mem_cons, List.not_mem_nil, or_false]
    tauto
  rw [value_buildRequestHeaders hproxy, value_setHeaders htrusted h]

/-- The cookies that are sent on have none of the blocked names. -/
theorem cookie_names (hnames : options.stripCookieNames.getD [] ≠ []) {cookie : HeaderValue}
    (hcookie : (buildRequestHeaders request targetHost options upgrade).value "cookie" = some cookie)
    {part name : List Char} (hpart : part ∈ splitCookie cookie.text.toList) (hname : pairName part = some name) :
    toLowerCase (trim (String.ofList name)) ∉ normalizedNameSet options.stripCookieNames := by
  have hfree : "cookie" ∉ (options.upstreamHeaders.getD []).map Prod.fst := by
    intro hmem
    obtain ⟨header, hheader, heq⟩ := List.mem_map.1 hmem
    apply (htrusted.names header hheader).2
    rw [heq]
    decide
  rw [value_buildRequestHeaders (by decide),
    value_setHeaders_of_not_mem (fun header hheader => (htrusted.names header hheader).1) (by decide) hfree] at hcookie
  have hdeleted : Headers.value ((browserHeaders request).delete "cookie") "cookie" = none := by
    unfold Headers.value
    rw [Table.get_delete_self]
    rfl
  obtain ⟨first, rest, hsome⟩ : ∃ first rest, options.stripCookieNames = some (first :: rest) := by
    cases hoption : options.stripCookieNames with
    | none =>
      rw [hoption] at hnames
      exact absurd rfl hnames
    | some names =>
      cases names with
      | nil =>
        rw [hoption] at hnames
        exact absurd rfl hnames
      | cons first rest => exact ⟨first, rest, rfl⟩
  unfold filterRequestCookies at hcookie
  rw [hsome] at hcookie ⊢
  split at hcookie
  · rw [hdeleted] at hcookie
    cases hcookie
  · split at hcookie
    · next hvalue heq =>
      cases heq
      split at hcookie
      · dsimp only at hcookie
        split at hcookie
        · rw [Headers.value_set, if_pos rfl] at hcookie
          cases hcookie
          exact filterCookieHeader_names hpart hname
        · rw [hdeleted] at hcookie
          cases hcookie
      · next hempty =>
        -- an empty header has no pairs
        rw [hvalue] at hcookie
        cases hcookie
        have htext : cookie.text.toList = [] := by
          rw [String.toList_eq_nil_iff]
          simpa [truthy] using hempty
        rw [htext] at hpart
        have hnil : part = [] := by simpa [splitCookie] using hpart
        subst hnil
        cases hname
    · next hnone =>
      cases hvalue : (browserHeaders request).value "cookie" with
      | none =>
        rw [hvalue] at hcookie
        cases hcookie
      | some cookies => exact absurd rfl (hnone cookies first rest hvalue)

end Requests

/-! ## The pair of a cookie -/

theorem splitCookie_first {pair rest : List Char} (h : ';' ∉ pair) :
    (splitCookie (pair ++ ';' :: rest)).headD [] = pair := by
  unfold splitCookie
  rw [List.splitOn_append_cons_self_of_not_mem h, List.headD_cons]

theorem matchPath_eq {cs : List Char} {m : PathMatch} (h : matchPath cs = some m) :
    ∃ written rest, m.written = ';' :: written ∧ cs = m.before ++ m.written ++ rest := by
  induction cs generalizing m with
  | nil => cases h
  | cons c cs ih =>
    rw [matchPath] at h
    split at h
    · next written rest hwritten =>
      cases h
      split at hwritten
      · next hc =>
        subst hc
        obtain ⟨_, _, -, rfl, -, -⟩ := matchAttribute_eq_some hwritten
        exact ⟨written, rest, rfl, rfl⟩
      · cases hwritten
    · obtain ⟨m', hm', rfl⟩ := Option.map_eq_some_iff.1 h
      obtain ⟨written, rest, hwritten, rfl⟩ := ih hm'
      exact ⟨written, rest, hwritten, rfl⟩

section Written

variable {isDate : List Char → Bool} {value : String} {policy : ResponseCookiePolicy}

/-- Nothing is changed before the first semicolon. -/
theorem unscoped_first (hroot : cookieName value ∉ policy.rootScopedNames) :
    (splitCookie (rewriteSetCookie isDate value policy).toList).headD [] = (splitCookie value.toList).headD [] := by
  obtain ⟨pair, hsplit, hremoved, hpair, -⟩ := removeDomains_eq value.toList
  rw [hsplit, List.headD_cons]
  have hfront : ∀ rest, ∃ rest', pair ++ glue ';' (keptParts value.toList) ++ ';' :: rest = pair ++ ';' :: rest' := by
    intro rest
    cases keptParts value.toList with
    | nil => exact ⟨rest, by rw [glue_nil, List.append_nil]⟩
    | cons part parts => exact ⟨part ++ glue ';' parts ++ ';' :: rest, by rw [glue_cons]; simp⟩
  unfold rewriteSetCookie
  dsimp only
  rw [if_neg hroot]
  cases hmatch : matchPath (removeDomains false value.toList) with
  | none =>
    dsimp only
    rw [String.toList_ofList, hremoved, List.append_assoc]
    have hpath : "; Path=".toList = ';' :: " Path=".toList := by simp
    obtain ⟨rest, hrest⟩ := hfront (" Path=".toList ++ scopedPath none policy.normalizedPrefix.toList)
    rw [hpath, List.cons_append, hrest, splitCookie_first hpair]
  | some m =>
    rw [hremoved, matchPath_part hpair] at hmatch
    obtain ⟨m', hm', hm⟩ := Option.map_eq_some_iff.1 hmatch
    obtain ⟨written, rest, hwritten, hglue⟩ := matchPath_eq hm'
    -- what is before the match starts with a semicolon, or else the match does
    obtain ⟨text, htext⟩ : ∃ text, m'.before ++ m.written = ';' :: text := by
      have hsame : m.written = m'.written := by rw [← hm]
      rw [hsame]
      cases hbefore : m'.before with
      | nil => exact ⟨written, hwritten⟩
      | cons c before =>
        rw [hbefore] at hglue
        cases hkept : keptParts value.toList with
        | nil =>
          rw [hkept] at hglue
          cases hglue
        | cons part parts =>
          rw [hkept, glue_cons] at hglue
          have hc : ';' = c := (List.cons.inj hglue).1
          exact ⟨before ++ m'.written, by rw [hc]; rfl⟩
    dsimp only
    have hbefore : m.before = pair ++ m'.before := by rw [← hm]
    rw [String.toList_ofList, substitute, hbefore]
    have hout : ∀ path, pair ++ m'.before ++ (m.written ++ path) ++ m.after = pair ++ ';' :: (text ++ path ++ m.after) := by
      intro path
      have happend : pair ++ m'.before ++ (m.written ++ path) ++ m.after =
          pair ++ ((m'.before ++ m.written) ++ path ++ m.after) := by
        simp
      rw [happend, htext]
      simp
    rw [hout, splitCookie_first hpair]

/-- Where a cookie is written for the whole host, its pair is trimmed. -/
theorem rootScoped_first (hroot : cookieName value ∈ policy.rootScopedNames)
    (hne : trimText ((splitCookie value.toList).headD []) ≠ []) :
    (splitCookie (rewriteSetCookie isDate value policy).toList).headD [] =
      trimText ((splitCookie value.toList).headD []) := by
  obtain ⟨pair, hsplit, hremoved, hpair, -⟩ := removeDomains_eq value.toList
  rw [hsplit, List.headD_cons] at hne ⊢
  unfold rewriteSetCookie
  dsimp only
  rw [if_pos hroot, String.toList_ofList, hremoved,
    rewriteRootScopedCookie_eq hpair (fun p hp => not_mem_keptParts hp), if_neg hne, List.singleton_append,
    intercalate_blank, List.map_cons, glue_cons]
  exact splitCookie_first fun hmem => hpair (mem_trimText hmem)

end Written

/-- A pair with a name comes back as the session if its name is that of the session. -/
theorem session_of_named {cookieName : String} {part : List Char} (hpart : ';' ∉ part) (hne : (readPair part).1 ≠ [])
    (h : (readSessionToken cookieName (some ((readPair part).1 ++ '=' :: (readPair part).2)) none).isSome = true) :
    '=' ∈ part ∧ trim (String.ofList (part.takeWhile (· ≠ '='))) = cookieName := by
  by_cases hsign : '=' ∈ part
  · refine ⟨hsign, ?_⟩
    have hpair : readPair part =
        (strip isBlank (part.takeWhile (· ≠ '=')), strip isBlank ((part.dropWhile (· ≠ '=')).drop 1)) := by
      unfold readPair
      rw [if_pos hsign]
    rw [hpair] at hne h
    generalize hname : strip isBlank (part.takeWhile (· ≠ '=')) = name at hne h
    generalize hvalue : strip isBlank ((part.dropWhile (· ≠ '=')).drop 1) = value at h
    have hplain : '=' ∉ name := by
      rw [← hname]
      exact fun hmem => takeWhile_not_mem (mem_of_mem_strip hmem)
    have hsemicolon : ';' ∉ name ++ '=' :: value := by
      intro hmem
      rcases List.mem_append.1 hmem with hmem | hmem
      · rw [← hname] at hmem
        exact hpart (List.takeWhile_subset _ (mem_of_mem_strip hmem))
      · rcases List.mem_cons.1 hmem with heq | hmem
        · cases heq
        · rw [← hvalue] at hmem
          exact hpart ((List.dropWhile_suffix _).subset (List.drop_subset 1 _ (mem_of_mem_strip hmem)))
    unfold readSessionToken at h
    have hsplit : splitCookie (name ++ '=' :: value) = [name ++ '=' :: value] :=
      List.splitOn_eq_singleton hsemicolon
    rw [Option.map_some, Option.bind_some, hsplit] at h
    have htrim : trim (String.ofList name) = trim (String.ofList (part.takeWhile (· ≠ '='))) := by
      apply String.toList_inj.1
      rw [trim_toList, trim_toList, String.toList_ofList, String.toList_ofList, ← hname, strip_isWhitespace_isBlank]
    rw [← htrim]
    by_contra hother
    have hnot : isSessionPair cookieName (name ++ '=' :: value) = false := by
      unfold isSessionPair
      rw [pairName_sign hplain, if_neg hne]
      simpa using hother
    rw [List.find?_singleton, hnot] at h
    cases h
  · unfold readPair at hne
    rw [if_neg hsign] at hne
    exact absurd rfl hne

/-- What a browser sends back is the session for a named cookie of that name, and for one without a name
whose value is a pair of that name. -/
theorem session_of_echo {cookieName : String} {cookie : List Char} :
    (readSessionToken cookieName (some (echo cookie)) none).isSome = true →
      NamelessSession cookieName cookie ∨
        ((readPair ((splitCookie cookie).headD [])).1 ≠ [] ∧ '=' ∈ (splitCookie cookie).headD [] ∧
          trim (String.ofList (((splitCookie cookie).headD []).takeWhile (· ≠ '='))) = cookieName) := by
  intro h
  have hfirst : ';' ∉ (splitCookie cookie).headD [] := by
    obtain ⟨pair, hsplit, -, hpair, -⟩ := removeDomains_eq cookie
    rw [hsplit]
    exact hpair
  unfold echo at h
  dsimp only at h
  by_cases hname : (readPair ((splitCookie cookie).headD [])).1 = []
  · rw [if_pos hname] at h
    exact .inl ⟨hname, h⟩
  · rw [if_neg hname] at h
    exact .inr ⟨hname, session_of_named hfirst hname h⟩

theorem echo_of_nameless {cookieName : String} {cookie : List Char} (h : NamelessSession cookieName cookie) :
    (readSessionToken cookieName (some (echo cookie)) none).isSome = true := by
  unfold echo
  dsimp only
  rw [if_pos h.1]
  exact h.2

theorem namelessSession_congr {cookieName : String} {cookie cookie' : List Char}
    (h : (splitCookie cookie).headD [] = (splitCookie cookie').headD []) :
    NamelessSession cookieName cookie ↔ NamelessSession cookieName cookie' := by
  unfold NamelessSession
  rw [h]

/-! ## The names of a cookie -/

/-- The name of a cookie, where its pair has a sign. -/
theorem cookieName_of_sign {value : String} (h : '=' ∈ (splitCookie value.toList).headD []) :
    cookieName value = toLowerCase (trim (String.ofList (((splitCookie value.toList).headD []).takeWhile (· ≠ '=')))) := by
  obtain ⟨pair, parts, hsplit, hvalue, -, -⟩ := eq_glue ';' value.toList
  have hsplit' : splitCookie value.toList = pair :: parts := hsplit
  rw [hsplit', List.headD_cons] at h ⊢
  obtain ⟨name, rest, rfl, hname⟩ := List.eq_append_cons_of_mem h
  unfold cookieName
  dsimp only
  rw [hvalue, List.append_assoc, List.cons_append, (takeWhile_sign hname).1, (takeWhile_sign hname).1]
  by_cases hnil : name = []
  · subst hnil
    rw [if_neg (by simp)]
    decide
  · rw [if_pos ⟨by simp, hnil⟩]

/-- Where a name has no semicolon, the sign is in the pair. -/
theorem sign_of_name {value : String} (hne : cookieName value ≠ "") (hplain : ';' ∉ (cookieName value).toList) :
    '=' ∈ (splitCookie value.toList).headD [] := by
  obtain ⟨pair, parts, hsplit, hvalue, -, -⟩ := eq_glue ';' value.toList
  have hsplit' : splitCookie value.toList = pair :: parts := hsplit
  rw [hsplit', List.headD_cons]
  by_contra hsign
  unfold cookieName at hne hplain
  dsimp only at hne hplain
  split at hne
  · next hcond =>
    rw [if_pos hcond] at hplain
    cases parts with
    | nil =>
      rw [glue_nil, List.append_nil] at hvalue
      exact hsign (hvalue ▸ hcond.1)
    | cons part parts =>
      apply hplain
      have hpair : ∀ c ∈ pair, decide (c ≠ '=') = true := by
        intro c hc
        rw [decide_eq_true_eq]
        rintro rfl
        exact hsign hc
      have hmem : ';' ∈ value.toList.takeWhile (· ≠ '=') := by
        rw [hvalue, List.takeWhile_append_of_pos hpair, glue_cons, List.takeWhile_cons_of_pos (by simp)]
        exact List.mem_append_right _ List.mem_cons_self
      have hlower : lowerChar ';' = ';' := by decide
      rw [toList_toLowerCase, trim_toList, String.toList_ofList, ← hlower]
      exact List.mem_map_of_mem (mem_strip hmem (by decide))
  · exact hne rfl

/-- Trimming leaves the name of a pair as it was, but for the white space before it. -/
theorem trimText_sign {pair : List Char} (h : '=' ∈ pair) : '=' ∈ trimText pair ∧
    (trimText pair).takeWhile (· ≠ '=') = (pair.takeWhile (· ≠ '=')).dropWhile isWhitespace := by
  obtain ⟨name, rest, rfl, hname⟩ := List.eq_append_cons_of_mem h
  have hstrip : trimText (name ++ '=' :: rest) = strip isWhitespace (name ++ '=' :: rest) := by
    unfold trimText
    rw [trim_toList, String.toList_ofList]
  have hdrop : (name ++ '=' :: rest).dropWhile isWhitespace = name.dropWhile isWhitespace ++ '=' :: rest := by
    rw [List.dropWhile_append]
    split
    · next hempty =>
      rw [List.isEmpty_iff.1 hempty, List.dropWhile_cons_of_neg (by decide), List.nil_append]
    · rfl
  have hfront : name.dropWhile isWhitespace ++ ['='] <+: strip isWhitespace (name ++ '=' :: rest) := by
    have hsplit : name.dropWhile isWhitespace ++ '=' :: rest = name.dropWhile isWhitespace ++ ['='] ++ rest := by simp
    unfold strip
    rw [hdrop, hsplit]
    apply prefix_rdropWhile
    intro b hb
    rw [List.getLast?_concat] at hb
    cases hb
    decide
  obtain ⟨rest', hrest⟩ := hfront
  rw [List.append_assoc, List.singleton_append] at hrest
  have hplain : '=' ∉ name.dropWhile isWhitespace := fun hmem => hname ((List.dropWhile_suffix _).subset hmem)
  rw [hstrip, ← hrest, (takeWhile_sign hplain).1, (takeWhile_sign hname).1]
  exact ⟨by simp, rfl⟩

theorem trim_trimText_name {pair : List Char} (h : '=' ∈ pair) :
    trim (String.ofList ((trimText pair).takeWhile (· ≠ '='))) = trim (String.ofList (pair.takeWhile (· ≠ '='))) := by
  apply String.toList_inj.1
  rw [trim_toList, trim_toList, String.toList_ofList, String.toList_ofList, (trimText_sign h).2]
  unfold strip
  rw [List.dropWhile_idempotent]

/-! ## The options of an App -/

/-- The name of the session is stripped from what a workspace sets, and from what it is sent. -/
theorem session_blocked {cookieName : String} {handoffs : List AppAuthHandoff} {registry : AppAuthHandoffRegistry}
    (hregistry : AppAuthHandoffRegistry.create cookieName handoffs = .ok registry) (handoff : AppAuthHandoff)
    (additional : Option (List String)) :
    toLowerCase (trim cookieName) ∈
      normalizedNameSet (some (mergeCookieNames (blockedCookieNames registry handoff) additional)) := by
  obtain ⟨-, hportal⟩ := AppAuthHandoffRegistry.create_ok hregistry
  obtain ⟨hname, htruthy, -⟩ := validateCookieName_ok hportal
  have hmem : registry.portalCookieName ∈ blockedCookieNames registry handoff := List.mem_cons_self
  have htrim : trim registry.portalCookieName = registry.portalCookieName := by rw [hname, trim_trim]
  have hmerged := @mem_mergeCookieNames _ additional _ hmem (by rw [htrim]; exact htruthy)
  rwa [htrim, hname] at hmerged

theorem proxyOptionsFor_ok {registry : AppAuthHandoffRegistry} {handoff : AppAuthHandoff} {input : AppAuthProxyInput}
    {options : ProxyOptions} (h : proxyOptionsFor registry handoff input = .ok options) :
    options.stripCookieNames =
        some (mergeCookieNames (blockedCookieNames registry handoff) (handoff.proxyOptions input).stripCookieNames) ∧
      options.stripResponseCookieNames = some (mergeCookieNames (blockedCookieNames registry handoff)
        (handoff.proxyOptions input).stripResponseCookieNames) ∧
      ∀ name ∈ options.rootScopedCookieNames.getD [], ∃ owned ∈ handoff.managedCookieNames,
        toLowerCase owned = toLowerCase name := by
  unfold proxyOptionsFor at h
  dsimp only at h
  split at h
  · cases h
  · next hroot =>
    split at h
    · split at h
      · cases h
      · cases h
    · cases h
      refine ⟨rfl, rfl, ?_⟩
      intro name hname
      rw [Bool.not_eq_true, List.any_eq_false] at hroot
      have hmanaged := hroot name hname
      simp only [Bool.not_eq_true', Bool.not_eq_false, List.contains_iff_mem, List.mem_map] at hmanaged
      exact hmanaged

theorem managed_of_requireHandoff {registry : AppAuthHandoffRegistry} (h : registry.Accepted) {noAuth : List String}
    {appId : String} {handoff : AppAuthHandoff} (hhandoff : requireHandoff registry noAuth appId = .ok handoff)
    {raw : String} (hraw : raw ∈ handoff.managedCookieNames) : ∀ c ∈ (trim raw).toList, isTokenChar c = true := by
  rcases requireHandoff_ok hhandoff with hmine | hnone
  · exact (h.owners.valid _ (h.owner hmine hraw)).2
  · rw [hnone] at hraw
    cases hraw

/-- A cookie for the whole host has no semicolon in its name. -/
theorem rootScoped_plain {registry : AppAuthHandoffRegistry} (h : registry.Accepted) {noAuth : List String}
    {appId : String} {handoff : AppAuthHandoff} (hhandoff : requireHandoff registry noAuth appId = .ok handoff)
    {input : AppAuthProxyInput} {options : ProxyOptions} (hoptions : proxyOptionsFor registry handoff input = .ok options)
    {name : String} (hname : name ∈ normalizedNameSet options.rootScopedCookieNames) :
    name ≠ "" ∧ ';' ∉ name.toList := by
  unfold normalizedNameSet at hname
  rw [List.mem_filter] at hname
  obtain ⟨hmem, htruthy⟩ := hname
  obtain ⟨root, hroot, rfl⟩ := List.mem_map.1 hmem
  refine ⟨by simpa [truthy] using htruthy, fun hsemicolon => ?_⟩
  obtain ⟨owned, howned, hlower⟩ := (proxyOptionsFor_ok hoptions).2.2 root hroot
  have hinroot : ';' ∈ root.toList := by
    have htrimmed := mem_toLowerCase (by decide) hsemicolon
    rw [trim_toList] at htrimmed
    exact mem_of_mem_strip htrimmed
  have hinowned : ';' ∈ owned.toList := by
    have hchar : lowerChar ';' = ';' := by decide
    apply mem_toLowerCase (by decide)
    rw [hlower, toList_toLowerCase, ← hchar]
    exact List.mem_map_of_mem hinroot
  have htrimmed : ';' ∈ (trim owned).toList := by
    rw [trim_toList]
    exact mem_strip hinowned (by decide)
  cases managed_of_requireHandoff h hhandoff howned ';' htrimmed

/-! ## Every request and every response -/

/-- What is sent on to a workspace, and what comes back of a cookie it sets. -/
structure CredentialsStay (cookieName : String) (registry : AppAuthHandoffRegistry) (handoff : AppAuthHandoff)
    (upstream : List (String × String)) (forwarded : Headers) (written : List String) : Prop where
  session : ∀ cookie, forwarded.value "cookie" = some cookie →
    readSessionToken cookieName (some cookie.text.toList) none = none
  /-- no name is that of the session, or of a cookie of another App -/
  names : ∀ cookie, forwarded.value "cookie" = some cookie → ∀ part ∈ splitCookie cookie.text.toList,
    ∀ name, pairName part = some name →
      toLowerCase (trim (String.ofList name)) ≠ toLowerCase (trim cookieName) ∧
        ∀ other ∈ registry.handoffs.map Prod.snd, other ≠ handoff → ∀ raw ∈ other.managedCookieNames,
          toLowerCase (trim (String.ofList name)) ≠ toLowerCase (trim raw)
  lower : forwarded.Lower
  control : ∀ name ∈ CONTROL_PLANE_HEADERS, ∀ v, forwarded.value name = some v →
    ∃ value, (name, value) ∈ upstream ∧ v = .one value
  provider : ∀ name value, (name, value) ∈ upstream → forwarded.value name = some (.one value)
  responses : ∀ cookie ∈ written, readSessionToken cookieName (some (echo cookie.toList)) none = none

section Setting

variable {cookieName appId targetHost path : String} {handoffs : List AppAuthHandoff} {noAuth : List String}
  {registry : AppAuthHandoffRegistry} {handoff : AppAuthHandoff} {input : AppAuthProxyInput} {options : ProxyOptions}
  {target : AccessTarget} {request : IncomingHeaders} {upgrade : Bool}

/-- No cookie that is sent on is blocked. -/
theorem forwarded_names (hregistry : AppAuthHandoffRegistry.create cookieName handoffs = .ok registry)
    (hhandoff : requireHandoff registry noAuth appId = .ok handoff)
    (hoptions : proxyOptionsFor registry handoff input = .ok options) (htarget : Trusted (target.headers.getD []))
    {cookie : HeaderValue} (hcookie : (buildRequestHeaders request targetHost (workspaceOptions options target)
      upgrade).value "cookie" = some cookie) {part name : List Char} (hpart : part ∈ splitCookie cookie.text.toList)
    (hname : pairName part = some name) :
    toLowerCase (trim (String.ofList name)) ≠ toLowerCase (trim cookieName) ∧
      ∀ other ∈ registry.handoffs.map Prod.snd, other ≠ handoff → ∀ raw ∈ other.managedCookieNames,
        toLowerCase (trim (String.ofList name)) ≠ toLowerCase (trim raw) := by
  obtain ⟨hstrip, -, -⟩ := proxyOptionsFor_ok hoptions
  have hsession := session_blocked hregistry handoff (handoff.proxyOptions input).stripCookieNames
  have hnonempty : (workspaceOptions options target).stripCookieNames.getD [] ≠ [] := by
    change options.stripCookieNames.getD [] ≠ []
    rw [hstrip]
    intro hnil
    rw [Option.getD_some] at hnil
    rw [hnil] at hsession
    cases hsession
  have hfree := cookie_names htarget hnonempty hcookie hpart hname
  change _ ∉ normalizedNameSet options.stripCookieNames at hfree
  rw [hstrip] at hfree
  constructor
  · intro heq
    rw [heq] at hfree
    exact hfree hsession
  · intro other hother hne raw hraw heq
    obtain ⟨haccepted, -⟩ := AppAuthHandoffRegistry.create_ok hregistry
    have hblocked := mem_blocked_of_other haccepted hhandoff hother hne hraw
    have htruthy : truthy (trim (trim raw)) = true := by
      rw [trim_trim]
      exact (haccepted.owners.valid _ (haccepted.owner hother hraw)).1
    have hmerged := @mem_mergeCookieNames _ (handoff.proxyOptions input).stripCookieNames _ hblocked htruthy
    rw [trim_trim] at hmerged
    rw [heq] at hfree
    exact hfree hmerged

/-- The session is read from no cookie that is sent on. -/
theorem no_session_forwarded {cookie : List Char}
    (h : ∀ part ∈ splitCookie cookie, ∀ name, pairName part = some name →
      toLowerCase (trim (String.ofList name)) ≠ toLowerCase (trim cookieName)) :
    readSessionToken cookieName (some cookie) none = none := by
  have hnone : (splitCookie cookie).find? (isSessionPair cookieName) = none := by
    rw [List.find?_eq_none]
    intro part hpart hsession
    unfold isSessionPair at hsession
    split at hsession
    · next name hname =>
      have hname' : trim (String.ofList name) = cookieName := of_decide_eq_true hsession
      apply h part hpart name hname
      rw [hname', ← hname', trim_trim]
    · cases hsession
  unfold readSessionToken
  rw [Option.map_some, Option.bind_some, hnone]
  rfl

end Setting

/-! ## Responses -/

theorem trim_of_blank {name : List Char} (h : strip isBlank name = []) : trim (String.ofList name) = "" := by
  apply String.toList_inj.1
  rw [trim_toList, String.toList_ofList, ← strip_isWhitespace_isBlank, h]
  rfl

/-- A session without a name is written with a sign, and with nothing before it. -/
theorem nameless_sign {cookieName : String} {cookie : List Char} (h : NamelessSession cookieName cookie) :
    '=' ∈ (splitCookie cookie).headD [] ∧
      trim (String.ofList (((splitCookie cookie).headD []).takeWhile (· ≠ '='))) = "" := by
  obtain ⟨hname, hsession⟩ := h
  generalize (splitCookie cookie).headD [] = first at hname hsession ⊢
  by_cases hsign : '=' ∈ first
  · unfold readPair at hname
    rw [if_pos hsign] at hname
    exact ⟨hsign, trim_of_blank hname⟩
  · -- a value without a sign has no pair of the portal
    exfalso
    have hpair : readPair first = ([], strip isBlank first) := by
      unfold readPair
      rw [if_neg hsign]
    rw [hpair] at hsession
    have hnone : readSessionToken cookieName (some (strip isBlank first)) none = none := by
      apply no_session_forwarded
      intro part hpart name hname
      have hpart' : '=' ∉ part := by
        intro hmem
        apply hsign
        exact mem_of_mem_strip (mem_of_mem_splitOn hpart hmem)
      rw [pairName_of_not_mem hpart'] at hname
      cases hname
    rw [hnone] at hsession
    cases hsession

section Responses

variable {isDate : List Char → Bool} {session value : String} {policy : ResponseCookiePolicy}

/-- The name of the portal is stripped, so a pair of that name is dropped. -/
theorem cookieName_of_session (h : '=' ∈ (splitCookie value.toList).headD [])
    (hname : trim (String.ofList (((splitCookie value.toList).headD []).takeWhile (· ≠ '='))) = session) :
    cookieName value = toLowerCase (trim session) := by
  rw [cookieName_of_sign h, ← hname, trim_trim]

theorem no_session_unscoped (hblocked : toLowerCase (trim session) ∈ policy.strippedNames)
    (hkept : cookieName value ∉ policy.strippedNames) (hroot : cookieName value ∉ policy.rootScopedNames)
    (hnamed : ¬NamelessSession session value.toList) :
    readSessionToken session (some (echo (rewriteSetCookie isDate value policy).toList)) none = none := by
  have hfirst := @unscoped_first isDate _ _ hroot
  rw [← Option.not_isSome_iff_eq_none]
  intro hsome
  rcases session_of_echo hsome with hnameless | ⟨-, hsign, hname⟩
  · exact hnamed ((namelessSession_congr hfirst).1 hnameless)
  · rw [hfirst] at hsign hname
    rw [cookieName_of_session hsign hname] at hkept
    exact hkept hblocked

theorem no_session_rootScoped (hblocked : toLowerCase (trim session) ∈ policy.strippedNames)
    (hkept : cookieName value ∉ policy.strippedNames) (hroot : cookieName value ∈ policy.rootScopedNames)
    (hne : cookieName value ≠ "") (hplain : ';' ∉ (cookieName value).toList) :
    readSessionToken session (some (echo (rewriteSetCookie isDate value policy).toList)) none = none := by
  have hsign := sign_of_name hne hplain
  have hfirst := @rootScoped_first isDate _ _ hroot (List.ne_nil_of_mem (trimText_sign hsign).1)
  rw [← Option.not_isSome_iff_eq_none]
  intro hsome
  rcases session_of_echo hsome with hnameless | ⟨-, -, hname⟩
  · -- the name is that of a cookie of the App, so there is one
    have hblank := (nameless_sign hnameless).2
    rw [hfirst, trim_trimText_name hsign] at hblank
    apply hne
    rw [cookieName_of_sign hsign, hblank]
    decide
  · rw [hfirst, trim_trimText_name hsign] at hname
    rw [cookieName_of_session hsign hname] at hkept
    exact hkept hblocked

/-- What is written of the cookies comes back as no session, unless one of them has no name. -/
theorem written_is_no_session {values : List String} (hblocked : toLowerCase (trim session) ∈ policy.strippedNames)
    (hstripped : "" ∉ policy.strippedNames)
    (hroots : ∀ name ∈ policy.rootScopedNames, name ≠ "" ∧ ';' ∉ name.toList) :
    (∀ cookie ∈ rewriteResponseCookies isDate values policy,
        readSessionToken session (some (echo cookie.toList)) none = none) ↔
      ∀ value ∈ values, ¬NamelessSession session value.toList := by
  unfold rewriteResponseCookies
  constructor
  · intro h value hvalue hnameless
    obtain ⟨hsign, hblank⟩ := nameless_sign hnameless
    have hempty : cookieName value = "" := by
      rw [cookieName_of_sign hsign, hblank]
      decide
    have hroot : cookieName value ∉ policy.rootScopedNames := fun hmem => (hroots _ hmem).1 hempty
    have hkept : value ∈ values.filter fun cookie => !policy.strippedNames.contains (cookieName cookie) := by
      rw [List.mem_filter]
      exact ⟨hvalue, by simpa [hempty] using hstripped⟩
    have hnone := h _ (List.mem_map_of_mem hkept)
    have hsome := echo_of_nameless ((namelessSession_congr (@unscoped_first isDate _ _ hroot)).2 hnameless)
    rw [hnone] at hsome
    cases hsome
  · intro hnamed cookie hcookie
    obtain ⟨value, hvalue, rfl⟩ := List.mem_map.1 hcookie
    obtain ⟨hmem, hkept⟩ := List.mem_filter.1 hvalue
    have hkept : cookieName value ∉ policy.strippedNames := by simpa using hkept
    by_cases hroot : cookieName value ∈ policy.rootScopedNames
    · exact no_session_rootScoped hblocked hkept hroot (hroots _ hroot).1 (hroots _ hroot).2
    · exact no_session_unscoped hblocked hkept hroot (hnamed value hmem)

end Responses

section Setting

variable {cookieName appId targetHost path : String} {handoffs : List AppAuthHandoff} {noAuth : List String}
  {registry : AppAuthHandoffRegistry} {handoff : AppAuthHandoff} {input : AppAuthProxyInput} {options : ProxyOptions}
  {target : AccessTarget} {request : IncomingHeaders} {upgrade : Bool} {isDate : List Char → Bool}
  {setCookies : List String}

/-- The credentials of the portal stay where they are, unless a workspace sets a cookie without a name
whose value the portal reads as its session. -/
theorem credentials_stay_iff (hregistry : AppAuthHandoffRegistry.create cookieName handoffs = .ok registry)
    (hhandoff : requireHandoff registry noAuth appId = .ok handoff)
    (hoptions : proxyOptionsFor registry handoff input = .ok options)
    (htarget : ∀ headers, target.headers = some headers → ∃ provided, trustedHeaders provided = some headers) :
    CredentialsStay cookieName registry handoff (target.headers.getD [])
        (buildRequestHeaders request targetHost (workspaceOptions options target) upgrade)
        (rewriteResponseCookies isDate setCookies (responseCookiePolicy path (workspaceOptions options target))) ↔
      ∀ setCookie ∈ setCookies, ¬NamelessSession cookieName setCookie.toList := by
  have htrusted : Trusted (target.headers.getD []) := by
    cases hheaders : target.headers with
    | none => exact ⟨List.nodup_nil, by simp⟩
    | some headers =>
      obtain ⟨provided, hprovided⟩ := htarget headers hheaders
      exact trustedHeaders_trusted hprovided
  obtain ⟨haccepted, -⟩ := AppAuthHandoffRegistry.create_ok hregistry
  obtain ⟨-, hstrip, -⟩ := proxyOptionsFor_ok hoptions
  have hblocked : toLowerCase (trim cookieName) ∈
      (responseCookiePolicy path (workspaceOptions options target)).strippedNames := by
    change _ ∈ normalizedNameSet options.stripResponseCookieNames
    rw [hstrip]
    exact session_blocked hregistry handoff _
  have hstripped : "" ∉ (responseCookiePolicy path (workspaceOptions options target)).strippedNames := by
    intro hmem
    have htruthy := (List.mem_filter.1 hmem).2
    cases htruthy
  have hwritten := @written_is_no_session isDate cookieName _ setCookies hblocked hstripped
    (fun name hname => rootScoped_plain haccepted hhandoff hoptions hname)
  constructor
  · intro h
    exact hwritten.1 h.responses
  · intro hnamed
    constructor
    · intro cookie hcookie
      apply no_session_forwarded
      intro part hpart name hname
      exact (forwarded_names hregistry hhandoff hoptions htrusted hcookie hpart hname).1
    · intro cookie hcookie part hpart name hname
      exact forwarded_names hregistry hhandoff hoptions htrusted hcookie hpart hname
    · exact buildRequestHeaders_lower
    · intro name hname v hv
      exact control_of_provider htrusted hname hv
    · intro name value hvalue
      exact value_of_provider htrusted hvalue
    · exact hwritten.2 hnamed

end Setting

/-! ## An App with a cookie of its own -/

def notesHandoff : AppAuthHandoff where
  appId := "notes"
  managedCookieNames := ["notes_session"]
  proxyOptions _ := { rootScopedCookieNames := some ["notes_session"] }

def notesRegistry : AppAuthHandoffRegistry :=
  ⟨"openapp_session", [("notes", notesHandoff)], [("notes_session", notesHandoff)]⟩

def notesOptions : ProxyOptions where
  stripCookieNames := some ["openapp_session"]
  stripResponseCookieNames := some ["openapp_session"]
  rootScopedCookieNames := some ["notes_session"]
  secureRootScopedCookies := some true

/-- The headers of a request with two cookies. -/
def notesRequest : IncomingHeaders where
  headers := Headers.set (Headers.set .empty "authorization" (some (.one "Bearer x"))) "cookie"
    (some (.one "openapp_session=x; notes_session=y"))
  lower := by decide +kernel

/-- The credentials stay where they are when an App sets a cookie of its own. -/
theorem notes_session_stays :
    CredentialsStay "openapp_session" notesRegistry notesHandoff [("authorization", "Basic eg==")]
      (buildRequestHeaders notesRequest "notes:3000"
        (workspaceOptions notesOptions ⟨none, some [("authorization", "Basic eg==")]⟩) false)
      (rewriteResponseCookies (fun _ => false) ["notes_session=z; Path=/"]
        (responseCookiePolicy "/instances/one"
          (workspaceOptions notesOptions ⟨none, some [("authorization", "Basic eg==")]⟩))) := by
  have hregistry : AppAuthHandoffRegistry.create "openapp_session" [notesHandoff] = .ok notesRegistry := rfl
  have hhandoff : requireHandoff notesRegistry [] "notes" = .ok notesHandoff := rfl
  have hoptions : proxyOptionsFor notesRegistry notesHandoff ⟨"one", true⟩ = .ok notesOptions := rfl
  have htarget : ∀ headers, (⟨none, some [("authorization", "Basic eg==")]⟩ : AccessTarget).headers = some headers →
      ∃ provided, trustedHeaders provided = some headers := by
    intro headers hheaders
    cases hheaders
    exact ⟨[("Authorization", "Basic eg==")], by decide +kernel⟩
  apply (credentials_stay_iff hregistry hhandoff hoptions htarget).2
  intro setCookie hmem
  rw [List.mem_singleton.1 hmem]
  unfold NamelessSession
  decide +kernel

/-- A cookie without a name can have the session for its value. -/
theorem nameless_session_crosses :
    ¬CredentialsStay "openapp_session" notesRegistry notesHandoff []
      (buildRequestHeaders notesRequest "notes:3000" (workspaceOptions notesOptions ⟨none, none⟩) false)
      (rewriteResponseCookies (fun _ => false) ["=openapp_session=x"]
        (responseCookiePolicy "/instances/one" (workspaceOptions notesOptions ⟨none, none⟩))) := by
  intro h
  have hresponse := h.responses "=openapp_session=x; Path=/instances/one/" (by decide +kernel)
  have hread : readSessionToken "openapp_session" (some (echo "=openapp_session=x; Path=/instances/one/".toList)) none =
      some "x".toList := by
    decide +kernel
  rw [hread] at hresponse
  cases hresponse

end OpenApp.Proxy
