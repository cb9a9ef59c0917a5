import Mathlib.Data.List.ReduceOption
import OpenApp.Proxy.CookieScope

/-!
# Cookies for the whole host

A cookie that an App shares with the host is put together anew: its pair, and attributes of the proxy's
own, but for an age that is taken over.
-/

namespace OpenApp.Proxy

open Script Separated

/-- The attributes of a cookie for the whole host, as a browser reads them. -/
structure RootScoped (httpOnly secure : Bool) (cookie : List Char) : Prop where
  attributes : ∃ age : Option Attribute, (∀ a ∈ age, a.name = "max-age".toList ∨ a.name = "expires".toList) ∧
    readAttributes cookie = ⟨"path".toList, "/".toList⟩ :: (age.toList ++
      ⟨"samesite".toList, "Lax".toList⟩ :: ((if httpOnly then [⟨"httponly".toList, []⟩] else []) ++
        if secure then [⟨"secure".toList, []⟩] else []))

/-- The attributes without a value. -/
def flags (httpOnly secure : Bool) : List (List Char) :=
  (if httpOnly then ["HttpOnly".toList] else []) ++ if secure then ["Secure".toList] else []

/-- The age that is taken over. -/
def ageOf (isDate : List Char → Bool) (attributes : List (List Char)) : Option (List Char) :=
  (validMaxAge attributes).or (validExpires isDate attributes)

theorem intercalate_blank (part : List Char) (parts : List (List Char)) :
    [';', ' '].intercalate (part :: parts) = part ++ glue ';' (parts.map (' ' :: ·)) := by
  induction parts generalizing part with
  | nil => simp
  | cons next parts ih =>
    rw [List.intercalate_cons_cons, ih, List.map_cons, glue_cons, List.append_assoc]
    rfl

theorem validMaxAge_eq {attributes : List (List Char)} {age : List Char} (h : validMaxAge attributes = some age) :
    ∃ n : Nat, age = "Max-Age=".toList ++ (toString n).toList := by
  unfold validMaxAge at h
  obtain ⟨part, -, hage⟩ := Option.bind_eq_some_iff.1 h
  obtain ⟨n, -, rfl⟩ := Option.map_eq_some_iff.1 hage
  exact ⟨_, rfl⟩

theorem digits_plain {n : Nat} {c : Char} (hc : c ∈ (toString n).toList) : c.isDigit = true := by
  have hc : c ∈ (Nat.repr n).toList := hc
  rw [Nat.toList_repr] at hc
  exact Nat.isDigit_of_mem_toDigits (by decide) (by decide) hc

theorem maxAge_reads (n : Nat) :
    (readAttribute ("Max-Age=".toList ++ (toString n).toList)).name = "max-age".toList ∧
      ';' ∉ "Max-Age=".toList ++ (toString n).toList := by
  constructor
  · have hsign : "Max-Age=".toList ++ (toString n).toList = "Max-Age".toList ++ '=' :: (toString n).toList := by simp
    have hstrip : (strip isBlank "Max-Age".toList).map Char.toLower = "max-age".toList := by decide
    rw [hsign, readAttribute_sign (by simp), hstrip]
  · intro hmem
    rcases List.mem_append.1 hmem with hmem | hmem
    · simp at hmem
    · cases digits_plain hmem

theorem validExpires_mem {isDate : List Char → Bool} {attributes : List (List Char)} {part : List Char}
    (h : validExpires isDate attributes = some part) :
    part ∈ attributes ∧ ∃ word rest, part = word ++ '=' :: rest ∧ word.map fold = "expires".toList := by
  unfold validExpires at h
  refine ⟨List.mem_of_find?_eq_some h, ?_⟩
  have hfound := List.find?_some h
  rw [Bool.and_eq_true] at hfound
  obtain ⟨⟨m, rest⟩, hm⟩ := Option.isSome_iff_exists.1 hfound.1
  obtain ⟨rfl, hfold⟩ := matchText_eq_some hm
  have hsign : "expires=".toList = "expires".toList ++ ['='] := by simp
  rw [hsign] at hfold
  obtain ⟨word, sign, rfl, hword, hsign⟩ := List.map_eq_append_iff.1 hfold
  obtain ⟨c, rfl, hc⟩ := List.map_eq_singleton_iff.1 hsign
  have hc : c = '=' := by
    apply eq_of_toLower _ (by decide)
    exact toLower_of_fold hc (by decide) (by decide)
  subst hc
  exact ⟨word, rest, by rw [List.append_assoc, List.singleton_append], hword⟩

/-- What the proxy takes for a date is read under a name of that length. -/
theorem expires_reads {word rest : List Char} (h : word.map fold = "expires".toList) :
    (readAttribute (word ++ '=' :: rest)).name = word.map Char.toLower := by
  have hsign : '=' ∉ word := not_mem_of_fold h (by decide) (by simp)
  have hplain : ∀ c ∈ word, isBlank c = false := by
    intro c hc
    unfold isBlank
    rw [Bool.or_eq_false_iff, decide_eq_false_iff_not, decide_eq_false_iff_not]
    constructor
    · rintro rfl
      exact not_mem_of_fold h (by decide) (by simp) hc
    · rintro rfl
      exact not_mem_of_fold h (by decide) (by simp) hc
  have hne : word ≠ [] := by
    rintro rfl
    simp at h
  have hstrip : strip isBlank ([] ++ word) = [].dropWhile isBlank ++ word :=
    strip_append (fun b hb => hplain b (List.mem_of_head? hb)) (fun b hb => hplain b (List.mem_of_getLast? hb)) hne
  rw [List.nil_append, List.dropWhile_nil, List.nil_append] at hstrip
  rw [readAttribute_sign hsign, hstrip]

section Written

variable {isDate : List Char → Bool} {httpOnly secure : Bool} {pair : List Char} {kept : List (List Char)}

/-- What is put together. -/
theorem rewriteRootScopedCookie_eq (hpair : ';' ∉ pair) (hkept : ∀ p ∈ kept, ';' ∉ p) :
    rewriteRootScopedCookie isDate (pair ++ glue ';' kept) httpOnly secure =
      [';', ' '].intercalate ((if trimText pair = [] then [] else [trimText pair]) ++
        "Path=/".toList :: ((ageOf isDate (kept.map trimText)).toList ++ "SameSite=Lax".toList :: flags httpOnly secure)) := by
  unfold rewriteRootScopedCookie ageOf
  dsimp only
  rw [splitCookie_glue hpair hkept, List.map_cons, List.headD_cons, List.tail_cons]
  apply congrArg
  have hage : ∀ age, validMaxAge (kept.map trimText) = some age → age ≠ [] := by
    intro age hage
    obtain ⟨n, rfl⟩ := validMaxAge_eq hage
    simp
  have hexpires : ∀ age, validExpires isDate (kept.map trimText) = some age → age ≠ [] := by
    intro age hage
    obtain ⟨-, word, rest, rfl, -⟩ := validExpires_mem hage
    simp
  generalize validMaxAge (kept.map trimText) = maxAge at hage
  generalize validExpires isDate (kept.map trimText) = expires at hexpires
  by_cases hnil : trimText pair = []
  · cases maxAge with
    | some age =>
      cases httpOnly <;> cases secure <;> simp [flags, List.reduceOption, hnil, hage age rfl]
    | none =>
      cases expires with
      | some age => cases httpOnly <;> cases secure <;> simp [flags, List.reduceOption, hnil, hexpires age rfl]
      | none => cases httpOnly <;> cases secure <;> simp [flags, List.reduceOption, hnil]
  · cases maxAge with
    | some age =>
      cases httpOnly <;> cases secure <;> simp [flags, List.reduceOption, hnil, hage age rfl]
    | none =>
      cases expires with
      | some age => cases httpOnly <;> cases secure <;> simp [flags, List.reduceOption, hnil, hexpires age rfl]
      | none => cases httpOnly <;> cases secure <;> simp [flags, List.reduceOption, hnil]

/-- The age is read as an age, or under a name that starts like that of a date. -/
theorem ageOf_reads {attributes : List (List Char)} {part : List Char} (h : ageOf isDate attributes = some part) :
    (validMaxAge attributes = some part ∧ (readAttribute part).name = "max-age".toList ∧ ';' ∉ part) ∨
      (validMaxAge attributes = none ∧ validExpires isDate attributes = some part ∧ part ∈ attributes ∧
        (readAttribute part).name.head? = some 'e') := by
  unfold ageOf at h
  cases hage : validMaxAge attributes with
  | some age =>
    rw [hage, Option.some_or] at h
    cases h
    obtain ⟨n, rfl⟩ := validMaxAge_eq hage
    exact .inl ⟨rfl, maxAge_reads n⟩
  | none =>
    rw [hage, Option.none_or] at h
    obtain ⟨hmem, word, rest, rfl, hword⟩ := validExpires_mem h
    refine .inr ⟨rfl, h, hmem, ?_⟩
    rw [expires_reads hword]
    cases word with
    | nil => simp at hword
    | cons c word =>
      have hc : fold c = 'e' := by
        simp only [String.reduceToList, List.map_cons, List.cons.injEq] at hword
        exact hword.1
      rw [List.map_cons, List.head?_cons, toLower_of_fold hc (by decide) (by decide)]

theorem flags_read : (flags httpOnly secure).map readAttribute =
    (if httpOnly then [⟨"httponly".toList, []⟩] else []) ++ if secure then [⟨"secure".toList, []⟩] else [] := by
  have hhttp : readAttribute "HttpOnly".toList = ⟨"httponly".toList, []⟩ := by
    simp [readAttribute, strip, isBlank, List.rdropWhile]
  have hsecure : readAttribute "Secure".toList = ⟨"secure".toList, []⟩ := by
    simp [readAttribute, strip, isBlank, List.rdropWhile]
  unfold flags
  rw [List.map_append]
  rw [← hhttp, ← hsecure]
  cases httpOnly <;> cases secure <;> rfl

theorem path_reads : readAttribute "Path=/".toList = ⟨"path".toList, "/".toList⟩ := by
  simp [readAttribute, strip, isBlank, List.rdropWhile]

theorem sameSite_reads : readAttribute "SameSite=Lax".toList = ⟨"samesite".toList, "Lax".toList⟩ := by
  simp [readAttribute, strip, isBlank, List.rdropWhile]

/-- The attributes that are written behind the pair. -/
def writtenAttributes (age : Option (List Char)) (httpOnly secure : Bool) : List (List Char) :=
  age.toList ++ "SameSite=Lax".toList :: flags httpOnly secure

theorem flags_plain : ∀ part ∈ flags httpOnly secure, ';' ∉ part := by
  intro part hpart
  unfold flags at hpart
  rcases List.mem_append.1 hpart with hpart | hpart
  · split at hpart
    · rw [List.mem_singleton.1 hpart]
      simp
    · cases hpart
  · split at hpart
    · rw [List.mem_singleton.1 hpart]
      simp
    · cases hpart

theorem writtenAttributes_plain (hkept : ∀ p ∈ kept, ';' ∉ p) :
    ∀ part ∈ writtenAttributes (ageOf isDate (kept.map trimText)) httpOnly secure, ';' ∉ part := by
  intro part hpart
  rcases List.mem_append.1 hpart with hpart | hpart
  · rw [Option.mem_toList] at hpart
    rcases ageOf_reads hpart with ⟨-, -, hsemicolon⟩ | ⟨-, -, hmem, -⟩
    · exact hsemicolon
    · obtain ⟨p, hp, rfl⟩ := List.mem_map.1 hmem
      intro hmem
      exact hkept p hp (mem_trimText hmem)
  · rcases List.mem_cons.1 hpart with rfl | hpart
    · simp
    · exact flags_plain part hpart

/-- Behind each semicolon there is a blank, which the browser does not see. -/
theorem readAttributes_intercalate {first : List Char} {parts : List (List Char)} (hfirst : ';' ∉ first)
    (hparts : ∀ p ∈ parts, ';' ∉ p) :
    readAttributes ([';', ' '].intercalate (first :: parts)) = parts.map readAttribute := by
  have hblank : ∀ p ∈ parts.map (' ' :: ·), ';' ∉ p := by
    intro p hp
    obtain ⟨q, hq, rfl⟩ := List.mem_map.1 hp
    rw [List.mem_cons, not_or]
    exact ⟨by decide, hparts q hq⟩
  rw [readAttributes, intercalate_blank, splitCookie_glue hfirst hblank, List.tail_cons, List.map_map]
  apply List.map_congr_left
  intro part _
  exact readAttribute_blank part

theorem writtenAttributes_read (age : Option (List Char)) :
    (writtenAttributes age httpOnly secure).map readAttribute =
      (age.map readAttribute).toList ++ ⟨"samesite".toList, "Lax".toList⟩ ::
        ((if httpOnly then [⟨"httponly".toList, []⟩] else []) ++ if secure then [⟨"secure".toList, []⟩] else []) := by
  rw [writtenAttributes, List.map_append, List.map_cons, sameSite_reads, flags_read]
  cases age <;> rfl

/-- Where there is no pair, the path takes its place and is no attribute any more. -/
theorem not_rootScoped_of_blank (hkept : ∀ p ∈ kept, ';' ∉ p) :
    ¬RootScoped httpOnly secure ([';', ' '].intercalate
      ("Path=/".toList :: writtenAttributes (ageOf isDate (kept.map trimText)) httpOnly secure)) := by
  rintro ⟨age', -, hattributes⟩
  rw [readAttributes_intercalate (by simp) (writtenAttributes_plain hkept), writtenAttributes_read] at hattributes
  have hhead := congrArg (fun l => l.head?.map Attribute.name) hattributes
  cases hage : ageOf isDate (kept.map trimText) with
  | none =>
    rw [hage] at hhead
    have hname : "samesite".toList = "path".toList := Option.some.inj hhead
    simp at hname
  | some part =>
    rw [hage] at hhead
    have hname : (readAttribute part).name = "path".toList := Option.some.inj hhead
    rcases ageOf_reads hage with ⟨-, hmax, -⟩ | ⟨-, -, -, hfirst⟩
    · rw [hmax] at hname
      simp at hname
    · rw [hname] at hfirst
      simp at hfirst

/-- Where there is one, all depends on the age. -/
theorem rootScoped_of_pair (hpair : ';' ∉ pair) (hkept : ∀ p ∈ kept, ';' ∉ p) :
    RootScoped httpOnly secure ([';', ' '].intercalate
        (pair :: "Path=/".toList :: writtenAttributes (ageOf isDate (kept.map trimText)) httpOnly secure)) ↔
      ∀ part, ageOf isDate (kept.map trimText) = some part →
        (readAttribute part).name = "max-age".toList ∨ (readAttribute part).name = "expires".toList := by
  have hpath : ';' ∉ "Path=/".toList := by simp
  have hattributes := readAttributes_intercalate hpair (List.forall_mem_cons.2 ⟨hpath,
    @writtenAttributes_plain isDate httpOnly secure kept hkept⟩)
  rw [List.map_cons, path_reads, writtenAttributes_read] at hattributes
  constructor
  · rintro ⟨age', hnames, heq⟩ part hpart
    rw [hattributes] at heq
    have htoList := List.append_cancel_right (List.cons.inj heq).2
    have hage : age' = some (readAttribute part) := by
      rw [← Option.mem_toList, ← htoList, hpart]
      exact List.mem_singleton_self _
    exact hnames _ hage
  · intro hnames
    refine ⟨(ageOf isDate (kept.map trimText)).map readAttribute, ?_, hattributes⟩
    intro a ha
    obtain ⟨part, hpart, rfl⟩ := Option.map_eq_some_iff.1 ha
    exact hnames part hpart

/-- A cookie for the whole host has the attributes of the proxy, if there is a pair and the age is one. -/
theorem rootScoped_iff (hpair : ';' ∉ pair) (hkept : ∀ p ∈ kept, ';' ∉ p) :
    RootScoped httpOnly secure (rewriteRootScopedCookie isDate (pair ++ glue ';' kept) httpOnly secure) ↔
      trimText pair ≠ [] ∧ (validMaxAge (kept.map trimText) = none → ∀ part,
        validExpires isDate (kept.map trimText) = some part → (readAttribute part).name = "expires".toList) := by
  rw [rewriteRootScopedCookie_eq hpair hkept, ← writtenAttributes]
  by_cases hnil : trimText pair = []
  · rw [if_pos hnil, List.nil_append]
    constructor
    · intro h
      exact absurd h (not_rootScoped_of_blank hkept)
    · rintro ⟨hne, -⟩
      exact absurd hnil hne
  · rw [if_neg hnil, List.singleton_append, rootScoped_of_pair (fun hmem => hpair (mem_trimText hmem)) hkept]
    constructor
    · intro hnames
      refine ⟨hnil, fun hnone part hpart => ?_⟩
      have hage : ageOf isDate (kept.map trimText) = some part := by
        rw [ageOf, hnone, Option.none_or, hpart]
      rcases ageOf_reads hage with ⟨hsome, -, -⟩ | ⟨-, -, -, hhead⟩
      · rw [hsome] at hnone
        cases hnone
      · rcases hnames part hage with hname | hname
        · rw [hname] at hhead
          simp at hhead
        · exact hname
    · rintro ⟨-, hname⟩ part hpart
      rcases ageOf_reads hpart with ⟨-, hmax, -⟩ | ⟨hnone, hsome, -, -⟩
      · exact .inl hmax
      · exact .inr (hname hnone part hsome)

end Written

/-! ## Every cookie -/

/-- A cookie that is written back stays with the instance, or with the host where it is to be shared. -/
def StaysInside (id : List Char) (policy : ResponseCookiePolicy) (value written : String) : Prop :=
  if cookieName value ∈ policy.rootScopedNames then
    RootScoped (policy.httpOnlyRootScopedNames.contains (cookieName value)) policy.secureRootScopedCookies written.toList
  else StaysBelow (instancePath id) written.toList

/-- There is a pair, and the age that is taken over is one to a browser too. -/
def PairAndAge (isDate : List Char → Bool) (cookie : List Char) : Prop :=
  trimText ((splitCookie cookie).headD []) ≠ [] ∧ (validMaxAge ((keptParts cookie).map trimText) = none → ∀ part,
    validExpires isDate ((keptParts cookie).map trimText) = some part → (readAttribute part).name = "expires".toList)

/-- The cookie is read by the browser as it is by the proxy. -/
def ReadAlike (isDate : List Char → Bool) (id : List Char) (policy : ResponseCookiePolicy) (value : String) : Prop :=
  if cookieName value ∈ policy.rootScopedNames then PairAndAge isDate value.toList
  else DomainsWritten value.toList ∧ PathsWritten (instancePath id) value.toList ∧ PathsPlain value.toList

theorem pairAndAge_iff {isDate : List Char → Bool} {httpOnly secure : Bool} {cookie : List Char} :
    RootScoped httpOnly secure (rewriteRootScopedCookie isDate (removeDomains false cookie) httpOnly secure) ↔
      PairAndAge isDate cookie := by
  obtain ⟨pair, hsplit, hremoved, hpair, -⟩ := removeDomains_eq cookie
  rw [hremoved, rootScoped_iff hpair fun p hp => not_mem_keptParts hp, PairAndAge, hsplit, List.headD_cons]

theorem stays_of_readAlike {isDate : List Char → Bool} {id : List Char} {policy : ResponseCookiePolicy} {value : String}
    (hid : InstanceId id) (hpath : policy.normalizedPrefix.toList = instancePath id) :
    (ReadAlike isDate id policy value → StaysInside id policy value (rewriteSetCookie isDate value policy)) ∧
      ((cookieName value ∉ policy.rootScopedNames → PathsPlain value.toList) →
        StaysInside id policy value (rewriteSetCookie isDate value policy) → ReadAlike isDate id policy value) := by
  unfold ReadAlike StaysInside
  by_cases hroot : cookieName value ∈ policy.rootScopedNames
  · have hwritten : (rewriteSetCookie isDate value policy).toList = rewriteRootScopedCookie isDate
        (removeDomains false value.toList) (policy.httpOnlyRootScopedNames.contains (cookieName value))
          policy.secureRootScopedCookies := by
      unfold rewriteSetCookie
      dsimp only
      rw [if_pos hroot, String.toList_ofList]
    rw [if_pos hroot, if_pos hroot, hwritten, pairAndAge_iff]
    exact ⟨fun h => h, fun _ h => h⟩
  · rw [if_neg hroot, if_neg hroot]
    constructor
    · rintro ⟨hdomains, hpaths, hplain⟩
      exact (unscoped_stays_iff hid hpath hroot hplain).2 ⟨hdomains, hpaths⟩
    · intro hplain hstays
      obtain ⟨hdomains, hpaths⟩ := (unscoped_stays_iff hid hpath hroot (hplain hroot)).1 hstays
      exact ⟨hdomains, hpaths, hplain hroot⟩

/-- A blank before the sign hides a domain from the proxy and not from the browser. -/
theorem blank_keeps_domain : ¬ ∀ (isDate : List Char → Bool) (id : List Char) (options : ProxyOptions) (value : String),
    InstanceId id → ∀ written ∈ rewriteResponseCookies isDate [value]
      (responseCookiePolicy (.ofList (instancePath id)) options),
        StaysInside id (responseCookiePolicy (.ofList (instancePath id)) options) value written := by
  intro hall
  have hid : InstanceId ['7', 'f'] := ⟨by decide, by decide, by decide, by decide⟩
  have hstays := hall (fun _ => true) _ {} "theme=dark; Domain =example.com" hid _ List.mem_cons_self
  have hdomain : ∃ a ∈ readAttributes (rewriteSetCookie (fun _ => true) "theme=dark; Domain =example.com"
      (responseCookiePolicy (.ofList (instancePath ['7', 'f'])) {})).toList, a.name = "domain".toList := by
    decide +kernel
  obtain ⟨a, ha, hname⟩ := hdomain
  exact hstays.domain a ha hname

/-- Where browser and proxy read a cookie alike it stays inside; and unless a path refers back to its own
cookie, it does so only there. -/
theorem cookies_stay_inside (isDate : List Char → Bool) (id : List Char) (options : ProxyOptions) (value : String)
    (hid : InstanceId id) :
    let policy := responseCookiePolicy (.ofList (instancePath id)) options
    let kept := cookieName value ∉ policy.strippedNames
    ((kept → ReadAlike isDate id policy value) →
        ∀ written ∈ rewriteResponseCookies isDate [value] policy, StaysInside id policy value written) ∧
      ((cookieName value ∉ policy.rootScopedNames → PathsPlain value.toList) →
        (∀ written ∈ rewriteResponseCookies isDate [value] policy, StaysInside id policy value written) →
          kept → ReadAlike isDate id policy value) := by
  intro policy kept
  have hstays := @stays_of_readAlike isDate id policy value hid (normalizePrefix_instancePath hid)
  have hmem : ∀ written, written ∈ rewriteResponseCookies isDate [value] policy ↔
      kept ∧ written = rewriteSetCookie isDate value policy := by
    intro written
    unfold rewriteResponseCookies
    by_cases hkept : cookieName value ∈ policy.strippedNames
    · simp [hkept, kept]
    · simp [hkept, kept]
  constructor
  · intro hread written hwritten
    obtain ⟨hkept, rfl⟩ := (hmem written).1 hwritten
    exact hstays.1 (hread hkept)
  · intro hplain hall hkept
    exact hstays.2 hplain (hall _ ((hmem _).2 ⟨hkept, rfl⟩))

/-- A theme stays with its workspace. -/
theorem theme_stays_inside :
    StaysInside ['7', 'f'] (responseCookiePolicy (.ofList (instancePath ['7', 'f'])) {})
      "theme=dark; Path=/api; Domain=upstream.internal" "theme=dark; Path=/instances/7f/api" := by
  have hid : InstanceId ['7', 'f'] := ⟨by decide, by decide, by decide, by decide⟩
  have hkept : keptParts "theme=dark; Path=/api; Domain=upstream.internal".toList = [" Path=/api".toList] := by
    decide +kernel
  have hfirst : ∀ before part after written value, FirstPath [" Path=/api".toList] before part after written value →
      before = [] ∧ part = " Path=/api".toList ∧ after = [] ∧ value = "/api".toList := by
    rintro before part after written value ⟨hparts, -, hpart⟩
    cases before with
    | nil =>
      obtain ⟨rfl, rfl⟩ := List.cons.inj hparts
      have hmatch : matchAttribute "path".toList " Path=/api".toList = some (" Path=".toList, "/api".toList) := by
        decide +kernel
      rw [hmatch] at hpart
      cases hpart
      exact ⟨rfl, rfl, rfl, rfl⟩
    | cons b before => simp at hparts
  refine (cookies_stay_inside (fun _ => true) _ _ _ hid).1 (fun _ => ?_) _ (by decide +kernel)
  unfold ReadAlike
  rw [if_neg (by decide +kernel)]
  refine ⟨by unfold DomainsWritten; decide +kernel, ?_, ?_⟩
  · intro before part after written value h
    rw [hkept] at h
    obtain ⟨rfl, rfl, rfl, rfl⟩ := hfirst _ _ _ _ _ h
    exact .inl (by decide +kernel)
  · intro before part after written value h
    rw [hkept] at h
    obtain ⟨rfl, rfl, rfl, rfl⟩ := hfirst _ _ _ _ _ h
    decide +kernel

end OpenApp.Proxy
