import OpenApp.Proxy.UserAgent

/-!
# Whether a cookie stays with its workspace

A cookie of a workspace is written back under the path of its instance. The proxy and the browser do not
take the same parts for a domain or a path, and a path may refer back to the text it is put into; where
none of that comes into play the browser keeps the cookie below the instance.
-/

namespace OpenApp.Proxy

open Script Separated

/-! ## Paths of an instance -/

/-- The identifier of an instance, as it stands in a path. -/
structure InstanceId (id : List Char) : Prop where
  nonempty : id ≠ []
  slash : '/' ∉ id
  semicolon : ';' ∉ id
  dollar : '$' ∉ id

def instancePath (id : List Char) : List Char :=
  "/instances/".toList ++ id

theorem instancePath_cons (id : List Char) :
    instancePath id = '/' :: 'i' :: 'n' :: 's' :: 't' :: 'a' :: 'n' :: 'c' :: 'e' :: 's' :: '/' :: id := by
  unfold instancePath
  simp

theorem InstanceId.not_mem {id : List Char} (h : InstanceId id) {c : Char} (hc : c = ';' ∨ c = '$') :
    c ∉ instancePath id := by
  rw [instancePath_cons]
  rcases hc with rfl | rfl
  · simp [h.semicolon]
  · simp [h.dollar]

theorem normalizePrefix_instancePath {id : List Char} (h : InstanceId id) :
    (normalizePrefix (.ofList (instancePath id))).toList = instancePath id := by
  unfold normalizePrefix
  rw [String.toList_ofList, String.toList_ofList]
  have hdrop : (instancePath id).dropWhile (· = '/') = (instancePath id).tail := by
    rw [instancePath_cons]
    simp
  have hlast : (instancePath id).tail.reverse.dropWhile (· = '/') = (instancePath id).tail.reverse := by
    have htail : (instancePath id).tail = ['i', 'n', 's', 't', 'a', 'n', 'c', 'e', 's', '/'] ++ id := by
      rw [instancePath_cons]
      rfl
    rw [htail, List.reverse_append]
    cases hrev : id.reverse with
    | nil => exact absurd (List.reverse_eq_nil_iff.1 hrev) h.nonempty
    | cons c rest =>
      have hmem : c ∈ id := by
        rw [← List.mem_reverse, hrev]
        exact List.mem_cons_self
      have hc : c ≠ '/' := by
        rintro rfl
        exact h.slash hmem
      simp [hc]
  rw [hdrop, hlast, List.reverse_reverse, instancePath_cons]
  rfl

theorem collapseSlashes_append {front rest : List Char} (h : '/' ∉ front) :
    collapseSlashes (front ++ rest) = front ++ collapseSlashes rest := by
  induction front with
  | nil => rfl
  | cons c front ih =>
    rw [List.mem_cons, not_or] at h
    rw [List.cons_append, collapseSlashes, if_neg (fun hc => h.1 hc.1.symm), ih h.2]
    rfl

theorem collapseSlashes_slash (rest : List Char) : ∃ rest', collapseSlashes ('/' :: rest) = '/' :: rest' := by
  induction rest with
  | nil => exact ⟨[], rfl⟩
  | cons c rest ih =>
    rw [collapseSlashes]
    split
    · next hc =>
      have hc' : c = '/' := by simpa using hc.2
      subst hc'
      exact ih
    · exact ⟨_, rfl⟩

theorem mem_of_mem_collapseSlashes {c : Char} {cs : List Char} (h : c ∈ collapseSlashes cs) : c ∈ cs := by
  induction cs with
  | nil => cases h
  | cons d cs ih =>
    rw [collapseSlashes] at h
    split at h
    · exact List.mem_cons_of_mem d (ih h)
    · rcases List.mem_cons.1 h with rfl | h
      · exact List.mem_cons_self
      · exact List.mem_cons_of_mem d (ih h)

theorem collapseSlashes_instancePath {id : List Char} (h : InstanceId id) (rest : List Char) :
    collapseSlashes (instancePath id ++ rest) = instancePath id ++ collapseSlashes rest := by
  have hid : ¬id.head? = some '/' := by
    intro hhead
    exact h.slash (List.mem_of_head? hhead)
  have hhead : (id ++ rest).head? = id.head? := by
    cases id with
    | nil => exact absurd rfl h.nonempty
    | cons c id => rfl
  have hmiddle : collapseSlashes ('/' :: (id ++ rest)) = '/' :: (id ++ collapseSlashes rest) := by
    rw [collapseSlashes, if_neg (fun hc => hid (hhead ▸ hc.2)), collapseSlashes_append h.slash]
  rw [instancePath_cons]
  have hfront : collapseSlashes (['/', 'i', 'n', 's', 't', 'a', 'n', 'c', 'e', 's'] ++ '/' :: (id ++ rest)) =
      ['/', 'i', 'n', 's', 't', 'a', 'n', 'c', 'e', 's'] ++ collapseSlashes ('/' :: (id ++ rest)) := by
    rw [List.cons_append, collapseSlashes, if_neg (by simp), collapseSlashes_append (by decide)]
    rfl
  rw [hmiddle] at hfront
  exact hfront

/-! ## References in a path -/

/-- What of a reference was read. -/
inductive Reading
  | plain
  | dollar
  | dollarZero

/-- Whether a replacement takes something over from the text it is put into. -/
def refersBack : Reading → List Char → Bool
  | _, [] => false
  | .dollar, c :: cs =>
    if c = '$' then refersBack .plain cs
    else if c = '&' ∨ c = '\x60' ∨ c = '\x27' ∨ c = '1' then true
    else if c = '0' then refersBack .dollarZero cs
    else refersBack .plain cs
  | .dollarZero, c :: cs =>
    if c = '1' then true else if c = '$' then refersBack .dollar cs else refersBack .plain cs
  | .plain, c :: cs => if c = '$' then refersBack .dollar cs else refersBack .plain cs

theorem refersBack_slash (r : Reading) (cs : List Char) : refersBack r ('/' :: cs) = refersBack .plain cs := by
  cases r <;> simp [refersBack]

theorem refersBack_collapseSlashes (r : Reading) (cs : List Char) :
    refersBack r (collapseSlashes cs) = refersBack r cs := by
  induction cs generalizing r with
  | nil => rfl
  | cons c cs ih =>
    rw [collapseSlashes]
    split
    · next hc =>
      obtain ⟨rfl, hhead⟩ := hc
      obtain ⟨rest, rfl⟩ := List.head?_eq_some_iff.1 hhead
      rw [ih, refersBack_slash, refersBack_slash, refersBack_slash]
    · cases r <;> simp only [refersBack, ih]

theorem refersBack_plain {cs : List Char} (h : refersBack .dollar cs = false) (hhead : cs.head? ≠ some '$') :
    refersBack .plain cs = false := by
  cases cs with
  | nil => rfl
  | cons c cs =>
    have hc : c ≠ '$' := by simpa using hhead
    rw [refersBack, if_neg hc] at h
    rw [refersBack, if_neg hc]
    split at h
    · cases h
    · split at h
      · cases cs with
        | nil => rfl
        | cons d cs =>
          rw [refersBack] at h
          split at h
          · cases h
          · rw [refersBack]
            exact h
      · exact h

/-- Without a reference nothing comes into the text but what is in the replacement. -/
theorem mem_of_mem_substitute {m : PathMatch} {cs : List Char} (h : refersBack .plain cs = false) {c : Char}
    (hc : c ∈ substitute m cs) : c ∈ cs := by
  induction cs using substitute.induct with
  | case1 => cases hc
  | case2 cs ih =>
    rw [substitute] at hc
    rcases List.mem_cons.1 hc with rfl | hc
    · exact List.mem_cons_self
    · exact List.mem_cons_of_mem _ (List.mem_cons_of_mem _ (ih (by simpa [refersBack] using h) hc))
  | case3 => simp [refersBack] at h
  | case4 => simp [refersBack] at h
  | case5 => simp [refersBack] at h
  | case6 => simp [refersBack] at h
  | case7 => simp [refersBack] at h
  | case8 d cs hdollar _ _ _ _ _ ih =>
    have hplain : refersBack .plain cs = false := by
      rw [refersBack] at h
      split at h
      · next hd =>
        apply refersBack_plain h
        intro hhead
        obtain ⟨rest, rfl⟩ := List.head?_eq_some_iff.1 hhead
        exact hdollar rest hd rfl
      · exact h
    rw [substitute] at hc
    · rcases List.mem_cons.1 hc with rfl | hc
      · exact List.mem_cons_self
      · exact List.mem_cons_of_mem d (ih hplain hc)
    all_goals assumption

/-! ## Names -/

/-- A letter that is neither an s nor a k is found as itself only. -/
theorem toLower_of_fold {c a : Char} (h : fold c = a) (hs : a ≠ 's') (hk : a ≠ 'k') : c.toLower = a := by
  unfold fold at h
  split at h
  · exact absurd h.symm hs
  · split at h
    · exact absurd h.symm hk
    · exact h

theorem map_toLower_of_fold {word name : List Char} (h : word.map fold = name) (hs : 's' ∉ name) (hk : 'k' ∉ name) :
    word.map Char.toLower = name := by
  subst h
  apply List.map_congr_left
  intro c hc
  apply toLower_of_fold rfl
  · intro heq
    exact hs (heq ▸ List.mem_map_of_mem hc)
  · intro heq
    exact hk (heq ▸ List.mem_map_of_mem hc)

theorem not_mem_of_fold {word name : List Char} (h : word.map fold = name) {c : Char} (hc : fold c = c) (hname : c ∉ name) :
    c ∉ word := by
  intro hmem
  apply hname
  rw [← h, ← hc]
  exact List.mem_map_of_mem hmem

/-- What is written as an attribute is read as one whose name ends in the same way. -/
theorem written_reads {name part written rest : List Char} (h : matchAttribute name part = some (written, rest))
    (hne : name ≠ []) (hname : ∀ c ∈ name, c ≠ 's' ∧ c ≠ 'k' ∧ c ≠ '=' ∧ c ≠ ' ' ∧ c ≠ '\t') :
    ∃ front, ∀ value, readAttribute (written ++ value) = ⟨front ++ name, strip isBlank value⟩ := by
  obtain ⟨blanks, word, rfl, -, hword, hblanks⟩ := matchAttribute_eq_some h
  have hsign : '=' ∉ blanks ++ word := by
    rw [List.mem_append, not_or]
    constructor
    · intro hmem
      exact absurd (hblanks _ hmem) (by decide)
    · exact not_mem_of_fold hword (by decide) fun hmem => (hname _ hmem).2.2.1 rfl
  have hplain : ∀ c ∈ word, isBlank c = false := by
    intro c hc
    unfold isBlank
    rw [Bool.or_eq_false_iff, decide_eq_false_iff_not, decide_eq_false_iff_not]
    constructor
    · rintro rfl
      exact not_mem_of_fold hword (by decide) (fun hmem => (hname _ hmem).2.2.2.1 rfl) hc
    · rintro rfl
      exact not_mem_of_fold hword (by decide) (fun hmem => (hname _ hmem).2.2.2.2 rfl) hc
  have hwordne : word ≠ [] := by
    rintro rfl
    exact hne hword.symm
  refine ⟨(blanks.dropWhile isBlank).map Char.toLower, fun value => ?_⟩
  rw [List.append_assoc, List.singleton_append, readAttribute_sign hsign,
    strip_append (fun b hb => hplain b (List.mem_of_head? hb)) (fun b hb => hplain b (List.mem_of_getLast? hb)) hwordne,
    List.map_append, map_toLower_of_fold hword (fun hmem => (hname _ hmem).1 rfl) fun hmem => (hname _ hmem).2.1 rfl]

theorem not_domain_of_isPath {part : List Char} (h : isPath part = true) :
    (readAttribute part).name ≠ "domain".toList := by
  obtain ⟨⟨written, rest⟩, hwritten⟩ := Option.isSome_iff_exists.1 h
  obtain ⟨front, hreads⟩ := written_reads hwritten (by simp) (by simp)
  obtain ⟨_, _, -, rfl, -, -⟩ := matchAttribute_eq_some hwritten
  rw [hreads]
  intro heq
  have hsuffix : "path".toList <:+ "domain".toList := ⟨front, heq⟩
  exact absurd hsuffix (by decide)

/-! ## The cookie that is written back -/

/-- The parts around the first one that is written as a path. -/
structure FirstPath (parts before : List (List Char)) (part : List Char) (after : List (List Char))
    (written value : List Char) : Prop where
  parts : parts = before ++ part :: after
  before : ∀ p ∈ before, isPath p = false
  part : matchAttribute "path".toList part = some (written, value)

theorem firstPath_or (parts : List (List Char)) : (∀ p ∈ parts, isPath p = false) ∨
    ∃ before part after written value, FirstPath parts before part after written value := by
  induction parts with
  | nil =>
    left
    intro p hp
    cases hp
  | cons p parts ih =>
    cases hp : isPath p
    · rcases ih with hnone | ⟨before, part, after, written, value, hparts, hbefore, hpart⟩
      · exact .inl (List.forall_mem_cons.2 ⟨hp, hnone⟩)
      · refine .inr ⟨p :: before, part, after, written, value, ?_, List.forall_mem_cons.2 ⟨hp, hbefore⟩, hpart⟩
        rw [hparts, List.cons_append]
    · obtain ⟨⟨written, value⟩, hwritten⟩ := Option.isSome_iff_exists.1 hp
      exact .inr ⟨[], p, parts, written, value, rfl, by simp, hwritten⟩

/-- The path that is written for an instance starts with the path of the instance. -/
theorem scopedPath_eq {id : List Char} (h : InstanceId id) (value : Option (List Char)) :
    ∃ rest, scopedPath value (instancePath id) = instancePath id ++ '/' :: rest ∧
      (∀ c, c ∈ rest → c = '/' ∨ c ∈ value.getD []) ∧
        refersBack .plain ('/' :: rest) = refersBack .plain (value.getD []) := by
  unfold scopedPath
  dsimp only
  rw [collapseSlashes_instancePath h]
  generalize hpath : (if (value.getD []).head? = some '/' then value.getD [] else '/' :: value.getD []) = path
  obtain ⟨tail, htail⟩ : ∃ tail, path = '/' :: tail := by
    split at hpath
    · next hhead =>
      obtain ⟨tail, htail⟩ := List.head?_eq_some_iff.1 hhead
      exact ⟨tail, hpath ▸ htail⟩
    · exact ⟨_, hpath.symm⟩
  obtain ⟨rest, hrest⟩ := collapseSlashes_slash tail
  refine ⟨rest, by rw [htail, hrest], ?_, ?_⟩
  · intro c hc
    have hmem : c ∈ path := by
      rw [htail]
      apply mem_of_mem_collapseSlashes
      rw [hrest]
      exact List.mem_cons_of_mem _ hc
    rw [← hpath] at hmem
    split at hmem
    · exact .inr hmem
    · exact List.mem_cons.1 hmem
  · rw [← hrest, ← htail, refersBack_collapseSlashes, ← hpath]
    split
    · rfl
    · exact refersBack_slash _ _

theorem substitute_append (m : PathMatch) {front cs : List Char} (h : '$' ∉ front) :
    substitute m (front ++ cs) = front ++ substitute m cs := by
  induction front with
  | nil => rfl
  | cons c front ih =>
    rw [List.mem_cons, not_or] at h
    have hc : c ≠ '$' := Ne.symm h.1
    rw [List.cons_append, substitute]
    · rw [ih h.2]
      rfl
    all_goals simp [hc]

theorem splitCookie_glue {pair : List Char} {parts : List (List Char)} (hpair : ';' ∉ pair)
    (hparts : ∀ p ∈ parts, ';' ∉ p) : splitCookie (pair ++ glue ';' parts) = pair :: parts :=
  splitOn_glue hpair hparts

theorem mem_trimText {c : Char} {cs : List Char} (h : c ∈ trimText cs) : c ∈ cs := by
  unfold trimText trim at h
  rw [String.toList_ofList, String.toList_ofList] at h
  have hstrip : c ∈ strip isWhitespace cs := h
  exact mem_of_mem_strip hstrip

theorem not_mem_keptParts {cookie : List Char} {part : List Char} (h : part ∈ keptParts cookie) : ';' ∉ part := by
  obtain ⟨_, -, -, -, hparts⟩ := removeDomains_eq cookie
  exact hparts part (List.mem_of_mem_filter h)

section Written

variable {isDate : List Char → Bool} {value : String} {policy : ResponseCookiePolicy} {id : List Char}

/-- A cookie without a path gets that of the instance. -/
theorem written_without_path (hid : InstanceId id) (hpath : policy.normalizedPrefix.toList = instancePath id)
    (hroot : cookieName value ∉ policy.rootScopedNames) (hnone : ∀ p ∈ keptParts value.toList, isPath p = false) :
    ∃ pair, splitCookie (rewriteSetCookie isDate value policy).toList =
      pair :: (keptParts value.toList ++ [' ' :: "Path=".toList ++ (instancePath id ++ ['/'])]) := by
  obtain ⟨pair, -, hremoved, hpair, -⟩ := removeDomains_eq value.toList
  have hscoped : scopedPath none (instancePath id) = instancePath id ++ ['/'] := by
    unfold scopedPath
    dsimp only
    rw [collapseSlashes_instancePath hid]
    rfl
  have hmatch : matchPath (removeDomains false value.toList) = none := by
    rw [hremoved, matchPath_part hpair, matchPath_none (fun p hp => not_mem_keptParts hp) hnone]
    rfl
  refine ⟨pair, ?_⟩
  unfold rewriteSetCookie
  dsimp only
  rw [if_neg hroot, hmatch]
  dsimp only
  rw [hpath, hscoped, hremoved, String.toList_ofList, List.append_assoc, List.append_assoc]
  have hlast : "; Path=".toList ++ (instancePath id ++ ['/']) =
      glue ';' [' ' :: "Path=".toList ++ (instancePath id ++ ['/'])] := by
    simp
  rw [hlast, ← glue_append]
  apply splitCookie_glue hpair
  intro p hp
  rcases List.mem_append.1 hp with hp | hp
  · exact not_mem_keptParts hp
  · rw [List.mem_singleton.1 hp]
    simp [hid.not_mem (.inl rfl)]

/-- In a cookie with a path the first one becomes one of the instance. -/
theorem written_with_path (hid : InstanceId id) (hpath : policy.normalizedPrefix.toList = instancePath id)
    (hroot : cookieName value ∉ policy.rootScopedNames) {before after : List (List Char)} {part written text : List Char}
    (hfirst : FirstPath (keptParts value.toList) before part after written text)
    (hplain : refersBack .plain (trimText text) = false) :
    ∃ pair path, splitCookie (rewriteSetCookie isDate value policy).toList =
        pair :: (before ++ (written ++ path) :: after) ∧ instancePath id ++ ['/'] <+: path := by
  obtain ⟨pair, -, hremoved, hpair, -⟩ := removeDomains_eq value.toList
  obtain ⟨hparts, hbefore, hwritten⟩ := hfirst
  have hsemicolon : ∀ p ∈ before ++ part :: after, ';' ∉ p := by
    intro p hp
    exact not_mem_keptParts (hparts ▸ hp)
  obtain ⟨m, hm⟩ : ∃ m : PathMatch, m = ⟨pair ++ glue ';' before, ';' :: written, text, glue ';' after⟩ := ⟨_, rfl⟩
  have hmatch : matchPath (removeDomains false value.toList) = some m := by
    rw [hremoved, matchPath_part hpair, hparts, hm,
      matchPath_some (fun p hp => hsemicolon p (List.mem_append_left _ hp)) hbefore
        (hsemicolon part (by simp)) hwritten]
    rfl
  obtain ⟨rest, hscoped, hchars, hrefers⟩ := scopedPath_eq hid (some (trimText text))
  have hrest : refersBack .plain rest = false := by
    rw [refersBack_slash] at hrefers
    rw [hrefers]
    exact hplain
  have htail : ∀ c, c ∈ substitute m rest → c ∈ rest := fun c hc => mem_of_mem_substitute hrest hc
  have hsubstitute : substitute m ('$' :: '1' :: (instancePath id ++ '/' :: rest)) =
      m.written ++ (instancePath id ++ '/' :: substitute m rest) := by
    rw [substitute, substitute_append m (hid.not_mem (.inr rfl)), ← List.singleton_append,
      substitute_append m (by simp)]
    rfl
  generalize substitute m rest = tail at htail hsubstitute
  obtain ⟨_, _, -, hpart, -, -⟩ := matchAttribute_eq_some hwritten
  have hpartsemi : ';' ∉ written ++ text := hpart ▸ hsemicolon part (by simp)
  rw [List.mem_append, not_or] at hpartsemi
  have hnew : ';' ∉ written ++ (instancePath id ++ '/' :: tail) := by
    intro hmem
    rcases List.mem_append.1 hmem with hmem | hmem
    · exact hpartsemi.1 hmem
    · rcases List.mem_append.1 hmem with hmem | hmem
      · exact hid.not_mem (.inl rfl) hmem
      · rcases List.mem_cons.1 hmem with heq | hmem
        · cases heq
        · rcases hchars _ (htail _ hmem) with heq | hmem
          · cases heq
          · exact hpartsemi.2 (mem_trimText hmem)
  refine ⟨pair, instancePath id ++ '/' :: tail, ?_, ?_⟩
  · unfold rewriteSetCookie
    dsimp only
    rw [if_neg hroot, hmatch]
    dsimp only
    have hvalue : m.value = text := by rw [hm]
    rw [hpath, hvalue, hscoped, String.toList_ofList, hsubstitute, hm]
    have hglue : pair ++ glue ';' before ++ (';' :: written ++ (instancePath id ++ '/' :: tail)) ++ glue ';' after =
        pair ++ glue ';' (before ++ (written ++ (instancePath id ++ '/' :: tail)) :: after) := by
      simp
    dsimp only
    rw [hglue]
    apply splitCookie_glue hpair
    intro p hp
    rcases List.mem_append.1 hp with hp | hp
    · exact hsemicolon p (List.mem_append_left _ hp)
    · rcases List.mem_cons.1 hp with rfl | hp
      · exact hnew
      · exact hsemicolon p (List.mem_append_right _ (List.mem_cons_of_mem part hp))
  · exact ⟨tail, by rw [List.append_assoc, List.singleton_append]⟩

end Written

/-! ## Below the path of the instance -/

/-- What a browser takes for a domain is written as one. -/
def DomainsWritten (cookie : List Char) : Prop :=
  ∀ part ∈ (splitCookie cookie).tail, (readAttribute part).name = "domain".toList → isDomain part = true

/-- The last path a browser sees is the one the proxy writes, or is one of the instance already. -/
def PathsWritten (path cookie : List Char) : Prop :=
  ∀ before part after written value, FirstPath (keptParts cookie) before part after written value →
    match lastPath after with
    | some last => path ++ ['/'] <+: last
    | none =>
      (readAttribute part).name = "path".toList ∨ ∃ last, lastPath before = some last ∧ path ++ ['/'] <+: last

/-- The path that is rewritten does not refer back to the cookie. -/
def PathsPlain (cookie : List Char) : Prop :=
  ∀ before part after written value, FirstPath (keptParts cookie) before part after written value →
    refersBack .plain (trimText value) = false

theorem domainsWritten_iff {cookie : List Char} :
    DomainsWritten cookie ↔ ∀ part ∈ keptParts cookie, (readAttribute part).name ≠ "domain".toList := by
  unfold DomainsWritten keptParts
  constructor
  · intro h part hpart heq
    have hdomain := h part (List.mem_of_mem_filter hpart) heq
    rw [List.mem_filter, hdomain] at hpart
    cases hpart.2
  · intro h part hpart heq
    by_contra hnot
    exact h part (List.mem_filter.2 ⟨hpart, by simpa using hnot⟩) heq

/-- A path of the instance is still one when the blanks behind it are gone. -/
theorem prefix_of_strip {id path : List Char} (h : instancePath id ++ ['/'] <+: path) :
    instancePath id ++ ['/'] <+: strip isBlank path := by
  obtain ⟨rest, rfl⟩ := h
  apply prefix_strip
  · rw [instancePath_cons]
    intro b hb
    cases hb
    decide
  · intro b hb
    rw [List.getLast?_concat] at hb
    cases hb
    decide
  · simp

/-- What is read of a cookie whose first path was written anew. -/
theorem lastPath_rewritten {before after : List (List Char)} {written value path : List Char} {part : List Char}
    (hpart : matchAttribute "path".toList part = some (written, value)) :
    lastPath (before ++ (written ++ path) :: after) = (lastPath after).or
      ((if (readAttribute part).name = "path".toList then some (strip isBlank path) else none).or (lastPath before)) := by
  obtain ⟨front, hreads⟩ := written_reads hpart (by simp) (by simp)
  obtain ⟨_, _, -, rfl, -, -⟩ := matchAttribute_eq_some hpart
  rw [lastPath_append, lastPath_cons, hreads, hreads, Option.or_assoc]

theorem pathsWritten_iff {id : List Char} {before after : List (List Char)} {part written value path : List Char}
    (hpart : matchAttribute "path".toList part = some (written, value)) (hpath : instancePath id ++ ['/'] <+: path) :
    (∃ last, lastPath (before ++ (written ++ path) :: after) = some last ∧ instancePath id ++ ['/'] <+: last) ↔
      match lastPath after with
      | some last => instancePath id ++ ['/'] <+: last
      | none => (readAttribute part).name = "path".toList ∨
        ∃ last, lastPath before = some last ∧ instancePath id ++ ['/'] <+: last := by
  rw [lastPath_rewritten hpart]
  cases lastPath after with
  | some last => simp
  | none =>
    rw [Option.none_or]
    dsimp only
    split
    · next hname =>
      have hstrip := prefix_of_strip hpath
      simp [hname, hstrip]
    · next hname =>
      rw [Option.none_or]
      exact (or_iff_right hname).symm

section Written

variable {isDate : List Char → Bool} {value : String} {policy : ResponseCookiePolicy} {id : List Char}

theorem unscoped_stays_iff (hid : InstanceId id) (hpath : policy.normalizedPrefix.toList = instancePath id)
    (hroot : cookieName value ∉ policy.rootScopedNames) (hplain : PathsPlain value.toList) :
    StaysBelow (instancePath id) (rewriteSetCookie isDate value policy).toList ↔
      DomainsWritten value.toList ∧ PathsWritten (instancePath id) value.toList := by
  have hhead : (instancePath id).head? = some '/' := by
    rw [instancePath_cons]
    rfl
  have hstays : ∀ cookie, StaysBelow (instancePath id) cookie ↔
      (∀ a ∈ readAttributes cookie, a.name ≠ "domain".toList) ∧
        ∃ last, lastPath (splitCookie cookie).tail = some last ∧ instancePath id ++ ['/'] <+: last := by
    intro cookie
    constructor
    · rintro ⟨hdomain, hlast⟩
      exact ⟨hdomain, (staysBelow_path_iff hhead).1 hlast⟩
    · rintro ⟨hdomain, hlast⟩
      exact ⟨hdomain, (staysBelow_path_iff hhead).2 hlast⟩
  have hfirst : ∀ before part after written text, FirstPath (keptParts value.toList) before part after written text →
      (StaysBelow (instancePath id) (rewriteSetCookie isDate value policy).toList ↔ DomainsWritten value.toList ∧
        match lastPath after with
        | some last => instancePath id ++ ['/'] <+: last
        | none => (readAttribute part).name = "path".toList ∨
          ∃ last, lastPath before = some last ∧ instancePath id ++ ['/'] <+: last) := by
    intro before part after written text hfirst
    obtain ⟨pair, path, hsplit, hfront⟩ := @written_with_path isDate _ _ _ hid hpath hroot _ _ _ _ _ hfirst
      (hplain _ _ _ _ _ hfirst)
    have hispath : isPath part = true := Option.isSome_iff_exists.2 ⟨_, hfirst.part⟩
    have hnew : (readAttribute (written ++ path)).name = (readAttribute part).name := by
      obtain ⟨front, hreads⟩ := written_reads hfirst.part (by simp) (by simp)
      obtain ⟨_, _, -, rfl, -, -⟩ := matchAttribute_eq_some hfirst.part
      rw [hreads, hreads]
    rw [hstays, readAttributes, hsplit, List.tail_cons, pathsWritten_iff hfirst.part hfront, domainsWritten_iff,
      hfirst.parts]
    apply and_congr_left'
    simp only [List.map_append, List.map_cons, List.mem_append, List.mem_cons, List.mem_map]
    constructor
    · intro h p hp
      rcases hp with hp | rfl | hp
      · exact h _ (.inl ⟨p, hp, rfl⟩)
      · exact not_domain_of_isPath hispath
      · exact h _ (.inr (.inr ⟨p, hp, rfl⟩))
    · rintro h a (⟨p, hp, rfl⟩ | rfl | ⟨p, hp, rfl⟩)
      · exact h p (.inl hp)
      · rw [hnew]
        exact not_domain_of_isPath hispath
      · exact h p (.inr (.inr hp))
  rcases firstPath_or (keptParts value.toList) with hnone | ⟨before, part, after, written, text, hsome⟩
  · -- no part is written as a path, so that of the instance is put behind them
    have hwritten : PathsWritten (instancePath id) value.toList := by
      intro before part after written text hsome
      have hispath : isPath part = true := Option.isSome_iff_exists.2 ⟨_, hsome.part⟩
      rw [hnone part (by rw [hsome.parts]; simp)] at hispath
      cases hispath
    obtain ⟨pair, hsplit⟩ := @written_without_path isDate _ _ _ hid hpath hroot hnone
    have hread : readAttribute (' ' :: "Path=".toList ++ (instancePath id ++ ['/'])) =
        ⟨"path".toList, strip isBlank (instancePath id ++ ['/'])⟩ := by
      have hsign : ' ' :: "Path=".toList ++ (instancePath id ++ ['/']) =
          ' ' :: ("Path".toList ++ '=' :: (instancePath id ++ ['/'])) := by
        simp
      rw [hsign, readAttribute_blank, readAttribute_sign (by simp)]
      congr 1
    rw [hstays, readAttributes, hsplit, List.tail_cons, domainsWritten_iff, lastPath_append, lastPath_cons, hread,
      if_pos rfl]
    have hlast : ∃ last, ((lastPath []).or (some (strip isBlank (instancePath id ++ ['/'])))).or
        (lastPath (keptParts value.toList)) = some last ∧ instancePath id ++ ['/'] <+: last :=
      ⟨_, rfl, prefix_of_strip (List.prefix_refl _)⟩
    simp only [hlast, hwritten, and_true, List.map_append, List.mem_append, List.mem_map, List.map_singleton,
      List.mem_singleton, hread]
    constructor
    · intro h p hp
      exact h _ (.inl ⟨p, hp, rfl⟩)
    · rintro h a (⟨p, hp, rfl⟩ | rfl)
      · exact h p hp
      · simp
  · constructor
    · intro h
      refine ⟨((hfirst _ _ _ _ _ hsome).1 h).1, fun _ _ _ _ _ hother => ((hfirst _ _ _ _ _ hother).1 h).2⟩
    · rintro ⟨hdomains, hpaths⟩
      exact (hfirst _ _ _ _ _ hsome).2 ⟨hdomains, hpaths _ _ _ _ _ hsome⟩

end Written

end OpenApp.Proxy
