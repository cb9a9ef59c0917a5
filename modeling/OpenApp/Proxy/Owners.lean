import OpenApp.Keyed
import OpenApp.Policy.Runnable
import OpenApp.Proxy.CookieParts
import OpenApp.Proxy.Handoff
import OpenApp.Word

/-!
# Every cookie has one owner

In a registry that was accepted no two cookies differ in case only. So the names that are blocked for an
App are those of the portal and of every other App, and the options keep all of them.
-/

namespace OpenApp.Proxy

open Fallible Script Separated Policy

/-! ## Lower case -/

/-- The lower case of a letter. -/
def lowerChar (c : Char) : Char :=
  if c.toNat = 0x212a then 'k' else c.toLower

theorem toList_toLowerCase (s : String) : (toLowerCase s).toList = s.toList.map lowerChar := by
  unfold toLowerCase lowerChar
  rw [String.toList_ofList]

theorem lowerChar_or (c : Char) :
    lowerChar c = c ∨ (97 ≤ (lowerChar c).toNat ∧ (lowerChar c).toNat ≤ 122 ∧ isWhitespace c = false) := by
  unfold lowerChar
  split
  · next h =>
    refine .inr ⟨by decide, by decide, ?_⟩
    unfold isWhitespace
    rw [h]
    decide
  · rcases toLower_or c with h | ⟨hle, hge, h⟩
    · exact .inl h
    · refine .inr ⟨by omega, by omega, ?_⟩
      unfold isWhitespace
      simp only [List.mem_cons, List.not_mem_nil, or_false, Bool.or_eq_false_iff, decide_eq_false_iff_not,
        Bool.and_eq_false_iff]
      omega

theorem isWhitespace_lowerChar (c : Char) : isWhitespace (lowerChar c) = isWhitespace c := by
  rcases lowerChar_or c with h | ⟨hle, hge, h⟩
  · rw [h]
  · rw [h]
    unfold isWhitespace
    simp only [List.mem_cons, List.not_mem_nil, or_false, Bool.or_eq_false_iff, decide_eq_false_iff_not,
      Bool.and_eq_false_iff]
    omega

theorem lowerChar_lowerChar (c : Char) : lowerChar (lowerChar c) = lowerChar c := by
  rcases lowerChar_or c with h | ⟨hle, hge, -⟩
  · rw [h, h]
  · generalize lowerChar c = d at hle hge
    unfold lowerChar
    rw [if_neg (by omega)]
    rcases toLower_or d with h | ⟨_, hge', -⟩
    · exact h
    · omega

theorem toLowerCase_toLowerCase (s : String) : toLowerCase (toLowerCase s) = toLowerCase s := by
  apply String.toList_inj.1
  rw [toList_toLowerCase, toList_toLowerCase, List.map_map]
  apply List.map_congr_left
  intro c _
  exact lowerChar_lowerChar c

/-- Only the letters change. -/
theorem mem_toLowerCase {c : Char} {s : String} (hc : c.toNat < 97) (h : c ∈ (toLowerCase s).toList) : c ∈ s.toList := by
  rw [toList_toLowerCase] at h
  obtain ⟨d, hd, rfl⟩ := List.mem_map.1 h
  rcases lowerChar_or d with heq | ⟨hle, -, -⟩
  · rw [heq]
    exact hd
  · omega

theorem truthy_toLowerCase (s : String) : truthy (toLowerCase s) = truthy s := by
  have hiff : toLowerCase s = "" ↔ s = "" := by
    rw [← String.toList_eq_nil_iff, ← String.toList_eq_nil_iff, toList_toLowerCase, List.map_eq_nil_iff]
  unfold truthy
  simp only [ne_eq, hiff]

/-! ## Names -/

theorem isWhitespace_of_isTokenChar {c : Char} (h : isTokenChar c = true) : isWhitespace c = false := by
  have hrange : 33 ≤ c.toNat ∧ c.toNat ≤ 126 := by
    unfold isTokenChar at h
    rw [Bool.or_eq_true] at h
    rcases h with h | h
    · have := isAlphanum_iff.1 h
      omega
    · simp only [String.reduceToList, List.contains_cons, List.contains_nil, Bool.or_eq_true, beq_iff_eq,
        Bool.false_eq_true, or_false] at h
      rcases h with rfl | rfl | rfl | rfl | rfl | rfl | rfl | rfl | rfl | rfl | rfl | rfl | rfl | rfl | rfl <;> decide
  unfold isWhitespace
  simp only [List.mem_cons, List.not_mem_nil, or_false, Bool.or_eq_false_iff, decide_eq_false_iff_not,
    Bool.and_eq_false_iff]
  omega

theorem validateCookieName_ok {value name : String} (h : validateCookieName value = .ok name) :
    name = trim value ∧ truthy name = true ∧ ∀ c ∈ name.toList, isTokenChar c = true := by
  unfold validateCookieName at h
  dsimp only at h
  split at h
  · next hname =>
    cases h
    exact ⟨rfl, hname.1, List.all_eq_true.1 hname.2⟩
  · cases h

/-- A name that is one in lower case has no white space around it. -/
theorem trim_of_lower {raw name : String} (hname : ∀ c ∈ name.toList, isTokenChar c = true)
    (h : toLowerCase raw = toLowerCase name) : trim raw = raw := by
  apply trim_of_all
  intro c hc
  have hmem : lowerChar c ∈ (toLowerCase name).toList := by
    rw [← h, toList_toLowerCase]
    exact List.mem_map_of_mem hc
  rw [toList_toLowerCase] at hmem
  obtain ⟨d, hd, heq⟩ := List.mem_map.1 hmem
  rw [← isWhitespace_lowerChar, ← heq, isWhitespace_lowerChar]
  exact isWhitespace_of_isTokenChar (hname d hd)

/-! ## The registry -/

namespace AppAuthHandoffRegistry

/-- The owner a raw name stands for. -/
def Owns (cookieOwners : List (String × AppAuthHandoff)) (handoff : AppAuthHandoff) : Prop :=
  ∀ raw ∈ handoff.managedCookieNames, (trim raw, handoff) ∈ cookieOwners

/-- No cookie is owned twice, and every owner declared it. -/
structure OneOwner (cookieOwners : List (String × AppAuthHandoff)) : Prop where
  nodup : (cookieOwners.map fun owner => toLowerCase owner.1).Nodup
  valid : ∀ owner ∈ cookieOwners, truthy owner.1 = true ∧ ∀ c ∈ owner.1.toList, isTokenChar c = true

theorem addCookies_ok {portalCookieName : String} {handoff : AppAuthHandoff} {names : List String}
    {cookieOwners result : List (String × AppAuthHandoff)} (h : OneOwner cookieOwners)
    (hok : addCookies portalCookieName handoff names cookieOwners = .ok result) :
    OneOwner result ∧ cookieOwners ⊆ result ∧ ∀ raw ∈ names, (trim raw, handoff) ∈ result := by
  induction names generalizing cookieOwners with
  | nil =>
    cases hok
    exact ⟨h, List.Subset.refl _, by simp⟩
  | cons raw names ih =>
    rw [addCookies, bind_ok] at hok
    obtain ⟨name, hname, hok⟩ := hok
    obtain ⟨rfl, htoken⟩ := validateCookieName_ok hname
    split at hok
    · cases hok
    · split at hok
      · cases hok
      · next hfree =>
        have hnext : OneOwner (cookieOwners ++ [(trim raw, handoff)]) := by
          constructor
          · rw [List.map_append, List.map_singleton, ← List.concat_eq_append]
            apply h.nodup.concat
            intro hmem
            obtain ⟨owner, howner, heq⟩ := List.mem_map.1 hmem
            exact hfree (List.any_eq_true.2 ⟨owner, howner, decide_eq_true heq⟩)
          · intro owner howner
            rcases List.mem_append.1 howner with howner | howner
            · exact h.valid owner howner
            · rw [List.mem_singleton.1 howner]
              exact htoken
        obtain ⟨hresult, hsubset, hnames⟩ := ih hnext hok
        refine ⟨hresult, fun owner howner => hsubset (List.mem_append_left _ howner), ?_⟩
        intro raw' hraw
        rcases List.mem_cons.1 hraw with rfl | hraw
        · exact hsubset (List.mem_append_right _ (List.mem_singleton_self _))
        · exact hnames raw' hraw

/-- What holds of every registry that is accepted. -/
structure Accepted (registry : AppAuthHandoffRegistry) : Prop where
  owners : OneOwner registry.cookieOwners
  owns : ∀ entry ∈ registry.handoffs, Owns registry.cookieOwners entry.2
  ids : ∀ entry ∈ registry.handoffs, normalizeAppIdOrUndefined entry.2.appId = some entry.1

theorem addHandoffs_ok {handoffs : List AppAuthHandoff} {registry result : AppAuthHandoffRegistry}
    (h : Accepted registry) (hok : addHandoffs handoffs registry = .ok result) :
    Accepted result ∧ result.portalCookieName = registry.portalCookieName := by
  induction handoffs generalizing registry with
  | nil =>
    cases hok
    exact ⟨h, rfl⟩
  | cons handoff rest ih =>
    rw [addHandoffs, bind_ok] at hok
    obtain ⟨appId, happ, hok⟩ := hok
    split at hok
    · cases hok
    · rw [bind_ok] at hok
      obtain ⟨cookieOwners, hcookies, hok⟩ := hok
      obtain ⟨howners, hsubset, hnames⟩ := addCookies_ok h.owners hcookies
      have hnext : Accepted { registry with
          handoffs := registry.handoffs ++ [(appId, handoff)], cookieOwners := cookieOwners } := by
        refine ⟨howners, ?_, ?_⟩
        · intro entry hentry
          rcases List.mem_append.1 hentry with hentry | hentry
          · exact fun raw hraw => hsubset (h.owns entry hentry raw hraw)
          · rw [List.mem_singleton.1 hentry]
            exact hnames
        · intro entry hentry
          rcases List.mem_append.1 hentry with hentry | hentry
          · exact h.ids entry hentry
          · rw [List.mem_singleton.1 hentry]
            unfold normalizeAppId at happ
            split at happ
            · next hid =>
              cases happ
              exact hid
            · cases happ
      obtain ⟨haccepted, hportal⟩ := ih hnext hok
      exact ⟨haccepted, hportal⟩

theorem create_ok {portalCookieName : String} {handoffs : List AppAuthHandoff} {registry : AppAuthHandoffRegistry}
    (h : create portalCookieName handoffs = .ok registry) :
    Accepted registry ∧ validateCookieName portalCookieName = .ok registry.portalCookieName := by
  rw [create, bind_ok] at h
  obtain ⟨name, hname, h⟩ := h
  have hempty : Accepted ⟨name, [], []⟩ := by
    refine ⟨⟨List.nodup_nil, ?_⟩, ?_, ?_⟩
    · intro owner howner
      cases howner
    · intro entry hentry
      cases hentry
    · intro entry hentry
      cases hentry
  obtain ⟨haccepted, hportal⟩ := addHandoffs_ok hempty h
  exact ⟨haccepted, hportal ▸ hname⟩

end AppAuthHandoffRegistry

/-! ## The ids of the registry -/

/-- The id of an App is as it is written where it is valid. -/
theorem normalized_of_valid {value : String} (h : Policy.validAppId value = true) :
    normalizeAppIdOrUndefined value = some value := by
  have hword : isLowerWord 63 value = true := h
  unfold normalizeAppIdOrUndefined
  rw [normalized_of_isLowerWord hword, if_pos h]

theorem normalized_twice {value appId : String} (h : normalizeAppIdOrUndefined value = some appId) :
    normalizeAppIdOrUndefined appId = some appId := by
  have hvalid : Policy.validAppId appId = true := by
    unfold normalizeAppIdOrUndefined at h
    obtain ⟨hvalid, heq⟩ := Option.ite_none_right_eq_some.1 h
    rw [← Option.some.inj heq]
    exact hvalid
  exact normalized_of_valid hvalid

theorem truthy_of_normalized {value appId : String} (h : normalizeAppIdOrUndefined value = some appId) :
    truthy value = true := by
  unfold truthy
  rw [decide_eq_true_eq]
  rintro rfl
  cases h

namespace AppAuthHandoffRegistry

theorem addHandoffs_distinct {handoffs : List AppAuthHandoff} {registry result : AppAuthHandoffRegistry}
    (h : (registry.handoffs.map Prod.fst).Nodup) (hok : addHandoffs handoffs registry = .ok result) :
    (result.handoffs.map Prod.fst).Nodup := by
  induction handoffs generalizing registry with
  | nil =>
    cases hok
    exact h
  | cons handoff rest ih =>
    rw [addHandoffs, bind_ok] at hok
    obtain ⟨appId, -, hok⟩ := hok
    split at hok
    · cases hok
    · next hnew =>
      rw [bind_ok] at hok
      obtain ⟨cookieOwners, -, hok⟩ := hok
      refine ih ?_ hok
      rw [List.map_append, List.nodup_append]
      refine ⟨h, List.nodup_singleton _, ?_⟩
      rintro a ha b hb rfl
      obtain ⟨entry, hentry, rfl⟩ := List.mem_map.1 ha
      apply hnew
      rw [List.any_eq_true]
      exact ⟨entry, hentry, decide_eq_true (List.mem_singleton.1 hb)⟩

/-- No two Apps of a registry have one id. -/
theorem create_distinct {portalCookieName : String} {handoffs : List AppAuthHandoff} {registry : AppAuthHandoffRegistry}
    (h : create portalCookieName handoffs = .ok registry) : (registry.handoffs.map Prod.fst).Nodup := by
  rw [create, bind_ok] at h
  obtain ⟨name, -, h⟩ := h
  have hempty : ((⟨name, [], []⟩ : AppAuthHandoffRegistry).handoffs.map Prod.fst).Nodup := List.nodup_nil
  exact addHandoffs_distinct hempty h

/-- An App is found under the id it was registered with. -/
theorem get_registered {portalCookieName : String} {handoffs : List AppAuthHandoff} {registry : AppAuthHandoffRegistry}
    (h : create portalCookieName handoffs = .ok registry) {entry : String × AppAuthHandoff}
    (hentry : entry ∈ registry.handoffs) : registry.get entry.1 = some entry.2 := by
  have hid := normalized_twice ((create_ok h).1.ids entry hentry)
  let entries : Keyed.Table (Prod.fst : String × AppAuthHandoff → String) := ⟨registry.handoffs, create_distinct h⟩
  have hfind : registry.handoffs.find? (fun e => e.1 = entry.1) = some entry :=
    Keyed.Table.mem_iff.1 (show entry ∈ entries.rows from hentry)
  unfold get
  rw [hid, Option.bind_eq_bind, Option.bind_some, hfind]
  rfl

end AppAuthHandoffRegistry

/-! ## The names that are blocked -/

theorem mem_setEntry {α : Type} {k : String} {v : α} {e : String × α} {l : List (String × α)}
    (h : e ∈ Map.setEntry k v l) : e = (k, v) ∨ e ∈ l := by
  induction l with
  | nil => exact .inl (List.mem_singleton.1 h)
  | cons e' l ih =>
    rw [Map.setEntry] at h
    split at h
    · rcases List.mem_cons.1 h with h | h
      · exact .inl h
      · exact .inr (List.mem_cons_of_mem e' h)
    · rcases List.mem_cons.1 h with h | h
      · exact .inr (h ▸ List.mem_cons_self)
      · exact (ih h).imp_right (List.mem_cons_of_mem e')

theorem key_setEntry {α : Type} {k k' : String} {v : α} {l : List (String × α)} (h : k' = k ∨ k' ∈ l.map Prod.fst) :
    k' ∈ (Map.setEntry k v l).map Prod.fst := by
  induction l with
  | nil =>
    rcases h with rfl | h
    · exact List.mem_singleton_self _
    · cases h
  | cons e' l ih =>
    rw [Map.setEntry]
    split
    · next heq =>
      rcases h with rfl | h
      · exact List.mem_cons_self
      · rcases List.mem_cons.1 h with rfl | h
        · exact heq ▸ List.mem_cons_self
        · exact List.mem_cons_of_mem _ h
    · rcases h with h | h
      · exact List.mem_cons_of_mem _ (ih (.inl h))
      · rcases List.mem_cons.1 h with rfl | h
        · exact List.mem_cons_self
        · exact List.mem_cons_of_mem _ (ih (.inr h))

/-- A name that is merged stays, in some spelling. -/
theorem mem_merged (names : List String) (merged : Map String)
    (hmerged : ∀ e ∈ merged.entries, e.1 = toLowerCase e.2 ∧ trim e.2 = e.2) (hnames : ∀ name ∈ names, trim name = name) :
    (∀ e ∈ (names.foldl (fun merged name => merged.set (toLowerCase name) name) merged).entries,
        e.1 = toLowerCase e.2 ∧ trim e.2 = e.2) ∧
      ∀ k, k ∈ merged.entries.map Prod.fst ∨ k ∈ names.map toLowerCase →
        k ∈ (names.foldl (fun merged name => merged.set (toLowerCase name) name) merged).entries.map Prod.fst := by
  induction names generalizing merged with
  | nil =>
    refine ⟨hmerged, ?_⟩
    rintro k (hk | hk)
    · exact hk
    · cases hk
  | cons name names ih =>
    have hset : ∀ e ∈ (merged.set (toLowerCase name) name).entries, e.1 = toLowerCase e.2 ∧ trim e.2 = e.2 := by
      intro e he
      rcases mem_setEntry he with rfl | he
      · exact ⟨rfl, hnames name List.mem_cons_self⟩
      · exact hmerged e he
    obtain ⟨hvalues, hkeys⟩ := ih (merged.set (toLowerCase name) name) hset
      fun name' hname => hnames name' (List.mem_cons_of_mem name hname)
    refine ⟨hvalues, ?_⟩
    rintro k (hk | hk)
    · exact hkeys k (.inl (key_setEntry (.inr hk)))
    · rcases List.mem_cons.1 hk with rfl | hk
      · exact hkeys _ (.inl (key_setEntry (.inl rfl)))
      · exact hkeys k (.inr hk)

theorem mem_mergeCookieNames {required : List String} {additional : Option (List String)} {name : String}
    (hname : name ∈ required) (htruthy : truthy (trim name) = true) :
    toLowerCase (trim name) ∈ normalizedNameSet (some (mergeCookieNames required additional)) := by
  have htrimmed : ∀ n ∈ ((required ++ additional.getD []).map trim).filter truthy, trim n = n := by
    intro n hn
    obtain ⟨raw, -, rfl⟩ := List.mem_map.1 (List.mem_of_mem_filter hn)
    exact trim_trim raw
  have hmem : trim name ∈ ((required ++ additional.getD []).map trim).filter truthy :=
    List.mem_filter.2 ⟨List.mem_map_of_mem (List.mem_append_left _ hname), htruthy⟩
  obtain ⟨hvalues, hkeys⟩ := mem_merged _ ⟨[]⟩ (by simp) htrimmed
  obtain ⟨e, he, hkey⟩ := List.mem_map.1 (hkeys _ (.inr (List.mem_map_of_mem hmem)))
  obtain ⟨hlower, htrim⟩ := hvalues e he
  unfold normalizedNameSet
  rw [List.mem_filter, Option.getD_some]
  constructor
  · rw [List.mem_map]
    refine ⟨e.2, List.mem_map_of_mem he, ?_⟩
    rw [htrim, ← hlower, hkey]
  · rw [truthy_toLowerCase]
    exact htruthy

/-- An App is in the registry, or has no cookies. -/
theorem requireHandoff_ok {registry : AppAuthHandoffRegistry} {noAuth : List String} {appId : String}
    {handoff : AppAuthHandoff} (h : requireHandoff registry noAuth appId = .ok handoff) :
    handoff ∈ registry.handoffs.map Prod.snd ∨ handoff.managedCookieNames = [] := by
  unfold requireHandoff at h
  split at h
  · cases h
  · split at h
    · next hget =>
      cases h
      unfold AppAuthHandoffRegistry.get at hget
      obtain ⟨_, -, hget⟩ := Option.bind_eq_some_iff.1 hget
      obtain ⟨mine, hmine, rfl⟩ := Option.map_eq_some_iff.1 hget
      exact .inl (List.mem_map_of_mem (List.mem_of_find?_eq_some hmine))
    · split at h
      · cases h
        exact .inr rfl
      · cases h

/-- What an App declares is its own. -/
theorem AppAuthHandoffRegistry.Accepted.owner {registry : AppAuthHandoffRegistry} (h : registry.Accepted)
    {handoff : AppAuthHandoff} (hmem : handoff ∈ registry.handoffs.map Prod.snd) {raw : String}
    (hraw : raw ∈ handoff.managedCookieNames) : (trim raw, handoff) ∈ registry.cookieOwners := by
  obtain ⟨entry, hentry, heq⟩ := List.mem_map.1 hmem
  have howner := h.owns entry hentry
  rw [heq] at howner
  exact howner raw hraw

/-- The cookies of another App are blocked. -/
theorem mem_blocked_of_other {registry : AppAuthHandoffRegistry} (h : registry.Accepted) {noAuth : List String}
    {appId : String} {handoff other : AppAuthHandoff} (hhandoff : requireHandoff registry noAuth appId = .ok handoff)
    (hother : other ∈ registry.handoffs.map Prod.snd) (hne : other ≠ handoff) {raw : String}
    (hraw : raw ∈ other.managedCookieNames) : trim raw ∈ blockedCookieNames registry handoff := by
  have howner := h.owner hother hraw
  apply List.mem_cons_of_mem
  rw [List.mem_filter]
  refine ⟨List.mem_map_of_mem howner, ?_⟩
  rw [Bool.not_eq_true', List.any_eq_false]
  intro owned howned heq
  have heq : toLowerCase owned = toLowerCase (trim raw) := of_decide_eq_true heq
  -- the App of the request has a cookie of this name, so it is in the registry itself
  rcases requireHandoff_ok hhandoff with hmine | hnone
  · have hmineOwns := h.owner hmine howned
    rw [trim_of_lower (h.owners.valid _ howner).2 heq] at hmineOwns
    have hsame := List.inj_on_of_nodup_map h.owners.nodup hmineOwns howner heq
    exact hne (congrArg Prod.snd hsame).symm
  · rw [hnone] at howned
    cases howned

end OpenApp.Proxy
