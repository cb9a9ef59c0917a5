import OpenApp.Forwarding.Policy

/-!
# The origins a policy allows

The entries of an allow list are read one after the other until one allows the origin. An entry that cannot be
read as a URL ends the search with a refusal, so what comes before it counts and what comes after it does not.
-/

namespace OpenApp.Forwarding

open Script

/-- `text.includes(part)` -/
def includes (text part : String) : Bool :=
  decide (part.toList <:+: text.toList)

/-- What an entry is compared as; `none` where `new URL` throws. -/
def candidateOf (parseUrl : String → Option Url) (value : String) : Option String :=
  if includes value "://" then (parseUrl value).map Url.origin else some (toLowerCase value)

def candidateAllows (parsed : Url) (candidate : String) : Bool :=
  if "*.".toList <+: candidate.toList then
    decide (candidate.toList.drop 1 <:+ (toLowerCase parsed.hostname).toList)
  else if includes candidate "://" then parsed.origin = candidate
  else toLowerCase parsed.hostname = toLowerCase (String.ofList (candidate.toList.takeWhile (· ≠ ':')))

/-- The search through the entries; `none` where it throws. -/
def someAllows (parseUrl : String → Option Url) (parsed : Url) : List String → Option Bool
  | [] => some false
  | value :: rest =>
    match candidateOf parseUrl value with
    | none => none
    | some candidate => if candidateAllows parsed candidate then some true else someAllows parseUrl parsed rest

def matchesAllowedOrigin (parseUrl : String → Option Url) (origin : String) (allowedHosts : List String) : Bool :=
  match parseUrl origin with
  | none => false
  | some parsed => (someAllows parseUrl parsed allowedHosts).getD false

variable {parseUrl : String → Option Url} {origin value : String} {hosts : List String}

/-- The entry has the form of a URL and is none. -/
def Unreadable (parseUrl : String → Option Url) (value : String) : Prop :=
  candidateOf parseUrl value = none

/-- The entry allows the origin by itself. -/
def Allows (parseUrl : String → Option Url) (origin value : String) : Prop :=
  ∃ parsed ∈ parseUrl origin, ∃ candidate ∈ candidateOf parseUrl value, candidateAllows parsed candidate = true

theorem matches_head (h : Allows parseUrl origin value) : matchesAllowedOrigin parseUrl origin (value :: hosts) = true := by
  obtain ⟨parsed, hparsed, candidate, hcandidate, hallows⟩ := h
  rw [Option.mem_def] at hparsed hcandidate
  simp [matchesAllowedOrigin, hparsed, someAllows, hcandidate, hallows]

theorem not_matches_head (h : Unreadable parseUrl value) :
    matchesAllowedOrigin parseUrl origin (value :: hosts) = false := by
  unfold Unreadable at h
  unfold matchesAllowedOrigin
  cases parseUrl origin with
  | none => rfl
  | some parsed => simp [someAllows, h]

/-- Nothing is allowed but by an entry. -/
theorem allows_of_matches (h : matchesAllowedOrigin parseUrl origin hosts = true) :
    ∃ value ∈ hosts, Allows parseUrl origin value := by
  unfold matchesAllowedOrigin at h
  cases horigin : parseUrl origin with
  | none =>
    rw [horigin] at h
    cases h
  | some parsed =>
    rw [horigin] at h
    dsimp only at h
    induction hosts with
    | nil => cases h
    | cons value rest ih =>
      unfold someAllows at h
      cases hcandidate : candidateOf parseUrl value with
      | none =>
        rw [hcandidate] at h
        cases h
      | some candidate =>
        rw [hcandidate] at h
        dsimp only at h
        split at h
        · next hallows => exact ⟨value, List.mem_cons_self, parsed, horigin, candidate, hcandidate, hallows⟩
        · obtain ⟨other, hother, hallows⟩ := ih h
          exact ⟨other, List.mem_cons_of_mem value hother, hallows⟩

/-- While every entry is readable, one that allows the origin is found wherever it stands. -/
theorem matches_of_readable (hreadable : ∀ value ∈ hosts, ¬ Unreadable parseUrl value) (hvalue : value ∈ hosts)
    (hallows : Allows parseUrl origin value) : matchesAllowedOrigin parseUrl origin hosts = true := by
  obtain ⟨parsed, hparsed, candidate, hcandidate, hallows⟩ := hallows
  rw [Option.mem_def] at hparsed hcandidate
  unfold matchesAllowedOrigin
  rw [hparsed]
  dsimp only
  induction hosts with
  | nil => cases hvalue
  | cons first rest ih =>
    obtain ⟨read, hread⟩ := Option.ne_none_iff_exists'.1 (hreadable first List.mem_cons_self)
    unfold someAllows
    rw [hread]
    dsimp only
    split
    · rfl
    · next hnot =>
      rcases List.mem_cons.1 hvalue with rfl | hrest
      · rw [hcandidate] at hread
        obtain rfl := Option.some.inj hread
        exact absurd hallows hnot
      · exact ih (fun value hmem => hreadable value (List.mem_cons_of_mem first hmem)) hrest

/-! ## The lists an administrator may send -/

/-- A list that is accepted, and what is kept of it. -/
def Accepted (items : List Unknown) (kept : List String) : Prop :=
  normalizeAllowedHosts (.array items) = .ok kept

variable {items items' : List Unknown} {kept kept' : List String}

theorem mem_accepted (h : Accepted items kept) {host : String} :
    host ∈ kept ↔ ∃ value, .string value ∈ items ∧ trim value = host ∧ truthy host = true := by
  rw [normalizeAllowedHosts_ok h, List.mem_eraseDups, List.mem_filter, List.mem_map]
  constructor
  · rintro ⟨⟨value, hvalue, htrim⟩, htruthy⟩
    obtain ⟨item, hitem, hstring⟩ := List.mem_filterMap.1 hvalue
    cases item with
    | string written =>
      obtain rfl := Option.some.inj hstring
      exact ⟨written, hitem, htrim, htruthy⟩
    | _ => cases hstring
  · rintro ⟨value, hvalue, htrim, htruthy⟩
    exact ⟨⟨value, List.mem_filterMap.2 ⟨_, hvalue, rfl⟩, htrim⟩, htruthy⟩

/-- Whether a list is accepted is a matter of what is in it. -/
theorem accepted_of_same (h : Accepted items kept) (hsame : ∀ item, item ∈ items' ↔ item ∈ items) :
    Accepted items' (((items'.filterMap stringOf).map trim).filter truthy).eraseDups := by
  have hkept := normalizeAllowedHosts_ok h
  have hmem : ∀ host, host ∈ (((items'.filterMap stringOf).map trim).filter truthy).eraseDups ↔ host ∈ kept := by
    intro host
    simp only [hkept, List.mem_eraseDups, List.mem_filter, List.mem_map, List.mem_filterMap, hsame]
  have hdistinct : kept.Nodup := hkept ▸ nodup_eraseDups _
  have hperm := (List.perm_ext_iff_of_nodup (nodup_eraseDups _) hdistinct).2 hmem
  unfold Accepted normalizeAllowedHosts at h ⊢
  dsimp only at h ⊢
  split at h
  · cases h
  · next hfine =>
    rw [← hkept] at hfine
    rw [if_neg]
    rw [hperm.length_eq, hperm.any_eq]
    exact hfine

theorem accepted_cons (h : Accepted items kept) {value : String} (hvalue : .string value ∈ items)
    (htruthy : truthy (trim value) = true) : ∃ rest, Accepted (.string value :: items) (trim value :: rest) := by
  have hsame : ∀ item, item ∈ Unknown.string value :: items ↔ item ∈ items := by
    intro item
    rw [List.mem_cons]
    exact ⟨fun hitem => hitem.elim (fun heq => heq ▸ hvalue) id, .inr⟩
  have haccepted := accepted_of_same h hsame
  have hhead : (Unknown.string value :: items).filterMap stringOf = value :: items.filterMap stringOf := rfl
  rw [hhead, List.map_cons, List.filter_cons_of_pos htruthy,
    List.eraseDups_cons] at haccepted
  exact ⟨_, haccepted⟩

/-! ## As a set -/

/-- The decision for an origin hangs neither on the order nor on repetitions of the entries, and no entry takes
back what the others allow. -/
structure IsSet (parseUrl : String → Option Url) (origin : String) (items : List Unknown) (kept : List String) : Prop where
  rearranged : ∀ items' kept', Accepted items' kept' → (∀ item, item ∈ items' ↔ item ∈ items) →
    matchesAllowedOrigin parseUrl origin kept' = matchesAllowedOrigin parseUrl origin kept
  added : ∀ items' kept', Accepted items' kept' → items' ⊆ items → matchesAllowedOrigin parseUrl origin kept' = true →
    matchesAllowedOrigin parseUrl origin kept = true

theorem mem_of_subset (h : Accepted items kept) (h' : Accepted items' kept') (hsub : items' ⊆ items) {host : String}
    (hhost : host ∈ kept') : host ∈ kept := by
  obtain ⟨value, hvalue, hrest⟩ := (mem_accepted h').1 hhost
  exact (mem_accepted h).2 ⟨value, hsub hvalue, hrest⟩

/-- An allow list is a set for an origin unless one of its entries cannot be read and another allows the origin. -/
theorem isSet_iff (parseUrl : String → Option Url) (origin : String) (h : Accepted items kept) :
    IsSet parseUrl origin items kept ↔
      ¬ ((∃ value ∈ kept, Unreadable parseUrl value) ∧ ∃ value ∈ kept, Allows parseUrl origin value) := by
  constructor
  · rintro hset ⟨⟨unread, hunread, hunreadable⟩, allowing, hallowing, hallows⟩
    obtain ⟨unread, hitem, rfl, htruthy⟩ := (mem_accepted h).1 hunread
    obtain ⟨allowing, hitem', rfl, htruthy'⟩ := (mem_accepted h).1 hallowing
    -- the one entry or the other comes first
    obtain ⟨rest, hfirst⟩ := accepted_cons h hitem htruthy
    obtain ⟨rest', hfirst'⟩ := accepted_cons h hitem' htruthy'
    have hrefused := hset.rearranged _ _ hfirst fun item => by simp only [List.mem_cons]; grind
    have hallowed := hset.rearranged _ _ hfirst' fun item => by simp only [List.mem_cons]; grind
    rw [not_matches_head hunreadable] at hrefused
    rw [matches_head hallows, ← hrefused] at hallowed
    cases hallowed
  · intro hnot
    have hadded : ∀ items' kept', Accepted items' kept' → items' ⊆ items →
        matchesAllowedOrigin parseUrl origin kept' = true → matchesAllowedOrigin parseUrl origin kept = true := by
      intro items' kept' haccepted hsub hmatches
      obtain ⟨value, hvalue, hallows⟩ := allows_of_matches hmatches
      have hvalue' := mem_of_subset h haccepted hsub hvalue
      refine matches_of_readable (fun other hother hunreadable => hnot ⟨⟨other, hother, hunreadable⟩, value, hvalue', hallows⟩)
        hvalue' hallows
    refine ⟨fun items' kept' haccepted hsame => ?_, hadded⟩
    rw [Bool.eq_iff_iff]
    refine ⟨hadded items' kept' haccepted fun item => (hsame item).1, fun hmatches => ?_⟩
    obtain ⟨value, hvalue, hallows⟩ := allows_of_matches hmatches
    have hvalue' := mem_of_subset haccepted h (fun item => (hsame item).2) hvalue
    refine matches_of_readable (fun other hother hunreadable => ?_) hvalue' hallows
    exact hnot ⟨⟨other, mem_of_subset h haccepted (fun item => (hsame item).1) hother, hunreadable⟩, value, hvalue, hallows⟩

/-! ## An entry that cannot be read -/

def exampleUrl : Url where
  protocol := "https:"
  hostname := "example.com"
  pathname := "/"
  origin := "https://example.com"
  username := ""
  password := ""
  search := ""
  hash := ""

/-- A URL needs a host. -/
def sampleParse (value : String) : Option Url :=
  if value = "https://example.com" then some exampleUrl else none

theorem readable_list_is_set :
    IsSet sampleParse "https://example.com" [.string "example.com", .string " *.example.com"]
      ["example.com", "*.example.com"] :=
  (isSet_iff sampleParse "https://example.com" (by unfold Accepted; decide +kernel)).2 (by
    rintro ⟨⟨value, hvalue, hunreadable⟩, -⟩
    simp only [List.mem_cons, List.not_mem_nil, or_false] at hvalue
    unfold Unreadable at hunreadable
    rcases hvalue with rfl | rfl
    · exact absurd hunreadable (by decide +kernel)
    · exact absurd hunreadable (by decide +kernel))

/-- The same two entries allow the origin in one order and refuse it in the other. -/
theorem order_decides :
    Accepted [.string "example.com", .string "http://"] ["example.com", "http://"] ∧
      ¬ IsSet sampleParse "https://example.com" [.string "example.com", .string "http://"] ["example.com", "http://"] := by
  refine ⟨by unfold Accepted; decide +kernel, fun h => ?_⟩
  have haccepted : Accepted [.string "http://", .string "example.com"] ["http://", "example.com"] := by
    unfold Accepted
    decide +kernel
  have hsame := h.rearranged _ _ haccepted fun item => by simp only [List.mem_cons]; tauto
  exact absurd hsame (by decide +kernel)

end OpenApp.Forwarding
