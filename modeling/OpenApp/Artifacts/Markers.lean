import OpenApp.Artifacts.Isolation
import OpenApp.Artifacts.Scanner

/-!
# What the release gate finds

A marker that stands in a token which is no comment is found if what strips the comments spares it. Where
that is so is decided by the tokens: by what the scanner takes for quotes, and by slashes and stars that
stand in tokens other than comments.
-/

namespace OpenApp.Artifacts

open Cuts

/-! ## Searching -/

namespace Pattern

variable {p : Pattern} {text : List Char} {i j index : Nat}

/-- A pattern that looks at nothing but the text it matches. -/
structure Local (p : Pattern) (accepts : List Char → Prop) : Prop where
  sound : ∀ {text i j}, p text i = some j → i ≤ j ∧ j ≤ text.length ∧ accepts (slice text i j)
  complete : ∀ {text i j}, i ≤ j → j ≤ text.length → accepts (slice text i j) → (p text i).isSome = true

theorem firstFrom_some (hi : (p text i).isSome = true) (hindex : index ≤ i) (hlen : i ≤ text.length) :
    ∃ a b, p.firstFrom text index = some (a, b) ∧ index ≤ a ∧ a ≤ i ∧ p text a = some b := by
  have hmem : i ∈ List.range' index (text.length + 1 - index) := by
    rw [List.mem_range'_1]
    omega
  cases hfind : (List.range' index (text.length + 1 - index)).find? fun i => (p text i).isSome with
  | none => exact absurd hi (List.find?_eq_none.1 hfind i hmem)
  | some a =>
    obtain ⟨ha, hrange, hfirst⟩ := List.find?_range'_eq_some.1 hfind
    obtain ⟨b, hb⟩ := Option.isSome_iff_exists.1 ha
    refine ⟨a, b, ?_, (List.mem_range'_1.1 hrange).1, ?_, hb⟩
    · rw [firstFrom, hfind, Option.bind_some, hb]
      rfl
    · by_contra hlt
      have hnone := hfirst i hindex (by omega)
      simp [hi] at hnone

theorem search_isSome (hi : (p text i).isSome = true) (hlen : i ≤ text.length) : (p.search text).isSome = true := by
  obtain ⟨a, b, hfirst, -⟩ := firstFrom_some hi (Nat.zero_le i) hlen
  rw [search, hfirst]
  rfl

/-- Where a match can start, one is reported that starts there or runs over the place. -/
theorem matchesFrom_covers (hi : (p text i).isSome = true) (hlen : i ≤ text.length) (n : Nat) (hindex : index ≤ i)
    (hn : text.length + 1 - index ≤ n) :
    ∃ found ∈ p.matchesFrom text n index, found.1 ≤ i ∧ (i < found.2 ∨ found.1 = i) := by
  induction n generalizing index with
  | zero => omega
  | succ n ih =>
    obtain ⟨a, b, hfirst, hle, hai, -⟩ := firstFrom_some hi hindex hlen
    simp only [matchesFrom, hfirst]
    by_cases hdone : i < b ∨ a = i
    · exact ⟨(a, b), List.mem_cons_self, hai, hdone⟩
    · -- The match ends before the place, and the search goes on after it.
      obtain ⟨found, hfound, hcovers⟩ := @ih (if b ≤ a then a + 1 else b) (by split <;> omega) (by split <;> omega)
      exact ⟨found, List.mem_cons_of_mem _ hfound, hcovers⟩

theorem matchAll_covers (hi : (p text i).isSome = true) (hlen : i ≤ text.length) :
    ∃ found ∈ p.matchAll text, found.1 ≤ i ∧ (i < found.2 ∨ found.1 = i) :=
  matchesFrom_covers hi hlen _ (Nat.zero_le i) (by omega)

end Pattern

theorem slice_append (x t y : List Char) : slice (x ++ t ++ y) x.length (x.length + t.length) = t := by
  rw [slice, ← List.length_append, List.take_left, List.drop_left]

/-! ## Markers in tokens -/

/-- A token that is no comment stands in what is left of the source as it stood in the source. -/
theorem infix_of_spares {tokens : List Token} {t : Token} (ht : t ∈ tokens) (hkept : t.isComment = false)
    {o : List Marked} (hcut : Cut blank (marked tokens) o) (hs : Spares kept (marked tokens) o) :
    t.text <:+: o.map Prod.fst := by
  have hall : ∀ c ∈ t.marked, kept c = true := fun c hc => by rw [Token.kept_of_mem hc, hkept]; rfl
  rw [← Token.map_fst_marked]
  exact (hcut.infix_of_spares kept_blank hs hall (marked_within ht)).map Prod.fst

/-- A match inside of a text that stands in a larger one is a match there. -/
theorem match_within {p : Pattern} {accepts : List Char → Prop} (hp : p.Local accepts) {before marker after x y : List Char}
    (h : accepts marker) :
    (p (x ++ (before ++ marker ++ after) ++ y) (x.length + before.length)).isSome = true := by
  have hslice : slice ((x ++ before) ++ marker ++ (after ++ y)) (x ++ before).length ((x ++ before).length + marker.length) =
      marker := slice_append _ _ _
  have htext : x ++ (before ++ marker ++ after) ++ y = (x ++ before) ++ marker ++ (after ++ y) := by
    simp only [List.append_assoc]
  rw [htext, ← List.length_append]
  exact hp.complete (Nat.le_add_right _ marker.length) (by simp only [List.length_append]; omega) (hslice.symm ▸ h)

/-- Every marker in a token that is no comment makes the pruner refuse the file, and the isolation check report
a match there. -/
def FindsMarkers (markers : Pattern) (accepts : List Char → Prop) (tokens : List Token) : Prop :=
  ∀ t ∈ tokens, t.isComment = false → ∀ before marker after, t.text = before ++ marker ++ after → accepts marker →
    (∀ extname relativePath, (scanText extname markers relativePath (text tokens)).isSome = true) ∧
      ∃ start, slice (stripComments id ' ' (text tokens)) start (start + t.text.length) = t.text ∧
        ∃ found ∈ markers.matchAll (stripComments id ' ' (text tokens)),
          found.1 ≤ start + before.length ∧ (start + before.length < found.2 ∨ found.1 = start + before.length) ∧
          ∀ path, coupling path (stripComments id ' ' (text tokens)) found ∈
            findGenericProductCoupling markers (text tokens) path

theorem findsMarkers_of_spares {tokens : List Token} (hpruner : PrunerSpares tokens) (hisolation : IsolationSpares tokens)
    {markers : Pattern} {accepts : List Char → Prop} (hp : markers.Local accepts) : FindsMarkers markers accepts tokens := by
  intro t ht hkept before marker after htext hmarker
  constructor
  · intro extname relativePath
    have hsearch {candidate : List Char} (h : t.text <:+: candidate) : (markers.search candidate).isSome = true := by
      obtain ⟨x, y, rfl⟩ := h
      rw [htext]
      exact Pattern.search_isSome (match_within hp hmarker) (by simp only [List.length_append]; omega)
    unfold scanText
    rw [Option.isSome_map]
    split
    · apply hsearch
      rw [← map_stripJavaScriptComments]
      exact infix_of_spares ht hkept (cut_stripJavaScriptComments _) hpruner
    · exact hsearch (text_within ht)
  · have hwithin := infix_of_spares ht hkept (cut_stripComments _) hisolation
    rw [map_stripComments] at hwithin
    obtain ⟨x, y, hcleaned⟩ := hwithin
    have hmatch : (markers (x ++ (before ++ marker ++ after) ++ y) (x.length + before.length)).isSome = true :=
      match_within hp hmarker
    rw [← htext, hcleaned] at hmatch
    have hlen : x.length + before.length ≤ (stripComments id ' ' (text tokens)).length := by
      rw [← hcleaned, htext]
      simp only [List.length_append]
      omega
    obtain ⟨found, hfound, hle, hcovers⟩ := Pattern.matchAll_covers hmatch hlen
    refine ⟨x.length, ?_, found, hfound, hle, hcovers, fun path => List.mem_map_of_mem hfound⟩
    rw [← hcleaned]
    exact slice_append x t.text y

/-- The gate spares every token that is no comment, and so finds every marker in one, exactly for the sources in
which neither the scanner nor the regular expressions take a part of such a token for a comment. -/
theorem gate_spares_iff (source : Source) :
    (PrunerSpares source.tokens ∧ IsolationSpares source.tokens ∧
      ∀ markers accepts, Pattern.Local markers accepts → FindsMarkers markers accepts source.tokens) ↔
    Reads .start source.tokens ∧ Blocks source.tokens ∧ Lines none source.tokens := by
  rw [← prunerSpares_iff, ← isolationSpares_iff]
  constructor
  · rintro ⟨hpruner, hisolation, -⟩
    exact ⟨hpruner, hisolation⟩
  · rintro ⟨hpruner, hisolation⟩
    exact ⟨hpruner, hisolation, fun markers accepts hp => findsMarkers_of_spares hpruner hisolation hp⟩

/-! ## A source in which a marker is hidden -/

/-- The pattern of one text. -/
def literal (word : List Char) : Pattern :=
  fun text i => if i ≤ text.length ∧ word <+: text.drop i then some (i + word.length) else none

theorem literal_local (word : List Char) : (literal word).Local (· = word) where
  sound {text i j} h := by
    unfold literal at h
    split at h
    · next hword =>
      obtain rfl := Option.some.inj h
      obtain ⟨hlen, rest, hrest⟩ := hword
      have hle : word.length ≤ text.length - i := by
        rw [← List.length_drop, ← hrest, List.length_append]
        omega
      refine ⟨Nat.le_add_right i _, by omega, ?_⟩
      rw [slice, List.drop_take, Nat.add_sub_cancel_left, ← hrest, List.take_left]
    · cases h
  complete {text i j} hij hlen h := by
    have hword : word <+: text.drop i := by
      rw [slice, List.drop_take] at h
      exact h ▸ List.take_prefix _ _
    rw [literal, if_pos ⟨Nat.le_trans hij hlen, hword⟩]
    rfl

/-- `s=/\//;t="marker"` -/
def slashSource : Source where
  tokens := [.other ['s'], .other ['='], .regex ['\\', '/'] [], .other [';'], .other ['t'], .other ['='],
    .string '"' "marker".toList]
  wellFormed := by decide +kernel
  separated := by simp [Separated]
  nested := rfl

/-- The second slash of the regular expression and the one that ends it are taken for a comment, and hide the rest
of the line. -/
theorem slash_hides_marker :
    ¬ PrunerSpares slashSource.tokens ∧ ¬ IsolationSpares slashSource.tokens ∧
      (literal "marker".toList).Local (· = "marker".toList) ∧
      scanText (fun _ => ".js") (literal "marker".toList) "app.js" (text slashSource.tokens) = none ∧
      findGenericProductCoupling (literal "marker".toList) (text slashSource.tokens) "app.js" = [] ∧
      ¬ FindsMarkers (literal "marker".toList) (· = "marker".toList) slashSource.tokens := by
  have hscan : scanText (fun _ => ".js") (literal "marker".toList) "app.js" (text slashSource.tokens) = none := by
    decide +kernel
  refine ⟨?_, ?_, literal_local _, hscan, by decide +kernel, fun h => ?_⟩
  · unfold PrunerSpares Spares
    decide +kernel
  · unfold IsolationSpares Spares
    decide +kernel
  · -- The marker is the text of the string between its quotes.
    have hfound := (h (.string '"' "marker".toList) (by simp [slashSource]) rfl ['"'] _ ['"'] rfl rfl).1 (fun _ => ".js") "app.js"
    rw [hscan] at hfound
    cases hfound

end OpenApp.Artifacts
