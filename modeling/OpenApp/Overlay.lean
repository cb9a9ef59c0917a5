import OpenApp.Script
import Mathlib.Data.List.Perm.Basic

/-!
# Values that are written one over the other

Each of a list of writers has a value for a place or none, and the last that has one wins. When those that have one
agree, what stands there does not depend on the order they come in.
-/

namespace Overlay

open OpenApp.Script

variable {α β : Type}

/-! ## One place -/

/-- The value that was written last. -/
def latest (values : List (Option α)) : Option α :=
  values.foldl (fun current incoming => incoming <|> current) none

def Agreeing (values : List (Option α)) : Prop :=
  ∀ a b, some a ∈ values → some b ∈ values → a = b

variable {values : List (Option α)} {a : α}

@[simp] theorem latest_concat (value : Option α) : latest (values ++ [value]) = (value <|> latest values) := by
  rw [latest, List.foldl_append]
  rfl

theorem mem_of_latest (h : latest values = some a) : some a ∈ values := by
  induction values using List.reverseRecOn with
  | nil => cases h
  | append_singleton values value ih =>
    rw [latest_concat] at h
    cases value with
    | some b =>
      obtain rfl := Option.some.inj h
      simp
    | none => exact List.mem_append_left _ (ih h)

theorem isSome_latest : (latest values).isSome = true ↔ ∃ a, some a ∈ values := by
  constructor
  · intro h
    obtain ⟨a, ha⟩ := Option.isSome_iff_exists.1 h
    exact ⟨a, mem_of_latest ha⟩
  · rintro ⟨a, ha⟩
    induction values using List.reverseRecOn with
    | nil => cases ha
    | append_singleton values value ih =>
      rw [latest_concat]
      cases value with
      | some b => rfl
      | none => exact ih (by simpa using ha)

theorem latest_eq_none : latest values = none ↔ ∀ a, some a ∉ values := by
  rw [← not_iff_not, ← ne_eq, Option.ne_none_iff_isSome, isSome_latest]
  simp

theorem latest_eq_some (h : Agreeing values) : latest values = some a ↔ some a ∈ values := by
  constructor
  · exact mem_of_latest
  · intro ha
    obtain ⟨b, hb⟩ := Option.isSome_iff_exists.1 (isSome_latest.2 ⟨a, ha⟩)
    rw [hb, h b a (mem_of_latest hb) ha]

/-- The order the writers come in does not matter when they agree. -/
theorem latest_perm {values' : List (Option α)} (h : Agreeing values) (hperm : values.Perm values') :
    latest values = latest values' := by
  have h' : Agreeing values' := fun a b ha hb => h a b (hperm.mem_iff.2 ha) (hperm.mem_iff.2 hb)
  ext a
  rw [latest_eq_some h, latest_eq_some h', hperm.mem_iff]

/-! ## The places of a map -/

section Maps

variable {m own : Map α} {key : String}

@[simp] theorem get_empty : (⟨[]⟩ : Map α).get key = none := rfl

theorem get_set (m : Map α) (key other : String) (value : α) :
    (m.set key value).get other = if other = key then some value else m.get other := by
  split
  · rename_i h
    rw [h, Map.get_set_self]
  · exact Map.get_set_of_ne m value ‹_›

theorem mem_of_get (h : m.get key = some a) : (key, a) ∈ m.entries := by
  obtain ⟨entries⟩ := m
  simp only [Map.get] at h
  induction entries with
  | nil => cases h
  | cons entry rest ih =>
    obtain ⟨key', a'⟩ := entry
    by_cases hkey : key = key'
    · obtain rfl : a' = a := by simpa [Map.getEntry, hkey] using h
      exact hkey ▸ List.mem_cons_self
    · exact List.mem_cons_of_mem _ (ih (by simpa [Map.getEntry, hkey] using h))

theorem isSome_get_of_mem (h : (key, a) ∈ m.entries) : (m.get key).isSome = true := by
  obtain ⟨entries⟩ := m
  simp only [Map.get]
  induction entries with
  | nil => cases h
  | cons entry rest ih =>
    obtain ⟨key', a'⟩ := entry
    by_cases hkey : key = key'
    · simp [Map.getEntry, hkey]
    · rcases List.mem_cons.1 h with heq | hmem
      · exact absurd (Prod.mk.inj heq).1 hkey
      · simpa [Map.getEntry, hkey] using ih hmem

/-- What a writer that has an entry or none writes at a key. -/
def at? (key : String) (entry : Option (String × α)) : Option α :=
  entry.bind fun e => if key = e.1 then some e.2 else none

theorem at?_eq_some {entry : Option (String × α)} : at? key entry = some a ↔ entry = some (key, a) := by
  cases entry with
  | none => simp [at?]
  | some e =>
    obtain ⟨key', a'⟩ := e
    simp only [at?, Option.bind_some, Option.ite_none_right_eq_some, Option.some.injEq, Prod.mk.injEq]
    exact ⟨fun h => ⟨h.1.symm, h.2⟩, fun h => ⟨h.1.symm, h.2⟩⟩

def write (m : Map α) : Option (String × α) → Map α
  | none => m
  | some (key, value) => m.set key value

/-- The map that is left when each of the writers has set its entry. -/
def fill (entry : β → Option (String × α)) (writers : List β) : Map α :=
  writers.foldl (fun m writer => write m (entry writer)) ⟨[]⟩

variable {entry : β → Option (String × α)} {writers writers' : List β}

theorem fill_concat (writer : β) : fill entry (writers ++ [writer]) = write (fill entry writers) (entry writer) := by
  rw [fill, List.foldl_append]
  rfl

theorem get_fill : (fill entry writers).get key = latest (writers.map fun writer => at? key (entry writer)) := by
  induction writers using List.reverseRecOn with
  | nil => rfl
  | append_singleton writers writer ih =>
    rw [fill_concat, List.map_append, List.map_singleton, latest_concat, ← ih]
    rcases entry writer with _ | ⟨key', value⟩
    · rfl
    · rw [write, get_set, at?, Option.bind_some]
      split <;> rfl

theorem isSome_get_fill : ((fill entry writers).get key).isSome = true ↔ ∃ writer ∈ writers, ∃ a, entry writer = some (key, a) := by
  rw [get_fill, isSome_latest]
  simp only [List.mem_map, at?_eq_some]
  constructor
  · rintro ⟨a, writer, hwriter, h⟩
    exact ⟨writer, hwriter, a, h⟩
  · rintro ⟨writer, hwriter, a, h⟩
    exact ⟨a, writer, hwriter, h⟩

theorem mem_of_get_fill (h : (fill entry writers).get key = some a) : ∃ writer ∈ writers, entry writer = some (key, a) := by
  obtain ⟨writer, hwriter, ha⟩ := List.mem_map.1 (mem_of_latest (get_fill.symm.trans h))
  exact ⟨writer, hwriter, at?_eq_some.1 ha⟩

/-- Writers that write no two different values under one key. -/
def Consistent (entry : β → Option (String × α)) (writers : List β) : Prop :=
  ∀ b ∈ writers, ∀ c ∈ writers, ∀ key a a', entry b = some (key, a) → entry c = some (key, a') → a = a'

theorem get_fill_perm (h : Consistent entry writers) (hperm : writers.Perm writers') :
    (fill entry writers).get key = (fill entry writers').get key := by
  rw [get_fill, get_fill]
  apply latest_perm _ (hperm.map _)
  intro a a' ha ha'
  obtain ⟨b, hb, ha⟩ := List.mem_map.1 ha
  obtain ⟨c, hc, ha'⟩ := List.mem_map.1 ha'
  exact h b hb c hc key a a' (at?_eq_some.1 ha) (at?_eq_some.1 ha')

/-! ## Maps one after the other -/

/-- The entries of one map and then of another. -/
def after (m own : Map α) : Map α := ⟨m.entries ++ own.entries⟩

@[simp] theorem after_empty (m : Map α) : after m ⟨[]⟩ = m :=
  congrArg Map.mk (List.append_nil _)

theorem get_after : (after m own).get key = (m.get key).or (own.get key) := by
  obtain ⟨entries⟩ := m
  simp only [after, Map.get]
  induction entries with
  | nil => rfl
  | cons entry rest ih =>
    by_cases hkey : key = entry.1
    · simp [Map.getEntry, hkey]
    · simpa [Map.getEntry, hkey] using ih

/-- A key that is not in the first map is set in the second. -/
theorem set_after (h : m.get key = none) (value : α) : (after m own).set key value = after m (own.set key value) := by
  obtain ⟨entries⟩ := m
  simp only [after, Map.set, Map.get] at h ⊢
  congr 1
  induction entries with
  | nil => rfl
  | cons entry rest ih =>
    have hkey : key ≠ entry.1 := by
      rintro rfl
      simp [Map.getEntry] at h
    rw [List.cons_append, List.cons_append, Map.setEntry, if_neg hkey]
    exact congrArg _ (ih (by simpa [Map.getEntry, hkey] using h))

/-- The maps the writers bring, one after the other. -/
def join (part : β → Map α) (writers : List β) : Map α :=
  ⟨writers.flatMap fun writer => (part writer).entries⟩

variable {part : β → Map α}

theorem join_concat (writer : β) : join part (writers ++ [writer]) = after (join part writers) (part writer) := by
  simp [join, after]

theorem isSome_get_join : ((join part writers).get key).isSome = true ↔ ∃ writer ∈ writers, ((part writer).get key).isSome = true := by
  induction writers using List.reverseRecOn with
  | nil => simp [join]
  | append_singleton writers writer ih =>
    rw [join_concat, get_after, Option.isSome_or, Bool.or_eq_true, ih]
    simp [or_and_right, exists_or]

theorem mem_values_join_perm (hperm : writers.Perm writers') :
    a ∈ (join part writers).values ↔ a ∈ (join part writers').values := by
  simp only [Map.values, join]
  exact ((hperm.flatMap_right _).map _).mem_iff

end Maps

end Overlay
