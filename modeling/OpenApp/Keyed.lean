import Mathlib.Data.List.Nodup

/-!
# Maps whose keys are part of the values

A `Map` that keeps every value under a key of its own is the list of its values in insertion order, no
two with one key. Putting a value under a key that is there keeps the place of the old one.
-/

namespace Keyed

variable {κ α : Type} [DecidableEq κ] {key : α → κ}

/-- The values of the map. -/
structure Table (key : α → κ) where
  rows : List α
  nodup : (rows.map key).Nodup

def putRow (key : α → κ) (a : α) : List α → List α
  | [] => [a]
  | b :: rest => if key b = key a then a :: rest else b :: putRow key a rest

theorem mem_keys_putRow (key : α → κ) (a : α) (k : κ) (rows : List α) :
    k ∈ (putRow key a rows).map key ↔ k = key a ∨ k ∈ rows.map key := by
  induction rows with
  | nil => simp [putRow]
  | cons b rest ih =>
    by_cases h : key b = key a
    · simp [putRow, h]
    · simp only [putRow, if_neg h, List.map_cons, List.mem_cons, ih]
      tauto

theorem nodup_putRow (key : α → κ) (a : α) {rows : List α} (h : (rows.map key).Nodup) :
    ((putRow key a rows).map key).Nodup := by
  induction rows with
  | nil => simp [putRow]
  | cons b rest ih =>
    obtain ⟨hb, hrest⟩ := List.nodup_cons.1 h
    by_cases hk : key b = key a
    · rw [putRow, if_pos hk, List.map_cons, ← hk]
      exact List.nodup_cons.2 ⟨hb, hrest⟩
    · rw [putRow, if_neg hk, List.map_cons]
      refine List.nodup_cons.2 ⟨fun hmem => ?_, ih hrest⟩
      rcases (mem_keys_putRow key a (key b) rest).1 hmem with h | h
      · exact hk h
      · exact hb h

theorem putRow_of_notMem {a : α} {rows : List α} (h : key a ∉ rows.map key) : putRow key a rows = rows ++ [a] := by
  induction rows with
  | nil => rfl
  | cons b rest ih =>
    obtain ⟨hb, hrest⟩ := not_or.1 (mt List.mem_cons.2 h)
    rw [putRow, if_neg (Ne.symm hb), ih hrest, List.cons_append]

namespace Table

def empty : Table key where
  rows := []
  nodup := List.nodup_nil

def get (t : Table key) (k : κ) : Option α :=
  t.rows.find? fun a => key a = k

def put (t : Table key) (a : α) : Table key where
  rows := putRow key a t.rows
  nodup := nodup_putRow key a t.nodup

def delete (t : Table key) (k : κ) : Table key where
  rows := t.rows.filter fun a => key a ≠ k
  nodup := t.nodup.sublist (List.filter_sublist.map key)

/-- Every value is replaced by another one under its key, as in a loop over the entries. -/
def sweep (t : Table key) (f : α → α) (hf : ∀ a, key (f a) = key a) : Table key where
  rows := t.rows.map f
  nodup := by
    have hcomp : key ∘ f = key := funext hf
    rw [List.map_map, hcomp]
    exact t.nodup

/-- The values that pass stay. -/
def keep (t : Table key) (p : α → Bool) : Table key where
  rows := t.rows.filter p
  nodup := t.nodup.sublist (List.filter_sublist.map key)

variable {t : Table key} {a : α} {k : κ}

@[simp] theorem get_empty : (empty : Table key).get k = none := rfl

theorem get_eq_some : t.get k = some a ↔ a ∈ t.rows ∧ key a = k := by
  constructor
  · intro h
    exact ⟨List.mem_of_find?_eq_some h, by simpa using List.find?_some h⟩
  · rintro ⟨ha, rfl⟩
    obtain ⟨rows, hn⟩ := t
    unfold get
    dsimp only at ha ⊢
    induction rows with
    | nil => cases ha
    | cons b rest ih =>
      obtain ⟨hb, hrest⟩ := List.nodup_cons.1 hn
      rcases List.mem_cons.1 ha with rfl | ha
      · simp
      · have hne : key b ≠ key a := fun h => hb (h ▸ List.mem_map_of_mem ha)
        rw [List.find?_cons_of_neg (by simpa using hne)]
        exact ih hrest ha

theorem key_of_get (h : t.get k = some a) : key a = k :=
  (get_eq_some.1 h).2

theorem mem_iff : a ∈ t.rows ↔ t.get (key a) = some a := by
  simp [get_eq_some]

@[simp] theorem get_put_self (t : Table key) (a : α) : (t.put a).get (key a) = some a := by
  refine get_eq_some.2 ⟨?_, rfl⟩
  obtain ⟨rows, hn⟩ := t
  unfold put
  dsimp only
  clear hn
  induction rows with
  | nil => simp [putRow]
  | cons b rest ih =>
    by_cases h : key b = key a
    · simp [putRow, h]
    · simp [putRow, h, ih]

theorem get_put_of_ne (t : Table key) (a : α) (h : k ≠ key a) : (t.put a).get k = t.get k := by
  obtain ⟨rows, hn⟩ := t
  unfold get put
  dsimp only
  clear hn
  induction rows with
  | nil => simp [putRow, Ne.symm h]
  | cons b rest ih =>
    by_cases hb : key b = key a
    · rw [putRow, if_pos hb, List.find?_cons_of_neg (by simpa using Ne.symm h),
        List.find?_cons_of_neg (by simpa [hb] using Ne.symm h)]
    · rw [putRow, if_neg hb]
      by_cases hk : key b = k
      · simp [hk]
      · rw [List.find?_cons_of_neg (by simpa using hk), List.find?_cons_of_neg (by simpa using hk), ih]

theorem get_put (t : Table key) (a : α) (k : κ) : (t.put a).get k = if k = key a then some a else t.get k := by
  by_cases h : k = key a
  · subst h
    simp
  · rw [if_neg h, get_put_of_ne t a h]

/-- A value after another one was put is this one, or it was there under another key. -/
theorem mem_put {b : α} (h : b ∈ (t.put a).rows) : b = a ∨ key b ≠ key a ∧ b ∈ t.rows := by
  rw [mem_iff, get_put] at h
  split at h
  · exact .inl (Option.some.inj h).symm
  · next hkey => exact .inr ⟨hkey, mem_iff.2 h⟩

theorem isSome_get_put (h : (t.get k).isSome = true) : ((t.put a).get k).isSome = true := by
  rw [get_put]
  split
  · rfl
  · exact h

@[simp] theorem get_delete_self (t : Table key) (k : κ) : (t.delete k).get k = none := by
  refine List.find?_eq_none.2 fun a ha => ?_
  simpa using (List.mem_filter.1 ha).2

theorem get_delete_of_ne (t : Table key) {k k' : κ} (h : k' ≠ k) : (t.delete k).get k' = t.get k' := by
  refine Option.ext fun a => ?_
  simp only [get_eq_some, delete, List.mem_filter, decide_eq_true_eq]
  constructor
  · exact fun ⟨ha, hk⟩ => ⟨ha.1, hk⟩
  · exact fun ⟨ha, hk⟩ => ⟨⟨ha, hk ▸ h⟩, hk⟩

@[simp] theorem get_sweep (t : Table key) (f : α → α) (hf : ∀ a, key (f a) = key a) (k : κ) :
    (t.sweep f hf).get k = (t.get k).map f := by
  refine Option.ext fun a => ?_
  simp only [get_eq_some, sweep, List.mem_map, Option.map_eq_some_iff]
  constructor
  · rintro ⟨⟨b, hb, rfl⟩, hk⟩
    exact ⟨b, ⟨hb, (hf b).symm.trans hk⟩, rfl⟩
  · rintro ⟨b, ⟨hb, hk⟩, rfl⟩
    exact ⟨⟨b, hb, rfl⟩, (hf b).trans hk⟩

@[simp] theorem get_keep (t : Table key) (p : α → Bool) (k : κ) : (t.keep p).get k = (t.get k).filter p := by
  refine Option.ext fun a => ?_
  simp only [get_eq_some, keep, List.mem_filter, Option.filter_eq_some_iff]
  tauto

/-- Values that are put under new keys, one after the other. -/
theorem rows_foldl_put {rows : List α} (hnodup : ((t.rows ++ rows).map key).Nodup) : (rows.foldl put t).rows = t.rows ++ rows := by
  induction rows generalizing t with
  | nil => simp
  | cons a rest ih =>
    have hnew : key a ∉ t.rows.map key := by
      rw [List.map_append, List.nodup_append] at hnodup
      exact fun hmem => hnodup.2.2 _ hmem _ List.mem_cons_self rfl
    have hput : (t.put a).rows = t.rows ++ [a] := putRow_of_notMem hnew
    rw [List.foldl_cons, ih, hput, List.append_assoc, List.singleton_append]
    rw [hput, List.append_assoc, List.singleton_append]
    exact hnodup

end Table

end Keyed
