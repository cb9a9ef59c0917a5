import Mathlib.Logic.Function.Basic

/-!
# Tables and their constraints

A condition on a row is true, false or unknown. A statement acts on the rows of which its condition
is true; a check lets pass the rows of which it is not false. A table refuses a row that one of its
constraints does not let pass, and a statement that would write such a row fails and writes nothing.
-/

namespace Sql

inductive Value
  | null
  | text (value : String)
  | int (value : Int)
  deriving DecidableEq

namespace Value

def ofText : Option String → Value
  | none => null
  | some value => text value

def ofNat : Option Nat → Value
  | none => null
  | some value => int value

def coalesce : Value → Value → Value
  | null, w => w
  | v, _ => v

/-- `'prefix' || v || 'suffix'` -/
def concat (before : String) (v : Value) (after : String) : Value :=
  match v with
  | text value => text (before ++ value ++ after)
  | _ => null

@[simp] theorem coalesce_null (w : Value) : coalesce null w = w := rfl

@[simp] theorem coalesce_text (s : String) (w : Value) : coalesce (text s) w = text s := rfl

@[simp] theorem coalesce_int (n : Int) (w : Value) : coalesce (int n) w = int n := rfl

@[simp] theorem ofText_some (s : String) : ofText (some s) = text s := rfl

@[simp] theorem ofText_none : ofText none = null := rfl

end Value

/-! ## Conditions -/

/-- True, false, or unknown. -/
abbrev Truth := Option Bool

def Value.isNull (v : Value) : Truth := some (v = .null)

def Value.isNotNull (v : Value) : Truth := some (v ≠ .null)

/-- `v in (…)` -/
def Value.isIn (v : Value) (texts : List String) : Truth :=
  match v with
  | .null => none
  | .text value => some (texts.contains value)
  | .int _ => some false

/-- `v = '…'` -/
def Value.is (v : Value) (value : String) : Truth := v.isIn [value]

/-- `v <= w` -/
def Value.le (v w : Value) : Truth :=
  match v, w with
  | .null, _ => none
  | _, .null => none
  | .int n, .int m => some (n ≤ m)
  | _, _ => some false

namespace Truth

def all (ts : List Truth) : Truth :=
  if ts.contains (some false) then some false else if ts.contains none then none else some true

def any (ts : List Truth) : Truth :=
  if ts.contains (some true) then some true else if ts.contains none then none else some false

/-- What a `where` acts on. -/
def Holds (t : Truth) : Prop := t = some true

/-- What a check lets pass. -/
def Passes (t : Truth) : Prop := t ≠ some false

instance (t : Truth) : Decidable (Holds t) := inferInstanceAs (Decidable (t = some true))

instance (t : Truth) : Decidable (Passes t) := inferInstanceAs (Decidable (t ≠ some false))

theorem passes_all {ts : List Truth} : Passes (all ts) ↔ ∀ t ∈ ts, Passes t := by
  unfold Passes all
  constructor
  · intro h t ht hfalse
    subst hfalse
    simp [ht] at h
  · intro h
    have hnot : some false ∉ ts := fun hmem => h _ hmem rfl
    split
    · next hc => exact absurd (by simpa using hc) hnot
    · split <;> simp

theorem passes_any {ts : List Truth} : Passes (any ts) ↔ ∃ t ∈ ts, Passes t := by
  unfold Passes any
  constructor
  · intro h
    split at h
    · next hc => exact ⟨some true, by simpa using hc, by simp⟩
    · split at h
      · next hc => exact ⟨none, by simpa using hc, by simp⟩
      · exact absurd rfl h
  · rintro ⟨t, ht, hne⟩
    split
    · simp
    · next htrue =>
      rcases t with _ | _ | _
      · simp [ht]
      · exact absurd rfl hne
      · exact absurd (by simpa using ht) htrue

theorem holds_any {ts : List Truth} : Holds (any ts) ↔ ∃ t ∈ ts, Holds t := by
  unfold Holds any
  constructor
  · intro h
    split at h
    · next hc => exact ⟨_, by simpa using hc, rfl⟩
    · split at h <;> cases h
  · rintro ⟨t, ht, rfl⟩
    simp [ht]

theorem holds_all {ts : List Truth} : Holds (all ts) ↔ ∀ t ∈ ts, Holds t := by
  unfold Holds all
  constructor
  · intro h t ht
    split at h
    · cases h
    · next hfalse =>
      split at h
      · cases h
      · next hnone =>
        rcases t with _ | _ | _
        · exact absurd (by simpa using ht) hnone
        · exact absurd (by simpa using ht) hfalse
        · rfl
  · intro h
    rw [if_neg, if_neg]
    · simpa using fun hmem => nomatch h none hmem
    · simpa using fun hmem => nomatch h (some false) hmem

@[simp] theorem holds_is {v : Value} {s : String} : Holds (v.is s) ↔ v = .text s := by
  cases v <;> simp [Holds, Value.is, Value.isIn]

@[simp] theorem holds_isNull {v : Value} : Holds v.isNull ↔ v = .null := by
  simp [Holds, Value.isNull]

end Truth

/-! ## Tables -/

abbrev Row (Col : Type) := Col → Value

structure Check (Col : Type) where
  name : String
  condition : Row Col → Truth

structure Table (Col : Type) where
  created : Bool
  /-- the columns there are; of the others no row has a value -/
  columns : Col → Bool
  required : List Col
  checks : List (Check Col)
  /-- the unique indexes, by name -/
  indexes : List String
  rows : List (Row Col)

/-- Why a statement fails. -/
inductive Refusal
  | notNull
  | check (name : String)
  | foreignKey (name : String)
  | unique (name : String)
  deriving DecidableEq

namespace Table

variable {Col : Type} {t : Table Col}

/-- The table without its rows. -/
def schema (t : Table Col) : Table Col :=
  { t with rows := [] }

def absent : Table Col where
  created := false
  columns _ := false
  required := []
  checks := []
  indexes := []
  rows := []

/-! ### What a table admits -/

structure Admits (t : Table Col) (r : Row Col) : Prop where
  required : ∀ c ∈ t.required, r c ≠ .null
  checks : ∀ k ∈ t.checks, Truth.Passes (k.condition r)

/-- The first constraint that does not let the row pass. -/
def refuses (t : Table Col) (r : Row Col) : Option Refusal :=
  if t.required.any (fun c => r c = .null) then some .notNull
  else (t.checks.find? fun k => ¬ Truth.Passes (k.condition r)).map fun k => .check k.name

theorem refuses_none {r : Row Col} : t.refuses r = none ↔ t.Admits r := by
  unfold refuses
  constructor
  · intro h
    split at h
    · cases h
    · next hreq =>
      simp only [List.any_eq_true, decide_eq_true_eq, not_exists, not_and] at hreq
      simp only [Option.map_eq_none_iff, List.find?_eq_none, decide_eq_true_eq, not_not] at h
      exact ⟨hreq, h⟩
  · intro h
    rw [if_neg]
    · simpa only [Option.map_eq_none_iff, List.find?_eq_none, decide_eq_true_eq, not_not] using h.checks
    · simpa using h.required

/-- A refusal names a constraint of the table. -/
theorem not_admits_of_refuses {r : Row Col} {e : Refusal} (h : t.refuses r = some e) : ¬ t.Admits r := by
  intro hadmits
  rw [refuses_none.2 hadmits] at h
  cases h

/-- The references of a row, looked at when it is written, in the place of an older row or of none. -/
abbrev References (Col : Type) := Option (Row Col) → Row Col → Option Refusal

/-- What a table admits, whose references are there. -/
structure Accepts (t : Table Col) (references : References Col) (old : Option (Row Col)) (r : Row Col) : Prop where
  admits : t.Admits r
  references : references old r = none

/-- Why a row is not written, if it is not. -/
def refusal (t : Table Col) (references : References Col) (old : Option (Row Col)) (r : Row Col) : Option Refusal :=
  match t.refuses r with
  | some e => some e
  | none => references old r

theorem refusal_none {references : References Col} {old : Option (Row Col)} {r : Row Col} :
    t.refusal references old r = none ↔ t.Accepts references old r := by
  unfold refusal
  cases h : t.refuses r with
  | some e => exact ⟨fun h' => (nomatch h'), fun h' => absurd h'.admits (not_admits_of_refuses h)⟩
  | none => exact ⟨fun h' => ⟨refuses_none.1 h, h'⟩, fun h' => h'.references⟩

/-! ### Statements -/

def insert (t : Table Col) (references : References Col) (r : Row Col) : Except Refusal (Table Col) :=
  match t.refusal references none r with
  | some e => .error e
  | none => .ok { t with rows := t.rows ++ [r] }

def updateWhere (t : Table Col) (references : References Col) (condition : Row Col → Truth)
    (set : Row Col → Row Col) : Except Refusal (Table Col) :=
  match (t.rows.filter fun r => Truth.Holds (condition r)).findSome? fun r =>
      t.refusal references (some r) (set r) with
  | some e => .error e
  | none => .ok { t with rows := t.rows.map fun r => if Truth.Holds (condition r) then set r else r }

/-- `insert … on conflict … do update`: the rows that are the `same` are merged with the new one. -/
def upsert (t : Table Col) (references : References Col) (same : Row Col → Row Col → Bool)
    (merge : Row Col → Row Col → Row Col) (r : Row Col) : Except Refusal (Table Col) :=
  if t.rows.any (same r) then t.updateWhere references (fun s => some (same r s)) fun s => merge s r
  else t.insert references r

/-- `insert … on conflict … do nothing` -/
def insertMissing (t : Table Col) (references : References Col) (same : Row Col → Row Col → Bool) (r : Row Col) :
    Except Refusal (Table Col) :=
  if t.rows.any (same r) then .ok t else t.insert references r

def deleteWhere (t : Table Col) (condition : Row Col → Truth) : Table Col :=
  { t with rows := t.rows.filter fun r => ¬ Truth.Holds (condition r) }

/-- A row has this value in the column. -/
def has [DecidableEq Col] (t : Table Col) (c : Col) (v : Value) : Bool :=
  t.rows.any fun r => r c = v

variable {references : References Col} {condition : Row Col → Truth} {set : Row Col → Row Col}

theorem insert_ok {r : Row Col} (h : t.Accepts references none r) :
    t.insert references r = .ok { t with rows := t.rows ++ [r] } := by
  unfold insert
  rw [refusal_none.2 h]

theorem of_insert_ok {t' : Table Col} {r : Row Col} (h : t.insert references r = .ok t') :
    t.Accepts references none r ∧ t' = { t with rows := t.rows ++ [r] } := by
  unfold insert at h
  split at h
  · cases h
  · next hnone => exact ⟨refusal_none.1 hnone, (Except.ok.inj h).symm⟩

theorem updateWhere_ok (h : ∀ r ∈ t.rows, Truth.Holds (condition r) → t.Accepts references (some r) (set r)) :
    t.updateWhere references condition set =
      .ok { t with rows := t.rows.map fun r => if Truth.Holds (condition r) then set r else r } := by
  have hnone : ((t.rows.filter fun r => Truth.Holds (condition r)).findSome? fun r =>
      t.refusal references (some r) (set r)) = none := by
    rw [List.findSome?_eq_none_iff]
    intro r hr
    obtain ⟨hmem, hholds⟩ := List.mem_filter.1 hr
    exact refusal_none.2 (h r hmem (of_decide_eq_true hholds))
  unfold updateWhere
  rw [hnone]

theorem of_updateWhere_ok {t' : Table Col} (h : t.updateWhere references condition set = .ok t') :
    (∀ r ∈ t.rows, Truth.Holds (condition r) → t.Accepts references (some r) (set r)) ∧
      t' = { t with rows := t.rows.map fun r => if Truth.Holds (condition r) then set r else r } := by
  unfold updateWhere at h
  split at h
  · cases h
  · next hnone =>
    rw [List.findSome?_eq_none_iff] at hnone
    refine ⟨fun r hr hholds => ?_, (Except.ok.inj h).symm⟩
    exact refusal_none.1 (hnone r (List.mem_filter.2 ⟨hr, decide_eq_true hholds⟩))

/-- An update whose condition is true of no row does nothing. -/
theorem updateWhere_none (h : ∀ r ∈ t.rows, ¬ Truth.Holds (condition r)) :
    t.updateWhere references condition set = .ok t := by
  rw [updateWhere_ok fun r hr hholds => absurd hholds (h r hr)]
  have hrows : (t.rows.map fun r => if Truth.Holds (condition r) then set r else r) = t.rows.map id :=
    List.map_congr_left fun r hr => if_neg (h r hr)
  rw [hrows, List.map_id]

/-- An update of every row. -/
theorem updateWhere_all (hholds : ∀ r ∈ t.rows, Truth.Holds (condition r))
    (h : ∀ r ∈ t.rows, t.Accepts references (some r) (set r)) :
    t.updateWhere references condition set = .ok { t with rows := t.rows.map set } := by
  rw [updateWhere_ok fun r hr _ => h r hr]
  have hrows : (t.rows.map fun r => if Truth.Holds (condition r) then set r else r) = t.rows.map set :=
    List.map_congr_left fun r hr => if_pos (hholds r hr)
  rw [hrows]

theorem updateWhere_refused {r : Row Col} (hr : r ∈ t.rows) (hholds : Truth.Holds (condition r))
    (hnot : ¬ t.Admits (set r)) : ∃ e, t.updateWhere references condition set = .error e := by
  cases h : t.updateWhere references condition set with
  | error e => exact ⟨e, rfl⟩
  | ok t' => exact absurd ((of_updateWhere_ok h).1 r hr hholds).admits hnot

/-- What an update leaves is a row there was, or one it wrote. -/
theorem mem_updateWhere {t' : Table Col} (h : t.updateWhere references condition set = .ok t') {s : Row Col}
    (hs : s ∈ t'.rows) :
    s ∈ t.rows ∨ ∃ r ∈ t.rows, Truth.Holds (condition r) ∧ s = set r ∧ t.Accepts references (some r) s := by
  obtain ⟨haccepts, rfl⟩ := of_updateWhere_ok h
  obtain ⟨r, hr, rfl⟩ := List.mem_map.1 hs
  by_cases hholds : Truth.Holds (condition r)
  · rw [if_pos hholds]
    exact .inr ⟨r, hr, hholds, rfl, haccepts r hr hholds⟩
  · rw [if_neg hholds]
    exact .inl hr

theorem mem_insert {t' : Table Col} {r s : Row Col} (h : t.insert references r = .ok t') (hs : s ∈ t'.rows) :
    s ∈ t.rows ∨ (s = r ∧ t.Accepts references none r) := by
  obtain ⟨haccepts, rfl⟩ := of_insert_ok h
  rcases List.mem_append.1 hs with hold | hnew
  · exact .inl hold
  · exact .inr ⟨List.mem_singleton.1 hnew, haccepts⟩

theorem has_iff [DecidableEq Col] {c : Col} {v : Value} : t.has c v = true ↔ ∃ r ∈ t.rows, r c = v := by
  simp [has]

/-- An update that keeps a column keeps the values there are in it. -/
theorem has_updateWhere [DecidableEq Col] {t' : Table Col} {c : Col} {v : Value}
    (h : t.updateWhere references condition set = .ok t') (hkeep : ∀ r, set r c = r c) (hv : t.has c v = true) :
    t'.has c v = true := by
  obtain ⟨_, rfl⟩ := of_updateWhere_ok h
  obtain ⟨r, hr, hrv⟩ := has_iff.1 hv
  refine has_iff.2 ⟨_, List.mem_map_of_mem hr, ?_⟩
  split
  · rw [hkeep, hrv]
  · exact hrv

theorem has_insert [DecidableEq Col] {t' : Table Col} {r : Row Col} {c : Col} {v : Value}
    (h : t.insert references r = .ok t') (hv : t.has c v = true) : t'.has c v = true := by
  obtain ⟨_, rfl⟩ := of_insert_ok h
  obtain ⟨s, hs, hsv⟩ := has_iff.1 hv
  exact has_iff.2 ⟨s, List.mem_append_left _ hs, hsv⟩

theorem schema_updateWhere {t' : Table Col} (h : t.updateWhere references condition set = .ok t') :
    t'.schema = t.schema := by
  obtain ⟨_, rfl⟩ := of_updateWhere_ok h
  rfl

theorem schema_insert {t' : Table Col} {r : Row Col} (h : t.insert references r = .ok t') : t'.schema = t.schema := by
  obtain ⟨_, rfl⟩ := of_insert_ok h
  rfl

theorem schema_deleteWhere : (t.deleteWhere condition).schema = t.schema := rfl

theorem Admits.of_schema {t' : Table Col} {r : Row Col} (h : t.Admits r) (hs : t'.schema = t.schema) : t'.Admits r := by
  have hrequired := congrArg Table.required hs
  have hchecks := congrArg Table.checks hs
  change t'.required = t.required at hrequired
  change t'.checks = t.checks at hchecks
  exact ⟨hrequired ▸ h.required, hchecks ▸ h.checks⟩

/-- No row of the table breaks one of its constraints. -/
def Sound (t : Table Col) : Prop :=
  ∀ r ∈ t.rows, t.Admits r

theorem Sound.insert {t' : Table Col} {r : Row Col} (hs : t.Sound) (h : t.insert references r = .ok t') : t'.Sound := by
  intro s hmem
  rcases mem_insert h hmem with hold | ⟨rfl, haccepts⟩
  · exact (hs s hold).of_schema (schema_insert h)
  · exact haccepts.admits.of_schema (schema_insert h)

theorem Sound.updateWhere {t' : Table Col} (hs : t.Sound) (h : t.updateWhere references condition set = .ok t') :
    t'.Sound := by
  intro s hmem
  rcases mem_updateWhere h hmem with hold | ⟨_, _, _, _, haccepts⟩
  · exact (hs s hold).of_schema (schema_updateWhere h)
  · exact haccepts.admits.of_schema (schema_updateWhere h)

theorem Sound.deleteWhere (hs : t.Sound) : (t.deleteWhere condition).Sound := fun r hr =>
  (hs r (List.mem_filter.1 hr).1).of_schema schema_deleteWhere

section Upsert

variable {same : Row Col → Row Col → Bool} {merge : Row Col → Row Col → Row Col} {r : Row Col} {t' : Table Col}

theorem Sound.upsert (hs : t.Sound) (h : t.upsert references same merge r = .ok t') : t'.Sound := by
  unfold Table.upsert at h
  split at h
  · exact hs.updateWhere h
  · exact hs.insert h

theorem schema_upsert (h : t.upsert references same merge r = .ok t') : t'.schema = t.schema := by
  unfold upsert at h
  split at h
  · exact schema_updateWhere h
  · exact schema_insert h

end Upsert

/-! ### Definitions -/

/-- `create table if not exists` -/
def createIfNotExists (t new : Table Col) : Table Col :=
  if t.created then t else new

/-- `add column if not exists` -/
def addColumn [DecidableEq Col] (t : Table Col) (c : Col) (default : Value) : Table Col :=
  if t.columns c then t
  else { t with
    columns := Function.update t.columns c true
    rows := t.rows.map fun r => Function.update r c default }

def setNotNull [DecidableEq Col] (t : Table Col) (c : Col) : Except Refusal (Table Col) :=
  if t.rows.any (fun r => r c = .null) then .error .notNull
  else if c ∈ t.required then .ok t
  else .ok { t with required := t.required ++ [c] }

def dropNotNull [DecidableEq Col] (t : Table Col) (c : Col) : Table Col :=
  if c ∈ t.required then { t with required := t.required.filter (· ≠ c) } else t

/-- `add constraint … check`, for every row there is -/
def addCheck (t : Table Col) (k : Check Col) : Except Refusal (Table Col) :=
  if t.rows.all (fun r => Truth.Passes (k.condition r)) then .ok { t with checks := t.checks ++ [k] }
  else .error (.check k.name)

def hasCheck (t : Table Col) (name : String) : Bool :=
  t.checks.any fun k => k.name = name

/-- `if not exists (…) then alter table … add constraint` -/
def addMissingCheck (t : Table Col) (k : Check Col) : Except Refusal (Table Col) :=
  if t.hasCheck k.name then .ok t else t.addCheck k

/-- `drop constraint if exists` -/
def dropCheck (t : Table Col) (name : String) : Table Col :=
  { t with checks := t.checks.filter fun k => k.name ≠ name }

/-- `create unique index if not exists`; a row without a key is not in the index. -/
def createUniqueIndex (t : Table Col) (name : String) (key : Row Col → Option Value) : Except Refusal (Table Col) :=
  if name ∈ t.indexes then .ok t
  else if (t.rows.filterMap key).Nodup then .ok { t with indexes := name :: t.indexes }
  else .error (.unique name)

theorem createIfNotExists_created {new : Table Col} (h : t.created = true) : t.createIfNotExists new = t :=
  if_pos h

section Defined

variable [DecidableEq Col] {c : Col}

theorem addColumn_there {default : Value} (h : t.columns c = true) : t.addColumn c default = t :=
  if_pos h

theorem setNotNull_there (hrequired : c ∈ t.required) (h : ∀ r ∈ t.rows, r c ≠ .null) : t.setNotNull c = .ok t := by
  unfold setNotNull
  rw [if_neg (by simpa using h), if_pos hrequired]

theorem setNotNull_ok (h : ∀ r ∈ t.rows, r c ≠ .null) :
    ∃ required, t.setNotNull c = .ok { t with required := required } := by
  unfold setNotNull
  rw [if_neg (by simpa using h)]
  split
  · exact ⟨t.required, rfl⟩
  · exact ⟨t.required ++ [c], rfl⟩

theorem dropNotNull_eq : ∃ required, t.dropNotNull c = { t with required := required } := by
  unfold dropNotNull
  split
  · exact ⟨_, rfl⟩
  · exact ⟨t.required, rfl⟩

theorem Sound.setNotNull (hs : t.Sound) (hrequired : c ∈ t.required) : t.setNotNull c = .ok t :=
  setNotNull_there hrequired fun r hr => (hs r hr).required c hrequired

theorem dropNotNull_there (h : c ∉ t.required) : t.dropNotNull c = t :=
  if_neg h

end Defined

theorem addMissingCheck_there {k : Check Col} (h : t.hasCheck k.name = true) : t.addMissingCheck k = .ok t :=
  if_pos h

theorem addCheck_ok {k : Check Col} (h : ∀ r ∈ t.rows, Truth.Passes (k.condition r)) :
    t.addCheck k = .ok { t with checks := t.checks ++ [k] } :=
  if_pos (by simpa using h)

theorem addMissingCheck_missing {k : Check Col} (hmissing : ∀ k' ∈ t.checks, k'.name ≠ k.name)
    (h : ∀ r ∈ t.rows, Truth.Passes (k.condition r)) :
    t.addMissingCheck k = .ok { t with checks := t.checks ++ [k] } := by
  have hnot : t.hasCheck k.name ≠ true := by
    simpa [hasCheck] using hmissing
  unfold addMissingCheck
  rw [if_neg hnot, addCheck_ok h]

theorem createUniqueIndex_ok {name : String} {key : Row Col → Option Value} (hmissing : name ∉ t.indexes)
    (h : (t.rows.filterMap key).Nodup) :
    t.createUniqueIndex name key = .ok { t with indexes := name :: t.indexes } := by
  unfold createUniqueIndex
  rw [if_neg hmissing, if_pos h]

theorem createUniqueIndex_there {name : String} {key : Row Col → Option Value} (h : name ∈ t.indexes) :
    t.createUniqueIndex name key = .ok t :=
  if_pos h

end Table

end Sql
