import Mathlib.Data.Prod.Lex
import Mathlib.Data.String.Basic
import OpenApp.Arranged
import OpenApp.Rollout.Memory

/-!
# The order of the due items

The worker takes the due items in the order in which its store lists them. The store in memory sorts them with
a comparator that looks at other fields for two items of one instance than for two of different instances; the
other store leaves the order to a query. The items of one instance have to come in the order of their rollouts.
-/

namespace OpenApp.Rollout

open Keyed Arranged

/-- `order by`: the time at which the item is due, whether it waits for its first start, the creation of the
rollout and the position in it. -/
def UpgradeRolloutItem.dueKey (item : UpgradeRolloutItem) : Timestamp ×ₗ Nat ×ₗ Timestamp ×ₗ Nat :=
  toLex (item.nextAttemptAt.getD item.createdAt,
    toLex (if item.status = .awaitingFirstStart then 1 else 0, toLex (item.createdAt, item.position)))

section Listings

variable (items : Table UpgradeRolloutItem.key) (at' : Timestamp) (limit : Nat)

def dueItems : List UpgradeRolloutItem :=
  items.rows.filter (Store.dueItem at')

/-- What `MemoryPersistence.listDueUpgradeRolloutItems` may return. -/
def MemoryLists (out : List UpgradeRolloutItem) : Prop :=
  ∃ sorted, SortsTo Store.dueBefore (dueItems items at') sorted ∧ out = sorted.take (clampLimit limit)

/-- What `PostgresPersistence.listDueUpgradeRolloutItems` may return. -/
def PostgresLists (out : List UpgradeRolloutItem) : Prop :=
  ∃ ordered, OrderedBy UpgradeRolloutItem.dueKey (dueItems items at') ordered ∧ out = ordered.take (clampLimit limit)

end Listings

/-- One item of an instance has its turn before another: those that wait for a first start come last, the items
of older rollouts first. -/
def UpgradeRolloutItem.Precedes (left right : UpgradeRolloutItem) : Prop :=
  left.instanceId = right.instanceId ∧
    ((left.status ≠ .awaitingFirstStart ∧ right.status = .awaitingFirstStart) ∨
      ((left.status = .awaitingFirstStart ↔ right.status = .awaitingFirstStart) ∧
        (left.createdAt < right.createdAt ∨
          (left.createdAt = right.createdAt ∧ left.rolloutId < right.rolloutId))))

/-- A listing in which the items of every instance have their turns. -/
def InTurn (out : List UpgradeRolloutItem) : Prop :=
  out.Pairwise fun left right => left.instanceId = right.instanceId → left.Precedes right

/-- Both stores list the same items, and both in turn. -/
def SameTurns (items : Table UpgradeRolloutItem.key) (at' : Timestamp) (limit : Nat) : Prop :=
  ∀ inMemory inPostgres, MemoryLists items at' limit inMemory → PostgresLists items at' limit inPostgres →
    (∀ item, item ∈ inMemory ↔ item ∈ inPostgres) ∧ InTurn inMemory ∧ InTurn inPostgres

/-- The two orders agree: the comparator orders the due items, some part of them comes before the rest in both
orders and has all that a listing has room for, and in this part the key of the query grows along the turns of
each instance. -/
structure OrdersAgree (due : List UpgradeRolloutItem) (room : Nat) : Prop where
  consistent : Consistent Store.dueBefore due
  split : ∃ listed rest, due.Perm (listed ++ rest) ∧ listed.length = min room due.length ∧
    (∀ a ∈ listed, ∀ b ∈ rest, Before Store.dueBefore due a b ∧ a.dueKey < b.dueKey) ∧
    ∀ a ∈ listed, ∀ b ∈ listed, a.Precedes b → a.dueKey < b.dueKey

/-! ## Turns -/

variable {items : Table UpgradeRolloutItem.key} {at' : Timestamp} {limit : Nat} {a b : UpgradeRolloutItem}
variable {out : List UpgradeRolloutItem}

theorem precedes_asymm (h : a.Precedes b) : ¬b.Precedes a := by
  rintro ⟨-, hback⟩
  obtain ⟨-, hforth⟩ := h
  rcases hforth with ⟨hnot, hwaits⟩ | ⟨hsame, hforth⟩
  · rcases hback with ⟨hnot', -⟩ | ⟨hsame', -⟩
    · exact hnot' hwaits
    · exact hnot (hsame'.1 hwaits)
  · rcases hback with ⟨hnot', hwaits'⟩ | ⟨-, hback⟩
    · exact hnot' (hsame.1 hwaits')
    · rcases hforth with hlt | ⟨heq, hlt⟩ <;> rcases hback with hlt' | ⟨heq', hlt'⟩
      · exact lt_asymm hlt hlt'
      · exact lt_irrefl _ (heq' ▸ hlt)
      · exact lt_irrefl _ (heq ▸ hlt')
      · exact lt_asymm hlt hlt'

/-- Of two items of one instance, each of another rollout, one has its turn before the other. -/
theorem precedes_or (hinstance : a.instanceId = b.instanceId) (hne : a.rolloutId ≠ b.rolloutId) :
    a.Precedes b ∨ b.Precedes a := by
  unfold UpgradeRolloutItem.Precedes
  rcases lt_trichotomy a.createdAt b.createdAt with hlt | heq | hlt
  · by_cases ha : a.status = .awaitingFirstStart <;> by_cases hb : b.status = .awaitingFirstStart <;> simp_all
  · rcases lt_or_gt_of_ne hne with hlt | hlt <;>
      by_cases ha : a.status = .awaitingFirstStart <;> by_cases hb : b.status = .awaitingFirstStart <;> simp_all
  · by_cases ha : a.status = .awaitingFirstStart <;> by_cases hb : b.status = .awaitingFirstStart <;> simp_all

/-- The comparator follows the turns of an instance. -/
theorem precedes_of_dueBefore (hinstance : a.instanceId = b.instanceId) (hne : a.rolloutId ≠ b.rolloutId)
    (h : Store.dueBefore a b = true) : a.Precedes b := by
  refine ⟨hinstance, ?_⟩
  have hlt : a.rolloutId ≤ b.rolloutId → a.rolloutId < b.rolloutId := fun hle => lt_of_le_of_ne hle hne
  unfold Store.dueBefore at h
  rw [if_pos hinstance] at h
  by_cases ha : a.status = .awaitingFirstStart <;> by_cases hb : b.status = .awaitingFirstStart <;> simp_all
  · rcases h with h | ⟨heq, h⟩
    · exact .inl h
    · exact .inr ⟨heq, hlt h⟩
  · rcases h with h | ⟨heq, h⟩
    · exact .inl h
    · exact .inr ⟨heq, hlt h⟩

/-- Two items of one instance are of different rollouts. -/
theorem rolloutId_ne (ha : a ∈ dueItems items at') (hb : b ∈ dueItems items at') (hne : a ≠ b)
    (hinstance : a.instanceId = b.instanceId) : a.rolloutId ≠ b.rolloutId := by
  intro hrollout
  have hget := Table.mem_iff.1 (List.mem_of_mem_filter ha)
  have hget' := Table.mem_iff.1 (List.mem_of_mem_filter hb)
  have hkey : a.key = b.key := Prod.ext hrollout hinstance
  rw [hkey, hget'] at hget
  exact hne (Option.some.inj hget).symm

theorem nodup_dueItems : (dueItems items at').Nodup :=
  (List.Nodup.of_map _ items.nodup).filter _

/-- Where no instance has two of the items, the comparator looks at nothing but the time. -/
theorem consistent_of_distinct {due : List UpgradeRolloutItem}
    (h : ∀ a ∈ due, ∀ b ∈ due, a.instanceId = b.instanceId → a = b) : Consistent Store.dueBefore due := by
  have htime : ∀ a ∈ due, ∀ b ∈ due, Store.dueBefore a b = true ↔
      a.nextAttemptAt.getD a.createdAt ≤ b.nextAttemptAt.getD b.createdAt := by
    intro a ha b hb
    unfold Store.dueBefore
    by_cases hinstance : a.instanceId = b.instanceId
    · cases h a ha b hb hinstance
      simp
    · simp [hinstance]
  constructor
  · intro a ha b hb
    rw [htime a ha b hb, htime b hb a ha]
    exact le_total _ _
  · intro a ha b hb c hc hab hbc
    rw [htime a ha c hc]
    exact ((htime a ha b hb).1 hab).trans ((htime b hb c hc).1 hbc)

/-! ## From the listings to the orders -/

/-- An inconsistent comparator lets a later item of an instance come first. -/
theorem consistent_of_sameTurns (h : SameTurns items at' limit) (hlimit : (dueItems items at').length ≤ limit) :
    Consistent Store.dueBefore (dueItems items at') := by
  by_contra hnot
  apply hnot
  apply consistent_of_distinct
  by_contra hall
  push Not at hall
  obtain ⟨a, ha, b, hb, hinstance, hne⟩ := hall
  -- the two in the wrong order, before all others
  obtain ⟨late, early, hlate, hearly, hdistinct, hprecedes⟩ : ∃ late early, late ∈ dueItems items at' ∧
      early ∈ dueItems items at' ∧ late ≠ early ∧ early.Precedes late := by
    rcases precedes_or hinstance (rolloutId_ne ha hb hne hinstance) with hab | hba
    · exact ⟨b, a, hb, ha, fun heq => hne heq.symm, hab⟩
    · exact ⟨a, b, ha, hb, hne, hba⟩
  obtain ⟨rest, hperm⟩ := exists_perm_front hlate hearly hdistinct
  have hmemory : MemoryLists items at' limit ((late :: early :: rest).take (clampLimit limit)) :=
    ⟨_, sortsTo_of_not_consistent hnot hperm, rfl⟩
  obtain ⟨-, hturns, -⟩ := h _ _ hmemory ⟨_, orderedBy_insertionSort _ (List.Perm.refl _), rfl⟩
  -- a listing of two due items has room for both
  obtain ⟨room, hroom⟩ : ∃ room, clampLimit limit = room + 2 := by
    have hlength := hperm.length_eq
    simp only [List.length_cons] at hlength
    unfold clampLimit
    exact ⟨max 1 (min 500 limit) - 2, by omega⟩
  rw [hroom, List.take_succ_cons, List.take_succ_cons] at hturns
  have hlater := List.rel_of_pairwise_cons hturns List.mem_cons_self hprecedes.1.symm
  exact precedes_asymm hprecedes hlater

/-- The query may list first the one of two items whose key is not the larger. -/
theorem dueKey_lt_of_sameTurns {listed : List UpgradeRolloutItem} (h : SameTurns items at' limit)
    (hlisted : MemoryLists items at' limit listed)
    (ha : a ∈ listed) (hb : b ∈ dueItems items at') (hne : a ≠ b) (hnot : b ∈ listed → a.Precedes b) :
    a.dueKey < b.dueKey := by
  by_contra hle
  rw [not_lt] at hle
  have hsub : listed ⊆ dueItems items at' := by
    obtain ⟨sorted, hsorted, rfl⟩ := hlisted
    intro c hc
    exact hsorted.perm.subset (List.mem_of_mem_take hc)
  obtain ⟨ordered, hordered, hfirst⟩ := exists_orderedBy_before hb (hsub ha) (Ne.symm hne) hle
  obtain ⟨hsame, -, hturns⟩ := h _ _ hlisted ⟨ordered, hordered, rfl⟩
  have hboth := sublist_take (hordered.perm.nodup_iff.2 nodup_dueItems) hfirst ((hsame a).1 ha)
  have hprecedes := hnot ((hsame b).2 (hboth.subset List.mem_cons_self))
  have hlater := List.rel_of_pairwise_cons (hturns.sublist hboth) (by simp) hprecedes.1.symm
  exact precedes_asymm hprecedes hlater

theorem ordersAgree_of_sameTurns (h : SameTurns items at' limit)
    (hlimit : (dueItems items at').length ≤ limit) : OrdersAgree (dueItems items at') (clampLimit limit) := by
  have hconsistent := consistent_of_sameTurns h hlimit
  have hsorted := hconsistent.pairwise
  set sorted := (dueItems items at').insertionSort fun a b => Store.dueBefore a b with hset
  have hperm : sorted.Perm (dueItems items at') := List.perm_insertionSort _ _
  have hlisted : MemoryLists items at' limit (sorted.take (clampLimit limit)) :=
    ⟨sorted, sortsTo_insertionSort _ _, rfl⟩
  have hsplit := List.take_append_drop (clampLimit limit) sorted
  refine ⟨hconsistent, sorted.take (clampLimit limit), sorted.drop (clampLimit limit), ?_, ?_, ?_, ?_⟩
  · rw [hsplit]
    exact hperm.symm
  · rw [List.length_take, hperm.length_eq]
  · intro a ha b hb
    rw [← hsplit] at hsorted
    have hdisjoint := List.disjoint_of_nodup_append (hsplit ▸ hperm.nodup_iff.2 nodup_dueItems)
    have hdue : b ∈ dueItems items at' := hperm.subset (List.mem_of_mem_drop hb)
    refine ⟨(List.pairwise_append.1 hsorted).2.2 a ha b hb, ?_⟩
    apply dueKey_lt_of_sameTurns h hlisted ha hdue
    · rintro rfl
      exact hdisjoint ha hb
    · intro hb'
      exact absurd hb (hdisjoint hb')
  · intro a ha b hb hprecedes
    apply dueKey_lt_of_sameTurns h hlisted ha (hperm.subset (List.mem_of_mem_take hb))
    · rintro rfl
      exact precedes_asymm hprecedes hprecedes
    · exact fun _ => hprecedes

/-! ## From the orders to the listings -/

theorem inTurn_take {sorted : List UpgradeRolloutItem} {r : UpgradeRolloutItem → UpgradeRolloutItem → Prop} {room : Nat}
    (hperm : sorted.Perm (dueItems items at')) (hpairwise : sorted.Pairwise r)
    (hr : ∀ a b, a ∈ sorted.take room → b ∈ sorted.take room → a ≠ b → r a b → a.instanceId = b.instanceId →
      a.Precedes b) : InTurn (sorted.take room) := by
  have hsub := List.take_sublist room sorted
  have hne := (hperm.nodup_iff.2 nodup_dueItems).sublist hsub
  apply ((hpairwise.sublist hsub).and hne).imp_of_mem
  intro a b ha hb hab
  exact hr a b ha hb hab.2 hab.1

theorem sameTurns_of_ordersAgree (h : OrdersAgree (dueItems items at') (clampLimit limit)) :
    SameTurns items at' limit := by
  rintro inMemory inPostgres ⟨sorted, hsorted, rfl⟩ ⟨ordered, hordered, rfl⟩
  obtain ⟨listed, rest, hperm, hlength, hbefore, hturns⟩ := h.split
  have hnodup : (dueItems items at').Nodup := nodup_dueItems
  have htake : ∀ out : List UpgradeRolloutItem, out.Perm (dueItems items at') →
      out.take (clampLimit limit) = out.take listed.length := by
    intro out hout
    rw [hlength, ← hout.length_eq, ← List.take_eq_take_min]
  have hmemory : (sorted.take (clampLimit limit)).Perm listed := by
    rw [htake sorted hsorted.perm]
    have hpairwise := h.consistent.pairwise
    rw [← hsorted.stable h.consistent] at hpairwise
    apply take_perm_of_before (hsorted.perm.nodup_iff.2 hnodup) hpairwise (hsorted.perm.trans hperm)
    intro a ha b hb
    exact (hbefore a ha b hb).1.asymm hnodup
  have hpostgres : (ordered.take (clampLimit limit)).Perm listed := by
    rw [htake ordered hordered.perm]
    apply take_perm_of_before (hordered.perm.nodup_iff.2 hnodup) hordered.sorted (hordered.perm.trans hperm)
    intro a ha b hb
    exact not_le_of_gt (hbefore a ha b hb).2
  refine ⟨fun item => hmemory.mem_iff.trans hpostgres.mem_iff.symm, ?_, ?_⟩
  · have hpairwise := h.consistent.pairwise
    rw [← hsorted.stable h.consistent] at hpairwise
    apply inTurn_take hsorted.perm hpairwise
    intro a b ha hb hne hbefore' hinstance
    have hdue := hperm.mem_iff.2 (List.mem_append_left rest (hmemory.subset ha))
    have hdue' := hperm.mem_iff.2 (List.mem_append_left rest (hmemory.subset hb))
    exact precedes_of_dueBefore hinstance (rolloutId_ne hdue hdue' hne hinstance) hbefore'.1
  · apply inTurn_take hordered.perm hordered.sorted
    intro a b ha hb hne hkey hinstance
    have hlisted := hpostgres.subset ha
    have hlisted' := hpostgres.subset hb
    have hdue := hperm.mem_iff.2 (List.mem_append_left rest hlisted)
    have hdue' := hperm.mem_iff.2 (List.mem_append_left rest hlisted')
    rcases precedes_or hinstance (rolloutId_ne hdue hdue' hne hinstance) with hab | hba
    · exact hab
    · exact absurd hkey (not_le_of_gt (hturns b hlisted' a hlisted hba))

/-! ## The two stores -/

/-- The model of the store in memory returns one of the listings. -/
theorem memoryLists_listDue (s : Store) (at' : Timestamp) (limit : Nat) :
    MemoryLists s.upgradeRolloutItems at' limit (s.listDueUpgradeRolloutItems at' limit) :=
  ⟨_, sortsTo_insertionSort _ _, rfl⟩

/-- An item of one instance that waits to be tried again. -/
def retriedItem (rolloutId : String) (createdAt nextAttemptAt : Timestamp) : UpgradeRolloutItem where
  rolloutId := rolloutId
  instanceId := "i1"
  position := 0
  revision := 1
  userId := "u1"
  appId := "web"
  sourceStatus := .running
  desiredState := .running
  sourceAppVersionId := none
  sourceImageArtifactId := none
  sourceImageReference := none
  targetAppVersionId := none
  targetImageArtifactId := none
  targetImageReference := "web:2"
  targetRuntimeContract := none
  launchProfile :=
    { imageReference := "web:2", resources := ⟨"512m", "1", 256⟩, environment := [], configFiles := [] }
  recovery := false
  diagnostics := none
  status := .waitingForIdle
  blocker := none
  error := none
  forceRequested := false
  attemptId := none
  attemptCount := 1
  nextAttemptAt := some nextAttemptAt
  lastCheckedAt := none
  startedAt := none
  finishedAt := none
  createdAt := createdAt
  updatedAt := createdAt

/-- Two rollouts of one instance: the older one has been put off longer. -/
def retriedItems : Table UpgradeRolloutItem.key :=
  (Table.empty.put (retriedItem "r1" 0 10)).put (retriedItem "r2" 5 6)

end OpenApp.Rollout
