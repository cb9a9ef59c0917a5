import OpenApp.Rollout.System

/-!
# What a call does to the store

The items a program has seen are in the answers it got. Every call that changes the store is one of a
few: it creates a rollout, writes one item, settles older ones, recovers interrupted ones or writes a
summary. So what holds of the items of every run is proved once for each of these.
-/

namespace OpenApp.Rollout

open Async Keyed

abbrev RolloutExchange := Exchange RolloutOp RolloutOp.Answer Failure

/-! ## What a program has seen -/

/-- The items of an answer. -/
def itemsOf : RolloutExchange → List UpgradeRolloutItem
  | ⟨.getRollout _, .ok (some detail)⟩ => detail.items
  | ⟨.listDueItems _ _, .ok items⟩ => items
  | ⟨.listLegacyFirstStartProofItems, .ok items⟩ => items
  | ⟨.compareAndSaveItem _ _, .ok (some item)⟩ => [item]
  | _ => []

def Seen (item : UpgradeRolloutItem) (tr : Exchanges) : Prop :=
  ∃ x ∈ tr, item ∈ itemsOf x

theorem Seen.cons {item : UpgradeRolloutItem} {tr : Exchanges} (h : Seen item tr) (x : RolloutExchange) :
    Seen item (x :: tr) := by
  obtain ⟨y, hy, hitem⟩ := h
  exact ⟨y, List.mem_cons_of_mem _ hy, hitem⟩

theorem seen_head {item : UpgradeRolloutItem} {x : RolloutExchange} {tr : Exchanges} (h : item ∈ itemsOf x) :
    Seen item (x :: tr) :=
  ⟨x, List.mem_cons_self, h⟩

theorem seen_cons {item : UpgradeRolloutItem} {x : RolloutExchange} {tr : Exchanges} :
    Seen item (x :: tr) ↔ item ∈ itemsOf x ∨ Seen item tr := by
  simp [Seen]

/-- The item is the saved form of what was to be written. -/
def Written (next u : UpgradeRolloutItem) : Prop :=
  ∃ current, current.key = next.key ∧ u = Store.saved current next next.updatedAt

/-- The answer is one the store may give. -/
def Exchange.Sound : RolloutExchange → Prop
  | ⟨.compareAndSaveItem next _, .ok (some u)⟩ => Written next u
  | ⟨.getRollout id, .ok (some detail)⟩ => detail.rollout.id = id ∧ ∀ item ∈ detail.items, item.rolloutId = id
  | ⟨.listDueItems _ _, .ok items⟩ => ∀ item ∈ items, item.status.terminal = false ∧ item.status.inTransition = false
  | _ => True

def Sound (tr : Exchanges) : Prop :=
  ∀ x ∈ tr, Exchange.Sound x

theorem sound_cons {x : RolloutExchange} {tr : Exchanges} : Sound (x :: tr) ↔ Exchange.Sound x ∧ Sound tr :=
  List.forall_mem_cons

theorem Sound.of_suffix {tr tr' : Exchanges} (h : Sound tr') (hs : tr <:+ tr') : Sound tr :=
  fun x hx => h x (hs.subset hx)

/-! ## What a call does -/

/-- The store after a checkpoint of the item that is there. -/
def Store.checkpointed (s : Store) (current next : UpgradeRolloutItem) (at' : Timestamp) (supersede : Bool) : Store :=
  let put := s.putItem (Store.saved current next at')
  if supersede && (next.status = .awaitingFirstStart ∨ next.status = .succeeded) then
    put.supersedeEarlier current next.instanceId at'
  else put

inductive Effect (s : Store) : (o : RolloutOp) → Except Failure o.Answer → Store → Prop
  | kept {o : RolloutOp} {r : Except Failure o.Answer} {s' : Store}
      (items : s'.upgradeRolloutItems = s.upgradeRolloutItems) (rollouts : s'.upgradeRollouts = s.upgradeRollouts)
      (reads : ∀ item ∈ itemsOf ⟨o, r⟩, s.upgradeRolloutItems.get item.key = some item)
      (sound : Exchange.Sound ⟨o, r⟩) : Effect s o r s'
  | created {rollout : UpgradeRollout} {items : List UpgradeRolloutItem} {detail : UpgradeRolloutDetail}
      (fresh : s.upgradeRollouts.get rollout.id = none) :
      Effect s (.createRollout rollout items) (.ok detail)
        (Store.putItems { s with upgradeRollouts := s.upgradeRollouts.put rollout } items)
  | written {next current : UpgradeRolloutItem}
      (there : s.upgradeRolloutItems.get next.key = some current) :
      Effect s (.compareAndSaveItem next current.revision) (.ok (some (Store.saved current next next.updatedAt)))
        (s.putItem (Store.saved current next next.updatedAt))
  | checkpointed {next current : UpgradeRolloutItem} {at' : Timestamp} {supersede : Bool} {affected : List String}
      (there : s.upgradeRolloutItems.get next.key = some current) :
      Effect s (.commitDeploymentCheckpoint next current.revision at' supersede)
        (.ok (some (Store.saved current next at', affected))) (s.checkpointed current next at' supersede)
  | superseded {rolloutId instanceId : String} {at' : Timestamp} {current : UpgradeRolloutItem}
      {affected : List String} (there : s.upgradeRolloutItems.get (rolloutId, instanceId) = some current) :
      Effect s (.supersedeDeferredItemsBefore rolloutId instanceId at') (.ok affected)
        (s.supersedeEarlier current instanceId at')
  | recovered {cutoff recoveredAt : Timestamp} {n : Nat} :
      Effect s (.recoverInterruptedItems cutoff recoveredAt) (.ok n)
        (s.recoverInterruptedUpgradeRolloutItems cutoff recoveredAt).2
  | summarized {rollout updated : UpgradeRollout} {expectedRevision : Nat} {s' : Store}
      (there : s.compareAndSaveUpgradeRollout rollout expectedRevision = (some updated, s')) :
      Effect s (.compareAndSaveRollout rollout expectedRevision) (.ok (some updated)) s'

section Effect

variable {s s' : Store}

theorem getUpgradeRollout_items {id : String} {detail : UpgradeRolloutDetail} (h : s.getUpgradeRollout id = some detail) :
    detail.rollout.id = id ∧ ∀ item ∈ detail.items, item.rolloutId = id ∧
      s.upgradeRolloutItems.get item.key = some item := by
  obtain ⟨rollout, hrollout, rfl⟩ := Option.map_eq_some_iff.1 h
  refine ⟨Table.key_of_get hrollout, fun item hitem => ?_⟩
  obtain ⟨hrow, hid⟩ := List.mem_filter.1 ((List.mem_insertionSort _).1 hitem)
  exact ⟨by simpa using hid, Table.mem_iff.1 hrow⟩

theorem mem_listDue {at' : Timestamp} {limit : Nat} {item : UpgradeRolloutItem}
    (h : item ∈ s.listDueUpgradeRolloutItems at' limit) :
    s.upgradeRolloutItems.get item.key = some item ∧ item.status.terminal = false ∧ item.status.inTransition = false := by
  obtain ⟨hrow, hdue⟩ := List.mem_filter.1 ((List.mem_insertionSort _).1 (List.mem_of_mem_take h))
  refine ⟨Table.mem_iff.1 hrow, ?_⟩
  simp only [Store.dueItem, decide_eq_true_eq] at hdue
  rcases hdue.1 with h | h | h <;> simp [h, UpgradeRolloutItemStatus.terminal, UpgradeRolloutItemStatus.inTransition]

theorem mem_listLegacy {item : UpgradeRolloutItem} (h : item ∈ s.listLegacyFirstStartProofItems) :
    s.upgradeRolloutItems.get item.key = some item :=
  Table.mem_iff.1 (List.mem_filter.1 ((List.mem_insertionSort _).1 h)).1

theorem createUpgradeRollout_cases {rollout : UpgradeRollout} {items : List UpgradeRolloutItem}
    {detail : UpgradeRolloutDetail} (h : s.createUpgradeRollout rollout items = some (detail, s')) :
    s' = s ∨ (s.upgradeRollouts.get rollout.id = none ∧
      s' = Store.putItems { s with upgradeRollouts := s.upgradeRollouts.put rollout } items) := by
  unfold Store.createUpgradeRollout at h
  dsimp only at h
  split at h
  · exact .inl (Prod.mk.inj (Option.some.inj h)).2.symm
  · split at h
    · cases h
    · next hfresh =>
      obtain ⟨d, _, hd⟩ := Option.map_eq_some_iff.1 h
      exact .inr ⟨by simpa using hfresh, (Prod.mk.inj hd).2.symm⟩

theorem beginInstanceDraining_items (s : Store) (request : InstanceDrainRequest) :
    (s.beginInstanceDraining request).2.upgradeRolloutItems = s.upgradeRolloutItems ∧
      (s.beginInstanceDraining request).2.upgradeRollouts = s.upgradeRollouts := by
  unfold Store.beginInstanceDraining Store.admitDrain Store.expireDrain
  split
  · exact ⟨rfl, rfl⟩
  · split <;> split <;> exact ⟨rfl, rfl⟩

/-- What a call on the store does, and what it is told. -/
theorem write_effect {w w' : World} {o : RolloutOp} {a : o.Answer} (h : w.write o = some (a, w')) :
    Effect w.store o (.ok a) w'.store := by
  cases o with
  | createRollout rollout items =>
    obtain ⟨⟨d, s'⟩, hr, hw⟩ := Option.map_eq_some_iff.1 h
    obtain ⟨rfl, rfl⟩ := Prod.mk.inj hw
    rcases createUpgradeRollout_cases hr with hs | ⟨hfresh, hs⟩
    · dsimp only at hs ⊢
      exact .kept (by rw [hs]) (by rw [hs]) (fun item hitem => nomatch hitem) trivial
    · dsimp only at hs ⊢
      exact hs ▸ .created hfresh
  | compareAndSaveItem next expectedRevision =>
    obtain ⟨rfl, rfl⟩ := Prod.mk.inj (Option.some.inj h)
    dsimp only [Store.compareAndSaveUpgradeRolloutItem]
    split
    · exact .kept rfl rfl (fun item hitem => nomatch hitem) trivial
    · next current hget =>
      split
      · exact .kept rfl rfl (fun item hitem => nomatch hitem) trivial
      · next hrev =>
        obtain rfl := not_not.1 hrev
        exact .written hget
  | commitDeploymentCheckpoint next expectedRevision at' supersede =>
    obtain ⟨rfl, rfl⟩ := Prod.mk.inj (Option.some.inj h)
    dsimp only [Store.commitUpgradeDeploymentCheckpoint]
    split
    · exact .kept rfl rfl (fun item hitem => nomatch hitem) trivial
    · next current hget =>
      split
      · exact .kept rfl rfl (fun item hitem => nomatch hitem) trivial
      · next hrev =>
        obtain rfl := not_not.1 hrev
        have hstore : ∀ affected, Effect w.store (.commitDeploymentCheckpoint next current.revision at' supersede)
            (.ok (some (Store.saved current next at', affected))) (w.store.checkpointed current next at' supersede) :=
          fun affected => .checkpointed hget
        unfold Store.checkpointed at hstore
        split
        · next hsup =>
          simp only [hsup, if_true] at hstore
          exact hstore _
        · next hsup =>
          simp only [if_neg hsup] at hstore
          exact hstore _
  | supersedeDeferredItemsBefore rolloutId instanceId at' =>
    obtain ⟨rfl, rfl⟩ := Prod.mk.inj (Option.some.inj h)
    dsimp only [Store.supersedeUpgradeDeferredItemsBefore]
    split
    · exact .kept rfl rfl (fun item hitem => nomatch hitem) trivial
    · next current hget => exact .superseded hget
  | recoverInterruptedItems cutoff recoveredAt =>
    obtain ⟨rfl, rfl⟩ := Prod.mk.inj (Option.some.inj h)
    exact .recovered
  | compareAndSaveRollout rollout expectedRevision =>
    obtain ⟨rfl, rfl⟩ := Prod.mk.inj (Option.some.inj h)
    dsimp only
    cases hr : w.store.compareAndSaveUpgradeRollout rollout expectedRevision with
    | mk saved s' =>
      cases saved with
      | some updated => exact .summarized hr
      | none =>
        have hsame : s' = w.store := by
          unfold Store.compareAndSaveUpgradeRollout at hr
          split at hr
          · exact (Prod.mk.inj hr).2.symm
          · split at hr
            · exact (Prod.mk.inj hr).2.symm
            · cases hr
        rw [hsame]
        exact .kept rfl rfl (fun item hitem => nomatch hitem) trivial
  | clear instanceId rolloutId attemptId =>
    obtain ⟨rfl, rfl⟩ := Prod.mk.inj (Option.some.inj h)
    have hclear : ∀ s : Store, (s.clearInstanceDraining instanceId rolloutId attemptId).upgradeRolloutItems =
        s.upgradeRolloutItems ∧ (s.clearInstanceDraining instanceId rolloutId attemptId).upgradeRollouts =
          s.upgradeRollouts := by
      intro s
      unfold Store.clearInstanceDraining
      split <;> exact ⟨rfl, rfl⟩
    exact .kept (hclear _).1 (hclear _).2 (fun item hitem => nomatch hitem) trivial
  | clearCheckpoints _ | addCheckpoints _ _ | setLegacyReconciled _ _ =>
    obtain ⟨rfl, rfl⟩ := Prod.mk.inj (Option.some.inj h)
    exact .kept rfl rfl (fun item hitem => nomatch hitem) trivial
  | _ => cases h

/-- A call that only looks finds what is there. -/
theorem read_effect {w : World} {o : RolloutOp} {a : o.Answer} (h : w.read o = some a) :
    Effect w.store o (.ok a) w.store := by
  cases o with
  | getRollout id =>
    obtain rfl := Option.some.inj h
    cases hd : w.store.getUpgradeRollout id with
    | none => exact .kept rfl rfl (fun item hitem => nomatch hitem) trivial
    | some detail =>
      obtain ⟨hid, hitems⟩ := getUpgradeRollout_items hd
      exact .kept rfl rfl (fun item hitem => (hitems item hitem).2) ⟨hid, fun item hitem => (hitems item hitem).1⟩
  | listDueItems at' limit =>
    obtain rfl := Option.some.inj h
    exact .kept rfl rfl (fun item hitem => (mem_listDue hitem).1) fun item hitem => (mem_listDue hitem).2
  | listLegacyFirstStartProofItems =>
    obtain rfl := Option.some.inj h
    exact .kept rfl rfl (fun item hitem => mem_listLegacy hitem) trivial
  | listRollouts _ | findRolloutByIdempotencyKey _ _ | checkpoints _ | legacyReconciled _ | aborted _ =>
    exact .kept rfl rfl (fun item hitem => nomatch hitem) trivial
  | _ => cases h

/-- What comes from outside is no item of the store. -/
theorem told_effect {s : Store} {o : RolloutOp} {x : RolloutChoice} {a : o.Answer} (h : World.told o x = some a) :
    Effect s o (.ok a) s := by
  cases o with
  | now | randomId | claimWorker | claimItem _ | releaseWorker | releaseItem _ | idempotencyConflicts _ _
  | getContainer _ | getLaunchTarget _ | getProvisioningPolicy | assess _ _ | confirmAfterDrain _ _
  | acceptDeferredCandidate _ _ | diagnose _ _ => exact .kept rfl rfl (fun item hitem => nomatch hitem) trivial
  | _ => cases x <;> cases h

theorem failed_effect {s : Store} (o : RolloutOp) (error : Failure) : Effect s o (.error error) s := by
  refine .kept rfl rfl (fun item hitem => ?_) ?_
  · cases o <;> nomatch hitem
  · cases o <;> trivial

theorem perform_effect {w w' : World} {o : RolloutOp} {x : RolloutChoice} {r : Except Failure o.Answer}
    (h : w.perform o x = some (r, w')) : Effect w.store o r w'.store := by
  unfold World.perform at h
  split at h
  · unfold World.rebuild at h
    dsimp only at h
    split at h
    · obtain ⟨rfl, rfl⟩ := Prod.mk.inj (Option.some.inj h)
      exact .kept rfl rfl (fun item hitem => nomatch hitem) trivial
    · obtain ⟨rfl, rfl⟩ := Prod.mk.inj (Option.some.inj h)
      exact failed_effect _ _
    · cases h
  · unfold World.inspect at h
    split at h
    · obtain ⟨rfl, rfl⟩ := Prod.mk.inj (Option.some.inj h)
      exact failed_effect _ _
    · split at h
      · cases h
      · obtain ⟨rfl, rfl⟩ := Prod.mk.inj (Option.some.inj h)
        exact .kept rfl rfl (fun item hitem => nomatch hitem) trivial
    · cases h
  · unfold World.beginDrain at h
    split at h
    · obtain ⟨rfl, rfl⟩ := Prod.mk.inj (Option.some.inj h)
      exact failed_effect _ _
    · obtain ⟨rfl, rfl⟩ := Prod.mk.inj (Option.some.inj h)
      exact .kept (beginInstanceDraining_items _ _).1 (beginInstanceDraining_items _ _).2
        (fun item hitem => nomatch hitem) trivial
    · cases h
  · split at h
    · cases h
    · obtain ⟨rfl, rfl⟩ := Prod.mk.inj (Option.some.inj h)
      exact failed_effect _ _
  · split at h
    · next a w₁ hw =>
      obtain ⟨rfl, rfl⟩ := Prod.mk.inj (Option.some.inj h)
      exact write_effect hw
    · obtain ⟨a, ha, hr⟩ := Option.map_eq_some_iff.1 h
      obtain ⟨rfl, rfl⟩ := Prod.mk.inj hr
      rcases Option.or_eq_some_iff.1 (by simpa using ha) with ha | ⟨_, ha⟩
      · exact read_effect ha
      · exact told_effect ha
  · obtain ⟨a, ha, hr⟩ := Option.map_eq_some_iff.1 h
    obtain ⟨rfl, rfl⟩ := Prod.mk.inj hr
    exact told_effect ha

end Effect

/-! ## What becomes of one item -/

/-- What no call changes of an item. -/
structure FixedPart where
  rolloutId : String
  instanceId : String
  targetAppVersionId : Option String
  targetImageArtifactId : Option String
  targetImageReference : String
  targetRuntimeContract : Option String
  launchProfile : ContainerLaunchProfile
  recovery : Bool
  createdAt : Timestamp
  deriving DecidableEq

def UpgradeRolloutItem.fixed (item : UpgradeRolloutItem) : FixedPart where
  rolloutId := item.rolloutId
  instanceId := item.instanceId
  targetAppVersionId := item.targetAppVersionId
  targetImageArtifactId := item.targetImageArtifactId
  targetImageReference := item.targetImageReference
  targetRuntimeContract := item.targetRuntimeContract
  launchProfile := item.launchProfile
  recovery := item.recovery
  createdAt := item.createdAt

/-- A call changes one item into another. -/
inductive Change : RolloutOp → UpgradeRolloutItem → UpgradeRolloutItem → Prop
  | written {next item : UpgradeRolloutItem} (key : next.key = item.key) :
      Change (.compareAndSaveItem next item.revision) item (Store.saved item next next.updatedAt)
  | checkpointed {next item : UpgradeRolloutItem} {at' : Timestamp} {supersede : Bool} (key : next.key = item.key) :
      Change (.commitDeploymentCheckpoint next item.revision at' supersede) item (Store.saved item next at')
  | superseded {o : RolloutOp} {item : UpgradeRolloutItem} {at' : Timestamp}
      (first : item.status = .awaitingFirstStart ∨ item.status = .needsAttention) :
      Change o item (Store.superseded item at')
  | recovered {cutoff recoveredAt : Timestamp} {item : UpgradeRolloutItem}
      (interrupted : Store.interrupted cutoff item = true) :
      Change (.recoverInterruptedItems cutoff recoveredAt) item (Store.recovered item recoveredAt)

section Items

variable {s s' : Store} {o : RolloutOp} {item item' : UpgradeRolloutItem}

theorem Change.fixed (h : Change o item item') : item'.fixed = item.fixed := by
  cases h <;> rfl

theorem Change.key (h : Change o item item') : item'.key = item.key := by
  cases h <;> rfl

theorem Change.revision (h : Change o item item') : item'.revision = item.revision + 1 := by
  cases h <;> rfl

@[simp] theorem saved_key (current next : UpgradeRolloutItem) (at' : Timestamp) :
    (Store.saved current next at').key = current.key := rfl

theorem supersedable_status {candidate : UpgradeRolloutItem} (h : s.supersedable candidate = true) :
    candidate.status = .awaitingFirstStart ∨ candidate.status = .needsAttention := by
  simp only [Store.supersedable, UpgradeRolloutItem.proofMissing, decide_eq_true_eq] at h
  rcases h with h | ⟨_, h, _⟩
  · exact .inl h
  · exact .inr h

theorem settleEarlier_cases (current : UpgradeRolloutItem) (instanceId : String) (at' : Timestamp)
    (candidate : UpgradeRolloutItem) :
    s.settleEarlier current instanceId at' candidate = candidate ∨
      Change o candidate (s.settleEarlier current instanceId at' candidate) := by
  unfold Store.settleEarlier
  split
  · next h =>
    simp only [Store.supersededBy, Bool.and_eq_true, decide_eq_true_eq] at h
    exact .inr (.superseded (supersedable_status h.1.2))
  · exact .inl rfl

theorem supersedeEarlier_get (s : Store) (current : UpgradeRolloutItem) (instanceId : String) (at' : Timestamp)
    (k : String × String) : (s.supersedeEarlier current instanceId at').upgradeRolloutItems.get k =
      (s.upgradeRolloutItems.get k).map (s.settleEarlier current instanceId at') :=
  Table.get_sweep _ _ (s.settleEarlier_key current instanceId at') k

/-- An item never takes its own place. -/
theorem settleEarlier_self (current next : UpgradeRolloutItem) (instanceId : String) (at' : Timestamp) :
    s.settleEarlier current instanceId at' (Store.saved current next at') = Store.saved current next at' := by
  unfold Store.settleEarlier
  refine if_neg fun h => ?_
  simp only [Store.supersededBy, Bool.and_eq_true, Store.olderThan, decide_eq_true_eq] at h
  rcases h.2 with h | ⟨_, h⟩
  · exact absurd h (lt_irrefl _)
  · exact absurd h (String.lt_irrefl _)

/-- What a call makes of the item under a key: nothing, a change, or a new item. -/
inductive Turns (s s' : Store) (o : RolloutOp) (k : String × String) : Prop
  | same (h : s'.upgradeRolloutItems.get k = s.upgradeRolloutItems.get k)
  | changed {item item' : UpgradeRolloutItem} (before : s.upgradeRolloutItems.get k = some item)
      (after : s'.upgradeRolloutItems.get k = some item') (change : Change o item item')
  | new {rollout : UpgradeRollout} {items : List UpgradeRolloutItem} {item : UpgradeRolloutItem}
      (op : o = .createRollout rollout items) (fresh : s.upgradeRollouts.get rollout.id = none) (mem : item ∈ items)
      (after : s'.upgradeRolloutItems.get k = some item)

theorem turns_of_map {f : UpgradeRolloutItem → UpgradeRolloutItem} {k : String × String}
    (h : s'.upgradeRolloutItems.get k = (s.upgradeRolloutItems.get k).map f)
    (hf : ∀ item, s.upgradeRolloutItems.get k = some item → f item = item ∨ Change o item (f item)) :
    Turns s s' o k := by
  cases hget : s.upgradeRolloutItems.get k with
  | none => exact .same (by rw [h, hget, Option.map_none])
  | some item =>
    rcases hf item hget with hsame | hchange
    · exact .same (by rw [h, hget, Option.map_some, hsame])
    · exact .changed hget (by rw [h, hget, Option.map_some]) hchange

theorem putItems_get (s : Store) (items : List UpgradeRolloutItem) (k : String × String) :
    (Store.putItems s items).upgradeRolloutItems.get k = s.upgradeRolloutItems.get k ∨
      ∃ item ∈ items, (Store.putItems s items).upgradeRolloutItems.get k = some item := by
  unfold Store.putItems
  induction items generalizing s with
  | nil => exact .inl rfl
  | cons a rest ih =>
    rcases ih { s with upgradeRolloutItems := s.upgradeRolloutItems.put a } with h | ⟨item, hmem, h⟩
    · by_cases hk : k = a.key
      · refine .inr ⟨a, List.mem_cons_self, h.trans ?_⟩
        subst hk
        exact Table.get_put_self _ a
      · exact .inl (h.trans (Table.get_put_of_ne _ a hk))
    · exact .inr ⟨item, List.mem_cons_of_mem _ hmem, h⟩

theorem putItems_rollouts (s : Store) (items : List UpgradeRolloutItem) :
    (Store.putItems s items).upgradeRollouts = s.upgradeRollouts := by
  unfold Store.putItems
  induction items generalizing s with
  | nil => rfl
  | cons a rest ih => exact ih _

theorem Effect.turns {r : Except Failure o.Answer} (h : Effect s o r s') (k : String × String) : Turns s s' o k := by
  cases h with
  | kept items _ _ _ => exact .same (by rw [items])
  | @created rollout items detail fresh =>
    rcases putItems_get { s with upgradeRollouts := s.upgradeRollouts.put rollout } items k with h | ⟨item, hmem, h⟩
    · exact .same h
    · exact .new rfl fresh hmem h
  | @written next current there =>
    have hkey : current.key = next.key := Table.key_of_get there
    by_cases hk : k = current.key
    · subst hk
      exact .changed (hkey ▸ there) (Table.get_put_self _ (Store.saved current next next.updatedAt)) (.written hkey.symm)
    · exact .same (Table.get_put_of_ne _ (Store.saved current next next.updatedAt) hk)
  | @checkpointed next current at' supersede affected there =>
    have hkey : current.key = next.key := Table.key_of_get there
    have hput : ∀ k, (s.putItem (Store.saved current next at')).upgradeRolloutItems.get k =
        if k = current.key then some (Store.saved current next at') else s.upgradeRolloutItems.get k :=
      fun k => Table.get_put _ (Store.saved current next at') k
    unfold Store.checkpointed
    dsimp only
    by_cases hk : k = current.key
    · subst hk
      refine .changed (hkey ▸ there) ?_ (.checkpointed hkey.symm)
      split
      · rw [supersedeEarlier_get, hput, if_pos rfl, Option.map_some, settleEarlier_self]
      · rw [hput, if_pos rfl]
    · split
      · refine turns_of_map (f := (s.putItem (Store.saved current next at')).settleEarlier current next.instanceId at')
          ?_ fun item _ => settleEarlier_cases _ _ _ item
        rw [supersedeEarlier_get, hput, if_neg hk]
      · exact .same (by rw [hput, if_neg hk])
  | @superseded rolloutId instanceId at' current affected there =>
    refine turns_of_map (f := s.settleEarlier current instanceId at') ?_ fun item _ => settleEarlier_cases _ _ _ item
    exact supersedeEarlier_get s current instanceId at' k
  | @recovered cutoff recoveredAt n =>
    refine turns_of_map (f := Store.recoverItem cutoff recoveredAt)
      (Table.get_sweep _ _ (Store.recoverItem_key cutoff recoveredAt) k) fun item _ => ?_
    unfold Store.recoverItem
    split
    · next hint => exact .inr (.recovered hint)
    · exact .inl rfl
  | @summarized rollout updated expectedRevision s' there =>
    refine .same ?_
    unfold Store.compareAndSaveUpgradeRollout at there
    split at there
    · cases there
    · split at there
      · cases there
      · obtain ⟨_, rfl⟩ := Prod.mk.inj there
        rfl

end Items

end OpenApp.Rollout
