import OpenApp.Async.Solo
import OpenApp.Rollout.Calls

/-!
# The items of every run

What a program has seen of an item stays true as long as the item keeps its revision, so a write that
compares the revision is a write of the item that is there. With this, every change of an item is one
of those its attempt, an operator, a newer deployment or a recovery may make, and the statuses of the
items follow one state machine, whatever the interleaving.
-/

namespace OpenApp.Rollout

open Async Async.Prog Keyed

variable {ι : Type} [DecidableEq ι]

abbrev RolloutEvent (ι : Type) := Event ι RolloutOp RolloutOp.Answer Failure World

section Items

variable {w : UpgradeRolloutWorker} {s s' : Store} {o : RolloutOp} {r : Except Failure o.Answer}
  {item item' : UpgradeRolloutItem} {tr : Exchanges} {own : Option String}

/-! ## What is seen -/

/-- What an answer shows is in the store the call left. -/
theorem Effect.seen (h : Effect s o r s') (hitem : item ∈ itemsOf ⟨o, r⟩) :
    s'.upgradeRolloutItems.get item.key = some item := by
  cases h with
  | kept items rollouts reads sound => rw [items]; exact reads item hitem
  | @written next current there =>
    obtain rfl := List.mem_singleton.1 hitem
    exact Table.get_put_self _ (Store.saved current next next.updatedAt)
  | _ => cases hitem

theorem Effect.sound (h : Effect s o r s') : Exchange.Sound ⟨o, r⟩ := by
  cases h with
  | kept items rollouts reads sound => exact sound
  | @written next current there => exact ⟨current, Table.key_of_get there, rfl⟩
  | _ => trivial

/-- Rollouts stay. -/
theorem Effect.rollouts (h : Effect s o r s') {id : String} (hid : (s.upgradeRollouts.get id).isSome = true) :
    (s'.upgradeRollouts.get id).isSome = true := by
  cases h with
  | kept items rollouts reads sound => rwa [rollouts]
  | @created rollout items detail fresh =>
    rw [putItems_rollouts]
    dsimp only
    rw [Table.get_put]
    split
    · rfl
    · exact hid
  | written there => exact hid
  | @checkpointed next current at' supersede affected there =>
    unfold Store.checkpointed
    dsimp only
    split <;> exact hid
  | superseded there => exact hid
  | recovered => exact hid
  | @summarized rollout updated expectedRevision s' there =>
    unfold Store.compareAndSaveUpgradeRollout at there
    split at there
    · cases there
    · split at there
      · cases there
      · obtain ⟨_, rfl⟩ := Prod.mk.inj there
        dsimp only
        rw [Table.get_put]
        split
        · rfl
        · exact hid

/-- A new item has its rollout. -/
theorem Effect.new_rollout {rollout : UpgradeRollout} {items : List UpgradeRolloutItem}
    {r : Except Failure (RolloutOp.createRollout rollout items).Answer} {k : String × String}
    (h : Effect s (.createRollout rollout items) r s') (hnew : s.upgradeRolloutItems.get k ≠ s'.upgradeRolloutItems.get k) :
    (s'.upgradeRollouts.get rollout.id).isSome = true := by
  cases h with
  | kept items rollouts reads sound => exact absurd (by rw [items]) hnew
  | created fresh =>
    rw [putItems_rollouts]
    exact (congrArg Option.isSome (Table.get_put_self _ rollout)).trans rfl

/-! ## The invariant -/

/-- What the threads have seen, and what is stored. -/
structure Consistent (es : List (RolloutEvent ι)) (s : Store) : Prop where
  /-- an item that was seen is there, and is what was seen unless its revision is higher -/
  known : ∀ t item, Seen item (traceOf t es) → ∃ current, s.upgradeRolloutItems.get item.key = some current ∧
    (item = current ∨ item.revision < current.revision)
  sound : ∀ t, Sound (traceOf t es)
  owned : ∀ k item, s.upgradeRolloutItems.get k = some item → (s.upgradeRollouts.get item.rolloutId).isSome = true

/-- A write of an item is a write of the item that is there. -/
theorem Consistent.current {es : List (RolloutEvent ι)} (hc : Consistent es s) {t : ι} {seen : UpgradeRolloutItem}
    (hseen : Seen seen (traceOf t es)) (hget : s.upgradeRolloutItems.get item.key = some item)
    (hkey : seen.key = item.key) (hrev : seen.revision = item.revision) : seen = item := by
  obtain ⟨current, hcurrent, hsame⟩ := hc.known t seen hseen
  rw [hkey, hget] at hcurrent
  obtain rfl := Option.some.inj hcurrent
  rcases hsame with hsame | hlt
  · exact hsame
  · omega

/-- How the item that is there changes, given what was exchanged before by the one who changes it. -/
inductive Made (w : UpgradeRolloutWorker) (own : Option String) (tr : Exchanges) (item : UpgradeRolloutItem) :
    RolloutOp → UpgradeRolloutItem → Prop
  | moved {next : UpgradeRolloutItem} (moves : Moves w own tr item next) :
      Made w own tr item (.compareAndSaveItem next item.revision) (Store.saved item next next.updatedAt)
  | deployed {checkpoint : UpgradeRolloutWorker.Checkpoint} {at' : Timestamp} {nextAt : Option Timestamp}
      (deploys : Deploys own tr item checkpoint) :
      Made w own tr item
        (.commitDeploymentCheckpoint (UpgradeRolloutWorker.checkpointItem item checkpoint at' nextAt) item.revision at' true)
        (Store.saved item (UpgradeRolloutWorker.checkpointItem item checkpoint at' nextAt) at')
  | superseded {o : RolloutOp} {at' : Timestamp} (first : item.status = .awaitingFirstStart ∨ item.status = .needsAttention) :
      Made w own tr item o (Store.superseded item at')
  | recovered {cutoff recoveredAt : Timestamp} (interrupted : Store.interrupted cutoff item = true) :
      Made w own tr item (.recoverInterruptedItems cutoff recoveredAt) (Store.recovered item recoveredAt)

theorem Made.fixed (h : Made w own tr item o item') : item'.fixed = item.fixed := by
  cases h <;> rfl

theorem Consistent.moves {es : List (RolloutEvent ι)} (hc : Consistent es s) {t : ι} {next : UpgradeRolloutItem}
    (hissued : Issued w (traceOf t es) (.compareAndSaveItem next item.revision))
    (hget : s.upgradeRolloutItems.get item.key = some item) (hkey : next.key = item.key) :
    Moves w (attemptOf (traceOf t es)).own (traceOf t es) item next := by
  obtain ⟨seen, hseen, hrev, hnext, hmoves⟩ := hissued
  obtain rfl := hc.current hseen hget (hnext.symm.trans hkey) hrev.symm
  exact hmoves (hc.sound t)

theorem checkpointItem_key (item : UpgradeRolloutItem) (checkpoint : UpgradeRolloutWorker.Checkpoint)
    (now : Timestamp) (nextAt : Option Timestamp) :
    (UpgradeRolloutWorker.checkpointItem item checkpoint now nextAt).key = item.key := by
  cases checkpoint <;> rfl

theorem Consistent.deploys {es : List (RolloutEvent ι)} (hc : Consistent es s) {t : ι} {next : UpgradeRolloutItem}
    {at' : Timestamp} {supersede : Bool}
    (hissued : Issued w (traceOf t es) (.commitDeploymentCheckpoint next item.revision at' supersede))
    (hget : s.upgradeRolloutItems.get item.key = some item) (hkey : next.key = item.key) :
    supersede = true ∧ ∃ checkpoint nextAt, next = UpgradeRolloutWorker.checkpointItem item checkpoint at' nextAt ∧
      Deploys (attemptOf (traceOf t es)).own (traceOf t es) item checkpoint := by
  obtain ⟨seen, checkpoint, nextAt, hseen, hrev, rfl, rfl, hdeploys⟩ := hissued
  obtain rfl := hc.current hseen hget ((checkpointItem_key _ _ _ _).symm.trans hkey) hrev.symm
  exact ⟨rfl, checkpoint, nextAt, rfl, hdeploys (hc.sound t)⟩

/-- A change of the item under a key is made for a reason. -/
theorem Consistent.made {es : List (RolloutEvent ι)} (hc : Consistent es s) {t : ι} {k : String × String}
    (hissued : Issued w (traceOf t es) o) (hget : s.upgradeRolloutItems.get k = some item) (h : Change o item item') :
    Made w (attemptOf (traceOf t es)).own (traceOf t es) item o item' := by
  obtain rfl := Table.key_of_get hget
  cases h with
  | written key => exact .moved (hc.moves hissued hget key)
  | checkpointed key =>
    obtain ⟨rfl, checkpoint, nextAt, rfl, hdeploys⟩ := hc.deploys hissued hget key
    exact .deployed hdeploys
  | superseded first => exact .superseded first
  | recovered interrupted => exact .recovered interrupted

/-- A new item is created with its rollout, and is none that was there. -/
theorem Consistent.fresh {es : List (RolloutEvent ι)} (hc : Consistent es s) {rollout : UpgradeRollout}
    {items : List UpgradeRolloutItem} {k : String × String} (hfresh : s.upgradeRollouts.get rollout.id = none)
    (hnew : ∀ item ∈ items, NewItem rollout.id item) (hmem : item ∈ items) (hkey : item.key = k) :
    s.upgradeRolloutItems.get k = none := by
  cases hget : s.upgradeRolloutItems.get k with
  | none => rfl
  | some current =>
    have howned := hc.owned k current hget
    have hk : current.key = item.key := (Table.key_of_get hget).trans hkey.symm
    rw [show current.rolloutId = rollout.id from (congrArg Prod.fst hk).trans (hnew item hmem).rolloutId, hfresh] at howned
    cases howned

/-- An item that is there stays there, and only gets on. -/
theorem Consistent.stays {es : List (RolloutEvent ι)} (hc : Consistent es s) {t : ι} {k : String × String}
    (hissued : Issued w (traceOf t es) o) (h : Effect s o r s') (hget : s.upgradeRolloutItems.get k = some item) :
    ∃ item', s'.upgradeRolloutItems.get k = some item' ∧ item'.fixed = item.fixed ∧
      (item' = item ∨ item.revision < item'.revision) := by
  cases h.turns k with
  | same hsame => exact ⟨item, hsame.trans hget, rfl, .inl rfl⟩
  | @changed before item' hbefore hafter change =>
    obtain rfl := Option.some.inj (hbefore.symm.trans hget)
    exact ⟨item', hafter, change.fixed, .inr (by rw [change.revision]; omega)⟩
  | new op fresh mem hafter =>
    subst op
    rw [hc.fresh fresh hissued mem (Table.key_of_get hafter)] at hget
    cases hget

theorem Consistent.step {es : List (RolloutEvent ι)} {v v' : World} (hc : Consistent es v.store) {t : ι}
    {x : RolloutChoice} (hissued : Issued w (traceOf t es) o) (h : v.perform o x = some (r, v')) :
    Consistent (⟨⟨o, r⟩, t, v, v'⟩ :: es) v'.store := by
  have heffect := perform_effect h
  have hlater : ∀ t' item, Seen item (traceOf t' es) → ∃ current, v'.store.upgradeRolloutItems.get item.key = some current ∧
      (item = current ∨ item.revision < current.revision) := by
    intro t' item hseen
    obtain ⟨current, hcurrent, hsame⟩ := hc.known t' item hseen
    obtain ⟨current', hcurrent', -, hon⟩ := hc.stays hissued heffect hcurrent
    refine ⟨current', hcurrent', ?_⟩
    rcases hon with rfl | hlt
    · exact hsame
    · rcases hsame with rfl | hlt'
      · exact .inr hlt
      · exact .inr (hlt'.trans hlt)
  constructor
  · intro t' item hseen
    by_cases ht : t = t'
    · subst ht
      rw [traceOf_record_own] at hseen
      rcases seen_cons.1 hseen with hnow | hseen
      · exact ⟨item, heffect.seen hnow, .inl rfl⟩
      · exact hlater t item hseen
    · rw [traceOf_record_other ht] at hseen
      exact hlater t' item hseen
  · intro t'
    by_cases ht : t = t'
    · subst ht
      rw [traceOf_record_own]
      exact sound_cons.2 ⟨heffect.sound, hc.sound t⟩
    · rw [traceOf_record_other ht]
      exact hc.sound t'
  · intro k item hget
    cases heffect.turns k with
    | same hsame => exact heffect.rollouts (hc.owned k item (hsame.symm.trans hget))
    | @changed before item' hbefore hafter change =>
      obtain rfl := Option.some.inj (hafter.symm.trans hget)
      have hid : item'.rolloutId = before.rolloutId := congrArg FixedPart.rolloutId change.fixed
      rw [hid]
      exact heffect.rollouts (hc.owned k before hbefore)
    | @new rollout items created op fresh mem hafter =>
      subst op
      obtain rfl := Option.some.inj (hafter.symm.trans hget)
      rw [(hissued created mem).rolloutId]
      refine heffect.new_rollout (k := k) ?_
      rw [hc.fresh fresh hissued mem (Table.key_of_get hafter), hafter]
      exact nofun

/-! ## The state machine -/

/-- What the status of an item says about its other fields. -/
structure Sane (w : UpgradeRolloutWorker) (item : UpgradeRolloutItem) : Prop where
  finished : item.status.terminal = true →
    item.attemptId = none ∧ item.nextAttemptAt = none ∧ item.finishedAt.isSome = true
  waiting : item.status = .queued ∨ item.status = .waitingForIdle →
    item.attemptId = none ∧ item.nextAttemptAt.isSome = true ∧ item.finishedAt = none
  attempted : item.status.inTransition = true ∨ item.status = .awaitingFirstStart →
    item.attemptId.isSome = true ∧ item.finishedAt = none
  budget : item.status.terminal = false → item.attemptCount < w.budget item

theorem budget_pos (item : UpgradeRolloutItem) : 0 < w.budget item := by
  unfold UpgradeRolloutWorker.budget
  split
  · decide
  · exact w.maxAttempts_pos

theorem Sane.of_new {rolloutId : String} (h : NewItem rolloutId item) : Sane w item where
  finished ht := by rw [h.status] at ht; cases ht
  waiting _ := ⟨h.attemptId, h.nextAttemptAt, h.finishedAt⟩
  attempted ht := by rw [h.status] at ht; simp [UpgradeRolloutItemStatus.inTransition] at ht
  budget _ := by rw [h.attemptCount]; exact budget_pos item

theorem Sane.unfinished (h : Sane w item) (hlive : item.status.terminal = false) : item.finishedAt = none := by
  cases hs : item.status with
  | queued => exact (h.waiting (.inl hs)).2.2
  | waitingForIdle => exact (h.waiting (.inr hs)).2.2
  | awaitingFirstStart => exact (h.attempted (.inr hs)).2
  | assessing | draining | rebuilding | verifying => exact (h.attempted (.inl (by rw [hs]; rfl))).2
  | _ => rw [hs] at hlive; cases hlive

/-- An item that waits for an attempt. -/
theorem sane_waiting (hs : item.status = .queued ∨ item.status = .waitingForIdle) (attemptId : item.attemptId = none)
    (nextAttemptAt : item.nextAttemptAt.isSome = true) (finishedAt : item.finishedAt = none)
    (budget : item.attemptCount < w.budget item) : Sane w item where
  finished ht := by rcases hs with hs | hs <;> rw [hs] at ht <;> cases ht
  waiting _ := ⟨attemptId, nextAttemptAt, finishedAt⟩
  attempted ht := by rcases hs with hs | hs <;> rw [hs] at ht <;> simp [UpgradeRolloutItemStatus.inTransition] at ht
  budget _ := budget

/-- An item with an attempt. -/
theorem sane_attempted (hs : item.status.inTransition = true ∨ item.status = .awaitingFirstStart)
    (attemptId : item.attemptId.isSome = true) (finishedAt : item.finishedAt = none)
    (budget : item.attemptCount < w.budget item) : Sane w item where
  finished ht := by
    cases h : item.status <;> rw [h] at hs ht <;> simp_all [UpgradeRolloutItemStatus.inTransition, UpgradeRolloutItemStatus.terminal]
  waiting ht := by rcases ht with h | h <;> rw [h] at hs <;> simp [UpgradeRolloutItemStatus.inTransition] at hs
  attempted _ := ⟨attemptId, finishedAt⟩
  budget _ := budget

/-- An item that is done with. -/
theorem sane_finished (hs : item.status.terminal = true) (attemptId : item.attemptId = none)
    (nextAttemptAt : item.nextAttemptAt = none) (finishedAt : item.finishedAt.isSome = true) : Sane w item where
  finished _ := ⟨attemptId, nextAttemptAt, finishedAt⟩
  waiting ht := by rcases ht with h | h <;> rw [h] at hs <;> cases hs
  attempted ht := by
    cases h : item.status <;> rw [h] at hs ht <;> simp_all [UpgradeRolloutItemStatus.inTransition, UpgradeRolloutItemStatus.terminal]
  budget ht := by rw [hs] at ht; cases ht

theorem live_of_inTransition (h : item.status.inTransition = true) : item.status.terminal = false := by
  cases hs : item.status <;> rw [hs] at h <;> first | rfl | cases h

theorem sane_moved {next : UpgradeRolloutItem} (h : Sane w item) (hmoves : Moves w own tr item next) (at' : Timestamp) :
    Sane w (Store.saved item next at') := by
  -- an attempt that goes on stays one
  have going : ∀ {status : UpgradeRolloutItemStatus}, item.status = status → status.inTransition = true →
      item.attemptId.isSome = true ∧ item.finishedAt = none ∧ item.attemptCount < w.budget item := by
    rintro _ rfl hstatus
    obtain ⟨hattempt, hfinished⟩ := h.attempted (.inl hstatus)
    exact ⟨hattempt, hfinished, h.budget (live_of_inTransition hstatus)⟩
  cases hmoves with
  | requeue actionable => exact sane_waiting (.inl rfl) rfl rfl rfl (budget_pos item)
  | cancel actionable => exact sane_finished rfl rfl rfl rfl
  | revalidate proofMissing => exact sane_attempted (.inr rfl) rfl rfl (budget_pos item)
  | assess own' live first idle => exact sane_attempted (.inl rfl) rfl (h.unfinished live) (h.budget live)
  | capture assessing owned =>
    obtain ⟨hattempt, hfinished, hbudget⟩ := going assessing rfl
    exact sane_attempted (.inl (congrArg UpgradeRolloutItemStatus.inTransition assessing)) hattempt hfinished hbudget
  | wait status owned =>
    rcases status with hs | hs
    · exact sane_waiting (.inr rfl) rfl rfl (going hs rfl).2.1 (going hs rfl).2.2
    · exact sane_waiting (.inr rfl) rfl rfl (going hs rfl).2.1 (going hs rfl).2.2
  | drain assessing owned =>
    obtain ⟨hattempt, hfinished, hbudget⟩ := going assessing rfl
    exact sane_attempted (.inl rfl) hattempt hfinished hbudget
  | rebuild draining owned =>
    obtain ⟨hattempt, hfinished, hbudget⟩ := going draining rfl
    exact sane_attempted (.inl rfl) hattempt hfinished hbudget
  | verify rebuilding owned =>
    obtain ⟨hattempt, hfinished, hbudget⟩ := going rebuilding rfl
    exact sane_attempted (.inl rfl) hattempt hfinished hbudget
  | defer waiting owned =>
    obtain ⟨hattempt, hfinished⟩ := h.attempted (.inr waiting)
    exact sane_attempted (.inr waiting) hattempt hfinished (h.budget (by rw [waiting]; rfl))
  | giveUp live =>
    refine sane_finished ?_ rfl rfl rfl
    unfold UpgradeRolloutWorker.givenUp Store.saved
    dsimp only
    split <;> rfl
  | retry live budget => exact sane_waiting (.inl rfl) rfl rfl (h.unfinished live) budget

theorem sane_deployed {checkpoint : UpgradeRolloutWorker.Checkpoint} {nextAt : Option Timestamp} (h : Sane w item)
    (hdeploys : Deploys own tr item checkpoint) (now at' : Timestamp) :
    Sane w (Store.saved item (UpgradeRolloutWorker.checkpointItem item checkpoint now nextAt) at') := by
  cases checkpoint with
  | succeeded => exact sane_finished rfl rfl rfl rfl
  | awaitingFirstStart =>
    cases hdeploys with
    | deployed owned verifying =>
      have hstatus : item.status.inTransition = true := by rw [verifying]; rfl
      exact sane_attempted (.inr rfl) (h.attempted (.inl hstatus)).1 rfl (h.budget (live_of_inTransition hstatus))

theorem sane_recovered {cutoff : Timestamp} (h : Sane w item) (hint : Store.interrupted cutoff item = true)
    (recoveredAt : Timestamp) : Sane w (Store.recovered item recoveredAt) := by
  have hstatus : item.status.inTransition = true := by
    simp only [Store.interrupted, Bool.and_eq_true] at hint
    exact hint.1
  have hbudget := h.budget (live_of_inTransition hstatus)
  unfold Store.recovered
  dsimp only
  split
  · next hreconcile =>
    refine sane_attempted (.inr rfl) ?_ rfl hbudget
    simp only [decide_eq_true_eq] at hreconcile
    exact Option.isSome_iff_ne_none.2 hreconcile.2
  · exact sane_waiting (.inl rfl) rfl rfl rfl hbudget

theorem Made.sane (h : Made w own tr item o item') (hs : Sane w item) : Sane w item' := by
  cases h with
  | moved moves => exact sane_moved hs moves _
  | deployed deploys => exact sane_deployed hs deploys _ _
  | superseded first => exact sane_finished rfl rfl rfl rfl
  | recovered interrupted => exact sane_recovered hs interrupted _

/-! ## Runs -/

/-- The store begins without items. -/
def World.fresh (v : World) : Prop :=
  v.store.upgradeRolloutItems.rows = []

variable {v₀ v : World} {es : List (RolloutEvent ι)}

theorem World.fresh.get_none (h : v₀.fresh) (k : String × String) : v₀.store.upgradeRolloutItems.get k = none := by
  unfold World.fresh at h
  unfold Table.get
  rw [h]
  rfl

theorem consistent_of_legal (hfresh : v₀.fresh) (h : Legal (rolloutSystem w) (fun _ => Issued w) v₀ es v) :
    Consistent es v.store := by
  refine h.inv (I := fun es v => Consistent es v.store) ⟨?_, ?_, ?_⟩ ?_
  · rintro t item ⟨x, hx, -⟩
    cases hx
  · intro t x hx
    cases hx
  · intro k item hget
    rw [hfresh.get_none] at hget
    cases hget
  · intro es v v' t o x r _ hc hp hissued
    exact hc.step hissued hp

theorem sane_of_legal (hfresh : v₀.fresh) (h : Legal (rolloutSystem w) (fun _ => Issued w) v₀ es v)
    {k : String × String} (hget : v.store.upgradeRolloutItems.get k = some item) : Sane w item := by
  revert k item
  refine h.inv (I := fun _ v => ∀ {item : UpgradeRolloutItem} {k : String × String},
    v.store.upgradeRolloutItems.get k = some item → Sane w item) (fun {item k} hget => ?_) ?_
  · rw [hfresh.get_none] at hget
    cases hget
  · intro es v v' t o x r hlegal hsane hp hissued item k hget
    have hc := consistent_of_legal hfresh hlegal
    cases (perform_effect hp).turns k with
    | same hsame => exact hsane (hsame.symm.trans hget)
    | @changed before after hbefore hafter change =>
      obtain rfl := Option.some.inj (hafter.symm.trans hget)
      exact (hc.made hissued hbefore change).sane (hsane hbefore)
    | new op fresh mem hafter =>
      subst op
      obtain rfl := Option.some.inj (hafter.symm.trans hget)
      exact .of_new (hissued _ mem)

/-- An item is there to the end, and its target is what it was. -/
theorem stays_of_legal (hfresh : v₀.fresh) {later earlier : List (RolloutEvent ι)} {e : RolloutEvent ι}
    (h : Legal (rolloutSystem w) (fun _ => Issued w) v₀ (later ++ e :: earlier) v) {k : String × String}
    (hget : e.after.store.upgradeRolloutItems.get k = some item) :
    ∃ item', v.store.upgradeRolloutItems.get k = some item' ∧ item'.fixed = item.fixed := by
  induction later generalizing v with
  | nil =>
    obtain rfl := h.after
    exact ⟨item, hget, rfl⟩
  | cons e' later ih =>
    cases h with
    | record h hp hissued =>
      obtain ⟨item', hget', hfixed⟩ := ih h
      obtain ⟨item'', hget'', hfixed', -⟩ := (consistent_of_legal hfresh h).stays hissued (perform_effect hp) hget'
      exact ⟨item'', hget'', hfixed'.trans hfixed⟩

/-- In every run of the service and the workers, whatever the answers and the interleaving, the items
follow the state machine, and none of them ever loses its target or its launch profile. -/
theorem items_follow_states (hfresh : v₀.fresh) {calls : ι → RolloutCall} {sched : List (ι × RolloutChoice)}
    {c : Config ι RolloutOp RolloutOp.Answer Failure World RolloutCall UpgradeRolloutDetail}
    (hrun : exec (rolloutSystem w) (start (rolloutSystem w) v₀ calls) sched = some c) :
    (∀ item ∈ c.world.store.upgradeRolloutItems.rows, Sane w item) ∧
      ∀ later e earlier, c.events = later ++ e :: earlier → ∀ item ∈ e.after.store.upgradeRolloutItems.rows,
        ∃ item' ∈ c.world.store.upgradeRolloutItems.rows, item'.key = item.key ∧ item'.fixed = item.fixed := by
  have hlegal := legal_of_run hrun
  refine ⟨fun item hitem => sane_of_legal hfresh hlegal (Table.mem_iff.1 hitem), fun later e earlier hes item hitem => ?_⟩
  rw [hes] at hlegal
  obtain ⟨item', hget, hfixed⟩ := stays_of_legal hfresh hlegal (Table.mem_iff.1 hitem)
  exact ⟨item', (Table.get_eq_some.1 hget).1, Table.key_of_get hget, hfixed⟩

end Items

/-! ## A rollout -/

namespace Sample

/-- The options the Portal runs its workers with. -/
def worker : UpgradeRolloutWorker where
  id := 0
  retryDelayMs := 30000
  batchSize := 100
  maxAttempts := 120
  maxAttempts_pos := by decide
  maxRetryDelayMs := 300000
  admission := true
  confirmAfterDrain := true
  acceptDeferredCandidate := true
  inspectRebuild := true
  diagnose := true
  listLegacyFirstStartProofItems := true
  sanitize text _ := text

/-- Nothing is stored, and the workers have looked for items of before the transactions. -/
def world : World where
  store := empty
  admission := portalAdmission
  signals _ := none
  checkpoints _ := []
  reconciled _ := true
  transactions := []

def policy : ProvisioningPolicy where
  maxTotalInstances := 10
  maxRunningInstances := 10
  resources := { memory := "1g", cpus := "1", pidsLimit := 100 }
  environment := []
  configFiles := []

/-- The instance on a version of the app, which has the image of its name. -/
def instanceOn (version : String) (status : ContainerStatus) : Instance where
  id := "ws"
  userId := "user"
  appId := "app"
  status := status
  appVersionId := some version
  imageArtifactId := none
  imageReference := some version

def launchTarget (version : String) : AppLaunchTarget where
  app :=
    { id := "app", name := "App", description := "", authAdapterId := "none", status := .active, createdAt := "",
      updatedAt := "" }
  version :=
    { sourceKind := some .image, id := version, appId := "app", revision := some 1, version := version, buildId := "",
      packages := [], imageArtifactId := none, imageReference := some version, runtimeContract := none,
      status := .active, createdAt := "", activatedAt := some "" }
  imageReference := version

/-- An upgrade of the instance to the latest version. -/
def upgrade : RolloutCall :=
  .create {
    actorUserId := "admin"
    instanceIds := ["ws"]
    useLatestVersion := true
    taskKind := none
    desiredState := none
    recovery := false
    idempotencyKey := none }

/-- The batch is created for the instance as it is found. -/
def created (id : String) (at' : Timestamp) (inst : Instance) (version : String) : List RolloutChoice :=
  [.time at', .text id, .policy policy, .found (some inst), .target (launchTarget version), .go]

/-- A round up to its items, with this many rollouts whose summaries stand. -/
def roundBegins (at' : Timestamp) (rollouts : Nat) : List RolloutChoice :=
  [.lease (some 1), .go, .go, .time at', .go, .go, .go] ++ (List.replicate rollouts [.go, .time at']).flatten ++ [.go]

/-- An attempt up to its first write. -/
def attemptBegins (at' : Timestamp) (attemptId : String) : List RolloutChoice :=
  [.go, .lease (some 2), .go, .text attemptId, .go, .go, .time at', .time at', .go]

def during (t : Nat) (choices : List RolloutChoice) : List (Nat × RolloutChoice) :=
  choices.map fun x => (t, x)

/-- One batch, and the worker. -/
def oneBatch : Nat → RolloutCall
  | 0 => upgrade
  | _ => .worker 1

end Sample

open Sample in
/-- The item of a batch while its instance is assessed. -/
theorem items_follow_states_assessing : ∃ c,
    exec (rolloutSystem worker) (start (rolloutSystem worker) world oneBatch)
      (during 0 (created "r1" 0 (instanceOn "v1" .running) "v2") ++
        during 1 (roundBegins 1 1 ++ attemptBegins 1 "a1")) = some c ∧
      ∃ item ∈ c.world.store.upgradeRolloutItems.rows, item.status = .assessing ∧ Sane worker item := by
  obtain ⟨c, hrun, hassessing⟩ : ∃ c, exec (rolloutSystem worker) (start (rolloutSystem worker) world oneBatch)
      (during 0 (created "r1" 0 (instanceOn "v1" .running) "v2") ++
        during 1 (roundBegins 1 1 ++ attemptBegins 1 "a1")) = some c ∧
      ∃ item ∈ c.world.store.upgradeRolloutItems.rows, item.status = .assessing := exists_of_any (by decide +kernel)
  obtain ⟨item, hitem, hstatus⟩ := hassessing
  have hfresh : world.fresh := rfl
  exact ⟨c, hrun, item, hitem, hstatus, (items_follow_states hfresh hrun).1 item hitem⟩

end OpenApp.Rollout
