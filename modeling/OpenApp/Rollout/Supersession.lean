import OpenApp.Rollout.HealthProof

/-!
# Newer deployments

A deployment that passes a checkpoint takes the place of the older ones of its instance that wait for
their first start, and of no others. An item that is superseded stays so. What a worker holds while an
attempt is under way is what is stored, as long as it is the only worker; so it rebuilds for no item
that was superseded meanwhile.
-/

namespace OpenApp.Rollout

open Async Keyed

section Supersession

variable {ι : Type} [DecidableEq ι] {w : UpgradeRolloutWorker} {v₀ v v' : World} {x : RolloutChoice}
  {es : List (RolloutEvent ι)} {item item' : UpgradeRolloutItem} {own : Option String} {tr : Exchanges} {o : RolloutOp}

/-! ## Superseded for good -/

theorem Moves.not_superseded {next : UpgradeRolloutItem} (h : Moves w own tr item next) : item.status ≠ .superseded := by
  intro hs
  cases h with
  | requeue actionable | cancel actionable => rw [hs] at actionable; cases actionable
  | revalidate proofMissing =>
    simp only [UpgradeRolloutItem.proofMissing, decide_eq_true_eq] at proofMissing
    rw [hs] at proofMissing
    cases proofMissing.1
  | assess own' live first idle => rw [hs] at live; cases live
  | giveUp live | retry live budget => rw [hs] at live; cases live
  | capture assessing owned | drain assessing owned => rw [hs] at assessing; cases assessing
  | wait status owned => rcases status with h | h <;> rw [hs] at h <;> cases h
  | rebuild draining owned => rw [hs] at draining; cases draining
  | verify rebuilding owned => rw [hs] at rebuilding; cases rebuilding
  | defer waiting owned => rw [hs] at waiting; cases waiting

theorem Deploys.not_superseded {checkpoint : UpgradeRolloutWorker.Checkpoint} (h : Deploys own tr item checkpoint) :
    item.status ≠ .superseded := by
  intro hs
  cases h with
  | deployed owned verifying => rw [hs] at verifying; cases verifying
  | onTarget owned assessing => rw [hs] at assessing; cases assessing
  | running seen running owned =>
    rcases owned with ⟨-, hlive⟩ | hmissing
    · rw [hs] at hlive
      cases hlive
    · simp only [UpgradeRolloutItem.proofMissing, decide_eq_true_eq] at hmissing
      rw [hs] at hmissing
      cases hmissing.1
  | committed reported owned first => rw [hs] at first; cases first

theorem interrupted_inTransition {cutoff : Timestamp} (h : Store.interrupted cutoff item = true) :
    item.status.inTransition = true := by
  simp only [Store.interrupted, Bool.and_eq_true] at h
  exact h.1

/-- Nothing is made of an item that is superseded. -/
theorem Made.not_superseded (h : Made w own tr item o item') : item.status ≠ .superseded := by
  cases h with
  | moved moves => exact moves.not_superseded
  | deployed deploys => exact deploys.not_superseded
  | superseded first => rcases first with h | h <;> rw [h] <;> nofun
  | recovered interrupted =>
    have htransition := interrupted_inTransition interrupted
    intro hs
    rw [hs] at htransition
    cases htransition

/-- The item under the key is superseded. -/
def SupersededAt (v : World) (k : String × String) : Prop :=
  ∃ item, v.store.upgradeRolloutItems.get k = some item ∧ item.status = .superseded

theorem superseded_step (hfresh : v₀.fresh) (hl : Legal (rolloutSystem w) (fun _ => Issued w) v₀ es v) {t : ι}
    {r : Except Failure o.Answer} (hissued : Issued w (traceOf t es) o) (hp : v.perform o x = some (r, v'))
    {k : String × String} (h : SupersededAt v k) : SupersededAt v' k := by
  obtain ⟨item, hget, hstatus⟩ := h
  have hc := consistent_of_legal hfresh hl
  cases (perform_effect hp).turns k with
  | same hsame => exact ⟨item, hsame.trans hget, hstatus⟩
  | changed hbefore hafter change =>
    obtain rfl := Option.some.inj (hbefore.symm.trans hget)
    exact absurd hstatus (hc.made hissued hbefore change).not_superseded
  | new op fresh mem hafter =>
    subst op
    rw [hc.fresh fresh hissued mem (Table.key_of_get hafter)] at hget
    cases hget

theorem superseded_stays (hfresh : v₀.fresh) {later earlier : List (RolloutEvent ι)} {e : RolloutEvent ι}
    (hl : Legal (rolloutSystem w) (fun _ => Issued w) v₀ (later ++ e :: earlier) v) {k : String × String}
    (h : SupersededAt e.after k) : SupersededAt v k := by
  induction later generalizing v with
  | nil => exact hl.after ▸ h
  | cons e' later ih =>
    cases hl with
    | record hl hp hissued => exact superseded_step hfresh hl hissued hp (ih hl)

/-! ## A checkpoint -/

theorem checkpointItem_deployed (item : UpgradeRolloutItem) (checkpoint : UpgradeRolloutWorker.Checkpoint)
    (now : Timestamp) (nextAt : Option Timestamp) :
    (UpgradeRolloutWorker.checkpointItem item checkpoint now nextAt).status = .awaitingFirstStart ∨
      (UpgradeRolloutWorker.checkpointItem item checkpoint now nextAt).status = .succeeded := by
  cases checkpoint
  · exact .inl rfl
  · exact .inr rfl

theorem olderThan_irrefl (item : UpgradeRolloutItem) : Store.olderThan item item = false := by
  simp only [Store.olderThan, decide_eq_false_iff_not]
  rintro (h | ⟨-, h⟩)
  · exact lt_irrefl _ h
  · exact String.lt_irrefl _ h

/-- What a checkpoint takes the place of. -/
theorem checkpoint_supersedes {s : Store} {older current : UpgradeRolloutItem} {at' : Timestamp}
    {checkpoint : UpgradeRolloutWorker.Checkpoint} {nextAt : Option Timestamp}
    (hthere : s.upgradeRolloutItems.get older.key = some older) (hid : older.instanceId = current.instanceId)
    (hsupersedable : s.supersedable older = true) (holder : Store.olderThan older current = true)
    (hcurrent : s.upgradeRolloutItems.get current.key = some current) :
    (s.checkpointed current (UpgradeRolloutWorker.checkpointItem current checkpoint at' nextAt) at' true).upgradeRolloutItems.get
      older.key = some (Store.superseded older at') := by
  have hne : older.key ≠ current.key := by
    intro hkey
    rw [hkey, hcurrent] at hthere
    obtain rfl := Option.some.inj hthere
    rw [olderThan_irrefl] at holder
    cases holder
  have hstatus := checkpointItem_deployed current checkpoint at' nextAt
  have hinstance : (UpgradeRolloutWorker.checkpointItem current checkpoint at' nextAt).instanceId = current.instanceId := by
    cases checkpoint <;> rfl
  unfold Store.checkpointed
  rw [if_pos (by simpa using hstatus), supersedeEarlier_get, hinstance]
  have hput : (s.putItem (Store.saved current (UpgradeRolloutWorker.checkpointItem current checkpoint at' nextAt)
      at')).upgradeRolloutItems.get older.key = some older :=
    (Table.get_put_of_ne _ (Store.saved current _ at') hne).trans hthere
  rw [hput, Option.map_some]
  unfold Store.settleEarlier
  rw [if_pos]
  simp only [Store.supersededBy, Bool.and_eq_true, decide_eq_true_eq]
  exact ⟨⟨hid, hsupersedable⟩, holder⟩

/-! ## What the worker holds -/

/-- What the worker holds while an attempt is under way is what is stored. -/
def HeldStored (t : ι) (es : List (RolloutEvent ι)) (v : World) : Prop :=
  ∀ item, holding (traceOf t es) = some item → item.status.inTransition = true →
    v.store.upgradeRolloutItems.get item.key = some item

theorem Operates.not_inTransition {next : UpgradeRolloutItem} (h : Operates item next) :
    item.status.inTransition = false := by
  cases h with
  | requeue actionable | cancel actionable =>
    cases hs : item.status <;> rw [hs] at actionable <;> first | rfl | cases actionable
  | revalidate proofMissing =>
    simp only [UpgradeRolloutItem.proofMissing, decide_eq_true_eq] at proofMissing
    rw [proofMissing.1]
    rfl

/-- The calls that write items other than those that wait for their first start. -/
def writesItems : RolloutOp → Bool
  | .compareAndSaveItem _ _ | .commitDeploymentCheckpoint _ _ _ _ | .recoverInterruptedItems _ _ => true
  | _ => false

theorem holding_other {o : RolloutOp} {r : Except Failure o.Answer} (tr : Exchanges) (h : writesItems o = false) :
    holding (⟨o, r⟩ :: tr) = holding tr := by
  cases o <;> first | rfl | cases h

/-- The calls of an operator leave an item in its attempt alone, and so do the calls that write no item. -/
theorem kept_inTransition {s s' : Store} (hc : Consistent es s) {t : ι} {r : Except Failure o.Answer}
    (hissued : Issued w (traceOf t es) o) (h : Effect s o r s') {k : String × String}
    (hget : s.upgradeRolloutItems.get k = some item) (htransition : item.status.inTransition = true)
    (hwrites : writesItems o = true → Operated (traceOf t es) o) : s'.upgradeRolloutItems.get k = some item := by
  cases h.turns k with
  | same hsame => exact hsame.trans hget
  | @changed before after hbefore hafter change =>
    obtain rfl := Option.some.inj (hbefore.symm.trans hget)
    cases change with
    | @written next _ key =>
      obtain ⟨seen, hseen, hrev, hkey, hoperates⟩ := hwrites rfl
      have hk := Table.key_of_get hbefore
      obtain rfl := hc.current hseen (hk ▸ hbefore) (hkey.symm.trans key) hrev.symm
      rw [hoperates.not_inTransition] at htransition
      cases htransition
    | checkpointed key => cases hwrites rfl
    | superseded first => rcases first with h | h <;> rw [h] at htransition <;> cases htransition
    | recovered interrupted => cases hwrites rfl
  | new op fresh mem hafter =>
    subst op
    rw [hc.fresh fresh hissued mem (Table.key_of_get hafter)] at hget
    cases hget

/-- A failed call changes nothing. -/
theorem Effect.failed {s s' : Store} {error : Failure} (h : Effect s o (.error error) s') :
    s'.upgradeRolloutItems = s.upgradeRolloutItems := by
  cases h with
  | kept items rollouts reads sound => exact items

theorem heldStored_step {t t' : ι} {r : Except Failure o.Answer} (hc : Consistent es v.store)
    (hheld : HeldStored t es v) (hissued : Issued w (traceOf t' es) o) (hother : t' ≠ t → Operated (traceOf t' es) o)
    (hp : v.perform o x = some (r, v')) : HeldStored t (⟨⟨o, r⟩, t', v, v'⟩ :: es) v' := by
  have heffect := perform_effect hp
  intro item hholding htransition
  by_cases ht : t' = t
  · subst ht
    rw [traceOf_record_own] at hholding
    cases o with
    | compareAndSaveItem next expectedRevision =>
      cases r with
      | ok saved =>
        obtain rfl : saved = some item := hholding
        exact heffect.seen (List.mem_singleton.2 rfl)
      | error error =>
        rw [heffect.failed]
        exact hheld item hholding htransition
    | commitDeploymentCheckpoint next expectedRevision at' supersede => cases hholding
    | recoverInterruptedItems cutoff recoveredAt => cases hholding
    | _ =>
      rw [holding_other _ rfl] at hholding
      exact kept_inTransition hc hissued heffect (hheld item hholding htransition) htransition fun h => by cases h
  · rw [traceOf_record_other ht] at hholding
    exact kept_inTransition hc hissued heffect (hheld item hholding htransition) htransition fun _ => hother ht

theorem heldStored_of_legal {calls : ι → RolloutCall} (hone : ∀ t t', (calls t).isWorker = true →
      (calls t').isWorker = true → t = t') (hfresh : v₀.fresh)
    (hl : Legal (rolloutSystem w) (fun t => Kept w (calls t).isWorker) v₀ es v) {t : ι}
    (ht : (calls t).isWorker = true) : HeldStored t es v := by
  refine hl.inv (I := fun es v => HeldStored t es v) (fun item h => by cases h) fun es v v' t' o x r hl hheld hp hkept => ?_
  have hc := consistent_of_legal hfresh (hl.imp fun _ _ _ ho => ho.1)
  refine heldStored_step hc hheld hkept.1 (fun hne => hkept.2 ?_) hp
  exact Bool.eq_false_iff.2 fun ht' => hne (hone t' t ht' ht)

/-- A deployment passes a checkpoint while the item under the key, one of an older rollout for the same
instance, waits for its first start or kept no proof of it. -/
def displaces (e : RolloutEvent ι) (k : String × String) : Bool :=
  match e.toExchange with
  | ⟨.commitDeploymentCheckpoint _ _ _ _, .ok (some (newer, _))⟩ =>
    (e.before.store.upgradeRolloutItems.get k).any fun older =>
      older.instanceId = newer.instanceId && Store.olderThan older newer && e.before.store.supersedable older
  | _ => false

/-- The item that the event rebuilds for. -/
def rebuildOf (e : RolloutEvent ι) : Option UpgradeRolloutItem :=
  match e.op with
  | .rebuild item _ _ => some item
  | _ => none

theorem displaces_superseded (hfresh : v₀.fresh) {e : RolloutEvent ι}
    (hl : Legal (rolloutSystem w) (fun _ => Issued w) v₀ (e :: es) v) {k : String × String} (h : displaces e k = true) :
    SupersededAt e.after k := by
  obtain ⟨hearlier, hissued, x, hp⟩ := Legal.suffix (show Legal _ _ _ ([] ++ e :: es) v from hl)
  have hc := consistent_of_legal hfresh hearlier
  obtain ⟨⟨o, r⟩, t, before, after⟩ := e
  unfold displaces at h
  dsimp only at h hp hc hissued ⊢
  split at h
  · next next expectedRevision at' supersede newer affected hx =>
    obtain ⟨rfl, hr⟩ := Exchange.mk.inj hx
    obtain rfl := eq_of_heq hr
    obtain ⟨older, hthere, holder⟩ := (Option.any_eq_true _ _).1 h
    simp only [Bool.and_eq_true, decide_eq_true_eq] at holder
    obtain ⟨current, hget, rfl, rfl, hafter⟩ := perform_commit hp
    have hkey := Table.key_of_get hget
    obtain ⟨rfl, checkpoint, nextAt, rfl, -⟩ := hc.deploys hissued (hkey ▸ hget) hkey.symm
    obtain rfl := Table.key_of_get hthere
    refine ⟨_, (congrArg (fun s : Store => s.upgradeRolloutItems.get older.key) hafter).trans
      (checkpoint_supersedes hthere holder.1.1 holder.2 holder.1.2 (hkey ▸ hget)), rfl⟩
  · cases h

/-- In every run with one worker, whatever fails, waits or is put off, and whatever the operators do: once
the deployment of an item passes a checkpoint, no item of an older rollout for its instance is rebuilt
that waits for its first start at that time. -/
theorem no_older_rebuild {calls : ι → RolloutCall} (hone : ∀ t t', (calls t).isWorker = true →
      (calls t').isWorker = true → t = t') (hfresh : v₀.fresh) {sched : List (ι × RolloutChoice)}
    {c : Config ι RolloutOp RolloutOp.Answer Failure World RolloutCall UpgradeRolloutDetail}
    (hrun : exec (rolloutSystem w) (start (rolloutSystem w) v₀ calls) sched = some c) :
    Every (fun es e => ∀ item ∈ rebuildOf e, ∀ deploys ∈ es, displaces deploys item.key = false) c.events := by
  refine (kept_of_run hrun).every fun es before after t o x r hl _ hp hkept item hitem deploys hdeploys => ?_
  have hlegal := hl.imp fun _ _ _ ho => ho.1
  by_contra hdisplaces
  -- the older item is superseded by the checkpoint, and is so when the rebuild is issued
  obtain ⟨item', hget, hsuperseded⟩ : SupersededAt before item.key := by
    obtain ⟨later, earlier, rfl⟩ := List.append_of_mem hdeploys
    exact superseded_stays hfresh hlegal (displaces_superseded hfresh hlegal.upTo (by simpa using hdisplaces))
  -- the worker holds the item it rebuilds, and that item is being rebuilt
  cases o with
  | rebuild begun actorUserId signal =>
    obtain rfl := Option.some.inj hitem
    obtain ⟨hholding, hstatus⟩ := hkept.1
    have hworker : (calls t).isWorker = true := by
      by_contra hnot
      cases hkept.2 (by simpa using hnot)
    have hrebuilding := hstatus ((consistent_of_legal hfresh hlegal).sound t)
    have hstored := heldStored_of_legal hone hfresh hl hworker begun hholding (by rw [hrebuilding]; rfl)
    rw [hget] at hstored
    obtain rfl := Option.some.inj hstored
    rw [hsuperseded] at hrebuilding
    cases hrebuilding
  | _ => cases hitem

end Supersession

/-! ## Older items that are queued -/

namespace Sample

def ready : RolloutChoice :=
  .assessment { ready := true, reason := none }

/-- An attempt at an instance that runs, up to the rebuild, with what it takes to capture a new source. -/
def toRebuild (at' : Timestamp) (inst : Instance) (capture : List RolloutChoice) : List RolloutChoice :=
  [.go, .found (some inst), .go] ++ capture ++
    [ready, .go, .time at', .go, .time at', .go, .go, .found (some inst), .go, ready, .go, .time at', .go, .go, .go,
      .flag false, .go]

/-- Two batches and one worker. -/
def oneWorker : Nat → RolloutCall
  | 2 => .worker 1
  | _ => upgrade

theorem oneWorker_alone {t t' : Nat} (h : (oneWorker t).isWorker = true) (h' : (oneWorker t').isWorker = true) : t = t' := by
  have htwo : ∀ {t : Nat}, (oneWorker t).isWorker = true → t = 2 := by
    intro t ht
    unfold oneWorker at ht
    split at ht
    · rfl
    · cases ht
  rw [htwo h, htwo h']

/-- The rebuild, and the verification of the instance that runs on the target. -/
def rebuiltRunning (at' : Timestamp) (inst : Instance) : List RolloutChoice :=
  [.go, .go, .time at', .go, .found (some inst), .go, .time at', .go, .go, .go, .go, .go]

/-- Two batches, the second one for a newer version. The attempt for the first one fails for now, the one
for the second one succeeds. -/
def newerDeployed : List (Nat × RolloutChoice) :=
  during 0 (created "r1" 0 (instanceOn "v1" .running) "v2") ++ during 1 (created "r2" 1 (instanceOn "v1" .running) "v3") ++
    during 2 (roundBegins 1 2 ++ attemptBegins 1 "a" ++
      [.go, .found (some (instanceOn "v1" .running)), .go, .fails (.error "timeout"), .go, .go, .time 1, .time 1, .go, .go] ++
      attemptBegins 1 "b" ++ toRebuild 1 (instanceOn "v1" .running) [] ++ rebuiltRunning 1 (instanceOn "v3" .running))

/-- The next round, when the first item is due again. -/
def olderDue : List (Nat × RolloutChoice) :=
  during 2 ([.go, .go, .go, .time 1, .go, .time 1, .go, .go, .go, .go] ++ roundBegins 40000 2 ++ attemptBegins 40000 "c" ++
    toRebuild 40000 (instanceOn "v3" .running) [.time 40000, .go] ++ [.go])

/-- A second batch for the stopped instance, for a newer version. -/
def newerWaiting : List (Nat × RolloutChoice) :=
  during 1 (created "r2" 2 (instanceOn "v2" .stopped) "v3") ++
    during 2 ([.go] ++ roundBegins 3 2 ++ attemptBegins 3 "b" ++
      [.go, .found (some (instanceOn "v2" .stopped)), .go, .go, .time 3, .go, .time 3, .go, .go, .time 3, .go, .go, .go,
        .flag false, .go, .go, .go, .time 3, .go, .found (some (instanceOn "v3" .stopped)), .go, .time 3, .time 3, .go])

def rebuildsFor (rolloutId : String) (e : RolloutEvent ι) : Bool :=
  rebuilt (fun item => item.rolloutId = rolloutId) e

end Sample

open Sample in
/-- The older item waits for its first start when the newer one is deployed. -/
theorem no_older_rebuild_waiting : ∃ c,
    exec (rolloutSystem worker) (start (rolloutSystem worker) world oneWorker) (deployed ++ newerWaiting) = some c ∧
      c.events.head?.any (displaces · ("r1", "ws")) = true ∧
      Every (fun es e => ∀ item ∈ rebuildOf e, ∀ deploys ∈ es, displaces deploys item.key = false) c.events := by
  obtain ⟨c, hrun, hdisplaces⟩ : ∃ c,
      exec (rolloutSystem worker) (start (rolloutSystem worker) world oneWorker) (deployed ++ newerWaiting) = some c ∧
      c.events.head?.any (displaces · ("r1", "ws")) = true := exists_of_any (by decide +kernel)
  have hfresh : world.fresh := rfl
  exact ⟨c, hrun, hdisplaces, no_older_rebuild (fun _ _ => oneWorker_alone) hfresh hrun⟩

open Sample in
/-- The item of the older batch was queued when the newer one succeeded; it is rebuilt all the same, and
puts the older version in place of the newer one. -/
theorem queued_older_rebuilds :
    (∃ c, exec (rolloutSystem worker) (start (rolloutSystem worker) world oneWorker) newerDeployed = some c ∧
      statusOf c.world "r1" = some .queued ∧ statusOf c.world "r2" = some .succeeded) ∧
    ∃ c, exec (rolloutSystem worker) (start (rolloutSystem worker) world oneWorker) (newerDeployed ++ olderDue) = some c ∧
      c.events.head?.any (rebuildsFor "r1") = true :=
  ⟨exists_of_any (by decide +kernel), exists_of_any (by decide +kernel)⟩

end OpenApp.Rollout
