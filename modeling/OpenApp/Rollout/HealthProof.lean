import OpenApp.Rollout.Fencing

/-!
# What counts as a success

An image upgrade of a stopped instance is proved by its first healthy start: the instance was seen
running on the target after it was rebuilt to it, or the provider reports the transaction of such a
rebuild committed. An item that finds its instance on the target while it is assessed succeeds without
either.
-/

namespace OpenApp.Rollout

open Async Keyed

section HealthProof

variable {ι : Type} [DecidableEq ι] {w : UpgradeRolloutWorker} {v₀ v v' : World} {x : RolloutChoice}
  {es : List (RolloutEvent ι)} {item : UpgradeRolloutItem}

/-! ## Proofs -/

/-- The two are about one instance and one target. -/
def sameTarget (left right : UpgradeRolloutItem) : Bool :=
  left.instanceId = right.instanceId ∧ left.targetAppVersionId = right.targetAppVersionId ∧
    left.targetImageArtifactId = right.targetImageArtifactId ∧ left.targetImageReference = right.targetImageReference

/-- The provider was asked for a rebuild that passes. -/
def rebuilt (p : UpgradeRolloutItem → Bool) (e : RolloutEvent ι) : Bool :=
  match e.op with
  | .rebuild begun _ _ => p begun
  | _ => false

/-- The event shows the candidate of the item healthy, after a rebuild before it. -/
def healthy (item : UpgradeRolloutItem) (es : List (RolloutEvent ι)) (e : RolloutEvent ι) : Bool :=
  match e.toExchange with
  | ⟨.getContainer id, .ok (some inst)⟩ =>
    id = item.instanceId && inst.status = .running && matchesCatalogTarget inst item &&
      es.any (rebuilt (sameTarget · item))
  | ⟨.inspectRebuild inspected _, .ok (some .committed)⟩ =>
    sameTarget inspected item && es.any (rebuilt (sameTransaction · inspected))
  | _ => false

/-- There is a proof of the first healthy start. -/
def proved (item : UpgradeRolloutItem) : List (RolloutEvent ι) → Bool
  | [] => false
  | e :: es => healthy item es e || proved item es

omit [DecidableEq ι] in
theorem proved_append {later earlier : List (RolloutEvent ι)} {e : RolloutEvent ι} (h : healthy item earlier e = true) :
    proved item (later ++ e :: earlier) = true := by
  induction later with
  | nil => simp [proved, h]
  | cons e' later ih => simp [proved, ih]

/-- The item that the event lets succeed. -/
def succeeding (e : RolloutEvent ι) : Option UpgradeRolloutItem :=
  match e.op with
  | .commitDeploymentCheckpoint next _ _ _ => if next.status = .succeeded then overwritten e else none
  | .compareAndSaveItem next _ => if next.status = .succeeded then overwritten e else none
  | _ => none

/-- The item is one of an image upgrade, and whoever writes it has last seen its instance stopped. -/
def SeenStopped (es : List (RolloutEvent ι)) (e : RolloutEvent ι) (item : UpgradeRolloutItem) : Prop :=
  e.before.store.taskKindOf item.rolloutId = some .imageUpgrade ∧
    (observed (traceOf e.thread es)).any (fun seen => seen.1 = item.instanceId ∧ seen.2.status = .stopped) = true

/-- Nothing but a proof of health counts as a success. -/
def HealthProved (es : List (RolloutEvent ι)) (e : RolloutEvent ι) : Prop :=
  ∀ item ∈ succeeding e, SeenStopped es e item → proved item es = true

/-- The same where the item that succeeds was being assessed: its instance is on the target already. -/
def OnTargetProved (es : List (RolloutEvent ι)) (e : RolloutEvent ι) : Prop :=
  ∀ item ∈ succeeding e, item.status = .assessing → SeenStopped es e item → proved item es = true

instance (es : List (RolloutEvent ι)) (e : RolloutEvent ι) (item : UpgradeRolloutItem) :
    Decidable (SeenStopped es e item) :=
  inferInstanceAs (Decidable (_ ∧ _))

instance (es : List (RolloutEvent ι)) (e : RolloutEvent ι) : Decidable (HealthProved es e) :=
  inferInstanceAs (Decidable (∀ item ∈ succeeding e, _))

instance (es : List (RolloutEvent ι)) (e : RolloutEvent ι) : Decidable (OnTargetProved es e) :=
  inferInstanceAs (Decidable (∀ item ∈ succeeding e, _))

/-! ## Transactions -/

theorem write_transactions {o : RolloutOp} {a : o.Answer} (h : v.write o = some (a, v')) :
    v'.transactions = v.transactions := by
  cases o with
  | createRollout rollout items =>
    obtain ⟨p, -, hp⟩ := Option.map_eq_some_iff.1 h
    obtain ⟨-, rfl⟩ := Prod.mk.inj hp
    rfl
  | compareAndSaveItem _ _ | supersedeDeferredItemsBefore _ _ _ | commitDeploymentCheckpoint _ _ _ _
  | compareAndSaveRollout _ _ | recoverInterruptedItems _ _ | clear _ _ _ | clearCheckpoints _ | addCheckpoints _ _
  | setLegacyReconciled _ _ =>
    obtain ⟨-, rfl⟩ := Prod.mk.inj (Option.some.inj h)
    rfl
  | _ => cases h

/-- Only a rebuild begins a transaction. -/
theorem perform_transactions {o : RolloutOp} {r : Except Failure o.Answer} (h : v.perform o x = some (r, v')) :
    v'.transactions = v.transactions ∨
      ∃ begun actorUserId signal, o = .rebuild begun actorUserId signal ∧ v'.transactions = begun :: v.transactions := by
  unfold World.perform at h
  split at h
  · next begun actorUserId signal =>
    refine .inr ⟨begun, actorUserId, signal, rfl, ?_⟩
    unfold World.rebuild at h
    dsimp only at h
    split at h
    · obtain ⟨-, rfl⟩ := Prod.mk.inj (Option.some.inj h)
      rfl
    · obtain ⟨-, rfl⟩ := Prod.mk.inj (Option.some.inj h)
      rfl
    · cases h
  · unfold World.inspect at h
    split at h
    · obtain ⟨-, rfl⟩ := Prod.mk.inj (Option.some.inj h)
      exact .inl rfl
    · split at h
      · cases h
      · obtain ⟨-, rfl⟩ := Prod.mk.inj (Option.some.inj h)
        exact .inl rfl
    · cases h
  · unfold World.beginDrain at h
    split at h
    · obtain ⟨-, rfl⟩ := Prod.mk.inj (Option.some.inj h)
      exact .inl rfl
    · obtain ⟨-, rfl⟩ := Prod.mk.inj (Option.some.inj h)
      exact .inl rfl
    · cases h
  · split at h
    · cases h
    · obtain ⟨-, rfl⟩ := Prod.mk.inj (Option.some.inj h)
      exact .inl rfl
  · split at h
    · next a w₁ hw =>
      obtain ⟨-, rfl⟩ := Prod.mk.inj (Option.some.inj h)
      exact .inl (write_transactions hw)
    · obtain ⟨a, -, hr⟩ := Option.map_eq_some_iff.1 h
      obtain ⟨-, rfl⟩ := Prod.mk.inj hr
      exact .inl rfl
  · obtain ⟨a, -, hr⟩ := Option.map_eq_some_iff.1 h
    obtain ⟨-, rfl⟩ := Prod.mk.inj hr
    exact .inl rfl

/-- A transaction that was begun is a rebuild of the run. -/
theorem transactions_rebuilt (hnone : v₀.transactions = [])
    (h : Legal (rolloutSystem w) (fun _ => Issued w) v₀ es v) {p : UpgradeRolloutItem → Bool}
    (hany : v.transactions.any p = true) : es.any (rebuilt p) = true := by
  induction h with
  | start =>
    rw [hnone] at hany
    cases hany
  | @record es v v' t o x r _ hp _ ih =>
    rw [List.any_cons, Bool.or_eq_true]
    rcases perform_transactions hp with hsame | ⟨begun, actorUserId, signal, rfl, hbegun⟩
    · rw [hsame] at hany
      exact .inr (ih hany)
    · rw [hbegun, List.any_cons, Bool.or_eq_true] at hany
      exact hany.imp id ih

/-- A transaction is reported committed after the rebuild that began it. -/
theorem committed_proved (hnone : v₀.transactions = [])
    (h : Legal (rolloutSystem w) (fun _ => Issued w) v₀ es v) {t : ι} {signal : List AbortSignal}
    (hreported : ⟨.inspectRebuild item signal, .ok (some .committed)⟩ ∈ traceOf t es) : proved item es = true := by
  obtain ⟨e, he, -, hx⟩ := event_of_mem_traceOf hreported
  obtain ⟨later, earlier, rfl⟩ := List.append_of_mem he
  obtain ⟨hearlier, -, x, hp⟩ := h.suffix
  refine proved_append ?_
  obtain ⟨⟨o, r⟩, t', before, after⟩ := e
  obtain ⟨rfl, hr⟩ := Exchange.mk.inj hx
  obtain rfl := eq_of_heq hr
  have hbegun : before.transactions.any (sameTransaction · item) = true := by
    cases x with
    | inspection value =>
      simp only [rolloutSystem, World.perform, World.inspect] at hp
      split at hp
      · cases hp
      · next hnot =>
        obtain ⟨hvalue, -⟩ := Prod.mk.inj (Option.some.inj hp)
        obtain rfl := Except.ok.inj hvalue
        simpa using hnot
    | _ => cases hp
  simp only [healthy, Bool.and_eq_true]
  exact ⟨by simp [sameTarget], transactions_rebuilt hnone hearlier hbegun⟩

/-! ## Successes -/

/-- Whoever lets an item succeed has seen its instance running, has been told of a commit, or found the
instance on the target while the item was assessed. -/
theorem Deploys.success {own : Option String} {tr : Exchanges} (h : Deploys own tr item .succeeded) :
    item.status = .assessing ∨ (∃ inst, observed tr = some (item.instanceId, inst) ∧ inst.status = .running) ∨
      ∃ signal, ⟨.inspectRebuild item signal, .ok (some .committed)⟩ ∈ tr := by
  cases h with
  | onTarget owned assessing => exact .inl assessing
  | running seen running owned => exact .inr (.inl ⟨_, seen, running⟩)
  | committed reported owned first => exact .inr (.inr ⟨_, reported⟩)

/-- No other write makes an item succeed. -/
theorem Moves.not_succeeded {own : Option String} {tr : Exchanges} {next : UpgradeRolloutItem}
    (h : Moves w own tr item next) : next.status ≠ .succeeded := by
  cases h with
  | capture assessing owned => exact fun h => by rw [show item.status = .succeeded from h] at assessing; cases assessing
  | defer waiting owned => exact fun h => by rw [show item.status = .succeeded from h] at waiting; cases waiting
  | giveUp live =>
    unfold UpgradeRolloutWorker.givenUp
    dsimp only
    split <;> simp
  | _ => simp [requeued, cancelled, firstStartRevalidation, UpgradeRolloutWorker.retryScheduled]

end HealthProof

/-! ## Two batches for a stopped instance -/

namespace Sample

def twoBatches : Nat → RolloutCall
  | 0 => upgrade
  | 1 => upgrade
  | _ => .worker 1

/-- A batch for the stopped instance, whose deployment then waits for its first start. -/
def deployed : List (Nat × RolloutChoice) :=
  during 0 (created "r1" 0 (instanceOn "v1" .stopped) "v2") ++
    during 2 (roundBegins 1 1 ++ attemptBegins 1 "a" ++
      [.go, .found (some (instanceOn "v1" .stopped)), .go, .go, .time 1, .go, .time 1, .go, .go, .time 1, .go, .go, .go,
        .flag false, .go, .go, .go, .time 1, .go, .found (some (instanceOn "v2" .stopped)), .go, .time 1, .time 1, .go, .go,
        .go, .go, .go, .go, .go, .go, .time 1, .go, .go, .go])

/-- The provider reports the first start committed, and the instance is stopped again. -/
def startCommitted : List (Nat × RolloutChoice) :=
  during 2 ([.go] ++ roundBegins 30001 1 ++
    [.go, .lease (some 2), .go, .go, .go, .go, .inspection (some .committed), .go,
      .found (some (instanceOn "v2" .stopped)), .go, .time 30001, .go])

/-- A second batch finds the candidate, which was never started. -/
def sameTargetAgain : List (Nat × RolloutChoice) :=
  during 1 (created "r2" 2 (instanceOn "v2" .stopped) "v2") ++
    during 2 ([.go] ++ roundBegins 3 2 ++ attemptBegins 3 "b" ++
      [.go, .found (some (instanceOn "v2" .stopped)), .go, .time 3, .go])

def statusOf (v : World) (rolloutId : String) : Option UpgradeRolloutItemStatus :=
  (v.store.upgradeRolloutItems.get (rolloutId, "ws")).map (·.status)

end Sample

end OpenApp.Rollout
