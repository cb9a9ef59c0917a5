import OpenApp.Rollout.Items

/-!
# The fence around an attempt

A worker that lost its lease goes on as if it had it. The revision keeps most of its writes out; the one
that records a failure reads the item again first.
-/

namespace OpenApp.Rollout

open Async Keyed

section Fencing

variable {ι : Type} [DecidableEq ι] {w : UpgradeRolloutWorker} {v₀ v v' : World} {x : RolloutChoice}
  {es : List (RolloutEvent ι)}

/-! ## Writes -/

/-- The item that the event wrote, as it was before. -/
def overwritten (e : RolloutEvent ι) : Option UpgradeRolloutItem :=
  match e.toExchange with
  | ⟨.compareAndSaveItem next _, .ok (some _)⟩ => e.before.store.upgradeRolloutItems.get next.key
  | ⟨.commitDeploymentCheckpoint next _ _ _, .ok (some _)⟩ => e.before.store.upgradeRolloutItems.get next.key
  | _ => none

/-- What a failure makes of an item. -/
def failed (next : UpgradeRolloutItem) : Bool :=
  next.status = .failed ∨ next.status = .needsAttention ∨
    (next.status = .queued ∧ next.blocker = some "retry_scheduled")

/-- The event records a failure. -/
def recordsFailure (e : RolloutEvent ι) : Bool :=
  match e.op with
  | .compareAndSaveItem next _ => failed next
  | _ => false

/-- The item that is written has no attempt, or the attempt of the one who writes it. -/
def Fenced (es : List (RolloutEvent ι)) (e : RolloutEvent ι) : Prop :=
  ∀ item ∈ overwritten e, item.attemptId = none ∨ item.attemptId = (attemptOf (traceOf e.thread es)).own

instance (es : List (RolloutEvent ι)) (e : RolloutEvent ι) : Decidable (Fenced es e) :=
  inferInstanceAs (Decidable (∀ item ∈ overwritten e, _))

theorem perform_save {next : UpgradeRolloutItem} {expectedRevision : Nat} {u : UpgradeRolloutItem}
    (h : v.perform (.compareAndSaveItem next expectedRevision) x = some (.ok (some u), v')) :
    ∃ current, v.store.upgradeRolloutItems.get next.key = some current ∧ expectedRevision = current.revision := by
  cases x with
  | go =>
    simp only [World.perform, World.write, Option.some.injEq, Prod.mk.injEq, Except.ok.injEq] at h
    obtain ⟨hsaved, -⟩ := h
    unfold Store.compareAndSaveUpgradeRolloutItem at hsaved
    split at hsaved
    · cases hsaved
    · next current hget =>
      split at hsaved
      · cases hsaved
      · next hrev => exact ⟨current, hget, (not_not.1 hrev).symm⟩
  | _ => simp [World.perform, World.told, World.infallible] at h

theorem perform_commit {next : UpgradeRolloutItem} {expectedRevision : Nat} {at' : Timestamp} {supersede : Bool}
    {u : UpgradeRolloutItem × List String}
    (h : v.perform (.commitDeploymentCheckpoint next expectedRevision at' supersede) x = some (.ok (some u), v')) :
    ∃ current, v.store.upgradeRolloutItems.get next.key = some current ∧ expectedRevision = current.revision ∧
      u.1 = Store.saved current next at' ∧ v'.store = v.store.checkpointed current next at' supersede := by
  cases x with
  | go =>
    simp only [World.perform, World.write, Option.some.injEq, Prod.mk.injEq, Except.ok.injEq] at h
    obtain ⟨hsaved, rfl⟩ := h
    unfold Store.commitUpgradeDeploymentCheckpoint Store.checkpointed at *
    split at hsaved
    · cases hsaved
    · next current hget =>
      split at hsaved
      · cases hsaved
      · next hrev =>
        refine ⟨current, hget, (not_not.1 hrev).symm, ?_⟩
        simp only [if_neg hrev]
        split at hsaved
        · next hsup =>
          obtain rfl := Option.some.inj hsaved
          exact ⟨rfl, by simp only [if_pos hsup]⟩
        · next hsup =>
          obtain rfl := Option.some.inj hsaved
          exact ⟨rfl, by simp only [if_neg hsup]⟩
  | _ => simp [World.perform, World.told, World.infallible] at h

/-! ## What keeps a write out -/

theorem Sane.actionable {item : UpgradeRolloutItem} (h : Sane w item) (ha : item.status.actionable = true) :
    item.attemptId = none := by
  cases hs : item.status with
  | queued => exact (h.waiting (.inl hs)).1
  | waitingForIdle => exact (h.waiting (.inr hs)).1
  | failed | needsAttention => exact (h.finished (by rw [hs]; rfl)).1
  | _ => rw [hs] at ha; cases ha

theorem Sane.proofMissing {item : UpgradeRolloutItem} (h : Sane w item) (hm : item.proofMissing = true) :
    item.attemptId = none := by
  simp only [UpgradeRolloutItem.proofMissing, decide_eq_true_eq] at hm
  exact (h.finished (by rw [hm.1]; rfl)).1

/-- Only a failure is recorded without the attempt being looked at. -/
theorem Moves.fenced {own : Option String} {t : ι} {s : Store} {item next : UpgradeRolloutItem} (hc : Consistent es s)
    (hget : s.upgradeRolloutItems.get item.key = some item) (hs : Sane w item)
    (h : Moves w own (traceOf t es) item next) (hfail : failed next = false) :
    item.attemptId = none ∨ item.attemptId = own := by
  cases h with
  | requeue actionable => exact .inl (hs.actionable actionable)
  | cancel actionable => exact .inl (hs.actionable actionable)
  | revalidate proofMissing => exact .inl (hs.proofMissing proofMissing)
  | assess own' live first idle =>
    -- the item is as it was when it was due, and no attempt was under way then
    obtain ⟨initial, hseen, hkey, hrev, hidle⟩ := idle
    obtain rfl := hc.current hseen hget hkey hrev
    refine .inl ?_
    cases hstatus : initial.status with
    | queued => exact (hs.waiting (.inl hstatus)).1
    | waitingForIdle => exact (hs.waiting (.inr hstatus)).1
    | awaitingFirstStart => exact absurd hstatus first
    | assessing | draining | rebuilding | verifying => rw [hstatus] at hidle; cases hidle
    | _ => rw [hstatus] at live; cases live
  | capture assessing owned => exact .inr owned
  | wait status owned => exact .inr owned
  | drain assessing owned => exact .inr owned
  | rebuild draining owned => exact .inr owned
  | verify rebuilding owned => exact .inr owned
  | defer waiting owned => exact .inr owned
  | giveUp live =>
    refine absurd hfail ?_
    simp only [failed, UpgradeRolloutWorker.givenUp]
    split <;> simp
  | retry live budget =>
    refine absurd hfail ?_
    simp [failed, UpgradeRolloutWorker.retryScheduled]

theorem Deploys.fenced {own : Option String} {tr : Exchanges} {item : UpgradeRolloutItem}
    {checkpoint : UpgradeRolloutWorker.Checkpoint} (hs : Sane w item) (h : Deploys own tr item checkpoint) :
    item.attemptId = none ∨ item.attemptId = own := by
  cases h with
  | deployed owned verifying => exact .inr owned
  | onTarget owned assessing => exact .inr owned
  | running seen running owned =>
    rcases owned with ⟨owned, -⟩ | hmissing
    · exact .inr owned
    · exact .inl (hs.proofMissing hmissing)
  | committed reported owned first => exact .inr owned

end Fencing

/-! ## A failure that comes late -/

namespace Sample

def twoWorkers : Nat → RolloutCall
  | 0 => upgrade
  | 1 => .worker 1
  | _ => .worker 2

/-- A worker up to where the activity of the instance is assessed for it. -/
def toAssessment (t : Nat) : List (Nat × RolloutChoice) :=
  during t (roundBegins 1 1 ++ attemptBegins 1 "a" ++ [.go, .found (some (instanceOn "v1" .running)), .go])

/-- The assessment fails, and the failure is recorded. -/
def assessmentFails (t : Nat) : List (Nat × RolloutChoice) :=
  during t [.fails (.error "timeout"), .go, .go, .time 600002, .time 600002, .go]

/-- More than ten minutes later another worker recovers the item and claims it. -/
def takenOver : List (Nat × RolloutChoice) :=
  during 2 (roundBegins 600001 1 ++ attemptBegins 600001 "b")

def batchCreated : List (Nat × RolloutChoice) :=
  during 0 (created "r1" 0 (instanceOn "v1" .running) "v2")

end Sample

end OpenApp.Rollout
