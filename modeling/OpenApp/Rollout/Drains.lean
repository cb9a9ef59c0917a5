import OpenApp.Async.Machine
import OpenApp.Rollout.Memory

/-!
# Drains and traffic

A drain closes an instance to traffic while an upgrade replaces it. It is held by the attempt of a
rollout, or by the transaction of a deletion. The calls of all processes come in any order, each with
the time of the process it comes from.
-/

namespace OpenApp.Rollout

open Keyed

/-! ## What the upgrade asks for -/

/-- The options of an `InstanceUpgradeAdmission`. -/
structure InstanceUpgradeAdmission where
  leaseTimeoutMs : Nat
  quietWindowMs : Nat
  drainTtlMs : Nat

namespace InstanceUpgradeAdmission

variable (a : InstanceUpgradeAdmission)

def request (now : Timestamp) (instanceId rolloutId attemptId : String) (mode : InstanceDrainMode) :
    InstanceDrainRequest where
  instanceId := instanceId
  rolloutId := rolloutId
  attemptId := attemptId
  at' := now
  expiresAt := now + a.drainTtlMs
  heartbeatCutoff := now - a.leaseTimeoutMs
  websocketActivityCutoff := now - a.quietWindowMs
  mode := mode

end InstanceUpgradeAdmission

/-! ## The calls -/

inductive AdmissionCall
  | tryOpen (lease : InstanceActivityLease) (at' : Timestamp)
  | renew (lease : InstanceActivityLease) (at' : Timestamp)
  | close (id instanceId : String) (closedAt : Timestamp)
  | delete (id : String)
  | begin (request : InstanceDrainRequest)
  | clear (instanceId rolloutId attemptId : String)
  | isDraining (instanceId : String) (at' : Timestamp)
  | recover (cutoff recoveredAt : Timestamp)
  /-- any write to the other tables -/
  | elsewhere (workspaces : Table WorkspaceActivity.id) (rollouts : Table UpgradeRollout.id)
      (items : Table UpgradeRolloutItem.key)

namespace Store

variable (s : Store)

/-- What the call answers, where it answers anything, and the store it leaves. -/
def admission : AdmissionCall → Bool × Store
  | .tryOpen lease at' => s.tryOpenInstanceActivityLease lease at'
  | .renew lease at' => s.renewInstanceActivityLease lease at'
  | .close id instanceId closedAt => (true, s.closeInstanceActivityLease id instanceId closedAt)
  | .delete id => (true, s.deleteInstanceActivityLease id)
  | .begin request => s.beginInstanceDraining request
  | .clear instanceId rolloutId attemptId => (true, s.clearInstanceDraining instanceId rolloutId attemptId)
  | .isDraining instanceId at' => s.isInstanceDraining instanceId at'
  | .recover cutoff recoveredAt => (true, (s.recoverInterruptedUpgradeRolloutItems cutoff recoveredAt).2)
  | .elsewhere workspaces rollouts items =>
    (true, { s with workspaces := workspaces, upgradeRollouts := rollouts, upgradeRolloutItems := items })

def admissionStep (call : AdmissionCall) : Option Store :=
  some (s.admission call).2

/-- The drain the store has for the instance. -/
def drain (instanceId : String) : Option InstanceUpgradeDrain :=
  s.instanceUpgradeDrains.get instanceId

/-! ## Who takes a drain away -/

end Store

namespace InstanceUpgradeDrain

variable (d : InstanceUpgradeDrain)

/-- The owner clears its drain, or begins it again. -/
def ByOwner : AdmissionCall → Prop
  | .begin request => request.instanceId = d.instanceId ∧ d.ownedBy request.rolloutId request.attemptId = true
  | .clear instanceId rolloutId attemptId => instanceId = d.instanceId ∧ d.ownedBy rolloutId attemptId = true
  | _ => False

/-- The call looks at the drain when its time is over. -/
def Expired : AdmissionCall → Prop
  | .tryOpen lease at' => lease.instanceId = d.instanceId ∧ d.expiresAt ≤ at'
  | .renew lease at' => lease.instanceId = d.instanceId ∧ d.expiresAt ≤ at'
  | .begin request => request.instanceId = d.instanceId ∧ d.expiresAt ≤ request.at'
  | .isDraining instanceId at' => instanceId = d.instanceId ∧ d.expiresAt ≤ at'
  | .recover _ recoveredAt => d.expiresAt ≤ recoveredAt
  | _ => False

/-- A recovery, when the item of the drain has no attempt under way, or the recovery ends it. -/
def Swept (s : Store) : AdmissionCall → Prop
  | .recover cutoff _ =>
    ∀ item, s.upgradeRolloutItems.get (d.rolloutId, d.instanceId) = some item →
      item.status.inTransition = false ∨ Store.interrupted cutoff item = true
  | _ => False

def Released (s : Store) (call : AdmissionCall) : Prop :=
  d.ByOwner call ∨ d.Expired call ∨ d.Swept s call

/-- No traffic comes in before the drain expires, and no other owner takes its place. -/
def Holds (s : Store) : AdmissionCall → Prop
  | .tryOpen lease at' => lease.instanceId = d.instanceId → at' < d.expiresAt →
    s.tryOpenInstanceActivityLease lease at' = (false, s)
  | .renew lease at' => lease.instanceId = d.instanceId → at' < d.expiresAt →
    s.renewInstanceActivityLease lease at' = (false, s)
  | .begin request => request.instanceId = d.instanceId → request.at' < d.expiresAt →
    d.ownedBy request.rolloutId request.attemptId = false → s.beginInstanceDraining request = (false, s)
  | _ => True

end InstanceUpgradeDrain

namespace Store

variable {s : Store} {d : InstanceUpgradeDrain}

@[simp] theorem touchContainerAt_drain (instanceId : String) (at' : Timestamp) :
    (s.touchContainerAt instanceId at').drain = s.drain := by
  unfold touchContainerAt
  split <;> rfl

@[simp] theorem putLease_drain (lease : InstanceActivityLease) : (s.putLease lease).drain = s.drain := rfl

@[simp] theorem deleteInstanceActivityLease_drain (id : String) : (s.deleteInstanceActivityLease id).drain = s.drain := rfl

@[simp] theorem closeInstanceActivityLease_drain (id instanceId : String) (closedAt : Timestamp) :
    (s.closeInstanceActivityLease id instanceId closedAt).drain = s.drain := by
  unfold closeInstanceActivityLease
  dsimp only
  rw [touchContainerAt_drain]
  split <;> rfl

theorem drain_instanceId {i : String} (h : s.drain i = some d) : d.instanceId = i :=
  Table.key_of_get h

theorem deleteDrain_of_ne {i j : String} (h : j ≠ i) : (s.deleteDrain i).drain j = s.drain j :=
  Table.get_delete_of_ne _ h

theorem putDrain_of_ne (d' : InstanceUpgradeDrain) {j : String} (h : j ≠ d'.instanceId) :
    (s.putDrain d').drain j = s.drain j :=
  Table.get_put_of_ne _ _ h

/-! ## What one call does -/

/-- Who looks at a drain in force finds it, and leaves it. -/
theorem isInstanceDraining_held (h : s.drain d.instanceId = some d) {at' : Timestamp} (ht : at' < d.expiresAt) :
    s.isInstanceDraining d.instanceId at' = (true, s) := by
  unfold isInstanceDraining
  rw [show s.instanceUpgradeDrains.get d.instanceId = some d from h]
  exact if_pos ht

theorem isInstanceDraining_kept (h : s.drain d.instanceId = some d) (i : String) (at' : Timestamp)
    (hexp : i = d.instanceId → at' < d.expiresAt) : (s.isInstanceDraining i at').2.drain d.instanceId = some d := by
  by_cases hi : i = d.instanceId
  · subst hi
    rw [isInstanceDraining_held h (hexp rfl)]
    exact h
  · unfold isInstanceDraining
    split
    · exact h
    · split
      · exact h
      · rw [deleteDrain_of_ne (Ne.symm hi)]
        exact h

theorem tryOpen_held (h : s.drain d.instanceId = some d) {lease : InstanceActivityLease} {at' : Timestamp}
    (hi : lease.instanceId = d.instanceId) (ht : at' < d.expiresAt) :
    s.tryOpenInstanceActivityLease lease at' = (false, s) := by
  unfold tryOpenInstanceActivityLease
  split
  · rfl
  · rw [hi, isInstanceDraining_held h ht]
    rfl

theorem renew_held (h : s.drain d.instanceId = some d) {lease : InstanceActivityLease} {at' : Timestamp}
    (hi : lease.instanceId = d.instanceId) (ht : at' < d.expiresAt) :
    s.renewInstanceActivityLease lease at' = (false, s) := by
  unfold renewInstanceActivityLease
  split
  · rfl
  · rw [hi, isInstanceDraining_held h ht]
    rfl

theorem begin_held (h : s.drain d.instanceId = some d) {request : InstanceDrainRequest}
    (hi : request.instanceId = d.instanceId) (ht : request.at' < d.expiresAt)
    (hother : d.ownedBy request.rolloutId request.attemptId = false) :
    s.beginInstanceDraining request = (false, s) := by
  have hrefuses : refuses request d = true := by simp [refuses, ht, hother]
  unfold beginInstanceDraining
  rw [hi, show s.instanceUpgradeDrains.get d.instanceId = some d from h]
  exact if_pos hrefuses

theorem expireDrain_leases (instanceId : String) (at' : Timestamp) :
    (s.expireDrain instanceId at').instanceActivityLeases = s.instanceActivityLeases := by
  unfold expireDrain
  split <;> rfl

theorem expireDrain_of_ne {i j : String} (h : j ≠ i) (at' : Timestamp) : (s.expireDrain i at').drain j = s.drain j := by
  unfold expireDrain
  split
  · exact deleteDrain_of_ne h
  · rfl

/-- A drain that is begun gracefully meets no connection that holds it back. -/
theorem begin_graceful {request : InstanceDrainRequest} (hmode : request.mode = .graceful)
    (h : (s.beginInstanceDraining request).1 = true) :
    ∀ lease ∈ s.instanceActivityLeases.rows, holdsBack request lease = false := by
  intro lease hlease
  by_contra hback
  have hany : (s.expireDrain request.instanceId request.at').instanceActivityLeases.rows.any (holdsBack request) = true := by
    rw [expireDrain_leases]
    exact List.any_eq_true.2 ⟨lease, hlease, by simpa using hback⟩
  unfold beginInstanceDraining at h
  split at h
  · cases h
  · unfold admitDrain at h
    rw [if_pos ⟨hmode, hany⟩] at h
    cases h

/-- A beginning leaves the drains of the other instances, and where it is refused also its own. -/
theorem begin_kept (h : s.drain d.instanceId = some d) {request : InstanceDrainRequest}
    (hi : request.instanceId = d.instanceId → request.at' < d.expiresAt ∧
      d.ownedBy request.rolloutId request.attemptId = false) :
    (s.beginInstanceDraining request).2.drain d.instanceId = some d := by
  by_cases hsame : request.instanceId = d.instanceId
  · rw [begin_held h hsame (hi hsame).1 (hi hsame).2]
    exact h
  · have hcleared : (s.expireDrain request.instanceId request.at').drain d.instanceId = some d := by
      rw [expireDrain_of_ne (Ne.symm hsame)]
      exact h
    unfold beginInstanceDraining
    split
    · exact h
    · unfold admitDrain
      split
      · exact hcleared
      · exact (putDrain_of_ne request.drain (Ne.symm hsame)).trans hcleared

theorem clear_kept (h : s.drain d.instanceId = some d) {i r a : String}
    (hi : i = d.instanceId → d.ownedBy r a = false) : (s.clearInstanceDraining i r a).drain d.instanceId = some d := by
  unfold clearInstanceDraining
  split
  · next hown =>
    have hne : d.instanceId ≠ i := by
      rintro rfl
      rw [show s.instanceUpgradeDrains.get d.instanceId = some d from h, Option.any_some, hi rfl] at hown
      cases hown
    rw [deleteDrain_of_ne hne]
    exact h
  · exact h

/-- After the items are recovered, an attempt is under way where one was and was not interrupted. -/
theorem ownsActiveTransition_recoverItems (cutoff recoveredAt : Timestamp) :
    (s.recoverItems cutoff recoveredAt).ownsActiveTransition d = false ↔
      ∀ item, s.upgradeRolloutItems.get (d.rolloutId, d.instanceId) = some item →
        item.status.inTransition = false ∨ interrupted cutoff item = true := by
  unfold ownsActiveTransition recoverItems
  simp only [Table.get_sweep]
  cases hget : s.upgradeRolloutItems.get (d.rolloutId, d.instanceId) with
  | none => simp
  | some item =>
    simp only [Option.map_some, Option.any_some, Option.some.injEq, forall_eq']
    by_cases hint : interrupted cutoff item = true
    · have hrec : (recovered item recoveredAt).status.inTransition = false := by
        unfold recovered
        dsimp only
        split <;> rfl
      simp [recoverItem, hint, hrec]
    · simp [recoverItem, hint]

theorem recover_kept (h : s.drain d.instanceId = some d) {cutoff recoveredAt : Timestamp}
    (hexp : recoveredAt < d.expiresAt) (hown : (s.recoverItems cutoff recoveredAt).ownsActiveTransition d = true) :
    (s.recoverInterruptedUpgradeRolloutItems cutoff recoveredAt).2.drain d.instanceId = some d := by
  change ((s.recoverItems cutoff recoveredAt).instanceUpgradeDrains.keep _).get d.instanceId = some d
  rw [Table.get_keep, show (s.recoverItems cutoff recoveredAt).instanceUpgradeDrains.get d.instanceId = some d from h,
    Option.filter_some, if_pos]
  simp [hexp, hown]

/-- Whoever is neither the owner nor late nor a sweep leaves the drain. -/
theorem admission_kept (h : s.drain d.instanceId = some d) {call : AdmissionCall} (hcall : ¬ d.Released s call) :
    (s.admission call).2.drain d.instanceId = some d := by
  simp only [InstanceUpgradeDrain.Released, not_or] at hcall
  obtain ⟨hown, hexp, hswept⟩ := hcall
  cases call with
  | tryOpen lease at' =>
    have hlooked := isInstanceDraining_kept h lease.instanceId at' fun hi =>
      lt_of_not_ge fun hle => hexp ⟨hi, hle⟩
    simp only [admission, tryOpenInstanceActivityLease]
    split
    · exact h
    · split <;> simpa using hlooked
  | renew lease at' =>
    have hlooked := isInstanceDraining_kept h lease.instanceId at' fun hi =>
      lt_of_not_ge fun hle => hexp ⟨hi, hle⟩
    simp only [admission, renewInstanceActivityLease]
    split
    · exact h
    · split <;> simpa using hlooked
  | close id instanceId closedAt => simpa [admission] using h
  | delete id => exact h
  | begin request =>
    refine begin_kept h fun hi => ⟨lt_of_not_ge fun hle => hexp ⟨hi, hle⟩, ?_⟩
    exact Bool.eq_false_iff.2 fun ho => hown ⟨hi, ho⟩
  | clear instanceId rolloutId attemptId =>
    exact clear_kept h fun hi => Bool.eq_false_iff.2 fun ho => hown ⟨hi, ho⟩
  | isDraining instanceId at' => exact isInstanceDraining_kept h instanceId at' fun hi => lt_of_not_ge fun hle => hexp ⟨hi, hle⟩
  | recover cutoff recoveredAt =>
    refine recover_kept h (lt_of_not_ge hexp) ?_
    refine Bool.not_eq_false _ ▸ fun hfalse => hswept ?_
    exact (ownsActiveTransition_recoverItems cutoff recoveredAt).1 hfalse
  | elsewhere workspaces rollouts items => exact h

theorem admission_holds (h : s.drain d.instanceId = some d) (call : AdmissionCall) : d.Holds s call := by
  cases call with
  | tryOpen lease at' => exact fun hi ht => tryOpen_held h hi ht
  | renew lease at' => exact fun hi ht => renew_held h hi ht
  | begin request => exact fun hi ht hother => begin_held h hi ht hother
  | _ => trivial

end Store

/-! ## Any order of calls -/

open Machine Store

/-- What a call does, whatever store it meets. -/
structure Admits (s : Store) (call : AdmissionCall) : Prop where
  /-- a drain in force keeps out traffic and other owners -/
  holds : ∀ d, s.drain d.instanceId = some d → d.Holds s call
  graceful : ∀ request, call = .begin request → request.mode = .graceful → (s.admission call).1 = true →
    ∀ lease ∈ s.instanceActivityLeases.rows, holdsBack request lease = false
  released : ∀ d, s.drain d.instanceId = some d → (s.admission call).2.drain d.instanceId ≠ some d → d.Released s call

theorem admits (s : Store) (call : AdmissionCall) : Admits s call where
  holds d h := admission_holds h call
  graceful request hcall hmode h := begin_graceful hmode (by simpa [hcall, admission] using h)
  released d h hgone := by
    by_contra hcall
    exact hgone (admission_kept h hcall)

/-- A drain that nobody releases stays in force to the end of the run. -/
theorem unreleased_run {s : Store} {d : InstanceUpgradeDrain} {calls : List AdmissionCall}
    (h : s.drain d.instanceId = some d) (hcalls : Along admissionStep (fun s call => ¬ d.Released s call) s calls) :
    Along admissionStep d.Holds s calls ∧ ∀ s' ∈ run admissionStep s calls, s'.drain d.instanceId = some d := by
  induction calls generalizing s with
  | nil =>
    refine ⟨trivial, fun s' hs' => ?_⟩
    obtain rfl := Option.some.inj hs'
    exact h
  | cons call calls ih =>
    obtain ⟨hcall, hrest⟩ := hcalls
    obtain ⟨hholds, hend⟩ := ih (admission_kept h hcall) (hrest _ rfl)
    refine ⟨⟨admission_holds h call, fun s' hs' => ?_⟩, hend⟩
    obtain rfl := Option.some.inj hs'
    exact hholds

/-- A beginning that is admitted leaves the drain it asked for. -/
theorem begin_drain {s : Store} {request : InstanceDrainRequest} (h : (s.beginInstanceDraining request).1 = true) :
    (s.beginInstanceDraining request).2.drain request.instanceId = some request.drain := by
  unfold beginInstanceDraining at h ⊢
  split
  · next hrefused =>
    rw [if_pos hrefused] at h
    cases h
  · next hfree =>
    rw [if_neg hfree] at h
    unfold admitDrain at h ⊢
    split
    · next hback =>
      rw [if_pos hback] at h
      cases h
    · exact Table.get_put_self _ request.drain

/-- What holds of every run: of its calls, of a drain that is there before it, and of two owners that
are admitted at its ends. -/
structure Excludes (s : Store) (calls : List AdmissionCall) : Prop where
  admits : Along admissionStep Admits s calls
  unreleased : ∀ d, s.drain d.instanceId = some d →
    Along admissionStep (fun s call => ¬ d.Released s call) s calls →
      Along admissionStep d.Holds s calls ∧ ∀ s' ∈ run admissionStep s calls, s'.drain d.instanceId = some d
  /-- between two owners somebody has released the drain of the first -/
  sole : ∀ first second : InstanceDrainRequest, second.instanceId = first.instanceId →
    first.drain.ownedBy second.rolloutId second.attemptId = false → second.at' < first.expiresAt →
    (s.beginInstanceDraining first).1 = true →
    ∀ s' ∈ run admissionStep (s.beginInstanceDraining first).2 calls, (s'.beginInstanceDraining second).1 = true →
      ¬ Along admissionStep (fun s call => ¬ first.drain.Released s call) (s.beginInstanceDraining first).2 calls

theorem drains_exclude_traffic (s : Store) (calls : List AdmissionCall) : Excludes s calls where
  admits := along_of_forall admits
  unreleased d h hcalls := unreleased_run h hcalls
  sole first second hi hother htime hfirst s' hs' hsecond hcalls := by
    have hheld : (s.beginInstanceDraining first).2.drain first.drain.instanceId = some first.drain := begin_drain hfirst
    have hend := (unreleased_run hheld hcalls).2 s' hs'
    have hrefused : s'.beginInstanceDraining second = (false, s') := begin_held hend hi htime hother
    rw [hrefused] at hsecond
    cases hsecond

/-! ## Two things a drain does not do -/

def empty : Store where
  workspaces := .empty
  upgradeRollouts := .empty
  upgradeRolloutItems := .empty
  instanceActivityLeases := .empty
  instanceUpgradeDrains := .empty

/-- The options the Portal runs with. -/
def portalAdmission : InstanceUpgradeAdmission where
  leaseTimeoutMs := 45000
  quietWindowMs := 60000
  drainTtlMs := 7200000

/-- A WebSocket whose Portal is gone for fifty seconds. -/
def silentSocket : InstanceActivityLease where
  id := "lease"
  instanceId := "ws"
  kind := .websocket
  openedAt := 0
  heartbeatAt := 0
  lastActivityAt := 0

def deletionDrain : InstanceDrainRequest :=
  portalAdmission.request 0 "ws" "workspace-deletion:ws" "deletion" .force

def upgradeDrain : InstanceDrainRequest :=
  portalAdmission.request 50000 "ws" "rollout" "attempt" .graceful

/-- A recovery takes away the drain of a deletion, which has no item, though it has not expired, its
owner has not cleared it and there was nothing to recover. And a graceful drain is admitted while there
is a WebSocket that was active within the quiet window: its heartbeat is too old to count. -/
theorem sweep_takes_drain :
    (empty.beginInstanceDraining deletionDrain).1 = true ∧
      (((empty.beginInstanceDraining deletionDrain).2.recoverInterruptedUpgradeRolloutItems 0 1).1 = 0 ∧
        1 < deletionDrain.expiresAt ∧
        ((empty.beginInstanceDraining deletionDrain).2.recoverInterruptedUpgradeRolloutItems 0 1).2.drain "ws" = none) ∧
      upgradeDrain.websocketActivityCutoff ≤ silentSocket.lastActivityAt ∧
      ((empty.putLease silentSocket).beginInstanceDraining upgradeDrain).1 = true := by
  decide

end OpenApp.Rollout
