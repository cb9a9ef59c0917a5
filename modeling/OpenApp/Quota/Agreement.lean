import OpenApp.Quota.World

/-!
# The ledger and the records agree

A rebuild does not ask the ledger: it records what the runtime shows, and so does every look at the
runtime. What is true is that records and ledger agree between two operations as long as the runtime
shows nothing the ledger does not back, no failure comes between the two halves of a stop, and a
reservation is given up only when its record has failed or is gone.
-/

namespace OpenApp.Quota

open Async Async.Prog Script

variable {policy : QuotaPolicy} {w w' : LedgerWorld} {α β : Type}

/-! ## Looking and recording -/

theorem plain_lifecycleError (code : String) : Plain (lifecycleError code) :=
  fun _ => PortFailure.noConfusion

theorem Good.stored_backs (h : Good policy w) {c : Container} (hc : Stored w c) : Backs w.ledger c.id c.status := by
  obtain ⟨lastActivityAt, hget⟩ := hc
  have hbacks := h.agrees _ _ hget
  exact hbacks

theorem Good.stored_of_get (h : Good policy w) {id : String} {c : Container} (hget : w.containers.get id = some c) :
    c.id = id ∧ Stored w c := by
  obtain rfl := h.keyed id c hget
  exact ⟨rfl, c.lastActivityAt, hget⟩

theorem assertCatalogSnapshot_kept (h : Good policy w) (snapshot : Option ContainerCatalogSnapshot) :
    Ends policy (assertCatalogSnapshot snapshot) (Kept policy (fun _ w' => w' = w) (fun e w' => Plain e ∧ w' = w)) w := by
  cases snapshot with
  | none => exact ⟨h, rfl⟩
  | some snapshot =>
    refine kept_look h rfl (fun e he => ⟨he, rfl⟩) fun valid => ?_
    exact ends_throwIf (fun _ => ⟨h, plain_lifecycleError _, rfl⟩) fun _ => ⟨h, rfl⟩

/-- What is recorded is what the instance shows, or a failure. -/
theorem updatedContainer_backs {ledger : Admission} {record : Container} {inst : ContainerInstance}
    (h : Backs ledger record.id inst.state) (stopReason : Option ContainerStopReason)
    (expectedState : Option WorkspaceDesiredState) (latestActivityAt : Option String) (updatedAt : String) :
    Backs ledger (updatedContainer record inst stopReason expectedState latestActivityAt updatedAt).id
      (updatedContainer record inst stopReason expectedState latestActivityAt updatedAt).status := by
  have hstatus : ∀ failed : Bool, Backs ledger record.id (if failed then .failed else inst.state) := by
    intro failed
    cases failed with
    | true => trivial
    | false => exact h
  exact hstatus _

theorem projectRuntimeInstance_kept (h : Good policy w) {record : Container} {inst : ContainerInstance}
    (hbacks : Backs w.ledger record.id inst.state) (stopReason : Option ContainerStopReason)
    (expectedState : Option WorkspaceDesiredState) (latest : Option String)
    (expected : Option ContainerCatalogSnapshot) :
    Ends policy (projectRuntimeInstance record inst stopReason expectedState latest expected)
      (Kept policy (fun c w' => w' = w ∧ c.id = record.id ∧ Backs w.ledger c.id c.status)
        (fun e w' => Plain e ∧ w' = w)) w := by
  unfold projectRuntimeInstance
  cases mismatch record inst with
  | some code => exact ⟨h, plain_lifecycleError _, rfl⟩
  | none =>
    refine kept_throwIf h ⟨plain_lifecycleError _, rfl⟩ fun _ => ?_
    refine kept_then (assertCatalogSnapshot_kept h _) (fun _ _ he => he) ?_
    rintro _ w' - rfl
    refine kept_look h rfl (fun e he => ⟨he, rfl⟩) fun updatedAt => ?_
    exact ⟨h, rfl, rfl, updatedContainer_backs hbacks stopReason expectedState latest updatedAt⟩

theorem persistRuntimeInstance_kept (h : Good policy w) {record : Container} {inst : ContainerInstance}
    (hbacks : Backs w.ledger record.id inst.state) (stopReason : Option ContainerStopReason)
    (expectedState : Option WorkspaceDesiredState) (expected : Option ContainerCatalogSnapshot) :
    Ends policy (persistRuntimeInstance record inst stopReason expectedState expected)
      (Kept policy (fun c w' => w'.ledger = w.ledger ∧ c.id = record.id ∧ Stored w' c)
        (fun e w' => Plain e ∧ w'.ledger = w.ledger)) w := by
  refine kept_look h rfl (fun e he => ⟨he, rfl⟩) fun latest => ?_
  refine kept_then (projectRuntimeInstance_kept h hbacks stopReason expectedState _ expected)
    (fun e w' he => ⟨he.1, by rw [he.2]⟩) ?_
  rintro updated w' - ⟨rfl, hid, hupdated⟩
  rw [Ends, ends_bind]
  refine ends_updateContainer ?_ fun e he => ⟨h, he, rfl⟩
  exact ⟨h.put hupdated, rfl, hid, stored_put _ _⟩

theorem recordFailure_kept (h : Good policy w) (current : Container) :
    Ends policy (recordFailure current)
      (Kept policy (fun _ w' => w'.ledger = w.ledger) (fun e w' => Plain e ∧ w'.ledger = w.ledger)) w := by
  refine kept_look h rfl (fun e he => ⟨he, rfl⟩) fun updatedAt => ?_
  refine ends_updateContainer ?_ fun e he => ⟨h, he, rfl⟩
  exact ⟨h.put trivial, rfl⟩

/-- Waiting ends with the record of the same instance as it is stored. -/
theorem waitForCreation_kept (h : Good policy w) (n : Nat) (current : Container) :
    Ends policy (waitForCreation n current)
      (Kept policy (fun c w' => w' = w ∧ c.id = current.id ∧ (Stored w current → Stored w c)) Anything) w := by
  induction n generalizing current with
  | zero =>
    unfold waitForCreation
    split
    · exact kept_throw h trivial
    · exact kept_pure h ⟨rfl, rfl, id⟩
  | succ n ih =>
    unfold waitForCreation
    split
    · refine kept_look h rfl (fun _ _ => trivial) fun before => ?_
      split
      · refine kept_look h rfl (fun _ _ => trivial) fun _ => kept_look h rfl (fun _ _ => trivial) fun _ =>
          kept_look h rfl (fun _ _ => trivial) fun _ => ?_
        rw [Ends, ends_bind]
        refine ends_getContainer ?_ fun _ _ => ⟨h, trivial⟩
        cases hget : w.containers.get current.id with
        | none => exact kept_throw h trivial
        | some refreshed =>
          obtain ⟨hid, hstored⟩ := h.stored_of_get hget
          refine kept_weaken (ih refreshed) ?_ fun _ _ he => he
          rintro c w' ⟨rfl, hc, hkept⟩
          exact ⟨rfl, hc.trans hid, fun _ => hkept hstored⟩
      · exact kept_throw h trivial
    · exact kept_pure h ⟨rfl, rfl, id⟩

theorem lookAgain_kept (h : Good policy w) (id : String) (n : Nat) :
    Ends policy (lookAgain id n)
      (Kept policy (fun found w' => w' = w ∧ ∀ inst, found = some inst → Backs w.ledger id inst.state) Anything) w := by
  induction n with
  | zero => exact kept_pure h ⟨rfl, fun inst hnone => absurd hnone (Option.some_ne_none inst).symm⟩
  | succ n ih =>
    refine kept_look h rfl (fun _ _ => trivial) fun _ => kept_look h rfl (fun _ _ => trivial) fun _ =>
      kept_look h rfl (fun _ _ => trivial) fun _ => ?_
    rw [Ends, ends_bind]
    refine ends_runtimeGet ?_ fun _ _ => ⟨h, trivial⟩
    intro found hfound
    cases found with
    | none => exact ih
    | some inst => exact kept_pure h ⟨rfl, hfound⟩

/-- What is seen of an instance leaves the record as it is stored afterwards. -/
theorem recordSeen_kept (h : Good policy w) (record : Container) (seen : Option ContainerInstance)
    (hseen : ∀ inst, seen = some inst → Backs w.ledger record.id inst.state) :
    Ends policy (recordSeen record seen)
      (Kept policy (fun c w' => w'.ledger = w.ledger ∧ c.id = record.id ∧ (Stored w record → Stored w' c)) Anything) w := by
  cases seen with
  | some inst =>
    refine kept_weaken (persistRuntimeInstance_kept h (hseen inst rfl) _ _ _) ?_ fun _ _ _ => trivial
    rintro c w' ⟨hledger, hid, hstored⟩
    exact ⟨hledger, hid, fun _ => hstored⟩
  | none =>
    change Ends policy (if record.status = .failed then pure record else throw _) _ _
    split
    · exact kept_pure h ⟨rfl, rfl, id⟩
    · exact kept_throw h trivial

theorem syncRecord_kept (h : Good policy w) (record : Container) :
    Ends policy (syncRecord record)
      (Kept policy (fun c w' => w'.ledger = w.ledger ∧ c.id = record.id ∧ (Stored w record → Stored w' c)) Anything) w := by
  refine kept_look h rfl (fun _ _ => trivial) fun _ => ?_
  rw [Ends, ends_bind]
  refine ends_runtimeGet (fun first hfirst => ?_) fun _ _ => ⟨h, trivial⟩
  rw [goes_ok]
  dsimp only
  split
  · refine kept_then (lookAgain_kept h record.id _) (fun _ _ _ => trivial) ?_
    rintro found w' - ⟨rfl, hfound⟩
    exact recordSeen_kept h record found hfound
  · exact recordSeen_kept h record first hfirst

theorem requireContainer_kept (h : Good policy w) (id : String) :
    Ends policy (requireContainer id) (Kept policy (fun c w' => w' = w ∧ c.id = id ∧ Stored w c) Anything) w := by
  refine kept_look h rfl (fun _ _ => trivial) fun _ => ?_
  rw [Ends, ends_bind]
  refine ends_getContainer ?_ fun _ _ => ⟨h, trivial⟩
  refine kept_look h rfl (fun _ _ => trivial) fun _ => ?_
  cases hget : w.containers.get id with
  | none => exact kept_throw h trivial
  | some record => exact kept_pure h ⟨rfl, h.stored_of_get hget⟩

/-- The record an operation starts from: it is of the instance, as it is stored. -/
theorem current_kept (h : Good policy w) (id : String) {f : Container → PortTask β} {B : β → LedgerWorld → Prop}
    (hf : ∀ current w', Good policy w' → w'.ledger = w.ledger → current.id = id → Stored w' current →
      Ends policy (f current) (Kept policy B Anything) w') :
    Ends policy (do
      let record ← requireContainer id
      let settled ← waitForCreation CREATION_WAIT_ROUNDS record
      let current ← syncRecord settled
      f current) (Kept policy B Anything) w := by
  refine kept_then (requireContainer_kept h id) (fun _ _ _ => trivial) ?_
  rintro record w' - ⟨rfl, hid, hstored⟩
  refine kept_then (waitForCreation_kept h _ record) (fun _ _ _ => trivial) ?_
  rintro settled w' - ⟨rfl, hid', hstored'⟩
  refine kept_then (syncRecord_kept h settled) (fun _ _ _ => trivial) ?_
  rintro current w' h' ⟨hledger, hid'', hstored''⟩
  exact hf current w' h' hledger (hid''.trans (hid'.trans hid)) (hstored'' (hstored' hstored))

theorem withContainerLease_kept (h : Good policy w) {id : String} {leaseHeld : Bool} {p : PortTask α}
    {A : α → LedgerWorld → Prop} (hp : Ends policy p (Kept policy A Anything) w) :
    Ends policy (withContainerLease id leaseHeld p) (Kept policy A Anything) w := by
  unfold withContainerLease
  split
  · exact hp
  · refine kept_look h rfl (fun _ _ => trivial) fun claimed => ?_
    split
    · exact hp
    · exact kept_throw h trivial

theorem syncLocked_kept (h : Good policy w) (id : String) :
    Ends policy (syncLocked id) (Kept policy Anything Anything) w := by
  refine kept_then (requireContainer_kept h id) (fun _ _ _ => trivial) ?_
  rintro record w' - ⟨rfl, -, -⟩
  refine kept_then (waitForCreation_kept h _ record) (fun _ _ _ => trivial) ?_
  rintro settled w' - ⟨rfl, -, -⟩
  exact kept_weaken (syncRecord_kept h settled) (fun _ _ _ => trivial) fun _ _ _ => trivial

theorem sync_kept (h : Good policy w) (id : String) (leaseHeld : Bool) :
    Ends policy (sync id leaseHeld) (Kept policy Anything Anything) w :=
  withContainerLease_kept h (syncLocked_kept h id)

/-! ## Calls to the ledger -/

/-- What the ledger says of an instance after one reservation was written. -/
theorem backs_set_of_ne {ledger : Admission} {request : QuotaReservationRequest} {id : String}
    {status : ContainerStatus} (hne : request.reservationId ≠ id) :
    Backs (ledger.set request) id status ↔ Backs ledger id status := by
  cases status <;> simp [Backs, ledger.get_set_of_ne hne]

theorem backs_of_running {ledger : Admission} {id : String} {request : QuotaReservationRequest}
    (hget : ledger.get id = some request) (hrunning : request.desiredState = .running) (status : ContainerStatus) :
    Backs ledger id status := by
  cases status with
  | creating | running => exact ⟨request, hget, hrunning⟩
  | stopped => simp [Backs, hget]
  | failed => trivial

/-- A running reservation may always be written. -/
theorem Good.set_running (h : Good policy w) {request : QuotaReservationRequest}
    (hrunning : request.desiredState = .running) (hsafe : (w.ledger.set request).Safe policy) :
    Good policy { w with ledger := w.ledger.set request } := by
  refine h.withLedger hsafe fun id c hget => ?_
  by_cases hid : request.reservationId = id
  · subst hid
    exact backs_of_running (w.ledger.get_set_self request) hrunning c.status
  · exact (backs_set_of_ne hid).2 (h.agrees id c hget)

/-- A stopped one where the record is stopped. -/
theorem Good.set_stopped (h : Good policy w) {request : QuotaReservationRequest}
    (hrecord : ∀ c, w.containers.get request.reservationId = some c → c.status = .stopped)
    (hsafe : (w.ledger.set request).Safe policy) : Good policy { w with ledger := w.ledger.set request } := by
  refine h.withLedger hsafe fun id c hget => ?_
  by_cases hid : request.reservationId = id
  · subst hid
    rw [hrecord c hget]
    change (((w.ledger.set request).get request.reservationId).isSome = true)
    rw [w.ledger.get_set_self request]
    rfl
  · exact (backs_set_of_ne hid).2 (h.agrees id c hget)

theorem ends_transition {id : String} {desiredState : QuotaDesiredState}
    {Q : Except PortFailure Bool → LedgerWorld → Prop}
    (hgo : Q ((w.ledger.transition policy id desiredState).1.mapError .quota)
      { w with ledger := (w.ledger.transition policy id desiredState).2 })
    (hfail : ∀ e, Plain e → w.Agrees → Q (.error e) w) : Ends policy (port (.transition id desiredState)) Q w := by
  refine ends_await fun x r hx hr => ?_
  cases x with
  | go =>
    cases hr
    exact hgo
  | fails error =>
    obtain ⟨hmay, rfl⟩ := perform_fails hr
    refine hfail error ?_ ?_
    · rintro inst rfl
      cases hmay
    · by_contra hagrees
      cases hx.undisturbed hagrees
  | _ => cases hr

theorem plain_quota (e : QuotaAdmissionError) : Plain (.quota e) :=
  fun _ => PortFailure.noConfusion

theorem transition_running_kept (h : Good policy w) (hpolicy : PolicySafe policy) (id : String) :
    Ends policy (port (.transition id .running))
      (Kept policy (fun moved w' => w'.containers = w.containers ∧
          (moved = true → ∃ request, w'.ledger.get id = some request ∧ request.desiredState = .running))
        (fun e w' => Plain e ∧ w'.containers = w.containers)) w := by
  refine ends_transition ?_ fun e he _ => ⟨h, he, rfl⟩
  have hgood : Good policy { w with ledger := (w.ledger.transition policy id .running).2 } := by
    have hsafe := h.safe.transition hpolicy id .running
    obtain ⟨r, he⟩ | ⟨current, hget, -, he⟩ := Admission.transition_cases policy w.ledger id .running
    · rw [he]
      exact h
    · rw [he] at hsafe ⊢
      exact h.set_running rfl hsafe
  cases hr : (w.ledger.transition policy id .running).1 with
  | error e => exact ⟨hgood, plain_quota e, rfl⟩
  | ok moved =>
    refine ⟨hgood, rfl, ?_⟩
    rintro rfl
    exact Admission.transition_true hr

/-- The quota of an instance whose record is stopped may be moved to stopped. -/
theorem transition_stopped_kept (h : Good policy w) (hpolicy : PolicySafe policy) {id : String}
    (hrecord : ∀ c, w.containers.get id = some c → c.status = .stopped) :
    Ends policy (port (.transition id .stopped))
      (Kept policy (fun _ w' => w'.containers = w.containers) (fun _ w' => w'.containers = w.containers)) w := by
  refine ends_transition ?_ fun e _ _ => ⟨h, rfl⟩
  have hgood : Good policy { w with ledger := (w.ledger.transition policy id .stopped).2 } := by
    have hsafe := h.safe.transition hpolicy id .stopped
    obtain ⟨r, he⟩ | ⟨current, hget, -, he⟩ := Admission.transition_cases policy w.ledger id .stopped
    · rw [he]
      exact h
    · rw [he] at hsafe ⊢
      obtain rfl := Admission.get_id hget
      exact h.set_stopped hrecord hsafe
  cases (w.ledger.transition policy id .stopped).1 with
  | error e => exact ⟨hgood, rfl⟩
  | ok moved => exact ⟨hgood, rfl⟩

/-- What a provision goes on from: a pending record of the reservation's instance, or a container. -/
def Reserved : Reservation ⊕ Container → LedgerWorld → Prop
  | .inl reservation, _ => reservation.pending.id = reservation.id
  | .inr _, _ => True

/-- A release is given where no record needs it, or it fails. -/
theorem release_kept (h : Good policy w) (id : String) :
    Ends policy (port (.release id)) (Kept policy Anything Anything) w := by
  refine ends_await fun x r hx hr => ?_
  cases x with
  | go =>
    cases hr
    refine ⟨h.withLedger (h.safe.delete id) fun id' c hget => ?_, trivial⟩
    by_cases hid : id' = id
    · subst hid
      rw [hx.released id' rfl c hget]
      trivial
    · have hbacks := h.agrees id' c hget
      have hsame : (w.ledger.delete id).get id' = w.ledger.get id' := w.ledger.get_delete_of_ne (Ne.symm hid)
      change Backs (w.ledger.delete id) id' c.status
      cases hstatus : c.status <;> rw [hstatus] at hbacks <;> simp [Backs, hsame] at hbacks ⊢ <;> exact hbacks
  | fails error =>
    obtain ⟨-, rfl⟩ := perform_fails hr
    exact ⟨h, trivial⟩
  | _ => cases hr

theorem releaseQuota_kept (h : Good policy w) (id ownerId : String) :
    Ends policy (releaseQuota id ownerId) (Kept policy Anything Anything) w := by
  refine ends_tryCatch (R := Kept policy Anything Anything) ?_ (fun _ _ h => h) ?_
  · exact kept_then (release_kept h id) (fun _ _ _ => trivial) fun _ w' h' _ => kept_pure h' trivial
  · rintro e w' ⟨h', -⟩
    refine ends_tryCatch (R := Kept policy Anything Anything) ?_ (fun _ _ h => h) ?_
    · exact ends_look rfl (fun _ => ⟨h', trivial⟩) fun _ _ => ⟨h', trivial⟩
    · rintro e w' ⟨h', -⟩
      exact kept_pure h' trivial

/-! ## Starting -/

theorem stored_of_containers {c : Container} (hc : Stored w c) (hw : w'.containers = w.containers) : Stored w' c := by
  obtain ⟨lastActivityAt, hget⟩ := hc
  exact ⟨lastActivityAt, by rw [hw, hget]⟩

theorem Stored.status {c c' : Container} (hc : Stored w c) (hget : w.containers.get c.id = some c') :
    c'.status = c.status := by
  obtain ⟨lastActivityAt, hget'⟩ := hc
  rw [hget'] at hget
  cases hget
  rfl

/-- What is known of a failure that a start goes on with: no rollback left the instance running. -/
def StartError (error : PortFailure) : Prop :=
  ∀ inst, error = .rolledBack inst → inst.state = .stopped ∨ inst.state = .failed

theorem Plain.startError {error : PortFailure} (h : Plain error) : StartError error :=
  fun inst he => absurd he (h inst)

theorem finishFailedStart_kept (h : Good policy w) {current : Container} {error : PortFailure}
    {recovered : Option ContainerInstance} (hrecovered : ∀ inst, recovered = some inst → Backs w.ledger current.id inst.state) :
    Ends policy (finishFailedStart current error recovered) (Kept policy Anything Anything) w := by
  refine kept_look h rfl (fun _ _ => trivial) fun reason => ?_
  cases reason with
  | some reason => exact kept_throw h trivial
  | none =>
    cases recovered with
    | none => exact kept_throw h trivial
    | some inst =>
      dsimp only
      split
      · refine kept_then (persistRuntimeInstance_kept h (hrecovered inst rfl) _ _ _) (fun _ _ _ => trivial) ?_
        exact fun _ w' h' _ => kept_throw h' trivial
      · exact kept_throw h trivial

/-- What is restored after a start is stopped, and what is seen the ledger backs. -/
theorem recoveredStart_kept (h : Good policy w) {id : String} {error : PortFailure} (hlive : Backs w.ledger id .stopped)
    (herror : StartError error) :
    Ends policy (recoveredStart id error)
      (Kept policy (fun recovered w' => w' = w ∧ ∀ inst, recovered = some inst → Backs w.ledger id inst.state) Anything)
      w := by
  have hlook : Ends policy (tryCatch (port (.runtimeGet id)) fun _ => pure none)
      (Kept policy (fun recovered w' => w' = w ∧ ∀ inst, recovered = some inst → Backs w.ledger id inst.state)
        Anything) w := by
    refine ends_tryCatch (R := Kept policy (fun recovered w' => w' = w ∧
      ∀ inst, recovered = some inst → Backs w.ledger id inst.state) (fun _ w' => w' = w)) ?_ (fun _ _ h => h) ?_
    · exact ends_runtimeGet (fun found hfound => ⟨h, rfl, hfound⟩) fun _ _ => ⟨h, rfl⟩
    · rintro e w' ⟨-, rfl⟩
      exact kept_pure h ⟨rfl, fun inst hnone => absurd hnone (Option.some_ne_none inst).symm⟩
  cases error with
  | rolledBack inst =>
    refine kept_pure h ⟨rfl, ?_⟩
    rintro _ ⟨⟩
    obtain hstate | hstate := herror inst rfl
    · rw [hstate]
      exact hlive
    · rw [hstate]
      trivial
  | quota e => exact hlook
  | failure e => exact hlook

/-- What a start does about a failure, once the quota is back. -/
theorem recover_kept (h : Good policy w) {current : Container} {error : PortFailure}
    (hstored : Stored w current) (hstatus : current.status = .stopped) (herror : StartError error) :
    Ends policy (recoveredStart current.id error >>= finishFailedStart current error) (Kept policy Anything Anything) w := by
  have hlive : Backs w.ledger current.id .stopped := hstatus ▸ h.stored_backs hstored
  refine kept_then (recoveredStart_kept h hlive herror) (fun _ _ _ => trivial) ?_
  rintro recovered w' - ⟨rfl, hrecovered⟩
  exact finishFailedStart_kept h hrecovered

theorem startFailed_kept (h : Good policy w) (hpolicy : PolicySafe policy) {current : Container} {error : PortFailure}
    (hstored : Stored w current) (hstatus : current.status = .stopped) (quotaTransitioned : Bool)
    (herror : StartError error) :
    Ends policy (startFailed current.id current quotaTransitioned error) (Kept policy Anything Anything) w := by
  refine kept_look h rfl (fun _ _ => trivial) fun reason => ?_
  cases reason with
  | some reason => exact kept_throw h trivial
  | none =>
    refine kept_throwIf h trivial fun _ => ?_
    dsimp only
    split
    · have hback : Ends policy (tryCatch (do let _ ← port (.transition current.id .stopped)) fun _ => pure ())
          (Kept policy (fun _ w' => w'.containers = w.containers) Anything) w := by
        refine ends_tryCatch (R := Kept policy (fun _ w' => w'.containers = w.containers)
          (fun _ w' => w'.containers = w.containers)) ?_ (fun _ _ h => h) ?_
        · refine kept_then (transition_stopped_kept h hpolicy ?_) (fun _ _ he => he) ?_
          · intro c hget
            rw [hstored.status hget, hstatus]
          · exact fun _ w' h' hw => kept_pure h' hw
        · exact fun e w' h' => kept_pure h'.1 h'.2
      refine kept_then hback (fun _ _ _ => trivial) ?_
      exact fun _ w' h' hw => recover_kept h' (stored_of_containers hstored hw) hstatus herror
    · exact recover_kept h hstored hstatus herror

theorem startStopped_kept (h : Good policy w) (hpolicy : PolicySafe policy) {current : Container}
    (hstored : Stored w current) (hstatus : current.status = .stopped) :
    Ends policy (startStopped current.id current) (Kept policy Anything Anything) w := by
  refine kept_look h rfl (fun _ _ => trivial) fun limits => kept_look h rfl (fun _ _ => trivial) fun all => ?_
  refine kept_throwIf h trivial fun _ => ?_
  rw [Ends, ends_bind]
  refine ends_settle (ends_mono (transition_running_kept h hpolicy current.id) fun r w₁ hr => ?_)
  cases r with
  | error error =>
    obtain ⟨h₁, hplain, hw₁⟩ := hr
    exact startFailed_kept h₁ hpolicy (stored_of_containers hstored hw₁) hstatus false hplain.startError
  | ok moved =>
    obtain ⟨h₁, hw₁, hmoved⟩ := hr
    have hstored₁ := stored_of_containers hstored hw₁
    cases moved with
    | false => exact startFailed_kept h₁ hpolicy hstored₁ hstatus false (plain_quota _).startError
    | true =>
      change Ends policy (_ >>= _) _ _
      rw [Ends, ends_bind]
      refine ends_settle ?_
      rw [ends_bind]
      refine ends_runtime (fun inst hinst => ?_) fun e he => ?_
      · change Ends policy (_ >>= _) _ _
        rw [Ends, ends_bind]
        refine ends_look rfl (fun _ => ?_) fun e he => ?_
        · exact kept_weaken (persistRuntimeInstance_kept h₁ hinst _ _ _) (fun _ _ _ => trivial) fun _ _ _ => trivial
        · exact startFailed_kept h₁ hpolicy hstored₁ hstatus true he.startError
      · exact startFailed_kept h₁ hpolicy hstored₁ hstatus true fun inst hinst => (he inst hinst).2 current.id rfl

theorem startLocked_kept (h : Good policy w) (hpolicy : PolicySafe policy) (id : String) :
    Ends policy (startLocked id) (Kept policy Anything Anything) w := by
  refine current_kept h id fun current w' h' _ hid hstored => ?_
  split
  · exact kept_pure h' trivial
  · refine kept_throwIf h' trivial fun hstatus => ?_
    rw [Ends, ends_bind]
    refine ends_getContainer ?_ fun _ _ => ⟨h', trivial⟩
    refine kept_look h' rfl (fun _ _ => trivial) fun _ => ?_
    cases hget : w'.containers.get id with
    | none => exact kept_throw h' trivial
    | some fresh =>
      dsimp only
      split
      · exact kept_weaken (syncRecord_kept h' fresh) (fun _ _ _ => trivial) fun _ _ _ => trivial
      · refine kept_throwIf h' trivial fun _ => ?_
        subst hid
        exact startStopped_kept h' hpolicy hstored (by simpa using hstatus)

theorem start_kept (h : Good policy w) (hpolicy : PolicySafe policy) (id : String) (leaseHeld : Bool) :
    Ends policy (start id leaseHeld) (Kept policy Anything Anything) w :=
  withContainerLease_kept h (startLocked_kept h hpolicy id)

/-! ## Stopping -/

/-- In the middle of a stop a look does not fail. -/
theorem ends_undisturbed (hmiddle : ¬ w.Agrees) {o : PortOp} {Q : Except PortFailure o.Answer → LedgerWorld → Prop}
    (ho : o.looks = true) (hsignal : o ≠ .throwIfAborted) (hok : ∀ a, Q (.ok a) w) : Ends policy (port o) Q w := by
  refine ends_await fun x r hx hr => ?_
  obtain ⟨hw, -⟩ := perform_looks ho hr
  cases hr' : r.1 with
  | ok a => exact hw ▸ hok a
  | error e =>
    by_cases hfails : ∃ error, x = .fails error
    · obtain ⟨error, rfl⟩ := hfails
      have hdisturbs := hx.undisturbed hmiddle
      cases o <;> first | (cases hdisturbs; done) | (cases ho; done) | exact absurd rfl hsignal
    · -- only a failure fails
      have hgo : w.perform policy o x = (w.answer o x).map fun a => (.ok a, w) := by
        cases o <;> first
          | (cases ho; done)
          | (cases x <;> first | rfl | exact absurd ⟨_, rfl⟩ hfails)
      rw [hgo] at hr
      obtain ⟨a, -, rfl⟩ := Option.map_eq_some_iff.1 hr
      cases hr'

theorem assertCatalogSnapshot_undisturbed (hmiddle : ¬ w.Agrees) (snapshot : Option ContainerCatalogSnapshot) :
    Ends policy (assertCatalogSnapshot snapshot) (fun r w' => r = .ok () ∧ w' = w) w := by
  cases snapshot with
  | none => exact ⟨rfl, rfl⟩
  | some snapshot =>
    change Ends policy (_ >>= _) _ _
    rw [Ends, ends_bind]
    refine ends_await fun x r hx hr => ?_
    have hdisturbs := hx.undisturbed hmiddle
    cases x with
    | flag value =>
      cases hr
      cases value with
      | false => cases hdisturbs
      | true => exact ⟨rfl, rfl⟩
    | fails error => cases hdisturbs
    | _ => cases hr

/-- What a stop has found is recorded, and the ledger backs it. -/
theorem persist_undisturbed (hmiddle : ¬ w.Agrees) (keyed : ∀ id c, w.containers.get id = some c → c.id = id)
    (safe : w.ledger.Safe policy) {current : Container} {inst : ContainerInstance}
    (hothers : ∀ id c, id ≠ current.id → w.containers.get id = some c → Backs w.ledger id c.status)
    (hmatch : mismatch current inst = none) (hbacks : Backs w.ledger current.id inst.state)
    (stopReason : Option ContainerStopReason) :
    Ends policy (persistRuntimeInstance current inst stopReason none none) (Kept policy Anything Anything) w := by
  change Ends policy (_ >>= _) _ _
  rw [Ends, ends_bind]
  refine ends_undisturbed hmiddle rfl PortOp.noConfusion fun latest => ?_
  unfold projectRuntimeInstance
  rw [goes_ok, hmatch, ends_bind]
  dsimp only
  rw [ends_bind]
  refine ends_throwIf (fun hc => ?_) fun _ => ?_
  · -- nothing was expected of the snapshot
    cases hs : inst.catalogSnapshot <;> simp [hs] at hc
  rw [goes_ok, ends_bind]
  refine ends_mono (assertCatalogSnapshot_undisturbed hmiddle _) ?_
  rintro _ w' ⟨rfl, rfl⟩
  rw [goes_ok, ends_bind]
  refine ends_undisturbed hmiddle rfl PortOp.noConfusion fun updatedAt => ?_
  rw [goes_ok, ends_pure, goes_ok, ends_bind]
  refine ends_await fun x r hx hr => ?_
  cases x with
  | go =>
    cases hr
    refine ⟨.of_put keyed safe hothers ?_, trivial⟩
    exact updatedContainer_backs hbacks stopReason none _ updatedAt
  | fails error => cases hx.undisturbed hmiddle
  | _ => cases hr

theorem stopRunning_kept (h : Good policy w) (hpolicy : PolicySafe policy) {current : Container}
    (hstored : Stored w current) (hstatus : current.status = .running) (reason : ContainerStopReason) :
    Ends policy (stopRunning current.id reason current) (Kept policy Anything Anything) w := by
  obtain ⟨request, hget, hrunning⟩ : Backs w.ledger current.id .running := hstatus ▸ h.stored_backs hstored
  obtain ⟨lastActivityAt, hrecord⟩ := hstored
  have hrequest := Admission.get_id hget
  change Ends policy (_ >>= _) _ _
  rw [Ends, ends_bind]
  refine ends_transition ?_ fun _ _ _ => ⟨h, trivial⟩
  obtain he | ⟨havailable, he⟩ := Admission.transition_stops h.safe hpolicy hget hrunning
  · rw [he]
    exact ⟨h, trivial⟩
  -- the quota is given back, and the record is still running
  have hsafe := h.safe.transition hpolicy current.id .stopped
  rw [he] at hsafe ⊢
  generalize hstopped : ({ request with desiredState := .stopped } : QuotaReservationRequest) = stopped at hsafe ⊢
  have hid : stopped.reservationId = current.id := by
    rw [← hstopped]
    exact hrequest
  have hothers : ∀ id c, id ≠ current.id → w.containers.get id = some c →
      Backs (w.ledger.set stopped) id c.status := by
    intro id c hne hc
    exact (backs_set_of_ne (hid ▸ Ne.symm hne)).2 (h.agrees id c hc)
  have hmiddle : ¬ ({ w with ledger := w.ledger.set stopped } : LedgerWorld).Agrees := by
    intro hagrees
    have hbacks := hagrees _ _ hrecord
    change Backs (w.ledger.set stopped) current.id current.status at hbacks
    rw [hstatus] at hbacks
    obtain ⟨request', hget', hrunning'⟩ := hbacks
    have hself := w.ledger.get_set_self stopped
    rw [hid, hget'] at hself
    cases hself
    rw [← hstopped] at hrunning'
    cases hrunning'
  -- where the stop fails, the quota is taken again
  have hback : ∀ error : PortFailure, Ends policy (do
      tryCatch (do let _ ← port (.transition current.id .running)) fun _ => pure ()
      throw error : PortTask Container) (Kept policy Anything Anything) { w with ledger := w.ledger.set stopped } := by
    intro error
    refine kept_then (A := Anything) (F := Anything) ?_ (fun _ _ _ => trivial)
      fun _ w' h' _ => kept_throw h' trivial
    refine ends_tryCatch (R := Kept policy Anything Anything) ?_ (fun _ _ h => h) fun _ w' h' => kept_pure h'.1 trivial
    change Ends policy (_ >>= _) _ _
    rw [Ends, ends_bind]
    refine ends_transition ?_ fun _ _ hagrees => absurd hagrees hmiddle
    have hsafe' := hsafe.transition hpolicy current.id .running
    have hagain := Admission.transition_back h.safe hpolicy hget hrunning hstopped.symm havailable
    rw [hagain] at hsafe' ⊢
    refine ⟨⟨?_, h.keyed, hsafe'⟩, trivial⟩
    intro id c hc
    by_cases hne : id = current.id
    · subst hne
      have hself := (w.ledger.set stopped).get_set_self request
      rw [hrequest] at hself
      exact backs_of_running hself hrunning c.status
    · refine (backs_set_of_ne ?_).2 (hothers id c hne hc)
      rw [hrequest]
      exact Ne.symm hne
  change Ends policy (_ >>= _) _ _
  rw [Ends, ends_bind]
  refine ends_settle ?_
  rw [ends_bind]
  refine ends_await fun x r hx hr => ?_
  cases x with
  | shows inst =>
    cases hr
    have hmatch : mismatch current inst = none := by
      have hdisturbs : (w.containers.get current.id).any (fun c => (mismatch c inst).isSome) = false :=
        hx.undisturbed hmiddle
      rw [hrecord, Option.any_some] at hdisturbs
      change (mismatch current inst).isSome = false at hdisturbs
      simpa using hdisturbs
    have hbacks := hx.backed (_, inst) rfl
    change Ends policy (_ >>= _) _ _
    rw [Ends, ends_bind]
    refine ends_look rfl (fun _ => ?_) fun e _ => hback e
    exact persist_undisturbed hmiddle h.keyed hsafe hothers hmatch hbacks _
  | fails error =>
    obtain ⟨-, rfl⟩ := perform_fails hr
    exact hback error
  | _ => cases hr

theorem stopLocked_kept (h : Good policy w) (hpolicy : PolicySafe policy) (id : String) (reason : ContainerStopReason) :
    Ends policy (stopLocked id reason) (Kept policy Anything Anything) w := by
  refine current_kept h id fun current w' h' _ hid hstored => ?_
  split
  · rename_i hstatus
    refine kept_look h' rfl (fun _ _ => trivial) fun updatedAt => ?_
    change Ends policy (_ >>= _) _ _
    rw [Ends, ends_bind]
    refine ends_updateContainer ⟨h'.put ?_, trivial⟩ fun _ _ => ⟨h', trivial⟩
    have hbacks := h'.stored_backs hstored
    exact hbacks
  · refine kept_throwIf h' trivial fun hstatus => ?_
    subst hid
    exact stopRunning_kept h' hpolicy hstored (by simpa using hstatus) reason

theorem stop_kept (h : Good policy w) (hpolicy : PolicySafe policy) (id : String) (reason : ContainerStopReason)
    (leaseHeld : Bool) : Ends policy (stop id reason leaseHeld) (Kept policy Anything Anything) w :=
  withContainerLease_kept h (stopLocked_kept h hpolicy id reason)

/-! ## Rebuilding -/

theorem rebuildSource_kept (h : Good policy w) (options : RebuildOptions) (settled : Container) :
    Ends policy (rebuildSource options settled) (Kept policy (fun c _ => c.id = settled.id) Anything) w := by
  unfold rebuildSource
  split
  · exact kept_pure h rfl
  · refine ends_tryCatch (R := Kept policy (fun c _ => c.id = settled.id) Anything) ?_ (fun _ _ h => h) ?_
    · exact kept_weaken (syncRecord_kept h settled) (fun _ _ h => h.2.1) fun _ _ _ => trivial
    · rintro error w' ⟨h', -⟩
      split
      · exact kept_pure h' rfl
      · exact kept_throw h' trivial

theorem rebuildTarget_kept (h : Good policy w) (options : RebuildOptions) (current : Container) :
    Ends policy (rebuildTarget options current) (Kept policy Anything Anything) w := by
  unfold rebuildTarget
  split
  · exact kept_throwIf h trivial fun _ => kept_pure h trivial
  · split
    · exact kept_look h rfl (fun _ _ => trivial) fun _ => kept_pure h trivial
    · exact kept_pure h trivial

theorem rebuildProfile_kept (h : Good policy w) (options : RebuildOptions) (imageReference : String) :
    Ends policy (rebuildProfile options imageReference) (Kept policy Anything Anything) w := by
  unfold rebuildProfile
  split
  · exact kept_pure h trivial
  · exact kept_look h rfl (fun _ _ => trivial) fun _ => kept_pure h trivial

theorem rebuildPlan_kept (h : Good policy w) (options : RebuildOptions) (wasRecordedRunning : Bool) (current : Container) :
    Ends policy (rebuildPlan options wasRecordedRunning current) (Kept policy Anything Anything) w := by
  refine kept_then (rebuildTarget_kept h options current) (fun _ _ _ => trivial) ?_
  rintro target w' h' -
  cases target.imageReference.filter truthy with
  | none => exact kept_throw h' trivial
  | some imageReference =>
    refine kept_then (assertCatalogSnapshot_kept h' _) (fun _ _ _ => trivial) ?_
    rintro _ w'' h'' -
    refine kept_then (rebuildProfile_kept h'' options imageReference) (fun _ _ _ => trivial) ?_
    exact fun _ _ h₃ _ => kept_pure h₃ trivial

/-- The ledger backs what a rollback left. -/
def RolledBack (id : String) (error : PortFailure) (w : LedgerWorld) : Prop :=
  ∀ inst, error = .rolledBack inst → Backs w.ledger id inst.state

theorem Plain.rolledBack {id : String} {error : PortFailure} (h : Plain error) (w : LedgerWorld) : RolledBack id error w :=
  fun inst he => absurd he (h inst)

theorem recordRebuilt_kept (h : Good policy w) (actorUserId : Option String) {current : Container} {plan : RebuildPlan}
    {inst : ContainerInstance} (hinst : Backs w.ledger current.id inst.state) :
    Ends policy (recordRebuilt actorUserId current plan inst) (Kept policy Anything (RolledBack current.id)) w := by
  have hinst' : Backs w.ledger (retargeted current plan).id inst.state := hinst
  refine kept_look h rfl (fun e he => he.rolledBack w) fun _ => ?_
  refine kept_throwIf h ((plain_lifecycleError _).rolledBack w) fun _ => ?_
  refine kept_then (persistRuntimeInstance_kept h hinst' _ _ _) (fun e w' he => he.1.rolledBack w') ?_
  rintro updated w' h' -
  exact kept_look h' rfl (fun e he => he.rolledBack w') fun _ => kept_pure h' trivial

theorem rebuildRun_kept (h : Good policy w) (actorUserId : Option String) (options : RebuildOptions)
    (current : Container) (plan : RebuildPlan) :
    Ends policy (rebuildRun actorUserId options current plan) (Kept policy Anything (RolledBack current.id)) w := by
  change Ends policy (_ >>= _) _ _
  rw [Ends, ends_bind]
  refine ends_runtime (fun rebuilt hrebuilt => ?_) fun e he => ⟨h, fun inst hinst => (he inst hinst).1⟩
  rw [goes_ok]
  refine kept_look h rfl (fun e he => he.rolledBack w) fun _ => ?_
  dsimp only
  split
  · rw [Ends, ends_bind]
    exact ends_runtime (fun inst hinst => recordRebuilt_kept h actorUserId hinst)
      fun e he => ⟨h, fun inst hinst => (he inst hinst).1⟩
  · exact recordRebuilt_kept h actorUserId hrebuilt

theorem failure_kept (h : Good policy w) (current : Container) :
    Ends policy (recordFailure current) (Kept policy Anything Anything) w :=
  kept_weaken (recordFailure_kept h current) (fun _ _ _ => trivial) fun _ _ _ => trivial

theorem recordRecovered_kept (h : Good policy w) {current : Container} {plan : RebuildPlan}
    {found : Option ContainerInstance} (hfound : ∀ inst, found = some inst → Backs w.ledger current.id inst.state) :
    Ends policy (recordRecovered current plan found) (Kept policy Anything Anything) w := by
  cases found with
  | none => exact failure_kept h current
  | some inst =>
    change Ends policy (if _ then _ else _) _ _
    split
    · refine kept_then (persistRuntimeInstance_kept h (hfound inst rfl) _ _ _) (fun _ _ _ => trivial) ?_
      exact fun _ _ h' _ => kept_pure h' trivial
    · exact failure_kept h current

theorem recoveredInstance_kept (h : Good policy w) {id : String} {error : PortFailure} (herror : RolledBack id error w) :
    Ends policy (recoveredInstance id error)
      (Kept policy (fun found w' => w' = w ∧ ∀ inst, found = some inst → Backs w.ledger id inst.state) Anything) w := by
  have hlook : Ends policy (port (.runtimeGet id))
      (Kept policy (fun found w' => w' = w ∧ ∀ inst, found = some inst → Backs w.ledger id inst.state) Anything) w :=
    ends_runtimeGet (fun found hfound => ⟨h, rfl, hfound⟩) fun _ _ => ⟨h, trivial⟩
  cases error with
  | rolledBack inst =>
    refine kept_pure h ⟨rfl, ?_⟩
    rintro _ ⟨⟩
    exact herror inst rfl
  | quota e => exact hlook
  | failure e => exact hlook

theorem rebuildFailed_kept (h : Good policy w) {current : Container} {plan : RebuildPlan} {error : PortFailure}
    (herror : RolledBack current.id error w) :
    Ends policy (rebuildFailed current plan error) (Kept policy Anything Anything) w := by
  refine kept_look h rfl (fun _ _ => trivial) fun reason => ?_
  cases reason with
  | some reason => exact kept_throw h trivial
  | none =>
    refine kept_then (A := Anything) (F := Anything) ?_ (fun _ _ _ => trivial)
      fun _ w' h' _ => kept_throw h' trivial
    refine ends_tryCatch (R := Kept policy Anything Anything) ?_ (fun _ _ h => h) ?_
    · refine kept_then (recoveredInstance_kept h herror) (fun _ _ _ => trivial) ?_
      rintro found w' - ⟨rfl, hfound⟩
      exact recordRecovered_kept h hfound
    · rintro e w' ⟨h', -⟩
      refine kept_look h' rfl (fun _ _ => trivial) fun reason => ?_
      cases reason with
      | some reason => exact kept_throw h' trivial
      | none => exact failure_kept h' current

theorem rebuildLocked_kept (h : Good policy w) (l : InstanceLifecycle) (id : String) (actorUserId : Option String)
    (options : RebuildOptions) : Ends policy (rebuildLocked l id actorUserId options) (Kept policy Anything Anything) w := by
  refine kept_look h rfl (fun _ _ => trivial) fun _ => kept_throwIf h trivial fun _ => ?_
  refine kept_look h rfl (fun _ _ => trivial) fun record => kept_look h rfl (fun _ _ => trivial) fun _ => ?_
  cases record with
  | none => exact kept_throw h trivial
  | some record =>
    refine kept_throwIf h trivial fun _ => ?_
    refine kept_then (waitForCreation_kept h _ record) (fun _ _ _ => trivial) ?_
    rintro settled w' - ⟨rfl, -, -⟩
    refine kept_then (rebuildSource_kept h options settled) (fun _ _ _ => trivial) ?_
    rintro current w₁ h₁ -
    refine kept_then (rebuildPlan_kept h₁ options _ current) (fun _ _ _ => trivial) ?_
    rintro plan w₂ h₂ -
    refine ends_tryCatch (rebuildRun_kept h₂ actorUserId options current plan) (fun _ _ hr => hr) ?_
    exact fun error w₃ hr => rebuildFailed_kept hr.1 hr.2

/-! ## Provisioning -/

theorem returnExisting_kept (h : Good policy w) (hpolicy : PolicySafe policy) (record : Container) (userId : String)
    (startExisting : Bool) :
    Ends policy (returnExisting record userId startExisting) (Kept policy Anything Anything) w := by
  refine kept_then (waitForCreation_kept h _ record) (fun _ _ _ => trivial) ?_
  rintro settled w' - ⟨rfl, -, -⟩
  refine kept_look h rfl (fun _ _ => trivial) fun _ => ?_
  refine kept_then (sync_kept h settled.id false) (fun _ _ _ => trivial) ?_
  rintro current w₁ h₁ -
  split
  · refine kept_then (start_kept h₁ hpolicy current.id false) (fun _ _ _ => trivial) ?_
    exact fun _ _ h₂ _ => kept_pure h₂ trivial
  · exact kept_pure h₁ trivial

/-- What a normalized request for an id that is its own normal form reserves. -/
theorem quotaRequest_normalized {id userId providerId : String} {memoryBytes cpuMillis pidsLimit : Nat}
    {request : QuotaReservationRequest} (hid : identifier (some id) = some id)
    (h : normalizeRequest (quotaRequest id userId providerId memoryBytes cpuMillis pidsLimit) = .ok request) :
    request.reservationId = id ∧ request.desiredState = .running := by
  unfold normalizeRequest quotaRequest at h
  dsimp only at h
  rw [hid] at h
  obtain ⟨reservationId, h₁, h⟩ := bind_ok h
  obtain ⟨_, -, h⟩ := bind_ok h
  obtain ⟨_, -, h⟩ := bind_ok h
  obtain ⟨desiredState, h₂, h⟩ := bind_ok h
  obtain ⟨_, -, h⟩ := bind_ok h
  obtain ⟨_, -, h⟩ := bind_ok h
  obtain ⟨_, -, h⟩ := bind_ok h
  obtain ⟨_, -, h⟩ := bind_ok h
  obtain ⟨_, -, h⟩ := bind_ok h
  obtain ⟨_, -, h⟩ := bind_ok h
  obtain ⟨_, -, h⟩ := bind_ok h
  cases h
  cases h₁
  cases h₂
  exact ⟨rfl, rfl⟩

theorem ends_reserve {request : QuotaRequestInput} {now : String} {Q : Except PortFailure QuotaReservation → LedgerWorld → Prop}
    (hgo : Q ((w.ledger.reserve policy request now).1.mapError .quota)
      { w with ledger := (w.ledger.reserve policy request now).2 })
    (hfail : ∀ e, Q (.error e) w) : Ends policy (port (.reserve request now)) Q w := by
  refine ends_await fun x r hx hr => ?_
  cases x with
  | go =>
    cases hr
    exact hgo
  | fails error =>
    obtain ⟨-, rfl⟩ := perform_fails hr
    exact hfail error
  | _ => cases hr

theorem reserve_kept (h : Good policy w) (hpolicy : PolicySafe policy) {id now : String} {input : QuotaRequestInput}
    (hinput : ∀ request, normalizeRequest input = .ok request →
      request.reservationId = id ∧ request.desiredState = .running) :
    Ends policy (port (.reserve input now)) (Kept policy (fun _ w' => Backs w'.ledger id .creating) Anything) w := by
  refine ends_reserve ?_ fun _ => ⟨h, trivial⟩
  have hsafe := h.safe.reserve hpolicy input now
  obtain ⟨-, e, he⟩ | ⟨request, hnormalize, hreserved⟩ := Admission.reserve_cases policy w.ledger input now
  · rw [he]
    exact ⟨h, trivial⟩
  obtain ⟨rfl, hrunning⟩ := hinput request hnormalize
  obtain ⟨hget, he⟩ | ⟨-, he⟩ := hreserved
  · rw [he]
    exact ⟨h, request, hget, hrunning⟩
  · rw [he] at hsafe ⊢
    exact ⟨h.set_running hrunning hsafe, request, w.ledger.get_set_self request, hrunning⟩

theorem ends_randomId {Q : Except PortFailure String → LedgerWorld → Prop}
    (hok : ∀ id, identifier (some id) = some id → Q (.ok id) w) (hfail : ∀ e, Q (.error e) w) :
    Ends policy (port .randomId) Q w := by
  refine ends_await fun x r hx hr => ?_
  cases x with
  | text value =>
    simp only [LedgerWorld.perform, LedgerWorld.go, LedgerWorld.answer] at hr
    split at hr
    · next hvalue =>
      cases hr
      exact hok value hvalue
    · cases hr
  | fails error =>
    obtain ⟨-, rfl⟩ := perform_fails hr
    exact hfail error
  | _ => cases hr

theorem ends_saveContainer {c : Container} {Q : Except PortFailure Unit → LedgerWorld → Prop}
    (hok : Q (.ok ()) (w.put c)) (hfail : ∀ e, Q (.error e) w) : Ends policy (port (.saveContainer c)) Q w := by
  refine ends_await fun x r hx hr => ?_
  cases x with
  | go =>
    cases hr
    exact hok
  | fails error =>
    obtain ⟨-, rfl⟩ := perform_fails hr
    exact hfail error
  | _ => cases hr

theorem saveReservation_kept (h : Good policy w) (userId : String) {pending : Container}
    (hpending : Backs w.ledger pending.id pending.status) :
    Ends policy (tryCatch (port (.saveContainer pending)) fun error => do
      releaseQuota pending.id userId
      throw error) (Kept policy Anything Anything) w := by
  refine ends_tryCatch (R := Kept policy Anything Anything) ?_ (fun _ _ h => h) ?_
  · exact ends_saveContainer ⟨h.put hpending, trivial⟩ fun _ => ⟨h, trivial⟩
  · rintro error w' ⟨h', -⟩
    refine kept_then (releaseQuota_kept h' pending.id userId) (fun _ _ _ => trivial) ?_
    exact fun _ _ h'' _ => kept_throw h'' trivial

theorem admitProvision_kept (h : Good policy w) (hpolicy : PolicySafe policy) (l : InstanceLifecycle)
    (userId appId : String) :
    Ends policy (admitProvision l userId appId) (Kept policy (fun r _ => r.pending.id = r.id) Anything) w := by
  refine kept_look h rfl (fun _ _ => trivial) fun limits => kept_look h rfl (fun _ _ => trivial) fun launchTarget =>
    kept_look h rfl (fun _ _ => trivial) fun all => ?_
  refine kept_throwIf h trivial fun _ => kept_throwIf h trivial fun _ => ?_
  rw [Ends, ends_bind]
  refine ends_randomId (fun id hid => ?_) fun _ => ⟨h, trivial⟩
  rw [goes_ok]
  refine kept_look h rfl (fun _ _ => trivial) fun providerId => ?_
  cases l.limits limits.resources with
  | none => exact kept_throw h trivial
  | some amounts =>
    obtain ⟨memoryBytes, cpuMillis⟩ := amounts
    refine kept_look h rfl (fun _ _ => trivial) fun reservedAt => ?_
    refine kept_then (reserve_kept h hpolicy fun request hrequest => quotaRequest_normalized hid hrequest)
      (fun _ _ _ => trivial) ?_
    rintro _ w' h' hbacks
    refine kept_look h' rfl (fun _ _ => trivial) fun now => ?_
    refine kept_then (saveReservation_kept h' userId hbacks) (fun _ _ _ => trivial) ?_
    exact fun _ _ h'' _ => kept_pure h'' rfl

theorem assertNoLiveWorkspaceForUser_kept (h : Good policy w) (userId : String) :
    Ends policy (assertNoLiveWorkspaceForUser userId) (Kept policy (fun _ w' => w' = w) Anything) w := by
  refine kept_look h rfl (fun _ _ => trivial) fun live => ?_
  exact ends_throwIf (fun _ => ⟨h, trivial⟩) fun _ => ⟨h, rfl⟩

theorem reserveProvision_kept (h : Good policy w) (hpolicy : PolicySafe policy) (l : InstanceLifecycle)
    (userId appId : String) (authorize : Bool) :
    Ends policy (reserveProvision l userId appId authorize) (Kept policy Reserved Anything) w := by
  refine kept_look h rfl (fun _ _ => trivial) fun existing => ?_
  cases existing with
  | some existing => exact kept_pure h trivial
  | none =>
    have hadmits : ∀ w', Good policy w' → Ends policy (do
        let reservation ← admitProvision l userId appId
        pure (.inl reservation)) (Kept policy Reserved Anything) w' := fun w' h' =>
      kept_then (admitProvision_kept h' hpolicy l userId appId) (fun _ _ _ => trivial)
        fun _ _ h'' hid => kept_pure h'' hid
    refine kept_then (assertNoLiveWorkspaceForUser_kept h userId) (fun _ _ _ => trivial) ?_
    rintro _ w' - rfl
    dsimp only
    split
    · exact kept_look h rfl (fun _ _ => trivial) fun _ => hadmits _ h
    · exact hadmits _ h

theorem provisionReserved_kept (h : Good policy w) (userId : String) {reservation : Reservation}
    (hid : reservation.pending.id = reservation.id) :
    Ends policy (provisionReserved userId reservation) (Kept policy Anything Anything) w := by
  refine kept_then (A := Anything) (F := Anything) ?_ (fun _ _ _ => trivial) ?_
  · refine ends_tryCatch (R := Kept policy Anything Anything) ?_ (fun _ _ h => h) ?_
    · rw [ends_bind]
      refine ends_runtime (fun inst hinst => ?_) fun _ _ => ⟨h, trivial⟩
      have hinst' : Backs w.ledger reservation.pending.id inst.state := by
        rw [hid]
        exact hinst
      exact kept_weaken (persistRuntimeInstance_kept h hinst' _ _ _) (fun _ _ _ => trivial) fun _ _ _ => trivial
    · rintro error w' ⟨h', -⟩
      refine kept_then (A := Anything) (F := Anything) ?_ (fun _ _ _ => trivial)
        fun _ _ h'' _ => kept_throw h'' trivial
      -- the release follows whether or not the failure was recorded
      change Ends policy (_ >>= _) _ _
      rw [Ends, ends_bind]
      refine ends_settle (ends_mono (failure_kept h' reservation.pending) fun r w₁ hr => ?_)
      cases r with
      | ok a =>
        refine kept_then (releaseQuota_kept hr.1 reservation.id userId) (fun _ _ _ => trivial) ?_
        exact fun _ _ h'' _ => kept_pure h'' trivial
      | error e =>
        refine kept_then (releaseQuota_kept hr.1 reservation.id userId) (fun _ _ _ => trivial) ?_
        exact fun _ _ h'' _ => kept_throw h'' trivial
  · rintro container w' h' -
    exact kept_look h' rfl (fun _ _ => trivial) fun _ => kept_pure h' trivial

theorem provisionForUser_kept (h : Good policy w) (hpolicy : PolicySafe policy) (l : InstanceLifecycle)
    (userId appId : String) (startExisting authorize : Bool) :
    Ends policy (provisionForUser l userId appId startExisting authorize) (Kept policy Anything Anything) w := by
  refine kept_look h rfl (fun _ _ => trivial) fun existing => ?_
  cases existing with
  | some existing => exact returnExisting_kept h hpolicy existing userId startExisting
  | none =>
    refine kept_then (assertNoLiveWorkspaceForUser_kept h userId) (fun _ _ _ => trivial) ?_
    rintro _ w' - rfl
    refine kept_then (reserveProvision_kept h hpolicy l userId appId authorize) (fun _ _ _ => trivial) ?_
    rintro reserved w₁ h₁ hreserved
    cases reserved with
    | inl reservation => exact provisionReserved_kept h₁ userId hreserved
    | inr existing => exact returnExisting_kept h₁ hpolicy existing userId startExisting

/-! ## Removing and sweeping -/

theorem ends_erase {o : PortOp} (id : String) {Q : Except PortFailure o.Answer → LedgerWorld → Prop}
    (ho : ∀ x r, w.go policy o x = some r → ∃ a, r = (.ok a, w.erase id)) (hok : ∀ a, Q (.ok a) (w.erase id))
    (hfail : ∀ e, Q (.error e) w) : Ends policy (port o) Q w := by
  refine ends_await fun x r hx hr => ?_
  by_cases hfails : ∃ error, x = .fails error
  · obtain ⟨error, rfl⟩ := hfails
    obtain ⟨-, rfl⟩ := perform_fails hr
    exact hfail error
  · have hgo : w.perform policy o x = w.go policy o x := by
      cases x <;> first | rfl | exact absurd ⟨_, rfl⟩ hfails
    obtain ⟨a, rfl⟩ := ho x r (hgo ▸ hr)
    exact hok a

theorem finishRemoval_kept (h : Good policy w) (id : String) (actorUserId : Option String) (ownerId : String) :
    Ends policy (finishRemoval id actorUserId ownerId) (Kept policy Anything Anything) w := by
  refine kept_then (releaseQuota_kept h id ownerId) (fun _ _ _ => trivial) ?_
  rintro _ w' h' -
  refine kept_look h' rfl (fun _ _ => trivial) fun _ => ?_
  exact ends_look rfl (fun _ => ⟨h', trivial⟩) fun _ _ => ⟨h', trivial⟩

theorem removeLocked_kept (h : Good policy w) (l : InstanceLifecycle) (id : String) (actorUserId : Option String) :
    Ends policy (removeLocked l id actorUserId) (Kept policy Anything Anything) w := by
  unfold removeLocked
  split
  · refine kept_look h rfl (fun _ _ => trivial) fun _ => ?_
    rw [Ends, ends_bind]
    refine ends_erase id ?_ (fun ownerId => ?_) fun _ => ⟨h, trivial⟩
    · intro x r hr
      cases x with
      | text ownerId =>
        cases hr
        exact ⟨ownerId, rfl⟩
      | _ => cases hr
    · exact finishRemoval_kept (h.erase id) id actorUserId ownerId
  · refine kept_then (requireContainer_kept h id) (fun _ _ _ => trivial) ?_
    rintro _ w' - ⟨rfl, -, -⟩
    refine kept_look h rfl (fun _ _ => trivial) fun record => ?_
    cases record with
    | none => exact kept_throw h trivial
    | some record =>
      refine kept_then (waitForCreation_kept h _ record) (fun _ _ _ => trivial) ?_
      rintro settled w' - ⟨rfl, -, -⟩
      refine kept_look h rfl (fun _ _ => trivial) fun _ => kept_look h rfl (fun _ _ => trivial) fun _ =>
        kept_look h rfl (fun _ _ => trivial) fun _ => ?_
      rw [Ends, ends_bind]
      refine ends_erase id ?_ (fun _ => ?_) fun _ => ⟨h, trivial⟩
      · intro x r hr
        cases x with
        | go =>
          cases hr
          exact ⟨(), rfl⟩
        | _ => cases hr
      · exact finishRemoval_kept (h.erase id) id actorUserId settled.userId

theorem ends_touchContainer {id touchedAt : String} {Q : Except PortFailure Unit → LedgerWorld → Prop}
    (hok : Q (.ok ()) (w.touch id touchedAt)) (hfail : ∀ e, Q (.error e) w) :
    Ends policy (port (.touchContainer id touchedAt)) Q w := by
  refine ends_await fun x r hx hr => ?_
  cases x with
  | go =>
    cases hr
    exact hok
  | fails error =>
    obtain ⟨-, rfl⟩ := perform_fails hr
    exact hfail error
  | _ => cases hr

theorem observeActivity_kept (h : Good policy w) (id : String) :
    Ends policy (observeActivity id) (Kept policy Anything Anything) w := by
  refine kept_look h rfl (fun _ _ => trivial) fun _ => kept_look h rfl (fun _ _ => trivial) fun sampledAt =>
    kept_look h rfl (fun _ _ => trivial) fun active => kept_look h rfl (fun _ _ => trivial) fun _ => ?_
  dsimp only
  split
  · rw [Ends, ends_bind]
    exact ends_touchContainer (kept_pure (h.touch id sampledAt) trivial) fun _ => ⟨h, trivial⟩
  · exact kept_pure h trivial

theorem sweepCandidate_kept (h : Good policy w) (hpolicy : PolicySafe policy) (limits : LifecyclePolicy)
    (sweptAt id : String) : Ends policy (sweepCandidate limits sweptAt id) (Kept policy Anything Anything) w := by
  refine kept_look h rfl (fun _ _ => trivial) fun claimed => ?_
  dsimp only
  split
  · refine kept_look h rfl (fun _ _ => trivial) fun _ => kept_look h rfl (fun _ _ => trivial) fun current =>
      kept_look h rfl (fun _ _ => trivial) fun _ => ?_
    cases current with
    | none => exact kept_pure h trivial
    | some current =>
      dsimp only
      split
      · exact kept_pure h trivial
      · have hrest : ∀ (active : Bool) (w' : LedgerWorld), Good policy w' → Ends policy
            (if active = true ∨ isIdle limits sweptAt current = false then pure ()
            else do
              let _ ← stopLocked id .idle
              port (.audit none "container.idle_stop" id current.userId)) (Kept policy Anything Anything) w' := by
          intro active w' h'
          split
          · exact kept_pure h' trivial
          · refine kept_then (stopLocked_kept h' hpolicy id .idle) (fun _ _ _ => trivial) ?_
            rintro _ w₁ h₁ -
            exact ends_look rfl (fun _ => ⟨h₁, trivial⟩) fun _ _ => ⟨h₁, trivial⟩
        split
        · refine kept_then (observeActivity_kept h id) (fun _ _ _ => trivial) ?_
          exact fun active w' h' _ => hrest active w' h'
        · exact hrest false w h
  · exact kept_pure h trivial

theorem sweepCandidates_kept (h : Good policy w) (hpolicy : PolicySafe policy) (limits : LifecyclePolicy)
    (sweptAt : String) (candidates : List Container) :
    Ends policy (sweepCandidates limits sweptAt candidates) (Kept policy Anything Anything) w := by
  induction candidates generalizing w with
  | nil => exact kept_pure h trivial
  | cons candidate candidates ih =>
    refine kept_then (A := Anything) (F := Anything) ?_ (fun _ _ _ => trivial) fun _ _ h' _ => ih h'
    refine ends_tryCatch (sweepCandidate_kept h hpolicy limits sweptAt candidate.id) (fun _ _ h => h) ?_
    exact fun _ _ hr => kept_pure hr.1 trivial

theorem sweepIdleContainers_kept (h : Good policy w) (hpolicy : PolicySafe policy) :
    Ends policy sweepIdleContainers (Kept policy Anything Anything) w := by
  refine kept_look h rfl (fun _ _ => trivial) fun limits => ?_
  split
  · exact kept_pure h trivial
  · refine kept_look h rfl (fun _ _ => trivial) fun sweptAt => kept_look h rfl (fun _ _ => trivial) fun all => ?_
    exact sweepCandidates_kept h hpolicy limits sweptAt _

theorem body_kept (h : Good policy w) (hpolicy : PolicySafe policy) (l : InstanceLifecycle) (asked : LifecycleCall) :
    Ends policy (asked.body l) (Kept policy Anything Anything) w := by
  have hrun : ∀ {α : Type} (p : PortTask α), Ends policy p (Kept policy Anything Anything) w →
      Ends policy (do let _ ← p) (Kept policy Anything Anything) w := fun p hp =>
    kept_then hp (fun _ _ _ => trivial) fun _ _ h' _ => kept_pure h' trivial
  cases asked with
  | provisionForUser userId appId startExisting authorize =>
    exact hrun _ (provisionForUser_kept h hpolicy l userId appId startExisting authorize)
  | sync id leaseHeld => exact hrun _ (sync_kept h id leaseHeld)
  | start id leaseHeld => exact hrun _ (start_kept h hpolicy id leaseHeld)
  | stop id reason leaseHeld => exact hrun _ (stop_kept h hpolicy id reason leaseHeld)
  | rebuild id actorUserId options =>
    exact hrun _ (withContainerLease_kept h (rebuildLocked_kept h l id actorUserId options))
  | remove id actorUserId leaseHeld => exact withContainerLease_kept h (removeLocked_kept h l id actorUserId)
  | sweepIdleContainers => exact sweepIdleContainers_kept h hpolicy

/-! ## Runs -/

/-- One operation after which the next one may come, with what its calls meet. -/
def operate (l : InstanceLifecycle) (policy : QuotaPolicy) (w : LedgerWorld) (asked : LifecycleCall × List PortChoice) :
    Option LedgerWorld :=
  match solo (LedgerWorld.perform policy) (asked.1.body l) w asked.2 with
  | some (_, w', []) => some w'
  | _ => none

/-- The calls of the operation meet nothing that parts the ledger from the records. -/
def GroundedOperation (l : InstanceLifecycle) (policy : QuotaPolicy) (w : LedgerWorld)
    (asked : LifecycleCall × List PortChoice) : Prop :=
  Meets (LedgerWorld.perform policy) Grounded (asked.1.body l) w asked.2

theorem Good.operate (h : Good policy w) (hpolicy : PolicySafe policy) {l : InstanceLifecycle}
    {asked : LifecycleCall × List PortChoice} (hgrounded : GroundedOperation l policy w asked)
    (hstep : operate l policy w asked = some w') : Good policy w' := by
  unfold Quota.operate at hstep
  split at hstep
  · rename_i r w₁ hsolo
    cases hstep
    have hkept := ends_solo (body_kept h hpolicy l asked.1) hgrounded hsolo
    cases r with
    | ok _ => exact hkept.1
    | error _ => exact hkept.1
  · cases hstep

theorem Good.new (available : Bool) : Good policy (LedgerWorld.new available) where
  agrees := fun _ c h => absurd h (Option.some_ne_none c).symm
  keyed := fun _ c h => absurd h (Option.some_ne_none c).symm
  safe := Admission.Safe.new available

def portal : InstanceLifecycle where
  deletesWorkspaces := false
  rebuilds := true
  limits := fun _ => some (1024, 500)

def portalQuota : QuotaPolicyInput where
  global := some fun
    | .runningInstances => some (.integer 1)
    | _ => none
  tenants := []
  users := []
  providers := []

def portalPolicy : LifecyclePolicy where
  maxTotalInstances := 2
  maxRunningInstances := 2
  resources := ⟨"1k", "0.5", 10⟩
  environment := []
  configFiles := []
  idleStopMinutes := 0
  detectNetworkActivity := false
  detectComputeActivity := false

def portalTarget : AppLaunchTarget where
  app := ⟨"app", "App", "", "none", .active, "", ""⟩
  version := ⟨none, "v1", "app", some 1, "1", "b1", [], none, none, none, .active, "", none⟩
  imageReference := "image"

/-- The instance as the runtime shows it in a state. -/
def portalInstance (state : ContainerStatus) : ContainerInstance where
  instanceId := "i"
  ownerId := "u"
  providerId := none
  runtimeId := "r"
  state := state
  endpoint := none
  createdAt := ""
  catalogSnapshot := none
  rebuildRecovered := false

/-- A provision that goes well. -/
def provisions : LifecycleCall × List PortChoice :=
  (.provisionForUser "u" "app" true false,
    [.go, .live none, .go, .live none, .policy portalPolicy, .target portalTarget, .go, .text "i", .text "docker",
      .text "2026-01-01T00:00:00.000Z", .go, .text "2026-01-01T00:00:00.000Z", .go,
      .shows (portalInstance .running), .go, .flag true, .text "2026-01-01T00:00:00.000Z", .go, .go])

/-- A stop that goes well. -/
def stops : LifecycleCall × List PortChoice :=
  (.stop "i" .manualUser true,
    [.go, .go, .go, .go, .found (some (portalInstance .running)), .go, .flag true, .text "2026-01-01T00:00:01.000Z", .go,
      .go, .shows (portalInstance .stopped), .go, .go, .flag true, .text "2026-01-01T00:00:02.000Z", .go])

/-- A rebuild of a stopped instance that asks for a running one. -/
def rebuildsRunning : LifecycleCall × List PortChoice :=
  (.rebuild "i" none ⟨false, none, some .running, none, true⟩,
    [.go, .go, .go, .go, .found (some (portalInstance .stopped)), .go, .flag true, .text "2026-01-01T00:00:03.000Z", .go,
      .flag true, .policy portalPolicy, .shows (portalInstance .running), .go, .go, .go, .flag true,
      .text "2026-01-01T00:00:04.000Z", .go, .go])

instance decidableGroundedOperation (l : InstanceLifecycle) (policy : QuotaPolicy) (w : LedgerWorld)
    (asked : LifecycleCall × List PortChoice) : Decidable (GroundedOperation l policy w asked) :=
  inferInstanceAs (Decidable (Meets _ _ _ _ _))

theorem exists_of_toOption {ε α : Type} {r : Except ε α} {P : α → Prop} [DecidablePred P]
    (h : (r.toOption.any fun a => decide (P a)) = true) : ∃ a, r = .ok a ∧ P a := by
  cases r with
  | error e => cases h
  | ok a => exact ⟨a, rfl, of_decide_eq_true h⟩

end OpenApp.Quota
