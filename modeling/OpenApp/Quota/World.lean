import OpenApp.Quota.Lifecycle
import OpenApp.Quota.Safety

/-!
# The records and the ledger

What the operations of the lifecycle run on, and when the records and the ledger agree: every
instance that is recorded as running or being created has a reservation that lets it run, and every
one recorded as stopped a reservation.
-/

namespace OpenApp.Quota

open Async Async.Prog Script

/-! ## The world of an operation -/

structure LedgerWorld where
  containers : Map Container
  ledger : Admission

inductive PortChoice
  /-- the call does what it does -/
  | go
  | fails (error : PortFailure)
  | flag (value : Bool)
  | text (value : String)
  | policy (policy : LifecyclePolicy)
  | target (target : AppLaunchTarget)
  | live (projection : Option WorkspaceExecutionProjection)
  | reason (reason : Option Failure)
  | found (inst : Option ContainerInstance)
  | shows (inst : ContainerInstance)

namespace LedgerWorld

def new (available : Bool) : LedgerWorld where
  containers := ⟨[]⟩
  ledger := Admission.new available

/-- What is stored of a record that is saved or updated. -/
def put (w : LedgerWorld) (container : Container) : LedgerWorld :=
  { w with containers := w.containers.set container.id { container with
      lastActivityAt :=
        match w.containers.get container.id with
        | some current => latestTimestamp current.lastActivityAt container.lastActivityAt
        | none => container.lastActivityAt } }

def touch (w : LedgerWorld) (id touchedAt : String) : LedgerWorld :=
  match w.containers.get id with
  | some current => { w with containers := w.containers.set id { current with lastActivityAt := touchedAt } }
  | none => w

def erase (w : LedgerWorld) (id : String) : LedgerWorld :=
  { w with containers := ⟨w.containers.entries.filter fun e => e.1 ≠ id⟩ }

/-- Only the runtime says that it rolled back. -/
def mayThrow : PortOp → PortFailure → Bool
  | .runtime _, _ | .runtimeGet _, _ => true
  | _, .rolledBack _ => false
  | _, _ => true

/-- What a call of the ledger gives. -/
def settled {α : Type} (w : LedgerWorld) (r : Except QuotaAdmissionError α × Admission) :
    Option (Except PortFailure α × LedgerWorld) :=
  some (r.1.mapError .quota, { w with ledger := r.2 })

/-- What a call gets that changes neither the records nor the ledger. -/
def answer (w : LedgerWorld) : (o : PortOp) → PortChoice → Option o.Answer
  | .getContainer id, .go => some (w.containers.get id)
  | .getContainerForUser userId, .go => some (w.containers.values.find? fun c => c.userId = userId)
  | .getLiveWorkspaceExecutionForUser _, .live projection => some projection
  | .listContainers, .go => some w.containers.values
  | .markUserAppInitialized _, .go => some ()
  | .getProvisioningPolicy, .policy policy => some policy
  | .getLaunchTarget _, .target target => some target
  | .isCatalogSnapshotValid _, .flag value => some value
  | .authorizeApp _, .go => some ()
  | .providerIdForApp _, .text value => some value
  | .claimMaintenance _, .flag value => some value
  | .throwIfAborted, .go => some ()
  | .aborted, .reason reason => some reason
  | .now, .text value => some value
  -- the text of a UUID is its own normal form
  | .randomId, .text value => if identifier (some value) = some value then some value else none
  | .sleep, .go => some ()
  | .beforeDeadline, .flag value => some value
  | .audit _ _ _ _, .go => some ()
  | .runtime _, .shows inst => some inst
  | .runtimeRemove _ _, .go => some ()
  | .runtimeGet _, .found inst => some inst
  | .sampleActivity _, .flag value => some value
  | _, _ => none

def go (policy : QuotaPolicy) (w : LedgerWorld) : (o : PortOp) → PortChoice →
    Option (Except PortFailure o.Answer × LedgerWorld)
  | .saveContainer container, .go => some (.ok (), w.put container)
  | .updateContainer container, .go => some (.ok (), w.put container)
  | .touchContainer id touchedAt, .go => some (.ok (), w.touch id touchedAt)
  | .deleteContainer id, .go => some (.ok (), w.erase id)
  | .deleteWorkspace id, .text ownerId => some (.ok ownerId, w.erase id)
  | .reserve request now, .go => w.settled (w.ledger.reserve policy request now)
  | .transition reservationId desiredState, .go => w.settled (w.ledger.transition policy reservationId desiredState)
  | .release reservationId, .go => w.settled (.ok (w.ledger.release reservationId).1, (w.ledger.release reservationId).2)
  | o, x => (w.answer o x).map fun a => (.ok a, w)

def perform (policy : QuotaPolicy) (w : LedgerWorld) (o : PortOp) (x : PortChoice) :
    Option (Except PortFailure o.Answer × LedgerWorld) :=
  match x with
  | .fails error => if mayThrow o error then some (.error error, w) else none
  | x => w.go policy o x

end LedgerWorld

/-! ## Agreement -/

/-- The ledger has the reservation an instance in this state needs. -/
def Backs (ledger : Admission) (id : String) : ContainerStatus → Prop
  | .running | .creating => ∃ r, ledger.get id = some r ∧ r.desiredState = .running
  | .stopped => (ledger.get id).isSome = true
  | .failed => True

def LedgerWorld.Agrees (w : LedgerWorld) : Prop :=
  ∀ id c, w.containers.get id = some c → Backs w.ledger id c.status

instance decidableBacks (ledger : Admission) (id : String) (status : ContainerStatus) :
    Decidable (Backs ledger id status) :=
  have hrunning : Decidable (∃ r, ledger.get id = some r ∧ r.desiredState = .running) :=
    decidable_of_iff ((ledger.get id).any fun r => r.desiredState = .running) (by simp [Option.any_eq_true])
  match status with
  | .running => hrunning
  | .creating => hrunning
  | .stopped => inferInstanceAs (Decidable (_ = _))
  | .failed => isTrue trivial

theorem getEntry_mem {α : Type} {l : List (String × α)} {k : String} {v : α} (h : Map.getEntry k l = some v) :
    k ∈ l.map Prod.fst := by
  induction l with
  | nil => cases h
  | cons e rest ih =>
    obtain ⟨k', v'⟩ := e
    unfold Map.getEntry at h
    split at h
    · simp [*]
    · exact List.mem_cons_of_mem _ (ih h)

instance decidableAgrees (w : LedgerWorld) : Decidable w.Agrees :=
  decidable_of_iff (∀ id ∈ w.containers.entries.map Prod.fst, ∀ c ∈ w.containers.get id, Backs w.ledger id c.status)
    ⟨fun h id c hget => h id (getEntry_mem hget) c hget, fun h id _ c hget => h id c hget⟩

/-- The instance a call to the runtime is about, and what it shows of it. -/
def shown : PortOp → PortChoice → Option (String × ContainerInstance)
  | .runtime asked, .shows inst | .runtime asked, .fails (.rolledBack inst) => some (asked.instanceId, inst)
  | .runtimeGet id, .found (some inst) | .runtimeGet id, .fails (.rolledBack inst) => some (id, inst)
  | _, _ => none

/-- What a start that was rolled back left of the instance. -/
def restored : PortOp → PortChoice → Option ContainerInstance
  | .runtime (.start _), .fails (.rolledBack inst) => some inst
  | _, _ => none

/-- The reservation that is given up. -/
def released : PortOp → PortChoice → Option String
  | .release id, .go => some id
  | _, _ => none

/-- What a call meets would end a stop halfway: a failure of any call but the stop itself, or a
result of the stop that cannot be recorded. -/
def disturbs (w : LedgerWorld) : PortOp → PortChoice → Bool
  | .throwIfAborted, .fails _ | .runtime (.stop _), .fails _ => false
  | _, .fails _ => true
  | .isCatalogSnapshotValid _, .flag valid => !valid
  | .runtime (.stop id), .shows inst => (w.containers.get id).any fun c => (mismatch c inst).isSome
  | _, _ => false

/-- What a call may meet for the ledger and the records to go on agreeing. -/
structure Grounded (w : LedgerWorld) (o : PortOp) (x : PortChoice) : Prop where
  /-- the ledger backs what the runtime shows -/
  backed : ∀ seen ∈ shown o x, Backs w.ledger seen.1 seen.2.state
  /-- a start that is rolled back does not leave the instance running -/
  stopped : ∀ inst ∈ restored o x, inst.state = .stopped ∨ inst.state = .failed
  /-- a reservation is given up when its record has failed or is gone -/
  released : ∀ id ∈ released o x, ∀ c ∈ w.containers.get id, c.status = .failed
  /-- once a stop has moved the quota, nothing gets in its way -/
  undisturbed : ¬ w.Agrees → disturbs w o x = false

instance decidableGrounded (w : LedgerWorld) (o : PortOp) (x : PortChoice) : Decidable (Grounded w o x) :=
  decidable_of_iff
    ((∀ seen ∈ shown o x, Backs w.ledger seen.1 seen.2.state) ∧
      (∀ inst ∈ restored o x, inst.state = .stopped ∨ inst.state = .failed) ∧
      (∀ id ∈ released o x, ∀ c ∈ w.containers.get id, c.status = .failed) ∧
      (¬ w.Agrees → disturbs w o x = false))
    ⟨fun ⟨h₁, h₂, h₃, h₄⟩ => ⟨h₁, h₂, h₃, h₄⟩, fun ⟨h₁, h₂, h₃, h₄⟩ => ⟨h₁, h₂, h₃, h₄⟩⟩

/-! ## What an operation keeps -/

/-- What holds between two operations. -/
structure Good (policy : QuotaPolicy) (w : LedgerWorld) : Prop where
  agrees : w.Agrees
  keyed : ∀ id c, w.containers.get id = some c → c.id = id
  safe : w.ledger.Safe policy

/-- The record as it is stored, but for the time of its last activity. -/
def Stored (w : LedgerWorld) (c : Container) : Prop :=
  ∃ lastActivityAt, w.containers.get c.id = some { c with lastActivityAt := lastActivityAt }

variable {policy : QuotaPolicy} {w w' : LedgerWorld} {α β : Type}

theorem mapGet_erase (w : LedgerWorld) (id id' : String) :
    (w.erase id).containers.get id' = if id' = id then none else w.containers.get id' := by
  unfold LedgerWorld.erase Map.get
  dsimp only
  induction w.containers.entries with
  | nil => simp [Map.getEntry]
  | cons e rest ih =>
    obtain ⟨k, v⟩ := e
    rw [List.filter_cons]
    by_cases hk : k = id
    · subst hk
      by_cases h : id' = k
      · simp_all
      · simp_all [Map.getEntry]
    · by_cases h : id' = k
      · subst h
        simp [Map.getEntry, hk]
      · simp_all [Map.getEntry]

/-- A record that the ledger backs may be written, also in the place of one it does not back. -/
theorem Good.of_put (keyed : ∀ id c, w.containers.get id = some c → c.id = id) (safe : w.ledger.Safe policy)
    {c : Container} (hothers : ∀ id c', id ≠ c.id → w.containers.get id = some c' → Backs w.ledger id c'.status)
    (hc : Backs w.ledger c.id c.status) : Good policy (w.put c) where
  agrees := by
    intro id c' hget
    by_cases hid : id = c.id
    · subst hid
      rw [LedgerWorld.put, Map.get_set_self] at hget
      cases hget
      exact hc
    · rw [LedgerWorld.put, Map.get_set_of_ne _ _ hid] at hget
      exact hothers id c' hid hget
  keyed := by
    intro id c' hget
    by_cases hid : id = c.id
    · subst hid
      rw [LedgerWorld.put, Map.get_set_self] at hget
      cases hget
      rfl
    · rw [LedgerWorld.put, Map.get_set_of_ne _ _ hid] at hget
      exact keyed id c' hget
  safe := safe

theorem Good.put (h : Good policy w) {c : Container} (hc : Backs w.ledger c.id c.status) : Good policy (w.put c) :=
  .of_put h.keyed h.safe (fun id c' _ hget => h.agrees id c' hget) hc

theorem stored_put (w : LedgerWorld) (c : Container) : Stored (w.put c) c :=
  ⟨_, Map.get_set_self _ _ _⟩

theorem Good.touch (h : Good policy w) (id touchedAt : String) : Good policy (w.touch id touchedAt) := by
  unfold LedgerWorld.touch
  split
  · rename_i current hcurrent
    have hget : ∀ id' c, (w.containers.set id { current with lastActivityAt := touchedAt }).get id' = some c →
        ∃ c', w.containers.get id' = some c' ∧ c.id = c'.id ∧ c.status = c'.status := by
      intro id' c hc
      by_cases hid : id' = id
      · subst hid
        rw [Map.get_set_self] at hc
        cases hc
        exact ⟨current, hcurrent, rfl, rfl⟩
      · rw [Map.get_set_of_ne _ _ hid] at hc
        exact ⟨c, hc, rfl, rfl⟩
    refine ⟨?_, ?_, h.safe⟩
    · intro id' c hc
      obtain ⟨c', hc', -, hstatus⟩ := hget id' c hc
      rw [hstatus]
      exact h.agrees id' c' hc'
    · intro id' c hc
      obtain ⟨c', hc', hid, -⟩ := hget id' c hc
      exact hid.trans (h.keyed id' c' hc')
  · exact h

theorem Good.erase (h : Good policy w) (id : String) : Good policy (w.erase id) where
  agrees := by
    intro id' c hget
    rw [mapGet_erase] at hget
    split at hget
    · cases hget
    · exact h.agrees id' c hget
  keyed := by
    intro id' c hget
    rw [mapGet_erase] at hget
    split at hget
    · cases hget
    · exact h.keyed id' c hget
  safe := h.safe

/-- The ledger may change where no record needs what is lost. -/
theorem Good.withLedger (h : Good policy w) {ledger : Admission} (hsafe : ledger.Safe policy)
    (hbacks : ∀ id c, w.containers.get id = some c → Backs ledger id c.status) :
    Good policy { w with ledger := ledger } :=
  ⟨hbacks, h.keyed, hsafe⟩

/-! ## Calls -/

/-- A call that neither writes nor goes to the runtime. -/
def PortOp.looks : PortOp → Bool
  | .saveContainer _ | .updateContainer _ | .touchContainer _ _ | .deleteContainer _ | .deleteWorkspace _ => false
  | .reserve _ _ | .transition _ _ | .release _ => false
  | .runtime _ | .runtimeGet _ => false
  | _ => true

/-- The failure is not a rollback. -/
def Plain (error : PortFailure) : Prop :=
  ∀ inst, error ≠ .rolledBack inst

theorem perform_fails {o : PortOp} {error : PortFailure} {r : Except PortFailure o.Answer × LedgerWorld}
    (h : w.perform policy o (.fails error) = some r) :
    LedgerWorld.mayThrow o error = true ∧ r = (.error error, w) := by
  simp only [LedgerWorld.perform] at h
  split at h
  · exact ⟨‹_›, (Option.some.inj h).symm⟩
  · cases h

theorem perform_looks {o : PortOp} (ho : o.looks = true) {x : PortChoice}
    {r : Except PortFailure o.Answer × LedgerWorld} (h : w.perform policy o x = some r) :
    r.2 = w ∧ ∀ e, r.1 = .error e → Plain e := by
  have hgo : w.go policy o x = (w.answer o x).map fun a => (.ok a, w) := by
    cases o <;> first | rfl | cases ho
  by_cases hx : ∃ error, x = .fails error
  · obtain ⟨error, rfl⟩ := hx
    obtain ⟨hmay, rfl⟩ := perform_fails h
    refine ⟨rfl, ?_⟩
    rintro e he inst rfl
    cases he
    cases o <;> first | (cases hmay; done) | cases ho
  · have hperform : w.perform policy o x = w.go policy o x := by
      cases x <;> first | rfl | exact absurd ⟨_, rfl⟩ hx
    rw [hperform, hgo] at h
    obtain ⟨a, -, rfl⟩ := Option.map_eq_some_iff.1 h
    exact ⟨rfl, nofun⟩

section Rules

variable {Q : Except PortFailure α → LedgerWorld → Prop}

/-- The program ends so whatever its calls meet that keeps the ledger grounded. -/
abbrev Ends (policy : QuotaPolicy) (p : PortTask α) (Q : Except PortFailure α → LedgerWorld → Prop) (w : LedgerWorld) :
    Prop :=
  ends (LedgerWorld.perform policy) Grounded p Q w

theorem ends_look {o : PortOp} {Q : Except PortFailure o.Answer → LedgerWorld → Prop} (ho : o.looks = true)
    (hok : ∀ a, Q (.ok a) w) (hfail : ∀ e, Plain e → Q (.error e) w) : Ends policy (port o) Q w := by
  refine ends_await fun x r _ hr => ?_
  obtain ⟨hw, hplain⟩ := perform_looks ho hr
  rw [hw]
  cases hr' : r.1 with
  | ok a => exact hok a
  | error e => exact hfail e (hplain e hr')

theorem ends_getContainer {id : String} {Q : Except PortFailure (Option Container) → LedgerWorld → Prop}
    (hok : Q (.ok (w.containers.get id)) w) (hfail : ∀ e, Plain e → Q (.error e) w) :
    Ends policy (port (.getContainer id)) Q w := by
  refine ends_await fun x r _ hr => ?_
  cases x with
  | go =>
    cases hr
    exact hok
  | fails error =>
    obtain ⟨hmay, rfl⟩ := perform_fails hr
    refine hfail error ?_
    rintro inst rfl
    cases hmay
  | _ => cases hr

theorem ends_runtime {call : RuntimeCall} {Q : Except PortFailure ContainerInstance → LedgerWorld → Prop}
    (hok : ∀ inst, Backs w.ledger call.instanceId inst.state → Q (.ok inst) w)
    (hfail : ∀ e, (∀ inst, e = .rolledBack inst → Backs w.ledger call.instanceId inst.state ∧
      ∀ id, call = .start id → inst.state = .stopped ∨ inst.state = .failed) → Q (.error e) w) :
    Ends policy (port (.runtime call)) Q w := by
  refine ends_await fun x r hx hr => ?_
  cases x with
  | shows inst =>
    cases hr
    exact hok inst (hx.backed (_, inst) rfl)
  | fails error =>
    obtain ⟨-, rfl⟩ := perform_fails hr
    refine hfail error ?_
    rintro inst rfl
    refine ⟨hx.backed (_, inst) rfl, ?_⟩
    rintro id rfl
    exact hx.stopped inst rfl
  | _ => cases hr

theorem ends_runtimeGet {id : String} {Q : Except PortFailure (Option ContainerInstance) → LedgerWorld → Prop}
    (hok : ∀ found, (∀ inst, found = some inst → Backs w.ledger id inst.state) → Q (.ok found) w)
    (hfail : ∀ e, (∀ inst, e = .rolledBack inst → Backs w.ledger id inst.state) → Q (.error e) w) :
    Ends policy (port (.runtimeGet id)) Q w := by
  refine ends_await fun x r hx hr => ?_
  cases x with
  | found found =>
    cases hr
    refine hok found ?_
    rintro inst rfl
    exact hx.backed (_, inst) rfl
  | fails error =>
    obtain ⟨-, rfl⟩ := perform_fails hr
    refine hfail error ?_
    rintro inst rfl
    exact hx.backed (_, inst) rfl
  | _ => cases hr

theorem ends_updateContainer {c : Container} {Q : Except PortFailure Unit → LedgerWorld → Prop}
    (hok : Q (.ok ()) (w.put c)) (hfail : ∀ e, Plain e → Q (.error e) w) : Ends policy (port (.updateContainer c)) Q w := by
  refine ends_await fun x r _ hr => ?_
  cases x with
  | go =>
    cases hr
    exact hok
  | fails error =>
    obtain ⟨hmay, rfl⟩ := perform_fails hr
    refine hfail error ?_
    rintro inst rfl
    cases hmay
  | _ => cases hr

/-- The ledger and the records agree wherever the program ends, with `A` and `E` of its result. -/
def Kept (policy : QuotaPolicy) (A : α → LedgerWorld → Prop) (E : PortFailure → LedgerWorld → Prop) :
    Except PortFailure α → LedgerWorld → Prop
  | .ok a, w => Good policy w ∧ A a w
  | .error e, w => Good policy w ∧ E e w

abbrev Anything {γ : Type} (_ : γ) (_ : LedgerWorld) : Prop := True

variable {A : α → LedgerWorld → Prop} {B : β → LedgerWorld → Prop} {E F : PortFailure → LedgerWorld → Prop}

theorem kept_then {p : PortTask α} {f : α → PortTask β} (hp : Ends policy p (Kept policy A F) w)
    (hE : ∀ e w, F e w → E e w) (hf : ∀ a w, Good policy w → A a w → Ends policy (f a) (Kept policy B E) w) :
    Ends policy (p >>= f) (Kept policy B E) w :=
  ends_then hp (fun e w h => ⟨h.1, hE e w h.2⟩) fun a w h => hf a w h.1 h.2

theorem kept_look {o : PortOp} {f : o.Answer → PortTask β} (hw : Good policy w) (ho : o.looks = true)
    (hE : ∀ e, Plain e → E e w) (hf : ∀ a, Ends policy (f a) (Kept policy B E) w) :
    Ends policy (port o >>= f) (Kept policy B E) w := by
  rw [Ends, ends_bind]
  exact ends_look ho hf fun e he => ⟨hw, hE e he⟩

theorem kept_throw {e : PortFailure} (hw : Good policy w) (he : E e w) :
    Ends policy (throw e : PortTask α) (Kept policy A E) w :=
  ⟨hw, he⟩

theorem kept_pure {a : α} (hw : Good policy w) (ha : A a w) : Ends policy (pure a : PortTask α) (Kept policy A E) w :=
  ⟨hw, ha⟩

theorem kept_throwIf {c : Prop} [Decidable c] {e : PortFailure} {f : Unit → PortTask β} (hw : Good policy w)
    (he : E e w) (hf : ¬ c → Ends policy (f ()) (Kept policy B E) w) :
    Ends policy (throwIf c e >>= f) (Kept policy B E) w := by
  rw [Ends, ends_bind]
  exact ends_throwIf (fun _ => ⟨hw, he⟩) hf

theorem kept_weaken {p : PortTask α} (hp : Ends policy p (Kept policy A F) w) {A' : α → LedgerWorld → Prop}
    (hA : ∀ a w, A a w → A' a w) (hE : ∀ e w, F e w → E e w) : Ends policy p (Kept policy A' E) w := by
  refine ends_mono hp fun r w h => ?_
  cases r with
  | ok a => exact ⟨h.1, hA a w h.2⟩
  | error e => exact ⟨h.1, hE e w h.2⟩

end Rules

end OpenApp.Quota
