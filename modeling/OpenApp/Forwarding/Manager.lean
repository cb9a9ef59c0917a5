import OpenApp.Async.Machine
import OpenApp.Forwarding.Policy

/-!
# The managers over one store

Every Portal process has a manager that caches the policy. A task is one call of `get` or `update` on
a manager; it runs from one `await` to the next without being interrupted. What it awaits is answered
by the store in one step, and it goes on in a later one, so that other tasks may come in between.
-/

namespace OpenApp.Forwarding

/-! ## The store -/

structure Store where
  /-- every write is to the id `default` -/
  policy : Option ForwardingPolicy
  /-- of the key of the policy, if there is a row -/
  revision : Option Nat
  deriving DecidableEq

/-- `upsertForwardingPolicy`: the revision goes up with the policy. -/
def Store.upsertForwardingPolicy (store : Store) (policy : ForwardingPolicy) (expectedRevision : Option Nat)
    (updatedAt : String) : Except ForwardingError (ForwardingPolicy × Store) :=
  if expectedRevision.any (· ≠ store.revision.getD 0) then .error .revisionConflict
  else
    let updated := { policy with updatedAt := updatedAt }
    .ok (updated, { policy := some updated, revision := some (store.revision.getD 0 + 1) })

/-- The policy in force: the stored one, or the default. -/
def Store.inForce (settings : Settings) (store : Store) : ForwardingPolicy :=
  store.policy.getD (defaultPolicy settings)

/-! ## Managers and tasks -/

/-- The fields of a `ForwardingPolicyManager` that change. -/
structure Manager where
  current : Option ForwardingPolicy
  loadedAt : Option Nat
  revision : Option Nat
  cacheGeneration : Nat
  deriving DecidableEq

def Manager.new : Manager where
  current := none
  loadedAt := none
  revision := none
  cacheGeneration := 0

inductive Call
  | get
  | update (input : ForwardingPolicyInput) (actorUserId : String) (expectedRevision : Option Nat)
  | invalidate

/-- The variables of a `get` after its first line. -/
structure GetFrame where
  now : Nat
  generation : Nat

/-- Those of a turn of its loop, with the turns that are left. -/
structure LoopFrame extends GetFrame where
  revisionBefore : Option Nat
  turns : Nat

/-- Where a task stands: before its first line, at an `await` whose answer is out or there, or at its end. -/
inductive Progress
  | called
  | readingRevision (frame : GetFrame)
  | readRevision (frame : GetFrame) (revisionBefore : Option Nat)
  | listing (frame : LoopFrame)
  | listed (frame : LoopFrame) (stored : Option ForwardingPolicy)
  | rereading (frame : LoopFrame) (stored : Option ForwardingPolicy)
  | reread (frame : LoopFrame) (stored : Option ForwardingPolicy) (revisionAfter : Option Nat)
  /-- `await this.get()` in an update -/
  | got (current : ForwardingPolicy)
  | upserting (next : ForwardingPolicy)
  | upserted (updated : ForwardingPolicy)
  | checking
  | checked (revision : Option Nat)
  | returned (policy : Option ForwardingPolicy)
  | thrown (error : ForwardingError)

structure Task (μ : Type) where
  manager : μ
  call : Call
  progress : Progress

/-- What a step meets: the clock, the time the store writes, and whether the store fails. -/
structure Choice where
  now : Nat
  updatedAt : String
  fails : Bool

/-! ## What runs between two awaits -/

variable (settings : Settings)

/-- `get` returns, to its caller or into an update. -/
def getReturns (call : Call) (policy : ForwardingPolicy) : Progress :=
  match call with
  | .update .. => .got policy
  | _ => .returned (some policy)

def begin (m : Manager) (call : Call) (now : Nat) : Progress × Manager :=
  match call with
  | .invalidate => (.returned none, { m with loadedAt := none })
  | _ =>
    match m.current, m.loadedAt with
    | some current, some loadedAt =>
      -- the clock of the manager may go back
      if (now : Int) - loadedAt < settings.cacheTtlMs then (getReturns call current, m)
      else (.readingRevision { now := now, generation := m.cacheGeneration }, m)
    | _, _ => (.readingRevision { now := now, generation := m.cacheGeneration }, m)

def afterRevision (m : Manager) (call : Call) (frame : GetFrame) (revisionBefore : Option Nat) :
    Progress × Manager :=
  match m.current with
  | none => (.listing { frame with revisionBefore := revisionBefore, turns := 5 }, m)
  | some current =>
    if frame.generation ≠ m.cacheGeneration then (getReturns call current, m)
    else if revisionBefore.isSome ∧ m.revision = revisionBefore then
      (getReturns call current, { m with loadedAt := some frame.now })
    else (.listing { frame with revisionBefore := revisionBefore, turns := 5 }, m)

/-- A generation that changed while the task waited: the cache is from a later update. -/
def overtaken (m : Manager) (frame : GetFrame) : Option ForwardingPolicy :=
  if frame.generation ≠ m.cacheGeneration then m.current else none

def afterList (m : Manager) (call : Call) (frame : LoopFrame) (stored : Option ForwardingPolicy) : Progress :=
  match overtaken m frame.toGetFrame with
  | some current => getReturns call current
  | none =>
    match stored with
    | none => .rereading frame none
    | some policy =>
      match validateTargetBaseUrl settings policy.targetBaseUrl with
      | .error e => .thrown e
      | .ok () => .rereading frame (some policy)

def afterReread (m : Manager) (call : Call) (frame : LoopFrame) (stored : Option ForwardingPolicy)
    (revisionAfter : Option Nat) : Progress × Manager :=
  match overtaken m frame.toGetFrame with
  | some current => (getReturns call current, m)
  | none =>
    if frame.revisionBefore ≠ revisionAfter then
      if frame.turns ≤ 1 then (.thrown (.policy "forwarding_policy_changed_during_read" 503), m)
      else (.listing { frame with revisionBefore := revisionAfter, turns := frame.turns - 1 }, m)
    else
      let next := stored.getD (defaultPolicy settings)
      (getReturns call next,
        { m with current := some next, loadedAt := some frame.now, revision := revisionAfter })

def afterGet (call : Call) (current : ForwardingPolicy) : Progress :=
  match call with
  | .update input actorUserId _ =>
    match nextPolicy settings input actorUserId current with
    | .error e => .thrown e
    | .ok next => .upserting next
  | _ => .returned (some current)

def afterUpsert (m : Manager) (updated : ForwardingPolicy) (now : Nat) : Manager :=
  { m with cacheGeneration := m.cacheGeneration + 1, current := some updated, loadedAt := some now }

def expectedRevision : Call → Option Nat
  | .update _ _ expectedRevision => expectedRevision
  | _ => none

/-! ## The machine -/

structure State (μ ι : Type) where
  store : Store
  managers : μ → Manager
  tasks : ι → Task μ

variable {μ ι : Type} [DecidableEq μ] [DecidableEq ι]

namespace State

def progress (s : State μ ι) (t : ι) (progress : Progress) : State μ ι :=
  { s with tasks := Function.update s.tasks t { s.tasks t with progress := progress } }

def manager (s : State μ ι) (t : ι) : Manager :=
  s.managers (s.tasks t).manager

/-- A task goes on to its next `await`, and leaves its manager so. -/
def leave (s : State μ ι) (t : ι) (r : Progress × Manager) : State μ ι :=
  { s.progress t r.1 with managers := Function.update s.managers (s.tasks t).manager r.2 }

end State

def step (s : State μ ι) (label : ι × Choice) : Option (State μ ι) :=
  let t := label.1
  let x := label.2
  let call := (s.tasks t).call
  match (s.tasks t).progress with
  | .called => some (s.leave t (begin settings (s.manager t) call x.now))
  | .readingRevision frame =>
    some (s.progress t (if x.fails then .thrown .store else .readRevision frame s.store.revision))
  | .readRevision frame revisionBefore => some (s.leave t (afterRevision (s.manager t) call frame revisionBefore))
  | .listing frame => some (s.progress t (if x.fails then .thrown .store else .listed frame s.store.policy))
  | .listed frame stored => some (s.progress t (afterList settings (s.manager t) call frame stored))
  | .rereading frame stored =>
    some (s.progress t (if x.fails then .thrown .store else .reread frame stored s.store.revision))
  | .reread frame stored revisionAfter =>
    some (s.leave t (afterReread settings (s.manager t) call frame stored revisionAfter))
  | .got current => some (s.progress t (afterGet settings call current))
  | .upserting next =>
    if x.fails then some (s.progress t (.thrown .store))
    else
      match s.store.upsertForwardingPolicy next (expectedRevision call) x.updatedAt with
      | .error e => some (s.progress t (.thrown e))
      | .ok (updated, store) => some { s.progress t (.upserted updated) with store := store }
  | .upserted updated => some (s.leave t (.checking, afterUpsert (s.manager t) updated x.now))
  | .checking => some (s.progress t (if x.fails then .thrown .store else .checked s.store.revision))
  | .checked revision =>
    some (s.leave t (.returned (s.manager t).current, { s.manager t with revision := revision }))
  | .returned _ => none
  | .thrown _ => none

/-- Any store, managers that have loaded nothing, and any calls on them. -/
def start (store : Store) (calls : ι → μ × Call) : State μ ι where
  store := store
  managers _ := .new
  tasks t := { manager := (calls t).1, call := (calls t).2, progress := .called }

end OpenApp.Forwarding
