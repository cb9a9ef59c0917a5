import OpenApp.Quota.Admission
import OpenApp.Async.Machine
import Mathlib.Algebra.Order.BigOperators.Group.List
import Mathlib.Data.List.Nodup

/-!
# Quota safety

No scope of the policy ever holds more than its limits. A scope is what the operator wrote down: the
whole system, or one tenant, user or provider; the ledger knows it by its key only, and no two scopes
have one key. What is added up are numbers of the language, but below a limit they are exact.
-/

namespace OpenApp.Quota

open Script

/-! ## Scopes -/

inductive Scope
  | global
  | tenant (tenantId : String)
  | user (userId : String)
  | provider (providerId : String)
  deriving DecidableEq

namespace Scope

def key : Scope → String
  | global => "global"
  | tenant tenantId => "tenant:" ++ tenantId
  | user userId => "user:" ++ userId
  | provider providerId => "provider:" ++ providerId

/-- The limits the policy has for the scope; `none` if it does not name it. -/
def limits (policy : QuotaPolicy) : Scope → Option (QuotaLimits Nat)
  | global => policy.global
  | tenant tenantId => policy.tenants.get tenantId
  | user userId => policy.users.get userId
  | provider providerId => policy.providers.get providerId

/-- The request falls in the scope. -/
def covers (scope : Scope) (request : QuotaReservationRequest) : Bool :=
  match scope with
  | global => true
  | tenant tenantId => request.tenantId = some tenantId
  | user userId => request.userId = userId
  | provider providerId => request.providerId = providerId

theorem key_injective {a b : Scope} (h : a.key = b.key) : a = b := by
  have hlist := congrArg String.toList h
  clear h
  cases a <;> cases b <;> simp [key] at hlist ⊢ <;> exact String.toList_injective hlist

end Scope

theorem mem_scopesFor {request : QuotaReservationRequest} {policy : QuotaPolicy} {entry : QuotaScope} :
    entry ∈ scopesFor request policy ↔
      ∃ scope : Scope, scope.covers request ∧ scope.limits policy = some entry.limits ∧ entry.key = scope.key := by
  obtain ⟨key, limits⟩ := entry
  constructor
  · intro h
    simp only [scopesFor, List.mem_append, Option.mem_toList, Option.map_eq_some_iff,
      Option.bind_eq_some_iff] at h
    obtain ((⟨l, hl, he⟩ | ⟨tenantId, ht, l, hl, he⟩) | ⟨l, hl, he⟩) | ⟨l, hl, he⟩ := h <;> cases he
    · exact ⟨.global, rfl, hl, rfl⟩
    · exact ⟨.tenant tenantId, by simpa [Scope.covers] using ht, hl, rfl⟩
    · exact ⟨.user request.userId, by simp [Scope.covers], hl, rfl⟩
    · exact ⟨.provider request.providerId, by simp [Scope.covers], hl, rfl⟩
  · rintro ⟨scope, hcovers, hlimits, rfl⟩
    simp only [scopesFor, List.mem_append, Option.mem_toList, Option.map_eq_some_iff,
      Option.bind_eq_some_iff]
    cases scope with
    | global => exact .inl (.inl (.inl ⟨limits, hlimits, rfl⟩))
    | tenant tenantId =>
      refine .inl (.inl (.inr ⟨tenantId, ?_, limits, hlimits, rfl⟩))
      simpa [Scope.covers] using hcovers
    | user userId =>
      obtain rfl : request.userId = userId := by simpa [Scope.covers] using hcovers
      exact .inl (.inr ⟨limits, hlimits, rfl⟩)
    | provider providerId =>
      obtain rfl : request.providerId = providerId := by simpa [Scope.covers] using hcovers
      exact .inr ⟨limits, hlimits, rfl⟩

/-- A scope of the policy is among those of a request by its key exactly when it covers it. -/
theorem any_key {scope : Scope} {policy : QuotaPolicy} {limits : QuotaLimits Nat}
    (h : scope.limits policy = some limits) (request : QuotaReservationRequest) :
    (scopesFor request policy).any (·.key = scope.key) = scope.covers request := by
  rw [Bool.eq_iff_iff, List.any_eq_true]
  constructor
  · rintro ⟨entry, hmem, hkey⟩
    obtain ⟨scope', hcovers, -, hkey'⟩ := mem_scopesFor.1 hmem
    obtain rfl : scope' = scope := by
      apply Scope.key_injective
      rw [← hkey']
      simpa using hkey
    exact hcovers
  · intro hcovers
    exact ⟨⟨scope.key, limits⟩, mem_scopesFor.2 ⟨scope, hcovers, h, rfl⟩, by simp⟩

/-! ## Limits are safe integers -/

def LimitsSafe (limits : QuotaLimits Nat) : Prop :=
  ∀ dimension, ∀ limit ∈ limits dimension, limit ≤ Number.maxSafeInteger

def PolicySafe (policy : QuotaPolicy) : Prop :=
  ∀ scope : Scope, ∀ limits ∈ scope.limits policy, LimitsSafe limits

theorem optional_ok {α β : Type} {f : α → Except QuotaAdmissionError β} {o : Option α} {r : Option β}
    (h : optional f o = .ok r) : ∀ b ∈ r, ∃ a, f a = .ok b := by
  intro b hb
  cases o with
  | none => cases h; cases hb
  | some a =>
    simp only [optional] at h
    cases hf : f a with
    | error e => rw [hf] at h; cases h
    | ok b' =>
      rw [hf] at h
      cases h
      cases hb
      exact ⟨a, hf⟩

theorem nonNegativeInteger_le {value : Numeric} {n : Nat} (h : nonNegativeInteger value = .ok n) :
    n ≤ Number.maxSafeInteger := by
  cases value with
  | other => cases h
  | integer i =>
    simp only [nonNegativeInteger] at h
    split at h
    · cases h
      omega
    · cases h

theorem bind_ok {α β : Type} {x : Except QuotaAdmissionError α} {f : α → Except QuotaAdmissionError β} {b : β}
    (h : x >>= f = .ok b) : ∃ a, x = .ok a ∧ f a = .ok b := by
  cases x with
  | error e => cases h
  | ok a => exact ⟨a, rfl, h⟩

theorem normalizeLimits_safe {limits : QuotaLimits Numeric} {limits' : QuotaLimits Nat}
    (h : normalizeLimits limits = .ok limits') : LimitsSafe limits' := by
  have hbound : ∀ {o : Option Numeric} {r : Option Nat}, optional nonNegativeInteger o = .ok r →
      ∀ n ∈ r, n ≤ Number.maxSafeInteger := fun ho n hn =>
    have ⟨_, ha⟩ := optional_ok ho n hn
    nonNegativeInteger_le ha
  unfold normalizeLimits at h
  obtain ⟨_, h₁, h⟩ := bind_ok h
  obtain ⟨_, h₂, h⟩ := bind_ok h
  obtain ⟨_, h₃, h⟩ := bind_ok h
  obtain ⟨_, h₄, h⟩ := bind_ok h
  obtain ⟨_, h₅, h⟩ := bind_ok h
  obtain ⟨_, h₆, h⟩ := bind_ok h
  obtain ⟨_, h₇, h⟩ := bind_ok h
  obtain ⟨_, h₈, h⟩ := bind_ok h
  cases h
  intro dimension
  cases dimension with
  | instances => exact hbound h₁
  | runningInstances => exact hbound h₂
  | cpuMillis => exact hbound h₃
  | memoryBytes => exact hbound h₄
  | pids => exact hbound h₅
  | volumeBytes => exact hbound h₆
  | concurrentBuilds => exact hbound h₇
  | rolloutConcurrency => exact hbound h₈

theorem get_set_safe {m : Map (QuotaLimits Nat)} {k : String} {limits : QuotaLimits Nat}
    (hm : ∀ k, ∀ l ∈ m.get k, LimitsSafe l) (hlimits : LimitsSafe limits) :
    ∀ k', ∀ l ∈ (m.set k limits).get k', LimitsSafe l := by
  intro k' l hl
  by_cases hk : k' = k
  · subst hk
    rw [Map.get_set_self] at hl
    cases hl
    exact hlimits
  · rw [Map.get_set_of_ne m limits hk] at hl
    exact hm k' l hl

theorem normalizeMap_safe {values : List (String × QuotaLimits Numeric)} {m : Map (QuotaLimits Nat)}
    (h : normalizeMap values = .ok m) : ∀ k, ∀ l ∈ m.get k, LimitsSafe l := by
  have hfold : ∀ (values : List (String × QuotaLimits Numeric)) (m₀ : Map (QuotaLimits Nat)),
      (∀ k, ∀ l ∈ m₀.get k, LimitsSafe l) →
      values.foldlM (fun (result : Map (QuotaLimits Nat)) entry => do
        let key ← required (identifier (some entry.1))
        let limits ← normalizeLimits entry.2
        return result.set key limits) m₀ = .ok m →
      ∀ k, ∀ l ∈ m.get k, LimitsSafe l := by
    intro values
    induction values with
    | nil =>
      intro m₀ h₀ h
      cases h
      exact h₀
    | cons entry values ih =>
      intro m₀ h₀ h
      rw [List.foldlM_cons] at h
      obtain ⟨m₁, h₁, h⟩ := bind_ok h
      obtain ⟨key, -, h₁⟩ := bind_ok h₁
      obtain ⟨limits, hlimits, h₁⟩ := bind_ok h₁
      cases h₁
      exact ih _ (get_set_safe h₀ (normalizeLimits_safe hlimits)) h
  exact hfold values ⟨[]⟩ (by intro k l hl; cases hl) h

theorem normalizePolicy_safe {input : QuotaPolicyInput} {policy : QuotaPolicy}
    (h : normalizePolicy input = .ok policy) : PolicySafe policy := by
  unfold normalizePolicy at h
  obtain ⟨global, hglobal, h⟩ := bind_ok h
  obtain ⟨tenants, htenants, h⟩ := bind_ok h
  obtain ⟨users, husers, h⟩ := bind_ok h
  obtain ⟨providers, hproviders, h⟩ := bind_ok h
  cases h
  intro scope limits hlimits
  cases scope with
  | global =>
    obtain ⟨_, hl⟩ := optional_ok hglobal limits hlimits
    exact normalizeLimits_safe hl
  | tenant tenantId => exact normalizeMap_safe htenants tenantId limits hlimits
  | user userId => exact normalizeMap_safe husers userId limits hlimits
  | provider providerId => exact normalizeMap_safe hproviders providerId limits hlimits

/-- The answer is an error, or that the request is not admitted. -/
def QuotaAnswer.refused : QuotaAnswer → Bool
  | .threw _ | .decision (.denied ..) | .decision (.unavailable _) => true
  | _ => false

/-! ## What is in a scope -/

namespace Admission

variable {policy : QuotaPolicy} {s : Admission}

/-- What the live reservations of a scope add up to. -/
def total (s : Admission) (scope : Scope) (dimension : QuotaDimension) : Nat :=
  ((s.reservations.filter fun r => scope.covers r).map (contributionFor · dimension)).sum

/-- No limit of the policy is exceeded. -/
def Within (policy : QuotaPolicy) (s : Admission) : Prop :=
  ∀ scope : Scope, ∀ limits ∈ scope.limits policy, ∀ dimension, ∀ limit ∈ limits dimension,
    s.total scope dimension ≤ limit

/-- What one request adds to a scope. -/
def weight (scope : Scope) (dimension : QuotaDimension) (request : QuotaReservationRequest) : Nat :=
  if scope.covers request then contributionFor request dimension else 0

theorem total_eq (s : Admission) (scope : Scope) (dimension : QuotaDimension) :
    s.total scope dimension = (s.reservations.map (weight scope dimension)).sum := by
  unfold total
  induction s.reservations with
  | nil => rfl
  | cons r rest ih =>
    rw [List.map_cons, List.sum_cons, ← ih, List.filter_cons, weight]
    split
    · rw [List.map_cons, List.sum_cons]
    · rw [Nat.zero_add]

/-- The ledger without one reservation. -/
def except (s : Admission) : Option String → Admission
  | none => s
  | some reservationId => s.delete reservationId

theorem except_reservations (s : Admission) (excluding : Option String) :
    (s.except excluding).reservations = s.reservations.filter fun r => some r.reservationId ≠ excluding := by
  cases excluding with
  | none =>
    symm
    apply List.filter_eq_self.2
    intro r _
    rfl
  | some reservationId => simp [except, delete]

theorem delete_total_le (s : Admission) (reservationId : String) (scope : Scope) (dimension : QuotaDimension) :
    (s.delete reservationId).total scope dimension ≤ s.total scope dimension := by
  rw [total_eq, total_eq]
  exact ((List.filter_sublist).map _).sum_le_sum fun _ _ => Nat.zero_le _

theorem except_total_le (s : Admission) (excluding : Option String) (scope : Scope) (dimension : QuotaDimension) :
    (s.except excluding).total scope dimension ≤ s.total scope dimension := by
  cases excluding with
  | none => exact Nat.le_refl _
  | some reservationId => exact s.delete_total_le reservationId scope dimension

/-- Below a limit the usage the code computes is the total. -/
theorem usageFor_eq {scope : Scope} {limits : QuotaLimits Nat} {dimension : QuotaDimension} {limit : Nat}
    (hpolicy : PolicySafe policy) (hwithin : s.Within policy) (hlimits : scope.limits policy = some limits)
    (hlimit : limits dimension = some limit) (excluding : Option String) :
    s.usageFor policy scope.key excluding dimension = (s.except excluding).total scope dimension := by
  have hmax : Number.maxSafeInteger < 2 ^ 53 := by decide
  have hsafe : limit ≤ Number.maxSafeInteger := hpolicy scope limits hlimits dimension limit hlimit
  have htotal : s.total scope dimension ≤ limit := hwithin scope limits hlimits dimension limit hlimit
  have hexcept := s.except_total_le excluding scope dimension
  have hfilter : (s.reservations.filter fun r =>
      decide (some r.reservationId ≠ excluding ∧ (scopesFor r policy).any (·.key = scope.key))) =
        (s.except excluding).reservations.filter fun r => scope.covers r := by
    rw [except_reservations, List.filter_filter]
    apply List.filter_congr
    intro r _
    rw [any_key hlimits, Bool.decide_and, Bool.and_comm, Bool.decide_eq_true]
  unfold usageFor
  rw [hfilter]
  exact Number.sum_exact (Nat.le_of_lt (by unfold total at hexcept htotal; omega))

/-- A request is not denied exactly when it fits in all of its scopes. -/
theorem findDenial_none {request : QuotaReservationRequest} {excluding : Option String}
    (hpolicy : PolicySafe policy) (hwithin : s.Within policy) :
    s.findDenial policy request excluding = none ↔
      ∀ scope : Scope, scope.covers request → ∀ limits ∈ scope.limits policy, ∀ dimension,
        ∀ limit ∈ limits dimension,
          (s.except excluding).total scope dimension + contributionFor request dimension ≤ limit := by
  unfold findDenial
  simp only [List.findSome?_eq_none_iff]
  constructor
  · intro h scope hcovers limits hlimits dimension limit hlimit
    have hmem : dimension ∈ DIMENSIONS := by cases dimension <;> decide
    have hdim := h ⟨scope.key, limits⟩ (mem_scopesFor.2 ⟨scope, hcovers, hlimits, rfl⟩) dimension hmem
    rw [Option.mem_def] at hlimit
    dsimp only at hdim
    rw [hlimit, Option.bind_some] at hdim
    rw [usageFor_eq hpolicy hwithin hlimits hlimit] at hdim
    rw [← Number.add_le_iff (hpolicy scope limits hlimits dimension limit hlimit)]
    by_contra hgt
    rw [if_pos (by omega)] at hdim
    cases hdim
  · intro h entry hentry dimension _
    obtain ⟨scope, hcovers, hlimits, hkey⟩ := mem_scopesFor.1 hentry
    cases hlimit : entry.limits dimension with
    | none => rfl
    | some limit =>
      rw [Option.bind_some, hkey, usageFor_eq hpolicy hwithin hlimits hlimit, if_neg]
      rw [Nat.not_lt, Number.add_le_iff (hpolicy scope _ hlimits dimension limit hlimit)]
      exact h scope hcovers _ hlimits dimension limit hlimit

/-! ## What a call changes -/

theorem get_id {reservationId : String} {request : QuotaReservationRequest}
    (h : s.get reservationId = some request) : request.reservationId = reservationId := by
  simpa using List.find?_some h

theorem get_mem {reservationId : String} {request : QuotaReservationRequest}
    (h : s.get reservationId = some request) : request ∈ s.reservations :=
  List.mem_of_find?_eq_some h

theorem set_reservations_of_none {request : QuotaReservationRequest} (h : s.get request.reservationId = none) :
    (s.set request).reservations = s.reservations ++ [request] := by
  simp [set, h]

theorem set_reservations_of_some {request current : QuotaReservationRequest}
    (h : s.get request.reservationId = some current) :
    (s.set request).reservations =
      s.reservations.map fun r => if r.reservationId = request.reservationId then request else r := by
  simp [set, h]

theorem replace_id (request r : QuotaReservationRequest) :
    (if r.reservationId = request.reservationId then request else r).reservationId = r.reservationId := by
  split
  · exact Eq.symm ‹_›
  · rfl

theorem delete_of_none {reservationId : String} (h : s.get reservationId = none) : s.delete reservationId = s := by
  have hall : ∀ r ∈ s.reservations, r.reservationId ≠ reservationId := by
    simpa [get] using h
  have hfilter : (s.reservations.filter fun r => r.reservationId ≠ reservationId) = s.reservations :=
    List.filter_eq_self.2 fun r hr => by simpa using hall r hr
  unfold delete
  rw [hfilter]

/-- Every id has one reservation. -/
def Distinct (s : Admission) : Prop :=
  (s.reservations.map (·.reservationId)).Nodup

theorem Distinct.delete (h : s.Distinct) (reservationId : String) : (s.delete reservationId).Distinct :=
  h.sublist (List.filter_sublist.map _)

theorem Distinct.set (h : s.Distinct) (request : QuotaReservationRequest) : (s.set request).Distinct := by
  unfold Distinct
  cases hget : s.get request.reservationId with
  | none =>
    have hall : ∀ r ∈ s.reservations, r.reservationId ≠ request.reservationId := by
      simpa [Admission.get] using hget
    rw [set_reservations_of_none hget, List.map_append, List.nodup_append]
    refine ⟨h, List.pairwise_singleton _ _, ?_⟩
    rintro a ha b hb rfl
    obtain ⟨r, hr, rfl⟩ := List.mem_map.1 ha
    exact hall r hr (List.mem_singleton.1 hb)
  | some current =>
    rw [set_reservations_of_some hget, List.map_map]
    simp only [Function.comp_def, replace_id]
    exact h

/-- Of the elements with pairwise different keys one is replaced by another with its key. -/
theorem sum_replace {α : Type} (key : α → String) (weight : α → Nat) (a : α) {l : List α} (hl : (l.map key).Nodup)
    (hmem : key a ∈ l.map key) :
    ((l.map fun x => if key x = key a then a else x).map weight).sum =
      ((l.filter fun x => key x ≠ key a).map weight).sum + weight a := by
  induction l with
  | nil => cases hmem
  | cons x rest ih =>
    rw [List.map_cons, List.nodup_cons] at hl
    by_cases hx : key x = key a
    · -- the one with this key is here, so there is none in the rest
      have hrest : ∀ y ∈ rest, key y ≠ key a := fun y hy he => hl.1 (List.mem_map.2 ⟨y, hy, he.trans hx.symm⟩)
      have hmap : (rest.map fun y => if key y = key a then a else y) = rest :=
        (List.map_congr_left fun y hy => if_neg (hrest y hy)).trans (List.map_id rest)
      have hfilter : (rest.filter fun y => key y ≠ key a) = rest :=
        List.filter_eq_self.2 fun y hy => by simpa using hrest y hy
      rw [List.map_cons, if_pos hx, hmap, List.filter_cons, if_neg (by simpa using hx), hfilter, List.map_cons,
        List.sum_cons, Nat.add_comm]
    · have hmem' : key a ∈ rest.map key := by
        rw [List.map_cons] at hmem
        exact (List.mem_cons.1 hmem).resolve_left (Ne.symm hx)
      rw [List.map_cons, if_neg hx, List.filter_cons, if_pos (by simpa using hx), List.map_cons, List.map_cons,
        List.sum_cons, List.sum_cons, ih hl.2 hmem', Nat.add_assoc]

/-- A reservation that is written counts instead of the one its id had before. -/
theorem total_set (hdistinct : s.Distinct) (request : QuotaReservationRequest) (scope : Scope)
    (dimension : QuotaDimension) :
    (s.set request).total scope dimension =
      (s.delete request.reservationId).total scope dimension + weight scope dimension request := by
  rw [total_eq, total_eq]
  cases hget : s.get request.reservationId with
  | none =>
    rw [set_reservations_of_none hget, delete_of_none hget, List.map_append, List.sum_append]
    rfl
  | some current =>
    rw [set_reservations_of_some hget]
    exact sum_replace (fun r : QuotaReservationRequest => r.reservationId) (weight scope dimension) request hdistinct
      (List.mem_map.2 ⟨current, get_mem hget, get_id hget⟩)

/-! ## The invariant -/

/-- What every call keeps. -/
structure Safe (policy : QuotaPolicy) (s : Admission) : Prop where
  distinct : s.Distinct
  within : s.Within policy

theorem Safe.new (available : Bool) : Safe policy (Admission.new available) where
  distinct := List.nodup_nil
  within := fun _ _ _ _ _ _ => Nat.zero_le _

theorem Safe.delete (h : Safe policy s) (reservationId : String) : Safe policy (s.delete reservationId) where
  distinct := h.distinct.delete reservationId
  within := fun scope limits hlimits dimension limit hlimit =>
    Nat.le_trans (s.delete_total_le reservationId scope dimension) (h.within scope limits hlimits dimension limit hlimit)

/-- What was not denied may be written, in the place of what was left out of the count. -/
theorem Safe.set (h : Safe policy s) (hpolicy : PolicySafe policy) {request : QuotaReservationRequest}
    {excluding : Option String} (hexcluding : ∀ reservationId ∈ excluding, reservationId = request.reservationId)
    (hdenial : s.findDenial policy request excluding = none) : Safe policy (s.set request) where
  distinct := h.distinct.set request
  within := by
    intro scope limits hlimits dimension limit hlimit
    rw [total_set h.distinct, weight]
    split
    · rename_i hcovers
      have hfits := (findDenial_none hpolicy h.within).1 hdenial scope hcovers limits hlimits dimension limit hlimit
      have hle : (s.delete request.reservationId).total scope dimension ≤ (s.except excluding).total scope dimension := by
        cases excluding with
        | none => exact s.delete_total_le request.reservationId scope dimension
        | some reservationId =>
          rw [hexcluding reservationId rfl]
          exact Nat.le_refl _
      exact Nat.le_trans (Nat.add_le_add_right hle _) hfits
    · exact Nat.le_trans (s.delete_total_le request.reservationId scope dimension)
        (h.within scope limits hlimits dimension limit hlimit)

/-! ## The calls -/

/-- Nothing speaks against a request that is new. -/
structure Fits (policy : QuotaPolicy) (s : Admission) (request : QuotaReservationRequest) : Prop where
  fresh : s.get request.reservationId = none
  available : s.available = true
  undenied : s.findDenial policy request none = none

/-- The request is one that is there, or it fits. -/
def Grants (policy : QuotaPolicy) (s : Admission) (input : QuotaRequestInput) (request : QuotaReservationRequest) : Prop :=
  normalizeRequest input = .ok request ∧ (s.get request.reservationId = some request ∨ Fits policy s request)

theorem grants_iff {input : QuotaRequestInput} {request request' : QuotaReservationRequest}
    (h : normalizeRequest input = .ok request) :
    Grants policy s input request' ↔
      request = request' ∧ (s.get request.reservationId = some request ∨ Fits policy s request) := by
  unfold Grants
  rw [h, Except.ok.injEq]
  constructor
  · rintro ⟨rfl, h⟩
    exact ⟨rfl, h⟩
  · rintro ⟨rfl, h⟩
    exact ⟨rfl, h⟩

theorem admit_iff {input : QuotaRequestInput} {reservationId : String} :
    s.admits policy input = .ok (.admitted reservationId) ↔
      ∃ request, request.reservationId = reservationId ∧ Grants policy s input request := by
  unfold admits
  cases hnormalize : normalizeRequest input with
  | error e => simp [Grants, hnormalize]
  | ok request =>
    simp only [grants_iff hnormalize]
    cases hget : s.get request.reservationId with
    | some existing =>
      have hfits : ¬ Fits policy s request := fun h => by rw [h.fresh] at hget; cases hget
      by_cases he : existing = request
      · simp [he]
      · simp [he, hfits]
    | none =>
      cases havailable : s.available with
      | false =>
        have hfits : ¬ Fits policy s request := fun h => by rw [h.available] at havailable; cases havailable
        simp [hfits]
      | true =>
        cases hdenial : s.findDenial policy request none with
        | some denial =>
          have hfits : ¬ Fits policy s request := fun h => by rw [h.undenied] at hdenial; cases hdenial
          simp [hfits]
        | none =>
          have hfits : Fits policy s request := ⟨hget, havailable, hdenial⟩
          simp [hfits]

/-- What was not granted is refused, and the ledger stays; what was granted is there afterwards. -/
theorem reserve_cases (policy : QuotaPolicy) (s : Admission) (input : QuotaRequestInput) (now : String) :
    ((∀ request, ¬ Grants policy s input request) ∧ ∃ e, s.reserve policy input now = (.error e, s)) ∨
      ∃ request, normalizeRequest input = .ok request ∧
        ((s.get request.reservationId = some request ∧
            s.reserve policy input now = (.ok (reservationSnapshot request now), s)) ∨
          (Fits policy s request ∧
            s.reserve policy input now = (.ok (reservationSnapshot request now), s.set request))) := by
  unfold reserve
  cases hnormalize : normalizeRequest input with
  | error e => exact .inl ⟨by simp [Grants, hnormalize], e, rfl⟩
  | ok request =>
    simp only [grants_iff hnormalize]
    cases hget : s.get request.reservationId with
    | some existing =>
      have hfits : ¬ Fits policy s request := fun h => by rw [h.fresh] at hget; cases hget
      by_cases he : existing = request
      · subst he
        exact .inr ⟨existing, rfl, .inl ⟨hget, if_pos rfl⟩⟩
      · refine .inl ⟨?_, conflict, if_neg he⟩
        simp [he, hfits]
    | none =>
      cases havailable : s.available with
      | false =>
        have hfits : ¬ Fits policy s request := fun h => by rw [h.available] at havailable; cases havailable
        exact .inl ⟨by simp [hfits], unavailable, rfl⟩
      | true =>
        cases hdenial : s.findDenial policy request none with
        | some denial =>
          have hfits : ¬ Fits policy s request := fun h => by rw [h.undenied] at hdenial; cases hdenial
          exact .inl ⟨by simp [hfits], exceeded denial, rfl⟩
        | none => exact .inr ⟨request, rfl, .inr ⟨⟨hget, havailable, hdenial⟩, rfl⟩⟩

theorem transition_cases (policy : QuotaPolicy) (s : Admission) (reservationId : String)
    (desiredState : QuotaDesiredState) :
    (∃ r, s.transition policy reservationId desiredState = (r, s)) ∨
      ∃ current, s.get reservationId = some current ∧
        s.findDenial policy { current with desiredState := desiredState } (some reservationId) = none ∧
        s.transition policy reservationId desiredState = (.ok true, s.set { current with desiredState := desiredState }) := by
  unfold transition
  cases hget : s.get reservationId with
  | none => exact .inl ⟨_, rfl⟩
  | some current =>
    dsimp only
    by_cases hstate : current.desiredState = desiredState
    · exact .inl ⟨_, if_pos hstate⟩
    rw [if_neg hstate]
    by_cases havailable : s.available = false
    · exact .inl ⟨_, if_pos havailable⟩
    rw [if_neg havailable]
    cases hdenial : s.findDenial policy { current with desiredState := desiredState } (some reservationId) with
    | some denial => exact .inl ⟨_, rfl⟩
    | none => exact .inr ⟨current, rfl, hdenial, rfl⟩

theorem Safe.reserve (h : Safe policy s) (hpolicy : PolicySafe policy) (input : QuotaRequestInput) (now : String) :
    Safe policy (s.reserve policy input now).2 := by
  obtain ⟨-, e, he⟩ | ⟨request, -, ⟨-, he⟩ | ⟨hfits, he⟩⟩ := reserve_cases policy s input now
  · rw [he]
    exact h
  · rw [he]
    exact h
  · rw [he]
    exact h.set hpolicy (by rintro _ ⟨⟩) hfits.undenied

theorem Safe.transition (h : Safe policy s) (hpolicy : PolicySafe policy) (reservationId : String)
    (desiredState : QuotaDesiredState) : Safe policy (s.transition policy reservationId desiredState).2 := by
  obtain ⟨r, he⟩ | ⟨current, hget, hdenial, he⟩ := transition_cases policy s reservationId desiredState
  · rw [he]
    exact h
  · rw [he]
    refine h.set hpolicy ?_ hdenial
    rintro _ ⟨⟩
    exact (get_id hget).symm

theorem Safe.call (h : Safe policy s) (hpolicy : PolicySafe policy) (call : QuotaCall) :
    Safe policy (s.call policy call).2 := by
  cases call with
  | admits request => exact h
  | reserve request now => exact h.reserve hpolicy request now
  | transition reservationId desiredState => exact h.transition hpolicy reservationId desiredState
  | release reservationId => exact h.delete reservationId
  | setAvailable available => exact ⟨h.distinct, h.within⟩

theorem Safe.after (h : Safe policy s) (hpolicy : PolicySafe policy) (calls : List QuotaCall) :
    Safe policy (s.after policy calls) := by
  induction calls generalizing s with
  | nil => exact h
  | cons call calls ih => exact ih (h.call hpolicy call)

/-! ## What is refused changes nothing -/

theorem of_refused {α : Type} {f : α → QuotaAnswer} (hf : ∀ a, (f a).refused = false)
    {r : Except QuotaAdmissionError α} (h : (QuotaAnswer.of f r).refused = true) : ∃ e, r = .error e := by
  cases r with
  | ok a =>
    rw [QuotaAnswer.of, hf a] at h
    cases h
  | error e => exact ⟨e, rfl⟩

theorem call_reserve (policy : QuotaPolicy) (s : Admission) (request : QuotaRequestInput) (now : String) :
    s.call policy (.reserve request now) =
      (.of .reservation (s.reserve policy request now).1, (s.reserve policy request now).2) := rfl

theorem call_transition (policy : QuotaPolicy) (s : Admission) (reservationId : String)
    (desiredState : QuotaDesiredState) :
    s.call policy (.transition reservationId desiredState) =
      (.of .done (s.transition policy reservationId desiredState).1,
        (s.transition policy reservationId desiredState).2) := rfl

theorem call_refused {call : QuotaCall} (h : (s.call policy call).1.refused = true) :
    (s.call policy call).2.reservations = s.reservations := by
  cases call with
  | admits request => rfl
  | reserve request now =>
    rw [call_reserve] at h ⊢
    obtain ⟨e, he⟩ := of_refused (fun _ => rfl) h
    obtain ⟨-, e', he'⟩ | ⟨request, -, ⟨-, he'⟩ | ⟨-, he'⟩⟩ := reserve_cases policy s request now
    · rw [he']
    · rw [he'] at he
      cases he
    · rw [he'] at he
      cases he
  | transition reservationId desiredState =>
    rw [call_transition] at h ⊢
    obtain ⟨e, he⟩ := of_refused (fun _ => rfl) h
    obtain ⟨r, he'⟩ | ⟨current, -, -, he'⟩ := transition_cases policy s reservationId desiredState
    · rw [he']
    · rw [he'] at he
      cases he
  | release reservationId => cases h
  | setAvailable available => rfl

/-! ## Stopping -/

theorem set_self (hdistinct : s.Distinct) {reservationId : String} {request : QuotaReservationRequest}
    (h : s.get reservationId = some request) : s.set request = s := by
  have hid := get_id h
  have hmap : (s.reservations.map fun r => if r.reservationId = request.reservationId then request else r) =
      s.reservations := by
    refine (List.map_congr_left fun r hr => ?_).trans (List.map_id _)
    split
    · exact (List.inj_on_of_nodup_map hdistinct hr (get_mem h) ‹_›).symm
    · rfl
  unfold set
  rw [hid, h, Option.isSome_some, if_pos rfl, ← hid, hmap]

theorem contributionFor_stopped_le (request : QuotaReservationRequest) (dimension : QuotaDimension) :
    contributionFor { request with desiredState := .stopped } dimension ≤ contributionFor request dimension := by
  cases dimension with
  | runningInstances => exact Nat.zero_le _
  | _ => exact Nat.le_refl _

/-- What is there and fits, fits once it is stopped. -/
theorem findDenial_stopped (h : Safe policy s) (hpolicy : PolicySafe policy) {reservationId : String}
    {current : QuotaReservationRequest} (hget : s.get reservationId = some current) :
    s.findDenial policy { current with desiredState := .stopped } (some reservationId) = none := by
  rw [findDenial_none hpolicy h.within]
  intro scope hcovers limits hlimits dimension limit hlimit
  have hcovers' : scope.covers current = true := by
    cases scope <;> exact hcovers
  have htotal := total_set h.distinct current scope dimension
  rw [set_self h.distinct hget, get_id hget, weight, if_pos hcovers'] at htotal
  calc (s.delete reservationId).total scope dimension + contributionFor { current with desiredState := .stopped } dimension
      ≤ (s.delete reservationId).total scope dimension + contributionFor current dimension :=
        Nat.add_le_add_left (contributionFor_stopped_le current dimension) _
    _ = s.total scope dimension := htotal.symm
    _ ≤ limit := h.within scope limits hlimits dimension limit hlimit

theorem transition_stopped (h : Safe policy s) (hpolicy : PolicySafe policy) {reservationId : String}
    {e : QuotaAdmissionError} (he : (s.transition policy reservationId .stopped).1 = .error e) : e = unavailable := by
  unfold transition at he
  cases hget : s.get reservationId with
  | none =>
    rw [hget] at he
    cases he
  | some current =>
    rw [hget] at he
    dsimp only at he
    rw [findDenial_stopped h hpolicy hget] at he
    split at he
    · cases he
    split at he
    · cases he
      rfl
    · cases he

/-! ## What stays -/

theorem get_set_self (s : Admission) (request : QuotaReservationRequest) :
    (s.set request).get request.reservationId = some request := by
  cases hget : s.get request.reservationId with
  | none =>
    have hfind : s.reservations.find? (fun r => r.reservationId = request.reservationId) = none := hget
    rw [get, set_reservations_of_none hget, List.find?_append, hfind]
    simp
  | some current =>
    have hfind : s.reservations.find? (fun r => r.reservationId = request.reservationId) = some current := hget
    rw [get, set_reservations_of_some hget, List.find?_map]
    simp only [Function.comp_def, replace_id]
    rw [hfind, Option.map_some, if_pos (get_id hget)]

theorem get_set_of_ne (s : Admission) {request : QuotaReservationRequest} {reservationId : String}
    (h : request.reservationId ≠ reservationId) : (s.set request).get reservationId = s.get reservationId := by
  cases hget : s.get request.reservationId with
  | none => simp [get, set_reservations_of_none hget, List.find?_append, h]
  | some current =>
    rw [get, set_reservations_of_some hget, List.find?_map]
    simp only [Function.comp_def, replace_id]
    change Option.map _ (s.get reservationId) = _
    cases hget' : s.get reservationId with
    | none => rfl
    | some r =>
      rw [Option.map_some, if_neg]
      rw [get_id hget']
      exact Ne.symm h

theorem get_delete_of_ne (s : Admission) {reservationId reservationId' : String} (h : reservationId ≠ reservationId') :
    (s.delete reservationId).get reservationId' = s.get reservationId' := by
  unfold get delete
  dsimp only
  rw [List.find?_filter]
  congr 1
  funext r
  by_cases hr : r.reservationId = reservationId'
  · simp [hr, Ne.symm h]
  · simp [hr]

/-! ## Stopping and starting again -/

theorem set_available (s : Admission) (request : QuotaReservationRequest) : (s.set request).available = s.available := by
  unfold set
  split <;> rfl

/-- A running reservation is stopped, unless the admission is out of reach. -/
theorem transition_stops {reservationId : String} {current : QuotaReservationRequest} (h : Safe policy s)
    (hpolicy : PolicySafe policy) (hget : s.get reservationId = some current) (hrunning : current.desiredState = .running) :
    s.transition policy reservationId .stopped = (.error unavailable, s) ∨
      (s.available = true ∧
        s.transition policy reservationId .stopped = (.ok true, s.set { current with desiredState := .stopped })) := by
  have hdenial := findDenial_stopped h hpolicy hget
  have hne : current.desiredState ≠ .stopped := by
    rw [hrunning]
    exact nofun
  unfold transition
  rw [hget]
  dsimp only
  rw [if_neg hne, hdenial]
  cases havailable : s.available with
  | false => exact .inl rfl
  | true => exact .inr ⟨rfl, rfl⟩

/-- What was just stopped fits again. -/
theorem transition_back {reservationId : String} {current stopped : QuotaReservationRequest} (h : Safe policy s)
    (hpolicy : PolicySafe policy) (hget : s.get reservationId = some current) (hrunning : current.desiredState = .running)
    (hstopped : stopped = { current with desiredState := .stopped }) (havailable : s.available = true) :
    (s.set stopped).transition policy reservationId .running = (.ok true, (s.set stopped).set current) := by
  obtain rfl := get_id hget
  have hback : { stopped with desiredState := .running } = current := by
    rw [hstopped, ← hrunning]
  have hid : stopped.reservationId = current.reservationId := by
    rw [hstopped]
  have hstate : stopped.desiredState ≠ .running := by
    rw [hstopped]
    exact nofun
  have hsafe : Safe policy (s.set stopped) := by
    refine h.set hpolicy ?_ (hstopped ▸ findDenial_stopped h hpolicy hget)
    rintro _ ⟨⟩
    exact hid.symm
  have hget' : (s.set stopped).get current.reservationId = some stopped := by
    rw [← hid]
    exact s.get_set_self stopped
  have hdenial : (s.set stopped).findDenial policy current (some current.reservationId) = none := by
    rw [findDenial_none hpolicy hsafe.within]
    intro scope hcovers limits hlimits dimension limit hlimit
    -- both ledgers are the same without this reservation
    have hwith := total_set h.distinct stopped scope dimension
    have hwithout := total_set hsafe.distinct stopped scope dimension
    have hbefore := total_set h.distinct current scope dimension
    have hwithin := h.within scope limits hlimits dimension limit hlimit
    rw [set_self hsafe.distinct hget', hid] at hwithout
    rw [hid] at hwith
    rw [set_self h.distinct hget, weight, if_pos hcovers] at hbefore
    change ((s.set stopped).delete current.reservationId).total scope dimension + _ ≤ _
    omega
  unfold transition
  rw [hget']
  dsimp only
  rw [if_neg hstate, set_available, havailable, if_neg (by exact nofun), hback, hdenial]

theorem transition_true {reservationId : String} {desiredState : QuotaDesiredState}
    (h : (s.transition policy reservationId desiredState).1 = .ok true) :
    ∃ request, (s.transition policy reservationId desiredState).2.get reservationId = some request ∧
      request.desiredState = desiredState := by
  unfold transition at h ⊢
  cases hget : s.get reservationId with
  | none =>
    rw [hget] at h
    cases h
  | some current =>
    rw [hget] at h
    dsimp only at h ⊢
    split at h
    · rw [if_pos ‹_›]
      exact ⟨current, hget, ‹_›⟩
    rw [if_neg ‹_›]
    split at h
    · cases h
    rw [if_neg ‹_›]
    split at h
    · cases h
    · have hself := s.get_set_self { current with desiredState := desiredState }
      rw [← get_id hget]
      exact ⟨_, hself, rfl⟩

/-! ## Calls in between -/

/-- The call neither releases the reservation nor takes it to another state. -/
def Leaves (policy : QuotaPolicy) (request : QuotaReservationRequest) (s : Admission) (call : QuotaCall) : Prop :=
  call ≠ .release request.reservationId ∧
    ∀ desiredState, call = .transition request.reservationId desiredState →
      desiredState = request.desiredState ∨ (s.call policy call).1.refused = true

theorem Leaves.get {request : QuotaReservationRequest} {call : QuotaCall} (hcall : Leaves policy request s call)
    (h : s.get request.reservationId = some request) :
    (s.call policy call).2.get request.reservationId = some request := by
  cases call with
  | admits input => exact h
  | reserve input now =>
    rw [call_reserve]
    obtain ⟨-, e, he⟩ | ⟨request', -, ⟨-, he⟩ | ⟨hfits, he⟩⟩ := reserve_cases policy s input now
    · rw [he]
      exact h
    · rw [he]
      exact h
    · rw [he]
      refine (s.get_set_of_ne ?_).trans h
      intro hid
      have hfresh := hfits.fresh
      rw [hid, h] at hfresh
      cases hfresh
  | transition reservationId desiredState =>
    rw [call_transition]
    obtain ⟨r, he⟩ | ⟨current, hget, -, he⟩ := transition_cases policy s reservationId desiredState
    · rw [he]
      exact h
    · rw [he]
      by_cases hid : reservationId = request.reservationId
      · -- the one state it may be taken to is the one it has
        subst hid
        obtain rfl : current = request := Option.some.inj (hget.symm.trans h)
        obtain rfl | hrefused := hcall.2 desiredState rfl
        · exact s.get_set_self current
        · rw [call_transition, he] at hrefused
          cases hrefused
      · refine (s.get_set_of_ne ?_).trans h
        dsimp only
        rw [get_id hget]
        exact hid
  | release reservationId =>
    refine (s.get_delete_of_ne ?_).trans h
    rintro rfl
    exact hcall.1 rfl
  | setAvailable available => exact h

theorem get_after {request : QuotaReservationRequest} {calls : List QuotaCall}
    (h : s.get request.reservationId = some request)
    (hcalls : Machine.Along (fun s call => some (s.call policy call).2) (Leaves policy request) s calls) :
    (s.after policy calls).get request.reservationId = some request := by
  induction calls generalizing s with
  | nil => exact h
  | cons call calls ih => exact ih (hcalls.1.get h) (hcalls.2 _ rfl)

theorem reserve_kept {input : QuotaRequestInput} {request : QuotaReservationRequest}
    (hnormalize : normalizeRequest input = .ok request) (h : s.get request.reservationId = some request) (now : String) :
    s.reserve policy input now = (.ok (reservationSnapshot request now), s) := by
  unfold reserve
  rw [hnormalize]
  dsimp only
  rw [h]
  exact if_pos rfl

theorem admit_iff_reserve (policy : QuotaPolicy) (s : Admission) (input : QuotaRequestInput) (now : String) :
    (∃ reservationId, s.admits policy input = .ok (.admitted reservationId)) ↔
      ∃ reservation, (s.reserve policy input now).1 = .ok reservation := by
  constructor
  · rintro ⟨reservationId, h⟩
    obtain ⟨request, -, hgrants⟩ := admit_iff.1 h
    obtain ⟨hnot, -⟩ | ⟨request', -, ⟨-, he⟩ | ⟨-, he⟩⟩ := reserve_cases policy s input now
    · exact absurd hgrants (hnot request)
    · exact ⟨_, congrArg Prod.fst he⟩
    · exact ⟨_, congrArg Prod.fst he⟩
  · rintro ⟨reservation, h⟩
    obtain ⟨-, e, he⟩ | ⟨request, hnormalize, ⟨hget, -⟩ | ⟨hfits, -⟩⟩ := reserve_cases policy s input now
    · rw [he] at h
      cases h
    · exact ⟨_, admit_iff.2 ⟨request, rfl, hnormalize, .inl hget⟩⟩
    · exact ⟨_, admit_iff.2 ⟨request, rfl, hnormalize, .inr hfits⟩⟩

theorem reserve_ok {input : QuotaRequestInput} {now : String} {reservation : QuotaReservation}
    (h : (s.reserve policy input now).1 = .ok reservation) :
    ∃ request, normalizeRequest input = .ok request ∧ reservation = reservationSnapshot request now ∧
      (s.reserve policy input now).2.get request.reservationId = some request := by
  obtain ⟨-, e, he⟩ | ⟨request, hnormalize, ⟨hget, he⟩ | ⟨-, he⟩⟩ := reserve_cases policy s input now
  · rw [he] at h
    cases h
  · rw [he] at h ⊢
    cases h
    exact ⟨request, hnormalize, rfl, hget⟩
  · rw [he] at h ⊢
    cases h
    exact ⟨request, hnormalize, rfl, s.get_set_self request⟩

end Admission

theorem QuotaAnswer.of_eq {α : Type} {f : α → QuotaAnswer} {r : Except QuotaAdmissionError α} {a : α}
    (hf : Function.Injective f) (hthrew : ∀ e, .threw e ≠ f a) : QuotaAnswer.of f r = f a ↔ r = .ok a := by
  cases r with
  | ok b => simp [QuotaAnswer.of, hf.eq_iff]
  | error e => simp [QuotaAnswer.of, hthrew e]

/-! ## The result -/

/-- What a ledger built with a policy holds to after any calls: no scope is beyond a limit, what is
refused changes nothing, stopping is not denied, `admit` says what `reserve` would do, and what was
reserved and left alone may be reserved again. -/
theorem quota_safe {input : QuotaPolicyInput} {policy : QuotaPolicy} (hpolicy : normalizePolicy input = .ok policy)
    (available : Bool) (calls : List QuotaCall) :
    let s := (Admission.new available).after policy calls
    (∀ scope : Scope, ∀ limits ∈ scope.limits policy, ∀ dimension, ∀ limit ∈ limits dimension,
      s.total scope dimension ≤ limit) ∧
    (∀ call, (s.call policy call).1.refused = true → (s.call policy call).2.reservations = s.reservations) ∧
    (∀ reservationId e, (s.call policy (.transition reservationId .stopped)).1 = .threw e → e.code ≠ .quotaExceeded) ∧
    (∀ request now,
      (∃ reservationId, (s.call policy (.admits request)).1 = .decision (.admitted reservationId)) ↔
        ∃ reservation, (s.call policy (.reserve request now)).1 = .reservation reservation) ∧
    (∀ request now reservation, (s.call policy (.reserve request now)).1 = .reservation reservation →
      ∀ between, Machine.Along (fun s call => some (s.call policy call).2)
          (Admission.Leaves policy reservation.request) (s.call policy (.reserve request now)).2 between →
        ∀ now', let s' := (s.call policy (.reserve request now)).2.after policy between
          s'.call policy (.reserve request now') = (.reservation { reservation with reservedAt := now' }, s')) := by
  intro s
  have hsafe := normalizePolicy_safe hpolicy
  have h : s.Safe policy := (Admission.Safe.new available).after hsafe calls
  refine ⟨h.within, fun call => Admission.call_refused, ?_, ?_, ?_⟩
  · intro reservationId e he
    rw [Admission.call_transition] at he
    cases hr : (s.transition policy reservationId .stopped).1 with
    | ok found =>
      rw [hr] at he
      cases he
    | error e' =>
      rw [hr] at he
      cases he
      rw [Admission.transition_stopped h hsafe hr]
      exact nofun
  · intro request now
    have hadmits : ∀ reservationId, (s.call policy (.admits request)).1 = .decision (.admitted reservationId) ↔
        s.admits policy request = .ok (.admitted reservationId) := fun _ =>
      QuotaAnswer.of_eq (fun _ _ => QuotaAnswer.decision.inj) nofun
    have hreserve : ∀ reservation, (s.call policy (.reserve request now)).1 = .reservation reservation ↔
        (s.reserve policy request now).1 = .ok reservation := fun _ =>
      QuotaAnswer.of_eq (fun _ _ => QuotaAnswer.reservation.inj) nofun
    simp only [hadmits, hreserve]
    exact s.admit_iff_reserve policy request now
  · intro request now reservation he between hbetween now'
    obtain ⟨normalized, hnormalize, rfl, hget⟩ :=
      Admission.reserve_ok ((QuotaAnswer.of_eq (fun _ _ => QuotaAnswer.reservation.inj) nofun).1 he)
    have hkept : ((s.call policy (.reserve request now)).2.after policy between).get normalized.reservationId =
        some normalized := Admission.get_after hget hbetween
    dsimp only
    rw [Admission.call_reserve _ _ _ now', Admission.reserve_kept hnormalize hkept now']
    rfl

/-- Two instances for everyone, one for the user `"u"`. -/
def smallPolicy : QuotaPolicyInput where
  global := some fun
    | .instances => some (.integer 2)
    | _ => none
  tenants := []
  users := [(" u ", fun
    | .runningInstances => some (.integer 1)
    | _ => none)]
  providers := []

def smallCalls : List QuotaCall :=
  [.reserve ⟨some "a", some "u", none, some "docker", some .running, .integer 1, .integer 1, .integer 1, none, none, none⟩
      "2026-01-01T00:00:00.000Z",
    .reserve ⟨some "b", some "u", none, some "docker", some .running, .integer 1, .integer 1, .integer 1, none, none, none⟩
      "2026-01-01T00:00:00.000Z",
    .transition "a" .stopped]

theorem quota_safe_small : ∃ policy, normalizePolicy smallPolicy = .ok policy ∧
    ((Admission.new true).after policy smallCalls).Within policy := by
  have hsome : (normalizePolicy smallPolicy).toOption.isSome = true := by decide +kernel
  obtain ⟨policy, hpolicy⟩ : ∃ policy, normalizePolicy smallPolicy = .ok policy := by
    cases h : normalizePolicy smallPolicy with
    | error e =>
      rw [h] at hsome
      cases hsome
    | ok policy => exact ⟨policy, rfl⟩
  exact ⟨policy, hpolicy, (quota_safe hpolicy true smallCalls).1⟩

end OpenApp.Quota
