import OpenApp.Script

/-!
# Forwarding policies

What an administrator sends is checked and becomes the one policy there is. What a URL is made of is
the parser's business, which is a parameter here.
-/

namespace OpenApp.Forwarding

open Script

structure ForwardingPolicy where
  id : String
  name : String
  targetBaseUrl : String
  allowedHosts : List String
  enabled : Bool
  updatedBy : String
  updatedAt : String
  deriving DecidableEq

structure ForwardingPolicyDefaults where
  publicBaseUrl : String
  allowedOrigins : List String

/-- `ForwardingPolicyError`, or what the store throws -/
inductive ForwardingError
  | policy (code : String) (status : Nat)
  /-- `ConfigRevisionConflictError` -/
  | revisionConflict
  | store
  deriving DecidableEq

/-- What a parsed URL shows of itself. -/
structure Url where
  protocol : String
  hostname : String
  pathname : String
  origin : String
  username : String
  password : String
  search : String
  hash : String

/-- What a manager is made with, and `new URL`, which may throw. The base URL of the Portal is one. -/
structure Settings where
  parseUrl : String → Option Url
  defaults : ForwardingPolicyDefaults
  portal : Url
  cacheTtlMs : Nat

/-- A value of the body of a request. -/
inductive Unknown
  | string (value : String)
  | boolean (value : Bool)
  | array (items : List Unknown)
  | other

/-- The fields of the input, each left out or there. -/
structure ForwardingPolicyInput where
  targetBaseUrl : Option Unknown
  allowedHosts : Option Unknown
  enabled : Option Unknown

def invalidForwardingTarget : ForwardingError := .policy "invalid_forwarding_target" 400

def validateTargetBaseUrl (settings : Settings) (value : String) : Except ForwardingError Unit :=
  match settings.parseUrl value with
  | none => .error invalidForwardingTarget
  | some target =>
    if (target.protocol ≠ "http:" ∧ target.protocol ≠ "https:") ∨ target.hostname ≠ settings.portal.hostname ∨
        (settings.portal.protocol = "https:" ∧ target.protocol ≠ "https:") ∨ target.pathname ≠ "/" ∨
        truthy target.username ∨ truthy target.password ∨ truthy target.search ∨ truthy target.hash then
      .error invalidForwardingTarget
    else .ok ()

def stringOf : Unknown → Option String
  | .string value => some value
  | _ => none

def normalizeAllowedHosts : Unknown → Except ForwardingError (List String)
  | .array items =>
    let result := ((items.filterMap stringOf).map trim |>.filter truthy).eraseDups
    if result.length > 64 ∨
        result.any (fun item => utf16Length item > 255 || item.toList.any fun c => isWhitespace c || c = ';') then
      .error (.policy "invalid_allowed_host" 400)
    else .ok result
  | _ => .error (.policy "allowed_hosts_required" 400)

/-- The policy while none is stored. -/
def defaultPolicy (settings : Settings) : ForwardingPolicy where
  id := "default"
  name := "default"
  targetBaseUrl := settings.defaults.publicBaseUrl
  allowedHosts := (settings.portal.origin :: settings.defaults.allowedOrigins).eraseDups
  enabled := true
  updatedBy := "system"
  updatedAt := "1970-01-01T00:00:00.000Z"

/-- What `update` sends to the store, from the policy it read. The store sets `updatedAt`. -/
def nextPolicy (settings : Settings) (input : ForwardingPolicyInput) (actorUserId : String)
    (current : ForwardingPolicy) : Except ForwardingError ForwardingPolicy := do
  let target ← match input.targetBaseUrl with
    | none => .ok current.targetBaseUrl
    | some (.string value) => if truthy (trim value) then .ok (trim value) else .error invalidForwardingTarget
    | some _ => .error invalidForwardingTarget
  let enabled ← match input.enabled with
    | none => .ok current.enabled
    | some (.boolean value) => .ok value
    | some _ => .error (.policy "invalid_forwarding_enabled" 400)
  validateTargetBaseUrl settings target
  let allowedHosts ← match input.allowedHosts with
    | none => .ok current.allowedHosts
    | some value => normalizeAllowedHosts value
  return {
    id := "default"
    name := "default"
    targetBaseUrl := target
    allowedHosts := allowedHosts
    enabled := enabled
    updatedBy := actorUserId
    updatedAt := current.updatedAt }

/-- Where every field is given, only the time is taken from the current policy. -/
theorem nextPolicy_given (settings : Settings) (targetBaseUrl actorUserId : String) (allowedHosts : List Unknown)
    (enabled : Bool) (current current' : ForwardingPolicy) :
    nextPolicy settings ⟨some (.string targetBaseUrl), some (.array allowedHosts), some (.boolean enabled)⟩ actorUserId
        current' =
      (nextPolicy settings ⟨some (.string targetBaseUrl), some (.array allowedHosts), some (.boolean enabled)⟩ actorUserId
        current).map fun next => { next with updatedAt := current'.updatedAt } := by
  unfold nextPolicy
  by_cases htarget : truthy (trim targetBaseUrl) = true
  · simp only [if_pos htarget, bind, Except.bind]
    cases validateTargetBaseUrl settings (trim targetBaseUrl) with
    | error e => rfl
    | ok _ =>
      cases normalizeAllowedHosts (.array allowedHosts) with
      | error e => rfl
      | ok hosts => rfl
  · simp only [if_neg htarget]
    rfl

/-! ## What is kept is normal -/

/-- Nothing would be trimmed, left out or kept once less often. -/
structure ForwardingPolicy.Normal (policy : ForwardingPolicy) : Prop where
  targetBaseUrl : trim policy.targetBaseUrl = policy.targetBaseUrl
  allowedHosts : ∀ host ∈ policy.allowedHosts, trim host = host ∧ truthy host = true
  distinct : policy.allowedHosts.Nodup

theorem eraseDups_of_nodup {hosts : List String} (h : hosts.Nodup) : hosts.eraseDups = hosts := by
  induction hosts with
  | nil => rfl
  | cons host hosts ih =>
    obtain ⟨hnew, hrest⟩ := List.nodup_cons.1 h
    rw [List.eraseDups_cons, List.filter_eq_self.2 fun other hother => by
      simpa using fun heq : other = host => hnew (heq ▸ hother), ih hrest]

theorem nodup_eraseDups (hosts : List String) : hosts.eraseDups.Nodup := by
  induction hosts using List.reverseRecOn with
  | nil => simp
  | append_singleton hosts host ih =>
    rw [List.eraseDups_append]
    refine List.nodup_append.2 ⟨ih, ?_, fun kept hkept other hother => ?_⟩
    · by_cases h : host ∈ hosts <;> simp [List.removeAll, h, List.eraseDups_cons]
    · rintro rfl
      rw [List.mem_eraseDups] at hkept hother
      simp [List.removeAll, hkept] at hother

theorem normalizeAllowedHosts_ok {items : List Unknown} {hosts : List String}
    (h : normalizeAllowedHosts (.array items) = .ok hosts) :
    hosts = (((items.filterMap stringOf).map trim).filter truthy).eraseDups := by
  rw [normalizeAllowedHosts] at h
  split at h
  · cases h
  · exact (Except.ok.inj h).symm

/-- The hosts that are kept are kept again as they are. -/
theorem normalizeAllowedHosts_again {hosts kept : List String} (hnormal : ∀ host ∈ hosts, trim host = host ∧ truthy host = true)
    (hdistinct : hosts.Nodup) (h : normalizeAllowedHosts (.array (hosts.map .string)) = .ok kept) : kept = hosts := by
  have hstrings : (hosts.map Unknown.string).filterMap stringOf = hosts := by
    rw [List.filterMap_map]
    exact List.filterMap_some
  have htrim : hosts.map trim = hosts :=
    (List.map_congr_left fun host hhost => (hnormal host hhost).1).trans (List.map_id' hosts)
  rw [normalizeAllowedHosts_ok h, hstrings, htrim, List.filter_eq_self.2 fun host hhost => (hnormal host hhost).2,
    eraseDups_of_nodup hdistinct]

/-- What an update makes of a normal policy's own fields is that policy, up to who made it and when. -/
theorem nextPolicy_again {settings : Settings} {policy current next : ForwardingPolicy} {actorUserId : String}
    (hnormal : policy.Normal)
    (h : nextPolicy settings ⟨some (.string policy.targetBaseUrl), some (.array (policy.allowedHosts.map .string)),
      some (.boolean policy.enabled)⟩ actorUserId current = .ok next) :
    next.targetBaseUrl = policy.targetBaseUrl ∧ next.allowedHosts = policy.allowedHosts ∧ next.enabled = policy.enabled := by
  unfold nextPolicy at h
  by_cases htarget : truthy (trim policy.targetBaseUrl) = true
  · simp only [if_pos htarget, bind, Except.bind] at h
    cases hvalid : validateTargetBaseUrl settings (trim policy.targetBaseUrl) with
    | error e => simp only [hvalid] at h; cases h
    | ok _ =>
      cases hhosts : normalizeAllowedHosts (.array (policy.allowedHosts.map .string)) with
      | error e => simp only [hvalid, hhosts] at h; cases h
      | ok hosts =>
        simp only [hvalid, hhosts] at h
        cases h
        exact ⟨hnormal.targetBaseUrl, normalizeAllowedHosts_again hnormal.allowedHosts hnormal.distinct hhosts, rfl⟩
  · simp only [if_neg htarget, bind, Except.bind] at h
    cases h

end OpenApp.Forwarding
