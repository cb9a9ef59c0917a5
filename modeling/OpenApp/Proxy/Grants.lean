import OpenApp.Async.Answered
import OpenApp.Proxy.Coordinator
import OpenApp.Proxy.Owners

/-!
# Where a grant ends

A grant is a credential that somebody has to own. A login that succeeds has given it to one App; one that fails
has given it back. What keeps a login from this is an App whose id was not written as it is registered.
-/

namespace OpenApp.Proxy

open Script Async Async.Prog

abbrev LoginTrace := Trace HandoffOp HandoffOp.Answer LoginFailure

/-- The login of an App that an operation is. -/
def HandoffOp.login : HandoffOp → Option (String × Option AuthCredentialGrant)
  | .onLogin appId grant => some (appId, grant)
  | _ => none

def HandoffOp.isRevocation : HandoffOp → Bool
  | .revokeCredentialGrant _ => true
  | .revokeOpaqueCredentialGrant _ => true
  | .revokeRefreshSession _ => true
  | _ => false

/-- The logins of the Apps, in their order. -/
def logins (tr : LoginTrace) : List (String × Option AuthCredentialGrant) :=
  (tr.filterMap fun x => x.op.login).reverse

/-- The callbacks that gave a grant back. -/
def revocations (tr : LoginTrace) : List HandoffOp :=
  (tr.map Exchange.op).filter HandoffOp.isRevocation

/-- The App the user is resolved to, as it is written. -/
def resolvedApp (options : AppAuthHandoffCoordinatorOptions) (tr : LoginTrace) : Option String :=
  (tr.findSome? fun
    | ⟨.resolveAppId _, .ok resolved⟩ => resolved
    | _ => none) <|> options.defaultAppId

def mismatch : LoginFailure :=
  .appAuth "app_auth_credential_app_mismatch"

/-- The failure is not that the Apps differ, or somebody who was called failed with it. -/
def Elsewhere (e : LoginFailure) (tr : LoginTrace) : Prop :=
  e ≠ mismatch ∨ ∃ o, (⟨o, .error e⟩ : Exchange HandoffOp HandoffOp.Answer LoginFailure) ∈ tr

section Ends

variable (registry : AppAuthHandoffRegistry) (options : AppAuthHandoffCoordinatorOptions) (input : AppAuthLoginInput)
  (grant : AuthCredentialGrant)

/-- A login that succeeds has logged in to every App once, and to the one App that takes the grant last and with it. -/
structure GivenOnce (tr : LoginTrace) : Prop where
  unrevoked : revocations tr = []
  given : ∃ consumer, acceptors registry grant = [consumer] ∧
    logins tr = ((registry.handoffs.map Prod.fst).filter (· ≠ consumer.1)).map (fun appId => (appId, none)) ++
      [(consumer.1, some grant)]

/-- A login that fails has given the grant back once; it fails because of different Apps only where the user's App is
not the one that takes the grant. -/
structure GivenBack (e : LoginFailure) (tr : LoginTrace) : Prop where
  revoked : ∃ op, input.revocation grant = some op ∧ revocations tr = [op]
  different : Elsewhere e tr ∨ ∀ consumer, acceptors registry grant = [consumer] → ∀ appId, resolvedApp options tr = some appId →
    normalizeAppIdOrUndefined appId ≠ normalizeAppIdOrUndefined consumer.2.appId

/-- Where the grant of a login ends. -/
def GrantEnds : Except LoginFailure (List String) → LoginTrace → Prop
  | .ok _, tr => GivenOnce registry grant tr
  | .error e, tr => GivenBack registry options input grant e tr

/-- The user may be resolved to this App. -/
def MayResolve (appId : String) : Prop :=
  options.resolveAppId = true ∨ options.defaultAppId.bind normalizeAppIdOrUndefined = some appId

/-- The grant can be given back, and the App that takes it is registered under the id as it is written or no user is
resolved to it. -/
structure Reachable : Prop where
  revocable : (input.revocation grant).isSome = true
  written : ∀ consumer, acceptors registry grant = [consumer] → MayResolve options consumer.1 →
    consumer.2.appId = consumer.1

end Ends

/-! ## Before the logins -/

-- what an id is normalized to never matters here, only that ids are compared by it
attribute [local irreducible] normalizeAppIdOrUndefined

variable {registry : AppAuthHandoffRegistry} {options : AppAuthHandoffCoordinatorOptions} {input : AppAuthLoginInput}
  {grant : AuthCredentialGrant} {tr tr' : LoginTrace} {e : LoginFailure}

/-- Looking up an App: no App is logged in to, no grant is given back and no user is resolved. -/
def HandoffOp.Lookup : HandoffOp → Prop
  | .resolveNoAuthApp _ => True
  | .hasNoAuthHandoff _ => True
  | .setNoAuthHandoff _ => True
  | _ => False

/-- The exchanges of a login that has resolved the App of the user and is looking it up. -/
structure Looking (options : AppAuthHandoffCoordinatorOptions) (appId : Option String) (tr : LoginTrace) : Prop where
  logins : logins tr = []
  revocations : revocations tr = []
  resolved : resolvedApp options tr = appId

theorem Looking.cons {appId : Option String} {o : HandoffOp} (h : Looking options appId tr) (ho : o.Lookup)
    (r : Except LoginFailure o.Answer) : Looking options appId (⟨o, r⟩ :: tr) := by
  obtain ⟨hlogins, hrevocations, hresolved⟩ := h
  cases o with
  | resolveNoAuthApp _ | hasNoAuthHandoff _ | setNoAuthHandoff _ => exact ⟨hlogins, hrevocations, hresolved⟩
  | _ => cases ho

theorem elsewhere_cons (o : HandoffOp) (e : LoginFailure) (tr : LoginTrace) : Elsewhere e (⟨o, .error e⟩ :: tr) :=
  .inr ⟨o, List.mem_cons_self⟩

/-- How looking up an App ends. -/
def Required (registry : AppAuthHandoffRegistry) (appId : String) : Except LoginFailure Selected → LoginTrace → Prop
  | .ok selected, _ => (registry.get appId).isSome = true → selected = .registered appId
  | .error e, tr => Elsewhere e tr

theorem requireAsync_required {appId : String} (happ : normalizeAppIdOrUndefined appId = some appId) :
    wp (fun _ o => o.Lookup) (requireAsync registry options appId) (Required registry appId) tr := by
  unfold requireAsync
  rw [happ]
  by_cases hget : (registry.get appId).isSome = true
  · simp only [hget, if_true]
    exact fun _ => rfl
  · simp only [hget, Bool.false_eq_true, if_false]
    have hnone : ∀ selected, (registry.get appId).isSome = true → selected = Selected.registered appId :=
      fun _ hsome => absurd hsome hget
    rw [wp_bind, wp_await]
    refine ⟨trivial, fun known => ?_⟩
    cases known with
    | error e => exact elsewhere_cons _ e _
    | ok known =>
      rw [then_ok]
      cases known with
      | true => exact hnone _
      | false =>
        rw [if_neg Bool.false_ne_true, wp_bind, wp_throwIf]
        refine ⟨fun _ => .inl (by decide), fun _ => ?_⟩
        rw [then_ok, wp_bind, wp_await]
        refine ⟨trivial, fun found => ?_⟩
        cases found with
        | error e => exact elsewhere_cons _ e _
        | ok found =>
          rw [then_ok, wp_bind, wp_throwIf]
          refine ⟨fun _ => .inl (by decide), fun _ => ?_⟩
          rw [then_ok, wp_bind]
          unfold registerNoAuthApp
          rw [if_neg hget, wp_await]
          refine ⟨trivial, fun set => ?_⟩
          cases set with
          | error e => exact elsewhere_cons _ e _
          | ok _ => exact hnone _

theorem requireAsync_looking {appId : String} {written : Option String}
    (happ : normalizeAppIdOrUndefined appId = some appId) (h : Looking options written tr) :
    wp (fun _ _ => True) (requireAsync registry options appId)
      (fun r tr' => Required registry appId r tr' ∧ Looking options written tr') tr :=
  wp_inv (fun _ _ r htr ho => htr.cons ho r) (fun _ _ _ _ => trivial) h (requireAsync_required happ)

/-- How the App of the user is resolved. -/
def Resolved (options : AppAuthHandoffCoordinatorOptions) : Except LoginFailure String → LoginTrace → Prop
  | .ok appId, tr => normalizeAppIdOrUndefined appId = some appId ∧ MayResolve options appId ∧
      ∃ written, Looking options (some written) tr ∧ normalizeAppIdOrUndefined written = some appId
  | .error e, tr => logins tr = [] ∧ revocations tr = [] ∧ Elsewhere e tr

theorem knownApp_resolved {resolved : Option String} (hwhence : options.resolveAppId = true ∨ resolved = none)
    (htr : Looking options (resolved <|> options.defaultAppId) tr) :
    wp (fun _ _ => True) (knownApp registry options resolved) (Resolved options) tr := by
  unfold knownApp
  cases hfilter : (resolved <|> options.defaultAppId).filter truthy with
  | none => exact ⟨htr.logins, htr.revocations, .inl (by decide)⟩
  | some appId =>
    have hwritten := (Option.filter_eq_some_iff.1 hfilter).1
    rw [hwritten] at htr
    cases hnormalized : normalizeAppIdOrUndefined appId with
    | none =>
      simp only [hnormalized]
      exact ⟨htr.logins, htr.revocations, .inl (by decide)⟩
    | some normalized =>
      simp only [hnormalized]
      have htwice := normalized_twice hnormalized
      rw [wp_bind]
      refine wp_post (requireAsync_looking htwice htr) fun r tr' hr => ?_
      cases r with
      | error e => exact ⟨hr.2.logins, hr.2.revocations, hr.1⟩
      | ok selected =>
        refine ⟨htwice, ?_, appId, hr.2, hnormalized⟩
        rcases hwhence with hgiven | rfl
        · exact .inl hgiven
        · right
          rw [← hnormalized]
          exact congrArg (fun written => written.bind normalizeAppIdOrUndefined) hwritten

theorem resolveAppIdForUser_resolved (userId : String) :
    wp (fun _ _ => True) (resolveAppIdForUser registry options userId) (Resolved options) [] := by
  unfold resolveAppIdForUser
  by_cases hgiven : options.resolveAppId = true
  · rw [if_pos hgiven, wp_bind, wp_await]
    refine ⟨trivial, fun r => ?_⟩
    cases r with
    | error e => exact ⟨rfl, rfl, elsewhere_cons _ e _⟩
    | ok resolved => exact knownApp_resolved (.inl hgiven) ⟨rfl, rfl, by cases resolved <;> rfl⟩
  · rw [if_neg hgiven]
    exact knownApp_resolved (.inr rfl) ⟨rfl, rfl, rfl⟩

/-- The App of the user is found, and another one takes the grant. -/
structure Differs (registry : AppAuthHandoffRegistry) (options : AppAuthHandoffCoordinatorOptions)
    (grant : AuthCredentialGrant) (consumer : String × AppAuthHandoff) (tr : LoginTrace) : Prop where
  only : acceptors registry grant = [consumer]
  resolved : ∃ written appId, resolvedApp options tr = some written ∧ normalizeAppIdOrUndefined written = some appId ∧
    MayResolve options appId ∧ appId ≠ consumer.2.appId

/-- How an App is selected for a login with a grant. -/
def Chosen (registry : AppAuthHandoffRegistry) (options : AppAuthHandoffCoordinatorOptions) (grant : AuthCredentialGrant) :
    Except LoginFailure Selected → LoginTrace → Prop
  | .ok selected, tr => logins tr = [] ∧ revocations tr = [] ∧
      ∃ consumer, acceptors registry grant = [consumer] ∧ selected = .registered consumer.1
  | .error e, tr => revocations tr = [] ∧ (Elsewhere e tr ∨ ∃ consumer, Differs registry options grant consumer tr)

theorem credentialConsumer_ok {consumer : String × AppAuthHandoff} (h : credentialConsumer registry grant = .ok consumer) :
    acceptors registry grant = [consumer] := by
  unfold credentialConsumer at h
  split at h
  · cases h
  · next heq =>
    cases h
    exact heq
  · cases h

theorem credentialConsumer_error (h : credentialConsumer registry grant = .error e) : e ≠ mismatch := by
  unfold credentialConsumer at h
  split at h <;> cases h
  · decide
  · decide

theorem mem_of_acceptors {consumer : String × AppAuthHandoff} (h : acceptors registry grant = [consumer]) :
    consumer ∈ registry.handoffs :=
  List.mem_of_mem_filter (show consumer ∈ acceptors registry grant from h ▸ List.mem_singleton_self consumer)

section Created

variable {cookieName : String} {handoffs : List AppAuthHandoff}
  (hregistry : AppAuthHandoffRegistry.create cookieName handoffs = .ok registry)
include hregistry

theorem selectForUser_chosen (userId : String) (hgrant : input.credentialGrant = some grant) :
    wp (fun _ _ => True) (selectForUser registry options userId input) (Chosen registry options grant) [] := by
  unfold selectForUser consumerOf
  rw [hgrant, wp_bind, wp_fromExcept]
  dsimp only
  cases hconsumer : credentialConsumer registry grant with
  | error e => exact ⟨rfl, .inl (.inl (credentialConsumer_error hconsumer))⟩
  | ok consumer =>
    have honly := credentialConsumer_ok hconsumer
    have hid := (AppAuthHandoffRegistry.create_ok hregistry).1.ids consumer (mem_of_acceptors honly)
    change wp _ (resolveAppIdForUser registry options userId >>= fun resolvedApp => _) _ []
    rw [wp_bind]
    refine wp_post (resolveAppIdForUser_resolved userId) fun r tr hr => ?_
    cases r with
    | error e => exact ⟨hr.2.1, .inl hr.2.2⟩
    | ok appId =>
      obtain ⟨happ, hmay, written, hlooking, hwritten⟩ := hr
      rw [then_ok, wp_bind]
      refine wp_post (requireAsync_looking happ hlooking) fun r tr hr => ?_
      obtain ⟨hrequired, hlooking⟩ := hr
      cases r with
      | error e => exact ⟨hlooking.revocations, .inl hrequired⟩
      | ok resolved =>
        rw [then_ok]
        dsimp only
        by_cases hget : (registry.get appId).isSome = true
        · rw [if_pos hget, wp_bind, wp_throwIf]
          refine ⟨fun hne => ?_, fun heq => ?_⟩
          · exact ⟨hlooking.revocations, .inr ⟨consumer, honly, written, appId, hlooking.resolved, hwritten, hmay, hne⟩⟩
          · refine ⟨hlooking.logins, hlooking.revocations, consumer, honly, ?_⟩
            have hsame : appId = consumer.1 := by
              rw [← not_ne_iff.1 heq, happ] at hid
              exact Option.some.inj hid
            rw [hrequired hget, hsame]
        · rw [if_neg hget]
          exact ⟨hlooking.logins, hlooking.revocations, consumer, honly, rfl⟩

end Created

/-! ## The logins -/

theorem logins_cons (appId : String) (given : Option AuthCredentialGrant) (r : Except LoginFailure (List String)) :
    logins (⟨.onLogin appId given, r⟩ :: tr) = logins tr ++ [(appId, given)] := by
  simp [logins, HandoffOp.login]

/-- How the other Apps are logged in to. -/
def CleanedUp (others : List String) (tr : LoginTrace) : Except LoginFailure (List (List String)) → LoginTrace → Prop
  | .ok _, tr' => logins tr' = logins tr ++ others.map (fun appId => (appId, none)) ∧ revocations tr' = revocations tr
  | .error e, tr' => revocations tr' = revocations tr ∧ Elsewhere e tr'

theorem each_cleanedUp (others : List (String × AppAuthHandoff)) (tr : LoginTrace) :
    wp (fun _ _ => True) (each (fun entry => await (HandoffOp.onLogin entry.1 none)) others)
      (CleanedUp (others.map Prod.fst) tr) tr := by
  induction others generalizing tr with
  | nil => exact ⟨(List.append_nil _).symm, rfl⟩
  | cons entry others ih =>
    unfold each
    rw [wp_bind, wp_await]
    refine ⟨trivial, fun r => ?_⟩
    cases r with
    | error e => exact ⟨rfl, elsewhere_cons _ e _⟩
    | ok cookies =>
      rw [then_ok, wp_bind]
      refine wp_post (ih _) fun r tr' hr => ?_
      cases r with
      | error e => exact hr
      | ok rest =>
        refine ⟨?_, hr.2⟩
        rw [hr.1, logins_cons, List.append_assoc]
        rfl

/-- How the login of one App with the grant ends. -/
def Materialized (registry : AppAuthHandoffRegistry) (grant : AuthCredentialGrant) (appId : String) :
    Except LoginFailure (List String) → LoginTrace → Prop
  | .ok _, tr => revocations tr = [] ∧
      logins tr = ((registry.handoffs.map Prod.fst).filter (· ≠ appId)).map (fun appId => (appId, none)) ++
        [(appId, some grant)] ∧
      ∃ cookies, (⟨.onLogin appId (some grant), .ok cookies⟩ : Exchange HandoffOp HandoffOp.Answer LoginFailure) ∈ tr
  | .error e, tr => revocations tr = [] ∧ Elsewhere e tr

theorem materializeLogin_materialized (appId : String) (hgrant : input.credentialGrant = some grant)
    (hlogins : logins tr = []) (hrevocations : revocations tr = []) :
    wp (fun _ _ => True) (materializeLogin registry (.registered appId) input) (Materialized registry grant appId) tr := by
  unfold materializeLogin
  rw [wp_bind]
  refine wp_post (each_cleanedUp _ tr) fun r tr' hr => ?_
  cases r with
  | error e => exact ⟨hr.1.trans hrevocations, hr.2⟩
  | ok results =>
    rw [then_ok, hgrant, wp_bind, wp_await]
    refine ⟨trivial, fun r => ?_⟩
    cases r with
    | error e => exact ⟨hr.2.trans hrevocations, elsewhere_cons _ e _⟩
    | ok cookies =>
      refine ⟨hr.2.trans hrevocations, ?_, cookies, List.mem_cons_self⟩
      rw [logins_cons, hr.1, hlogins, List.nil_append, List.filter_map]
      simp [Function.comp_def, eq_comm]

/-! ## Giving the grant back -/

theorem isRevocation_of_revocation {op : HandoffOp} (h : input.revocation grant = some op) : op.isRevocation = true := by
  unfold AppAuthLoginInput.revocation at h
  split at h
  · cases h
    rfl
  · split at h
    · cases h
      rfl
    · split at h
      · obtain ⟨token, -, rfl⟩ := Option.map_eq_some_iff.1 h
        rfl
      · cases h

theorem resolvedApp_cons {op : HandoffOp} (h : op.isRevocation = true) (r : Except LoginFailure op.Answer) :
    resolvedApp options (⟨op, r⟩ :: tr) = resolvedApp options tr := by
  cases op with
  | revokeCredentialGrant _ | revokeOpaqueCredentialGrant _ | revokeRefreshSession _ => rfl
  | _ => cases h

theorem revokeNewGrantBestEffort_revoked {op : HandoffOp} (hgrant : input.credentialGrant = some grant)
    (hop : input.revocation grant = some op) :
    wp (fun _ _ => True) (revokeNewGrantBestEffort input)
      (fun r tr' => r = .ok () ∧ ∃ answer, tr' = ⟨op, answer⟩ :: tr) tr := by
  unfold revokeNewGrantBestEffort
  rw [hgrant, Option.bind_some, hop]
  dsimp only
  rw [wp_tryCatch, wp_bind, wp_await]
  refine ⟨trivial, fun r => ?_⟩
  cases r with
  | error e => exact ⟨rfl, _, rfl⟩
  | ok answer => exact ⟨rfl, _, rfl⟩

/-! ## The whole login -/

/-- How a login ends before anything is given back. -/
def Attempted (registry : AppAuthHandoffRegistry) (options : AppAuthHandoffCoordinatorOptions) (grant : AuthCredentialGrant) :
    Except LoginFailure (List String) → LoginTrace → Prop
  | .ok _, tr => GivenOnce registry grant tr ∧ ∃ appId cookies,
      (⟨.onLogin appId (some grant), .ok cookies⟩ : Exchange HandoffOp HandoffOp.Answer LoginFailure) ∈ tr
  | .error e, tr => revocations tr = [] ∧ (Elsewhere e tr ∨ ∃ consumer, Differs registry options grant consumer tr)

section Created

variable {cookieName : String} {handoffs : List AppAuthHandoff}

theorem login_attempted (hregistry : AppAuthHandoffRegistry.create cookieName handoffs = .ok registry) (userId : String)
    (hgrant : input.credentialGrant = some grant) :
    wp (fun _ _ => True)
      (selectForUser registry options userId input >>= fun selected => materializeLogin registry selected input)
      (Attempted registry options grant) [] := by
  rw [wp_bind]
  refine wp_post (selectForUser_chosen hregistry userId hgrant) fun r tr hr => ?_
  cases r with
  | error e => exact hr
  | ok selected =>
    obtain ⟨hlogins, hrevocations, consumer, honly, rfl⟩ := hr
    rw [then_ok]
    refine wp_post (materializeLogin_materialized consumer.1 hgrant hlogins hrevocations) fun r tr hr => ?_
    cases r with
    | error e => exact ⟨hr.1, .inl hr.2⟩
    | ok cookies => exact ⟨⟨hr.1, consumer, honly, hr.2.1⟩, consumer.1, hr.2.2⟩

/-- A login fails because of different Apps only where they are different. -/
theorem different_of_differs (hregistry : AppAuthHandoffRegistry.create cookieName handoffs = .ok registry)
    (h : Reachable registry options input grant) {consumer : String × AppAuthHandoff}
    (hdiffers : Differs registry options grant consumer tr) {other : String × AppAuthHandoff}
    (honly : acceptors registry grant = [other]) {appId : String} (happ : resolvedApp options tr = some appId) :
    normalizeAppIdOrUndefined appId ≠ normalizeAppIdOrUndefined other.2.appId := by
  obtain ⟨hconsumer, written, resolved, hwritten, hnormalized, hmay, hne⟩ := hdiffers
  obtain rfl : other = consumer := List.singleton_inj.1 (honly.symm.trans hconsumer)
  obtain rfl : written = appId := Option.some.inj (hwritten.symm.trans happ)
  have hid := (AppAuthHandoffRegistry.create_ok hregistry).1.ids other (mem_of_acceptors honly)
  intro hsame
  rw [hnormalized, hid] at hsame
  obtain rfl := Option.some.inj hsame
  exact hne (h.written other honly hmay).symm

theorem grantEnds_of_reachable (hregistry : AppAuthHandoffRegistry.create cookieName handoffs = .ok registry)
    (userId : String) (hgrant : input.credentialGrant = some grant) (h : Reachable registry options input grant) :
    wp (fun _ _ => True) (onLoginForUser registry options userId input) (GrantEnds registry options input grant) [] := by
  obtain ⟨op, hop⟩ := Option.isSome_iff_exists.1 h.revocable
  have hrevocation := isRevocation_of_revocation hop
  unfold onLoginForUser guarded
  rw [wp_tryCatch]
  refine wp_post (login_attempted hregistry userId hgrant) fun r tr hr => ?_
  cases r with
  | ok cookies => exact hr.1
  | error e =>
    obtain ⟨hrevocations, hwhy⟩ := hr
    rw [caught_error, wp_bind]
    refine wp_post (revokeNewGrantBestEffort_revoked hgrant hop) ?_
    rintro r tr' ⟨rfl, answer, rfl⟩
    refine ⟨⟨op, hop, ?_⟩, ?_⟩
    · simp only [revocations, List.map_cons, List.filter_cons, hrevocation, if_true]
      exact congrArg (op :: ·) hrevocations
    · rcases hwhy with (hne | ⟨o, ho⟩) | ⟨consumer, hdiffers⟩
      · exact .inl (.inl hne)
      · exact .inl (.inr ⟨o, List.mem_cons_of_mem _ ho⟩)
      · right
        intro other honly appId happ
        rw [resolvedApp_cons hrevocation] at happ
        exact different_of_differs hregistry h hdiffers honly happ

/-- Answers with which no App can be logged in to. -/
def refusing : (o : HandoffOp) → Except LoginFailure o.Answer
  | .hasNoAuthHandoff _ => .ok false
  | _ => .error (.thrown "unavailable")

/-- Where the grant cannot be given back, it is lost with a login that fails. -/
theorem revocable_of_grantEnds (hregistry : AppAuthHandoffRegistry.create cookieName handoffs = .ok registry)
    (userId : String) (hgrant : input.credentialGrant = some grant)
    (h : wp (fun _ _ => True) (onLoginForUser registry options userId input) (GrantEnds registry options input grant) []) :
    (input.revocation grant).isSome = true := by
  have hends := wp_answered refusing h
  have hattempted := wp_answered refusing (@login_attempted _ options _ _ _ _ hregistry userId hgrant)
  have hgiven := fun x => @mem_answered _ _ _ _ refusing [] (selectForUser registry options userId input >>=
    fun selected => materializeLogin registry selected input) x
  unfold onLoginForUser guarded at hends
  rw [answered_tryCatch] at hends
  generalize answered refusing _ [] = result at hends hattempted hgiven
  obtain ⟨r, tr⟩ := result
  cases r with
  | ok cookies =>
    -- an App was logged in to with the grant, which it refused
    obtain ⟨-, appId, cookies, hmem⟩ := hattempted
    rcases hgiven _ hmem with hnil | hanswer
    · cases hnil
    · cases hanswer
  | error e =>
    dsimp only at hends
    rw [answered_bind] at hends
    split at hends
    · obtain ⟨op, hop, -⟩ := hends.revoked
      rw [hop]
      rfl
    · obtain ⟨op, hop, -⟩ := hends.revoked
      rw [hop]
      rfl

/-- Answers that resolve every user to this App. -/
def resolving (appId : String) : (o : HandoffOp) → Except LoginFailure o.Answer
  | .resolveAppId _ => .ok (some appId)
  | _ => .error (.thrown "unavailable")

theorem requireAsync_registered {appId : String} (happ : normalizeAppIdOrUndefined appId = some appId)
    (hget : (registry.get appId).isSome = true) : requireAsync registry options appId = pure (.registered appId) := by
  unfold requireAsync
  rw [happ]
  exact if_pos hget

theorem knownApp_registered {resolved : Option String} {written appId : String}
    (hwritten : (resolved <|> options.defaultAppId) = some written)
    (hnormalized : normalizeAppIdOrUndefined written = some appId) (htruthy : truthy written = true)
    (hget : (registry.get appId).isSome = true) : knownApp registry options resolved = pure appId := by
  unfold knownApp
  rw [hwritten, Option.filter_some, if_pos htruthy]
  dsimp only
  rw [hnormalized]
  dsimp only
  rw [requireAsync_registered (normalized_twice hnormalized) hget]
  rfl

/-- A user may be resolved to every App that is registered and may be resolved. -/
theorem resolveAppIdForUser_resolving {appId : String} (happ : normalizeAppIdOrUndefined appId = some appId)
    (hget : (registry.get appId).isSome = true) (hmay : MayResolve options appId) (userId : String) :
    ∃ written tr, answered (resolving appId) (resolveAppIdForUser registry options userId) [] = (.ok appId, tr) ∧
      resolvedApp options tr = some written ∧ normalizeAppIdOrUndefined written = some appId := by
  unfold resolveAppIdForUser
  by_cases hresolve : options.resolveAppId = true
  · refine ⟨appId, [⟨.resolveAppId userId, .ok (some appId)⟩], ?_, rfl, happ⟩
    rw [if_pos hresolve, answered_bind, answered_await]
    dsimp only [resolving]
    rw [knownApp_registered rfl happ (truthy_of_normalized happ) hget]
    rfl
  · obtain ⟨written, hdefault, hnormalized⟩ := Option.bind_eq_some_iff.1 (hmay.resolve_left hresolve)
    refine ⟨written, [], ?_, hdefault, hnormalized⟩
    rw [if_neg hresolve, knownApp_registered (show (none <|> options.defaultAppId) = some written from hdefault) hnormalized (truthy_of_normalized hnormalized) hget]
    rfl

/-- The App that takes the grant is not recognized where its id is written in another way. -/
theorem selectForUser_mismatch (hregistry : AppAuthHandoffRegistry.create cookieName handoffs = .ok registry)
    (userId : String) (hgrant : input.credentialGrant = some grant) {consumer : String × AppAuthHandoff}
    (honly : acceptors registry grant = [consumer]) (hmay : MayResolve options consumer.1)
    (hne : consumer.2.appId ≠ consumer.1) :
    ∃ written tr, answered (resolving consumer.1) (selectForUser registry options userId input) [] =
        (.error mismatch, tr) ∧
      resolvedApp options tr = some written ∧ normalizeAppIdOrUndefined written = some consumer.1 := by
  have hmem := mem_of_acceptors honly
  have hid := normalized_twice ((AppAuthHandoffRegistry.create_ok hregistry).1.ids consumer hmem)
  have hget : (registry.get consumer.1).isSome = true := by
    rw [AppAuthHandoffRegistry.get_registered hregistry hmem]
    rfl
  have hconsumer : consumerOf registry input = .ok (some consumer) := by
    unfold consumerOf credentialConsumer
    rw [hgrant]
    dsimp only
    rw [honly]
    rfl
  obtain ⟨written, tr, hanswered, hresolved⟩ := resolveAppIdForUser_resolving hid hget hmay userId
  refine ⟨written, tr, ?_, hresolved⟩
  unfold selectForUser
  rw [hconsumer]
  change answered _ (resolveAppIdForUser registry options userId >>= fun resolvedApp => _) [] = _
  rw [answered_bind, hanswered]
  dsimp only
  rw [requireAsync_registered hid hget]
  change answered _ (if (registry.get consumer.1).isSome = true then _ else _) tr = _
  rw [if_pos hget, throwIf, if_pos (Ne.symm hne)]
  rfl

/-- An App that is registered under another spelling of its id makes logins of its own users fail. -/
theorem written_of_grantEnds (hregistry : AppAuthHandoffRegistry.create cookieName handoffs = .ok registry)
    (userId : String) (hgrant : input.credentialGrant = some grant)
    (h : wp (fun _ _ => True) (onLoginForUser registry options userId input) (GrantEnds registry options input grant) [])
    {consumer : String × AppAuthHandoff} (honly : acceptors registry grant = [consumer])
    (hmay : MayResolve options consumer.1) : consumer.2.appId = consumer.1 := by
  by_contra hne
  have hid := (AppAuthHandoffRegistry.create_ok hregistry).1.ids consumer (mem_of_acceptors honly)
  obtain ⟨written, tr, hmismatch, hresolved, hnormalized⟩ := selectForUser_mismatch hregistry userId hgrant honly hmay hne
  obtain ⟨op, hop⟩ := Option.isSome_iff_exists.1 (revocable_of_grantEnds hregistry userId hgrant h)
  obtain ⟨hdone, answer, htr⟩ :=
    wp_answered (resolving consumer.1) (@revokeNewGrantBestEffort_revoked _ _ tr _ hgrant hop)
  have hlogin : answered (resolving consumer.1) (onLoginForUser registry options userId input) [] =
      (.error mismatch, ⟨op, answer⟩ :: tr) := by
    unfold onLoginForUser guarded
    rw [answered_tryCatch, answered_bind, hmismatch]
    dsimp only
    rw [answered_bind]
    generalize answered (resolving consumer.1) (revokeNewGrantBestEffort input) tr = result at hdone htr
    obtain ⟨r, tr'⟩ := result
    obtain rfl : r = .ok () := hdone
    obtain rfl : tr' = ⟨op, answer⟩ :: tr := htr
    rfl
  have hends := wp_answered (resolving consumer.1) h
  have hgiven := fun x => @mem_answered _ _ _ _ (resolving consumer.1) [] (onLoginForUser registry options userId input) x
  rw [hlogin] at hends hgiven
  rcases hends.different with (hself | ⟨o, ho⟩) | hdifferent
  · exact hself rfl
  · rcases hgiven _ ho with hnil | hanswer
    · cases hnil
    · cases o <;> cases hanswer
  · apply hdifferent consumer honly written
    · rw [resolvedApp_cons (isRevocation_of_revocation hop)]
      exact hresolved
    · rw [hnormalized, hid]

/-- A grant ends in one place in every login exactly where it can be given back and the App that takes it is found under
the id it is written with. -/
theorem grantEnds_iff_reachable (hregistry : AppAuthHandoffRegistry.create cookieName handoffs = .ok registry)
    (userId : String) (hgrant : input.credentialGrant = some grant) :
    wp (fun _ _ => True) (onLoginForUser registry options userId input) (GrantEnds registry options input grant) [] ↔
      Reachable registry options input grant := by
  constructor
  · intro h
    exact ⟨revocable_of_grantEnds hregistry userId hgrant h,
      fun consumer honly hmay => written_of_grantEnds hregistry userId hgrant h honly hmay⟩
  · exact grantEnds_of_reachable hregistry userId hgrant

end Created

/-! ## An App registered in capitals -/

def sampleGrant : AuthCredentialGrant where
  kind := "session"
  provider := "story-auth"
  expiresAt := none
  fields := ⟨[("refreshToken", .string "refresh")]⟩

/-- An App that takes every grant. -/
def takingHandoff (appId : String) : AppAuthHandoff where
  appId := appId
  managedCookieNames := []
  proxyOptions _ := {}
  acceptsCredentialGrant := some fun _ => true

def takingRegistry (appId : String) : AppAuthHandoffRegistry :=
  ⟨"portal_session", [("sample-app", takingHandoff appId)], []⟩

def sampleOptions : AppAuthHandoffCoordinatorOptions where
  resolveAppId := false
  defaultAppId := some "sample-app"
  resolveNoAuthApp := false

def sampleLogin : AppAuthLoginInput where
  credentialGrant := some sampleGrant
  revokeCredentialGrant := true
  revokeOpaqueCredentialGrant := false
  revokeRefreshSession := false

theorem sample_created (appId : String) (h : normalizeAppId appId = .ok "sample-app") :
    AppAuthHandoffRegistry.create "portal_session" [takingHandoff appId] = .ok (takingRegistry appId) := by
  have hname : validateCookieName "portal_session" = .ok "portal_session" := by decide +kernel
  unfold AppAuthHandoffRegistry.create AppAuthHandoffRegistry.addHandoffs
  rw [hname]
  change (normalizeAppId appId >>= fun appId => _) = _
  rw [h]
  rfl

/-- The login of a user whose App is the one that takes the grant fails because they are different. -/
theorem capitals_not_grantEnds :
    ¬∀ (cookieName : String) (handoffs : List AppAuthHandoff) (registry : AppAuthHandoffRegistry)
      (options : AppAuthHandoffCoordinatorOptions) (input : AppAuthLoginInput) (grant : AuthCredentialGrant)
      (userId : String), AppAuthHandoffRegistry.create cookieName handoffs = .ok registry →
      input.credentialGrant = some grant → (input.revocation grant).isSome = true →
      wp (fun _ _ => True) (onLoginForUser registry options userId input) (GrantEnds registry options input grant) [] := by
  intro h
  have hcreated := sample_created "Sample-App" (by decide +kernel)
  have hends := h _ _ _ sampleOptions sampleLogin sampleGrant "user-1" hcreated rfl rfl
  have hwritten := written_of_grantEnds hcreated "user-1" rfl hends rfl (.inr (by decide +kernel))
  revert hwritten
  decide

theorem written_grantEnds :
    wp (fun _ _ => True) (onLoginForUser (takingRegistry "sample-app") sampleOptions "user-1" sampleLogin)
      (GrantEnds (takingRegistry "sample-app") sampleOptions sampleLogin sampleGrant) [] := by
  apply (grantEnds_iff_reachable (sample_created "sample-app" (by decide +kernel)) "user-1" rfl).2
  refine ⟨rfl, ?_⟩
  rintro consumer honly -
  obtain rfl := List.singleton_inj.1 honly
  rfl

end OpenApp.Proxy
