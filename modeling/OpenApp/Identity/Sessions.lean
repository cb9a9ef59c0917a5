import OpenApp.Async.Solo
import OpenApp.Identity.PortalAuth

/-!
# Sessions and the passwords they were obtained with

Writing a password ends the sessions of its user. A login that has read the hash before, and stores its session
afterwards, is not noticed: the session says nothing about the password it was obtained with.
-/

namespace OpenApp.Identity

open Async Async.Prog Keyed

/-! ## What a login calls -/

/-- The hash that was read last, and whose. -/
def lastRead : AuthExchanges → Option (String × Option String)
  | [] => none
  | ⟨.getLocalPasswordHash userId, .ok passwordHash⟩ :: _ => some (userId, passwordHash)
  | _ :: tr => lastRead tr

/-- The password was found to fit the hash. -/
def Fitted (passwordHash : String) (tr : AuthExchanges) : Prop :=
  ∃ password, ⟨.verifyLocalPassword password passwordHash, .ok true⟩ ∈ tr

/-- A session is stored for the user whose hash was read, and whose password fitted. -/
def LoginCalls (tr : AuthExchanges) : AuthOp → Prop
  | .saveSession _ userId _ _ => ∃ passwordHash, lastRead tr = some (userId, some passwordHash) ∧ Fitted passwordHash tr
  | _ => True

def AuthCall.isLogin : AuthCall → Bool
  | .loginLocal _ _ _ => true
  | _ => false

def AuthCall.Calls (call : AuthCall) (tr : AuthExchanges) (o : AuthOp) : Prop :=
  call.isLogin = true → LoginCalls tr o

section Programs

-- what an email has to look like never matters here
attribute [local irreducible] Auth.readEmail

variable {portal : PortalAuth} {tr : AuthExchanges}

/-- The user has been authenticated. -/
def Authenticated (user : User) (tr : AuthExchanges) : Prop :=
  ∃ passwordHash, lastRead tr = some (user.id, some passwordHash) ∧ Fitted passwordHash tr

theorem authenticateLocal_authenticated (email password : Option String) (source : String) :
    wp LoginCalls (Auth.authenticateLocal email password source) (OnOk Authenticated) tr := by
  unfold Auth.authenticateLocal
  rw [wp_bind, wp_throwIf]
  refine ⟨fun _ => trivial, fun _ => ?_⟩
  rw [then_ok]
  refine wp_seq (P := fun _ _ => True) ?_ fun _ tr _ => ?_
  · unfold Auth.consumeLocalAuthAttempt
    refine wp_ask_seq trivial fun allowed => ?_
    rw [wp_throwIf]
    exact ⟨fun _ => trivial, fun _ => trivial⟩
  · refine wp_ask_seq trivial fun user => ?_
    cases user with
    | none => trivial
    | some user =>
      refine wp_ask_seq trivial fun passwordHash => ?_
      unfold Auth.verified
      rw [wp_bind]
      split
      · next passwordHash =>
        split
        · rw [wp_await]
          refine ⟨trivial, fun r => ?_⟩
          cases r with
          | error e => trivial
          | ok fits =>
            rw [then_ok, wp_bind, wp_throwIf]
            refine ⟨fun _ => trivial, fun hfits => ?_⟩
            have hfits : fits = true := by simpa using hfits
            subst hfits
            exact ⟨passwordHash, rfl, _, List.mem_cons_self⟩
        · rw [wp_pure, then_ok, wp_bind, wp_throwIf]
          exact ⟨fun _ => trivial, fun hfits => absurd rfl hfits⟩
      · rw [wp_pure, then_ok, wp_bind, wp_throwIf]
        exact ⟨fun _ => trivial, fun hfits => absurd rfl hfits⟩

theorem Authenticated.cons {user : User} {x : Exchange AuthOp AuthOp.Answer AuthFailure} (h : Authenticated user tr)
    (hx : lastRead (x :: tr) = lastRead tr) : Authenticated user (x :: tr) := by
  obtain ⟨passwordHash, hread, password, hfits⟩ := h
  exact ⟨passwordHash, hx.trans hread, password, List.mem_cons_of_mem _ hfits⟩

theorem issueSession_calls {user : User} (authMethod : String) (isNewUser : Bool) (h : Authenticated user tr) :
    wp LoginCalls (Auth.issueSession portal user authMethod isNewUser) (OnOk fun _ _ => True) tr := by
  unfold Auth.issueSession Auth.project
  refine wp_seq (P := fun _ tr => Authenticated user tr) ?_ fun projected tr h => ?_
  · refine wp_ask_seq trivial fun state => ?_
    exact h.cons rfl
  · refine wp_ask_seq trivial fun token => wp_ask_seq trivial fun now => wp_ask_seq ?_ fun _ => trivial
    exact (h.cons rfl).cons rfl

theorem loginLocal_calls (email password : Option String) (source : String) :
    wp LoginCalls (Auth.loginLocal portal email password source) (OnOk fun _ _ => True) tr :=
  wp_seq (authenticateLocal_authenticated email password source) fun _ _ h => issueSession_calls _ _ h

theorem wp_unconstrained {α : Type} (p : Auth α) : wp (fun _ _ => True) p (fun _ _ => True) tr := by
  induction p generalizing tr with
  | done a => trivial
  | raise e => trivial
  | call o k ih => exact ⟨trivial, fun r => ih r⟩

/-- A round ends without another one, whatever it calls. -/
theorem run_continues {G : AuthExchanges → AuthOp → Prop} {J : AuthCall → AuthExchanges → Prop}
    {p : Auth (Option Auth.PortalLoginResult)} (h : wp G p (fun _ _ => True) tr) :
    wp G (Sum.inr <$> p : Auth (AuthCall ⊕ Option Auth.PortalLoginResult)) (Continues J) tr := by
  rw [wp_map]
  refine wp_post h fun r tr _ => ?_
  cases r <;> trivial

theorem body_calls {J : AuthCall → AuthExchanges → Prop} (call : AuthCall) (tr : AuthExchanges) :
    wp call.Calls ((authSystem portal).body call) (Continues J) tr := by
  cases hlogin : call.isLogin with
  | true =>
    cases call with
    | loginLocal email password source =>
      apply run_continues
      change wp _ (some <$> Auth.loginLocal portal email password source) _ tr
      rw [wp_map]
      refine wp_mono (loginLocal_calls email password source) (fun _ _ h _ => h) fun r tr _ => ?_
      cases r <;> trivial
    | _ => cases hlogin
  | false =>
    apply run_continues
    refine wp_mono (wp_unconstrained _) (fun _ _ _ hcall => ?_) fun _ _ h => h
    rw [hlogin] at hcall
    cases hcall

end Programs

/-! ## Passwords in the store -/

section Store

variable {s s' : MemoryStore} {x : AuthChoice} {userId : String}

/-- The call has written the password of the user. -/
def writes (userId : String) : Exchange AuthOp AuthOp.Answer AuthFailure → Bool
  | ⟨.createLocalPasswordHash userId' _, .ok true⟩ => userId' = userId
  | ⟨.replaceLocalPasswordHash userId' _ _, .ok true⟩ => userId' = userId
  | _ => false

/-- What writing a password does: it writes nothing, or the password of this user, who has no session then. -/
inductive Written (s : MemoryStore) (userId : String) : Outcome Bool → Prop
  | no {r : Except IdentityFailure Bool} (unwritten : r ≠ .ok true) : Written s userId (r, s)
  | yes (user : User) (passwordHash : String) (isUser : user.id = userId) :
    Written s userId (.ok true, s.putLocalPasswordHash user passwordHash)

theorem written_writeLocalPasswordHash (s : MemoryStore) (userId passwordHash : String) (requireExisting : Bool) :
    Written s userId (s.writeLocalPasswordHash userId passwordHash requireExisting) := by
  unfold MemoryStore.writeLocalPasswordHash
  split
  · exact .no (by rintro ⟨⟩)
  · next user huser =>
    split
    · exact .no (by rintro ⟨⟩)
    · exact .yes user passwordHash (Table.key_of_get huser)

theorem written_replaceLocalPasswordHash (s : MemoryStore) (userId expectedHash passwordHash : String) :
    Written s userId (s.replaceLocalPasswordHash userId expectedHash passwordHash) := by
  unfold MemoryStore.replaceLocalPasswordHash
  split
  · exact .no (by rintro ⟨⟩)
  · exact written_writeLocalPasswordHash s userId passwordHash true

/-- What a call may do to the passwords and the sessions. -/
inductive Effect (s : MemoryStore) : (o : AuthOp) → Except AuthFailure o.Answer → MemoryStore → Prop
  | same {o : AuthOp} {r : Except AuthFailure o.Answer} (unwritten : ∀ userId, writes userId ⟨o, r⟩ = false) : Effect s o r s
  | password {o : AuthOp} {r : Except AuthFailure o.Answer} (user : User) (passwordHash : String)
    (written : ∀ userId, writes userId ⟨o, r⟩ = decide (user.id = userId)) : Effect s o r (s.putLocalPasswordHash user passwordHash)
  | saved (tokenHash userId : String) (expiresAt : Timestamp) (authMethod : String) :
    Effect s (.saveSession tokenHash userId expiresAt authMethod) (.ok ())
      (s.saveSession tokenHash userId expiresAt authMethod)
  | deleted (tokenHash : String) : Effect s (.deleteSession tokenHash) (.ok ()) (s.deleteSession tokenHash)

theorem effect_of_perform {o : AuthOp} {r : Except AuthFailure o.Answer} (h : s.perform o x = some (r, s')) :
    Effect s o r s' := by
  cases x with
  | go =>
    cases o with
    | createLocalPasswordHash userId passwordHash =>
      obtain ⟨rfl, rfl⟩ := Prod.mk.inj (Option.some.inj h)
      have hwritten := written_writeLocalPasswordHash s userId passwordHash false
      unfold MemoryStore.createLocalPasswordHash
      generalize s.writeLocalPasswordHash userId passwordHash false = outcome at hwritten
      cases hwritten with
      | @no r unwritten => exact .same fun _ => by rcases r with e | _ | _ <;> first | rfl | exact absurd rfl unwritten
      | yes user passwordHash isUser =>
        subst isUser
        exact .password user passwordHash fun _ => rfl
    | replaceLocalPasswordHash userId expectedHash passwordHash =>
      obtain ⟨rfl, rfl⟩ := Prod.mk.inj (Option.some.inj h)
      have hwritten := written_replaceLocalPasswordHash s userId expectedHash passwordHash
      generalize s.replaceLocalPasswordHash userId expectedHash passwordHash = outcome at hwritten
      cases hwritten with
      | @no r unwritten => exact .same fun _ => by rcases r with e | _ | _ <;> first | rfl | exact absurd rfl unwritten
      | yes user passwordHash isUser =>
        subst isUser
        exact .password user passwordHash fun _ => rfl
    | saveSession tokenHash userId expiresAt authMethod =>
      cases h
      exact .saved ..
    | deleteSession tokenHash =>
      cases h
      exact .deleted tokenHash
    | getAccountAuthState userId =>
      cases h
      exact .same fun _ => rfl
    | findUserByEmail _ | findUserByIdentity _ _ | getLocalPasswordHash _ =>
      cases h
      exact .same fun _ => rfl
    | _ => cases h
  | fails failure =>
    cases h
    exact .same fun _ => by cases o <;> rfl
  | _ =>
    obtain ⟨a, ha, heq⟩ := Option.map_eq_some_iff.1 h
    cases heq
    cases o <;> first | exact .same fun _ => rfl | cases ha

/-- Only writing the password of a user changes it. -/
theorem Effect.getLocalPasswordHash {o : AuthOp} {r : Except AuthFailure o.Answer} (h : Effect s o r s')
    (hnot : writes userId ⟨o, r⟩ = false) : s'.getLocalPasswordHash userId = s.getLocalPasswordHash userId := by
  cases h with
  | same unwritten => rfl
  | saved tokenHash userId' expiresAt authMethod => rfl
  | deleted tokenHash => rfl
  | password user passwordHash written =>
    have hne : user.id ≠ userId := by
      rw [written userId] at hnot
      exact of_decide_eq_false hnot
    exact congrArg (Option.map LocalCredential.passwordHash)
      (Table.get_put_of_ne s.localPasswordHashes ⟨user.id, passwordHash⟩ (Ne.symm hne))

/-- The call has stored the session. -/
def stores (session : Session) : Exchange AuthOp AuthOp.Answer AuthFailure → Bool
  | ⟨.saveSession tokenHash userId expiresAt authMethod, .ok _⟩ => session = ⟨tokenHash, userId, expiresAt, authMethod⟩
  | _ => false

/-- A session that is stored has been stored now, or it was before and the password of its user has not been written. -/
theorem Effect.session {o : AuthOp} {r : Except AuthFailure o.Answer} (h : Effect s o r s') {session : Session}
    (hsession : session ∈ s'.sessions.rows) :
    stores session ⟨o, r⟩ = true ∨ (session ∈ s.sessions.rows ∧ writes session.userId ⟨o, r⟩ = false) := by
  cases h with
  | same unwritten => exact .inr ⟨hsession, unwritten _⟩
  | password user passwordHash written =>
    obtain ⟨hmem, hkept⟩ := List.mem_filter.1 hsession
    refine .inr ⟨hmem, ?_⟩
    rw [written]
    exact decide_eq_false (Ne.symm (of_decide_eq_true hkept))
  | saved tokenHash userId expiresAt authMethod =>
    have hget := Table.mem_iff.1 hsession
    change (s.sessions.put ⟨tokenHash, userId, expiresAt, authMethod⟩).get session.tokenHash = some session at hget
    rw [Table.get_put] at hget
    split at hget
    · exact .inl (decide_eq_true (Option.some.inj hget).symm)
    · exact .inr ⟨Table.mem_iff.2 hget, rfl⟩
  | deleted tokenHash => exact .inr ⟨List.mem_of_mem_filter hsession, rfl⟩

end Store

/-! ## Logins that overlap a change -/

section Runs

variable {ι : Type} [DecidableEq ι] {portal : PortalAuth} {calls : ι → AuthCall} {s₀ s s' : MemoryStore}

abbrev AuthEvent (ι : Type) := Event ι AuthOp AuthOp.Answer AuthFailure MemoryStore

def readsHash : Exchange AuthOp AuthOp.Answer AuthFailure → Bool
  | ⟨.getLocalPasswordHash _, .ok _⟩ => true
  | _ => false

/-- The password of the user has been written since the thread read a hash. -/
def overtaken (t : ι) (userId : String) : List (AuthEvent ι) → Bool
  | [] => false
  | e :: es => if e.thread = t ∧ readsHash e.toExchange then false else writes userId e.toExchange || overtaken t userId es

/-- A login stores no session for a user whose password has been written since it read the hash. -/
def Undisturbed (calls : ι → AuthCall) (es : List (AuthEvent ι)) (e : AuthEvent ι) : Prop :=
  match e.op with
  | .saveSession _ userId _ _ => (calls e.thread).isLogin = true → overtaken e.thread userId es = false
  | _ => True

instance (calls : ι → AuthCall) (es : List (AuthEvent ι)) (e : AuthEvent ι) : Decidable (Undisturbed calls es e) := by
  unfold Undisturbed
  split <;> infer_instance

/-- Every session that a login has stored was obtained with the password the user has now. -/
def SessionsCurrent (calls : ι → AuthCall) (es : List (AuthEvent ι)) (s : MemoryStore) : Prop :=
  ∀ session ∈ s.sessions.rows, ∀ e ∈ es.find? fun e => stores session e.toExchange, (calls e.thread).isLogin = true →
    ∃ passwordHash, Fitted passwordHash (traceOf e.thread es) ∧ s.getLocalPasswordHash session.userId = some passwordHash

abbrev LawfulRun (portal : PortalAuth) (calls : ι → AuthCall) (s₀ : MemoryStore) : List (AuthEvent ι) → MemoryStore → Prop :=
  Legal (authSystem portal) (fun t => (calls t).Calls) s₀

theorem perform_getLocalPasswordHash {x : AuthChoice} {userId : String} {passwordHash : Option String}
    (h : s.perform (.getLocalPasswordHash userId) x = some (.ok passwordHash, s')) :
    s.getLocalPasswordHash userId = passwordHash ∧ s' = s := by
  cases x with
  | go =>
    cases h
    exact ⟨rfl, rfl⟩
  | _ => cases h

theorem lastRead_cons {x : Exchange AuthOp AuthOp.Answer AuthFailure} {tr : AuthExchanges} (h : readsHash x = false) :
    lastRead (x :: tr) = lastRead tr := by
  obtain ⟨o, r⟩ := x
  cases o with
  | getLocalPasswordHash userId =>
    cases r with
    | ok passwordHash => cases h
    | error failure => rfl
  | _ => rfl

/-- The hash that a thread has read is the one that is stored, as long as nobody writes it. -/
theorem hash_of_calm {es : List (AuthEvent ι)} (hl : LawfulRun portal calls s₀ es s) {t : ι} {userId : String}
    {passwordHash : Option String} (hread : lastRead (traceOf t es) = some (userId, passwordHash))
    (hcalm : overtaken t userId es = false) : s.getLocalPasswordHash userId = passwordHash := by
  induction hl with
  | start => cases hread
  | @record es s s' t' o x r hl hp _ ih =>
    by_cases hown : t' = t
    · subst hown
      rw [traceOf_record_own] at hread
      cases hreads : readsHash (⟨o, r⟩ : Exchange AuthOp AuthOp.Answer AuthFailure) with
      | true =>
        -- the hash is read now
        unfold readsHash at hreads
        split at hreads
        · next userId' passwordHash' heq =>
          obtain ⟨rfl, hr⟩ := Exchange.mk.inj heq
          obtain rfl := eq_of_heq hr
          obtain ⟨rfl, rfl⟩ := Prod.mk.inj (Option.some.inj hread)
          obtain ⟨hget, rfl⟩ := perform_getLocalPasswordHash hp
          exact hget
        · cases hreads
      | false =>
        rw [lastRead_cons hreads] at hread
        have hreads' : ¬ (t' = t' ∧ readsHash (⟨o, r⟩ : Exchange AuthOp AuthOp.Answer AuthFailure) = true) := by
          rw [hreads]
          exact fun h => Bool.false_ne_true h.2
        rw [overtaken, if_neg hreads'] at hcalm
        obtain ⟨hunwritten, hcalm⟩ := Bool.or_eq_false_iff.1 hcalm
        rw [(effect_of_perform hp).getLocalPasswordHash hunwritten]
        exact ih hread hcalm
    · rw [traceOf_record_other hown] at hread
      rw [overtaken, if_neg (fun h => hown h.1)] at hcalm
      obtain ⟨hunwritten, hcalm⟩ := Bool.or_eq_false_iff.1 hcalm
      rw [(effect_of_perform hp).getLocalPasswordHash hunwritten]
      exact ih hread hcalm

theorem Fitted.cons {passwordHash : String} {tr : AuthExchanges} (h : Fitted passwordHash tr)
    (x : Exchange AuthOp AuthOp.Answer AuthFailure) : Fitted passwordHash (x :: tr) := by
  obtain ⟨password, hfits⟩ := h
  exact ⟨password, List.mem_cons_of_mem _ hfits⟩

theorem sessionsCurrent_of_legal {es : List (AuthEvent ι)} (hl : LawfulRun portal calls s₀ es s)
    (hundisturbed : Every (Undisturbed calls) es) : SessionsCurrent calls es s := by
  induction hl with
  | start => rintro session - e ⟨⟩
  | @record es s s' t o x r hl hp hcalls ih =>
    have heffect := effect_of_perform hp
    have hbefore := ih hundisturbed.2
    intro session hsession e hissuer hlogin
    rw [Option.mem_def, List.find?_cons] at hissuer
    cases hstores : stores session (⟨o, r⟩ : Exchange AuthOp AuthOp.Answer AuthFailure) with
    | true =>
      -- the session is stored now, with the hash that was read
      rw [hstores] at hissuer
      obtain rfl := Option.some.inj hissuer
      unfold stores at hstores
      split at hstores
      · next tokenHash userId expiresAt authMethod answer heq =>
        obtain ⟨rfl, hr⟩ := Exchange.mk.inj heq
        obtain rfl := eq_of_heq hr
        obtain rfl := of_decide_eq_true hstores
        obtain ⟨passwordHash, hread, hfits⟩ := hcalls hlogin
        have hhash := hash_of_calm hl hread (hundisturbed.1 hlogin)
        rw [traceOf_record_own]
        refine ⟨passwordHash, hfits.cons _, ?_⟩
        rw [heffect.getLocalPasswordHash rfl]
        exact hhash
      · cases hstores
    | false =>
      rw [hstores] at hissuer
      obtain ⟨hmem, hunwritten⟩ := (heffect.session hsession).resolve_left (by rw [hstores]; exact Bool.false_ne_true)
      obtain ⟨passwordHash, hfits, hhash⟩ := hbefore session hmem e hissuer hlogin
      refine ⟨passwordHash, ?_, ?_⟩
      · by_cases hown : t = e.thread
        · rw [hown, traceOf_record_own]
          exact hfits.cons _
        · rw [traceOf_record_other hown]
          exact hfits
      · rw [heffect.getLocalPasswordHash hunwritten]
        exact hhash

/-- In every run in which no login stores a session after the password it checked has been written, every session that
a login has stored was obtained with the password the user has. -/
theorem sessionsCurrent_of_run {sched : List (ι × AuthChoice)}
    {c : Config ι AuthOp AuthOp.Answer AuthFailure MemoryStore AuthCall (Option Auth.PortalLoginResult)}
    (hrun : exec (authSystem portal) (start (authSystem portal) s₀ calls) sched = some c)
    (hundisturbed : Every (Undisturbed calls) c.events) : SessionsCurrent calls c.events c.world := by
  refine sessionsCurrent_of_legal (legal_of_exec (J := fun t call _ => call = calls t) (fun _ => rfl) ?_ hrun) hundisturbed
  rintro t _ tr rfl
  exact body_calls (calls t) tr

end Runs

/-! ## A login that comes late -/

namespace Sample

def member : User where
  id := "user-1"
  email := "a@example.com"
  role := .user
  createdAt := 0
  appInitializedAt := none

def store : MemoryStore where
  defaultAuthProvider := "session-auth"
  users := ⟨[member], List.nodup_singleton _⟩
  sessions := Table.empty
  identities := ⟨[⟨"local:a@example.com", "user-1"⟩], List.nodup_singleton _⟩
  localPasswordHashes := ⟨[⟨"user-1", "old-hash"⟩], List.nodup_singleton _⟩
  tenants := Table.empty
  tenantMemberships := Table.empty
  auditEvents := []

/-- Tokens stand for themselves here. -/
def portal : PortalAuth where
  sessionTtlHours := 24
  hashToken := id
  isProviderFailure _ := false
  mapAuthError _ := (401, "auth_failed")

def memberSession : AuthenticatedUser where
  user := member
  authMethod := "local"
  passwordSetupRequired := false
  linkedProviders := []

/-- A login, and a change of the password. -/
def calls : Nat → AuthCall
  | 0 => .loginLocal (some "a@example.com") (some "old password") "source"
  | 1 => .changePassword memberSession (some "old password") (some "a new password") "source"
  | _ => .logout none

/-- The password was compared with this hash. -/
def compared (passwordHash : String) : Exchange AuthOp AuthOp.Answer AuthFailure → Bool
  | ⟨.verifyLocalPassword _ encoded, _⟩ => encoded = passwordHash
  | _ => false

def during (t : Nat) (choices : List AuthChoice) : List (Nat × AuthChoice) :=
  choices.map fun x => (t, x)

/-- The login up to where the password fits. -/
def checked : List AuthChoice :=
  [.flag true, .go, .go, .flag true]

/-- The session is stored. -/
def issued (token : String) : List AuthChoice :=
  [.go, .text token, .time 1000, .go]

/-- The password is written. -/
def changed : List AuthChoice :=
  [.flag true, .go, .flag true, .text "new-hash", .go]

end Sample

open Sample in
/-- A login after the change. -/
theorem sessionsCurrent_later : ∃ c,
    exec (authSystem portal) (start (authSystem portal) store calls)
      (during 1 (changed ++ issued "t1") ++ during 0 (checked ++ issued "t0")) = some c ∧
      c.world.sessions.rows.length = 2 ∧ SessionsCurrent calls c.events c.world := by
  obtain ⟨c, hrun, hlength, hundisturbed⟩ : ∃ c,
      exec (authSystem portal) (start (authSystem portal) store calls)
        (during 1 (changed ++ issued "t1") ++ during 0 (checked ++ issued "t0")) = some c ∧
      c.world.sessions.rows.length = 2 ∧ Every (Undisturbed calls) c.events := exists_of_any (by decide +kernel)
  exact ⟨c, hrun, hlength, sessionsCurrent_of_run hrun hundisturbed⟩

open Sample in
/-- The login checks the old password, the password is changed, and the login stores its session: it is there when all
calls have settled. -/
theorem late_session_outlives_password : ∃ c,
    exec (authSystem portal) (start (authSystem portal) store calls)
      (during 0 checked ++ during 1 (changed ++ issued "t1") ++ during 0 (issued "t0")) = some c ∧
      (∀ t, (c.prog t).ended = true) ∧ c.world.getLocalPasswordHash "user-1" = some "new-hash" ∧
      ¬ SessionsCurrent calls c.events c.world := by
  obtain ⟨c, hrun, hlogin, hchange, hhash, hsession, hissuer, hcompared⟩ : ∃ c,
      exec (authSystem portal) (start (authSystem portal) store calls)
        (during 0 checked ++ during 1 (changed ++ issued "t1") ++ during 0 (issued "t0")) = some c ∧
      (c.prog 0).ended = true ∧ (c.prog 1).ended = true ∧ c.world.getLocalPasswordHash "user-1" = some "new-hash" ∧
      (⟨"t0", "user-1", 86401000, "local"⟩ : Session) ∈ c.world.sessions.rows ∧
      (c.events.find? fun e => stores ⟨"t0", "user-1", 86401000, "local"⟩ e.toExchange).map Event.thread = some 0 ∧
      (traceOf 0 c.events).any (compared "new-hash") = false := exists_of_any (by decide +kernel)
  refine ⟨c, hrun, ?_, hhash, fun hcurrent => ?_⟩
  · rintro (_ | _ | t)
    · exact hlogin
    · exact hchange
    · -- nobody else is scheduled
      rw [exec_prog _ hrun]
      · rfl
      · intro tx htx
        simp only [during, List.mem_append, List.mem_map] at htx
        rcases htx with (⟨_, -, rfl⟩ | ⟨_, -, rfl⟩) | ⟨_, -, rfl⟩ <;> simp
  · obtain ⟨e, he, hthread⟩ := Option.map_eq_some_iff.1 hissuer
    obtain ⟨passwordHash, ⟨password, hfits⟩, hstored⟩ := hcurrent _ hsession e he (by rw [hthread]; rfl)
    obtain rfl := Option.some.inj (hhash.symm.trans hstored)
    rw [hthread] at hfits
    exact List.any_eq_false.1 hcompared _ hfits (by simp [compared])

end OpenApp.Identity
