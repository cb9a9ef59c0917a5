import OpenApp.Async.Owned
import OpenApp.Catalog.Kinds
import OpenApp.Catalog.Versions

/-!
# Who writes a version

Who saves or activates a version has the lock, and has read the version since it got the lock, or saves it
under an id of its own. This is a rule for each call, at what its thread has exchanged before; every call of
the catalog keeps to it.
-/

namespace OpenApp.Catalog

open Async Async.Prog Keyed Script

/-- A version that may still get another image, and may be activated or archived. -/
def Draft (version : AppVersion) : Prop :=
  version.status = .uploaded ∨ version.status = .imageReady

/-- The version with an image that was chosen for it. -/
def attachedRow (version : AppVersion) (imageReference runtimeContract : String) : AppVersion :=
  { version with
    imageArtifactId := none
    imageReference := some imageReference
    runtimeContract := some runtimeContract
    status := .imageReady }

/-! ## The lock and the ids -/

/-- `withReleaseActivationLock` -/
def activationLock : Lock CatalogOp where
  takes o := decide (o = .lock)
  releases o := decide (o = .unlock)

/-- The thread has the lock. -/
abbrev HasLock (tr : Exchanges) : Prop :=
  activationLock.holding tr = true

/-- The id an exchange hands out. -/
def issuedId : CatalogExchange → Option String
  | ⟨.randomId, .ok id⟩ => some id
  | _ => none

/-! ## What a thread relies on -/

/-- A call that leaves the lock alone, and saves or activates nothing. -/
def calm : CatalogOp → Bool
  | .lock | .unlock | .saveAppVersion _ | .activateAppVersion _ _ _ => false
  | _ => true

/-- A call after which what was read of this version may not stand any more. -/
def unsettles (id : String) : CatalogOp → Bool
  | .lock | .unlock | .activateAppVersion _ _ _ => true
  | .saveAppVersion version => decide (version.id = id)
  | _ => false

/-- The thread has read the version since it got the lock, and has done nothing about it. -/
def Standing (version : AppVersion) : Exchanges → Prop
  | [] => False
  | x :: tr => (version ∈ versionsIn x ∧ HasLock tr) ∨ (Standing version tr ∧ unsettles version.id x.op = false)

/-- The id was handed out to the thread, which has saved nothing under it. -/
def Minted (id : String) : Exchanges → Prop
  | [] => False
  | x :: tr => issuedId x = some id ∨ (Minted id tr ∧ ∀ version, x.op = .saveAppVersion version → version.id ≠ id)

/-- The version is as it was read, or it was bound since. -/
def AsRead (version : AppVersion) (versions : Table AppVersion.id) : Prop :=
  versions.get version.id = some version ∨
    version.status = .uploaded ∧ ∃ artifact, versions.get version.id = some (boundRow version artifact)

/-- The answers are of the versions that were asked for, and list none twice. -/
def Answered : CatalogExchange → Prop
  | ⟨.getAppVersion id, .ok (some version)⟩ => version.id = id
  | ⟨.listAppVersions _, .ok versions⟩ => (versions.map AppVersion.id).Nodup
  | _ => True

/-- The version that is saved is new, or it is one that stands, with another image or archived. -/
inductive Saves (tr : Exchanges) : AppVersion → Prop
  | new {version : AppVersion} (minted : Minted version.id tr) (draft : Draft version) (unnumbered : version.revision = none)
      (inactive : version.activatedAt = none) (unbound : version.imageArtifactId = none) : Saves tr version
  | attached {read : AppVersion} {imageReference runtimeContract : String} (standing : Standing read tr) (draft : Draft read) :
      Saves tr (attachedRow read imageReference runtimeContract)
  | archived {read : AppVersion} (standing : Standing read tr) (draft : Draft read) : Saves tr (archived read)

/-- What a thread keeps to that writes a version. -/
def Writes (tr : Exchanges) : CatalogOp → Prop
  | .unlock => HasLock tr
  | .saveAppVersion version => HasLock tr ∧ Saves tr version
  | .activateAppVersion _ versionId _ =>
    ∃ read, Standing read tr ∧ read.id = versionId ∧ (Draft read ∨ read.status = .active)
  | _ => True

/-- The answers are what the world gives. -/
def Faithful (tr : Exchanges) : Prop :=
  ∀ x ∈ tr, Answered x

def VersionRule (tr : Exchanges) (o : CatalogOp) : Prop :=
  Faithful tr → Writes tr o

/-- The rule while the lock is held: it is not given back. -/
def LockedRule (tr : Exchanges) (o : CatalogOp) : Prop :=
  o ≠ .unlock ∧ VersionRule tr o

section Traces

variable {version : AppVersion} {id : String} {x : CatalogExchange} {tr : Exchanges} {o : CatalogOp}

theorem looks_calm (h : looks o = true) : calm o = true := by
  cases o <;> first | rfl | exact absurd h Bool.false_ne_true

theorem ne_unlock_of_calm (h : calm o = true) : o ≠ .unlock := by
  rintro rfl
  exact Bool.false_ne_true h

theorem writes_of_calm (h : calm o = true) : Writes tr o := by
  cases o <;> first | trivial | exact absurd h Bool.false_ne_true

theorem rule_of_calm (h : calm o = true) : VersionRule tr o :=
  fun _ => writes_of_calm h

theorem lockedRule_of_calm (h : calm o = true) : LockedRule tr o :=
  ⟨ne_unlock_of_calm h, rule_of_calm h⟩

theorem Faithful.tail (h : Faithful (x :: tr)) : Faithful tr :=
  fun y hy => h y (List.mem_cons_of_mem _ hy)

theorem not_releases (h : o ≠ .unlock) : activationLock.releases o = false :=
  decide_eq_false h

theorem hasLock_cons (h : HasLock tr) (hx : x.op ≠ .unlock) : HasLock (x :: tr) :=
  activationLock.holding_stay h (not_releases hx)

theorem hasLock_lock {a : Unit} : HasLock (⟨.lock, .ok a⟩ :: tr) :=
  activationLock.holding_acquire rfl rfl

theorem ne_unlock_of_unsettles (h : unsettles id o = false) : o ≠ .unlock := by
  rintro rfl
  cases h

theorem unsettles_of_calm (h : calm o = true) : unsettles id o = false := by
  cases o <;> first | rfl | exact absurd h Bool.false_ne_true

/-- A call that tells of a version is one that reads. -/
theorem calm_of_mem (h : version ∈ versionsIn x) : calm x.op = true := by
  obtain ⟨o, r⟩ := x
  cases o <;> first | rfl | exact absurd h List.not_mem_nil

theorem Standing.hasLock (h : Standing version tr) : HasLock tr := by
  induction tr with
  | nil => exact h.elim
  | cons x tr ih =>
    rcases h with ⟨hmem, hlock⟩ | ⟨hstanding, hsettled⟩
    · exact hasLock_cons hlock (ne_unlock_of_calm (calm_of_mem hmem))
    · exact hasLock_cons (ih hstanding) (ne_unlock_of_unsettles hsettled)

theorem Standing.cons (h : Standing version tr) (hx : unsettles version.id x.op = false) : Standing version (x :: tr) :=
  .inr ⟨h, hx⟩

theorem Standing.calm (h : Standing version tr) (hx : calm x.op = true) : Standing version (x :: tr) :=
  h.cons (unsettles_of_calm hx)

theorem Minted.cons (h : Minted id tr) (hx : ∀ version, x.op = .saveAppVersion version → version.id ≠ id) :
    Minted id (x :: tr) :=
  .inr ⟨h, hx⟩

theorem Minted.calm (h : Minted id tr) (hx : calm x.op = true) : Minted id (x :: tr) := by
  apply h.cons
  intro version hop
  rw [hop] at hx
  cases hx

theorem Minted.mem_names (h : Minted id tr) : id ∈ names issuedId tr := by
  induction tr with
  | nil => exact h.elim
  | cons x tr ih =>
    rcases h with hissued | ⟨hminted, -⟩
    · exact List.mem_filterMap.2 ⟨x, List.mem_cons_self, hissued⟩
    · obtain ⟨y, hy, hid⟩ := List.mem_filterMap.1 (ih hminted)
      exact List.mem_filterMap.2 ⟨y, List.mem_cons_of_mem _ hy, hid⟩

/-- What a thread saves is under an id it was given, or under one that stands. -/
theorem Saves.standing_or_minted (h : Saves tr version) :
    Minted version.id tr ∨ ∃ read, Standing read tr ∧ version.id = read.id := by
  cases h with
  | new minted _ _ _ _ => exact .inl minted
  | attached standing _ => exact .inr ⟨_, standing, rfl⟩
  | archived standing _ => exact .inr ⟨_, standing, rfl⟩

end Traces

/-! ## The writers of versions -/

section Writers

variable {α : Type} {tr : Exchanges}

attribute [local irreducible] wp Only

/-- What stays under calm calls is still there after a program that makes only such calls. -/
def Stays (I : Exchanges → Prop) : Prop :=
  ∀ tr x, calm x.op = true → I tr → I (x :: tr)

theorem Stays.and {I I' : Exchanges → Prop} (h : Stays I) (h' : Stays I') : Stays fun tr => I tr ∧ I' tr :=
  fun tr x hx hi => ⟨h tr x hx hi.1, h' tr x hx hi.2⟩

theorem stays_hasLock : Stays HasLock :=
  fun _ _ hx h => hasLock_cons h (ne_unlock_of_calm hx)

theorem stays_minted (id : String) : Stays (Minted id) :=
  fun _ _ hx h => h.calm hx

theorem stays_standing (version : AppVersion) : Stays (Standing version) :=
  fun _ _ hx h => h.calm hx

theorem stays_mem (y : CatalogExchange) : Stays fun tr => y ∈ tr :=
  fun _ _ _ h => List.mem_cons_of_mem _ h

/-- A part of a program that looks only. -/
theorem wp_calm_seq {G : Exchanges → CatalogOp → Prop} {β : Type} {P : β → Exchanges → Prop} {I : Exchanges → Prop}
    {p : CatalogTask α} {f : α → CatalogTask β} (hI : Stays I) (hG : ∀ tr o, calm o = true → G tr o)
    (hp : Only (fun o => calm o = true) p) (h₀ : I tr) (hf : ∀ a tr', I tr' → wp G (f a) (OnOk P) tr') :
    wp G (p >>= f) (OnOk P) tr :=
  wp_keeps_seq (P := fun o => calm o = true) hI hG hp h₀ hf

theorem always_calm {p : CatalogTask α} (hp : Only (fun o => calm o = true) p) : Always VersionRule p :=
  always_of_only hp fun _ _ => rule_of_calm

/-- What runs under the lock does not give it back; that is done at its end. -/
theorem wp_withActivationLock {operation : CatalogTask α}
    (h : wp LockedRule operation (OnOk fun _ _ => True) (⟨.lock, .ok ()⟩ :: tr)) :
    wp VersionRule (withActivationLock operation) (OnOk fun _ _ => True) tr := by
  refine wp_post (Q := fun _ _ => True) ?_ fun r _ _ => onOk_true r
  unfold withActivationLock
  rw [wp_bind, wp_await]
  refine ⟨fun _ => trivial, fun r => ?_⟩
  cases r with
  | error e => trivial
  | ok a =>
    refine wp_ensuring_from (I := HasLock) ?_ fun tr' hlock => ?_
    · refine wp_post (wp_inv (I := HasLock) ?_ (fun _ _ _ ho => ho.2) hasLock_lock h) fun r tr' hr => hr.2
      exact fun tr o r hlock ho => hasLock_cons hlock ho.1
    · rw [wp_await]
      exact ⟨fun _ => hlock, fun _ => trivial⟩

theorem looks_only {p : CatalogTask α} (hp : ∀ {P : CatalogOp → Prop}, (∀ o, looks o = true → P o) → Only P p) :
    Only (fun o => calm o = true) p :=
  hp fun _ => looks_calm

theorem wp_persistInspectedVersion (app : AppDefinition) (inspected : InspectedAppVersion) :
    wp VersionRule (persistInspectedVersion app inspected) (OnOk fun _ _ => True) tr := by
  refine wp_ask_seq (rule_of_calm rfl) fun versionId => ?_
  have hG : ∀ tr o, calm o = true → VersionRule tr o := fun _ _ => rule_of_calm
  have hL : ∀ tr o, calm o = true → LockedRule tr o := fun _ _ => lockedRule_of_calm
  have hstays := stays_minted versionId
  refine wp_guarded (always_calm (only_bind (only_settle (only_await rfl)) fun _ => only_pure _)) (fun _ _ => trivial) ?_
  refine wp_calm_seq hstays hG (only_await rfl) (.inl rfl) fun _ tr hminted => ?_
  refine wp_calm_seq hstays hG (looks_only fun hP => only_checkCopies hP _ _) hminted fun _ tr hminted => ?_
  refine wp_calm_seq hstays hG (looks_only fun hP => only_assertVersionIsNew hP _ _) hminted fun _ tr hminted => ?_
  refine wp_calm_seq hstays hG (only_await rfl) hminted fun createdAt tr hminted => ?_
  refine wp_calm_seq hstays hG (only_await rfl) hminted fun _ tr hminted => wp_withActivationLock ?_
  have hinside : HasLock (⟨.lock, .ok ()⟩ :: tr) ∧ Minted versionId (⟨.lock, .ok ()⟩ :: tr) :=
    ⟨hasLock_lock, hminted.cons fun version hop => CatalogOp.noConfusion hop⟩
  have hstays := stays_hasLock.and (stays_minted versionId)
  refine wp_calm_seq hstays hL (only_await rfl) hinside fun _ tr hinside => ?_
  refine wp_required_seq fun currentApp _ => wp_throwIf_seq fun _ => ?_
  refine wp_calm_seq hstays hL (looks_only fun hP => only_assertVersionIsNew hP _ _) hinside fun _ tr hinside => ?_
  refine wp_calm_seq hstays hL (only_await rfl) hinside fun _ tr hinside => ?_
  refine wp_guarded (always_of_only (P := fun o => calm o = true) (only_bind (only_settle (only_await rfl)) fun _ => only_pure _) hL) (fun _ _ => trivial) ?_
  refine wp_ask_seq ⟨CatalogOp.noConfusion, fun _ => ⟨hinside.1, .new hinside.2 (.inl rfl) rfl rfl rfl⟩⟩ fun _ => ?_
  exact wp_required fun _ _ => trivial

theorem wp_activeApp_seq {β : Type} {f : AppDefinition → CatalogTask β}
    (hf : ∀ app tr, wp VersionRule (f app) (OnOk fun _ _ => True) tr) (appId : String) :
    wp VersionRule (activeApp appId >>= f) (OnOk fun _ _ => True) tr :=
  wp_calm_seq (I := fun _ => True) (fun _ _ _ _ => trivial) (fun _ _ => rule_of_calm) (looks_only fun hP => only_activeApp hP _)
    trivial fun app tr _ => hf app tr

theorem wp_uploadInspectedVersion (appId : String) (input : InspectedAppVersion) :
    wp VersionRule (uploadInspectedVersion appId input) (OnOk fun _ _ => True) tr :=
  wp_activeApp_seq (fun _ _ => wp_persistInspectedVersion _ _) _

theorem wp_createRevision (appId : String) (packages : List ImageBuildPackage) :
    wp VersionRule (createRevision appId packages) (OnOk fun _ _ => True) tr :=
  wp_activeApp_seq (fun _ _ => wp_ask_seq (rule_of_calm rfl) fun _ => wp_persistInspectedVersion _ _) _

theorem wp_attachImage (runtimeContractForApp : String → AppVersion → Option String) (appId versionId imageReference : String) :
    wp VersionRule (attachImage runtimeContractForApp appId versionId imageReference) (OnOk fun _ _ => True) tr := by
  refine wp_withActivationLock ?_
  have hL : ∀ tr o, calm o = true → LockedRule tr o := fun _ _ => lockedRule_of_calm
  refine wp_fromExcept_seq fun normalizedAppId _ => wp_fromExcept_seq fun reference _ => ?_
  refine wp_calm_seq stays_hasLock hL (only_await rfl) hasLock_lock fun _ tr hlock => ?_
  refine wp_required_seq fun app _ => wp_throwIf_seq fun _ => ?_
  refine wp_ask_seq (lockedRule_of_calm rfl) fun found => wp_required_seq fun version hversion => ?_
  obtain ⟨rfl, -⟩ := Option.filter_eq_some_iff.1 hversion
  refine wp_throwIf_seq fun hunarchived => wp_throwIf_seq fun himmutable => wp_throwIf_seq fun _ => wp_fromExcept_seq fun contract _ => ?_
  have hdraft : Draft version := by
    unfold Draft
    cases hstatus : version.status <;> simp_all
  have hstanding : Standing version (⟨.getAppVersion versionId, .ok (some version)⟩ :: tr) := .inl ⟨List.mem_singleton.2 rfl, hlock⟩
  refine wp_calm_seq (stays_standing version) hL (looks_only fun hP => only_assertImageAvailable hP _ _) hstanding
    fun immutableReference tr hstanding => ?_
  refine wp_ask_seq ⟨CatalogOp.noConfusion, fun _ => ⟨hstanding.hasLock, .attached hstanding hdraft⟩⟩ fun _ => ?_
  exact wp_required fun _ _ => trivial

theorem wp_importImage (runtimeContractForApp : String → AppVersion → Option String) (appId imageReference : String) :
    wp VersionRule (importImage runtimeContractForApp appId imageReference) (OnOk fun _ _ => True) tr := by
  have hG : ∀ tr o, calm o = true → VersionRule tr o := fun _ _ => rule_of_calm
  have hL : ∀ tr o, calm o = true → LockedRule tr o := fun _ _ => lockedRule_of_calm
  refine wp_fromExcept_seq fun id _ => wp_ask_seq (rule_of_calm rfl) fun _ => wp_required_seq fun _ _ => ?_
  refine wp_ask_seq (rule_of_calm rfl) fun identity => ?_
  have hstays := stays_minted identity
  refine wp_calm_seq hstays hG (only_await rfl) (.inl rfl) fun createdAt tr hminted => ?_
  refine wp_required_seq fun contract _ => wp_fromExcept_seq fun runtimeContract _ => wp_fromExcept_seq fun reference _ => ?_
  refine wp_calm_seq hstays hG (looks_only fun hP => only_assertImageAvailable hP _ _) hminted
    fun immutableReference tr hminted => wp_throwIf_seq fun _ => ?_
  refine wp_calm_seq hstays hG (only_await rfl) hminted fun _ tr hminted => wp_withActivationLock ?_
  have hinside : HasLock (⟨.lock, .ok ()⟩ :: tr) ∧ Minted identity (⟨.lock, .ok ()⟩ :: tr) :=
    ⟨hasLock_lock, hminted.cons fun version hop => CatalogOp.noConfusion hop⟩
  have hstays := stays_hasLock.and (stays_minted identity)
  refine wp_calm_seq hstays hL (only_await rfl) hinside fun _ tr hinside => wp_required_seq fun _ _ => ?_
  refine wp_calm_seq hstays hL (only_await rfl) hinside fun _ tr hinside => ?_
  refine wp_ask_seq ⟨CatalogOp.noConfusion, fun _ => ⟨hinside.1, .new hinside.2 (.inr rfl) rfl rfl rfl⟩⟩ fun _ => ?_
  exact wp_required fun _ _ => trivial

theorem wp_activateVersion (appId versionId : String) (expectedRevision : Option Int) :
    wp VersionRule (activateVersion appId versionId expectedRevision) (OnOk fun _ _ => True) tr := by
  refine wp_withActivationLock ?_
  have hL : ∀ tr o, calm o = true → LockedRule tr o := fun _ _ => lockedRule_of_calm
  refine wp_fromExcept_seq fun normalizedAppId _ => ?_
  refine wp_calm_seq stays_hasLock hL (only_await rfl) hasLock_lock fun _ tr hlock => wp_required_seq fun _ _ => ?_
  refine wp_ask_seq (lockedRule_of_calm rfl) fun found => wp_required_seq fun version hversion => ?_
  obtain ⟨rfl, -⟩ := Option.filter_eq_some_iff.1 hversion
  refine wp_throwIf_seq fun hunarchived => wp_throwIf_seq fun himmutable => wp_required_seq fun _ _ => wp_throwIf_seq fun _ => ?_
  have hready : Draft version ∨ version.status = .active := by
    unfold Draft
    cases hstatus : version.status <;> simp_all
  have hstays := (stays_standing version).and (stays_mem ⟨.getAppVersion versionId, .ok (some version)⟩)
  have hread : Standing version (⟨.getAppVersion versionId, .ok (some version)⟩ :: tr) ∧
      ⟨.getAppVersion versionId, .ok (some version)⟩ ∈ (⟨.getAppVersion versionId, .ok (some version)⟩ :: tr : Exchanges) :=
    ⟨.inl ⟨List.mem_singleton.2 rfl, hlock⟩, List.mem_cons_self⟩
  refine wp_calm_seq hstays hL (looks_only fun hP => only_validateStoredArtifacts hP _) hread fun _ tr hread => ?_
  refine wp_calm_seq hstays hL (looks_only fun hP => only_assertImageAvailable hP _ _) hread fun _ tr hread => ?_
  refine wp_calm_seq hstays hL (only_await rfl) hread fun versions tr hread => ?_
  refine wp_calm_seq hstays hL (looks_only fun _ => only_checkExpected _ _) hread fun _ tr hread => ?_
  have hactivate : ∀ tr, Standing version tr ∧ ⟨.getAppVersion versionId, .ok (some version)⟩ ∈ tr →
      ∀ expected, LockedRule tr (.activateAppVersion normalizedAppId versionId expected) :=
    fun tr hread expected => ⟨CatalogOp.noConfusion, fun hfaithful => ⟨version, hread.1, hfaithful _ hread.2, hready⟩⟩
  dsimp only
  split
  · refine wp_calm_seq hstays hL (only_await rfl) hread fun _ tr hread => ?_
    exact wp_ask_seq (hactivate tr hread _) fun _ => wp_required fun _ _ => trivial
  · exact wp_ask_seq (hactivate tr hread _) fun _ => wp_required fun _ _ => trivial

/-! ## Pruning -/

theorem only_ifUnused {P : CatalogOp → Prop} {missing : String} {delete : CatalogTask Bool} (h : Only P delete) :
    Only P (ifUnused missing delete) :=
  only_tryCatch (only_bind h fun _ => only_pure _) fun _ => only_throwIf _ _

theorem only_releaseBuild {P : CatalogOp → Prop} (retired : List String) (build : ImageBuild)
    (hupdate : ∀ build expected, P (.updateBuild build expected)) : Only P (releaseBuild retired build) := by
  unfold releaseBuild
  split
  · exact only_pure _
  · refine only_bind (only_await (hupdate _ _)) fun updated => ?_
    split <;> exact only_pure _

theorem draft_of_eligible {snapshot : Snapshot} {retained : List String} {current version : AppVersion}
    (h : eligible snapshot retained current version = true) : Draft version := by
  unfold eligible at h
  unfold Draft
  cases hstatus : version.status <;> simp_all

/-- The versions that are left to archive stand, and none of them is another one. -/
def ToArchive (appId : String) (versions : List AppVersion) (rest : List AppVersion) (tr : Exchanges) : Prop :=
  HasLock tr ∧ ⟨.listAppVersions appId, .ok versions⟩ ∈ tr ∧ rest.Sublist versions ∧ (∀ version ∈ rest, Draft version) ∧
    (Faithful tr → ∀ version ∈ rest, Standing version tr)

theorem stays_toArchive (appId : String) (versions rest : List AppVersion) : Stays (ToArchive appId versions rest) := by
  rintro tr x hx ⟨hlock, hmem, hsub, hdraft, hstanding⟩
  exact ⟨hasLock_cons hlock (ne_unlock_of_calm hx), List.mem_cons_of_mem _ hmem, hsub, hdraft,
    fun hfaithful version hversion => (hstanding hfaithful.tail version hversion).calm hx⟩

/-- A version that is archived leaves the others as they stand. -/
theorem wp_pruneVersion {appId : String} {versions rest : List AppVersion} {version : AppVersion}
    (h : ToArchive appId versions (version :: rest) tr) :
    wp LockedRule (pruneVersion version) (OnOk fun _ => ToArchive appId versions rest) tr := by
  obtain ⟨hlock, hmem, hsub, hdraft, hstanding⟩ := h
  have hsave : LockedRule tr (.saveAppVersion (archived version)) :=
    ⟨CatalogOp.noConfusion, fun hfaithful =>
      ⟨hlock, .archived (hstanding hfaithful version List.mem_cons_self) (hdraft version List.mem_cons_self)⟩⟩
  refine wp_ask_seq hsave fun saved => ?_
  have hrest : ToArchive appId versions rest (⟨.saveAppVersion (archived version), .ok saved⟩ :: tr) := by
    refine ⟨hasLock_cons hlock CatalogOp.noConfusion, List.mem_cons_of_mem _ hmem, (List.sublist_cons_self _ _).trans hsub,
      fun other hother => hdraft other (List.mem_cons_of_mem _ hother), fun hfaithful other hother => ?_⟩
    refine (hstanding hfaithful.tail other (List.mem_cons_of_mem _ hother)).cons (decide_eq_false fun heq => ?_)
    -- the list has no version twice
    have hnodup : ((version :: rest).map AppVersion.id).Nodup := (hfaithful.tail _ hmem).sublist (hsub.map _)
    exact (List.nodup_cons.1 hnodup).1 (List.mem_map.2 ⟨other, hother, heq.symm⟩)
  cases saved with
  | none => exact (wp_pure _).2 hrest
  | some saved =>
    refine wp_calm_seq (stays_toArchive appId versions rest) (fun _ _ => lockedRule_of_calm) (only_settle (only_await rfl))
      hrest fun _ tr hrest => ?_
    exact (wp_pure _).2 hrest

theorem wp_pruneApp (snapshot : Snapshot) (previousRevisions : Nat) (app : AppDefinition) (hlock : HasLock tr) :
    wp LockedRule (pruneApp snapshot previousRevisions app) (OnOk fun _ => HasLock) tr := by
  have hL : ∀ tr o, calm o = true → LockedRule tr o := fun _ _ => lockedRule_of_calm
  refine wp_ask_seq (lockedRule_of_calm rfl) fun versions => ?_
  have hread : ToArchive app.id versions [] (⟨.listAppVersions app.id, .ok versions⟩ :: tr) ∧
      ∀ version ∈ versions, Standing version (⟨.listAppVersions app.id, .ok versions⟩ :: tr) := by
    refine ⟨⟨hasLock_cons hlock CatalogOp.noConfusion, List.mem_cons_self, List.nil_sublist _, fun _ h => ?_, fun _ _ h => ?_⟩,
      fun version hversion => .inl ⟨hversion, hlock⟩⟩ <;> exact absurd h List.not_mem_nil
  have hfiles : ∀ version : AppVersion, Only (fun o => calm o = true) (settle (ask (.removeStorage version.id))) :=
    fun version => only_settle (only_await rfl)
  refine wp_calm_seq (I := fun tr => ToArchive app.id versions [] tr ∧ ∀ version ∈ versions, Standing version tr)
    (fun tr x hx hi => ⟨stays_toArchive _ _ _ tr x hx hi.1, fun version hversion => (hi.2 version hversion).calm hx⟩) hL
    (only_each hfiles _) hread fun _ tr hread => ?_
  obtain ⟨⟨hlock, hmem, -, -, -⟩, hstanding⟩ := hread
  dsimp only
  split
  · exact (wp_pure _).2 hlock
  · next current _ =>
    refine wp_seq (P := fun _ => HasLock) ?_ fun _ _ hlock => (wp_pure _).2 hlock
    refine wp_onOk (wp_each_rest (I := ToArchive app.id versions) (fun _ _ _ => wp_pruneVersion) ?_) fun _ _ h => h.1
    exact ⟨hlock, hmem, List.filter_sublist, fun version hversion => draft_of_eligible (List.mem_filter.1 hversion).2,
      fun _ version hversion => hstanding version (List.mem_filter.1 hversion).1⟩

theorem wp_prune (previousRevisions : Nat) : wp VersionRule (withActivationLock (prune previousRevisions)) (OnOk fun _ _ => True) tr := by
  have hL : ∀ tr o, calm o = true → LockedRule tr o := fun _ _ => lockedRule_of_calm
  refine wp_withActivationLock ?_
  refine wp_throwIf_seq fun _ => ?_
  refine wp_calm_seq stays_hasLock hL (only_await rfl) hasLock_lock fun apps tr hlock => ?_
  refine wp_calm_seq stays_hasLock hL (only_await rfl) hlock fun containers tr hlock => ?_
  refine wp_calm_seq stays_hasLock hL (only_await rfl) hlock fun builds tr hlock => ?_
  refine wp_calm_seq stays_hasLock hL (only_await rfl) hlock fun imageArtifacts tr hlock => ?_
  refine wp_calm_seq stays_hasLock hL (only_await rfl) hlock fun activeRolloutTargets tr hlock => ?_
  refine wp_seq (P := fun _ => HasLock) ?_ fun pruned tr hlock => ?_
  · exact wp_each_rest (I := fun _ => HasLock) (fun app _ _ hlock => wp_pruneApp _ _ app hlock) hlock
  · refine wp_calm_seq stays_hasLock hL (only_each (fun build => only_releaseBuild _ build fun _ _ => rfl) _) hlock
      fun released tr hlock => ?_
    refine wp_calm_seq stays_hasLock hL (only_each (fun id => only_ifUnused
      (only_deleteImageArtifactWith (fun _ => looks_calm) id true fun _ => rfl)) _) hlock fun _ tr hlock => ?_
    refine wp_calm_seq stays_hasLock hL (only_each (fun id => only_ifUnused
      (only_deleteBuildPackageWith (fun _ => looks_calm) id true fun _ => rfl)) _) hlock fun _ tr _ => ?_
    exact (wp_pure _).2 trivial

theorem always_writer {β : Type} {f : α → β} {p : CatalogTask α} (h : ∀ tr, wp VersionRule p (OnOk fun _ _ => True) tr) :
    Always VersionRule (f <$> p) := by
  intro tr
  rw [wp_map]
  refine wp_post (h tr) fun r tr' _ => ?_
  cases r with
  | ok a => exact (wp_pure _).2 trivial
  | error e => trivial

/-- Whatever the call, a version is written under the lock and as it was read. -/
theorem always_run (runtimeContractForApp : String → AppVersion → Option String) (call : CatalogCall) :
    Always VersionRule (call.run runtimeContractForApp) := by
  have hlooks : ∀ o, looks o = true → calm o = true := fun _ => looks_calm
  cases call with
  | createRevision appId packages => exact always_writer fun _ => wp_createRevision appId packages
  | uploadInspectedVersion appId input => exact always_writer fun _ => wp_uploadInspectedVersion appId input
  | attachImage appId versionId imageReference => exact always_writer fun _ => wp_attachImage _ appId versionId imageReference
  | importImage appId imageReference => exact always_writer fun _ => wp_importImage _ appId imageReference
  | activateVersion appId versionId expectedRevision =>
    exact always_writer fun _ => wp_activateVersion appId versionId expectedRevision
  | prune previousRevisions => exact always_writer fun _ => wp_prune previousRevisions
  | launchTarget appId => exact always_calm (only_map _ (only_launchTarget hlooks appId))
  | createPackage pkg => exact always_calm (only_map _ (only_await rfl))
  | createBuild input => exact always_calm (only_map _ (only_createBuild hlooks input rfl fun _ => rfl))
  | executeBuild id => exact always_calm (only_map _ (only_executeBuild hlooks id rfl (fun _ _ => rfl) fun _ _ _ => rfl))
  | cancelBuild id => exact always_calm (only_map _ (only_finishBuild hlooks id .cancelled fun _ _ => rfl))
  | bindRelease appId versionId artifactId =>
    exact always_calm (only_map _ (only_bindRelease hlooks appId versionId artifactId fun _ _ _ => rfl))
  | deleteImageArtifact id => exact always_calm (only_map _ (only_deleteImageArtifactWith hlooks id false fun _ => rfl))
  | deleteBuildPackage id => exact always_calm (only_map _ (only_deleteBuildPackageWith hlooks id false fun _ => rfl))
  | provision container => exact always_calm (only_map _ (only_provision hlooks container fun _ => rfl))
  | rebuildLatest id => exact always_calm (only_map _ (only_rebuildLatest hlooks id fun _ => rfl))
  | deleteContainer id => exact always_calm (only_map _ (only_await rfl))
  | createRollout useLatestVersion template instanceIds =>
    exact always_calm (only_map _ (only_createRollout hlooks useLatestVersion template instanceIds fun _ => rfl))
  | progressItem rolloutId instanceId status =>
    exact always_calm (only_map _ (only_progressItem hlooks rolloutId instanceId status fun _ _ => rfl))
  | deployItem rolloutId instanceId =>
    exact always_calm (only_map _ (only_deployItem hlooks rolloutId instanceId (fun _ => rfl) fun _ _ => rfl))

end Writers

/-! ## The lock and the ids of the world -/

section World

variable {ρ : Type} {R : ImageRuntime ρ} {runtimeContractForApp : String → AppVersion → Option String} {w w' : World ρ}

/-- What a call leaves alone besides the store. -/
structure Frame (w w' : World ρ) (o : CatalogOp) : Prop where
  locked : o ≠ .lock → o ≠ .unlock → w'.locked = w.locked
  ids : o ≠ .randomId → w'.ids = w.ids

theorem stored_frame {α : Type} {o : CatalogOp} {x : Stored (α × CatalogStore)} {r : Except Failure α}
    (h : w.stored x = (r, w')) : Frame w w' o := by
  cases x with
  | ok found =>
    cases h
    exact ⟨fun _ _ => rfl, fun _ => rfl⟩
  | error message =>
    cases h
    exact ⟨fun _ _ => rfl, fun _ => rfl⟩

theorem write_frame {o : CatalogOp} {r : Except Failure o.Answer} (h : w.write R o = some (r, w')) : Frame w w' o := by
  cases o <;> simp only [World.write, reduceCtorEq, Option.some.injEq] at h
  case lock => exact ⟨fun hne _ => absurd rfl hne, fun _ => by split at h <;> cases h; rfl⟩
  case unlock => cases h; exact ⟨fun _ hne => absurd rfl hne, fun _ => rfl⟩
  case updateRolloutItem item next => split at h <;> cases h <;> exact ⟨fun _ _ => rfl, fun _ => rfl⟩
  all_goals first | exact stored_frame h | (cases h; exact ⟨fun _ _ => rfl, fun _ => rfl⟩)

theorem told_frame {o : CatalogOp} {x : CatalogChoice} {r : Except Failure o.Answer} (h : w.told R o x = some (r, w')) :
    Frame w w' o := by
  unfold World.told at h
  split at h
  · cases h; exact ⟨fun _ _ => rfl, fun _ => rfl⟩
  · split at h
    · cases h
    · cases h; exact ⟨fun _ _ => rfl, fun hne => absurd rfl hne⟩
  · cases h; exact ⟨fun _ _ => rfl, fun _ => rfl⟩
  · cases h; exact ⟨fun _ _ => rfl, fun _ => rfl⟩
  · cases h; exact ⟨fun _ _ => rfl, fun _ => rfl⟩
  · exact stored_frame (Option.some.inj h)
  · cases h

theorem perform_frame {o : CatalogOp} {x : CatalogChoice} {r : Except Failure o.Answer}
    (h : World.perform R w o x = some (r, w')) : Frame w w' o := by
  unfold World.perform at h
  split at h
  · split at h
    · cases h
    · cases h; exact ⟨fun _ _ => rfl, fun _ => rfl⟩
  · rcases Option.or_eq_some_iff.1 h with h | ⟨-, h⟩
    · exact write_frame h
    · obtain ⟨a, -, heq⟩ := Option.map_eq_some_iff.1 h
      cases heq
      exact ⟨fun _ _ => rfl, fun _ => rfl⟩
  · exact told_frame h

/-- A new id was not handed out before. -/
theorem perform_randomId {x : CatalogChoice} {r : Except Failure String} (h : World.perform R w .randomId x = some (r, w')) :
    ∃ id, r = .ok id ∧ id ∉ w.ids ∧ w'.ids = id :: w.ids := by
  cases x <;> simp only [World.perform, World.write, World.read, World.told, World.infallible] at h
  case text value =>
    split at h
    · cases h
    · next hnew =>
      cases h
      exact ⟨value, rfl, hnew, rfl⟩
  all_goals simp at h

theorem perform_lock {x : CatalogChoice} {a : Unit} (h : World.perform R w .lock x = some (.ok a, w')) :
    w.locked = false ∧ w'.locked = true := by
  cases x <;> simp only [World.perform, World.write, World.read, World.told, World.infallible] at h
  case go =>
    split at h
    · simp at h
    · next hfree =>
      cases h
      exact ⟨by simpa using hfree, rfl⟩
  all_goals simp at h

theorem perform_lock_failed {x : CatalogChoice} {error : Failure} (h : World.perform R w .lock x = some (.error error, w')) :
    w' = w := by
  cases x <;> simp only [World.perform, World.write, World.read, World.told, World.infallible] at h
  case fails => cases h; rfl
  case go => split at h <;> simp at h
  all_goals simp at h

theorem activationLock_guards : activationLock.Guards (catalogSystem R runtimeContractForApp) World.locked where
  acquire := by
    intro w w' o x r h hacquired
    obtain ⟨ho, hr⟩ := (Bool.and_eq_true _ _).mp hacquired
    obtain rfl := of_decide_eq_true ho
    cases r with
    | ok a => exact perform_lock h
    | error e => cases hr
  other := by
    intro w w' o x r h hacquired hrelease
    by_cases ho : o = .lock
    · subst ho
      cases r with
      | ok a => cases hacquired
      | error e => rw [perform_lock_failed h]
    · exact (perform_frame h).locked ho (of_decide_eq_false hrelease)

theorem randomIds_issued : Issues (catalogSystem R runtimeContractForApp) issuedId fun w id => id ∈ w.ids := by
  have hissued : ∀ {w w' : World ρ} {o x r} {id : String}, World.perform R w o x = some (r, w') →
      issuedId ⟨o, r⟩ = some id → id ∉ w.ids ∧ id ∈ w'.ids := by
    intro w w' o x r id h hissued
    unfold issuedId at hissued
    split at hissued
    · next heq =>
      cases heq
      cases hissued
      obtain ⟨new, heq, hnew, hids⟩ := perform_randomId h
      cases heq
      exact ⟨hnew, hids ▸ List.mem_cons_self⟩
    · cases hissued
  constructor
  · exact fun h hid => (hissued h hid).1
  · exact fun h hid => (hissued h hid).2
  · intro w w' o x r id h hmem
    by_cases ho : o = .randomId
    · subst ho
      obtain ⟨new, -, -, hids⟩ := perform_randomId h
      exact hids ▸ List.mem_cons_of_mem _ hmem
    · exact ((perform_frame h).ids ho).symm ▸ hmem

theorem listAppVersions_nodup (s : CatalogStore) (appId : String) : ((s.listAppVersions appId).map AppVersion.id).Nodup := by
  have hperm : (s.listAppVersions appId).Perm (s.versionsOf (toLowerCase (trim appId))) := List.perm_insertionSort _ _
  exact (hperm.map _).nodup_iff.2 (s.appVersions.nodup.sublist (List.filter_sublist.map _))

theorem read_answered {o : CatalogOp} {a : o.Answer} (h : w.read R o = some a) : Answered ⟨o, .ok a⟩ := by
  cases o <;> simp only [World.read, reduceCtorEq, Option.some.injEq] at h
  case listAppVersions appId =>
    subst h
    exact listAppVersions_nodup _ _
  case getAppVersion id =>
    subst h
    cases hget : w.store.getAppVersion id with
    | none => trivial
    | some version => exact Table.key_of_get hget
  all_goals trivial

/-- The world answers as it is asked. -/
theorem perform_answered {o : CatalogOp} {x : CatalogChoice} {r : Except Failure o.Answer}
    (h : World.perform R w o x = some (r, w')) : Answered ⟨o, r⟩ := by
  unfold World.perform at h
  split at h
  · split at h
    · cases h
    · cases h
      cases o <;> trivial
  · rcases Option.or_eq_some_iff.1 h with h | ⟨-, h⟩
    · cases o <;> simp only [World.write, reduceCtorEq] at h <;> trivial
    · obtain ⟨a, ha, heq⟩ := Option.map_eq_some_iff.1 h
      cases heq
      exact read_answered ha
  · unfold World.told at h
    split at h
    · trivial
    · trivial
    · trivial
    · trivial
    · trivial
    · trivial
    · cases h

end World

end OpenApp.Catalog
