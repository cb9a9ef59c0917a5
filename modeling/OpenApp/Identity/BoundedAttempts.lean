import OpenApp.Identity.LocalAuthRateLimit

/-!
# Attempts are bounded

Two limiters that know the same buckets, as far as they have not expired, answer the same from then on. So it does
not matter when the expired ones are forgotten, and a refused attempt leaves no trace. What an attempt does reach are
the attempts that share a bucket with it, and through a refusal those that share the other bucket of these.
-/

namespace OpenApp.Identity.RateLimit

open Script FixedWindow

variable {toLowerCase : String → String} {policies : LocalAuthRateLimitPolicies}

/-! ## Keys -/

theorem append_colon_inj {a b r r' : List Char} (ha : ':' ∉ a) (hb : ':' ∉ b) (h : a ++ ':' :: r = b ++ ':' :: r') :
    a = b ∧ r = r' := by
  induction a generalizing b with
  | nil =>
    cases b with
    | nil => simpa using h
    | cons d b =>
      obtain ⟨rfl, -⟩ := List.cons.inj h
      exact absurd List.mem_cons_self hb
  | cons c a ih =>
    cases b with
    | nil =>
      obtain ⟨rfl, -⟩ := List.cons.inj h
      exact absurd List.mem_cons_self ha
    | cons d b =>
      obtain ⟨rfl, htail⟩ := List.cons.inj h
      obtain ⟨rfl, rfl⟩ := ih (List.not_mem_of_not_mem_cons ha) (List.not_mem_of_not_mem_cons hb) htail
      exact ⟨rfl, rfl⟩

theorem colon_notMem_text (operation : LocalAuthOperation) : ':' ∉ operation.text.toList := by
  cases operation <;> decide

theorem text_injective {operation operation' : LocalAuthOperation} (h : operation.text.toList = operation'.text.toList) :
    operation = operation' := by
  cases operation <;> cases operation' <;> first | rfl | exact absurd h (by decide)

/-- Keys agree in their operation and in the letter after it. -/
theorem key_inj {operation operation' : LocalAuthOperation} {rest rest' value value' : String} {c c' : Char}
    {cs cs' : List Char} (h : operation.text ++ rest ++ value = operation'.text ++ rest' ++ value')
    (hrest : rest.toList = ':' :: c :: cs) (hrest' : rest'.toList = ':' :: c' :: cs') : operation = operation' ∧ c = c' := by
  have hlist := congrArg String.toList h
  simp only [String.toList_append, hrest, hrest', List.cons_append, List.append_assoc] at hlist
  obtain ⟨htext, htail⟩ := append_colon_inj (colon_notMem_text operation) (colon_notMem_text operation') hlist
  simp only [List.cons.injEq] at htail
  exact ⟨text_injective htext, htail.1⟩

theorem sourceKey_operation {operation operation' : LocalAuthOperation} {source source' : String}
    (h : sourceKey operation source = sourceKey operation' source') : operation = operation' :=
  (key_inj h rfl rfl).1

theorem accountKey_operation {operation operation' : LocalAuthOperation} {account account' : String}
    (h : accountKey toLowerCase operation account = accountKey toLowerCase operation' account') : operation = operation' :=
  (key_inj h rfl rfl).1

theorem sourceKey_ne_accountKey (operation operation' : LocalAuthOperation) (source account : String) :
    sourceKey operation source ≠ accountKey toLowerCase operation' account := by
  intro h
  have hletter := (key_inj h rfl rfl).2
  exact absurd hletter (by decide)

/-- The keys of an attempt. -/
def Attempt.keys (toLowerCase : String → String) (attempt : Attempt) : List String :=
  [sourceKey attempt.operation attempt.source, accountKey toLowerCase attempt.operation attempt.account]

@[simp] theorem dimensions_keys (attempt : Attempt) :
    (attempt.dimensions toLowerCase policies).map Dimension.key = attempt.keys toLowerCase := rfl

/-! ## What an attempt does to the buckets -/

namespace LocalAuthRateLimiter

variable {limiter limiter' : LocalAuthRateLimiter} {attempt : Attempt} {now : Int}

/-- There is room in each dimension. -/
def HasRoom (toLowerCase : String → String) (policies : LocalAuthRateLimitPolicies) (limiter : LocalAuthRateLimiter)
    (attempt : Attempt) : Prop :=
  ∀ dimension ∈ attempt.dimensions toLowerCase policies, (limiter.bucketFor policies attempt dimension).count < dimension.limit

theorem count_accepts : (limiter.count toLowerCase policies attempt).1 = true ↔
    limiter.HasRoom toLowerCase policies attempt := by
  unfold count HasRoom
  dsimp only
  split
  · next hfull =>
    simp only [List.any_eq_true, List.mem_map] at hfull
    obtain ⟨_, ⟨dimension, hmem, rfl⟩, hfull⟩ := hfull
    refine ⟨nofun, fun hroom => ?_⟩
    have := hroom dimension hmem
    simp only [decide_eq_true_eq] at hfull
    omega
  · next hroom =>
    refine ⟨fun _ dimension hmem => ?_, fun _ => rfl⟩
    by_contra hfull
    refine hroom (List.any_eq_true.2 ⟨_, List.mem_map.2 ⟨dimension, hmem, rfl⟩, ?_⟩)
    simp only [decide_eq_true_eq]
    omega

theorem count_of_refused (h : (limiter.count toLowerCase policies attempt).1 = false) :
    (limiter.count toLowerCase policies attempt).2 = limiter := by
  unfold count at h ⊢
  dsimp only at h ⊢
  split at h
  · next hfull => rw [if_pos hfull]
  · cases h

/-- An attempt that is accepted is counted under its two keys. -/
theorem buckets_of_accepted (h : (limiter.count toLowerCase policies attempt).1 = true) (key : String) :
    (limiter.count toLowerCase policies attempt).2.buckets key =
      if key ∈ attempt.keys toLowerCase then
        some (used (current (policies attempt.operation).windowMs attempt.now (limiter.buckets key)))
      else limiter.buckets key := by
  unfold count at h ⊢
  dsimp only at h ⊢
  split at h
  · cases h
  · next hroom =>
    rw [if_neg hroom]
    have hne := @sourceKey_ne_accountKey toLowerCase attempt.operation attempt.operation attempt.source attempt.account
    by_cases hsource : key = sourceKey attempt.operation attempt.source
    · subst hsource
      simp [Attempt.dimensions, Attempt.keys, set, bucketFor, hne]
    · by_cases haccount : key = accountKey toLowerCase attempt.operation attempt.account
      · subst haccount
        simp [Attempt.dimensions, Attempt.keys, set, bucketFor, hne.symm]
      · simp [Attempt.dimensions, Attempt.keys, set, bucketFor, hsource, haccount]

/-! ## Limiters that know the same -/

/-- The bucket as long as it has not expired. -/
def known (now : Int) (bucket : Option Bucket) : Option Bucket :=
  bucket.filter fun bucket => decide (now < bucket.expiresAt)

theorem current_known (length : Nat) (now : Int) (bucket : Option Bucket) :
    current length now (known now bucket) = current length now bucket := by
  cases bucket with
  | none => rfl
  | some bucket => by_cases h : now < bucket.expiresAt <;> simp [known, current, Option.filter, h]

theorem known_mono {bucket bucket' : Option Bucket} {later : Int} (hle : now ≤ later)
    (h : known now bucket = known now bucket') : known later bucket = known later bucket' := by
  have hfilter : ∀ bucket, known later (known now bucket) = known later bucket := by
    intro bucket
    unfold known
    rw [Option.filter_filter]
    congr 1
    funext bucket
    by_cases hlater : later < bucket.expiresAt
    · simp only [hlater, decide_true, Bool.and_true, decide_eq_true_eq]
      omega
    · simp [hlater]
  rw [← hfilter bucket, h, hfilter]

/-- The limiters know the same buckets under these keys. -/
def Same (keys : String → Prop) (now : Int) (limiter limiter' : LocalAuthRateLimiter) : Prop :=
  ∀ key, keys key → known now (limiter.buckets key) = known now (limiter'.buckets key)

variable {keys : String → Prop}

theorem Same.refl (limiter : LocalAuthRateLimiter) : Same keys now limiter limiter := fun _ _ => rfl

theorem Same.symm (h : Same keys now limiter limiter') : Same keys now limiter' limiter := fun key hkey => (h key hkey).symm

theorem Same.trans {limiter'' : LocalAuthRateLimiter} (h : Same keys now limiter limiter')
    (h' : Same keys now limiter' limiter'') : Same keys now limiter limiter'' :=
  fun key hkey => (h key hkey).trans (h' key hkey)

theorem Same.mono {later : Int} (h : Same keys now limiter limiter') (hle : now ≤ later) : Same keys later limiter limiter' :=
  fun key hkey => known_mono hle (h key hkey)

theorem Same.current (h : Same keys now limiter limiter') {key : String} (hkey : keys key) (length : Nat) :
    current length now (limiter.buckets key) = current length now (limiter'.buckets key) := by
  rw [← current_known, h key hkey, current_known]

/-- What is forgotten has expired. -/
theorem same_cleanedUp : Same keys now (limiter.cleanedUp now) limiter := by
  intro key _
  unfold cleanedUp
  split
  · dsimp only
    unfold known
    rw [Option.filter_filter]
    congr 1
    funext bucket
    by_cases hexpired : now < bucket.expiresAt <;> simp [hexpired]
  · rfl

/-- An attempt whose keys are among those that both limiters know is answered the same. -/
theorem Same.accepts (h : Same keys attempt.now limiter limiter') (hkeys : ∀ key ∈ attempt.keys toLowerCase, keys key) :
    (limiter.count toLowerCase policies attempt).1 = (limiter'.count toLowerCase policies attempt).1 := by
  rw [Bool.eq_iff_iff, count_accepts, count_accepts]
  refine forall₂_congr fun dimension hmem => ?_
  have hkey : dimension.key ∈ attempt.keys toLowerCase := by
    rw [← @dimensions_keys toLowerCase policies]
    exact List.mem_map_of_mem hmem
  rw [bucketFor, bucketFor, h.current (hkeys _ hkey)]

theorem Same.count (h : Same keys attempt.now limiter limiter') (hkeys : ∀ key ∈ attempt.keys toLowerCase, keys key) :
    Same keys attempt.now (limiter.count toLowerCase policies attempt).2 (limiter'.count toLowerCase policies attempt).2 := by
  have haccepts : (limiter.count toLowerCase policies attempt).1 = (limiter'.count toLowerCase policies attempt).1 :=
    h.accepts hkeys
  cases haccepted : (limiter.count toLowerCase policies attempt).1 with
  | false => rwa [count_of_refused haccepted, count_of_refused (haccepts.symm.trans haccepted)]
  | true =>
    intro key hkey
    rw [buckets_of_accepted haccepted, buckets_of_accepted (haccepts.symm.trans haccepted), h.current hkey]
    split
    · rfl
    · exact h key hkey

/-- An attempt changes nothing under the keys that it does not have. -/
theorem same_count (hkeys : ∀ key ∈ attempt.keys toLowerCase, ¬ keys key) :
    Same keys now (limiter.count toLowerCase policies attempt).2 limiter := by
  cases haccepted : (limiter.count toLowerCase policies attempt).1 with
  | false =>
    rw [count_of_refused haccepted]
    exact .refl limiter
  | true =>
    intro key hkey
    rw [buckets_of_accepted haccepted, if_neg fun hmem => hkeys key hmem hkey]

/-! ## Runs -/

/-- The attempt is counted, whatever was forgotten before that had expired. -/
def Consumes (toLowerCase : String → String) (policies : LocalAuthRateLimitPolicies)
    (consume : LocalAuthRateLimiter → Attempt → Bool × LocalAuthRateLimiter) : Prop :=
  ∀ limiter attempt, ∃ limiter', Same (fun _ => True) attempt.now limiter' limiter ∧
    consume limiter attempt = limiter'.count toLowerCase policies attempt

theorem consumes_consume : Consumes toLowerCase policies (consume toLowerCase policies) :=
  fun limiter attempt => ⟨limiter.cleanedUp attempt.now, same_cleanedUp, rfl⟩

theorem consumes_count : Consumes toLowerCase policies (count toLowerCase policies) :=
  fun limiter _ => ⟨limiter, .refl limiter, rfl⟩

/-- The clock does not go back. -/
def Timely (attempts : List Attempt) : Prop :=
  attempts.Pairwise fun earlier later => earlier.now ≤ later.now

variable {consume consume' : LocalAuthRateLimiter → Attempt → Bool × LocalAuthRateLimiter} {attempts : List Attempt}

theorem Same.of_true (h : Same (fun _ => True) now limiter limiter') : Same keys now limiter limiter' :=
  fun key _ => h key trivial

/-- Limiters that know the same answer the same, however they clean up. -/
theorem answers_same (hconsume : Consumes toLowerCase policies consume) (hconsume' : Consumes toLowerCase policies consume')
    (h : Same (fun _ => True) now limiter limiter') (hnow : ∀ attempt ∈ attempts, now ≤ attempt.now) (htimely : Timely attempts) :
    answers consume limiter attempts = answers consume' limiter' attempts := by
  induction attempts generalizing now limiter limiter' with
  | nil => rfl
  | cons attempt attempts ih =>
    obtain ⟨hlater, htimely⟩ := List.pairwise_cons.1 htimely
    obtain ⟨left, hleft, heq⟩ := hconsume limiter attempt
    obtain ⟨right, hright, heq'⟩ := hconsume' limiter' attempt
    have hboth : Same (fun _ => True) attempt.now left right :=
      (hleft.trans (h.mono (hnow attempt List.mem_cons_self))).trans hright.symm
    have hkeys : ∀ key ∈ attempt.keys toLowerCase, True := fun _ _ => trivial
    rw [answers, answers, heq, heq', hboth.accepts hkeys, ih (hboth.count hkeys) hlater htimely]

/-- A refused attempt leaves what was known. -/
theorem same_of_refused (hconsume : Consumes toLowerCase policies consume) (h : (consume limiter attempt).1 = false) :
    Same (fun _ => True) attempt.now (consume limiter attempt).2 limiter := by
  obtain ⟨limiter', hsame, heq⟩ := hconsume limiter attempt
  rw [heq] at h ⊢
  rwa [count_of_refused h]

/-- The answers to the attempts that are not left out. -/
def answersWithout (leftOut : Attempt → Bool) (attempts : List Attempt) (answered : List Bool) : List Bool :=
  ((attempts.zip answered).filter fun entry => !leftOut entry.1).map Prod.snd

/-- Attempts that share no key with the others might as well not have been made. -/
theorem answers_without (hconsume : Consumes toLowerCase policies consume) {leftOut : Attempt → Bool}
    (hleftOut : ∀ attempt ∈ attempts, leftOut attempt = true → ∀ key ∈ attempt.keys toLowerCase, ¬ keys key)
    (hkept : ∀ attempt ∈ attempts, leftOut attempt = false → ∀ key ∈ attempt.keys toLowerCase, keys key)
    (h : Same keys now limiter limiter') (hnow : ∀ attempt ∈ attempts, now ≤ attempt.now) (htimely : Timely attempts) :
    answersWithout leftOut attempts (answers consume limiter attempts) =
      answers consume limiter' (attempts.filter fun attempt => !leftOut attempt) := by
  induction attempts generalizing now limiter limiter' with
  | nil => rfl
  | cons attempt attempts ih =>
    obtain ⟨hlater, htimely⟩ := List.pairwise_cons.1 htimely
    rw [List.forall_mem_cons] at hleftOut hkept hnow
    obtain ⟨left, hleft, heq⟩ := hconsume limiter attempt
    have hknown : Same keys attempt.now left limiter := hleft.of_true
    have hsame := hknown.trans (h.mono hnow.1)
    cases hout : leftOut attempt with
    | true =>
      -- what is left out changes nothing that the others know
      have hcounted : Same keys attempt.now (left.count toLowerCase policies attempt).2 left := same_count (hleftOut.1 hout)
      have hrest := ih hleftOut.2 hkept.2 (hcounted.trans hsame) hlater htimely
      simpa [answersWithout, answers, hout, heq] using hrest
    | false =>
      obtain ⟨right, hright, heq'⟩ := hconsume limiter' attempt
      have hboth := hsame.trans hright.of_true.symm
      have haccepts : (left.count toLowerCase policies attempt).1 = (right.count toLowerCase policies attempt).1 :=
        hboth.accepts (hkept.1 hout)
      have hcounted : Same keys attempt.now (left.count toLowerCase policies attempt).2
          (right.count toLowerCase policies attempt).2 := hboth.count (hkept.1 hout)
      have hrest := ih hleftOut.2 hkept.2 hcounted hlater htimely
      simpa [answersWithout, answers, hout, heq, heq', haccepts] using hrest

/-! ## What is counted -/

/-- When attempts were accepted that have the key. -/
def countedAt (toLowerCase : String → String) (key : String) (attempts : List Attempt) (answered : List Bool) : List Int :=
  ((attempts.zip answered).filter fun entry => entry.2 && decide (key ∈ entry.1.keys toLowerCase)).map fun entry => entry.1.now

theorem timely_zip (htimely : Timely attempts) (answered : List Bool) :
    (attempts.zip answered).Pairwise fun earlier later => earlier.1.now ≤ later.1.now := by
  induction attempts generalizing answered with
  | nil => simp
  | cons attempt attempts ih =>
    cases answered with
    | nil => simp
    | cons answer answered =>
      obtain ⟨hlater, htimely⟩ := List.pairwise_cons.1 htimely
      rw [List.zip_cons_cons, List.pairwise_cons]
      exact ⟨fun entry hentry => hlater entry.1 (List.of_mem_zip hentry).1, ih htimely answered⟩

theorem sorted_countedAt (htimely : Timely attempts) (key : String) (answered : List Bool) :
    (countedAt toLowerCase key attempts answered).Pairwise (· ≤ ·) := by
  unfold countedAt
  rw [List.pairwise_map]
  exact (timely_zip htimely answered).filter _

/-- Whatever is counted under a key has found room under it. -/
theorem admits_countedAt {key : String} {length limit : Nat}
    (hpolicy : ∀ attempt ∈ attempts, ∀ dimension ∈ attempt.dimensions toLowerCase policies, dimension.key = key →
      (policies attempt.operation).windowMs = length ∧ dimension.limit = limit) :
    Admits length limit (limiter.buckets key)
      (countedAt toLowerCase key attempts (answers (count toLowerCase policies) limiter attempts)) := by
  induction attempts generalizing limiter with
  | nil => trivial
  | cons attempt attempts ih =>
    rw [List.forall_mem_cons] at hpolicy
    have hrest := @ih (limiter.count toLowerCase policies attempt).2 hpolicy.2
    cases haccepted : (limiter.count toLowerCase policies attempt).1 with
    | false =>
      rw [count_of_refused haccepted] at hrest
      simpa [countedAt, answers, haccepted, count_of_refused haccepted] using hrest
    | true =>
      rw [buckets_of_accepted haccepted] at hrest
      by_cases hkey : key ∈ attempt.keys toLowerCase
      · rw [if_pos hkey] at hrest
        rw [← @dimensions_keys toLowerCase policies] at hkey
        obtain ⟨dimension, hmem, rfl⟩ := List.mem_map.1 hkey
        obtain ⟨rfl, rfl⟩ := hpolicy.1 dimension hmem rfl
        have hroom := count_accepts.1 haccepted dimension hmem
        have hmem' : dimension.key ∈ attempt.keys toLowerCase := List.mem_map_of_mem (f := Dimension.key) hmem
        have hcounted : countedAt toLowerCase dimension.key (attempt :: attempts)
            (answers (count toLowerCase policies) limiter (attempt :: attempts)) =
              attempt.now :: countedAt toLowerCase dimension.key attempts
                (answers (count toLowerCase policies) (limiter.count toLowerCase policies attempt).2 attempts) := by
          simp [countedAt, answers, haccepted, hmem']
        rw [hcounted]
        exact ⟨hroom, hrest⟩
      · rw [if_neg hkey] at hrest
        simpa [countedAt, answers, haccepted, hkey] using hrest

theorem source_policy {attempt : Attempt} {operation : LocalAuthOperation} {source : String} {dimension : Dimension}
    (hmem : dimension ∈ attempt.dimensions toLowerCase policies) (hkey : dimension.key = sourceKey operation source) :
    (policies attempt.operation).windowMs = (policies operation).windowMs ∧
      dimension.limit = (policies operation).attemptsPerSource := by
  simp only [Attempt.dimensions, List.mem_cons, List.not_mem_nil, or_false] at hmem
  rcases hmem with rfl | rfl
  · obtain rfl := sourceKey_operation hkey
    exact ⟨rfl, rfl⟩
  · exact absurd hkey.symm (sourceKey_ne_accountKey _ _ _ _)

theorem account_policy {attempt : Attempt} {operation : LocalAuthOperation} {account : String} {dimension : Dimension}
    (hmem : dimension ∈ attempt.dimensions toLowerCase policies) (hkey : dimension.key = accountKey toLowerCase operation account) :
    (policies attempt.operation).windowMs = (policies operation).windowMs ∧
      dimension.limit = (policies operation).attemptsPerAccount := by
  simp only [Attempt.dimensions, List.mem_cons, List.not_mem_nil, or_false] at hmem
  rcases hmem with rfl | rfl
  · exact absurd hkey (sourceKey_ne_accountKey _ _ _ _)
  · obtain rfl := accountKey_operation hkey
    exact ⟨rfl, rfl⟩

/-! ## The limits, and what attempts have to do with each other -/

theorem exists_before (htimely : Timely attempts) : ∃ now, ∀ attempt ∈ attempts, now ≤ attempt.now := by
  cases attempts with
  | nil => exact ⟨0, by simp⟩
  | cons attempt attempts =>
    refine ⟨attempt.now, ?_⟩
    rw [List.forall_mem_cons]
    exact ⟨Int.le_refl _, (List.pairwise_cons.1 htimely).1⟩

theorem answers_consume_eq_count (htimely : Timely attempts) :
    answers (LocalAuthRateLimiter.consume toLowerCase policies) limiter attempts =
      answers (count toLowerCase policies) limiter attempts := by
  obtain ⟨now, hnow⟩ := exists_before htimely
  exact answers_same consumes_consume consumes_count (.refl limiter) hnow htimely

/-- The limits of each key hold; a refused attempt leaves no trace; attempts that share no key with the others, directly
or through others, change no answer to them; and it makes no difference that what has expired is forgotten. -/
structure LocalAuthBounded (toLowerCase : String → String) (policies : LocalAuthRateLimitPolicies) (attempts : List Attempt) :
    Prop where
  sources : ∀ operation source, Bounded (policies operation).windowMs (policies operation).attemptsPerSource
    (countedAt toLowerCase (sourceKey operation source) attempts
      (answers (LocalAuthRateLimiter.consume toLowerCase policies) new attempts))
  accounts : ∀ operation account, Bounded (policies operation).windowMs (policies operation).attemptsPerAccount
    (countedAt toLowerCase (accountKey toLowerCase operation account) attempts
      (answers (LocalAuthRateLimiter.consume toLowerCase policies) new attempts))
  refused : ∀ before attempt after, attempts = before ++ attempt :: after →
    let consume := LocalAuthRateLimiter.consume toLowerCase policies
    let limiter := afterAttempts consume new before
    (consume limiter attempt).1 = false → answers consume (consume limiter attempt).2 after = answers consume limiter after
  apart : ∀ leftOut : Attempt → Bool,
    (∀ attempt ∈ attempts, ∀ kept ∈ attempts, leftOut attempt = true → leftOut kept = false →
      ∀ key ∈ attempt.keys toLowerCase, key ∉ kept.keys toLowerCase) →
    answersWithout leftOut attempts (answers (LocalAuthRateLimiter.consume toLowerCase policies) new attempts) =
      answers (LocalAuthRateLimiter.consume toLowerCase policies) new (attempts.filter fun attempt => !leftOut attempt)
  cleanup : answers (LocalAuthRateLimiter.consume toLowerCase policies) new attempts =
    answers (count toLowerCase policies) new attempts

theorem localAuth_bounded (htimely : Timely attempts) : LocalAuthBounded toLowerCase policies attempts := by
  refine ⟨fun operation source => ?_, fun operation account => ?_, ?_, ?_, answers_consume_eq_count htimely⟩
  · rw [answers_consume_eq_count htimely]
    refine bounded_of_admits ?_ (sorted_countedAt htimely _ _)
    exact @admits_countedAt toLowerCase policies new attempts _ _ _ fun attempt _ dimension hmem hkey => source_policy hmem hkey
  · rw [answers_consume_eq_count htimely]
    refine bounded_of_admits ?_ (sorted_countedAt htimely _ _)
    exact @admits_countedAt toLowerCase policies new attempts _ _ _ fun attempt _ dimension hmem hkey => account_policy hmem hkey
  · rintro before attempt after rfl
    intro consume limiter hrefused
    obtain ⟨-, hafter, -⟩ := List.pairwise_append.1 htimely
    obtain ⟨hlater, hafter⟩ := List.pairwise_cons.1 hafter
    exact answers_same consumes_consume consumes_consume (same_of_refused consumes_consume hrefused) hlater hafter
  · intro leftOut hapart
    obtain ⟨now, hnow⟩ := exists_before htimely
    -- what the kept attempts go by
    let keys : String → Prop := fun key => ∃ kept ∈ attempts, leftOut kept = false ∧ key ∈ kept.keys toLowerCase
    refine @answers_without toLowerCase policies new new now keys _ attempts consumes_consume leftOut ?_ ?_ (.refl new) hnow htimely
    · rintro attempt hmem hout key hkey ⟨kept, hkept, hin, hshared⟩
      exact hapart attempt hmem kept hkept hout hin key hkey hshared
    · exact fun attempt hmem hin key hkey => ⟨attempt, hmem, hin, hkey⟩

theorem two_logins_bounded : LocalAuthBounded Script.toLowerCase DEFAULT_LOCAL_AUTH_RATE_LIMIT_POLICIES
    [⟨0, .login, "10.0.0.1", "ada@example.org"⟩, ⟨900000, .login, "10.0.0.1", "ADA@example.org"⟩] :=
  localAuth_bounded (by unfold Timely; decide)

/-- With the third registration of an account, a fourth one from elsewhere is refused; so there is room at that other
place for one more, which has nothing to do with the third. -/
theorem registration_reaches_others :
    let consume := LocalAuthRateLimiter.consume Script.toLowerCase DEFAULT_LOCAL_AUTH_RATE_LIMIT_POLICIES
    let before : List Attempt := [⟨0, .register, "here", "ada"⟩, ⟨0, .register, "here", "ada"⟩]
    let third : Attempt := ⟨0, .register, "here", "ada"⟩
    let after : List Attempt := ⟨0, .register, "there", "ada"⟩ ::
      (List.range 19).map fun n => ⟨0, .register, "there", toString n⟩
    let last : Attempt := ⟨0, .register, "there", "eve"⟩
    Timely (before ++ third :: after ++ [last]) ∧
      (∀ key ∈ third.keys Script.toLowerCase, key ∉ last.keys Script.toLowerCase) ∧
      (consume (afterAttempts consume new (before ++ third :: after)) last).1 = true ∧
      (consume (afterAttempts consume new (before ++ after)) last).1 = false := by
  unfold Timely
  decide +kernel

end LocalAuthRateLimiter

end OpenApp.Identity.RateLimit
