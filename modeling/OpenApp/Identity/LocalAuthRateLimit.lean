import OpenApp.FixedWindow
import OpenApp.Script

/-!
# Limits on local authentication

An attempt is counted for its source and for its account, each per operation. It is refused where one of the two has
no room left, and then it counts for neither. Every 256th attempt is an occasion to forget what has expired.
-/

namespace OpenApp.Identity.RateLimit

open Script FixedWindow

inductive LocalAuthOperation
  | login
  | register
  | passwordSetup
  | passwordChange
  | externalPasswordCode
  | externalPasswordChange
  deriving DecidableEq

def LocalAuthOperation.text : LocalAuthOperation → String
  | .login => "login"
  | .register => "register"
  | .passwordSetup => "password-setup"
  | .passwordChange => "password-change"
  | .externalPasswordCode => "external-password-code"
  | .externalPasswordChange => "external-password-change"

structure LocalAuthRateLimitPolicy where
  windowMs : Nat
  attemptsPerSource : Nat
  attemptsPerAccount : Nat

abbrev LocalAuthRateLimitPolicies := LocalAuthOperation → LocalAuthRateLimitPolicy

def DEFAULT_LOCAL_AUTH_RATE_LIMIT_POLICIES : LocalAuthRateLimitPolicies
  | .login => ⟨15 * 60000, 60, 10⟩
  | .register => ⟨60 * 60000, 20, 3⟩
  | .passwordSetup => ⟨15 * 60000, 30, 5⟩
  | .passwordChange => ⟨15 * 60000, 60, 10⟩
  | .externalPasswordCode => ⟨15 * 60000, 30, 5⟩
  | .externalPasswordChange => ⟨15 * 60000, 30, 10⟩

structure LocalAuthRateLimiter where
  buckets : String → Option Bucket
  attemptsSinceCleanup : Nat

namespace LocalAuthRateLimiter

def new : LocalAuthRateLimiter := ⟨fun _ => none, 0⟩

/-- Forget what has expired, on every 256th attempt. -/
def cleanedUp (limiter : LocalAuthRateLimiter) (now : Int) : LocalAuthRateLimiter :=
  if limiter.attemptsSinceCleanup + 1 ≥ 256 then
    ⟨fun key => (limiter.buckets key).filter fun bucket => !decide (bucket.expiresAt ≤ now), 0⟩
  else { limiter with attemptsSinceCleanup := limiter.attemptsSinceCleanup + 1 }

end LocalAuthRateLimiter

/-- One call of `consume`, at the time the clock says. -/
structure Attempt where
  now : Int
  operation : LocalAuthOperation
  source : String
  account : String

/-- What an attempt is counted for: the key of the bucket and how much goes into it. -/
structure Dimension where
  key : String
  limit : Nat

section Consume

-- what JavaScript makes of a text in lower case, and the limits of each operation
variable (toLowerCase : String → String) (policies : LocalAuthRateLimitPolicies)

def sourceKey (operation : LocalAuthOperation) (source : String) : String :=
  operation.text ++ ":source:" ++ (if truthy (trim source) then trim source else "unknown")

def accountKey (operation : LocalAuthOperation) (account : String) : String :=
  operation.text ++ ":account:" ++ toLowerCase (trim account)

def Attempt.dimensions (attempt : Attempt) : List Dimension :=
  [⟨sourceKey attempt.operation attempt.source, (policies attempt.operation).attemptsPerSource⟩,
    ⟨accountKey toLowerCase attempt.operation attempt.account, (policies attempt.operation).attemptsPerAccount⟩]

namespace LocalAuthRateLimiter

/-- The bucket of a dimension, or a new one. -/
def bucketFor (limiter : LocalAuthRateLimiter) (attempt : Attempt) (dimension : Dimension) : Bucket :=
  current (policies attempt.operation).windowMs attempt.now (limiter.buckets dimension.key)

def set (limiter : LocalAuthRateLimiter) (key : String) (bucket : Bucket) : LocalAuthRateLimiter :=
  { limiter with buckets := Function.update limiter.buckets key (some bucket) }

/-- The attempt is refused, or counted for each of its dimensions. -/
def count (limiter : LocalAuthRateLimiter) (attempt : Attempt) : Bool × LocalAuthRateLimiter :=
  let dimensions := attempt.dimensions toLowerCase policies
  let buckets := dimensions.map fun dimension => (dimension, limiter.bucketFor policies attempt dimension)
  if buckets.any fun entry => entry.2.count ≥ entry.1.limit then (false, limiter)
  else (true, buckets.foldl (fun limiter entry => limiter.set entry.1.key (used entry.2)) limiter)

def consume (limiter : LocalAuthRateLimiter) (attempt : Attempt) : Bool × LocalAuthRateLimiter :=
  (limiter.cleanedUp attempt.now).count toLowerCase policies attempt

end LocalAuthRateLimiter

end Consume

/-- The answers to attempts one after the other. -/
def answers (consume : LocalAuthRateLimiter → Attempt → Bool × LocalAuthRateLimiter) :
    LocalAuthRateLimiter → List Attempt → List Bool
  | _, [] => []
  | limiter, attempt :: attempts => (consume limiter attempt).1 :: answers consume (consume limiter attempt).2 attempts

/-- The limiter after the attempts. -/
def afterAttempts (consume : LocalAuthRateLimiter → Attempt → Bool × LocalAuthRateLimiter) :
    LocalAuthRateLimiter → List Attempt → LocalAuthRateLimiter
  | limiter, [] => limiter
  | limiter, attempt :: attempts => afterAttempts consume (consume limiter attempt).2 attempts

end OpenApp.Identity.RateLimit
