import ProxSync.Lib.OrderedDict
import ProxSync.Schemas
/-!
# Sliding-window rate limiting

The limiter of one process: for every key the instants of the attempts recorded for it, oldest
first. Whether a key may proceed is asked without recording anything, and an attempt is recorded
later, when it has failed. Expired attempts are forgotten when their key is next looked at, and a
whole key when it is reset or when too many keys are newer.
-/
open ProxSync.Lib

namespace ProxSync.Auth

/-- What a limiter is configured with. -/
structure LimiterConfig where
  maxAttempts : Nat
  windowSeconds : Nat
  maxKeys : Nat

/-- The window in the unit of instants. -/
def LimiterConfig.window (config : LimiterConfig) : Nat := config.windowSeconds * 1000000

/-- How many instants are within the window that ends at an instant. -/
def LimiterConfig.recent (config : LimiterConfig) (now : Instant) (hits : List Instant) : Nat :=
  hits.countP fun hit => now ≤ hit + config.window

/-- Whether a key may proceed. -/
structure RateLimitDecision where
  allowed : Bool
  remaining : Nat
  retryAfterSeconds : Nat
  deriving DecidableEq, Repr

/-- The attempts of every key; the newest key was recorded last, or looked at first. -/
structure SlidingWindowLimiter where
  hits : OrderedDict String (List Instant)

namespace SlidingWindowLimiter

/-- A limiter without attempts. -/
def fresh : SlidingWindowLimiter := ⟨∅⟩

/-- Whether a key is in the dictionary. -/
def tracks (limiter : SlidingWindowLimiter) (key : String) : Bool :=
  (limiter.hits.lookup key).isSome

/-- The attempts of a key. -/
def hitsOf (limiter : SlidingWindowLimiter) (key : String) : List Instant :=
  (limiter.hits.lookup key).getD []

/-- The attempts of a key without the expired ones. -/
def prune (config : LimiterConfig) (limiter : SlidingWindowLimiter) (key : String) (now : Instant) :
    List Instant :=
  (limiter.hitsOf key).dropWhile fun hit => hit + config.window < now

/-- Ask whether a key may proceed, without recording an attempt. -/
def check (config : LimiterConfig) (limiter : SlidingWindowLimiter) (key : String)
    (now : Instant) : RateLimitDecision × SlidingWindowLimiter :=
  let window := limiter.prune config key now
  let decision : RateLimitDecision :=
    if window.length < config.maxAttempts then ⟨true, config.maxAttempts - window.length, 0⟩
    else ⟨false, 0, max 1 ((window.headD 0 + config.window - now) / 1000000)⟩
  (decision, ⟨OrderedDict.assign limiter.hits key window⟩)

/-- Record an attempt; its key becomes the newest, and the oldest keys beyond the limit go. -/
def record (config : LimiterConfig) (limiter : SlidingWindowLimiter) (key : String)
    (now : Instant) : SlidingWindowLimiter :=
  let window := limiter.prune config key now ++ [now]
  ⟨OrderedDict.newest (limiter.hits.insert key window) config.maxKeys⟩

/-- Forget a key. -/
def reset (limiter : SlidingWindowLimiter) (key : String) : SlidingWindowLimiter :=
  ⟨limiter.hits.erase key⟩

/-! ## Attempts after an operation -/

variable {config : LimiterConfig} {limiter : SlidingWindowLimiter} {key other : String}
variable {now later : Instant}

/-- The hits of a key are what is stored under it. -/
theorem hitsOf_of_lookup {window : List Instant} (found : limiter.hits.lookup key = some window) :
    limiter.hitsOf key = window := by
  rw [hitsOf, found, Option.getD_some]

/-- A check leaves the hits of its key that are still in the window. -/
theorem hitsOf_check : (limiter.check config key now).2.hitsOf key = limiter.prune config key now :=
  hitsOf_of_lookup OrderedDict.lookup_assign

/-- A check leaves the hits of other keys. -/
theorem hitsOf_check_ne (differ : other ≠ key) :
    (limiter.check config key now).2.hitsOf other = limiter.hitsOf other := by
  show ((OrderedDict.assign limiter.hits key _).lookup other).getD [] = limiter.hitsOf other
  rw [OrderedDict.lookup_assign_ne differ]
  rfl

/-- The attempts of a key that is still tracked after a record are among those before it. -/
theorem hitsOf_record (tracked : (limiter.record config key now).tracks other = true) :
    (limiter.record config key now).hitsOf other =
      if other = key then limiter.prune config key now ++ [now] else limiter.hitsOf other := by
  obtain ⟨window, found⟩ := Option.isSome_iff_exists.mp tracked
  rw [hitsOf_of_lookup found]
  have stored := OrderedDict.lookup_newest found
  split
  · rename_i same
    subst same
    rw [AList.lookup_insert] at stored
    exact (Option.some.inj stored).symm
  · rename_i differ
    rw [AList.lookup_insert_ne differ] at stored
    exact (hitsOf_of_lookup stored).symm

/-- A key that was reset is not tracked. -/
theorem tracks_reset : (limiter.reset key).tracks key = false := by
  unfold tracks reset
  rw [AList.lookup_erase]
  rfl

/-- A reset leaves the hits of other keys. -/
theorem hitsOf_reset_ne (differ : other ≠ key) :
    (limiter.reset key).hitsOf other = limiter.hitsOf other := by
  unfold hitsOf reset
  rw [AList.lookup_erase_ne differ]

/-! ## Attempts within a window -/

/-- Instants leave the window as time passes. -/
theorem recent_antitone (ordered : now ≤ later) (hits : List Instant) :
    config.recent later hits ≤ config.recent now hits := by
  apply List.countP_mono_left
  intro hit _ within
  exact decide_eq_true (ordered.trans (of_decide_eq_true within))

/-- Only expired attempts are pruned. -/
theorem recent_prune (ordered : now ≤ later) :
    config.recent later (limiter.prune config key now) =
      config.recent later (limiter.hitsOf key) := by
  unfold prune LimiterConfig.recent
  generalize limiter.hitsOf key = hits
  induction hits with
  | nil => rfl
  | cons hit rest ih =>
    by_cases expired : hit + config.window < now
    · have outside : ¬ later ≤ hit + config.window := not_le.mpr (expired.trans_le ordered)
      rw [List.dropWhile_cons_of_pos (by simpa using expired),
        List.countP_cons_of_neg (by simpa using outside)]
      exact ih
    · rw [List.dropWhile_cons_of_neg (by simpa using expired)]

/-- A key that may proceed has fewer recent attempts than the limit. -/
theorem recent_lt_of_allowed (allowed : (limiter.check config key now).1.allowed = true) :
    config.recent now (limiter.hitsOf key) < config.maxAttempts := by
  simp only [check] at allowed
  split at allowed
  · rename_i below
    rw [← recent_prune le_rfl]
    exact (List.countP_le_length).trans_lt below
  · cases allowed

end SlidingWindowLimiter

/-- How long an account is locked after a number of failures: a base that doubles with each failure,
up to a maximum. -/
def lockoutDurationSeconds (failedCount base maximum : Nat) : Nat :=
  if failedCount ≤ 0 then 0
  else
    let exponent := min (failedCount - 1) 16
    min (base * (1 <<< exponent)) maximum

/-- A lockout takes some time. -/
theorem lockoutDurationSeconds_pos {failedCount base maximum : Nat} (failed : 0 < failedCount)
    (baseTime : 0 < base) (maximumTime : 0 < maximum) :
    0 < lockoutDurationSeconds failedCount base maximum := by
  rw [lockoutDurationSeconds, if_neg (not_le.mpr failed)]
  simp only [Nat.one_shiftLeft]
  exact Nat.lt_min.mpr ⟨Nat.mul_pos baseTime (Nat.two_pow_pos _), maximumTime⟩

end ProxSync.Auth
