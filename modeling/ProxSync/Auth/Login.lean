import ProxSync.Auth.RateLimit
import ProxSync.Lib.System
/-!
# Login attempts

An attempt asks the limiter, reads the user, verifies the password and commits what came of it. The
limiter is charged when a verification fails, and the counter and the lock are computed from the row
that was read; the write leaves out the columns that did not change. Other attempts may take steps
between any two of these, and the limiter is lost with its process. The instants of the
verifications and the committed outcomes are remembered, which the program does not store.
-/
open ProxSync.Lib

namespace ProxSync.Auth.Login

/-- What logins read and write of a user. -/
structure User where
  passwordHash : String
  isActive : Bool
  failedLoginCount : Nat
  lockedUntil : Option Instant
  lastLoginAt : Option Instant
  lastLoginIp : Option String
  deriving DecidableEq, Repr

/-- The settings of logins, which are positive. -/
structure Settings where
  loginMaxAttempts : Nat
  loginAttemptWindowSeconds : Nat
  loginLockoutBaseSeconds : Nat
  loginLockoutMaxSeconds : Nat
  attempts_pos : 0 < loginMaxAttempts
  base_pos : 0 < loginLockoutBaseSeconds
  max_pos : 0 < loginLockoutMaxSeconds

/-- The limiter of logins. -/
def Settings.limiter (settings : Settings) : LimiterConfig :=
  ⟨settings.loginMaxAttempts, settings.loginAttemptWindowSeconds, 4096⟩

/-- The settings, the case folding of usernames and the password hashing. -/
structure Service where
  settings : Settings
  normaliseUsername : String → String
  verify : (passwordHash password : String) → Bool
  needsRehash : (passwordHash : String) → Bool

/-- What a client asks for, and how often its key had been charged when the limiter let it
through. -/
structure Request where
  username : String
  password : String
  ip : Option String
  charged : Nat
  deriving DecidableEq

/-- The key of an address and a username. -/
def limiterKey (ip : Option String) (normalised : String) : String :=
  let address := ip.getD ""
  (if address = "" then "unknown" else address) ++ "|" ++ normalised

/-- What a request is counted under. -/
def Request.key (request : Request) : String := limiterKey request.ip request.username

/-- What a verification led to. -/
inductive Verdict
  | failed (now : Instant)
  | succeeded (now : Instant) (passwordHash : String)
  deriving DecidableEq

/-- How far an attempt is, with what it read. -/
inductive Attempt
  /-- The limiter let it through. -/
  | admitted (request : Request)
  | read (request : Request) (user : Option User)
  | verified (request : Request) (user : User) (verdict : Verdict)
  deriving DecidableEq

/-- Why an attempt is refused. -/
inductive LoginError
  | rateLimited (retryAfter : Nat)
  | authenticationFailed (detail : String)
  | accountLocked (remaining : Nat)
  deriving DecidableEq

/-- What every failed login is told. -/
def genericLoginFailure : String := "Invalid username or password"

/-- The text of a refusal. -/
def LoginError.detail : LoginError → String
  | .rateLimited _ => "Too many login attempts. Try again shortly."
  | .authenticationFailed detail => detail
  | .accountLocked remaining =>
    s!"This account is locked for another {remaining} seconds after repeated failed sign-ins."

/-- A committed outcome. -/
inductive Outcome
  | failed (username : String) (now : Instant)
  | succeeded (username : String)
  deriving DecidableEq

/-- A verification the limiter let through. -/
structure Verification where
  key : String
  at_ : Instant
  failed : Bool
  deriving DecidableEq

/-- The stored users, the process, and what is remembered, latest first. -/
structure State where
  users : String → Option User
  limiter : SlidingWindowLimiter
  /-- The monotonic clock of the limiter. -/
  clock : Instant
  attempts : Nat → Option Attempt
  answers : List (Nat × Option LoginError)
  outcomes : List Outcome
  /-- The verifications of this process. -/
  verifications : List Verification
  /-- The failed verifications of a key since the limiter last forgot the key. -/
  charges : String → List Instant

/-- What may happen next; an attempt is known by a number. -/
inductive Action
  | check (attempt : Nat) (username password : String) (ip : Option String) (at_ : Instant)
  | getByUsername (attempt : Nat)
  /-- The user is examined and the password verified; a new hash of it is at hand. -/
  | verify (attempt : Nat) (now at_ : Instant) (rehashed : String)
  | commit (attempt : Nat)
  /-- An attempt is rolled back. -/
  | drop (attempt : Nat)
  /-- Another request changes the password, or disables the user. -/
  | administer (username passwordHash : String) (isActive : Bool)
  | restart (clock : Instant)

/-! ## Rows -/

/-- A user after a login. -/
def recordLoginSuccess (user : User) (at_ : Instant) (ip : Option String) : User :=
  { user with
    failedLoginCount := 0, lockedUntil := none, lastLoginAt := some at_, lastLoginIp := ip }

/-- A user after a failed login. -/
def recordLoginFailure (user : User) (failedCount : Nat) (lockedUntil : Option Instant) : User :=
  { user with failedLoginCount := failedCount, lockedUntil }

/-- Count a failure, and lock the account once there are too many. -/
def registerFailure (settings : Settings) (user : User) (now : Instant) : User :=
  let failedCount := user.failedLoginCount + 1
  let lockedUntil :=
    if settings.loginMaxAttempts ≤ failedCount then
      let overLimit := failedCount - settings.loginMaxAttempts + 1
      let seconds := lockoutDurationSeconds overLimit settings.loginLockoutBaseSeconds
        settings.loginLockoutMaxSeconds
      some (now + seconds * 1000000)
    else none
  recordLoginFailure user failedCount lockedUntil

/-- The row an attempt has computed from the one it read. -/
def Verdict.record (settings : Settings) (ip : Option String) (user : User) : Verdict → User
  | .failed now => registerFailure settings user now
  | .succeeded now passwordHash => recordLoginSuccess { user with passwordHash } now ip

/-- A column that is written only if it changed. -/
def changed {α : Type} [DecidableEq α] (loaded computed current : α) : α :=
  if computed = loaded then current else computed

/-- Write the columns in which a computed row differs from the one it was computed from. -/
def flush (loaded computed current : User) : User where
  passwordHash := changed loaded.passwordHash computed.passwordHash current.passwordHash
  isActive := changed loaded.isActive computed.isActive current.isActive
  failedLoginCount :=
    changed loaded.failedLoginCount computed.failedLoginCount current.failedLoginCount
  lockedUntil := changed loaded.lockedUntil computed.lockedUntil current.lockedUntil
  lastLoginAt := changed loaded.lastLoginAt computed.lastLoginAt current.lastLoginAt
  lastLoginIp := changed loaded.lastLoginIp computed.lastLoginIp current.lastLoginIp

/-- A refusal of a locked account, with the whole seconds that remain. -/
def refuseLocked (user : User) (now : Instant) : Option LoginError :=
  match user.lockedUntil with
  | some until_ =>
    if now < until_ then some (.accountLocked ((until_ - now) / 1000000)) else none
  | none => none

/-! ## Steps -/

namespace State

/-- Take up an attempt, or go on with it. -/
def track (state : State) (attempt : Nat) (progress : Attempt) : State :=
  { state with attempts := Function.update state.attempts attempt (some progress) }

/-- Answer an attempt and let go of it. -/
def answer (state : State) (attempt : Nat) (refusal : Option LoginError) : State :=
  { state with
    attempts := Function.update state.attempts attempt none
    answers := (attempt, refusal) :: state.answers }

/-- How often a key was charged in this process. -/
def chargedCount (state : State) (key : String) : Nat :=
  state.verifications.countP fun entry => entry.key == key && entry.failed

/-- The verifications that the limiter let through for a key. -/
def verifiedAt (state : State) (key : String) : List Instant :=
  (state.verifications.filter fun entry => entry.key == key).map Verification.at_

/-- Go on with a limiter, and with the charges of the keys it tracks. -/
def withLimiter (state : State) (limiter : SlidingWindowLimiter)
    (charges : String → List Instant) : State :=
  { state with limiter, charges := fun key => if limiter.tracks key then charges key else [] }

/-- A verification fails: its key is charged. -/
def charge (settings : Settings) (state : State) (request : Request) (at_ : Instant) : State :=
  { state with verifications := ⟨request.key, at_, true⟩ :: state.verifications }.withLimiter
    (state.limiter.record settings.limiter request.key at_)
    (Function.update state.charges request.key (at_ :: state.charges request.key))

/-- A verification succeeds, which charges nothing. -/
def pass (state : State) (request : Request) (at_ : Instant) : State :=
  { state with verifications := ⟨request.key, at_, false⟩ :: state.verifications }

/-- A login succeeds: its key is forgotten. -/
def forgive (state : State) (request : Request) : State :=
  state.withLimiter (state.limiter.reset request.key) state.charges

/-- Examine the user that was read and verify the password. -/
def examine (service : Service) (state : State) (attempt : Nat) (request : Request)
    (user : User) (now at_ : Instant) (rehashed : String) : State :=
  match refuseLocked user now with
  | some refusal => state.answer attempt (some refusal)
  | none =>
    if service.verify user.passwordHash request.password then
      if user.isActive then
        let passwordHash :=
          if service.needsRehash user.passwordHash then rehashed else user.passwordHash
        ((state.pass request at_).forgive request).track attempt
          (.verified request user (.succeeded now passwordHash))
      else
        (state.pass request at_).answer attempt
          (some (.authenticationFailed "This account has been disabled."))
    else
      (state.charge service.settings request at_).track attempt
        (.verified request user (.failed now))

/-- Commit what came of a verification. -/
def commit (settings : Settings) (state : State) (attempt : Nat) (username : String)
    (request : Request) (loaded current : User) (verdict : Verdict) : State :=
  let computed := verdict.record settings request.ip loaded
  let stored := { state with
    users := Function.update state.users username (some (flush loaded computed current)) }
  match verdict with
  | .failed now =>
    { stored with outcomes := .failed username now :: state.outcomes }.answer attempt
      (some (.authenticationFailed genericLoginFailure))
  | .succeeded _ _ =>
    { stored with outcomes := .succeeded username :: state.outcomes }.answer attempt none

end State

/-- The effect of one action, or nothing where it cannot happen. -/
def step (service : Service) (state : State) : Action → Option State
  | .check attempt username password ip at_ =>
    match state.attempts attempt with
    | none =>
      if state.clock ≤ at_ then
        let normalised := service.normaliseUsername username
        let key := limiterKey ip normalised
        let (decision, limiter) := state.limiter.check service.settings.limiter key at_
        let asked := { state with clock := at_ }.withLimiter limiter state.charges
        if decision.allowed then
          let request : Request := ⟨normalised, password, ip, state.chargedCount key⟩
          some (asked.track attempt (.admitted request))
        else some (asked.answer attempt (some (.rateLimited decision.retryAfterSeconds)))
      else none
    | some _ => none
  | .getByUsername attempt =>
    match state.attempts attempt with
    | some (.admitted request) =>
      -- The username is normalised once more by the lookup.
      let user := state.users (service.normaliseUsername request.username)
      some (state.track attempt (.read request user))
    | _ => none
  | .verify attempt now at_ rehashed =>
    match state.attempts attempt with
    | some (.read request user) =>
      if state.clock ≤ at_ then
        let ticked := { state with clock := at_ }
        match user with
        | none => some ((ticked.charge service.settings request at_).answer attempt
            (some (.authenticationFailed genericLoginFailure)))
        | some user => some (ticked.examine service attempt request user now at_ rehashed)
      else none
    | _ => none
  | .commit attempt =>
    match state.attempts attempt with
    | some (.verified request loaded verdict) =>
      let username := service.normaliseUsername request.username
      (state.users username).map fun current =>
        state.commit service.settings attempt username request loaded current verdict
    | _ => none
  | .drop attempt =>
    some { state with attempts := Function.update state.attempts attempt none }
  | .administer username passwordHash isActive =>
    (state.users username).map fun user =>
      { state with
        users := Function.update state.users username (some { user with passwordHash, isActive }) }
  | .restart clock =>
    some { state with
      limiter := .fresh, clock, attempts := fun _ => none, verifications := [],
      charges := fun _ => [] }

/-- Users who have not failed to log in yet. -/
def system (service : Service) : System State Action where
  init state := ∃ users clock,
    state = ⟨users, .fresh, clock, fun _ => none, [], [], [], fun _ => []⟩ ∧
    ∀ username user, users username = some user →
      user.failedLoginCount = 0 ∧ user.lockedUntil = none
  step := step service

/-! ## What lockouts promise -/

/-- The committed failures of a user since the last committed success, latest first. -/
def failuresSince (username : String) : List Outcome → List Instant
  | [] => []
  | .failed name now :: rest =>
    if name = username then now :: failuresSince username rest else failuresSince username rest
  | .succeeded name :: rest => if name = username then [] else failuresSince username rest

/-- An account counts its failures, and is locked after the last one once there are too many. -/
structure Guarded (settings : Settings) (failures : List Instant) (user : User) : Prop where
  counted : user.failedLoginCount = failures.length
  locked : settings.loginMaxAttempts ≤ failures.length →
    ∃ now ∈ failures.head?, ∃ until_ ∈ user.lockedUntil, now < until_

/-- No window has more instants than attempts are allowed. -/
def Sparse (config : LimiterConfig) (instants : List Instant) : Prop :=
  ∀ stop, instants.countP (fun at_ => at_ ≤ stop && stop ≤ at_ + config.window) ≤
    config.maxAttempts

/-- What a committed state promises about every account and every key. -/
structure Promised (service : Service) (state : State)
    (attemptsOf : String → List Instant) : Prop where
  accounts : ∀ username user, state.users username = some user →
    Guarded service.settings (failuresSince username state.outcomes) user
  limited : ∀ key, Sparse service.settings.limiter (attemptsOf key)

/-- Every verification that the limiter let through counts. -/
def Protected (service : Service) (state : State) : Prop :=
  Promised service state state.verifiedAt

/-- Only failed verifications count, since the limiter last forgot their key. -/
def ProtectedFromFailures (service : Service) (state : State) : Prop :=
  Promised service state state.charges

/-- Whether an attempt still stands on what it read. -/
def unraced (service : Service) (state : State) : Action → Bool
  | .verify attempt _ _ _ =>
    match state.attempts attempt with
    | some (.read request _) => state.chargedCount request.key == request.charged
    | _ => true
  | .commit attempt =>
    match state.attempts attempt with
    | some (.verified request loaded _) =>
      (state.users (service.normaliseUsername request.username)).all fun current =>
        current.failedLoginCount == loaded.failedLoginCount &&
          current.lockedUntil == loaded.lockedUntil
    | _ => true
  | _ => true

/-- An attempt verifies while no other one has charged its key since its check, and commits while no
other one has changed the counter or the lock it read. -/
def Unraced (service : Service) (state : State) (action : Action) : Prop :=
  unraced service state action = true

instance (service : Service) (state : State) (action : Action) :
    Decidable (Unraced service state action) :=
  inferInstanceAs (Decidable (_ = true))

/-! ## The limiter -/

section Limiters

variable {config : LimiterConfig} {clock at_ : Instant} {limiter : SlidingWindowLimiter}
variable {charges : String → List Instant} {key : String}

/-- The limiter remembers every charge that is recent, and the charges are sparse. -/
structure Limits (config : LimiterConfig) (clock : Instant) (limiter : SlidingWindowLimiter)
    (charges : String → List Instant) : Prop where
  covered : ∀ key now, clock ≤ now →
    config.recent now (charges key) ≤ config.recent now (limiter.hitsOf key)
  sparse : ∀ key, Sparse config (charges key)

/-- No charges are sparse. -/
theorem sparse_nil : Sparse config [] := fun _ => Nat.zero_le _

/-- A charge keeps the charges sparse if fewer than the limit are recent. -/
theorem sparse_cons {instants : List Instant} (sparse : Sparse config instants)
    (room : config.recent at_ instants < config.maxAttempts) : Sparse config (at_ :: instants) := by
  intro stop
  by_cases before : at_ ≤ stop
  · have others : instants.countP (fun other => other ≤ stop && stop ≤ other + config.window) ≤
        config.recent at_ instants := by
      apply List.countP_mono_left
      intro other _ within
      have reaches := of_decide_eq_true (Bool.and_eq_true_iff.mp within).2
      exact decide_eq_true (before.trans reaches)
    rw [List.countP_cons]
    apply Nat.succ_le_of_lt at room
    split <;> omega
  · rw [List.countP_cons_of_neg (by simp [before])]
    exact sparse stop

/-- Later the limits still hold. -/
theorem Limits.tick (limits : Limits config clock limiter charges) (ordered : clock ≤ at_) :
    Limits config at_ limiter charges :=
  ⟨fun key now after => limits.covered key now (ordered.trans after), limits.sparse⟩

/-- The charges of a key go with the key. -/
theorem limits_of_tracked
    (kept : ∀ key, limiter.tracks key = true →
      (∀ now, clock ≤ now →
        config.recent now (charges key) ≤ config.recent now (limiter.hitsOf key)) ∧
      Sparse config (charges key)) :
    Limits config clock limiter fun key => if limiter.tracks key then charges key else [] := by
  constructor
  · intro key now after
    split
    · rename_i tracked
      exact (kept key tracked).1 now after
    · exact Nat.zero_le _
  · intro key
    split
    · rename_i tracked
      exact (kept key tracked).2
    · exact sparse_nil

/-- Asking about a key forgets nothing that is recent. -/
theorem Limits.check (limits : Limits config clock limiter charges) (ordered : clock ≤ at_)
    (key : String) {asked : SlidingWindowLimiter}
    (same : (limiter.check config key at_).2 = asked) :
    Limits config at_ asked fun key => if asked.tracks key then charges key else [] := by
  subst same
  apply limits_of_tracked
  intro other _
  refine ⟨fun now after => ?_, limits.sparse other⟩
  have before := limits.covered other now (ordered.trans after)
  by_cases same : other = key
  · subst same
    rw [SlidingWindowLimiter.hitsOf_check, SlidingWindowLimiter.recent_prune after]
    exact before
  · rw [SlidingWindowLimiter.hitsOf_check_ne same]
    exact before

/-- A charge is recorded while there is room for it. -/
theorem Limits.record (limits : Limits config clock limiter charges) (ordered : clock ≤ at_)
    (room : config.recent at_ (charges key) < config.maxAttempts)
    {recorded : SlidingWindowLimiter} (same : limiter.record config key at_ = recorded) :
    Limits config at_ recorded fun other =>
      if recorded.tracks other then
        Function.update charges key (at_ :: charges key) other else [] := by
  subst same
  apply limits_of_tracked
  intro other tracked
  rw [SlidingWindowLimiter.hitsOf_record tracked]
  by_cases same : other = key
  · subst same
    rw [Function.update_self, if_pos rfl]
    refine ⟨fun now after => ?_, sparse_cons (limits.sparse other) room⟩
    have before := limits.covered other now (ordered.trans after)
    rw [← SlidingWindowLimiter.recent_prune after] at before
    unfold LimiterConfig.recent at before ⊢
    rw [List.countP_append, List.countP_cons, List.countP_singleton]
    exact Nat.add_le_add_right before _
  · rw [Function.update_of_ne same, if_neg same]
    exact ⟨fun now after => limits.covered other now (ordered.trans after), limits.sparse other⟩

/-- A reset forgets one key. -/
theorem Limits.reset (limits : Limits config clock limiter charges) :
    Limits config clock (limiter.reset key) fun other =>
      if (limiter.reset key).tracks other then charges other else [] := by
  apply limits_of_tracked
  intro other tracked
  have differ : other ≠ key := by
    rintro rfl
    exact Bool.false_ne_true (SlidingWindowLimiter.tracks_reset.symm.trans tracked)
  rw [SlidingWindowLimiter.hitsOf_reset_ne differ]
  exact ⟨limits.covered other, limits.sparse other⟩

end Limiters

/-! ## Rows -/

section Rows

variable {settings : Settings} {failures : List Instant} {loaded current : User}

/-- When an account with some failures is locked until. -/
def lockOf (settings : Settings) : List Instant → Option Instant
  | [] => none
  | now :: earlier =>
    if settings.loginMaxAttempts ≤ earlier.length + 1 then
      let overLimit := earlier.length + 1 - settings.loginMaxAttempts + 1
      some (now + lockoutDurationSeconds overLimit settings.loginLockoutBaseSeconds
        settings.loginLockoutMaxSeconds * 1000000)
    else none

/-- An account has counted its failures and is locked for the last one. -/
structure Counts (settings : Settings) (failures : List Instant) (user : User) : Prop where
  counted : user.failedLoginCount = failures.length
  locked : user.lockedUntil = lockOf settings failures

/-- A lock lasts beyond the failure it is for. -/
theorem Counts.guarded {user : User} (counts : Counts settings failures user) :
    Guarded settings failures user := by
  refine ⟨counts.counted, fun many => ?_⟩
  cases failures with
  | nil => exact absurd many (not_le.mpr settings.attempts_pos)
  | cons now earlier =>
    have locked := counts.locked
    rw [lockOf, if_pos (show settings.loginMaxAttempts ≤ earlier.length + 1 from many)] at locked
    refine ⟨now, rfl, _, locked, Nat.lt_add_of_pos_right (Nat.mul_pos ?_ (by decide))⟩
    exact lockoutDurationSeconds_pos (Nat.succ_pos _) settings.base_pos settings.max_pos

/-- A column that nobody else changed gets the computed value. -/
theorem changed_of_eq {α : Type} [DecidableEq α] {loaded computed current : α}
    (same : current = loaded) : changed loaded computed current = computed := by
  unfold changed
  split
  · rename_i unchanged
    exact same.trans unchanged.symm
  · rfl

/-- A committed failure is counted. -/
theorem counts_failed (counts : Counts settings failures current)
    (count : current.failedLoginCount = loaded.failedLoginCount)
    (lock : current.lockedUntil = loaded.lockedUntil) (now : Instant) :
    Counts settings (now :: failures)
      (flush loaded (registerFailure settings loaded now) current) := by
  have length : loaded.failedLoginCount = failures.length := count.symm.trans counts.counted
  constructor
  · refine (changed_of_eq count).trans ?_
    show loaded.failedLoginCount + 1 = failures.length + 1
    rw [length]
  · refine (changed_of_eq lock).trans ?_
    simp only [registerFailure, recordLoginFailure, lockOf, length]

/-- A committed success starts the count anew. -/
theorem counts_succeeded (count : current.failedLoginCount = loaded.failedLoginCount)
    (lock : current.lockedUntil = loaded.lockedUntil) (at_ : Instant) (ip : Option String)
    (passwordHash : String) :
    Counts settings [] (flush loaded
      (recordLoginSuccess { loaded with passwordHash } at_ ip) current) :=
  ⟨changed_of_eq count, changed_of_eq lock⟩

end Rows

/-! ## Every step -/

section Steps

variable {service : Service} {state after : State} {attempt : Nat} {request : Request}
variable {at_ : Instant}

/-- The request of an attempt that has not verified its password. -/
def Attempt.waiting : Attempt → Option Request
  | .admitted request | .read request _ => some request
  | .verified _ _ _ => none

/-- A waiting attempt has room to be charged, unless its key was charged since its check. -/
structure Room (service : Service) (state : State) (request : Request) : Prop where
  seen : request.charged ≤ state.chargedCount request.key
  room : state.chargedCount request.key = request.charged →
    service.settings.limiter.recent state.clock (state.charges request.key) <
      service.settings.loginMaxAttempts

/-- What every reached state satisfies while attempts do not race. -/
structure Sound (service : Service) (state : State) : Prop where
  accounts : ∀ username user, state.users username = some user →
    Counts service.settings (failuresSince username state.outcomes) user
  limits : Limits service.settings.limiter state.clock state.limiter state.charges
  waiting : ∀ attempt progress request, state.attempts attempt = some progress →
    progress.waiting = some request → Room service state request

/-- Letting go of an attempt is sound. -/
theorem Sound.release (sound : Sound service state) (attempt : Nat)
    (answers : List (Nat × Option LoginError)) :
    Sound service { state with
      attempts := Function.update state.attempts attempt none, answers } := by
  refine ⟨sound.accounts, sound.limits, ?_⟩
  intro other progress request here waits
  simp only [Function.update_apply] at here
  split at here
  · cases here
  · have room := sound.waiting other progress request here waits
    exact ⟨room.seen, room.room⟩

/-- Going on with an attempt is sound if it has room. -/
theorem Sound.track (sound : Sound service state) (attempt : Nat) {progress : Attempt}
    (room : ∀ request, progress.waiting = some request → Room service state request) :
    Sound service (state.track attempt progress) := by
  refine ⟨sound.accounts, sound.limits, ?_⟩
  intro other current request here waits
  simp only [State.track, Function.update_apply] at here
  split at here
  · obtain rfl := Option.some.inj here
    have room := room request waits
    exact ⟨room.seen, room.room⟩
  · have room := sound.waiting other current request here waits
    exact ⟨room.seen, room.room⟩

/-- Time passes. -/
theorem Sound.tick (sound : Sound service state) (ordered : state.clock ≤ at_) :
    Sound service { state with clock := at_ } := by
  refine ⟨sound.accounts, sound.limits.tick ordered, ?_⟩
  intro other progress request here waits
  have room := sound.waiting other progress request here waits
  exact ⟨room.seen, fun same =>
    (SlidingWindowLimiter.recent_antitone ordered _).trans_lt (room.room same)⟩

/-- A limiter that forgets keys leaves room. -/
theorem Room.withLimiter (room : Room service state request) (limiter : SlidingWindowLimiter) :
    Room service (state.withLimiter limiter state.charges) request := by
  refine ⟨room.seen, fun same => ?_⟩
  simp only [State.withLimiter]
  split
  · exact room.room same
  · exact service.settings.attempts_pos

/-- A success forgets its key. -/
theorem Sound.forgive (sound : Sound service state) (request : Request) :
    Sound service (state.forgive request) :=
  ⟨sound.accounts, sound.limits.reset, fun other progress request here waits =>
    (sound.waiting other progress request here waits).withLimiter _⟩

/-- A verification that succeeds charges nothing. -/
theorem Sound.pass (sound : Sound service state) (request : Request) (at_ : Instant) :
    Sound service (state.pass request at_) := by
  have same (key : String) : (state.pass request at_).chargedCount key = state.chargedCount key :=
    List.countP_cons_of_neg (by simp)
  refine ⟨sound.accounts, sound.limits, ?_⟩
  intro other progress request here waits
  have room := sound.waiting other progress request here waits
  exact ⟨room.seen.trans (same _).ge, fun equal => room.room ((same _).symm.trans equal)⟩

/-- A charge for which there is room. -/
theorem Sound.charge (sound : Sound service state)
    (room : service.settings.limiter.recent state.clock (state.charges request.key) <
      service.settings.loginMaxAttempts) :
    Sound service (state.charge service.settings request state.clock) := by
  refine ⟨sound.accounts, sound.limits.record le_rfl room rfl, ?_⟩
  intro other progress waiting here waits
  have before := sound.waiting other progress waiting here waits
  have counted : (state.charge service.settings request state.clock).chargedCount waiting.key =
      state.chargedCount waiting.key + if request.key = waiting.key then 1 else 0 := by
    simp only [State.chargedCount, State.charge, State.withLimiter, List.countP_cons]
    simp
  refine ⟨?_, fun same => ?_⟩
  · rw [counted]
    exact before.seen.trans (Nat.le_add_right _ _)
  · rw [counted] at same
    have seen := before.seen
    by_cases own : request.key = waiting.key
    · rw [if_pos own] at same
      omega
    · rw [if_neg own, Nat.add_zero] at same
      simp only [State.charge, State.withLimiter]
      split
      · rw [Function.update_of_ne (Ne.symm own)]
        exact before.room same
      · exact service.settings.attempts_pos

/-- Asking the limiter is sound. -/
theorem Sound.ask (sound : Sound service state) (ordered : state.clock ≤ at_) (key : String) :
    Sound service ({ state with clock := at_ }.withLimiter
      (state.limiter.check service.settings.limiter key at_).2 state.charges) := by
  refine ⟨sound.accounts, sound.limits.check ordered key rfl, ?_⟩
  intro other progress request here waits
  exact ((sound.tick ordered).waiting other progress request here waits).withLimiter _

/-- Examining a user is sound if the attempt has room. -/
theorem Sound.examine (sound : Sound service state) (attempt : Nat) {request : Request}
    (room : service.settings.limiter.recent state.clock (state.charges request.key) <
      service.settings.loginMaxAttempts) (user : User) (now : Instant) (rehashed : String) :
    Sound service (state.examine service attempt request user now state.clock rehashed) := by
  unfold State.examine
  split
  · exact sound.release attempt _
  · split
    · split
      · apply Sound.track
        · exact (sound.pass request state.clock).forgive request
        · exact fun _ waits => absurd waits (Option.some_ne_none _).symm
      · exact (sound.pass request state.clock).release attempt _
    · apply Sound.track
      · exact sound.charge room
      · exact fun _ waits => absurd waits (Option.some_ne_none _).symm

/-- Writing one account is sound if it counts its failures and no other account's failures
change. -/
theorem Sound.write (sound : Sound service state) {username : String} {computed : User}
    {outcomes : List Outcome}
    (own : Counts service.settings (failuresSince username outcomes) computed)
    (others : ∀ name, name ≠ username →
      failuresSince name outcomes = failuresSince name state.outcomes) :
    Sound service { state with
      users := Function.update state.users username (some computed), outcomes } := by
  refine ⟨?_, sound.limits, ?_⟩
  · intro name user found
    by_cases same : name = username
    · subst same
      obtain rfl := Option.some.inj ((Function.update_self name _ state.users).symm.trans found)
      exact own
    · have kept := (Function.update_of_ne same (some computed) state.users).symm.trans found
      rw [others name same]
      exact sound.accounts name user kept
  · intro other progress request here waits
    have room := sound.waiting other progress request here waits
    exact ⟨room.seen, room.room⟩

/-- Committing is sound if nobody else changed the counter or the lock. -/
theorem Sound.commit (sound : Sound service state) (attempt : Nat) {username : String}
    (request : Request) {loaded current : User} (verdict : Verdict)
    (stored : state.users username = some current)
    (count : current.failedLoginCount = loaded.failedLoginCount)
    (lock : current.lockedUntil = loaded.lockedUntil) :
    Sound service
      (state.commit service.settings attempt username request loaded current verdict) := by
  have counts := sound.accounts username current stored
  cases verdict with
  | failed now =>
    have own : Counts service.settings
        (failuresSince username (.failed username now :: state.outcomes))
        (flush loaded (registerFailure service.settings loaded now) current) := by
      rw [failuresSince, if_pos rfl]
      exact counts_failed counts count lock now
    have others (name : String) (differ : name ≠ username) :
        failuresSince name (.failed username now :: state.outcomes) =
          failuresSince name state.outcomes := by
      rw [failuresSince, if_neg (Ne.symm differ)]
    exact (sound.write own others).release attempt _
  | succeeded now passwordHash =>
    have own : Counts service.settings
        (failuresSince username (.succeeded username :: state.outcomes))
        (flush loaded (recordLoginSuccess { loaded with passwordHash } now request.ip)
          current) := by
      rw [failuresSince, if_pos rfl]
      exact counts_succeeded count lock now request.ip passwordHash
    have others (name : String) (differ : name ≠ username) :
        failuresSince name (.succeeded username :: state.outcomes) =
          failuresSince name state.outcomes := by
      rw [failuresSince, if_neg (Ne.symm differ)]
    exact (sound.write own others).release attempt _

/-- One step that does not race is sound. -/
theorem step_sound {action : Action} (sound : Sound service state)
    (allowed : Unraced service state action) (stepped : step service state action = some after) :
    Sound service after := by
  cases action with
  | check attempt username password ip at_ =>
    simp only [step] at stepped
    split at stepped
    · split at stepped
      · rename_i ordered
        have asked := sound.ask ordered (limiterKey ip (service.normaliseUsername username))
        split at stepped
        · rename_i proceeds
          obtain rfl := Option.some.inj stepped
          apply asked.track
          rintro request waits
          obtain rfl := Option.some.inj waits
          refine ⟨le_rfl, fun _ => ?_⟩
          simp only [State.withLimiter, Request.key]
          split
          · exact (sound.limits.covered _ at_ ordered).trans_lt
              (SlidingWindowLimiter.recent_lt_of_allowed proceeds)
          · exact service.settings.attempts_pos
        · obtain rfl := Option.some.inj stepped
          exact asked.release attempt _
      · cases stepped
    · cases stepped
  | getByUsername attempt =>
    simp only [step] at stepped
    split at stepped
    · rename_i request here
      obtain rfl := Option.some.inj stepped
      apply sound.track
      intro other waits
      obtain rfl := Option.some.inj waits
      exact sound.waiting attempt _ request here rfl
    · cases stepped
  | verify attempt now at_ rehashed =>
    simp only [step] at stepped
    split at stepped
    · rename_i request user here
      have quiet : state.chargedCount request.key = request.charged := by
        simpa [Unraced, unraced, here] using allowed
      have room := (sound.waiting attempt _ request here rfl).room quiet
      split at stepped
      · rename_i ordered
        have ticked := sound.tick ordered
        have room := (SlidingWindowLimiter.recent_antitone ordered _).trans_lt room
        cases user with
        | none =>
          obtain rfl := Option.some.inj stepped
          exact (ticked.charge room).release attempt _
        | some user =>
          obtain rfl := Option.some.inj stepped
          exact ticked.examine attempt room user now rehashed
      · cases stepped
    · cases stepped
  | commit attempt =>
    simp only [step] at stepped
    split at stepped
    · rename_i request loaded verdict here
      obtain ⟨current, stored, rfl⟩ := Option.map_eq_some_iff.mp stepped
      have still : current.failedLoginCount = loaded.failedLoginCount ∧
          current.lockedUntil = loaded.lockedUntil := by
        simpa [Unraced, unraced, here, stored] using allowed
      exact sound.commit attempt request verdict stored still.1 still.2
    · cases stepped
  | drop attempt =>
    obtain rfl := Option.some.inj stepped
    exact sound.release attempt state.answers
  | administer username passwordHash isActive =>
    obtain ⟨user, stored, rfl⟩ := Option.map_eq_some_iff.mp stepped
    have counts := sound.accounts username user stored
    exact sound.write ⟨counts.counted, counts.locked⟩ fun _ _ => rfl
  | restart clock =>
    obtain rfl := Option.some.inj stepped
    refine ⟨sound.accounts, ⟨fun _ _ _ => Nat.zero_le _, fun _ => sparse_nil⟩, ?_⟩
    exact fun _ _ _ here => absurd here (Option.some_ne_none _).symm

/-- While attempts do not race, every committed state counts the failures of every account and locks
it after too many, and no window has more failures of a key than attempts are allowed. -/
theorem protected_of_unraced (reached : (system service).Reachable (Unraced service) state) :
    ProtectedFromFailures service state := by
  have sound : Sound service state := by
    apply reached.invariant_alone
    constructor
    · rintro _ ⟨users, clock, rfl, fresh⟩
      refine ⟨?_, ⟨fun _ _ _ => Nat.zero_le _, fun _ => sparse_nil⟩, ?_⟩
      · intro username user stored
        have counts := fresh username user stored
        exact ⟨counts.1, counts.2⟩
      · exact fun _ _ _ here => absurd here (Option.some_ne_none _).symm
    · exact fun _ _ _ _ sound allowed stepped => step_sound sound allowed stepped
  exact ⟨fun username user stored => (sound.accounts username user stored).guarded,
    sound.limits.sparse⟩

end Steps

/-- A service with given limits, whose passwords are stored as they are. -/
def plainService (settings : Settings) : Service :=
  ⟨settings, id, fun passwordHash password => passwordHash == password, fun _ => false⟩

/-- The default settings. -/
def defaultSettings : Settings := ⟨5, 900, 60, 3600, by decide, by decide, by decide⟩

/-- One user, who has not failed to log in. -/
def soleAdmin : State where
  users username := if username = "admin" then some ⟨"secret", true, 0, none, none, none⟩ else none
  limiter := .fresh
  clock := 0
  attempts _ := none
  answers := []
  outcomes := []
  verifications := []
  charges _ := []

/-- The user may be there at the start. -/
theorem soleAdmin_init (service : Service) : (system service).init soleAdmin := by
  refine ⟨soleAdmin.users, 0, rfl, fun username user stored => ?_⟩
  simp only [soleAdmin] at stored
  split at stored
  · obtain rfl := Option.some.inj stored
    exact ⟨rfl, rfl⟩
  · cases stored

/-- One attempt with a password, from its check to its commit. -/
def wholeAttempt (attempt : Nat) (password : String) : List Action :=
  let at_ := attempt * 1000000
  [.check attempt "admin" password none at_, .getByUsername attempt,
    .verify attempt at_ at_ "", .commit attempt]

/-- A success between two failures starts the count anew, and five failures lock the account. -/
theorem protected_after_failures : ∃ state user,
    (system (plainService defaultSettings)).Reachable (Unraced (plainService defaultSettings))
      state ∧ state.users "admin" = some user ∧ user.failedLoginCount = 5 ∧
      user.lockedUntil = some 67000000 ∧
      ProtectedFromFailures (plainService defaultSettings) state := by
  let passwords := ["guess", "secret", "guess", "guess", "guess", "guess", "guess"]
  obtain ⟨state, reached, shown⟩ : ∃ state,
      (system (plainService defaultSettings)).Reachable (Unraced (plainService defaultSettings))
        state ∧ (state.users "admin").any (fun user =>
          user.failedLoginCount == 5 && user.lockedUntil == some 67000000) = true := by
    refine System.exists_of_runFrom (soleAdmin_init _)
      (passwords.zipIdx 1 |>.flatMap fun (password, attempt) => wholeAttempt attempt password) _ ?_
    decide +kernel
  obtain ⟨user, stored, counted⟩ := (Option.any_eq_true _ _).mp shown
  obtain ⟨five, locked⟩ := Bool.and_eq_true_iff.mp counted
  exact ⟨state, user, reached, stored, beq_iff_eq.mp five, beq_iff_eq.mp locked,
    protected_of_unraced reached⟩

/-- Successful logins are not charged: six of them within a minute are more than the five attempts
that a window allows. -/
theorem successes_exceed_limit :
    ¬ ∀ service state, (system service).Reachable System.unguarded state →
      Protected service state := by
  intro always
  obtain ⟨state, reached, shown⟩ : ∃ state,
      (system (plainService defaultSettings)).Reachable System.unguarded state ∧
        (state.verifiedAt (limiterKey none "admin") ==
          [6000000, 5000000, 4000000, 3000000, 2000000, 1000000]) = true := by
    refine System.exists_of_runFrom (soleAdmin_init _)
      ((List.range' 1 6).flatMap fun attempt => wholeAttempt attempt "secret") _ ?_
    decide +kernel
  have limited := (always (plainService defaultSettings) state reached).limited
  have six := limited (limiterKey none "admin") 6000000
  rw [beq_iff_eq.mp shown] at six
  exact absurd six (by decide)

end ProxSync.Auth.Login
