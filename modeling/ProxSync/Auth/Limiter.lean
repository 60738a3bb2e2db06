import Mathlib.Logic.Function.Basic
import ProxSync.Lib.System
import ProxSync.Auth.RateLimit
/-!
# A limiter over a sequence of calls

Attempts are recorded, keys are asked about and reset, at instants that never decrease. While no
more keys than the limit are in use, a key may proceed exactly when it has fewer recent attempts
than allowed. Asking about new keys is not limited, though, and the time a denied key is told is
rounded down and counted from its oldest attempt; so the number of keys and the promise hold only
for calls that take care.
-/
open ProxSync.Lib

namespace ProxSync.Auth

/-- Number of tracked keys. -/
def SlidingWindowLimiter.len (limiter : SlidingWindowLimiter) : Nat := limiter.hits.keys.length

/-- A limiter, and what was asked of it. -/
structure LimiterRun where
  limiter : SlidingWindowLimiter
  /-- The instant of the latest call. -/
  clock : Instant
  /-- The attempts recorded for a key since its last reset. -/
  attempts : String → List Instant
  /-- The keys in use: those asked about or recorded since their last reset. -/
  used : List String
  /-- More keys than the limit were in use at once. -/
  crowded : Bool
  /-- From when on a denied key was told to come back, if it records no attempt until then. -/
  promises : List (String × Instant)

/-- A call of the limiter. -/
inductive LimiterCall
  | check (key : String) (now : Instant)
  | record (key : String) (now : Instant)
  | reset (key : String)

/-- A key is in use from an instant on. -/
def LimiterRun.use (run : LimiterRun) (config : LimiterConfig) (key : String) (now : Instant) :
    LimiterRun :=
  let used := run.used.insert key
  { run with clock := now, used, crowded := run.crowded || decide (config.maxKeys < used.length) }

/-- The effect of a call; the clock does not go back. -/
def limiterStep (config : LimiterConfig) (run : LimiterRun) : LimiterCall → Option LimiterRun
  | .check key now =>
    if now < run.clock then none
    else
      let (decision, limiter) := run.limiter.check config key now
      let promises :=
        if decision.allowed then run.promises
        else (key, now + decision.retryAfterSeconds * 1000000) :: run.promises
      some { run.use config key now with limiter, promises }
  | .record key now =>
    if now < run.clock then none
    else
      some { run.use config key now with
        limiter := run.limiter.record config key now
        attempts := Function.update run.attempts key (run.attempts key ++ [now])
        promises := run.promises.filter fun promise => promise.1 != key }
  | .reset key =>
    some { run with
      limiter := run.limiter.reset key
      attempts := Function.update run.attempts key []
      used := run.used.erase key }

/-- A limiter without attempts. -/
def LimiterRun.fresh : LimiterRun := ⟨.fresh, 0, fun _ => [], [], false, []⟩

/-- A limiter from its creation on. -/
def limiterSystem (config : LimiterConfig) : System LimiterRun LimiterCall where
  init run := run = .fresh
  step := limiterStep config

/-- The attempts of a key are few enough one second after an instant. -/
def eases (config : LimiterConfig) (limiter : SlidingWindowLimiter) (key : String)
    (now : Instant) : Bool :=
  decide (config.recent (now + 1000000) (limiter.hitsOf key) < config.maxAttempts)

/-- A key that is asked about is tracked or finds room, and may proceed within a second. -/
def careful (config : LimiterConfig) (run : LimiterRun) : LimiterCall → Bool
  | .check key now =>
    (run.limiter.tracks key || decide (run.limiter.len < config.maxKeys)) &&
      eases config run.limiter key now
  | .record _ _ | .reset _ => true

/-- A call that takes care. -/
def Careful (config : LimiterConfig) (run : LimiterRun) (call : LimiterCall) : Prop :=
  careful config run call = true

instance (config : LimiterConfig) (run : LimiterRun) (call : LimiterCall) :
    Decidable (Careful config run call) :=
  inferInstanceAs (Decidable (_ = true))

/-- What the limiter is there for. -/
structure Throttles (config : LimiterConfig) (run : LimiterRun) : Prop where
  /-- A key may proceed exactly when it has fewer recent attempts than allowed. -/
  fair : run.crowded = false → ∀ key now, run.clock ≤ now →
    ((run.limiter.check config key now).1.allowed = true ↔
      config.recent now (run.attempts key) < config.maxAttempts)
  /-- A denied key may proceed when it was told to come back, whatever the other keys did. -/
  prompt : ∀ key due, (key, due) ∈ run.promises → ∀ now, run.clock ≤ now → due ≤ now →
    (run.limiter.check config key now).1.allowed = true
  /-- No more keys than the limit are tracked. -/
  bounded : run.limiter.len ≤ config.maxKeys

namespace SlidingWindowLimiter

variable {config : LimiterConfig} {limiter : SlidingWindowLimiter} {key other : String}
variable {now later due : Instant}

/-! ## Keys after a call -/

/-- A key is tracked when it is in the dictionary. -/
theorem tracks_iff : limiter.tracks key = true ↔ key ∈ limiter.hits := AList.lookup_isSome

/-- Asking about a key makes it tracked. -/
theorem keys_check : (limiter.check config key now).2.hits.keys =
    if key ∈ limiter.hits then limiter.hits.keys else key :: limiter.hits.keys :=
  OrderedDict.keys_assign

/-- A record drops the oldest keys beyond the limit. -/
theorem keys_record : (limiter.record config key now).hits.keys =
    (key :: limiter.hits.keys.erase key).take config.maxKeys := by
  unfold record
  rw [OrderedDict.keys_newest, AList.keys_insert]

/-! ## Attempts after a call -/

/-- Pruning drops attempts. -/
theorem prune_sublist : (limiter.prune config key now).Sublist (limiter.hitsOf key) :=
  List.dropWhile_sublist _

/-- The attempts that are left are the recent ones. -/
theorem length_prune (ascending : (limiter.hitsOf key).Pairwise (· ≤ ·)) :
    (limiter.prune config key now).length = config.recent now (limiter.hitsOf key) := by
  unfold prune LimiterConfig.recent
  generalize limiter.hitsOf key = hits at ascending
  induction hits with
  | nil => rfl
  | cons hit rest ih =>
    rw [List.pairwise_cons] at ascending
    by_cases expired : hit + config.window < now
    · rw [List.dropWhile_cons_of_pos (by simpa using expired),
        List.countP_cons_of_neg (by simpa using not_le.mpr expired)]
      exact ih ascending.2
    · have all : ∀ attempt ∈ hit :: rest, now ≤ attempt + config.window := by
        intro attempt member
        have after : hit ≤ attempt := by
          rcases List.mem_cons.mp member with rfl | behind
          · exact le_rfl
          · exact ascending.1 attempt behind
        exact (not_lt.mp expired).trans (Nat.add_le_add_right after _)
      rw [List.dropWhile_cons_of_neg (by simpa using expired), eq_comm, List.countP_eq_length]
      exact fun attempt member => decide_eq_true (all attempt member)

/-- A key may proceed exactly when it has fewer recent attempts than allowed. -/
theorem allowed_iff (ascending : (limiter.hitsOf key).Pairwise (· ≤ ·)) :
    (limiter.check config key now).1.allowed = true ↔
      config.recent now (limiter.hitsOf key) < config.maxAttempts := by
  rw [← length_prune ascending]
  unfold check
  dsimp only
  split
  · exact iff_of_true rfl ‹_›
  · exact iff_of_false Bool.false_ne_true ‹_›

/-- Asking about a key adds no attempt. -/
theorem check_sublist : ((limiter.check config key now).2.hitsOf other).Sublist
    (limiter.hitsOf other) := by
  by_cases same : other = key
  · subst same
    rw [hitsOf_check]
    exact prune_sublist
  · rw [hitsOf_check_ne same]

/-- A key that was reset has no attempts. -/
theorem hitsOf_reset : (limiter.reset key).hitsOf key = [] := by
  unfold hitsOf reset
  rw [AList.lookup_erase]
  rfl

/-- Resetting a key adds no attempt. -/
theorem reset_sublist : ((limiter.reset key).hitsOf other).Sublist (limiter.hitsOf other) := by
  by_cases same : other = key
  · subst same
    rw [hitsOf_reset]
    exact List.nil_sublist _
  · rw [hitsOf_reset_ne same]

/-- A record adds one attempt, to its own key. -/
theorem record_sublist : ((limiter.record config key now).hitsOf other).Sublist
    (if other = key then limiter.prune config key now ++ [now] else limiter.hitsOf other) := by
  by_cases tracked : (limiter.record config key now).tracks other = true
  · rw [hitsOf_record tracked]
  · have forgotten : (limiter.record config key now).hitsOf other = [] := by
      unfold tracks at tracked
      unfold hitsOf
      rw [Option.not_isSome_iff_eq_none.mp tracked]
      rfl
    rw [forgotten]
    exact List.nil_sublist _

/-- Where there is room, a record adds its attempt and drops nothing. -/
theorem hitsOf_record_of_room
    (room : (key :: limiter.hits.keys.erase key).length ≤ config.maxKeys) :
    (limiter.record config key now).hitsOf other =
      if other = key then limiter.prune config key now ++ [now] else limiter.hitsOf other := by
  have within : (limiter.hits.insert key (limiter.prune config key now ++ [now])).entries.length ≤
      config.maxKeys := by
    rw [← AList.keys_insert, AList.keys, List.keys, List.length_map] at room
    exact room
  have whole : (limiter.record config key now).hits =
      limiter.hits.insert key (limiter.prune config key now ++ [now]) :=
    OrderedDict.newest_of_length within
  unfold hitsOf
  rw [whole]
  split
  · rename_i same
    rw [same, AList.lookup_insert]
    rfl
  · rename_i differ
    rw [AList.lookup_insert_ne differ]

/-! ## Promises -/

/-- Fewer attempts are not more recent ones. -/
theorem recent_le_of_sublist {fewer more : List Instant} (sub : fewer.Sublist more) :
    config.recent now fewer ≤ config.recent now more :=
  sub.countP_le

/-- Up to the instant at which the oldest attempt expires all of them are recent. -/
theorem recent_of_le_head {hits : List Instant} (ascending : hits.Pairwise (· ≤ ·))
    (before : due ≤ hits.headD 0 + config.window) : config.recent due hits = hits.length := by
  cases hits with
  | nil => rfl
  | cons hit rest =>
    rw [LimiterConfig.recent, List.countP_eq_length]
    intro attempt member
    have after : hit ≤ attempt := by
      rcases List.mem_cons.mp member with rfl | behind
      · exact le_rfl
      · exact (List.pairwise_cons.mp ascending).1 attempt behind
    exact decide_eq_true (before.trans (Nat.add_le_add_right after _))

/-- A denied key is told to wait for at least a second. -/
theorem one_le_retryAfterSeconds
    (denied : (limiter.check config key now).1.allowed = false) :
    1 ≤ (limiter.check config key now).1.retryAfterSeconds := by
  unfold check at denied ⊢
  dsimp only at denied ⊢
  split at denied
  · cases denied
  · rename_i many
    rw [if_neg many]
    exact Nat.le_max_left _ _

/-- A wait of more than a second is over before the oldest attempt expires. -/
theorem le_of_told {wait oldest window now : Nat}
    (told : wait = max 1 ((oldest + window - now) / 1000000)) (long : wait ≠ 1) :
    now + wait * 1000000 ≤ oldest + window := by
  omega

/-- A key whose attempts are few enough a second later is told the truth, and no other one is. -/
theorem readmitted_iff (ascending : (limiter.hitsOf key).Pairwise (· ≤ ·))
    (denied : (limiter.check config key now).1.allowed = false) :
    ((limiter.check config key now).2.check config key
        (now + (limiter.check config key now).1.retryAfterSeconds * 1000000)).1.allowed = true ↔
      eases config limiter key now = true := by
  have waits := one_le_retryAfterSeconds denied
  have left : ((limiter.check config key now).2.hitsOf key).Pairwise (· ≤ ·) :=
    ascending.sublist check_sublist
  have many : ¬ (limiter.prune config key now).length < config.maxAttempts := by
    rw [length_prune ascending, ← allowed_iff ascending, denied]
    exact Bool.false_ne_true
  rw [allowed_iff left, hitsOf_check, recent_prune (Nat.le_add_right _ _), eases,
    decide_eq_true_iff]
  have told : (limiter.check config key now).1.retryAfterSeconds =
      max 1 (((limiter.prune config key now).headD 0 + config.window - now) / 1000000) := by
    unfold check
    dsimp only
    rw [if_neg many]
  constructor
  · intro readmitted
    -- A promise of more than a second ends before the oldest attempt expires.
    by_cases brief : (limiter.check config key now).1.retryAfterSeconds = 1
    · rw [brief, one_mul] at readmitted
      exact readmitted
    · have oldest := le_of_told told brief
      have all := recent_of_le_head (ascending.sublist prune_sublist) oldest
      have fewer : (limiter.prune config key now).length ≤ config.recent
          (now + (limiter.check config key now).1.retryAfterSeconds * 1000000)
          (limiter.hitsOf key) := by
        rw [← all]
        exact recent_le_of_sublist prune_sublist
      exact absurd (fewer.trans_lt readmitted) many
  · intro few
    have second : 1000000 ≤ (limiter.check config key now).1.retryAfterSeconds * 1000000 :=
      Nat.le_mul_of_pos_left _ waits
    exact (recent_antitone (Nat.add_le_add_left second now) _).trans_lt few

end SlidingWindowLimiter

/-! ## Runs -/

/-- No attempt of a key in use was forgotten before it expired. -/
structure Complete (config : LimiterConfig) (run : LimiterRun) : Prop where
  attempts : ∀ key now, run.clock ≤ now →
    config.recent now (run.limiter.hitsOf key) = config.recent now (run.attempts key)
  used : run.used.Perm run.limiter.hits.keys
  room : run.used.length ≤ config.maxKeys

/-- What holds after every call. -/
structure Kept (config : LimiterConfig) (run : LimiterRun) : Prop where
  ascending : ∀ key, (run.limiter.hitsOf key).Pairwise (· ≤ ·)
  past : ∀ key, ∀ hit ∈ run.limiter.hitsOf key, hit ≤ run.clock
  promised : ∀ key due, (key, due) ∈ run.promises →
    config.recent due (run.limiter.hitsOf key) < config.maxAttempts
  complete : run.crowded = false → Complete config run
  bounded : run.limiter.len ≤ config.maxKeys

section Runs

variable {config : LimiterConfig} {run after : LimiterRun} {key : String} {now : Instant}

/-- A key that is already in use makes nothing crowded. -/
theorem uncrowded_use (calm : (run.use config key now).crowded = false) :
    run.crowded = false ∧ (run.used.insert key).length ≤ config.maxKeys := by
  simp only [LimiterRun.use, Bool.or_eq_false_iff, decide_eq_false_iff_not, not_lt] at calm
  exact calm

/-- The keys in use grow with those of the dictionary. -/
theorem insert_perm {used keys : List String} (same : used.Perm keys) (key : String) :
    (used.insert key).Perm (key :: keys.erase key) := by
  by_cases inside : key ∈ used
  · rw [List.insert_of_mem inside]
    exact (List.perm_cons_erase inside).trans ((same.erase key).cons key)
  · rw [List.insert_of_not_mem inside,
      List.erase_of_not_mem fun there => inside (same.mem_iff.mpr there)]
    exact same.cons key

/-- Asking about a key, with care. -/
theorem Kept.check (kept : Kept config run) (ordered : run.clock ≤ now)
    (care : Careful config run (.check key now)) {promises : List (String × Instant)}
    (told : ∀ promise ∈ promises, promise ∈ run.promises ∨
      (promise.1 = key ∧ now + 1000000 ≤ promise.2)) :
    Kept config { run.use config key now with
      limiter := (run.limiter.check config key now).2, promises } where
  ascending other := (kept.ascending other).sublist SlidingWindowLimiter.check_sublist
  past other hit member :=
    (kept.past other hit (SlidingWindowLimiter.check_sublist.subset member)).trans ordered
  promised := by
    intro other due promise
    refine (SlidingWindowLimiter.recent_le_of_sublist
      SlidingWindowLimiter.check_sublist).trans_lt ?_
    rcases told _ promise with before | ⟨rfl, late⟩
    · exact kept.promised other due before
    · have few : eases config run.limiter other now = true := (Bool.and_eq_true_iff.mp care).2
      exact (SlidingWindowLimiter.recent_antitone late _).trans_lt (of_decide_eq_true few)
  complete := by
    intro calm
    obtain ⟨before, room⟩ := @uncrowded_use config run key now calm
    have complete := kept.complete before
    refine ⟨?_, ?_, room⟩
    · intro other later (after : now ≤ later)
      show config.recent later ((run.limiter.check config key now).2.hitsOf other) =
        config.recent later (run.attempts other)
      rw [← complete.attempts other later (ordered.trans after)]
      by_cases same : other = key
      · subst same
        rw [SlidingWindowLimiter.hitsOf_check, SlidingWindowLimiter.recent_prune after]
      · rw [SlidingWindowLimiter.hitsOf_check_ne same]
    · show (run.used.insert key).Perm (run.limiter.check config key now).2.hits.keys
      rw [SlidingWindowLimiter.keys_check]
      refine (insert_perm complete.used key).trans ?_
      by_cases inside : key ∈ run.limiter.hits
      · rw [if_pos inside]
        exact (List.perm_cons_erase inside).symm
      · rw [if_neg inside, List.erase_of_not_mem inside]
  bounded := by
    show (run.limiter.check config key now).2.hits.keys.length ≤ config.maxKeys
    rw [SlidingWindowLimiter.keys_check]
    have bounded : run.limiter.hits.keys.length ≤ config.maxKeys := kept.bounded
    by_cases inside : key ∈ run.limiter.hits
    · rw [if_pos inside]
      exact bounded
    · rw [if_neg inside, List.length_cons]
      have found := (Bool.and_eq_true_iff.mp care).1
      rw [Bool.or_eq_true, SlidingWindowLimiter.tracks_iff, decide_eq_true_iff] at found
      exact found.resolve_left inside

/-- Recording an attempt. -/
theorem Kept.record (kept : Kept config run) (ordered : run.clock ≤ now) :
    Kept config { run.use config key now with
      limiter := run.limiter.record config key now
      attempts := Function.update run.attempts key (run.attempts key ++ [now])
      promises := run.promises.filter fun promise => promise.1 != key } where
  ascending other := by
    refine List.Pairwise.sublist SlidingWindowLimiter.record_sublist ?_
    split
    · rename_i same
      rw [List.pairwise_append]
      refine ⟨(kept.ascending key).sublist SlidingWindowLimiter.prune_sublist,
        List.pairwise_singleton _ _, fun hit member last latest => ?_⟩
      rw [List.mem_singleton.mp latest]
      exact (kept.past key hit (SlidingWindowLimiter.prune_sublist.subset member)).trans ordered
    · exact kept.ascending other
  past other hit member := by
    have left := SlidingWindowLimiter.record_sublist.subset member
    split at left
    · rcases List.mem_append.mp left with before | latest
      · exact (kept.past key hit (SlidingWindowLimiter.prune_sublist.subset before)).trans ordered
      · exact (List.mem_singleton.mp latest).le
    · exact (kept.past other hit left).trans ordered
  promised := by
    intro other due promise
    obtain ⟨before, differ⟩ := List.mem_filter.mp promise
    have left := @SlidingWindowLimiter.record_sublist config run.limiter key other now
    rw [if_neg (by simpa using differ)] at left
    exact (SlidingWindowLimiter.recent_le_of_sublist left).trans_lt
      (kept.promised other due before)
  complete := by
    intro calm
    obtain ⟨before, within⟩ := @uncrowded_use config run key now calm
    have complete := kept.complete before
    have used := insert_perm complete.used key
    have room : (key :: run.limiter.hits.keys.erase key).length ≤ config.maxKeys :=
      used.length_eq ▸ within
    refine ⟨?_, ?_, within⟩
    · intro other later (after : now ≤ later)
      show config.recent later ((run.limiter.record config key now).hitsOf other) =
        config.recent later (Function.update run.attempts key (run.attempts key ++ [now]) other)
      rw [SlidingWindowLimiter.hitsOf_record_of_room room]
      have same := complete.attempts other later (ordered.trans after)
      by_cases own : other = key
      · subst own
        rw [if_pos rfl, Function.update_self, LimiterConfig.recent, LimiterConfig.recent,
          List.countP_append, List.countP_append]
        have pruned := @SlidingWindowLimiter.recent_prune config run.limiter other now later after
        rw [LimiterConfig.recent, LimiterConfig.recent] at pruned same
        rw [pruned, same]
      · rw [if_neg own, Function.update_of_ne own]
        exact same
    · show (run.used.insert key).Perm (run.limiter.record config key now).hits.keys
      rw [SlidingWindowLimiter.keys_record, List.take_of_length_le room]
      exact used
  bounded := by
    show (run.limiter.record config key now).hits.keys.length ≤ config.maxKeys
    rw [SlidingWindowLimiter.keys_record, List.length_take]
    exact Nat.min_le_left _ _

/-- Forgetting a key. -/
theorem Kept.reset (kept : Kept config run) : Kept config { run with
    limiter := run.limiter.reset key
    attempts := Function.update run.attempts key []
    used := run.used.erase key } where
  ascending other := (kept.ascending other).sublist SlidingWindowLimiter.reset_sublist
  past other hit member := kept.past other hit (SlidingWindowLimiter.reset_sublist.subset member)
  promised other due promise :=
    (SlidingWindowLimiter.recent_le_of_sublist SlidingWindowLimiter.reset_sublist).trans_lt
      (kept.promised other due promise)
  complete := by
    intro calm
    have complete := kept.complete calm
    refine ⟨?_, ?_, List.length_erase_le.trans complete.room⟩
    · intro other later after
      show config.recent later ((run.limiter.reset key).hitsOf other) =
        config.recent later (Function.update run.attempts key [] other)
      by_cases own : other = key
      · subst own
        rw [SlidingWindowLimiter.hitsOf_reset, Function.update_self]
      · rw [SlidingWindowLimiter.hitsOf_reset_ne own, Function.update_of_ne own]
        exact complete.attempts other later after
    · show (run.used.erase key).Perm (run.limiter.reset key).hits.keys
      rw [SlidingWindowLimiter.reset, AList.keys_erase]
      exact complete.used.erase key
  bounded := by
    show (run.limiter.hits.erase key).keys.length ≤ config.maxKeys
    rw [AList.keys_erase]
    exact List.length_erase_le.trans kept.bounded

/-- A call with care keeps what holds after every call. -/
theorem step_kept {call : LimiterCall} (kept : Kept config run)
    (care : Careful config run call) (stepped : limiterStep config run call = some after) :
    Kept config after := by
  unfold limiterStep at stepped
  cases call with
  | check key now =>
    dsimp only at stepped
    split at stepped
    · cases stepped
    · rename_i ordered
      obtain rfl := Option.some.inj stepped
      refine kept.check (not_lt.mp ordered) care fun promise listed => ?_
      split at listed
      · exact .inl listed
      · rename_i denied
        rcases List.mem_cons.mp listed with rfl | before
        · have waits := SlidingWindowLimiter.one_le_retryAfterSeconds (Bool.eq_false_iff.mpr denied)
          exact .inr ⟨rfl, Nat.add_le_add_left (Nat.le_mul_of_pos_left _ waits) now⟩
        · exact .inl before
  | record key now =>
    dsimp only at stepped
    split at stepped
    · cases stepped
    · rename_i ordered
      obtain rfl := Option.some.inj stepped
      exact kept.record (not_lt.mp ordered)
  | reset key =>
    obtain rfl := Option.some.inj stepped
    exact kept.reset

/-- After calls that take care the limiter does what it is there for. -/
theorem throttles_of_careful (reached : (limiterSystem config).Reachable (Careful config) run) :
    Throttles config run := by
  have kept : Kept config run := by
    apply reached.invariant_alone
    constructor
    · rintro _ rfl
      refine ⟨fun _ => .nil, fun _ _ was => absurd was List.not_mem_nil,
        fun _ _ was => absurd was List.not_mem_nil, fun _ => ⟨fun _ _ _ => rfl, .nil, ?_⟩, ?_⟩
      · exact Nat.zero_le _
      · exact Nat.zero_le _
    · exact fun _ _ _ _ kept care stepped => step_kept kept care stepped
  refine ⟨?_, ?_, kept.bounded⟩
  · intro calm key now later
    rw [SlidingWindowLimiter.allowed_iff (kept.ascending key),
      (kept.complete calm).attempts key now later]
  · intro key due promise now _ late
    rw [SlidingWindowLimiter.allowed_iff (kept.ascending key)]
    exact (SlidingWindowLimiter.recent_antitone late _).trans_lt (kept.promised key due promise)

end Runs

/-- One attempt in a minute, for one key. -/
def oncePerMinute : LimiterConfig := ⟨1, 60, 1⟩

/-- A key that asks half a second before its attempt expires is told to wait for a second, and may
proceed then. -/
theorem throttles_of_careful_wait :
    ∃ run, run.promises = [("key", 160500000)] ∧ run.crowded = false ∧
      Throttles oncePerMinute run := by
  obtain ⟨run, reached, shown⟩ : ∃ run,
      (limiterSystem oncePerMinute).Reachable (Careful oncePerMinute) run ∧
      (decide (run.promises = [("key", 160500000)]) && !run.crowded) = true := by
    refine System.exists_of_runFrom rfl
      [LimiterCall.record "key" 100000000, .check "key" 159500000] _ ?_
    decide +kernel
  simp only [Bool.and_eq_true, decide_eq_true_eq, Bool.not_eq_true'] at shown
  exact ⟨run, shown.1, shown.2, throttles_of_careful reached⟩

/-- A key that asks ten seconds after its attempt is told to wait for fifty seconds and is denied
then, and asking about a second key makes two keys tracked. -/
theorem not_throttles :
    (¬ ∀ (config : LimiterConfig) (run : LimiterRun),
      (limiterSystem config).Reachable System.unguarded run → ∀ key due,
        (key, due) ∈ run.promises → ∀ now, run.clock ≤ now → due ≤ now →
          (run.limiter.check config key now).1.allowed = true) ∧
    ¬ ∀ (config : LimiterConfig) (run : LimiterRun),
      (limiterSystem config).Reachable System.unguarded run → run.limiter.len ≤ config.maxKeys := by
  obtain ⟨run, reached, shown⟩ : ∃ run,
      (limiterSystem oncePerMinute).Reachable System.unguarded run ∧
      (decide (("key", 160000000) ∈ run.promises) && decide (run.clock ≤ 160000000) &&
        !(run.limiter.check oncePerMinute "key" 160000000).1.allowed &&
        decide (1 < run.limiter.len)) = true := by
    refine System.exists_of_runFrom rfl
      [LimiterCall.record "key" 100000000, .check "key" 110000000, .check "other" 110000000] _ ?_
    decide +kernel
  simp only [Bool.and_eq_true, decide_eq_true_eq, Bool.not_eq_true'] at shown
  obtain ⟨⟨⟨told, early⟩, denied⟩, many⟩ := shown
  refine ⟨fun always => ?_, fun always => ?_⟩
  · have allowed := always _ run reached "key" 160000000 told 160000000 early le_rfl
    rw [denied] at allowed
    cases allowed
  · exact absurd (always _ run reached) (Nat.not_le.mpr many)

end ProxSync.Auth
