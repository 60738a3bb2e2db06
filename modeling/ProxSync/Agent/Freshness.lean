import ProxSync.Agent.Signature
import ProxSync.Lib.System
/-!
# Freshness of signed requests

The requests that one agent process verifies against a clock that does not go back. An accepted
nonce stays cached for twice the window, so it is not accepted again within that time as long as
fewer nonces are claimed meanwhile than the cache holds. A timestamp that is not a number passes the
comparison with the window, and a header with a code point outside ASCII cannot be compared.
-/
open ProxSync.Lib

namespace ProxSync.Agent

/-- A request with what came of it. -/
structure Served where
  request : Request
  outcome : Except Fault Unit

/-- The verification of one process, with the requests it has served, newest first. -/
structure Verifying where
  cache : NonceCache
  clock : ℚ
  served : List Served

/-- An agent process that verifies requests. -/
def verifier (digests : Digests) (auth : RequestAuthenticator) (cacheSize : Nat) :
    System Verifying Request where
  init state := ∃ clock, state = ⟨.empty (auth.windowSeconds * 2) cacheSize, clock, []⟩
  step state request :=
    if request.now < state.clock then none
    else
      let verdict := auth.verify digests state.cache request
      some ⟨verdict.2, request.now, ⟨request, verdict.1⟩ :: state.served⟩

/-- Accepted requests are within the window of their timestamps, no two of them share a nonce within
twice the window, and every other request is refused with the authentication error. -/
structure Fresh (auth : RequestAuthenticator) (served : List Served) : Prop where
  within : ∀ item ∈ served, item.outcome = .ok () →
    ∃ instant, float item.request.timestamp = some (.finite instant) ∧
      |item.request.now - instant| ≤ auth.windowSeconds
  once : served.Pairwise fun (later earlier : Served) => later.outcome = .ok () →
    earlier.outcome = .ok () → later.request.nonce = earlier.request.nonce →
    earlier.request.now + auth.windowSeconds * 2 < later.request.now
  refused : ∀ item ∈ served, ∀ fault, item.outcome = .error fault →
    ∃ message, fault = .authenticationFailed message

/-- Texts that get to a comparison are ASCII, and a request that gets to claim its nonce has a
number as its timestamp and finds room in the cache. -/
def handled (digests : Digests) (auth : RequestAuthenticator) (state : Verifying)
    (request : Request) : Bool :=
  (!RequestAuthenticator.present request || (isAscii request.keyId && isAscii auth.keyId)) &&
    (!auth.reachesSignature request || isAscii request.signature) &&
    (!auth.reachesClaim digests state.cache request ||
      (float request.timestamp != some .nan &&
        (state.cache.purge request.now).size < state.cache.maxSize))

/-- The guard of the requests that are handled as documented. -/
def Handled (digests : Digests) (auth : RequestAuthenticator) (state : Verifying)
    (request : Request) : Prop := handled digests auth state request = true

instance (digests : Digests) (auth : RequestAuthenticator) (state : Verifying)
    (request : Request) : Decidable (Handled digests auth state request) :=
  inferInstanceAs (Decidable (_ = true))

variable {digests : Digests} {auth : RequestAuthenticator} {cacheSize : Nat}
variable {state after : Verifying} {request : Request}

/-- What a handled request is known to satisfy. -/
theorem Handled.known (allowed : Handled digests auth state request) :
    (RequestAuthenticator.present request = true →
      isAscii request.keyId = true ∧ isAscii auth.keyId = true) ∧
    (auth.reachesSignature request = true → isAscii request.signature = true) ∧
    (auth.reachesClaim digests state.cache request = true →
      float request.timestamp ≠ some .nan ∧
        (state.cache.purge request.now).size < state.cache.maxSize) := by
  have holds : handled digests auth state request = true := allowed
  unfold handled at holds
  simp only [Bool.and_eq_true, Bool.or_eq_true, Bool.not_eq_true', bne_iff_ne, ne_eq,
    decide_eq_true_eq] at holds
  obtain ⟨⟨key, signature⟩, claim⟩ := holds
  refine ⟨fun there => ?_, fun there => ?_, fun there => ?_⟩
  · exact key.resolve_left (by rw [there]; decide)
  · exact signature.resolve_left (by rw [there]; decide)
  · exact claim.resolve_left (by rw [there]; decide)

/-- A number within the window that is not special is near. -/
theorem near_of_within {requestTime : PyFloat} {now : ℚ} {window : Nat}
    (number : requestTime ≠ .nan) (within : exceeds window (skewFrom now requestTime) = false) :
    ∃ instant, requestTime = .finite instant ∧ |now - instant| ≤ window := by
  cases requestTime with
  | nan => exact absurd rfl number
  | infinite negative => cases within
  | finite instant =>
    have short : ¬ (window : ℚ) < |now - instant| := of_decide_eq_false within
    exact ⟨instant, rfl, not_lt.mp short⟩

/-! ## The cache remembers what was accepted -/

/-- A nonce whose time has not passed stays. -/
theorem lookup_purge {cache : NonceCache} {nonce : String} {now seenAt : ℚ}
    (cached : cache.entries.lookup nonce = some seenAt) (recent : now ≤ seenAt + cache.ttlSeconds) :
    (cache.purge now).entries.lookup nonce = some seenAt := by
  apply OrderedDict.lookup_dropOldest cached
  apply decide_eq_false
  intro old
  linarith

/-- The accepted nonces of the last two windows are cached with their instants. -/
structure Remembers (auth : RequestAuthenticator) (state : Verifying) : Prop where
  ttl : state.cache.ttlSeconds = auth.windowSeconds * 2
  past : ∀ item ∈ state.served, item.request.now ≤ state.clock
  cached : ∀ item ∈ state.served, item.outcome = .ok () →
    state.clock ≤ item.request.now + auth.windowSeconds * 2 →
    state.cache.entries.lookup item.request.nonce = some item.request.now

/-- What a served request leaves. -/
theorem verifier_step
    (stepped : (verifier digests auth cacheSize).step state request = some after) :
    state.clock ≤ request.now ∧
      after = ⟨(auth.verify digests state.cache request).2, request.now,
        ⟨request, (auth.verify digests state.cache request).1⟩ :: state.served⟩ := by
  unfold verifier at stepped
  simp only at stepped
  split at stepped
  · cases stepped
  · rename_i later
    exact ⟨not_lt.mp later, (Option.some.inj stepped).symm⟩

/-- Serving a handled request keeps the accepted nonces cached. -/
theorem remembers_step (allowed : Handled digests auth state request)
    (stepped : (verifier digests auth cacheSize).step state request = some after)
    (remembers : Remembers auth state) : Remembers auth after := by
  obtain ⟨forward, rfl⟩ := verifier_step stepped
  have past : ∀ outcome, ∀ item ∈ (⟨request, outcome⟩ : Served) :: state.served,
      item.request.now ≤ request.now := by
    intro outcome item inside
    rcases List.mem_cons.mp inside with rfl | before
    · exact le_refl _
    · exact (remembers.past item before).trans forward
  have kept : ∀ item ∈ state.served, item.outcome = .ok () →
      request.now ≤ item.request.now + auth.windowSeconds * 2 →
      (state.cache.purge request.now).entries.lookup item.request.nonce =
        some item.request.now := by
    intro item inside accepted recent
    apply lookup_purge (remembers.cached item inside accepted (forward.trans recent))
    rw [remembers.ttl, Nat.cast_mul]
    exact recent
  rcases @RequestAuthenticator.verify_cases digests auth state.cache request with
    ⟨fault, -, verdict⟩ | ⟨-, verdict⟩ | ⟨passed, verdict⟩
  · rw [verdict]
    constructor
    · exact remembers.ttl
    · exact past _
    · intro item inside accepted recent
      rcases List.mem_cons.mp inside with rfl | before
      · cases accepted
      · exact remembers.cached item before accepted (forward.trans recent)
  · rw [verdict]
    constructor
    · exact remembers.ttl
    · exact past _
    · intro item inside accepted recent
      rcases List.mem_cons.mp inside with rfl | before
      · cases accepted
      · exact kept item before accepted recent
  · have claimed : auth.reachesClaim digests state.cache request = true := by
      apply RequestAuthenticator.reachesClaim_of_accepted
      rw [verdict]
    have room := (allowed.known.2.2 claimed).2
    have absent : request.nonce ∉ (state.cache.purge request.now).entries := by
      intro there
      have used := passed.unused
      unfold NonceCache.contains at used
      rw [AList.lookup_isSome.mpr there] at used
      cases used
    have whole : OrderedDict.newest
        ((state.cache.purge request.now).entries.insert request.nonce request.now)
        state.cache.maxSize =
        (state.cache.purge request.now).entries.insert request.nonce request.now := by
      apply OrderedDict.newest_of_length
      rw [AList.entries_insert_of_notMem absent, List.length_cons]
      exact room
    rw [verdict, whole]
    constructor
    · exact remembers.ttl
    · exact past _
    · intro item inside accepted recent
      rcases List.mem_cons.mp inside with rfl | before
      · exact AList.lookup_insert _
      · have found := kept item before accepted recent
        have differ : item.request.nonce ≠ request.nonce := by
          intro same
          rw [same] at found
          exact absent (AList.lookup_isSome.mp (by rw [found]; rfl))
        show ((state.cache.purge request.now).entries.insert request.nonce request.now).lookup
          item.request.nonce = some item.request.now
        rw [AList.lookup_insert_ne differ]
        exact found

/-- Serving a handled request keeps the served ones fresh. -/
theorem fresh_step (allowed : Handled digests auth state request)
    (stepped : (verifier digests auth cacheSize).step state request = some after)
    (remembers : Remembers auth state) (fresh : Fresh auth state.served) :
    Fresh auth after.served := by
  obtain ⟨forward, rfl⟩ := verifier_step stepped
  obtain ⟨key, signature, claim⟩ := allowed.known
  constructor
  · intro item inside accepted
    rcases List.mem_cons.mp inside with rfl | before
    · have number := (claim (RequestAuthenticator.reachesClaim_of_accepted accepted)).1
      obtain ⟨requestTime, read, within⟩ := (RequestAuthenticator.verify_ok accepted).timed
      have special : requestTime ≠ .nan := by
        rintro rfl
        exact number read
      obtain ⟨instant, rfl, near⟩ := near_of_within special within
      exact ⟨instant, read, near⟩
    · exact fresh.within item before accepted
  · apply List.Pairwise.cons _ fresh.once
    intro earlier before accepted first same
    have unused := (RequestAuthenticator.verify_ok accepted).unused
    by_contra soon
    have cached := remembers.cached earlier before first
      (forward.trans (not_lt.mp soon))
    have found := @lookup_purge _ _ request.now _ cached
      (by rw [remembers.ttl, Nat.cast_mul]; exact not_lt.mp soon)
    unfold NonceCache.contains at unused
    rw [show request.nonce = earlier.request.nonce from same, found] at unused
    cases unused
  · intro item inside fault raised
    rcases List.mem_cons.mp inside with rfl | before
    · rcases @RequestAuthenticator.verify_cases digests auth state.cache request with
        ⟨other, refused, verdict⟩ | ⟨-, verdict⟩ | ⟨-, verdict⟩
      · obtain rfl : other = fault := by
          rw [verdict] at raised
          exact Except.error.inj raised
        exact RequestAuthenticator.checks_error refused key signature
      · rw [verdict] at raised
        exact ⟨_, (Except.error.inj raised).symm⟩
      · rw [verdict] at raised
        cases raised
    · exact fresh.refused item before fault raised

/-- In every run whose requests are handled, the nonces of the window are remembered. -/
theorem remembers_of_reachable
    (reached : (verifier digests auth cacheSize).Reachable (Handled digests auth) state) :
    Remembers auth state := by
  apply reached.invariant_alone
  constructor
  · rintro _ ⟨clock, rfl⟩
    exact ⟨rfl, fun _ inside => absurd inside List.not_mem_nil,
      fun _ inside => absurd inside List.not_mem_nil⟩
  · intro _ _ _ _ remembers allowed stepped
    exact remembers_step allowed stepped remembers

/-- In every run whose requests are all handled as documented the served requests are fresh. -/
theorem fresh_of_handled
    (reached : (verifier digests auth cacheSize).Reachable (Handled digests auth) state) :
    Fresh auth state.served := by
  apply reached.invariant (fun _ reached => remembers_of_reachable reached)
  constructor
  · rintro _ ⟨clock, rfl⟩
    exact ⟨fun _ inside => absurd inside List.not_mem_nil, .nil,
      fun _ inside => absurd inside List.not_mem_nil⟩
  · intro _ _ _ remembers fresh allowed stepped
    exact fresh_step allowed stepped remembers fresh

/-- A signed request for the state of the storage. -/
def storageStatus (timestamp nonce : String) (now : ℚ) : Request where
  method := .get
  urlPath := "/storage/status"
  urlQuery := ""
  headers := [("X-ProxSync-Key", "proxsync-dashboard"), ("X-ProxSync-Timestamp", timestamp),
    ("X-ProxSync-Nonce", nonce), ("X-ProxSync-Signature",
      signRequest knownDigests "secret" .get "/storage/status" timestamp nonce [])]
  body := []
  now := now

/-- The window ends at the double, not at the numeral it is read from. -/
example : minuteAuth.timely
    (storageStatus "1699999939.99999999999" "nonce-one" 1700000000) = true := by decide +kernel

/-- The agent when it has started. -/
def startedAgent (cacheSize : Nat) : Verifying := ⟨.empty 120 cacheSize, 1700000000, []⟩

/-- An agent that was just started is an initial state. -/
theorem init_startedAgent : (verifier knownDigests minuteAuth cacheSize).init
    (startedAgent cacheSize) := ⟨1700000000, rfl⟩

/-- Two requests with different nonces are accepted, and the one that repeats a nonce is refused. -/
theorem fresh_of_handled_twice :
    ∃ state : Verifying, Fresh minuteAuth state.served ∧
      state.served.map (fun item => item.outcome.toBool) = [false, true, true] := by
  obtain ⟨state, reached, shown⟩ : ∃ state : Verifying,
      (verifier knownDigests minuteAuth 2).Reachable (Handled knownDigests minuteAuth) state ∧
        (state.served.map (fun item => item.outcome.toBool) == [false, true, true]) = true := by
    refine System.exists_of_runFrom init_startedAgent
      [storageStatus "1700000000" "nonce-one" 1700000000,
        storageStatus "1700000000" "nonce-two" 1700000030,
        storageStatus "1700000000" "nonce-one" 1700000060] _ ?_
    decide +kernel
  exact ⟨state, fresh_of_handled reached, beq_iff_eq.mp shown⟩

/-- Whether a nonce was accepted twice at one time, with a timestamp that is not a number accepted
and a type error after it. -/
def replays : List Served → Bool
  | [⟨_, .error (.typeError _)⟩, special, ⟨later, .ok _⟩, _, ⟨earlier, .ok _⟩] =>
    special.outcome.toBool && float special.request.timestamp == some .nan &&
      later.nonce == earlier.nonce && later.now == earlier.now
  | _ => false

/-- With room for one nonce, a nonce is accepted again once another one was, a timestamp that is not
a number is accepted, and a key id with an accent raises a type error. -/
theorem not_fresh_of_replay :
    ∃ state : Verifying, (verifier knownDigests minuteAuth 1).Reachable System.unguarded state ∧
      ¬ Fresh minuteAuth state.served ∧
      (∃ item ∈ state.served, item.outcome.toBool = true ∧
        float item.request.timestamp = some .nan) ∧
      ∃ item ∈ state.served, ∃ message, item.outcome = .error (.typeError message) := by
  obtain ⟨state, reached, shown⟩ : ∃ state : Verifying,
      (verifier knownDigests minuteAuth 1).Reachable System.unguarded state ∧
        replays state.served = true := by
    refine System.exists_of_runFrom init_startedAgent
      [storageStatus "1700000000" "nonce-one" 1700000000,
        storageStatus "1700000000" "nonce-two" 1700000000,
        storageStatus "1700000000" "nonce-one" 1700000000,
        storageStatus "nan" "nonce-nan" 1700000000,
        { storageStatus "1700000000" "nonce-one" 1700000000 with
          headers := [("X-ProxSync-Key", "clé"), ("X-ProxSync-Timestamp", "1700000000"),
            ("X-ProxSync-Nonce", "nonce-one"), ("X-ProxSync-Signature", "0")] }] _ ?_
    decide +kernel
  unfold replays at shown
  split at shown
  · rename_i accented message special later _ _ earlier _ served
    simp only [Bool.and_eq_true, beq_iff_eq] at shown
    obtain ⟨⟨⟨accepted, number⟩, same⟩, instant⟩ := shown
    refine ⟨state, reached, ?_, ⟨special, by simp [served], accepted, number⟩,
      ⟨_, by rw [served]; exact List.mem_cons_self, message, rfl⟩⟩
    intro fresh
    have once := fresh.once
    rw [served] at once
    have pairs := (List.pairwise_cons.mp (List.pairwise_cons.mp (List.pairwise_cons.mp once).2).2).1
    have apart := pairs ⟨earlier, .ok ()⟩ (by simp) rfl rfl same
    simp only [instant, minuteAuth] at apart
    norm_num at apart
  · cases shown

end ProxSync.Agent
