import ProxSync.Lib.System
import ProxSync.Schemas
/-!
# Refresh-token families

Every token descends from one login and carries the name of its family. A refresh reads the
presented token, looks up its user and only then writes: it revokes the token and stores a
successor, in one transaction, without looking at the token again. The other requests revoke whole
families. A request's reads see what is committed, its writes are one step because the database has
one writer, and any number of requests may be between the two.
-/
open ProxSync.Lib

namespace ProxSync.Auth

/-- One issued refresh token, stored by its digest. -/
structure RefreshToken where
  id : Nat
  userId : Nat
  tokenHash : String
  familyId : String
  expiresAt : Instant
  revokedAt : Option Instant
  revokedReason : Option String
  deriving DecidableEq, Repr

/-- A token that can still be exchanged. -/
def RefreshToken.isUsable (token : RefreshToken) (now : Instant) : Bool :=
  token.revokedAt.isNone && decide (now < token.expiresAt)

/-- A request between its reads and its commit, with what it read. -/
inductive Request
  /-- A token that was found live; its user is looked up next. -/
  | refreshing (stored : RefreshToken) (now : Instant)
  | rotating (stored : RefreshToken) (now : Instant)
  | expiring (stored : RefreshToken) (now : Instant)
  /-- The user of the token is gone or disabled. -/
  | orphaned (familyId : String) (now : Instant)
  /-- A revoked token was presented. -/
  | replaying (familyId : String) (now : Instant)
  | loggingOut (familyId : String) (now : Instant)
  | revokingSession (familyId : String) (now : Instant)
  deriving DecidableEq

/-- What was committed about a token or a family. -/
inductive Event
  | exchanged (tokenId successorId : Nat)
  | replayed (familyId : String)
  deriving DecidableEq, Repr

/-- The token table, the requests in flight and what was committed, latest first. -/
structure State where
  tokens : Table RefreshToken.id
  requests : Nat → Option Request
  journal : List Event

/-- What may happen next; a request is known by a number. -/
inductive Action
  | login (userId : Nat) (familyId tokenHash : String) (now : Instant)
  | refresh (request : Nat) (tokenHash : String) (now : Instant)
  | lookUpUser (request : Nat) (available : Bool)
  | logout (request : Nat) (tokenHash : String) (now : Instant)
  | revokeSession (request userId sessionId : Nat) (now : Instant)
  | changePassword (userId : Nat) (now : Instant)
  /-- The writes of a request and its commit; a successor gets a digest. -/
  | commit (request : Nat) (tokenHash : String)
  /-- A request is rolled back. -/
  | drop (request : Nat)
  | crash

/-! ## Reads and writes -/

/-- Revoke a token. -/
def revoke (at_ : Instant) (reason : String) (token : RefreshToken) : RefreshToken :=
  { token with revokedAt := some at_, revokedReason := some reason }

/-- A revoked token keeps its id. -/
theorem revoke_id (at_ : Instant) (reason : String) (token : RefreshToken) :
    (revoke at_ reason token).id = token.id := rfl

/-- Revoke a token if a test selects it and it was not revoked before. -/
def revokeWhere (test : RefreshToken → Bool) (at_ : Instant) (reason : String)
    (token : RefreshToken) : RefreshToken :=
  if test token && token.revokedAt.isNone then revoke at_ reason token else token

/-- Revoking some tokens keeps the ids of all. -/
theorem revokeWhere_id (test : RefreshToken → Bool) (at_ : Instant) (reason : String)
    (token : RefreshToken) : (revokeWhere test at_ reason token).id = token.id := by
  unfold revokeWhere
  split <;> rfl

/-- A token as it is issued. -/
def issued (userId : Nat) (tokenHash familyId : String) (expiresAt : Instant) (id : Nat) :
    RefreshToken :=
  ⟨id, userId, tokenHash, familyId, expiresAt, none, none⟩

/-- An issued token has the id it is issued under. -/
theorem issued_id (userId : Nat) (tokenHash familyId : String) (expiresAt : Instant) (id : Nat) :
    (issued userId tokenHash familyId expiresAt id).id = id := rfl

/-- The token stored under a digest. -/
def getByHash (tokens : Table RefreshToken.id) (tokenHash : String) : Option RefreshToken :=
  tokens.rows.find? fun token => token.tokenHash == tokenHash

/-- Revoke every token of a family. -/
def revokeFamily (tokens : Table RefreshToken.id) (familyId : String) (at_ : Instant)
    (reason : String) : Table RefreshToken.id :=
  tokens.map (revokeWhere (fun token => token.familyId == familyId) at_ reason)
    (revokeWhere_id _ _ _)

/-- Revoke every token of a user. -/
def revokeAllForUser (tokens : Table RefreshToken.id) (userId : Nat) (at_ : Instant)
    (reason : String) : Table RefreshToken.id :=
  tokens.map (revokeWhere (fun token => token.userId == userId) at_ reason)
    (revokeWhere_id _ _ _)

/-- The session of a user with an id, if it is live. -/
def activeSession (tokens : Table RefreshToken.id) (userId sessionId : Nat) (now : Instant) :
    Option RefreshToken :=
  tokens.rows.find? fun token =>
    token.userId == userId && token.isUsable now && token.id == sessionId

/-- What a refresh does with the token it found. -/
def examine (stored : RefreshToken) (now : Instant) : Request :=
  if stored.revokedAt.isSome then .replaying stored.familyId now
  else if stored.expiresAt ≤ now then .expiring stored now
  else .refreshing stored now

namespace State

/-- Take up a request, or let go of it. -/
def track (state : State) (request : Nat) (progress : Option Request) : State :=
  { state with requests := Function.update state.requests request progress }

/-- Store a token under the next id. -/
def issue (state : State) (userId : Nat) (tokenHash familyId : String) (expiresAt : Instant) :
    State :=
  { state with
    tokens := state.tokens.append (issued userId tokenHash familyId expiresAt) (issued_id _ _ _ _) }

/-- Whether a digest is not stored yet; the column is unique. -/
def unusedHash (state : State) (tokenHash : String) : Bool :=
  state.tokens.rows.all fun token => token.tokenHash != tokenHash

/-- Whether no token belongs to a family. A family is named by sixteen random bytes, and no name is
drawn twice. -/
def unusedFamily (state : State) (familyId : String) : Bool :=
  state.tokens.rows.all fun token => token.familyId != familyId

/-- Revoke a token and store its successor. -/
def rotate (state : State) (ttl : Nat) (stored : RefreshToken) (tokenHash : String)
    (now : Instant) : State :=
  let revoked := state.tokens.modify stored.id (revoke now "rotated") (revoke_id _ _)
  { { state with tokens := revoked }.issue stored.userId tokenHash stored.familyId (now + ttl) with
    journal := .exchanged stored.id revoked.nextKey :: state.journal }

/-- The writes of a request. -/
def write (state : State) (ttl : Nat) (tokenHash : String) : Request → Option State
  | .refreshing _ _ => none
  | .rotating stored now =>
    if state.unusedHash tokenHash then some (state.rotate ttl stored tokenHash now) else none
  | .expiring stored now => some { state with
      tokens := state.tokens.modify stored.id (revoke now "expired") (revoke_id _ _) }
  | .orphaned familyId now => some { state with
      tokens := revokeFamily state.tokens familyId now "user_unavailable" }
  | .replaying familyId now => some { state with
      tokens := revokeFamily state.tokens familyId now "reuse_detected"
      journal := .replayed familyId :: state.journal }
  | .loggingOut familyId now => some { state with
      tokens := revokeFamily state.tokens familyId now "logout" }
  | .revokingSession familyId now => some { state with
      tokens := revokeFamily state.tokens familyId now "revoked_by_user" }

end State

/-! ## Steps -/

/-- The effect of one action, or nothing where it cannot happen; tokens live for a time. -/
def step (ttl : Nat) (state : State) : Action → Option State
  | .login userId familyId tokenHash now =>
    if state.unusedFamily familyId && state.unusedHash tokenHash then
      some (state.issue userId tokenHash familyId (now + ttl))
    else none
  | .refresh request tokenHash now =>
    match state.requests request, getByHash state.tokens tokenHash with
    | none, some stored => some (state.track request (some (examine stored now)))
    | _, _ => none
  | .lookUpUser request available =>
    match state.requests request with
    | some (.refreshing stored now) =>
      if available then some (state.track request (some (.rotating stored now)))
      else some (state.track request (some (.orphaned stored.familyId now)))
    | _ => none
  | .logout request tokenHash now =>
    match state.requests request, getByHash state.tokens tokenHash with
    | none, some stored => some (state.track request (some (.loggingOut stored.familyId now)))
    | _, _ => none
  | .revokeSession request userId sessionId now =>
    match state.requests request, activeSession state.tokens userId sessionId now with
    | none, some stored => some (state.track request (some (.revokingSession stored.familyId now)))
    | _, _ => none
  | .changePassword userId now => some { state with
      tokens := revokeAllForUser state.tokens userId now "password_changed" }
  | .commit request tokenHash =>
    match state.requests request with
    | some progress => (state.write ttl tokenHash progress).map (·.track request none)
    | none => none
  | .drop request => some (state.track request none)
  | .crash => some { state with requests := fun _ => none }

/-- The sessions of a new installation. -/
def system (ttl : Nat) : System State Action where
  init state := state = ⟨.empty, fun _ => none, []⟩
  step := step ttl

/-! ## What families promise -/

/-- At most one token of a family can be exchanged at any time. -/
def OneLive (state : State) : Prop :=
  ∀ now, ∀ first ∈ state.tokens, ∀ second ∈ state.tokens, first.familyId = second.familyId →
    first.isUsable now = true → second.isUsable now = true → first = second

/-- Whether an event is the exchange of a token. -/
def Event.isExchangeOf (tokenId : Nat) : Event → Bool
  | .exchanged id _ => id == tokenId
  | .replayed _ => false

/-- What families promise in a committed state. -/
structure FamiliesHold (state : State) : Prop where
  oneLive : OneLive state
  exchangedOnce : ∀ tokenId, state.journal.countP (Event.isExchangeOf tokenId) ≤ 1
  /-- After a replay, every token of the family is revoked. -/
  burned : ∀ familyId, .replayed familyId ∈ state.journal →
    ∀ token ∈ state.tokens, token.familyId = familyId → token.revokedAt.isSome = true

/-- Whether a refresh that is committed finds the token it read unrevoked still. -/
def unraced (state : State) : Action → Bool
  | .commit request _ =>
    match state.requests request with
    | some (.rotating stored _) =>
      (state.tokens.get stored.id).any fun current => current.revokedAt.isNone
    | _ => true
  | _ => true

/-- A refresh commits only while nobody else has revoked the token it read. -/
def Unraced (state : State) (action : Action) : Prop := unraced state action = true

instance (state : State) (action : Action) : Decidable (Unraced state action) :=
  inferInstanceAs (Decidable (_ = true))

/-! ## Revoking -/

/-- Every token is still there, in its family, and none lost its revocation. -/
def Ages (before after : Table RefreshToken.id) : Prop :=
  ∀ old ∈ before, ∃ token ∈ after, token.id = old.id ∧ token.familyId = old.familyId ∧
    (old.revokedAt.isSome = true → token.revokedAt.isSome = true)

/-- Tokens were only revoked. -/
structure Revokes (before after : Table RefreshToken.id) : Prop where
  ages : Ages before after
  back : ∀ token ∈ after, ∃ old ∈ before, old.id = token.id ∧ old.familyId = token.familyId ∧
    (old.revokedAt.isSome = true → token.revokedAt.isSome = true)

section Revoking

variable {tokens : Table RefreshToken.id} {token : RefreshToken} (now : Instant) (reason : String)

/-- A token that a revocation selects or not stays in its family and stays revoked. -/
theorem revokeWhere_keeps (test : RefreshToken → Bool) (token : RefreshToken) :
    (revokeWhere test now reason token).familyId = token.familyId ∧
      (token.revokedAt.isSome = true →
        (revokeWhere test now reason token).revokedAt.isSome = true) := by
  unfold revokeWhere
  split
  · exact ⟨rfl, fun _ => rfl⟩
  · exact ⟨rfl, id⟩

/-- A selected token is revoked. -/
theorem revokeWhere_revoked {test : RefreshToken → Bool} (selected : test token = true) :
    (revokeWhere test now reason token).revokedAt.isSome = true := by
  unfold revokeWhere
  rw [selected, Bool.true_and]
  split
  · rfl
  · rename_i already
    exact Option.isSome_iff_ne_none.mpr (by simpa using already)

/-- Revoking what a test selects only revokes. -/
theorem map_revokes (test : RefreshToken → Bool) :
    Revokes tokens (tokens.map (revokeWhere test now reason) (revokeWhere_id _ _ _)) where
  ages old stored := by
    have kept := revokeWhere_keeps now reason test old
    exact ⟨_, (Table.mem_map _).mpr ⟨old, stored, rfl⟩, revokeWhere_id _ _ _ _, kept.1, kept.2⟩
  back token stored := by
    obtain ⟨old, before, rfl⟩ := (Table.mem_map _).mp stored
    have kept := revokeWhere_keeps now reason test old
    exact ⟨old, before, (revokeWhere_id _ _ _ _).symm, kept.1.symm, kept.2⟩

/-- Revoking one token only revokes. -/
theorem modify_revokes (tokenId : Nat) :
    Revokes tokens (tokens.modify tokenId (revoke now reason) (revoke_id _ _)) where
  ages old stored := Table.exists_mem_modify (revoke_id _ _) stored ⟨rfl, rfl, id⟩
    fun _ => ⟨rfl, rfl, fun _ => rfl⟩
  back token stored := by
    rcases (Table.mem_modify (revoke_id _ _)).mp stored with ⟨old, before, _, rfl⟩ | ⟨before, _⟩
    · exact ⟨old, before, rfl, rfl, fun _ => rfl⟩
    · exact ⟨token, before, rfl, rfl, id⟩

/-- A revoked family is revoked. -/
theorem revokeFamily_revoked {now : Instant} {reason familyId : String}
    (stored : token ∈ revokeFamily tokens familyId now reason) (own : token.familyId = familyId) :
    token.revokedAt.isSome = true := by
  obtain ⟨old, _, rfl⟩ := (Table.mem_map _).mp stored
  apply revokeWhere_revoked now reason
  have same := (revokeWhere_keeps now reason (fun token => token.familyId == familyId) old).1
  exact beq_iff_eq.mpr (same.symm.trans own)

end Revoking

/-! ## The families of a reached state -/

/-- The family a request is about. -/
def Request.familyId : Request → String
  | .refreshing stored _ | .rotating stored _ | .expiring stored _ => stored.familyId
  | .orphaned familyId _ | .replaying familyId _ | .loggingOut familyId _
  | .revokingSession familyId _ => familyId

/-- The token a request read. -/
def Request.stored : Request → Option RefreshToken
  | .refreshing stored _ | .rotating stored _ | .expiring stored _ => some stored
  | _ => none

/-- What a request read is stored still. -/
def Held (tokens : Table RefreshToken.id) (progress : Request) : Prop :=
  ∃ token ∈ tokens, token.familyId = progress.familyId ∧
    ∀ stored ∈ progress.stored, token.id = stored.id

/-- What every reached state satisfies while no refresh is raced. -/
structure Sound (state : State) : Prop where
  held : ∀ request progress, state.requests request = some progress → Held state.tokens progress
  /-- A family has one token that is not revoked. -/
  alone : ∀ first ∈ state.tokens, ∀ second ∈ state.tokens, first.familyId = second.familyId →
    first.revokedAt = none → second.revokedAt = none → first = second
  spent : ∀ tokenId successorId, .exchanged tokenId successorId ∈ state.journal →
    ∃ token ∈ state.tokens, token.id = tokenId ∧ token.revokedAt.isSome = true
  once : ∀ tokenId, state.journal.countP (Event.isExchangeOf tokenId) ≤ 1
  known : ∀ familyId, .replayed familyId ∈ state.journal →
    ∃ token ∈ state.tokens, token.familyId = familyId
  burned : ∀ familyId, .replayed familyId ∈ state.journal →
    ∀ token ∈ state.tokens, token.familyId = familyId → token.revokedAt.isSome = true

section Steps

variable {state after : State} {tokens : Table RefreshToken.id} {progress : Request}

/-- What a request read is stored still after tokens aged. -/
theorem Held.ages (held : Held tokens progress) {later : Table RefreshToken.id}
    (ages : Ages tokens later) : Held later progress := by
  obtain ⟨old, stored, family, same⟩ := held
  obtain ⟨token, there, named, kept, _⟩ := ages old stored
  exact ⟨token, there, kept.trans family, fun read listed => named.trans (same read listed)⟩

/-- A token that is found is stored, under the digest. -/
theorem getByHash_stored {tokenHash : String} {token : RefreshToken}
    (found : getByHash tokens tokenHash = some token) : token ∈ tokens :=
  List.mem_of_find?_eq_some found

/-- What a refresh does next is about the token it found. -/
theorem examine_held {token : RefreshToken} (stored : token ∈ tokens) (now : Instant) :
    Held tokens (examine token now) := by
  unfold examine
  split
  · exact ⟨token, stored, rfl, fun _ listed => absurd listed (Option.not_mem_none _)⟩
  · split
    · exact ⟨token, stored, rfl, fun _ listed => congrArg _ (Option.some.inj listed)⟩
    · exact ⟨token, stored, rfl, fun _ listed => congrArg _ (Option.some.inj listed)⟩

/-- Taking up a request about a stored token changes nothing else. -/
theorem Sound.track (sound : Sound state) (request : Nat) {later : Option Request}
    (held : ∀ progress ∈ later, Held state.tokens progress) :
    Sound (state.track request later) where
  held other progress listed := by
    by_cases same : other = request
    · subst same
      exact held progress (by simpa [State.track] using listed)
    · have before : state.requests other = some progress := by
        simpa [State.track, same] using listed
      exact sound.held other progress before
  alone := sound.alone
  spent := sound.spent
  once := sound.once
  known := sound.known
  burned := sound.burned

/-- Revoking tokens keeps the state sound. -/
theorem Sound.revokes (sound : Sound state) {later : Table RefreshToken.id}
    (revokes : Revokes state.tokens later) : Sound { state with tokens := later } where
  held request progress listed := (sound.held request progress listed).ages revokes.ages
  alone := by
    intro first isFirst second isSecond same firstOpen secondOpen
    obtain ⟨old, oldStored, oldId, oldFamily, oldKept⟩ := revokes.back first isFirst
    obtain ⟨other, otherStored, otherId, otherFamily, otherKept⟩ := revokes.back second isSecond
    have oldOpen : old.revokedAt = none := by
      rw [← Option.not_isSome_iff_eq_none]
      intro already
      rw [firstOpen] at oldKept
      exact absurd (oldKept already) Bool.false_ne_true
    have otherOpen : other.revokedAt = none := by
      rw [← Option.not_isSome_iff_eq_none]
      intro already
      rw [secondOpen] at otherKept
      exact absurd (otherKept already) Bool.false_ne_true
    have family : old.familyId = other.familyId := by
      rw [oldFamily, otherFamily, same]
    have one := sound.alone old oldStored other otherStored family oldOpen otherOpen
    exact Table.eq_of_key isFirst isSecond (by rw [← oldId, ← otherId, one])
  spent tokenId successorId listed := by
    obtain ⟨old, stored, named, already⟩ := sound.spent tokenId successorId listed
    obtain ⟨token, there, same, _, kept⟩ := revokes.ages old stored
    exact ⟨token, there, same.trans named, kept already⟩
  once := sound.once
  known familyId listed := by
    obtain ⟨old, stored, own⟩ := sound.known familyId listed
    obtain ⟨token, there, _, same, _⟩ := revokes.ages old stored
    exact ⟨token, there, same.trans own⟩
  burned familyId listed token stored own := by
    obtain ⟨old, before, _, same, kept⟩ := revokes.back token stored
    exact kept (sound.burned familyId listed old before (same.trans own))

/-- Burning a family that has tokens keeps the state sound. -/
theorem Sound.replay (sound : Sound state) {familyId : String} {now : Instant} {reason : String}
    (known : ∃ token ∈ state.tokens, token.familyId = familyId) :
    Sound { state with
      tokens := revokeFamily state.tokens familyId now reason
      journal := .replayed familyId :: state.journal } := by
  have revokes : Revokes state.tokens (revokeFamily state.tokens familyId now reason) :=
    map_revokes now reason _
  have kept := sound.revokes revokes
  refine ⟨kept.held, kept.alone, ?_, ?_, ?_, ?_⟩
  · intro tokenId successorId listed
    rcases List.mem_cons.mp listed with same | earlier
    · cases same
    · exact kept.spent tokenId successorId earlier
  · intro tokenId
    rw [List.countP_cons_of_neg (by simp [Event.isExchangeOf])]
    exact sound.once tokenId
  · intro other listed
    rcases List.mem_cons.mp listed with same | earlier
    · obtain ⟨old, stored, own⟩ := known
      obtain ⟨token, there, _, same', _⟩ := revokes.ages old stored
      cases same
      exact ⟨token, there, same'.trans own⟩
    · exact kept.known other earlier
  · intro other listed token stored own
    rcases List.mem_cons.mp listed with same | earlier
    · cases same
      exact revokeFamily_revoked stored own
    · exact kept.burned other earlier token stored own

/-- The tokens after one was issued. -/
theorem mem_issue {userId : Nat} {tokenHash familyId : String} {expiresAt : Instant}
    {token : RefreshToken} :
    token ∈ (state.issue userId tokenHash familyId expiresAt).tokens ↔ token ∈ state.tokens ∨
      token = issued userId tokenHash familyId expiresAt state.tokens.nextKey :=
  Table.mem_append (issued_id _ _ _ _)

/-- A token that joins the others, alone in what is open of its family, keeps the state sound. -/
theorem Sound.issue (sound : Sound state) (userId : Nat) (tokenHash : String) {familyId : String}
    (expiresAt : Instant)
    (closed : ∀ token ∈ state.tokens, token.familyId = familyId → token.revokedAt.isSome = true)
    (unburned : .replayed familyId ∉ state.journal) :
    Sound (state.issue userId tokenHash familyId expiresAt) := by
  have ages : Ages state.tokens (state.issue userId tokenHash familyId expiresAt).tokens :=
    fun old stored => ⟨old, mem_issue.mpr (.inl stored), rfl, rfl, fun kept => kept⟩
  refine ⟨fun request progress listed => (sound.held request progress listed).ages ages, ?_, ?_,
    sound.once, ?_, ?_⟩
  · intro first isFirst second isSecond same firstOpen secondOpen
    rcases mem_issue.mp isFirst with old | rfl
    · rcases mem_issue.mp isSecond with other | rfl
      · exact sound.alone first old second other same firstOpen secondOpen
      · have shut := closed first old same
        rw [firstOpen] at shut
        cases shut
    · rcases mem_issue.mp isSecond with other | rfl
      · have shut := closed second other same.symm
        rw [secondOpen] at shut
        cases shut
      · rfl
  · intro tokenId successorId listed
    obtain ⟨token, stored, kept⟩ := sound.spent tokenId successorId listed
    exact ⟨token, mem_issue.mpr (.inl stored), kept⟩
  · intro other listed
    obtain ⟨token, stored, own⟩ := sound.known other listed
    exact ⟨token, mem_issue.mpr (.inl stored), own⟩
  · intro other listed token stored own
    rcases mem_issue.mp stored with old | rfl
    · exact sound.burned other listed token old own
    · have same : familyId = other := own
      exact absurd listed (same ▸ unburned)

/-- Noting the first exchange of a revoked token keeps the state sound. -/
theorem Sound.exchanged (sound : Sound state) {tokenId : Nat} (successorId : Nat)
    (spent : ∃ token ∈ state.tokens, token.id = tokenId ∧ token.revokedAt.isSome = true)
    (first : state.journal.countP (Event.isExchangeOf tokenId) = 0) :
    Sound { state with journal := .exchanged tokenId successorId :: state.journal } where
  held := sound.held
  alone := sound.alone
  spent other successor listed := by
    rcases List.mem_cons.mp listed with same | earlier
    · cases same
      exact spent
    · exact sound.spent other successor earlier
  once other := by
    by_cases same : tokenId = other
    · subst same
      rw [List.countP_cons_of_pos (by simp [Event.isExchangeOf]), first]
    · rw [List.countP_cons_of_neg (by simpa [Event.isExchangeOf] using same)]
      exact sound.once other
  known familyId listed := by
    rcases List.mem_cons.mp listed with same | earlier
    · cases same
    · exact sound.known familyId earlier
  burned familyId listed := by
    rcases List.mem_cons.mp listed with same | earlier
    · cases same
    · exact sound.burned familyId earlier

/-- A token that was never revoked was never exchanged. -/
theorem Sound.unexchanged (sound : Sound state) {token : RefreshToken}
    (stored : token ∈ state.tokens) (free : token.revokedAt = none) :
    state.journal.countP (Event.isExchangeOf token.id) = 0 := by
  apply List.countP_eq_zero.mpr
  intro event listed exchanges
  cases event with
  | replayed familyId => cases exchanges
  | exchanged tokenId successorId =>
    obtain ⟨spent, there, named, already⟩ := sound.spent tokenId successorId listed
    have own : tokenId = token.id := eq_of_beq exchanges
    have same : spent = token := Table.eq_of_key there stored (named.trans own)
    rw [same, free] at already
    cases already

/-- An exchange of a token that is not revoked keeps the state sound. -/
theorem Sound.rotate (sound : Sound state) {stored current : RefreshToken} (ttl : Nat)
    (tokenHash : String) (now : Instant) (there : current ∈ state.tokens)
    (named : current.id = stored.id) (family : current.familyId = stored.familyId)
    (free : current.revokedAt = none) : Sound (state.rotate ttl stored tokenHash now) := by
  have revoked := sound.revokes (modify_revokes now "rotated" stored.id)
  -- What was open of the family was the token that is exchanged.
  have closed : ∀ token ∈ state.tokens.modify stored.id (revoke now "rotated") (revoke_id _ _),
      token.familyId = stored.familyId → token.revokedAt.isSome = true := by
    intro token kept own
    rcases (Table.mem_modify (revoke_id _ _)).mp kept with ⟨old, _, _, rfl⟩ | ⟨before, other⟩
    · rfl
    · rw [Option.isSome_iff_ne_none]
      intro open_
      have same := sound.alone token before current there (own.trans family.symm) open_ free
      exact other (same ▸ named)
  have unburned : .replayed stored.familyId ∉ state.journal := by
    intro listed
    have shut := sound.burned stored.familyId listed current there family
    rw [free] at shut
    cases shut
  have issued := revoked.issue stored.userId tokenHash (now + ttl) closed unburned
  apply issued.exchanged
  · have image : revoke now "rotated" current ∈
        state.tokens.modify stored.id (revoke now "rotated") (revoke_id _ _) :=
      (Table.mem_modify (revoke_id _ _)).mpr (.inl ⟨current, there, named, rfl⟩)
    exact ⟨_, mem_issue.mpr (.inl image), named, rfl⟩
  · rw [← named]
    exact sound.unexchanged there free

/-- The writes of a request that is not raced keep the state sound. -/
theorem Sound.write (sound : Sound state) {ttl : Nat} {tokenHash : String}
    (held : Held state.tokens progress)
    (current : ∀ stored now, progress = .rotating stored now →
      ∃ token ∈ state.tokens, token.id = stored.id ∧ token.revokedAt = none)
    (written : state.write ttl tokenHash progress = some after) : Sound after := by
  cases progress with
  | refreshing stored now => cases written
  | rotating stored now =>
    simp only [State.write] at written
    split at written
    · obtain rfl := Option.some.inj written
      obtain ⟨token, there, named, free⟩ := current stored now rfl
      obtain ⟨read, kept, family, same⟩ := held
      have one : read = token :=
        Table.eq_of_key kept there ((same stored rfl).trans named.symm)
      exact sound.rotate ttl tokenHash now there named (one ▸ family) free
    · cases written
  | expiring stored now =>
    obtain rfl := Option.some.inj written
    exact sound.revokes (modify_revokes _ _ stored.id)
  | orphaned familyId now | loggingOut familyId now | revokingSession familyId now =>
    obtain rfl := Option.some.inj written
    exact sound.revokes (map_revokes _ _ _)
  | replaying familyId now =>
    obtain rfl := Option.some.inj written
    obtain ⟨token, stored, family, _⟩ := held
    exact sound.replay ⟨token, stored, family⟩

/-- A name that no token carries is the name of no token. -/
theorem not_unusedFamily {familyId : String} (fresh : state.unusedFamily familyId = true)
    {token : RefreshToken} (stored : token ∈ state.tokens) : token.familyId ≠ familyId := by
  have apart := List.all_eq_true.mp fresh token stored
  simpa using apart

/-- One step that is not raced keeps the state sound. -/
theorem step_sound {ttl : Nat} {action : Action} (sound : Sound state)
    (allowed : Unraced state action) (stepped : step ttl state action = some after) :
    Sound after := by
  cases action with
  | login userId familyId tokenHash now =>
    simp only [step] at stepped
    split at stepped
    · rename_i fresh
      obtain rfl := Option.some.inj stepped
      have apart : ∀ token ∈ state.tokens, token.familyId ≠ familyId :=
        fun _ stored => not_unusedFamily (Bool.and_eq_true_iff.mp fresh).1 stored
      apply sound.issue
      · exact fun token stored own => absurd own (apart token stored)
      · intro listed
        obtain ⟨token, stored, own⟩ := sound.known familyId listed
        exact apart token stored own
    · cases stepped
  | refresh request tokenHash now =>
    simp only [step] at stepped
    split at stepped
    · rename_i stored free found
      obtain rfl := Option.some.inj stepped
      apply sound.track
      intro progress listed
      exact Option.some.inj listed ▸ examine_held (getByHash_stored found) now
    · cases stepped
  | lookUpUser request available =>
    simp only [step] at stepped
    split at stepped
    · rename_i stored now at_
      obtain ⟨token, there, family, same⟩ := sound.held request _ at_
      split at stepped
      · obtain rfl := Option.some.inj stepped
        apply sound.track
        intro progress listed
        exact Option.some.inj listed ▸ ⟨token, there, family, same⟩
      · obtain rfl := Option.some.inj stepped
        apply sound.track
        intro progress listed
        obtain rfl := Option.some.inj listed
        exact ⟨token, there, family, fun _ none => absurd none (Option.not_mem_none _)⟩
    · cases stepped
  | logout request tokenHash now =>
    simp only [step] at stepped
    split at stepped
    · rename_i stored free found
      obtain rfl := Option.some.inj stepped
      apply sound.track
      intro progress listed
      obtain rfl := Option.some.inj listed
      exact ⟨stored, getByHash_stored found, rfl, fun _ none => absurd none (Option.not_mem_none _)⟩
    · cases stepped
  | revokeSession request userId sessionId now =>
    simp only [step] at stepped
    split at stepped
    · rename_i stored free found
      obtain rfl := Option.some.inj stepped
      apply sound.track
      intro progress listed
      obtain rfl := Option.some.inj listed
      exact ⟨stored, List.mem_of_find?_eq_some found, rfl,
        fun _ none => absurd none (Option.not_mem_none _)⟩
    · cases stepped
  | changePassword userId now =>
    obtain rfl := Option.some.inj stepped
    exact sound.revokes (map_revokes _ _ _)
  | commit request tokenHash =>
    simp only [step] at stepped
    split at stepped
    · rename_i progress at_
      obtain ⟨written, wrote, rfl⟩ := Option.map_eq_some_iff.mp stepped
      have current : ∀ stored now, progress = .rotating stored now →
          ∃ token ∈ state.tokens, token.id = stored.id ∧ token.revokedAt = none := by
        rintro stored now rfl
        simp only [Unraced, unraced, at_] at allowed
        obtain ⟨token, found, free⟩ := (Option.any_eq_true _ _).mp allowed
        obtain ⟨there, named⟩ := Table.get_eq_some.mp found
        exact ⟨token, there, named, Option.isNone_iff_eq_none.mp free⟩
      have sound' := sound.write (sound.held request progress at_) current wrote
      exact sound'.track request fun _ none => absurd none (Option.not_mem_none _)
    · cases stepped
  | drop request =>
    obtain rfl := Option.some.inj stepped
    exact sound.track request fun _ none => absurd none (Option.not_mem_none _)
  | crash =>
    obtain rfl := Option.some.inj stepped
    exact ⟨fun _ _ none => absurd none (by simp), sound.alone, sound.spent, sound.once, sound.known,
      sound.burned⟩

/-- A sound state keeps what families promise. -/
theorem Sound.familiesHold (sound : Sound state) : FamiliesHold state where
  oneLive := by
    intro now first isFirst second isSecond same firstLive secondLive
    have opened : ∀ token : RefreshToken, token.isUsable now = true → token.revokedAt = none := by
      intro token live
      exact Option.isNone_iff_eq_none.mp (Bool.and_eq_true_iff.mp live).1
    exact sound.alone first isFirst second isSecond same (opened first firstLive)
      (opened second secondLive)
  exchangedOnce := sound.once
  burned := sound.burned

/-- However requests interleave, while no refresh commits on a token that was revoked since it was
read, a family has one live token, a token is exchanged once, and a replay burns its family. -/
theorem families_hold_of_unraced {ttl : Nat} (reached : (system ttl).Reachable Unraced state) :
    FamiliesHold state := by
  have sound : Sound state := by
    apply reached.invariant_alone
    constructor
    · rintro _ rfl
      have none : ∀ token, token ∉ (Table.empty : Table RefreshToken.id) := Table.not_mem_empty
      exact {
        held := fun _ _ listed => absurd listed (by simp)
        alone := fun first isFirst => absurd isFirst (none first)
        spent := fun _ _ listed => absurd listed List.not_mem_nil
        once := fun _ => Nat.zero_le 1
        known := fun _ listed => absurd listed List.not_mem_nil
        burned := fun _ listed => absurd listed List.not_mem_nil }
    · exact fun _ _ _ _ sound allowed stepped => step_sound sound allowed stepped
  exact sound.familiesHold

end Steps

/-- A session whose token was rotated once. -/
def rotatedSession : List Action :=
  [.login 1 "family" "a" 0, .refresh 1 "a" 10, .lookUpUser 1 true, .commit 1 "b"]

/-- A token that is replayed after its rotation burns the family. -/
theorem families_hold_replayed :
    ∃ state, .replayed "family" ∈ state.journal ∧ FamiliesHold state := by
  obtain ⟨state, reached, shown⟩ : ∃ state, (system 100).Reachable Unraced state ∧
      decide (.replayed "family" ∈ state.journal) = true := by
    refine System.exists_of_runFrom rfl (rotatedSession ++ [.refresh 2 "a" 20, .commit 2 ""]) _ ?_
    decide
  exact ⟨state, of_decide_eq_true shown, families_hold_of_unraced reached⟩

/-- Two refreshes that read one token before either of them commits both exchange it, and the
family has two live tokens. -/
theorem raced_refreshes_split_family :
    ¬ ∀ ttl state, (system ttl).Reachable System.unguarded state → FamiliesHold state := by
  intro always
  obtain ⟨state, reached, shown⟩ : ∃ state, (system 100).Reachable System.unguarded state ∧
      decide (2 ≤ state.journal.countP (Event.isExchangeOf 1)) = true := by
    refine System.exists_of_runFrom rfl [.login 1 "family" "a" 0, .refresh 1 "a" 10,
      .refresh 2 "a" 10, .lookUpUser 1 true, .lookUpUser 2 true, .commit 1 "b", .commit 2 "c"] _ ?_
    decide
  have once := (always 100 state reached).exchangedOnce 1
  have twice := of_decide_eq_true shown
  omega

end ProxSync.Auth
