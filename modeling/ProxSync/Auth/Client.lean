import ProxSync.Auth.Sessions
/-!
# The requests of a page

A page sends its requests with a short-lived token and repeats one that is refused after a refresh.
Requests that are refused while a refresh runs wait for it, so a page has at most one refresh under
way. A refresh exchanges the cookie of the page at the server and its answer brings the next one.
While nobody else touches the session, every answer of a refresh arrives and no token expires, the
cookie is always the one token of the session that can be exchanged, and the session is never taken
for a stolen one. A run starts right after a login; a page that is opened anew refreshes on its own
account, which is not part of it.
-/
open ProxSync.Lib

namespace ProxSync.Auth

/-! ## What the server keeps of a family -/

/-- What a step of the server leaves of the tokens: rows keep their names, and a new one has a name
of its own. -/
def Names (before after : Table RefreshToken.id) : Prop :=
  ∀ token ∈ after, (∃ old ∈ before, old.id = token.id ∧ old.tokenHash = token.tokenHash) ∨
    ∀ old ∈ before, old.tokenHash ≠ token.tokenHash

/-- A step of the server that is about other families. -/
structure Spares (family : String) (before after : State) : Prop where
  tokens : ∀ token : RefreshToken, token.familyId = family →
    (token ∈ after.tokens ↔ token ∈ before.tokens)
  names : Names before.tokens after.tokens
  journal : .replayed family ∈ after.journal → .replayed family ∈ before.journal

/-- What was read for the requests in flight is stored still, and replays are of known families. -/
structure Grounded (state : State) : Prop where
  held : ∀ number progress, state.requests number = some progress → Held state.tokens progress
  known : ∀ familyId, .replayed familyId ∈ state.journal →
    ∃ token ∈ state.tokens, token.familyId = familyId

section Server

variable {state after : State} {tokens : Table RefreshToken.id} {family : String}
  {progress : Request} {ttl : ℕ}

/-- Tokens that stay keep their names. -/
theorem names_refl (tokens : Table RefreshToken.id) : Names tokens tokens :=
  fun token stored => .inl ⟨token, stored, rfl, rfl⟩

/-- Revoking tokens of other families spares a family. -/
theorem spares_revokeWhere {test : RefreshToken → Bool} (now : Instant) (reason : String)
    (others : ∀ token ∈ tokens, test token = true → token.familyId ≠ family) :
    (∀ token : RefreshToken, token.familyId = family →
      (token ∈ tokens.map (revokeWhere test now reason) (revokeWhere_id _ _ _) ↔
        token ∈ tokens)) ∧
      Names tokens (tokens.map (revokeWhere test now reason) (revokeWhere_id _ _ _)) := by
  have spared : ∀ token ∈ tokens, token.familyId = family →
      revokeWhere test now reason token = token := by
    intro token stored own
    unfold revokeWhere
    rw [if_neg]
    intro selected
    exact others token stored (Bool.and_eq_true_iff.mp selected).1 own
  constructor
  · intro token own
    rw [Table.mem_map]
    constructor
    · rintro ⟨old, stored, rfl⟩
      have same := (revokeWhere_keeps now reason test old).1
      rw [spared old stored (same.symm.trans own)]
      exact stored
    · intro stored
      exact ⟨token, stored, spared token stored own⟩
  · intro token stored
    obtain ⟨old, before, rfl⟩ := (Table.mem_map _).mp stored
    refine .inl ⟨old, before, (revokeWhere_id _ _ _ _).symm, ?_⟩
    unfold revokeWhere
    split <;> rfl

/-- Revoking one token of another family spares a family. -/
theorem spares_revoke {tokenId : Nat} (now : Instant) (reason : String)
    (other : ∀ token ∈ tokens, token.id = tokenId → token.familyId ≠ family) :
    (∀ token : RefreshToken, token.familyId = family →
      (token ∈ tokens.modify tokenId (revoke now reason) (revoke_id _ _) ↔ token ∈ tokens)) ∧
      Names tokens (tokens.modify tokenId (revoke now reason) (revoke_id _ _)) := by
  constructor
  · intro token own
    rw [Table.mem_modify]
    constructor
    · rintro (⟨old, stored, named, rfl⟩ | ⟨stored, -⟩)
      · exact absurd own (other old stored named)
      · exact stored
    · intro stored
      exact .inr ⟨stored, fun named => other token stored named own⟩
  · intro token stored
    rcases (Table.mem_modify _).mp stored with ⟨old, before, -, rfl⟩ | ⟨before, -⟩
    · exact .inl ⟨old, before, rfl, rfl⟩
    · exact .inl ⟨token, before, rfl, rfl⟩

/-- Issuing a token of another family spares a family. -/
theorem spares_issue {userId : Nat} {tokenHash familyId : String} (expiresAt : Instant)
    (fresh : state.unusedHash tokenHash = true) (other : familyId ≠ family) :
    Spares family state (state.issue userId tokenHash familyId expiresAt) where
  tokens token own := by
    rw [mem_issue]
    constructor
    · rintro (stored | rfl)
      · exact stored
      · exact absurd own other
    · exact .inl
  names token stored := by
    rcases mem_issue.mp stored with before | rfl
    · exact .inl ⟨token, before, rfl, rfl⟩
    · refine .inr fun old before same => ?_
      have apart := List.all_eq_true.mp fresh old before
      simp [issued, same] at apart
  journal := id

/-- The token that a request read, if it is about a token. -/
theorem Held.other (held : Held tokens progress) {stored : RefreshToken}
    (read : stored ∈ progress.stored) (other : progress.familyId ≠ family) :
    ∀ token ∈ tokens, token.id = stored.id → token.familyId ≠ family := by
  obtain ⟨current, there, own, same⟩ := held
  intro token listed named
  have equal := Table.eq_of_key listed there (named.trans (same stored read).symm)
  rw [equal, own]
  exact other

/-- The writes of a request about another family spare a family. -/
theorem write_spares {tokenHash : String} (held : Held state.tokens progress)
    (other : progress.familyId ≠ family)
    (wrote : state.write ttl tokenHash progress = some after) : Spares family state after := by
  have burnt (now : Instant) (reason : String) :=
    @spares_revokeWhere state.tokens family (fun token => token.familyId == progress.familyId) now
      reason fun token _ selected => by
        rw [beq_iff_eq.mp selected]
        exact other
  cases progress with
  | refreshing stored now => cases wrote
  | rotating stored now =>
    simp only [State.write] at wrote
    split at wrote
    · rename_i fresh
      obtain rfl := Option.some.inj wrote
      have revoked := spares_revoke now "rotated" (held.other (Option.mem_some_self _) other)
      have unused : State.unusedHash { state with
          tokens := state.tokens.modify stored.id (revoke now "rotated") (revoke_id _ _) }
          tokenHash = true := by
        apply List.all_eq_true.mpr
        intro token listed
        rcases (Table.mem_modify (revoke_id _ _)).mp listed with ⟨old, before, -, rfl⟩ | ⟨before, -⟩
        · exact List.all_eq_true.mp fresh old before
        · exact List.all_eq_true.mp fresh token before
      have issued_ := @spares_issue _ family stored.userId tokenHash stored.familyId (now + ttl)
        unused other
      constructor
      · intro token own
        exact (issued_.tokens token own).trans (revoked.1 token own)
      · intro token listed
        rcases mem_issue.mp listed with before | rfl
        · exact revoked.2 token before
        · refine .inr fun old before same => ?_
          have apart := List.all_eq_true.mp fresh old before
          simp [issued, same] at apart
      · intro listed
        rcases List.mem_cons.mp listed with same | earlier
        · cases same
        · exact earlier
    · cases wrote
  | expiring stored now =>
    obtain rfl := Option.some.inj wrote
    have revoked := spares_revoke now "expired" (held.other (Option.mem_some_self _) other)
    exact ⟨revoked.1, revoked.2, id⟩
  | orphaned familyId now =>
    obtain rfl := Option.some.inj wrote
    exact ⟨(burnt now _).1, (burnt now _).2, id⟩
  | replaying familyId now =>
    obtain rfl := Option.some.inj wrote
    refine ⟨(burnt now _).1, (burnt now _).2, fun listed => ?_⟩
    rcases List.mem_cons.mp listed with same | earlier
    · exact absurd (Event.replayed.inj same).symm other
    · exact earlier
  | loggingOut familyId now =>
    obtain rfl := Option.some.inj wrote
    exact ⟨(burnt now _).1, (burnt now _).2, id⟩
  | revokingSession familyId now =>
    obtain rfl := Option.some.inj wrote
    exact ⟨(burnt now _).1, (burnt now _).2, id⟩

/-- A write leaves the requests in flight alone. -/
theorem write_requests {tokenHash : String}
    (wrote : state.write ttl tokenHash progress = some after) :
    after.requests = state.requests := by
  cases progress with
  | refreshing stored now => cases wrote
  | rotating stored now =>
    simp only [State.write] at wrote
    split at wrote
    · obtain rfl := Option.some.inj wrote
      rfl
    · cases wrote
  | expiring _ _ | orphaned _ _ | replaying _ _ | loggingOut _ _ | revokingSession _ _ =>
    obtain rfl := Option.some.inj wrote
    rfl

/-- A write of a request loses no token and revives none. -/
theorem write_ages {tokenHash : String} (wrote : state.write ttl tokenHash progress = some after) :
    Ages state.tokens after.tokens := by
  cases progress with
  | refreshing stored now => cases wrote
  | rotating stored now =>
    simp only [State.write] at wrote
    split at wrote
    · obtain rfl := Option.some.inj wrote
      intro old listed
      have revoked := (modify_revokes now "rotated" stored.id).ages old listed
      obtain ⟨token, there, named, family, kept⟩ := revoked
      exact ⟨token, mem_issue.mpr (.inl there), named, family, kept⟩
    · cases wrote
  | expiring stored now =>
    obtain rfl := Option.some.inj wrote
    exact (modify_revokes now "expired" stored.id).ages
  | orphaned _ now | replaying _ now | loggingOut _ now | revokingSession _ now =>
    obtain rfl := Option.some.inj wrote
    exact (map_revokes now _ _).ages

/-- A write notes the replay of the family of its request only. -/
theorem write_known {tokenHash familyId : String} (held : Held state.tokens progress)
    (wrote : state.write ttl tokenHash progress = some after)
    (listed : .replayed familyId ∈ after.journal) :
    .replayed familyId ∈ state.journal ∨ ∃ token ∈ state.tokens, token.familyId = familyId := by
  cases progress with
  | refreshing stored now => cases wrote
  | rotating stored now =>
    simp only [State.write] at wrote
    split at wrote
    · obtain rfl := Option.some.inj wrote
      rcases List.mem_cons.mp listed with same | earlier
      · cases same
      · exact .inl earlier
    · cases wrote
  | replaying other now =>
    obtain rfl := Option.some.inj wrote
    rcases List.mem_cons.mp listed with same | earlier
    · obtain ⟨token, stored, own, _⟩ := held
      exact .inr ⟨token, stored, own.trans (Event.replayed.inj same).symm⟩
    · exact .inl earlier
  | expiring stored now =>
    obtain rfl := Option.some.inj wrote
    exact .inl listed
  | orphaned other now | loggingOut other now | revokingSession other now =>
    obtain rfl := Option.some.inj wrote
    exact .inl listed

/-- The state stays grounded where tokens age and what is read or noted is grounded. -/
theorem Grounded.carry (grounded : Grounded state) (ages : Ages state.tokens after.tokens)
    (requests : ∀ number progress, after.requests number = some progress →
      state.requests number = some progress ∨ Held after.tokens progress)
    (journal : ∀ familyId, .replayed familyId ∈ after.journal →
      .replayed familyId ∈ state.journal ∨ ∃ token ∈ state.tokens, token.familyId = familyId) :
    Grounded after where
  held number progress listed := by
    rcases requests number progress listed with before | held
    · exact (grounded.held number progress before).ages ages
    · exact held
  known familyId listed := by
    have stored : ∃ token ∈ state.tokens, token.familyId = familyId := by
      rcases journal familyId listed with earlier | stored
      · exact grounded.known familyId earlier
      · exact stored
    obtain ⟨old, there, own⟩ := stored
    obtain ⟨token, stays, _, family, _⟩ := ages old there
    exact ⟨token, stays, family.trans own⟩

/-- Tokens that nobody touched aged. -/
theorem Ages.refl (tokens : Table RefreshToken.id) : Ages tokens tokens :=
  fun old stored => ⟨old, stored, rfl, rfl, id⟩

/-- Taking up a request about a stored token keeps the state grounded. -/
theorem Grounded.track (grounded : Grounded state) (number : Nat) {later : Option Request}
    (held : ∀ progress ∈ later, Held state.tokens progress) :
    Grounded (state.track number later) := by
  have ages : Ages state.tokens (state.track number later).tokens := Ages.refl _
  apply grounded.carry ages
  · intro other progress listed
    by_cases same : other = number
    · subst same
      exact .inr (held progress (by simpa [State.track] using listed))
    · exact .inl (by simpa [State.track, same] using listed)
  · exact fun _ listed => .inl listed

/-- Every step of the server keeps its state grounded. -/
theorem step_grounded {action : Action} (grounded : Grounded state)
    (stepped : step ttl state action = some after) : Grounded after := by
  cases action with
  | login userId familyId tokenHash now =>
    simp only [step] at stepped
    split at stepped
    · obtain rfl := Option.some.inj stepped
      apply grounded.carry
      · exact fun old stored => ⟨old, mem_issue.mpr (.inl stored), rfl, rfl, id⟩
      · exact fun _ _ listed => .inl listed
      · exact fun _ listed => .inl listed
    · cases stepped
  | refresh number tokenHash now =>
    simp only [step] at stepped
    split at stepped
    · rename_i stored free found
      obtain rfl := Option.some.inj stepped
      apply grounded.track
      intro progress listed
      exact Option.some.inj listed ▸ examine_held (getByHash_stored found) now
    · cases stepped
  | lookUpUser number available =>
    simp only [step] at stepped
    split at stepped
    · rename_i stored now read
      obtain ⟨token, there, family, same⟩ := grounded.held number _ read
      split at stepped
      · obtain rfl := Option.some.inj stepped
        apply grounded.track
        intro progress listed
        exact Option.some.inj listed ▸ ⟨token, there, family, same⟩
      · obtain rfl := Option.some.inj stepped
        apply grounded.track
        intro progress listed
        obtain rfl := Option.some.inj listed
        exact ⟨token, there, family, fun _ none => absurd none (Option.not_mem_none _)⟩
    · cases stepped
  | logout number tokenHash now =>
    simp only [step] at stepped
    split at stepped
    · rename_i stored free found
      obtain rfl := Option.some.inj stepped
      apply grounded.track
      intro progress listed
      obtain rfl := Option.some.inj listed
      exact ⟨stored, getByHash_stored found, rfl, fun _ none => absurd none (Option.not_mem_none _)⟩
    · cases stepped
  | revokeSession number userId sessionId now =>
    simp only [step] at stepped
    split at stepped
    · rename_i stored free found
      obtain rfl := Option.some.inj stepped
      apply grounded.track
      intro progress listed
      obtain rfl := Option.some.inj listed
      exact ⟨stored, List.mem_of_find?_eq_some found, rfl,
        fun _ none => absurd none (Option.not_mem_none _)⟩
    · cases stepped
  | changePassword userId now =>
    obtain rfl := Option.some.inj stepped
    apply grounded.carry
    · exact (map_revokes now _ _).ages
    · exact fun _ _ listed => .inl listed
    · exact fun _ listed => .inl listed
  | commit number tokenHash =>
    simp only [step] at stepped
    split at stepped
    · rename_i progress read
      obtain ⟨written, wrote, rfl⟩ := Option.map_eq_some_iff.mp stepped
      have held := grounded.held number progress read
      have kept : Grounded written := by
        apply grounded.carry (write_ages wrote)
        · intro other earlier listed
          rw [write_requests wrote] at listed
          exact .inl listed
        · exact fun _ listed => write_known held wrote listed
      exact kept.track number fun _ none => absurd none (Option.not_mem_none _)
    · cases stepped
  | drop number =>
    obtain rfl := Option.some.inj stepped
    exact grounded.track number fun _ none => absurd none (Option.not_mem_none _)
  | crash =>
    obtain rfl := Option.some.inj stepped
    exact ⟨fun _ _ none => absurd none (by simp), grounded.known⟩

/-- What a server reads and notes is grounded in every run. -/
theorem grounded_of_reachable (reached : (system ttl).Reachable System.unguarded state) :
    Grounded state := by
  apply reached.invariant_alone
  constructor
  · rintro _ rfl
    exact ⟨fun _ _ none => absurd none (by simp), fun _ none => absurd none List.not_mem_nil⟩
  · exact fun _ _ _ _ grounded _ stepped => step_grounded grounded stepped

end Server

/-! ## The page -/

/-- How far a refresh of a page is. -/
inductive Flight
  /-- Sent with the cookie, which no other answer changes before this one. -/
  | sent
  | served (request : Nat)
  /-- Answered with the digest of the next cookie, or refused. -/
  | answered (successor : Option String)
  deriving DecidableEq

/-- Where a request of a page is in its code. -/
inductive Phase
  | sent
  /-- Refused, and waiting for the refresh that is under way. -/
  | joined
  | resent
  | settled
  deriving DecidableEq

/-- A request of a page: whether it may be repeated, and how often it was sent. -/
structure Call where
  retries : Bool
  sends : Nat
  phase : Phase
  deriving DecidableEq

/-- A page beside the server; its cookie is known by its digest. -/
structure Page where
  server : State
  cookie : String
  refreshInFlight : Option Flight
  calls : List Call

/-- What may happen next to a page. -/
inductive Move
  | apiRequest (retries : Bool)
  | reply (index : Nat) (unauthorized : Bool)
  | arrive (request : Nat) (now : Instant)
  | lookUpUser (available : Bool)
  | commit (tokenHash : String)
  /-- A refresh fails at the server and is rolled back. -/
  | abort
  /-- The refresh or its answer is lost. -/
  | lose
  /-- An answer is taken up; its body can be read or not. -/
  | settle (read : Bool)
  /-- Anything else that happens at the server. -/
  | elsewhere (action : Action)

/-- What a request does after the refresh it waited for. -/
def Call.resume (refreshed : Bool) (call : Call) : Call :=
  if call.phase = .joined then
    if refreshed then { call with sends := call.sends + 1, phase := .resent }
    else { call with phase := .settled }
  else call

/-- The digest a commit answers a refresh with. -/
def successor (progress : Option Request) (tokenHash : String) : Option String :=
  match progress with
  | some (.rotating _ _) => some tokenHash
  | _ => none

namespace Page

/-- Put a request in another phase. -/
def put (page : Page) (index : Nat) (call : Call) (phase : Phase) : Page :=
  { page with calls := page.calls.set index { call with phase } }

/-- A refused request waits for the refresh under way, or for one it starts. -/
def refreshAccessToken (page : Page) : Page :=
  { page with refreshInFlight := page.refreshInFlight.or (some .sent) }

/-- The page after the server took a step. -/
def serve (page : Page) (ttl : Nat) (action : Action) (flight : Option Flight) : Option Page :=
  (Auth.step ttl page.server action).map fun server =>
    { page with server, refreshInFlight := flight }

/-- The effect of one move, or nothing where it cannot happen. -/
def step (ttl : Nat) (page : Page) : Move → Option Page
  | .apiRequest retries => some { page with calls := page.calls ++ [⟨retries, 1, .sent⟩] }
  | .reply index unauthorized =>
    match page.calls[index]? with
    | none => none
    | some call =>
      if call.phase = .sent then
        if unauthorized && call.retries then
          some (page.refreshAccessToken.put index call .joined)
        else some (page.put index call .settled)
      else if call.phase = .resent then some (page.put index call .settled)
      else none
  | .arrive request now =>
    if page.refreshInFlight = some .sent then
      page.serve ttl (.refresh request page.cookie now) (some (.served request))
    else none
  | .lookUpUser available =>
    match page.refreshInFlight with
    | some (.served request) =>
      page.serve ttl (.lookUpUser request available) page.refreshInFlight
    | _ => none
  | .commit tokenHash =>
    match page.refreshInFlight with
    | some (.served request) => page.serve ttl (.commit request tokenHash)
        (some (.answered (successor (page.server.requests request) tokenHash)))
    | _ => none
  | .abort =>
    match page.refreshInFlight with
    | some .sent => some { page with refreshInFlight := some (.answered none) }
    | some (.served request) => page.serve ttl (.drop request) (some (.answered none))
    | _ => none
  | .lose => page.refreshInFlight.map fun _ =>
      { page with refreshInFlight := some (.answered none) }
  | .settle read =>
    match page.refreshInFlight with
    | some (.answered answer) => some { page with
        cookie := answer.getD page.cookie
        refreshInFlight := none
        calls := page.calls.map (Call.resume (answer.isSome && read)) }
    | _ => none
  | .elsewhere action => page.serve ttl action page.refreshInFlight

/-- A page right after a login, at a server with any past. -/
def system (ttl : Nat) (family : String) : System Page Move where
  init page := ∃ before userId now, (Auth.system ttl).Reachable System.unguarded before ∧
    Auth.step ttl before (.login userId family page.cookie now) = some page.server ∧
    page.refreshInFlight = none ∧ page.calls = []
  step := step ttl

/-- The number the server knows the refresh by. -/
def number (page : Page) : Option Nat :=
  match page.refreshInFlight with
  | some (.served request) => some request
  | _ => none

/-- The digest of the cookie, or of the one that an answer brings. -/
def held (page : Page) : String :=
  match page.refreshInFlight with
  | some (.answered answer) => answer.getD page.cookie
  | _ => page.cookie

/-- Whether a refresh can be lost without the page losing a cookie. -/
def losable (page : Page) : Bool :=
  match page.refreshInFlight with
  | some (.served request) => (page.server.requests request).isNone
  | some (.answered answer) => answer.isNone
  | _ => true

end Page

/-- Whether a token that is found, if any, is of another family. -/
def foreign (family : String) (found : Option RefreshToken) : Bool :=
  found.all fun token => token.familyId != family

/-- Whether an action is about other families, and not about the request with a number. -/
def apart (family : String) (state : State) (number : Option Nat) : Action → Bool
  | .login _ _ _ _ | .crash => true
  | .refresh request tokenHash _ | .logout request tokenHash _ =>
    number != some request && foreign family (getByHash state.tokens tokenHash)
  | .revokeSession request userId sessionId now =>
    number != some request && foreign family (activeSession state.tokens userId sessionId now)
  | .changePassword userId _ =>
    state.tokens.rows.all fun token => token.familyId != family || token.userId != userId
  | .lookUpUser request _ | .commit request _ | .drop request => number != some request

/-- Whether a move leaves the session to its page, before any token expires and while the user is
there and no answer with a cookie is lost. -/
def quiet (family : String) (page : Page) : Move → Bool
  | .arrive _ now => (getByHash page.server.tokens page.cookie).all fun stored =>
      decide (now < stored.expiresAt)
  | .lookUpUser available => available
  | .lose => page.losable
  | .elsewhere action => apart family page.server page.number action
  | _ => true

/-- A move that leaves the session to its page. -/
def Quiet (family : String) (page : Page) (move : Move) : Prop := quiet family page move = true

instance (family : String) (page : Page) (move : Move) : Decidable (Quiet family page move) :=
  inferInstanceAs (Decidable (_ = true))

/-! ## The session and everybody else -/

/-- The one token of a family that can be exchanged. -/
structure Live (family tokenHash : String) (tokens : Table RefreshToken.id)
    (token : RefreshToken) : Prop where
  stored : token ∈ tokens
  own : token.familyId = family
  named : token.tokenHash = tokenHash
  free : token.revokedAt = none
  alone : ∀ other ∈ tokens, other.familyId = family → other.revokedAt = none → other = token
  unique : ∀ other ∈ tokens, other.tokenHash = tokenHash → other = token

section Session

variable {state after : State} {ttl : ℕ} {family tokenHash : String} {token : RefreshToken}
  {number : Option ℕ}

/-- The live token of a family stays the live one while other families are dealt with. -/
theorem Live.spares (live : Live family tokenHash state.tokens token)
    (spares : Spares family state after) : Live family tokenHash after.tokens token where
  stored := (spares.tokens token live.own).mpr live.stored
  own := live.own
  named := live.named
  free := live.free
  alone other there own free := live.alone other ((spares.tokens other own).mp there) own free
  unique other there same := by
    rcases spares.names other there with ⟨old, stored, named, kept⟩ | fresh
    · have one := live.unique old stored (kept.trans same)
      apply Table.eq_of_key there ((spares.tokens token live.own).mpr live.stored)
      rw [← named, one]
    · exact absurd (live.named.trans same.symm) (fresh token live.stored)

/-- The token that is found under the digest of the live one is the live one. -/
theorem Live.found (live : Live family tokenHash state.tokens token) {stored : RefreshToken}
    (found : getByHash state.tokens tokenHash = some stored) : stored = token := by
  have named := List.find?_some found
  exact live.unique stored (getByHash_stored found) (beq_iff_eq.mp named)

/-- The successor of the live token of a family is its live token. -/
theorem Live.rotate (live : Live family tokenHash state.tokens token) {next : String}
    (now : Instant) (fresh : state.unusedHash next = true) :
    ∃ token', Live family next (state.rotate ttl token next now).tokens token' := by
  have apart : ∀ old ∈ state.tokens, old.tokenHash ≠ next := by
    intro old stored
    simpa using List.all_eq_true.mp fresh old stored
  have back : ∀ other ∈ state.tokens.modify token.id (revoke now "rotated") (revoke_id _ _),
      ∃ old ∈ state.tokens, old.familyId = other.familyId ∧ old.tokenHash = other.tokenHash ∧
        (other.revokedAt = none → old = other ∧ old.id ≠ token.id) := by
    intro other listed
    rcases (Table.mem_modify (revoke_id _ _)).mp listed with ⟨old, stored, _, rfl⟩ | ⟨stored, kept⟩
    · exact ⟨old, stored, rfl, rfl, fun free => by cases free⟩
    · exact ⟨other, stored, rfl, rfl, fun _ => ⟨rfl, kept⟩⟩
  exact ⟨_, {
    stored := mem_issue.mpr (.inr rfl)
    own := live.own
    named := rfl
    free := rfl
    alone := by
      intro other listed own free
      rcases mem_issue.mp listed with revoked | same
      · obtain ⟨old, stored, family', _, opened⟩ := back other revoked
        obtain ⟨rfl, kept⟩ := opened free
        exact absurd (congrArg _ (live.alone old stored own free)) kept
      · exact same
    unique := by
      intro other listed same
      rcases mem_issue.mp listed with revoked | issued
      · obtain ⟨old, stored, _, hash, _⟩ := back other revoked
        exact absurd (hash.trans same) (apart old stored)
      · exact issued }⟩

/-- What is in flight at the server for others is about other families, and what is in flight for
the page was there before. -/
def Elsewhere (family : String) (number : Option Nat) (state after : State) : Prop :=
  ∀ request progress, after.requests request = some progress →
    (number ≠ some request → progress.familyId ≠ family) ∧
      (number = some request → state.requests request = some progress)

/-- Taking up or letting go of a request of others leaves the session alone. -/
theorem track_apart {request : Nat} {later : Option Request}
    (others : ∀ request progress, state.requests request = some progress →
      number ≠ some request → progress.familyId ≠ family)
    (other : number ≠ some request) (foreign : ∀ progress ∈ later, progress.familyId ≠ family) :
    Spares family state (state.track request later) ∧
      Elsewhere family number state (state.track request later) := by
  refine ⟨⟨fun _ _ => Iff.rfl, names_refl _, id⟩, ?_⟩
  intro named progress listed
  by_cases same : named = request
  · subst same
    have taken : progress ∈ later := by simpa [State.track] using listed
    exact ⟨fun _ => foreign progress taken, fun own => absurd own other⟩
  · have before : state.requests named = some progress := by
      simpa [State.track, same] using listed
    exact ⟨others named progress before, fun _ => before⟩

/-- What a refresh does next is about the family of the token it found. -/
theorem examine_familyId (stored : RefreshToken) (now : Instant) :
    (examine stored now).familyId = stored.familyId := by
  unfold examine
  split
  · rfl
  · split <;> rfl

/-- A foreign token that is found is of another family. -/
theorem foreign_some {stored : RefreshToken} {found : Option RefreshToken}
    (other : foreign family found = true) (some_ : found = some stored) :
    stored.familyId ≠ family := by
  rw [some_] at other
  simpa [foreign] using other

/-- A step about other families leaves the session alone. -/
theorem apart_spares {action : Action} (grounded : Grounded state)
    (others : ∀ request progress, state.requests request = some progress →
      number ≠ some request → progress.familyId ≠ family)
    (known : ∃ token ∈ state.tokens, token.familyId = family)
    (separate : apart family state number action = true)
    (stepped : step ttl state action = some after) :
    Spares family state after ∧ Elsewhere family number state after := by
  have stays : Elsewhere family number state state :=
    fun request progress listed => ⟨others request progress listed, fun _ => listed⟩
  cases action with
  | login userId familyId next now =>
    simp only [step] at stepped
    split at stepped
    · rename_i fresh
      obtain rfl := Option.some.inj stepped
      obtain ⟨unused, free⟩ := Bool.and_eq_true_iff.mp fresh
      have other : familyId ≠ family := by
        obtain ⟨token, stored, own⟩ := known
        exact fun same => not_unusedFamily unused stored (own.trans same.symm)
      exact ⟨spares_issue _ free other, stays⟩
    · cases stepped
  | refresh request presented now =>
    obtain ⟨other, away⟩ := Bool.and_eq_true_iff.mp separate
    simp only [step] at stepped
    split at stepped
    · rename_i stored _ found
      obtain rfl := Option.some.inj stepped
      apply track_apart others (bne_iff_ne.mp other)
      intro progress taken
      obtain rfl := Option.some.inj taken
      rw [examine_familyId]
      exact foreign_some away found
    · cases stepped
  | logout request presented now =>
    obtain ⟨other, away⟩ := Bool.and_eq_true_iff.mp separate
    simp only [step] at stepped
    split at stepped
    · rename_i stored _ found
      obtain rfl := Option.some.inj stepped
      apply track_apart others (bne_iff_ne.mp other)
      intro progress taken
      obtain rfl := Option.some.inj taken
      exact foreign_some away found
    · cases stepped
  | revokeSession request userId sessionId now =>
    obtain ⟨other, away⟩ := Bool.and_eq_true_iff.mp separate
    simp only [step] at stepped
    split at stepped
    · rename_i stored _ found
      obtain rfl := Option.some.inj stepped
      apply track_apart others (bne_iff_ne.mp other)
      intro progress taken
      obtain rfl := Option.some.inj taken
      exact foreign_some away found
    · cases stepped
  | lookUpUser request available =>
    have other := bne_iff_ne.mp separate
    simp only [step] at stepped
    split at stepped
    · rename_i stored now read
      have away := others request _ read other
      split at stepped
      · obtain rfl := Option.some.inj stepped
        apply track_apart others other
        intro progress taken
        obtain rfl := Option.some.inj taken
        exact away
      · obtain rfl := Option.some.inj stepped
        apply track_apart others other
        intro progress taken
        obtain rfl := Option.some.inj taken
        exact away
    · cases stepped
  | changePassword userId now =>
    obtain rfl := Option.some.inj stepped
    have spared := @spares_revokeWhere state.tokens family (fun token => token.userId == userId) now
      "password_changed" (by
        intro token stored selected own
        have away := List.all_eq_true.mp separate token stored
        simp only [own, beq_iff_eq.mp selected, bne_self_eq_false, Bool.or_self] at away
        exact Bool.false_ne_true away)
    exact ⟨⟨spared.1, spared.2, id⟩, stays⟩
  | commit request next =>
    have other := bne_iff_ne.mp separate
    simp only [step] at stepped
    split at stepped
    · rename_i progress read
      obtain ⟨written, wrote, rfl⟩ := Option.map_eq_some_iff.mp stepped
      have spared := write_spares (grounded.held request progress read)
        (others request progress read other) wrote
      have requests := write_requests wrote
      refine ⟨⟨spared.tokens, spared.names, spared.journal⟩, ?_⟩
      have gone := (@track_apart written family number request none
        (fun named earlier listed => others named earlier (requests ▸ listed)) other
        fun _ none => absurd none (Option.not_mem_none _)).2
      intro named earlier listed
      rw [← requests]
      exact gone named earlier listed
    · cases stepped
  | drop request =>
    obtain rfl := Option.some.inj stepped
    apply track_apart others (bne_iff_ne.mp separate)
    exact fun _ none => absurd none (Option.not_mem_none _)
  | crash =>
    obtain rfl := Option.some.inj stepped
    exact ⟨⟨fun _ _ => Iff.rfl, names_refl _, id⟩, fun _ _ none => absurd none (by simp)⟩

end Session

/-! ## What a page keeps -/

/-- Whether a request goes on to exchange a token. -/
def Rotates (token : RefreshToken) (progress : Request) : Prop :=
  ∃ now, progress = .refreshing token now ∨ progress = .rotating token now

/-- What a page keeps of its session while it is left alone with it. -/
structure Secure (family : String) (page : Page) : Prop where
  grounded : Grounded page.server
  live : ∃ token, Live family page.held page.server.tokens token ∧
    ∀ request progress, page.number = some request →
      page.server.requests request = some progress → Rotates token progress
  others : ∀ request progress, page.server.requests request = some progress →
    page.number ≠ some request → progress.familyId ≠ family
  unburned : .replayed family ∉ page.server.journal

/-- What every request of a page satisfies. -/
structure Call.Patient (call : Call) : Prop where
  sends : call.sends ≤ 2
  again : call.sends = 2 → call.retries = true
  first : call.phase = .sent → call.sends = 1
  joined : call.phase = .joined → call.sends = 1 ∧ call.retries = true

/-- What the requests of a page satisfy: those that wait, wait for a refresh under way. -/
structure Patient (page : Page) : Prop where
  calls : ∀ call ∈ page.calls, call.Patient
  waits : ∀ call ∈ page.calls, call.phase = .joined → page.refreshInFlight.isSome = true

section Moves

variable {page after : Page} {ttl : ℕ} {family : String}

/-- A step of the server for the page, taken apart. -/
theorem Page.serve_eq_some {action : Action} {flight : Option Flight}
    (served : page.serve ttl action flight = some after) :
    ∃ server, Auth.step ttl page.server action = some server ∧
      after = { page with server, refreshInFlight := flight } := by
  obtain ⟨server, stepped, same⟩ := Option.map_eq_some_iff.mp served
  exact ⟨server, stepped, same.symm⟩

/-- The requests after one was put in another phase. -/
theorem Page.mem_put {index : ℕ} {call other : Call} {phase : Phase}
    (listed : other ∈ (page.put index call phase).calls) :
    other ∈ page.calls ∨ other = { call with phase } :=
  List.mem_or_eq_of_mem_set listed

/-- A request that goes on after the refresh it waited for is as patient as before. -/
theorem Call.Patient.resume {call : Call} (patient : call.Patient) (refreshed : Bool) :
    (call.resume refreshed).Patient ∧ (call.resume refreshed).phase ≠ .joined := by
  unfold Call.resume
  split
  · rename_i joined
    obtain ⟨once, retries⟩ := patient.joined joined
    split
    · exact ⟨⟨by simp [once], fun _ => retries, by simp, by simp⟩, by simp⟩
    · exact ⟨⟨patient.sends, patient.again, by simp, by simp⟩, by simp⟩
  · rename_i apart
    exact ⟨patient, apart⟩

/-- A page whose requests stay, and whose refresh goes on, keeps its requests patient. -/
theorem Patient.carry (patient : Patient page) (calls : after.calls = page.calls)
    (waits : page.refreshInFlight.isSome = true → after.refreshInFlight.isSome = true) :
    Patient after where
  calls := calls ▸ patient.calls
  waits call listed joined := waits (patient.waits call (calls ▸ listed) joined)

/-- A request that is put in a phase it may be in keeps the page patient. -/
theorem Patient.put (patient : Patient page) {index : ℕ} {call : Call} {phase : Phase}
    (moved : Call.Patient { call with phase })
    (waits : phase = .joined → page.refreshInFlight.isSome = true) :
    Patient (page.put index call phase) where
  calls other listed := by
    rcases Page.mem_put listed with before | rfl
    · exact patient.calls other before
    · exact moved
  waits other listed joined := by
    rcases Page.mem_put listed with before | rfl
    · exact patient.waits other before joined
    · exact waits joined

/-- Every move keeps the requests of a page patient. -/
theorem move_patient {move : Move} (patient : Patient page)
    (moved : page.step ttl move = some after) : Patient after := by
  cases move with
  | apiRequest retries =>
    obtain rfl := Option.some.inj moved
    constructor
    · intro call listed
      rcases List.mem_append.mp listed with before | new
      · exact patient.calls call before
      · obtain rfl := List.mem_singleton.mp new
        exact ⟨by simp, by simp, fun _ => rfl, by simp⟩
    · intro call listed joined
      rcases List.mem_append.mp listed with before | new
      · exact patient.waits call before joined
      · obtain rfl := List.mem_singleton.mp new
        cases joined
  | reply index unauthorized =>
    simp only [Page.step] at moved
    split at moved
    · cases moved
    · rename_i call there
      have fine := patient.calls call (List.mem_of_getElem? there)
      have settled : Call.Patient { call with phase := .settled } :=
        ⟨fine.sends, fine.again, by simp, by simp⟩
      split at moved
      · rename_i sent
        have once := fine.first sent
        split at moved
        · rename_i refused
          have retries := (Bool.and_eq_true_iff.mp refused).2
          obtain rfl := Option.some.inj moved
          have started : Patient page.refreshAccessToken :=
            ⟨patient.calls, fun _ _ _ => by simp [Page.refreshAccessToken]⟩
          apply started.put
          · exact ⟨fine.sends, fine.again, by simp, fun _ => ⟨once, retries⟩⟩
          · intro _
            simp [Page.refreshAccessToken]
        · obtain rfl := Option.some.inj moved
          exact patient.put settled (by simp)
      · split at moved
        · obtain rfl := Option.some.inj moved
          exact patient.put settled (by simp)
        · cases moved
  | arrive request now =>
    simp only [Page.step] at moved
    split at moved
    · obtain ⟨server, _, rfl⟩ := Page.serve_eq_some moved
      exact patient.carry rfl fun _ => rfl
    · cases moved
  | lookUpUser available =>
    simp only [Page.step] at moved
    split at moved
    · obtain ⟨server, _, rfl⟩ := Page.serve_eq_some moved
      exact patient.carry rfl id
    · cases moved
  | commit tokenHash =>
    simp only [Page.step] at moved
    split at moved
    · obtain ⟨server, _, rfl⟩ := Page.serve_eq_some moved
      exact patient.carry rfl fun _ => rfl
    · cases moved
  | abort =>
    simp only [Page.step] at moved
    split at moved
    · obtain rfl := Option.some.inj moved
      exact patient.carry rfl fun _ => rfl
    · obtain ⟨server, _, rfl⟩ := Page.serve_eq_some moved
      exact patient.carry rfl fun _ => rfl
    · cases moved
  | lose =>
    obtain ⟨flight, _, rfl⟩ := Option.map_eq_some_iff.mp moved
    exact patient.carry rfl fun _ => rfl
  | settle read =>
    simp only [Page.step] at moved
    split at moved
    · obtain rfl := Option.some.inj moved
      constructor
      · intro call listed
        obtain ⟨old, before, rfl⟩ := List.mem_map.mp listed
        exact ((patient.calls old before).resume _).1
      · intro call listed joined
        obtain ⟨old, before, rfl⟩ := List.mem_map.mp listed
        exact absurd joined ((patient.calls old before).resume _).2
    · cases moved
  | elsewhere action =>
    obtain ⟨server, _, rfl⟩ := Page.serve_eq_some moved
    exact patient.carry rfl id

/-- In every run, each request of a page is sent at most twice, and none waits for nothing. -/
theorem patient_of_reachable (reached : (Page.system ttl family).Reachable System.unguarded page) :
    Patient page := by
  apply reached.invariant_alone
  constructor
  · rintro start ⟨_, _, _, _, _, _, calls⟩
    exact ⟨fun _ listed => by simp [calls] at listed, fun _ listed => by simp [calls] at listed⟩
  · exact fun _ _ _ _ patient _ moved => move_patient patient moved

/-- A move that leaves the server and the cookie alone keeps the session secure. -/
theorem Secure.carry (secure : Secure family page) (server : after.server = page.server)
    (held : after.held = page.held)
    (number : ∀ request progress, page.server.requests request = some progress →
      (after.number = some request ↔ page.number = some request)) : Secure family after where
  grounded := server ▸ secure.grounded
  live := by
    obtain ⟨token, live, rotates⟩ := secure.live
    refine ⟨token, server ▸ held ▸ live, fun request progress named listed => ?_⟩
    rw [server] at listed
    exact rotates request progress ((number request progress listed).mp named) listed
  others request progress listed other := by
    rw [server] at listed
    apply secure.others request progress listed
    exact fun named => other ((number request progress listed).mpr named)
  unburned := server ▸ secure.unburned

/-- A step of the server that leaves the session alone keeps it secure. -/
theorem Secure.spared (secure : Secure family page) {server : State}
    (grounded : Grounded server) (spares : Spares family page.server server)
    (elsewhere : Elsewhere family page.number page.server server) :
    Secure family { page with server } where
  grounded := grounded
  live := by
    obtain ⟨token, live, rotates⟩ := secure.live
    refine ⟨token, live.spares spares, fun request progress named listed => ?_⟩
    exact rotates request progress named ((elsewhere request progress listed).2 named)
  others request progress listed other := (elsewhere request progress listed).1 other
  unburned listed := secure.unburned (spares.journal listed)

/-- The page after the server took up or let go of its refresh keeps the session secure. -/
theorem Secure.track (secure : Secure family page) {request : ℕ} {later : Option Request}
    {flight : Option Flight} {after : Page}
    (shape : after = ⟨page.server.track request later, page.cookie, flight, page.calls⟩)
    (grounded : Grounded (page.server.track request later)) (held : after.held = page.held)
    (before : ∀ named, page.number = some named → named = request)
    (only : ∀ named, after.number = some named → named = request)
    (kept : ∀ progress ∈ later, after.number = some request)
    (rotates : ∀ token, Live family page.held page.server.tokens token →
      ∀ progress ∈ later, Rotates token progress) : Secure family after := by
  have taken : after.server.requests request = later := by simp [shape, State.track]
  have other_ : ∀ named, named ≠ request →
      after.server.requests named = page.server.requests named := by
    intro named apart
    simp [shape, State.track, apart]
  have tokens : after.server.tokens = page.server.tokens := by rw [shape]; rfl
  constructor
  · rw [shape]
    exact grounded
  · obtain ⟨token, live, -⟩ := secure.live
    refine ⟨token, held ▸ tokens ▸ live, fun named progress own listed => ?_⟩
    obtain rfl := only named own
    exact rotates token live progress (taken.symm.trans listed)
  · intro named progress listed other
    by_cases same : named = request
    · subst same
      exact absurd (kept progress (taken.symm.trans listed)) other
    · rw [other_ named same] at listed
      exact secure.others named progress listed fun own => same (before named own)
  · rw [shape]
    exact secure.unburned

/-- A refresh that arrives before its token expires keeps the session secure. -/
theorem arrive_secure {request : ℕ} {now : Instant} (secure : Secure family page)
    (sent : page.refreshInFlight = some .sent)
    (fresh : ∀ stored, getByHash page.server.tokens page.cookie = some stored →
      now < stored.expiresAt)
    (served : page.serve ttl (.refresh request page.cookie now) (some (.served request)) =
      some after) : Secure family after := by
  obtain ⟨server, stepped, shape⟩ := Page.serve_eq_some served
  have grounded := step_grounded secure.grounded stepped
  have cookie : page.held = page.cookie := by simp [Page.held, sent]
  have number : page.number = none := by simp [Page.number, sent]
  simp only [Auth.step] at stepped
  split at stepped
  · rename_i stored _ found
    obtain rfl := Option.some.inj stepped
    apply secure.track shape grounded
    · simp [shape, Page.held, sent]
    · simp [number]
    · simp [shape, Page.number]
    · simp [shape, Page.number]
    · intro token live progress taken
      rw [cookie] at live
      obtain rfl := live.found found
      have unexpired := fresh stored found
      have examined : examine stored now = .refreshing stored now := by
        simp [examine, live.free, unexpired]
      exact ⟨now, .inl ((Option.some.inj taken).symm.trans examined)⟩
  · cases stepped

/-- A refresh whose user is there keeps the session secure. -/
theorem lookUpUser_secure {request : ℕ} (secure : Secure family page)
    (served : page.refreshInFlight = some (.served request))
    (looked : page.serve ttl (.lookUpUser request true) page.refreshInFlight = some after) :
    Secure family after := by
  obtain ⟨server, stepped, shape⟩ := Page.serve_eq_some looked
  have grounded := step_grounded secure.grounded stepped
  have number : page.number = some request := by simp [Page.number, served]
  simp only [Auth.step] at stepped
  split at stepped
  · rename_i stored now read
    rw [if_pos trivial] at stepped
    obtain rfl := Option.some.inj stepped
    apply secure.track shape grounded
    · simp [shape, Page.held]
    · simp [number]
    · simp [shape, Page.number, served]
    · simp [shape, Page.number, served]
    · intro token live progress taken
      obtain ⟨token', live', rotates⟩ := secure.live
      have own : stored = token' := by
        obtain ⟨at_, same | same⟩ := rotates request _ number read
        · exact (Request.refreshing.inj same).1
        · cases same
      have one : token = token' := live'.alone token live.stored live.own live.free
      exact ⟨now, .inr ((Option.some.inj taken).symm.trans (by rw [own, one]))⟩
  · cases stepped

/-- A refresh that is rolled back keeps the session secure. -/
theorem abort_secure {request : ℕ} (secure : Secure family page)
    (served : page.refreshInFlight = some (.served request))
    (aborted : page.serve ttl (.drop request) (some (.answered none)) = some after) :
    Secure family after := by
  obtain ⟨server, stepped, shape⟩ := Page.serve_eq_some aborted
  have grounded := step_grounded secure.grounded stepped
  obtain rfl := Option.some.inj stepped
  apply secure.track shape grounded
  · simp [shape, Page.held, served]
  · simp [Page.number, served]
  · simp [shape, Page.number]
  · exact fun _ none => absurd none (Option.not_mem_none _)
  · exact fun _ _ _ none => absurd none (Option.not_mem_none _)

/-- A refresh that commits answers with the next live token. -/
theorem commit_secure {request : ℕ} {tokenHash : String} (secure : Secure family page)
    (served : page.refreshInFlight = some (.served request))
    (committed : page.serve ttl (.commit request tokenHash)
      (some (.answered (successor (page.server.requests request) tokenHash))) = some after) :
    Secure family after := by
  obtain ⟨server, stepped, shape⟩ := Page.serve_eq_some committed
  have grounded := step_grounded secure.grounded stepped
  have number : page.number = some request := by simp [Page.number, served]
  have cookie : page.held = page.cookie := by simp [Page.held, served]
  simp only [Auth.step] at stepped
  split at stepped
  · rename_i progress read
    obtain ⟨written, wrote, rfl⟩ := Option.map_eq_some_iff.mp stepped
    obtain ⟨token, live, rotates⟩ := secure.live
    obtain ⟨now, rfl | rfl⟩ := rotates request progress number read
    · cases wrote
    · have requests := write_requests wrote
      simp only [State.write] at wrote
      split at wrote
      · rename_i unused
        obtain rfl := Option.some.inj wrote
        obtain ⟨next, live'⟩ := @Live.rotate _ ttl _ _ _ live tokenHash now unused
        have held : after.held = tokenHash := by simp [shape, Page.held, successor, read]
        have gone : after.number = none := by simp [shape, Page.number]
        constructor
        · rw [shape]
          exact grounded
        · rw [held, shape]
          exact ⟨next, live', fun _ _ named => by rw [← shape, gone] at named; cases named⟩
        · intro named progress listed _
          by_cases same : named = request
          · simp [shape, State.track, same] at listed
          · have before : page.server.requests named = some progress := by
              rw [← requests]
              simpa [shape, State.track, same] using listed
            apply secure.others named progress before
            rw [number]
            exact fun own => same (Option.some.inj own).symm
        · intro listed
          rw [shape] at listed
          rcases List.mem_cons.mp listed with exchanged | earlier
          · cases exchanged
          · exact secure.unburned earlier
      · cases wrote
  · cases stepped

/-- Every quiet move keeps the session of a page secure. -/
theorem move_secure {move : Move} (secure : Secure family page) (allowed : Quiet family page move)
    (moved : page.step ttl move = some after) : Secure family after := by
  cases move with
  | apiRequest retries =>
    obtain rfl := Option.some.inj moved
    exact secure.carry rfl rfl fun _ _ _ => Iff.rfl
  | reply index unauthorized =>
    have started : Secure family page.refreshAccessToken := by
      apply secure.carry
      · rfl
      · cases flight : page.refreshInFlight <;> simp [Page.held, Page.refreshAccessToken, flight]
      · cases flight : page.refreshInFlight <;>
          simp [Page.number, Page.refreshAccessToken, flight]
    have put (page : Page) (secure : Secure family page) (call : Call) (phase : Phase) :
        Secure family (page.put index call phase) := secure.carry rfl rfl fun _ _ _ => Iff.rfl
    simp only [Page.step] at moved
    split at moved
    · cases moved
    · split at moved
      · split at moved
        · obtain rfl := Option.some.inj moved
          exact put _ started _ _
        · obtain rfl := Option.some.inj moved
          exact put _ secure _ _
      · split at moved
        · obtain rfl := Option.some.inj moved
          exact put _ secure _ _
        · cases moved
  | arrive request now =>
    simp only [Page.step] at moved
    split at moved
    · rename_i sent
      apply arrive_secure secure sent _ moved
      intro stored found
      simpa [Quiet, quiet, found] using allowed
    · cases moved
  | lookUpUser available =>
    obtain rfl : available = true := allowed
    simp only [Page.step] at moved
    split at moved
    · rename_i request served
      exact lookUpUser_secure secure served moved
    · cases moved
  | commit tokenHash =>
    simp only [Page.step] at moved
    split at moved
    · rename_i request served
      exact commit_secure secure served moved
    · cases moved
  | abort =>
    simp only [Page.step] at moved
    split at moved
    · rename_i sent
      obtain rfl := Option.some.inj moved
      apply secure.carry
      · rfl
      · simp [Page.held, sent]
      · simp [Page.number, sent]
    · rename_i request served
      exact abort_secure secure served moved
    · cases moved
  | lose =>
    obtain ⟨flight, running, rfl⟩ := Option.map_eq_some_iff.mp moved
    have losable : page.losable = true := allowed
    cases flight with
    | sent =>
      apply secure.carry
      · rfl
      · simp [Page.held, running]
      · simp [Page.number, running]
    | served request =>
      have gone : page.server.requests request = none := by
        simpa [Page.losable, running] using losable
      apply secure.carry
      · rfl
      · simp [Page.held, running]
      · intro named progress listed
        have apart : request ≠ named := by
          intro same
          rw [← same, gone] at listed
          cases listed
        simp [Page.number, running, apart]
    | answered answer =>
      have refused : answer = none := by simpa [Page.losable, running] using losable
      apply secure.carry
      · rfl
      · simp [Page.held, running, refused]
      · simp [Page.number, running]
  | settle read =>
    simp only [Page.step] at moved
    split at moved
    · rename_i answer running
      obtain rfl := Option.some.inj moved
      apply secure.carry
      · rfl
      · simp [Page.held, running]
      · simp [Page.number, running]
    · cases moved
  | elsewhere action =>
    obtain ⟨server, stepped, rfl⟩ := Page.serve_eq_some moved
    obtain ⟨token, live, _⟩ := secure.live
    have left := apart_spares secure.grounded secure.others ⟨token, live.stored, live.own⟩ allowed
      stepped
    exact secure.spared (step_grounded secure.grounded stepped) left.1 left.2

/-- A login leaves its page with a secure session. -/
theorem secure_of_login {before : State} {userId : ℕ} {now : Instant}
    (reached : (Auth.system ttl).Reachable System.unguarded before)
    (loggedIn : Auth.step ttl before (.login userId family page.cookie now) = some page.server)
    (idle : page.refreshInFlight = none) : Secure family page := by
  have grounded := grounded_of_reachable reached
  have after := step_grounded grounded loggedIn
  have held : page.held = page.cookie := by simp [Page.held, idle]
  have number : page.number = none := by simp [Page.number, idle]
  simp only [Auth.step] at loggedIn
  split at loggedIn
  · rename_i fresh
    have server := (Option.some.inj loggedIn).symm
    obtain ⟨unused, free⟩ := Bool.and_eq_true_iff.mp fresh
    have strangers : ∀ token ∈ before.tokens, token.familyId ≠ family :=
      fun _ stored => not_unusedFamily unused stored
    constructor
    · exact after
    · rw [held, server]
      refine ⟨_, ⟨mem_issue.mpr (.inr rfl), rfl, rfl, rfl, ?_, ?_⟩, by simp [number]⟩
      · intro other listed own _
        rcases mem_issue.mp listed with old | same
        · exact absurd own (strangers other old)
        · exact same
      · intro other listed same
        rcases mem_issue.mp listed with old | issued
        · have apart := List.all_eq_true.mp free other old
          simp [same] at apart
        · exact issued
    · intro request progress listed _
      rw [server] at listed
      obtain ⟨token, stored, own, _⟩ := grounded.held request progress listed
      exact own ▸ strangers token stored
    · intro listed
      rw [server] at listed
      obtain ⟨token, stored, own⟩ := grounded.known family listed
      exact strangers token stored own
  · cases loggedIn

/-- While a page is left alone with its session, the session is secure. -/
theorem secure_of_reachable (reached : (Page.system ttl family).Reachable (Quiet family) page) :
    Secure family page := by
  apply reached.invariant_alone
  constructor
  · rintro start ⟨_, _, _, before, loggedIn, idle, _⟩
    exact secure_of_login before loggedIn idle
  · exact fun _ _ _ _ secure allowed moved => move_secure secure allowed moved

/-- What a page can rely on. -/
structure Page.Relies (family : String) (page : Page) : Prop where
  /-- The session was never taken for a stolen one. -/
  unburned : .replayed family ∉ page.server.journal
  /-- The cookie, or the one an answer brings, is of the one token that can be exchanged. -/
  cookie : ∃ token ∈ page.server.tokens, token.familyId = family ∧
    token.tokenHash = page.held ∧ token.revokedAt = none ∧
    ∀ other ∈ page.server.tokens, other.familyId = family → other.revokedAt = none → other = token
  /-- A refresh that is under way at the server is about that token. -/
  refreshing : ∀ request progress, page.number = some request →
    page.server.requests request = some progress → ∃ token ∈ page.server.tokens,
      token.tokenHash = page.cookie ∧ token.revokedAt = none ∧ Rotates token progress
  /-- A request is sent at most twice, and again only if it may be. -/
  sends : ∀ call ∈ page.calls, call.sends ≤ 2 ∧ (call.sends = 2 → call.retries = true)
  /-- A request waits only while a refresh is under way. -/
  waits : ∀ call ∈ page.calls, call.phase = .joined → page.refreshInFlight.isSome = true

/-- However many requests of a page are refused at once, and whatever happens at the server to other
sessions, a page that is left alone with its session never trips the detection of stolen ones. -/
theorem relies_of_quiet (reached : (Page.system ttl family).Reachable (Quiet family) page) :
    page.Relies family := by
  have secure := secure_of_reachable reached
  have patient := patient_of_reachable (reached.mono fun _ _ _ => trivial)
  obtain ⟨token, live, rotates⟩ := secure.live
  constructor
  · exact secure.unburned
  · exact ⟨token, live.stored, live.own, live.named, live.free, live.alone⟩
  · intro request progress named listed
    have served : page.held = page.cookie := by
      unfold Page.number at named
      split at named
      · rename_i flight
        simp [Page.held, flight]
      · cases named
    exact ⟨token, live.stored, live.named.trans served, live.free,
      rotates request progress named listed⟩
  · intro call listed
    have kept := patient.calls call listed
    exact ⟨kept.sends, kept.again⟩
  · exact patient.waits

end Moves

/-- A burst of refused requests, a refresh that the server drops in a crash, and one that answers
while another session is replayed. -/
def burst : List Move :=
  [.apiRequest true, .apiRequest true, .apiRequest false, .reply 0 true, .reply 1 true,
    .reply 2 true, .arrive 1 10, .elsewhere .crash, .lose, .settle true,
    .elsewhere (.login 2 "other" "x" 10), .elsewhere (.logout 7 "x" 11),
    .elsewhere (.commit 7 ""), .elsewhere (.refresh 8 "x" 12), .apiRequest true, .apiRequest true,
    .reply 3 true, .reply 4 true, .arrive 2 20, .lookUpUser true, .elsewhere (.commit 8 ""),
    .commit "b", .settle true]

/-- After the burst the page has a new cookie, and both requests were repeated. -/
theorem relies_of_quiet_burst :
    ∃ page : Page, page.Relies "family" ∧ .replayed "other" ∈ page.server.journal ∧
      page.cookie = "b" ∧ page.calls.map Call.sends = [1, 1, 1, 2, 2] := by
  have start : (Page.system 100 "family").init ⟨State.issue ⟨.empty, fun _ => none, []⟩ 1 "a"
      "family" 100, "a", none, []⟩ :=
    ⟨_, 1, 0, .start rfl, rfl, rfl, rfl⟩
  obtain ⟨page, reached, shown⟩ : ∃ page,
      (Page.system 100 "family").Reachable (Quiet "family") page ∧
      (decide (.replayed "other" ∈ page.server.journal) && decide (page.cookie = "b") &&
        decide (page.calls.map Call.sends = [1, 1, 1, 2, 2])) = true :=
    System.exists_of_runFrom start burst _ (by decide)
  simp only [Bool.and_eq_true, decide_eq_true_eq] at shown
  exact ⟨page, relies_of_quiet reached, shown.1.1, shown.1.2, shown.2⟩

end ProxSync.Auth
