import ProxSync.Agent.Freshness
import ProxSync.Clients.Signed
/-!
# Calls, messages and what the agent carries out

The calls of a dashboard, the messages they sign and one agent process, with a network in between
that loses, delays and repeats messages and hands the agent any other request as well. The calls
are to routes that ask for a signature, and the clock of the agent does not go back. A call that
reads is tried again after a transport error, with a message of its own; any other call sends one
message. Each message that comes in time is accepted exactly once, at the first time it comes, and
so a call that is not a read is carried out at most once whatever the network does.
-/
open ProxSync.Lib
open ProxSync.Agent (Request RequestAuthenticator Fault NonceCache Verifying Served verifier)

namespace ProxSync.Clients

/-- What has become of a call. -/
inductive Standing
  /-- The answer to an attempt is awaited. -/
  | awaiting (attempt : Nat) (message : Message)
  /-- The agent has answered a message. -/
  | answered (message : Message) (verdict : Except Fault Unit)
  | unavailable

/-- A call that was made. -/
structure Record where
  call : Call
  standing : Standing

/-- The calls in the order they were made, the messages that were signed, and the agent. -/
structure Exchange where
  calls : List Record
  sent : List Message
  agent : Verifying

namespace Exchange

/-- Send a message for an attempt of a call. -/
def send (state : Exchange) (index : Nat) (call : Call) (attempt : Nat) (stamp : Stamp) :
    Exchange :=
  let message : Message := ⟨index, call, stamp⟩
  { state with
    calls := state.calls.set index ⟨call, .awaiting attempt message⟩
    sent := message :: state.sent }

/-- A call ends. -/
def conclude (state : Exchange) (index : Nat) (call : Call) (standing : Standing) : Exchange :=
  { state with calls := state.calls.set index ⟨call, standing⟩ }

end Exchange

/-- What happens between a dashboard and an agent. -/
inductive Event
  /-- A call is made and signs its first attempt. -/
  | request (call : Call) (stamp : Stamp)
  /-- A call gets a transport error, and signs its next attempt where it has one. -/
  | transportError (index : Nat) (stamp : Stamp)
  /-- Something reaches the agent. -/
  | arrive (request : Request)
  /-- The answer to a request that was served reaches the call. -/
  | respond (index position : Nat)

/-- The effect of an event. -/
def exchangeStep (link : Link) (state : Exchange) : Event → Option Exchange
  | .request call stamp =>
    let made := { state with calls := state.calls ++ [⟨call, .unavailable⟩] }
    if 0 < attempts link.config call.retryable then
      some (made.send state.calls.length call 0 stamp)
    else some made
  | .transportError index stamp =>
    match state.calls[index]? with
    | some ⟨call, .awaiting attempt _⟩ =>
      if attempt + 1 < attempts link.config call.retryable then
        some (state.send index call (attempt + 1) stamp)
      else some (state.conclude index call .unavailable)
    | _ => none
  | .arrive request =>
    -- Health is told to anyone, whatever is signed.
    if request.urlPath = healthPath then some state
    else
      ((verifier link.digests link.auth link.nonceCacheSize).step state.agent request).map
        fun agent => { state with agent }
  | .respond index position =>
    match state.calls[index]?, state.agent.served[position]? with
    | some ⟨call, .awaiting _ message⟩, some item =>
      if Carries link message item.request then
        some (state.conclude index call (.answered message item.outcome))
      else none
    | _, _ => none

/-- A dashboard and an agent, from the start of the two on. -/
def exchange (link : Link) : System Exchange Event where
  init state := ∃ clock, state = ⟨[], [], .empty (link.auth.windowSeconds * 2) link.nonceCacheSize,
    clock, []⟩
  step := exchangeStep link

/-- A new token is none that was drawn before. -/
def unused (state : Exchange) (stamp : Stamp) : Bool :=
  state.sent.all fun message => message.stamp.nonce != stamp.nonce

/-- Tokens are new, nobody but the client has the secret, and the agent has room for the nonces of
the last two windows. -/
def sealed (link : Link) (state : Exchange) : Event → Bool
  | .request _ stamp => unused state stamp
  | .transportError _ stamp => unused state stamp
  | .arrive request =>
    request.urlPath == healthPath ||
    -- A signature under the secret is one the client has made, and no two digests collide.
    (request.signature != link.auth.expected link.digests request ||
      state.sent.any fun message =>
        message.text link == requestText link request && message.call.body == request.body) &&
    (!link.auth.reachesClaim link.digests state.agent.cache request ||
      (state.agent.cache.purge request.now).size < state.agent.cache.maxSize)
  | .respond _ _ => true

/-- The guard of the events. -/
def Sealed (link : Link) (state : Exchange) (event : Event) : Prop :=
  sealed link state event = true

instance (link : Link) (state : Exchange) (event : Event) : Decidable (Sealed link state event) :=
  inferInstanceAs (Decidable (_ = true))

/-! ## What is counted -/

/-- Whether a served request carries a message and came in time. -/
def inTime (link : Link) (message : Message) (item : Served) : Bool :=
  decide (Carries link message item.request) && decide (Near link message item.request)

/-- Whether a served request carries a message and was accepted. -/
def executes (link : Link) (message : Message) (item : Served) : Bool :=
  item.outcome.toBool && decide (Carries link message item.request)

/-- How often the agent has accepted a message. -/
def executions (link : Link) (served : List Served) (message : Message) : Nat :=
  served.countP (executes link message)

/-- How often the agent has carried out a call. -/
def carriedOut (link : Link) (state : Exchange) (index : Nat) : Nat :=
  state.agent.served.countP fun item =>
    state.sent.any fun message => message.owner == index && executes link message item

variable {link : Link} {state after : Exchange} {message : Message} {item : Served}
variable {request : Request} {stamp : Stamp} {index : Nat}

/-! ## Messages and the agent -/

/-- The text of a request was signed by the client, if it has a signature under the secret. -/
def Known (link : Link) (sent : List Message) (request : Request) : Prop :=
  request.signature = link.auth.expected link.digests request →
    ∃ message ∈ sent, message.text link = requestText link request ∧
      message.call.body = request.body

/-- What holds of the messages that were signed and the requests that were served. -/
structure Kept (link : Link) (sent : List Message) (agent : Verifying) : Prop where
  ttl : agent.cache.ttlSeconds = link.auth.windowSeconds * 2
  past : ∀ item ∈ agent.served, item.request.now ≤ agent.clock
  /-- No two messages share a nonce. -/
  fresh : (sent.map fun message => message.stamp.nonce).Nodup
  /-- What is signed under the secret is a message. -/
  signed : ∀ item ∈ agent.served, Known link sent item.request
  /-- What was accepted is a message that came in time. -/
  accepted : ∀ item ∈ agent.served, item.outcome = .ok () →
    ∃ message ∈ sent, Carries link message item.request ∧ Near link message item.request
  /-- A cached nonce is one of an accepted request. -/
  claimed : ∀ nonce, agent.cache.contains nonce = true →
    ∃ item ∈ agent.served, item.outcome = .ok () ∧ item.request.nonce = nonce
  /-- The nonces accepted within the last two windows are cached. -/
  cached : ∀ item ∈ agent.served, item.outcome = .ok () →
    agent.clock ≤ item.request.now + link.auth.windowSeconds * 2 →
    agent.cache.entries.lookup item.request.nonce = some item.request.now
  /-- Each message is accepted once if it came in time, and never otherwise. -/
  once : ∀ message ∈ sent, executions link agent.served message =
    if agent.served.any (inTime link message) then 1 else 0

variable {sent : List Message} {agent later : Verifying}

/-- A served request carries a message out exactly when it was accepted and carries it. -/
theorem executes_iff : executes link message item = true ↔
    item.outcome = .ok () ∧ Carries link message item.request := by
  unfold executes
  rw [Bool.and_eq_true, decide_eq_true_eq]
  cases item.outcome <;> simp [Except.toBool]

/-- A served request is in time exactly when it carries the message near its stamp. -/
theorem inTime_iff : inTime link message item = true ↔
    Carries link message item.request ∧ Near link message item.request := by
  unfold inTime
  rw [Bool.and_eq_true, decide_eq_true_eq, decide_eq_true_eq]

/-- A message is known by its nonce. -/
theorem Kept.eq_of_nonce (kept : Kept link sent agent) {first second : Message}
    (left : first ∈ sent) (right : second ∈ sent)
    (same : first.stamp.nonce = second.stamp.nonce) : first = second :=
  List.inj_on_of_nodup_map kept.fresh left right same

/-- What an accepted request carries, given that its text was signed by the client. -/
theorem carries_of_accepted {cache : NonceCache}
    (accepted : (link.auth.verify link.digests cache request).1 = .ok ())
    (same : message.text link = requestText link request)
    (body : message.call.body = request.body) :
    Carries link message request ∧ Near link message request := by
  have claims := RequestAuthenticator.reachesClaim_of_accepted accepted
  have passed := RequestAuthenticator.verify_ok accepted
  obtain ⟨value, read, within⟩ := passed.timed
  have key : request.keyId = link.auth.keyId := by
    unfold RequestAuthenticator.reachesClaim RequestAuthenticator.reachesSignature at claims
    simp only [Bool.and_eq_true, beq_iff_eq] at claims
    exact claims.1.1.1.1.2
  have carries := carries_of_text key read passed.signed same body
  rw [carries.float] at read
  obtain rfl := Option.some.inj read
  exact ⟨carries, not_lt.mp (of_decide_eq_false within)⟩

/-- A nonce that is left after a purge was there before. -/
theorem contains_of_purge {cache : NonceCache} {nonce : String} {now : ℚ}
    (left : (cache.purge now).contains nonce = true) : cache.contains nonce = true := by
  unfold NonceCache.contains at left ⊢
  obtain ⟨seenAt, found⟩ := Option.isSome_iff_exists.mp left
  rw [OrderedDict.lookup_of_dropOldest found]
  rfl

/-- A refused request changes neither how often a message was accepted nor whether it came in time,
unless it is the first one in time. -/
theorem once_refused {served : List Served} {fault : Fault}
    (once : executions link served message = if served.any (inTime link message) then 1 else 0)
    (later : inTime link message ⟨request, .error fault⟩ = true →
      served.any (inTime link message) = true) :
    executions link (⟨request, .error fault⟩ :: served) message =
      if (⟨request, .error fault⟩ :: served : List Served).any (inTime link message) then 1
      else 0 := by
  have same : (⟨request, .error fault⟩ :: served : List Served).any (inTime link message) =
      served.any (inTime link message) := by
    rw [List.any_cons]
    cases timely : inTime link message ⟨request, .error fault⟩ with
    | false => rfl
    | true => rw [later timely]; rfl
  rw [same, ← once]
  apply List.countP_cons_of_neg
  intro executed
  cases (executes_iff.mp executed).1

/-- An accepted request counts for the message it carries, which came in time for the first time,
and for no other. -/
theorem once_accepted {served : List Served} {original : Message}
    (carries : Carries link original request) (near : Near link original request)
    (once : executions link served message = if served.any (inTime link message) then 1 else 0)
    (first : served.any (inTime link original) = false)
    (unique : Carries link message request → message = original) :
    executions link (⟨request, .ok ()⟩ :: served) message =
      if (⟨request, .ok ()⟩ :: served : List Served).any (inTime link message) then 1 else 0 := by
  by_cases same : message = original
  · have timely : inTime link message ⟨request, .ok ()⟩ = true := by
      rw [same]
      exact inTime_iff.mpr ⟨carries, near⟩
    have executed : executes link message ⟨request, .ok ()⟩ = true := by
      rw [same]
      exact executes_iff.mpr ⟨rfl, carries⟩
    rw [← same] at first
    rw [first, if_neg Bool.false_ne_true] at once
    rw [List.any_cons, timely, Bool.true_or, if_pos rfl]
    unfold executions at once ⊢
    rw [List.countP_cons_of_pos executed, once]
  · have untimely : inTime link message ⟨request, .ok ()⟩ = false := by
      rw [Bool.eq_false_iff, ne_eq, inTime_iff]
      exact fun both => same (unique both.1)
    rw [List.any_cons, untimely, Bool.false_or, ← once]
    apply List.countP_cons_of_neg
    intro executed
    exact same (unique (executes_iff.mp executed).2)

/-- An accepted request has its nonce cached for two windows. -/
theorem Kept.lookup_purge (kept : Kept link sent agent) (forward : agent.clock ≤ request.now)
    (inside : item ∈ agent.served) (accepted : item.outcome = .ok ())
    (recent : request.now ≤ item.request.now + link.auth.windowSeconds * 2) :
    (agent.cache.purge request.now).entries.lookup item.request.nonce =
      some item.request.now := by
  apply Agent.lookup_purge (kept.cached item inside accepted (forward.trans recent))
  rw [kept.ttl, Nat.cast_mul]
  exact recent

/-- With a new request everything served was served before it. -/
theorem Kept.past_cons (kept : Kept link sent agent) (forward : agent.clock ≤ request.now)
    (outcome : Except Fault Unit) :
    ∀ item ∈ (⟨request, outcome⟩ : Served) :: agent.served, item.request.now ≤ request.now := by
  intro item inside
  rcases List.mem_cons.mp inside with rfl | before
  · exact le_refl _
  · exact (kept.past item before).trans forward

/-- With a new request whose signature is known, that of everything served is. -/
theorem Kept.signed_cons (kept : Kept link sent agent) (known : Known link sent request)
    (outcome : Except Fault Unit) :
    ∀ item ∈ (⟨request, outcome⟩ : Served) :: agent.served, Known link sent item.request := by
  intro item inside
  rcases List.mem_cons.mp inside with rfl | before
  · exact known
  · exact kept.signed item before

/-- Refusing a request keeps what is known, where the cache forgets nothing of the last two windows.
-/
theorem Kept.refused {cache : NonceCache} {fault : Fault} (kept : Kept link sent agent)
    (forward : agent.clock ≤ request.now) (known : Known link sent request)
    (ttl : cache.ttlSeconds = agent.cache.ttlSeconds)
    (less : ∀ nonce, cache.contains nonce = true → agent.cache.contains nonce = true)
    (cached : ∀ item ∈ agent.served, item.outcome = .ok () →
      request.now ≤ item.request.now + link.auth.windowSeconds * 2 →
      cache.entries.lookup item.request.nonce = some item.request.now)
    (later : ∀ message ∈ sent, inTime link message ⟨request, .error fault⟩ = true →
      agent.served.any (inTime link message) = true) :
    Kept link sent ⟨cache, request.now, ⟨request, .error fault⟩ :: agent.served⟩ := by
  have before : ∀ item ∈ (⟨request, .error fault⟩ : Served) :: agent.served,
      item.outcome = .ok () → item ∈ agent.served := by
    intro item inside accepted
    rcases List.mem_cons.mp inside with rfl | before
    · cases accepted
    · exact before
  constructor
  · exact ttl.trans kept.ttl
  · exact kept.past_cons forward _
  · exact kept.fresh
  · exact kept.signed_cons known _
  · intro item inside accepted
    exact kept.accepted item (before item inside accepted) accepted
  · intro nonce there
    obtain ⟨item, inside, accepted⟩ := kept.claimed nonce (less nonce there)
    exact ⟨item, List.mem_cons_of_mem _ inside, accepted⟩
  · intro item inside accepted recent
    exact cached item (before item inside accepted) accepted recent
  · intro message there
    exact once_refused (kept.once message there) (later message there)

/-- A message whose nonce is not cached has not come in time before. -/
theorem Kept.first (kept : Kept link sent agent) (forward : agent.clock ≤ request.now)
    (origin : message ∈ sent) (carries : Carries link message request)
    (near : Near link message request)
    (absent : request.nonce ∉ (agent.cache.purge request.now).entries) :
    agent.served.any (inTime link message) = false := by
  by_contra came
  have counted := kept.once message origin
  rw [Bool.not_eq_false] at came
  rw [came, if_pos rfl] at counted
  have some : 0 < executions link agent.served message := by omega
  obtain ⟨item, inside, executed⟩ := List.countP_pos_iff.mp some
  obtain ⟨done, carried⟩ := executes_iff.mp executed
  obtain ⟨other, there, carried', near'⟩ := kept.accepted item inside done
  have same : other = message :=
    kept.eq_of_nonce there origin (carried'.nonce.symm.trans carried.nonce)
  rw [same] at near'
  have recent : request.now ≤ item.request.now + link.auth.windowSeconds * 2 := by
    have late := (abs_le.mp near).2
    have early := (abs_le.mp near').1
    linarith
  have found := kept.lookup_purge forward inside done recent
  rw [carried.nonce, ← carries.nonce] at found
  exact absent (AList.lookup_isSome.mp (by rw [found]; rfl))

/-- Accepting a request keeps what is known. -/
theorem Kept.accept {cache : NonceCache} {original : Message} (kept : Kept link sent agent)
    (forward : agent.clock ≤ request.now) (known : Known link sent request)
    (origin : original ∈ sent) (carries : Carries link original request)
    (near : Near link original request)
    (absent : request.nonce ∉ (agent.cache.purge request.now).entries)
    (ttl : cache.ttlSeconds = agent.cache.ttlSeconds)
    (entries : cache.entries =
      (agent.cache.purge request.now).entries.insert request.nonce request.now) :
    Kept link sent ⟨cache, request.now, ⟨request, .ok ()⟩ :: agent.served⟩ := by
  constructor
  · exact ttl.trans kept.ttl
  · exact kept.past_cons forward _
  · exact kept.fresh
  · exact kept.signed_cons known _
  · intro item inside done
    rcases List.mem_cons.mp inside with rfl | before
    · exact ⟨original, origin, carries, near⟩
    · exact kept.accepted item before done
  · intro nonce there
    by_cases same : nonce = request.nonce
    · exact ⟨_, List.mem_cons_self, rfl, same.symm⟩
    · have left : (agent.cache.purge request.now).contains nonce = true := by
        unfold NonceCache.contains at there ⊢
        rw [entries, AList.lookup_insert_ne same] at there
        exact there
      obtain ⟨item, inside, done⟩ := kept.claimed nonce (contains_of_purge left)
      exact ⟨item, List.mem_cons_of_mem _ inside, done⟩
  · intro item inside done recent
    show cache.entries.lookup item.request.nonce = some item.request.now
    rw [entries]
    rcases List.mem_cons.mp inside with rfl | before
    · exact AList.lookup_insert _
    · have found := kept.lookup_purge forward before done recent
      have differ : item.request.nonce ≠ request.nonce := by
        intro same
        rw [same] at found
        exact absent (AList.lookup_isSome.mp (by rw [found]; rfl))
      rw [AList.lookup_insert_ne differ]
      exact found
  · intro message there
    apply once_accepted carries near (kept.once message there)
      (kept.first forward origin carries near absent)
    intro carried
    exact kept.eq_of_nonce there origin (carried.nonce.symm.trans carries.nonce)

/-- Serving a request keeps what is known of messages and the agent. -/
theorem Kept.arrive (kept : Kept link sent agent) (known : Known link sent request)
    (room : link.auth.reachesClaim link.digests agent.cache request = true →
      (agent.cache.purge request.now).size < agent.cache.maxSize)
    (stepped : (verifier link.digests link.auth link.nonceCacheSize).step agent request =
      some later) : Kept link sent later := by
  obtain ⟨forward, rfl⟩ := Agent.verifier_step stepped
  rcases @RequestAuthenticator.verify_cases link.digests link.auth agent.cache request with
    ⟨fault, refused, verdict⟩ | ⟨used, verdict⟩ | ⟨passed, verdict⟩
  · rw [verdict]
    apply kept.refused forward known rfl
    · exact fun _ there => there
    · exact fun item inside accepted recent =>
        kept.cached item inside accepted (forward.trans recent)
    · intro message _ timely
      obtain ⟨carries, near⟩ := inTime_iff.mp timely
      rw [checks_of_carries carries near] at refused
      cases refused
  · rw [verdict]
    apply kept.refused forward known
    · rfl
    · exact fun _ there => contains_of_purge there
    · exact fun item inside accepted recent =>
        kept.lookup_purge forward inside accepted recent
    · intro message there timely
      -- The nonce is cached because this message was accepted before.
      obtain ⟨carries, -⟩ := inTime_iff.mp timely
      obtain ⟨first, inside, taken, same⟩ := kept.claimed _ (contains_of_purge used)
      obtain ⟨original, origin, carried, near⟩ := kept.accepted first inside taken
      have nonces : original.stamp.nonce = message.stamp.nonce := by
        rw [← carried.nonce, ← carries.nonce]
        exact same
      rw [← kept.eq_of_nonce origin there nonces]
      exact List.any_eq_true.mpr ⟨first, inside, inTime_iff.mpr ⟨carried, near⟩⟩
  · have accepted : (link.auth.verify link.digests agent.cache request).1 = .ok () := by
      rw [verdict]
    obtain ⟨original, origin, text, body⟩ := known passed.signed
    obtain ⟨carries, near⟩ := carries_of_accepted accepted text body
    have absent : request.nonce ∉ (agent.cache.purge request.now).entries := by
      intro there
      have used := passed.unused
      unfold NonceCache.contains at used
      rw [AList.lookup_isSome.mpr there] at used
      cases used
    rw [verdict]
    apply kept.accept forward known origin carries near absent
    · rfl
    · apply OrderedDict.newest_of_length
      rw [AList.entries_insert_of_notMem absent, List.length_cons]
      exact room (RequestAuthenticator.reachesClaim_of_accepted accepted)

/-- No request that was served carries a message with a new token. -/
theorem Kept.not_carries (kept : Kept link sent agent)
    (new : ∀ message ∈ sent, message.stamp.nonce ≠ stamp.nonce) {call : Call}
    (inside : item ∈ agent.served) : ¬ Carries link ⟨index, call, stamp⟩ item.request := by
  intro carries
  have signed : item.request.signature = link.auth.expected link.digests item.request :=
    carries.signature.trans carries.expected.symm
  obtain ⟨message, there, text, body⟩ := kept.signed item inside signed
  have carried := carries_of_text carries.keyId carries.float signed text body
  exact new message there (carried.nonce.symm.trans carries.nonce)

/-- Signing a message with a new token keeps what is known. -/
theorem Kept.send (kept : Kept link sent agent)
    (new : ∀ message ∈ sent, message.stamp.nonce ≠ stamp.nonce) (call : Call) :
    Kept link (⟨index, call, stamp⟩ :: sent) agent := by
  have unseen : ∀ item ∈ agent.served, ¬ Carries link ⟨index, call, stamp⟩ item.request :=
    fun item inside => kept.not_carries new inside
  constructor
  · exact kept.ttl
  · exact kept.past
  · rw [List.map_cons, List.nodup_cons]
    constructor
    · intro used
      obtain ⟨message, there, same⟩ := List.mem_map.mp used
      exact new message there same
    · exact kept.fresh
  · intro item inside signed
    obtain ⟨message, there, text⟩ := kept.signed item inside signed
    exact ⟨message, List.mem_cons_of_mem _ there, text⟩
  · intro item inside accepted
    obtain ⟨message, there, carries⟩ := kept.accepted item inside accepted
    exact ⟨message, List.mem_cons_of_mem _ there, carries⟩
  · exact kept.claimed
  · exact kept.cached
  · intro message there
    rcases List.mem_cons.mp there with rfl | before
    · have untimely : agent.served.any (inTime link ⟨index, call, stamp⟩) = false := by
        apply List.any_eq_false.mpr
        intro item inside timely
        exact unseen item inside (inTime_iff.mp timely).1
      rw [untimely]
      apply List.countP_eq_zero.mpr
      intro item inside executed
      exact unseen item inside (executes_iff.mp executed).2
    · exact kept.once message before

/-! ## Calls and their messages -/

/-- How many messages a call has signed. -/
def tries (sent : List Message) (index : Nat) : Nat :=
  sent.countP fun message => message.owner == index

/-- What holds of a call and the messages it has signed. -/
structure Traced (link : Link) (sent : List Message) (served : List Served) (index : Nat)
    (record : Record) : Prop where
  tries : tries sent index ≤ attempts link.config record.call.retryable
  awaiting : ∀ attempt message, record.standing = .awaiting attempt message →
    message ∈ sent ∧ message.owner = index ∧ Clients.tries sent index = attempt + 1
  answered : ∀ message verdict, record.standing = .answered message verdict →
    message ∈ sent ∧ message.owner = index ∧
      ∃ item ∈ served, Carries link message item.request ∧ item.outcome = verdict

/-- What holds between a dashboard and an agent. -/
structure Orderly (link : Link) (state : Exchange) : Prop where
  kept : Kept link state.sent state.agent
  owned : ∀ message ∈ state.sent, message.owner < state.calls.length
  traced : ∀ index record, state.calls[index]? = some record →
    Traced link state.sent state.agent.served index record

/-- Other messages and more served requests keep what is known of a call. -/
theorem Traced.mono {others : List Message} {served more : List Served} {record : Record}
    (traced : Traced link sent served index record) (less : ∀ message ∈ sent, message ∈ others)
    (same : Clients.tries others index = Clients.tries sent index)
    (longer : ∀ item ∈ served, item ∈ more) : Traced link others more index record := by
  constructor
  · rw [same]
    exact traced.tries
  · intro attempt message awaiting
    obtain ⟨there, owner, counted⟩ := traced.awaiting attempt message awaiting
    exact ⟨less message there, owner, same.trans counted⟩
  · intro message verdict answered
    obtain ⟨there, owner, item, inside, carries⟩ := traced.answered message verdict answered
    exact ⟨less message there, owner, item, longer item inside, carries⟩

/-- What a position of a changed list holds. -/
theorem getElem?_set_cases {records : List Record} {place : Nat} {record new : Record}
    (found : (records.set index new)[place]? = some record) :
    place = index ∧ record = new ∨ place ≠ index ∧ records[place]? = some record := by
  rw [List.getElem?_set] at found
  by_cases same : index = place
  · rw [if_pos same] at found
    split at found
    · exact .inl ⟨same.symm, (Option.some.inj found).symm⟩
    · cases found
  · rw [if_neg same] at found
    exact .inr ⟨Ne.symm same, found⟩

/-- A call ends, with an answer that the agent has given to its message. -/
theorem Orderly.conclude {record : Record} {standing : Standing} (orderly : Orderly link state)
    (here : state.calls[index]? = some record)
    (waits : ∀ attempt message, standing ≠ .awaiting attempt message)
    (answered : ∀ message verdict, standing = .answered message verdict →
      message ∈ state.sent ∧ message.owner = index ∧
        ∃ item ∈ state.agent.served, Carries link message item.request ∧ item.outcome = verdict) :
    Orderly link (state.conclude index record.call standing) := by
  constructor
  · exact orderly.kept
  · intro message there
    show message.owner < (state.calls.set index _).length
    rw [List.length_set]
    exact orderly.owned message there
  · intro place other found
    rcases getElem?_set_cases found with ⟨rfl, rfl⟩ | ⟨-, before⟩
    · constructor
      · exact (orderly.traced _ _ here).tries
      · intro attempt message awaits
        exact absurd awaits (waits attempt message)
      · exact answered
    · exact orderly.traced place other before

/-- A call that has attempts left signs one more message. -/
theorem Orderly.send {call : Call} {attempt : Nat} (orderly : Orderly link state)
    (here : index < state.calls.length)
    (counted : Clients.tries state.sent index = attempt)
    (more : attempt < attempts link.config call.retryable)
    (new : ∀ message ∈ state.sent, message.stamp.nonce ≠ stamp.nonce) :
    Orderly link (state.send index call attempt stamp) := by
  have own : Clients.tries (state.send index call attempt stamp).sent index = attempt + 1 := by
    rw [← counted]
    exact List.countP_cons_of_pos (beq_self_eq_true index)
  constructor
  · exact orderly.kept.send new call
  · intro message there
    show message.owner < (state.calls.set index _).length
    rw [List.length_set]
    rcases List.mem_cons.mp there with rfl | before
    · exact here
    · exact orderly.owned message before
  · intro place record found
    rcases getElem?_set_cases found with ⟨rfl, rfl⟩ | ⟨differ, before⟩
    · constructor
      · rw [own]
        exact more
      · intro other message awaits
        obtain ⟨rfl, rfl⟩ := Standing.awaiting.inj awaits
        exact ⟨List.mem_cons_self, rfl, own⟩
      · intro message verdict answered
        cases answered
    · apply (orderly.traced place record before).mono
      · exact fun _ there => List.mem_cons_of_mem _ there
      · apply List.countP_cons_of_neg
        intro same
        exact differ (beq_iff_eq.mp same).symm
      · exact fun _ inside => inside

/-- A call is made, with nothing signed for it yet. -/
theorem Orderly.made (orderly : Orderly link state) (call : Call) :
    Orderly link { state with calls := state.calls ++ [⟨call, .unavailable⟩] } ∧
      Clients.tries state.sent state.calls.length = 0 := by
  have none : Clients.tries state.sent state.calls.length = 0 := by
    apply List.countP_eq_zero.mpr
    intro message there same
    have owned := orderly.owned message there
    rw [beq_iff_eq.mp same] at owned
    exact lt_irrefl _ owned
  refine ⟨⟨orderly.kept, ?_, ?_⟩, none⟩
  · intro message there
    have owned := orderly.owned message there
    rw [List.length_append]
    omega
  · intro place record found
    by_cases old : place < state.calls.length
    · rw [List.getElem?_append_left old] at found
      exact orderly.traced place record found
    · rw [List.getElem?_append_right (not_lt.mp old)] at found
      have last : place = state.calls.length := by
        have bound := (List.getElem?_eq_some_iff.mp found).1
        rw [List.length_singleton] at bound
        omega
      subst last
      rw [Nat.sub_self] at found
      obtain rfl := Option.some.inj found
      constructor
      · exact none.le.trans (Nat.zero_le _)
      · intro attempt message awaits
        cases awaits
      · intro message verdict answered
        cases answered

/-- An unused stamp has a nonce that no message has. -/
theorem new_of_unused (new : unused state stamp = true) :
    ∀ message ∈ state.sent, message.stamp.nonce ≠ stamp.nonce := by
  intro message there
  exact bne_iff_ne.mp (List.all_eq_true.mp new message there)

/-- Every event keeps a dashboard and an agent orderly. -/
theorem orderly_step {event : Event} (allowed : Sealed link state event)
    (stepped : (exchange link).step state event = some after) (orderly : Orderly link state) :
    Orderly link after := by
  have allowed : sealed link state event = true := allowed
  replace stepped : exchangeStep link state event = some after := stepped
  cases event with
  | request call stamp =>
    obtain ⟨made, none⟩ := orderly.made call
    unfold exchangeStep at stepped
    dsimp only at stepped
    split at stepped
    · rename_i some
      obtain rfl := Option.some.inj stepped
      apply made.send _ none some (new_of_unused allowed)
      rw [List.length_append]
      exact Nat.lt_succ_self _
    · obtain rfl := Option.some.inj stepped
      exact made
  | transportError index stamp =>
    unfold exchangeStep at stepped
    dsimp only at stepped
    split at stepped
    · rename_i call attempt message here
      obtain ⟨-, -, counted⟩ := (orderly.traced _ _ here).awaiting attempt message rfl
      split at stepped
      · rename_i more
        obtain rfl := Option.some.inj stepped
        have inside := (List.getElem?_eq_some_iff.mp here).1
        exact orderly.send inside counted more (new_of_unused allowed)
      · obtain rfl := Option.some.inj stepped
        apply orderly.conclude here
        · intro attempt message awaits
          cases awaits
        · intro message verdict answered
          cases answered
    · cases stepped
  | arrive request =>
    unfold exchangeStep at stepped
    dsimp only at stepped
    split at stepped
    · obtain rfl := Option.some.inj stepped
      exact orderly
    rename_i other
    obtain ⟨agent, served, rfl⟩ := Option.map_eq_some_iff.mp stepped
    unfold sealed at allowed
    rw [Bool.or_eq_true, beq_iff_eq, or_iff_right other, Bool.and_eq_true, Bool.or_eq_true,
      Bool.or_eq_true, bne_iff_ne, decide_eq_true_eq, Bool.not_eq_true'] at allowed
    have known : Known link state.sent request := by
      intro signed
      obtain ⟨message, there, same⟩ :=
        List.any_eq_true.mp (allowed.1.resolve_left (not_not_intro signed))
      rw [Bool.and_eq_true, beq_iff_eq, beq_iff_eq] at same
      exact ⟨message, there, same⟩
    constructor
    · apply orderly.kept.arrive known _ served
      intro claims
      exact allowed.2.resolve_left (Bool.eq_false_iff.not_left.mpr claims)
    · exact orderly.owned
    · intro place record found
      apply (orderly.traced place record found).mono (fun _ there => there) rfl
      obtain ⟨-, rfl⟩ := Agent.verifier_step served
      exact fun _ inside => List.mem_cons_of_mem _ inside
  | respond index position =>
    unfold exchangeStep at stepped
    dsimp only at stepped
    split at stepped
    · rename_i call attempt message item here inside
      obtain ⟨there, owner, -⟩ := (orderly.traced _ _ here).awaiting attempt message rfl
      split at stepped
      · rename_i carries
        obtain rfl := Option.some.inj stepped
        apply orderly.conclude here
        · intro attempt message awaits
          cases awaits
        · intro message verdict answered
          obtain ⟨rfl, rfl⟩ := Standing.answered.inj answered
          exact ⟨there, owner, item, List.mem_of_getElem? inside, carries, rfl⟩
      · cases stepped
    · cases stepped

/-- In every sealed run the exchange is orderly. -/
theorem orderly_of_sealed (reached : (exchange link).Reachable (Sealed link) state) :
    Orderly link state := by
  apply reached.invariant_alone
  constructor
  · rintro _ ⟨clock, rfl⟩
    constructor
    · constructor
      · rfl
      · exact fun _ inside => absurd inside List.not_mem_nil
      · exact List.nodup_nil
      · exact fun _ inside => absurd inside List.not_mem_nil
      · exact fun _ inside => absurd inside List.not_mem_nil
      · intro nonce there
        cases there
      · exact fun _ inside => absurd inside List.not_mem_nil
      · exact fun _ inside => absurd inside List.not_mem_nil
    · exact fun _ inside => absurd inside List.not_mem_nil
    · intro index record found
      cases found
  · intro _ _ _ _ orderly allowed stepped
    exact orderly_step allowed stepped orderly

/-! ## An agent that answers and a network that repeats -/

/-- Signatures of requests without a body, by what precedes its digest in their texts. -/
def cannedSignatures : List (String × String) :=
  [
    ("GET|/storage/status|1700000000|00112233445566778899aabbccddeeff|",
      "e8e7a191abed4930e485e19980bd0c961ce8b1e97206f10bd5202d040f5a89fa"),
    ("GET|/storage/status|1700000001|ffeeddccbbaa99887766554433221100|",
      "88376c65b35eab081dd57b17fd197054c297412c8060cf4da9004ab7e02093cf"),
    ("POST|/task/4f6b0d3f-7a2c-4e64-8a9b-1d2e3f405162/cancel|1700000000|" ++
        "0f1e2d3c4b5a69788796a5b4c3d2e1f0|",
      "a1bb938cfb79819bd172218de5f0ce12887125a1422e0dd818e93145dc3c905a")]

/-- The sample signatures are written in hexadecimal digits. -/
theorem isHex_cannedSignatures :
    cannedSignatures.all (fun entry => entry.2.toList.all Agent.isHex) = true := by decide +kernel

/-- The known signature of a text. -/
def cannedSignature (text : String) : String :=
  ((cannedSignatures.find? fun entry => text == entry.1 ++ Agent.emptyDigest).map (·.2)).getD "0"

/-- The digest of nothing is written in hexadecimal digits. -/
theorem isHex_emptyDigest : ∀ char ∈ Agent.emptyDigest.toList, Agent.isHex char = true :=
  List.all_eq_true.mp (by decide +kernel)

/-- A sample signature is listed, or the default one. -/
theorem cannedSignature_cases (text : String) :
    cannedSignature text = "0" ∨ ∃ entry ∈ cannedSignatures, cannedSignature text = entry.2 := by
  unfold cannedSignature
  cases found : cannedSignatures.find? fun entry => text == entry.1 ++ Agent.emptyDigest with
  | none => exact .inl rfl
  | some entry => exact .inr ⟨entry, List.mem_of_find?_eq_some found, rfl⟩

/-- A sample signature is written in hexadecimal digits. -/
theorem isHex_cannedSignature (text : String) :
    ∀ char ∈ (cannedSignature text).toList, Agent.isHex char = true := by
  apply List.all_eq_true.mp
  rcases cannedSignature_cases text with unknown | ⟨entry, listed, same⟩
  · rw [unknown]
    rfl
  · rw [same]
    exact List.all_eq_true.mp isHex_cannedSignatures entry listed

/-- The digests of the texts of three requests. -/
def cannedDigests : Agent.Digests where
  sha256 _ := Agent.emptyDigest
  hmac _ text := cannedSignature text
  sha256_hex _ := isHex_emptyDigest
  hmac_hex _ text := isHex_cannedSignature text

/-- No sample signature is empty. -/
theorem cannedDigests_some (secret text : String) : cannedDigests.hmac secret text ≠ "" := by
  have some : cannedSignatures.all (fun entry => entry.2 != "") = true := by decide +kernel
  show cannedSignature text ≠ ""
  rcases cannedSignature_cases text with unknown | ⟨entry, listed, same⟩
  · rw [unknown]
    decide
  · rw [same]
    exact bne_iff_ne.mp (List.all_eq_true.mp some entry listed)

/-- A dashboard and an agent with a window of a minute; no call here has parameters. -/
def minuteLink : Link where
  digests := cannedDigests
  hmac_some := cannedDigests_some
  queryParams := ⟨fun _ => "", fun _ => rfl⟩
  config := ⟨3, 30, 2⟩
  auth := ⟨"proxsync-dashboard", "0123456789abcdef0123456789abcdef", 60, by decide⟩
  nonceCacheSize := 8192
  keyId_some := by decide
  keyId_ascii := by decide

/-- A call for the state of the storage. -/
def statusCall : Call := ⟨.get, "/storage/status", [], none, "", by decide, by decide⟩

/-- A call that cancels a task. -/
def cancelCall : Call :=
  ⟨.post, "/task/4f6b0d3f-7a2c-4e64-8a9b-1d2e3f405162/cancel", [], none, "", by decide, by decide⟩

/-- The message of the first attempt of a call. -/
def firstMessage : Message :=
  ⟨0, statusCall, 1700000000, "00112233445566778899aabbccddeeff", by decide, by decide⟩

/-- The message of the second attempt. -/
def secondMessage : Message :=
  ⟨0, statusCall, 1700000001, "ffeeddccbbaa99887766554433221100", by decide, by decide⟩

/-- The message that cancels the task. -/
def cancelMessage : Message :=
  ⟨0, cancelCall, 1700000000, "0f1e2d3c4b5a69788796a5b4c3d2e1f0", by decide, by decide⟩

/-- An exchange in which nothing was sent is an initial state. -/
theorem init_exchange : (exchange minuteLink).init
    ⟨[], [], .empty 120 8192, 1700000000, []⟩ := ⟨1700000000, rfl⟩

/-- A read whose first answer is lost is tried again, and a copy of its first message is refused. -/
def repeatedRead : List Event :=
  [.request statusCall firstMessage.stamp, .arrive (firstMessage.received minuteLink [] 1700000002),
    .transportError 0 secondMessage.stamp,
    .arrive (firstMessage.received minuteLink [] 1700000003),
    .arrive (secondMessage.received minuteLink [] 1700000004), .respond 0 0]

/-- A cancellation that arrives twice. -/
def repeatedCancel : List Event :=
  [.request cancelCall cancelMessage.stamp,
    .arrive (cancelMessage.received minuteLink [] 1700000002),
    .arrive (cancelMessage.received minuteLink [] 1700000003), .respond 0 1]

/-- Whether the first call was answered with an acceptance. -/
def firstAccepted (state : Exchange) : Bool :=
  match state.calls with
  | ⟨_, .answered _ (.ok _)⟩ :: _ => true
  | _ => false

/-- The first call was answered where its message was accepted. -/
theorem standing_of_firstAccepted (accepted : firstAccepted state = true) :
    ∃ record message, state.calls[0]? = some record ∧
      record.standing = .answered message (.ok ()) := by
  unfold firstAccepted at accepted
  split at accepted
  · rename_i call message done rest calls
    rw [calls]
    exact ⟨_, message, rfl, rfl⟩
  · cases accepted

/-! ## Messages are accepted once, calls are carried out once -/

/-- Each message is accepted exactly once if it has come in time, and never if it has not, whatever
was lost, repeated or forged. -/
theorem accepted_once (reached : (exchange link).Reachable (Sealed link) state)
    (signed : message ∈ state.sent) : executions link state.agent.served message =
      if state.agent.served.any (inTime link message) then 1 else 0 :=
  (orderly_of_sealed reached).kept.once message signed

/-- Both messages of the read are accepted once, although one of them arrived twice. -/
theorem accepted_once_repeated :
    ∃ state : Exchange, executions minuteLink state.agent.served firstMessage = 1 ∧
      executions minuteLink state.agent.served secondMessage = 1 ∧
      state.agent.served.length = 3 := by
  obtain ⟨state, reached, shown⟩ : ∃ state,
      (exchange minuteLink).Reachable (Sealed minuteLink) state ∧
        (state.sent.contains firstMessage && state.sent.contains secondMessage &&
          state.agent.served.any (inTime minuteLink firstMessage) &&
          state.agent.served.any (inTime minuteLink secondMessage) &&
          state.agent.served.length == 3) = true := by
    apply System.exists_of_runFrom init_exchange repeatedRead
    decide +kernel
  simp only [Bool.and_eq_true, List.contains_iff_mem, beq_iff_eq] at shown
  obtain ⟨⟨⟨⟨first, second⟩, came⟩, came'⟩, length⟩ := shown
  have once := accepted_once reached first
  have once' := accepted_once reached second
  rw [came, if_pos rfl] at once
  rw [came', if_pos rfl] at once'
  exact ⟨state, once, once', length⟩

/-- What is counted for one of several tests that each count at most once. -/
theorem countP_any_le {α β : Type} (test : β → α → Bool) (items : List α) (keys : List β)
    (once : ∀ key ∈ keys, items.countP (test key) ≤ 1) :
    items.countP (fun item => keys.any fun key => test key item) ≤ keys.length := by
  induction keys with
  | nil => simp
  | cons first rest ih =>
    have split : ∀ items : List α, items.countP (fun item => (first :: rest).any (test · item)) ≤
        items.countP (test first) + items.countP (fun item => rest.any (test · item)) := by
      intro items
      induction items with
      | nil => exact Nat.zero_le _
      | cons item items ih =>
        simp only [List.countP_cons, List.any_cons] at ih ⊢
        cases test first item <;> cases rest.any (test · item) <;> simp <;> omega
    have head := once first List.mem_cons_self
    have tail := ih fun key inside => once key (List.mem_cons_of_mem _ inside)
    have whole := split items
    rw [List.length_cons]
    omega

/-- A call is carried out at most once for each message it has signed. -/
theorem Orderly.carriedOut_le (orderly : Orderly link state) :
    carriedOut link state index ≤ Clients.tries state.sent index := by
  have own : carriedOut link state index = state.agent.served.countP fun item =>
      (state.sent.filter fun message => message.owner == index).any fun message =>
        executes link message item := by
    unfold carriedOut
    simp only [List.any_filter]
  have counted : Clients.tries state.sent index =
      (state.sent.filter fun message => message.owner == index).length :=
    List.countP_eq_length_filter
  rw [own, counted]
  apply countP_any_le
  intro message there
  have counted := orderly.kept.once message (List.mem_of_mem_filter there)
  unfold executions at counted
  rw [counted]
  split <;> omega

/-- A call one of whose messages was carried out was carried out. -/
theorem carriedOut_pos (there : message ∈ state.sent) (owner : message.owner = index)
    (executed : 0 < executions link state.agent.served message) :
    0 < carriedOut link state index := by
  obtain ⟨item, inside, once⟩ := List.countP_pos_iff.mp executed
  apply List.countP_pos_iff.mpr
  refine ⟨item, inside, List.any_eq_true.mpr ⟨message, there, ?_⟩⟩
  rw [Bool.and_eq_true, beq_iff_eq]
  exact ⟨owner, once⟩

/-- A call is carried out at most as often as it may be tried, which is once unless it only reads.
It was carried out if the agent's answer accepts it, and also if the answer refuses a message that
has come in time, which is then a copy that another one came before. -/
theorem carried_out {record : Record} (reached : (exchange link).Reachable (Sealed link) state)
    (made : state.calls[index]? = some record) :
    carriedOut link state index ≤ attempts link.config record.call.retryable ∧
      (∀ message, record.standing = .answered message (.ok ()) →
        0 < carriedOut link state index) ∧
      ∀ message fault, record.standing = .answered message (.error fault) →
        state.agent.served.any (inTime link message) = true →
        0 < carriedOut link state index := by
  have orderly := orderly_of_sealed reached
  have traced := orderly.traced index record made
  refine ⟨orderly.carriedOut_le.trans traced.tries, ?_, ?_⟩
  · intro message answered
    obtain ⟨there, owner, item, inside, carries, accepted⟩ := traced.answered message _ answered
    apply carriedOut_pos there owner
    exact List.countP_pos_iff.mpr ⟨item, inside, executes_iff.mpr ⟨accepted, carries⟩⟩
  · intro message fault answered came
    obtain ⟨there, owner, -⟩ := traced.answered message _ answered
    apply carriedOut_pos there owner
    rw [orderly.kept.once message there, if_pos came]
    exact Nat.one_pos

/-- The cancellation that arrived twice was carried out once. -/
theorem carried_out_repeated :
    ∃ state : Exchange, carriedOut minuteLink state 0 = 1 ∧ state.agent.served.length = 2 := by
  obtain ⟨state, reached, shown⟩ : ∃ state,
      (exchange minuteLink).Reachable (Sealed minuteLink) state ∧
        (firstAccepted state && state.agent.served.length == 2 &&
          state.calls.all fun record => !record.call.retryable) = true := by
    apply System.exists_of_runFrom init_exchange repeatedCancel
    decide +kernel
  simp only [Bool.and_eq_true, beq_iff_eq, List.all_eq_true, Bool.not_eq_true'] at shown
  obtain ⟨⟨accepted, length⟩, single⟩ := shown
  obtain ⟨record, message, made, answered⟩ := standing_of_firstAccepted accepted
  obtain ⟨most, least, -⟩ := carried_out reached made
  rw [single record (List.mem_of_getElem? made)] at most
  exact ⟨state, le_antisymm most (least message answered), length⟩

end ProxSync.Clients
